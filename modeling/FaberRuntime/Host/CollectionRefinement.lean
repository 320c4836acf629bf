import FaberRuntime.Host.CollectionMap

namespace FaberRuntime.Host

/-! The same calls on mathematical maps and sets. A key is the content of a text or the value
itself; maps keep the order in which their keys came first. -/

inductive Key
  | text (bytes : List UInt8)
  | value (value : RuntimeValue)
  deriving DecidableEq

def keyOf (text : Texts) (kind : ValueKind) (value : RuntimeValue) : Option Key :=
  if kind ≠ .text then some (.value value)
  else
    match value with
    | .ptr pointer => (text pointer).map .text
    | _ => none

def readKey (text : Texts) (kind : ValueKind) (cell : Cell) : Option Key :=
  (readValue kind cell).bind (keyOf text kind)

structure SpecMap where
  keyKind : ValueKind
  valueKind : ValueKind
  entries : OrderedMap Key RuntimeValue

structure SpecSet where
  kind : ValueKind
  members : Finset Key

/-- The maps and sets a run has made, by the position of their handles. -/
structure Spec where
  maps : List SpecMap
  sets : List SpecSet

inductive SpecAnswer
  | failed
  | done
  | silent
  | flag (value : Bool)
  | count (value : Nat)
  | value (value : RuntimeValue)
  | option (kind : ValueKind) (value : Option RuntimeValue)
  | keys (kind : ValueKind) (keys : List Key)
  | values (kind : ValueKind) (values : List (Option RuntimeValue))
  | members (kind : ValueKind) (members : Finset Key)
  | array
  | map (index : Nat)
  | set (index : Nat)

namespace Spec

def new : Spec := ⟨[], []⟩

variable (spec : Spec) (text : Texts)

def findMap : Pointer → Option SpecMap
  | .box .maps index => spec.maps[index]?
  | _ => none

def findSet : Pointer → Option SpecSet
  | .box .sets index => spec.sets[index]?
  | _ => none

def setMap (handle : Pointer) (map : SpecMap) : Spec :=
  match handle with
  | .box .maps index => { spec with maps := spec.maps.set index map }
  | _ => spec

def setSet (handle : Pointer) (set : SpecSet) : Spec :=
  match handle with
  | .box .sets index => { spec with sets := spec.sets.set index set }
  | _ => spec

def storeMap (keyKind valueKind : ValueKind) : Spec × SpecAnswer :=
  ({ spec with maps := spec.maps ++ [⟨keyKind, valueKind, OrderedMap.empty⟩] },
    .map spec.maps.length)

def storeSet (kind : ValueKind) (members : Finset Key) : Spec × SpecAnswer :=
  ({ spec with sets := spec.sets ++ [⟨kind, members⟩] }, .set spec.sets.length)

def onKey (handle : Pointer) (keyKind : ValueKind) (key : Cell) (wanted : SpecMap → Bool)
    (call : SpecMap → Key → Spec × SpecAnswer) : Spec × SpecAnswer :=
  match readKey text keyKind key, spec.findMap handle with
  | some key, some map =>
      if map.keyKind = keyKind ∧ wanted map = true then call map key else (spec, .failed)
  | _, _ => (spec, .failed)

def onMember (handle : Pointer) (kind : ValueKind) (value : Cell) (wanted : Bool)
    (call : SpecSet → Key → Spec × SpecAnswer) : Spec × SpecAnswer :=
  match readKey text kind value, spec.findSet handle with
  | some key, some set =>
      if set.kind = kind ∧ wanted = true then call set key else (spec, .failed)
  | _, _ => (spec, .failed)

def onMap (handle : Pointer) (wanted : SpecMap → Bool) (answer : SpecMap → SpecAnswer) :
    Spec × SpecAnswer :=
  match spec.findMap handle with
  | some map => if wanted map = true then (spec, answer map) else (spec, .failed)
  | none => (spec, .failed)

def onSet (handle : Pointer) (wanted : SpecSet → Bool) (answer : SpecSet → SpecAnswer) :
    Spec × SpecAnswer :=
  match spec.findSet handle with
  | some set => if wanted set = true then (spec, answer set) else (spec, .failed)
  | none => (spec, .failed)

def onSets (left right : Pointer) (wanted : Bool)
    (call : ValueKind → Finset Key → Finset Key → Spec × SpecAnswer) : Spec × SpecAnswer :=
  match spec.findSet left, spec.findSet right with
  | some left, some right =>
      if left.kind = right.kind ∧ wanted = true then call left.kind left.members right.members
      else (spec, .failed)
  | _, _ => (spec, .failed)

def arrayKeys (array : RuntimeArray) : Finset Key :=
  (array.values.filterMap (keyOf text array.kind)).toFinset

def collection (arrays : Pointer → Option RuntimeArray) : CollectionCall → Spec × SpecAnswer
  | .arrayNew kind => (spec, if validKind kind then .array else .failed)
  | .arrayPush handle kind value =>
      match arrays handle, readValue kind value with
      | some array, some _ => (spec, if array.kind = kind then .done else .failed)
      | _, _ => (spec, .failed)
  | .mapNew keyKind valueKind =>
      if validKind keyKind && validKind valueKind then spec.storeMap keyKind valueKind
      else (spec, .failed)
  | .mapPut handle keyKind key valueKind value =>
      match readValue valueKind value with
      | none => (spec, .failed)
      | some value =>
          spec.onKey text handle keyKind key (fun map => decide (map.valueKind = valueKind))
            fun map key =>
              (spec.setMap handle { map with entries := map.entries.insert key value }, .done)
  | .aggregateSetIndexPtrI64 handle pointer value =>
      match text pointer, spec.findMap handle with
      | some bytes, some map =>
          if isUtf8 bytes ∧ map.keyKind = .text ∧ map.valueKind = .i64 then
            (spec.setMap handle
              { map with entries := map.entries.insert (.text bytes) (.i64 value) }, .silent)
          else (spec, .silent)
      | _, _ => (spec, .silent)
  | .mapOption handle keyKind key valueKind =>
      spec.onKey text handle keyKind key (fun map => decide (map.valueKind = valueKind))
        fun map key => (spec, .option valueKind (map.entries.find key))
  | .mapGet handle keyKind key valueKind output =>
      spec.onKey text handle keyKind key
        (fun map => decide (map.valueKind = valueKind) && output.one)
        fun map key =>
          match map.entries.find key with
          | none => (spec, .failed)
          | some value => (spec, if writeValue value output then .value value else .failed)
  | .mapContains handle keyKind key output =>
      spec.onKey text handle keyKind key (fun _ => output.one)
        fun map key => (spec, .flag (map.entries.find key).isSome)
  | .mapDelete handle keyKind key output =>
      spec.onKey text handle keyKind key (fun _ => output.one)
        fun map key =>
          (spec.setMap handle { map with entries := map.entries.erase key },
            .flag (map.entries.find key).isSome)
  | .mapLength handle output =>
      spec.onMap handle (fun map => decide (map.entries.order.length < 2 ^ 63) && output.one)
        fun map => .count map.entries.order.length
  | .mapIsEmpty handle output =>
      spec.onMap handle (fun _ => output.one) fun map => .flag map.entries.order.isEmpty
  | .mapKeys handle =>
      spec.onMap handle (fun _ => true) fun map => .keys map.keyKind map.entries.order
  | .mapValues handle =>
      spec.onMap handle (fun _ => true)
        fun map => .values map.valueKind (map.entries.order.map map.entries.find)
  | .setNew kind => if validKind kind then spec.storeSet kind ∅ else (spec, .failed)
  | .setAdd handle kind value =>
      spec.onMember text handle kind value true fun set key =>
        (spec.setSet handle { set with members := insert key set.members }, .done)
  | .setFromArray handle =>
      match arrays handle with
      | none => (spec, .failed)
      | some array => spec.storeSet array.kind (arrayKeys text array)
  | .arrayFromSet handle =>
      spec.onSet handle (fun _ => true) fun set => .members set.kind set.members
  | .setContains handle kind value output =>
      spec.onMember text handle kind value output.one fun set key =>
        (spec, .flag (decide (key ∈ set.members)))
  | .setDelete handle kind value output =>
      spec.onMember text handle kind value output.one fun set key =>
        (spec.setSet handle { set with members := set.members.erase key },
          .flag (decide (key ∈ set.members)))
  | .setLength handle output =>
      spec.onSet handle (fun set => decide (set.members.card < 2 ^ 63) && output.one)
        fun set => .count set.members.card
  | .setIsEmpty handle output =>
      spec.onSet handle (fun _ => output.one) fun set => .flag (decide (set.members = ∅))
  | .setUnion left right =>
      spec.onSets left right true fun kind left right => spec.storeSet kind (left ∪ right)
  | .setIntersection left right =>
      spec.onSets left right true fun kind left right => spec.storeSet kind (left ∩ right)
  | .setDifference left right =>
      spec.onSets left right true fun kind left right => spec.storeSet kind (left \ right)
  | .setSymmetricDifference left right =>
      spec.onSets left right true fun kind left right =>
        spec.storeSet kind ((left \ right) ∪ (right \ left))
  | .setIsSubset left right output =>
      spec.onSets left right output.one fun _ left right => (spec, .flag (decide (left ⊆ right)))
  | .setIsSuperset left right output =>
      spec.onSets left right output.one fun _ left right => (spec, .flag (decide (right ⊆ left)))

end Spec

/-- What the host answered is what the specification answered, handles standing for the contents
of their boxes. -/
def Answers (text : Texts) (runtime : RuntimeContext) (answer : Answer) : SpecAnswer → Prop
  | .failed => answer = .failed
  | .done => answer = .done
  | .silent => answer = .silent
  | .flag value => answer = .wrote (flag value)
  | .count value => ∃ written : Int64, answer = .wrote (.i64 written) ∧ written.toInt = value
  | .value value => answer = .wrote value
  | .option kind value => ∃ handle, answer = .made handle ∧
      runtime.findOption handle = some ⟨kind, value⟩
  | .keys kind keys => ∃ handle array, answer = .made handle ∧
      runtime.findArray handle = some array ∧
      array.kind = canonicalArrayElementKind kind ∧
      array.values.map (keyOf text kind) = keys.map some
  | .values kind values => ∃ handle array, answer = .made handle ∧
      runtime.findArray handle = some array ∧
      array.kind = canonicalArrayElementKind kind ∧ array.values.map some = values
  | .members kind members => ∃ handle array, answer = .made handle ∧
      runtime.findArray handle = some array ∧ array.kind = kind ∧
      (array.values.map (keyOf text kind)).Nodup ∧
      ∀ key, key ∈ members ↔ some key ∈ array.values.map (keyOf text kind)
  | .array => ∃ index, answer = .made (.box .arrays index)
  | .map index => answer = .made (.box .maps index)
  | .set index => answer = .made (.box .sets index)

def Exact (kind : ValueKind) : Prop := kind ≠ .f32 ∧ kind ≠ .f64

instance (kind : ValueKind) : Decidable (Exact kind) :=
  inferInstanceAs (Decidable (_ ∧ _))

theorem keyOf_plain (text : Texts) (kind : ValueKind) (value : RuntimeValue)
    (plain : kind ≠ .text) : keyOf text kind value = some (.value value) := by
  unfold keyOf
  exact if_pos plain

theorem keyOf_text (text : Texts) (pointer : Pointer) :
    keyOf text .text (.ptr pointer) = (text pointer).map .text := rfl

theorem valuesEqual_plain (text : Texts) (kind : ValueKind) (left right : RuntimeValue)
    (plain : kind ≠ .text) : valuesEqual text kind left right = left.eq right := by
  unfold valuesEqual
  exact if_pos plain

theorem valuesEqual_iff (text : Texts) (kind : ValueKind) (stored value : RuntimeValue) (key : Key)
    (exact_kind : Exact kind) (stored_of : stored.Of kind) (value_of : value.Of kind)
    (meant : keyOf text kind value = some key) :
    valuesEqual text kind stored value = true ↔ keyOf text kind stored = some key := by
  by_cases plain : kind ≠ .text
  · rw [keyOf_plain text kind value plain, Option.some_inj] at meant
    rw [valuesEqual_plain text kind stored value plain, keyOf_plain text kind stored plain,
      Option.some_inj, ← meant, Key.value.injEq]
    exact eq_iff kind stored value stored_of value_of exact_kind.1 exact_kind.2
  · rw [not_not] at plain
    subst plain
    cases value <;> simp only [RuntimeValue.Of] at value_of
    case ptr right =>
      cases stored <;> simp only [RuntimeValue.Of] at stored_of
      case ptr left =>
        rw [keyOf_text, Option.map_eq_some_iff] at meant
        rcases meant with ⟨bytes, held, rfl⟩
        simp only [valuesEqual, keyOf_text, ne_eq, not_true_eq_false, if_false, held]
        cases text left with
        | none => simp
        | some other => simp

structure MapRefines (text : Texts) (map : RuntimeMap) (spec : SpecMap) : Prop where
  key_kind : map.keyKind = spec.keyKind
  value_kind : map.valueKind = spec.valueKind
  exact_kind : Exact map.keyKind
  of : ∀ entry ∈ map.entries, entry.1.Of map.keyKind ∧ entry.2.Of map.valueKind
  entries : Entries (keyOf text map.keyKind) map.entries spec.entries

structure SetRefines (text : Texts) (set : RuntimeSet) (spec : SpecSet) : Prop where
  kind : set.kind = spec.kind
  exact_kind : Exact set.kind
  of : ∀ value ∈ set.values, value.Of set.kind
  members : Members (keyOf text set.kind) set.values spec.members

/-- Boxes of the two sides stand at the same positions; arrays hold what their kind demands. -/
structure Refines (text : Texts) (runtime : RuntimeContext) (spec : Spec) : Prop where
  maps : List.Forall₂ (MapRefines text) runtime.maps spec.maps
  sets : List.Forall₂ (SetRefines text) runtime.sets spec.sets
  arrays : ∀ array ∈ runtime.arrays, ∀ value ∈ array.values, value.Of array.kind

def Readable (text : Texts) (kind : ValueKind) (value : RuntimeValue) : Prop :=
  kind = .text → ∀ pointer, value = .ptr pointer → (text pointer).isSome = true

theorem keyOf_readable (text : Texts) (kind : ValueKind) (value : RuntimeValue)
    (value_of : value.Of kind) (readable : Readable text kind value) :
    ∃ key, keyOf text kind value = some key := by
  by_cases plain : kind ≠ .text
  · exact ⟨.value value, keyOf_plain text kind value plain⟩
  · rw [not_not] at plain
    subst plain
    cases value <;> simp only [RuntimeValue.Of] at value_of
    case ptr pointer =>
      rcases Option.isSome_iff_exists.mp (readable rfl pointer rfl) with ⟨bytes, held⟩
      exact ⟨.text bytes, by rw [keyOf_text, held, Option.map_some]⟩

theorem readKey_cases (text : Texts) (kind : ValueKind) (cell : Cell)
    (readable : ∀ value, readValue kind cell = some value → Readable text kind value) :
    (readValue kind cell = none ∧ readKey text kind cell = none) ∨
      ∃ value key, readValue kind cell = some value ∧ readKey text kind cell = some key ∧
        value.Of kind ∧ keyOf text kind value = some key := by
  cases read : readValue kind cell with
  | none => exact Or.inl ⟨rfl, by rw [readKey, read, Option.bind_none]⟩
  | some value =>
      have value_of := readValue_of kind cell value read
      rcases keyOf_readable text kind value value_of (readable value read) with ⟨key, meant⟩
      exact Or.inr ⟨value, key, rfl, by rw [readKey, read, Option.bind_some, meant], value_of,
        meant⟩

namespace MapRefines

variable {text : Texts} {map : RuntimeMap} {spec : SpecMap}

theorem selects (refines : MapRefines text map spec) (value : RuntimeValue) (key : Key)
    (value_of : value.Of map.keyKind) (meant : keyOf text map.keyKind value = some key) :
    Selects (keyOf text map.keyKind) (map.entries.map Prod.fst)
      (fun candidate => valuesEqual text map.keyKind candidate value) key := by
  intro stored member
  rcases List.mem_map.mp member with ⟨entry, held, rfl⟩
  exact valuesEqual_iff text map.keyKind entry.1 value key refines.exact_kind
    (refines.of entry held).1 value_of meant

theorem put (refines : MapRefines text map spec) (key : RuntimeValue) (name : Key)
    (value : RuntimeValue) (key_of : key.Of map.keyKind) (value_of : value.Of map.valueKind)
    (meant : keyOf text map.keyKind key = some name) :
    MapRefines text
      { map with
        entries := putEntry (fun candidate => valuesEqual text map.keyKind candidate key) key value
          map.entries }
      { spec with entries := spec.entries.insert name value } where
  key_kind := refines.key_kind
  value_kind := refines.value_kind
  exact_kind := refines.exact_kind
  of := by
    intro entry member
    have chosen := refines.selects key name key_of meant
    have listed := putEntry_keys (fun candidate => valuesEqual text map.keyKind candidate key) key
      value map.entries
    have key_held : entry.1.Of map.keyKind := by
      have held := List.mem_map_of_mem (f := Prod.fst) member
      rw [listed] at held
      split at held
      · rcases List.mem_map.mp held with ⟨old, stored, same⟩
        exact same ▸ (refines.of old stored).1
      · rcases List.mem_append.mp held with old | new
        · rcases List.mem_map.mp old with ⟨old, stored, same⟩
          exact same ▸ (refines.of old stored).1
        · rw [List.mem_singleton.mp new]
          exact key_of
    refine ⟨key_held, ?_⟩
    rcases putEntry_cases _ _ key name value map.entries meant chosen refines.entries.nodup_means
      entry member with put | old
    · rw [put.2]
      exact value_of
    · exact (refines.of entry old.2).2
  entries := refines.entries.put _ key name value meant (refines.selects key name key_of meant)

theorem delete (refines : MapRefines text map spec) (key : RuntimeValue) (name : Key)
    (key_of : key.Of map.keyKind) (meant : keyOf text map.keyKind key = some name) :
    MapRefines text
      { map with
        entries := map.entries.filter fun entry => !valuesEqual text map.keyKind entry.1 key }
      { spec with entries := spec.entries.erase name } where
  key_kind := refines.key_kind
  value_kind := refines.value_kind
  exact_kind := refines.exact_kind
  of := by
    intro entry member
    exact refines.of entry (List.mem_of_mem_filter member)
  entries := refines.entries.delete _ name (refines.selects key name key_of meant)

theorem present_iff (refines : MapRefines text map spec) (key : RuntimeValue) (name : Key)
    (key_of : key.Of map.keyKind) (meant : keyOf text map.keyKind key = some name) :
    (map.entries.any fun entry => valuesEqual text map.keyKind entry.1 key) =
      (spec.entries.find name).isSome := by
  rw [Bool.eq_iff_iff, ← spec.entries.supported,
    refines.entries.any_iff _ name (refines.selects key name key_of meant)]

end MapRefines

namespace SetRefines

variable {text : Texts} {set : RuntimeSet} {spec : SpecSet}

theorem selects (refines : SetRefines text set spec) (value : RuntimeValue) (key : Key)
    (value_of : value.Of set.kind) (meant : keyOf text set.kind value = some key) :
    Selects (keyOf text set.kind) set.values
      (fun candidate => valuesEqual text set.kind candidate value) key := by
  intro stored member
  exact valuesEqual_iff text set.kind stored value key refines.exact_kind
    (refines.of stored member) value_of meant

theorem contains_iff (refines : SetRefines text set spec) (value : RuntimeValue) (key : Key)
    (value_of : value.Of set.kind) (meant : keyOf text set.kind value = some key) :
    contains text set.kind set.values value = true ↔ key ∈ spec.members :=
  refines.members.any_iff _ key (refines.selects value key value_of meant)

theorem add (refines : SetRefines text set spec) (value : RuntimeValue) (key : Key)
    (value_of : value.Of set.kind) (meant : keyOf text set.kind value = some key) :
    SetRefines text { set with values := pushUnique text set.kind set.values value }
      { spec with members := insert key spec.members } := by
  have present := refines.contains_iff value key value_of meant
  unfold pushUnique
  by_cases held : contains text set.kind set.values value = true
  · rw [if_pos held, Finset.insert_eq_of_mem (present.mp held)]
    exact refines
  · rw [if_neg held]
    refine ⟨refines.kind, refines.exact_kind, ?_, ?_⟩
    · intro other member
      rcases List.mem_append.mp member with old | new
      · exact refines.of other old
      · rw [List.mem_singleton.mp new]
        exact value_of
    · exact refines.members.push value key meant fun inside => held (present.mpr inside)

theorem delete (refines : SetRefines text set spec) (value : RuntimeValue) (key : Key)
    (value_of : value.Of set.kind) (meant : keyOf text set.kind value = some key) :
    SetRefines text
      { set with
        values := set.values.filter fun candidate => !valuesEqual text set.kind candidate value }
      { spec with members := spec.members.erase key } where
  kind := refines.kind
  exact_kind := refines.exact_kind
  of := by
    intro other member
    exact refines.of other (List.mem_of_mem_filter member)
  members := refines.members.erase _ key (refines.selects value key value_of meant)

theorem add_all (values : List RuntimeValue) : ∀ {set : RuntimeSet} {spec : SpecSet},
    SetRefines text set spec → (∀ value ∈ values, value.Of set.kind) →
    (∀ value ∈ values, ∃ key, keyOf text set.kind value = some key) →
    SetRefines text { set with values := values.foldl (pushUnique text set.kind) set.values }
      { spec with
        members := spec.members ∪ (values.filterMap (keyOf text set.kind)).toFinset } := by
  induction values with
  | nil =>
      intro set spec refines _ _
      rw [List.filterMap_nil, List.toFinset_nil, Finset.union_empty]
      exact refines
  | cons value rest ih =>
      intro set spec refines value_of named
      rcases named value List.mem_cons_self with ⟨key, meant⟩
      have added := refines.add value key (value_of value List.mem_cons_self) meant
      have later := ih added (fun other member => value_of other (List.mem_cons_of_mem _ member))
        (fun other member => named other (List.mem_cons_of_mem _ member))
      rw [List.filterMap_cons_some meant, List.toFinset_cons, Finset.union_insert,
        ← Finset.insert_union]
      exact later

theorem keep {other : RuntimeSet} {specOther : SpecSet} (refines : SetRefines text set spec)
    (against : SetRefines text other specOther) (same : set.kind = other.kind) (wanted : Bool) :
    SetRefines text
      { set with
        values := set.values.filter fun value => contains text set.kind other.values value == wanted }
      { spec with
        members := spec.members.filter fun key => decide (key ∈ specOther.members) = wanted } where
  kind := refines.kind
  exact_kind := refines.exact_kind
  of := by
    intro value member
    exact refines.of value (List.mem_of_mem_filter member)
  members := by
    apply refines.members.keep
    intro value stored key meant
    have present := against.contains_iff value key (same ▸ refines.of value stored) (same ▸ meant)
    rw [← same] at present
    rw [beq_iff_eq]
    by_cases inside : key ∈ specOther.members
    · rw [present.mpr inside, decide_eq_true inside]
    · rw [decide_eq_false inside, Bool.eq_false_iff.mpr fun held => inside (present.mp held)]

theorem subset_iff {other : RuntimeSet} {specOther : SpecSet} (refines : SetRefines text set spec)
    (against : SetRefines text other specOther) (same : set.kind = other.kind) :
    (set.values.all fun value => contains text set.kind other.values value) =
      decide (spec.members ⊆ specOther.members) := by
  rw [Bool.eq_iff_iff, decide_eq_true_iff]
  apply refines.members.all_iff
  intro value stored key meant
  have present := against.contains_iff value key (same ▸ refines.of value stored) (same ▸ meant)
  rw [← same] at present
  exact present

end SetRefines

end FaberRuntime.Host
