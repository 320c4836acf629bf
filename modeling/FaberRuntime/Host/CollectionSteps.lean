import FaberRuntime.Host.CollectionRefinement

namespace FaberRuntime.Host

/-! One call of the host against one call of the specification. -/

theorem forall₂_set {α β : Type} {related : α → β → Prop} {left : List α} {right : List β}
    (all : List.Forall₂ related left right) (index : Nat) (a : α) (b : β) (pair : related a b) :
    List.Forall₂ related (left.set index a) (right.set index b) := by
  induction all generalizing index with
  | nil => exact List.Forall₂.nil
  | cons head tail ih =>
      cases index with
      | zero => exact List.Forall₂.cons pair tail
      | succ index => exact List.Forall₂.cons head (ih index)

theorem forall₂_getElem? {α β : Type} {related : α → β → Prop} {left : List α} {right : List β}
    (all : List.Forall₂ related left right) (index : Nat) :
    (left[index]? = none ∧ right[index]? = none) ∨
      ∃ a b, left[index]? = some a ∧ right[index]? = some b ∧ related a b := by
  induction all generalizing index with
  | nil => exact Or.inl ⟨rfl, rfl⟩
  | cons head tail ih =>
      cases index with
      | zero => exact Or.inr ⟨_, _, rfl, rfl, head⟩
      | succ index => exact ih index

theorem forall₂_append_one {α β : Type} {related : α → β → Prop} {left : List α} {right : List β}
    (all : List.Forall₂ related left right) (a : α) (b : β) (pair : related a b) :
    List.Forall₂ related (left ++ [a]) (right ++ [b]) := by
  induction all with
  | nil => exact List.Forall₂.cons pair List.Forall₂.nil
  | cons head _ ih => exact List.Forall₂.cons head ih

namespace Refines

variable {text : Texts} {runtime : RuntimeContext} {spec : Spec}

theorem findMap_cases (refines : Refines text runtime spec) (handle : Pointer) :
    (runtime.findMap handle = none ∧ spec.findMap handle = none) ∨
      ∃ map specMap, runtime.findMap handle = some map ∧ spec.findMap handle = some specMap ∧
        MapRefines text map specMap := by
  by_cases boxed : ∃ index, handle = .box .maps index
  · obtain ⟨index, rfl⟩ := boxed
    exact forall₂_getElem? refines.maps index
  · have unboxed : ∀ index, handle ≠ .box .maps index := fun index same => boxed ⟨index, same⟩
    refine Or.inl ⟨?_, ?_⟩
    · rw [RuntimeContext.findMap]
      exact unboxed
    · rw [Spec.findMap]
      exact unboxed

theorem findSet_cases (refines : Refines text runtime spec) (handle : Pointer) :
    (runtime.findSet handle = none ∧ spec.findSet handle = none) ∨
      ∃ set specSet, runtime.findSet handle = some set ∧ spec.findSet handle = some specSet ∧
        SetRefines text set specSet := by
  by_cases boxed : ∃ index, handle = .box .sets index
  · obtain ⟨index, rfl⟩ := boxed
    exact forall₂_getElem? refines.sets index
  · have unboxed : ∀ index, handle ≠ .box .sets index := fun index same => boxed ⟨index, same⟩
    refine Or.inl ⟨?_, ?_⟩
    · rw [RuntimeContext.findSet]
      exact unboxed
    · rw [Spec.findSet]
      exact unboxed

theorem setMap (refines : Refines text runtime spec) (handle : Pointer) (map : RuntimeMap)
    (specMap : SpecMap) (related : MapRefines text map specMap) :
    Refines text (runtime.setMap handle map) (spec.setMap handle specMap) := by
  by_cases boxed : ∃ index, handle = .box .maps index
  · obtain ⟨index, rfl⟩ := boxed
    exact ⟨forall₂_set refines.maps _ _ _ related, refines.sets, refines.arrays⟩
  · have unboxed : ∀ index, handle ≠ .box .maps index := fun index same => boxed ⟨index, same⟩
    rw [RuntimeContext.setMap, Spec.setMap]
    · exact refines
    · exact unboxed
    · exact unboxed

theorem setSet (refines : Refines text runtime spec) (handle : Pointer) (set : RuntimeSet)
    (specSet : SpecSet) (related : SetRefines text set specSet) :
    Refines text (runtime.setSet handle set) (spec.setSet handle specSet) := by
  by_cases boxed : ∃ index, handle = .box .sets index
  · obtain ⟨index, rfl⟩ := boxed
    exact ⟨refines.maps, forall₂_set refines.sets _ _ _ related, refines.arrays⟩
  · have unboxed : ∀ index, handle ≠ .box .sets index := fun index same => boxed ⟨index, same⟩
    rw [RuntimeContext.setSet, Spec.setSet]
    · exact refines
    · exact unboxed
    · exact unboxed

theorem storeSet (refines : Refines text runtime spec) (kind : ValueKind)
    (values : List RuntimeValue) (members : Finset Key)
    (related : SetRefines text ⟨kind, values⟩ ⟨kind, members⟩) :
    Refines text (runtime.storeSet kind values).1 (spec.storeSet kind members).1 ∧
      Answers text (runtime.storeSet kind values).1 (runtime.storeSet kind values).2
        (spec.storeSet kind members).2 := by
  refine ⟨⟨refines.maps, forall₂_append_one refines.sets _ _ related, refines.arrays⟩, ?_⟩
  have same := refines.sets.length_eq
  simp [RuntimeContext.storeSet, Spec.storeSet, Answers, same]

theorem storeMap (refines : Refines text runtime spec) (keyKind valueKind : ValueKind)
    (exact_kind : Exact keyKind) :
    Refines text (runtime.storeMap keyKind valueKind []).1 (spec.storeMap keyKind valueKind).1 ∧
      Answers text (runtime.storeMap keyKind valueKind []).1
        (runtime.storeMap keyKind valueKind []).2 (spec.storeMap keyKind valueKind).2 := by
  have related : MapRefines text ⟨keyKind, valueKind, []⟩
      ⟨keyKind, valueKind, OrderedMap.empty⟩ :=
    ⟨rfl, rfl, exact_kind, by simp, entries_empty _⟩
  refine ⟨⟨forall₂_append_one refines.maps _ _ related, refines.sets, refines.arrays⟩, ?_⟩
  have same := refines.maps.length_eq
  simp [RuntimeContext.storeMap, Spec.storeMap, Answers, same]

theorem storeArray (refines : Refines text runtime spec) (kind : ValueKind)
    (values : List RuntimeValue) (of : ∀ value ∈ values, value.Of kind) :
    Refines text (runtime.storeArray kind values).1 spec := by
  refine ⟨refines.maps, refines.sets, ?_⟩
  intro array member
  rcases List.mem_append.mp member with old | new
  · exact refines.arrays array old
  · rw [List.mem_singleton.mp new]
    exact of

end Refines

theorem findArray_stored (runtime : RuntimeContext) (kind : ValueKind)
    (values : List RuntimeValue) :
    (runtime.storeArray kind values).1.findArray (.box .arrays runtime.arrays.length) =
      some ⟨kind, values⟩ := by
  simp [RuntimeContext.storeArray, RuntimeContext.findArray]

theorem findOption_stored (runtime : RuntimeContext) (kind : ValueKind)
    (value : Option RuntimeValue) :
    (runtime.storeOption kind value).1.findOption (.box .options runtime.options.length) =
      some ⟨kind, value⟩ := by
  simp [RuntimeContext.storeOption, RuntimeContext.findOption]

theorem findArray_mem (runtime : RuntimeContext) (handle : Pointer) (array : RuntimeArray)
    (found : runtime.findArray handle = some array) : array ∈ runtime.arrays := by
  unfold RuntimeContext.findArray at found
  split at found
  · exact List.mem_of_getElem? found
  · exact absurd found (by simp)

theorem of_canonical (kind : ValueKind) (value : RuntimeValue) (of : value.Of kind) :
    value.Of (canonicalArrayElementKind kind) := by
  cases kind <;> first | exact of | (cases value <;> simp_all [RuntimeValue.Of,
    canonicalArrayElementKind])

/-- What the run promises of each call: texts behind keys are readable, and keys and members are
of a kind compared by equality. -/
def InDomain (text : Texts) (runtime : RuntimeContext) : CollectionCall → Prop
  | .mapNew keyKind _ => Exact keyKind
  | .setNew kind => Exact kind
  | .mapPut _ keyKind key _ _ | .mapOption _ keyKind key _ | .mapGet _ keyKind key _ _
  | .mapContains _ keyKind key _ | .mapDelete _ keyKind key _ | .setAdd _ keyKind key
  | .setContains _ keyKind key _ | .setDelete _ keyKind key _ =>
      ∀ value, readValue keyKind key = some value → Readable text keyKind value
  | .setFromArray handle => ∀ array, runtime.findArray handle = some array →
      Exact array.kind ∧ ∀ value ∈ array.values, Readable text array.kind value
  | _ => True

def Agree (text : Texts) (host : RuntimeContext × Answer) (spec : Spec × SpecAnswer) : Prop :=
  Refines text host.1 spec.1 ∧ Answers text host.1 host.2 spec.2

section Calls

variable {text : Texts} {runtime : RuntimeContext} {spec : Spec}

theorem agree_failed (refines : Refines text runtime spec) :
    Agree text (runtime, .failed) (spec, .failed) := ⟨refines, rfl⟩

theorem agree_wanted (refines : Refines text runtime spec) {refused : Prop} [Decidable refused]
    {wanted : Bool} {host : RuntimeContext × Answer} {specified : Spec × SpecAnswer}
    (opposite : refused ↔ wanted = false) (agree : wanted = true → Agree text host specified) :
    Agree text (if refused then (runtime, .failed) else host)
      (if wanted = true then specified else (spec, .failed)) := by
  cases wanted with
  | false =>
      rw [if_pos (opposite.mpr rfl), if_neg Bool.false_ne_true]
      exact agree_failed refines
  | true =>
      rw [if_neg fun refuses => Bool.false_ne_true (opposite.mp refuses).symm, if_pos rfl]
      exact agree rfl

/-- A call on a key of a map: the sides agree when they agree on related maps of the wanted key
kind, and the host refuses maps of another. -/
theorem onKey_agree (refines : Refines text runtime spec) (handle : Pointer) (keyKind : ValueKind)
    (key : Cell) (readable : ∀ value, readValue keyKind key = some value →
      Readable text keyKind value)
    (hostCall : RuntimeMap → RuntimeValue → RuntimeContext × Answer) (wanted : SpecMap → Bool)
    (specCall : SpecMap → Key → Spec × SpecAnswer)
    (refuses : ∀ map value, map.keyKind ≠ keyKind → hostCall map value = (runtime, .failed))
    (agree : ∀ map specMap value name, map.keyKind = keyKind → value.Of map.keyKind →
      keyOf text map.keyKind value = some name → MapRefines text map specMap →
      Agree text (hostCall map value)
        (if wanted specMap = true then specCall specMap name else (spec, .failed))) :
    Agree text
      (match readValue keyKind key, runtime.findMap handle with
        | some key, some map => hostCall map key
        | _, _ => (runtime, .failed))
      (spec.onKey text handle keyKind key wanted specCall) := by
  unfold Spec.onKey
  rcases readKey_cases text keyKind key readable with ⟨unread, unnamed⟩ |
    ⟨value, name, read, named, value_of, meant⟩
  · rw [unread, unnamed]
    exact agree_failed refines
  · rw [read, named]
    rcases refines.findMap_cases handle with ⟨missing, none_⟩ | ⟨map, specMap, found, held, related⟩
    · rw [missing, none_]
      exact agree_failed refines
    · rw [found, held]
      dsimp only
      by_cases same : map.keyKind = keyKind
      · have both := agree map specMap value name same (same ▸ value_of) (same ▸ meant) related
        simp only [← related.key_kind, same, true_and]
        exact both
      · rw [refuses map value same, ← related.key_kind, if_neg fun both => same both.1]
        exact agree_failed refines

theorem onMember_agree (refines : Refines text runtime spec) (handle : Pointer) (kind : ValueKind)
    (cell : Cell) (readable : ∀ value, readValue kind cell = some value →
      Readable text kind value)
    (hostCall : RuntimeSet → RuntimeValue → RuntimeContext × Answer) (wanted : Bool)
    (specCall : SpecSet → Key → Spec × SpecAnswer)
    (refuses : ∀ set value, set.kind ≠ kind → hostCall set value = (runtime, .failed))
    (agree : ∀ set specSet value name, set.kind = kind → value.Of set.kind →
      keyOf text set.kind value = some name → SetRefines text set specSet →
      Agree text (hostCall set value)
        (if wanted = true then specCall specSet name else (spec, .failed))) :
    Agree text
      (match readValue kind cell, runtime.findSet handle with
        | some value, some set => hostCall set value
        | _, _ => (runtime, .failed))
      (spec.onMember text handle kind cell wanted specCall) := by
  unfold Spec.onMember
  rcases readKey_cases text kind cell readable with ⟨unread, unnamed⟩ |
    ⟨value, name, read, named, value_of, meant⟩
  · rw [unread, unnamed]
    exact agree_failed refines
  · rw [read, named]
    rcases refines.findSet_cases handle with ⟨missing, none_⟩ | ⟨set, specSet, found, held, related⟩
    · rw [missing, none_]
      exact agree_failed refines
    · rw [found, held]
      dsimp only
      by_cases same : set.kind = kind
      · have both := agree set specSet value name same (same ▸ value_of) (same ▸ meant) related
        simp only [← related.kind, same, true_and]
        exact both
      · rw [refuses set value same, ← related.kind, if_neg fun both => same both.1]
        exact agree_failed refines

theorem mapPut_agree (refines : Refines text runtime spec) (handle : Pointer)
    (keyKind : ValueKind) (key : Cell) (valueKind : ValueKind) (value : Cell)
    (readable : ∀ value, readValue keyKind key = some value → Readable text keyKind value) :
    Agree text (runtime.mapPut text handle keyKind key valueKind value)
      (spec.collection text runtime.findArray (.mapPut handle keyKind key valueKind value)) := by
  unfold RuntimeContext.mapPut
  cases read : readValue valueKind value with
  | none =>
      simp only [Spec.collection, read]
      cases readValue keyKind key <;> cases runtime.findMap handle <;> exact agree_failed refines
  | some stored =>
      have stored_of := readValue_of valueKind value stored read
      have agreed := onKey_agree refines handle keyKind key readable
        (fun map key =>
          if map.keyKind ≠ keyKind ∨ map.valueKind ≠ valueKind then (runtime, Answer.failed)
          else
            let entries := putEntry (fun candidate => valuesEqual text keyKind candidate key) key
              stored map.entries
            (runtime.setMap handle { map with entries := entries }, .done))
        (fun map => decide (map.valueKind = valueKind))
        (fun map key =>
          (spec.setMap handle { map with entries := map.entries.insert key stored }, .done))
        (fun map _ other => if_pos (Or.inl other))
        (by
          intro map specMap key name same key_of meant related
          apply agree_wanted refines
          · simp [same, related.value_kind]
          · intro wanted
            have value_same := related.value_kind.trans (of_decide_eq_true wanted)
            subst same
            exact ⟨refines.setMap handle _ _
              (related.put key name stored key_of (value_same ▸ stored_of) meant), rfl⟩)
      simp only [Spec.collection, read]
      cases keyed : readValue keyKind key <;> cases found : runtime.findMap handle <;>
        simp only [keyed, found] at agreed ⊢ <;> exact agreed

theorem mapContains_agree (refines : Refines text runtime spec) (handle : Pointer)
    (keyKind : ValueKind) (key : Cell) (output : Place)
    (readable : ∀ value, readValue keyKind key = some value → Readable text keyKind value) :
    Agree text (runtime.mapContains text handle keyKind key output)
      (spec.collection text runtime.findArray (.mapContains handle keyKind key output)) := by
  apply onKey_agree refines handle keyKind key readable
  · intro map value other
    exact if_pos (Or.inl other)
  · intro map specMap value name same value_of meant related
    apply agree_wanted refines
    · simp [same]
    · intro _
      rw [related.present_iff value name value_of meant]
      exact ⟨refines, rfl⟩

theorem mapOption_agree (refines : Refines text runtime spec) (handle : Pointer)
    (keyKind : ValueKind) (key : Cell) (valueKind : ValueKind)
    (readable : ∀ value, readValue keyKind key = some value → Readable text keyKind value) :
    Agree text (runtime.mapOption text handle keyKind key valueKind)
      (spec.collection text runtime.findArray (.mapOption handle keyKind key valueKind)) := by
  apply onKey_agree refines handle keyKind key readable
  · intro map value other
    exact if_pos (Or.inl other)
  · intro map specMap value name same value_of meant related
    rw [← related.value_kind]
    apply agree_wanted refines
    · simp [same]
    · intro _
      have found := related.entries.find_eq _ name (related.selects value name value_of meant)
      rw [← found, ← same]
      exact ⟨⟨refines.maps, refines.sets, refines.arrays⟩, _, rfl,
        findOption_stored runtime valueKind _⟩

theorem mapGet_agree (refines : Refines text runtime spec) (handle : Pointer)
    (keyKind : ValueKind) (key : Cell) (valueKind : ValueKind) (output : Place)
    (readable : ∀ value, readValue keyKind key = some value → Readable text keyKind value) :
    Agree text (runtime.mapGet text handle keyKind key valueKind output)
      (spec.collection text runtime.findArray (.mapGet handle keyKind key valueKind output)) := by
  apply onKey_agree refines handle keyKind key readable
  · intro map value other
    exact if_pos (Or.inl other)
  · intro map specMap value name same value_of meant related
    rw [← related.value_kind]
    apply agree_wanted refines
    · simp [same, imp_iff_not_or]
    · intro _
      have found := related.entries.find_eq _ name (related.selects value name value_of meant)
      rw [← found, ← same]
      cases held : map.entries.find? fun entry => valuesEqual text map.keyKind entry.1 value with
      | none => exact agree_failed refines
      | some entry =>
          dsimp only [Option.map_some]
          by_cases written : writeValue entry.2 output = true
          · rw [if_pos written, if_pos written]
            exact ⟨refines, rfl⟩
          · rw [if_neg written, if_neg written]
            exact agree_failed refines

theorem mapDelete_agree (refines : Refines text runtime spec) (handle : Pointer)
    (keyKind : ValueKind) (key : Cell) (output : Place)
    (readable : ∀ value, readValue keyKind key = some value → Readable text keyKind value) :
    Agree text (runtime.mapDelete text handle keyKind key output)
      (spec.collection text runtime.findArray (.mapDelete handle keyKind key output)) := by
  apply onKey_agree refines handle keyKind key readable
  · intro map value other
    exact if_pos (Or.inl other)
  · intro map specMap value name same value_of meant related
    apply agree_wanted refines
    · simp [same]
    · intro _
      have removed := related.entries.delete_length _ name
        (related.selects value name value_of meant)
      have flagged : decide ((map.entries.filter fun entry =>
          !valuesEqual text map.keyKind entry.1 value).length ≠ map.entries.length) =
          (specMap.entries.find name).isSome := by
        rw [Bool.eq_iff_iff, decide_eq_true_iff, ← specMap.entries.supported]
        exact removed
      rw [← flagged]
      exact ⟨refines.setMap handle _ _ (related.delete value name value_of meant), rfl⟩

theorem length_refused (length : Nat) (written : Bool) :
    2 ^ 63 ≤ length ∨ written = false ↔ (decide (length < 2 ^ 63) && written) = false := by
  rw [Bool.and_eq_false_iff, decide_eq_false_iff_not, not_lt]

theorem mapLength_agree (refines : Refines text runtime spec) (handle : Pointer)
    (output : Place) :
    Agree text (runtime.mapLength handle output)
      (spec.collection text runtime.findArray (.mapLength handle output)) := by
  unfold RuntimeContext.mapLength
  simp only [Spec.collection, Spec.onMap]
  rcases refines.findMap_cases handle with ⟨missing, none_⟩ | ⟨map, specMap, found, held, related⟩
  · rw [missing, none_]
    exact agree_failed refines
  · rw [found, held]
    dsimp only
    rw [← related.entries.length_eq]
    apply agree_wanted refines
    · exact length_refused _ _
    · intro wanted
      rw [Bool.and_eq_true, decide_eq_true_iff] at wanted
      exact ⟨refines, _, rfl, Int64.toInt_ofNat_of_lt wanted.1⟩

theorem mapIsEmpty_agree (refines : Refines text runtime spec) (handle : Pointer)
    (output : Place) :
    Agree text (runtime.mapIsEmpty handle output)
      (spec.collection text runtime.findArray (.mapIsEmpty handle output)) := by
  unfold RuntimeContext.mapIsEmpty
  simp only [Spec.collection, Spec.onMap]
  rcases refines.findMap_cases handle with ⟨missing, none_⟩ | ⟨map, specMap, found, held, related⟩
  · rw [missing, none_]
    exact agree_failed refines
  · rw [found, held]
    dsimp only
    apply agree_wanted refines Iff.rfl
    intro _
    have lengths := related.entries.length_eq
    have empty : map.entries.isEmpty = specMap.entries.order.isEmpty := by
      rw [Bool.eq_iff_iff, List.isEmpty_iff_length_eq_zero, List.isEmpty_iff_length_eq_zero,
        lengths]
    rw [empty]
    exact ⟨refines, rfl⟩

theorem mapKeys_agree (refines : Refines text runtime spec) (handle : Pointer) :
    Agree text (runtime.mapKeys handle)
      (spec.collection text runtime.findArray (.mapKeys handle)) := by
  unfold RuntimeContext.mapKeys
  simp only [Spec.collection, Spec.onMap]
  rcases refines.findMap_cases handle with ⟨missing, none_⟩ | ⟨map, specMap, found, held, related⟩
  · rw [missing, none_]
    exact agree_failed refines
  · rw [found, held]
    dsimp only
    rw [if_pos trivial]
    refine ⟨refines.storeArray _ _ ?_, _, _, rfl, findArray_stored runtime _ _, ?_, ?_⟩
    · intro value member
      rcases List.mem_map.mp member with ⟨entry, stored, rfl⟩
      exact of_canonical map.keyKind entry.1 (related.of entry stored).1
    · rw [related.key_kind]
    · rw [List.map_map, ← related.entries.keys, related.key_kind]
      rfl

theorem mapValues_agree (refines : Refines text runtime spec) (handle : Pointer) :
    Agree text (runtime.mapValues handle)
      (spec.collection text runtime.findArray (.mapValues handle)) := by
  unfold RuntimeContext.mapValues
  simp only [Spec.collection, Spec.onMap]
  rcases refines.findMap_cases handle with ⟨missing, none_⟩ | ⟨map, specMap, found, held, related⟩
  · rw [missing, none_]
    exact agree_failed refines
  · rw [found, held]
    dsimp only
    rw [if_pos trivial]
    refine ⟨refines.storeArray _ _ ?_, _, _, rfl, findArray_stored runtime _ _, ?_, ?_⟩
    · intro value member
      rcases List.mem_map.mp member with ⟨entry, stored, rfl⟩
      exact of_canonical map.valueKind entry.2 (related.of entry stored).2
    · rw [related.value_kind]
    · rw [related.entries.map_values, List.map_map]
      rfl

theorem aggregateSetIndex_agree (refines : Refines text runtime spec) (aggregate key : Pointer)
    (value : Int64) :
    Agree text (runtime.aggregateSetIndexPtrI64 text aggregate key value)
      (spec.collection text runtime.findArray (.aggregateSetIndexPtrI64 aggregate key value)) := by
  have unchanged : Agree text (runtime, .silent) (spec, .silent) := ⟨refines, rfl⟩
  unfold RuntimeContext.aggregateSetIndexPtrI64
  simp only [Spec.collection]
  cases bytes : text key with
  | none => exact unchanged
  | some bytes_ =>
      rcases refines.findMap_cases aggregate with ⟨missing, none_⟩ |
        ⟨map, specMap, found, held, related⟩
      · rw [missing, none_]
        exact unchanged
      · rw [found, held]
        dsimp only
        rw [← related.key_kind, ← related.value_kind]
        by_cases valid : isUtf8 bytes_ = true
        · by_cases kinds : map.keyKind = .text ∧ map.valueKind = .i64
          · have meant : keyOf text map.keyKind (.ptr key) = some (.text bytes_) := by
              rw [kinds.1, keyOf_text, bytes, Option.map_some]
            have key_of : (RuntimeValue.ptr key).Of map.keyKind := by
              rw [kinds.1]
              trivial
            have value_of : (RuntimeValue.i64 value).Of map.valueKind := by
              rw [kinds.2]
              trivial
            rw [if_neg (by simp [valid]), if_neg (by simp [kinds]), if_pos ⟨valid, kinds⟩]
            have put := refines.setMap aggregate _ _
              (related.put (.ptr key) (.text bytes_) (.i64 value) key_of value_of meant)
            rw [← kinds.1]
            refine ⟨?_, rfl⟩
            convert put using 3
            · exact related.key_kind
            · exact related.value_kind
          · have refused : map.keyKind ≠ .text ∨ map.valueKind ≠ .i64 := by
              rw [← not_and_or]
              exact kinds
            rw [if_neg (by simp [valid]), if_pos refused, if_neg fun all => kinds all.2]
            exact unchanged
        · rw [if_pos (by simpa using valid), if_neg fun all => valid all.1]
          exact unchanged

end Calls

end FaberRuntime.Host
