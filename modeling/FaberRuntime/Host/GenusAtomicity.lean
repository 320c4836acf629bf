import FaberRuntime.Host.ValorGenus

namespace FaberRuntime.Host

open FaberRuntime.Frame (stringFromValor)

/-! When a read of a record leaves either every present field's slot written or none. -/

structure Grows (before after : HostContext) : Prop where
  texts : before.texts <+: after.texts
  valors : before.valors <+: after.valors
  ascii : before.ascii <+: after.ascii
  numericBoxes : before.numericBoxes <+: after.numericBoxes
  instants : before.instants <+: after.instants

theorem Grows.refl (runtime : HostContext) : Grows runtime runtime :=
  ⟨List.prefix_rfl, List.prefix_rfl, List.prefix_rfl, List.prefix_rfl, List.prefix_rfl⟩

theorem Grows.trans {first second third : HostContext} (earlier : Grows first second)
    (later : Grows second third) : Grows first third :=
  ⟨earlier.texts.trans later.texts, earlier.valors.trans later.valors,
    earlier.ascii.trans later.ascii, earlier.numericBoxes.trans later.numericBoxes,
    earlier.instants.trans later.instants⟩

section Conversion

variable (checks : Bool) (casts : FloatCasts)

/-- What a value of the host stands for, its box read in the context. -/
def Carries (runtime : HostContext) (valor : Valor UInt64) (kind : ValueKind)
    (value : RuntimeValue) : Prop :=
  match kind with
  | .text => ∃ index content, value = .ptr (.box .texts index) ∧
      stringFromValor valor = some content ∧ runtime.texts[index]? = some content
  | .valor => ∃ index, value = .ptr (.box .valors index) ∧ runtime.valors[index]? = some valor
  | .ascii => ∃ index content, value = .ptr (.box .ascii index) ∧
      stringFromValor valor = some content ∧
      runtime.ascii[index]? = some (content.toUTF8.toList ++ [0])
  | .optionI64 => (valor = .nihil ∧ value = .ptr Pointer.null) ∨
      ∃ index held, value = .ptr (.box .numericBoxes index) ∧ valor = .numerus held ∧
        runtime.numericBoxes[index]? = some held
  | .instans => ∃ index instant, value = .ptr (.box .instants index) ∧
      Instans.tryFromValor checks valor .secunda = some (some instant) ∧
      runtime.instants[index]? = some instant
  | kind => scalarFromValor casts valor kind = some value

theorem Carries.later {before after : HostContext} (grows : Grows before after)
    {valor : Valor UInt64} {kind : ValueKind} {value : RuntimeValue}
    (carries : Carries checks casts before valor kind value) :
    Carries checks casts after valor kind value := by
  cases kind
  case text =>
    obtain ⟨index, content, pointer, extracted, held⟩ := carries
    exact ⟨index, content, pointer, extracted, getElem?_of_prefix grows.texts held⟩
  case valor =>
    obtain ⟨index, pointer, held⟩ := carries
    exact ⟨index, pointer, getElem?_of_prefix grows.valors held⟩
  case ascii =>
    obtain ⟨index, content, pointer, extracted, held⟩ := carries
    exact ⟨index, content, pointer, extracted, getElem?_of_prefix grows.ascii held⟩
  case optionI64 =>
    rcases carries with absent | ⟨index, number, pointer, same, held⟩
    · exact Or.inl absent
    · exact Or.inr ⟨index, number, pointer, same,
        getElem?_of_prefix grows.numericBoxes held⟩
  case instans =>
    obtain ⟨index, instant, pointer, extracted, held⟩ := carries
    exact ⟨index, instant, pointer, extracted, getElem?_of_prefix grows.instants held⟩
  all_goals exact carries

theorem scalarFromValor_of (valor : Valor UInt64) (kind : ValueKind) (value : RuntimeValue)
    (converted : scalarFromValor casts valor kind = some value) : value.Of kind := by
  cases kind <;>
    simp only [scalarFromValor, Option.map_eq_some_iff, reduceCtorEq] at converted
  all_goals
    obtain ⟨_, _, rfl⟩ := converted
    trivial

theorem Carries.of {runtime : HostContext} {valor : Valor UInt64} {kind : ValueKind}
    {value : RuntimeValue} (carries : Carries checks casts runtime valor kind value) :
    value.Of kind := by
  cases kind
  case text =>
    obtain ⟨_, _, rfl, _⟩ := carries
    trivial
  case valor =>
    obtain ⟨_, rfl, _⟩ := carries
    trivial
  case ascii =>
    obtain ⟨_, _, rfl, _⟩ := carries
    trivial
  case optionI64 =>
    rcases carries with ⟨_, rfl⟩ | ⟨_, _, rfl, _⟩
    · trivial
    · trivial
  case instans =>
    obtain ⟨_, _, rfl, _⟩ := carries
    trivial
  all_goals exact scalarFromValor_of casts valor _ value carries

def Convertible (valor : Valor UInt64) (kind : ValueKind) : Prop :=
  match kind with
  | .text => (stringFromValor valor).isSome = true
  | .valor => True
  | .ascii => ∃ content, stringFromValor valor = some content ∧
      isAscii content.toUTF8.toList = true ∧ content.toUTF8.toList.contains 0 = false
  | .optionI64 => valor = .nihil ∨ (integerFromValor valor).isSome = true
  | .instans => ∃ instant, Instans.tryFromValor checks valor .secunda = some (some instant)
  | kind => (scalarFromValor casts valor kind).isSome = true

theorem genusValorToValue_cases (runtime : HostContext) (valor : Valor UInt64)
    (kind : ValueKind) :
    Grows runtime (genusValorToValue checks casts runtime valor kind).1 ∧
      ((Convertible checks casts valor kind ∧
          ∃ value, (genusValorToValue checks casts runtime valor kind).2 = .ok value ∧
            Carries checks casts (genusValorToValue checks casts runtime valor kind).1 valor kind
              value) ∨
        (¬Convertible checks casts valor kind ∧
          ∃ status, (genusValorToValue checks casts runtime valor kind).2 = .error status ∧
            status ≠ .ok)) := by
  have scalar : ∀ result : Option RuntimeValue, scalarFromValor casts valor kind = result →
      genusValorToValue checks casts runtime valor kind =
        (runtime, result.elim (.error .invalidArgument) .ok) →
      (Convertible checks casts valor kind ↔ result.isSome = true) →
      (∀ value, Carries checks casts runtime valor kind value ↔ result = some value) →
      Grows runtime (genusValorToValue checks casts runtime valor kind).1 ∧
        ((Convertible checks casts valor kind ∧
            ∃ value, (genusValorToValue checks casts runtime valor kind).2 = .ok value ∧
              Carries checks casts (genusValorToValue checks casts runtime valor kind).1 valor
                kind value) ∨
          (¬Convertible checks casts valor kind ∧
            ∃ status, (genusValorToValue checks casts runtime valor kind).2 = .error status ∧
              status ≠ .ok)) := by
    intro result _ same convertible carries
    rw [same]
    refine ⟨Grows.refl runtime, ?_⟩
    rcases result with _ | value
    · exact Or.inr ⟨by simp [convertible], _, rfl, by decide⟩
    · exact Or.inl ⟨by simp [convertible], value, rfl, (carries value).mpr rfl⟩
  cases kind
  case text =>
    simp only [genusValorToValue, valorToRuntimeValue, Convertible, Carries]
    rcases extracted : stringFromValor valor with _ | content
    · exact ⟨Grows.refl runtime, Or.inr ⟨by simp, _, rfl, by decide⟩⟩
    · refine ⟨⟨List.prefix_append _ _, List.prefix_rfl, List.prefix_rfl, List.prefix_rfl,
        List.prefix_rfl⟩, Or.inl ⟨rfl, _, rfl, _, content, rfl, rfl, ?_⟩⟩
      simp [HostContext.storeText]
  case valor =>
    simp only [genusValorToValue, valorToRuntimeValue, Convertible, Carries]
    refine ⟨⟨List.prefix_rfl, List.prefix_append _ _, List.prefix_rfl, List.prefix_rfl,
      List.prefix_rfl⟩, Or.inl ⟨trivial, _, rfl, _, rfl, ?_⟩⟩
    simp [HostContext.storeValor]
  case ascii =>
    simp only [genusValorToValue, Convertible, Carries]
    rcases extracted : stringFromValor valor with _ | content
    · exact ⟨Grows.refl runtime, Or.inr ⟨by simp, _, rfl, by decide⟩⟩
    · dsimp only
      by_cases refused : (!isAscii content.toUTF8.toList || content.toUTF8.toList.contains 0) = true
      · rw [if_pos refused]
        refine ⟨Grows.refl runtime, Or.inr ⟨?_, _, rfl, by decide⟩⟩
        rintro ⟨other, same, plain, unbroken⟩
        cases same
        rw [plain, unbroken] at refused
        exact absurd refused (by decide)
      · rw [if_neg refused]
        rw [Bool.or_eq_true, not_or, Bool.not_eq_true', Bool.not_eq_false, Bool.not_eq_true]
          at refused
        refine ⟨⟨List.prefix_rfl, List.prefix_rfl, List.prefix_append _ _, List.prefix_rfl,
          List.prefix_rfl⟩, Or.inl ⟨⟨content, rfl, refused⟩, _, rfl, _, content, rfl, rfl, ?_⟩⟩
        simp [HostContext.storeAscii]
  case optionI64 =>
    cases valor
    case nihil =>
      exact ⟨Grows.refl runtime, Or.inl ⟨Or.inl rfl, _, rfl, Or.inl ⟨rfl, rfl⟩⟩⟩
    case numerus held =>
      refine ⟨⟨List.prefix_rfl, List.prefix_rfl, List.prefix_rfl, List.prefix_append _ _,
        List.prefix_rfl⟩, Or.inl ⟨Or.inr rfl, _, rfl, Or.inr ⟨_, held, rfl, rfl, ?_⟩⟩⟩
      simp [genusValorToValue, integerFromValor, HostContext.storeNumericBox]
    all_goals
      exact ⟨Grows.refl runtime,
        Or.inr ⟨by simp [Convertible, integerFromValor], _, rfl, by decide⟩⟩
  case instans =>
    simp only [genusValorToValue, Convertible, Carries]
    rcases extracted : Instans.tryFromValor checks valor .secunda with _ | _ | instant
    · exact ⟨Grows.refl runtime, Or.inr ⟨by simp, _, rfl, by decide⟩⟩
    · exact ⟨Grows.refl runtime, Or.inr ⟨by simp, _, rfl, by decide⟩⟩
    · refine ⟨⟨List.prefix_rfl, List.prefix_rfl, List.prefix_rfl, List.prefix_rfl,
        List.prefix_append _ _⟩, Or.inl ⟨⟨instant, rfl⟩, _, rfl, _, instant, rfl, rfl, ?_⟩⟩
      simp [HostContext.storeInstans]
  all_goals exact scalar _ rfl rfl Iff.rfl (fun _ => Iff.rfl)

end Conversion

def Place.takes (place : Place) : ValueKind → Bool
  | .i1 => place.one
  | .i8 => place.one
  | .u8 => place.one
  | .i16 => place.two
  | .u16 => place.two
  | .f16 => place.two
  | .i32 => place.four
  | .u32 => place.four
  | .f32 => place.four
  | .i64 => place.eight
  | .u64 => place.eight
  | .f64 => place.eight
  | .unknown _ => false
  | _ => place.pointer

theorem writeValue_takes (kind : ValueKind) (value : RuntimeValue) (place : Place)
    (of : value.Of kind) : writeValue value place = place.takes kind := by
  cases value
  all_goals
    cases kind <;> first | rfl | exact of.elim

section Fields

variable (checks : Bool) (casts : FloatCasts) (text : Texts)
  (entries : List (String × Valor UInt64))

def present (field : GenusField) : Option (Valor UInt64) :=
  (textValue text field.name).bind fun name => entries.lookup name

/-- The field's slot is not null, its name can be read, and it is there at its kind or may be
left out. -/
def Ready (field : GenusField) : Prop :=
  field.output ≠ 0 ∧ (textValue text field.name).isSome = true ∧
    match present text entries field with
    | none => field.defaultable = true
    | some valor => Convertible checks casts valor field.kind

def WriteOf (runtime : HostContext) (field : GenusField) (write : Write) : Prop :=
  write.1 = field.output ∧ ∃ valor, present text entries field = some valor ∧
    Carries checks casts runtime valor field.kind write.2

/-- What the conversion of one field leaves: the write of a present field, nothing for an absent
one. -/
def Converted (runtime : HostContext) (field : GenusField) : Option Write → Prop
  | none => present text entries field = none
  | some write => WriteOf checks casts text entries runtime field write

theorem Converted.later {before after : HostContext} (grows : Grows before after)
    {field : GenusField} {entry : Option Write}
    (converted : Converted checks casts text entries before field entry) :
    Converted checks casts text entries after field entry := by
  rcases entry with _ | write
  · exact converted
  · obtain ⟨slot, valor, found, carries⟩ := converted
    exact ⟨slot, valor, found, carries.later checks casts grows⟩

theorem convertField_cases (runtime : HostContext) (field : GenusField) :
    Grows runtime (convertField checks casts text entries runtime field).1 ∧
      ((Ready checks casts text entries field ∧
          ∃ entry, (convertField checks casts text entries runtime field).2 = .ok entry ∧
            Converted checks casts text entries
              (convertField checks casts text entries runtime field).1 field entry) ∨
        (¬Ready checks casts text entries field ∧
          ∃ status, (convertField checks casts text entries runtime field).2 = .error status ∧
            status ≠ .ok)) := by
  by_cases null : field.output = 0
  · have refused : convertField checks casts text entries runtime field =
        (runtime, .error .invalidArgument) := if_pos null
    rw [refused]
    exact ⟨Grows.refl runtime, Or.inr ⟨fun ready => ready.1 null, _, rfl, by decide⟩⟩
  · rcases named : textValue text field.name with _ | name
    · have refused : convertField checks casts text entries runtime field =
          (runtime, .error .invalidArgument) := by
        simp only [convertField, if_neg null, named]
      rw [refused]
      refine ⟨Grows.refl runtime, Or.inr ⟨?_, _, rfl, by decide⟩⟩
      rintro ⟨_, readable, _⟩
      rw [named] at readable
      cases readable
    · rcases found : entries.lookup name with _ | valor
      · have absent : present text entries field = none := by
          rw [present, named, Option.bind_some, found]
        have skipped : convertField checks casts text entries runtime field =
            (runtime, if field.defaultable then .ok none else .error .invalidArgument) := by
          simp only [convertField, if_neg null, named, found]
        rw [skipped]
        refine ⟨Grows.refl runtime, ?_⟩
        by_cases defaultable : field.defaultable = true
        · refine Or.inl ⟨⟨null, by rw [named]; rfl, ?_⟩, none, by simp [defaultable], absent⟩
          rw [absent]
          exact defaultable
        · refine Or.inr ⟨?_, .invalidArgument, by simp [defaultable], by decide⟩
          rintro ⟨_, _, kept⟩
          rw [absent] at kept
          exact defaultable kept
      · have held : present text entries field = some valor := by
          rw [present, named, Option.bind_some, found]
        have conversion : convertField checks casts text entries runtime field =
            ((genusValorToValue checks casts runtime valor field.kind).1,
              (genusValorToValue checks casts runtime valor field.kind).2.map
                fun value => some (field.output, value)) := by
          simp only [convertField, if_neg null, named, found]
        have cases_of := genusValorToValue_cases checks casts runtime valor field.kind
        rw [conversion]
        refine ⟨cases_of.1, ?_⟩
        rcases cases_of.2 with ⟨convertible, value, made, carries⟩ | ⟨refused, status, failed, bad⟩
        · refine Or.inl ⟨⟨null, by rw [named]; rfl, ?_⟩, some (field.output, value), ?_,
            rfl, valor, held, carries⟩
          · rw [held]
            exact convertible
          · dsimp only
            rw [made]
            rfl
        · refine Or.inr ⟨?_, status, ?_, bad⟩
          · rintro ⟨_, _, convertible⟩
            rw [held] at convertible
            exact refused convertible
          · dsimp only
            rw [failed]
            rfl

theorem convertFields_cases (fields : List GenusField) : ∀ runtime : HostContext,
    Grows runtime (convertFields checks casts text entries runtime fields).1 ∧
      (((∀ field ∈ fields, Ready checks casts text entries field) ∧
          ∃ converted, (convertFields checks casts text entries runtime fields).2 =
              .ok converted ∧
            List.Forall₂ (Converted checks casts text entries
              (convertFields checks casts text entries runtime fields).1) fields converted) ∨
        ((¬∀ field ∈ fields, Ready checks casts text entries field) ∧
          ∃ status, (convertFields checks casts text entries runtime fields).2 = .error status ∧
            status ≠ .ok)) := by
  induction fields with
  | nil => exact fun runtime => ⟨Grows.refl runtime, Or.inl ⟨by simp, [], rfl, .nil⟩⟩
  | cons field fields ih =>
      intro runtime
      obtain ⟨grows, cases_of⟩ := convertField_cases checks casts text entries runtime field
      rcases result : convertField checks casts text entries runtime field with ⟨stored, outcome⟩
      rw [result] at grows cases_of
      rcases cases_of with ⟨ready, entry, made, converted⟩ | ⟨unready, status, failed, bad⟩
      · dsimp only at grows made converted
        subst made
        have step : convertFields checks casts text entries runtime (field :: fields) =
            ((convertFields checks casts text entries stored fields).1,
              (convertFields checks casts text entries stored fields).2.map (entry :: ·)) := by
          simp only [convertFields, result]
        rw [step]
        obtain ⟨later, rest⟩ := ih stored
        refine ⟨grows.trans later, ?_⟩
        rcases rest with ⟨all, tail, done, each⟩ | ⟨some_unready, status, failed, bad⟩
        · refine Or.inl ⟨List.forall_mem_cons.mpr ⟨ready, all⟩, entry :: tail, ?_,
            .cons (converted.later checks casts text entries later) each⟩
          dsimp only
          rw [done]
          rfl
        · refine Or.inr ⟨?_, status, ?_, bad⟩
          · exact fun every => some_unready (List.forall_mem_cons.mp every).2
          · dsimp only
            rw [failed]
            rfl
      · dsimp only at failed
        subst failed
        have step : convertFields checks casts text entries runtime (field :: fields) =
            (stored, .error status) := by
          simp only [convertFields, result]
        rw [step]
        exact ⟨grows, Or.inr ⟨fun every => unready (every field (by simp)), status, rfl, bad⟩⟩

def presentFields (fields : List GenusField) : List GenusField :=
  fields.filter fun field => (present text entries field).isSome

theorem converted_writes (runtime : HostContext) (fields : List GenusField)
    (converted : List (Option Write))
    (each : List.Forall₂ (Converted checks casts text entries runtime) fields converted) :
    List.Forall₂ (WriteOf checks casts text entries runtime)
      (presentFields text entries fields) (converted.filterMap id) := by
  induction each with
  | nil => exact .nil
  | @cons field entry fields converted first _ ih =>
      rcases entry with _ | write
      · have absent : (present text entries field).isSome = false := by
          rw [show present text entries field = none from first]
          rfl
        simpa [presentFields, absent] using ih
      · have found : (present text entries field).isSome = true := by
          obtain ⟨_, valor, held, _⟩ := first
          rw [held]
          rfl
        have kept : presentFields text entries (field :: fields) =
            field :: presentFields text entries fields := by
          simp [presentFields, found]
        rw [kept]
        exact .cons first ih

def SlotTakes (field : GenusField) : Prop := (placeOf field.output).takes field.kind = true

instance (field : GenusField) : Decidable (SlotTakes field) := inferInstanceAs (Decidable (_ = _))

theorem writeEntries_spec (runtime : HostContext) (fields : List GenusField)
    (writes : List Write)
    (each : List.Forall₂ (WriteOf checks casts text entries runtime) fields writes) :
    ((∀ field ∈ fields, SlotTakes field) ∧ writeEntries writes = (.ok, writes)) ∨
      ((∃ field ∈ fields, ¬SlotTakes field) ∧ (writeEntries writes).1 = .invalidArgument ∧
        ((writeEntries writes).2 = [] ↔ ∃ first rest, fields = first :: rest ∧
          ¬SlotTakes first)) := by
  induction each with
  | nil => exact Or.inl ⟨by simp, rfl⟩
  | @cons field write fields writes first _ ih =>
      obtain ⟨slot, value⟩ := write
      obtain ⟨rfl, valor, _, carries⟩ := first
      have same : writeValue value (placeOf field.output) =
          (placeOf field.output).takes field.kind :=
        writeValue_takes field.kind value _ (carries.of checks casts)
      by_cases takes : SlotTakes field
      · have written : writeEntries ((field.output, value) :: writes) =
            ((writeEntries writes).1, (field.output, value) :: (writeEntries writes).2) := by
          have written : (placeOf field.output).takes field.kind = true := takes
          rw [writeEntries, same, if_pos written]
        rw [written]
        rcases ih with ⟨all, done⟩ | ⟨⟨later, member, bad⟩, failed, _⟩
        · exact Or.inl ⟨List.forall_mem_cons.mpr ⟨takes, all⟩, by rw [done]⟩
        · refine Or.inr ⟨⟨later, List.mem_cons_of_mem _ member, bad⟩, failed, ?_⟩
          constructor
          · intro none_written
            cases none_written
          · rintro ⟨other, rest, equal, refused⟩
            cases equal
            exact absurd takes refused
      · have stopped : writeEntries ((field.output, value) :: writes) =
            (.invalidArgument, []) := by
          have unwritten : ¬(placeOf field.output).takes field.kind = true := takes
          rw [writeEntries, same, if_neg unwritten]
        rw [stopped]
        exact Or.inr ⟨⟨field, by simp, takes⟩, rfl,
          fun _ => ⟨field, fields, rfl, takes⟩, fun _ => rfl⟩

end Fields

section Atomicity

variable (checks : Bool) (casts : FloatCasts) (text : Texts) (runtime : HostContext)
  (valor : Pointer) (fields : Option (List GenusField))

/-- A refused read writes no slot; one that succeeds writes every present field's value at its
slot, in order, and nothing else. -/
structure GenusAtomic : Prop where
  untouched : (valorGetGenus checks casts text runtime valor fields).status ≠ .ok →
    (valorGetGenus checks casts text runtime valor fields).writes = []
  written : (valorGetGenus checks casts text runtime valor fields).status = .ok →
    ∃ entries named, runtime.findValor valor = some (.tabula entries) ∧ fields = some named ∧
      List.Forall₂ (WriteOf checks casts text entries
          (valorGetGenus checks casts text runtime valor fields).runtime)
        (presentFields text entries named)
        (valorGetGenus checks casts text runtime valor fields).writes

/-- Every field is ready, the first present one's slot takes its value and a later one's does
not. -/
def Torn : Prop :=
  ∃ entries named, runtime.findValor valor = some (.tabula entries) ∧ fields = some named ∧
    (∀ field ∈ named, Ready checks casts text entries field) ∧
    ∃ first rest, presentFields text entries named = first :: rest ∧ SlotTakes first ∧
      ∃ later ∈ rest, ¬SlotTakes later

theorem refused_atomic
    (refused : (valorGetGenus checks casts text runtime valor fields).status ≠ .ok)
    (untouched : (valorGetGenus checks casts text runtime valor fields).writes = []) :
    GenusAtomic checks casts text runtime valor fields :=
  ⟨fun _ => untouched, fun succeeded => absurd succeeded refused⟩

theorem unfound_refused
    (missing : ∀ found named, runtime.findValor valor = some (.tabula found) →
      fields = some named → False) :
    valorGetGenus checks casts text runtime valor fields = ⟨runtime, .invalidArgument, []⟩ := by
  rw [valorGetGenus]
  exact missing

theorem get_genus_atomic_iff :
    GenusAtomic checks casts text runtime valor fields ↔
      ¬Torn checks casts text runtime valor fields := by
  by_cases found : ∃ entries named, runtime.findValor valor = some (.tabula entries) ∧
      fields = some named
  · obtain ⟨entries, named, record, rfl⟩ := found
    obtain ⟨_, cases_of⟩ := convertFields_cases checks casts text entries named runtime
    rcases result : convertFields checks casts text entries runtime named with ⟨stored, outcome⟩
    rw [result] at cases_of
    rcases cases_of with ⟨ready, converted, made, each⟩ | ⟨unready, status, failed, bad⟩
    · dsimp only at made each
      subst made
      have writes := converted_writes checks casts text entries stored named converted each
      have read : valorGetGenus checks casts text runtime valor (some named) =
          ⟨stored, (writeEntries (converted.filterMap id)).1,
            (writeEntries (converted.filterMap id)).2⟩ := by
        simp only [valorGetGenus, record, result]
      have spec := writeEntries_spec checks casts text entries stored _ _ writes
      rcases spec with ⟨all, done⟩ | ⟨⟨later, member, refused⟩, status, empty_iff⟩
      · constructor
        · rintro _ ⟨other, others, same, given, _, first, rest, equal, _, late, late_member, bad⟩
          rw [record] at same
          cases same
          cases given
          rw [equal] at all
          exact bad (all late (List.mem_cons_of_mem _ late_member))
        · intro _
          refine ⟨fun bad => ?_, fun _ => ⟨entries, named, record, rfl, ?_⟩⟩
          · rw [read, done] at bad
            exact absurd rfl bad
          · rw [read, done]
            exact writes
      · have not_ok : (valorGetGenus checks casts text runtime valor (some named)).status ≠
            .ok := by
          rw [read]
          dsimp only
          rw [status]
          decide
        constructor
        · rintro atomic ⟨other, others, same, given, _, first, rest, equal, takes, _⟩
          rw [record] at same
          cases same
          cases given
          have untouched := atomic.untouched not_ok
          rw [read] at untouched
          obtain ⟨head, tail, heads, refused_head⟩ := empty_iff.mp untouched
          rw [equal] at heads
          cases heads
          exact refused_head takes
        · intro whole
          apply refused_atomic checks casts text runtime valor (some named) not_ok
          rw [read]
          apply empty_iff.mpr
          rcases split : presentFields text entries named with _ | ⟨first, rest⟩
          · rw [split] at member
            cases member
          · refine ⟨first, rest, rfl, fun takes => whole ?_⟩
            rw [split] at member
            refine ⟨entries, named, record, rfl, ready, first, rest, split, takes, later, ?_,
              refused⟩
            rcases List.mem_cons.mp member with rfl | inside
            · exact absurd takes refused
            · exact inside
    · dsimp only at failed
      subst failed
      have read : valorGetGenus checks casts text runtime valor (some named) =
          ⟨stored, status, []⟩ := by
        simp only [valorGetGenus, record, result]
      constructor
      · rintro _ ⟨other, others, same, given, ready, _⟩
        rw [record] at same
        cases same
        cases given
        exact unready ready
      · intro _
        apply refused_atomic
        · rw [read]
          exact bad
        · rw [read]
  · have read := unfound_refused checks casts text runtime valor fields
      (fun entries named record given => found ⟨entries, named, record, given⟩)
    constructor
    · rintro _ ⟨entries, named, record, given, _⟩
      exact found ⟨entries, named, record, given⟩
    · intro _
      apply refused_atomic
      · rw [read]
        simp
      · rw [read]

end Atomicity

def numberRecord : HostContext :=
  { HostContext.new with valors := [.tabula [("a", .numerus 1), ("b", .numerus 2)]] }

def fieldNames : Texts
  | .raw 1 => some [97]
  | .raw 2 => some [98]
  | _ => none

def identityCasts : FloatCasts := ⟨UInt32.toUInt64, UInt64.toUInt32, Int64.toUInt64⟩

/-- The first slot is written before the second, misaligned, is refused. -/
theorem misaligned_slot_tears :
    ¬GenusAtomic false identityCasts fieldNames numberRecord (.box .valors 0)
      (some [⟨.raw 1, .i64, false, 8⟩, ⟨.raw 2, .i64, false, 17⟩]) := by
  intro atomic
  have untouched := atomic.untouched (by decide)
  revert untouched
  decide

end FaberRuntime.Host
