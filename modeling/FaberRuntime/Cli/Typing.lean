import FaberRuntime.Cli.Line

namespace FaberRuntime.Cli

open Host

/-! What the getters expect behind a type, and when a table has it. -/

def knownTypes : List UInt8 :=
  [tTextus, tNumerus, tFractus, tBivalens, tOcteti, tListaTextus, tListaNumerus]

def IsList (ty : UInt8) : Prop := ty = tListaTextus ∨ ty = tListaNumerus

instance (ty : UInt8) : Decidable (IsList ty) := inferInstanceAs (Decidable (_ ∨ _))

def IsNumeric (ty : UInt8) : Prop := ty = tNumerus ∨ ty = tFractus ∨ ty = tBivalens

def Unknown (ty : UInt8) : Prop := ty ∉ knownTypes

def Promised (ty : UInt8) (meaning : Meaning) : Prop :=
  if ty = tNumerus then ∃ value, meaning = .scalar (.integer value)
  else if ty = tFractus then ∃ bits, meaning = .scalar (.float bits)
  else if ty = tBivalens then ∃ value, meaning = .scalar (.bool value)
  else if ty = tTextus then ∃ value, meaning = .scalar (.text value)
  else if ty = tOcteti then ∃ bytes, meaning = .scalar (.octeti bytes)
  else if ty = tListaTextus then ∃ values : List String, meaning = .list .ptr (values.map .text)
  else if ty = tListaNumerus then
    ∃ values : List Int64, meaning = .list .i64 (values.map .integer)
  else True

def PromisedCarrier (ty : UInt8) (meaning : Meaning) : Prop :=
  ∃ held, meaning = .option (optionValueKind ty) held ∧
    ∀ value ∈ held, Promised ty (.scalar value)

structure Slot where
  ty : UInt8
  carrier : Bool

def optionSlot (option : DescriptorOption) : Slot :=
  ⟨option.ty, !option.flag && option.default.isNone⟩

def operandSlot (operand : DescriptorOperand) : Slot := ⟨operand.ty, false⟩

def slots (line : Line) : List Slot :=
  line.options.map optionSlot ++ line.operands.map operandSlot

def PromisedIn (slot : Slot) (meaning : Meaning) : Prop :=
  if slot.carrier then PromisedCarrier slot.ty meaning else Promised slot.ty meaning

/-- The entry has the slot's type, and what the getters find in it. -/
def EntryFor (runtime : HostContext) (slot : Slot) (entry : CliEntry) : Prop :=
  entry.kind = slot.ty ∧ entry.carrier = slot.carrier ∧
    ∃ meaning, Holds runtime entry.value meaning ∧ PromisedIn slot meaning

def optionDefaultFits (ty : UInt8) : DescriptorDefault → Prop
  | .text _ => ty = tTextus ∨ ty = tOcteti ∨ Unknown ty
  | .expr _ => ty = tTextus ∨ Unknown ty
  | .nil => ¬IsList ty
  | _ => IsNumeric ty ∨ Unknown ty

def operandDefaultFits (ty : UInt8) : DescriptorDefault → Prop
  | .text _ => ty = tTextus ∨ ty = tOcteti ∨ Unknown ty
  | _ => IsNumeric ty ∨ ty = tTextus ∨ Unknown ty

def OptionFits (option : DescriptorOption) (given : Bool) : Prop :=
  if option.flag then option.ty = tBivalens ∨ Unknown option.ty
  else if given then ¬IsList option.ty
  else ∀ default, option.default = some default → optionDefaultFits option.ty default

def OperandFits (operand : DescriptorOperand) (given : Bool) : Prop :=
  if operand.rest then IsList operand.ty ∨ Unknown operand.ty
  else if given then ¬IsList operand.ty
  else ∀ default, operand.default = some default → operandDefaultFits operand.ty default

def OperandsFit : List DescriptorOperand → List String → Prop
  | [], _ => True
  | operand :: operands, words =>
      OperandFits operand words.head?.isSome ∧
        OperandsFit operands (if operand.rest then [] else words.tail)

structure Fits (line : Line) : Prop where
  options : ∀ index option, line.options[index]? = some option →
    OptionFits option (line.items.any (touches index))
  operands : OperandsFit line.operands (positionalWords line.items)

theorem type_cases (ty : UInt8) :
    ty = tTextus ∨ ty = tNumerus ∨ ty = tFractus ∨ ty = tBivalens ∨ ty = tOcteti ∨
      ty = tListaTextus ∨ ty = tListaNumerus ∨ Unknown ty := by
  by_cases known : ty ∈ knownTypes
  · simp only [knownTypes, List.mem_cons, List.not_mem_nil, or_false] at known
    tauto
  · tauto

theorem promised_unknown {ty : UInt8} (unknown : Unknown ty) (meaning : Meaning) :
    Promised ty meaning := by
  simp only [Unknown, knownTypes, List.mem_cons, List.not_mem_nil, or_false, not_or] at unknown
  obtain ⟨textus, numerus, fractus, bivalens, octeti, texts, numbers⟩ := unknown
  rw [Promised, if_neg numerus, if_neg fractus, if_neg bivalens, if_neg textus, if_neg octeti,
    if_neg texts, if_neg numbers]
  trivial

theorem not_list_of_unknown {ty : UInt8} (unknown : Unknown ty) : ¬IsList ty := by
  rintro (rfl | rfl) <;> exact unknown (by decide)

def Scalar.fits (ty : UInt8) : Scalar → Prop
  | .integer _ => ty = tNumerus ∨ Unknown ty
  | .float _ => ty = tFractus ∨ Unknown ty
  | .bool _ => ty = tBivalens ∨ Unknown ty
  | .text _ => ty = tTextus ∨ Unknown ty
  | .octeti _ => ty = tOcteti ∨ Unknown ty
  | .null => Unknown ty

theorem promised_scalar (ty : UInt8) (value : Scalar) :
    Promised ty (.scalar value) ↔ value.fits ty := by
  rcases type_cases ty with rfl | rfl | rfl | rfl | rfl | rfl | rfl | unknown
  case inr.inr.inr.inr.inr.inr.inr =>
    refine ⟨fun _ => ?_, fun _ => promised_unknown unknown _⟩
    cases value <;> first | exact Or.inr unknown | exact unknown
  all_goals
    cases value <;>
      simp [Promised, Scalar.fits, Unknown, knownTypes, tTextus, tNumerus, tFractus, tBivalens,
        tOcteti, tListaTextus, tListaNumerus]

theorem word_fits (float : String → Option UInt64) {ty : UInt8} {raw : String}
    {value : Scalar} (read : wordScalar float ty raw = some value) :
    value.fits ty ↔ ¬IsList ty := by
  rcases type_cases ty with rfl | rfl | rfl | rfl | rfl | rfl | rfl | unknown
  case inr.inr.inr.inr.inr.inr.inr =>
    refine ⟨fun _ => not_list_of_unknown unknown, fun _ => ?_⟩
    rw [← promised_scalar]
    exact promised_unknown unknown _
  case inr.inl =>
    have mapped : (parseInteger raw).map Scalar.integer = some value := read
    obtain ⟨number, _, rfl⟩ := Option.map_eq_some_iff.mp mapped
    exact ⟨fun _ => by decide, fun _ => .inl rfl⟩
  case inr.inr.inl =>
    have mapped : (float raw).map Scalar.float = some value := read
    obtain ⟨bits, _, rfl⟩ := Option.map_eq_some_iff.mp mapped
    exact ⟨fun _ => by decide, fun _ => .inl rfl⟩
  case inr.inr.inr.inl =>
    have mapped : (parseBool raw).map Scalar.bool = some value := read
    obtain ⟨truth, _, rfl⟩ := Option.map_eq_some_iff.mp mapped
    exact ⟨fun _ => by decide, fun _ => .inl rfl⟩
  all_goals
    simp [wordScalar, textScalar, tTextus, tNumerus, tFractus, tBivalens, tOcteti, tListaTextus,
      tListaNumerus] at read
    subst read
    simp [Scalar.fits, IsList, Unknown, knownTypes, tTextus, tNumerus, tFractus, tBivalens,
      tOcteti, tListaTextus, tListaNumerus]

theorem optionDefault_fits (ty : UInt8) (default : DescriptorDefault) :
    (optionDefault ty default).fits ty ↔ optionDefaultFits ty default := by
  rcases type_cases ty with rfl | rfl | rfl | rfl | rfl | rfl | rfl | unknown
  case inr.inr.inr.inr.inr.inr.inr =>
    rw [← promised_scalar]
    refine ⟨fun _ => ?_, fun _ => promised_unknown unknown _⟩
    cases default with
    | nil => exact not_list_of_unknown unknown
    | text value => exact .inr (.inr unknown)
    | _ => exact .inr unknown
  all_goals
    cases default <;>
      simp [optionDefault, fillerScalar, textScalar, Scalar.fits, optionDefaultFits, IsNumeric,
        IsList, Unknown, knownTypes, tTextus, tNumerus, tFractus, tBivalens, tOcteti,
        tListaTextus, tListaNumerus]

theorem operandDefault_fits (ty : UInt8) (default : DescriptorDefault) :
    (operandDefault ty default).fits ty ↔ operandDefaultFits ty default := by
  rcases type_cases ty with rfl | rfl | rfl | rfl | rfl | rfl | rfl | unknown
  case inr.inr.inr.inr.inr.inr.inr =>
    rw [← promised_scalar]
    refine ⟨fun _ => ?_, fun _ => promised_unknown unknown _⟩
    cases default <;> exact .inr (.inr unknown)
  all_goals
    cases default <;>
      simp [operandDefault, operandFiller, textScalar, Scalar.fits, operandDefaultFits, IsNumeric,
        Unknown, knownTypes, tTextus, tNumerus, tFractus, tBivalens, tOcteti,
        tListaTextus, tListaNumerus]

def MeantFor (slot : Slot) (meant : Meant) : Prop :=
  meant.kind = slot.ty ∧ meant.carrier = slot.carrier ∧ PromisedIn slot meant.value

theorem plain_for (slot : Slot) (plain : slot.carrier = false) (value : Scalar) :
    MeantFor slot (plainMeant slot.ty value) ↔ value.fits slot.ty := by
  rw [MeantFor, PromisedIn, plain, if_neg (by simp), ← promised_scalar]
  exact ⟨fun meant => meant.2.2, fun promised => ⟨rfl, rfl, promised⟩⟩

theorem carrier_for (slot : Slot) (carrier : slot.carrier = true) (held : Option Scalar) :
    MeantFor slot ⟨slot.ty, true, .option (optionValueKind slot.ty) held⟩ ↔
      ∀ value ∈ held, value.fits slot.ty := by
  rw [MeantFor, PromisedIn, carrier, if_pos rfl]
  constructor
  · rintro ⟨_, _, other, same, promised⟩ value member
    cases same
    exact (promised_scalar slot.ty value).mp (promised value member)
  · intro each
    exact ⟨rfl, rfl, held, rfl, fun value member =>
      (promised_scalar slot.ty value).mpr (each value member)⟩

theorem flag_for {option : DescriptorOption} (flag : option.flag = true) (value : Bool) :
    MeantFor (optionSlot option) (plainMeant option.ty (.bool value)) ↔
      option.ty = tBivalens ∨ Unknown option.ty :=
  plain_for (optionSlot option) (by simp [optionSlot, flag]) (.bool value)

theorem initial_for (option : DescriptorOption) :
    MeantFor (optionSlot option) (initialMeant option) ↔ OptionFits option false := by
  rw [initialMeant, OptionFits]
  by_cases flag : option.flag = true
  · rw [if_pos flag, if_pos flag]
    exact flag_for flag _
  · rw [if_neg flag, if_neg flag, if_neg (by simp)]
    rcases given : option.default with _ | default
    · have carries : (optionSlot option).carrier = true := by
        simp [optionSlot, given, flag]
      have nothing := carrier_for (optionSlot option) carries none
      exact nothing.trans (by simp)
    · have plain : (optionSlot option).carrier = false := by
        simp [optionSlot, given]
      have fits := (plain_for (optionSlot option) plain (optionDefault option.ty default)).trans
        (optionDefault_fits option.ty default)
      refine fits.trans ⟨?_, fun each => each default rfl⟩
      rintro own _ ⟨⟩
      exact own

theorem occurrence_for (float : String → Option UInt64) {option : DescriptorOption}
    {raw : Option String} {meant : Meant}
    (meaning : occurrenceMeant float option raw = some meant)
    (valued : raw.isNone = option.flag) :
    MeantFor (optionSlot option) meant ↔ OptionFits option true := by
  rw [OptionFits]
  rcases raw with _ | raw
  · cases meaning
    have flag : option.flag = true := valued.symm
    rw [if_pos flag]
    exact flag_for flag true
  · have unflagged : option.flag = false := valued.symm
    rw [if_neg (by simp [unflagged]), if_pos rfl]
    obtain ⟨value, read, made⟩ := Option.map_eq_some_iff.mp meaning
    rw [← word_fits float read, ← made]
    by_cases carried : option.default.isNone = true
    · rw [if_pos carried]
      have carries : (optionSlot option).carrier = true := by
        simp [optionSlot, unflagged, carried]
      have held := carrier_for (optionSlot option) carries (some value)
      exact held.trans ⟨fun each => each value rfl, fun fits _ same => by cases same; exact fits⟩
    · rw [if_neg carried]
      exact plain_for (optionSlot option) (by simp [optionSlot, carried]) value

theorem operandScalar_fits (float : String → Option UInt64) {operand : DescriptorOperand}
    {raw : String} {value : Scalar} (read : operandScalar float operand raw = some value) :
    value.fits operand.ty ↔ ¬IsList operand.ty := by
  rw [operandScalar] at read
  split_ifs at read with numbers
  · obtain ⟨number, _, rfl⟩ := Option.map_eq_some_iff.mp read
    rw [numbers]
    exact ⟨fun fits => absurd fits (by simp [Scalar.fits, Unknown, knownTypes, tNumerus, tListaNumerus]),
      fun other => absurd (.inr rfl) other⟩
  · exact word_fits float read

theorem operand_for (float : String → Option UInt64) {operand : DescriptorOperand}
    (single : operand.rest = false) {word : Option String} {meant : Meant}
    (meaning : operandMeant float operand word = some meant) :
    MeantFor (operandSlot operand) meant ↔ OperandFits operand word.isSome := by
  rw [OperandFits, if_neg (by simp [single])]
  rcases word with _ | raw
  · obtain ⟨default, given, rfl⟩ := Option.map_eq_some_iff.mp meaning
    have fits := (plain_for (operandSlot operand) rfl (operandDefault operand.ty default)).trans
      (operandDefault_fits operand.ty default)
    refine fits.trans ?_
    rw [given, if_neg (by simp)]
    refine ⟨?_, fun each => each default rfl⟩
    rintro own _ ⟨⟩
    exact own
  · obtain ⟨value, read, rfl⟩ := Option.map_eq_some_iff.mp meaning
    rw [Option.isSome_some, if_pos rfl, ← operandScalar_fits float read]
    exact plain_for (operandSlot operand) rfl value

theorem mapM_texts (words : List String) :
    words.mapM (fun word => some (Scalar.text word)) = some (words.map .text) :=
  List.mapM_pure (m := Option)

theorem mapM_integers {words : List String} {values : List Scalar}
    (read : words.mapM (fun raw => (parseInteger raw).map Scalar.integer) = some values) :
    ∃ numbers : List Int64, values = numbers.map .integer := by
  induction words generalizing values with
  | nil =>
      cases read
      exact ⟨[], rfl⟩
  | cons word words ih =>
      rw [List.mapM_cons] at read
      obtain ⟨first, one, more⟩ := Option.bind_eq_some_iff.mp read
      obtain ⟨others, rest, made⟩ := Option.bind_eq_some_iff.mp more
      cases made
      obtain ⟨number, _, rfl⟩ := Option.map_eq_some_iff.mp one
      obtain ⟨numbers, rfl⟩ := ih rest
      exact ⟨number :: numbers, rfl⟩

theorem list_for (float : String → Option UInt64) {operand : DescriptorOperand}
    (rest : operand.rest = true) {words : List String} {values : List Scalar}
    (read : words.mapM (operandScalar float operand) = some values) (given : Bool) :
    MeantFor (operandSlot operand) (listMeant operand.ty values) ↔ OperandFits operand given := by
  have promised : MeantFor (operandSlot operand) (listMeant operand.ty values) ↔
      Promised operand.ty (listMeant operand.ty values).value :=
    ⟨fun meant => meant.2.2, fun promised => ⟨rfl, rfl, promised⟩⟩
  rw [promised, OperandFits, if_pos rest]
  obtain ⟨binding, ty, rest, default, description⟩ := operand
  dsimp only at *
  rcases type_cases ty with rfl | rfl | rfl | rfl | rfl | rfl | rfl | unknown
  case inr.inr.inr.inr.inr.inr.inr =>
    exact ⟨fun _ => .inr unknown, fun _ => promised_unknown unknown _⟩
  case inr.inr.inr.inr.inr.inl =>
    refine ⟨fun _ => .inl (.inl rfl), fun _ => ⟨words, ?_⟩⟩
    have texts := (mapM_texts words).symm.trans read
    cases texts
    simp [listMeant, elementScalar, tListaTextus, tListaNumerus]
  case inr.inr.inr.inr.inr.inr.inl =>
    refine ⟨fun _ => .inl (.inr rfl), fun _ => ?_⟩
    obtain ⟨numbers, rfl⟩ := mapM_integers read
    exact ⟨numbers, by simp [listMeant, elementScalar]⟩
  all_goals
    simp [Promised, listMeant, IsList, Unknown, knownTypes, tTextus, tNumerus, tFractus,
      tBivalens, tOcteti, tListaTextus, tListaNumerus]

theorem setItems_length (float : String → Option UInt64) (items : List Item)
    {meants out : List Meant} (set : setItems float items meants = some out) :
    out.length = meants.length := by
  induction items generalizing meants with
  | nil =>
      cases set
      rfl
  | cons item items ih =>
      cases item with
      | positional word => exact ih set
      | occurrence index option raw =>
          obtain ⟨meant, _, rest⟩ := Option.bind_eq_some_iff.mp set
          exact (ih rest).trans (List.length_set ..)

theorem setItems_source (float : String → Option UInt64) (items : List Item) (index : Nat)
    {meants out : List Meant} (set : setItems float items meants = some out) {meant : Meant}
    (entry : out[index]? = some meant) :
    (items.any (touches index) = false ∧ meants[index]? = some meant) ∨
      (items.any (touches index) = true ∧ ∃ option raw,
        .occurrence index option raw ∈ items ∧ occurrenceMeant float option raw = some meant) := by
  induction items generalizing meants with
  | nil =>
      cases set
      exact .inl ⟨rfl, entry⟩
  | cons item items ih =>
      cases item with
      | positional word =>
          obtain ⟨untouched, initial⟩ | ⟨touched, option, raw, member, made⟩ := ih set
          · exact .inl ⟨untouched, initial⟩
          · exact .inr ⟨touched, option, raw, List.mem_cons_of_mem _ member, made⟩
      | occurrence other option raw =>
          obtain ⟨value, meaning, rest⟩ := Option.bind_eq_some_iff.mp set
          obtain ⟨untouched, initial⟩ | ⟨touched, option, raw, member, made⟩ := ih rest
          · by_cases own : other = index
            · subst own
              obtain ⟨bound, same⟩ := List.getElem?_eq_some_iff.mp initial
              rw [List.getElem_set_self] at same
              subst same
              exact .inr ⟨by simp [touches], option, raw, List.mem_cons_self, meaning⟩
            · rw [List.getElem?_set_ne own] at initial
              exact .inl ⟨by simp [touches, own, untouched], initial⟩
          · exact .inr ⟨by simp [touched], option, raw, List.mem_cons_of_mem _ member, made⟩

theorem options_for (float : String → Option UInt64) (options : List DescriptorOption)
    {items : List Item} (located : ∀ item ∈ items, Located options item) {out : List Meant}
    (set : setItems float items (options.map initialMeant) = some out) :
    List.Forall₂ MeantFor (options.map optionSlot) (out.take options.length) ↔
      ∀ index option, options[index]? = some option →
        OptionFits option (items.any (touches index)) := by
  have sized : out.length = options.length := by
    rw [setItems_length float items set, List.length_map]
  have each : ∀ index option meant, options[index]? = some option → out[index]? = some meant →
      (MeantFor (optionSlot option) meant ↔ OptionFits option (items.any (touches index))) := by
    intro index option meant declared entry
    obtain ⟨untouched, initial⟩ | ⟨touched, other, raw, member, made⟩ :=
      setItems_source float items index set entry
    · rw [List.getElem?_map, declared] at initial
      cases initial
      rw [untouched]
      exact initial_for option
    · obtain ⟨named, valued⟩ := located _ member
      rw [declared] at named
      cases named
      rw [touched]
      exact occurrence_for float made valued
  rw [List.take_of_length_le (by omega), List.forall₂_iff_get]
  constructor
  · rintro ⟨_, every⟩ index option declared
    obtain ⟨bound, same⟩ := List.getElem?_eq_some_iff.mp declared
    have entry : out[index]? = some out[index] := List.getElem?_eq_getElem _
    have own := every index (by simpa using bound) (by omega)
    refine (each index option _ declared entry).mp ?_
    simpa [same] using own
  · intro every
    refine ⟨by simp [sized], fun index inside inside' => ?_⟩
    have bound : index < options.length := by simpa using inside
    have declared : options[index]? = some options[index] := List.getElem?_eq_getElem _
    have entry : out[index]? = some out[index] := List.getElem?_eq_getElem _
    have own := (each index _ _ declared entry).mpr (every index _ declared)
    simpa using own

theorem operands_for (float : String → Option UInt64) (operands : List DescriptorOperand)
    {words : List String} {found : List Meant × List String}
    (meaning : eachMeant float operands words = some found) :
    List.Forall₂ MeantFor (operands.map operandSlot) found.1 ↔ OperandsFit operands words := by
  induction operands generalizing words found with
  | nil =>
      cases meaning
      exact ⟨fun _ => trivial, fun _ => .nil⟩
  | cons operand operands ih =>
      rw [eachMeant] at meaning
      rw [OperandsFit, List.map_cons]
      rcases rest : operand.rest
      · rw [if_neg (by simp [rest])] at meaning
        obtain ⟨meant, first, more⟩ := Option.bind_eq_some_iff.mp meaning
        obtain ⟨others, behind, rfl⟩ := Option.map_eq_some_iff.mp more
        rw [List.forall₂_cons, operand_for float rest first, ih behind, if_neg (by simp)]
      · rw [if_pos rest] at meaning
        obtain ⟨values, read, more⟩ := Option.bind_eq_some_iff.mp meaning
        obtain ⟨others, behind, rfl⟩ := Option.map_eq_some_iff.mp more
        rw [List.forall₂_cons, list_for float rest read words.head?.isSome, ih behind, if_pos rfl]

theorem forall₂_append {α β : Type} {relates : α → β → Prop} {left : List α} {left' : List β}
    (sized : left.length = left'.length) (right : List α) (right' : List β) :
    List.Forall₂ relates (left ++ right) (left' ++ right') ↔
      List.Forall₂ relates left left' ∧ List.Forall₂ relates right right' := by
  induction left generalizing left' with
  | nil =>
      cases List.length_eq_zero_iff.mp sized.symm
      exact ⟨fun all => ⟨.nil, all⟩, fun both => both.2⟩
  | cons head left ih =>
      rcases left' with _ | ⟨head', left'⟩
      · cases sized
      · rw [List.cons_append, List.cons_append, List.forall₂_cons, List.forall₂_cons,
          ih (Nat.succ.inj sized), and_assoc]

end FaberRuntime.Cli
