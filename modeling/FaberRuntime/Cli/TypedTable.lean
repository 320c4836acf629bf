import FaberRuntime.Cli.Typing

namespace FaberRuntime.Cli

open Host

/-! Handles have one content. -/

def scalarOf (runtime : HostContext) : RuntimeValue → Option Scalar
  | .i64 value => some (.integer value)
  | .f64 bits => some (.float bits)
  | .i1 value => some (.bool (value == 1))
  | .ptr (.box .texts index) => runtime.texts[index]?.map .text
  | .ptr (.box .octeti index) => runtime.octeti[index]?.map .octeti
  | .ptr _ => some .null
  | _ => none

theorem HoldsScalar.content {runtime : HostContext} {value : RuntimeValue} {meant : Scalar}
    (holds : HoldsScalar runtime value meant) : scalarOf runtime value = some meant := by
  rcases value with _ | _ | _ | _ | _ | _ | _ | _ | _ | _ | _ | _ | (⟨arena, index⟩ | address)
  case i1 value =>
    cases meant with
    | bool meant =>
        have same : value = meant.toUInt8 := holds
        subst same
        cases meant <;> rfl
    | _ => exact holds.elim
  case ptr.box =>
    cases arena
    case texts =>
      cases meant with
      | text meant => exact congrArg (Option.map Scalar.text) holds
      | null => cases holds
      | _ => exact holds.elim
    case octeti =>
      cases meant with
      | octeti meant => exact congrArg (Option.map Scalar.octeti) holds
      | null => cases holds
      | _ => exact holds.elim
    all_goals
      cases meant with
      | null => cases holds
      | _ => exact holds.elim
  case ptr.raw =>
    cases meant with
    | null => rfl
    | _ => exact holds.elim
  all_goals
    cases meant <;> first | exact holds.elim | exact congrArg (some ∘ _) holds

theorem HoldsScalar.unique {runtime : HostContext} {value : RuntimeValue} {meant meant' : Scalar}
    (holds : HoldsScalar runtime value meant) (holds' : HoldsScalar runtime value meant') :
    meant = meant' :=
  Option.some.inj (holds.content.symm.trans holds'.content)

theorem scalar_not_boxed {runtime : HostContext} {index : Nat} {meant : Scalar}
    {arena : Host.Arena}
    (other : arena = .arrays ∨ arena = .options)
    (holds : HoldsScalar runtime (.ptr (.box arena index)) meant) : False := by
  rcases other with rfl | rfl <;>
  · cases meant with
    | null => cases holds
    | _ => exact holds.elim

theorem Holds.list {runtime : HostContext} {payload : CliPayload} {kind : ValueKind}
    {elements : List Scalar} (holds : Holds runtime payload (.list kind elements)) :
    ∃ index values, payload = .handle (.box .arrays index) ∧
      runtime.arrays[index]? = some ⟨kind, values⟩ ∧
      List.Forall₂ (HoldsScalar runtime) values elements := by
  rcases payload with (⟨arena, index⟩ | address) | _ | _ | _
  case handle.box =>
    cases arena
    case arrays =>
      obtain ⟨values, stored, each⟩ := holds
      exact ⟨index, values, rfl, stored, each⟩
    all_goals exact holds.elim
  all_goals exact holds.elim

theorem Holds.option {runtime : HostContext} {payload : CliPayload} {kind : ValueKind}
    {held : Option Scalar} (holds : Holds runtime payload (.option kind held)) :
    ∃ index value, payload = .handle (.box .options index) ∧
      runtime.options[index]? = some ⟨kind, value⟩ ∧
      Option.Rel (HoldsScalar runtime) value held := by
  rcases payload with (⟨arena, index⟩ | address) | _ | _ | _
  case handle.box =>
    cases arena
    case options =>
      obtain ⟨value, stored, related⟩ := holds
      exact ⟨index, value, rfl, stored, related⟩
    all_goals exact holds.elim
  all_goals exact holds.elim

theorem elements_unique {runtime : HostContext} {values : List RuntimeValue}
    {elements elements' : List Scalar} (each : List.Forall₂ (HoldsScalar runtime) values elements)
    (each' : List.Forall₂ (HoldsScalar runtime) values elements') : elements = elements' := by
  induction each generalizing elements' with
  | nil =>
      cases each'
      rfl
  | cons head tail ih =>
      cases each' with
      | cons head' tail' => rw [head.unique head', ih tail']

theorem Holds.unique {runtime : HostContext} {payload : CliPayload} {meaning meaning' : Meaning}
    (holds : Holds runtime payload meaning) (holds' : Holds runtime payload meaning') :
    meaning = meaning' := by
  cases meaning with
  | scalar meant =>
      cases meaning' with
      | scalar meant' => exact congrArg Meaning.scalar (HoldsScalar.unique holds holds')
      | list kind elements =>
          obtain ⟨index, _, rfl, _⟩ := holds'.list
          exact (scalar_not_boxed (.inl rfl) holds).elim
      | option kind held =>
          obtain ⟨index, _, rfl, _⟩ := holds'.option
          exact (scalar_not_boxed (.inr rfl) holds).elim
  | list kind elements =>
      obtain ⟨index, values, rfl, stored, each⟩ := holds.list
      cases meaning' with
      | scalar meant' => exact (scalar_not_boxed (.inl rfl) holds').elim
      | list kind' elements' =>
          obtain ⟨_, _, same, stored', each'⟩ := holds'.list
          cases same
          rw [stored] at stored'
          cases stored'
          rw [elements_unique each each']
      | option kind' held =>
          obtain ⟨_, _, same, _⟩ := holds'.option
          cases same
  | option kind held =>
      obtain ⟨index, value, rfl, stored, related⟩ := holds.option
      cases meaning' with
      | scalar meant' => exact (scalar_not_boxed (.inr rfl) holds').elim
      | list kind' elements' =>
          obtain ⟨_, _, same, _⟩ := holds'.list
          cases same
      | option kind' held' =>
          obtain ⟨_, _, same, stored', related'⟩ := holds'.option
          cases same
          rw [stored] at stored'
          cases stored'
          cases related with
          | none =>
              cases related'
              rfl
          | some inside =>
              cases related' with
              | some inside' => rw [inside.unique inside']

theorem entryFor_iff {runtime : HostContext} {entry : CliEntry} {meant : Meant}
    (holds : EntryHolds runtime entry meant) (slot : Slot) :
    EntryFor runtime slot entry ↔ MeantFor slot meant := by
  rw [EntryFor, MeantFor, holds.1, holds.2.1]
  refine and_congr_right fun _ => and_congr_right fun _ => ?_
  constructor
  · rintro ⟨meaning, held, promised⟩
    rw [holds.2.2.unique held]
    exact promised
  · intro promised
    exact ⟨meant.value, holds.2.2, promised⟩

theorem entriesFor_iff {runtime : HostContext} {entries : List CliEntry} {meants : List Meant}
    (held : EntriesHold runtime entries meants) (slots : List Slot) :
    List.Forall₂ (EntryFor runtime) slots entries ↔ List.Forall₂ MeantFor slots meants := by
  induction held generalizing slots with
  | nil => exact ⟨fun all => by cases all; exact .nil, fun all => by cases all; exact .nil⟩
  | cons head tail ih =>
      rcases slots with _ | ⟨slot, slots⟩
      · exact ⟨nofun, nofun⟩
      · rw [List.forall₂_cons, List.forall₂_cons, entryFor_iff head slot, ih slots]

section Tables

variable (float : String → Option UInt64) (descriptor : CliDescriptor)

theorem eachMeant_length (operands : List DescriptorOperand) {words : List String}
    {found : List Meant × List String} (meaning : eachMeant float operands words = some found) :
    found.1.length = operands.length := by
  induction operands generalizing words found with
  | nil =>
      cases meaning
      rfl
  | cons operand operands ih =>
      rw [eachMeant] at meaning
      split_ifs at meaning
      · obtain ⟨values, _, more⟩ := Option.bind_eq_some_iff.mp meaning
        obtain ⟨others, behind, rfl⟩ := Option.map_eq_some_iff.mp more
        exact congrArg (· + 1) (ih behind)
      · obtain ⟨meant, _, more⟩ := Option.bind_eq_some_iff.mp meaning
        obtain ⟨others, behind, rfl⟩ := Option.map_eq_some_iff.mp more
        exact congrArg (· + 1) (ih behind)

theorem lineMeant_parts {line : Line} {meant : TableMeant}
    (meaning : lineMeant float descriptor line = some meant) :
    ∃ out found, setItems float line.items (line.options.map initialMeant) = some out ∧
      eachMeant float line.operands (positionalWords line.items) = some found ∧
      meant.entries = out.take line.options.length ++ found.1 ∧
      meant.bindingNames = line.options.map (·.binding) ++ line.operands.map (·.binding) := by
  obtain ⟨entries, surface, rfl⟩ := Option.map_eq_some_iff.mp meaning
  obtain ⟨out, set, more⟩ := Option.bind_eq_some_iff.mp surface
  obtain ⟨operandEntries, assigned, rfl⟩ := Option.map_eq_some_iff.mp more
  obtain ⟨found, each, checked⟩ := Option.bind_eq_some_iff.mp assigned
  split_ifs at checked
  cases checked
  exact ⟨out, found, set, each, rfl, rfl⟩

theorem line_for {line : Line} {meant : TableMeant}
    (located : ∀ item ∈ line.items, Located line.options item)
    (meaning : lineMeant float descriptor line = some meant) :
    List.Forall₂ MeantFor (slots line) meant.entries ↔ Fits line := by
  obtain ⟨out, found, set, each, entries, _⟩ := lineMeant_parts float descriptor meaning
  have sized : (line.options.map optionSlot).length = (out.take line.options.length).length := by
    rw [List.length_take, setItems_length float _ set]
    simp
  rw [entries, slots, forall₂_append sized, options_for float line.options located set,
    operands_for float line.operands each]
  exact ⟨fun both => ⟨both.1, both.2⟩, fun fits => ⟨fits.options, fits.operands⟩⟩

theorem lineOf_located {arguments : List String} {line : Line}
    (read : lineOf descriptor arguments = some line) :
    ∀ item ∈ line.items, Located line.options item := by
  rw [lineOf] at read
  split_ifs at read
  · obtain ⟨⟨globals, commandParts⟩, scanned, more⟩ := Option.bind_eq_some_iff.mp read
    obtain ⟨⟨index, command, words⟩, _, rest⟩ := Option.bind_eq_some_iff.mp more
    obtain ⟨items, itemized, rfl⟩ := Option.map_eq_some_iff.mp rest
    rw [List.forall_mem_append]
    refine ⟨fun item member => ?_, itemize_located descriptor _ words itemized⟩
    have located := (itemizeGlobals_located descriptor arguments scanned item member).1
    cases item with
    | positional word => trivial
    | occurrence index option raw =>
        refine ⟨?_, located.2⟩
        have bound := (List.getElem?_eq_some_iff.mp located.1).choose
        rw [List.getElem?_append_left bound]
        exact located.1
  · obtain ⟨items, itemized, rfl⟩ := Option.map_eq_some_iff.mp read
    exact itemize_located descriptor _ arguments itemized

/-- The default of an option and the same default of an operand leave payloads that say the
same. -/
def SameDefault (runtime : HostContext) (option : DescriptorOption)
    (default : DescriptorDefault) : Prop :=
  ∃ entry after payload after' meaning,
    initialOptionEntry option runtime = .ok (entry, after) ∧
      defaultValuePayload option.ty default runtime = .ok (payload, after') ∧
      Holds after entry.value meaning ∧ Holds after' payload meaning

def IsText : DescriptorDefault → Prop
  | .text _ => True
  | _ => False

def valuesAgree (ty : UInt8) : DescriptorDefault → Prop
  | .text _ => True
  | .expr value => value = "" ∧ ¬IsNumeric ty
  | .nil => ty ≠ tOcteti
  | _ => IsNumeric ty

def DefaultsAgree (option : DescriptorOption) (default : DescriptorDefault) : Prop :=
  if option.flag then option.ty = tBivalens ∧ ¬IsText default
  else valuesAgree option.ty default

theorem flag_default (ty : UInt8) (default : DescriptorDefault) :
    Scalar.bool (some default = some (.bool true)) = operandDefault ty default ↔
      ty = tBivalens ∧ ¬IsText default := by
  have apart : tNumerus ≠ tBivalens ∧ tFractus ≠ tBivalens := by decide
  cases default with
  | text value =>
      simp only [operandDefault, textScalar, IsText]
      split_ifs <;> simp
  | bool value =>
      simp only [operandDefault, operandFiller, IsText]
      split_ifs <;> simp_all
  | _ =>
      simp only [operandDefault, operandFiller, IsText]
      split_ifs <;> simp_all

theorem value_default (ty : UInt8) (default : DescriptorDefault) :
    optionDefault ty default = operandDefault ty default ↔ valuesAgree ty default := by
  cases default with
  | text value => exact ⟨fun _ => trivial, fun _ => rfl⟩
  | expr value =>
      simp only [optionDefault, operandDefault, operandFiller, valuesAgree, IsNumeric]
      split_ifs <;> simp_all
  | nil =>
      have apart : tNumerus ≠ tOcteti ∧ tFractus ≠ tOcteti ∧ tBivalens ≠ tOcteti := by decide
      simp only [optionDefault, operandDefault, fillerScalar, operandFiller, valuesAgree,
        textScalar]
      split_ifs <;> simp_all
  | _ =>
      simp only [optionDefault, operandDefault, fillerScalar, operandFiller, valuesAgree,
        IsNumeric]
      split_ifs <;> simp_all

theorem sameDefault_iff (runtime : HostContext) (option : DescriptorOption)
    (default : DescriptorDefault) (declared : option.default = some default) :
    SameDefault runtime option default ↔ DefaultsAgree option default := by
  obtain ⟨entry, after, made, _, holds⟩ := (initialOptionEntry_means runtime option).meant
  obtain ⟨payload, after', made', _, holds'⟩ :=
    (defaultValuePayload_means runtime option.ty default).meant
  have same : SameDefault runtime option default ↔
      (initialMeant option).value = .scalar (operandDefault option.ty default) := by
    constructor
    · rintro ⟨entry', finish, payload', finish', meaning, run, run', held, held'⟩
      rw [made] at run
      rw [made'] at run'
      cases run
      cases run'
      rw [holds.2.2.unique held]
      exact Holds.unique held' holds'
    · intro equal
      refine ⟨entry, after, payload, after', _, made, made', holds.2.2, ?_⟩
      rw [equal]
      exact holds'
  rw [same, initialMeant, DefaultsAgree, declared]
  split_ifs
  · rw [← flag_default option.ty default]
    exact ⟨fun equal => Meaning.scalar.inj equal, fun equal => congrArg Meaning.scalar equal⟩
  · refine Iff.trans ?_ (value_default option.ty default)
    exact ⟨fun equal => Meaning.scalar.inj equal, fun equal => congrArg Meaning.scalar equal⟩

theorem table_typed (arguments : List String) {runtime after : HostContext}
    {table : RuntimeCliTable}
    (parsed : parseDescriptor float descriptor arguments runtime = .ok (table, after)) :
    ∃ line, lineOf descriptor arguments = some line ∧
      table.bindingNames = line.options.map (·.binding) ++ line.operands.map (·.binding) ∧
      table.entries.length = (slots line).length ∧
      (List.Forall₂ (EntryFor after) (slots line) table.entries ↔ Fits line) := by
  obtain ⟨meant, meaning, _, holds⟩ :=
    (parseDescriptor_means runtime float descriptor arguments).ok parsed
  rw [descriptorMeant_line] at meaning
  obtain ⟨line, read, lined⟩ := Option.bind_eq_some_iff.mp meaning
  have located := lineOf_located descriptor read
  obtain ⟨out, found, set, each, entries, names⟩ := lineMeant_parts float descriptor lined
  refine ⟨line, read, holds.2.1.trans names, ?_, ?_⟩
  · have options := setItems_length float _ set
    have operands := eachMeant_length float _ each
    rw [holds.1.length_eq, entries, slots, List.length_append, List.length_append,
      List.length_take, List.length_map, List.length_map, operands, options, List.length_map,
      min_self]
  · rw [entriesFor_iff holds.1]
    exact line_for float descriptor located lined

/-- Names and entries always stand together, and each entry has what its type promises exactly
when every option and operand fits the route its value takes. A default means the same for an
option and an operand exactly when both routes agree on it. -/
theorem tables_typed_iff :
    (∀ arguments runtime table after,
      parseDescriptor float descriptor arguments runtime = .ok (table, after) →
      ∃ line, lineOf descriptor arguments = some line ∧
        table.bindingNames = line.options.map (·.binding) ++ line.operands.map (·.binding) ∧
        table.entries.length = (slots line).length ∧
        (List.Forall₂ (EntryFor after) (slots line) table.entries ↔ Fits line)) ∧
    (∀ runtime option default, option.default = some default →
      (SameDefault runtime option default ↔ DefaultsAgree option default)) :=
  ⟨fun arguments _ _ _ parsed => table_typed float descriptor arguments parsed, sameDefault_iff⟩

end Tables

def fileOption : DescriptorOption := ⟨"file", tListaTextus, none, some "file", false, none, none⟩

def fileDescriptor : CliDescriptor where
  name := "app"
  mode := 0
  version := none
  description := none
  exit := .none
  globalOptions := []
  globalOperands := []
  options := [fileOption]
  operands := []
  commands := []

/-- A list option that is given holds a text, and a default expression is kept for an option
only. -/
theorem given_list_untyped :
    (∃ table after,
      parseDescriptor (fun _ => none) fileDescriptor ["--file", "a"] HostContext.new =
        .ok (table, after) ∧
      ¬List.Forall₂ (EntryFor after) [optionSlot fileOption] table.entries) ∧
    ¬SameDefault HostContext.new ⟨"mode", tTextus, none, some "mode", false,
      some (.expr "fast"), none⟩ (.expr "fast") := by
  constructor
  · have meaningful : (descriptorMeant (fun _ => none) fileDescriptor ["--file", "a"]).isSome := by
      decide
    obtain ⟨meant, meaning⟩ := Option.isSome_iff_exists.mp meaningful
    have means := parseDescriptor_means HostContext.new (fun _ => none) fileDescriptor
      ["--file", "a"]
    rw [meaning] at means
    obtain ⟨table, after, parsed, _⟩ := means.meant
    obtain ⟨line, read, _, _, typed⟩ := table_typed (fun _ => none) fileDescriptor _ parsed
    have spelled : lineOf fileDescriptor ["--file", "a"] =
        some ⟨[fileOption], [], [.occurrence 0 fileOption (some "a")], -1⟩ := rfl
    rw [spelled] at read
    cases read
    refine ⟨table, after, parsed, fun every => ?_⟩
    have fits := (typed.mp every).options 0 fileOption rfl
    exact fits (.inl rfl)
  · rw [sameDefault_iff _ _ _ rfl]
    intro agree
    have empty : "fast" = "" := agree.1
    exact absurd empty (by decide)

end FaberRuntime.Cli
