import FaberRuntime.Cli.ScanSound

namespace FaberRuntime.Cli

open Host

/-! A command line as a whole: the options and operands in force, and all its parts in order. -/

structure Line where
  options : List DescriptorOption
  operands : List DescriptorOperand
  items : List Item
  selected : Int

def lineOf (descriptor : CliDescriptor) (arguments : List String) : Option Line :=
  if descriptor.mode = modeSubcommand then
    (itemizeGlobals descriptor arguments).bind fun globals =>
      (dispatch descriptor globals.2).toOption.bind fun selected =>
        (itemize descriptor (descriptor.globalOptions ++ selected.2.1.options)
          selected.2.2).map fun items =>
            ⟨descriptor.globalOptions ++ selected.2.1.options,
              descriptor.globalOperands ++ selected.2.1.operands, globals.1 ++ items, selected.1⟩
  else
    (itemize descriptor (descriptor.globalOptions ++ descriptor.options) arguments).map
      fun items => ⟨descriptor.globalOptions ++ descriptor.options,
        descriptor.globalOperands ++ descriptor.operands, items, -1⟩

def Located (options : List DescriptorOption) : Item → Prop
  | .occurrence index option raw => options[index]? = some option ∧ raw.isNone = option.flag
  | .positional _ => True

def touches (index : Nat) : Item → Bool
  | .occurrence other _ _ => other == index
  | .positional _ => false

def IsOccurrence : Item → Prop
  | .occurrence _ _ _ => True
  | .positional _ => False

theorem findOption_located {named : DescriptorOption → Bool} {options : List DescriptorOption}
    {option : DescriptorOption} {index : Nat}
    (found : findOption named options = some (option, index)) : options[index]? = some option := by
  have member := List.mem_of_find?_eq_some found
  exact List.mem_zipIdx_iff_getElem?.mp member

theorem readNamed_located {options : List DescriptorOption} {option : DescriptorOption}
    {index : Nat} {inlineValue next : Option String} {item : Item} {taken : Bool}
    (located : options[index]? = some option)
    (read : readNamed option index inlineValue next = some (item, taken)) :
    Located options item := by
  rw [readNamed] at read
  split_ifs at read with flag
  · cases read
    exact ⟨located, flag.symm⟩
  · obtain ⟨raw, _, made⟩ := Option.map_eq_some_iff.mp read
    cases made
    exact ⟨located, (Bool.not_eq_true _ ▸ flag).symm⟩

theorem readOption_located {options : List DescriptorOption} {arg : String}
    {next : Option String} {item : Item} {taken : Bool}
    (found : readOption options arg next = some (item, taken)) : Located options item := by
  rw [readOption] at found
  split_ifs at found
  · rw [readLong] at found
    obtain ⟨⟨option, index⟩, chosen, read⟩ := Option.bind_eq_some_iff.mp found
    exact readNamed_located (findOption_located chosen) read
  · rw [readShort] at found
    obtain ⟨⟨option, index⟩, chosen, read⟩ := Option.bind_eq_some_iff.mp found
    exact readNamed_located (findOption_located chosen) read

section Parts

variable (descriptor : CliDescriptor)

theorem itemize_located (options : List DescriptorOption) (arguments : List String)
    {items : List Item} (parts : itemize descriptor options arguments = some items) :
    ∀ item ∈ items, Located options item := by
  induction size : arguments.length using Nat.strong_induction_on
    generalizing arguments items with
  | _ size ih =>
  rcases arguments with _ | ⟨arg, rest⟩
  · cases parts
    intro item member
    cases member
  · by_cases separator : arg = "--"
    · rw [itemize, if_pos separator] at parts
      cases parts
      intro item member
      obtain ⟨word, _, rfl⟩ := List.mem_map.mp member
      trivial
    · rcases plain : asksHelp arg || asksVersion descriptor arg
      · rcases starts : isLong arg || isShort arg
        · rw [itemize, if_neg separator, if_neg (by simp [plain]), if_neg (by simp [starts])]
            at parts
          obtain ⟨others, behind, rfl⟩ := Option.map_eq_some_iff.mp parts
          exact List.forall_mem_cons.mpr ⟨trivial,
            ih rest.length (by rw [← size]; simp) rest behind rfl⟩
        · rw [itemize_option descriptor options rest separator plain starts] at parts
          obtain ⟨⟨item, taken⟩, read, more⟩ := Option.bind_eq_some_iff.mp parts
          obtain ⟨others, behind, rfl⟩ := Option.map_eq_some_iff.mp more
          have shorter := wordsBehind_length rest taken
          exact List.forall_mem_cons.mpr ⟨readOption_located read,
            ih (wordsBehind rest taken).length (by rw [← size, List.length_cons]; omega) _ behind
            rfl⟩
      · rw [itemize, if_neg separator, if_pos (by simp [plain])] at parts
        cases parts

theorem itemizeGlobals_located (arguments : List String) {items : List Item}
    {commandParts : List String}
    (parts : itemizeGlobals descriptor arguments = some (items, commandParts)) :
    ∀ item ∈ items, Located descriptor.globalOptions item ∧ IsOccurrence item := by
  induction size : arguments.length using Nat.strong_induction_on
    generalizing arguments items with
  | _ size ih =>
  rcases arguments with _ | ⟨arg, rest⟩
  · cases parts
    intro item member
    cases member
  · rcases plain : asksHelp arg || asksVersion descriptor arg
    · rcases starts : isLong arg || isShort arg
      · rw [itemizeGlobals, if_neg (by simp [plain]), if_neg (by simp [starts])] at parts
        cases parts
        intro item member
        cases member
      · rw [itemizeGlobals_option descriptor rest plain starts] at parts
        obtain ⟨⟨item, taken⟩, read, more⟩ := Option.bind_eq_some_iff.mp parts
        obtain ⟨⟨others, left⟩, behind, same⟩ := Option.map_eq_some_iff.mp more
        cases same
        have shorter := wordsBehind_length rest taken
        obtain ⟨index, option, raw, rfl⟩ := readOption_occurrence read
        exact List.forall_mem_cons.mpr ⟨⟨readOption_located read, trivial⟩,
          ih (wordsBehind rest taken).length (by rw [← size, List.length_cons]; omega) _ behind
            rfl⟩
    · rw [itemizeGlobals, if_pos (by simp [plain])] at parts
      cases parts

theorem positionalWords_append (items others : List Item) :
    positionalWords (items ++ others) = positionalWords items ++ positionalWords others :=
  List.filterMap_append

theorem positionalWords_occurrences {items : List Item}
    (occurrences : ∀ item ∈ items, IsOccurrence item) : positionalWords items = [] := by
  rw [positionalWords, List.filterMap_eq_nil_iff]
  intro item member
  have occurs := occurrences item member
  cases item with
  | occurrence index option raw => rfl
  | positional word => exact occurs.elim

end Parts

section Meanings

variable (float : String → Option UInt64)

theorem setItems_append (items others : List Item) (meants : List Meant) :
    setItems float (items ++ others) meants =
      (setItems float items meants).bind (setItems float others) := by
  induction items generalizing meants with
  | nil => rfl
  | cons item items ih =>
      rw [List.cons_append, setItems_cons, setItems_cons float item items]
      rcases setItems float [item] meants with _ | out
      · rfl
      · exact ih out

theorem setItems_front (options : List DescriptorOption) {items : List Item}
    (located : ∀ item ∈ items, Located options item) {meants : List Meant}
    (sized : meants.length = options.length) (more : List Meant) :
    setItems float items (meants ++ more) =
      (setItems float items meants).map (· ++ more) := by
  induction items generalizing meants with
  | nil => rfl
  | cons item items ih =>
      rw [List.forall_mem_cons] at located
      cases item with
      | positional word => exact ih located.2 sized
      | occurrence index option raw =>
          have bound : index < meants.length := by
            rw [sized]
            exact (List.getElem?_eq_some_iff.mp located.1.1).choose
          simp only [setItems]
          rcases occurrenceMeant float option raw with _ | meant
          · rfl
          · rw [Option.bind_some, Option.bind_some, List.set_append_left _ _ bound]
            exact ih located.2 (by rw [List.length_set, sized])

def lineMeant (descriptor : CliDescriptor) (line : Line) : Option TableMeant :=
  (surfaceMeant float line.options line.operands line.items
    (line.options.map initialMeant)).map fun entries =>
      ⟨entries, line.options.map (·.binding) ++ line.operands.map (·.binding), descriptor.exit,
        line.selected⟩

theorem descriptorMeant_line (descriptor : CliDescriptor) (arguments : List String) :
    descriptorMeant float descriptor arguments =
      (lineOf descriptor arguments).bind (lineMeant float descriptor) := by
  rw [descriptorMeant, lineOf]
  split_ifs
  · rw [subcommandMeant]
    rcases scanned : itemizeGlobals descriptor arguments with _ | ⟨globals, commandParts⟩
    · rfl
    · have located := itemizeGlobals_located descriptor arguments scanned
      simp only [Option.bind_some]
      rcases (dispatch descriptor commandParts).toOption with _ | ⟨index, command, words⟩
      · rcases setItems float globals (descriptor.globalOptions.map initialMeant) <;> rfl
      · simp only [Option.bind_some]
        rcases itemize descriptor (descriptor.globalOptions ++ command.options) words
          with _ | items
        · rcases setItems float globals (descriptor.globalOptions.map initialMeant) <;> rfl
        · have front := setItems_front float descriptor.globalOptions
            (fun item member => (located item member).1) (List.length_map initialMeant)
            (command.options.map initialMeant)
          simp only [Option.bind_some, Option.map_some, lineMeant, surfaceMeant, setItems_append,
            List.map_append, positionalWords_append,
            positionalWords_occurrences fun item member => (located item member).2,
            List.nil_append]
          rw [front]
          rcases setItems float globals (descriptor.globalOptions.map initialMeant) <;> rfl
  · dsimp only
    rcases itemize descriptor (descriptor.globalOptions ++ descriptor.options) arguments <;> rfl

end Meanings

end FaberRuntime.Cli
