import FaberRuntime.Cli.Line

namespace FaberRuntime.Cli

open Host

/-! Complete occurrences and positional words may change places. -/

structure Part where
  item : Item
  words : List String

def wordsOf (parts : List Part) : List String := parts.flatMap (·.words)

def StartsOption (descriptor : CliDescriptor) (word : String) : Prop :=
  word ≠ "--" ∧ (asksHelp word || asksVersion descriptor word) = false ∧
    (isLong word || isShort word) = true

def IsPositional (descriptor : CliDescriptor) (word : String) : Prop :=
  word ≠ "--" ∧ (asksHelp word || asksVersion descriptor word) = false ∧
    (isLong word || isShort word) = false

/-- A positional word, an option word that takes no other, or one with the word it takes. -/
inductive IsPart (descriptor : CliDescriptor) (options : List DescriptorOption) : Part → Prop
  | positional (word : String) (plain : IsPositional descriptor word) :
      IsPart descriptor options ⟨.positional word, [word]⟩
  | alone (item : Item) (arg : String) (starts : StartsOption descriptor arg)
      (reads : ∀ next, readOption options arg next = some (item, false)) :
      IsPart descriptor options ⟨item, [arg]⟩
  | valued (item : Item) (arg raw : String) (starts : StartsOption descriptor arg)
      (reads : readOption options arg (some raw) = some (item, true)) :
      IsPart descriptor options ⟨item, [arg, raw]⟩

def isWord : Item → Bool
  | .occurrence _ _ _ => false
  | .positional _ => true

/-- The occurrences of each option keep their order, and so do the positional words. -/
structure Rearranged (parts parts' : List Part) : Prop where
  occurrences : ∀ index, parts.filter (fun part => touches index part.item) =
    parts'.filter (fun part => touches index part.item)
  positionals : parts.filter (fun part => isWord part.item) =
    parts'.filter (fun part => isWord part.item)

theorem Rearranged.mem {parts parts' : List Part} (rearranged : Rearranged parts parts')
    {part : Part} (member : part ∈ parts') : part ∈ parts := by
  rcases kind : part.item with ⟨index, option, raw⟩ | word
  · have kept : part ∈ parts'.filter (fun part => touches index part.item) :=
      List.mem_filter.mpr ⟨member, by simp [kind, touches]⟩
    rw [← rearranged.occurrences index] at kept
    exact (List.mem_filter.mp kept).1
  · have kept : part ∈ parts'.filter (fun part => isWord part.item) :=
      List.mem_filter.mpr ⟨member, by simp [kind, isWord]⟩
    rw [← rearranged.positionals] at kept
    exact (List.mem_filter.mp kept).1

/-- Tables that say the same, each in its own context. -/
def SameTable (after : HostContext) (table : RuntimeCliTable) (after' : HostContext)
    (table' : RuntimeCliTable) : Prop :=
  ∃ meant, TableHolds after table meant ∧ TableHolds after' table' meant

section Entries

variable (float : String → Option UInt64)

theorem setItems_at (index : Nat) (items : List Item) {meants meants' out : List Meant}
    (same : meants[index]? = meants'[index]?) (set : setItems float items meants = some out) :
    ∃ out', setItems float (items.filter (touches index)) meants' = some out' ∧
      out[index]? = out'[index]? := by
  induction items generalizing meants meants' with
  | nil =>
      cases set
      exact ⟨meants', rfl, same⟩
  | cons item items ih =>
      cases item with
      | positional word => exact ih same set
      | occurrence other option raw =>
          simp only [setItems] at set
          obtain ⟨meant, meaning, set⟩ := Option.bind_eq_some_iff.mp set
          by_cases own : other = index
          · subst own
            have entered : (meants.set other meant)[other]? = (meants'.set other meant)[other]? := by
              rw [List.getElem?_set_self', List.getElem?_set_self', same]
            obtain ⟨out', set', equal⟩ := ih entered set
            refine ⟨out', ?_, equal⟩
            rw [List.filter_cons_of_pos (by simp [touches])]
            simp only [setItems, meaning, Option.bind_some]
            exact set'
          · have kept : (meants.set other meant)[index]? = meants'[index]? := by
              rw [List.getElem?_set_ne own, same]
            obtain ⟨out', set', equal⟩ := ih kept set
            refine ⟨out', ?_, equal⟩
            rw [List.filter_cons_of_neg (by simpa [touches] using own)]
            exact set'

def Settable : Item → Prop
  | .occurrence _ option raw => (occurrenceMeant float option raw).isSome
  | .positional _ => True

theorem setItems_isSome (items : List Item) (meants : List Meant) :
    (setItems float items meants).isSome ↔ ∀ item ∈ items, Settable float item := by
  induction items generalizing meants with
  | nil => simp [setItems]
  | cons item items ih =>
      rw [List.forall_mem_cons]
      cases item with
      | positional word => exact (ih meants).trans ⟨fun each => ⟨trivial, each⟩, fun both => both.2⟩
      | occurrence index option raw =>
          have settable : Settable float (.occurrence index option raw) ↔
              (occurrenceMeant float option raw).isSome := Iff.rfl
          rw [settable, setItems]
          rcases occurrenceMeant float option raw with _ | meant
          · simp
          · rw [Option.bind_some, ih]
            exact ⟨fun each => ⟨rfl, each⟩, fun both => both.2⟩

theorem setItems_rearranged {items items' : List Item}
    (same : ∀ index, items.filter (touches index) = items'.filter (touches index))
    (meants : List Meant) : setItems float items meants = setItems float items' meants := by
  have settable : ∀ {some_items others : List Item},
      (∀ index, some_items.filter (touches index) = others.filter (touches index)) →
      (∀ item ∈ some_items, Settable float item) → ∀ item ∈ others, Settable float item := by
    intro some_items others equal each item member
    cases item with
    | positional word => trivial
    | occurrence index option raw =>
        have kept : .occurrence index option raw ∈ others.filter (touches index) :=
          List.mem_filter.mpr ⟨member, by simp [touches]⟩
        rw [← equal index] at kept
        exact each _ (List.mem_filter.mp kept).1
  rcases set : setItems float items meants with _ | out
  · rcases set' : setItems float items' meants with _ | out'
    · rfl
    · have each := (setItems_isSome float items' meants).mp (by rw [set']; rfl)
      have some_set := (setItems_isSome float items meants).mpr
        (settable (fun index => (same index).symm) each)
      rw [set] at some_set
      cases some_set
  · have each := (setItems_isSome float items meants).mp (by rw [set]; rfl)
    have some_set := (setItems_isSome float items' meants).mpr (settable same each)
    obtain ⟨out', set'⟩ := Option.isSome_iff_exists.mp some_set
    rw [set']
    congr 1
    apply List.ext_getElem?
    intro index
    obtain ⟨first, set_first, at_first⟩ := setItems_at float index items rfl set
    obtain ⟨second, set_second, at_second⟩ := setItems_at float index items' rfl set'
    rw [same index, set_second] at set_first
    cases set_first
    rw [at_first, at_second]

theorem positionalWords_words (items : List Item) :
    positionalWords items = positionalWords (items.filter isWord) := by
  induction items with
  | nil => rfl
  | cons item items ih =>
      cases item with
      | positional word => exact congrArg (word :: ·) ih
      | occurrence index option raw => exact ih

theorem filter_items (keeps : Item → Bool) (parts : List Part) :
    (parts.map (·.item)).filter keeps =
      (parts.filter fun part => keeps part.item).map (·.item) :=
  List.filter_map

theorem surfaceMeant_rearranged {parts parts' : List Part} (same : Rearranged parts parts')
    (options : List DescriptorOption) (operands : List DescriptorOperand) (meants : List Meant) :
    surfaceMeant float options operands (parts.map (·.item)) meants =
      surfaceMeant float options operands (parts'.map (·.item)) meants := by
  have occurrences : ∀ index, (parts.map (·.item)).filter (touches index) =
      (parts'.map (·.item)).filter (touches index) := by
    intro index
    rw [filter_items, filter_items, same.occurrences index]
  have words : positionalWords (parts.map (·.item)) = positionalWords (parts'.map (·.item)) := by
    rw [positionalWords_words, positionalWords_words (parts'.map _), filter_items, filter_items,
      same.positionals]
  rw [surfaceMeant, surfaceMeant, setItems_rearranged float occurrences, words]

end Entries

theorem readNamed_untaken {option : DescriptorOption} {index : Nat}
    {inlineValue next : Option String} {item : Item}
    (read : readNamed option index inlineValue next = some (item, false))
    (other : Option String) :
    readNamed option index inlineValue other = some (item, false) := by
  rw [readNamed] at read ⊢
  rcases inlineValue with _ | value
  · split_ifs at read ⊢
    · exact read
    · rcases next with _ | raw
      · cases read
      · cases read
  · exact read

theorem readOption_untaken {options : List DescriptorOption} {arg : String}
    {next : Option String} {item : Item}
    (found : readOption options arg next = some (item, false)) (other : Option String) :
    readOption options arg other = some (item, false) := by
  rw [readOption] at found ⊢
  split_ifs at found ⊢
  · rw [readLong] at found ⊢
    obtain ⟨⟨option, index⟩, chosen, read⟩ := Option.bind_eq_some_iff.mp found
    rw [chosen]
    exact readNamed_untaken read other
  · rw [readShort] at found ⊢
    obtain ⟨⟨option, index⟩, chosen, read⟩ := Option.bind_eq_some_iff.mp found
    rw [chosen]
    exact readNamed_untaken read other

section Words

variable {descriptor : CliDescriptor} {options : List DescriptorOption}

theorem itemize_part {part : Part} (complete : IsPart descriptor options part)
    (behind : List String) :
    itemize descriptor options (part.words ++ behind) =
      (itemize descriptor options behind).map (part.item :: ·) := by
  cases complete with
  | positional word plain =>
      rw [List.singleton_append, itemize, if_neg plain.1, if_neg (by simp [plain.2.1]),
        if_neg (by simp [plain.2.2])]
  | alone item arg starts reads =>
      rw [List.singleton_append, itemize_option descriptor options behind starts.1 starts.2.1
        starts.2.2, reads]
      rfl
  | valued item arg raw starts reads =>
      show itemize descriptor options (arg :: raw :: behind) = _
      rw [itemize_option descriptor options (raw :: behind) starts.1 starts.2.1 starts.2.2,
        List.head?_cons, reads]
      rfl

theorem itemize_parts {parts : List Part}
    (complete : ∀ part ∈ parts, IsPart descriptor options part) :
    itemize descriptor options (wordsOf parts) = some (parts.map (·.item)) := by
  induction parts with
  | nil => rfl
  | cons part parts ih =>
      rw [List.forall_mem_cons] at complete
      rw [wordsOf, List.flatMap_cons, itemize_part complete.1, ← wordsOf, ih complete.2]
      rfl

theorem parts_exist (arguments : List String) (separated : "--" ∉ arguments) {items : List Item}
    (read : itemize descriptor options arguments = some items) :
    ∃ parts, (∀ part ∈ parts, IsPart descriptor options part) ∧ wordsOf parts = arguments := by
  induction size : arguments.length using Nat.strong_induction_on
    generalizing arguments items with
  | _ size ih =>
  rcases arguments with _ | ⟨arg, rest⟩
  · exact ⟨[], fun _ => List.not_mem_nil.elim, rfl⟩
  · rw [List.mem_cons, not_or] at separated
    have other : arg ≠ "--" := fun same => separated.1 same.symm
    rcases plain : asksHelp arg || asksVersion descriptor arg
    · rcases starts : isLong arg || isShort arg
      · rw [itemize, if_neg other, if_neg (by simp [plain]), if_neg (by simp [starts])] at read
        obtain ⟨others, behind, _⟩ := Option.map_eq_some_iff.mp read
        obtain ⟨parts, complete, spelled⟩ :=
          ih rest.length (by rw [← size]; simp) rest separated.2 behind rfl
        exact ⟨⟨.positional arg, [arg]⟩ :: parts,
          List.forall_mem_cons.mpr ⟨.positional arg ⟨other, plain, starts⟩, complete⟩,
          congrArg (arg :: ·) spelled⟩
      · rw [itemize_option descriptor options rest other plain starts] at read
        obtain ⟨⟨item, taken⟩, first, more⟩ := Option.bind_eq_some_iff.mp read
        obtain ⟨others, behind, _⟩ := Option.map_eq_some_iff.mp more
        have shorter := wordsBehind_length rest taken
        have unseparated : "--" ∉ wordsBehind rest taken := by
          rw [wordsBehind]
          split_ifs
          · exact fun inside => separated.2 (List.mem_of_mem_tail inside)
          · exact separated.2
        obtain ⟨parts, complete, spelled⟩ := ih (wordsBehind rest taken).length
          (by rw [← size, List.length_cons]; omega) _ unseparated behind rfl
        rcases taken with _ | _
        · exact ⟨⟨item, [arg]⟩ :: parts,
            List.forall_mem_cons.mpr ⟨.alone item arg ⟨other, plain, starts⟩
              (readOption_untaken first), complete⟩,
            congrArg (arg :: ·) spelled⟩
        · rcases rest with _ | ⟨raw, after⟩
          · exact (readOption_taken first).elim
          · exact ⟨⟨item, [arg, raw]⟩ :: parts,
              List.forall_mem_cons.mpr ⟨.valued item arg raw ⟨other, plain, starts⟩ first,
                complete⟩,
              congrArg (fun words => arg :: raw :: words) spelled⟩
    · rw [itemize, if_neg other, if_pos (by simp [plain])] at read
      cases read

theorem itemizeGlobals_parts {parts : List Part}
    (complete : ∀ part ∈ parts, IsPart descriptor descriptor.globalOptions part ∧
      isWord part.item = false) (behind : List String) :
    itemizeGlobals descriptor (wordsOf parts ++ behind) =
      (itemizeGlobals descriptor behind).map fun found =>
        (parts.map (·.item) ++ found.1, found.2) := by
  induction parts with
  | nil =>
      show itemizeGlobals descriptor behind = _
      rcases itemizeGlobals descriptor behind <;> rfl
  | cons part parts ih =>
      rw [List.forall_mem_cons] at complete
      have rest := ih complete.2
      obtain ⟨part_complete, occurs⟩ := complete.1
      cases part_complete with
      | positional word plain => cases occurs
      | alone item arg starts reads =>
          show itemizeGlobals descriptor (arg :: (wordsOf parts ++ behind)) = _
          rw [itemizeGlobals_option descriptor _ starts.2.1 starts.2.2, reads, Option.bind_some]
          show (itemizeGlobals descriptor (wordsOf parts ++ behind)).map _ = _
          rw [rest, Option.map_map]
          rfl
      | valued item arg raw starts reads =>
          show itemizeGlobals descriptor (arg :: raw :: (wordsOf parts ++ behind)) = _
          rw [itemizeGlobals_option descriptor _ starts.2.1 starts.2.2, List.head?_cons, reads,
            Option.bind_some]
          show (itemizeGlobals descriptor (wordsOf parts ++ behind)).map _ = _
          rw [rest, Option.map_map]
          rfl

end Words

section Tables

variable (float : String → Option UInt64) (descriptor : CliDescriptor)

theorem same_table {arguments arguments' : List String}
    (same : descriptorMeant float descriptor arguments =
      descriptorMeant float descriptor arguments')
    {runtime after : HostContext} {table : RuntimeCliTable}
    (parsed : parseDescriptor float descriptor arguments runtime = .ok (table, after)) :
    ∃ table' after', parseDescriptor float descriptor arguments' runtime = .ok (table', after') ∧
      SameTable after table after' table' := by
  obtain ⟨meant, meaning, _, holds⟩ :=
    (parseDescriptor_means runtime float descriptor arguments).ok parsed
  have means := parseDescriptor_means runtime float descriptor arguments'
  rw [← same, meaning] at means
  obtain ⟨table', after', parsed', _, holds'⟩ := means.meant
  exact ⟨table', after', parsed', meant, holds, holds'⟩

/-- The words left select the command by its path, and the scan of global options ends there. -/
structure SelectedByPath (index : Nat) (command : DescriptorCommand) (behind : List String) :
    Prop where
  stops : ∃ first others, command.path = first :: others ∧ IsPositional descriptor first
  dispatched : dispatch descriptor (command.path ++ behind) = .ok (index, command, behind)

theorem lineOf_parts (subcommand : descriptor.mode = modeSubcommand) {index : Nat}
    {command : DescriptorCommand} {before after : List Part}
    (globals : ∀ part ∈ before, IsPart descriptor descriptor.globalOptions part ∧
      isWord part.item = false)
    (complete : ∀ part ∈ after, IsPart descriptor
      (descriptor.globalOptions ++ command.options) part)
    (selected : SelectedByPath descriptor index command (wordsOf after)) :
    lineOf descriptor (wordsOf before ++ (command.path ++ wordsOf after)) =
      some ⟨descriptor.globalOptions ++ command.options,
        descriptor.globalOperands ++ command.operands, (before ++ after).map (·.item), index⟩ := by
  obtain ⟨first, others, path, plain⟩ := selected.stops
  have stopped : itemizeGlobals descriptor (command.path ++ wordsOf after) =
      some ([], command.path ++ wordsOf after) := by
    rw [path, List.cons_append, itemizeGlobals, if_neg (by simp [plain.2.1]),
      if_neg (by simp [plain.2.2])]
  rw [lineOf, if_pos subcommand, itemizeGlobals_parts globals, stopped, Option.map_some,
    Option.bind_some, selected.dispatched]
  show (itemize descriptor (descriptor.globalOptions ++ command.options) (wordsOf after)).map _ = _
  rw [itemize_parts complete, Option.map_some, List.map_append, List.append_nil]

/-- On one surface every rearrangement of the parts makes the same table, and in front of a
command and behind it global options count the same, while the command is still selected. -/
theorem options_commute :
    (descriptor.mode ≠ modeSubcommand →
      ∀ arguments runtime table after,
        (∀ word ∈ arguments, word ≠ "--" ∧ asksHelp word = false ∧
          asksVersion descriptor word = false) →
        parseDescriptor float descriptor arguments runtime = .ok (table, after) →
        (∃ parts, (∀ part ∈ parts, IsPart descriptor
            (descriptor.globalOptions ++ descriptor.options) part) ∧ wordsOf parts = arguments) ∧
        ∀ parts parts',
          (∀ part ∈ parts, IsPart descriptor
            (descriptor.globalOptions ++ descriptor.options) part) →
          wordsOf parts = arguments → Rearranged parts parts' →
          ∃ table' after',
            parseDescriptor float descriptor (wordsOf parts') runtime = .ok (table', after') ∧
              SameTable after table after' table') ∧
    (descriptor.mode = modeSubcommand →
      ∀ index command before behind before' behind' runtime table after,
        (∀ part ∈ before ++ before', IsPart descriptor descriptor.globalOptions part ∧
          isWord part.item = false) →
        (∀ part ∈ behind ++ behind', IsPart descriptor
          (descriptor.globalOptions ++ command.options) part) →
        SelectedByPath descriptor index command (wordsOf behind) →
        SelectedByPath descriptor index command (wordsOf behind') →
        Rearranged (before ++ behind) (before' ++ behind') →
        parseDescriptor float descriptor
          (wordsOf before ++ (command.path ++ wordsOf behind)) runtime = .ok (table, after) →
        ∃ table' after',
          parseDescriptor float descriptor
            (wordsOf before' ++ (command.path ++ wordsOf behind')) runtime =
              .ok (table', after') ∧
            SameTable after table after' table') := by
  constructor
  · intro single arguments runtime table after plain parsed
    constructor
    · obtain ⟨meant, meaning, _⟩ :=
        (parseDescriptor_means runtime float descriptor arguments).ok parsed
      rw [descriptorMeant_line, lineOf, if_neg single] at meaning
      obtain ⟨line, lined, _⟩ := Option.bind_eq_some_iff.mp meaning
      obtain ⟨items, read, _⟩ := Option.map_eq_some_iff.mp lined
      exact parts_exist arguments (fun inside => (plain "--" inside).1 rfl) read
    · intro parts parts' complete spelled rearranged
      subst spelled
      have complete' : ∀ part ∈ parts', IsPart descriptor
          (descriptor.globalOptions ++ descriptor.options) part := by
        intro part member
        exact complete part (rearranged.mem member)
      apply same_table float descriptor _ parsed
      rw [descriptorMeant_line, descriptorMeant_line, lineOf, lineOf, if_neg single, if_neg single,
        itemize_parts complete, itemize_parts complete']
      simp only [Option.map_some, Option.bind_some, lineMeant]
      rw [surfaceMeant_rearranged float rearranged]
  · intro subcommand index command before behind before' behind' runtime table after globals
      complete selected selected' rearranged parsed
    rw [List.forall_mem_append] at globals complete
    apply same_table float descriptor _ parsed
    rw [descriptorMeant_line, descriptorMeant_line,
      lineOf_parts descriptor subcommand globals.1 complete.1 selected,
      lineOf_parts descriptor subcommand globals.2 complete.2 selected']
    simp only [Option.bind_some, lineMeant]
    rw [surfaceMeant_rearranged float rearranged]

end Tables

/-- Global options `--v` and `--n`, and a command `list` of one word. -/
def listDescriptor : CliDescriptor where
  name := "app"
  mode := modeSubcommand
  version := none
  description := none
  exit := .none
  globalOptions := [⟨"v", tBivalens, none, some "v", true, none, none⟩,
    ⟨"n", tTextus, none, some "n", false, none, none⟩]
  globalOperands := []
  options := []
  operands := []
  commands := [⟨["list"], [], [], [⟨"path", tTextus, false, none, none⟩], none⟩]

def flagPart : Part :=
  ⟨.occurrence 0 ⟨"v", tBivalens, none, some "v", true, none, none⟩ none, ["--v"]⟩

def namePart : Part :=
  ⟨.occurrence 1 ⟨"n", tTextus, none, some "n", false, none, none⟩ (some "x"), ["--n", "x"]⟩

def pathPart : Part := ⟨.positional "src", ["src"]⟩

/-- A valued option moves from in front of the command and a flag to the end of the line. -/
theorem moved_option_commutes :
    ∃ table after table' after',
      parseDescriptor (fun _ => none) listDescriptor ["--n", "x", "--v", "list", "src"]
        HostContext.new = .ok (table, after) ∧
      parseDescriptor (fun _ => none) listDescriptor ["--v", "list", "src", "--n", "x"]
        HostContext.new = .ok (table', after') ∧
      SameTable after table after' table' := by
  have flag : IsPart listDescriptor listDescriptor.globalOptions flagPart :=
    have reads : readOption listDescriptor.globalOptions "--v" none =
        some (flagPart.item, false) := rfl
    .alone _ _ ⟨by decide, by decide, by decide⟩ (readOption_untaken reads)
  have name : IsPart listDescriptor listDescriptor.globalOptions namePart :=
    .valued _ _ _ ⟨by decide, by decide, by decide⟩ rfl
  have path : IsPart listDescriptor listDescriptor.globalOptions pathPart :=
    .positional _ ⟨by decide, by decide, by decide⟩
  have globals : ∀ part ∈ [namePart, flagPart] ++ [flagPart],
      IsPart listDescriptor listDescriptor.globalOptions part ∧ isWord part.item = false := by
    simp only [List.cons_append, List.nil_append, List.forall_mem_cons]
    exact ⟨⟨name, rfl⟩, ⟨flag, rfl⟩, ⟨flag, rfl⟩, nofun⟩
  have behind : ∀ part ∈ [pathPart] ++ [pathPart, namePart],
      IsPart listDescriptor (listDescriptor.globalOptions ++ []) part := by
    simp only [List.cons_append, List.nil_append, List.append_nil, List.forall_mem_cons]
    exact ⟨path, path, name, nofun⟩
  have rearranged : Rearranged ([namePart, flagPart] ++ [pathPart])
      ([flagPart] ++ [pathPart, namePart]) := by
    refine ⟨fun index => ?_, rfl⟩
    rcases index with _ | _ | index <;> rfl
  have computed : (descriptorMeant (fun _ => none) listDescriptor
      ["--n", "x", "--v", "list", "src"]).isSome = true := by decide
  obtain ⟨meant, meaning⟩ := Option.isSome_iff_exists.mp computed
  have means := parseDescriptor_means HostContext.new (fun _ => none) listDescriptor
    ["--n", "x", "--v", "list", "src"]
  rw [meaning] at means
  obtain ⟨table, after, parsed, _⟩ := means.meant
  obtain ⟨table', after', parsed', same⟩ := (options_commute (fun _ => none) listDescriptor).2 rfl 0
    ⟨["list"], [], [], [⟨"path", tTextus, false, none, none⟩], none⟩ [namePart, flagPart] [pathPart]
    [flagPart] [pathPart, namePart] HostContext.new table after globals behind
    ⟨⟨"list", [], rfl, by decide, by decide, by decide⟩, by decide⟩
    ⟨⟨"list", [], rfl, by decide, by decide, by decide⟩, by decide⟩ rearranged parsed
  exact ⟨table, after, table', after', parsed, parsed', same⟩

/-- A global flag `--v`, a command `a`, and a command with the path `a --v`. -/
def flagDescriptor : CliDescriptor where
  name := "app"
  mode := modeSubcommand
  version := none
  description := none
  exit := .none
  globalOptions := [⟨"v", tBivalens, none, some "v", true, none, none⟩]
  globalOperands := []
  options := []
  operands := []
  commands := [⟨["a"], [], [], [], none⟩, ⟨["a", "--v"], [], [], [], none⟩]

/-- Behind the command `a` the flag is taken for the path of the other command. -/
theorem flag_selects_other :
    IsPart flagDescriptor flagDescriptor.globalOptions
      ⟨.occurrence 0 ⟨"v", tBivalens, none, some "v", true, none, none⟩ none, ["--v"]⟩ ∧
    SelectedByPath flagDescriptor 0 ⟨["a"], [], [], [], none⟩ [] ∧
    ∃ table after table' after',
      parseDescriptor (fun _ => none) flagDescriptor ["--v", "a"] HostContext.new =
        .ok (table, after) ∧
      parseDescriptor (fun _ => none) flagDescriptor ["a", "--v"] HostContext.new =
        .ok (table', after') ∧
      ¬SameTable after table after' table' := by
  have flag : readOption flagDescriptor.globalOptions "--v" none =
      some (.occurrence 0 ⟨"v", tBivalens, none, some "v", true, none, none⟩ none, false) := rfl
  refine ⟨.alone _ _ ⟨by decide, by decide, by decide⟩ (readOption_untaken flag),
    ⟨⟨"a", [], rfl, by decide, by decide, by decide⟩, by decide⟩, ?_⟩
  have first : (descriptorMeant (fun _ => none) flagDescriptor ["--v", "a"]).map
      (·.selectedCommand) = some 0 := by decide
  have second : (descriptorMeant (fun _ => none) flagDescriptor ["a", "--v"]).map
      (·.selectedCommand) = some 1 := by decide
  obtain ⟨meant, meaning, chosen⟩ := Option.map_eq_some_iff.mp first
  obtain ⟨meant', meaning', chosen'⟩ := Option.map_eq_some_iff.mp second
  have means := parseDescriptor_means HostContext.new (fun _ => none) flagDescriptor ["--v", "a"]
  have means' := parseDescriptor_means HostContext.new (fun _ => none) flagDescriptor ["a", "--v"]
  rw [meaning] at means
  rw [meaning'] at means'
  obtain ⟨table, after, parsed, _, holds⟩ := means.meant
  obtain ⟨table', after', parsed', _, holds'⟩ := means'.meant
  refine ⟨table, after, table', after', parsed, parsed', ?_⟩
  rintro ⟨same, tells, tells'⟩
  have apart : (0 : Int) = 1 := by
    calc (0 : Int) = table.selectedCommand := by rw [holds.2.2.2, chosen]
      _ = table'.selectedCommand := by rw [tells.2.2.2, tells'.2.2.2]
      _ = 1 := by rw [holds'.2.2.2, chosen']
  cases apart

end FaberRuntime.Cli
