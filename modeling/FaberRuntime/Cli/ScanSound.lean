import FaberRuntime.Cli.MeaningSound

namespace FaberRuntime.Cli

open Host

/-! The scanning loops find the parts that the words mean, and the table holds their meanings. -/

abbrev EntriesHold (runtime : HostContext) (entries : List CliEntry) (meants : List Meant) : Prop :=
  List.Forall₂ (EntryHolds runtime) entries meants

theorem EntriesHold.later {before after : HostContext} (adds : Adds before after)
    {entries : List CliEntry} {meants : List Meant} (held : EntriesHold before entries meants) :
    EntriesHold after entries meants :=
  held.imp fun _ _ => EntryHolds.later adds

theorem EntriesHold.set {runtime : HostContext} {entries : List CliEntry} {meants : List Meant}
    (held : EntriesHold runtime entries meants) (index : Nat) {entry : CliEntry} {meant : Meant}
    (holds : EntryHolds runtime entry meant) :
    EntriesHold runtime (entries.set index entry) (meants.set index meant) := by
  induction held generalizing index with
  | nil => exact .nil
  | cons head tail ih =>
      cases index with
      | zero => exact .cons holds tail
      | succ index => exact .cons head (ih index)

theorem EntriesHold.take {runtime : HostContext} {entries : List CliEntry} {meants : List Meant}
    (held : EntriesHold runtime entries meants) (count : Nat) :
    EntriesHold runtime (entries.take count) (meants.take count) :=
  List.forall₂_take count held

theorem PayloadHolds.later (before after : HostContext) (payload : CliPayload) (meant : Scalar)
    (adds : Adds before after) (holds : PayloadHolds before payload meant) :
    PayloadHolds after payload meant :=
  HoldsScalar.later adds holds

variable (runtime : HostContext)

theorem handle_meant {pointer : Pointer} {meant : Scalar}
    (holds : PayloadHolds runtime (.handle pointer) meant) :
    (∃ value, meant = .text value) ∨ (∃ bytes, meant = .octeti bytes) ∨ meant = .null := by
  rcases pointer with ⟨arena, index⟩ | address
  · cases meant with
    | text value => exact .inl ⟨value, rfl⟩
    | octeti bytes => exact .inr (.inl ⟨bytes, rfl⟩)
    | null => exact .inr (.inr rfl)
    | integer value => cases arena <;> exact holds.elim
    | float bits => cases arena <;> exact holds.elim
    | bool value => cases arena <;> exact holds.elim
  · cases meant with
    | null => exact .inr (.inr rfl)
    | _ => exact holds.elim

theorem listElement_holds (ty : UInt8) {payload : CliPayload} {meant : Scalar}
    (holds : PayloadHolds runtime payload meant) :
    HoldsScalar runtime (listElement (decide (ty = tListaNumerus)) payload)
      (elementScalar ty meant) := by
  cases payload with
  | handle pointer =>
      obtain ⟨value, rfl⟩ | ⟨bytes, rfl⟩ | rfl := handle_meant runtime holds <;>
        by_cases numbers : ty = tListaNumerus <;>
        simp only [listElement, elementScalar, numbers, decide_true, decide_false, if_true,
          if_false, Bool.false_eq_true]
      all_goals first | exact holds | rfl
  | integer value =>
      cases meant with
      | integer meant =>
          by_cases numbers : ty = tListaNumerus <;>
            simp only [listElement, elementScalar, numbers, decide_true, decide_false, if_true,
              if_false, Bool.false_eq_true]
          · exact holds
          · rfl
      | _ => exact holds.elim
  | float bits =>
      cases meant with
      | float meant =>
          by_cases numbers : ty = tListaNumerus <;>
            simp only [listElement, elementScalar, numbers, decide_true, decide_false, if_true,
              if_false, Bool.false_eq_true] <;> rfl
      | _ => exact holds.elim
  | bool value =>
      cases meant with
      | bool meant =>
          by_cases numbers : ty = tListaNumerus <;>
            simp only [listElement, elementScalar, numbers, decide_true, decide_false, if_true,
              if_false, Bool.false_eq_true] <;> rfl
      | _ => exact holds.elim

theorem listValueEntry_means (ty : UInt8) {values : List CliPayload} {meants : List Scalar}
    (held : List.Forall₂ (PayloadHolds runtime) values meants) :
    Means runtime EntryHolds (listValueEntry ty values) (some (listMeant ty meants)) := by
  have elements : List.Forall₂ (HoldsScalar runtime)
      (values.map (listElement (decide (ty = tListaNumerus)))) (meants.map (elementScalar ty)) := by
    rw [List.forall₂_map_left_iff, List.forall₂_map_right_iff]
    exact held.imp fun _ _ => listElement_holds runtime ty
  have kinds : (if decide (ty = tListaNumerus) = true then ValueKind.i64 else ValueKind.ptr) =
      if ty = tListaNumerus then .i64 else .ptr := by
    simp only [decide_eq_true_eq]
  rw [listValueEntry, listMeant]
  simp only [kinds]
  refine Meets.follow Adds.trans (array_stored runtime _ _ _ elements) ?_
  intro after box _ boxed
  exact meets_pure Adds.refl _ _ ⟨rfl, rfl, boxed⟩

section Words

variable (float : String → Option UInt64)

theorem operandEntry_means (operand : DescriptorOperand) (word : Option String) :
    Means runtime EntryHolds (operandEntry float operand word)
      (operandMeant float operand word) := by
  rcases word with _ | raw
  · rw [operandEntry, operandMeant]
    rcases operand.default with _ | default
    · exact meets_throw _
    · exact Meets.follow Adds.trans (defaultValuePayload_means runtime operand.ty default)
        fun after payload _ holds => plain_means after operand.ty payload _ holds
  · rw [operandEntry, operandMeant, Option.map_eq_bind]
    exact Meets.bind Adds.trans (parseOperandPayload_means runtime float operand raw)
      fun after payload meant _ holds => plain_means after operand.ty payload meant holds

def WithSame {α : Type} (runtime : HostContext) (found : List CliEntry × α)
    (meant : List Meant × α) : Prop :=
  EntriesHold runtime found.1 meant.1 ∧ found.2 = meant.2

theorem assignEach_means (operands : List DescriptorOperand) (words : List String) :
    Means runtime WithSame (assignEach float operands words) (eachMeant float operands words) := by
  induction operands generalizing runtime words with
  | nil => exact meets_pure Adds.refl _ _ ⟨.nil, rfl⟩
  | cons operand operands ih =>
      have consed : ∀ {before : HostContext} {entry : CliEntry} {meant : Meant}
          (holds : EntryHolds before entry meant) (words : List String),
          Means before WithSame
            (do let found ← assignEach float operands words
                pure (entry :: found.1, found.2))
            ((eachMeant float operands words).map fun found => (meant :: found.1, found.2)) := by
        intro before entry meant holds words
        rw [Option.map_eq_bind]
        refine Meets.bind Adds.trans (ih before words) ?_
        intro after found meants adds held
        exact meets_pure Adds.refl _ _ ⟨.cons (holds.later adds) held.1, held.2⟩
      rw [assignEach, eachMeant]
      by_cases rest : operand.rest = true
      · rw [if_pos rest, if_pos rest]
        have each : Means runtime (fun after => List.Forall₂ (PayloadHolds after))
            (words.mapM (parseOperandPayload float operand))
            (words.mapM (operandScalar float operand)) :=
          meets_mapM Adds.refl Adds.trans PayloadHolds.later words
            (fun word _ state => parseOperandPayload_means state float operand word) runtime
        refine Meets.bind Adds.trans each ?_
        intro after values meants _ held
        refine Meets.follow Adds.trans (listValueEntry_means after operand.ty held) ?_
        intro finish entry _ holds
        exact consed holds []
      · rw [if_neg rest, if_neg rest]
        refine Meets.bind Adds.trans (operandEntry_means runtime float operand words.head?) ?_
        intro after entry meant _ holds
        exact consed holds words.tail

theorem assignOperands_means (operands : List DescriptorOperand) (words : List String) :
    Means runtime EntriesHold (assignOperands float operands words)
      (operandsMeant float operands words) := by
  refine Meets.bind Adds.trans (assignEach_means runtime float operands words) ?_
  rintro after ⟨entries, left⟩ ⟨meants, left'⟩ _ ⟨held, same⟩
  dsimp only at same held ⊢
  subst same
  rcases rest : operands.any (·.rest)
  · rcases left with _ | ⟨extra, left⟩
    · exact meets_pure Adds.refl _ _ held
    · exact meets_throw _
  · exact meets_pure Adds.refl _ _ held

theorem applyOption_means (option : DescriptorOption) (index : Nat) (label : String)
    (inlineValue next : Option String) {entries : List CliEntry} {meants : List Meant}
    (held : EntriesHold runtime entries meants) :
    Means runtime WithSame (applyOption float option index entries label inlineValue next)
      ((readNamed option index inlineValue next).bind fun found =>
        (setItems float [found.1] meants).map fun out => (out, found.2)) := by
  rw [applyOption, readNamed]
  split_ifs with flag
  · have sets : EntryHolds runtime (plainEntry option.ty (.bool true))
        (plainMeant option.ty (.bool true)) := ⟨rfl, rfl, rfl⟩
    exact meets_pure Adds.refl _ _ ⟨held.set index sets, rfl⟩
  · rcases inlineValue.or next with _ | raw
    · exact meets_throw _
    · have set_one : (setItems float [.occurrence index option (some raw)] meants).map
            (fun out => (out, inlineValue.isNone)) =
          (optionMeant float option raw).bind fun meant =>
            some (meants.set index meant, inlineValue.isNone) := by
        simp only [setItems, occurrenceMeant, Option.map_eq_bind, Option.bind_assoc,
          Option.bind_some, Function.comp_def]
      show Means runtime WithSame _ ((setItems float [.occurrence index option (some raw)] meants).map
        (fun out => (out, inlineValue.isNone)))
      rw [set_one]
      show Means runtime WithSame (parseOptionValue float option raw >>= fun entry =>
        pure (entries.set index entry, inlineValue.isNone)) _
      refine Meets.bind Adds.trans (parseOptionValue_means runtime float option raw) ?_
      intro after entry meant adds holds
      exact meets_pure Adds.refl _ _ ⟨(held.later adds).set index holds, rfl⟩

def parseOption (options : List DescriptorOption) (entries : List CliEntry) (arg : String)
    (next : Option String) : CliM (List CliEntry × Bool) :=
  if isLong arg then parseLongOption float options entries arg next
  else parseShortOption float options entries arg next

theorem parseOption_means (options : List DescriptorOption) (arg : String) (next : Option String)
    {entries : List CliEntry} {meants : List Meant} (held : EntriesHold runtime entries meants) :
    Means runtime WithSame (parseOption float options entries arg next)
      ((readOption options arg next).bind fun found =>
        (setItems float [found.1] meants).map fun out => (out, found.2)) := by
  rw [parseOption, readOption]
  split_ifs
  · rw [parseLongOption, readLong]
    obtain ⟨name, inlineValue⟩ := splitInline arg
    dsimp only
    rcases findOption (fun option => option.long.map longName = some name) options
      with _ | ⟨option, index⟩
    · exact meets_throw _
    · exact applyOption_means runtime float option index name inlineValue next held
  · rw [parseShortOption, readShort]
    rcases findOption (fun option => option.short.map shortName = some arg) options
      with _ | ⟨option, index⟩
    · exact meets_throw _
    · exact applyOption_means runtime float option index arg none next held

theorem readOption_taken {options : List DescriptorOption} {arg : String} {item : Item}
    (found : readOption options arg none = some (item, true)) : False := by
  have named : ∀ option index inlineValue,
      readNamed option index inlineValue none ≠ some (item, true) := by
    intro option index inlineValue
    rw [readNamed]
    rcases inlineValue with _ | value <;> split_ifs <;> simp
  rw [readOption] at found
  split_ifs at found
  · rw [readLong] at found
    obtain ⟨⟨option, index⟩, _, read⟩ := Option.bind_eq_some_iff.mp found
    exact named _ _ _ read
  · rw [readShort] at found
    obtain ⟨⟨option, index⟩, _, read⟩ := Option.bind_eq_some_iff.mp found
    exact named _ _ _ read

theorem setItems_cons (item : Item) (items : List Item) (meants : List Meant) :
    setItems float (item :: items) meants =
      (setItems float [item] meants).bind (setItems float items) := by
  cases item with
  | positional word => rfl
  | occurrence index option raw =>
      simp only [setItems, Option.bind_assoc, Option.bind_some]

theorem readOption_occurrence {options : List DescriptorOption} {arg : String}
    {next : Option String} {item : Item} {taken : Bool}
    (found : readOption options arg next = some (item, taken)) :
    ∃ index option raw, item = .occurrence index option raw := by
  have named : ∀ option index inlineValue,
      readNamed option index inlineValue next = some (item, taken) →
        ∃ index option raw, item = .occurrence index option raw := by
    intro option index inlineValue read
    rw [readNamed] at read
    split_ifs at read
    · cases read
      exact ⟨_, _, _, rfl⟩
    · obtain ⟨raw, _, made⟩ := Option.map_eq_some_iff.mp read
      cases made
      exact ⟨_, _, _, rfl⟩
  rw [readOption] at found
  split_ifs at found
  · rw [readLong] at found
    obtain ⟨⟨option, index⟩, _, read⟩ := Option.bind_eq_some_iff.mp found
    exact named _ _ _ read
  · rw [readShort] at found
    obtain ⟨⟨option, index⟩, _, read⟩ := Option.bind_eq_some_iff.mp found
    exact named _ _ _ read

def wordsBehind (rest : List String) (taken : Bool) : List String :=
  if taken then rest.tail else rest

theorem wordsBehind_length (rest : List String) (taken : Bool) :
    (wordsBehind rest taken).length ≤ rest.length := by
  rw [wordsBehind]
  split_ifs
  · simp
  · exact le_rfl

section Loops

variable (descriptor : CliDescriptor) (options : List DescriptorOption)

theorem scanSurface_option (entries : List CliEntry) (positionals : List String) {arg : String}
    (rest : List String) (separator : arg ≠ "--")
    (plain : (asksHelp arg || asksVersion descriptor arg) = false)
    (starts : (isLong arg || isShort arg) = true) :
    scanSurface float descriptor options entries positionals (arg :: rest) =
      parseOption float options entries arg rest.head? >>= fun found =>
        scanSurface float descriptor options found.1 positionals (wordsBehind rest found.2) := by
  rw [Bool.or_eq_false_iff] at plain
  rw [scanSurface, if_neg separator, if_neg (by simp [plain.1]), if_neg (by simp [plain.2]),
    parseOption]
  by_cases long : isLong arg = true
  on_goal 1 => rw [if_pos long, if_pos long]
  on_goal 2 => rw [if_neg long, if_neg long, if_pos (by simpa [long] using starts)]
  all_goals
    refine bind_congr ?_
    rintro ⟨given, _ | _⟩
    · rfl
    · rcases rest with _ | ⟨next, after⟩ <;> simp [wordsBehind, scanSurface]

theorem itemize_option {arg : String} (rest : List String) (separator : arg ≠ "--")
    (plain : (asksHelp arg || asksVersion descriptor arg) = false)
    (starts : (isLong arg || isShort arg) = true) :
    itemize descriptor options (arg :: rest) =
      (readOption options arg rest.head?).bind fun found =>
        (itemize descriptor options (wordsBehind rest found.2)).map (found.1 :: ·) := by
  rw [itemize, if_neg separator, if_neg (by simp [plain]), if_pos starts]
  rcases read : readOption options arg rest.head? with _ | ⟨item, taken⟩
  · rfl
  · rw [Option.bind_some, Option.bind_some, wordsBehind]
    rcases taken with _ | _
    · rfl
    · rcases rest with _ | ⟨next, after⟩
      · exact (readOption_taken read).elim
      · rfl

end Loops

theorem setItems_positionals (words : List String) (meants : List Meant) :
    setItems float (words.map .positional) meants = some meants := by
  induction words with
  | nil => rfl
  | cons word words ih => exact ih

theorem positionalWords_positionals (words : List String) :
    positionalWords (words.map .positional) = words := by
  induction words with
  | nil => rfl
  | cons word words ih => exact congrArg (word :: ·) ih

def partsMeant {α : Type} (parts : Option (List Item × α)) (meants : List Meant) :
    Option (List Meant × α) :=
  parts.bind fun found => (setItems float found.1 meants).map fun out => (out, found.2)

theorem partsMeant_option {α : Type} (options : List DescriptorOption) (arg : String)
    (next : Option String) (parts : Bool → Option (List Item × α)) (meants : List Meant) :
    partsMeant float ((readOption options arg next).bind fun found =>
        (parts found.2).map fun others => (found.1 :: others.1, others.2)) meants =
      ((readOption options arg next).bind fun found =>
        (setItems float [found.1] meants).map fun out => (out, found.2)).bind fun found =>
          partsMeant float (parts found.2) found.1 := by
  rcases readOption options arg next with _ | ⟨item, taken⟩
  · rfl
  · simp only [partsMeant, Option.bind_some]
    rcases found : parts taken with _ | ⟨others, other⟩
    · rcases setItems float [item] meants with _ | out
      · rfl
      · simp only [Option.map_none, Option.map_some, Option.bind_none, Option.bind_some, found]
    · rw [Option.map_some, Option.bind_some, setItems_cons]
      rcases setItems float [item] meants with _ | out
      · rfl
      · simp only [Option.map_some, Option.bind_some, found]

section Tables

variable (descriptor : CliDescriptor)

def surfaceParts (options : List DescriptorOption) (positionals arguments : List String) :
    Option (List Item × List String) :=
  (itemize descriptor options arguments).map fun items =>
    (items, positionals ++ positionalWords items)

theorem surfaceParts_option (options : List DescriptorOption) (positionals : List String)
    {arg : String} (rest : List String) (separator : arg ≠ "--")
    (plain : (asksHelp arg || asksVersion descriptor arg) = false)
    (starts : (isLong arg || isShort arg) = true) :
    surfaceParts descriptor options positionals (arg :: rest) =
      (readOption options arg rest.head?).bind fun found =>
        (surfaceParts descriptor options positionals (wordsBehind rest found.2)).map fun others =>
          (found.1 :: others.1, others.2) := by
  rw [surfaceParts, itemize_option descriptor options rest separator plain starts]
  rcases read : readOption options arg rest.head? with _ | ⟨item, taken⟩
  · rfl
  · obtain ⟨index, option, raw, rfl⟩ := readOption_occurrence read
    simp only [Option.bind_some, surfaceParts, Option.map_map]
    rfl

theorem scanSurface_means (options : List DescriptorOption) (arguments : List String)
    (positionals : List String) {entries : List CliEntry} {meants : List Meant}
    (held : EntriesHold runtime entries meants) :
    Means runtime WithSame
      (scanSurface float descriptor options entries positionals arguments)
      (partsMeant float (surfaceParts descriptor options positionals arguments) meants) := by
  induction size : arguments.length using Nat.strong_induction_on
    generalizing runtime arguments positionals entries meants with
  | _ size ih =>
  rcases arguments with _ | ⟨arg, rest⟩
  · refine meets_pure Adds.refl _ _ ⟨held, ?_⟩
    exact (List.append_nil positionals).symm
  · by_cases separator : arg = "--"
    · have parts : surfaceParts descriptor options positionals (arg :: rest) =
          some (rest.map .positional, positionals ++ rest) := by
        rw [surfaceParts, itemize, if_pos separator, Option.map_some, positionalWords_positionals]
      rw [scanSurface, if_pos separator, parts, partsMeant, Option.bind_some, setItems_positionals]
      exact meets_pure Adds.refl _ _ ⟨held, rfl⟩
    · rcases plain : asksHelp arg || asksVersion descriptor arg
      · rcases starts : isLong arg || isShort arg
        · have parts : surfaceParts descriptor options positionals (arg :: rest) =
              (surfaceParts descriptor options (positionals ++ [arg]) rest).map fun others =>
                (.positional arg :: others.1, others.2) := by
            rw [surfaceParts, itemize, if_neg separator, if_neg (by simp [plain]),
              if_neg (by simp [starts]), surfaceParts, Option.map_map, Option.map_map]
            congr 1
            funext items
            have appended : positionals ++ positionalWords (.positional arg :: items) =
                positionals ++ [arg] ++ positionalWords items := by
              rw [List.append_assoc]
              rfl
            exact congrArg (fun words => (Item.positional arg :: items, words)) appended
          have entered : partsMeant float (surfaceParts descriptor options positionals
                (arg :: rest)) meants =
              partsMeant float (surfaceParts descriptor options (positionals ++ [arg]) rest)
                meants := by
            rw [parts, partsMeant, partsMeant]
            rcases surfaceParts descriptor options (positionals ++ [arg]) rest <;> rfl
          rw [Bool.or_eq_false_iff] at plain starts
          rw [entered, scanSurface, if_neg separator, if_neg (by simp [plain.1]),
            if_neg (by simp [plain.2]), if_neg (by simp [starts.1]), if_neg (by simp [starts.2])]
          exact ih rest.length (by rw [← size]; simp) runtime rest (positionals ++ [arg]) held rfl
        · rw [scanSurface_option float descriptor options entries positionals rest separator plain
              starts,
            surfaceParts_option descriptor options positionals rest separator plain starts,
            partsMeant_option float options arg rest.head? fun taken =>
              surfaceParts descriptor options positionals (wordsBehind rest taken)]
          refine Meets.bind Adds.trans
            (parseOption_means runtime float options arg rest.head? held) ?_
          rintro after ⟨out, taken⟩ ⟨meanings, _⟩ _ ⟨still, rfl⟩
          have shorter := wordsBehind_length rest taken
          exact ih _ (by rw [← size, List.length_cons]; omega) after (wordsBehind rest taken)
            positionals still rfl
      · have none_meant : surfaceParts descriptor options positionals (arg :: rest) = none := by
          rw [surfaceParts, itemize, if_neg separator, if_pos (by simp [plain])]
          rfl
        rw [none_meant, scanSurface, if_neg separator]
        rcases asks : asksHelp arg
        · rw [asks, Bool.false_or] at plain
          rw [if_neg (by simp), if_pos (by simp [plain])]
          exact meets_throw _
        · rw [if_pos (by simp)]
          exact meets_throw _

theorem scanGlobals_option (entries : List CliEntry) {arg : String} (rest : List String)
    (plain : (asksHelp arg || asksVersion descriptor arg) = false)
    (starts : (isLong arg || isShort arg) = true) :
    scanGlobals float descriptor entries (arg :: rest) =
      parseOption float descriptor.globalOptions entries arg rest.head? >>= fun found =>
        scanGlobals float descriptor found.1 (wordsBehind rest found.2) := by
  rw [Bool.or_eq_false_iff] at plain
  rw [scanGlobals, if_neg (by simp [plain.1]), if_neg (by simp [plain.2]), parseOption]
  by_cases long : isLong arg = true
  on_goal 1 => rw [if_pos long, if_pos long]
  on_goal 2 => rw [if_neg long, if_neg long, if_pos (by simpa [long] using starts)]
  all_goals
    refine bind_congr ?_
    rintro ⟨given, _ | _⟩
    · rfl
    · rcases rest with _ | ⟨next, after⟩ <;> simp [wordsBehind, scanGlobals]

theorem itemizeGlobals_option {arg : String} (rest : List String)
    (plain : (asksHelp arg || asksVersion descriptor arg) = false)
    (starts : (isLong arg || isShort arg) = true) :
    itemizeGlobals descriptor (arg :: rest) =
      (readOption descriptor.globalOptions arg rest.head?).bind fun found =>
        (itemizeGlobals descriptor (wordsBehind rest found.2)).map fun others =>
          (found.1 :: others.1, others.2) := by
  rw [itemizeGlobals, if_neg (by simp [plain]), if_pos starts]
  rcases read : readOption descriptor.globalOptions arg rest.head? with _ | ⟨item, taken⟩
  · rfl
  · rw [Option.bind_some, Option.bind_some, wordsBehind]
    rcases taken with _ | _
    · rfl
    · rcases rest with _ | ⟨next, after⟩
      · exact (readOption_taken read).elim
      · rfl

theorem scanGlobals_means (arguments : List String) {entries : List CliEntry}
    {meants : List Meant} (held : EntriesHold runtime entries meants) :
    Means runtime WithSame (scanGlobals float descriptor entries arguments)
      (partsMeant float (itemizeGlobals descriptor arguments) meants) := by
  induction size : arguments.length using Nat.strong_induction_on
    generalizing runtime arguments entries meants with
  | _ size ih =>
  rcases arguments with _ | ⟨arg, rest⟩
  · exact meets_pure Adds.refl _ _ ⟨held, rfl⟩
  · rcases plain : asksHelp arg || asksVersion descriptor arg
    · rcases starts : isLong arg || isShort arg
      · have parts : itemizeGlobals descriptor (arg :: rest) = some ([], arg :: rest) := by
          rw [itemizeGlobals, if_neg (by simp [plain]), if_neg (by simp [starts])]
        rw [Bool.or_eq_false_iff] at plain starts
        rw [parts, scanGlobals, if_neg (by simp [plain.1]), if_neg (by simp [plain.2]),
          if_neg (by simp [starts.1]), if_neg (by simp [starts.2])]
        exact meets_pure Adds.refl _ _ ⟨held, rfl⟩
      · rw [scanGlobals_option float descriptor entries rest plain starts,
          itemizeGlobals_option descriptor rest plain starts,
          partsMeant_option float descriptor.globalOptions arg rest.head? fun taken =>
            itemizeGlobals descriptor (wordsBehind rest taken)]
        refine Meets.bind Adds.trans
          (parseOption_means runtime float descriptor.globalOptions arg rest.head? held) ?_
        rintro after ⟨out, taken⟩ ⟨meanings, _⟩ _ ⟨still, rfl⟩
        have shorter := wordsBehind_length rest taken
        exact ih _ (by rw [← size, List.length_cons]; omega) after (wordsBehind rest taken) still
          rfl
    · have none_meant : itemizeGlobals descriptor (arg :: rest) = none := by
        rw [itemizeGlobals, if_pos (by simp [plain])]
      rw [none_meant, scanGlobals]
      rcases asks : asksHelp arg
      · rw [asks, Bool.false_or] at plain
        rw [if_neg (by simp), if_pos (by simp [plain])]
        exact meets_throw _
      · rw [if_pos (by simp)]
        exact meets_throw _

theorem initialEntries_mean (options : List DescriptorOption) :
    Means runtime EntriesHold (options.mapM initialOptionEntry)
      (some (options.map initialMeant)) := by
  have mapped : some (options.map initialMeant) =
      options.mapM fun option => some (initialMeant option) :=
    (List.mapM_pure (m := Option)).symm
  rw [mapped]
  have keeps : ∀ before after entry meant, Adds before after → EntryHolds before entry meant →
      EntryHolds after entry meant := fun _ _ _ _ adds holds => holds.later adds
  exact meets_mapM Adds.refl Adds.trans keeps options
    (fun option _ state => initialOptionEntry_means state option) runtime

theorem parseSurfaceWithEntries_means (options : List DescriptorOption)
    (operands : List DescriptorOperand) (arguments : List String) {entries : List CliEntry}
    {meants : List Meant} (held : EntriesHold runtime entries meants) :
    Means runtime
      (fun after found meant => EntriesHold after found.1 meant ∧
        found.2 = options.map (·.binding) ++ operands.map (·.binding))
      (parseSurfaceWithEntries float descriptor options operands arguments entries)
      ((itemize descriptor options arguments).bind fun items =>
        surfaceMeant float options operands items meants) := by
  have scanned := scanSurface_means runtime float descriptor options arguments [] held
  have meaning : ((itemize descriptor options arguments).bind fun items =>
        surfaceMeant float options operands items meants) =
      (partsMeant float (surfaceParts descriptor options [] arguments) meants).bind fun found =>
        (operandsMeant float operands found.2).bind fun operandEntries =>
          some (found.1.take options.length ++ operandEntries) := by
    rw [surfaceParts, partsMeant]
    rcases itemize descriptor options arguments with _ | items
    · rfl
    · rw [Option.bind_some, Option.map_some, Option.bind_some, surfaceMeant]
      rcases setItems float items meants with _ | out
      · rfl
      · rw [Option.bind_some, Option.map_some, Option.bind_some, Option.map_eq_bind]
        rfl
  rw [meaning]
  refine Meets.bind Adds.trans scanned ?_
  rintro after ⟨optionEntries, positionals⟩ ⟨optionMeants, _⟩ _ ⟨still, rfl⟩
  refine Meets.bind Adds.trans (assignOperands_means after float operands positionals) ?_
  intro finish operandEntries operandMeants adds assigned
  exact meets_pure Adds.refl _ _ ⟨List.rel_append ((still.later adds).take _) assigned, rfl⟩

theorem dispatch_means (commandParts : List String) :
    Means runtime (fun _ => Eq) (liftM (dispatch descriptor commandParts))
      (dispatch descriptor commandParts).toOption := by
  rcases dispatch descriptor commandParts with error | selected
  · exact meets_throw _
  · exact meets_pure Adds.refl _ _ rfl

theorem parseSubcommand_means (arguments : List String) :
    Means runtime TableHolds (parseSubcommand float descriptor arguments)
      (subcommandMeant float descriptor arguments) := by
  have meaning : subcommandMeant float descriptor arguments =
      (partsMeant float (itemizeGlobals descriptor arguments)
        (descriptor.globalOptions.map initialMeant)).bind fun found =>
      (dispatch descriptor found.2).toOption.bind fun selected =>
      ((itemize descriptor (descriptor.globalOptions ++ selected.2.1.options)
          selected.2.2).bind fun items =>
        surfaceMeant float (descriptor.globalOptions ++ selected.2.1.options)
          (descriptor.globalOperands ++ selected.2.1.operands) items
          (found.1 ++ selected.2.1.options.map initialMeant)).bind fun entries =>
      some ⟨entries,
        (descriptor.globalOptions ++ selected.2.1.options).map (·.binding) ++
          (descriptor.globalOperands ++ selected.2.1.operands).map (·.binding),
        descriptor.exit, selected.1⟩ := by
    rw [subcommandMeant, partsMeant]
    rcases itemizeGlobals descriptor arguments with _ | ⟨items, commandParts⟩
    · rfl
    · simp only [Option.bind_some]
      rcases setItems float items (descriptor.globalOptions.map initialMeant) with _ | globals
      · rfl
      · simp only [Option.bind_some, Option.map_some]
        rcases (dispatch descriptor commandParts).toOption with _ | ⟨index, command, words⟩
        · rfl
        · simp only [Option.bind_some, Option.map_eq_bind, Option.bind_assoc]
          rfl
  rw [meaning]
  refine Meets.follow Adds.trans (initialEntries_mean runtime descriptor.globalOptions) ?_
  intro first initial _ held
  refine Meets.bind Adds.trans (scanGlobals_means first float descriptor arguments held) ?_
  rintro second ⟨globalEntries, commandParts⟩ ⟨globals, _⟩ _ ⟨globalsHeld, rfl⟩
  refine Meets.bind Adds.trans (dispatch_means second descriptor commandParts) ?_
  rintro third ⟨commandIndex, command, commandArguments⟩ _ added rfl
  refine Meets.follow Adds.trans (initialEntries_mean third command.options) ?_
  intro fourth commandEntries adds commandHeld
  have all : EntriesHold fourth (globalEntries ++ commandEntries)
      (globals ++ command.options.map initialMeant) :=
    List.rel_append ((globalsHeld.later added).later adds) commandHeld
  refine Meets.bind Adds.trans (parseSurfaceWithEntries_means fourth float descriptor
    (descriptor.globalOptions ++ command.options) (descriptor.globalOperands ++ command.operands)
    commandArguments all) ?_
  rintro last ⟨entries, bindingNames⟩ meants _ ⟨entriesHeld, names⟩
  exact meets_pure Adds.refl _ _ ⟨entriesHeld, names, rfl, rfl⟩

theorem parseDescriptor_means (arguments : List String) :
    Means runtime TableHolds (parseDescriptor float descriptor arguments)
      (descriptorMeant float descriptor arguments) := by
  rw [parseDescriptor, descriptorMeant]
  split_ifs
  · exact parseSubcommand_means runtime float descriptor arguments
  · dsimp only
    simp only [Option.map_eq_bind]
    rw [← Option.bind_assoc]
    have parsed : Means runtime
        (fun after found meant => EntriesHold after found.1 meant ∧
          found.2 = (descriptor.globalOptions ++ descriptor.options).map (·.binding) ++
            (descriptor.globalOperands ++ descriptor.operands).map (·.binding))
        (parseSurface float descriptor (descriptor.globalOptions ++ descriptor.options)
          (descriptor.globalOperands ++ descriptor.operands) arguments)
        ((itemize descriptor (descriptor.globalOptions ++ descriptor.options) arguments).bind
          fun items => surfaceMeant float (descriptor.globalOptions ++ descriptor.options)
            (descriptor.globalOperands ++ descriptor.operands) items
            ((descriptor.globalOptions ++ descriptor.options).map initialMeant)) := by
      refine Meets.follow Adds.trans (initialEntries_mean runtime _) ?_
      intro after entries _ held
      exact parseSurfaceWithEntries_means after float descriptor _ _ arguments held
    refine Meets.bind Adds.trans parsed ?_
    rintro last ⟨entries, bindingNames⟩ meants _ ⟨entriesHeld, names⟩
    exact meets_pure Adds.refl _ _ ⟨entriesHeld, names, rfl, rfl⟩

end Tables

end Words

end FaberRuntime.Cli
