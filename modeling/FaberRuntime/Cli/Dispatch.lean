import FaberRuntime.Cli.Parse
import FaberRuntime.Foundation.Ranking

namespace FaberRuntime.Cli

/-! Which command the words of a command line select, and what is left of them. -/

def names (command : DescriptorCommand) : List (List String) :=
  command.path :: (command.aliases.map aliasPath).filter (· ≠ [])

/-- A candidate of the selection: a command's position, one of its names, the command. -/
abbrev Candidate := Nat × List String × DescriptorCommand

def candidates (descriptor : CliDescriptor) : List Candidate :=
  descriptor.commands.zipIdx.flatMap fun (command, index) =>
    (command.path :: command.aliases.map aliasPath).map fun words => (index, words, command)

def matching (descriptor : CliDescriptor) (commandParts : List String) : List Candidate :=
  (candidates descriptor).filter fun candidate => candidate.2.1.isPrefixOf commandParts

theorem selectCommand_eq (descriptor : CliDescriptor) (commandParts : List String) :
    selectCommand descriptor commandParts =
      (firstGreatest (fun candidate : Candidate => candidate.2.1.length)
        (matching descriptor commandParts)).map
        fun candidate => (candidate.1, candidate.2.2) := by
  have kept : ∀ (words : List Candidate) (best : Option Candidate),
      (words.foldl (fun best candidate =>
          offerName commandParts candidate.1 candidate.2.2 best candidate.2.1)
        (best.map fun held => (held.1, held.2.1.length, held.2.2))) =
      ((words.filter fun candidate => candidate.2.1.isPrefixOf commandParts).foldl
        (keepGreater fun candidate => candidate.2.1.length) best).map
        fun held => (held.1, held.2.1.length, held.2.2) := by
    intro words
    induction words with
    | nil => exact fun best => rfl
    | cons candidate words ih =>
        intro best
        rw [List.foldl_cons, List.filter_cons]
        by_cases fits : candidate.2.1.isPrefixOf commandParts = true
        · have offered : offerName commandParts candidate.1 candidate.2.2
              (best.map fun held => (held.1, held.2.1.length, held.2.2)) candidate.2.1 =
              (keepGreater (fun candidate => candidate.2.1.length) best candidate).map
                fun held => (held.1, held.2.1.length, held.2.2) := by
            rw [offerName, if_pos fits]
            rcases best with _ | held
            · rfl
            · simp only [Option.map_some, offer, keepGreater]
              split_ifs <;> rfl
          rw [offered, ih, if_pos fits, List.foldl_cons]
        · have skipped : offerName commandParts candidate.1 candidate.2.2
              (best.map fun held => (held.1, held.2.1.length, held.2.2)) candidate.2.1 =
              best.map fun held => (held.1, held.2.1.length, held.2.2) := by
            rw [offerName, if_neg fits]
          rw [skipped, ih, if_neg fits]
  have flat : descriptor.commands.zipIdx.foldl
      (fun best (command, index) =>
        (command.aliases.map aliasPath).foldl (offerName commandParts index command)
          (offerName commandParts index command best command.path))
      none =
      (candidates descriptor).foldl (fun best candidate =>
        offerName commandParts candidate.1 candidate.2.2 best candidate.2.1) none := by
    rw [candidates, List.foldl_flatMap]
    congr 1
    funext best declared
    simp [List.foldl_map]
  have whole := kept (candidates descriptor) none
  rw [Option.map_none] at whole
  rw [selectCommand]
  simp only [flat, whole, Option.map_map]
  rfl

section Names

variable (descriptor : CliDescriptor) (commandParts : List String)

def HasName (index : Nat) (words : List String) : Prop :=
  ∃ command, descriptor.commands[index]? = some command ∧ words ∈ names command

/-- The name that a command line means: the longest that starts it, of the first command on
ties. -/
structure Selects (index : Nat) (words : List String) : Prop where
  named : HasName descriptor index words
  starts : words <+: commandParts
  longest : ∀ other others, HasName descriptor other others → others <+: commandParts →
    others.length ≤ words.length
  first : ∀ other, HasName descriptor other words → index ≤ other

/-- What is dispatched is the command meant, with the words behind its name. -/
def Dispatched : Except CliStop (Nat × DescriptorCommand × List String) → Prop
  | .ok (index, command, arguments) => descriptor.commands[index]? = some command ∧
      ∃ words, Selects descriptor commandParts index words ∧ commandParts = words ++ arguments
  | .error _ => ∀ index words, HasName descriptor index words → ¬words <+: commandParts

def HasWordlessAlias (index : Nat) : Prop :=
  ∃ command, descriptor.commands[index]? = some command ∧ [] ∈ command.aliases.map aliasPath

/-- The name meant has as many words as its command's path, an alias without words is never the
best there is, and without words no command has an empty path. -/
structure OwnLength : Prop where
  own : ∀ index command words, descriptor.commands[index]? = some command →
    Selects descriptor commandParts index words →
    min command.path.length commandParts.length = words.length
  wordless : commandParts ≠ [] → ∀ index, HasWordlessAlias descriptor index →
    ∃ other words, HasName descriptor other words ∧ words <+: commandParts ∧
      (words ≠ [] ∨ other ≤ index)
  unasked : commandParts = [] → ∀ index, ¬HasName descriptor index []

theorem mem_candidates (candidate : Candidate) :
    candidate ∈ candidates descriptor ↔
      descriptor.commands[candidate.1]? = some candidate.2.2 ∧
        (candidate.2.1 = candidate.2.2.path ∨
          candidate.2.1 ∈ candidate.2.2.aliases.map aliasPath) := by
  obtain ⟨index, words, command⟩ := candidate
  rw [candidates, List.mem_flatMap]
  constructor
  · rintro ⟨⟨declared, position⟩, member, named⟩
    rw [List.mem_zipIdx_iff_getElem?] at member
    rcases List.mem_map.mp named with ⟨name, inside, same⟩
    cases same
    exact ⟨member, List.mem_cons.mp inside⟩
  · rintro ⟨declared, named⟩
    refine ⟨(command, index), List.mem_zipIdx_iff_getElem?.mpr declared, ?_⟩
    exact List.mem_map.mpr ⟨words, List.mem_cons.mpr named, rfl⟩

theorem candidates_ordered :
    (candidates descriptor).Pairwise fun first second => first.1 ≤ second.1 := by
  rw [candidates, List.pairwise_flatMap]
  constructor
  · rintro ⟨command, index⟩ _
    rw [List.pairwise_map]
    exact List.pairwise_of_forall fun _ _ => le_refl index
  · have ascending : descriptor.commands.zipIdx.Pairwise fun first second =>
        first.2 < second.2 := by
      rw [← List.pairwise_map (f := Prod.snd) (R := (· < ·)), List.zipIdx_map_snd]
      exact List.pairwise_lt_range'
    refine ascending.imp ?_
    rintro ⟨command, index⟩ ⟨other, position⟩ before left left_member right right_member
    rcases List.mem_map.mp left_member with ⟨_, _, rfl⟩
    rcases List.mem_map.mp right_member with ⟨_, _, rfl⟩
    exact le_of_lt before

theorem mem_matching (candidate : Candidate) :
    candidate ∈ matching descriptor commandParts ↔
      candidate ∈ candidates descriptor ∧ candidate.2.1 <+: commandParts := by
  rw [matching, List.mem_filter, List.isPrefixOf_iff_prefix]

theorem name_candidate (index : Nat) (words : List String)
    (named : HasName descriptor index words) :
    ∃ command, (index, words, command) ∈ candidates descriptor := by
  obtain ⟨command, declared, member⟩ := named
  refine ⟨command, (mem_candidates descriptor _).mpr ⟨declared, ?_⟩⟩
  rcases List.mem_cons.mp member with same | inside
  · exact Or.inl same
  · exact Or.inr (List.mem_of_mem_filter inside)

theorem candidate_name (candidate : Candidate) (member : candidate ∈ candidates descriptor)
    (worded : candidate.2.1 = candidate.2.2.path ∨ candidate.2.1 ≠ []) :
    HasName descriptor candidate.1 candidate.2.1 := by
  obtain ⟨declared, named⟩ := (mem_candidates descriptor candidate).mp member
  refine ⟨candidate.2.2, declared, ?_⟩
  rcases named with path | inside
  · exact List.mem_cons.mpr (Or.inl path)
  · rcases worded with path | words
    · exact List.mem_cons.mpr (Or.inl path)
    · exact List.mem_cons.mpr (Or.inr (List.mem_filter.mpr ⟨inside, by simpa using words⟩))

theorem best_candidate (best : Candidate)
    (found : firstGreatest (fun candidate : Candidate => candidate.2.1.length)
      (matching descriptor commandParts) = some best) :
    best ∈ candidates descriptor ∧ best.2.1 <+: commandParts ∧
      (∀ candidate ∈ candidates descriptor, candidate.2.1 <+: commandParts →
        candidate.2.1.length ≤ best.2.1.length) ∧
      ∀ candidate ∈ candidates descriptor, candidate.2.1 <+: commandParts →
        candidate.2.1.length = best.2.1.length → best.1 ≤ candidate.1 := by
  obtain ⟨before, after, split, smaller, no_greater⟩ := firstGreatest_some _ _ best found
  have member : best ∈ matching descriptor commandParts := by
    rw [split]
    simp
  obtain ⟨declared, starts⟩ := (mem_matching descriptor commandParts best).mp member
  have ordered : (matching descriptor commandParts).Pairwise fun first second =>
      first.1 ≤ second.1 := (candidates_ordered descriptor).filter _
  rw [split, List.pairwise_append, List.pairwise_cons] at ordered
  have place : ∀ candidate ∈ candidates descriptor, candidate.2.1 <+: commandParts →
      candidate ∈ before ∨ candidate = best ∨ candidate ∈ after := by
    intro candidate inside begins
    have matched := (mem_matching descriptor commandParts candidate).mpr ⟨inside, begins⟩
    rw [split, List.mem_append, List.mem_cons] at matched
    exact matched
  refine ⟨declared, starts, ?_, ?_⟩
  · intro candidate inside begins
    rcases place candidate inside begins with early | rfl | late
    · exact le_of_lt (smaller candidate early)
    · exact le_refl _
    · exact no_greater candidate late
  · intro candidate inside begins equal
    rcases place candidate inside begins with early | rfl | late
    · exact absurd equal (Nat.ne_of_lt (smaller candidate early))
    · exact le_refl _
    · exact ordered.2.1.1 candidate late

theorem Selects.unique {index other : Nat} {words others : List String}
    (selects : Selects descriptor commandParts index words)
    (selected : Selects descriptor commandParts other others) : index = other ∧ words = others := by
  have lengths : words.length = others.length :=
    le_antisymm (selected.longest index words selects.named selects.starts)
      (selects.longest other others selected.named selected.starts)
  have same : words = others := by
    rw [List.prefix_iff_eq_take.mp selects.starts, List.prefix_iff_eq_take.mp selected.starts,
      lengths]
  subst same
  exact ⟨le_antisymm (selects.first other selected.named) (selected.first index selects.named),
    rfl⟩

theorem dispatched_nothing :
    Dispatched descriptor [] (dispatch descriptor []) ↔ OwnLength descriptor [] := by
  constructor
  · intro refused
    refine ⟨?_, fun given => absurd rfl given, ?_⟩
    · intro index command words _ selects
      exact absurd selects.starts (refused index words selects.named)
    · intro _ index named
      exact refused index [] named List.nil_prefix
  · intro own index words named starts
    rw [List.prefix_nil.mp starts] at named
    exact own.unasked rfl index named

variable (best : Candidate)

theorem dispatch_best (first : String) (rest : List String)
    (found : firstGreatest (fun candidate : Candidate => candidate.2.1.length)
      (matching descriptor (first :: rest)) = some best) :
    dispatch descriptor (first :: rest) = .ok (best.1, best.2.2,
      (first :: rest).drop (min best.2.2.path.length (first :: rest).length)) := by
  have selected : selectCommand descriptor (first :: rest) = some (best.1, best.2.2) := by
    rw [selectCommand_eq, found]
    rfl
  rw [dispatch, selected]

theorem dispatched_named
    (found : firstGreatest (fun candidate : Candidate => candidate.2.1.length)
      (matching descriptor commandParts) = some best)
    (worded : best.2.1 = best.2.2.path ∨ best.2.1 ≠ []) (asked : commandParts ≠ []) :
    Dispatched descriptor commandParts (.ok (best.1, best.2.2,
        commandParts.drop (min best.2.2.path.length commandParts.length))) ↔
      OwnLength descriptor commandParts := by
  obtain ⟨member, starts, longest, earliest⟩ := best_candidate descriptor commandParts best found
  have declared := ((mem_candidates descriptor best).mp member).1
  have selects : Selects descriptor commandParts best.1 best.2.1 := by
    refine ⟨candidate_name descriptor best member worded, starts, ?_, ?_⟩
    · intro other others named begins
      obtain ⟨command, inside⟩ := name_candidate descriptor other others named
      exact longest _ inside begins
    · intro other named
      obtain ⟨command, inside⟩ := name_candidate descriptor other best.2.1 named
      exact earliest _ inside starts rfl
  obtain ⟨arguments, whole⟩ := starts
  constructor
  · rintro ⟨_, words, selected, split⟩
    obtain ⟨_, rfl⟩ := Selects.unique descriptor commandParts selects selected
    have lengths := congrArg List.length split
    rw [List.length_append, List.length_drop] at lengths
    have total := congrArg List.length whole
    rw [List.length_append] at total
    refine ⟨?_, ?_, fun none_asked => absurd none_asked asked⟩
    · intro index command others found_command chosen
      obtain ⟨rfl, rfl⟩ := Selects.unique descriptor commandParts selects chosen
      rw [declared] at found_command
      cases found_command
      omega
    · intro _ index ⟨command, listed, wordless⟩
      by_cases empty : best.2.1 = []
      · refine ⟨best.1, best.2.1, selects.named, selects.starts, Or.inr ?_⟩
        exact earliest (index, [], command)
          ((mem_candidates descriptor _).mpr ⟨listed, Or.inr wordless⟩) List.nil_prefix
          (by rw [empty])
      · exact ⟨best.1, best.2.1, selects.named, selects.starts, Or.inl empty⟩
  · intro own
    refine ⟨declared, best.2.1, selects, ?_⟩
    rw [own.own best.1 best.2.2 best.2.1 declared selects, ← whole]
    simp

theorem wordless_not_dispatched (arguments : List String)
    (found : firstGreatest (fun candidate : Candidate => candidate.2.1.length)
      (matching descriptor commandParts) = some best)
    (path : best.2.1 ≠ best.2.2.path) (wordless : best.2.1 = []) (asked : commandParts ≠ []) :
    ¬Dispatched descriptor commandParts (.ok (best.1, best.2.2, arguments)) ∧
      ¬OwnLength descriptor commandParts := by
  obtain ⟨member, starts, longest, earliest⟩ := best_candidate descriptor commandParts best found
  obtain ⟨declared, named⟩ := (mem_candidates descriptor best).mp member
  have no_words : ∀ other others, HasName descriptor other others → others <+: commandParts →
      others = [] := by
    intro other others has begins
    obtain ⟨command, inside⟩ := name_candidate descriptor other others has
    have bound := longest _ inside begins
    rw [wordless] at bound
    exact List.length_eq_zero_iff.mp (Nat.le_zero.mp bound)
  have pathless : ∀ (other : Nat) (command : DescriptorCommand), descriptor.commands[other]? = some command →
      [] ∈ names command → command.path = [] := by
    intro other command _ inside
    rcases List.mem_cons.mp inside with same | kept
    · exact same.symm
    · simp at kept
  constructor
  · rintro ⟨_, words, selects, _⟩
    have empty := no_words _ _ selects.named selects.starts
    subst empty
    obtain ⟨command, listed, inside⟩ := selects.named
    rw [declared] at listed
    cases listed
    exact path (wordless.trans (pathless _ _ declared inside).symm)
  · intro own
    have alias_of : HasWordlessAlias descriptor best.1 := by
      refine ⟨best.2.2, declared, ?_⟩
      rcases named with same | inside
      · exact absurd same path
      · rwa [wordless] at inside
    obtain ⟨other, words, has, begins, worded⟩ := own.wordless asked best.1 alias_of
    have empty := no_words other words has begins
    rcases worded with given | early
    · exact given empty
    · subst empty
      obtain ⟨command, listed, inside⟩ := has
      have emptied := pathless _ _ listed inside
      have late := earliest (other, [], command)
        ((mem_candidates descriptor _).mpr ⟨listed, Or.inl emptied.symm⟩) List.nil_prefix
        (by rw [wordless])
      have same : other = best.1 := le_antisymm early late
      subst same
      rw [declared] at listed
      cases listed
      exact path (wordless.trans emptied.symm)

/-- Dispatch consumes the name it matched exactly when every name meant has the length of its
command's path. -/
theorem dispatch_consumes_iff :
    Dispatched descriptor commandParts (dispatch descriptor commandParts) ↔
      OwnLength descriptor commandParts := by
  rcases commandParts with _ | ⟨first, rest⟩
  · exact dispatched_nothing descriptor
  · rcases found : firstGreatest (fun candidate : Candidate => candidate.2.1.length)
        (matching descriptor (first :: rest)) with _ | best
    · have refused : dispatch descriptor (first :: rest) =
          .error (.failed ("unknown command '" ++ first ++ "'")) := by
        have unselected : selectCommand descriptor (first :: rest) = none := by
          rw [selectCommand_eq, found]
          rfl
        rw [dispatch, unselected]
      have none_matches : ∀ candidate ∈ candidates descriptor,
          ¬candidate.2.1 <+: first :: rest := by
        intro candidate inside begins
        have matched := (mem_matching descriptor (first :: rest) candidate).mpr ⟨inside, begins⟩
        rw [(firstGreatest_none _ _).mp found] at matched
        cases matched
      have unnamed : ∀ index words, HasName descriptor index words →
          ¬words <+: first :: rest := by
        intro index words named begins
        obtain ⟨command, inside⟩ := name_candidate descriptor index words named
        exact none_matches _ inside begins
      rw [refused]
      refine ⟨fun _ => ⟨?_, ?_, fun none_asked => nomatch none_asked⟩, fun _ => unnamed⟩
      · intro index command words _ selects
        exact absurd selects.starts (unnamed index words selects.named)
      · intro _ index ⟨command, listed, wordless⟩
        exact absurd List.nil_prefix (none_matches (index, [], command)
          ((mem_candidates descriptor _).mpr ⟨listed, Or.inr wordless⟩))
    · rw [dispatch_best descriptor best first rest found]
      by_cases worded : best.2.1 = best.2.2.path ∨ best.2.1 ≠ []
      · exact dispatched_named descriptor (first :: rest) best found worded (by simp)
      · rw [not_or, not_not] at worded
        have neither := wordless_not_dispatched descriptor (first :: rest) best
          ((first :: rest).drop (min best.2.2.path.length (first :: rest).length)) found
          worded.1 worded.2 (by simp)
        exact ⟨fun dispatched => absurd dispatched neither.1, fun own => absurd own neither.2⟩

end Names

/-- One command, `remote add`, that is also called `ra`. -/
def aliasedDescriptor : CliDescriptor where
  name := "app"
  mode := modeSubcommand
  version := none
  description := none
  exit := .none
  globalOptions := []
  globalOperands := []
  options := []
  operands := []
  commands := [⟨["remote", "add"], ["ra"], [], [], none⟩]

/-- The alias has one word, and two are removed. -/
theorem alias_drops_argument :
    dispatch aliasedDescriptor ["ra", "origin", "url"] =
        .ok (0, ⟨["remote", "add"], ["ra"], [], [], none⟩, ["url"]) ∧
      ¬Dispatched aliasedDescriptor ["ra", "origin", "url"]
        (dispatch aliasedDescriptor ["ra", "origin", "url"]) := by
  have dispatched : dispatch aliasedDescriptor ["ra", "origin", "url"] =
      .ok (0, ⟨["remote", "add"], ["ra"], [], [], none⟩, ["url"]) := by
    decide
  refine ⟨dispatched, ?_⟩
  rw [dispatched]
  rintro ⟨_, words, selects, split⟩
  have two : words = ["ra", "origin"] := by
    have equal : words ++ ["url"] = ["ra", "origin"] ++ ["url"] := split.symm
    exact List.append_cancel_right equal
  obtain ⟨command, listed, inside⟩ := selects.named
  cases listed
  rw [two] at inside
  revert inside
  decide

end FaberRuntime.Cli
