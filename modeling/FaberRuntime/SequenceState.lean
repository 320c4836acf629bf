import FaberRuntime.ExecutionTransaction.Mirror
import FaberRuntime.Foundation.Run

namespace FaberRuntime

/-! The token history of one sequence, advanced only by committed tokens. -/

def TransactionCommitBoundary.isEmpty (boundary : TransactionCommitBoundary) : Bool :=
  boundary.barriers.isEmpty && boundary.launches.isEmpty

structure TokenCommit where
  token : Int64
  position : UInt32
  kvGeneration : UInt64
  publicationBoundary : TransactionCommitBoundary
  deriving DecidableEq

inductive SequenceCommitOutcome
  | applied
  | idempotentReplay
  deriving DecidableEq, Repr

inductive SequenceCommitError
  | noPublicationBoundary
  | outOfOrderPosition (expected attempted : UInt32)
  | kvGenerationGap (expected attempted : UInt64)
  deriving DecidableEq, Repr

def SequenceCommitError.isRetryable (_ : SequenceCommitError) : Bool := false

structure SequenceState where
  sequenceId : UInt64
  position : UInt32
  tokenHistory : List Int64
  kvGenerations : UInt64
  deriving DecidableEq, Repr

namespace SequenceState

def new (sequenceId : UInt64) (prompt : List Int64) : SequenceState :=
  { sequenceId
    position := UInt32.ofNat prompt.length
    tokenHistory := prompt
    kvGenerations := UInt64.ofNat prompt.length }

def previousPosition (state : SequenceState) : UInt32 :=
  if state.position = 0 then 0 else state.position - 1

def Replays (state : SequenceState) (commit : TokenCommit) : Prop :=
  commit.position = state.previousPosition ∧ commit.kvGeneration = state.kvGenerations ∧
    state.tokenHistory.getLast? = some commit.token

instance (state : SequenceState) (commit : TokenCommit) : Decidable (state.Replays commit) :=
  inferInstanceAs (Decidable (_ ∧ _ ∧ _))

def advanced (state : SequenceState) (commit : TokenCommit) : SequenceState :=
  { state with
    tokenHistory := state.tokenHistory ++ [commit.token]
    position := state.position + 1
    kvGenerations := state.kvGenerations + 1 }

def commit (state : SequenceState) (commit : TokenCommit) :
    Except SequenceCommitError SequenceCommitOutcome × SequenceState :=
  if commit.publicationBoundary.isEmpty then (.error .noPublicationBoundary, state)
  else if state.Replays commit then (.ok .idempotentReplay, state)
  else if commit.position ≠ state.position then
    (.error (.outOfOrderPosition state.position commit.position), state)
  else if commit.kvGeneration ≠ state.kvGenerations + 1 then
    (.error (.kvGenerationGap (state.kvGenerations + 1) commit.kvGeneration), state)
  else (.ok .applied, state.advanced commit)

def submit (state : SequenceState) (commit : TokenCommit) : SequenceState :=
  (state.commit commit).2

def Applies (state : SequenceState) (commit : TokenCommit) : Prop :=
  (state.commit commit).1 = .ok .applied

theorem applies_iff (state : SequenceState) (commit : TokenCommit) :
    state.Applies commit ↔ commit.publicationBoundary.isEmpty = false ∧ ¬ state.Replays commit ∧
      commit.position = state.position ∧ commit.kvGeneration = state.kvGenerations + 1 := by
  unfold Applies SequenceState.commit
  split_ifs with empty replays order gap
  · simp [empty]
  · simp [replays]
  · simp [order]
  · simp [gap]
  · simp_all

instance (state : SequenceState) (commit : TokenCommit) : Decidable (state.Applies commit) :=
  decidable_of_iff _ (state.applies_iff commit).symm

theorem submit_eq (state : SequenceState) (commit : TokenCommit) :
    state.submit commit = if state.Applies commit then state.advanced commit else state := by
  unfold Applies submit SequenceState.commit
  split_ifs <;> simp_all

theorem submit_of_applies (state : SequenceState) (commit : TokenCommit)
    (applies : state.Applies commit) : state.submit commit = state.advanced commit := by
  rw [submit_eq, if_pos applies]

theorem submit_of_not_applies (state : SequenceState) (commit : TokenCommit)
    (refused : ¬ state.Applies commit) : state.submit commit = state := by
  rw [submit_eq, if_neg refused]

def run (state : SequenceState) (commits : List TokenCommit) : SequenceState :=
  replay submit state commits

/-- The commits of a run that returned `Applied`, in order. -/
def appliedCommits : SequenceState → List TokenCommit → List TokenCommit
  | _, [] => []
  | state, commit :: commits =>
      if state.Applies commit then commit :: (state.submit commit).appliedCommits commits
      else (state.submit commit).appliedCommits commits

@[simp] theorem run_nil (state : SequenceState) : state.run [] = state := rfl

@[simp] theorem run_cons (state : SequenceState) (commit : TokenCommit)
    (commits : List TokenCommit) :
    state.run (commit :: commits) = (state.submit commit).run commits := rfl

theorem run_tokenHistory (state : SequenceState) (commits : List TokenCommit) :
    (state.run commits).tokenHistory =
      state.tokenHistory ++ (state.appliedCommits commits).map TokenCommit.token := by
  induction commits generalizing state with
  | nil => simp [appliedCommits]
  | cons commit commits ih =>
      rw [run_cons, ih, appliedCommits]
      by_cases applies : state.Applies commit
      · rw [if_pos applies, submit_of_applies state commit applies]
        simp [advanced]
      · rw [if_neg applies, submit_of_not_applies state commit applies]

structure Aligned (state : SequenceState) : Prop where
  position : state.position.toNat = state.tokenHistory.length
  generations : state.kvGenerations.toNat = state.tokenHistory.length

theorem new_aligned (sequenceId : UInt64) (prompt : List Int64) (short : prompt.length < 2 ^ 32) :
    (new sequenceId prompt).Aligned where
  position := UInt32.toNat_ofNat_of_lt' short
  generations := UInt64.toNat_ofNat_of_lt' (lt_trans short (by decide))

theorem advanced_aligned (state : SequenceState) (commit : TokenCommit) (aligned : state.Aligned)
    (short : state.tokenHistory.length + 1 < 2 ^ 32) : (state.advanced commit).Aligned := by
  have position := aligned.position
  have generations := aligned.generations
  constructor
  · simp only [advanced, UInt32.toNat_add, List.length_append, List.length_singleton]
    rw [UInt32.toNat_one, position, Nat.mod_eq_of_lt short]
  · simp only [advanced, UInt64.toNat_add, List.length_append, List.length_singleton]
    rw [UInt64.toNat_one, generations, Nat.mod_eq_of_lt (by omega)]

theorem submit_aligned (state : SequenceState) (commit : TokenCommit) (aligned : state.Aligned)
    (short : (state.submit commit).tokenHistory.length < 2 ^ 32) :
    (state.submit commit).Aligned := by
  by_cases applies : state.Applies commit
  · rw [submit_of_applies state commit applies] at short ⊢
    apply advanced_aligned state commit aligned
    simpa [advanced] using short
  · rw [submit_of_not_applies state commit applies]
    exact aligned

theorem run_length (state : SequenceState) (commits : List TokenCommit) :
    state.tokenHistory.length ≤ (state.run commits).tokenHistory.length := by
  rw [run_tokenHistory, List.length_append]
  omega

theorem run_aligned (state : SequenceState) (commits : List TokenCommit) (aligned : state.Aligned)
    (short : (state.run commits).tokenHistory.length < 2 ^ 32) : (state.run commits).Aligned := by
  induction commits generalizing state with
  | nil => exact aligned
  | cons commit commits ih =>
      rw [run_cons] at short ⊢
      apply ih (state.submit commit) _ short
      apply submit_aligned state commit aligned
      exact lt_of_le_of_lt (run_length (state.submit commit) commits) short

theorem advanced_replays (state : SequenceState) (commit : TokenCommit) (aligned : state.Aligned)
    (short : state.tokenHistory.length + 1 < 2 ^ 32) (applies : state.Applies commit) :
    (state.advanced commit).Replays commit := by
  have position := aligned.position
  rcases (state.applies_iff commit).mp applies with ⟨_, _, order, generation⟩
  have stepped : (state.position + 1).toNat = state.position.toNat + 1 := by
    rw [UInt32.toNat_add, UInt32.toNat_one]
    omega
  have nonzero : state.position + 1 ≠ 0 := by
    intro zero
    rw [zero, UInt32.toNat_zero] at stepped
    omega
  constructor
  · unfold previousPosition advanced
    rw [if_neg nonzero, order]
    simp
  · exact ⟨generation, by simp [advanced]⟩

theorem resubmitted (state : SequenceState) (commit : TokenCommit) (aligned : state.Aligned)
    (short : state.tokenHistory.length + 1 < 2 ^ 32) (applies : state.Applies commit) :
    (state.advanced commit).commit commit = (.ok .idempotentReplay, state.advanced commit) := by
  rcases (state.applies_iff commit).mp applies with ⟨published, _, _, _⟩
  have replays := advanced_replays state commit aligned short applies
  rw [SequenceState.commit, published, if_neg Bool.false_ne_true, if_pos replays]

theorem run_replicate (state : SequenceState) (commit : TokenCommit) (count : Nat)
    (fixed : state.submit commit = state) : state.run (List.replicate count commit) = state := by
  induction count with
  | zero => rfl
  | succ count ih => rw [List.replicate_succ, run_cons, fixed, ih]

theorem appliedCommits_position (state : SequenceState) (commits : List TokenCommit)
    (aligned : state.Aligned) (short : (state.run commits).tokenHistory.length < 2 ^ 32)
    (index : Nat) (applied : TokenCommit)
    (found : (state.appliedCommits commits)[index]? = some applied) :
    applied.position.toNat = state.tokenHistory.length + index := by
  induction commits generalizing state index with
  | nil => simp [appliedCommits] at found
  | cons commit commits ih =>
      rw [run_cons] at short
      rw [appliedCommits] at found
      have bound := lt_of_le_of_lt (run_length (state.submit commit) commits) short
      have next := submit_aligned state commit aligned bound
      by_cases applies : state.Applies commit
      · rw [if_pos applies] at found
        rcases (state.applies_iff commit).mp applies with ⟨_, _, order, _⟩
        cases index with
        | zero =>
            rw [List.getElem?_cons_zero, Option.some.injEq] at found
            rw [← found, order, aligned.position, Nat.add_zero]
        | succ index =>
            rw [List.getElem?_cons_succ] at found
            have later := ih (state.submit commit) next short index found
            rw [submit_of_applies state commit applies] at later
            simp only [advanced, List.length_append, List.length_singleton] at later
            omega
      · rw [if_neg applies] at found
        have later := ih (state.submit commit) next short index found
        rwa [submit_of_not_applies state commit applies] at later

theorem appliedCommits_distinct (state : SequenceState) (commits : List TokenCommit)
    (aligned : state.Aligned) (short : (state.run commits).tokenHistory.length < 2 ^ 32) :
    (state.appliedCommits commits).Pairwise
      (fun first second => first.position < second.position) := by
  rw [List.pairwise_iff_getElem]
  intro first second first_lt second_lt less
  have at_first := appliedCommits_position state commits aligned short first _
    (List.getElem?_eq_getElem first_lt)
  have at_second := appliedCommits_position state commits aligned short second _
    (List.getElem?_eq_getElem second_lt)
  rw [UInt32.lt_iff_toNat_lt, at_first, at_second]
  omega

theorem sequence_state_machine (sequenceId : UInt64) (prompt : List Int64)
    (commits : List TokenCommit)
    (short : ((new sequenceId prompt).run commits).tokenHistory.length < 2 ^ 32) :
    let applied := (new sequenceId prompt).appliedCommits commits
    let state := (new sequenceId prompt).run commits
    (state.position.toNat = state.tokenHistory.length ∧
      state.kvGenerations.toNat = state.tokenHistory.length) ∧
    state.tokenHistory = prompt ++ applied.map TokenCommit.token ∧
    (∀ commit, (state.commit commit).1 ≠ .ok .applied → (state.commit commit).2 = state) ∧
    (∀ commit, (state.commit commit).1 = .ok .applied →
      (state.submit commit).tokenHistory.length < 2 ^ 32 →
      (state.submit commit).commit commit = (.ok .idempotentReplay, state.submit commit) ∧
      ∀ count, (state.submit commit).run (List.replicate count commit) = state.submit commit) ∧
    applied.Pairwise (fun first second => first.position < second.position) := by
  intro applied state
  have whole := run_tokenHistory (new sequenceId prompt) commits
  have start : (new sequenceId prompt).Aligned := by
    apply new_aligned
    exact lt_of_le_of_lt (run_length (new sequenceId prompt) commits) short
  have aligned := run_aligned (new sequenceId prompt) commits start short
  constructor
  · exact ⟨aligned.position, aligned.generations⟩
  constructor
  · exact whole
  constructor
  · intro commit refused
    exact submit_of_not_applies state commit refused
  constructor
  · intro commit applies next
    have submitted := submit_of_applies state commit applies
    have room : state.tokenHistory.length + 1 < 2 ^ 32 := by
      rw [submitted] at next
      simpa [advanced] using next
    have again := resubmitted state commit aligned room applies
    rw [submitted]
    constructor
    · exact again
    · intro count
      exact run_replicate _ commit count (congrArg Prod.snd again)
  · exact appliedCommits_distinct (new sequenceId prompt) commits start short

/-- After the prompt `504, 2365`: a fresh token, its replay and a conflicting token. -/
def decodedCommits : List TokenCommit :=
  let boundary : TransactionCommitBoundary := ⟨(∅ : BTreeSet BarrierRef).insert ⟨"step"⟩, ∅⟩
  [⟨6354, 2, 3, boundary⟩, ⟨6354, 2, 3, boundary⟩, ⟨9, 2, 3, boundary⟩]

theorem decoded_sequence :
    ((new 11 [504, 2365]).run decodedCommits).position.toNat =
      ((new 11 [504, 2365]).run decodedCommits).tokenHistory.length ∧
    ((new 11 [504, 2365]).run decodedCommits).tokenHistory = [504, 2365, 6354] :=
  ⟨(sequence_state_machine 11 [504, 2365] decodedCommits (by decide)).1.1, by decide⟩

end SequenceState

end FaberRuntime
