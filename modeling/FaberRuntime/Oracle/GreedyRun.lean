import FaberRuntime.Oracle.Incremental
import FaberRuntime.Oracle.Verdicts

namespace FaberRuntime.Oracle

open Checks Extended

/-! The free-running greedy decode, and its record of the first divergence from a trace. -/

def greedyTokenCount : Nat := 256

def windowPositions : Nat := 17

def promptTokens : List Int := [504, 2365, 6354, 16438, 27003, 690, 260, 23790, 2767]

section Greedy

variable {α D : Type} [Field α] [LinearOrder α] (ops : Scalars (Extended α) D)
  (maths : Transcendentals α) (shown : Extended α → String) (oracle : CpuOracle (Extended α))

def bandDeltaV2 : Extended α := finite (25 / 1000)

structure GreedyDivergence (α : Type) where
  position : UInt32
  comparatorTraceToken : Int
  oracleToken : Int
  failingThresholds : List FailingThreshold
  maxBandDeviation : Option (Extended α)

structure GreedyRunRecord (α : Type) where
  generatedTokens : List Int
  allFinite : Bool
  firstDivergence : Option (GreedyDivergence α)

structure Greedy (α : Type) where
  run : ForwardRun (Extended α)
  generated : List Int
  allFinite : Bool
  firstDivergence : Option (GreedyDivergence α)

def windowDeviation (logp : List (Extended α)) (window : Option (List (Extended α))) (i : Nat) :
    Option (Extended α) :=
  window.bind fun window =>
    if i < windowPositions ∧ (i + 1) * vocabSize ≤ window.length then
      some (maxBandDeviation logp ((window.drop (i * vocabSize)).take vocabSize))
    else none

def divergence (logp : List (Extended α)) (window : Option (List (Extended α))) (finite : Bool)
    (i : Nat) (traceToken token : Int) : GreedyDivergence α :=
  let band := windowDeviation logp window i
  { position := UInt32.ofNat i
    comparatorTraceToken := traceToken
    oracleToken := token
    failingThresholds := [.top1] ++
      (if band.any (lt bandDeltaV2) then [.band] else []) ++ (if finite then [] else [.finite])
    maxBandDeviation := band }

def greedyStep (traceTokens : List Int) (window : Option (List (Extended α))) (runLen : Nat)
    (greedy : Greedy α) (i : Nat) : OracleRun (Greedy α) := do
  let logits ← positionLogits ops oracle greedy.run
  let logp ← (logSoftmax maths shown logits).mapError OracleHalt.error
  let finite := logits.all isFinite && logp.all isFinite
  let token := top1NonEog logits eogTokens
  let traceToken ← okOr traceTokens[i]? .panic
  let first := if greedy.firstDivergence.isNone && token != traceToken then
      some (divergence logp window finite i traceToken token)
    else greedy.firstDivergence
  let run ← if i + 1 < runLen then pushToken ops oracle greedy.run token else .ok greedy.run
  .ok ⟨run, greedy.generated ++ [token], if finite then greedy.allFinite else false, first⟩

def runGreedy (traceTokens : List Int) (window : Option (List (Extended α))) :
    OracleRun (GreedyRunRecord α) := do
  Checks.require (traceTokens ≠ []) (.error .emptyTokens)
  let runLen := min traceTokens.length greedyTokenCount
  let run ← ForwardRun.new ops oracle promptTokens
  let greedy ← (List.range runLen).foldlM
    (greedyStep ops maths shown oracle traceTokens window runLen) ⟨run, [], true, none⟩
  .ok ⟨greedy.generated, greedy.allFinite, greedy.firstDivergence⟩

/-- Every logits vector of the oracle on known tokens is finite. -/
def FiniteLogits : Prop :=
  ∀ tokens, InVocab tokens → tokens.length < 2 ^ 32 →
    ∀ logits, forwardOne ops oracle tokens = .ok logits → ∀ logit ∈ logits, logit.isFinite = true

/-- Each token is the smallest argmax of the whole pass over the prompt and the tokens before. -/
def Decoded (generated : List Int) : Prop :=
  ∀ i < generated.length, ∃ logits,
    forwardOne ops oracle (promptTokens ++ generated.take i) = .ok logits ∧
      LowestArgmax logits eogTokens (generated.getD i 0)

/-- Some element of the log-softmax at position `i` is further from the comparator window than the
envelope. -/
def BeyondEnvelope (generated : List Int) (window : List (Extended α)) (i : Nat) : Prop :=
  ∃ logits logp, forwardOne ops oracle (promptTokens ++ generated.take i) = .ok logits ∧
    logSoftmax maths shown logits = .ok logp ∧ ∃ t < vocabSize,
      lt bandDeltaV2 (Extended.abs
        (sub (valueAt logp t) (valueAt window (i * vocabSize + t)))) = true

def InWindow (window : Option (List (Extended α))) (i : Nat) (values : List (Extended α)) : Prop :=
  window = some values ∧ i < windowPositions ∧ (i + 1) * vocabSize ≤ values.length

/-- The record names the first position at which the tokens differ. -/
structure FirstDivergence (traceTokens generated : List Int) (window : Option (List (Extended α)))
    (record : GreedyDivergence α) : Prop where
  inside : record.position.toNat < generated.length
  differs : generated.getD record.position.toNat 0 ≠ traceTokens.getD record.position.toNat 0
  first : ∀ j < record.position.toNat, generated.getD j 0 = traceTokens.getD j 0
  trace_token : record.comparatorTraceToken = traceTokens.getD record.position.toNat 0
  oracle_token : record.oracleToken = generated.getD record.position.toNat 0
  top1 : FailingThreshold.top1 ∈ record.failingThresholds
  band : FailingThreshold.band ∈ record.failingThresholds ↔
    ∃ values, InWindow window record.position.toNat values ∧
      BeyondEnvelope ops maths shown oracle generated values record.position.toNat

end Greedy

section Runner

variable {F D : Type} (ops : Scalars F D) (oracle : CpuOracle F)

theorem new_push (tokens : List Int) (token : Int) (nonempty : tokens ≠ []) (run : ForwardRun F)
    (started : ForwardRun.new ops oracle tokens = .ok run) :
    ForwardRun.new ops oracle (tokens ++ [token]) = pushToken ops oracle run token := by
  have longer : tokens ++ [token] ≠ [] := List.append_ne_nil_of_left_ne_nil nonempty _
  rw [ForwardRun.new, require_bind_eq, if_pos nonempty] at started
  rw [ForwardRun.new, require_bind_eq, if_pos longer, List.foldlM_append, started]
  exact bind_pure (pushToken ops oracle run token)

theorem new_logits (tokens : List Int) (nonempty : tokens ≠ []) (known : InVocab tokens)
    (few : tokens.length < 2 ^ 32) :
    ∃ run logits, ForwardRun.new ops oracle tokens = .ok run ∧
      positionLogits ops oracle run = .ok logits ∧ forwardOne ops oracle tokens = .ok logits ∧
      logits.length = vocabSize := by
  have started := new_eq ops oracle known few tokens [] nonempty (List.append_nil _).symm
  obtain ⟨n, count⟩ := Nat.exists_eq_succ_of_ne_zero (List.length_pos_of_ne_nil nonempty).ne'
  obtain ⟨logits, projected, length⟩ := project_ok ops oracle
    (hidden ops oracle tokens layerCount n)
    (hidden_length ops oracle known layerCount n (by omega))
  have batch := forwardOne_eq ops oracle known few n (by omega)
  have position := positionLogits_eq ops oracle few n (by omega)
  have whole : tokens.take (n + 1) = tokens := List.take_of_length_le (by omega)
  rw [whole, projected] at batch
  rw [projected] at position
  rw [count] at started
  exact ⟨_, logits, started, position, batch, length⟩

end Runner

section Band

variable {α : Type} [Field α] [LinearOrder α]

theorem maxBand_number (a b : List (Extended α)) : maxBandDeviation a b ≠ nan := by
  rw [maxBandDeviation]
  have number : (finite 0 : Extended α) ≠ nan := by
    intro equal
    cases equal
  generalize (finite 0 : Extended α) = start at number
  induction a.zip b generalizing start with
  | nil => exact number
  | cons pair pairs ih => exact ih _ (max_number start _ number)

theorem lt_maxBand_iff (a b : List (Extended α)) (bound : Extended α)
    (nonnegative : le (finite 0) bound = true) :
    lt bound (maxBandDeviation a b) = true ↔
      ∃ pair ∈ a.zip b, lt bound (Extended.abs (sub pair.1 pair.2)) = true := by
  have bounded : bound ≠ nan := (le_numbers nonnegative).2
  have beyond : ∀ x : Extended α, x ≠ nan → (lt bound x = true ↔ ¬le x bound = true) := by
    intro x number
    rw [← lt_eq_false_iff bounded number, Bool.not_eq_false]
  rw [beyond _ (maxBand_number a b), band_iff a b bound nonnegative]
  constructor
  · intro outside
    push Not at outside
    obtain ⟨pair, member, number, greater⟩ := outside
    exact ⟨pair, member, (beyond _ number).mpr greater⟩
  · rintro ⟨pair, member, greater⟩ inside
    have number := (lt_numbers greater).2
    obtain none | smaller := inside pair member
    · exact number none
    · exact (beyond _ number).mp greater smaller

theorem band_nonnegative [IsStrictOrderedRing α] :
    le (finite 0) (bandDeltaV2 : Extended α) = true := by
  rw [bandDeltaV2, le_finite]
  positivity

omit [Field α] [LinearOrder α] in
theorem valueAt_window (values : List (Extended α)) (i t : Nat) (small : t < vocabSize) :
    valueAt ((values.drop (i * vocabSize)).take vocabSize) t =
      valueAt values (i * vocabSize + t) := by
  rw [valueAt, valueAt, List.getD_eq_getElem?_getD, List.getD_eq_getElem?_getD,
    List.getElem?_take_of_lt small, List.getElem?_drop]

variable [IsStrictOrderedRing α]

theorem windowDeviation_iff (logp : List (Extended α)) (window : Option (List (Extended α)))
    (i : Nat) (sized : logp.length = vocabSize) :
    (windowDeviation logp window i).any (lt bandDeltaV2) = true ↔
      ∃ values, InWindow window i values ∧ ∃ t < vocabSize,
        lt bandDeltaV2 (Extended.abs
          (sub (valueAt logp t) (valueAt values (i * vocabSize + t)))) = true := by
  rw [windowDeviation]
  cases window with
  | none =>
      constructor
      · nofun
      · rintro ⟨_, ⟨⟨⟩, _⟩, _⟩
  | some values =>
      rw [Option.bind_some]
      by_cases inside : i < windowPositions ∧ (i + 1) * vocabSize ≤ values.length
      · have length : ((values.drop (i * vocabSize)).take vocabSize).length = vocabSize := by
          have next : (i + 1) * vocabSize = i * vocabSize + vocabSize := Nat.succ_mul _ _
          rw [List.length_take, List.length_drop]
          omega
        have pairs := forall_mem_zip logp ((values.drop (i * vocabSize)).take vocabSize)
          (sized.trans length.symm)
          fun x y => ¬lt bandDeltaV2 (Extended.abs (sub x y)) = true
        rw [if_pos inside, Option.any_some, lt_maxBand_iff _ _ _ band_nonnegative]
        constructor
        · rintro ⟨pair, member, greater⟩
          by_contra none
          refine pairs.mpr (fun t small => ?_) pair member greater
          rw [length] at small
          rw [valueAt_window values i t small]
          exact fun beyond => none ⟨values, ⟨rfl, inside⟩, t, small, beyond⟩
        · rintro ⟨_, ⟨⟨⟩, _⟩, t, small, greater⟩
          by_contra none
          refine pairs.mp (fun pair member beyond => none ⟨pair, member, beyond⟩) t
            (length.symm ▸ small) ?_
          rw [valueAt_window values i t small]
          exact greater
      · rw [if_neg inside]
        constructor
        · nofun
        · rintro ⟨_, ⟨⟨⟩, within⟩, _⟩
          exact absurd within inside

end Band

section Loop

variable {α D : Type} [Field α] [LinearOrder α] (ops : Scalars (Extended α) D)
  (maths : Transcendentals α) (shown : Extended α → String) (oracle : CpuOracle (Extended α))
  (traceTokens : List Int) (window : Option (List (Extended α)))

omit [Field α] in
theorem Decoded.append {generated : List Int} (decoded : Decoded ops oracle generated)
    (logits : List (Extended α)) (token : Int)
    (batch : forwardOne ops oracle (promptTokens ++ generated) = .ok logits)
    (argmax : LowestArgmax logits eogTokens token) :
    Decoded ops oracle (generated ++ [token]) := by
  intro i small
  rw [List.length_append, List.length_singleton] at small
  by_cases before : i < generated.length
  · rw [List.take_append_of_le_length before.le, List.getD_append _ _ _ _ before]
    exact decoded i before
  · have last : i = generated.length := by omega
    rw [last, List.take_left, List.getD_append_right _ _ _ _ (Nat.le_refl _), Nat.sub_self]
    exact ⟨logits, batch, argmax⟩

theorem beyond_append_iff (generated : List Int) (token : Int) (values : List (Extended α))
    (i : Nat) (within : i ≤ generated.length) :
    BeyondEnvelope ops maths shown oracle (generated ++ [token]) values i ↔
      BeyondEnvelope ops maths shown oracle generated values i := by
  rw [BeyondEnvelope, BeyondEnvelope, List.take_append_of_le_length within]

theorem FirstDivergence.append {generated : List Int} {record : GreedyDivergence α}
    (recorded : FirstDivergence ops maths shown oracle traceTokens generated window record)
    (token : Int) :
    FirstDivergence ops maths shown oracle traceTokens (generated ++ [token]) window record := by
  have kept : ∀ j ≤ record.position.toNat,
      (generated ++ [token]).getD j 0 = generated.getD j 0 := by
    intro j before
    exact List.getD_append _ _ _ _ (before.trans_lt recorded.inside)
  refine ⟨?_, ?_, ?_, recorded.trace_token, ?_, recorded.top1, ?_⟩
  · rw [List.length_append]
    exact Nat.lt_add_right _ recorded.inside
  · rw [kept _ (Nat.le_refl _)]
    exact recorded.differs
  · intro j before
    rw [kept j before.le]
    exact recorded.first j before
  · rw [kept _ (Nat.le_refl _)]
    exact recorded.oracle_token
  · rw [recorded.band]
    refine exists_congr fun values => and_congr_right fun _ => ?_
    exact (beyond_append_iff ops maths shown oracle generated token values _
      recorded.inside.le).symm

/-- What holds in front of position `i`. -/
structure Kept (runLen i : Nat) (greedy : Greedy α) : Prop where
  length : greedy.generated.length = i
  known : InVocab (promptTokens ++ greedy.generated)
  runner : i < runLen →
    ForwardRun.new ops oracle (promptTokens ++ greedy.generated) = .ok greedy.run
  decoded : Decoded ops oracle greedy.generated
  agrees : greedy.firstDivergence = none → greedy.generated = traceTokens.take i
  recorded : ∀ record, greedy.firstDivergence = some record →
    FirstDivergence ops maths shown oracle traceTokens greedy.generated window record

theorem prompt_known : InVocab promptTokens := by
  rw [InVocab]
  decide

theorem prompt_append (generated : List Int) : promptTokens ++ generated ≠ [] :=
  List.append_ne_nil_of_left_ne_nil (List.cons_ne_nil _ _) _

/-- What the loop has after position `i`. -/
def stepped (greedy : Greedy α) (logits logp : List (Extended α)) (i : Nat) (traceToken : Int)
    (run : ForwardRun (Extended α)) : Greedy α :=
  let finite := logits.all isFinite && logp.all isFinite
  let token := top1NonEog logits eogTokens
  { run := run
    generated := greedy.generated ++ [token]
    allFinite := if finite then greedy.allFinite else false
    firstDivergence := if greedy.firstDivergence.isNone && token != traceToken then
        some (divergence logp window finite i traceToken token)
      else greedy.firstDivergence }

theorem stepped_cases (greedy : Greedy α) (logits logp : List (Extended α)) (i : Nat)
    (traceToken : Int) (run : ForwardRun (Extended α)) :
    (greedy.firstDivergence = none ∧ top1NonEog logits eogTokens ≠ traceToken ∧
      (stepped window greedy logits logp i traceToken run).firstDivergence =
        some (divergence logp window (logits.all isFinite && logp.all isFinite) i traceToken
          (top1NonEog logits eogTokens))) ∨
    ((greedy.firstDivergence = none → top1NonEog logits eogTokens = traceToken) ∧
      (stepped window greedy logits logp i traceToken run).firstDivergence =
        greedy.firstDivergence) := by
  by_cases taken : (greedy.firstDivergence.isNone &&
      top1NonEog logits eogTokens != traceToken) = true
  · have both := taken
    rw [Bool.and_eq_true, Option.isNone_iff_eq_none, bne_iff_ne] at both
    exact .inl ⟨both.1, both.2, if_pos taken⟩
  · refine .inr ⟨fun none => ?_, if_neg taken⟩
    rw [none, Option.isNone_none, Bool.true_and, bne_iff_ne, not_not] at taken
    exact taken

theorem greedyStep_eq (runLen i : Nat) (greedy : Greedy α) (logits logp : List (Extended α))
    (traceToken : Int) (following : ForwardRun (Extended α))
    (position : positionLogits ops oracle greedy.run = .ok logits)
    (soft : logSoftmax maths shown logits = .ok logp) (token : traceTokens[i]? = some traceToken)
    (pushed : (if i + 1 < runLen then pushToken ops oracle greedy.run (top1NonEog logits eogTokens)
      else .ok greedy.run) = .ok following) :
    greedyStep ops maths shown oracle traceTokens window runLen greedy i =
      .ok (stepped window greedy logits logp i traceToken following) := by
  rw [greedyStep, position]
  simp only [bind, Except.bind, soft, Except.mapError, token, okOr]
  by_cases more : i + 1 < runLen
  · rw [if_pos more] at pushed
    rw [if_pos more, pushed]
    rfl
  · rw [if_neg more] at pushed
    injection pushed with same
    rw [if_neg more, same]
    rfl

variable [IsStrictOrderedRing α]

theorem divergence_first (generated : List Int) (token : Int) (finite : Bool)
    (logits logp : List (Extended α)) (few : generated.length < 2 ^ 32)
    (agrees : generated = traceTokens.take generated.length)
    (differs : token ≠ traceTokens.getD generated.length 0)
    (batch : forwardOne ops oracle (promptTokens ++ generated) = .ok logits)
    (soft : logSoftmax maths shown logits = .ok logp) (sized : logp.length = vocabSize) :
    FirstDivergence ops maths shown oracle traceTokens (generated ++ [token]) window
      (divergence logp window finite generated.length (traceTokens.getD generated.length 0)
        token) := by
  have position : (divergence logp window finite generated.length
      (traceTokens.getD generated.length 0) token).position.toNat = generated.length :=
    UInt32.toNat_ofNat_of_lt few
  have last : (generated ++ [token]).getD generated.length 0 = token := by
    rw [List.getD_append_right _ _ _ _ (Nat.le_refl _), Nat.sub_self]
    rfl
  have band : FailingThreshold.band ∈ (divergence logp window finite generated.length
      (traceTokens.getD generated.length 0) token).failingThresholds ↔
        (windowDeviation logp window generated.length).any (lt bandDeltaV2) = true := by
    rw [divergence]
    simp only
    split_ifs with exceeded <;> simp [exceeded]
  refine ⟨?_, ?_, ?_, ?_, ?_, List.mem_append_left _ (List.mem_append_left _
    (List.mem_singleton_self _)), ?_⟩
  · rw [position, List.length_append, List.length_singleton]
    exact Nat.lt_succ_self _
  · rw [position, last]
    exact differs
  · intro j before
    rw [position] at before
    rw [List.getD_append _ _ _ _ before, agrees, List.getD_eq_getElem?_getD,
      List.getD_eq_getElem?_getD, List.getElem?_take_of_lt before]
  · rw [position]
    rfl
  · rw [position, last]
    rfl
  · rw [band, windowDeviation_iff logp window _ sized, position]
    refine exists_congr fun values => and_congr_right fun _ => ?_
    rw [BeyondEnvelope, List.take_left, batch]
    constructor
    · intro beyond
      exact ⟨logits, logp, rfl, soft, beyond⟩
    · rintro ⟨_, other, ⟨⟩, soft', beyond⟩
      rw [soft] at soft'
      cases soft'
      exact beyond

theorem greedyStep_keeps (numbers : FiniteLogits ops oracle) (runLen : Nat)
    (bounded : runLen ≤ traceTokens.length) (short : runLen ≤ greedyTokenCount) (i : Nat)
    (small : i < runLen) (greedy : Greedy α)
    (kept : Kept ops maths shown oracle traceTokens window runLen i greedy) :
    ∃ next, greedyStep ops maths shown oracle traceTokens window runLen greedy i = .ok next ∧
      Kept ops maths shown oracle traceTokens window runLen (i + 1) next := by
  have limit : greedyTokenCount = 256 := rfl
  have prompt_length : promptTokens.length = 9 := rfl
  have nonempty := prompt_append greedy.generated
  have length := kept.length
  have few : (promptTokens ++ greedy.generated).length < 2 ^ 32 := by
    rw [List.length_append]
    omega
  obtain ⟨run, logits, started, position, batch, sized⟩ := new_logits ops oracle
    (promptTokens ++ greedy.generated) nonempty kept.known few
  rw [kept.runner small] at started
  injection started with same_run
  subst same_run
  have finite_logits := numbers _ kept.known few _ batch
  obtain ⟨reals, reals_eq⟩ := eq_map_finite logits finite_logits
  have reals_sized : reals.length = vocabSize := by
    rw [← sized, reals_eq, List.length_map]
  obtain ⟨softened, soft, softened_length⟩ := logSoftmax_finite maths shown reals
    (List.ne_nil_of_length_pos (by rw [reals_sized]; exact vocab_pos))
  rw [← reals_eq] at soft
  have logp_sized : (softened.map finite).length = vocabSize := by
    rw [List.length_map, softened_length, reals_sized]
  have argmax := top1_lowestArgmax logits eogTokens finite_logits
    (by rw [sized]; exact ⟨1, by decide, by decide⟩)
  have token_known : 0 ≤ top1NonEog logits eogTokens ∧
      top1NonEog logits eogTokens < vocabSize := by
    obtain ⟨t, at_t, inside, _⟩ := argmax
    rw [at_t]
    omega
  have known_next : InVocab
      (promptTokens ++ (greedy.generated ++ [top1NonEog logits eogTokens])) := by
    intro token member
    rw [← List.append_assoc, List.mem_append, List.mem_singleton] at member
    obtain before | rfl := member
    · exact kept.known token before
    · exact token_known
  have trace_token : traceTokens[i]? = some (traceTokens.getD i 0) := by
    rw [List.getD_eq_getElem _ _ (by omega), List.getElem?_eq_getElem]
  obtain ⟨following, run_next, runner_next⟩ : ∃ following : ForwardRun (Extended α),
      (if i + 1 < runLen then pushToken ops oracle greedy.run (top1NonEog logits eogTokens)
        else .ok greedy.run) = .ok following ∧
      (i + 1 < runLen → ForwardRun.new ops oracle
        (promptTokens ++ (greedy.generated ++ [top1NonEog logits eogTokens])) = .ok following) := by
    by_cases more : i + 1 < runLen
    · obtain ⟨following, _, begun, _⟩ := new_logits ops oracle
        (promptTokens ++ (greedy.generated ++ [top1NonEog logits eogTokens]))
        (prompt_append _) known_next
        (by rw [List.length_append, List.length_append, List.length_singleton]; omega)
      refine ⟨following, ?_, fun _ => begun⟩
      rw [← List.append_assoc, new_push ops oracle _ _ nonempty greedy.run (kept.runner small)]
        at begun
      rw [if_pos more, begun]
    · exact ⟨greedy.run, if_neg more, fun less => absurd less more⟩
  refine ⟨_, greedyStep_eq ops maths shown oracle traceTokens window runLen i greedy logits _ _
    following position soft trace_token run_next, ⟨?_, known_next, runner_next,
    kept.decoded.append ops oracle logits _ batch argmax, ?_, ?_⟩⟩
  · rw [stepped, List.length_append, length, List.length_singleton]
  · intro none
    obtain ⟨_, _, taken⟩ | ⟨same_token, unchanged⟩ := stepped_cases window greedy logits
      (softened.map finite) i (traceTokens.getD i 0) following
    · rw [none] at taken
      cases taken
    · rw [unchanged] at none
      rw [List.take_add_one, trace_token, ← kept.agrees none, ← same_token none]
      rfl
  · intro record taken
    obtain ⟨none, differs, new⟩ | ⟨_, unchanged⟩ := stepped_cases window greedy logits
      (softened.map finite) i (traceTokens.getD i 0) following
    · rw [new] at taken
      injection taken with same
      have first := divergence_first ops maths shown oracle traceTokens window greedy.generated
        (top1NonEog logits eogTokens)
        (logits.all isFinite && (softened.map finite).all isFinite) logits (softened.map finite)
        (by omega) (length.symm ▸ kept.agrees none) (length.symm ▸ differs) batch soft logp_sized
      rw [length] at first
      exact same ▸ first
    · rw [unchanged] at taken
      exact (kept.recorded record taken).append ops maths shown oracle traceTokens window _

/-- The greedy run is the free-running decode, and records where it leaves the trace. -/
theorem greedy_run_records (numbers : FiniteLogits ops oracle) (nonempty : traceTokens ≠ []) :
    ∃ record, runGreedy ops maths shown oracle traceTokens window = .ok record ∧
      record.generatedTokens.length = min traceTokens.length 256 ∧
      Decoded ops oracle record.generatedTokens ∧
      (record.firstDivergence = none ↔
        record.generatedTokens = traceTokens.take (min traceTokens.length 256)) ∧
      ∀ divergence, record.firstDivergence = some divergence →
        FirstDivergence ops maths shown oracle traceTokens record.generatedTokens window
          divergence := by
  obtain ⟨run, _, started, _⟩ := new_logits ops oracle promptTokens (List.cons_ne_nil _ _)
    prompt_known (by decide)
  have steps := range_keeps
    (Kept ops maths shown oracle traceTokens window (min traceTokens.length greedyTokenCount))
    (greedyStep ops maths shown oracle traceTokens window
      (min traceTokens.length greedyTokenCount))
    (min traceTokens.length greedyTokenCount)
    (greedyStep_keeps ops maths shown oracle traceTokens window numbers _ (Nat.min_le_left _ _)
      (Nat.min_le_right _ _))
    ⟨run, [], true, none⟩
    { length := rfl
      known := prompt_known
      runner := fun _ => started
      decoded := fun i small => absurd small (Nat.not_lt_zero i)
      agrees := fun _ => rfl
      recorded := nofun }
  obtain ⟨greedy, loop, kept⟩ := steps
  refine ⟨⟨greedy.generated, greedy.allFinite, greedy.firstDivergence⟩, ?_, kept.length,
    kept.decoded, ⟨kept.agrees, ?_⟩, kept.recorded⟩
  · rw [runGreedy, require_bind_eq, if_pos nonempty, started]
    simp only [bind, Except.bind, loop]
  · intro same
    simp only at same ⊢
    cases taken : greedy.firstDivergence with
    | none => rfl
    | some record =>
        have recorded := kept.recorded record taken
        have inside : record.position.toNat < min traceTokens.length 256 :=
          kept.length ▸ recorded.inside
        refine absurd ?_ recorded.differs
        rw [same, List.getD_eq_getElem?_getD, List.getD_eq_getElem?_getD,
          List.getElem?_take_of_lt inside]

end Loop

def real : Extended ℝ → ℝ
  | finite a => a
  | _ => 0

noncomputable def realScalars : Scalars (Extended ℝ) ℝ where
  literal digits places := finite (digits / 10 ^ places)
  negInfinity := negInf
  add x y := finite (real x + real y)
  sub x y := finite (real x - real y)
  mul x y := finite (real x * real y)
  div x y := finite (real x / real y)
  neg x := finite (-real x)
  exp x := finite (Real.exp (real x))
  sqrt x := finite (Real.sqrt (real x))
  cos x := finite (Real.cos (real x))
  sin x := finite (Real.sin (real x))
  powf x y := finite (real x ^ real y)
  lt := Extended.lt
  isZero x := decide (x = finite 0)
  isFinite := Extended.isFinite
  emptySum := finite 0
  ofU32 n := finite n.toNat
  ofUsize n := finite n.toNat
  kvF16Round x := x
  widen := real
  narrow := finite
  emptySumWide := 0
  addWide x y := x + y
  mulWide x y := x * y
  divWide x y := x / y
  ofUsizeWide n := n.toNat

noncomputable def rampLayer : LayerWeights (Extended ℝ) where
  attnNorm := ramp 3 _
  attnQ := ramp 5 _
  attnK := ramp 7 _
  attnV := ramp 11 _
  attnOutput := ramp 13 _
  ffnNorm := ramp 4 _
  ffnGate := ramp 9 _
  ffnUp := ramp 8 _
  ffnDown := ramp 6 _
  attnNorm_length := ramp_length _ _
  attnQ_length := ramp_length _ _
  attnK_length := ramp_length _ _
  attnV_length := ramp_length _ _
  attnOutput_length := ramp_length _ _
  ffnNorm_length := ramp_length _ _
  ffnGate_length := ramp_length _ _
  ffnUp_length := ramp_length _ _
  ffnDown_length := ramp_length _ _

noncomputable def rampOracle : CpuOracle (Extended ℝ) where
  tokEmbd := ramp 17 _
  layers := List.replicate _ rampLayer
  outputNorm := ramp 2 _
  tokEmbd_length := ramp_length _ _
  layers_length := List.length_replicate
  outputNorm_length := ramp_length _ _

/-- Three more tokens behind two, and two query rows of four heads over three keys. -/
theorem ramp_pushes :
    (∃ run, ForwardRun.new realScalars rampOracle [504, 2365] = .ok run ∧
      ∀ pushed later, [6354, 16438, 27003] = pushed ++ later →
        ∃ next logits, pushed.foldlM (pushToken realScalars rampOracle) run = .ok next ∧
          positionLogits realScalars rampOracle next = .ok logits ∧
          forwardOne realScalars rampOracle ([504, 2365] ++ pushed) = .ok logits) ∧
    ∃ rows : Nat → List (Extended ℝ),
      attentionGqa realScalars (ramp 5 16) (ramp 7 12) (ramp 11 12) ⟨2, 3, 4, 2, 2⟩ (finite 1) =
        .ok ((List.range 2).flatMap rows) := by
  have incremental := incremental_eq_batch realScalars
  constructor
  · exact incremental.1 rampOracle [504, 2365] [6354, 16438, 27003] (by decide)
      (by rw [InVocab]; decide) (by decide)
  · have shaped : Shaped (ramp 5 16) (ramp 7 12) (ramp 11 12) ⟨2, 3, 4, 2, 2⟩ :=
      ⟨by decide, by decide, by decide, ramp_length 5 16, ramp_length 7 12, ramp_length 11 12⟩
    have roomy : Roomy ⟨2, 3, 4, 2, 2⟩ := fun _ _ _ => by decide
    obtain ⟨rows, whole, _⟩ := incremental.2 ⟨ramp 5 16, by rw [ramp_length]; decide⟩
      ⟨ramp 7 12, by rw [ramp_length]; decide⟩ ⟨ramp 11 12, by rw [ramp_length]; decide⟩
      ⟨2, 3, 4, 2, 2⟩ (finite 1) shaped roomy
    exact ⟨rows, whole⟩

theorem denseSum_finite (weight input : List (Extended ℝ)) (inFeatures j : Nat) :
    (denseSum realScalars weight input inFeatures j).isFinite = true := by
  have keeps : ∀ (terms : List (Extended ℝ)) (start : Extended ℝ), start.isFinite = true →
      (terms.foldl realScalars.add start).isFinite = true := by
    intro terms
    induction terms with
    | nil => exact fun _ finite_start => finite_start
    | cons term terms ih => exact fun _ _ => ih _ rfl
  exact keeps _ _ rfl

theorem real_finiteLogits (oracle : CpuOracle (Extended ℝ)) : FiniteLogits realScalars oracle := by
  intro tokens known few logits batch logit member
  have nonempty : tokens ≠ [] := by
    rintro rfl
    cases batch
  obtain ⟨n, count⟩ := Nat.exists_eq_succ_of_ne_zero (List.length_pos_of_ne_nil nonempty).ne'
  have whole : tokens.take (n + 1) = tokens := List.take_of_length_le (by omega)
  have pass := forwardOne_eq realScalars oracle known few n (by omega)
  rw [whole, batch, project_eq realScalars oracle _
    (hidden_length realScalars oracle known layerCount n (by omega))] at pass
  have same := Except.ok.inj pass
  rw [same, denseRow] at member
  obtain ⟨j, _, value⟩ := List.mem_map.mp member
  rw [← value]
  exact denseSum_finite _ _ _ _

theorem ramp_run_records :
    ∃ record,
      runGreedy realScalars realMaths (fun _ => "0") rampOracle [3, 1, 4, 1, 5] none = .ok record ∧
        record.generatedTokens.length = 5 ∧
        Decoded realScalars rampOracle record.generatedTokens ∧
        (record.firstDivergence = none ↔ record.generatedTokens = [3, 1, 4, 1, 5]) := by
  obtain ⟨record, run, length, decoded, agrees, _⟩ := greedy_run_records realScalars realMaths
    (fun _ => "0") rampOracle [3, 1, 4, 1, 5] none (real_finiteLogits rampOracle)
    (List.cons_ne_nil _ _)
  exact ⟨record, run, length, decoded, agrees⟩

end FaberRuntime.Oracle
