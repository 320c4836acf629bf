import FaberRuntime.Host.Array

namespace FaberRuntime.Host

/-! Options of the host: boxes of the context, or pointer bits that are the payload itself, with
null for none. `place` gives the addresses of the boxes. -/

abbrev Places := Arena → Nat → UInt64

def Pointer.bits (place : Places) : Pointer → UInt64
  | .box arena index => place arena index
  | .raw address => address

def rawOptionValue (place : Places) (option : Pointer) (kind : ValueKind) : Option RuntimeValue :=
  let bits := option.bits place
  match kind with
  | .i1 => some (.i1 (bits != 0).toUInt8)
  | .i8 => some (.i8 bits.toUInt8.toInt8)
  | .i16 => some (.i16 bits.toUInt16.toInt16)
  | .i32 => some (.i32 bits.toUInt32.toInt32)
  | .i64 => some (.i64 bits.toInt64)
  | .u8 => some (.u8 bits.toUInt8)
  | .u16 => some (.u16 bits.toUInt16)
  | .u32 => some (.u32 bits.toUInt32)
  | .u64 => some (.u64 bits)
  | .f16 => some (.f16 bits.toUInt16)
  | .f32 => some (.f32 bits.toUInt32)
  | .f64 => some (.f64 bits)
  | .text => some (.ptr option)
  | .ptr => some (.ptr option)
  | _ => none

namespace RuntimeContext

variable (runtime : RuntimeContext) (place : Places)

/-- A pointer that is no box is present unless it is null, whatever the kind of its payload. -/
def optionIsPresent (option : Pointer) (kind : ValueKind) (output : Place) : Answer :=
  match runtime.findOption option with
  | none =>
      if validKind kind = false ∨ output.one = false then .failed
      else .wrote (flag (decide (option ≠ Pointer.null)))
  | some option =>
      if option.kind ≠ kind ∨ output.one = false then .failed
      else .wrote (flag option.value.isSome)

def written (value : RuntimeValue) (output : Place) : Answer :=
  if writeValue value output then .wrote value else .failed

def optionGet (option : Pointer) (kind : ValueKind) (output : Place) : Answer :=
  match runtime.findOption option with
  | none =>
      if option = Pointer.null then .failed
      else
        match rawOptionValue place option kind with
        | none => .failed
        | some value => written value output
  | some option =>
      match option.value with
      | none => .failed
      | some value => if option.kind ≠ kind then .failed else written value output

def optionGetOr (option : Pointer) (kind : ValueKind) (fallback : Cell) (output : Place) :
    Answer :=
  match runtime.findOption option with
  | none =>
      if validKind kind = false then .failed
      else
        let value := if option = Pointer.null then readValue kind fallback
          else rawOptionValue place option kind
        match value with
        | none => .failed
        | some value => written value output
  | some option =>
      if option.kind ≠ kind then .failed
      else
        match option.value.or (readValue kind fallback) with
        | none => .failed
        | some value => written value output

end RuntimeContext

def ArenaOnly (kind : ValueKind) : Prop :=
  kind = .valor ∨ kind = .optionI64 ∨ kind = .instans ∨ kind = .ascii

instance (kind : ValueKind) : Decidable (ArenaOnly kind) := by unfold ArenaOnly; infer_instance

theorem rawOptionValue_of (place : Places) (option : Pointer) (kind : ValueKind)
    (value : RuntimeValue) (decoded : rawOptionValue place option kind = some value) :
    value.Of kind := by
  cases kind <;> cases decoded <;> trivial

theorem rawOptionValue_none (place : Places) (option : Pointer) (kind : ValueKind)
    (admitted : validKind kind = true) :
    rawOptionValue place option kind = none ↔ ArenaOnly kind := by
  cases kind <;> simp_all [rawOptionValue, ArenaOnly, validKind]

/-- An output pointer that can take every value of the kind and what the option holds. -/
def Takes (runtime : RuntimeContext) (handle : Pointer) (kind : ValueKind) (output : Place) :
    Prop :=
  (∀ value : RuntimeValue, value.Of kind → writeValue value output = true) ∧
    ∀ option value, runtime.findOption handle = some option → option.value = some value →
      writeValue value output = true

section Readers

variable (runtime : RuntimeContext) (place : Places) (handle : Pointer) (kind : ValueKind)
  (fallback : Cell) (seen output : Place)

def Undecodable : Prop :=
  runtime.findOption handle = none ∧ handle ≠ Pointer.null ∧ ArenaOnly kind

@[simp] theorem flag_inj (a b : Bool) : flag a = flag b ↔ a = b := by
  cases a <;> cases b <;> decide

/-- How the three readers of one option answer together. -/
structure ReadersAgree : Prop where
  present : runtime.optionIsPresent handle kind seen = .wrote (flag true) ↔
    (∃ value, runtime.optionGet place handle kind output = .wrote value) ∨
      Undecodable runtime handle kind
  same : ∀ value, runtime.optionGet place handle kind output = .wrote value →
    runtime.optionGetOr place handle kind fallback output = .wrote value
  absent : runtime.optionIsPresent handle kind seen = .wrote (flag false) →
    runtime.optionGet place handle kind output = .failed ∧
      runtime.optionGetOr place handle kind fallback output =
        ((readValue kind fallback).elim .failed .wrote : Answer)
  fallen : runtime.optionGet place handle kind output = .failed →
    (∃ value, runtime.optionGetOr place handle kind fallback output = .wrote value) →
    runtime.optionIsPresent handle kind seen = .wrote (flag false)
  undecodable : Undecodable runtime handle kind →
    runtime.optionIsPresent handle kind seen = .wrote (flag true) ∧
      runtime.optionGet place handle kind output = .failed ∧
      runtime.optionGetOr place handle kind fallback output = .failed
  mismatch : ∀ option, runtime.findOption handle = some option → option.kind ≠ kind →
    runtime.optionIsPresent handle kind seen = .failed ∧
      runtime.optionGet place handle kind output = .failed ∧
      runtime.optionGetOr place handle kind fallback output = .failed

variable (admitted : validKind kind = true) (flagged : seen.one = true)
  (takes : Takes runtime handle kind output)

include takes in
theorem written_of (value : RuntimeValue) (of : value.Of kind) :
    RuntimeContext.written value output = .wrote value := by
  unfold RuntimeContext.written
  rw [if_pos (takes.1 value of)]

include admitted flagged takes in
theorem raw_readers_agree (raw : runtime.findOption handle = none) :
    ReadersAgree runtime place handle kind fallback seen output := by
  have seenRaw : runtime.optionIsPresent handle kind seen =
      .wrote (flag (decide (handle ≠ Pointer.null))) := by
    simp [RuntimeContext.optionIsPresent, raw, admitted, flagged]
  have opaque_iff := rawOptionValue_none place handle kind admitted
  by_cases null : handle = Pointer.null
  · have got : runtime.optionGet place handle kind output = .failed := by
      unfold RuntimeContext.optionGet
      simp only [raw, if_pos null]
    have gotOr : runtime.optionGetOr place handle kind fallback output =
        ((readValue kind fallback).elim .failed .wrote : Answer) := by
      unfold RuntimeContext.optionGetOr
      simp only [raw, admitted, if_pos null, Bool.true_eq_false, if_false]
      rcases read : readValue kind fallback with _ | value
      · rfl
      · exact written_of runtime handle kind output takes value
          (readValue_of kind fallback value read)
    have not_flagged : decide (handle ≠ Pointer.null) = false := by simp [null]
    rw [not_flagged] at seenRaw
    constructor
    · rw [seenRaw, got]
      simp [Undecodable, null]
    · simp [got]
    · exact fun _ => ⟨got, gotOr⟩
    · exact fun _ _ => seenRaw
    · exact fun undecodable => absurd null undecodable.2.1
    · intro option found
      rw [raw] at found
      cases found
  · have is_flagged : decide (handle ≠ Pointer.null) = true := by simp [null]
    rw [is_flagged] at seenRaw
    rcases decoded : rawOptionValue place handle kind with _ | value
    · have arenaOnly := opaque_iff.mp decoded
      have got : runtime.optionGet place handle kind output = .failed := by
        unfold RuntimeContext.optionGet
        simp only [raw, if_neg null, decoded]
      have gotOr : runtime.optionGetOr place handle kind fallback output = .failed := by
        unfold RuntimeContext.optionGetOr
        simp only [raw, admitted, if_neg null, decoded, Bool.true_eq_false, if_false]
      have undecodable : Undecodable runtime handle kind := ⟨raw, null, arenaOnly⟩
      constructor
      · exact ⟨fun _ => Or.inr undecodable, fun _ => seenRaw⟩
      · simp [got]
      · simp [seenRaw]
      · simp [gotOr]
      · exact fun _ => ⟨seenRaw, got, gotOr⟩
      · intro option found
        rw [raw] at found
        cases found
    · have writes := written_of runtime handle kind output takes value
        (rawOptionValue_of place handle kind value decoded)
      have got : runtime.optionGet place handle kind output = .wrote value := by
        unfold RuntimeContext.optionGet
        simp only [raw, if_neg null, decoded, writes]
      have gotOr : runtime.optionGetOr place handle kind fallback output = .wrote value := by
        unfold RuntimeContext.optionGetOr
        simp only [raw, admitted, if_neg null, decoded, Bool.true_eq_false, if_false, writes]
      constructor
      · exact ⟨fun _ => Or.inl ⟨value, got⟩, fun _ => seenRaw⟩
      · intro other same
        rw [gotOr, ← same, got]
      · simp [seenRaw]
      · simp [got]
      · intro undecodable
        rw [opaque_iff.mpr undecodable.2.2] at decoded
        cases decoded
      · intro option found
        rw [raw] at found
        cases found

include flagged takes in
theorem boxed_readers_agree (option : RuntimeOption)
    (boxed : runtime.findOption handle = some option) :
    ReadersAgree runtime place handle kind fallback seen output := by
  have decodable : ¬Undecodable runtime handle kind := by
    intro undecodable
    rw [undecodable.1] at boxed
    cases boxed
  by_cases same : option.kind = kind
  · have seenBoxed : runtime.optionIsPresent handle kind seen =
        .wrote (flag option.value.isSome) := by
      simp [RuntimeContext.optionIsPresent, boxed, same, flagged]
    rcases held : option.value with _ | value
    · have got : runtime.optionGet place handle kind output = .failed := by
        unfold RuntimeContext.optionGet
        simp only [boxed, held]
      have gotOr : runtime.optionGetOr place handle kind fallback output =
          ((readValue kind fallback).elim .failed .wrote : Answer) := by
        unfold RuntimeContext.optionGetOr
        simp only [boxed, held, same, ne_eq, not_true_eq_false, if_false, Option.none_or]
        rcases read : readValue kind fallback with _ | value
        · rfl
        · exact written_of runtime handle kind output takes value
            (readValue_of kind fallback value read)
      rw [held] at seenBoxed
      constructor
      · simp [seenBoxed, got, decodable]
      · simp [got]
      · exact fun _ => ⟨got, gotOr⟩
      · exact fun _ _ => seenBoxed
      · exact fun undecodable => absurd undecodable decodable
      · intro other found differs
        rw [boxed] at found
        cases found
        exact absurd same differs
    · have writes : RuntimeContext.written value output = .wrote value := by
        unfold RuntimeContext.written
        rw [if_pos (takes.2 option value boxed held)]
      have got : runtime.optionGet place handle kind output = .wrote value := by
        unfold RuntimeContext.optionGet
        simp only [boxed, held, same, ne_eq, not_true_eq_false, if_false, writes]
      have gotOr : runtime.optionGetOr place handle kind fallback output = .wrote value := by
        unfold RuntimeContext.optionGetOr
        simp only [boxed, held, same, ne_eq, not_true_eq_false, if_false, Option.some_or, writes]
      rw [held] at seenBoxed
      constructor
      · exact ⟨fun _ => Or.inl ⟨value, got⟩, fun _ => seenBoxed⟩
      · intro other equal
        rw [gotOr, ← equal, got]
      · simp [seenBoxed]
      · simp [got]
      · exact fun undecodable => absurd undecodable decodable
      · intro other found differs
        rw [boxed] at found
        cases found
        exact absurd same differs
  · have seenBoxed : runtime.optionIsPresent handle kind seen = .failed := by
      simp [RuntimeContext.optionIsPresent, boxed, same]
    have got : runtime.optionGet place handle kind output = .failed := by
      unfold RuntimeContext.optionGet
      rcases held : option.value with _ | value
      · simp only [boxed, held]
      · simp [boxed, held, same]
    have gotOr : runtime.optionGetOr place handle kind fallback output = .failed := by
      simp [RuntimeContext.optionGetOr, boxed, same]
    constructor
    · simp [seenBoxed, got, decodable]
    · simp [got]
    · simp [seenBoxed]
    · simp [gotOr]
    · exact fun undecodable => absurd undecodable decodable
    · exact fun _ _ _ => ⟨seenBoxed, got, gotOr⟩

include admitted flagged takes in
theorem option_readers_agree : ReadersAgree runtime place handle kind fallback seen output := by
  rcases found : runtime.findOption handle with _ | option
  · exact raw_readers_agree runtime place handle kind fallback seen output admitted flagged takes
      found
  · exact boxed_readers_agree runtime place handle kind fallback seen output flagged takes option
      found

end Readers

/-- An output pointer that is aligned for every width. -/
def aligned : Place := ⟨true, true, true, true, true⟩

theorem aligned_takes (runtime : RuntimeContext) (handle : Pointer) (kind : ValueKind) :
    Takes runtime handle kind aligned := by
  have writes : ∀ value, writeValue value aligned = true := by
    intro value
    cases value <;> rfl
  exact ⟨fun value _ => writes value, fun _ value _ _ => writes value⟩

def unreadable : Cell := ⟨none, none, none, none, none⟩

theorem boxed_readers_agree_example : ReadersAgree
    (RuntimeContext.new.storeOption .i64 (some (.i64 42))).1 (fun _ _ => 8) (.box .options 0)
    .i64 unreadable aligned aligned :=
  option_readers_agree _ _ _ _ _ _ _ rfl rfl (aligned_takes _ _ _)

/-- Raw pointer bits are present as a `valor` option that no reader can open. -/
theorem raw_valor_present_unreadable :
    RuntimeContext.new.optionIsPresent (.raw 16) .valor aligned = .wrote (flag true) ∧
      RuntimeContext.new.optionGet (fun _ _ => 8) (.raw 16) .valor aligned = .failed ∧
      RuntimeContext.new.optionGetOr (fun _ _ => 8) (.raw 16) .valor
        ⟨none, none, none, none, some (.raw 16)⟩ aligned = .failed := by
  decide

end FaberRuntime.Host
