import FaberRuntime.Frame.Sermo

namespace FaberRuntime.Frame

open FrameStatus (isTerminal)

/-! The materializers. Each comes twice in the source, over `sermo_recv` and over its future; here
both are one loop over a receiver. -/

variable {σ : Type} [DecidableEq σ] [FrameStatus σ] {F : Type}

namespace SermoInner

/-- A poll of the receiving future with nobody in between: `none` is pending. -/
def recvAwait (waker : Nat) (inner : SermoInner σ F) :
    Option (Option (Scrinium σ F)) × SermoInner σ F :=
  let taken := inner.sermoRecvReady
  match taken.1 with
  | some frame => (some (some frame), taken.2)
  | none =>
      let locked := taken.2.pollLocked waker
      match locked.1 with
      | .ready => (some none, locked.2)
      | .pending => (none, locked.2)
      | .retry =>
          let again := locked.2.sermoRecvReady
          match again.1 with
          | some frame => (some (some frame), again.2)
          | none => (none, again.2)

omit [DecidableEq σ] [FrameStatus σ] in
theorem ensure_incoming (inner : SermoInner σ F) :
    inner.ensureRuntimeResponseStarted.incoming = inner.incoming := by
  unfold ensureRuntimeResponseStarted
  split <;> rfl

theorem takeFrame_shrinks (inner : SermoInner σ F) (frame : Scrinium σ F)
    (taken : inner.takeFrame.1 = some frame) :
    inner.takeFrame.2.incoming.length < inner.incoming.length := by
  revert taken
  unfold takeFrame
  cases inner.incoming with
  | nil => simp
  | cons first rest =>
      simp only
      split <;> simp [recordIncomingTerminal]

theorem sermoRecv_shrinks (inner : SermoInner σ F) (frame : Scrinium σ F)
    (received : inner.sermoRecv.1 = some (some frame)) :
    inner.sermoRecv.2.incoming.length < inner.incoming.length := by
  revert received
  unfold sermoRecv recvLocked
  split_ifs
  · simp
  · simp
  · intro received
    have shrinks := takeFrame_shrinks inner.ensureRuntimeResponseStarted frame
      (Option.some.inj received)
    rwa [ensure_incoming] at shrinks

theorem sermoRecvReady_shrinks (inner : SermoInner σ F) (frame : Scrinium σ F)
    (received : inner.sermoRecvReady.1 = some frame) :
    inner.sermoRecvReady.2.incoming.length < inner.incoming.length := by
  revert received
  unfold sermoRecvReady
  split_ifs
  · simp
  · intro received
    have shrinks := takeFrame_shrinks inner.ensureRuntimeResponseStarted frame received
    rwa [ensure_incoming] at shrinks
  · exact takeFrame_shrinks inner frame

theorem takeFrame_none_same (inner : SermoInner σ F) (taken : inner.takeFrame.1 = none) :
    inner.takeFrame.2 = inner := by
  revert taken
  unfold takeFrame
  cases inner.incoming with
  | nil => simp
  | cons first rest =>
      simp only
      split <;> simp

theorem sermoRecvReady_none_incoming (inner : SermoInner σ F)
    (received : inner.sermoRecvReady.1 = none) :
    inner.sermoRecvReady.2.incoming = inner.incoming := by
  revert received
  unfold sermoRecvReady
  split_ifs
  · simp
  · intro received
    rw [takeFrame_none_same _ received, ensure_incoming]
  · intro received
    rw [takeFrame_none_same _ received]

omit [DecidableEq σ] [FrameStatus σ] in
theorem pollLocked_incoming (inner : SermoInner σ F) (waker : Nat) :
    (inner.pollLocked waker).2.incoming = inner.incoming := by
  unfold pollLocked
  split_ifs <;> rfl

theorem recvAwait_shrinks (waker : Nat) (inner : SermoInner σ F) (frame : Scrinium σ F)
    (received : (recvAwait waker inner).1 = some (some frame)) :
    (recvAwait waker inner).2.incoming.length < inner.incoming.length := by
  revert received
  unfold recvAwait
  cases first : inner.sermoRecvReady.1 with
  | some taken =>
      simp only [first]
      intro _
      exact sermoRecvReady_shrinks inner taken first
  | none =>
      have same := sermoRecvReady_none_incoming inner first
      have unlocked := pollLocked_incoming inner.sermoRecvReady.2 waker
      simp only [first]
      cases (inner.sermoRecvReady.2.pollLocked waker).1 with
      | ready => simp
      | pending => simp
      | retry =>
          simp only
          cases again : (inner.sermoRecvReady.2.pollLocked waker).2.sermoRecvReady.1 with
          | none => simp
          | some taken =>
              simp only
              intro _
              have shrinks := sermoRecvReady_shrinks _ taken again
              rwa [unlocked, same] at shrinks

end SermoInner

/-- A way to receive: `none` while it waits, else the frame or the end of the stream. -/
structure Receiver (σ : Type) [DecidableEq σ] [FrameStatus σ] (F : Type) where
  receive : SermoInner σ F → Option (Option (Scrinium σ F)) × SermoInner σ F
  shrinks : ∀ inner frame, (receive inner).1 = some (some frame) →
    (receive inner).2.incoming.length < inner.incoming.length

def syncReceiver : Receiver σ F := ⟨SermoInner.sermoRecv, SermoInner.sermoRecv_shrinks⟩

def asyncReceiver (waker : Nat) : Receiver σ F :=
  ⟨SermoInner.recvAwait waker, SermoInner.recvAwait_shrinks waker⟩

inductive Exit (α : Type)
  | left (acc : α)
  | failed (error : FrameError)
  | mismatched (error : FrameError)

/-- `while let Some(frame) = receive`: `none` when it waits for ever. -/
def Receiver.loop {α : Type} (receiver : Receiver σ F) (turn : α → Scrinium σ F → Exit α ⊕ α)
    (acc : α) (inner : SermoInner σ F) : Option (Exit α × SermoInner σ F) :=
  match received : (receiver.receive inner).1 with
  | none => none
  | some none => some (.left acc, (receiver.receive inner).2)
  | some (some frame) =>
      have := receiver.shrinks inner frame received
      match turn acc frame with
      | .inl ending => some (ending, (receiver.receive inner).2)
      | .inr acc => receiver.loop turn acc (receiver.receive inner).2
  termination_by inner.incoming.length

def drainTurn (_ : Unit) (frame : Scrinium σ F) : Exit Unit ⊕ Unit :=
  if isTerminal frame.status then .inl (.left ()) else .inr ()

/-- `drain_incoming_to_terminal`, and the same loop in `drain_remaining_then_err_async`. -/
def Receiver.drain (receiver : Receiver σ F) (inner : SermoInner σ F) :
    Option (SermoInner σ F) :=
  (receiver.loop drainTurn () inner).map (fun drained => drained.2.drainLocked)

/-- `debug` is the `Debug` text of a payload. -/
def terminalError (debug : Valor F → String) (frame : Scrinium σ F) : Option FrameError :=
  if frame.status = FrameStatus.error then
    some ⟨"frame_materialization_terminal_error",
      "sermo materialization terminal error: " ++ debug frame.data⟩
  else if frame.status = FrameStatus.cancel then
    some ⟨"frame_materialization_cancelled", "sermo materialization cancelled"⟩
  else none

/-- What a materializer does with one content payload and after the terminal. An error on a
payload is a mismatch, after which the rest of the stream is drained. -/
structure Materializer (F α ρ : Type) where
  starts : Bool
  initial : α
  content : α → Valor F → Except FrameError α
  finish : α → Except FrameError ρ

namespace Materializer

variable {α ρ : Type}

def turn (debug : Valor F → String) (materializer : Materializer F α ρ) (acc : α)
    (frame : Scrinium σ F) : Exit α ⊕ α :=
  match terminalError debug frame with
  | some error => .inl (.failed error)
  | none =>
      if isTerminal frame.status then .inl (.left acc)
      else
        match materializer.content acc frame.data with
        | .error error => .inl (.mismatched error)
        | .ok acc => .inr acc

/-- `none` when it waits for ever. -/
def run (debug : Valor F → String) (materializer : Materializer F α ρ) (receiver : Receiver σ F)
    (inner : SermoInner σ F) : Option (Except FrameError ρ × SermoInner σ F) :=
  let started := if materializer.starts then inner.ensureRuntimeResponseStarted else inner
  match receiver.loop (materializer.turn debug) materializer.initial started with
  | none => none
  | some (.left acc, inner) => some (materializer.finish acc, inner)
  | some (.failed error, inner) => some (.error error, inner)
  | some (.mismatched error, inner) => (receiver.drain inner).map (fun inner => (.error error, inner))

end Materializer

section Members

def vacuum : Materializer F Unit Unit where
  starts := false
  initial := ()
  content _ _ := .ok ()
  finish _ := .ok ()

def textusPayload : Valor F → Except FrameError String
  | .textus text => .ok text
  | _ => .error ⟨"frame_textus_payload_not_textus",
      "sermo ↦ textus: content frame payload was not textus"⟩

def textus : Materializer F String String where
  starts := true
  initial := ""
  content out data := (textusPayload data).map (fun text => out ++ text)
  finish out := .ok out

def octetiByte : Valor F → Except FrameError UInt8
  | .numerus value =>
      if 0 ≤ value.toInt ∧ value.toInt < 256 then .ok (UInt8.ofNat value.toInt.toNat)
      else .error ⟨"frame_octeti_byte_out_of_range",
        "sermo ↦ octeti: byte payload value was outside 0..255"⟩
  | _ => .error ⟨"frame_octeti_byte_not_numerus",
      "sermo ↦ octeti: byte payload contained a non-numerus value"⟩

def octetiPayload : Valor F → Except FrameError (List UInt8)
  | .octeti bytes => .ok bytes
  | .lista items => items.mapM octetiByte
  | _ => .error ⟨"frame_octeti_payload_not_bytes",
      "sermo ↦ octeti: content frame payload was not octeti or byte lista"⟩

def octeti : Materializer F (List UInt8) (List UInt8) where
  starts := true
  initial := []
  content out data := (octetiPayload data).map (fun bytes => out ++ bytes)
  finish out := .ok out

def valor : Materializer F (Option (Valor F)) (Valor F) where
  starts := false
  initial := none
  content captured data := .ok (captured.orElse (fun _ => some data))
  finish captured := .ok (captured.getD .nihil)

variable {α : Type}

/-- `lista<T>` starts the response itself only when `T` is the type of texts. -/
def listaPayload (fromValor : Valor F → Option α) (data : Valor F) : Except FrameError α :=
  match fromValor data with
  | some value => .ok value
  | none => .error ⟨"frame_lista_payload_element_type_mismatch",
      "sermo ↦ lista<T>: content frame payload did not match element type"⟩

def lista (texts : Bool) (fromValor : Valor F → Option α) : Materializer F (List α) (List α) where
  starts := texts
  initial := []
  content out data := (listaPayload fromValor data).map (fun value => out ++ [value])
  finish out := .ok out

/-- `scalar<T>` and `instans` differ in their texts. -/
structure OnlyTexts where
  noContent : FrameError
  multiple : UInt32 → FrameError
  mismatch : FrameError

structure Extracted (α : Type) where
  extracted : Option α
  contentCount : UInt32

def Extracted.add (convert : Valor F → Option α) (extracted : Extracted α) (data : Valor F) :
    Extracted α :=
  { extracted := extracted.extracted.orElse (fun _ => convert data)
    contentCount := extracted.contentCount + 1 }

def only (texts : OnlyTexts) (convert : Valor F → Option α) : Materializer F (Extracted α) α where
  starts := true
  initial := ⟨none, 0⟩
  content extracted data := .ok (extracted.add convert data)
  finish extracted :=
    if extracted.contentCount = 0 then .error texts.noContent
    else if extracted.contentCount > 1 then .error (texts.multiple extracted.contentCount)
    else
      match extracted.extracted with
      | some value => .ok value
      | none => .error texts.mismatch

def scalarTexts : OnlyTexts where
  noContent := ⟨"frame_scalar_no_content_frame",
    "sermo ↦ T scalar: no content frame before terminal"⟩
  multiple count := ⟨"frame_scalar_multiple_content_frames",
    "sermo ↦ T scalar: more than one content frame (found " ++ toString count ++ ")"⟩
  mismatch := ⟨"frame_scalar_payload_target_type_mismatch",
    "sermo ↦ T scalar: content frame payload did not match target type"⟩

def instansTexts : OnlyTexts where
  noContent := ⟨"frame_instans_no_content_frame",
    "sermo ↦ instans: no content frame before terminal"⟩
  multiple count := ⟨"frame_instans_multiple_content_frames",
    "sermo ↦ instans: more than one content frame (found " ++ toString count ++ ")"⟩
  mismatch := ⟨"frame_instans_payload_target_type_mismatch",
    "sermo ↦ instans: content frame payload did not match target type"⟩

def scalar (fromValor : Valor F → Option α) : Materializer F (Extracted α) α :=
  only scalarTexts fromValor

/-- `tryFromValor` converts to the precision asked for. -/
def instans (tryFromValor : Valor F → Option α) : Materializer F (Extracted α) α :=
  only instansTexts tryFromValor

def stringFromValor : Valor F → Option String
  | .textus text | .instans text => some text
  | _ => none

/-- The types `auto<T>` tells apart. -/
inductive AutoTarget (F : Type) : Type → Type 1
  | lines : AutoTarget F (List String)
  | bytes : AutoTarget F (List UInt8)
  | text : AutoTarget F String
  | other {α : Type} (fromValor : Valor F → Option α) : AutoTarget F α

def auto (debug : Valor F → String) (receiver : Receiver σ F) {α : Type}
    (target : AutoTarget F α) (inner : SermoInner σ F) :
    Option (Except FrameError α × SermoInner σ F) :=
  match target with
  | .lines => (lista true stringFromValor).run debug receiver inner
  | .bytes => octeti.run debug receiver inner
  | .text => textus.run debug receiver inner
  | .other fromValor => (scalar fromValor).run debug receiver inner

end Members

end FaberRuntime.Frame
