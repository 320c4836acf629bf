import FaberRuntime.Foundation.Run

namespace FaberRuntime.Frame

/-! The frame statuses of the runtime contract, as far as the runtime relies on them. -/

class FrameStatus (σ : Type) [DecidableEq σ] where
  request : σ
  item : σ
  byte : σ
  done : σ
  error : σ
  cancel : σ
  isTerminal : σ → Bool
  isTerminal_iff : ∀ status, isTerminal status = true ↔
    status = done ∨ status = error ∨ status = cancel
  distinct : [request, item, byte, done, error, cancel].Nodup

open FrameStatus (isTerminal)

section Laws

variable {σ : Type} [DecidableEq σ] [FrameStatus σ]

@[simp] theorem isTerminal_done : isTerminal (FrameStatus.done : σ) = true :=
  (FrameStatus.isTerminal_iff _).mpr (Or.inl rfl)

@[simp] theorem isTerminal_error : isTerminal (FrameStatus.error : σ) = true :=
  (FrameStatus.isTerminal_iff _).mpr (Or.inr (Or.inl rfl))

@[simp] theorem isTerminal_cancel : isTerminal (FrameStatus.cancel : σ) = true :=
  (FrameStatus.isTerminal_iff _).mpr (Or.inr (Or.inr rfl))

end Laws

/-- An enumeration that satisfies the contract. -/
inductive ContractStatus
  | request
  | item
  | byte
  | done
  | error
  | cancel
  deriving DecidableEq, Repr

instance : FrameStatus ContractStatus where
  request := .request
  item := .item
  byte := .byte
  done := .done
  error := .error
  cancel := .cancel
  isTerminal
    | .done | .error | .cancel => true
    | _ => false
  isTerminal_iff status := by cases status <;> decide
  distinct := by decide

structure FrameError where
  issue : String
  message : String
  deriving DecidableEq, Repr

end FaberRuntime.Frame
