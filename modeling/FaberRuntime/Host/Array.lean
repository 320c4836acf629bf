import FaberRuntime.Host.CollectionMap

namespace FaberRuntime.Host

/-! Arrays of the host: reads, updates, copies and ranges. -/

/-- An index that an `i64` gives into a vector. -/
def indexOf (index : Int64) : Option Nat := if 0 ≤ index.toInt then some index.toInt.toNat else none

namespace RuntimeContext

variable (runtime : RuntimeContext)

def arrayGet (handle : Pointer) (index : Int64) (kind : ValueKind) (output : Place) :
    RuntimeContext × Answer :=
  match runtime.findArray handle with
  | none => (runtime, .failed)
  | some array =>
      match (indexOf index).bind (array.values[·]?) with
      | none => (runtime, .failed)
      | some value =>
          if array.kind ≠ kind ∨ writeValue value output = false then (runtime, .failed)
          else (runtime, .wrote value)

theorem arrayGet_element (handle : Pointer) (array : RuntimeArray) (index : Int64)
    (value : RuntimeValue) (kind : ValueKind) (output : Place)
    (found : runtime.findArray handle = some array)
    (element : (indexOf index).bind (array.values[·]?) = some value) :
    (runtime.arrayGet handle index kind output).2 =
      if array.kind = kind ∧ writeValue value output = true then .wrote value else .failed := by
  unfold arrayGet
  simp only [found, element]
  by_cases same : array.kind = kind
  · by_cases written : writeValue value output = true
    · simp [same, written]
    · simp [same, written]
  · simp [same]

end RuntimeContext

end FaberRuntime.Host
