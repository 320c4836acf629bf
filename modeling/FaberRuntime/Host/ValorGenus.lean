import FaberRuntime.Frame.Materialize
import FaberRuntime.Host.Handles

namespace FaberRuntime.Host

open FaberRuntime.Frame (stringFromValor)

/-! Dynamic values turned into the values of the host ABI. The casts between the float widths and
from integers are parameters. -/

structure FloatCasts where
  widen : UInt32 → UInt64
  narrow : UInt64 → UInt32
  ofInteger : Int64 → UInt64

variable {F : Type}

def boolFromValor : Valor F → Option Bool
  | .bivalens value => some value
  | _ => none

def integerFromValor : Valor F → Option Int64
  | .numerus value => some value
  | _ => none

def floatFromValor (casts : FloatCasts) : Valor UInt64 → Option UInt64
  | .fractus value => some value
  | .numerus value => some (casts.ofInteger value)
  | _ => none

def integerWithin (least greatest : Int) (valor : Valor F) : Option Int64 :=
  (integerFromValor valor).bind fun value =>
    if least ≤ value.toInt ∧ value.toInt ≤ greatest then some value else none

def scalarFromValor (casts : FloatCasts) (valor : Valor UInt64) (kind : ValueKind) :
    Option RuntimeValue :=
  match kind with
  | .i1 => (boolFromValor valor).map fun value => .i1 value.toUInt8
  | .i8 => (integerWithin (-2 ^ 7) (2 ^ 7 - 1) valor).map fun value => .i8 value.toInt8
  | .i16 => (integerWithin (-2 ^ 15) (2 ^ 15 - 1) valor).map fun value => .i16 value.toInt16
  | .i32 => (integerWithin (-2 ^ 31) (2 ^ 31 - 1) valor).map fun value => .i32 value.toInt32
  | .i64 => (integerFromValor valor).map .i64
  | .u8 => (integerWithin 0 (2 ^ 8 - 1) valor).map fun value => .u8 value.toUInt64.toUInt8
  | .u16 => (integerWithin 0 (2 ^ 16 - 1) valor).map fun value => .u16 value.toUInt64.toUInt16
  | .u32 => (integerWithin 0 (2 ^ 32 - 1) valor).map fun value => .u32 value.toUInt64.toUInt32
  | .u64 => (integerWithin 0 (2 ^ 64 - 1) valor).map fun value => .u64 value.toUInt64
  | .f32 => (floatFromValor casts valor).map fun bits => .f32 (casts.narrow bits)
  | .f64 => (floatFromValor casts valor).map .f64
  | _ => none

def valorToRuntimeValue (casts : FloatCasts) (runtime : HostContext) (valor : Valor UInt64)
    (kind : ValueKind) : HostContext × Option RuntimeValue :=
  match kind with
  | .text =>
      match stringFromValor valor with
      | none => (runtime, none)
      | some text =>
          let (stored, box) := runtime.storeText text
          (stored, some (.ptr box))
  | .valor =>
      let (stored, box) := runtime.storeValor valor
      (stored, some (.ptr box))
  | kind => (runtime, scalarFromValor casts valor kind)

open FaberRuntime.Frame (stringFromValor)

inductive Status
  | ok
  | invalidArgument
  | panic
  deriving DecidableEq

def placeOf (address : UInt64) : Place where
  one := address ≠ 0
  two := address ≠ 0 ∧ address.toNat % 2 = 0
  four := address ≠ 0 ∧ address.toNat % 4 = 0
  eight := address ≠ 0 ∧ address.toNat % 8 = 0
  pointer := address ≠ 0 ∧ address.toNat % 8 = 0

structure GenusField where
  name : Pointer
  kind : ValueKind
  defaultable : Bool
  output : UInt64

abbrev Write := UInt64 × RuntimeValue

def genusValorToValue (checks : Bool) (casts : FloatCasts) (runtime : HostContext)
    (valor : Valor UInt64) (kind : ValueKind) : HostContext × Except Status RuntimeValue :=
  match kind with
  | .ascii =>
      match stringFromValor valor with
      | none => (runtime, .error .invalidArgument)
      | some extracted =>
          let bytes := extracted.toUTF8.toList
          if !isAscii bytes || bytes.contains 0 then (runtime, .error .invalidArgument)
          else
            let (stored, box) := runtime.storeAscii bytes
            (stored, .ok (.ptr box))
  | .optionI64 =>
      match valor with
      | .nihil => (runtime, .ok (.ptr Pointer.null))
      | valor =>
          match integerFromValor valor with
          | none => (runtime, .error .invalidArgument)
          | some value =>
              let (stored, box) := runtime.storeNumericBox value
              (stored, .ok (.ptr box))
  | .instans =>
      match Instans.tryFromValor checks valor .secunda with
      | none => (runtime, .error .panic)
      | some none => (runtime, .error .invalidArgument)
      | some (some instant) =>
          let (stored, box) := runtime.storeInstans instant
          (stored, .ok (.ptr box))
  | kind =>
      let (stored, value) := valorToRuntimeValue casts runtime valor kind
      (stored, value.elim (.error .invalidArgument) .ok)

variable (checks : Bool) (casts : FloatCasts) (text : Texts)

def textValue (name : Pointer) : Option String := (text name).bind fromUtf8

def convertField (entries : List (String × Valor UInt64)) (runtime : HostContext)
    (field : GenusField) : HostContext × Except Status (Option Write) :=
  if field.output = 0 then (runtime, .error .invalidArgument)
  else
    match textValue text field.name with
    | none => (runtime, .error .invalidArgument)
    | some name =>
        match entries.lookup name with
        | none => (runtime, if field.defaultable then .ok none else .error .invalidArgument)
        | some valor =>
            let (stored, value) := genusValorToValue checks casts runtime valor field.kind
            (stored, value.map fun value => some (field.output, value))

def convertFields (entries : List (String × Valor UInt64)) :
    HostContext → List GenusField → HostContext × Except Status (List (Option Write))
  | runtime, [] => (runtime, .ok [])
  | runtime, field :: fields =>
      match convertField checks casts text entries runtime field with
      | (stored, .error status) => (stored, .error status)
      | (stored, .ok entry) =>
          let (later, rest) := convertFields entries stored fields
          (later, rest.map (entry :: ·))

def writeEntries : List Write → Status × List Write
  | [] => (.ok, [])
  | (output, value) :: entries =>
      if writeValue value (placeOf output) then
        let (status, written) := writeEntries entries
        (status, (output, value) :: written)
      else (.invalidArgument, [])

/-- What the call leaves behind: the context, its status and the caller's slots it wrote. -/
structure GenusRead where
  runtime : HostContext
  status : Status
  writes : List Write

/-- `fields` is absent when one of the caller's arrays is null. -/
def valorGetGenus (runtime : HostContext) (valor : Pointer) (fields : Option (List GenusField)) :
    GenusRead :=
  match runtime.findValor valor, fields with
  | some (.tabula entries), some fields =>
      match convertFields checks casts text entries runtime fields with
      | (stored, .error status) => ⟨stored, status, []⟩
      | (stored, .ok converted) =>
          let (status, written) := writeEntries (converted.filterMap id)
          ⟨stored, status, written⟩
  | _, _ => ⟨runtime, .invalidArgument, []⟩

end FaberRuntime.Host
