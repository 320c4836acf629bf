import FaberRuntime.Foundation.Codec
import FaberRuntime.Foundation.Word

namespace FaberRuntime

open Std Codec

/-! Physical device identity, the health epoch and the canonical byte helpers. -/

inductive DeviceBackend
  | metal
  | cuda
  deriving DecidableEq, Repr

def DeviceBackend.spelling : DeviceBackend → String
  | .metal => "metal"
  | .cuda => "cuda"

structure CudaIdentityFacts where
  pciUuid : String
  driverUuid : Option String
  deriving DecidableEq, Repr

structure MetalIdentityFacts where
  registryId : String
  deriving DecidableEq, Repr

inductive DeviceIdentityFacts
  | cuda (facts : CudaIdentityFacts)
  | metal (facts : MetalIdentityFacts)
  deriving DecidableEq, Repr

/-- Identity is the canonical facts only; the ordinal locator never takes part. -/
structure PhysicalDeviceId where
  facts : DeviceIdentityFacts
  deriving DecidableEq, Repr

namespace PhysicalDeviceId

def variant (device : PhysicalDeviceId) : Nat :=
  match device.facts with
  | .cuda _ => 0
  | .metal _ => 1

def primary (device : PhysicalDeviceId) : String :=
  match device.facts with
  | .cuda facts => facts.pciUuid
  | .metal facts => facts.registryId

def secondary (device : PhysicalDeviceId) : Option String :=
  match device.facts with
  | .cuda facts => facts.driverUuid
  | .metal _ => none

theorem eq_of_keys (a b : PhysicalDeviceId) (variants : a.variant = b.variant)
    (primaries : a.primary = b.primary) (secondaries : a.secondary = b.secondary) : a = b := by
  rcases a with ⟨facts⟩
  rcases b with ⟨others⟩
  cases facts with
  | cuda facts =>
      cases others with
      | cuda others => cases facts; cases others; simp_all [primary, secondary]
      | metal others => simp [variant] at variants
  | metal facts =>
      cases others with
      | cuda others => simp [variant] at variants
      | metal others => cases facts; cases others; simp_all [primary]

instance : Ord PhysicalDeviceId :=
  ⟨compareLex (compareOn variant) (compareLex (compareOn primary) (compareOn secondary))⟩
instance : TransOrd PhysicalDeviceId := inferInstanceAs (TransCmp (compareLex _ (compareLex _ _)))
instance : LawfulEqOrd PhysicalDeviceId :=
  lawful_eq_compareLex (by
    intro a b variants fields
    rw [compareLex_eq_eq] at fields
    exact eq_of_keys a b (compareOn_eq variants) (compareOn_eq fields.1) (compareOn_eq fields.2))

def cuda (pciUuid : String) (driverUuid : Option String) : PhysicalDeviceId :=
  ⟨.cuda ⟨pciUuid, driverUuid⟩⟩

def metal (registryId : String) : PhysicalDeviceId := ⟨.metal ⟨registryId⟩⟩

def backend (device : PhysicalDeviceId) : DeviceBackend :=
  match device.facts with
  | .cuda _ => .cuda
  | .metal _ => .metal

def display (device : PhysicalDeviceId) : String :=
  match device.facts with
  | .cuda facts =>
      match facts.driverUuid with
      | some uuid => "cuda:" ++ facts.pciUuid ++ " (driver " ++ uuid ++ ")"
      | none => "cuda:" ++ facts.pciUuid
  | .metal facts => "metal:" ++ facts.registryId

end PhysicalDeviceId

inductive IdentityChange
  | sameDevice
  | replaced
  deriving DecidableEq, Repr

def PhysicalDeviceId.changeAgainst (device previous : PhysicalDeviceId) : IdentityChange :=
  if device = previous then .sameDevice else .replaced

structure DeviceOrdinal where
  ordinal : UInt32
  deriving DecidableEq, Repr

instance : Ord DeviceOrdinal := ⟨compareOn DeviceOrdinal.ordinal⟩
instance : TransOrd DeviceOrdinal := inferInstanceAs (TransCmp (compareOn DeviceOrdinal.ordinal))
instance : LawfulEqOrd DeviceOrdinal :=
  lawful_eq_compareOn (by rintro ⟨a⟩ ⟨b⟩ same; simpa using same)

structure DeviceHealthGeneration where
  generation : UInt64
  deriving DecidableEq, Repr

namespace DeviceHealthGeneration

def initial : DeviceHealthGeneration := ⟨1⟩

def advance (current : DeviceHealthGeneration) : DeviceHealthGeneration :=
  ⟨saturatingAdd current.generation 1⟩

def isStale (current candidate : DeviceHealthGeneration) : Bool := candidate != current

def isCurrent (current candidate : DeviceHealthGeneration) : Bool := candidate == current

def display (current : DeviceHealthGeneration) : String := toString current.generation

end DeviceHealthGeneration

def pushU64 (out : List UInt8) (value : UInt64) : List UInt8 := out ++ u64Bytes value
def pushU32 (out : List UInt8) (value : UInt32) : List UInt8 := out ++ u32Bytes value
def pushBool (out : List UInt8) (value : Bool) : List UInt8 := out ++ boolByte value

/-- `len() as u64`: a `usize` is at most 64 bits wide, so the cast keeps every length. -/
def pushLen (out : List UInt8) (length : Nat) : List UInt8 := pushU64 out (UInt64.ofNat length)

def pushStr (out : List UInt8) (text : String) : List UInt8 :=
  pushLen out text.utf8ByteSize ++ text.toUTF8.data.toList

@[simp] theorem pushU64_eq (out : List UInt8) (value : UInt64) :
    pushU64 out value = out ++ u64Bytes value := rfl

@[simp] theorem pushU32_eq (out : List UInt8) (value : UInt32) :
    pushU32 out value = out ++ u32Bytes value := rfl

@[simp] theorem pushBool_eq (out : List UInt8) (value : Bool) :
    pushBool out value = out ++ boolByte value := rfl

@[simp] theorem pushLen_eq (out : List UInt8) (length : Nat) :
    pushLen out length = out ++ lengthBytes length := rfl

@[simp] theorem pushStr_eq (out : List UInt8) (text : String) :
    pushStr out text = out ++ strBytes text := by
  simp [pushStr, strBytes]

def PhysicalDeviceId.canonicalBytes (device : PhysicalDeviceId) : List UInt8 :=
  match device.facts with
  | .cuda facts =>
      let out := [(0 : UInt8)]
      let out := pushStr out facts.pciUuid
      let out := pushBool out facts.driverUuid.isSome
      match facts.driverUuid with
      | some uuid => pushStr out uuid
      | none => out
  | .metal facts => pushStr [(1 : UInt8)] facts.registryId

end FaberRuntime
