import FaberRuntime.DeviceIdentity

namespace FaberRuntime

open Std Codec

/-! Timestamped discovery facts. A snapshot is a sample of one probe: every entry is recorded
under its ordinal locator, and the canonical bytes cover every fact but the id derived from
them. -/

def hexDigit (digit : Nat) : Char := "0123456789abcdef".toList.getD digit '0'

def hexByte (byte : UInt8) : List Char := [hexDigit (byte.toNat / 16), hexDigit (byte.toNat % 16)]

structure DeviceDiscoverySnapshotId where
  digest : List UInt8
  size : digest.length = 32
  deriving DecidableEq

def DeviceDiscoverySnapshotId.zeros : DeviceDiscoverySnapshotId :=
  ⟨List.replicate 32 0, List.length_replicate⟩

def DeviceDiscoverySnapshotId.asBytes (id : DeviceDiscoverySnapshotId) : List UInt8 := id.digest

def DeviceDiscoverySnapshotId.hex (id : DeviceDiscoverySnapshotId) : String :=
  String.ofList (id.digest.flatMap hexByte)

structure ComputeCapability where
  major : UInt32
  minor : UInt32
  deriving DecidableEq, Repr

structure DtypeSurface where
  f32 : Bool
  f64 : Bool
  f16 : Bool
  bf16 : Bool
  i8 : Bool
  i32 : Bool
  deriving DecidableEq, Repr

def DtypeSurface.empty : DtypeSurface := ⟨false, false, false, false, false, false⟩

structure DeviceCapabilities where
  computeCapability : ComputeCapability
  smCount : UInt32
  dtypeSurface : DtypeSurface
  deriving DecidableEq, Repr

structure DeviceMemory where
  toolReportTotalMib : Option UInt64
  apiTotalBytes : UInt64
  deriving DecidableEq, Repr

inductive DeviceHealth
  | healthy
  | degraded (reason : String)
  deriving DecidableEq, Repr

structure ProbeProvenance where
  probe : String
  toolVersions : String
  deriving DecidableEq, Repr

structure DeviceDiscoveryEntry where
  ordinal : DeviceOrdinal
  identity : PhysicalDeviceId
  deviceModel : Option String
  capabilities : DeviceCapabilities
  memory : DeviceMemory
  health : DeviceHealth
  healthGeneration : DeviceHealthGeneration
  probeProvenance : ProbeProvenance
  deriving DecidableEq, Repr

def DeviceDiscoveryEntry.backend (entry : DeviceDiscoveryEntry) : DeviceBackend :=
  entry.identity.backend

inductive P2pProbeState
  | notAttempted
  | attempted
  deriving DecidableEq, Repr

/-- The constructor asserts that each entry carries the ordinal it is recorded under. -/
structure DeviceDiscoverySnapshot where
  id : DeviceDiscoverySnapshotId
  probeUtcNanos : UInt64
  devices : BTreeMap DeviceOrdinal DeviceDiscoveryEntry
  p2p : P2pProbeState
  ordinals : ∀ row ∈ devices.toList, row.2.ordinal = row.1
  deriving DecidableEq

namespace DeviceDiscoverySnapshot

def entry (snapshot : DeviceDiscoverySnapshot) (ordinal : DeviceOrdinal) :
    Option DeviceDiscoveryEntry := snapshot.devices[ordinal]?

def entries (snapshot : DeviceDiscoverySnapshot) : List DeviceDiscoveryEntry :=
  snapshot.devices.toList.map Prod.snd

def isStale (snapshot : DeviceDiscoverySnapshot) (current : DeviceHealthGeneration) : Bool :=
  snapshot.entries.any (fun entry => current.isStale entry.healthGeneration)

def isCurrentGeneration (snapshot : DeviceDiscoverySnapshot)
    (current : DeviceHealthGeneration) : Bool := !snapshot.isStale current

def pushEntry (out : List UInt8) (row : DeviceOrdinal × DeviceDiscoveryEntry) : List UInt8 :=
  let entry := row.2
  let out := pushU32 out row.1.ordinal
  let out := out ++ entry.identity.canonicalBytes
  let out := pushBool out entry.deviceModel.isSome
  let out := match entry.deviceModel with
    | some model => pushStr out model
    | none => out
  let out := pushU32 out entry.capabilities.computeCapability.major
  let out := pushU32 out entry.capabilities.computeCapability.minor
  let out := pushU32 out entry.capabilities.smCount
  let surface := entry.capabilities.dtypeSurface
  let out := pushBool out surface.f32
  let out := pushBool out surface.f64
  let out := pushBool out surface.f16
  let out := pushBool out surface.bf16
  let out := pushBool out surface.i8
  let out := pushBool out surface.i32
  let out := pushBool out entry.memory.toolReportTotalMib.isSome
  let out := match entry.memory.toolReportTotalMib with
    | some mib => pushU64 out mib
    | none => out
  let out := pushU64 out entry.memory.apiTotalBytes
  let out := match entry.health with
    | .healthy => out ++ [0]
    | .degraded reason => pushStr (out ++ [1]) reason
  let out := pushU64 out entry.healthGeneration.generation
  let out := pushStr out entry.probeProvenance.probe
  pushStr out entry.probeProvenance.toolVersions

def canonicalBytesWithoutId (snapshot : DeviceDiscoverySnapshot) : List UInt8 :=
  let out := pushU64 [] snapshot.probeUtcNanos
  let out := pushLen out snapshot.devices.size
  let out := snapshot.devices.toList.foldl pushEntry out
  match snapshot.p2p with
  | .notAttempted => out ++ [0]
  | .attempted => out ++ [1]

/-- The bytes of every fact of the sample; the id is their digest. -/
def canonicalBytes (snapshot : DeviceDiscoverySnapshot) : List UInt8 :=
  snapshot.canonicalBytesWithoutId

end DeviceDiscoverySnapshot

end FaberRuntime
