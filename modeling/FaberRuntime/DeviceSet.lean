import FaberRuntime.Discovery

namespace FaberRuntime

open Std

/-! Device-set membership, selection requests and the directed-link topology gate. -/

def findEntry (discovery : DeviceDiscoverySnapshot) (id : PhysicalDeviceId) :
    Option DeviceDiscoveryEntry := discovery.entries.find? (fun entry => entry.identity == id)

inductive MembershipError
  | unknownDevice (id : PhysicalDeviceId)
  | staleEpoch (id : PhysicalDeviceId) (recorded current : DeviceHealthGeneration)
  deriving DecidableEq, Repr

def validateMember (discovery : DeviceDiscoverySnapshot) (current : DeviceHealthGeneration)
    (id : PhysicalDeviceId) : Except MembershipError Unit :=
  match findEntry discovery id with
  | none => .error (.unknownDevice id)
  | some entry =>
      if current.isStale entry.healthGeneration then
        .error (.staleEpoch id entry.healthGeneration current)
      else .ok ()

/-- Selected membership: a set of identities and nothing else. -/
structure DeviceSet where
  members : BTreeSet PhysicalDeviceId
  deriving DecidableEq

namespace DeviceSet

def fromMembers (ids : List PhysicalDeviceId) : DeviceSet := ⟨ExtTreeSet.ofList ids⟩

def contains (set : DeviceSet) (id : PhysicalDeviceId) : Bool := set.members.contains id

def len (set : DeviceSet) : Nat := set.members.size

def isSingleton (set : DeviceSet) : Bool := set.members.size == 1

/-- Members are checked in identity order; the first failure is the result. -/
def validate (set : DeviceSet) (discovery : DeviceDiscoverySnapshot)
    (current : DeviceHealthGeneration) : Except MembershipError Unit :=
  set.members.toList.forM (validateMember discovery current)

end DeviceSet

structure DeviceSetConstraints where
  backend : Option DeviceBackend
  exclude : BTreeSet PhysicalDeviceId
  minCount : Nat
  maxCount : Option Nat

inductive DeviceSetSelection
  | explicit (ids : BTreeSet PhysicalDeviceId)
  | constraints (constraints : DeviceSetConstraints)

inductive SelectionError
  | membership (error : MembershipError)
  | belowMinimum (min actual : Nat)
  | aboveMaximum (max actual : Nat)
  deriving DecidableEq, Repr

def DeviceSetConstraints.selects (constraints : DeviceSetConstraints)
    (current : DeviceHealthGeneration) (entry : DeviceDiscoveryEntry) : Bool :=
  !current.isStale entry.healthGeneration &&
    (match constraints.backend with
      | some backend => entry.identity.backend == backend
      | none => true) &&
    !constraints.exclude.contains entry.identity

def DeviceSetSelection.resolve (selection : DeviceSetSelection)
    (discovery : DeviceDiscoverySnapshot) (current : DeviceHealthGeneration) :
    Except SelectionError DeviceSet :=
  match selection with
  | .explicit ids =>
      let set := DeviceSet.fromMembers ids.toList
      match set.validate discovery current with
      | .error error => .error (.membership error)
      | .ok () => .ok set
  | .constraints declared =>
      let selected := (discovery.entries.filter (declared.selects current)).map (·.identity)
      let set := DeviceSet.fromMembers selected
      if set.len < declared.minCount then .error (.belowMinimum declared.minCount set.len)
      else
        match declared.maxCount with
        | some max => if set.len > max then .error (.aboveMaximum max set.len) else .ok set
        | none => .ok set

inductive LinkPathClass
  | peer
  | hostStaged
  deriving DecidableEq, Repr

structure LinkFacts where
  bandwidthBytesPerSec : UInt64
  latencyNanos : UInt64
  deriving DecidableEq, Repr

inductive DeviceLinkState
  | admitted (pathClass : LinkPathClass) (facts : LinkFacts)
  | notAttempted
  | rejected (reason : String)
  deriving DecidableEq, Repr

/-- A directed pair of distinct devices; the constructors assert the endpoints differ. -/
structure DeviceLink where
  source : PhysicalDeviceId
  target : PhysicalDeviceId
  state : DeviceLinkState
  directed : source ≠ target
  deriving DecidableEq

structure LinkEnds where
  source : PhysicalDeviceId
  target : PhysicalDeviceId
  deriving DecidableEq, Repr

instance : Ord LinkEnds := ⟨compareLex (compareOn LinkEnds.source) (compareOn LinkEnds.target)⟩
instance : TransOrd LinkEnds := inferInstanceAs (TransCmp (compareLex _ _))
instance : LawfulEqOrd LinkEnds :=
  lawful_eq_compareLex (by
    rintro ⟨a, b⟩ ⟨c, d⟩ sources targets
    have first : a = c := compareOn_eq sources
    have second : b = d := compareOn_eq targets
    rw [first, second])

def DeviceLink.ends (link : DeviceLink) : LinkEnds := ⟨link.source, link.target⟩

/-- The discovery sample with the directed rows probed in it. The constructor asserts that every
endpoint is a device of the sample; a later row of a pair replaces an earlier one. -/
structure DeviceTopologySnapshot where
  discovery : DeviceDiscoverySnapshot
  links : BTreeMap LinkEnds DeviceLink
  recorded : ∀ row ∈ links.toList, row.2.ends = row.1 ∧
    (findEntry discovery row.1.source).isSome ∧ (findEntry discovery row.1.target).isSome

inductive LinkGateError
  | unknownEndpoint (endpoint : PhysicalDeviceId)
  | noLinkRecorded (source target : PhysicalDeviceId)
  | notAttempted (source target : PhysicalDeviceId)
  | rejected (source target : PhysicalDeviceId) (reason : String)
  deriving DecidableEq, Repr

namespace DeviceTopologySnapshot

def link (topology : DeviceTopologySnapshot) (source target : PhysicalDeviceId) :
    Option DeviceLink := topology.links[LinkEnds.mk source target]?

def traversalAllowed (topology : DeviceTopologySnapshot) (source target : PhysicalDeviceId) :
    Except LinkGateError Unit :=
  if source = target then .ok ()
  else if (findEntry topology.discovery source).isNone then .error (.unknownEndpoint source)
  else if (findEntry topology.discovery target).isNone then .error (.unknownEndpoint target)
  else
    match topology.link source target with
    | none => .error (.noLinkRecorded source target)
    | some row =>
        match row.state with
        | .admitted _ _ => .ok ()
        | .notAttempted => .error (.notAttempted source target)
        | .rejected reason => .error (.rejected source target reason)

end DeviceTopologySnapshot

end FaberRuntime
