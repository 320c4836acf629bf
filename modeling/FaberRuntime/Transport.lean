import FaberRuntime.ExecutionTransaction.Mirror

namespace FaberRuntime

open Std

/-! The host-staged transport adapter: validation before copy, the measured-rate budget, the
staging pool and the selected-transfer records. -/

def t1SmallCopyBytes : UInt64 := 16 * 1024
def t1SmallCopyLatencyNanos : UInt64 := 1300
def t1LargeCopyLatencyNanos : UInt64 := 5000
def t1H2dBytesPerSec : UInt64 := 9800000000
def t1D2hBytesPerSec : UInt64 := 11000000000
def t1BidiBytesPerSec : UInt64 := 12100000000

structure MeasuredRates where
  h2dBytesPerSec : UInt64
  d2hBytesPerSec : UInt64
  bidiBytesPerSec : UInt64
  deriving DecidableEq, Repr

namespace MeasuredRates

def t1 : MeasuredRates := ⟨t1H2dBytesPerSec, t1D2hBytesPerSec, t1BidiBytesPerSec⟩

def rateFor (rates : MeasuredRates) : TransferDirectionMirror → UInt64
  | .h2d => rates.h2dBytesPerSec
  | .d2h => rates.d2hBytesPerSec
  | .bidi => rates.bidiBytesPerSec

def withRate (rates : MeasuredRates) (direction : TransferDirectionMirror) (rate : UInt64) :
    MeasuredRates :=
  match direction with
  | .h2d => { rates with h2dBytesPerSec := rate }
  | .d2h => { rates with d2hBytesPerSec := rate }
  | .bidi => { rates with bidiBytesPerSec := rate }

end MeasuredRates

/-- A fixed latency and the transfer time at the measured rate; a zero rate costs no time. -/
def expectedCopyTimeNanos (bytes : UInt64) (direction : TransferDirectionMirror)
    (rates : MeasuredRates) : UInt64 :=
  let fixed := if bytes ≤ t1SmallCopyBytes then t1SmallCopyLatencyNanos else t1LargeCopyLatencyNanos
  let transfer := divOrZero (saturatingMul bytes 1000000000) (rates.rateFor direction)
  saturatingAdd fixed transfer

structure ByteRange where
  offset : UInt64
  length : UInt64
  deriving DecidableEq, Repr

/-- Plain addition, which wraps. -/
def ByteRange.stop (range : ByteRange) : UInt64 := range.offset + range.length

structure Duration where
  nanos : Nat
  deriving DecidableEq, Repr

def Duration.asNanos (duration : Duration) : UInt64 := UInt64.ofNat duration.nanos

structure TransferSpec where
  transferRef : TransferRef
  sourceOwner : LogicalPartitionId
  destination : LogicalPartitionId
  range : ByteRange
  direction : TransferDirectionMirror
  dtype : MirroredDtype
  layout : MirroredStorageLayout
  generation : UInt64
  pathLabel : TransportPathMirror
  timeout : Duration
  deriving DecidableEq, Repr

/-- The range is the full byte contract of the mirror and the generation its producer's. -/
def TransferSpec.fromMirror (mirror : TransferOperationMirror) (timeout : Duration) :
    TransferSpec :=
  { transferRef := mirror.id
    sourceOwner := mirror.source
    destination := mirror.destination
    range := ⟨0, mirror.byteCount⟩
    direction := mirror.direction
    dtype := mirror.elementDtype
    layout := mirror.layout
    generation := mirror.producerGeneration
    pathLabel := mirror.pathLabel
    timeout }

structure SourceValue where
  owner : LogicalPartitionId
  dtype : MirroredDtype
  layout : MirroredStorageLayout
  generation : UInt64
  bytes : List UInt8
  deriving DecidableEq, Repr

namespace SourceValue

def totalBytes (source : SourceValue) : UInt64 := UInt64.ofNat source.bytes.length

/-- Indexing by a range; `none` is the panic of a range that is reversed or out of bounds. -/
def slice (source : SourceValue) (range : ByteRange) : Option (List UInt8) :=
  if range.offset ≤ range.stop ∧ range.stop.toNat ≤ source.bytes.length then
    some ((source.bytes.drop range.offset.toNat).take (range.stop.toNat - range.offset.toNat))
  else none

end SourceValue

inductive TransferRejection
  | dtypeMismatch (transfer : TransferRef) (declared actual : MirroredDtype)
  | layoutMismatch (transfer : TransferRef) (declared actual : MirroredStorageLayout)
  | rangeOutOfBounds (transfer : TransferRef) (range : ByteRange) (sourceBytes : UInt64)
  | generationMismatch (transfer : TransferRef) (declared actual : UInt64)
  | ownerMismatch (transfer : TransferRef) (declared actual : LogicalPartitionId)
  | destinationMismatch (transfer : TransferRef) (declared actual : LogicalPartitionId)
  deriving DecidableEq, Repr

def validateBeforeCopy (spec : TransferSpec) (source : SourceValue)
    (destination : LogicalPartitionId) : Except TransferRejection Unit :=
  if spec.dtype ≠ source.dtype then
    .error (.dtypeMismatch spec.transferRef spec.dtype source.dtype)
  else if spec.layout ≠ source.layout then
    .error (.layoutMismatch spec.transferRef spec.layout source.layout)
  else if spec.range.stop > source.totalBytes then
    .error (.rangeOutOfBounds spec.transferRef spec.range source.totalBytes)
  else if spec.generation ≠ source.generation then
    .error (.generationMismatch spec.transferRef spec.generation source.generation)
  else if spec.sourceOwner ≠ source.owner then
    .error (.ownerMismatch spec.transferRef spec.sourceOwner source.owner)
  else if spec.destination ≠ destination then
    .error (.destinationMismatch spec.transferRef spec.destination destination)
  else .ok ()

inductive TransferError
  | rejected (rejection : TransferRejection)
  | timeout (transfer : TransferRef) (declaredTimeout : Duration) (elapsedNanos : UInt64)
  | failed (transfer : TransferRef) (detail : String)
  | budgetExceeded (transfer : TransferRef) (budgetBytes usedBytes neededBytes : UInt64)
  deriving DecidableEq, Repr

inductive CopyPath
  | hostStaged
  | peer
  deriving DecidableEq, Repr

structure StagingBufferId where
  id : UInt64
  deriving DecidableEq, Repr

instance : Ord StagingBufferId := ⟨compareOn StagingBufferId.id⟩
instance : TransOrd StagingBufferId := inferInstanceAs (TransCmp (compareOn StagingBufferId.id))
instance : LawfulEqOrd StagingBufferId :=
  lawful_eq_compareOn (by rintro ⟨a⟩ ⟨b⟩ same; simpa using same)

structure StagingBufferRecord where
  id : StagingBufferId
  capacityBytes : UInt64
  pinned : Bool
  deriving DecidableEq, Repr

structure StagingPool where
  nextId : UInt64
  allocations : UInt64
  active : BTreeMap StagingBufferId StagingBufferRecord

namespace StagingPool

def new : StagingPool := ⟨0, 0, ∅⟩

def allocate (pool : StagingPool) (bytes : UInt64) : StagingBufferRecord × StagingPool :=
  let record : StagingBufferRecord := ⟨⟨pool.nextId + 1⟩, bytes, true⟩
  (record, ⟨pool.nextId + 1, pool.allocations + 1, pool.active.insert record.id record⟩)

def release (pool : StagingPool) (id : StagingBufferId) : StagingPool :=
  { pool with active := pool.active.erase id }

end StagingPool

structure EngineId where
  id : UInt64
  deriving DecidableEq, Repr

structure EventId where
  id : UInt64
  deriving DecidableEq, Repr

structure SelectedTransferRecord where
  transferRef : TransferRef
  copyPath : CopyPath
  staging : StagingBufferRecord
  engine : EngineId
  event : EventId
  timeout : Duration
  bytes : UInt64
  elapsedNanos : UInt64
  expectedNanos : UInt64
  direction : TransferDirectionMirror
  destination : LogicalPartitionId
  deriving DecidableEq, Repr

structure TransferOutcome where
  record : SelectedTransferRecord
  destinationBytes : List UInt8
  deriving DecidableEq, Repr

structure TransferBudget where
  bytes : UInt64
  timeNanos : UInt64
  deriving DecidableEq, Repr

structure RateObservation where
  direction : TransferDirectionMirror
  bytes : UInt64
  elapsedNanos : UInt64
  measuredBytesPerSec : UInt64
  deriving DecidableEq, Repr

structure TransportReceipt where
  records : List SelectedTransferRecord
  budgetBytes : UInt64
  budgetTimeNanos : UInt64
  usedBytes : UInt64
  usedTimeNanos : UInt64
  rates : MeasuredRates
  rateObservations : List RateObservation
  deriving DecidableEq, Repr

structure HostStagedAdapter where
  declaredBudget : TransferBudget
  usedBytes : UInt64
  usedTimeNanos : UInt64
  stagingPool : StagingPool
  rates : MeasuredRates
  nextEngine : UInt64
  nextEvent : UInt64
  records : List SelectedTransferRecord
  rateObservations : List RateObservation
  simulatedFailure : Option String

inductive Outcome (α : Type)
  | returned (value : α)
  | panicked
  deriving DecidableEq, Repr

namespace HostStagedAdapter

def new (declaredBudget : TransferBudget) : HostStagedAdapter :=
  { declaredBudget
    usedBytes := 0
    usedTimeNanos := 0
    stagingPool := .new
    rates := .t1
    nextEngine := 0
    nextEvent := 0
    records := []
    rateObservations := []
    simulatedFailure := none }

def setSimulatedFailure (adapter : HostStagedAdapter) (detail : Option String) :
    HostStagedAdapter := { adapter with simulatedFailure := detail }

def recordFixtureMeasurement (adapter : HostStagedAdapter) (direction : TransferDirectionMirror)
    (bytes elapsedNanos : UInt64) : HostStagedAdapter :=
  if elapsedNanos = 0 then adapter
  else
    let measured := saturatingMul bytes 1000000000 / elapsedNanos
    { adapter with
      rateObservations := adapter.rateObservations ++ [⟨direction, bytes, elapsedNanos, measured⟩]
      rates := adapter.rates.withRate direction measured }

def transportReceipt (adapter : HostStagedAdapter) : TransportReceipt :=
  { records := adapter.records
    budgetBytes := adapter.declaredBudget.bytes
    budgetTimeNanos := adapter.declaredBudget.timeNanos
    usedBytes := adapter.usedBytes
    usedTimeNanos := adapter.usedTimeNanos
    rates := adapter.rates
    rateObservations := adapter.rateObservations }

/-- The staged move of a validated range. `elapsed` is the wall time the copy measures; a panic
in the slice leaves the buffer allocated. -/
def runStagedCopy (adapter : HostStagedAdapter) (spec : TransferSpec) (source : SourceValue)
    (bytes : UInt64) (elapsed : Duration) :
    Outcome (Except TransferError (StagingBufferRecord × List UInt8)) × HostStagedAdapter :=
  let (staging, held) := adapter.stagingPool.allocate bytes
  let released := { adapter with stagingPool := held.release staging.id }
  match adapter.simulatedFailure with
  | some detail => (.returned (.error (.failed spec.transferRef detail)), released)
  | none =>
      match source.slice spec.range with
      | none => (.panicked, { adapter with stagingPool := held })
      | some destinationBytes =>
          if elapsed.nanos > spec.timeout.nanos then
            (.returned (.error (.timeout spec.transferRef spec.timeout elapsed.asNanos)), released)
          else (.returned (.ok (staging, destinationBytes)), released)

def copy (adapter : HostStagedAdapter) (spec : TransferSpec) (source : SourceValue)
    (destination : LogicalPartitionId) (elapsed : Duration) :
    Outcome (Except TransferError TransferOutcome) × HostStagedAdapter :=
  match validateBeforeCopy spec source destination with
  | .error rejection => (.returned (.error (.rejected rejection)), adapter)
  | .ok () =>
      let bytes := spec.range.length
      let direction := spec.direction
      let expected := expectedCopyTimeNanos bytes direction adapter.rates
      if saturatingAdd adapter.usedBytes bytes > adapter.declaredBudget.bytes ∨
          saturatingAdd adapter.usedTimeNanos expected > adapter.declaredBudget.timeNanos then
        (.returned (.error (.budgetExceeded spec.transferRef adapter.declaredBudget.bytes
          adapter.usedBytes bytes)), adapter)
      else
        match adapter.runStagedCopy spec source bytes elapsed with
        | (.panicked, adapter) => (.panicked, adapter)
        | (.returned (.error error), adapter) => (.returned (.error error), adapter)
        | (.returned (.ok (staging, destinationBytes)), adapter) =>
            let record : SelectedTransferRecord :=
              { transferRef := spec.transferRef
                copyPath := .hostStaged
                staging
                engine := ⟨adapter.nextEngine + 1⟩
                event := ⟨adapter.nextEvent + 1⟩
                timeout := spec.timeout
                bytes
                elapsedNanos := elapsed.asNanos
                expectedNanos := expected
                direction
                destination }
            (.returned (.ok ⟨record, destinationBytes⟩), { adapter with
              usedBytes := saturatingAdd adapter.usedBytes bytes
              usedTimeNanos := saturatingAdd adapter.usedTimeNanos expected
              nextEngine := adapter.nextEngine + 1
              nextEvent := adapter.nextEvent + 1
              records := adapter.records ++ [record] })

end HostStagedAdapter

end FaberRuntime
