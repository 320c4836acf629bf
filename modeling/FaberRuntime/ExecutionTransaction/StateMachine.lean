import FaberRuntime.ExecutionTransaction.Mirror

namespace FaberRuntime

/-! The transaction state machine, its identity vocabulary and the typed errors of construction,
prepare, execute, commit and abort. -/

inductive BackendError
  | allocation (partition : LogicalPartitionId) (detail : String)
  | operation (partition : LogicalPartitionId) (detail : String)
  | deviceLoss (partition : LogicalPartitionId) (detail : String)
  | cancelled (partition : LogicalPartitionId) (detail : String)
  | timeout (partition : LogicalPartitionId) (detail : String)
  deriving DecidableEq, Repr

namespace BackendError

def partition : BackendError → LogicalPartitionId
  | .allocation partition _ => partition
  | .operation partition _ => partition
  | .deviceLoss partition _ => partition
  | .cancelled partition _ => partition
  | .timeout partition _ => partition

def detail : BackendError → String
  | .allocation _ detail => detail
  | .operation _ detail => detail
  | .deviceLoss _ detail => detail
  | .cancelled _ detail => detail
  | .timeout _ detail => detail

def variantName : BackendError → String
  | .allocation _ _ => "Allocation"
  | .operation _ _ => "Operation"
  | .deviceLoss _ _ => "DeviceLoss"
  | .cancelled _ _ => "Cancelled"
  | .timeout _ _ => "Timeout"

end BackendError

/-- Quoted text as `Debug` prints it: backslash escapes for quotes, backslashes and the named
control characters, hexadecimal ones for the other control characters. -/
def debugText (text : String) : String :=
  let escape : Char → List Char := fun c =>
    if c = '"' then ['\\', '"']
    else if c = '\\' then ['\\', '\\']
    else if c = '\n' then ['\\', 'n']
    else if c = '\r' then ['\\', 'r']
    else if c = '\t' then ['\\', 't']
    else if c = '\x00' then ['\\', '0']
    else if c.toNat < 0x20 ∨ (0x7f ≤ c.toNat ∧ c.toNat < 0xa0) then
      "\\u\x7b".toList ++ Nat.toDigits 16 c.toNat ++ "\x7d".toList
    else [c]
  String.ofList ('"' :: text.toList.flatMap escape ++ ['"'])

/-- The derived `Debug` text, which a failed publication records. -/
def BackendError.debug (error : BackendError) : String :=
  error.variantName ++ " \x7b partition: LogicalPartitionId(" ++ debugText error.partition.id ++
    "), detail: " ++ debugText error.detail ++ " \x7d"

structure TransactionId where
  id : String
  deriving DecidableEq, Repr

structure PublicationOrdinal where
  ordinal : UInt64
  deriving DecidableEq, Repr

inductive TransactionFailure
  | backend (error : BackendError)
  | publishFailed (detail : String)
  | cancelled (reason : String)
  deriving DecidableEq, Repr

inductive TransactionState
  | new
  | prepared
  | executing
  | committed
  | failed (failure : TransactionFailure)
  | aborted (failure : TransactionFailure)
  deriving DecidableEq, Repr

/-- The admitted ledger class a reservation field is charged against. -/
inductive BudgetClass
  | transferStaging
  | activationScratch
  deriving DecidableEq, Repr

def BudgetClass.ledgerClass : BudgetClass → UInt64
  | .transferStaging => 6
  | .activationScratch => 3

inductive ConstructError
  | degeneratePlan
  | emptySnapshot
  deriving DecidableEq, Repr

inductive PrepareError
  | invalidState (state : TransactionState)
  | unknownPartition (partition : LogicalPartitionId) (operationIndex : Nat)
  | duplicateOperation (operationRef : OperationRef)
  | undeclaredBoundaryBarrier (barrier : BarrierRef)
  | undeclaredBoundaryLaunch (launch : LaunchRef)
  | missingAdmittedBudget (partition : LogicalPartitionId)
  | reservationExceedsBudget (partition : LogicalPartitionId) (budgetClass : BudgetClass)
      (declaredBytes admittedBytes : UInt64)
  | backend (error : BackendError)
  deriving DecidableEq, Repr

inductive ExecuteError
  | invalidState (state : TransactionState)
  | operationOutsideSnapshot (operationRef : OperationRef)
  | backend (error : BackendError)
  deriving DecidableEq, Repr

inductive CommitError
  | invalidState (state : TransactionState)
  | boundaryNotReached (missing : BTreeSet BoundaryRef)
  | publishFailed (error : BackendError)
  deriving DecidableEq

inductive AbortError
  | alreadyCommitted
  deriving DecidableEq, Repr

end FaberRuntime
