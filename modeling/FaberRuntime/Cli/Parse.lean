import FaberRuntime.Cli.Descriptor
import FaberRuntime.Host.Handles

namespace FaberRuntime.Cli

open Host Decimal

/-! The command line read against a descriptor. Help and version texts are not modelled: a run
that prints one stops there, as the process does. `float` is the parser of decimal floats. -/

def tTextus : UInt8 := 0
def tNumerus : UInt8 := 1
def tFractus : UInt8 := 2
def tBivalens : UInt8 := 3
def tOcteti : UInt8 := 4
def tListaTextus : UInt8 := 6
def tListaNumerus : UInt8 := 7

def modeSubcommand : UInt8 := 1

inductive CliPayload
  | handle (pointer : Pointer)
  | integer (value : Int64)
  | float (bits : UInt64)
  | bool (value : Bool)
  deriving DecidableEq

structure CliEntry where
  kind : UInt8
  carrier : Bool
  value : CliPayload
  deriving DecidableEq

structure RuntimeCliTable where
  entries : List CliEntry
  bindingNames : List String
  exit : DescriptorExit
  selectedCommand : Int

/-- Why a parse ends without a table: an error, or a text printed on request. -/
inductive CliStop
  | failed (message : String)
  | help
  | version
  deriving DecidableEq

abbrev CliM := StateT HostContext (Except CliStop)

def textHandle (value : String) : CliM Pointer := fun runtime =>
  let (stored, box) := runtime.storeText value
  .ok (box, stored)

def octetiHandle (bytes : List UInt8) : CliM Pointer := fun runtime =>
  let (stored, box) := runtime.storeOcteti bytes
  .ok (box, stored)

def typedHandle (ty : UInt8) (value : String) : CliM Pointer :=
  if ty = tOcteti then octetiHandle value.toUTF8.toList else textHandle value

def storedBox (call : RuntimeContext → RuntimeContext × Answer) : CliM Pointer := fun runtime =>
  match call runtime.toRuntimeContext with
  | (stored, .made box) => .ok (box, { runtime with toRuntimeContext := stored })
  | _ => .error (.failed "")

def optionValueKind (ty : UInt8) : ValueKind :=
  if ty = tNumerus then .i64
  else if ty = tFractus then .f64
  else if ty = tBivalens then .i1
  else if ty = tOcteti ∨ ty = tListaTextus ∨ ty = tListaNumerus then .ptr
  else .text

def optionNoneCarrier (ty : UInt8) : CliM Pointer :=
  storedBox fun runtime => runtime.storeOption (optionValueKind ty) none

def payloadValue : CliPayload → RuntimeValue
  | .integer value => .i64 value
  | .float bits => .f64 bits
  | .bool value => .i1 value.toUInt8
  | .handle pointer => .ptr pointer

def optionSomeCarrier (ty : UInt8) (payload : CliPayload) : CliM Pointer :=
  storedBox fun runtime => runtime.storeOption (optionValueKind ty) (some (payloadValue payload))

def plainEntry (ty : UInt8) (value : CliPayload) : CliEntry := ⟨ty, false, value⟩

def fillerEntry (ty : UInt8) (default : DescriptorDefault) : CliM CliEntry :=
  if ty = tNumerus then pure (plainEntry ty (.integer 0))
  else if ty = tFractus then pure (plainEntry ty (.float 0))
  else if ty = tBivalens then pure (plainEntry ty (.bool false))
  else if default = .nil then do
    let box ← typedHandle ty ""
    pure (plainEntry ty (.handle box))
  else pure (plainEntry ty (.integer 0))

def defaultValueEntry (ty : UInt8) (default : DescriptorDefault) : CliM CliEntry :=
  match default with
  | .integer value =>
      if ty = tNumerus then pure (plainEntry ty (.integer value)) else fillerEntry ty default
  | .float bits =>
      if ty = tFractus then pure (plainEntry ty (.float bits)) else fillerEntry ty default
  | .bool value =>
      if ty = tBivalens then pure (plainEntry ty (.bool value)) else fillerEntry ty default
  | .text value => do
      let box ← typedHandle ty value
      pure (plainEntry ty (.handle box))
  | .expr value => do
      let box ← textHandle value
      pure (plainEntry ty (.handle box))
  | .nil => fillerEntry ty default

def initialOptionEntry (option : DescriptorOption) : CliM CliEntry :=
  if option.flag then pure (plainEntry option.ty (.bool (option.default = some (.bool true))))
  else
    match option.default with
    | some default => defaultValueEntry option.ty default
    | none => do
        let box ← optionNoneCarrier option.ty
        pure ⟨option.ty, true, .handle box⟩

def fillerPayload (ty : UInt8) : CliM CliPayload :=
  if ty = tNumerus then pure (.integer 0)
  else if ty = tFractus then pure (.float 0)
  else if ty = tBivalens then pure (.bool false)
  else do
    let box ← textHandle ""
    pure (.handle box)

def defaultValuePayload (ty : UInt8) (default : DescriptorDefault) : CliM CliPayload :=
  match default with
  | .integer value => if ty = tNumerus then pure (.integer value) else fillerPayload ty
  | .float bits => if ty = tFractus then pure (.float bits) else fillerPayload ty
  | .bool value => if ty = tBivalens then pure (.bool value) else fillerPayload ty
  | .text value => do
      let box ← typedHandle ty value
      pure (.handle box)
  | _ => fillerPayload ty

section Values

variable (float : String → Option UInt64)

def parseInteger (raw : String) : Option Int64 :=
  (parseSigned (2 ^ 63) raw.toList).map Int64.ofInt

def parseBool (raw : String) : Option Bool :=
  if raw = "true" then some true else if raw = "false" then some false else none

def orFail {α : Type} (message : String) : Option α → CliM α
  | some value => pure value
  | none => throw (.failed message)

def invalidNumeric (raw : String) : String := "invalid numeric value '" ++ raw ++ "'"

def invalidBoolean (raw : String) : String := "invalid boolean value '" ++ raw ++ "'"

def wordPayload (ty : UInt8) (raw : String) : CliM CliPayload :=
  if ty = tNumerus then do
    let value ← orFail (invalidNumeric raw) (parseInteger raw)
    pure (.integer value)
  else if ty = tFractus then do
    let bits ← orFail (invalidNumeric raw) (float raw)
    pure (.float bits)
  else if ty = tBivalens then do
    let value ← orFail (invalidBoolean raw) (parseBool raw)
    pure (.bool value)
  else do
    let box ← typedHandle ty raw
    pure (.handle box)

def parseOptionValue (option : DescriptorOption) (raw : String) : CliM CliEntry := do
  let value ← wordPayload float option.ty raw
  if option.default.isNone then do
    let box ← optionSomeCarrier option.ty value
    pure ⟨option.ty, true, .handle box⟩
  else pure (plainEntry option.ty value)

def parseOperandPayload (operand : DescriptorOperand) (raw : String) : CliM CliPayload :=
  if operand.ty = tListaNumerus then do
    let value ← orFail (invalidNumeric raw) (parseInteger raw)
    pure (.integer value)
  else wordPayload float operand.ty raw

def listElement (numbers : Bool) : CliPayload → RuntimeValue
  | .integer value => if numbers then .i64 value else .ptr Pointer.null
  | .handle pointer => if numbers then .i64 0 else .ptr pointer
  | _ => if numbers then .i64 0 else .ptr Pointer.null

def listValueEntry (ty : UInt8) (values : List CliPayload) : CliM CliEntry := do
  let numbers := decide (ty = tListaNumerus)
  let kind : ValueKind := if numbers then .i64 else .ptr
  let box ← storedBox fun runtime => runtime.storeArray kind (values.map (listElement numbers))
  pure (plainEntry ty (.handle box))

def applyOption (option : DescriptorOption) (optionIndex : Nat) (entries : List CliEntry)
    (label : String) (inlineValue next : Option String) : CliM (List CliEntry × Bool) :=
  if option.flag then pure (entries.set optionIndex (plainEntry option.ty (.bool true)), false)
  else do
    let raw ← orFail ("missing value for " ++ label) (inlineValue.or next)
    let entry ← parseOptionValue float option raw
    pure (entries.set optionIndex entry, inlineValue.isNone)

def findOption (named : DescriptorOption → Bool) (options : List DescriptorOption) :
    Option (DescriptorOption × Nat) :=
  options.zipIdx.find? fun candidate => named candidate.1

def longName (long : String) : String := "--" ++ long

def shortName (short : String) : String := "-" ++ short

/-- The word up to its first `=`, and what follows it. -/
def splitInline (arg : String) : String × Option String :=
  match splitOnce '=' arg.toList with
  | some (name, value) => (String.ofList name, some (String.ofList value))
  | none => (arg, none)

def unknownOption (arg : String) : String := "unknown option '" ++ arg ++ "'"

def parseLongOption (options : List DescriptorOption) (entries : List CliEntry) (arg : String)
    (next : Option String) : CliM (List CliEntry × Bool) :=
  let (name, inlineValue) := splitInline arg
  match findOption (fun option => option.long.map longName = some name) options with
  | some (option, index) => applyOption float option index entries name inlineValue next
  | none => throw (.failed (unknownOption arg))

def parseShortOption (options : List DescriptorOption) (entries : List CliEntry) (arg : String)
    (next : Option String) : CliM (List CliEntry × Bool) :=
  match findOption (fun option => option.short.map shortName = some arg) options with
  | some (option, index) => applyOption float option index entries arg none next
  | none => throw (.failed (unknownOption arg))

def isLong (arg : String) : Bool := ['-', '-'].isPrefixOf arg.toList

def isShort (arg : String) : Bool := ['-'].isPrefixOf arg.toList && decide (1 < arg.utf8ByteSize)

def asksHelp (arg : String) : Bool := arg == "--help" || arg == "-h"

def asksVersion (descriptor : CliDescriptor) (arg : String) : Bool :=
  descriptor.version.isSome && arg == "--version"

/-- The words of an option surface: options set their entries, other words are positional, and
so is everything behind `--`. -/
def scanSurface (descriptor : CliDescriptor) (options : List DescriptorOption) :
    List CliEntry → List String → List String → CliM (List CliEntry × List String)
  | entries, positionals, [] => pure (entries, positionals)
  | entries, positionals, arg :: rest =>
      if arg = "--" then pure (entries, positionals ++ rest)
      else if asksHelp arg then throw .help
      else if asksVersion descriptor arg then throw .version
      else if isLong arg then do
        let (entries, taken) ← parseLongOption float options entries arg rest.head?
        if taken then
          match rest with
          | [] => pure (entries, positionals)
          | _ :: after => scanSurface descriptor options entries positionals after
        else scanSurface descriptor options entries positionals rest
      else if isShort arg then do
        let (entries, taken) ← parseShortOption float options entries arg rest.head?
        if taken then
          match rest with
          | [] => pure (entries, positionals)
          | _ :: after => scanSurface descriptor options entries positionals after
        else scanSurface descriptor options entries positionals rest
      else scanSurface descriptor options entries (positionals ++ [arg]) rest

def operandEntry (operand : DescriptorOperand) : Option String → CliM CliEntry
  | some raw => do
      let value ← parseOperandPayload float operand raw
      pure (plainEntry operand.ty value)
  | none =>
      match operand.default with
      | some default => do
          let value ← defaultValuePayload operand.ty default
          pure (plainEntry operand.ty value)
      | none => throw (.failed ("missing operand '" ++ operand.binding ++ "'"))

def assignEach : List DescriptorOperand → List String → CliM (List CliEntry × List String)
  | [], positionals => pure ([], positionals)
  | operand :: operands, positionals => do
      if operand.rest then do
        let values ← positionals.mapM (parseOperandPayload float operand)
        let entry ← listValueEntry operand.ty values
        let (entries, left) ← assignEach operands []
        pure (entry :: entries, left)
      else do
        let entry ← operandEntry float operand positionals.head?
        let (entries, left) ← assignEach operands positionals.tail
        pure (entry :: entries, left)

def assignOperands (operands : List DescriptorOperand) (positionals : List String) :
    CliM (List CliEntry) := do
  let (entries, left) ← assignEach float operands positionals
  match operands.any (·.rest), left with
  | false, extra :: _ => throw (.failed ("unexpected operand '" ++ extra ++ "'"))
  | _, _ => pure entries

def parseSurfaceWithEntries (descriptor : CliDescriptor) (options : List DescriptorOption)
    (operands : List DescriptorOperand) (arguments : List String) (entries : List CliEntry) :
    CliM (List CliEntry × List String) := do
  let (optionEntries, positionals) ← scanSurface float descriptor options entries [] arguments
  let operandEntries ← assignOperands float operands positionals
  pure (optionEntries.take options.length ++ operandEntries,
    options.map (·.binding) ++ operands.map (·.binding))

def parseSurface (descriptor : CliDescriptor) (options : List DescriptorOption)
    (operands : List DescriptorOperand) (arguments : List String) :
    CliM (List CliEntry × List String) := do
  let entries ← options.mapM initialOptionEntry
  parseSurfaceWithEntries float descriptor options operands arguments entries

end Values

def aliasPath (name : String) : List String :=
  ((name.toList.splitOn '/').map String.ofList).filter (· ≠ "")

def offer (best : Option (Nat × Nat × DescriptorCommand))
    (candidate : Nat × Nat × DescriptorCommand) : Option (Nat × Nat × DescriptorCommand) :=
  match best with
  | none => some candidate
  | some current => if current.2.1 < candidate.2.1 then some candidate else best

def offerName (commandParts : List String) (index : Nat) (command : DescriptorCommand)
    (best : Option (Nat × Nat × DescriptorCommand)) (words : List String) :
    Option (Nat × Nat × DescriptorCommand) :=
  if words.isPrefixOf commandParts then offer best (index, words.length, command) else best

def selectCommand (descriptor : CliDescriptor) (commandParts : List String) :
    Option (Nat × DescriptorCommand) :=
  let best := descriptor.commands.zipIdx.foldl
    (fun best (command, index) =>
      (command.aliases.map aliasPath).foldl (offerName commandParts index command)
        (offerName commandParts index command best command.path))
    none
  best.map fun (index, _, command) => (index, command)

/-- The selected command and the words left for it. -/
def dispatch (descriptor : CliDescriptor) (commandParts : List String) :
    Except CliStop (Nat × DescriptorCommand × List String) :=
  match commandParts with
  | [] => .error (.failed "")
  | first :: _ =>
      match selectCommand descriptor commandParts with
      | none => .error (.failed ("unknown command '" ++ first ++ "'"))
      | some (index, command) =>
          let consumed := min command.path.length commandParts.length
          .ok (index, command, commandParts.drop consumed)

section Tables

variable (float : String → Option UInt64)

/-- The global options in front of the first word that is none, and the words from there on. -/
def scanGlobals (descriptor : CliDescriptor) :
    List CliEntry → List String → CliM (List CliEntry × List String)
  | entries, [] => pure (entries, [])
  | entries, arg :: rest =>
      if asksHelp arg then throw .help
      else if asksVersion descriptor arg then throw .version
      else if isLong arg then do
        let (entries, taken) ←
          parseLongOption float descriptor.globalOptions entries arg rest.head?
        if taken then
          match rest with
          | [] => pure (entries, [])
          | _ :: after => scanGlobals descriptor entries after
        else scanGlobals descriptor entries rest
      else if isShort arg then do
        let (entries, taken) ←
          parseShortOption float descriptor.globalOptions entries arg rest.head?
        if taken then
          match rest with
          | [] => pure (entries, [])
          | _ :: after => scanGlobals descriptor entries after
        else scanGlobals descriptor entries rest
      else pure (entries, arg :: rest)

def parseSubcommand (descriptor : CliDescriptor) (arguments : List String) :
    CliM RuntimeCliTable := do
  let initial ← descriptor.globalOptions.mapM initialOptionEntry
  let (globalEntries, commandParts) ← scanGlobals float descriptor initial arguments
  let (commandIndex, command, commandArguments) ← liftM (dispatch descriptor commandParts)
  let commandEntries ← command.options.mapM initialOptionEntry
  let (entries, bindingNames) ← parseSurfaceWithEntries float descriptor
    (descriptor.globalOptions ++ command.options)
    (descriptor.globalOperands ++ command.operands) commandArguments
    (globalEntries ++ commandEntries)
  pure ⟨entries, bindingNames, descriptor.exit, commandIndex⟩

def parseDescriptor (descriptor : CliDescriptor) (arguments : List String) :
    CliM RuntimeCliTable :=
  if descriptor.mode = modeSubcommand then parseSubcommand float descriptor arguments
  else do
    let (entries, bindingNames) ← parseSurface float descriptor
      (descriptor.globalOptions ++ descriptor.options)
      (descriptor.globalOperands ++ descriptor.operands) arguments
    pure ⟨entries, bindingNames, descriptor.exit, -1⟩

end Tables

end FaberRuntime.Cli
