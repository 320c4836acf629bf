import FaberRuntime.Foundation.Readers

namespace FaberRuntime.Cli

open Readers Stop

/-! The static command-line descriptor and its decoder. -/

def cliDescriptorMagic : List UInt8 := [70, 67, 76, 73]

def cliDescriptorVersion : UInt8 := 1

def exitNone : UInt8 := 0
def exitFixed : UInt8 := 1
def exitBinding : UInt8 := 2
def exitField : UInt8 := 3
def exitUnsupported : UInt8 := 4

def defText : UInt8 := 0
def defInteger : UInt8 := 1
def defFloat : UInt8 := 2
def defBool : UInt8 := 3
def defNil : UInt8 := 4
def defExpr : UInt8 := 5

inductive DescriptorExit
  | none
  | fixed (code : Int64)
  | binding (name : String)
  | field (field : String)
  | unsupported
  deriving DecidableEq

inductive DescriptorDefault
  | text (value : String)
  | integer (value : Int64)
  | float (bits : UInt64)
  | bool (value : Bool)
  | nil
  | expr (value : String)
  deriving DecidableEq

structure DescriptorOption where
  binding : String
  ty : UInt8
  short : Option String
  long : Option String
  flag : Bool
  default : Option DescriptorDefault
  description : Option String
  deriving DecidableEq

structure DescriptorOperand where
  binding : String
  ty : UInt8
  rest : Bool
  default : Option DescriptorDefault
  description : Option String
  deriving DecidableEq

structure DescriptorCommand where
  path : List String
  aliases : List String
  options : List DescriptorOption
  operands : List DescriptorOperand
  description : Option String
  deriving DecidableEq

structure CliDescriptor where
  name : String
  mode : UInt8
  version : Option String
  description : Option String
  exit : DescriptorExit
  globalOptions : List DescriptorOption
  globalOperands : List DescriptorOperand
  options : List DescriptorOption
  operands : List DescriptorOperand
  commands : List DescriptorCommand
  deriving DecidableEq

abbrev DescrReader := Source

abbrev Decoder := Reading String

namespace DescrReader

def new (bytes : Slice) : Except (Stop String) DescrReader :=
  if bytes.bytes.length < 5 then .error (.rejected "truncated descriptor") else .ok ⟨bytes, 0⟩

/-- `&bytes[start..stop]`, which panics outside the slice. -/
def range (bytes : Slice) (start stop : Nat) : Option (List UInt8) :=
  if start ≤ stop ∧ stop ≤ bytes.bytes.length then
    some ((bytes.bytes.drop start).take (stop - start))
  else none

def take (len : Nat) : Decoder (List UInt8) := fun reader =>
  let stop := reader.offset + len
  if 2 ^ 64 ≤ stop then .error (.rejected "descriptor overflow")
  else if reader.slice.bytes.length < stop then .error (.rejected "truncated descriptor")
  else do
    let slice ← expect (range reader.slice reader.offset stop)
    pure (slice, { reader with offset := stop })

def u8 : Decoder UInt8 := do
  let bytes ← take 1
  unwrap bytes[0]?

def u16 : Decoder UInt16 := do
  let bytes ← take 2
  let low ← unwrap bytes[0]?
  let high ← unwrap bytes[1]?
  pure (UInt16.ofNat (ofLeBytes [low, high]))

/-- Eight bytes, as the array that `try_into` makes of them. -/
def word : Decoder UInt64 := do
  let bytes ← take 8
  let array ← unwrap (if bytes.length = 8 then some bytes else none)
  pure (UInt64.ofNat (ofLeBytes array))

def i64 : Decoder Int64 := do
  let bits ← word
  pure bits.toInt64

def string : Decoder String := do
  let len ← u16
  let bytes ← take len.toNat
  match String.fromUTF8? ⟨bytes.toArray⟩ with
  | some text => pure text
  | none => throw (.rejected "non-UTF-8 descriptor string")

def optString : Decoder (Option String) := do
  let present ← u8
  if present = 0 then pure none
  else do
    let text ← string
    pure (some text)

def default : Decoder DescriptorDefault := do
  let tag ← u8
  if tag = defText then do
    let value ← string
    pure (.text value)
  else if tag = defExpr then do
    let value ← string
    pure (.expr value)
  else if tag = defInteger then do
    let value ← i64
    pure (.integer value)
  else if tag = defFloat then do
    let bits ← word
    pure (.float bits)
  else if tag = defBool then do
    let value ← u8
    pure (.bool (value != 0))
  else if tag = defNil then pure .nil
  else throw (.rejected s!"unknown default tag {tag}")

def optDefault : Decoder (Option DescriptorDefault) := do
  let present ← u8
  if present = 0 then pure none
  else do
    let value ← default
    pure (some value)

end DescrReader

open DescrReader

def decodeExit : Decoder DescriptorExit := do
  let tag ← u8
  if tag = exitNone then pure .none
  else if tag = exitFixed then do
    let code ← i64
    pure (.fixed code)
  else if tag = exitBinding then do
    let name ← string
    pure (.binding name)
  else if tag = exitField then do
    let _object ← string
    let field ← string
    pure (.field field)
  else if tag = exitUnsupported then pure .unsupported
  else throw (.rejected s!"unknown exit tag {tag}")

def decodeOption : Decoder DescriptorOption := do
  let ty ← u8
  let flag ← u8
  let short ← optString
  let long ← optString
  let description ← optString
  let default ← optDefault
  let binding ← string
  pure { binding, ty, short, long, default, description, flag := flag != 0 }

def decodeOptions : Decoder (List DescriptorOption) := do
  let count ← u16
  many decodeOption count.toNat

def decodeOperand : Decoder DescriptorOperand := do
  let ty ← u8
  let rest ← u8
  let description ← optString
  let default ← optDefault
  let binding ← string
  pure { binding, ty, default, description, rest := rest != 0 }

def decodeOperands : Decoder (List DescriptorOperand) := do
  let count ← u16
  many decodeOperand count.toNat

def decodeCommand : Decoder DescriptorCommand := do
  let pathLen ← u8
  let path ← many string pathLen.toNat
  let aliasCount ← u8
  let aliases ← many string aliasCount.toNat
  let description ← optString
  let _function ← string
  let _argsBinding ← optString
  let options ← decodeOptions
  let operands ← decodeOperands
  pure { path, aliases, options, operands, description }

def announced (present : Bool) : Decoder (Option String) :=
  if present then do
    let text ← string
    pure (some text)
  else pure none

def decodeBody : Decoder CliDescriptor := do
  let mode ← u8
  let hasVersion ← u8
  let hasDescription ← u8
  let name ← string
  let version ← announced (hasVersion != 0)
  let description ← announced (hasDescription != 0)
  let exit ← decodeExit
  let globalOptions ← decodeOptions
  let globalOperands ← decodeOperands
  let options ← decodeOptions
  let operands ← decodeOperands
  let commandCount ← u16
  let commands ← many decodeCommand commandCount.toNat
  pure { name, mode, version, description, exit, globalOptions, globalOperands, options, operands
         commands }

def decodeFrom : Decoder CliDescriptor := do
  let magic ← take 4
  if magic ≠ cliDescriptorMagic then throw (.rejected "bad magic")
  else do
    let version ← u8
    if version ≠ cliDescriptorVersion then throw (.rejected s!"unsupported version {version}")
    else decodeBody

/-- The descriptor and the reader behind it. -/
def decodeDescriptor (bytes : Slice) : Except (Stop String) (CliDescriptor × DescrReader) := do
  let reader ← DescrReader.new bytes
  decodeFrom.run reader

end FaberRuntime.Cli
