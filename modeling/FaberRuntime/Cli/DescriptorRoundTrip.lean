import FaberRuntime.Cli.Descriptor

namespace FaberRuntime.Cli

open Codec Readers

/-! The layout the decoder reads, as an encoder, and the values that fit it. -/

def encodeString (text : String) : List UInt8 :=
  leBytes 2 text.utf8ByteSize ++ text.toUTF8.data.toList

def encodeOptString : Option String → List UInt8
  | none => [0]
  | some text => [1] ++ encodeString text

def encodeDefault : DescriptorDefault → List UInt8
  | .text value => [defText] ++ encodeString value
  | .integer value => [defInteger] ++ u64Bytes value.toUInt64
  | .float bits => [defFloat] ++ u64Bytes bits
  | .bool value => [defBool] ++ boolByte value
  | .nil => [defNil]
  | .expr value => [defExpr] ++ encodeString value

def encodeOptDefault : Option DescriptorDefault → List UInt8
  | none => [0]
  | some value => [1] ++ encodeDefault value

/-- The exit policy; the object in front of a field is not part of the value read back. -/
def encodeExit (object : String) : DescriptorExit → List UInt8
  | .none => [exitNone]
  | .fixed code => [exitFixed] ++ u64Bytes code.toUInt64
  | .binding name => [exitBinding] ++ encodeString name
  | .field field => [exitField] ++ (encodeString object ++ encodeString field)
  | .unsupported => [exitUnsupported]

def encodeOption (option : DescriptorOption) : List UInt8 :=
  [option.ty] ++ (boolByte option.flag ++ (encodeOptString option.short ++
    (encodeOptString option.long ++ (encodeOptString option.description ++
      (encodeOptDefault option.default ++ encodeString option.binding)))))

def encodeOperand (operand : DescriptorOperand) : List UInt8 :=
  [operand.ty] ++ (boolByte operand.rest ++ (encodeOptString operand.description ++
    (encodeOptDefault operand.default ++ encodeString operand.binding)))

def encodeRecords {α : Type} (encode : α → List UInt8) (records : List α) : List UInt8 :=
  leBytes 2 records.length ++ records.flatMap encode

def encodeTexts (texts : List String) : List UInt8 :=
  [UInt8.ofNat texts.length] ++ texts.flatMap encodeString

/-- A command with the function it calls and the binding of its arguments, which the decoder
drops. -/
structure WireCommand where
  command : DescriptorCommand
  function : String
  argsBinding : Option String

def encodeCommand (wire : WireCommand) : List UInt8 :=
  encodeTexts wire.command.path ++ (encodeTexts wire.command.aliases ++
    (encodeOptString wire.command.description ++ (encodeString wire.function ++
      (encodeOptString wire.argsBinding ++
        (encodeRecords encodeOption wire.command.options ++
          encodeRecords encodeOperand wire.command.operands)))))

def encodeAnnounced : Option String → List UInt8
  | none => []
  | some text => encodeString text

/-- A descriptor with what is written next to it: the object of its exit policy, and the function
and argument binding of each command. -/
structure WireDescriptor where
  descriptor : CliDescriptor
  object : String
  callees : List (String × Option String)
  callees_length : callees.length = descriptor.commands.length

def WireDescriptor.commands (wire : WireDescriptor) : List WireCommand :=
  List.zipWith (fun command callee => ⟨command, callee.1, callee.2⟩) wire.descriptor.commands
    wire.callees

def encodeBody (wire : WireDescriptor) : List UInt8 :=
  let descriptor := wire.descriptor
  [descriptor.mode] ++ (boolByte descriptor.version.isSome ++
    (boolByte descriptor.description.isSome ++ (encodeString descriptor.name ++
      (encodeAnnounced descriptor.version ++ (encodeAnnounced descriptor.description ++
        (encodeExit wire.object descriptor.exit ++
          (encodeRecords encodeOption descriptor.globalOptions ++
            (encodeRecords encodeOperand descriptor.globalOperands ++
              (encodeRecords encodeOption descriptor.options ++
                (encodeRecords encodeOperand descriptor.operands ++
                  encodeRecords encodeCommand wire.commands))))))))))

def encodeDescriptor (wire : WireDescriptor) : List UInt8 :=
  cliDescriptorMagic ++ ([cliDescriptorVersion] ++ encodeBody wire)

/-- A program `smoke` with one numeric operand `exitum`, which also names its exit code. -/
def smokeWire : WireDescriptor :=
  { descriptor :=
      { name := "smoke", mode := 0, version := none, description := none
        exit := .binding "exitum"
        globalOptions := [], globalOperands := [], options := []
        operands := [{ binding := "exitum", ty := 1, rest := false, default := none
                       description := none }]
        commands := [] }
    object := ""
    callees := []
    callees_length := rfl }

example : encodeDescriptor smokeWire =
    [70, 67, 76, 73, 1, 0, 0, 0, 5, 0, 115, 109, 111, 107, 101, 2, 6, 0, 101, 120, 105, 116, 117,
      109, 0, 0, 0, 0, 0, 0, 1, 0, 1, 0, 0, 0, 6, 0, 101, 120, 105, 116, 117, 109, 0, 0] := by
  decide +kernel

def Short (text : String) : Prop := text.utf8ByteSize < 2 ^ 16

def ShortOption (text : Option String) : Prop := ∀ value ∈ text, Short value

def DescriptorDefault.Fits : DescriptorDefault → Prop
  | .text value => Short value
  | .expr value => Short value
  | .integer _ => True
  | .float _ => True
  | .bool _ => True
  | .nil => True

def DescriptorExit.Fits : DescriptorExit → Prop
  | .binding name => Short name
  | .field name => Short name
  | .none => True
  | .fixed _ => True
  | .unsupported => True

structure DescriptorOption.Fits (option : DescriptorOption) : Prop where
  short : ShortOption option.short
  long : ShortOption option.long
  description : ShortOption option.description
  default : ∀ value ∈ option.default, value.Fits
  binding : Short option.binding

structure DescriptorOperand.Fits (operand : DescriptorOperand) : Prop where
  description : ShortOption operand.description
  default : ∀ value ∈ operand.default, value.Fits
  binding : Short operand.binding

structure Records {α : Type} (Fits : α → Prop) (limit : Nat) (records : List α) : Prop where
  count : records.length < limit
  each : ∀ record ∈ records, Fits record

structure WireCommand.Fits (wire : WireCommand) : Prop where
  path : Records Short (2 ^ 8) wire.command.path
  aliases : Records Short (2 ^ 8) wire.command.aliases
  description : ShortOption wire.command.description
  function : Short wire.function
  argsBinding : ShortOption wire.argsBinding
  options : Records DescriptorOption.Fits (2 ^ 16) wire.command.options
  operands : Records DescriptorOperand.Fits (2 ^ 16) wire.command.operands

structure WireDescriptor.Fits (wire : WireDescriptor) : Prop where
  name : Short wire.descriptor.name
  version : ShortOption wire.descriptor.version
  description : ShortOption wire.descriptor.description
  exit : wire.descriptor.exit.Fits
  object : Short wire.object
  globalOptions : Records DescriptorOption.Fits (2 ^ 16) wire.descriptor.globalOptions
  globalOperands : Records DescriptorOperand.Fits (2 ^ 16) wire.descriptor.globalOperands
  options : Records DescriptorOption.Fits (2 ^ 16) wire.descriptor.options
  operands : Records DescriptorOperand.Fits (2 ^ 16) wire.descriptor.operands
  commands : Records WireCommand.Fits (2 ^ 16) wire.commands

open Codec Readers Stop DescrReader Checks

namespace DescrReader

theorem take_run (len : Nat) (reader : DescrReader) (found : List UInt8) (next : DescrReader)
    (run : (take len).run reader = .ok (found, next)) :
    reader.offset + len ≤ reader.slice.bytes.length ∧
      found = (reader.slice.bytes.drop reader.offset).take len ∧
      next = { reader with offset := reader.offset + len } := by
  simp only [StateT.run, take] at run
  split_ifs at run with huge short
  rcases (bind_ok_iff _ _ _).mp run with ⟨slice, cut, rest⟩
  rw [expect_ok_iff, range] at cut
  split_ifs at cut with inside
  cases cut
  cases rest
  rw [Nat.add_sub_cancel_left]
  exact ⟨inside.2, rfl, rfl⟩

theorem take_within (len : Nat) (reader : DescrReader)
    (inside : reader.offset + len ≤ reader.slice.bytes.length) :
    (take len).run reader = .ok ((reader.slice.bytes.drop reader.offset).take len,
      { reader with offset := reader.offset + len }) := by
  have addressable := reader.slice.addressable
  simp only [StateT.run, take, range]
  rw [if_neg (by omega), if_neg (by omega), if_pos ⟨Nat.le_add_right _ _, inside⟩,
    Nat.add_sub_cancel_left]
  rfl

theorem take_length (len : Nat) (reader : DescrReader) (found : List UInt8) (next : DescrReader)
    (run : (take len).run reader = .ok (found, next)) : found.length = len := by
  rcases take_run len reader found next run with ⟨inside, rfl, _⟩
  rw [List.length_take, List.length_drop]
  omega

theorem parses_take (bytes : List UInt8) (len : Nat) (length : bytes.length = len) :
    Parses (take len) bytes bytes := by
  intro slice before rest written
  have inside : before.length + len ≤ slice.bytes.length := by
    rw [written, List.length_append, List.length_append, length]
    omega
  rw [take_within len ⟨slice, before.length⟩ inside, length]
  simp only
  rw [written, List.append_assoc, List.drop_left, ← length, List.take_left]

theorem bounded_take (len : Nat) : Bounded (take len) where
  safe reader _ := by
    by_cases inside : reader.offset + len ≤ reader.slice.bytes.length
    · rw [take_within len reader inside]
      exact safe_ok _
    · simp only [StateT.run, take]
      rw [if_pos (by omega : reader.slice.bytes.length < reader.offset + len)]
      split
      · exact safe_rejected _
      · exact safe_rejected _
  advance reader found next _ run := by
    rcases take_run len reader found next run with ⟨inside, _, rfl⟩
    exact ⟨rfl, Nat.le_add_right _ _, inside⟩
  extend reader found next longer more _ run bytes := by
    rcases take_run len reader found next run with ⟨inside, rfl, rfl⟩
    have room : reader.offset + len ≤ longer.bytes.length := by
      rw [bytes, List.length_append]
      omega
    rw [take_within len ⟨longer, reader.offset⟩ room]
    simp only
    rw [bytes, List.drop_append_of_le_length (by omega),
      List.take_append_of_le_length (by rw [List.length_drop]; omega)]

theorem parses_u8 (byte : UInt8) : Parses u8 [byte] byte := by
  have both := parses_bind (take 1) (fun bytes => unwrap bytes[0]?) [byte] [] [byte] byte
    (parses_take [byte] 1 rfl) (parses_unwrap _ _ rfl)
  exact both

theorem bounded_u8 : Bounded u8 := by
  apply bounded_bind_of _ _ (fun bytes => bytes.length = 1) (bounded_take 1) (take_length 1)
  intro bytes length
  apply bounded_unwrap
  rw [List.getElem?_eq_getElem (by omega)]
  rfl

theorem parses_u16 (n : Nat) (fits : n < 2 ^ 16) :
    Parses u16 (leBytes 2 n) (UInt16.ofNat n) := by
  have value : ofLeBytes [UInt8.ofNat n, UInt8.ofNat (n / 256)] = n :=
    ofLeBytes_leBytes 2 n (by simpa using fits)
  have second : Parses (do
      let high ← unwrap [UInt8.ofNat n, UInt8.ofNat (n / 256)][1]?
      pure (UInt16.ofNat (ofLeBytes [UInt8.ofNat n, high])) : Decoder UInt16) []
      (UInt16.ofNat n) := by
    have read := parses_last (ε := String) _
      (fun high => UInt16.ofNat (ofLeBytes [UInt8.ofNat n, high])) _ _
      (parses_unwrap [UInt8.ofNat n, UInt8.ofNat (n / 256)][1]? _ rfl)
    rw [value] at read
    exact read
  have first := parses_bind _ (fun low => do
      let high ← unwrap [UInt8.ofNat n, UInt8.ofNat (n / 256)][1]?
      pure (UInt16.ofNat (ofLeBytes [low, high]))) _ _ _ _
    (parses_unwrap [UInt8.ofNat n, UInt8.ofNat (n / 256)][0]? _ rfl) second
  have taken := parses_bind (take 2) (fun bytes => do
      let low ← unwrap bytes[0]?
      let high ← unwrap bytes[1]?
      pure (UInt16.ofNat (ofLeBytes [low, high]))) _ _ _ _
    (parses_take (leBytes 2 n) 2 (length_leBytes 2 n)) first
  exact taken

theorem bounded_u16 : Bounded u16 := by
  apply bounded_bind_of _ _ (fun bytes => bytes.length = 2) (bounded_take 2) (take_length 2)
  intro bytes length
  have low : bytes[0]?.isSome := by
    rw [List.getElem?_eq_getElem (by omega)]
    rfl
  have high : bytes[1]?.isSome := by
    rw [List.getElem?_eq_getElem (by omega)]
    rfl
  apply bounded_bind _ _ (bounded_unwrap _ low)
  intro byte
  exact bounded_last _ _ (bounded_unwrap _ high)

theorem parses_word (value : UInt64) : Parses word (u64Bytes value) value := by
  have length : (u64Bytes value).length = 8 := length_leBytes 8 _
  have number : UInt64.ofNat (ofLeBytes (u64Bytes value)) = value := by
    rw [u64Bytes, ofLeBytes_leBytes 8 _ value.toNat_lt, UInt64.ofNat_toNat]
  have array := parses_last (ε := String) _ (fun array => UInt64.ofNat (ofLeBytes array)) [] _
    (parses_unwrap (if (u64Bytes value).length = 8 then some (u64Bytes value) else none) _
      (if_pos length))
  rw [number] at array
  have taken := parses_bind (take 8) (fun bytes => do
      let array ← unwrap (if bytes.length = 8 then some bytes else none)
      pure (UInt64.ofNat (ofLeBytes array))) _ _ _ _ (parses_take _ 8 length) array
  rw [List.append_nil] at taken
  exact taken

theorem bounded_word : Bounded word := by
  apply bounded_bind_of _ _ (fun bytes => bytes.length = 8) (bounded_take 8) (take_length 8)
  intro bytes length
  apply bounded_last
  apply bounded_unwrap
  rw [if_pos length]
  rfl

theorem parses_i64 (value : Int64) : Parses i64 (u64Bytes value.toUInt64) value :=
  parses_last word UInt64.toInt64 _ _ (parses_word value.toUInt64)

theorem bounded_i64 : Bounded i64 := bounded_last _ _ bounded_word

theorem fromUTF8_toUTF8 (text : String) :
    String.fromUTF8? ⟨text.toUTF8.data.toList.toArray⟩ = some text := by
  have valid : text.toUTF8.IsValidUTF8 := text.isValidUTF8
  have bytes : (⟨text.toUTF8.data.toList.toArray⟩ : ByteArray) = text.toUTF8 := by
    rw [Array.toArray_toList]
  rw [bytes, String.fromUTF8?, dif_pos valid]
  rfl

theorem parses_string (text : String) (short : Short text) :
    Parses string (encodeString text) text := by
  have width : (UInt16.ofNat text.utf8ByteSize).toNat = text.utf8ByteSize :=
    UInt16.toNat_ofNat_of_lt' short
  refine parses_bind _ _ _ _ _ _ (parses_u16 _ short) ?_
  rw [width, ← List.append_nil text.toUTF8.data.toList]
  refine parses_bind _ _ _ _ _ _ (parses_take _ _ ?_) ?_
  · rfl
  · rw [fromUTF8_toUTF8]
    exact parses_pure text

theorem bounded_string : Bounded string := by
  apply bounded_bind _ _ bounded_u16
  intro len
  apply bounded_bind _ _ (bounded_take _)
  intro bytes
  cases String.fromUTF8? ⟨bytes.toArray⟩ with
  | none => exact bounded_rejected _
  | some text => exact bounded_pure text

theorem parses_optString (text : Option String) (short : ShortOption text) :
    Parses optString (encodeOptString text) text := by
  cases text with
  | none => exact parses_bind _ _ [0] [] _ _ (parses_u8 0) (parses_pure none)
  | some value =>
      exact parses_bind _ _ _ _ _ _ (parses_u8 1)
        (parses_last _ some _ _ (parses_string value (short value rfl)))

theorem bounded_optString : Bounded optString := by
  apply bounded_bind _ _ bounded_u8
  intro present
  exact bounded_ite _ _ _ (bounded_pure _) (bounded_last _ _ bounded_string)

theorem parses_flag (flag : Bool) :
    ∃ byte : UInt8, Parses u8 (boolByte flag) byte ∧ (byte != 0) = flag := by
  cases flag with
  | false => exact ⟨0, parses_u8 0, rfl⟩
  | true => exact ⟨1, parses_u8 1, rfl⟩

theorem parses_default (value : DescriptorDefault) (fits : value.Fits) :
    Parses DescrReader.default (encodeDefault value) value := by
  cases value with
  | text value =>
      exact parses_bind _ _ _ _ _ _ (parses_u8 _)
        (parses_last _ DescriptorDefault.text _ _ (parses_string value fits))
  | integer value =>
      exact parses_bind _ _ _ _ _ _ (parses_u8 _)
        (parses_last _ DescriptorDefault.integer _ _ (parses_i64 value))
  | float bits =>
      exact parses_bind _ _ _ _ _ _ (parses_u8 _)
        (parses_last _ DescriptorDefault.float _ _ (parses_word bits))
  | bool value =>
      rcases parses_flag value with ⟨byte, parses, shown⟩
      have read := parses_last u8 (fun byte => DescriptorDefault.bool (byte != 0)) _ _ parses
      rw [shown] at read
      exact parses_bind _ _ _ _ _ _ (parses_u8 _) read
  | nil => exact parses_bind _ _ [defNil] [] _ _ (parses_u8 _) (parses_pure _)
  | expr value =>
      exact parses_bind _ _ _ _ _ _ (parses_u8 _)
        (parses_last _ DescriptorDefault.expr _ _ (parses_string value fits))

theorem bounded_default : Bounded DescrReader.default := by
  apply bounded_bind _ _ bounded_u8
  intro tag
  apply bounded_ite _ _ _ (bounded_last _ _ bounded_string)
  apply bounded_ite _ _ _ (bounded_last _ _ bounded_string)
  apply bounded_ite _ _ _ (bounded_last _ _ bounded_i64)
  apply bounded_ite _ _ _ (bounded_last _ _ bounded_word)
  apply bounded_ite _ _ _ (bounded_last _ _ bounded_u8)
  exact bounded_ite _ _ _ (bounded_pure _) (bounded_rejected _)

theorem parses_optDefault (value : Option DescriptorDefault)
    (fits : ∀ present ∈ value, present.Fits) :
    Parses optDefault (encodeOptDefault value) value := by
  cases value with
  | none => exact parses_bind _ _ [0] [] _ _ (parses_u8 0) (parses_pure none)
  | some present =>
      exact parses_bind _ _ _ _ _ _ (parses_u8 1)
        (parses_last _ some _ _ (parses_default present (fits present rfl)))

theorem bounded_optDefault : Bounded optDefault := by
  apply bounded_bind _ _ bounded_u8
  intro present
  exact bounded_ite _ _ _ (bounded_pure _) (bounded_last _ _ bounded_default)

end DescrReader

theorem parses_decodeExit (object : String) (exit : DescriptorExit) (known : Short object)
    (fits : exit.Fits) : Parses decodeExit (encodeExit object exit) exit := by
  cases exit with
  | none => exact parses_bind _ _ [exitNone] [] _ _ (parses_u8 _) (parses_pure _)
  | fixed code =>
      exact parses_bind _ _ _ _ _ _ (parses_u8 _)
        (parses_last _ DescriptorExit.fixed _ _ (parses_i64 code))
  | binding name =>
      exact parses_bind _ _ _ _ _ _ (parses_u8 _)
        (parses_last _ DescriptorExit.binding _ _ (parses_string name fits))
  | field name =>
      exact parses_bind _ _ _ _ _ _ (parses_u8 _)
        (parses_bind _ _ _ _ _ _ (parses_string object known)
          (parses_last _ DescriptorExit.field _ _ (parses_string name fits)))
  | unsupported => exact parses_bind _ _ [exitUnsupported] [] _ _ (parses_u8 _) (parses_pure _)

theorem bounded_decodeExit : Bounded decodeExit := by
  apply bounded_bind _ _ bounded_u8
  intro tag
  apply bounded_ite _ _ _ (bounded_pure _)
  apply bounded_ite _ _ _ (bounded_last _ _ bounded_i64)
  apply bounded_ite _ _ _ (bounded_last _ _ bounded_string)
  apply bounded_ite
  · apply bounded_bind _ _ bounded_string
    intro object
    exact bounded_last _ _ bounded_string
  · exact bounded_ite _ _ _ (bounded_pure _) (bounded_rejected _)

theorem parses_decodeOption (option : DescriptorOption) (fits : option.Fits) :
    Parses decodeOption (encodeOption option) option := by
  rcases parses_flag option.flag with ⟨byte, flagged, shown⟩
  refine parses_bind _ _ _ _ _ _ (parses_u8 option.ty) ?_
  refine parses_bind _ _ _ _ _ _ flagged ?_
  refine parses_bind _ _ _ _ _ _ (parses_optString _ fits.short) ?_
  refine parses_bind _ _ _ _ _ _ (parses_optString _ fits.long) ?_
  refine parses_bind _ _ _ _ _ _ (parses_optString _ fits.description) ?_
  refine parses_bind _ _ _ _ _ _ (parses_optDefault _ fits.default) ?_
  have last := parses_last string (fun binding => { option with binding }) _ _
    (parses_string _ fits.binding)
  rw [shown]
  exact last

theorem bounded_decodeOption : Bounded decodeOption := by
  refine bounded_bind _ _ bounded_u8 (fun ty => ?_)
  refine bounded_bind _ _ bounded_u8 (fun flag => ?_)
  refine bounded_bind _ _ bounded_optString (fun short => ?_)
  refine bounded_bind _ _ bounded_optString (fun long => ?_)
  refine bounded_bind _ _ bounded_optString (fun description => ?_)
  refine bounded_bind _ _ bounded_optDefault (fun default => ?_)
  exact bounded_last _ _ bounded_string

theorem parses_decodeOperand (operand : DescriptorOperand) (fits : operand.Fits) :
    Parses decodeOperand (encodeOperand operand) operand := by
  rcases parses_flag operand.rest with ⟨byte, flagged, shown⟩
  refine parses_bind _ _ _ _ _ _ (parses_u8 operand.ty) ?_
  refine parses_bind _ _ _ _ _ _ flagged ?_
  refine parses_bind _ _ _ _ _ _ (parses_optString _ fits.description) ?_
  refine parses_bind _ _ _ _ _ _ (parses_optDefault _ fits.default) ?_
  have last := parses_last string (fun binding => { operand with binding }) _ _
    (parses_string _ fits.binding)
  rw [shown]
  exact last

theorem bounded_decodeOperand : Bounded decodeOperand := by
  refine bounded_bind _ _ bounded_u8 (fun ty => ?_)
  refine bounded_bind _ _ bounded_u8 (fun rest => ?_)
  refine bounded_bind _ _ bounded_optString (fun description => ?_)
  refine bounded_bind _ _ bounded_optDefault (fun default => ?_)
  exact bounded_last _ _ bounded_string

theorem parses_records {τ α : Type} (read : Decoder α) (encode : τ → List UInt8) (view : τ → α)
    (Fits : τ → Prop) (each : ∀ record, Fits record → Parses read (encode record) (view record))
    (records : List τ) (fits : Records Fits (2 ^ 16) records) :
    Parses (u16 >>= fun count => many read count.toNat) (encodeRecords encode records)
      (records.map view) := by
  have count : (UInt16.ofNat records.length).toNat = records.length :=
    UInt16.toNat_ofNat_of_lt' fits.count
  refine parses_bind _ _ _ _ _ _ (parses_u16 _ fits.count) ?_
  rw [count]
  exact parses_many read encode view records (fun record member => each record (fits.each _ member))

theorem parses_decodeOptions (options : List DescriptorOption)
    (fits : Records DescriptorOption.Fits (2 ^ 16) options) :
    Parses decodeOptions (encodeRecords encodeOption options) options := by
  have read := parses_records decodeOption encodeOption id _ parses_decodeOption options fits
  rwa [List.map_id] at read

theorem bounded_decodeOptions : Bounded decodeOptions := by
  apply bounded_bind _ _ bounded_u16
  intro count
  exact bounded_many _ bounded_decodeOption _

theorem parses_decodeOperands (operands : List DescriptorOperand)
    (fits : Records DescriptorOperand.Fits (2 ^ 16) operands) :
    Parses decodeOperands (encodeRecords encodeOperand operands) operands := by
  have read := parses_records decodeOperand encodeOperand id _ parses_decodeOperand operands fits
  rwa [List.map_id] at read

theorem bounded_decodeOperands : Bounded decodeOperands := by
  apply bounded_bind _ _ bounded_u16
  intro count
  exact bounded_many _ bounded_decodeOperand _

theorem parses_texts {α : Type} (next : List String → Decoder α) (texts : List String)
    (fits : Records Short (2 ^ 8) texts) (tail : List UInt8) (result : α)
    (rest : Parses (next texts) tail result) :
    Parses (u8 >>= fun count => many string count.toNat >>= next) (encodeTexts texts ++ tail)
      result := by
  have count : (UInt8.ofNat texts.length).toNat = texts.length :=
    UInt8.toNat_ofNat_of_lt' fits.count
  have read := parses_many string encodeString id texts
    (fun text member => parses_string text (fits.each text member))
  rw [List.map_id] at read
  rw [encodeTexts, List.append_assoc]
  refine parses_bind _ _ _ _ _ _ (parses_u8 _) ?_
  rw [count]
  exact parses_bind _ _ _ _ _ _ read rest

theorem parses_decodeCommand (wire : WireCommand) (fits : wire.Fits) :
    Parses decodeCommand (encodeCommand wire) wire.command := by
  apply parses_texts _ _ fits.path
  apply parses_texts _ _ fits.aliases
  refine parses_bind _ _ _ _ _ _ (parses_optString _ fits.description) ?_
  refine parses_bind _ _ _ _ _ _ (parses_string _ fits.function) ?_
  refine parses_bind _ _ _ _ _ _ (parses_optString _ fits.argsBinding) ?_
  refine parses_bind _ _ _ _ _ _ (parses_decodeOptions _ fits.options) ?_
  exact parses_last decodeOperands (fun operands => { wire.command with operands }) _ _
    (parses_decodeOperands _ fits.operands)

theorem bounded_decodeCommand : Bounded decodeCommand := by
  refine bounded_bind _ _ bounded_u8 (fun pathLen => ?_)
  refine bounded_bind _ _ (bounded_many _ bounded_string _) (fun path => ?_)
  refine bounded_bind _ _ bounded_u8 (fun aliasCount => ?_)
  refine bounded_bind _ _ (bounded_many _ bounded_string _) (fun aliases => ?_)
  refine bounded_bind _ _ bounded_optString (fun description => ?_)
  refine bounded_bind _ _ bounded_string (fun function => ?_)
  refine bounded_bind _ _ bounded_optString (fun argsBinding => ?_)
  refine bounded_bind _ _ bounded_decodeOptions (fun options => ?_)
  exact bounded_last _ _ bounded_decodeOperands

theorem parses_announced (text : Option String) (short : ShortOption text) :
    Parses (announced text.isSome) (encodeAnnounced text) text := by
  cases text with
  | none => exact parses_pure none
  | some value => exact parses_last _ some _ _ (parses_string value (short value rfl))

theorem bounded_announced (present : Bool) : Bounded (announced present) :=
  bounded_ite _ _ _ (bounded_last _ _ bounded_string) (bounded_pure _)

theorem WireDescriptor.commands_shown (wire : WireDescriptor) :
    wire.commands.map WireCommand.command = wire.descriptor.commands := by
  apply List.ext_getElem
  · simp [WireDescriptor.commands, wire.callees_length]
  · intro index _ _
    simp [WireDescriptor.commands]

theorem parses_decodeBody (wire : WireDescriptor) (fits : wire.Fits) :
    Parses decodeBody (encodeBody wire) wire.descriptor := by
  rcases parses_flag wire.descriptor.version.isSome with ⟨versionByte, versioned, hasVersion⟩
  rcases parses_flag wire.descriptor.description.isSome with
    ⟨descriptionByte, described, hasDescription⟩
  refine parses_bind _ _ _ _ _ _ (parses_u8 wire.descriptor.mode) ?_
  refine parses_bind _ _ _ _ _ _ versioned ?_
  refine parses_bind _ _ _ _ _ _ described ?_
  refine parses_bind _ _ _ _ _ _ (parses_string _ fits.name) ?_
  rw [hasVersion, hasDescription]
  refine parses_bind _ _ _ _ _ _ (parses_announced _ fits.version) ?_
  refine parses_bind _ _ _ _ _ _ (parses_announced _ fits.description) ?_
  refine parses_bind _ _ _ _ _ _ (parses_decodeExit _ _ fits.object fits.exit) ?_
  refine parses_bind _ _ _ _ _ _ (parses_decodeOptions _ fits.globalOptions) ?_
  refine parses_bind _ _ _ _ _ _ (parses_decodeOperands _ fits.globalOperands) ?_
  refine parses_bind _ _ _ _ _ _ (parses_decodeOptions _ fits.options) ?_
  refine parses_bind _ _ _ _ _ _ (parses_decodeOperands _ fits.operands) ?_
  have commands := parses_records decodeCommand encodeCommand WireCommand.command _
    parses_decodeCommand wire.commands fits.commands
  rw [wire.commands_shown] at commands
  have last := parses_last _ (fun commands => { wire.descriptor with commands }) _ _ commands
  rw [bind_assoc] at last
  exact last

theorem bounded_decodeBody : Bounded decodeBody := by
  refine bounded_bind _ _ bounded_u8 (fun mode => ?_)
  refine bounded_bind _ _ bounded_u8 (fun hasVersion => ?_)
  refine bounded_bind _ _ bounded_u8 (fun hasDescription => ?_)
  refine bounded_bind _ _ bounded_string (fun name => ?_)
  refine bounded_bind _ _ (bounded_announced _) (fun version => ?_)
  refine bounded_bind _ _ (bounded_announced _) (fun description => ?_)
  refine bounded_bind _ _ bounded_decodeExit (fun exit => ?_)
  refine bounded_bind _ _ bounded_decodeOptions (fun globalOptions => ?_)
  refine bounded_bind _ _ bounded_decodeOperands (fun globalOperands => ?_)
  refine bounded_bind _ _ bounded_decodeOptions (fun options => ?_)
  refine bounded_bind _ _ bounded_decodeOperands (fun operands => ?_)
  refine bounded_bind _ _ bounded_u16 (fun commandCount => ?_)
  exact bounded_last _ _ (bounded_many _ bounded_decodeCommand _)

theorem parses_decodeFrom (wire : WireDescriptor) (fits : wire.Fits) :
    Parses decodeFrom (encodeDescriptor wire) wire.descriptor := by
  refine parses_bind _ _ _ _ _ _ (parses_take cliDescriptorMagic 4 rfl) ?_
  rw [if_neg (fun apart => apart rfl)]
  refine parses_bind _ _ _ _ _ _ (parses_u8 cliDescriptorVersion) ?_
  rw [if_neg (fun apart => apart rfl)]
  exact parses_decodeBody wire fits

theorem bounded_decodeFrom : Bounded decodeFrom := by
  refine bounded_bind _ _ (bounded_take 4) (fun magic => ?_)
  refine bounded_ite _ _ _ (bounded_rejected _) ?_
  refine bounded_bind _ _ bounded_u8 (fun version => ?_)
  exact bounded_ite _ _ _ (bounded_rejected _) bounded_decodeBody

theorem length_encodeString (text : String) (short : Short text) :
    (encodeString text).length ≤ 2 ^ 17 := by
  have size : text.toUTF8.data.toList.length = text.utf8ByteSize := rfl
  unfold Short at short
  rw [encodeString, List.length_append, length_leBytes, size]
  omega

theorem length_encodeOptString (text : Option String) (short : ShortOption text) :
    (encodeOptString text).length ≤ 2 ^ 18 := by
  cases text with
  | none => decide
  | some value =>
      have content := length_encodeString value (short value rfl)
      rw [encodeOptString, List.length_append, List.length_singleton]
      omega

theorem length_u64Bytes (value : UInt64) : (u64Bytes value).length = 8 := length_leBytes 8 _

theorem length_encodeDefault (value : DescriptorDefault) (fits : value.Fits) :
    (encodeDefault value).length ≤ 2 ^ 18 := by
  cases value with
  | text value =>
      have content := length_encodeString value fits
      rw [encodeDefault, List.length_append, List.length_singleton]
      omega
  | integer value =>
      rw [encodeDefault, List.length_append, length_u64Bytes]
      decide
  | float bits =>
      rw [encodeDefault, List.length_append, length_u64Bytes]
      decide
  | bool value => cases value <;> decide
  | nil => decide
  | expr value =>
      have content := length_encodeString value fits
      rw [encodeDefault, List.length_append, List.length_singleton]
      omega

theorem length_encodeOptDefault (value : Option DescriptorDefault)
    (fits : ∀ present ∈ value, present.Fits) : (encodeOptDefault value).length ≤ 2 ^ 19 := by
  cases value with
  | none => decide
  | some present =>
      have content := length_encodeDefault present (fits present rfl)
      rw [encodeOptDefault, List.length_append, List.length_singleton]
      omega

theorem length_boolByte (flag : Bool) : (boolByte flag).length = 1 := rfl

theorem length_encodeOption (option : DescriptorOption) (fits : option.Fits) :
    (encodeOption option).length ≤ 2 ^ 21 := by
  have short := length_encodeOptString _ fits.short
  have long := length_encodeOptString _ fits.long
  have description := length_encodeOptString _ fits.description
  have default := length_encodeOptDefault _ fits.default
  have binding := length_encodeString _ fits.binding
  simp only [encodeOption, List.length_append, List.length_singleton, length_boolByte]
  omega

theorem length_encodeOperand (operand : DescriptorOperand) (fits : operand.Fits) :
    (encodeOperand operand).length ≤ 2 ^ 21 := by
  have description := length_encodeOptString _ fits.description
  have default := length_encodeOptDefault _ fits.default
  have binding := length_encodeString _ fits.binding
  simp only [encodeOperand, List.length_append, List.length_singleton, length_boolByte]
  omega

theorem length_encodeRecords {τ : Type} (encode : τ → List UInt8) (Fits : τ → Prop) (bound : Nat)
    (each : ∀ record, Fits record → (encode record).length ≤ bound) (records : List τ)
    (fits : Records Fits (2 ^ 16) records) :
    (encodeRecords encode records).length ≤ 2 + 2 ^ 16 * bound := by
  have content := length_flatMap_le encode records bound
    (fun record member => each record (fits.each record member))
  have rows := Nat.mul_le_mul_right bound (Nat.le_of_lt fits.count)
  rw [encodeRecords, List.length_append, length_leBytes]
  omega

theorem length_encodeTexts (texts : List String) (fits : Records Short (2 ^ 8) texts) :
    (encodeTexts texts).length ≤ 2 ^ 26 := by
  have content := length_flatMap_le encodeString texts (2 ^ 17)
    (fun text member => length_encodeString text (fits.each text member))
  have rows := Nat.mul_le_mul_right (2 ^ 17) (Nat.le_of_lt fits.count)
  rw [encodeTexts, List.length_append, List.length_singleton]
  omega

theorem length_encodeCommand (wire : WireCommand) (fits : wire.Fits) :
    (encodeCommand wire).length ≤ 2 ^ 40 := by
  have path := length_encodeTexts _ fits.path
  have aliases := length_encodeTexts _ fits.aliases
  have description := length_encodeOptString _ fits.description
  have function := length_encodeString _ fits.function
  have argsBinding := length_encodeOptString _ fits.argsBinding
  have options := length_encodeRecords _ _ _ length_encodeOption _ fits.options
  have operands := length_encodeRecords _ _ _ length_encodeOperand _ fits.operands
  simp only [encodeCommand, List.length_append]
  omega

theorem length_encodeAnnounced (text : Option String) (short : ShortOption text) :
    (encodeAnnounced text).length ≤ 2 ^ 17 := by
  cases text with
  | none => decide
  | some value => exact length_encodeString value (short value rfl)

theorem length_encodeExit (object : String) (exit : DescriptorExit) (known : Short object)
    (fits : exit.Fits) : (encodeExit object exit).length ≤ 2 ^ 19 := by
  cases exit with
  | none =>
      show 1 ≤ 2 ^ 19
      decide
  | fixed code =>
      rw [encodeExit, List.length_append, length_u64Bytes]
      decide
  | binding name =>
      have content := length_encodeString name fits
      rw [encodeExit, List.length_append, List.length_singleton]
      omega
  | field name =>
      have front := length_encodeString object known
      have content := length_encodeString name fits
      rw [encodeExit, List.length_append, List.length_append, List.length_singleton]
      omega
  | unsupported =>
      show 1 ≤ 2 ^ 19
      decide

theorem length_encodeDescriptor (wire : WireDescriptor) (fits : wire.Fits) :
    (encodeDescriptor wire).length < 2 ^ 63 := by
  have name := length_encodeString _ fits.name
  have version := length_encodeAnnounced _ fits.version
  have description := length_encodeAnnounced _ fits.description
  have exit := length_encodeExit _ _ fits.object fits.exit
  have globalOptions := length_encodeRecords _ _ _ length_encodeOption _ fits.globalOptions
  have globalOperands := length_encodeRecords _ _ _ length_encodeOperand _ fits.globalOperands
  have options := length_encodeRecords _ _ _ length_encodeOption _ fits.options
  have operands := length_encodeRecords _ _ _ length_encodeOperand _ fits.operands
  have commands := length_encodeRecords _ _ _ length_encodeCommand _ fits.commands
  have magic : cliDescriptorMagic.length = 4 := rfl
  simp only [encodeDescriptor, encodeBody, List.length_append, List.length_singleton,
    length_boolByte, magic]
  omega

/-- The encoding of a descriptor that fits, as a slice. -/
def WireDescriptor.slice (wire : WireDescriptor) (fits : wire.Fits) : Slice :=
  ⟨encodeDescriptor wire, length_encodeDescriptor wire fits⟩

theorem decodeDescriptor_of_long (slice : Slice) (long : 5 ≤ slice.bytes.length) :
    decodeDescriptor slice = decodeFrom.run ⟨slice, 0⟩ := by
  unfold decodeDescriptor DescrReader.new
  rw [if_neg (by omega)]
  rfl

theorem decodeDescriptor_of_short (slice : Slice) (short : slice.bytes.length < 5) :
    decodeDescriptor slice = .error (.rejected "truncated descriptor") := by
  unfold decodeDescriptor DescrReader.new
  rw [if_pos short]
  rfl

theorem decode_written (wire : WireDescriptor) (fits : wire.Fits) (slice : Slice)
    (rest : List UInt8) (written : slice.bytes = encodeDescriptor wire ++ rest) :
    decodeDescriptor slice =
      .ok (wire.descriptor, ⟨slice, (encodeDescriptor wire).length⟩) := by
  have long : 5 ≤ slice.bytes.length := by
    have magic : cliDescriptorMagic.length = 4 := rfl
    rw [written]
    simp only [encodeDescriptor, List.length_append, List.length_singleton, magic]
    omega
  have parsed := parses_decodeFrom wire fits slice [] rest written
  rw [List.length_nil, Nat.zero_add] at parsed
  rw [decodeDescriptor_of_long slice long]
  exact parsed

theorem decode_cut (wire : WireDescriptor) (fits : wire.Fits) (cut : Slice) (more : List UInt8)
    (split : encodeDescriptor wire = cut.bytes ++ more) (missing : more ≠ []) :
    ∃ error, decodeDescriptor cut = .error (.rejected error) := by
  by_cases long : 5 ≤ cut.bytes.length
  · rw [decodeDescriptor_of_long cut long]
    exact refuses_cut _ _ _ (parses_decodeFrom wire fits) bounded_decodeFrom (wire.slice fits) cut
      more rfl split missing
  · exact ⟨_, decodeDescriptor_of_short cut (Nat.lt_of_not_le long)⟩

theorem decode_safe (slice : Slice) :
    Safe (decodeDescriptor slice) ∧ ∀ descriptor reader,
      decodeDescriptor slice = .ok (descriptor, reader) →
        reader.slice = slice ∧ reader.offset ≤ slice.bytes.length := by
  by_cases long : 5 ≤ slice.bytes.length
  · have within : Source.Within ⟨slice, 0⟩ := Nat.zero_le _
    rw [decodeDescriptor_of_long slice long]
    constructor
    · exact bounded_decodeFrom.safe _ within
    · intro descriptor reader run
      rcases bounded_decodeFrom.advance _ _ _ within run with ⟨same, _, inside⟩
      rw [Source.Within, same] at inside
      exact ⟨same, inside⟩
  · rw [decodeDescriptor_of_short slice (Nat.lt_of_not_le long)]
    exact ⟨safe_rejected _, fun _ _ run => by cases run⟩

/-- What the decoder makes of the layout and of all other bytes. -/
structure DescriptorCoding : Prop where
  inverts : ∀ (wire : WireDescriptor) (slice : Slice) (rest : List UInt8), wire.Fits →
    slice.bytes = encodeDescriptor wire ++ rest →
      decodeDescriptor slice = .ok (wire.descriptor, ⟨slice, (encodeDescriptor wire).length⟩)
  unambiguous : ∀ first second : WireDescriptor, first.Fits → second.Fits →
    encodeDescriptor first = encodeDescriptor second → first.descriptor = second.descriptor
  cut_refused : ∀ (wire : WireDescriptor) (cut : Slice) (more : List UInt8), wire.Fits →
    encodeDescriptor wire = cut.bytes ++ more → more ≠ [] →
      ∃ error, decodeDescriptor cut = .error (.rejected error)
  never_panics : ∀ slice : Slice, Safe (decodeDescriptor slice)
  stays_inside : ∀ (slice : Slice) (descriptor : CliDescriptor) (reader : DescrReader),
    decodeDescriptor slice = .ok (descriptor, reader) →
      reader.slice = slice ∧ reader.offset ≤ slice.bytes.length

theorem descriptor_coding : DescriptorCoding where
  inverts wire slice rest fits written := decode_written wire fits slice rest written
  unambiguous first second first_fits second_fits same := by
    have left := decode_written first first_fits (first.slice first_fits) []
      (List.append_nil _).symm
    have right := decode_written second second_fits (first.slice first_fits) []
      (same.trans (List.append_nil _).symm)
    rw [left] at right
    exact congrArg Prod.fst (Except.ok.inj right)
  cut_refused wire cut more fits split missing := decode_cut wire fits cut more split missing
  never_panics slice := (decode_safe slice).1
  stays_inside slice := (decode_safe slice).2

theorem smoke_fits : smokeWire.Fits where
  name := by rw [Short]; decide
  version := nofun
  description := nofun
  exit := by
    show "exitum".utf8ByteSize < 2 ^ 16
    decide
  object := by rw [Short]; decide
  globalOptions := ⟨by decide, nofun⟩
  globalOperands := ⟨by decide, nofun⟩
  options := ⟨by decide, nofun⟩
  operands := by
    refine ⟨by decide, fun operand member => ?_⟩
    rw [List.mem_singleton.mp member]
    exact ⟨nofun, nofun, by rw [Short]; decide⟩
  commands := ⟨by decide, nofun⟩

/-- The bytes of the program, with a byte of something else behind them. -/
theorem smoke_decoded :
    decodeDescriptor ⟨encodeDescriptor smokeWire ++ [255], by decide +kernel⟩ =
      .ok (smokeWire.descriptor, ⟨⟨encodeDescriptor smokeWire ++ [255], by decide +kernel⟩,
        (encodeDescriptor smokeWire).length⟩) :=
  descriptor_coding.inverts smokeWire _ [255] smoke_fits rfl

end FaberRuntime.Cli
