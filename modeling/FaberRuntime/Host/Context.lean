import FaberRuntime.Foundation.Collections

namespace FaberRuntime.Host

/-! The values that cross the host ABI, the tags of their kinds and the typed reads and writes at
a caller's pointer. -/

/-- The kind tags; a tag that names no kind is `unknown`. -/
inductive ValueKind
  | i1
  | i8
  | i16
  | i32
  | i64
  | u8
  | u16
  | u32
  | u64
  | f16
  | f32
  | f64
  | ptr
  | text
  | valor
  | optionI64
  | instans
  | ascii
  | unknown (tag : UInt32)
  deriving DecidableEq

def validKind : ValueKind → Bool
  | .unknown _ => false
  | _ => true

inductive Arena
  | texts
  | valors
  | ascii
  | octeti
  | numericBoxes
  | instants
  | arrays
  | options
  | maps
  | sets
  | tensors
  deriving DecidableEq

/-- A pointer is the address of a box the context owns, which stays where it is, or another
address. -/
inductive Pointer
  | box (arena : Arena) (index : Nat)
  | raw (address : UInt64)
  deriving DecidableEq

def Pointer.null : Pointer := .raw 0

inductive RuntimeValue
  | i1 (value : UInt8)
  | i8 (value : Int8)
  | i16 (value : Int16)
  | i32 (value : Int32)
  | i64 (value : Int64)
  | u8 (value : UInt8)
  | u16 (value : UInt16)
  | u32 (value : UInt32)
  | u64 (value : UInt64)
  | f16 (bits : UInt16)
  | f32 (bits : UInt32)
  | f64 (bits : UInt64)
  | ptr (pointer : Pointer)
  deriving DecidableEq

def f32IsNan (bits : UInt32) : Bool := bits &&& 0x7fffffff > 0x7f800000

def f64IsNan (bits : UInt64) : Bool := bits &&& 0x7fffffffffffffff > 0x7ff0000000000000

def f32Eq (a b : UInt32) : Bool :=
  !f32IsNan a && !f32IsNan b && (a == b || (a ||| b) &&& 0x7fffffff == 0)

def f64Eq (a b : UInt64) : Bool :=
  !f64IsNan a && !f64IsNan b && (a == b || (a ||| b) &&& 0x7fffffffffffffff == 0)

namespace RuntimeValue

def eq : RuntimeValue → RuntimeValue → Bool
  | .f32 a, .f32 b => f32Eq a b
  | .f64 a, .f64 b => f64Eq a b
  | a, b => decide (a = b)

def Of (value : RuntimeValue) (kind : ValueKind) : Prop :=
  match kind, value with
  | .i1, .i1 _ | .i8, .i8 _ | .i16, .i16 _ | .i32, .i32 _ | .i64, .i64 _ => True
  | .u8, .u8 _ | .u16, .u16 _ | .u32, .u32 _ | .u64, .u64 _ => True
  | .f16, .f16 _ | .f32, .f32 _ | .f64, .f64 _ => True
  | .ptr, .ptr _ | .text, .ptr _ | .valor, .ptr _ => True
  | .optionI64, .ptr _ | .instans, .ptr _ | .ascii, .ptr _ => True
  | _, _ => False

instance (value : RuntimeValue) (kind : ValueKind) : Decidable (value.Of kind) := by
  unfold Of
  split <;> infer_instance

end RuntimeValue

/-- What a read of each width finds at a caller's pointer: nothing where the pointer is null or
not aligned for the width. -/
structure Cell where
  one : Option UInt8
  two : Option UInt16
  four : Option UInt32
  eight : Option UInt64
  pointer : Option Pointer

def readValue (kind : ValueKind) (value : Cell) : Option RuntimeValue :=
  match kind with
  | .i1 => value.one.map .i1
  | .i8 => value.one.map fun bits => .i8 bits.toInt8
  | .i16 => value.two.map fun bits => .i16 bits.toInt16
  | .i32 => value.four.map fun bits => .i32 bits.toInt32
  | .i64 => value.eight.map fun bits => .i64 bits.toInt64
  | .u8 => value.one.map .u8
  | .u16 => value.two.map .u16
  | .u32 => value.four.map .u32
  | .u64 => value.eight.map .u64
  | .f16 => value.two.map .f16
  | .f32 => value.four.map .f32
  | .f64 => value.eight.map .f64
  | .ptr => value.pointer.map .ptr
  | .text => value.pointer.map .ptr
  | .valor => value.pointer.map .ptr
  | .optionI64 => value.pointer.map .ptr
  | .instans => value.pointer.map .ptr
  | .ascii => value.pointer.map .ptr
  | .unknown _ => none

/-- For which widths a caller's output pointer can be written: it is not null and is aligned. -/
structure Place where
  one : Bool
  two : Bool
  four : Bool
  eight : Bool
  pointer : Bool

def writeValue (value : RuntimeValue) (output : Place) : Bool :=
  match value with
  | .i1 _ => output.one
  | .i8 _ => output.one
  | .i16 _ => output.two
  | .i32 _ => output.four
  | .i64 _ => output.eight
  | .u8 _ => output.one
  | .u16 _ => output.two
  | .u32 _ => output.four
  | .u64 _ => output.eight
  | .f16 _ => output.two
  | .f32 _ => output.four
  | .f64 _ => output.eight
  | .ptr _ => output.pointer

theorem readValue_of (kind : ValueKind) (cell : Cell) (value : RuntimeValue)
    (read : readValue kind cell = some value) : value.Of kind := by
  cases kind <;> simp only [readValue, Option.map_eq_some_iff, reduceCtorEq] at read
  all_goals
    rcases read with ⟨bits, _, rfl⟩
    trivial

theorem eq_iff (kind : ValueKind) (a b : RuntimeValue) (a_of : a.Of kind) (b_of : b.Of kind)
    (single : kind ≠ .f32) (double : kind ≠ .f64) : a.eq b = true ↔ a = b := by
  cases a
  case f32 bits => cases kind <;> simp_all [RuntimeValue.Of]
  case f64 bits => cases kind <;> simp_all [RuntimeValue.Of]
  all_goals cases b <;> simp [RuntimeValue.eq]

structure RuntimeArray where
  kind : ValueKind
  values : List RuntimeValue
  deriving DecidableEq

structure RuntimeOption where
  kind : ValueKind
  value : Option RuntimeValue
  deriving DecidableEq

structure RuntimeMap where
  keyKind : ValueKind
  valueKind : ValueKind
  entries : List (RuntimeValue × RuntimeValue)
  deriving DecidableEq

structure RuntimeSet where
  kind : ValueKind
  values : List RuntimeValue
  deriving DecidableEq

structure RuntimeTensor where
  kind : ValueKind
  shape : List Int64
  data : List RuntimeValue
  deriving DecidableEq

structure RuntimeContext where
  arrays : List RuntimeArray
  options : List RuntimeOption
  maps : List RuntimeMap
  sets : List RuntimeSet
  tensors : List RuntimeTensor
  deriving DecidableEq

/-- What a call returns: a status, a status with a value written at its output, the handle of a
new box, or nothing at all. -/
inductive Answer
  | failed
  | done
  | wrote (value : RuntimeValue)
  | made (handle : Pointer)
  | silent
  deriving DecidableEq

def flag (value : Bool) : RuntimeValue := .u8 value.toUInt8

namespace RuntimeContext

def new : RuntimeContext := ⟨[], [], [], [], []⟩

variable (runtime : RuntimeContext)

def findArray : Pointer → Option RuntimeArray
  | .box .arrays index => runtime.arrays[index]?
  | _ => none

def findOption : Pointer → Option RuntimeOption
  | .box .options index => runtime.options[index]?
  | _ => none

def findMap : Pointer → Option RuntimeMap
  | .box .maps index => runtime.maps[index]?
  | _ => none

def findSet : Pointer → Option RuntimeSet
  | .box .sets index => runtime.sets[index]?
  | _ => none

def findTensor : Pointer → Option RuntimeTensor
  | .box .tensors index => runtime.tensors[index]?
  | _ => none

def setArray (handle : Pointer) (array : RuntimeArray) : RuntimeContext :=
  match handle with
  | .box .arrays index => { runtime with arrays := runtime.arrays.set index array }
  | _ => runtime

def setMap (handle : Pointer) (map : RuntimeMap) : RuntimeContext :=
  match handle with
  | .box .maps index => { runtime with maps := runtime.maps.set index map }
  | _ => runtime

def setSet (handle : Pointer) (set : RuntimeSet) : RuntimeContext :=
  match handle with
  | .box .sets index => { runtime with sets := runtime.sets.set index set }
  | _ => runtime

def storeArray (kind : ValueKind) (values : List RuntimeValue) : RuntimeContext × Answer :=
  ({ runtime with arrays := runtime.arrays ++ [⟨kind, values⟩] },
    .made (.box .arrays runtime.arrays.length))

def storeOption (kind : ValueKind) (value : Option RuntimeValue) : RuntimeContext × Answer :=
  ({ runtime with options := runtime.options ++ [⟨kind, value⟩] },
    .made (.box .options runtime.options.length))

def storeMap (keyKind valueKind : ValueKind) (entries : List (RuntimeValue × RuntimeValue)) :
    RuntimeContext × Answer :=
  ({ runtime with maps := runtime.maps ++ [⟨keyKind, valueKind, entries⟩] },
    .made (.box .maps runtime.maps.length))

def storeSet (kind : ValueKind) (values : List RuntimeValue) : RuntimeContext × Answer :=
  ({ runtime with sets := runtime.sets ++ [⟨kind, values⟩] },
    .made (.box .sets runtime.sets.length))

def storeTensor (kind : ValueKind) (shape : List Int64) (data : List RuntimeValue) :
    RuntimeContext × Answer :=
  ({ runtime with tensors := runtime.tensors ++ [⟨kind, shape, data⟩] },
    .made (.box .tensors runtime.tensors.length))

end RuntimeContext

end FaberRuntime.Host
