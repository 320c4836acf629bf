import FaberRuntime.Host.Array
import FaberRuntime.Instans.Wire
import FaberRuntime.Valor

namespace FaberRuntime.Host

/-! A host context with the opaque boxes beside its containers: texts, bytes, dynamic values,
numbers and instants. A dynamic value carries its floats as bits. -/

structure HostContext extends RuntimeContext where
  texts : List String
  valors : List (Valor UInt64)
  ascii : List (List UInt8)
  octeti : List (List UInt8)
  numericBoxes : List Int64
  instants : List Instans

theorem getElem?_of_prefix {α : Type} {before after : List α} (grown : before <+: after)
    {index : Nat} {value : α} (held : before[index]? = some value) :
    after[index]? = some value := by
  obtain ⟨bound, rfl⟩ := List.getElem?_eq_some_iff.mp held
  exact List.prefix_iff_getElem?.mp grown index bound

def fromUtf8 (bytes : List UInt8) : Option String := String.fromUTF8? (ByteArray.mk bytes.toArray)

def isAscii (bytes : List UInt8) : Bool := bytes.all fun byte => decide (byte < 128)

namespace HostContext

def new : HostContext := ⟨RuntimeContext.new, [], [], [], [], [], []⟩

variable (runtime : HostContext)

def findValor : Pointer → Option (Valor UInt64)
  | .box .valors index => runtime.valors[index]?
  | _ => none

def findOcteti : Pointer → Option (List UInt8)
  | .box .octeti index => runtime.octeti[index]?
  | _ => none

def setOcteti (handle : Pointer) (bytes : List UInt8) : HostContext :=
  match handle with
  | .box .octeti index => { runtime with octeti := runtime.octeti.set index bytes }
  | _ => runtime

def storeText (text : String) : HostContext × Pointer :=
  ({ runtime with texts := runtime.texts ++ [text] }, .box .texts runtime.texts.length)

def storeValor (valor : Valor UInt64) : HostContext × Pointer :=
  ({ runtime with valors := runtime.valors ++ [valor] }, .box .valors runtime.valors.length)

def storeAscii (bytes : List UInt8) : HostContext × Pointer :=
  ({ runtime with ascii := runtime.ascii ++ [bytes ++ [0]] }, .box .ascii runtime.ascii.length)

def storeOcteti (bytes : List UInt8) : HostContext × Pointer :=
  ({ runtime with octeti := runtime.octeti ++ [bytes] }, .box .octeti runtime.octeti.length)

def storeNumericBox (value : Int64) : HostContext × Pointer :=
  ({ runtime with numericBoxes := runtime.numericBoxes ++ [value] },
    .box .numericBoxes runtime.numericBoxes.length)

def storeInstans (instant : Instans) : HostContext × Pointer :=
  ({ runtime with instants := runtime.instants ++ [instant] },
    .box .instants runtime.instants.length)

def containers (call : RuntimeContext × Answer) : HostContext × Answer :=
  ({ runtime with toRuntimeContext := call.1 }, call.2)

end HostContext

end FaberRuntime.Host
