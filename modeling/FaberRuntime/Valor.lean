import FaberRuntime.Foundation.Collections

namespace FaberRuntime

universe u

/-! The canonical dynamic value. Its floats are a parameter; a map is the list of its entries in
key order. -/

inductive Valor (F : Type u)
  | nihil
  | bivalens (value : Bool)
  | numerus (value : Int64)
  | fractus (value : F)
  | textus (text : String)
  | octeti (bytes : List UInt8)
  | lista (items : List (Valor F))
  | tabula (fields : List (String × Valor F))
  | instans (text : String)

end FaberRuntime
