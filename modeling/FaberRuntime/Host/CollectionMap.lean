import FaberRuntime.Foundation.OrderedMap
import FaberRuntime.Host.Context

namespace FaberRuntime.Host

/-! Maps and sets of the host. The bytes behind a text descriptor are in the caller's memory:
`text` is what that memory holds when the call runs. -/

/-- The bytes of each readable text descriptor. -/
abbrev Texts := Pointer → Option (List UInt8)

def isUtf8 (bytes : List UInt8) : Bool := (ByteArray.mk bytes.toArray).validateUTF8

def valuesEqual (text : Texts) (kind : ValueKind) (left right : RuntimeValue) : Bool :=
  if kind ≠ .text then left.eq right
  else
    match left, right with
    | .ptr left, .ptr right =>
        match text left, text right with
        | some left, some right => decide (left = right)
        | _, _ => false
    | _, _ => false

def contains (text : Texts) (kind : ValueKind) (values : List RuntimeValue)
    (value : RuntimeValue) : Bool :=
  values.any fun candidate => valuesEqual text kind candidate value

def pushUnique (text : Texts) (kind : ValueKind) (values : List RuntimeValue)
    (value : RuntimeValue) : List RuntimeValue :=
  if contains text kind values value then values else values ++ [value]

def canonicalArrayElementKind : ValueKind → ValueKind
  | .text => .ptr
  | .ascii => .ptr
  | .valor => .ptr
  | .optionI64 => .ptr
  | .instans => .ptr
  | other => other

namespace RuntimeContext

variable (runtime : RuntimeContext) (text : Texts)

def arrayNew (kind : ValueKind) : RuntimeContext × Answer :=
  if validKind kind then runtime.storeArray kind [] else (runtime, .failed)

def arrayPush (handle : Pointer) (kind : ValueKind) (value : Cell) : RuntimeContext × Answer :=
  match runtime.findArray handle, readValue kind value with
  | some array, some value =>
      if array.kind ≠ kind then (runtime, .failed)
      else (runtime.setArray handle { array with values := array.values ++ [value] }, .done)
  | _, _ => (runtime, .failed)

def mapNew (keyKind valueKind : ValueKind) : RuntimeContext × Answer :=
  if !validKind keyKind || !validKind valueKind then (runtime, .failed)
  else runtime.storeMap keyKind valueKind []

def mapPut (handle : Pointer) (keyKind : ValueKind) (key : Cell) (valueKind : ValueKind)
    (value : Cell) : RuntimeContext × Answer :=
  match readValue keyKind key, readValue valueKind value, runtime.findMap handle with
  | some key, some value, some map =>
      if map.keyKind ≠ keyKind ∨ map.valueKind ≠ valueKind then (runtime, .failed)
      else
        let entries := putEntry (fun candidate => valuesEqual text keyKind candidate key) key value
          map.entries
        (runtime.setMap handle { map with entries := entries }, .done)
  | _, _, _ => (runtime, .failed)

def aggregateSetIndexPtrI64 (aggregate key : Pointer) (value : Int64) : RuntimeContext × Answer :=
  match text key, runtime.findMap aggregate with
  | some bytes, some map =>
      if !isUtf8 bytes then (runtime, .silent)
      else if map.keyKind ≠ .text ∨ map.valueKind ≠ .i64 then (runtime, .silent)
      else
        let entries := putEntry (fun candidate => valuesEqual text .text candidate (.ptr key))
          (.ptr key) (.i64 value) map.entries
        (runtime.setMap aggregate { map with entries := entries }, .silent)
  | _, _ => (runtime, .silent)

def mapOption (handle : Pointer) (keyKind : ValueKind) (key : Cell) (valueKind : ValueKind) :
    RuntimeContext × Answer :=
  match readValue keyKind key, runtime.findMap handle with
  | some key, some map =>
      if map.keyKind ≠ keyKind ∨ map.valueKind ≠ valueKind then (runtime, .failed)
      else
        let found := map.entries.find? fun entry => valuesEqual text keyKind entry.1 key
        runtime.storeOption valueKind (found.map Prod.snd)
  | _, _ => (runtime, .failed)

def mapGet (handle : Pointer) (keyKind : ValueKind) (key : Cell) (valueKind : ValueKind)
    (output : Place) : RuntimeContext × Answer :=
  match readValue keyKind key, runtime.findMap handle with
  | some key, some map =>
      if map.keyKind ≠ keyKind ∨ map.valueKind ≠ valueKind ∨ output.one = false then
        (runtime, .failed)
      else
        match map.entries.find? fun entry => valuesEqual text keyKind entry.1 key with
        | none => (runtime, .failed)
        | some entry =>
            if writeValue entry.2 output then (runtime, .wrote entry.2) else (runtime, .failed)
  | _, _ => (runtime, .failed)

def mapContains (handle : Pointer) (keyKind : ValueKind) (key : Cell) (output : Place) :
    RuntimeContext × Answer :=
  match readValue keyKind key, runtime.findMap handle with
  | some key, some map =>
      if map.keyKind ≠ keyKind ∨ output.one = false then (runtime, .failed)
      else
        let present := map.entries.any fun entry => valuesEqual text map.keyKind entry.1 key
        (runtime, .wrote (flag present))
  | _, _ => (runtime, .failed)

def mapDelete (handle : Pointer) (keyKind : ValueKind) (key : Cell) (output : Place) :
    RuntimeContext × Answer :=
  match readValue keyKind key, runtime.findMap handle with
  | some key, some map =>
      if map.keyKind ≠ keyKind ∨ output.one = false then (runtime, .failed)
      else
        let kept := map.entries.filter fun entry => !valuesEqual text map.keyKind entry.1 key
        (runtime.setMap handle { map with entries := kept },
          .wrote (flag (decide (kept.length ≠ map.entries.length))))
  | _, _ => (runtime, .failed)

def mapLength (handle : Pointer) (output : Place) : RuntimeContext × Answer :=
  match runtime.findMap handle with
  | none => (runtime, .failed)
  | some map =>
      if 2 ^ 63 ≤ map.entries.length ∨ output.one = false then (runtime, .failed)
      else (runtime, .wrote (.i64 (Int64.ofNat map.entries.length)))

def mapIsEmpty (handle : Pointer) (output : Place) : RuntimeContext × Answer :=
  match runtime.findMap handle with
  | none => (runtime, .failed)
  | some map =>
      if output.one = false then (runtime, .failed)
      else (runtime, .wrote (flag map.entries.isEmpty))

def mapKeys (handle : Pointer) : RuntimeContext × Answer :=
  match runtime.findMap handle with
  | none => (runtime, .failed)
  | some map =>
      runtime.storeArray (canonicalArrayElementKind map.keyKind) (map.entries.map Prod.fst)

def mapValues (handle : Pointer) : RuntimeContext × Answer :=
  match runtime.findMap handle with
  | none => (runtime, .failed)
  | some map =>
      runtime.storeArray (canonicalArrayElementKind map.valueKind) (map.entries.map Prod.snd)

def setNew (kind : ValueKind) : RuntimeContext × Answer :=
  if validKind kind then runtime.storeSet kind [] else (runtime, .failed)

def setAdd (handle : Pointer) (kind : ValueKind) (value : Cell) : RuntimeContext × Answer :=
  match readValue kind value, runtime.findSet handle with
  | some value, some set =>
      if set.kind ≠ kind then (runtime, .failed)
      else
        (runtime.setSet handle { set with values := pushUnique text set.kind set.values value },
          .done)
  | _, _ => (runtime, .failed)

def setFromArray (handle : Pointer) : RuntimeContext × Answer :=
  match runtime.findArray handle with
  | none => (runtime, .failed)
  | some array =>
      runtime.storeSet array.kind (array.values.foldl (pushUnique text array.kind) [])

def arrayFromSet (handle : Pointer) : RuntimeContext × Answer :=
  match runtime.findSet handle with
  | none => (runtime, .failed)
  | some set => runtime.storeArray set.kind set.values

def setContains (handle : Pointer) (kind : ValueKind) (value : Cell) (output : Place) :
    RuntimeContext × Answer :=
  match readValue kind value, runtime.findSet handle with
  | some value, some set =>
      if set.kind ≠ kind ∨ output.one = false then (runtime, .failed)
      else (runtime, .wrote (flag (contains text set.kind set.values value)))
  | _, _ => (runtime, .failed)

def setDelete (handle : Pointer) (kind : ValueKind) (value : Cell) (output : Place) :
    RuntimeContext × Answer :=
  match readValue kind value, runtime.findSet handle with
  | some value, some set =>
      if set.kind ≠ kind ∨ output.one = false then (runtime, .failed)
      else
        let kept := set.values.filter fun candidate => !valuesEqual text set.kind candidate value
        (runtime.setSet handle { set with values := kept },
          .wrote (flag (contains text set.kind set.values value)))
  | _, _ => (runtime, .failed)

def setLength (handle : Pointer) (output : Place) : RuntimeContext × Answer :=
  match runtime.findSet handle with
  | none => (runtime, .failed)
  | some set =>
      if 2 ^ 63 ≤ set.values.length ∨ output.one = false then (runtime, .failed)
      else (runtime, .wrote (.i64 (Int64.ofNat set.values.length)))

def setIsEmpty (handle : Pointer) (output : Place) : RuntimeContext × Answer :=
  match runtime.findSet handle with
  | none => (runtime, .failed)
  | some set =>
      if output.one = false then (runtime, .failed)
      else (runtime, .wrote (flag set.values.isEmpty))

def setAlgebra (left right : Pointer)
    (operation : ValueKind → List RuntimeValue → List RuntimeValue → List RuntimeValue) :
    RuntimeContext × Answer :=
  match runtime.findSet left, runtime.findSet right with
  | some left, some right =>
      if left.kind ≠ right.kind then (runtime, .failed)
      else runtime.storeSet left.kind (operation left.kind left.values right.values)
  | _, _ => (runtime, .failed)

def setUnion (left right : Pointer) : RuntimeContext × Answer :=
  runtime.setAlgebra left right fun kind left right =>
    (left ++ right).foldl (pushUnique text kind) []

def setIntersection (left right : Pointer) : RuntimeContext × Answer :=
  runtime.setAlgebra left right fun kind left right =>
    left.filter fun value => contains text kind right value

def setDifference (left right : Pointer) : RuntimeContext × Answer :=
  runtime.setAlgebra left right fun kind left right =>
    left.filter fun value => !contains text kind right value

def setSymmetricDifference (left right : Pointer) : RuntimeContext × Answer :=
  runtime.setAlgebra left right fun kind left right =>
    (left.filter fun value => !contains text kind right value) ++
      right.filter fun value => !contains text kind left value

def setRelation (left right : Pointer) (output : Place)
    (relation : ValueKind → List RuntimeValue → List RuntimeValue → Bool) :
    RuntimeContext × Answer :=
  match runtime.findSet left, runtime.findSet right with
  | some left, some right =>
      if left.kind ≠ right.kind ∨ output.one = false then (runtime, .failed)
      else (runtime, .wrote (flag (relation left.kind left.values right.values)))
  | _, _ => (runtime, .failed)

def setIsSubset (left right : Pointer) (output : Place) : RuntimeContext × Answer :=
  runtime.setRelation left right output fun kind left right =>
    left.all fun value => contains text kind right value

def setIsSuperset (left right : Pointer) (output : Place) : RuntimeContext × Answer :=
  runtime.setRelation left right output fun kind left right =>
    right.all fun value => contains text kind left value

end RuntimeContext

inductive CollectionCall
  | arrayNew (kind : ValueKind)
  | arrayPush (array : Pointer) (kind : ValueKind) (value : Cell)
  | mapNew (keyKind valueKind : ValueKind)
  | mapPut (map : Pointer) (keyKind : ValueKind) (key : Cell) (valueKind : ValueKind)
      (value : Cell)
  | aggregateSetIndexPtrI64 (aggregate key : Pointer) (value : Int64)
  | mapOption (map : Pointer) (keyKind : ValueKind) (key : Cell) (valueKind : ValueKind)
  | mapGet (map : Pointer) (keyKind : ValueKind) (key : Cell) (valueKind : ValueKind)
      (output : Place)
  | mapContains (map : Pointer) (keyKind : ValueKind) (key : Cell) (output : Place)
  | mapDelete (map : Pointer) (keyKind : ValueKind) (key : Cell) (output : Place)
  | mapLength (map : Pointer) (output : Place)
  | mapIsEmpty (map : Pointer) (output : Place)
  | mapKeys (map : Pointer)
  | mapValues (map : Pointer)
  | setNew (kind : ValueKind)
  | setAdd (set : Pointer) (kind : ValueKind) (value : Cell)
  | setFromArray (array : Pointer)
  | arrayFromSet (set : Pointer)
  | setContains (set : Pointer) (kind : ValueKind) (value : Cell) (output : Place)
  | setDelete (set : Pointer) (kind : ValueKind) (value : Cell) (output : Place)
  | setLength (set : Pointer) (output : Place)
  | setIsEmpty (set : Pointer) (output : Place)
  | setUnion (left right : Pointer)
  | setIntersection (left right : Pointer)
  | setDifference (left right : Pointer)
  | setSymmetricDifference (left right : Pointer)
  | setIsSubset (left right : Pointer) (output : Place)
  | setIsSuperset (left right : Pointer) (output : Place)

def RuntimeContext.collection (runtime : RuntimeContext) (text : Texts) :
    CollectionCall → RuntimeContext × Answer
  | .arrayNew kind => runtime.arrayNew kind
  | .arrayPush array kind value => runtime.arrayPush array kind value
  | .mapNew keyKind valueKind => runtime.mapNew keyKind valueKind
  | .mapPut map keyKind key valueKind value => runtime.mapPut text map keyKind key valueKind value
  | .aggregateSetIndexPtrI64 aggregate key value =>
      runtime.aggregateSetIndexPtrI64 text aggregate key value
  | .mapOption map keyKind key valueKind => runtime.mapOption text map keyKind key valueKind
  | .mapGet map keyKind key valueKind output => runtime.mapGet text map keyKind key valueKind output
  | .mapContains map keyKind key output => runtime.mapContains text map keyKind key output
  | .mapDelete map keyKind key output => runtime.mapDelete text map keyKind key output
  | .mapLength map output => runtime.mapLength map output
  | .mapIsEmpty map output => runtime.mapIsEmpty map output
  | .mapKeys map => runtime.mapKeys map
  | .mapValues map => runtime.mapValues map
  | .setNew kind => runtime.setNew kind
  | .setAdd set kind value => runtime.setAdd text set kind value
  | .setFromArray array => runtime.setFromArray text array
  | .arrayFromSet set => runtime.arrayFromSet set
  | .setContains set kind value output => runtime.setContains text set kind value output
  | .setDelete set kind value output => runtime.setDelete text set kind value output
  | .setLength set output => runtime.setLength set output
  | .setIsEmpty set output => runtime.setIsEmpty set output
  | .setUnion left right => runtime.setUnion text left right
  | .setIntersection left right => runtime.setIntersection text left right
  | .setDifference left right => runtime.setDifference text left right
  | .setSymmetricDifference left right => runtime.setSymmetricDifference text left right
  | .setIsSubset left right output => runtime.setIsSubset text left right output
  | .setIsSuperset left right output => runtime.setIsSuperset text left right output

end FaberRuntime.Host
