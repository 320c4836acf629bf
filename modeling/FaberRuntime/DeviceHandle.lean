import FaberRuntime.Host.ValorGenus
import FaberRuntime.Json.Parser

namespace FaberRuntime.Device

open FaberRuntime.Frame (stringFromValor)
open FaberRuntime.Host (integerFromValor)
open FaberRuntime.Json (insertField)

/-! Handles of device objects, and the control frames that carry them. -/

inductive DeviceBackend
  | metal
  | cuda
  deriving DecidableEq

namespace DeviceBackend

def spelling : DeviceBackend → String
  | metal => "metal"
  | cuda => "cuda"

def fromSpelling (spelling : String) : Option DeviceBackend :=
  if spelling = "metal" then some metal
  else if spelling = "cuda" then some cuda
  else none

theorem fromSpelling_iff (text : String) (backend : DeviceBackend) :
    fromSpelling text = some backend ↔ text = backend.spelling := by
  rw [fromSpelling]
  cases backend with
  | metal =>
      split_ifs with first second
      · exact ⟨fun _ => first, fun _ => rfl⟩
      · exact ⟨nofun, fun same => absurd same first⟩
      · exact ⟨nofun, fun same => absurd same first⟩
  | cuda =>
      split_ifs with first second
      · refine ⟨nofun, fun same => ?_⟩
        rw [first] at same
        exact absurd same (by decide)
      · exact ⟨fun _ => second, fun _ => rfl⟩
      · exact ⟨nofun, fun same => absurd same second⟩

end DeviceBackend

inductive DeviceHandleKind
  | module
  | buffer (lenBytes : UInt64)
  deriving DecidableEq

def DeviceHandleKind.spelling : DeviceHandleKind → String
  | module => "module"
  | buffer _ => "buffer"

theorem DeviceHandleKind.buffer_spelling (lenBytes : UInt64) :
    (buffer lenBytes).spelling ≠ "module" := by
  intro same
  exact absurd (show "buffer" = "module" from same) (by decide)

structure DeviceHandle where
  backend : DeviceBackend
  kind : DeviceHandleKind
  id : UInt64
  deriving DecidableEq

def DeviceHandle.lenBytes (handle : DeviceHandle) : Option UInt64 :=
  match handle.kind with
  | .module => none
  | .buffer lenBytes => some lenBytes

variable {F : Type}

def toValor (handle : DeviceHandle) : Valor F :=
  let fields := (insertField "device_backend" (.textus handle.backend.spelling) []).1
  let fields := (insertField "device_kind" (.textus handle.kind.spelling) fields).1
  let fields := (insertField "device_id" (.numerus handle.id.toInt64) fields).1
  match handle.lenBytes with
  | some lenBytes => .tabula (insertField "len_bytes" (.numerus lenBytes.toInt64) fields).1
  | none => .tabula fields

def u64TryFrom (value : Int64) : Option UInt64 :=
  if 0 ≤ value then some value.toUInt64 else none

def isOcteti : Valor F → Bool
  | .octeti _ => true
  | _ => false

def field {α : Type} (fields : List (String × Valor F)) (name : String)
    (convert : Valor F → Option α) : Option α :=
  (fields.lookup name).bind convert

def fromValor : Valor F → Option DeviceHandle
  | .tabula fields =>
      if fields.any fun field => isOcteti field.2 then none
      else do
        let backendSpelling ← field fields "device_backend" stringFromValor
        let backend ← DeviceBackend.fromSpelling backendSpelling
        let id ← u64TryFrom (← field fields "device_id" integerFromValor)
        let kind ← field fields "device_kind" stringFromValor
        if kind = "module" then some ⟨backend, .module, id⟩
        else if kind = "buffer" then do
          let lenBytes ← u64TryFrom (← field fields "len_bytes" integerFromValor)
          some ⟨backend, .buffer lenBytes, id⟩
        else none
  | _ => none

/-- The fields of the frame of a handle, in key order. -/
def identifiers (handle : DeviceHandle) : List (String × Valor F) :=
  [("device_backend", .textus handle.backend.spelling),
    ("device_id", .numerus handle.id.toInt64),
    ("device_kind", .textus handle.kind.spelling)] ++
    handle.lenBytes.toList.map fun lenBytes => ("len_bytes", .numerus lenBytes.toInt64)

theorem toValor_eq (handle : DeviceHandle) :
    (toValor handle : Valor F) = .tabula (identifiers handle) := by
  have kind_backend : ¬"device_kind" < "device_backend" ∧ "device_kind" ≠ "device_backend" := by
    decide
  have id_backend : ¬"device_id" < "device_backend" ∧ "device_id" ≠ "device_backend" := by decide
  have id_kind : "device_id" < "device_kind" := by decide
  have len_backend : ¬"len_bytes" < "device_backend" ∧ "len_bytes" ≠ "device_backend" := by decide
  have len_id : ¬"len_bytes" < "device_id" ∧ "len_bytes" ≠ "device_id" := by decide
  have len_kind : ¬"len_bytes" < "device_kind" ∧ "len_bytes" ≠ "device_kind" := by decide
  obtain ⟨backend, kind, id⟩ := handle
  cases kind <;>
    simp only [toValor, identifiers, DeviceHandle.lenBytes, insertField, kind_backend, id_backend,
      id_kind, len_backend, len_id, len_kind, if_true, if_false, Option.toList, List.map,
      List.append_nil, List.cons_append, List.nil_append]

/-- The 64-bit fields fit the signed integers of the frame. -/
def Small (handle : DeviceHandle) : Prop :=
  handle.id.toNat < 2 ^ 63 ∧ ∀ lenBytes ∈ handle.lenBytes, lenBytes.toNat < 2 ^ 63

theorem toInt64_nonneg_iff (word : UInt64) : 0 ≤ word.toInt64 ↔ word.toNat < 2 ^ 63 := by
  rw [Int64.le_iff_toInt_le]
  have limit := word.toNat_lt
  have signed : word.toInt64.toInt =
      if 2 * word.toNat < 2 ^ 64 then (word.toNat : Int) else (word.toNat : Int) - 2 ^ 64 :=
    BitVec.toInt_eq_toNat_cond word.toBitVec
  have zero : (0 : Int64).toInt = 0 := rfl
  rw [zero, signed]
  split_ifs <;> omega

theorem u64TryFrom_toInt64 (word : UInt64) :
    u64TryFrom word.toInt64 = if word.toNat < 2 ^ 63 then some word else none := by
  rw [u64TryFrom, UInt64.toUInt64_toInt64]
  exact if_congr (toInt64_nonneg_iff word) rfl rfl

theorem u64TryFrom_iff (value : Int64) (word : UInt64) :
    u64TryFrom value = some word ↔ word.toNat < 2 ^ 63 ∧ value = word.toInt64 := by
  constructor
  · intro read
    rw [u64TryFrom] at read
    split_ifs at read with nonnegative
    cases read
    exact ⟨(toInt64_nonneg_iff _).mp nonnegative, (Int64.toInt64_toUInt64 value).symm⟩
  · rintro ⟨small, rfl⟩
    rw [u64TryFrom_toInt64, if_pos small]

def SameContent (found wanted : Valor F) : Prop :=
  stringFromValor found = stringFromValor wanted ∧ integerFromValor found = integerFromValor wanted

/-- The identifiers of a handle are among the fields. -/
def Carries (fields : List (String × Valor F)) (handle : DeviceHandle) : Prop :=
  ∀ wanted ∈ (identifiers handle : List (String × Valor F)),
    ∃ found, fields.lookup wanted.1 = some found ∧ SameContent found wanted.2

theorem sameContent_textus (found : Valor F) (text : String) :
    SameContent found (.textus text) ↔ stringFromValor found = some text := by
  constructor
  · exact fun same => same.1
  · intro read
    refine ⟨read, ?_⟩
    cases found with
    | numerus value => cases read
    | _ => rfl

theorem sameContent_numerus (found : Valor F) (value : Int64) :
    SameContent found (.numerus value) ↔ integerFromValor found = some value := by
  constructor
  · exact fun same => same.2
  · intro read
    refine ⟨?_, read⟩
    cases found with
    | numerus value => rfl
    | textus text => cases read
    | instans text => cases read
    | _ => rfl

theorem field_iff {α : Type} (fields : List (String × Valor F)) (name : String)
    (convert : Valor F → Option α) (value : α) :
    field fields name convert = some value ↔
      ∃ found, fields.lookup name = some found ∧ convert found = some value :=
  Option.bind_eq_some_iff

theorem carries_iff (fields : List (String × Valor F)) (handle : DeviceHandle) :
    Carries fields handle ↔
      field fields "device_backend" stringFromValor = some handle.backend.spelling ∧
      field fields "device_id" integerFromValor = some handle.id.toInt64 ∧
      field fields "device_kind" stringFromValor = some handle.kind.spelling ∧
      ∀ lenBytes ∈ handle.lenBytes,
        field fields "len_bytes" integerFromValor = some lenBytes.toInt64 := by
  simp only [field_iff, Carries, identifiers, List.forall_mem_append, List.forall_mem_cons,
    List.forall_mem_map, sameContent_textus, sameContent_numerus, Option.mem_toList, Option.mem_def]
  simp only [List.not_mem_nil, false_implies, implies_true, and_true, and_assoc]

/-- A frame is accepted as a handle exactly when it has no bytes among its fields and carries the
identifiers of the handle, which fit their integers. -/
theorem fromValor_iff (value : Valor F) (handle : DeviceHandle) :
    fromValor value = some handle ↔
      ∃ fields, value = .tabula fields ∧ (∀ field ∈ fields, isOcteti field.2 = false) ∧
        Small handle ∧ Carries fields handle := by
  constructor
  · intro accepted
    cases value with
    | tabula fields =>
        rw [fromValor] at accepted
        by_cases payload : fields.any (fun field => isOcteti field.2) = true
        · rw [if_pos payload] at accepted
          cases accepted
        rw [if_neg payload] at accepted
        obtain ⟨spelling, backend_read, spelled_frame⟩ := Option.bind_eq_some_iff.mp accepted
        obtain ⟨backend, spelled, id_frame⟩ := Option.bind_eq_some_iff.mp spelled_frame
        obtain ⟨value, id_read, fitting_frame⟩ := Option.bind_eq_some_iff.mp id_frame
        obtain ⟨id, id_fits, kind_frame⟩ := Option.bind_eq_some_iff.mp fitting_frame
        obtain ⟨kind, kind_read, made⟩ := Option.bind_eq_some_iff.mp kind_frame
        rw [DeviceBackend.fromSpelling_iff] at spelled
        rw [u64TryFrom_iff] at id_fits
        obtain ⟨id_small, rfl⟩ := id_fits
        subst spelled
        have bytes : ∀ field ∈ fields, isOcteti field.2 = false := by
          intro field member
          by_contra octeti
          exact payload (List.any_eq_true.mpr ⟨field, member, by simpa using octeti⟩)
        by_cases compiled : kind = "module"
        · rw [if_pos compiled] at made
          cases made
          subst compiled
          refine ⟨fields, rfl, bytes, ⟨id_small, nofun⟩, (carries_iff fields _).mpr ?_⟩
          exact ⟨backend_read, id_read, kind_read, nofun⟩
        rw [if_neg compiled] at made
        by_cases buffer : kind = "buffer"
        · rw [if_pos buffer] at made
          obtain ⟨length, length_read, length_frame⟩ := Option.bind_eq_some_iff.mp made
          obtain ⟨lenBytes, length_fits, handled⟩ := Option.bind_eq_some_iff.mp length_frame
          cases handled
          rw [u64TryFrom_iff] at length_fits
          obtain ⟨length_small, rfl⟩ := length_fits
          subst buffer
          refine ⟨fields, rfl, bytes, ⟨id_small, ?_⟩, (carries_iff fields _).mpr ?_⟩
          · rintro _ ⟨⟩
            exact length_small
          · refine ⟨backend_read, id_read, kind_read, ?_⟩
            rintro _ ⟨⟩
            exact length_read
        · rw [if_neg buffer] at made
          cases made
    | _ => cases accepted
  · rintro ⟨fields, rfl, bytes, ⟨id_small, length_small⟩, carries⟩
    rw [carries_iff] at carries
    obtain ⟨backend_read, id_read, kind_read, length_read⟩ := carries
    have payload : ¬fields.any (fun field => isOcteti field.2) = true := by
      rw [List.any_eq_true]
      rintro ⟨field, member, octeti⟩
      rw [bytes field member] at octeti
      cases octeti
    obtain ⟨backend, kind, id⟩ := handle
    rw [fromValor, if_neg payload, backend_read, id_read, kind_read]
    simp only [Option.bind_eq_bind, Option.bind_some]
    rw [(DeviceBackend.fromSpelling_iff _ backend).mpr rfl, Option.bind_some,
      (u64TryFrom_iff _ id).mpr ⟨id_small, rfl⟩, Option.bind_some]
    cases kind with
    | module => rfl
    | buffer lenBytes =>
        have other := DeviceHandleKind.buffer_spelling lenBytes
        have same : DeviceHandleKind.spelling (.buffer lenBytes) = "buffer" := rfl
        rw [if_neg other, if_pos same, length_read lenBytes rfl, Option.bind_some,
          (u64TryFrom_iff _ lenBytes).mpr ⟨length_small lenBytes rfl, rfl⟩, Option.bind_some]

theorem identifiers_carried (handle : DeviceHandle) :
    Carries (identifiers handle : List (String × Valor F)) handle := by
  obtain ⟨backend, kind, id⟩ := handle
  cases kind <;> exact (carries_iff _ _).mpr ⟨rfl, rfl, rfl, by rintro _ ⟨⟩; try rfl⟩

theorem spelling_injective {kind other : DeviceHandleKind}
    (same : kind.spelling = other.spelling) :
    (kind = .module ∧ other = .module) ∨
      ∃ lenBytes otherBytes, kind = .buffer lenBytes ∧ other = .buffer otherBytes := by
  cases kind with
  | module =>
      cases other with
      | module => exact .inl ⟨rfl, rfl⟩
      | buffer lenBytes => exact absurd same.symm (DeviceHandleKind.buffer_spelling lenBytes)
  | buffer lenBytes =>
      cases other with
      | module => exact absurd same (DeviceHandleKind.buffer_spelling lenBytes)
      | buffer otherBytes => exact .inr ⟨lenBytes, otherBytes, rfl, rfl⟩

theorem toInt64_injective {word other : UInt64} (same : word.toInt64 = other.toInt64) :
    word = other := by
  rw [← UInt64.toUInt64_toInt64 word, same, UInt64.toUInt64_toInt64]

theorem carries_unique {fields : List (String × Valor F)} {handle other : DeviceHandle}
    (carries : Carries fields handle) (others : Carries fields other) : other = handle := by
  rw [carries_iff] at carries others
  obtain ⟨backend, kind, id⟩ := handle
  obtain ⟨otherBackend, otherKind, otherId⟩ := other
  obtain ⟨backend_read, id_read, kind_read, length_read⟩ := carries
  obtain ⟨other_backend, other_id, other_kind, other_length⟩ := others
  have same_id : otherId = id :=
    toInt64_injective (Option.some.inj (other_id.symm.trans id_read))
  have same_backend : otherBackend = backend := by
    have spelled := Option.some.inj (other_backend.symm.trans backend_read)
    have first := (DeviceBackend.fromSpelling_iff _ otherBackend).mpr rfl
    rw [spelled, (DeviceBackend.fromSpelling_iff _ backend).mpr rfl] at first
    exact (Option.some.inj first).symm
  have same_kind : otherKind = kind := by
    obtain ⟨rfl, rfl⟩ | ⟨lenBytes, otherBytes, rfl, rfl⟩ :=
      spelling_injective (Option.some.inj (kind_read.symm.trans other_kind))
    · rfl
    · have same := Option.some.inj
        ((other_length otherBytes rfl).symm.trans (length_read lenBytes rfl))
      rw [toInt64_injective same]
  rw [same_id, same_backend, same_kind]

theorem identifiers_without_bytes (handle : DeviceHandle) :
    ∀ field ∈ (identifiers handle : List (String × Valor F)), isOcteti field.2 = false := by
  simp only [identifiers, List.forall_mem_append, List.forall_mem_cons, List.forall_mem_map]
  exact ⟨⟨rfl, rfl, rfl, nofun⟩, fun _ _ => rfl⟩

def IsScalar : Valor F → Prop
  | .octeti _ => False
  | .lista _ => False
  | .tabula _ => False
  | _ => True

theorem IsScalar.not_octeti {value : Valor F} (scalar : IsScalar value) :
    isOcteti value = false := by
  cases value with
  | octeti bytes => exact scalar.elim
  | _ => rfl

/-- A handle comes back when its fields fit their integers and not otherwise; an accepted frame
carries the identifiers of its handle, and a frame of scalars that carries them is accepted. -/
theorem handles_survive :
    (∀ handle, Small handle → fromValor (toValor handle : Valor F) = some handle) ∧
    (∀ handle, ¬Small handle → fromValor (toValor handle : Valor F) = none) ∧
    (∀ (value : Valor F) handle, fromValor value = some handle →
      ∃ fields, value = .tabula fields ∧ (∀ field ∈ fields, isOcteti field.2 = false) ∧
        Small handle ∧ Carries fields handle) ∧
    (∀ (fields : List (String × Valor F)) handle, (∀ field ∈ fields, IsScalar field.2) →
      Small handle → Carries fields handle → fromValor (.tabula fields) = some handle) := by
  refine ⟨?_, ?_, fun value handle => (fromValor_iff value handle).mp, ?_⟩
  · intro handle small
    rw [toValor_eq]
    exact (fromValor_iff _ handle).mpr ⟨_, rfl, identifiers_without_bytes handle, small,
      identifiers_carried handle⟩
  · intro handle large
    rw [toValor_eq]
    rcases read : fromValor (.tabula (identifiers handle : List (String × Valor F)))
      with _ | other
    · rfl
    · exfalso
      obtain ⟨fields, same, _, small, carries⟩ := (fromValor_iff _ other).mp read
      cases same
      exact large (carries_unique (identifiers_carried handle) carries ▸ small)
  · intro fields handle scalars small carries
    exact (fromValor_iff _ handle).mpr ⟨fields, rfl,
      fun field member => (scalars field member).not_octeti, small, carries⟩

/-- An identifier from 2^63 on does not come back, and a frame with a field more than the
identifiers is accepted. -/
theorem wide_handle_lost :
    (fromValor (toValor ⟨.cuda, .module, 9223372036854775808⟩ : Valor UInt64) = none) ∧
    (fromValor (.tabula (("note", .nihil) :: identifiers ⟨.cuda, .module, 1⟩) : Valor UInt64) =
      some ⟨.cuda, .module, 1⟩) ∧
    ∀ handle, (toValor handle : Valor UInt64) ≠
      .tabula (("note", .nihil) :: identifiers ⟨.cuda, .module, 1⟩) := by
  refine ⟨by decide, by decide, fun handle same => ?_⟩
  rw [toValor_eq, identifiers] at same
  injection same with fields
  injection fields with first
  have name : "device_backend" = "note" := congrArg Prod.fst first
  exact absurd name (by decide)

end FaberRuntime.Device
