import FaberRuntime.Host.Array
import FaberRuntime.Host.CollectionRefinement

namespace FaberRuntime.Host

/-! Arrays made from maps and sets, as their readers see them: pointer-carried elements are read
under the plain pointer kind. -/

/-- The answer is an array that reads back as these values, at every index and at no other. -/
def ReadsBack (made : RuntimeContext × Answer) (kind : ValueKind) (values : List RuntimeValue) :
    Prop :=
  ∃ handle, made.2 = .made handle ∧
    ∀ index output, (∀ value ∈ values, writeValue value output = true) →
      (made.1.arrayGet handle index kind output).2 =
        (((indexOf index).bind (values[·]?)).elim .failed .wrote : Answer)

def TextList (text : Texts) (array : RuntimeArray) : Prop :=
  array.kind = .ptr ∧
    ∀ value ∈ array.values, ∃ pointer, value = .ptr pointer ∧ (text pointer).isSome = true

def HoldsTexts (text : Texts) (made : RuntimeContext × Answer) (array : RuntimeArray) : Prop :=
  ∃ handle set, made.2 = .made handle ∧ made.1.findSet handle = some set ∧
    (set.values.map (keyOf text .text)).Nodup ∧
    ∀ key, key ∈ set.values.map (keyOf text .text) ↔ key ∈ array.values.map (keyOf text .text)

structure SnapshotsReadBack (text : Texts) (runtime : RuntimeContext) : Prop where
  keys : ∀ handle map, runtime.findMap handle = some map →
    ReadsBack (runtime.mapKeys handle) (canonicalArrayElementKind map.keyKind)
      (map.entries.map Prod.fst)
  values : ∀ handle map, runtime.findMap handle = some map →
    ReadsBack (runtime.mapValues handle) (canonicalArrayElementKind map.valueKind)
      (map.entries.map Prod.snd)
  members : ∀ handle set, runtime.findSet handle = some set →
    ReadsBack (runtime.arrayFromSet handle) (canonicalArrayElementKind set.kind) set.values
  texts : ∀ handle array, runtime.findArray handle = some array → TextList text array →
    HoldsTexts text (runtime.setFromArray text handle) array

/-- No set of a pointer-carried kind other than the plain one has a member. -/
def PlainSets (runtime : RuntimeContext) : Prop :=
  ∀ handle set, runtime.findSet handle = some set →
    set.values = [] ∨ canonicalArrayElementKind set.kind = set.kind

/-- No text list has one text behind two descriptors. -/
def SingleDescriptors (text : Texts) (runtime : RuntimeContext) : Prop :=
  ∀ handle array, runtime.findArray handle = some array → TextList text array →
    ∀ first ∈ array.values, ∀ second ∈ array.values,
      keyOf text .text first = keyOf text .text second → first = second

variable (text : Texts) (runtime : RuntimeContext)

theorem findArray_storeArray (kind : ValueKind) (values : List RuntimeValue) :
    (runtime.storeArray kind values).1.findArray (.box .arrays runtime.arrays.length) =
      some ⟨kind, values⟩ := by
  simp [RuntimeContext.storeArray, RuntimeContext.findArray]

theorem findSet_stored (kind : ValueKind) (values : List RuntimeValue) :
    (runtime.storeSet kind values).1.findSet (.box .sets runtime.sets.length) =
      some ⟨kind, values⟩ := by
  simp [RuntimeContext.storeSet, RuntimeContext.findSet]

theorem stored_readsBack_iff (kind asked : ValueKind) (values : List RuntimeValue) :
    ReadsBack (runtime.storeArray kind values) asked values ↔ values = [] ∨ asked = kind := by
  have found := findArray_storeArray runtime kind values
  have read : ∀ index output value, (indexOf index).bind (values[·]?) = some value →
      ((runtime.storeArray kind values).1.arrayGet (.box .arrays runtime.arrays.length) index
        asked output).2 =
      if kind = asked ∧ writeValue value output = true then .wrote value else .failed := by
    intro index output value element
    rw [RuntimeContext.arrayGet_element _ _ _ _ _ _ _ found element]
  constructor
  · rintro ⟨handle, made, reads⟩
    cases made
    rcases values with _ | ⟨first, rest⟩
    · exact Or.inl rfl
    · right
      have element : (indexOf 0).bind ((first :: rest)[·]?) = some first := rfl
      have at_first := reads 0 ⟨true, true, true, true, true⟩
        (fun value _ => by cases value <;> rfl)
      rw [read _ _ _ element, element] at at_first
      by_contra differs
      simp [Ne.symm differs] at at_first
  · rintro agrees
    refine ⟨_, rfl, ?_⟩
    intro index output takes
    rcases element : (indexOf index).bind (values[·]?) with _ | value
    · unfold RuntimeContext.arrayGet
      simp only [found, element]
      rfl
    · rw [read _ _ _ element]
      have member : value ∈ values := by
        rcases Option.bind_eq_some_iff.mp element with ⟨position, _, at_position⟩
        exact List.mem_of_getElem? at_position
      rcases agrees with rfl | rfl
      · cases member
      · simp [takes value member]

theorem valuesEqual_ptr (first second : Pointer) :
    valuesEqual text .ptr (.ptr first) (.ptr second) = decide (first = second) := by
  simp [valuesEqual, RuntimeValue.eq]

def IsPointer (value : RuntimeValue) : Prop := ∃ pointer, value = .ptr pointer

theorem contains_ptr (values : List RuntimeValue) (value : RuntimeValue)
    (pointers : ∀ held ∈ values, IsPointer held) (pointer : IsPointer value) :
    contains text .ptr values value = true ↔ value ∈ values := by
  rcases pointer with ⟨wanted, rfl⟩
  unfold contains
  rw [List.any_eq_true]
  constructor
  · rintro ⟨held, member, equal⟩
    rcases pointers held member with ⟨pointer, rfl⟩
    rw [valuesEqual_ptr, decide_eq_true_eq] at equal
    rwa [← equal]
  · intro member
    exact ⟨_, member, by simp [valuesEqual_ptr]⟩

theorem pushUnique_fold (values : List RuntimeValue) : ∀ held : List RuntimeValue,
    (∀ value ∈ values, IsPointer value) → (∀ value ∈ held, IsPointer value) → held.Nodup →
    (values.foldl (pushUnique text .ptr) held).Nodup ∧
      ∀ value, value ∈ values.foldl (pushUnique text .ptr) held ↔
        value ∈ held ∨ value ∈ values := by
  induction values with
  | nil =>
      intro held _ _ distinct
      exact ⟨distinct, by simp⟩
  | cons first rest ih =>
      intro held pointers held_pointers distinct
      rw [List.forall_mem_cons] at pointers
      have present := contains_ptr text held first held_pointers pointers.1
      rw [List.foldl_cons]
      by_cases known : first ∈ held
      · have skipped : pushUnique text .ptr held first = held := by
          unfold pushUnique
          rw [if_pos (present.mpr known)]
        rw [skipped]
        have later := ih held pointers.2 held_pointers distinct
        refine ⟨later.1, fun value => ?_⟩
        rw [later.2 value, List.mem_cons]
        constructor
        · rintro (old | new)
          · exact Or.inl old
          · exact Or.inr (Or.inr new)
        · rintro (old | rfl | new)
          · exact Or.inl old
          · exact Or.inl known
          · exact Or.inr new
      · have pushed : pushUnique text .ptr held first = held ++ [first] := by
          unfold pushUnique
          rw [if_neg (fun found => known (present.mp found))]
        rw [pushed]
        have later := ih (held ++ [first]) pointers.2
          (by
            intro value member
            rcases List.mem_append.mp member with old | new
            · exact held_pointers value old
            · rw [List.mem_singleton.mp new]
              exact pointers.1)
          (by
            rw [List.nodup_append]
            refine ⟨distinct, List.nodup_singleton first, ?_⟩
            rintro value old other new rfl
            exact known (List.mem_singleton.mp new ▸ old))
        refine ⟨later.1, fun value => ?_⟩
        rw [later.2 value, List.mem_append, List.mem_singleton, List.mem_cons, or_assoc]

theorem setFromArray_texts_iff (handle : Pointer) (array : RuntimeArray)
    (found : runtime.findArray handle = some array) (texts : TextList text array) :
    HoldsTexts text (runtime.setFromArray text handle) array ↔
      ∀ first ∈ array.values, ∀ second ∈ array.values,
        keyOf text .text first = keyOf text .text second → first = second := by
  have pointers : ∀ value ∈ array.values, IsPointer value := by
    intro value member
    rcases texts.2 value member with ⟨pointer, rfl, _⟩
    exact ⟨pointer, rfl⟩
  have made : runtime.setFromArray text handle =
      runtime.storeSet .ptr (array.values.foldl (pushUnique text .ptr) []) := by
    unfold RuntimeContext.setFromArray
    simp only [found, texts.1]
  have unique := pushUnique_fold text array.values [] pointers (by simp) List.nodup_nil
  have members : ∀ value,
      value ∈ array.values.foldl (pushUnique text .ptr) [] ↔ value ∈ array.values := by
    intro value
    rw [unique.2 value]
    simp
  have stored := findSet_stored runtime .ptr (array.values.foldl (pushUnique text .ptr) [])
  rw [made]
  constructor
  · rintro ⟨box, set, boxed, held, distinct, _⟩ first first_member second second_member same
    cases boxed
    rw [stored] at held
    cases held
    exact List.inj_on_of_nodup_map distinct ((members first).mpr first_member)
      ((members second).mpr second_member) same
  · intro single
    refine ⟨_, _, rfl, stored, ?_, ?_⟩
    · refine unique.1.map_on ?_
      intro first first_member second second_member same
      exact single first ((members first).mp first_member) second
        ((members second).mp second_member) same
    · intro key
      simp only [List.mem_map, members]

/-- Snapshots read back exactly when no set of pointer-carried kind has a member and no text list
repeats a text. -/
theorem snapshots_read_back_iff :
    SnapshotsReadBack text runtime ↔ PlainSets runtime ∧ SingleDescriptors text runtime := by
  have set_iff : ∀ handle set, runtime.findSet handle = some set →
      (ReadsBack (runtime.arrayFromSet handle) (canonicalArrayElementKind set.kind) set.values ↔
        set.values = [] ∨ canonicalArrayElementKind set.kind = set.kind) := by
    intro handle set found
    have made : runtime.arrayFromSet handle = runtime.storeArray set.kind set.values := by
      unfold RuntimeContext.arrayFromSet
      rw [found]
    rw [made]
    exact stored_readsBack_iff runtime set.kind _ set.values
  constructor
  · intro reads
    constructor
    · intro handle set found
      exact (set_iff handle set found).mp (reads.members handle set found)
    · intro handle array found texts
      exact (setFromArray_texts_iff text runtime handle array found texts).mp
        (reads.texts handle array found texts)
  · rintro ⟨plain, single⟩
    constructor
    · intro handle map found
      have made : runtime.mapKeys handle = runtime.storeArray
          (canonicalArrayElementKind map.keyKind) (map.entries.map Prod.fst) := by
        unfold RuntimeContext.mapKeys
        rw [found]
      rw [made]
      exact (stored_readsBack_iff runtime _ _ _).mpr (Or.inr rfl)
    · intro handle map found
      have made : runtime.mapValues handle = runtime.storeArray
          (canonicalArrayElementKind map.valueKind) (map.entries.map Prod.snd) := by
        unfold RuntimeContext.mapValues
        rw [found]
      rw [made]
      exact (stored_readsBack_iff runtime _ _ _).mpr (Or.inr rfl)
    · intro handle set found
      exact (set_iff handle set found).mpr (plain handle set found)
    · intro handle array found texts
      exact (setFromArray_texts_iff text runtime handle array found texts).mpr
        (single handle array found texts)

/-- One text in a set of texts: its array cannot be read under the plain pointer kind. -/
def textSet : RuntimeContext := (RuntimeContext.new.storeSet .text [.ptr (.raw 8)]).1

def repeatedTexts : RuntimeContext :=
  (RuntimeContext.new.storeArray .ptr [.ptr (.raw 8), .ptr (.raw 24)]).1

def sameText : Texts := fun _ => some [97]

theorem text_snapshots_fail :
    ¬SnapshotsReadBack sameText textSet ∧ ¬SnapshotsReadBack sameText repeatedTexts := by
  constructor
  · intro reads
    have made : textSet.arrayFromSet (.box .sets 0) = textSet.storeArray .text [.ptr (.raw 8)] :=
      rfl
    have back := reads.members (.box .sets 0) ⟨.text, [.ptr (.raw 8)]⟩ rfl
    rw [made, stored_readsBack_iff] at back
    revert back
    decide
  · intro reads
    have texts : TextList sameText ⟨.ptr, [.ptr (.raw 8), .ptr (.raw 24)]⟩ := by
      refine ⟨rfl, ?_⟩
      simp [sameText]
    have held := reads.texts (.box .arrays 0) _ rfl texts
    rw [setFromArray_texts_iff _ _ _ _ rfl texts] at held
    have same := held (.ptr (.raw 8)) (by simp) (.ptr (.raw 24)) (by simp) rfl
    revert same
    decide

end FaberRuntime.Host
