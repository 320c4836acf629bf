import FaberRuntime.Foundation.Word

/-! Keyed accumulation into an ordered map: `*entry(key).or_insert(0) += amount`, with wrapping
addition, and a fold of keyed insertions. -/

namespace FaberRuntime

open Std

universe u v

section Tally

variable {α : Type u} [Ord α] [TransOrd α] [LawfulEqOrd α] [DecidableEq α]

def charge (tally : BTreeMap α UInt64) (key : α) (amount : UInt64) : BTreeMap α UInt64 :=
  tally.insert key (tally.getD key 0 + amount)

def chargeAll (tally : BTreeMap α UInt64) (entries : List (α × UInt64)) : BTreeMap α UInt64 :=
  entries.foldl (fun tally entry => charge tally entry.1 entry.2) tally

def chargesTo (key : α) (entries : List (α × UInt64)) : List UInt64 :=
  (entries.filter (fun entry => entry.1 = key)).map Prod.snd

theorem charge_getD (tally : BTreeMap α UInt64) (key other : α) (amount : UInt64) :
    (charge tally key amount).getD other 0 =
      if key = other then tally.getD other 0 + amount else tally.getD other 0 := by
  unfold charge
  rw [ExtTreeMap.getD_insert]
  by_cases same : key = other
  · subst same
    simp
  · rw [if_neg same, if_neg]
    intro equal
    exact same (LawfulEqCmp.eq_of_compare equal)

theorem chargeAll_getD (tally : BTreeMap α UInt64) (entries : List (α × UInt64)) (key : α) :
    (chargeAll tally entries).getD key 0 =
      (chargesTo key entries).foldl (· + ·) (tally.getD key 0) := by
  induction entries generalizing tally with
  | nil => rfl
  | cons entry entries ih =>
      have tail := ih (charge tally entry.1 entry.2)
      rw [charge_getD] at tail
      by_cases same : entry.1 = key
      · simpa [chargeAll, chargesTo, same] using tail
      · simpa [chargeAll, chargesTo, same] using tail

omit [LawfulEqOrd α] [DecidableEq α] in
theorem chargeAll_append (tally : BTreeMap α UInt64) (first second : List (α × UInt64)) :
    chargeAll tally (first ++ second) = chargeAll (chargeAll tally first) second :=
  List.foldl_append

theorem chargeAll_empty_getD (entries : List (α × UInt64)) (key : α) :
    (chargeAll ∅ entries).getD key 0 = wrappingSum (chargesTo key entries) := by
  rw [chargeAll_getD, ExtTreeMap.getD_empty]
  rfl

end Tally

section Inserts

variable {α : Type u} {β : Type v} [Ord α] [TransOrd α] [LawfulEqOrd α]

def insertAll (key : β → α) (map : BTreeMap α β) (values : List β) : BTreeMap α β :=
  values.foldl (fun map value => map.insert (key value) value) map

omit [LawfulEqOrd α] in
theorem insertAll_append (key : β → α) (map : BTreeMap α β) (first second : List β) :
    insertAll key map (first ++ second) = insertAll key (insertAll key map first) second :=
  List.foldl_append

theorem insertAll_getElem? (key : β → α) (map : BTreeMap α β) (values : List β) (slot : α)
    (value : β) (present : (insertAll key map values)[slot]? = some value) :
    (value ∈ values ∧ key value = slot) ∨ map[slot]? = some value := by
  induction values generalizing map with
  | nil => exact Or.inr present
  | cons first values ih =>
      rcases ih (map.insert (key first) first) present with inserted | before
      · exact Or.inl ⟨List.mem_cons_of_mem _ inserted.1, inserted.2⟩
      · rw [ExtTreeMap.getElem?_insert] at before
        split at before
        · rename_i same
          have found : first = value := by simpa using before
          subst found
          exact Or.inl ⟨List.mem_cons_self, LawfulEqCmp.eq_of_compare same⟩
        · exact Or.inr before

theorem mem_insertAll_iff (key : β → α) (map : BTreeMap α β) (values : List β) (slot : α) :
    slot ∈ insertAll key map values ↔ slot ∈ map ∨ ∃ value ∈ values, key value = slot := by
  induction values generalizing map with
  | nil => simp [insertAll]
  | cons first values ih =>
      refine (ih (map.insert (key first) first)).trans ?_
      rw [ExtTreeMap.mem_insert, Std.compare_eq_iff_eq]
      constructor
      · rintro ((same | before) | ⟨value, member, same⟩)
        · exact Or.inr ⟨first, List.mem_cons_self, same⟩
        · exact Or.inl before
        · exact Or.inr ⟨value, List.mem_cons_of_mem _ member, same⟩
      · rintro (before | ⟨value, member, same⟩)
        · exact Or.inl (Or.inr before)
        · rcases List.mem_cons.mp member with rfl | later
          · exact Or.inl (Or.inl same)
          · exact Or.inr ⟨value, later, same⟩

omit [LawfulEqOrd α] in
theorem insertAll_mono (key : β → α) (small large : BTreeMap α β) (values : List β)
    (within : ∀ (slot : α) (value : β), small[slot]? = some value → large[slot]? = some value)
    (slot : α) (value : β) (present : (insertAll key small values)[slot]? = some value) :
    (insertAll key large values)[slot]? = some value := by
  induction values generalizing small large with
  | nil => exact within slot value present
  | cons first values ih =>
      refine ih (small.insert (key first) first) (large.insert (key first) first) ?_ present
      intro slot value found
      rw [ExtTreeMap.getElem?_insert] at found ⊢
      by_cases same : compare (key first) slot = .eq
      · rw [if_pos same] at found ⊢
        exact found
      · rw [if_neg same] at found ⊢
        exact within slot value found

end Inserts

section Collect

variable {α : Type u} {β : Type v} [Ord α] [TransOrd α] [LawfulEqOrd α] [DecidableEq α]

def collect (keys : BTreeSet α) (value : α → β) : BTreeMap α β :=
  keys.toList.foldl (fun map key => map.insert key (value key)) ∅

theorem foldl_insert_getElem? (keys : List α) (value : α → β) (map : BTreeMap α β) (slot : α) :
    (keys.foldl (fun map key => map.insert key (value key)) map)[slot]? =
      if slot ∈ keys then some (value slot) else map[slot]? := by
  induction keys generalizing map with
  | nil => simp
  | cons key keys ih =>
      rw [List.foldl_cons, ih (map.insert key (value key))]
      by_cases later : slot ∈ keys
      · simp [later]
      · by_cases same : key = slot
        · subst same
          simp [later]
        · simp [later, getElem?_insert_of_ne map key slot _ same, Ne.symm same]

theorem collect_getElem? (keys : BTreeSet α) (value : α → β) (slot : α) :
    (collect keys value)[slot]? = if slot ∈ keys then some (value slot) else none := by
  unfold collect
  rw [foldl_insert_getElem?]
  simp only [ExtTreeSet.mem_toList, ExtTreeMap.getElem?_empty]

theorem mem_collect (keys : BTreeSet α) (value : α → β) (slot : α) :
    slot ∈ collect keys value ↔ slot ∈ keys := by
  rw [mem_iff_getElem?, collect_getElem?]
  split <;> simp_all

end Collect

end FaberRuntime

namespace FaberRuntime

open Std

universe u v

section Inserts

variable {α : Type u} {β : Type v} [Ord α] [TransOrd α] [LawfulEqOrd α]

def Indexed (key : β → α) (pool : List β) (map : BTreeMap α β) : Prop :=
  ∀ (slot : α) (value : β), map[slot]? = some value → value ∈ pool ∧ key value = slot

def KeysApart (key : β → α) (pool : List β) : Prop :=
  ∀ a ∈ pool, ∀ b ∈ pool, key a = key b → a = b

omit [Ord α] [TransOrd α] [LawfulEqOrd α] in
theorem keysApart_of_nodup (key : β → α) (pool : List β) (distinct : (pool.map key).Nodup) :
    KeysApart key pool := by
  intro a first b second same
  exact List.inj_on_of_nodup_map distinct first second same

omit [LawfulEqOrd α] in
theorem indexed_empty (key : β → α) (pool : List β) : Indexed key pool (∅ : BTreeMap α β) := by
  intro slot value present
  simp at present

variable (key : β → α) (pool : List β)

theorem insertAll_indexed (map : BTreeMap α β) (values : List β) (indexed : Indexed key pool map)
    (drawn : ∀ value ∈ values, value ∈ pool) : Indexed key pool (insertAll key map values) := by
  intro slot value present
  rcases insertAll_getElem? key map values slot value present with ⟨member, own⟩ | before
  · exact ⟨drawn value member, own⟩
  · exact indexed slot value before

theorem insertAll_keeps (apart : KeysApart key pool) (map : BTreeMap α β) (values : List β)
    (indexed : Indexed key pool map) (drawn : ∀ value ∈ values, value ∈ pool) (slot : α)
    (value : β) (present : map[slot]? = some value) :
    (insertAll key map values)[slot]? = some value := by
  have held : slot ∈ insertAll key map values :=
    (mem_insertAll_iff key map values slot).mpr
      (Or.inl ((mem_iff_getElem? map slot).mpr ⟨value, present⟩))
  rcases (mem_iff_getElem? _ _).mp held with ⟨other, found⟩
  have own := indexed slot value present
  have left := insertAll_indexed key pool map values indexed drawn slot other found
  rw [found, apart other left.1 value own.1 (left.2.trans own.2.symm)]

theorem insertAll_holds (apart : KeysApart key pool) (map : BTreeMap α β) (values : List β)
    (indexed : Indexed key pool map) (drawn : ∀ value ∈ values, value ∈ pool) (value : β)
    (member : value ∈ values) : (insertAll key map values)[key value]? = some value := by
  have held : key value ∈ insertAll key map values :=
    (mem_insertAll_iff key map values (key value)).mpr (Or.inr ⟨value, member, rfl⟩)
  rcases (mem_iff_getElem? _ _).mp held with ⟨other, found⟩
  have left := insertAll_indexed key pool map values indexed drawn (key value) other found
  rw [found, apart other left.1 value (drawn value member) left.2]

theorem size_insertAll (map : BTreeMap α β) (values : List β)
    (distinct : (values.map key).Nodup) (fresh : ∀ value ∈ values, key value ∉ map) :
    (insertAll key map values).size = map.size + values.length := by
  induction values generalizing map with
  | nil => rfl
  | cons first values ih =>
      rw [List.map_cons, List.nodup_cons] at distinct
      have absent : key first ∉ map := fresh first List.mem_cons_self
      have grown : (map.insert (key first) first).size = map.size + 1 := by
        rw [ExtTreeMap.size_insert]
        exact if_neg absent
      have later : ∀ value ∈ values, key value ∉ map.insert (key first) first := by
        intro value member inserted
        rw [ExtTreeMap.mem_insert, Std.compare_eq_iff_eq] at inserted
        rcases inserted with same | before
        · exact distinct.1 (List.mem_map.mpr ⟨value, member, same.symm⟩)
        · exact fresh value (List.mem_cons_of_mem first member) before
      have rest := ih (map.insert (key first) first) distinct.2 later
      rw [grown] at rest
      rw [List.length_cons]
      exact rest.trans (by omega)

end Inserts

end FaberRuntime
