import Mathlib

namespace FaberRuntime

/-! Finite maps that keep the order in which their keys came, and the association lists and lists
of members that stand for maps and sets when each stored value means a key. -/

universe u v w

structure OrderedMap (κ : Type v) (ν : Type w) where
  order : List κ
  find : κ → Option ν
  distinct : order.Nodup
  supported : ∀ key, key ∈ order ↔ (find key).isSome = true

namespace OrderedMap

variable {κ : Type v} {ν : Type w}

def empty : OrderedMap κ ν where
  order := []
  find := fun _ => none
  distinct := List.nodup_nil
  supported := by simp

theorem find_eq_none (map : OrderedMap κ ν) (key : κ) (absent : key ∉ map.order) :
    map.find key = none := by
  rw [map.supported, Bool.not_eq_true, Option.isSome_eq_false_iff, Option.isNone_iff_eq_none]
    at absent
  exact absent

variable [DecidableEq κ]

/-- A key that is already there keeps its position. -/
def insert (map : OrderedMap κ ν) (key : κ) (value : ν) : OrderedMap κ ν where
  order := if key ∈ map.order then map.order else map.order ++ [key]
  find := Function.update map.find key (some value)
  distinct := by
    split
    case isTrue => exact map.distinct
    case isFalse absent =>
      rw [List.nodup_append]
      refine ⟨map.distinct, List.nodup_singleton key, ?_⟩
      intro held member other single same
      rw [List.mem_singleton] at single
      exact absent (single ▸ same ▸ member)
  supported := by
    intro other
    have kept := map.supported other
    rcases eq_or_ne other key with rfl | different
    · split <;> simp_all
    · rw [Function.update_of_ne different, ← kept]
      split <;> simp [different]

def erase (map : OrderedMap κ ν) (key : κ) : OrderedMap κ ν where
  order := map.order.erase key
  find := Function.update map.find key none
  distinct := map.distinct.erase key
  supported := by
    intro other
    rw [map.distinct.mem_erase_iff, map.supported other]
    rcases eq_or_ne other key with rfl | different
    · simp
    · simp [different]

theorem insert_order (map : OrderedMap κ ν) (key : κ) (value : ν) :
    (map.insert key value).order =
      if key ∈ map.order then map.order else map.order ++ [key] := rfl

theorem insert_find (map : OrderedMap κ ν) (key : κ) (value : ν) :
    (map.insert key value).find = Function.update map.find key (some value) := rfl

theorem erase_order (map : OrderedMap κ ν) (key : κ) :
    (map.erase key).order = map.order.erase key := rfl

theorem erase_find (map : OrderedMap κ ν) (key : κ) :
    (map.erase key).find = Function.update map.find key none := rfl

end OrderedMap

section Entries

variable {α : Type u} {κ : Type v} {ν : Type w}

/-- The first entry the predicate selects gets the value; without one an entry is appended. -/
def putEntry (same : α → Bool) (key : α) (value : ν) : List (α × ν) → List (α × ν)
  | [] => [(key, value)]
  | entry :: rest =>
      if same entry.1 = true then (entry.1, value) :: rest
      else entry :: putEntry same key value rest

theorem putEntry_keys (same : α → Bool) (key : α) (value : ν) (entries : List (α × ν)) :
    (putEntry same key value entries).map Prod.fst =
      if entries.any (fun entry => same entry.1) = true then entries.map Prod.fst
      else entries.map Prod.fst ++ [key] := by
  induction entries with
  | nil => simp [putEntry]
  | cons entry rest ih =>
      by_cases chosen : same entry.1 = true
      · simp [putEntry, chosen]
      · simp only [putEntry, chosen, Bool.false_eq_true, if_false, List.map_cons, ih,
          List.any_cons, Bool.false_or]
        split <;> simp

variable (means : α → Option κ)

/-- The stored keys mean the keys of the map in its order, and each is stored with its value. -/
structure Entries (entries : List (α × ν)) (map : OrderedMap κ ν) : Prop where
  keys : entries.map (fun entry => means entry.1) = map.order.map some
  values : ∀ entry ∈ entries, ∀ key, means entry.1 = some key → map.find key = some entry.2

def Selects (stored : List α) (same : α → Bool) (key : κ) : Prop :=
  ∀ value ∈ stored, (same value = true ↔ means value = some key)

theorem entries_empty : Entries means ([] : List (α × ν)) OrderedMap.empty where
  keys := rfl
  values := by simp

namespace Entries

variable {means} {entries : List (α × ν)} {map : OrderedMap κ ν}

theorem length_eq (entries_of : Entries means entries map) :
    entries.length = map.order.length := by
  have lengths := congrArg List.length entries_of.keys
  rwa [List.length_map, List.length_map] at lengths

theorem means_some (entries_of : Entries means entries map) (entry : α × ν)
    (stored : entry ∈ entries) : ∃ key ∈ map.order, means entry.1 = some key := by
  have member := List.mem_map_of_mem (f := fun entry : α × ν => means entry.1) stored
  rw [entries_of.keys, List.mem_map] at member
  rcases member with ⟨key, held, same⟩
  exact ⟨key, held, same.symm⟩

theorem mem_order_iff (entries_of : Entries means entries map) (key : κ) :
    key ∈ map.order ↔ ∃ entry ∈ entries, means entry.1 = some key := by
  have member : key ∈ map.order ↔ some key ∈ map.order.map some := by simp
  rw [member, ← entries_of.keys, List.mem_map]

theorem any_iff (entries_of : Entries means entries map) (same : α → Bool) (key : κ)
    (selects : Selects means (entries.map Prod.fst) same key) :
    entries.any (fun entry => same entry.1) = true ↔ key ∈ map.order := by
  rw [entries_of.mem_order_iff key, List.any_eq_true]
  constructor
  · intro found
    rcases found with ⟨entry, stored, chosen⟩
    exact ⟨entry, stored, (selects entry.1 (List.mem_map_of_mem stored)).mp chosen⟩
  · intro found
    rcases found with ⟨entry, stored, meant⟩
    exact ⟨entry, stored, (selects entry.1 (List.mem_map_of_mem stored)).mpr meant⟩

theorem find_eq (entries_of : Entries means entries map) (same : α → Bool) (key : κ)
    (selects : Selects means (entries.map Prod.fst) same key) :
    (entries.find? fun entry => same entry.1).map Prod.snd = map.find key := by
  cases found : entries.find? fun entry => same entry.1 with
  | none =>
      have absent : key ∉ map.order := by
        rw [← entries_of.any_iff same key selects, List.any_eq_true]
        intro chosen
        rcases chosen with ⟨entry, stored, chosen⟩
        exact List.find?_eq_none.mp found entry stored chosen
      rw [map.find_eq_none key absent]
      rfl
  | some entry =>
      have stored := List.mem_of_find?_eq_some found
      have chosen := List.find?_some found
      have meant := (selects entry.1 (List.mem_map_of_mem stored)).mp chosen
      exact (entries_of.values entry stored key meant).symm

theorem map_values (entries_of : Entries means entries map) :
    map.order.map map.find = entries.map fun entry => some entry.2 := by
  have listed : (map.order.map some).map (fun key => key.bind map.find) =
      (entries.map fun entry => means entry.1).map fun key => key.bind map.find := by
    rw [entries_of.keys]
  rw [List.map_map, List.map_map] at listed
  rw [show map.order.map map.find =
    map.order.map ((fun key : Option κ => key.bind map.find) ∘ some) from rfl, listed]
  apply List.map_congr_left
  intro entry stored
  rcases entries_of.means_some entry stored with ⟨key, _, meant⟩
  rw [Function.comp_apply, meant, Option.bind_some]
  exact entries_of.values entry stored key meant

theorem nodup_means (entries_of : Entries means entries map) :
    (entries.map fun entry => means entry.1).Nodup := by
  rw [entries_of.keys]
  exact map.distinct.map (Option.some_injective κ)

end Entries

theorem putEntry_cases (same : α → Bool) (stored : α) (key : κ) (value : ν)
    (entries : List (α × ν)) (meant : means stored = some key)
    (selects : Selects means (entries.map Prod.fst) same key)
    (distinct : (entries.map fun entry => means entry.1).Nodup)
    (entry : α × ν) (member : entry ∈ putEntry same stored value entries) :
    (means entry.1 = some key ∧ entry.2 = value) ∨
      (means entry.1 ≠ some key ∧ entry ∈ entries) := by
  induction entries with
  | nil =>
      rw [putEntry, List.mem_singleton] at member
      rw [member]
      exact Or.inl ⟨meant, rfl⟩
  | cons first rest ih =>
      rw [List.map_cons, List.nodup_cons] at distinct
      have chosen := selects first.1 (by simp)
      rw [putEntry] at member
      split at member
      case isTrue hit =>
        have first_meant := chosen.mp hit
        rcases List.mem_cons.mp member with now | later
        · rw [now]
          exact Or.inl ⟨first_meant, rfl⟩
        · refine Or.inr ⟨?_, List.mem_cons_of_mem first later⟩
          intro same_key
          apply distinct.1
          rw [first_meant, ← same_key]
          exact List.mem_map_of_mem (f := fun entry : α × ν => means entry.1) later
      case isFalse miss =>
        rcases List.mem_cons.mp member with now | later
        · rw [now]
          exact Or.inr ⟨fun same_key => miss (chosen.mpr same_key), List.mem_cons_self⟩
        · have tail := ih (fun value held => selects value (List.mem_cons_of_mem _ held))
            distinct.2 later
          rcases tail with put | old
          · exact Or.inl put
          · exact Or.inr ⟨old.1, List.mem_cons_of_mem first old.2⟩

section Changes

variable {means} [DecidableEq κ] {entries : List (α × ν)} {map : OrderedMap κ ν}

theorem Entries.put (entries_of : Entries means entries map) (same : α → Bool) (stored : α)
    (key : κ) (value : ν) (meant : means stored = some key)
    (selects : Selects means (entries.map Prod.fst) same key) :
    Entries means (putEntry same stored value entries) (map.insert key value) where
  keys := by
    have keys := congrArg (List.map means) (putEntry_keys same stored value entries)
    rw [List.map_map] at keys
    rw [show (fun entry : α × ν => means entry.1) = means ∘ Prod.fst from rfl, keys]
    have listed : (entries.map Prod.fst).map means = map.order.map some := by
      rw [List.map_map]
      exact entries_of.keys
    simp only [entries_of.any_iff same key selects, OrderedMap.insert_order]
    split
    · exact listed
    · rw [List.map_append, listed, List.map_append, List.map_singleton, meant, List.map_singleton]
  values := by
    intro entry member other meant_other
    have cases := putEntry_cases means same stored key value entries meant selects
      entries_of.nodup_means entry member
    rw [meant_other, ne_eq, Option.some_inj] at cases
    rcases cases with ⟨rfl, now⟩ | ⟨different, old⟩
    · rw [OrderedMap.insert_find, Function.update_self, now]
    · rw [OrderedMap.insert_find, Function.update_of_ne different]
      exact entries_of.values entry old other meant_other

theorem Entries.delete (entries_of : Entries means entries map) (same : α → Bool) (key : κ)
    (selects : Selects means (entries.map Prod.fst) same key) :
    Entries means (entries.filter fun entry => !same entry.1) (map.erase key) where
  keys := by
    have kept : entries.filter (fun entry => !same entry.1) =
        entries.filter fun entry => decide (means entry.1 ≠ some key) := by
      apply List.filter_congr
      intro entry stored
      have chosen := selects entry.1 (List.mem_map_of_mem stored)
      by_cases hit : same entry.1 = true
      · simp [hit, chosen.mp hit]
      · have other : means entry.1 ≠ some key := fun meant => hit (chosen.mpr meant)
        simp [hit, other]
    have erased : map.order.erase key = map.order.filter fun other => decide (other ≠ key) := by
      rw [map.distinct.erase_eq_filter]
      apply List.filter_congr
      intro other _
      rw [decide_not]
      rfl
    have listed := congrArg (List.filter fun other => decide (other ≠ some key)) entries_of.keys
    rw [List.filter_map, List.filter_map] at listed
    rw [kept, OrderedMap.erase_order, erased]
    refine listed.trans ?_
    congr 1
    apply List.filter_congr
    intro other _
    simp
  values := by
    intro entry member other meant
    rw [List.mem_filter] at member
    have different : other ≠ key := by
      rintro rfl
      have chosen := (selects entry.1 (List.mem_map_of_mem member.1)).mpr meant
      simp [chosen] at member
    rw [OrderedMap.erase_find, Function.update_of_ne different]
    exact entries_of.values entry member.1 other meant

omit [DecidableEq κ] in
theorem Entries.delete_length (entries_of : Entries means entries map) (same : α → Bool) (key : κ)
    (selects : Selects means (entries.map Prod.fst) same key) :
    (entries.filter fun entry => !same entry.1).length ≠ entries.length ↔ key ∈ map.order := by
  rw [← entries_of.any_iff same key selects, ne_eq, List.length_filter_eq_length_iff,
    List.any_eq_true]
  constructor
  · intro removed
    by_contra absent
    apply removed
    intro entry stored
    rw [Bool.not_eq_true', Bool.eq_false_iff]
    exact fun chosen => absent ⟨entry, stored, chosen⟩
  · intro found kept
    rcases found with ⟨entry, stored, chosen⟩
    have dropped := kept entry stored
    rw [chosen] at dropped
    exact Bool.false_ne_true dropped

end Changes

end Entries

section Members

variable {α : Type u} {κ : Type v} [DecidableEq κ] (means : α → Option κ)

structure Members (values : List α) (set : Finset κ) : Prop where
  some_ : ∀ value ∈ values, ∃ key, means value = some key
  distinct : (values.map means).Nodup
  mem_iff : ∀ key, key ∈ set ↔ some key ∈ values.map means

omit [DecidableEq κ] in
theorem members_empty : Members means [] ∅ where
  some_ := by simp
  distinct := List.nodup_nil
  mem_iff := by simp

namespace Members

variable {means} {values : List α} {set : Finset κ}

omit [DecidableEq κ] in
theorem any_iff (members : Members means values set) (same : α → Bool) (key : κ)
    (selects : Selects means values same key) : values.any same = true ↔ key ∈ set := by
  rw [members.mem_iff, List.any_eq_true, List.mem_map]
  constructor
  · intro found
    rcases found with ⟨value, stored, chosen⟩
    exact ⟨value, stored, (selects value stored).mp chosen⟩
  · intro found
    rcases found with ⟨value, stored, meant⟩
    exact ⟨value, stored, (selects value stored).mpr meant⟩

theorem length_eq (members : Members means values set) : values.length = set.card := by
  have listed : (values.map means).toFinset = set.map ⟨some, Option.some_injective κ⟩ := by
    ext key
    rw [List.mem_toFinset, Finset.mem_map]
    constructor
    · intro stored
      rcases List.mem_map.mp stored with ⟨value, held, rfl⟩
      rcases members.some_ value held with ⟨key, meant⟩
      refine ⟨key, (members.mem_iff key).mpr ?_, meant.symm⟩
      rw [← meant]
      exact stored
    · intro held
      rcases held with ⟨key, member, rfl⟩
      exact (members.mem_iff key).mp member
  calc
    values.length = (values.map means).length := List.length_map _ |>.symm
    _ = (values.map means).toFinset.card := (List.toFinset_card_of_nodup members.distinct).symm
    _ = set.card := by rw [listed, Finset.card_map]

theorem push (members : Members means values set) (value : α) (key : κ)
    (meant : means value = some key) (absent : key ∉ set) :
    Members means (values ++ [value]) (insert key set) where
  some_ := by
    intro other member
    rcases List.mem_append.mp member with old | new
    · exact members.some_ other old
    · rw [List.mem_singleton.mp new]
      exact ⟨key, meant⟩
  distinct := by
    rw [List.map_append, List.map_singleton, List.nodup_append]
    refine ⟨members.distinct, List.nodup_singleton _, ?_⟩
    intro held member other single same
    rw [List.mem_singleton, meant] at single
    rw [members.mem_iff] at absent
    exact absent (single ▸ same ▸ member)
  mem_iff := by
    intro other
    rw [Finset.mem_insert, members.mem_iff, List.map_append, List.map_singleton, meant,
      List.mem_append, List.mem_singleton, Option.some_inj, or_comm]

omit [DecidableEq κ] in
theorem keep (members : Members means values set) (chosen : α → Bool) (property : κ → Prop)
    [DecidablePred property]
    (agree : ∀ value ∈ values, ∀ key, means value = some key →
      (chosen value = true ↔ property key)) :
    Members means (values.filter chosen) (set.filter property) where
  some_ := by
    intro value member
    exact members.some_ value (List.mem_of_mem_filter member)
  distinct := members.distinct.sublist (List.filter_sublist.map means)
  mem_iff := by
    intro key
    rw [Finset.mem_filter, members.mem_iff, List.mem_map, List.mem_map]
    constructor
    · intro held
      rcases held with ⟨⟨value, stored, meant⟩, holds⟩
      exact ⟨value, List.mem_filter.mpr ⟨stored, (agree value stored key meant).mpr holds⟩, meant⟩
    · intro kept
      rcases kept with ⟨value, member, meant⟩
      rw [List.mem_filter] at member
      exact ⟨⟨value, member.1, meant⟩, (agree value member.1 key meant).mp member.2⟩

theorem append {others : List α} {other : Finset κ} (members : Members means values set)
    (rest : Members means others other) (apart : Disjoint set other) :
    Members means (values ++ others) (set ∪ other) where
  some_ := by
    intro value member
    rcases List.mem_append.mp member with left | right
    · exact members.some_ value left
    · exact rest.some_ value right
  distinct := by
    rw [List.map_append, List.nodup_append]
    refine ⟨members.distinct, rest.distinct, ?_⟩
    intro first left second right same
    rcases List.mem_map.mp left with ⟨value, stored, rfl⟩
    rcases members.some_ value stored with ⟨key, meant⟩
    apply Finset.disjoint_left.mp apart ((members.mem_iff key).mpr (meant ▸ left))
    rw [rest.mem_iff, ← meant, same]
    exact right
  mem_iff := by
    intro key
    rw [Finset.mem_union, members.mem_iff, rest.mem_iff, List.map_append, List.mem_append]

theorem erase (members : Members means values set) (same : α → Bool) (key : κ)
    (selects : Selects means values same key) :
    Members means (values.filter fun value => !same value) (set.erase key) := by
  have kept : set.erase key = set.filter fun other => other ≠ key := by
    ext other
    rw [Finset.mem_erase, Finset.mem_filter, and_comm]
  rw [kept]
  apply members.keep
  intro value stored other meant
  rw [Bool.not_eq_true', Bool.eq_false_iff, ne_eq, selects value stored, meant, Option.some_inj]

omit [DecidableEq κ] in
theorem all_iff {other : Finset κ} (members : Members means values set)
    (chosen : α → Bool) (agree : ∀ value ∈ values, ∀ key, means value = some key →
      (chosen value = true ↔ key ∈ other)) : values.all chosen = true ↔ set ⊆ other := by
  rw [List.all_eq_true]
  constructor
  · intro every key held
    rcases List.mem_map.mp ((members.mem_iff key).mp held) with ⟨value, stored, meant⟩
    exact (agree value stored key meant).mp (every value stored)
  · intro inside value stored
    rcases members.some_ value stored with ⟨key, meant⟩
    apply (agree value stored key meant).mpr
    apply inside
    rw [members.mem_iff, ← meant]
    exact List.mem_map_of_mem stored

end Members

end Members

end FaberRuntime
