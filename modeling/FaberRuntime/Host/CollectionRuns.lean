import FaberRuntime.Host.SetSteps

namespace FaberRuntime.Host

/-! Runs of collection calls, the caller's memory changing between them. -/

/-- The texts stored as keys and members read the same in the later memory. -/
structure Steady (before after : Texts) (runtime : RuntimeContext) : Prop where
  maps : ∀ map ∈ runtime.maps, map.keyKind = .text → ∀ entry ∈ map.entries, ∀ pointer,
    entry.1 = .ptr pointer → after pointer = before pointer
  sets : ∀ set ∈ runtime.sets, set.kind = .text → ∀ pointer, .ptr pointer ∈ set.values →
    after pointer = before pointer

theorem keyOf_steady (before after : Texts) (kind : ValueKind) (value : RuntimeValue)
    (steady : kind = .text → ∀ pointer, value = .ptr pointer → after pointer = before pointer) :
    keyOf after kind value = keyOf before kind value := by
  by_cases plain : kind ≠ .text
  · rw [keyOf_plain after kind value plain, keyOf_plain before kind value plain]
  · rw [not_not] at plain
    cases value
    case ptr pointer =>
      subst plain
      rw [keyOf_text, keyOf_text, steady rfl pointer rfl]
    all_goals
      subst plain
      rfl

theorem MapRefines.steady {before after : Texts} {map : RuntimeMap} {spec : SpecMap}
    (refines : MapRefines before map spec)
    (steady : map.keyKind = .text → ∀ entry ∈ map.entries, ∀ pointer,
      entry.1 = .ptr pointer → after pointer = before pointer) : MapRefines after map spec where
  key_kind := refines.key_kind
  value_kind := refines.value_kind
  exact_kind := refines.exact_kind
  of := refines.of
  entries := by
    have same : ∀ entry ∈ map.entries,
        keyOf after map.keyKind entry.1 = keyOf before map.keyKind entry.1 := by
      intro entry stored
      exact keyOf_steady before after map.keyKind entry.1 fun kind => steady kind entry stored
    refine ⟨?_, ?_⟩
    · rw [← refines.entries.keys]
      exact List.map_congr_left same
    · intro entry stored key meant
      rw [same entry stored] at meant
      exact refines.entries.values entry stored key meant

theorem SetRefines.steady {before after : Texts} {set : RuntimeSet} {spec : SpecSet}
    (refines : SetRefines before set spec)
    (steady : set.kind = .text → ∀ pointer, .ptr pointer ∈ set.values →
      after pointer = before pointer) : SetRefines after set spec where
  kind := refines.kind
  exact_kind := refines.exact_kind
  of := refines.of
  members := by
    have same : set.values.map (keyOf after set.kind) = set.values.map (keyOf before set.kind) := by
      apply List.map_congr_left
      intro value stored
      apply keyOf_steady before after set.kind value
      intro kind pointer found
      exact steady kind pointer (found ▸ stored)
    refine ⟨?_, ?_, ?_⟩
    · intro value stored
      rcases refines.members.some_ value stored with ⟨key, meant⟩
      have held := List.mem_map_of_mem (f := keyOf after set.kind) stored
      rw [same] at held
      rcases List.mem_map.mp held with ⟨other, member, equal⟩
      rcases refines.members.some_ other member with ⟨found, meant_other⟩
      exact ⟨found, by rw [← equal, meant_other]⟩
    · rw [same]
      exact refines.members.distinct
    · rw [same]
      exact refines.members.mem_iff

theorem forall₂_of_mem {α β : Type} {before after : α → β → Prop} {left : List α} {right : List β}
    (all : List.Forall₂ before left right)
    (change : ∀ a ∈ left, ∀ b, before a b → after a b) : List.Forall₂ after left right := by
  induction all with
  | nil => exact List.Forall₂.nil
  | cons head tail ih =>
      refine List.Forall₂.cons (change _ List.mem_cons_self _ head) (ih ?_)
      intro a member
      exact change a (List.mem_cons_of_mem _ member)

theorem Refines.steady {before after : Texts} {runtime : RuntimeContext} {spec : Spec}
    (refines : Refines before runtime spec) (steady : Steady before after runtime) :
    Refines after runtime spec where
  maps := forall₂_of_mem refines.maps fun map member _ related =>
    related.steady (steady.maps map member)
  sets := forall₂_of_mem refines.sets fun set member _ related =>
    related.steady (steady.sets set member)
  arrays := refines.arrays

/-- No two stored keys of a map and no two members of a set are equal for the host. -/
structure Distinct (text : Texts) (runtime : RuntimeContext) : Prop where
  maps : ∀ map ∈ runtime.maps, map.entries.Pairwise fun first second =>
    valuesEqual text map.keyKind first.1 second.1 = false
  sets : ∀ set ∈ runtime.sets, set.values.Pairwise fun first second =>
    valuesEqual text set.kind first second = false

theorem MapRefines.distinct {text : Texts} {map : RuntimeMap} {spec : SpecMap}
    (refines : MapRefines text map spec) : map.entries.Pairwise fun first second =>
      valuesEqual text map.keyKind first.1 second.1 = false := by
  have different := List.pairwise_map.mp refines.entries.nodup_means
  refine different.imp_of_mem ?_
  intro first second stored stored_second apart
  rw [Bool.eq_false_iff]
  intro same
  rcases refines.entries.means_some second stored_second with ⟨key, _, meant⟩
  rw [valuesEqual_iff text map.keyKind first.1 second.1 key refines.exact_kind
    (refines.of first stored).1 (refines.of second stored_second).1 meant] at same
  exact apart (same.trans meant.symm)

theorem SetRefines.pairwise {text : Texts} {set : RuntimeSet} {spec : SpecSet}
    (refines : SetRefines text set spec) : set.values.Pairwise fun first second =>
      valuesEqual text set.kind first second = false := by
  have different := List.pairwise_map.mp refines.members.distinct
  refine different.imp_of_mem ?_
  intro first second stored stored_second apart
  rw [Bool.eq_false_iff]
  intro same
  rcases refines.members.some_ second stored_second with ⟨key, meant⟩
  rw [valuesEqual_iff text set.kind first second key refines.exact_kind (refines.of first stored)
    (refines.of second stored_second) meant] at same
  exact apart (same.trans meant.symm)

theorem Refines.distinct {text : Texts} {runtime : RuntimeContext} {spec : Spec}
    (refines : Refines text runtime spec) : Distinct text runtime where
  maps := by
    intro map member
    rcases List.forall₂_iff_get.mp refines.maps with ⟨_, related⟩
    rcases List.mem_iff_getElem.mp member with ⟨index, bound, rfl⟩
    exact (related index bound (refines.maps.length_eq ▸ bound)).distinct
  sets := by
    intro set member
    rcases List.forall₂_iff_get.mp refines.sets with ⟨_, related⟩
    rcases List.mem_iff_getElem.mp member with ⟨index, bound, rfl⟩
    exact (related index bound (refines.sets.length_eq ▸ bound)).pairwise

section Steps

variable {text : Texts} {runtime : RuntimeContext} {spec : Spec}

theorem arrayNew_agree (refines : Refines text runtime spec) (kind : ValueKind) :
    Agree text (runtime.arrayNew kind)
      (spec.collection text runtime.findArray (.arrayNew kind)) := by
  unfold RuntimeContext.arrayNew
  simp only [Spec.collection]
  by_cases valid : validKind kind = true
  · rw [if_pos valid, if_pos valid]
    exact ⟨refines.storeArray kind [] (by simp), _, rfl⟩
  · rw [if_neg valid, if_neg valid]
    exact agree_failed refines

theorem arrayPush_agree (refines : Refines text runtime spec) (handle : Pointer)
    (kind : ValueKind) (value : Cell) :
    Agree text (runtime.arrayPush handle kind value)
      (spec.collection text runtime.findArray (.arrayPush handle kind value)) := by
  unfold RuntimeContext.arrayPush
  simp only [Spec.collection]
  cases found : runtime.findArray handle with
  | none => exact agree_failed refines
  | some array =>
      cases read : readValue kind value with
      | none => exact agree_failed refines
      | some stored =>
          dsimp only
          by_cases same : array.kind = kind
          · rw [if_neg (not_not.mpr same), if_pos same]
            have grown : ∀ other ∈ array.values ++ [stored], other.Of array.kind := by
              intro other member
              rcases List.mem_append.mp member with old | new
              · exact refines.arrays array (findArray_mem runtime handle array found) other old
              · rw [List.mem_singleton.mp new, same]
                exact readValue_of kind value stored read
            refine ⟨?_, rfl⟩
            unfold RuntimeContext.setArray
            split
            · refine ⟨refines.maps, refines.sets, ?_⟩
              intro other member
              rcases List.mem_or_eq_of_mem_set member with old | rfl
              · exact refines.arrays other old
              · exact grown
            · exact refines
          · rw [if_pos same, if_neg same]
            exact agree_failed refines

theorem mapNew_agree (refines : Refines text runtime spec) (keyKind valueKind : ValueKind)
    (exact_kind : Exact keyKind) :
    Agree text (runtime.mapNew keyKind valueKind)
      (spec.collection text runtime.findArray (.mapNew keyKind valueKind)) := by
  unfold RuntimeContext.mapNew
  simp only [Spec.collection]
  apply agree_wanted refines
  · cases validKind keyKind <;> simp
  · intro _
    exact refines.storeMap keyKind valueKind exact_kind

theorem setNew_agree (refines : Refines text runtime spec) (kind : ValueKind)
    (exact_kind : Exact kind) :
    Agree text (runtime.setNew kind)
      (spec.collection text runtime.findArray (.setNew kind)) := by
  unfold RuntimeContext.setNew
  simp only [Spec.collection]
  by_cases valid : validKind kind = true
  · rw [if_pos valid, if_pos valid]
    exact refines.storeSet kind [] ∅ ⟨rfl, exact_kind, by simp, members_empty _⟩
  · rw [if_neg valid, if_neg valid]
    exact agree_failed refines

theorem collection_agree (refines : Refines text runtime spec) (call : CollectionCall)
    (in_domain : InDomain text runtime call) :
    Agree text (runtime.collection text call) (spec.collection text runtime.findArray call) := by
  cases call with
  | arrayNew kind => exact arrayNew_agree refines kind
  | arrayPush array kind value => exact arrayPush_agree refines array kind value
  | mapNew keyKind valueKind => exact mapNew_agree refines keyKind valueKind in_domain
  | mapPut map keyKind key valueKind value =>
      exact mapPut_agree refines map keyKind key valueKind value in_domain
  | aggregateSetIndexPtrI64 aggregate key value =>
      exact aggregateSetIndex_agree refines aggregate key value
  | mapOption map keyKind key valueKind =>
      exact mapOption_agree refines map keyKind key valueKind in_domain
  | mapGet map keyKind key valueKind output =>
      exact mapGet_agree refines map keyKind key valueKind output in_domain
  | mapContains map keyKind key output =>
      exact mapContains_agree refines map keyKind key output in_domain
  | mapDelete map keyKind key output =>
      exact mapDelete_agree refines map keyKind key output in_domain
  | mapLength map output => exact mapLength_agree refines map output
  | mapIsEmpty map output => exact mapIsEmpty_agree refines map output
  | mapKeys map => exact mapKeys_agree refines map
  | mapValues map => exact mapValues_agree refines map
  | setNew kind => exact setNew_agree refines kind in_domain
  | setAdd set kind value => exact setAdd_agree refines set kind value in_domain
  | setFromArray array => exact setFromArray_agree refines array in_domain
  | arrayFromSet set => exact arrayFromSet_agree refines set
  | setContains set kind value output =>
      exact setContains_agree refines set kind value output in_domain
  | setDelete set kind value output =>
      exact setDelete_agree refines set kind value output in_domain
  | setLength set output => exact setLength_agree refines set output
  | setIsEmpty set output => exact setIsEmpty_agree refines set output
  | setUnion left right => exact setUnion_agree refines left right
  | setIntersection left right => exact setIntersection_agree refines left right
  | setDifference left right => exact setDifference_agree refines left right
  | setSymmetricDifference left right => exact setSymmetricDifference_agree refines left right
  | setIsSubset left right output => exact setIsSubset_agree refines left right output
  | setIsSuperset left right output => exact setIsSuperset_agree refines left right output

end Steps

theorem collection_failed (runtime : RuntimeContext) (text : Texts) (call : CollectionCall) :
    (runtime.collection text call).2 = .failed → (runtime.collection text call).1 = runtime := by
  cases call <;> dsimp only [RuntimeContext.collection, RuntimeContext.arrayNew,
    RuntimeContext.arrayPush, RuntimeContext.mapNew, RuntimeContext.mapPut,
    RuntimeContext.aggregateSetIndexPtrI64, RuntimeContext.mapOption, RuntimeContext.mapGet,
    RuntimeContext.mapContains, RuntimeContext.mapDelete, RuntimeContext.mapLength,
    RuntimeContext.mapIsEmpty, RuntimeContext.mapKeys, RuntimeContext.mapValues,
    RuntimeContext.setNew, RuntimeContext.setAdd, RuntimeContext.setFromArray,
    RuntimeContext.arrayFromSet, RuntimeContext.setContains, RuntimeContext.setDelete,
    RuntimeContext.setLength, RuntimeContext.setIsEmpty, RuntimeContext.setUnion,
    RuntimeContext.setIntersection, RuntimeContext.setDifference,
    RuntimeContext.setSymmetricDifference, RuntimeContext.setIsSubset,
    RuntimeContext.setIsSuperset, RuntimeContext.setAlgebra, RuntimeContext.setRelation,
    RuntimeContext.storeArray, RuntimeContext.storeOption, RuntimeContext.storeMap,
    RuntimeContext.storeSet]
  all_goals
    repeat' split
    all_goals
      intro failed
      first
        | rfl
        | cases failed

structure Event where
  text : Texts
  call : CollectionCall

def Admissible : Texts → RuntimeContext → List Event → Prop
  | _, _, [] => True
  | text, runtime, event :: rest =>
      Steady text event.text runtime ∧ InDomain event.text runtime event.call ∧
        Admissible event.text (runtime.collection event.text event.call).1 rest

structure Correct (text : Texts) (runtime : RuntimeContext) (spec : Spec)
    (call : CollectionCall) : Prop where
  distinct : Distinct text (runtime.collection text call).1
  answers : Answers text (runtime.collection text call).1 (runtime.collection text call).2
    (spec.collection text runtime.findArray call).2
  unchanged : (runtime.collection text call).2 = .failed →
    (runtime.collection text call).1 = runtime

def AllCorrect : RuntimeContext → Spec → List Event → Prop
  | _, _, [] => True
  | runtime, spec, event :: rest =>
      Correct event.text runtime spec event.call ∧
        AllCorrect (runtime.collection event.text event.call).1
          (spec.collection event.text runtime.findArray event.call).1 rest

theorem run_correct (events : List Event) : ∀ (text : Texts) (runtime : RuntimeContext)
    (spec : Spec), Refines text runtime spec → Admissible text runtime events →
    AllCorrect runtime spec events := by
  induction events with
  | nil => intro _ _ _ _ _; trivial
  | cons event rest ih =>
      intro text runtime spec refines admissible
      rcases admissible with ⟨steady, in_domain, later⟩
      have now := collection_agree (refines.steady steady) event.call in_domain
      exact ⟨⟨now.1.distinct, now.2, collection_failed runtime event.text event.call⟩,
        ih event.text _ _ now.1 later⟩

theorem collections_refine (text : Texts) (events : List Event)
    (admissible : Admissible text RuntimeContext.new events) :
    AllCorrect RuntimeContext.new Spec.new events :=
  run_correct events text RuntimeContext.new Spec.new
    ⟨List.Forall₂.nil, List.Forall₂.nil, by simp [RuntimeContext.new]⟩ admissible

def twoDescriptors : Texts
  | .raw 8 => some [97]
  | .raw 16 => some [97]
  | _ => none

/-- The second put finds the first one's key. -/
def putTwice : List Event :=
  let cell (pointer : Pointer) : Cell := ⟨none, none, none, none, some pointer⟩
  let number (value : UInt64) : Cell := ⟨none, none, none, some value, none⟩
  [⟨twoDescriptors, .mapNew .text .i64⟩,
    ⟨twoDescriptors, .mapPut (.box .maps 0) .text (cell (.raw 8)) .i64 (number 1)⟩,
    ⟨twoDescriptors, .mapPut (.box .maps 0) .text (cell (.raw 16)) .i64 (number 2)⟩]

theorem put_twice_correct : AllCorrect RuntimeContext.new Spec.new putTwice := by
  apply collections_refine twoDescriptors putTwice
  refine ⟨⟨by simp [RuntimeContext.new], by simp [RuntimeContext.new]⟩, ?_, ?_⟩
  · exact (by decide : Exact .text)
  refine ⟨⟨fun _ _ _ _ _ _ _ => rfl, fun _ _ _ _ _ => rfl⟩, ?_, ?_⟩
  · intro value read _ pointer same
    have found : RuntimeValue.ptr (.raw 8) = value := Option.some_inj.mp read
    rw [← found, RuntimeValue.ptr.injEq] at same
    rw [← same]
    rfl
  · refine ⟨⟨fun _ _ _ _ _ _ _ => rfl, fun _ _ _ _ _ => rfl⟩, ?_, trivial⟩
    intro value read _ pointer same
    have found : RuntimeValue.ptr (.raw 16) = value := Option.some_inj.mp read
    rw [← found, RuntimeValue.ptr.injEq] at same
    rw [← same]
    rfl

end FaberRuntime.Host
