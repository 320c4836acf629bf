import FaberRuntime.Host.CollectionSteps

namespace FaberRuntime.Host

/-! The set calls of the host against those of the specification. -/

section Calls

variable {text : Texts} {runtime : RuntimeContext} {spec : Spec}

theorem setAdd_agree (refines : Refines text runtime spec) (handle : Pointer) (kind : ValueKind)
    (cell : Cell) (readable : ∀ value, readValue kind cell = some value →
      Readable text kind value) :
    Agree text (runtime.setAdd text handle kind cell)
      (spec.collection text runtime.findArray (.setAdd handle kind cell)) := by
  apply onMember_agree refines handle kind cell readable
  · intro set value other
    exact if_pos other
  · intro set specSet value name same value_of meant related
    rw [if_neg (not_not.mpr same), if_pos rfl]
    exact ⟨refines.setSet handle _ _ (related.add value name value_of meant), rfl⟩

theorem setContains_agree (refines : Refines text runtime spec) (handle : Pointer)
    (kind : ValueKind) (cell : Cell) (output : Place)
    (readable : ∀ value, readValue kind cell = some value → Readable text kind value) :
    Agree text (runtime.setContains text handle kind cell output)
      (spec.collection text runtime.findArray (.setContains handle kind cell output)) := by
  apply onMember_agree refines handle kind cell readable
  · intro set value other
    exact if_pos (Or.inl other)
  · intro set specSet value name same value_of meant related
    apply agree_wanted refines
    · simp [same]
    · intro _
      have present : contains text set.kind set.values value = decide (name ∈ specSet.members) := by
        rw [Bool.eq_iff_iff, decide_eq_true_iff]
        exact related.contains_iff value name value_of meant
      rw [present]
      exact ⟨refines, rfl⟩

theorem setDelete_agree (refines : Refines text runtime spec) (handle : Pointer)
    (kind : ValueKind) (cell : Cell) (output : Place)
    (readable : ∀ value, readValue kind cell = some value → Readable text kind value) :
    Agree text (runtime.setDelete text handle kind cell output)
      (spec.collection text runtime.findArray (.setDelete handle kind cell output)) := by
  apply onMember_agree refines handle kind cell readable
  · intro set value other
    exact if_pos (Or.inl other)
  · intro set specSet value name same value_of meant related
    apply agree_wanted refines
    · simp [same]
    · intro _
      have present : contains text set.kind set.values value = decide (name ∈ specSet.members) := by
        rw [Bool.eq_iff_iff, decide_eq_true_iff]
        exact related.contains_iff value name value_of meant
      rw [← present]
      exact ⟨refines.setSet handle _ _ (related.delete value name value_of meant), rfl⟩

theorem setFromArray_agree (refines : Refines text runtime spec) (handle : Pointer)
    (readable : ∀ array, runtime.findArray handle = some array →
      Exact array.kind ∧ ∀ value ∈ array.values, Readable text array.kind value) :
    Agree text (runtime.setFromArray text handle)
      (spec.collection text runtime.findArray (.setFromArray handle)) := by
  unfold RuntimeContext.setFromArray
  simp only [Spec.collection]
  cases found : runtime.findArray handle with
  | none => exact agree_failed refines
  | some array =>
      rcases readable array found with ⟨exact_kind, texts⟩
      have of := refines.arrays array (findArray_mem runtime handle array found)
      have empty : SetRefines text ⟨array.kind, []⟩ ⟨array.kind, ∅⟩ :=
        ⟨rfl, exact_kind, by simp, members_empty _⟩
      have added := empty.add_all array.values of fun value member =>
        keyOf_readable text array.kind value (of value member) (texts value member)
      rw [Finset.empty_union] at added
      exact refines.storeSet _ _ _ added

theorem arrayFromSet_agree (refines : Refines text runtime spec) (handle : Pointer) :
    Agree text (runtime.arrayFromSet handle)
      (spec.collection text runtime.findArray (.arrayFromSet handle)) := by
  unfold RuntimeContext.arrayFromSet
  simp only [Spec.collection, Spec.onSet]
  rcases refines.findSet_cases handle with ⟨missing, none_⟩ | ⟨set, specSet, found, held, related⟩
  · rw [missing, none_]
    exact agree_failed refines
  · rw [found, held]
    dsimp only
    rw [if_pos trivial, ← related.kind]
    exact ⟨refines.storeArray _ _ related.of, _, _, rfl, findArray_stored runtime _ _, rfl,
      related.members.distinct, related.members.mem_iff⟩

theorem setLength_agree (refines : Refines text runtime spec) (handle : Pointer)
    (output : Place) :
    Agree text (runtime.setLength handle output)
      (spec.collection text runtime.findArray (.setLength handle output)) := by
  unfold RuntimeContext.setLength
  simp only [Spec.collection, Spec.onSet]
  rcases refines.findSet_cases handle with ⟨missing, none_⟩ | ⟨set, specSet, found, held, related⟩
  · rw [missing, none_]
    exact agree_failed refines
  · rw [found, held]
    dsimp only
    rw [← related.members.length_eq]
    apply agree_wanted refines
    · exact length_refused _ _
    · intro wanted
      rw [Bool.and_eq_true, decide_eq_true_iff] at wanted
      exact ⟨refines, _, rfl, Int64.toInt_ofNat_of_lt wanted.1⟩

theorem setIsEmpty_agree (refines : Refines text runtime spec) (handle : Pointer)
    (output : Place) :
    Agree text (runtime.setIsEmpty handle output)
      (spec.collection text runtime.findArray (.setIsEmpty handle output)) := by
  unfold RuntimeContext.setIsEmpty
  simp only [Spec.collection, Spec.onSet]
  rcases refines.findSet_cases handle with ⟨missing, none_⟩ | ⟨set, specSet, found, held, related⟩
  · rw [missing, none_]
    exact agree_failed refines
  · rw [found, held]
    dsimp only
    apply agree_wanted refines Iff.rfl
    intro _
    have empty : set.values.isEmpty = decide (specSet.members = ∅) := by
      rw [Bool.eq_iff_iff, decide_eq_true_iff, List.isEmpty_iff_length_eq_zero,
        related.members.length_eq, Finset.card_eq_zero]
    rw [empty]
    exact ⟨refines, rfl⟩

theorem setAlgebra_agree (refines : Refines text runtime spec) (left right : Pointer)
    (operation : ValueKind → List RuntimeValue → List RuntimeValue → List RuntimeValue)
    (meaning : Finset Key → Finset Key → Finset Key)
    (agree : ∀ left right specLeft specRight, left.kind = right.kind →
      SetRefines text left specLeft → SetRefines text right specRight →
      SetRefines text ⟨left.kind, operation left.kind left.values right.values⟩
        ⟨left.kind, meaning specLeft.members specRight.members⟩) :
    Agree text (runtime.setAlgebra left right operation)
      (spec.onSets left right true fun kind left right =>
        spec.storeSet kind (meaning left right)) := by
  unfold RuntimeContext.setAlgebra Spec.onSets
  rcases refines.findSet_cases left with ⟨missing, none_⟩ | ⟨set, specSet, found, held, related⟩
  · rw [missing, none_]
    exact agree_failed refines
  · rcases refines.findSet_cases right with ⟨missing, none_⟩ |
      ⟨other, specOther, found_other, held_other, related_other⟩
    · rw [found, held, missing, none_]
      exact agree_failed refines
    · rw [found, held, found_other, held_other]
      dsimp only
      rw [← related.kind, ← related_other.kind]
      by_cases same : set.kind = other.kind
      · rw [if_neg (not_not.mpr same), if_pos ⟨same, rfl⟩]
        exact refines.storeSet _ _ _ (agree set other specSet specOther same related related_other)
      · rw [if_pos same, if_neg fun both => same both.1]
        exact agree_failed refines

theorem setRelation_agree (refines : Refines text runtime spec) (left right : Pointer)
    (output : Place) (relation : ValueKind → List RuntimeValue → List RuntimeValue → Bool)
    (meaning : Finset Key → Finset Key → Bool)
    (agree : ∀ left right specLeft specRight, left.kind = right.kind →
      SetRefines text left specLeft → SetRefines text right specRight →
      relation left.kind left.values right.values =
        meaning specLeft.members specRight.members) :
    Agree text (runtime.setRelation left right output relation)
      (spec.onSets left right output.one fun _ left right =>
        (spec, .flag (meaning left right))) := by
  unfold RuntimeContext.setRelation Spec.onSets
  rcases refines.findSet_cases left with ⟨missing, none_⟩ | ⟨set, specSet, found, held, related⟩
  · rw [missing, none_]
    exact agree_failed refines
  · rcases refines.findSet_cases right with ⟨missing, none_⟩ |
      ⟨other, specOther, found_other, held_other, related_other⟩
    · rw [found, held, missing, none_]
      exact agree_failed refines
    · rw [found, held, found_other, held_other]
      dsimp only
      rw [← related.kind, ← related_other.kind]
      by_cases same : set.kind = other.kind
      · simp only [same, true_and, ne_eq, not_true_eq_false, false_or]
        apply agree_wanted refines Iff.rfl
        intro _
        have both := agree set other specSet specOther same related related_other
        rw [same] at both
        rw [both]
        exact ⟨refines, rfl⟩
      · rw [if_pos (Or.inl same), if_neg fun both => same both.1]
        exact agree_failed refines

theorem setUnion_agree (refines : Refines text runtime spec) (left right : Pointer) :
    Agree text (runtime.setUnion text left right)
      (spec.collection text runtime.findArray (.setUnion left right)) := by
  apply setAlgebra_agree refines left right _ fun left right => left ∪ right
  intro left right specLeft specRight same related_left related_right
  have empty : SetRefines text ⟨left.kind, []⟩ ⟨left.kind, ∅⟩ :=
    ⟨rfl, related_left.exact_kind, by simp, members_empty _⟩
  have of : ∀ value ∈ left.values ++ right.values, value.Of left.kind := by
    intro value member
    rcases List.mem_append.mp member with held | held
    · exact related_left.of value held
    · rw [same]
      exact related_right.of value held
  have named : ∀ value ∈ left.values ++ right.values,
      ∃ key, keyOf text left.kind value = some key := by
    intro value member
    rcases List.mem_append.mp member with held | held
    · exact related_left.members.some_ value held
    · rw [same]
      exact related_right.members.some_ value held
  have added := empty.add_all _ of named
  have union : ∅ ∪ ((left.values ++ right.values).filterMap (keyOf text left.kind)).toFinset =
      specLeft.members ∪ specRight.members := by
    ext key
    rw [Finset.empty_union, List.mem_toFinset, List.filterMap_append, List.mem_append,
      Finset.mem_union, related_left.members.mem_iff, related_right.members.mem_iff,
      List.mem_filterMap, List.mem_filterMap, List.mem_map, List.mem_map, same]
  rw [union] at added
  exact added

theorem setIntersection_agree (refines : Refines text runtime spec) (left right : Pointer) :
    Agree text (runtime.setIntersection text left right)
      (spec.collection text runtime.findArray (.setIntersection left right)) := by
  apply setAlgebra_agree refines left right _ fun left right => left ∩ right
  intro left right specLeft specRight same related_left related_right
  have kept := related_left.keep related_right same true
  have inter : (specLeft.members.filter fun key =>
      decide (key ∈ specRight.members) = true) = specLeft.members ∩ specRight.members := by
    ext key
    rw [Finset.mem_filter, Finset.mem_inter, decide_eq_true_iff]
  rw [inter, ← related_left.kind] at kept
  simpa only [beq_true] using kept

theorem difference_refines {left right : RuntimeSet} {specLeft specRight : SpecSet}
    (related_left : SetRefines text left specLeft) (related_right : SetRefines text right specRight)
    (same : left.kind = right.kind) :
    SetRefines text ⟨left.kind, left.values.filter fun value =>
        !contains text left.kind right.values value⟩
      ⟨left.kind, specLeft.members \ specRight.members⟩ := by
  have kept := related_left.keep related_right same false
  have difference : (specLeft.members.filter fun key =>
      decide (key ∈ specRight.members) = false) = specLeft.members \ specRight.members := by
    ext key
    rw [Finset.mem_filter, Finset.mem_sdiff, decide_eq_false_iff_not]
  rw [difference, ← related_left.kind] at kept
  simpa only [beq_false] using kept

theorem setDifference_agree (refines : Refines text runtime spec) (left right : Pointer) :
    Agree text (runtime.setDifference text left right)
      (spec.collection text runtime.findArray (.setDifference left right)) := by
  apply setAlgebra_agree refines left right _ fun left right => left \ right
  intro left right specLeft specRight same related_left related_right
  exact difference_refines related_left related_right same

theorem setSymmetricDifference_agree (refines : Refines text runtime spec)
    (left right : Pointer) :
    Agree text (runtime.setSymmetricDifference text left right)
      (spec.collection text runtime.findArray (.setSymmetricDifference left right)) := by
  apply setAlgebra_agree refines left right _ fun left right => (left \ right) ∪ (right \ left)
  intro left right specLeft specRight same related_left related_right
  have first := difference_refines related_left related_right same
  have second := difference_refines related_right related_left same.symm
  rw [← same] at second
  refine ⟨rfl, related_left.exact_kind, ?_, first.members.append second.members ?_⟩
  · intro value member
    rcases List.mem_append.mp member with held | held
    · exact first.of value held
    · exact second.of value held
  · exact disjoint_sdiff_sdiff

theorem setIsSubset_agree (refines : Refines text runtime spec) (left right : Pointer)
    (output : Place) :
    Agree text (runtime.setIsSubset text left right output)
      (spec.collection text runtime.findArray (.setIsSubset left right output)) := by
  apply setRelation_agree refines left right output _ fun left right => decide (left ⊆ right)
  intro left right specLeft specRight same related_left related_right
  exact related_left.subset_iff related_right same

theorem setIsSuperset_agree (refines : Refines text runtime spec) (left right : Pointer)
    (output : Place) :
    Agree text (runtime.setIsSuperset text left right output)
      (spec.collection text runtime.findArray (.setIsSuperset left right output)) := by
  apply setRelation_agree refines left right output _ fun left right => decide (right ⊆ left)
  intro left right specLeft specRight same related_left related_right
  rw [same]
  exact related_right.subset_iff related_left same.symm

end Calls

end FaberRuntime.Host
