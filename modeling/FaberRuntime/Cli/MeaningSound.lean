import FaberRuntime.Cli.Meaning

namespace FaberRuntime.Cli

open Host

/-! Every route of the parser makes a value that holds its meaning, or fails where there is
none. -/

abbrev Means {α β : Type} (runtime : HostContext) (relates : HostContext → α → β → Prop)
    (computation : CliM α) (meaning : Option β) : Prop :=
  Meets Adds runtime relates computation meaning

def PointerHolds (runtime : HostContext) (pointer : Pointer) (meant : Scalar) : Prop :=
  HoldsScalar runtime (.ptr pointer) meant

def PayloadHolds (runtime : HostContext) (payload : CliPayload) (meant : Scalar) : Prop :=
  HoldsScalar runtime (payloadValue payload) meant

variable (runtime : HostContext)

theorem textHandle_means (value : String) :
    Means runtime PointerHolds (textHandle value) (some (.text value)) := by
  refine meets_some rfl ⟨List.prefix_append _ _, List.prefix_rfl, List.prefix_rfl,
    List.prefix_rfl⟩ ?_
  show (runtime.texts ++ [value])[runtime.texts.length]? = some value
  simp

theorem octetiHandle_means (bytes : List UInt8) :
    Means runtime PointerHolds (octetiHandle bytes) (some (.octeti bytes)) := by
  refine meets_some rfl ⟨List.prefix_rfl, List.prefix_append _ _, List.prefix_rfl,
    List.prefix_rfl⟩ ?_
  show (runtime.octeti ++ [bytes])[runtime.octeti.length]? = some bytes
  simp

theorem typedHandle_means (ty : UInt8) (value : String) :
    Means runtime PointerHolds (typedHandle ty value) (some (textScalar ty value)) := by
  rw [typedHandle, textScalar]
  split_ifs
  · exact octetiHandle_means runtime _
  · exact textHandle_means runtime _

theorem option_stored (kind : ValueKind) (value : Option RuntimeValue) (held : Option Scalar)
    (related : Option.Rel (HoldsScalar runtime) value held) :
    Means runtime (fun after pointer meant => Holds after (.handle pointer) meant)
      (storedBox fun runtime => runtime.storeOption kind value) (some (.option kind held)) := by
  have adds : Adds runtime { runtime with options := runtime.options ++ [⟨kind, value⟩] } :=
    ⟨List.prefix_rfl, List.prefix_rfl, List.prefix_rfl, List.prefix_append _ _⟩
  refine meets_some rfl adds ⟨value, ?_, ?_⟩
  · show (runtime.options ++ [(⟨kind, value⟩ : RuntimeOption)])[runtime.options.length]? =
      some ⟨kind, value⟩
    simp
  · cases related with
    | none => exact .none
    | some inside => exact .some (HoldsScalar.later adds inside)

theorem array_stored (kind : ValueKind) (values : List RuntimeValue) (elements : List Scalar)
    (related : List.Forall₂ (HoldsScalar runtime) values elements) :
    Means runtime (fun after pointer meant => Holds after (.handle pointer) meant)
      (storedBox fun runtime => runtime.storeArray kind values) (some (.list kind elements)) := by
  have adds : Adds runtime { runtime with arrays := runtime.arrays ++ [⟨kind, values⟩] } :=
    ⟨List.prefix_rfl, List.prefix_rfl, List.prefix_append _ _, List.prefix_rfl⟩
  refine meets_some rfl adds ⟨values, ?_, related.imp fun _ _ => HoldsScalar.later adds⟩
  show (runtime.arrays ++ [(⟨kind, values⟩ : RuntimeArray)])[runtime.arrays.length]? =
    some ⟨kind, values⟩
  simp

theorem plainEntry_holds {runtime : HostContext} (ty : UInt8) {payload : CliPayload}
    {meant : Scalar} (holds : PayloadHolds runtime payload meant) :
    EntryHolds runtime (plainEntry ty payload) (plainMeant ty meant) :=
  ⟨rfl, rfl, holds⟩

theorem plain_means (ty : UInt8) (payload : CliPayload) (meant : Scalar)
    (holds : PayloadHolds runtime payload meant) :
    Means runtime EntryHolds (pure (plainEntry ty payload)) (some (plainMeant ty meant)) :=
  meets_pure Adds.refl _ _ (plainEntry_holds ty holds)

theorem handle_means (ty : UInt8) {computation : CliM Pointer} {meant : Scalar}
    (means : Means runtime PointerHolds computation (some meant)) :
    Means runtime EntryHolds
      (computation >>= fun box => pure (plainEntry ty (.handle box)))
      (some (plainMeant ty meant)) :=
  Meets.follow Adds.trans means fun after box _ holds =>
    meets_pure Adds.refl _ _ (plainEntry_holds ty
      (show PayloadHolds after (.handle box) _ from holds))

theorem payload_means {computation : CliM Pointer} {meant : Scalar}
    (means : Means runtime PointerHolds computation (some meant)) :
    Means runtime PayloadHolds (computation >>= fun box => pure (.handle box)) (some meant) :=
  Meets.follow Adds.trans means fun _ _ _ holds => meets_pure Adds.refl _ _ holds

theorem fillerEntry_means (ty : UInt8) (default : DescriptorDefault) :
    Means runtime EntryHolds (fillerEntry ty default)
      (some (plainMeant ty (fillerScalar ty default))) := by
  rw [fillerEntry, fillerScalar]
  split_ifs
  · exact plain_means runtime ty _ _ rfl
  · exact plain_means runtime ty _ _ rfl
  · exact plain_means runtime ty _ _ rfl
  · exact handle_means runtime ty (typedHandle_means runtime ty "")
  · exact plain_means runtime ty _ _ rfl

theorem defaultValueEntry_means (ty : UInt8) (default : DescriptorDefault) :
    Means runtime EntryHolds (defaultValueEntry ty default)
      (some (plainMeant ty (optionDefault ty default))) := by
  cases default with
  | integer value =>
      rw [defaultValueEntry, optionDefault]
      split_ifs
      · exact plain_means runtime ty _ _ rfl
      · exact fillerEntry_means runtime ty _
  | float bits =>
      rw [defaultValueEntry, optionDefault]
      split_ifs
      · exact plain_means runtime ty _ _ rfl
      · exact fillerEntry_means runtime ty _
  | bool value =>
      rw [defaultValueEntry, optionDefault]
      split_ifs
      · exact plain_means runtime ty _ _ rfl
      · exact fillerEntry_means runtime ty _
  | text value => exact handle_means runtime ty (typedHandle_means runtime ty value)
  | expr value => exact handle_means runtime ty (textHandle_means runtime value)
  | nil => exact fillerEntry_means runtime ty .nil

theorem initialOptionEntry_means (option : DescriptorOption) :
    Means runtime EntryHolds (initialOptionEntry option) (some (initialMeant option)) := by
  rw [initialOptionEntry, initialMeant]
  by_cases flag : option.flag = true
  · rw [if_pos flag, if_pos flag]
    exact plain_means runtime option.ty _ _ rfl
  · rw [if_neg flag, if_neg flag]
    rcases option.default with _ | default
    · refine Meets.follow Adds.trans (option_stored runtime _ none none .none) ?_
      intro after box _ holds
      exact meets_pure Adds.refl _ _ ⟨rfl, rfl, holds⟩
    · exact defaultValueEntry_means runtime option.ty default

theorem fillerPayload_means (ty : UInt8) :
    Means runtime PayloadHolds (fillerPayload ty) (some (operandFiller ty)) := by
  rw [fillerPayload, operandFiller]
  split_ifs
  · exact meets_pure Adds.refl _ _ rfl
  · exact meets_pure Adds.refl _ _ rfl
  · exact meets_pure Adds.refl _ _ rfl
  · exact payload_means runtime (textHandle_means runtime "")

theorem defaultValuePayload_means (ty : UInt8) (default : DescriptorDefault) :
    Means runtime PayloadHolds (defaultValuePayload ty default)
      (some (operandDefault ty default)) := by
  cases default with
  | integer value =>
      rw [defaultValuePayload, operandDefault]
      split_ifs
      · exact meets_pure Adds.refl _ _ rfl
      · exact fillerPayload_means runtime ty
  | float bits =>
      rw [defaultValuePayload, operandDefault]
      split_ifs
      · exact meets_pure Adds.refl _ _ rfl
      · exact fillerPayload_means runtime ty
  | bool value =>
      rw [defaultValuePayload, operandDefault]
      split_ifs
      · exact meets_pure Adds.refl _ _ rfl
      · exact fillerPayload_means runtime ty
  | text value => exact payload_means runtime (typedHandle_means runtime ty value)
  | expr value => exact fillerPayload_means runtime ty
  | nil => exact fillerPayload_means runtime ty

section Words

variable (float : String → Option UInt64)

theorem read_means {α : Type} (message : String) (value : Option α) (payload : α → CliPayload)
    (meant : α → Scalar) (holds : ∀ value after, PayloadHolds after (payload value) (meant value)) :
    Means runtime PayloadHolds (orFail message value >>= fun value => pure (payload value))
      (value.map meant) := by
  rcases value with _ | value
  · exact meets_throw _
  · exact meets_pure Adds.refl _ _ (holds value _)

theorem wordPayload_means (ty : UInt8) (raw : String) :
    Means runtime PayloadHolds (wordPayload float ty raw) (wordScalar float ty raw) := by
  rw [wordPayload, wordScalar]
  split_ifs
  · exact read_means runtime _ _ _ _ fun _ _ => rfl
  · exact read_means runtime _ _ _ _ fun _ _ => rfl
  · exact read_means runtime _ _ _ _ fun _ _ => rfl
  · exact payload_means runtime (typedHandle_means runtime ty raw)

theorem parseOptionValue_means (option : DescriptorOption) (raw : String) :
    Means runtime EntryHolds (parseOptionValue float option raw) (optionMeant float option raw) := by
  have mapped : optionMeant float option raw =
      (wordScalar float option.ty raw).bind fun value => some
        (if option.default.isNone then
          ⟨option.ty, true, .option (optionValueKind option.ty) (some value)⟩
        else plainMeant option.ty value) := by
    rw [optionMeant, Option.map_eq_bind]
    rfl
  rw [mapped]
  refine Meets.bind Adds.trans (wordPayload_means runtime float option.ty raw) ?_
  intro after payload meant _ holds
  split_ifs
  · refine Meets.follow Adds.trans (option_stored after _ (some (payloadValue payload)) (some meant)
      (.some holds)) ?_
    intro finish box _ boxed
    exact meets_pure Adds.refl _ _ ⟨rfl, rfl, boxed⟩
  · exact plain_means after option.ty payload meant holds

theorem parseOperandPayload_means (operand : DescriptorOperand) (raw : String) :
    Means runtime PayloadHolds (parseOperandPayload float operand raw)
      (operandScalar float operand raw) := by
  rw [parseOperandPayload, operandScalar]
  split_ifs
  · exact read_means runtime _ _ _ _ fun _ _ => rfl
  · exact wordPayload_means runtime float operand.ty raw

end Words

end FaberRuntime.Cli
