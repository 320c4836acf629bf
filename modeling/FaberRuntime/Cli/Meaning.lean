import FaberRuntime.Cli.Parse
import FaberRuntime.Foundation.Meanings

namespace FaberRuntime.Cli

open Host

/-! What a parsed table says, its handles read as the contents of their boxes: the words of a
command line as complete option occurrences and positional words, and the table they mean. -/

inductive Scalar
  | text (value : String)
  | octeti (bytes : List UInt8)
  | integer (value : Int64)
  | float (bits : UInt64)
  | bool (value : Bool)
  | null
  deriving DecidableEq

inductive Meaning
  | scalar (value : Scalar)
  | list (kind : ValueKind) (elements : List Scalar)
  | option (kind : ValueKind) (held : Option Scalar)
  deriving DecidableEq

structure Meant where
  kind : UInt8
  carrier : Bool
  value : Meaning
  deriving DecidableEq

def plainMeant (ty : UInt8) (value : Scalar) : Meant := ⟨ty, false, .scalar value⟩

def HoldsScalar (runtime : HostContext) : RuntimeValue → Scalar → Prop
  | .i64 value, .integer meant => value = meant
  | .f64 bits, .float meant => bits = meant
  | .i1 value, .bool meant => value = meant.toUInt8
  | .ptr (.box .texts index), .text meant => runtime.texts[index]? = some meant
  | .ptr (.box .octeti index), .octeti meant => runtime.octeti[index]? = some meant
  | .ptr pointer, .null => pointer = Pointer.null
  | _, _ => False

def Holds (runtime : HostContext) : CliPayload → Meaning → Prop
  | payload, .scalar meant => HoldsScalar runtime (payloadValue payload) meant
  | .handle (.box .arrays index), .list kind elements =>
      ∃ values, runtime.arrays[index]? = some ⟨kind, values⟩ ∧
        List.Forall₂ (HoldsScalar runtime) values elements
  | .handle (.box .options index), .option kind held =>
      ∃ value, runtime.options[index]? = some ⟨kind, value⟩ ∧
        Option.Rel (HoldsScalar runtime) value held
  | _, _ => False

def EntryHolds (runtime : HostContext) (entry : CliEntry) (meant : Meant) : Prop :=
  entry.kind = meant.kind ∧ entry.carrier = meant.carrier ∧ Holds runtime entry.value meant.value

structure Adds (before after : HostContext) : Prop where
  texts : before.texts <+: after.texts
  octeti : before.octeti <+: after.octeti
  arrays : before.arrays <+: after.arrays
  options : before.options <+: after.options

theorem Adds.refl (runtime : HostContext) : Adds runtime runtime :=
  ⟨List.prefix_rfl, List.prefix_rfl, List.prefix_rfl, List.prefix_rfl⟩

theorem Adds.trans (first second third : HostContext) (earlier : Adds first second)
    (later : Adds second third) : Adds first third :=
  ⟨earlier.texts.trans later.texts, earlier.octeti.trans later.octeti,
    earlier.arrays.trans later.arrays, earlier.options.trans later.options⟩

theorem HoldsScalar.later {before after : HostContext} (adds : Adds before after)
    {value : RuntimeValue} {meant : Scalar} (holds : HoldsScalar before value meant) :
    HoldsScalar after value meant := by
  rcases value with _ | _ | _ | _ | _ | _ | _ | _ | _ | _ | _ | _ | (⟨arena, index⟩ | address)
  case ptr.box =>
    cases arena
    case texts => cases meant <;> first | exact getElem?_of_prefix adds.texts holds | exact holds
    case octeti => cases meant <;> first | exact getElem?_of_prefix adds.octeti holds | exact holds
    all_goals cases meant <;> exact holds
  all_goals cases meant <;> exact holds

theorem Holds.later {before after : HostContext} (adds : Adds before after)
    {payload : CliPayload} {meaning : Meaning} (holds : Holds before payload meaning) :
    Holds after payload meaning := by
  rcases meaning with meant | ⟨kind, elements⟩ | ⟨kind, held⟩
  · exact HoldsScalar.later adds holds
  · rcases payload with (⟨arena, index⟩ | address) | _ | _ | _
    case handle.box =>
      cases arena
      case arrays =>
        obtain ⟨values, stored, each⟩ := holds
        exact ⟨values, getElem?_of_prefix adds.arrays stored,
          each.imp fun _ _ => HoldsScalar.later adds⟩
      all_goals exact holds.elim
    all_goals exact holds.elim
  · rcases payload with (⟨arena, index⟩ | address) | _ | _ | _
    case handle.box =>
      cases arena
      case options =>
        obtain ⟨value, stored, related⟩ := holds
        refine ⟨value, getElem?_of_prefix adds.options stored, ?_⟩
        cases related with
        | none => exact .none
        | some inside => exact .some (HoldsScalar.later adds inside)
      all_goals exact holds.elim
    all_goals exact holds.elim

theorem EntryHolds.later {before after : HostContext} (adds : Adds before after)
    {entry : CliEntry} {meant : Meant} (holds : EntryHolds before entry meant) :
    EntryHolds after entry meant :=
  ⟨holds.1, holds.2.1, holds.2.2.later adds⟩

def textScalar (ty : UInt8) (value : String) : Scalar :=
  if ty = tOcteti then .octeti value.toUTF8.toList else .text value

def fillerScalar (ty : UInt8) (default : DescriptorDefault) : Scalar :=
  if ty = tNumerus then .integer 0
  else if ty = tFractus then .float 0
  else if ty = tBivalens then .bool false
  else if default = .nil then textScalar ty ""
  else .integer 0

def optionDefault (ty : UInt8) : DescriptorDefault → Scalar
  | .integer value => if ty = tNumerus then .integer value else fillerScalar ty (.integer value)
  | .float bits => if ty = tFractus then .float bits else fillerScalar ty (.float bits)
  | .bool value => if ty = tBivalens then .bool value else fillerScalar ty (.bool value)
  | .text value => textScalar ty value
  | .expr value => .text value
  | .nil => fillerScalar ty .nil

def initialMeant (option : DescriptorOption) : Meant :=
  if option.flag then plainMeant option.ty (.bool (option.default = some (.bool true)))
  else
    match option.default with
    | some default => plainMeant option.ty (optionDefault option.ty default)
    | none => ⟨option.ty, true, .option (optionValueKind option.ty) none⟩

def operandFiller (ty : UInt8) : Scalar :=
  if ty = tNumerus then .integer 0
  else if ty = tFractus then .float 0
  else if ty = tBivalens then .bool false
  else .text ""

def operandDefault (ty : UInt8) : DescriptorDefault → Scalar
  | .integer value => if ty = tNumerus then .integer value else operandFiller ty
  | .float bits => if ty = tFractus then .float bits else operandFiller ty
  | .bool value => if ty = tBivalens then .bool value else operandFiller ty
  | .text value => textScalar ty value
  | _ => operandFiller ty

section Words

variable (float : String → Option UInt64)

def wordScalar (ty : UInt8) (raw : String) : Option Scalar :=
  if ty = tNumerus then (parseInteger raw).map .integer
  else if ty = tFractus then (float raw).map .float
  else if ty = tBivalens then (parseBool raw).map .bool
  else some (textScalar ty raw)

def optionMeant (option : DescriptorOption) (raw : String) : Option Meant :=
  (wordScalar float option.ty raw).map fun value =>
    if option.default.isNone then
      ⟨option.ty, true, .option (optionValueKind option.ty) (some value)⟩
    else plainMeant option.ty value

def operandScalar (operand : DescriptorOperand) (raw : String) : Option Scalar :=
  if operand.ty = tListaNumerus then (parseInteger raw).map .integer
  else wordScalar float operand.ty raw

def elementScalar (ty : UInt8) : Scalar → Scalar
  | .integer value => if ty = tListaNumerus then .integer value else .null
  | .text value => if ty = tListaNumerus then .integer 0 else .text value
  | .octeti bytes => if ty = tListaNumerus then .integer 0 else .octeti bytes
  | _ => if ty = tListaNumerus then .integer 0 else .null

def listMeant (ty : UInt8) (values : List Scalar) : Meant :=
  ⟨ty, false, .list (if ty = tListaNumerus then .i64 else .ptr) (values.map (elementScalar ty))⟩

def operandMeant (operand : DescriptorOperand) : Option String → Option Meant
  | some raw => (operandScalar float operand raw).map (plainMeant operand.ty)
  | none => operand.default.map fun default =>
      plainMeant operand.ty (operandDefault operand.ty default)

def eachMeant : List DescriptorOperand → List String → Option (List Meant × List String)
  | [], words => some ([], words)
  | operand :: operands, words =>
      if operand.rest then
        (words.mapM (operandScalar float operand)).bind fun values =>
          (eachMeant operands []).map fun found => (listMeant operand.ty values :: found.1, found.2)
      else
        (operandMeant float operand words.head?).bind fun meant =>
          (eachMeant operands words.tail).map fun found => (meant :: found.1, found.2)

def operandsMeant (operands : List DescriptorOperand) (words : List String) :
    Option (List Meant) :=
  (eachMeant float operands words).bind fun found =>
    if operands.any (·.rest) = false ∧ found.2 ≠ [] then none else some found.1

inductive Item
  | occurrence (index : Nat) (option : DescriptorOption) (raw : Option String)
  | positional (word : String)

def readNamed (option : DescriptorOption) (index : Nat) (inlineValue next : Option String) :
    Option (Item × Bool) :=
  if option.flag then some (.occurrence index option none, false)
  else (inlineValue.or next).map fun raw =>
    (.occurrence index option (some raw), inlineValue.isNone)

def readLong (options : List DescriptorOption) (arg : String) (next : Option String) :
    Option (Item × Bool) :=
  (findOption (fun option => option.long.map longName = some (splitInline arg).1) options).bind
    fun (option, index) => readNamed option index (splitInline arg).2 next

def readShort (options : List DescriptorOption) (arg : String) (next : Option String) :
    Option (Item × Bool) :=
  (findOption (fun option => option.short.map shortName = some arg) options).bind
    fun (option, index) => readNamed option index none next

def readOption (options : List DescriptorOption) (arg : String) (next : Option String) :
    Option (Item × Bool) :=
  if isLong arg then readLong options arg next else readShort options arg next

def itemize (descriptor : CliDescriptor) (options : List DescriptorOption) :
    List String → Option (List Item)
  | [] => some []
  | arg :: rest =>
      if arg = "--" then some (rest.map .positional)
      else if asksHelp arg || asksVersion descriptor arg then none
      else if isLong arg || isShort arg then
        (readOption options arg rest.head?).bind fun (item, taken) =>
          if taken then
            match rest with
            | [] => none
            | _ :: after => (itemize descriptor options after).map (item :: ·)
          else (itemize descriptor options rest).map (item :: ·)
      else (itemize descriptor options rest).map (.positional arg :: ·)

def positionalWords (items : List Item) : List String :=
  items.filterMap fun item =>
    match item with
    | .positional word => some word
    | .occurrence _ _ _ => none

def occurrenceMeant (option : DescriptorOption) : Option String → Option Meant
  | none => some (plainMeant option.ty (.bool true))
  | some raw => optionMeant float option raw

def setItems : List Item → List Meant → Option (List Meant)
  | [], entries => some entries
  | .positional _ :: items, entries => setItems items entries
  | .occurrence index option raw :: items, entries =>
      (occurrenceMeant float option raw).bind fun meant =>
        setItems items (entries.set index meant)

def surfaceMeant (options : List DescriptorOption) (operands : List DescriptorOperand)
    (items : List Item) (entries : List Meant) : Option (List Meant) :=
  (setItems float items entries).bind fun optionEntries =>
    (operandsMeant float operands (positionalWords items)).map fun operandEntries =>
      optionEntries.take options.length ++ operandEntries

def itemizeGlobals (descriptor : CliDescriptor) : List String → Option (List Item × List String)
  | [] => some ([], [])
  | arg :: rest =>
      if asksHelp arg || asksVersion descriptor arg then none
      else if isLong arg || isShort arg then
        (readOption descriptor.globalOptions arg rest.head?).bind fun (item, taken) =>
          if taken then
            match rest with
            | [] => none
            | _ :: after => (itemizeGlobals descriptor after).map fun found =>
                (item :: found.1, found.2)
          else (itemizeGlobals descriptor rest).map fun found => (item :: found.1, found.2)
      else some ([], arg :: rest)

structure TableMeant where
  entries : List Meant
  bindingNames : List String
  exit : DescriptorExit
  selectedCommand : Int
  deriving DecidableEq

def subcommandMeant (descriptor : CliDescriptor) (arguments : List String) : Option TableMeant :=
  (itemizeGlobals descriptor arguments).bind fun (items, commandParts) =>
    (setItems float items (descriptor.globalOptions.map initialMeant)).bind fun globals =>
      (dispatch descriptor commandParts).toOption.bind fun (index, command, commandArguments) =>
        let options := descriptor.globalOptions ++ command.options
        let operands := descriptor.globalOperands ++ command.operands
        (itemize descriptor options commandArguments).bind fun items =>
          (surfaceMeant float options operands items
              (globals ++ command.options.map initialMeant)).map fun entries =>
            ⟨entries, options.map (·.binding) ++ operands.map (·.binding), descriptor.exit, index⟩

def descriptorMeant (descriptor : CliDescriptor) (arguments : List String) : Option TableMeant :=
  if descriptor.mode = modeSubcommand then subcommandMeant float descriptor arguments
  else
    let options := descriptor.globalOptions ++ descriptor.options
    let operands := descriptor.globalOperands ++ descriptor.operands
    (itemize descriptor options arguments).bind fun items =>
      (surfaceMeant float options operands items (options.map initialMeant)).map fun entries =>
        ⟨entries, options.map (·.binding) ++ operands.map (·.binding), descriptor.exit, -1⟩

end Words

def TableHolds (runtime : HostContext) (table : RuntimeCliTable) (meant : TableMeant) : Prop :=
  List.Forall₂ (EntryHolds runtime) table.entries meant.entries ∧
    table.bindingNames = meant.bindingNames ∧ table.exit = meant.exit ∧
    table.selectedCommand = meant.selectedCommand

end FaberRuntime.Cli
