import FaberRuntime.Host.Handles

namespace FaberRuntime.Host

/-! Byte handles: a vector of bytes of its own, or an array of `u8` elements that crossed over
unchanged. -/

def byteOf : RuntimeValue → Option UInt8
  | .u8 byte => some byte
  | _ => none

namespace HostContext

variable (runtime : HostContext)

def octetiBytes (handle : Pointer) : Option (List UInt8) :=
  match runtime.findOcteti handle with
  | some bytes => some bytes
  | none => do
      let array ← runtime.findArray handle
      if array.kind ≠ .u8 then none else array.values.mapM byteOf

def octetiPush (handle : Pointer) (byte : UInt8) : Option HostContext :=
  match runtime.findOcteti handle with
  | some bytes => some (runtime.setOcteti handle (bytes ++ [byte]))
  | none => do
      let array ← runtime.findArray handle
      if array.kind ≠ .u8 then none
      else
        let pushed := runtime.setArray handle { array with values := array.values ++ [.u8 byte] }
        some { runtime with toRuntimeContext := pushed }

def octetiAppend (handle : Pointer) (byte : UInt8) : HostContext × Answer :=
  match runtime.octetiPush handle byte with
  | some pushed => (pushed, .done)
  | none => (runtime, .failed)

def octetiGet (handle : Pointer) (index : Int64) : HostContext × Answer :=
  let value := (indexOf index).bind fun index =>
    (runtime.octetiBytes handle).bind fun bytes => bytes[index]?
  runtime.containers (runtime.storeOption .u8 (value.map .u8))

def octetiLength (handle : Pointer) (output : Place) : HostContext × Answer :=
  match runtime.octetiBytes handle with
  | none => (runtime, .failed)
  | some bytes =>
      if 2 ^ 63 ≤ bytes.length ∨ output.one = false then (runtime, .failed)
      else (runtime, .wrote (.i64 (Int64.ofNat bytes.length)))

def decode (handle : Pointer) (ascii : Bool) : HostContext × Answer :=
  match runtime.findOcteti handle with
  | none => (runtime, .failed)
  | some bytes =>
      if ascii && !isAscii bytes then (runtime, .failed)
      else
        match fromUtf8 bytes with
        | none => (runtime, .failed)
        | some text =>
            let (stored, box) := if ascii then runtime.storeAscii bytes else runtime.storeText text
            (stored, .made box)

def octetiGetText (handle : Pointer) : HostContext × Answer := runtime.decode handle false

def octetiGetAscii (handle : Pointer) : HostContext × Answer := runtime.decode handle true

def valorOcteti (handle : Pointer) : HostContext × Answer :=
  match runtime.findOcteti handle with
  | none => (runtime, .failed)
  | some bytes =>
      let (stored, box) := runtime.storeValor (.octeti bytes)
      (stored, .made box)

end HostContext

inductive OctetiCall
  | append (byte : UInt8)
  | get (index : Int64)
  | length (output : Place)
  | getText
  | getAscii
  | valorOcteti

def HostContext.perform (runtime : HostContext) (handle : Pointer) :
    OctetiCall → HostContext × Answer
  | .append byte => runtime.octetiAppend handle byte
  | .get index => runtime.octetiGet handle index
  | .length output => runtime.octetiLength handle output
  | .getText => runtime.octetiGetText handle
  | .getAscii => runtime.octetiGetAscii handle
  | .valorOcteti => runtime.valorOcteti handle

/-- What a caller learns from an answer: a new handle stands for what its box holds. -/
inductive Reply
  | failed
  | done
  | wrote (value : RuntimeValue)
  | option (held : RuntimeOption)
  | text (text : String)
  | ascii (bytes : List UInt8)
  | valor (valor : Valor UInt64)
  | other

def HostContext.reply (runtime : HostContext) : Answer → Reply
  | .failed => .failed
  | .done => .done
  | .wrote value => .wrote value
  | .made (.box .options index) =>
      match runtime.options[index]? with
      | some held => .option held
      | none => .other
  | .made (.box .texts index) =>
      match runtime.texts[index]? with
      | some text => .text text
      | none => .other
  | .made (.box .ascii index) =>
      match runtime.ascii[index]? with
      | some bytes => .ascii bytes
      | none => .other
  | .made (.box .valors index) =>
      match runtime.valors[index]? with
      | some valor => .valor valor
      | none => .other
  | _ => .other

def HostContext.replies (runtime : HostContext) (handle : Pointer) : List OctetiCall → List Reply
  | [] => []
  | call :: calls =>
      let (after, answer) := runtime.perform handle call
      after.reply answer :: after.replies handle calls

def bytesAfter (bytes : List UInt8) : OctetiCall → List UInt8
  | .append byte => bytes ++ [byte]
  | _ => bytes

def bytesReply (bytes : List UInt8) : OctetiCall → Reply
  | .append _ => .done
  | .get index => .option ⟨.u8, ((indexOf index).bind (bytes[·]?)).map .u8⟩
  | .length output =>
      if 2 ^ 63 ≤ bytes.length ∨ output.one = false then .failed
      else .wrote (.i64 (Int64.ofNat bytes.length))
  | .getText => (fromUtf8 bytes).elim .failed .text
  | .getAscii =>
      if isAscii bytes then (fromUtf8 bytes).elim .failed fun _ => .ascii (bytes ++ [0])
      else .failed
  | .valorOcteti => .valor (.octeti bytes)

def bytesReplies (bytes : List UInt8) : List OctetiCall → List Reply
  | [] => []
  | call :: calls => bytesReply bytes call :: bytesReplies (bytesAfter bytes call) calls

def HandsOn (bytes : List UInt8) : OctetiCall → Prop
  | .getText => (fromUtf8 bytes).isSome = true
  | .getAscii => isAscii bytes = true ∧ (fromUtf8 bytes).isSome = true
  | .valorOcteti => True
  | _ => False

/-- No call of the run hands on the bytes it finds. -/
def KeepsBytes (bytes : List UInt8) : List OctetiCall → Prop
  | [] => True
  | call :: calls => ¬HandsOn bytes call ∧ KeepsBytes (bytesAfter bytes call) calls

variable (runtime : HostContext) (handle : Pointer) (bytes : List UInt8)

theorem findOcteti_set (index : Nat) (held : runtime.octeti[index]? = some bytes)
    (changed : List UInt8) :
    (runtime.setOcteti (.box .octeti index) changed).findOcteti (.box .octeti index) =
      some changed := by
  have bound : index < runtime.octeti.length := (List.getElem?_eq_some_iff.mp held).choose
  simp [HostContext.setOcteti, HostContext.findOcteti, bound]

theorem findArray_set (index : Nat) (array changed : RuntimeArray)
    (held : runtime.arrays[index]? = some array) :
    (runtime.setArray (.box .arrays index) changed).findArray (.box .arrays index) =
      some changed := by
  have bound : index < runtime.arrays.length := (List.getElem?_eq_some_iff.mp held).choose
  simp [RuntimeContext.setArray, RuntimeContext.findArray, bound]

theorem bytes_mapM : (bytes.map RuntimeValue.u8).mapM byteOf = some bytes := by
  induction bytes with
  | nil => rfl
  | cons byte bytes ih =>
      rw [List.map_cons, List.mapM_cons, ih]
      rfl

theorem stored_option_reply (value : Option RuntimeValue) :
    (runtime.containers (runtime.storeOption .u8 value)).1.reply
      (runtime.storeOption .u8 value).2 = .option ⟨.u8, value⟩ := by
  simp [HostContext.containers, RuntimeContext.storeOption, HostContext.reply]

theorem octetiGet_reply (resolved : runtime.octetiBytes handle = some bytes) (index : Int64) :
    (runtime.octetiGet handle index).1.reply (runtime.octetiGet handle index).2 =
      bytesReply bytes (.get index) := by
  unfold HostContext.octetiGet
  rw [resolved]
  exact stored_option_reply runtime _

theorem octetiLength_reply (resolved : runtime.octetiBytes handle = some bytes) (output : Place) :
    (runtime.octetiLength handle output).1 = runtime ∧
      (runtime.octetiLength handle output).1.reply (runtime.octetiLength handle output).2 =
        bytesReply bytes (.length output) := by
  unfold HostContext.octetiLength bytesReply
  rw [resolved]
  by_cases refused : 2 ^ 63 ≤ bytes.length ∨ output.one = false
  · simp only [if_pos refused]
    exact ⟨trivial, rfl⟩
  · simp only [if_neg refused]
    exact ⟨trivial, rfl⟩

theorem octeti_step (held : runtime.findOcteti handle = some bytes) (call : OctetiCall) :
    (runtime.perform handle call).1.findOcteti handle = some (bytesAfter bytes call) ∧
      (runtime.perform handle call).1.reply (runtime.perform handle call).2 =
        bytesReply bytes call := by
  have resolved : runtime.octetiBytes handle = some bytes := by
    unfold HostContext.octetiBytes
    rw [held]
  rcases handle with ⟨arena, index⟩ | address
  · cases arena
    case octeti =>
      cases call with
      | append byte =>
          simp only [HostContext.perform, HostContext.octetiAppend, HostContext.octetiPush, held]
          exact ⟨findOcteti_set runtime bytes index held _, rfl⟩
      | get position => exact ⟨held, octetiGet_reply runtime _ bytes resolved position⟩
      | length output =>
          have replied := octetiLength_reply runtime _ bytes resolved output
          refine ⟨?_, replied.2⟩
          show (runtime.octetiLength _ output).1.findOcteti _ = some bytes
          rw [replied.1]
          exact held
      | getText =>
          simp only [HostContext.perform, HostContext.octetiGetText, HostContext.decode, held,
            bytesReply, bytesAfter]
          rcases fromUtf8 bytes with _ | text
          · exact ⟨held, rfl⟩
          · exact ⟨held, by simp [HostContext.storeText, HostContext.reply]⟩
      | getAscii =>
          simp only [HostContext.perform, HostContext.octetiGetAscii, HostContext.decode, held,
            bytesReply, bytesAfter]
          rcases isAscii bytes with _ | _
          · exact ⟨held, rfl⟩
          · rcases fromUtf8 bytes with _ | text
            · exact ⟨held, rfl⟩
            · exact ⟨held, by simp [HostContext.storeAscii, HostContext.reply]⟩
      | valorOcteti =>
          simp only [HostContext.perform, HostContext.valorOcteti, held, bytesReply, bytesAfter]
          exact ⟨held, by simp [HostContext.storeValor, HostContext.reply]⟩
    all_goals cases held
  · cases held

theorem byte_list_step (held : runtime.findArray handle = some ⟨.u8, bytes.map .u8⟩)
    (call : OctetiCall) :
    (runtime.perform handle call).1.findArray handle =
        some ⟨.u8, (bytesAfter bytes call).map .u8⟩ ∧
      (HandsOn bytes call →
        (runtime.perform handle call).1.reply (runtime.perform handle call).2 = .failed) ∧
      (¬HandsOn bytes call →
        (runtime.perform handle call).1.reply (runtime.perform handle call).2 =
          bytesReply bytes call) := by
  rcases handle with ⟨arena, index⟩ | address
  · cases arena
    case arrays =>
      have resolved : runtime.octetiBytes (.box .arrays index) = some bytes := by
        have found : runtime.findOcteti (.box .arrays index) = none := rfl
        unfold HostContext.octetiBytes
        rw [found, held]
        exact bytes_mapM bytes
      cases call with
      | append byte =>
          have found : runtime.findOcteti (.box .arrays index) = none := rfl
          simp only [HostContext.perform, HostContext.octetiAppend, HostContext.octetiPush, found,
            held, Option.bind_eq_bind, Option.bind_some, ne_eq, not_true_eq_false, if_false,
            bytesAfter, List.map_append, List.map_cons, List.map_nil]
          refine ⟨findArray_set runtime index _ _ held, False.elim, fun _ => rfl⟩
      | get position =>
          exact ⟨held, False.elim, fun _ => octetiGet_reply runtime _ bytes resolved position⟩
      | length output =>
          have replied := octetiLength_reply runtime _ bytes resolved output
          refine ⟨?_, False.elim, fun _ => replied.2⟩
          show (runtime.octetiLength _ output).1.findArray _ = some ⟨.u8, bytes.map .u8⟩
          rw [replied.1]
          exact held
      | getText =>
          refine ⟨held, fun _ => rfl, ?_⟩
          intro refused
          have unread : fromUtf8 bytes = none := Option.not_isSome_iff_eq_none.mp refused
          rw [bytesReply, unread]
          rfl
      | getAscii =>
          refine ⟨held, fun _ => rfl, ?_⟩
          intro refused
          rw [bytesReply]
          by_cases plain : isAscii bytes = true
          · have unread : fromUtf8 bytes = none :=
              Option.not_isSome_iff_eq_none.mp (fun read => refused ⟨plain, read⟩)
            rw [if_pos plain, unread]
            rfl
          · rw [if_neg plain]
            rfl
      | valorOcteti => exact ⟨held, fun _ => rfl, fun refused => absurd trivial refused⟩
    all_goals cases held
  · cases held

theorem handsOn_reply (call : OctetiCall) (handsOn : HandsOn bytes call) :
    bytesReply bytes call ≠ .failed := by
  cases call with
  | append byte => exact handsOn.elim
  | get index => exact handsOn.elim
  | length output => exact handsOn.elim
  | getText =>
      rcases Option.isSome_iff_exists.mp handsOn with ⟨text, read⟩
      simp [bytesReply, read]
  | getAscii =>
      rcases Option.isSome_iff_exists.mp handsOn.2 with ⟨text, read⟩
      simp [bytesReply, read, handsOn.1]
  | valorOcteti => simp [bytesReply]

theorem octeti_run (calls : List OctetiCall) : ∀ (runtime : HostContext) (bytes : List UInt8),
    runtime.findOcteti handle = some bytes →
    runtime.replies handle calls = bytesReplies bytes calls := by
  induction calls with
  | nil => exact fun _ _ _ => rfl
  | cons call calls ih =>
      intro runtime bytes held
      have step := octeti_step runtime handle bytes held call
      rw [HostContext.replies, bytesReplies, ← ih _ _ step.1, ← step.2]

theorem byte_list_run (calls : List OctetiCall) : ∀ (runtime : HostContext) (bytes : List UInt8),
    runtime.findArray handle = some ⟨.u8, bytes.map .u8⟩ →
    (runtime.replies handle calls = bytesReplies bytes calls ↔ KeepsBytes bytes calls) := by
  induction calls with
  | nil => exact fun _ _ _ => ⟨fun _ => trivial, fun _ => rfl⟩
  | cons call calls ih =>
      intro runtime bytes held
      have step := byte_list_step runtime handle bytes held call
      rw [HostContext.replies, bytesReplies, KeepsBytes, List.cons.injEq, ih _ _ step.1]
      refine and_congr_left fun _ => ?_
      constructor
      · intro same handsOn
        exact handsOn_reply bytes call handsOn (same ▸ step.2.1 handsOn)
      · exact step.2.2

/-- The same calls on a byte handle and on a byte list with the same bytes: equal replies, which
are those of the bytes with every append in them. -/
structure Interchangeable (left right : HostContext) (handle other : Pointer)
    (bytes : List UInt8) (calls : List OctetiCall) : Prop where
  same : left.replies handle calls = right.replies other calls
  seen : left.replies handle calls = bytesReplies bytes calls

theorem carriers_interchangeable_iff (left right : HostContext) (handle other : Pointer)
    (bytes : List UInt8) (calls : List OctetiCall)
    (octeti : left.findOcteti handle = some bytes)
    (byte_list : right.findArray other = some ⟨.u8, bytes.map .u8⟩) :
    Interchangeable left right handle other bytes calls ↔ KeepsBytes bytes calls := by
  have on_octeti := octeti_run handle calls left bytes octeti
  have on_list := byte_list_run other calls right bytes byte_list
  rw [← on_list]
  constructor
  · intro ⟨same, seen⟩
    rw [← same, seen]
  · intro replied
    exact ⟨by rw [on_octeti, replied], on_octeti⟩

/-- The byte of an `a`, on either carrier. -/
def octetiHost : HostContext := (HostContext.new.storeOcteti [97]).1

def byteListHost : HostContext :=
  (HostContext.new.containers (HostContext.new.storeArray .u8 [.u8 97])).1

theorem appended_byte_seen : Interchangeable octetiHost byteListHost (.box .octeti 0)
    (.box .arrays 0) [97] [.append 98, .get 1] :=
  (carriers_interchangeable_iff octetiHost byteListHost (.box .octeti 0) (.box .arrays 0) [97]
    [.append 98, .get 1] rfl rfl).mpr ⟨id, id, trivial⟩

/-- The text of a byte list is refused. -/
theorem byte_list_not_decoded :
    ¬Interchangeable octetiHost byteListHost (.box .octeti 0) (.box .arrays 0) [97]
      [.valorOcteti, .getText] := by
  intro ⟨same, _⟩
  have refused : byteListHost.replies (.box .arrays 0) [.valorOcteti, .getText] =
      [.failed, .failed] := rfl
  have on_octeti := octeti_run (.box .octeti 0) [.valorOcteti, .getText] octetiHost [97] rfl
  rw [refused, on_octeti, bytesReplies, bytesReply] at same
  cases same

end FaberRuntime.Host
