import FaberRuntime.Frame.Materialize

namespace FaberRuntime.Frame

open FrameStatus (isTerminal)

/-! What the materializers compute, as functions of the frames alone. -/

variable {σ : Type} [DecidableEq σ] [FrameStatus σ] {F α β ρ : Type}

def SermoInner.drainedBy (inner : SermoInner σ F) (terminal : Scrinium σ F) : SermoInner σ F :=
  { inner with incoming := [] }.recordIncomingTerminal terminal.status

/-- The first payload that does not convert decides, else the terminal, else the values do. -/
def convertingReference (debug : Valor F → String) (convert : Valor F → Except FrameError β)
    (assemble : List β → ρ) (content : List (Scrinium σ F)) (terminal : Scrinium σ F) :
    Except FrameError ρ :=
  match content.mapM (fun frame => convert frame.data), terminalError debug terminal with
  | .error error, _ => .error error
  | .ok _, some error => .error error
  | .ok values, none => .ok (assemble values)

/-- The terminal decides, else the content must be one frame that converts. -/
def onlyReference (debug : Valor F → String) (texts : OnlyTexts) (convert : Valor F → Option α)
    (content : List (Scrinium σ F)) (terminal : Scrinium σ F) : Except FrameError α :=
  match terminalError debug terminal, content with
  | some error, _ => .error error
  | none, [] => .error texts.noContent
  | none, [frame] =>
      match convert frame.data with
      | some value => .ok value
      | none => .error texts.mismatch
  | none, _ :: _ :: _ => .error (texts.multiple (UInt32.ofNat content.length))

def autoReference (debug : Valor F → String) {α : Type} (target : AutoTarget F α)
    (content : List (Scrinium σ F)) (terminal : Scrinium σ F) : Except FrameError α :=
  match target with
  | .lines => convertingReference debug (listaPayload stringFromValor) id content terminal
  | .bytes => convertingReference debug octetiPayload List.flatten content terminal
  | .text => convertingReference debug textusPayload String.join content terminal
  | .other fromValor => onlyReference debug scalarTexts fromValor content terminal

def Receiver.Hands (receiver : Receiver σ F) : Prop :=
  ∀ inner frame rest, inner.detached = false → inner.runtimeResponseGenerated = true →
    inner.incoming = frame :: rest →
    receiver.receive inner = (some (some frame), inner.takeFrame.2)

omit [DecidableEq σ] [FrameStatus σ] in
theorem ensure_started (inner : SermoInner σ F) (started : inner.runtimeResponseGenerated = true) :
    inner.ensureRuntimeResponseStarted = inner := by
  rw [SermoInner.ensureRuntimeResponseStarted, if_pos started]

theorem takeFrame_front (inner : SermoInner σ F) (frame : Scrinium σ F)
    (rest : List (Scrinium σ F)) (queue : inner.incoming = frame :: rest) :
    inner.takeFrame = (some frame, inner.takeFrame.2) := by
  unfold SermoInner.takeFrame
  rw [queue]
  simp only
  split <;> rfl

theorem syncReceiver_hands : (syncReceiver : Receiver σ F).Hands := by
  intro inner frame rest attached started queue
  have ready : ¬ inner.Waits := by
    intro waits
    rw [waits.1] at queue
    exact absurd queue (by simp)
  simp only [syncReceiver, SermoInner.sermoRecv, attached, Bool.false_eq_true, if_false,
    ensure_started inner started, SermoInner.recvLocked, if_neg ready]
  rw [takeFrame_front inner frame rest queue]

theorem asyncReceiver_hands (waker : Nat) : (asyncReceiver waker : Receiver σ F).Hands := by
  intro inner frame rest attached started queue
  have ready : inner.sermoRecvReady = (some frame, inner.takeFrame.2) := by
    simp only [SermoInner.sermoRecvReady, attached, queue, List.isEmpty_cons, Bool.false_eq_true,
      if_false]
    exact takeFrame_front inner frame rest queue
  simp only [asyncReceiver, SermoInner.recvAwait, ready]

theorem loop_front (receiver : Receiver σ F) (hands : receiver.Hands)
    (turn : α → Scrinium σ F → Exit α ⊕ α) (acc : α) (inner : SermoInner σ F)
    (attached : inner.detached = false) (started : inner.runtimeResponseGenerated = true)
    (frame : Scrinium σ F) (rest : List (Scrinium σ F)) (queue : inner.incoming = frame :: rest) :
    receiver.loop turn acc inner =
      match turn acc frame with
      | .inl ending => some (ending, inner.takeFrame.2)
      | .inr acc => receiver.loop turn acc inner.takeFrame.2 := by
  have received := hands inner frame rest attached started queue
  rw [Receiver.loop]
  split
  · rename_i waits
    rw [received] at waits
    exact absurd waits (by simp)
  · rename_i ended
    rw [received] at ended
    exact absurd ended (by simp)
  · rename_i taken found
    have same : taken = frame := by
      rw [received] at found
      exact (Option.some.inj (Option.some.inj found)).symm
    subst same
    cases turn acc taken with
    | inl ending => simp only [received]
    | inr next => simp only [received]

theorem takeFrame_content (inner : SermoInner σ F) (frame : Scrinium σ F)
    (rest : List (Scrinium σ F)) (queue : inner.incoming = frame :: rest)
    (plain : isTerminal frame.status = false) :
    inner.takeFrame.2 = { inner with incoming := rest } := by
  unfold SermoInner.takeFrame
  rw [queue]
  simp [plain]

theorem takeFrame_end (inner : SermoInner σ F) (terminal : Scrinium σ F)
    (queue : inner.incoming = [terminal]) (ends : isTerminal terminal.status = true) :
    inner.takeFrame.2 = inner.drainedBy terminal := by
  unfold SermoInner.takeFrame SermoInner.drainedBy
  rw [queue]
  simp [ends]

theorem terminalError_content (debug : Valor F → String) (frame : Scrinium σ F)
    (plain : isTerminal frame.status = false) : terminalError debug frame = none := by
  unfold terminalError
  rw [if_neg, if_neg]
  · intro cancel
    rw [cancel] at plain
    simp at plain
  · intro error
    rw [error] at plain
    simp at plain

theorem drain_eq (receiver : Receiver σ F) (hands : receiver.Hands) (content : List (Scrinium σ F))
    (terminal : Scrinium σ F) (inner : SermoInner σ F) (attached : inner.detached = false)
    (started : inner.runtimeResponseGenerated = true)
    (queue : inner.incoming = content ++ [terminal])
    (plain : ∀ frame ∈ content, isTerminal frame.status = false)
    (ends : isTerminal terminal.status = true) :
    receiver.drain inner = some (inner.drainedBy terminal) := by
  have looped : receiver.loop drainTurn () inner =
      some (.left (), inner.drainedBy terminal) := by
    induction content generalizing inner with
    | nil =>
        rw [loop_front receiver hands _ _ inner attached started terminal [] queue, drainTurn,
          if_pos ends, takeFrame_end inner terminal queue ends]
    | cons frame content ih =>
        have first := plain frame List.mem_cons_self
        rw [loop_front receiver hands _ _ inner attached started frame _ queue, drainTurn,
          if_neg (by simp [first]), takeFrame_content inner frame _ queue first]
        exact ih { inner with incoming := content ++ [terminal] } attached started rfl
          (fun later member => plain later (List.mem_cons_of_mem _ member))
  rw [Receiver.drain, looped]
  rfl

namespace Materializer

/-- The frames through the materializer: payload by payload, then the terminal. -/
def outcome (debug : Valor F → String) (materializer : Materializer F α ρ)
    (content : List (Scrinium σ F)) (terminal : Scrinium σ F) : Except FrameError ρ :=
  match content.foldlM (fun acc frame => materializer.content acc frame.data) materializer.initial,
      terminalError debug terminal with
  | .error error, _ => .error error
  | .ok _, some error => .error error
  | .ok acc, none => materializer.finish acc

theorem loop_eq (debug : Valor F → String) (materializer : Materializer F α ρ)
    (receiver : Receiver σ F) (hands : receiver.Hands) (content : List (Scrinium σ F))
    (terminal : Scrinium σ F) (acc : α) (inner : SermoInner σ F)
    (attached : inner.detached = false) (started : inner.runtimeResponseGenerated = true)
    (queue : inner.incoming = content ++ [terminal])
    (plain : ∀ frame ∈ content, isTerminal frame.status = false)
    (ends : isTerminal terminal.status = true) :
    match content.foldlM (fun acc frame => materializer.content acc frame.data) acc with
    | .ok last => receiver.loop (materializer.turn debug) acc inner =
        some (match terminalError debug terminal with
          | some error => .failed error
          | none => .left last, inner.drainedBy terminal)
    | .error error => ∃ rest, receiver.loop (materializer.turn debug) acc inner =
        some (.mismatched error, { inner with incoming := rest ++ [terminal] }) ∧
        ∀ frame ∈ rest, isTerminal frame.status = false := by
  induction content generalizing acc inner with
  | nil =>
      simp only [List.foldlM_nil, pure, Except.pure]
      rw [loop_front receiver hands _ _ inner attached started terminal [] queue, turn,
        takeFrame_end inner terminal queue ends]
      cases terminalError debug terminal with
      | some error => rfl
      | none => rw [if_pos ends]
  | cons frame content ih =>
      have first := plain frame List.mem_cons_self
      have later : ∀ frame ∈ content, isTerminal frame.status = false :=
        fun later member => plain later (List.mem_cons_of_mem _ member)
      have looped := loop_front receiver hands (materializer.turn debug) acc inner attached started
        frame _ queue
      rw [turn, terminalError_content debug frame first, takeFrame_content inner frame _ queue first]
        at looped
      simp only [first, Bool.false_eq_true, if_false] at looped
      simp only [List.foldlM_cons, bind, Except.bind]
      cases converted : materializer.content acc frame.data with
      | error error =>
          rw [converted] at looped
          exact ⟨content, looped, later⟩
      | ok next =>
          rw [converted] at looped
          simp only at looped ⊢
          rw [looped]
          exact ih next { inner with incoming := content ++ [terminal] } attached started rfl later

theorem run_eq (debug : Valor F → String) (materializer : Materializer F α ρ)
    (receiver : Receiver σ F) (hands : receiver.Hands) (content : List (Scrinium σ F))
    (terminal : Scrinium σ F) (inner : SermoInner σ F) (attached : inner.detached = false)
    (started : inner.runtimeResponseGenerated = true)
    (queue : inner.incoming = content ++ [terminal])
    (plain : ∀ frame ∈ content, isTerminal frame.status = false)
    (ends : isTerminal terminal.status = true) :
    materializer.run debug receiver inner =
      some (materializer.outcome debug content terminal, inner.drainedBy terminal) := by
  have looped := loop_eq debug materializer receiver hands content terminal materializer.initial
    inner attached started queue plain ends
  have ready : (if materializer.starts = true then inner.ensureRuntimeResponseStarted else inner) =
      inner := by
    rw [ensure_started inner started, ite_self]
  simp only [run, outcome, ready]
  revert looped
  cases content.foldlM (fun acc frame => materializer.content acc frame.data)
      materializer.initial with
  | ok last =>
      intro looped
      simp only at looped
      rw [looped]
      cases terminalError debug terminal <;> rfl
  | error error =>
      intro looped
      simp only at looped
      rcases looped with ⟨rest, looped, later⟩
      have drained := drain_eq receiver hands rest terminal
        { inner with incoming := rest ++ [terminal] } attached started rfl later ends
      rw [looped]
      simp only [drained]
      rfl

omit [DecidableEq σ] [FrameStatus σ] in
theorem foldlM_convert (convert : Valor F → Except FrameError β) (combine : α → β → α)
    (content : List (Scrinium σ F)) (acc : α) :
    content.foldlM (fun acc frame => (convert frame.data).map (combine acc)) acc =
      (content.mapM (fun frame => convert frame.data)).map
        (fun values => values.foldl combine acc) := by
  induction content generalizing acc with
  | nil => rfl
  | cons frame content ih =>
      simp only [List.foldlM_cons, List.mapM_cons, bind, Except.bind, pure, Except.pure, ih]
      cases convert frame.data with
      | error error => rfl
      | ok value =>
          simp only [Except.map]
          cases content.mapM (fun frame => convert frame.data) <;> rfl

theorem converting_outcome (debug : Valor F → String) (materializer : Materializer F α ρ)
    (convert : Valor F → Except FrameError β) (combine : α → β → α) (assemble : List β → ρ)
    (each : ∀ acc data, materializer.content acc data = (convert data).map (combine acc))
    (whole : ∀ values, materializer.finish (values.foldl combine materializer.initial) =
      .ok (assemble values))
    (content : List (Scrinium σ F)) (terminal : Scrinium σ F) :
    materializer.outcome debug content terminal =
      convertingReference debug convert assemble content terminal := by
  unfold outcome convertingReference
  simp only [each, foldlM_convert]
  cases content.mapM (fun frame => convert frame.data) with
  | error error => rfl
  | ok values =>
      simp only [Except.map]
      cases terminalError debug terminal with
      | some error => rfl
      | none => exact whole values

end Materializer

section References

variable (debug : Valor F → String) (content : List (Scrinium σ F)) (terminal : Scrinium σ F)

theorem vacuum_outcome : vacuum.outcome debug content terminal =
    convertingReference debug (fun _ => .ok ()) (fun _ => ()) content terminal :=
  Materializer.converting_outcome debug vacuum _ (fun _ _ => ()) _ (fun _ _ => rfl) (fun _ => rfl)
    content terminal

theorem textus_outcome : textus.outcome debug content terminal =
    convertingReference debug textusPayload String.join content terminal :=
  Materializer.converting_outcome debug textus _ (fun out text => out ++ text) _ (fun _ _ => rfl)
    (fun _ => rfl) content terminal

theorem octeti_outcome : octeti.outcome debug content terminal =
    convertingReference debug octetiPayload List.flatten content terminal := by
  apply Materializer.converting_outcome debug octeti _ (fun out bytes => out ++ bytes)
  · intro out data
    rfl
  · intro values
    have folded := @List.foldl_append_eq_append _ _ values id []
    simpa [octeti] using folded

theorem valor_outcome : valor.outcome debug content terminal =
    convertingReference debug .ok (fun values => values.head?.getD .nihil) content terminal := by
  apply Materializer.converting_outcome debug valor _
    (fun captured data => captured.orElse (fun _ => some data))
  · intro captured data
    rfl
  · intro values
    have kept (first : Valor F) (later : List (Valor F)) :
        later.foldl (fun captured data => captured.orElse (fun _ => some data)) (some first) =
          some first := by
      induction later with
      | nil => rfl
      | cons next later ih => exact ih
    cases values with
    | nil => rfl
    | cons first later =>
        simp only [valor, List.foldl_cons, Option.orElse_none]
        rw [kept first later]
        rfl

theorem lista_outcome (texts : Bool) (fromValor : Valor F → Option α) :
    (lista texts fromValor).outcome debug content terminal =
      convertingReference debug (listaPayload fromValor) id content terminal := by
  apply Materializer.converting_outcome debug (lista texts fromValor) _
    (fun out value => out ++ [value])
  · intro out data
    rfl
  · intro values
    simp [lista, ← List.flatMap_def]

omit [DecidableEq σ] [FrameStatus σ] in
theorem foldl_add (convert : Valor F → Option α) (extracted : Extracted α) :
    content.foldl (fun extracted frame => extracted.add convert frame.data) extracted =
      ⟨extracted.extracted.orElse (fun _ => content.findSome? (fun frame => convert frame.data)),
        extracted.contentCount + UInt32.ofNat content.length⟩ := by
  induction content generalizing extracted with
  | nil => simp
  | cons frame content ih =>
      rw [List.foldl_cons, ih]
      simp only [Extracted.add, List.findSome?_cons, List.length_cons, UInt32.ofNat_add]
      congr 1
      · cases extracted.extracted <;> cases convert frame.data <;> rfl
      · rw [UInt32.add_assoc, UInt32.add_comm 1]
        rfl

theorem only_outcome (texts : OnlyTexts) (convert : Valor F → Option α) :
    (only texts convert).outcome debug content terminal =
      match terminalError debug terminal with
      | some error => .error error
      | none => (only texts convert).finish
          ⟨content.findSome? (fun frame => convert frame.data), UInt32.ofNat content.length⟩ := by
  have folded : content.foldlM
      (fun extracted frame => (only texts convert).content extracted frame.data)
        (only texts convert).initial =
      Except.ok ⟨content.findSome? (fun frame => convert frame.data),
        UInt32.ofNat content.length⟩ := by
    have each : (fun extracted frame => (only texts convert).content extracted frame.data) =
        fun extracted (frame : Scrinium σ F) =>
          (pure (extracted.add convert frame.data) : Except FrameError (Extracted α)) := rfl
    rw [each, List.foldlM_pure, foldl_add]
    simp [only, pure, Except.pure]
  simp only [Materializer.outcome, folded]
  cases terminalError debug terminal <;> rfl

/-- As long as the count does not wrap, it is the number of content frames. -/
theorem only_reference (texts : OnlyTexts) (convert : Valor F → Option α)
    (few : content.length < 2 ^ 32) :
    (only texts convert).outcome debug content terminal =
      onlyReference debug texts convert content terminal := by
  rw [only_outcome]
  unfold onlyReference
  cases terminalError debug terminal with
  | some error => rfl
  | none =>
      match content, few with
      | [], _ => rfl
      | [frame], _ =>
          simp only [List.findSome?_cons, List.findSome?_nil, List.length_singleton]
          cases convert frame.data <;> rfl
      | first :: second :: rest, few =>
          have count : (UInt32.ofNat (first :: second :: rest).length).toNat = rest.length + 2 :=
            UInt32.toNat_ofNat_of_lt' few
          have nonzero : UInt32.ofNat (first :: second :: rest).length ≠ 0 := by
            intro zero
            rw [zero, UInt32.toNat_zero] at count
            omega
          have several : UInt32.ofNat (first :: second :: rest).length > 1 := by
            rw [gt_iff_lt, UInt32.lt_iff_toNat_lt, count, UInt32.toNat_one]
            omega
          simp only [only, if_neg nonzero, if_pos several]

theorem only_wraps (texts : OnlyTexts) (convert : Valor F → Option α) (value : α)
    (wraps : content.length % 2 ^ 32 = 1)
    (found : content.findSome? (fun frame => convert frame.data) = some value)
    (success : terminalError debug terminal = none) :
    (only texts convert).outcome debug content terminal = .ok value := by
  have one : UInt32.ofNat content.length = 1 := by
    apply UInt32.toNat_inj.mp
    rw [UInt32.toNat_ofNat', wraps, UInt32.toNat_one]
  rw [only_outcome, success, found, one]
  rfl

end References

/-- A conversation whose response was started and sent in full: content, then one terminal. -/
structure Queued (inner : SermoInner σ F) (content : List (Scrinium σ F))
    (terminal : Scrinium σ F) : Prop where
  started : inner.runtimeResponseGenerated = true
  attached : inner.detached = false
  queue : inner.incoming = content ++ [terminal]
  plain : ∀ frame ∈ content, isTerminal frame.status = false
  ends : isTerminal terminal.status = true

/-- Received either way, the stream gives the result and ends at its terminal. -/
def Gives (debug : Valor F → String) (waker : Nat) (inner : SermoInner σ F)
    (terminal : Scrinium σ F) (materializer : Materializer F α ρ)
    (result : Except FrameError ρ) : Prop :=
  materializer.run debug syncReceiver inner = some (result, inner.drainedBy terminal) ∧
    materializer.run debug (asyncReceiver waker) inner = some (result, inner.drainedBy terminal)

theorem gives_outcome (debug : Valor F → String) (waker : Nat) (inner : SermoInner σ F)
    (content : List (Scrinium σ F)) (terminal : Scrinium σ F)
    (queued : Queued inner content terminal) (materializer : Materializer F α ρ) :
    Gives debug waker inner terminal materializer
      (materializer.outcome debug content terminal) := by
  constructor
  · exact materializer.run_eq debug _ syncReceiver_hands content terminal inner queued.attached
      queued.started queued.queue queued.plain queued.ends
  · exact materializer.run_eq debug _ (asyncReceiver_hands waker) content terminal inner
      queued.attached queued.started queued.queue queued.plain queued.ends

theorem materializers_agree (debug : Valor F → String) (waker : Nat) (inner : SermoInner σ F)
    (content : List (Scrinium σ F)) (terminal : Scrinium σ F)
    (queued : Queued inner content terminal) :
    ((inner.drainedBy terminal).incoming = [] ∧
      (inner.drainedBy terminal).incomingDrained = true ∧
      (inner.drainedBy terminal).incomingTerminal = some terminal.status) ∧
    Gives debug waker inner terminal vacuum
      (convertingReference debug (fun _ => .ok ()) (fun _ => ()) content terminal) ∧
    Gives debug waker inner terminal textus
      (convertingReference debug textusPayload String.join content terminal) ∧
    Gives debug waker inner terminal octeti
      (convertingReference debug octetiPayload List.flatten content terminal) ∧
    Gives debug waker inner terminal valor
      (convertingReference debug .ok (fun values => values.head?.getD .nihil) content terminal) ∧
    (∀ {α : Type} (texts : Bool) (fromValor : Valor F → Option α),
      Gives debug waker inner terminal (lista texts fromValor)
        (convertingReference debug (listaPayload fromValor) id content terminal)) ∧
    (∀ {α : Type} (fromValor : Valor F → Option α), ∃ result,
      Gives debug waker inner terminal (scalar fromValor) result ∧
        (content.length < 2 ^ 32 →
          result = onlyReference debug scalarTexts fromValor content terminal)) ∧
    (∀ {α : Type} (tryFromValor : Valor F → Option α), ∃ result,
      Gives debug waker inner terminal (instans tryFromValor) result ∧
        (content.length < 2 ^ 32 →
          result = onlyReference debug instansTexts tryFromValor content terminal)) ∧
    (∀ {α : Type} (target : AutoTarget F α), ∃ result,
      auto debug syncReceiver target inner = some (result, inner.drainedBy terminal) ∧
        auto debug (asyncReceiver waker) target inner = some (result, inner.drainedBy terminal) ∧
        (content.length < 2 ^ 32 → result = autoReference debug target content terminal)) := by
  have gives {α ρ : Type} (materializer : Materializer F α ρ) :=
    gives_outcome debug waker inner content terminal queued materializer
  constructor
  · exact ⟨rfl, rfl, rfl⟩
  constructor
  · rw [← vacuum_outcome]
    exact gives vacuum
  constructor
  · rw [← textus_outcome]
    exact gives textus
  constructor
  · rw [← octeti_outcome]
    exact gives octeti
  constructor
  · rw [← valor_outcome]
    exact gives valor
  constructor
  · intro α texts fromValor
    rw [← lista_outcome debug content terminal texts]
    exact gives (lista texts fromValor)
  constructor
  · intro α fromValor
    exact ⟨_, gives (scalar fromValor), only_reference debug content terminal scalarTexts fromValor⟩
  constructor
  · intro α tryFromValor
    exact ⟨_, gives (instans tryFromValor),
      only_reference debug content terminal instansTexts tryFromValor⟩
  · intro α target
    cases target with
    | lines =>
        have both := gives (lista true stringFromValor)
        rw [lista_outcome] at both
        exact ⟨_, both.1, both.2, fun _ => rfl⟩
    | bytes =>
        have both := gives octeti
        rw [octeti_outcome] at both
        exact ⟨_, both.1, both.2, fun _ => rfl⟩
    | text =>
        have both := gives textus
        rw [textus_outcome] at both
        exact ⟨_, both.1, both.2, fun _ => rfl⟩
    | other fromValor =>
        have both := gives (scalar fromValor)
        exact ⟨_, both.1, both.2,
          only_reference debug content terminal scalarTexts fromValor⟩

/-- A started conversation with everything the producer sent still in the queue. -/
def sentInFull (content : List (Scrinium σ F)) (terminal : Scrinium σ F) : SermoInner σ F :=
  { (SermoInner.sermoOpen : SermoInner σ F) with
    incoming := content ++ [terminal]
    runtimeResponseGenerated := true }

theorem sentInFull_queued (content : List (Scrinium σ F)) (terminal : Scrinium σ F)
    (plain : ∀ frame ∈ content, isTerminal frame.status = false)
    (ends : isTerminal terminal.status = true) :
    Queued (sentInFull content terminal) content terminal :=
  ⟨rfl, rfl, rfl, plain, ends⟩

def byteFrames : List (Scrinium ContractStatus Unit) :=
  [⟨0, .byte, .octeti [1]⟩, ⟨1, .item, .lista [.numerus 2]⟩]

def doneFrame : Scrinium ContractStatus Unit := ⟨2, .done, .nihil⟩

theorem byte_frames_materialize :
    Gives (fun _ => "") 7 (sentInFull byteFrames doneFrame) doneFrame octeti (.ok [1, 2]) ∧
      doneFrame.status = .done :=
  ⟨(materializers_agree (fun _ => "") 7 _ byteFrames doneFrame
    (sentInFull_queued byteFrames doneFrame (by decide) rfl)).2.2.2.1, rfl⟩

def itemFrame : Scrinium ContractStatus Unit := ⟨0, .item, .nihil⟩

def errorFrame : Scrinium ContractStatus Unit := ⟨1, .error, .nihil⟩

/-- A scalar payload that does not convert before an error, and 2^32 + 1 that do before `done`. -/
theorem scalar_reference_fails :
    Gives (fun _ => "") 7 (sentInFull [itemFrame] errorFrame) errorFrame
      (scalar (fun _ => (none : Option Unit)))
      (.error ⟨"frame_materialization_terminal_error", "sermo materialization terminal error: "⟩) ∧
    Gives (fun _ => "") 7
      (sentInFull (List.replicate (2 ^ 32 + 1) itemFrame) doneFrame) doneFrame
      (scalar (fun _ => some ())) (.ok ()) := by
  constructor
  · exact gives_outcome (fun _ => "") 7 _ _ _
      (sentInFull_queued [itemFrame] errorFrame (by decide) rfl) _
  · have plain : ∀ frame ∈ List.replicate (2 ^ 32 + 1) itemFrame,
        isTerminal frame.status = false := by
      intro frame member
      rw [List.eq_of_mem_replicate member]
      rfl
    have gives := gives_outcome (fun _ => "") 7 _ _ _
      (sentInFull_queued (List.replicate (2 ^ 32 + 1) itemFrame) doneFrame plain rfl)
      (scalar (fun _ => some ()))
    have wrapped := only_wraps (fun _ => "") (List.replicate (2 ^ 32 + 1) itemFrame)
      doneFrame scalarTexts (fun _ => some ()) () (by rw [List.length_replicate]; decide)
      (by rw [List.replicate_succ, List.findSome?_cons]) rfl
    rw [scalar, wrapped] at gives
    exact gives

end FaberRuntime.Frame
