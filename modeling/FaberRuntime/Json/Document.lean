import FaberRuntime.Json.Completeness

namespace FaberRuntime.Json

open Scan

variable {F : Type} {float : FloatText F} {wire : List Char}

/-- What the type of a map promises: at every depth its entries are in key order. -/
inductive Ordered : Valor F → Prop
  | nihil : Ordered .nihil
  | bivalens (value : Bool) : Ordered (.bivalens value)
  | numerus (value : Int64) : Ordered (.numerus value)
  | fractus (value : F) : Ordered (.fractus value)
  | textus (text : String) : Ordered (.textus text)
  | octeti (bytes : List UInt8) : Ordered (.octeti bytes)
  | instans (text : String) : Ordered (.instans text)
  | lista (items : List (Valor F)) (within : ∀ item ∈ items, Ordered item) : Ordered (.lista items)
  | tabula (fields : List (String × Valor F)) (ascending : Ascending fields)
      (within : ∀ field ∈ fields, Ordered field.2) : Ordered (.tabula fields)

def Phrase.AllOf (holds : Valor F → Prop) : Phrase F → Prop
  | .value found => holds found
  | .padded found => holds found
  | .elements items => ∀ item ∈ items, holds item
  | .member _ found => holds found
  | .members entries => ∀ entry ∈ entries, holds entry.2

theorem derives_all {Unescaped : Char → Prop} (holds : Valor F → Prop) (nihil : holds .nihil)
    (bivalens : ∀ value, holds (.bivalens value)) (textus : ∀ text, holds (.textus text))
    (number : ∀ number : NumberToken, ∀ value, number.Denotes float value → holds value)
    (lista : ∀ items, (∀ item ∈ items, holds item) → holds (.lista items))
    (tabula : ∀ fields, Ascending fields → (∀ field ∈ fields, holds field.2) →
      holds (.tabula fields))
    (phrase : Phrase F) (text : List Char) (derives : Derives Unescaped float phrase text) :
    phrase.AllOf holds := by
  induction derives with
  | null => exact nihil
  | verum => exact bivalens true
  | falsum => exact bivalens false
  | number token value denotes => exact number token value denotes
  | text token text shape => exact textus text
  | emptyArray gap blank =>
      apply lista []
      intro item member
      cases member
  | array items body _ ih => exact lista items ih
  | emptyObject gap blank =>
      apply tabula [] List.Pairwise.nil
      intro field member
      cases member
  | object entries fields body _ _ kept ordered ih =>
      exact tabula fields ordered (fun field member => ih field (kept.mem_iff.mp member))
  | padded value before token after blank _ blank' ih => exact ih
  | lastElement item text _ ih => exact List.forall_mem_singleton.mpr ih
  | moreElements item items text body _ _ ih ih' => exact List.forall_mem_cons.mpr ⟨ih, ih'⟩
  | member key value before token after body blank name blank' _ ih => exact ih
  | lastMember key value text _ ih =>
      intro entry member
      rw [List.mem_singleton.mp member]
      exact ih
  | moreMembers key value entries text body _ _ ih ih' =>
      intro entry member
      rcases List.mem_cons.mp member with rfl | later
      · exact ih
      · exact ih' entry later

theorem derives_ordered {Unescaped : Char → Prop} (value : Valor F) (text : List Char)
    (derives : Derives Unescaped float (.padded value) text) : Ordered value := by
  apply derives_all Ordered .nihil .bivalens .textus _ .lista .tabula (.padded value) text derives
  intro number value denotes
  cases denotes with
  | integer whole fits => exact .numerus _
  | fraction value fractional parses finite => exact .fractus value

theorem validateItems_ok (items : List (Valor F)) (idx : Nat) (path : String)
    (valid : ∀ item ∈ items, ∀ path, validateValue float item path = .ok ()) :
    validateItems float items idx path = .ok () := by
  induction items generalizing idx with
  | nil => rw [validateItems]
  | cons item items ih =>
      rw [validateItems, valid item List.mem_cons_self]
      exact ih (idx + 1) (fun item member => valid item (List.mem_cons_of_mem _ member))

theorem validateFields_ok (fields : List (String × Valor F)) (path : String)
    (valid : ∀ field ∈ fields, ∀ path, validateValue float field.2 path = .ok ()) :
    validateFields float fields path = .ok () := by
  induction fields with
  | nil => rw [validateFields]
  | cons field fields ih =>
      rcases field with ⟨key, value⟩
      rw [validateFields, valid (key, value) List.mem_cons_self]
      exact ih (fun field member => valid field (List.mem_cons_of_mem _ member))

theorem derives_valid {Unescaped : Char → Prop} (value : Valor F) (text : List Char)
    (derives : Derives Unescaped float (.padded value) text) :
    ∀ path, validateValue float value path = .ok () := by
  apply derives_all (fun value => ∀ path, validateValue float value path = .ok ())
    (fun path => by rw [validateValue]) (fun value path => by rw [validateValue])
    (fun text path => by rw [validateValue]) _ _ _ (.padded value) text derives
  · intro number value denotes path
    cases denotes with
    | integer whole fits => rw [validateValue]
    | fraction value fractional parses finite =>
        rw [validateValue]
        exact (Checks.require_ok_iff _ _).mpr finite
  · intro items valid path
    rw [validateValue]
    exact validateItems_ok items 0 path valid
  · intro fields _ valid path
    rw [validateValue]
    exact validateFields_ok fields path valid

theorem ensures_document (float : FloatText F) (wire : List Char) :
    Ensures wire (parseDocument wire float) wire (fun value _ =>
      DocumentOf ParserUnescaped float value wire ∧ validateRoot float value = .ok ()) := by
  have fuel_enough : 3 * wire.length + 3 ≤ 3 * wire.length + 3 := Nat.le_refl _
  apply ensures_bind ((sound float wire _).value "$" wire fuel_enough)
  intro value left read
  rcases read with ⟨before, token, whole, blank, derives⟩
  apply ensures_bind (ensures_skipWs left)
  intro _ final skipped
  rcases skipped with ⟨_, after, rfl, blank'⟩
  apply ensures_position
  intro pos here
  split_ifs with eof
  · have done : final = [] := here.at_end.mp eof
    rw [done, List.append_nil] at whole
    cases valid : validateRoot float value with
    | error error => exact ensures_refuse error
    | ok _ =>
        have root : ∃ fields, value = .tabula fields := by
          cases value with
          | tabula fields => exact ⟨fields, rfl⟩
          | nihil | bivalens | numerus | fractus | textus | octeti | lista | instans => cases valid
        have document : DocumentOf ParserUnescaped float value wire := by
          constructor
          · exact root
          · rw [whole]
            exact .padded value before token after blank derives blank'
        exact ensures_pure value ⟨document, valid⟩
  · exact ensures_refuse _

theorem reads_document (value : Valor F) (document : DocumentOf ParserUnescaped float value wire) :
    Reads wire (parseDocument wire float) wire value [] := by
  rcases document with ⟨⟨fields, rfl⟩, derives⟩
  have valid : validateRoot float (.tabula fields) = .ok () := derives_valid _ _ derives "$"
  have completes : CompletesPadded float wire (.tabula fields) wire :=
    derives_completes (.padded _) wire derives
  rcases completes with ⟨before, token, after, whole, blank, blank', _, reads⟩
  have stops : Stops NumberChar after := by
    have trailing := stops_after NumberChar after [] blank' blank_not_number (stops_nil _)
    rwa [List.append_nil] at trailing
  have read := reads (3 * wire.length + 3) "$" before after blank stops
  rw [← whole] at read
  have skipped : Reads wire (skipWs wire) after () [] := by
    have skip : Reads wire (skipWs wire) (after ++ []) () [] :=
      reads_skipWs after [] blank' (stops_nil _)
    rwa [List.append_nil] at skip
  apply reads_bind (read (Nat.le_refl _))
  apply reads_bind skipped
  apply reads_position
  intro pos here
  rw [if_pos (here.at_end.mpr rfl), valid]
  exact reads_pure _

theorem parsed_document (value : Valor F) (next : Nat)
    (run : parseDocument wire float 0 = .ok (value, next)) :
    DocumentOf ParserUnescaped float value wire ∧ validateRoot float value = .ok () := by
  rcases ensures_document float wire 0 (At.start wire) with
    ⟨error, refused⟩ | ⟨found, _, _, read, _, holds⟩
  · rw [run] at refused
    cases refused
  · rw [run] at read
    cases read
    exact holds

end Json

/-- The `Json` carrier: a value that validation admits. -/
structure Json {F : Type} (float : Json.FloatText F) where
  value : Valor F
  ordered : Json.Ordered value
  valid : Json.validateRoot float value = .ok ()

namespace Json

open Scan

variable {F : Type} {float : FloatText F}

/-- `none` is the `unreachable!` of an unsupported variant. -/
def toWire (json : Json float) : Option (List Char) := renderValor float json.value

def parse (float : FloatText F) (wire : List Char) : Except (Halt JsonError) (Json float) :=
  match run : parseDocument wire float 0 with
  | .ok (value, next) =>
      have parsed := parsed_document value next run
      .ok ⟨value, derives_ordered value wire parsed.1.2, parsed.2⟩
  | .error halt => .error halt

theorem parse_ok_iff (wire : List Char) (value : Valor F) :
    (∃ json, parse float wire = .ok json ∧ json.value = value) ↔
      DocumentOf ParserUnescaped float value wire := by
  constructor
  · intro accepted
    rcases accepted with ⟨json, run, rfl⟩
    unfold parse at run
    split at run
    · rename_i found next parsed
      cases run
      exact (parsed_document found next parsed).1
    · cases run
  · intro document
    rcases reads_document value document 0 (At.start wire) with ⟨next, run, _⟩
    unfold parse
    split
    · rename_i found next' parsed
      rw [run] at parsed
      cases parsed
      exact ⟨_, rfl, rfl⟩
    · rename_i halt parsed
      rw [run] at parsed
      cases parsed

theorem parse_halts (float : FloatText F) (wire : List Char) :
    (∃ json, parse float wire = .ok json) ∨ ∃ error, parse float wire = .error (.refused error) := by
  unfold parse
  split
  · exact Or.inl ⟨_, rfl⟩
  · rename_i halt parsed
    rcases ensures_document float wire 0 (At.start wire) with ⟨error, refused⟩ | ⟨_, _, _, read, _⟩
    · rw [refused] at parsed
      cases parsed
      exact Or.inr ⟨error, rfl⟩
    · rw [read] at parsed
      cases parsed

end FaberRuntime.Json
