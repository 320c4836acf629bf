import FaberRuntime.Foundation.Occurrences
import FaberRuntime.Tokenizer.Bpe

namespace FaberRuntime.Tokenizer

open Checks Occurrences Text

/-! The special-token partition: the text is cut into fragments, one special after the other. -/

inductive Fragment
  | token (id : UInt32)
  | text (start len : Nat)
  deriving DecidableEq, Repr

inductive SpecialKind
  | control
  | userDefined
  | unknown
  deriving DecidableEq, Repr

/-- The constructor of the tokenizer refuses an empty token text. -/
structure Special where
  text : List Char
  id : UInt32
  kind : SpecialKind
  nonempty : text ≠ []

def byteSlice (bytes : List UInt8) (start stop : Nat) : Except Failure (List UInt8) :=
  if start ≤ stop ∧ stop ≤ bytes.length then .ok ((bytes.drop start).take (stop - start))
  else .error .panicked

def findBytes (haystack pattern : List UInt8) (start stop : Nat) : Except Failure (Option Nat) :=
  if pattern = [] ∨ stop < start + pattern.length then pure none
  else do
    let range ← byteSlice haystack start stop
    pure (((windows pattern.length range).findIdx? (· = pattern)).map (start + ·))

/-- `fragments.splice(index..=index, replacement)`. -/
def splice (fragments : List Fragment) (index : Nat) (replacement : List Fragment) :
    Except Failure (List Fragment) :=
  if index < fragments.length then
    .ok (fragments.take index ++ replacement ++ fragments.drop (index + 1))
  else .error .panicked

/-- The inner loop: the last fragment of each split is searched again. The result has the lengths of
all replacements added up. -/
def splitLoop (raw pattern : List UInt8) (id : UInt32) :
    Nat → List Fragment → Nat → Nat → Nat → Nat → Except Failure (List Fragment × Nat)
  | 0, _, _, _, _, _ => .error .unfinished
  | fuel + 1, fragments, insertAt, total, base, baseLen => do
      let stop := base + baseLen
      match ← findBytes raw pattern base stop with
      | none => pure (fragments, total)
      | some m =>
          let rightStart := m + pattern.length
          let rightLen := stop - rightStart
          let replacement := (if base < m then [Fragment.text base (m - base)] else []) ++
            [Fragment.token id] ++
            (if 0 < rightLen then [Fragment.text rightStart rightLen] else [])
          let fragments ← splice fragments insertAt replacement
          let total := total + replacement.length
          if rightLen = 0 then pure (fragments, total)
          else
            splitLoop raw pattern id fuel fragments (insertAt + (replacement.length - 1)) total
              rightStart rightLen

/-- `while i < fragments.len()`; `inner` bounds the rounds of the inner loop. -/
def walkFragments (raw : List UInt8) (special : Special) (inner : Nat) :
    Nat → List Fragment → Nat → Except Failure (List Fragment)
  | fuel, fragments, i =>
      match fragments[i]? with
      | none => pure fragments
      | some fragment =>
          match fuel with
          | 0 => .error .unfinished
          | fuel + 1 =>
              match fragment with
              | .token _ => walkFragments raw special inner fuel fragments (i + 1)
              | .text start len => do
                  let (fragments, total) ←
                    splitLoop raw (utf8Bytes special.text) special.id inner fragments i 0 start len
                  walkFragments raw special inner fuel fragments
                    (i + if total = 0 then 1 else total)

def partitionFragments (fuel : Nat) (fragments : List Fragment) (raw : List UInt8)
    (special : Special) : Except Failure (List Fragment) :=
  walkFragments raw special fuel fuel fragments 0

/-- Control and unknown specials are left alone when specials are not parsed. -/
def Special.enabled (special : Special) (parseSpecial : Bool) : Bool :=
  parseSpecial || !(special.kind = .control || special.kind = .unknown)

def specialPartition (fuel : Nat) (specials : List Special) (raw : List UInt8)
    (parseSpecial : Bool) : Except Failure (List Fragment) :=
  specials.foldlM (fun fragments special =>
    if special.enabled parseSpecial then partitionFragments fuel fragments raw special
    else pure fragments) [.text 0 raw.length]

def gap (start stop : Nat) : List Fragment :=
  if start < stop then [.text start (stop - start)] else []

def cuts (id : UInt32) (size stop : Nat) : Nat → List Nat → List Fragment
  | base, [] => [.text base (stop - base)]
  | base, offset :: offsets => gap base offset ++ .token id ::
      if offset + size < stop then cuts id size stop (offset + size) offsets else []

/-- The lengths of all replacements; the part behind an offset counts again when it is cut. -/
def counted (size stop : Nat) : Nat → List Nat → Nat
  | _, [] => 0
  | base, offset :: offsets => (gap base offset).length + 1 + (gap (offset + size) stop).length +
      if offset + size < stop then counted size stop (offset + size) offsets else 0

def Special.bytes (special : Special) : List UInt8 := utf8Bytes special.text

/-- The walk over the fragments, the first `skip` of which its index has already passed. -/
def pass (raw : List UInt8) (special : Special) : Nat → List Fragment → List Fragment
  | _, [] => []
  | skip + 1, fragment :: fragments => fragment :: pass raw special skip fragments
  | 0, .token id :: fragments => .token id :: pass raw special 0 fragments
  | 0, .text start len :: fragments =>
      let offsets := leftmost special.bytes raw start (start + len)
      let pieces := cuts special.id special.bytes.length (start + len) start offsets
      pieces ++ pass raw special
        (counted special.bytes.length (start + len) start offsets - pieces.length) fragments

/-- The fragments stand one behind the other, each special for its own text. -/
def Tile (raw : List UInt8) (specials : List Special) : Nat → List Fragment → Nat → Prop
  | start, [], stop => start = stop
  | start, .text base len :: fragments, stop =>
      base = start ∧ 0 < len ∧ start + len ≤ raw.length ∧
        Tile raw specials (start + len) fragments stop
  | start, .token id :: fragments, stop => ∃ special ∈ specials, special.id = id ∧
      OccursAt special.bytes raw start ∧
        Tile raw specials (start + special.bytes.length) fragments stop

theorem special_bytes_ne (special : Special) : special.bytes ≠ [] := by
  obtain ⟨c, text, same⟩ := List.exists_cons_of_ne_nil special.nonempty
  rw [Special.bytes, same, utf8Bytes, List.flatMap_cons]
  intro empty
  have length := congrArg List.length (List.append_eq_nil_iff.mp empty).1
  rw [String.length_utf8EncodeChar, List.length_nil] at length
  have size := c.utf8Size_pos
  omega

theorem findBytes_eq (raw pattern : List UInt8) (start stop : Nat) (ordered : start ≤ stop)
    (within : stop ≤ raw.length) :
    findBytes raw pattern start stop = .ok (search pattern raw start stop) := by
  rw [findBytes, search]
  split_ifs with trivial_
  · rfl
  · rw [byteSlice, if_pos ⟨ordered, within⟩]
    rfl

theorem splice_at (before after replacement : List Fragment) (fragment : Fragment) :
    splice (before ++ fragment :: after) before.length replacement =
      .ok (before ++ replacement ++ after) := by
  have inside : before.length < (before ++ fragment :: after).length := by
    rw [List.length_append, List.length_cons]
    omega
  rw [splice, if_pos inside, List.take_left, ← List.drop_drop, List.drop_left]
  rfl

theorem splitLoop_cuts (raw pattern : List UInt8) (id : UInt32) (nonempty : pattern ≠ [])
    (fuel : Nat) (before after : List Fragment) (total base stop : Nat) (some_text : base < stop)
    (within : stop ≤ raw.length) (enough : stop - base < fuel) :
    splitLoop raw pattern id fuel (before ++ .text base (stop - base) :: after) before.length total
        base (stop - base) =
      .ok (before ++ cuts id pattern.length stop base (leftmost pattern raw base stop) ++ after,
        total + counted pattern.length stop base (leftmost pattern raw base stop)) := by
  induction fuel generalizing before total base with
  | zero => omega
  | succ fuel ih =>
      have whole : base + (stop - base) = stop := by omega
      have size := List.length_pos_iff.mpr nonempty
      rw [splitLoop]
      dsimp only
      rw [whole, findBytes_eq raw pattern base stop some_text.le within]
      cases found : search pattern raw base stop with
      | none =>
          rw [leftmost_none pattern raw base stop found, cuts, counted, List.append_assoc]
          rfl
      | some offset =>
          obtain ⟨behind, fits, _, _⟩ := search_some pattern raw base stop offset within found
          have replaced : ((if base < offset then [Fragment.text base (offset - base)] else []) ++
              [Fragment.token id] ++ if 0 < stop - (offset + pattern.length) then
                [Fragment.text (offset + pattern.length) (stop - (offset + pattern.length))]
              else []) = gap base offset ++ .token id :: gap (offset + pattern.length) stop := by
            rw [gap, gap, List.append_assoc]
            simp only [Nat.sub_pos_iff_lt, List.singleton_append]
          rw [leftmost_some pattern raw base stop offset found, cuts, counted]
          dsimp only [bind, Except.bind]
          rw [replaced, splice_at]
          dsimp only
          by_cases more : offset + pattern.length < stop
          · have later := ih (before ++ (gap base offset ++ [.token id]))
              (total + ((gap base offset).length + 1 + 1)) (offset + pattern.length) more (by omega)
            have right : gap (offset + pattern.length) stop =
                [.text (offset + pattern.length) (stop - (offset + pattern.length))] := if_pos more
            have place : before.length + ((gap base offset ++ Fragment.token id ::
                [Fragment.text (offset + pattern.length)
                  (stop - (offset + pattern.length))]).length - 1) =
                (before ++ (gap base offset ++ [Fragment.token id])).length := by
              simp only [List.length_append, List.length_cons, List.length_nil]
              omega
            have listed : before ++ (gap base offset ++ Fragment.token id ::
                [Fragment.text (offset + pattern.length)
                  (stop - (offset + pattern.length))]) ++ after =
                before ++ (gap base offset ++ [Fragment.token id]) ++
                  .text (offset + pattern.length) (stop - (offset + pattern.length)) :: after := by
              simp only [List.append_assoc, List.cons_append, List.nil_append]
            have sum : total + (gap base offset ++ Fragment.token id ::
                [Fragment.text (offset + pattern.length)
                  (stop - (offset + pattern.length))]).length =
                total + ((gap base offset).length + 1 + 1) := by
              simp only [List.length_append, List.length_cons, List.length_nil, Nat.add_assoc]
            rw [if_neg (by omega), if_pos more, if_pos more, right, place, listed, sum, later]
            simp only [List.append_assoc, List.cons_append, List.nil_append, List.length_singleton,
              Nat.add_assoc]
          · have right : gap (offset + pattern.length) stop = [] := if_neg more
            rw [if_pos (by omega), if_neg more, if_neg more, right, List.append_assoc,
              List.length_append, List.length_singleton]
            rfl

theorem gap_length (start stop : Nat) : (gap start stop).length = if start < stop then 1 else 0 := by
  rw [gap]
  split_ifs <;> rfl

theorem counted_eq (id : UInt32) (size stop base : Nat) (offsets : List Nat) (positive : 0 < size)
    (apart : Apart size base offsets stop) :
    counted size stop base offsets + 1 = (cuts id size stop base offsets).length +
      (offsets.length - 1) + if offsets = [] then 0 else 1 := by
  induction offsets generalizing base with
  | nil => rfl
  | cons offset offsets ih =>
      have fits := apart_le size _ stop offsets apart.2
      rw [counted, cuts, List.length_append, List.length_cons, List.length_cons,
        if_neg (List.cons_ne_nil _ _), gap_length (offset + size)]
      by_cases more : offset + size < stop
      · have rest := ih (offset + size) apart.2
        rw [if_pos more, if_pos more, if_pos more]
        by_cases last : offsets = []
        · rw [if_pos last] at rest
          rw [last, List.length_nil] at rest ⊢
          omega
        · have some_left := List.length_pos_iff.mpr last
          rw [if_neg last] at rest
          omega
      · have last : offsets = [] := by
          cases offsets with
          | nil => rfl
          | cons other offsets =>
              have behind := apart.2.1
              have ends := apart_le size _ stop offsets apart.2.2
              omega
        rw [if_neg more, if_neg more, if_neg more, last, List.length_nil, List.length_nil]

theorem cuts_length_pos (id : UInt32) (size stop base : Nat) (offsets : List Nat) :
    0 < (cuts id size stop base offsets).length := by
  cases offsets with
  | nil => exact Nat.one_pos
  | cons offset offsets =>
      rw [cuts, List.length_append, List.length_cons]
      omega

theorem walkFragments_pass (raw : List UInt8) (special : Special) (inner fuel : Nat)
    (done todo : List Fragment) (skip : Nat) (room : raw.length < inner)
    (enough : todo.length ≤ fuel)
    (texts : ∀ start len, .text start len ∈ todo → 0 < len ∧ start + len ≤ raw.length) :
    walkFragments raw special inner fuel (done ++ todo) (done.length + skip) =
      .ok (done ++ pass raw special skip todo) := by
  induction todo generalizing done skip fuel with
  | nil =>
      rw [List.append_nil, walkFragments, List.getElem?_eq_none (Nat.le_add_right _ _), pass,
        List.append_nil]
      rfl
  | cons fragment todo ih =>
      have later_texts : ∀ start len, .text start len ∈ todo → 0 < len ∧ start + len ≤ raw.length :=
        fun start len member => texts start len (List.mem_cons_of_mem _ member)
      rw [List.length_cons] at enough
      cases skip with
      | succ skip =>
          have later := ih fuel (done ++ [fragment]) skip (by omega) later_texts
          rw [List.length_append, List.length_singleton, Nat.add_assoc, Nat.add_comm 1,
            List.append_assoc, List.append_assoc] at later
          exact later
      | zero =>
          obtain ⟨fuel, rfl⟩ : ∃ less, fuel = less + 1 := ⟨fuel - 1, by omega⟩
          have here : (done ++ fragment :: todo)[done.length + 0]? = some fragment := by
            rw [Nat.add_zero, List.getElem?_append_right le_rfl, Nat.sub_self,
              List.getElem?_cons_zero]
          rw [walkFragments, here]
          cases fragment with
          | token id =>
              have later := ih fuel (done ++ [.token id]) 0 (by omega) later_texts
              rw [List.length_append, List.length_singleton, List.append_assoc, List.append_assoc,
                Nat.add_zero] at later
              exact later
          | text start len =>
              obtain ⟨some_text, within⟩ := texts start len List.mem_cons_self
              have loop := splitLoop_cuts raw special.bytes special.id (special_bytes_ne special)
                inner done todo 0 start (start + len) (by omega) within (by omega)
              rw [Nat.add_sub_cancel_left, Nat.zero_add] at loop
              rw [pass]
              dsimp only
              have apart := leftmost_apart special.bytes raw start (start + len) within (by omega)
              generalize leftmost special.bytes raw start (start + len) = offsets at loop apart
              have sum := counted_eq special.id special.bytes.length (start + len) start offsets
                (List.length_pos_iff.mpr (special_bytes_ne special)) apart
              have some_piece := cuts_length_pos special.id special.bytes.length (start + len)
                start offsets
              have later := ih fuel
                (done ++ cuts special.id special.bytes.length (start + len) start offsets)
                (counted special.bytes.length (start + len) start offsets -
                  (cuts special.id special.bytes.length (start + len) start offsets).length)
                (by omega) later_texts
              have step : done.length +
                  (if counted special.bytes.length (start + len) start offsets = 0 then 1
                    else counted special.bytes.length (start + len) start offsets) =
                  (done ++ cuts special.id special.bytes.length (start + len) start offsets).length +
                  (counted special.bytes.length (start + len) start offsets -
                    (cuts special.id special.bytes.length (start + len) start offsets).length) := by
                rw [List.length_append]
                by_cases none_found : offsets = []
                · rw [none_found, counted, if_pos rfl, cuts, List.length_singleton]
                · rw [if_neg none_found] at sum
                  rw [if_neg (by omega)]
                  omega
              rw [Nat.add_zero]
              change (splitLoop raw special.bytes special.id inner _ _ 0 start len >>= _) = _
              rw [loop]
              dsimp only [bind, Except.bind]
              rw [step, later, List.append_assoc]

section Tiling

variable (raw : List UInt8) (specials : List Special)

theorem tile_append (start stop : Nat) (fragments others : List Fragment) :
    Tile raw specials start (fragments ++ others) stop ↔
      ∃ middle, Tile raw specials start fragments middle ∧
        Tile raw specials middle others stop := by
  induction fragments generalizing start with
  | nil => simp [Tile]
  | cons fragment fragments ih =>
      cases fragment with
      | text base len =>
          rw [List.cons_append, Tile, ih]
          simp only [Tile]
          constructor
          · rintro ⟨here, positive, within, middle, first, second⟩
            exact ⟨middle, ⟨here, positive, within, first⟩, second⟩
          · rintro ⟨middle, ⟨here, positive, within, first⟩, second⟩
            exact ⟨here, positive, within, middle, first, second⟩
      | token id =>
          rw [List.cons_append, Tile]
          simp only [Tile, ih]
          constructor
          · rintro ⟨special, member, same, occurs, middle, first, second⟩
            exact ⟨middle, ⟨special, member, same, occurs, first⟩, second⟩
          · rintro ⟨middle, ⟨special, member, same, occurs, first⟩, second⟩
            exact ⟨special, member, same, occurs, middle, first, second⟩

theorem tile_gap (start stop : Nat) (ordered : start ≤ stop) (within : stop ≤ raw.length) :
    Tile raw specials start (gap start stop) stop := by
  rw [gap]
  split_ifs with some_text
  · exact ⟨rfl, by omega, by omega, show start + (stop - start) = stop by omega⟩
  · exact Nat.le_antisymm ordered (Nat.le_of_not_lt some_text)

theorem tile_cuts (special : Special) (member : special ∈ specials) (base stop : Nat)
    (some_text : base < stop) (within : stop ≤ raw.length) :
    Tile raw specials base (cuts special.id special.bytes.length stop base
      (leftmost special.bytes raw base stop)) stop := by
  induction base using leftmost.induct special.bytes raw stop with
  | case1 base absent =>
      rw [leftmost_none special.bytes raw base stop absent, cuts]
      exact ⟨rfl, by omega, by omega, show base + (stop - base) = stop by omega⟩
  | case2 base offset found ih =>
      obtain ⟨behind, fits, occurs, _⟩ :=
        search_some special.bytes raw base stop offset within found
      rw [leftmost_some special.bytes raw base stop offset found, cuts, tile_append]
      refine ⟨offset, tile_gap raw specials base offset behind (by omega), special, member, rfl,
        occurs, ?_⟩
      split_ifs with more
      · exact ih more
      · exact Nat.le_antisymm fits (Nat.le_of_not_lt more)

theorem tile_le (start stop : Nat) (fragments : List Fragment)
    (tile : Tile raw specials start fragments stop) : start + fragments.length ≤ stop := by
  induction fragments generalizing start with
  | nil => exact tile.le
  | cons fragment fragments ih =>
      rw [List.length_cons]
      cases fragment with
      | text base len =>
          obtain ⟨_, positive, _, later⟩ := tile
          have rest := ih _ later
          omega
      | token id =>
          obtain ⟨special, _, _, _, later⟩ := tile
          have rest := ih _ later
          have size := List.length_pos_iff.mpr (special_bytes_ne special)
          omega

theorem tile_texts (start stop : Nat) (fragments : List Fragment)
    (tile : Tile raw specials start fragments stop) (base len : Nat)
    (member : .text base len ∈ fragments) : 0 < len ∧ base + len ≤ raw.length := by
  induction fragments generalizing start with
  | nil => exact absurd member List.not_mem_nil
  | cons fragment fragments ih =>
      cases fragment with
      | text base' len' =>
          obtain ⟨here, positive, within, later⟩ := tile
          obtain same | in_rest := List.mem_cons.mp member
          · obtain ⟨rfl, rfl⟩ := Fragment.text.inj same
            exact ⟨positive, by omega⟩
          · exact ih _ later in_rest
      | token id =>
          obtain ⟨special, _, _, _, later⟩ := tile
          obtain same | in_rest := List.mem_cons.mp member
          · cases same
          · exact ih _ later in_rest

theorem tile_pass (special : Special) (member : special ∈ specials) (skip start stop : Nat)
    (fragments : List Fragment) (tile : Tile raw specials start fragments stop) :
    Tile raw specials start (pass raw special skip fragments) stop := by
  induction fragments generalizing skip start with
  | nil => exact tile
  | cons fragment fragments ih =>
      cases skip with
      | succ skip =>
          cases fragment with
          | text base len =>
              obtain ⟨here, positive, within, later⟩ := tile
              exact ⟨here, positive, within, ih skip _ later⟩
          | token id =>
              obtain ⟨other, known, same, occurs, later⟩ := tile
              exact ⟨other, known, same, occurs, ih skip _ later⟩
      | zero =>
          cases fragment with
          | text base len =>
              obtain ⟨rfl, positive, within, later⟩ := tile
              rw [pass, tile_append]
              exact ⟨base + len, tile_cuts raw specials special member base (base + len)
                (by omega) within, ih _ _ later⟩
          | token id =>
              obtain ⟨other, known, same, occurs, later⟩ := tile
              exact ⟨other, known, same, occurs, ih 0 _ later⟩

theorem partitionFragments_pass (fuel : Nat) (special : Special) (fragments : List Fragment)
    (room : raw.length < fuel) (tile : Tile raw specials 0 fragments raw.length) :
    partitionFragments fuel fragments raw special = .ok (pass raw special 0 fragments) := by
  have few := tile_le raw specials 0 raw.length fragments tile
  exact walkFragments_pass raw special fuel fuel [] fragments 0 room (by omega)
    (tile_texts raw specials 0 raw.length fragments tile)

end Tiling

def passes (raw : List UInt8) (specials : List Special) (parseSpecial : Bool)
    (fragments : List Fragment) : List Fragment :=
  (specials.filter (·.enabled parseSpecial)).foldl (fun fragments special =>
    pass raw special 0 fragments) fragments

theorem partitions_passes (fuel : Nat) (raw : List UInt8) (parseSpecial : Bool)
    (room : raw.length < fuel) (known specials : List Special) (fragments : List Fragment)
    (tile : Tile raw known 0 fragments raw.length)
    (sound : ∀ special ∈ specials, special.enabled parseSpecial = true → special ∈ known) :
    specials.foldlM (fun fragments special =>
        if special.enabled parseSpecial then partitionFragments fuel fragments raw special
        else pure fragments) fragments =
        .ok (passes raw specials parseSpecial fragments) ∧
      Tile raw known 0 (passes raw specials parseSpecial fragments) raw.length := by
  induction specials generalizing fragments with
  | nil => exact ⟨rfl, tile⟩
  | cons special specials ih =>
      obtain ⟨first, others⟩ := List.forall_mem_cons.mp sound
      rw [List.foldlM_cons, passes]
      by_cases enabled : special.enabled parseSpecial = true
      · have passed := tile_pass raw known special (first enabled) 0 0 raw.length fragments tile
        have later := ih (pass raw special 0 fragments) passed others
        rw [if_pos enabled, partitionFragments_pass raw known fuel special fragments room tile,
          List.filter_cons_of_pos (p := fun special : Special => special.enabled parseSpecial) enabled, List.foldl_cons]
        exact later
      · rw [if_neg enabled,
          List.filter_cons_of_neg (p := fun special : Special => special.enabled parseSpecial) enabled]
        exact ih fragments tile others

/-- The partition ends, and its fragments tile the text, the specials standing for their own
texts. -/
theorem special_partition_tiles (fuel : Nat) (specials : List Special) (raw : List UInt8)
    (parseSpecial : Bool) (nonempty : raw ≠ []) (room : raw.length < fuel) :
    ∃ fragments, specialPartition fuel specials raw parseSpecial = .ok fragments ∧
      Tile raw (specials.filter (·.enabled parseSpecial)) 0 fragments raw.length := by
  have positive := List.length_pos_iff.mpr nonempty
  have start : Tile raw (specials.filter (·.enabled parseSpecial)) 0 [.text 0 raw.length]
      raw.length := ⟨rfl, positive, by omega, by rw [Tile]; omega⟩
  exact ⟨_, partitions_passes fuel raw parseSpecial room _ specials _ start
    fun special member enabled => List.mem_filter.mpr ⟨member, enabled⟩⟩

def endMark : Special := ⟨['a', 'b'], 0, .control, by decide⟩

theorem partition_tiles_sample :
    ∃ fragments, specialPartition 8 [endMark] [97, 98, 99, 97, 98] true = .ok fragments ∧
      Tile [97, 98, 99, 97, 98] ([endMark].filter (·.enabled true)) 0 fragments 5 :=
  special_partition_tiles 8 [endMark] [97, 98, 99, 97, 98] true (by decide) (by decide)

def Clean (raw pattern : List UInt8) (fragments : List Fragment) : Prop :=
  ∀ start len, .text start len ∈ fragments → ∀ offset, start ≤ offset →
    offset + pattern.length ≤ start + len → ¬OccursAt pattern raw offset

def Finer (fragments others : List Fragment) : Prop :=
  ∀ start len, .text start len ∈ fragments → ∃ outer size, .text outer size ∈ others ∧
    outer ≤ start ∧ start + len ≤ outer + size

theorem clean_finer (raw pattern : List UInt8) (fragments others : List Fragment)
    (finer : Finer fragments others) (clean : Clean raw pattern others) :
    Clean raw pattern fragments := by
  intro start len member offset after fits
  obtain ⟨outer, size, inside, before, behind⟩ := finer start len member
  exact clean outer size inside offset (by omega) (by omega)

theorem mem_gap (start stop base len : Nat) (member : .text base len ∈ gap start stop) :
    base = start ∧ base + len = stop := by
  rw [gap] at member
  split_ifs at member with some_text
  · obtain ⟨rfl, rfl⟩ := Fragment.text.inj (List.mem_singleton.mp member)
    exact ⟨rfl, by omega⟩
  · exact absurd member List.not_mem_nil

theorem cuts_clean (raw : List UInt8) (special : Special) (base stop : Nat) (some_text : base < stop)
    (within : stop ≤ raw.length) (start len : Nat)
    (member : .text start len ∈ cuts special.id special.bytes.length stop base
      (leftmost special.bytes raw base stop)) :
    base ≤ start ∧ start + len ≤ stop ∧ ∀ offset, start ≤ offset →
      offset + special.bytes.length ≤ start + len → ¬OccursAt special.bytes raw offset := by
  induction base using leftmost.induct special.bytes raw stop with
  | case1 base absent =>
      rw [leftmost_none special.bytes raw base stop absent, cuts] at member
      obtain ⟨rfl, rfl⟩ := Fragment.text.inj (List.mem_singleton.mp member)
      refine ⟨le_rfl, by omega, fun offset after fits => ?_⟩
      exact search_none special.bytes raw start stop (special_bytes_ne special) within absent offset
        after (by omega)
  | case2 base found_at found ih =>
      obtain ⟨behind, fits, _, earliest⟩ :=
        search_some special.bytes raw base stop found_at within found
      have size := List.length_pos_iff.mpr (special_bytes_ne special)
      rw [leftmost_some special.bytes raw base stop found_at found, cuts] at member
      obtain in_gap | in_rest := List.mem_append.mp member
      · obtain ⟨rfl, ends⟩ := mem_gap base found_at start len in_gap
        exact ⟨le_rfl, by omega, fun offset after within_gap =>
          earliest offset after (by omega)⟩
      · obtain is_token | in_rest := List.mem_cons.mp in_rest
        · cases is_token
        · split_ifs at in_rest with more
          · obtain ⟨after, before, clean⟩ := ih more in_rest
            exact ⟨by omega, before, clean⟩
          · exact absurd in_rest List.not_mem_nil

theorem pass_finer (raw : List UInt8) (special : Special) (skip : Nat) (fragments : List Fragment)
    (texts : ∀ start len, .text start len ∈ fragments → 0 < len ∧ start + len ≤ raw.length) :
    Finer (pass raw special skip fragments) fragments := by
  induction fragments generalizing skip with
  | nil => exact fun start len member => absurd member List.not_mem_nil
  | cons fragment fragments ih =>
      have later_texts : ∀ start len, .text start len ∈ fragments →
          0 < len ∧ start + len ≤ raw.length :=
        fun start len member => texts start len (List.mem_cons_of_mem _ member)
      have widened (skip : Nat) : Finer (pass raw special skip fragments) (fragment :: fragments) := by
        intro start len member
        obtain ⟨outer, size, inside, bounds⟩ := ih skip later_texts start len member
        exact ⟨outer, size, List.mem_cons_of_mem _ inside, bounds⟩
      have kept (skip : Nat) :
          Finer (fragment :: pass raw special skip fragments) (fragment :: fragments) := by
        intro start len member
        obtain same | later := List.mem_cons.mp member
        · exact ⟨start, len, List.mem_cons.mpr (Or.inl same), le_rfl, le_rfl⟩
        · exact widened skip start len later
      cases skip with
      | succ skip => exact kept skip
      | zero =>
          cases fragment with
          | token id => exact kept 0
          | text base size =>
              obtain ⟨positive, within⟩ := texts base size List.mem_cons_self
              intro start len member
              rw [pass] at member
              obtain cut | later := List.mem_append.mp member
              · obtain ⟨after, before, _⟩ := cuts_clean raw special base (base + size) (by omega)
                  within start len cut
                exact ⟨base, size, List.mem_cons_self, after, before⟩
              · exact widened _ start len later

def Fragment.isText : Fragment → Bool
  | .text _ _ => true
  | .token _ => false

def Separated (fragments : List Fragment) : Prop :=
  fragments.IsChain fun fragment next => fragment.isText = false ∨ next.isText = false

def Led (fragments : List Fragment) : Prop := ∀ fragment ∈ fragments.head?, fragment.isText = false

theorem pass_led (raw : List UInt8) (special : Special) (skip : Nat) (fragments : List Fragment)
    (led : Led fragments) : Led (pass raw special skip fragments) := by
  cases fragments with
  | nil => exact led
  | cons fragment fragments =>
      cases fragment with
      | text base len => exact absurd (led (.text base len) rfl) Bool.false_ne_true.symm
      | token id => cases skip <;> exact led

theorem pass_one (raw : List UInt8) (special : Special) (fragments : List Fragment)
    (led : Led fragments) : pass raw special 1 fragments = pass raw special 0 fragments := by
  cases fragments with
  | nil => rfl
  | cons fragment fragments =>
      cases fragment with
      | text base len => exact absurd (led (.text base len) rfl) Bool.false_ne_true.symm
      | token id => rfl

theorem separated_cuts (id : UInt32) (size stop base : Nat) (offsets : List Nat) :
    Separated (cuts id size stop base offsets) := by
  induction offsets generalizing base with
  | nil => exact List.isChain_singleton _
  | cons offset offsets ih =>
      have behind : Separated (.token id ::
          if offset + size < stop then cuts id size stop (offset + size) offsets else []) := by
        rw [Separated, List.isChain_cons]
        refine ⟨fun _ _ => Or.inl rfl, ?_⟩
        split_ifs
        · exact ih _
        · exact List.isChain_nil
      rw [cuts, gap]
      split_ifs at behind ⊢
      all_goals first
        | exact behind
        | exact List.isChain_cons.mpr ⟨fun next head => Or.inr (by
            obtain rfl := Option.some.inj head
            rfl), behind⟩

theorem separated_pass (raw : List UInt8) (special : Special) (skip : Nat)
    (fragments : List Fragment) (separated : Separated fragments) :
    Separated (pass raw special skip fragments) := by
  induction fragments generalizing skip with
  | nil => exact separated
  | cons fragment fragments ih =>
      obtain ⟨apart, later⟩ := List.isChain_cons.mp separated
      have kept (skip : Nat) : Separated (fragment :: pass raw special skip fragments) := by
        rw [Separated, List.isChain_cons]
        refine ⟨fun next head => ?_, ih skip later⟩
        cases shape : fragment with
        | token id => exact Or.inl rfl
        | text base len =>
            rw [shape] at apart
            exact Or.inr (pass_led raw special skip fragments
              (fun next head => (apart next head).resolve_left Bool.false_ne_true.symm) next head)
      cases skip with
      | succ skip => exact kept skip
      | zero =>
          cases fragment with
          | token id => exact kept 0
          | text base len =>
              rw [pass]
              apply List.isChain_append.mpr
              refine ⟨separated_cuts _ _ _ _ _, ih _ later, fun last _ next head => Or.inr ?_⟩
              exact pass_led raw special _ fragments
                (fun next head => (apart next head).resolve_left Bool.false_ne_true.symm) next head

theorem separated_passes (raw : List UInt8) (specials : List Special) (parseSpecial : Bool)
    (fragments : List Fragment) (separated : Separated fragments) :
    Separated (passes raw specials parseSpecial fragments) := by
  rw [passes]
  generalize specials.filter (·.enabled parseSpecial) = enabled
  induction enabled generalizing fragments with
  | nil => exact separated
  | cons special enabled ih => exact ih _ (separated_pass raw special 0 fragments separated)

theorem pass_clean (raw : List UInt8) (special : Special) (fragments : List Fragment)
    (separated : Separated fragments)
    (texts : ∀ start len, .text start len ∈ fragments → 0 < len ∧ start + len ≤ raw.length)
    (few : (leftmost special.bytes raw 0 raw.length).length ≤ 2) :
    Clean raw special.bytes (pass raw special 0 fragments) := by
  induction fragments with
  | nil => exact fun start len member => absurd member List.not_mem_nil
  | cons fragment fragments ih =>
      obtain ⟨apart, later⟩ := List.isChain_cons.mp separated
      have clean := ih later fun start len member => texts start len (List.mem_cons_of_mem _ member)
      cases fragment with
      | token id =>
          intro start len member
          obtain same | in_rest := List.mem_cons.mp member
          · cases same
          · exact clean start len in_rest
      | text base size =>
          obtain ⟨positive, within⟩ := texts base size List.mem_cons_self
          have nonempty := special_bytes_ne special
          have led : Led fragments :=
            fun next head => (apart next head).resolve_left Bool.false_ne_true.symm
          have found := leftmost_length_le special.bytes raw nonempty 0 base (base + size) raw.length
            (Nat.zero_le _) (by omega) within le_rfl
          have sum := counted_eq special.id special.bytes.length (base + size) base
            (leftmost special.bytes raw base (base + size)) (List.length_pos_iff.mpr nonempty)
            (leftmost_apart special.bytes raw base (base + size) within (by omega))
          intro start len member
          rw [pass] at member
          obtain cut | in_rest := List.mem_append.mp member
          · exact (cuts_clean raw special base (base + size) (by omega) within start len cut).2.2
          · have skipped : counted special.bytes.length (base + size) base
                (leftmost special.bytes raw base (base + size)) -
                (cuts special.id special.bytes.length (base + size) base
                  (leftmost special.bytes raw base (base + size))).length ≤ 1 := by
              split_ifs at sum <;> omega
            obtain none_skipped | one_skipped := Nat.le_one_iff_eq_zero_or_eq_one.mp skipped
            · rw [none_skipped] at in_rest
              exact clean start len in_rest
            · rw [one_skipped, pass_one raw special fragments led] at in_rest
              exact clean start len in_rest

theorem passes_clean (raw : List UInt8) (known : List Special) (parseSpecial : Bool)
    (specials : List Special) (fragments : List Fragment)
    (tile : Tile raw known 0 fragments raw.length) (separated : Separated fragments)
    (sound : ∀ special ∈ specials, special.enabled parseSpecial = true → special ∈ known)
    (few : ∀ special ∈ specials, special.enabled parseSpecial = true →
      (leftmost special.bytes raw 0 raw.length).length ≤ 2) :
    Finer (passes raw specials parseSpecial fragments) fragments ∧
      ∀ special ∈ specials, special.enabled parseSpecial = true →
        Clean raw special.bytes (passes raw specials parseSpecial fragments) := by
  induction specials generalizing fragments with
  | nil =>
      exact ⟨fun start len member => ⟨start, len, member, le_rfl, le_rfl⟩,
        fun special member => absurd member List.not_mem_nil⟩
  | cons special specials ih =>
      obtain ⟨first, others⟩ := List.forall_mem_cons.mp sound
      obtain ⟨few_first, few_others⟩ := List.forall_mem_cons.mp few
      by_cases enabled : special.enabled parseSpecial = true
      · have texts := tile_texts raw known 0 raw.length fragments tile
        have passed := tile_pass raw known special (first enabled) 0 0 raw.length fragments tile
        have finer := pass_finer raw special 0 fragments texts
        obtain ⟨finer_later, clean_later⟩ := ih (pass raw special 0 fragments) passed
          (separated_pass raw special 0 fragments separated) others few_others
        rw [passes, List.filter_cons_of_pos
          (p := fun special : Special => special.enabled parseSpecial) enabled, List.foldl_cons]
        refine ⟨?_, List.forall_mem_cons.mpr ⟨fun _ => ?_, clean_later⟩⟩
        · intro start len member
          obtain ⟨middle, size, inside, after, before⟩ := finer_later start len member
          obtain ⟨outer, size', inside', after', before'⟩ := finer middle size inside
          exact ⟨outer, size', inside', by omega, by omega⟩
        · exact clean_finer raw special.bytes _ _ finer_later
            (pass_clean raw special fragments separated texts (few_first enabled))
      · obtain ⟨finer, clean⟩ := ih fragments tile separated others few_others
        rw [passes, List.filter_cons_of_neg
          (p := fun special : Special => special.enabled parseSpecial) enabled]
        exact ⟨finer, List.forall_mem_cons.mpr ⟨fun enabled' => absurd enabled' enabled, clean⟩⟩

/-- No text span is left with an enabled special in it, where no special occurs three times in the
text without overlapping itself. -/
theorem special_partition_complete (fuel : Nat) (specials : List Special) (raw : List UInt8)
    (parseSpecial : Bool) (nonempty : raw ≠ []) (room : raw.length < fuel)
    (few : ∀ special ∈ specials, special.enabled parseSpecial = true →
      (leftmost special.bytes raw 0 raw.length).length ≤ 2) :
    ∃ fragments, specialPartition fuel specials raw parseSpecial = .ok fragments ∧
      ∀ special ∈ specials, special.enabled parseSpecial = true →
        Clean raw special.bytes fragments := by
  have positive := List.length_pos_iff.mpr nonempty
  have start : Tile raw (specials.filter (·.enabled parseSpecial)) 0 [.text 0 raw.length]
      raw.length := ⟨rfl, positive, by omega, by rw [Tile]; omega⟩
  have sound : ∀ special ∈ specials, special.enabled parseSpecial = true →
      special ∈ specials.filter (·.enabled parseSpecial) :=
    fun special member enabled => List.mem_filter.mpr ⟨member, enabled⟩
  have runs := partitions_passes fuel raw parseSpecial room _ specials _ start sound
  exact ⟨_, runs.1, (passes_clean raw _ parseSpecial specials _ start (List.isChain_singleton _)
    sound few).2⟩

theorem partition_complete_sample :
    ∃ fragments, specialPartition 8 [endMark] [97, 98, 99, 97, 98] true = .ok fragments ∧
      ∀ special ∈ [endMark], special.enabled true = true →
        Clean [97, 98, 99, 97, 98] special.bytes fragments :=
  special_partition_complete 8 [endMark] [97, 98, 99, 97, 98] true (by decide) (by decide)
    (by
      intro special member _
      obtain rfl := List.mem_singleton.mp member
      have bound := apart_length _ _ _ _
        (leftmost_apart endMark.bytes [97, 98, 99, 97, 98] 0 5 (by decide) (by decide))
      have size : endMark.bytes.length = 2 := by decide
      change (leftmost endMark.bytes [97, 98, 99, 97, 98] 0 5).length ≤ 2
      rw [size] at bound
      omega)

/-- The three `c` in front of `ab` let the walk step over the text behind it. -/
example : specialPartition 10 [⟨['a', 'b'], 0, .userDefined, by decide⟩,
    ⟨['c'], 1, .userDefined, by decide⟩] [99, 99, 99, 97, 98, 99] true =
    .ok [.token 1, .token 1, .token 1, .token 0, .text 5 1] := by
  decide

end FaberRuntime.Tokenizer
