import FaberRuntime.Foundation.Tiling
import FaberRuntime.Gguf.ViewAgreement

namespace FaberRuntime.Gguf

open Checks Tiling

/-! The coverage check of a built view is the tiling of its data region, and the blocks of an
entry are the even cuts of its bytes. -/

section Coverage

variable {file : FileBytes}

def TensorViewEntry.span (entry : TensorViewEntry) : Span :=
  (entry.byteRange.start.toNat, entry.byteRange.stop.toNat)

namespace TensorView

/-- What `build` leaves of an entry: its range is that of its blocks and lies in the data
region. -/
structure EntryBuilt (view : TensorView file) (entry : TensorViewEntry) : Prop where
  length : entry.byteRange.stop.toNat =
    entry.byteRange.start.toNat + entry.layout.blocks.toNat * entry.layout.blockBytes.toNat
  afterStart : view.dataOffset.toNat ≤ entry.byteRange.start.toNat
  beforeEnd : entry.byteRange.stop.toNat ≤ view.dataOffset.toNat + view.dataLen.toNat
  resolved : ∃ desc : TensorDescriptor, entry = desc.entry

structure Built (view : TensorView file) : Prop where
  measured : view.fileSize.toNat = file.size
  region : view.dataOffset.toNat + view.dataLen.toNat ≤ file.size
  entries : ∀ entry ∈ view.entries, view.EntryBuilt entry

theorem build_built (admission : GgufAdmission) (view : TensorView file)
    (built : build admission file = .ok view) : view.Built := by
  unfold build checkEntry at built
  simp only [mapError_bind_ok_iff, okOr_bind_ok_iff, check_bind_ok_iff, resolveAdmission_ok_iff,
    forM_ok_iff, require_ok_iff, pure_ok_iff] at built
  rcases built with ⟨measured, layouts, ⟨resolves, rfl⟩, dataEnd, summed, region, inside, rfl⟩
  rw [checkedAdd_eq_some] at summed
  rw [List.zipWith_map_right, List.zipWith_self] at inside
  have size : admission.fileSize.toNat = file.size := by
    have small := file.addressable
    rw [← measured]
    apply UInt64.toNat_ofNat_of_lt'
    unfold FileBytes.size UInt64.size
    omega
  rw [UInt64.le_iff_toNat_le, summed, size] at region
  refine ⟨size, region, ?_⟩
  dsimp only
  rw [List.zipWith_map_right, List.zipWith_self]
  intro entry member
  have checked := (inside entry member).2
  rcases List.mem_map.mp member with ⟨desc, held, rfl⟩
  have stop := desc.entry_stop _ (resolves desc held)
  have packed := (resolves desc held).packed.length
  rw [UInt64.le_iff_toNat_le, UInt64.le_iff_toNat_le, summed] at checked
  refine ⟨?_, checked.1, checked.2, desc, rfl⟩
  rw [packed] at stop
  exact stop

/-- The ranges in table order tile the data region. -/
structure TilesRegion (view : TensorView file) : Prop where
  once : ∀ pos, view.dataOffset.toNat ≤ pos → pos < view.dataOffset.toNat + view.dataLen.toNat →
    view.entries.countP (fun entry => holds pos entry.span) = 1
  touching : view.entries.IsChain
    (fun first second => first.byteRange.stop = second.byteRange.start)
  inFile : ∀ entry ∈ view.entries, entry.byteRange.start ≤ entry.byteRange.stop ∧
    entry.byteRange.stop.toNat ≤ file.size

theorem spans_touching (entries : List TensorViewEntry)
    (touching : entries.IsChain
      (fun first second => first.byteRange.stop = second.byteRange.start)) :
    (entries.map TensorViewEntry.span).IsChain (fun first second => first.2 = second.1) := by
  rw [List.isChain_map]
  apply touching.imp
  intro first second meet
  exact congrArg UInt64.toNat meet

theorem entries_tile (first last : TensorViewEntry) (entries : List TensorViewEntry)
    (touching : entries.IsChain
      (fun first second => first.byteRange.stop = second.byteRange.start))
    (ordered : ∀ entry ∈ entries, entry.byteRange.start ≤ entry.byteRange.stop)
    (starts : entries.head? = some first) (ends : entries.getLast? = some last) :
    Tiles first.span.1 (entries.map TensorViewEntry.span) last.span.2 := by
  rcases entries with _ | ⟨head, rest⟩
  · cases starts
  · cases starts
    apply tiles_of_touching first.span (rest.map TensorViewEntry.span) last.span
    · intro span member
      rcases List.mem_map.mp (List.map_cons ▸ member) with ⟨entry, held, rfl⟩
      exact UInt64.le_iff_toNat_le.mp (ordered entry held)
    · exact spans_touching (first :: rest) touching
    · rw [← List.map_cons, List.getLast?_map, ends]
      rfl

theorem coverageOk_iff_tilesRegion (view : TensorView file) (built : view.Built)
    (some_entry : view.entries ≠ []) : view.coverageOk = true ↔ view.TilesRegion := by
  have limit := view.fileSize.toNat_lt
  have region := built.region
  rw [← built.measured] at region
  have counted : ∀ pos, view.entries.countP (fun entry => holds pos entry.span) =
      (view.entries.map TensorViewEntry.span).countP (holds pos) := by
    intro pos
    rw [List.countP_map]
    rfl
  rw [coverageOk_iff]
  constructor
  · rintro ⟨dataEnd, first, last, summed, starts, ends, covered, touching, low, high⟩
    rw [checkedAdd_eq_some] at summed
    have inside := fun entry member => (view.perTensorCovered_iff entry).mp (covered entry member)
    have tiles := entries_tile first last view.entries touching
      (fun entry member => (inside entry member).1) starts ends
    refine ⟨?_, touching, ?_⟩
    · intro pos after before
      rw [counted, count_of_tiles _ _ _ tiles pos, if_pos]
      unfold TensorViewEntry.span
      rw [low, high, summed]
      exact ⟨after, before⟩
    · intro entry member
      refine ⟨(inside entry member).1, ?_⟩
      rw [← built.measured]
      exact UInt64.le_iff_toNat_le.mp (inside entry member).2
  · rintro ⟨once, touching, inFile⟩
    rcases entries : view.entries with _ | ⟨first, rest⟩
    · exact absurd entries some_entry
    · have held : first ∈ view.entries := by
        rw [entries]
        exact .head _
      have ends := List.getLast?_eq_some_getLast some_entry
      have last_held := List.getLast_mem some_entry
      generalize view.entries.getLast some_entry = last at ends last_held
      have starts : view.entries.head? = some first := by
        rw [entries]
        rfl
      have tiles := entries_tile first last view.entries touching
        (fun entry member => (inFile entry member).1) starts ends
      have front := built.entries first held
      have back := built.entries last last_held
      have between := tiles_le _ _ _ tiles
      have summed : (view.dataOffset + view.dataLen).toNat =
          view.dataOffset.toNat + view.dataLen.toNat := by
        rw [UInt64.toNat_add, Nat.mod_eq_of_lt (by omega)]
      have reached : ∀ pos, view.dataOffset.toNat ≤ pos →
          pos < view.dataOffset.toNat + view.dataLen.toNat →
          first.byteRange.start.toNat ≤ pos ∧ pos < last.byteRange.stop.toNat := by
        intro pos after before
        have count := once pos after before
        rw [counted, count_of_tiles _ _ _ tiles pos] at count
        by_contra outside
        have none : ¬ (first.span.1 ≤ pos ∧ pos < last.span.2) := outside
        rw [if_neg none] at count
        cases count
      have low : first.byteRange.start.toNat = view.dataOffset.toNat ∧
          last.byteRange.stop.toNat = view.dataOffset.toNat + view.dataLen.toNat := by
        have afterStart := front.afterStart
        have beforeEnd := back.beforeEnd
        unfold TensorViewEntry.span at between
        by_cases empty : view.dataLen.toNat = 0
        · dsimp only at between
          omega
        · have firstPos := reached view.dataOffset.toNat le_rfl (by omega)
          have lastPos := reached (view.dataOffset.toNat + view.dataLen.toNat - 1) (by omega)
            (by omega)
          omega
      rw [entries] at ends starts
      refine ⟨view.dataOffset + view.dataLen, first, last,
        (checkedAdd_eq_some _ _ _).mpr summed, starts, ends, ?_, entries ▸ touching,
        UInt64.toNat_inj.mp low.1, UInt64.toNat_inj.mp (by rw [low.2, summed])⟩
      intro entry member
      rw [← entries] at member
      rw [perTensorCovered_iff]
      refine ⟨(inFile entry member).1, ?_⟩
      rw [UInt64.le_iff_toNat_le, built.measured]
      exact (inFile entry member).2

def blockSpan (entry : TensorViewEntry) (index : Nat) : Span :=
  evenSpan entry.byteRange.start.toNat entry.layout.blockBytes.toNat index

theorem blocks_tile (view : TensorView file) (entry : TensorViewEntry)
    (built : view.EntryBuilt entry) :
    Tiles entry.span.1 ((List.range entry.layout.blocks.toNat).map (blockSpan entry))
      entry.span.2 := by
  have tiles := even_tiles entry.byteRange.start.toNat entry.layout.blockBytes.toNat
    entry.layout.blocks.toNat
  rw [← built.length] at tiles
  exact tiles

theorem rawBlock_ok_iff (view : TensorView file) (built : view.Built) (entry : TensorViewEntry)
    (member : entry ∈ view.entries) (index : UInt64) (bytes : List UInt8) :
    view.rawBlock entry index = .ok bytes ↔
      index < entry.layout.blocks ∧ bytes = cut file.bytes (blockSpan entry index.toNat) := by
  have placed := built.entries entry member
  have length := placed.length
  have beforeEnd := placed.beforeEnd
  have region := built.region
  have limit := view.fileSize.toNat_lt
  rw [← built.measured] at region
  have size : (UInt64.ofNat file.size).toNat = view.fileSize.toNat := by
    rw [← built.measured, UInt64.ofNat_toNat]
  have found : ∀ blockStart blockEnd : UInt64,
      blockStart.toNat = entry.byteRange.start.toNat +
        index.toNat * entry.layout.blockBytes.toNat →
      blockEnd.toNat = blockStart.toNat + entry.layout.blockBytes.toNat →
      (file.bytes.drop blockStart.toNat).take (blockEnd.toNat - blockStart.toNat) =
        cut file.bytes (blockSpan entry index.toNat) := by
    intro blockStart blockEnd start stop
    unfold cut blockSpan evenSpan
    dsimp only
    rw [stop, start, Nat.succ_mul]
    congr 1
    omega
  unfold rawBlock
  simp only [require_bind_ok_iff, okOr_bind_ok_iff, pure_ok_iff, checkedMul_eq_some,
    checkedAdd_eq_some]
  constructor
  · rintro ⟨inside, blockOffset, offset, blockStart, start, blockEnd, stop, _, rfl⟩
    exact ⟨inside, found blockStart blockEnd (by rw [start, offset]) stop⟩
  · rintro ⟨inside, rfl⟩
    have below := UInt64.lt_iff_toNat_lt.mp inside
    have room : (index.toNat + 1) * entry.layout.blockBytes.toNat ≤
        entry.layout.blocks.toNat * entry.layout.blockBytes.toNat :=
      Nat.mul_le_mul_right _ below
    rw [Nat.succ_mul] at room
    have offset : (index * entry.layout.blockBytes).toNat =
        index.toNat * entry.layout.blockBytes.toNat := by
      rw [UInt64.toNat_mul, Nat.mod_eq_of_lt (by omega)]
    have start : (entry.byteRange.start + index * entry.layout.blockBytes).toNat =
        entry.byteRange.start.toNat + (index * entry.layout.blockBytes).toNat := by
      rw [UInt64.toNat_add, Nat.mod_eq_of_lt (by omega)]
    have stop : (entry.byteRange.start + index * entry.layout.blockBytes +
        entry.layout.blockBytes).toNat =
        (entry.byteRange.start + index * entry.layout.blockBytes).toNat +
          entry.layout.blockBytes.toNat := by
      rw [UInt64.toNat_add, Nat.mod_eq_of_lt (by omega)]
    refine ⟨inside, _, offset, _, start, _, stop, ?_, found _ _ (by rw [start, offset]) stop⟩
    simp only [UInt64.le_iff_toNat_le]
    omega

structure BlocksExact (view : TensorView file) (entry : TensorViewEntry) : Prop where
  reads : ∀ index, (∃ bytes, view.rawBlock entry index = .ok bytes) ↔ index < entry.layout.blocks
  found : ∀ index bytes, view.rawBlock entry index = .ok bytes →
    bytes = cut file.bytes (blockSpan entry index.toNat)
  disjoint : ((List.range entry.layout.blocks.toNat).map (blockSpan entry)).Pairwise
    (fun first second => first.2 ≤ second.1)
  joined : ∃ blocks, (List.range entry.layout.blocks.toNat).mapM
      (fun index => view.rawBlock entry (UInt64.ofNat index)) = .ok blocks ∧
    view.rawBytes entry = .ok blocks.flatten

theorem blocks_exact (view : TensorView file) (built : view.Built) (entry : TensorViewEntry)
    (member : entry ∈ view.entries) : view.BlocksExact entry := by
  have reads := view.rawBlock_ok_iff built entry member
  have placed := built.entries entry member
  have tiles := view.blocks_tile entry placed
  have beforeEnd := placed.beforeEnd
  have region := built.region
  refine ⟨?_, fun index bytes read => ((reads index bytes).mp read).2,
    apart_of_tiles _ _ _ tiles,
    (List.range entry.layout.blocks.toNat).map
      (fun index => cut file.bytes (blockSpan entry index)), ?_, ?_⟩
  · intro index
    constructor
    · rintro ⟨bytes, read⟩
      exact ((reads index bytes).mp read).1
    · intro inside
      exact ⟨_, (reads index _).mpr ⟨inside, rfl⟩⟩
  · have numbers : ∀ index ∈ List.range entry.layout.blocks.toNat,
        (UInt64.ofNat index).toNat = index := by
      intro index listed
      exact UInt64.toNat_ofNat_of_lt'
        ((List.mem_range.mp listed).trans entry.layout.blocks.toNat_lt)
    apply (mapM_ok_iff _ _ _ (fun index => reads (UInt64.ofNat index)) _ _).mpr
    constructor
    · intro index listed
      rw [UInt64.lt_iff_toNat_lt, numbers index listed]
      exact List.mem_range.mp listed
    · apply List.map_congr_left
      intro index listed
      rw [numbers index listed]
  · have joined := cuts_of_tiles file.bytes _ _ _ tiles
    have ordered := tiles_le _ _ _ tiles
    rw [List.map_map] at joined
    unfold rawBytes
    rw [okOr_ok_iff]
    unfold FileBytes.slice
    rw [if_pos ⟨ordered, by omega⟩]
    exact congrArg some joined.symm

end TensorView

/-- The coverage check of a built view with entries is exact, and each entry is its blocks. -/
theorem coverage_exact (admission : GgufAdmission) (view : TensorView file)
    (built : TensorView.build admission file = .ok view) (some_entry : view.entries ≠ []) :
    (view.coverageOk = true ↔ view.TilesRegion) ∧
      (view.coverageOk = true → ∀ entry ∈ view.entries, view.BlocksExact entry) := by
  have kept := TensorView.build_built admission view built
  exact ⟨view.coverageOk_iff_tilesRegion kept some_entry,
    fun _ entry member => view.blocks_exact kept entry member⟩

end Coverage

theorem touching_coverage_exact :
    ∃ view : TensorView touchingFile, TensorView.build touchingAdmission touchingFile = .ok view ∧
      (view.coverageOk = true ↔ view.TilesRegion) ∧
      (view.coverageOk = true → ∀ entry ∈ view.entries, view.BlocksExact entry) := by
  have built : TensorView.build touchingAdmission touchingFile = .ok touchingAdmission.view := by
    decide +kernel
  exact ⟨touchingAdmission.view, built,
    coverage_exact touchingAdmission touchingAdmission.view built (by decide)⟩

end FaberRuntime.Gguf
