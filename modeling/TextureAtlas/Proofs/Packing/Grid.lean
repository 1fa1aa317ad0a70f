import Mathlib.Algebra.Order.BigOperators.Group.List
import Mathlib.Algebra.Order.Ring.Nat
import TextureAtlas.Proofs.Packing.Room

/-! # Packings of one footprint

Where all footprints are the same, the used spans of a row start at multiples of its width and the rows
are all of its height. Then nothing is lost between the spans: a row takes one more until it has as
many as fit side by side, and so does the packing until it has as many as fit in a grid
(`canHold_iff`). Granting and giving back keep this, in any order. -/
set_option autoImplicit false

namespace TextureAtlas

/-! ## Rows -/

/-- Each span is as wide as a unit, and starts at a multiple of it. -/
def Gridded (unit : Nat) (spans : List Span) : Prop :=
  ∀ span ∈ spans, span.width = unit ∧ unit ∣ span.x

namespace Gridded

variable {unit start total : Nat} {spans : List Span}

theorem length_le (gridded : Gridded unit spans) (ordered : InOrder start total spans) :
    start + unit * spans.length ≤ total := by
  induction spans generalizing start with
  | nil => exact ordered
  | cons first rest ih =>
    obtain ⟨⟨width_eq, _⟩, rest_gridded⟩ := List.forall_mem_cons.mp gridded
    obtain ⟨after, _, rest_ordered⟩ := ordered
    have fits := ih rest_gridded rest_ordered
    rw [List.length_cons, Nat.mul_succ]
    omega

theorem dvd_of_mem_gaps (gridded : Gridded unit spans) (ordered : InOrder start total spans)
    (aligned : unit ∣ start) {gap : Span} (member : gap ∈ gaps start total spans) : unit ∣ gap.x := by
  rcases (isMaximalGap_of_mem_gaps ordered member).left_end with edge | ⟨span, used, edge⟩
  · rwa [edge]
  · obtain ⟨width_eq, dvd⟩ := gridded span used
    rw [← edge, width_eq]
    exact Nat.dvd_add dvd (Nat.dvd_refl unit)

/-- A gap is wide enough exactly if the spans and one more fit side by side. -/
theorem exists_gap_iff (gridded : Gridded unit spans) (ordered : InOrder start total spans)
    (aligned : unit ∣ start) (positive : 0 < unit) :
    (∃ gap ∈ gaps start total spans, unit ≤ gap.width) ↔ start + unit * (spans.length + 1) ≤ total := by
  induction spans generalizing start with
  | nil =>
    simp only [gaps, mem_stretch, List.length_nil, Nat.zero_add, Nat.mul_one]
    constructor
    · rintro ⟨_, ⟨less, rfl⟩, fits⟩
      dsimp only at fits
      omega
    · intro fits
      exact ⟨_, ⟨by omega, rfl⟩, by dsimp only; omega⟩
  | cons first rest ih =>
    obtain ⟨⟨width_eq, dvd⟩, rest_gridded⟩ := List.forall_mem_cons.mp gridded
    obtain ⟨after, _, rest_ordered⟩ := ordered
    have later := ih rest_gridded rest_ordered (by rw [width_eq]; exact Nat.dvd_add dvd (Nat.dvd_refl unit))
    have fits := length_le rest_gridded rest_ordered
    simp only [gaps, List.mem_append, or_and_right, exists_or, later, mem_stretch, List.length_cons,
      Nat.mul_succ]
    rcases Nat.eq_or_lt_of_le after with same | before
    · constructor
      · rintro (⟨_, ⟨less, _⟩, _⟩ | fits')
        · omega
        · omega
      · intro fits'
        exact Or.inr (by omega)
    · -- Two multiples of the unit that differ are a unit apart, so there is room before the span.
      have apart : start + unit ≤ first.x := by
        have positive_rest := Nat.le_of_dvd (by omega) (Nat.dvd_sub dvd aligned)
        omega
      constructor
      · intro _
        omega
      · intro _
        exact Or.inl ⟨_, ⟨before, rfl⟩, by dsimp only; omega⟩

end Gridded

namespace RowSpace

variable {unit : Nat} {space next : RowSpace}

theorem Valid.length_le_div (valid : space.Valid) (gridded : Gridded unit space.used)
    (positive : 0 < unit) : space.used.length ≤ space.total / unit := by
  have fits := gridded.length_le valid.ordered
  rw [Nat.le_div_iff_mul_le positive, Nat.mul_comm]
  omega

/-- A row has a gap for one more until it is full. -/
theorem Valid.hasGap_iff_length_lt (valid : space.Valid) (gridded : Gridded unit space.used)
    (positive : 0 < unit) : space.HasGap unit ↔ space.used.length < space.total / unit := by
  have room := gridded.exists_gap_iff valid.ordered (Nat.dvd_zero unit) positive
  rw [HasGap, valid.free_eq, room, Nat.zero_add, Nat.lt_iff_add_one_le,
    Nat.le_div_iff_mul_le positive, Nat.mul_comm]

theorem Grants.gridded {span : Span} (grants : space.Grants unit span next) (valid : space.Valid)
    (gridded : Gridded unit space.used) : Gridded unit next.used := by
  obtain ⟨gap, free, _, rfl⟩ := grants.from_gap
  rw [valid.free_eq] at free
  intro other used
  rw [grants.used_eq] at used
  rcases mem_insertByStart.mp used with rfl | used
  · have aligned := gridded.dvd_of_mem_gaps valid.ordered (Nat.dvd_zero unit) free
    exact ⟨rfl, aligned⟩
  · exact gridded other used

end RowSpace

/-! ## Full lists -/

theorem sum_le_mul {counts : List Nat} {most length : Nat} (bounded : ∀ count ∈ counts, count ≤ most)
    (short : counts.length ≤ length) : counts.sum ≤ most * length := by
  have sum_le := List.sum_le_card_nsmul counts most bounded
  rw [Nat.nsmul_eq_mul, Nat.mul_comm] at sum_le
  exact Nat.le_trans sum_le (Nat.mul_le_mul_left most short)

/-- The sum stays below the largest there is only if some count does, or one more could be added. -/
theorem sum_lt_mul_iff {counts : List Nat} {most length : Nat}
    (bounded : ∀ count ∈ counts, count ≤ most) (short : counts.length ≤ length)
    (positive : 0 < most) :
    counts.sum < most * length ↔ (∃ count ∈ counts, count < most) ∨ counts.length < length := by
  induction counts generalizing length with
  | nil => simp [positive]
  | cons first rest ih =>
    obtain ⟨first_le, rest_le⟩ := List.forall_mem_cons.mp bounded
    cases length with
    | zero => cases short
    | succ length =>
      have short' := Nat.le_of_succ_le_succ short
      have later := ih rest_le short'
      have most_sum := sum_le_mul rest_le short'
      simp only [List.sum_cons, Nat.mul_succ, List.mem_cons, exists_eq_or_imp, List.length_cons,
        Nat.add_lt_add_iff_right, or_assoc, ← later]
      omega

/-! ## Packings -/

namespace Packing

/-- The number of used spans. -/
def count (packing : Packing) : Nat := (packing.rows.map (·.space.used.length)).sum

/-- How often the footprint fits into the page, in columns and rows. -/
def capacity (size need : Size) : Nat := size.width / need.width * (size.height / need.height)

/-- Every row was opened for this footprint, and grants spans of its width only. -/
structure Tiled (packing : Packing) (need : Size) : Prop where
  height_eq : ∀ row ∈ packing.rows, row.height = need.height
  gridded : ∀ row ∈ packing.rows, Gridded need.width row.space.used

theorem tiled_empty (size need : Size) : (empty size).Tiled need where
  height_eq := List.forall_mem_nil _
  gridded := List.forall_mem_nil _

variable {packing next : Packing} {need : Size}

theorem Tiled.withSpace (tiled : packing.Tiled need) {index : Nat} {row : Row} {space : RowSpace}
    (found : packing.rows[index]? = some row) (gridded : Gridded need.width space.used) :
    (packing.withSpace index row space).Tiled need := by
  constructor
  · intro other member
    rcases List.mem_or_eq_of_mem_set member with member | rfl
    · exact tiled.height_eq other member
    · exact tiled.height_eq row (List.mem_of_getElem? found)
  · intro other member
    rcases List.mem_or_eq_of_mem_set member with member | rfl
    · exact tiled.gridded other member
    · exact gridded

theorem Tiled.places (tiled : packing.Tiled need) (valid : packing.Valid) {border : Nat} {size : Size}
    {placement : Placement} (places : packing.Places border size need placement next) :
    next.Tiled need := by
  cases places with
  | inRow found before high grants =>
    have member := List.mem_of_getElem? found
    exact tiled.withSpace found (grants.gridded (valid.row_valid _ member) (tiled.gridded _ member))
  | below before fits grants =>
    have small := Nat.lt_of_le_of_lt valid.width_le maxPageSide_lt_coordLimit
    have gridded := grants.gridded (RowSpace.valid_ofTotal small) (List.forall_mem_nil _)
    constructor
    · exact List.forall_mem_append.mpr ⟨tiled.height_eq, List.forall_mem_singleton.mpr rfl⟩
    · exact List.forall_mem_append.mpr ⟨tiled.gridded, List.forall_mem_singleton.mpr gridded⟩

theorem Tiled.release (tiled : packing.Tiled need) (valid : packing.Valid) {index : Nat} {span : Span}
    (success : packing.release index span = (.ok (), next)) : next.Tiled need := by
  obtain ⟨row, space, found, released, rfl⟩ := release_eq_ok_iff.mp success
  obtain ⟨_, _, used_eq, _⟩ := (valid.row_valid row (List.mem_of_getElem? found)).release_ok released
  apply tiled.withSpace found
  intro other used
  rw [used_eq] at used
  exact tiled.gridded row (List.mem_of_getElem? found) other (List.mem_of_mem_erase used)

theorem height_of_stacked {height top bottom : Nat} {rows : List Row}
    (stacked : Stacked top bottom rows) (same : ∀ row ∈ rows, row.height = height) :
    top + height * rows.length = bottom := by
  induction rows generalizing top with
  | nil => exact stacked
  | cons first rest ih =>
    obtain ⟨height_eq, rest_same⟩ := List.forall_mem_cons.mp same
    have below := ih stacked.2 rest_same
    rw [List.length_cons, Nat.mul_succ]
    omega

section Counts

variable (valid : packing.Valid) (tiled : packing.Tiled need) (wide : 0 < need.width)
  (high : 0 < need.height)

include valid tiled

theorem Valid.filled_eq : need.height * packing.rows.length = packing.filled := by
  have stacked := height_of_stacked valid.stacked tiled.height_eq
  omega

include high in
theorem Valid.rows_le : packing.rows.length ≤ packing.size.height / need.height := by
  have filled_eq := valid.filled_eq tiled
  have filled_le := valid.filled_le
  rw [Nat.le_div_iff_mul_le high, Nat.mul_comm]
  omega

include wide in
theorem Valid.columns_le :
    ∀ count ∈ packing.rows.map (·.space.used.length), count ≤ packing.size.width / need.width := by
  refine List.forall_mem_map.mpr fun row member => ?_
  rw [← valid.row_total row member]
  exact (valid.row_valid row member).length_le_div (tiled.gridded row member) wide

include wide high in
theorem Valid.count_le_capacity : packing.count ≤ capacity packing.size need := by
  apply sum_le_mul (valid.columns_le tiled wide)
  rw [List.length_map]
  exact valid.rows_le tiled high

include wide in
theorem Valid.hasRoom_iff {row : Row} (member : row ∈ packing.rows) :
    row.HasRoom need ↔ row.space.used.length < packing.size.width / need.width := by
  have gap := (valid.row_valid row member).hasGap_iff_length_lt (tiled.gridded row member) wide
  rw [Row.HasRoom, gap, valid.row_total row member, tiled.height_eq row member]
  exact and_iff_right (Nat.le_refl _)

include wide high in
/-- The packing can hold one more until it has as many as fit in the grid. -/
theorem Valid.canHold_iff (width_le : need.width ≤ packing.size.width)
    (height_le : need.height ≤ packing.size.height) :
    packing.CanHold need ↔ packing.count < capacity packing.size need := by
  have rows_le := valid.rows_le tiled high
  have filled_eq := valid.filled_eq tiled
  have filled_le := valid.filled_le
  have columns : 0 < packing.size.width / need.width := Nat.div_pos width_le wide
  have below : need.height ≤ packing.size.height - packing.filled ↔
      packing.rows.length < packing.size.height / need.height := by
    rw [Nat.lt_iff_add_one_le, Nat.le_div_iff_mul_le high, Nat.add_mul, Nat.mul_comm _ need.height]
    omega
  have inRow : (∃ row ∈ packing.rows, row.HasRoom need) ↔
      ∃ count ∈ packing.rows.map (·.space.used.length), count < packing.size.width / need.width := by
    constructor
    · rintro ⟨row, member, hasRoom⟩
      exact ⟨_, List.mem_map_of_mem member, (valid.hasRoom_iff tiled wide member).mp hasRoom⟩
    · rintro ⟨_, counted, less⟩
      obtain ⟨row, member, rfl⟩ := List.mem_map.mp counted
      exact ⟨row, member, (valid.hasRoom_iff tiled wide member).mpr less⟩
  have hasRoom : packing.CanHold need ↔ packing.HasRoom need :=
    ⟨fun holds => holds.room, fun room => ⟨width_le, height_le, room⟩⟩
  have short : (packing.rows.map (·.space.used.length)).length ≤
      packing.size.height / need.height := by rwa [List.length_map]
  rw [hasRoom, HasRoom, inRow, below, count, capacity,
    sum_lt_mul_iff (valid.columns_le tiled wide) short columns, List.length_map]

end Counts

end Packing
end TextureAtlas
