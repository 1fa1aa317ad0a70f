import TextureAtlas.Proofs.Packing.Places

/-! # Room for a footprint

A row grants a request exactly if it has a gap of that width (`RowSpace.HasGap`), and a packing takes a
footprint exactly if that fits the page and some row has room for it, or the height below the rows is
enough for one more (`Packing.CanHold`). These speak of gaps and heights only, not of the search for a
place. Where not even a single texel finds room with its border, nothing does
(`not_canHold_of_isFull`). -/
set_option autoImplicit false

namespace TextureAtlas

namespace RowSpace

/-- Some gap is at least this wide. -/
def HasGap (space : RowSpace) (width : Nat) : Prop := ∃ gap ∈ space.free, width ≤ gap.width

theorem HasGap.mono {space : RowSpace} {width narrower : Nat} (hasGap : space.HasGap width)
    (le : narrower ≤ width) : space.HasGap narrower := by
  obtain ⟨gap, member, fits⟩ := hasGap
  exact ⟨gap, member, Nat.le_trans le fits⟩

theorem width_le_lengthSum {span : Span} {spans : List Span} (member : span ∈ spans) :
    span.width ≤ lengthSum spans := by
  have := lengthSum_erase member
  omega

/-- A gap is never wider than what is available in all, which is asked first. -/
theorem Valid.width_le_available {space : RowSpace} (valid : space.Valid) {gap : Span}
    (member : gap ∈ space.free) : gap.width ≤ space.available := by
  have counted := lengthSum_gaps valid.ordered
  have sum := valid.available_eq
  have := width_le_lengthSum member
  rw [valid.free_eq] at this
  omega

theorem Valid.hasSpace_iff {space : RowSpace} (valid : space.Valid) {width : Nat} :
    space.hasSpace width = true ↔ 0 < width ∧ space.HasGap width := by
  simp only [hasSpace, HasGap, Bool.and_eq_true, decide_eq_true_eq, List.any_eq_true]
  constructor
  · rintro ⟨⟨positive, _⟩, gap, member, fits⟩
    exact ⟨positive, gap, member, fits⟩
  · rintro ⟨positive, gap, member, fits⟩
    exact ⟨⟨positive, Nat.le_trans fits (valid.width_le_available member)⟩, gap, member, fits⟩

theorem Grants.hasGap {space next : RowSpace} {width : Nat} {span : Span}
    (grants : space.Grants width span next) : space.HasGap width := by
  obtain ⟨gap, member, fits, _⟩ := grants.from_gap
  exact ⟨gap, member, fits⟩

theorem Valid.alloc_of_hasGap {space : RowSpace} (valid : space.Valid) {width : Nat}
    (positive : 0 < width) (hasGap : space.HasGap width) :
    ∃ span next, space.alloc width = (.ok span, next) ∧ space.Grants width span next := by
  rcases valid.alloc_cases width with ⟨error, refused⟩ | granted
  · obtain ⟨gap, member, fits⟩ := hasGap
    obtain ⟨best, found⟩ := exists_bestFit member fits
    have enough := Nat.le_trans fits (valid.width_le_available member)
    simp only [alloc, if_neg (Nat.ne_of_gt positive), if_neg (Nat.not_lt.mpr enough), found] at refused
    split at refused <;> cases refused
  · exact granted

theorem hasGap_ofTotal {total width : Nat} (positive : 0 < width) :
    (ofTotal total).HasGap width ↔ width ≤ total := by
  constructor
  · rintro ⟨gap, member, fits⟩
    obtain ⟨_, rfl⟩ := mem_stretch.mp member
    exact fits
  · intro fits
    exact ⟨⟨0, total⟩, mem_stretch.mpr ⟨by omega, rfl⟩, fits⟩

/-- All of a new row is one gap, so what it grants begins at its left. -/
theorem Grants.span_eq_of_ofTotal {total width : Nat} {span : Span} {next : RowSpace}
    (grants : (ofTotal total).Grants width span next) : span = ⟨0, width⟩ := by
  obtain ⟨gap, free, _, span_eq⟩ := grants.from_gap
  obtain ⟨_, rfl⟩ := mem_stretch.mp free
  exact span_eq

end RowSpace

/-- The row is high enough and has a gap wide enough. -/
def Row.HasRoom (row : Row) (need : Size) : Prop :=
  need.height ≤ row.height ∧ row.space.HasGap need.width

theorem Row.take_eq_none_iff {row : Row} (valid : row.space.Valid) {need : Size}
    (positive : 0 < need.width) : row.take need = (.ok none, row) ↔ ¬ row.HasRoom need := by
  constructor
  · rintro refused ⟨high, hasGap⟩
    obtain ⟨span, next, success, _⟩ := valid.alloc_of_hasGap positive hasGap
    simp only [take, if_neg (Nat.not_lt.mpr high), success] at refused
    cases refused
  · intro noRoom
    rcases take_cases valid need with refused | ⟨span, space, _, high, grants⟩
    · exact refused
    · exact absurd ⟨high, grants.hasGap⟩ noRoom

namespace Packing

/-- A row has room for the footprint, or there is height for another row. -/
def HasRoom (packing : Packing) (need : Size) : Prop :=
  (∃ row ∈ packing.rows, row.HasRoom need) ∨ need.height ≤ packing.size.height - packing.filled

structure CanHold (packing : Packing) (need : Size) : Prop where
  width_le : need.width ≤ packing.size.width
  height_le : need.height ≤ packing.size.height
  room : packing.HasRoom need

theorem canHold_empty {size need : Size} (width_le : need.width ≤ size.width)
    (height_le : need.height ≤ size.height) : (empty size).CanHold need where
  width_le := width_le
  height_le := height_le
  room := Or.inr height_le

/-- Where a footprint got its place, there was room for it. -/
theorem Places.canHold {packing next : Packing} {border : Nat} {size need : Size}
    {placement : Placement} (places : packing.Places border size need placement next)
    (valid : packing.Valid) : packing.CanHold need := by
  obtain ⟨row, found, used, high, _⟩ := places.row
  obtain ⟨right, low⟩ := (places.valid valid).within found used
  have width_eq := places.span_width
  rw [places.size_eq] at right low
  have hasRoom : packing.HasRoom need := by
    cases places with
    | inRow granting before high' grants =>
      exact Or.inl ⟨_, List.mem_of_getElem? granting, high', grants.hasGap⟩
    | below before fits grants => exact Or.inr fits
  exact ⟨by omega, by omega, hasRoom⟩

theorem refusedBefore_length_iff {need : Size} {rows : List Row}
    (valid : ∀ row ∈ rows, row.space.Valid) (positive : 0 < need.width) :
    RefusedBefore need rows rows.length ↔ ∀ row ∈ rows, ¬ row.HasRoom need := by
  constructor
  · intro before row member
    obtain ⟨index, found⟩ := List.mem_iff_getElem?.mp member
    have inside := (List.getElem?_eq_some_iff.mp found).1
    exact (Row.take_eq_none_iff (valid row member) positive).mp (before index row inside found)
  · intro noRoom earlier row _ found
    have member := List.mem_of_getElem? found
    exact (Row.take_eq_none_iff (valid row member) positive).mpr (noRoom row member)

theorem Valid.height_lt_of_openRow {packing : Packing} (valid : packing.Valid) {need : Size}
    (positive : 0 < need.width) (width_le : need.width ≤ packing.size.width)
    (refused : packing.openRow need = (.ok none, packing)) :
    packing.size.height - packing.filled < need.height := by
  apply Nat.not_le.mp
  intro fits
  have small := Nat.lt_of_le_of_lt valid.width_le maxPageSide_lt_coordLimit
  have hasGap := (RowSpace.hasGap_ofTotal positive).mpr width_le
  obtain ⟨span, space, success, _⟩ := (RowSpace.valid_ofTotal small).alloc_of_hasGap positive hasGap
  have limit := maxPageSide_lt_coordLimit
  have height_le := valid.height_le
  have filled_le := valid.filled_le
  simp only [openRow, remaining, minus_of_le filled_le, if_neg (Nat.not_lt.mpr fits), success,
    coord_of_lt (show packing.filled + need.height < coordLimit by omega)] at refused
  cases refused

theorem Valid.not_hasRoom_of_reserve {packing : Packing} (valid : packing.Valid) {need : Size}
    (positive : 0 < need.width) (width_le : need.width ≤ packing.size.width)
    (refused : packing.reserve need = (.ok none, packing)) : ¬ packing.HasRoom need := by
  simp only [reserve] at refused
  rcases takeFirst_cases valid.row_valid need 0 with ⟨result, before⟩ |
    ⟨index, row, span, space, _, _, _, _, result⟩
  · rw [result] at refused
    have low := valid.height_lt_of_openRow positive width_le refused
    rintro (⟨row, member, hasRoom⟩ | fits)
    · exact (refusedBefore_length_iff valid.row_valid positive).mp before row member hasRoom
    · omega
  · rw [result] at refused
    cases refused

/-! ## Full pages -/

theorem Valid.isFull_iff {packing : Packing} (valid : packing.Valid) {border : Nat}
    (small : 2 * border < coordLimit) :
    packing.isFull border = .ok true ↔
      packing.size.height - packing.filled < 1 + 2 * border ∧
        ∀ row ∈ packing.rows, ¬ row.space.HasGap (1 + 2 * border) := by
  rw [valid.isFull_eq small]
  simp only [Except.ok.injEq, Bool.and_eq_true, decide_eq_true_eq, List.all_eq_true,
    Bool.not_eq_eq_eq_not, Bool.not_true, ← Bool.not_eq_true]
  refine and_congr_right fun _ => forall₂_congr fun row member => ?_
  rw [(valid.row_valid row member).hasSpace_iff, and_iff_right (by omega)]

/-- A full page takes no image: one texel with its border is the least that there is. -/
theorem Valid.not_canHold_of_isFull {packing : Packing} (valid : packing.Valid) {border : Nat}
    (small : 2 * border < coordLimit) (full : packing.isFull border = .ok true) {need : Size}
    (width_le : 1 + 2 * border ≤ need.width) (height_le : 1 + 2 * border ≤ need.height) :
    ¬ packing.CanHold need := by
  obtain ⟨low, narrow⟩ := (valid.isFull_iff small).mp full
  rintro ⟨_, _, ⟨row, member, _, hasGap⟩ | fits⟩
  · exact narrow row member (hasGap.mono width_le)
  · omega

end Packing
end TextureAtlas
