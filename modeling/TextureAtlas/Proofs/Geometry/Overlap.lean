import TextureAtlas.Geometry.Rectangle
import TextureAtlas.Proofs.Packing.Gaps

/-! # Texels in common

`Rectangle.intersects` compares the ends of two rectangles, `Rectangle.Apart` is its negation. On each axis the
comparisons hold of two spans with a unit in common, and besides of an empty span that another one has units
on both sides of (`Span.cross_iff`). Of rectangles that are not empty, `intersects` therefore says that they
have a texel in common; of an empty one it may say so where there is none (`intersects_exact`). -/
set_option autoImplicit false

namespace TextureAtlas

/-! ## On one axis -/

namespace Span

/-- They have a unit in common. -/
def Meets (a b : Span) : Prop := ∃ unit, a.Covers unit ∧ b.Covers unit

/-- One of the two has no units, and the other has some on both sides of it. -/
def Straddle (a b : Span) : Prop :=
  a.width = 0 ∧ b.x < a.x ∧ a.x < b.x + b.width ∨ b.width = 0 ∧ a.x < b.x ∧ b.x < a.x + a.width

variable {a b : Span}

theorem meets_iff :
    a.Meets b ↔ 0 < a.width ∧ 0 < b.width ∧ a.x < b.x + b.width ∧ b.x < a.x + a.width := by
  constructor
  · intro meets
    obtain ⟨unit, here, there⟩ := meets
    simp only [Covers] at here there
    omega
  · intro cross
    -- The later start is a unit of both.
    refine ⟨max a.x b.x, ?_, ?_⟩
    · simp only [Covers]
      omega
    · simp only [Covers]
      omega

/-- Each starts before the other ends. -/
theorem cross_iff :
    a.x < b.x + b.width ∧ b.x < a.x + a.width ↔ a.Meets b ∨ a.Straddle b := by
  rw [meets_iff]
  simp only [Straddle]
  omega

theorem not_straddle_of_pos (pos : 0 < a.width) (pos' : 0 < b.width) : ¬ a.Straddle b := by
  simp only [Straddle]
  omega

end Span

/-! ## On both axes -/

namespace Rectangle

def Covers (r : Rectangle) (x y : Nat) : Prop :=
  r.x ≤ x ∧ x < r.x + r.width ∧ r.y ≤ y ∧ y < r.y + r.height

/-- One ends before the other starts, on one of the axes. -/
def Apart (a b : Rectangle) : Prop :=
  (a.x + a.width ≤ b.x ∨ b.x + b.width ≤ a.x) ∨ (a.y + a.height ≤ b.y ∨ b.y + b.height ≤ a.y)

variable {a b : Rectangle}

theorem intersects_eq_false_iff : a.intersects b = false ↔ a.Apart b := by
  rw [← Bool.not_eq_true, intersects, Apart]
  simp only [Bool.and_eq_true, decide_eq_true_eq]
  omega

namespace Apart

theorem symm (apart : a.Apart b) : b.Apart a :=
  apart.imp Or.symm Or.symm

theorem intersects_eq (apart : a.Apart b) : a.intersects b = false :=
  intersects_eq_false_iff.mpr apart

theorem not_covers (apart : a.Apart b) {x y : Nat} (here : a.Covers x y) : ¬ b.Covers x y := by
  simp only [Apart, Covers] at apart here ⊢
  omega

end Apart

def columns (r : Rectangle) : Span := ⟨r.x, r.width⟩

def lines (r : Rectangle) : Span := ⟨r.y, r.height⟩

theorem covers_iff {r : Rectangle} {x y : Nat} :
    r.Covers x y ↔ r.columns.Covers x ∧ r.lines.Covers y :=
  and_assoc.symm

theorem exists_common_texel_iff :
    (∃ x y, a.Covers x y ∧ b.Covers x y) ↔ a.columns.Meets b.columns ∧ a.lines.Meets b.lines := by
  simp only [covers_iff]
  constructor
  · intro common
    obtain ⟨x, y, ⟨here, here'⟩, there, there'⟩ := common
    exact ⟨⟨x, here, there⟩, y, here', there'⟩
  · intro meet
    obtain ⟨⟨x, here, there⟩, y, here', there'⟩ := meet
    exact ⟨x, y, ⟨here, here'⟩, there, there'⟩

theorem intersects_iff :
    a.intersects b = true ↔
      (a.columns.Meets b.columns ∨ a.columns.Straddle b.columns) ∧
        (a.lines.Meets b.lines ∨ a.lines.Straddle b.lines) := by
  rw [← Span.cross_iff, ← Span.cross_iff, intersects]
  simp only [Bool.and_eq_true, decide_eq_true_eq, columns, lines, and_assoc]

theorem sides_pos_of_area {r : Rectangle} (pos : 0 < r.size.area) : 0 < r.width ∧ 0 < r.height := by
  obtain ⟨width_ne, height_ne⟩ := Nat.mul_ne_zero_iff.mp (Nat.ne_of_gt pos)
  exact ⟨Nat.pos_of_ne_zero width_ne, Nat.pos_of_ne_zero height_ne⟩

/-- Two rectangles have a texel in common exactly if they meet on both axes, wherever they end. `intersects` also
lets an axis pass on which one of them is empty and the other straddles it. If both have texels there is no such
axis, and `intersects` says whether they have one in common. -/
theorem intersects_exact (a b : Rectangle) :
    ((∃ x y, a.Covers x y ∧ b.Covers x y) ↔
      a.columns.Meets b.columns ∧ a.lines.Meets b.lines) ∧
    (a.intersects b = true ↔
      (a.columns.Meets b.columns ∨ a.columns.Straddle b.columns) ∧
        (a.lines.Meets b.lines ∨ a.lines.Straddle b.lines)) ∧
    (0 < a.size.area → 0 < b.size.area →
      (a.intersects b = true ↔ ∃ x y, a.Covers x y ∧ b.Covers x y)) := by
  refine ⟨exists_common_texel_iff, intersects_iff, ?_⟩
  intro pos pos'
  obtain ⟨width_pos, height_pos⟩ := sides_pos_of_area pos
  obtain ⟨width_pos', height_pos'⟩ := sides_pos_of_area pos'
  have no_columns : ¬ a.columns.Straddle b.columns := Span.not_straddle_of_pos width_pos width_pos'
  have no_lines : ¬ a.lines.Straddle b.lines := Span.not_straddle_of_pos height_pos height_pos'
  rw [intersects_iff, exists_common_texel_iff, or_iff_left no_columns, or_iff_left no_lines]

/-- Two rectangles that reach past the last coordinate, with one texel in common, and two that touch. -/
theorem intersects_exact_corner :
    let corner : Rectangle := ⟨4294967294, 4294967294, 10, 10⟩
    let last : Rectangle := ⟨4294967295, 0, 1, 4294967295⟩
    let left : Rectangle := ⟨0, 0, 4294967294, 4294967295⟩
    0 < corner.size.area ∧ 0 < last.size.area ∧ 0 < left.size.area ∧
      corner.intersects last = true ∧ (∃ x y, corner.Covers x y ∧ last.Covers x y) ∧
      corner.intersects left = false ∧ ¬ ∃ x y, corner.Covers x y ∧ left.Covers x y := by
  intro corner last left
  have corner_pos : 0 < corner.size.area := by decide
  have last_pos : 0 < last.size.area := by decide
  have left_pos : 0 < left.size.area := by decide
  have meet : corner.intersects last = true := by decide
  have apart : corner.intersects left = false := by decide
  obtain ⟨_, _, with_last⟩ := intersects_exact corner last
  obtain ⟨_, _, with_left⟩ := intersects_exact corner left
  exact ⟨corner_pos, last_pos, left_pos, meet, (with_last corner_pos last_pos).mp meet, apart,
    mt (with_left corner_pos left_pos).mpr (Bool.eq_false_iff.mp apart)⟩

/-- An empty rectangle in the middle of another: no texel is common to both. -/
theorem intersects_without_texel :
    let square : Rectangle := ⟨0, 0, 4, 4⟩
    let empty : Rectangle := ⟨2, 2, 0, 0⟩
    square.intersects empty = true ∧ ¬ ∃ x y, square.Covers x y ∧ empty.Covers x y := by
  intro square empty
  refine ⟨by decide, ?_⟩
  intro common
  obtain ⟨x, y, _, left, right, _⟩ := common
  exact Nat.lt_irrefl _ (Nat.lt_of_le_of_lt left right)

end Rectangle
end TextureAtlas
