import Mathlib.Algebra.Order.BigOperators.Group.List
import Mathlib.Algebra.Order.Ring.Nat
import TextureAtlas.Proofs.Atlas.Ledger

/-! # The area that is taken

`Packing.taken` is what `usedArea` computes: the used widths of the rows, each times the height of its
row. Rows do not reach out of the page, so it is at most the area of the page. With as many pages as
can be, a hundred times the sum of all is still a position, and so the utilization is the exact
quotient. -/
set_option autoImplicit false

namespace TextureAtlas

/-- A checked sum over a list is the exact one if that is a position. -/
theorem foldlM_eq_sum {α : Type} {step : Nat → α → Except Fault Nat} {weight : α → Nat}
    {items : List α}
    (adds : ∀ item ∈ items, ∀ sum, step sum item = position (sum + weight item)) {start : Nat}
    (small : start + (items.map weight).sum < positionLimit) :
    items.foldlM step start = .ok (start + (items.map weight).sum) := by
  induction items generalizing start with
  | nil => rfl
  | cons first rest ih =>
    obtain ⟨first_adds, rest_adds⟩ := List.forall_mem_cons.mp adds
    rw [List.map_cons, List.sum_cons, ← Nat.add_assoc] at small ⊢
    rw [List.foldlM_cons, first_adds, position_of_lt (by omega), ok_bind]
    exact ih rest_adds small

/-- The texels a row keeps for its used spans. -/
def Row.taken (row : Row) : Nat := lengthSum row.space.used * row.height

namespace Packing

def taken (packing : Packing) : Nat := (packing.rows.map Row.taken).sum

theorem taken_le_of_stacked {width top bottom : Nat} {rows : List Row}
    (stacked : Stacked top bottom rows) (narrow : ∀ row ∈ rows, lengthSum row.space.used ≤ width) :
    width * top + (rows.map Row.taken).sum ≤ width * bottom := by
  induction rows generalizing top with
  | nil =>
    rw [show top = bottom from stacked]
    exact Nat.le_refl _
  | cons first rest ih =>
    obtain ⟨first_narrow, rest_narrow⟩ := List.forall_mem_cons.mp narrow
    have below := ih stacked.2 rest_narrow
    have here : first.taken ≤ width * first.height := Nat.mul_le_mul_right _ first_narrow
    rw [Nat.mul_add] at below
    rw [List.map_cons, List.sum_cons]
    omega

theorem Valid.used_le {packing : Packing} (valid : packing.Valid) {row : Row}
    (member : row ∈ packing.rows) : lengthSum row.space.used ≤ packing.size.width := by
  have sum := (valid.row_valid row member).available_eq
  have total_eq := valid.row_total row member
  omega

theorem Valid.taken_le {packing : Packing} (valid : packing.Valid) :
    packing.taken ≤ packing.size.area := by
  have within := taken_le_of_stacked valid.stacked fun _ => valid.used_le
  have shorter := Nat.mul_le_mul_left packing.size.width valid.filled_le
  rw [Nat.mul_zero, Nat.zero_add] at within
  exact Nat.le_trans within shorter

/-- The area of the largest page. -/
theorem Valid.area_le {packing : Packing} (valid : packing.Valid) :
    packing.size.area ≤ maxPageSide * maxPageSide := Nat.mul_le_mul valid.width_le valid.height_le

theorem Valid.usedArea_eq {packing : Packing} (valid : packing.Valid) :
    packing.usedArea = .ok packing.taken := by
  have limit : maxPageSide * maxPageSide < positionLimit := by decide
  have small := Nat.lt_of_le_of_lt (Nat.le_trans valid.taken_le valid.area_le) limit
  rw [usedArea, taken, ← Nat.zero_add (List.sum _)]
  apply foldlM_eq_sum
  · intro row member sum
    have counted := (valid.row_valid row member).available_eq
    have used_eq : row.space.total - row.space.available = lengthSum row.space.used := by omega
    rw [RowSpace.usedSpace, minus_of_le (by omega), ok_bind, used_eq]
    rfl
  · rwa [Nat.zero_add]

end Packing

namespace Atlas

/-- What the fragments take on all pages. -/
def taken (atlas : Atlas) : Nat := (atlas.pages.map (·.packing.taken)).sum

def area (atlas : Atlas) : Nat := (atlas.pages.map (·.size.area)).sum

/-- Two to the 31st. A hundred times the area of as many pages, of the largest size, is a position. -/
def mostPages : Nat := 0x80000000

theorem Sound.taken_le {atlas : Atlas} (sound : atlas.Sound) : atlas.taken ≤ atlas.area :=
  List.sum_le_sum fun page member => (sound.page_valid page member).packing_valid.taken_le

theorem Sound.area_small {atlas : Atlas} (sound : atlas.Sound) (few : atlas.pageCount ≤ mostPages) :
    atlas.area * 100 < positionLimit := by
  have each : atlas.area ≤ atlas.pageCount * (maxPageSide * maxPageSide) := by
    have bounded := List.sum_le_card_nsmul (atlas.pages.map (·.size.area))
      (maxPageSide * maxPageSide) (List.forall_mem_map.mpr fun page member =>
        (sound.page_valid page member).packing_valid.area_le)
    rwa [List.length_map, Nat.nsmul_eq_mul] at bounded
  have most := Nat.mul_le_mul_right (maxPageSide * maxPageSide) few
  have limit : mostPages * (maxPageSide * maxPageSide) * 100 < positionLimit := by decide
  omega

/-- The percentage in exact arithmetic; without pages it is the quotient of zeros, which is zero. -/
theorem Sound.utilization_eq {atlas : Atlas} (sound : atlas.Sound)
    (few : atlas.pageCount ≤ mostPages) :
    atlas.utilization = .ok (atlas.taken * 100 / atlas.area) ∧
      atlas.taken * 100 / atlas.area ≤ 100 := by
  have small := sound.area_small few
  have taken_le := sound.taken_le
  have percent_le : atlas.taken * 100 / atlas.area ≤ 100 := by
    apply Nat.div_le_of_le_mul
    exact Nat.mul_le_mul_right 100 taken_le
  refine ⟨?_, percent_le⟩
  have total : atlas.pages.foldlM (fun area page => position (area + page.size.area)) 0 =
      .ok (0 + atlas.area) := by
    apply foldlM_eq_sum fun _ _ _ => rfl
    show 0 + atlas.area < positionLimit
    omega
  have used : atlas.pages.foldlM (fun area page => do position (area + (← page.usedArea))) 0 =
      .ok (0 + atlas.taken) := by
    apply foldlM_eq_sum
    · intro page member sum
      rw [Page.usedArea, (sound.page_valid page member).packing_valid.usedArea_eq, ok_bind]
    · show 0 + atlas.taken < positionLimit
      omega
  rw [Nat.zero_add] at total used
  rw [utilization, total, ok_bind, used, ok_bind, position_of_lt (by omega), ok_bind]
  by_cases empty : atlas.area = 0
  · rw [if_pos empty, empty, Nat.div_zero]
    rfl
  · have lossless : atlas.taken * 100 / atlas.area % coordLimit = atlas.taken * 100 / atlas.area :=
      Nat.mod_eq_of_lt (Nat.lt_of_le_of_lt percent_le (by decide))
    rw [if_neg empty, lossless]
    rfl

end Atlas
end TextureAtlas
