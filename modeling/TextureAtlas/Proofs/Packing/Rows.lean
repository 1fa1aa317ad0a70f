import Mathlib.Algebra.Order.Ring.Nat
import TextureAtlas.Packing.Rows
import TextureAtlas.Proofs.Packing.RowSpace
import TextureAtlas.Settings

/-! # Rows as strips of a page

`Packing.Valid`: the rows are stacked from the top without gaps and do not reach below the page, and
each has a valid space as wide as the page. `Packing.Holds index span`: the span is used in the row of
that index. `Valid.apart` is the geometry of it: two places that are held have no texel in common. -/
set_option autoImplicit false

namespace TextureAtlas

/-- The rows follow each other from `top` down to `bottom`. -/
def Stacked (top bottom : Nat) : List Row → Prop
  | [] => top = bottom
  | row :: rows => row.y = top ∧ Stacked (top + row.height) bottom rows

namespace Stacked

theorem top_le {top bottom : Nat} {rows : List Row} (stacked : Stacked top bottom rows) :
    top ≤ bottom := by
  induction rows generalizing top with
  | nil => exact Nat.le_of_eq stacked
  | cons row rows ih =>
    have := ih stacked.2
    omega

theorem bounds {top bottom : Nat} {rows : List Row} (stacked : Stacked top bottom rows)
    {row : Row} (member : row ∈ rows) : top ≤ row.y ∧ row.y + row.height ≤ bottom := by
  induction rows generalizing top with
  | nil => cases member
  | cons first rows ih =>
    obtain ⟨starts, rest⟩ := stacked
    rcases List.mem_cons.mp member with rfl | member
    · have := rest.top_le
      omega
    · have := ih rest member
      omega

theorem pairwise {top bottom : Nat} {rows : List Row} (stacked : Stacked top bottom rows) :
    rows.Pairwise fun upper lower => upper.y + upper.height ≤ lower.y := by
  induction rows generalizing top with
  | nil => exact List.Pairwise.nil
  | cons first rows ih =>
    obtain ⟨starts, rest⟩ := stacked
    refine List.pairwise_cons.mpr ⟨?_, ih rest⟩
    intro lower member
    have := (rest.bounds member).1
    omega

theorem apart {top bottom : Nat} {rows : List Row} (stacked : Stacked top bottom rows)
    {i j : Nat} {row other : Row} (at_i : rows[i]? = some row) (at_j : rows[j]? = some other)
    (differ : i ≠ j) : row.y + row.height ≤ other.y ∨ other.y + other.height ≤ row.y := by
  obtain ⟨iLt, rfl⟩ := List.getElem?_eq_some_iff.mp at_i
  obtain ⟨jLt, rfl⟩ := List.getElem?_eq_some_iff.mp at_j
  have sorted := List.pairwise_iff_getElem.mp stacked.pairwise
  rcases Nat.lt_or_gt_of_ne differ with before | after
  · exact Or.inl (sorted i j iLt jLt before)
  · exact Or.inr (sorted j i jLt iLt after)

theorem set {top bottom index : Nat} {rows : List Row} {row : Row} (space : RowSpace)
    (stacked : Stacked top bottom rows) (found : rows[index]? = some row) :
    Stacked top bottom (rows.set index { row with space }) := by
  induction rows generalizing top index with
  | nil => cases found
  | cons first rows ih =>
    cases index with
    | zero =>
      cases found
      exact stacked
    | succ index => exact ⟨stacked.1, ih stacked.2 found⟩

theorem append {top bottom : Nat} {rows : List Row} (stacked : Stacked top bottom rows)
    (height : Nat) (space : RowSpace) :
    Stacked top (bottom + height) (rows ++ [⟨bottom, height, space⟩]) := by
  induction rows generalizing top with
  | nil =>
    cases stacked
    exact ⟨rfl, rfl⟩
  | cons first rows ih => exact ⟨stacked.1, ih stacked.2⟩

theorem sum_heights {top bottom : Nat} {rows : List Row} (stacked : Stacked top bottom rows) :
    top + (rows.map Row.height).sum = bottom := by
  induction rows generalizing top with
  | nil => exact stacked
  | cons first rows ih =>
    have below := ih stacked.2
    rw [List.map_cons, List.sum_cons]
    omega

end Stacked

namespace Packing

structure Valid (packing : Packing) : Prop where
  width_le : packing.size.width ≤ maxPageSide
  height_le : packing.size.height ≤ maxPageSide
  stacked : Stacked 0 packing.filled packing.rows
  filled_le : packing.filled ≤ packing.size.height
  row_valid : ∀ row ∈ packing.rows, row.space.Valid
  row_total : ∀ row ∈ packing.rows, row.space.total = packing.size.width

theorem Valid.filled_eq_sum {packing : Packing} (valid : packing.Valid) :
    packing.filled = (packing.rows.map Row.height).sum := by
  rw [← valid.stacked.sum_heights, Nat.zero_add]

/-- The span is used in the row of this index. -/
def Holds (packing : Packing) (index : Nat) (span : Span) : Prop :=
  ∃ row, packing.rows[index]? = some row ∧ span ∈ row.space.used

theorem valid_empty {size : Size} (width_le : size.width ≤ maxPageSide)
    (height_le : size.height ≤ maxPageSide) : (empty size).Valid where
  width_le := width_le
  height_le := height_le
  stacked := rfl
  filled_le := Nat.zero_le _
  row_valid := by simp [empty]
  row_total := by simp [empty]

theorem not_holds_empty (size : Size) (index : Nat) (span : Span) :
    ¬ (empty size).Holds index span := by
  rintro ⟨row, found, _⟩
  cases found

/-- A held span lies inside the page, and so does the strip of its row. -/
theorem Valid.within {packing : Packing} (valid : packing.Valid) {index : Nat} {row : Row}
    {span : Span} (found : packing.rows[index]? = some row) (used : span ∈ row.space.used) :
    span.x + span.width ≤ packing.size.width ∧ row.y + row.height ≤ packing.size.height := by
  have member := List.mem_of_getElem? found
  have inRow := ((valid.row_valid row member).ordered.bounds used).2.2
  have total_eq := valid.row_total row member
  have above := (valid.stacked.bounds member).2
  have filled_le := valid.filled_le
  omega

/-- Two places that are held are apart, on one axis or on the other. -/
theorem Valid.apart {packing : Packing} (valid : packing.Valid) {i j : Nat} {row other : Row}
    {span span' : Span} (at_i : packing.rows[i]? = some row) (at_j : packing.rows[j]? = some other)
    (used : span ∈ row.space.used) (used' : span' ∈ other.space.used)
    (differ : (i, span) ≠ (j, span')) :
    (row.y + row.height ≤ other.y ∨ other.y + other.height ≤ row.y) ∨
      (span.x + span.width ≤ span'.x ∨ span'.x + span'.width ≤ span.x) := by
  by_cases sameRow : i = j
  · subst sameRow
    have same : row = other := Option.some.inj (at_i.symm.trans at_j)
    subst same
    have ordered := (valid.row_valid row (List.mem_of_getElem? at_i)).ordered
    refine Or.inr (ordered.apart used used' ?_)
    intro sameSpan
    exact differ (by rw [sameSpan])
  · exact Or.inl (valid.stacked.apart at_i at_j sameRow)

/-! ## Replacing the space of a row -/

def withSpace (packing : Packing) (index : Nat) (row : Row) (space : RowSpace) : Packing :=
  { packing with rows := packing.rows.set index { row with space } }

section WithSpace

variable {packing : Packing} {i j : Nat} {row other : Row} {space : RowSpace}

theorem getElem?_withSpace_self (found : packing.rows[i]? = some row) :
    (packing.withSpace i row space).rows[i]? = some { row with space } :=
  List.getElem?_set_self (List.getElem?_eq_some_iff.mp found).1

theorem getElem?_withSpace_ne (differ : i ≠ j) (found : packing.rows[j]? = some other) :
    (packing.withSpace i row space).rows[j]? = some other :=
  (List.getElem?_set_ne differ).trans found

theorem withSpace_withSpace (space' : RowSpace) :
    (packing.withSpace i row space).withSpace i { row with space } space' =
      packing.withSpace i row space' := by
  simp only [withSpace, List.set_set]

theorem withSpace_comm (differ : i ≠ j) (space' : RowSpace) :
    (packing.withSpace i row space).withSpace j other space' =
      (packing.withSpace j other space').withSpace i row space := by
  simp only [withSpace, List.set_comm _ _ differ]

end WithSpace

theorem Valid.withSpace {packing : Packing} (valid : packing.Valid) {index : Nat} {row : Row}
    {space : RowSpace} (found : packing.rows[index]? = some row) (space_valid : space.Valid)
    (total_eq : space.total = row.space.total) : (packing.withSpace index row space).Valid where
  width_le := valid.width_le
  height_le := valid.height_le
  stacked := valid.stacked.set space found
  filled_le := valid.filled_le
  row_valid := by
    intro other member
    rcases List.mem_or_eq_of_mem_set member with member | rfl
    · exact valid.row_valid other member
    · exact space_valid
  row_total := by
    intro other member
    rcases List.mem_or_eq_of_mem_set member with member | rfl
    · exact valid.row_total other member
    · exact total_eq.trans (valid.row_total row (List.mem_of_getElem? found))

theorem holds_withSpace {packing : Packing} {index : Nat} {row : Row} {space : RowSpace}
    (found : packing.rows[index]? = some row) (other : Nat) (span : Span) :
    (packing.withSpace index row space).Holds other span ↔
      if other = index then span ∈ space.used else packing.Holds other span := by
  have inside : index < packing.rows.length := (List.getElem?_eq_some_iff.mp found).1
  simp only [Holds, withSpace]
  by_cases same : other = index
  · subst same
    rw [if_pos rfl, List.getElem?_set_self inside]
    simp
  · rw [if_neg same, List.getElem?_set_ne (Ne.symm same)]

/-- The rows of a packing keep their index, their top and their height in another. -/
def KeepsRows (packing next : Packing) : Prop :=
  ∀ (index : Nat) (row : Row), packing.rows[index]? = some row →
    ∃ row', next.rows[index]? = some row' ∧ row'.y = row.y ∧ row'.height = row.height

theorem KeepsRows.refl (packing : Packing) : packing.KeepsRows packing :=
  fun _ row found => ⟨row, found, rfl, rfl⟩

theorem keepsRows_withSpace {packing : Packing} {index : Nat} {row : Row} {space : RowSpace}
    (found : packing.rows[index]? = some row) :
    packing.KeepsRows (packing.withSpace index row space) := by
  intro other row' found'
  by_cases same : index = other
  · subst same
    cases found.symm.trans found'
    exact ⟨_, getElem?_withSpace_self found, rfl, rfl⟩
  · exact ⟨row', getElem?_withSpace_ne same found', rfl, rfl⟩

end Packing
end TextureAtlas
