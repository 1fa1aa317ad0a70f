import TextureAtlas.Proofs.Packing.Rows

/-! # Taking and giving back places

`Packing.Places` says all that `place` can do when it succeeds: a span of the first row that takes the
footprint, or of a new row below the others. From it follow, each in a lemma, that the packing stays
valid, that rows stay where they are, and that exactly one place more is held. `release` is the
converse. On the way no number is out of range. -/
set_option autoImplicit false

namespace TextureAtlas

theorem maxPageSide_lt_coordLimit : maxPageSide < coordLimit := by decide

theorem Row.take_cases {row : Row} (valid : row.space.Valid) (need : Size) :
    row.take need = (.ok none, row) ∨
      ∃ span space, row.take need = (.ok (some span), { row with space }) ∧
        need.height ≤ row.height ∧ row.space.Grants need.width span space := by
  simp only [Row.take]
  by_cases low : row.height < need.height
  · exact Or.inl (if_pos low)
  rw [if_neg low]
  rcases valid.alloc_cases need.width with ⟨error, refused⟩ | ⟨span, space, success, grants⟩
  · rw [refused]
    exact Or.inl rfl
  · rw [success]
    exact Or.inr ⟨span, space, rfl, Nat.not_lt.mp low, grants⟩

/-- The rows before this index do not take the footprint. -/
def RefusedBefore (need : Size) (rows : List Row) (index : Nat) : Prop :=
  ∀ (earlier : Nat) (row : Row), earlier < index → rows[earlier]? = some row →
    row.take need = (.ok none, row)

theorem takeFirst_cases {rows : List Row} (valid : ∀ row ∈ rows, row.space.Valid) (need : Size)
    (start : Nat) :
    (takeFirst need start rows = (.ok none, rows) ∧ RefusedBefore need rows rows.length) ∨
      ∃ index row span space, rows[index]? = some row ∧ RefusedBefore need rows index ∧
        need.height ≤ row.height ∧ row.space.Grants need.width span space ∧
        takeFirst need start rows =
          (.ok (some ⟨start + index, row.y, span⟩), rows.set index { row with space }) := by
  induction rows generalizing start with
  | nil =>
    refine Or.inl ⟨rfl, ?_⟩
    intro earlier row _ found
    cases found
  | cons first rows ih =>
    have restValid := fun row member => valid row (List.mem_cons_of_mem _ member)
    rcases Row.take_cases (valid first List.mem_cons_self) need with
      refused | ⟨span, space, taken, high, grants⟩
    · have cons_refused : ∀ index, RefusedBefore need rows index →
          RefusedBefore need (first :: rows) (index + 1) := by
        intro index before earlier row less found
        cases earlier with
        | zero =>
          cases found
          exact refused
        | succ earlier => exact before earlier row (Nat.lt_of_succ_lt_succ less) found
      rcases ih restValid (start + 1) with ⟨result, before⟩ |
        ⟨index, row, span, space, found, before, high, grants, result⟩
      · refine Or.inl ⟨?_, cons_refused rows.length before⟩
        simp only [takeFirst, refused, result]
      · refine Or.inr ⟨index + 1, row, span, space, found, cons_refused index before, high, grants, ?_⟩
        have shifted : start + 1 + index = start + (index + 1) := by omega
        simp only [takeFirst, refused, result, shifted, List.set_cons_succ]
    · refine Or.inr ⟨0, first, span, space, rfl, ?_, high, grants, ?_⟩
      · intro earlier row less
        exact absurd less (Nat.not_lt_zero _)
      · simp only [takeFirst, taken, Nat.add_zero, List.set_cons_zero]

namespace Packing

def withRow (packing : Packing) (height : Nat) (space : RowSpace) : Packing :=
  { packing with
    rows := packing.rows ++ [⟨packing.filled, height, space⟩]
    filled := packing.filled + height }

theorem Valid.withRow {packing : Packing} (valid : packing.Valid) {height : Nat} {space : RowSpace}
    (fits : height ≤ packing.size.height - packing.filled) (space_valid : space.Valid)
    (total_eq : space.total = packing.size.width) : (packing.withRow height space).Valid where
  width_le := valid.width_le
  height_le := valid.height_le
  stacked := valid.stacked.append height space
  filled_le := by
    have := valid.filled_le
    simp only [Packing.withRow]
    omega
  row_valid := by
    intro row member
    rcases List.mem_append.mp member with member | member
    · exact valid.row_valid row member
    · cases List.mem_singleton.mp member
      exact space_valid
  row_total := by
    intro row member
    rcases List.mem_append.mp member with member | member
    · exact valid.row_total row member
    · cases List.mem_singleton.mp member
      exact total_eq

theorem holds_withRow {packing : Packing} {height : Nat} {space : RowSpace} (index : Nat)
    (span : Span) :
    (packing.withRow height space).Holds index span ↔
      packing.Holds index span ∨ index = packing.rows.length ∧ span ∈ space.used := by
  simp only [Holds, withRow]
  rcases Nat.lt_trichotomy index packing.rows.length with less | same | more
  · rw [List.getElem?_append_left less]
    constructor
    · exact Or.inl
    · rintro (held | ⟨same, _⟩)
      · exact held
      · omega
  · subst same
    simp
  · have beyond : index ≠ packing.rows.length := by omega
    rw [List.getElem?_eq_none (by simp; omega), List.getElem?_eq_none (by omega)]
    simp [beyond]

theorem keepsRows_withRow {packing : Packing} {height : Nat} {space : RowSpace} :
    packing.KeepsRows (packing.withRow height space) := by
  intro index row found
  have inside : index < packing.rows.length := (List.getElem?_eq_some_iff.mp found).1
  exact ⟨row, by simp only [withRow, List.getElem?_append_left inside, found], rfl, rfl⟩

/-- The place of a fragment in a row at `y`: the span with a border on each side of the texels. -/
def seat (index y : Nat) (span : Span) (border : Nat) (size : Size) : Placement :=
  ⟨index, span, ⟨span.x + border, y + border, size.width, size.height⟩⟩

/-- All the ways to find a place for a fragment whose footprint is `need`. -/
inductive Places (packing : Packing) (border : Nat) (size need : Size) : Placement → Packing → Prop
  | inRow {index : Nat} {row : Row} {span : Span} {space : RowSpace}
      (found : packing.rows[index]? = some row) (before : RefusedBefore need packing.rows index)
      (high : need.height ≤ row.height) (grants : row.space.Grants need.width span space) :
      Places packing border size need (seat index row.y span border size)
        (packing.withSpace index row space)
  | below {span : Span} {space : RowSpace}
      (before : RefusedBefore need packing.rows packing.rows.length)
      (fits : need.height ≤ packing.size.height - packing.filled)
      (grants : (RowSpace.ofTotal packing.size.width).Grants need.width span space) :
      Places packing border size need
        (seat packing.rows.length packing.filled span border size)
        (packing.withRow need.height space)

namespace Places

variable {packing next : Packing} {border : Nat} {size need : Size} {placement : Placement}

theorem valid (places : packing.Places border size need placement next) (valid : packing.Valid) :
    next.Valid := by
  cases places with
  | inRow found before high grants => exact valid.withSpace found grants.valid grants.total_eq
  | below before fits grants => exact valid.withRow fits grants.valid grants.total_eq

theorem size_eq (places : packing.Places border size need placement next) :
    next.size = packing.size := by
  cases places <;> rfl

theorem rectangle_size (places : packing.Places border size need placement next) :
    placement.rectangle.size = size := by
  cases places <;> rfl

theorem keepsRows (places : packing.Places border size need placement next) :
    packing.KeepsRows next := by
  cases places with
  | inRow found before high grants => exact keepsRows_withSpace found
  | below before fits grants => exact keepsRows_withRow

theorem span_width (places : packing.Places border size need placement next) :
    placement.span.width = need.width := by
  cases places with
  | inRow found before high grants =>
    obtain ⟨gap, _, _, rfl⟩ := grants.from_gap
    rfl
  | below before fits grants =>
    obtain ⟨gap, _, _, rfl⟩ := grants.from_gap
    rfl

/-- The row of the place is there, is high enough, and uses the span. -/
theorem row (places : packing.Places border size need placement next) :
    ∃ row, next.rows[placement.row]? = some row ∧ placement.span ∈ row.space.used ∧
      need.height ≤ row.height ∧
      placement = seat placement.row row.y placement.span border size := by
  cases places with
  | @inRow index row span space found before high grants =>
    refine ⟨{ row with space }, getElem?_withSpace_self found, ?_, high, rfl⟩
    rw [grants.used_eq]
    exact mem_insertByStart.mpr (Or.inl rfl)
  | @below span space before fits grants =>
    refine ⟨⟨packing.filled, need.height, space⟩, ?_, ?_, Nat.le_refl _, rfl⟩
    · simp [withRow, seat]
    · rw [grants.used_eq]
      exact mem_insertByStart.mpr (Or.inl rfl)

/-- Exactly one place more is held. -/
theorem holds_iff (places : packing.Places border size need placement next) (index : Nat)
    (span : Span) :
    next.Holds index span ↔
      packing.Holds index span ∨ index = placement.row ∧ span = placement.span := by
  cases places with
  | @inRow found_index row granted space found before high grants =>
    rw [holds_withSpace found, grants.used_eq]
    by_cases same : index = found_index
    · subst same
      rw [if_pos rfl, mem_insertByStart, or_comm]
      simp only [seat, Holds, found, Option.some.injEq, exists_eq_left', true_and]
    · rw [if_neg same]
      simp only [seat, same, false_and, or_false]
  | @below granted space before fits grants =>
    rw [holds_withRow, grants.used_eq, mem_insertByStart]
    simp only [seat, RowSpace.ofTotal, List.not_mem_nil, or_false]

/-- A span that is granted was not used before. -/
theorem fresh (places : packing.Places border size need placement next) (valid : packing.Valid) :
    ¬ packing.Holds placement.row placement.span := by
  cases places with
  | @inRow index row span space found before high grants =>
    rintro ⟨row', found', used⟩
    cases found.symm.trans found'
    have row_valid := valid.row_valid row (List.mem_of_getElem? found)
    obtain ⟨gap, free, fits, rfl⟩ := grants.from_gap
    have positive := grants.positive
    have covers : gap.Covers gap.x := ⟨Nat.le_refl _, by omega⟩
    have unused := ((row_valid.free_iff gap.x).mp ⟨gap, free, covers⟩).2
    exact unused _ used ⟨Nat.le_refl _, Nat.lt_add_of_pos_right positive⟩
  | below before fits grants =>
    rintro ⟨row, found, _⟩
    have inside := (List.getElem?_eq_some_iff.mp found).1
    exact Nat.lt_irrefl _ inside

end Places

theorem Valid.openRow_cases {packing : Packing} (valid : packing.Valid) (need : Size) :
    packing.openRow need = (.ok none, packing) ∨
      ∃ span space, need.height ≤ packing.size.height - packing.filled ∧
        (RowSpace.ofTotal packing.size.width).Grants need.width span space ∧
        packing.openRow need = (.ok (some ⟨packing.rows.length, packing.filled, span⟩),
          packing.withRow need.height space) := by
  have filled_le := valid.filled_le
  have height_le := valid.height_le
  have small := Nat.lt_of_le_of_lt valid.width_le maxPageSide_lt_coordLimit
  have limit := maxPageSide_lt_coordLimit
  simp only [openRow, remaining, minus_of_le filled_le]
  by_cases low : packing.size.height - packing.filled < need.height
  · exact Or.inl (if_pos low)
  rw [if_neg low]
  rcases (RowSpace.valid_ofTotal small).alloc_cases need.width with
    ⟨error, refused⟩ | ⟨span, space, success, grants⟩
  · rw [refused]
    exact Or.inl rfl
  · rw [success]
    refine Or.inr ⟨span, space, Nat.not_lt.mp low, grants, ?_⟩
    simp only [coord_of_lt (show packing.filled + need.height < coordLimit by omega)]
    rfl

theorem Valid.reserve_cases {packing : Packing} (valid : packing.Valid) (border : Nat)
    (size need : Size) :
    (packing.reserve need = (.ok none, packing) ∧ RefusedBefore need packing.rows packing.rows.length) ∨
      ∃ slot next, packing.reserve need = (.ok (some slot), next) ∧
        packing.Places border size need (seat slot.row slot.y slot.span border size) next := by
  simp only [reserve]
  rcases takeFirst_cases valid.row_valid need 0 with ⟨result, before⟩ |
    ⟨index, row, span, space, found, before, high, grants, result⟩
  · rw [result]
    rcases valid.openRow_cases need with none_left | ⟨span, space, fits, grants, opened⟩
    · exact Or.inl ⟨none_left, before⟩
    · exact Or.inr ⟨_, _, opened, .below before fits grants⟩
  · rw [result, Nat.zero_add]
    exact Or.inr ⟨_, _, rfl, .inRow found before high grants⟩

theorem footprint_of_small {border : Nat} (small : 2 * border < coordLimit) (size : Size) :
    size.footprint border =
      .ok ⟨min (size.width + 2 * border) (coordLimit - 1),
        min (size.height + 2 * border) (coordLimit - 1)⟩ := by
  rw [Size.footprint, coord_of_lt small, ok_bind]
  rfl

theorem Valid.isFull_eq {packing : Packing} (valid : packing.Valid) {border : Nat}
    (small : 2 * border < coordLimit) :
    packing.isFull border = .ok (decide (packing.size.height - packing.filled < 1 + 2 * border) &&
      packing.rows.all fun row => !row.space.hasSpace (1 + 2 * border)) := by
  -- Twice a number is even, so one more is still a coordinate.
  have smallest : 1 + 2 * border < coordLimit := by
    simp only [coordLimit] at small ⊢
    omega
  simp only [isFull, coord_of_lt small, coord_of_lt smallest, ok_bind, remaining,
    minus_of_le valid.filled_le]
  rfl

/-- Finding a place is no fault: the footprint is too large for the page, or nothing takes it, or it
gets a place. -/
theorem Valid.place_cases {packing : Packing} (valid : packing.Valid) {border : Nat}
    (small : 2 * border < coordLimit) (size : Size) :
    ((packing.size.width < size.width + 2 * border ∨
        packing.size.height < size.height + 2 * border) ∧
      packing.place border size = (.ok .oversized, packing)) ∨
      (∃ full,
        packing.reserve ⟨size.width + 2 * border, size.height + 2 * border⟩ = (.ok none, packing) ∧
        packing.isFull border = .ok full ∧
        packing.place border size = (.ok (.noRoom full), packing)) ∨
      ∃ placement next, packing.place border size = (.ok (.placed placement), next) ∧
        packing.Places border size ⟨size.width + 2 * border, size.height + 2 * border⟩
          placement next := by
  have width_le := valid.width_le
  have height_le := valid.height_le
  have limit : maxPageSide < coordLimit - 1 := by decide
  simp only [place, footprint_of_small small]
  by_cases large : packing.size.width < size.width + 2 * border ∨
      packing.size.height < size.height + 2 * border
  · refine Or.inl ⟨large, if_pos ?_⟩
    omega
  · have need_eq : (⟨min (size.width + 2 * border) (coordLimit - 1),
        min (size.height + 2 * border) (coordLimit - 1)⟩ : Size) =
        ⟨size.width + 2 * border, size.height + 2 * border⟩ := by
      congr 1 <;> omega
    rw [if_neg (by omega), need_eq]
    right
    rcases valid.reserve_cases border size ⟨size.width + 2 * border, size.height + 2 * border⟩ with
      ⟨result, _⟩ | ⟨slot, next, result, places⟩
    · rw [result]
      refine Or.inl ⟨_, rfl, valid.isFull_eq small, ?_⟩
      simp only [valid.isFull_eq small]
      rfl
    · rw [result]
      refine Or.inr ⟨_, _, ?_, places⟩
      obtain ⟨row, found, used, high, seat_eq⟩ := places.row
      obtain ⟨right, low⟩ := (places.valid valid).within found used
      have width_eq := places.span_width
      have y_eq : slot.y = row.y := by
        have := congrArg (fun placement => placement.rectangle.y) seat_eq
        simp only [seat] at this
        omega
      simp only [seat, places.size_eq] at right low width_eq high
      simp only [Slot.inset, coord_of_lt (show slot.span.x + border < coordLimit by omega),
        coord_of_lt (show slot.y + border < coordLimit by omega), ok_bind]
      rfl

/-! ## Giving back -/

theorem release_eq_ok_iff {packing next : Packing} {index : Nat} {span : Span} :
    packing.release index span = (.ok (), next) ↔
      ∃ row space, packing.rows[index]? = some row ∧ row.space.release span = (.ok (), space) ∧
        next = packing.withSpace index row space := by
  constructor
  · intro success
    simp only [release] at success
    split at success
    · cases success
    · rename_i row found
      obtain ⟨done, next_eq⟩ := Prod.mk.inj success
      exact ⟨row, _, found, Prod.ext done rfl, next_eq.symm⟩
  · rintro ⟨row, space, found, released, rfl⟩
    simp only [release, found, released]
    rfl

/-- A held span can be given back. -/
theorem Valid.release_of_holds {packing : Packing} (valid : packing.Valid) {index : Nat}
    {span : Span} (held : packing.Holds index span) :
    ∃ next, packing.release index span = (.ok (), next) := by
  obtain ⟨row, found, used⟩ := held
  have row_valid := valid.row_valid row (List.mem_of_getElem? found)
  obtain ⟨space, released, _⟩ := row_valid.release_of_mem used
  exact ⟨_, release_eq_ok_iff.mpr ⟨row, space, found, released, rfl⟩⟩

/-- `next` holds all places of the packing but this one. -/
structure Releases (packing : Packing) (index : Nat) (span : Span) (next : Packing) : Prop where
  held : packing.Holds index span
  valid : next.Valid
  size_eq : next.size = packing.size
  keepsRows : packing.KeepsRows next
  holds_iff : ∀ (other : Nat) (span' : Span),
    next.Holds other span' ↔ packing.Holds other span' ∧ ¬ (other = index ∧ span' = span)

/-- Seen from the other side, one place more was held before. -/
theorem Releases.regained {packing next : Packing} {index : Nat} {span : Span}
    (releases : packing.Releases index span next) (other : Nat) (span' : Span) :
    packing.Holds other span' ↔ next.Holds other span' ∨ other = index ∧ span' = span := by
  rw [releases.holds_iff]
  by_cases released : other = index ∧ span' = span
  · obtain ⟨rfl, rfl⟩ := released
    simp only [releases.held, and_self, or_true]
  · simp only [released, not_false_eq_true, and_true, or_false]

theorem Valid.releases {packing next : Packing} (valid : packing.Valid) {index : Nat} {span : Span}
    (success : packing.release index span = (.ok (), next)) : packing.Releases index span next := by
  obtain ⟨row, space, found, released, rfl⟩ := release_eq_ok_iff.mp success
  have row_valid := valid.row_valid row (List.mem_of_getElem? found)
  obtain ⟨used, total_eq, used_eq, space_valid⟩ := row_valid.release_ok released
  refine ⟨⟨row, found, used⟩, valid.withSpace found space_valid total_eq, rfl,
    keepsRows_withSpace found, ?_⟩
  intro other span'
  rw [holds_withSpace found, used_eq]
  by_cases same : other = index
  · subst same
    rw [if_pos rfl, row_valid.ordered.nodup.mem_erase_iff]
    simp only [Holds, found, Option.some.injEq, exists_eq_left', true_and]
    exact and_comm
  · rw [if_neg same]
    simp only [same, false_and, not_false_eq_true, and_true]

/-- What is not held cannot be given back and leaves the packing as it is: there is no such row, or the row
puts back the space that it had. -/
theorem Valid.release_cases {packing : Packing} (valid : packing.Valid) (index : Nat) (span : Span) :
    (∃ fault, packing.release index span = (.error fault, packing)) ∨
      ∃ next, packing.release index span = (.ok (), next) ∧ packing.Releases index span next := by
  by_cases held : packing.Holds index span
  · obtain ⟨next, released⟩ := valid.release_of_holds held
    exact Or.inr ⟨next, released, valid.releases released⟩
  · left
    cases found : packing.rows[index]? with
    | none => exact ⟨.noSuchRow index, by simp only [release, found]⟩
    | some row =>
      obtain ⟨inside, row_eq⟩ := List.getElem?_eq_some_iff.mp found
      have kept : packing.rows.set index row = packing.rows := row_eq ▸ List.set_getElem_self inside
      have foreign : span ∉ row.space.used := fun used => held ⟨row, found, used⟩
      exact ⟨.notAllocated span, by simp only [release, found, RowSpace.release_of_not_mem foreign, kept]⟩

end Packing
end TextureAtlas
