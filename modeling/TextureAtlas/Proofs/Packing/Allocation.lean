import TextureAtlas.Proofs.Packing.Room

/-! # What an allocation takes and a release gives back

An allocation takes the start of the narrowest maximal gap that is wide enough, and nothing else changes
(`alloc_bestFits`). The shortcut that asks for the available units first never decides. To release what
was allocated is to undo it, at once or after other requests, whichever free spans it is joined to
(`release_undoes_alloc`). -/
set_option autoImplicit false

namespace TextureAtlas.RowSpace

variable {space next : RowSpace} {width : Nat} {span : Span}

/-! ## Allocations -/

theorem Valid.hasGap_iff (valid : space.Valid) :
    space.HasGap width ↔ ∃ gap, IsMaximalGap 0 space.total space.used gap ∧ width ≤ gap.width := by
  simp only [HasGap, valid.mem_free_iff]

theorem Valid.alloc_of_not_hasGap (valid : space.Valid) (positive : 0 < width)
    (noGap : ¬ space.HasGap width) : space.alloc width = (.error (.rejected .outOfSpace), space) := by
  rw [alloc, if_neg (Nat.ne_of_gt positive)]
  -- The shortcut on what is available gives the answer that the search would give.
  by_cases short : space.available < width
  · exact if_pos short
  rw [if_neg short]
  cases found : bestFit width space.free with
  | none => rfl
  | some gap =>
    have best := isBestFit_of_bestFit valid.free_sorted found
    exact absurd ⟨gap, best.member, best.fits⟩ noGap

/-- A request that fails leaves the space as it is. -/
theorem Valid.alloc_error (valid : space.Valid) {failure : Failure}
    (refused : (space.alloc width).1 = .error failure) : (space.alloc width).2 = space := by
  rcases valid.alloc_cases width with ⟨error, result⟩ | ⟨span, next, result, _⟩
  · rw [result]
  · rw [result] at refused
    cases refused

/-- The two ways to fail. Neither is a fault. -/
theorem Valid.alloc_eq_error_iff (valid : space.Valid) {failure : Failure} :
    (space.alloc width).1 = .error failure ↔
      width = 0 ∧ failure = .rejected (.invalidArgument .emptySpan) ∨
      0 < width ∧ ¬ space.HasGap width ∧ failure = .rejected .outOfSpace := by
  rcases Nat.eq_zero_or_pos width with rfl | positive
  · have refused : (space.alloc 0).1 = .error (.rejected (.invalidArgument .emptySpan)) := rfl
    rw [refused]
    simp [eq_comm]
  · have not_zero := Nat.ne_of_gt positive
    by_cases hasGap : space.HasGap width
    · obtain ⟨span, next, success, _⟩ := valid.alloc_of_hasGap positive hasGap
      simp [success, not_zero, hasGap]
    · rw [valid.alloc_of_not_hasGap positive hasGap]
      simp [not_zero, positive, hasGap, eq_comm]

/-- The first `width` units of the gap change hands, and no others. The gap is the narrowest that has as
many, and of equally narrow ones the first. -/
structure BestFits (space : RowSpace) (width : Nat) (gap span : Span) (next : RowSpace) : Prop where
  maximal : IsMaximalGap 0 space.total space.used gap
  fits : width ≤ gap.width
  narrowest : ∀ other, IsMaximalGap 0 space.total space.used other → width ≤ other.width →
    gap.width ≤ other.width
  first : ∀ other, IsMaximalGap 0 space.total space.used other → other.width = gap.width →
    gap.x ≤ other.x
  span_eq : span = ⟨gap.x, width⟩
  total_eq : next.total = space.total
  available_eq : next.available + width = space.available
  used_perm : next.used.Perm (span :: space.used)
  used_sorted : next.used.Pairwise fun a b => a.x < b.x
  free_eq : ∃ before after, space.free = before ++ gap :: after ∧
    next.free = before ++ (stretch (gap.x + width) (gap.x + gap.width) ++ after)

/-- In the list of the free spans the rest of the gap takes its place. -/
theorem Grants.free_eq (grants : space.Grants width span next) (valid : space.Valid) {gap : Span}
    (member : gap ∈ space.free) (fits : width ≤ gap.width) (span_eq : span = ⟨gap.x, width⟩) :
    ∃ before after, space.free = before ++ gap :: after ∧
      next.free = before ++ (stretch (gap.x + width) (gap.x + gap.width) ++ after) := by
  obtain ⟨before, after, parts⟩ := List.append_of_mem member
  have absent : gap ∉ before := by
    intro earlier
    have sorted := valid.free_sorted
    rw [parts] at sorted
    have less := (List.pairwise_append.mp sorted).2.2 gap earlier gap List.mem_cons_self
    exact Nat.lt_irrefl _ less
  have inGaps : gap ∈ gaps 0 space.total space.used := valid.free_eq ▸ member
  have bounds := bounds_of_mem_gaps valid.ordered inGaps
  have carved := @carve_append gap width before after absent bounds.2.1 fits
    (Nat.lt_of_le_of_lt bounds.2.2 valid.small)
  have left := carve_gaps valid.ordered valid.small inGaps fits
  rw [← valid.free_eq, parts, carved] at left
  refine ⟨before, after, parts, ?_⟩
  rw [grants.valid.free_eq, grants.total_eq, grants.used_eq, span_eq]
  exact (Except.ok.inj left).symm

theorem Grants.bestFits (grants : space.Grants width span next) (valid : space.Valid) :
    ∃ gap, space.BestFits width gap span next := by
  obtain ⟨gap, best, span_eq⟩ := grants.best
  refine ⟨gap, ?_⟩
  constructor
  case maximal => exact valid.mem_free_iff.mp best.member
  case fits => exact best.fits
  case narrowest => exact fun other maximal => best.narrowest other (valid.mem_free_iff.mpr maximal)
  case first => exact fun other maximal => best.first other (valid.mem_free_iff.mpr maximal)
  case span_eq => exact span_eq
  case total_eq => exact grants.total_eq
  case available_eq =>
    have sum := valid.available_eq
    have sum' := grants.valid.available_eq
    have total_eq := grants.total_eq
    rw [grants.used_eq, lengthSum_insertByStart, span_eq] at sum'
    dsimp only at sum'
    omega
  case used_perm =>
    rw [grants.used_eq]
    exact insertByStart_perm span space.used
  case used_sorted => exact grants.valid.ordered.sorted
  case free_eq => exact grants.free_eq valid best.member best.fits span_eq

/-- Whatever was asked of a row before, an allocation succeeds exactly if `hasSpace` says so, which is if
some maximal gap is wide enough, and then it takes the gap that fits best. Otherwise nothing changes, and
the answer tells an empty span from a lack of space. -/
theorem alloc_bestFits {total : Nat} (small : total < coordLimit) (requests : List Request)
    (width : Nat) :
    let space := (ofTotal total).after requests
    (space.hasSpace width = true ↔
      0 < width ∧ ∃ gap, IsMaximalGap 0 total space.used gap ∧ width ≤ gap.width) ∧
    ((∃ span next, space.alloc width = (.ok span, next)) ↔ space.hasSpace width = true) ∧
    (∀ failure, (space.alloc width).1 = .error failure ↔
      width = 0 ∧ failure = .rejected (.invalidArgument .emptySpan) ∨
      0 < width ∧ space.hasSpace width = false ∧ failure = .rejected .outOfSpace) ∧
    (∀ failure, (space.alloc width).1 = .error failure → space.answer (.alloc width) = space) ∧
    ∀ span next, space.alloc width = (.ok span, next) →
      space.answer (.alloc width) = next ∧ ∃ gap, space.BestFits width gap span next := by
  intro space
  obtain ⟨valid, total_eq⟩ : space.Valid ∧ space.total = total :=
    (valid_ofTotal small).after requests
  have hasSpace_iff := @Valid.hasSpace_iff space valid width
  refine ⟨?_, ?_, ?_, ?_, ?_⟩
  · rw [hasSpace_iff, valid.hasGap_iff, total_eq]
  · rw [hasSpace_iff]
    constructor
    · rintro ⟨span, next, success⟩
      have grants := valid.alloc_ok success
      exact ⟨grants.positive, grants.hasGap⟩
    · rintro ⟨positive, hasGap⟩
      obtain ⟨span, next, success, _⟩ := valid.alloc_of_hasGap positive hasGap
      exact ⟨span, next, success⟩
  · intro failure
    rw [valid.alloc_eq_error_iff, ← Bool.not_eq_true, hasSpace_iff, not_and]
    refine or_congr_right (and_congr_right fun positive => and_congr_left' ?_)
    simp only [positive, true_imp_iff]
  · exact fun failure refused => valid.alloc_error refused
  · intro span next success
    exact ⟨by simp only [answer, success], (valid.alloc_ok success).bestFits valid⟩

/-- A row with gaps of the widths 4, 5 and 4. -/
def scattered : List Request :=
  [.alloc 4, .alloc 2, .alloc 5, .alloc 2, .alloc 4, .alloc 3,
    .release ⟨0, 4⟩, .release ⟨6, 5⟩, .release ⟨13, 4⟩]

/-- The first of equal gaps is cut, a gap that fits exactly goes away, and thirteen units in three gaps
are no room for a span of six. -/
theorem alloc_bestFits_scattered :
    let space := (ofTotal 20).after scattered
    20 < coordLimit ∧ space.free = [⟨0, 4⟩, ⟨6, 5⟩, ⟨13, 4⟩] ∧ space.available = 13 ∧
      (∃ gap, space.BestFits 3 gap ⟨0, 3⟩ (space.answer (.alloc 3))) ∧
      (∃ gap, space.BestFits 5 gap ⟨6, 5⟩ (space.answer (.alloc 5))) ∧
      (space.answer (.alloc 5)).free = [⟨0, 4⟩, ⟨13, 4⟩] ∧
      (space.alloc 6).1 = .error (.rejected .outOfSpace) ∧ space.answer (.alloc 6) = space ∧
      ∃ gap, IsMaximalGap 0 20 space.used gap ∧ 5 ≤ gap.width := by
  have small : 20 < coordLimit := by decide
  obtain ⟨_, _, _, _, third⟩ := alloc_bestFits small scattered 3
  obtain ⟨room, _, _, _, exact_fit⟩ := alloc_bestFits small scattered 5
  obtain ⟨_, _, failures, unchanged, _⟩ := alloc_bestFits small scattered 6
  have refused := (failures _).mpr (Or.inr ⟨by decide, by decide, rfl⟩)
  obtain ⟨next_eq, third_fits⟩ := third ⟨0, 3⟩ _ (by rfl)
  obtain ⟨next_eq', fifth_fits⟩ := exact_fit ⟨6, 5⟩ _ (by rfl)
  exact ⟨small, by decide, by decide, next_eq ▸ third_fits, next_eq' ▸ fifth_fits, by decide, refused,
    unchanged _ refused, (room.mp (by decide)).2⟩

/-! ## Releases that undo them -/

/-- Without the span the row is as it was before, if no other used span has changed. -/
theorem Valid.release_eq {before : RowSpace} (valid : space.Valid) (valid' : before.Valid)
    (total_eq : space.total = before.total) (perm : space.used.Perm (span :: before.used)) :
    space.release span = (.ok (), before) := by
  have member : span ∈ space.used := perm.mem_iff.mpr List.mem_cons_self
  obtain ⟨next, released, next_total, next_used, next_valid⟩ := valid.release_of_mem member
  have same_members : next.used.Perm before.used := by
    rw [next_used]
    exact (List.cons_perm_iff_perm_erase.mp perm.symm).2.symm
  -- Both lists are in the order of their starts, and there is only one such order.
  have never : ∀ a b : Span, a ∈ next.used → b ∈ before.used → a.x < b.x → b.x < a.x → a = b :=
    fun a b _ _ less more => absurd less (Nat.lt_asymm more)
  have used_eq : next.used = before.used :=
    same_members.eq_of_pairwise never next_valid.ordered.sorted valid'.ordered.sorted
  rw [released, next_valid.ext valid' (next_total.trans total_eq) used_eq]

/-- Releases the spans one after the other, up to the first fault. -/
def releaseAll (space : RowSpace) : List Span → Except Fault Unit × RowSpace
  | [] => (.ok (), space)
  | span :: order =>
    match space.release span with
    | (.error fault, next) => (.error fault, next)
    | (.ok (), next) => next.releaseAll order

/-- Without its used spans a row is all free. -/
theorem Valid.releaseAll_used (valid : space.Valid) {order : List Span}
    (perm : order.Perm space.used) : space.releaseAll order = (.ok (), ofTotal space.total) := by
  induction order generalizing space with
  | nil =>
    have used_eq : space.used = [] := perm.symm.eq_nil
    rw [← valid.ext (valid_ofTotal valid.small) rfl used_eq]
    rfl
  | cons span order ih =>
    obtain ⟨member, rest⟩ := List.cons_perm_iff_perm_erase.mp perm
    obtain ⟨next, released, next_total, next_used, next_valid⟩ := valid.release_of_mem member
    simp only [releaseAll, released]
    rw [ih next_valid (next_used ▸ rest), next_total]

/-- Whatever was asked of a row before, a release undoes an allocation: all of the row is as it was, now or
after requests that leave the same spans used. Releasing all used spans, in any order, empties it. -/
theorem release_undoes_alloc {total : Nat} (small : total < coordLimit) (requests : List Request) :
    let space := (ofTotal total).after requests
    (∀ width span next, space.alloc width = (.ok span, next) →
      next.release span = (.ok (), space) ∧
      ∀ others : List Request, (next.after others).used.Perm (span :: space.used) →
        (next.after others).release span = (.ok (), space)) ∧
    ∀ order : List Span, order.Perm space.used →
      space.releaseAll order = (.ok (), ofTotal total) := by
  intro space
  obtain ⟨valid, total_eq⟩ : space.Valid ∧ space.total = total :=
    (valid_ofTotal small).after requests
  constructor
  · intro width span next success
    have grants := valid.alloc_ok success
    have undone : ∀ others : List Request, (next.after others).used.Perm (span :: space.used) →
        (next.after others).release span = (.ok (), space) := by
      intro others perm
      obtain ⟨later_valid, later_total⟩ := grants.valid.after others
      exact later_valid.release_eq valid (later_total.trans grants.total_eq) perm
    refine ⟨undone [] ?_, undone⟩
    rw [after, List.foldl_nil, grants.used_eq]
    exact insertByStart_perm span space.used
  · intro order perm
    rw [valid.releaseAll_used perm, total_eq]

/-- Between the two a neighbour is released, and is allocated again after other spans. A request is refused
on the way, and a release is a fault. -/
theorem release_undoes_alloc_rearranged :
    let space := (ofTotal 10).after [.alloc 4, .alloc 3, .release ⟨0, 4⟩]
    let next := space.answer (.alloc 2)
    let later := next.after
      [.release ⟨4, 3⟩, .alloc 9, .alloc 4, .alloc 3, .release ⟨5, 1⟩, .release ⟨0, 4⟩]
    10 < coordLimit ∧ space.alloc 2 = (.ok ⟨7, 2⟩, next) ∧
      next.release ⟨7, 2⟩ = (.ok (), space) ∧
      later.used.Perm (⟨7, 2⟩ :: space.used) ∧ later.release ⟨7, 2⟩ = (.ok (), space) ∧
      [⟨7, 2⟩, ⟨4, 3⟩].Perm next.used ∧
      next.releaseAll [⟨7, 2⟩, ⟨4, 3⟩] = (.ok (), ofTotal 10) := by
  have small : 10 < coordLimit := by decide
  obtain ⟨undo, _⟩ := release_undoes_alloc small [.alloc 4, .alloc 3, .release ⟨0, 4⟩]
  obtain ⟨_, empties⟩ := release_undoes_alloc small [.alloc 4, .alloc 3, .release ⟨0, 4⟩, .alloc 2]
  obtain ⟨at_once, later⟩ := undo 2 ⟨7, 2⟩ _ (by rfl)
  exact ⟨small, by rfl, at_once, by decide, later _ (by decide), by decide, empties _ (by decide)⟩

end TextureAtlas.RowSpace
