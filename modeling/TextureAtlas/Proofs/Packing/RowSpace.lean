import TextureAtlas.Proofs.Packing.GapChanges

/-! # A row's space as a function of its used spans

`RowSpace.Valid`: the used spans are in order, the free ones are the gaps between them, and what is
available is the rest. So a valid space is known by its total and its used spans (`Valid.ext`).
`alloc` and `release` keep it valid, and `after_isPartitioned` says what this means for every run of
requests. -/
set_option autoImplicit false

namespace TextureAtlas.RowSpace

structure Valid (space : RowSpace) : Prop where
  small : space.total < coordLimit
  ordered : InOrder 0 space.total space.used
  free_eq : space.free = gaps 0 space.total space.used
  available_eq : space.available + lengthSum space.used = space.total

theorem valid_ofTotal {total : Nat} (small : total < coordLimit) : (ofTotal total).Valid where
  small := small
  ordered := Nat.zero_le total
  free_eq := rfl
  available_eq := rfl

theorem Valid.ext {space other : RowSpace} (valid : space.Valid) (valid' : other.Valid)
    (total_eq : space.total = other.total) (used_eq : space.used = other.used) : space = other := by
  have free_eq : space.free = other.free := by
    rw [valid.free_eq, valid'.free_eq, total_eq, used_eq]
  have available_eq : space.available = other.available := by
    have sum := valid.available_eq
    have sum' := valid'.available_eq
    rw [used_eq] at sum
    omega
  cases space
  cases other
  simp_all only

/-- A unit is free exactly if it is in the row and not used. -/
theorem Valid.free_iff {space : RowSpace} (valid : space.Valid) (unit : Nat) :
    (∃ gap ∈ space.free, gap.Covers unit) ↔
      unit < space.total ∧ ∀ span ∈ space.used, ¬ span.Covers unit := by
  rw [valid.free_eq, covered_by_gaps_iff valid.ordered]
  exact and_iff_right (Nat.zero_le unit)

/-- The free spans are the maximal gaps between the used ones. -/
theorem Valid.mem_free_iff {space : RowSpace} (valid : space.Valid) {gap : Span} :
    gap ∈ space.free ↔ IsMaximalGap 0 space.total space.used gap := by
  rw [valid.free_eq]
  exact mem_gaps_iff valid.ordered

/-! ## Requests -/

theorem exists_bestFit {width : Nat} {spans : List Span} {gap : Span} (member : gap ∈ spans)
    (fits : width ≤ gap.width) : ∃ best, bestFit width spans = some best := by
  induction spans with
  | nil => cases member
  | cons first spans ih =>
    simp only [bestFit]
    cases later : bestFit width spans with
    | some best =>
      dsimp only
      split <;> exact ⟨_, rfl⟩
    | none =>
      rcases List.mem_cons.mp member with rfl | member
      · exact ⟨_, if_pos fits⟩
      · obtain ⟨best, found⟩ := ih member
        cases later.symm.trans found

/-- The narrowest of the spans that are at least this wide, and of equal ones the first. -/
structure IsBestFit (width : Nat) (spans : List Span) (gap : Span) : Prop where
  member : gap ∈ spans
  fits : width ≤ gap.width
  narrowest : ∀ other ∈ spans, width ≤ other.width → gap.width ≤ other.width
  first : ∀ other ∈ spans, other.width = gap.width → gap.x ≤ other.x

theorem isBestFit_of_bestFit {width : Nat} {spans : List Span} {gap : Span}
    (sorted : spans.Pairwise fun a b => a.x < b.x) (found : bestFit width spans = some gap) :
    IsBestFit width spans gap := by
  induction spans generalizing gap with
  | nil => cases found
  | cons first spans ih =>
    obtain ⟨before, rest_sorted⟩ := List.pairwise_cons.mp sorted
    simp only [bestFit] at found
    cases later : bestFit width spans with
    | none =>
      simp only [later] at found
      split at found <;> cases found
      rename_i fits
      -- No other span is wide enough, so none can be narrower or come first.
      have narrow : ∀ other ∈ spans, other.width < width := by
        intro other member
        apply Nat.not_le.mp
        intro wide
        obtain ⟨best, found⟩ := exists_bestFit member wide
        cases later.symm.trans found
      refine ⟨List.mem_cons_self, fits, List.forall_mem_cons.mpr ⟨fun _ => Nat.le_refl _, ?_⟩,
        List.forall_mem_cons.mpr ⟨fun _ => Nat.le_refl _, ?_⟩⟩
      · intro other member wide
        exact absurd (narrow other member) (Nat.not_lt.mpr wide)
      · intro other member _
        exact Nat.le_of_lt (before other member)
    | some best =>
      have best_fit := ih rest_sorted later
      simp only [later] at found
      split at found <;> cases found
      · rename_i preferred
        refine ⟨List.mem_cons_self, preferred.1,
          List.forall_mem_cons.mpr ⟨fun _ => Nat.le_refl _, ?_⟩,
          List.forall_mem_cons.mpr ⟨fun _ => Nat.le_refl _, ?_⟩⟩
        · intro other member wide
          exact Nat.le_trans preferred.2 (best_fit.narrowest other member wide)
        · intro other member _
          exact Nat.le_of_lt (before other member)
      · rename_i passed
        have best_fits := best_fit.fits
        refine ⟨List.mem_cons_of_mem _ best_fit.member, best_fits,
          List.forall_mem_cons.mpr ⟨?_, best_fit.narrowest⟩,
          List.forall_mem_cons.mpr ⟨?_, best_fit.first⟩⟩ <;> omega

/-- A request that is granted gets the start of the gap that fits it best, and no other unit changes
hands. -/
structure Grants (space : RowSpace) (width : Nat) (span : Span) (next : RowSpace) : Prop where
  positive : 0 < width
  best : ∃ gap, IsBestFit width space.free gap ∧ span = ⟨gap.x, width⟩
  total_eq : next.total = space.total
  used_eq : next.used = insertByStart span space.used
  valid : next.Valid

theorem Grants.from_gap {space next : RowSpace} {width : Nat} {span : Span}
    (grants : space.Grants width span next) :
    ∃ gap ∈ space.free, width ≤ gap.width ∧ span = ⟨gap.x, width⟩ := by
  obtain ⟨gap, best, span_eq⟩ := grants.best
  exact ⟨gap, best.member, best.fits, span_eq⟩

theorem Valid.free_sorted {space : RowSpace} (valid : space.Valid) :
    space.free.Pairwise fun a b => a.x < b.x := by
  rw [valid.free_eq]
  refine (gaps_apart valid.ordered).imp ?_
  intro a b before
  omega

theorem Valid.alloc_cases {space : RowSpace} (valid : space.Valid) (width : Nat) :
    (∃ error, space.alloc width = (.error (.rejected error), space)) ∨
      ∃ span next, space.alloc width = (.ok span, next) ∧ space.Grants width span next := by
  simp only [alloc]
  by_cases empty : width = 0
  · exact Or.inl ⟨_, if_pos empty⟩
  rw [if_neg empty]
  by_cases short : space.available < width
  · exact Or.inl ⟨_, if_pos short⟩
  rw [if_neg short]
  cases found : bestFit width space.free with
  | none => exact Or.inl ⟨_, rfl⟩
  | some gap =>
    have best := isBestFit_of_bestFit valid.free_sorted found
    have inGaps : gap ∈ gaps 0 space.total space.used := valid.free_eq ▸ best.member
    have carved := carve_gaps valid.ordered valid.small inGaps best.fits
    rw [← valid.free_eq] at carved
    have positive : 0 < width := Nat.pos_of_ne_zero empty
    right
    simp only [carved]
    refine ⟨_, _, rfl, positive, ⟨gap, best, rfl⟩, rfl, rfl, ?_⟩
    have sum := valid.available_eq
    exact {
      small := valid.small
      ordered := valid.ordered.insertByStart inGaps positive best.fits
      free_eq := rfl
      available_eq := by
        dsimp only
        rw [lengthSum_insertByStart]
        dsimp only
        omega }

theorem Valid.alloc_ok {space next : RowSpace} (valid : space.Valid) {width : Nat} {span : Span}
    (success : space.alloc width = (.ok span, next)) : space.Grants width span next := by
  rcases valid.alloc_cases width with ⟨error, refused⟩ | ⟨span', next', granted, grants⟩
  · cases refused.symm.trans success
  · cases granted.symm.trans success
    exact grants

/-! ## Releases -/

/-- What is found is one of the spans, in whatever order they are. -/
theorem mem_of_search {x rounds : Nat} {spans : List Span} {span : Span}
    (found : search x rounds spans = some span) : span ∈ spans := by
  induction rounds generalizing spans with
  | zero => cases found
  | succ rounds ih =>
    simp only [search] at found
    cases halved : spans.drop (spans.length / 2) with
    | nil =>
      rw [halved] at found
      cases found
    | cons middle later =>
      have mem_of_half : ∀ other ∈ middle :: later, other ∈ spans := fun other member =>
        List.mem_of_mem_drop (halved ▸ member)
      rw [halved] at found
      dsimp only at found
      split at found
      · cases found
        exact mem_of_half _ List.mem_cons_self
      · split at found
        · exact mem_of_half _ (List.mem_cons_of_mem _ (ih found))
        · exact List.mem_of_mem_take (ih found)

/-- Spans that are in the order of their starts are all found. -/
theorem search_of_mem {rounds : Nat} {spans : List Span} {span : Span}
    (sorted : spans.Pairwise fun a b => a.x < b.x) (enough : spans.length ≤ rounds)
    (member : span ∈ spans) : search span.x rounds spans = some span := by
  induction rounds generalizing spans with
  | zero =>
    cases List.eq_nil_of_length_eq_zero (Nat.le_zero.mp enough)
    cases member
  | succ rounds ih =>
    have positive := List.length_pos_of_mem member
    have halves := List.take_append_drop (spans.length / 2) spans
    have front_length := List.length_take (i := spans.length / 2) (l := spans)
    have back_length := List.length_drop (i := spans.length / 2) (l := spans)
    simp only [search]
    cases halved : spans.drop (spans.length / 2) with
    | nil =>
      rw [halved, List.length_nil] at back_length
      omega
    | cons middle later =>
      rw [halved, List.length_cons] at back_length
      rw [halved] at halves
      rw [← halves] at sorted member
      obtain ⟨front_sorted, back_sorted, front_before⟩ := List.pairwise_append.mp sorted
      obtain ⟨middle_before, later_sorted⟩ := List.pairwise_cons.mp back_sorted
      -- On whichever side of the middle the span is, the comparison of the starts leads there.
      rcases List.mem_append.mp member with in_front | in_back
      · have before := front_before span in_front middle List.mem_cons_self
        simp only [if_neg (Nat.ne_of_gt before), if_neg (Nat.not_lt.mpr (Nat.le_of_lt before))]
        exact ih front_sorted (by omega) in_front
      · rcases List.mem_cons.mp in_back with rfl | in_later
        · exact if_pos rfl
        · have before := middle_before span in_later
          simp only [if_neg (Nat.ne_of_lt before), if_pos before]
          exact ih later_sorted (by omega) in_later

/-- Looking at the start alone is enough: a span is used exactly if the used span that starts there is
this one. -/
theorem Valid.usedAt_eq_some_iff {space : RowSpace} (valid : space.Valid) {span : Span} :
    space.usedAt span.x = some span ↔ span ∈ space.used := by
  constructor
  · exact mem_of_search
  · exact search_of_mem valid.ordered.sorted (Nat.le_refl _)

theorem Valid.release_of_mem {space : RowSpace} (valid : space.Valid) {span : Span}
    (member : span ∈ space.used) :
    ∃ next, space.release span = (.ok (), next) ∧ next.total = space.total ∧
      next.used = space.used.erase span ∧ next.Valid := by
  obtain ⟨joined, joins, _, swept⟩ := rejoin_gaps valid.ordered valid.small member
  have sum := valid.available_eq
  have counted := lengthSum_erase member
  have small := valid.small
  rw [← valid.free_eq] at joins
  refine ⟨⟨space.total, space.available + span.width, gaps 0 space.total (space.used.erase span),
    space.used.erase span⟩, ?_, rfl, rfl, ?_⟩
  · rw [release, if_pos (valid.usedAt_eq_some_iff.mpr member)]
    simp only [coord_of_lt (show space.available + span.width < coordLimit by omega), joins, swept]
  · exact {
      small
      ordered := valid.ordered.erase span
      free_eq := rfl
      available_eq := by
        dsimp only
        omega }

theorem release_of_not_mem {space : RowSpace} {span : Span} (foreign : span ∉ space.used) :
    space.release span = (.error (.notAllocated span), space) :=
  if_neg fun found => foreign (mem_of_search found)

theorem Valid.release_ok {space next : RowSpace} (valid : space.Valid) {span : Span}
    (success : space.release span = (.ok (), next)) :
    span ∈ space.used ∧ next.total = space.total ∧ next.used = space.used.erase span ∧ next.Valid := by
  by_cases member : span ∈ space.used
  · obtain ⟨_, released, total_eq, used_eq, next_valid⟩ := valid.release_of_mem member
    cases released.symm.trans success
    exact ⟨member, total_eq, used_eq, next_valid⟩
  · cases (release_of_not_mem member).symm.trans success

/-! ## Runs of requests -/

inductive Request
  | alloc (width : Nat)
  | release (span : Span)

/-- The space after a request, whatever its outcome. -/
def answer (space : RowSpace) : Request → RowSpace
  | .alloc width => (space.alloc width).2
  | .release span => (space.release span).2

def after (space : RowSpace) (requests : List Request) : RowSpace := requests.foldl answer space

theorem Valid.answer {space : RowSpace} (valid : space.Valid) (request : Request) :
    (space.answer request).Valid ∧ (space.answer request).total = space.total := by
  cases request with
  | alloc width =>
    rcases valid.alloc_cases width with ⟨error, refused⟩ | ⟨span, next, success, grants⟩
    · simp only [RowSpace.answer, refused]
      exact ⟨valid, trivial⟩
    · simp only [RowSpace.answer, success]
      exact ⟨grants.valid, grants.total_eq⟩
  | release span =>
    by_cases member : span ∈ space.used
    · obtain ⟨next, success, total_eq, _, valid'⟩ := valid.release_of_mem member
      simp only [RowSpace.answer, success]
      exact ⟨valid', total_eq⟩
    · simp only [RowSpace.answer, release_of_not_mem member]
      exact ⟨valid, trivial⟩

theorem Valid.after {space : RowSpace} (valid : space.Valid) (requests : List Request) :
    (space.after requests).Valid ∧ (space.after requests).total = space.total := by
  induction requests generalizing space with
  | nil => exact ⟨valid, rfl⟩
  | cons request requests ih =>
    obtain ⟨valid', total_eq⟩ := valid.answer request
    obtain ⟨valid'', total_eq'⟩ := ih valid'
    exact ⟨valid'', total_eq'.trans total_eq⟩

/-- Used and free spans share out the units of the row. The free ones are its maximal gaps, and
`available` counts their units. -/
structure IsPartitioned (space : RowSpace) : Prop where
  used_sorted : space.used.Pairwise fun a b => a.x < b.x
  free_sorted : space.free.Pairwise fun a b => a.x < b.x
  positive : ∀ span ∈ space.used ++ space.free, 0 < span.width
  disjoint : (space.used ++ space.free).Pairwise fun a b =>
    ∀ unit, ¬ (a.Covers unit ∧ b.Covers unit)
  covered : ∀ unit, (∃ span ∈ space.used ++ space.free, span.Covers unit) ↔ unit < space.total
  apart : ∀ a ∈ space.free, ∀ b ∈ space.free, a.x + a.width ≠ b.x
  maximal : ∀ gap, gap ∈ space.free ↔ IsMaximalGap 0 space.total space.used gap
  available_eq_free : space.available = lengthSum space.free
  available_eq_rest : space.available + lengthSum space.used = space.total

theorem Valid.covered {space : RowSpace} (valid : space.Valid) (unit : Nat) :
    (∃ span ∈ space.used ++ space.free, span.Covers unit) ↔ unit < space.total := by
  constructor
  · rintro ⟨span, member, covers⟩
    rcases List.mem_append.mp member with member | member
    · have := (valid.ordered.bounds member).2.2
      exact Nat.lt_of_lt_of_le covers.2 this
    · exact ((valid.free_iff unit).mp ⟨span, member, covers⟩).1
  · intro within
    by_cases used : ∃ span ∈ space.used, span.Covers unit
    · obtain ⟨span, member, covers⟩ := used
      exact ⟨span, List.mem_append_left _ member, covers⟩
    · have free := (valid.free_iff unit).mpr ⟨within, fun span member covers =>
        used ⟨span, member, covers⟩⟩
      obtain ⟨gap, member, covers⟩ := free
      exact ⟨gap, List.mem_append_right _ member, covers⟩

/-- A used span lies between two gaps, whichever comes first. -/
theorem Valid.free_apart {space : RowSpace} (valid : space.Valid) {a b : Span} (inFree : a ∈ space.free)
    (inFree' : b ∈ space.free) : a.x + a.width ≠ b.x := by
  intro touches
  have bounds := bounds_of_mem_gaps valid.ordered (valid.free_eq ▸ inFree')
  have ends := valid.mem_free_iff.mp inFree
  rcases ends.right_end with edge | ⟨span, used, edge⟩
  · omega
  · have positive := (valid.ordered.bounds used).2.1
    have starts : b.Covers b.x := ⟨Nat.le_refl _, by omega⟩
    exact ((valid.free_iff b.x).mp ⟨b, inFree', starts⟩).2 span used ⟨by omega, by omega⟩

theorem Valid.isPartitioned {space : RowSpace} (valid : space.Valid) : space.IsPartitioned := by
  have ordered := valid.ordered
  have sum := valid.available_eq
  have counted := lengthSum_gaps ordered
  have gaps_sorted := gaps_apart ordered
  rw [← valid.free_eq] at counted gaps_sorted
  constructor
  case used_sorted => exact ordered.sorted
  case free_sorted => exact valid.free_sorted
  case positive =>
    intro span member
    rcases List.mem_append.mp member with member | member
    · exact (ordered.bounds member).2.1
    · exact (bounds_of_mem_gaps ordered (valid.free_eq ▸ member)).2.1
  case disjoint =>
    refine List.pairwise_append.mpr ⟨ordered.pairwise.imp ?_, gaps_sorted.imp ?_, ?_⟩
    · intro a b before unit ⟨inA, inB⟩
      simp only [Span.Covers] at inA inB
      omega
    · intro a b before unit ⟨inA, inB⟩
      simp only [Span.Covers] at inA inB
      omega
    · intro span used gap free unit ⟨inSpan, inGap⟩
      exact ((valid.free_iff unit).mp ⟨gap, free, inGap⟩).2 span used inSpan
  case covered => exact valid.covered
  case apart =>
    intro a inFree b inFree'
    exact valid.free_apart inFree inFree'
  case maximal => exact fun gap => valid.mem_free_iff
  case available_eq_free => omega
  case available_eq_rest => exact sum

/-- Whatever is asked of a row, its free spans are the maximal gaps between its used spans, and all of
its state follows from these. -/
theorem after_isPartitioned {total : Nat} (small : total < coordLimit) (requests : List Request) :
    ((ofTotal total).after requests).total = total ∧
      ((ofTotal total).after requests).IsPartitioned ∧
      ∀ others : List Request,
        ((ofTotal total).after others).used = ((ofTotal total).after requests).used →
          (ofTotal total).after others = (ofTotal total).after requests := by
  have start := valid_ofTotal small
  obtain ⟨valid, total_eq⟩ := start.after requests
  refine ⟨total_eq, valid.isPartitioned, ?_⟩
  intro others used_eq
  obtain ⟨valid', total_eq'⟩ := start.after others
  exact valid'.ext valid (total_eq'.trans total_eq.symm) used_eq

/-- Two histories of the longest row that there is. In the first the freed span is taken again in parts
and given back in parts, between a refusal and a fault. -/
theorem after_isPartitioned_longest :
    let space := (ofTotal 4294967295).after [.alloc 5, .alloc 4294967290, .release ⟨0, 5⟩]
    let other := (ofTotal 4294967295).after [.alloc 5, .alloc 4294967290, .alloc 1, .release ⟨0, 5⟩,
      .alloc 2, .alloc 3, .release ⟨2, 4294967295⟩, .release ⟨0, 2⟩, .release ⟨2, 3⟩]
    space.used = [⟨5, 4294967290⟩] ∧ space.IsPartitioned ∧ other = space := by
  have partition := after_isPartitioned (by decide : 4294967295 < coordLimit)
    [.alloc 5, .alloc 4294967290, .release ⟨0, 5⟩]
  exact ⟨by decide, partition.2.1, partition.2.2 _ (by decide)⟩

end TextureAtlas.RowSpace
