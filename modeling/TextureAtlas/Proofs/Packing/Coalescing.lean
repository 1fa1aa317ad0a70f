import Mathlib.Data.List.Chain
import TextureAtlas.Proofs.Packing.GapChanges

/-! # The sweep over any spans in order

A release sweeps gaps of which at most one pair touches. The sweep itself takes any spans that are in order,
with runs that touch of any number and length: what it makes of them are the gaps that their gaps leave
(`coalesce_eq_gaps`). What gaps are known to be is therefore known of the result: the units are the same, and
no two spans touch (`coalesce_merges`). -/
set_option autoImplicit false

namespace TextureAtlas

/-! ## Spans in order -/

/-- Nonempty spans on the axis of coordinates, in the order of their starts, no two with a common unit. -/
structure Arranged (spans : List Span) : Prop where
  positive : ∀ span ∈ spans, 0 < span.width
  small : ∀ span ∈ spans, span.x + span.width < coordLimit
  sorted : spans.Pairwise fun a b => a.x ≤ b.x
  disjoint : spans.Pairwise fun a b => ∀ unit, ¬ (a.Covers unit ∧ b.Covers unit)

/-- Of two nonempty spans without a common unit, the one that does not start later ends first. -/
theorem stop_le_of_disjoint {a b : Span} (positive : 0 < b.width) (le : a.x ≤ b.x)
    (disjoint : ∀ unit, ¬ (a.Covers unit ∧ b.Covers unit)) : a.x + a.width ≤ b.x := by
  have apart := disjoint b.x
  simp only [Span.Covers] at apart
  omega

theorem Arranged.inOrder {spans : List Span} (arranged : Arranged spans) :
    InOrder 0 (coordLimit - 1) spans := by
  apply inOrder_of_pairwise (Nat.zero_le _)
  · intro span member
    have := arranged.small span member
    exact ⟨Nat.zero_le _, arranged.positive span member, by omega⟩
  · have both := arranged.sorted.and arranged.disjoint
    refine both.imp_of_mem ?_
    intro a b _ member sorted_disjoint
    exact stop_le_of_disjoint (arranged.positive b member) sorted_disjoint.1 sorted_disjoint.2

theorem InOrder.arranged {start total : Nat} {spans : List Span} (ordered : InOrder start total spans)
    (small : total < coordLimit) : Arranged spans where
  positive := fun span member => (ordered.bounds member).2.1
  small := fun span member => by
    have := (ordered.bounds member).2.2
    omega
  sorted := ordered.sorted.imp Nat.le_of_lt
  disjoint := ordered.pairwise.imp fun before unit covers => by
    simp only [Span.Covers] at covers
    omega

/-! ## The gaps of the gaps -/

/-- A stretch that is used from the start on leaves no gap. -/
theorem gaps_stretch_append {start stop : Nat} (le : start ≤ stop) (total : Nat) (spans : List Span) :
    gaps start total (stretch start stop ++ spans) = gaps stop total spans := by
  rcases Nat.eq_or_lt_of_le le with same | less
  · subst same
    rw [stretch_of_le (Nat.le_refl start), List.nil_append]
  · rw [stretch_of_lt less, List.singleton_append, gaps, stretch_of_le (Nat.le_refl start),
      List.nil_append, Nat.add_sub_cancel' le]

section Gaps

variable {start total : Nat} {spans : List Span} (ordered : InOrder start total spans)

include ordered

theorem gaps_inOrder : InOrder start total (gaps start total spans) := by
  apply inOrder_of_pairwise ordered.start_le
  · intro gap member
    exact bounds_of_mem_gaps ordered member
  · exact (gaps_apart ordered).imp Nat.le_of_lt

theorem covered_by_gaps_gaps_iff (unit : Nat) :
    (∃ span ∈ gaps start total (gaps start total spans), span.Covers unit) ↔
      ∃ span ∈ spans, span.Covers unit := by
  rw [covered_by_gaps_iff (gaps_inOrder ordered)]
  have in_gap := covered_by_gaps_iff ordered unit
  constructor
  · intro outside
    obtain ⟨from_start, to_total, no_gap⟩ := outside
    apply Classical.byContradiction
    intro uncovered
    have unused : ∀ span ∈ spans, ¬ span.Covers unit :=
      fun span member covers => uncovered ⟨span, member, covers⟩
    obtain ⟨gap, member, covers⟩ := in_gap.mpr ⟨from_start, to_total, unused⟩
    exact no_gap gap member covers
  · intro covered
    obtain ⟨span, member, covers⟩ := covered
    have bounds := ordered.bounds member
    refine ⟨Nat.le_trans bounds.1 covers.1, Nat.lt_of_lt_of_le covers.2 bounds.2.2, ?_⟩
    intro gap gap_member gap_covers
    exact (in_gap.mp ⟨gap, gap_member, gap_covers⟩).2.2 span member covers

theorem lengthSum_gaps_gaps :
    lengthSum (gaps start total (gaps start total spans)) = lengthSum spans := by
  have outer := lengthSum_gaps (gaps_inOrder ordered)
  have inner := lengthSum_gaps ordered
  omega

end Gaps

/-! ## The sweep -/

namespace RowSpace

/-- Whatever `previous` has taken in so far, it goes in front of the other spans as one of them. -/
theorem coalesceFrom_eq_gaps {total : Nat} {previous : Span} {spans : List Span}
    (positive : 0 < previous.width) (ordered : InOrder (previous.x + previous.width) total spans)
    (small : total < coordLimit) :
    coalesceFrom previous spans =
      .ok (gaps previous.x total (gaps (previous.x + previous.width) total spans)) := by
  induction spans generalizing previous with
  | nil =>
    have fits : previous.x + previous.width ≤ total := ordered
    rw [coalesceFrom, gaps]
    rcases Nat.eq_or_lt_of_le fits with reaches | less
    · rw [stretch_of_le (Nat.le_of_eq reaches.symm), gaps, ← reaches, stretch_of_span positive]
    · rw [stretch_of_lt less, gaps, stretch_of_span positive, Nat.add_sub_cancel' fits, gaps,
        stretch_of_le (Nat.le_refl total), List.append_nil]
  | cons next spans ih =>
    obtain ⟨after, next_positive, rest⟩ := ordered
    have fits := rest.start_le
    rw [coalesceFrom, Span.stop_of_lt (by omega), ok_bind, gaps]
    rcases Nat.eq_or_lt_of_le after with touches | apart
    · -- There is no gap between the two, and the next is taken in.
      have stop_eq : previous.x + (previous.width + next.width) = next.x + next.width := by omega
      rw [if_pos touches, coord_of_lt (by omega), ok_bind,
        ih (Nat.lt_of_lt_of_le positive (Nat.le_add_right _ _)) (stop_eq ▸ rest), stop_eq,
        stretch_of_le (Nat.le_of_eq touches.symm), List.nil_append]
    · rw [if_neg (Nat.ne_of_lt apart), ih next_positive rest, stretch_of_lt apart,
        List.singleton_append, gaps, stretch_of_span positive, Nat.add_sub_cancel' after]
      rfl

theorem coalesce_eq_gaps {start total : Nat} {spans : List Span} (ordered : InOrder start total spans)
    (small : total < coordLimit) :
    coalesce spans = .ok (gaps start total (gaps start total spans)) := by
  cases spans with
  | nil =>
    have alone := gaps_stretch_append ordered.start_le total []
    rw [List.append_nil] at alone
    rw [coalesce, gaps, alone, gaps, stretch_of_le (Nat.le_refl total)]
  | cons first spans =>
    obtain ⟨after, positive, rest⟩ := ordered
    rw [coalesce, coalesceFrom_eq_gaps positive rest small, gaps, gaps_stretch_append after]

/-- No span ends where the next one starts. -/
def Untouching (spans : List Span) : Prop :=
  spans.IsChain fun a b => a.x + a.width ≠ b.x

/-- In order, spans that do not touch the next do not touch any. -/
theorem untouching_iff {start total : Nat} {spans : List Span} (ordered : InOrder start total spans) :
    Untouching spans ↔ spans.Pairwise fun a b => a.x + a.width < b.x := by
  constructor
  · intro untouching
    induction spans generalizing start with
    | nil => exact List.Pairwise.nil
    | cons first spans ih =>
      obtain ⟨after, positive, rest⟩ := ordered
      refine List.pairwise_cons.mpr ⟨?_, ih rest untouching.tail⟩
      intro span member
      cases spans with
      | nil => cases member
      | cons next spans =>
        have differs : first.x + first.width ≠ next.x := untouching.rel
        have from_next : InOrder next.x total (next :: spans) := ⟨Nat.le_refl _, rest.2⟩
        have := (from_next.bounds member).1
        have := rest.1
        omega
  · intro apart
    exact (apart.imp Nat.ne_of_lt).isChain

/-- On spans in order the sweep meets no number out of range. It merges what touches and nothing else: the
spans are in order again, they have the same units and so the same width in all, and none touches another. To
sweep once more changes nothing, and to sweep at all changes something only if two neighbours touch. -/
theorem coalesce_merges {spans : List Span} (arranged : Arranged spans) :
    ∃ merged, coalesce spans = .ok merged ∧ Arranged merged ∧
      (∀ unit, (∃ span ∈ merged, span.Covers unit) ↔ ∃ span ∈ spans, span.Covers unit) ∧
      lengthSum merged = lengthSum spans ∧
      (merged.Pairwise fun a b => a.x + a.width ≠ b.x) ∧
      coalesce merged = .ok merged ∧
      (merged = spans ↔ Untouching spans) := by
  have ordered := arranged.inOrder
  have limit : coordLimit - 1 < coordLimit := by decide
  have apart := gaps_apart (gaps_inOrder ordered)
  refine ⟨_, coalesce_eq_gaps ordered limit, (gaps_inOrder (gaps_inOrder ordered)).arranged limit,
    covered_by_gaps_gaps_iff ordered, lengthSum_gaps_gaps ordered, apart.imp Nat.ne_of_lt,
    coalesce_gaps (gaps_inOrder ordered) limit, ?_⟩
  constructor
  · intro unchanged
    rw [unchanged] at apart
    exact (untouching_iff ordered).mpr apart
  · intro untouching
    have kept := coalesce_apart ((untouching_iff ordered).mp untouching) arranged.small
    exact Except.ok.inj ((coalesce_eq_gaps ordered limit).symm.trans kept)

/-- A run of three, a span on its own and a run of two that ends at the last coordinate. -/
def runs : List Span :=
  [⟨0, 2⟩, ⟨2, 3⟩, ⟨5, 1⟩, ⟨9, 1⟩, ⟨4294967290, 3⟩, ⟨4294967293, 2⟩]

theorem coalesce_merges_runs :
    Arranged runs ∧ coalesce runs = .ok [⟨0, 6⟩, ⟨9, 1⟩, ⟨4294967290, 5⟩] ∧
      Arranged [⟨0, 6⟩, ⟨9, 1⟩, ⟨4294967290, 5⟩] ∧ ¬ Untouching runs ∧
      coalesce [⟨0, 6⟩, ⟨9, 1⟩, ⟨4294967290, 5⟩] = .ok [⟨0, 6⟩, ⟨9, 1⟩, ⟨4294967290, 5⟩] ∧
      (∃ span ∈ runs, span.Covers 4294967294) ∧
      ∃ span ∈ [⟨0, 6⟩, ⟨9, 1⟩, ⟨4294967290, 5⟩], Span.Covers span 4294967294 := by
  have ordered : InOrder 0 (coordLimit - 1) runs := by simp [InOrder, runs, coordLimit]
  have arranged := ordered.arranged (by decide)
  have swept : coalesce runs = .ok [⟨0, 6⟩, ⟨9, 1⟩, ⟨4294967290, 5⟩] := by decide
  obtain ⟨merged, success, merged_arranged, covered, _, _, again, unchanged⟩ := coalesce_merges arranged
  cases swept.symm.trans success
  have last : ∃ span ∈ runs, span.Covers 4294967294 :=
    ⟨⟨4294967293, 2⟩, by decide, by decide, by decide⟩
  exact ⟨arranged, swept, merged_arranged, mt unchanged.mpr (by decide), again, last,
    (covered 4294967294).mpr last⟩

end RowSpace
end TextureAtlas
