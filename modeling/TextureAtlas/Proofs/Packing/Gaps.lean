import TextureAtlas.Geometry.Span

/-! # The gaps between spans

`InOrder start total spans`: the spans follow each other between the units `start` and `total`, and
none is empty. `gaps start total spans` is what they leave free, a list computed from them alone, and
`mem_gaps_iff` says which list that is: the spans that touch nothing used and that reach to a used span
or to an end of the axis on both sides. -/
set_option autoImplicit false

namespace TextureAtlas

/-- The unit is one of those in the span. -/
def Span.Covers (span : Span) (unit : Nat) : Prop :=
  span.x ≤ unit ∧ unit < span.x + span.width

def InOrder (start total : Nat) : List Span → Prop
  | [] => start ≤ total
  | span :: spans =>
    start ≤ span.x ∧ 0 < span.width ∧ InOrder (span.x + span.width) total spans

namespace InOrder

theorem start_le {start total : Nat} {spans : List Span} (ordered : InOrder start total spans) :
    start ≤ total := by
  induction spans generalizing start with
  | nil => exact ordered
  | cons span spans ih =>
    obtain ⟨after, positive, rest⟩ := ordered
    have := ih rest
    omega

theorem bounds {start total : Nat} {spans : List Span} (ordered : InOrder start total spans)
    {span : Span} (member : span ∈ spans) :
    start ≤ span.x ∧ 0 < span.width ∧ span.x + span.width ≤ total := by
  induction spans generalizing start with
  | nil => cases member
  | cons first spans ih =>
    obtain ⟨after, positive, rest⟩ := ordered
    rcases List.mem_cons.mp member with rfl | member
    · exact ⟨after, positive, rest.start_le⟩
    · have := ih rest member
      omega

theorem pairwise {start total : Nat} {spans : List Span} (ordered : InOrder start total spans) :
    spans.Pairwise fun a b => a.x + a.width ≤ b.x := by
  induction spans generalizing start with
  | nil => exact List.Pairwise.nil
  | cons first spans ih =>
    obtain ⟨_, _, rest⟩ := ordered
    exact List.pairwise_cons.mpr ⟨fun span member => (rest.bounds member).1, ih rest⟩

theorem sorted {start total : Nat} {spans : List Span} (ordered : InOrder start total spans) :
    spans.Pairwise fun a b => a.x < b.x := by
  refine ordered.pairwise.imp_of_mem ?_
  intro a b member _ before
  have := (ordered.bounds member).2.1
  omega

/-- Of two spans in order, one ends before the other starts. -/
theorem apart {start total : Nat} {spans : List Span} (ordered : InOrder start total spans)
    {a b : Span} (inA : a ∈ spans) (inB : b ∈ spans) (differ : a ≠ b) :
    a.x + a.width ≤ b.x ∨ b.x + b.width ≤ a.x := by
  obtain ⟨i, iLt, rfl⟩ := List.getElem_of_mem inA
  obtain ⟨j, jLt, rfl⟩ := List.getElem_of_mem inB
  have sorted := List.pairwise_iff_getElem.mp ordered.pairwise
  rcases Nat.lt_trichotomy i j with before | same | after
  · exact Or.inl (sorted i j iLt jLt before)
  · subst same
    exact absurd rfl differ
  · exact Or.inr (sorted j i jLt iLt after)

theorem nodup {start total : Nat} {spans : List Span} (ordered : InOrder start total spans) :
    spans.Nodup := by
  have sorted := List.pairwise_iff_getElem.mp ordered.pairwise
  apply List.pairwise_iff_getElem.mpr
  intro i j iLt jLt before same
  have apart := sorted i j iLt jLt before
  have positive := (ordered.bounds (List.getElem_mem iLt)).2.1
  rw [same] at apart positive
  omega

/-- Spans in order stay in order when the first may start earlier. -/
theorem weaken {start later total : Nat} {spans : List Span} (ordered : InOrder later total spans)
    (le : start ≤ later) : InOrder start total spans := by
  cases spans with
  | nil => exact Nat.le_trans le ordered
  | cons span spans => exact ⟨Nat.le_trans le ordered.1, ordered.2⟩

theorem erase {start total : Nat} {spans : List Span} (ordered : InOrder start total spans)
    (span : Span) : InOrder start total (spans.erase span) := by
  induction spans generalizing start with
  | nil => exact ordered
  | cons first spans ih =>
    obtain ⟨after, positive, rest⟩ := ordered
    by_cases same : first = span
    · subst same
      rw [List.erase_cons_head]
      exact rest.weaken (by omega)
    · rw [List.erase_cons_tail (by simpa using same)]
      exact ⟨after, positive, ih rest⟩

end InOrder

theorem inOrder_of_pairwise {start total : Nat} {spans : List Span} (le : start ≤ total)
    (within : ∀ span ∈ spans, start ≤ span.x ∧ 0 < span.width ∧ span.x + span.width ≤ total)
    (apart : spans.Pairwise fun a b => a.x + a.width ≤ b.x) : InOrder start total spans := by
  induction spans generalizing start with
  | nil => exact le
  | cons first spans ih =>
    obtain ⟨⟨after, positive, fits⟩, rest_within⟩ := List.forall_mem_cons.mp within
    obtain ⟨before, rest_apart⟩ := List.pairwise_cons.mp apart
    refine ⟨after, positive, ih fits ?_ rest_apart⟩
    intro span member
    exact ⟨before span member, (rest_within span member).2⟩

/-- The units from `start` up to `stop`, if there are any. -/
def stretch (start stop : Nat) : List Span :=
  if start < stop then [⟨start, stop - start⟩] else []

/-- What the spans leave free between `start` and `total`. -/
def gaps (start total : Nat) : List Span → List Span
  | [] => stretch start total
  | span :: spans => stretch start span.x ++ gaps (span.x + span.width) total spans

theorem stretch_of_lt {start stop : Nat} (less : start < stop) :
    stretch start stop = [⟨start, stop - start⟩] := if_pos less

theorem stretch_of_le {start stop : Nat} (le : stop ≤ start) : stretch start stop = [] :=
  if_neg (Nat.not_lt.mpr le)

theorem stretch_of_span {span : Span} (positive : 0 < span.width) :
    stretch span.x (span.x + span.width) = [span] := by
  rw [stretch_of_lt (by omega), Nat.add_sub_cancel_left]

theorem mem_stretch {start stop : Nat} {gap : Span} :
    gap ∈ stretch start stop ↔ start < stop ∧ gap = ⟨start, stop - start⟩ := by
  by_cases less : start < stop
  · simp [stretch_of_lt less, less]
  · simp [stretch_of_le (Nat.not_lt.mp less), less]

theorem bounds_of_mem_gaps {start total : Nat} {spans : List Span}
    (ordered : InOrder start total spans) {gap : Span} (member : gap ∈ gaps start total spans) :
    start ≤ gap.x ∧ 0 < gap.width ∧ gap.x + gap.width ≤ total := by
  induction spans generalizing start with
  | nil =>
    obtain ⟨less, rfl⟩ := mem_stretch.mp member
    dsimp only
    omega
  | cons span spans ih =>
    obtain ⟨after, positive, rest⟩ := ordered
    have fits := rest.start_le
    rcases List.mem_append.mp member with member | member
    · obtain ⟨less, rfl⟩ := mem_stretch.mp member
      dsimp only
      omega
    · have := ih rest member
      omega

/-- Between two gaps there is a used span. -/
theorem gaps_apart {start total : Nat} {spans : List Span} (ordered : InOrder start total spans) :
    (gaps start total spans).Pairwise fun a b => a.x + a.width < b.x := by
  induction spans generalizing start with
  | nil =>
    by_cases less : start < total
    · simp [gaps, stretch_of_lt less]
    · simp [gaps, stretch_of_le (Nat.not_lt.mp less)]
  | cons span spans ih =>
    obtain ⟨after, positive, rest⟩ := ordered
    have beyond : ∀ gap ∈ gaps (span.x + span.width) total spans, span.x + span.width ≤ gap.x :=
      fun gap member => (bounds_of_mem_gaps rest member).1
    by_cases less : start < span.x
    · simp only [gaps, stretch_of_lt less, List.singleton_append]
      refine List.pairwise_cons.mpr ⟨?_, ih rest⟩
      intro gap member
      have := beyond gap member
      dsimp only
      omega
    · simpa only [gaps, stretch_of_le (Nat.not_lt.mp less), List.nil_append] using ih rest

def lengthSum : List Span → Nat
  | [] => 0
  | span :: spans => span.width + lengthSum spans

theorem lengthSum_stretch (start stop : Nat) : lengthSum (stretch start stop) = stop - start := by
  by_cases less : start < stop
  · simp only [stretch_of_lt less, lengthSum, Nat.add_zero]
  · simp only [stretch_of_le (Nat.not_lt.mp less), lengthSum]
    omega

theorem lengthSum_append (spans others : List Span) :
    lengthSum (spans ++ others) = lengthSum spans + lengthSum others := by
  induction spans with
  | nil => exact (Nat.zero_add _).symm
  | cons span spans ih => rw [List.cons_append, lengthSum, lengthSum, ih, Nat.add_assoc]

/-- Every unit is counted once, as free or as used. -/
theorem lengthSum_gaps {start total : Nat} {spans : List Span}
    (ordered : InOrder start total spans) :
    start + lengthSum (gaps start total spans) + lengthSum spans = total := by
  induction spans generalizing start with
  | nil =>
    have fits : start ≤ total := ordered
    simp only [gaps, lengthSum_stretch, lengthSum]
    omega
  | cons span spans ih =>
    obtain ⟨after, positive, rest⟩ := ordered
    have counted := ih rest
    simp only [gaps, lengthSum_append, lengthSum_stretch, lengthSum]
    omega

/-- A unit is in a gap exactly if it is on the axis and no span uses it. -/
theorem covered_by_gaps_iff {start total : Nat} {spans : List Span}
    (ordered : InOrder start total spans) (unit : Nat) :
    (∃ gap ∈ gaps start total spans, gap.Covers unit) ↔
      start ≤ unit ∧ unit < total ∧ ∀ span ∈ spans, ¬ span.Covers unit := by
  induction spans generalizing start with
  | nil =>
    simp only [gaps, mem_stretch, Span.Covers]
    constructor
    · rintro ⟨_, ⟨less, rfl⟩, from_, until_⟩
      dsimp only at from_ until_
      exact ⟨from_, by omega, by simp⟩
    · rintro ⟨from_, until_, _⟩
      exact ⟨_, ⟨by omega, rfl⟩, by dsimp only; omega⟩
  | cons span spans ih =>
    obtain ⟨after, positive, rest⟩ := ordered
    have fits := rest.start_le
    have later := ih rest
    simp only [gaps, List.mem_append, or_and_right, exists_or, List.forall_mem_cons, later, mem_stretch]
    constructor
    · rintro (⟨_, ⟨less, rfl⟩, from_, until_⟩ | ⟨from_, until_, unused⟩)
      · dsimp only at from_ until_
        refine ⟨from_, by omega, by simp only [Span.Covers]; omega, ?_⟩
        intro other member
        have := (rest.bounds member).1
        simp only [Span.Covers]
        omega
      · exact ⟨by omega, until_, by simp only [Span.Covers]; omega, unused⟩
    · rintro ⟨from_, until_, notHere, unused⟩
      simp only [Span.Covers] at notHere
      by_cases before : unit < span.x
      · exact Or.inl ⟨_, ⟨by omega, rfl⟩, by simp only [Span.Covers]; omega⟩
      · exact Or.inr ⟨by omega, until_, unused⟩

/-- No unit of the gap is used, and on both sides it reaches a used span or the end of the axis. -/
structure IsMaximalGap (start total : Nat) (spans : List Span) (gap : Span) : Prop where
  positive : 0 < gap.width
  from_start : start ≤ gap.x
  to_total : gap.x + gap.width ≤ total
  unused : ∀ unit, gap.Covers unit → ∀ span ∈ spans, ¬ span.Covers unit
  left_end : gap.x = start ∨ ∃ span ∈ spans, span.x + span.width = gap.x
  right_end : gap.x + gap.width = total ∨ ∃ span ∈ spans, span.x = gap.x + gap.width

theorem isMaximalGap_of_mem_gaps {start total : Nat} {spans : List Span}
    (ordered : InOrder start total spans) {gap : Span} (member : gap ∈ gaps start total spans) :
    IsMaximalGap start total spans gap := by
  obtain ⟨from_start, positive, to_total⟩ := bounds_of_mem_gaps ordered member
  refine ⟨positive, from_start, to_total, ?_, ?_, ?_⟩
  · intro unit covers
    exact ((covered_by_gaps_iff ordered unit).mp ⟨gap, member, covers⟩).2.2
  · induction spans generalizing start with
    | nil =>
      obtain ⟨_, rfl⟩ := mem_stretch.mp member
      exact Or.inl rfl
    | cons span spans ih =>
      rcases List.mem_append.mp member with member | member
      · obtain ⟨_, rfl⟩ := mem_stretch.mp member
        exact Or.inl rfl
      · rcases ih ordered.2.2 member (bounds_of_mem_gaps ordered.2.2 member).1 with touches | touches
        · exact Or.inr ⟨span, List.mem_cons_self, touches.symm⟩
        · obtain ⟨other, used, touches⟩ := touches
          exact Or.inr ⟨other, List.mem_cons_of_mem _ used, touches⟩
  · induction spans generalizing start with
    | nil =>
      obtain ⟨less, rfl⟩ := mem_stretch.mp member
      left
      dsimp only
      omega
    | cons span spans ih =>
      rcases List.mem_append.mp member with member | member
      · obtain ⟨less, rfl⟩ := mem_stretch.mp member
        exact Or.inr ⟨span, List.mem_cons_self, by dsimp only; omega⟩
      · rcases ih ordered.2.2 member (bounds_of_mem_gaps ordered.2.2 member).1 with touches | touches
        · exact Or.inl touches
        · obtain ⟨other, used, touches⟩ := touches
          exact Or.inr ⟨other, List.mem_cons_of_mem _ used, touches⟩

/-- Of two maximal gaps with a unit in common, neither starts or ends before the other. -/
theorem IsMaximalGap.edges_le {start total : Nat} {spans : List Span}
    (ordered : InOrder start total spans) {gap other : Span} {unit : Nat}
    (maximal : IsMaximalGap start total spans gap) (maximal' : IsMaximalGap start total spans other)
    (covers : gap.Covers unit) (covers' : other.Covers unit) :
    gap.x ≤ other.x ∧ other.x + other.width ≤ gap.x + gap.width := by
  obtain ⟨from_, until_⟩ := covers
  obtain ⟨from_', until_'⟩ := covers'
  constructor
  · rcases maximal.left_end with edge | ⟨span, used, edge⟩
    · have := maximal'.from_start
      omega
    · apply Nat.not_lt.mp
      intro later
      -- The last unit of the span at the left edge of `gap` would be in `other`.
      have positive := (ordered.bounds used).2.1
      apply maximal'.unused (gap.x - 1) ⟨by omega, by omega⟩ span used
      exact ⟨by omega, by omega⟩
  · rcases maximal.right_end with edge | ⟨span, used, edge⟩
    · have := maximal'.to_total
      omega
    · apply Nat.not_lt.mp
      intro later
      have positive := (ordered.bounds used).2.1
      apply maximal'.unused (gap.x + gap.width) ⟨by omega, by omega⟩ span used
      exact ⟨by omega, by omega⟩

theorem mem_gaps_iff {start total : Nat} {spans : List Span} (ordered : InOrder start total spans)
    {gap : Span} : gap ∈ gaps start total spans ↔ IsMaximalGap start total spans gap := by
  constructor
  · exact isMaximalGap_of_mem_gaps ordered
  · intro maximal
    have positive := maximal.positive
    have covers : gap.Covers gap.x := ⟨Nat.le_refl _, by omega⟩
    have within : gap.x < total := by have := maximal.to_total; omega
    obtain ⟨found, member, covers'⟩ := (covered_by_gaps_iff ordered gap.x).mpr
      ⟨maximal.from_start, within, maximal.unused gap.x covers⟩
    have maximal' := isMaximalGap_of_mem_gaps ordered member
    have outer := maximal.edges_le ordered maximal' covers covers'
    have inner := maximal'.edges_le ordered maximal covers' covers
    have same : gap = found := by
      cases gap
      cases found
      simp only [Span.mk.injEq]
      dsimp only at outer inner
      omega
    exact same ▸ member

end TextureAtlas
