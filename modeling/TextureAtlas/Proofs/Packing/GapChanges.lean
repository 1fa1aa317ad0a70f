import TextureAtlas.Proofs.InRange
import TextureAtlas.Proofs.Packing.Gaps

/-! # Gaps when a span is added or taken away

Carving a gap is the same as using one span more (`carve_gaps`); joining a span to the gaps and
sweeping them is the same as using it no longer (`rejoin_gaps`). On an axis of coordinates neither meets
a number out of range. -/
set_option autoImplicit false

namespace TextureAtlas

/-! ## The order of the used spans -/

theorem insertByStart_perm (span : Span) (spans : List Span) :
    (RowSpace.insertByStart span spans).Perm (span :: spans) := by
  induction spans with
  | nil => exact .refl _
  | cons first spans ih =>
    simp only [RowSpace.insertByStart]
    split
    · exact (ih.cons first).trans (.swap span first spans)
    · exact .refl _

theorem mem_insertByStart {span other : Span} {spans : List Span} :
    other ∈ RowSpace.insertByStart span spans ↔ other = span ∨ other ∈ spans := by
  rw [(insertByStart_perm span spans).mem_iff, List.mem_cons]

theorem lengthSum_insertByStart (span : Span) (spans : List Span) :
    lengthSum (RowSpace.insertByStart span spans) = span.width + lengthSum spans := by
  induction spans with
  | nil => rfl
  | cons first spans ih =>
    simp only [RowSpace.insertByStart]
    split
    · rw [lengthSum, lengthSum, ih]
      omega
    · rfl

theorem lengthSum_erase {span : Span} {spans : List Span} (member : span ∈ spans) :
    span.width + lengthSum (spans.erase span) = lengthSum spans := by
  induction spans with
  | nil => cases member
  | cons first spans ih =>
    by_cases same : first = span
    · subst same
      rw [List.erase_cons_head, lengthSum]
    · have later := (List.mem_cons.mp member).resolve_left (Ne.symm same)
      rw [List.erase_cons_tail (by simpa using same), lengthSum, lengthSum]
      have := ih later
      omega

/-- The start of a gap may be used. -/
theorem InOrder.insertByStart {start total width : Nat} {spans : List Span} {gap : Span}
    (ordered : InOrder start total spans) (member : gap ∈ gaps start total spans)
    (positive : 0 < width) (fits : width ≤ gap.width) :
    InOrder start total (RowSpace.insertByStart ⟨gap.x, width⟩ spans) := by
  induction spans generalizing start with
  | nil =>
    obtain ⟨less, rfl⟩ := mem_stretch.mp member
    dsimp only at fits
    exact ⟨Nat.le_refl _, positive, by dsimp only [InOrder]; omega⟩
  | cons span spans ih =>
    obtain ⟨after, nonempty, rest⟩ := ordered
    rcases List.mem_append.mp member with member | member
    · obtain ⟨less, rfl⟩ := mem_stretch.mp member
      dsimp only at fits ⊢
      rw [RowSpace.insertByStart, if_neg (Nat.not_lt.mpr after)]
      exact ⟨Nat.le_refl _, positive, by dsimp only; omega, nonempty, rest⟩
    · have beyond := (bounds_of_mem_gaps rest member).1
      have before : span.x < gap.x := by omega
      rw [RowSpace.insertByStart, if_pos before]
      exact ⟨after, nonempty, ih rest member⟩

/-! ## Carving -/

theorem carve_stretch {start stop width : Nat} (less : start < stop) (fits : width ≤ stop - start)
    (small : stop < coordLimit) (others : List Span) :
    RowSpace.carve ⟨start, stop - start⟩ width (stretch start stop ++ others) =
      .ok (stretch (start + width) stop ++ others) := by
  rw [stretch_of_lt less, List.singleton_append, RowSpace.carve, if_pos rfl]
  by_cases whole : stop - start = width
  · rw [if_pos whole, stretch_of_le (by omega), List.nil_append]
  · have rest : stop - start - width = stop - (start + width) := by omega
    rw [if_neg whole, coord_of_lt (by dsimp only; omega), ok_bind, minus_of_le fits, ok_bind, rest,
      stretch_of_lt (by omega), List.singleton_append]
    rfl

theorem carve_later {start stop width : Nat} {gap : Span} {others carved : List Span}
    (later : start < gap.x) (carves : RowSpace.carve gap width others = .ok carved) :
    RowSpace.carve gap width (stretch start stop ++ others) = .ok (stretch start stop ++ carved) := by
  by_cases less : start < stop
  · have differs : (⟨start, stop - start⟩ : Span) ≠ gap := by
      intro same
      rw [← same] at later
      exact Nat.lt_irrefl _ later
    rw [stretch_of_lt less, List.singleton_append, RowSpace.carve, if_neg differs, carves]
    rfl
  · rw [stretch_of_le (Nat.not_lt.mp less)]
    exact carves

/-- The rest of the gap takes its place. -/
theorem carve_append {gap : Span} {width : Nat} {before after : List Span} (absent : gap ∉ before)
    (positive : 0 < gap.width) (fits : width ≤ gap.width) (small : gap.x + gap.width < coordLimit) :
    RowSpace.carve gap width (before ++ gap :: after) =
      .ok (before ++ (stretch (gap.x + width) (gap.x + gap.width) ++ after)) := by
  induction before with
  | nil =>
    have less : gap.x < gap.x + gap.width := by omega
    have whole : gap.x + gap.width - gap.x = gap.width := Nat.add_sub_cancel_left _ _
    have carved := carve_stretch less (whole.symm ▸ fits) small after
    rwa [stretch_of_span positive, whole] at carved
  | cons first before ih =>
    obtain ⟨differs, absent⟩ := not_or.mp (mt List.mem_cons.mpr absent)
    rw [List.cons_append, RowSpace.carve, if_neg (Ne.symm differs), ih absent]
    rfl

/-- What is left of the gaps are the gaps that the new span leaves. -/
theorem carve_gaps {start total width : Nat} {spans : List Span} {gap : Span}
    (ordered : InOrder start total spans) (small : total < coordLimit)
    (member : gap ∈ gaps start total spans) (fits : width ≤ gap.width) :
    RowSpace.carve gap width (gaps start total spans) =
      .ok (gaps start total (RowSpace.insertByStart ⟨gap.x, width⟩ spans)) := by
  induction spans generalizing start with
  | nil =>
    obtain ⟨less, rfl⟩ := mem_stretch.mp member
    have carved := carve_stretch less fits small []
    simp only [List.append_nil] at carved
    simp only [gaps, RowSpace.insertByStart, stretch_of_le (Nat.le_refl start), List.nil_append, carved]
  | cons span spans ih =>
    obtain ⟨after, nonempty, rest⟩ := ordered
    rcases List.mem_append.mp member with member | member
    · obtain ⟨less, rfl⟩ := mem_stretch.mp member
      have := rest.start_le
      rw [gaps, carve_stretch less fits (by omega), RowSpace.insertByStart,
        if_neg (Nat.not_lt.mpr after), gaps, stretch_of_le (Nat.le_refl start), List.nil_append, gaps]
    · have beyond := (bounds_of_mem_gaps rest member).1
      have before : span.x < gap.x := by omega
      rw [gaps, carve_later (by omega) (ih rest member), RowSpace.insertByStart, if_pos before, gaps]

/-! ## Joining -/

theorem stop_between {first start : Nat} (le : first ≤ start) (small : start < coordLimit) :
    (⟨first, start - first⟩ : Span).stop = .ok start := by
  rw [Span.stop_of_lt (by dsimp only; omega)]
  dsimp only
  congr 1
  omega

theorem joinNext_stretch {first start stop : Nat} (before : first < start) (le : start ≤ stop)
    (small : stop < coordLimit) {others : List Span} (beyond : ∀ gap ∈ others, start < gap.x) :
    RowSpace.joinNext ⟨first, start - first⟩ (stretch start stop ++ others) =
      .ok (stretch first stop ++ others) := by
  have ends := stop_between (Nat.le_of_lt before) (Nat.lt_of_le_of_lt le small)
  rw [stretch_of_lt (Nat.lt_of_lt_of_le before le)]
  by_cases less : start < stop
  · have merged : stop - start + (start - first) = stop - first := by omega
    rw [stretch_of_lt less, List.singleton_append, RowSpace.joinNext, ends, ok_bind, if_pos rfl,
      coord_of_lt (by dsimp only; omega), ok_bind, merged]
    rfl
  · have same : stop = start := by omega
    subst same
    rw [stretch_of_le (Nat.le_refl _), List.nil_append]
    cases others with
    | nil => rfl
    | cons next others =>
      have apart : next.x ≠ stop := Nat.ne_of_gt (beyond next List.mem_cons_self)
      rw [RowSpace.joinNext, ends, ok_bind, if_neg apart]
      rfl

/-- A span in front of gaps makes them the gaps from its start on. -/
theorem joinNext_gaps {first start total : Nat} {spans : List Span} (before : first < start)
    (ordered : InOrder start total spans) (small : total < coordLimit) :
    RowSpace.joinNext ⟨first, start - first⟩ (gaps start total spans) =
      .ok (gaps first total spans) := by
  cases spans with
  | nil =>
    have joined := @joinNext_stretch first start total before ordered small [] (by simp)
    simpa only [gaps, List.append_nil] using joined
  | cons span spans =>
    obtain ⟨after, nonempty, rest⟩ := ordered
    have := rest.start_le
    apply joinNext_stretch before after (by omega)
    intro gap member
    have := (bounds_of_mem_gaps rest member).1
    omega

theorem coalesceFrom_apart {previous : Span} {spans : List Span}
    (apart : (previous :: spans).Pairwise fun a b => a.x + a.width < b.x)
    (small : ∀ span ∈ previous :: spans, span.x + span.width < coordLimit) :
    RowSpace.coalesceFrom previous spans = .ok (previous :: spans) := by
  induction spans generalizing previous with
  | nil => rfl
  | cons next spans ih =>
    obtain ⟨first, rest⟩ := List.pairwise_cons.mp apart
    have differs : previous.x + previous.width ≠ next.x :=
      Nat.ne_of_lt (first next List.mem_cons_self)
    have swept := ih rest fun span member => small span (List.mem_cons_of_mem _ member)
    rw [RowSpace.coalesceFrom, Span.stop_of_lt (small previous List.mem_cons_self), ok_bind,
      if_neg differs, swept]
    rfl

/-- Sweeping gaps that are apart changes nothing. -/
theorem coalesce_apart {spans : List Span}
    (apart : spans.Pairwise fun a b => a.x + a.width < b.x)
    (small : ∀ span ∈ spans, span.x + span.width < coordLimit) :
    RowSpace.coalesce spans = .ok spans := by
  cases spans with
  | nil => rfl
  | cons first spans => exact coalesceFrom_apart apart small

theorem coalesce_gaps {start total : Nat} {spans : List Span} (ordered : InOrder start total spans)
    (small : total < coordLimit) :
    RowSpace.coalesce (gaps start total spans) = .ok (gaps start total spans) := by
  apply coalesce_apart (gaps_apart ordered)
  intro gap member
  have := (bounds_of_mem_gaps ordered member).2.2
  omega

/-- Sweeping on from a span that ends where the gaps start makes them the gaps from its start on. -/
theorem coalesceFrom_gaps {first start total : Nat} {spans : List Span} (before : first < start)
    (ordered : InOrder start total spans) (small : total < coordLimit) :
    RowSpace.coalesceFrom ⟨first, start - first⟩ (gaps start total spans) =
      .ok (gaps first total spans) := by
  have le := ordered.start_le
  have ends := stop_between (Nat.le_of_lt before) (Nat.lt_of_le_of_lt le small)
  have swept := coalesce_gaps (ordered.weaken (Nat.le_of_lt before)) small
  have joined := joinNext_gaps before ordered small
  -- Joining in front of the gaps does what the sweep does first; the rest of the sweep finds nothing.
  cases found : gaps start total spans with
  | nil =>
    rw [found] at joined
    exact joined
  | cons next others =>
    rw [found, RowSpace.joinNext, ends, ok_bind] at joined
    rw [RowSpace.coalesceFrom, ends, ok_bind]
    by_cases touches : next.x = start
    · rw [if_pos touches] at joined
      obtain ⟨width, inRange, result⟩ := bind_eq_ok joined
      have merged := Except.ok.inj result
      rw [if_pos touches.symm, Nat.add_comm, inRange, ok_bind]
      rw [← merged] at swept ⊢
      exact swept
    · rw [if_neg touches] at joined
      have kept := Except.ok.inj joined
      rw [← kept, RowSpace.coalesce, RowSpace.coalesceFrom, ends, ok_bind] at swept
      rw [← kept]
      exact swept

/-- A gap that ends before the span starts is passed by. -/
theorem rejoin_later {first span : Span} {others : List Span}
    (before : first.x + first.width < span.x) (small : first.x + first.width < coordLimit) :
    RowSpace.rejoin span (first :: others) =
      (do return first :: (← RowSpace.rejoin span others)) := by
  have starts : first.x < span.x := by omega
  have apart : first.x + first.width ≠ span.x := Nat.ne_of_lt before
  rw [RowSpace.rejoin, if_pos starts]
  cases others with
  | nil =>
    simp only [List.head?_nil, Option.any_none, Bool.false_eq_true, if_false]
    rw [RowSpace.joinPrevious, Span.stop_of_lt small, ok_bind, if_neg apart]
    rfl
  | cons next others =>
    simp only [List.head?_cons, Option.any_some, decide_eq_true_eq]
    by_cases passed : next.x < span.x
    · rw [if_pos passed]
    · rw [if_neg passed, RowSpace.joinPrevious, Span.stop_of_lt small, ok_bind, if_neg apart]
      conv => rhs; rw [RowSpace.rejoin, if_neg passed]

/-- Before gaps that start to its right, a span can only be joined to the next. -/
theorem rejoin_before {span : Span} {others : List Span} (beyond : ∀ gap ∈ others, span.x < gap.x) :
    RowSpace.rejoin span others = RowSpace.joinNext span others := by
  cases others with
  | nil => rfl
  | cons next others =>
    have := beyond next List.mem_cons_self
    rw [RowSpace.rejoin, if_neg (by omega)]

theorem head_not_before {span : Span} {others : List Span} (beyond : ∀ gap ∈ others, span.x < gap.x) :
    others.head?.any (·.x < span.x) = false := by
  cases others with
  | nil => rfl
  | cons next others =>
    have := beyond next List.mem_cons_self
    simp only [List.head?_cons, Option.any_some, decide_eq_false_iff_not]
    omega

theorem coalesceFrom_later {previous : Span} {others : List Span}
    (later : ∀ gap ∈ others, previous.x + previous.width < gap.x)
    (small : previous.x + previous.width < coordLimit) :
    RowSpace.coalesceFrom previous others =
      (do return previous :: (← RowSpace.coalesce others)) := by
  cases others with
  | nil => rfl
  | cons next others =>
    have differs : previous.x + previous.width ≠ next.x :=
      Nat.ne_of_lt (later next List.mem_cons_self)
    rw [RowSpace.coalesceFrom, Span.stop_of_lt small, ok_bind, if_neg differs]
    rfl

theorem rejoin_first_gaps {start total : Nat} {span : Span} {spans : List Span}
    (ordered : InOrder start total (span :: spans)) (small : total < coordLimit) :
    ∃ joined, RowSpace.rejoin span (gaps start total (span :: spans)) = .ok joined ∧
      (∀ gap ∈ joined, start ≤ gap.x) ∧
      RowSpace.coalesce joined = .ok (gaps start total spans) := by
  obtain ⟨after, positive, rest⟩ := ordered
  have fits := rest.start_le
  have beyond : ∀ gap ∈ gaps (span.x + span.width) total spans, span.x < gap.x := by
    intro gap member
    have := (bounds_of_mem_gaps rest member).1
    omega
  rw [gaps]
  by_cases less : start < span.x
  · -- The gap on the left takes the span in, the sweep the gap on the right.
    refine ⟨⟨start, span.x + span.width - start⟩ :: gaps (span.x + span.width) total spans, ?_, ?_, ?_⟩
    · have alone := head_not_before beyond
      have ends := @stop_between start span.x (by omega) (by omega)
      have width : span.x - start + span.width = span.x + span.width - start := by omega
      rw [stretch_of_lt less, List.singleton_append, RowSpace.rejoin, if_pos less, alone,
        if_neg Bool.false_ne_true, RowSpace.joinPrevious, ends, ok_bind, if_pos rfl,
        coord_of_lt (by dsimp only; omega), ok_bind, width]
      rfl
    · intro gap member
      rcases List.mem_cons.mp member with rfl | member
      · exact Nat.le_refl _
      · have := beyond gap member
        omega
    · exact coalesceFrom_gaps (by omega) rest small
  · have same : start = span.x := by omega
    have joined := @joinNext_gaps span.x _ _ _ (by omega) rest small
    rw [Nat.add_sub_cancel_left] at joined
    refine ⟨gaps start total spans, ?_, ?_, ?_⟩
    · rw [stretch_of_le (by omega), List.nil_append, rejoin_before beyond, same]
      exact joined
    · intro gap member
      exact (bounds_of_mem_gaps (rest.weaken (by omega)) member).1
    · exact coalesce_gaps (rest.weaken (by omega)) small

/-- Joined to the gaps and swept, a used span leaves the gaps that the other spans leave. -/
theorem rejoin_gaps {start total : Nat} {spans : List Span} {span : Span}
    (ordered : InOrder start total spans) (small : total < coordLimit) (member : span ∈ spans) :
    ∃ joined, RowSpace.rejoin span (gaps start total spans) = .ok joined ∧
      (∀ gap ∈ joined, start ≤ gap.x) ∧
      RowSpace.coalesce joined = .ok (gaps start total (spans.erase span)) := by
  induction spans generalizing start with
  | nil => cases member
  | cons first spans ih =>
    by_cases same : first = span
    · subst same
      rw [List.erase_cons_head]
      exact rejoin_first_gaps ordered small
    · have member := (List.mem_cons.mp member).resolve_left (Ne.symm same)
      obtain ⟨after, positive, rest⟩ := ordered
      have bounds := rest.bounds member
      obtain ⟨joined, joins, beyond, swept⟩ := ih rest member
      rw [List.erase_cons_tail (by simpa using same), gaps, gaps]
      by_cases less : start < first.x
      · rw [stretch_of_lt less, List.singleton_append,
          rejoin_later (by dsimp only; omega) (by dsimp only; omega), joins]
        refine ⟨⟨start, first.x - start⟩ :: joined, rfl, ?_, ?_⟩
        · intro gap member
          rcases List.mem_cons.mp member with rfl | member
          · exact Nat.le_refl _
          · have := beyond gap member
            omega
        · have later : ∀ gap ∈ joined, start + (first.x - start) < gap.x := by
            intro gap member
            have := beyond gap member
            omega
          rw [RowSpace.coalesce, coalesceFrom_later later (by dsimp only; omega), swept]
          rfl
      · rw [stretch_of_le (Nat.not_lt.mp less), List.nil_append]
        refine ⟨joined, joins, ?_, swept⟩
        intro gap member
        have := beyond gap member
        omega

end TextureAtlas
