import TextureAtlas.Page.Paint
import TextureAtlas.Proofs.InRange

/-! # Pictures on a canvas

A canvas is a buffer of lines of `stride` texels. `Depicts stride picture region before after`: on the
region, `after` shows the picture; elsewhere it shows what `before` did. Writing a run of the picture
enlarges the region by that run (`Depicts.write`), and so does copying one from another place where the
picture looks the same (`Depicts.copy`). A loop is followed by an invariant of the lines painted so far
(`forM_range`). -/
set_option autoImplicit false

namespace TextureAtlas

/-! ## Runs of texels -/

theorem getElem?_writeTexels {buffer : Array UInt32} {start : Nat} {run : List UInt32}
    (fits : start + run.length ≤ buffer.size) (index : Nat) :
    (writeTexels buffer start run)[index]? =
      if start ≤ index ∧ index < start + run.length then run[index - start]? else buffer[index]? := by
  induction run generalizing buffer start with
  | nil =>
    have outside : ¬ (start ≤ index ∧ index < start + 0) := by omega
    rw [writeTexels, List.length_nil, if_neg outside]
  | cons texel run ih =>
    have inBuffer : start < buffer.size := by
      simp only [List.length_cons] at fits
      omega
    have rest : start + 1 + run.length ≤ (buffer.setIfInBounds start texel).size := by
      simp only [List.length_cons, Array.size_setIfInBounds] at fits ⊢
      omega
    rw [writeTexels, ih rest, Array.getElem?_setIfInBounds]
    by_cases here : start = index
    · subst here
      have before : ¬ (start + 1 ≤ start ∧ start < start + 1 + run.length) := by omega
      have first : start ≤ start ∧ start < start + (run.length + 1) := by omega
      rw [if_neg before, if_pos rfl, if_pos inBuffer, List.length_cons, if_pos first, Nat.sub_self,
        List.getElem?_cons_zero]
    · rw [if_neg here, List.length_cons]
      by_cases later : start + 1 ≤ index ∧ index < start + 1 + run.length
      · have shifted : index - start = index - (start + 1) + 1 := by omega
        rw [if_pos later, if_pos (by omega), shifted, List.getElem?_cons_succ]
      · rw [if_neg later, if_neg (by omega)]

theorem readTexels_of_fits {buffer : Array UInt32} {start length : Nat}
    (fits : start + length ≤ buffer.size) :
    ∃ run, readTexels buffer start length = .ok run ∧ run.length = length ∧
      ∀ i < length, run[i]? = buffer[start + i]? := by
  refine ⟨(buffer.extract start (start + length)).toList, if_pos fits, ?_, ?_⟩
  · simp
    omega
  · intro i less
    rw [Array.getElem?_toList, Array.getElem?_extract, if_pos (by omega)]

namespace Paint

theorem bind_run {α β : Type} {first : Paint α} {next : α → Paint β} {canvas middle : Array UInt32}
    {value : α} (success : first.run canvas = .ok value middle) :
    (first >>= next).run canvas = (next value).run middle := by
  simp only [EStateM.run] at success ⊢
  simp only [bind, EStateM.bind, success]

theorem lift_bind {α β : Type} (value : α) (next : α → Paint β) :
    (lift (.ok value) >>= next) = next value := rfl

/-- What holds of the canvas before the first round and is carried on by each round holds after the
last, and no round fails. -/
theorem forM_range {round : Nat → Paint Unit} (count : Nat) (shown : Nat → Array UInt32 → Prop)
    {canvas : Array UInt32} (start : shown 0 canvas)
    (step : ∀ (done : Nat) (canvas : Array UInt32), done < count → shown done canvas →
      ∃ painted, (round done).run canvas = .ok () painted ∧ shown (done + 1) painted) :
    ∃ painted, ((List.range count).forM round).run canvas = .ok () painted ∧ shown count painted := by
  induction count with
  | zero => exact ⟨canvas, rfl, start⟩
  | succ count ih =>
    obtain ⟨middle, first, shownMiddle⟩ :=
      ih fun done canvas less => step done canvas (Nat.lt_succ_of_lt less)
    obtain ⟨painted, last, shownPainted⟩ := step count middle (Nat.lt_succ_self count) shownMiddle
    refine ⟨painted, ?_, shownPainted⟩
    have split : (List.range (count + 1)).forM round =
        ((List.range count).forM round >>= fun _ => round count) := by
      simp only [List.range_succ, List.forM_eq_forM, List.forM_append, List.forM_cons, List.forM_nil,
        bind_pure_unit]
    rw [split, bind_run first, last]

end Paint

/-! ## Pictures -/

/-- Different texels are at different positions. -/
theorem locate_injective {stride x y x' y' : Nat} (inLine : x < stride) (inLine' : x' < stride)
    (same : y * stride + x = y' * stride + x') : x = x' ∧ y = y' := by
  have lines : y = y' := by
    rcases Nat.lt_trichotomy y y' with above | equal | below
    · have := Nat.mul_le_mul_right stride (Nat.succ_le_of_lt above)
      rw [Nat.succ_mul] at this
      omega
    · exact equal
    · have := Nat.mul_le_mul_right stride (Nat.succ_le_of_lt below)
      rw [Nat.succ_mul] at this
      omega
  subst lines
  exact ⟨by omega, rfl⟩

structure Depicts (stride : Nat) (picture : Nat → Nat → Option UInt32) (region : Nat → Nat → Prop)
    (before after : Array UInt32) : Prop where
  size_eq : after.size = before.size
  inside : ∀ x y, x < stride → region x y → after[y * stride + x]? = picture x y
  outside : ∀ x y, x < stride → ¬ region x y →
    after[y * stride + x]? = before[y * stride + x]?

namespace Depicts

variable {stride : Nat} {picture : Nat → Nat → Option UInt32} {region : Nat → Nat → Prop}
  {before canvas : Array UInt32}

theorem unpainted (none : ∀ x y, ¬ region x y) : Depicts stride picture region before before where
  size_eq := rfl
  inside := fun x y _ here => absurd here (none x y)
  outside := fun _ _ _ _ => rfl

theorem congr (shown : Depicts stride picture region before canvas) {region' : Nat → Nat → Prop}
    (same : ∀ x y, region' x y ↔ region x y) : Depicts stride picture region' before canvas where
  size_eq := shown.size_eq
  inside := fun x y inLine here => shown.inside x y inLine ((same x y).mp here)
  outside := fun x y inLine elsewhere => shown.outside x y inLine fun here =>
    elsewhere ((same x y).mpr here)

/-- The region grows by the run that is written, if that is a run of the picture. -/
theorem write (shown : Depicts stride picture region before canvas)
    (region' : Nat → Nat → Prop) {run : List UInt32} {x₀ y₀ : Nat} (inLine : x₀ + run.length ≤ stride)
    (inCanvas : y₀ * stride + stride ≤ before.size)
    (drawn : ∀ i < run.length, run[i]? = picture (x₀ + i) y₀)
    (grown : ∀ x y, region' x y ↔ region x y ∨ y = y₀ ∧ x₀ ≤ x ∧ x < x₀ + run.length) :
    ∃ painted, (Paint.writeRun (y₀ * stride + x₀) run).run canvas = .ok () painted ∧
      Depicts stride picture region' before painted := by
  have fits : y₀ * stride + x₀ + run.length ≤ canvas.size := by
    rw [shown.size_eq]
    omega
  refine ⟨writeTexels canvas (y₀ * stride + x₀) run, if_pos fits, ?_, ?_, ?_⟩
  · rw [size_writeTexels, shown.size_eq]
  · intro x y within here
    rw [getElem?_writeTexels fits]
    by_cases written : y₀ * stride + x₀ ≤ y * stride + x ∧
        y * stride + x < y₀ * stride + x₀ + run.length
    · -- The position is in the run, so it is that of a texel of the line.
      obtain ⟨offset, offset_eq⟩ := Nat.exists_eq_add_of_le written.1
      have inRun : offset < run.length := by omega
      have position_eq : y * stride + x = y₀ * stride + (x₀ + offset) := by omega
      obtain ⟨rfl, rfl⟩ := locate_injective within (by omega) position_eq
      have start_eq : y * stride + (x₀ + offset) - (y * stride + x₀) = offset := by omega
      rw [if_pos written, start_eq]
      exact drawn offset inRun
    · rw [if_neg written]
      rcases (grown x y).mp here with old | ⟨rfl, from_, until_⟩
      · exact shown.inside x y within old
      · omega
  · intro x y within elsewhere
    have notNew : ¬ (region x y ∨ y = y₀ ∧ x₀ ≤ x ∧ x < x₀ + run.length) :=
      fun new => elsewhere ((grown x y).mpr new)
    rw [getElem?_writeTexels fits]
    by_cases written : y₀ * stride + x₀ ≤ y * stride + x ∧
        y * stride + x < y₀ * stride + x₀ + run.length
    · obtain ⟨offset, offset_eq⟩ := Nat.exists_eq_add_of_le written.1
      have position_eq : y * stride + x = y₀ * stride + (x₀ + offset) := by omega
      obtain ⟨rfl, rfl⟩ := locate_injective within (by omega) position_eq
      exact absurd (Or.inr ⟨rfl, by omega, by omega⟩) notNew
    · rw [if_neg written]
      exact shown.outside x y within fun old => notNew (Or.inl old)

/-- The region grows by the target of a copy, if the source is in the region and the picture looks the
same at both. -/
theorem copy (shown : Depicts stride picture region before canvas) (region' : Nat → Nat → Prop)
    (length sx sy tx ty : Nat)
    (sourceInLine : sx + length ≤ stride) (sourceInCanvas : sy * stride + stride ≤ before.size)
    (targetInLine : tx + length ≤ stride) (targetInCanvas : ty * stride + stride ≤ before.size)
    (painted : ∀ i < length, region (sx + i) sy)
    (same : ∀ i < length, picture (sx + i) sy = picture (tx + i) ty)
    (grown : ∀ x y, region' x y ↔ region x y ∨ y = ty ∧ tx ≤ x ∧ x < tx + length) :
    ∃ after, (Paint.copyRun (sy * stride + sx) (ty * stride + tx) length).run canvas = .ok () after ∧
      Depicts stride picture region' before after := by
  obtain ⟨run, read, length_eq, texels⟩ :=
    @readTexels_of_fits canvas (sy * stride + sx) length (by rw [shown.size_eq]; omega)
  have drawn : ∀ i < run.length, run[i]? = picture (tx + i) ty := by
    intro i less
    rw [length_eq] at less
    rw [texels i less, ← same i less, Nat.add_assoc]
    exact shown.inside (sx + i) sy (by omega) (painted i less)
  obtain ⟨after, written, shownAfter⟩ :=
    shown.write region' (by omega) targetInCanvas drawn (by simpa only [length_eq] using grown)
  refine ⟨after, ?_, shownAfter⟩
  have readRun : (Paint.readRun (sy * stride + sx) length).run canvas = .ok run canvas := by
    simp only [Paint.readRun, EStateM.run, read]
  rw [Paint.copyRun, Paint.bind_run readRun, written]

end Depicts
end TextureAtlas
