import TextureAtlas.Coord
import TextureAtlas.Packing.RowSpace

/-! # Checked arithmetic that stays in range

A checked sum or difference is the exact one wherever its bound is known, and a computation that has
a value goes on with it. -/
set_option autoImplicit false

namespace TextureAtlas

theorem coord_of_lt {n : Nat} (small : n < coordLimit) : coord n = .ok n := if_pos small

theorem minus_of_le {a b : Nat} (le : b ≤ a) : minus a b = .ok (a - b) := if_pos le

theorem position?_of_lt {n : Nat} (small : n < positionLimit) : position? n = some n := if_pos small

theorem position_of_lt {n : Nat} (small : n < positionLimit) : position n = .ok n := by
  simp only [position, position?_of_lt small]

theorem Span.stop_of_lt {span : Span} (small : span.x + span.width < coordLimit) :
    span.stop = .ok (span.x + span.width) := coord_of_lt small

theorem ok_bind {ε α β : Type} (value : α) (next : α → Except ε β) :
    (Except.ok value >>= next) = next value := rfl

/-- A sequence has a value only if its first part has one. -/
theorem bind_eq_ok {ε α β : Type} {first : Except ε α} {next : α → Except ε β} {result : β}
    (success : (first >>= next) = .ok result) :
    ∃ value, first = .ok value ∧ next value = .ok result := by
  cases first with
  | error error => cases success
  | ok value => exact ⟨value, rfl, success⟩

end TextureAtlas
