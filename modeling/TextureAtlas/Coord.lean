import TextureAtlas.Failure

/-! # Numbers in range

Coordinates and lengths are below `2 ^ 32`, positions in a buffer of texels below `2 ^ 64`. Sums and
products are formed exactly and then checked, so `coord (2 * border)` is the doubled border where that
is a coordinate, and a fault where it is not. -/
set_option autoImplicit false

namespace TextureAtlas

/-- One past the largest coordinate: two to the 32nd. -/
def coordLimit : Nat := 0x100000000

/-- One past the largest position: two to the 64th. -/
def positionLimit : Nat := 0x10000000000000000

def coord (n : Nat) : Except Fault Nat :=
  if n < coordLimit then .ok n else .error .overflow

def position? (n : Nat) : Option Nat :=
  if n < positionLimit then some n else none

def position (n : Nat) : Except Fault Nat :=
  match position? n with
  | some n => .ok n
  | none => .error .overflow

/-- The difference, where it is not negative. -/
def minus (a b : Nat) : Except Fault Nat :=
  if b ≤ a then .ok (a - b) else .error .overflow

/-- The sum, or the largest coordinate if the sum is none. -/
def saturatingAdd (a b : Nat) : Nat := min (a + b) (coordLimit - 1)

end TextureAtlas
