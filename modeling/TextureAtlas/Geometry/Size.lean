/-! # Sizes in texels

A side is a 32-bit number of texels. `ceilPowerOfTwo?` rounds a side up to the least power of two
that a side can hold: zero rounds up to one, and past `2 ^ 31` there is none. -/
set_option autoImplicit false

namespace TextureAtlas

/-- The powers of two that fit in a side, ascending. -/
def powersOfTwo : List Nat := (List.range 32).map (Nat.pow 2)

def isPowerOfTwo (side : Nat) : Bool := powersOfTwo.contains side

def ceilPowerOfTwo? (side : Nat) : Option Nat := powersOfTwo.find? (side ≤ ·)

structure Size where
  width : Nat
  height : Nat
deriving DecidableEq, Repr

namespace Size

def area (size : Size) : Nat := size.width * size.height

/-- Both sides are powers of two. -/
def isPowerOfTwo (size : Size) : Bool :=
  TextureAtlas.isPowerOfTwo size.width && TextureAtlas.isPowerOfTwo size.height

/-- Rounds both sides up, when both can be. -/
def ceilPowerOfTwo? (size : Size) : Option Size :=
  match TextureAtlas.ceilPowerOfTwo? size.width, TextureAtlas.ceilPowerOfTwo? size.height with
  | some width, some height => some ⟨width, height⟩
  | _, _ => none

/-- The least size that is at least as wide and as high as both. -/
def max (a b : Size) : Size := ⟨Max.max a.width b.width, Max.max a.height b.height⟩

/-- No side of `size` is longer than `side`. -/
def within (size : Size) (side : Nat) : Bool := size.width ≤ side && size.height ≤ side

end Size
end TextureAtlas
