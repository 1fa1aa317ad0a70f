import TextureAtlas.Geometry.Size

/-! # Rectangles of texels

A rectangle covers the texels `x ≤ px < x + width`, `y ≤ py < y + height`. The ends are exact sums,
so a rectangle may reach past the last coordinate. -/
set_option autoImplicit false

namespace TextureAtlas

structure Rectangle where
  x : Nat
  y : Nat
  width : Nat
  height : Nat
deriving DecidableEq, Repr

namespace Rectangle

def size (r : Rectangle) : Size := ⟨r.width, r.height⟩

def position (r : Rectangle) : Nat × Nat := (r.x, r.y)

/-- Each rectangle starts before the other ends, on both axes. -/
def intersects (a b : Rectangle) : Bool :=
  a.x < b.x + b.width && b.x < a.x + a.width && a.y < b.y + b.height && b.y < a.y + a.height

/-- The second rectangle starts and ends inside the first, on both axes. -/
def contains (a b : Rectangle) : Bool :=
  a.x ≤ b.x && a.y ≤ b.y && b.x + b.width ≤ a.x + a.width && b.y + b.height ≤ a.y + a.height

def text (r : Rectangle) : String :=
  s!"Rectangle \x7b x: {r.x}, y: {r.y}, width: {r.width}, height: {r.height} \x7d"

end Rectangle
end TextureAtlas
