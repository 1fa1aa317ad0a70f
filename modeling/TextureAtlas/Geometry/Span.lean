/-! # Spans

A span is a run of units on one axis: `width` of them, the first at `x`. -/
set_option autoImplicit false

namespace TextureAtlas

structure Span where
  x : Nat
  width : Nat
deriving DecidableEq, Repr

def Span.text (span : Span) : String :=
  s!"Span \x7b x: {span.x}, width: {span.width} \x7d"

end TextureAtlas
