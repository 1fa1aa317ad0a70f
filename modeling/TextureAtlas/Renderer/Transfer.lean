import TextureAtlas.Geometry.Size

/-! # Transfers to the renderer

What a renderer is told about the pages: all bytes of a page at once, or that the bitmap of a page is
not needed any more. Pages are named by their position in the atlas. -/
set_option autoImplicit false

namespace TextureAtlas

inductive Transfer
  | upload (page : Nat) (size : Size) (bytes : ByteArray)
  | release (page : Nat)

end TextureAtlas
