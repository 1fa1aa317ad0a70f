import TextureAtlas.Geometry.Size
import TextureAtlas.Texels

/-! # Images

The source of a fragment: `height` lines of `width` texels in a buffer, each line `stride` texels
after the one before, so that an image can be a window of a larger one. A valid image is not empty,
its lines do not overlap, and the buffer reaches to the end of its last line. -/
set_option autoImplicit false

namespace TextureAtlas

structure Image where
  width : Nat
  height : Nat
  stride : Nat
  texels : Array UInt32

namespace Image

/-- An image whose lines follow each other without a gap. -/
def packed (width height : Nat) (texels : Array UInt32) : Image := ⟨width, height, width, texels⟩

def size (image : Image) : Size := ⟨image.width, image.height⟩

/-- How many texels the buffer must have for a last line that is whole, if that is a position. -/
def requiredLength? (image : Image) : Option Nat := do
  let start ← position? (image.stride * (image.height - 1))
  position? (start + image.width)

def validate (image : Image) : Except Error Unit :=
  if image.width = 0 ∨ image.height = 0 then .error (.invalidArgument .emptyFragment)
  else if image.stride < image.width then .error (.invalidArgument .narrowStride)
  else
    match image.requiredLength? with
    | some length =>
      if length ≤ image.texels.size then .ok () else .error (.invalidArgument .shortBuffer)
    | none => .error (.invalidArgument .shortBuffer)

/-- Line `y`. Only the buffer is asked, so that an invalid image has lines too. -/
def line (image : Image) (y : Nat) : Except Fault (List UInt32) := do
  readTexels image.texels (← position (y * image.stride)) image.width

end Image
end TextureAtlas
