import TextureAtlas.Geometry.Rectangle
import TextureAtlas.Image

/-! # Painting on a buffer of texels

The buffer holds the lines of a page one after the other, `stride` texels each. A painting action
reads and writes whole runs of texels; one that would leave the buffer is a fault, and the buffer
keeps what was painted before it. `paint` copies the lines of an image to their place and then draws
out its edge: the first and the last texel of each line to the left and right, then the first and the
last of the widened lines upwards and downwards, corners included. -/
set_option autoImplicit false

namespace TextureAtlas

abbrev Paint := EStateM Fault (Array UInt32)

namespace Paint

/-- A computation that does not look at the buffer. -/
def lift {α : Type} : Except Fault α → Paint α
  | .ok value => pure value
  | .error fault => throw fault

def readRun (start length : Nat) : Paint (List UInt32) := fun canvas =>
  match readTexels canvas start length with
  | .ok run => .ok run canvas
  | .error fault => .error fault canvas

def writeRun (start : Nat) (run : List UInt32) : Paint Unit := fun canvas =>
  if start + run.length ≤ canvas.size then .ok () (writeTexels canvas start run)
  else .error .outOfBounds canvas

/-- Copies a run of texels to another place of the buffer. -/
def copyRun (source target length : Nat) : Paint Unit := do
  writeRun target (← readRun source length)

/-- Where the texel `(x, y)` is in the buffer. -/
def locate (stride x y : Nat) : Except Fault Nat := position (y * stride + x)

/-- Copies the lines of the image to `frame`. -/
def blit (stride : Nat) (image : Image) (frame : Rectangle) : Paint Unit :=
  (List.range image.height).forM fun line => do
    let start ← lift (do locate stride frame.x (← coord (frame.y + line)))
    writeRun start (← lift (image.line line))

/-- Repeats the texel at `left` to its left and the one at `right` to its right, `border` times. -/
def widenLine (border left right : Nat) : Paint Unit :=
  (List.range border).forM fun offset => do
    copyRun left (← lift (minus left (offset + 1))) 1
    copyRun right (← lift (position (right + (offset + 1)))) 1

def widenLines (stride border : Nat) (frame : Rectangle) : Paint Unit :=
  (List.range frame.height).forM fun line => do
    let left ← lift (do locate stride frame.x (← coord (frame.y + line)))
    let right ← lift (minus (left + frame.width) 1)
    widenLine border left right

/-- Repeats the run at `top` above it and the one at `bottom` below it, `border` times. -/
def repeatLines (stride border top bottom length : Nat) : Paint Unit :=
  (List.range border).forM fun offset => do
    copyRun top (← lift (minus top ((offset + 1) * stride))) length
    copyRun bottom (← lift (position (bottom + (offset + 1) * stride))) length

def drawOutEdge (stride border : Nat) (frame : Rectangle) : Paint Unit := do
  widenLines stride border frame
  let last ← lift (do minus (← coord (frame.y + frame.height)) 1)
  let top ← lift (do minus (← locate stride frame.x frame.y) border)
  let bottom ← lift (do minus (← locate stride frame.x last) border)
  repeatLines stride border top bottom (frame.width + 2 * border)

end Paint

/-- Paints the image over `frame` and its edge over the border around it. -/
def paint (stride border : Nat) (image : Image) (frame : Rectangle) : Paint Unit := do
  Paint.blit stride image frame
  if 0 < border then Paint.drawOutEdge stride border frame

end TextureAtlas
