import TextureAtlas.Packing.Rows
import TextureAtlas.Page.Paint
import TextureAtlas.Renderer.Transfer
import TextureAtlas.Settings

/-! # Pages

A page is a packing, the texels painted so far, and four marks. `dirty`: the texels changed since the
last upload. `uploaded`: the renderer holds a bitmap of the page. `exhausted`: the page was found
full and nothing was removed since. `dedicated`: the page was opened for a single fragment. -/
set_option autoImplicit false

namespace TextureAtlas

structure Page where
  packing : Packing
  border : Nat
  dedicated : Bool
  texels : Array UInt32
  dirty : Bool
  uploaded : Bool
  exhausted : Bool
deriving DecidableEq

namespace Page

def size (page : Page) : Size := page.packing.size

def rows (page : Page) : List Row := page.packing.rows

/-- A page without fragments, all texels zero. -/
def blank (size : Size) (border : Nat) (dedicated : Bool) : Except Error Page :=
  if size.width = 0 ∨ size.height = 0 ∨ !size.within maxPageSide then
    .error (.invalidArgument .pageSizeOutOfRange)
  else
    .ok {
      packing := .empty size
      border
      dedicated
      texels := Array.replicate size.area 0
      dirty := false
      uploaded := false
      exhausted := false }

/-- Paints the image at its new place. -/
def commit (page : Page) (image : Image) (placement : Placement) (packing : Packing) :
    Except Failure Placement × Page :=
  let ⟨_, border, dedicated, texels, dirty, uploaded, exhausted⟩ := page
  match (paint packing.size.width border image placement.rectangle).run texels with
  | .ok _ texels => (.ok placement, ⟨packing, border, dedicated, texels, true, uploaded, exhausted⟩)
  | .error fault texels =>
    (.error (.fault fault), ⟨packing, border, dedicated, texels, dirty, uploaded, exhausted⟩)

/-- Places the image and paints it. When there is no room, the page learns whether it is full. -/
def insert (page : Page) (image : Image) : Except Failure Placement × Page :=
  match image.validate with
  | .error error => (.error (.rejected error), page)
  | .ok () =>
    match page.packing.place page.border image.size with
    | (.error fault, packing) => (.error (.fault fault), { page with packing })
    | (.ok .oversized, packing) => (.error (.rejected .outOfSpace), { page with packing })
    | (.ok (.noRoom full), packing) =>
      (.error (.rejected .outOfSpace), { page with packing, exhausted := full })
    | (.ok (.placed placement), packing) => page.commit image placement packing

/-- Takes a fragment out. Its texels stay until something is painted over them. -/
def remove (page : Page) (row : Nat) (span : Span) : Except Fault Unit × Page :=
  match page.packing.release row span with
  | (.error fault, packing) => (.error fault, { page with packing })
  | (.ok (), packing) => (.ok (), { page with packing, exhausted := false })

/-- Brings the renderer's bitmap of the page up to date, and tells whether it had to be uploaded. -/
def flush (page : Page) (index : Nat) : Bool × Option Transfer × Page :=
  if page.dirty then
    (true, some (.upload index page.size (bytesOfTexels page.texels)),
      { page with dirty := false, uploaded := true })
  else (false, none, page)

/-- Gives up the renderer's bitmap. The next `flush` brings it back. -/
def dropBitmap (page : Page) (index : Nat) : Option Transfer × Page :=
  if page.uploaded then (some (.release index), { page with uploaded := false, dirty := true })
  else (none, page)

def usedArea (page : Page) : Except Fault Nat := page.packing.usedArea

/-- The texel at `(x, y)`. Past the end of a line is the next line. -/
def texel (page : Page) (x y : Nat) : Except Fault UInt32 :=
  match Paint.locate page.size.width x y with
  | .error fault => .error fault
  | .ok offset =>
    match page.texels[offset]? with
    | some texel => .ok texel
    | none => .error .outOfBounds

/-- `length` texels from `(x, y)` on, in the order of the buffer. -/
def run (page : Page) (x y length : Nat) : Except Fault (List UInt32) :=
  if length = 0 then .ok []
  else do readTexels page.texels (← Paint.locate page.size.width x y) length

/-- `height` lines of `width` texels, the first from `(x, y)` on. -/
def window (page : Page) (x y width : Nat) : Nat → Except Fault (List (List UInt32))
  | 0 => .ok []
  | height + 1 => do
    let line ← page.run x y width
    return line :: (← page.window x (y + 1) width height)

end Page
end TextureAtlas
