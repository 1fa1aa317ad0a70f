import TextureAtlas.Renderer.Transfer
import TextureAtlas.Table

/-! # Bitmaps kept in memory

The simplest renderer: it keeps for each page what was last uploaded and counts the uploads. -/
set_option autoImplicit false

namespace TextureAtlas

structure Bitmap where
  size : Size
  bytes : ByteArray

structure Bitmaps where
  byPage : Table Nat Bitmap
  uploads : Nat

namespace Bitmaps

def empty : Bitmaps := ⟨Table.empty, 0⟩

/-- How many pages have a bitmap. -/
def size (bitmaps : Bitmaps) : Nat := bitmaps.byPage.size

def isEmpty (bitmaps : Bitmaps) : Bool := bitmaps.byPage.isEmpty

def get? (bitmaps : Bitmaps) (page : Nat) : Option Bitmap := bitmaps.byPage.get? page

def receive (bitmaps : Bitmaps) : Transfer → Bitmaps
  | .upload page size bytes => ⟨bitmaps.byPage.insert page ⟨size, bytes⟩, bitmaps.uploads + 1⟩
  | .release page => { bitmaps with byPage := bitmaps.byPage.erase page }

end Bitmaps
end TextureAtlas
