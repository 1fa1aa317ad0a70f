import TextureAtlas.Failure
import TextureAtlas.Geometry.Size

/-! # Settings of an atlas

Shared pages have the size `pageSize`, two powers of two up to `maxPageSide`. There are at most
`pageLimit` pages, any number if it is zero. With `border`, each fragment has a ring of copies of its
edge texels around it, so that filtered reads never meet a neighbour. -/
set_option autoImplicit false

namespace TextureAtlas

def defaultPageSide : Nat := 512

/-- No page is wider or higher. -/
def maxPageSide : Nat := 8192

/-- Width of the ring around a fragment. -/
def ringWidth : Nat := 1

structure Settings where
  pageSize : Size := ⟨defaultPageSide, defaultPageSide⟩
  pageLimit : Nat := 0
  border : Bool := false
deriving DecidableEq, Repr

namespace Settings

def validate (settings : Settings) : Except Error Unit :=
  if !settings.pageSize.isPowerOfTwo then .error (.invalidSettings .notPowerOfTwo)
  else if !settings.pageSize.within maxPageSide then .error (.invalidSettings .tooLarge)
  else .ok ()

def borderWidth (settings : Settings) : Nat := if settings.border then ringWidth else 0

end Settings
end TextureAtlas
