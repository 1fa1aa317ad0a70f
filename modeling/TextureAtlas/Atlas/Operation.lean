import TextureAtlas.Atlas.Create
import TextureAtlas.Atlas.Release

/-! # Operations as data

What can be asked of an atlas that may change it, in one type, and `perform`, which answers it. A
history of an atlas is a list of operations. -/
set_option autoImplicit false

namespace TextureAtlas

inductive Operation
  | getOrCreate (id : FragmentId) (image : Image) (allocation : Allocation)
  | getOrCreateNamed (label : String) (image : Image) (allocation : Allocation)
  | free (id : FragmentId)
  | clear
  | flush
  | dropBitmaps
  | setPageLimit (limit : Nat)
  | setPageSize (size : Size)
  | setRegistry (registry : LabelRegistry)

inductive Answer
  | fragment (fragment : Fragment)
  | freed (fragment : Option Fragment)
  | flushed (any : Bool)
  | done
deriving DecidableEq, Repr

namespace Atlas

/-- Answers the operation, with shared fragments going to the `eligible` pages only. -/
def performAmong (eligible : Page → Bool) (atlas : Atlas) : Operation → Reply Answer
  | .getOrCreate id image allocation =>
    (atlas.getOrCreateAmong eligible id image allocation).map .fragment
  | .getOrCreateNamed label image allocation =>
    (atlas.getOrCreateNamedAmong eligible label image allocation).map .fragment
  | .free id => (atlas.free id).map .freed
  | .clear => atlas.clear.map fun () => .done
  | .flush => atlas.flush.map .flushed
  | .dropBitmaps => atlas.dropBitmaps.map fun () => .done
  | .setPageLimit limit => { outcome := .ok .done, atlas := atlas.setPageLimit limit }
  | .setPageSize size =>
    match atlas.setPageSize size with
    | (.ok (), atlas) => { outcome := .ok .done, atlas }
    | (.error error, atlas) => { outcome := .error (.rejected error), atlas }
  | .setRegistry registry => { outcome := .ok .done, atlas := atlas.setRegistry registry }

def perform (atlas : Atlas) (operation : Operation) : Reply Answer :=
  atlas.performAmong Page.isOpen operation

end Atlas
end TextureAtlas
