import TextureAtlas.Geometry.Rectangle
import TextureAtlas.Label.FragmentId

/-! # The journal of an atlas

One record for each page opened, fragment placed or freed, clearing, and refusal for want of pages.
A record is written when the step it tells of is done; a clearing is written before. -/
set_option autoImplicit false

namespace TextureAtlas

inductive Level
  | debug
  | info
  | warn
deriving DecidableEq, Repr

def Level.text : Level → String
  | debug => "DEBUG"
  | info => "INFO"
  | warn => "WARN"

inductive Record
  | opened (page : Nat) (size : Size) (dedicated : Bool)
  | placed (id : FragmentId) (page : Nat) (rectangle : Rectangle)
  | freed (id : FragmentId) (page : Nat)
  /-- With the counts just before. -/
  | clearing (fragments pages : Nat)
  /-- A fragment of this size needed one page more than `limit`. -/
  | refused (size : Size) (limit : Nat)
deriving DecidableEq, Repr

namespace Record

def level : Record → Level
  | opened .. | placed .. | freed .. => .debug
  | clearing .. => .info
  | refused .. => .warn

def message : Record → String
  | opened page size dedicated =>
    s!"Created fragment map {page} ({size.width}x{size.height}, dedicated: {dedicated})"
  | placed id page rectangle =>
    s!"Placed fragment {id.text} in map {page} at {rectangle.text}"
  | freed id page => s!"Freed fragment {id.text} from map {page}"
  | clearing fragments pages => s!"Clearing atlas: {fragments} fragments in {pages} maps"
  | refused size limit =>
    s!"Cannot place a {size.width}x{size.height} fragment: all {limit} maps are in use"

def text (record : Record) : String := record.level.text ++ " " ++ record.message

end Record
end TextureAtlas
