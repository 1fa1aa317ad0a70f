import TextureAtlas.Atlas.Journal
import TextureAtlas.Label.Registry
import TextureAtlas.Page.Basic

/-! # The state of an atlas

Pages in the order in which they were opened, and a table of the fragments placed on them. A fragment
names its page by that order; pages are never moved, so the name is good until the atlas is cleared.
An operation answers with a `Reply`: its outcome, what it wrote into the journal, what it told the
renderer, and the atlas it leaves behind, also when it failed. -/
set_option autoImplicit false

namespace TextureAtlas

structure Fragment where
  id : FragmentId
  page : Nat
  row : Nat
  span : Span
  rectangle : Rectangle
deriving DecidableEq, Repr

def Fragment.size (fragment : Fragment) : Size := fragment.rectangle.size

/-- Which page a new fragment goes to. -/
inductive Allocation
  /-- A page shared with other fragments, a new one only if none has room. -/
  | shared
  /-- A page of its own, at least of this size. -/
  | dedicated (minimum : Size)
deriving DecidableEq, Repr

structure Atlas where
  settings : Settings
  pages : List Page
  fragments : Table FragmentId Fragment
  registry : Option LabelRegistry

structure Reply (α : Type) where
  outcome : Except Failure α
  journal : List Record := []
  transfers : List Transfer := []
  atlas : Atlas

def Reply.map {α β : Type} (f : α → β) (reply : Reply α) : Reply β :=
  { reply with outcome := reply.outcome.map f }

namespace Atlas

/-- An atlas without pages. -/
def empty (settings : Settings) : Atlas := ⟨settings, [], Table.empty, none⟩

def ofSettings (settings : Settings) : Except Error Atlas :=
  match settings.validate with
  | .ok () => .ok (empty settings)
  | .error error => .error error

def get? (atlas : Atlas) (id : FragmentId) : Option Fragment := atlas.fragments.get? id

def contains (atlas : Atlas) (id : FragmentId) : Bool := atlas.fragments.contains id

def page? (atlas : Atlas) (index : Nat) : Option Page := atlas.pages[index]?

def pageCount (atlas : Atlas) : Nat := atlas.pages.length

def size (atlas : Atlas) : Nat := atlas.fragments.size

def isEmpty (atlas : Atlas) : Bool := atlas.fragments.isEmpty

/-- The fragments by ascending id. -/
def listing (atlas : Atlas) : List Fragment :=
  atlas.fragments.values.mergeSort fun a b => a.id.raw ≤ b.id.raw

/-- The pairs among these fragments that share texels of a page, the earlier one first. -/
def overlapsOf : List Fragment → List (FragmentId × FragmentId)
  | [] => []
  | a :: rest =>
    (rest.filter fun b => a.page = b.page && a.rectangle.intersects b.rectangle).map
      (fun b => (a.id, b.id)) ++ overlapsOf rest

def overlaps (atlas : Atlas) : List (FragmentId × FragmentId) := overlapsOf atlas.listing

/-- The area of the pages that is taken, rounded down to a percentage; zero without pages. -/
def utilization (atlas : Atlas) : Except Fault Nat := do
  let total ← atlas.pages.foldlM (fun area page => position (area + page.size.area)) 0
  if total = 0 then return 0
  let used ← atlas.pages.foldlM (fun area page => do position (area + (← page.usedArea))) 0
  let hundredfold ← position (used * 100)
  return hundredfold / total % coordLimit

/-- Limits the pages opened from now on; zero is no limit. -/
def setPageLimit (atlas : Atlas) (limit : Nat) : Atlas :=
  { atlas with settings := { atlas.settings with pageLimit := limit } }

/-- Changes the size of the shared pages opened from now on, if it is one. -/
def setPageSize (atlas : Atlas) (size : Size) : Except Error Unit × Atlas :=
  let settings := { atlas.settings with pageSize := size }
  match settings.validate with
  | .ok () => (.ok (), { atlas with settings })
  | .error error => (.error error, atlas)

/-- Lets the registry check the labels from now on. -/
def setRegistry (atlas : Atlas) (registry : LabelRegistry) : Atlas :=
  { atlas with registry := some registry }

end Atlas
end TextureAtlas
