import TextureAtlas.Atlas.Basic

/-! # Creating fragments

A fragment that is there already is returned as it is. A new one goes, if it may share, into the first
page that has room for it; pages that are dedicated or exhausted are passed over. Otherwise a page is
opened for it, with each side the least power of two that holds the fragment, the page size of the
settings and the minimum asked for. -/
set_option autoImplicit false

namespace TextureAtlas

/-- Takes shared fragments, and was not found full. -/
def Page.isOpen (page : Page) : Bool := !page.dedicated && !page.exhausted

/-- Inserts the image into the first of the pages that is `eligible` and has room, counting them from
`index`. Pages passed on the way may learn that they are full. -/
def insertFirst (eligible : Page → Bool) (image : Image) (index : Nat) :
    List Page → Except Failure (Option (Nat × Placement)) × List Page
  | [] => (.ok none, [])
  | page :: pages =>
    if eligible page then
      match page.insert image with
      | (.ok placement, page) => (.ok (some (index, placement)), page :: pages)
      | (.error (.rejected .outOfSpace), page) =>
        let (found, pages) := insertFirst eligible image (index + 1) pages
        (found, page :: pages)
      | (.error failure, page) => (.error failure, page :: pages)
    else
      let (found, pages) := insertFirst eligible image (index + 1) pages
      (found, page :: pages)

/-- The size of a page that is opened for an image: at least its footprint and `floor`. -/
def pageSizeFor (image : Image) (border : Nat) (floor : Size) : Except Failure Size :=
  match image.size.footprint border with
  | .error fault => .error (.fault fault)
  | .ok need =>
    match ((need.max floor).ceilPowerOfTwo?).filter (·.within maxPageSide) with
    | some size => .ok size
    | none => .error (.rejected (.invalidArgument .fragmentTooLarge))

namespace Atlas

/-- The settings leave no room for another page. -/
def pagesUsedUp (atlas : Atlas) : Bool :=
  atlas.settings.pageLimit ≠ 0 && atlas.settings.pageLimit ≤ atlas.pageCount

/-- Opens a page and inserts the image into it. The page joins the atlas only if that succeeds. -/
def openPage (atlas : Atlas) (size : Size) (dedicated : Bool) (image : Image) :
    Reply (Nat × Placement) :=
  if atlas.pagesUsedUp then
    { outcome := .error (.rejected .pageLimitReached)
      journal := [.refused image.size atlas.settings.pageLimit]
      atlas }
  else
    match Page.blank size atlas.settings.borderWidth dedicated with
    | .error error => { outcome := .error (.rejected error), atlas }
    | .ok page =>
      match page.insert image with
      | (.error failure, _) => { outcome := .error failure, atlas }
      | (.ok placement, page) =>
        { outcome := .ok (atlas.pageCount, placement)
          journal := [.opened atlas.pageCount size dedicated]
          atlas := { atlas with pages := atlas.pages ++ [page] } }

/-- Finds a place on a shared page, if need be on a new one. -/
def insertShared (eligible : Page → Bool) (atlas : Atlas) (image : Image) :
    Reply (Nat × Placement) :=
  let ⟨settings, pages, fragments, registry⟩ := atlas
  match insertFirst eligible image 0 pages with
  | (.error failure, pages) =>
    { outcome := .error failure, atlas := ⟨settings, pages, fragments, registry⟩ }
  | (.ok (some place), pages) =>
    { outcome := .ok place, atlas := ⟨settings, pages, fragments, registry⟩ }
  | (.ok none, pages) =>
    let atlas : Atlas := ⟨settings, pages, fragments, registry⟩
    match pageSizeFor image settings.borderWidth settings.pageSize with
    | .error failure => { outcome := .error failure, atlas }
    | .ok size => atlas.openPage size false image

/-- Opens a page for the image alone. -/
def insertDedicated (atlas : Atlas) (image : Image) (minimum : Size) : Reply (Nat × Placement) :=
  match pageSizeFor image atlas.settings.borderWidth (atlas.settings.pageSize.max minimum) with
  | .error failure => { outcome := .error failure, atlas }
  | .ok size => atlas.openPage size true image

/-- Finds a place for an image, which must be valid, and binds it to the id. -/
def create (eligible : Page → Bool) (atlas : Atlas) (id : FragmentId) (image : Image)
    (allocation : Allocation) : Reply Fragment :=
  match image.validate with
  | .error error => { outcome := .error (.rejected error), atlas }
  | .ok () =>
    let reply :=
      match allocation with
      | .shared => atlas.insertShared eligible image
      | .dedicated minimum => atlas.insertDedicated image minimum
    match reply with
    | ⟨.error failure, journal, transfers, atlas⟩ => ⟨.error failure, journal, transfers, atlas⟩
    | ⟨.ok (page, placement), journal, transfers, atlas⟩ =>
      let fragment : Fragment := ⟨id, page, placement.row, placement.span, placement.rectangle⟩
      { outcome := .ok fragment
        journal := journal ++ [.placed id page placement.rectangle]
        transfers
        atlas := { atlas with fragments := atlas.fragments.insert id fragment } }

/-- The fragment of the id, created from the image if there is none. -/
def getOrCreateAmong (eligible : Page → Bool) (atlas : Atlas) (id : FragmentId) (image : Image)
    (allocation : Allocation) : Reply Fragment :=
  match atlas.get? id with
  | some fragment => { outcome := .ok fragment, atlas }
  | none => atlas.create eligible id image allocation

/-- The same for the id of a label. The registry, if there is one, hears of the label first. -/
def getOrCreateNamedAmong (eligible : Page → Bool) (atlas : Atlas) (label : String) (image : Image)
    (allocation : Allocation) : Reply Fragment :=
  let id := FragmentId.ofLabel label
  match atlas.registry with
  | none => atlas.getOrCreateAmong eligible id image allocation
  | some registry =>
    match registry.claim id label with
    | (.error fault, registry) =>
      { outcome := .error (.fault fault), atlas := { atlas with registry := some registry } }
    | (.ok (), registry) =>
      { atlas with registry := some registry }.getOrCreateAmong eligible id image allocation

def getOrCreate (atlas : Atlas) (id : FragmentId) (image : Image) (allocation : Allocation) :
    Reply Fragment :=
  atlas.getOrCreateAmong Page.isOpen id image allocation

def getOrCreateNamed (atlas : Atlas) (label : String) (image : Image) (allocation : Allocation) :
    Reply Fragment :=
  atlas.getOrCreateNamedAmong Page.isOpen label image allocation

end Atlas
end TextureAtlas
