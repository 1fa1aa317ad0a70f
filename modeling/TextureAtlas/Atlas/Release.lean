import TextureAtlas.Atlas.Basic

/-! # Freeing fragments and bitmaps

Freeing a fragment gives its span back to the page; the page stays, even an empty one. Bitmaps follow
the pages on demand: `flush` uploads the pages that changed, `dropBitmaps` releases what was uploaded
and keeps the fragments, `clear` releases it and forgets pages and fragments. -/
set_option autoImplicit false

namespace TextureAtlas

/-- Applies a bitmap operation to each page with its position, counted from `index`. -/
def transferAll (operation : Page → Nat → Option Transfer × Page) (index : Nat) :
    List Page → List Transfer × List Page
  | [] => ([], [])
  | page :: pages =>
    let (transfer, page) := operation page index
    let (transfers, pages) := transferAll operation (index + 1) pages
    (transfer.toList ++ transfers, page :: pages)

/-- Flushes each page with its position, counted from `index`. `any` tells whether there was an upload
before these. -/
def flushAll (any : Bool) (index : Nat) : List Page → Bool × List Transfer × List Page
  | [] => (any, [], [])
  | page :: pages =>
    let (uploaded, transfer, page) := page.flush index
    let (any, transfers, pages) := flushAll (any || uploaded) (index + 1) pages
    (any, transfer.toList ++ transfers, page :: pages)

namespace Atlas

/-- Removes the fragment of the id, if there is one. It leaves the table before its page is looked for. -/
def free (atlas : Atlas) (id : FragmentId) : Reply (Option Fragment) :=
  match atlas.get? id with
  | none => { outcome := .ok none, atlas }
  | some fragment =>
    let fragments := atlas.fragments.erase id
    match atlas.page? fragment.page with
    | none =>
      { outcome := .error (.fault (.noSuchPage fragment.page)), atlas := { atlas with fragments } }
    | some page =>
      match page.remove fragment.row fragment.span with
      | (.error fault, page) =>
        { outcome := .error (.fault fault)
          atlas := { atlas with fragments, pages := atlas.pages.set fragment.page page } }
      | (.ok (), page) =>
        { outcome := .ok (some fragment)
          journal := [.freed id fragment.page]
          atlas := { atlas with fragments, pages := atlas.pages.set fragment.page page } }

/-- Uploads every page that changed, and tells whether there was one. -/
def flush (atlas : Atlas) : Reply Bool :=
  let (any, transfers, pages) := flushAll false 0 atlas.pages
  { outcome := .ok any, transfers, atlas := { atlas with pages } }

/-- Releases every bitmap; the next `flush` uploads all of them again. -/
def dropBitmaps (atlas : Atlas) : Reply Unit :=
  let (transfers, pages) := transferAll Page.dropBitmap 0 atlas.pages
  { outcome := .ok (), transfers, atlas := { atlas with pages } }

/-- Releases every bitmap and removes all fragments and pages. Settings and registry stay. -/
def clear (atlas : Atlas) : Reply Unit :=
  { outcome := .ok ()
    journal := [.clearing atlas.size atlas.pageCount]
    transfers := (transferAll Page.dropBitmap 0 atlas.pages).1
    atlas := { atlas with pages := [], fragments := Table.empty } }

end Atlas
end TextureAtlas
