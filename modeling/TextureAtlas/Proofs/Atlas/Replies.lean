import Mathlib.Data.List.Forall2
import TextureAtlas.Atlas.Operation
import TextureAtlas.Proofs.Page.Lifetime

/-! # Creating and freeing a fragment

A fragment that may share goes to the first eligible page that can hold it. If there is none, and for
a dedicated one always, a page is opened for it: there must be a size for that page, and the settings
must leave room for one more; a new page takes the fragment it was opened for. `Locates`, `Creates` and
`Frees` list the replies, with the atlas that each leaves, and on valid pages there are no others. Where
the pages hold the places of all fragments (`Ready`), a freeing is no fault (`Ready.free_cases`). -/
set_option autoImplicit false

namespace TextureAtlas

theorem Reply.map_eq_error_iff {α β : Type} {f : α → β} {reply : Reply α} {failure : Failure} :
    (reply.map f).outcome = .error failure ↔ reply.outcome = .error failure := by
  cases outcome : reply.outcome <;> simp [Reply.map, outcome, Except.map]

/-! ## Among the pages that are there -/

/-- What becomes of a page that is passed over. -/
inductive Passed (eligible : Page → Bool) (image : Image) : Page → Page → Prop
  | skipped {page : Page} (closed : eligible page = false) : Passed eligible image page page
  | refused {page next : Page} (opened : eligible page = true)
      (result : page.insert image = (.error (.rejected .outOfSpace), next))
      (refuses : page.Refuses image .outOfSpace next) : Passed eligible image page next

namespace Passed

variable {eligible : Page → Bool} {image : Image} {page next : Page}

theorem unmarked_eq (passed : Passed eligible image page next) : next.unmarked = page.unmarked := by
  cases passed with
  | skipped => rfl
  | refused opened result refuses => exact refuses.unmarked_eq

/-- An eligible page is passed over only if it cannot hold the image. -/
theorem not_canHold (passed : Passed eligible image page next) (valid : page.Valid)
    (validated : image.validate = .ok ()) (opened : eligible page = true) :
    ¬ page.CanHold image.size := by
  cases passed with
  | skipped closed => cases closed.symm.trans opened
  | refused opened result refuses => exact valid.not_canHold_of_refuses validated refuses

/-- Nor can a shared page that is passed over: either it refused, or it was known to be exhausted. -/
theorem not_canHold_of_shared (passed : Passed Page.isOpen image page next) (honest : page.Honest)
    (validated : image.validate = .ok ()) (shared : page.dedicated = false) :
    ¬ page.CanHold image.size := by
  cases opened : page.isOpen with
  | true => exact passed.not_canHold honest.valid validated opened
  | false =>
    simp only [Page.isOpen, shared, Bool.not_false, Bool.true_and, Bool.not_eq_false'] at opened
    exact honest.not_canHold opened (Image.valid_of_validate validated)

end Passed

theorem unmarked_of_passed {eligible : Page → Bool} {image : Image} {pages passed : List Page}
    (all : List.Forall₂ (Passed eligible image) pages passed) :
    passed.map Page.unmarked = pages.map Page.unmarked := by
  induction all with
  | nil => rfl
  | cons first rest ih => rw [List.map_cons, List.map_cons, first.unmarked_eq, ih]

/-- All that `insertFirst` can answer for an image that is valid, and the pages it leaves. -/
inductive Search (eligible : Page → Bool) (image : Image) (start : Nat) :
    List Page → Except Failure (Option (Nat × Placement)) × List Page → Prop
  | nowhere {pages passed : List Page} (all : List.Forall₂ (Passed eligible image) pages passed) :
      Search eligible image start pages (.ok none, passed)
  | here {before after passed : List Page} {page next : Page} {placement : Placement}
      (all : List.Forall₂ (Passed eligible image) before passed) (opened : eligible page = true)
      (result : page.insert image = (.ok placement, next))
      (inserts : page.Inserts image placement next) :
      Search eligible image start (before ++ page :: after)
        (.ok (some (start + before.length, placement)), passed ++ next :: after)

theorem Search.cons {eligible : Page → Bool} {image : Image} {start : Nat} {pages : List Page}
    {result : Except Failure (Option (Nat × Placement)) × List Page} {page next : Page}
    (passed : Passed eligible image page next)
    (search : Search eligible image (start + 1) pages result) :
    Search eligible image start (page :: pages) (result.1, next :: result.2) := by
  cases search with
  | nowhere all => exact .nowhere (.cons passed all)
  | @here before _ _ _ _ _ all opened result inserts =>
    have count : start + 1 + before.length = start + (page :: before).length := by
      rw [List.length_cons]
      omega
    rw [count]
    exact .here (.cons passed all) opened result inserts

theorem insertFirst_search (eligible : Page → Bool) {image : Image}
    (validated : image.validate = .ok ()) (start : Nat) {pages : List Page}
    (valid : ∀ page ∈ pages, page.Valid) :
    Search eligible image start pages (insertFirst eligible image start pages) := by
  induction pages generalizing start with
  | nil => exact .nowhere .nil
  | cons first rest ih =>
    obtain ⟨first_valid, rest_valid⟩ := List.forall_mem_cons.mp valid
    have search := ih (start + 1) rest_valid
    cases opened : eligible first with
    | false =>
      simp only [insertFirst, opened]
      exact search.cons (.skipped opened)
    | true =>
      simp only [insertFirst, opened, if_true]
      rcases first_valid.insert_cases image with
        ⟨error, next, result, refuses⟩ | ⟨placement, next, result, inserts⟩
      · -- Only for want of room is a valid image refused, and then the search goes on.
        obtain rfl := refuses.error_eq validated
        rw [result]
        exact search.cons (.refused opened result refuses)
      · rw [result]
        exact @Search.here eligible image start [] rest [] first next placement .nil opened result inserts

/-! ## On a new page -/

theorem le_of_ceilPowerOfTwo? {side power : Nat} (found : ceilPowerOfTwo? side = some power) :
    side ≤ power := by
  have fits := List.find?_some found
  exact of_decide_eq_true fits

/-- The size holds the footprint, and a page may have it. -/
structure PageSized (image : Image) (border : Nat) (size : Size) : Prop where
  width_le : image.width + 2 * border ≤ size.width
  height_le : image.height + 2 * border ≤ size.height
  width_small : size.width ≤ maxPageSide
  height_small : size.height ≤ maxPageSide

theorem pageSizeFor_cases (image : Image) {border : Nat} (small : 2 * border < coordLimit)
    (floor : Size) :
    (∃ size, pageSizeFor image border floor = .ok size ∧ PageSized image border size) ∨
      pageSizeFor image border floor = .error (.rejected (.invalidArgument .fragmentTooLarge)) := by
  simp only [pageSizeFor, Packing.footprint_of_small small]
  split
  · rename_i size found
    refine Or.inl ⟨size, rfl, ?_⟩
    obtain ⟨rounded, inRange⟩ := Option.filter_eq_some_iff.mp found
    simp only [Size.within, Bool.and_eq_true, decide_eq_true_eq] at inRange
    simp only [Size.ceilPowerOfTwo?] at rounded
    split at rounded
    · rename_i width height width_found height_found
      cases rounded
      have width_le := le_of_ceilPowerOfTwo? width_found
      have height_le := le_of_ceilPowerOfTwo? height_found
      have limit : maxPageSide < coordLimit - 1 := by decide
      simp only [Size.max, Image.size] at width_le height_le inRange
      constructor <;> dsimp only <;> omega
    · cases rounded
  · exact Or.inr rfl

theorem Page.blank_of_sized {image : Image} {border : Nat} {size : Size}
    (sized : PageSized image border size) (image_valid : image.Valid) (dedicated : Bool) :
    ∃ page, Page.blank size border dedicated = .ok page := by
  have wide := image_valid.width_pos
  have high := image_valid.height_pos
  have width_le := sized.width_le
  have height_le := sized.height_le
  refine ⟨_, if_neg ?_⟩
  simp only [Size.within, sized.width_small, sized.height_small, decide_true, Bool.and_self,
    Bool.not_true, Bool.false_eq_true, or_false]
  omega

namespace Atlas

theorem borderWidth_small (settings : Settings) : 2 * settings.borderWidth < coordLimit := by
  cases bordered : settings.border <;> simp only [Settings.borderWidth, bordered] <;> decide

/-- The replies when a page has to be opened that is at least as large as `floor`. -/
inductive Opens (atlas : Atlas) (image : Image) (floor : Size) (dedicated : Bool) :
    Reply (Nat × Placement) → Prop
  | tooLarge (unsized : pageSizeFor image atlas.settings.borderWidth floor =
        .error (.rejected (.invalidArgument .fragmentTooLarge))) :
      Opens atlas image floor dedicated
        { outcome := .error (.rejected (.invalidArgument .fragmentTooLarge)), atlas }
  | usedUp {size : Size} (sized : pageSizeFor image atlas.settings.borderWidth floor = .ok size)
      (usedUp : atlas.pagesUsedUp = true) :
      Opens atlas image floor dedicated
        { outcome := .error (.rejected .pageLimitReached)
          journal := [.refused image.size atlas.settings.pageLimit]
          atlas }
  | opened {size : Size} {page next : Page} {placement : Placement}
      (sized : pageSizeFor image atlas.settings.borderWidth floor = .ok size)
      (left : atlas.pagesUsedUp = false)
      (blank : Page.blank size atlas.settings.borderWidth dedicated = .ok page)
      (result : page.insert image = (.ok placement, next))
      (inserts : page.Inserts image placement next) :
      Opens atlas image floor dedicated
        { outcome := .ok (atlas.pageCount, placement)
          journal := [.opened atlas.pageCount size dedicated]
          atlas := { atlas with pages := atlas.pages ++ [next] } }

theorem openPage_opens {atlas : Atlas} {image : Image} (validated : image.validate = .ok ())
    {floor size : Size} (sized : pageSizeFor image atlas.settings.borderWidth floor = .ok size)
    (dedicated : Bool) :
    atlas.Opens image floor dedicated (atlas.openPage size dedicated image) := by
  simp only [openPage]
  cases usedUp : atlas.pagesUsedUp with
  | true => exact .usedUp sized usedUp
  | false =>
    have small := borderWidth_small atlas.settings
    have fits : PageSized image atlas.settings.borderWidth size := by
      rcases pageSizeFor_cases image small floor with ⟨_, sized', fits⟩ | unsized
      · cases sized.symm.trans sized'
        exact fits
      · cases sized.symm.trans unsized
    obtain ⟨page, blanked⟩ := Page.blank_of_sized fits (Image.valid_of_validate validated) dedicated
    have blank := Page.isBlank_of_blank blanked
    -- The size was made for the footprint, so the page cannot refuse the image.
    have holds : page.CanHold image.size := by
      rw [blank.page_eq]
      exact Packing.canHold_empty fits.width_le fits.height_le
    obtain ⟨placement, next, result, inserts⟩ := (blank.valid small).insert_of_canHold validated holds
    simp only [blanked, result, Bool.false_eq_true, if_false]
    exact .opened sized usedUp blanked result inserts

/-- The replies to the search for a place, if need be on a page that is opened. -/
inductive Locates (eligible : Page → Bool) (atlas : Atlas) (image : Image) (floor : Size)
    (dedicated : Bool) : Reply (Nat × Placement) → Prop
  | onPage {before after passed : List Page} {page next : Page} {placement : Placement}
      (split : atlas.pages = before ++ page :: after)
      (all : List.Forall₂ (Passed eligible image) before passed) (opened : eligible page = true)
      (result : page.insert image = (.ok placement, next))
      (inserts : page.Inserts image placement next) :
      Locates eligible atlas image floor dedicated
        { outcome := .ok (before.length, placement)
          atlas := { atlas with pages := passed ++ next :: after } }
  | elsewhere {passed : List Page} {reply : Reply (Nat × Placement)}
      (all : List.Forall₂ (Passed eligible image) atlas.pages passed)
      (opens : Opens { atlas with pages := passed } image floor dedicated reply) :
      Locates eligible atlas image floor dedicated reply

theorem insertShared_locates (eligible : Page → Bool) {image : Image}
    (validated : image.validate = .ok ()) {atlas : Atlas}
    (valid : ∀ page ∈ atlas.pages, page.Valid) :
    Locates eligible atlas image atlas.settings.pageSize false (atlas.insertShared eligible image) := by
  obtain ⟨settings, pages, fragments, registry⟩ := atlas
  have search := insertFirst_search eligible validated 0 valid
  simp only [insertShared]
  generalize insertFirst eligible image 0 pages = searched at search ⊢
  cases search with
  | here all opened result inserts =>
    rw [Nat.zero_add]
    exact .onPage rfl all opened result inserts
  | nowhere all =>
    refine .elsewhere all ?_
    dsimp only
    rcases pageSizeFor_cases image (borderWidth_small settings) settings.pageSize with
      ⟨size, sized, _⟩ | unsized
    · rw [sized]
      exact openPage_opens validated sized false
    · rw [unsized]
      exact .tooLarge unsized

/-- No page is eligible when the fragment shall have one of its own. -/
theorem insertDedicated_locates {image : Image} (validated : image.validate = .ok ())
    (atlas : Atlas) (minimum : Size) :
    Locates (fun _ => false) atlas image (atlas.settings.pageSize.max minimum) true
      (atlas.insertDedicated image minimum) := by
  refine .elsewhere (List.forall₂_same.mpr fun page _ => .skipped rfl) ?_
  simp only [insertDedicated]
  rcases pageSizeFor_cases image (borderWidth_small atlas.settings)
      (atlas.settings.pageSize.max minimum) with ⟨size, sized, _⟩ | unsized
  · rw [sized]
    exact openPage_opens validated sized true
  · rw [unsized]
    exact .tooLarge unsized

/-- There are as many pages after a search as before. -/
theorem pagesUsedUp_iff_of_passed {eligible : Page → Bool} {atlas : Atlas} {image : Image}
    {passed : List Page} (all : List.Forall₂ (Passed eligible image) atlas.pages passed) :
    pagesUsedUp { atlas with pages := passed } = true ↔
      atlas.settings.pageLimit ≠ 0 ∧ atlas.settings.pageLimit ≤ atlas.pageCount := by
  have length_eq : pageCount { atlas with pages := passed } = atlas.pageCount := all.length_eq.symm
  simp only [pagesUsedUp, Bool.and_eq_true, decide_eq_true_eq, length_eq]

theorem Locates.settings_eq {eligible : Page → Bool} {atlas : Atlas} {image : Image} {floor : Size}
    {dedicated : Bool} {reply : Reply (Nat × Placement)}
    (locates : Locates eligible atlas image floor dedicated reply) :
    reply.atlas.settings = atlas.settings := by
  cases locates with
  | onPage => rfl
  | elsewhere all opens => cases opens <;> rfl

/-- The table is left to whoever asked for the place. -/
theorem Locates.fragments_eq {eligible : Page → Bool} {atlas : Atlas} {image : Image} {floor : Size}
    {dedicated : Bool} {reply : Reply (Nat × Placement)}
    (locates : Locates eligible atlas image floor dedicated reply) :
    reply.atlas.fragments = atlas.fragments := by
  cases locates with
  | onPage => rfl
  | elsewhere all opens => cases opens <;> rfl

/-- There is one page more only where the settings left room for it and a place was found. -/
theorem Locates.pageCount_cases {eligible : Page → Bool} {atlas : Atlas} {image : Image} {floor : Size}
    {dedicated : Bool} {reply : Reply (Nat × Placement)}
    (locates : Locates eligible atlas image floor dedicated reply) :
    reply.atlas.pageCount = atlas.pageCount ∨
      (∃ place, reply.outcome = .ok place) ∧ reply.atlas.pageCount = atlas.pageCount + 1 ∧
        (atlas.settings.pageLimit = 0 ∨ atlas.pageCount < atlas.settings.pageLimit) := by
  cases locates with
  | onPage split all =>
    left
    have length_eq := all.length_eq
    simp only [pageCount, split, List.length_append, List.length_cons]
    omega
  | @elsewhere passed _ all opens =>
    have length_eq : pageCount { atlas with pages := passed } = atlas.pageCount := all.length_eq.symm
    cases opens with
    | tooLarge | usedUp => exact Or.inl length_eq
    | opened sized left =>
      have below := (pagesUsedUp_iff_of_passed all).not.mp (Bool.eq_false_iff.mp left)
      refine Or.inr ⟨⟨_, rfl⟩, ?_, by omega⟩
      simp only [pageCount, List.length_append, List.length_singleton] at length_eq ⊢
      omega

/-- A page is opened only below the limit. -/
theorem Locates.pageCount_le {eligible : Page → Bool} {atlas : Atlas} {image : Image} {floor : Size}
    {dedicated : Bool} {reply : Reply (Nat × Placement)}
    (locates : Locates eligible atlas image floor dedicated reply)
    (limited : 0 < atlas.settings.pageLimit) (few : atlas.pageCount ≤ atlas.settings.pageLimit) :
    reply.atlas.pageCount ≤ atlas.settings.pageLimit := by
  rcases locates.pageCount_cases with same | ⟨_, grown, left⟩
  · omega
  · omega

end Atlas

/-! ## Creating a fragment -/

def Placement.fragment (placement : Placement) (id : FragmentId) (page : Nat) : Fragment :=
  ⟨id, page, placement.row, placement.span, placement.rectangle⟩

namespace Allocation

/-- The pages that may take the fragment, when `eligible` ones are those to share. -/
def among (eligible : Page → Bool) : Allocation → Page → Bool
  | .shared => eligible
  | .dedicated _ => fun _ => false

/-- A page opened for the fragment is at least as large. -/
def floor (pageSize : Size) : Allocation → Size
  | .shared => pageSize
  | .dedicated minimum => pageSize.max minimum

def isDedicated : Allocation → Bool
  | .shared => false
  | .dedicated _ => true

/-- Only shared pages are eligible for a new fragment. -/
theorem shared_of_among {allocation : Allocation} {page : Page}
    (opened : allocation.among Page.isOpen page = true) : page.dedicated = false := by
  cases allocation with
  | shared =>
    simp only [among, Page.isOpen, Bool.and_eq_true, Bool.not_eq_eq_eq_not, Bool.not_true] at opened
    exact opened.1
  | dedicated minimum => cases opened

end Allocation

/-- A registry that refuses a label is as it was. -/
theorem LabelRegistry.claim_cases (registry : LabelRegistry) (id : FragmentId) (label : String) :
    (∃ fault, registry.claim id label = (.error fault, registry)) ∨
      ∃ next, registry.claim id label = (.ok (), next) := by
  simp only [LabelRegistry.claim]
  split
  · exact Or.inr ⟨_, rfl⟩
  · split
    · exact Or.inr ⟨_, rfl⟩
    · exact Or.inl ⟨_, rfl⟩

namespace Atlas

/-- The replies to a creation. -/
inductive Creates (eligible : Page → Bool) (atlas : Atlas) (id : FragmentId) (image : Image)
    (allocation : Allocation) : Reply Fragment → Prop
  | invalid {error : Error} (refused : image.validate = .error error) :
      Creates eligible atlas id image allocation { outcome := .error (.rejected error), atlas }
  | nowhere {failure : Failure} {journal : List Record} {transfers : List Transfer} {next : Atlas}
      (validated : image.validate = .ok ())
      (locates : Locates (allocation.among eligible) atlas image
        (allocation.floor atlas.settings.pageSize) allocation.isDedicated
        ⟨.error failure, journal, transfers, next⟩) :
      Creates eligible atlas id image allocation ⟨.error failure, journal, transfers, next⟩
  | placed {index : Nat} {placement : Placement} {journal : List Record} {transfers : List Transfer}
      {next : Atlas} (validated : image.validate = .ok ())
      (locates : Locates (allocation.among eligible) atlas image
        (allocation.floor atlas.settings.pageSize) allocation.isDedicated
        ⟨.ok (index, placement), journal, transfers, next⟩) :
      Creates eligible atlas id image allocation {
        outcome := .ok (placement.fragment id index)
        journal := journal ++ [.placed id index placement.rectangle]
        transfers
        atlas := { next with
          fragments := next.fragments.insert id (placement.fragment id index) } }

theorem create_creates (eligible : Page → Bool) {atlas : Atlas}
    (valid : ∀ page ∈ atlas.pages, page.Valid) (id : FragmentId) (image : Image)
    (allocation : Allocation) :
    atlas.Creates eligible id image allocation (atlas.create eligible id image allocation) := by
  simp only [create]
  cases validated : image.validate with
  | error error => exact .invalid validated
  | ok done =>
    cases allocation with
    | shared =>
      have locates := insertShared_locates eligible validated valid
      dsimp only
      generalize atlas.insertShared eligible image = reply at locates ⊢
      rcases reply with ⟨_ | ⟨index, placement⟩, journal, transfers, next⟩
      · exact .nowhere validated locates
      · exact .placed validated locates
    | dedicated minimum =>
      have locates := insertDedicated_locates validated atlas minimum
      dsimp only
      generalize atlas.insertDedicated image minimum = reply at locates ⊢
      rcases reply with ⟨_ | ⟨index, placement⟩, journal, transfers, next⟩
      · exact .nowhere validated locates
      · exact .placed validated locates

/-- A fragment that is there is returned as it is, any other is created. -/
theorem getOrCreateAmong_cases (eligible : Page → Bool) {atlas : Atlas}
    (valid : ∀ page ∈ atlas.pages, page.Valid) (id : FragmentId) (image : Image)
    (allocation : Allocation) :
    (∃ fragment, atlas.get? id = some fragment ∧
      atlas.getOrCreateAmong eligible id image allocation = { outcome := .ok fragment, atlas }) ∨
      (atlas.get? id = none ∧ atlas.Creates eligible id image allocation
        (atlas.getOrCreateAmong eligible id image allocation)) := by
  simp only [getOrCreateAmong]
  cases found : atlas.get? id with
  | some fragment => exact Or.inl ⟨fragment, rfl, rfl⟩
  | none => exact Or.inr ⟨rfl, create_creates eligible valid id image allocation⟩

/-- The registry refuses the label, or else it makes no difference to the pages. -/
theorem getOrCreateNamedAmong_cases (eligible : Page → Bool) (atlas : Atlas) (label : String)
    (image : Image) (allocation : Allocation) :
    (∃ registry fault, atlas.registry = some registry ∧
      registry.claim (.ofLabel label) label = (.error fault, registry) ∧
      atlas.getOrCreateNamedAmong eligible label image allocation =
        { outcome := .error (.fault fault), atlas }) ∨
      ((∀ registry fault, atlas.registry = some registry →
        (registry.claim (.ofLabel label) label).1 ≠ .error fault) ∧
        ∃ registry, atlas.getOrCreateNamedAmong eligible label image allocation =
          { atlas with registry }.getOrCreateAmong eligible (.ofLabel label) image allocation) := by
  obtain ⟨settings, pages, fragments, registry⟩ := atlas
  cases registry with
  | none =>
    refine Or.inr ⟨?_, none, rfl⟩
    intro registry fault registered
    cases registered
  | some registry =>
    simp only [getOrCreateNamedAmong, Option.some.injEq]
    rcases registry.claim_cases (.ofLabel label) label with ⟨fault, refused⟩ | ⟨next, claimed⟩
    · rw [refused]
      exact Or.inl ⟨registry, fault, rfl, refused, rfl⟩
    · rw [claimed]
      refine Or.inr ⟨?_, some next, rfl⟩
      rintro _ fault rfl refused
      rw [claimed] at refused
      cases refused

/-! ## Freeing a fragment -/

/-- The replies to a freeing. The fragment leaves the table also where its page is not there, or cannot give
its span back. -/
inductive Frees (atlas : Atlas) (id : FragmentId) : Reply (Option Fragment) → Prop
  | absent (absent : atlas.get? id = none) : Frees atlas id { outcome := .ok none, atlas }
  | astray {fragment : Fragment} (live : atlas.get? id = some fragment)
      (unfound : atlas.page? fragment.page = none) :
      Frees atlas id {
        outcome := .error (.fault (.noSuchPage fragment.page))
        atlas := { atlas with fragments := atlas.fragments.erase id } }
  | unheld {fragment : Fragment} {page next : Page} {fault : Fault}
      (live : atlas.get? id = some fragment) (found : atlas.page? fragment.page = some page)
      (refused : page.remove fragment.row fragment.span = (.error fault, next)) :
      Frees atlas id {
        outcome := .error (.fault fault)
        atlas := { atlas with
          fragments := atlas.fragments.erase id
          pages := atlas.pages.set fragment.page next } }
  | freed {fragment : Fragment} {page next : Page} (live : atlas.get? id = some fragment)
      (found : atlas.page? fragment.page = some page)
      (removed : page.remove fragment.row fragment.span = (.ok (), next)) :
      Frees atlas id {
        outcome := .ok (some fragment)
        journal := [.freed id fragment.page]
        atlas := { atlas with
          fragments := atlas.fragments.erase id
          pages := atlas.pages.set fragment.page next } }

theorem free_frees (atlas : Atlas) (id : FragmentId) : atlas.Frees id (atlas.free id) := by
  simp only [free]
  cases live : atlas.get? id with
  | none => exact .absent live
  | some fragment =>
    dsimp only
    cases found : atlas.page? fragment.page with
    | none => exact .astray live found
    | some page =>
      dsimp only
      split
      · rename_i refused
        exact .unheld live found refused
      · rename_i removed
        exact .freed live found removed

/-- The pages are valid, and the page of each fragment holds its place. -/
structure Ready (atlas : Atlas) : Prop where
  page_valid : ∀ page ∈ atlas.pages, page.Valid
  held : ∀ (id : FragmentId) (fragment : Fragment), atlas.get? id = some fragment →
    ∃ page, atlas.page? fragment.page = some page ∧ page.packing.Holds fragment.row fragment.span

/-- What is in the table can then be given back. -/
theorem Ready.remove_of_live {atlas : Atlas} (ready : atlas.Ready) {id : FragmentId} {fragment : Fragment}
    (live : atlas.get? id = some fragment) :
    ∃ page next, atlas.page? fragment.page = some page ∧ page ∈ atlas.pages ∧
      page.remove fragment.row fragment.span = (.ok (), next) := by
  obtain ⟨page, found, held⟩ := ready.held id fragment live
  have member := List.mem_of_getElem? found
  obtain ⟨next, removed⟩ := (ready.page_valid page member).remove_of_holds held
  exact ⟨page, next, found, member, removed⟩

/-- Of the replies to a freeing, those that are no fault. -/
theorem Ready.free_cases {atlas : Atlas} (ready : atlas.Ready) (id : FragmentId) :
    (atlas.get? id = none ∧ atlas.free id = { outcome := .ok none, atlas }) ∨
      ∃ fragment page next, atlas.get? id = some fragment ∧ atlas.page? fragment.page = some page ∧
        page.remove fragment.row fragment.span = (.ok (), next) ∧
        page.Removes fragment.row fragment.span next ∧
        atlas.free id = {
          outcome := .ok (some fragment)
          journal := [.freed id fragment.page]
          atlas := { atlas with
            fragments := atlas.fragments.erase id
            pages := atlas.pages.set fragment.page next } } := by
  simp only [free]
  cases live : atlas.get? id with
  | none => exact Or.inl ⟨rfl, rfl⟩
  | some fragment =>
    obtain ⟨page, next, found, member, removed⟩ := ready.remove_of_live live
    have removes := (ready.page_valid page member).remove_ok removed
    exact Or.inr ⟨fragment, page, next, rfl, found, removed, removes, by simp only [found, removed]⟩

end Atlas
end TextureAtlas
