import TextureAtlas.Proofs.Packing.Capacity
import TextureAtlas.Proofs.Atlas.FirstFit
import TextureAtlas.Proofs.Atlas.Freeing

/-! # Freed space is used again

Where a shared page can hold an image, first fit goes no further than that page, and the limit of pages has
no say (`Reachable.getOrCreate_of_canHold`). A page that gives a fragment back can hold whatever is not
larger than the fragment, even where it was marked as exhausted, where the row is higher than the fragment,
and where the gap is joined with its neighbours (`Sound.canHold_of_removed`). So what was freed can be asked
for again at once (`freed_space_reused`). -/
set_option autoImplicit false

namespace TextureAtlas.Atlas

variable {atlas : Atlas} {id : FragmentId} {image : Image}

/-! ## Where a page can hold the image -/

/-- First fit goes no further than a shared page that can hold the image, and opens none. -/
theorem FirstFits.le_of_canHold {index holder : Nat} {placement : Placement} {pages : List Page} {page : Page}
    (fits : atlas.FirstFits image .shared index placement pages) (found : atlas.page? holder = some page)
    (shared : page.dedicated = false) (holds : page.CanHold image.size) :
    index ≤ holder ∧ pages.length = atlas.pageCount := by
  have found' : atlas.pages[holder]? = some page := found
  cases fits with
  | @onPage before after asked _ _ _ split first all =>
    constructor
    · by_contra later
      rw [split, List.getElem?_append_left (Nat.not_le.mp later)] at found'
      exact first page (List.mem_of_getElem? found') shared holds
    · rw [pageCount, split, List.length_append, List.length_append, all.length_eq]
      rfl
  | onNew _ none => exact absurd holds (none rfl page (List.mem_of_getElem? found') shared)

theorem Reachable.getOrCreate_of_canHold (reachable : atlas.Reachable) (absent : atlas.get? id = none)
    (validated : image.validate = .ok ()) {index : Nat} {page : Page}
    (found : atlas.page? index = some page) (shared : page.dedicated = false)
    (holds : page.CanHold image.size) :
    let reply := atlas.getOrCreate id image .shared
    ∃ fragment, reply.outcome = .ok fragment ∧ fragment.id = id ∧ fragment.size = image.size ∧
      fragment.page ≤ index ∧ reply.atlas.get? id = some fragment ∧
      reply.atlas.pageCount = atlas.pageCount := by
  intro reply
  have member : page ∈ atlas.pages := List.mem_of_getElem? found
  rcases getOrCreateAmong_cases Page.isOpen reachable.sound.page_valid id image .shared with
    ⟨_, live, _⟩ | ⟨_, creates⟩
  · cases live.symm.trans absent
  · have admitted := not_rulesOut_of_canHold reachable validated member holds
    have left := not_noneLeft_of_canHold member shared holds
    have verdict : atlas.Verdict id image .shared reply := creates.verdict reachable
    obtain ⟨fragment, success, id_eq, size_eq, created⟩ := verdict.exists_fragment admitted left
    change atlas.Creates Page.isOpen id image .shared reply at creates
    generalize reply = reply at creates success created ⊢
    cases creates with
    | invalid | nowhere => cases success
    | placed _ locates =>
      cases success
      obtain ⟨page_le, count_eq⟩ := (locates.firstFits reachable validated).le_of_canHold found shared holds
      exact ⟨_, rfl, id_eq, size_eq, page_le, created, count_eq⟩

/-! ## Where a fragment was -/

theorem Sound.canHold_of_removed (sound : atlas.Sound) {fragment : Fragment}
    (live : fragment ∈ atlas.live) {page next : Page} (found : atlas.page? fragment.page = some page)
    (removed : page.remove fragment.row fragment.span = (.ok (), next)) {size : Size}
    (width_le : size.width ≤ fragment.size.width) (height_le : size.height ≤ fragment.size.height) :
    next.CanHold size := by
  obtain ⟨_, row, seated, member, _⟩ := sound.uses_of_live live
  cases found.symm.trans seated.page_found
  obtain ⟨packing, released, rfl⟩ := Page.remove_eq_ok_iff.mp removed
  have border_eq : page.border = atlas.settings.borderWidth := sound.page_border page member
  have span_wide : size.width + 2 * page.border ≤ fragment.span.width := by
    rw [seated.width_eq, border_eq]
    exact Nat.add_le_add_right width_le _
  have row_high : size.height + 2 * page.border ≤ row.height := by
    rw [border_eq]
    exact Nat.le_trans (Nat.add_le_add_right height_le _) seated.height_le
  exact (sound.page_valid page member).packing_valid.canHold_of_released released seated.row_found
    span_wide row_high

/-- The page stays where it is, and can hold what is not larger than the fragment. -/
theorem Sound.page?_free (sound : atlas.Sound) {fragment : Fragment}
    (live : atlas.get? fragment.id = some fragment) {page : Page}
    (found : atlas.page? fragment.page = some page) :
    let freed := (atlas.free fragment.id).atlas
    freed.pageCount = atlas.pageCount ∧
      ∃ next, freed.page? fragment.page = some next ∧ next.dedicated = page.dedicated ∧
        ∀ size : Size, size.width ≤ fragment.size.width → size.height ≤ fragment.size.height →
          next.CanHold size := by
  intro freed
  obtain ⟨_, next, found', _, removed⟩ := sound.ready.remove_of_live live
  cases found.symm.trans found'
  have freed_eq : freed = { atlas with
      fragments := atlas.fragments.erase fragment.id
      pages := atlas.pages.set fragment.page next } := free_of_live live found removed
  have inside : fragment.page < atlas.pages.length := (List.getElem?_eq_some_iff.mp found).1
  rw [freed_eq]
  refine ⟨List.length_set, next, List.getElem?_set_self inside, ?_, ?_⟩
  · obtain ⟨packing, _, rfl⟩ := Page.remove_eq_ok_iff.mp removed
    rfl
  · intro size width_le height_le
    exact sound.canHold_of_removed ⟨fragment.id, live⟩ found removed width_le height_le

/-- Of several limits that are set one after the other, the last one counts. -/
theorem after_setPageLimit (atlas : Atlas) (limits : List Nat) :
    ∃ limit, atlas.after (limits.map .setPageLimit) = atlas.setPageLimit limit := by
  induction limits generalizing atlas with
  | nil => exact ⟨atlas.settings.pageLimit, rfl⟩
  | cons first rest ih => exact ih (atlas.setPageLimit first)

/-- Where a fragment on a shared page is freed, an image that is not larger can be placed at once, under any
id that is not there, whatever the limit of pages is or is changed to: on the page of the fragment or on one
before it, and no page is opened. -/
theorem freed_space_reused (reachable : atlas.Reachable) {fragment : Fragment}
    (live : atlas.get? fragment.id = some fragment) {page : Page}
    (found : atlas.page? fragment.page = some page) (shared : page.dedicated = false)
    (limits : List Nat) (absent : (atlas.free fragment.id).atlas.get? id = none)
    (validated : image.validate = .ok ()) (width_le : image.width ≤ fragment.size.width)
    (height_le : image.height ≤ fragment.size.height) :
    let freed := (atlas.free fragment.id).atlas.after (limits.map .setPageLimit)
    let reply := freed.getOrCreate id image .shared
    (atlas.free fragment.id).outcome = .ok (some fragment) ∧
      ∃ again, reply.outcome = .ok again ∧ again.id = id ∧ again.size = image.size ∧
        again.page ≤ fragment.page ∧ reply.atlas.get? id = some again ∧
        reply.atlas.pageCount = atlas.pageCount := by
  intro freed
  have sound := reachable.sound
  have outcome : (atlas.free fragment.id).outcome = .ok (some fragment) := by
    rw [sound.free_outcome, live]
  refine ⟨outcome, ?_⟩
  have freed_reachable : freed.Reachable := (reachable.after [.free fragment.id]).after _
  obtain ⟨count_eq, next, next_found, dedicated_eq, holds⟩ := sound.page?_free live found
  obtain ⟨limit, freed_eq⟩ := (atlas.free fragment.id).atlas.after_setPageLimit limits
  -- The limit is no part of the pages or of the table.
  rw [← count_eq]
  change freed = _ at freed_eq
  rw [freed_eq] at freed_reachable ⊢
  exact freed_reachable.getOrCreate_of_canHold absent validated next_found (dedicated_eq.trans shared)
    (holds image.size width_le height_le)

/-- Two pages that are full, and the first was found so. Its row is higher than the second fragment. -/
def stuffed : Atlas :=
  (empty ⟨⟨8, 8⟩, 0, true⟩).after
    [.getOrCreate ⟨1⟩ (.packed 1 4 #[1, 1, 1, 1]) .shared,
      .getOrCreate ⟨2⟩ (.packed 3 1 #[2, 2, 2]) .shared,
      .getOrCreate ⟨3⟩ (.packed 6 6 (Array.replicate 36 3)) .shared]

theorem stuffed_reachable : stuffed.Reachable := ⟨⟨⟨8, 8⟩, 0, true⟩, _, _, rfl, rfl⟩

/-- With a limit of one page, two are too many already, so that the image is refused. It is not once the
second fragment is freed, be it alone or after its neighbour. -/
theorem freed_space_reused_stuffed :
    let image := Image.packed 2 1 #[4, 5]
    let relieved := (stuffed.free ⟨2⟩).atlas.after [.setPageLimit 1]
    let reply := relieved.getOrCreate ⟨4⟩ image .shared
    let eased := stuffed.after [.free ⟨1⟩]
    let reply' := (eased.free ⟨2⟩).atlas.getOrCreate ⟨2⟩ image .shared
    stuffed.Reachable ∧ stuffed.pages.map Page.exhausted = [true, false] ∧
      ((stuffed.setPageLimit 1).getOrCreate ⟨4⟩ image .shared).outcome =
        .error (.rejected .pageLimitReached) ∧
      (∃ again, reply.outcome = .ok again ∧ again.size = ⟨2, 1⟩ ∧ again.page ≤ 0 ∧
        reply.atlas.pageCount = 2) ∧
      ∃ again, reply'.outcome = .ok again ∧ again.id = ⟨2⟩ ∧ again.page ≤ 0 ∧
        reply'.atlas.pageCount = 2 := by
  intro image relieved reply eased reply'
  let second : Fragment := ⟨⟨2⟩, 0, 0, ⟨3, 5⟩, ⟨4, 1, 3, 1⟩⟩
  have eased_reachable : eased.Reachable := stuffed_reachable.after _
  have validated : image.validate = .ok () := by decide
  have count : stuffed.pageCount = 2 ∧ eased.pageCount = 2 := by decide +kernel
  have live : stuffed.get? second.id = some second ∧ eased.get? second.id = some second := by
    decide +kernel
  have shared : (stuffed.page? 0).map Page.dedicated = some false ∧
      (eased.page? 0).map Page.dedicated = some false := by decide +kernel
  have absent : (stuffed.free ⟨2⟩).atlas.get? ⟨4⟩ = none ∧
      (eased.free ⟨2⟩).atlas.get? ⟨2⟩ = none := by decide +kernel
  obtain ⟨page, found, page_shared⟩ := Option.map_eq_some_iff.mp shared.1
  obtain ⟨page', found', page_shared'⟩ := Option.map_eq_some_iff.mp shared.2
  obtain ⟨_, again, success, _, size_eq, page_le, _, count_eq⟩ := freed_space_reused stuffed_reachable
    live.1 found page_shared [1] absent.1 validated (by decide) (by decide)
  obtain ⟨_, again', success', id_eq, _, page_le', _, count_eq'⟩ := freed_space_reused eased_reachable
    live.2 found' page_shared' [] absent.2 validated (by decide) (by decide)
  exact ⟨stuffed_reachable, by decide +kernel, by decide +kernel,
    ⟨again, success, size_eq, page_le, count_eq.trans count.1⟩,
    ⟨again', success', id_eq, page_le', count_eq'.trans count.2⟩⟩

end TextureAtlas.Atlas
