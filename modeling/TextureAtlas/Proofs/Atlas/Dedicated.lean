import Mathlib.Data.List.Nodup
import TextureAtlas.Proofs.Atlas.Handles
import TextureAtlas.Proofs.Page.Stacking

/-! # Dedicated pages

A page that is opened for one fragment alone has a single row, which begins with that fragment
(`Step.houses`). From then on nobody paints on it and nobody else comes to it, so until the atlas is
cleared it either holds this fragment or, after the fragment was freed, nothing at all. -/
set_option autoImplicit false

namespace TextureAtlas

namespace Page

/-! ## What happens to the page -/

/-- A dedicated page later on: it has as many rows, and every texel is as it was. -/
structure Untouched (page next : Page) : Prop where
  dedicated : next.dedicated = true
  texels_eq : next.texels = page.texels
  rowCount_eq : next.rows.length = page.rows.length

variable {page next last : Page}

theorem Untouched.trans (first : page.Untouched next) (second : next.Untouched last) :
    page.Untouched last where
  dedicated := second.dedicated
  texels_eq := second.texels_eq.trans first.texels_eq
  rowCount_eq := second.rowCount_eq.trans first.rowCount_eq

theorem rowCount_of_remove {row : Nat} {span : Span}
    (removed : page.remove row span = (.ok (), next)) : next.rows.length = page.rows.length := by
  obtain ⟨packing, released, rfl⟩ := remove_eq_ok_iff.mp removed
  have heights := congrArg List.length (Packing.heights_of_release released)
  rw [Packing.length_heights, Packing.length_heights] at heights
  exact heights

theorem Fate.untouched (fate : page.Fate next) (valid : page.Valid) (dedicated : page.dedicated = true) :
    page.Untouched next := by
  cases fate with
  | marked unmarked_eq =>
    obtain ⟨packing_eq, _, dedicated_eq, texels_eq⟩ := unmarked_eq_iff.mp unmarked_eq
    refine ⟨dedicated_eq.trans dedicated, texels_eq, ?_⟩
    unfold rows
    rw [packing_eq]
  | filled shared => cases shared.symm.trans dedicated
  | emptied removed =>
    have removes := valid.remove_ok removed
    refine ⟨?_, removes.texels_eq, rowCount_of_remove removed⟩
    rw [removes.next_eq]
    exact dedicated

end Page

namespace Atlas

variable {atlas : Atlas}

/-! ## What happens in the table -/

/-- No fragment comes to a dedicated page that is there. -/
theorem Step.get?_of_dedicated {operation : Operation} {pages : List Page}
    {fragments : Table FragmentId Fragment} (step : atlas.Step operation pages fragments)
    {index : Nat} {page : Page} (found : atlas.page? index = some page)
    (dedicated : page.dedicated = true) {id : FragmentId} {fragment : Fragment}
    (live : fragments.get? id = some fragment) (here : fragment.page = index) :
    atlas.get? id = some fragment := by
  cases step with
  | consulted | flushed | bitmapsDropped => exact live
  | filled request absent found' shared =>
    rcases (Table.get?_insert_eq_some_iff _).mp live with ⟨_, rfl⟩ | ⟨_, live⟩
    · subst here
      cases found.symm.trans found'
      cases shared.symm.trans dedicated
    · exact live
  | opened =>
    rcases (Table.get?_insert_eq_some_iff _).mp live with ⟨_, rfl⟩ | ⟨_, live⟩
    · subst here
      exact absurd (List.getElem?_eq_some_iff.mp found).1 (Nat.lt_irrefl _)
    · exact live
  | freed => exact ((Table.get?_erase_eq_some_iff _).mp live).2
  | cleared => cases live

theorem Step.get?_freed {id : FragmentId} {pages : List Page} {fragments : Table FragmentId Fragment}
    (step : atlas.Step (.free id) pages fragments) : fragments.get? id = none := by
  cases step with
  | consulted each absent => exact absent id rfl
  | filled request | opened request => cases request
  | freed => exact Table.get?_erase_self _ id

namespace Reachable

theorem untouched_next (reachable : atlas.Reachable) {operation : Operation}
    (uncleared : operation ≠ .clear) {index : Nat} {page : Page}
    (found : atlas.page? index = some page) (dedicated : page.dedicated = true) :
    ∃ next, (atlas.perform operation).atlas.page? index = some next ∧ page.Untouched next := by
  obtain ⟨next, next_found, fate⟩ := (reachable.step operation).fate uncleared found
  have valid := reachable.sound.page_valid page (List.mem_of_getElem? found)
  exact ⟨next, next_found, fate.untouched valid dedicated⟩

theorem dedicated_after (reachable : atlas.Reachable) {later : List Operation}
    (uncleared : .clear ∉ later) {index : Nat} {page : Page} (found : atlas.page? index = some page)
    (dedicated : page.dedicated = true) :
    ∃ last, (atlas.after later).page? index = some last ∧ page.Untouched last ∧
      ∀ (id : FragmentId) (fragment : Fragment), (atlas.after later).get? id = some fragment →
        fragment.page = index → atlas.get? id = some fragment := by
  induction later generalizing atlas page with
  | nil => exact ⟨page, found, ⟨dedicated, rfl, rfl⟩, fun id fragment live _ => live⟩
  | cons operation later ih =>
    obtain ⟨here, still_uncleared⟩ := List.ne_and_not_mem_of_not_mem_cons uncleared
    have step := reachable.step operation
    obtain ⟨next, next_found, untouched⟩ := reachable.untouched_next (Ne.symm here) found dedicated
    obtain ⟨last, last_found, untouched', came⟩ :=
      ih (reachable.after [operation]) still_uncleared next_found untouched.dedicated
    refine ⟨last, last_found, untouched.trans untouched', ?_⟩
    intro id fragment live on_page
    exact step.get?_of_dedicated found dedicated (came id fragment live on_page) on_page

/-- Once the only fragment is freed, there is none on the page any more. -/
theorem deserted_after (reachable : atlas.Reachable) {later : List Operation}
    (uncleared : .clear ∉ later) {index : Nat} {page : Page} (found : atlas.page? index = some page)
    (dedicated : page.dedicated = true) {id : FragmentId}
    (only : ∀ (id' : FragmentId) (other : Fragment), atlas.get? id' = some other →
      other.page = index → id' = id) (freed : .free id ∈ later) :
    ∀ (id' : FragmentId) (other : Fragment), (atlas.after later).get? id' = some other →
      other.page ≠ index := by
  induction later generalizing atlas page with
  | nil => cases freed
  | cons operation later ih =>
    obtain ⟨here, still_uncleared⟩ := List.ne_and_not_mem_of_not_mem_cons uncleared
    have step := reachable.step operation
    obtain ⟨next, next_found, untouched⟩ := reachable.untouched_next (Ne.symm here) found dedicated
    have only_next : ∀ (id' : FragmentId) (other : Fragment),
        (atlas.perform operation).atlas.get? id' = some other → other.page = index → id' = id := by
      intro id' other live on_page
      exact only id' other (step.get?_of_dedicated found dedicated live on_page) on_page
    rcases List.mem_cons.mp freed with rfl | freed_later
    · -- Whatever is on the page at the end was there right after the freeing.
      intro id' other live on_page
      obtain ⟨_, _, _, came⟩ :=
        (reachable.after [.free id]).dedicated_after still_uncleared next_found untouched.dedicated
      have live_next := came id' other live on_page
      obtain rfl := only_next id' other live_next on_page
      cases step.get?_freed.symm.trans live_next
    · exact ih (reachable.after [operation]) still_uncleared next_found untouched.dedicated only_next
        freed_later

end Reachable

/-! ## The fragment of the page -/

/-- The fragments on the page of this index. -/
def onPage (atlas : Atlas) (index : Nat) : Set Fragment := {fragment ∈ atlas.live | fragment.page = index}

/-- The page of this index houses the fragment of the id, at the left end of its only row. -/
structure Houses (atlas : Atlas) (index : Nat) (page : Page) (id : FragmentId) (fragment : Fragment) :
    Prop where
  found : atlas.page? index = some page
  dedicated : page.dedicated = true
  rowCount_eq : page.rows.length = 1
  live : atlas.get? id = some fragment
  page_eq : fragment.page = index
  x_eq : fragment.span.x = 0
  only : ∀ (id' : FragmentId) (other : Fragment), atlas.get? id' = some other →
    other.page = index → id' = id

/-- A page that is new after a request for a dedicated one houses the fragment that was asked for. -/
theorem Step.houses {operation : Operation} {next : Atlas} (sound : atlas.Sound)
    (step : atlas.Step operation next.pages next.fragments) {minimum : Size}
    (allocated : operation.allocation? = some (.dedicated minimum)) {index : Nat} {page : Page}
    (absent : atlas.page? index = none) (found : next.page? index = some page) :
    ∃ id image fragment, operation.request? = some (id, image) ∧ next.Houses index page id fragment := by
  obtain ⟨settings, pages, fragments, registry⟩ := next
  obtain ⟨rfl, opening⟩ := step.opening absent found
  cases opening with
  | @intro id image _ _ _ placement request allocated' sized isBlank inserts =>
    cases allocated.symm.trans allocated'
    obtain ⟨placement_eq, row, rows_eq⟩ := inserts.first_place isBlank
    refine ⟨id, image, placement.fragment id atlas.pageCount, request, found, ?_, ?_, ?_, rfl, ?_, ?_⟩
    · rw [inserts.next_eq, isBlank.page_eq]
      rfl
    · rw [rows_eq]
      rfl
    · exact Table.get?_insert_self _ _ _
    · rw [placement_eq]
      rfl
    · -- The others are on pages that were there before.
      intro id' other live here
      rcases (Table.get?_insert_eq_some_iff _).mp live with ⟨same, _⟩ | ⟨_, live'⟩
      · exact same
      · obtain ⟨seat, _, seated⟩ := sound.seated other ⟨id', live'⟩
        have page_found := seated.page_found
        rw [here, absent] at page_found
        cases page_found

theorem Houses.onPage_eq {index : Nat} {page : Page} {id : FragmentId} {fragment : Fragment}
    (houses : atlas.Houses index page id fragment) : atlas.onPage index = {fragment} := by
  ext other
  constructor
  · rintro ⟨⟨id', live⟩, here⟩
    obtain rfl := houses.only id' other live here
    exact Option.some.inj (live.symm.trans houses.live)
  · rintro rfl
    exact ⟨⟨id, houses.live⟩, houses.page_eq⟩

/-- The used spans of a single row are those of the fragments on its page. -/
theorem Sound.mem_used_iff (sound : atlas.Sound) {index : Nat} {page : Page} {row : Row}
    (found : atlas.page? index = some page) (single : page.rows = [row]) {span : Span} :
    span ∈ row.space.used ↔ ∃ fragment ∈ atlas.onPage index, fragment.span = span := by
  constructor
  · intro used
    have row_found : page.rows[0]? = some row := by
      rw [single]
      rfl
    have held : (index, 0, span) ∈ atlas.places := ⟨page, found, row, row_found, used⟩
    obtain ⟨fragment, live, place_eq⟩ := sound.bijOn.surjOn held
    simp only [Fragment.place, Prod.mk.injEq] at place_eq
    exact ⟨fragment, ⟨live, place_eq.1⟩, place_eq.2.2⟩
  · rintro ⟨fragment, ⟨live, rfl⟩, rfl⟩
    obtain ⟨page', row', seated, _, used⟩ := sound.uses_of_live live
    cases found.symm.trans seated.page_found
    have row_found := List.mem_of_getElem? seated.row_found
    rw [single] at row_found
    cases List.mem_singleton.mp row_found
    exact used

theorem Sound.used_eq_of_onPage_eq_empty (sound : atlas.Sound) {index : Nat} {page : Page} {row : Row}
    (found : atlas.page? index = some page) (single : page.rows = [row])
    (deserted : atlas.onPage index = ∅) : row.space.used = [] := by
  apply List.eq_nil_iff_forall_not_mem.mpr
  intro span used
  obtain ⟨fragment, on_page, _⟩ := (sound.mem_used_iff found single).mp used
  rw [deserted] at on_page
  exact on_page

theorem Sound.used_eq_of_onPage_eq_singleton (sound : atlas.Sound) {index : Nat} {page : Page} {row : Row}
    (found : atlas.page? index = some page) (single : page.rows = [row]) {fragment : Fragment}
    (alone : atlas.onPage index = {fragment}) : row.space.used = [fragment.span] := by
  have valid := (sound.page_valid page (List.mem_of_getElem? found)).packing_valid
  have member : row ∈ page.packing.rows := by
    rw [show page.packing.rows = [row] from single]
    exact List.mem_singleton_self row
  apply List.perm_singleton.mp
  apply (List.perm_ext_iff_of_nodup (valid.row_valid row member).ordered.nodup
    (List.nodup_singleton _)).mpr
  intro span
  rw [sound.mem_used_iff found single, alone, List.mem_singleton]
  constructor
  · rintro ⟨_, rfl, rfl⟩
    rfl
  · rintro rfl
    exact ⟨fragment, rfl, rfl⟩

/-- A page that is opened on a request for a dedicated one stays dedicated, with its one row and the
texels it has then, until the atlas is cleared. As long as its fragment is not freed, this is the only
fragment on the page, and its span, at the left end of the row, the only one used; afterwards there is
none, whatever else is created. -/
theorem dedicated_page_exclusive (reachable : atlas.Reachable) {operation : Operation} {minimum : Size}
    (allocated : operation.allocation? = some (.dedicated minimum)) {index : Nat} {page : Page}
    (absent : atlas.page? index = none)
    (opened : (atlas.perform operation).atlas.page? index = some page) :
    ∃ id image fragment, operation.request? = some (id, image) ∧ fragment.page = index ∧
      fragment.span.x = 0 ∧
      ∀ later : List Operation, .clear ∉ later →
        ∃ page' row, ((atlas.perform operation).atlas.after later).page? index = some page' ∧
          page'.dedicated = true ∧ page'.texels = page.texels ∧ page'.rows = [row] ∧
          (.free id ∉ later →
            ((atlas.perform operation).atlas.after later).get? id = some fragment ∧
            ((atlas.perform operation).atlas.after later).onPage index = {fragment} ∧
            row.space.used = [fragment.span]) ∧
          (.free id ∈ later →
            ((atlas.perform operation).atlas.after later).onPage index = ∅ ∧ row.space.used = []) := by
  obtain ⟨id, image, fragment, request, houses⟩ :=
    (reachable.step operation).houses reachable.sound allocated absent opened
  refine ⟨id, image, fragment, request, houses.page_eq, houses.x_eq, ?_⟩
  intro later uncleared
  have next_reachable : (atlas.perform operation).atlas.Reachable := reachable.after [operation]
  generalize (atlas.perform operation).atlas = next at houses next_reachable
  have sound := (next_reachable.after later).sound
  obtain ⟨last, found, untouched, came⟩ :=
    next_reachable.dedicated_after uncleared houses.found houses.dedicated
  obtain ⟨row, single⟩ := List.length_eq_one_iff.mp (untouched.rowCount_eq.trans houses.rowCount_eq)
  refine ⟨last, row, found, untouched.dedicated, untouched.texels_eq, single, ?_, ?_⟩
  · intro unfreed
    have live := next_reachable.get?_after uncleared houses.live unfreed
    have alone : (next.after later).onPage index = {fragment} := by
      apply Set.Subset.antisymm
      · rintro other ⟨⟨id', live'⟩, here⟩
        rw [← houses.onPage_eq]
        exact ⟨⟨id', came id' other live' here⟩, here⟩
      · rintro _ rfl
        exact ⟨⟨id, live⟩, houses.page_eq⟩
    exact ⟨live, alone, sound.used_eq_of_onPage_eq_singleton found single alone⟩
  · intro freed
    have gone := next_reachable.deserted_after uncleared houses.found houses.dedicated houses.only freed
    have deserted : (next.after later).onPage index = ∅ := by
      apply Set.eq_empty_of_forall_notMem
      rintro other ⟨⟨id', live'⟩, here⟩
      exact gone id' other live' here
    exact ⟨deserted, sound.used_eq_of_onPage_eq_empty found single deserted⟩

/-- The sample is asked for a page of its own. -/
def dedicatedRequest : Operation := .getOrCreate ⟨5⟩ sampleImage (.dedicated ⟨16, 1⟩)

/-- Next to it other fragments come and go. -/
def aroundDedicated : List Operation :=
  [.getOrCreate ⟨6⟩ (.packed 1 1 #[5]) .shared, .flush, .getOrCreate ⟨5⟩ sampleImage .shared, .free ⟨6⟩]

/-- Then its fragment is freed, and others are created, one under the same id. -/
def afterDedicated : List Operation :=
  aroundDedicated ++ [.free ⟨5⟩, .getOrCreate ⟨7⟩ sampleImage (.dedicated ⟨16, 1⟩),
    .getOrCreate ⟨5⟩ (.packed 1 1 #[4]) .shared, .dropBitmaps, .flush]

def dedicatedSample : Fragment := ⟨⟨5⟩, 1, 0, ⟨0, 4⟩, ⟨1, 1, 2, 1⟩⟩

theorem dedicated_page_exclusive_sample :
    sample.Reachable ∧ dedicatedRequest.allocation? = some (.dedicated ⟨16, 1⟩) ∧
      sample.page? 1 = none ∧ Operation.clear ∉ aroundDedicated ∧ Operation.clear ∉ afterDedicated ∧
      ∃ page, (sample.perform dedicatedRequest).atlas.page? 1 = some page ∧
        (∃ page' row,
          ((sample.perform dedicatedRequest).atlas.after aroundDedicated).page? 1 = some page' ∧
          page'.texels = page.texels ∧ page'.rows = [row] ∧ row.space.used = [⟨0, 4⟩]) ∧
        ((sample.perform dedicatedRequest).atlas.after aroundDedicated).onPage 1 = {dedicatedSample} ∧
        (∃ page' row,
          ((sample.perform dedicatedRequest).atlas.after afterDedicated).page? 1 = some page' ∧
          page'.texels = page.texels ∧ page'.rows = [row] ∧ row.space.used = []) ∧
        ((sample.perform dedicatedRequest).atlas.after afterDedicated).onPage 1 = ∅ := by
  have uncleared : Operation.clear ∉ aroundDedicated := by simp [aroundDedicated]
  have uncleared' : Operation.clear ∉ afterDedicated := by simp [afterDedicated, aroundDedicated]
  have absent : sample.page? 1 = none := by decide +kernel
  have inside : 1 < (sample.perform dedicatedRequest).atlas.pages.length := by decide +kernel
  have opened := List.getElem?_eq_getElem inside
  obtain ⟨id, image, fragment, request, _, _, lasting⟩ :=
    dedicated_page_exclusive sample_reachable rfl absent opened
  cases request
  obtain ⟨page', row, found, _, texels_eq, single, unfreed, _⟩ := lasting aroundDedicated uncleared
  obtain ⟨live, alone, used_eq⟩ := unfreed (by simp [aroundDedicated])
  have live' : ((sample.perform dedicatedRequest).atlas.after aroundDedicated).get? ⟨5⟩ =
      some dedicatedSample := by decide +kernel
  cases live.symm.trans live'
  obtain ⟨last, row', found', _, texels_eq', single', _, freed⟩ := lasting afterDedicated uncleared'
  obtain ⟨deserted, unused⟩ := freed (by simp [afterDedicated])
  exact ⟨sample_reachable, rfl, absent, uncleared, uncleared', _, opened,
    ⟨page', row, found, texels_eq, single, used_eq⟩, alone,
    ⟨last, row', found', texels_eq', single', unused⟩, deserted⟩

end Atlas
end TextureAtlas
