import TextureAtlas.Proofs.Atlas.Steps
import TextureAtlas.Proofs.Atlas.Verdicts

/-! # First fit over the pages

A fragment that may share goes to the first shared page that can hold it; that exhausted pages are not
asked makes no difference. If no page can, and for a dedicated fragment always, it comes to the top left
corner of a page that is added behind the others (`Atlas.FirstFits`). -/
set_option autoImplicit false

namespace TextureAtlas

def Fragment.placement (fragment : Fragment) : Placement :=
  ⟨fragment.row, fragment.span, fragment.rectangle⟩

namespace Atlas

variable {atlas : Atlas} {image : Image} {allocation : Allocation}

/-- The page and the place of a fragment that was not there, and the pages afterwards. The shared ones
before its own may have been found full. All others are as they were. -/
inductive FirstFits (atlas : Atlas) (image : Image) : Allocation → Nat → Placement → List Page → Prop
  | onPage {before after asked : List Page} {page next : Page} {placement : Placement}
      (split : atlas.pages = before ++ page :: after)
      (first : ∀ other ∈ before, other.dedicated = false → ¬ other.CanHold image.size)
      (found : List.Forall₂ Page.FoundFull before asked) (shared : page.dedicated = false)
      (holds : page.CanHold image.size) (result : page.insert image = (.ok placement, next)) :
      FirstFits atlas image .shared before.length placement (asked ++ next :: after)
  | onNew {allocation : Allocation} {asked : List Page} {page : Page} {border : Nat}
      (border_eq : border = atlas.settings.borderWidth)
      (none : allocation = .shared →
        ∀ other ∈ atlas.pages, other.dedicated = false → ¬ other.CanHold image.size)
      (found : List.Forall₂ Page.FoundFull atlas.pages asked)
      (unasked : allocation.isDedicated = true → asked = atlas.pages)
      (dedicated_eq : page.dedicated = allocation.isDedicated) :
      FirstFits atlas image allocation atlas.pageCount
        ⟨0, ⟨0, image.width + 2 * border⟩, ⟨border, border, image.width, image.height⟩⟩
        (asked ++ [page])

theorem Opens.firstFits (reachable : atlas.Reachable) (validated : image.validate = .ok ())
    {asked : List Page} {floor : Size} {index : Nat} {placement : Placement} {journal : List Record}
    {transfers : List Transfer} {next : Atlas}
    (all : List.Forall₂ (Passed (allocation.among Page.isOpen) image) atlas.pages asked)
    (opens : Opens { atlas with pages := asked } image floor allocation.isDedicated
      ⟨.ok (index, placement), journal, transfers, next⟩) :
    atlas.FirstFits image allocation index placement next.pages := by
  have count_eq : pageCount { atlas with pages := asked } = atlas.pageCount := all.length_eq.symm
  have found := forall₂_foundFull reachable.sound.page_valid all
  cases opens with
  | @opened size page filled _ sized left blanked result inserts =>
    have blank := Page.isBlank_of_blank blanked
    have dedicated_eq : filled.dedicated = allocation.isDedicated := by
      rw [inserts.next_eq, blank.page_eq]
    rw [count_eq, (inserts.first_place blank).1]
    refine .onNew rfl ?_ found (fun dedicated => (eq_of_dedicated all dedicated).symm) dedicated_eq
    rintro rfl
    exact not_canHold_of_passed reachable.honest validated all

theorem Locates.firstFits (reachable : atlas.Reachable) (validated : image.validate = .ok ())
    {floor : Size} {index : Nat} {placement : Placement} {journal : List Record}
    {transfers : List Transfer} {next : Atlas}
    (locates : Locates (allocation.among Page.isOpen) atlas image floor allocation.isDedicated
      ⟨.ok (index, placement), journal, transfers, next⟩) :
    atlas.FirstFits image allocation index placement next.pages := by
  cases locates with
  | elsewhere all opens => exact opens.firstFits reachable validated all
  | @onPage before after asked page filled _ split all opened result inserts =>
    have member : ∀ other ∈ before ++ page :: after, other ∈ atlas.pages := by simp [split]
    obtain ⟨before_member, rest_member⟩ := List.forall_mem_append.mp member
    obtain ⟨page_member, _⟩ := List.forall_mem_cons.mp rest_member
    have honest := fun other inside => reachable.honest other (before_member other inside)
    have holds := inserts.canHold (reachable.honest page page_member).valid
    have shared := Allocation.shared_of_among opened
    have found := forall₂_foundFull (fun other inside => (honest other inside).valid) all
    cases allocation with
    | shared => exact .onPage split (not_canHold_of_passed honest validated all) found shared holds result
    | dedicated minimum => cases opened

/-- A fragment that was not there, once it is created, is the first fit. What it means for a page to hold
it is spelled out. -/
theorem getOrCreate_firstFits (reachable : atlas.Reachable) {id : FragmentId} {fragment : Fragment}
    (absent : atlas.get? id = none)
    (success : (atlas.getOrCreate id image allocation).outcome = .ok fragment) :
    fragment.id = id ∧
    atlas.FirstFits image allocation fragment.page fragment.placement
      (atlas.getOrCreate id image allocation).atlas.pages ∧
    ∀ page ∈ atlas.pages, page.CanHold image.size ↔
      image.width + 2 * page.border ≤ page.size.width ∧
      image.height + 2 * page.border ≤ page.size.height ∧
      ((∃ row ∈ page.rows, image.height + 2 * page.border ≤ row.height ∧
          ∃ gap ∈ row.space.free, image.width + 2 * page.border ≤ gap.width) ∨
        image.height + 2 * page.border ≤ page.size.height - (page.rows.map Row.height).sum) := by
  rw [← and_assoc]
  refine ⟨?_, fun page member => (reachable.sound.page_valid page member).canHold_iff image.size⟩
  rcases getOrCreateAmong_cases Page.isOpen reachable.sound.page_valid id image allocation with
    ⟨_, live, _⟩ | ⟨_, creates⟩
  · cases live.symm.trans absent
  · rw [getOrCreate] at success ⊢
    generalize atlas.getOrCreateAmong Page.isOpen id image allocation = reply at creates success ⊢
    cases creates with
    | invalid | nowhere => cases success
    | @placed index placement journal transfers next validated locates =>
      cases success
      exact ⟨rfl, locates.firstFits reachable validated⟩

/-- A dedicated page, a shared one that is full again without being marked so, and one with a gap. -/
def scattered : Atlas :=
  (empty ⟨⟨2, 1⟩, 0, false⟩).after
    [.getOrCreate ⟨1⟩ (.packed 1 1 #[1]) (.dedicated ⟨1, 1⟩),
      .getOrCreate ⟨2⟩ (.packed 2 1 #[2, 2]) .shared, .getOrCreate ⟨3⟩ (.packed 1 1 #[3]) .shared,
      .free ⟨2⟩, .getOrCreate ⟨4⟩ (.packed 2 1 #[4, 4]) .shared]

theorem scattered_reachable : scattered.Reachable := ⟨⟨⟨2, 1⟩, 0, false⟩, _, _, rfl, rfl⟩

theorem getOrCreate_firstFits_scattered :
    let shared := scattered.getOrCreate ⟨5⟩ (.packed 1 1 #[5]) .shared
    let alone := scattered.getOrCreate ⟨5⟩ (.packed 1 1 #[5]) (.dedicated ⟨1, 1⟩)
    scattered.Reachable ∧ scattered.get? ⟨5⟩ = none ∧
      scattered.pages.map Page.dedicated = [true, false, false] ∧
      (scattered.pages.map Page.exhausted = [false, false, false] ∧
        shared.atlas.pages.map Page.exhausted = [false, true, false]) ∧
      shared.outcome = .ok ⟨⟨5⟩, 2, 0, ⟨1, 1⟩, ⟨1, 0, 1, 1⟩⟩ ∧
      scattered.FirstFits (.packed 1 1 #[5]) .shared 2 ⟨0, ⟨1, 1⟩, ⟨1, 0, 1, 1⟩⟩ shared.atlas.pages ∧
      alone.outcome = .ok ⟨⟨5⟩, 3, 0, ⟨0, 1⟩, ⟨0, 0, 1, 1⟩⟩ ∧
      scattered.FirstFits (.packed 1 1 #[5]) (.dedicated ⟨1, 1⟩) 3 ⟨0, ⟨0, 1⟩, ⟨0, 0, 1, 1⟩⟩
        alone.atlas.pages := by
  have absent : scattered.get? ⟨5⟩ = none := by decide +kernel
  have second_gap : (scattered.getOrCreate ⟨5⟩ (.packed 1 1 #[5]) .shared).outcome =
      .ok ⟨⟨5⟩, 2, 0, ⟨1, 1⟩, ⟨1, 0, 1, 1⟩⟩ := by decide +kernel
  have new_page : (scattered.getOrCreate ⟨5⟩ (.packed 1 1 #[5]) (.dedicated ⟨1, 1⟩)).outcome =
      .ok ⟨⟨5⟩, 3, 0, ⟨0, 1⟩, ⟨0, 0, 1, 1⟩⟩ := by decide +kernel
  obtain ⟨_, shared_fits, _⟩ := getOrCreate_firstFits scattered_reachable absent second_gap
  obtain ⟨_, alone_fits, _⟩ := getOrCreate_firstFits scattered_reachable absent new_page
  exact ⟨scattered_reachable, absent, by decide +kernel, by decide +kernel, second_gap, shared_fits,
    new_page, alone_fits⟩

end Atlas
end TextureAtlas
