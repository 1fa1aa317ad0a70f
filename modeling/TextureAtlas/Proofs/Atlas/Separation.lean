import TextureAtlas.Proofs.Atlas.Ledger
import TextureAtlas.Proofs.Geometry.Overlap

/-! # Fragments keep their distance

Grown by the border, the rectangles of a sound atlas lie inside their pages, and two on the same page
have no texel in common. On each axis this is what the rows say: strips of different rows do not meet,
and neither do different spans of a row. -/
set_option autoImplicit false

namespace TextureAtlas

namespace Rectangle

/-- With a ring of this width around it, where there is room for the ring. -/
def grow (r : Rectangle) (ring : Nat) : Rectangle :=
  ⟨r.x - ring, r.y - ring, r.width + 2 * ring, r.height + 2 * ring⟩

theorem covers_grow {r : Rectangle} {ring : Nat} (left : ring ≤ r.x) (top : ring ≤ r.y) (x y : Nat) :
    (r.grow ring).Covers x y ↔ r.Surrounds ring x y := by
  simp only [Covers, grow, Surrounds]
  omega

end Rectangle

namespace Atlas

/-- The rectangle of a fragment with the border. -/
def grown (atlas : Atlas) (fragment : Fragment) : Rectangle :=
  fragment.rectangle.grow atlas.settings.borderWidth

namespace Seated

variable {atlas : Atlas} {fragment : Fragment} {page : Page} {row : Row}

theorem left_le (seated : atlas.Seated fragment page row) :
    atlas.settings.borderWidth ≤ fragment.rectangle.x := by
  rw [seated.x_eq]
  exact Nat.le_add_left _ _

theorem top_le (seated : atlas.Seated fragment page row) :
    atlas.settings.borderWidth ≤ fragment.rectangle.y := by
  rw [seated.y_eq]
  exact Nat.le_add_left _ _

/-- On the axis of the row the grown rectangle takes the span, on the other a part of the row. -/
theorem grown_eq (seated : atlas.Seated fragment page row) :
    (atlas.grown fragment).x = fragment.span.x ∧ (atlas.grown fragment).width = fragment.span.width ∧
      (atlas.grown fragment).y = row.y ∧ (atlas.grown fragment).height ≤ row.height := by
  have x_eq := seated.x_eq
  have y_eq := seated.y_eq
  refine ⟨?_, seated.width_eq.symm, ?_, seated.height_le⟩
  · simp only [grown, Rectangle.grow]
    omega
  · simp only [grown, Rectangle.grow]
    omega

end Seated

namespace Sound

variable {atlas : Atlas}

theorem grown_within (sound : atlas.Sound) {fragment : Fragment}
    (fragment_live : fragment ∈ atlas.live) :
    ∃ page, atlas.page? fragment.page = some page ∧
      atlas.settings.borderWidth ≤ fragment.rectangle.x ∧
      atlas.settings.borderWidth ≤ fragment.rectangle.y ∧
      (atlas.grown fragment).x + (atlas.grown fragment).width ≤ page.size.width ∧
      (atlas.grown fragment).y + (atlas.grown fragment).height ≤ page.size.height := by
  obtain ⟨page, row, seated, member, used⟩ := sound.uses_of_live fragment_live
  obtain ⟨right, low⟩ :=
    (sound.page_valid page member).packing_valid.within seated.row_found used
  obtain ⟨x_eq, width_eq, y_eq, height_le⟩ := seated.grown_eq
  refine ⟨page, seated.page_found, seated.left_le, seated.top_le, ?_, ?_⟩
  · rw [x_eq, width_eq]
    exact right
  · rw [y_eq]
    exact Nat.le_trans (Nat.add_le_add_left height_le _) low

theorem grown_apart (sound : atlas.Sound) {fragment other : Fragment}
    (fragment_live : fragment ∈ atlas.live) (other_live : other ∈ atlas.live)
    (differ : fragment ≠ other) (same_page : fragment.page = other.page) :
    (atlas.grown fragment).Apart (atlas.grown other) := by
  obtain ⟨page, row, seated, member, used⟩ := sound.uses_of_live fragment_live
  obtain ⟨page', row', seated', _, used'⟩ := sound.uses_of_live other_live
  have same : page = page' := by
    have found := seated.page_found
    rw [same_page, seated'.page_found] at found
    exact (Option.some.inj found).symm
  subst same
  have places_differ : (fragment.row, fragment.span) ≠ (other.row, other.span) := by
    intro same_place
    apply differ
    apply sound.bijOn.injOn fragment_live other_live
    rw [Fragment.place, Fragment.place, same_page, same_place]
  have apart := (sound.page_valid page member).packing_valid.apart seated.row_found
    seated'.row_found used used' places_differ
  obtain ⟨x_eq, width_eq, y_eq, height_le⟩ := seated.grown_eq
  obtain ⟨x_eq', width_eq', y_eq', height_le'⟩ := seated'.grown_eq
  rw [Rectangle.Apart]
  omega

end Sound

/-- Where the border of one fragment reaches, that of another does not. -/
theorem Sound.not_surrounds {atlas : Atlas} (sound : atlas.Sound) {fragment other : Fragment}
    (fragment_live : fragment ∈ atlas.live) (other_live : other ∈ atlas.live)
    (differ : fragment ≠ other) (same_page : fragment.page = other.page) {x y : Nat}
    (here : fragment.rectangle.Surrounds atlas.settings.borderWidth x y) :
    ¬ other.rectangle.Surrounds atlas.settings.borderWidth x y := by
  obtain ⟨_, _, seated, _, _⟩ := sound.uses_of_live fragment_live
  obtain ⟨_, _, seated', _, _⟩ := sound.uses_of_live other_live
  rw [← Rectangle.covers_grow seated.left_le seated.top_le] at here
  rw [← Rectangle.covers_grow seated'.left_le seated'.top_le]
  exact (sound.grown_apart fragment_live other_live differ same_page).not_covers here

/-- No two fragments of a page touch each other's texels or borders, and none reaches out of its
page. -/
theorem fragments_apart {atlas : Atlas} (reachable : atlas.Reachable) :
    (∀ (id id' : FragmentId) (fragment fragment' : Fragment),
      atlas.get? id = some fragment → atlas.get? id' = some fragment' →
      id ≠ id' → fragment.page = fragment'.page →
      (atlas.grown fragment).intersects (atlas.grown fragment') = false ∧
        (atlas.grown fragment').intersects (atlas.grown fragment) = false ∧
        ∀ x y, ¬ ((atlas.grown fragment).Covers x y ∧ (atlas.grown fragment').Covers x y)) ∧
    ∀ (id : FragmentId) (fragment : Fragment), atlas.get? id = some fragment →
      ∃ page, atlas.page? fragment.page = some page ∧
        atlas.settings.borderWidth ≤ fragment.rectangle.x ∧
        atlas.settings.borderWidth ≤ fragment.rectangle.y ∧
        (atlas.grown fragment).x + (atlas.grown fragment).width ≤ page.size.width ∧
        (atlas.grown fragment).y + (atlas.grown fragment).height ≤ page.size.height := by
  have sound := reachable.sound
  constructor
  · intro id id' fragment fragment' found found' ids_differ same_page
    have differ := sound.ne_of_ids found found' ids_differ
    have apart := sound.grown_apart ⟨id, found⟩ ⟨id', found'⟩ differ same_page
    refine ⟨apart.intersects_eq, apart.symm.intersects_eq, ?_⟩
    rintro x y ⟨here, there⟩
    exact apart.not_covers here there
  · intro id fragment found
    exact sound.grown_within ⟨id, found⟩

theorem fragments_apart_sample :
    sample.get? ⟨2⟩ = some secondSample ∧ sample.get? ⟨3⟩ = some thirdSample ∧
      ((sample.grown secondSample).intersects (sample.grown thirdSample) = false ∧
        (sample.grown thirdSample).intersects (sample.grown secondSample) = false ∧
        ∀ x y, ¬ ((sample.grown secondSample).Covers x y ∧ (sample.grown thirdSample).Covers x y)) ∧
      ∃ page, sample.page? secondSample.page = some page ∧
        sample.settings.borderWidth ≤ secondSample.rectangle.x ∧
        sample.settings.borderWidth ≤ secondSample.rectangle.y ∧
        (sample.grown secondSample).x + (sample.grown secondSample).width ≤ page.size.width ∧
        (sample.grown secondSample).y + (sample.grown secondSample).height ≤ page.size.height := by
  obtain ⟨apart, inside⟩ := fragments_apart sample_reachable
  exact ⟨sample_second, sample_third,
    apart ⟨2⟩ ⟨3⟩ secondSample thirdSample sample_second sample_third (by decide) rfl,
    inside ⟨2⟩ secondSample sample_second⟩

end Atlas
end TextureAtlas
