import TextureAtlas.Proofs.Atlas.Census
import TextureAtlas.Proofs.Atlas.Utilization
import TextureAtlas.Proofs.Atlas.Pages

/-! # Accounting for the taken area

What a fragment takes up is its span times the height of its row (`stripArea`). The used area of a page
is computed from the counters of its rows, without looking at the fragments; since the table and the rows
list the same places, it is what the fragments of the page take up together (`Sound.takenOn_eq`). -/
set_option autoImplicit false

namespace TextureAtlas

theorem sum_width_mul (height : Nat) (spans : List Span) :
    (spans.map fun span => span.width * height).sum = lengthSum spans * height := by
  induction spans with
  | nil => rw [lengthSum, Nat.zero_mul]; rfl
  | cons span spans ih => rw [List.map_cons, List.sum_cons, ih, lengthSum, Nat.add_mul]

namespace Packing

/-- The part of a row's strip that belongs to one of its spans. -/
def stripArea (packing : Packing) (spot : Nat × Span) : Nat :=
  (packing.rows[spot.1]?.map fun row => spot.2.width * row.height).getD 0

theorem taken_eq (packing : Packing) : packing.taken = (packing.spots.map packing.stripArea).sum := by
  refine (sum_indexed fun index row found => ?_).symm
  simp only [stripArea, found, Option.map_some, Option.getD_some]
  exact sum_width_mul row.height row.space.used

end Packing

namespace Atlas

variable {atlas : Atlas}

/-- What the fragment takes up on its page: its span times the height of its row. -/
def stripArea (atlas : Atlas) (fragment : Fragment) : Nat :=
  ((atlas.page? fragment.page).map fun page =>
    page.packing.stripArea (fragment.row, fragment.span)).getD 0

def fragmentsOn (atlas : Atlas) (index : Nat) : List Fragment :=
  atlas.fragments.values.filter fun fragment => fragment.page = index

/-- What the fragments of the page take up. -/
def takenOn (atlas : Atlas) (index : Nat) : Nat :=
  ((atlas.fragmentsOn index).map atlas.stripArea).sum

theorem mem_fragmentsOn {index : Nat} {fragment : Fragment} :
    fragment ∈ atlas.fragmentsOn index ↔ fragment ∈ atlas.live ∧ fragment.page = index := by
  rw [fragmentsOn, List.mem_filter, Table.mem_values, decide_eq_true_eq]
  rfl

theorem Seated.stripArea_eq {fragment : Fragment} {page : Page} {row : Row}
    (seated : atlas.Seated fragment page row) :
    atlas.stripArea fragment = fragment.span.width * row.height := by
  have row_found : page.packing.rows[fragment.row]? = some row := seated.row_found
  simp only [stripArea, seated.page_found, Packing.stripArea, row_found, Option.map_some,
    Option.getD_some]

namespace Sound

variable {index : Nat} {page : Page}

/-- The fragments of a page are the used spans of its rows, each once. -/
theorem spots_perm (sound : atlas.Sound) (found : atlas.page? index = some page) :
    ((atlas.fragmentsOn index).map fun fragment => (fragment.row, fragment.span)).Perm
      page.packing.spots := by
  have here : ∀ fragment ∈ atlas.fragmentsOn index,
      fragment.place = (index, fragment.row, fragment.span) := by
    intro fragment member
    rw [Fragment.place, (mem_fragmentsOn.mp member).2]
  have nodup : ((atlas.fragmentsOn index).map fun fragment =>
      (fragment.row, fragment.span)).Nodup := by
    have places : ((atlas.fragmentsOn index).map Fragment.place).Nodup :=
      sound.nodup_places.sublist (List.filter_sublist.map Fragment.place)
    rw [List.map_congr_left here] at places
    exact List.Nodup.of_map (index, ·) (by rwa [List.map_map])
  have valid := (sound.page_valid page (List.mem_of_getElem? found)).packing_valid
  refine (List.perm_ext_iff_of_nodup nodup valid.nodup_spots).mpr ?_
  rintro ⟨row, span⟩
  have found' : atlas.pages[index]? = some page := found
  have listed := sound.places_perm.mem_iff (a := (index, row, span))
  rw [spots, mem_indexed] at listed
  simp only [found', Option.some.injEq, exists_eq_left'] at listed
  rw [← listed]
  simp only [fragmentsOn, Fragment.place, List.mem_map, List.mem_filter, decide_eq_true_eq,
    Prod.mk.injEq, and_assoc]

theorem takenOn_eq (sound : atlas.Sound) (found : atlas.page? index = some page) :
    atlas.takenOn index = page.packing.taken := by
  have each : ∀ fragment ∈ atlas.fragmentsOn index, atlas.stripArea fragment =
      page.packing.stripArea (fragment.row, fragment.span) := by
    intro fragment member
    rw [stripArea, (mem_fragmentsOn.mp member).2, found]
    rfl
  have summed := ((sound.spots_perm found).map page.packing.stripArea).sum_eq
  rw [List.map_map] at summed
  rw [takenOn, List.map_congr_left each, Packing.taken_eq]
  exact summed

theorem taken_eq (sound : atlas.Sound) :
    atlas.taken = ((List.range atlas.pageCount).map atlas.takenOn).sum := by
  refine congrArg List.sum (List.ext_getElem (by simp [pageCount]) ?_)
  intro index inside _
  rw [List.length_map] at inside
  rw [List.getElem_map, List.getElem_map, List.getElem_range]
  exact (sound.takenOn_eq (List.getElem?_eq_getElem inside)).symm

end Sound

theorem takenOn_of_isEmpty (empty : atlas.isEmpty = true) (index : Nat) : atlas.takenOn index = 0 := by
  have entries_eq : atlas.fragments.entries = [] := List.isEmpty_iff.mp empty
  rw [takenOn, fragmentsOn, Table.values, entries_eq]
  rfl

theorem Reachable.area_pos (reachable : atlas.Reachable) {page : Page} (member : page ∈ atlas.pages) :
    0 < page.size.area := by
  apply (reachable.pages page member).area_pos
  rw [reachable.sound.page_border page member]
  exact borderWidth_small atlas.settings

/-- The used area of a page is what its fragments take up, and fits into it. The utilization is the exact
percentage of all that on all pages, rounded down; no sum or product on the way is out of range. -/
theorem utilization_accounts (reachable : atlas.Reachable) (few : atlas.pageCount ≤ mostPages) :
    (∀ (id : FragmentId) (fragment : Fragment), atlas.get? id = some fragment →
      ∃ page row, atlas.page? fragment.page = some page ∧ page.rows[fragment.row]? = some row ∧
        atlas.stripArea fragment = fragment.span.width * row.height) ∧
    (∀ (index : Nat) (page : Page), atlas.page? index = some page →
      page.usedArea = .ok (atlas.takenOn index) ∧ atlas.takenOn index ≤ page.size.area ∧
        0 < page.size.area) ∧
    let taken := ((List.range atlas.pageCount).map atlas.takenOn).sum
    let area := (atlas.pages.map (·.size.area)).sum
    atlas.utilization = .ok (100 * taken / area) ∧ 100 * taken / area ≤ 100 ∧
      (atlas.pageCount = 0 ∨ atlas.isEmpty = true → atlas.utilization = .ok 0) := by
  have sound := reachable.sound
  refine ⟨?_, ?_, ?_⟩
  · intro id fragment found
    obtain ⟨page, row, seated⟩ := sound.seated fragment ⟨id, found⟩
    exact ⟨page, row, seated.page_found, seated.row_found, seated.stripArea_eq⟩
  · intro index page found
    have member := List.mem_of_getElem? found
    have valid := (sound.page_valid page member).packing_valid
    rw [sound.takenOn_eq found]
    exact ⟨valid.usedArea_eq, valid.taken_le, reachable.area_pos member⟩
  · dsimp only
    obtain ⟨exact_eq, le⟩ := sound.utilization_eq few
    rw [sound.taken_eq, Nat.mul_comm, area] at exact_eq le
    refine ⟨exact_eq, le, fun vacant => ?_⟩
    have nothing : ((List.range atlas.pageCount).map atlas.takenOn).sum = 0 := by
      rcases vacant with none | empty
      · rw [none]
        rfl
      · refine List.sum_eq_zero (List.forall_mem_map.mpr ?_)
        exact fun index _ => takenOn_of_isEmpty empty index
    rw [exact_eq, nothing, Nat.mul_zero, Nat.zero_div]

/-- In the one row of the sample, three lines high, the fragments have three units and four. -/
theorem utilization_accounts_sample :
    sample.Reachable ∧ sample.pageCount ≤ mostPages ∧
      (∃ page row, sample.page? 0 = some page ∧ page.rows[0]? = some row ∧
        sample.stripArea secondSample = 4 * row.height) ∧
      (∃ page, sample.page? 0 = some page ∧ page.usedArea = .ok 21 ∧ 21 ≤ page.size.area) ∧
      sample.utilization = .ok 65 := by
  have few : sample.pageCount ≤ mostPages := by decide +kernel
  have taken : sample.takenOn 0 = 21 := by decide +kernel
  have percent : 100 * ((List.range sample.pageCount).map sample.takenOn).sum /
      (sample.pages.map (·.size.area)).sum = 65 := by decide +kernel
  obtain ⟨fragments, pages, exact_eq, _⟩ := utilization_accounts sample_reachable few
  obtain ⟨page, row, found, strip⟩ := fragments ⟨2⟩ secondSample sample_second
  obtain ⟨used, within, _⟩ := pages 0 page found
  rw [taken] at used within
  rw [percent] at exact_eq
  exact ⟨sample_reachable, few, ⟨page, row, found, strip⟩, ⟨page, found, used, within⟩, exact_eq⟩

end Atlas
end TextureAtlas
