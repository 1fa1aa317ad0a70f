import TextureAtlas.Proofs.Atlas.Steps

/-! # Handles stay good

Whoever holds a fragment also holds the numbers of its page and of its row. As long as the atlas is not
cleared these stay what they are: no operation moves a page or a row, or changes the size of one
(`Page.Persists`), and the table forgets a fragment only when it is freed. -/
set_option autoImplicit false

namespace TextureAtlas

theorem Packing.KeepsRows.trans {packing next last : Packing} (first : packing.KeepsRows next)
    (second : next.KeepsRows last) : packing.KeepsRows last := by
  intro index row found
  obtain ⟨row', found', y_eq, height_eq⟩ := first index row found
  obtain ⟨row'', found'', y_eq', height_eq'⟩ := second index row' found'
  exact ⟨row'', found'', y_eq'.trans y_eq, height_eq'.trans height_eq⟩

/-! ## Pages -/

namespace Page

/-- The same page later on, as far as the handles on it are concerned. -/
structure Persists (page next : Page) : Prop where
  size_eq : next.size = page.size
  dedicated_eq : next.dedicated = page.dedicated
  keepsRows : page.packing.KeepsRows next.packing

variable {page next last : Page}

theorem Persists.refl (page : Page) : page.Persists page := ⟨rfl, rfl, .refl page.packing⟩

theorem Persists.trans (first : page.Persists next) (second : next.Persists last) :
    page.Persists last where
  size_eq := second.size_eq.trans first.size_eq
  dedicated_eq := second.dedicated_eq.trans first.dedicated_eq
  keepsRows := first.keepsRows.trans second.keepsRows

theorem Fate.persists (fate : page.Fate next) (valid : page.Valid) : page.Persists next := by
  cases fate with
  | marked unmarked_eq =>
    obtain ⟨packing_eq, _, dedicated_eq, _⟩ := unmarked_eq_iff.mp unmarked_eq
    refine ⟨congrArg Packing.size packing_eq, dedicated_eq, ?_⟩
    rw [packing_eq]
    exact .refl page.packing
  | filled shared inserts =>
    refine ⟨inserts.places.size_eq, ?_, inserts.places.keepsRows⟩
    rw [inserts.next_eq]
  | emptied removed =>
    have removes := valid.remove_ok removed
    refine ⟨removes.releases.size_eq, ?_, removes.releases.keepsRows⟩
    rw [removes.next_eq]

end Page

/-! ## Atlases -/

namespace Atlas

variable {atlas : Atlas}

/-- Only being freed, or cleared with all others, takes a fragment out of the table. -/
theorem Step.get?_of_live {operation : Operation} {pages : List Page}
    {fragments : Table FragmentId Fragment} (step : atlas.Step operation pages fragments)
    (uncleared : operation ≠ .clear) {id : FragmentId} {fragment : Fragment}
    (live : atlas.get? id = some fragment) (unfreed : operation ≠ .free id) :
    fragments.get? id = some fragment := by
  cases step with
  | consulted | flushed | bitmapsDropped => exact live
  | filled request absent | opened request allocated absent =>
    rw [Table.get?_insert_of_ne]
    · exact live
    · rintro rfl
      cases absent.symm.trans live
  | freed live' =>
    rw [Table.get?_erase_of_ne]
    · exact live
    · rintro rfl
      exact unfreed rfl
  | cleared => exact absurd rfl uncleared

namespace Reachable

theorem get?_after (reachable : atlas.Reachable) {later : List Operation}
    (uncleared : .clear ∉ later) {id : FragmentId} {fragment : Fragment}
    (live : atlas.get? id = some fragment) (unfreed : .free id ∉ later) :
    (atlas.after later).get? id = some fragment := by
  induction later generalizing atlas with
  | nil => exact live
  | cons operation later ih =>
    obtain ⟨here, uncleared⟩ := List.ne_and_not_mem_of_not_mem_cons uncleared
    obtain ⟨not_freed, unfreed⟩ := List.ne_and_not_mem_of_not_mem_cons unfreed
    have next_live := (reachable.step operation).get?_of_live (Ne.symm here) live (Ne.symm not_freed)
    exact ih (reachable.after [operation]) uncleared next_live unfreed

theorem page?_after (reachable : atlas.Reachable) {later : List Operation}
    (uncleared : .clear ∉ later) {index : Nat} {page : Page} (found : atlas.page? index = some page) :
    ∃ last, (atlas.after later).page? index = some last ∧ page.Persists last := by
  induction later generalizing atlas page with
  | nil => exact ⟨page, found, .refl page⟩
  | cons operation later ih =>
    obtain ⟨here, uncleared⟩ := List.ne_and_not_mem_of_not_mem_cons uncleared
    obtain ⟨next, next_found, fate⟩ := (reachable.step operation).fate (Ne.symm here) found
    have valid := reachable.sound.page_valid page (List.mem_of_getElem? found)
    obtain ⟨last, last_found, persists⟩ := ih (reachable.after [operation]) uncleared next_found
    exact ⟨last, last_found, (fate.persists valid).trans persists⟩

theorem pageCount_le_after (reachable : atlas.Reachable) {later : List Operation}
    (uncleared : .clear ∉ later) : atlas.pageCount ≤ (atlas.after later).pageCount := by
  apply Nat.le_of_not_lt
  intro fewer
  -- The page that would be missing first has the number that is the later count.
  have found : atlas.page? (atlas.after later).pageCount =
      some atlas.pages[(atlas.after later).pageCount] := List.getElem?_eq_getElem fewer
  obtain ⟨last, last_found, _⟩ := reachable.page?_after uncleared found
  exact Nat.lt_irrefl _ (List.getElem?_eq_some_iff.mp last_found).1

end Reachable

/-- Until the atlas is cleared, a fragment that is not freed is found under its id as it was, and asking
for it again, with whatever image, changes nothing. There are never fewer pages; each keeps its number,
its size and its kind, and each of its rows keeps its number, its top and its height. -/
theorem handles_stay_good (reachable : atlas.Reachable) {later : List Operation}
    (uncleared : .clear ∉ later) :
    (∀ (id : FragmentId) (fragment : Fragment), atlas.get? id = some fragment → .free id ∉ later →
      (atlas.after later).get? id = some fragment ∧
      ∀ (image : Image) (allocation : Allocation),
        (atlas.after later).getOrCreate id image allocation =
          { outcome := .ok fragment, atlas := atlas.after later }) ∧
    (∀ before rest : List Operation, later = before ++ rest →
      (atlas.after before).pageCount ≤ (atlas.after later).pageCount) ∧
    ∀ (index : Nat) (page : Page), atlas.page? index = some page →
      ∃ page', (atlas.after later).page? index = some page' ∧ page'.size = page.size ∧
        page'.dedicated = page.dedicated ∧
        ∀ (number : Nat) (row : Row), page.rows[number]? = some row →
          ∃ row', page'.rows[number]? = some row' ∧ row'.y = row.y ∧ row'.height = row.height := by
  refine ⟨?_, ?_, ?_⟩
  · intro id fragment live unfreed
    have still := reachable.get?_after uncleared live unfreed
    refine ⟨still, fun image allocation => ?_⟩
    unfold getOrCreate getOrCreateAmong
    rw [still]
  · rintro before rest rfl
    have uncleared_rest : .clear ∉ rest := fun member => uncleared (List.mem_append_right before member)
    rw [after_append]
    exact (reachable.after before).pageCount_le_after uncleared_rest
  · intro index page found
    obtain ⟨last, last_found, persists⟩ := reachable.page?_after uncleared found
    exact ⟨last, last_found, persists.size_eq, persists.dedicated_eq, persists.keepsRows⟩

/-- The second fragment of the sample is asked for again with an image that is none, its neighbour is
freed and replaced, and a page is opened before the limit that refuses another one. -/
def busyHistory : List Operation :=
  [.getOrCreate ⟨2⟩ (.packed 0 1 #[]) .shared, .free ⟨3⟩, .getOrCreate ⟨4⟩ (.packed 1 1 #[5]) .shared,
    .getOrCreate ⟨5⟩ sampleImage (.dedicated ⟨16, 1⟩), .flush, .setPageSize ⟨3, 3⟩, .setPageLimit 2,
    .getOrCreate ⟨6⟩ sampleImage (.dedicated ⟨1, 1⟩), .dropBitmaps]

theorem handles_stay_good_sample :
    sample.Reachable ∧ Operation.clear ∉ busyHistory ∧
      sample.get? ⟨2⟩ = some secondSample ∧ (sample.after busyHistory).get? ⟨2⟩ = some secondSample ∧
      ((sample.after busyHistory).getOrCreate ⟨2⟩ (.packed 1 1 #[1]) (.dedicated ⟨4, 4⟩)).outcome =
        .ok secondSample ∧
      sample.pageCount = 1 ∧ (sample.after busyHistory).pageCount = 2 ∧
      ∃ page', (sample.after busyHistory).page? 0 = some page' ∧ page'.size = ⟨8, 4⟩ := by
  have uncleared : Operation.clear ∉ busyHistory := by simp [busyHistory]
  obtain ⟨fragments, _, pages⟩ := handles_stay_good sample_reachable uncleared
  obtain ⟨still, asked⟩ := fragments ⟨2⟩ secondSample sample_second (by simp [busyHistory])
  obtain ⟨page', found, size_eq, _⟩ := pages 0 _ (List.getElem?_eq_getElem (by decide +kernel))
  refine ⟨sample_reachable, uncleared, sample_second, still, ?_, by decide +kernel, by decide +kernel,
    page', found, ?_⟩
  · rw [asked]
  · rw [size_eq]
    decide +kernel

end Atlas
end TextureAtlas
