import TextureAtlas.Proofs.Atlas.Faults

/-! # Freeing in any order

Two spans that are given back leave the row the same, whichever goes first: its state follows from its
total and its used spans, though the gaps may be joined in another way. The same then holds of a packing,
of a page and of an atlas, level by level, and for any number of fragments in any order
(`Reachable.after_free_perm`). -/
set_option autoImplicit false

namespace TextureAtlas

/-! ## Places that are given back -/

theorem RowSpace.Valid.release_comm {space nextA nextB : RowSpace} (valid : space.Valid) {a b : Span}
    (differ : a ≠ b) (released : space.release a = (.ok (), nextA))
    (released' : space.release b = (.ok (), nextB)) :
    ∃ last, nextA.release b = (.ok (), last) ∧ nextB.release a = (.ok (), last) := by
  obtain ⟨used, total_eq, used_eq, validA⟩ := valid.release_ok released
  obtain ⟨used', total_eq', used_eq', validB⟩ := valid.release_ok released'
  have still : b ∈ nextA.used := by
    rw [used_eq]
    exact (List.mem_erase_of_ne differ.symm).mpr used'
  have still' : a ∈ nextB.used := by
    rw [used_eq']
    exact (List.mem_erase_of_ne differ).mpr used
  obtain ⟨lastA, done, last_total, last_used, last_valid⟩ := validA.release_of_mem still
  obtain ⟨lastB, done', last_total', last_used', last_valid'⟩ := validB.release_of_mem still'
  -- The gaps were joined in another order, but what is left is the same.
  have same : lastA = lastB := by
    apply last_valid.ext last_valid'
    · rw [last_total, last_total', total_eq, total_eq']
    · rw [last_used, last_used', used_eq, used_eq', List.erase_comm]
  subst same
  exact ⟨lastA, done, done'⟩

theorem Packing.Valid.release_comm {packing nextA nextB : Packing} (valid : packing.Valid) {i j : Nat}
    {a b : Span} (differ : (i, a) ≠ (j, b)) (released : packing.release i a = (.ok (), nextA))
    (released' : packing.release j b = (.ok (), nextB)) :
    ∃ last, nextA.release j b = (.ok (), last) ∧ nextB.release i a = (.ok (), last) := by
  obtain ⟨row, space, found, given, rfl⟩ := release_eq_ok_iff.mp released
  obtain ⟨other, space', found', given', rfl⟩ := release_eq_ok_iff.mp released'
  simp only [release_eq_ok_iff]
  by_cases same : i = j
  · subst same
    cases found.symm.trans found'
    have spans_differ : a ≠ b := fun equal => differ (congrArg (i, ·) equal)
    have row_valid := valid.row_valid row (List.mem_of_getElem? found)
    obtain ⟨last, done, done'⟩ := row_valid.release_comm spans_differ given given'
    exact ⟨packing.withSpace i row last,
      ⟨_, last, getElem?_withSpace_self found, done, (withSpace_withSpace last).symm⟩,
      ⟨_, last, getElem?_withSpace_self found, done', (withSpace_withSpace last).symm⟩⟩
  · exact ⟨(packing.withSpace i row space).withSpace j other space',
      ⟨other, space', getElem?_withSpace_ne same found', given', rfl⟩,
      ⟨row, space, getElem?_withSpace_ne (Ne.symm same) found, given, withSpace_comm same space'⟩⟩

theorem Page.Valid.remove_comm {page nextA nextB : Page} (valid : page.Valid) {i j : Nat} {a b : Span}
    (differ : (i, a) ≠ (j, b)) (removed : page.remove i a = (.ok (), nextA))
    (removed' : page.remove j b = (.ok (), nextB)) :
    ∃ last, nextA.remove j b = (.ok (), last) ∧ nextB.remove i a = (.ok (), last) := by
  obtain ⟨_, released, rfl⟩ := remove_eq_ok_iff.mp removed
  obtain ⟨_, released', rfl⟩ := remove_eq_ok_iff.mp removed'
  obtain ⟨last, done, done'⟩ := valid.packing_valid.release_comm differ released released'
  exact ⟨{ page with packing := last, exhausted := false },
    remove_eq_ok_iff.mpr ⟨last, done, rfl⟩, remove_eq_ok_iff.mpr ⟨last, done', rfl⟩⟩

/-! ## Fragments that are freed -/

namespace Atlas

variable {atlas : Atlas} {id other : FragmentId}

theorem free_of_absent (absent : atlas.get? id = none) : (atlas.free id).atlas = atlas := by
  simp only [free, absent]

theorem free_of_live {fragment : Fragment} {page next : Page} (live : atlas.get? id = some fragment)
    (found : atlas.page? fragment.page = some page)
    (removed : page.remove fragment.row fragment.span = (.ok (), next)) :
    (atlas.free id).atlas = { atlas with
      fragments := atlas.fragments.erase id
      pages := atlas.pages.set fragment.page next } := by
  simp only [free, live, found, removed]

theorem get?_free_of_ne (differ : other ≠ id) : (atlas.free id).atlas.get? other = atlas.get? other := by
  have frees := atlas.free_frees id
  generalize atlas.free id = reply at frees ⊢
  cases frees with
  | absent => rfl
  | astray | unheld | freed => exact Table.get?_erase_of_ne _ differ

namespace Sound

/-- Of two fragments on one page, each can be freed after the other, and the page ends up the same. -/
theorem remove_comm (sound : atlas.Sound) (differ : id ≠ other) {fragment fragment' : Fragment}
    (live : atlas.get? id = some fragment) (live' : atlas.get? other = some fragment')
    (same_page : fragment.page = fragment'.page) {page next next' : Page}
    (found : atlas.page? fragment.page = some page)
    (removed : page.remove fragment.row fragment.span = (.ok (), next))
    (removed' : page.remove fragment'.row fragment'.span = (.ok (), next')) :
    ∃ last, next.remove fragment'.row fragment'.span = (.ok (), last) ∧
      next'.remove fragment.row fragment.span = (.ok (), last) := by
  have valid := sound.page_valid page (List.mem_of_getElem? found)
  have fragments_differ := sound.ne_of_ids live live' differ
  refine valid.remove_comm ?_ removed removed'
  intro same_place
  apply fragments_differ
  apply sound.bijOn.injOn ⟨id, live⟩ ⟨other, live'⟩
  simp only [Fragment.place, same_page, same_place]

theorem free_comm_of_live (sound : atlas.Sound) (differ : id ≠ other) {fragment fragment' : Fragment}
    (live : atlas.get? id = some fragment) (live' : atlas.get? other = some fragment') :
    ((atlas.free id).atlas.free other).atlas = ((atlas.free other).atlas.free id).atlas := by
  obtain ⟨page, next, found, _, removed⟩ := sound.ready.remove_of_live live
  obtain ⟨page', next', found', _, removed'⟩ := sound.ready.remove_of_live live'
  have still : (atlas.free other).atlas.get? id = some fragment := (get?_free_of_ne differ).trans live
  have still' : (atlas.free id).atlas.get? other = some fragment' :=
    (get?_free_of_ne (Ne.symm differ)).trans live'
  rw [free_of_live live found removed] at still' ⊢
  rw [free_of_live live' found' removed'] at still ⊢
  by_cases same_page : fragment.page = fragment'.page
  · cases (same_page ▸ found).symm.trans found'
    have inside := (List.getElem?_eq_some_iff.mp found).1
    obtain ⟨last, done, done'⟩ :=
      sound.remove_comm differ live live' same_page found removed removed'
    rw [free_of_live still' (same_page ▸ List.getElem?_set_self inside) done,
      free_of_live still (same_page ▸ List.getElem?_set_self inside) done']
    simp only [same_page, List.set_set, Table.erase_comm]
  · rw [free_of_live still' ((List.getElem?_set_ne same_page).trans found') removed',
      free_of_live still ((List.getElem?_set_ne (Ne.symm same_page)).trans found) removed]
    simp only [List.set_comm _ _ same_page, Table.erase_comm]

theorem free_comm (sound : atlas.Sound) (id other : FragmentId) :
    ((atlas.free id).atlas.free other).atlas = ((atlas.free other).atlas.free id).atlas := by
  by_cases same : id = other
  · rw [same]
  cases live : atlas.get? id with
  | none =>
    have still := (get?_free_of_ne same).trans live
    rw [free_of_absent live, free_of_absent still]
  | some fragment =>
    cases live' : atlas.get? other with
    | none =>
      have still := (get?_free_of_ne (Ne.symm same)).trans live'
      rw [free_of_absent live', free_of_absent still]
    | some fragment' => exact sound.free_comm_of_live same live live'

end Sound

/-! ## In any order -/

theorem Reachable.after_free_perm (reachable : atlas.Reachable) {ids order : List FragmentId}
    (perm : order.Perm ids) : atlas.after (order.map .free) = atlas.after (ids.map .free) := by
  induction perm generalizing atlas with
  | nil => rfl
  | cons id _ ih => exact ih (reachable.after [.free id])
  | swap first second rest =>
    have swapped := reachable.sound.free_comm second first
    exact congrArg (fun next : Atlas => next.after (rest.map .free)) swapped
  | trans _ _ ih ih' => exact (ih reachable).trans (ih' reachable)

theorem get?_after_free {ids : List FragmentId} (unfreed : id ∉ ids) :
    (atlas.after (ids.map .free)).get? id = atlas.get? id := by
  induction ids generalizing atlas with
  | nil => rfl
  | cons first rest ih =>
    obtain ⟨differ, later⟩ := List.ne_and_not_mem_of_not_mem_cons unfreed
    exact (ih later).trans (get?_free_of_ne differ)

/-- Fragments that are freed in whatever order, some of them perhaps not there, leave the same atlas: the
same table, and every page with the same rows, free and used spans, texels and marks. At each turn the
answer is what the table held at the start. -/
theorem frees_commute (reachable : atlas.Reachable) {ids order : List FragmentId}
    (distinct : ids.Nodup) (perm : order.Perm ids) :
    atlas.after (order.map .free) = atlas.after (ids.map .free) ∧
      ∀ before id rest, order = before ++ id :: rest →
        ((atlas.after (before.map .free)).free id).outcome = .ok (atlas.get? id) := by
  refine ⟨reachable.after_free_perm perm, ?_⟩
  rintro before id rest rfl
  have order_distinct := perm.nodup_iff.mpr distinct
  have unfreed : id ∉ before := fun member =>
    (List.nodup_append.mp order_distinct).2.2 id member id List.mem_cons_self rfl
  rw [(reachable.after _).sound.free_outcome, get?_after_free unfreed]

/-- Four neighbours in one row, and one fragment on a page of its own. -/
def neighbours : Atlas :=
  (empty ⟨⟨16, 8⟩, 0, true⟩).after
    [.getOrCreate ⟨1⟩ (.packed 1 1 #[1]) .shared, .getOrCreate ⟨2⟩ sampleImage .shared,
      .getOrCreate ⟨3⟩ (.packed 1 1 #[3]) .shared, .getOrCreate ⟨4⟩ (.packed 1 1 #[4]) .shared,
      .getOrCreate ⟨5⟩ sampleImage (.dedicated ⟨1, 1⟩)]

theorem neighbours_reachable : neighbours.Reachable := ⟨⟨⟨16, 8⟩, 0, true⟩, _, _, rfl, rfl⟩

/-- Three neighbours go, from left to right or the middle one last. One more id is not there at all. -/
theorem frees_commute_neighbours :
    let ids : List FragmentId := [⟨1⟩, ⟨2⟩, ⟨3⟩, ⟨9⟩, ⟨5⟩]
    let order : List FragmentId := [⟨5⟩, ⟨3⟩, ⟨1⟩, ⟨9⟩, ⟨2⟩]
    neighbours.Reachable ∧ ids.Nodup ∧ order.Perm ids ∧
      neighbours.after (order.map .free) = neighbours.after (ids.map .free) ∧
      ((neighbours.after ([⟨5⟩, ⟨3⟩, ⟨1⟩].map .free)).free ⟨9⟩).outcome = .ok none ∧
      ((neighbours.after ([⟨5⟩, ⟨3⟩, ⟨1⟩, ⟨9⟩].map .free)).free ⟨2⟩).outcome =
        .ok (some ⟨⟨2⟩, 0, 0, ⟨3, 4⟩, ⟨4, 1, 2, 1⟩⟩) := by
  intro ids order
  have distinct : ids.Nodup := by decide
  have perm : order.Perm ids := by decide
  obtain ⟨same, answers⟩ := frees_commute neighbours_reachable distinct perm
  have absent : neighbours.get? ⟨9⟩ = none := by decide +kernel
  have live : neighbours.get? ⟨2⟩ = some ⟨⟨2⟩, 0, 0, ⟨3, 4⟩, ⟨4, 1, 2, 1⟩⟩ := by decide +kernel
  refine ⟨neighbours_reachable, distinct, perm, same, ?_, ?_⟩
  · rw [← absent]
    exact answers [⟨5⟩, ⟨3⟩, ⟨1⟩] ⟨9⟩ [⟨2⟩] rfl
  · rw [← live]
    exact answers [⟨5⟩, ⟨3⟩, ⟨1⟩, ⟨9⟩] ⟨2⟩ [] rfl

end Atlas
end TextureAtlas
