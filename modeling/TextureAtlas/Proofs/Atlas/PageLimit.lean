import Mathlib.Data.List.Infix
import TextureAtlas.Proofs.Atlas.Handles
import TextureAtlas.Proofs.Atlas.Sizing

/-! # The limit of pages

The limit in force is the one that was set last, at first that of the settings (`pageLimit_after`). A page
is added only for a fragment that was not there and that is created on it, one page at a time, and only
while the limit in force admits one more (`AddsPage`). Nothing but a clearing takes pages away. So as long
as there is a limit, however it is moved, there are never more pages than the highest one
(`pageCount_after_le`). -/
set_option autoImplicit false

namespace TextureAtlas

theorem length_transferAll (operation : Page → Nat → Option Transfer × Page) (start : Nat)
    (pages : List Page) : (transferAll operation start pages).2.length = pages.length := by
  induction pages generalizing start with
  | nil => rfl
  | cons page pages ih => simp only [transferAll, List.length_cons, ih]

/-! ## The limit in force -/

/-- The limit that the operation sets. -/
def Operation.limit? : Operation → Option Nat
  | .setPageLimit limit => some limit
  | .getOrCreate .. | .getOrCreateNamed .. | .free _ | .clear | .flush | .dropBitmaps | .setPageSize _
  | .setRegistry _ => none

/-- The limit that the history sets last, or `initial` if it sets none. -/
def limitInForce (initial : Nat) (history : List Operation) : Nat :=
  (history.filterMap Operation.limit?).getLast?.getD initial

theorem limitInForce_cons (initial : Nat) (operation : Operation) (history : List Operation) :
    limitInForce initial (operation :: history) =
      limitInForce (operation.limit?.getD initial) history := by
  simp only [limitInForce, List.filterMap_cons]
  cases operation.limit? with
  | none => rfl
  | some limit => simp [List.getLast?_cons]

theorem Settings.changedBy_pageLimit (settings : Settings) (operation : Operation) :
    (settings.changedBy operation).pageLimit = operation.limit?.getD settings.pageLimit := by
  cases operation with
  | setPageSize size =>
    simp only [changedBy]
    cases { settings with pageSize := size }.validate <;> rfl
  | getOrCreate | getOrCreateNamed | free | clear | flush | dropBitmaps | setPageLimit | setRegistry => rfl

namespace Atlas

variable {atlas : Atlas} {operation : Operation}

theorem Reachable.pageLimit_next (reachable : atlas.Reachable) (operation : Operation) :
    (atlas.perform operation).atlas.settings.pageLimit =
      operation.limit?.getD atlas.settings.pageLimit := by
  rw [perform_settings reachable.sound.page_valid, Settings.changedBy_pageLimit]

/-- No other operation moves the limit. -/
theorem Reachable.pageLimit_after (reachable : atlas.Reachable) (history : List Operation) :
    (atlas.after history).settings.pageLimit = limitInForce atlas.settings.pageLimit history := by
  induction history generalizing atlas with
  | nil => rfl
  | cons operation history ih =>
    rw [limitInForce_cons, ← reachable.pageLimit_next operation]
    exact ih (reachable.after [operation])

/-! ## One operation -/

/-- The operation creates a fragment that was not there, on a page more than there were, and the limit
leaves room for that page. -/
structure AddsPage (atlas : Atlas) (limit : Nat) (operation : Operation) (reply : Reply Answer) :
    Prop where
  absent : ∃ id image, operation.request? = some (id, image) ∧ atlas.get? id = none
  created : ∃ fragment, reply.outcome = .ok (.fragment fragment)
  count_eq : reply.atlas.pageCount = atlas.pageCount + 1
  left : limit = 0 ∨ atlas.pageCount < limit

/-- Without a fragment that is asked for, no page comes, and only a clearing lets pages go. -/
theorem Step.length_eq {pages : List Page} {fragments : Table FragmentId Fragment}
    (step : atlas.Step operation pages fragments) (unasked : operation.request? = none)
    (uncleared : operation ≠ .clear) : pages.length = atlas.pages.length := by
  cases step with
  | consulted each => exact each.length_eq.symm
  | filled request | opened request => cases unasked.symm.trans request
  | freed => exact List.length_set
  | flushed | bitmapsDropped => exact length_transferAll _ 0 atlas.pages
  | cleared => exact absurd rfl uncleared

theorem Creates.pageCount_cases {eligible : Page → Bool} {id : FragmentId} {image : Image}
    {allocation : Allocation} {reply : Reply Fragment}
    (creates : atlas.Creates eligible id image allocation reply) :
    reply.atlas.pageCount = atlas.pageCount ∨
      (∃ fragment, reply.outcome = .ok fragment) ∧ reply.atlas.pageCount = atlas.pageCount + 1 ∧
        (atlas.settings.pageLimit = 0 ∨ atlas.pageCount < atlas.settings.pageLimit) := by
  cases creates with
  | invalid refused => exact Or.inl rfl
  | nowhere validated locates =>
    rcases locates.pageCount_cases with same | ⟨⟨_, failed⟩, _⟩
    · exact Or.inl same
    · cases failed
  | placed validated locates =>
    rcases locates.pageCount_cases with same | ⟨_, grown, left⟩
    · exact Or.inl same
    · exact Or.inr ⟨⟨_, rfl⟩, grown, left⟩

/-- The registry has no part in this, so that it may be another one by then. -/
theorem getOrCreateAmong_addsPage (valid : ∀ page ∈ atlas.pages, page.Valid) {id : FragmentId}
    {image : Image} (request : operation.request? = some (id, image)) (allocation : Allocation)
    (registry : Option LabelRegistry) :
    let reply := { atlas with registry }.getOrCreateAmong Page.isOpen id image allocation
    reply.atlas.pageCount = atlas.pageCount ∨
      atlas.AddsPage atlas.settings.pageLimit operation (reply.map .fragment) := by
  dsimp only
  rcases @getOrCreateAmong_cases Page.isOpen { atlas with registry } valid id image allocation with
    ⟨fragment, _, result⟩ | ⟨absent, creates⟩
  · rw [result]
    exact Or.inl rfl
  · rcases creates.pageCount_cases with same | ⟨⟨fragment, created⟩, grown, left⟩
    · exact Or.inl same
    · refine Or.inr ⟨⟨id, image, request, absent⟩, ⟨fragment, ?_⟩, grown, left⟩
      rw [Reply.map, created]
      rfl

theorem Reachable.pageCount_cases (reachable : atlas.Reachable) (operation : Operation) :
    operation = .clear ∨ (atlas.perform operation).atlas.pageCount = atlas.pageCount ∨
      atlas.AddsPage atlas.settings.pageLimit operation (atlas.perform operation) := by
  have valid := reachable.sound.page_valid
  have step := reachable.step operation
  cases operation with
  | getOrCreate id image allocation =>
    exact Or.inr (getOrCreateAmong_addsPage valid rfl allocation atlas.registry)
  | getOrCreateNamed label image allocation =>
    simp only [perform, performAmong]
    rcases atlas.getOrCreateNamedAmong_cases Page.isOpen label image allocation with
      ⟨_, _, _, _, result⟩ | ⟨_, registry, result⟩ <;> rw [result]
    · exact Or.inr (Or.inl rfl)
    · exact Or.inr (getOrCreateAmong_addsPage valid rfl allocation registry)
  | clear => exact Or.inl rfl
  | free _ | flush | dropBitmaps | setPageLimit _ | setPageSize _ | setRegistry _ =>
    exact Or.inr (Or.inl (step.length_eq rfl (by simp)))

/-! ## A run of operations -/

/-- Where the limit moves, the highest one counts. It must not be zero on the way, for that is none. -/
theorem Reachable.pageCount_after_le (reachable : atlas.Reachable) {most : Nat}
    (few : atlas.pageCount ≤ most) {later : List Operation}
    (limited : ∀ before, before <+: later →
      0 < limitInForce atlas.settings.pageLimit before ∧
        limitInForce atlas.settings.pageLimit before ≤ most) :
    (atlas.after later).pageCount ≤ most := by
  induction later generalizing atlas with
  | nil => exact few
  | cons operation later ih =>
    obtain ⟨positive, limit_le⟩ : 0 < atlas.settings.pageLimit ∧ atlas.settings.pageLimit ≤ most :=
      limited [] List.nil_prefix
    refine ih (reachable.after [operation]) ?_ ?_
    · rcases reachable.pageCount_cases operation with rfl | same | adds
      · exact Nat.zero_le most
      · rw [same]
        exact few
      · have left := adds.left
        rw [adds.count_eq]
        omega
    · intro before leads
      have next := limited (operation :: before) ((List.prefix_cons_inj operation).mpr leads)
      rw [limitInForce_cons, ← reachable.pageLimit_next operation] at next
      exact next

/-- The limit in force is the one set last, or else that of the settings. Only a clearing takes pages away.
One page is added where a fragment that was not there is created, and then only if there is no limit or the
pages were fewer. So as long as the limit was never lifted and never higher than `most`, there are not more
pages than that, dedicated or not. -/
theorem pages_within_limit {settings : Settings} {first : Atlas}
    (success : ofSettings settings = .ok first) (history : List Operation) :
    (first.after history).settings.pageLimit = limitInForce settings.pageLimit history ∧
    (∀ operation : Operation,
      let reply := (first.after history).perform operation
      (operation ≠ .clear → (first.after history).pageCount ≤ reply.atlas.pageCount) ∧
      ((first.after history).pageCount < reply.atlas.pageCount →
        (first.after history).AddsPage (limitInForce settings.pageLimit history) operation reply)) ∧
    ∀ most : Nat,
      (∀ before, before <+: history → 0 < limitInForce settings.pageLimit before ∧
        limitInForce settings.pageLimit before ≤ most) →
      (first.after history).pageCount ≤ most := by
  have start := reachable_of_ofSettings success
  obtain rfl := eq_empty_of_ofSettings success
  have in_force := start.pageLimit_after history
  refine ⟨in_force, ?_, fun most limited => start.pageCount_after_le (Nat.zero_le most) limited⟩
  intro operation
  dsimp only
  rcases (start.after history).pageCount_cases operation with rfl | same | adds
  · exact ⟨absurd rfl, fun more => absurd more (Nat.not_lt_zero _)⟩
  · rw [same]
    exact ⟨fun _ => Nat.le_refl _, fun more => absurd more (Nat.lt_irrefl _)⟩
  · rw [adds.count_eq]
    rw [in_force] at adds
    exact ⟨fun _ => Nat.le_succ _, fun _ => adds⟩

/-- Two pages are opened, one of them dedicated. Then the limit goes below their number and up again, and
each time a third page is refused. At last it goes higher. -/
def limitedSettings : Settings := ⟨⟨8, 4⟩, 2, true⟩

def thirdPage : Operation := .getOrCreate ⟨3⟩ sampleImage (.dedicated ⟨1, 1⟩)

def limitedHistory : List Operation :=
  [.getOrCreate ⟨1⟩ sampleImage .shared, .getOrCreate ⟨2⟩ sampleImage (.dedicated ⟨1, 1⟩),
    .setPageLimit 1, thirdPage, .setPageLimit 2, .flush, thirdPage, .free ⟨1⟩, .setPageLimit 3,
    .setPageSize ⟨4, 4⟩]

/-- The page that was refused is opened as soon as the limit admits it. -/
theorem pages_within_limit_moved :
    let first := empty limitedSettings
    let last := first.after limitedHistory
    ofSettings limitedSettings = .ok first ∧ last.settings.pageLimit = 3 ∧ last.pageCount = 2 ∧
      last.pageCount < (last.perform thirdPage).atlas.pageCount ∧
      last.AddsPage 3 thirdPage (last.perform thirdPage) ∧
      (∀ before, before <+: limitedHistory ++ [thirdPage] → 0 < limitInForce 2 before ∧
        limitInForce 2 before ≤ 3) ∧
      (first.after (limitedHistory ++ [thirdPage])).pageCount = 3 ∧
      (first.after (limitedHistory ++ [thirdPage])).pageCount ≤ 3 := by
  intro first last
  have success : ofSettings limitedSettings = .ok first := rfl
  obtain ⟨in_force, steps, _⟩ := pages_within_limit success limitedHistory
  obtain ⟨_, _, bounded⟩ := pages_within_limit success (limitedHistory ++ [thirdPage])
  have raised : limitInForce limitedSettings.pageLimit limitedHistory = 3 := by decide
  rw [raised] at in_force steps
  have more : last.pageCount < (last.perform thirdPage).atlas.pageCount := by decide +kernel
  have each : ∀ before ∈ (limitedHistory ++ [thirdPage]).inits,
      0 < limitInForce 2 before ∧ limitInForce 2 before ≤ 3 := by decide
  have limited := fun before leads => each before ((List.mem_inits before _).mpr leads)
  exact ⟨success, in_force, by decide +kernel, more, (steps _).2 more, limited, by decide +kernel,
    bounded 3 limited⟩

end Atlas
end TextureAtlas
