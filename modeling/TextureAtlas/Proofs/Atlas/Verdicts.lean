import TextureAtlas.Proofs.Atlas.Pages
import TextureAtlas.Proofs.Atlas.Sizing
import TextureAtlas.Proofs.Page.Stacking

/-! # Whether a fragment can be created

There are two reasons to refuse a fragment that is not there yet. No page could be made for it, however
many there may be (`Settings.RulesOut`); or no shared page can hold it, or it may not share, and no other
page may be opened (`Atlas.NoneLeft`). The first comes before the second, and there is no third
(`Verdict`). A refusal leaves the atlas as it was, but that the search for a place may have found out
that a page is full (`Page.FoundFull`). -/
set_option autoImplicit false

namespace TextureAtlas

/-! ## What no page can hold -/

/-- No page can be made for the fragment: the image is not valid, or the sides that are needed or asked
for are longer than those of any page. -/
def Settings.RulesOut (settings : Settings) (image : Image) (allocation : Allocation) : Prop :=
  image.validate ≠ .ok () ∨ maxPageSide < (settings.footprint image.size).width ∨
    maxPageSide < (settings.footprint image.size).height ∨
    ∃ minimum, allocation = .dedicated minimum ∧
      (maxPageSide < minimum.width ∨ maxPageSide < minimum.height)

theorem Settings.rulesOut_iff {settings : Settings} (valid : settings.validate = .ok ()) {image : Image}
    (validated : image.validate = .ok ()) (allocation : Allocation) :
    settings.RulesOut image allocation ↔
      pageSizeFor image settings.borderWidth (allocation.floor settings.pageSize) =
        .error (.rejected (.invalidArgument .fragmentTooLarge)) := by
  have within := (validate_eq_ok_iff.mp valid).2
  rw [pageSizeFor_eq_error_iff]
  rw [Size.within_iff] at within ⊢
  cases allocation with
  | shared =>
    simp only [RulesOut, Allocation.floor, Size.within_iff, validated, within, reduceCtorEq, false_and,
      exists_false, ne_eq, not_true_eq_false, false_or, or_false, and_self, and_true]
    omega
  | dedicated minimum =>
    simp only [RulesOut, Allocation.floor, Size.within_iff, Size.max, validated,
      Allocation.dedicated.injEq, exists_eq_left', ne_eq, not_true_eq_false, false_or]
    omega

theorem Settings.not_rulesOut_of_sized {settings : Settings} (valid : settings.validate = .ok ())
    {image : Image} (validated : image.validate = .ok ()) {allocation : Allocation} {size : Size}
    (sized : pageSizeFor image settings.borderWidth (allocation.floor settings.pageSize) = .ok size) :
    ¬ settings.RulesOut image allocation := by
  rw [rulesOut_iff valid validated, sized]
  exact nofun

/-! ## What a page is found to be -/

namespace Page

/-- The page is as it was, or it is a shared one that is full, and is marked so from now on. -/
inductive FoundFull : Page → Page → Prop
  | same (page : Page) : FoundFull page page
  | marked {page : Page} (shared : page.dedicated = false) (unknown : page.exhausted = false)
      (full : ∀ image : Image, image.validate = .ok () →
        { page with exhausted := true }.insert image =
          (.error (.rejected .outOfSpace), { page with exhausted := true })) :
      FoundFull page { page with exhausted := true }

end Page

namespace Passed

variable {image : Image} {page next : Page}

theorem foundFull (passed : Passed Page.isOpen image page next) (valid : page.Valid) :
    page.FoundFull next := by
  cases passed with
  | skipped closed => exact .same page
  | refused opened result refuses =>
    simp only [Page.isOpen, Bool.and_eq_true, Bool.not_eq_eq_eq_not, Bool.not_true] at opened
    obtain ⟨shared, unknown⟩ := opened
    cases refuses with
    | invalid | oversized => exact .same page
    | @noRoom full refused known =>
      cases full with
      | false =>
        rw [← unknown]
        exact .same page
      | true =>
        have honest : Page.Honest { page with exhausted := true } :=
          ⟨@Page.Valid.of_unmarked_eq page _ rfl valid, fun _ => known⟩
        exact .marked shared unknown fun image validated => honest.insert_of_exhausted rfl validated

theorem eq_of_oversized {eligible : Page → Bool} (passed : Passed eligible image page next)
    (valid : page.Valid) (validated : image.validate = .ok ())
    (large : page.size.width < image.width + 2 * page.border ∨
      page.size.height < image.height + 2 * page.border) : page = next := by
  cases passed with
  | skipped closed => rfl
  | refused opened result refuses =>
    rw [valid.insert_of_oversized validated large] at result
    exact congrArg Prod.snd result

theorem eq_of_never (passed : Passed (fun _ => false) image page next) : page = next := by
  cases passed with
  | skipped closed => rfl
  | refused opened => cases opened

end Passed

namespace Atlas

variable {atlas : Atlas} {id : FragmentId} {image : Image} {allocation : Allocation}

/-- The fragment finds no place, and no page may be opened for it. -/
def NoneLeft (atlas : Atlas) (image : Image) (allocation : Allocation) : Prop :=
  atlas.settings.pageLimit ≠ 0 ∧ atlas.settings.pageLimit ≤ atlas.pageCount ∧
    (allocation.isDedicated = true ∨
      ∀ page ∈ atlas.pages, page.dedicated = false → ¬ page.CanHold image.size)

/-- The reply to the request for a fragment that is not there, with what decides on it. -/
inductive Verdict (atlas : Atlas) (id : FragmentId) (image : Image) (allocation : Allocation) :
    Reply Fragment → Prop
  | ruledOut {cause : ArgumentError} (ruledOut : atlas.settings.RulesOut image allocation) :
      Verdict atlas id image allocation
        { outcome := .error (.rejected (.invalidArgument cause)), atlas }
  | noneLeft {pages : List Page} (admitted : ¬ atlas.settings.RulesOut image allocation)
      (noneLeft : atlas.NoneLeft image allocation)
      (found : List.Forall₂ Page.FoundFull atlas.pages pages)
      (unasked : allocation.isDedicated = true → pages = atlas.pages) :
      Verdict atlas id image allocation
        { outcome := .error (.rejected .pageLimitReached)
          journal := [.refused image.size atlas.settings.pageLimit]
          atlas := { atlas with pages } }
  | created {fragment : Fragment} {journal : List Record} {transfers : List Transfer} {next : Atlas}
      (admitted : ¬ atlas.settings.RulesOut image allocation)
      (left : ¬ atlas.NoneLeft image allocation)
      (id_eq : fragment.id = id) (size_eq : fragment.size = image.size) :
      Verdict atlas id image allocation {
        outcome := .ok fragment
        journal
        transfers
        atlas := { next with fragments := next.fragments.insert id fragment } }

section Pages

variable {pages passed : List Page}

theorem forall₂_foundFull (valid : ∀ page ∈ pages, page.Valid)
    (all : List.Forall₂ (Passed (allocation.among Page.isOpen) image) pages passed) :
    List.Forall₂ Page.FoundFull pages passed := by
  have both := (List.forall₂_and_left _ _).mpr ⟨valid, all⟩
  refine both.imp fun page next ⟨valid, passes⟩ => ?_
  cases allocation with
  | shared => exact passes.foundFull valid
  | dedicated minimum =>
    rw [passes.eq_of_never]
    exact .same next

theorem eq_of_dedicated (all : List.Forall₂ (Passed (allocation.among Page.isOpen) image) pages passed)
    (dedicated : allocation.isDedicated = true) : pages = passed := by
  cases allocation with
  | shared => cases dedicated
  | dedicated minimum =>
    rw [← List.forall₂_eq_eq_eq]
    exact all.imp fun _ _ passes => passes.eq_of_never

/-- What is too large for every page is too large for those that are there. -/
theorem eq_of_ruledOut (reachable : atlas.Reachable) (validated : image.validate = .ok ())
    (all : List.Forall₂ (Passed (allocation.among Page.isOpen) image) atlas.pages passed)
    (ruledOut : atlas.settings.RulesOut image allocation) : atlas.pages = passed := by
  by_cases dedicated : allocation.isDedicated = true
  · exact eq_of_dedicated all dedicated
  rw [← List.forall₂_eq_eq_eq]
  have both := (List.forall₂_and_left _ _).mpr ⟨fun page member => member, all⟩
  refine both.imp fun page next ⟨member, passes⟩ => ?_
  have valid := reachable.sound.page_valid page member
  have border_eq := reachable.sound.page_border page member
  have width_le := valid.packing_valid.width_le
  have height_le := valid.packing_valid.height_le
  refine passes.eq_of_oversized valid validated ?_
  rw [border_eq, Page.size]
  simp only [Settings.RulesOut, Settings.footprint, Image.size] at ruledOut
  rcases ruledOut with invalid | wide | high | ⟨minimum, rfl, _⟩
  · exact absurd validated invalid
  · exact Or.inl (by omega)
  · exact Or.inr (by omega)
  · exact absurd rfl dedicated

end Pages

/-- A page that holds the fragment is itself a page that could be made for it. -/
theorem not_rulesOut_of_canHold (reachable : atlas.Reachable) (validated : image.validate = .ok ())
    {page : Page} (member : page ∈ atlas.pages) (holds : page.CanHold image.size) :
    ¬ atlas.settings.RulesOut image .shared := by
  have valid := reachable.sound.page_valid page member
  have border_eq := reachable.sound.page_border page member
  have width_le := holds.width_le
  have height_le := holds.height_le
  rw [border_eq] at width_le height_le
  rintro (invalid | wide | high | ⟨minimum, dedicated, _⟩)
  · exact invalid validated
  · exact Nat.not_le.mpr wide (Nat.le_trans width_le valid.packing_valid.width_le)
  · exact Nat.not_le.mpr high (Nat.le_trans height_le valid.packing_valid.height_le)
  · cases dedicated

/-- Nor is there none left where a shared page holds it. -/
theorem not_noneLeft_of_canHold {page : Page} (member : page ∈ atlas.pages)
    (shared : page.dedicated = false) (holds : page.CanHold image.size) :
    ¬ atlas.NoneLeft image .shared := by
  intro ⟨_, _, cause⟩
  cases cause with
  | inl dedicated => cases dedicated
  | inr full => exact full page member shared holds

theorem Creates.verdict (reachable : atlas.Reachable) {reply : Reply Fragment}
    (creates : atlas.Creates Page.isOpen id image allocation reply) :
    atlas.Verdict id image allocation reply := by
  have settings_valid := reachable.settings_valid
  cases creates with
  | invalid refused =>
    obtain ⟨cause, rfl⟩ := Image.error_of_validate refused
    refine .ruledOut (Or.inl ?_)
    rw [refused]
    exact nofun
  | nowhere validated locates =>
    cases locates with
    | @elsewhere passed _ all opens =>
      cases opens with
      | tooLarge unsized =>
        -- The pages were searched before, but all of them are too small to learn anything from it.
        have ruledOut := (Settings.rulesOut_iff settings_valid validated allocation).mpr unsized
        obtain rfl := eq_of_ruledOut reachable validated all ruledOut
        exact .ruledOut ruledOut
      | usedUp sized usedUp =>
        obtain ⟨limited, reached⟩ := (pagesUsedUp_iff_of_passed all).mp usedUp
        refine .noneLeft (Settings.not_rulesOut_of_sized settings_valid validated sized)
          ⟨limited, reached, ?_⟩ (forall₂_foundFull reachable.sound.page_valid all)
          fun dedicated => (eq_of_dedicated all dedicated).symm
        cases allocation with
        | shared => exact Or.inr (not_canHold_of_passed reachable.honest validated all)
        | dedicated minimum => exact Or.inl rfl
  | placed validated locates =>
    cases locates with
    | @onPage before after _ page _ _ split all opened result inserts =>
      have member : page ∈ atlas.pages := by
        rw [split]
        exact List.mem_append_right _ List.mem_cons_self
      have holds := inserts.canHold (reachable.sound.page_valid page member)
      have shared := Allocation.shared_of_among opened
      cases allocation with
      | dedicated minimum => cases opened
      | shared =>
        exact .created (not_rulesOut_of_canHold reachable validated member holds)
          (not_noneLeft_of_canHold member shared holds) rfl inserts.places.rectangle_size
    | @elsewhere passed _ all opens =>
      cases opens with
      | opened sized left blank result inserts =>
        refine .created (Settings.not_rulesOut_of_sized settings_valid validated sized) ?_ rfl
          inserts.places.rectangle_size
        rintro ⟨limited, reached, _⟩
        have usedUp := (pagesUsedUp_iff_of_passed all).mpr ⟨limited, reached⟩
        cases left.symm.trans usedUp

/-- The reply to a request: the fragment that is there, or the verdict on a new one. -/
theorem Reachable.getOrCreate_cases (reachable : atlas.Reachable) (id : FragmentId) (image : Image)
    (allocation : Allocation) :
    (∃ fragment, atlas.get? id = some fragment ∧
      atlas.getOrCreate id image allocation = { outcome := .ok fragment, atlas }) ∨
      (atlas.get? id = none ∧
        atlas.Verdict id image allocation (atlas.getOrCreate id image allocation)) := by
  rcases getOrCreateAmong_cases Page.isOpen reachable.sound.page_valid id image allocation with
    live | ⟨absent, creates⟩
  · exact Or.inl live
  · exact Or.inr ⟨absent, creates.verdict reachable⟩

namespace Verdict

variable {reply : Reply Fragment} (verdict : atlas.Verdict id image allocation reply)

include verdict

theorem invalidArgument_iff :
    (∃ cause, reply.outcome = .error (.rejected (.invalidArgument cause))) ↔
      atlas.settings.RulesOut image allocation := by
  cases verdict with
  | @ruledOut cause ruledOut => exact iff_of_true ⟨cause, rfl⟩ ruledOut
  | noneLeft admitted | created admitted => exact iff_of_false nofun admitted

theorem pageLimitReached_iff :
    reply.outcome = .error (.rejected .pageLimitReached) ↔
      ¬ atlas.settings.RulesOut image allocation ∧ atlas.NoneLeft image allocation := by
  cases verdict with
  | ruledOut ruledOut => exact iff_of_false nofun fun ⟨admitted, _⟩ => admitted ruledOut
  | noneLeft admitted short => exact iff_of_true rfl ⟨admitted, short⟩
  | created admitted left => exact iff_of_false nofun fun ⟨_, short⟩ => left short

theorem exists_fragment (admitted : ¬ atlas.settings.RulesOut image allocation)
    (left : ¬ atlas.NoneLeft image allocation) :
    ∃ fragment, reply.outcome = .ok fragment ∧ fragment.id = id ∧ fragment.size = image.size ∧
      reply.atlas.get? id = some fragment := by
  cases verdict with
  | ruledOut ruledOut => exact absurd ruledOut admitted
  | noneLeft _ short => exact absurd short left
  | @created fragment _ _ _ _ _ id_eq size_eq =>
    exact ⟨fragment, rfl, id_eq, size_eq, Table.get?_insert_self _ _ _⟩

end Verdict

/-- What it takes for a page of the atlas to hold a fragment, by the rows that it has. -/
theorem Reachable.canHold_iff (reachable : atlas.Reachable) {page : Page} (member : page ∈ atlas.pages)
    (size : Size) :
    page.CanHold size ↔
      (atlas.settings.footprint size).width ≤ page.size.width ∧
      (atlas.settings.footprint size).height ≤ page.size.height ∧
      ((∃ row ∈ page.rows, (atlas.settings.footprint size).height ≤ row.height ∧
          ∃ gap ∈ row.space.free, (atlas.settings.footprint size).width ≤ gap.width) ∨
        (atlas.settings.footprint size).height ≤
          page.size.height - (page.rows.map Row.height).sum) := by
  have holds_iff := (reachable.sound.page_valid page member).canHold_iff size
  rw [reachable.sound.page_border page member] at holds_iff
  exact holds_iff

/-- A fragment that is there is returned. Any other is refused for its argument if no page could be made
for it; or else for the page limit, if it finds no place and no page may be opened; or else it is
created. What it means for a page to hold it is spelled out. -/
theorem getOrCreate_decided (reachable : atlas.Reachable) (id : FragmentId) (image : Image)
    (allocation : Allocation) :
    let reply := atlas.getOrCreate id image allocation
    let need := atlas.settings.footprint image.size
    (∀ fragment, atlas.get? id = some fragment → reply = { outcome := .ok fragment, atlas }) ∧
    (atlas.get? id = none →
      ((∃ cause, reply.outcome = .error (.rejected (.invalidArgument cause))) ↔
        atlas.settings.RulesOut image allocation) ∧
      (reply.outcome = .error (.rejected .pageLimitReached) ↔
        ¬ atlas.settings.RulesOut image allocation ∧ atlas.NoneLeft image allocation) ∧
      (¬ atlas.settings.RulesOut image allocation → ¬ atlas.NoneLeft image allocation →
        ∃ fragment, reply.outcome = .ok fragment ∧ fragment.id = id ∧ fragment.size = image.size ∧
          reply.atlas.get? id = some fragment)) ∧
    (∀ page ∈ atlas.pages, page.CanHold image.size ↔
      need.width ≤ page.size.width ∧ need.height ≤ page.size.height ∧
      ((∃ row ∈ page.rows, need.height ≤ row.height ∧ ∃ gap ∈ row.space.free, need.width ≤ gap.width) ∨
        need.height ≤ page.size.height - (page.rows.map Row.height).sum)) ∧
    reply.outcome ≠ .error (.rejected .outOfSpace) ∧
    ∀ cause, reply.outcome ≠ .error (.rejected (.invalidSettings cause)) := by
  have holds_iff : ∀ page ∈ atlas.pages, _ :=
    fun page member => reachable.canHold_iff member image.size
  dsimp only
  rcases reachable.getOrCreate_cases id image allocation with
    ⟨fragment, live, result⟩ | ⟨absent, verdict⟩
  · rw [result]
    refine ⟨?_, ?_, holds_iff, nofun, nofun⟩
    · intro other live'
      cases live.symm.trans live'
      rfl
    · intro absent
      cases live.symm.trans absent
  · generalize atlas.getOrCreate id image allocation = reply at verdict ⊢
    refine ⟨?_, fun _ => ?_, holds_iff, ?_, ?_⟩
    · intro fragment live
      cases absent.symm.trans live
    · exact ⟨verdict.invalidArgument_iff, verdict.pageLimitReached_iff, verdict.exists_fragment⟩
    · cases verdict <;> exact nofun
    · cases verdict <;> exact nofun

/-- The sample with room for one page only. -/
def limited : Atlas := sample.setPageLimit 1

theorem limited_reachable : limited.Reachable := sample_reachable.after [.setPageLimit 1]

theorem getOrCreate_decided_limited :
    limited.Reachable ∧
      limited.getOrCreate ⟨2⟩ sampleImage .shared = { outcome := .ok secondSample, atlas := limited } ∧
      (∃ cause, (limited.getOrCreate ⟨4⟩ (.packed 0 1 #[]) .shared).outcome =
        .error (.rejected (.invalidArgument cause))) ∧
      (limited.getOrCreate ⟨4⟩ sampleImage (.dedicated ⟨1, 1⟩)).outcome =
        .error (.rejected .pageLimitReached) ∧
      (sample.getOrCreate ⟨4⟩ sampleImage (.dedicated ⟨1, 1⟩)).outcome ≠
        .error (.rejected .pageLimitReached) := by
  obtain ⟨live, _⟩ := getOrCreate_decided limited_reachable ⟨2⟩ sampleImage .shared
  obtain ⟨_, empty, _⟩ := getOrCreate_decided limited_reachable ⟨4⟩ (.packed 0 1 #[]) .shared
  obtain ⟨_, alone, _⟩ := getOrCreate_decided limited_reachable ⟨4⟩ sampleImage (.dedicated ⟨1, 1⟩)
  obtain ⟨_, unlimited, _⟩ := getOrCreate_decided sample_reachable ⟨4⟩ sampleImage (.dedicated ⟨1, 1⟩)
  have admitted : ¬ limited.settings.RulesOut sampleImage (.dedicated ⟨1, 1⟩) := by
    rintro (invalid | wide | high | ⟨_, same, wide | high⟩)
    · exact invalid (by decide +kernel)
    · exact absurd wide (by decide +kernel)
    · exact absurd high (by decide +kernel)
    · cases same
      exact absurd wide (by decide)
    · cases same
      exact absurd high (by decide)
  have found : limited.get? ⟨2⟩ = some secondSample := by decide +kernel
  refine ⟨limited_reachable, live _ found, ?_, ?_, ?_⟩
  · exact (empty (by decide +kernel)).1.mpr (Or.inl (by decide +kernel))
  · have used : limited.settings.pageLimit ≠ 0 ∧ limited.settings.pageLimit ≤ limited.pageCount := by
      decide +kernel
    exact (alone (by decide +kernel)).2.1.mpr ⟨admitted, used.1, used.2, Or.inl rfl⟩
  · intro refused
    exact ((unlimited (by decide +kernel)).2.1.mp refused).2.1 (by decide +kernel)

/-- A request that is refused changes nothing, and no transfer is sent. But a shared page may have been
found full on the way, and then it is: it takes no image whatever. -/
theorem refusal_keeps_atlas (reachable : atlas.Reachable) (id : FragmentId) (image : Image)
    (allocation : Allocation) :
    let reply := atlas.getOrCreate id image allocation
    (∀ cause, reply.outcome = .error (.rejected (.invalidArgument cause)) →
      reply.atlas = atlas ∧ reply.journal = [] ∧ reply.transfers = []) ∧
    (reply.outcome = .error (.rejected .pageLimitReached) →
      reply.atlas = { atlas with pages := reply.atlas.pages } ∧ reply.transfers = [] ∧
      List.Forall₂ Page.FoundFull atlas.pages reply.atlas.pages ∧
      (allocation.isDedicated = true → reply.atlas = atlas)) := by
  dsimp only
  rcases reachable.getOrCreate_cases id image allocation with
    ⟨fragment, live, result⟩ | ⟨absent, verdict⟩
  · rw [result]
    exact ⟨nofun, nofun⟩
  · generalize atlas.getOrCreate id image allocation = reply at verdict ⊢
    cases verdict with
    | ruledOut ruledOut => exact ⟨fun _ _ => ⟨rfl, rfl, rfl⟩, nofun⟩
    | noneLeft admitted noneLeft found unasked =>
      refine ⟨nofun, fun _ => ⟨rfl, rfl, found, ?_⟩⟩
      intro dedicated
      rw [unasked dedicated]
    | created => exact ⟨nofun, nofun⟩

/-- A single page of a single texel, which is taken. Nothing has found out yet that the page is full. -/
def occupied : Atlas :=
  (empty ⟨⟨1, 1⟩, 1, false⟩).after [.getOrCreate ⟨1⟩ (.packed 1 1 #[7]) .shared]

theorem occupied_reachable : occupied.Reachable := ⟨⟨⟨1, 1⟩, 1, false⟩, _, _, rfl, rfl⟩

theorem refusal_keeps_atlas_occupied :
    let large := occupied.getOrCreate ⟨2⟩ (.packed 8193 1 (Array.replicate 8193 0)) .shared
    let small := occupied.getOrCreate ⟨2⟩ (.packed 1 1 #[8]) .shared
    occupied.Reachable ∧
      (large.outcome = .error (.rejected (.invalidArgument .fragmentTooLarge)) ∧ large.atlas = occupied) ∧
      small.outcome = .error (.rejected .pageLimitReached) ∧
      (occupied.pages.map Page.exhausted = [false] ∧ small.atlas.pages.map Page.exhausted = [true]) ∧
      small.transfers = [] ∧ List.Forall₂ Page.FoundFull occupied.pages small.atlas.pages := by
  obtain ⟨invalid, _⟩ := refusal_keeps_atlas occupied_reachable ⟨2⟩
    (.packed 8193 1 (Array.replicate 8193 0)) .shared
  obtain ⟨_, refused⟩ := refusal_keeps_atlas occupied_reachable ⟨2⟩ (.packed 1 1 #[8]) .shared
  have too_large : (occupied.getOrCreate ⟨2⟩ (.packed 8193 1 (Array.replicate 8193 0)) .shared).outcome =
      .error (.rejected (.invalidArgument .fragmentTooLarge)) := by decide +kernel
  have used_up : (occupied.getOrCreate ⟨2⟩ (.packed 1 1 #[8]) .shared).outcome =
      .error (.rejected .pageLimitReached) := by decide +kernel
  obtain ⟨_, unsent, found, _⟩ := refused used_up
  exact ⟨occupied_reachable, ⟨too_large, (invalid _ too_large).1⟩, used_up, by decide +kernel, unsent,
    found⟩

end Atlas
end TextureAtlas
