import TextureAtlas.Proofs.Atlas.Ledger

/-! # The pages of an atlas

The atlas does nothing to its pages but open, fill and empty them, flush them and drop their bitmaps, so
each page of a reachable atlas is a reachable page (`Reachable.pages`). What holds of the life of a
page therefore holds on every page of every atlas. -/
set_option autoImplicit false

namespace TextureAtlas

/-! ## What every page keeps -/

section Keeps

variable {holds : Page → Prop} {eligible : Page → Bool} {image : Image}
  (inserted : ∀ page, holds page → holds (page.insert image).2)

include inserted

theorem forall_passed {pages passed : List Page}
    (all : List.Forall₂ (Passed eligible image) pages passed) (held : ∀ page ∈ pages, holds page) :
    ∀ page ∈ passed, holds page := by
  induction all with
  | nil => exact held
  | @cons first next _ _ passes _ ih =>
    obtain ⟨first_held, rest_held⟩ := List.forall_mem_cons.mp held
    refine List.forall_mem_cons.mpr ⟨?_, ih rest_held⟩
    cases passes with
    | skipped closed => exact first_held
    | refused opened result refuses =>
      have next_held := inserted first first_held
      rwa [result] at next_held

variable {atlas : Atlas}

theorem Atlas.Opens.forall_pages {floor : Size} {dedicated : Bool} {reply : Reply (Nat × Placement)}
    (blank : ∀ size page, pageSizeFor image atlas.settings.borderWidth floor = .ok size →
      Page.blank size atlas.settings.borderWidth dedicated = .ok page → holds page)
    (opens : atlas.Opens image floor dedicated reply) (held : ∀ page ∈ atlas.pages, holds page) :
    ∀ page ∈ reply.atlas.pages, holds page := by
  cases opens with
  | tooLarge | usedUp => exact held
  | opened sized left blanked result inserts =>
    have next_held := inserted _ (blank _ _ sized blanked)
    rw [result] at next_held
    exact List.forall_mem_append.mpr ⟨held, List.forall_mem_singleton.mpr next_held⟩

theorem Atlas.Locates.forall_pages {floor : Size} {dedicated : Bool} {reply : Reply (Nat × Placement)}
    (blank : ∀ size page, pageSizeFor image atlas.settings.borderWidth floor = .ok size →
      Page.blank size atlas.settings.borderWidth dedicated = .ok page → holds page)
    (locates : Locates eligible atlas image floor dedicated reply)
    (held : ∀ page ∈ atlas.pages, holds page) : ∀ page ∈ reply.atlas.pages, holds page := by
  cases locates with
  | onPage split all opened result inserts =>
    rw [split] at held
    obtain ⟨before_held, rest_held⟩ := List.forall_mem_append.mp held
    obtain ⟨page_held, after_held⟩ := List.forall_mem_cons.mp rest_held
    have next_held := inserted _ page_held
    rw [result] at next_held
    exact List.forall_mem_append.mpr
      ⟨forall_passed inserted all before_held, List.forall_mem_cons.mpr ⟨next_held, after_held⟩⟩
  | elsewhere all opens =>
    refine opens.forall_pages inserted ?_ (forall_passed inserted all held)
    exact blank

/-- What a blank page has, and a page keeps when an image is inserted, the pages keep in a creation. -/
theorem Atlas.getOrCreateAmong_forall_pages (valid : ∀ page ∈ atlas.pages, page.Valid)
    (id : FragmentId) (allocation : Allocation)
    (blank : ∀ size page, pageSizeFor image atlas.settings.borderWidth
        (allocation.floor atlas.settings.pageSize) = .ok size →
      Page.blank size atlas.settings.borderWidth allocation.isDedicated = .ok page → holds page)
    (held : ∀ page ∈ atlas.pages, holds page) :
    ∀ page ∈ (atlas.getOrCreateAmong eligible id image allocation).atlas.pages, holds page := by
  rcases getOrCreateAmong_cases eligible valid id image allocation with
    ⟨fragment, _, result⟩ | ⟨_, creates⟩
  · rw [result]
    exact held
  · generalize atlas.getOrCreateAmong eligible id image allocation = reply at creates ⊢
    cases creates with
    | invalid refused => exact held
    | nowhere validated locates | placed validated locates =>
      exact locates.forall_pages inserted blank held

end Keeps

namespace Atlas

variable {atlas : Atlas}

/-- A fragment that is freed is taken out of its page, and no other page changes. -/
theorem free_forall_pages {holds : Page → Prop}
    (removed : ∀ page row span, holds page → holds (page.remove row span).2)
    (id : FragmentId) (held : ∀ page ∈ atlas.pages, holds page) :
    ∀ page ∈ (atlas.free id).atlas.pages, holds page := by
  have frees := atlas.free_frees id
  generalize atlas.free id = reply at frees ⊢
  cases frees with
  | absent | astray => exact held
  | @unheld fragment _ _ _ live found result | @freed fragment _ _ live found result =>
    have next_held := removed _ fragment.row fragment.span (held _ (List.mem_of_getElem? found))
    rw [result] at next_held
    exact Sound.set_pages held next_held

/-! ## Reachable pages -/

theorem transferAll_reachable {operation : Page → Nat → Option Transfer × Page}
    (keeps : ∀ (page : Page) (index : Nat), page.Reachable → (operation page index).2.Reachable)
    (start : Nat) {pages : List Page} (reachable : ∀ page ∈ pages, page.Reachable) :
    ∀ page ∈ (transferAll operation start pages).2, page.Reachable := by
  induction pages generalizing start with
  | nil => exact reachable
  | cons first rest ih =>
    obtain ⟨first_reachable, rest_reachable⟩ := List.forall_mem_cons.mp reachable
    exact List.forall_mem_cons.mpr ⟨keeps first start first_reachable, ih (start + 1) rest_reachable⟩

theorem getOrCreateAmong_reachable (eligible : Page → Bool) (valid : ∀ page ∈ atlas.pages, page.Valid)
    (id : FragmentId) (image : Image) (allocation : Allocation)
    (reachable : ∀ page ∈ atlas.pages, page.Reachable) :
    ∀ page ∈ (atlas.getOrCreateAmong eligible id image allocation).atlas.pages, page.Reachable :=
  getOrCreateAmong_forall_pages (fun _ held => held.insert image) valid id allocation
    (fun _ _ _ blanked => .blank blanked) reachable

/-- Every operation leaves reachable pages, whatever its outcome. -/
theorem performAmong_reachable (eligible : Page → Bool) (valid : ∀ page ∈ atlas.pages, page.Valid)
    (operation : Operation) (reachable : ∀ page ∈ atlas.pages, page.Reachable) :
    ∀ page ∈ (atlas.performAmong eligible operation).atlas.pages, page.Reachable := by
  cases operation with
  | getOrCreate id image allocation =>
    exact getOrCreateAmong_reachable eligible valid id image allocation reachable
  | getOrCreateNamed label image allocation =>
    simp only [performAmong, Reply.map]
    rcases atlas.getOrCreateNamedAmong_cases eligible label image allocation with
      ⟨_, _, _, _, result⟩ | ⟨_, registry, result⟩ <;> rw [result]
    · exact reachable
    · exact @getOrCreateAmong_reachable { atlas with registry } eligible valid _ image allocation
        reachable
  | free id => exact free_forall_pages (fun _ row span held => held.remove row span) id reachable
  | clear => exact List.forall_mem_nil _
  | flush =>
    simp only [performAmong, Reply.map, flush_eq]
    exact transferAll_reachable (fun _ index held => held.flush index) 0 reachable
  | dropBitmaps => exact transferAll_reachable (fun _ index held => held.dropBitmap index) 0 reachable
  | setPageLimit limit => exact reachable
  | setPageSize size =>
    obtain ⟨_, settings, _, result⟩ := performAmong_setPageSize eligible atlas size
    rw [result]
    exact reachable
  | setRegistry registry => exact reachable

theorem Reachable.pages {atlas : Atlas} (reachable : atlas.Reachable) :
    ∀ page ∈ atlas.pages, page.Reachable := by
  obtain ⟨settings, first, history, success, rfl⟩ := reachable
  have start : ∀ page ∈ first.pages, page.Reachable := by
    rw [eq_empty_of_ofSettings success]
    exact List.forall_mem_nil _
  have step : ∀ (atlas : Atlas) (operation : Operation), atlas.Reachable → True →
      (∀ page ∈ atlas.pages, page.Reachable) →
      ∀ page ∈ (atlas.perform operation).atlas.pages, page.Reachable :=
    fun _ operation reached _ => performAmong_reachable Page.isOpen reached.sound.page_valid operation
  exact (reachable_of_ofSettings success).keeps step start history fun _ _ => trivial

theorem Reachable.honest {atlas : Atlas} (reachable : atlas.Reachable) :
    ∀ page ∈ atlas.pages, page.Honest := by
  intro page member
  apply (reachable.pages page member).honest
  rw [reachable.sound.page_border page member]
  exact borderWidth_small atlas.settings

/-- No shared page that the search for a place leaves behind has one. -/
theorem not_canHold_of_passed {pages passed : List Page} (honest : ∀ page ∈ pages, page.Honest)
    {image : Image} (validated : image.validate = .ok ())
    (all : List.Forall₂ (Passed Page.isOpen image) pages passed) :
    ∀ page ∈ pages, page.dedicated = false → ¬ page.CanHold image.size := by
  intro page member shared
  obtain ⟨index, inside, rfl⟩ := List.getElem_of_mem member
  have passes := all.get inside (all.length_eq ▸ inside)
  exact passes.not_canHold_of_shared (honest _ member) validated shared

end Atlas
end TextureAtlas
