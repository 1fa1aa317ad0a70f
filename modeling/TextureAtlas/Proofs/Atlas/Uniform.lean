import TextureAtlas.Proofs.Atlas.Census
import TextureAtlas.Proofs.Atlas.Pages
import TextureAtlas.Proofs.Atlas.Sizing

/-! # Fragments of one size

A history that creates shared fragments of one size only, and frees any of them, keeps every page in a
grid. So nothing is ever lost between the fragments: a page is opened only when all others are full, and
the atlas takes one more fragment until it has as many as fit on all the pages that it may open. -/
set_option autoImplicit false

namespace TextureAtlas

/-- There is a limit of pages, and a page has room for a fragment of this size. -/
structure Settings.Suits (settings : Settings) (size : Size) : Prop where
  validated : settings.validate = .ok ()
  limited : 0 < settings.pageLimit
  wide : 0 < size.width
  high : 0 < size.height
  width_le : (settings.footprint size).width ≤ settings.pageSize.width
  height_le : (settings.footprint size).height ≤ settings.pageSize.height

variable {settings : Settings} {size : Size}

/-! ## Pages in a grid -/

/-- A shared page of the settings, all of whose fragments have this size. -/
structure Page.Tiled (settings : Settings) (size : Size) (page : Page) : Prop where
  valid : page.Valid
  border_eq : page.border = settings.borderWidth
  size_eq : page.size = settings.pageSize
  shared : page.dedicated = false
  tiled : page.packing.Tiled (settings.footprint size)

namespace Page.Tiled

variable {page next : Page}

theorem of_blank (success : Page.blank settings.pageSize settings.borderWidth false = .ok page) :
    page.Tiled settings size := by
  have blank := isBlank_of_blank success
  have valid := blank.valid (Atlas.borderWidth_small settings)
  rw [blank.page_eq] at valid ⊢
  exact ⟨valid, rfl, rfl, rfl, Packing.tiled_empty _ _⟩

theorem of_unmarked_eq (tiled : page.Tiled settings size) (same : next.unmarked = page.unmarked) :
    next.Tiled settings size := by
  have valid := tiled.valid.of_unmarked_eq same
  obtain ⟨packing_eq, border_eq, dedicated_eq, _⟩ := unmarked_eq_iff.mp same
  refine ⟨valid, border_eq.trans tiled.border_eq, ?_, dedicated_eq.trans tiled.shared, ?_⟩
  · rw [Page.size, packing_eq]
    exact tiled.size_eq
  · rw [packing_eq]
    exact tiled.tiled

theorem insert (tiled : page.Tiled settings size) {image : Image} (image_size : image.size = size) :
    (page.insert image).2.Tiled settings size := by
  rcases tiled.valid.insert_cases image with
    ⟨error, next, result, refuses⟩ | ⟨placement, next, result, inserts⟩
  · rw [result]
    exact tiled.of_unmarked_eq refuses.unmarked_eq
  · rw [result]
    have places := inserts.places
    have need_eq : (⟨image.width + 2 * page.border, image.height + 2 * page.border⟩ : Size) =
        settings.footprint size := by
      rw [tiled.border_eq, ← image_size]
      rfl
    rw [need_eq] at places
    refine ⟨inserts.valid tiled.valid, inserts.border_eq.trans tiled.border_eq, ?_, ?_, ?_⟩
    · exact places.size_eq.trans tiled.size_eq
    · rw [inserts.next_eq]
      exact tiled.shared
    · exact tiled.tiled.places tiled.valid.packing_valid places

theorem remove (tiled : page.Tiled settings size) (row : Nat) (span : Span) :
    (page.remove row span).2.Tiled settings size := by
  rcases remove_cases tiled.valid.packing_valid row span with
    ⟨fault, result⟩ | ⟨next, result, removes⟩ <;> rw [result]
  · exact tiled
  · have valid := removes.valid tiled.valid
    have size_eq := removes.releases.size_eq
    obtain ⟨packing, released, rfl⟩ := remove_eq_ok_iff.mp result
    exact ⟨valid, tiled.border_eq, size_eq.trans tiled.size_eq, tiled.shared,
      tiled.tiled.release tiled.valid.packing_valid released⟩

section Room

variable (tiled : page.Tiled settings size) (suits : settings.Suits size)

include tiled suits

theorem count_le : page.packing.count ≤ Packing.capacity settings.pageSize (settings.footprint size) := by
  have bounded := tiled.valid.packing_valid.count_le_capacity tiled.tiled
    (Nat.add_pos_left suits.wide _) (Nat.add_pos_left suits.high _)
  rwa [show page.packing.size = settings.pageSize from tiled.size_eq] at bounded

theorem canHold_iff : page.CanHold size ↔
    page.packing.count < Packing.capacity settings.pageSize (settings.footprint size) := by
  have size_eq : page.packing.size = settings.pageSize := tiled.size_eq
  have width_le := suits.width_le
  have height_le := suits.height_le
  rw [← size_eq] at width_le height_le ⊢
  rw [Page.CanHold, tiled.border_eq]
  exact tiled.valid.packing_valid.canHold_iff tiled.tiled (Nat.add_pos_left suits.wide _)
    (Nat.add_pos_left suits.high _) width_le height_le

end Room

end Page.Tiled

/-! ## The size of a new page -/

/-- A footprint that fits the page size needs no larger page. -/
theorem Settings.Suits.pageSizeFor_eq (suits : settings.Suits size) {image : Image}
    (image_size : image.size = size) :
    pageSizeFor image settings.borderWidth settings.pageSize = .ok settings.pageSize := by
  obtain ⟨power, within⟩ := validate_eq_ok_iff.mp suits.validated
  have width_le := suits.width_le
  have height_le := suits.height_le
  rw [← image_size] at width_le height_le
  simp only [Settings.footprint] at width_le height_le
  -- The sums are cut off at the largest coordinate, but here they do not get there.
  have floor_eq : Size.max ⟨min (image.size.width + 2 * settings.borderWidth) (coordLimit - 1),
      min (image.size.height + 2 * settings.borderWidth) (coordLimit - 1)⟩ settings.pageSize =
      settings.pageSize := by
    simp only [Size.max, Nat.max_eq_right (Nat.le_trans (Nat.min_le_left _ _) width_le),
      Nat.max_eq_right (Nat.le_trans (Nat.min_le_left _ _) height_le)]
  simp only [pageSizeFor, Packing.footprint_of_small (Atlas.borderWidth_small settings), floor_eq,
    Size.ceilPowerOfTwo?_of_isPowerOfTwo power, Option.filter, within, if_true]

/-! ## Histories -/

/-- Creates a shared fragment from a valid image of this size, or frees one. -/
inductive Operation.Uniform (size : Size) : Operation → Prop
  | create {id : FragmentId} {image : Image} (validated : image.validate = .ok ())
      (image_size : image.size = size) : Uniform size (.getOrCreate id image .shared)
  | free {id : FragmentId} : Uniform size (.free id)

namespace Atlas

/-- An atlas with these settings, all of whose fragments have this size. -/
structure Uniform (settings : Settings) (size : Size) (atlas : Atlas) : Prop where
  settings_eq : atlas.settings = settings
  tiled : ∀ page ∈ atlas.pages, page.Tiled settings size
  few : atlas.pageCount ≤ settings.pageLimit

namespace Uniform

variable {atlas : Atlas}

theorem getOrCreate (uniform : atlas.Uniform settings size) (suits : settings.Suits size)
    (valid : ∀ page ∈ atlas.pages, page.Valid) (id : FragmentId) {image : Image}
    (image_size : image.size = size) : (atlas.getOrCreate id image .shared).atlas.Uniform settings size := by
  obtain ⟨rfl, tiled, few⟩ := uniform
  -- Whatever image a page is opened for, it gets the page size of the settings.
  have blank : ∀ (opened : Size) (page : Page), pageSizeFor image atlas.settings.borderWidth
      atlas.settings.pageSize = .ok opened →
      Page.blank opened atlas.settings.borderWidth false = .ok page →
      page.Tiled atlas.settings size := by
    intro opened page sized success
    cases sized.symm.trans (suits.pageSizeFor_eq image_size)
    exact .of_blank success
  have tiled' := @getOrCreateAmong_forall_pages _ Page.isOpen image
    (fun page held => held.insert image_size) atlas valid id .shared blank tiled
  rcases getOrCreateAmong_cases Page.isOpen valid id image .shared with
    ⟨fragment, _, result⟩ | ⟨_, creates⟩
  · rw [Atlas.getOrCreate, result]
    exact ⟨rfl, tiled, few⟩
  · rw [Atlas.getOrCreate]
    generalize atlas.getOrCreateAmong Page.isOpen id image .shared = reply at creates tiled' ⊢
    cases creates with
    | invalid refused => exact ⟨rfl, tiled, few⟩
    | nowhere validated locates | placed validated locates =>
      exact ⟨locates.settings_eq, tiled', locates.pageCount_le suits.limited few⟩

theorem free (uniform : atlas.Uniform settings size) (id : FragmentId) :
    (atlas.free id).atlas.Uniform settings size := by
  have tiled := free_forall_pages (fun _ row span held => held.remove row span) id uniform.tiled
  have frees := atlas.free_frees id
  generalize atlas.free id = reply at frees tiled ⊢
  cases frees with
  | absent => exact uniform
  | astray => exact ⟨uniform.settings_eq, uniform.tiled, uniform.few⟩
  | unheld | freed => exact ⟨uniform.settings_eq, tiled, List.length_set.trans_le uniform.few⟩

theorem perform (uniform : atlas.Uniform settings size) (suits : settings.Suits size)
    (valid : ∀ page ∈ atlas.pages, page.Valid) {operation : Operation}
    (admitted : operation.Uniform size) : (atlas.perform operation).atlas.Uniform settings size := by
  cases admitted with
  | create validated image_size => exact uniform.getOrCreate suits valid _ image_size
  | free => exact uniform.free _

theorem after (suits : settings.Suits size) {first : Atlas}
    (success : ofSettings settings = .ok first) {history : List Operation}
    (admitted : ∀ operation ∈ history, operation.Uniform size) :
    (first.after history).Uniform settings size := by
  have start : first.Uniform settings size := by
    rw [eq_empty_of_ofSettings success]
    exact ⟨rfl, List.forall_mem_nil _, Nat.zero_le _⟩
  refine (reachable_of_ofSettings success).keeps ?_ start history admitted
  intro atlas operation reachable fits uniform
  exact uniform.perform suits reachable.sound.page_valid fits

section Room

variable (uniform : atlas.Uniform settings size) (suits : settings.Suits size)

include uniform suits

/-- Below the number that fits in all, some page can hold another fragment or one more may be opened. -/
theorem size_lt_iff (sound : atlas.Sound) :
    atlas.size < Packing.capacity settings.pageSize (settings.footprint size) * settings.pageLimit ↔
      (∃ page ∈ atlas.pages, page.CanHold size) ∨ atlas.pageCount < settings.pageLimit := by
  have positive : 0 < Packing.capacity settings.pageSize (settings.footprint size) :=
    Nat.mul_pos (Nat.div_pos suits.width_le (Nat.add_pos_left suits.wide _))
      (Nat.div_pos suits.height_le (Nat.add_pos_left suits.high _))
  have bounded : ∀ count ∈ atlas.pages.map (·.packing.count),
      count ≤ Packing.capacity settings.pageSize (settings.footprint size) :=
    List.forall_mem_map.mpr fun page member => (uniform.tiled page member).count_le suits
  have short : (atlas.pages.map (·.packing.count)).length ≤ settings.pageLimit := by
    rw [List.length_map]
    exact uniform.few
  rw [sound.size_eq, sum_lt_mul_iff bounded short positive, List.length_map]
  refine or_congr ?_ Iff.rfl
  constructor
  · rintro ⟨_, counted, less⟩
    obtain ⟨page, member, rfl⟩ := List.mem_map.mp counted
    exact ⟨page, member, ((uniform.tiled page member).canHold_iff suits).mpr less⟩
  · rintro ⟨page, member, holds⟩
    exact ⟨_, List.mem_map_of_mem member, ((uniform.tiled page member).canHold_iff suits).mp holds⟩

/-- The search ends with a place if there is room on some page or for another one, and only then. -/
theorem locates_outcome (reachable : atlas.Reachable) {image : Image}
    (validated : image.validate = .ok ()) (image_size : image.size = size)
    {reply : Reply (Nat × Placement)}
    (locates : Locates Page.isOpen atlas image atlas.settings.pageSize false reply) :
    (∃ place, reply.outcome = .ok place) ∧
        ((∃ page ∈ atlas.pages, page.CanHold size) ∨ atlas.pageCount < settings.pageLimit) ∨
      reply.outcome = .error (.rejected .pageLimitReached) ∧
        ¬ ((∃ page ∈ atlas.pages, page.CanHold size) ∨ atlas.pageCount < settings.pageLimit) := by
  have sized := suits.pageSizeFor_eq image_size
  obtain ⟨rfl, tiled, few⟩ := uniform
  cases locates with
  | @onPage before after passed page next placement split all opened result inserts =>
    have member : page ∈ atlas.pages := by
      rw [split]
      exact List.mem_append_right _ List.mem_cons_self
    have holds := inserts.canHold (tiled page member).valid
    rw [image_size] at holds
    exact Or.inl ⟨⟨_, rfl⟩, Or.inl ⟨page, member, holds⟩⟩
  | @elsewhere passed _ all opens =>
    -- All pages were passed over, also the exhausted ones: a new one is the only way out.
    have full : ∀ page ∈ atlas.pages, ¬ page.CanHold image.size := fun page member =>
      not_canHold_of_passed reachable.honest validated all page member (tiled page member).shared
    have usedUp_iff := pagesUsedUp_iff_of_passed all
    rw [image_size] at full
    cases opens with
    | tooLarge unsized => cases sized.symm.trans unsized
    | usedUp _ usedUp =>
      refine Or.inr ⟨rfl, ?_⟩
      rintro (⟨page, member, holds⟩ | below)
      · exact full page member holds
      · exact Nat.not_lt.mpr (usedUp_iff.mp usedUp).2 below
    | opened _ left =>
      have unmet := usedUp_iff.not.mp (Bool.eq_false_iff.mp left)
      have below := Nat.not_le.mp fun reached => unmet ⟨Nat.ne_of_gt suits.limited, reached⟩
      exact Or.inl ⟨⟨_, rfl⟩, Or.inr below⟩

theorem getOrCreate_outcome (reachable : atlas.Reachable) {id : FragmentId}
    (absent : atlas.get? id = none) {image : Image} (validated : image.validate = .ok ())
    (image_size : image.size = size) :
    (∃ fragment, (atlas.getOrCreate id image .shared).outcome = .ok fragment) ∧
        atlas.size <
          Packing.capacity settings.pageSize (settings.footprint size) * settings.pageLimit ∨
      (atlas.getOrCreate id image .shared).outcome = .error (.rejected .pageLimitReached) ∧
        ¬ atlas.size <
          Packing.capacity settings.pageSize (settings.footprint size) * settings.pageLimit := by
  rw [uniform.size_lt_iff suits reachable.sound]
  have creates := create_creates Page.isOpen reachable.sound.page_valid id image .shared
  simp only [Atlas.getOrCreate, getOrCreateAmong, absent]
  generalize atlas.create Page.isOpen id image .shared = reply at creates ⊢
  cases creates with
  | invalid refused => cases refused.symm.trans validated
  | nowhere _ locates =>
    rcases uniform.locates_outcome suits reachable validated image_size locates with
      ⟨⟨_, placed⟩, _⟩ | ⟨refused, full⟩
    · cases placed
    · cases refused
      exact Or.inr ⟨rfl, full⟩
  | placed _ locates =>
    rcases uniform.locates_outcome suits reachable validated image_size locates with
      ⟨_, room⟩ | ⟨refused, _⟩
    · exact Or.inl ⟨⟨_, rfl⟩, room⟩
    · cases refused

end Room
end Uniform

/-- Fragments of one size fill the pages to the last place: whatever was created and freed before,
another one is refused only when there are as many as fit in a grid on all pages of the limit. -/
theorem same_sizes_fill_pages {first : Atlas} (success : ofSettings settings = .ok first)
    (limited : 1 ≤ settings.pageLimit) (wide : 1 ≤ size.width) (high : 1 ≤ size.height)
    (width_le : size.width + 2 * settings.borderWidth ≤ settings.pageSize.width)
    (height_le : size.height + 2 * settings.borderWidth ≤ settings.pageSize.height)
    {history : List Operation} (uniform : ∀ operation ∈ history, operation.Uniform size) :
    (first.after history).pageCount ≤ settings.pageLimit ∧
      ∀ (id : FragmentId) (image : Image), (first.after history).get? id = none →
        image.validate = .ok () → image.size = size →
        ((∃ fragment, ((first.after history).getOrCreate id image .shared).outcome = .ok fragment) ↔
          (first.after history).size < settings.pageLimit *
            (settings.pageSize.width / (size.width + 2 * settings.borderWidth)) *
            (settings.pageSize.height / (size.height + 2 * settings.borderWidth))) ∧
        (¬ (first.after history).size < settings.pageLimit *
            (settings.pageSize.width / (size.width + 2 * settings.borderWidth)) *
            (settings.pageSize.height / (size.height + 2 * settings.borderWidth)) →
          ((first.after history).getOrCreate id image .shared).outcome =
            .error (.rejected .pageLimitReached)) := by
  have validated := validate_of_ofSettings success
  have suits : settings.Suits size := ⟨validated, limited, wide, high, width_le, height_le⟩
  have reachable := (reachable_of_ofSettings success).after history
  have tiled := Uniform.after suits success uniform
  refine ⟨tiled.few, ?_⟩
  intro id image absent image_valid image_size
  have total_eq : settings.pageLimit *
      (settings.pageSize.width / (size.width + 2 * settings.borderWidth)) *
      (settings.pageSize.height / (size.height + 2 * settings.borderWidth)) =
      Packing.capacity settings.pageSize (settings.footprint size) * settings.pageLimit := by
    rw [Nat.mul_assoc, Nat.mul_comm]
    rfl
  rw [total_eq]
  rcases tiled.getOrCreate_outcome suits reachable absent image_valid image_size with
    ⟨placed, room⟩ | ⟨refused, full⟩
  · exact ⟨iff_of_true placed room, fun full => absurd room full⟩
  · refine ⟨iff_of_false ?_ full, fun _ => refused⟩
    rintro ⟨fragment, placed⟩
    cases refused.symm.trans placed

/-- On one page there are two places for a texel with its border. The first was freed and taken again. -/
def crammedHistory : List Operation :=
  [.getOrCreate ⟨1⟩ (.packed 1 1 #[7]) .shared, .getOrCreate ⟨2⟩ (.packed 1 1 #[8]) .shared, .free ⟨1⟩,
    .getOrCreate ⟨3⟩ (.packed 1 1 #[9]) .shared]

theorem same_sizes_fill_pages_crammed :
    let crammed := (empty ⟨⟨8, 4⟩, 1, true⟩).after crammedHistory
    crammed.size = 2 ∧ crammed.pageCount ≤ 1 ∧
      (crammed.getOrCreate ⟨4⟩ (.packed 1 1 #[6]) .shared).outcome =
        .error (.rejected .pageLimitReached) ∧
      ∃ fragment, ((crammed.after [.free ⟨2⟩]).getOrCreate ⟨4⟩ (.packed 1 1 #[6]) .shared).outcome =
        .ok fragment := by
  intro crammed
  have success : ofSettings ⟨⟨8, 4⟩, 1, true⟩ = .ok (empty ⟨⟨8, 4⟩, 1, true⟩) := rfl
  have uniform : ∀ operation ∈ crammedHistory, operation.Uniform ⟨1, 1⟩ := by
    simp only [crammedHistory, List.forall_mem_cons]
    exact ⟨.create rfl rfl, .create rfl rfl, .free, .create rfl rfl, List.forall_mem_nil _⟩
  have freed : ∀ operation ∈ crammedHistory ++ [.free ⟨2⟩], operation.Uniform ⟨1, 1⟩ :=
    List.forall_mem_append.mpr ⟨uniform, List.forall_mem_singleton.mpr .free⟩
  obtain ⟨few, full⟩ := same_sizes_fill_pages success (by decide) (by decide) (by decide) (by decide)
    (by decide) uniform
  obtain ⟨_, room⟩ := same_sizes_fill_pages success (by decide) (by decide) (by decide) (by decide)
    (by decide) freed
  rw [after_append] at room
  refine ⟨by decide +kernel, few, ?_, ?_⟩
  · exact (full ⟨4⟩ _ (by decide +kernel) rfl rfl).2 (by decide +kernel)
  · exact (room ⟨4⟩ _ (by decide +kernel) rfl rfl).1.mpr (by decide +kernel)

end Atlas
end TextureAtlas
