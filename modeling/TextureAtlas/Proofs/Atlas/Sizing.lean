import TextureAtlas.Proofs.Atlas.Ledger

/-! # The size of a new page

Each side of a new page is the least power of two that is long enough. The longest side that there is is
itself a power of two, so there is a size exactly for what does not exceed it (`pageSizeFor_eq_error_iff`).
What an operation makes of the settings (`perform_settings`) keeps them valid, so that they never ask for
more. -/
set_option autoImplicit false

namespace TextureAtlas

/-! ## Rounding up -/

theorem ceilPowerOfTwo?_of_isPowerOfTwo {side : Nat} (power : isPowerOfTwo side = true) :
    ceilPowerOfTwo? side = some side := by
  have all : ∀ power ∈ powersOfTwo, ceilPowerOfTwo? power = some power := by decide
  exact all side (List.contains_iff_mem.mp power)

theorem Size.ceilPowerOfTwo?_of_isPowerOfTwo {size : Size} (power : size.isPowerOfTwo = true) :
    size.ceilPowerOfTwo? = some size := by
  rw [Size.isPowerOfTwo, Bool.and_eq_true] at power
  simp only [Size.ceilPowerOfTwo?, TextureAtlas.ceilPowerOfTwo?_of_isPowerOfTwo power.1,
    TextureAtlas.ceilPowerOfTwo?_of_isPowerOfTwo power.2]

/-- A power of two that is long enough is no shorter than the one found. -/
theorem exists_ceilPowerOfTwo? {side other : Nat} (isPower : isPowerOfTwo other = true)
    (long : side ≤ other) : ∃ power, ceilPowerOfTwo? side = some power ∧ power ≤ other := by
  have member : other ∈ powersOfTwo := List.contains_iff_mem.mp isPower
  cases found : ceilPowerOfTwo? side with
  | none =>
    have none_long := List.find?_eq_none.mp found other member
    exact absurd (decide_eq_true long) none_long
  | some power =>
    refine ⟨power, rfl, ?_⟩
    have sorted : powersOfTwo.Pairwise (· ≤ ·) := by decide
    obtain ⟨_, shorter, longer, split, short⟩ := List.find?_eq_some_iff_append.mp found
    rw [split] at sorted member
    rcases List.mem_append.mp member with before | after
    · have := short other before
      simp only [long, decide_true, Bool.not_true, Bool.false_eq_true] at this
    · rcases List.mem_cons.mp after with rfl | after
      · exact Nat.le_refl _
      · have later := (List.pairwise_cons.mp (List.pairwise_append.mp sorted).2.1).1
        exact later other after

theorem ceilPowerOfTwo?_le_maxPageSide_iff (side : Nat) :
    (∃ power, ceilPowerOfTwo? side = some power ∧ power ≤ maxPageSide) ↔ side ≤ maxPageSide := by
  constructor
  · rintro ⟨power, found, short⟩
    exact Nat.le_trans (le_of_ceilPowerOfTwo? found) short
  · intro short
    have isPower : isPowerOfTwo maxPageSide = true := by decide
    exact exists_ceilPowerOfTwo? isPower short

theorem Size.within_iff {size : Size} {side : Nat} :
    size.within side = true ↔ size.width ≤ side ∧ size.height ≤ side := by
  simp only [within, Bool.and_eq_true, decide_eq_true_eq]

/-- There is a page of at least this size exactly if no side is too long. -/
theorem Size.exists_rounded_iff (size : Size) :
    (∃ rounded, size.ceilPowerOfTwo?.filter (·.within maxPageSide) = some rounded) ↔
      size.within maxPageSide = true := by
  rw [within_iff, ← ceilPowerOfTwo?_le_maxPageSide_iff, ← ceilPowerOfTwo?_le_maxPageSide_iff]
  simp only [Option.filter_eq_some_iff, ceilPowerOfTwo?]
  constructor
  · rintro ⟨rounded, found, inRange⟩
    split at found
    · rename_i width height width_found height_found
      cases found
      obtain ⟨width_le, height_le⟩ := within_iff.mp inRange
      exact ⟨⟨width, width_found, width_le⟩, height, height_found, height_le⟩
    · cases found
  · rintro ⟨⟨width, width_found, width_le⟩, height, height_found, height_le⟩
    exact ⟨⟨width, height⟩, by rw [width_found, height_found], within_iff.mpr ⟨width_le, height_le⟩⟩

/-! ## Pages for an image -/

/-- What a fragment of this size takes up on a page. -/
def Settings.footprint (settings : Settings) (size : Size) : Size :=
  ⟨size.width + 2 * settings.borderWidth, size.height + 2 * settings.borderWidth⟩

theorem pageSizeFor_eq_error_iff (image : Image) (settings : Settings) (floor : Size) :
    pageSizeFor image settings.borderWidth floor =
        .error (.rejected (.invalidArgument .fragmentTooLarge)) ↔
      ¬ ((settings.footprint image.size).within maxPageSide = true ∧
        floor.within maxPageSide = true) := by
  have limit : maxPageSide < coordLimit - 1 := by decide
  have within_iff : (Size.max ⟨min (image.size.width + 2 * settings.borderWidth) (coordLimit - 1),
      min (image.size.height + 2 * settings.borderWidth) (coordLimit - 1)⟩ floor).within maxPageSide =
        true ↔ (settings.footprint image.size).within maxPageSide = true ∧
          floor.within maxPageSide = true := by
    -- A footprint that is cut off is still longer than any page.
    simp only [Size.within_iff, Size.max, Settings.footprint]
    omega
  rw [← within_iff, ← Size.exists_rounded_iff, pageSizeFor,
    Packing.footprint_of_small (Atlas.borderWidth_small settings)]
  dsimp only
  split
  · rename_i rounded found
    refine iff_of_false ?_ (not_not_intro ⟨rounded, found⟩)
    intro refused
    cases refused
  · rename_i unfound
    refine iff_of_true rfl ?_
    rintro ⟨rounded, found⟩
    cases unfound.symm.trans found

/-! ## Settings -/

theorem Settings.validate_eq_ok_iff {settings : Settings} : settings.validate = .ok () ↔
    settings.pageSize.isPowerOfTwo = true ∧ settings.pageSize.within maxPageSide = true := by
  cases power : settings.pageSize.isPowerOfTwo <;>
    cases within : settings.pageSize.within maxPageSide <;> simp [validate, power, within]

/-- What becomes of the settings. A page size that is not valid is refused. -/
def Settings.changedBy (settings : Settings) : Operation → Settings
  | .setPageLimit limit => { settings with pageLimit := limit }
  | .setPageSize size =>
    match { settings with pageSize := size }.validate with
    | .ok () => { settings with pageSize := size }
    | .error _ => settings
  | .getOrCreate .. | .getOrCreateNamed .. | .free _ | .clear | .flush | .dropBitmaps
  | .setRegistry _ => settings

theorem Settings.changedBy_valid {settings : Settings} (validated : settings.validate = .ok ())
    (operation : Operation) : (settings.changedBy operation).validate = .ok () := by
  cases operation with
  | setPageSize size =>
    simp only [changedBy]
    cases resized : { settings with pageSize := size }.validate with
    | ok done => exact resized
    | error error => exact validated
  | getOrCreate | getOrCreateNamed | free | clear | flush | dropBitmaps | setPageLimit | setRegistry =>
    exact validated

namespace Atlas

variable {atlas : Atlas}

theorem getOrCreateAmong_settings (eligible : Page → Bool) (valid : ∀ page ∈ atlas.pages, page.Valid)
    (id : FragmentId) (image : Image) (allocation : Allocation) :
    (atlas.getOrCreateAmong eligible id image allocation).atlas.settings = atlas.settings := by
  rcases getOrCreateAmong_cases eligible valid id image allocation with
    ⟨fragment, _, result⟩ | ⟨_, creates⟩
  · rw [result]
  · generalize atlas.getOrCreateAmong eligible id image allocation = reply at creates ⊢
    cases creates with
    | invalid refused => rfl
    | nowhere validated locates | placed validated locates => exact locates.settings_eq

theorem perform_settings (valid : ∀ page ∈ atlas.pages, page.Valid) (operation : Operation) :
    (atlas.perform operation).atlas.settings = atlas.settings.changedBy operation := by
  cases operation with
  | getOrCreate id image allocation =>
    exact getOrCreateAmong_settings Page.isOpen valid id image allocation
  | getOrCreateNamed label image allocation =>
    simp only [perform, performAmong, Reply.map]
    rcases atlas.getOrCreateNamedAmong_cases Page.isOpen label image allocation with
      ⟨_, _, _, _, result⟩ | ⟨_, registry, result⟩ <;> rw [result]
    · rfl
    · exact @getOrCreateAmong_settings { atlas with registry } Page.isOpen valid _ image allocation
  | free id =>
    have frees := atlas.free_frees id
    simp only [perform, performAmong, Reply.map]
    generalize atlas.free id = reply at frees ⊢
    cases frees <;> rfl
  | setPageSize size =>
    rcases atlas.setPageSize_cases size with ⟨error, refused, result⟩ | ⟨accepted, result⟩
    · simp only [perform, performAmong, result, Settings.changedBy, refused]
    · simp only [perform, performAmong, result, Settings.changedBy, accepted]
  | flush =>
    rw [perform_flush]
    rfl
  | clear | dropBitmaps | setPageLimit | setRegistry => rfl

theorem Reachable.settings_valid (reachable : atlas.Reachable) :
    atlas.settings.validate = .ok () := by
  obtain ⟨settings, first, history, success, rfl⟩ := reachable
  have start : first.settings.validate = .ok () := by
    rw [eq_empty_of_ofSettings success]
    exact validate_of_ofSettings success
  have step : ∀ (atlas : Atlas) (operation : Operation), atlas.Reachable → True →
      atlas.settings.validate = .ok () →
        (atlas.perform operation).atlas.settings.validate = .ok () := by
    intro atlas operation reached _ validated
    rw [perform_settings reached.sound.page_valid]
    exact Settings.changedBy_valid validated operation
  exact (reachable_of_ofSettings success).keeps step start history fun _ _ => trivial

end Atlas
end TextureAtlas
