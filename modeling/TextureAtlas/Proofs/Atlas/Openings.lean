import Mathlib.Order.Bounds.Basic
import TextureAtlas.Proofs.Atlas.Handles
import TextureAtlas.Proofs.Atlas.Verdicts

/-! # The sides of a page that is opened

On each axis a new page is as long as the shortest power of two that reaches the footprint, the page
size of the settings and the minimum that is asked for (`pageSizeFor_isLeast`). A fragment that no page
could be made for is one for which there is no such power up to the longest side of a page
(`rulesOut_iff_unfit`), and that is all a valid image is ever refused for as an argument. -/
set_option autoImplicit false

namespace TextureAtlas

/-! ## Powers of two -/

theorem mem_powersOfTwo {side : Nat} :
    side ∈ powersOfTwo ↔ ∃ exponent, exponent < 32 ∧ side = 2 ^ exponent := by
  simp only [powersOfTwo, List.mem_map, List.mem_range, eq_comm]
  rfl

/-- The rounded side is the least power of two that is long enough, also among those too long for a
side. -/
theorem isLeast_of_ceilPowerOfTwo? {side power : Nat} (found : ceilPowerOfTwo? side = some power) :
    IsLeast {other | (∃ exponent, other = 2 ^ exponent) ∧ side ≤ other} power := by
  obtain ⟨exponent, small, power_eq⟩ := mem_powersOfTwo.mp (List.mem_of_find?_eq_some found)
  refine ⟨⟨⟨exponent, power_eq⟩, le_of_ceilPowerOfTwo? found⟩, ?_⟩
  rintro other ⟨⟨exponent', rfl⟩, long⟩
  by_cases inRange : exponent' < 32
  · have isPower : isPowerOfTwo (2 ^ exponent') = true :=
      List.contains_iff_mem.mpr (mem_powersOfTwo.mpr ⟨exponent', inRange, rfl⟩)
    obtain ⟨_, found', shorter⟩ := exists_ceilPowerOfTwo? isPower long
    cases found.symm.trans found'
    exact shorter
  · rw [power_eq]
    exact Nat.pow_le_pow_right (by omega) (by omega)

/-! ## Sides that are long enough -/

namespace Settings

/-- The sides that a page for the image could have along an axis: the powers of two that reach its
footprint, the page size of the settings, and the minimum if one is asked for. -/
def sides (settings : Settings) (image : Image) (allocation : Allocation) (along : Size → Nat) :
    Set Nat :=
  {side | (∃ exponent, side = 2 ^ exponent) ∧ along (settings.footprint image.size) ≤ side ∧
    along settings.pageSize ≤ side ∧
    ∀ minimum, allocation = .dedicated minimum → along minimum ≤ side}

/-- Along one of the axes, all sides that are long enough are longer than any page. -/
def Unfit (settings : Settings) (image : Image) (allocation : Allocation) : Prop :=
  (¬ ∃ side ∈ settings.sides image allocation Size.width, side ≤ maxPageSide) ∨
    ¬ ∃ side ∈ settings.sides image allocation Size.height, side ≤ maxPageSide

variable {settings : Settings} {image : Image} {allocation : Allocation}

/-- The longest side of a page is itself a power of two. -/
theorem exists_mem_sides_iff {along : Size → Nat} :
    (∃ side ∈ settings.sides image allocation along, side ≤ maxPageSide) ↔
      along (settings.footprint image.size) ≤ maxPageSide ∧ along settings.pageSize ≤ maxPageSide ∧
        ∀ minimum, allocation = .dedicated minimum → along minimum ≤ maxPageSide := by
  constructor
  · rintro ⟨side, ⟨_, reaches, default, asked⟩, short⟩
    exact ⟨Nat.le_trans reaches short, Nat.le_trans default short,
      fun minimum dedicated => Nat.le_trans (asked minimum dedicated) short⟩
  · intro reaches
    exact ⟨maxPageSide, ⟨⟨13, rfl⟩, reaches⟩, Nat.le_refl _⟩

theorem rulesOut_iff_unfit (valid : settings.validate = .ok ()) (validated : image.validate = .ok ())
    (allocation : Allocation) :
    settings.RulesOut image allocation ↔ settings.Unfit image allocation := by
  have within := Size.within_iff.mp (validate_eq_ok_iff.mp valid).2
  unfold Unfit RulesOut
  rw [exists_mem_sides_iff, exists_mem_sides_iff]
  cases allocation with
  | shared =>
    simp only [validated, within, reduceCtorEq, false_and, exists_false, ne_eq, not_true_eq_false,
      false_or, or_false, false_implies, implies_true, and_true, Nat.not_le]
  | dedicated minimum =>
    simp only [validated, within, Allocation.dedicated.injEq, exists_eq_left', forall_eq', ne_eq,
      not_true_eq_false, false_or, true_and]
    omega

end Settings

/-- The floor reaches the page size and the minimum, along both axes. -/
theorem Allocation.floor_le_iff {allocation : Allocation} {pageSize : Size} {side : Nat} :
    ((allocation.floor pageSize).width ≤ side ↔ pageSize.width ≤ side ∧
      ∀ minimum, allocation = .dedicated minimum → minimum.width ≤ side) ∧
    ((allocation.floor pageSize).height ≤ side ↔ pageSize.height ≤ side ∧
      ∀ minimum, allocation = .dedicated minimum → minimum.height ≤ side) := by
  cases allocation with
  | shared => simp [floor]
  | dedicated minimum => simp [floor, Size.max]

/-- Where the rounded side is one that a page may have, cutting off the footprint made no difference. -/
theorem isLeast_of_rounded {need floor power : Nat}
    (found : ceilPowerOfTwo? (max (min need (coordLimit - 1)) floor) = some power)
    (short : power ≤ maxPageSide) :
    IsLeast {side | (∃ exponent, side = 2 ^ exponent) ∧ need ≤ side ∧ floor ≤ side} power := by
  have limit : maxPageSide < coordLimit - 1 := by decide
  obtain ⟨⟨isPower, long⟩, least⟩ := isLeast_of_ceilPowerOfTwo? found
  refine ⟨⟨isPower, by omega, by omega⟩, ?_⟩
  rintro side ⟨isPower', reaches, above⟩
  exact least ⟨isPower', by omega⟩

theorem pageSizeFor_isLeast {settings : Settings} {image : Image} {allocation : Allocation} {size : Size}
    (sized : pageSizeFor image settings.borderWidth (allocation.floor settings.pageSize) = .ok size) :
    IsLeast (settings.sides image allocation Size.width) size.width ∧
      IsLeast (settings.sides image allocation Size.height) size.height ∧
      size.width ≤ maxPageSide ∧ size.height ≤ maxPageSide := by
  simp only [pageSizeFor, Packing.footprint_of_small (Atlas.borderWidth_small settings)] at sized
  split at sized
  · rename_i rounded found
    cases sized
    obtain ⟨found, inRange⟩ := Option.filter_eq_some_iff.mp found
    obtain ⟨width_le, height_le⟩ := Size.within_iff.mp inRange
    simp only [Size.ceilPowerOfTwo?] at found
    split at found
    · rename_i width height width_found height_found
      cases found
      have wide := isLeast_of_rounded width_found width_le
      have high := isLeast_of_rounded height_found height_le
      simp only [Allocation.floor_le_iff] at wide high
      exact ⟨wide, high, width_le, height_le⟩
    · cases found
  · cases sized

namespace Atlas

variable {atlas : Atlas}

/-- For a valid image there is no other reason to refuse the arguments. -/
theorem Reachable.invalidArgument_iff_unfit (reachable : atlas.Reachable) {id : FragmentId}
    {image : Image} (absent : atlas.get? id = none) (validated : image.validate = .ok ())
    (allocation : Allocation) :
    (∃ cause, (atlas.getOrCreate id image allocation).outcome =
        .error (.rejected (.invalidArgument cause))) ↔
      atlas.settings.Unfit image allocation := by
  rcases reachable.getOrCreate_cases id image allocation with ⟨_, live, _⟩ | ⟨_, verdict⟩
  · cases absent.symm.trans live
  · rw [verdict.invalidArgument_iff]
    exact Settings.rulesOut_iff_unfit reachable.settings_valid validated allocation

/-- Nor is there one under a label, unless the registry knows another label with the same id. -/
theorem Reachable.named_invalidArgument_iff_unfit (reachable : atlas.Reachable) {label : String}
    {image : Image} (absent : atlas.get? (.ofLabel label) = none) (validated : image.validate = .ok ())
    (accepted : ∀ registry fault, atlas.registry = some registry →
      (registry.claim (.ofLabel label) label).1 ≠ .error fault) (allocation : Allocation) :
    (∃ cause, (atlas.getOrCreateNamed label image allocation).outcome =
        .error (.rejected (.invalidArgument cause))) ↔
      atlas.settings.Unfit image allocation := by
  unfold getOrCreateNamed getOrCreateNamedAmong
  cases registered : atlas.registry with
  | none => exact reachable.invalidArgument_iff_unfit absent validated allocation
  | some registry =>
    rcases registry.claim_cases (.ofLabel label) label with ⟨fault, refused⟩ | ⟨next, claimed⟩
    · exact absurd (congrArg Prod.fst refused) (accepted registry fault registered)
    · simp only [claimed]
      have heard : Reachable { atlas with registry := some next } := reachable.after [.setRegistry next]
      exact heard.invalidArgument_iff_unfit absent validated allocation

/-- The settings are valid. A page that an operation opens has along each axis the least side that is
long enough for the fragment it is opened for, none longer than a page may be, and keeps its size until
the atlas is cleared. A new fragment with a valid image, under its id or under a label that the registry
accepts, is refused for its arguments exactly if along some axis no side that a page may have is long
enough. -/
theorem page_sides_least (reachable : atlas.Reachable) :
    atlas.settings.validate = .ok () ∧
    (∀ (operation : Operation) (index : Nat) (page : Page), atlas.page? index = none →
      (atlas.perform operation).atlas.page? index = some page →
      ∃ id image allocation fragment, operation.request? = some (id, image) ∧
        operation.allocation? = some allocation ∧
        (atlas.perform operation).atlas.get? id = some fragment ∧ fragment.page = index ∧
        fragment.size = image.size ∧
        IsLeast (atlas.settings.sides image allocation Size.width) page.size.width ∧
        IsLeast (atlas.settings.sides image allocation Size.height) page.size.height ∧
        page.size.width ≤ maxPageSide ∧ page.size.height ≤ maxPageSide ∧
        ∀ later : List Operation, .clear ∉ later →
          ∃ page', ((atlas.perform operation).atlas.after later).page? index = some page' ∧
            page'.size = page.size) ∧
    (∀ (id : FragmentId) (image : Image) (allocation : Allocation), atlas.get? id = none →
      image.validate = .ok () →
      ((∃ cause, (atlas.getOrCreate id image allocation).outcome =
          .error (.rejected (.invalidArgument cause))) ↔
        atlas.settings.Unfit image allocation)) ∧
    ∀ (label : String) (image : Image) (allocation : Allocation),
      atlas.get? (.ofLabel label) = none → image.validate = .ok () →
      (∀ registry fault, atlas.registry = some registry →
        (registry.claim (.ofLabel label) label).1 ≠ .error fault) →
      ((∃ cause, (atlas.getOrCreateNamed label image allocation).outcome =
          .error (.rejected (.invalidArgument cause))) ↔
        atlas.settings.Unfit image allocation) := by
  refine ⟨reachable.settings_valid, ?_, ?_, ?_⟩
  · intro operation index page absent found
    have next_reachable : (atlas.perform operation).atlas.Reachable := reachable.after [operation]
    have step := reachable.step operation
    generalize (atlas.perform operation).atlas = next at found next_reachable step ⊢
    obtain ⟨settings, pages, fragments, registry⟩ := next
    obtain ⟨rfl, opening⟩ := step.opening absent found
    cases opening with
    | @intro id image allocation size blank placement request allocated sized isBlank inserts =>
      have size_eq : page.size = size := by
        have blank_size := congrArg Page.size isBlank.page_eq
        exact inserts.places.size_eq.trans blank_size
      have sides := pageSizeFor_isLeast sized
      rw [← size_eq] at sides
      obtain ⟨wide, high, width_le, height_le⟩ := sides
      refine ⟨id, image, allocation, placement.fragment id atlas.pageCount, request, allocated,
        Table.get?_insert_self _ _ _, rfl, inserts.places.rectangle_size, wide, high, width_le, height_le,
        ?_⟩
      intro later uncleared
      obtain ⟨last, last_found, persists⟩ := next_reachable.page?_after uncleared found
      exact ⟨last, last_found, persists.size_eq⟩
  · intro id image allocation absent validated
    exact reachable.invalidArgument_iff_unfit absent validated allocation
  · intro label image allocation absent validated accepted
    exact reachable.named_invalidArgument_iff_unfit absent validated accepted allocation

/-- The sample after its page size was changed and everything was cleared: the next page is again the
first. -/
def resized : Atlas := sample.after [.setPageSize ⟨4, 16⟩, .clear]

theorem resized_reachable : resized.Reachable := sample_reachable.after [.setPageSize ⟨4, 16⟩, .clear]

theorem page_sides_least_resized :
    resized.Reachable ∧ resized.settings.validate = .ok () ∧ resized.page? 0 = none ∧
      (∃ page, (resized.perform (.getOrCreate ⟨1⟩ sampleImage (.dedicated ⟨5, 3⟩))).atlas.page? 0 =
          some page ∧
        IsLeast (resized.settings.sides sampleImage (.dedicated ⟨5, 3⟩) Size.width) page.size.width ∧
        IsLeast (resized.settings.sides sampleImage (.dedicated ⟨5, 3⟩) Size.height) page.size.height ∧
        page.size = ⟨8, 16⟩) ∧
      resized.get? ⟨1⟩ = none ∧ sampleImage.validate = .ok () ∧
      resized.settings.Unfit sampleImage (.dedicated ⟨1, 8193⟩) ∧
      (∃ cause, (resized.getOrCreate ⟨1⟩ sampleImage (.dedicated ⟨1, 8193⟩)).outcome =
        .error (.rejected (.invalidArgument cause))) ∧
      ∃ cause, (resized.getOrCreateNamed "tile" sampleImage (.dedicated ⟨1, 8193⟩)).outcome =
        .error (.rejected (.invalidArgument cause)) := by
  obtain ⟨settings_valid, opened, refused, refused_named⟩ := page_sides_least resized_reachable
  have absent : resized.page? 0 = none := by decide +kernel
  have unknown : resized.get? ⟨1⟩ = none := by decide +kernel
  have unknown_named : resized.get? (.ofLabel "tile") = none := by decide +kernel
  have unregistered : resized.registry = none :=
    Option.isNone_iff_eq_none.mp (show resized.registry.isNone = true by decide +kernel)
  have validated : sampleImage.validate = .ok () := by decide +kernel
  have accepted : ∀ registry fault, resized.registry = some registry →
      (registry.claim (.ofLabel "tile") "tile").1 ≠ .error fault := by
    intro registry fault registered
    cases unregistered.symm.trans registered
  have unfit : resized.settings.Unfit sampleImage (.dedicated ⟨1, 8193⟩) := by
    apply Or.inr
    rintro ⟨side, ⟨_, _, _, asked⟩, short⟩
    exact absurd (Nat.le_trans (asked ⟨1, 8193⟩ rfl) short) (by decide)
  have sized : ((resized.perform (.getOrCreate ⟨1⟩ sampleImage (.dedicated ⟨5, 3⟩))).atlas.page? 0).map
      Page.size = some ⟨8, 16⟩ := by decide +kernel
  obtain ⟨page, found, size_eq⟩ := Option.map_eq_some_iff.mp sized
  obtain ⟨_, _, _, _, asked, allocated, _, _, _, wide, high, _⟩ := opened _ 0 page absent found
  cases asked
  cases allocated
  exact ⟨resized_reachable, settings_valid, absent, ⟨page, found, wide, high, size_eq⟩, unknown,
    validated, unfit, (refused _ _ _ unknown validated).mpr unfit,
    (refused_named _ _ _ unknown_named validated accepted).mpr unfit⟩

end Atlas
end TextureAtlas
