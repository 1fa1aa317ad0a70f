import TextureAtlas.Proofs.Packing.Capacity
import TextureAtlas.Proofs.Page.Insertion

/-! # What a page can still take

A page takes an image or not by its size alone (`Valid.takes_iff`), so it is sizes that find room on a page
(`Placeable`). The exhausted mark is exact: a page that has it takes nothing, and a page that refuses an
image which would fit an empty one has it from then on exactly if it takes nothing (`exhausted_exact`). And
the sizes that find room never grow by an insertion nor shrink by a removal (`placeable_monotone`). -/
set_option autoImplicit false

namespace TextureAtlas.Page

/-- The image gets a place on the page. -/
def Takes (page : Page) (image : Image) : Prop := ∃ placement, (page.insert image).1 = .ok placement

/-- Some valid image of this size gets a place. -/
def Placeable (page : Page) (size : Size) : Prop :=
  ∃ image : Image, image.size = size ∧ image.validate = .ok () ∧ page.Takes image

variable {page next : Page} {image : Image} {size : Size}

theorem Valid.takes_iff (valid : page.Valid) (validated : image.validate = .ok ()) :
    page.Takes image ↔ page.CanHold image.size := by
  constructor
  · intro taken
    by_contra holdsNot
    obtain ⟨placement, success⟩ := taken
    obtain ⟨next, refused, _⟩ := valid.insert_of_not_canHold validated holdsNot
    rw [refused] at success
    cases success
  · intro holds
    obtain ⟨placement, next, success, _⟩ := valid.insert_of_canHold validated holds
    exact ⟨placement, congrArg Prod.fst success⟩

/-- For each size that a page may have there is an image. -/
theorem exists_image_of_size (width_pos : 0 < size.width) (height_pos : 0 < size.height)
    (width_le : size.width ≤ maxPageSide) (height_le : size.height ≤ maxPageSide) :
    ∃ image : Image, image.size = size ∧ image.validate = .ok () := by
  have area_le : size.width * size.height ≤ maxPageSide * maxPageSide := Nat.mul_le_mul width_le height_le
  have limit : maxPageSide * maxPageSide < positionLimit := by decide
  have enough : size.width * size.height ≤ (Array.replicate (size.width * size.height) (0 : UInt32)).size :=
    Nat.le_of_eq Array.size_replicate.symm
  have valid := Image.valid_packed width_pos height_pos enough (Nat.lt_of_le_of_lt area_le limit)
  exact ⟨_, rfl, Image.validate_of_valid valid⟩

theorem Valid.placeable_iff (valid : page.Valid) :
    page.Placeable size ↔ 0 < size.width ∧ 0 < size.height ∧ page.CanHold size := by
  constructor
  · intro placeable
    obtain ⟨image, rfl, validated, taken⟩ := placeable
    have image_valid := Image.valid_of_validate validated
    exact ⟨image_valid.width_pos, image_valid.height_pos, (valid.takes_iff validated).mp taken⟩
  · intro ⟨width_pos, height_pos, holds⟩
    have width_le := Nat.le_trans holds.width_le valid.packing_valid.width_le
    have height_le := Nat.le_trans holds.height_le valid.packing_valid.height_le
    obtain ⟨image, rfl, validated⟩ := exists_image_of_size width_pos height_pos
      (Nat.le_trans (Nat.le_add_right _ _) width_le) (Nat.le_trans (Nat.le_add_right _ _) height_le)
    exact ⟨image, rfl, validated, (valid.takes_iff validated).mpr holds⟩

/-! ## The exhausted mark -/

theorem Reachable.firm (reachable : page.Reachable) : page.Firm := by
  induction reachable with
  | blank success => exact Firm.of_isBlank (isBlank_of_blank success)
  | insert _ image ih => exact (ih.insert image).1
  | remove _ row span ih => exact (ih.remove row span).1
  | @flush page _ index ih => exact (ih.marked (page.flush_unmarked index) 0).1
  | @dropBitmap page _ index ih => exact (ih.marked (page.dropBitmap_unmarked index) 0).1

theorem Honest.not_takes (honest : page.Honest) (exhausted : page.exhausted = true)
    (validated : image.validate = .ok ()) : ¬ page.Takes image := by
  intro taken
  obtain ⟨placement, success⟩ := taken
  rw [honest.insert_of_exhausted exhausted validated] at success
  cases success

/-- A single texel is the easiest to place: no row is too low for it. -/
theorem Firm.takes_texel_of_not_isFull (firm : page.Firm) (small : 2 * page.border < coordLimit)
    (known : page.packing.isFull page.border = .ok false)
    (width_le : 1 + 2 * page.border ≤ page.size.width)
    (height_le : 1 + 2 * page.border ≤ page.size.height) (texel : UInt32) :
    page.Takes (.packed 1 1 #[texel]) := by
  have limit : 1 * 1 < positionLimit := by decide
  have texel_valid : (Image.packed 1 1 #[texel]).Valid :=
    Image.valid_packed Nat.one_pos Nat.one_pos (Nat.le_refl 1) limit
  have high := List.forall_mem_map.mp firm.high
  have holds : page.CanHold ⟨1, 1⟩ :=
    firm.packing_valid.canHold_of_not_isFull small known high width_le height_le
  exact ((firm.valid small).takes_iff (Image.validate_of_valid texel_valid)).mpr holds

/-- A page that refuses an image which would fit an empty one knows afterwards whether it is full. -/
theorem Reachable.takes_texel_of_refused (reachable : page.Reachable) (small : 2 * page.border < coordLimit)
    (validated : image.validate = .ok ()) (width_le : image.width + 2 * page.border ≤ page.size.width)
    (height_le : image.height + 2 * page.border ≤ page.size.height)
    (refused : (page.insert image).1 = .error (.rejected .outOfSpace))
    (unmarked : (page.insert image).2.exhausted = false) (texel : UInt32) :
    (page.insert image).2.Takes (.packed 1 1 #[texel]) := by
  have image_valid := Image.valid_of_validate validated
  have firm : (page.insert image).2.Firm := (reachable.insert image).firm
  rcases (reachable.honest small).valid.insert_cases image with
    ⟨error, next, result, refuses⟩ | ⟨placement, next, result, _⟩
  · rw [result] at unmarked firm ⊢
    cases refuses with
    | invalid invalid => cases invalid.symm.trans validated
    | oversized large => omega
    | noRoom _ known =>
      obtain rfl : _ = false := unmarked
      exact firm.takes_texel_of_not_isFull small known
        (Nat.le_trans (Nat.add_le_add_right image_valid.width_pos _) width_le)
        (Nat.le_trans (Nat.add_le_add_right image_valid.height_pos _) height_le) texel
  · rw [result] at refused
    cases refused

/-- A page marked as exhausted refuses every image and stays as it is. Where an image is refused whose
footprint is no larger than the page, the mark is set afterwards exactly if no image at all gets a place
any more; if it is not, a single texel does. -/
theorem exhausted_exact (reachable : page.Reachable) (small : 2 * page.border < coordLimit) :
    (page.exhausted = true → ∀ image : Image, image.validate = .ok () →
      page.insert image = (.error (.rejected .outOfSpace), page)) ∧
    ∀ image : Image, image.validate = .ok () → image.width + 2 * page.border ≤ page.size.width →
      image.height + 2 * page.border ≤ page.size.height →
      (page.insert image).1 = .error (.rejected .outOfSpace) →
      let next := (page.insert image).2
      (next.exhausted = true ↔ ∀ other : Image, other.validate = .ok () → ¬ next.Takes other) ∧
        (next.exhausted = false → ∀ texel, next.Takes (.packed 1 1 #[texel])) := by
  have honest := reachable.honest small
  refine ⟨fun exhausted _ => honest.insert_of_exhausted exhausted, ?_⟩
  intro image validated width_le height_le refused next
  have next_honest : next.Honest := honest.insert image
  have texel_fits : next.exhausted = false → ∀ texel, next.Takes (.packed 1 1 #[texel]) :=
    reachable.takes_texel_of_refused small validated width_le height_le refused
  refine ⟨⟨?_, ?_⟩, texel_fits⟩
  · intro exhausted other validated'
    exact next_honest.not_takes exhausted validated'
  · intro none_taken
    by_contra unmarked
    have texel_valid : (Image.packed 1 1 #[0]).validate = .ok () := by decide
    exact none_taken _ texel_valid (texel_fits (Bool.eq_false_iff.mpr unmarked) 0)

/-- Two rows with one unit to spare in the second. A single texel was refused. -/
def crammed : Page :=
  smallPage.after [.insert (.packed 6 1 #[1, 2, 3, 4, 5, 6]), .insert (.packed 2 3 #[1, 2, 3, 4, 5, 6]),
    .insert (.packed 1 2 #[7, 8]), .insert (.packed 1 1 #[9])]

/-- The first row is empty again. -/
def eased : Page := crammed.after [.remove 0 ⟨0, 8⟩]

theorem crammed_reachable : crammed.Reachable := by
  have blanked : blank ⟨8, 8⟩ 1 false = .ok smallPage := rfl
  exact (Reachable.blank blanked).after _

theorem eased_reachable : eased.Reachable := crammed_reachable.after _

/-- The empty row is too low for the image that is asked for, but not for a texel. Once the row is filled,
to ask for the same image again finds out that the page is full. -/
theorem exhausted_exact_crammed :
    let image := Image.packed 4 2 (Array.replicate 8 0)
    let filled := (eased.insert (.packed 4 1 #[1, 2, 3, 4])).2
    crammed.Reachable ∧ 2 * crammed.border < coordLimit ∧ crammed.exhausted = true ∧
      crammed.insert (.packed 1 1 #[9]) = (.error (.rejected .outOfSpace), crammed) ∧
      image.validate = .ok () ∧ (eased.insert image).1 = .error (.rejected .outOfSpace) ∧
      (eased.insert image).2.Takes (.packed 1 1 #[9]) ∧
      (filled.insert image).1 = .error (.rejected .outOfSpace) ∧ filled.exhausted = false ∧
      ∀ other : Image, other.validate = .ok () → ¬ (filled.insert image).2.Takes other := by
  intro image filled
  have filled_reachable : filled.Reachable := eased_reachable.insert _
  have validated : image.validate = .ok () := by decide
  have small : 2 * crammed.border < coordLimit ∧ 2 * eased.border < coordLimit ∧
      2 * filled.border < coordLimit := by decide +kernel
  have marks : crammed.exhausted = true ∧ (eased.insert image).2.exhausted = false ∧
      filled.exhausted = false ∧ (filled.insert image).2.exhausted = true := by decide +kernel
  have fits : (image.width + 2 * eased.border ≤ eased.size.width ∧
      image.height + 2 * eased.border ≤ eased.size.height) ∧
      image.width + 2 * filled.border ≤ filled.size.width ∧
      image.height + 2 * filled.border ≤ filled.size.height := by decide +kernel
  have refused : (eased.insert image).1 = .error (.rejected .outOfSpace) := by decide +kernel
  have refused' : (filled.insert image).1 = .error (.rejected .outOfSpace) := by decide +kernel
  obtain ⟨small, eased_small, filled_small⟩ := small
  obtain ⟨exhausted, unmarked, unmarked', marked⟩ := marks
  obtain ⟨⟨width_le, height_le⟩, width_le', height_le'⟩ := fits
  obtain ⟨stays, _⟩ := exhausted_exact crammed_reachable small
  obtain ⟨_, asked⟩ := exhausted_exact eased_reachable eased_small
  obtain ⟨_, asked'⟩ := exhausted_exact filled_reachable filled_small
  obtain ⟨_, texel_taken⟩ := asked image validated width_le height_le refused
  obtain ⟨marked_iff, _⟩ := asked' image validated width_le' height_le' refused'
  exact ⟨crammed_reachable, small, exhausted, stays exhausted _ (by decide), validated, refused,
    texel_taken unmarked 9, refused', unmarked', marked_iff.mp marked⟩

/-! ## Room for sizes -/

theorem Inserts.placeable_of_next {placement : Placement}
    (inserts : page.Inserts image placement next) (valid : page.Valid) (placeable : next.Placeable size) :
    page.Placeable size := by
  obtain ⟨width_pos, height_pos, holds⟩ := (inserts.valid valid).placeable_iff.mp placeable
  rw [CanHold, inserts.border_eq] at holds
  have positive : 0 < size.width + 2 * page.border := Nat.add_pos_left width_pos _
  exact valid.placeable_iff.mpr ⟨width_pos, height_pos,
    inserts.places.canHold_of_next valid.packing_valid positive holds⟩

theorem Valid.placeable_of_remove (valid : page.Valid) {row : Nat} {span : Span}
    (success : page.remove row span = (.ok (), next)) (placeable : page.Placeable size) :
    next.Placeable size := by
  have next_valid := (valid.remove_ok success).valid valid
  obtain ⟨packing, released, rfl⟩ := remove_eq_ok_iff.mp success
  obtain ⟨width_pos, height_pos, holds⟩ := valid.placeable_iff.mp placeable
  have positive : 0 < size.width + 2 * page.border := Nat.add_pos_left width_pos _
  exact next_valid.placeable_iff.mpr ⟨width_pos, height_pos,
    valid.packing_valid.canHold_of_release released positive holds⟩

/-- Where one image of a size gets a place, every image of it does, and so does every smaller size. What
finds room after an insertion found it before, and what finds room before a removal finds it after. -/
theorem placeable_monotone (reachable : page.Reachable) (small : 2 * page.border < coordLimit) :
    (∀ size, page.Placeable size →
      (∀ image : Image, image.size = size → image.validate = .ok () → page.Takes image) ∧
      ∀ smaller : Size, 0 < smaller.width → 0 < smaller.height → smaller.width ≤ size.width →
        smaller.height ≤ size.height → page.Placeable smaller) ∧
    (∀ image placement, (page.insert image).1 = .ok placement →
      ∀ size, (page.insert image).2.Placeable size → page.Placeable size) ∧
    ∀ row span next, page.remove row span = (.ok (), next) →
      ∀ size, page.Placeable size → next.Placeable size := by
  have valid := (reachable.honest small).valid
  refine ⟨?_, ?_, ?_⟩
  · intro size placeable
    obtain ⟨_, _, holds⟩ := valid.placeable_iff.mp placeable
    constructor
    · intro image size_eq validated
      exact (valid.takes_iff validated).mpr (size_eq ▸ holds)
    · intro smaller width_pos height_pos width_le height_le
      exact valid.placeable_iff.mpr ⟨width_pos, height_pos,
        holds.mono (Nat.add_le_add_right width_le _) (Nat.add_le_add_right height_le _)⟩
  · intro image placement success size placeable
    rcases valid.insert_cases image with ⟨_, _, result, _⟩ | ⟨_, _, result, inserts⟩
    · rw [result] at success
      cases success
    · rw [result] at placeable
      exact inserts.placeable_of_next valid placeable
  · intro row span next success size placeable
    exact valid.placeable_of_remove success placeable

/-- A texel finds room besides an image that is placed, so it did before. The room of the empty row is still
there when the other row is emptied too. -/
theorem placeable_monotone_eased :
    let filled := (eased.insert (.packed 2 1 #[1, 2])).2
    let emptied := eased.answer (.remove 1 ⟨0, 4⟩)
    eased.Reachable ∧ 2 * eased.border < coordLimit ∧
      eased.Placeable ⟨6, 1⟩ ∧ eased.Placeable ⟨2, 1⟩ ∧ eased.Takes (.packed 6 1 #[6, 5, 4, 3, 2, 1]) ∧
      filled.Placeable ⟨1, 1⟩ ∧ eased.Placeable ⟨1, 1⟩ ∧
      eased.remove 1 ⟨0, 4⟩ = (.ok (), emptied) ∧ emptied.Placeable ⟨6, 1⟩ := by
  intro filled emptied
  have small : 2 * eased.border < coordLimit := by decide +kernel
  have longest : eased.Placeable ⟨6, 1⟩ :=
    ⟨.packed 6 1 #[1, 2, 3, 4, 5, 6], rfl, by decide, ⟨0, ⟨0, 8⟩, ⟨1, 1, 6, 1⟩⟩, by decide +kernel⟩
  have beside : filled.Placeable ⟨1, 1⟩ :=
    ⟨.packed 1 1 #[1], rfl, by decide, ⟨0, ⟨4, 3⟩, ⟨5, 1, 1, 1⟩⟩, by decide +kernel⟩
  have removed : eased.remove 1 ⟨0, 4⟩ = (.ok (), emptied) := by decide +kernel
  have inserted : (eased.insert (.packed 2 1 #[1, 2])).1 = .ok ⟨0, ⟨0, 4⟩, ⟨1, 1, 2, 1⟩⟩ := by decide +kernel
  obtain ⟨sizes, insertions, removals⟩ := placeable_monotone eased_reachable small
  obtain ⟨every_image, smaller⟩ := sizes _ longest
  refine ⟨eased_reachable, small, longest, ?_, ?_, beside, ?_, removed, ?_⟩
  · exact smaller ⟨2, 1⟩ (by decide) (by decide) (by decide) (by decide)
  · exact every_image _ rfl (by decide)
  · exact insertions _ _ inserted _ beside
  · exact removals _ _ _ removed _ longest

end TextureAtlas.Page
