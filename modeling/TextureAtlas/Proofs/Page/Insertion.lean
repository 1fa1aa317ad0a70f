import TextureAtlas.Proofs.Packing.FirstFit
import TextureAtlas.Proofs.Page.Lifetime
import TextureAtlas.Proofs.Page.Stacking

/-! # What an insertion does

On a page in use, with any border that can be doubled, an insertion is never a fault. Which texels it
paints, and how, is told texel by texel (`insert_paints`), and where it puts the image, row by row
(`insert_firstFits`). An insertion that fails paints nothing and takes nothing. An image larger than the
page is out of space as long as the border can be doubled, and a fault past that (`insert_oversized`). -/
set_option autoImplicit false

namespace TextureAtlas.Page

/-- Requests lead from one page in use to another. -/
theorem Reachable.after {page : Page} (reachable : page.Reachable) (requests : List Request) :
    (page.after requests).Reachable := by
  induction requests generalizing page with
  | nil => exact reachable
  | cons request requests ih =>
    apply ih
    cases request with
    | insert image => exact reachable.insert image
    | remove row span => exact reachable.remove row span
    | flush index => exact reachable.flush index
    | dropBitmap index => exact reachable.dropBitmap index

/-! ## The texels -/

/-- All that is painted is the image at its frame and, around it, as far as the border goes, for each
texel the one of the image that is nearest to it. -/
structure Paints (page : Page) (image : Image) (frame : Rectangle) (next : Page) : Prop where
  size_eq : frame.size = image.size
  left : page.border ≤ frame.x
  top : page.border ≤ frame.y
  right : frame.x + frame.width + page.border ≤ page.size.width
  bottom : frame.y + frame.height + page.border ≤ page.size.height
  painted : ∀ x y, x < page.size.width → y < page.size.height → frame.Surrounds page.border x y →
    ∃ texel, next.texel x y = .ok texel ∧
      image.texels[min (y - frame.y) (image.height - 1) * image.stride +
        min (x - frame.x) (image.width - 1)]? = some texel
  kept : ∀ x y, x < page.size.width → y < page.size.height → ¬ frame.Surrounds page.border x y →
    ∃ texel, next.texel x y = .ok texel ∧ page.texel x y = .ok texel

theorem Inserts.paints {page next : Page} {image : Image} {placement : Placement}
    (inserts : page.Inserts image placement next) (valid : page.Valid) :
    page.Paints image placement.rectangle next := by
  have framed := framed_of_places valid inserts.image_valid inserts.places
  have next_valid := inserts.valid valid
  have size_eq : next.size = page.size := inserts.places.size_eq
  refine ⟨inserts.places.rectangle_size, framed.left, framed.top, framed.right, framed.bottom, ?_, ?_⟩
  · intro x y inLine inPage here
    obtain ⟨texel, nearest⟩ := Image.nearest?_isSome inserts.image_valid placement.rectangle x y
    refine ⟨texel, next_valid.texel_eq (size_eq ▸ inLine) (size_eq ▸ inPage) ?_, nearest⟩
    rw [size_eq, inserts.depicts.inside x y inLine here, nearest]
  · intro x y inLine inPage elsewhere
    obtain ⟨texel, found, texel_eq⟩ := valid.exists_texel inLine inPage
    refine ⟨texel, next_valid.texel_eq (size_eq ▸ inLine) (size_eq ▸ inPage) ?_, texel_eq⟩
    rw [size_eq, inserts.depicts.outside x y inLine elsewhere, found]

/-- An insertion paints the image and its surroundings and nothing else, or it fails and paints nothing.
No texel outside the page is ever asked for. -/
theorem insert_paints {page : Page} (reachable : page.Reachable)
    (small : 2 * page.border < coordLimit) (image : Image) :
    (∀ fault, (page.insert image).1 ≠ .error (.fault fault)) ∧
      (∀ placement, (page.insert image).1 = .ok placement →
        page.Paints image placement.rectangle (page.insert image).2) ∧
      ∀ failure, (page.insert image).1 = .error failure →
        (page.insert image).2.texels = page.texels := by
  have valid := (reachable.honest small).valid
  rcases valid.insert_cases image with
    ⟨error, next, result, refuses⟩ | ⟨placement, next, result, inserts⟩ <;> rw [result]
  · exact ⟨by simp, by simp, fun _ _ => (unmarked_eq_iff.mp refuses.unmarked_eq).2.2.2⟩
  · refine ⟨by simp, ?_, by simp⟩
    rintro _ ⟨⟩
    exact inserts.paints valid

/-- A page that two texels and a wide border fill. They are removed; what was painted stays. -/
def bordered : Page :=
  (⟨.empty ⟨6, 5⟩, 2, false, Array.replicate 30 0, false, false, false⟩ : Page).after
    [.insert (.packed 2 1 #[1, 2]), .remove 0 ⟨0, 6⟩]

theorem bordered_reachable : bordered.Reachable := by
  have blanked : blank ⟨6, 5⟩ 2 false =
      .ok ⟨.empty ⟨6, 5⟩, 2, false, Array.replicate 30 0, false, false, false⟩ := rfl
  exact (Reachable.blank blanked).after _

theorem insert_paints_bordered :
    let after := (bordered.insert (.packed 1 1 #[9])).2
    bordered.Reachable ∧ 2 * bordered.border < coordLimit ∧
      bordered.Paints (.packed 1 1 #[9]) ⟨2, 2, 1, 1⟩ after ∧
      (after.texel 0 0 = .ok 9 ∧ after.texel 4 4 = .ok 9) ∧
      (bordered.texel 5 0 = .ok 2 ∧ after.texel 5 0 = .ok 2) ∧
      (bordered.insert (.packed 3 1 #[1, 2, 3])).2.texels = bordered.texels := by
  have small : 2 * bordered.border < coordLimit := by decide +kernel
  obtain ⟨_, paints, _⟩ := insert_paints bordered_reachable small (.packed 1 1 #[9])
  obtain ⟨_, _, keeps⟩ := insert_paints bordered_reachable small (.packed 3 1 #[1, 2, 3])
  refine ⟨bordered_reachable, small, paints ⟨0, ⟨0, 5⟩, ⟨2, 2, 1, 1⟩⟩ (by decide +kernel),
    by decide +kernel, by decide +kernel, ?_⟩
  exact keeps (.rejected .outOfSpace) (by decide +kernel)

/-! ## The place -/

/-- A valid image gets a place exactly if its footprint fits the page and some row has room for it, or the
height below the rows is enough for one more. It is then the first fit; otherwise there is no space, and
no row changes. -/
theorem insert_firstFits {page : Page} (reachable : page.Reachable)
    (small : 2 * page.border < coordLimit) {image : Image} (validated : image.validate = .ok ()) :
    let need : Size := ⟨image.width + 2 * page.border, image.height + 2 * page.border⟩
    ((∃ placement, (page.insert image).1 = .ok placement) ↔
      need.width ≤ page.size.width ∧ need.height ≤ page.size.height ∧
      ((∃ row ∈ page.rows, need.height ≤ row.height ∧ ∃ gap ∈ row.space.free, need.width ≤ gap.width) ∨
        need.height ≤ page.size.height - (page.rows.map Row.height).sum)) ∧
    (∀ placement, (page.insert image).1 = .ok placement →
      page.packing.FirstFits page.border image.size need placement (page.insert image).2.packing) ∧
    ∀ failure, (page.insert image).1 = .error failure →
      failure = .rejected .outOfSpace ∧ (page.insert image).2.packing = page.packing := by
  intro need
  have valid := (reachable.honest small).valid
  have holds_iff := valid.canHold_iff image.size
  by_cases holds : page.CanHold image.size
  · obtain ⟨placement, next, result, inserts⟩ := valid.insert_of_canHold validated holds
    rw [result]
    refine ⟨iff_of_true ⟨placement, rfl⟩ (holds_iff.mp holds), ?_, by simp⟩
    rintro _ ⟨⟩
    exact inserts.places.firstFits valid.packing_valid
  · obtain ⟨next, result, refuses⟩ := valid.insert_of_not_canHold validated holds
    rw [result]
    refine ⟨iff_of_false (by simp) (fun room => holds (holds_iff.mpr room)), by simp, ?_⟩
    rintro _ ⟨⟩
    exact ⟨rfl, (unmarked_eq_iff.mp refuses.unmarked_eq).1⟩

/-- Of the first row's four places the first and the third are given back, so that there are gaps of the
widths 5, 4 and 3. -/
def gapped : Page :=
  (⟨.empty ⟨18, 6⟩, 1, false, Array.replicate 108 0, false, false, false⟩ : Page).after
    [.insert (.packed 3 1 #[1, 2, 3]), .insert (.packed 1 1 #[4]), .insert (.packed 2 1 #[5, 6]),
      .insert (.packed 1 1 #[7]), .remove 0 ⟨0, 5⟩, .remove 0 ⟨8, 4⟩]

theorem gapped_reachable : gapped.Reachable := by
  have blanked : blank ⟨18, 6⟩ 1 false =
      .ok ⟨.empty ⟨18, 6⟩, 1, false, Array.replicate 108 0, false, false, false⟩ := rfl
  exact (Reachable.blank blanked).after _

theorem insert_firstFits_gapped :
    let third := gapped.insert (.packed 2 1 #[1, 2])
    let below := gapped.insert (.packed 4 1 #[1, 2, 3, 4])
    let high := gapped.insert (.packed 1 2 #[1, 2])
    gapped.Reachable ∧ 2 * gapped.border < coordLimit ∧
      gapped.rows.map (fun row => (row.y, row.height, row.space.free)) =
        [(0, 3, [⟨0, 5⟩, ⟨8, 4⟩, ⟨15, 3⟩])] ∧
      gapped.packing.FirstFits 1 ⟨2, 1⟩ ⟨4, 3⟩ ⟨0, ⟨8, 4⟩, ⟨9, 1, 2, 1⟩⟩ third.2.packing ∧
      gapped.packing.FirstFits 1 ⟨4, 1⟩ ⟨6, 3⟩ ⟨1, ⟨0, 6⟩, ⟨1, 4, 4, 1⟩⟩ below.2.packing ∧
      high.1 = .error (.rejected .outOfSpace) ∧ high.2.packing = gapped.packing := by
  have small : 2 * gapped.border < coordLimit := by decide +kernel
  have border_eq : gapped.border = 1 := by decide +kernel
  obtain ⟨_, found, _⟩ := @insert_firstFits _ gapped_reachable small (.packed 2 1 #[1, 2]) (by decide)
  obtain ⟨_, opened, _⟩ :=
    @insert_firstFits _ gapped_reachable small (.packed 4 1 #[1, 2, 3, 4]) (by decide)
  obtain ⟨_, _, refused⟩ := @insert_firstFits _ gapped_reachable small (.packed 1 2 #[1, 2]) (by decide)
  rw [border_eq] at found opened
  refine ⟨gapped_reachable, small, by decide +kernel, found _ (by decide +kernel),
    opened _ (by decide +kernel), ?_⟩
  have out_of_space : (gapped.insert (.packed 1 2 #[1, 2])).1 = .error (.rejected .outOfSpace) := by
    decide +kernel
  exact ⟨out_of_space, (refused _ out_of_space).2⟩

/-! ## Images larger than the page -/

/-- An image that is larger than the page, its border counted in exactly, changes nothing. It is refused
for want of space, however large the sum is, exactly if twice the border is a coordinate: only the sum is
cut off at the largest coordinate, the doubling before it is not. -/
theorem insert_oversized {size : Size} {border : Nat} {dedicated : Bool} {first : Page}
    (blanked : blank size border dedicated = .ok first) (requests : List Request) {image : Image}
    (validated : image.validate = .ok ())
    (large : size.width < image.width + 2 * border ∨ size.height < image.height + 2 * border) :
    let page := first.after requests
    (page.insert image).2 = page ∧
      ((page.insert image).1 = .error (.rejected .outOfSpace) ↔ 2 * border < coordLimit) ∧
      (coordLimit ≤ 2 * border → (page.insert image).1 = .error (.fault .overflow)) := by
  intro page
  obtain ⟨firm, size_eq, border_eq⟩ : page.Firm ∧ page.size = size ∧ page.border = border :=
    Firm.of_after blanked requests
  rw [← size_eq, ← border_eq] at large
  rw [← border_eq]
  rcases Nat.lt_or_ge (2 * page.border) coordLimit with small | wide
  · rw [(firm.valid small).insert_of_oversized validated large]
    exact ⟨rfl, iff_of_true rfl small, fun wide => absurd small (Nat.not_lt.mpr wide)⟩
  · have overflows : page.insert image = (.error (.fault .overflow), page) := by
      simp only [insert, validated, Firm.place_of_wide_border wide]
    rw [overflows]
    exact ⟨rfl, iff_of_false (by simp) (Nat.not_lt.mpr wide), fun _ => rfl⟩

/-- A page in use with the widest border that can be doubled. The exact width of the footprint is one past
the largest coordinate. -/
theorem insert_oversized_widest :
    let first : Page := ⟨.empty ⟨8, 8⟩, 2147483647, false, Array.replicate 64 0, false, false, false⟩
    let page := first.after [.flush 0, .remove 0 ⟨0, 1⟩]
    blank ⟨8, 8⟩ 2147483647 false = .ok first ∧ (Image.packed 2 1 #[0, 0]).validate = .ok () ∧
      2 + 2 * 2147483647 = coordLimit ∧
      page.insert (.packed 2 1 #[0, 0]) = (.error (.rejected .outOfSpace), page) := by
  have validated : (Image.packed 2 1 #[0, 0]).validate = .ok () := by decide
  obtain ⟨unchanged, refused, _⟩ := @insert_oversized ⟨8, 8⟩ 2147483647 false _ rfl
    [.flush 0, .remove 0 ⟨0, 1⟩] _ validated (by decide)
  exact ⟨rfl, validated, by decide, Prod.ext (refused.mpr (by decide)) unchanged⟩

/-- With a border one wider, an image of one texel is a fault on the same page. -/
theorem insert_oversized_overflows :
    let first : Page := ⟨.empty ⟨8, 8⟩, 2147483648, false, Array.replicate 64 0, false, false, false⟩
    2147483648 < coordLimit ∧ blank ⟨8, 8⟩ 2147483648 false = .ok first ∧
      (Image.packed 1 1 #[0]).validate = .ok () ∧ 8 < 1 + 2 * 2147483648 ∧
      (first.insert (.packed 1 1 #[0])).1 = .error (.fault .overflow) ∧
      first.insert (.packed 1 1 #[0]) ≠ (.error (.rejected .outOfSpace), first) := by
  decide +kernel

end TextureAtlas.Page
