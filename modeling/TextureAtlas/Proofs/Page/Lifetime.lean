import TextureAtlas.Proofs.Packing.Room
import TextureAtlas.Proofs.Page.Contents

/-! # The life of a page

`Page.Reachable`: the pages that come of a blank one by insertions, removals and transfers, in any order
and whatever their outcomes. As long as the border can be doubled they are valid, and the exhausted
mark tells the truth (`Honest`): a page that has it takes no image whatever, so asking it again
changes nothing (`Honest.insert_of_exhausted`). -/
set_option autoImplicit false

namespace TextureAtlas.Page

/-! ## Pages that can hold an image -/

/-- There is a place for an image of this size and its border. -/
def CanHold (page : Page) (size : Size) : Prop :=
  page.packing.CanHold ⟨size.width + 2 * page.border, size.height + 2 * page.border⟩

/-- The row that would take the footprint is there, or there is height for another one. -/
theorem Valid.canHold_iff {page : Page} (valid : page.Valid) (size : Size) :
    page.CanHold size ↔
      size.width + 2 * page.border ≤ page.size.width ∧ size.height + 2 * page.border ≤ page.size.height ∧
      ((∃ row ∈ page.rows, size.height + 2 * page.border ≤ row.height ∧
          ∃ gap ∈ row.space.free, size.width + 2 * page.border ≤ gap.width) ∨
        size.height + 2 * page.border ≤ page.size.height - (page.rows.map Row.height).sum) := by
  rw [rows, ← valid.packing_valid.filled_eq_sum]
  constructor
  · rintro ⟨width_le, height_le, room⟩
    exact ⟨width_le, height_le, room⟩
  · rintro ⟨width_le, height_le, room⟩
    exact ⟨width_le, height_le, room⟩

theorem Inserts.canHold {page next : Page} {image : Image} {placement : Placement}
    (inserts : page.Inserts image placement next) (valid : page.Valid) : page.CanHold image.size :=
  inserts.places.canHold valid.packing_valid

/-- The first image on a blank page comes to its top left corner, in the first row. -/
theorem Inserts.first_place {size : Size} {border : Nat} {dedicated : Bool} {image : Image}
    {placement : Placement} {page next : Page} (blank : IsBlank size border dedicated page)
    (inserts : page.Inserts image placement next) :
    placement = ⟨0, ⟨0, image.width + 2 * border⟩, ⟨border, border, image.width, image.height⟩⟩ ∧
      ∃ row, next.rows = [row] := by
  have places := inserts.places
  obtain ⟨packing, _⟩ := next
  rw [blank.page_eq] at places
  cases places with
  | inRow found => cases found
  | @below span space before fits grants =>
    obtain rfl := grants.span_eq_of_ofTotal
    refine ⟨?_, _, rfl⟩
    rw [Packing.seat, Packing.empty, Nat.zero_add]
    rfl

/-- A valid image is refused only where no image of its size could be held. -/
theorem Valid.not_canHold_of_refuses {page next : Page} (valid : page.Valid) {image : Image}
    {error : Error} (validated : image.validate = .ok ()) (refuses : page.Refuses image error next) :
    ¬ page.CanHold image.size := by
  intro holds
  have width_le : image.width + 2 * page.border ≤ page.size.width := holds.width_le
  have height_le : image.height + 2 * page.border ≤ page.size.height := holds.height_le
  cases refuses with
  | invalid refused => cases refused.symm.trans validated
  | oversized large => omega
  | noRoom refused known =>
    have positive := (Image.valid_of_validate validated).width_pos
    have need_positive : 0 < image.width + 2 * page.border := by omega
    exact valid.packing_valid.not_hasRoom_of_reserve need_positive width_le refused holds.room

theorem Valid.insert_of_canHold {page : Page} (valid : page.Valid) {image : Image}
    (validated : image.validate = .ok ()) (holds : page.CanHold image.size) :
    ∃ placement next, page.insert image = (.ok placement, next) ∧
      page.Inserts image placement next := by
  rcases valid.insert_cases image with ⟨_, _, _, refuses⟩ | inserted
  · exact absurd holds (valid.not_canHold_of_refuses validated refuses)
  · exact inserted

theorem Valid.insert_of_not_canHold {page : Page} (valid : page.Valid) {image : Image}
    (validated : image.validate = .ok ()) (holdsNot : ¬ page.CanHold image.size) :
    ∃ next, page.insert image = (.error (.rejected .outOfSpace), next) ∧
      page.Refuses image .outOfSpace next := by
  rcases valid.insert_cases image with ⟨error, next, result, refuses⟩ | ⟨_, _, _, inserts⟩
  · obtain rfl := refuses.error_eq validated
    exact ⟨next, result, refuses⟩
  · exact absurd (inserts.canHold valid) holdsNot

/-! ## Pages in use -/

/-- What a blank page can become. -/
inductive Reachable : Page → Prop
  | blank {size : Size} {border : Nat} {dedicated : Bool} {page : Page}
      (success : Page.blank size border dedicated = .ok page) : Reachable page
  | insert {page : Page} (reachable : Reachable page) (image : Image) :
      Reachable (page.insert image).2
  | remove {page : Page} (reachable : Reachable page) (row : Nat) (span : Span) :
      Reachable (page.remove row span).2
  | flush {page : Page} (reachable : Reachable page) (index : Nat) : Reachable (page.flush index).2.2
  | dropBitmap {page : Page} (reachable : Reachable page) (index : Nat) :
      Reachable (page.dropBitmap index).2

theorem insert_border (page : Page) (image : Image) : (page.insert image).2.border = page.border := by
  simp only [insert, commit]
  split
  · rfl
  split <;> try rfl
  split <;> rfl

theorem remove_border (page : Page) (row : Nat) (span : Span) :
    (page.remove row span).2.border = page.border := by
  simp only [remove]
  split <;> rfl

/-- The exhausted mark is only on pages that are full. -/
structure Honest (page : Page) : Prop where
  valid : page.Valid
  full : page.exhausted = true → page.packing.isFull page.border = .ok true

namespace Honest

variable {page next : Page}

theorem not_canHold (honest : page.Honest) (exhausted : page.exhausted = true) {image : Image}
    (image_valid : image.Valid) : ¬ page.CanHold image.size := by
  have wide := image_valid.width_pos
  have high := image_valid.height_pos
  have full := honest.full exhausted
  apply honest.valid.packing_valid.not_canHold_of_isFull honest.valid.small full <;>
    simp only [Image.size] <;> omega

/-- An exhausted page refuses every image, and is left as it is. -/
theorem insert_of_exhausted (honest : page.Honest) (exhausted : page.exhausted = true) {image : Image}
    (validated : image.validate = .ok ()) :
    page.insert image = (.error (.rejected .outOfSpace), page) := by
  have holdsNot := honest.not_canHold exhausted (Image.valid_of_validate validated)
  obtain ⟨next, result, refuses⟩ := honest.valid.insert_of_not_canHold validated holdsNot
  rw [result]
  cases refuses with
  | invalid refused => cases refused.symm.trans validated
  | oversized large => rfl
  | noRoom refused known =>
    -- The mark is set anew, to what it was.
    cases known.symm.trans (honest.full exhausted)
    rw [← exhausted]

theorem insert (honest : page.Honest) (image : Image) : (page.insert image).2.Honest := by
  rcases honest.valid.insert_cases image with
    ⟨error, next, result, refuses⟩ | ⟨placement, next, result, inserts⟩
  · rw [result]
    have valid := honest.valid.of_unmarked_eq refuses.unmarked_eq
    cases refuses with
    | invalid | oversized => exact honest
    | noRoom refused known =>
      refine ⟨valid, ?_⟩
      rintro rfl
      exact known
  · rw [result]
    refine ⟨inserts.valid honest.valid, ?_⟩
    intro exhausted
    rw [inserts.next_eq] at exhausted
    have holdsNot := honest.not_canHold exhausted inserts.image_valid
    exact absurd (inserts.canHold honest.valid) holdsNot

theorem remove (honest : page.Honest) (row : Nat) (span : Span) :
    (page.remove row span).2.Honest := by
  rcases remove_cases honest.valid.packing_valid row span with
    ⟨fault, result⟩ | ⟨next, result, removes⟩ <;> rw [result]
  · exact honest
  · refine ⟨removes.valid honest.valid, ?_⟩
    intro exhausted
    rw [removes.next_eq] at exhausted
    cases exhausted

/-- Marks other than `exhausted` do not matter. -/
theorem of_unmarked_eq (honest : page.Honest) (same : next.unmarked = page.unmarked)
    (exhausted_eq : next.exhausted = page.exhausted) : next.Honest := by
  refine ⟨honest.valid.of_unmarked_eq same, ?_⟩
  obtain ⟨packing_eq, border_eq, _⟩ := unmarked_eq_iff.mp same
  rw [packing_eq, border_eq, exhausted_eq]
  exact honest.full

end Honest

theorem flush_exhausted (page : Page) (index : Nat) :
    (page.flush index).2.2.exhausted = page.exhausted := by
  simp only [flush]
  split <;> rfl

theorem dropBitmap_exhausted (page : Page) (index : Nat) :
    (page.dropBitmap index).2.exhausted = page.exhausted := by
  simp only [dropBitmap]
  split <;> rfl

theorem Reachable.honest {page : Page} (reachable : page.Reachable)
    (small : 2 * page.border < coordLimit) : page.Honest := by
  induction reachable with
  | blank success =>
    have blank := isBlank_of_blank success
    have border_eq := congrArg Page.border blank.page_eq
    have exhausted_eq := congrArg Page.exhausted blank.page_eq
    rw [border_eq] at small
    refine ⟨blank.valid small, ?_⟩
    intro exhausted
    cases exhausted.symm.trans exhausted_eq
  | insert _ image ih =>
    rw [insert_border] at small
    exact (ih small).insert image
  | remove _ row span ih =>
    rw [remove_border] at small
    exact (ih small).remove row span
  | @flush page _ index ih =>
    have same := page.flush_unmarked index
    rw [(unmarked_eq_iff.mp same).2.1] at small
    exact (ih small).of_unmarked_eq same (page.flush_exhausted index)
  | @dropBitmap page _ index ih =>
    have same := page.dropBitmap_unmarked index
    rw [(unmarked_eq_iff.mp same).2.1] at small
    exact (ih small).of_unmarked_eq same (page.dropBitmap_exhausted index)

/-- A page has texels, and keeps its size. -/
theorem Reachable.area_pos {page : Page} (reachable : page.Reachable)
    (small : 2 * page.border < coordLimit) : 0 < page.size.area := by
  induction reachable with
  | blank success =>
    have blank := isBlank_of_blank success
    rw [blank.page_eq]
    exact Nat.mul_pos blank.width_pos blank.height_pos
  | @insert page reachable image ih =>
    rw [insert_border] at small
    have positive := ih small
    rcases (reachable.honest small).valid.insert_cases image with
      ⟨_, next, result, refuses⟩ | ⟨_, next, result, inserts⟩
    · rw [result, size, (unmarked_eq_iff.mp refuses.unmarked_eq).1]
      exact positive
    · rw [result, size, inserts.places.size_eq]
      exact positive
  | @remove page reachable row span ih =>
    rw [remove_border] at small
    have positive := ih small
    rcases remove_cases (reachable.honest small).valid.packing_valid row span with
      ⟨fault, result⟩ | ⟨next, result, removes⟩ <;> rw [result]
    · exact positive
    · rw [size, removes.releases.size_eq]
      exact positive
  | @flush page _ index ih =>
    have same := unmarked_eq_iff.mp (page.flush_unmarked index)
    rw [same.2.1] at small
    rw [size, same.1]
    exact ih small
  | @dropBitmap page _ index ih =>
    have same := unmarked_eq_iff.mp (page.dropBitmap_unmarked index)
    rw [same.2.1] at small
    rw [size, same.1]
    exact ih small

end TextureAtlas.Page
