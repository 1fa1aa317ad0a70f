import Mathlib.Algebra.Order.BigOperators.Group.List
import Mathlib.Algebra.Order.Ring.Nat
import TextureAtlas.Proofs.Page.Contents

/-! # The rows of a page in use

Whatever is asked of a page, with any border, its rows stay stacked from the top, and a new one is only
added below the others (`after_isStacked`). A border that cannot be doubled is no exception: such a page
takes nothing, and its rows never begin. -/
set_option autoImplicit false

namespace TextureAtlas

namespace Stacked

variable {top bottom : Nat} {rows : List Row}

theorem first_y (stacked : Stacked top bottom rows) {row : Row} (found : rows[0]? = some row) :
    row.y = top := by
  cases rows with
  | nil => cases found
  | cons first rest =>
    cases found
    exact stacked.1

theorem next_y (stacked : Stacked top bottom rows) {index : Nat} {upper lower : Row}
    (found : rows[index]? = some upper) (found' : rows[index + 1]? = some lower) :
    lower.y = upper.y + upper.height := by
  induction rows generalizing top index with
  | nil => cases found
  | cons first rest ih =>
    cases index with
    | zero =>
      cases found
      rw [stacked.1]
      exact stacked.2.first_y found'
    | succ index => exact ih stacked.2 found found'

end Stacked

namespace Packing

variable {packing next : Packing}

def heights (packing : Packing) : List Nat := packing.rows.map Row.height

theorem length_heights (packing : Packing) : packing.heights.length = packing.rows.length :=
  List.length_map _

theorem heights_withSpace {index : Nat} {row : Row} (found : packing.rows[index]? = some row)
    (space : RowSpace) : (packing.withSpace index row space).heights = packing.heights := by
  obtain ⟨inside, rfl⟩ := List.getElem?_eq_some_iff.mp found
  apply List.ext_getElem (by simp [heights, withSpace])
  intro other _ _
  simp only [heights, withSpace, List.getElem_map, List.getElem_set]
  split
  · subst other
    rfl
  · rfl

/-- A row is opened for the footprint, as high as it is, or there is none new. -/
theorem Places.heights {border : Nat} {size need : Size} {placement : Placement}
    (places : packing.Places border size need placement next) :
    next.heights = packing.heights ∨ next.heights = packing.heights ++ [need.height] := by
  cases places with
  | inRow found before high grants => exact Or.inl (heights_withSpace found _)
  | below before fits grants => exact Or.inr (by simp [Packing.heights, withRow])

theorem heights_of_release {index : Nat} {span : Span}
    (success : packing.release index span = (.ok (), next)) : next.heights = packing.heights := by
  obtain ⟨row, space, found, _, rfl⟩ := release_eq_ok_iff.mp success
  exact heights_withSpace found space

end Packing

namespace Page

/-! ## What can be asked of a page -/

inductive Request
  | insert (image : Image)
  | remove (row : Nat) (span : Span)
  | flush (index : Nat)
  | dropBitmap (index : Nat)

/-- How many rows the request may add. -/
def Request.mostRows : Request → Nat
  | .insert _ => 1
  | .remove .. | .flush _ | .dropBitmap _ => 0

/-- The page after a request, whatever its outcome. -/
def answer (page : Page) : Request → Page
  | .insert image => (page.insert image).2
  | .remove row span => (page.remove row span).2
  | .flush index => (page.flush index).2.2
  | .dropBitmap index => (page.dropBitmap index).2

def after (page : Page) (requests : List Request) : Page := requests.foldl answer page

/-- A valid packing and a buffer of the page's size, with no row too low for a single texel and its
border. Other than `Valid` this admits all borders. -/
structure Firm (page : Page) : Prop where
  packing_valid : page.packing.Valid
  texels_size : page.texels.size = page.size.width * page.size.height
  high : ∀ height ∈ page.packing.heights, 1 + 2 * page.border ≤ height

/-- What no request changes, and the rows that it may add. -/
structure Continues (page : Page) (added : Nat) (next : Page) : Prop where
  size_eq : next.size = page.size
  border_eq : next.border = page.border
  keepsRows : page.packing.KeepsRows next.packing
  length_le : next.rows.length ≤ page.rows.length + added

variable {page next : Page}

theorem Continues.refl (page : Page) (added : Nat) : page.Continues added page :=
  ⟨rfl, rfl, .refl page.packing, Nat.le_add_right _ _⟩

namespace Firm

theorem valid (firm : page.Firm) (small : 2 * page.border < coordLimit) : page.Valid :=
  ⟨firm.packing_valid, small, firm.texels_size⟩

theorem marked (firm : page.Firm) (same : next.unmarked = page.unmarked) (added : Nat) :
    next.Firm ∧ page.Continues added next := by
  obtain ⟨packing, border, _, texels, _, _, _⟩ := page
  obtain ⟨rfl, rfl, _, rfl⟩ := unmarked_eq_iff.mp same
  exact ⟨⟨firm.packing_valid, firm.texels_size, firm.high⟩,
    ⟨rfl, rfl, .refl next.packing, Nat.le_add_right _ _⟩⟩

theorem of_isBlank {size : Size} {border : Nat} {dedicated : Bool}
    (blank : IsBlank size border dedicated page) : page.Firm := by
  rw [blank.page_eq]
  exact ⟨Packing.valid_empty blank.width_le blank.height_le, Array.size_replicate, List.forall_mem_nil _⟩

theorem inserts (firm : page.Firm) {image : Image} {placement : Placement}
    (inserts : page.Inserts image placement next) : next.Firm ∧ page.Continues 1 next := by
  have border_eq := inserts.border_eq
  have size_eq := inserts.places.size_eq
  have image_high := inserts.image_valid.height_pos
  refine ⟨⟨inserts.places.valid firm.packing_valid, ?_, ?_⟩,
    ⟨size_eq, border_eq, inserts.places.keepsRows, ?_⟩⟩
  · rw [inserts.depicts.size_eq, firm.texels_size, size, size, size_eq]
  · -- The row that may be new is as high as the footprint of an image that is not empty.
    rw [border_eq]
    rcases inserts.places.heights with same | grown
    · rw [same]
      exact firm.high
    · rw [grown, List.forall_mem_append, List.forall_mem_singleton]
      exact ⟨firm.high, Nat.add_le_add_right image_high _⟩
  · rw [rows, rows, ← Packing.length_heights, ← Packing.length_heights]
    rcases inserts.places.heights with same | grown
    · rw [same]
      exact Nat.le_add_right _ _
    · rw [grown, List.length_append]
      exact Nat.le_refl _

theorem removes (firm : page.Firm) {row : Nat} {span : Span}
    (success : page.remove row span = (.ok (), next)) : next.Firm ∧ page.Continues 0 next := by
  obtain ⟨packing, released, rfl⟩ := remove_eq_ok_iff.mp success
  have releases := firm.packing_valid.releases released
  have heights := Packing.heights_of_release released
  refine ⟨⟨releases.valid, ?_, ?_⟩, ⟨releases.size_eq, rfl, releases.keepsRows, ?_⟩⟩
  · rw [firm.texels_size, size, size, releases.size_eq]
  · rw [heights]
    exact firm.high
  · rw [rows, rows, ← Packing.length_heights, ← Packing.length_heights, heights]
    exact Nat.le_refl _

/-- The border cannot be doubled: not even the footprint of the image is a size. -/
theorem place_of_wide_border (wide : coordLimit ≤ 2 * page.border) (size : Size) :
    page.packing.place page.border size = (.error .overflow, page.packing) := by
  rw [Packing.place, Size.footprint, coord, if_neg (Nat.not_lt.mpr wide)]
  rfl

theorem insert_of_wide_border (wide : coordLimit ≤ 2 * page.border) (image : Image) :
    (page.insert image).2 = page := by
  simp only [insert, place_of_wide_border wide]
  split <;> rfl

theorem insert (firm : page.Firm) (image : Image) :
    (page.insert image).2.Firm ∧ page.Continues 1 (page.insert image).2 := by
  by_cases small : 2 * page.border < coordLimit
  · rcases (firm.valid small).insert_cases image with
      ⟨_, next, result, refuses⟩ | ⟨_, next, result, inserts⟩ <;> rw [result]
    · exact firm.marked refuses.unmarked_eq 1
    · exact firm.inserts inserts
  · rw [insert_of_wide_border (Nat.not_lt.mp small)]
    exact ⟨firm, .refl page 1⟩

theorem remove (firm : page.Firm) (row : Nat) (span : Span) :
    (page.remove row span).2.Firm ∧ page.Continues 0 (page.remove row span).2 := by
  rcases remove_cases firm.packing_valid row span with
    ⟨_, result⟩ | ⟨_, result, _⟩ <;> rw [result]
  · exact ⟨firm, .refl page 0⟩
  · exact firm.removes result

theorem answer (firm : page.Firm) (request : Request) :
    (page.answer request).Firm ∧ page.Continues request.mostRows (page.answer request) := by
  cases request with
  | insert image => exact firm.insert image
  | remove row span => exact firm.remove row span
  | flush index => exact firm.marked (page.flush_unmarked index) 0
  | dropBitmap index => exact firm.marked (page.dropBitmap_unmarked index) 0

theorem after (firm : page.Firm) (requests : List Request) :
    (page.after requests).Firm ∧ (page.after requests).size = page.size ∧
      (page.after requests).border = page.border := by
  induction requests generalizing page with
  | nil => exact ⟨firm, rfl, rfl⟩
  | cons request requests ih =>
    obtain ⟨firm', continues⟩ := firm.answer request
    obtain ⟨firm'', size_eq, border_eq⟩ := ih firm'
    exact ⟨firm'', size_eq.trans continues.size_eq, border_eq.trans continues.border_eq⟩

theorem of_after {size : Size} {border : Nat} {dedicated : Bool} {first : Page}
    (blanked : blank size border dedicated = .ok first) (requests : List Request) :
    (first.after requests).Firm ∧ (first.after requests).size = size ∧
      (first.after requests).border = border := by
  have blank := isBlank_of_blank blanked
  obtain ⟨firm, size_eq, border_eq⟩ := (of_isBlank blank).after requests
  exact ⟨firm, size_eq.trans (congrArg Page.size blank.page_eq),
    border_eq.trans (congrArg Page.border blank.page_eq)⟩

end Firm

/-! ## What this means for the rows -/

end Page

/-- The texel `(x, y)` lies in the strip of the span, which is as high as the row. -/
def Row.Covers (row : Row) (span : Span) (x y : Nat) : Prop :=
  span.Covers x ∧ row.y ≤ y ∧ y < row.y + row.height

namespace Page

/-- The rows follow each other from the top of the page, as wide as the page and high enough for a
texel with its border, and no texel is in two strips. -/
structure IsStacked (page : Page) : Prop where
  first_y : ∀ row, page.rows[0]? = some row → row.y = 0
  next_y : ∀ index upper lower, page.rows[index]? = some upper → page.rows[index + 1]? = some lower →
    lower.y = upper.y + upper.height
  filled_eq : page.packing.filled = (page.rows.map Row.height).sum
  filled_le : page.packing.filled ≤ page.size.height
  high : ∀ row ∈ page.rows, 1 + 2 * page.border ≤ row.height
  total_eq : ∀ row ∈ page.rows, row.space.total = page.size.width
  partitioned : ∀ row ∈ page.rows, row.space.IsPartitioned
  texels_size : page.texels.size = page.size.width * page.size.height
  strips_inside : ∀ row ∈ page.rows, ∀ span ∈ row.space.used, ∀ x y, row.Covers span x y →
    x < page.size.width ∧ y < page.size.height
  strips_apart : ∀ (i j : Nat) (row other : Row) (span span' : Span),
    page.rows[i]? = some row → page.rows[j]? = some other →
    span ∈ row.space.used → span' ∈ other.space.used → (i, span) ≠ (j, span') →
    ∀ x y, ¬ (row.Covers span x y ∧ other.Covers span' x y)

theorem Firm.isStacked {page : Page} (firm : page.Firm) : page.IsStacked := by
  obtain ⟨valid, texels_size, high⟩ := firm
  constructor
  case first_y => exact fun row found => valid.stacked.first_y found
  case next_y => exact fun index upper lower found found' => valid.stacked.next_y found found'
  case filled_eq => exact valid.filled_eq_sum
  case filled_le => exact valid.filled_le
  case high => exact List.forall_mem_map.mp high
  case total_eq => exact valid.row_total
  case partitioned => exact fun row member => (valid.row_valid row member).isPartitioned
  case texels_size => exact texels_size
  case strips_inside =>
    intro row member span used x y covers
    obtain ⟨index, found⟩ := List.mem_iff_getElem?.mp member
    have within := valid.within found used
    simp only [Row.Covers, Span.Covers] at covers
    simp only [size]
    omega
  case strips_apart =>
    rintro i j row other span span' at_i at_j used used' differ x y ⟨here, there⟩
    have apart := valid.apart at_i at_j used used' differ
    simp only [Row.Covers, Span.Covers] at here there
    omega

/-- Whatever is asked of a blank page, with whatever border, its rows are stacked and their strips apart;
and whatever is asked next, each row stays where it is, while only an insertion adds one. -/
theorem after_isStacked {size : Size} {border : Nat} {dedicated : Bool} {first : Page}
    (blanked : blank size border dedicated = .ok first) (requests : List Request) :
    (first.after requests).size = size ∧ (first.after requests).border = border ∧
      (first.after requests).IsStacked ∧
      ∀ request : Request,
        (first.after requests).packing.KeepsRows ((first.after requests).answer request).packing ∧
        ((first.after requests).answer request).rows.length ≤
          (first.after requests).rows.length + request.mostRows := by
  have blank := isBlank_of_blank blanked
  obtain ⟨firm, size_eq, border_eq⟩ := (Firm.of_isBlank blank).after requests
  have first_size := congrArg Page.size blank.page_eq
  have first_border := congrArg Page.border blank.page_eq
  refine ⟨size_eq.trans first_size, border_eq.trans first_border, firm.isStacked, ?_⟩
  intro request
  obtain ⟨_, continues⟩ := firm.answer request
  exact ⟨continues.keepsRows, continues.length_le⟩

/-- On a small page with borders two rows are opened. The first is emptied, emptied again to no effect,
and filled anew. -/
def refilling : List Request :=
  [.insert (.packed 6 1 #[1, 2, 3, 4, 5, 6]), .insert (.packed 1 3 #[7, 8, 9]), .remove 0 ⟨0, 8⟩,
    .remove 0 ⟨0, 8⟩, .flush 0, .insert (.packed 2 1 #[1, 2])]

def smallPage : Page := ⟨.empty ⟨8, 8⟩, 1, false, Array.replicate 64 0, false, false, false⟩

theorem after_isStacked_refilled :
    blank ⟨8, 8⟩ 1 false = .ok smallPage ∧
      (smallPage.after refilling).rows.map (fun row => (row.y, row.height, row.space.used)) =
        [(0, 3, [⟨0, 4⟩]), (3, 5, [⟨0, 3⟩])] ∧
      (smallPage.after refilling).IsStacked ∧
      (smallPage.after refilling).packing.KeepsRows
        ((smallPage.after refilling).answer (.remove 1 ⟨0, 3⟩)).packing := by
  have blanked : blank ⟨8, 8⟩ 1 false = .ok smallPage := rfl
  obtain ⟨_, _, stacked, steps⟩ := after_isStacked blanked refilling
  exact ⟨blanked, by decide +kernel, stacked, (steps (.remove 1 ⟨0, 3⟩)).1⟩

end Page
end TextureAtlas
