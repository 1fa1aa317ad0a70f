import TextureAtlas.Page.Basic
import TextureAtlas.Proofs.Packing.Places
import TextureAtlas.Proofs.Page.Painting

/-! # What a page holds and shows

`Page.Valid`: the packing is valid and the buffer has the texels of its size. An insertion either is
refused, and then only the exhausted mark can change (`Refuses`), or it takes a place and paints the
image there (`Inserts`); a valid page never meets a fault. `unmarked` forgets the marks, so two pages
with the same `unmarked` hold and show the same. -/
set_option autoImplicit false

namespace TextureAtlas.Page

structure Valid (page : Page) : Prop where
  packing_valid : page.packing.Valid
  small : 2 * page.border < coordLimit
  size_eq : page.texels.size = page.size.width * page.size.height

theorem Valid.texel_eq {page : Page} (valid : page.Valid) {x y : Nat} (inLine : x < page.size.width)
    (inPage : y < page.size.height) {word : UInt32}
    (found : page.texels[y * page.size.width + x]? = some word) : page.texel x y = .ok word := by
  have fits := @line_fits page.size.width page.size.height y inPage
  have located : Paint.locate page.size.width x y = .ok (y * page.size.width + x) :=
    @position_of_le_area page.size.width page.size.height _ valid.packing_valid.width_le
      valid.packing_valid.height_le (by omega)
  simp only [texel, located, found]

/-- Every texel of the page is in the buffer. -/
theorem Valid.exists_texel {page : Page} (valid : page.Valid) {x y : Nat} (inLine : x < page.size.width)
    (inPage : y < page.size.height) :
    ∃ texel, page.texels[y * page.size.width + x]? = some texel ∧ page.texel x y = .ok texel := by
  have fits := @line_fits page.size.width page.size.height y inPage
  have size_eq := valid.size_eq
  have found := Array.getElem?_eq_getElem (show y * page.size.width + x < page.texels.size by omega)
  exact ⟨_, found, valid.texel_eq inLine inPage found⟩

def unmarked (page : Page) : Page :=
  { page with dirty := false, uploaded := false, exhausted := false }

/-- What `blank` answers, if it answers with a page. -/
structure IsBlank (size : Size) (border : Nat) (dedicated : Bool) (page : Page) : Prop where
  width_pos : 0 < size.width
  height_pos : 0 < size.height
  width_le : size.width ≤ maxPageSide
  height_le : size.height ≤ maxPageSide
  page_eq : page = ⟨.empty size, border, dedicated, Array.replicate size.area 0, false, false, false⟩

theorem isBlank_of_blank {size : Size} {border : Nat} {dedicated : Bool} {page : Page}
    (success : blank size border dedicated = .ok page) : IsBlank size border dedicated page := by
  simp only [blank] at success
  split at success
  · cases success
  · rename_i inRange
    simp only [Size.within, Bool.not_eq_eq_eq_not, Bool.not_true, Bool.and_eq_false_iff,
      decide_eq_false_iff_not, not_or, Decidable.not_not] at inRange
    obtain ⟨width_ne, height_ne, width_le, height_le⟩ := inRange
    exact ⟨Nat.pos_of_ne_zero width_ne, Nat.pos_of_ne_zero height_ne, width_le, height_le,
      (Except.ok.inj success).symm⟩

theorem IsBlank.valid {size : Size} {border : Nat} {dedicated : Bool} {page : Page}
    (blank : IsBlank size border dedicated page) (small : 2 * border < coordLimit) : page.Valid := by
  rw [blank.page_eq]
  exact ⟨Packing.valid_empty blank.width_le blank.height_le, small, Array.size_replicate⟩

/-- The answers without a place. -/
inductive Refuses (page : Page) (image : Image) : Error → Page → Prop
  | invalid {error : Error} (refused : image.validate = .error error) :
      Refuses page image error page
  | oversized (large : page.size.width < image.width + 2 * page.border ∨
        page.size.height < image.height + 2 * page.border) :
      Refuses page image .outOfSpace page
  | noRoom {full : Bool} (refused : page.packing.reserve
        ⟨image.width + 2 * page.border, image.height + 2 * page.border⟩ = (.ok none, page.packing))
      (known : page.packing.isFull page.border = .ok full) :
      Refuses page image .outOfSpace { page with exhausted := full }

theorem Refuses.unmarked_eq {page next : Page} {image : Image} {error : Error}
    (refuses : page.Refuses image error next) : next.unmarked = page.unmarked := by
  cases refuses <;> rfl

theorem Refuses.error_eq {page next : Page} {image : Image} {error : Error}
    (refuses : page.Refuses image error next) (validated : image.validate = .ok ()) :
    error = .outOfSpace := by
  cases refuses with
  | invalid refused => cases refused.symm.trans validated
  | oversized => rfl
  | noRoom => rfl

/-- The image gets a place and is painted there. -/
structure Inserts (page : Page) (image : Image) (placement : Placement) (next : Page) : Prop where
  image_valid : image.Valid
  places : page.packing.Places page.border image.size
    ⟨image.width + 2 * page.border, image.height + 2 * page.border⟩ placement next.packing
  depicts : Depicts page.size.width (image.nearest? placement.rectangle)
    (placement.rectangle.Surrounds page.border) page.texels next.texels
  next_eq : next = { page with packing := next.packing, texels := next.texels, dirty := true }

/-- A place leaves room for the border inside the page. -/
theorem framed_of_places {page : Page} (valid : page.Valid) {image : Image}
    (image_valid : image.Valid) {placement : Placement} {next : Packing}
    (places : page.packing.Places page.border image.size
      ⟨image.width + 2 * page.border, image.height + 2 * page.border⟩ placement next) :
    Framed page.size.width page.size.height page.border image placement.rectangle := by
  obtain ⟨row, found, used, high, seat_eq⟩ := places.row
  obtain ⟨right, low⟩ := (places.valid valid.packing_valid).within found used
  have width_eq := places.span_width
  rw [places.size_eq] at right low
  rw [seat_eq]
  dsimp only at high width_eq
  exact {
    valid := image_valid
    width_eq := rfl
    height_eq := rfl
    left := Nat.le_add_left _ _
    top := Nat.le_add_left _ _
    right := by
      simp only [Packing.seat, Image.size, size]
      omega
    bottom := by
      simp only [Packing.seat, Image.size, size]
      omega
    stride_le := valid.packing_valid.width_le
    lines_le := valid.packing_valid.height_le }

theorem Valid.insert_cases {page : Page} (valid : page.Valid) (image : Image) :
    (∃ error next, page.insert image = (.error (.rejected error), next) ∧
      page.Refuses image error next) ∨
      ∃ placement next, page.insert image = (.ok placement, next) ∧
        page.Inserts image placement next := by
  simp only [insert]
  cases validated : image.validate with
  | error error => exact Or.inl ⟨error, page, rfl, .invalid validated⟩
  | ok done =>
    have image_valid := Image.valid_of_validate validated
    rcases valid.packing_valid.place_cases valid.small image.size with
      ⟨large, result⟩ | ⟨full, refused, known, result⟩ | ⟨placement, next, result, places⟩
    · rw [result]
      exact Or.inl ⟨_, _, rfl, .oversized large⟩
    · rw [result]
      exact Or.inl ⟨_, _, rfl, .noRoom refused known⟩
    · rw [result]
      right
      obtain ⟨painted, drawn, depicts⟩ :=
        paint_depicts (framed_of_places valid image_valid places) valid.size_eq
      refine ⟨placement, { page with packing := next, texels := painted, dirty := true }, ?_,
        image_valid, places, depicts, rfl⟩
      rw [size, ← places.size_eq] at drawn
      simp only [commit, drawn]

/-- A footprint that is too large for the page is refused before its rows are asked. -/
theorem Valid.insert_of_oversized {page : Page} (valid : page.Valid) {image : Image}
    (validated : image.validate = .ok ())
    (large : page.size.width < image.width + 2 * page.border ∨
      page.size.height < image.height + 2 * page.border) :
    page.insert image = (.error (.rejected .outOfSpace), page) := by
  have width_le := valid.packing_valid.width_le
  have height_le := valid.packing_valid.height_le
  have limit : maxPageSide < coordLimit - 1 := by decide
  have oversized : page.packing.place page.border image.size = (.ok .oversized, page.packing) := by
    simp only [Packing.place, Packing.footprint_of_small valid.small]
    simp only [size] at large
    refine if_pos ?_
    simp only [Image.size]
    omega
  simp only [insert, validated, oversized]

theorem Inserts.border_eq {page next : Page} {image : Image} {placement : Placement}
    (inserts : page.Inserts image placement next) : next.border = page.border := by
  rw [inserts.next_eq]

theorem Inserts.valid {page next : Page} {image : Image} {placement : Placement}
    (inserts : page.Inserts image placement next) (valid : page.Valid) : next.Valid where
  packing_valid := inserts.places.valid valid.packing_valid
  small := by
    rw [inserts.border_eq]
    exact valid.small
  size_eq := by
    rw [inserts.depicts.size_eq, valid.size_eq, size, size, inserts.places.size_eq]

/-! ## Giving back -/

theorem remove_eq_ok_iff {page next : Page} {row : Nat} {span : Span} :
    page.remove row span = (.ok (), next) ↔
      ∃ packing, page.packing.release row span = (.ok (), packing) ∧
        next = { page with packing, exhausted := false } := by
  simp only [remove]
  split
  · rename_i fault packing released
    simp [released]
  · rename_i packing released
    simp [released, eq_comm]

theorem Valid.remove_of_holds {page : Page} (valid : page.Valid) {row : Nat} {span : Span}
    (held : page.packing.Holds row span) : ∃ next, page.remove row span = (.ok (), next) := by
  obtain ⟨packing, released⟩ := valid.packing_valid.release_of_holds held
  exact ⟨_, remove_eq_ok_iff.mpr ⟨_, released, rfl⟩⟩

/-- The place is given back; the texels stay. -/
structure Removes (page : Page) (row : Nat) (span : Span) (next : Page) : Prop where
  releases : page.packing.Releases row span next.packing
  next_eq : next = { page with packing := next.packing, exhausted := false }

theorem Valid.remove_ok {page next : Page} (valid : page.Valid) {row : Nat} {span : Span}
    (success : page.remove row span = (.ok (), next)) : page.Removes row span next := by
  obtain ⟨packing, released, rfl⟩ := remove_eq_ok_iff.mp success
  exact ⟨valid.packing_valid.releases released, rfl⟩

/-- What cannot be taken out leaves all of the page as it is, also the mark that it is full. -/
theorem remove_cases {page : Page} (valid : page.packing.Valid) (row : Nat) (span : Span) :
    (∃ fault, page.remove row span = (.error fault, page)) ∨
      ∃ next, page.remove row span = (.ok (), next) ∧ page.Removes row span next := by
  rcases valid.release_cases row span with ⟨fault, refused⟩ | ⟨packing, released, releases⟩
  · exact Or.inl ⟨fault, by simp only [remove, refused]⟩
  · exact Or.inr ⟨_, remove_eq_ok_iff.mpr ⟨packing, released, rfl⟩, releases, rfl⟩

theorem Removes.border_eq {page next : Page} {row : Nat} {span : Span}
    (removes : page.Removes row span next) : next.border = page.border := by
  rw [removes.next_eq]

theorem Removes.texels_eq {page next : Page} {row : Nat} {span : Span}
    (removes : page.Removes row span next) : next.texels = page.texels := by
  rw [removes.next_eq]

theorem Removes.valid {page next : Page} {row : Nat} {span : Span}
    (removes : page.Removes row span next) (valid : page.Valid) : next.Valid := by
  refine ⟨removes.releases.valid, ?_, ?_⟩
  · rw [removes.border_eq]
    exact valid.small
  · rw [removes.texels_eq, valid.size_eq, size, size, removes.releases.size_eq]

/-! ## Marks -/

/-- Pages that differ in their marks only. -/
theorem unmarked_eq_iff {page other : Page} : other.unmarked = page.unmarked ↔
    other.packing = page.packing ∧ other.border = page.border ∧ other.dedicated = page.dedicated ∧
      other.texels = page.texels := by
  simp only [unmarked, Page.mk.injEq, and_true]

theorem Valid.of_unmarked_eq {page other : Page} (same : other.unmarked = page.unmarked)
    (valid : page.Valid) : other.Valid := by
  obtain ⟨packing_eq, border_eq, _, texels_eq⟩ := unmarked_eq_iff.mp same
  refine ⟨packing_eq ▸ valid.packing_valid, border_eq ▸ valid.small, ?_⟩
  rw [texels_eq, valid.size_eq, size, size, packing_eq]

theorem flush_unmarked (page : Page) (index : Nat) :
    (page.flush index).2.2.unmarked = page.unmarked := by
  simp only [flush]
  split <;> rfl

theorem dropBitmap_unmarked (page : Page) (index : Nat) :
    (page.dropBitmap index).2.unmarked = page.unmarked := by
  simp only [dropBitmap]
  split <;> rfl

end TextureAtlas.Page
