import TextureAtlas.Proofs.Page.Insertion

/-! # Images as windows

All that a page learns of an image is its size and its lines (`insert_eq_of_lines`). So neither the stride
makes a difference nor what the buffer holds before, between and after the lines; an image may as well be
packed, line by line, before it is inserted (`insert_packed`). -/
set_option autoImplicit false

namespace TextureAtlas

/-! ## Lists of lines -/

theorem mapM_of_all_ok {α β : Type} {read : α → Except Fault β} {keys : List α}
    (all : ∀ key ∈ keys, ∃ value, read key = .ok value) :
    ∃ values, keys.mapM read = .ok values ∧ keys.map read = values.map .ok := by
  induction keys with
  | nil => exact ⟨[], rfl, rfl⟩
  | cons key keys ih =>
    obtain ⟨⟨value, first_read⟩, rest_read⟩ := List.forall_mem_cons.mp all
    obtain ⟨values, success, map_eq⟩ := ih rest_read
    refine ⟨value :: values, ?_, ?_⟩
    · rw [List.mapM_cons, first_read, success]
      rfl
    · rw [List.map_cons, List.map_cons, first_read, map_eq]

section Lines

variable {α : Type} {lines : List (List α)} {width : Nat} (each : ∀ line ∈ lines, line.length = width)

include each

theorem length_flatten_of_lengths : lines.flatten.length = width * lines.length := by
  induction lines with
  | nil => rfl
  | cons first rest ih =>
    obtain ⟨first_length, rest_lengths⟩ := List.forall_mem_cons.mp each
    rw [List.flatten_cons, List.length_append, first_length, ih rest_lengths, List.length_cons,
      Nat.mul_succ, Nat.add_comm]

theorem getElem?_flatten_of_lengths {x y : Nat} (inLine : x < width) {run : List α}
    (found : lines[y]? = some run) : lines.flatten[y * width + x]? = run[x]? := by
  induction lines generalizing y with
  | nil => cases found
  | cons first rest ih =>
    obtain ⟨first_length, rest_lengths⟩ := List.forall_mem_cons.mp each
    rw [List.flatten_cons]
    cases y with
    | zero =>
      cases found
      rw [Nat.zero_mul, Nat.zero_add, List.getElem?_append_left (first_length.symm ▸ inLine)]
    | succ y =>
      have below : (y + 1) * width + x = first.length + (y * width + x) := by
        rw [first_length, Nat.succ_mul]
        omega
      rw [below, List.getElem?_append_right (Nat.le_add_right _ _), Nat.add_sub_cancel_left]
      exact ih rest_lengths found

end Lines

/-! ## Lines of images -/

namespace Image

variable {image other : Image}

/-- The lines from the first to the last. -/
def lines (image : Image) : Except Fault (List (List UInt32)) :=
  (List.range image.height).mapM image.line

theorem Valid.exists_lines (valid : image.Valid) :
    ∃ lines, image.lines = .ok lines ∧ lines.length = image.height ∧
      ∀ y < image.height, ∃ run, lines[y]? = some run ∧ run.length = image.width ∧
        ∀ x < image.width, run[x]? = image.texel? x y := by
  have readable : ∀ y ∈ List.range image.height, ∃ run, image.line y = .ok run := by
    intro y member
    obtain ⟨run, read, _⟩ := line_of_lt valid (List.mem_range.mp member)
    exact ⟨run, read⟩
  obtain ⟨lines, success, map_eq⟩ := mapM_of_all_ok readable
  have count_eq := congrArg List.length map_eq
  rw [List.length_map, List.length_map, List.length_range] at count_eq
  refine ⟨lines, success, count_eq.symm, ?_⟩
  intro y less
  obtain ⟨run, read, length_eq, texels⟩ := line_of_lt valid less
  have listed := congrArg (·[y]?) map_eq
  simp only [List.getElem?_map, List.getElem?_range less, Option.map_some, read] at listed
  obtain ⟨run', found, same⟩ := Option.map_eq_some_iff.mp listed.symm
  cases same
  exact ⟨run, found, length_eq, texels⟩

/-- A line is its texels, wherever they are in the buffer. -/
theorem line_eq_of_texels (valid : image.Valid) (valid' : other.Valid) (width_eq : other.width = image.width)
    {y : Nat} (less : y < image.height) (less' : y < other.height)
    (texels_eq : ∀ x < image.width, other.texel? x y = image.texel? x y) :
    other.line y = image.line y := by
  obtain ⟨run, read, length_eq, texels⟩ := line_of_lt valid less
  obtain ⟨run', read', length_eq', texels'⟩ := line_of_lt valid' less'
  have runs_eq : run' = run := by
    apply List.ext_getElem?'
    intro x inLine
    rw [length_eq, length_eq', width_eq, Nat.max_self] at inLine
    rw [texels' x (width_eq ▸ inLine), texels x inLine, texels_eq x inLine]
  rw [read, read', runs_eq]

theorem Valid.area_lt (valid : image.Valid) : image.width * image.height < positionLimit := by
  have height_pos := valid.height_pos
  calc image.width * image.height
      = image.width * (image.height - 1) + image.width := (packed_length height_pos _).symm
    _ ≤ image.stride * (image.height - 1) + image.width :=
        Nat.add_le_add_right (Nat.mul_le_mul_right _ valid.width_le) _
    _ < positionLimit := valid.small

/-- Packed one after the other, the lines are those of another valid image. -/
theorem Valid.packed_lines (valid : image.Valid) :
    ∃ lines, image.lines = .ok lines ∧
      let packed := Image.packed image.width image.height lines.flatten.toArray
      packed.Valid ∧ ∀ y < image.height, packed.line y = image.line y := by
  obtain ⟨lines, success, count_eq, found⟩ := valid.exists_lines
  refine ⟨lines, success, ?_⟩
  intro packed
  have each : ∀ line ∈ lines, line.length = image.width := by
    intro line member
    obtain ⟨y, inside, rfl⟩ := List.getElem_of_mem member
    obtain ⟨run, run_found, length_eq, _⟩ := found y (count_eq ▸ inside)
    cases (List.getElem?_eq_getElem inside).symm.trans run_found
    exact length_eq
  have area_eq : lines.flatten.toArray.size = image.width * image.height := by
    rw [List.size_toArray, length_flatten_of_lengths each, count_eq]
  have packed_valid : packed.Valid :=
    valid_packed valid.width_pos valid.height_pos (Nat.le_of_eq area_eq.symm) valid.area_lt
  refine ⟨packed_valid, ?_⟩
  intro y less
  apply line_eq_of_texels valid packed_valid rfl less less
  intro x inLine
  obtain ⟨run, run_found, _, texels⟩ := found y less
  rw [← texels x inLine, ← getElem?_flatten_of_lengths each inLine run_found]
  exact List.getElem?_toArray

/-- The buffer may be any other that has the same texels where the lines are. -/
theorem Valid.with_texels (valid : image.Valid) {texels : Array UInt32}
    (agree : ∀ y < image.height, ∀ x < image.width,
      { image with texels }.texel? x y = image.texel? x y) :
    { image with texels }.Valid ∧ ∀ y < image.height, { image with texels }.line y = image.line y := by
  have width_pos := valid.width_pos
  have height_pos := valid.height_pos
  have covered := valid.covered
  -- It reaches as far as the last texel of the last line.
  have last := agree (image.height - 1) (by omega) (image.width - 1) (by omega)
  have inside : image.stride * (image.height - 1) + (image.width - 1) < image.texels.size := by omega
  simp only [texel?, Nat.mul_comm _ image.stride] at last
  rw [Array.getElem?_eq_getElem inside] at last
  have reached := (Array.getElem?_eq_some_iff.mp last).1
  have next_valid : { image with texels }.Valid := {
    width_pos
    height_pos
    width_le := valid.width_le
    covered := show image.stride * (image.height - 1) + image.width ≤ texels.size by omega
    small := valid.small }
  refine ⟨next_valid, ?_⟩
  intro y less
  exact line_eq_of_texels valid next_valid rfl less less (agree y less)

end Image

/-! ## What a page learns of an image -/

section Lines

variable {image other : Image} (lines_eq : ∀ y < image.height, other.line y = image.line y)
  (size_eq : other.size = image.size)

theorem forM_congr {α : Type} {round round' : α → Paint Unit} {keys : List α}
    (same : ∀ key ∈ keys, round key = round' key) : keys.forM round = keys.forM round' := by
  induction keys with
  | nil => rfl
  | cons key keys ih =>
    obtain ⟨first_same, rest_same⟩ := List.forall_mem_cons.mp same
    have rest_eq := ih rest_same
    simp only [List.forM_eq_forM, List.forM_cons] at rest_eq ⊢
    rw [first_same, rest_eq]

include lines_eq size_eq

theorem paint_eq_of_lines (stride border : Nat) (frame : Rectangle) :
    paint stride border other frame = paint stride border image frame := by
  have height_eq : other.height = image.height := congrArg Size.height size_eq
  have blit_eq : Paint.blit stride other frame = Paint.blit stride image frame := by
    rw [Paint.blit, Paint.blit, height_eq]
    apply forM_congr
    intro y member
    rw [lines_eq y (List.mem_range.mp member)]
  rw [paint, paint, blit_eq]

theorem Page.insert_eq_of_lines (page : Page) (validated : image.validate = .ok ())
    (validated' : other.validate = .ok ()) : page.insert other = page.insert image := by
  have commit_eq : ∀ placement packing,
      page.commit other placement packing = page.commit image placement packing := by
    intro placement packing
    rw [commit, commit, paint_eq_of_lines lines_eq size_eq]
  simp only [insert, validated, validated', size_eq, commit_eq]

end Lines

namespace Page

variable {image : Image}

/-- The lines of a valid image can be packed, and a page takes the packed image as it takes the image: with
the same answer, and the page is the same afterwards. So it is for any two valid images of one size with the
same lines, and for images whose buffers differ where no line is. -/
theorem insert_packed (page : Page) (validated : image.validate = .ok ()) :
    (∃ lines, image.lines = .ok lines ∧
      let packed := Image.packed image.width image.height lines.flatten.toArray
      packed.validate = .ok () ∧ page.insert packed = page.insert image) ∧
    (∀ other : Image, other.validate = .ok () → other.size = image.size →
      (∀ y < image.height, other.line y = image.line y) → page.insert other = page.insert image) ∧
    ∀ texels : Array UInt32,
      (∀ y < image.height, ∀ x < image.width,
        texels[y * image.stride + x]? = image.texels[y * image.stride + x]?) →
      { image with texels }.validate = .ok () ∧
        page.insert { image with texels } = page.insert image := by
  have valid := Image.valid_of_validate validated
  refine ⟨?_, ?_, ?_⟩
  · obtain ⟨lines, success, packed_valid, lines_eq⟩ := valid.packed_lines
    have packed_validated := Image.validate_of_valid packed_valid
    exact ⟨lines, success, packed_validated,
      insert_eq_of_lines lines_eq rfl page validated packed_validated⟩
  · intro other validated' size_eq lines_eq
    exact insert_eq_of_lines lines_eq size_eq page validated validated'
  · intro texels agree
    obtain ⟨next_valid, lines_eq⟩ := valid.with_texels agree
    have next_validated := Image.validate_of_valid next_valid
    exact ⟨next_validated, insert_eq_of_lines lines_eq rfl page validated next_validated⟩

/-- A window of a larger buffer, the last line at the end of it. -/
def windowed : Image := ⟨2, 2, 3, #[1, 2, 9, 3, 4]⟩

theorem insert_packed_windowed :
    let other : Image := ⟨2, 2, 4, #[1, 2, 6, 7, 3, 4, 8]⟩
    let texels : Array UInt32 := #[1, 2, 0, 3, 4, 5]
    windowed.validate = .ok () ∧ windowed.lines = .ok [[1, 2], [3, 4]] ∧
      (smallPage.insert windowed).1 = .ok ⟨0, ⟨0, 4⟩, ⟨1, 1, 2, 2⟩⟩ ∧
      smallPage.insert (.packed 2 2 #[1, 2, 3, 4]) = smallPage.insert windowed ∧
      smallPage.insert other = smallPage.insert windowed ∧
      smallPage.insert { windowed with texels } = smallPage.insert windowed := by
  intro other texels
  have validated : windowed.validate = .ok () := by decide
  have lines_eq : windowed.lines = .ok [[1, 2], [3, 4]] := by decide
  have same_lines : ∀ y < windowed.height, other.line y = windowed.line y := by decide
  have same_texels : ∀ y < windowed.height, ∀ x < windowed.width,
      texels[y * windowed.stride + x]? = windowed.texels[y * windowed.stride + x]? := by decide
  obtain ⟨⟨lines, success, _, packed_same⟩, others, buffers⟩ := insert_packed smallPage validated
  cases lines_eq.symm.trans success
  exact ⟨validated, lines_eq, by decide +kernel, packed_same, others other (by decide) rfl same_lines,
    (buffers texels same_texels).2⟩

end Page
end TextureAtlas
