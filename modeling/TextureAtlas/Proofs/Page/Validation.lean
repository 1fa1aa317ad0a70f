import TextureAtlas.Proofs.Page.Painting

/-! # Which images are valid

`validate` compares one number with the buffer, where the last line of the image ends. For an image whose
sides and stride are coordinates this number is always in range, and since no line ends later, the buffer then
reaches to the end of each (`validate_exact`). So to read the lines of a valid image needs no further check. -/
set_option autoImplicit false

namespace TextureAtlas

/-! ## Readable lines -/

theorem readTexels_eq_error_iff {buffer : Array UInt32} {start length : Nat} {fault : Fault} :
    readTexels buffer start length = .error fault ↔
      buffer.size < start + length ∧ fault = .outOfBounds := by
  unfold readTexels
  by_cases fits : start + length ≤ buffer.size
  · have within : ¬ buffer.size < start + length := Nat.not_lt.mpr fits
    simp [fits, within]
  · have beyond : buffer.size < start + length := Nat.not_le.mp fits
    simp [fits, beyond, eq_comm]

/-- A product of two coordinates and one more make a position. -/
theorem mul_add_lt_positionLimit {a b c : Nat} (a_lt : a < coordLimit) (b_lt : b < coordLimit)
    (c_lt : c < coordLimit) : a * b + c < positionLimit := by
  have product : a * b ≤ (coordLimit - 1) * (coordLimit - 1) :=
    Nat.mul_le_mul (by omega) (by omega)
  have limit : (coordLimit - 1) * (coordLimit - 1) + (coordLimit - 1) < positionLimit := by decide
  omega

namespace Image

/-- The sides and the stride are coordinates. -/
structure InRange (image : Image) : Prop where
  width_lt : image.width < coordLimit
  height_lt : image.height < coordLimit
  stride_lt : image.stride < coordLimit

variable {image : Image} {y : Nat}

theorem InRange.line_eq (inRange : image.InRange) (less : y < image.height) :
    image.line y = readTexels image.texels (y * image.stride) image.width := by
  have small := mul_add_lt_positionLimit (Nat.lt_trans less inRange.height_lt) inRange.stride_lt
    inRange.width_lt
  rw [line, position_of_lt (by omega), ok_bind]

theorem InRange.line_eq_ok_iff (inRange : image.InRange) (less : y < image.height) :
    (∃ run, image.line y = .ok run) ↔ y * image.stride + image.width ≤ image.texels.size := by
  rw [inRange.line_eq less]
  constructor
  · intro readable
    obtain ⟨run, read⟩ := readable
    apply Nat.not_lt.mp
    intro beyond
    cases read.symm.trans (readTexels_eq_error_iff.mpr ⟨beyond, rfl⟩)
  · intro fits
    obtain ⟨run, read, _⟩ := readTexels_of_fits fits
    exact ⟨run, read⟩

theorem InRange.line_eq_error_iff (inRange : image.InRange) (less : y < image.height) {fault : Fault} :
    image.line y = .error fault ↔
      image.texels.size < y * image.stride + image.width ∧ fault = .outOfBounds := by
  rw [inRange.line_eq less, readTexels_eq_error_iff]

/-! ## Validation -/

theorem InRange.length_lt (inRange : image.InRange) :
    image.stride * (image.height - 1) + image.width < positionLimit :=
  mul_add_lt_positionLimit inRange.stride_lt
    (Nat.lt_of_le_of_lt (Nat.sub_le _ _) inRange.height_lt) inRange.width_lt

theorem InRange.requiredLength?_eq (inRange : image.InRange) :
    image.requiredLength? = some (image.stride * (image.height - 1) + image.width) :=
  requiredLength?_of_lt inRange.length_lt

theorem InRange.valid_iff (inRange : image.InRange) :
    image.Valid ↔ 0 < image.width ∧ 0 < image.height ∧ image.width ≤ image.stride ∧
      ∀ y < image.height, ∃ run, image.line y = .ok run := by
  constructor
  · intro valid
    refine ⟨valid.width_pos, valid.height_pos, valid.width_le, ?_⟩
    intro y less
    have stop_le := Nat.add_le_add_right (line_start_le less) image.width
    exact (inRange.line_eq_ok_iff less).mpr (Nat.le_trans stop_le valid.covered)
  · intro readable
    obtain ⟨width_pos, height_pos, width_le, readable⟩ := readable
    have less : image.height - 1 < image.height := Nat.sub_lt height_pos Nat.one_pos
    have last := (inRange.line_eq_ok_iff less).mp (readable _ less)
    rw [Nat.mul_comm] at last
    exact ⟨width_pos, height_pos, width_le, last, inRange.length_lt⟩

/-- With sides and a stride that will do, only the end of the last line is left to check. -/
theorem InRange.validate_eq_error_iff (inRange : image.InRange) (width_pos : 0 < image.width)
    (height_pos : 0 < image.height) (width_le : image.width ≤ image.stride) {error : Error} :
    image.validate = .error error ↔
      image.texels.size < image.stride * (image.height - 1) + image.width ∧
        error = .invalidArgument .shortBuffer := by
  have nonempty : ¬ (image.width = 0 ∨ image.height = 0) := by omega
  simp only [validate, if_neg nonempty, if_neg (Nat.not_lt.mpr width_le), inRange.requiredLength?_eq]
  by_cases covered : image.stride * (image.height - 1) + image.width ≤ image.texels.size
  · have reached := Nat.not_lt.mpr covered
    simp [covered, reached]
  · have beyond := Nat.not_le.mp covered
    simp [covered, beyond, eq_comm]

/-- An image is valid exactly if its sides are positive, no line is longer than the stride, and the buffer has
each line as a whole. The length that the buffer must have is always in range. If sides and stride will do, an
image is refused exactly if the buffer ends before the last line does, and then for being too short. -/
theorem validate_exact (inRange : image.InRange) :
    (image.validate = .ok () ↔ 0 < image.width ∧ 0 < image.height ∧ image.width ≤ image.stride ∧
      ∀ y < image.height, ∃ run, image.line y = .ok run) ∧
    image.requiredLength? = some (image.stride * (image.height - 1) + image.width) ∧
    (∀ y < image.height,
      ((∃ run, image.line y = .ok run) ↔ y * image.stride + image.width ≤ image.texels.size) ∧
      (image.line y = .error .outOfBounds ↔
        image.texels.size < y * image.stride + image.width)) ∧
    (0 < image.width → 0 < image.height → image.width ≤ image.stride →
      ((∃ error, image.validate = .error error) ↔
        image.line (image.height - 1) = .error .outOfBounds) ∧
      ∀ error, image.validate = .error error →
        error.message = "invalid argument: pixel buffer is too short") := by
  refine ⟨?_, inRange.requiredLength?_eq, ?_, ?_⟩
  · rw [← inRange.valid_iff]
    exact ⟨valid_of_validate, validate_of_valid⟩
  · intro y less
    refine ⟨inRange.line_eq_ok_iff less, ?_⟩
    rw [inRange.line_eq_error_iff less, and_iff_left rfl]
  · intro width_pos height_pos width_le
    have less : image.height - 1 < image.height := Nat.sub_lt height_pos Nat.one_pos
    have refused_iff (error : Error) := @InRange.validate_eq_error_iff image inRange width_pos
      height_pos width_le error
    constructor
    · rw [inRange.line_eq_error_iff less, and_iff_left rfl, Nat.mul_comm]
      simp only [refused_iff, exists_eq_right]
    · intro error refused
      rw [((refused_iff error).mp refused).2]
      rfl

/-- A buffer that ends with the last line, the same without its last texel, and a single line with the longest
stride, of which nothing but the line has to be there. -/
theorem validate_exact_lastLine :
    let exact : Image := ⟨2, 2, 3, #[1, 2, 9, 3, 4]⟩
    let short : Image := ⟨2, 2, 3, #[1, 2, 9, 3]⟩
    let single : Image := ⟨1, 1, 4294967295, #[7]⟩
    exact.InRange ∧ exact.validate = .ok () ∧ (∀ y < 2, ∃ run, exact.line y = .ok run) ∧
      short.InRange ∧ short.line 1 = .error .outOfBounds ∧
      (∃ error, short.validate = .error error ∧
        error.message = "invalid argument: pixel buffer is too short") ∧
      single.InRange ∧ single.validate = .ok () := by
  intro exact short single
  have exact_range : exact.InRange := ⟨by decide, by decide, by decide⟩
  have short_range : short.InRange := ⟨by decide, by decide, by decide⟩
  have single_range : single.InRange := ⟨by decide, by decide, by decide⟩
  have validated : exact.validate = .ok () := by rfl
  have missing : short.line 1 = .error .outOfBounds := by rfl
  obtain ⟨accepted, _⟩ := validate_exact exact_range
  obtain ⟨_, _, _, wide⟩ := validate_exact short_range
  obtain ⟨refused, message⟩ := wide (by decide) (by decide) (by decide)
  obtain ⟨error, refusal⟩ := refused.mpr missing
  obtain ⟨single_accepted, _⟩ := validate_exact single_range
  have single_lines : ∀ y < single.height, ∃ run, single.line y = .ok run := by
    intro y less
    cases Nat.lt_one_iff.mp less
    exact ⟨[7], by rfl⟩
  exact ⟨exact_range, validated, (accepted.mp validated).2.2.2, short_range, missing,
    ⟨error, refusal, message error refusal⟩, single_range,
    single_accepted.mpr ⟨by decide, by decide, by decide, single_lines⟩⟩

end Image
end TextureAtlas
