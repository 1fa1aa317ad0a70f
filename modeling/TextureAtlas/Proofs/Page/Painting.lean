import TextureAtlas.Proofs.Page.Canvas
import TextureAtlas.Settings

/-! # What `paint` draws

Around its frame an image is continued by its nearest texel, as far as the border goes
(`Image.nearest?`). `paint` draws exactly that and nothing else, whatever was on the canvas before, and
it neither leaves the canvas nor meets a number out of range (`paint_depicts`). The regions of the
proof are the rectangles painted after so many rounds of each loop. -/
set_option autoImplicit false

namespace TextureAtlas

namespace Image

/-- What `validate` makes sure of. -/
structure Valid (image : Image) : Prop where
  width_pos : 0 < image.width
  height_pos : 0 < image.height
  width_le : image.width ≤ image.stride
  covered : image.stride * (image.height - 1) + image.width ≤ image.texels.size
  small : image.stride * (image.height - 1) + image.width < positionLimit

theorem valid_of_validate {image : Image} (valid : image.validate = .ok ()) : image.Valid := by
  simp only [validate, requiredLength?] at valid
  split at valid
  · cases valid
  rename_i positive
  split at valid
  · cases valid
  rename_i wide
  by_cases start : image.stride * (image.height - 1) < positionLimit
  · rw [position?_of_lt start] at valid
    by_cases length : image.stride * (image.height - 1) + image.width < positionLimit
    · simp only [Option.bind_eq_bind, Option.bind_some, position?_of_lt length] at valid
      split at valid
      · rename_i covered
        exact ⟨by omega, by omega, by omega, covered, length⟩
      · cases valid
    · simp only [Option.bind_eq_bind, Option.bind_some, position?, if_neg length] at valid
      cases valid
  · simp only [Option.bind_eq_bind, position?, if_neg start, Option.bind_none] at valid
    cases valid

theorem requiredLength?_of_lt {image : Image}
    (small : image.stride * (image.height - 1) + image.width < positionLimit) :
    image.requiredLength? = some (image.stride * (image.height - 1) + image.width) := by
  rw [requiredLength?, position?_of_lt (by omega)]
  exact position?_of_lt small

theorem validate_of_valid {image : Image} (valid : image.Valid) : image.validate = .ok () := by
  have width_pos := valid.width_pos
  have height_pos := valid.height_pos
  have positive : ¬ (image.width = 0 ∨ image.height = 0) := by omega
  simp only [validate, if_neg positive, if_neg (Nat.not_lt.mpr valid.width_le),
    requiredLength?_of_lt valid.small, if_pos valid.covered]

/-- A packed image needs as many texels as it shows. -/
theorem packed_length {height : Nat} (height_pos : 0 < height) (width : Nat) :
    width * (height - 1) + width = width * height := by
  rw [← Nat.mul_succ, Nat.succ_eq_add_one, Nat.sub_add_cancel height_pos]

theorem valid_packed {width height : Nat} {texels : Array UInt32} (width_pos : 0 < width)
    (height_pos : 0 < height) (covered : width * height ≤ texels.size)
    (small : width * height < positionLimit) : (packed width height texels).Valid where
  width_pos := width_pos
  height_pos := height_pos
  width_le := Nat.le_refl width
  covered := packed_length height_pos width ▸ covered
  small := packed_length height_pos width ▸ small

theorem error_of_validate {image : Image} {error : Error} (refused : image.validate = .error error) :
    ∃ cause, error = .invalidArgument cause := by
  simp only [validate] at refused
  split at refused
  · cases refused
    exact ⟨_, rfl⟩
  split at refused
  · cases refused
    exact ⟨_, rfl⟩
  split at refused
  · split at refused <;> cases refused
    exact ⟨_, rfl⟩
  · cases refused
    exact ⟨_, rfl⟩

/-- The texel in this column and line. -/
def texel? (image : Image) (x y : Nat) : Option UInt32 := image.texels[y * image.stride + x]?

/-- The texel nearest to `(x, y)` when the image is at `frame`. -/
def nearest? (image : Image) (frame : Rectangle) (x y : Nat) : Option UInt32 :=
  image.texel? (min (x - frame.x) (image.width - 1)) (min (y - frame.y) (image.height - 1))

/-- No line starts after the last one. -/
theorem line_start_le {image : Image} {y : Nat} (less : y < image.height) :
    y * image.stride ≤ image.stride * (image.height - 1) := by
  rw [Nat.mul_comm]
  exact Nat.mul_le_mul_left _ (Nat.le_sub_one_of_lt less)

theorem nearest?_isSome {image : Image} (valid : image.Valid) (frame : Rectangle) (x y : Nat) :
    ∃ texel, image.nearest? frame x y = some texel := by
  have width_pos := valid.width_pos
  have height_pos := valid.height_pos
  have covered := valid.covered
  have line_le := @line_start_le image (min (y - frame.y) (image.height - 1)) (by omega)
  have column_le : min (x - frame.x) (image.width - 1) ≤ image.width - 1 := Nat.min_le_right _ _
  exact ⟨_, Array.getElem?_eq_getElem (by omega)⟩

theorem line_of_lt {image : Image} (valid : image.Valid) {y : Nat} (less : y < image.height) :
    ∃ run, image.line y = .ok run ∧ run.length = image.width ∧
      ∀ i < image.width, run[i]? = image.texel? i y := by
  have covered := valid.covered
  have small := valid.small
  have before := line_start_le less
  obtain ⟨run, read, length_eq, texels⟩ :=
    @readTexels_of_fits image.texels (y * image.stride) image.width (by omega)
  refine ⟨run, ?_, length_eq, texels⟩
  rw [line, position_of_lt (by omega), ok_bind, read]

end Image

/-- The image may be painted at the frame: a border around it is still on the canvas. -/
structure Framed (stride lines border : Nat) (image : Image) (frame : Rectangle) : Prop where
  valid : image.Valid
  width_eq : frame.width = image.width
  height_eq : frame.height = image.height
  left : border ≤ frame.x
  top : border ≤ frame.y
  right : frame.x + frame.width + border ≤ stride
  bottom : frame.y + frame.height + border ≤ lines
  stride_le : stride ≤ maxPageSide
  lines_le : lines ≤ maxPageSide

/-- The texels of the frame and of the border around it. -/
def Rectangle.Surrounds (frame : Rectangle) (border x y : Nat) : Prop :=
  frame.x ≤ x + border ∧ x < frame.x + frame.width + border ∧
    frame.y ≤ y + border ∧ y < frame.y + frame.height + border

/-- A line of the canvas ends inside the buffer. -/
theorem line_fits {stride lines y : Nat} (less : y < lines) :
    y * stride + stride ≤ stride * lines := by
  have := Nat.mul_le_mul_right stride (Nat.succ_le_of_lt less)
  rw [Nat.succ_mul, Nat.mul_comm lines] at this
  exact this

/-- No position on a page is out of range. -/
theorem position_of_le_area {stride lines n : Nat} (stride_le : stride ≤ maxPageSide)
    (lines_le : lines ≤ maxPageSide) (less : n ≤ stride * lines) : position n = .ok n := by
  have area : stride * lines ≤ maxPageSide * maxPageSide := Nat.mul_le_mul stride_le lines_le
  have limit : maxPageSide * maxPageSide < positionLimit := by decide
  exact position_of_lt (by omega)

namespace Framed

variable {stride lines border : Nat} {image : Image} {frame : Rectangle}

theorem coord_line (framed : Framed stride lines border image frame) {y : Nat} (less : y ≤ lines) :
    coord y = .ok y := by
  have lines_le := framed.lines_le
  have limit : maxPageSide < coordLimit := by decide
  exact coord_of_lt (by omega)

theorem position_le (framed : Framed stride lines border image frame) {n : Nat}
    (less : n ≤ stride * lines) : position n = .ok n :=
  position_of_le_area framed.stride_le framed.lines_le less

theorem locate_eq (framed : Framed stride lines border image frame) {x y : Nat} (inLine : x ≤ stride)
    (less : y < lines) : Paint.locate stride x y = .ok (y * stride + x) := by
  have := @line_fits stride lines y less
  exact framed.position_le (by omega)

end Framed

namespace Paint

variable {stride lines border : Nat} {image : Image} {frame : Rectangle}
  {before canvas : Array UInt32}

/-- The lines of the image that are painted after `done` rounds. -/
def Blitted (frame : Rectangle) (done x y : Nat) : Prop :=
  frame.x ≤ x ∧ x < frame.x + frame.width ∧ frame.y ≤ y ∧ y < frame.y + done

theorem blit_depicts (framed : Framed stride lines border image frame)
    (size_eq : canvas.size = stride * lines) :
    ∃ painted, (blit stride image frame).run canvas = .ok () painted ∧
      Depicts stride (image.nearest? frame) (Blitted frame frame.height) canvas painted := by
  have ⟨valid, width_eq, height_eq, left, top, right, bottom, _, _⟩ := framed
  rw [height_eq, blit]
  apply forM_range image.height fun done painted =>
    Depicts stride (image.nearest? frame) (Blitted frame done) canvas painted
  · apply Depicts.unpainted
    intro x y
    simp only [Blitted]
    omega
  · intro done middle less shown
    have onCanvas : frame.y + done < lines := by omega
    have fits := @line_fits stride lines (frame.y + done) onCanvas
    rw [← size_eq] at fits
    obtain ⟨run, line, length_eq, texels⟩ := Image.line_of_lt framed.valid less
    have drawn : ∀ i < run.length, run[i]? = image.nearest? frame (frame.x + i) (frame.y + done) := by
      intro i inRun
      have column : min (frame.x + i - frame.x) (image.width - 1) = i := by omega
      have row : min (frame.y + done - frame.y) (image.height - 1) = done := by omega
      rw [texels i (by omega), Image.nearest?, column, row]
    have grown : ∀ x y, Blitted frame (done + 1) x y ↔ Blitted frame done x y ∨
        y = frame.y + done ∧ frame.x ≤ x ∧ x < frame.x + run.length := by
      intro x y
      simp only [Blitted]
      omega
    obtain ⟨painted, written, shown'⟩ := shown.write _ (by omega) fits drawn grown
    refine ⟨painted, ?_, shown'⟩
    rw [framed.coord_line (Nat.le_of_lt onCanvas), ok_bind, framed.locate_eq (by omega) onCanvas,
      lift_bind, line, lift_bind, written]

/-- The lines of the image, the first `done` of them drawn out by the border on both sides. -/
def Widened (frame : Rectangle) (border done x y : Nat) : Prop :=
  Blitted frame frame.height x y ∨
    frame.x ≤ x + border ∧ x < frame.x + frame.width + border ∧ frame.y ≤ y ∧ y < frame.y + done

/-- The same, and the next line drawn out by `offset`. -/
def Widening (frame : Rectangle) (border done offset x y : Nat) : Prop :=
  Widened frame border done x y ∨
    y = frame.y + done ∧ frame.x ≤ x + offset ∧ x < frame.x + frame.width + offset

/-- A texel more on the left, and one on the right. -/
theorem widening_succ {done offset : Nat} (near : offset + 1 ≤ frame.x) (x y : Nat) :
    Widening frame border done (offset + 1) x y ↔
      (Widening frame border done offset x y ∨
        y = frame.y + done ∧ frame.x - (offset + 1) ≤ x ∧ x < frame.x - (offset + 1) + 1) ∨
      y = frame.y + done ∧ frame.x + frame.width + offset ≤ x ∧
        x < frame.x + frame.width + offset + 1 := by
  rw [Widening, Widening, or_assoc, or_assoc]
  apply or_congr_right
  omega

theorem nearest?_left {image : Image} {frame : Rectangle} {x : Nat} (le : x ≤ frame.x) (y : Nat) :
    image.nearest? frame x y = image.nearest? frame frame.x y := by
  have first : x - frame.x = frame.x - frame.x := by omega
  rw [Image.nearest?, Image.nearest?, first]

theorem nearest?_right (framed : Framed stride lines border image frame) {x : Nat}
    (le : frame.x + frame.width - 1 ≤ x) (y : Nat) :
    image.nearest? frame x y = image.nearest? frame (frame.x + frame.width - 1) y := by
  have width_eq := framed.width_eq
  have last : min (x - frame.x) (image.width - 1) =
      min (frame.x + frame.width - 1 - frame.x) (image.width - 1) := by omega
  rw [Image.nearest?, Image.nearest?, last]

theorem nearest?_above {image : Image} {frame : Rectangle} {y : Nat} (le : y ≤ frame.y) (x : Nat) :
    image.nearest? frame x y = image.nearest? frame x frame.y := by
  have first : y - frame.y = frame.y - frame.y := by omega
  rw [Image.nearest?, Image.nearest?, first]

theorem nearest?_below (framed : Framed stride lines border image frame) {y : Nat}
    (le : frame.y + frame.height - 1 ≤ y) (x : Nat) :
    image.nearest? frame x y = image.nearest? frame x (frame.y + frame.height - 1) := by
  have height_eq := framed.height_eq
  have last : min (y - frame.y) (image.height - 1) =
      min (frame.y + frame.height - 1 - frame.y) (image.height - 1) := by omega
  rw [Image.nearest?, Image.nearest?, last]

/-- One round draws a texel on the left and then one on the right. -/
theorem widenRound_depicts (framed : Framed stride lines border image frame) {done offset : Nat}
    (less : done < frame.height) (near : offset < border) (size_eq : before.size = stride * lines)
    (shown : Depicts stride (image.nearest? frame) (Widening frame border done offset) before canvas) :
    ∃ painted, (do
        copyRun ((frame.y + done) * stride + frame.x)
          (← lift (minus ((frame.y + done) * stride + frame.x) (offset + 1))) 1
        copyRun ((frame.y + done) * stride + (frame.x + frame.width - 1))
          (← lift (position ((frame.y + done) * stride + (frame.x + frame.width - 1) +
            (offset + 1)))) 1 : Paint Unit).run canvas = .ok () painted ∧
      Depicts stride (image.nearest? frame) (Widening frame border done (offset + 1)) before
        painted := by
  have width_pos := framed.valid.width_pos
  have ⟨_, width_eq, height_eq, left, top, right, bottom, _, _⟩ := framed
  have onCanvas : frame.y + done < lines := by omega
  have fits := @line_fits stride lines (frame.y + done) onCanvas
  rw [← size_eq] at fits
  have leftward : minus ((frame.y + done) * stride + frame.x) (offset + 1) =
      .ok ((frame.y + done) * stride + (frame.x - (offset + 1))) := by
    rw [minus_of_le (by omega)]
    congr 1
    omega
  have rightward : position ((frame.y + done) * stride + (frame.x + frame.width - 1) + (offset + 1)) =
      .ok ((frame.y + done) * stride + (frame.x + frame.width + offset)) := by
    rw [framed.position_le (by omega)]
    congr 1
    omega
  obtain ⟨half, first, shownHalf⟩ := shown.copy
    (fun x y => Widening frame border done offset x y ∨
      y = frame.y + done ∧ frame.x - (offset + 1) ≤ x ∧ x < frame.x - (offset + 1) + 1)
    1 frame.x (frame.y + done) (frame.x - (offset + 1)) (frame.y + done)
    (by omega) fits (by omega) fits
    (by intro i single; simp only [Widening, Widened, Blitted]; omega)
    (by
      intro i single
      have : i = 0 := by omega
      subst this
      exact (nearest?_left (by omega) _).symm)
    (fun x y => Iff.rfl)
  obtain ⟨painted, second, shown'⟩ := shownHalf.copy
    (Widening frame border done (offset + 1))
    1 (frame.x + frame.width - 1) (frame.y + done) (frame.x + frame.width + offset) (frame.y + done)
    (by omega) fits (by omega) fits
    (by intro i single; simp only [Widening, Widened, Blitted]; omega)
    (by
      intro i single
      have : i = 0 := by omega
      subst this
      exact (nearest?_right framed (by omega) _).symm)
    (widening_succ (by omega))
  refine ⟨painted, ?_, shown'⟩
  rw [leftward, lift_bind, bind_run first, rightward, lift_bind, second]

theorem widenLine_depicts (framed : Framed stride lines border image frame) {done : Nat}
    (less : done < frame.height) (size_eq : before.size = stride * lines)
    (shown : Depicts stride (image.nearest? frame) (Widened frame border done) before canvas) :
    ∃ painted, (widenLine border ((frame.y + done) * stride + frame.x)
        ((frame.y + done) * stride + (frame.x + frame.width - 1))).run canvas = .ok () painted ∧
      Depicts stride (image.nearest? frame) (Widened frame border (done + 1)) before painted := by
  have start : Depicts stride (image.nearest? frame) (Widening frame border done 0) before canvas := by
    apply shown.congr
    intro x y
    simp only [Widening, Widened, Blitted]
    omega
  obtain ⟨painted, rounds, shown'⟩ := forM_range border
    (fun offset painted =>
      Depicts stride (image.nearest? frame) (Widening frame border done offset) before painted)
    start fun offset middle near shown => widenRound_depicts framed less near size_eq shown
  refine ⟨painted, rounds, shown'.congr ?_⟩
  intro x y
  simp only [Widening, Widened, Blitted]
  omega

theorem widenLines_depicts (framed : Framed stride lines border image frame)
    (size_eq : before.size = stride * lines)
    (shown : Depicts stride (image.nearest? frame) (Blitted frame frame.height) before canvas) :
    ∃ painted, (widenLines stride border frame).run canvas = .ok () painted ∧
      Depicts stride (image.nearest? frame) (Widened frame border frame.height) before painted := by
  have width_pos := framed.valid.width_pos
  have ⟨_, width_eq, height_eq, left, top, right, bottom, _, _⟩ := framed
  rw [widenLines]
  apply forM_range frame.height fun done painted =>
    Depicts stride (image.nearest? frame) (Widened frame border done) before painted
  · apply shown.congr
    intro x y
    simp only [Widened, Blitted]
    omega
  · intro done middle less shown
    have onCanvas : frame.y + done < lines := by omega
    have last : minus ((frame.y + done) * stride + frame.x + frame.width) 1 =
        .ok ((frame.y + done) * stride + (frame.x + frame.width - 1)) := by
      rw [minus_of_le (by omega)]
      congr 1
      omega
    obtain ⟨painted, widened, shown'⟩ := widenLine_depicts framed less size_eq shown
    refine ⟨painted, ?_, shown'⟩
    rw [framed.coord_line (Nat.le_of_lt onCanvas), ok_bind, framed.locate_eq (by omega) onCanvas,
      lift_bind, last, lift_bind, widened]

/-- The widened lines, repeated by `done` lines above and below. -/
def Repeated (frame : Rectangle) (border done x y : Nat) : Prop :=
  frame.x ≤ x + border ∧ x < frame.x + frame.width + border ∧
    frame.y ≤ y + done ∧ y < frame.y + frame.height + done

/-- One round repeats a line above and then one below. -/
theorem repeatRound_depicts (framed : Framed stride lines border image frame) {done : Nat}
    (near : done < border) (size_eq : before.size = stride * lines)
    (shown : Depicts stride (image.nearest? frame) (Repeated frame border done) before canvas) :
    ∃ painted, (do
        copyRun (frame.y * stride + (frame.x - border))
          (← lift (minus (frame.y * stride + (frame.x - border)) ((done + 1) * stride)))
          (frame.width + 2 * border)
        copyRun ((frame.y + frame.height - 1) * stride + (frame.x - border))
          (← lift (position ((frame.y + frame.height - 1) * stride + (frame.x - border) +
            (done + 1) * stride))) (frame.width + 2 * border) : Paint Unit).run canvas =
        .ok () painted ∧
      Depicts stride (image.nearest? frame) (Repeated frame border (done + 1)) before painted := by
  have height_pos := framed.valid.height_pos
  have ⟨_, width_eq, height_eq, left, top, right, bottom, _, _⟩ := framed
  have fits : ∀ {y : Nat}, y < lines → y * stride + stride ≤ before.size := by
    intro y less
    rw [size_eq]
    exact line_fits less
  have above : (done + 1) * stride ≤ frame.y * stride := Nat.mul_le_mul_right stride (by omega)
  have upward : minus (frame.y * stride + (frame.x - border)) ((done + 1) * stride) =
      .ok ((frame.y - (done + 1)) * stride + (frame.x - border)) := by
    rw [minus_of_le (by omega), Nat.sub_mul]
    congr 1
    omega
  have downward : position ((frame.y + frame.height - 1) * stride + (frame.x - border) +
      (done + 1) * stride) =
      .ok ((frame.y + frame.height + done) * stride + (frame.x - border)) := by
    have line_eq : frame.y + frame.height + done = frame.y + frame.height - 1 + (done + 1) := by omega
    have within := @line_fits stride lines (frame.y + frame.height + done) (by omega)
    rw [line_eq, Nat.add_mul (frame.y + frame.height - 1)] at within ⊢
    rw [framed.position_le (by omega)]
    congr 1
    omega
  obtain ⟨half, first, shownHalf⟩ := shown.copy
    (fun x y => Repeated frame border done x y ∨ y = frame.y - (done + 1) ∧
      frame.x - border ≤ x ∧ x < frame.x - border + (frame.width + 2 * border))
    (frame.width + 2 * border) (frame.x - border) frame.y (frame.x - border) (frame.y - (done + 1))
    (by omega) (fits (by omega)) (by omega) (fits (by omega))
    (by intro i inLine; simp only [Repeated]; omega)
    (by intro i inLine; exact (nearest?_above (by omega) _).symm)
    (fun x y => Iff.rfl)
  obtain ⟨painted, second, shown'⟩ := shownHalf.copy (Repeated frame border (done + 1))
    (frame.width + 2 * border) (frame.x - border) (frame.y + frame.height - 1) (frame.x - border)
    (frame.y + frame.height + done)
    (by omega) (fits (by omega)) (by omega) (fits (by omega))
    (by intro i inLine; simp only [Repeated]; omega)
    (by intro i inLine; exact (nearest?_below framed (by omega) _).symm)
    (by intro x y; simp only [Repeated]; omega)
  refine ⟨painted, ?_, shown'⟩
  rw [upward, lift_bind, bind_run first, downward, lift_bind, second]

theorem repeatLines_depicts (framed : Framed stride lines border image frame)
    (size_eq : before.size = stride * lines)
    (shown : Depicts stride (image.nearest? frame) (Widened frame border frame.height) before
      canvas) :
    ∃ painted, (repeatLines stride border (frame.y * stride + (frame.x - border))
        ((frame.y + frame.height - 1) * stride + (frame.x - border))
        (frame.width + 2 * border)).run canvas = .ok () painted ∧
      Depicts stride (image.nearest? frame) (Repeated frame border border) before painted := by
  rw [repeatLines]
  apply forM_range border fun done painted =>
    Depicts stride (image.nearest? frame) (Repeated frame border done) before painted
  · apply shown.congr
    intro x y
    simp only [Repeated, Widened, Blitted]
    omega
  · intro done middle near shown
    exact repeatRound_depicts framed near size_eq shown

theorem drawOutEdge_depicts (framed : Framed stride lines border image frame)
    (size_eq : before.size = stride * lines)
    (shown : Depicts stride (image.nearest? frame) (Blitted frame frame.height) before canvas) :
    ∃ painted, (drawOutEdge stride border frame).run canvas = .ok () painted ∧
      Depicts stride (image.nearest? frame) (frame.Surrounds border) before painted := by
  have width_pos := framed.valid.width_pos
  have height_pos := framed.valid.height_pos
  have ⟨_, width_eq, height_eq, left, top, right, bottom, _, _⟩ := framed
  obtain ⟨middle, widened, shownMiddle⟩ := widenLines_depicts framed size_eq shown
  obtain ⟨painted, repeated, shown'⟩ := repeatLines_depicts framed size_eq shownMiddle
  have last : minus (frame.y + frame.height) 1 = .ok (frame.y + frame.height - 1) :=
    minus_of_le (by omega)
  have corner : ∀ y, minus (y * stride + frame.x) border = .ok (y * stride + (frame.x - border)) := by
    intro y
    rw [minus_of_le (by omega)]
    congr 1
    omega
  refine ⟨painted, ?_, shown'⟩
  rw [drawOutEdge, bind_run widened, framed.coord_line (by omega), ok_bind, last, lift_bind,
    framed.locate_eq (by omega) (by omega), ok_bind, corner, lift_bind,
    framed.locate_eq (by omega) (by omega), ok_bind, corner, lift_bind, repeated]

end Paint

/-- Painting draws the image and its surroundings, and leaves every other texel alone. -/
theorem paint_depicts {stride lines border : Nat} {image : Image} {frame : Rectangle}
    {canvas : Array UInt32} (framed : Framed stride lines border image frame)
    (size_eq : canvas.size = stride * lines) :
    ∃ painted, (paint stride border image frame).run canvas = .ok () painted ∧
      Depicts stride (image.nearest? frame) (frame.Surrounds border) canvas painted := by
  obtain ⟨blitted, drawn, shown⟩ := Paint.blit_depicts framed size_eq
  rw [paint, Paint.bind_run drawn]
  by_cases bordered : 0 < border
  · rw [if_pos bordered]
    exact Paint.drawOutEdge_depicts framed size_eq shown
  · rw [if_neg bordered]
    refine ⟨blitted, rfl, shown.congr ?_⟩
    intro x y
    simp only [Rectangle.Surrounds, Paint.Blitted]
    omega

end TextureAtlas
