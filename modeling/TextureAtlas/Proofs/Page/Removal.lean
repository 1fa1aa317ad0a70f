import TextureAtlas.Proofs.Page.Stacking

/-! # Giving back just what was taken

A span is given back exactly if it is used: another span at the same start, or one inside a used span, is
refused, and a refusal changes nothing. What is given back is that span and no other. This holds of a
row, of a packing and of a page in use, the last with any border (`remove_accepts_used`). -/
set_option autoImplicit false

namespace TextureAtlas

namespace RowSpace

variable {space next : RowSpace} {span : Span}

/-- The span is used no longer, the other used spans are, and the free ones are the gaps between these. -/
structure GivesBack (space : RowSpace) (span : Span) (next : RowSpace) : Prop where
  used : span ∈ space.used
  total_eq : next.total = space.total
  mem_used_iff : ∀ other, other ∈ next.used ↔ other ∈ space.used ∧ other ≠ span
  partitioned : next.IsPartitioned

theorem Valid.givesBack (valid : space.Valid) (success : space.release span = (.ok (), next)) :
    space.GivesBack span next := by
  obtain ⟨used, total_eq, used_eq, next_valid⟩ := valid.release_ok success
  refine ⟨used, total_eq, ?_, next_valid.isPartitioned⟩
  intro other
  rw [used_eq, valid.ordered.nodup.mem_erase_iff]
  exact and_comm

/-- There is one way to fail. No number is out of range, whatever the span. -/
theorem Valid.release_eq_error_iff (valid : space.Valid) {fault : Fault} :
    (space.release span).1 = .error fault ↔ span ∉ space.used ∧ fault = .notAllocated span := by
  by_cases member : span ∈ space.used
  · obtain ⟨next, success, _⟩ := valid.release_of_mem member
    simp [success, member]
  · simp [release_of_not_mem member, member, eq_comm]

end RowSpace

theorem Packing.Valid.release_eq_error_iff {packing : Packing} (valid : packing.Valid) {index : Nat}
    {span : Span} {fault : Fault} :
    (packing.release index span).1 = .error fault ↔
      packing.rows[index]? = none ∧ fault = .noSuchRow index ∨
      ∃ row, packing.rows[index]? = some row ∧ span ∉ row.space.used ∧ fault = .notAllocated span := by
  rw [release]
  cases found : packing.rows[index]? with
  | none => simp [eq_comm]
  | some row =>
    have row_valid := valid.row_valid row (List.mem_of_getElem? found)
    simpa using row_valid.release_eq_error_iff

namespace Page

variable {page next : Page} {row : Nat} {span : Span}

theorem remove_fst (page : Page) (row : Nat) (span : Span) :
    (page.remove row span).1 = (page.packing.release row span).1 := by
  rw [remove]
  rcases page.packing.release row span with ⟨_ | _, packing⟩ <;> rfl

/-- One row gives back the span. The other rows, the texels and all marks but one stay as they are. -/
structure GivesBack (page : Page) (row : Nat) (span : Span) (next : Page) : Prop where
  row_eq : ∃ found space, page.rows[row]? = some found ∧ found.space.GivesBack span space ∧
    next.rows[row]? = some { found with space }
  others_eq : ∀ other, other ≠ row → next.rows[other]? = page.rows[other]?
  packing_eq : next.packing = { page.packing with rows := next.rows }
  next_eq : next = { page with packing := next.packing, exhausted := false }

theorem Firm.givesBack (firm : page.Firm) (success : page.remove row span = (.ok (), next)) :
    page.GivesBack row span next := by
  obtain ⟨packing, released, rfl⟩ := remove_eq_ok_iff.mp success
  obtain ⟨found, space, at_row, given, rfl⟩ := Packing.release_eq_ok_iff.mp released
  have row_valid := firm.packing_valid.row_valid found (List.mem_of_getElem? at_row)
  constructor
  case row_eq =>
    exact ⟨found, space, at_row, row_valid.givesBack given, Packing.getElem?_withSpace_self at_row⟩
  case others_eq => exact fun other differs => List.getElem?_set_ne (Ne.symm differs)
  case packing_eq => rfl
  case next_eq => rfl

/-- Whatever was asked of a row or of a page before: a span is given back exactly if it is used there, and
then nothing else is; any other span, and any row that is not there, is a fault and changes nothing. -/
theorem remove_accepts_used :
    (∀ (total : Nat) (requests : List RowSpace.Request) (span : Span), total < coordLimit →
      let space := (RowSpace.ofTotal total).after requests
      (∀ fault, (space.release span).1 = .error fault ↔
        span ∉ space.used ∧ fault = .notAllocated span) ∧
      (∀ fault, (space.release span).1 = .error fault →
        fault.message = span.text ++ " is not allocated here" ∧ space.answer (.release span) = space) ∧
      ∀ next, space.release span = (.ok (), next) → space.GivesBack span next) ∧
    ∀ (size : Size) (border : Nat) (dedicated : Bool) (first : Page) (requests : List Request)
      (row : Nat) (span : Span), blank size border dedicated = .ok first →
      let page := first.after requests
      (∀ fault, (page.remove row span).1 = .error fault ↔
        page.rows[row]? = none ∧ fault = .noSuchRow row ∨
        ∃ found, page.rows[row]? = some found ∧ span ∉ found.space.used ∧
          fault = .notAllocated span) ∧
      (∀ fault, (page.remove row span).1 = .error fault → page.answer (.remove row span) = page) ∧
      ∀ next, page.remove row span = (.ok (), next) → page.GivesBack row span next := by
  constructor
  · intro total requests span small space
    have valid : space.Valid := ((RowSpace.valid_ofTotal small).after requests).1
    refine ⟨fun fault => valid.release_eq_error_iff, ?_, fun next => valid.givesBack⟩
    intro fault refused
    obtain ⟨foreign, rfl⟩ := valid.release_eq_error_iff.mp refused
    exact ⟨rfl, congrArg Prod.snd (RowSpace.release_of_not_mem foreign)⟩
  · intro size border dedicated first requests row span blanked page
    have firm : page.Firm := (Firm.of_after blanked requests).1
    refine ⟨?_, ?_, fun next => firm.givesBack⟩
    · intro fault
      rw [remove_fst]
      exact firm.packing_valid.release_eq_error_iff
    · intro fault refused
      rcases remove_cases firm.packing_valid row span with ⟨_, kept⟩ | ⟨_, removed, _⟩
      · exact congrArg Prod.snd kept
      · rw [removed] at refused
        cases refused

/-- One fragment and its border fill the page, and a second one was refused. -/
def filledUp : Page :=
  (⟨.empty ⟨6, 3⟩, 1, false, Array.replicate 18 0, false, false, false⟩ : Page).after
    [.insert (.packed 4 1 #[1, 2, 3, 4]), .insert (.packed 1 1 #[5])]

/-- Refused are a span of another width, one inside a used span, one without an end that is a coordinate,
and a row that is not there. -/
theorem remove_accepts_used_filledUp :
    let space := (RowSpace.ofTotal 10).after [.alloc 4, .alloc 3, .release ⟨0, 4⟩]
    10 < coordLimit ∧ space.used = [⟨4, 3⟩] ∧
      (space.release ⟨4, 2⟩).1 = .error (.notAllocated ⟨4, 2⟩) ∧
      (space.release ⟨5, 1⟩).1 = .error (.notAllocated ⟨5, 1⟩) ∧
      (space.release ⟨4294967295, 4294967295⟩).1 = .error (.notAllocated ⟨4294967295, 4294967295⟩) ∧
      space.GivesBack ⟨4, 3⟩ (space.answer (.release ⟨4, 3⟩)) ∧
      filledUp.exhausted = true ∧ (filledUp.remove 0 ⟨0, 5⟩).1 = .error (.notAllocated ⟨0, 5⟩) ∧
      filledUp.answer (.remove 0 ⟨0, 5⟩) = filledUp ∧
      (filledUp.remove 1 ⟨0, 6⟩).1 = .error (.noSuchRow 1) ∧
      filledUp.GivesBack 0 ⟨0, 6⟩ (filledUp.answer (.remove 0 ⟨0, 6⟩)) ∧
      (filledUp.answer (.remove 0 ⟨0, 6⟩)).exhausted = false := by
  have small : 10 < coordLimit := by decide
  have blanked : blank ⟨6, 3⟩ 1 false =
      .ok ⟨.empty ⟨6, 3⟩, 1, false, Array.replicate 18 0, false, false, false⟩ := rfl
  have in_row := fun span =>
    remove_accepts_used.1 10 [.alloc 4, .alloc 3, .release ⟨0, 4⟩] span small
  have on_page := fun row span => remove_accepts_used.2 ⟨6, 3⟩ 1 false _
    [.insert (.packed 4 1 #[1, 2, 3, 4]), .insert (.packed 1 1 #[5])] row span blanked
  have narrower : (filledUp.remove 0 ⟨0, 5⟩).1 = .error (.notAllocated ⟨0, 5⟩) := by decide +kernel
  refine ⟨small, by decide, ((in_row ⟨4, 2⟩).1 _).mpr ⟨by decide, rfl⟩,
    ((in_row ⟨5, 1⟩).1 _).mpr ⟨by decide, rfl⟩,
    ((in_row ⟨4294967295, 4294967295⟩).1 _).mpr ⟨by decide, rfl⟩,
    (in_row ⟨4, 3⟩).2.2 _ (by decide), by decide +kernel, narrower,
    (on_page 0 ⟨0, 5⟩).2.1 _ narrower, ((on_page 1 ⟨0, 6⟩).1 _).mpr (Or.inl ⟨by decide +kernel, rfl⟩),
    (on_page 0 ⟨0, 6⟩).2.2 _ (by decide +kernel), by decide +kernel⟩

end Page
end TextureAtlas
