import TextureAtlas.Atlas.Journal

/-! # The lines of the journal

A record can be read off its line, for no two records have the same (`Record.text_injective`). The words
of a line are fixed; a number between them ends where the first character follows that is not a digit,
and from its digits the number is known. -/
set_option autoImplicit false

namespace TextureAtlas

namespace Text

variable {rest rest' between : List Char}

/-- A word is known if what comes after it begins with a character that no word has. -/
theorem word_inj {stops : Char → Bool} {word word' : List Char} (goes : ∀ c ∈ word, stops c = false)
    (goes' : ∀ c ∈ word', stops c = false) (stop : between.head?.any stops = true)
    (same : word ++ (between ++ rest) = word' ++ (between ++ rest')) : word = word' ∧ rest = rest' := by
  cases between with
  | nil => cases stop
  | cons first between =>
    replace stop : stops first = true := stop
    induction word generalizing word' with
    | nil =>
      cases word' with
      | nil => exact ⟨rfl, List.append_cancel_left same⟩
      | cons c word' =>
        obtain ⟨rfl, _⟩ := List.cons.inj same
        cases stop.symm.trans (goes' first List.mem_cons_self)
    | cons c word ih =>
      cases word' with
      | nil =>
        obtain ⟨rfl, _⟩ := List.cons.inj same
        cases stop.symm.trans (goes c List.mem_cons_self)
      | cons c' word' =>
        obtain ⟨rfl, same'⟩ := List.cons.inj same
        obtain ⟨rfl, rest_eq⟩ :=
          ih (List.forall_mem_cons.mp goes).2 (List.forall_mem_cons.mp goes').2 same'
        exact ⟨rfl, rest_eq⟩

/-! ## Numbers -/

theorem isDigit_of_mem_toString {n : Nat} : ∀ c ∈ (toString n).toList, (!c.isDigit) = false := by
  intro c member
  rw [Nat.toString_eq_repr, Nat.toList_repr] at member
  rw [Nat.isDigit_of_mem_toDigits (by decide) (by decide) member, Bool.not_true]

theorem decimal_inj {n n' : Nat} (same : (toString n).toList = (toString n').toList) : n = n' := by
  rw [Nat.toString_eq_repr, Nat.toString_eq_repr, Nat.toList_repr, Nat.toList_repr] at same
  rw [← @Nat.ofDigitChars_ten_toDigits n, same, Nat.ofDigitChars_ten_toDigits]

theorem decimal_append_inj {n n' : Nat} (stop : (between.head?.any fun c => !c.isDigit) = true)
    (same : (toString n).toList ++ (between ++ rest) = (toString n').toList ++ (between ++ rest')) :
    n = n' ∧ rest = rest' := by
  obtain ⟨digits_eq, rest_eq⟩ :=
    word_inj isDigit_of_mem_toString isDigit_of_mem_toString stop same
  exact ⟨decimal_inj digits_eq, rest_eq⟩

def hexDigits : List Char := "0123456789abcdef".toList

/-- The number that is written with these digits. -/
def ofHex (digits : List Char) : Nat := digits.foldl (fun n digit => 16 * n + hexDigits.idxOf digit) 0

theorem digitChar_mem {n : Nat} (small : n < 16) : Nat.digitChar n ∈ hexDigits := by
  have all : ∀ n < 16, Nat.digitChar n ∈ hexDigits := by decide
  exact all n small

theorem mem_hexDigits_of_mem_hex {n : Nat} : ∀ c ∈ hex n, c ∈ hexDigits := by
  induction n using Nat.strongRecOn with
  | ind n ih =>
    rcases Nat.lt_or_ge n 16 with small | large
    · rw [hex, Nat.toDigits_of_lt_base small, List.forall_mem_singleton]
      exact digitChar_mem small
    · rw [hex, Nat.toDigits_of_base_le (by decide) large, List.forall_mem_append,
        List.forall_mem_singleton]
      exact ⟨ih (n / 16) (by omega), digitChar_mem (by omega)⟩

theorem ofHex_hex (n : Nat) : ofHex (hex n) = n := by
  have value : ∀ n < 16, hexDigits.idxOf (Nat.digitChar n) = n := by decide
  induction n using Nat.strongRecOn with
  | ind n ih =>
    rcases Nat.lt_or_ge n 16 with small | large
    · rw [hex, Nat.toDigits_of_lt_base small, ofHex, List.foldl_cons, List.foldl_nil, value n small]
      omega
    · have shorter := ih (n / 16) (by omega)
      have last := value (n % 16) (by omega)
      rw [ofHex, hex] at shorter
      rw [hex, Nat.toDigits_of_base_le (by decide) large, ofHex, List.foldl_append, shorter,
        List.foldl_cons, List.foldl_nil, last]
      omega

/-- Zeros on the left change nothing. -/
theorem ofHex_hexPadded (width n : Nat) : ofHex (hexPadded width n) = n := by
  have zeros : ∀ count, ofHex (List.replicate count '0') = 0 := by
    intro count
    induction count with
    | zero => rfl
    | succ count ih => exact ih
  rw [hexPadded, ofHex, List.foldl_append, ← ofHex, zeros, ← ofHex, ofHex_hex]

theorem hexPadded_append_inj {width n n' : Nat}
    (stop : (between.head?.any fun c => !hexDigits.contains c) = true)
    (same : hexPadded width n ++ (between ++ rest) = hexPadded width n' ++ (between ++ rest')) :
    n = n' ∧ rest = rest' := by
  have goes : ∀ n, ∀ c ∈ hexPadded width n, (!hexDigits.contains c) = false := by
    intro n
    rw [hexPadded, List.forall_mem_append]
    constructor
    · intro c member
      rw [List.eq_of_mem_replicate member]
      rfl
    · intro c member
      rw [List.contains_iff_mem.mpr (mem_hexDigits_of_mem_hex c member), Bool.not_true]
  obtain ⟨digits_eq, rest_eq⟩ := word_inj (goes n) (goes n') stop same
  refine ⟨?_, rest_eq⟩
  rw [← ofHex_hexPadded width n, digits_eq, ofHex_hexPadded]

end Text

open Text

theorem FragmentId.text_append_inj {id id' : FragmentId} {rest rest' : List Char}
    (same : id.text.toList ++ rest = id'.text.toList ++ rest') : id = id' ∧ rest = rest' := by
  simp only [text, String.toList_append, String.toList_ofList, List.append_assoc] at same
  obtain ⟨raw_eq, rest_eq⟩ := hexPadded_append_inj (by decide) (List.append_cancel_left same)
  obtain ⟨raw⟩ := id
  obtain ⟨raw'⟩ := id'
  obtain rfl : raw = raw' := UInt32.toNat_inj.mp raw_eq
  exact ⟨rfl, rest_eq⟩

theorem Size.text_append_inj {size size' : Size} {rest rest' between : List Char}
    (stop : (between.head?.any fun c => !c.isDigit) = true)
    (same : (toString size.width).toList ++ ("x".toList ++ ((toString size.height).toList ++
      (between ++ rest))) = (toString size'.width).toList ++ ("x".toList ++
        ((toString size'.height).toList ++ (between ++ rest')))) : size = size' ∧ rest = rest' := by
  obtain ⟨width, height⟩ := size
  obtain ⟨width', height'⟩ := size'
  obtain ⟨rfl, from_height⟩ := decimal_append_inj (by decide) same
  obtain ⟨rfl, rest_eq⟩ := decimal_append_inj stop from_height
  exact ⟨rfl, rest_eq⟩

theorem Rectangle.text_inj {r r' : Rectangle} (same : r.text.toList = r'.text.toList) : r = r' := by
  obtain ⟨x, y, width, height⟩ := r
  obtain ⟨x', y', width', height'⟩ := r'
  have line : ∀ r : Rectangle, r.text = "Rectangle \x7b x: " ++ toString r.x ++ ", y: " ++ toString r.y ++
      ", width: " ++ toString r.width ++ ", height: " ++ toString r.height ++ " \x7d" := fun _ => rfl
  simp only [line, String.toList_append, List.append_assoc] at same
  have from_x := List.append_cancel_left same
  obtain ⟨x_eq, from_y⟩ := decimal_append_inj (by decide) from_x
  obtain ⟨y_eq, from_width⟩ := decimal_append_inj (by decide) from_y
  obtain ⟨width_eq, from_height⟩ := decimal_append_inj (by decide) from_width
  have height_eq := decimal_inj (List.append_cancel_right from_height)
  rw [x_eq, y_eq, width_eq, height_eq]

namespace Record

/-! ## The lines, word by word -/

@[simp] theorem toList_opened (page : Nat) (size : Size) (dedicated : Bool) :
    (opened page size dedicated).text.toList = "DEBUG Created fragment map ".toList ++
      ((toString page).toList ++ (" (".toList ++ ((toString size.width).toList ++ ("x".toList ++
        ((toString size.height).toList ++ (", dedicated: ".toList ++
          ((toString dedicated).toList ++ ")".toList))))))) := by
  have line : (opened page size dedicated).text = "DEBUG " ++ ("Created fragment map " ++ toString page ++
      " (" ++ toString size.width ++ "x" ++ toString size.height ++ ", dedicated: " ++ toString dedicated ++
      ")") := rfl
  simp [line]

@[simp] theorem toList_placed (id : FragmentId) (page : Nat) (rectangle : Rectangle) :
    (placed id page rectangle).text.toList = "DEBUG Placed fragment ".toList ++
      (id.text.toList ++ (" in map ".toList ++ ((toString page).toList ++ (" at ".toList ++
        rectangle.text.toList)))) := by
  have line : (placed id page rectangle).text = "DEBUG " ++ ("Placed fragment " ++ id.text ++
      " in map " ++ toString page ++ " at " ++ rectangle.text) := rfl
  simp [line]

@[simp] theorem toList_freed (id : FragmentId) (page : Nat) :
    (freed id page).text.toList = "DEBUG Freed fragment ".toList ++
      (id.text.toList ++ (" from map ".toList ++ (toString page).toList)) := by
  have line : (freed id page).text = "DEBUG " ++ ("Freed fragment " ++ id.text ++ " from map " ++
      toString page) := rfl
  simp [line]

@[simp] theorem toList_clearing (fragments pages : Nat) :
    (clearing fragments pages).text.toList = "INFO Clearing atlas: ".toList ++
      ((toString fragments).toList ++ (" fragments in ".toList ++ ((toString pages).toList ++
        " maps".toList))) := by
  have line : (clearing fragments pages).text = "INFO " ++ ("Clearing atlas: " ++ toString fragments ++
      " fragments in " ++ toString pages ++ " maps") := rfl
  simp [line]

@[simp] theorem toList_refused (size : Size) (limit : Nat) :
    (refused size limit).text.toList = "WARN Cannot place a ".toList ++
      ((toString size.width).toList ++ ("x".toList ++ ((toString size.height).toList ++
        (" fragment: all ".toList ++ ((toString limit).toList ++ " maps are in use".toList))))) := by
  have line : (refused size limit).text = "WARN " ++ ("Cannot place a " ++ toString size.width ++ "x" ++
      toString size.height ++ " fragment: all " ++ toString limit ++ " maps are in use") := rfl
  simp [line]

theorem text_injective : Function.Injective Record.text := by
  intro record record' same
  have lines := congrArg String.toList same
  cases record with
  | opened page size dedicated =>
    cases record' with
    | opened page' size' dedicated' =>
      rw [toList_opened, toList_opened] at lines
      obtain ⟨page_eq, from_size⟩ := decimal_append_inj (by decide) (List.append_cancel_left lines)
      obtain ⟨size_eq, from_dedicated⟩ := Size.text_append_inj (by decide) from_size
      have dedicated_eq : dedicated = dedicated' := by
        have words := List.append_cancel_right from_dedicated
        cases dedicated <;> cases dedicated' <;> simp [toString] at words ⊢
      rw [page_eq, size_eq, dedicated_eq]
    | placed | freed | clearing | refused =>
      simp at lines
  | placed id page rectangle =>
    cases record' with
    | placed id' page' rectangle' =>
      rw [toList_placed, toList_placed] at lines
      obtain ⟨id_eq, from_page⟩ := FragmentId.text_append_inj (List.append_cancel_left lines)
      obtain ⟨page_eq, from_rectangle⟩ := decimal_append_inj (by decide) (List.append_cancel_left from_page)
      rw [id_eq, page_eq, Rectangle.text_inj from_rectangle]
    | opened | freed | clearing | refused =>
      simp at lines
  | freed id page =>
    cases record' with
    | freed id' page' =>
      rw [toList_freed, toList_freed] at lines
      obtain ⟨id_eq, from_page⟩ := FragmentId.text_append_inj (List.append_cancel_left lines)
      rw [id_eq, decimal_inj (List.append_cancel_left from_page)]
    | opened | placed | clearing | refused =>
      simp at lines
  | clearing fragments pages =>
    cases record' with
    | clearing fragments' pages' =>
      rw [toList_clearing, toList_clearing] at lines
      obtain ⟨fragments_eq, from_pages⟩ := decimal_append_inj (by decide) (List.append_cancel_left lines)
      rw [fragments_eq, decimal_inj (List.append_cancel_right from_pages)]
    | opened | placed | freed | refused =>
      simp at lines
  | refused size limit =>
    cases record' with
    | refused size' limit' =>
      rw [toList_refused, toList_refused] at lines
      obtain ⟨size_eq, from_limit⟩ := Size.text_append_inj (by decide) (List.append_cancel_left lines)
      rw [size_eq, decimal_inj (List.append_cancel_right from_limit)]
    | opened | placed | freed | clearing =>
      simp at lines

end Record
end TextureAtlas
