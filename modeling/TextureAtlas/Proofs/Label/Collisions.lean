import Mathlib.Logic.Function.Basic
import TextureAtlas.Label.FragmentId

/-! # Which labels collide

To absorb a byte is to permute the 32-bit words: `prime` is odd, so the multiplication can be undone, and so
can the exclusive or. Whatever bytes follow, two words that differ lead to different keys. Labels that differ
in a single byte therefore never collide, and a common suffix neither makes a collision nor removes one
(`ofLabel_collisions`). The empty label is not hashed and has no part in this. -/
set_option autoImplicit false

namespace TextureAtlas.FragmentId

/-! ## Absorbing a byte -/

/-- The multiplicative inverse of `prime`, modulo `2 ^ 32`. -/
def primeInverse : UInt32 := 0x359c449b

theorem mul_prime_mul_primeInverse (word : UInt32) : word * prime * primeInverse = word := by
  have inverse : prime * primeInverse = 1 := by decide
  rw [UInt32.mul_assoc, inverse, UInt32.mul_one]

theorem mul_primeInverse_mul_prime (word : UInt32) : word * primeInverse * prime = word := by
  have inverse : primeInverse * prime = 1 := by decide
  rw [UInt32.mul_assoc, inverse, UInt32.mul_one]

/-- The word from which absorbing the byte leads to this one. -/
def expel (word : UInt32) (byte : UInt8) : UInt32 := word * primeInverse ^^^ byte.toUInt32

theorem expel_absorb (byte : UInt8) : Function.LeftInverse (expel · byte) (absorb · byte) := by
  intro word
  dsimp only [expel, absorb]
  rw [mul_prime_mul_primeInverse, UInt32.xor_assoc, UInt32.xor_self, UInt32.xor_zero]

theorem absorb_expel (byte : UInt8) : Function.RightInverse (expel · byte) (absorb · byte) := by
  intro word
  dsimp only [expel, absorb]
  rw [UInt32.xor_assoc, UInt32.xor_self, UInt32.xor_zero, mul_primeInverse_mul_prime]

theorem absorb_bijective (byte : UInt8) : Function.Bijective (absorb · byte) :=
  ⟨(expel_absorb byte).injective, (absorb_expel byte).surjective⟩

/-- From one word, different bytes lead to different words. -/
theorem absorb_right_injective (word : UInt32) : Function.Injective (absorb word) := by
  intro byte other same
  have undone : Function.LeftInverse (· * primeInverse) (· * prime) := mul_prime_mul_primeInverse
  have xor_eq : word ^^^ byte.toUInt32 = word ^^^ other.toUInt32 := undone.injective same
  exact UInt8.toUInt32_inj.mp ((UInt32.xor_right_inj word).mp xor_eq)

/-! ## Absorbing a run of bytes -/

theorem foldl_absorb_bijective (bytes : List UInt8) :
    Function.Bijective fun word => bytes.foldl absorb word := by
  induction bytes with
  | nil => exact Function.bijective_id
  | cons byte bytes ih => exact ih.comp (absorb_bijective byte)

theorem hash_append (bytes suffix : List UInt8) :
    hash (bytes ++ suffix) = suffix.foldl absorb (hash bytes) :=
  List.foldl_append

theorem hash_append_inj (bytes other suffix : List UInt8) :
    hash (bytes ++ suffix) = hash (other ++ suffix) ↔ hash bytes = hash other := by
  rw [hash_append, hash_append]
  exact (foldl_absorb_bijective suffix).injective.eq_iff

theorem hash_ne_of_byte_ne (before after : List UInt8) {byte other : UInt8} (differ : byte ≠ other) :
    hash (before ++ byte :: after) ≠ hash (before ++ other :: after) := by
  intro same
  rw [hash_append, hash_append] at same
  -- What follows is taken off, then what went before is the word to start from.
  have absorbed : absorb (hash before) byte = absorb (hash before) other :=
    (foldl_absorb_bijective after).injective same
  exact differ (absorb_right_injective (hash before) absorbed)

/-- Lists that differ at one index only have the same before and after it. -/
theorem exists_split_of_getElem?_ne {bytes other : List UInt8} {index : Nat}
    (length_eq : bytes.length = other.length) (differ : bytes[index]? ≠ other[index]?)
    (agree : ∀ i ≠ index, bytes[i]? = other[i]?) :
    ∃ before after first second, first ≠ second ∧ bytes = before ++ first :: after ∧
      other = before ++ second :: after := by
  have inside : index < bytes.length := by
    apply Nat.not_le.mp
    intro beyond
    apply differ
    rw [List.getElem?_eq_none beyond, List.getElem?_eq_none (length_eq ▸ beyond)]
  have inside' : index < other.length := length_eq ▸ inside
  have before_eq : other.take index = bytes.take index := by
    apply List.ext_getElem?
    intro i
    rw [List.getElem?_take, List.getElem?_take]
    by_cases less : i < index
    · rw [if_pos less, if_pos less, agree i (Nat.ne_of_lt less)]
    · rw [if_neg less, if_neg less]
  have after_eq : other.drop (index + 1) = bytes.drop (index + 1) := by
    apply List.ext_getElem?
    intro i
    rw [List.getElem?_drop, List.getElem?_drop, agree (index + 1 + i) (by omega)]
  refine ⟨bytes.take index, bytes.drop (index + 1), bytes[index], other[index], ?_, ?_, ?_⟩
  · intro same
    apply differ
    rw [List.getElem?_eq_getElem inside, List.getElem?_eq_getElem inside', same]
  · rw [← List.drop_eq_getElem_cons inside, List.take_append_drop]
  · rw [← before_eq, ← after_eq, ← List.drop_eq_getElem_cons inside', List.take_append_drop]

/-! ## Labels -/

/-- What is hashed of a label. -/
def labelBytes (label : String) : List UInt8 := label.toUTF8.data.toList

theorem labelBytes_append (label suffix : String) :
    labelBytes (label ++ suffix) = labelBytes label ++ labelBytes suffix := by
  simp only [labelBytes, String.toUTF8_eq_toByteArray, String.toByteArray_append,
    ByteArray.toList_data_append]

theorem ofLabel_of_ne_empty {label : String} (nonempty : label ≠ "") :
    ofLabel label = ⟨hash (labelBytes label)⟩ := if_neg nonempty

theorem ne_empty_of_labelBytes {label : String} {before after : List UInt8} {byte : UInt8}
    (bytes_eq : labelBytes label = before ++ byte :: after) : label ≠ "" := by
  intro empty
  subst empty
  exact List.append_ne_nil_of_right_ne_nil before (List.cons_ne_nil byte after) bytes_eq.symm

theorem ofLabel_eq_iff {label other : String} (nonempty : label ≠ "") (nonempty' : other ≠ "") :
    ofLabel label = ofLabel other ↔ hash (labelBytes label) = hash (labelBytes other) := by
  rw [ofLabel_of_ne_empty nonempty, ofLabel_of_ne_empty nonempty', FragmentId.mk.injEq]

theorem ofLabel_ne_of_byte_ne {label other : String} {before after : List UInt8} {byte byte' : UInt8}
    (bytes_eq : labelBytes label = before ++ byte :: after)
    (bytes_eq' : labelBytes other = before ++ byte' :: after) (differ : byte ≠ byte') :
    ofLabel label ≠ ofLabel other := by
  intro same
  have collide := (ofLabel_eq_iff (ne_empty_of_labelBytes bytes_eq)
    (ne_empty_of_labelBytes bytes_eq')).mp same
  rw [bytes_eq, bytes_eq'] at collide
  exact hash_ne_of_byte_ne before after differ collide

/-- Labels whose bytes are the same but for one do not collide, whether this byte is given by what is before and
after it or by its index. A suffix added to two labels that are not empty neither makes them collide nor keeps
them from it. -/
theorem ofLabel_collisions :
    (∀ (before after : List UInt8) (byte byte' : UInt8) (label other : String), byte ≠ byte' →
      labelBytes label = before ++ byte :: after → labelBytes other = before ++ byte' :: after →
      ofLabel label ≠ ofLabel other) ∧
    (∀ (label other : String) (index : Nat), (labelBytes label).length = (labelBytes other).length →
      (labelBytes label)[index]? ≠ (labelBytes other)[index]? →
      (∀ i ≠ index, (labelBytes label)[i]? = (labelBytes other)[i]?) →
      ofLabel label ≠ ofLabel other) ∧
    ∀ label other suffix : String, label ≠ "" → other ≠ "" →
      (ofLabel (label ++ suffix) = ofLabel (other ++ suffix) ↔ ofLabel label = ofLabel other) := by
  refine ⟨?_, ?_, ?_⟩
  · intro before after byte byte' label other differ bytes_eq bytes_eq'
    exact ofLabel_ne_of_byte_ne bytes_eq bytes_eq' differ
  · intro label other index length_eq differ agree
    obtain ⟨before, after, byte, byte', bytes_ne, bytes_eq, bytes_eq'⟩ :=
      exists_split_of_getElem?_ne length_eq differ agree
    exact ofLabel_ne_of_byte_ne bytes_eq bytes_eq' bytes_ne
  · intro label other suffix nonempty nonempty'
    have longer : label ++ suffix ≠ "" := fun empty => nonempty (String.append_eq_empty_iff.mp empty).1
    have longer' : other ++ suffix ≠ "" := fun empty => nonempty' (String.append_eq_empty_iff.mp empty).1
    rw [ofLabel_eq_iff longer longer', ofLabel_eq_iff nonempty nonempty', labelBytes_append,
      labelBytes_append]
    exact hash_append_inj (labelBytes label) (labelBytes other) (labelBytes suffix)

/-- Two words that collide do so with an ending, too, and two that do not, do not. The letters `é` and `è`
have two bytes each and differ in the second. -/
theorem ofLabel_collisions_words :
    ofLabel "costarring" = ofLabel "liquid" ∧
      ofLabel ("costarring" ++ ".png") = ofLabel ("liquid" ++ ".png") ∧
      ofLabel ("button" ++ ".png") ≠ ofLabel ("slider" ++ ".png") ∧
      labelBytes "né" = [0x6e, 0xc3, 0xa9] ∧ labelBytes "nè" = [0x6e, 0xc3, 0xa8] ∧
      ofLabel "né" ≠ ofLabel "nè" ∧ ofLabel "glyph_A" ≠ ofLabel "glyph_B" := by
  obtain ⟨around, at_index, with_suffix⟩ := ofLabel_collisions
  have collide : ofLabel "costarring" = ofLabel "liquid" := by decide +kernel
  have differ : ofLabel "button" ≠ ofLabel "slider" := by decide +kernel
  have acute : labelBytes "né" = [0x6e, 0xc3, 0xa9] := by decide +kernel
  have grave : labelBytes "nè" = [0x6e, 0xc3, 0xa8] := by decide +kernel
  refine ⟨collide, ?_, ?_, acute, grave, ?_, ?_⟩
  · exact (with_suffix "costarring" "liquid" ".png" (by decide) (by decide)).mpr collide
  · exact mt (with_suffix "button" "slider" ".png" (by decide) (by decide)).mp differ
  · exact around [0x6e, 0xc3] [] 0xa9 0xa8 "né" "nè" (by decide) acute grave
  · have length_eq : (labelBytes "glyph_A").length = 7 ∧ (labelBytes "glyph_B").length = 7 := by
      decide +kernel
    have agree : ∀ i < 6, (labelBytes "glyph_A")[i]? = (labelBytes "glyph_B")[i]? := by decide +kernel
    refine at_index "glyph_A" "glyph_B" 6 (length_eq.1.trans length_eq.2.symm) (by decide +kernel) ?_
    intro i apart
    rcases Nat.lt_or_gt_of_ne apart with less | greater
    · exact agree i less
    · rw [List.getElem?_eq_none (by omega), List.getElem?_eq_none (by omega)]

/-- The empty label is left out because it has the null key without being hashed: a suffix tells it from a label
whose hash is zero. -/
example : ofLabel "" = ofLabel "ppkttia" ∧ ofLabel ("" ++ "x") ≠ ofLabel ("ppkttia" ++ "x") := by
  decide +kernel

end TextureAtlas.FragmentId
