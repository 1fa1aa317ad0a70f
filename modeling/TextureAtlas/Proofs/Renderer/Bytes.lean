import Mathlib.Algebra.Group.Nat.Defs
import TextureAtlas.Texels

/-! # Texels as bytes

The bytes of a buffer are those of its texels in turn, and the bytes of a texel are its four digits to
the base 256, the lowest first. -/
set_option autoImplicit false

namespace TextureAtlas

/-- The digits of a texel to the base 256, the lowest first. -/
def digits (texel : UInt32) : List UInt8 :=
  (List.range 4).map fun place => UInt8.ofNat (texel.toNat / 256 ^ place)

/-- These are the bytes of the texels in little-endian order. -/
def LittleEndian (texels : Array UInt32) (bytes : ByteArray) : Prop :=
  bytes.data.toList = texels.toList.flatMap digits

example : digits 0x04030201 = [1, 2, 3, 4] := by decide

theorem digits_eq (texel : UInt32) :
    digits texel = [texel.toUInt8, (texel >>> 8).toUInt8, (texel >>> 16).toUInt8,
      (texel >>> 24).toUInt8] := by
  simp only [digits, List.range, List.range.loop, List.map_cons, List.map_nil, List.cons.injEq,
    and_true]
  refine ⟨?_, ?_, ?_, ?_⟩ <;> apply UInt8.toNat_inj.mp <;>
    simp [Nat.shiftRight_eq_div_pow]

theorem toList_pushTexel (bytes : ByteArray) (texel : UInt32) :
    (pushTexel bytes texel).data.toList = bytes.data.toList ++ digits texel := by
  simp only [pushTexel, ByteArray.data_push, Array.toList_push, digits_eq, List.append_assoc,
    List.cons_append, List.nil_append]

theorem toList_foldl_pushTexel (texels : List UInt32) (bytes : ByteArray) :
    (texels.foldl pushTexel bytes).data.toList = bytes.data.toList ++ texels.flatMap digits := by
  induction texels generalizing bytes with
  | nil => exact (List.append_nil _).symm
  | cons texel texels ih =>
    rw [List.foldl_cons, ih, toList_pushTexel, List.flatMap_cons, List.append_assoc]

theorem littleEndian_bytesOfTexels (texels : Array UInt32) :
    LittleEndian texels (bytesOfTexels texels) := by
  rw [LittleEndian, bytesOfTexels, ← Array.foldl_toList, toList_foldl_pushTexel]
  rfl

theorem LittleEndian.size_eq {texels : Array UInt32} {bytes : ByteArray}
    (shown : LittleEndian texels bytes) : bytes.size = 4 * texels.size := by
  have four : ∀ texel, (digits texel).length = 4 := fun _ => rfl
  have length_eq := congrArg List.length shown
  rw [List.length_flatMap, List.map_congr_left fun texel _ => four texel, List.map_const',
    List.sum_replicate_nat, Array.length_toList, Array.length_toList] at length_eq
  rw [Nat.mul_comm]
  exact length_eq

end TextureAtlas
