import TextureAtlas.Coord

/-! # Buffers of texels

A texel is a word of 32 bits. A buffer is read in runs that must lie inside it, and turned into bytes
texel by texel, the low byte of each first. -/
set_option autoImplicit false

namespace TextureAtlas

/-- The `length` texels from `start` on. -/
def readTexels (buffer : Array UInt32) (start length : Nat) : Except Fault (List UInt32) :=
  if start + length ≤ buffer.size then .ok (buffer.extract start (start + length)).toList
  else .error .outOfBounds

/-- The buffer with `run` written over it from `start` on. What would go past the end is lost. -/
def writeTexels (buffer : Array UInt32) (start : Nat) : List UInt32 → Array UInt32
  | [] => buffer
  | texel :: run => writeTexels (buffer.setIfInBounds start texel) (start + 1) run

@[simp] theorem size_writeTexels (buffer : Array UInt32) (start : Nat) (run : List UInt32) :
    (writeTexels buffer start run).size = buffer.size := by
  induction run generalizing buffer start with
  | nil => rfl
  | cons texel run ih => simp [writeTexels, ih]

/-- Appends the four bytes of a texel. -/
def pushTexel (bytes : ByteArray) (texel : UInt32) : ByteArray :=
  (((bytes.push texel.toUInt8).push (texel >>> 8).toUInt8).push (texel >>> 16).toUInt8).push
    (texel >>> 24).toUInt8

def bytesOfTexels (texels : Array UInt32) : ByteArray :=
  texels.foldl pushTexel (ByteArray.emptyWithCapacity (4 * texels.size))

end TextureAtlas
