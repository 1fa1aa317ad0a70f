import TextureAtlas.Text.Hex

/-! # Fragment ids

A fragment is known by a 32-bit key, as a rule the hash of its label: starting from `offsetBasis`,
each byte is xored in and the result multiplied by `prime`, modulo `2 ^ 32`. The empty label is not
hashed, it has the null key. -/
set_option autoImplicit false

namespace TextureAtlas

structure FragmentId where
  raw : UInt32
deriving DecidableEq, Repr

namespace FragmentId

def offsetBasis : UInt32 := 0x811c9dc5

def prime : UInt32 := 0x01000193

def absorb (hash : UInt32) (byte : UInt8) : UInt32 := (hash ^^^ byte.toUInt32) * prime

def hash (bytes : List UInt8) : UInt32 := bytes.foldl absorb offsetBasis

/-- The key of a label, from the bytes of its UTF-8 form. -/
def ofLabel (label : String) : FragmentId :=
  if label = "" then ⟨0⟩ else ⟨hash label.toUTF8.data.toList⟩

def text (id : FragmentId) : String :=
  "FragmentId(0x" ++ String.ofList (Text.hexPadded 8 id.raw.toNat) ++ ")"

/-- The keys in ascending order, each once. -/
def distinct (ids : List FragmentId) : List FragmentId :=
  (ids.mergeSort fun a b => a.raw ≤ b.raw).eraseReps

end FragmentId
end TextureAtlas
