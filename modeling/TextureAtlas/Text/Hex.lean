/-! # Hexadecimal numbers

Lower-case digits without a sign. `hex` writes as few digits as the number needs, at least one;
`hexPadded` fills up with zeros on the left. -/
set_option autoImplicit false

namespace TextureAtlas.Text

def hex (n : Nat) : List Char := Nat.toDigits 16 n

def hexPadded (width n : Nat) : List Char :=
  List.replicate (width - (hex n).length) '0' ++ hex n

end TextureAtlas.Text
