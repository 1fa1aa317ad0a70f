import TextureAtlas.Text.Hex
import TextureAtlas.Text.Unprintable

/-! # Quoted text

A text between double quotes. Quote, backslash, NUL, tab and the two line ends have an escape of two
characters; every other unprintable character is written by its code point in braces. A single quote
stands for itself. -/
set_option autoImplicit false

namespace TextureAtlas.Text

/-- The characters with a short escape, and the letter after the backslash. -/
def shortEscapes : List (Char × Char) :=
  [('\x00', '0'), ('\t', 't'), ('\r', 'r'), ('\n', 'n'), ('\x22', '\x22'), ('\x5c', '\x5c')]

def escape (c : Char) : List Char :=
  match shortEscapes.lookup c with
  | some letter => ['\x5c', letter]
  | none => if isUnprintable c then ['\x5c', 'u', '\x7b'] ++ hex c.toNat ++ ['\x7d'] else [c]

def quoted (text : String) : String :=
  String.ofList (['\x22'] ++ text.toList.flatMap escape ++ ['\x22'])

end TextureAtlas.Text
