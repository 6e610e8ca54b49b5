/-!
# White space

Values typed by people arrive with white space around them.  This module holds
the white space characters of Unicode and the removal of a blank margin on both
sides of a text.
-/

namespace SensorStream.Text

/-- The 25 characters that have the Unicode property `White_Space`. -/
def isBlank (character : Char) : Bool :=
  let code := character.toNat
  (0x09 ≤ code && code ≤ 0x0D) || code == 0x20 || code == 0x85 || code == 0xA0
    || code == 0x1680 || (0x2000 ≤ code && code ≤ 0x200A) || code == 0x2028
    || code == 0x2029 || code == 0x202F || code == 0x205F || code == 0x3000

/-- Drop the white space at the front. -/
def trimLeft (text : List Char) : List Char :=
  text.dropWhile isBlank

/-- Drop the white space on both sides and keep what stands between. -/
def trim (text : List Char) : List Char :=
  (trimLeft (trimLeft text).reverse).reverse

@[simp] theorem trim_nil : trim [] = [] := rfl

end SensorStream.Text
