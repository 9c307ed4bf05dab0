set_option relaxedAutoImplicit false
set_option autoImplicit false

/-!
# White space

The characters with the Unicode property `White_Space`, and texts without them at their ends.

## Main definitions

* `Hex8.Blank.isBlank` — whether a character is white space.
* `Hex8.Blank.trim` — a text without white space at its ends.
-/

namespace Hex8.Blank

/-- Whether a character has the Unicode property `White_Space`. -/
def isBlank (c : Char) : Bool :=
  let n := c.toNat
  (0x09 ≤ n && n ≤ 0x0d) || n = 0x20 || n = 0x85 || n = 0xa0 || n = 0x1680 ||
    (0x2000 ≤ n && n ≤ 0x200a) || n = 0x2028 || n = 0x2029 || n = 0x202f || n = 0x205f ||
    n = 0x3000

/-- A list of characters without white space at its ends. -/
def trimList (chars : List Char) : List Char :=
  ((chars.dropWhile isBlank).reverse.dropWhile isBlank).reverse

/-- A text without white space at its ends. -/
def trim (text : String) : String :=
  String.ofList (trimList text.toList)

end Hex8.Blank
