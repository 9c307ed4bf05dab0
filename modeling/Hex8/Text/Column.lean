set_option relaxedAutoImplicit false
set_option autoImplicit false

/-!
# Columns

A text that is to stand in a column of a given width is filled up with a given character, on one
side or on both. A text that is already wider is left alone.

## Main definitions

* `Hex8.Column.left`, `Hex8.Column.right`, `Hex8.Column.center` — a text at the left end, at the
  right end and in the middle of a column.
-/

namespace Hex8.Column

/-- A text of `n` times the same character. -/
def fill (c : Char) (n : Nat) : String :=
  String.ofList (List.replicate n c)

/-- The text at the left end of its column. -/
def left (c : Char) (width : Nat) (text : String) : String :=
  text ++ fill c (width - text.length)

/-- The text at the right end of its column. -/
def right (c : Char) (width : Nat) (text : String) : String :=
  fill c (width - text.length) ++ text

/-- The text in the middle of its column; an odd character goes behind it. -/
def center (c : Char) (width : Nat) (text : String) : String :=
  let spare := width - text.length
  fill c (spare / 2) ++ text ++ fill c (spare - spare / 2)

end Hex8.Column
