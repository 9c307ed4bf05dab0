set_option relaxedAutoImplicit false
set_option autoImplicit false

/-!
# Terminal styles

Coloured output is a piece of text between the escape sequence that turns a style on and the one
that turns all styles off.

## Main definitions

* `Hex8.Style` — a style, by the parameters of its escape sequence.
* `Hex8.Style.paint` — a text in a style.
* `Hex8.Style.gray`, `Hex8.Style.green`, `Hex8.Style.boldGreen`, `Hex8.Style.yellow` — the styles
  in use.
-/

namespace Hex8

/-- A text style, given by the parameters of its escape sequence. -/
structure Style where
  /-- What stands between `ESC [` and `m`. -/
  parameters : String
  deriving DecidableEq

namespace Style

/-- The style of bytes and words that are of no interest. -/
def gray : Style := ⟨"38;5;8"⟩

/-- The style of loads. -/
def green : Style := ⟨"32"⟩

/-- The style of instructions. -/
def boldGreen : Style := ⟨"1;32"⟩

/-- The style of stores and of bytes that have changed. -/
def yellow : Style := ⟨"33"⟩

/-- A text in the given style; all styles are off behind it. -/
def paint (style : Style) (text : String) : String :=
  "\x1b[" ++ style.parameters ++ "m" ++ text ++ "\x1b[0m"

end Style

end Hex8
