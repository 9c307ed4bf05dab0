import Hex8.Text.Hex
import Hex8.Text.Invisible

set_option relaxedAutoImplicit false
set_option autoImplicit false

/-!
# Quoted texts

A text between quotes, in which nothing is invisible: quotes and backslashes are escaped, and so
is every character that cannot be seen on its own.

## Main definitions

* `Hex8.Quoted.encodeChar` — one character of a quoted text.
* `Hex8.Quoted.encode` — a text between quotes.
-/

namespace Hex8.Quoted

/-- One character of a quoted text. -/
def encodeChar (c : Char) : List Char :=
  match c with
  | '\x00' => ['\\', '0']
  | '\t' => ['\\', 't']
  | '\n' => ['\\', 'n']
  | '\r' => ['\\', 'r']
  | '"' => ['\\', '"']
  | '\\' => ['\\', '\\']
  | c =>
    if Invisible.isInvisible c then
      ['\\', 'u', '\x7b'] ++ Nat.toDigits 16 c.toNat ++ ['\x7d']
    else [c]

/-- A text between quotes. -/
def encode (text : String) : String :=
  "\"" ++ String.ofList (text.toList.flatMap encodeChar) ++ "\""

end Hex8.Quoted
