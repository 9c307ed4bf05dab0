import Hex8.Text.Hex

set_option relaxedAutoImplicit false
set_option autoImplicit false

/-!
# JSON strings

A text as a string of a JSON document. Quotes, backslashes and control characters are escaped; all
other characters stand for themselves.

## Main definitions

* `Hex8.JsonString.encode` — a text between quotes.
-/

namespace Hex8.JsonString

/-- One character of a JSON string. -/
def encodeChar (c : Char) : List Char :=
  match c with
  | '"' => ['\\', '"']
  | '\\' => ['\\', '\\']
  | '\n' => ['\\', 'n']
  | '\r' => ['\\', 'r']
  | '\t' => ['\\', 't']
  | '\x08' => ['\\', 'b']
  | '\x0c' => ['\\', 'f']
  | c =>
    if c.toNat < 0x20 then
      ['\\', 'u', '0', '0', Nat.digitChar (c.toNat / 16), Nat.digitChar (c.toNat % 16)]
    else [c]

/-- A text between quotes. -/
def encode (text : String) : String :=
  "\"" ++ String.ofList (text.toList.flatMap encodeChar) ++ "\""

end Hex8.JsonString
