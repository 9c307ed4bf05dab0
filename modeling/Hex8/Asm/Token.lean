set_option relaxedAutoImplicit false
set_option autoImplicit false

/-!
# Tokens of the assembly language

A line of assembly text consists of names, numerals and a few signs, with blanks and comments
between them. A comment starts with `#` or `//` and takes the rest of its line. All functions here
work on the characters of one line, or of what is left of one.

## Main definitions

* `Hex8.Asm.skip` — what is left behind blanks and a comment.
* `Hex8.Asm.name?` — a name at the front.
* `Hex8.Asm.Numeral`, `Hex8.Asm.numeral?` — a numeral, and one at the front.
* `Hex8.Asm.Numeral.value` — the number that a numeral stands for.
* `Hex8.Asm.after?` — what is left behind a keyword.

## Main results

* `Hex8.Asm.skip_skip` — there is nothing to skip behind what has been skipped.
* `Hex8.Asm.append_name?`, `Hex8.Asm.append_numeral?` — a token and what is left are the line.

## Design

A numeral with `0x` but without a hexadecimal digit behind it is the numeral `0`; the letter is
left over. Numerals may have any number of digits.
-/

namespace Hex8.Asm

/-! ### Blanks and comments -/

/-- Whether a character is a blank within a line. -/
def isBlank (c : Char) : Bool :=
  c = ' ' || c = '\t'

/-- Whether a comment starts here. -/
def startsComment : List Char → Bool
  | '#' :: _ => true
  | '/' :: '/' :: _ => true
  | _ => false

/-- What is left behind blanks and a comment. -/
def skip : List Char → List Char
  | [] => []
  | c :: rest =>
    if isBlank c then skip rest
    else if startsComment (c :: rest) then []
    else c :: rest

/-- There is nothing to skip behind what has been skipped. -/
@[simp] theorem skip_skip (chars : List Char) : skip (skip chars) = skip chars := by
  induction chars with
  | nil => rfl
  | cons c rest ih =>
    by_cases blank : isBlank c = true
    · simpa [skip, blank] using ih
    · by_cases comment : startsComment (c :: rest) = true
      · simp [skip, blank, comment]
      · simp [skip, blank, comment]

/-- Skipping only shortens a line. -/
theorem length_skip_le (chars : List Char) : (skip chars).length ≤ chars.length := by
  induction chars with
  | nil => simp [skip]
  | cons c rest ih =>
    unfold skip
    split
    · exact Nat.le_succ_of_le ih
    · split <;> simp

/-! ### Names -/

/-- Whether a name may start with the character. -/
def startsName (c : Char) : Bool :=
  c.isAlpha || c = '_'

/-- Whether a name may contain the character. -/
def continuesName (c : Char) : Bool :=
  c.isAlphanum || c = '_'

/-- The name at the front, as long as possible, and what is left behind it. -/
def name? : List Char → Option (List Char × List Char)
  | [] => none
  | c :: rest =>
    if startsName c then
      some (c :: rest.takeWhile continuesName, rest.dropWhile continuesName)
    else none

/-- A name and what is left behind it are the line. -/
theorem append_name? {chars name rest : List Char} (h : name? chars = some (name, rest)) :
    name ++ rest = chars := by
  cases chars with
  | nil => simp [name?] at h
  | cons c cs =>
    simp only [name?] at h
    split at h
    · simp only [Option.some.injEq, Prod.mk.injEq] at h
      obtain ⟨rfl, rfl⟩ := h
      simp
    · simp at h

/-! ### Numerals -/

/-- A numeral as it is written. -/
structure Numeral where
  /-- `0x` or `0X` in front of hexadecimal digits, nothing in front of decimal ones. -/
  marker : List Char
  /-- The digits. -/
  digits : List Char
  deriving DecidableEq

/-- Whether a character is a hexadecimal digit. -/
def isHexDigit (c : Char) : Bool :=
  c.isDigit || ('a' ≤ c && c ≤ 'f') || ('A' ≤ c && c ≤ 'F')

/-- The value of a decimal or hexadecimal digit. -/
def digitValue (c : Char) : Nat :=
  if c.isDigit then c.toNat - '0'.toNat
  else if 'a' ≤ c then c.toNat - 'a'.toNat + 10
  else c.toNat - 'A'.toNat + 10

/-- The number that digits stand for. -/
def digitsValue (radix : Nat) (digits : List Char) : Nat :=
  digits.foldl (fun value digit => radix * value + digitValue digit) 0

namespace Numeral

/-- The characters of a numeral. -/
def chars (numeral : Numeral) : List Char :=
  numeral.marker ++ numeral.digits

/-- The text of a numeral. -/
def text (numeral : Numeral) : String :=
  String.ofList numeral.chars

/-- The base of the digits. -/
def radix (numeral : Numeral) : Nat :=
  if numeral.marker = [] then 10 else 16

/-- The number that a numeral stands for, however long it is. -/
def value (numeral : Numeral) : Nat :=
  digitsValue numeral.radix numeral.digits

end Numeral

/-- The digits of a kind at the front behind a marker, as many as possible but at least one, and
what is left behind them. -/
def digits? (isDigit : Char → Bool) (marker rest : List Char) : Option (Numeral × List Char) :=
  match rest.takeWhile isDigit with
  | [] => none
  | digits => some (⟨marker, digits⟩, rest.dropWhile isDigit)

/-- The hexadecimal numeral at the front, and what is left behind it. -/
def hexadecimal? : List Char → Option (Numeral × List Char)
  | '0' :: 'x' :: rest => digits? isHexDigit ['0', 'x'] rest
  | '0' :: 'X' :: rest => digits? isHexDigit ['0', 'X'] rest
  | _ => none

/-- The numeral at the front, and what is left behind it. -/
def numeral? (chars : List Char) : Option (Numeral × List Char) :=
  (hexadecimal? chars).or (digits? Char.isDigit [] chars)

/-- Digits, what is in front of them and what is left behind them are the line. -/
theorem append_digits? {isDigit : Char → Bool} {marker chars rest : List Char} {numeral : Numeral}
    (h : digits? isDigit marker chars = some (numeral, rest)) :
    numeral.chars ++ rest = marker ++ chars := by
  unfold digits? at h
  split at h
  · simp at h
  · simp only [Option.some.injEq, Prod.mk.injEq] at h
    obtain ⟨rfl, rfl⟩ := h
    simp [Numeral.chars]

/-- A numeral and what is left behind it are the line. -/
theorem append_numeral? {chars rest : List Char} {numeral : Numeral}
    (h : numeral? chars = some (numeral, rest)) : numeral.chars ++ rest = chars := by
  unfold numeral? at h
  rw [Option.or_eq_some_iff] at h
  rcases h with h | ⟨-, h⟩
  · unfold hexadecimal? at h
    split at h
    · exact append_digits? h
    · exact append_digits? h
    · simp at h
  · exact append_digits? h

/-! ### Keywords -/

/-- What is left behind a keyword at the front. -/
def after? : List Char → List Char → Option (List Char)
  | [], chars => some chars
  | _ :: _, [] => none
  | k :: keyword, c :: chars => if k = c then after? keyword chars else none

/-- Only a line with the keyword at its front has something behind the keyword. -/
theorem after?_eq_some_iff {keyword chars rest : List Char} :
    after? keyword chars = some rest ↔ chars = keyword ++ rest := by
  induction keyword generalizing chars with
  | nil => simp [after?]
  | cons k keyword ih =>
    cases chars with
    | nil => simp [after?]
    | cons c chars =>
      by_cases h : k = c
      · simp [after?, h, ih]
      · simp [after?, h, Ne.symm h]

end Hex8.Asm
