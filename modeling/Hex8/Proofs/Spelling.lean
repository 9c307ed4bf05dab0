import Hex8.Proofs.Lines
import Hex8.Proofs.Margins
import Mathlib.Data.Nat.Digits.Defs

set_option relaxedAutoImplicit false
set_option autoImplicit false

/-!
# How numerals are spelled

A numeral is a row of decimal digits, or a marker with a row of hexadecimal digits behind it, of any
length. Its value is that of its digits in the positional system: each of them counts as many times
as the power of the base that belongs to its place. These are the numerals that the grammar reads,
and there are no others in what a text says.

## Main definitions

* `Hex8.Asm.Numeral.Spelled` — numerals as they are written.
* `Hex8.Asm.Numeral.amount` — the number of a numeral in the positional system.
* `Hex8.Asm.Content.numerals` — the numerals of a line.

## Main results

* `Hex8.Asm.Numeral.Spelled.value_eq_amount` — digits are added up to the number of the numeral.
* `Hex8.Asm.Numeral.Spelled.numeral?_chars`, `Hex8.Asm.Numeral.spelled_of_numeral?` — the numerals
  that are read.
* `Hex8.Asm.spelled_of_parseSource` — the numerals of a text.
-/

namespace Hex8.Asm

/-! ## Digits -/

/-- The digits in the order of their values. -/
def digitSigns : List Char :=
  "0123456789abcdef".toList

/-- The value of a digit: its place among all digits, whether it is upper or lower case. -/
def placeValue (digit : Char) : Nat :=
  digitSigns.idxOf digit.toLower

/-- Hexadecimal digits are among the first characters. -/
lemma toNat_lt_of_isHexDigit {c : Char} (hex : isHexDigit c = true) : c.toNat < 128 := by
  simp only [isHexDigit, Char.isDigit, Bool.or_eq_true, Bool.and_eq_true, decide_eq_true_eq,
    Char.le_def, ge_iff_le, UInt32.le_iff_toNat_le] at hex
  have last : '9'.val.toNat = 57 ∧ 'F'.val.toNat = 70 ∧ 'f'.val.toNat = 102 := by decide
  change c.val.toNat < 128
  omega

/-- What holds of the hexadecimal digits among the first characters holds of all of them. -/
lemma of_isHexDigit {P : Char → Prop} {c : Char} (hex : isHexDigit c = true)
    (first : ∀ n < 128, isHexDigit (Char.ofNat n) = true → P (Char.ofNat n)) : P c := by
  have holds := first c.toNat (toNat_lt_of_isHexDigit hex)
  rw [Char.ofNat_toNat] at holds
  exact holds hex

/-- A decimal digit is a hexadecimal digit. -/
lemma isHexDigit_of_isDigit {c : Char} (digit : c.isDigit = true) : isHexDigit c = true := by
  rw [isHexDigit, digit, Bool.true_or, Bool.true_or]

/-- The value of a hexadecimal digit has four bits. -/
lemma digitValue_lt {c : Char} (hex : isHexDigit c = true) : digitValue c < 16 :=
  of_isHexDigit (P := fun c => digitValue c < 16) hex (by decide +kernel)

/-- The value of a decimal digit is less than ten. -/
lemma digitValue_lt_ten {c : Char} (digit : c.isDigit = true) : digitValue c < 10 :=
  of_isHexDigit (P := fun c => c.isDigit = true → digitValue c < 10)
    (isHexDigit_of_isDigit digit) (by decide +kernel) digit

/-- A digit is worth its place among all digits. -/
lemma digitValue_eq_placeValue {c : Char} (hex : isHexDigit c = true) :
    digitValue c = placeValue c :=
  of_isHexDigit (P := fun c => digitValue c = placeValue c) hex (by decide +kernel)

/-- What digits stand for behind others is what they stand for in the positional system. -/
lemma foldl_digitValue (radix : Nat) (digits : List Char)
    (hex : ∀ c ∈ digits, isHexDigit c = true) (value : Nat) :
    digits.foldl (fun value digit => radix * value + digitValue digit) value =
      radix ^ digits.length * value + Nat.ofDigits radix (digits.reverse.map placeValue) := by
  induction digits generalizing value with
  | nil => simp
  | cons c digits ih =>
    rw [List.forall_mem_cons] at hex
    rw [List.foldl_cons, ih hex.2, digitValue_eq_placeValue hex.1, List.reverse_cons,
      List.map_append, Nat.ofDigits_append, List.length_map, List.length_reverse,
      List.length_cons, List.map_cons, List.map_nil, Nat.ofDigits_singleton]
    ring

namespace Numeral

/-! ## Numerals -/

/-- The numerals as they are written: at least one digit, of the kind that goes with the marker. -/
inductive Spelled : Numeral → Prop
  /-- Decimal digits without a marker. -/
  | decimal {digits : List Char} (nonempty : digits ≠ [])
      (kind : ∀ c ∈ digits, c.isDigit = true) : Spelled ⟨[], digits⟩
  /-- Hexadecimal digits behind a marker. -/
  | hexadecimal {marker digits : List Char} (marked : marker ∈ [['0', 'x'], ['0', 'X']])
      (nonempty : digits ≠ []) (kind : ∀ c ∈ digits, isHexDigit c = true) :
      Spelled ⟨marker, digits⟩

/-- The number of a numeral in the positional system, the last digit having the least weight. -/
def amount (numeral : Numeral) : Nat :=
  Nat.ofDigits numeral.radix (numeral.digits.reverse.map placeValue)

/-- The numeral with zeros in front of its digits. -/
def padded (numeral : Numeral) (zeros : Nat) : Numeral :=
  { numeral with digits := List.replicate zeros '0' ++ numeral.digits }

/-- Zeros in front of the digits change nothing. -/
lemma amount_padded (numeral : Numeral) (zeros : Nat) :
    (numeral.padded zeros).amount = numeral.amount := by
  have zero : placeValue '0' = 0 := by decide
  rw [amount, amount, padded]
  simp only [List.reverse_append, List.reverse_replicate, List.map_append, List.map_replicate, zero]
  exact Nat.ofDigits_append_replicate_zero _

/-- Zeros in front of digits are digits of the same kind. -/
lemma forall_mem_zeros_append {isDigit : Char → Bool} {digits : List Char}
    (zero : isDigit '0' = true) (kind : ∀ c ∈ digits, isDigit c = true) (zeros : Nat) :
    ∀ c ∈ List.replicate zeros '0' ++ digits, isDigit c = true := by
  intro c inside
  rcases List.mem_append.mp inside with padding | digit
  · rw [List.eq_of_mem_replicate padding]
    exact zero
  · exact kind c digit

variable {numeral : Numeral}

namespace Spelled

/-- All digits are hexadecimal ones. -/
lemma isHexDigit (spelled : numeral.Spelled) : ∀ c ∈ numeral.digits, isHexDigit c = true := by
  cases spelled with
  | decimal _ kind => exact fun c inside => isHexDigit_of_isDigit (kind c inside)
  | hexadecimal _ _ kind => exact kind

/-- A numeral may have any number of zeros in front of its digits. -/
lemma padded (spelled : numeral.Spelled) (zeros : Nat) : (numeral.padded zeros).Spelled := by
  cases spelled with
  | decimal nonempty kind =>
    exact .decimal (List.append_ne_nil_of_right_ne_nil _ nonempty)
      (forall_mem_zeros_append (by decide) kind zeros)
  | hexadecimal marked nonempty kind =>
    exact .hexadecimal marked (List.append_ne_nil_of_right_ne_nil _ nonempty)
      (forall_mem_zeros_append (by decide) kind zeros)

/-- **Digits are added up to the number of the numeral.** -/
theorem value_eq_amount (spelled : numeral.Spelled) : numeral.value = numeral.amount := by
  rw [value, digitsValue, foldl_digitValue _ _ spelled.isHexDigit, Nat.mul_zero, Nat.zero_add,
    amount]

end Spelled

/-! ## Reading numerals -/

/-- Digits are read as a whole. -/
lemma digits?_of_forall {isDigit : Char → Bool} {marker digits : List Char}
    (nonempty : digits ≠ []) (kind : ∀ c ∈ digits, isDigit c = true) :
    digits? isDigit marker digits = some (⟨marker, digits⟩, []) := by
  obtain ⟨digit, others, rfl⟩ := List.exists_cons_of_ne_nil nonempty
  rw [digits?, List.takeWhile_eq_self_iff.mpr kind, List.dropWhile_eq_nil_iff.mpr kind]

/-- There is no marker among decimal digits. -/
lemma hexadecimal?_of_forall {digits : List Char} (kind : ∀ c ∈ digits, c.isDigit = true) :
    Asm.hexadecimal? digits = none := by
  refine hexadecimal?_eq_none fun m rest whole sign => ?_
  have digit := kind m (by simp [whole])
  rcases List.mem_pair.mp sign with rfl | rfl <;> exact absurd digit (by decide)

/-- **A numeral is read as it is written**, and nothing is left of it. -/
theorem Spelled.numeral?_chars (spelled : numeral.Spelled) :
    numeral? numeral.chars = some (numeral, []) := by
  cases spelled with
  | decimal nonempty kind =>
    rw [chars, List.nil_append, numeral?, hexadecimal?_of_forall kind, Option.none_or,
      digits?_of_forall nonempty kind]
  | hexadecimal marked nonempty kind =>
    rw [numeral?, Option.or_eq_some_iff]
    rcases List.mem_pair.mp marked with rfl | rfl
    · exact .inl (digits?_of_forall nonempty kind)
    · exact .inl (digits?_of_forall nonempty kind)

/-- Digits that are read are of their kind, and there is at least one. -/
lemma digits_of_digits? {isDigit : Char → Bool} {marker chars rest : List Char}
    (found : digits? isDigit marker chars = some (numeral, rest)) :
    numeral.marker = marker ∧ numeral.digits ≠ [] ∧ ∀ c ∈ numeral.digits, isDigit c = true := by
  rw [digits?] at found
  split at found
  · cases found
  · next nonempty =>
    cases found
    exact ⟨rfl, nonempty, fun c inside => List.mem_takeWhile_imp inside⟩

/-- **No other numeral is read.** -/
theorem spelled_of_numeral? {chars rest : List Char}
    (found : numeral? chars = some (numeral, rest)) : numeral.Spelled := by
  obtain ⟨marker, digits⟩ := numeral
  have marked {marker' behind : List Char} (sign : marker' ∈ [['0', 'x'], ['0', 'X']])
      (read : digits? Asm.isHexDigit marker' behind = some (⟨marker, digits⟩, rest)) :
      Spelled ⟨marker, digits⟩ := by
    obtain ⟨rfl, nonempty, kind⟩ := digits_of_digits? read
    exact .hexadecimal sign nonempty kind
  rw [numeral?, Option.or_eq_some_iff] at found
  rcases found with hexadecimal | ⟨-, decimal⟩
  · rw [hexadecimal?.eq_def] at hexadecimal
    split at hexadecimal
    · exact marked (by decide) hexadecimal
    · exact marked (by decide) hexadecimal
    · cases hexadecimal
  · obtain ⟨rfl, nonempty, kind⟩ := digits_of_digits? decimal
    exact .decimal nonempty kind

end Numeral

/-! ## The numerals of a text -/

/-- The numerals of a statement. -/
def Command.numerals : Command → List Numeral
  | position address => [address]
  | byte value => [value]
  | data address value => [address, value]
  | inst _ (some (.number numeral)) => [numeral]
  | inst _ _ => []

/-- The numerals of a line. -/
def Content.numerals (line : Content) : List Numeral :=
  line.command.elim [] Command.numerals

namespace Line

variable {size : Nat} {chars rest : List Char}

/-- What a directive is given is a numeral that has been read. -/
lemma spelled_of_argument {located : Located Numeral}
    (found : argument size chars = .ok (located, rest)) : located.val.Spelled := by
  rw [argument] at found
  split at found
  · next read =>
    cases found
    exact Numeral.spelled_of_numeral? read
  · cases found

/-- So is what an instruction is given, unless it is a name. -/
lemma spelled_of_operand? (size : Nat) (chars : List Char) (mnemonic : String) :
    ∀ numeral ∈ (Statement.inst mnemonic (operand? size chars).1).command.numerals,
      numeral.Spelled := by
  rw [operand?]
  rcases read : numeral? chars with _ | ⟨numeral, rest⟩
  · rcases name? chars with _ | ⟨name, rest⟩
    · exact List.forall_mem_nil _
    · exact List.forall_mem_nil _
  · exact List.forall_mem_singleton.mpr (Numeral.spelled_of_numeral? read)

/-- Each numeral of a statement has been read. -/
lemma spelled_of_statement? {statement : Statement}
    (found : statement? size chars = .ok (some statement, rest)) :
    ∀ numeral ∈ statement.command.numerals, numeral.Spelled := by
  rw [statement?] at found
  split at found
  · obtain ⟨⟨address, left⟩, first, found⟩ := bind_eq_ok_iff.mp found
    cases found
    exact List.forall_mem_singleton.mpr (spelled_of_argument first)
  · split at found
    · obtain ⟨⟨value, left⟩, first, found⟩ := bind_eq_ok_iff.mp found
      cases found
      exact List.forall_mem_singleton.mpr (spelled_of_argument first)
    · split at found
      · obtain ⟨⟨address, left⟩, first, found⟩ := bind_eq_ok_iff.mp found
        obtain ⟨⟨value, left'⟩, second, found⟩ := bind_eq_ok_iff.mp found
        cases found
        exact List.forall_mem_cons.mpr
          ⟨spelled_of_argument first, List.forall_mem_singleton.mpr (spelled_of_argument second)⟩
      · split at found
        · next mnemonic behind _ =>
          cases found
          exact spelled_of_operand? size (skip behind) (String.ofList mnemonic)
        · cases found

end Line

/-- **Each numeral of a text has been read as one.** -/
theorem spelled_of_parseSource {chars : List Char} {numbered : List NumberedLine}
    (read : parseSource chars = .ok numbered) :
    ∀ line ∈ numbered, ∀ numeral ∈ line.line.content.numerals, numeral.Spelled := by
  intro line inside
  obtain ⟨whole, -, parsed⟩ := exists_mem_textLines read inside
  obtain ⟨statement, rest, found, -, same⟩ := Line.parse_eq_ok_iff.mp parsed
  rw [same]
  cases statement with
  | none => exact List.forall_mem_nil _
  | some statement => exact Line.spelled_of_statement? found

end Hex8.Asm
