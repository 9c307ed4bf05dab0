import Hex8.Proofs.Spelling

set_option relaxedAutoImplicit false
set_option autoImplicit false

/-!
# Reading numerals in 64 bits

The number of a numeral can be found from its characters alone, in 64-bit arithmetic: they are read
as a decimal number first, and as a hexadecimal one if that is not possible. Each step is checked, so
a number that has more than 64 bits is not found at all. The last step makes a byte of the number,
behind a comparison with the largest value that is allowed. All of this agrees with the number that
the numeral stands for, however many digits it has.

## Main definitions

* `Hex8.Asm.Literal.push?` — a number with one more digit.
* `Hex8.Asm.Literal.decimal?`, `Hex8.Asm.Literal.hexadecimal?`, `Hex8.Asm.Literal.number?` — the two
  attempts at a number, and both of them.
* `Hex8.Asm.Literal.check` — characters as a number of the right size.
* `Hex8.Asm.Numeral.ReadByValue` — what it means that a numeral is read by its value.

## Main results

* `Hex8.Asm.Literal.foldlM_push?` — digits are added up as long as there are no more than 64 bits.
* `Hex8.Asm.Numeral.Spelled.decimal?_chars`, `Hex8.Asm.Numeral.Spelled.hexadecimal?_chars` — only
  the attempt that is meant finds a number.
* `Hex8.Asm.Numeral.Spelled.check_chars` — 64 bits are enough.
* `Hex8.Asm.numerals_read_by_value` — numerals are read by value.

## Design

A number may have a plus sign in front of its digits here, also behind a marker. There is no such
numeral in the grammar, so this is never of any use.
-/

namespace Hex8.Asm

/-! ## Arithmetic with 64 bits -/

namespace Literal

/-- The product of two numbers, if it has no more than 64 bits. -/
def mul? (a b : UInt64) : Option UInt64 :=
  if a.toNat * b.toNat < numberLimit then some (a * b) else none

/-- The sum of two numbers, if it has no more than 64 bits. -/
def add? (a b : UInt64) : Option UInt64 :=
  if a.toNat + b.toNat < numberLimit then some (a + b) else none

/-- Whether a character is a digit in the given base. -/
def isDigitOf (radix : UInt64) (c : Char) : Bool :=
  isHexDigit c && digitValue c < radix.toNat

/-- The value of a digit, if the character is one. -/
def digit? (radix : UInt64) (c : Char) : Option UInt64 :=
  if isDigitOf radix c then some (UInt64.ofNat (digitValue c)) else none

/-- The number with one more digit. -/
def push? (radix value : UInt64) (c : Char) : Option UInt64 := do
  let scaled ← mul? value radix
  let digit ← digit? radix c
  add? scaled digit

/-- The number with the given digits. There is no number without digits. -/
def ofDigits? (radix : UInt64) (digits : List Char) : Option UInt64 :=
  if digits = [] then none else digits.foldlM (push? radix) 0

/-- The number with the given digits, and perhaps a plus sign in front of them. -/
def unsigned? (radix : UInt64) : List Char → Option UInt64
  | '+' :: digits => ofDigits? radix digits
  | digits => ofDigits? radix digits

/-- Characters as a decimal number. -/
def decimal? (chars : List Char) : Option UInt64 :=
  unsigned? 10 chars

/-- Characters as a hexadecimal number behind its marker. -/
def hexadecimal? : List Char → Option UInt64
  | '0' :: 'x' :: digits => unsigned? 16 digits
  | '0' :: 'X' :: digits => unsigned? 16 digits
  | _ => none

/-- Characters as a decimal number if possible, and as a hexadecimal one otherwise. -/
def number? (chars : List Char) : Option UInt64 :=
  (decimal? chars).or (hexadecimal? chars)

/-- Characters as the number for a quantity. -/
def check (quantity : Quantity) (chars : List Char) : Except LineError UInt8 :=
  match number? chars with
  | none => .error (.invalidNumber (String.ofList chars))
  | some n =>
    if n ≤ UInt64.ofNat quantity.max then .ok n.toUInt8
    else .error (.outOfRange quantity (String.ofList chars))

/-! ## One digit, and many -/

/-- A number as 64 bits, if it has no more. -/
def ofNat? (n : Nat) : Option UInt64 :=
  if n < numberLimit then some (UInt64.ofNat n) else none

/-- The number that is found is the number that is meant. -/
lemma ofNat?_eq_some_iff {n : Nat} {w : UInt64} : ofNat? n = some w ↔ w.toNat = n := by
  rw [ofNat?]
  by_cases fits : n < numberLimit
  · rw [if_pos fits, Option.some.injEq, ← UInt64.toNat_inj, UInt64.toNat_ofNat_of_lt' fits]
    exact eq_comm
  · rw [if_neg fits]
    refine ⟨fun h => (nomatch h), fun same => ?_⟩
    exact absurd (same ▸ w.toNat_lt) fits

/-- If a number has too many bits, so has every larger one. -/
lemma ofNat?_eq_none_of_le {m n : Nat} (large : ofNat? m = none) (le : m ≤ n) :
    ofNat? n = none := by
  rw [ofNat?] at large ⊢
  split at large
  · cases large
  · next huge => exact if_neg fun fits => huge (le.trans_lt fits)

/-- A product is found as it is. -/
lemma mul?_eq (a b : UInt64) : mul? a b = ofNat? (a.toNat * b.toNat) := by
  rw [mul?, ofNat?, UInt64.ofNat_mul, UInt64.ofNat_toNat, UInt64.ofNat_toNat]

/-- A sum is found as it is. -/
lemma add?_eq (a b : UInt64) : add? a b = ofNat? (a.toNat + b.toNat) := by
  rw [add?, ofNat?, UInt64.ofNat_add, UInt64.ofNat_toNat, UInt64.ofNat_toNat]

variable {radix value : UInt64} {c : Char} {digits : List Char}

/-- What is no digit cannot be added. -/
lemma push?_of_not_digit (other : isDigitOf radix c = false) : push? radix value c = none := by
  have missing : digit? radix c = none := by
    rw [digit?, if_neg (Bool.eq_false_iff.mp other)]
  rw [push?, missing]
  cases mul? value radix <;> rfl

/-- **One more digit** makes the number that it should, unless that has more than 64 bits. -/
theorem push?_eq (digit : isDigitOf radix c = true) :
    push? radix value c = ofNat? (radix.toNat * value.toNat + digitValue c) := by
  have small : digitValue c < 16 := by
    rw [isDigitOf, Bool.and_eq_true] at digit
    exact digitValue_lt digit.1
  have exact : (UInt64.ofNat (digitValue c)).toNat = digitValue c :=
    UInt64.toNat_ofNat_of_lt' (small.trans (by decide))
  rw [push?, mul?_eq, digit?, if_pos digit, Nat.mul_comm]
  rcases product : ofNat? (radix.toNat * value.toNat) with _ | scaled
  · -- the product alone is too large, and so is the sum
    rw [ofNat?_eq_none_of_le product (Nat.le_add_right _ _)]
    rfl
  · change add? scaled (UInt64.ofNat (digitValue c)) = _
    rw [add?_eq, exact, ofNat?_eq_some_iff.mp product]

/-- More digits do not make a number smaller. -/
lemma le_foldl (positive : 0 < radix.toNat) (start : Nat) :
    start ≤ digits.foldl (fun value digit => radix.toNat * value + digitValue digit) start := by
  induction digits generalizing start with
  | nil => exact le_rfl
  | cons c digits ih =>
    calc start
        ≤ radix.toNat * start := Nat.le_mul_of_pos_left start positive
      _ ≤ radix.toNat * start + digitValue c := Nat.le_add_right _ _
      _ ≤ _ := ih _

/-- **Digits are added up** as long as there are no more than 64 bits.

**Proof sketch.** Induction on the digits. If there are too many bits behind the first digit, there
are too many at the end, since the number never becomes smaller (`Hex8.Asm.Literal.le_foldl`). -/
theorem foldlM_push? (positive : 0 < radix.toNat)
    (kind : ∀ c ∈ digits, isDigitOf radix c = true) :
    digits.foldlM (push? radix) value = ofNat?
      (digits.foldl (fun value digit => radix.toNat * value + digitValue digit) value.toNat) := by
  induction digits generalizing value with
  | nil => exact (ofNat?_eq_some_iff.mpr rfl).symm
  | cons c digits ih =>
    rw [List.forall_mem_cons] at kind
    rw [List.foldlM_cons, push?_eq kind.1, List.foldl_cons]
    rcases pushed : ofNat? (radix.toNat * value.toNat + digitValue c) with _ | next
    · rw [ofNat?_eq_none_of_le pushed (le_foldl positive _)]
      rfl
    · change digits.foldlM (push? radix) next = _
      rw [ih kind.2, ofNat?_eq_some_iff.mp pushed]

/-- So is a number without a sign. -/
lemma unsigned?_eq (positive : 0 < radix.toNat) (nonempty : digits ≠ [])
    (kind : ∀ c ∈ digits, isDigitOf radix c = true) :
    unsigned? radix digits = ofNat? (digitsValue radix.toNat digits) := by
  have unsigned : unsigned? radix digits = ofDigits? radix digits := by
    rw [unsigned?.eq_def]
    split
    · next digits =>
      have sign := kind '+' List.mem_cons_self
      rw [isDigitOf, Bool.and_eq_true] at sign
      exact absurd sign.1 (by decide)
    · rfl
  rw [unsigned, ofDigits?, if_neg nonempty, foldlM_push? positive kind]
  rfl

/-- Behind the marker of hexadecimal digits there is no decimal number. -/
lemma decimal?_of_marked {marker : List Char} (marked : marker ∈ [['0', 'x'], ['0', 'X']]) :
    decimal? (marker ++ digits) = none := by
  have stuck {m : Char} (other : isDigitOf 10 m = false) :
      decimal? ('0' :: m :: digits) = none := by
    have zero : push? 10 0 '0' = some 0 := by decide
    change ('0' :: m :: digits).foldlM (push? 10) 0 = none
    rw [List.foldlM_cons, zero]
    change (push? 10 0 m).bind _ = none
    rw [push?_of_not_digit other]
    rfl
  rcases List.mem_pair.mp marked with rfl | rfl
  · exact stuck (by decide)
  · exact stuck (by decide)

/-- Without a marker there is no hexadecimal number. -/
lemma hexadecimal?_of_forall (kind : ∀ c ∈ digits, c.isDigit = true) :
    hexadecimal? digits = none := by
  have sign (m : Char) (inside : m ∈ digits) : m ∉ ['x', 'X'] := fun sign => by
    rcases List.mem_pair.mp sign with rfl | rfl <;> exact absurd (kind _ inside) (by decide)
  fun_cases hexadecimal? digits with
  | case1 rest => exact absurd (by decide) (sign 'x' (by simp))
  | case2 rest => exact absurd (by decide) (sign 'X' (by simp))
  | case3 => rfl

end Literal

/-! ## Numerals -/

namespace Numeral

open Literal

variable {numeral : Numeral}

namespace Spelled

/-- **A decimal numeral is read as such**: the first attempt finds its number, and a second one
would find nothing. -/
theorem decimal?_chars (spelled : numeral.Spelled) (unmarked : numeral.marker = []) :
    Literal.decimal? numeral.chars = ofNat? numeral.value ∧
      Literal.hexadecimal? numeral.chars = none := by
  cases spelled with
  | decimal nonempty kind =>
    refine ⟨unsigned?_eq (by decide) nonempty fun c inside => ?_,
      Literal.hexadecimal?_of_forall kind⟩
    rw [isDigitOf, isHexDigit_of_isDigit (kind c inside), Bool.true_and]
    exact decide_eq_true (digitValue_lt_ten (kind c inside))
  | hexadecimal marked =>
    change _ = [] at unmarked
    subst unmarked
    exact absurd marked (by decide)

/-- **A hexadecimal numeral is read as such**: the first attempt finds nothing, and the second one
finds its number. -/
theorem hexadecimal?_chars (spelled : numeral.Spelled) (marked : numeral.marker ≠ []) :
    Literal.decimal? numeral.chars = none ∧
      Literal.hexadecimal? numeral.chars = ofNat? numeral.value := by
  cases spelled with
  | decimal => exact absurd rfl marked
  | @hexadecimal _ digits sign nonempty kind =>
    have found : unsigned? 16 digits = ofNat? (digitsValue 16 digits) :=
      unsigned?_eq (by decide) nonempty fun c inside => by
        rw [isDigitOf, kind c inside, Bool.true_and]
        exact decide_eq_true (digitValue_lt (kind c inside))
    refine ⟨decimal?_of_marked sign, ?_⟩
    rcases List.mem_pair.mp sign with rfl | rfl
    · exact found
    · exact found

/-- The number of a numeral is found if it has no more than 64 bits. -/
lemma number?_chars (spelled : numeral.Spelled) :
    number? numeral.chars = ofNat? numeral.value := by
  rw [number?]
  by_cases unmarked : numeral.marker = []
  · rw [(spelled.decimal?_chars unmarked).1, (spelled.decimal?_chars unmarked).2, Option.or_none]
  · rw [(spelled.hexadecimal?_chars unmarked).1, (spelled.hexadecimal?_chars unmarked).2,
      Option.none_or]

/-- **64 bits are enough** to check a numeral, with the same errors. -/
theorem check_chars (spelled : numeral.Spelled) (quantity : Quantity) :
    Literal.check quantity numeral.chars = numeral.check quantity := by
  have limit := quantity.max_lt_numberLimit
  rw [Literal.check, spelled.number?_chars, Numeral.check, ofNat?]
  by_cases fits : numeral.value < numberLimit
  · have size : UInt64.ofNat numeral.value ≤ UInt64.ofNat quantity.max ↔
        numeral.value ≤ quantity.max := by
      rw [UInt64.le_iff_toNat_le, UInt64.toNat_ofNat_of_lt' fits, UInt64.toNat_ofNat_of_lt' limit]
    rw [if_pos fits, if_neg (Nat.not_le.mpr fits)]
    dsimp only
    by_cases small : numeral.value ≤ quantity.max
    · rw [if_pos (size.mpr small), if_neg (Nat.not_lt.mpr small), UInt64.toUInt8_ofNat']
    · rw [if_neg (mt size.mp small), if_pos (Nat.not_le.mp small)]
      rfl
  · rw [if_neg fits, if_pos (Nat.not_lt.mp fits)]
    rfl

end Spelled

/-- What it means that a numeral is read by its value. -/
structure ReadByValue (numeral : Numeral) : Prop where
  /-- To the grammar its characters are this numeral, and nothing is left of them. -/
  whole : Grammar.num.run numeral.chars = some (numeral, [])
  /-- It is accepted if and only if its number is not larger than what the quantity allows. -/
  accepted (quantity : Quantity) :
    (∃ byte, numeral.check quantity = .ok byte) ↔ numeral.amount ≤ quantity.max
  /-- The result is that number. -/
  exact {quantity : Quantity} {byte : UInt8} (found : numeral.check quantity = .ok byte) :
    byte.toNat = numeral.amount
  /-- Otherwise the error says whether the number has more than 64 bits. -/
  rejected {quantity : Quantity} (large : quantity.max < numeral.amount) :
    numeral.check quantity =
      .error (if numeral.amount < 2 ^ 64 then .outOfRange quantity numeral.text
        else .invalidNumber numeral.text)
  /-- The same comes out in 64 bits. -/
  literal (quantity : Quantity) :
    Literal.check quantity numeral.chars = numeral.check quantity
  /-- A decimal numeral is read as such, and not as a hexadecimal one. -/
  decimal (unmarked : numeral.marker = []) :
    (∀ w : UInt64, Literal.decimal? numeral.chars = some w ↔ w.toNat = numeral.amount) ∧
      Literal.hexadecimal? numeral.chars = none
  /-- A hexadecimal numeral is read as such, and not as a decimal one. -/
  hexadecimal (marked : numeral.marker ≠ []) :
    Literal.decimal? numeral.chars = none ∧
      ∀ w : UInt64, Literal.hexadecimal? numeral.chars = some w ↔ w.toNat = numeral.amount
  /-- Zeros in front of the digits make another numeral of the same number. -/
  zeros (count : Nat) :
    (numeral.padded count).Spelled ∧ (numeral.padded count).amount = numeral.amount

/-- Numerals as they are written are read by value. -/
theorem Spelled.readByValue (spelled : numeral.Spelled) : numeral.ReadByValue where
  whole := by rw [Grammar.run_num, spelled.numeral?_chars]
  accepted quantity := by
    simp only [Numeral.check_eq_ok_iff, spelled.value_eq_amount, exists_and_left, exists_eq,
      and_true]
  exact {quantity byte} found := by
    obtain ⟨small, rfl⟩ := Numeral.check_eq_ok_iff.mp found
    have bound : quantity.max < 256 := by cases quantity <;> decide
    rw [UInt8.toNat_ofNat_of_lt' (small.trans_lt bound), spelled.value_eq_amount]
  rejected {quantity} large := by
    rw [← spelled.value_eq_amount] at large ⊢
    have limit : numberLimit = 2 ^ 64 := by decide
    rw [Numeral.check, limit, if_pos large]
    by_cases fits : numeral.value < 2 ^ 64
    · rw [if_pos fits, if_neg (Nat.not_le.mpr fits)]
    · rw [if_neg fits, if_pos (Nat.not_lt.mp fits)]
  literal := spelled.check_chars
  decimal unmarked := by
    obtain ⟨found, nothing⟩ := spelled.decimal?_chars unmarked
    refine ⟨fun w => ?_, nothing⟩
    rw [found, ofNat?_eq_some_iff, spelled.value_eq_amount]
  hexadecimal marked := by
    obtain ⟨nothing, found⟩ := spelled.hexadecimal?_chars marked
    refine ⟨nothing, fun w => ?_⟩
    rw [found, ofNat?_eq_some_iff, spelled.value_eq_amount]
  zeros count := ⟨spelled.padded count, numeral.amount_padded count⟩

end Numeral

/-- **Numerals are read by value, however long they are.** Decimal digits, and hexadecimal digits
behind a marker, are accepted if and only if the number that they make in the positional system is
not larger than what the quantity allows, and the result is that number. It is the same if the
characters are read in 64 bits, first as a decimal number and then as a hexadecimal one: nothing
wraps around, and neither attempt takes a numeral of the other kind for its own. There are no other
numerals in the grammar or in a text, and a marker alone is none.

**Proof sketch.** Each digit either makes the number that it should or one with more than 64 bits
(`Hex8.Asm.Literal.push?_eq`), and so do many of them (`Hex8.Asm.Literal.foldlM_push?`). The letter
of the marker is no decimal digit, so at most one of the attempts gets to the end. -/
theorem numerals_read_by_value :
    (∀ numeral : Numeral, numeral.Spelled → numeral.ReadByValue) ∧
      (∀ chars numeral rest, Grammar.num.run chars = some (numeral, rest) →
        numeral.chars ++ rest = chars ∧ numeral.Spelled) ∧
      (∀ chars numbered, parseSource chars = .ok numbered →
        ∀ line ∈ numbered, ∀ numeral ∈ line.line.content.numerals, numeral.Spelled) ∧
      ∀ quantity, ∀ marker ∈ [['0', 'x'], ['0', 'X']],
        Literal.check quantity marker = .error (.invalidNumber (String.ofList marker)) := by
  refine ⟨fun _ spelled => spelled.readByValue, fun chars numeral rest run => ?_,
    fun _ _ => spelled_of_parseSource, fun quantity marker marked => ?_⟩
  · rw [Grammar.run_num] at run
    exact ⟨append_numeral? run, Numeral.spelled_of_numeral? run⟩
  · have nothing : Literal.number? marker = none := by
      rcases List.mem_pair.mp marked with rfl | rfl <;> decide
    rw [Literal.check, nothing]

/-- A numeral with far more digits than 64 bits have room for: 255 behind forty zeros. -/
def longNumeral : Numeral :=
  Numeral.padded ⟨['0', 'X'], ['f', 'F']⟩ 40

/-- It is a word, but no operand. -/
theorem numerals_read_by_value_behind_zeros :
    longNumeral.Spelled ∧ longNumeral.amount = 255 ∧
      (∃ byte, Literal.check .byte longNumeral.chars = .ok byte ∧ byte.toNat = 255) ∧
      Literal.check .immediate longNumeral.chars =
        .error (.outOfRange .immediate longNumeral.text) := by
  have kind : ['f', 'F'].all isHexDigit = true := by decide
  have spelled : longNumeral.Spelled :=
    .padded (.hexadecimal (by decide) (by decide) (List.all_eq_true.mp kind)) 40
  have amount : longNumeral.amount = 255 := (Numeral.amount_padded _ 40).trans (by decide)
  have read := numerals_read_by_value.1 longNumeral spelled
  obtain ⟨byte, found⟩ := (read.accepted .byte).mpr (by rw [amount]; decide)
  have large : Quantity.immediate.max < longNumeral.amount := by rw [amount]; decide
  refine ⟨spelled, amount, ⟨byte, (read.literal .byte).trans found, (read.exact found).trans amount⟩,
    (read.literal .immediate).trans ((read.rejected large).trans ?_)⟩
  rw [amount, if_pos (by decide)]

/-- Signs are read in front of digits. No numeral of the grammar has one. -/
example :
    Literal.number? "+7".toList = some 7 ∧ Literal.number? "0x+7".toList = some 7 ∧
      numeral? "+7".toList = none := by
  decide

end Hex8.Asm
