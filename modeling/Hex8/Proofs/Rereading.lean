import Hex8.Proofs.ReadFront

set_option relaxedAutoImplicit false
set_option autoImplicit false

/-!
# Reading the text of a line again

The text of a line is what is left of it without the blanks in front of everything, and mostly
without the blanks and the comment at its end. It says the same as the line does: reading it gives
the same label and the same statement, and the same text once more. Where the text ends nothing has
been torn apart, since no token goes on into what is skipped behind it.

## Main results

* `Hex8.Asm.name?_append`, `Hex8.Asm.numeral?_append` — no token goes into what is skipped behind
  it.
* `Hex8.Asm.Line.exists_append_text` — the text of a line is what is left of it without its margins.
* `Hex8.Asm.Line.parse_text` — a line is read again from its text.

## Design

What is skipped behind a line is called `tail`; it is something that `skip` leaves nothing of. Each
part of a line is read from `front ++ tail` as it is read from `front`, as long as there is
something left to be read.
-/

namespace Hex8.Asm

variable {front tail : List Char}

/-! ## Tokens -/

/-- Blanks are spaces and tabs. -/
lemma eq_or_eq_of_isBlank {c : Char} (blank : isBlank c = true) : c = ' ' ∨ c = '\t' := by
  rw [isBlank, Bool.or_eq_true, decide_eq_true_eq, decide_eq_true_eq] at blank
  exact blank

/-- What is skipped as a whole starts with a blank or a comment. -/
lemma head_of_skip_eq_nil (blank : skip tail = []) :
    ∀ c ∈ tail.head?, c ∈ [' ', '\t', '#', '/'] := by
  rcases tail with _ | ⟨c, rest⟩
  · nofun
  · rintro _ ⟨⟩
    rw [skip] at blank
    split at blank
    · next isBlank' =>
      rcases eq_or_eq_of_isBlank isBlank' with rfl | rfl <;> decide
    · split at blank
      · next comment =>
        unfold startsComment at comment
        split at comment <;> simp_all
      · cases blank

/-- Nothing is skipped in front of any other character. -/
lemma skip_cons_of_plain {c : Char} (plain : c ∉ [' ', '\t', '#', '/']) (rest : List Char) :
    skip (c :: rest) = c :: rest := by
  have noBlank : ¬isBlank c = true := by
    intro blank
    rcases eq_or_eq_of_isBlank blank with rfl | rfl <;> exact plain (by decide)
  have noComment : ¬startsComment (c :: rest) = true := by
    intro comment
    unfold startsComment at comment
    split at comment <;> simp_all
  rw [skip, if_neg noBlank, if_neg noComment]

/-- Nothing is skipped in front of a character of a kind if no blank and no comment is of it. -/
lemma skip_cons_of_kind (kind : Char → Bool) {c : Char} (isKind : kind c = true)
    (others : [' ', '\t', '#', '/'].any kind = false) (rest : List Char) :
    skip (c :: rest) = c :: rest := by
  rw [List.any_eq_false] at others
  exact skip_cons_of_plain (fun skipped => others c skipped isKind) rest

/-- What is skipped starts with no character of a kind if no blank and no comment does. -/
lemma not_kind_of_skip_eq_nil (kind : Char → Bool) (blank : skip tail = [])
    (others : [' ', '\t', '#', '/'].any kind = false) : ∀ c ∈ tail.head?, kind c = false := by
  intro c head
  rw [List.any_eq_false] at others
  exact Bool.eq_false_iff.mpr (others c (head_of_skip_eq_nil blank c head))

/-- Characters of a kind end where something begins that starts with none of them. -/
lemma span_append {kind : Char → Bool} (front : List Char)
    (stop : ∀ c ∈ tail.head?, kind c = false) :
    (front ++ tail).takeWhile kind = front.takeWhile kind ∧
      (front ++ tail).dropWhile kind = front.dropWhile kind ++ tail := by
  induction front with
  | nil =>
    rcases tail with _ | ⟨c, rest⟩
    · exact ⟨rfl, rfl⟩
    · have other : ¬kind c = true := by simp [stop c rfl]
      exact ⟨List.takeWhile_cons_of_neg other, List.dropWhile_cons_of_neg other⟩
  | cons c front ih =>
    rw [List.cons_append]
    by_cases h : kind c = true
    · simp only [List.takeWhile_cons_of_pos h, List.dropWhile_cons_of_pos h, ih, and_self]
    · simp only [List.takeWhile_cons_of_neg h, List.dropWhile_cons_of_neg h, List.cons_append,
        and_self]

/-- **No name goes into what is skipped behind it.** -/
theorem name?_append (blank : skip tail = []) :
    name? (front ++ tail) = (name? front).map fun r => (r.1, r.2 ++ tail) := by
  rcases front with _ | ⟨c, front⟩
  · rcases tail with _ | ⟨c, rest⟩
    · rfl
    · have other : startsName c = false := not_kind_of_skip_eq_nil _ blank (by decide) c rfl
      simp [name?, other]
  · have ends := span_append front (not_kind_of_skip_eq_nil continuesName blank (by decide))
    simp only [List.cons_append, name?, ends]
    split <;> rfl

/-- Digits do not go into what starts with no digit. -/
lemma digits?_append {isDigit : Char → Bool} {marker : List Char}
    (stop : ∀ c ∈ tail.head?, isDigit c = false) :
    digits? isDigit marker (front ++ tail) =
      (digits? isDigit marker front).map fun r => (r.1, r.2 ++ tail) := by
  have ends := span_append front stop
  rw [digits?, digits?, ends.1, ends.2]
  rcases front.takeWhile isDigit with _ | ⟨digit, digits⟩ <;> rfl

/-- Without a marker there is no hexadecimal numeral. -/
lemma hexadecimal?_eq_none {chars : List Char}
    (unmarked : ∀ m rest, chars = '0' :: m :: rest → m ∉ ['x', 'X']) :
    hexadecimal? chars = none := by
  fun_cases hexadecimal? chars with
  | case1 rest => exact absurd List.mem_cons_self (unmarked 'x' rest rfl)
  | case2 rest => exact absurd (by decide) (unmarked 'X' rest rfl)
  | case3 => rfl

/-- No hexadecimal numeral goes into what is skipped behind it, and none has its marker there. -/
lemma hexadecimal?_append (blank : skip tail = []) :
    hexadecimal? (front ++ tail) = (hexadecimal? front).map fun r => (r.1, r.2 ++ tail) := by
  have stop := not_kind_of_skip_eq_nil isHexDigit blank (by decide)
  have outside := not_kind_of_skip_eq_nil (['0', 'x', 'X'].contains ·) blank (by decide)
  by_cases marked : ∃ m rest, front = '0' :: m :: rest ∧ m ∈ ['x', 'X']
  · obtain ⟨m, rest, rfl, lower | ⟨_, upper | ⟨_, ⟨⟩⟩⟩⟩ := marked
    · exact digits?_append stop
    · exact digits?_append stop
  · rw [hexadecimal?_eq_none fun m rest same sign => marked ⟨m, rest, same, sign⟩]
    refine hexadecimal?_eq_none fun m rest same sign => ?_
    rcases front with _ | ⟨c, _ | ⟨d, front⟩⟩
    · have whole : tail = '0' :: m :: rest := same
      have zero : ['0', 'x', 'X'].contains '0' = false := outside '0' (by rw [whole]; rfl)
      cases zero
    · have behind : tail = m :: rest := (List.cons.inj same).2
      have other : ['0', 'x', 'X'].contains m = false := outside m (by rw [behind]; rfl)
      rw [List.contains_cons, Bool.or_eq_false_iff] at other
      exact absurd (List.contains_iff_mem.mpr sign) (Bool.eq_false_iff.mp other.2)
    · simp only [List.cons_append, List.cons.injEq] at same
      exact marked ⟨d, front, by rw [same.1], same.2.1 ▸ sign⟩

/-- **No numeral goes into what is skipped behind it.** -/
theorem numeral?_append (blank : skip tail = []) :
    numeral? (front ++ tail) = (numeral? front).map fun r => (r.1, r.2 ++ tail) := by
  rw [numeral?, numeral?, hexadecimal?_append blank,
    digits?_append (not_kind_of_skip_eq_nil Char.isDigit blank (by decide))]
  cases hexadecimal? front <;> rfl

/-- If something is left behind blanks, it is the same with what is skipped behind it. -/
lemma skip_append (blank : skip tail = []) (left : skip (front ++ tail) ≠ []) :
    skip (front ++ tail) = skip front ++ tail := by
  induction front with
  | nil => exact absurd blank left
  | cons c front ih =>
    rw [List.cons_append, skip] at left ⊢
    rw [skip]
    split
    · next isBlank' =>
      rw [if_pos isBlank'] at left
      exact ih left
    · next noBlank =>
      rw [if_neg noBlank] at left
      split at left
      · cases left rfl
      · next noComment =>
        have noComment' : ¬startsComment (c :: front) = true :=
          fun comment => noComment (startsComment_append comment)
        rw [if_neg noComment, if_neg noComment', List.cons_append]

/-- A keyword without blanks and signs of comments does not go into what is skipped behind it. -/
lemma after?_append {keyword : List Char} (blank : skip tail = [])
    (plain : keyword.any ([' ', '\t', '#', '/'].contains ·) = false) :
    after? keyword (front ++ tail) = (after? keyword front).map (· ++ tail) := by
  induction keyword generalizing front with
  | nil => rfl
  | cons k keyword ih =>
    rw [List.any_cons, Bool.or_eq_false_iff] at plain
    rcases front with _ | ⟨c, front⟩
    · rcases tail with _ | ⟨c, rest⟩
      · rfl
      · have sign := List.contains_iff_mem.mpr (head_of_skip_eq_nil blank c rfl)
        have differ : ¬k = c := by
          rintro rfl
          rw [sign] at plain
          cases plain.1
        exact if_neg differ
    · rw [List.cons_append, after?, after?]
      split
      · exact ih plain.2
      · rfl

namespace Line

/-! ## Statements -/

/-- A name with a colon behind it is the same with what is skipped behind both. -/
lemma label?_append (blank : skip tail = []) :
    label? (front ++ tail) = (label? front).map fun r => (r.1, r.2 ++ tail) := by
  rw [label?, label?, name?_append blank]
  rcases name? front with _ | ⟨name, _ | ⟨c, rest⟩⟩
  · rfl
  · rcases tail with _ | ⟨c, rest⟩
    · rfl
    · have noColon : c ≠ ':' := by
        rintro rfl
        exact absurd (head_of_skip_eq_nil blank ':' rfl) (by decide)
      simp [noColon]
  · by_cases colon : c = ':'
    · subst colon
      rfl
    · simp [colon]

/-- An operand is the same with what is skipped behind it. -/
lemma operand?_append (size : Nat) (blank : skip tail = []) :
    operand? size (front ++ tail) =
      ((operand? (size - tail.length) front).1,
        (operand? (size - tail.length) front).2 ++ tail) := by
  have place : size - (front ++ tail).length = size - tail.length - front.length := by
    rw [List.length_append]
    omega
  rw [operand?, operand?, numeral?_append blank, name?_append blank, place]
  rcases numeral? front with _ | ⟨numeral, rest⟩
  · rcases name? front with _ | ⟨name, rest⟩ <;> rfl
  · rfl

/-- An optional comma is the same with what is skipped behind it. -/
lemma skipComma_append (blank : skip tail = []) (left : skip (front ++ tail) ≠ []) :
    skipComma (front ++ tail) = skipComma front ++ tail := by
  rw [skipComma, skipComma, skip_append blank left]
  rcases skip front with _ | ⟨c, rest⟩
  · rcases tail with _ | ⟨c, rest⟩
    · rfl
    · have noComma : c ≠ ',' := by
        rintro rfl
        exact absurd (head_of_skip_eq_nil blank ',' rfl) (by decide)
      simp [noComma]
  · by_cases comma : c = ','
    · subst comma
      rfl
    · simp [comma]

/-! ## Lines -/

open Grammar

/-- The text of a line is a part of it. -/
lemma infix_text {chars : List Char} {line : Line} (h : parse chars = .ok line) :
    line.text.toList <:+: chars := by
  obtain ⟨statement, rest, -, -, rfl⟩ := parse_eq_ok_iff.mp h
  rw [String.toList_ofList]
  exact (List.take_prefix _ _).isInfix.trans (suffix_skip chars).isInfix

/-- The text of a line is all of it but the blanks in front of it and what is skipped at its end. -/
lemma exists_append_text {chars : List Char} {line : Line} (parsed : parse chars = .ok line) :
    ∃ blanks tail, chars = blanks ++ (line.text.toList ++ tail) ∧
      (∀ c ∈ blanks, isBlank c = true) ∧ skip tail = [] := by
  obtain ⟨statement, rest, found, blank, rfl⟩ := parse_eq_ok_iff.mp parsed
  obtain ⟨text, body⟩ := (suffix_of_statement? found).trans (suffix_labelled (skip chars))
  have cut : (skip chars).take ((skip chars).length - rest.length) = text := by
    rw [← body, List.length_append, Nat.add_sub_cancel, List.take_left]
  rw [String.toList_ofList, cut]
  by_cases nothing : skip chars = []
  · rw [nothing, List.append_eq_nil_iff] at body
    rw [body.1]
    exact ⟨[], chars, rfl, nofun, nothing⟩
  · obtain ⟨blanks, whole, plain⟩ := exists_blanks_of_skip nothing
    exact ⟨blanks, rest, by rw [body, ← whole], plain, blank⟩

/-- **A line is read again from its text.** Nothing of what it says depends on what is in front of
the text or behind it.

**Proof sketch.** What is left behind the statement is skipped as a whole (`parse_eq_ok_iff`). The
line can be read without it (`parse_of_statement?`), and no place changes, because all of them are
differences of lengths. -/
theorem parse_text {chars : List Char} {line : Line} (h : parse chars = .ok line) :
    parse line.text.toList = .ok { line with indent := 0 } := by
  obtain ⟨statement, rest, found, -, rfl⟩ := parse_eq_ok_iff.mp h
  obtain ⟨text, body⟩ := (suffix_of_statement? found).trans (suffix_labelled (skip chars))
  have cut : (skip chars).take ((skip chars).length - rest.length) = text := by
    rw [← body, List.length_append, Nat.add_sub_cancel, List.take_left]
  rw [String.toList_ofList, cut]
  rw [← body] at found ⊢
  exact parse_of_statement? (by rw [body, skip_skip]) found

end Line

end Hex8.Asm
