import Hex8.Proofs.Layout
import Hex8.Proofs.ReadText

set_option relaxedAutoImplicit false
set_option autoImplicit false

/-!
# Reading without what is left

What is read from the front of a line does not depend on what is left behind it. If everything from
some place on is cut off, and that place is not in front of what is left, the same is read, and less
is left. So what is in front of the place where a line cannot be read any further is a line that can
be read.

## Main results

* `Hex8.Asm.name?_of_append`, `Hex8.Asm.numeral?_of_append`, `Hex8.Asm.skip_of_append` — tokens, and
  what is skipped.
* `Hex8.Asm.Line.exists_directive_of_statement?_error` — where a numeral is missing, there is a
  directive in front of the place.
* `Hex8.Asm.Line.statement?_of_append` — a statement is read without what is left behind it.
* `Hex8.Asm.Line.parse_eq_ok_iff`, `Hex8.Asm.Line.parse_eq_error_iff` — which lines can be read.
* `Hex8.Asm.Line.parse_of_statement?` — a line can be read up to the end of its statement.

## Design

What is cut off is called `tail`. Each part of a line that is read from `front ++ tail`, with
`rest ++ tail` left, is read from `front` as well, with `rest` left. Such facts can be chained,
since what is left behind the last part is left behind every part. They do not say what is read from
`front` if less is left than `tail`.
-/

namespace Hex8.Asm

variable {front rest tail : List Char}

/-- A computation of two parts fails if one of them does. -/
lemma bind_eq_error_iff {ε α β : Type} {x : Except ε α} {f : α → Except ε β} {e : ε} :
    (x >>= f) = .error e ↔ x = .error e ∨ ∃ a, x = .ok a ∧ f a = .error e := by
  rcases x with e' | a
  · exact ⟨fun h => .inl (by cases h; rfl), fun h => by
      rcases h with ⟨⟨⟩⟩ | ⟨_, ⟨⟩, _⟩
      rfl⟩
  · exact ⟨fun h => .inr ⟨a, rfl, h⟩, fun h => by
      rcases h with ⟨⟨⟩⟩ | ⟨_, ⟨⟩, h⟩
      exact h⟩

/-! ## Tokens -/

/-- Of characters of a kind, those are the same that are in front of their end. -/
lemma span_of_append {kind : Char → Bool}
    (ends : (front ++ tail).dropWhile kind = rest ++ tail) :
    front.takeWhile kind = (front ++ tail).takeWhile kind ∧ front.dropWhile kind = rest := by
  induction front with
  | nil =>
    have parts := congrArg List.length (@List.takeWhile_append_dropWhile _ kind tail)
    rw [List.nil_append] at ends ⊢
    rw [ends, List.length_append, List.length_append] at parts
    rw [List.length_eq_zero_iff.mp (by omega : (tail.takeWhile kind).length = 0),
      List.length_eq_zero_iff.mp (by omega : rest.length = 0)]
    exact ⟨rfl, rfl⟩
  | cons c front ih =>
    rw [List.cons_append] at ends ⊢
    by_cases inside : kind c = true
    · rw [List.dropWhile_cons_of_pos inside] at ends
      simp only [List.takeWhile_cons_of_pos inside, List.dropWhile_cons_of_pos inside, ih ends,
        and_self]
    · rw [List.takeWhile_cons_of_neg inside, List.takeWhile_cons_of_neg inside,
        List.dropWhile_cons_of_neg inside]
      rw [List.dropWhile_cons_of_neg inside, ← List.cons_append,
        List.append_cancel_right_eq] at ends
      exact ⟨rfl, ends⟩

/-- **A name is read without what is left behind it.** -/
theorem name?_of_append {name : List Char}
    (found : name? (front ++ tail) = some (name, rest ++ tail)) :
    name? front = some (name, rest) := by
  rcases front with _ | ⟨c, front⟩
  · have length := congrArg List.length (append_name? found)
    rcases name with _ | ⟨c, name⟩
    · rcases tail with _ | ⟨c, tail⟩
      · cases found
      · rw [List.nil_append, name?] at found
        split at found <;> simp at found
    · simp only [List.length_append, List.nil_append, List.length_cons] at length
      omega
  · rw [List.cons_append, name?] at found
    rw [name?]
    split at found
    · next starts =>
      simp only [Option.some.injEq, Prod.mk.injEq] at found
      obtain ⟨taken, dropped⟩ := span_of_append found.2
      rw [if_pos starts, taken, dropped, found.1]
    · cases found

/-- If there is no name, there is none without the end of the line. -/
lemma name?_eq_none_of_append (missing : name? (front ++ tail) = none) : name? front = none := by
  rcases front with _ | ⟨c, front⟩
  · rfl
  · rw [List.cons_append, name?] at missing
    rw [name?]
    split at missing
    · cases missing
    · next noName => exact if_neg noName

/-- A name that has ended goes on no further. -/
lemma name?_append_of_cons {name : List Char} {c : Char}
    (found : name? front = some (name, c :: rest)) (tail : List Char) :
    name? (front ++ tail) = some (name, c :: (rest ++ tail)) := by
  rcases front with _ | ⟨d, front⟩
  · cases found
  · rw [name?] at found
    rw [List.cons_append, name?]
    split at found
    · next starts =>
      simp only [Option.some.injEq, Prod.mk.injEq] at found
      have shorter := congrArg List.length
        (@List.takeWhile_append_dropWhile _ continuesName front)
      rw [found.2, List.length_append, List.length_cons] at shorter
      have taken : (front ++ tail).takeWhile continuesName = front.takeWhile continuesName := by
        rw [List.takeWhile_append, if_neg (by omega)]
      have dropped : (front ++ tail).dropWhile continuesName = c :: (rest ++ tail) := by
        rw [List.dropWhile_append, found.2]
        rfl
      rw [if_pos starts, taken, dropped, found.1]
    · cases found

/-- Digits are read without what is left behind them. -/
lemma digits?_of_append {isDigit : Char → Bool} {marker : List Char} {numeral : Numeral}
    (found : digits? isDigit marker (front ++ tail) = some (numeral, rest ++ tail)) :
    digits? isDigit marker front = some (numeral, rest) := by
  rw [digits?] at found ⊢
  split at found
  · cases found
  · next digits some_digits =>
    simp only [Option.some.injEq, Prod.mk.injEq] at found
    obtain ⟨taken, dropped⟩ := span_of_append found.2
    rw [taken, dropped, ← found.1]
    split
    · next none => exact absurd none some_digits
    · rfl

/-- There are no digits if the first character is none. -/
lemma digits?_eq_none_iff {isDigit : Char → Bool} {marker chars : List Char} :
    digits? isDigit marker chars = none ↔ ∀ c ∈ chars.head?, isDigit c = false := by
  rcases chars with _ | ⟨c, chars⟩
  · simp [digits?]
  · by_cases digit : isDigit c = true
    · simp [digits?, digit]
    · simp [digits?, digit]

/-- If there are no digits, there are none without the end of the line. -/
lemma digits?_eq_none_of_append {isDigit : Char → Bool} {marker : List Char}
    (missing : digits? isDigit marker (front ++ tail) = none) :
    digits? isDigit marker front = none := by
  rw [digits?_eq_none_iff] at missing ⊢
  intro c head
  refine missing c ?_
  rw [List.head?_append, head]
  rfl

/-- If there is no hexadecimal numeral, there is none without the end of the line. -/
lemma hexadecimal?_eq_none_of_append (missing : hexadecimal? (front ++ tail) = none) :
    hexadecimal? front = none := by
  unfold hexadecimal?
  split
  · exact digits?_eq_none_of_append missing
  · exact digits?_eq_none_of_append missing
  · rfl

/-- If there is no numeral, there is none without the end of the line. -/
lemma numeral?_eq_none_of_append (missing : numeral? (front ++ tail) = none) :
    numeral? front = none := by
  rw [numeral?, Option.or_eq_none_iff] at missing ⊢
  exact ⟨hexadecimal?_eq_none_of_append missing.1, digits?_eq_none_of_append missing.2⟩

/-- A hexadecimal numeral is read without what is left behind it. -/
lemma hexadecimal?_of_append {numeral : Numeral}
    (found : hexadecimal? (front ++ tail) = some (numeral, rest ++ tail)) :
    hexadecimal? front = some (numeral, rest) := by
  -- the marker and the digits are in front of what is left
  have inside {marker behind : List Char} (whole : front ++ tail = marker ++ behind)
      (digits : digits? isHexDigit marker behind = some (numeral, rest ++ tail)) :
      ∃ digits', front = marker ++ digits' ∧
        digits? isHexDigit marker digits' = some (numeral, rest) := by
    have parts : behind = numeral.digits ++ rest ++ tail := by
      have read := append_digits? digits
      have same : numeral.marker = marker := by
        rw [digits?] at digits
        split at digits
        · cases digits
        · exact congrArg Numeral.marker (Prod.mk.inj (Option.some.inj digits)).1.symm
      rw [Numeral.chars, same, List.append_assoc, List.append_cancel_left_eq] at read
      rw [← read, List.append_assoc]
    rw [parts] at whole digits
    rw [← List.append_assoc, List.append_cancel_right_eq] at whole
    exact ⟨_, whole, digits?_of_append digits⟩
  unfold hexadecimal? at found
  split at found
  · next behind whole =>
    obtain ⟨digits, rfl, read⟩ := @inside ['0', 'x'] _ whole found
    exact read
  · next behind whole =>
    obtain ⟨digits, rfl, read⟩ := @inside ['0', 'X'] _ whole found
    exact read
  · cases found

/-- **A numeral is read without what is left behind it.** -/
theorem numeral?_of_append {numeral : Numeral}
    (found : numeral? (front ++ tail) = some (numeral, rest ++ tail)) :
    numeral? front = some (numeral, rest) := by
  rw [numeral?, Option.or_eq_some_iff] at found ⊢
  rcases found with hexadecimal | ⟨none, decimal⟩
  · exact .inl (hexadecimal?_of_append hexadecimal)
  · exact .inr ⟨hexadecimal?_eq_none_of_append none, digits?_of_append decimal⟩

/-- A comment goes on to the end of the line. -/
lemma startsComment_append (comment : startsComment front = true) :
    startsComment (front ++ tail) = true := by
  unfold startsComment at comment
  split at comment
  · rfl
  · rfl
  · cases comment

/-- What is left behind blanks and a comment is the end of the line. -/
lemma suffix_skip (chars : List Char) : skip chars <:+ chars := by
  induction chars with
  | nil => exact List.suffix_rfl
  | cons c rest ih =>
    unfold skip
    split
    · exact ih.trans (List.suffix_cons c rest)
    · split
      · exact List.nil_suffix
      · exact List.suffix_rfl

/-- **Blanks and a comment are skipped without what is left behind them.** -/
theorem skip_of_append (found : skip (front ++ tail) = rest ++ tail) : skip front = rest := by
  induction front with
  | nil =>
    have shorter := length_skip_le tail
    rw [List.nil_append] at found
    rw [found, List.length_append] at shorter
    exact (List.length_eq_zero_iff.mp (by omega)).symm
  | cons c front ih =>
    rw [List.cons_append, skip] at found
    rw [skip]
    by_cases blank : isBlank c = true
    · rw [if_pos blank] at found ⊢
      exact ih found
    · rw [if_neg blank] at found ⊢
      by_cases comment : startsComment (c :: (front ++ tail)) = true
      · rw [if_pos comment] at found
        obtain ⟨rfl, rfl⟩ := List.append_eq_nil_iff.mp found.symm
        rw [List.append_nil] at comment
        exact if_pos comment
      · rw [if_neg comment] at found
        have noComment : ¬startsComment (c :: front) = true :=
          fun comment' => comment (startsComment_append comment')
        rw [if_neg noComment]
        exact @List.append_cancel_right _ _ tail _ found

/-- If something is left, only blanks have been skipped. -/
lemma exists_blanks_of_skip {chars : List Char} (left : skip chars ≠ []) :
    ∃ blanks, chars = blanks ++ skip chars ∧ ∀ c ∈ blanks, isBlank c = true := by
  have settled : skip chars = chars.dropWhile isBlank := by
    rw [Grammar.skip_eq_dropWhile] at left ⊢
    exact if_neg fun comment => left (if_pos comment)
  refine ⟨chars.takeWhile isBlank, ?_, fun c inside => List.mem_takeWhile_imp inside⟩
  rw [settled, List.takeWhile_append_dropWhile]

/-- A keyword is read without what is left behind it. -/
lemma after?_of_append {keyword : List Char}
    (found : after? keyword (front ++ tail) = some (rest ++ tail)) :
    after? keyword front = some rest := by
  rw [after?_eq_some_iff, ← List.append_assoc, List.append_cancel_right_eq] at found
  exact after?_eq_some_iff.mpr found

/-- If there is no keyword, there is none without the end of the line. -/
lemma after?_eq_none_of_append {keyword : List Char}
    (missing : after? keyword (front ++ tail) = none) : after? keyword front = none := by
  rw [Option.eq_none_iff_forall_ne_some] at missing ⊢
  intro rest found
  refine missing (rest ++ tail) ?_
  rw [after?_eq_some_iff.mp found, List.append_assoc]
  exact after?_eq_some_iff.mpr rfl

namespace Line

/-! ## Statements -/

/-- A label is read without what is left behind it. -/
lemma label?_of_append {name : List Char}
    (found : label? (front ++ tail) = some (name, rest ++ tail)) :
    label? front = some (name, rest) := by
  rw [label?] at found
  split at found
  · next name' behind named =>
    cases found
    have read : name? front = some (name, ':' :: rest) := name?_of_append named
    simp only [label?, read]
  · cases found

/-- If there is no label, there is none without the end of the line. -/
lemma label?_eq_none_of_append (missing : label? (front ++ tail) = none) :
    label? front = none := by
  rcases found : label? front with _ | ⟨name, rest⟩
  · rfl
  · rw [label?] at found
    split at found
    · next name' behind named =>
      simp only [label?, name?_append_of_cons named tail] at missing
      cases missing
    · cases found

/-- The numeral of a directive and what is left behind it are the end of the line. -/
lemma suffix_of_argument {size : Nat} {chars rest : List Char} {located : Located Numeral}
    (found : argument size chars = .ok (located, rest)) : rest <:+ chars := by
  simp only [argument] at found
  split at found
  · next numeral behind number =>
    cases found
    exact List.IsSuffix.trans ⟨_, append_numeral? number⟩ (suffix_skip chars)
  · cases found

/-- A directive lacks its numeral where the blanks behind it end. -/
lemma suffix_of_argument_error {size : Nat} {chars place : List Char}
    (missing : argument size chars = .error place) : place <:+ chars := by
  simp only [argument] at missing
  split at missing
  · cases missing
  · cases missing
    exact suffix_skip chars

/-- What is left behind an optional comma is the end of the line. -/
lemma suffix_skipComma (chars : List Char) : skipComma chars <:+ chars := by
  rw [skipComma]
  split
  · next rest comma =>
    have behind : rest <:+ skip chars := by
      rw [comma]
      exact List.suffix_cons ',' rest
    exact behind.trans (suffix_skip chars)
  · exact suffix_skip chars

/-- What is left behind an operand is the end of the line. -/
lemma suffix_operand? (size : Nat) (chars : List Char) : (operand? size chars).2 <:+ chars := by
  rw [operand?]
  split
  · next numeral rest number => exact ⟨_, append_numeral? number⟩
  · split
    · next name rest named => exact ⟨_, append_name? named⟩
    · exact List.suffix_rfl

/-- What is left behind a statement is the end of the line. -/
lemma suffix_of_statement? {size : Nat} {chars rest : List Char} {statement : Option Statement}
    (found : statement? size chars = .ok (statement, rest)) : rest <:+ chars := by
  have keyword {word behind : List Char} (read : after? word chars = some behind) :
      behind <:+ chars := ⟨word, (after?_eq_some_iff.mp read).symm⟩
  rw [statement?] at found
  split at found
  · next behind read =>
    obtain ⟨⟨address, left⟩, argued, found⟩ := bind_eq_ok_iff.mp found
    cases found
    exact (suffix_of_argument argued).trans (keyword read)
  · split at found
    · next behind read =>
      obtain ⟨⟨value, left⟩, argued, found⟩ := bind_eq_ok_iff.mp found
      cases found
      exact (suffix_of_argument argued).trans (keyword read)
    · split at found
      · next behind read =>
        obtain ⟨⟨address, left⟩, first, found⟩ := bind_eq_ok_iff.mp found
        obtain ⟨⟨value, left'⟩, second, found⟩ := bind_eq_ok_iff.mp found
        cases found
        exact (suffix_of_argument second).trans
          ((suffix_skipComma left).trans ((suffix_of_argument first).trans (keyword read)))
      · split at found
        · next mnemonic behind named =>
          cases found
          exact (suffix_operand? size (skip behind)).trans
            ((suffix_skip behind).trans ⟨mnemonic, append_name? named⟩)
        · cases found
          exact List.suffix_rfl

/-- **Where a numeral is missing, there is a directive in front of the place.** -/
theorem exists_directive_of_statement?_error {size : Nat} {chars place : List Char}
    (missing : statement? size chars = .error place) :
    ∃ keyword ∈ [".pos", ".byte", ".data"], ∃ between,
      chars = keyword.toList ++ (between ++ place) := by
  have directive {word : String} {behind : List Char}
      (read : after? word.toList chars = some behind) (reached : place <:+ behind) :
      ∃ between, chars = word.toList ++ (between ++ place) := by
    obtain ⟨between, rfl⟩ := reached
    exact ⟨between, after?_eq_some_iff.mp read⟩
  rw [statement?] at missing
  split at missing
  · next behind read =>
    refine ⟨".pos", by simp, directive read ?_⟩
    rcases bind_eq_error_iff.mp missing with argued | ⟨_, _, ⟨⟩⟩
    exact suffix_of_argument_error argued
  · split at missing
    · next behind read =>
      refine ⟨".byte", by simp, directive read ?_⟩
      rcases bind_eq_error_iff.mp missing with argued | ⟨_, _, ⟨⟩⟩
      exact suffix_of_argument_error argued
    · split at missing
      · next behind read =>
        refine ⟨".data", by simp, directive read ?_⟩
        rcases bind_eq_error_iff.mp missing with first | ⟨⟨address, left⟩, first, missing⟩
        · exact suffix_of_argument_error first
        · rcases bind_eq_error_iff.mp missing with second | ⟨_, _, ⟨⟩⟩
          exact (suffix_of_argument_error second).trans
            ((suffix_skipComma left).trans (suffix_of_argument first))
      · split at missing <;> cases missing

/-- The numeral of a directive is read without what is left behind it. -/
lemma argument_of_append {size : Nat} {located : Located Numeral}
    (found : argument size (front ++ tail) = .ok (located, rest ++ tail)) :
    argument (size - tail.length) front = .ok (located, rest) := by
  simp only [argument] at found
  split at found
  · next numeral behind number =>
    obtain ⟨⟨⟩, rfl⟩ := Prod.mk.inj (Except.ok.inj found)
    have body : skip (front ++ tail) = numeral.chars ++ rest ++ tail := by
      rw [List.append_assoc, append_numeral? number]
    have place : size - tail.length - (numeral.chars ++ rest).length =
        size - (skip (front ++ tail)).length := by
      rw [body, @List.length_append _ _ tail]
      omega
    have body' := skip_of_append body
    rw [body] at number
    simp only [argument, body', numeral?_of_append number, place]
  · cases found

/-- An optional comma is skipped without what is left behind it. -/
lemma skipComma_of_append (found : skipComma (front ++ tail) = rest ++ tail) :
    skipComma front = rest := by
  rw [skipComma] at found
  split at found
  · next behind comma =>
    subst found
    have body : skip front = ',' :: rest := skip_of_append comma
    rw [skipComma, body]
    rfl
  · next noComma =>
    have body := skip_of_append found
    rw [skipComma, body]
    split
    · next behind =>
      exact absurd found (noComma (behind ++ tail))
    · rfl

/-- An operand is read without what is left behind it. -/
lemma operand?_of_append {size : Nat} (found : (operand? size (front ++ tail)).2 = rest ++ tail) :
    operand? (size - tail.length) front = ((operand? size (front ++ tail)).1, rest) := by
  have place : size - tail.length - front.length = size - (front ++ tail).length := by
    rw [List.length_append]
    omega
  rw [operand?] at found
  rw [operand?, operand?, place]
  rcases number : numeral? (front ++ tail) with _ | ⟨numeral, behind⟩
  · have none := numeral?_eq_none_of_append number
    simp only [number] at found
    rcases named : name? (front ++ tail) with _ | ⟨name, behind⟩
    · simp only [named] at found
      have none' := name?_eq_none_of_append named
      obtain rfl := List.append_cancel_right found
      simp only [none, none']
    · simp only [named] at found
      subst found
      simp only [none, name?_of_append named]
  · simp only [number] at found
    subst found
    simp only [numeral?_of_append number]

/-- **A statement is read without what is left behind it.**

**Proof sketch.** What is left behind the last part of a statement is the end of what is left behind
each of the others, so that all of them can be read from the front. -/
theorem statement?_of_append {size : Nat} {statement : Option Statement}
    (found : statement? size (front ++ tail) = .ok (statement, rest ++ tail)) :
    statement? (size - tail.length) front = .ok (statement, rest) := by
  -- what is left behind the parts in front still ends with `tail`
  have inside {behind : List Char} (ends : rest ++ tail <:+ behind) :
      ∃ more, behind = more ++ tail := by
    obtain ⟨between, rfl⟩ := ends
    exact ⟨between ++ rest, (List.append_assoc _ _ _).symm⟩
  rw [statement?] at found
  rw [statement?]
  rcases pos : after? ".pos".toList (front ++ tail) with _ | behind
  · rcases byte : after? ".byte".toList (front ++ tail) with _ | behind
    · rcases data : after? ".data".toList (front ++ tail) with _ | behind
      · simp only [pos, byte, data] at found
        simp only [after?_eq_none_of_append pos, after?_eq_none_of_append byte,
          after?_eq_none_of_append data]
        rcases named : name? (front ++ tail) with _ | ⟨mnemonic, behind⟩
        · simp only [named] at found
          have named' := name?_eq_none_of_append named
          obtain ⟨rfl, same⟩ := Prod.mk.inj (Except.ok.inj found)
          obtain rfl := List.append_cancel_right same
          simp only [named']
          rfl
        · simp only [named] at found
          obtain ⟨rfl, left⟩ := Prod.mk.inj (Except.ok.inj found)
          have ends := suffix_operand? size (skip behind)
          rw [left] at ends
          obtain ⟨operands, settled⟩ := inside ends
          obtain ⟨more, rfl⟩ := inside (ends.trans (suffix_skip behind))
          rw [settled] at left
          simp only [name?_of_append named, skip_of_append settled, operand?_of_append left,
            settled]
          rfl
      · simp only [pos, byte, data] at found
        obtain ⟨⟨address, left⟩, first, found⟩ := bind_eq_ok_iff.mp found
        obtain ⟨⟨value, left'⟩, second, found⟩ := bind_eq_ok_iff.mp found
        cases found
        have ends := suffix_of_argument second
        obtain ⟨values, separated⟩ := inside ends
        obtain ⟨values', rfl⟩ := inside (ends.trans (suffix_skipComma left))
        obtain ⟨more, rfl⟩ :=
          inside (ends.trans ((suffix_skipComma _).trans (suffix_of_argument first)))
        rw [separated] at second
        simp only [after?_eq_none_of_append pos, after?_eq_none_of_append byte,
          after?_of_append data]
        refine bind_eq_ok_iff.mpr
          ⟨_, argument_of_append first, bind_eq_ok_iff.mpr ⟨(value, rest), ?_, rfl⟩⟩
        rw [skipComma_of_append separated]
        exact argument_of_append second
    · simp only [pos, byte] at found
      obtain ⟨⟨value, left⟩, argued, found⟩ := bind_eq_ok_iff.mp found
      cases found
      obtain ⟨more, rfl⟩ := inside (suffix_of_argument argued)
      simp only [after?_eq_none_of_append pos, after?_of_append byte]
      exact bind_eq_ok_iff.mpr ⟨_, argument_of_append argued, rfl⟩
  · simp only [pos] at found
    obtain ⟨⟨address, left⟩, argued, found⟩ := bind_eq_ok_iff.mp found
    cases found
    obtain ⟨more, rfl⟩ := inside (suffix_of_argument argued)
    simp only [after?_of_append pos]
    exact bind_eq_ok_iff.mpr ⟨_, argument_of_append argued, rfl⟩

/-! ## Lines -/

open Grammar (labelled)

/-- What is left behind a label is the end of the line. -/
lemma suffix_labelled (body : List Char) : (labelled body).2 <:+ body := by
  rw [labelled, label?]
  split
  · next name rest found =>
    split at found
    · next name' rest' named =>
      cases found
      exact (suffix_skip rest).trans
        ((List.suffix_cons ':' rest).trans ⟨name, append_name? named⟩)
    · cases found
  · exact List.suffix_rfl

/-- A label is read without what is left behind it. -/
lemma labelled_of_append (left : (labelled (front ++ tail)).2 = rest ++ tail) :
    labelled front = ((labelled (front ++ tail)).1, rest) := by
  rw [labelled] at left
  rw [labelled, labelled]
  rcases named : label? (front ++ tail) with _ | ⟨name, behind⟩
  · simp only [named] at left
    have named' := label?_eq_none_of_append named
    obtain rfl := List.append_cancel_right left
    simp only [named']
  · simp only [named] at left
    obtain ⟨blanks, whole⟩ := suffix_skip behind
    rw [left, ← List.append_assoc] at whole
    subst whole
    simp only [label?_of_append named, skip_of_append left]

/-- A line can be read if nothing but blanks and a comment is left behind its statement. -/
lemma parse_eq_ok_iff {chars : List Char} {line : Line} :
    parse chars = .ok line ↔
      ∃ statement rest,
        statement? (skip chars).length (labelled (skip chars)).2 = .ok (statement, rest) ∧
        skip rest = [] ∧
        line =
          { indent := chars.length - (skip chars).length
            text := String.ofList ((skip chars).take ((skip chars).length - rest.length))
            label := (labelled (skip chars)).1
            statement := statement.map
              (⟨(skip chars).length - (labelled (skip chars)).2.length, ·⟩) } := by
  constructor
  · intro h
    rw [parse] at h
    dsimp only at h
    split at h
    · cases h
    · next statement rest found =>
      split at h
      · next left =>
        cases h
        exact ⟨statement, rest, found, left, rfl⟩
      · cases h
  · rintro ⟨statement, rest, found, left, rfl⟩
    rw [parse]
    dsimp only
    split
    · next found' => cases found.symm.trans found'
    · next found' =>
      cases found.symm.trans found'
      split
      · rfl
      · next more => exact absurd left more

/-- A line cannot be read if a directive lacks a numeral, or if something else is left behind its
statement. -/
lemma parse_eq_error_iff {chars : List Char} {fault : Fault} :
    parse chars = .error fault ↔
      (∃ place, statement? (skip chars).length (labelled (skip chars)).2 = .error place ∧
        fault = ⟨chars.length - place.length, .numeral⟩) ∨
      ∃ statement rest,
        statement? (skip chars).length (labelled (skip chars)).2 = .ok (statement, rest) ∧
        skip rest ≠ [] ∧ fault = ⟨chars.length - (skip rest).length, expectedBehind statement⟩ := by
  constructor
  · intro h
    rw [parse] at h
    dsimp only at h
    split at h
    · next place missing =>
      cases h
      exact .inl ⟨place, missing, rfl⟩
    · next statement rest found =>
      split at h
      · cases h
      · next left =>
        cases h
        exact .inr ⟨statement, rest, found, left, rfl⟩
  · rintro (⟨place, missing, rfl⟩ | ⟨statement, rest, found, left, rfl⟩)
    · rw [parse]
      dsimp only
      split
      · next missing' =>
        cases missing.symm.trans missing'
        rfl
      · next found' => cases missing.symm.trans found'
    · rw [parse]
      dsimp only
      split
      · next missing' => cases found.symm.trans missing'
      · next found' =>
        cases found.symm.trans found'
        split
        · next nothing => exact absurd nothing left
        · rfl

/-- The place where a line cannot be read is in the line. -/
lemma offset_le_of_parse {chars : List Char} {fault : Fault} (failed : parse chars = .error fault) :
    fault.offset ≤ chars.length := by
  rcases parse_eq_error_iff.mp failed with ⟨place, -, rfl⟩ | ⟨statement, rest, -, -, rfl⟩
  · exact Nat.sub_le _ _
  · exact Nat.sub_le _ _

/-- **A line can be read up to the end of its statement.** It says the same, whatever is left behind
the statement. -/
theorem parse_of_statement? {statement : Option Statement}
    (settled : skip (front ++ tail) = front ++ tail)
    (found : statement? (front ++ tail).length (labelled (front ++ tail)).2 =
      .ok (statement, tail)) :
    parse front = .ok
      { indent := 0
        text := String.ofList front
        label := (labelled (front ++ tail)).1
        statement := statement.map
          (⟨(front ++ tail).length - (labelled (front ++ tail)).2.length, ·⟩) } := by
  obtain ⟨behind, left⟩ := suffix_of_statement? found
  have label := labelled_of_append left.symm
  have found' : statement? front.length behind = .ok (statement, []) := by
    rw [← left, List.length_append] at found
    rw [← Nat.add_sub_cancel front.length tail.length]
    exact statement?_of_append found
  refine parse_eq_ok_iff.mpr ⟨statement, [], ?_, rfl, ?_⟩
  · rw [skip_of_append settled, label]
    exact found'
  · rw [skip_of_append settled, label, ← left]
    simp [Nat.add_sub_add_right]

end Line

end Hex8.Asm
