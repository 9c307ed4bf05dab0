import Mathlib.Tactic.Lemma
import Hex8.Proofs.Rereading

set_option relaxedAutoImplicit false
set_option autoImplicit false

/-!
# What stands around a line

Blanks may be added in front of a line, and blanks or a comment behind it. The line then says the
same. In front this is plain, because blanks are skipped. Behind the line it is a matter of each
token: none of them may go on into what has been added, and what has been skipped behind the last
one is skipped together with it.

## Main results

* `Hex8.Asm.skip_append_of_skip_eq_nil`, `Hex8.Asm.skip_append_of_plain` — what is skipped in front
  of something that is skipped itself.
* `Hex8.Asm.Line.statement?_append_skipped` — a statement is the same with something behind it.
* `Hex8.Asm.Line.exists_parse_append` — so is a line.
* `Hex8.Asm.Line.exists_parse_blanks` — and a line with blanks in front of it.

## Design

What is added behind a line is called `tail`, as in `Hex8.Proofs.Rereading`, where it is taken away.
The two directions are not the same: with a tail there is always something left to be read behind a
part of a line, and without it there may be nothing.
-/

namespace Hex8.Asm

variable {front tail : List Char}

/-! ## Skipping -/

/-- Blanks are skipped. -/
lemma skip_blanks_append {blanks : List Char} (blank : ∀ c ∈ blanks, isBlank c = true)
    (chars : List Char) : skip (blanks ++ chars) = skip chars := by
  induction blanks with
  | nil => rfl
  | cons c blanks ih =>
    rw [List.forall_mem_cons] at blank
    rw [List.cons_append, skip, if_pos blank.1, ih blank.2]

/-- If everything is skipped, it is so with more of the kind behind it. -/
lemma skip_append_of_skip_eq_nil (blank : skip tail = []) (nothing : skip front = []) :
    skip (front ++ tail) = [] := by
  induction front with
  | nil => exact blank
  | cons c front ih =>
    rw [List.cons_append, skip]
    rw [skip] at nothing
    by_cases isBlank' : isBlank c = true
    · rw [if_pos isBlank'] at nothing ⊢
      exact ih nothing
    · rw [if_neg isBlank'] at nothing ⊢
      by_cases comment : startsComment (c :: front) = true
      · exact if_pos (startsComment_append comment)
      · rw [if_neg comment] at nothing
        cases nothing

/-- Blanks are skipped in the same way whatever is behind a character that is no slash. A slash
might become a comment with another one behind it. -/
lemma skip_append_of_plain {c : Char} {rest : List Char} (left : skip front = c :: rest)
    (plain : c ≠ '/') (tail : List Char) : skip (front ++ tail) = skip front ++ tail := by
  induction front with
  | nil => cases left
  | cons d front ih =>
    rw [List.cons_append]
    rw [skip] at left ⊢
    rw [skip]
    by_cases isBlank' : isBlank d = true
    · rw [if_pos isBlank'] at left ⊢
      rw [if_pos isBlank']
      exact ih left
    · rw [if_neg isBlank'] at left ⊢
      rw [if_neg isBlank']
      by_cases comment : startsComment (d :: front) = true
      · rw [if_pos comment] at left
        cases left
      · rw [if_neg comment] at left ⊢
        obtain ⟨rfl, rfl⟩ := List.cons.inj left
        rw [if_neg, List.cons_append]
        -- only a slash needs a second character to start a comment
        intro comment'
        apply comment
        unfold startsComment at comment' ⊢
        split at comment' <;> simp_all

/-- Neither a name nor a numeral starts with a slash. -/
lemma plain_of_token {c : Char} {rest : List Char}
    (token : (name? (c :: rest)).isSome ∨ (numeral? (c :: rest)).isSome) : c ≠ '/' := by
  rintro rfl
  have noName : name? ('/' :: rest) = none := rfl
  have noNumeral : numeral? ('/' :: rest) = none := by
    simp [numeral?, hexadecimal?, digits?, Char.isDigit]
  rw [noName, noNumeral] at token
  simp at token

/-- In front of a token, blanks are skipped in the same way whatever is behind it. -/
lemma skip_append_of_token
    (token : (name? (skip front)).isSome ∨ (numeral? (skip front)).isSome) (tail : List Char) :
    skip (front ++ tail) = skip front ++ tail := by
  rcases left : skip front with _ | ⟨c, rest⟩
  · rw [left] at token
    rcases token with token | token <;> cases token
  · rw [left] at token
    rw [← left]
    exact skip_append_of_plain left (plain_of_token token) tail

namespace Line

/-! ## Statements -/

variable {size : Nat} {rest : List Char}

/-- An argument is a numeral. -/
lemma isSome_of_argument {located : Located Numeral}
    (found : argument size front = .ok (located, rest)) : (numeral? (skip front)).isSome := by
  rw [argument] at found
  rcases number : numeral? (skip front) with _ | ⟨numeral, behind⟩
  · rw [number] at found
    cases found
  · rfl

/-- An argument of a directive is the same with something behind it. -/
lemma argument_append_skipped {located : Located Numeral} (blank : skip tail = [])
    (found : argument size front = .ok (located, rest)) :
    argument (size + tail.length) (front ++ tail) = .ok (located, rest ++ tail) := by
  have token := isSome_of_argument found
  rw [argument] at found ⊢
  rw [skip_append_of_token (.inr token), numeral?_append blank]
  rcases number : numeral? (skip front) with _ | ⟨numeral, behind⟩
  · rw [number] at found
    cases found
  · rw [number] at found
    cases found
    rw [List.length_append, Nat.add_sub_add_right]
    rfl

/-- An argument behind an optional comma is the same with something behind it. -/
lemma argument_skipComma_append_skipped {located : Located Numeral} (blank : skip tail = [])
    (found : argument size (skipComma front) = .ok (located, rest)) :
    argument (size + tail.length) (skipComma (front ++ tail)) = .ok (located, rest ++ tail) := by
  have token := isSome_of_argument found
  have left : skip (front ++ tail) ≠ [] := by
    rcases head : skip front with _ | ⟨c, behind⟩
    · rw [skipComma, head] at token
      cases token
    · have plain : c ≠ '/' := by
        by_cases comma : c = ','
        · rw [comma]
          decide
        · have same : skipComma front = skip front := by
            rw [skipComma, head]
            simp [comma]
          rw [same, skip_skip, head] at token
          exact plain_of_token (.inr token)
      rw [skip_append_of_plain head plain, head]
      exact List.cons_ne_nil _ _
  rw [skipComma_append blank left]
  exact argument_append_skipped blank found

/-- An operand is the same with something behind it, and so is a missing one. -/
lemma operand?_append_skipped (blank : skip tail = [])
    (ends : skip (operand? size (skip front)).2 = []) :
    ∃ rest, operand? (size + tail.length) (skip (front ++ tail)) =
      ((operand? size (skip front)).1, rest) ∧ skip rest = [] := by
  by_cases nothing : skip front = []
  · refine ⟨[], ?_, rfl⟩
    rw [skip_append_of_skip_eq_nil blank nothing, nothing]
    rfl
  · have token : (name? (skip front)).isSome ∨ (numeral? (skip front)).isSome := by
      by_contra noToken
      rw [not_or, Option.not_isSome_iff_eq_none, Option.not_isSome_iff_eq_none] at noToken
      rw [operand?, noToken.1, noToken.2] at ends
      rw [skip_skip] at ends
      exact nothing ends
    refine ⟨(operand? size (skip front)).2 ++ tail, ?_, skip_append_of_skip_eq_nil blank ends⟩
    rw [skip_append_of_token token, operand?_append _ blank, Nat.add_sub_cancel]

/-- **A statement is the same with something behind it** that is skipped.

**Proof sketch.** Each token ends where it has ended, because no token goes into what is skipped. So
the arguments of a directive are the same, and so is the operand of an instruction. If there is no
operand, what has been added is skipped together with what is behind the mnemonic. -/
theorem statement?_append_skipped {statement : Option Statement} (blank : skip tail = [])
    (found : statement? size front = .ok (statement, rest)) (ends : skip rest = []) :
    ∃ rest', statement? (size + tail.length) (front ++ tail) = .ok (statement, rest') ∧
      skip rest' = [] := by
  have keyword (name : List Char)
      (plain : name.any ([' ', '\t', '#', '/'].contains ·) = false) :
      after? name (front ++ tail) = (after? name front).map (· ++ tail) :=
    after?_append blank plain
  have ends' := skip_append_of_skip_eq_nil blank ends
  rw [statement?] at found ⊢
  rw [keyword _ (by decide), keyword _ (by decide), keyword _ (by decide), name?_append blank]
  revert found
  rcases after? ".pos".toList front with _ | behind
  · rcases after? ".byte".toList front with _ | behind
    · rcases after? ".data".toList front with _ | behind
      · rcases name? front with _ | ⟨mnemonic, behind⟩
        · intro found
          cases found
          exact ⟨_, rfl, ends'⟩
        · intro found
          cases found
          obtain ⟨rest', operand, ends''⟩ := operand?_append_skipped blank ends
          refine ⟨rest', ?_, ends''⟩
          dsimp only [Option.map_some]
          rw [operand]
          rfl
      · intro found
        obtain ⟨⟨address, behind'⟩, first, found⟩ := bind_eq_ok_iff.mp found
        obtain ⟨⟨value, behind''⟩, second, found⟩ := bind_eq_ok_iff.mp found
        cases found
        have first' := argument_append_skipped blank first
        have second' := argument_skipComma_append_skipped blank second
        exact ⟨_, bind_eq_ok_iff.mpr ⟨_, first', bind_eq_ok_iff.mpr ⟨_, second', rfl⟩⟩, ends'⟩
    · intro found
      obtain ⟨⟨value, behind'⟩, argued, found⟩ := bind_eq_ok_iff.mp found
      cases found
      exact ⟨_, bind_eq_ok_iff.mpr ⟨_, argument_append_skipped blank argued, rfl⟩, ends'⟩
  · intro found
    obtain ⟨⟨address, behind'⟩, argued, found⟩ := bind_eq_ok_iff.mp found
    cases found
    exact ⟨_, bind_eq_ok_iff.mpr ⟨_, argument_append_skipped blank argued, rfl⟩, ends'⟩

/-! ## Lines -/

open Grammar (labelled)

/-- What a line says, without the places of its parts. -/
lemma exists_parse_iff {chars : List Char} {said : Content} :
    (∃ line, parse chars = .ok line ∧ line.content = said) ↔
      ∃ statement rest,
        statement? (skip chars).length (labelled (skip chars)).2 = .ok (statement, rest) ∧
          skip rest = [] ∧
          said = ⟨(labelled (skip chars)).1, statement.map Statement.command⟩ := by
  have placeless (label : Option String) (statement : Option Statement) (indent offset : Nat)
      (text : String) :
      Line.content ⟨indent, text, label, statement.map (⟨offset, ·⟩)⟩ =
        ⟨label, statement.map Statement.command⟩ := by
    rw [content, Option.map_map]
    rfl
  constructor
  · rintro ⟨line, parsed, rfl⟩
    obtain ⟨statement, rest, found, ends, rfl⟩ := parse_eq_ok_iff.mp parsed
    exact ⟨statement, rest, found, ends, placeless _ _ _ _ _⟩
  · rintro ⟨statement, rest, found, ends, rfl⟩
    exact ⟨_, parse_eq_ok_iff.mpr ⟨statement, rest, found, ends, rfl⟩, placeless _ _ _ _ _⟩

/-- What a line can be read from starts with no slash. -/
lemma plain_of_statement? {statement : Option Statement} {c : Char} {behind : List Char}
    (settled : skip (c :: behind) = c :: behind)
    (found : statement? size (c :: behind) = .ok (statement, rest)) (ends : skip rest = []) :
    c ≠ '/' := by
  rintro rfl
  have nothing : statement? size ('/' :: behind) = .ok (none, '/' :: behind) := rfl
  rw [nothing] at found
  cases found
  rw [settled] at ends
  cases ends

/-- A statement behind blanks is the same with something behind it. -/
lemma statement?_skip_append {statement : Option Statement} (blank : skip tail = [])
    (found : statement? size (skip front) = .ok (statement, rest)) (ends : skip rest = []) :
    ∃ rest', statement? (size + tail.length) (skip (front ++ tail)) = .ok (statement, rest') ∧
      skip rest' = [] := by
  rcases head : skip front with _ | ⟨c, behind⟩
  · rw [head] at found
    rw [skip_append_of_skip_eq_nil blank head]
    exact ⟨rest, found, ends⟩
  · have settled : skip (c :: behind) = c :: behind := by rw [← head, skip_skip]
    rw [head] at found
    rw [skip_append_of_plain head (plain_of_statement? settled found ends), head]
    exact statement?_append_skipped blank found ends

/-- **A line says the same with something behind it** that is skipped.

**Proof sketch.** If everything in the line is skipped, it is so with more of the kind. Otherwise the
line starts with a label or with a statement, so blanks in front of it are skipped as before, and
the label ends where it has ended. The statement behind it is the same (`statement?_skip_append`). -/
theorem exists_parse_append {chars : List Char} {line : Line} (blank : skip tail = [])
    (parsed : parse chars = .ok line) :
    ∃ line', parse (chars ++ tail) = .ok line' ∧ line'.content = line.content := by
  obtain ⟨statement, rest, found, ends, said⟩ := exists_parse_iff.mp ⟨line, parsed, rfl⟩
  suffices again : (labelled (skip (chars ++ tail))).1 = (labelled (skip chars)).1 ∧
      ∃ rest', statement? (skip (chars ++ tail)).length (labelled (skip (chars ++ tail))).2 =
        .ok (statement, rest') ∧ skip rest' = [] by
    obtain ⟨label, rest', found', ends'⟩ := again
    exact exists_parse_iff.mpr ⟨statement, rest', found', ends', by rw [said, label]⟩
  rcases head : skip chars with _ | ⟨c, behind⟩
  · rw [head] at found
    rw [skip_append_of_skip_eq_nil blank head]
    exact ⟨rfl, rest, found, ends⟩
  · have settled : skip (c :: behind) = c :: behind := by rw [← head, skip_skip]
    rw [head] at found
    rcases named : label? (c :: behind) with _ | ⟨name, behind'⟩
    · have unlabelled : labelled (c :: behind) = (none, c :: behind) := by
        rw [labelled, named]
      have unlabelled' : labelled (c :: behind ++ tail) = (none, c :: behind ++ tail) := by
        rw [labelled, label?_append blank, named]
        rfl
      rw [unlabelled] at found
      rw [skip_append_of_plain head (plain_of_statement? settled found ends), head, unlabelled,
        unlabelled', List.length_append]
      exact ⟨rfl, statement?_append_skipped blank found ends⟩
    · have token : (name? (c :: behind)).isSome := by
        rw [label?] at named
        rcases name : name? (c :: behind) with _ | read
        · rw [name] at named
          cases named
        · rfl
      have labelled_eq : labelled (c :: behind) = (some (String.ofList name), skip behind') := by
        rw [labelled, named]
      have labelled_eq' : labelled (c :: behind ++ tail) =
          (some (String.ofList name), skip (behind' ++ tail)) := by
        rw [labelled, label?_append blank, named]
        rfl
      rw [labelled_eq] at found
      rw [skip_append_of_plain head (plain_of_token (.inl token)), head, labelled_eq,
        labelled_eq', List.length_append]
      exact ⟨rfl, statement?_skip_append blank found ends⟩

/-- **A line says the same with blanks in front of it.** -/
theorem exists_parse_blanks {blanks chars : List Char} {line : Line}
    (blank : ∀ c ∈ blanks, isBlank c = true) (parsed : parse chars = .ok line) :
    ∃ line', parse (blanks ++ chars) = .ok line' ∧ line'.content = line.content := by
  have settled := skip_blanks_append blank chars
  have said := exists_parse_iff.mp ⟨line, parsed, rfl⟩
  rw [← settled] at said
  exact exists_parse_iff.mpr said

end Line

end Hex8.Asm
