import Hex8.Proofs.Grammar
import Mathlib.Tactic.Push

set_option relaxedAutoImplicit false
set_option autoImplicit false

/-!
# Reading statements

The functions on the characters of one line read what the rules of the grammar read, part by part:
blanks and comments, names, numbers, labels, operands and statements. Most of them agree on any
characters; those that skip comments agree where there is no line break.

## Main results

* `Hex8.Asm.Grammar.run_skip` — blanks and comments.
* `Hex8.Asm.Grammar.run_ident`, `Hex8.Asm.Grammar.run_num`, `Hex8.Asm.Grammar.run_label`,
  `Hex8.Asm.Grammar.run_operand` — tokens.
* `Hex8.Asm.Grammar.run_statement` — statements.

## Design

Blanks and comments are skipped by a repetition in the grammar and by a single function here: behind
a comment nothing is left of the line, so the repetition ends after at most one comment.
-/

namespace Hex8.Asm.Grammar

open Peg

variable {chars : List Char}

/-! ## Blanks, comments and tokens -/

/-- Characters are not at the front if nothing follows them there. -/
lemma run_literal_eq_none {keyword : String} (h : ∀ rest, chars ≠ keyword.toList ++ rest) :
    (literal keyword).run chars = none := by
  rw [run_literal, Option.map_eq_none_iff, Option.eq_none_iff_forall_ne_some]
  intro rest found
  exact h rest (List.isPrefixOf?_eq_some_iff_append_eq.mp found).symm

/-- Blanks come first, and a comment takes everything else. -/
lemma skip_eq_dropWhile (chars : List Char) :
    Asm.skip chars =
      if startsComment (chars.dropWhile isBlank) then [] else chars.dropWhile isBlank := by
  induction chars with
  | nil => rfl
  | cons c rest ih =>
    by_cases blank : isBlank c = true
    · rw [Asm.skip, if_pos blank, ih, List.dropWhile_cons_of_pos blank]
    · rw [Asm.skip, if_neg blank, List.dropWhile_cons_of_neg blank]

/-- Any number of blanks. -/
lemma run_blanks (chars : List Char) :
    (many whitespace).run chars = some (chars.takeWhile isBlank, chars.dropWhile isBlank) :=
  run_many_char _ _

/-- What a comment starts with. -/
lemma isSome_marker (chars : List Char) :
    ((literal "#" <|> literal "//").run chars).isSome = startsComment chars := by
  rw [run_orElse]
  fun_cases startsComment chars with
  | case1 rest => rfl
  | case2 rest => rfl
  | case3 _ noHash noSlashes =>
    rw [run_literal_eq_none noHash, run_literal_eq_none noSlashes]
    rfl

/-- A comment takes the rest of its line. -/
lemma run_comment (free : ∀ c ∈ chars, isBreak c = false) :
    comment.run chars = if startsComment chars then some ((), []) else none := by
  have stops : StopsAt isBreak (literal "#" <|> literal "//") :=
    (stopsAt_literal rfl).orElse (stopsAt_literal rfl)
  rw [← isSome_marker, comment, run_bind]
  rcases found : (literal "#" <|> literal "//").run chars with _ | ⟨_, rest⟩
  · rfl
  · have inside : ∀ c ∈ rest, (!isBreak c) = true := by
      intro c hc
      rw [stops.free_rest free found c hc]
      rfl
    have nothing : rest.dropWhile (fun c => !isBreak c) = [] :=
      List.dropWhile_eq_nil_iff.mpr inside
    rw [Option.bind_some, run_bind, commentChar_eq, run_many_char, nothing]
    rfl

/-- Blanks and a comment, up to the end of the line. -/
theorem run_skip (free : ∀ c ∈ chars, isBreak c = false) :
    skip.run chars = some ((), Asm.skip chars) := by
  have free' : ∀ c ∈ chars.dropWhile isBlank, isBreak c = false :=
    fun c hc => free c ((List.dropWhile_suffix _).mem hc)
  have first := run_comment free'
  rw [skip, run_bind, run_blanks, Option.bind_some, run_bind, skip_eq_dropWhile]
  by_cases starts : startsComment (chars.dropWhile isBlank) = true
  · rw [if_pos starts] at first
    have once : commentBlanks.run (chars.dropWhile isBlank) = some ((), []) := by
      rw [commentBlanks, run_bind, first, Option.bind_some, run_bind, run_blanks]
      rfl
    have shorter : ([] : List Char).length < (chars.dropWhile isBlank).length := by
      rcases body : chars.dropWhile isBlank with _ | ⟨c, rest⟩
      · rw [body] at starts
        cases starts
      · exact Nat.zero_lt_succ _
    rw [if_pos starts, run_many_of_some once shorter, run_many_of_none rfl]
    rfl
  · rw [if_neg starts] at first
    have none' : commentBlanks.run (chars.dropWhile isBlank) = none := by
      rw [commentBlanks, run_bind, first]
      rfl
    rw [if_neg starts, run_many_of_none none']
    rfl

/-- A name. -/
theorem run_ident (chars : List Char) : ident.run chars = name? chars := by
  rcases chars with _ | ⟨c, rest⟩
  · rfl
  · rw [ident, run_bind, run_char_cons, name?]
    change Option.bind (if startsName c then _ else _) _ = _
    by_cases starts : startsName c = true
    · rw [if_pos starts, if_pos starts, Option.bind_some, run_bind, run_many_char]
      rfl
    · rw [if_neg starts, if_neg starts]
      rfl

/-- At least one digit. -/
lemma run_digits (kind : Char → Bool) (marker rest : List Char) :
    (do
      let digits ← many1 (char kind)
      return ({ marker, digits } : Numeral)).run rest = digits? kind marker rest := by
  rw [run_bind, run_many1_char, digits?]
  rcases rest.takeWhile kind with _ | ⟨digit, digits⟩ <;> rfl

/-- A number with a marker. -/
lemma run_hexadecimal (chars : List Char) : hexadecimal.run chars = hexadecimal? chars := by
  rw [hexadecimal, run_bind, hexMarker, run_orElse]
  fun_cases hexadecimal? chars with
  | case1 rest => exact run_digits isHexDigit ['0', 'x'] rest
  | case2 rest => exact run_digits isHexDigit ['0', 'X'] rest
  | case3 _ noLower noUpper =>
    rw [run_bind, run_bind, run_literal_eq_none noLower, run_literal_eq_none noUpper]
    rfl

/-- A number. -/
theorem run_num (chars : List Char) : num.run chars = numeral? chars := by
  have decimal : decimal.run chars = digits? Char.isDigit [] chars :=
    run_digits Char.isDigit [] chars
  rw [num, run_orElse, run_hexadecimal, decimal, numeral?]

/-- A label. -/
theorem run_label (chars : List Char) :
    label.run chars = (Line.label? chars).map fun r => (String.ofList r.1, r.2) := by
  rw [label, run_bind, run_ident, Line.label?]
  rcases name? chars with _ | ⟨name, rest⟩
  · rfl
  · rw [Option.bind_some, run_bind]
    by_cases colon : ∃ behind, rest = ':' :: behind
    · obtain ⟨behind, rfl⟩ := colon
      rfl
    · push Not at colon
      rw [run_literal_eq_none colon]
      split
      · next found =>
        obtain ⟨-, rfl⟩ := Prod.mk.inj (Option.some.inj found)
        exact absurd rfl (colon _)
      · rfl

/-- An operand. -/
theorem run_operand (size : Nat) (chars : List Char) :
    operand.run chars =
      (Line.operand? size chars).1.map fun operand =>
        (operand.val, (Line.operand? size chars).2) := by
  rw [operand, run_orElse, StateT.run_map, StateT.run_map, run_num, run_ident, Line.operand?]
  rcases numeral? chars with _ | ⟨numeral, rest⟩
  · rcases name? chars with _ | ⟨name, rest⟩ <;> rfl
  · rfl

/-- Without an operand nothing is read. -/
lemma operand?_of_none {size : Nat} (h : (Line.operand? size chars).1 = none) :
    (Line.operand? size chars).2 = chars := by
  revert h
  rw [Line.operand?]
  rcases numeral? chars with _ | ⟨numeral, rest⟩
  · rcases name? chars with _ | ⟨name, rest⟩
    · exact fun _ => rfl
    · exact fun h => absurd h (Option.some_ne_none _)
  · exact fun h => absurd h (Option.some_ne_none _)

/-! ## Statements -/

/-- What is left behind a keyword is what is left behind the same characters. -/
lemma run_keyword (keyword : String) (chars : List Char) :
    (literal keyword).run chars = (after? keyword.toList chars).map ((), ·) := by
  have same : keyword.toList.isPrefixOf? chars = after? keyword.toList chars := by
    ext rest
    rw [after?_eq_some_iff, List.isPrefixOf?_eq_some_iff_append_eq]
    exact eq_comm
  rw [run_literal, same]

/-- Behind a keyword there is no line break. -/
lemma free_of_after? {keyword rest : List Char} (free : ∀ c ∈ chars, isBreak c = false)
    (h : after? keyword chars = some rest) : ∀ c ∈ rest, isBreak c = false := by
  rw [after?_eq_some_iff.mp h] at free
  exact fun c hc => free c (List.mem_append_right _ hc)

/-- Skipping leaves no line break. -/
lemma free_skip (free : ∀ c ∈ chars, isBreak c = false) :
    ∀ c ∈ Asm.skip chars, isBreak c = false :=
  stopsAt_skip.free_rest free (run_skip free)

/-- The number of a directive, and what comes behind it. -/
lemma run_argument {α : Type} (size : Nat) (free : ∀ c ∈ chars, isBreak c = false)
    (behind : Numeral → Peg α) :
    (do skip; let number ← num; behind number).run chars =
      match Line.argument size chars with
      | .ok (located, rest) => (behind located.val).run rest
      | .error _ => none := by
  rw [run_bind, run_skip free, Option.bind_some, run_bind, run_num, Line.argument]
  rcases numeral? (Asm.skip chars) with _ | ⟨numeral, rest⟩ <;> rfl

/-- What is left of a line behind the number of a directive has no line break. -/
lemma free_argument {size : Nat} {located : Located Numeral} {rest : List Char}
    (free : ∀ c ∈ chars, isBreak c = false)
    (h : Line.argument size chars = .ok (located, rest)) : ∀ c ∈ rest, isBreak c = false := by
  rw [Line.argument] at h
  rcases found : numeral? (Asm.skip chars) with _ | ⟨numeral, behind⟩
  · simp only [found] at h
    cases h
  · simp only [found] at h
    cases h
    rw [← run_num] at found
    exact stopsAt_num.free_rest (free_skip free) found

/-- A comma that may be missing. -/
lemma run_comma {α : Type} (free : ∀ c ∈ chars, isBreak c = false) (behind : Peg α) :
    (do skip; let _ ← optional (literal ","); behind).run chars =
      behind.run (Line.skipComma chars) := by
  rw [run_bind, run_skip free, Option.bind_some, run_bind, run_optional, Option.bind_some,
    Line.skipComma]
  by_cases comma : ∃ rest, Asm.skip chars = ',' :: rest
  · obtain ⟨rest, found⟩ := comma
    rw [found]
    rfl
  · push Not at comma
    rw [run_literal_eq_none comma]
    split
    · next rest found => exact absurd found (comma rest)
    · rfl

/-- A comma that has been skipped leaves no line break. -/
lemma free_skipComma (free : ∀ c ∈ chars, isBreak c = false) :
    ∀ c ∈ Line.skipComma chars, isBreak c = false := by
  intro c hc
  apply free_skip free c
  rw [Line.skipComma] at hc
  split at hc
  · next rest found =>
    rw [found]
    exact List.mem_cons_of_mem _ hc
  · exact hc

/-- The statement `.pos`. -/
lemma run_position {rest : List Char} (size : Nat) (free : ∀ c ∈ chars, isBreak c = false)
    (found : after? ".pos".toList chars = some rest) :
    position.run chars =
      match Line.argument size rest with
      | .ok (address, rest) => some (.position address.val, rest)
      | .error _ => none := by
  rw [position, run_bind, run_keyword, found]
  exact run_argument size (free_of_after? free found) fun address =>
    pure (Command.position address)

/-- The statement `.byte`. -/
lemma run_byte {rest : List Char} (size : Nat) (free : ∀ c ∈ chars, isBreak c = false)
    (found : after? ".byte".toList chars = some rest) :
    byte.run chars =
      match Line.argument size rest with
      | .ok (value, rest) => some (.byte value.val, rest)
      | .error _ => none := by
  rw [byte, run_bind, run_keyword, found]
  exact run_argument size (free_of_after? free found) fun value => pure (Command.byte value)

/-- The statement `.data`. -/
lemma run_data {rest : List Char} (size : Nat) (free : ∀ c ∈ chars, isBreak c = false)
    (found : after? ".data".toList chars = some rest) :
    data.run chars =
      match Line.argument size rest with
      | .ok (address, rest) =>
        match Line.argument size (Line.skipComma rest) with
        | .ok (value, rest) => some (.data address.val value.val, rest)
        | .error _ => none
      | .error _ => none := by
  rw [data, run_bind, run_keyword, found]
  refine (run_argument size (free_of_after? free found) _).trans ?_
  rcases first : Line.argument size rest with _ | ⟨address, rest₁⟩
  · rfl
  · have free₁ := free_argument (free_of_after? free found) first
    refine (run_comma free₁ _).trans ?_
    exact run_argument size (free_skipComma free₁) fun value =>
      pure (Command.data address.val value)

/-- An instruction. -/
lemma run_inst {mnemonic rest : List Char} (size : Nat) (free : ∀ c ∈ chars, isBreak c = false)
    (found : name? chars = some (mnemonic, rest)) :
    inst.run chars =
      some (.inst (String.ofList mnemonic)
          ((Line.operand? size (Asm.skip rest)).1.map Located.val),
        (Line.operand? size (Asm.skip rest)).2) := by
  have named : ident.run chars = some (mnemonic, rest) := (run_ident chars).trans found
  have free' := stopsAt_ident.free_rest free named
  rw [inst, run_bind, named, Option.bind_some, run_bind, run_skip free', Option.bind_some, run_bind,
    run_optional, run_operand size]
  rcases operand : (Line.operand? size (Asm.skip rest)).1 with _ | located
  · rw [operand?_of_none operand]
    rfl
  · rfl

/-- A line that starts with a directive has no name at its front. -/
lemma run_inst_eq_none {keyword rest : List Char}
    (found : after? ('.' :: keyword) chars = some rest) : inst.run chars = none := by
  rw [after?_eq_some_iff.mp found, inst, run_bind, run_ident]
  rfl

/-- Without its keyword there is no directive. -/
lemma run_directive_eq_none {α : Type} {keyword : String} {p : Unit → Peg α}
    (h : after? keyword.toList chars = none) : (literal keyword >>= p).run chars = none := by
  rw [run_bind, run_keyword, h]
  rfl

/-- A statement.

**Proof sketch.** Both sides look for the three keywords in the same order. Behind a keyword no other
statement is possible: the keywords differ, and no name starts like one. -/
theorem run_statement (size : Nat) (free : ∀ c ∈ chars, isBreak c = false) :
    statement.run chars =
      match Line.statement? size chars with
      | .ok (some statement, rest) => some (statement.command, rest)
      | .ok (none, _) | .error _ => none := by
  rw [statement, run_orElse, run_orElse, run_orElse, Line.statement?]
  rcases pos : after? ".pos".toList chars with _ | rest
  · have noPosition : position.run chars = none := run_directive_eq_none pos
    rcases byte : after? ".byte".toList chars with _ | rest
    · have noByte : Grammar.byte.run chars = none := run_directive_eq_none byte
      rcases data : after? ".data".toList chars with _ | rest
      · have noData : Grammar.data.run chars = none := run_directive_eq_none data
        rw [noPosition, noByte, noData]
        rcases named : name? chars with _ | ⟨mnemonic, rest⟩
        · rw [inst, run_bind, run_ident, named]
          rfl
        · rw [run_inst size free named]
          rfl
      · rw [noPosition, noByte, run_data size free data, run_inst_eq_none data]
        rcases first : Line.argument size rest with _ | ⟨address, rest₁⟩
        · simp only [first]
          rfl
        · rcases second : Line.argument size (Line.skipComma rest₁) with _ | ⟨value, rest₂⟩ <;>
            simp only [first, bind, Except.bind, second] <;> rfl
    · have chars_eq : chars = ".byte".toList ++ rest := after?_eq_some_iff.mp byte
      have noData : Grammar.data.run chars = none :=
        run_directive_eq_none (by rw [chars_eq]; rfl)
      rw [noPosition, run_byte size free byte, noData, run_inst_eq_none byte]
      rcases value : Line.argument size rest with _ | ⟨value, rest₁⟩ <;>
        simp only [value] <;> rfl
  · have chars_eq : chars = ".pos".toList ++ rest := after?_eq_some_iff.mp pos
    have noByte : Grammar.byte.run chars = none :=
      run_directive_eq_none (by rw [chars_eq]; rfl)
    have noData : Grammar.data.run chars = none :=
      run_directive_eq_none (by rw [chars_eq]; rfl)
    rw [run_position size free pos, noByte, noData, run_inst_eq_none pos]
    rcases address : Line.argument size rest with _ | ⟨address, rest₁⟩ <;>
      simp only [address] <;> rfl

end Hex8.Asm.Grammar
