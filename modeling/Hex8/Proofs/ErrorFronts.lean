import Hex8.Proofs.ErrorPlaces
import Hex8.Proofs.Furthest
import Hex8.Proofs.Margins
import Hex8.Proofs.Names

set_option relaxedAutoImplicit false
set_option autoImplicit false

/-!
# What is in front of a syntax error

A syntax error is reported at the furthest place where a rule of the grammar fails. Rules that have
been given up may fail further on than those that have been tried later, so this could be anywhere.
But it is never beyond something that cannot be read: the text in front of the place is a text of
its own. If the place lacks the numeral of a directive, the text in front of that directive is.

## Main definitions

* `Hex8.Asm.Line.OnlyLabel` — a line with nothing but an optional label.

## Main results

* `Hex8.Asm.textLines_lineFront_append` — the lines of a text that ends in one of them.
* `Hex8.Asm.Line.exists_parse_front`, `Hex8.Asm.Line.exists_directive` — what is in front of the
  place where a line cannot be read.
* `Hex8.Asm.front_of_syntax_error` — what is in front of a syntax error.

## Design

What is cut off from a line is cut off from the text together with all lines behind it. The lines in
front of it can be read, because the first line is reported that cannot be.
-/

namespace Hex8.Asm

open Grammar (isBreak ProperlySplit joinLines_eq joinLines_cons labelled)

/-! ## Lines -/

/-- A name that has been read is a name. -/
lemma isName_of_name? {chars name rest : List Char} (named : name? chars = some (name, rest)) :
    isName name = true := by
  rcases chars with _ | ⟨c, chars⟩
  · cases named
  · rw [name?] at named
    split at named
    · next starts =>
      cases named
      rw [isName, starts, Bool.true_and, List.all_eq_true]
      exact fun d inside => List.mem_takeWhile_imp inside
    · cases named

namespace Line

/-- There is nothing but an optional label in a line, and blanks. -/
def OnlyLabel (chars : List Char) : Prop :=
  ∃ indent label gap, chars = indent ++ (label ++ gap) ∧
    (∀ c ∈ indent, isBlank c = true) ∧ (∀ c ∈ gap, isBlank c = true) ∧
    (label = [] ∨ ∃ name, isName name = true ∧ label = name ++ [':'])

/-- Blanks around a line make no difference to whether it can be read. -/
lemma exists_parse_margins {indent chars gap : List Char} {line : Line}
    (before : ∀ c ∈ indent, isBlank c = true) (behind : ∀ c ∈ gap, isBlank c = true)
    (parsed : parse chars = .ok line) : ∃ line', parse (indent ++ (chars ++ gap)) = .ok line' := by
  have blank : skip gap = [] := by
    have nothing := skip_blanks_append behind []
    rwa [List.append_nil] at nothing
  obtain ⟨line', parsed', -⟩ := exists_parse_append blank parsed
  obtain ⟨line'', parsed'', -⟩ := exists_parse_blanks before parsed'
  exact ⟨line'', parsed''⟩

/-- A label alone can be read. -/
lemma OnlyLabel.exists_parse {chars : List Char} (only : OnlyLabel chars) :
    ∃ line, parse chars = .ok line := by
  obtain ⟨indent, label, gap, rfl, before, behind, rfl | ⟨name, named, rfl⟩⟩ := only
  · exact exists_parse_margins before behind parse_nil
  · have stop : ∀ c ∈ [':'].head?, continuesName c = false := by
      rintro c ⟨⟩
      decide
    have front : labelled (name ++ [':']) = (some (String.ofList name), []) := by
      rw [labelled, label?, name?_of_isName named stop]
      rfl
    refine exists_parse_margins before behind (parse_eq_ok_iff.mpr ⟨none, [], ?_, rfl, rfl⟩)
    rw [skip_of_isName named, front]
    rfl

/-- In front of what is left behind the label of a line is nothing but that. -/
lemma exists_onlyLabel {chars : List Char} (left : (labelled (skip chars)).2 ≠ []) :
    ∃ header, chars = header ++ (labelled (skip chars)).2 ∧ OnlyLabel header := by
  have body : skip chars ≠ [] := by
    intro nothing
    have suffix := suffix_labelled (skip chars)
    rw [nothing] at suffix left
    exact left (List.suffix_nil.mp suffix)
  obtain ⟨indent, whole, before⟩ := exists_blanks_of_skip body
  rcases named : label? (skip chars) with _ | ⟨name, rest⟩
  · have unlabelled : (labelled (skip chars)).2 = skip chars := by rw [labelled, named]
    rw [unlabelled]
    exact ⟨indent, whole, indent, [], [], by simp, before, by simp, .inl rfl⟩
  · have behind : (labelled (skip chars)).2 = skip rest := by rw [labelled, named]
    rw [behind] at left ⊢
    obtain ⟨gap, rest_eq, between⟩ := exists_blanks_of_skip left
    rw [label?] at named
    split at named
    · next name' rest' found =>
      cases named
      have parts : skip chars = name ++ ':' :: rest := (append_name? found).symm
      refine ⟨indent ++ (name ++ [':'] ++ gap), ?_, indent, name ++ [':'], gap, rfl, before,
        between, .inr ⟨name, isName_of_name? found, rfl⟩⟩
      calc chars = indent ++ (name ++ ':' :: rest) := by rw [← parts, ← whole]
        _ = indent ++ (name ++ ':' :: (gap ++ skip rest)) := by rw [← rest_eq]
        _ = _ := by simp
    · cases named

/-- What is expected behind a statement is no numeral. -/
lemma expectedBehind_ne_numeral (statement : Option Statement) :
    expectedBehind statement ≠ .numeral := by
  fun_cases expectedBehind statement <;> nofun

/-- **If it is no numeral that is missing, everything in front can be read.** -/
theorem exists_parse_front {chars : List Char} {fault : Fault} (failed : parse chars = .error fault)
    (other : fault.expected ≠ .numeral) :
    ∃ line, parse (chars.take fault.offset) = .ok line := by
  rcases parse_eq_error_iff.mp failed with
    ⟨place, -, rfl⟩ | ⟨statement, rest, found, left, rfl⟩
  · exact absurd rfl other
  · have body : skip chars ≠ [] := by
      intro nothing
      rw [nothing] at found
      cases found
      exact left rfl
    obtain ⟨text, text_eq⟩ := (suffix_of_statement? found).trans (suffix_labelled (skip chars))
    obtain ⟨indent, whole, before⟩ := exists_blanks_of_skip body
    obtain ⟨gap, rest_eq, behind⟩ := exists_blanks_of_skip left
    have parsed : ∃ line, parse text = .ok line := by
      rw [← text_eq] at found
      exact ⟨_, parse_of_statement? (by rw [text_eq, skip_skip]) found⟩
    have parts : chars = indent ++ (text ++ gap) ++ skip rest := by
      rw [whole, ← text_eq]
      nth_rewrite 1 [rest_eq]
      simp only [List.append_assoc]
    have front : chars.take (chars.length - (skip rest).length) = indent ++ (text ++ gap) := by
      nth_rewrite 1 [parts]
      rw [parts, List.length_append, Nat.add_sub_cancel, List.take_left]
    obtain ⟨line, parsed⟩ := parsed
    rw [front]
    exact exists_parse_margins before behind parsed

/-- **If a numeral is missing, there is a directive in front of the place,** and nothing but an
optional label in front of the directive. -/
theorem exists_directive {chars : List Char} {fault : Fault} (failed : parse chars = .error fault)
    (missing : fault.expected = .numeral) :
    ∃ header keyword between, OnlyLabel header ∧ keyword ∈ [".pos", ".byte", ".data"] ∧
      chars.take fault.offset = header ++ (keyword.toList ++ between) := by
  rcases parse_eq_error_iff.mp failed with
    ⟨place, reached, rfl⟩ | ⟨statement, rest, -, -, rfl⟩
  · obtain ⟨keyword, directive, between, behind⟩ := exists_directive_of_statement?_error reached
    have left : (labelled (skip chars)).2 ≠ [] := by
      intro nothing
      rw [nothing] at reached
      cases reached
    obtain ⟨header, whole, only⟩ := exists_onlyLabel left
    refine ⟨header, keyword, between, only, directive, ?_⟩
    have parts : chars = header ++ (keyword.toList ++ between) ++ place := by
      rw [whole, behind]
      simp only [List.append_assoc]
    nth_rewrite 1 [parts]
    rw [parts, List.length_append, Nat.add_sub_cancel, List.take_left]
  · exact absurd missing (expectedBehind_ne_numeral statement)

end Line

/-! ## Texts -/

variable {first line cut : List Char} {others : List (LineBreak × List Char)} {i : Nat}

/-- **The lines of a text that ends in one of them** are those in front of it, and what is left of
it. -/
theorem textLines_lineFront_append (free : ∀ c ∈ first, isBreak c = false)
    (split : ProperlySplit others) (here : (first :: others.map Prod.snd)[i]? = some line)
    (inside : cut <+: line) :
    textLines (lineFront first others i ++ cut) =
      (first :: others.map Prod.snd).take i ++ [cut] := by
  induction others generalizing first i with
  | nil =>
    cases i with
    | zero =>
      cases here
      rw [lineFront, List.nil_append, textLines,
        splitLines_of_free fun c hc => free c (inside.mem hc)]
      rfl
    | succ i => cases here
  | cons next others ih =>
    obtain ⟨lineBreak, second⟩ := next
    cases i with
    | zero =>
      cases here
      rw [lineFront, List.nil_append, textLines,
        splitLines_of_free fun c hc => free c (inside.mem hc)]
      rfl
    | succ i =>
      have proper : lineBreak = .cr → ∀ rest, lineFront second others i ++ cut ≠ '\n' :: rest := by
        intro cr rest starts
        -- what is left of the text starts like the text
        have whole : lineFront second others i ++ line <+: joinLines second others :=
          lineFront_append_prefix here
        have front : lineFront second others i ++ cut <+: joinLines second others :=
          ((List.prefix_append_right_inj _).mpr inside).trans whole
        rw [starts] at front
        obtain ⟨behind, whole⟩ := front
        exact split.2.1 cr (rest ++ behind) whole.symm
      rw [lineFront, List.append_assoc, List.append_assoc, textLines_break free proper,
        ih split.1 split.2.2 here]
      rfl

/-- A text that ends in one of its lines can be read if what is left of that line can be, and the
lines in front of it. -/
lemma exists_parseSource_textFront {chars : List Char}
    (here : (textLines chars)[i]? = some line)
    (earlier : ∀ j < i, ∀ other, (textLines chars)[j]? = some other →
      ∃ parsed, Line.parse other = .ok parsed)
    (inside : cut <+: line) (parsed : ∃ parsed, Line.parse cut = .ok parsed) :
    ∃ numbered, parseSource (textFront chars i ++ cut) = .ok numbered := by
  obtain ⟨free, split⟩ := Grammar.properlySplit_splitLines chars
  rw [exists_parseSource_iff_forall, textFront, textLines_lineFront_append free split here inside]
  intro other among
  rcases List.mem_append.mp among with before | last
  · obtain ⟨j, found⟩ := List.mem_iff_getElem?.mp before
    rw [List.getElem?_take] at found
    split at found
    · next front => exact earlier j front other found
    · cases found
  · rw [List.mem_singleton.mp last]
    exact parsed

/-- **What is in front of a syntax error.** The place of the error is the furthest one where a rule
of the grammar fails.

* If it is no numeral that is expected there, the text in front of the place can be read.
* If it is a numeral, the line of the place has a directive in front of the place, with nothing but
  an optional label in front of that, and the text in front of the directive can be read.

**Proof sketch.** The first line that cannot be read is at fault, and the place is in that line
(`exists_fault_of_parseSource`). Without what is left at the place, the line can be read up to the
end of its statement (`Line.exists_parse_front`), or up to the directive that lacks its numeral
(`Line.exists_directive`). The lines in front are the same (`textLines_lineFront_append`), and they
can be read. -/
theorem front_of_syntax_error {text : List Char} {error : SyntaxError}
    (failed : parseSource text = .error error) :
    error.front ++ error.back = text ∧ Rules.text.Furthest text error.back ∧
      (error.expected ≠ .numeral → ∃ numbered, parseSource error.front = .ok numbered) ∧
      (error.expected = .numeral →
        ∃ i line header keyword between, (textLines text)[i]? = some line ∧
          header ++ (keyword.toList ++ between) <+: line ∧ Line.OnlyLabel header ∧
          keyword ∈ [".pos", ".byte", ".data"] ∧
          error.front = textFront text i ++ (header ++ (keyword.toList ++ between)) ∧
          ∃ numbered, parseSource (textFront text i ++ header) = .ok numbered) := by
  obtain ⟨whole, furthest⟩ := Rules.furthest_of_parseSource failed
  obtain ⟨i, line, fault, here, faulty, earlier, front, expected⟩ :=
    exists_fault_of_parseSource failed
  refine ⟨whole, furthest, fun other => ?_, fun missing => ?_⟩
  · rcases expected with ⟨start, -⟩ | expected
    · rw [start]
      exact ⟨_, rfl⟩
    · rw [expected] at other
      rw [front]
      exact exists_parseSource_textFront here earlier (List.take_prefix _ _)
        (Line.exists_parse_front faulty other)
  · rcases expected with ⟨-, source⟩ | expected
    · rw [source] at missing
      cases missing
    · rw [expected] at missing
      obtain ⟨header, keyword, between, only, directive, parts⟩ :=
        Line.exists_directive faulty missing
      have reached : header ++ (keyword.toList ++ between) <+: line := by
        rw [← parts]
        exact List.take_prefix _ _
      refine ⟨i, line, header, keyword, between, here, reached, only, directive, ?_, ?_⟩
      · rw [front, parts]
      · exact exists_parseSource_textFront here earlier
          ((List.prefix_append _ _).trans reached) only.exists_parse

/-- The second numeral of a directive is missing at the end of one text, so that the text up to its
label can be read. In the other text there is a stray letter behind a numeral, and everything up to
the letter can be read. -/
theorem front_of_syntax_error_late :
    (∃ error, parseSource "br a\r\na: .data 0x1, # two".toList = .error error ∧
      error.front = "br a\r\na: .data 0x1, # two".toList ∧ error.expected = .numeral ∧
      ∃ i header numbered, Line.OnlyLabel header ∧
        parseSource (textFront "br a\r\na: .data 0x1, # two".toList i ++ header) = .ok numbered) ∧
      ∃ error, parseSource "a: ldac 0xg\nbr a".toList = .error error ∧
        error.back = "xg\nbr a".toList ∧ error.expected = .nothing ∧
        ∃ numbered, parseSource error.front = .ok numbered := by
  have missing : parseSource "br a\r\na: .data 0x1, # two".toList =
      .error ⟨"br a\r\na: .data 0x1, # two".toList, [], .numeral⟩ := by
    rfl
  have stray : parseSource "a: ldac 0xg\nbr a".toList =
      .error ⟨"a: ldac 0".toList, "xg\nbr a".toList, .nothing⟩ := by
    rfl
  obtain ⟨-, -, -, directive⟩ := front_of_syntax_error missing
  obtain ⟨i, -, header, -, -, -, -, only, -, -, numbered, read⟩ := directive rfl
  obtain ⟨-, -, front, -⟩ := front_of_syntax_error stray
  exact ⟨⟨_, missing, rfl, rfl, i, header, numbered, only, read⟩,
    _, stray, rfl, rfl, front (by decide)⟩

end Hex8.Asm
