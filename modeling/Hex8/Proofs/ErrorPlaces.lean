import Mathlib.Tactic.Lemma
import Hex8.Proofs.Diagnosis
import Hex8.Proofs.Lines
import Hex8.Proofs.Rereading

set_option relaxedAutoImplicit false
set_option autoImplicit false

/-!
# Where an error is reported

An error names a line by its number and by its text. The number counts the line feeds in front of
the line, so that several lines have the same number if there are carriage returns alone between
them. The text is the line as it has been read. Which line that is does not depend on the wording:
it is the first one with a fault of the kind that counts.

## Main definitions

* `Hex8.Asm.textFront` — the characters in front of a line.

## Main results

* `Hex8.Asm.number_of_parseLinesFrom` — lines are numbered by the line feeds in front of them.
* `Hex8.Asm.exists_fault_of_parseSource` — the first line that cannot be read is at fault.
* `Hex8.Asm.error_of_assemble` — the error of a text that can be read and cannot be assembled.
-/

namespace Hex8.Asm

open Grammar (joinLines_eq joinLines_cons)

/-! ## Places in a text -/

/-- The characters in front of a line, from the first line on. -/
def lineFront (first : List Char) : List (LineBreak × List Char) → Nat → List Char
  | _, 0 => []
  | [], _ + 1 => first
  | (lineBreak, second) :: others, i + 1 =>
    first ++ (lineBreak.chars ++ lineFront second others i)

/-- The characters of a text in front of one of its lines. -/
def textFront (chars : List Char) (i : Nat) : List Char :=
  lineFront (splitLines chars).1 (splitLines chars).2 i

/-- A line stands behind the characters in front of it. -/
lemma lineFront_append_prefix {first whole : List Char} {others : List (LineBreak × List Char)}
    {i : Nat} (here : (first :: others.map Prod.snd)[i]? = some whole) :
    lineFront first others i ++ whole <+: joinLines first others := by
  induction others generalizing first i with
  | nil =>
    cases i with
    | zero =>
      cases here
      exact List.prefix_append _ _
    | succ i => cases here
  | cons next others ih =>
    obtain ⟨lineBreak, second⟩ := next
    rw [joinLines_eq, joinLines_cons]
    cases i with
    | zero =>
      cases here
      exact List.prefix_append _ _
    | succ i =>
      rw [lineFront, List.append_assoc, List.append_assoc]
      rw [List.prefix_append_right_inj, List.prefix_append_right_inj]
      exact ih here

/-- A break counts as many lines as it has line feeds. -/
lemma LineBreak.count_chars (lineBreak : LineBreak) :
    lineBreak.chars.count '\n' = lineBreak.lines := by
  cases lineBreak <;> rfl

/-- **Lines are numbered by the line feeds in front of them.** -/
theorem number_of_parseLinesFrom {offset number : Nat} {first : List Char}
    {others : List (LineBreak × List Char)} {numbered : List NumberedLine}
    (free : ∀ line ∈ first :: others.map Prod.snd, '\n' ∉ line)
    (read : parseLinesFrom offset number first others = .ok numbered) {i : Nat}
    {node : NumberedLine} (here : numbered[i]? = some node) :
    ∃ whole, (first :: others.map Prod.snd)[i]? = some whole ∧
      Line.parse whole = .ok node.line ∧
      node.offset = offset + (lineFront first others i).length ∧
      node.number = number + (lineFront first others i).count '\n' := by
  induction others generalizing offset number first numbered i with
  | nil =>
    rw [parseLinesFrom] at read
    split at read
    · cases read
    · next line parsed =>
      cases read
      cases i with
      | zero =>
        cases here
        exact ⟨first, rfl, parsed, rfl, rfl⟩
      | succ i => cases here
  | cons next others ih =>
    obtain ⟨lineBreak, second⟩ := next
    rw [List.forall_mem_cons] at free
    rw [parseLinesFrom] at read
    split at read
    · cases read
    · next line parsed =>
      dsimp only at read
      split at read
      · cases read
      · next behind found =>
        cases read
        cases i with
        | zero =>
          cases here
          exact ⟨first, rfl, parsed, rfl, rfl⟩
        | succ i =>
          obtain ⟨whole, inside, parsed', offset', number'⟩ := ih free.2 found here
          dsimp only at offset' number'
          refine ⟨whole, inside, parsed', ?_, ?_⟩
          · rw [offset', lineFront, List.length_append, List.length_append]
            omega
          · rw [number', lineFront, List.count_append, List.count_append,
              List.count_eq_zero.mpr free.1, lineBreak.count_chars]
            omega

/-- A line that has been read has its place in the text. -/
lemma place_of_parseSource {chars : List Char} {numbered : List NumberedLine}
    (read : parseSource chars = .ok numbered) {i : Nat} {node : NumberedLine}
    (here : numbered[i]? = some node) :
    ∃ whole, (textLines chars)[i]? = some whole ∧ textFront chars i ++ whole <+: chars ∧
      Line.parse whole = .ok node.line ∧ node.number = 1 + (textFront chars i).count '\n' := by
  rw [parseSource] at read
  dsimp only at read
  split at read
  · cases read
  · next found =>
    cases read
    have free : ∀ line ∈ (splitLines chars).1 :: (splitLines chars).2.map Prod.snd, '\n' ∉ line :=
      fun line inside => (splitLines_no_break chars line inside).1
    obtain ⟨whole, inside, parsed, -, number⟩ := number_of_parseLinesFrom free found here
    refine ⟨whole, inside, ?_, parsed, number⟩
    have front := lineFront_append_prefix inside
    rwa [joinLines_splitLines] at front

/-- **The first line that cannot be read is at fault.** -/
theorem fault_of_parseLinesFrom {offset number place : Nat} {expected : Expected}
    {first : List Char} {others : List (LineBreak × List Char)}
    (failed : parseLinesFrom offset number first others = .error (place, expected)) :
    ∃ (i : Nat) (line : List Char) (fault : Fault),
      (first :: others.map Prod.snd)[i]? = some line ∧ Line.parse line = .error fault ∧
        (∀ j < i, ∀ earlier, (first :: others.map Prod.snd)[j]? = some earlier →
          ∃ parsed, Line.parse earlier = .ok parsed) ∧
        place = offset + (lineFront first others i).length + fault.offset ∧
        expected = fault.expected := by
  induction others generalizing offset number first with
  | nil =>
    rw [parseLinesFrom] at failed
    rcases parsed : Line.parse first with fault | line
    · rw [parsed] at failed
      cases failed
      exact ⟨0, first, fault, rfl, parsed, by simp, rfl, rfl⟩
    · rw [parsed] at failed
      cases failed
  | cons next others ih =>
    obtain ⟨lineBreak, second⟩ := next
    rw [parseLinesFrom] at failed
    rcases parsed : Line.parse first with fault | line
    · rw [parsed] at failed
      cases failed
      exact ⟨0, first, fault, rfl, parsed, by simp, rfl, rfl⟩
    · rw [parsed] at failed
      dsimp only at failed
      split at failed
      · next fault found =>
        cases failed
        obtain ⟨i, line', fault, inside, faulty, earlier, rfl, rfl⟩ := ih found
        refine ⟨i + 1, line', fault, inside, faulty, ?_, ?_, rfl⟩
        · rintro (_ | j) before line'' inside''
          · cases inside''
            exact ⟨line, parsed⟩
          · exact earlier j (by omega) line'' inside''
        · simp only [lineFront, List.length_append]
          omega
      · cases failed

/-- **A text that cannot be read** has a line that is at fault, and the place of the error is there. -/
theorem exists_fault_of_parseSource {chars : List Char} {error : SyntaxError}
    (failed : parseSource chars = .error error) :
    ∃ (i : Nat) (line : List Char) (fault : Fault),
      (textLines chars)[i]? = some line ∧ Line.parse line = .error fault ∧
        (∀ j < i, ∀ other, (textLines chars)[j]? = some other →
          ∃ parsed, Line.parse other = .ok parsed) ∧
        error.front = textFront chars i ++ line.take fault.offset ∧
        (error.front = [] ∧ error.expected = .source ∨ error.expected = fault.expected) := by
  rw [parseSource] at failed
  dsimp only at failed
  split at failed
  · next place expected found =>
    cases failed
    obtain ⟨i, line, fault, here, faulty, earlier, rfl, rfl⟩ := fault_of_parseLinesFrom found
    obtain ⟨behind, whole⟩ := lineFront_append_prefix here
    rw [joinLines_splitLines] at whole
    refine ⟨i, line, fault, here, faulty, earlier, ?_, ?_⟩
    · rw [SyntaxError.atOffset, textFront, Nat.zero_add]
      generalize lineFront _ _ i = front at whole ⊢
      rw [← whole, List.append_assoc, List.take_length_add_append,
        List.take_append_of_le_length (Line.offset_le_of_parse faulty)]
    · rw [SyntaxError.atOffset]
      split
      · next start =>
        rw [start]
        exact .inl ⟨rfl, rfl⟩
      · exact .inr rfl
  · cases failed

/-! ## The error of a text -/

/-- An error in a line, in words. -/
lemma intercalate_chain_line (number : Nat) (text : String) (cause : LineError) :
    ": ".intercalate (AssembleError.line number text cause).chain =
      "line " ++ toString number ++ ": `" ++ Blank.trim text ++ "`: " ++ cause.message := by
  simp only [AssembleError.chain, String.intercalate_cons_cons, String.intercalate_singleton,
    String.append_assoc]
  rfl

/-- A label that is defined again, in words. -/
lemma intercalate_chain_duplicateLabel (number : Nat) (name : String) :
    ": ".intercalate (AssembleError.duplicateLabel number name).chain =
      "line " ++ toString number ++ ": duplicated label `" ++ name ++ "`" := by
  simp only [AssembleError.chain, String.intercalate_singleton]

/-- **Which error is reported.** If a text fits the grammar and cannot be assembled, the error names
one of its lines.

* If some lines have a fault of their own, it is the first of these lines, and the fault is the
  first one of its label or else of its statement.
* Otherwise, if some labels are defined again, it is the first line that defines one again.
* Otherwise, it is the first line whose operand is a label that is not defined or does not fit.

The number of the line is one more than the line feeds in front of it, and its text is the line
without the blanks in front of it and without what is skipped at its end.

**Proof sketch.** The passes stop at the lines that the three kinds of faults are about
(`diagnosis_of_passes`), and each line that has been read has its place in the text
(`place_of_parseSource`). -/
theorem error_of_assemble {text : String} {lines : List Content} {error : AssembleError}
    (fitting : Grammar.parse text.toList = some lines) (failed : assemble text = .error error) :
    ∃ i whole line,
      (textLines text.toList)[i]? = some whole ∧
        textFront text.toList i ++ whole <+: text.toList ∧
        Line.parse whole = .ok line ∧ lines[i]? = some line.content ∧
        (∃ blanks tail, whole = blanks ++ (line.text.toList ++ tail) ∧
          (∀ c ∈ blanks, isBlank c = true) ∧ skip tail = []) ∧
        Diagnosis lines i (1 + (textFront text.toList i).count '\n') line.text error ∧
        (∀ number source cause, error = .line number source cause →
          ": ".intercalate error.chain =
            "line " ++ toString number ++ ": `" ++ Blank.trim source ++ "`: " ++ cause.message) ∧
        ∀ number name, error = .duplicateLabel number name →
          ": ".intercalate error.chain =
            "line " ++ toString number ++ ": duplicated label `" ++ name ++ "`" := by
  rw [Grammar.parse_eq] at fitting
  rw [assemble, assembleChars] at failed
  rcases read : parseSource text.toList with unreadable | numbered
  · rw [read] at fitting
    cases fitting
  · rw [read] at fitting failed
    cases fitting
    obtain ⟨i, node, here, diagnosis⟩ := diagnosis_of_passes failed
    obtain ⟨whole, inside, front, parsed, number⟩ := place_of_parseSource read here
    rw [number] at diagnosis
    refine ⟨i, whole, node.line, inside, front, parsed, ?_, Line.exists_append_text parsed,
      diagnosis, ?_, ?_⟩
    · rw [List.getElem?_map, here]
      rfl
    · rintro number source cause rfl
      exact intercalate_chain_line number source cause
    · rintro number name rfl
      exact intercalate_chain_duplicateLabel number name

/-- A label that is defined again, a label that is not defined, and behind them a number that is too
large: it is the number that counts. -/
theorem error_of_assemble_later_number :
    ∃ lines error i,
      Grammar.parse "a: add\na: br b\r\n\tldac 16 # large".toList = some lines ∧
        assemble "a: add\na: br b\r\n\tldac 16 # large" = .error error ∧
        ": ".intercalate error.chain = "line 3: `ldac 16`: immediate 16 out of range 0..=15" ∧
        (textFront "a: add\na: br b\r\n\tldac 16 # large".toList i).count '\n' = 2 ∧
        First (FaultAt lines) i (.outOfRange .immediate "16") := by
  have fitting : (Grammar.parse "a: add\na: br b\r\n\tldac 16 # large".toList).isSome := by
    rw [Grammar.parse_eq]
    decide +kernel
  obtain ⟨lines, fitting⟩ := Option.isSome_iff_exists.mp fitting
  have failed : assemble "a: add\na: br b\r\n\tldac 16 # large" =
      .error (.line 3 "ldac 16" (.outOfRange .immediate "16")) := by
    rfl
  obtain ⟨i, whole, line, -, -, -, -, -, diagnosis, words, -⟩ := error_of_assemble fitting failed
  refine ⟨lines, _, i, fitting, failed, ?_, ?_⟩
  · rw [words 3 "ldac 16" _ rfl]
    decide +kernel
  · generalize counted : 1 + (textFront _ i).count '\n' = number at diagnosis
    generalize line.text = source at diagnosis
    cases diagnosis with
    | fault first _ => exact ⟨by omega, first⟩
    | operand _ _ first =>
      obtain ⟨⟨place, -, fault⟩, -⟩ := first
      cases fault

end Hex8.Asm
