import Hex8.Proofs.ErrorPlaces
import Hex8.Proofs.Furthest

set_option relaxedAutoImplicit false
set_option autoImplicit false

/-!
# Lines do not depend on each other

The grammar is one for a whole text, but nothing in a text has any effect on how another line is
read. A text with counted line breaks can be read if each of its lines can be read as a text of its
own, and then the same is read from each. Otherwise the first line that cannot be read is reported,
and at the same column as if it stood alone.

## Main results

* `Hex8.Asm.numbered_of_parseLinesFrom` — lines that are read are numbered in their order.
* `Hex8.Asm.lineFront_counted` — the line feeds in front of a line.
* `Hex8.Asm.lines_independent` — a text is read as its lines are read alone.

## Design

A carriage return alone is a line break that is not counted. Line feeds are, with or without a
carriage return in front of them, and only these are considered here.
-/

namespace Hex8.Asm

open Grammar (isBreak ProperlySplit)

variable {first : List Char} {others : List (LineBreak × List Char)} {offset number : Nat}

/-! ## What is read -/

/-- **Lines that are read are numbered in their order.** -/
theorem numbered_of_parseLinesFrom {numbered : List NumberedLine}
    (counted : ∀ next ∈ others, next.1 ≠ .cr)
    (read : parseLinesFrom offset number first others = .ok numbered) :
    numbered.length = others.length + 1 ∧
      ∀ (i : Nat) (line : List Char), (first :: others.map Prod.snd)[i]? = some line →
        ∃ node, numbered[i]? = some node ∧ Line.parse line = .ok node.line ∧
          node.number = number + i := by
  induction others generalizing offset number first numbered with
  | nil =>
    rw [parseLinesFrom] at read
    rcases parsed : Line.parse first with fault | line
    · rw [parsed] at read
      cases read
    · rw [parsed] at read
      cases read
      refine ⟨rfl, ?_⟩
      rintro (_ | i) line' found
      · cases found
        exact ⟨_, rfl, parsed, rfl⟩
      · cases found
  | cons next others ih =>
    obtain ⟨lineBreak, second⟩ := next
    rw [List.forall_mem_cons] at counted
    have one : lineBreak.lines = 1 := by
      cases lineBreak with
      | lf | crlf => rfl
      | cr => exact absurd rfl counted.1
    rw [parseLinesFrom] at read
    rcases parsed : Line.parse first with fault | line
    · rw [parsed] at read
      cases read
    · rw [parsed] at read
      dsimp only at read
      split at read
      · cases read
      · next rest found =>
        cases read
        obtain ⟨length, nodes⟩ := ih counted.2 found
        refine ⟨by rw [List.length_cons, length, List.length_cons], ?_⟩
        rintro (_ | i) line' inside
        · cases inside
          exact ⟨_, rfl, parsed, rfl⟩
        · obtain ⟨node, here, same, numbered⟩ := nodes i line' inside
          refine ⟨node, here, same, ?_⟩
          rw [numbered, one]
          omega

/-! ## What cannot be read -/

/-- In front of a line are as many line feeds as lines, and one of them is right in front of it. -/
lemma lineFront_counted {i : Nat} {line : List Char}
    (free : ∀ line ∈ first :: others.map Prod.snd, '\n' ∉ line)
    (counted : ∀ next ∈ others, next.1 ≠ .cr)
    (inside : (first :: others.map Prod.snd)[i]? = some line) :
    (lineFront first others i).count '\n' = i ∧
      ∀ c ∈ (lineFront first others i).getLast?, c = '\n' := by
  induction others generalizing first i with
  | nil =>
    cases i with
    | zero => exact ⟨rfl, by simp [lineFront]⟩
    | succ i => cases inside
  | cons next others ih =>
    obtain ⟨lineBreak, second⟩ := next
    rw [List.forall_mem_cons] at counted
    rw [List.map_cons, List.forall_mem_cons] at free
    cases i with
    | zero => exact ⟨rfl, by simp [lineFront]⟩
    | succ i =>
      obtain ⟨count, last⟩ := ih free.2 counted.2 inside
      have ends : lineBreak.chars.count '\n' = 1 ∧ lineBreak.chars.getLast? = some '\n' := by
        cases lineBreak with
        | lf | crlf => exact ⟨rfl, rfl⟩
        | cr => exact absurd rfl counted.1
      rw [lineFront]
      constructor
      · rw [List.count_append, List.count_append, List.count_eq_zero.mpr free.1, ends.1, count]
        omega
      · rw [List.getLast?_append, List.getLast?_append, ends.2]
        rcases end' : (lineFront second others i).getLast? with _ | d
        · rintro c ⟨⟩
          rfl
        · rintro c ⟨⟩
          exact last d end'

/-! ## Texts -/

/-- Where a line begins behind line feeds, the line of a place is one more than those, and its
column is told by what of the line is in front of it. -/
lemma SyntaxError.place_eq (error : SyntaxError) (front : List Char) {inside : List Char}
    (place : error.front = front ++ inside) (last : ∀ c ∈ front.getLast?, c = '\n')
    (free : '\n' ∉ inside) :
    error.line = 1 + front.count '\n' ∧ error.column = inside.length + 1 := by
  constructor
  · rw [SyntaxError.line, place, List.count_append, List.count_eq_zero.mpr free, Nat.add_zero]
  · have behind : front.reverse.takeWhile (· ≠ '\n') = [] := by
      rcases reversed : front.reverse with _ | ⟨c, rest⟩
      · rfl
      · have feed : c = '\n' := last c (by rw [List.getLast?_eq_head?_reverse, reversed]; rfl)
        rw [feed]
        rfl
    have row : ∀ c ∈ inside.reverse, decide (c ≠ '\n') = true := by
      intro c hc
      rw [List.mem_reverse] at hc
      exact decide_eq_true fun feed => free (feed ▸ hc)
    rw [SyntaxError.column, SyntaxError.rowFront, place, List.reverse_append,
      List.takeWhile_append_of_pos row, behind, List.append_nil, List.reverse_reverse]

/-- A text of one line. -/
lemma parseSource_line {line : List Char} (free : ∀ c ∈ line, isBreak c = false) :
    parseSource line =
      match Line.parse line with
      | .error fault => .error (.atOffset line fault.offset fault.expected)
      | .ok parsed => .ok [⟨0, 1, parsed⟩] := by
  rw [parseSource, splitLines_of_free free]
  simp only [parseLinesFrom]
  rcases Line.parse line with fault | parsed
  · simp only [Nat.zero_add]
  · rfl

/-- Line feeds are proper line breaks, with or without a carriage return in front of them. -/
lemma properlySplit_of_counted (free : ∀ next ∈ others, ∀ c ∈ next.2, isBreak c = false)
    (counted : ∀ next ∈ others, next.1 ≠ .cr) : ProperlySplit others := by
  induction others with
  | nil => trivial
  | cons next others ih =>
    rw [List.forall_mem_cons] at free counted
    exact ⟨free.1, fun cr => absurd cr counted.1, ih free.2 counted.2⟩

/-- A line can be read alone if it can be read. -/
lemma exists_parseSource_line_iff {line : List Char} (free : ∀ c ∈ line, isBreak c = false) :
    (∃ numbered, parseSource line = .ok numbered) ↔ ∃ parsed, Line.parse line = .ok parsed := by
  rw [parseSource_line free]
  rcases Line.parse line with fault | parsed <;> simp

section Lines

variable (free : ∀ line ∈ first :: others.map Prod.snd, ∀ c ∈ line, isBreak c = false)
  (counted : ∀ next ∈ others, next.1 ≠ .cr)

include free counted

/-- The lines of a text are those that it has been put together from. -/
lemma splitLines_counted : splitLines (joinLines first others) = (first, others) := by
  rw [List.forall_mem_cons, List.forall_mem_map] at free
  exact splitLines_joinLines free.1 (properlySplit_of_counted free.2 counted)

/-- They are read one after the other. -/
lemma parseSource_joinLines :
    parseSource (joinLines first others) =
      match parseLinesFrom 0 1 first others with
      | .error (place, expected) => .error (.atOffset (joinLines first others) place expected)
      | .ok numbered => .ok numbered := by
  rcases outcome : parseLinesFrom 0 1 first others with ⟨place, expected⟩ | numbered <;>
    simp only [parseSource, splitLines_counted free counted, outcome]

/-- What is read from a text is read from its lines alone. -/
lemma nodes_of_parseSource {numbered : List NumberedLine}
    (read : parseSource (joinLines first others) = .ok numbered) :
    numbered.length = (first :: others.map Prod.snd).length ∧
      ∀ (i : Nat) (line : List Char), (first :: others.map Prod.snd)[i]? = some line →
        ∃ node alone, numbered[i]? = some node ∧ parseSource line = .ok [alone] ∧
          node.number = i + 1 ∧ node.line = alone.line := by
  rw [parseSource_joinLines free counted] at read
  rcases outcome : parseLinesFrom 0 1 first others with fault | lines
  · rw [outcome] at read
    cases read
  · rw [outcome] at read
    cases read
    obtain ⟨length, nodes⟩ := numbered_of_parseLinesFrom counted outcome
    refine ⟨by rw [length, List.length_cons, List.length_map], fun i line inside => ?_⟩
    obtain ⟨node, here, parsed, number⟩ := nodes i line inside
    refine ⟨node, ⟨0, 1, node.line⟩, here, ?_, by omega, rfl⟩
    rw [parseSource_line (free line (List.mem_of_getElem? inside)), parsed]

/-- If a text cannot be read, the first of its lines is reported that cannot be read alone. -/
lemma error_of_parseSource {error : SyntaxError}
    (failed : parseSource (joinLines first others) = .error error) :
    ∃ (i : Nat) (line : List Char) (alone : SyntaxError),
      (first :: others.map Prod.snd)[i]? = some line ∧ parseSource line = .error alone ∧
        (∀ j < i, ∀ earlier, (first :: others.map Prod.snd)[j]? = some earlier →
          ∃ numbered, parseSource earlier = .ok numbered) ∧
        error.line = i + 1 ∧ error.column = alone.column := by
  have noFeed {line : List Char} (clean : ∀ c ∈ line, isBreak c = false) : '\n' ∉ line :=
    fun feed => Bool.false_ne_true ((clean _ feed).symm.trans rfl)
  have split := splitLines_counted free counted
  obtain ⟨i, line, fault, inside, faulty, earlier, front, -⟩ := exists_fault_of_parseSource failed
  rw [textLines, split] at inside earlier
  rw [textFront, split] at front
  obtain ⟨count, last⟩ :=
    lineFront_counted (fun line inside => noFeed (free line inside)) counted inside
  have clean := free line (List.mem_of_getElem? inside)
  have noFeed' : '\n' ∉ line.take fault.offset :=
    fun feed => noFeed clean (List.mem_of_mem_take feed)
  have alone : parseSource line = .error (.atOffset line fault.offset fault.expected) := by
    rw [parseSource_line clean, faulty]
  obtain ⟨row, column⟩ := error.place_eq _ front last noFeed'
  obtain ⟨-, column'⟩ := SyntaxError.place_eq
    (.atOffset line fault.offset fault.expected) [] rfl (by simp) noFeed'
  refine ⟨i, line, _, inside, alone, ?_, by rw [row, count, Nat.add_comm], by rw [column, column']⟩
  intro j before line' inside'
  rw [exists_parseSource_line_iff (free line' (List.mem_of_getElem? inside'))]
  exact earlier j before line' inside'

end Lines

/-- **Lines do not depend on each other.** Let lines without line feeds and carriage returns be
separated by line feeds, with or without a carriage return in front of them.

* The text can be read if and only if each of the lines can be read as a text of its own.
* It is then read as so many lines, numbered from 1 on. Each has the label, the statement and the
  text that are read from it alone.
* Otherwise the error is in the first of the lines that cannot be read alone, and at the same column
  as if it stood alone.

This is what the grammar says of a text as a whole: what is read from any text are the lines that
fit the grammar, and the place of an error is the furthest one where a rule fails.

**Proof sketch.** The assembler splits the text into the same lines again (`splitLines_joinLines`).
It stops at the first one that cannot be read, behind as many line feeds as there are lines in front
(`exists_fault_of_parseSource`, `lineFront_counted`). That it reads what the grammar says is
`Grammar.parse_eq`, and that it stops at the furthest failure is `Rules.furthest_of_parseSource`. -/
theorem lines_independent
    (free : ∀ line ∈ first :: others.map Prod.snd, '\n' ∉ line ∧ '\r' ∉ line)
    (separated : ∀ next ∈ others, next.1 = .lf ∨ next.1 = .crlf) :
    let lines := first :: others.map Prod.snd
    let text := joinLines first others
    ((∃ numbered, parseSource text = .ok numbered) ↔
        ∀ line ∈ lines, ∃ numbered, parseSource line = .ok numbered) ∧
      (∀ numbered, parseSource text = .ok numbered →
        numbered.length = lines.length ∧
          ∀ (i : Nat) (line : List Char), lines[i]? = some line →
            ∃ node alone, numbered[i]? = some node ∧ parseSource line = .ok [alone] ∧
              node.number = i + 1 ∧ node.line = alone.line) ∧
      (∀ error, parseSource text = .error error →
        ∃ (i : Nat) (line : List Char) (alone : SyntaxError), lines[i]? = some line ∧
          parseSource line = .error alone ∧
          (∀ j < i, ∀ earlier, lines[j]? = some earlier →
            ∃ numbered, parseSource earlier = .ok numbered) ∧
          error.line = i + 1 ∧ error.column = alone.column) ∧
      ∀ chars,
        (Rules.text.peg.run chars).map Prod.fst =
            (parseSource chars).toOption.map (List.map (·.line.content)) ∧
          ∀ error, parseSource chars = .error error →
            error.front ++ error.back = chars ∧ Rules.text.Furthest chars error.back := by
  intro lines text
  have clean : ∀ line ∈ lines, ∀ c ∈ line, isBreak c = false := by
    intro line inside c hc
    rw [isBreak, Bool.or_eq_false_iff, decide_eq_false_iff_not, decide_eq_false_iff_not]
    exact ⟨fun lf => (free line inside).1 (lf ▸ hc), fun cr => (free line inside).2 (cr ▸ hc)⟩
  have counted : ∀ next ∈ others, next.1 ≠ .cr := by
    intro next inside cr
    rcases separated next inside with lf | crlf
    · exact absurd (cr.symm.trans lf) (by decide)
    · exact absurd (cr.symm.trans crlf) (by decide)
  refine ⟨⟨?_, ?_⟩, fun numbered => nodes_of_parseSource clean counted,
    fun error => error_of_parseSource clean counted,
    fun chars => ⟨?_, fun error => Rules.furthest_of_parseSource⟩⟩
  · rintro ⟨numbered, read⟩ line inside
    obtain ⟨i, here⟩ := List.mem_iff_getElem?.mp inside
    obtain ⟨-, alone, -, read', -⟩ := (nodes_of_parseSource clean counted read).2 i line here
    exact ⟨[alone], read'⟩
  · intro readable
    rcases outcome : parseSource text with error | numbered
    · obtain ⟨i, line, alone, here, failed, -⟩ := error_of_parseSource clean counted outcome
      obtain ⟨numbered, read⟩ := readable line (List.mem_of_getElem? here)
      rw [failed] at read
      cases read
    · exact ⟨numbered, rfl⟩
  · rw [Rules.peg_text]
    exact Grammar.parse_eq chars

/-- Three lines, the second of which lacks a number. The comment in front of it and the line behind
it make no difference. -/
theorem lines_independent_missing_number :
    ∃ error alone,
      parseSource "ldac 1 # one\r\n  .pos one\nbr".toList = .error error ∧
        parseSource "  .pos one".toList = .error alone ∧ error.line = 2 ∧ error.column = 8 ∧
        alone.column = 8 := by
  have place : (match parseSource "ldac 1 # one\r\n  .pos one\nbr".toList with
      | .error error => (error.line, error.column)
      | .ok _ => (0, 0)) = (2, 8) := by
    decide +kernel
  obtain ⟨-, -, errors, -⟩ := @lines_independent "ldac 1 # one".toList
    [(.crlf, "  .pos one".toList), (.lf, "br".toList)] (by decide) (by decide)
  rcases outcome : parseSource "ldac 1 # one\r\n  .pos one\nbr".toList with error | numbered
  · rw [outcome, Prod.mk.injEq] at place
    obtain ⟨i, line, alone, here, failed, -, row, column⟩ := errors error outcome
    obtain rfl : i = 1 := by omega
    cases here
    exact ⟨error, alone, rfl, failed, place.1, place.2, column.symm.trans place.2⟩
  · rw [outcome] at place
    cases place

end Hex8.Asm
