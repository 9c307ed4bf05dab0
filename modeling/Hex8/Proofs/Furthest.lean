import Hex8.Proofs.ReadFront
import Hex8.Proofs.Rules

set_option relaxedAutoImplicit false
set_option autoImplicit false

/-!
# The place of a syntax error

The assembler reads one line after the other and stops in the first one that does not fit. The
grammar is tried on the text as a whole, and its rules fail at many places, most of which are of no
account. The furthest one of them is where the assembler stops.

## Main definitions

* `Hex8.Asm.Rules.entry`, `Hex8.Asm.Rules.remaining` — a line with the blanks in front of it, and
  everything behind a line.
* `Hex8.Asm.Rules.lineReached` — what is left of a line where it cannot be read any further.
* `Hex8.Asm.Rules.failuresFrom` — where rules fail from a line on.

## Main results

* `Hex8.Asm.Rules.within_entry` — no rule of a line fails beyond what the line has reached.
* `Hex8.Asm.Rules.parse_eq_error` — where a line of its own cannot be read.
* `Hex8.Asm.Rules.furthest_parseLinesFrom` — where lines cannot be read.
* `Hex8.Asm.Rules.furthest_of_parseSource` — the place of a syntax error is the furthest one where a
  rule fails.

## Design

A line that can be read is of no account as soon as there is another one behind it: its rules fail
in front of everything that comes later. Only in the last line that is tried do the places matter,
and there one of them is where the line has reached, or the end is expected there.
-/

namespace Hex8.Asm.Rules

open Peg.Tracked
open Grammar (isBreak ProperlySplit reading labelled)

variable {chars : List Char} {bound : Nat}

/-! ## Lines -/

/-- The label of a line, and the blanks behind it. -/
def header : Peg.Tracked (Option String) := do
  let label ← maybe label
  skip
  return label

/-- A line is its label and its statement. -/
lemma line_eq :
    line = rule do
      let label ← header
      let command ← maybe statement
      return { label, command } := by
  simp only [line, header, bind_assoc, pure_bind]

/-- No rule of a label fails beyond its beginning. -/
lemma within_header (whole : bound ≤ chars.length) : header.Within chars bound := by
  have name : ident.Within chars bound := Within.rule (Within.silent _) whole
  have label : (maybe label).Within chars bound :=
    Within.rule (name.bind fun _ _ _ => Within.bind (Within.silent _) fun _ _ _ => Within.pure _)
      whole
  exact label.bind fun _ _ _ => Within.bind (Within.silent _) fun _ _ _ => Within.pure _

/-- A line, and the blanks in front of it. -/
def entry : Peg.Tracked Content := do
  skip
  line

/-- Neither a line nor the blanks in front of it go beyond a line break. -/
lemma stopsAt_entry : entry.StopsAt isBreak :=
  stopsAt_skip.bind fun _ => stopsAt_line

/-- What is left of a line behind everything that it says, or where it lacks a number. -/
def lineReached (chars : List Char) : List Char :=
  reached (Asm.skip chars).length (labelled (Asm.skip chars)).2

/-- Blanks behind a label have been skipped. -/
lemma skip_labelled {body : List Char} (settled : Asm.skip body = body) :
    Asm.skip (labelled body).2 = (labelled body).2 := by
  rw [labelled]
  split
  · exact skip_skip _
  · exact settled

/-- Nothing in front of the statement of a line is behind it. -/
lemma labelled_suffix (free : ∀ c ∈ chars, isBreak c = false) :
    (labelled (Asm.skip chars)).2 <:+ Asm.skip chars ∧
      ∀ c ∈ (labelled (Asm.skip chars)).2, isBreak c = false := by
  have stops : header.StopsAt isBreak :=
    stopsAt_label.maybe.bind fun _ => stopsAt_skip.bind fun _ => stopsAt_pure _
  have free' := Grammar.free_skip free
  have run := Grammar.run_labelled free' (skip_skip chars)
  exact ⟨stops.peg.suffix run, stops.peg.free_rest free' run⟩

/-- **No rule of a line fails beyond what the line has reached.** -/
theorem within_entry (free : ∀ c ∈ chars, isBreak c = false) :
    entry.Within chars (lineReached chars).length := by
  obtain ⟨front, free''⟩ := labelled_suffix free
  have statementWithin := within_statement (Asm.skip chars).length free''
  have whole : (lineReached chars).length ≤ (Asm.skip chars).length :=
    (length_reached_le free'').trans front.length_le
  refine within_skip free ?_
  rw [line_eq]
  refine Within.rule (Within.bind (within_header whole) fun label rest run' => ?_) whole
  have labelRead := Grammar.run_labelled (Grammar.free_skip free) (skip_skip chars)
  obtain rfl : (labelled (Asm.skip chars)).2 = rest :=
    congrArg Prod.snd (Option.some.inj (labelRead.symm.trans run'))
  have command : (maybe statement).Within (labelled (Asm.skip chars)).2
      (lineReached chars).length := statementWithin
  exact command.bind fun _ _ _ => Within.pure _

/-- The number that the statement of a line lacks fails. -/
lemma mem_failures_entry (free : ∀ c ∈ chars, isBreak c = false) {place : List Char}
    (h : Line.statement? (Asm.skip chars).length (labelled (Asm.skip chars)).2 = .error place) :
    place ∈ entry.failures chars := by
  have labelRead := Grammar.run_labelled (Grammar.free_skip free) (skip_skip chars)
  have failed : place ∈ (maybe statement).failures (labelled (Asm.skip chars)).2 :=
    mem_failures_statement (labelled_suffix free).2 h
  refine mem_failures_bind_right (Grammar.run_skip free) ?_
  rw [line_eq]
  exact mem_failures_rule (mem_failures_bind_right labelRead (mem_failures_bind_left failed))

/-- The grammar leaves what is behind the statement. -/
lemma left_reading (chars : List Char) :
    (reading chars).2 =
      (Grammar.commanded (Asm.skip chars).length (labelled (Asm.skip chars)).2).2 := rfl

/-- What the grammar leaves of a line, without the blanks and the comment in front, if the line
lacks no number. -/
lemma skip_reading {statement : Option Statement} {rest : List Char}
    (found : Line.statement? (Asm.skip chars).length (labelled (Asm.skip chars)).2 =
      .ok (statement, rest)) :
    Asm.skip (reading chars).2 = lineReached chars := by
  rw [left_reading, Grammar.commanded, lineReached, reached, found]
  cases statement with
  | some statement => rfl
  | none => rw [Grammar.statement?_of_none found]

/-- **Where a line of its own cannot be read.** It has reached that place. A rule of the line fails
there, or the line says nothing more and ought to end. -/
theorem parse_eq_error (free : ∀ c ∈ chars, isBreak c = false) {fault : Fault}
    (h : Line.parse chars = .error fault) :
    fault.offset = chars.length - (lineReached chars).length ∧
      lineReached chars <:+ chars ∧
      (lineReached chars).length ≤ (Asm.skip (reading chars).2).length ∧
      (lineReached chars ∈ entry.failures chars ∨
        lineReached chars = Asm.skip (reading chars).2) := by
  rcases Line.parse_eq_error_iff.mp h with ⟨place, found, rfl⟩ | ⟨statement, rest, found, -, rfl⟩
  -- the line lacks a number, and the grammar gives up the statement
  · have failed := mem_failures_entry free found
    have reach : lineReached chars = place := by rw [lineReached, reached, found]
    have left : (reading chars).2 = (labelled (Asm.skip chars)).2 := by
      rw [left_reading, Grammar.commanded, found]
    rw [left, skip_labelled (skip_skip chars), reach]
    refine ⟨rfl, stopsAt_entry.suffix failed, ?_, .inl failed⟩
    rw [← reach]
    exact length_reached_le (labelled_suffix free).2
  · have left := skip_reading found
    have reach : lineReached chars = Asm.skip rest := by rw [lineReached, reached, found]
    have suffix : Asm.skip (reading chars).2 <:+ chars :=
      (Grammar.stopsAt_skip.suffix (Grammar.run_skip (Grammar.free_reading free))).trans
        (stopsAt_entry.peg.suffix (Grammar.run_reading free))
    rw [left] at suffix ⊢
    exact ⟨by rw [reach], suffix, le_rfl, .inr rfl⟩

/-! ## Texts -/

variable {others : List (LineBreak × List Char)}

/-- What the rules of the first line do in a text, they do in the line. -/
lemma failures_entry_join (free : ∀ c ∈ chars, isBreak c = false)
    (others : List (LineBreak × List Char)) :
    entry.failures (joinLines chars others) =
      (entry.failures chars).map (· ++ joinLines [] others) := by
  rw [Grammar.joinLines_eq]
  exact stopsAt_entry.failures_append free (Grammar.head?_joinLines others)

/-- Without a line break no rule fails. -/
lemma failures_further_of_last (free : ∀ c ∈ chars, isBreak c = false)
    (h : Asm.skip chars ≠ [] ∨ others = []) : further.failures (joinLines chars others) = [] := by
  have noBreak := Grammar.run_newline_eq_none (Grammar.head?_joinLines_skip free h)
  rw [further, failures_bind_of_some (Grammar.run_skip_join free others), nextLine,
    failures_bind_of_none noBreak]
  rfl

/-- Otherwise those of the line behind it may. -/
lemma failures_further (free : ∀ c ∈ chars, isBreak c = false) {lineBreak : LineBreak}
    {second : List Char} (done : Asm.skip chars = [])
    (split : ProperlySplit ((lineBreak, second) :: others)) :
    further.failures (joinLines chars ((lineBreak, second) :: others)) =
      entry.failures (joinLines second others) := by
  have read : Grammar.newline.run (joinLines [] ((lineBreak, second) :: others)) =
      some ((), joinLines second others) := by
    rw [Grammar.joinLines_cons]
    exact Grammar.run_newline split.2.1
  rw [further, failures_bind_of_some (Grammar.run_skip_join free _), done, nextLine,
    failures_bind_of_some read]
  rfl

/-- The end of the text, behind given lines. -/
def ending (contents : List Content) : Peg.Tracked (List Content) := do
  skip
  atEnd
  return contents

/-- Blanks and a comment in front of the end are skipped. -/
lemma failures_ending (free : ∀ c ∈ chars, isBreak c = false)
    (others : List (LineBreak × List Char)) (contents : List Content) :
    (ending contents).failures (joinLines chars others) =
      atEnd.failures (joinLines (Asm.skip chars) others) := by
  rw [ending, failures_bind_of_some (Grammar.run_skip_join free others)]
  rcases run : atEnd.peg.run (joinLines (Asm.skip chars) others) with _ | ⟨_, rest⟩
  · rw [failures_bind_of_none run]
    rfl
  · rw [failures_bind_of_some run]
    exact List.append_nil _

/-- Further lines up to the end of the text, wherever the first of them begins. -/
def remaining : Peg.Tracked (List Content) := do
  let others ← many further
  ending others

/-- If something is left of a line, the text ought to end there. -/
lemma failures_remaining_of_left (free : ∀ c ∈ chars, isBreak c = false)
    (left : Asm.skip chars ≠ []) :
    remaining.failures (joinLines chars others) = [joinLines (Asm.skip chars) others] := by
  have ends : further.peg.run (joinLines chars others) = none :=
    Grammar.run_skip_nextLine_eq_none free (.inl left)
  have noEnd : (silent Peg.atEnd).peg.run (joinLines (Asm.skip chars) others) = none := by
    obtain ⟨c, rest, body⟩ := List.exists_cons_of_ne_nil left
    rw [body]
    rfl
  rw [remaining, failures_bind_of_some (Peg.run_many_of_none ends), failures_many_of_none ends,
    failures_further_of_last free (.inl left), failures_ending free, atEnd,
    failures_rule_of_none noEnd]
  rfl

/-- If nothing is left of a line, the next one is read. -/
lemma failures_remaining_cons (free : ∀ c ∈ chars, isBreak c = false) {lineBreak : LineBreak}
    {second : List Char} (done : Asm.skip chars = [])
    (split : ProperlySplit ((lineBreak, second) :: others)) :
    remaining.failures (joinLines chars ((lineBreak, second) :: others)) =
      entry.failures (joinLines second others) ++
        remaining.failures (joinLines (reading second).2 others) := by
  have next : further.peg.run (joinLines chars ((lineBreak, second) :: others)) =
      some ((reading second).1, joinLines (reading second).2 others) :=
    Grammar.run_skip_nextLine free done split
  have shorter := Grammar.length_joinLines_reading_lt split.1 chars lineBreak others
  obtain ⟨⟨contents, behind⟩, more⟩ :=
    Peg.exists_run_many further.peg (joinLines (reading second).2 others)
  have all : (many further).peg.run (joinLines chars ((lineBreak, second) :: others)) =
      some ((reading second).1 :: contents, behind) := by
    change (Peg.many further.peg).run _ = _
    rw [Peg.run_many_of_some next shorter, more]
    rfl
  have rest : (many further).peg.run (joinLines (reading second).2 others) =
      some (contents, behind) := more
  rw [remaining, failures_bind_of_some all, failures_many_of_some next shorter,
    failures_further free done split, List.append_assoc, failures_bind_of_some rest]
  rfl

/-- Where rules fail from the first of some lines on. -/
def failuresFrom (first : List Char) (others : List (LineBreak × List Char)) : List (List Char) :=
  entry.failures (joinLines first others) ++
    remaining.failures (joinLines (reading first).2 others)

/-- If the first line can be read, and not everything behind it, rules fail in the others. -/
lemma failuresFrom_cons {first second : List Char} {lineBreak : LineBreak} {line : Line}
    (free : ∀ c ∈ first, isBreak c = false)
    (split : ProperlySplit ((lineBreak, second) :: others)) (read : Line.parse first = .ok line) :
    failuresFrom first ((lineBreak, second) :: others) =
      entry.failures (joinLines first ((lineBreak, second) :: others)) ++
        failuresFrom second others := by
  have content := Grammar.content_parse first
  have done : Asm.skip (reading first).2 = [] := by
    by_contra left
    rw [read, if_neg left] at content
    cases content
  rw [failuresFrom, failures_remaining_cons (Grammar.free_reading free) done split, failuresFrom]

/-- If the first line cannot be read, rules fail within what it has reached, and one does there. -/
lemma furthest_first {first : List Char} {fault : Fault} (free : ∀ c ∈ first, isBreak c = false)
    (h : Line.parse first = .error fault) (others : List (LineBreak × List Char)) :
    ∃ rest, rest <:+ joinLines first others ∧
      fault.offset = (joinLines first others).length - rest.length ∧
      rest ∈ failuresFrom first others ∧
      ∀ other ∈ failuresFrom first others, rest.length ≤ other.length := by
  obtain ⟨offset, ⟨front, whole⟩, within, failed⟩ := parse_eq_error free h
  have content := Grammar.content_parse first
  have left : Asm.skip (reading first).2 ≠ [] := by
    intro done
    rw [h, if_pos done] at content
    cases content
  have failures : failuresFrom first others =
      (entry.failures first).map (· ++ joinLines [] others) ++
        [Asm.skip (reading first).2 ++ joinLines [] others] := by
    rw [failuresFrom, failures_remaining_of_left (Grammar.free_reading free) left,
      failures_entry_join free, Grammar.joinLines_eq (Asm.skip (reading first).2)]
  refine ⟨lineReached first ++ joinLines [] others, ?_, ?_, ?_, ?_⟩
  · exact ⟨front, by rw [← List.append_assoc, whole, Grammar.joinLines_eq first]⟩
  · rw [offset, Grammar.joinLines_eq first, List.length_append, List.length_append,
      Nat.add_sub_add_right]
  · rw [failures, List.mem_append, List.mem_singleton, List.mem_map]
    rcases failed with failed | ends
    · exact .inl ⟨_, failed, rfl⟩
    · exact .inr (by rw [ends])
  · intro other inside
    rw [failures, List.mem_append, List.mem_singleton, List.mem_map] at inside
    rw [List.length_append]
    rcases inside with ⟨place, failed, rfl⟩ | rfl
    · rw [List.length_append]
      exact Nat.add_le_add_right (within_entry free place failed) _
    · rw [List.length_append]
      exact Nat.add_le_add_right within _

/-- **The place where lines cannot be read** is the furthest one where a rule of a line fails, or
where the text ought to end.

**Proof sketch.** Induction over the lines. If the first line cannot be read, it has reached the
place, and nothing of the others is tried. Otherwise its rules fail within the line, and all others
fail behind it. -/
theorem furthest_parseLinesFrom {offset number : Nat} {first : List Char} {place : Nat}
    {expected : Expected} (free : ∀ c ∈ first, isBreak c = false) (split : ProperlySplit others)
    (h : parseLinesFrom offset number first others = .error (place, expected)) :
    ∃ rest, rest <:+ joinLines first others ∧
      place = offset + ((joinLines first others).length - rest.length) ∧
      rest ∈ failuresFrom first others ∧
      ∀ other ∈ failuresFrom first others, rest.length ≤ other.length := by
  induction others generalizing offset number first with
  | nil =>
    rw [parseLinesFrom] at h
    rcases parsed : Line.parse first with fault | line
    · rw [parsed] at h
      cases h
      obtain ⟨rest, suffix, reached, failed⟩ := furthest_first free parsed []
      exact ⟨rest, suffix, by rw [reached], failed⟩
    · rw [parsed] at h
      cases h
  | cons next others ih =>
    obtain ⟨lineBreak, second⟩ := next
    rw [parseLinesFrom] at h
    rcases parsed : Line.parse first with fault | line
    · rw [parsed] at h
      cases h
      obtain ⟨rest, suffix, reached, failed⟩ :=
        furthest_first free parsed ((lineBreak, second) :: others)
      exact ⟨rest, suffix, by rw [reached], failed⟩
    · rw [parsed] at h
      dsimp only at h
      split at h
      · next fault found =>
        cases h
        obtain ⟨rest, suffix, reached, failed, furthest⟩ := ih split.1 split.2.2 found
        have shorter := suffix.length_le
        have joined : joinLines first ((lineBreak, second) :: others) =
            first ++ (lineBreak.chars ++ joinLines second others) := by
          rw [Grammar.joinLines_eq, Grammar.joinLines_cons]
        refine ⟨rest, ?_, ?_, ?_, ?_⟩
        · rw [joined, ← List.append_assoc]
          exact suffix.trans (List.suffix_append _ _)
        · rw [joined, reached]
          simp only [List.length_append]
          omega
        · rw [failuresFrom_cons free split parsed]
          exact List.mem_append_right _ failed
        · intro other inside
          rw [failuresFrom_cons free split parsed, List.mem_append] at inside
          rcases inside with inside | inside
          · -- the first line is in front of the place
            rw [failures_entry_join free, List.mem_map] at inside
            obtain ⟨place, -, rfl⟩ := inside
            rw [Grammar.joinLines_cons, List.length_append, List.length_append]
            omega
          · exact furthest other inside
      · cases h

/-- Everything behind the first line. -/
def behindFirst : Peg.Tracked (List Content) := do
  skip
  let others ← nextLines
  ending others

/-- Without a further line, none is read. -/
lemma nextLines_of_none (h : nextLine.peg.run chars = none) :
    nextLines.peg.run chars = some ([], chars) ∧
      nextLines.failures chars = nextLine.failures chars := by
  have first : (do
      let first ← nextLine
      let others ← many further
      return first :: others).peg.run chars = none := by
    rw [peg_bind, Peg.run_bind, h, Option.bind_none]
  constructor
  · change (_ <|> _ : Peg _).run chars = _
    rw [Peg.run_orElse]
    exact congrArg (Option.or · _) first
  · rw [nextLines, failures_orElse_of_none first, failures_bind_of_none h]
    exact List.append_nil _

/-- A further line is read together with those behind it. -/
lemma nextLines_of_some {content : Content} {contents : List Content} {rest behind : List Char}
    (h : nextLine.peg.run chars = some (content, rest))
    (more : (many further).peg.run rest = some (contents, behind)) :
    nextLines.peg.run chars = some (content :: contents, behind) ∧
      nextLines.failures chars = nextLine.failures chars ++ (many further).failures rest := by
  have first : (do
      let first ← nextLine
      let others ← many further
      return first :: others).peg.run chars = some (content :: contents, behind) := by
    rw [peg_bind, Peg.run_bind, h, Option.bind_some, peg_bind, Peg.run_bind, more]
    rfl
  constructor
  · change (_ <|> _ : Peg _).run chars = _
    rw [Peg.run_orElse]
    exact congrArg (Option.or · _) first
  · rw [nextLines, failures_orElse_of_some first, failures_bind_of_some h,
      failures_bind_of_some more]
    exact congrArg (_ ++ ·) (List.append_nil _)

/-- It does not matter that the blanks in front of the first further line are skipped earlier. -/
lemma failures_behindFirst (free : ∀ c ∈ chars, isBreak c = false) (split : ProperlySplit others) :
    behindFirst.failures (joinLines chars others) =
      remaining.failures (joinLines chars others) := by
  have skipped : skip.peg.run (joinLines chars others) =
      some ((), joinLines (Asm.skip chars) others) := Grammar.run_skip_join free others
  have next : further.failures (joinLines chars others) =
      nextLine.failures (joinLines (Asm.skip chars) others) := failures_bind_of_some skipped
  have same : further.peg.run (joinLines chars others) =
      nextLine.peg.run (joinLines (Asm.skip chars) others) := by
    rw [further, peg_bind, Peg.run_bind, skipped, Option.bind_some]
  rw [behindFirst, failures_bind_of_some skipped, remaining]
  by_cases last : Asm.skip chars ≠ [] ∨ others = []
  -- without a further line, what is left to skip is skipped once here and twice there
  · have none' : nextLine.peg.run (joinLines (Asm.skip chars) others) = none :=
      Grammar.run_nextLine_eq_none (Grammar.head?_joinLines_skip free last)
    obtain ⟨run, failures⟩ := nextLines_of_none none'
    rw [none'] at same
    have noLines : (many further).peg.run (joinLines chars others) =
        some ([], joinLines chars others) := Peg.run_many_of_none same
    rw [failures_bind_of_some run, failures, failures_bind_of_some noLines,
      failures_many_of_none same, next, failures_ending (Grammar.free_skip free),
      failures_ending free, skip_skip]
    rfl
  · rcases others with _ | ⟨⟨lineBreak, second⟩, others⟩
    · exact absurd (.inr rfl) last
    · have done : Asm.skip chars = [] := by
        by_contra left
        exact last (.inl left)
      have some' : further.peg.run (joinLines chars ((lineBreak, second) :: others)) =
          some ((reading second).1, joinLines (reading second).2 others) :=
        Grammar.run_skip_nextLine free done split
      have shorter := Grammar.length_joinLines_reading_lt split.1 chars lineBreak others
      obtain ⟨⟨contents, behind⟩, more⟩ :=
        Peg.exists_run_many further.peg (joinLines (reading second).2 others)
      obtain ⟨run, failures⟩ := nextLines_of_some (same.symm.trans some') more
      have lines : (many further).peg.run (joinLines chars ((lineBreak, second) :: others)) =
          some ((reading second).1 :: contents, behind) := by
        change (Peg.many further.peg).run _ = _
        rw [Peg.run_many_of_some some' shorter, more]
        rfl
      rw [failures_bind_of_some run, failures, failures_bind_of_some lines,
        failures_many_of_some some' shorter, next]
      rfl

/-- A text that does not fit the grammar fails as a whole, and where the rules of its lines fail. -/
lemma failures_text {first : List Char} (free : ∀ c ∈ first, isBreak c = false)
    (split : ProperlySplit others) (h : Grammar.text.run (joinLines first others) = none) :
    text.failures (joinLines first others) =
      failuresFrom first others ++ [joinLines first others] := by
  have parts : text = rule do
      let first ← entry
      let others ← behindFirst
      return first :: others := by
    simp only [text, entry, behindFirst, ending, bind_assoc, pure_bind]
  have line : entry.peg.run (joinLines first others) =
      some ((reading first).1, joinLines (reading first).2 others) := by
    rw [Grammar.joinLines_eq]
    exact Grammar.run_line free (Grammar.head?_joinLines others)
  have whole : (do
      let first ← entry
      let others ← behindFirst
      return first :: others).peg.run (joinLines first others) = none := by
    have fails : text.peg.run (joinLines first others) = none := h
    rwa [parts] at fails
  rw [parts, failures_rule_of_none whole, failures_bind_of_some line, failuresFrom,
    ← failures_behindFirst (Grammar.free_reading free) split]
  rcases run : behindFirst.peg.run (joinLines (reading first).2 others) with _ | ⟨contents, rest⟩
  · rw [failures_bind_of_none run]
  · rw [failures_bind_of_some run]
    exact congrArg (entry.failures _ ++ · ++ _) (List.append_nil _)

/-- **The place of a syntax error** is the furthest one where a rule of the grammar fails while the
text as a whole is tried.

**Proof sketch.** The lines fail nowhere else than in the text (`failures_text`), and the assembler
stops at the furthest of these places (`furthest_parseLinesFrom`). The text as a whole fails where
it begins, which is never further. -/
theorem furthest_of_parseSource {error : SyntaxError} (h : parseSource chars = .error error) :
    error.front ++ error.back = chars ∧ text.Furthest chars error.back := by
  obtain ⟨free, split⟩ := Grammar.properlySplit_splitLines chars
  have joined := joinLines_splitLines chars
  have fails : Grammar.text.run (joinLines (splitLines chars).1 (splitLines chars).2) = none := by
    have parsed := Grammar.parse_eq chars
    rw [h] at parsed
    rw [joined]
    exact Option.map_eq_none_iff.mp parsed
  have failures := failures_text free split fails
  rw [joined] at failures
  rw [parseSource] at h
  dsimp only at h
  split at h
  · next place expected found =>
    cases h
    obtain ⟨rest, ⟨front, whole⟩, rfl, failed, furthest⟩ :=
      furthest_parseLinesFrom free split found
    rw [joined] at whole ⊢
    have size : chars.length - rest.length = front.length := by
      rw [← whole, List.length_append, Nat.add_sub_cancel]
    have back : chars.drop (0 + (chars.length - rest.length)) = rest := by
      rw [Nat.zero_add, size, ← whole, List.drop_left]
    refine ⟨List.take_append_drop _ _, ?_⟩
    change text.Furthest chars (chars.drop _)
    rw [back, Peg.Tracked.Furthest, failures]
    refine ⟨List.mem_append_left _ failed, ?_⟩
    intro other inside
    rw [List.mem_append, List.mem_singleton] at inside
    rcases inside with inside | rfl
    · exact furthest other inside
    · rw [← whole, List.length_append]
      exact Nat.le_add_left _ _
  · cases h

end Hex8.Asm.Rules
