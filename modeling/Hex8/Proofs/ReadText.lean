import Hex8.Proofs.ReadStatement

set_option relaxedAutoImplicit false
set_option autoImplicit false

/-!
# Reading texts

The assembler splits a text into lines and reads each one for itself, to its end. The grammar has a
repetition of line breaks and lines instead, and always reads something from a line. Whether that
was all of the line turns out only behind it, where another line break or the end has to follow.

## Main definitions

* `Hex8.Asm.Grammar.reading` — what the grammar reads from a line, and what is left behind it.
* `Hex8.Asm.Grammar.ProperlySplit` — lines and breaks as they come out of a text.

## Main results

* `Hex8.Asm.Grammar.run_line` — what is read from a line does not depend on the text behind it.
* `Hex8.Asm.Grammar.content_parse` — a line of its own can be read if nothing is left behind it.
* `Hex8.Asm.Grammar.run_remaining` — the repetition.
* `Hex8.Asm.Grammar.parse_eq` — the assembler reads what the grammar says.

## Design

The induction is over the lines of a text, not over its characters. It says what the rest of the text
is read as from anywhere in a line, so that what is left of the line before is a part of it.
-/

namespace Hex8.Asm.Grammar

open Peg

variable {chars : List Char}

/-! ## Lines -/

/-- Only a line that starts with a point lacks the number of a directive. -/
lemma point_of_statement?_error {size : Nat} {place : List Char}
    (h : Line.statement? size chars = .error place) : ∃ rest, chars = '.' :: rest := by
  rw [Line.statement?] at h
  split at h
  · next found => exact ⟨_, after?_eq_some_iff.mp found⟩
  · split at h
    · next found => exact ⟨_, after?_eq_some_iff.mp found⟩
    · split at h
      · next found => exact ⟨_, after?_eq_some_iff.mp found⟩
      · split at h <;> cases h

/-- Without a statement nothing is read. -/
lemma statement?_of_none {size : Nat} {rest : List Char}
    (h : Line.statement? size chars = .ok (none, rest)) : rest = chars := by
  rw [Line.statement?] at h
  split at h
  · next behind _ =>
    simp only [bind, Except.bind] at h
    split at h <;> cases h
  · split at h
    · simp only [bind, Except.bind] at h
      split at h <;> cases h
    · split at h
      · simp only [bind, Except.bind] at h
        split at h
        · cases h
        · split at h <;> cases h
      · split at h
        · cases h
        · cases h
          rfl

/-- The label at the front of a line, and what is left of the line behind it. -/
def labelled (body : List Char) : Option String × List Char :=
  match Line.label? body with
  | some (name, rest) => (some (String.ofList name), Asm.skip rest)
  | none => (none, body)

/-- The statement at the front, if there is a complete one, and what is left behind it. -/
def commanded (size : Nat) (front : List Char) : Option Command × List Char :=
  match Line.statement? size front with
  | .ok (some statement, rest) => (some statement.command, rest)
  | .ok (none, _) | .error _ => (none, front)

/-- What can be at the front behind a label: a directive without its number, nothing that is a
statement, or a statement. -/
lemma commanded_cases (size : Nat) (front : List Char) :
    (∃ place, Line.statement? size front = .error place ∧ commanded size front = (none, front) ∧
        Asm.skip front ≠ []) ∨
      (Line.statement? size front = .ok (none, front) ∧ commanded size front = (none, front)) ∨
      ∃ statement rest, Line.statement? size front = .ok (some statement, rest) ∧
        commanded size front = (some statement.command, rest) := by
  rw [commanded]
  rcases found : Line.statement? size front with place | ⟨_ | statement, rest⟩
  · obtain ⟨rest, rfl⟩ := point_of_statement?_error found
    exact .inl ⟨place, rfl, rfl, List.cons_ne_nil '.' rest⟩
  · rw [statement?_of_none found]
    exact .inr (.inl ⟨rfl, rfl⟩)
  · exact .inr (.inr ⟨statement, rest, rfl, rfl⟩)

/-- What the grammar reads from a line, and what is left behind it. -/
def reading (chars : List Char) : Content × List Char :=
  let body := Asm.skip chars
  let (label, front) := labelled body
  let (command, rest) := commanded body.length front
  ({ label, command }, rest)

/-- The label of a line. -/
lemma run_labelled (free : ∀ c ∈ chars, isBreak c = false) (settled : Asm.skip chars = chars) :
    (do let label ← optional label; skip; return label).run chars = some (labelled chars) := by
  have reads := run_label chars
  rw [run_bind, run_optional, Option.bind_some, labelled]
  rcases found : Line.label? chars with _ | ⟨name, rest⟩
  · rw [found] at reads
    rw [reads]
    change (skip >>= fun _ => pure none).run chars = _
    rw [run_bind, run_skip free, settled]
    rfl
  · rw [found] at reads
    have free' := stopsAt_label.free_rest free reads
    rw [reads]
    change (skip >>= fun _ => pure (some (String.ofList name))).run rest = _
    rw [run_bind, run_skip free']
    rfl

/-- The statement of a line. -/
lemma run_commanded (size : Nat) (free : ∀ c ∈ chars, isBreak c = false) :
    (optional statement).run chars = some (commanded size chars) := by
  rw [run_optional, run_statement size free, commanded]
  rcases Line.statement? size chars with _ | ⟨_ | statement, rest⟩ <;> rfl

/-- A line of its own. -/
lemma run_reading (free : ∀ c ∈ chars, isBreak c = false) :
    (do skip; line).run chars = some (reading chars) := by
  have settled := skip_skip chars
  have labelRead := run_labelled (free_skip free) settled
  have stops : StopsAt isBreak (do let label ← optional label; skip; return label) :=
    (stopsAt_optional stopsAt_label).bind fun _ => stopsAt_skip.bind fun _ => stopsAt_pure _
  have free' := stops.free_rest (free_skip free) labelRead
  have parts : line = (do
      let label ← (do let label ← optional label; skip; return label)
      let command ← optional statement
      return { label, command }) := by
    simp only [line, bind_assoc, pure_bind]
  rw [run_bind, run_skip free, Option.bind_some, parts, run_bind, labelRead, Option.bind_some,
    run_bind, run_commanded (Asm.skip chars).length free']
  rfl

/-- No line break is left behind a line. -/
lemma free_reading (free : ∀ c ∈ chars, isBreak c = false) :
    ∀ c ∈ (reading chars).2, isBreak c = false :=
  (stopsAt_skip.bind fun _ => stopsAt_line).free_rest free (run_reading free)

/-- **A line at the front of a text.** Whatever follows behind the line, the grammar reads the same
from it. -/
theorem run_line {tail : List Char} (free : ∀ c ∈ chars, isBreak c = false)
    (stopped : ∀ c ∈ tail.head?, isBreak c = true) :
    (do skip; line).run (chars ++ tail) =
      some ((reading chars).1, (reading chars).2 ++ tail) := by
  have stops : StopsAt isBreak (do skip; line) := stopsAt_skip.bind fun _ => stopsAt_line
  rw [stops.run_append free stopped, run_reading free]
  rfl

/-- **The assembler's lines.** A line can be read if the grammar leaves nothing but blanks and a
comment of it, and then it says what the grammar reads. -/
theorem content_parse (chars : List Char) :
    (Line.parse chars).toOption.map Line.content =
      if Asm.skip (reading chars).2 = [] then some (reading chars).1 else none := by
  rcases label : Line.label? (Asm.skip chars) with _ | ⟨name, behind⟩
  · rcases commanded_cases (Asm.skip chars).length (Asm.skip chars) with
      ⟨place, found, command, left⟩ | ⟨found, command⟩ | ⟨statement, rest, found, command⟩
    · simp only [Line.parse, reading, labelled, label, found, command, left, if_false]
      rfl
    · simp only [Line.parse, reading, labelled, label, found, command]
      rcases Asm.skip (Asm.skip chars) with _ | ⟨c, more⟩ <;> rfl
    · simp only [Line.parse, reading, labelled, label, found, command]
      rcases Asm.skip rest with _ | ⟨c, more⟩ <;> rfl
  · rcases commanded_cases (Asm.skip chars).length (Asm.skip behind) with
      ⟨place, found, command, left⟩ | ⟨found, command⟩ | ⟨statement, rest, found, command⟩
    · simp only [Line.parse, reading, labelled, label, found, command, left, if_false]
      rfl
    · simp only [Line.parse, reading, labelled, label, found, command]
      rcases Asm.skip (Asm.skip behind) with _ | ⟨c, more⟩ <;> rfl
    · simp only [Line.parse, reading, labelled, label, found, command]
      rcases Asm.skip rest with _ | ⟨c, more⟩ <;> rfl

/-! ## Texts -/

/-- Lines and the breaks in front of them as they come out of a text: a line feed behind a carriage
return belongs to the same break. -/
def ProperlySplit : List (LineBreak × List Char) → Prop
  | [] => True
  | (lineBreak, second) :: others =>
    (∀ c ∈ second, isBreak c = false) ∧
      (lineBreak = .cr → ∀ rest, joinLines second others ≠ '\n' :: rest) ∧ ProperlySplit others

/-- A text is split properly. -/
lemma properlySplit_splitLines (chars : List Char) :
    (∀ c ∈ (splitLines chars).1, isBreak c = false) ∧ ProperlySplit (splitLines chars).2 := by
  fun_induction splitLines chars with
  | case1 => exact ⟨fun _ hc => absurd hc List.not_mem_nil, trivial⟩
  | case2 rest line others split ih =>
    rw [split] at ih
    exact ⟨fun _ hc => absurd hc List.not_mem_nil, ih.1, by simp, ih.2⟩
  | case3 rest line others split ih =>
    rw [split] at ih
    exact ⟨fun _ hc => absurd hc List.not_mem_nil, ih.1, by simp, ih.2⟩
  | case4 rest single line others split ih =>
    have joined := joinLines_splitLines rest
    rw [split] at ih joined
    refine ⟨fun _ hc => absurd hc List.not_mem_nil, ih.1, fun _ behind found => ?_, ih.2⟩
    exact single behind (joined.symm.trans found)
  | case5 c rest noLf _ noCr line others split ih =>
    rw [split] at ih
    refine ⟨?_, ih.2⟩
    intro d hd
    rcases List.mem_cons.mp hd with rfl | hd
    · simp only [isBreak, Bool.or_eq_false_iff, decide_eq_false_iff_not]
      exact ⟨noLf, noCr⟩
    · exact ih.1 d hd

/-- Behind the first line comes a line break or the end. -/
lemma head?_joinLines (others : List (LineBreak × List Char)) :
    ∀ c ∈ (joinLines [] others).head?, isBreak c = true := by
  rcases others with _ | ⟨⟨_ | _ | _, second⟩, others⟩
  · exact fun c hc => absurd hc (Option.not_mem_none c)
  all_goals
    rintro c ⟨⟩
    rfl

/-- The first line, and everything behind it. -/
lemma joinLines_eq (first : List Char) (others : List (LineBreak × List Char)) :
    joinLines first others = first ++ joinLines [] others := rfl

/-- A line break, and everything behind it. -/
lemma joinLines_cons (lineBreak : LineBreak) (second : List Char)
    (others : List (LineBreak × List Char)) :
    joinLines [] ((lineBreak, second) :: others) =
      lineBreak.chars ++ joinLines second others := by
  simp [joinLines]

/-- A line break. -/
lemma run_newline {lineBreak : LineBreak} {chars : List Char}
    (proper : lineBreak = .cr → ∀ rest, chars ≠ '\n' :: rest) :
    newline.run (lineBreak.chars ++ chars) = some ((), chars) := by
  cases lineBreak with
  | lf => rfl
  | crlf => rfl
  | cr =>
    have noLf : (literal "\r\n").run ('\r' :: chars) = none := by
      refine run_literal_eq_none fun rest found => proper rfl rest ?_
      exact List.tail_eq_of_cons_eq found
    have cr : (literal "\r").run ('\r' :: chars) = some ((), chars) := rfl
    change newline.run ('\r' :: chars) = _
    rw [newline, run_orElse, run_orElse, noLf, cr]
    rfl

/-- No other character is a line break. -/
lemma run_newline_eq_none (h : ∀ c ∈ chars.head?, isBreak c = false) :
    newline.run chars = none := by
  cases chars with
  | nil => rfl
  | cons c rest =>
    rw [← Option.isNone_iff_eq_none, isNone_newline_cons, h c rfl]
    rfl

/-- Without a line break there is no further line. -/
lemma run_nextLine_eq_none (h : ∀ c ∈ chars.head?, isBreak c = false) :
    nextLine.run chars = none := by
  rw [nextLine, run_bind, run_newline_eq_none h]
  rfl

/-- Blanks and a comment behind a line. -/
lemma run_skip_join (free : ∀ c ∈ chars, isBreak c = false)
    (others : List (LineBreak × List Char)) :
    skip.run (joinLines chars others) = some ((), joinLines (Asm.skip chars) others) := by
  rw [joinLines_eq, stopsAt_skip.run_append free (head?_joinLines others), run_skip free]
  rfl

/-- A line break, and what is read from the line behind it. -/
lemma run_nextLine {lineBreak : LineBreak} {second : List Char}
    {others : List (LineBreak × List Char)} (split : ProperlySplit ((lineBreak, second) :: others)) :
    nextLine.run (joinLines [] ((lineBreak, second) :: others)) =
      some ((reading second).1, joinLines (reading second).2 others) := by
  obtain ⟨free, proper, -⟩ := split
  rw [joinLines_cons, nextLine, run_bind, run_newline proper, Option.bind_some, joinLines_eq,
    run_line free (head?_joinLines others)]
  rfl

/-- Further lines up to the end of the text, wherever the first of them begins. -/
def remaining : Peg (List Content) := do
  let others ← many (do skip; nextLine)
  skip
  atEnd
  return others

/-- There is no line break if something is left of the line before it, or if that is the last
one. -/
lemma head?_joinLines_skip (free : ∀ c ∈ chars, isBreak c = false)
    {others : List (LineBreak × List Char)} (h : Asm.skip chars ≠ [] ∨ others = []) :
    ∀ c ∈ (joinLines (Asm.skip chars) others).head?, isBreak c = false := by
  refine fun c hc => free_skip free c ?_
  rw [joinLines_eq] at hc
  rcases h with left | rfl
  · obtain ⟨d, rest, body⟩ := List.exists_cons_of_ne_nil left
    rw [body] at hc ⊢
    cases hc
    exact List.mem_cons_self
  · have joined : Asm.skip chars ++ joinLines [] [] = Asm.skip chars := List.append_nil _
    rw [joined] at hc
    exact List.mem_of_mem_head? hc

/-- There is no further line if the line before it is not read to its end, or if it is the last
one. -/
lemma run_skip_nextLine_eq_none (free : ∀ c ∈ chars, isBreak c = false)
    {others : List (LineBreak × List Char)} (h : Asm.skip chars ≠ [] ∨ others = []) :
    (do skip; nextLine).run (joinLines chars others) = none := by
  rw [run_bind, run_skip_join free, Option.bind_some]
  exact run_nextLine_eq_none (head?_joinLines_skip free h)

/-- Behind a line that is read to its end, the next one is read. -/
lemma run_skip_nextLine (free : ∀ c ∈ chars, isBreak c = false) {lineBreak : LineBreak}
    {second : List Char} {others : List (LineBreak × List Char)} (done : Asm.skip chars = [])
    (split : ProperlySplit ((lineBreak, second) :: others)) :
    (do skip; nextLine).run (joinLines chars ((lineBreak, second) :: others)) =
      some ((reading second).1, joinLines (reading second).2 others) := by
  rw [run_bind, run_skip_join free, Option.bind_some, done, run_nextLine split]

/-- Less is left behind a further line than there is in front of it. -/
lemma length_joinLines_reading_lt {second : List Char} (free : ∀ c ∈ second, isBreak c = false)
    (chars : List Char) (lineBreak : LineBreak) (others : List (LineBreak × List Char)) :
    (joinLines (reading second).2 others).length <
      (joinLines chars ((lineBreak, second) :: others)).length := by
  have suffix : (reading second).2 <:+ second :=
    (stopsAt_skip.bind fun _ => stopsAt_line).suffix (run_reading free)
  have shorter := suffix.length_le
  have breaks : 0 < lineBreak.chars.length := by
    cases lineBreak <;> exact Nat.zero_lt_succ _
  rw [joinLines_eq chars, joinLines_cons, joinLines_eq second, joinLines_eq (reading second).2]
  simp only [List.length_append]
  omega

/-- Without a further line, the text has to end. -/
lemma run_remaining_of_none {others : List (LineBreak × List Char)}
    (free : ∀ c ∈ chars, isBreak c = false)
    (h : (do skip; nextLine).run (joinLines chars others) = none) :
    (remaining.run (joinLines chars others)).map Prod.fst =
      if (joinLines (Asm.skip chars) others).isEmpty then some [] else none := by
  rw [remaining, run_bind, run_many_of_none h, Option.bind_some, run_bind, run_skip_join free,
    Option.bind_some, run_bind]
  rcases joinLines (Asm.skip chars) others with _ | ⟨c, rest⟩ <;> rfl

/-- One further line in front of others. -/
lemma run_remaining_of_some {rest : List Char} {content : Content}
    (h : (do skip; nextLine).run chars = some (content, rest)) (shorter : rest.length < chars.length) :
    (remaining.run chars).map Prod.fst =
      ((remaining.run rest).map Prod.fst).map fun contents => content :: contents := by
  have unrolled : remaining.run chars =
      (remaining.run rest).map fun r => (content :: r.1, r.2) := by
    rw [remaining, run_bind, run_bind, run_many_of_some h shorter]
    rcases (many (do skip; nextLine)).run rest with _ | ⟨contents, behind⟩
    · rfl
    · simp only [Option.map_some, Option.bind_some, run_bind]
      rcases skip.run behind with _ | ⟨_, left⟩
      · rfl
      · simp only [Option.bind_some]
        rcases atEnd.run left with _ | ⟨_, left⟩ <;> rfl
  rw [unrolled, Option.map_map, Option.map_map]
  rfl

/-- **Further lines.** They are read if the line before them and each of them ends where its text
ends. -/
theorem run_remaining {others : List (LineBreak × List Char)}
    (free : ∀ c ∈ chars, isBreak c = false) (split : ProperlySplit others) :
    (remaining.run (joinLines chars others)).map Prod.fst =
      if Asm.skip chars = [] then
        (others.map Prod.snd).mapM fun line => (Line.parse line).toOption.map Line.content
      else none := by
  induction others generalizing chars with
  | nil =>
    have joined : joinLines (Asm.skip chars) [] = Asm.skip chars := List.append_nil _
    rw [run_remaining_of_none free (run_skip_nextLine_eq_none free (.inr rfl)), joined]
    rcases Asm.skip chars with _ | ⟨c, rest⟩ <;> rfl
  | cons next others ih =>
    obtain ⟨lineBreak, second⟩ := next
    by_cases done : Asm.skip chars = []
    -- the next line is read up to somewhere, and the others decide whether that was its end
    · rw [run_remaining_of_some (run_skip_nextLine free done split)
          (length_joinLines_reading_lt split.1 chars lineBreak others),
        ih (free_reading split.1) split.2.2, if_pos done, List.map_cons, List.mapM_cons,
        content_parse second]
      by_cases ended : Asm.skip (reading second).2 = []
      · rw [if_pos ended, if_pos ended, Option.map_eq_bind]
        rfl
      · rw [if_neg ended, if_neg ended]
        rfl
    · have more : ¬(joinLines (Asm.skip chars) ((lineBreak, second) :: others)).isEmpty = true := by
        rw [joinLines_eq, List.isEmpty_iff, List.append_eq_nil_iff]
        exact fun h => done h.1
      rw [run_remaining_of_none free (run_skip_nextLine_eq_none free (.inl done)), if_neg more,
        if_neg done]

/-- It does not matter that the blanks in front of the first further line are skipped earlier. -/
lemma run_nextLines {others : List (LineBreak × List Char)}
    (free : ∀ c ∈ chars, isBreak c = false) (split : ProperlySplit others) :
    (do skip; let others ← nextLines; skip; atEnd; return others).run (joinLines chars others) =
      remaining.run (joinLines chars others) := by
  have again : skip.run (joinLines (Asm.skip chars) others) =
      some ((), joinLines (Asm.skip chars) others) := by
    rw [run_skip_join (free_skip free), skip_skip]
  have next : (do skip; nextLine).run (joinLines chars others) =
      nextLine.run (joinLines (Asm.skip chars) others) := by
    rw [run_bind, run_skip_join free, Option.bind_some]
  rw [run_bind, run_skip_join free, Option.bind_some, run_bind, nextLines, run_orElse, run_bind,
    remaining, run_bind]
  by_cases more : Asm.skip chars ≠ [] ∨ others = []
  -- without a further line, what is left to skip is skipped once here and twice there
  · have none' := run_skip_nextLine_eq_none free more
    rw [← next, none', run_many_of_none none', Option.bind_some, run_bind, run_skip_join free]
    change (skip >>= fun _ => _).run _ = _
    rw [run_bind, again]
  · rcases others with _ | ⟨⟨lineBreak, second⟩, others⟩
    · exact absurd (.inr rfl) more
    · have done : Asm.skip chars = [] := by
        by_contra left
        exact more (.inl left)
      have some' := run_skip_nextLine free done split
      rw [← next, some', run_many_of_some some'
        (length_joinLines_reading_lt split.1 chars lineBreak others), Option.bind_some, run_bind]
      obtain ⟨⟨contents, rest⟩, found⟩ :=
        exists_run_many (do skip; nextLine) (joinLines (reading second).2 others)
      rw [found]
      rfl

/-- The lines of a text as the assembler takes them. -/
lemma contents_parseLinesFrom (offset number : Nat) (first : List Char)
    (others : List (LineBreak × List Char)) :
    (parseLinesFrom offset number first others).toOption.map (List.map (·.line.content)) =
      (first :: others.map Prod.snd).mapM fun line =>
        (Line.parse line).toOption.map Line.content := by
  induction others generalizing offset number first with
  | nil =>
    rw [parseLinesFrom, List.map_nil, List.mapM_cons]
    rcases Line.parse first with _ | line <;> rfl
  | cons next others ih =>
    obtain ⟨lineBreak, second⟩ := next
    rw [parseLinesFrom, List.mapM_cons, List.map_cons,
      ← ih (offset + first.length + lineBreak.chars.length) (number + lineBreak.lines) second]
    rcases Line.parse first with _ | line
    · rfl
    · dsimp only
      rcases parseLinesFrom (offset + first.length + lineBreak.chars.length)
        (number + lineBreak.lines) second others with _ | lines <;> rfl

/-- A text is its first line, and further lines behind it. -/
lemma run_text {first : List Char} {others : List (LineBreak × List Char)}
    (free : ∀ c ∈ first, isBreak c = false) (split : ProperlySplit others) :
    (text.run (joinLines first others)).map Prod.fst =
      ((remaining.run (joinLines (reading first).2 others)).map Prod.fst).map
        fun contents => (reading first).1 :: contents := by
  have parts : text = (do
      let first ← (do skip; line)
      let others ← (do skip; let others ← nextLines; skip; atEnd; return others)
      return first :: others) := by
    simp only [text, bind_assoc, pure_bind]
  rw [parts, run_bind, joinLines_eq, run_line free (head?_joinLines others), Option.bind_some,
    ← joinLines_eq, run_bind, run_nextLines (free_reading free) split]
  rcases remaining.run (joinLines (reading first).2 others) with _ | ⟨contents, rest⟩ <;> rfl

/-- **The grammar.** The assembler reads the texts that fit the grammar, and it reads from them what
the grammar says. -/
theorem parse_eq (chars : List Char) :
    parse chars = (parseSource chars).toOption.map (List.map (·.line.content)) := by
  obtain ⟨free, split⟩ := properlySplit_splitLines chars
  have whole := run_text free split
  rw [joinLines_splitLines, run_remaining (free_reading free) split] at whole
  have lines := contents_parseLinesFrom 0 1 (splitLines chars).1 (splitLines chars).2
  rw [List.mapM_cons, content_parse] at lines
  have source : (parseSource chars).toOption.map (List.map (·.line.content)) =
      (parseLinesFrom 0 1 (splitLines chars).1 (splitLines chars).2).toOption.map
        (List.map (·.line.content)) := by
    rw [parseSource]
    dsimp only
    rcases parseLinesFrom 0 1 (splitLines chars).1 (splitLines chars).2 with _ | lines <;> rfl
  rw [parse, whole, source, lines]
  by_cases ended : Asm.skip (reading (splitLines chars).1).2 = []
  · rw [if_pos ended, if_pos ended, Option.map_eq_bind]
    rfl
  · rw [if_neg ended, if_neg ended]
    rfl

example : parse "loop: br loop // again\r .pos 0x10".toList =
    some [⟨some "loop", some (.inst "br" (some (.name "loop")))⟩,
      ⟨none, some (.position ⟨['0', 'x'], ['1', '0']⟩)⟩] := by
  rw [parse_eq]
  decide +kernel

end Hex8.Asm.Grammar
