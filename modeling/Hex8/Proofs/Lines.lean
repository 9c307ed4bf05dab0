import Hex8.Proofs.ReadText
import Mathlib.Data.List.Forall2

set_option relaxedAutoImplicit false
set_option autoImplicit false

/-!
# Texts made of given lines

A text can be put together from lines. If none of them contains a line break, the same lines come
out of the text again, and the text can be read if each line can be read on its own.

## Main definitions

* `Hex8.Asm.textLines` — the lines of a text.

## Main results

* `Hex8.Asm.splitLines_joinLines` — lines come out of a text as they have gone in.
* `Hex8.Asm.textLines_intercalate_chars` — so do lines with the same break between them.
* `Hex8.Asm.exists_parseSource_iff`, `Hex8.Asm.exists_parseSource_iff_forall` — a text is read line
  by line.
-/

namespace Hex8.Asm

open Grammar

/-- The lines of a text, without the breaks between them. -/
def textLines (chars : List Char) : List (List Char) :=
  (splitLines chars).1 :: (splitLines chars).2.map Prod.snd

/-- Whether there is a line break can be computed. -/
lemma isBreak_of_any {chars : List Char} (h : chars.any isBreak = false) :
    ∀ c ∈ chars, isBreak c = false :=
  fun c inside => Bool.eq_false_iff.mpr (List.any_eq_false.mp h c inside)

/-- A text has at least one line. -/
lemma textLines_ne_nil (chars : List Char) : textLines chars ≠ [] :=
  List.cons_ne_nil _ _

/-- No line of a text contains a line break. -/
lemma isBreak_of_mem_textLines {chars line : List Char} (inside : line ∈ textLines chars) :
    ∀ c ∈ line, isBreak c = false := by
  obtain ⟨noLf, noCr⟩ := splitLines_no_break chars line inside
  intro c hc
  rw [isBreak, Bool.or_eq_false_iff, decide_eq_false_iff_not, decide_eq_false_iff_not]
  exact ⟨fun lf => noLf (lf ▸ hc), fun cr => noCr (cr ▸ hc)⟩

/-! ## Splitting -/

/-- A character that is no line break belongs to the first line. -/
lemma splitLines_cons {c : Char} (h : isBreak c = false) (rest : List Char) :
    splitLines (c :: rest) = (c :: (splitLines rest).1, (splitLines rest).2) := by
  rw [isBreak, Bool.or_eq_false_iff, decide_eq_false_iff_not, decide_eq_false_iff_not] at h
  rw [splitLines]
  · exact h.1
  · exact fun _ cr => absurd cr h.2
  · exact h.2

/-- A line without line breaks belongs to the first line. -/
lemma splitLines_append {first : List Char} (free : ∀ c ∈ first, isBreak c = false)
    (rest : List Char) :
    splitLines (first ++ rest) = (first ++ (splitLines rest).1, (splitLines rest).2) := by
  induction first with
  | nil => rfl
  | cons c first ih =>
    rw [List.forall_mem_cons] at free
    rw [List.cons_append, splitLines_cons free.1, ih free.2]
    rfl

/-- A line break ends the first line. -/
lemma splitLines_break {lineBreak : LineBreak} {rest : List Char}
    (proper : lineBreak = .cr → ∀ others, rest ≠ '\n' :: others) :
    splitLines (lineBreak.chars ++ rest) =
      ([], (lineBreak, (splitLines rest).1) :: (splitLines rest).2) := by
  cases lineBreak with
  | lf => rfl
  | crlf => rfl
  | cr =>
    change splitLines ('\r' :: rest) = _
    rw [splitLines]
    exact proper rfl

/-- **Lines come out of a text as they have gone in.** -/
theorem splitLines_joinLines {first : List Char} {others : List (LineBreak × List Char)}
    (free : ∀ c ∈ first, isBreak c = false) (split : ProperlySplit others) :
    splitLines (joinLines first others) = (first, others) := by
  induction others generalizing first with
  | nil => rw [joinLines_eq, splitLines_append free]; simp [joinLines, splitLines]
  | cons next others ih =>
    obtain ⟨lineBreak, second⟩ := next
    obtain ⟨free', proper, split'⟩ := split
    rw [joinLines_eq, splitLines_append free, joinLines_cons, splitLines_break proper,
      ih free' split', List.append_nil]

/-- Without line breaks there is one line. -/
lemma splitLines_of_free {line : List Char} (free : ∀ c ∈ line, isBreak c = false) :
    splitLines line = (line, []) := by
  have joined := @splitLines_joinLines line [] free trivial
  rwa [joinLines, List.flatMap_nil, List.append_nil] at joined

/-- A line break ends the first line, and the other lines are those of what is behind it. -/
lemma textLines_break {first rest : List Char} {lineBreak : LineBreak}
    (free : ∀ c ∈ first, isBreak c = false)
    (proper : lineBreak = .cr → ∀ others, rest ≠ '\n' :: others) :
    textLines (first ++ (lineBreak.chars ++ rest)) = first :: textLines rest := by
  rw [textLines, splitLines_append free, splitLines_break proper, List.append_nil]
  rfl

/-- Lines with the same break between them. -/
lemma intercalate_eq_joinLines (lineBreak : LineBreak) (first : List Char)
    (others : List (List Char)) :
    lineBreak.chars.intercalate (first :: others) = joinLines first (others.map (lineBreak, ·)) := by
  induction others generalizing first with
  | nil => simp [joinLines]
  | cons second others ih =>
    rw [List.intercalate_cons_cons, ih, List.map_cons, joinLines_eq first, joinLines_cons,
      List.append_assoc]

/-- A last line comes behind one more line feed. -/
lemma intercalate_concat {lines : List (List Char)} (nonempty : lines ≠ []) (last : List Char) :
    ['\n'].intercalate (lines ++ [last]) = ['\n'].intercalate lines ++ '\n' :: last := by
  obtain ⟨first, others, rfl⟩ := List.exists_cons_of_ne_nil nonempty
  have joined := intercalate_eq_joinLines .lf first
  rw [LineBreak.chars] at joined
  rw [List.cons_append, joined, joined, List.map_append]
  simp [joinLines, LineBreak.chars]

/-- The same break between all lines is a proper one: a carriage return alone has no line feed
behind it. -/
lemma properlySplit_map (lineBreak : LineBreak) {lines : List (List Char)}
    (free : ∀ line ∈ lines, ∀ c ∈ line, isBreak c = false) :
    ProperlySplit (lines.map (lineBreak, ·)) := by
  induction lines with
  | nil => trivial
  | cons line lines ih =>
    rw [List.forall_mem_cons] at free
    refine ⟨free.1, ?_, ih free.2⟩
    rintro rfl rest joined
    rw [joinLines_eq] at joined
    rcases line with _ | ⟨c, line⟩
    · rcases lines with _ | ⟨second, others⟩
      · cases joined
      · rw [List.map_cons, joinLines_cons] at joined
        cases (List.cons.inj joined).1
    · have noBreak := free.1 c List.mem_cons_self
      rw [(List.cons.inj joined).1] at noBreak
      cases noBreak

/-- **Lines with the same break between them** come out of their text. -/
theorem textLines_intercalate_chars (lineBreak : LineBreak) {lines : List (List Char)}
    (nonempty : lines ≠ []) (free : ∀ line ∈ lines, ∀ c ∈ line, isBreak c = false) :
    textLines (lineBreak.chars.intercalate lines) = lines := by
  obtain ⟨first, others, rfl⟩ := List.exists_cons_of_ne_nil nonempty
  rw [List.forall_mem_cons] at free
  have split := splitLines_joinLines free.1 (properlySplit_map lineBreak free.2)
  rw [textLines, intercalate_eq_joinLines, split, List.map_map]
  exact congrArg (first :: ·) (List.map_id' others)

/-- **Lines with line feeds between them** come out of their text. -/
theorem textLines_intercalate {lines : List (List Char)} (nonempty : lines ≠ [])
    (free : ∀ line ∈ lines, ∀ c ∈ line, isBreak c = false) :
    textLines (['\n'].intercalate lines) = lines :=
  textLines_intercalate_chars .lf nonempty free

/-! ## Reading -/

/-- Lines are read one by one. -/
lemma exists_parseLinesFrom_iff (offset number : Nat) (first : List Char)
    (others : List (LineBreak × List Char)) (lines : List Line) :
    (∃ numbered, parseLinesFrom offset number first others = .ok numbered ∧
        numbered.map (·.line) = lines) ↔
      (first :: others.map Prod.snd).map Line.parse = lines.map .ok := by
  induction others generalizing offset number first lines with
  | nil =>
    rw [parseLinesFrom]
    rcases parsed : Line.parse first with fault | line <;>
      rcases lines with _ | ⟨line', _ | ⟨_, _⟩⟩ <;> simp [parsed]
  | cons next others ih =>
    rw [parseLinesFrom, List.map_cons, List.map_cons]
    rcases parsed : Line.parse first with fault | line
    · rcases lines with _ | ⟨line', lines⟩ <;> simp
    · constructor
      · rintro ⟨numbered, read, rfl⟩
        dsimp only at read
        split at read
        · cases read
        · next others' found =>
          cases read
          exact congrArg (Except.ok line :: ·) ((ih _ _ _ _).mp ⟨others', found, rfl⟩)
      · intro same
        rcases lines with _ | ⟨line', lines⟩
        · cases same
        · obtain ⟨⟨⟩, behind⟩ := List.cons.inj same
          obtain ⟨numbered, found, rfl⟩ := (ih (offset + first.length + next.1.chars.length)
            (number + next.1.lines) next.2 lines).mpr behind
          simp only [found]
          exact ⟨_, rfl, rfl⟩

/-- **A text is read line by line.** -/
theorem exists_parseSource_iff (chars : List Char) (lines : List Line) :
    (∃ numbered, parseSource chars = .ok numbered ∧ numbered.map (·.line) = lines) ↔
      (textLines chars).map Line.parse = lines.map .ok := by
  rw [textLines, ← exists_parseLinesFrom_iff 0 1, parseSource]
  dsimp only
  rcases parseLinesFrom 0 1 (splitLines chars).1 (splitLines chars).2 with fault | numbered
  · constructor
    · rintro ⟨_, h, -⟩
      cases h
    · rintro ⟨_, h, -⟩
      cases h
  · simp only [Except.ok.injEq]

/-- **A text can be read if each of its lines can.** -/
theorem exists_parseSource_iff_forall (chars : List Char) :
    (∃ numbered, parseSource chars = .ok numbered) ↔
      ∀ line ∈ textLines chars, ∃ parsed, Line.parse line = .ok parsed := by
  have readable : (∃ lines : List Line, (textLines chars).map Line.parse = lines.map .ok) ↔
      ∀ line ∈ textLines chars, ∃ parsed, Line.parse line = .ok parsed := by
    induction textLines chars with
    | nil => simp
    | cons line lines ih =>
      rw [List.forall_mem_cons, ← ih]
      constructor
      · rintro ⟨_ | ⟨parsed, others⟩, same⟩
        · cases same
        · obtain ⟨read, behind⟩ := List.cons.inj same
          exact ⟨⟨parsed, read⟩, others, behind⟩
      · rintro ⟨⟨parsed, read⟩, others, behind⟩
        exact ⟨parsed :: others, by rw [List.map_cons, List.map_cons, read, behind]⟩
  rw [← readable]
  constructor
  · rintro ⟨numbered, read⟩
    exact ⟨_, (exists_parseSource_iff chars _).mp ⟨numbered, read, rfl⟩⟩
  · rintro ⟨lines, same⟩
    obtain ⟨numbered, read, -⟩ := (exists_parseSource_iff chars lines).mpr same
    exact ⟨numbered, read⟩

/-- Each line that has been read was a line of the text. -/
lemma exists_mem_textLines {chars : List Char} {numbered : List NumberedLine}
    (read : parseSource chars = .ok numbered) {line : NumberedLine} (inside : line ∈ numbered) :
    ∃ whole ∈ textLines chars, Line.parse whole = .ok line.line := by
  have same := (exists_parseSource_iff chars _).mp ⟨numbered, read, rfl⟩
  have parsed : Except.ok line.line ∈ (numbered.map (·.line)).map (Except.ok (ε := Fault)) :=
    List.mem_map_of_mem (List.mem_map_of_mem inside)
  rw [← same] at parsed
  exact List.mem_map.mp parsed

/-- What is read from a text is read from its lines, one after the other. -/
theorem forall₂_parse {chars : List Char} {numbered : List NumberedLine}
    (read : parseSource chars = .ok numbered) :
    List.Forall₂ (fun line chars => Line.parse chars = .ok line.line) numbered
      (textLines chars) := by
  have same := (exists_parseSource_iff chars _).mp ⟨numbered, read, rfl⟩
  have pairs : List.Forall₂ Eq ((textLines chars).map Line.parse)
      ((numbered.map (·.line)).map .ok) := by
    rw [same]
    exact List.forall₂_refl _
  rw [List.forall₂_map_left_iff, List.forall₂_map_right_iff, List.forall₂_map_right_iff] at pairs
  exact pairs.flip

end Hex8.Asm
