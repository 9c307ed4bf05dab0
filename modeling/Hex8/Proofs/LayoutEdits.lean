import Mathlib.Logic.Relation
import Mathlib.Tactic.Lemma
import Hex8.Proofs.Caseless
import Hex8.Proofs.Lines
import Hex8.Proofs.Margins
import Hex8.Proofs.Names

set_option relaxedAutoImplicit false
set_option autoImplicit false

/-!
# Layout does not matter

A line may be indented, followed by blanks or by a comment, and written with its mnemonic in other
letters, in any combination and any number of times. Its text is another one then, but it says the
same. Neither does it matter which kind of line breaks there are. So a text that can be assembled
can still be assembled after any such edits, to the same program.

## Main definitions

* `Hex8.Asm.Leads` — what may stand in front of a mnemonic.
* `Hex8.Asm.Edit` — one edit of one line.

## Main results

* `Hex8.Asm.Line.exists_parse_recase` — a mnemonic in other letters.
* `Hex8.Asm.Edit.exists_parse` — one edit does not change what a line says but for the case of its
  mnemonic.
* `Hex8.Asm.assemble_of_edits` — a text after any edits of its layout.

## Design

An edit of a mnemonic is described by what can be seen in the line: a name behind blanks, or behind a
label, that is no label itself. Any edits one after another are the reflexive and transitive closure
of one edit, so that a comment may be indented and then be followed by blanks.
-/

namespace Hex8.Asm

open Grammar (isBreak labelled)

/-! ## Mnemonics in other letters -/

/-- What is a name is one in other letters, too. -/
lemma isName_of_map_toUpper_eq {name name' : List Char}
    (same : name'.map Char.toUpper = name.map Char.toUpper) : isName name' = isName name := by
  have upper (chars : List Char) : isName (chars.map Char.toUpper) = isName chars := by
    cases chars with
    | nil => rfl
    | cons c rest =>
      simp only [List.map_cons, isName, startsName_toUpper, List.all_map, Function.comp_def,
        continuesName_toUpper]
  rw [← upper name', same, upper]

/-- What may stand in front of a mnemonic: blanks, or a label with blanks around it. -/
inductive Leads : List Char → Prop
  /-- Nothing but blanks. -/
  | blanks {front : List Char} (blank : ∀ c ∈ front, isBlank c = true) : Leads front
  /-- A label. -/
  | label {front name behind : List Char} (blank : ∀ c ∈ front, isBlank c = true)
      (named : isName name = true) (blank' : ∀ c ∈ behind, isBlank c = true) :
      Leads (front ++ (name ++ ':' :: behind))

/-- What stands in front of a mnemonic is read in the same way whatever the mnemonic is. -/
lemma Leads.exists_labelled {front : List Char} (leads : Leads front) :
    ∃ label body, ∀ chars, skip chars = chars → Line.label? chars = none →
      skip (front ++ chars) = body ++ chars ∧ labelled (body ++ chars) = (label, chars) := by
  cases leads with
  | blanks blank =>
    refine ⟨none, [], fun chars settled noLabel => ⟨?_, ?_⟩⟩
    · rw [skip_blanks_append blank, settled]
      rfl
    · rw [List.nil_append, labelled, noLabel]
  | @label front name behind blank named blank' =>
    refine ⟨some (String.ofList name), name ++ ':' :: behind, fun chars settled _ => ⟨?_, ?_⟩⟩
    · rw [List.append_assoc, skip_blanks_append blank, List.append_assoc, skip_of_isName named]
    · have stop : ∀ c ∈ (':' :: (behind ++ chars)).head?, continuesName c = false := by
        rintro c ⟨⟩
        decide
      rw [List.append_assoc, List.cons_append, labelled, Line.label?, name?_of_isName named stop]
      show (some (String.ofList name), skip (behind ++ chars)) = _
      rw [skip_blanks_append blank', settled]

namespace Line

variable {mnemonic rest : List Char}

/-- **A mnemonic in other letters.** The line says the same but for these letters.

**Proof sketch.** What is in front of the mnemonic is read in the same way
(`Hex8.Asm.Leads.exists_labelled`), and so is what is behind it, since the places in a line are
differences of lengths. -/
theorem exists_parse_recase {front mnemonic' : List Char} {line : Line} (leads : Leads front)
    (named : isName mnemonic = true) (stop : ∀ c ∈ rest.head?, continuesName c = false ∧ c ≠ ':')
    (same : mnemonic'.map Char.toUpper = mnemonic.map Char.toUpper)
    (parsed : parse (front ++ (mnemonic ++ rest)) = .ok line) :
    ∃ line', parse (front ++ (mnemonic' ++ rest)) = .ok line' ∧
      line'.content.upper = line.content.upper := by
  have named' : isName mnemonic' = true := by rw [isName_of_map_toUpper_eq same, named]
  have stop' : ∀ c ∈ rest.head?, continuesName c = false := fun c head => (stop c head).1
  have length : mnemonic'.length = mnemonic.length := by
    simpa using congrArg List.length same
  have upper : upperName (String.ofList mnemonic') = upperName (String.ofList mnemonic) := by
    rw [upperName, upperName, String.toList_ofList, String.toList_ofList, same]
  obtain ⟨label, body, reads⟩ := leads.exists_labelled
  obtain ⟨skipped, read⟩ := reads _ (skip_of_isName named rest) (label?_of_isName named stop)
  obtain ⟨skipped', read'⟩ := reads _ (skip_of_isName named' rest) (label?_of_isName named' stop)
  have size : (body ++ (mnemonic' ++ rest)).length = (body ++ (mnemonic ++ rest)).length := by
    simp only [List.length_append, length]
  obtain ⟨statement, behind, found, ends, said⟩ := exists_parse_iff.mp ⟨line, parsed, rfl⟩
  rw [skipped, read] at found said
  rw [statement?_of_isName _ named stop'] at found
  cases found
  rw [← size] at ends said
  have found' := statement?_of_isName (body ++ (mnemonic' ++ rest)).length named' stop'
  obtain ⟨line', parsed', said'⟩ : ∃ line', parse (front ++ (mnemonic' ++ rest)) = .ok line' ∧
      line'.content = ⟨label, some (.inst (String.ofList mnemonic')
        ((operand? (body ++ (mnemonic' ++ rest)).length (skip rest)).1.map Located.val))⟩ := by
    rw [exists_parse_iff, skipped', read']
    exact ⟨_, _, found', ends, rfl⟩
  refine ⟨line', parsed', ?_⟩
  rw [said', said]
  simp only [Content.upper, Option.map_some, Statement.command, Command.upper, upper]

end Line

/-! ## Edits -/

/-- One edit of the layout of one line. -/
inductive Edit : List Char → List Char → Prop
  /-- A blank in front of the line. -/
  | indent {line : List Char} {c : Char} (blank : isBlank c = true) : Edit line (c :: line)
  /-- A blank at the end of the line. -/
  | trail {line : List Char} {c : Char} (blank : isBlank c = true) : Edit line (line ++ [c])
  /-- A comment at the end of the line. -/
  | comment {line tail : List Char} (starts : startsComment tail = true)
      (free : ∀ c ∈ tail, isBreak c = false) : Edit line (line ++ tail)
  /-- The mnemonic of the line in other letters. -/
  | recase {front mnemonic mnemonic' rest : List Char} (leads : Leads front)
      (named : isName mnemonic = true) (stop : ∀ c ∈ rest.head?, continuesName c = false ∧ c ≠ ':')
      (same : mnemonic'.map Char.toUpper = mnemonic.map Char.toUpper) :
      Edit (front ++ (mnemonic ++ rest)) (front ++ (mnemonic' ++ rest))

namespace Edit

variable {chars chars' : List Char}

/-- What is added at the end of a line is skipped. -/
lemma skip_eq_nil_of_startsComment {tail : List Char} (starts : startsComment tail = true) :
    skip tail = [] := by
  cases tail with
  | nil => rfl
  | cons c rest =>
    rw [skip]
    split
    · next blank =>
      rcases eq_or_eq_of_isBlank blank with rfl | rfl <;> simp [startsComment] at starts
    · rfl

/-- **One edit does not change what a line says** but for the case of its mnemonic. -/
theorem exists_parse (edit : Edit chars chars') {line : Line} (parsed : Line.parse chars = .ok line) :
    ∃ line', Line.parse chars' = .ok line' ∧ line'.content.upper = line.content.upper := by
  cases edit with
  | @indent _ c blank =>
    have blanks : ∀ d ∈ [c], isBlank d = true := by simpa using blank
    obtain ⟨line', parsed', same⟩ := Line.exists_parse_blanks blanks parsed
    exact ⟨line', parsed', congrArg Content.upper same⟩
  | @trail _ c blank =>
    have skipped : skip [c] = [] := by rw [skip, if_pos blank, skip]
    obtain ⟨line', parsed', same⟩ := Line.exists_parse_append skipped parsed
    exact ⟨line', parsed', congrArg Content.upper same⟩
  | comment starts _ =>
    obtain ⟨line', parsed', same⟩ :=
      Line.exists_parse_append (skip_eq_nil_of_startsComment starts) parsed
    exact ⟨line', parsed', congrArg Content.upper same⟩
  | recase leads named stop same => exact Line.exists_parse_recase leads named stop same parsed

/-- Any edits do not change what a line says but for the case of its mnemonic. -/
lemma exists_parse_of_edits (edits : Relation.ReflTransGen Edit chars chars') {line : Line}
    (parsed : Line.parse chars = .ok line) :
    ∃ line', Line.parse chars' = .ok line' ∧ line'.content.upper = line.content.upper := by
  induction edits with
  | refl => exact ⟨line, parsed, rfl⟩
  | tail _ edit ih =>
    obtain ⟨line', parsed', same⟩ := ih
    obtain ⟨line'', parsed'', same'⟩ := edit.exists_parse parsed'
    exact ⟨line'', parsed'', same'.trans same⟩

/-- No blank is a line break. -/
lemma isBreak_of_isBlank {c : Char} (blank : isBlank c = true) : isBreak c = false := by
  rcases eq_or_eq_of_isBlank blank with rfl | rfl <;> rfl

/-- One edit does not break a line. -/
lemma free (edit : Edit chars chars') (whole : ∀ c ∈ chars, isBreak c = false) :
    ∀ c ∈ chars', isBreak c = false := by
  cases edit with
  | indent blank =>
    rw [List.forall_mem_cons]
    exact ⟨isBreak_of_isBlank blank, whole⟩
  | trail blank =>
    rw [List.forall_mem_append, List.forall_mem_singleton]
    exact ⟨whole, isBreak_of_isBlank blank⟩
  | comment _ free =>
    rw [List.forall_mem_append]
    exact ⟨whole, free⟩
  | recase leads named stop same =>
    rw [List.forall_mem_append, List.forall_mem_append] at whole ⊢
    exact ⟨whole.1, isBreak_of_isName (by rw [isName_of_map_toUpper_eq same, named]), whole.2.2⟩

/-- Any edits do not break a line. -/
lemma free_of_edits (edits : Relation.ReflTransGen Edit chars chars')
    (whole : ∀ c ∈ chars, isBreak c = false) : ∀ c ∈ chars', isBreak c = false := by
  induction edits with
  | refl => exact whole
  | tail _ edit ih => exact edit.free ih

end Edit

/-! ## Texts -/

/-- Edits of several lines leave what the lines say but for the case of their mnemonics. -/
lemma exists_parse_lines {chars edited : List (List Char)}
    (edits : List.Forall₂ (Relation.ReflTransGen Edit) chars edited) {lines : List Line}
    (parsed : chars.map Line.parse = lines.map .ok) :
    ∃ lines' : List Line, edited.map Line.parse = lines'.map .ok ∧
      lines'.map (·.content.upper) = lines.map (·.content.upper) := by
  induction edits generalizing lines with
  | nil =>
    rw [List.map_nil, eq_comm, List.map_eq_nil_iff] at parsed
    exact ⟨[], rfl, by rw [parsed]⟩
  | cons edits _ ih =>
    rcases lines with _ | ⟨line, lines⟩
    · cases parsed
    · obtain ⟨first, others⟩ := List.cons.inj parsed
      obtain ⟨line', first', same⟩ := Edit.exists_parse_of_edits edits first
      obtain ⟨lines', others', same'⟩ := ih others
      refine ⟨line' :: lines', ?_, ?_⟩
      · rw [List.map_cons, List.map_cons, first', others']
      · rw [List.map_cons, List.map_cons, same, same']

/-- The edited lines come out of a text that they have been joined to. -/
lemma textLines_of_edits {chars : List Char} {edited : List (List Char)}
    (edits : List.Forall₂ (Relation.ReflTransGen Edit) (textLines chars) edited)
    (lineBreak : LineBreak) : textLines (lineBreak.chars.intercalate edited) = edited := by
  apply textLines_intercalate_chars
  · rintro rfl
    exact textLines_ne_nil chars (List.forall₂_nil_right_iff.mp edits)
  · intro line inside
    obtain ⟨i, bound, rfl⟩ := List.mem_iff_getElem.mp inside
    have bound' : i < (textLines chars).length := by rwa [edits.length_eq]
    have whole := isBreak_of_mem_textLines (List.getElem_mem bound')
    exact Edit.free_of_edits (edits.get bound' bound) whole

/-- **Layout does not matter.** If a text can be assembled, so can every text whose lines are those
of the first one after any edits of their layout, whether they have been joined with line feeds, with
carriage returns and line feeds, with carriage returns alone, or with any mixture of these. The
program is the same, and so are the label, the instruction, the word, the address and the byte for
the data memory of each line.

**Proof sketch.** No edit changes what a line says but for the case of its mnemonic
(`Hex8.Asm.Edit.exists_parse`), so by induction on the edits none of them together does. The text is
read line by line, and what it is assembled to does not depend on the case of mnemonics
(`Hex8.Asm.assemble_of_upper_eq`). -/
theorem assemble_of_edits {text text' : String} {assembly : Assembly} {edited : List (List Char)}
    (assembled : assemble text = .ok assembly)
    (edits : List.Forall₂ (Relation.ReflTransGen Edit) (textLines text.toList) edited)
    (rejoined : (∃ lineBreak : LineBreak, text'.toList = lineBreak.chars.intercalate edited) ∨
      textLines text'.toList = edited) :
    ∃ again, assemble text' = .ok again ∧
      again.program = assembly.program ∧
      again.lines.map (fun line => (line.label, line.inst, line.word, line.address, line.data)) =
        assembly.lines.map fun line =>
          (line.label, line.inst, line.word, line.address, line.data) := by
  have lines' : textLines text'.toList = edited := by
    rcases rejoined with ⟨lineBreak, joined⟩ | same
    · rw [joined, textLines_of_edits edits]
    · exact same
  obtain ⟨numbered, read, -, -⟩ := assemble_eq_ok_iff.mp assembled
  have parsed := (exists_parseSource_iff text.toList _).mp ⟨numbered, read, rfl⟩
  obtain ⟨parsedLines, parsed', same⟩ := exists_parse_lines edits parsed
  rw [← lines'] at parsed'
  obtain ⟨numbered', read', rfl⟩ := (exists_parseSource_iff text'.toList _).mpr parsed'
  rw [List.map_map, List.map_map] at same
  exact assemble_of_upper_eq assembled read read' same

/-- A mnemonic in large letters and a comment on one line, an indentation on the other one, and a
carriage return in place of the line feed. -/
theorem assemble_of_edits_loop :
    ∃ assembly again, assemble "loop: br loop\nadd" = .ok assembly ∧
      assemble "loop: BR loop// again\r\tadd" = .ok again ∧ again.program = assembly.program := by
  have sound : (assemble "loop: br loop\nadd").toOption.isSome = true := by
    decide +kernel
  obtain ⟨assembly, assembled⟩ := Option.isSome_iff_exists.mp sound
  rw [toOption_eq_some_iff] at assembled
  have leads : Leads ([] ++ ("loop".toList ++ ':' :: [' '])) :=
    .label (by simp) (by decide) (by simp [isBlank])
  have stop : ∀ c ∈ " loop".toList.head?, continuesName c = false ∧ c ≠ ':' := by
    have head : " loop".toList.head? = some ' ' := by decide
    rw [head]
    rintro _ ⟨⟩
    decide
  have recased : Edit ("loop: ".toList ++ ("br".toList ++ " loop".toList))
      ("loop: ".toList ++ ("BR".toList ++ " loop".toList)) :=
    .recase leads (by decide) stop (by decide)
  have commented : Edit "loop: BR loop".toList ("loop: BR loop".toList ++ "// again".toList) :=
    .comment (by decide) (isBreak_of_any (by decide))
  have indented : Edit "add".toList "\tadd".toList := .indent (by decide)
  have edits : List.Forall₂ (Relation.ReflTransGen Edit) (textLines "loop: br loop\nadd".toList)
      ["loop: BR loop// again".toList, "\tadd".toList] :=
    .cons (.tail (.single recased) commented) (.cons (.single indented) .nil)
  obtain ⟨again, assembled', same, -⟩ :=
    @assemble_of_edits _ "loop: BR loop// again\r\tadd" _ _ assembled edits
      (.inl ⟨.cr, by decide⟩)
  exact ⟨assembly, again, assembled, assembled', same⟩

end Hex8.Asm
