import Mathlib.Tactic.Lemma
import Hex8.Proofs.Faults

set_option relaxedAutoImplicit false
set_option autoImplicit false

/-!
# Which fault is found

Lines may have several faults of different kinds, and the passes of the assembler look for them one
kind after the other. So the kind decides first, and among the faults of one kind the first line
does: what is wrong with a line on its own comes before labels that are defined again, and these
come before labels that are not there or do not fit where they are used.

## Main definitions

* `Hex8.Asm.First` — the first line with a property.
* `Hex8.Asm.FaultAt`, `Hex8.Asm.RepeatAt`, `Hex8.Asm.OperandFaultAt` — the three kinds of faults.
* `Hex8.Asm.Diagnosis` — which of them an error reports.

## Main results

* `Hex8.Asm.layout_eq_error`, `Hex8.Asm.collectLabels_eq_error`, `Hex8.Asm.writeLines_eq_error` —
  where each pass stops.
* `Hex8.Asm.cursor_le_of_commandFits` — the cursor never gets beyond the end of the memory.
* `Hex8.Asm.diagnosis_of_passes` — what all passes find.

## Design

A pass that stops at a line has succeeded on the lines in front of it. What has been proved about
passes that succeed therefore says everything about these lines, and only the line itself is left to
be looked at.
-/

namespace Hex8.Asm

/-! ## Kinds of faults -/

/-- Whether a line is the first one with a property, and which value the property has there. -/
def First {α : Type} (P : Nat → α → Prop) (i : Nat) (a : α) : Prop :=
  P i a ∧ ∀ j < i, ∀ b, ¬P j b

/-- What is the first thing that is wrong with a line on its own. -/
def FaultAt (lines : List Content) (i : Nat) (cause : LineError) : Prop :=
  ∃ place, (placements 0 lines)[i]? = some place ∧ place.faults.head? = some cause

/-- Whether a line defines a label that a line in front of it has defined already. -/
def RepeatAt (lines : List Content) (i : Nat) (name : String) : Prop :=
  ∃ line, lines[i]? = some line ∧ line.label = some name ∧
    name ∈ (lines.take i).filterMap Content.label

/-- What is wrong with the use of a label in a line. -/
def OperandFaultAt (lines : List Content) (i : Nat) (cause : LineError) : Prop :=
  ∃ place, (placements 0 lines)[i]? = some place ∧ place.OperandFault lines cause

/-! ## The first lines -/

/-- The places of the first lines do not depend on the others. -/
lemma take_placements (cursor i : Nat) (lines : List Content) :
    (placements cursor lines).take i = placements cursor (lines.take i) := by
  induction lines generalizing cursor i with
  | nil => simp [placements]
  | cons line others ih =>
    cases i with
    | zero => rfl
    | succ i => rw [placements, List.take_succ_cons, ih, List.take_succ_cons, placements]

/-- What the first lines become does not depend on the others. -/
lemma take_annotations (cursor i : Nat) (numbered : List NumberedLine) :
    (annotations cursor numbered).take i = annotations cursor (numbered.take i) := by
  induction numbered generalizing cursor i with
  | nil => simp [annotations]
  | cons first others ih =>
    cases i with
    | zero => rfl
    | succ i => rw [annotations, List.take_succ_cons, ih, List.take_succ_cons, annotations]

/-- A line becomes what it means at its place. -/
lemma getElem?_annotations {cursor i : Nat} {numbered : List NumberedLine} {line : SourceLine}
    (here : (annotations cursor numbered)[i]? = some line) :
    ∃ node place, numbered[i]? = some node ∧
      (placements cursor (numbered.map (·.line.content)))[i]? = some place ∧
      place.line = node.line.content ∧ line = place.annotate node.line.text node.number := by
  induction numbered generalizing cursor i with
  | nil => cases here
  | cons first others ih =>
    cases i with
    | zero =>
      cases here
      exact ⟨first, _, rfl, rfl, rfl, rfl⟩
    | succ i => exact ih here

/-- A place in front of a line is among the places of the first lines. -/
lemma mem_placements_take {cursor i j : Nat} {lines : List Content} {place : Placement}
    (earlier : j < i) (here : (placements cursor lines)[j]? = some place) :
    place ∈ placements cursor (lines.take i) := by
  rw [← take_placements]
  apply List.mem_of_getElem? (i := j)
  rw [List.getElem?_take_of_lt earlier]
  exact here

/-- If the first labels are distinct, none of their lines defines a label again. -/
lemma not_repeatAt_of_nodup {lines : List Content} {i j : Nat} (earlier : j < i)
    (distinct : ((lines.take i).filterMap Content.label).Nodup) (name : String) :
    ¬RepeatAt lines j name := by
  rintro ⟨line, here, label, known⟩
  have here' : (lines.take i)[j]? = some line := by
    rw [List.getElem?_take_of_lt earlier]
    exact here
  obtain ⟨inside, rfl⟩ := List.getElem?_eq_some_iff.mp here'
  have front : (lines.take i).take j = lines.take j := by
    rw [List.take_take, Nat.min_eq_left (Nat.le_of_lt earlier)]
  rw [← List.take_append_drop j (lines.take i), front, List.drop_eq_getElem_cons inside,
    List.filterMap_append, List.filterMap_cons_some label, List.nodup_append] at distinct
  exact distinct.2.2 name known name List.mem_cons_self rfl

/-- If all labels are distinct, none is defined again. -/
lemma not_repeatAt_of_unique {lines : List Content}
    (distinct : (lines.filterMap Content.label).Nodup) (i : Nat) (name : String) :
    ¬RepeatAt lines i name := by
  intro again
  obtain ⟨line, here, -⟩ := id again
  have inside := (List.getElem?_eq_some_iff.mp here).1
  rw [← List.take_length (l := lines)] at distinct
  exact not_repeatAt_of_nodup inside distinct name again

/-! ## Where the passes stop -/

/-- **The layout stops** at a line with a fault, behind lines that it has laid out. -/
theorem layout_eq_error {cursor : Nat} {numbered : List NumberedLine} {error : AssembleError}
    (failed : layout cursor numbered = .error error) :
    ∃ i node place cause annotated,
      numbered[i]? = some node ∧ layout cursor (numbered.take i) = .ok annotated ∧
        (placements cursor (numbered.map (·.line.content)))[i]? = some place ∧
        place.faults.head? = some cause ∧ error = .line node.number node.line.text cause := by
  induction numbered generalizing cursor with
  | nil => cases failed
  | cons first others ih =>
    rw [layout] at failed
    rcases placed : placeLine cursor first.number first.line with cause | result
    · rw [placed] at failed
      cases failed
      have fault := (reports_placeLine cursor first.number first.line).eq_error_iff.mp placed
      exact ⟨0, first, _, cause, [], rfl, rfl, rfl, fault, rfl⟩
    · obtain ⟨-, rfl⟩ := placeLine_eq_ok_iff.mp placed
      rw [placed] at failed
      dsimp only at failed
      rcases behind : layout (first.line.content.advance cursor) others with error' | annotated
      · rw [behind] at failed
        cases failed
        obtain ⟨i, node, place, cause, annotated, here, front, there, fault, rfl⟩ := ih behind
        refine ⟨i + 1, node, place, cause,
          Placement.annotate ⟨cursor, first.line.content⟩ first.line.text first.number :: annotated,
          here, ?_, there, fault, rfl⟩
        rw [List.take_succ_cons, layout, placed]
        dsimp only
        rw [front]
        rfl
      · rw [behind] at failed
        cases failed

/-- **The search for labels stops** at a line whose label is among those that it has found. -/
theorem collectLabels_eq_error {symbols : Symbols} {lines : List SourceLine}
    {error : AssembleError} (failed : collectLabels symbols lines = .error error) :
    ∃ i line name address found,
      lines[i]? = some line ∧ collectLabels symbols (lines.take i) = .ok found ∧
        line.binding? = some (name, address) ∧ name ∈ found.names ∧
        error = .duplicateLabel line.number name := by
  induction lines generalizing symbols with
  | nil => cases failed
  | cons line others ih =>
    rw [collectLabels_cons] at failed
    rcases binding : line.binding? with _ | ⟨name, address⟩
    · rw [binding] at failed
      obtain ⟨i, line', name, address, found, here, front, rest⟩ := ih failed
      refine ⟨i + 1, line', name, address, found, here, ?_, rest⟩
      rw [List.take_succ_cons, collectLabels_cons, binding]
      exact front
    · rw [binding] at failed
      dsimp only at failed
      split at failed
      · next known =>
        cases failed
        exact ⟨0, line, name, address, symbols, rfl, rfl, binding,
          (symbols.isSome_find? name).mp known, rfl⟩
      · next new =>
        obtain ⟨i, line', name', address', found, here, front, rest⟩ := ih failed
        refine ⟨i + 1, line', name', address', found, here, ?_, rest⟩
        rw [List.take_succ_cons, collectLabels_cons, binding]
        dsimp only
        rw [if_neg new]
        exact front

/-- **The last pass stops** at a line that has no word because something is wrong with it. -/
theorem writeLines_eq_error {program : Program} {lines : List SourceLine} {error : AssembleError}
    (failed : writeLines program lines = .error error) :
    ∃ i line cause written,
      lines[i]? = some line ∧ writeLines program (lines.take i) = .ok written ∧
        line.cell? program.symbols = .error cause ∧ error = line.error cause := by
  induction lines generalizing program with
  | nil => cases failed
  | cons line others ih =>
    rw [writeLines] at failed
    have wrote := write_eq program line
    rcases cell : line.cell? program.symbols with cause | cell'
    · rw [cell] at wrote
      rw [wrote] at failed
      cases failed
      exact ⟨0, line, cause, program, rfl, rfl, cell, rfl⟩
    · rw [cell] at wrote
      rw [wrote] at failed
      obtain ⟨i, line', cause, written, here, front, rest⟩ := ih failed
      refine ⟨i + 1, line', cause, written, here, ?_, rest⟩
      rw [List.take_succ_cons, writeLines, wrote]
      exact front

/-! ## The cursor -/

/-- A line whose statement fits leaves the cursor at the end of the memory or in front of it. -/
lemma advance_le_of_commandFits {place : Placement} (inside : place.cursor ≤ 256)
    (fits : place.CommandFits) : place.line.advance place.cursor ≤ 256 := by
  obtain ⟨cursor, label, command⟩ := place
  rcases command with _ | address | value | ⟨address, value⟩ | ⟨mnemonic, operand⟩
  · exact inside
  · show address.value ≤ 256
    have small : address.value ≤ 255 := fits
    omega
  · exact fits.1
  · exact inside
  · exact fits.2.2

/-- **The cursor never gets beyond the end of the memory** as long as all lines fit. -/
theorem cursor_le_of_commandFits {cursor : Nat} {lines : List Content} (inside : cursor ≤ 256)
    (fits : ∀ place ∈ placements cursor lines, place.CommandFits) :
    lines.foldl Content.advance cursor ≤ 256 := by
  induction lines generalizing cursor with
  | nil => exact inside
  | cons line others ih =>
    rw [placements, List.forall_mem_cons] at fits
    apply ih
    · exact @advance_le_of_commandFits ⟨cursor, line⟩ inside fits.1
    · exact fits.2

/-- The address that is not there is the cursor. -/
lemma cursor_of_mem_cursorFaults {cursor address : Nat}
    (fault : .beyondMemory address ∈ cursorFaults cursor) : address = cursor ∧ 256 ≤ cursor := by
  unfold cursorFaults at fault
  split at fault
  · cases fault
  · next beyond =>
    rw [List.mem_singleton, LineError.beyondMemory.injEq] at fault
    exact ⟨fault, Nat.le_of_not_lt beyond⟩

/-- A number has nothing to do with the cursor. -/
lemma Numeral.beyondMemory_notMem_faults (quantity : Quantity) (numeral : Numeral)
    (address : Nat) : .beyondMemory address ∉ numeral.faults quantity := by
  unfold faults
  split
  · exact List.not_mem_nil
  · split <;> simp

/-- If there is no address left for a line, the cursor is behind the last one. -/
lemma Placement.cursor_of_beyondMemory {place : Placement} {address : Nat}
    (fault : .beyondMemory address ∈ place.faults) :
    address = place.cursor ∧ 256 ≤ place.cursor := by
  have number (quantity : Quantity) (numeral : Numeral) :=
    numeral.beyondMemory_notMem_faults quantity address
  obtain ⟨place, label, command⟩ := place
  rcases List.mem_append.mp fault with fault | fault
  · unfold labelFaults at fault
    split at fault
    · exact cursor_of_mem_cursorFaults fault
    · cases fault
  · rcases command with _ | target | value | ⟨target, value⟩ | ⟨mnemonic, operand⟩
    · cases fault
    · exact absurd fault (number .position target)
    · rcases List.mem_append.mp fault with fault | fault
      · exact cursor_of_mem_cursorFaults fault
      · exact absurd fault (number .byte value)
    · rcases List.mem_append.mp fault with fault | fault
      · exact absurd fault (number .address target)
      · exact absurd fault (number .data value)
    · rcases List.mem_append.mp fault with fault | fault
      · unfold mnemonicFaults at fault
        split at fault
        · cases fault
        · cases List.mem_singleton.mp fault
      · rcases List.mem_append.mp fault with fault | fault
        · rcases operand with _ | numeral | name
          · cases fault
          · exact absurd fault (number .immediate numeral)
          · cases fault
        · exact cursor_of_mem_cursorFaults fault

/-! ## Kinds of faults and passes -/

section Passes

variable {numbered : List NumberedLine} {error : AssembleError}

/-- If all lines fit, no line has a fault on its own. -/
lemma not_faultAt_of_fits {lines : List Content}
    (fits : ∀ place ∈ placements 0 lines, place.LabelFits ∧ place.CommandFits) (i : Nat)
    (cause : LineError) : ¬FaultAt lines i cause := by
  rintro ⟨place, here, fault⟩
  have none' := Placement.faults_eq_nil_iff.mpr (fits place (List.mem_of_getElem? here))
  rw [none'] at fault
  cases fault

/-- **The layout finds the first line with a fault of its own.** If there is no address left for
that line, the cursor is at the end of the memory. -/
theorem first_faultAt_of_layout (failed : layout 0 numbered = .error error) :
    ∃ i node cause, numbered[i]? = some node ∧
      First (FaultAt (numbered.map (·.line.content))) i cause ∧
      error = .line node.number node.line.text cause ∧
      ∀ address, cause = .beyondMemory address → address = 256 := by
  obtain ⟨i, node, place, cause, annotated, here, front, there, fault, rfl⟩ :=
    layout_eq_error failed
  obtain ⟨fits, -⟩ := layout_eq_ok_iff.mp front
  rw [List.map_take] at fits
  refine ⟨i, node, cause, here, ⟨⟨place, there, fault⟩, ?_⟩, rfl, ?_⟩
  · rintro j earlier other ⟨place', here', fault'⟩
    have none' := Placement.faults_eq_nil_iff.mpr (fits place' (mem_placements_take earlier here'))
    rw [none'] at fault'
    cases fault'
  · rintro address rfl
    have bound := cursor_le_of_commandFits (Nat.zero_le 256) fun place inside =>
      (fits place inside).2
    obtain ⟨rfl, beyond⟩ := Placement.cursor_of_beyondMemory (List.mem_of_mem_head? fault)
    rw [getElem?_placements] at there
    obtain ⟨line, -, rfl⟩ := Option.map_eq_some_iff.mp there
    exact Nat.le_antisymm bound beyond

/-- **The search for labels finds the first one that is defined again.** -/
theorem first_repeatAt_of_collectLabels
    (failed : collectLabels .empty (annotations 0 numbered) = .error error) :
    ∃ i node name, numbered[i]? = some node ∧
      First (RepeatAt (numbered.map (·.line.content))) i name ∧
      error = .duplicateLabel node.number name := by
  obtain ⟨i, line, name, address, found, here, front, binding, known, rfl⟩ :=
    collectLabels_eq_error failed
  rw [take_annotations] at front
  obtain ⟨distinct, rfl⟩ := collectLabels_annotations.mp front
  rw [names_symbolsOf] at known
  rw [List.map_take] at distinct known
  obtain ⟨node, place, here', there, same, rfl⟩ := getElem?_annotations here
  refine ⟨i, node, name, here', ⟨⟨node.line.content, ?_, ?_, known⟩, ?_⟩, rfl⟩
  · rw [List.getElem?_map, here']
    rfl
  · rw [Placement.binding?_annotate, Placement.binding?, same] at binding
    obtain ⟨_, label, ⟨⟩⟩ := Option.map_eq_some_iff.mp binding
    exact label
  · exact fun j earlier => not_repeatAt_of_nodup earlier distinct

/-- **The last pass finds the first line that uses a label in a wrong way.** -/
theorem first_operandFaultAt_of_writeLines
    (placeable : Placeable (numbered.map (·.line.content)))
    (failed : writeLines
      { Program.empty with symbols := symbolsOf (numbered.map (·.line.content)) }
      (annotations 0 numbered) = .error error) :
    ∃ i node cause, numbered[i]? = some node ∧
      First (OperandFaultAt (numbered.map (·.line.content))) i cause ∧
      error = .line node.number node.line.text cause := by
  obtain ⟨i, line, cause, written, here, front, cell, rfl⟩ := writeLines_eq_error failed
  rw [take_annotations] at front
  obtain ⟨cells, -⟩ := writeLines_annotations.mp front
  rw [List.map_take] at cells
  obtain ⟨node, place, here', there, -, rfl⟩ := getElem?_annotations here
  rw [Placement.cell?_annotate] at cell
  refine ⟨i, node, cause, here', ⟨⟨place, there, ?_⟩, ?_⟩, rfl⟩
  · exact (Placement.cell?_eq_error_iff placeable (List.mem_of_getElem? there)).mp cell
  · rintro j earlier other ⟨place', there', fault⟩
    have cell' :=
      (Placement.cell?_eq_error_iff placeable (List.mem_of_getElem? there')).mpr fault
    obtain ⟨found, sound⟩ := cells place' (mem_placements_take earlier there')
    rw [sound] at cell'
    cases cell'

/-- What is wrong with lines that have been read, if the error names a line with this number and
this text. -/
inductive Diagnosis (lines : List Content) (i number : Nat) (text : String) : AssembleError → Prop
  /-- A line has a fault of its own. If there is no address left for it, the cursor is at the end of
  the memory. -/
  | fault {cause : LineError} (first : First (FaultAt lines) i cause)
      (cursor : ∀ address, cause = .beyondMemory address → address = 256) :
      Diagnosis lines i number text (.line number text cause)
  /-- No line has a fault of its own, and a label is defined again. -/
  | repeated {name : String} (sound : ∀ j cause, ¬FaultAt lines j cause)
      (first : First (RepeatAt lines) i name) :
      Diagnosis lines i number text (.duplicateLabel number name)
  /-- No line has a fault of its own, no label is defined again, and a label is used in a wrong
  way. -/
  | operand {cause : LineError} (sound : ∀ j cause, ¬FaultAt lines j cause)
      (distinct : ∀ j name, ¬RepeatAt lines j name) (first : First (OperandFaultAt lines) i cause) :
      Diagnosis lines i number text (.line number text cause)

/-- **What the passes find.** Each pass begins if the ones before it have succeeded for all lines. -/
theorem diagnosis_of_passes
    (failed : (do
      let annotated ← layout 0 numbered
      let symbols ← collectLabels .empty annotated
      let program ← writeLines { Program.empty with symbols } annotated
      return ({ program, lines := annotated } : Assembly)) = .error error) :
    ∃ i node, numbered[i]? = some node ∧
      Diagnosis (numbered.map (·.line.content)) i node.number node.line.text error := by
  rcases laid : layout 0 numbered with error' | annotated
  · rw [laid] at failed
    cases failed
    obtain ⟨i, node, cause, here, first, rfl, cursor⟩ := first_faultAt_of_layout laid
    exact ⟨i, node, here, .fault first cursor⟩
  · rw [laid] at failed
    obtain ⟨fits, rfl⟩ := layout_eq_ok_iff.mp laid
    have sound := not_faultAt_of_fits fits
    change (collectLabels .empty (annotations 0 numbered) >>= _) = _ at failed
    rcases collected : collectLabels .empty (annotations 0 numbered) with error' | symbols
    · rw [collected] at failed
      cases failed
      obtain ⟨i, node, name, here, first, rfl⟩ := first_repeatAt_of_collectLabels collected
      exact ⟨i, node, here, .repeated sound first⟩
    · rw [collected] at failed
      obtain ⟨unique, rfl⟩ := collectLabels_annotations.mp collected
      have distinct := not_repeatAt_of_unique unique
      change (writeLines _ (annotations 0 numbered) >>= _) = _ at failed
      rcases written : writeLines
          { Program.empty with symbols := symbolsOf (numbered.map (·.line.content)) }
          (annotations 0 numbered) with error' | program
      · rw [written] at failed
        cases failed
        obtain ⟨i, node, cause, here, first, rfl⟩ :=
          first_operandFaultAt_of_writeLines ⟨fits, unique⟩ written
        exact ⟨i, node, here, .operand sound distinct first⟩
      · rw [written] at failed
        cases failed

end Passes

end Hex8.Asm
