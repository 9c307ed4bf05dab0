import Mathlib.Tactic.Lemma
import Hex8.Proofs.Assembling

set_option relaxedAutoImplicit false
set_option autoImplicit false

/-!
# What is wrong with a line

Several things may be wrong with a line at once, and only the first of them is reported. Here all of
them are listed, in the order in which they count: first those of the label, then those of the
statement. What is wrong with the use of a label is told apart from these, because it depends on the
other lines.

## Main definitions

* `Hex8.Asm.Reports` — a computation fails with the first of some faults, if there are any.
* `Hex8.Asm.Numeral.faults`, `Hex8.Asm.cursorFaults`, `Hex8.Asm.mnemonicFaults`,
  `Hex8.Asm.Operand.faults` — what is wrong with the parts of a line.
* `Hex8.Asm.Placement.faults` — what is wrong with a line on its own.
* `Hex8.Asm.Placement.OperandFault` — what is wrong with the use of a label.

## Main results

* `Hex8.Asm.reports_placeLine` — the layout reports the first fault of a line.
* `Hex8.Asm.Placement.faults_eq_nil_iff` — a line without faults is one that fits.
* `Hex8.Asm.Placement.cell?_eq_error_iff` — the last pass reports what is wrong with the use of a
  label.

## Design

The faults of a line are a list and not a set, so that two computations one after the other have the
faults of the first one followed by those of the second one (`Hex8.Asm.Reports.bind`).
-/

namespace Hex8.Asm

/-! ## Reporting the first fault -/

/-- Whether a computation fails if there are faults, and then with the first of them. -/
def Reports {α : Type} (computed : Except LineError α) (faults : List LineError) : Prop :=
  match computed with
  | .error cause => faults.head? = some cause
  | .ok _ => faults = []

namespace Reports

variable {α β : Type} {computed : Except LineError α} {faults : List LineError}

/-- What a computation fails with is the first fault. -/
lemma eq_error_iff (h : Reports computed faults) {cause : LineError} :
    computed = .error cause ↔ faults.head? = some cause := by
  cases computed with
  | error first =>
    change faults.head? = some first at h
    rw [h, Except.error.injEq, Option.some.injEq]
  | ok result =>
    change faults = [] at h
    rw [h]
    exact ⟨nofun, nofun⟩

/-- Of two computations one after the other, the second one counts if the first one has no
faults. -/
lemma bind {f : α → Except LineError β} {others : List LineError} (first : Reports computed faults)
    (second : ∀ result, Reports (f result) others) :
    Reports (computed >>= f) (faults ++ others) := by
  cases computed with
  | error cause =>
    change (faults ++ others).head? = some cause
    change faults.head? = some cause at first
    rw [List.head?_append, first, Option.some_or]
  | ok result =>
    change faults = [] at first
    rw [first, List.nil_append]
    exact second result

/-- What is done with a result cannot go wrong. -/
lemma bind_pure (h : Reports computed faults) (f : α → β) :
    Reports (computed >>= fun result => pure (f result)) faults := by
  have none' (result : α) : Reports (pure (f result) : Except LineError β) [] := rfl
  simpa using h.bind none'

end Reports

/-! ## The parts of a line -/

/-- What is wrong with a number: it is too large for its quantity, or for any number at all. -/
def Numeral.faults (quantity : Quantity) (numeral : Numeral) : List LineError :=
  if numeral.value ≤ quantity.max then []
  else if numeral.value < numberLimit then [.outOfRange quantity numeral.text]
  else [.invalidNumber numeral.text]

/-- What is wrong with a line that needs an address: the cursor is behind the last one. -/
def cursorFaults (cursor : Nat) : List LineError :=
  if cursor < 256 then [] else [.beyondMemory cursor]

/-- What is wrong with a mnemonic: it is not the name of an operation. -/
def mnemonicFaults (mnemonic : String) : List LineError :=
  if (Opcode.ofName? mnemonic).isSome then [] else [.unknownInstruction mnemonic]

/-- What is wrong with an operand, as far as that is known without the labels. -/
def Operand.faults : Option Operand → List LineError
  | some (.number numeral) => numeral.faults .immediate
  | none | some (.name _) => []

namespace Placement

/-- What is wrong with the label of a line. -/
def labelFaults (place : Placement) : List LineError :=
  if place.line.label.isSome then cursorFaults place.cursor else []

/-- What is wrong with the statement of a line. -/
def commandFaults (place : Placement) : List LineError :=
  match place.line.command with
  | none => []
  | some (.position address) => address.faults .position
  | some (.byte value) => cursorFaults place.cursor ++ value.faults .byte
  | some (.data address value) => address.faults .address ++ value.faults .data
  | some (.inst mnemonic operand) =>
    mnemonicFaults mnemonic ++ (Operand.faults operand ++ cursorFaults place.cursor)

/-- What is wrong with a line on its own: its label comes first, and then its statement. -/
def faults (place : Placement) : List LineError :=
  place.labelFaults ++ place.commandFaults

/-- What is wrong with a line whose operand is a label: the label is not defined, or what it stands
for has more than four bits. -/
inductive OperandFault (lines : List Content) (place : Placement) : LineError → Prop
  /-- No line defines the label. -/
  | undefined {mnemonic name : String}
      (command : place.line.command = some (.inst mnemonic (some (.name name))))
      (nowhere : ∀ target, ¬Defines lines name target) :
      OperandFault lines place (.undefinedLabel name)
  /-- The address of the label, or the distance to it, is too large. -/
  | tooLarge {mnemonic name : String} {op : Opcode} {target : Nat} {value : UInt8}
      (command : place.line.command = some (.inst mnemonic (some (.name name))))
      (named : op.IsNamed mnemonic) (defined : Defines lines name target)
      (operand : (value.toNat : Int) = op.labelOperand place.cursor target) (large : 15 < value) :
      OperandFault lines place (.operandTooLarge value op)

end Placement

/-- A number is checked against its quantity. -/
lemma reports_check (quantity : Quantity) (numeral : Numeral) :
    Reports (numeral.check quantity) (numeral.faults quantity) := by
  have limit := quantity.max_lt_numberLimit
  unfold Numeral.check Numeral.faults
  by_cases huge : numberLimit ≤ numeral.value
  · rw [if_pos huge, if_neg (by omega), if_neg (by omega)]
    rfl
  · rw [if_neg huge]
    by_cases large : quantity.max < numeral.value
    · rw [if_pos large, if_neg (by omega), if_pos (by omega)]
      rfl
    · rw [if_neg large, if_pos (by omega)]
      rfl

/-- The cursor is checked against the size of the memory. -/
lemma reports_wordAddress (cursor : Nat) : Reports (wordAddress cursor) (cursorFaults cursor) := by
  unfold wordAddress cursorFaults
  by_cases inside : cursor < 256
  · rw [if_pos inside, if_pos inside]
    rfl
  · rw [if_neg inside, if_neg inside]
    rfl

/-- Only a number can be wrong with an operand. -/
lemma reports_ofOperand (operand : Option (Located Operand)) :
    Reports (Immediate.ofOperand operand) (Operand.faults (operand.map Located.val)) := by
  rcases operand with _ | ⟨offset, numeral | name⟩
  · rfl
  · exact (reports_check .immediate numeral).bind_pure Immediate.number
  · rfl

/-! ## One line -/

/-- The layout reports what is wrong with a label. -/
lemma reports_placeLabel (cursor : Nat) (line : Line) (annotated : SourceLine) :
    Reports (annotated.placeLabel cursor line.label)
      (Placement.labelFaults ⟨cursor, line.content⟩) := by
  obtain ⟨indent, text, label, statement⟩ := line
  cases label with
  | none => rfl
  | some name =>
    exact (reports_wordAddress cursor).bind_pure fun address =>
      { annotated with label := some name, address := some address }

/-- The layout reports what is wrong with a statement. -/
lemma reports_placeStatement (cursor : Nat) (line : Line) (annotated : SourceLine) :
    Reports (annotated.placeStatement cursor line.statement)
      (Placement.commandFaults ⟨cursor, line.content⟩) := by
  obtain ⟨indent, text, label, statement⟩ := line
  rcases statement with _ | ⟨offset, address | value | ⟨address, value⟩ | ⟨mnemonic, operand⟩⟩
  · rfl
  · exact (reports_check .position address.val).bind_pure _
  · exact (reports_wordAddress cursor).bind fun _ => (reports_check .byte value.val).bind_pure _
  · exact (reports_check .address address.val).bind fun _ =>
      (reports_check .data value.val).bind_pure _
  · change Reports _ (mnemonicFaults mnemonic ++
      (Operand.faults (operand.map Located.val) ++ cursorFaults cursor))
    rw [mnemonicFaults]
    rcases found : Opcode.ofName? mnemonic with _ | op
    · simp only [SourceLine.placeStatement, found]
      rfl
    · simp only [SourceLine.placeStatement, found]
      exact (reports_ofOperand operand).bind fun _ => (reports_wordAddress cursor).bind_pure _

/-- **The layout reports the first fault of a line**, if it has any. -/
theorem reports_placeLine (cursor number : Nat) (line : Line) :
    Reports (placeLine cursor number line) (Placement.faults ⟨cursor, line.content⟩) :=
  (reports_placeLabel cursor line _).bind fun labelled =>
    reports_placeStatement cursor line labelled

/-! ## Lines without faults -/

/-- Nothing is wrong with a number that is small enough. -/
lemma Numeral.faults_eq_nil_iff {quantity : Quantity} {numeral : Numeral} :
    numeral.faults quantity = [] ↔ numeral.value ≤ quantity.max := by
  unfold faults
  by_cases small : numeral.value ≤ quantity.max
  · simp [small]
  · rw [if_neg small]
    split <;> simp [small]

/-- Nothing is wrong with a cursor inside of the memory. -/
lemma cursorFaults_eq_nil_iff {cursor : Nat} : cursorFaults cursor = [] ↔ cursor < 256 := by
  simp [cursorFaults]

/-- Nothing is wrong with the name of an operation. -/
lemma mnemonicFaults_eq_nil_iff {mnemonic : String} :
    mnemonicFaults mnemonic = [] ↔ ∃ op : Opcode, op.IsNamed mnemonic := by
  simp only [Opcode.isNamed_iff, ← Option.isSome_iff_exists]
  unfold mnemonicFaults
  split
  · next known => exact iff_of_true rfl known
  · next unknown => exact iff_of_false (List.cons_ne_nil _ _) unknown

/-- Nothing is wrong with an operand that fits. -/
lemma Operand.faults_eq_nil_iff {operand : Option Operand} :
    Operand.faults operand = [] ↔ Operand.Fits operand := by
  rcases operand with _ | numeral | name
  · exact iff_of_true rfl trivial
  · exact Numeral.faults_eq_nil_iff
  · exact iff_of_true rfl trivial

namespace Placement

variable {place : Placement}

/-- **A line without faults** is one whose label and whose statement fit. -/
theorem faults_eq_nil_iff : place.faults = [] ↔ place.LabelFits ∧ place.CommandFits := by
  rw [faults, List.append_eq_nil_iff]
  refine and_congr ?_ ?_
  · rw [labelFaults, LabelFits]
    by_cases labelled : place.line.label.isSome = true
    · rw [if_pos labelled, cursorFaults_eq_nil_iff]
      exact ⟨fun inside _ => inside, fun inside => inside labelled⟩
    · rw [if_neg labelled]
      exact iff_of_true rfl fun labelled' => absurd labelled' labelled
  · rw [commandFaults, CommandFits]
    rcases place.line.command with _ | address | value | ⟨address, value⟩ | ⟨mnemonic, operand⟩
    · exact iff_of_true rfl trivial
    · exact Numeral.faults_eq_nil_iff
    · exact List.append_eq_nil_iff.trans
        (and_congr cursorFaults_eq_nil_iff Numeral.faults_eq_nil_iff)
    · exact List.append_eq_nil_iff.trans
        (and_congr Numeral.faults_eq_nil_iff Numeral.faults_eq_nil_iff)
    · exact List.append_eq_nil_iff.trans (and_congr mnemonicFaults_eq_nil_iff
        (List.append_eq_nil_iff.trans
          (and_congr Operand.faults_eq_nil_iff cursorFaults_eq_nil_iff)))

end Placement

/-! ## The use of a label -/

/-- A label cannot be an operand if it is not known, or if what it stands for has more than four
bits. -/
lemma Immediate.resolve_label_eq_error_iff {symbols : Symbols} {op : Opcode} {address : UInt8}
    {name : String} {cause : LineError} :
    resolve symbols op address (.label name) = .error cause ↔
      (symbols.find? name = none ∧ cause = .undefinedLabel name) ∨
        ∃ target value, symbols.find? name = some target ∧
          ((value : UInt8).toNat : Int) = op.labelOperand address.toNat target.toNat ∧
          15 < value ∧ cause = .operandTooLarge value op := by
  rw [resolve]
  rcases symbols.find? name with _ | target
  · constructor
    · rintro ⟨⟩
      exact .inl ⟨rfl, rfl⟩
    · rintro (⟨-, rfl⟩ | ⟨target, value, impossible, -⟩)
      · rfl
      · cases impossible
  · have operand := toNat_labelOperand op address target
    dsimp only
    by_cases small : (if op.isPcRelative then target - address else target) ≤ 0xf
    · rw [if_pos small]
      refine ⟨by rintro ⟨⟩, ?_⟩
      rintro (⟨impossible, -⟩ | ⟨_, value, ⟨⟩, same, large, -⟩)
      · cases impossible
      · rw [← operand, Int.ofNat_inj, UInt8.toNat_inj] at same
        exact absurd (same ▸ small) (UInt8.not_le.mpr large)
    · rw [if_neg small]
      constructor
      · rintro ⟨⟩
        exact .inr ⟨target, _, rfl, operand, UInt8.not_le.mp small, rfl⟩
      · rintro (⟨impossible, -⟩ | ⟨_, value, ⟨⟩, same, -, rfl⟩)
        · cases impossible
        · rw [← operand, Int.ofNat_inj, UInt8.toNat_inj] at same
          rw [same]

namespace Placement

variable {lines : List Content} {place : Placement} {cause : LineError}

/-- Only an instruction whose operand is a label can use a label in a wrong way. -/
lemma OperandFault.exists_command (fault : place.OperandFault lines cause) :
    ∃ mnemonic name, place.line.command = some (.inst mnemonic (some (.name name))) := by
  cases fault with
  | undefined command _ => exact ⟨_, _, command⟩
  | tooLarge command _ _ _ _ => exact ⟨_, _, command⟩

/-- What is wrong with the use of a label can be found out by looking it up. -/
lemma operandFault_iff (placeable : Placeable lines) {mnemonic name : String} {op : Opcode}
    (command : place.line.command = some (.inst mnemonic (some (.name name))))
    (named : op.IsNamed mnemonic) (inside : place.cursor < 256) :
    place.OperandFault lines cause ↔
      Immediate.resolve (symbolsOf lines) op (UInt8.ofNat place.cursor) (.label name) =
        .error cause := by
  have cursor : (UInt8.ofNat place.cursor).toNat = place.cursor := UInt8.toNat_ofNat_of_lt' inside
  rw [Immediate.resolve_label_eq_error_iff, cursor]
  constructor
  · intro fault
    cases fault with
    | undefined command' nowhere =>
      rw [command] at command'
      cases command'
      refine .inl ⟨Option.eq_none_iff_forall_ne_some.mpr fun target found => ?_, rfl⟩
      exact nowhere _ (placeable.find?_symbolsOf.mp found)
    | @tooLarge _ _ _ target value command' named' defined operand large =>
      rw [command] at command'
      cases command'
      rw [Opcode.isNamed_iff] at named named'
      obtain rfl := Option.some.inj (named.symm.trans named')
      have address := UInt8.toNat_ofNat_of_lt' (placeable.lt_of_defines defined)
      refine .inr ⟨UInt8.ofNat target, value, placeable.find?_symbolsOf.mpr ?_, ?_, large, rfl⟩
      · rw [address]
        exact defined
      · rw [address]
        exact operand
  · rintro (⟨unknown, rfl⟩ | ⟨target, value, found, operand, large, rfl⟩)
    · refine .undefined command fun target defined => ?_
      have address := UInt8.toNat_ofNat_of_lt' (placeable.lt_of_defines defined)
      rw [← address, ← placeable.find?_symbolsOf, unknown] at defined
      cases defined
    · exact .tooLarge command named (placeable.find?_symbolsOf.mp found) operand large

/-- **The last pass reports what is wrong with the use of a label**, and nothing else, if the lines
are otherwise without faults.

**Proof sketch.** Only an instruction has an operand. A number that fits is resolved to itself, and
what is found under the name of a label is what the lines define. -/
theorem cell?_eq_error_iff (placeable : Placeable lines) (inside : place ∈ placements 0 lines) :
    place.cell? (symbolsOf lines) = .error cause ↔ place.OperandFault lines cause := by
  have fits := (placeable.fits place inside).2
  rw [CommandFits] at fits
  -- everything but the use of a label has a word or none
  have sound (found : ∃ cell, place.cell? (symbolsOf lines) = .ok cell)
      (other : ∀ mnemonic name, place.line.command ≠ some (.inst mnemonic (some (.name name)))) :
      place.cell? (symbolsOf lines) = .error cause ↔ place.OperandFault lines cause := by
    obtain ⟨cell, found⟩ := found
    refine iff_of_false (by rw [found]; rintro ⟨⟩) fun fault => ?_
    obtain ⟨mnemonic, name, command⟩ := fault.exists_command
    exact other mnemonic name command
  rcases command : place.line.command with
    _ | address | value | ⟨address, value⟩ | ⟨mnemonic, operand⟩
  · exact sound ⟨none, by rw [cell?, command]⟩ (by rw [command]; rintro _ _ ⟨⟩)
  · exact sound ⟨none, by rw [cell?, command]⟩ (by rw [command]; rintro _ _ ⟨⟩)
  · exact sound ⟨some _, by rw [cell?, command]⟩ (by rw [command]; rintro _ _ ⟨⟩)
  · exact sound ⟨none, by rw [cell?, command]⟩ (by rw [command]; rintro _ _ ⟨⟩)
  · rw [command] at fits
    obtain ⟨⟨op, named⟩, small, here⟩ := fits
    have resolves := @exists_cell?_iff place (symbolsOf lines) _ _ _ command named
    rcases operand with _ | numeral | name
    · exact sound (resolves.mpr ⟨_, Immediate.resolve_number (Nat.zero_le 15) _ op _⟩)
        (by rw [command]; rintro _ _ ⟨⟩)
    · exact sound (resolves.mpr ⟨_, Immediate.resolve_number small _ op _⟩)
        (by rw [command]; rintro _ _ ⟨⟩)
    · rw [operandFault_iff placeable command named here]
      simp only [cell?, command, (op.isNamed_iff mnemonic).mp named, Operand.immediate]
      rcases Immediate.resolve (symbolsOf lines) op (UInt8.ofNat place.cursor) (.label name) with
        first | imm
      · simp [Except.map]
      · exact iff_of_false (by rintro ⟨⟩) (by rintro ⟨⟩)

end Placement

end Hex8.Asm
