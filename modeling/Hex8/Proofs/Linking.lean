import Hex8.Asm.Assemble
import Hex8.Proofs.Layout
import Hex8.Proofs.Writes

set_option relaxedAutoImplicit false
set_option autoImplicit false

/-!
# Linking

Behind the layout there are two more passes over the lines. The first one collects the labels, and
the second one writes words and bytes, with the operands that the labels give. Each pass succeeds
for all lines or for none, and what it has done is then a matter of a list: the labels with their
addresses, the words with theirs, and the bytes with theirs.

## Main definitions

* `Hex8.Asm.SourceLine.binding?` — the label of a line with its address.
* `Hex8.Asm.SourceLine.cell?` — the word of a line with its address.

## Main results

* `Hex8.Asm.collectLabels_eq_ok_iff` — labels can be collected if no name occurs twice.
* `Hex8.Symbols.find?_eq_some_iff` — what is found under a name.
* `Hex8.Asm.writeLines_eq_ok_iff` — lines can be written if each of them has an operand that fits.
* `Hex8.Asm.Immediate.resolve_label_eq_ok_iff` — the operand that a label gives.
-/

namespace Hex8

/-! ## Labels -/

namespace Symbols

/-- The names without their addresses. -/
def names (symbols : Symbols) : List String :=
  symbols.entries.map Prod.fst

/-- Something is found under each name that there is. -/
lemma isSome_find? (symbols : Symbols) (name : String) :
    (symbols.find? name).isSome ↔ name ∈ symbols.names := by
  rw [find?, List.lookup_isSome_iff, names, List.mem_map]
  constructor
  · rintro ⟨entry, inside, same⟩
    exact ⟨entry, inside, (beq_iff_eq.mp same).symm⟩
  · rintro ⟨entry, inside, rfl⟩
    exact ⟨entry, inside, beq_self_eq_true _⟩

/-- **What is found under a name** is what stands next to it, if no name occurs twice. -/
theorem find?_eq_some_iff {symbols : Symbols} (distinct : symbols.names.Nodup) {name : String}
    {address : UInt8} :
    symbols.find? name = some address ↔ (name, address) ∈ symbols.entries := by
  obtain ⟨entries⟩ := symbols
  change entries.lookup name = some address ↔ (name, address) ∈ entries
  change (entries.map Prod.fst).Nodup at distinct
  induction entries with
  | nil => exact ⟨fun h => (nomatch h), fun h => absurd h List.not_mem_nil⟩
  | cons first others ih =>
    obtain ⟨key, value⟩ := first
    rw [List.map_cons, List.nodup_cons] at distinct
    rw [List.lookup_cons, List.mem_cons, Prod.mk.injEq]
    by_cases same : name = key
    · subst same
      have elsewhere : (name, address) ∉ others :=
        fun inside => distinct.1 (List.mem_map.mpr ⟨_, inside, rfl⟩)
      rw [beq_self_eq_true]
      exact ⟨fun h => .inl ⟨rfl, (Option.some.inj h).symm⟩,
        fun h => h.elim (fun h => congrArg some h.2.symm) fun h => absurd h elsewhere⟩
    · rw [beq_eq_false_iff_ne.mpr same]
      exact ⟨fun h => .inr ((ih distinct.2).mp h),
        fun h => h.elim (fun h => absurd h.1 same) (ih distinct.2).mpr⟩

end Symbols

namespace Asm

/-- The label of a line with its address. -/
def SourceLine.binding? (line : SourceLine) : Option (String × UInt8) :=
  match line.label, line.address with
  | some name, some address => some (name, address)
  | _, _ => none

/-- What a line with a label does to the labels so far, and what every other line does. -/
lemma collectLabels_cons (symbols : Symbols) (line : SourceLine) (others : List SourceLine) :
    collectLabels symbols (line :: others) =
      match line.binding? with
      | none => collectLabels symbols others
      | some (name, address) =>
        if (symbols.find? name).isSome then .error (.duplicateLabel line.number name)
        else collectLabels (symbols.define name address) others := by
  obtain ⟨address, inst, word, label, data, text, number⟩ := line
  rw [collectLabels, SourceLine.binding?]
  cases label <;> cases address <;> rfl

/-- **Labels can be collected if no name occurs twice.** They are then there in the order of their
lines.

**Proof sketch.** Induction on the lines. The names that have been collected so far are distinct,
and the next one is added to them if it is not one of them. -/
theorem collectLabels_eq_ok_iff {symbols result : Symbols} (distinct : symbols.names.Nodup)
    {lines : List SourceLine} :
    collectLabels symbols lines = .ok result ↔
      (symbols.names ++ (lines.filterMap SourceLine.binding?).map Prod.fst).Nodup ∧
        result = ⟨symbols.entries ++ lines.filterMap SourceLine.binding?⟩ := by
  induction lines generalizing symbols with
  | nil =>
    rw [List.filterMap_nil, List.map_nil, List.append_nil, List.append_nil]
    exact ⟨fun h => ⟨distinct, (Except.ok.inj h).symm⟩, fun h => h.2 ▸ rfl⟩
  | cons line others ih =>
    rw [collectLabels_cons]
    rcases entry : line.binding? with _ | ⟨name, address⟩
    · rw [List.filterMap_cons_none entry]
      exact ih distinct
    · rw [List.filterMap_cons_some entry, List.map_cons]
      dsimp only
      by_cases old : name ∈ symbols.names
      · rw [if_pos ((symbols.isSome_find? name).mpr old)]
        refine ⟨fun h => (nomatch h), fun ⟨distinct', _⟩ => ?_⟩
        rw [List.nodup_append] at distinct'
        exact absurd rfl (distinct'.2.2 name old name List.mem_cons_self)
      · have names : (symbols.define name address).names = symbols.names ++ [name] :=
          List.map_append
        have distinct' : (symbols.define name address).names.Nodup := by
          rw [names, List.nodup_append]
          refine ⟨distinct, List.pairwise_singleton _ name, fun a ha b hb same => old ?_⟩
          rw [← List.mem_singleton.mp hb, ← same]
          exact ha
        rw [if_neg (mt (symbols.isSome_find? name).mp old), ih distinct', names,
          List.append_assoc, List.singleton_append]
        simp only [Symbols.define, List.append_assoc, List.singleton_append]

/-! ## Operands -/

/-- The distance to a label in bytes is the distance modulo the size of the memory. -/
lemma toNat_labelOperand (op : Opcode) (address target : UInt8) :
    ((if op.isPcRelative then target - address else target).toNat : Int) =
      op.labelOperand address.toNat target.toNat := by
  have bound := address.toNat_lt
  rw [Opcode.labelOperand]
  by_cases relative : op.isPcRelative = true
  · rw [if_pos relative, if_pos (op.isPcRelative_iff.mp relative), UInt8.toNat_sub]
    omega
  · rw [if_neg relative, if_neg (mt op.isPcRelative_iff.mpr relative)]

/-- **The operand that a label gives** is the label's address, or the distance to it. It has to fit
in four bits. -/
theorem Immediate.resolve_label_eq_ok_iff {symbols : Symbols} {op : Opcode} {address imm : UInt8}
    {name : String} :
    resolve symbols op address (.label name) = .ok imm ↔
      ∃ target, symbols.find? name = some target ∧
        (imm.toNat : Int) = op.labelOperand address.toNat target.toNat ∧ imm ≤ 0xf := by
  rw [resolve]
  rcases symbols.find? name with _ | target
  · exact ⟨fun h => (nomatch h), fun ⟨_, h, _⟩ => (nomatch h)⟩
  · have value := toNat_labelOperand op address target
    dsimp only
    by_cases small : (if op.isPcRelative then target - address else target) ≤ 0xf
    · rw [if_pos small]
      constructor
      · intro h
        obtain rfl := Except.ok.inj h
        exact ⟨target, rfl, value, small⟩
      · rintro ⟨_, ⟨⟩, same, -⟩
        rw [← value, Int.ofNat_inj, UInt8.toNat_inj] at same
        rw [same]
    · rw [if_neg small]
      refine ⟨fun h => (nomatch h), ?_⟩
      rintro ⟨_, ⟨⟩, same, small'⟩
      rw [← value, Int.ofNat_inj, UInt8.toNat_inj] at same
      exact absurd (same ▸ small') small

/-- A label gives an operand if it is defined and what it stands for there fits in four bits. -/
theorem Immediate.exists_resolve_label_iff {symbols : Symbols} {op : Opcode} {address : UInt8}
    {name : String} :
    (∃ imm, resolve symbols op address (.label name) = .ok imm) ↔
      ∃ target, symbols.find? name = some target ∧
        op.labelOperand address.toNat target.toNat ≤ 15 := by
  simp only [resolve_label_eq_ok_iff]
  constructor
  · rintro ⟨imm, target, found, value, small⟩
    refine ⟨target, found, ?_⟩
    rw [← value]
    exact Int.ofNat_le.mpr (UInt8.le_iff_toNat_le.mp small)
  · rintro ⟨target, found, small⟩
    refine ⟨_, target, found, toNat_labelOperand op address target, ?_⟩
    rw [← toNat_labelOperand] at small
    exact UInt8.le_iff_toNat_le.mpr (Int.ofNat_le.mp small)

/-- A number that fits in four bits is taken as it is. -/
lemma Immediate.resolve_number {value : Nat} (small : value ≤ 15) (symbols : Symbols)
    (op : Opcode) (address : UInt8) :
    resolve symbols op address (.number (UInt8.ofNat value)) = .ok (UInt8.ofNat value) := by
  refine if_pos ?_
  rw [UInt8.le_iff_toNat_le, UInt8.toNat_ofNat_of_lt' (Nat.lt_of_le_of_lt small (by decide))]
  exact small

/-! ## Words -/

/-- The word of a line with its address, if it has any. -/
def SourceLine.cell? (line : SourceLine) (symbols : Symbols) :
    Except LineError (Option (UInt8 × UInt8)) :=
  match line.address with
  | none => .ok none
  | some address => (line.encode? symbols address).map (Option.map (address, ·))

/-- The word of a line with its address, if it has any and nothing is wrong with it. -/
def SourceLine.cell (line : SourceLine) (symbols : Symbols) : Option (UInt8 × UInt8) :=
  (line.cell? symbols).toOption.join

/-- A line writes its byte, and then its word. -/
lemma write_eq (program : Program) (line : SourceLine) :
    program.write line =
      match line.cell? program.symbols with
      | .error cause => (program.writeData line.data, .error cause)
      | .ok cell =>
        ({ imem := program.imem.writeAll cell.toList
           dmem := program.dmem.writeAll line.data.toList
           symbols := program.symbols }, .ok ()) := by
  obtain ⟨address, inst, word, label, data, text, number⟩ := line
  rw [Program.write, SourceLine.cell?, Program.symbols_writeData]
  rcases address with _ | address
  · cases data <;> rfl
  · dsimp only
    generalize SourceLine.encode? _ _ _ = encoded
    rcases encoded with cause | _ | word
    · rfl
    · cases data <;> rfl
    · cases data <;> rfl

/-- **Lines can be written if each of them has a word or none.** The memories have then been written
in the order of the lines.

**Proof sketch.** Induction on the lines. No line changes the labels, so whether a line has a word
does not depend on the lines in front of it. -/
theorem writeLines_eq_ok_iff {program result : Program} {lines : List SourceLine} :
    writeLines program lines = .ok result ↔
      (∀ line ∈ lines, ∃ cell, line.cell? program.symbols = .ok cell) ∧
        result =
          { imem := program.imem.writeAll (lines.filterMap (·.cell program.symbols))
            dmem := program.dmem.writeAll (lines.filterMap SourceLine.data)
            symbols := program.symbols } := by
  induction lines generalizing program with
  | nil =>
    constructor
    · intro h
      exact ⟨fun _ hline => absurd hline List.not_mem_nil, (Except.ok.inj h).symm⟩
    · rintro ⟨-, rfl⟩
      rfl
  | cons line others ih =>
    rw [writeLines, write_eq, List.forall_mem_cons, Memory.writeAll_filterMap_cons,
      Memory.writeAll_filterMap_cons]
    rcases found : line.cell? program.symbols with cause | cell
    · exact ⟨fun h => (nomatch h), fun ⟨⟨⟨_, h⟩, _⟩, _⟩ => (nomatch h)⟩
    · have cell_eq : line.cell program.symbols = cell := by
        rw [SourceLine.cell, found]
        rfl
      rw [cell_eq]
      exact ih.trans (and_congr_left fun _ => ⟨fun fits => ⟨⟨cell, rfl⟩, fits⟩, And.right⟩)

end Asm

end Hex8
