import Hex8.Isa.Record

set_option relaxedAutoImplicit false
set_option autoImplicit false

/-!
# Comparison of traces

Two traces of one program are compared record by record and field by field. The first difference
is what counts. Only if there is none are the lengths compared.

## Main definitions

* `Hex8.Record.Field` — the fields of a record, in the order in which they are compared.
* `Hex8.Record.firstMismatch?` — the first field in which two records differ.
* `Hex8.TraceMismatch` — how two traces differ.
* `Hex8.traceMismatch?` — the first difference of two traces.

## Main results

* `Hex8.Record.firstMismatch?_eq_none_iff` — records without a difference are equal.
-/

namespace Hex8

namespace Record

/-- The fields of a record, in the order in which they are compared. -/
inductive Field
  /-- The address of the instruction. -/
  | pc
  /-- The instruction. -/
  | inst
  /-- The register `A`. -/
  | areg
  /-- The register `B`. -/
  | breg
  /-- The kind of access. -/
  | memory
  /-- The address of the access. -/
  | address
  /-- The byte of the access. -/
  | data
  deriving DecidableEq

/-- The name of a field. -/
def Field.name : Field → String
  | pc => "pc"
  | inst => "inst"
  | areg => "areg"
  | breg => "breg"
  | memory => "memory"
  | address => "address"
  | data => "data"

/-- The first field in which two records differ. -/
def firstMismatch? (expected actual : Record) : Option Field :=
  if expected.pc ≠ actual.pc then some .pc
  else if expected.inst ≠ actual.inst then some .inst
  else if expected.areg ≠ actual.areg then some .areg
  else if expected.breg ≠ actual.breg then some .breg
  else if expected.memory ≠ actual.memory then some .memory
  else if expected.address ≠ actual.address then some .address
  else if expected.data ≠ actual.data then some .data
  else none

/-- Records without a difference are equal. -/
theorem firstMismatch?_eq_none_iff (expected actual : Record) :
    firstMismatch? expected actual = none ↔ expected = actual := by
  obtain ⟨pc, inst, areg, breg, memory, address, data⟩ := expected
  obtain ⟨pc', inst', areg', breg', memory', address', data'⟩ := actual
  simp only [firstMismatch?]
  constructor
  · intro h
    grind
  · intro h
    cases h
    simp

end Record

/-- How two traces differ. -/
inductive TraceMismatch
  /-- The records of one index differ, first of all in the given field. -/
  | record (index : Nat) (field : Record.Field) (expected actual : Record)
  /-- One trace is longer. -/
  | length (expected actual : Nat)
  deriving DecidableEq

namespace TraceMismatch

/-- Which records differ, in one line. -/
def recordSummary (index : Nat) (field : Record.Field) : String :=
  "record " ++ toString index ++ ": " ++ field.name ++ " mismatch"

/-- How two traces differ, in words. -/
def message : TraceMismatch → String
  | record index field expected actual =>
    recordSummary index field ++
      "\n   model: " ++ expected.fieldText ++
      "\n     sim: " ++ actual.fieldText
  | length expected actual =>
    "trace length mismatch: model = " ++ toString expected ++ ", sim = " ++ toString actual

end TraceMismatch

/-- The first difference of two traces whose first records have the given index. -/
def traceMismatchFrom? (index : Nat) : List Record → List Record → Option TraceMismatch
  | [], [] => none
  | expected :: restExpected, actual :: restActual =>
    match expected.firstMismatch? actual with
    | some field => some (.record index field expected actual)
    | none => traceMismatchFrom? (index + 1) restExpected restActual
  | expected, actual => some (.length (index + expected.length) (index + actual.length))

/-- The first difference of two traces. -/
def traceMismatch? (expected actual : List Record) : Option TraceMismatch :=
  traceMismatchFrom? 0 expected actual

end Hex8
