import Hex8.Proofs.Verification

set_option relaxedAutoImplicit false
set_option autoImplicit false

/-!
# What the comparison of traces finds

A comparison that overlooks something would let a wrong core pass. Here it is described for any two
lists of records, whatever they come from: what is reported is always the first difference, and
there is always something to report unless the lists are equal.

## Main definitions

* `Hex8.Record.Field.all`, `Hex8.Record.Field.Differs` — the fields in the order in which they are
  compared, and when two records differ in one of them.
* `Hex8.Record.Field.FirstDiffers` — the first field in which two records differ.
* `Hex8.TraceMismatch.Describes` — whether a difference is the first one of two traces.
* `Hex8.TraceMismatch.behind`, `Hex8.TraceMismatch.swap` — a difference of longer traces, and of
  traces whose roles are exchanged.

## Main results

* `Hex8.Record.firstMismatch?_eq_some_iff` — the field that is reported for two records.
* `Hex8.traceMismatch?_cons` — the comparison goes on behind two equal records.
* `Hex8.TraceMismatch.Describes.unique` — two traces have one first difference at most.
* `Hex8.traceMismatch?_eq_none_iff`, `Hex8.traceMismatch?_eq_some_iff` — when the comparison finds
  nothing, and what it finds otherwise.
* `Hex8.comparison_finds_first_difference` — all that there is to say about it.

## Design

The difference of two traces is described without a recursion, by the index of the records. The
comparison is only shown to find a difference that is described in this way; that it finds no other
one follows, because there is none.
-/

namespace Hex8

namespace Record

/-! ## Two records -/

namespace Field

/-- All fields, in the order in which they are compared. -/
def all : List Field :=
  [pc, inst, areg, breg, memory, address, data]

variable {expected actual : Record}

/-- Whether two records differ in a field. -/
def Differs (expected actual : Record) : Field → Prop
  | pc => expected.pc ≠ actual.pc
  | inst => expected.inst ≠ actual.inst
  | areg => expected.areg ≠ actual.areg
  | breg => expected.breg ≠ actual.breg
  | memory => expected.memory ≠ actual.memory
  | address => expected.address ≠ actual.address
  | data => expected.data ≠ actual.data

/-- Whether two records differ in a field can be computed. -/
instance : DecidablePred (Differs expected actual)
  | pc => inferInstanceAs (Decidable (expected.pc ≠ actual.pc))
  | inst => inferInstanceAs (Decidable (expected.inst ≠ actual.inst))
  | areg => inferInstanceAs (Decidable (expected.areg ≠ actual.areg))
  | breg => inferInstanceAs (Decidable (expected.breg ≠ actual.breg))
  | memory => inferInstanceAs (Decidable (expected.memory ≠ actual.memory))
  | address => inferInstanceAs (Decidable (expected.address ≠ actual.address))
  | data => inferInstanceAs (Decidable (expected.data ≠ actual.data))

/-- Whether a field is the first one in which two records differ. -/
def FirstDiffers (expected actual : Record) (field : Field) : Prop :=
  field.Differs expected actual ∧
    ∃ front back, all = front ++ field :: back ∧ ∀ other ∈ front, ¬other.Differs expected actual

/-- Records that differ in a field are different. -/
lemma Differs.ne {field : Field} (differs : field.Differs expected actual) : expected ≠ actual := by
  rintro rfl
  cases field <;> exact differs rfl

/-- It does not matter which of the records is the expected one. -/
lemma differs_comm (field : Field) :
    field.Differs expected actual ↔ field.Differs actual expected := by
  cases field <;> exact ne_comm

/-- The same holds for the first field. -/
lemma FirstDiffers.swap {field : Field} (first : field.FirstDiffers expected actual) :
    field.FirstDiffers actual expected := by
  obtain ⟨differs, front, back, parts, same⟩ := first
  exact ⟨(differs_comm field).mp differs, front, back, parts, fun other inside =>
    mt (differs_comm other).mpr (same other inside)⟩

end Field

/-- The fields are gone through in their order. -/
lemma firstMismatch?_eq_find? (expected actual : Record) :
    expected.firstMismatch? actual = Field.all.find? fun field => field.Differs expected actual := by
  have next (field : Field) (others : List Field) :
      (field :: others).find? (fun field => field.Differs expected actual) =
        if field.Differs expected actual then some field
        else others.find? fun field => field.Differs expected actual := by
    rw [List.find?_cons]
    by_cases differs : field.Differs expected actual <;> simp [differs]
  simp only [Field.all, next]
  rfl

/-- **The field that is reported** is the first one in which the records differ. -/
theorem firstMismatch?_eq_some_iff {expected actual : Record} {field : Field} :
    expected.firstMismatch? actual = some field ↔ field.FirstDiffers expected actual := by
  rw [firstMismatch?_eq_find?, List.find?_eq_some_iff_append, Field.FirstDiffers]
  simp

end Record

/-! ## Two traces -/

namespace TraceMismatch

variable {expected actual : List Record}

/-- Whether a difference is the first one of two traces: that of the first index below both lengths
at which the records differ, and in the first field in which they do. Without such an index it is
the one of the lengths. -/
inductive Describes (expected actual : List Record) : TraceMismatch → Prop
  /-- The records of one index differ, and those in front of it are equal. -/
  | record {i : Nat} {field : Record.Field} {e a : Record} (expected_at : expected[i]? = some e)
    (actual_at : actual[i]? = some a) (differs : field.FirstDiffers e a)
    (same : ∀ j < i, expected[j]? = actual[j]?) :
    Describes expected actual (.record i field e a)
  /-- All records of the shorter trace are equal to those of the longer one. -/
  | length (longer : expected.length ≠ actual.length)
    (same : ∀ j, j < expected.length → j < actual.length → expected[j]? = actual[j]?) :
    Describes expected actual (.length expected.length actual.length)

/-- The difference of traces behind some equal records. -/
def behind (records : Nat) : TraceMismatch → TraceMismatch
  | record index field expected actual => record (index + records) field expected actual
  | length expected actual => length (expected + records) (actual + records)

/-- The difference of traces whose roles are exchanged. -/
def swap : TraceMismatch → TraceMismatch
  | record index field expected actual => record index field actual expected
  | length expected actual => length actual expected

namespace Describes

variable {mismatch other : TraceMismatch}

/-- An equal record in front of both traces does not matter. -/
lemma cons (describes : Describes expected actual mismatch) (first : Record) :
    Describes (first :: expected) (first :: actual) (mismatch.behind 1) := by
  cases describes with
  | record expected_at actual_at differs same =>
    refine .record expected_at actual_at differs fun j before => ?_
    rcases j with _ | j
    · rfl
    · exact same j (Nat.lt_of_succ_lt_succ before)
  | length longer same =>
    refine .length (fun h => longer (Nat.succ.inj h)) fun j inside inside' => ?_
    rcases j with _ | j
    · rfl
    · exact same j (Nat.lt_of_succ_lt_succ inside) (Nat.lt_of_succ_lt_succ inside')

/-- The roles of the traces may be exchanged. -/
lemma swap (describes : Describes expected actual mismatch) :
    Describes actual expected mismatch.swap := by
  cases describes with
  | record expected_at actual_at differs same =>
    exact .record actual_at expected_at differs.swap fun j before => (same j before).symm
  | length longer same =>
    exact .length longer.symm fun j inside inside' => (same j inside' inside).symm

/-- Traces with a difference are not equal. -/
lemma ne (describes : Describes expected actual mismatch) : expected ≠ actual := by
  rintro rfl
  cases describes with
  | record expected_at actual_at differs same =>
    exact differs.1.ne (Option.some.inj (expected_at.symm.trans actual_at))
  | length longer same => exact longer rfl

/-- **Two traces have one first difference at most.** -/
theorem unique (first : Describes expected actual mismatch)
    (second : Describes expected actual other) : mismatch = other := by
  have apart {i : Nat} {field : Record.Field} {e a : Record} (expected_at : expected[i]? = some e)
      (actual_at : actual[i]? = some a) (differs : field.FirstDiffers e a) :
      expected[i]? ≠ actual[i]? := by
    rw [expected_at, actual_at]
    exact fun same => differs.1.ne (Option.some.inj same)
  cases first with
  | @record i field e a expected_at actual_at differs same =>
    cases second with
    | @record i' field' e' a' expected_at' actual_at' differs' same' =>
      rcases Nat.lt_trichotomy i i' with before | rfl | behind
      · exact absurd (same' i before) (apart expected_at actual_at differs)
      · obtain rfl := Option.some.inj (expected_at.symm.trans expected_at')
        obtain rfl := Option.some.inj (actual_at.symm.trans actual_at')
        rw [← Record.firstMismatch?_eq_some_iff] at differs differs'
        rw [Option.some.inj (differs.symm.trans differs')]
      · exact absurd (same i' behind) (apart expected_at' actual_at' differs')
    | length longer same' =>
      exact absurd (same' i (List.getElem?_eq_some_iff.mp expected_at).1
        (List.getElem?_eq_some_iff.mp actual_at).1) (apart expected_at actual_at differs)
  | length longer same =>
    cases second with
    | @record i field e a expected_at actual_at differs same' =>
      exact absurd (same i (List.getElem?_eq_some_iff.mp expected_at).1
        (List.getElem?_eq_some_iff.mp actual_at).1) (apart expected_at actual_at differs)
    | length longer' same' => rfl

end Describes

end TraceMismatch

/-- Where the records begin to be counted only matters for the numbers that are reported. -/
lemma traceMismatchFrom?_add (index records : Nat) (expected actual : List Record) :
    traceMismatchFrom? (index + records) expected actual =
      (traceMismatchFrom? index expected actual).map (·.behind records) := by
  induction expected generalizing index actual with
  | nil =>
    cases actual with
    | nil => rfl
    | cons a as =>
      simp [traceMismatchFrom?, TraceMismatch.behind, Nat.add_right_comm]
  | cons e es ih =>
    cases actual with
    | nil => simp [traceMismatchFrom?, TraceMismatch.behind, Nat.add_right_comm]
    | cons a as =>
      rw [traceMismatchFrom?, traceMismatchFrom?, Nat.add_right_comm]
      cases e.firstMismatch? a with
      | some field => rfl
      | none => exact ih (index + 1) as

/-- **The comparison goes on behind two equal records.** -/
theorem traceMismatch?_cons (e a : Record) (es as : List Record) :
    traceMismatch? (e :: es) (a :: as) =
      match e.firstMismatch? a with
      | some field => some (.record 0 field e a)
      | none => (traceMismatch? es as).map (·.behind 1) := by
  rw [traceMismatch?, traceMismatchFrom?, traceMismatchFrom?_add]
  rfl

/-- The comparison finds the first difference of two traces, or they are equal.

**Proof sketch.** Induction on the first trace. Either the first records differ, or they are equal
and the others are compared. -/
theorem traceMismatch?_sound (expected actual : List Record) :
    match traceMismatch? expected actual with
    | some mismatch => mismatch.Describes expected actual
    | none => expected = actual := by
  induction expected generalizing actual with
  | nil =>
    cases actual with
    | nil => rfl
    | cons a as =>
      have shorter : traceMismatch? [] (a :: as) = some (.length 0 (as.length + 1)) := by
        simp [traceMismatch?, traceMismatchFrom?]
      rw [shorter]
      exact .length (Nat.succ_ne_zero as.length).symm fun j inside => absurd inside (Nat.not_lt_zero j)
  | cons e es ih =>
    cases actual with
    | nil =>
      have longer : traceMismatch? (e :: es) [] = some (.length (es.length + 1) 0) := by
        simp [traceMismatch?, traceMismatchFrom?]
      rw [longer]
      exact .length (Nat.succ_ne_zero es.length) fun j _ inside => absurd inside (Nat.not_lt_zero j)
    | cons a as =>
      rw [traceMismatch?_cons]
      cases compared : e.firstMismatch? a with
      | some field =>
        exact .record rfl rfl (Record.firstMismatch?_eq_some_iff.mp compared) fun j before =>
          absurd before (Nat.not_lt_zero j)
      | none =>
        obtain rfl := (Record.firstMismatch?_eq_none_iff e a).mp compared
        have rest := ih as
        cases found : traceMismatch? es as with
        | some mismatch =>
          rw [found] at rest
          exact rest.cons e
        | none =>
          rw [found] at rest
          exact congrArg (e :: ·) rest

variable {expected actual : List Record}

/-- **Only equal traces are accepted.** -/
theorem traceMismatch?_eq_none_iff : traceMismatch? expected actual = none ↔ expected = actual := by
  have sound := traceMismatch?_sound expected actual
  cases found : traceMismatch? expected actual with
  | some mismatch =>
    rw [found] at sound
    exact ⟨nofun, fun same => absurd same sound.ne⟩
  | none =>
    rw [found] at sound
    exact ⟨fun _ => sound, fun _ => rfl⟩

/-- **For any others the first difference is found.** -/
theorem traceMismatch?_eq_some_iff {mismatch : TraceMismatch} :
    traceMismatch? expected actual = some mismatch ↔ mismatch.Describes expected actual := by
  have sound := traceMismatch?_sound expected actual
  cases found : traceMismatch? expected actual with
  | some other =>
    rw [found] at sound
    rw [Option.some.injEq]
    exact ⟨fun same => same ▸ sound, sound.unique⟩
  | none =>
    exact ⟨nofun, fun describes => absurd (traceMismatch?_eq_none_iff.mp found) describes.ne⟩

/-- If the roles of the traces are exchanged, so are those in what is found. -/
lemma traceMismatch?_swap (expected actual : List Record) :
    traceMismatch? actual expected = (traceMismatch? expected actual).map TraceMismatch.swap := by
  cases found : traceMismatch? expected actual with
  | some mismatch =>
    exact traceMismatch?_eq_some_iff.mpr (traceMismatch?_eq_some_iff.mp found).swap
  | none => exact traceMismatch?_eq_none_iff.mpr (traceMismatch?_eq_none_iff.mp found).symm

/-- **What the comparison finds.** It finds nothing if the traces are equal, and otherwise their
first difference: that of the first index below both lengths at which the records differ, together
with these records and the first field in which they do, and that of the lengths if there is no such
index. If the roles of the traces are exchanged, the same is found with the roles exchanged. The
words for a difference name its index and its field and show both records, or both lengths.

**Proof sketch.** The comparison finds a first difference or the traces are equal
(`Hex8.traceMismatch?_sound`), there is no other first difference
(`Hex8.TraceMismatch.Describes.unique`), and a difference stays one if the roles are exchanged
(`Hex8.TraceMismatch.Describes.swap`). -/
theorem comparison_finds_first_difference (expected actual : List Record) :
    (traceMismatch? expected actual = none ↔ expected = actual) ∧
      (∀ mismatch, traceMismatch? expected actual = some mismatch ↔
        mismatch.Describes expected actual) ∧
      traceMismatch? actual expected = (traceMismatch? expected actual).map TraceMismatch.swap ∧
      Record.Field.all.map Record.Field.name =
        ["pc", "inst", "areg", "breg", "memory", "address", "data"] ∧
      (∀ index field e a, (TraceMismatch.record index field e a).message =
        "record " ++ toString index ++ ": " ++ field.name ++ " mismatch" ++
          "\n   model: " ++ e.fieldText ++ "\n     sim: " ++ a.fieldText) ∧
      ∀ m n, (TraceMismatch.length m n).message =
        "trace length mismatch: model = " ++ toString m ++ ", sim = " ++ toString n := by
  refine ⟨traceMismatch?_eq_none_iff, fun mismatch => traceMismatch?_eq_some_iff,
    traceMismatch?_swap expected actual, rfl, fun index field e a => ?_, fun m n => rfl⟩
  rw [message_record, TraceMismatch.recordSummary]

end Hex8
