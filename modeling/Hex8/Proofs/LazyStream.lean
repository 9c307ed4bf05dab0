import Mathlib.Order.Bounds.Basic
import Mathlib.Tactic.Lemma
import Hex8.Trace.Stream

set_option relaxedAutoImplicit false
set_option autoImplicit false

/-!
# Streams of records are lazy

A cycle may complete no instruction, one or two, so a stream of records has to look at a varying
number of samples for the next few records. It looks at the fewest that will do. What it has found
and not handed out yet is what it hands out next, and the tracer has seen nothing more.

## Main definitions

* `Hex8.Tracer.emitted` — the records that the first few of some samples lead to.
* `Hex8.Tracer.demand` — how many samples have to be looked at for some number of records.

## Main results

* `Hex8.Tracer.isLeast_demand` — no fewer samples would do.
* `Hex8.RecordStream.take_eq` — what a stream hands out, and what it has become then.
* `Hex8.RecordStream.take_stream_lazy` — a stream on top of a list of samples loses nothing and
  asks for nothing too early.

## Design

The demand follows the recursion over the samples, not over the records: at each sample it is known
how many records are still missing. Records that wait are taken into account by `take_eq` alone, so
that the same lemma describes a stream at its beginning and in the middle of a sample.
-/

namespace Hex8

namespace Tracer

/-- The records that the first `pulled` of some samples lead to. -/
def emitted (tracer : Tracer) (samples : List Signals) (pulled : Nat) : List Record :=
  (tracer.sampleAll (samples.take pulled)).2

/-- How many samples have to be looked at until `n` more records are known, or all samples if they
do not lead to so many. -/
def demand : Tracer → Nat → List Signals → Nat
  | _, 0, _ => 0
  | _, _ + 1, [] => 0
  | tracer, n + 1, signals :: rest =>
    demand (tracer.sample signals).1 (n + 1 - (tracer.sample signals).2.length) rest + 1

/-- Without a sample there is no record. -/
@[simp] lemma emitted_zero (tracer : Tracer) (samples : List Signals) :
    tracer.emitted samples 0 = [] := rfl

/-- The records of the first sample come first. -/
lemma emitted_cons_succ (tracer : Tracer) (signals : Signals) (rest : List Signals)
    (pulled : Nat) :
    tracer.emitted (signals :: rest) (pulled + 1) =
      (tracer.sample signals).2 ++ (tracer.sample signals).1.emitted rest pulled := by
  simp [emitted, sampleAll]

/-- Behind the last sample there is nothing more to be looked at. -/
lemma demand_le_length (tracer : Tracer) (n : Nat) (samples : List Signals) :
    tracer.demand n samples ≤ samples.length := by
  induction samples generalizing tracer n with
  | nil => cases n <;> simp [demand]
  | cons signals rest ih =>
    cases n with
    | zero => simp [demand]
    | succ n =>
      simp only [demand, List.length_cons]
      have := ih (tracer.sample signals).1 (n + 1 - (tracer.sample signals).2.length)
      omega

/-- The samples that are looked at lead to as many records as are asked for, or they are all. -/
lemma le_emitted_demand (tracer : Tracer) (n : Nat) (samples : List Signals) :
    n ≤ (tracer.emitted samples (tracer.demand n samples)).length ∨
      tracer.demand n samples = samples.length := by
  induction samples generalizing tracer n with
  | nil => cases n <;> simp [demand]
  | cons signals rest ih =>
    cases n with
    | zero => simp [demand]
    | succ n =>
      simp only [demand, emitted_cons_succ, List.length_append, List.length_cons]
      have := ih (tracer.sample signals).1 (n + 1 - (tracer.sample signals).2.length)
      omega

/-- Fewer samples lead to fewer records than are asked for. -/
lemma demand_le (tracer : Tracer) (n : Nat) (samples : List Signals) {pulled : Nat}
    (enough : n ≤ (tracer.emitted samples pulled).length) :
    tracer.demand n samples ≤ pulled := by
  induction samples generalizing tracer n pulled with
  | nil => cases n <;> simp [demand]
  | cons signals rest ih =>
    cases n with
    | zero => simp [demand]
    | succ n =>
      -- no record is known before the first sample
      cases pulled with
      | zero => simp at enough
      | succ pulled =>
        rw [emitted_cons_succ, List.length_append] at enough
        rw [demand]
        apply Nat.succ_le_succ
        apply ih
        omega

/-- **No fewer samples would do.** The demand is the least number of samples that lead to as many
records as are asked for, or the number of all samples. -/
theorem isLeast_demand (tracer : Tracer) (n : Nat) (samples : List Signals) :
    IsLeast
      {pulled | n ≤ (tracer.emitted samples pulled).length ∨ pulled = samples.length}
      (tracer.demand n samples) := by
  refine ⟨tracer.le_emitted_demand n samples, ?_⟩
  rintro pulled (enough | rfl)
  · exact tracer.demand_le n samples enough
  · exact tracer.demand_le_length n samples

end Tracer

namespace RecordStream

variable (tracer : Tracer)

/-- Records that wait are handed out without asking for a sample. -/
lemma take_of_le_pending {σ : Type} [SampleSource σ] (source : σ) {n : Nat}
    {pending : List Record} (h : n ≤ pending.length) :
    take n ⟨tracer, source, pending⟩ = (pending.take n, ⟨tracer, source, pending.drop n⟩) := by
  induction n generalizing pending with
  | zero => simp
  | succ n ih =>
    cases pending with
    | nil => simp at h
    | cons record pending =>
      rw [take_succ, next_of_pending]
      simp only
      rw [ih (by simpa using h)]
      simp

/-- Records that wait come first. -/
lemma take_of_pending_le {σ : Type} [SampleSource σ] (source : σ) {n : Nat}
    {pending : List Record} (h : pending.length ≤ n) :
    take n ⟨tracer, source, pending⟩ =
      (pending ++ (take (n - pending.length) ⟨tracer, source, []⟩).1,
        (take (n - pending.length) ⟨tracer, source, []⟩).2) := by
  induction pending generalizing n with
  | nil => simp
  | cons record pending ih =>
    obtain ⟨n, rfl⟩ : ∃ k, n = k + 1 := Nat.exists_eq_add_one.mpr (by simp at h; omega)
    rw [take_succ, next_of_pending]
    simp only
    rw [ih (by simpa using h)]
    simp

/-- If no record waits, a record that is asked for is looked for behind one more sample. -/
lemma take_of_sample (n : Nat) (signals : Signals) (rest : List Signals) :
    take (n + 1) ⟨tracer, signals :: rest, []⟩ =
      take (n + 1) ⟨(tracer.sample signals).1, rest, (tracer.sample signals).2⟩ := by
  have found : SampleSource.next? (signals :: rest) = some (signals, rest) := rfl
  rw [take_succ, next_of_sample tracer found, ← take_succ]

/-- If no record waits, none is handed out behind the last sample. -/
lemma take_of_exhausted (n : Nat) :
    take n ⟨tracer, ([] : List Signals), []⟩ = ([], ⟨tracer, [], []⟩) := by
  cases n with
  | zero => rfl
  | succ n => rw [take_succ, next_of_exhausted tracer rfl]

/-- What a stream hands out if `pulled` samples are looked at for the next `n` records. -/
def takenBy (n pulled : Nat) (stream : RecordStream (List Signals)) :
    List Record × RecordStream (List Signals) :=
  let known := stream.pending ++ stream.tracer.emitted stream.source pulled
  (known.take n,
    { tracer := (stream.tracer.sampleAll (stream.source.take pulled)).1
      source := stream.source.drop pulled
      pending := known.drop n })

/-- **What a stream hands out.** For the next `n` records, a stream looks at as many samples as the
records behind those that wait demand. It hands out the first `n` of the records that it knows then,
and the others wait.

**Proof sketch.** By induction on the samples. If enough records wait, no sample is looked at.
Otherwise the waiting ones are handed out first. The rest is looked for behind one more sample,
whose records wait then, and the hypothesis covers the samples behind it. -/
theorem take_eq (samples : List Signals) (n : Nat) (pending : List Record) :
    take n ⟨tracer, samples, pending⟩ =
      takenBy n (tracer.demand (n - pending.length) samples) ⟨tracer, samples, pending⟩ := by
  induction samples generalizing tracer n pending with
  | nil =>
    rcases Nat.le_total n pending.length with h | h
    · rw [take_of_le_pending tracer _ h, Nat.sub_eq_zero_of_le h]
      simp [takenBy, Tracer.demand, Tracer.sampleAll]
    · rw [take_of_pending_le tracer _ h, take_of_exhausted]
      simp [takenBy, Tracer.emitted, Tracer.sampleAll, List.take_of_length_le h,
        List.drop_of_length_le h]
  | cons signals rest ih =>
    rcases Nat.lt_or_ge pending.length n with h | h
    · obtain ⟨missing, hmissing⟩ : ∃ k, n - pending.length = k + 1 :=
        Nat.exists_eq_add_one.mpr (by omega)
      rw [take_of_pending_le tracer _ (by omega), hmissing, take_of_sample, ih]
      have split (records : List Record) :
          (pending ++ records).take n = pending ++ records.take (missing + 1) ∧
            (pending ++ records).drop n = records.drop (missing + 1) := by
        rw [List.take_append, List.drop_append, hmissing, List.take_of_length_le (by omega),
          List.drop_of_length_le (by omega)]
        simp
      simp only [takenBy, Tracer.demand, Tracer.emitted_cons_succ, List.take_succ_cons,
        List.drop_succ_cons, Tracer.sampleAll, split]
    · rw [take_of_le_pending tracer _ h, Nat.sub_eq_zero_of_le h]
      simp [takenBy, Tracer.demand, Tracer.sampleAll]

/-- The records that are known and those that the remaining samples lead to are all. -/
lemma emitted_append_sampleAll_drop (samples : List Signals) (pulled : Nat) :
    tracer.emitted samples pulled ++
        ((tracer.sampleAll (samples.take pulled)).1.sampleAll (samples.drop pulled)).2 =
      (tracer.sampleAll samples).2 := by
  conv_rhs => rw [← List.take_append_drop pulled samples, Tracer.sampleAll_append]
  rfl

/-- The first records are those of the samples that they demand. -/
lemma take_emitted_demand (samples : List Signals) (n : Nat) :
    (tracer.emitted samples (tracer.demand n samples)).take n =
      (tracer.sampleAll samples).2.take n := by
  rcases tracer.le_emitted_demand n samples with enough | all
  · rw [← emitted_append_sampleAll_drop tracer samples (tracer.demand n samples),
      List.take_append_of_le_length enough]
  · rw [all, Tracer.emitted, List.take_length]

/-- The records that a stream hands out are the first ones of those that wait and of those that all
its samples lead to. -/
theorem take_fst (samples : List Signals) (n : Nat) (pending : List Record) :
    (take n ⟨tracer, samples, pending⟩).1 =
      (pending ++ (tracer.sampleAll samples).2).take n := by
  rw [take_eq]
  simp only [takenBy]
  rw [List.take_append, List.take_append, take_emitted_demand]

/-- **Streams are lazy and lose nothing.** For `n` records, a stream on top of a list of samples
hands out the first `n` of all records that the samples lead to. It pulls the fewest samples that
lead to `n` records, or all of them, and its tracer has seen no others. The records of these samples
that have not been handed out wait. They come next, and no sample is pulled for them.

**Proof sketch.** `take_eq` describes the stream, and `isLeast_demand` the number of samples that it
has pulled. For the next `m` records both are used again, now with records that wait. -/
theorem take_stream_lazy (samples : List Signals) (n : Nat) :
    let all := (tracer.sampleAll samples).2
    let (taken, rest) := (tracer.stream samples).take n
    taken = all.take n ∧
      ∃ pulled,
        IsLeast
          {p | n ≤ (tracer.sampleAll (samples.take p)).2.length ∨ p = samples.length} pulled ∧
        rest.source = samples.drop pulled ∧
        rest.tracer = (tracer.sampleAll (samples.take pulled)).1 ∧
        rest.pending = (tracer.sampleAll (samples.take pulled)).2.drop n ∧
        ∀ m,
          (rest.take m).1 = (all.drop n).take m ∧
          (m ≤ rest.pending.length →
            rest.take m = (rest.pending.take m, { rest with pending := rest.pending.drop m })) := by
  intro all
  have stream : (tracer.stream samples).take n =
      takenBy n (tracer.demand n samples) (tracer.stream samples) := by
    simpa [Tracer.stream] using take_eq tracer samples n []
  have records : (tracer.emitted samples (tracer.demand n samples)).take n = all.take n :=
    take_emitted_demand tracer samples n
  rw [stream]
  simp only [takenBy, Tracer.stream, List.nil_append]
  refine ⟨records, tracer.demand n samples, tracer.isLeast_demand n samples, rfl, rfl, rfl, ?_⟩
  intro m
  constructor
  · -- what waits and what is left to be seen are the records behind the first `n`
    rw [take_fst]
    congr 1
    apply (List.append_right_inj (all.take n)).mp
    rw [List.take_append_drop, ← records, ← List.append_assoc, List.take_append_drop]
    exact emitted_append_sampleAll_drop tracer samples (tracer.demand n samples)
  · intro h
    exact take_of_le_pending _ _ h

end RecordStream

end Hex8
