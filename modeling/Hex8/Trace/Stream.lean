import Hex8.Trace.Source
import Hex8.Trace.Tracer

set_option relaxedAutoImplicit false
set_option autoImplicit false

/-!
# Streams of records

A tracer on top of a source of samples is a source of records. It is lazy: a sample is asked for
only when every record that the earlier ones have led to has been handed out.

## Main definitions

* `Hex8.RecordStream` — a tracer, its source, and the records that wait to be handed out.
* `Hex8.RecordStream.next` — the next record.
* `Hex8.RecordStream.take` — the next few records.
* `Hex8.RecordStream.drain` — all records that are left.

## Main results

* `Hex8.RecordStream.next_of_pending`, `Hex8.RecordStream.next_of_sample`,
  `Hex8.RecordStream.next_of_exhausted` — where the next record comes from.
* `Hex8.RecordStream.take_succ` — taking records is taking one and then the others.
-/

namespace Hex8

/-- A tracer on top of a source of samples. -/
structure RecordStream (σ : Type) where
  /-- The tracer. -/
  tracer : Tracer
  /-- Where the samples come from. -/
  source : σ
  /-- Records that have been found and wait to be handed out. -/
  pending : List Record

/-- Puts a tracer on top of a source of samples. -/
def Tracer.stream {σ : Type} (tracer : Tracer) (source : σ) : RecordStream σ :=
  { tracer, source, pending := [] }

namespace RecordStream

variable {σ : Type} [SampleSource σ]

/-- The next record, if there is one before the samples end, and the stream behind it. -/
def next (stream : RecordStream σ) : Option Record × RecordStream σ :=
  match stream.pending with
  | record :: pending => (some record, { stream with pending })
  | [] =>
    match _found : SampleSource.next? stream.source with
    | none => (none, stream)
    | some (signals, source) =>
      let (tracer, pending) := stream.tracer.sample signals
      next { tracer, source, pending }
termination_by SampleSource.remaining stream.source
decreasing_by
  have := SampleSource.remaining_of_next? _found
  omega

/-- The next `n` records behind those that are given, the last one first, as far as there are so
many, and the stream behind them. -/
def takeBehind (done : List Record) : Nat → RecordStream σ → List Record × RecordStream σ
  | 0, stream => (done.reverse, stream)
  | n + 1, stream =>
    match stream.next with
    | (none, stream) => (done.reverse, stream)
    | (some record, stream) => takeBehind (record :: done) n stream

/-- The next `n` records, as far as there are so many, and the stream behind them. -/
def take (n : Nat) (stream : RecordStream σ) : List Record × RecordStream σ :=
  takeBehind [] n stream

/-- All records that are left, and the stream behind them. -/
def drain (stream : RecordStream σ) : List Record × RecordStream σ :=
  match _found : SampleSource.next? stream.source with
  | none => (stream.pending, { stream with pending := [] })
  | some (signals, source) =>
    let (tracer, pending) := stream.tracer.sample signals
    let (records, rest) := drain { tracer, source, pending }
    (stream.pending ++ records, rest)
termination_by SampleSource.remaining stream.source
decreasing_by
  have := SampleSource.remaining_of_next? _found
  omega

/-- A record that waits is handed out without asking for a sample. -/
theorem next_of_pending (tracer : Tracer) (source : σ) (record : Record)
    (pending : List Record) :
    next ⟨tracer, source, record :: pending⟩ = (some record, ⟨tracer, source, pending⟩) := by
  rw [next]

/-- Behind the last sample there are no records. -/
theorem next_of_exhausted (tracer : Tracer) {source : σ}
    (h : SampleSource.next? source = none) :
    next ⟨tracer, source, []⟩ = (none, ⟨tracer, source, []⟩) := by
  rw [next]
  dsimp only
  split
  · rfl
  · next found =>
    rw [h] at found
    cases found

/-- If no record waits, the next one is looked for behind one more sample. -/
theorem next_of_sample (tracer : Tracer) {source rest : σ} {signals : Signals}
    (h : SampleSource.next? source = some (signals, rest)) :
    next ⟨tracer, source, []⟩ =
      next ⟨(tracer.sample signals).1, rest, (tracer.sample signals).2⟩ := by
  rw [next]
  dsimp only
  split
  · next found =>
    rw [h] at found
    cases found
  · next found =>
    rw [h] at found
    cases found
    rfl

/-- Earlier records only stand in front of the later ones. -/
theorem takeBehind_eq (done : List Record) (n : Nat) (stream : RecordStream σ) :
    takeBehind done n stream = (done.reverse ++ (take n stream).1, (take n stream).2) := by
  induction n generalizing done stream with
  | zero => simp [take, takeBehind]
  | succ n ih =>
    rw [take, takeBehind, takeBehind]
    rcases stream.next with ⟨_ | record, rest⟩
    · simp
    · simp only
      rw [ih, ih [record]]
      simp

/-- No records are taken without asking for a sample. -/
@[simp] theorem take_zero (stream : RecordStream σ) : take 0 stream = ([], stream) := rfl

/-- Taking records is taking one and then the others. -/
theorem take_succ (n : Nat) (stream : RecordStream σ) :
    take (n + 1) stream =
      match stream.next with
      | (none, rest) => ([], rest)
      | (some record, rest) => (record :: (take n rest).1, (take n rest).2) := by
  rw [take, takeBehind]
  rcases stream.next with ⟨_ | record, rest⟩
  · rfl
  · simp only
    rw [takeBehind_eq]
    rfl

end RecordStream

end Hex8
