import Mathlib.Data.List.Infix
import Mathlib.Data.List.TakeWhile
import Mathlib.Tactic.Lemma

set_option relaxedAutoImplicit false
set_option autoImplicit false

/-!
# Parsing expressions

A parsing expression reads something at the front of a text, or does not match. It is deterministic:
of two alternatives the first one that matches counts, even if that is of no use later, and a
repetition goes on as long as it can. This is how grammars are read in which nothing is ambiguous.

## Main definitions

* `Hex8.Peg` — parsing expressions.
* `Hex8.Peg.literal`, `Hex8.Peg.char`, `Hex8.Peg.absent`, `Hex8.Peg.atEnd` — expressions without
  parts, and the look ahead.
* `Hex8.Peg.many`, `Hex8.Peg.many1` — repetitions.
* `Hex8.Peg.StopsAt` — expressions that never look past certain characters.

## Main results

* `Hex8.Peg.run_many_char` — a repetition of characters takes as many as there are.
* `Hex8.Peg.StopsAt.bind`, `Hex8.Peg.StopsAt.orElse`, `Hex8.Peg.StopsAt.many` — expressions stop
  where their parts stop.

## Design

A parsing expression is a function from a text to what it has read and what is left. Sequences are
those of the state monad, and alternatives those of optional values, so that the second alternative
starts where the first one has started.
-/

namespace Hex8

/-- Parsing expressions that read values of a type. -/
abbrev Peg : Type → Type :=
  StateT (List Char) Option

namespace Peg

variable {α β : Type}

/-! ## Expressions -/

/-- Reads the given characters. -/
def literal (keyword : String) : Peg Unit :=
  fun chars => (keyword.toList.isPrefixOf? chars).map ((), ·)

/-- Reads one character of a kind. -/
def char (kind : Char → Bool) : Peg Char
  | [] => none
  | c :: rest => if kind c then some (c, rest) else none

/-- Reads nothing, and matches where the given expression does not. -/
def absent (p : Peg α) : Peg Unit :=
  fun chars => if (p.run chars).isNone then some ((), chars) else none

/-- Reads nothing, and matches at the end. -/
def atEnd : Peg Unit :=
  fun chars => if chars.isEmpty then some ((), chars) else none

/-- Reads an expression again and again, as long as it matches. There is no repetition of nothing. -/
def many (p : Peg α) : Peg (List α)
  | chars =>
    match p.run chars with
    | none => some ([], chars)
    | some (a, rest) =>
      if rest.length < chars.length then
        (many p rest).map fun r => (a :: r.1, r.2)
      else some ([], chars)
termination_by chars => chars.length

/-- Reads an expression once, and then again and again. -/
def many1 (p : Peg α) : Peg (List α) := do
  let first ← p
  let others ← many p
  return first :: others

/-! ## What they read -/

/-- Characters are read if they are at the front. -/
theorem run_literal (keyword : String) (chars : List Char) :
    (literal keyword).run chars = (keyword.toList.isPrefixOf? chars).map ((), ·) := rfl

/-- Looking ahead reads nothing. -/
theorem run_absent (p : Peg α) (chars : List Char) :
    (absent p).run chars = if (p.run chars).isNone then some ((), chars) else none := rfl

/-- A sequence reads its second part where the first one has ended. -/
theorem run_bind (p : Peg α) (f : α → Peg β) (chars : List Char) :
    (p >>= f).run chars = (p.run chars).bind fun r => (f r.1).run r.2 := rfl

/-- The second alternative counts if the first one does not match. -/
theorem run_orElse (p q : Peg α) (chars : List Char) :
    (p <|> q).run chars = (p.run chars).or (q.run chars) := by
  change (p.run chars <|> q.run chars) = _
  exact Option.orElse_eq_or

/-- What is optional always matches. -/
theorem run_optional (p : Peg α) (chars : List Char) :
    (optional p).run chars =
      some (((p.run chars).map fun r => (some r.1, r.2)).getD (none, chars)) := by
  rw [optional, run_orElse, StateT.run_map, StateT.run_pure]
  cases p.run chars <;> rfl

/-- A character is the first one of the text. -/
theorem run_char_cons (kind : Char → Bool) (c : Char) (rest : List Char) :
    (char kind).run (c :: rest) = if kind c then some (c, rest) else none := rfl

/-- A repetition ends where the expression does not match. -/
theorem run_many_of_none {p : Peg α} {chars : List Char} (h : p.run chars = none) :
    (many p).run chars = some ([], chars) := by
  change many p chars = _
  rw [many, h]

/-- A repetition goes on behind what the expression has read. -/
theorem run_many_of_some {p : Peg α} {chars rest : List Char} {a : α}
    (h : p.run chars = some (a, rest)) (shorter : rest.length < chars.length) :
    (many p).run chars = ((many p).run rest).map fun r => (a :: r.1, r.2) := by
  change many p chars = _
  rw [many, h]
  exact if_pos shorter

/-- A repetition always matches. -/
theorem exists_run_many (p : Peg α) (chars : List Char) :
    ∃ r, (many p).run chars = some r := by
  induction size : chars.length using Nat.strong_induction_on generalizing chars with
  | _ n ih =>
    change ∃ r, many p chars = some r
    rw [many]
    rcases p.run chars with _ | ⟨a, rest⟩
    · exact ⟨_, rfl⟩
    · by_cases shorter : rest.length < chars.length
      · obtain ⟨r, found⟩ := ih rest.length (size ▸ shorter) rest rfl
        change many p rest = some r at found
        exact ⟨_, by simp only [shorter, if_true, found]; rfl⟩
      · exact ⟨_, if_neg shorter⟩

/-- A repetition of characters takes as many as there are. -/
theorem run_many_char (kind : Char → Bool) (chars : List Char) :
    (many (char kind)).run chars = some (chars.takeWhile kind, chars.dropWhile kind) := by
  induction chars with
  | nil => exact run_many_of_none rfl
  | cons c rest ih =>
    have first := run_char_cons kind c rest
    by_cases h : kind c = true
    · rw [if_pos h] at first
      rw [run_many_of_some first (Nat.lt_succ_self _), ih, List.takeWhile_cons_of_pos h,
        List.dropWhile_cons_of_pos h]
      rfl
    · rw [if_neg h] at first
      rw [run_many_of_none first, List.takeWhile_cons_of_neg h, List.dropWhile_cons_of_neg h]

/-- A repetition of at least one character. -/
theorem run_many1_char (kind : Char → Bool) (chars : List Char) :
    (many1 (char kind)).run chars =
      if (chars.takeWhile kind).isEmpty then none
      else some (chars.takeWhile kind, chars.dropWhile kind) := by
  cases chars with
  | nil => rfl
  | cons c rest =>
    have others := run_many_char kind rest
    rw [many1, run_bind, run_char_cons]
    by_cases h : kind c = true
    · rw [if_pos h, List.takeWhile_cons_of_pos h, List.dropWhile_cons_of_pos h, Option.bind_some,
        run_bind, others]
      rfl
    · rw [if_neg h, List.takeWhile_cons_of_neg h]
      rfl

/-! ## Expressions that stop at certain characters -/

/-- An expression stops at certain characters if it reads the same whatever they are followed by,
and only from what is in front of them. -/
structure StopsAt (stop : Char → Bool) (p : Peg α) : Prop where
  /-- What follows a stop does not matter. -/
  run_append {front tail : List Char} (free : ∀ c ∈ front, stop c = false)
    (stopped : ∀ c ∈ tail.head?, stop c = true) :
    p.run (front ++ tail) = (p.run front).map fun r => (r.1, r.2 ++ tail)
  /-- What is left is a part of what there was. -/
  suffix {front : List Char} {r : α × List Char} (h : p.run front = some r) : r.2 <:+ front

variable {stop : Char → Bool}

namespace StopsAt

/-- What is left has no stop in it if there was none. -/
theorem free_rest {p : Peg α} (hp : StopsAt stop p) {front : List Char} {r : α × List Char}
    (free : ∀ c ∈ front, stop c = false) (h : p.run front = some r) :
    ∀ c ∈ r.2, stop c = false :=
  fun c hc => free c ((hp.suffix h).mem hc)

/-- A sequence stops where its parts stop. -/
theorem bind {p : Peg α} {f : α → Peg β} (hp : StopsAt stop p) (hf : ∀ a, StopsAt stop (f a)) :
    StopsAt stop (p >>= f) where
  run_append {front tail} free stopped := by
    rw [run_bind, run_bind, hp.run_append free stopped]
    rcases h : p.run front with _ | ⟨a, rest⟩
    · rfl
    · exact (hf a).run_append (hp.free_rest free h) stopped
  suffix {front r} h := by
    rw [run_bind, Option.bind_eq_some_iff] at h
    obtain ⟨⟨a, rest⟩, first, second⟩ := h
    exact ((hf a).suffix second).trans (hp.suffix first)

/-- An alternative stops where both of its parts stop. -/
theorem orElse {p q : Peg α} (hp : StopsAt stop p) (hq : StopsAt stop q) :
    StopsAt stop (p <|> q) where
  run_append {front tail} free stopped := by
    rw [run_orElse, run_orElse, hp.run_append free stopped, hq.run_append free stopped]
    cases p.run front <;> rfl
  suffix {front r} h := by
    rw [run_orElse, Option.or_eq_some_iff] at h
    rcases h with h | ⟨-, h⟩
    · exact hp.suffix h
    · exact hq.suffix h

/-- A repetition stops where its parts stop. -/
theorem many {p : Peg α} (hp : StopsAt stop p) : StopsAt stop (Peg.many p) where
  run_append {front tail} free stopped := by
    induction size : front.length using Nat.strong_induction_on generalizing front with
    | _ n ih =>
      have whole := hp.run_append free stopped
      change Peg.many p (front ++ tail) = (Peg.many p front).map _
      rw [Peg.many, Peg.many, whole]
      rcases h : p.run front with _ | ⟨a, rest⟩
      · rfl
      · have shorter : (rest ++ tail).length < (front ++ tail).length ↔
            rest.length < front.length := by simp
        simp only [Option.map_some, shorter]
        by_cases less : rest.length < front.length
        · have others := ih rest.length (size ▸ less) (hp.free_rest free h) rfl
          change Peg.many p (rest ++ tail) = (Peg.many p rest).map _ at others
          rw [if_pos less, if_pos less, others, Option.map_map, Option.map_map]
          rfl
        · rw [if_neg less, if_neg less]
          rfl
  suffix {front r} found := by
    induction size : front.length using Nat.strong_induction_on generalizing front r with
    | _ n ih =>
      change Peg.many p front = some r at found
      rw [Peg.many] at found
      rcases h : p.run front with _ | ⟨a, rest⟩
      · rw [h] at found
        cases found
        exact List.suffix_rfl
      · rw [h] at found
        by_cases less : rest.length < front.length
        · simp only [less, if_true, Option.map_eq_some_iff] at found
          obtain ⟨r', found, rfl⟩ := found
          exact (ih rest.length (size ▸ less) found rfl).trans (hp.suffix h)
        · simp only [less, if_false, Option.some.injEq] at found
          cases found
          exact List.suffix_rfl

end StopsAt

/-- Reading nothing stops everywhere. -/
theorem stopsAt_pure (a : α) : StopsAt stop (pure a : Peg α) where
  run_append _ _ := rfl
  suffix h := by
    cases h
    exact List.suffix_rfl

/-- What becomes of the value does not matter. -/
theorem StopsAt.map {p : Peg α} (f : α → β) (hp : StopsAt stop p) : StopsAt stop (f <$> p) :=
  hp.bind fun a => stopsAt_pure (f a)

/-- What is optional stops where it would stop. -/
theorem stopsAt_optional {p : Peg α} (hp : StopsAt stop p) : StopsAt stop (optional p) :=
  (hp.map some).orElse (stopsAt_pure none)

/-- So does a repetition of at least once. -/
theorem stopsAt_many1 {p : Peg α} (hp : StopsAt stop p) : StopsAt stop (many1 p) :=
  hp.bind fun _ => hp.many.bind fun _ => stopsAt_pure _

/-- A character that is no stop. -/
theorem stopsAt_char {kind : Char → Bool} (h : ∀ c, stop c = true → kind c = false) :
    StopsAt stop (char kind) where
  run_append {front tail} free stopped := by
    cases front with
    | cons c rest =>
      rw [List.cons_append, run_char_cons, run_char_cons]
      cases kind c <;> rfl
    | nil =>
      cases tail with
      | nil => rfl
      | cons c rest =>
        rw [List.nil_append, run_char_cons, h c (stopped c rfl)]
        rfl
  suffix {front r} found := by
    cases front with
    | nil => cases found
    | cons c rest =>
      rw [run_char_cons, Option.ite_none_right_eq_some] at found
      cases found.2
      exact List.suffix_cons c rest

/-- Characters none of which is a stop are found in front of the first stop, if at all. -/
lemma isPrefixOf?_append {keyword front tail : List Char} (h : ∀ c ∈ keyword, stop c = false)
    (stopped : ∀ c ∈ tail.head?, stop c = true) :
    keyword.isPrefixOf? (front ++ tail) = (keyword.isPrefixOf? front).map (· ++ tail) := by
  induction keyword generalizing front with
  | nil => rfl
  | cons k keyword ih =>
    cases front with
    | cons c rest =>
      have others := @ih rest fun c hc => h c (List.mem_cons_of_mem k hc)
      simp only [List.cons_append, List.isPrefixOf?]
      by_cases same : (k == c) = true
      · rw [if_pos same, if_pos same, others]
      · rw [if_neg same, if_neg same]
        rfl
    | nil =>
      cases tail with
      | nil => rfl
      | cons c rest =>
        have differ : ¬(k == c) = true := by
          intro same
          rw [beq_iff_eq] at same
          have := h k List.mem_cons_self
          rw [same, stopped c rfl] at this
          cases this
        exact if_neg differ

/-- Characters none of which is a stop. -/
theorem stopsAt_literal {keyword : String} (h : keyword.toList.any stop = false) :
    StopsAt stop (literal keyword) where
  run_append {front tail} free stopped := by
    have without : ∀ c ∈ keyword.toList, stop c = false := by
      simpa only [List.any_eq_false, Bool.not_eq_true] using h
    change (keyword.toList.isPrefixOf? (front ++ tail)).map _ =
      ((keyword.toList.isPrefixOf? front).map _).map _
    rw [isPrefixOf?_append without stopped, Option.map_map, Option.map_map]
    rfl
  suffix {front r} found := by
    change (keyword.toList.isPrefixOf? front).map _ = some r at found
    rw [Option.map_eq_some_iff] at found
    obtain ⟨rest, found, rfl⟩ := found
    exact ⟨keyword.toList, List.isPrefixOf?_eq_some_iff_append_eq.mp found⟩

end Peg

end Hex8
