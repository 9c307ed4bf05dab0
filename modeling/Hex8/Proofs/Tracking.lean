import Hex8.Proofs.Peg

set_option relaxedAutoImplicit false
set_option autoImplicit false

/-!
# Where rules fail

When a text does not fit a grammar, the place that is reported is the furthest one where a rule has
failed on the way. An expression does not tell this by what it reads: a rule may also fail inside
one that succeeds, or in an alternative that is given up for another one. So the places are tracked
while an expression is tried.

## Main definitions

* `Hex8.Peg.Tracked` — an expression, and where rules fail while it is tried.
* `Hex8.Peg.Tracked.rule`, `Hex8.Peg.Tracked.silent` — the failure of an expression is tracked, or
  is not.
* `Hex8.Peg.Tracked.Furthest` — the furthest place where a rule fails.
* `Hex8.Peg.Tracked.Within` — no rule fails beyond a place.
* `Hex8.Peg.Tracked.StopsAt` — expressions that neither look past certain characters nor fail there.

## Main results

* `Hex8.Peg.Tracked.Within.bind`, `Hex8.Peg.Tracked.Within.orElse` — rules fail within a place if
  those of the parts do.
* `Hex8.Peg.Tracked.StopsAt.bind`, `Hex8.Peg.Tracked.StopsAt.orElse` — expressions stop where their
  parts stop.

## Design

A place is given by what is left of the text behind it, so that it does not depend on where the text
begins. It is the further, the less is left.
-/

namespace Hex8.Peg

/-- A parsing expression, and what is left of a text at each place where a rule fails while the
expression is tried. -/
@[ext]
structure Tracked (α : Type) where
  /-- The expression. -/
  peg : Peg α
  /-- The places. -/
  failures : List Char → List (List Char)

namespace Tracked

variable {α β : Type}

/-! ## Expressions -/

/-- Sequences. The second part is tried where the first one has ended. -/
instance : Monad Tracked where
  pure a := { peg := pure a, failures := fun _ => [] }
  bind p f :=
    { peg := p.peg >>= fun a => (f a).peg
      failures := fun chars =>
        p.failures chars ++
          match p.peg.run chars with
          | some (a, rest) => (f a).failures rest
          | none => [] }

/-- Alternatives. The second one is tried if the first one does not match. -/
instance : OrElse (Tracked α) where
  orElse p q :=
    { peg := p.peg <|> (q ()).peg
      failures := fun chars =>
        p.failures chars ++ if (p.peg.run chars).isSome then [] else (q ()).failures chars }

/-- An expression that is no rule and has none inside. -/
def silent (p : Peg α) : Tracked α where
  peg := p
  failures _ := []

/-- A rule. -/
def rule (p : Tracked α) : Tracked α where
  peg := p.peg
  failures chars := p.failures chars ++ if (p.peg.run chars).isSome then [] else [chars]

/-- What is optional always matches, but rules may fail inside. -/
def maybe (p : Tracked α) : Tracked (Option α) where
  peg := optional p.peg
  failures := p.failures

/-- Where rules fail in a repetition. -/
def failuresMany (p : Tracked α) (chars : List Char) : List (List Char) :=
  p.failures chars ++
    match p.peg.run chars with
    | some (_, rest) => if rest.length < chars.length then failuresMany p rest else []
    | none => []
termination_by chars.length

/-- A repetition. -/
def many (p : Tracked α) : Tracked (List α) where
  peg := Peg.many p.peg
  failures := p.failuresMany

/-! ## Where their rules fail -/

/-- A sequence reads what its parts read. -/
theorem peg_bind (p : Tracked α) (f : α → Tracked β) :
    (p >>= f).peg = p.peg >>= fun a => (f a).peg := rfl

/-- A sequence whose first part matches. -/
theorem failures_bind_of_some {p : Tracked α} {f : α → Tracked β} {chars rest : List Char} {a : α}
    (h : p.peg.run chars = some (a, rest)) :
    (p >>= f).failures chars = p.failures chars ++ (f a).failures rest := by
  change p.failures chars ++ _ = _
  rw [h]

/-- A sequence whose first part does not match. -/
theorem failures_bind_of_none {p : Tracked α} {f : α → Tracked β} {chars : List Char}
    (h : p.peg.run chars = none) : (p >>= f).failures chars = p.failures chars := by
  change p.failures chars ++ _ = _
  rw [h, List.append_nil]

/-- An alternative whose first part matches. -/
theorem failures_orElse_of_some {p q : Tracked α} {chars : List Char} {r : α × List Char}
    (h : p.peg.run chars = some r) : (p <|> q).failures chars = p.failures chars := by
  change p.failures chars ++ _ = _
  rw [h]
  exact List.append_nil _

/-- An alternative whose first part does not match. -/
theorem failures_orElse_of_none {p q : Tracked α} {chars : List Char}
    (h : p.peg.run chars = none) :
    (p <|> q).failures chars = p.failures chars ++ q.failures chars := by
  change p.failures chars ++ _ = _
  rw [h]
  rfl

/-- A rule that matches. -/
theorem failures_rule_of_some {p : Tracked α} {chars : List Char} {r : α × List Char}
    (h : p.peg.run chars = some r) : (rule p).failures chars = p.failures chars := by
  change p.failures chars ++ _ = _
  rw [h]
  exact List.append_nil _

/-- A rule that does not match. -/
theorem failures_rule_of_none {p : Tracked α} {chars : List Char} (h : p.peg.run chars = none) :
    (rule p).failures chars = p.failures chars ++ [chars] := by
  change p.failures chars ++ _ = _
  rw [h]
  rfl

/-- A repetition that goes on. -/
theorem failures_many_of_some {p : Tracked α} {chars rest : List Char} {a : α}
    (h : p.peg.run chars = some (a, rest)) (shorter : rest.length < chars.length) :
    (many p).failures chars = p.failures chars ++ (many p).failures rest := by
  change failuresMany p chars = _
  rw [failuresMany, h]
  exact congrArg (p.failures chars ++ ·) (if_pos shorter)

/-- A repetition that ends. -/
theorem failures_many_of_none {p : Tracked α} {chars : List Char} (h : p.peg.run chars = none) :
    (many p).failures chars = p.failures chars := by
  change failuresMany p chars = _
  rw [failuresMany, h]
  exact List.append_nil _

/-- It does not matter how the parts of a sequence are grouped. -/
instance : LawfulMonad Tracked := by
  refine LawfulMonad.mk' Tracked ?_ ?_ ?_
  · intro α p
    ext1
    · exact bind_pure p.peg
    · funext chars
      rcases run : p.peg.run chars with _ | ⟨a, rest⟩
      · exact failures_bind_of_none run
      · exact (failures_bind_of_some run).trans (List.append_nil _)
  · intro α β a f
    ext1
    · exact pure_bind a fun a => (f a).peg
    · rfl
  · intro α β γ p f g
    ext1
    · exact bind_assoc p.peg (fun a => (f a).peg) fun b => (g b).peg
    · funext chars
      rcases first : p.peg.run chars with _ | ⟨a, rest⟩
      · have both : (p >>= f).peg.run chars = none := by
          rw [peg_bind, run_bind, first, Option.bind_none]
        rw [failures_bind_of_none both, failures_bind_of_none first, failures_bind_of_none first]
      · rw [failures_bind_of_some first]
        rcases second : (f a).peg.run rest with _ | ⟨b, rest'⟩
        · have both : (p >>= f).peg.run chars = none := by
            rw [peg_bind, run_bind, first, Option.bind_some, second]
          rw [failures_bind_of_none both, failures_bind_of_some first,
            failures_bind_of_none second]
        · have both : (p >>= f).peg.run chars = some (b, rest') := by
            rw [peg_bind, run_bind, first, Option.bind_some, second]
          rw [failures_bind_of_some both, failures_bind_of_some first,
            failures_bind_of_some second, List.append_assoc]

/-! ## Failures of the parts -/

section Members

variable {p q : Tracked α} {f : α → Tracked β} {chars rest place : List Char} {a : α}

/-- A rule that does not match fails where it begins. -/
theorem mem_failures_rule_self (h : p.peg.run chars = none) : chars ∈ p.rule.failures chars := by
  rw [failures_rule_of_none h]
  exact List.mem_append_right _ List.mem_cons_self

/-- What fails in a rule fails while the rule is tried. -/
theorem mem_failures_rule (h : place ∈ p.failures chars) : place ∈ p.rule.failures chars :=
  List.mem_append_left _ h

/-- What fails in the first part of a sequence. -/
theorem mem_failures_bind_left (h : place ∈ p.failures chars) :
    place ∈ (p >>= f).failures chars :=
  List.mem_append_left _ h

/-- What fails in the second part of a sequence. -/
theorem mem_failures_bind_right (run : p.peg.run chars = some (a, rest))
    (h : place ∈ (f a).failures rest) : place ∈ (p >>= f).failures chars := by
  rw [failures_bind_of_some run]
  exact List.mem_append_right _ h

/-- What fails in the first part of an alternative. -/
theorem mem_failures_orElse_left (h : place ∈ p.failures chars) :
    place ∈ (p <|> q).failures chars :=
  List.mem_append_left _ h

/-- What fails in the second part of an alternative. -/
theorem mem_failures_orElse_right (run : p.peg.run chars = none) (h : place ∈ q.failures chars) :
    place ∈ (p <|> q).failures chars := by
  rw [failures_orElse_of_none run]
  exact List.mem_append_right _ h

end Members

/-! ## How far rules fail -/

/-- The furthest place where a rule fails. -/
def Furthest (p : Tracked α) (chars place : List Char) : Prop :=
  place ∈ p.failures chars ∧ ∀ other ∈ p.failures chars, place.length ≤ other.length

/-- No rule fails further than some characters in front of the end. -/
def Within (p : Tracked α) (chars : List Char) (bound : Nat) : Prop :=
  ∀ place ∈ p.failures chars, bound ≤ place.length

namespace Within

variable {chars : List Char} {bound : Nat}

/-- Without rules none fails. -/
theorem silent (p : Peg α) : (Tracked.silent p).Within chars bound :=
  fun _ place => absurd place List.not_mem_nil

/-- A value does not fail. -/
theorem pure (a : α) : (Pure.pure a : Tracked α).Within chars bound :=
  fun _ place => absurd place List.not_mem_nil

/-- A rule may fail where it begins. -/
theorem rule {p : Tracked α} (within : p.Within chars bound) (begins : bound ≤ chars.length) :
    p.rule.Within chars bound := by
  intro place failed
  rcases run : p.peg.run chars with _ | r
  · rw [failures_rule_of_none run, List.mem_append, List.mem_singleton] at failed
    rcases failed with failed | rfl
    · exact within place failed
    · exact begins
  · rw [failures_rule_of_some run] at failed
    exact within place failed

/-- The parts of a sequence. -/
theorem bind {p : Tracked α} {f : α → Tracked β} (first : p.Within chars bound)
    (second : ∀ a rest, p.peg.run chars = some (a, rest) → (f a).Within rest bound) :
    (p >>= f).Within chars bound := by
  intro place failed
  rcases run : p.peg.run chars with _ | ⟨a, rest⟩
  · rw [failures_bind_of_none run] at failed
    exact first place failed
  · rw [failures_bind_of_some run, List.mem_append] at failed
    exact failed.elim (first place) (second a rest run place)

/-- The parts of an alternative. -/
theorem orElse {p q : Tracked α} (first : p.Within chars bound)
    (second : p.peg.run chars = none → q.Within chars bound) :
    (p <|> q).Within chars bound := by
  intro place failed
  rcases run : p.peg.run chars with _ | r
  · rw [failures_orElse_of_none run, List.mem_append] at failed
    exact failed.elim (first place) (second run place)
  · rw [failures_orElse_of_some run] at failed
    exact first place failed

end Within

/-! ## Expressions that stop at certain characters -/

/-- An expression stops at certain characters if neither what it reads nor where its rules fail
depends on what follows behind them. -/
structure StopsAt (stop : Char → Bool) (p : Tracked α) : Prop where
  /-- It reads only what is in front of them. -/
  peg : Peg.StopsAt stop p.peg
  /-- Its rules fail at the same places. -/
  failures_append {front tail : List Char} (free : ∀ c ∈ front, stop c = false)
    (stopped : ∀ c ∈ tail.head?, stop c = true) :
    p.failures (front ++ tail) = (p.failures front).map (· ++ tail)
  /-- The places are places of the text. -/
  suffix {front place : List Char} (h : place ∈ p.failures front) : place <:+ front

variable {stop : Char → Bool}

/-- Without rules none fails. -/
theorem stopsAt_silent {p : Peg α} (hp : Peg.StopsAt stop p) : (silent p).StopsAt stop where
  peg := hp
  failures_append _ _ := rfl
  suffix h := absurd h List.not_mem_nil

/-- A value does not fail. -/
theorem stopsAt_pure (a : α) : (pure a : Tracked α).StopsAt stop :=
  stopsAt_silent (Peg.stopsAt_pure a)

namespace StopsAt

/-- A rule stops where its expression stops. -/
theorem rule {p : Tracked α} (hp : p.StopsAt stop) : p.rule.StopsAt stop where
  peg := hp.peg
  failures_append {front tail} free stopped := by
    have run := hp.peg.run_append free stopped
    rcases found : p.peg.run front with _ | r
    · rw [found] at run
      rw [failures_rule_of_none run, failures_rule_of_none found, hp.failures_append free stopped,
        List.map_append]
      rfl
    · rw [found] at run
      rw [failures_rule_of_some run, failures_rule_of_some found, hp.failures_append free stopped]
  suffix {front place} failed := by
    rcases found : p.peg.run front with _ | r
    · rw [failures_rule_of_none found, List.mem_append, List.mem_singleton] at failed
      rcases failed with failed | rfl
      · exact hp.suffix failed
      · exact List.suffix_rfl
    · rw [failures_rule_of_some found] at failed
      exact hp.suffix failed

/-- A sequence stops where its parts stop. -/
theorem bind {p : Tracked α} {f : α → Tracked β} (hp : p.StopsAt stop)
    (hf : ∀ a, (f a).StopsAt stop) : (p >>= f).StopsAt stop where
  peg := hp.peg.bind fun a => (hf a).peg
  failures_append {front tail} free stopped := by
    have run := hp.peg.run_append free stopped
    rcases found : p.peg.run front with _ | ⟨a, rest⟩
    · rw [found] at run
      rw [failures_bind_of_none run, failures_bind_of_none found, hp.failures_append free stopped]
    · rw [found] at run
      rw [failures_bind_of_some run, failures_bind_of_some found, hp.failures_append free stopped,
        (hf a).failures_append (hp.peg.free_rest free found) stopped, List.map_append]
  suffix {front place} failed := by
    rcases found : p.peg.run front with _ | ⟨a, rest⟩
    · rw [failures_bind_of_none found] at failed
      exact hp.suffix failed
    · rw [failures_bind_of_some found, List.mem_append] at failed
      rcases failed with failed | failed
      · exact hp.suffix failed
      · exact ((hf a).suffix failed).trans (hp.peg.suffix found)

/-- An alternative stops where both of its parts stop. -/
theorem orElse {p q : Tracked α} (hp : p.StopsAt stop) (hq : q.StopsAt stop) :
    (p <|> q).StopsAt stop where
  peg := hp.peg.orElse hq.peg
  failures_append {front tail} free stopped := by
    have run := hp.peg.run_append free stopped
    rcases found : p.peg.run front with _ | r
    · rw [found] at run
      rw [failures_orElse_of_none run, failures_orElse_of_none found,
        hp.failures_append free stopped, hq.failures_append free stopped, List.map_append]
    · rw [found] at run
      rw [failures_orElse_of_some run, failures_orElse_of_some found,
        hp.failures_append free stopped]
  suffix {front place} failed := by
    rcases found : p.peg.run front with _ | r
    · rw [failures_orElse_of_none found, List.mem_append] at failed
      exact failed.elim hp.suffix hq.suffix
    · rw [failures_orElse_of_some found] at failed
      exact hp.suffix failed

/-- What is optional stops where it would stop. -/
theorem maybe {p : Tracked α} (hp : p.StopsAt stop) : p.maybe.StopsAt stop where
  peg := stopsAt_optional hp.peg
  failures_append := hp.failures_append
  suffix := hp.suffix

end StopsAt

end Tracked

end Hex8.Peg
