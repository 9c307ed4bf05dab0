import Mathlib.Tactic.Lemma
import Hex8.Proofs.Rereading

set_option relaxedAutoImplicit false
set_option autoImplicit false

/-!
# Names at the front of a line

What starts with a name is known without reading on: nothing is skipped in front of it, it is no
directive, and it is an instruction unless there is a colon directly behind the name.

## Main definitions

* `Hex8.Asm.isName` — whether characters are a name.

## Main results

* `Hex8.Asm.name?_of_isName` — a name is read up to where it does not go on.
* `Hex8.Asm.Line.label?_of_isName`, `Hex8.Asm.Line.statement?_of_isName` — a name that is no label is
  a mnemonic.
-/

namespace Hex8.Asm

/-- Whether characters are a name. -/
def isName : List Char → Bool
  | [] => false
  | c :: rest => startsName c && rest.all continuesName

/-- A name is read up to where it does not go on. -/
lemma name?_of_isName {name rest : List Char} (named : isName name = true)
    (stop : ∀ c ∈ rest.head?, continuesName c = false) :
    name? (name ++ rest) = some (name, rest) := by
  cases name with
  | nil => cases named
  | cons c name =>
    rw [isName, Bool.and_eq_true, List.all_eq_true] at named
    have ends := span_append name stop
    rw [List.takeWhile_eq_self_iff.mpr named.2, List.dropWhile_eq_nil_iff.mpr named.2] at ends
    rw [List.cons_append, name?, if_pos named.1, ends.1, ends.2]
    rfl

/-- Nothing is skipped in front of a name. -/
lemma skip_of_isName {name : List Char} (named : isName name = true) (rest : List Char) :
    skip (name ++ rest) = name ++ rest := by
  cases name with
  | nil => cases named
  | cons c name =>
    rw [isName, Bool.and_eq_true] at named
    exact skip_cons_of_kind startsName named.1 (by decide) (name ++ rest)

/-- No directive starts with a name. -/
lemma after?_of_isName {name : List Char} (named : isName name = true) (rest keyword : List Char) :
    after? ('.' :: keyword) (name ++ rest) = none := by
  cases name with
  | nil => cases named
  | cons c name =>
    rw [isName, Bool.and_eq_true] at named
    rw [List.cons_append, after?]
    apply if_neg
    rintro rfl
    exact absurd named.1 (by decide)

/-- There is no line break in a name. -/
lemma isBreak_of_isName {name : List Char} (named : isName name = true) :
    ∀ c ∈ name, Grammar.isBreak c = false := by
  have plain {c : Char} (kind : startsName c = true ∨ continuesName c = true) :
      Grammar.isBreak c = false := by
    rw [Grammar.isBreak, Bool.or_eq_false_iff, decide_eq_false_iff_not, decide_eq_false_iff_not]
    constructor <;> rintro rfl <;> exact absurd kind (by decide)
  cases name with
  | nil => cases named
  | cons c name =>
    rw [isName, Bool.and_eq_true, List.all_eq_true] at named
    rw [List.forall_mem_cons]
    exact ⟨plain (.inl named.1), fun d inside => plain (.inr (named.2 d inside))⟩

namespace Line

variable {mnemonic rest : List Char}

/-- A name is a mnemonic, with an operand if there is one behind it. -/
lemma statement?_of_isName (size : Nat) (named : isName mnemonic = true)
    (stop : ∀ c ∈ rest.head?, continuesName c = false) :
    statement? size (mnemonic ++ rest) =
      .ok (some (.inst (String.ofList mnemonic) (operand? size (skip rest)).1),
        (operand? size (skip rest)).2) := by
  have pos : ".pos".toList = '.' :: "pos".toList := rfl
  have byte : ".byte".toList = '.' :: "byte".toList := rfl
  have data : ".data".toList = '.' :: "data".toList := rfl
  have directive := after?_of_isName named rest
  rw [statement?, pos, byte, data, directive, directive, directive, name?_of_isName named stop]
  rfl

/-- A name without a colon behind it is no label. -/
lemma label?_of_isName (named : isName mnemonic = true)
    (stop : ∀ c ∈ rest.head?, continuesName c = false ∧ c ≠ ':') :
    label? (mnemonic ++ rest) = none := by
  rw [label?, name?_of_isName named fun c head => (stop c head).1]
  rcases rest with _ | ⟨c, rest⟩
  · rfl
  · have noColon : c ≠ ':' := (stop c rfl).2
    simp [noColon]

end Line

end Hex8.Asm
