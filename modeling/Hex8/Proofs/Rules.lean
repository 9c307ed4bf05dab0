import Hex8.Proofs.ReadText
import Hex8.Proofs.Tracking

set_option relaxedAutoImplicit false
set_option autoImplicit false

/-!
# The rules of the grammar

An error in a text is reported at the furthest place where a rule of the grammar has failed. Not
every expression is a rule in this sense: blanks, comments, line breaks and the choice between
statements are not, and a name or a number is one as a whole. Here the grammar is given once more
with its rules marked, and it is told where these fail while a statement is tried.

## Main definitions

* `Hex8.Asm.Rules.text`, and the definitions in front of it — the grammar with its rules.
* `Hex8.Asm.Rules.reached` — what is left of a line behind its statement, or where that lacks a
  number.

## Main results

* `Hex8.Asm.Rules.peg_text` — without its rules it is the grammar.
* `Hex8.Asm.Rules.stopsAt_line` — no rule of a line fails behind its end.
* `Hex8.Asm.Rules.mem_failures_statement` — a number that a directive lacks fails.
* `Hex8.Asm.Rules.within_statement` — no rule fails beyond what a statement has reached.

## Design

Rules also fail while a statement is read that fits the grammar: the directives fail in front of an
instruction, and a name is tried as a number first. All this happens in front of what is left in the
end, so that a bound is enough, and the places need not be listed.
-/

namespace Hex8.Asm.Rules

open Peg.Tracked

/-! ## The grammar, rule by rule -/

/-- What may stand between the parts of a rule. -/
def skip : Peg.Tracked Unit :=
  silent Grammar.skip

/-- A name. -/
def ident : Peg.Tracked (List Char) :=
  rule (silent Grammar.ident)

/-- A number. -/
def num : Peg.Tracked Numeral :=
  rule (silent Grammar.num)

/-- A label. -/
def label : Peg.Tracked String := rule do
  let name ← ident
  silent (Peg.literal ":")
  return String.ofList name

/-- An operand. -/
def operand : Peg.Tracked Operand :=
  rule (Operand.number <$> num <|> (fun name => Operand.name (String.ofList name)) <$> ident)

/-- The address of the next word. -/
def position : Peg.Tracked Command := rule do
  silent (Peg.literal ".pos")
  skip
  let address ← num
  return .position address

/-- A word. -/
def byte : Peg.Tracked Command := rule do
  silent (Peg.literal ".byte")
  skip
  let value ← num
  return .byte value

/-- A byte of the data memory. -/
def data : Peg.Tracked Command := rule do
  silent (Peg.literal ".data")
  skip
  let address ← num
  skip
  let _ ← silent (optional (Peg.literal ","))
  skip
  let value ← num
  return .data address value

/-- An instruction. -/
def inst : Peg.Tracked Command := rule do
  let mnemonic ← ident
  skip
  let operand ← maybe operand
  return .inst (String.ofList mnemonic) operand

/-- A statement, which is no rule of its own. -/
def statement : Peg.Tracked Command :=
  position <|> byte <|> data <|> inst

/-- A line. -/
def line : Peg.Tracked Content := rule do
  let label ← maybe label
  skip
  let command ← maybe statement
  return { label, command }

/-- A line break, and the line behind it. -/
def nextLine : Peg.Tracked Content := do
  silent Grammar.newline
  skip
  line

/-- A line break and a line, and the blanks in front of them. -/
def further : Peg.Tracked Content := do
  skip
  nextLine

/-- Any number of further lines. -/
def nextLines : Peg.Tracked (List Content) :=
  (do
    let first ← nextLine
    let others ← many further
    return first :: others) <|> pure []

/-- The end. -/
def atEnd : Peg.Tracked Unit :=
  rule (silent Peg.atEnd)

/-- A text as a whole. -/
def text : Peg.Tracked (List Content) := rule do
  skip
  let first ← line
  skip
  let others ← nextLines
  skip
  atEnd
  return first :: others

/-- **Without its rules it is the grammar.** -/
theorem peg_text : text.peg = Grammar.text := rfl

/-! ## Rules stop at line breaks -/

open Grammar (isBreak)

/-- Blanks and comments end in front of a line break. -/
lemma stopsAt_skip : skip.StopsAt isBreak :=
  stopsAt_silent Grammar.stopsAt_skip

/-- A name does not go beyond a line break. -/
lemma stopsAt_ident : ident.StopsAt isBreak :=
  (stopsAt_silent Grammar.stopsAt_ident).rule

/-- A number does not go beyond a line break. -/
lemma stopsAt_num : num.StopsAt isBreak :=
  (stopsAt_silent Grammar.stopsAt_num).rule

/-- A keyword does not go beyond a line break if there is none in it. -/
lemma stopsAt_literal {keyword : String} (h : keyword.toList.any isBreak = false) :
    (silent (Peg.literal keyword)).StopsAt isBreak :=
  stopsAt_silent (Peg.stopsAt_literal h)

/-- A label does not go beyond a line break. -/
lemma stopsAt_label : label.StopsAt isBreak :=
  (stopsAt_ident.bind fun _ => (stopsAt_literal rfl).bind fun _ => stopsAt_pure _).rule

/-- An operand does not go beyond a line break. -/
lemma stopsAt_operand : operand.StopsAt isBreak :=
  ((stopsAt_num.bind fun _ => stopsAt_pure _).orElse
    (stopsAt_ident.bind fun _ => stopsAt_pure _)).rule

/-- A statement does not go beyond a line break, whichever kind it is of. -/
lemma stopsAt_statement : statement.StopsAt isBreak := by
  have position : position.StopsAt isBreak :=
    ((stopsAt_literal rfl).bind fun _ => stopsAt_skip.bind fun _ =>
      stopsAt_num.bind fun _ => stopsAt_pure _).rule
  have byte : byte.StopsAt isBreak :=
    ((stopsAt_literal rfl).bind fun _ => stopsAt_skip.bind fun _ =>
      stopsAt_num.bind fun _ => stopsAt_pure _).rule
  have comma : (silent (optional (Peg.literal ","))).StopsAt isBreak :=
    stopsAt_silent (Peg.stopsAt_optional (Peg.stopsAt_literal rfl))
  have data : data.StopsAt isBreak :=
    ((stopsAt_literal rfl).bind fun _ => stopsAt_skip.bind fun _ =>
      stopsAt_num.bind fun _ => stopsAt_skip.bind fun _ => comma.bind fun _ =>
        stopsAt_skip.bind fun _ => stopsAt_num.bind fun _ => stopsAt_pure _).rule
  have inst : inst.StopsAt isBreak :=
    (stopsAt_ident.bind fun _ => stopsAt_skip.bind fun _ =>
      stopsAt_operand.maybe.bind fun _ => stopsAt_pure _).rule
  exact position.orElse (byte.orElse (data.orElse inst))

/-- A line does not go beyond a line break. -/
lemma stopsAt_line : line.StopsAt isBreak :=
  (stopsAt_label.maybe.bind fun _ => stopsAt_skip.bind fun _ =>
    stopsAt_statement.maybe.bind fun _ => stopsAt_pure _).rule

/-! ## The number of a directive -/

/-- No rule fails in blanks and a comment, so that what stands behind them decides. -/
lemma within_skip {α : Type} {chars : List Char} {bound : Nat} {behind : Unit → Peg.Tracked α}
    (free : ∀ c ∈ chars, isBreak c = false)
    (inside : (behind ()).Within (Asm.skip chars) bound) :
    (skip >>= behind).Within chars bound := by
  refine Within.bind (Within.silent _) fun _ skipped run => ?_
  have settled : Grammar.skip.run chars = some ((), skipped) := run
  rw [Grammar.run_skip free] at settled
  cases settled
  exact inside

section Argument

variable {α : Type} {chars rest place : List Char} {bound size : Nat} {located : Located Numeral}
  {behind : Numeral → Peg.Tracked α}

/-- The number is looked for behind blanks. -/
lemma argument_eq_error (h : Line.argument size chars = .error place) :
    numeral? (Asm.skip chars) = none ∧ place = Asm.skip chars := by
  rw [Line.argument] at h
  rcases found : numeral? (Asm.skip chars) with _ | ⟨numeral, behind⟩
  · simp only [found] at h
    cases h
    exact ⟨rfl, rfl⟩
  · simp only [found] at h
    cases h

/-- What is left behind the number is a part of that. -/
lemma argument_eq_ok (h : Line.argument size chars = .ok (located, rest)) :
    numeral? (Asm.skip chars) = some (located.val, rest) ∧
      rest.length ≤ (Asm.skip chars).length := by
  rw [Line.argument] at h
  rcases found : numeral? (Asm.skip chars) with _ | ⟨numeral, behind⟩
  · simp only [found] at h
    cases h
  · simp only [found] at h
    cases h
    refine ⟨rfl, ?_⟩
    rw [← append_numeral? found, List.length_append]
    exact Nat.le_add_left _ _

/-- No rule fails beyond the number. -/
lemma within_argument (size : Nat) (free : ∀ c ∈ chars, isBreak c = false)
    (reached : bound ≤ (Asm.skip chars).length)
    (second : ∀ located rest, Line.argument size chars = .ok (located, rest) →
      (behind located.val).Within rest bound) :
    (do skip; let number ← num; behind number).Within chars bound := by
  refine within_skip free ?_
  refine Within.bind (Within.rule (Within.silent _) reached) fun number rest run => ?_
  have read : Grammar.num.run (Asm.skip chars) = some (number, rest) := run
  rw [Grammar.run_num] at read
  refine second ⟨size - (Asm.skip chars).length, number⟩ rest ?_
  rw [Line.argument]
  simp only [read]

/-- A number that is not there fails. -/
lemma mem_failures_argument (free : ∀ c ∈ chars, isBreak c = false)
    (h : Line.argument size chars = .error place) :
    place ∈ (do skip; let number ← num; behind number).failures chars := by
  obtain ⟨none, rfl⟩ := argument_eq_error h
  refine mem_failures_bind_right (Grammar.run_skip free) (mem_failures_bind_left ?_)
  exact mem_failures_rule_self ((Grammar.run_num _).trans none)

/-- What fails behind the number. -/
lemma mem_failures_behind (free : ∀ c ∈ chars, isBreak c = false)
    (h : Line.argument size chars = .ok (located, rest))
    (failed : place ∈ (behind located.val).failures rest) :
    place ∈ (do skip; let number ← num; behind number).failures chars := by
  obtain ⟨found, -⟩ := argument_eq_ok h
  refine mem_failures_bind_right (Grammar.run_skip free) ?_
  exact mem_failures_bind_right ((Grammar.run_num _).trans found) failed

end Argument

/-! ## Statements -/

variable {chars rest place : List Char} {bound size : Nat}

/-- No rule of a directive fails beyond its keyword if none fails in what stands behind it. -/
lemma within_directive {α : Type} {keyword : String} {p : Peg.Tracked α}
    (reached : bound ≤ chars.length)
    (inside : ∀ rest, after? keyword.toList chars = some rest → p.Within rest bound) :
    (rule do silent (Peg.literal keyword); p).Within chars bound := by
  refine Within.rule (Within.bind (Within.silent _) fun _ rest run => inside rest ?_) reached
  have found : (Peg.literal keyword).run chars = some ((), rest) := run
  rw [Grammar.run_keyword, Option.map_eq_some_iff] at found
  obtain ⟨_, found, ⟨⟩⟩ := found
  exact found

/-- What fails behind the keyword of a directive. -/
lemma mem_failures_directive {α : Type} {keyword : String} {p : Peg.Tracked α}
    (found : after? keyword.toList chars = some rest) (failed : place ∈ p.failures rest) :
    place ∈ (rule do silent (Peg.literal keyword); p).failures chars := by
  have read : (Peg.literal keyword).run chars = some ((), rest) := by
    rw [Grammar.run_keyword, found]
    rfl
  exact mem_failures_rule (mem_failures_bind_right read failed)

/-- A comma that may be missing, with the blanks in front of it. -/
def comma : Peg.Tracked Unit := do
  skip
  let _ ← silent (optional (Peg.literal ","))
  pure ()

/-- Between the numbers of `.data` there may be a comma. -/
lemma data_eq :
    data = rule do
      silent (Peg.literal ".data")
      skip
      let address ← num
      comma
      skip
      let value ← num
      return .data address value := by
  simp only [data, comma, bind_assoc, pure_bind]

/-- The comma never fails. -/
lemma run_comma (free : ∀ c ∈ chars, isBreak c = false) :
    comma.peg.run chars = some ((), Line.skipComma chars) :=
  Grammar.run_comma free (pure ())

/-- No rule fails in it. -/
lemma within_comma : comma.Within chars bound :=
  Within.bind (Within.silent _) fun _ _ _ => Within.bind (Within.silent _) fun _ _ _ =>
    Within.pure ()

/-- How far a directive with one number fails. -/
lemma within_single {keyword : String} {f : Numeral → Command}
    (free : ∀ c ∈ chars, isBreak c = false) (whole : bound ≤ chars.length)
    (inside : ∀ rest, after? keyword.toList chars = some rest → bound ≤ (Asm.skip rest).length) :
    (rule do silent (Peg.literal keyword); skip; let number ← num; return f number).Within chars
      bound :=
  within_directive whole fun rest found =>
    within_argument 0 (Grammar.free_of_after? free found) (inside rest found) fun _ _ _ =>
      Within.pure _

/-- How far `.data` fails. -/
lemma within_data (free : ∀ c ∈ chars, isBreak c = false) (whole : bound ≤ chars.length)
    (inside : ∀ rest, after? ".data".toList chars = some rest →
      bound ≤ (Asm.skip rest).length ∧ ∀ address behind,
        Line.argument size rest = .ok (address, behind) →
          bound ≤ (Asm.skip (Line.skipComma behind)).length) :
    data.Within chars bound := by
  rw [data_eq]
  refine within_directive whole fun rest found => ?_
  have free' := Grammar.free_of_after? free found
  refine within_argument size free' (inside rest found).1 fun address behind first => ?_
  have free'' := Grammar.free_argument free' first
  refine Within.bind within_comma fun _ left run => ?_
  rw [run_comma free''] at run
  cases run
  exact within_argument size (Grammar.free_skipComma free'')
    ((inside rest found).2 address behind first) fun _ _ _ => Within.pure _

/-- An operand fails only where it would begin. -/
lemma within_operand (whole : bound ≤ chars.length) : operand.Within chars bound :=
  Within.rule
    (Within.orElse
      (Within.bind (Within.rule (Within.silent _) whole) fun _ _ _ => Within.pure _) fun _ =>
        Within.bind (Within.rule (Within.silent _) whole) fun _ _ _ => Within.pure _) whole

/-- How far an instruction fails. -/
lemma within_inst (free : ∀ c ∈ chars, isBreak c = false) (whole : bound ≤ chars.length)
    (inside : ∀ mnemonic rest, name? chars = some (mnemonic, rest) →
      bound ≤ (Asm.skip rest).length) :
    inst.Within chars bound := by
  refine Within.rule (Within.bind (Within.rule (Within.silent _) whole) ?_) whole
  intro mnemonic rest run
  have named : Grammar.ident.run chars = some (mnemonic, rest) := run
  have free' := Grammar.stopsAt_ident.free_rest free named
  rw [Grammar.run_ident] at named
  have operand : (maybe operand).Within (Asm.skip rest) bound :=
    within_operand (inside mnemonic rest named)
  exact within_skip free' (operand.bind fun _ _ _ => Within.pure _)

/-- The number that a directive with one number lacks fails. -/
lemma mem_failures_single {keyword : String} {f : Numeral → Command}
    (free : ∀ c ∈ chars, isBreak c = false) (found : after? keyword.toList chars = some rest)
    (lacks : Line.argument size rest = .error place) :
    place ∈ (rule do
      silent (Peg.literal keyword); skip; let number ← num; return f number).failures chars :=
  mem_failures_directive found
    (mem_failures_argument (Grammar.free_of_after? free found) lacks)

/-- The second number that `.data` lacks fails. -/
lemma mem_failures_data {address : Located Numeral} {behind : List Char}
    (free : ∀ c ∈ chars, isBreak c = false) (found : after? ".data".toList chars = some rest)
    (first : Line.argument size rest = .ok (address, behind))
    (lacks : Line.argument size (Line.skipComma behind) = .error place) :
    place ∈ data.failures chars := by
  have free' := Grammar.free_of_after? free found
  have free'' := Grammar.free_argument free' first
  rw [data_eq]
  refine mem_failures_directive found (mem_failures_behind free' first ?_)
  exact mem_failures_bind_right (run_comma free'')
    (mem_failures_argument (Grammar.free_skipComma free'') lacks)

/-- **The number that a statement lacks fails.** -/
theorem mem_failures_statement (free : ∀ c ∈ chars, isBreak c = false)
    (h : Line.statement? size chars = .error place) : place ∈ statement.failures chars := by
  rw [Line.statement?] at h
  rcases pos : after? ".pos".toList chars with _ | rest
  · have noPosition : position.peg.run chars = none := Grammar.run_directive_eq_none pos
    refine mem_failures_orElse_right noPosition ?_
    rcases byte : after? ".byte".toList chars with _ | rest
    · have noByte : Rules.byte.peg.run chars = none := Grammar.run_directive_eq_none byte
      refine mem_failures_orElse_right noByte (mem_failures_orElse_left ?_)
      rcases data : after? ".data".toList chars with _ | rest
      · simp only [pos, byte, data] at h
        split at h <;> cases h
      · simp only [pos, byte, data, bind, Except.bind] at h
        rcases first : Line.argument size rest with lacks | ⟨address, behind⟩
        · simp only [first] at h
          cases h
          have free' := Grammar.free_of_after? free data
          exact mem_failures_directive data (mem_failures_argument free' first)
        · rcases second : Line.argument size (Line.skipComma behind) with lacks | ⟨value, left⟩
          · simp only [first, second] at h
            cases h
            exact mem_failures_data free data first second
          · simp only [first, second] at h
            cases h
    · simp only [pos, byte, bind, Except.bind] at h
      rcases value : Line.argument size rest with lacks | ⟨value', left⟩
      · simp only [value] at h
        cases h
        exact mem_failures_orElse_left (mem_failures_single free byte value)
      · simp only [value] at h
        cases h
  · simp only [pos, bind, Except.bind] at h
    rcases address : Line.argument size rest with lacks | ⟨address', left⟩
    · simp only [address] at h
      cases h
      exact mem_failures_orElse_left (mem_failures_single free pos address)
    · simp only [address] at h
      cases h

/-- What is left of a line behind its statement, or where that lacks a number. -/
def reached (size : Nat) (chars : List Char) : List Char :=
  match Line.statement? size chars with
  | .error place => place
  | .ok (_, rest) => Asm.skip rest

/-- No more is left than there has been. -/
lemma length_reached_le (free : ∀ c ∈ chars, isBreak c = false) :
    (reached size chars).length ≤ chars.length := by
  rw [reached]
  rcases found : Line.statement? size chars with place | ⟨_ | statement, rest⟩
  · exact (stopsAt_statement.suffix (mem_failures_statement free found)).length_le
  · rw [Grammar.statement?_of_none found]
    exact length_skip_le chars
  · have run := Grammar.run_statement size free
    rw [found] at run
    exact (length_skip_le rest).trans (Grammar.stopsAt_statement.suffix run).length_le

/-- A directive with one number reaches it, whether it is there or not. -/
lemma length_reached_single {f : Located Numeral → Statement}
    (statement : Line.statement? size chars =
      (Line.argument size rest).map fun r => (some (f r.1), r.2)) :
    (reached size chars).length ≤ (Asm.skip rest).length := by
  rw [reached, statement]
  rcases number : Line.argument size rest with place | ⟨number, behind⟩
  · rw [(argument_eq_error number).2]
    exact le_rfl
  · exact (length_skip_le behind).trans (argument_eq_ok number).2

/-- A comma that is skipped leaves less. -/
lemma length_skipComma_le (chars : List Char) : (Line.skipComma chars).length ≤ chars.length := by
  have shorter := length_skip_le chars
  rw [Line.skipComma]
  split
  · next rest found =>
    rw [found, List.length_cons] at shorter
    omega
  · exact shorter

/-- `.data` reaches its first number, and the second one if the first one is there. -/
lemma length_reached_data (found : after? ".data".toList chars = some rest) :
    (reached size chars).length ≤ (Asm.skip rest).length ∧
      ∀ address behind, Line.argument size rest = .ok (address, behind) →
        (reached size chars).length ≤ (Asm.skip (Line.skipComma behind)).length := by
  have statement : Line.statement? size chars =
      (do
        let address ← Line.argument size rest
        let value ← Line.argument size (Line.skipComma address.2)
        return (some (.data address.1 value.1), value.2)) := by
    rw [after?_eq_some_iff.mp found]
    rfl
  rcases first : Line.argument size rest with place | ⟨address, behind⟩
  · refine ⟨?_, nofun⟩
    rw [reached, statement, first, ← (argument_eq_error first).2]
    exact le_rfl
  · have second : (reached size chars).length ≤ (Asm.skip (Line.skipComma behind)).length := by
      refine length_reached_single (f := Statement.data address) ?_
      rw [statement, first]
      simp only [bind, Except.bind]
      rcases Line.argument size (Line.skipComma behind) with place | ⟨value, left⟩ <;> rfl
    refine ⟨?_, ?_⟩
    · have comma := (length_skip_le (Line.skipComma behind)).trans (length_skipComma_le behind)
      exact (second.trans comma).trans (argument_eq_ok first).2
    · rintro address' behind' ⟨⟩
      exact second

/-- What is left behind an operand is a part of what there was. -/
lemma length_operand?_le (size : Nat) (chars : List Char) :
    (Line.operand? size chars).2.length ≤ chars.length := by
  rcases operand : (Line.operand? size chars).1 with _ | located
  · rw [Grammar.operand?_of_none operand]
  · have run := Grammar.run_operand size chars
    rw [operand] at run
    exact (Grammar.stopsAt_operand.suffix run).length_le

/-- A name is no directive. -/
lemma after?_eq_none_of_name? {keyword : List Char} {r : List Char × List Char}
    (named : name? chars = some r) : after? ('.' :: keyword) chars = none := by
  rw [Option.eq_none_iff_forall_ne_some]
  intro rest found
  rw [after?_eq_some_iff.mp found] at named
  cases named

/-- An instruction reaches the place of its operand. -/
lemma length_reached_inst {mnemonic : List Char} (named : name? chars = some (mnemonic, rest)) :
    (reached size chars).length ≤ (Asm.skip rest).length := by
  have pos : after? ".pos".toList chars = none := after?_eq_none_of_name? named
  have byte : after? ".byte".toList chars = none := after?_eq_none_of_name? named
  have data : after? ".data".toList chars = none := after?_eq_none_of_name? named
  rw [reached, Line.statement?]
  simp only [pos, byte, data, named]
  exact (length_skip_le _).trans (length_operand?_le size (Asm.skip rest))

/-- **No rule of a statement fails beyond what it has reached.** -/
theorem within_statement (size : Nat) (free : ∀ c ∈ chars, isBreak c = false) :
    statement.Within chars (reached size chars).length := by
  have whole : (reached size chars).length ≤ chars.length := length_reached_le free
  refine Within.orElse ?position fun _ => Within.orElse ?byte fun _ =>
    Within.orElse ?data fun _ => ?inst
  case position =>
    refine within_single free whole fun rest found => ?_
    refine length_reached_single (f := Statement.position) ?_
    rw [after?_eq_some_iff.mp found]
    change (do
      let address ← Line.argument size rest
      return (some (Statement.position address.1), address.2)) = _
    rcases Line.argument size rest with place | ⟨address, behind⟩ <;> rfl
  case byte =>
    refine within_single free whole fun rest found => ?_
    refine length_reached_single (f := Statement.byte) ?_
    rw [after?_eq_some_iff.mp found]
    change (do
      let value ← Line.argument size rest
      return (some (Statement.byte value.1), value.2)) = _
    rcases Line.argument size rest with place | ⟨value, behind⟩ <;> rfl
  case data => exact within_data free whole fun rest found => length_reached_data found
  case inst => exact within_inst free whole fun mnemonic rest named => length_reached_inst named

end Hex8.Asm.Rules
