import Hex8.Asm.Source
import Hex8.Proofs.Peg

set_option relaxedAutoImplicit false
set_option autoImplicit false

/-!
# The grammar of the assembly language

The grammar is given here as parsing expressions for a whole text. Line breaks are a part of it, and
blanks and comments may stand between any two parts of a rule, unless the rule makes a single token.
The assembler reads a text differently: it splits it into lines first, and takes each line for
itself. Both accept the same texts, and read the same from them.

```text
text      = line (break line)* end
line      = label? statement?
statement = position | byte | data | inst
position  = ".pos" num
byte      = ".byte" num
data      = ".data" num ","? num
inst      = ident operand?
operand   = num | ident
```

## Main definitions

* `Hex8.Asm.Command`, `Hex8.Asm.Content` — what a statement and a line say, wherever they say it.
* `Hex8.Asm.Grammar.line`, `Hex8.Asm.Grammar.text` and the rules in front of them — the grammar.
* `Hex8.Asm.Grammar.parse` — what the lines of a text say.

## Main results

* `Hex8.Asm.Grammar.stopsAt_line` — no part of a line is looked for behind its end.

## Design

No part of a line contains a line break, so no expression for such a part looks past one
(`Peg.StopsAt`). What an expression reads from a line is therefore what it reads from the text that
begins with this line, and the expressions can be compared with the functions on lines one by one.
-/

namespace Hex8.Asm

/-! ## What a text says -/

/-- What a statement says, wherever it says it. -/
inductive Command
  /-- The next word goes to the given address. -/
  | position (address : Numeral)
  /-- The next word is given by its value. -/
  | byte (value : Numeral)
  /-- A byte of the data memory has the given value. -/
  | data (address value : Numeral)
  /-- The next word is an instruction. -/
  | inst (mnemonic : String) (operand : Option Operand)
  deriving DecidableEq

/-- What a line says, wherever it says it. -/
structure Content where
  /-- The label. -/
  label : Option String
  /-- The statement. -/
  command : Option Command
  deriving DecidableEq

/-- A statement without the places of its parts. -/
def Statement.command : Statement → Command
  | position address => .position address.val
  | byte value => .byte value.val
  | data address value => .data address.val value.val
  | inst mnemonic operand => .inst mnemonic (operand.map Located.val)

/-- A line without the places of its parts. -/
def Line.content (line : Line) : Content :=
  { label := line.label, command := line.statement.map fun statement => statement.val.command }

namespace Grammar

open Peg

/-! ## Blanks and comments -/

/-- A blank. -/
def whitespace : Peg Char :=
  char fun c => c = ' ' || c = '\t'

/-- A line break. -/
def newline : Peg Unit :=
  literal "\n" <|> literal "\r\n" <|> literal "\r"

/-- A character of a comment. -/
def commentChar : Peg Char := do
  absent newline
  char fun _ => true

/-- A comment takes the rest of its line. -/
def comment : Peg Unit := do
  literal "#" <|> literal "//"
  let _ ← many commentChar

/-- A comment, and the blanks behind it. -/
def commentBlanks : Peg Unit := do
  comment
  let _ ← many whitespace

/-- What may stand between the parts of a rule. -/
def skip : Peg Unit := do
  let _ ← many whitespace
  let _ ← many commentBlanks

/-! ## Tokens -/

/-- A name. -/
def ident : Peg (List Char) := do
  let first ← char fun c => c.isAlpha || c = '_'
  let others ← many (char fun c => c.isAlphanum || c = '_')
  return first :: others

/-- What stands in front of hexadecimal digits. -/
def hexMarker : Peg (List Char) :=
  (do literal "0x"; return ['0', 'x']) <|> (do literal "0X"; return ['0', 'X'])

/-- A hexadecimal number. -/
def hexadecimal : Peg Numeral := do
  let marker ← hexMarker
  let digits ← many1 (char isHexDigit)
  return { marker, digits }

/-- A decimal number. -/
def decimal : Peg Numeral := do
  let digits ← many1 (char Char.isDigit)
  return { marker := [], digits }

/-- A number. -/
def num : Peg Numeral :=
  hexadecimal <|> decimal

/-- A label: a name with a colon directly behind it. -/
def label : Peg String := do
  let name ← ident
  literal ":"
  return String.ofList name

/-! ## Statements -/

/-- An operand. -/
def operand : Peg Operand :=
  Operand.number <$> num <|> (fun name => Operand.name (String.ofList name)) <$> ident

/-- The address of the next word. -/
def position : Peg Command := do
  literal ".pos"
  skip
  let address ← num
  return .position address

/-- A word. -/
def byte : Peg Command := do
  literal ".byte"
  skip
  let value ← num
  return .byte value

/-- A byte of the data memory. -/
def data : Peg Command := do
  literal ".data"
  skip
  let address ← num
  skip
  let _ ← optional (literal ",")
  skip
  let value ← num
  return .data address value

/-- An instruction. -/
def inst : Peg Command := do
  let mnemonic ← ident
  skip
  let operand ← optional operand
  return .inst (String.ofList mnemonic) operand

/-- A statement. -/
def statement : Peg Command :=
  position <|> byte <|> data <|> inst

/-! ## Texts -/

/-- A line. -/
def line : Peg Content := do
  let label ← optional label
  skip
  let command ← optional statement
  return { label, command }

/-- A line break, and the line behind it. -/
def nextLine : Peg Content := do
  newline
  skip
  line

/-- Any number of further lines. -/
def nextLines : Peg (List Content) :=
  (do
    let first ← nextLine
    let others ← many (do skip; nextLine)
    return first :: others) <|> pure []

/-- A text as a whole. Reading begins at its beginning, which may also be blank. -/
def text : Peg (List Content) := do
  skip
  let first ← line
  skip
  let others ← nextLines
  skip
  atEnd
  return first :: others

/-- What the lines of a text say, if it fits the grammar. -/
def parse (chars : List Char) : Option (List Content) :=
  (text.run chars).map Prod.fst

/-! ## Expressions stop at line breaks -/

/-- Whether a character breaks a line. -/
def isBreak (c : Char) : Bool :=
  c = '\n' || c = '\r'

/-- Nothing but the first character decides whether there is a line break. -/
lemma isNone_newline_cons (c : Char) (rest : List Char) :
    (newline.run (c :: rest)).isNone = !isBreak c := by
  by_cases lf : c = '\n'
  · subst lf
    rfl
  · by_cases cr : c = '\r'
    · subst cr
      have lone : (literal "\r").run ('\r' :: rest) = some ((), rest) := rfl
      rw [newline, run_orElse, run_orElse, lone]
      cases (literal "\r\n").run ('\r' :: rest) <;> rfl
    · have lf' : ('\n' == c) = false := by simpa using Ne.symm lf
      have cr' : ('\r' == c) = false := by simpa using Ne.symm cr
      simp [newline, run_literal, List.isPrefixOf?, isBreak, lf', cr', lf, cr]

/-- A character of a comment is one that does not break the line. -/
lemma commentChar_eq : commentChar = char fun c => !isBreak c := by
  funext chars
  rcases chars with _ | ⟨c, rest⟩
  · rfl
  · have look : (absent newline).run (c :: rest) =
        if !isBreak c then some ((), c :: rest) else none := by
      rw [run_absent, isNone_newline_cons]
    change commentChar.run (c :: rest) = (char _).run (c :: rest)
    rw [commentChar, run_bind, look, run_char_cons]
    cases isBreak c <;> rfl

/-- A class of characters without the two that break a line. -/
lemma stopsAt_char_of_ne {kind : Char → Bool} (lf : kind '\n' = false) (cr : kind '\r' = false) :
    StopsAt isBreak (char kind) := by
  refine stopsAt_char fun c h => ?_
  rw [isBreak, Bool.or_eq_true, decide_eq_true_eq, decide_eq_true_eq] at h
  rcases h with rfl | rfl
  · exact lf
  · exact cr

/-- Blanks and comments end in front of a line break. -/
lemma stopsAt_skip : StopsAt isBreak skip := by
  have whitespace : StopsAt isBreak whitespace := stopsAt_char_of_ne rfl rfl
  have comment : StopsAt isBreak comment := by
    refine ((stopsAt_literal rfl).orElse (stopsAt_literal rfl)).bind fun _ => ?_
    rw [commentChar_eq]
    exact (stopsAt_char_of_ne rfl rfl).many.bind fun _ => stopsAt_pure _
  have commentBlanks : StopsAt isBreak commentBlanks :=
    comment.bind fun _ => whitespace.many.bind fun _ => stopsAt_pure _
  exact whitespace.many.bind fun _ => commentBlanks.many.bind fun _ => stopsAt_pure _

/-- A name does not go beyond a line break. -/
lemma stopsAt_ident : StopsAt isBreak ident :=
  (stopsAt_char_of_ne rfl rfl).bind fun _ =>
    (stopsAt_char_of_ne rfl rfl).many.bind fun _ => stopsAt_pure _

/-- A number does not go beyond a line break. -/
lemma stopsAt_num : StopsAt isBreak num := by
  have marker : StopsAt isBreak hexMarker :=
    ((stopsAt_literal rfl).bind fun _ => stopsAt_pure _).orElse
      ((stopsAt_literal rfl).bind fun _ => stopsAt_pure _)
  have hexadecimal : StopsAt isBreak hexadecimal :=
    marker.bind fun _ =>
      (stopsAt_many1 (stopsAt_char_of_ne rfl rfl)).bind fun _ => stopsAt_pure _
  have decimal : StopsAt isBreak decimal :=
    (stopsAt_many1 (stopsAt_char_of_ne rfl rfl)).bind fun _ => stopsAt_pure _
  exact hexadecimal.orElse decimal

/-- A label does not go beyond a line break. -/
lemma stopsAt_label : StopsAt isBreak label :=
  stopsAt_ident.bind fun _ => (stopsAt_literal rfl).bind fun _ => stopsAt_pure _

/-- An operand does not go beyond a line break. -/
lemma stopsAt_operand : StopsAt isBreak operand :=
  (stopsAt_num.map _).orElse (stopsAt_ident.map _)

/-- A statement does not go beyond a line break, whichever kind it is of. -/
lemma stopsAt_statement : StopsAt isBreak statement := by
  have position : StopsAt isBreak position :=
    (stopsAt_literal rfl).bind fun _ => stopsAt_skip.bind fun _ =>
      stopsAt_num.bind fun _ => stopsAt_pure _
  have byte : StopsAt isBreak byte :=
    (stopsAt_literal rfl).bind fun _ => stopsAt_skip.bind fun _ =>
      stopsAt_num.bind fun _ => stopsAt_pure _
  have data : StopsAt isBreak data :=
    (stopsAt_literal rfl).bind fun _ => stopsAt_skip.bind fun _ =>
      stopsAt_num.bind fun _ => stopsAt_skip.bind fun _ =>
        (stopsAt_optional (stopsAt_literal rfl)).bind fun _ => stopsAt_skip.bind fun _ =>
          stopsAt_num.bind fun _ => stopsAt_pure _
  have inst : StopsAt isBreak inst :=
    stopsAt_ident.bind fun _ => stopsAt_skip.bind fun _ =>
      (stopsAt_optional stopsAt_operand).bind fun _ => stopsAt_pure _
  exact position.orElse (byte.orElse (data.orElse inst))

/-- A line does not go beyond a line break. -/
lemma stopsAt_line : StopsAt isBreak line :=
  (stopsAt_optional stopsAt_label).bind fun _ => stopsAt_skip.bind fun _ =>
    (stopsAt_optional stopsAt_statement).bind fun _ => stopsAt_pure _

end Grammar
end Hex8.Asm
