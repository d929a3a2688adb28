import Textbank.Bank
import Textbank.Config
import Textbank.Text.Line
import Textbank.Text.Quoted
/-!
# Reading documents

A document is the text of one bank:

```text
x00001	(Title){
01
	0001	value
	0002	value
}
```

Its header runs to the first opening brace and may wrap over several lines.  Below it, up to the
first line with a closing brace, a line that starts with a tab or a blank holds an address and its
value, and any other line names the register that the addresses after it belong to.  Main
definitions:

* `Document.parse` : the bank of a document, or the first fault in it;
* `Document.Fault` : which rule a text breaks, and where.
-/

namespace Textbank.Document

/-! ### Faults -/

/-- Why a text is no document. -/
inductive Fault where
  /-- All lines are blank. -/
  | emptyInput
  /-- No brace follows the header. -/
  | missingBrace (header : String)
  /-- The bank id is no numeral. -/
  | badBankId (token : String) (cause : Numeral.Fault)
  /-- The bank id is below zero. -/
  | negativeBankId (token : String)
  /-- A line that should name a register does not. -/
  | invalidRegisterLine (line : Nat) (token : String) (cause : Numeral.Fault)
  /-- An indented line does not start with an address. -/
  | invalidAddressId (line : Nat) (token : String) (cause : Numeral.Fault)
deriving DecidableEq, Repr

/-- The place and cause of a fault in the body. -/
def atLine (line : Nat) (token : String) (cause : Numeral.Fault) : String :=
  "line " ++ Numeral.decimal line ++ ": " ++ quoted token ++ ": " ++ cause.message

/-- The wording of a fault. -/
def Fault.message : Fault → String
  | .emptyInput => "empty input: no header line"
  | .missingBrace header =>
    "missing '\x7b': header never opens a body: " ++ quoted header
  | .badBankId token cause => "bad bank id: " ++ quoted token ++ ": " ++ cause.message
  | .negativeBankId token => "bad bank id: " ++ quoted token ++ ": bank ids are non-negative"
  | .invalidRegisterLine line token cause =>
    "invalid register line: " ++ atLine line token cause
  | .invalidAddressId line token cause => "invalid address id: " ++ atLine line token cause

/-! ### The header -/

/-- The opening of a body: the header before the brace, what follows the brace on its line, and
the lines below. -/
structure Opening where
  head : List Char
  after : List Char
  below : List (List Char)

/-- Find the first opening brace; the lines before it are joined by blanks. -/
def openBody? : List (List Char) → Option Opening
  | [] => none
  | l :: ls =>
    match cutFirst? '\x7b' l with
    | some (head, after) => some ⟨head, after, ls⟩
    | none => (openBody? ls).map fun o => { o with head := l ++ ' ' :: o.head }

/-- The id token and the title of a header.  The title runs from the first opening parenthesis
to the last closing one. -/
def splitHeader (head : List Char) : List Char × List Char :=
  match cutFirst? '(' head with
  | none => (trim head, [])
  | some (token, rest) => (trim token, trim ((beforeLast? ')' rest).getD rest))

/-- The bank id of an id token. -/
def readId (c : Config) (token : List Char) : Except Fault BankId :=
  let token := c.dropLetter token
  match Numeral.decodeChars c.base token with
  | .error cause => .error (.badBankId (.ofList token) cause)
  | .ok id => if id < 0 then .error (.negativeBankId (.ofList token)) else .ok id

/-! ### The body -/

/-- What a line of a body says. -/
inductive Row where
  /-- The addresses below belong to this register. -/
  | register (token : List Char)
  /-- This address has this value. -/
  | cell (token : List Char) (value : List Char)

/-- Whether a character indents a line. -/
def isIndent (c : Char) : Bool := c = '\t' || c = ' '

/-- An address and its value: cut at the first tab, without one at the first blank, without either
the value is empty. -/
def splitCell (s : List Char) : List Char × List Char :=
  ((cutFirst? '\t' s).orElse fun _ => cutFirst? ' ' s).getD (s, [])

/-- What a line that is not blank says. -/
def readRow (line : List Char) : Row :=
  if line.head?.any isIndent then
    let (token, value) := splitCell (line.dropWhile isIndent)
    .cell token value
  else .register (trim line)

/-- A bank under construction. -/
structure Draft where
  bank : Bank
  /-- The register that addresses belong to. -/
  current : RegisterId
  /-- Whether a line has named a register. -/
  named : Bool

/-- Take in one line. -/
def Draft.addRow (c : Config) (d : Draft) (number : Nat) : Row → Except Fault Draft
  | .register token =>
    match Numeral.decodeChars c.base token with
    | .error cause => .error (.invalidRegisterLine number (.ofList token) cause)
    | .ok r => .ok ⟨d.bank.addRegister r, r, true⟩
  | .cell token value =>
    match Numeral.decodeChars c.base token with
    | .error cause => .error (.invalidAddressId number (.ofList token) cause)
    | .ok a => .ok { d with bank := d.bank.insert d.current a (.ofList value) }

/-- Take in the lines of a body up to a closing brace; blank lines say nothing. -/
def Draft.addLines (c : Config) (d : Draft) (number : Nat) :
    List (List Char) → Except Fault Draft
  | [] => .ok d
  | l :: ls =>
    -- a closing brace ends the body wherever it stands, and its line says nothing
    if '\x7d' ∈ l then .ok d
    else if allBlank l then d.addLines c (number + 1) ls
    else
      match d.addRow c number (readRow l) with
      | .error f => .error f
      | .ok d => d.addLines c (number + 1) ls

/-- The bank of a finished draft; the default register is there unless others are named. -/
def Draft.finish (d : Draft) : Bank :=
  if d.named then d.bank else d.bank.addRegister Bank.defaultRegister

/-! ### Documents -/

/-- The bank of the lines of a document. -/
def parseLines (c : Config) (ls : List (List Char)) : Except Fault Bank :=
  match ls.dropWhile allBlank with
  | [] => .error .emptyInput
  | l :: rest =>
    match openBody? (l :: rest) with
    | none => .error (.missingBrace (.ofList (trim (joinWith ' ' (l :: rest)))))
    | some o =>
      -- the header is read before the body, so a fault in it comes first
      let (token, title) := splitHeader o.head
      match readId c token with
      | .error f => .error f
      | .ok id =>
        let d : Draft := ⟨Bank.new id (.ofList title), Bank.defaultRegister, false⟩
        if '\x7d' ∈ o.after then .ok d.finish
        -- lines are numbered from the first line of the text, blank ones included
        else (d.addLines c (ls.length - o.below.length + 1) o.below).map Draft.finish

/-- The bank of a document. -/
def parse (c : Config) (text : String) : Except Fault Bank := parseLines c (lines text.toList)

end Textbank.Document
