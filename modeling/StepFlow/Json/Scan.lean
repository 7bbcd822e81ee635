import StepFlow.Json.Quoted
import StepFlow.Json.Token

/-!
Cutting a text into tokens, one character at a time. The text may have gaps, where its bytes spell
no character; a gap is allowed in a quoted text only.
-/
namespace StepFlow.Json

/-- What the scan is in the middle of. Spellings and pieces are held last first. -/
inductive ScanMode
  | idle
  | word (spelling : List Char)
  | quoted (pieces : List Piece)
  | escape (pieces : List Piece)
  | unit (pieces : List Piece) (missing code : Nat)
  deriving DecidableEq, Repr

structure Scan where
  found : List Token := []
  mode : ScanMode := .idle
  deriving DecidableEq, Repr

namespace Scan

def isBlank (c : Char) : Bool := c = ' ' || c = '\t' || c = '\n' || c = '\r'

/-- The characters of words and numerals. Of two such characters side by side the second always
belongs to the same word. -/
def isWordChar (c : Char) : Bool := c.isAlphanum || c = '-' || c = '+' || c = '.'

def start (found : List Token) (c : Char) : Option Scan :=
  if isBlank c then some { found }
  else if c = '"' then some { found, mode := .quoted [] }
  else if isWordChar c then some { found, mode := .word [c] }
  else (Token.punctuation? c).map fun token => { found := token :: found }

def closeWord (found : List Token) (spelling : List Char) : Option (List Token) :=
  (Token.word? spelling.reverse).map (· :: found)

def closeText (found : List Token) (pieces : List Piece) : Scan :=
  { found := .text ((Piece.decode pieces.reverse).map String.ofList) :: found }

def step (scan : Scan) (next : Option Char) : Option Scan :=
  match scan.mode, next with
  | .idle, some c => start scan.found c
  | .word spelling, some c =>
      if isWordChar c then some { scan with mode := .word (c :: spelling) }
      else (closeWord scan.found spelling).bind (start · c)
  | .quoted pieces, some c =>
      if c = '"' then some (closeText scan.found pieces)
      else if c = '\\' then some { scan with mode := .escape pieces }
      else if isControl c then none
      else some { scan with mode := .quoted (.char c :: pieces) }
  | .quoted pieces, none => some { scan with mode := .quoted (.gap :: pieces) }
  | .escape pieces, some c =>
      if c = 'u' then some { scan with mode := .unit pieces 4 0 }
      else (escaped? c).map fun stands => { scan with mode := .quoted (.char stands :: pieces) }
  | .unit pieces missing code, some c =>
      (hexDigit? c).map fun digit =>
        let code := code * 16 + digit
        { scan with
          mode := if missing ≤ 1 then .quoted (.unit code :: pieces)
            else .unit pieces (missing - 1) code }
  | _, none => none

def finish (scan : Scan) : Option (List Token) :=
  match scan.mode with
  | .idle => some scan.found.reverse
  | .word spelling => (closeWord scan.found spelling).map List.reverse
  | _ => none

end Scan

def tokens? (text : List (Option Char)) : Option (List Token) :=
  (text.foldlM Scan.step {}).bind Scan.finish

end StepFlow.Json
