namespace StepFlow.Json

def isControl (c : Char) : Bool := c.toNat < 0x20

def hexDigit (value : Nat) : Char := if value < 10 then .ofNat (48 + value) else .ofNat (87 + value)

def escape (c : Char) : List Char :=
  if c = '"' then ['\\', '"']
  else if c = '\\' then ['\\', '\\']
  else if c = '\n' then ['\\', 'n']
  else if c = '\r' then ['\\', 'r']
  else if c = '\t' then ['\\', 't']
  else if c.toNat = 8 then ['\\', 'b']
  else if c.toNat = 12 then ['\\', 'f']
  else if isControl c then
    ['\\', 'u', '0', '0', hexDigit (c.toNat / 16), hexDigit (c.toNat % 16)]
  else [c]

def quote (text : List Char) : List Char := '"' :: text.flatMap escape ++ ['"']

def hexDigit? (c : Char) : Option Nat :=
  if '0' ≤ c ∧ c ≤ '9' then some (c.toNat - 48)
  else if 'a' ≤ c ∧ c ≤ 'f' then some (c.toNat - 87)
  else if 'A' ≤ c ∧ c ≤ 'F' then some (c.toNat - 55)
  else none

def escaped? (c : Char) : Option Char :=
  if c = '"' || c = '\\' || c = '/' then some c
  else if c = 'n' then some '\n'
  else if c = 'r' then some '\r'
  else if c = 't' then some '\t'
  else if c = 'b' then some (.ofNat 8)
  else if c = 'f' then some (.ofNat 12)
  else none

inductive Piece
  | char (c : Char)
  | unit (code : Nat)
  | gap
  deriving DecidableEq, Repr

namespace Piece

def isHighSurrogate (code : Nat) : Bool := 0xD800 ≤ code && code < 0xDC00

def isLowSurrogate (code : Nat) : Bool := 0xDC00 ≤ code && code < 0xE000

def pairCode (high low : Nat) : Nat := 0x10000 + (high - 0xD800) * 0x400 + (low - 0xDC00)

/-- Surrogates spell a character in pairs only, a high one right before a low one. `pending` is a
high surrogate that still waits for its partner. -/
def decodeFrom (pending : Option Nat) : List Piece → Option (List Char)
  | [] => if pending.isNone then some [] else none
  | piece :: rest =>
      match pending, piece with
      | some high, .unit low =>
          if isLowSurrogate low then (decodeFrom none rest).map (.ofNat (pairCode high low) :: ·)
          else none
      | some _, _ => none
      | none, .char c => (decodeFrom none rest).map (c :: ·)
      | none, .unit code =>
          if isHighSurrogate code then decodeFrom (some code) rest
          else if isLowSurrogate code then none
          else (decodeFrom none rest).map (.ofNat code :: ·)
      | none, .gap => none

def decode (pieces : List Piece) : Option (List Char) := decodeFrom none pieces

end Piece

end StepFlow.Json
