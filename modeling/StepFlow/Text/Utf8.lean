/-!
UTF-8. `decodeUtf8` never fails: a byte that begins no character is passed over on its own and leaves
a gap (`none`). No part of a longer form is an ASCII byte, so ASCII characters are always found.
-/
namespace StepFlow.Text

def encodeUtf8 (text : List Char) : List UInt8 := text.flatMap String.utf8EncodeChar

def charOfCode? (code : Nat) : Option Char :=
  if valid : code.isValidChar then some (.ofNatAux code valid) else none

def continuation? (byte : UInt8) : Option Nat :=
  if 0x80 ≤ byte.toNat && byte.toNat < 0xC0 then some (byte.toNat - 0x80) else none

/-- A code must not be spelled with more bytes than it needs. -/
def charFrom? (least code : Nat) : Option Char := if least ≤ code then charOfCode? code else none

/-- The character spelled by a first byte and what follows it, and how many of the following bytes
belong to it. -/
def decodeFirst? (first : UInt8) (following : List UInt8) : Option (Char × Nat) := do
  let lead := first.toNat
  if lead < 0x80 then return (← charOfCode? lead, 0)
  else if lead < 0xC0 then none
  else if lead < 0xE0 then
    let low ← following[0]?.bind continuation?
    return (← charFrom? 0x80 ((lead - 0xC0) * 64 + low), 1)
  else if lead < 0xF0 then
    let middle ← following[0]?.bind continuation?
    let low ← following[1]?.bind continuation?
    return (← charFrom? 0x800 (((lead - 0xE0) * 64 + middle) * 64 + low), 2)
  else
    let high ← following[0]?.bind continuation?
    let middle ← following[1]?.bind continuation?
    let low ← following[2]?.bind continuation?
    return (← charFrom? 0x10000 ((((lead - 0xF0) * 64 + high) * 64 + middle) * 64 + low), 3)

def decodeUtf8 : List UInt8 → List (Option Char)
  | [] => []
  | first :: following =>
      match decodeFirst? first following with
      | some (c, more) => some c :: decodeUtf8 (following.drop more)
      | none => none :: decodeUtf8 following
termination_by bytes => bytes.length
decreasing_by all_goals simp only [List.length_drop, List.length_cons]; omega

def textOfUtf8? (bytes : List UInt8) : Option (List Char) := (decodeUtf8 bytes).mapM id

end StepFlow.Text
