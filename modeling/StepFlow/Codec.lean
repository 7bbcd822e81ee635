import StepFlow.Text.Utf8

/-!
Binary forms of values. A codec writes a value as bytes and reads a value from the front of a list
of bytes, so codecs can be set side by side without separators.
-/
namespace StepFlow

/-- The most bytes that can be had in one piece. No address has the upper bit of eight bytes set. -/
structure Memory where
  block : Nat
  addressable : block < 0x8000000000000000

def Memory.full : Memory := ⟨0x7FFFFFFFFFFFFFFF, by decide⟩

inductive ReadFault
  | malformed
  /-- There is no room for a text of this length, and whoever reads it does not live to say so. -/
  | overrun (claimed : Nat)
  deriving DecidableEq, Repr

def orMalformed {α : Type} : Option α → Except ReadFault α
  | some value => .ok value
  | none => .error .malformed

@[simp] theorem orMalformed_eq_ok_iff {α : Type} {found : Option α} {value : α} :
    orMalformed found = .ok value ↔ found = some value := by
  cases found <;> simp [orMalformed]

theorem orMalformed_ne_overrun {α : Type} (found : Option α) (claimed : Nat) :
    orMalformed found ≠ .error (.overrun claimed) := by
  cases found <;> simp [orMalformed]

/-- Reading from the front of some bytes. Room is made for a text as long as it claims to be before
its bytes are looked at, so the claims count whether or not the bytes are there. -/
structure Reading (α : Type) where
  claims : List Nat
  outcome : Option (α × List UInt8)

namespace Reading

variable {α β : Type}

def failed : Reading α := ⟨[], none⟩

def done (value : α) (rest : List UInt8) : Reading α := ⟨[], some (value, rest)⟩

def bind (reading : Reading α) (next : α → List UInt8 → Reading β) : Reading β :=
  match reading.outcome with
  | none => ⟨reading.claims, none⟩
  | some (value, rest) =>
      let later := next value rest
      ⟨reading.claims ++ later.claims, later.outcome⟩

/-- What comes of it on a machine. The bytes that are left are not looked at. -/
def under (memory : Memory) (reading : Reading α) : Except ReadFault α :=
  match reading.claims.find? (memory.block < ·) with
  | some claimed => .error (.overrun claimed)
  | none => (orMalformed reading.outcome).map (·.1)

end Reading

structure Codec (α : Type) where
  write : α → List UInt8
  read : List UInt8 → Reading α

namespace Codec

variable {α β : Type}

def fixedBytes : (width value : Nat) → List UInt8
  | 0, _ => []
  | width + 1, value => .ofNat value :: fixedBytes width (value / 256)

def fixedValue : List UInt8 → Nat
  | [] => 0
  | byte :: rest => byte.toNat + 256 * fixedValue rest

def announced? (first : UInt8) : Option Nat :=
  if first.toNat = 251 then some 2
  else if first.toNat = 252 then some 4
  else if first.toNat = 253 then some 8
  else none

/-- Any width up to `widest` is allowed, wider than needed as well. -/
def numberFrom? (widest : Nat) : List UInt8 → Option (Nat × List UInt8)
  | [] => none
  | first :: rest =>
      if first.toNat ≤ 250 then some (first.toNat, rest)
      else do
        let width ← announced? first
        if widest < width || rest.length < width then none
        else return (fixedValue (rest.take width), rest.drop width)

def number (widest : Nat) : Codec Nat where
  write value :=
    if value ≤ 250 then [.ofNat value]
    else if value < 0x10000 then 251 :: fixedBytes 2 value
    else if value < 0x100000000 then 252 :: fixedBytes 4 value
    else 253 :: fixedBytes 8 value
  read bytes := ⟨[], numberFrom? widest bytes⟩

def length : Codec Nat := number 8

def tag : Codec Nat := number 4

def via (codec : Codec β) (form : α → β) (back : β → Option α) : Codec α where
  write value := codec.write (form value)
  read bytes := (codec.read bytes).bind fun shown rest => ⟨[], (back shown).map (·, rest)⟩

def pair (first : Codec α) (second : Codec β) : Codec (α × β) where
  write value := first.write value.1 ++ second.write value.2
  read bytes := (first.read bytes).bind fun a rest =>
    (second.read rest).bind fun b rest => .done (a, b) rest

def readMany (read : List UInt8 → Reading α) : Nat → List UInt8 → Reading (List α)
  | 0, bytes => .done [] bytes
  | count + 1, bytes => (read bytes).bind fun item rest =>
      (readMany read count rest).bind fun items rest => .done (item :: items) rest

def list (item : Codec α) : Codec (List α) where
  write items := length.write items.length ++ items.flatMap item.write
  read bytes := (length.read bytes).bind (readMany item.read)

def byteFrom : List UInt8 → Reading UInt8
  | [] => .failed
  | byte :: rest => .done byte rest

def option (item : Codec α) : Codec (Option α) where
  write
    | none => [0]
    | some value => 1 :: item.write value
  read bytes := (byteFrom bytes).bind fun mark rest =>
    if mark = 0 then .done none rest
    else if mark = 1 then (item.read rest).bind fun value rest => .done (some value) rest
    else .failed

def textFrom (count : Nat) (bytes : List UInt8) : Reading String :=
  ⟨[count],
    if bytes.length < count then none
    else (Text.textOfUtf8? (bytes.take count)).map fun characters =>
      (String.ofList characters, bytes.drop count)⟩

/-- The length counts bytes, not characters. -/
def text : Codec String where
  write value :=
    let bytes := Text.encodeUtf8 value.toList
    length.write bytes.length ++ bytes
  read bytes := (length.read bytes).bind textFrom

def choice [DecidableEq α] (values : List α) : Codec α :=
  tag.via (values.idxOf ·) (values[·]?)

end Codec

end StepFlow
