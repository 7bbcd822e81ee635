import StepFlow.Files

namespace StepFlow

/-- `last` is looked up in the directory that `way` leads to. `slashed` says that slashes follow
it, which ask for a directory there. -/
structure Path where
  absolute : Bool
  way : List String
  last : String
  slashed : Bool
  deriving DecidableEq, Repr

namespace Path

/-- In bytes, as is `nameLimit`. -/
def sizeLimit : Nat := 4095

def nameLimit : Nat := 255

def names (text : List Char) : List (List Char) :=
  text.foldr
    (fun char names => if char = '/' then [] :: names else names.modifyHead (char :: ·)) [[]]

/-- Blank names count for nothing, and a path of slashes alone leads to where it starts. -/
def ofChars (text : List Char) : Path :=
  let names := ((names text).filter (· ≠ [])).map String.ofList
  { absolute := text.head? = some '/'
    way := names.dropLast
    last := names.getLastD "."
    slashed := text.getLast? = some '/' }

def parse (text : String) : Except FileFault Path :=
  if '\x00' ∈ text.toList then .error .nulInName
  else if text = "" then .error .notFound
  else if text.utf8ByteSize > sizeLimit then .error .nameTooLong
  else .ok (ofChars text.toList)

end Path

end StepFlow
