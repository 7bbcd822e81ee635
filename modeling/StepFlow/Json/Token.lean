import StepFlow.Text.Decimal

namespace StepFlow.Json

/-- The content of a text is `none` if the text spells no sequence of characters. -/
inductive Token
  | openArray
  | closeArray
  | openObject
  | closeObject
  | comma
  | colon
  | null
  | bool (value : Bool)
  | integer (value : Int)
  | numeral (spelling : String)
  | text (content : Option String)
  deriving DecidableEq, Repr

namespace Token

def punctuation? (c : Char) : Option Token :=
  if c = '[' then some openArray
  else if c = ']' then some closeArray
  else if c = '{' then some openObject
  else if c = '}' then some closeObject
  else if c = ',' then some comma
  else if c = ':' then some colon
  else none

def isWhole (digits : List Char) : Bool :=
  !digits.isEmpty && (digits.head? != some '0' || digits.length = 1)

def isExponent (spelling : List Char) : Bool :=
  match spelling with
  | [] => true
  | mark :: signed =>
      let digits := match signed with
        | sign :: rest => if sign = '+' || sign = '-' then rest else signed
        | [] => []
      (mark = 'e' || mark = 'E') && !digits.isEmpty && digits.all Char.isDigit

def isTail (spelling : List Char) : Bool :=
  match spelling with
  | '.' :: rest =>
      !(rest.takeWhile Char.isDigit).isEmpty && isExponent (rest.dropWhile Char.isDigit)
  | rest => isExponent rest

def numeral? (spelling : List Char) : Option Token :=
  let negative := spelling.head? = some '-'
  let unsigned := if negative then spelling.tail else spelling
  let whole := unsigned.takeWhile Char.isDigit
  let tail := unsigned.dropWhile Char.isDigit
  let value := Text.digitsValue whole
  if !isWhole whole || !isTail tail then none
  else if !tail.isEmpty || negative && value = 0 then some (numeral (String.ofList spelling))
  else some (integer (if negative then -value else value))

def word? (spelling : List Char) : Option Token :=
  if spelling = ['n', 'u', 'l', 'l'] then some null
  else if spelling = ['t', 'r', 'u', 'e'] then some (bool true)
  else if spelling = ['f', 'a', 'l', 's', 'e'] then some (bool false)
  else numeral? spelling

end Token

end StepFlow.Json
