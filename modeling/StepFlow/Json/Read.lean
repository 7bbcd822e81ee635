import StepFlow.Json.Scan
import StepFlow.Json.Value
import StepFlow.Text.Utf8

/-!
Reading JSON. The values that are still open are held in a context that grows with each bracket,
so there is no limit to the depth of nesting.
-/
namespace StepFlow.Json

/-- The open arrays and objects around a value, innermost first. Items and members are held last
first, and a key is `none` if it spells no sequence of characters. -/
inductive Context
  | top
  | item (items : List Json) (outer : Context)
  | member (members : List (Option String × Json)) (key : Option String) (outer : Context)
  deriving Repr

inductive Reading
  | beforeValue (context : Context)
  | beforeItem (outer : Context)
  | beforeMember (outer : Context)
  | beforeKey (members : List (Option String × Json)) (outer : Context)
  | beforeColon (members : List (Option String × Json)) (key : Option String) (outer : Context)
  | afterValue (value : Json) (context : Context)
  deriving Repr

/-- An object with a key that spells no characters can be passed over but not read. -/
def ofMembers (members : List (Option String × Json)) : Json :=
  match members.mapM fun (key, value) => key.map (·, value) with
  | some members => .object members
  | none => .unreadable

namespace Reading

def begin (context : Context) : Token → Option Reading
  | .openArray => some (beforeItem context)
  | .openObject => some (beforeMember context)
  | .null => some (afterValue .null context)
  | .bool value => some (afterValue (.bool value) context)
  | .integer value => some (afterValue (.integer value) context)
  | .numeral spelling => some (afterValue (.numeral spelling) context)
  | .text content => some (afterValue ((content.map Json.text).getD .unreadable) context)
  | .closeArray | .closeObject | .comma | .colon => none

def step : Reading → Token → Option Reading
  | beforeValue context, token => begin context token
  | beforeItem outer, .closeArray => some (afterValue (.array []) outer)
  | beforeItem outer, token => begin (.item [] outer) token
  | beforeMember outer, .closeObject => some (afterValue (.object []) outer)
  | beforeMember outer, .text key => some (beforeColon [] key outer)
  | beforeKey members outer, .text key => some (beforeColon members key outer)
  | beforeColon members key outer, .colon => some (beforeValue (.member members key outer))
  | afterValue value (.item items outer), .comma => some (beforeValue (.item (value :: items) outer))
  | afterValue value (.item items outer), .closeArray =>
      some (afterValue (.array (value :: items).reverse) outer)
  | afterValue value (.member members key outer), .comma =>
      some (beforeKey ((key, value) :: members) outer)
  | afterValue value (.member members key outer), .closeObject =>
      some (afterValue (ofMembers ((key, value) :: members).reverse) outer)
  | _, _ => none

def finish : Reading → Option Json
  | afterValue value .top => some value
  | _ => none

end Reading

def ofTokens? (tokens : List Token) : Option Json :=
  (tokens.foldlM Reading.step (.beforeValue .top)).bind Reading.finish

def ofChars? (text : List (Option Char)) : Option Json := (tokens? text).bind ofTokens?

def ofText? (text : String) : Option Json := ofChars? (text.toList.map some)

def ofBytes? (bytes : List UInt8) : Option Json := ofChars? (Text.decodeUtf8 bytes)

end StepFlow.Json
