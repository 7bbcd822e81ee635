import StepFlow.Json.Quoted
import StepFlow.Json.Value

namespace StepFlow.Json

def newline (depth : Nat) : List Char := '\n' :: List.replicate (2 * depth) ' '

mutual

def pretty (depth : Nat) : Json → List Char
  | null | unreadable => "null".toList
  | bool value => (if value then "true" else "false").toList
  | integer value => (toString value).toList
  | numeral spelling => spelling.toList
  | text value => quote value.toList
  | array [] => ['[', ']']
  | array (first :: rest) =>
      '[' :: newline (depth + 1) ++ pretty (depth + 1) first ++ prettyItems (depth + 1) rest ++
        newline depth ++ [']']
  | object [] => ['{', '}']
  | object ((key, first) :: rest) =>
      '{' :: newline (depth + 1) ++ quote key.toList ++ [':', ' '] ++ pretty (depth + 1) first ++
        prettyMembers (depth + 1) rest ++ newline depth ++ ['}']

def prettyItems (depth : Nat) : List Json → List Char
  | [] => []
  | item :: rest => ',' :: newline depth ++ pretty depth item ++ prettyItems depth rest

def prettyMembers (depth : Nat) : List (String × Json) → List Char
  | [] => []
  | (key, value) :: rest =>
      ',' :: newline depth ++ quote key.toList ++ [':', ' '] ++ pretty depth value ++
        prettyMembers depth rest

end

def render (value : Json) : String := String.ofList (value.pretty 0)

end StepFlow.Json
