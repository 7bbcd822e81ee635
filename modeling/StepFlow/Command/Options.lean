import StepFlow.Table.Priority
import StepFlow.Text.Decimal

namespace StepFlow.Command

inductive Setting
  | stateDictionary
  | ruleDictionary
  | keywords
  | priority
  | output
  deriving DecidableEq, Repr

namespace Setting

def all : List Setting := [stateDictionary, ruleDictionary, keywords, priority, output]

def longName : Setting → String
  | stateDictionary => "state-dict"
  | ruleDictionary => "rule-dict"
  | keywords => "keywords"
  | priority => "priority"
  | output => "output"

def shortName? : Setting → Option Char
  | stateDictionary | ruleDictionary => none
  | keywords => some 'k'
  | priority => some 'p'
  | output => some 'o'

end Setting

def emitFlag : String := "emit-dictionaries"

inductive Argument
  | positional (value : String)
  | setting (setting : Setting) (value : String)
  | emitDictionaries
  deriving DecidableEq, Repr

/-- What one text says by itself. A setting without a value takes the text behind it for one. -/
inductive ArgumentText
  | complete (argument : Argument)
  | opening (setting : Setting)
  | endOfOptions
  | unknown
  deriving DecidableEq, Repr

namespace ArgumentText

def ofSetting (setting : Setting) : (attached : Option (List Char)) → ArgumentText
  | some value => complete (.setting setting (String.ofList value))
  | none => opening setting

def splitAssignment (text : List Char) : List Char × Option (List Char) :=
  match text.span (· ≠ '=') with
  | (name, _ :: value) => (name, some value)
  | (name, []) => (name, none)

def ofLong (text : List Char) : ArgumentText :=
  let (name, attached) := splitAssignment text
  match Setting.all.find? (·.longName.toList = name) with
  | some setting => ofSetting setting attached
  | none =>
      if name = emitFlag.toList && attached.isNone then complete .emitDictionaries else unknown

/-- A value may follow a short name at once, with or without a sign of equality. -/
def ofShort (name : Char) (tail : List Char) : ArgumentText :=
  match Setting.all.find? (·.shortName? = some name), tail with
  | none, _ => unknown
  | some setting, [] => opening setting
  | some setting, '=' :: value => ofSetting setting (some value)
  | some setting, value => ofSetting setting (some value)

/-- A single dash is a value like any other. -/
def ofString (text : String) : ArgumentText :=
  match text.toList with
  | ['-', '-'] => endOfOptions
  | '-' :: '-' :: body => ofLong body
  | '-' :: name :: tail => ofShort name tail
  | _ => complete (.positional text)

end ArgumentText

def argumentsFrom? (pending : Option Setting) : List String → Option (List Argument)
  | [] => if pending.isNone then some [] else none
  | text :: rest =>
      match pending, ArgumentText.ofString text with
      | none, .complete argument => (argumentsFrom? none rest).map (argument :: ·)
      | none, .opening setting => argumentsFrom? (some setting) rest
      | none, .endOfOptions => some (rest.map .positional)
      | some setting, .complete (.positional value) =>
          (argumentsFrom? none rest).map (.setting setting value :: ·)
      | _, _ => none

def arguments? (texts : List String) : Option (List Argument) := argumentsFrom? none texts

structure Options where
  diagram : String
  stateDictionary : Option String := none
  ruleDictionary : Option String := none
  keywords : Option String := none
  priority : Priority := .standard
  output : Option String := none
  emitDictionaries : Bool := false
  deriving DecidableEq, Repr

def priority? (text : String) : Option Priority :=
  let value : Option Int := match text.toList with
    | '-' :: digits => (Text.natural? digits).map fun value => -value
    | '+' :: digits => (Text.natural? digits).map fun value => value
    | digits => (Text.natural? digits).map fun value => value
  value.bind Priority.ofInt?

def atMostOne? {α : Type} : List α → Option (Option α)
  | [] => some none
  | [value] => some (some value)
  | _ => none

def values (setting : Setting) (arguments : List Argument) : List String :=
  arguments.filterMap fun
    | .setting given value => if given = setting then some value else none
    | _ => none

def positionals (arguments : List Argument) : List String :=
  arguments.filterMap fun
    | .positional value => some value
    | _ => none

def Options.parse? (texts : List String) : Option Options := do
  let arguments ← arguments? texts
  let diagram ← (← atMostOne? (positionals arguments))
  let stateDictionary ← atMostOne? (values .stateDictionary arguments)
  let ruleDictionary ← atMostOne? (values .ruleDictionary arguments)
  let keywords ← atMostOne? (values .keywords arguments)
  let priority ← match ← atMostOne? (values .priority arguments) with
    | some text => priority? text
    | none => some .standard
  let output ← atMostOne? (values .output arguments)
  let emit ← atMostOne? (arguments.filter (· = .emitDictionaries))
  return { diagram, stateDictionary, ruleDictionary, keywords, priority, output,
           emitDictionaries := emit.isSome }

end StepFlow.Command
