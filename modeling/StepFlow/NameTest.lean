import StepFlow.Keywords
import StepFlow.Text.Word

/-!
Telling the role of a step by its name. A fixed list of tests is tried in order, the first that
holds decides, and a name that none of them fits is a state.
-/
namespace StepFlow

inductive NameTest
  | endsWithQuestionMark
  | startsWithRuleKeyword
  | startsWithAsk
  | allCapitals
  | startsWithBehaviorKeyword
  deriving DecidableEq, Repr

namespace NameTest

def startsWithAny (words : List String) (name : List Char) : Bool :=
  words.any fun word => Text.startsWithWord word.toList (Text.lower name)

def holdsOfTrimmed (keywords : Keywords) (name : List Char) : NameTest → Bool
  | endsWithQuestionMark => name.getLast? = some '?'
  | startsWithRuleKeyword => startsWithAny keywords.rule name
  | startsWithAsk => startsWithAny ["ask"] name
  | allCapitals => name.any Text.isAlphabetic && !name.any Text.isLowercase
  | startsWithBehaviorKeyword => startsWithAny keywords.behavior name

def holds (test : NameTest) (keywords : Keywords) (name : String) : Bool :=
  test.holdsOfTrimmed keywords (Text.trim name.toList)

def verdicts : List (NameTest × Role) :=
  [(endsWithQuestionMark, .rule),
   (startsWithRuleKeyword, .rule),
   (startsWithAsk, .state),
   (allCapitals, .state),
   (startsWithBehaviorKeyword, .behavior)]

end NameTest

namespace Keywords

def roleOfName (keywords : Keywords) (name : String) : Role :=
  ((NameTest.verdicts.find? fun verdict => verdict.1.holds keywords name).map (·.2)).getD .state

def roleOfStep (keywords : Keywords) (step : Step) : Role :=
  step.declaredRole.getD (keywords.roleOfName step.name)

end Keywords

end StepFlow
