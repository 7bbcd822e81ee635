import Mathlib.Data.List.TakeDrop
import StepFlow.Command.Options

namespace StepFlow.Command

namespace ArgumentText

theorem splitAssignment_append {name : List Char} (noSign : '=' ∉ name) (value : List Char) :
    splitAssignment (name ++ '=' :: value) = (name, some value) := by
  have before : ∀ c ∈ name, decide (c ≠ '=') = true := by
    intro c member
    exact decide_eq_true (ne_of_mem_of_not_mem member noSign)
  rw [splitAssignment, List.span_eq_takeWhile_dropWhile, List.takeWhile_append_of_pos before,
    List.dropWhile_append_of_pos before]
  simp

def given (setting : Setting) (value : String) : String := "--" ++ setting.longName ++ "=" ++ value

theorem ofString_given (setting : Setting) (value : String) :
    ofString (given setting value) = .complete (.setting setting value) := by
  have noSign : '=' ∉ setting.longName.toList := by cases setting <;> decide
  have known : Setting.all.find? (·.longName.toList = setting.longName.toList) = some setting := by
    cases setting <;> decide
  have long : ofLong (setting.longName.toList ++ '=' :: value.toList) =
      .complete (.setting setting value) := by
    rw [ofLong, splitAssignment_append noSign]
    simp only [known, ofSetting, String.ofList_toList]
  have text : (given setting value).toList =
      '-' :: '-' :: (setting.longName.toList ++ '=' :: value.toList) := by
    simp [given, String.toList_append]
  rw [ofString, text, ← long]
  cases setting <;> rfl

end ArgumentText

theorem arguments?_given (settings : List (Setting × String)) (positionals : List String) :
    arguments? (settings.map (fun (setting, value) => ArgumentText.given setting value) ++
        "--" :: positionals) =
      some (settings.map (fun (setting, value) => .setting setting value) ++
        positionals.map .positional) := by
  induction settings with
  | nil => rfl
  | cons first rest ih =>
      rcases first with ⟨setting, value⟩
      rw [arguments?] at ih ⊢
      simp only [List.map_cons, List.cons_append, argumentsFrom?, ArgumentText.ofString_given, ih,
        Option.map_some]

end StepFlow.Command
