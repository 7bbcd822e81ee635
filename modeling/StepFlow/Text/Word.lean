import StepFlow.Text.Alphanumeric

namespace StepFlow.Text

/-- A word must end where it ends in the text, at the end or before a character that is neither
letter nor number: "is valid" starts with the word "is", and "island" does not. -/
def startsWithWord (word text : List Char) : Bool :=
  word.isPrefixOf text && !(text.drop word.length).head?.any isAlphanumeric

end StepFlow.Text
