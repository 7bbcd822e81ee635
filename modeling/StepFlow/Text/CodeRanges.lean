/-!
Character properties as lists of closed code point ranges. All property tables of the library
list Unicode 17.0.
-/
namespace StepFlow.Text

abbrev CodeRanges := List (Nat × Nat)

def CodeRanges.holds (ranges : CodeRanges) (c : Char) : Bool :=
  ranges.any fun (first, last) => first ≤ c.toNat && c.toNat ≤ last

end StepFlow.Text
