namespace StepFlow

abbrev Priority := Int32

namespace Priority

def standard : Priority := 50

def ofInt? (value : Int) : Option Priority :=
  if Int32.minValue.toInt ≤ value ∧ value ≤ Int32.maxValue.toInt then some (.ofInt value) else none

end Priority

end StepFlow
