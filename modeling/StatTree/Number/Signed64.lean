namespace StatTree

def fitsSigned64 (value : Int) : Bool :=
  Int64.minValue.toInt ≤ value && value ≤ Int64.maxValue.toInt

theorem fitsSigned64_iff (value : Int) :
    fitsSigned64 value ↔ -9223372036854775808 ≤ value ∧ value ≤ 9223372036854775807 := by
  simp [fitsSigned64, show Int64.minValue.toInt = -9223372036854775808 from rfl,
    show Int64.maxValue.toInt = 9223372036854775807 from rfl]

end StatTree
