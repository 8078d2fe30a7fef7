namespace StatTree.Text

/-- Whether an ascending list of ranges holds a code point; ranges above it are not looked at. -/
def inRanges (code : Nat) : List (Nat × Nat) → Bool
  | [] => false
  | (low, high) :: rest => low ≤ code && (code ≤ high || inRanges code rest)

end StatTree.Text
