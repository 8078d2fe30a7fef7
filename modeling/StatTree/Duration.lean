namespace StatTree

structure Duration where
  nanoseconds : Nat
deriving DecidableEq, Repr

namespace Duration

def zero : Duration := ⟨0⟩

def add (a b : Duration) : Duration := ⟨a.nanoseconds + b.nanoseconds⟩

def ofMilliseconds (n : Nat) : Duration := ⟨n * 1000000⟩

def ofSeconds (seconds nanoseconds : Nat) : Duration := ⟨seconds * 1000000000 + nanoseconds⟩

def inUnit (places : Nat) (nanoseconds : Nat) : String :=
  let whole := nanoseconds / Nat.pow 10 places
  let digits := Nat.toDigits 10 (nanoseconds % Nat.pow 10 places)
  let padded := List.replicate (places - digits.length) '0' ++ digits
  let fraction := (padded.reverse.dropWhile (· == '0')).reverse
  if places = 0 ∨ fraction.isEmpty then toString whole
  else toString whole ++ "." ++ String.ofList fraction

/-- The duration in the largest unit in which its whole part is not zero. -/
def text (duration : Duration) : String :=
  let n := duration.nanoseconds
  if 1000000000 ≤ n then inUnit 9 n ++ "s"
  else if 1000000 ≤ n then inUnit 6 n ++ "ms"
  else if 1000 ≤ n then inUnit 3 n ++ "µs"
  else inUnit 0 n ++ "ns"

end Duration

end StatTree
