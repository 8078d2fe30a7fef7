import StatTree.Number.Binary64

namespace StatTree.Binary64

def leadingPower (num den : Nat) : Int :=
  let power : Int := digitCount num - digitCount den
  let reached :=
    if 0 ≤ power then den * Nat.pow 10 power.toNat ≤ num
    else den ≤ num * Nat.pow 10 (-power).toNat
  if reached then power else power - 1

def onGrid (significand exponent : Nat) (power : Int) : Nat × Nat :=
  (units significand exponent * Nat.pow 10 (-power).toNat,
    unitsPerOne * Nat.pow 10 power.toNat)

/-- On the grid of multiples of `10 ^ power`, the nearer neighbour of the ratio that reads back as
    the number; of two equally near ones the even one. -/
def neighbour? (significand exponent : Nat) (power : Int) : Option Nat :=
  let (num, den) := onGrid significand exponent power
  let readsBack := fun digits =>
    ofDecimal false digits power == .finite false significand exponent
  let below := num / den
  let nearest := roundHalfEven num den
  let farther := if nearest = below then below + 1 else below
  if readsBack nearest then some nearest
  else if readsBack farther then some farther
  else none

def shortestFrom (significand exponent : Nat) : Nat → Int → Nat × Int
  | 0, power =>
    let (num, den) := onGrid significand exponent power
    (roundHalfEven num den, power)
  | fuel + 1, power =>
    match neighbour? significand exponent power with
    | some digits => (digits, power)
    | none => shortestFrom significand exponent fuel (power - 1)

def shortest (significand exponent : Nat) : Nat × Int :=
  if significand = 0 then (0, 0)
  else
    let leading := leadingPower (units significand exponent) unitsPerOne
    shortestFrom significand exponent 17 leading

def positional (digits : Nat) (power : Int) : String :=
  if 0 ≤ power then toString (digits * Nat.pow 10 power.toNat)
  else
    let places := (-power).toNat
    let text := Nat.toDigits 10 digits
    let padded := List.replicate (places + 1 - text.length) '0' ++ text
    let whole := padded.take (padded.length - places)
    let fraction := (padded.drop (padded.length - places)).reverse.dropWhile (· == '0')
    if fraction.isEmpty then String.ofList whole
    else String.ofList (whole ++ '.' :: fraction.reverse)

/-- The shortest decimal text that reads back, without exponent; `1.0` is written `1`, and
    negative zero keeps its sign. -/
def text : Binary64 → String
  | .finite negative significand exponent =>
    let (digits, power) := shortest significand exponent
    (if negative then "-" else "") ++ positional digits power
  | .infinite negative => if negative then "-inf" else "inf"
  | .notANumber => "NaN"

end StatTree.Binary64
