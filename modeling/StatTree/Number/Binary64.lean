namespace StatTree

/-- A binary64 number. A finite one is `significand * 2 ^ exponent / 2 ^ 1074`, with the
    significand below `2 ^ 53`, and at least `2 ^ 52` unless the exponent is zero. -/
inductive Binary64
  | finite (negative : Bool) (significand exponent : Nat)
  | infinite (negative : Bool)
  | notANumber
deriving DecidableEq, Repr

namespace Binary64

def roundHalfEven (num den : Nat) : Nat :=
  let quotient := num / den
  let doubled := 2 * (num % den)
  if doubled < den ∨ (doubled = den ∧ quotient % 2 = 0) then quotient else quotient + 1

def unitsPerOne : Nat := Nat.pow 2 1074

def units (significand exponent : Nat) : Nat := significand * Nat.pow 2 exponent

def leastFull : Nat := Nat.pow 2 52

def ratioExponent (num den : Nat) : Nat := (num * unitsPerOne / den).log2 - 52

def ofRounded (negative : Bool) (significand exponent : Nat) : Binary64 :=
  if significand = 2 * leastFull then
    if exponent + 1 ≤ 2045 then .finite negative leastFull (exponent + 1) else .infinite negative
  else if exponent ≤ 2045 then .finite negative significand exponent else .infinite negative

def ofRatio (negative : Bool) (num den : Nat) : Binary64 :=
  let exponent := ratioExponent num den
  ofRounded negative (roundHalfEven (num * unitsPerOne) (units den exponent)) exponent

def digitCount (n : Nat) : Nat := (Nat.toDigits 10 n).length

/-- The number nearest to `digits * 10 ^ exponent`. Magnitudes beyond the finite range on either
    side are settled by the count of digits alone. -/
def ofDecimal (negative : Bool) (digits : Nat) (exponent : Int) : Binary64 :=
  let magnitude := digitCount digits + exponent
  if digits = 0 ∨ magnitude < -330 then .finite negative 0 0
  else if 310 < magnitude then .infinite negative
  else if 0 ≤ exponent then ofRatio negative (digits * Nat.pow 10 exponent.toNat) 1
  else ofRatio negative digits (Nat.pow 10 (-exponent).toNat)

/-- The nearest natural number, a half going up, held within a bound. What is negative or not a
    number is zero. -/
def toNatWithin (bound : Nat) : Binary64 → Nat
  | .finite true _ _ => 0
  | .finite false significand exponent =>
    min bound ((2 * units significand exponent + unitsPerOne) / (2 * unitsPerOne))
  | .infinite negative => if negative then 0 else bound
  | .notANumber => 0

end Binary64

end StatTree
