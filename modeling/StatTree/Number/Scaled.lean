import StatTree.Number.Binary64

namespace StatTree.Binary64

def times (a b : Binary64) : Binary64 :=
  match a, b with
  | .finite _ s e, .finite _ t f =>
    ofRatio false (units s e * units t f) (unitsPerOne * unitsPerOne)
  | a, _ => a

def dividedBy (a b : Binary64) : Binary64 :=
  match a, b with
  | .finite _ s e, .finite _ t f => ofRatio false (units s e) (units t f)
  | a, _ => a

def powerOfTen (power : Nat) : Binary64 := ofDecimal false 1 power

def maxPower : Nat := 308

def scaledDown : Nat → Binary64 → Nat → Binary64
  | 0, value, _ => value
  | steps + 1, value, power =>
    if power ≤ maxPower then value.dividedBy (powerOfTen power)
    else scaledDown steps (value.dividedBy (powerOfTen maxPower)) (power - maxPower)

/-- The magnitude `significand * 10 ^ exponent` by scaling, none beyond the finite range. Every step
    rounds, so it may miss the nearest number by a unit or so in the last place. -/
def ofScaled? (significand : Nat) (exponent : Int) : Option Binary64 :=
  let value := ofRatio false significand 1
  if exponent < 0 then some (scaledDown 3 value (-exponent).toNat)
  else if significand = 0 then some value
  else if maxPower < exponent then none
  else match value.times (powerOfTen exponent.toNat) with
    | .finite _ s e => some (.finite false s e)
    | _ => none

def withSign (negative : Bool) : Binary64 → Binary64
  | .finite _ s e => .finite negative s e
  | .infinite _ => .infinite negative
  | .notANumber => .notANumber

end StatTree.Binary64
