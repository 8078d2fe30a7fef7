namespace StatTree.Text

def digitsValue (digits : List Char) : Nat :=
  digits.foldl (fun value c => 10 * value + (c.toNat - '0'.toNat)) 0

def readExponent (chars : List Char) : Option (Int × List Char) :=
  let (negative, rest) := match chars with
    | '-' :: rest => (true, rest)
    | '+' :: rest => (false, rest)
    | rest => (false, rest)
  let digits := rest.takeWhile Char.isDigit
  if digits.isEmpty then none
  else
    let value : Int := digitsValue digits
    some (if negative then -value else value, rest.dropWhile Char.isDigit)

inductive DigitsFault
  | empty
  | invalidDigit
  | tooLarge
deriving DecidableEq, Repr

def DigitsFault.message : DigitsFault → String
  | .empty => "cannot parse integer from empty string"
  | .invalidDigit => "invalid digit found in string"
  | .tooLarge => "number too large to fit in target type"

/-- Reads digits onto a value read so far; the first fault from the left is reported. -/
def readDigits (bound : Nat) (value : Nat) : List Char → Except DigitsFault Nat
  | [] => .ok value
  | c :: rest =>
    if c.isDigit then
      let next := 10 * value + (c.toNat - '0'.toNat)
      if next < bound then readDigits bound next rest else .error .tooLarge
    else .error .invalidDigit

/-- The number below the bound that the text writes. A lone sign is an invalid digit. -/
def readBelow (bound : Nat) (text : String) : Except DigitsFault Nat :=
  match text.toList with
  | [] => .error .empty
  | ['+'] => .error .invalidDigit
  | '+' :: digits => readDigits bound 0 digits
  | digits => readDigits bound 0 digits

end StatTree.Text
