import StatTree.Json
import StatTree.Number.Scaled
import StatTree.Number.Signed64
import StatTree.Text.CodePoint
import StatTree.Text.Digits

namespace StatTree.Json

def isSpace (c : Char) : Bool := c == ' ' || c == '\t' || c == '\n' || c == '\r'

def skipSpace (chars : List Char) : List Char := chars.dropWhile isSpace

def shortEscape? : Char → Option Char
  | '"' => some '"'
  | '\\' => some '\\'
  | '/' => some '/'
  | 'b' => some '\x08'
  | 'f' => some '\x0c'
  | 'n' => some '\n'
  | 'r' => some '\r'
  | 't' => some '\t'
  | _ => none

def readText (done : List Char) : List Char → Option (String × List Char)
  | [] => none
  | '"' :: rest => some (String.ofList done.reverse, rest)
  | '\\' :: 'u' :: a :: b :: c :: d :: '\\' :: 'u' :: e :: f :: g :: h :: rest => do
    let high ← Text.hexValue? [a, b, c, d]
    if 0xd800 ≤ high ∧ high < 0xdc00 then
      let low ← Text.hexValue? [e, f, g, h]
      if 0xdc00 ≤ low ∧ low < 0xe000 then
        readText (Char.ofNat (0x10000 + (high - 0xd800) * 0x400 + (low - 0xdc00)) :: done) rest
      else none
    else if 0xdc00 ≤ high ∧ high < 0xe000 then none
    else readText (Char.ofNat high :: done) ('\\' :: 'u' :: e :: f :: g :: h :: rest)
  | '\\' :: 'u' :: a :: b :: c :: d :: rest => do
    let unit ← Text.hexValue? [a, b, c, d]
    if 0xd800 ≤ unit ∧ unit < 0xe000 then none else readText (Char.ofNat unit :: done) rest
  | '\\' :: c :: rest => do readText ((← shortEscape? c) :: done) rest
  | c :: rest => if c.toNat < 0x20 then none else readText (c :: done) rest

def takeFitting (value : Nat) : List Char → Nat × List Char
  | [] => (value, [])
  | c :: rest =>
    let next := 10 * value + (c.toNat - '0'.toNat)
    if next < UInt64.size then takeFitting next rest else (value, c :: rest)

/-- The real number with the given digits. Whole digits that are left count as zeros, and digits of
    the fraction that are left do not count. -/
def realOfParts? (whole fraction : List Char) (exponent : Int) : Option Binary64 :=
  let (value, zeros) := takeFitting 0 whole
  let (value, dropped) := takeFitting value fraction
  Binary64.ofScaled? value (exponent + zeros.length + dropped.length - fraction.length)

/-- The number with the given parts. An integer that fits 64 bits stays one, except that negative
    zero is not an integer. -/
def ofParts? (negative : Bool) (whole fraction : List Char) (exponent : Option Int) :
    Option Json :=
  let digits := Text.digitsValue whole
  let isInteger := fraction.isEmpty && exponent.isNone
  let fits := if negative then 0 < digits && fitsSigned64 (-digits) else digits < UInt64.size
  if isInteger && fits then some (.integer (if negative then -digits else digits))
  else (realOfParts? whole fraction (exponent.getD 0)).map fun value =>
    .real (value.withSign negative)

def readNumber (chars : List Char) : Option (Json × List Char) := do
  let (negative, rest) := match chars with
    | '-' :: rest => (true, rest)
    | rest => (false, rest)
  let whole := rest.takeWhile Char.isDigit
  let rest := rest.dropWhile Char.isDigit
  if whole.isEmpty || (whole.head? == some '0' && 1 < whole.length) then none
  let (fraction, rest) ← match rest with
    | '.' :: rest =>
      let digits := rest.takeWhile Char.isDigit
      if digits.isEmpty then none else some (digits, rest.dropWhile Char.isDigit)
    | rest => some ([], rest)
  let (exponent, rest) ← match rest with
    | c :: rest =>
      if c == 'e' || c == 'E' then (Text.readExponent rest).map fun (e, rest) => (some e, rest)
      else some (none, c :: rest)
    | [] => some (none, [])
  return (← ofParts? negative whole fraction exponent, rest)

mutual

def readValue (fuel depth : Nat) (chars : List Char) : Option (Json × List Char) :=
  match fuel with
  | 0 => none
  | fuel + 1 =>
    match skipSpace chars with
    | 'n' :: 'u' :: 'l' :: 'l' :: rest => some (.null, rest)
    | 't' :: 'r' :: 'u' :: 'e' :: rest => some (.bool true, rest)
    | 'f' :: 'a' :: 'l' :: 's' :: 'e' :: rest => some (.bool false, rest)
    | '"' :: rest => (readText [] rest).map fun (value, rest) => (.text value, rest)
    | '[' :: rest =>
      match depth, skipSpace rest with
      | 0, _ => none
      | _ + 1, ']' :: rest => some (.array [], rest)
      | depth + 1, rest => readElements fuel depth [] rest
    | '\x7b' :: rest =>
      match depth, skipSpace rest with
      | 0, _ => none
      | _ + 1, '\x7d' :: rest => some (.object [], rest)
      | depth + 1, rest => readMembers fuel depth [] rest
    | rest => readNumber rest

def readElements (fuel depth : Nat) (done : List Json) (chars : List Char) :
    Option (Json × List Char) :=
  match fuel with
  | 0 => none
  | fuel + 1 => do
    let (element, rest) ← readValue fuel depth chars
    match skipSpace rest with
    | ',' :: rest => readElements fuel depth (element :: done) rest
    | ']' :: rest => some (.array (element :: done).reverse, rest)
    | _ => none

def readMembers (fuel depth : Nat) (done : List (String × Json)) (chars : List Char) :
    Option (Json × List Char) :=
  match fuel with
  | 0 => none
  | fuel + 1 =>
    match skipSpace chars with
    | '"' :: rest => do
      let (key, rest) ← readText [] rest
      match skipSpace rest with
      | ':' :: rest =>
        let (value, rest) ← readValue fuel depth rest
        match skipSpace rest with
        | ',' :: rest => readMembers fuel depth (insertMember key value done) rest
        | '\x7d' :: rest => some (.object (insertMember key value done), rest)
        | _ => none
      | _ => none
    | _ => none

end

def parse? (depth : Nat) (source : String) : Option Json := do
  let chars := source.toList
  let (value, rest) ← readValue (2 * chars.length + 2) depth chars
  if (skipSpace rest).isEmpty then some value else none

end StatTree.Json
