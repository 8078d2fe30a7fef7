import StatTree.Config.Value
import StatTree.Number.Decimal
import StatTree.Text.Alphanumeric
import StatTree.Text.CodePoint

namespace StatTree.Json5

def isLineEnd (c : Char) : Bool := c == '\n' || c == '\r' || c == '\u2028' || c == '\u2029'

def isSpace (c : Char) : Bool := isLineEnd c || c == '\ufeff' || (Text.isBlank c && c != '\x85')

def afterComment? : List Char → Option (List Char)
  | '*' :: '/' :: rest => some rest
  | _ :: rest => afterComment? rest
  | [] => none

def skipSpace : Nat → List Char → List Char
  | 0, chars => chars
  | fuel + 1, chars =>
    match chars.dropWhile isSpace with
    | '/' :: '/' :: rest => skipSpace fuel (rest.dropWhile fun c => !isLineEnd c)
    | '/' :: '*' :: rest =>
      match afterComment? rest with
      | some rest => skipSpace fuel rest
      | none => '/' :: '*' :: rest
    | rest => rest

def skip (chars : List Char) : List Char :=
  if chars.head?.any fun c => isSpace c || c == '/' then skipSpace (chars.length + 1) chars
  else chars

def shortEscape? : Char → Option Char
  | 'b' => some '\x08'
  | 'f' => some '\x0c'
  | 'n' => some '\n'
  | 'r' => some '\r'
  | 't' => some '\t'
  | 'v' => some '\x0b'
  | '0' => some '\x00'
  | c => if c.isDigit || c == 'x' || c == 'u' then none else some c

def readText (quote : Char) (done : List Char) : List Char → Option (String × List Char)
  | [] => none
  | '\\' :: '\r' :: '\n' :: rest => readText quote done rest
  | '\\' :: 'x' :: a :: b :: rest => do readText quote ((← Text.coded? [a, b]) :: done) rest
  | '\\' :: 'u' :: a :: b :: c :: d :: '\\' :: 'u' :: e :: f :: g :: h :: rest => do
    let high ← Text.hexValue? [a, b, c, d]
    if 0xd800 ≤ high ∧ high < 0xdc00 then
      let low ← Text.hexValue? [e, f, g, h]
      if 0xdc00 ≤ low ∧ low < 0xe000 then
        let c ← Text.character? (0x10000 + (high - 0xd800) * 0x400 + (low - 0xdc00))
        readText quote (c :: done) rest
      else none
    else
      readText quote ((← Text.character? high) :: done) ('\\' :: 'u' :: e :: f :: g :: h :: rest)
  | '\\' :: 'u' :: a :: b :: c :: d :: rest => do
    readText quote ((← Text.coded? [a, b, c, d]) :: done) rest
  | '\\' :: c :: rest =>
    if isLineEnd c then readText quote done rest
    else do readText quote ((← shortEscape? c) :: done) rest
  | c :: rest =>
    if c == quote then some (String.ofList done.reverse, rest)
    else if c == '\n' || c == '\r' then none
    else readText quote (c :: done) rest

def startsName (c : Char) : Bool :=
  c == '$' || c == '_' || (Text.isAlphanumeric c && !c.isDigit)

def isNameChar (c : Char) : Bool := startsName c || c.isDigit || c == '\u200c' || c == '\u200d'

def readName (done : List Char) : List Char → Option (String × List Char)
  | '\\' :: 'u' :: a :: b :: c :: d :: rest => do
    readName ((← Text.coded? [a, b, c, d]) :: done) rest
  | c :: rest =>
    if if done.isEmpty then startsName c else isNameChar c then readName (c :: done) rest
    else if done.isEmpty then none
    else some (String.ofList done.reverse, c :: rest)
  | [] => if done.isEmpty then none else some (String.ofList done.reverse, [])

def readKey : List Char → Option (String × List Char)
  | '"' :: rest => readText '"' [] rest
  | '\'' :: rest => readText '\'' [] rest
  | chars => readName [] chars

def splitDecimal (chars : List Char) : Option (Bool × List Char) := do
  let whole := chars.takeWhile Char.isDigit
  let rest := chars.dropWhile Char.isDigit
  let (hasPoint, rest) := match rest with
    | '.' :: rest => (true, rest.dropWhile Char.isDigit)
    | rest => (false, rest)
  if whole.head? == some '0' && 1 < whole.length then none
  let digits := (chars.take (chars.length - rest.length)).filter Char.isDigit
  if digits.isEmpty then none
  match rest with
  | c :: more =>
    if c == 'e' || c == 'E' then do some (false, (← Text.readExponent more).2)
    else some (!hasPoint, rest)
  | [] => some (!hasPoint, [])

/-- Reads a number. Integers fit 64 bits with their sign, or 32 bits where they are written in base
    sixteen, and real numbers are finite unless a word says otherwise. -/
def readNumber (chars : List Char) : Option (ConfigValue × List Char) := do
  let (sign, rest) := match chars with
    | '+' :: rest => (['+'], rest)
    | '-' :: rest => (['-'], rest)
    | rest => ([], rest)
  match rest with
  | 'I' :: 'n' :: 'f' :: 'i' :: 'n' :: 'i' :: 't' :: 'y' :: rest =>
    if sign == ['+'] then none else some (.real (.infinite !sign.isEmpty), rest)
  | 'N' :: 'a' :: 'N' :: rest => if sign == ['+'] then none else some (.real .notANumber, rest)
  | '0' :: x :: rest =>
    if x == 'x' || x == 'X' then
      let digits := rest.takeWhile fun c => (Text.hexDigit? c).isSome
      let value ← Text.hexValue? digits
      if digits.isEmpty || !sign.isEmpty || UInt32.size ≤ value then none
      else some (.integer value, rest.drop digits.length)
    else decimal sign ('0' :: x :: rest)
  | rest => decimal sign rest
where
  decimal (sign chars : List Char) : Option (ConfigValue × List Char) := do
    let (isInteger, rest) ← splitDecimal chars
    let digits := chars.take (chars.length - rest.length)
    if isInteger then
      let magnitude : Int := Text.digitsValue digits
      let value := if sign == ['-'] then -magnitude else magnitude
      if fitsSigned64 value then some (.integer value, rest) else none
    else
      match ← Binary64.ofText? (String.ofList (sign ++ digits)) with
      | .finite negative s e => some (.real (.finite negative s e), rest)
      | _ => none

mutual

def readValue (fuel : Nat) (chars : List Char) : Option (ConfigValue × List Char) :=
  match fuel with
  | 0 => none
  | fuel + 1 =>
    match skip chars with
    | 'n' :: 'u' :: 'l' :: 'l' :: rest => some (.nothing, rest)
    | 't' :: 'r' :: 'u' :: 'e' :: rest => some (.boolean true, rest)
    | 'f' :: 'a' :: 'l' :: 's' :: 'e' :: rest => some (.boolean false, rest)
    | '"' :: rest => (readText '"' [] rest).map fun (text, rest) => (.text text, rest)
    | '\'' :: rest => (readText '\'' [] rest).map fun (text, rest) => (.text text, rest)
    | '[' :: rest => readItems fuel [] (skip rest)
    | '\x7b' :: rest => readMembers fuel [] (skip rest)
    | rest => readNumber rest

def readItems (fuel : Nat) (done : List ConfigValue) (chars : List Char) :
    Option (ConfigValue × List Char) :=
  match fuel, chars with
  | 0, _ => none
  | _ + 1, ']' :: rest => some (.list done.reverse, rest)
  | fuel + 1, chars => do
    let (item, rest) ← readValue fuel chars
    match skip rest with
    | ',' :: rest => readItems fuel (item :: done) (skip rest)
    | ']' :: rest => some (.list (item :: done).reverse, rest)
    | _ => none

def readMembers (fuel : Nat) (done : List (String × ConfigValue)) (chars : List Char) :
    Option (ConfigValue × List Char) :=
  match fuel, chars with
  | 0, _ => none
  | _ + 1, '\x7d' :: rest => some (.table done, rest)
  | fuel + 1, chars => do
    let (key, rest) ← readKey chars
    match skip rest with
    | ':' :: rest =>
      let (value, rest) ← readValue fuel rest
      let done := ConfigValue.setEntry key value done
      match skip rest with
      | ',' :: rest => readMembers fuel done (skip rest)
      | '\x7d' :: rest => some (.table done, rest)
      | _ => none
    | _ => none

end

def parse? (source : String) : Option (List (String × ConfigValue)) := do
  let chars := source.toList
  match ← readValue (2 * chars.length + 2) chars with
  | (.table entries, rest) => if (skip rest).isEmpty then some entries else none
  | _ => none

end StatTree.Json5
