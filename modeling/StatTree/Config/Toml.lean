import StatTree.Config.Value
import StatTree.Json.Reader

namespace StatTree.Toml

inductive Opening
  | implied
  | header
  | dotted
deriving DecidableEq, Repr

/-- What a key holds while the document is read. The elements of a list of tables stand last
    first, because only the last one is still open. -/
inductive Node
  | value (value : ConfigValue)
  | table (opening : Opening) (entries : List (String × Node))
  | tables (elements : List (List (String × Node)))
deriving Inhabited

abbrev Entries := List (String × Node)

mutual

def Node.toValue : Node → ConfigValue
  | .value value => value
  | .table _ entries => .table (toValues entries)
  | .tables elements => .list (toTables elements).reverse

def toValues : List (String × Node) → List (String × ConfigValue)
  | [] => []
  | (key, node) :: rest => (key, node.toValue) :: toValues rest

def toTables : List (List (String × Node)) → List ConfigValue
  | [] => []
  | entries :: rest => .table (toValues entries) :: toTables rest

end

def find? (key : String) (entries : Entries) : Option Node :=
  (entries.find? (·.1 == key)).map (·.2)

def put (key : String) (node : Node) : Entries → Entries
  | [] => [(key, node)]
  | (name, old) :: rest =>
    if name = key then (key, node) :: rest else (name, old) :: put key node rest

/-- Makes a change in the table under a path, opening the tables that are missing. A dotted path
    does not enter tables that a header has opened. -/
def within (opening : Opening) (change : Opening → Entries → Option Entries) :
    List String → Opening → Entries → Option Entries
  | [], own, entries => change own entries
  | key :: path, _, entries =>
    match find? key entries with
    | none => do
      let inner ← within opening change path opening []
      some (put key (.table opening inner) entries)
    | some (.table own inner) =>
      if opening = .dotted ∧ own = .header then none
      else do some (put key (.table own (← within opening change path own inner)) entries)
    | some (.tables (last :: earlier)) => do
      let last ← within opening change path .header last
      some (put key (.tables (last :: earlier)) entries)
    | _ => none

def define (path : List String) (key : String) (value : ConfigValue) (own : Opening)
    (entries : Entries) : Option Entries :=
  within .dotted (fun own entries =>
    if (own = .dotted ↔ path = []) ∨ (find? key entries).isSome then none
    else some (put key (.value value) entries)) path own entries

def openTable (path : List String) (key : String) (root : Entries) : Option Entries :=
  within .implied (fun _ entries =>
    match find? key entries with
    | none => some (put key (.table .header []) entries)
    | some (.table .implied inner) => some (put key (.table .header inner) entries)
    | _ => none) path .header root

def openElement (path : List String) (key : String) (root : Entries) : Option Entries :=
  within .implied (fun _ entries =>
    match find? key entries with
    | none => some (put key (.tables [[]]) entries)
    | some (.tables elements) => some (put key (.tables ([] :: elements)) entries)
    | _ => none) path .header root

def skipBlanks (chars : List Char) : List Char := chars.dropWhile fun c => c == ' ' || c == '\t'

def isPlain (c : Char) : Bool := c == '\t' || (0x20 ≤ c.toNat && c.toNat != 0x7f)

def endOfLine? (chars : List Char) : Option (List Char) :=
  let rest := match skipBlanks chars with
    | '#' :: rest => rest.dropWhile isPlain
    | rest => rest
  match rest with
  | [] => some []
  | '\n' :: rest => some rest
  | '\r' :: '\n' :: rest => some rest
  | _ => none

def atLineEnd : List Char → Bool
  | c :: _ => c == '#' || c == '\n' || c == '\r'
  | [] => true

def skipLines : Nat → List Char → List Char
  | 0, chars => chars
  | fuel + 1, chars =>
    let rest := skipBlanks chars
    if rest.isEmpty || !atLineEnd rest then rest
    else match endOfLine? rest with
      | some rest => skipLines fuel rest
      | none => rest

def escape? : List Char → Option (Char × List Char)
  | 'u' :: a :: b :: c :: d :: rest => do
    some (← Text.coded? [a, b, c, d], rest)
  | 'U' :: a :: b :: c :: d :: e :: f :: g :: h :: rest => do
    some (← Text.coded? [a, b, c, d, e, f, g, h], rest)
  | '/' :: _ => none
  | c :: rest => (Json.shortEscape? c).map (·, rest)
  | [] => none

def readLine (quote : Char) : Nat → List Char → List Char → Option (String × List Char)
  | 0, _, _ => none
  | fuel + 1, done, chars =>
    match chars with
    | [] => none
    | c :: rest =>
      if c == quote then some (String.ofList done.reverse, rest)
      else if c == '\\' && quote == '"' then do
        let (c, rest) ← escape? rest
        readLine quote fuel (c :: done) rest
      else if isPlain c then readLine quote fuel (c :: done) rest
      else none

def readBlock (quote : Char) : Nat → List Char → List Char → Option (String × List Char)
  | 0, _, _ => none
  | fuel + 1, done, chars =>
    match chars with
    | [] => none
    | '\r' :: '\n' :: rest => readBlock quote fuel ('\n' :: done) rest
    | '\n' :: rest => readBlock quote fuel ('\n' :: done) rest
    | c :: rest =>
      if c == quote then
        let run := 1 + (rest.takeWhile (· == quote)).length
        let after := chars.drop run
        if run < 3 then readBlock quote fuel (List.replicate run quote ++ done) after
        else if run ≤ 5 then
          some (String.ofList (List.replicate (run - 3) quote ++ done).reverse, after)
        else none
      else if c == '\\' && quote == '"' then
        match skipBlanks rest with
        | '\n' :: _ | '\r' :: '\n' :: _ =>
          readBlock quote fuel done (rest.dropWhile fun c =>
            c == ' ' || c == '\t' || c == '\n' || c == '\r')
        | _ => do
          let (c, rest) ← escape? rest
          readBlock quote fuel (c :: done) rest
      else if isPlain c then readBlock quote fuel (c :: done) rest
      else none

def readString (quote : Char) (chars : List Char) : Option (String × List Char) :=
  let fuel := chars.length + 1
  match chars with
  | a :: b :: rest =>
    if a == quote && b == quote then
      match rest with
      | '\n' :: rest | '\r' :: '\n' :: rest | rest => readBlock quote fuel [] rest
    else readLine quote fuel [] chars
  | _ => readLine quote fuel [] chars

def grouped? (isDigit : Char → Bool) : List Char → Option (List Char)
  | [] => none
  | [c] => if isDigit c then some [c] else none
  | c :: '_' :: rest => if isDigit c then (grouped? isDigit rest).map (c :: ·) else none
  | c :: rest => if isDigit c then (grouped? isDigit rest).map (c :: ·) else none

def integer? (value : Int) : Option ConfigValue :=
  if fitsSigned64 value then some (.integer value) else none

def inBase? (base : Nat) (chars : List Char) : Option ConfigValue := do
  let isDigit := fun c => (Text.hexDigit? c).any (· < base)
  let digits ← grouped? isDigit chars
  integer? (digits.foldl (fun value c => base * value + (Text.hexDigit? c).getD 0) 0 : Nat)

def isGrouped (c : Char) : Bool := c.isDigit || c == '_'

def signed : List Char → Bool × List Char
  | '-' :: rest => (true, rest)
  | '+' :: rest => (false, rest)
  | rest => (false, rest)

/-- A decimal number: an integer unless it has a fraction or an exponent. The whole part has no
    leading zeros, and a positive number beyond the finite range is refused. -/
def decimal? (negative : Bool) (chars : List Char) : Option ConfigValue := do
  let whole ← grouped? Char.isDigit (chars.takeWhile isGrouped)
  if whole.head? == some '0' && 1 < whole.length then none
  let rest := chars.dropWhile isGrouped
  let (fraction, rest) ← match rest with
    | '.' :: rest => do
      some (← grouped? Char.isDigit (rest.takeWhile isGrouped), rest.dropWhile isGrouped)
    | rest => some ([], rest)
  let exponent ← match rest with
    | [] => some none
    | c :: rest => do
      if c != 'e' && c != 'E' then none
      let (negative, rest) := signed rest
      let value : Int := Text.digitsValue (← grouped? Char.isDigit rest)
      some (some (if negative then -value else value))
  let digits := Text.digitsValue (whole ++ fraction)
  if fraction.isEmpty && exponent.isNone then integer? (if negative then -digits else digits)
  else
    match Binary64.ofDecimal negative digits (exponent.getD 0 - fraction.length) with
    | .infinite false => none
    | value => some (.real value)

def number? (chars : List Char) : Option ConfigValue :=
  match chars with
  | '0' :: 'x' :: rest => inBase? 16 rest
  | '0' :: 'o' :: rest => inBase? 8 rest
  | '0' :: 'b' :: rest => inBase? 2 rest
  | _ =>
    match signed chars with
    | (negative, ['i', 'n', 'f']) => some (.real (.infinite negative))
    | (_, ['n', 'a', 'n']) => some (.real .notANumber)
    | (negative, rest) => decimal? negative rest

def fixed? (low high : Nat) (digits : List Char) : Option Nat :=
  let value := Text.digitsValue digits
  if digits.all Char.isDigit && low ≤ value && value ≤ high then some value else none

def daysIn (year month : Nat) : Nat :=
  if month = 2 then
    if year % 4 = 0 ∧ (year % 100 ≠ 0 ∨ year % 400 = 0) then 29 else 28
  else if [4, 6, 9, 11].contains month then 30
  else 31

def readDate : List Char → Option (List Char × List Char)
  | a :: b :: c :: d :: '-' :: e :: f :: '-' :: g :: h :: rest => do
    let year ← fixed? 0 9999 [a, b, c, d]
    let month ← fixed? 1 12 [e, f]
    let _ ← fixed? 1 (daysIn year month) [g, h]
    some ([a, b, c, d, '-', e, f, '-', g, h], rest)
  | _ => none

def readTime : List Char → Option (List Char × List Char)
  | a :: b :: ':' :: c :: d :: ':' :: e :: f :: rest => do
    let _ ← fixed? 0 23 [a, b]
    let _ ← fixed? 0 59 [c, d]
    let _ ← fixed? 0 60 [e, f]
    let time := [a, b, ':', c, d, ':', e, f]
    match rest with
    | '.' :: rest =>
      let digits := rest.takeWhile Char.isDigit
      let kept := ((digits.take 9).reverse.dropWhile (· == '0')).reverse
      if digits.isEmpty then none
      else some (time ++ (if kept.isEmpty then [] else '.' :: kept), rest.dropWhile Char.isDigit)
    | rest => some (time, rest)
  | _ => none

def offset? : List Char → Option (List Char)
  | [] => some []
  | ['Z'] | ['z'] => some ['Z']
  | [sign, a, b, ':', c, d] => do
    if sign != '+' && sign != '-' then none
    let hours ← fixed? 0 23 [a, b]
    let minutes ← fixed? 0 59 [c, d]
    some [if hours + minutes = 0 then '+' else sign, a, b, ':', c, d]
  | _ => none

def dateTime? (chars : List Char) : Option String :=
  match readDate chars with
  | some (date, []) => some (String.ofList date)
  | some (date, mark :: rest) => do
    if mark != 'T' && mark != 't' && mark != ' ' then none
    let (time, rest) ← readTime rest
    some (String.ofList (date ++ 'T' :: time ++ (← offset? rest)))
  | none =>
    match readTime chars with
    | some (time, []) => some (String.ofList time)
    | _ => none

def isWordChar (c : Char) : Bool :=
  c.isAlphanum || c == '_' || c == '+' || c == '-' || c == '.' || c == ':'

def readWord (chars : List Char) : Option (ConfigValue × List Char) :=
  let word := chars.takeWhile isWordChar
  let rest := chars.dropWhile isWordChar
  match readDate word, rest with
  | some (_, []), ' ' :: next :: _ =>
    if next.isDigit then
      let rest := rest.drop 1
      (dateTime? (word ++ ' ' :: rest.takeWhile isWordChar)).map fun text =>
        (.text text, rest.dropWhile isWordChar)
    else some (.text (String.ofList word), rest)
  | _, _ =>
    match word with
    | ['t', 'r', 'u', 'e'] => some (.boolean true, rest)
    | ['f', 'a', 'l', 's', 'e'] => some (.boolean false, rest)
    | _ => (((dateTime? word).map .text).or (number? word)).map (·, rest)

def isKeyChar (c : Char) : Bool := c.isAlphanum || c == '_' || c == '-'

def readName : List Char → Option (String × List Char)
  | '"' :: rest => readLine '"' (rest.length + 1) [] rest
  | '\'' :: rest => readLine '\'' (rest.length + 1) [] rest
  | chars =>
    let name := chars.takeWhile isKeyChar
    if name.isEmpty then none else some (String.ofList name, chars.dropWhile isKeyChar)

def maxDepth : Nat := 79

def readKey : Nat → List Char → Option (List String × String × List Char)
  | 0, _ => none
  | parts + 1, chars => do
    let (name, rest) ← readName (skipBlanks chars)
    match skipBlanks rest with
    | '.' :: rest =>
      let (path, last, rest) ← readKey parts rest
      some (name :: path, last, rest)
    | rest => some ([], name, rest)

mutual

def readValue (fuel depth : Nat) (chars : List Char) : Option (ConfigValue × List Char) :=
  match fuel with
  | 0 => none
  | fuel + 1 =>
    match chars with
    | '"' :: rest => (readString '"' rest).map fun (text, rest) => (.text text, rest)
    | '\'' :: rest => (readString '\'' rest).map fun (text, rest) => (.text text, rest)
    | '[' :: rest =>
      match depth with
      | 0 => none
      | depth + 1 => readArray fuel depth [] rest
    | '\x7b' :: rest =>
      match depth, skipBlanks rest with
      | 0, _ => none
      | _ + 1, '\x7d' :: rest => some (.table [], rest)
      | depth + 1, rest => readInline fuel depth [] rest
    | _ => readWord chars

def readArray (fuel depth : Nat) (done : List ConfigValue) (chars : List Char) :
    Option (ConfigValue × List Char) :=
  match fuel with
  | 0 => none
  | fuel + 1 =>
    match skipLines chars.length chars with
    | ']' :: rest => some (.list done.reverse, rest)
    | rest => do
      let (value, rest) ← readValue fuel depth rest
      match skipLines rest.length rest with
      | ',' :: rest => readArray fuel depth (value :: done) rest
      | ']' :: rest => some (.list (value :: done).reverse, rest)
      | _ => none

def readInline (fuel depth : Nat) (done : Entries) (chars : List Char) :
    Option (ConfigValue × List Char) :=
  match fuel with
  | 0 => none
  | fuel + 1 => do
    let (path, key, rest) ← readKey maxDepth chars
    match rest with
    | '=' :: rest =>
      let (value, rest) ← readValue fuel depth (skipBlanks rest)
      let done ← define path key value .header done
      match skipBlanks rest with
      | ',' :: rest => readInline fuel depth done rest
      | '\x7d' :: rest => some (.table (toValues done), rest)
      | _ => none
    | _ => none

end

def readLines : Nat → Entries → List String → List Char → Option Entries
  | 0, _, _, _ => none
  | fuel + 1, root, table, chars =>
    match skipBlanks chars with
    | [] => some root
    | '[' :: '[' :: rest => do
      let (path, key, rest) ← readKey maxDepth rest
      match rest with
      | ']' :: ']' :: rest =>
        readLines fuel (← openElement path key root) (path ++ [key]) (← endOfLine? rest)
      | _ => none
    | '[' :: rest => do
      let (path, key, rest) ← readKey maxDepth rest
      match rest with
      | ']' :: rest =>
        readLines fuel (← openTable path key root) (path ++ [key]) (← endOfLine? rest)
      | _ => none
    | rest =>
      if atLineEnd rest then do readLines fuel root table (← endOfLine? rest)
      else do
        let (path, key, rest) ← readKey maxDepth rest
        match rest with
        | '=' :: rest =>
          let (value, rest) ← readValue (2 * rest.length + 2) maxDepth (skipBlanks rest)
          let root ← within .implied (define path key value) table .header root
          readLines fuel root table (← endOfLine? rest)
        | _ => none

def parse? (source : String) : Option (List (String × ConfigValue)) := do
  let chars := match source.toList with
    | '\ufeff' :: rest => rest
    | chars => chars
  return toValues (← readLines (chars.length + 1) [] [] chars)

end StatTree.Toml
