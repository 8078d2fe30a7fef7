import StatTree.Config.Value
import StatTree.Number.Decimal
import StatTree.Text.CodePoint

namespace StatTree.Ron

def isSpace (c : Char) : Bool := c == ' ' || c == '\t' || c == '\n' || c == '\r'

def startsName (c : Char) : Bool := c.isAlpha || c == '_'

def isNameChar (c : Char) : Bool := c.isAlphanum || c == '_'

def isMarkedNameChar (c : Char) : Bool := isNameChar c || c == '.' || c == '+' || c == '-'

def afterComment? : Nat → List Char → Option (List Char)
  | depth, '/' :: '*' :: rest => afterComment? (depth + 1) rest
  | 0, '*' :: '/' :: rest => some rest
  | depth + 1, '*' :: '/' :: rest => afterComment? depth rest
  | depth, _ :: rest => afterComment? depth rest
  | _, [] => none

def skipSpace : Nat → List Char → List Char
  | 0, chars => chars
  | fuel + 1, chars =>
    match chars.dropWhile isSpace with
    | '/' :: '/' :: rest => skipSpace fuel (rest.dropWhile (· != '\n'))
    | '/' :: '*' :: rest =>
      match afterComment? 0 rest with
      | some rest => skipSpace fuel rest
      | none => '/' :: '*' :: rest
    | rest => rest

def skip (chars : List Char) : List Char :=
  if chars.head?.any fun c => isSpace c || c == '/' then skipSpace (chars.length + 1) chars
  else chars

def escape? : List Char → Option (Char × List Char)
  | 'x' :: a :: b :: rest => do
    let code ← Text.hexValue? [a, b]
    if code < 0x80 then some (Char.ofNat code, rest) else none
  | 'u' :: '\x7b' :: rest => do
    let digits := rest.takeWhile (· != '\x7d')
    if digits.isEmpty || 6 < digits.length then none
    match rest.drop digits.length with
    | _ :: rest => some (← Text.coded? digits, rest)
    | [] => none
  | c :: rest =>
    match c with
    | '\'' | '"' | '\\' => some (c, rest)
    | 'n' => some ('\n', rest)
    | 'r' => some ('\r', rest)
    | 't' => some ('\t', rest)
    | '0' => some ('\x00', rest)
    | _ => none
  | [] => none

def readText : Nat → List Char → List Char → Option (String × List Char)
  | 0, _, _ => none
  | fuel + 1, done, chars =>
    match chars with
    | [] => none
    | '"' :: rest => some (String.ofList done.reverse, rest)
    | '\\' :: rest => do
      let (c, rest) ← escape? rest
      readText fuel (c :: done) rest
    | c :: rest => readText fuel (c :: done) rest

def readRaw (marks : List Char) (done : List Char) : List Char → Option (String × List Char)
  | [] => none
  | c :: rest =>
    if c == '"' && rest.take marks.length == marks then
      some (String.ofList done.reverse, rest.drop marks.length)
    else readRaw marks (c :: done) rest

def readString? (chars : List Char) : Option (Option (String × List Char)) :=
  match chars with
  | '"' :: rest => some (readText (rest.length + 1) [] rest)
  | 'r' :: rest =>
    let marks := rest.takeWhile (· == '#')
    match rest.drop marks.length with
    | '"' :: rest => some (readRaw marks [] rest)
    | _ => none
  | _ => none

def readChar : List Char → Option (String × List Char)
  | '\\' :: rest => do
    match ← escape? rest with
    | (c, '\'' :: rest) => some (String.singleton c, rest)
    | _ => none
  | c :: '\'' :: rest => some (String.singleton c, rest)
  | _ => none

def splitWord (chars : List Char) : Option (String × List Char) :=
  if chars.head?.any startsName then
    some (String.ofList (chars.takeWhile isNameChar), chars.dropWhile isNameChar)
  else none

def splitMarkedName : List Char → Option (String × List Char)
  | 'r' :: '#' :: rest =>
    let name := rest.takeWhile isMarkedNameChar
    if name.isEmpty then none else some (String.ofList name, rest.drop name.length)
  | _ => none

def splitName (chars : List Char) : Option (String × List Char) :=
  (splitMarkedName chars).or (splitWord chars)

def isDigitChar (c : Char) : Bool := (Text.hexDigit? c).isSome || c == '_'

def isRealChar (c : Char) : Bool := c.isDigit || "eE.+-_".toList.contains c

def readMagnitude (chars : List Char) : Option (Nat × List Char) := do
  let (base, chars) := match chars with
    | '0' :: 'x' :: rest => (16, rest)
    | '0' :: 'o' :: rest => (8, rest)
    | '0' :: 'b' :: rest => (2, rest)
    | rest => (10, rest)
  let digits := chars.takeWhile isDigitChar
  if digits.head?.all (· == '_') then none
  let values ← (digits.filter (· != '_')).mapM Text.hexDigit?
  if values.any (base ≤ ·) then none
  return (values.foldl (fun value digit => base * value + digit) 0, chars.drop digits.length)

/-- Reads an integer. One without sign that does not fit 64 bits with a sign is read as a real
    number. -/
def readInteger (chars : List Char) : Option (ConfigValue × List Char) := do
  let whole := fun (negative : Bool) (magnitude : Nat) (rest : List Char) =>
    let value : Int := if negative then -magnitude else magnitude
    if fitsSigned64 value then some (ConfigValue.integer value, rest) else none
  match chars with
  | '+' :: rest => do
    let (magnitude, rest) ← readMagnitude rest
    whole false magnitude rest
  | '-' :: rest => do
    let (magnitude, rest) ← readMagnitude rest
    whole true magnitude rest
  | rest => do
    let (magnitude, rest) ← readMagnitude rest
    if fitsSigned64 magnitude then some (.integer magnitude, rest)
    else if magnitude < UInt64.size then some (.real (.ofDecimal false magnitude 0), rest)
    else none

def readReal (chars : List Char) : Option (ConfigValue × List Char) := do
  let word := fun (count : Nat) (value : Binary64) =>
    if (chars[count]?).any isNameChar then none else some (.real value, chars.drop count)
  match chars with
  | '+' :: 'i' :: 'n' :: 'f' :: _ => word 4 (.infinite false)
  | '-' :: 'i' :: 'n' :: 'f' :: _ => word 4 (.infinite true)
  | '+' :: 'N' :: 'a' :: 'N' :: _ | '-' :: 'N' :: 'a' :: 'N' :: _ => word 4 .notANumber
  | chars =>
    let text := chars.takeWhile isRealChar
    if text.contains '_' then none
    return (.real (← Binary64.ofText? (String.ofList text)), chars.drop text.length)

def readNumber (chars : List Char) : Option (ConfigValue × List Char) :=
  let digits := match chars with
    | '+' :: rest | '-' :: rest | rest => rest
  if (digits.takeWhile isDigitChar).length < (digits.takeWhile isRealChar).length then
    readReal chars
  else (readInteger chars).or (readReal chars)

def maxDepth : Nat := 128

mutual

def readValue (fuel depth : Nat) (chars : List Char) : Option (ConfigValue × List Char) :=
  match fuel with
  | 0 => none
  | fuel + 1 =>
    let chars := skip chars
    match readString? chars, splitMarkedName chars, splitWord chars with
    | some text, _, _ => text.map fun (text, rest) => (.text text, rest)
    | none, some (_, rest), _ => readStructure fuel depth (skip rest)
    | none, none, some (name, rest) => readNamed fuel depth name (skip rest)
    | none, none, none =>
      match chars with
      | '(' :: ')' :: rest => some (.nothing, rest)
      | '(' :: rest => readFields fuel depth rest
      | '[' :: rest => readItems fuel depth ']' [] (skip rest)
      | '\x7b' :: rest => readEntries fuel depth [] (skip rest)
      | '\'' :: rest => (readChar rest).map fun (text, rest) => (.text text, rest)
      | c :: _ =>
        if c == '.' then readReal chars
        else if c.isDigit || c == '+' || c == '-' then readNumber chars
        else none
      | [] => none

def readNamed (fuel depth : Nat) (name : String) (chars : List Char) :
    Option (ConfigValue × List Char) :=
  match fuel with
  | 0 => none
  | fuel + 1 =>
    match name, chars with
    | "true", rest => some (.boolean true, rest)
    | "false", rest => some (.boolean false, rest)
    | "None", rest => some (.nothing, rest)
    | "inf", rest => some (.real (.infinite false), rest)
    | "NaN", rest => some (.real .notANumber, rest)
    | "Some", '(' :: rest => do
      match depth with
      | 0 => none
      | depth + 1 =>
        let (value, rest) ← readValue fuel depth rest
        match skip rest with
        | ')' :: rest => some (value, rest)
        | ',' :: rest =>
          match skip rest with
          | ')' :: rest => some (value, rest)
          | _ => none
        | _ => none
    | "Some", _ => none
    | _, rest => readStructure fuel depth rest

def readStructure (fuel depth : Nat) (chars : List Char) : Option (ConfigValue × List Char) :=
  match fuel, chars with
  | 0, _ => none
  | fuel + 1, '(' :: rest => readFields fuel depth rest
  | _ + 1, rest => some (.nothing, rest)

def readFields (fuel depth : Nat) (chars : List Char) : Option (ConfigValue × List Char) :=
  match fuel with
  | 0 => none
  | fuel + 1 =>
    let chars := skip chars
    match (splitName chars).map fun (_, rest) => skip rest with
    | some (':' :: _) => readMembers fuel depth [] chars
    | _ => readItems fuel depth ')' [] chars

def readItems (fuel depth : Nat) (close : Char) (done : List ConfigValue) (chars : List Char) :
    Option (ConfigValue × List Char) :=
  match fuel, depth with
  | 0, _ => none
  | fuel + 1, depth =>
    if chars.head? == some close then some (.list done.reverse, chars.drop 1)
    else match depth with
      | 0 => none
      | depth + 1 => do
        let (item, rest) ← readValue fuel depth chars
        match skip rest with
        | ',' :: rest => readItems fuel (depth + 1) close (item :: done) (skip rest)
        | c :: rest => if c == close then some (.list (item :: done).reverse, rest) else none
        | [] => none

def readMembers (fuel depth : Nat) (done : List (String × ConfigValue)) (chars : List Char) :
    Option (ConfigValue × List Char) :=
  match fuel, depth, chars with
  | 0, _, _ | _, 0, _ => none
  | _ + 1, _, ')' :: rest => some (.table done, rest)
  | fuel + 1, depth + 1, chars => do
    let (name, rest) ← splitName chars
    match skip rest with
    | ':' :: rest =>
      let (value, rest) ← readValue fuel depth rest
      let done := ConfigValue.setEntry name value done
      match skip rest with
      | ',' :: rest => readMembers fuel (depth + 1) done (skip rest)
      | ')' :: rest => some (.table done, rest)
      | _ => none
    | _ => none

def readEntries (fuel depth : Nat) (done : List (String × ConfigValue)) (chars : List Char) :
    Option (ConfigValue × List Char) :=
  match fuel, depth, chars with
  | 0, _, _ => none
  | _ + 1, _, '\x7d' :: rest => some (.table done, rest)
  | _ + 1, 0, _ => none
  | fuel + 1, depth + 1, chars => do
    match ← readValue fuel depth chars with
    | (.text key, rest) =>
      match skip rest with
      | ':' :: rest =>
        let (value, rest) ← readValue fuel depth rest
        let done := ConfigValue.setEntry key value done
        match skip rest with
        | ',' :: rest => readEntries fuel (depth + 1) done (skip rest)
        | '\x7d' :: rest => some (.table done, rest)
        | _ => none
      | _ => none
    | _ => none

end

def extensions : List String := ["unwrap_newtypes", "implicit_some", "unwrap_variant_newtypes"]

def skipMarks : List (List Char) → List Char → Option (List Char)
  | [], chars => some chars
  | mark :: marks, chars =>
    if mark.isPrefixOf chars then skipMarks marks (skip (chars.drop mark.length)) else none

def skipExtensions : Nat → List Char → Option (List Char)
  | 0, _ => none
  | fuel + 1, chars => do
    let (name, rest) ← splitName chars
    if !extensions.contains name then none
    match skip rest with
    | ',' :: rest =>
      let rest := skip rest
      if rest.head?.any isNameChar then skipExtensions fuel rest else some rest
    | rest => some rest

def skipRequests : Nat → List Char → Option (List Char)
  | 0, _ => none
  | fuel + 1, chars =>
    match skip chars with
    | '#' :: rest => do
      let marks := ["!", "[", "enable", "("].map String.toList
      let rest ← skipExtensions fuel (← skipMarks marks (skip rest))
      skipRequests fuel (← skipMarks [[')'], [']']] rest)
    | rest => some rest

def parse? (source : String) : Option (List (String × ConfigValue)) := do
  let chars ← skipRequests (source.length + 1) source.toList
  match ← readValue (4 * chars.length + 4) maxDepth chars with
  | (.table entries, rest) => if (skip rest).isEmpty then some entries else none
  | _ => none

end StatTree.Ron
