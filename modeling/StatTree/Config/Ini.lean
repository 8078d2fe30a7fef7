import StatTree.Config.Value
import StatTree.Text.CodePoint

namespace StatTree.Ini

def escaped (c : Char) : Char :=
  match c with
  | '0' => '\x00'
  | 'a' => '\x07'
  | 'b' => '\x08'
  | 't' => '\t'
  | 'r' => '\r'
  | 'n' => '\n'
  | c => c

def coded? (digits : List Char) : Option Char :=
  match digits with
  | '+' :: rest => Text.coded? rest
  | digits => Text.coded? digits

/-- Reads up to a character that ends the text, which is not consumed. A backslash escapes the
    character after it, joins lines at a line end, and names a character by four digits after
    `x`. The end of input ends the text only where it may. -/
def readUntil (ends : Char → Bool) (mayEnd : Bool) (done : List Char) :
    List Char → Option (List Char × List Char)
  | [] => if mayEnd then some (done.reverse, []) else none
  | '\\' :: rest =>
    match rest with
    | '\n' :: rest => readUntil ends mayEnd done rest
    | 'x' :: a :: b :: c :: d :: rest => do
      readUntil ends mayEnd ((← coded? [a, b, c, d]) :: done) rest
    | 'x' :: _ => none
    | c :: rest => readUntil ends mayEnd (escaped c :: done) rest
    | [] => none
  | c :: rest =>
    if ends c then some (done.reverse, c :: rest) else readUntil ends mayEnd (c :: done) rest

def isLineEnd (c : Char) : Bool := c == '\n' || c == '\r'

def trimmed (chars : List Char) : String := String.ofList (Text.trimBlanks chars)

def readValue (chars : List Char) : Option (String × List Char) := do
  let rest := chars.dropWhile fun c => Text.isBlank c && !isLineEnd c
  let (start, rest) ← match rest with
    | c :: quoted =>
      if c == '"' || c == '\'' then
        let (text, rest) ← readUntil (· == c) false [] quoted
        some (text, rest.drop 1)
      else some ([], rest)
    | [] => some ([], [])
  let (text, rest) ← readUntil isLineEnd true [] rest
  return (trimmed (start ++ text), rest)

structure Group where
  name : Option String
  entries : List (String × ConfigValue)

namespace Group

def insert (group : Group) (key value : String) : Group :=
  { group with entries := ConfigValue.setEntry key (.text value) group.entries }

def toEntries (group : Group) : List (String × ConfigValue) :=
  match group.name with
  | some name => [(name, .table group.entries)]
  | none => group.entries

end Group

def readGroups : Nat → Bool → List Group → Group → List Char → Option (List Group)
  | 0, _, _, _, _ => none
  | fuel + 1, atStart, done, group, chars =>
    match chars with
    | [] => some (group :: done).reverse
    | c :: rest =>
      if Text.isBlank c then readGroups fuel (c == '\n') done group rest
      else if c == ';' || c == '#' then
        if atStart then readGroups fuel true done group ((rest.dropWhile (· != '\n')).drop 1)
        else none
      else if c == '[' then do
        let (name, rest) ← readUntil (· == ']') false [] rest
        readGroups fuel false (group :: done) ⟨some (trimmed name), []⟩ (rest.drop 1)
      else if c == '=' || c == ':' then none
      else do
        let (key, rest) ← readUntil (fun c => c == '=' || c == ':') false [] chars
        if (trimmed key).isEmpty then none
        let (value, rest) ← readValue (rest.drop 1)
        readGroups fuel false done (group.insert (trimmed key) value) rest

def parse? (source : String) : Option (List (String × ConfigValue)) := do
  let chars := source.toList
  let groups ← readGroups (chars.length + 1) true [] ⟨none, []⟩ chars
  return (groups.flatMap Group.toEntries).foldl
    (fun entries (key, value) => ConfigValue.setEntry key value entries) []

end StatTree.Ini
