import StatTree.Json
import StatTree.Number.Shortest
import StatTree.Text.Separated

namespace StatTree.Json

def unitDigits (unit : Nat) : List Char :=
  let digits := Nat.toDigits 16 unit
  List.replicate (4 - digits.length) '0' ++ digits

def unitEscape (unit : Nat) : List Char := '\\' :: 'u' :: unitDigits unit

def printedChar (c : Char) : List Char :=
  let code := c.toNat
  if c = '"' then ['\\', '"']
  else if c = '\\' then ['\\', '\\']
  else if 0x20 ≤ code ∧ code < 0x7f then [c]
  else if code < 0x10000 then unitEscape code
  else
    unitEscape (0xd800 + (code - 0x10000) / 0x400) ++ unitEscape (0xdc00 + (code - 0x10000) % 0x400)

def printedText (text : String) : String :=
  String.ofList ('"' :: (text.toList.flatMap printedChar ++ ['"']))

/-- A number that is not an integer keeps a point, so that it reads back as one. -/
def printedReal (value : Binary64) : String :=
  let text := value.text
  if text.contains '.' then text else text ++ ".0"

mutual

def print : Json → String
  | .null => "null"
  | .bool value => if value then "true" else "false"
  | .integer value => toString value
  | .real value => printedReal value
  | .text value => printedText value
  | .array elements => "[" ++ Text.separated "," (printAll elements) ++ "]"
  | .object members => "\x7b" ++ Text.separated "," (printMembers members) ++ "\x7d"

def printAll : List Json → List String
  | [] => []
  | element :: rest => print element :: printAll rest

def printMembers : List (String × Json) → List String
  | [] => []
  | (key, value) :: rest => (printedText key ++ ":" ++ print value) :: printMembers rest

end

end StatTree.Json
