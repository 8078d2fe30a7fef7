import StatTree.Number.Binary64

namespace StatTree

/-- A JSON value; an object lists each key once. -/
inductive Json
  | null
  | bool (value : Bool)
  | integer (value : Int)
  | real (value : Binary64)
  | text (value : String)
  | array (elements : List Json)
  | object (members : List (String × Json))
deriving Inhabited

namespace Json

def insertMember (key : String) (value : Json) :
    List (String × Json) → List (String × Json)
  | [] => [(key, value)]
  | (name, old) :: rest =>
    if name = key then (key, value) :: rest else (name, old) :: insertMember key value rest

def member? (key : String) : Json → Option Json
  | .object members => (members.find? (·.1 == key)).map (·.2)
  | _ => none

/-- The name by which a value picks one case of an enumeration: a text, or an object whose only
    member has that name and the value null. -/
def caseName? : Json → Option String
  | .text name => some name
  | .object [(name, .null)] => some name
  | _ => none

def natBelow? (bound : Nat) : Json → Option Nat
  | .integer value => if 0 ≤ value ∧ value < bound then some value.toNat else none
  | _ => none

def text? : Json → Option String
  | .text value => some value
  | _ => none

def nullable (read : Json → Option α) : Json → Option (Option α)
  | .null => some none
  | value => (read value).map some

end Json

end StatTree
