import StatTree.Json
import StatTree.Number.Signed64

namespace StatTree

structure TupleAddress where
  relation : String
  page : Int64
  tuple : Int64
deriving DecidableEq, Repr

namespace TupleAddress

def text (address : TupleAddress) : String :=
  "SELECT row_to_json(" ++ address.relation ++ ") FROM " ++ address.relation ++
    " WHERE ctid = '(" ++ toString address.page.toInt ++ "," ++ toString address.tuple.toInt ++
    ")'"

def toJson (address : TupleAddress) : Json :=
  .object [("rel_name", .text address.relation), ("page", .integer address.page.toInt),
    ("tuple", .integer address.tuple.toInt)]

def word? : Json → Option Int64
  | .integer value => if fitsSigned64 value then some (.ofInt value) else none
  | _ => none

def ofParts? (relation page tuple : Json) : Option TupleAddress := do
  return ⟨← relation.text?, ← word? page, ← word? tuple⟩

/-- Reads a stored form: an object, whose unknown keys are ignored, or an array of the three
    parts. -/
def ofJson? : Json → Option TupleAddress
  | .array [relation, page, tuple] => ofParts? relation page tuple
  | .object members => do
    let value := Json.object members
    ofParts? (← value.member? "rel_name") (← value.member? "page") (← value.member? "tuple")
  | _ => none

end TupleAddress

end StatTree
