import StatTree.Error
import StatTree.Json

namespace StatTree

inductive Cell
  | integer (value : Option Int)
  | json (value : Option Json)
  | text (value : Option String)

abbrev Row := List (String × Cell)

namespace Cell

def toInteger (column : String) : Cell → Except DatabaseError (Option Int)
  | .integer value => .ok value
  | .json none | .text none => .ok none
  | .json (some _) | .text (some _) => .error (.typeMismatch column)

def toJson (column : String) : Cell → Except DatabaseError (Option Json)
  | .json value => .ok value
  | .integer none | .text none => .ok none
  | .integer (some _) | .text (some _) => .error (.typeMismatch column)

end Cell

namespace Row

/-- The cell of a named column; of several columns with the name the last one. -/
def named (row : Row) (column : String) : Except DatabaseError Cell :=
  match row.reverse.find? (·.1 == column) with
  | some (_, cell) => .ok cell
  | none => .error (.columnNotFound column)

def cellAt (row : Row) (index : Nat) : Except DatabaseError Cell :=
  match row[index]? with
  | some (_, cell) => .ok cell
  | none => .error (.columnOutOfBounds index row.length)

def integer (row : Row) (column : String) : Except DatabaseError (Option Int) := do
  (← row.named column).toInteger column

def json (row : Row) (column : String) : Except DatabaseError (Option Json) := do
  (← row.named column).toJson column

end Row

structure Backend where
  pid : Option Int
  locks : Option (Option Json)

/-- Reads a server process. Its id is required; locks that cannot be read are left out. -/
def Backend.ofRow (row : Row) : Except DatabaseError Backend := do
  return { pid := ← row.integer "pid", locks := (row.json "locks").toOption }

end StatTree
