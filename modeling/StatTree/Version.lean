import StatTree.Text.Blank

namespace StatTree

inductive Version
  | postgres9
  | postgres13
deriving DecidableEq, Repr, Inhabited

namespace Version

/-- The generation assumed when none was chosen. -/
def default : Version := .postgres13

def text : Version → String
  | .postgres9 => "9.6"
  | .postgres13 => "13"

def label : Version → String
  | .postgres9 => "Postgres9"
  | .postgres13 => "Postgres13"

/-- The numbers that stored data accepts; the major number stands for 9.6. -/
def names : List (String × Version) :=
  [("9.6", .postgres9), ("9", .postgres9), ("13", .postgres13)]

def ofName? (name : String) : Option Version := (names.find? (·.1 == name)).map (·.2)

def parse? (source : String) : Option Version := ofName? (Text.trimmed source)

theorem ofName?_text (version : Version) : ofName? version.text = some version := by
  cases version <;> rfl

end Version

end StatTree
