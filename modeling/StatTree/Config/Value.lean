import StatTree.Config
import StatTree.Number.Shortest
import StatTree.Number.Signed64
import StatTree.Text.LowerCase

namespace StatTree

inductive ConfigValue
  | nothing
  | boolean (value : Bool)
  | integer (value : Int)
  | real (value : Binary64)
  | text (value : String)
  | list (elements : List ConfigValue)
  | indexed (elements : List (Int × ConfigValue))
  | table (entries : List (String × ConfigValue))
deriving Repr, Inhabited

namespace ConfigValue

structure Place where
  key : String
  origin : Option String
deriving DecidableEq, Repr

def Place.assembled (place : Place) : Place := { place with origin := none }

def mismatch (place : Place) (found : Unexpected) (expected : Expected) : ConfigFault :=
  .invalidType found expected place.key place.origin

def wordValue? (word : String) : Option Bool :=
  match word.toLower with
  | "true" | "on" | "yes" => some true
  | "false" | "off" | "no" => some false
  | _ => none

def toWord (place : Place) (value : ConfigValue) : Except ConfigFault Nat :=
  match value with
  | .nothing => .error (mismatch place .nothing .integer)
  | .boolean value => .ok value.toNat
  | .integer value =>
    if 0 ≤ value then .ok value.toNat else .error (mismatch place (.negative value) .unsigned64)
  | .real value => .ok (value.toNatWithin (UInt64.size - 1))
  | .text value =>
    match wordValue? value with
    | some flag => .ok flag.toNat
    | none => (Text.readBelow UInt64.size value).mapError
      fun _ => mismatch place (.text value) .integer
  | .list _ => .error (mismatch place .list .integer)
  | .indexed _ => .error (mismatch place.assembled .list .integer)
  | .table _ => .error (mismatch place.assembled .table .integer)

def toUInt64 (place : Place) (value : ConfigValue) : Except ConfigFault UInt64 :=
  (value.toWord place).map .ofNat

/-- The unsigned integer of 32 bits that a value stands for. One that needs more bits has lost its
    origin when that is found out. -/
def toUInt32 (place : Place) (value : ConfigValue) : Except ConfigFault UInt32 := do
  let word ← value.toWord place
  if word < UInt32.size then .ok (.ofNat word)
  else .error (mismatch place.assembled (.unsigned word) .unsigned32)

def toText (place : Place) (value : ConfigValue) : Except ConfigFault String :=
  match value with
  | .nothing => .error (mismatch place .nothing .text)
  | .boolean value => .ok (if value then "true" else "false")
  | .integer value => .ok (toString value)
  | .real value => .ok value.text
  | .text value => .ok value
  | .list _ => .error (mismatch place .list .text)
  | .indexed _ => .error (mismatch place.assembled .list .text)
  | .table _ => .error (mismatch place.assembled .table .text)

def versionNamed (name : String) : Except ConfigFault Version :=
  match Version.ofName? name.toLower with
  | some version => .ok version
  | none => .error (.unknownVersionName name)

def toVersion (value : ConfigValue) : Except ConfigFault Version :=
  match value with
  | .text name => versionNamed name
  | .table [(name, _)] => versionNamed name
  | _ => .error .notAVersionName

def nullable (convert : ConfigValue → Except ConfigFault α) :
    ConfigValue → Except ConfigFault (Option α)
  | .nothing => .ok none
  | value => (convert value).map some

def setEntry (key : String) (value : ConfigValue) :
    List (String × ConfigValue) → List (String × ConfigValue)
  | [] => [(key, value)]
  | (name, old) :: rest =>
    if name = key then (key, value) :: rest else (name, old) :: setEntry key value rest

def lookup? (key : String) (entries : List (String × ConfigValue)) : Option ConfigValue :=
  (entries.find? (·.1 == key)).map (·.2)

mutual

/-- What a key holds after a value is put there: a table is put into the table that is there, and
    anything else takes its place. -/
def merged (old : Option ConfigValue) : ConfigValue → ConfigValue
  | .table entries =>
    match old with
    | some (.table olds) => .table (mergedEntries olds entries)
    | some other => if entries.isEmpty then other else .table (mergedEntries [] entries)
    | none => .table (mergedEntries [] entries)
  | value => value

def mergedEntries (olds : List (String × ConfigValue)) :
    List (String × ConfigValue) → List (String × ConfigValue)
  | [] => olds
  | (key, value) :: rest =>
    let name := Text.lowered key
    mergedEntries (setEntry name (merged (lookup? name olds) value) olds) rest

end

inductive KeyStep
  | child (name : String)
  | item (index : Int)
deriving DecidableEq, Repr

structure KeyPath where
  first : String
  steps : List KeyStep
deriving DecidableEq, Repr

namespace KeyPath

def isNameChar (c : Char) : Bool := c.isAlphanum || c == ' ' || c == '_' || c == '-'

def splitName (chars : List Char) : Option (String × List Char) :=
  let name := chars.takeWhile isNameChar
  if name.isEmpty then none else some (String.ofList name, chars.dropWhile isNameChar)

def splitSubscript (chars : List Char) : Option (Int × List Char) :=
  let isSpace := fun c => c == ' ' || c == '\t'
  let chars := chars.dropWhile isSpace
  let (negative, chars) := match chars with
    | '-' :: rest => (true, rest)
    | rest => (false, rest)
  let digits := chars.takeWhile Char.isDigit
  let magnitude : Int := digits.foldl (fun value c => 10 * value + (c.toNat - '0'.toNat)) 0
  let index := if negative then -magnitude else magnitude
  match (chars.dropWhile Char.isDigit).dropWhile isSpace with
  | ']' :: rest => if digits.isEmpty || !fitsSigned64 index then none else some (index, rest)
  | _ => none

def readSteps : Nat → List Char → Option (List KeyStep)
  | _, [] => some []
  | 0, _ => none
  | fuel + 1, '.' :: rest => do
    let (name, rest) ← splitName rest
    return .child name :: (← readSteps fuel rest)
  | fuel + 1, '[' :: rest => do
    let (index, rest) ← splitSubscript rest
    return .item index :: (← readSteps fuel rest)
  | _, _ => none

def ofKey (key : String) : KeyPath :=
  let read := do
    let (first, rest) ← splitName key.toList
    return (⟨first, ← readSteps rest.length rest⟩ : KeyPath)
  read.getD ⟨key, []⟩

end KeyPath

def setItem (index : Int) (value : ConfigValue) :
    List (Int × ConfigValue) → List (Int × ConfigValue)
  | [] => [(index, value)]
  | (place, old) :: rest =>
    if place = index then (index, value) :: rest else (place, old) :: setItem index value rest

/-- What a key holds after a value is put along a path inside it. What is on the way and is no
    table, or no list by subscripts, gives way to one. -/
def putAlong (value : ConfigValue) (old : Option ConfigValue) : List KeyStep → ConfigValue
  | [] => merged old value
  | .child name :: rest =>
    let olds := match old with
      | some (.table entries) => entries
      | _ => []
    let name := Text.lowered name
    .table (setEntry name (putAlong value (lookup? name olds) rest) olds)
  | .item index :: rest =>
    let olds := match old with
      | some (.indexed elements) => elements
      | _ => []
    let inner := (olds.find? (·.1 == index)).map (·.2)
    .indexed (setItem index (putAlong value inner rest) olds)

def putSetting (settings : List (String × ConfigValue)) (key : String) (value : ConfigValue) :
    List (String × ConfigValue) :=
  let path := KeyPath.ofKey key
  let name := Text.lowered path.first
  setEntry name (putAlong value (lookup? name settings) path.steps) settings

def settings (entries : List (String × ConfigValue)) : List (String × ConfigValue) :=
  entries.foldl (fun settings (key, value) => putSetting settings key value) []

end ConfigValue

end StatTree
