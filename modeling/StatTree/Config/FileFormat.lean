import StatTree.Config.Ini
import StatTree.Config.Json5
import StatTree.Config.Ron
import StatTree.Config.Toml
import StatTree.Config.Yaml

namespace StatTree

inductive FileFormat
  | toml
  | json
  | json5
  | ron
  | yaml
  | ini
deriving DecidableEq, Repr

namespace FileFormat

def ofExtension? : String → Option FileFormat
  | "toml" => some .toml
  | "json" => some .json
  | "json5" => some .json5
  | "ron" => some .ron
  | "yaml" | "yml" => some .yaml
  | "ini" => some .ini
  | _ => none

mutual

/-- The setting that a stored value is. Integers beyond the signed range are read as reals. -/
def settingOfJson : Json → ConfigValue
  | .null => .nothing
  | .bool value => .boolean value
  | .integer value =>
    if fitsSigned64 value then .integer value else .real (.ofDecimal false value.toNat 0)
  | .real value => .real value
  | .text value => .text value
  | .array elements => .list (settingsOfJson elements)
  | .object members => .table (entriesOfJson members)

def settingsOfJson : List Json → List ConfigValue
  | [] => []
  | element :: rest => settingOfJson element :: settingsOfJson rest

def entriesOfJson : List (String × Json) → List (String × ConfigValue)
  | [] => []
  | (key, value) :: rest => (key, settingOfJson value) :: entriesOfJson rest

end

def maxJsonDepth : Nat := 127

def ofJsonText? (source : String) : Option (List (String × ConfigValue)) := do
  match ← Json.parse? maxJsonDepth source with
  | .object members => some (entriesOfJson members)
  | _ => none

def read? (format : FileFormat) (source : String) : Option (List (String × ConfigValue)) :=
  (match format with
    | .toml => Toml.parse? source
    | .json => ofJsonText? source
    | .json5 => Json5.parse? source
    | .ron => Ron.parse? source
    | .yaml => Yaml.parse? source
    | .ini => Ini.parse? source).map ConfigValue.settings

end FileFormat

end StatTree
