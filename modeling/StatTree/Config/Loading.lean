import StatTree.Config.Environment
import StatTree.Config.FileFormat

namespace StatTree

structure ConfigFile where
  name : String
  text : Option String
deriving DecidableEq, Repr

namespace ConfigFile

/-- What follows the last point in the last part of the name. It is empty where that part has no
    point, or none but the one it begins with. -/
def extension (file : ConfigFile) : String :=
  let backwards := file.name.toList.reverse.takeWhile (· != '/')
  match backwards.dropWhile (· != '.') with
  | _ :: _ :: _ => String.ofList (backwards.takeWhile (· != '.')).reverse
  | _ => ""

def settings (file : ConfigFile) : Except ConfigFault (List (String × ConfigValue)) :=
  match file.text with
  | none => .error (.fileNotFound file.name)
  | some text =>
    match FileFormat.ofExtension? file.extension with
    | none => .error (.unregisteredFormat file.name)
    | some format =>
      match format.read? text with
      | none => .error (.malformedFile file.name)
      | some settings => .ok settings

end ConfigFile

namespace Config

abbrev Placed := ConfigValue.Place × ConfigValue

def converted (fallback : α) (convert : ConfigValue.Place → ConfigValue → Except ConfigFault α) :
    Option Placed → Except ConfigFault α
  | some (place, value) => convert place value
  | none => .ok fallback

def ofSettings (find : ConfigField → Option Placed) : Except ConfigFault Config := do
  let defaults : Config := {}
  let databaseUrl ← converted defaults.databaseUrl ConfigValue.toText (find .databaseUrl)
  let version ← converted defaults.version (fun _ => ConfigValue.nullable ConfigValue.toVersion)
    (find .version)
  let maxConnections ← converted defaults.maxConnections ConfigValue.toUInt32
    (find .maxConnections)
  let statementTimeoutMs ← converted defaults.statementTimeoutMs
    (fun place => ConfigValue.nullable (ConfigValue.toUInt64 place)) (find .statementTimeoutMs)
  let environment ← converted defaults.environment ConfigValue.toText (find .environment)
  return { databaseUrl, version, maxConnections, statementTimeoutMs, environment }

def valueOf (environment : Environment) (origin : Option String)
    (settings : List (String × ConfigValue)) (field : ConfigField) : Option Placed :=
  match environment.override field with
  | some text => some (⟨field.key, none⟩, .text text)
  | none => (ConfigValue.lookup? field.key settings).map (⟨field.key, origin⟩, ·)

/-- Loads a configuration. The file is read before the environment is looked at, and whether the
    configuration is valid is looked at last. -/
def load (file : Option ConfigFile) (environment : Environment) : Except ConfigFault Config := do
  let settings ← (file.map ConfigFile.settings).getD (.ok [])
  let config ← ofSettings (valueOf environment (file.map ConfigFile.name) settings)
  config.validated

end Config

end StatTree
