import StatTree.Config.Loading
import StatTree.Proofs.Outcome
import StatTree.Proofs.Text.Integer

namespace StatTree

namespace ConfigFile

/-- The extension follows the last point, where that point neither begins the name nor comes right
    after a slash. -/
theorem extension_eq_iff {file : ConfigFile} {wanted : String} (filled : wanted ≠ "") :
    file.extension = wanted ↔ '.' ∉ wanted.toList ∧ '/' ∉ wanted.toList ∧
      ∃ c, c ≠ '/' ∧ c :: '.' :: wanted.toList <:+ file.name.toList := by
  constructor
  · rintro rfl
    have inPart : ∀ c ∈ file.name.toList.reverse.takeWhile (· != '/'), c ≠ '/' :=
      fun _ => Text.ne_of_mem_takeWhile
    have part : file.name.toList.reverse.takeWhile (· != '/') <+: file.name.toList.reverse :=
      List.takeWhile_prefix _
    simp only [extension] at filled ⊢
    generalize file.name.toList.reverse.takeWhile (· != '/') = backwards at *
    split at filled
    · next point c stem cut =>
      have whole := Text.eq_takeWhile_append_of_dropWhile cut
      rw [whole] at inPart part
      simp only [String.toList_ofList, List.mem_reverse]
      refine ⟨fun member => Text.ne_of_mem_takeWhile member rfl,
        fun member => inPart '/' (List.mem_append_left _ member) rfl, c, inPart c (by simp), ?_⟩
      rw [← List.reverse_suffix, List.reverse_reverse] at part
      exact List.IsSuffix.trans ⟨stem.reverse, by simp⟩ part
    · exact absurd rfl filled
  · rintro ⟨noPoint, noSlash, c, other, front, name⟩
    have points := Text.bne_of_mem_reverse noPoint
    have backwards : file.name.toList.reverse.takeWhile (· != '/') =
        wanted.toList.reverse ++ '.' :: c :: front.reverse.takeWhile (· != '/') := by
      rw [← name, List.reverse_append, List.reverse_cons, List.reverse_cons, List.append_assoc,
        List.append_assoc, List.takeWhile_append_of_pos (Text.bne_of_mem_reverse noSlash)]
      simp [other]
    have pointed : ('.' :: c :: front.reverse.takeWhile (· != '/')).head?.any (· != '.') = false :=
      rfl
    simp only [extension, backwards]
    rw [Text.dropWhile_append_of_stop points pointed, Text.takeWhile_append_of_stop points pointed,
      List.reverse_reverse, String.ofList_toList]

example : ["cfg.toml", "a.b/json", ".json", "a.b.json"].map
    (fun name => (ConfigFile.mk name none).extension) = ["toml", "", "", "json"] := by
  decide

end ConfigFile

namespace ConfigField

abbrev Kind : ConfigField → Type
  | .databaseUrl | .environment => String
  | .version => Option Version
  | .maxConnections => UInt32
  | .statementTimeoutMs => Option UInt64

def names : ConfigField → List Variable
  | .databaseUrl => [.databaseUrl, .commonDatabaseUrl]
  | .version => [.version]
  | .maxConnections => [.maxConnections]
  | .statementTimeoutMs => [.statementTimeoutMs]
  | .environment => [.environment]

def convert (place : ConfigValue.Place) :
    (field : ConfigField) → ConfigValue → Except ConfigFault field.Kind
  | .databaseUrl | .environment => ConfigValue.toText place
  | .version => ConfigValue.nullable ConfigValue.toVersion
  | .maxConnections => ConfigValue.toUInt32 place
  | .statementTimeoutMs => ConfigValue.nullable (ConfigValue.toUInt64 place)

def converted? (field : ConfigField) (value : ConfigValue) : Option field.Kind :=
  (field.convert ⟨field.key, none⟩ value).toOption

/-- The value that counts for a field: a text of the environment, or else the file's value. -/
def winning? (field : ConfigField) (environment : Environment)
    (settings : List (String × ConfigValue)) : Option ConfigValue :=
  ((field.names.findSome? environment).map .text).or
    (ConfigValue.lookup? field.key settings)

theorem eq_of_mem_names {a b : ConfigField} {name : Variable} (inA : name ∈ a.names)
    (inB : name ∈ b.names) : a = b := by
  cases a <;> cases b <;> cases name <;> simp_all [names]

end ConfigField

namespace ConfigValue

variable (place other : Place) (value : ConfigValue)

theorem toOption_toWord : (value.toWord place).toOption = (value.toWord other).toOption := by
  cases value with
  | integer n =>
    simp only [toWord]
    split <;> rfl
  | text source =>
    simp only [toWord]
    cases wordValue? source with
    | some flag => rfl
    | none => cases Text.readBelow UInt64.size source <;> rfl
  | _ => rfl

theorem toOption_toText : (value.toText place).toOption = (value.toText other).toOption := by
  cases value <;> rfl

theorem toOption_toUInt64 :
    (value.toUInt64 place).toOption = (value.toUInt64 other).toOption := by
  have same := toOption_toWord place other value
  unfold toUInt64
  cases left : value.toWord place <;> cases right : value.toWord other <;>
    simp_all [Except.toOption, Except.map]

theorem toOption_toUInt32 :
    (value.toUInt32 place).toOption = (value.toUInt32 other).toOption := by
  have same := toOption_toWord place other value
  unfold toUInt32
  cases left : value.toWord place <;> cases right : value.toWord other <;>
    simp_all [Except.toOption, bind, Except.bind]
  next word => by_cases fits : word < UInt32.size <;> simp [fits]

theorem toOption_nullable {α : Type} {convert convert' : ConfigValue → Except ConfigFault α}
    (same : (convert value).toOption = (convert' value).toOption) :
    (nullable convert value).toOption = (nullable convert' value).toOption := by
  cases value <;> simp only [nullable] <;> revert same <;> cases convert _ <;> cases convert' _ <;>
    simp [Except.toOption, Except.map]

end ConfigValue

theorem ConfigField.toOption_convert (field : ConfigField) (place : ConfigValue.Place)
    (value : ConfigValue) : (field.convert place value).toOption = field.converted? value := by
  cases field with
  | databaseUrl => exact ConfigValue.toOption_toText _ _ _
  | version => rfl
  | maxConnections => exact ConfigValue.toOption_toUInt32 _ _ _
  | statementTimeoutMs =>
    exact ConfigValue.toOption_nullable _ (ConfigValue.toOption_toUInt64 _ _ _)
  | environment => exact ConfigValue.toOption_toText _ _ _

namespace Config

def get (config : Config) : (field : ConfigField) → field.Kind
  | .databaseUrl => config.databaseUrl
  | .version => config.version
  | .maxConnections => config.maxConnections
  | .statementTimeoutMs => config.statementTimeoutMs
  | .environment => config.environment

theorem ext_get {a b : Config} (same : ∀ field, a.get field = b.get field) : a = b := by
  obtain ⟨_, _, _, _, _⟩ := a
  obtain ⟨_, _, _, _, _⟩ := b
  have url := same .databaseUrl
  have version := same .version
  have connections := same .maxConnections
  have timeout := same .statementTimeoutMs
  have environment := same .environment
  simp only [get] at url version connections timeout environment
  subst url version connections timeout environment
  rfl

def Holds (config : Config) (field : ConfigField) (value : Option ConfigValue) : Prop :=
  value.elim (some (({} : Config).get field)) field.converted? = some (config.get field)

theorem Holds.get_eq {a b : Config} {field : ConfigField} {value : Option ConfigValue}
    (left : a.Holds field value) (right : b.Holds field value) : a.get field = b.get field :=
  Option.some.inj (left.symm.trans right)

theorem converted_eq_ok_iff {config : Config} {field : ConfigField} {found : Option Placed} :
    converted (({} : Config).get field) (fun place => field.convert place) found =
        .ok (config.get field) ↔ config.Holds field (found.map Prod.snd) := by
  cases found with
  | none => simp [converted, Holds]
  | some placed =>
    obtain ⟨place, value⟩ := placed
    simp only [converted, Holds, Option.map_some, Option.elim_some]
    rw [← field.toOption_convert place, toOption_eq_some_iff]

theorem ofSettings_eq_ok_iff {config : Config} {find : ConfigField → Option Placed} :
    ofSettings find = .ok config ↔
      ∀ field, config.Holds field ((find field).map Prod.snd) := by
  simp only [← converted_eq_ok_iff]
  simp only [ofSettings, bind_eq_ok_iff]
  constructor
  · intro read
    obtain ⟨url, hurl, version, hversion, connections, hconnections, timeout, htimeout, environment,
      henvironment, same⟩ := read
    cases same
    intro field
    cases field <;> assumption
  · intro read
    exact ⟨_, read .databaseUrl, _, read .version, _, read .maxConnections, _,
      read .statementTimeoutMs, _, read .environment, rfl⟩

def fileSettings (file : Option ConfigFile) :
    Except ConfigFault (List (String × ConfigValue)) :=
  (file.map ConfigFile.settings).getD (.ok [])

theorem override_eq (environment : Environment) (field : ConfigField) :
    environment.override field = field.names.findSome? environment := by
  cases field with
  | databaseUrl =>
    simp only [Environment.override, ConfigField.names, List.findSome?_cons,
      List.findSome?_nil]
    cases environment .databaseUrl with
    | some text => rfl
    | none => cases environment .commonDatabaseUrl <;> rfl
  | _ =>
    simp only [Environment.override, ConfigField.names, List.findSome?_cons,
      List.findSome?_nil]
    split <;> simp_all

theorem map_snd_valueOf (environment : Environment) (origin : Option String)
    (settings : List (String × ConfigValue)) (field : ConfigField) :
    (valueOf environment origin settings field).map Prod.snd =
      field.winning? environment settings := by
  simp only [valueOf, ConfigField.winning?, ← override_eq]
  cases environment.override field with
  | some text => rfl
  | none =>
    cases ConfigValue.lookup? field.key settings <;> rfl

theorem validated_eq_ok {config result : Config} (valid : config.validated = .ok result) :
    result = config := by
  unfold validated at valid
  split at valid
  · cases valid
  · split at valid <;> cases valid
    rfl

theorem load_eq_ok_iff {file : Option ConfigFile} {environment : Environment} {config : Config} :
    load file environment = .ok config ↔ ∃ settings, fileSettings file = .ok settings ∧
      (∀ field, config.Holds field (field.winning? environment settings)) ∧
      config.validated = .ok config := by
  simp only [load, bind_eq_ok_iff, ofSettings_eq_ok_iff, map_snd_valueOf]
  constructor
  · intro loaded
    obtain ⟨settings, read, result, holds, valid⟩ := loaded
    obtain rfl := validated_eq_ok valid
    exact ⟨settings, read, holds, valid⟩
  · intro loaded
    obtain ⟨settings, read, holds, valid⟩ := loaded
    exact ⟨settings, read, config, holds, valid⟩

theorem winning?_congr {field : ConfigField} {environment environment' : Environment}
    (settings : List (String × ConfigValue))
    (same : ∀ name ∈ field.names, environment' name = environment name) :
    field.winning? environment' settings = field.winning? environment settings := by
  have texts : field.names.findSome? environment' = field.names.findSome? environment := by
    cases field <;> simp_all [ConfigField.names, List.findSome?]
  unfold ConfigField.winning?
  rw [texts]

theorem valueOf_congr {field : ConfigField} {environment environment' : Environment}
    {settings settings' : List (String × ConfigValue)} (origin : Option String)
    (texts : field.names.findSome? environment' = field.names.findSome? environment)
    (values : field.names.findSome? environment = none →
      ConfigValue.lookup? field.key settings' = ConfigValue.lookup? field.key settings) :
    valueOf environment' origin settings' field = valueOf environment origin settings field := by
  unfold valueOf
  rw [override_eq, override_eq, texts]
  cases set : field.names.findSome? environment with
  | some text => rfl
  | none => simp only [values set]

/-- Loading succeeds exactly when the file can be read, every field is the conversion of its winning
    value, or its default for want of one, and the configuration is valid. Values that lose do not
    even change the fault. -/
theorem load_layered (file : Option ConfigFile) (environment : Environment) (config : Config) :
    (load file environment = .ok config ↔ ∃ settings, fileSettings file = .ok settings ∧
      (∀ field, config.Holds field (field.winning? environment settings)) ∧
      config.validated = .ok config) ∧
    (∀ file' environment' settings settings', file'.map ConfigFile.name = file.map ConfigFile.name →
      fileSettings file = .ok settings → fileSettings file' = .ok settings' →
      (∀ field : ConfigField,
        field.names.findSome? environment' = field.names.findSome? environment ∧
        (field.names.findSome? environment = none →
          ConfigValue.lookup? field.key settings' = ConfigValue.lookup? field.key settings)) →
      load file' environment' = load file environment) ∧
    (load file environment = .ok config → ∀ field environment' config',
      (∀ name, name ∉ ConfigField.names field → environment' name = environment name) →
      load file environment' = .ok config' →
      ∀ other, other ≠ field → config'.get other = config.get other) := by
  refine ⟨load_eq_ok_iff, ?_, ?_⟩
  · intro file' environment' settings settings' name read read' same
    have values : valueOf environment' (file'.map ConfigFile.name) settings' =
        valueOf environment (file.map ConfigFile.name) settings := by
      funext field
      rw [name]
      exact valueOf_congr _ (same field).1 (same field).2
    unfold fileSettings at read read'
    simp only [load, read, read', values, bind, Except.bind]
  · intro loaded field environment' config' outside loaded' other different
    obtain ⟨settings, read, holds, _⟩ := load_eq_ok_iff.mp loaded
    obtain ⟨settings', read', holds', _⟩ := load_eq_ok_iff.mp loaded'
    obtain rfl : settings' = settings := Except.ok.inj (read'.symm.trans read)
    have winner := winning?_congr settings' fun name member => outside name fun inField =>
      different (ConfigField.eq_of_mem_names member inField)
    exact (winner ▸ holds' other).get_eq (holds other)

example : (load (some ⟨"cfg.ini", some "max_connections = many\nEnvironment = staging"⟩)
    (fun name => if name = .maxConnections then some "7" else none)).toOption =
      some { maxConnections := 7, environment := "staging" } := by
  decide +kernel

end Config

end StatTree
