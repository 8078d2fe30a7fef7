import StatTree.Proofs.Config.Layers

namespace StatTree

namespace Json

theorem member?_object_eq {key : String} {members : List (String × Json)} {expected : Option Json}
    (holds : ∀ value, (key, value) ∈ members ↔ expected = some value) :
    (object members).member? key = expected := by
  change (members.find? (·.1 == key)).map (·.2) = expected
  cases found : members.find? (·.1 == key) with
  | none =>
    cases expected with
    | none => rfl
    | some value =>
      have absent := List.find?_eq_none.mp found _ ((holds value).mpr rfl)
      simp at absent
  | some member =>
    obtain ⟨name, value⟩ := member
    obtain rfl : name = key := by simpa using List.find?_some found
    exact ((holds value).mp (List.mem_of_find?_eq_some found)).symm

theorem natBelow?_integer {bound n : Nat} (small : n < bound) :
    (integer n).natBelow? bound = some n := by
  have range : 0 ≤ (n : Int) ∧ (n : Int) < bound := by omega
  rw [natBelow?, if_pos range, Int.toNat_natCast]

end Json

namespace ConfigField

theorem key_injective {a b : ConfigField} (same : a.key = b.key) : a = b := by
  revert same
  cases a <;> cases b <;> decide

def ofJson? : (field : ConfigField) → Json → Option field.Kind
  | .databaseUrl | .environment => Json.text?
  | .version => Json.nullable fun value => value.caseName?.bind Version.ofName?
  | .maxConnections => fun value => (value.natBelow? UInt32.size).map UInt32.ofNat
  | .statementTimeoutMs =>
    Json.nullable fun value => (value.natBelow? UInt64.size).map UInt64.ofNat

theorem ofJson?_fieldJson (field : ConfigField) (config : Config) :
    field.ofJson? (config.fieldJson field) = some (config.get field) := by
  obtain ⟨_, version, connections, timeout, _⟩ := config
  cases field with
  | databaseUrl | environment => rfl
  | version =>
    cases version with
    | none => rfl
    | some version =>
      simp only [ofJson?, Config.fieldJson, Config.get, Json.nullable, Json.caseName?,
        Option.bind_some, Version.ofName?_text, Option.map_some]
  | maxConnections =>
    simp only [ofJson?, Config.fieldJson, Config.get, Json.natBelow?_integer connections.toNat_lt,
      Option.map_some, UInt32.ofNat_toNat]
  | statementTimeoutMs =>
    cases timeout with
    | none => rfl
    | some ms =>
      simp only [ofJson?, Config.fieldJson, Config.get, Json.nullable,
        Json.natBelow?_integer ms.toNat_lt, Option.map_some, UInt64.ofNat_toNat]

end ConfigField

namespace Config

theorem ofFields?_eq_some_iff {config : Config} {find : ConfigField → Option Json} :
    ofFields? find = some config ↔ ∀ field : ConfigField,
      fieldOr (({} : Config).get field) field.ofJson? (find field) = some (config.get field) := by
  simp only [ofFields?, Option.bind_eq_bind, Option.bind_eq_some_iff]
  constructor
  · intro read
    obtain ⟨url, hurl, version, hversion, connections, hconnections, timeout, htimeout, environment,
      henvironment, same⟩ := read
    cases same
    intro field
    cases field <;> assumption
  · intro read
    exact ⟨_, read .databaseUrl, _, read .version, _, read .maxConnections, _,
      read .statementTimeoutMs, _, read .environment, rfl⟩

def ofValues (value : (field : ConfigField) → field.Kind) : Config where
  databaseUrl := value .databaseUrl
  version := value .version
  maxConnections := value .maxConnections
  statementTimeoutMs := value .statementTimeoutMs
  environment := value .environment

theorem get_ofValues (value : (field : ConfigField) → field.Kind) (field : ConfigField) :
    (ofValues value).get field = value field := by
  cases field <;> rfl

/-- The defaults, with the chosen fields taken from the configuration. -/
def restricted (config : Config) (chosen : ConfigField → Bool) : Config :=
  ofValues fun field => if chosen field then config.get field else ({} : Config).get field

theorem get_restricted (config : Config) (chosen : ConfigField → Bool) (field : ConfigField) :
    (config.restricted chosen).get field =
      if chosen field then config.get field else ({} : Config).get field :=
  get_ofValues _ field

theorem restricted_all (config : Config) : (config.restricted fun _ => true) = config :=
  ext_get fun field => get_restricted config _ field

variable {config : Config} {chosen : ConfigField → Bool}

theorem ofFields?_eq_restricted {find : ConfigField → Option Json}
    (found : ∀ field, find field = if chosen field then some (config.fieldJson field) else none) :
    ofFields? find = some (config.restricted chosen) := by
  refine ofFields?_eq_some_iff.mpr fun field => ?_
  rw [found, get_restricted]
  split
  · exact field.ofJson?_fieldJson config
  · rfl

def storedFields (config : Config) (chosen : ConfigField → Bool) : List (String × Json) :=
  (ConfigField.all.filter chosen).map fun field => (field.key, config.fieldJson field)

theorem mem_storedFields_iff {field : ConfigField} {value : Json} :
    (field.key, value) ∈ config.storedFields chosen ↔
      chosen field ∧ config.fieldJson field = value := by
  simp only [storedFields, List.mem_map, List.mem_filter, Prod.mk.injEq]
  constructor
  · rintro ⟨other, ⟨_, picked⟩, sameKey, same⟩
    obtain rfl := ConfigField.key_injective sameKey
    exact ⟨picked, same⟩
  · rintro ⟨picked, same⟩
    exact ⟨field, ⟨by cases field <;> decide, picked⟩, rfl, same⟩

theorem ofJson?_object {others members : List (String × Json)}
    (unknown : ∀ member ∈ others, ∀ field : ConfigField, member.1 ≠ field.key)
    (order : members.Perm (config.storedFields chosen ++ others)) :
    ofJson? (.object members) = some (config.restricted chosen) := by
  -- No other member has the key of a field, so what is found does not depend on the order.
  refine ofFields?_eq_restricted fun field => Json.member?_object_eq fun value => ?_
  have known : (field.key, value) ∉ others := fun member => unknown _ member field rfl
  rw [order.mem_iff, List.mem_append, or_iff_left known, mem_storedFields_iff]
  cases chosen field <;> simp

theorem ofJson?_toJson (config : Config) : ofJson? config.toJson = some config := by
  have order : (config.storedFields fun _ => true).Perm
      ((config.storedFields fun _ => true) ++ []) := by
    rw [List.append_nil]
  have read := ofJson?_object (List.forall_mem_nil _) order
  rwa [restricted_all] at read

theorem all_getElem?_position (field : ConfigField) :
    ConfigField.all[field.position]? = some field := by
  cases field <;> rfl

theorem ofJson?_leading (config : Config) (count : Nat) :
    ofJson? (.array ((ConfigField.all.take count).map config.fieldJson)) =
      some (config.restricted fun field => field.position < count) := by
  have short : ((ConfigField.all.take count).map config.fieldJson).length ≤
      ConfigField.all.length := by
    rw [List.length_map, List.length_take]
    exact Nat.min_le_right _ _
  refine (if_pos short).trans (ofFields?_eq_restricted fun field => ?_)
  rw [List.getElem?_map, List.getElem?_take]
  by_cases stored : field.position < count
  · rw [if_pos stored, if_pos (decide_eq_true stored), all_getElem?_position, Option.map_some]
  · rw [if_neg stored, if_neg (by simpa using stored), Option.map_none]

theorem ofJson?_tooLong {elements : List Json} (long : 5 < elements.length) :
    ofJson? (.array elements) = none :=
  if_neg (Nat.not_le_of_lt long)

/-- What is stored reads back as just that, with defaults for the rest: any of the fields among
    members that no field has, in any order, or the leading fields by their places. -/
theorem ofJson?_stored (config : Config) :
    ofJson? config.toJson = some config ∧
    (∀ (chosen : ConfigField → Bool) (others members : List (String × Json)),
      (∀ member ∈ others, ∀ field : ConfigField, member.1 ≠ field.key) →
      members.Perm (config.storedFields chosen ++ others) →
      ofJson? (.object members) = some (config.restricted chosen)) ∧
    (∀ count, ofJson? (.array ((ConfigField.all.take count).map config.fieldJson)) =
      some (config.restricted fun field => field.position < count)) ∧
    ∀ elements : List Json, 5 < elements.length → ofJson? (.array elements) = none :=
  ⟨ofJson?_toJson config, fun _ _ _ => ofJson?_object, ofJson?_leading config,
    fun _ => ofJson?_tooLong⟩

def farthest : Config where
  databaseUrl := "postgresql://monitor@db/postgres"
  version := some .postgres9
  maxConnections := 4294967295
  statementTimeoutMs := some 18446744073709551615
  environment := "production"

theorem farthest_stored :
    ofJson? farthest.toJson = some farthest ∧
    ofJson? (.object [("retries", .integer 3),
      ("statement_timeout_ms", .integer 18446744073709551615), ("postgres_version", .text "9.6")]) =
        some { version := some .postgres9, statementTimeoutMs := some 18446744073709551615 } ∧
    ofJson? (.array [.text "postgresql://monitor@db/postgres", .text "9.6"]) =
      some { databaseUrl := "postgresql://monitor@db/postgres", version := some .postgres9 } ∧
    ofJson? (.array (.null :: ConfigField.all.map farthest.fieldJson)) = none := by
  obtain ⟨whole, object, array, refused⟩ := ofJson?_stored farthest
  refine ⟨whole, ?_, array 2, refused _ (by decide)⟩
  have unknown : ∀ member ∈ [("retries", Json.integer 3)], ∀ field : ConfigField,
      member.1 ≠ field.key :=
    List.forall_mem_singleton.mpr fun field => by cases field <;> decide
  exact object (fun field => field = .version ∨ field = .statementTimeoutMs) _ _ unknown
    (List.reverse_perm _).symm

end Config

end StatTree
