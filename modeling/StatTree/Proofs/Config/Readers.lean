import StatTree.Proofs.Config.Layers
import StatTree.Proofs.Text.Integer

namespace StatTree

namespace Text

theorem eq_of_toLower_eq {c d : Char} (same : c.toLower = d) (small : d.toNat < 97) : c = d := by
  unfold Char.toLower at same
  split at same
  · next upper =>
    have low : 65 ≤ c.toNat := upper.1
    have high : c.toNat ≤ 90 := upper.2
    have image := congrArg Char.toNat same
    simp only [Char.toNat, UInt32.toNat_add] at image low high small
    have shift : ('a'.val - 'A'.val).toNat = 32 := by decide
    omega
  · exact same

theorem eq_of_stringToLower_eq {text name : String} (same : text.toLower = name)
    (small : ∀ c ∈ name.toList, c.toNat < 97) : text = name := by
  subst same
  apply String.toList_injective
  unfold String.toLower at small ⊢
  rw [String.toList_map] at small ⊢
  refine (List.map_id _).symm.trans (List.map_congr_left fun c member => ?_)
  exact eq_of_toLower_eq rfl (small _ (List.mem_map_of_mem member))

end Text

namespace ConfigValue

theorem wordValue?_of_numeric {text : String}
    (numeric : ∀ c ∈ text.toList, c.isDigit = true ∨ Text.isSign c = true) :
    wordValue? text = none := by
  -- A number has no letter, and each word has one.
  have number : text.toList.all (fun c => c.isDigit || Text.isSign c) = true := by
    simpa only [List.all_eq_true, Bool.or_eq_true] using numeric
  unfold wordValue?
  rw [Text.toLower_of_numeric numeric]
  split <;> first | rfl | exact absurd number (by decide +kernel)

theorem wordValue?_of_readBelow {bound n : Nat} {text : String}
    (read : Text.readBelow bound text = .ok n) : wordValue? text = none := by
  refine wordValue?_of_numeric fun c member => ?_
  rcases Text.isDigit_or_plus_of_readBelow read c member with digit | rfl
  · exact .inl digit
  · exact .inr rfl

theorem toWord_text_of_readBelow {n : Nat} {source : String}
    (read : Text.readBelow UInt64.size source = .ok n) (place : Place) :
    (text source).toWord place = .ok n := by
  simp only [toWord, wordValue?_of_readBelow read, read]
  rfl

end ConfigValue

namespace Version

theorem mem_names_of_ofName? {name : String} {version : Version}
    (named : ofName? name = some version) : (name, version) ∈ names := by
  obtain ⟨entry, found, rfl⟩ := Option.map_eq_some_iff.mp named
  have same := List.find?_some found
  rw [← beq_iff_eq.mp same]
  exact List.mem_of_find?_eq_some found

theorem trimmed_of_mem_names : ∀ entry ∈ names, Text.trimmed entry.1 = entry.1 := by
  decide +kernel

theorem small_of_mem_names :
    ∀ entry ∈ names, entry.1.toList.all (fun c => c.toNat < 97) = true := by
  decide +kernel

theorem parse?_of_ofName?_toLower {text : String} {version : Version}
    (named : ofName? text.toLower = some version) : parse? text = some version := by
  -- The names of the versions have no letters, so that only they have them for lower case.
  have small := small_of_mem_names _ (mem_names_of_ofName? named)
  have same := Text.eq_of_stringToLower_eq rfl fun c member =>
    of_decide_eq_true (List.all_eq_true.mp small c member)
  rw [← same] at named
  unfold parse?
  rw [trimmed_of_mem_names _ (mem_names_of_ofName? named)]
  exact named

end Version

namespace ConfigField

def read? : (field : ConfigField) → String → Option field.Kind
  | .databaseUrl, source | .environment, source => some source
  | .version, source => (Version.parse? source).map some
  | .maxConnections, source => (Text.readBelow UInt32.size source).toOption.map .ofNat
  | .statementTimeoutMs, source =>
    (Text.readBelow UInt64.size source).toOption.map fun ms => some (.ofNat ms)

theorem converted?_text {field : ConfigField} {source : String} {value : field.Kind}
    (other : field ≠ .version) (read : field.read? source = some value) :
    field.converted? (.text source) = some value := by
  cases field with
  | databaseUrl => exact read
  | version => exact absurd rfl other
  | maxConnections =>
    obtain ⟨n, found, rfl⟩ := Option.map_eq_some_iff.mp read
    have read32 := toOption_eq_some_iff.mp found
    have read64 := Text.readBelow_mono (by decide : UInt32.size ≤ UInt64.size) read32
    have small := Text.readBelow_lt (by decide) read32
    simp only [converted?, convert, ConfigValue.toUInt32,
      ConfigValue.toWord_text_of_readBelow read64]
    simp [bind, Except.bind, small, Except.toOption]
  | statementTimeoutMs =>
    obtain ⟨n, found, rfl⟩ := Option.map_eq_some_iff.mp read
    have read64 := toOption_eq_some_iff.mp found
    simp only [converted?, convert, ConfigValue.nullable, ConfigValue.toUInt64,
      ConfigValue.toWord_text_of_readBelow read64]
    rfl
  | environment => exact read

theorem read?_of_converted?_version {source : String} {value : Option Version}
    (converted : ConfigField.version.converted? (.text source) = some value) :
    ConfigField.version.read? source = some value := by
  obtain ⟨version, found, rfl⟩ := map_eq_ok_iff.mp (toOption_eq_some_iff.mp converted)
  simp only [ConfigValue.toVersion, ConfigValue.versionNamed] at found
  split at found
  · next version' named =>
    cases found
    simp only [read?, Version.parse?_of_ofName?_toLower named, Option.map_some]
  · cases found

theorem converted?_version_of_named {source : String} (named : source = "9.6" ∨ source = "13") :
    ConfigField.version.converted? (.text source) = ConfigField.version.read? source := by
  rcases named with rfl | rfl <;> decide +kernel

theorem read?_eq_of_converted? {field : ConfigField} {source : String} {value value' : field.Kind}
    (read : field.read? source = some value)
    (converted : field.converted? (.text source) = some value') : value' = value := by
  by_cases version : field = .version
  · subst version
    exact Option.some.inj ((read?_of_converted?_version converted).symm.trans read)
  · exact Option.some.inj (converted.symm.trans (converted?_text version read))

end ConfigField

namespace Config

theorem get_of_withText {config after : Config} {field : ConfigField} {source : String}
    (read : config.withText field source = .ok after) :
    field.read? source = some (after.get field) ∧
      ∀ other, other ≠ field → after.get other = config.get other := by
  cases field with
  | databaseUrl =>
    cases read
    exact ⟨rfl, fun other different => by cases other <;> first | rfl | contradiction⟩
  | version =>
    obtain ⟨version, found, rfl⟩ := map_eq_ok_iff.mp read
    refine ⟨?_, fun other different => by cases other <;> first | rfl | contradiction⟩
    unfold Version.read at found
    split at found
    · next named =>
      cases found
      simp only [ConfigField.read?, named, Option.map_some, get]
    · cases found
  | maxConnections =>
    obtain ⟨n, found, rfl⟩ := map_eq_ok_iff.mp read
    refine ⟨?_, fun other different => by cases other <;> first | rfl | contradiction⟩
    simp only [ConfigField.read?, mapError_eq_ok_iff.mp found, Except.toOption, Option.map_some,
      get]
  | statementTimeoutMs =>
    obtain ⟨n, found, rfl⟩ := map_eq_ok_iff.mp read
    refine ⟨?_, fun other different => by cases other <;> first | rfl | contradiction⟩
    simp only [ConfigField.read?, mapError_eq_ok_iff.mp found, Except.toOption, Option.map_some,
      get]
  | environment =>
    cases read
    exact ⟨rfl, fun other different => by cases other <;> first | rfl | contradiction⟩

theorem get_of_withTexts {texts : ConfigField → Option String} {fields : List ConfigField}
    {config after : Config} (distinct : fields.Nodup)
    (read : withTexts texts config fields = .ok after) :
    (∀ field ∈ fields, (texts field).elim (some (config.get field)) field.read? =
      some (after.get field)) ∧
      ∀ field, field ∉ fields → after.get field = config.get field := by
  induction fields generalizing config with
  | nil =>
    cases read
    exact ⟨nofun, fun _ _ => rfl⟩
  | cons head rest ih =>
    obtain ⟨fresh, distinct⟩ := List.nodup_cons.mp distinct
    unfold withTexts at read
    split at read
    · next source set =>
      obtain ⟨middle, first, rest⟩ := bind_eq_ok_iff.mp read
      obtain ⟨own, others⟩ := get_of_withText first
      obtain ⟨inside, outside⟩ := ih distinct rest
      refine ⟨fun field member => ?_, fun field absent => ?_⟩
      · rcases List.mem_cons.mp member with rfl | member
        · rw [set, outside field fresh]
          exact own
        · have different : field ≠ head := fun same => fresh (same ▸ member)
          rw [← others field different]
          exact inside field member
      · rw [List.mem_cons, not_or] at absent
        rw [outside field absent.2, others field absent.1]
    · next unset =>
      obtain ⟨inside, outside⟩ := ih distinct read
      refine ⟨fun field member => ?_, fun field absent => ?_⟩
      · rcases List.mem_cons.mp member with rfl | member
        · rw [unset, outside field fresh]
          rfl
        · exact inside field member
      · exact outside field fun member => absent (List.mem_cons_of_mem _ member)

theorem get_of_ofEnvironment {environment : Environment} {config : Config}
    (read : ofEnvironment environment = .ok config) (field : ConfigField) :
    (environment.override field).elim (some (({} : Config).get field)) field.read? =
      some (config.get field) :=
  (get_of_withTexts (by decide) read).1 field (by cases field <;> decide)

theorem load_none_eq_ok_iff {environment : Environment} {config : Config} :
    load none environment = .ok config ↔
      (∀ field, config.Holds field ((environment.override field).map .text)) ∧
      config.validated = .ok config := by
  simp only [load_eq_ok_iff, ConfigField.winning?, override_eq]
  constructor
  · intro loaded
    obtain ⟨settings, read, holds, valid⟩ := loaded
    cases read
    refine ⟨fun field => ?_, valid⟩
    have := holds field
    rwa [ConfigValue.lookup?, List.find?_nil, Option.map_none, Option.or_none] at this
  · intro loaded
    obtain ⟨holds, valid⟩ := loaded
    refine ⟨[], rfl, fun field => ?_, valid⟩
    rw [ConfigValue.lookup?, List.find?_nil, Option.map_none, Option.or_none]
    exact holds field

/-- A configuration that is read from the environment by itself is the only one that can be loaded
    from it; and if it is valid and its version is unset or written as it is named, it is loaded. -/
theorem load_of_ofEnvironment {environment : Environment} {config : Config}
    (read : ofEnvironment environment = .ok config) :
    (∀ loaded, load none environment = .ok loaded → loaded = config) ∧
      (config.validated = .ok config →
        (environment .version = none ∨ environment .version = some "9.6" ∨
          environment .version = some "13") →
        load none environment = .ok config) := by
  refine ⟨fun loaded success => ext_get fun field => ?_, fun valid named => ?_⟩
  · have own := get_of_ofEnvironment read field
    have layered := (load_none_eq_ok_iff.mp success).1 field
    unfold Holds at layered
    cases set : environment.override field with
    | none =>
      rw [set] at own layered
      exact Option.some.inj (layered.symm.trans own)
    | some source =>
      rw [set] at own layered
      exact ConfigField.read?_eq_of_converted? own layered
  · refine load_none_eq_ok_iff.mpr ⟨fun field => ?_, valid⟩
    have own := get_of_ofEnvironment read field
    unfold Holds
    cases set : environment.override field with
    | none =>
      rw [set] at own
      exact own
    | some source =>
      simp only [set, Option.map_some, Option.elim_some] at own ⊢
      by_cases version : field = .version
      · subst version
        have written : source = "9.6" ∨ source = "13" := by
          simpa [(show environment .version = some source from set)] using named
        exact (ConfigField.converted?_version_of_named written).trans own
      · exact ConfigField.converted?_text version own

def writtenOut : Environment
  | .commonDatabaseUrl => some "postgresql://monitor@db/postgres"
  | .version => some "9.6"
  | .maxConnections => some "+0004294967295"
  | .statementTimeoutMs => some "018446744073709551615"
  | _ => none

theorem writtenOut_load :
    ∃ config, ofEnvironment writtenOut = .ok config ∧ config.validated = .ok config ∧
      writtenOut .version = some "9.6" ∧ load none writtenOut = .ok config ∧
      ∀ loaded, load none writtenOut = .ok loaded → loaded = config := by
  have read : ofEnvironment writtenOut = .ok {
      databaseUrl := "postgresql://monitor@db/postgres", version := some .postgres9,
      maxConnections := 4294967295, statementTimeoutMs := some 18446744073709551615 } := by
    rw [← toOption_eq_some_iff]
    decide +kernel
  have both := load_of_ofEnvironment read
  exact ⟨_, read, rfl, rfl, both.2 rfl (.inr (.inl rfl)), both.1⟩

end Config

end StatTree
