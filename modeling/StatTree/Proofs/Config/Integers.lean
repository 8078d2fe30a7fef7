import StatTree.Proofs.Config.Literals

namespace StatTree

open Text (WritesInteger)

namespace ConfigValue

/-- The value is an integer in decimal: its text, or what a format reads it as. An integer that a
    format has kept is one in any notation. -/
inductive Writes (n : Int) : ConfigValue → Prop
  | text {source : String} : WritesInteger source.toList n → Writes n (.text source)
  | whole : fitsSigned64 n = true → Writes n (.integer n)
  | number {literal rest : List Char} {value : ConfigValue} (format : FileFormat) :
    WritesInteger literal n → endsNumber rest = true →
    format.readNumber? literal rest = some value → Writes n value

def real? : ConfigValue → Option Binary64
  | .real value => some value
  | _ => none

theorem eq_some_real_of_bind {value : Binary64} {found : Option ConfigValue}
    (read : found.bind real? = some value) : found = some (.real value) := by
  obtain ⟨winner, rfl, same⟩ := Option.bind_eq_some_iff.mp read
  cases winner <;> cases same
  rfl

def isText : ConfigValue → Bool
  | .text _ => true
  | _ => false

section

variable {n : Int} {word : Nat} {value : ConfigValue} {place : Place}

theorem Writes.cases (writes : Writes n value) :
    (∃ source, value = .text source ∧ WritesInteger source.toList n) ∨
      (value.isText = false ∧ value.Reads n) := by
  cases writes with
  | text written => exact .inl ⟨_, rfl, written⟩
  | whole fits => exact .inr ⟨rfl, .whole fits⟩
  | number format written ends read =>
    have reads := format.reads_number written ends read
    refine .inr ⟨?_, reads⟩
    cases reads <;> rfl

theorem readBelow_of_toWord {source : String} (written : WritesInteger source.toList n)
    (found : (text source).toWord place = .ok word) :
    Text.readBelow UInt64.size source = .ok word := by
  simp only [toWord, wordValue?_of_numeric written.numeric] at found
  exact mapError_eq_ok_iff.mp found

theorem eq_of_toWord (writes : Writes n value)
    (plain : fitsSigned64 n = true ∨ value.isText = true)
    (found : value.toWord place = .ok word) : (word : Int) = n := by
  rcases writes.cases with ⟨source, rfl, written⟩ | ⟨no_text, reads⟩
  · exact Text.eq_of_readBelow written (readBelow_of_toWord written found)
  · have fits := plain.resolve_right (by rw [no_text]; exact Bool.false_ne_true)
    cases reads with
    | whole =>
      simp only [toWord] at found
      split at found
      · next natural =>
        cases found
        exact Int.toNat_of_nonneg natural
      · cases found
    | rounded zero nearest =>
      cases found
      rw [nearest, zero fits]
      decide

theorem toWord_of_wide (writes : Writes n value) (wide : fitsSigned64 n = false)
    (no_text : value.isText = false) (place : Place) :
    value.toWord place = .ok (Binary64.nearestWord n) := by
  rcases writes.cases with ⟨source, rfl, -⟩ | ⟨-, reads⟩
  · cases no_text
  · cases reads with
    | whole fits =>
      rw [fits] at wide
      cases wide
    | rounded zero nearest => exact congrArg Except.ok nearest

theorem toWord_lt (writes : Writes n value) (found : value.toWord place = .ok word) :
    word < UInt64.size := by
  have size : UInt64.size = 18446744073709551616 := rfl
  by_cases plain : fitsSigned64 n = true ∨ value.isText = true
  · rcases writes.cases with ⟨source, rfl, written⟩ | ⟨no_text, -⟩
    · exact Text.readBelow_lt (by decide) (readBelow_of_toWord written found)
    · have same := eq_of_toWord writes plain found
      have fits := plain.resolve_right (by rw [no_text]; exact Bool.false_ne_true)
      rw [fitsSigned64_iff] at fits
      omega
  · rw [not_or, Bool.not_eq_true, Bool.not_eq_true] at plain
    rw [toWord_of_wide writes plain.1 plain.2] at found
    cases found
    unfold Binary64.nearestWord
    omega

theorem nullable_of_writes {α : Type} (writes : Writes n value)
    (convert : ConfigValue → Except ConfigFault α) :
    nullable convert value = (convert value).map some := by
  rcases writes.cases with ⟨source, rfl, -⟩ | ⟨-, reads⟩
  · rfl
  · cases reads <;> rfl

end

end ConfigValue

namespace ConfigField

def size : ConfigField → Nat
  | .maxConnections => UInt32.size
  | .statementTimeoutMs => UInt64.size
  | _ => 0

def number? : (field : ConfigField) → field.Kind → Option Int
  | .maxConnections, count => some count.toNat
  | .statementTimeoutMs, ms => ms.map fun ms => ms.toNat
  | _, _ => none

theorem number?_of_converted? {field : ConfigField} {value : ConfigValue} {n : Int}
    {result : field.Kind} (numeric : field = .maxConnections ∨ field = .statementTimeoutMs)
    (writes : value.Writes n) (converted : field.converted? value = some result) :
    ∃ word : Nat, value.toWord ⟨field.key, none⟩ = .ok word ∧ word < field.size ∧
      field.number? result = some (word : Int) := by
  have found := toOption_eq_some_iff.mp converted
  rcases numeric with rfl | rfl
  · simp only [convert, ConfigValue.toUInt32] at found
    obtain ⟨word, read, found⟩ := bind_eq_ok_iff.mp found
    split at found
    · next fits =>
      cases found
      refine ⟨word, read, fits, ?_⟩
      simp only [number?, UInt32.toNat_ofNat_of_lt' fits]
    · cases found
  · simp only [convert, ConfigValue.nullable_of_writes writes, ConfigValue.toUInt64] at found
    obtain ⟨ms, some_ms, same⟩ := map_eq_ok_iff.mp found
    cases same
    obtain ⟨word, read, rfl⟩ := map_eq_ok_iff.mp some_ms
    have fits := ConfigValue.toWord_lt writes read
    refine ⟨word, read, fits, ?_⟩
    simp only [number?, Option.map_some, UInt64.toNat_ofNat_of_lt' fits]

end ConfigField

namespace Binary64

theorem nearestWord_of_wide {n : Int} (wide : fitsSigned64 n = false) :
    nearestWord n = 0 ∨ UInt32.size ≤ nearestWord n := by
  have size : UInt64.size = 18446744073709551616 := rfl
  have size32 : UInt32.size = 4294967296 := rfl
  have nearest := nearest_roundHalfEven n.toNat (show 0 < 2048 by decide)
  have low := nearest.low
  have high := nearest.high
  rw [← Bool.not_eq_true, fitsSigned64_iff] at wide
  unfold nearestWord
  rw [size, size32]
  omega

end Binary64

namespace Config

section

variable {file : Option ConfigFile} {environment : Environment} {config : Config}
  {settings : List (String × ConfigValue)} {field : ConfigField} {value : ConfigValue} {n : Int}

theorem number?_of_load (read : fileSettings file = .ok settings)
    (wins : field.winning? environment settings = some value) (writes : value.Writes n)
    (numeric : field = .maxConnections ∨ field = .statementTimeoutMs)
    (loaded : load file environment = .ok config) :
    ∃ word : Nat, value.toWord ⟨field.key, none⟩ = .ok word ∧ word < field.size ∧
      field.number? (config.get field) = some (word : Int) := by
  obtain ⟨settings', read', holds, -⟩ := load_eq_ok_iff.mp loaded
  obtain rfl : settings' = settings := Except.ok.inj (read'.symm.trans read)
  have held := holds field
  rw [wins] at held
  exact ConfigField.number?_of_converted? numeric writes held

theorem connected_of_load (loaded : load file environment = .ok config) :
    config.maxConnections ≠ 0 := by
  obtain ⟨-, -, -, valid⟩ := load_eq_ok_iff.mp loaded
  intro none
  unfold validated at valid
  rw [if_pos none] at valid
  split at valid <;> cases valid

theorem fits_of_load_connections (read : fileSettings file = .ok settings)
    (wins : ConfigField.maxConnections.winning? environment settings = some value)
    (writes : value.Writes n) (loaded : load file environment = .ok config) :
    fitsSigned64 n = true ∨ value.isText = true := by
  by_contra lost
  obtain ⟨wide, no_text⟩ := not_or.mp lost
  rw [Bool.not_eq_true] at wide no_text
  obtain ⟨word, found, fits, holds⟩ := number?_of_load read wins writes (.inl rfl) loaded
  rw [ConfigValue.toWord_of_wide writes wide no_text] at found
  cases found
  rcases Binary64.nearestWord_of_wide wide with none | many
  · rw [none] at holds
    have zero : config.maxConnections.toNat = 0 := by
      simpa [ConfigField.number?, get] using holds
    exact connected_of_load loaded (UInt32.toNat_inj.mp zero)
  · exact absurd fits (Nat.not_lt_of_le many)

theorem word_of_load (read : fileSettings file = .ok settings)
    (wins : field.winning? environment settings = some value) (writes : value.Writes n)
    (numeric : field = .maxConnections ∨ field = .statementTimeoutMs)
    (plain : value.isText = true ∨ fitsSigned64 n = true ∨ field = .maxConnections)
    (loaded : load file environment = .ok config) :
    ∃ word : Nat, (word : Int) = n ∧ word < field.size ∧
      field.number? (config.get field) = some n := by
  have kept : fitsSigned64 n = true ∨ value.isText = true := by
    rcases plain with text | fits | rfl
    · exact .inr text
    · exact .inl fits
    · exact fits_of_load_connections read wins writes loaded
  obtain ⟨word, found, fits, holds⟩ := number?_of_load read wins writes numeric loaded
  have same := ConfigValue.eq_of_toWord writes kept found
  rw [same] at holds
  exact ⟨word, same, fits, holds⟩

/-- An integer that is given as a text, fits 64 bits with its sign or counts connections is loaded
    as it is or refused. Any other number that a file has for the time limit is loaded as the
    nearest word, which is seldom the integer itself. -/
theorem load_of_integer (read : fileSettings file = .ok settings)
    (wins : field.winning? environment settings = some value) (writes : value.Writes n)
    (numeric : field = .maxConnections ∨ field = .statementTimeoutMs) :
    (value.isText = true ∨ fitsSigned64 n = true ∨ field = .maxConnections →
      (∀ config, load file environment = .ok config → field.number? (config.get field) = some n) ∧
      (¬ (0 ≤ n ∧ n < field.size) → ∃ fault, load file environment = .error fault)) ∧
    (value.isText = false → fitsSigned64 n = false → field = .statementTimeoutMs →
      (field.converted? value).bind field.number? = some (Binary64.nearestWord n : Int) ∧
      (∀ config, load file environment = .ok config →
        field.number? (config.get field) = some (Binary64.nearestWord n : Int)) ∧
      (Binary64.nearestWord n = n ↔
        0 ≤ n ∧ n < UInt64.size ∧ (2048 ∣ n ∨ n = UInt64.size - 1))) := by
  refine ⟨fun plain => ⟨fun config loaded => ?_, fun beyond => ?_⟩, fun no_text wide timeout => ?_⟩
  · obtain ⟨-, -, -, holds⟩ := word_of_load read wins writes numeric plain loaded
    exact holds
  · cases result : load file environment with
    | error fault => exact ⟨fault, rfl⟩
    | ok config =>
      obtain ⟨word, same, fits, -⟩ := word_of_load read wins writes numeric plain result
      exact absurd ⟨by omega, by omega⟩ beyond
  · subst timeout
    have word := ConfigValue.toWord_of_wide writes wide no_text
    have fits := ConfigValue.toWord_lt writes (word ⟨"", none⟩)
    refine ⟨?_, fun config loaded => ?_, Binary64.nearestWord_eq_iff⟩
    · simp only [ConfigField.converted?, ConfigField.convert,
        ConfigValue.nullable_of_writes writes, ConfigValue.toUInt64, word, Except.map,
        Except.toOption, Option.bind_some, ConfigField.number?, Option.map_some,
        UInt64.toNat_ofNat_of_lt' fits]
    · obtain ⟨word', found, -, holds⟩ := number?_of_load read wins writes (.inr rfl) loaded
      rw [word] at found
      cases found
      exact holds

end

theorem exists_winner {file : Option ConfigFile} {environment : Environment} {field : ConfigField}
    {value : Binary64} (read : ((fileSettings file).toOption.bind
      (field.winning? environment)).bind ConfigValue.real? = some value) :
    ∃ settings, fileSettings file = .ok settings ∧
      field.winning? environment settings = some (.real value) := by
  obtain ⟨settings, kept, wins⟩ :=
    Option.bind_eq_some_iff.mp (ConfigValue.eq_some_real_of_bind read)
  exact ⟨settings, toOption_eq_some_iff.mp kept, wins⟩

def sevenConnections : Environment
  | .maxConnections => some "+007"
  | _ => none

def oddLimit : ConfigFile :=
  ⟨"cfg.json", some "\x7b\"statement_timeout_ms\": 9223372036854775809\x7d"⟩

theorem oddLimit_load :
    ∃ config, load (some oddLimit) sevenConnections = .ok config ∧
      ConfigField.maxConnections.number? config.maxConnections = some 7 ∧
      ConfigField.statementTimeoutMs.number? config.statementTimeoutMs =
        some 9223372036854775808 := by
  have read : ((fileSettings (some oddLimit)).toOption.bind
      (ConfigField.statementTimeoutMs.winning? sevenConnections)).bind
        ConfigValue.real? = some (.finite false 4503599627370496 1085) := by
    decide +kernel
  have loaded : (load (some oddLimit) sevenConnections).toOption =
      some { maxConnections := 7, statementTimeoutMs := some 9223372036854775808 } := by
    decide +kernel
  have number : (FileFormat.json.readNumber? "9223372036854775809".toList ['\x7d']).bind
      ConfigValue.real? = some (.finite false 4503599627370496 1085) := by
    decide +kernel
  obtain ⟨settings, kept, wins⟩ := exists_winner read
  have success := toOption_eq_some_iff.mp loaded
  have limit : WritesInteger "9223372036854775809".toList 9223372036854775809 :=
    .unsigned (.of_all (by decide))
  have count : WritesInteger "+007".toList 7 := .plus (.of_all (by decide))
  have winsCount : ConfigField.maxConnections.winning? sevenConnections settings =
      some (.text "+007") := rfl
  have connections := load_of_integer kept winsCount (.text count) (.inl rfl)
  have timeout := load_of_integer kept wins
    (.number .json limit rfl (ConfigValue.eq_some_real_of_bind number)) (.inr rfl)
  refine ⟨_, success, (connections.1 (.inl rfl)).1 _ success, ?_⟩
  exact (timeout.2 rfl (by decide) rfl).2.1 _ success

def beyondLimit : ConfigFile :=
  ⟨"cfg.json", some "\x7b\"statement_timeout_ms\": 18446744073709551616\x7d"⟩

theorem beyondLimit_load :
    ∃ settings value config, fileSettings (some beyondLimit) = .ok settings ∧
      ConfigField.statementTimeoutMs.winning? (fun _ => none) settings = some value ∧
      value.Writes 18446744073709551616 ∧
      load (some beyondLimit) (fun _ => none) = .ok config ∧
      config.statementTimeoutMs = some 18446744073709551615 := by
  have read : ((fileSettings (some beyondLimit)).toOption.bind
      (ConfigField.statementTimeoutMs.winning? fun _ => none)).bind ConfigValue.real? =
        some (.finite false 4503599627370496 1086) := by
    decide +kernel
  have loaded : (load (some beyondLimit) fun _ => none).toOption =
      some { statementTimeoutMs := some 18446744073709551615 } := by
    decide +kernel
  have number : (FileFormat.json.readNumber? "18446744073709551616".toList ['\x7d']).bind
      ConfigValue.real? = some (.finite false 4503599627370496 1086) := by
    decide +kernel
  obtain ⟨settings, kept, wins⟩ := exists_winner read
  have limit : WritesInteger "18446744073709551616".toList 18446744073709551616 :=
    .unsigned (.of_all (by decide))
  exact ⟨settings, _, _, kept, wins,
    .number .json limit rfl (ConfigValue.eq_some_real_of_bind number),
    toOption_eq_some_iff.mp loaded, rfl⟩

end Config

end StatTree
