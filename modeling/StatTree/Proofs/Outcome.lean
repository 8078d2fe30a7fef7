namespace StatTree

variable {ε δ α β : Type}

theorem bind_eq_ok_iff {first : Except ε α} {next : α → Except ε β} {result : β} :
    first >>= next = .ok result ↔ ∃ value, first = .ok value ∧ next value = .ok result := by
  cases first <;> simp [bind, Except.bind]

theorem bind_eq_error_iff {first : Except ε α} {next : α → Except ε β} {cause : ε} :
    first >>= next = .error cause ↔
      first = .error cause ∨ ∃ value, first = .ok value ∧ next value = .error cause := by
  cases first <;> simp [bind, Except.bind]

theorem map_eq_ok_iff {first : Except ε α} {f : α → β} {result : β} :
    first.map f = .ok result ↔ ∃ value, first = .ok value ∧ f value = result := by
  cases first <;> simp [Except.map]

theorem map_eq_error_iff {first : Except ε α} {f : α → β} {cause : ε} :
    first.map f = .error cause ↔ first = .error cause := by
  cases first <;> simp [Except.map]

theorem mapError_eq_ok_iff {first : Except ε α} {f : ε → δ} {result : α} :
    first.mapError f = .ok result ↔ first = .ok result := by
  cases first with
  | error cause =>
    constructor <;> intro same <;> cases same
  | ok value =>
    constructor <;> intro same <;> cases same <;> rfl

theorem mapError_eq_error_iff {first : Except ε α} {f : ε → δ} {cause : δ} :
    first.mapError f = .error cause ↔ ∃ inner, first = .error inner ∧ f inner = cause := by
  cases first with
  | error inner =>
    constructor
    · intro same
      cases same
      exact ⟨inner, rfl, rfl⟩
    · intro read
      obtain ⟨_, ⟨⟩, rfl⟩ := read
      rfl
  | ok value =>
    constructor
    · intro same
      cases same
    · intro read
      obtain ⟨_, ⟨⟩, _⟩ := read

theorem map_mapError (first : Except ε α) (f : α → β) (g : ε → δ) :
    (first.map f).mapError g = (first.mapError g).map f := by
  cases first <;> rfl

theorem toOption_eq_some_iff {result : Except ε α} {value : α} :
    result.toOption = some value ↔ result = .ok value := by
  cases result <;> simp [Except.toOption]

end StatTree
