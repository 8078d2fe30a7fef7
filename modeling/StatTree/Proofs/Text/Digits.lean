import StatTree.Text.Digits

namespace StatTree.Text

variable {bound bound' value n : Nat}

theorem readDigits_mono (le : bound ≤ bound') {digits : List Char}
    (read : readDigits bound value digits = .ok n) : readDigits bound' value digits = .ok n := by
  induction digits generalizing value with
  | nil => exact read
  | cons c rest ih =>
    unfold readDigits at read ⊢
    dsimp only at read ⊢
    split at read
    · next digit =>
      split at read
      · next fits =>
        rw [if_pos digit, if_pos (by omega)]
        exact ih read
      · cases read
    · cases read

theorem readDigits_lt (start : value < bound) {digits : List Char}
    (read : readDigits bound value digits = .ok n) : n < bound := by
  induction digits generalizing value with
  | nil =>
    cases read
    exact start
  | cons c rest ih =>
    unfold readDigits at read
    dsimp only at read
    split at read
    · split at read
      · next fits => exact ih fits read
      · cases read
    · cases read

theorem isDigit_of_readDigits {digits : List Char} (read : readDigits bound value digits = .ok n) :
    ∀ c ∈ digits, c.isDigit = true := by
  induction digits generalizing value with
  | nil => simp
  | cons c rest ih =>
    unfold readDigits at read
    dsimp only at read
    split at read
    · next digit =>
      split at read
      · simpa [digit] using ih read
      · cases read
    · cases read

theorem exists_digits_of_readBelow {text : String} (read : readBelow bound text = .ok n) :
    ∃ digits, (∀ c ∈ text.toList, c = '+' ∨ c ∈ digits) ∧
      ∀ bound' : Nat, readBelow bound' text = readDigits bound' 0 digits := by
  unfold readBelow at read ⊢
  generalize text.toList = chars at read ⊢
  cases chars with
  | nil => cases read
  | cons c rest =>
    by_cases plus : c = '+'
    · subst plus
      cases rest with
      | nil => cases read
      | cons d rest => exact ⟨d :: rest, by simp, fun _ => rfl⟩
    · exact ⟨c :: rest, fun _ member => .inr member, by simp [plus]⟩

theorem readBelow_mono (le : bound ≤ bound') {text : String} (read : readBelow bound text = .ok n) :
    readBelow bound' text = .ok n := by
  obtain ⟨digits, _, same⟩ := exists_digits_of_readBelow read
  rw [same] at read ⊢
  exact readDigits_mono le read

theorem readBelow_lt (positive : 0 < bound) {text : String} (read : readBelow bound text = .ok n) :
    n < bound := by
  obtain ⟨digits, _, same⟩ := exists_digits_of_readBelow read
  rw [same] at read
  exact readDigits_lt positive read

theorem isDigit_or_plus_of_readBelow {text : String} (read : readBelow bound text = .ok n) :
    ∀ c ∈ text.toList, c.isDigit = true ∨ c = '+' := by
  obtain ⟨digits, inDigits, same⟩ := exists_digits_of_readBelow read
  rw [same] at read
  intro c member
  rcases inDigits c member with plus | member
  · exact .inr plus
  · exact .inl (isDigit_of_readDigits read c member)

end StatTree.Text
