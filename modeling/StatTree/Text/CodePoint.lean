namespace StatTree.Text

def hexDigit? (c : Char) : Option Nat :=
  if c.isDigit then some (c.toNat - '0'.toNat)
  else if 'a' ≤ c ∧ c ≤ 'f' then some (c.toNat - 'a'.toNat + 10)
  else if 'A' ≤ c ∧ c ≤ 'F' then some (c.toNat - 'A'.toNat + 10)
  else none

def hexValue? (digits : List Char) : Option Nat :=
  (digits.mapM hexDigit?).map (·.foldl (fun value digit => 16 * value + digit) 0)

def character? (code : Nat) : Option Char :=
  if code < 0xd800 ∨ (0xe000 ≤ code ∧ code < 0x110000) then some (Char.ofNat code) else none

def coded? (digits : List Char) : Option Char := (hexValue? digits).bind character?

theorem character?_toNat (c : Char) : character? c.toNat = some c := by
  have h := c.valid
  simp only [UInt32.isValidChar, Nat.isValidChar] at h
  simp only [character?, Char.ofNat_toNat]
  rw [if_pos]
  simp only [Char.toNat]
  omega

end StatTree.Text
