import StatTree.Text.CodePoint
import StatTree.Text.Quoted

namespace StatTree.Text

theorem hexDigit?_digitChar {digit : Nat} (h : digit < 16) :
    hexDigit? digit.digitChar = some digit := by
  have all : ∀ digit < 16, hexDigit? (Nat.digitChar digit) = some digit := by decide
  exact all digit h

theorem mapM_hexDigit?_append {front back : List Char} {high low : List Nat}
    (hf : front.mapM hexDigit? = some high) (hb : back.mapM hexDigit? = some low) :
    (front ++ back).mapM hexDigit? = some (high ++ low) := by
  rw [List.mapM_append, hf, hb]
  rfl

theorem hexValue?_hexDigits (n : Nat) : hexValue? (hexDigits n) = some n := by
  have read : ∃ digits, (hexDigits n).mapM hexDigit? = some digits ∧
      digits.foldl (fun value digit => 16 * value + digit) 0 = n := by
    induction n using Nat.base_induction 16 (by decide) with
    | single digit small =>
      refine ⟨[digit], ?_, by simp⟩
      rw [hexDigits, Nat.toDigits_of_lt_base small, List.mapM_cons, hexDigit?_digitChar small]
      rfl
    | digit front digit small positive ih =>
      obtain ⟨digits, hd, value⟩ := ih
      have last : (Nat.toDigits 16 digit).mapM hexDigit? = some [digit] := by
        rw [Nat.toDigits_of_lt_base small, List.mapM_cons, hexDigit?_digitChar small]
        rfl
      refine ⟨digits ++ [digit], ?_, ?_⟩
      · rw [hexDigits, ← Nat.toDigits_append_toDigits (by decide) positive small]
        exact mapM_hexDigit?_append hd last
      · rw [List.foldl_append, value]
        rfl
  obtain ⟨digits, hd, value⟩ := read
  rw [hexValue?, hd, Option.map_some, value]

theorem coded?_hexDigits (c : Char) : coded? (hexDigits c.toNat) = some c := by
  rw [coded?, hexValue?_hexDigits, Option.bind_some, character?_toNat]

theorem brace_notMem_hexDigits (n : Nat) : '\x7d' ∉ hexDigits n := by
  intro member
  have value := hexValue?_hexDigits n
  obtain ⟨front, back, split⟩ := List.append_of_mem member
  have brace : hexDigit? '\x7d' = none := by decide
  rw [hexValue?, split, List.mapM_append, List.mapM_cons, brace] at value
  cases hf : front.mapM hexDigit? <;> simp [hf] at value

def unquotedChar? : List Char → Option (Char × List Char)
  | '\\' :: '"' :: rest => some ('"', rest)
  | '\\' :: '\\' :: rest => some ('\\', rest)
  | '\\' :: 't' :: rest => some ('\t', rest)
  | '\\' :: 'n' :: rest => some ('\n', rest)
  | '\\' :: 'r' :: rest => some ('\r', rest)
  | '\\' :: '0' :: rest => some ('\x00', rest)
  | '\\' :: 'u' :: '\x7b' :: rest =>
    (coded? (rest.takeWhile (· != '\x7d'))).map fun c => (c, (rest.dropWhile (· != '\x7d')).tail)
  | '\\' :: _ => none
  | '"' :: _ => none
  | c :: rest => some (c, rest)
  | [] => none

theorem unquotedChar?_code (c : Char) (rest : List Char) :
    unquotedChar? ('\\' :: 'u' :: '\x7b' :: (hexDigits c.toNat ++ '\x7d' :: rest)) =
      some (c, rest) := by
  have digits : ∀ x ∈ hexDigits c.toNat, (x != '\x7d') = true := by
    intro x member
    rw [bne_iff_ne]
    rintro rfl
    exact brace_notMem_hexDigits _ member
  simp only [unquotedChar?]
  rw [List.takeWhile_append_of_pos digits, List.dropWhile_append_of_pos digits]
  simp [coded?_hexDigits]

theorem unquotedChar?_quotedChar (c : Char) (rest : List Char) :
    unquotedChar? (quotedChar c ++ rest) = some (c, rest) := by
  unfold quotedChar
  split
  · subst c; rfl
  split
  · subst c; rfl
  split
  · subst c; rfl
  split
  · subst c; rfl
  split
  · subst c; rfl
  split
  · subst c; rfl
  split
  · simpa using unquotedChar?_code c rest
  · rename_i quote backslash _ _ _ _ _
    rw [List.singleton_append, unquotedChar?.eq_def]
    split <;> simp_all

theorem quotedChar_append_injective {c d : Char} {left right : List Char}
    (same : quotedChar c ++ left = quotedChar d ++ right) : c = d ∧ left = right := by
  have read := congrArg unquotedChar? same
  rw [unquotedChar?_quotedChar, unquotedChar?_quotedChar] at read
  exact Prod.mk.inj (Option.some.inj read)

theorem quotedChar_append_ne_quote (c : Char) (left right : List Char) :
    quotedChar c ++ left ≠ '"' :: right := by
  intro same
  have read := congrArg unquotedChar? same
  rw [unquotedChar?_quotedChar] at read
  simp [unquotedChar?] at read

/-- The closing quote is found: two runs of quoted characters up to one agree. -/
theorem quotedChars_append_injective {cs ds left right : List Char}
    (same : cs.flatMap quotedChar ++ '"' :: left = ds.flatMap quotedChar ++ '"' :: right) :
    cs = ds ∧ left = right := by
  induction cs generalizing ds with
  | nil =>
    cases ds with
    | nil => exact ⟨rfl, (List.cons.inj same).2⟩
    | cons d ds =>
      rw [List.flatMap_cons, List.append_assoc] at same
      exact absurd same.symm (quotedChar_append_ne_quote d _ _)
  | cons c cs ih =>
    cases ds with
    | nil =>
      rw [List.flatMap_cons, List.append_assoc] at same
      exact absurd same (quotedChar_append_ne_quote c _ _)
    | cons d ds =>
      rw [List.flatMap_cons, List.flatMap_cons, List.append_assoc, List.append_assoc] at same
      obtain ⟨head, tails⟩ := quotedChar_append_injective same
      obtain ⟨tail, rest⟩ := ih tails
      exact ⟨by rw [head, tail], rest⟩

theorem quoted_append_injective {a b : String} {left right : List Char}
    (same : (quoted a).toList ++ left = (quoted b).toList ++ right) : a = b ∧ left = right := by
  simp only [toList_quoted, List.cons_append, List.append_assoc, List.nil_append] at same
  obtain ⟨chars, rest⟩ := quotedChars_append_injective (List.cons.inj same).2
  exact ⟨String.toList_inj.mp chars, rest⟩

end StatTree.Text
