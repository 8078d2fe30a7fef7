import StatTree.Number.Decimal
import StatTree.Proofs.Text.Digits
import StatTree.Text.CodePoint

namespace StatTree.Text

theorem takeWhile_append_of_stop {α : Type} {p : α → Bool} {taken rest : List α}
    (all : ∀ a ∈ taken, p a = true) (stop : rest.head?.any p = false) :
    (taken ++ rest).takeWhile p = taken := by
  rw [List.takeWhile_append_of_pos all]
  cases rest with
  | nil => simp
  | cons a rest =>
    have stops : p a = false := by simpa using stop
    simp [stops]

theorem dropWhile_append_of_stop {α : Type} {p : α → Bool} {taken rest : List α}
    (all : ∀ a ∈ taken, p a = true) (stop : rest.head?.any p = false) :
    (taken ++ rest).dropWhile p = rest := by
  have split := List.takeWhile_append_dropWhile (p := p) (l := taken ++ rest)
  rw [takeWhile_append_of_stop all stop] at split
  exact List.append_cancel_left split

theorem ne_of_mem_takeWhile {mark c : Char} {chars : List Char}
    (member : c ∈ chars.takeWhile (· != mark)) : c ≠ mark :=
  bne_iff_ne.mp (List.all_eq_true.mp List.all_takeWhile c member)

theorem eq_takeWhile_append_of_dropWhile {mark c : Char} {chars rest : List Char}
    (cut : chars.dropWhile (· != mark) = c :: rest) :
    chars = chars.takeWhile (· != mark) ++ mark :: rest := by
  have first := List.head?_dropWhile_not (· != mark) chars
  rw [cut] at first
  obtain rfl : c = mark := by simpa using first
  rw [← cut, List.takeWhile_append_dropWhile]

theorem bne_of_mem_reverse {mark : Char} {chars : List Char} (absent : mark ∉ chars) :
    ∀ c ∈ chars.reverse, (c != mark) = true := fun _ member =>
  bne_iff_ne.mpr (ne_of_mem_of_not_mem (List.mem_reverse.mp member) absent)

structure AreDigits (chars : List Char) : Prop where
  filled : chars ≠ []
  digit : ∀ c ∈ chars, c.isDigit = true

theorem AreDigits.of_all {chars : List Char}
    (all : (!chars.isEmpty && chars.all Char.isDigit) = true) : AreDigits chars := by
  simp only [Bool.and_eq_true, Bool.not_eq_true', List.isEmpty_eq_false_iff,
    List.all_eq_true] at all
  exact ⟨all.1, all.2⟩

inductive WritesInteger : List Char → Int → Prop
  | unsigned {digits : List Char} : AreDigits digits → WritesInteger digits (digitsValue digits)
  | plus {digits : List Char} :
    AreDigits digits → WritesInteger ('+' :: digits) (digitsValue digits)
  | minus {digits : List Char} :
    AreDigits digits → WritesInteger ('-' :: digits) (-digitsValue digits)

theorem toNat_of_isDigit {c : Char} (digit : c.isDigit = true) : 48 ≤ c.toNat ∧ c.toNat ≤ 57 := by
  simp only [Char.isDigit, Bool.and_eq_true, decide_eq_true_eq] at digit
  exact digit

def isSign (c : Char) : Bool := c == '+' || c == '-'

theorem WritesInteger.numeric {chars : List Char} {n : Int} (writes : WritesInteger chars n) :
    ∀ c ∈ chars, c.isDigit = true ∨ isSign c = true := by
  intro c member
  cases writes with
  | unsigned digits => exact .inl (digits.digit c member)
  | plus digits | minus digits =>
    rcases List.mem_cons.mp member with rfl | member
    · exact .inr rfl
    · exact .inl (digits.digit c member)

theorem WritesInteger.not_mem {chars : List Char} {n : Int} (writes : WritesInteger chars n)
    {c : Char} (other : c.isDigit = false) (mark : isSign c = false) : c ∉ chars := by
  intro member
  rcases writes.numeric c member with digit | sign
  · rw [other] at digit
    cases digit
  · rw [mark] at sign
    cases sign

theorem areDigits_repr (n : Nat) : AreDigits n.repr.toList := by
  rw [Nat.repr_eq_ofList_toDigits, String.toList_ofList]
  exact ⟨Nat.toDigits_ne_nil, fun c => Nat.isDigit_of_mem_toDigits (by decide) (by decide)⟩

theorem digitsValue_repr (n : Nat) : digitsValue n.repr.toList = n := by
  rw [Nat.repr_eq_ofList_toDigits, String.toList_ofList]
  exact Nat.ofDigitChars_ten_toDigits

theorem writesInteger_toString (n : Int) : WritesInteger (toString n).toList n := by
  rw [Int.toString_eq_repr, Int.repr_eq_if]
  by_cases nonneg : 0 ≤ n
  · rw [if_pos nonneg]
    have writes := WritesInteger.unsigned (areDigits_repr n.toNat)
    rwa [digitsValue_repr, Int.toNat_of_nonneg nonneg] at writes
  · rw [if_neg nonneg, String.toList_append]
    have writes := WritesInteger.minus (areDigits_repr (-n).toNat)
    rwa [digitsValue_repr, Int.toNat_of_nonneg (by omega), Int.neg_neg] at writes

theorem toString_notMem {n : Int} {c : Char} (other : c.isDigit = false) (mark : isSign c = false) :
    c ∉ (toString n).toList :=
  (writesInteger_toString n).not_mem other mark

theorem WritesInteger.ne_word {chars : List Char} {n : Int} (writes : WritesInteger chars n)
    {text : String} {c : Char} (letter : c ∈ text.toList) (other : c.isDigit = false)
    (mark : isSign c = false) : String.ofList chars ≠ text := by
  rintro rfl
  rw [String.toList_ofList] at letter
  exact writes.not_mem other mark letter

theorem toLower_of_lt {c : Char} (small : c.toNat < 65) : c.toLower = c := by
  unfold Char.toLower
  rw [dif_neg]
  intro upper
  have : 65 ≤ c.toNat := upper.1
  omega

theorem toLower_of_numeric {text : String}
    (numeric : ∀ c ∈ text.toList, c.isDigit = true ∨ isSign c = true) : text.toLower = text := by
  apply String.toList_injective
  unfold String.toLower
  rw [String.toList_map]
  refine (List.map_congr_left fun c member => ?_).trans (List.map_id _)
  apply toLower_of_lt
  rcases numeric c member with digit | sign
  · have := toNat_of_isDigit digit
    omega
  · simp only [isSign, Bool.or_eq_true, beq_iff_eq] at sign
    rcases sign with rfl | rfl <;> decide

section

variable {digits : List Char}

theorem AreDigits.append_ne_cons (written : AreDigits digits) {c : Char}
    (other : c.isDigit = false) (rest more : List Char) : digits ++ rest ≠ c :: more := by
  intro same
  cases digits with
  | nil => exact written.filled rfl
  | cons d tail =>
    cases same
    have digit := written.digit c List.mem_cons_self
    rw [other] at digit
    cases digit

theorem AreDigits.ne_cons (written : AreDigits digits) {c : Char} (other : c.isDigit = false)
    (more : List Char) : digits ≠ c :: more := by
  have different := written.append_ne_cons other [] more
  rwa [List.append_nil] at different

theorem WritesInteger.append_ne_cons {literal : List Char} {n : Int}
    (writes : WritesInteger literal n) {sign c : Char} (signed : sign.isDigit = false)
    (other : c.isDigit = false) (rest more : List Char) : literal ++ rest ≠ sign :: c :: more := by
  intro same
  cases writes with
  | unsigned written => exact written.append_ne_cons signed _ _ same
  | plus written | minus written =>
    rw [List.cons_append, List.cons.injEq] at same
    exact written.append_ne_cons other _ _ same.2

theorem WritesInteger.unique {literal : List Char} {n m : Int} (left : WritesInteger literal n)
    (right : WritesInteger literal m) : n = m := by
  have signs : '+'.isDigit = false ∧ '-'.isDigit = false := by decide
  cases left with
  | unsigned written =>
    cases right with
    | unsigned _ => rfl
    | plus _ => exact absurd rfl (written.ne_cons signs.1 _)
    | minus _ => exact absurd rfl (written.ne_cons signs.2 _)
  | plus _ =>
    cases right with
    | unsigned written => exact absurd rfl (written.ne_cons signs.1 _)
    | plus _ => rfl
  | minus _ =>
    cases right with
    | unsigned written => exact absurd rfl (written.ne_cons signs.2 _)
    | minus _ => rfl

theorem AreDigits.mapM_hexDigit? (written : AreDigits digits) :
    digits.mapM hexDigit? = some (digits.map fun c => c.toNat - '0'.toNat) := by
  obtain ⟨-, digit⟩ := written
  induction digits with
  | nil => rfl
  | cons c rest ih =>
    rw [List.forall_mem_cons] at digit
    simp [List.mapM_cons, hexDigit?, digit.1, ih digit.2]

theorem foldl_digits (digits : List Char) :
    (digits.map fun c => c.toNat - '0'.toNat).foldl (fun value digit => 10 * value + digit) 0 =
      digitsValue digits :=
  List.foldl_map

theorem AreDigits.none_beyond (written : AreDigits digits) :
    (digits.map fun c => c.toNat - '0'.toNat).any (fun digit => decide (10 ≤ digit)) = false := by
  rw [List.any_eq_false]
  intro digit member
  obtain ⟨c, inside, rfl⟩ := List.mem_map.mp member
  have range := toNat_of_isDigit (written.digit c inside)
  have zero : '0'.toNat = 48 := rfl
  rw [decide_eq_true_eq]
  omega

theorem foldl_of_readDigits {bound value n : Nat} (read : readDigits bound value digits = .ok n) :
    digits.foldl (fun value c => 10 * value + (c.toNat - '0'.toNat)) value = n := by
  induction digits generalizing value with
  | nil =>
    cases read
    rfl
  | cons c rest ih =>
    unfold readDigits at read
    dsimp only at read
    split at read
    · split at read
      · exact ih read
      · cases read
    · cases read

theorem eq_of_readBelow {bound n : Nat} {text : String} {value : Int}
    (writes : WritesInteger text.toList value) (read : readBelow bound text = .ok n) :
    (n : Int) = value := by
  unfold readBelow at read
  generalize text.toList = chars at writes read
  cases writes with
  | unsigned written =>
    split at read
    · cases read
    · cases read
    · next rest _ => exact absurd rfl (written.ne_cons (by decide : '+'.isDigit = false) rest)
    · rw [← foldl_of_readDigits read]
      rfl
  | plus written =>
    split at read
    · cases read
    · cases read
    · next same =>
      cases same
      rw [← foldl_of_readDigits read]
      rfl
    · next no_plus => exact absurd rfl (no_plus _)
  | @minus digits written =>
    have signed : readDigits bound 0 ('-' :: digits) = .ok n := read
    have digit := isDigit_of_readDigits signed '-' List.mem_cons_self
    cases digit

end

end StatTree.Text
