import StatTree.Proofs.Config.Readers
import StatTree.Proofs.Number.Words

namespace StatTree

open Text (AreDigits WritesInteger isSign)

def numberEnds : List Char := [' ', '\t', '\n', '\r', ',', ']', ')', '\x7d', '#', '/']

def endsNumber (rest : List Char) : Bool := rest.head?.all numberEnds.contains

inductive ConfigValue.Reads (n : Int) : ConfigValue → Prop
  | whole : fitsSigned64 n = true → Reads n (.integer n)
  | rounded {value : Binary64} : (fitsSigned64 n = true → n = 0) →
    value.toNatWithin (UInt64.size - 1) = Binary64.nearestWord n → Reads n (.real value)

section

variable {literal digits rest rest' : List Char} {n : Int} {value : ConfigValue}

theorem ConfigValue.Reads.ofDecimal {n : Nat} (wide : ¬ fitsSigned64 n = true) :
    Reads n (.real (.ofDecimal false n 0)) := by
  refine .rounded (fun fits => absurd fits wide) (Binary64.toNatWithin_ofDecimal ?_)
  rw [fitsSigned64_iff] at wide
  omega

theorem stop_of_endsNumber {p : Char → Bool} (ends : endsNumber rest = true)
    (stops : numberEnds.all (fun c => !p c) = true) :
    rest.head?.any p = false := by
  cases rest with
  | nil => rfl
  | cons c rest =>
    have member : c ∈ numberEnds := by
      simpa [endsNumber] using ends
    simpa using List.all_eq_true.mp stops c member

theorem ne_cons_of_endsNumber {c : Char} (ends : endsNumber rest = true)
    (other : numberEnds.contains c = false)
    (more : List Char) : rest ≠ c :: more := by
  rintro rfl
  rw [endsNumber, List.head?_cons, Option.all_some, other] at ends
  cases ends

theorem takeWhile_literal {p : Char → Bool} (writes : WritesInteger literal n)
    (ends : endsNumber rest = true) (digit : ∀ c, c.isDigit = true → p c = true)
    (sign : p '+' = true ∧ p '-' = true)
    (stops : numberEnds.all (fun c => !p c) = true) :
    (literal ++ rest).takeWhile p = literal ∧ (literal ++ rest).dropWhile p = rest := by
  have all : ∀ c ∈ literal, p c = true := by
    intro c member
    rcases writes.numeric c member with digital | signed
    · exact digit c digital
    · simp only [isSign, Bool.or_eq_true, beq_iff_eq] at signed
      rcases signed with rfl | rfl
      · exact sign.1
      · exact sign.2
  have stop := stop_of_endsNumber ends stops
  exact ⟨Text.takeWhile_append_of_stop all stop, Text.dropWhile_append_of_stop all stop⟩

theorem takeWhile_digits {p : Char → Bool} (written : AreDigits digits)
    (ends : endsNumber rest = true) (digit : ∀ c, c.isDigit = true → p c = true)
    (stops : numberEnds.all (fun c => !p c) = true) :
    (digits ++ rest).takeWhile p = digits ∧ (digits ++ rest).dropWhile p = rest := by
  have all : ∀ c ∈ digits, p c = true := fun c member => digit c (written.digit c member)
  have stop := stop_of_endsNumber ends stops
  exact ⟨Text.takeWhile_append_of_stop all stop, Text.dropWhile_append_of_stop all stop⟩

theorem unmarked_digits (written : AreDigits digits) (ends : endsNumber rest = true)
    {c mark : Char} {more : List Char} (same : digits ++ rest = c :: mark :: more) :
    ['x', 'X', 'o', 'b'].contains mark = false := by
  cases digits with
  | nil => exact absurd rfl written.filled
  | cons d tail =>
    cases tail with
    | nil =>
      cases same
      simpa using stop_of_endsNumber (p := ['x', 'X', 'o', 'b'].contains) ends (by decide)
    | cons e tail =>
      cases same
      have digit := written.digit mark (by simp)
      have letters : ['x', 'X', 'o', 'b'].all (fun letter => !letter.isDigit) = true := by decide
      by_contra marked
      rw [Bool.not_eq_false, List.contains_iff_mem] at marked
      have letter := List.all_eq_true.mp letters mark marked
      rw [digit] at letter
      cases letter

namespace Toml

theorem grouped?_digits (written : AreDigits digits) :
    grouped? Char.isDigit digits = some digits := by
  obtain ⟨filled, digit⟩ := written
  induction digits with
  | nil => exact absurd rfl filled
  | cons c rest ih =>
    rw [List.forall_mem_cons] at digit
    cases rest with
    | nil => simp [grouped?, digit.1]
    | cons d rest =>
      have next := ih (List.cons_ne_nil _ _) digit.2
      have no_score : d ≠ '_' := by
        rintro rfl
        simp at digit
      unfold grouped?
      split <;> simp_all

theorem eq_of_integer? {n : Int} (read : integer? n = some value) :
    fitsSigned64 n = true ∧ value = .integer n := by
  unfold integer? at read
  split at read
  · next fits =>
    cases read
    exact ⟨fits, rfl⟩
  · cases read

theorem integer?_of_decimal? {negative : Bool} (written : AreDigits digits)
    (read : decimal? negative digits = some value) :
    integer? (if negative then -Text.digitsValue digits else Text.digitsValue digits) =
      some value := by
  have split := takeWhile_digits (p := isGrouped) written (show endsNumber [] = true from rfl)
    (fun c digit => by simp [isGrouped, digit]) (by decide)
  rw [List.append_nil] at split
  unfold decimal? at read
  simp only [split.1, split.2, grouped?_digits written, Option.bind_eq_bind,
    Option.bind_some] at read
  by_cases padded : (digits.head? == some '0' && 1 < digits.length) = true
  · simp [padded] at read
  · simpa [padded] using read

theorem readDate_literal (writes : WritesInteger literal n) : readDate literal = none := by
  unfold readDate
  split
  · next same =>
    cases writes with
    | unsigned written => simpa using written.digit '-' (by simp)
    | plus written => simpa using written.digit '-' (by simp)
    | minus written => simpa using written.digit '-' (by simp)
  · rfl

theorem number?_of_signed {negative : Bool} (written : AreDigits digits)
    (unmarked : ∀ mark rest, literal = '0' :: mark :: rest → mark.isDigit = true)
    (sign : signed literal = (negative, digits)) : number? literal = decimal? negative digits := by
  unfold number?
  rw [sign]
  split
  · cases unmarked 'x' _ rfl
  · cases unmarked 'o' _ rfl
  · cases unmarked 'b' _ rfl
  · split
    · next same =>
      cases same
      exact absurd rfl (written.ne_cons (by decide : 'i'.isDigit = false) _)
    · next same =>
      cases same
      exact absurd rfl (written.ne_cons (by decide : 'n'.isDigit = false) _)
    · next same =>
      cases same
      rfl

theorem signed_digits (written : AreDigits digits) : signed digits = (false, digits) := by
  unfold signed
  split
  · exact absurd rfl (written.ne_cons (by decide : '-'.isDigit = false) _)
  · exact absurd rfl (written.ne_cons (by decide : '+'.isDigit = false) _)
  · rfl

theorem whole_of_number? (writes : WritesInteger literal n) (read : number? literal = some value) :
    fitsSigned64 n = true ∧ value = .integer n := by
  cases writes with
  | unsigned written =>
    rw [number?_of_signed written (by rintro mark rest rfl; exact written.digit mark (by simp))
      (signed_digits written)] at read
    exact eq_of_integer? (integer?_of_decimal? written read)
  | plus written =>
    rw [number?_of_signed written (by simp) rfl] at read
    exact eq_of_integer? (integer?_of_decimal? written read)
  | minus written =>
    rw [number?_of_signed written (by simp) rfl] at read
    exact eq_of_integer? (integer?_of_decimal? written read)

theorem readTime_literal (writes : WritesInteger literal n) : readTime literal = none := by
  unfold readTime
  split
  · exact absurd (by simp) (writes.not_mem (by decide : ':'.isDigit = false) (by decide))
  · rfl

theorem dateTime?_literal (writes : WritesInteger literal n) : dateTime? literal = none := by
  unfold dateTime?
  rw [readDate_literal writes, readTime_literal writes]

theorem whole_of_readWord (writes : WritesInteger literal n) (ends : endsNumber rest = true)
    (read : readWord (literal ++ rest) = some (value, rest')) :
    fitsSigned64 n = true ∧ value = .integer n := by
  have split := takeWhile_literal (p := isWordChar) writes ends
    (fun c digit => by simp [isWordChar, Char.isAlphanum, digit]) (by decide) (by decide)
  unfold readWord at read
  simp only [split.1, split.2, readDate_literal writes, dateTime?_literal writes] at read
  split at read
  · exact absurd (by simp) (writes.not_mem (by decide : 't'.isDigit = false) (by decide))
  · exact absurd (by simp) (writes.not_mem (by decide : 'f'.isDigit = false) (by decide))
  · rw [Option.map_none, Option.none_or] at read
    obtain ⟨value', found, same⟩ := Option.map_eq_some_iff.mp read
    cases same
    exact whole_of_number? writes found

end Toml

namespace Json

theorem ofParts?_of_readNumber {json : Json} (negative : Bool) (written : AreDigits digits)
    (ends : endsNumber rest = true)
    (read : readNumber ((if negative then ['-'] else []) ++ (digits ++ rest)) =
      some (json, rest')) :
    ofParts? negative digits [] none = some json := by
  have split := takeWhile_digits (p := Char.isDigit) written ends (fun _ digit => digit) (by decide)
  have no_minus := written.append_ne_cons (show '-'.isDigit = false by decide) rest
  have no_point := ne_cons_of_endsNumber ends (show numberEnds.contains '.' = false by decide)
  have no_mark : rest.head?.any (fun c => c == 'e' || c == 'E') = false :=
    stop_of_endsNumber ends (by decide)
  unfold readNumber at read
  cases negative
  all_goals
    simp only [Bool.false_eq_true, if_true, if_false, List.nil_append, List.cons_append, split.1,
      split.2, Option.bind_eq_bind, Option.bind_some] at read
    split at read
    · cases read
    · cases rest with
      | nil =>
        obtain ⟨json', found, same⟩ := Option.bind_eq_some_iff.mp read
        cases same
        exact found
      | cons c more =>
        simp only [List.head?_cons, Option.any_some] at no_mark
        simp only [no_mark, Bool.false_eq_true, if_false] at read
        obtain ⟨json', found, same⟩ := Option.bind_eq_some_iff.mp read
        cases same
        exact found

theorem takeFitting_of_wide {value : Nat} (digit : ∀ c ∈ digits, c.isDigit = true)
    (start : value < UInt64.size)
    (wide : UInt64.size ≤ digits.foldl (fun value c => 10 * value + (c.toNat - '0'.toNat)) value) :
    ∃ filled c more, takeFitting value digits = (filled, c :: more) ∧
      Binary64.leastFilled ≤ filled := by
  induction digits generalizing value with
  | nil => exact absurd wide (Nat.not_le_of_lt start)
  | cons c rest ih =>
    rw [List.forall_mem_cons] at digit
    unfold takeFitting
    dsimp only
    split
    · next fits => exact ih digit.2 fits wide
    · next full =>
      refine ⟨value, c, rest, rfl, ?_⟩
      have range := Text.toNat_of_isDigit digit.1
      have zero : '0'.toNat = 48 := rfl
      have size : UInt64.size = 18446744073709551616 := rfl
      unfold Binary64.leastFilled
      omega

theorem toNatWithin_realOfParts? {value : Binary64} (written : AreDigits digits)
    (wide : UInt64.size ≤ Text.digitsValue digits) (read : realOfParts? digits [] 0 = some value) :
    value.withSign false = value ∧ value.toNatWithin (UInt64.size - 1) = UInt64.size - 1 := by
  obtain ⟨filled, c, more, taken, least⟩ := takeFitting_of_wide written.digit (by decide) wide
  unfold realOfParts? at read
  simp only [taken, takeFitting] at read
  have large := Binary64.atLeast_of_ofScaled? least (by simp) read
  exact ⟨large.withSign, Binary64.toNatWithin_of_atLeast large⟩

theorem reads_settingOfJson (kept : fitsSigned64 n = true ∨ 0 ≤ n) :
    (FileFormat.settingOfJson (.integer n)).Reads n := by
  unfold FileFormat.settingOfJson
  split
  · next fits => exact .whole fits
  · next wide =>
    obtain ⟨natural, rfl⟩ := Int.eq_ofNat_of_zero_le (kept.resolve_left wide)
    exact .ofDecimal wide

theorem reads_ofParts? {negative : Bool} {json : Json} (written : AreDigits digits)
    (read : ofParts? negative digits [] none = some json)
    (same : (if negative then -Text.digitsValue digits else Text.digitsValue digits : Int) = n) :
    (FileFormat.settingOfJson json).Reads n := by
  unfold ofParts? at read
  simp only [List.isEmpty_nil, Option.isNone_none, Bool.and_self, Bool.true_and, same] at read
  cases negative with
  | false =>
    simp only [Bool.false_eq_true, if_false] at same read
    split at read
    · cases read
      exact reads_settingOfJson (.inr (by omega))
    · next wide =>
      obtain ⟨value, found, rfl⟩ := Option.map_eq_some_iff.mp read
      have size : UInt64.size = 18446744073709551616 := rfl
      have above : UInt64.size ≤ Text.digitsValue digits := by simpa using wide
      obtain ⟨positive, all⟩ := toNatWithin_realOfParts? written above found
      rw [positive]
      refine .rounded (fun fits => ?_) ?_
      · rw [fitsSigned64_iff] at fits
        omega
      · rw [all, ← same, Binary64.nearestWord_of_le (by omega)]
  | true =>
    simp only [if_true] at same read
    split at read
    · next kept =>
      cases read
      rw [Bool.and_eq_true, same] at kept
      exact reads_settingOfJson (.inl kept.2)
    · next lost =>
      obtain ⟨value, found, rfl⟩ := Option.map_eq_some_iff.mp read
      refine .rounded (fun fits => ?_) ?_
      · rw [Bool.and_eq_true, decide_eq_true_eq, same, not_and] at lost
        by_contra other
        exact lost (by omega) fits
      · rw [Binary64.nearestWord_of_nonpos (by omega)]
        exact Binary64.toNatWithin_withSign_true _ value

theorem reads_number {json : Json} (writes : WritesInteger literal n)
    (ends : endsNumber rest = true)
    (read : readNumber (literal ++ rest) = some (json, rest')) :
    (FileFormat.settingOfJson json).Reads n := by
  cases writes with
  | unsigned written =>
    exact reads_ofParts? written (ofParts?_of_readNumber false written ends read) rfl
  | plus written => simp [readNumber] at read
  | minus written =>
    exact reads_ofParts? written (ofParts?_of_readNumber true written ends read) rfl

end Json

namespace Json5

theorem splitDecimal_digits (written : AreDigits digits) (ends : endsNumber rest = true)
    {isInteger : Bool} (read : splitDecimal (digits ++ rest) = some (isInteger, rest')) :
    isInteger = true ∧ rest' = rest := by
  have split := takeWhile_digits (p := Char.isDigit) written ends (fun _ digit => digit) (by decide)
  have no_point := ne_cons_of_endsNumber ends (show numberEnds.contains '.' = false by decide)
  have no_mark : rest.head?.any (fun c => c == 'e' || c == 'E') = false :=
    stop_of_endsNumber ends (by decide)
  unfold splitDecimal at read
  simp only [split.1, split.2, Option.bind_eq_bind] at read
  split at read
  · cases read
  · split at read
    · cases read
    · cases rest with
      | nil =>
        cases read
        exact ⟨rfl, rfl⟩
      | cons c more =>
        simp only [List.head?_cons, Option.any_some] at no_mark
        simp only [no_mark, Bool.false_eq_true, if_false] at read
        cases read
        exact ⟨rfl, rfl⟩

theorem whole_of_decimal {sign : List Char} (written : AreDigits digits)
    (ends : endsNumber rest = true)
    (read : readNumber.decimal sign (digits ++ rest) = some (value, rest'))
    (same : (if sign == ['-'] then -Text.digitsValue digits
      else Text.digitsValue digits : Int) = n) :
    fitsSigned64 n = true ∧ value = .integer n := by
  unfold readNumber.decimal at read
  obtain ⟨⟨isInteger, rest''⟩, split, read⟩ := Option.bind_eq_some_iff.mp read
  obtain ⟨rfl, rfl⟩ := splitDecimal_digits written ends split
  have taken : (digits ++ rest'').take ((digits ++ rest'').length - rest''.length) = digits := by
    simp
  simp only [if_true, taken, same] at read
  split at read
  · next fits =>
    cases read
    exact ⟨fits, rfl⟩
  · cases read

theorem readNumber_digits (written : AreDigits digits) (ends : endsNumber rest = true)
    {sign : List Char} (signed : sign = [] ∨ sign = ['+'] ∨ sign = ['-']) :
    readNumber (sign ++ (digits ++ rest)) = readNumber.decimal sign (digits ++ rest) := by
  have no_plus := written.append_ne_cons (show '+'.isDigit = false by decide) rest
  have no_minus := written.append_ne_cons (show '-'.isDigit = false by decide) rest
  have no_infinity := written.append_ne_cons (show 'I'.isDigit = false by decide) rest
  have no_number := written.append_ne_cons (show 'N'.isDigit = false by decide) rest
  unfold readNumber
  rcases signed with rfl | rfl | rfl
  all_goals
    simp only [List.nil_append, List.cons_append]
    split
    · exact absurd ‹_› (no_infinity _)
    · exact absurd ‹_› (no_number _)
    · next mark more same =>
      have decimal : (mark == 'x' || mark == 'X') = false := by
        have unmarked := unmarked_digits written ends same
        simp_all
      rw [decimal, if_neg Bool.false_ne_true, same]
    · rfl

theorem whole_of_readNumber (writes : WritesInteger literal n) (ends : endsNumber rest = true)
    (read : readNumber (literal ++ rest) = some (value, rest')) :
    fitsSigned64 n = true ∧ value = .integer n := by
  cases writes with
  | unsigned written =>
    rw [← List.nil_append (_ ++ _), readNumber_digits written ends (.inl rfl)] at read
    exact whole_of_decimal written ends read rfl
  | @plus digits written =>
    rw [← List.singleton_append, List.append_assoc,
      readNumber_digits written ends (.inr (.inl rfl))] at read
    exact whole_of_decimal written ends read rfl
  | minus written =>
    rw [← List.singleton_append, List.append_assoc,
      readNumber_digits written ends (.inr (.inr rfl))] at read
    exact whole_of_decimal written ends read rfl

end Json5

namespace Binary64

theorem ofText?_digits (written : AreDigits digits) {sign : List Char}
    (signed : sign = [] ∨ sign = ['+'] ∨ sign = ['-']) :
    ofText? (String.ofList (sign ++ digits)) =
      some (ofDecimal (sign == ['-']) (Text.digitsValue digits) 0) := by
  have no_plus := written.ne_cons (show '+'.isDigit = false by decide)
  have no_minus := written.ne_cons (show '-'.isDigit = false by decide)
  have split := takeWhile_digits (p := Char.isDigit) written (show endsNumber [] = true from rfl)
    (fun _ digit => digit) (by decide)
  have lower : (String.ofList digits).toLower = String.ofList digits :=
    Text.toLower_of_numeric fun c member => .inl (written.digit c (by simpa using member))
  have filled := List.isEmpty_eq_false_iff.mpr written.filled
  have word {text : String} (letter : 'n' ∈ text.toList) : String.ofList digits ≠ text :=
    (WritesInteger.unsigned written).ne_word letter (by decide) (by decide)
  have no_inf := word (show 'n' ∈ "inf".toList by decide)
  have no_infinity := word (show 'n' ∈ "infinity".toList by decide)
  have no_nan := word (show 'n' ∈ "nan".toList by decide)
  rw [List.append_nil] at split
  unfold ofText?
  rw [String.toList_ofList]
  rcases signed with rfl | rfl | rfl
  all_goals
    simp only [List.nil_append, List.cons_append, lower, split.1, split.2]
    simp [filled]

theorem toNatWithin_ofText? (writes : WritesInteger literal n) (wide : fitsSigned64 n ≠ true) :
    ∃ value, ofText? (String.ofList literal) = some value ∧
      value.toNatWithin (UInt64.size - 1) = nearestWord n := by
  rw [ne_eq, fitsSigned64_iff] at wide
  cases writes with
  | @unsigned digits written =>
    have read := ofText?_digits written (.inl (Eq.refl ([] : List Char)))
    exact ⟨_, read, toNatWithin_ofDecimal (by omega)⟩
  | @plus digits written =>
    have read := ofText?_digits written (.inr (.inl (Eq.refl ['+'])))
    exact ⟨_, read, toNatWithin_ofDecimal (by omega)⟩
  | @minus digits written =>
    have read := ofText?_digits written (.inr (.inr (Eq.refl ['-'])))
    rw [nearestWord_of_nonpos (by omega)]
    exact ⟨_, read, toNatWithin_ofDecimal_true _⟩

end Binary64

namespace Ron

theorem readMagnitude_digits (written : AreDigits digits) (ends : endsNumber rest = true) :
    readMagnitude (digits ++ rest) = some (Text.digitsValue digits, rest) := by
  have split := takeWhile_digits (p := isDigitChar) written ends
    (fun c digit => by simp [isDigitChar, Text.hexDigit?, digit]) (by decide)
  have hexadecimal (more : List Char) : digits ++ rest ≠ '0' :: 'x' :: more := fun same => by
    cases unmarked_digits written ends same
  have octal (more : List Char) : digits ++ rest ≠ '0' :: 'o' :: more := fun same => by
    cases unmarked_digits written ends same
  have binary (more : List Char) : digits ++ rest ≠ '0' :: 'b' :: more := fun same => by
    cases unmarked_digits written ends same
  have plain : ∀ c ∈ digits, (c != '_') = true := by
    intro c member
    have digit := written.digit c member
    rw [bne_iff_ne]
    rintro rfl
    cases digit
  have first : digits.head?.all (fun c => c == '_') = false := by
    cases digits with
    | nil => exact absurd rfl written.filled
    | cons c tail => simpa using plain c List.mem_cons_self
  unfold readMagnitude
  simp only [split.1, first, List.filter_eq_self.mpr plain, written.mapM_hexDigit?,
    Bool.false_eq_true, if_false, Option.bind_eq_bind, Option.bind_some, written.none_beyond,
    Text.foldl_digits, List.drop_left, Option.pure_def]

theorem readInteger_literal (writes : WritesInteger literal n) (ends : endsNumber rest = true) :
    readInteger (literal ++ rest) =
      if fitsSigned64 n then some (.integer n, rest)
      else if literal.all Char.isDigit && n < UInt64.size then
        some (.real (.ofDecimal false n.toNat 0), rest)
      else none := by
  unfold readInteger
  cases writes with
  | unsigned written =>
    have no_plus := written.append_ne_cons (show '+'.isDigit = false by decide) rest
    have no_minus := written.append_ne_cons (show '-'.isDigit = false by decide) rest
    simp [readMagnitude_digits written ends, List.all_eq_true.mpr written.digit]
  | plus written => simp [readMagnitude_digits written ends]
  | minus written => simp [readMagnitude_digits written ends]

theorem readReal_literal (writes : WritesInteger literal n) (ends : endsNumber rest = true)
    (read : readReal (literal ++ rest) = some (value, rest')) :
    ∃ real, Binary64.ofText? (String.ofList literal) = some real ∧ value = .real real := by
  have split := takeWhile_literal (p := isRealChar) writes ends
    (fun c digit => by simp [isRealChar, digit]) (by decide) (by decide)
  have no_score : literal.contains '_' = false := by
    refine Bool.eq_false_iff.mpr fun contained => ?_
    have absent := writes.not_mem (by decide : '_'.isDigit = false) (by decide)
    exact absent (List.contains_iff_mem.mp contained)
  have no_infinity (sign : Char) (signed : sign.isDigit = false) :=
    writes.append_ne_cons signed (show 'i'.isDigit = false by decide) rest
  have no_number (sign : Char) (signed : sign.isDigit = false) :=
    writes.append_ne_cons signed (show 'N'.isDigit = false by decide) rest
  unfold readReal at read
  dsimp only at read
  split at read
  · exact absurd ‹_› (no_infinity '+' (by decide) _)
  · exact absurd ‹_› (no_infinity '-' (by decide) _)
  · exact absurd ‹_› (no_number '+' (by decide) _)
  · exact absurd ‹_› (no_number '-' (by decide) _)
  · rw [split.1, no_score, if_neg Bool.false_ne_true] at read
    obtain ⟨real, found, same⟩ := Option.bind_eq_some_iff.mp read
    cases same
    exact ⟨real, found, rfl⟩

theorem reads_number (writes : WritesInteger literal n) (ends : endsNumber rest = true)
    (read : readNumber (literal ++ rest) = some (value, rest')) : value.Reads n := by
  have whole (digits : List Char) (written : AreDigits digits) :
      (digits ++ rest).takeWhile isDigitChar = (digits ++ rest).takeWhile isRealChar := by
    rw [(takeWhile_digits (p := isDigitChar) written ends
        (fun c digit => by simp [isDigitChar, Text.hexDigit?, digit]) (by decide)).1,
      (takeWhile_digits (p := isRealChar) written ends
        (fun c digit => by simp [isRealChar, digit]) (by decide)).1]
  have choice : readNumber (literal ++ rest) =
      (readInteger (literal ++ rest)).or (readReal (literal ++ rest)) := by
    unfold readNumber
    cases writes with
    | unsigned written =>
      have no_plus := written.append_ne_cons (show '+'.isDigit = false by decide) rest
      have no_minus := written.append_ne_cons (show '-'.isDigit = false by decide) rest
      simp only [whole _ written, Nat.lt_irrefl, if_false]
    | plus written | minus written =>
      simp only [List.cons_append, whole _ written, Nat.lt_irrefl, if_false]
  rw [choice, readInteger_literal writes ends] at read
  split at read
  · next fits =>
    cases read
    exact .whole fits
  · next wide =>
    split at read
    · next unsigned =>
      obtain ⟨natural, rfl⟩ : ∃ natural : Nat, n = natural := by
        cases writes with
        | unsigned | plus => exact ⟨_, rfl⟩
        | minus => simp at unsigned
      cases read
      exact .ofDecimal wide
    · obtain ⟨real, found, rfl⟩ := readReal_literal writes ends read
      obtain ⟨real', found', nearest⟩ := Binary64.toNatWithin_ofText? writes wide
      rw [found] at found'
      cases found'
      exact .rounded (fun fits => absurd fits wide) nearest

end Ron

namespace Yaml

theorem integer?_digits (negative : Bool) (written : AreDigits digits)
    (same : (if negative then -Text.digitsValue digits else Text.digitsValue digits : Int) = n) :
    integer? 10 ((if negative then ['-'] else []) ++ digits) =
      if fitsSigned64 n then some n else none := by
  have no_plus := written.ne_cons (show '+'.isDigit = false by decide)
  have no_minus := written.ne_cons (show '-'.isDigit = false by decide)
  have filled := List.isEmpty_eq_false_iff.mpr written.filled
  unfold integer?
  cases negative
  all_goals
    simp only [Bool.false_eq_true, if_true, if_false, List.nil_append, List.cons_append] at same ⊢
    simp only [filled, written.mapM_hexDigit?, written.none_beyond, Option.bind_eq_bind,
      Option.bind_some, Bool.false_eq_true, if_false, Text.foldl_digits, same]

theorem plainInteger?_literal (writes : WritesInteger literal n) :
    Node.plainInteger? literal = if fitsSigned64 n then some n else none := by
  unfold Node.plainInteger?
  cases writes with
  | unsigned written =>
    have no_plus := written.ne_cons (show '+'.isDigit = false by decide)
    have unmarked {c mark : Char} {more : List Char} (same : literal = c :: mark :: more) :=
      unmarked_digits written (show endsNumber [] = true from rfl)
        ((List.append_nil literal).trans same)
    split
    · cases unmarked rfl
    · cases unmarked rfl
    · exact absurd rfl (no_plus _)
    · exact integer?_digits false written rfl
  | plus written => exact integer?_digits false written rfl
  | minus written => exact integer?_digits true written rfl

theorem reads_plain (writes : WritesInteger literal n)
    (read : (Node.ofPlain (String.ofList literal)).toValue = some value) : value.Reads n := by
  have word {text : String} (c : Char) (letter : c ∈ text.toList) (other : c.isDigit = false)
      (mark : isSign c = false) : String.ofList literal ≠ text :=
    writes.ne_word letter other mark
  unfold Node.ofPlain at read
  rw [String.toList_ofList, plainInteger?_literal writes] at read
  by_cases fits : fitsSigned64 n = true
  · rw [if_pos fits] at read
    cases read
    exact .whole fits
  · obtain ⟨real, found, nearest⟩ := Binary64.toNatWithin_ofText? writes fits
    have isReal : isReal (String.ofList literal) = true := by
      simp [Yaml.isReal, found]
    rw [if_neg fits] at read
    split at read
    · contradiction
    · exact absurd ‹_› (word '~' (by decide) (by decide) (by decide))
    · exact absurd ‹_› (word 'n' (by decide) (by decide) (by decide))
    · exact absurd ‹_› (word 'e' (by decide) (by decide) (by decide))
    · exact absurd ‹_› (word 'e' (by decide) (by decide) (by decide))
    · rw [if_pos isReal] at read
      unfold Node.toValue at read
      rw [found] at read
      cases read
      exact .rounded (fun kept => absurd kept fits) nearest

end Yaml

namespace FileFormat

/-- The value of a number without quotes that stands in front of the rest of a file. A scalar is cut
    off the rest before it is read, where that is the way of the format. -/
def readNumber? (literal rest : List Char) : FileFormat → Option ConfigValue
  | .toml => (Toml.readWord (literal ++ rest)).map Prod.fst
  | .json => (Json.readNumber (literal ++ rest)).map fun read => settingOfJson read.1
  | .json5 => (Json5.readNumber (literal ++ rest)).map Prod.fst
  | .ron => (Ron.readNumber (literal ++ rest)).map Prod.fst
  | .yaml => (Yaml.Node.ofPlain (String.ofList literal)).toValue
  | .ini => none

theorem reads_number (format : FileFormat) (writes : WritesInteger literal n)
    (ends : endsNumber rest = true) (read : format.readNumber? literal rest = some value) :
    value.Reads n := by
  cases format with
  | toml =>
    obtain ⟨⟨value, rest'⟩, found, rfl⟩ := Option.map_eq_some_iff.mp read
    obtain ⟨fits, rfl⟩ := Toml.whole_of_readWord writes ends found
    exact .whole fits
  | json =>
    obtain ⟨⟨json, rest'⟩, found, rfl⟩ := Option.map_eq_some_iff.mp read
    exact Json.reads_number writes ends found
  | json5 =>
    obtain ⟨⟨value, rest'⟩, found, rfl⟩ := Option.map_eq_some_iff.mp read
    obtain ⟨fits, rfl⟩ := Json5.whole_of_readNumber writes ends found
    exact .whole fits
  | ron =>
    obtain ⟨⟨value, rest'⟩, found, rfl⟩ := Option.map_eq_some_iff.mp read
    exact Ron.reads_number writes ends found
  | yaml => exact Yaml.reads_plain writes read
  | ini => cases read

theorem readNumber?_of_strict {format : FileFormat} (strict : format = .toml ∨ format = .json5)
    (writes : WritesInteger literal n) (ends : endsNumber rest = true)
    (wide : fitsSigned64 n = false) : format.readNumber? literal rest = none := by
  refine Option.eq_none_iff_forall_ne_some.mpr fun value read => ?_
  rcases strict with rfl | rfl
  · obtain ⟨⟨value, rest'⟩, found, rfl⟩ := Option.map_eq_some_iff.mp read
    rw [(Toml.whole_of_readWord writes ends found).1] at wide
    cases wide
  · obtain ⟨⟨value, rest'⟩, found, rfl⟩ := Option.map_eq_some_iff.mp read
    rw [(Json5.whole_of_readNumber writes ends found).1] at wide
    cases wide

end FileFormat

end

end StatTree
