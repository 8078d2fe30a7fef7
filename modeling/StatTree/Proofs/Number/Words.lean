import StatTree.Config.FileFormat
import StatTree.Proofs.Number.Rounding

namespace StatTree.Binary64

inductive AtLeast (least : Nat) : Binary64 → Prop
  | finite {significand exponent : Nat} :
    least ≤ units significand exponent → AtLeast least (.finite false significand exponent)
  | infinite : AtLeast least (.infinite false)

theorem atLeast_ofRatio {least num den : Nat} (le : least ≤ roundedUnits num den) :
    AtLeast least (ofRatio false num den) := by
  rcases ofRatio_cases false num den with ⟨significand, exponent, finite, same⟩ | ⟨infinite, -⟩
  · rw [finite]
    exact .finite (le.trans_eq same.symm)
  · rw [infinite]
    exact .infinite

theorem toNatWithin_of_atLeast {bound : Nat} {value : Binary64}
    (large : AtLeast (bound * unitsPerOne) value) : value.toNatWithin bound = bound := by
  cases large with
  | @finite significand exponent large =>
    refine Nat.min_eq_left ?_
    have double : 0 < 2 * unitsPerOne := Nat.mul_pos Nat.two_pos unitsPerOne_pos
    rw [Nat.le_div_iff_mul_le double]
    calc bound * (2 * unitsPerOne)
      _ = 2 * (bound * unitsPerOne) := by ring
      _ ≤ 2 * units significand exponent := Nat.mul_le_mul_left 2 large
      _ ≤ 2 * units significand exponent + unitsPerOne := Nat.le_add_right _ _
  | infinite => rfl

theorem AtLeast.withSign {least : Nat} {value : Binary64} (large : AtLeast least value) :
    value.withSign false = value := by
  cases large <;> rfl

theorem toNatWithin_of_units {significand exponent whole : Nat} (bound : Nat)
    (exact : units significand exponent = whole * unitsPerOne) :
    (finite false significand exponent).toNatWithin bound = min bound whole := by
  have half : unitsPerOne < 2 * unitsPerOne := by
    have := unitsPerOne_pos
    omega
  have double : 0 < 2 * unitsPerOne := Nat.mul_pos Nat.two_pos unitsPerOne_pos
  have whole_double : 2 * (whole * unitsPerOne) = whole * (2 * unitsPerOne) := by ring
  have rounded : (2 * units significand exponent + unitsPerOne) / (2 * unitsPerOne) = whole := by
    rw [exact, whole_double, Nat.mul_comm whole, Nat.mul_add_div double, Nat.div_eq_of_lt half,
      Nat.add_zero]
  exact congrArg (min bound) rounded

/-- An integer as it comes out of the nearest number, held within 64 bits. From half of the range
    on the numbers are 2048 apart. -/
def nearestWord (n : Int) : Nat := min (UInt64.size - 1) (2048 * roundHalfEven n.toNat 2048)

theorem nearestWord_of_nonpos {n : Int} (nonpos : n ≤ 0) : nearestWord n = 0 := by
  unfold nearestWord
  rw [Int.toNat_of_nonpos nonpos]
  decide

theorem nearestWord_eq_iff {n : Int} :
    nearestWord n = n ↔ 0 ≤ n ∧ n < UInt64.size ∧ (2048 ∣ n ∨ n = UInt64.size - 1) := by
  have size : UInt64.size = 18446744073709551616 := rfl
  have nearest := nearest_roundHalfEven n.toNat (show 0 < 2048 by decide)
  have low := nearest.low
  have high := nearest.high
  unfold nearestWord
  rw [size]
  omega

section

variable {n : Nat}

theorem ratioExponent_of_high (high : 2 ^ 63 ≤ n) (low : n < 2 ^ 64) :
    ratioExponent n 1 = 1085 := by
  have positive : n ≠ 0 := by omega
  have log : n.log2 = 63 := (Nat.log2_eq_iff positive).mpr ⟨high, low⟩
  unfold ratioExponent
  rw [Nat.div_one, mul_unitsPerOne, log2_units positive, log]

theorem roundedUnits_of_high (high : 2 ^ 63 ≤ n) (low : n < 2 ^ 64) :
    roundedUnits n 1 = 2048 * roundHalfEven n 2048 * unitsPerOne := by
  have spacing : units 1 1085 = 2048 * unitsPerOne := by decide +kernel
  have apart (m : Nat) : units m 1085 = m * units 1 1085 := by
    rw [units_eq, units_eq, Nat.one_mul]
  unfold roundedUnits
  rw [ratioExponent_of_high high low, spacing, roundHalfEven_mul_right _ _ unitsPerOne_pos, apart,
    spacing]
  ring

theorem roundedUnits_of_above (above : 2 ^ 64 ≤ n + 1) : 2 ^ 64 * unitsPerOne ≤ roundedUnits n 1 :=
  calc 2 ^ 64 * unitsPerOne
    _ = 2048 * roundHalfEven (2 ^ 64 - 1) 2048 * unitsPerOne := by decide +kernel
    _ = roundedUnits (2 ^ 64 - 1) 1 := (roundedUnits_of_high (by decide) (by decide)).symm
    _ ≤ roundedUnits n 1 := roundedUnits_one_mono (by omega)

theorem nearestWord_of_le (above : 2 ^ 64 ≤ n) : nearestWord n = UInt64.size - 1 := by
  have size : UInt64.size = 18446744073709551616 := rfl
  have large := (nearest_roundHalfEven n (show 0 < 2048 by decide)).high
  unfold nearestWord
  rw [Int.toNat_natCast, size]
  omega

theorem toNatWithin_ofRatio (high : 2 ^ 63 ≤ n) :
    (ofRatio false n 1).toNatWithin (UInt64.size - 1) = nearestWord n := by
  by_cases low : n < 2 ^ 64
  · rcases ofRatio_cases false n 1 with ⟨significand, exponent, finite, same⟩ | ⟨-, wide⟩
    · rw [finite]
      exact toNatWithin_of_units _ (same.trans (roundedUnits_of_high high low))
    · rw [ratioExponent_of_high high low] at wide
      contradiction
  · have above : 2 ^ 64 ≤ n := Nat.le_of_not_lt low
    rw [nearestWord_of_le above]
    refine toNatWithin_of_atLeast (atLeast_ofRatio ?_)
    exact (Nat.mul_le_mul_right _ (by decide)).trans (roundedUnits_of_above (by omega))

theorem digitCount_le (low : n < 2 ^ 64) : digitCount n ≤ 20 :=
  (Nat.length_toDigits_le_iff (by decide) (by decide)).mpr (by omega)

theorem ofDecimal_whole (negative : Bool) (filled : n ≠ 0) :
    ofDecimal negative n 0 = ofRatio negative n 1 ∨
      (ofDecimal negative n 0 = .infinite negative ∧ 310 < digitCount n) := by
  have whole : n * Nat.pow 10 (0 : Int).toNat = n := Nat.mul_one n
  unfold ofDecimal
  dsimp only
  rw [Int.add_zero, if_neg (by omega), whole]
  by_cases wide : 310 < (digitCount n : Int)
  · rw [if_pos wide]
    exact .inr ⟨rfl, by omega⟩
  · rw [if_neg wide, if_pos (Int.le_refl 0)]
    exact .inl rfl

theorem toNatWithin_ofDecimal (high : 2 ^ 63 ≤ n) :
    (ofDecimal false n 0).toNatWithin (UInt64.size - 1) = nearestWord n := by
  rcases ofDecimal_whole false (show n ≠ 0 by omega) with ratio | ⟨infinite, wide⟩
  · rw [ratio]
    exact toNatWithin_ofRatio high
  · have above : 2 ^ 64 ≤ n := by
      by_contra low
      have := digitCount_le (Nat.lt_of_not_le low)
      omega
    rw [infinite, nearestWord_of_le above]
    rfl

theorem toNatWithin_withSign_true (bound : Nat) (value : Binary64) :
    (value.withSign true).toNatWithin bound = 0 := by
  cases value <;> rfl

theorem toNatWithin_ofRatio_true (bound num den : Nat) :
    (ofRatio true num den).toNatWithin bound = 0 := by
  rcases ofRatio_cases true num den with ⟨significand, exponent, finite, -⟩ | ⟨infinite, -⟩
  · rw [finite]
    rfl
  · rw [infinite]
    rfl

theorem toNatWithin_ofDecimal_true (bound : Nat) : (ofDecimal true n 0).toNatWithin bound = 0 := by
  by_cases zero : n = 0
  · subst zero
    rfl
  · rcases ofDecimal_whole true zero with ratio | ⟨infinite, -⟩
    · rw [ratio]
      exact toNatWithin_ofRatio_true bound n 1
    · rw [infinite]
      rfl

end

theorem powerOfTen_eq {power : Nat} (small : power ≤ maxPower) :
    powerOfTen power = ofRatio false (Nat.pow 10 power) 1 := by
  have range : maxPower = 308 := rfl
  have one : digitCount 1 = 1 := by decide
  unfold powerOfTen ofDecimal
  dsimp only
  rw [one, if_neg (by omega), if_neg (by omega), if_pos (by omega), Nat.one_mul, Int.toNat_natCast]

theorem powerOfTen_ne_infinite {power : Nat} (small : power ≤ maxPower) :
    powerOfTen power ≠ .infinite false := by
  rcases small.eq_or_lt with rfl | less
  · decide +kernel
  · have tens : 10 ^ power * 1 ≤ 10 ^ (maxPower - 1) * 1 := by
      rw [Nat.mul_one, Nat.mul_one]
      exact Nat.pow_le_pow_right (by decide) (by omega)
    have exponent : ratioExponent (10 ^ (maxPower - 1)) 1 = 2041 := by decide +kernel
    have exponents := ratioExponent_mono Nat.one_pos Nat.one_pos tens
    rw [powerOfTen_eq small]
    rcases ofRatio_cases false (Nat.pow 10 power) 1 with
      ⟨significand, exponent, finite, -⟩ | ⟨-, wide⟩
    · rw [finite]
      exact nofun
    · rw [Nat.pow_eq] at wide
      omega

def leastFilled : Nat := 1844674407370955161

theorem roundedUnits_leastFilled :
    roundedUnits leastFilled 1 = 1844674407370955264 * unitsPerOne := by
  decide +kernel

theorem roundedUnits_ten : roundedUnits 10 1 = 10 * unitsPerOne := by
  decide +kernel

/-- Rounding first and multiplying then does not lead back into 64 bits. -/
theorem atLeast_product {significand power a b : Nat} (left : a = roundedUnits significand 1)
    (right : b = roundedUnits power 1) (filled : leastFilled ≤ significand) (ten : 10 ≤ power) :
    AtLeast ((UInt64.size - 1) * unitsPerOne)
      (ofRatio false (a * b) (unitsPerOne * unitsPerOne)) := by
  have one := unitsPerOne_pos
  have left_le : 1844674407370955264 * unitsPerOne ≤ a := by
    rw [left, ← roundedUnits_leastFilled]
    exact roundedUnits_one_mono filled
  have right_le : 10 * unitsPerOne ≤ b := by
    rw [right, ← roundedUnits_ten]
    exact roundedUnits_one_mono ten
  have ratio : (2 ^ 64 - 1) * (unitsPerOne * unitsPerOne) ≤ a * b * 1 :=
    calc (2 ^ 64 - 1) * (unitsPerOne * unitsPerOne)
      _ ≤ 1844674407370955264 * 10 * (unitsPerOne * unitsPerOne) :=
        Nat.mul_le_mul_right _ (by decide)
      _ = 1844674407370955264 * unitsPerOne * (10 * unitsPerOne) := by ring
      _ ≤ a * b := Nat.mul_le_mul left_le right_le
      _ = a * b * 1 := (Nat.mul_one _).symm
  refine atLeast_ofRatio ?_
  calc (UInt64.size - 1) * unitsPerOne
    _ ≤ 2 ^ 64 * unitsPerOne := Nat.mul_le_mul_right _ (by decide)
    _ ≤ roundedUnits (2 ^ 64 - 1) 1 := roundedUnits_of_above (by decide)
    _ ≤ roundedUnits (a * b) (unitsPerOne * unitsPerOne) :=
      roundedUnits_mono Nat.one_pos (Nat.mul_pos one one) ratio

theorem atLeast_of_ofScaled? {significand : Nat} {exponent : Int} {value : Binary64}
    (filled : leastFilled ≤ significand) (positive : 0 < exponent)
    (scaled : ofScaled? significand exponent = some value) :
    AtLeast ((UInt64.size - 1) * unitsPerOne) value := by
  have least : leastFilled = 1844674407370955161 := rfl
  -- The numbers on the way are named, since they are too large to be compared by their values.
  have rounded := ofRatio_cases false significand 1
  unfold ofScaled? at scaled
  generalize ofRatio false significand 1 = base at scaled rounded
  dsimp only at scaled
  rw [if_neg (by omega), if_neg (by omega)] at scaled
  split at scaled
  · cases scaled
  · next range =>
    have small : exponent.toNat ≤ maxPower := by omega
    have ten : 10 ≤ Nat.pow 10 exponent.toNat := Nat.le_self_pow (by omega) 10
    have powered := ofRatio_cases false (Nat.pow 10 exponent.toNat) 1
    have within := powerOfTen_ne_infinite small
    rw [← powerOfTen_eq small] at powered
    generalize powerOfTen exponent.toNat = power at scaled within powered
    rcases rounded with ⟨s, e, rfl, left⟩ | ⟨rfl, -⟩
    · rcases powered with ⟨t, f, rfl, right⟩ | ⟨rfl, -⟩
      · have large := atLeast_product left right filled ten
        have times : (finite false s e).times (finite false t f) =
          ofRatio false (units s e * units t f) (unitsPerOne * unitsPerOne) := rfl
        rw [times] at scaled
        generalize ofRatio false _ _ = product at scaled large
        cases large with
        | finite large =>
          cases scaled
          exact .finite large
        | infinite => cases scaled
      · exact absurd rfl within
    · cases scaled

end StatTree.Binary64
