import StatTree.Number.Scaled
import Mathlib.Tactic.Ring

namespace StatTree.Binary64

/-- The integer lies within a half of the ratio, and is even if it lies a half away. -/
structure Nearest (num den integer : Nat) : Prop where
  low : 2 * (integer * den) ≤ 2 * num + den
  high : 2 * num ≤ 2 * (integer * den) + den
  even_low : 2 * (integer * den) = 2 * num + den → integer % 2 = 0
  even_high : 2 * num = 2 * (integer * den) + den → integer % 2 = 0

theorem nearest_roundHalfEven (num : Nat) {den : Nat} (positive : 0 < den) :
    Nearest num den (roundHalfEven num den) := by
  have split := Nat.div_add_mod' num den
  have small := Nat.mod_lt num positive
  have next : (num / den + 1) * den = num / den * den + den := by ring
  unfold roundHalfEven
  dsimp only
  split
  · next below => constructor <;> omega
  · next above =>
    rw [not_or] at above
    constructor <;> omega

theorem Nearest.mono {num den integer num' den' integer' : Nat} (left : Nearest num den integer)
    (right : Nearest num' den' integer') (positive : 0 < den) (positive' : 0 < den')
    (le : num * den' ≤ num' * den) : integer ≤ integer' := by
  have low := Nat.mul_le_mul_right den' left.low
  have high := Nat.mul_le_mul_right den right.high
  have common : 0 < den * den' := Nat.mul_pos positive positive'
  by_contra greater
  obtain ⟨more, rfl⟩ : ∃ more, integer = integer' + 1 + more :=
    ⟨integer - (integer' + 1), by omega⟩
  have lows : 2 * ((integer' + 1 + more) * den) * den' =
      2 * (integer' * (den * den')) + 2 * (den * den') + 2 * (more * (den * den')) := by ring
  have highs : (2 * (integer' * den') + den') * den =
      2 * (integer' * (den * den')) + den * den' := by ring
  have nums : (2 * num + den) * den' = 2 * (num * den') + den * den' := by ring
  have nums' : 2 * num' * den = 2 * (num' * den) := by ring
  -- Both ratios lie half way between the same two neighbours, of which one is odd.
  have none_more : more * (den * den') = 0 := by omega
  have up : 2 * ((integer' + 1 + more) * den) * den' = (2 * num + den) * den' := by omega
  have down : 2 * num' * den = (2 * (integer' * den') + den') * den := by omega
  have even := left.even_low (Nat.eq_of_mul_eq_mul_right positive' up)
  have even' := right.even_high (Nat.eq_of_mul_eq_mul_right positive down)
  have same : more = 0 := (Nat.mul_eq_zero.mp none_more).resolve_right common.ne'
  omega

theorem roundHalfEven_mul_right (num den : Nat) {factor : Nat} (positive : 0 < factor) :
    roundHalfEven (num * factor) (den * factor) = roundHalfEven num den := by
  have doubled : 2 * (num % den * factor) = 2 * (num % den) * factor := by ring
  unfold roundHalfEven
  simp only [Nat.mul_div_mul_right _ _ positive, Nat.mul_mod_mul_right, doubled,
    Nat.mul_lt_mul_right positive, Nat.mul_left_inj positive.ne']

theorem Nearest.exact (integer : Nat) {den : Nat} (positive : 0 < den) :
    Nearest (integer * den) den integer := by
  constructor <;> omega

section

variable {num den bound : Nat}

theorem roundHalfEven_le (positive : 0 < den) (le : num ≤ bound * den) :
    roundHalfEven num den ≤ bound :=
  (nearest_roundHalfEven num positive).mono (.exact bound positive) positive positive
    (Nat.mul_le_mul_right den le)

theorem le_roundHalfEven (positive : 0 < den) (le : bound * den ≤ num) :
    bound ≤ roundHalfEven num den :=
  (Nearest.exact bound positive).mono (nearest_roundHalfEven num positive) positive positive
    (Nat.mul_le_mul_right den le)

end

theorem units_eq (significand exponent : Nat) :
    units significand exponent = significand * 2 ^ exponent := rfl

theorem units_succ (significand exponent : Nat) :
    units significand (exponent + 1) = units (2 * significand) exponent := by
  rw [units_eq, units_eq]
  ring

theorem units_pos {significand : Nat} (positive : 0 < significand) (exponent : Nat) :
    0 < units significand exponent :=
  Nat.mul_pos positive (Nat.two_pow_pos exponent)

theorem unitsPerOne_pos : 0 < unitsPerOne := by decide +kernel

/-- The magnitude that a ratio is rounded to, if that is in the finite range. -/
def roundedUnits (num den : Nat) : Nat :=
  units (roundHalfEven (num * unitsPerOne) (units den (ratioExponent num den)))
    (ratioExponent num den)

theorem ofRatio_cases (negative : Bool) (num den : Nat) :
    (∃ significand exponent, ofRatio negative num den = .finite negative significand exponent ∧
      units significand exponent = roundedUnits num den) ∨
    (ofRatio negative num den = .infinite negative ∧ 2045 ≤ ratioExponent num den) := by
  have rounded : ofRatio negative num den = ofRounded negative
      (roundHalfEven (num * unitsPerOne) (units den (ratioExponent num den)))
      (ratioExponent num den) := rfl
  rw [rounded, roundedUnits]
  generalize roundHalfEven (num * unitsPerOne) (units den (ratioExponent num den)) = significand
  unfold ofRounded
  by_cases carry : significand = 2 * leastFull
  · rw [if_pos carry]
    by_cases small : ratioExponent num den + 1 ≤ 2045
    · refine .inl ⟨leastFull, ratioExponent num den + 1, if_pos small, ?_⟩
      rw [carry, units_succ]
    · exact .inr ⟨if_neg small, by omega⟩
  · rw [if_neg carry]
    by_cases small : ratioExponent num den ≤ 2045
    · exact .inl ⟨significand, ratioExponent num den, if_pos small, rfl⟩
    · exact .inr ⟨if_neg small, by omega⟩

theorem log2_mono {a b : Nat} (le : a ≤ b) : a.log2 ≤ b.log2 := by
  by_cases zero : a = 0
  · subst zero
    exact Nat.zero_le _
  · rw [Nat.le_log2 (by omega)]
    exact (Nat.log2_self_le zero).trans le

theorem mul_unitsPerOne (n : Nat) : n * unitsPerOne = units n 1074 := by
  unfold units unitsPerOne
  -- The power is far too large to be compared by its value.
  generalize 1074 = exponent
  rfl

theorem log2_units {significand : Nat} (filled : significand ≠ 0) (exponent : Nat) :
    (units significand exponent).log2 = significand.log2 + exponent := by
  induction exponent generalizing significand with
  | zero => rw [units_eq, Nat.pow_zero, Nat.mul_one, Nat.add_zero]
  | succ exponent ih =>
    rw [units_succ, ih (Nat.mul_ne_zero (by decide) filled), Nat.log2_two_mul filled]
    omega

section

variable {num den : Nat}

theorem le_of_ratioExponent (num : Nat) (positive : 0 < den) :
    num * unitsPerOne ≤ 2 ^ 53 * units den (ratioExponent num den) := by
  have floor := Nat.lt_div_mul_add (a := num * unitsPerOne) positive
  have log : num * unitsPerOne / den < 2 ^ ((num * unitsPerOne / den).log2 + 1) := Nat.lt_log2_self
  have powers : 2 ^ ((num * unitsPerOne / den).log2 + 1) ≤ 2 ^ (53 + ratioExponent num den) :=
    Nat.pow_le_pow_right (by decide) (by unfold ratioExponent; omega)
  have whole : num * unitsPerOne / den + 1 ≤ 2 ^ (53 + ratioExponent num den) := by omega
  calc num * unitsPerOne
    _ ≤ (num * unitsPerOne / den + 1) * den := by rw [Nat.add_mul]; omega
    _ ≤ 2 ^ (53 + ratioExponent num den) * den := Nat.mul_le_mul_right den whole
    _ = 2 ^ 53 * units den (ratioExponent num den) := by rw [units_eq]; ring

theorem ge_of_ratioExponent (num den : Nat) (full : 0 < ratioExponent num den) :
    2 ^ 52 * units den (ratioExponent num den) ≤ num * unitsPerOne := by
  have log : (num * unitsPerOne / den).log2 = 52 + ratioExponent num den := by
    unfold ratioExponent at full ⊢
    omega
  have filled : num * unitsPerOne / den ≠ 0 := by
    intro zero
    rw [zero, Nat.log2_zero] at log
    omega
  have least := Nat.log2_self_le filled
  rw [log] at least
  calc 2 ^ 52 * units den (ratioExponent num den)
    _ = 2 ^ (52 + ratioExponent num den) * den := by rw [units_eq]; ring
    _ ≤ num * unitsPerOne / den * den := Nat.mul_le_mul_right den least
    _ ≤ num * unitsPerOne := Nat.div_mul_le_self _ _

theorem ratioExponent_mono {num' den' : Nat} (positive : 0 < den) (positive' : 0 < den')
    (le : num * den' ≤ num' * den) : ratioExponent num den ≤ ratioExponent num' den' := by
  have floors : num * unitsPerOne / den ≤ num' * unitsPerOne / den' := by
    rw [Nat.le_div_iff_mul_le positive']
    refine Nat.le_of_mul_le_mul_right ?_ positive
    calc num * unitsPerOne / den * den' * den
      _ = num * unitsPerOne / den * den * den' := by ring
      _ ≤ num * unitsPerOne * den' := Nat.mul_le_mul_right den' (Nat.div_mul_le_self _ _)
      _ = num * den' * unitsPerOne := by ring
      _ ≤ num' * den * unitsPerOne := Nat.mul_le_mul_right _ le
      _ = num' * unitsPerOne * den := by ring
  have logs := log2_mono floors
  unfold ratioExponent
  omega

theorem roundedUnits_mono {num' den' : Nat} (positive : 0 < den) (positive' : 0 < den')
    (le : num * den' ≤ num' * den) : roundedUnits num den ≤ roundedUnits num' den' := by
  have exponents := ratioExponent_mono positive positive' le
  rcases exponents.eq_or_lt with same | less
  · unfold roundedUnits
    rw [← same]
    refine Nat.mul_le_mul_right _ ?_
    have unit := units_pos positive (ratioExponent num den)
    have unit' := units_pos positive' (ratioExponent num den)
    refine (nearest_roundHalfEven _ unit).mono (nearest_roundHalfEven _ unit') unit unit' ?_
    calc num * unitsPerOne * units den' (ratioExponent num den)
      _ = num * den' * (unitsPerOne * 2 ^ ratioExponent num den) := by rw [units_eq]; ring
      _ ≤ num' * den * (unitsPerOne * 2 ^ ratioExponent num den) := Nat.mul_le_mul_right _ le
      _ = num' * unitsPerOne * units den (ratioExponent num den) := by rw [units_eq]; ring
  · have high := roundHalfEven_le (units_pos positive _) (le_of_ratioExponent num positive)
    have low := le_roundHalfEven (units_pos positive' _)
      (ge_of_ratioExponent num' den' (by omega))
    calc roundedUnits num den
      _ ≤ 2 ^ 53 * 2 ^ ratioExponent num den := Nat.mul_le_mul_right _ high
      _ = 2 ^ 52 * 2 ^ (ratioExponent num den + 1) := by ring
      _ ≤ 2 ^ 52 * 2 ^ ratioExponent num' den' :=
        Nat.mul_le_mul_left _ (Nat.pow_le_pow_right (by decide) less)
      _ ≤ roundedUnits num' den' := Nat.mul_le_mul_right _ low

end

theorem roundedUnits_one_mono {a b : Nat} (le : a ≤ b) : roundedUnits a 1 ≤ roundedUnits b 1 :=
  roundedUnits_mono Nat.one_pos Nat.one_pos (Nat.mul_le_mul_right 1 le)

end StatTree.Binary64
