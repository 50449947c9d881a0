import Mathlib.Tactic.LinearCombination
import DocumentSearch.Proofs.NumericEquality

/-!
Integers as floating point numbers. An integer of a document is rounded to a number that no finite
number is nearer to than; of two that are equally near, the one with the even fraction is taken.
Numbers of the magnitude of the integer or above lie on one grid, where rounding a quotient finds
the nearest point, and all others are further away than the lower end of that grid.
-/

namespace DocumentSearch

namespace Binary64

/-- One, in units of the least positive number. -/
def unitsOfOne : ℕ := 2 ^ 1074

/-- How far a number is from an integer, in units of the least positive number. -/
def distance (x : Binary64) (value : ℤ) : ℕ := (x.signedUnits - value * unitsOfOne).natAbs

/-- No finite number is nearer to the integer, and another one is as near only if the fraction of
this one is even. -/
structure IsNearest (x : Binary64) (value : ℤ) : Prop where
  finite : x.isFinite = true
  nearest : ∀ y : Binary64, y.isFinite = true → x.distance value ≤ y.distance value
  even : ∀ y : Binary64, y.isFinite = true → y.signedUnits ≠ x.signedUnits →
    y.distance value = x.distance value → x.fractionBits % 2 = 0

/-- How far a point of a grid is from a natural number. -/
def gap (point num : ℕ) : ℕ := ((point : ℤ) - num).natAbs

/-- The rounded quotient is one of the two next to the exact one, and even if it is halfway. -/
theorem roundDiv_cases (num den : ℕ) :
    (roundDiv num den = num / den ∧ 2 * (num % den) ≤ den ∧
        (2 * (num % den) = den → num / den % 2 = 0)) ∨
      (roundDiv num den = num / den + 1 ∧ den ≤ 2 * (num % den) ∧
        (2 * (num % den) = den → (num / den + 1) % 2 = 0)) := by
  simp only [roundDiv]
  split_ifs <;> omega

/-- A point of a grid is one of two neighbours or at least a whole step away from them. -/
theorem mul_neighbours (k quotient den : ℕ) :
    k * den + den ≤ quotient * den ∨ k = quotient ∨ k = quotient + 1 ∨
      quotient * den + 2 * den ≤ k * den := by
  rcases Nat.lt_or_ge k quotient with hlt | hge
  · have hmul := Nat.mul_le_mul_right den hlt
    rw [Nat.succ_mul] at hmul
    exact Or.inl hmul
  · rcases Nat.lt_or_ge (quotient + 1) k with hlt | hle
    · have hmul := Nat.mul_le_mul_right den hlt
      rw [Nat.succ_mul, Nat.succ_mul] at hmul
      omega
    · omega

/-- No multiple of `den` is nearer to `num` than that of the rounded quotient. -/
theorem gap_roundDiv_le (num : ℕ) {den : ℕ} (hden : 0 < den) (k : ℕ) :
    gap (roundDiv num den * den) num ≤ gap (k * den) num := by
  have hdivision := Nat.div_add_mod' num den
  have hremainder := Nat.mod_lt num hden
  have hnext : (num / den + 1) * den = num / den * den + den := Nat.succ_mul _ _
  have hside := mul_neighbours k (num / den) den
  unfold gap
  rcases roundDiv_cases num den with ⟨hround, hhalf, -⟩ | ⟨hround, hhalf, -⟩
  · rw [hround]
    rcases hside with hbelow | rfl | rfl | habove <;> omega
  · rw [hround]
    rcases hside with hbelow | rfl | rfl | habove <;> omega

theorem roundDiv_even_of_gap_eq {num den k : ℕ} (hden : 0 < den) (hk : k ≠ roundDiv num den)
    (h : gap (k * den) num = gap (roundDiv num den * den) num) : roundDiv num den % 2 = 0 := by
  have hdivision := Nat.div_add_mod' num den
  have hremainder := Nat.mod_lt num hden
  have hnext : (num / den + 1) * den = num / den * den + den := Nat.succ_mul _ _
  have hside := mul_neighbours k (num / den) den
  unfold gap at h
  rcases roundDiv_cases num den with ⟨hround, hhalf, heven⟩ | ⟨hround, hhalf, heven⟩
  · rw [hround] at hk h ⊢
    rcases hside with hbelow | rfl | rfl | habove
    · omega
    · exact absurd rfl hk
    · omega
    · omega
  · rw [hround] at hk h ⊢
    rcases hside with hbelow | rfl | rfl | habove
    · omega
    · omega
    · exact absurd rfl hk
    · omega

/-- The word of a significand of 53 bits, or of the least one that is too wide. -/
structure IsWord (x : Binary64) (negative : Bool) (significand exponent : ℕ) : Prop where
  wide : 2 ^ 52 ≤ significand
  narrow : significand ≤ 2 ^ 53
  small : exponent < 2045
  word : x = ofMagnitude negative (exponent * 0x10000000000000 + significand)

namespace IsWord

variable {x : Binary64} {negative : Bool} {significand exponent : ℕ}

theorem toNat_bits (h : x.IsWord negative significand exponent) :
    x.bits.toNat = exponent * 0x10000000000000 + significand +
      if negative then 0x8000000000000000 else 0 := by
  have hnarrow := h.narrow
  have hsmall := h.small
  rw [h.word, ofMagnitude, UInt64.toNat_ofNat']
  exact Nat.mod_eq_of_lt (by split <;> omega)

theorem isNegative_eq (h : x.IsWord negative significand exponent) :
    x.isNegative = negative := by
  have hnarrow := h.narrow
  have hsmall := h.small
  rw [isNegative, h.toNat_bits]
  cases negative
  · simp only [Bool.false_eq_true, if_false, decide_eq_false_iff_not]
    omega
  · simp

theorem exponentBits_eq (h : x.IsWord negative significand exponent) :
    x.exponentBits = if significand = 2 ^ 53 then exponent + 2 else exponent + 1 := by
  have hwide := h.wide
  have hnarrow := h.narrow
  have hsmall := h.small
  rw [exponentBits, h.toNat_bits]
  split <;> split <;> omega

theorem fractionBits_eq (h : x.IsWord negative significand exponent) :
    x.fractionBits = if significand = 2 ^ 53 then 0 else significand - 2 ^ 52 := by
  have hwide := h.wide
  have hnarrow := h.narrow
  rw [fractionBits, h.toNat_bits]
  split <;> split <;> omega

theorem isFinite (h : x.IsWord negative significand exponent) : x.isFinite = true := by
  have hsmall := h.small
  rw [Binary64.isFinite, h.exponentBits_eq, bne_iff_ne]
  split <;> omega

theorem units_eq (h : x.IsWord negative significand exponent) :
    x.units = significand * 2 ^ exponent := by
  have hwide := h.wide
  rw [units, Binary64.significand, h.exponentBits_eq, h.fractionBits_eq]
  by_cases hcarry : significand = 2 ^ 53
  · simp only [hcarry, if_true]
    rw [if_neg (by omega), show max (exponent + 2) 1 - 1 = exponent + 1 by omega,
      pow_succ 2 exponent]
    omega
  · simp only [hcarry, if_false]
    have hsum : 0x10000000000000 + (significand - 2 ^ 52) = significand := by omega
    rw [if_neg (by omega), show max (exponent + 1) 1 - 1 = exponent by omega, hsum]

theorem signedUnits_eq (h : x.IsWord negative significand exponent) :
    x.signedUnits =
      if negative then -((significand * 2 ^ exponent : ℕ) : ℤ)
      else ((significand * 2 ^ exponent : ℕ) : ℤ) := by
  rw [signedUnits, h.isNegative_eq, h.units_eq]

end IsWord

/-- A number is on a grid or below the lower end of its range of magnitudes. -/
theorem units_on_grid (x : Binary64) (p : ℕ) :
    (∃ k, x.units = k * 2 ^ p) ∨ x.units < 2 ^ 52 * 2 ^ p := by
  rcases Nat.lt_or_ge p x.exponentBits with hlt | hge
  · have hpower : max x.exponentBits 1 - 1 = (x.exponentBits - 1 - p) + p := by omega
    refine Or.inl ⟨x.significand * 2 ^ (x.exponentBits - 1 - p), ?_⟩
    rw [units, hpower, pow_add, Nat.mul_assoc]
  · have hpower : 2 ^ x.exponentBits ≤ 2 ^ p := Nat.pow_le_pow_right (by norm_num) hge
    exact Or.inr (Nat.lt_of_lt_of_le x.units_lt (Nat.mul_le_mul_left _ hpower))

/-- Gaps on a grid are those on the grid that it is scaled from. -/
theorem gap_scaled {num num' den step : ℕ} (h : num * den = num' * step) (k : ℕ) :
    den * gap (k * step) num = step * gap (k * den) num' := by
  have hcast : (num : ℤ) * den = num' * step := by exact_mod_cast h
  have hscaled : (den : ℤ) * ((k * step : ℕ) - num) = step * ((k * den : ℕ) - num') := by
    push_cast
    linear_combination -hcast
  have habs := congrArg Int.natAbs hscaled
  rwa [Int.natAbs_mul, Int.natAbs_mul] at habs

/-- The power of two that the last place of an integer with the given logarithm has. -/
theorem unitExponent_one {num : ℕ} (hnum : num ≠ 0) :
    unitExponent num 1 = max ((num.log2 : ℤ) - 52) (-1074) := by
  have hlow : 2 ^ num.log2 ≤ num := Nat.log2_self_le hnum
  have hlog : Nat.log2 1 = 0 := by decide
  simp [unitExponent, powerFactors, hlog, hlow]

/-- The leading 53 bits of an integer, rounded. -/
def leadingBits (num : ℕ) : ℕ := roundDiv (num * 2 ^ (52 - num.log2)) (2 ^ (num.log2 - 52))

theorem leadingBits_bounds {num : ℕ} (hnum : num ≠ 0) :
    2 ^ 52 * 2 ^ (num.log2 - 52) ≤ num * 2 ^ (52 - num.log2) ∧
      2 ^ 52 ≤ leadingBits num ∧ leadingBits num ≤ 2 ^ 53 := by
  have hlow : 2 ^ num.log2 ≤ num := Nat.log2_self_le hnum
  have hhigh : num < 2 ^ (num.log2 + 1) := Nat.lt_log2_self
  have hscale : 2 ^ 52 * 2 ^ (num.log2 - 52) = 2 ^ num.log2 * 2 ^ (52 - num.log2) := by
    rw [← pow_add, ← pow_add]
    congr 1
    omega
  have hdouble : 2 ^ 53 * 2 ^ (num.log2 - 52) = 2 ^ (num.log2 + 1) * 2 ^ (52 - num.log2) := by
    rw [← pow_add, ← pow_add]
    congr 1
    omega
  have hbelow : 2 ^ 52 * 2 ^ (num.log2 - 52) ≤ num * 2 ^ (52 - num.log2) :=
    hscale ▸ Nat.mul_le_mul_right _ hlow
  have habove : num * 2 ^ (52 - num.log2) < 2 ^ 53 * 2 ^ (num.log2 - 52) :=
    hdouble ▸ Nat.mul_lt_mul_of_pos_right hhigh (Nat.two_pow_pos _)
  have hquotient := (Nat.le_div_iff_mul_le (Nat.two_pow_pos _)).mpr hbelow
  have hless := (Nat.div_lt_iff_lt_mul (Nat.two_pow_pos _)).mpr habove
  refine ⟨hbelow, ?_⟩
  rw [leadingBits]
  rcases roundDiv_cases (num * 2 ^ (52 - num.log2)) (2 ^ (num.log2 - 52)) with h | h <;> omega

theorem isWord_ofRatio (negative : Bool) {num : ℕ} (hnum : num ≠ 0) (hsize : num < 2 ^ 64) :
    (ofRatio negative num 1).IsWord negative (leadingBits num) (num.log2 + 1022) := by
  have hlog : num.log2 < 64 := (Nat.log2_lt hnum).mpr hsize
  obtain ⟨-, hwide, hnarrow⟩ := leadingBits_bounds hnum
  refine ⟨hwide, hnarrow, by omega, ?_⟩
  have hunit : unitExponent num 1 = (num.log2 : ℤ) - 52 := by
    rw [unitExponent_one hnum]
    omega
  have hup : ((num.log2 : ℤ) - 52).toNat = num.log2 - 52 := by omega
  have hdown : (-((num.log2 : ℤ) - 52)).toNat = 52 - num.log2 := by omega
  have hexponent : ((num.log2 : ℤ) - 52 + 1074).toNat = num.log2 + 1022 := by omega
  simp only [ofRatio, if_neg hnum, hunit, powerFactors, hup, hdown, hexponent, Nat.pow_eq,
    Nat.one_mul]
  change ofMagnitude negative (min ((num.log2 + 1022) * 0x10000000000000 + leadingBits num)
    infinityMagnitude) = _
  rw [Nat.min_eq_left (by unfold infinityMagnitude; omega)]

/-- Of all magnitudes of numbers none is nearer to an integer than the rounded one, and one that is
as near tells that the rounded one is even. -/
theorem gap_leadingBits {num : ℕ} (hnum : num ≠ 0) (y : Binary64) :
    gap (leadingBits num * 2 ^ (num.log2 + 1022)) (num * unitsOfOne) ≤
        gap y.units (num * unitsOfOne) ∧
      (y.units ≠ leadingBits num * 2 ^ (num.log2 + 1022) →
        gap y.units (num * unitsOfOne) =
          gap (leadingBits num * 2 ^ (num.log2 + 1022)) (num * unitsOfOne) →
        leadingBits num % 2 = 0) := by
  have hden : 0 < 2 ^ (num.log2 - 52) := Nat.two_pow_pos _
  have hstep : 0 < 2 ^ (num.log2 + 1022) := Nat.two_pow_pos _
  have hscale : num * unitsOfOne * 2 ^ (num.log2 - 52) =
      num * 2 ^ (52 - num.log2) * 2 ^ (num.log2 + 1022) := by
    rw [unitsOfOne, Nat.mul_assoc, Nat.mul_assoc, ← pow_add, ← pow_add]
    congr 2
    omega
  have hgap := gap_scaled hscale
  have hnearest : ∀ k, gap (leadingBits num * 2 ^ (num.log2 + 1022)) (num * unitsOfOne) ≤
      gap (k * 2 ^ (num.log2 + 1022)) (num * unitsOfOne) := by
    intro k
    refine Nat.le_of_mul_le_mul_left ?_ hden
    rw [hgap, hgap]
    exact Nat.mul_le_mul_left _ (gap_roundDiv_le _ hden k)
  rcases y.units_on_grid (num.log2 + 1022) with ⟨k, hk⟩ | hbelow
  · rw [hk]
    refine ⟨hnearest k, fun hne heq => ?_⟩
    refine roundDiv_even_of_gap_eq hden (k := k) (fun hk => hne (by rw [hk]; rfl)) ?_
    refine Nat.eq_of_mul_eq_mul_left hstep ?_
    rw [← hgap, ← hgap, heq]
    rfl
  · have hend : 2 ^ 52 * 2 ^ (num.log2 + 1022) ≤ num * unitsOfOne := by
      refine Nat.le_of_mul_le_mul_right ?_ hden
      rw [hscale, Nat.mul_right_comm]
      exact Nat.mul_le_mul_right _ (leadingBits_bounds hnum).1
    have hlower := hnearest (2 ^ 52)
    unfold gap at hlower ⊢
    generalize leadingBits num * 2 ^ (num.log2 + 1022) = rounded at *
    generalize 2 ^ 52 * 2 ^ (num.log2 + 1022) = lower at *
    generalize num * unitsOfOne = exact at *
    omega

/-- Numbers of one sign are as far apart as their magnitudes, and others as both together. -/
theorem natAbs_signed_sub (negative negative' : Bool) (m n : ℕ) :
    ((if negative then -(m : ℤ) else m) - (if negative' then -(n : ℤ) else n)).natAbs =
      if negative = negative' then gap m n else m + n := by
  unfold gap
  cases negative <;> cases negative' <;>
    simp only [if_true, if_false, Bool.false_eq_true, reduceCtorEq] <;> omega

theorem isNearest_ofRatio (negative : Bool) {num : ℕ} (hnum : num ≠ 0) (hsize : num < 2 ^ 64) :
    (ofRatio negative num 1).IsNearest (if negative then -(num : ℤ) else num) := by
  have hword := isWord_ofRatio negative hnum hsize
  have hwide := (leadingBits_bounds hnum).2.1
  have hpositive : 0 < leadingBits num * 2 ^ (num.log2 + 1022) :=
    Nat.mul_pos (by omega) (Nat.two_pow_pos _)
  have hvalue : (if negative then -(num : ℤ) else num) * unitsOfOne =
      if negative then -((num * unitsOfOne : ℕ) : ℤ) else ((num * unitsOfOne : ℕ) : ℤ) := by
    rw [ite_mul, neg_mul, Int.natCast_mul]
  have hdistance : ∀ y : Binary64,
      y.distance (if negative then -(num : ℤ) else num) =
        if y.isNegative = negative then gap y.units (num * unitsOfOne)
        else y.units + num * unitsOfOne := by
    intro y
    rw [distance, hvalue, signedUnits, natAbs_signed_sub]
  -- No magnitude is nearer than zero, and zero is as far away as the integer is great.
  have hzero : gap (leadingBits num * 2 ^ (num.log2 + 1022)) (num * unitsOfOne) ≤
      num * unitsOfOne := by
    have hle := (gap_leadingBits hnum zero).1
    rw [show zero.units = 0 by decide] at hle
    unfold gap at hle ⊢
    omega
  refine ⟨hword.isFinite, fun y _ => ?_, fun y _ hne heq => ?_⟩
  · have hnearest := (gap_leadingBits hnum y).1
    rw [hdistance, hdistance, hword.isNegative_eq, hword.units_eq, if_pos rfl]
    split
    · exact hnearest
    · omega
  · have heven : leadingBits num % 2 = 0 := by
      rw [hdistance, hdistance, hword.isNegative_eq, hword.units_eq, if_pos rfl] at heq
      by_cases hsign : y.isNegative = negative
      · rw [if_pos hsign] at heq
        refine (gap_leadingBits hnum y).2 (fun hunits => hne ?_) heq
        rw [hword.signedUnits_eq, signedUnits, hsign, hunits]
      · rw [if_neg hsign] at heq
        have hunits : y.units = 0 := by omega
        refine (gap_leadingBits hnum y).2 (by omega) ?_
        rw [← heq, hunits, gap]
        omega
    rw [hword.fractionBits_eq]
    split <;> omega

theorem isNearest_ofNat {n : ℕ} (hsize : n < 2 ^ 64) : (ofNat n).IsNearest n := by
  by_cases hzero : n = 0
  · subst hzero
    have hdistance : (ofNat 0).distance (0 : ℕ) = 0 := by
      rw [distance, show (ofNat 0).signedUnits = 0 by decide, Int.natCast_zero, zero_mul, sub_zero,
        Int.natAbs_zero]
    refine ⟨by decide, fun y _ => ?_, fun y _ _ _ => by decide⟩
    rw [hdistance]
    exact Nat.zero_le _
  · exact isNearest_ofRatio false hzero hsize

theorem isNearest_ofInt_negSucc {n : ℕ} (hsize : n < 2 ^ 63) :
    (ofInt (.negSucc n)).IsNearest (.negSucc n) := by
  have hnegative : decide (Int.negSucc n < 0) = true := decide_eq_true (Int.negSucc_lt_zero n)
  rw [ofInt, hnegative]
  exact isNearest_ofRatio true n.succ_ne_zero (by omega)

end Binary64

namespace Number

/-- The number that stands for the value of another one in the nearest way. A floating point number
stands for itself. -/
def NearestIs : Number → Binary64 → Prop
  | .natural n, x => x.IsNearest n.toNat
  | .negative n, x => x.IsNearest (.negSucc n)
  | .float y, x => x = y

theorem nearestIs_toBinary64 (n : Number) : n.NearestIs n.toBinary64 := by
  cases n with
  | natural n => exact Binary64.isNearest_ofNat n.toNat_lt
  | negative n => exact Binary64.isNearest_ofInt_negSucc n.isLt
  | float x => exact rfl

end Number

end DocumentSearch
