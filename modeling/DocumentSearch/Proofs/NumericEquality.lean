import Mathlib.Tactic.NormNum
import DocumentSearch.Json

/-!
Equality of numbers is equality of their values within one kind. Every finite floating point number
is an integer multiple of the least positive one, and no two words but those of the zeros stand for
the same multiple.
-/

namespace DocumentSearch

namespace Binary64

/-- The magnitude in units of the least positive number. An infinity counts as the power of two
behind the largest finite number. -/
def units (x : Binary64) : ℕ := x.significand * 2 ^ (max x.exponentBits 1 - 1)

def signedUnits (x : Binary64) : ℤ := if x.isNegative then -x.units else x.units

theorem fractionBits_lt (x : Binary64) : x.fractionBits < 2 ^ 52 :=
  Nat.mod_lt _ (by norm_num)

theorem units_lt (x : Binary64) : x.units < 2 ^ 52 * 2 ^ x.exponentBits := by
  have hfraction := x.fractionBits_lt
  unfold units significand
  by_cases hzero : x.exponentBits = 0
  · simpa [hzero] using hfraction
  · obtain ⟨e, he⟩ := Nat.exists_eq_succ_of_ne_zero hzero
    have hpower : max x.exponentBits 1 - 1 = e := by omega
    rw [if_neg hzero, hpower, he, pow_succ]
    calc (2 ^ 52 + x.fractionBits) * 2 ^ e < (2 ^ 52 + 2 ^ 52) * 2 ^ e :=
          Nat.mul_lt_mul_of_pos_right (by omega) (Nat.two_pow_pos e)
      _ = 2 ^ 52 * (2 ^ e * 2) := by omega

theorem le_units (x : Binary64) (h : x.exponentBits ≠ 0) :
    2 ^ 52 * 2 ^ (x.exponentBits - 1) ≤ x.units := by
  unfold units significand
  have hpower : max x.exponentBits 1 - 1 = x.exponentBits - 1 := by omega
  rw [if_neg h, hpower]
  exact Nat.mul_le_mul_right _ (by omega)

/-- A greater exponent means a greater magnitude, whatever the fractions are. -/
theorem units_lt_of_exponentBits_lt {x y : Binary64} (h : x.exponentBits < y.exponentBits) :
    x.units < y.units := by
  have hpower : 2 ^ x.exponentBits ≤ 2 ^ (y.exponentBits - 1) :=
    Nat.pow_le_pow_right (by norm_num) (by omega)
  calc x.units < 2 ^ 52 * 2 ^ x.exponentBits := x.units_lt
    _ ≤ 2 ^ 52 * 2 ^ (y.exponentBits - 1) := Nat.mul_le_mul_left _ hpower
    _ ≤ y.units := y.le_units (by omega)

theorem exponentBits_eq_of_units_eq {x y : Binary64} (h : x.units = y.units) :
    x.exponentBits = y.exponentBits := by
  rcases Nat.lt_trichotomy x.exponentBits y.exponentBits with hlt | heq | hgt
  · have hunits := units_lt_of_exponentBits_lt hlt
    omega
  · exact heq
  · have hunits := units_lt_of_exponentBits_lt hgt
    omega

theorem fractionBits_eq_of_units_eq {x y : Binary64} (h : x.units = y.units) :
    x.fractionBits = y.fractionBits := by
  have hexponent := exponentBits_eq_of_units_eq h
  have hsignificand : x.significand = y.significand := by
    unfold units at h
    rw [hexponent] at h
    exact Nat.eq_of_mul_eq_mul_right (Nat.two_pow_pos _) h
  unfold significand at hsignificand
  rw [hexponent] at hsignificand
  split at hsignificand <;> omega

theorem isZero_iff_units_eq_zero (x : Binary64) : x.isZero = true ↔ x.units = 0 := by
  unfold isZero units significand
  by_cases hzero : x.exponentBits = 0 <;> simp [hzero]

theorem bits_eq_of_units_eq {x y : Binary64} (hsign : x.isNegative = y.isNegative)
    (h : x.units = y.units) : x.bits = y.bits := by
  have hexponent := exponentBits_eq_of_units_eq h
  have hfraction := fractionBits_eq_of_units_eq h
  have hx := x.bits.toNat_lt
  have hy := y.bits.toNat_lt
  have hneg : 0x8000000000000000 ≤ x.bits.toNat ↔ 0x8000000000000000 ≤ y.bits.toNat := by
    simpa only [isNegative, decide_eq_decide] using hsign
  unfold exponentBits at hexponent
  unfold fractionBits at hfraction
  apply UInt64.toNat_inj.mp
  omega

theorem signedUnits_eq_iff {x y : Binary64} :
    x.signedUnits = y.signedUnits ↔ x.bits = y.bits ∨ x.isZero = true ∧ y.isZero = true := by
  rw [isZero_iff_units_eq_zero, isZero_iff_units_eq_zero]
  constructor
  · intro h
    by_cases hsign : x.isNegative = y.isNegative
    · refine Or.inl (bits_eq_of_units_eq hsign ?_)
      unfold signedUnits at h
      rw [hsign] at h
      split at h <;> omega
    · refine Or.inr ?_
      unfold signedUnits at h
      split at h <;> split at h <;> simp_all
  · rintro (hbits | ⟨hx, hy⟩)
    · obtain ⟨bits⟩ := x
      obtain ⟨others⟩ := y
      simp_all
    · simp [signedUnits, hx, hy]

/-- Two numbers are equal if neither is NaN and they have the same value. -/
theorem equals_iff {x y : Binary64} :
    x.equals y = true ↔
      x.isNaN = false ∧ y.isNaN = false ∧ x.signedUnits = y.signedUnits := by
  rw [signedUnits_eq_iff]
  simp [equals, and_assoc]

end Binary64

namespace Number

/-- Numbers of one kind with one value. -/
inductive Same : Number → Number → Prop
  | natural (n : UInt64) : Same (.natural n) (.natural n)
  | negative (below : Fin 0x8000000000000000) : Same (.negative below) (.negative below)
  | float {x y : Binary64} (hx : x.isNaN = false) (hy : y.isNaN = false)
      (hvalue : x.signedUnits = y.signedUnits) : Same (.float x) (.float y)

namespace Same

theorem symm {m n : Number} (h : Same m n) : Same n m := by
  cases h with
  | natural n => exact natural n
  | negative below => exact negative below
  | float hx hy hvalue => exact float hy hx hvalue.symm

theorem trans {m n k : Number} (h : Same m n) (h' : Same n k) : Same m k := by
  cases h with
  | natural n => exact h'
  | negative below => exact h'
  | float hx hy hvalue =>
    cases h' with
    | float _ hz hvalue' => exact float hx hz (hvalue.trans hvalue')

end Same

theorem equals_iff_same {m n : Number} : m.equals n = true ↔ Same m n := by
  constructor
  · intro h
    cases m <;> cases n <;> simp only [equals, beq_iff_eq, Bool.false_eq_true] at h
    · subst h
      exact .natural _
    · subst h
      exact .negative _
    · obtain ⟨hx, hy, hvalue⟩ := Binary64.equals_iff.mp h
      exact .float hx hy hvalue
  · intro h
    cases h with
    | natural n => exact beq_self_eq_true n
    | negative below => exact beq_self_eq_true below
    | float hx hy hvalue => exact Binary64.equals_iff.mpr ⟨hx, hy, hvalue⟩

end Number

end DocumentSearch
