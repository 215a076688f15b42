/-
# Rounding to the nearest double

A double stands for a significand times a power of two. The quotients that lie around it, up to half
way to its neighbours, round to it and to no other double (`roundQuotient_eq`). Half way is rounded
to the double with the even significand; below a power of two the lower neighbour is only half as
far. A decimal number with a power of ten that is not too large is rounded like the quotient that it
is (`roundDecimal_eq`).
-/
import Mathlib.Algebra.Order.Field.Power
import Mathlib.Algebra.Order.Ring.Abs
import Mathlib.Data.Rat.Cast.Order
import Mathlib.Tactic.FieldSimp
import Mathlib.Tactic.Linarith
import Mathlib.Tactic.NormNum
import Mathlib.Tactic.Positivity
import Mathlib.Tactic.Ring
import WindowSystem.Number.Decimal

namespace WindowSystem

theorem cast_twoTo (n : Nat) : (twoTo n : ℚ) = 2 ^ n := Nat.cast_pow 2 n

theorem cast_tenTo (n : Nat) : (tenTo n : ℚ) = 10 ^ n := Nat.cast_pow 10 n

theorem twoTo_pos (n : Nat) : 0 < twoTo n := Nat.pow_pos (by decide)

theorem tenTo_pos (n : Nat) : 0 < tenTo n := Nat.pow_pos (by decide)

namespace BinaryFormat

/-! ## Scaling -/

/-- Scaling divides a quotient by a power of two. -/
theorem scaleDown_eq (num : Nat) {den : Nat} (hden : 0 < den) (e : Int) :
    0 < (scaleDown num den e).2 ∧
      ((scaleDown num den e).1 : ℚ) / (scaleDown num den e).2 = num / den * 2 ^ (-e) := by
  have hden' : (den : ℚ) ≠ 0 := by positivity
  unfold scaleDown
  by_cases he : 0 ≤ e
  · rw [if_pos he]
    refine ⟨Nat.mul_pos hden (twoTo_pos _), ?_⟩
    lift e to ℕ using he
    rw [zpow_neg, zpow_natCast, Int.toNat_natCast, Nat.cast_mul, cast_twoTo]
    field_simp
  · rw [if_neg he]
    refine ⟨hden, ?_⟩
    obtain ⟨k, hk⟩ : ∃ k : ℕ, -e = k := ⟨(-e).toNat, by omega⟩
    rw [hk, zpow_natCast, Int.toNat_natCast, Nat.cast_mul, cast_twoTo]
    field_simp

/-- A positive number lies between the power of two of its logarithm and the next. -/
theorem zpow_log2_bounds {n : Nat} (hn : 0 < n) :
    (2 : ℚ) ^ (n.log2 : ℤ) ≤ n ∧ (n : ℚ) < 2 ^ ((n.log2 : ℤ) + 1) := by
  constructor
  · have h := Nat.log2_self_le hn.ne'
    rw [zpow_natCast]
    exact_mod_cast h
  · have h := Nat.lt_log2_self (n := n)
    have h' : (n : ℚ) < 2 ^ (n.log2 + 1) := by exact_mod_cast h
    exact_mod_cast h'

/-- A quotient of positive numbers lies between the powers of two around the difference of their
logarithms. -/
theorem div_log2_bounds {num den : Nat} (hnum : 0 < num) (hden : 0 < den) :
    (2 : ℚ) ^ ((num.log2 : ℤ) - den.log2 - 1) ≤ num / den ∧
      (num : ℚ) / den < 2 ^ ((num.log2 : ℤ) - den.log2 + 1) := by
  have hden' : (0 : ℚ) < den := by positivity
  obtain ⟨hnumLow, hnumHigh⟩ := zpow_log2_bounds hnum
  obtain ⟨hdenLow, hdenHigh⟩ := zpow_log2_bounds hden
  constructor
  · rw [le_div_iff₀ hden']
    calc (2 : ℚ) ^ ((num.log2 : ℤ) - den.log2 - 1) * den
        ≤ 2 ^ ((num.log2 : ℤ) - den.log2 - 1) * 2 ^ ((den.log2 : ℤ) + 1) := by gcongr
      _ = 2 ^ (num.log2 : ℤ) := by
        rw [← zpow_add₀ two_ne_zero]
        ring_nf
      _ ≤ num := hnumLow
  · rw [div_lt_iff₀ hden']
    calc (num : ℚ) < 2 ^ ((num.log2 : ℤ) + 1) := hnumHigh
      _ = 2 ^ ((num.log2 : ℤ) - den.log2 + 1) * 2 ^ (den.log2 : ℤ) := by
        rw [← zpow_add₀ two_ne_zero]
        ring_nf
      _ ≤ 2 ^ ((num.log2 : ℤ) - den.log2 + 1) * den := by gcongr

/-- The place is so chosen that the quotient has the width of a significand, or it is the least. -/
theorem placeOf_bounds (f : BinaryFormat) {num den : Nat} (hnum : 0 < num) (hden : 0 < den) :
    f.leastExponent ≤ f.placeOf num den ∧
      (num : ℚ) / den < 2 ^ (f.placeOf num den + f.fractionBits + 1) ∧
      (f.leastExponent < f.placeOf num den →
        (2 : ℚ) ^ (f.placeOf num den + f.fractionBits) ≤ num / den) := by
  obtain ⟨hlow, hhigh⟩ := div_log2_bounds hnum hden
  let guess : Int := (num.log2 : Int) - den.log2 - f.fractionBits - 1
  obtain ⟨hpos, hscaled⟩ := scaleDown_eq num hden guess
  -- the guess or the place above it leaves the quotient one bit wider than the fraction
  let place : Int :=
    if (scaleDown num den guess).1 / (scaleDown num den guess).2 < twoTo (f.fractionBits + 1)
    then guess else guess + 1
  have hwidth : (num : ℚ) / den < 2 ^ (place + f.fractionBits + 1) ∧
      (2 : ℚ) ^ (place + f.fractionBits) ≤ num / den := by
    have hfits : (scaleDown num den guess).1 / (scaleDown num den guess).2 <
        twoTo (f.fractionBits + 1) ↔ (num : ℚ) / den < 2 ^ (guess + f.fractionBits + 1) := by
      have hpos' : (0 : ℚ) < (scaleDown num den guess).2 := by exact_mod_cast hpos
      rw [Nat.div_lt_iff_lt_mul hpos, ← Nat.cast_lt (α := ℚ), Nat.cast_mul, cast_twoTo,
        ← div_lt_iff₀ hpos', hscaled, zpow_neg, ← div_eq_mul_inv, div_lt_iff₀ (by positivity),
        ← zpow_natCast, ← zpow_add₀ two_ne_zero]
      push_cast
      rw [show (f.fractionBits : ℤ) + 1 + guess = guess + f.fractionBits + 1 by ring]
    by_cases hnarrow : (scaleDown num den guess).1 / (scaleDown num den guess).2 <
        twoTo (f.fractionBits + 1)
    · have hplace : place = guess := if_pos hnarrow
      rw [hplace]
      refine ⟨hfits.mp hnarrow, ?_⟩
      rwa [show guess + f.fractionBits = (num.log2 : ℤ) - den.log2 - 1 by omega]
    · have hplace : place = guess + 1 := if_neg hnarrow
      rw [hplace]
      constructor
      · rwa [show guess + 1 + f.fractionBits + 1 = (num.log2 : ℤ) - den.log2 + 1 by omega]
      · rw [show guess + 1 + f.fractionBits = guess + f.fractionBits + 1 by ring]
        exact not_lt.mp (fun h => hnarrow (hfits.mpr h))
  have hplaceOf : f.placeOf num den = max place f.leastExponent := rfl
  rw [hplaceOf]
  refine ⟨le_max_right _ _, ?_, fun habove => ?_⟩
  · calc (num : ℚ) / den < 2 ^ (place + f.fractionBits + 1) := hwidth.1
      _ ≤ 2 ^ (max place f.leastExponent + f.fractionBits + 1) := by
        refine zpow_le_zpow_right₀ one_le_two ?_
        have := le_max_left place f.leastExponent
        omega
  · rw [max_eq_left (by omega)]
    exact hwidth.2

/-- Rounding gives the whole number at most a half of the denominator away; at a half, the even
one. -/
theorem roundHalfEven_of_halves {n d m : Nat} (hd : 0 < d) (hlow : 2 * m * d ≤ 2 * n + d)
    (hhigh : 2 * n ≤ 2 * m * d + d)
    (hodd : m % 2 = 1 → 2 * m * d < 2 * n + d ∧ 2 * n < 2 * m * d + d) :
    roundHalfEven n d = m := by
  have hsplit : d * (n / d) + n % d = n := Nat.div_add_mod n d
  have hrest : n % d < d := Nat.mod_lt n hd
  have hprod : 2 * m * d = 2 * (d * m) := by ring
  have hbelow : n / d ≤ m := by
    by_contra hgt
    have : d * (m + 1) ≤ d * (n / d) := Nat.mul_le_mul_left d (by omega)
    rw [Nat.mul_add, Nat.mul_one] at this
    omega
  have habove : m ≤ n / d + 1 := by
    by_contra hgt
    have : d * (n / d + 2) ≤ d * m := Nat.mul_le_mul_left d (by omega)
    rw [Nat.mul_add] at this
    omega
  unfold roundHalfEven
  rcases Nat.lt_or_ge (n / d) m with hlt | hge
  · have hm : m = n / d + 1 := by omega
    have hstep : d * m = d * (n / d) + d := by
      rw [hm]
      ring
    by_cases htie : 2 * (n % d) = d
    · have heven : ¬ m % 2 = 1 := fun hm => by
        have := (hodd hm).1
        omega
      rw [if_neg (by omega), if_neg (by omega), if_neg (by omega)]
      exact hm.symm
    · rw [if_neg (by omega), if_pos (by omega)]
      exact hm.symm
  · have hm : n / d = m := by omega
    rw [hm] at hsplit
    by_cases htie : 2 * (n % d) = d
    · have heven : ¬ m % 2 = 1 := fun hm => by
        have := (hodd hm).2
        omega
      rw [if_neg (by omega), if_neg (by omega), if_pos (by omega)]
      exact hm
    · rw [if_pos (by omega)]
      exact hm

/-- Rounding gives the whole number at most a half away; at a half, the even one. -/
theorem roundHalfEven_eq {n d m : Nat} (hd : 0 < d) (h : |(n : ℚ) / d - m| ≤ 1 / 2)
    (hodd : m % 2 = 1 → |(n : ℚ) / d - m| < 1 / 2) : roundHalfEven n d = m := by
  have hd' : (0 : ℚ) < d := by exact_mod_cast hd
  have hscale : ((n : ℚ) / d - m) * d = n - m * d := by
    rw [sub_mul, div_mul_cancel₀ _ hd'.ne']
  refine roundHalfEven_of_halves hd ?_ ?_ fun hm => ?_
  · have hdist := mul_le_mul_of_nonneg_right (abs_le.mp h).1 hd'.le
    rw [hscale] at hdist
    have : 2 * (m : ℚ) * d ≤ 2 * n + d := by linarith
    exact_mod_cast this
  · have hdist := mul_le_mul_of_nonneg_right (abs_le.mp h).2 hd'.le
    rw [hscale] at hdist
    have : 2 * (n : ℚ) ≤ 2 * m * d + d := by linarith
    exact_mod_cast this
  · obtain ⟨hleft, hright⟩ := abs_lt.mp (hodd hm)
    have hleft := mul_lt_mul_of_pos_right hleft hd'
    have hright := mul_lt_mul_of_pos_right hright hd'
    rw [hscale] at hleft hright
    have hlow : 2 * (m : ℚ) * d < 2 * n + d := by linarith
    have hhigh : 2 * (n : ℚ) < 2 * m * d + d := by linarith
    exact ⟨by exact_mod_cast hlow, by exact_mod_cast hhigh⟩

end BinaryFormat

/-! ## What rounds to a double -/

open BinaryFormat

/-- A significand and an exponent as a finite double has them. -/
structure IsFinite (m : Nat) (q : Int) : Prop where
  least_le : double.leastExponent ≤ q
  lt : m < twoTo 53
  full : double.leastExponent < q → twoTo 52 ≤ m

/-- The numbers that round to `m · 2 ^ q`; its ends belong to the interval if `m` is even. -/
structure RoundsTo (m : Nat) (q : Int) (v : ℚ) : Prop where
  low_le : (roundingInterval m q).1 * 2 ^ (q - 2) ≤ v
  le_high : v ≤ (roundingInterval m q).2 * 2 ^ (q - 2)
  low_lt : m % 2 = 1 → (roundingInterval m q).1 * 2 ^ (q - 2) < v
  lt_high : m % 2 = 1 → v < (roundingInterval m q).2 * 2 ^ (q - 2)

/-- The bits of `m · 2 ^ q` below the sign: the significand carries into the exponent field. -/
def patternOf (m : Nat) (q : Int) : Nat := (q - double.leastExponent).toNat * twoTo 52 + m

theorem roundingInterval_edge {m : Nat} {q : Int}
    (h : m = twoTo 52 ∧ double.leastExponent < q) :
    roundingInterval m q = (4 * m - 1, 4 * m + 2) := if_pos h

theorem roundingInterval_inner {m : Nat} {q : Int}
    (h : ¬(m = twoTo 52 ∧ double.leastExponent < q)) :
    roundingInterval m q = (4 * m - 2, 4 * m + 2) := if_neg h

/-- The interval in halves of the last place. -/
theorem roundingInterval_bounds {m : Nat} (hm : 0 < m) (q : Int) :
    4 * m ≤ (roundingInterval m q).1 + 2 ∧ (roundingInterval m q).1 < 4 * m ∧
      (roundingInterval m q).2 = 4 * m + 2 := by
  by_cases hedge : m = twoTo 52 ∧ double.leastExponent < q
  · rw [roundingInterval_edge hedge]
    exact ⟨by omega, by omega, rfl⟩
  · rw [roundingInterval_inner hedge]
    exact ⟨by omega, by omega, rfl⟩

/-- A quarter of a power of two, as it stands in the interval. -/
theorem zpow_sub_two (q : Int) : (2 : ℚ) ^ (q - 2) = 2 ^ q / 4 := by
  rw [zpow_sub₀ two_ne_zero]
  norm_num

namespace RoundsTo

variable {m : Nat} {q : Int} {v : ℚ}

/-- What rounds to a double is at most half a place away, and less if the significand is odd. -/
theorem abs_sub_le (h : RoundsTo m q v) (hm : 0 < m) :
    |v - m * 2 ^ q| ≤ 2 ^ q / 2 ∧ (m % 2 = 1 → |v - m * 2 ^ q| < 2 ^ q / 2) := by
  obtain ⟨hlow, -, hhigh⟩ := roundingInterval_bounds hm q
  have hunit : (0 : ℚ) < 2 ^ q := by positivity
  have hlow' : (4 : ℚ) * m ≤ (roundingInterval m q).1 + 2 := by exact_mod_cast hlow
  have hscaled := mul_le_mul_of_nonneg_right hlow' hunit.le
  have hleft := h.low_le
  have hright := h.le_high
  rw [zpow_sub_two] at hleft hright
  rw [hhigh] at hright
  push_cast at hright
  constructor
  · rw [abs_le]
    constructor <;> linarith
  · intro hodd
    have hleft' := h.low_lt hodd
    have hright' := h.lt_high hodd
    rw [zpow_sub_two] at hleft' hright'
    rw [hhigh] at hright'
    push_cast at hright'
    rw [abs_lt]
    constructor <;> linarith

/-- What rounds to a power of two from below is at most a quarter of a place away. -/
theorem edge_le (h : RoundsTo (twoTo 52) q v) (hq : double.leastExponent < q) :
    (twoTo 52 : ℚ) * 2 ^ q - 2 ^ q / 4 ≤ v := by
  have hleft := h.low_le
  rw [roundingInterval_edge ⟨rfl, hq⟩, zpow_sub_two] at hleft
  have hcast : ((4 * twoTo 52 - 1 : ℕ) : ℚ) = 4 * twoTo 52 - 1 := by
    rw [Nat.cast_sub (by decide)]
    push_cast
    rfl
  rw [hcast] at hleft
  linarith

theorem pos (h : RoundsTo m q v) (hm : 0 < m) : 2 ^ q / 2 ≤ v := by
  have hunit : (0 : ℚ) < 2 ^ q := by positivity
  have hnear := (abs_le.mp (h.abs_sub_le hm).1).1
  have hone : (1 : ℚ) ≤ m := by exact_mod_cast hm
  have hscaled := mul_le_mul_of_nonneg_right hone hunit.le
  linarith

/-- What rounds to a double and is less than the least full significand rounds to the double with
that significand. -/
theorem eq_edge (h : RoundsTo m q v) (hm : 0 < m) (hfull : twoTo 52 ≤ m)
    (hbelow : v < twoTo 52 * 2 ^ q) : m = twoTo 52 := by
  refine Nat.le_antisymm (not_lt.mp fun habove => ?_) hfull
  have hunit : (0 : ℚ) < 2 ^ q := by positivity
  have hnear := (abs_le.mp (h.abs_sub_le hm).1).1
  have habove' : (twoTo 52 : ℚ) + 1 ≤ m := by exact_mod_cast habove
  have hscaled := mul_le_mul_of_nonneg_right habove' hunit.le
  linarith

/-- What rounds to a double is less than any number with a wider significand. -/
theorem lt_wide (h : RoundsTo m q v) (hm : 0 < m) (hwidth : m < twoTo 53) :
    v < twoTo 53 * 2 ^ q := by
  have hunit : (0 : ℚ) < 2 ^ q := by positivity
  have hnear := (abs_le.mp (h.abs_sub_le hm).1).2
  have hwidth' : (m : ℚ) + 1 ≤ twoTo 53 := by exact_mod_cast hwidth
  have hscaled := mul_le_mul_of_nonneg_right hwidth' hunit.le
  linarith

/-- What rounds to a power of two from below is no place lower. -/
theorem edge_half_lt (h : RoundsTo (twoTo 52) q v) (hq : double.leastExponent < q) :
    (twoTo 51 : ℚ) * 2 ^ q < v := by
  have hunit : (0 : ℚ) < 2 ^ q := by positivity
  have hquarter := h.edge_le hq
  have htwo : (twoTo 52 : ℚ) = 2 * twoTo 51 := by
    rw [cast_twoTo, cast_twoTo]
    norm_num
  have hone : (1 : ℚ) ≤ twoTo 51 := by
    rw [cast_twoTo]
    norm_num
  have hscaled := mul_le_mul_of_nonneg_right hone hunit.le
  rw [htwo] at hquarter
  linarith

end RoundsTo

/-- A power of two that is a number of places above another. -/
theorem zpow_add_natCast (q : Int) (k : Nat) : (2 : ℚ) ^ (q + k) = twoTo k * 2 ^ q := by
  rw [zpow_add₀ two_ne_zero, zpow_natCast, cast_twoTo, mul_comm]

/-- A quotient that rounds to a double has the place of the double, or the one below if it is below
the power of two that the double is. -/
theorem placeOf_of_roundsTo {m : Nat} {q : Int} (hfinite : IsFinite m q) (hm : 0 < m)
    {num den : Nat} (hnum : 0 < num) (hden : 0 < den) (h : RoundsTo m q (num / den)) :
    double.placeOf num den = q ∨
      double.placeOf num den = q - 1 ∧ m = twoTo 52 ∧ double.leastExponent < q ∧
        (num : ℚ) / den < twoTo 52 * 2 ^ q := by
  obtain ⟨hleast, hhigh, hlow⟩ := double.placeOf_bounds hnum hden
  have hbits : (double.fractionBits : ℤ) = (52 : ℕ) := rfl
  rw [hbits] at hhigh hlow
  generalize double.placeOf num den = place at *
  generalize (num : ℚ) / den = v at *
  rcases lt_trichotomy place q with hlt | heq | hgt
  · -- the quotient is below a power of two that is at most the double
    have hbelow : v < twoTo 52 * 2 ^ q := by
      calc v < 2 ^ (place + (52 : ℕ) + 1) := hhigh
        _ ≤ 2 ^ (q + (52 : ℕ)) := zpow_le_zpow_right₀ one_le_two (by omega)
        _ = twoTo 52 * 2 ^ q := zpow_add_natCast q 52
    have hq : double.leastExponent < q := by omega
    obtain rfl := h.eq_edge hm (hfinite.full hq) hbelow
    have hplace : q + (51 : ℕ) < place + (52 : ℕ) + 1 := by
      rw [← zpow_lt_zpow_iff_right₀ (one_lt_two (α := ℚ)), zpow_add_natCast]
      exact (h.edge_half_lt hq).trans hhigh
    exact Or.inr ⟨by omega, rfl, hq, hbelow⟩
  · exact Or.inl heq
  · -- the quotient would pass every significand
    exfalso
    have habove : (twoTo 53 : ℚ) * 2 ^ q ≤ v := by
      calc (twoTo 53 : ℚ) * 2 ^ q = 2 ^ (q + (53 : ℕ)) := (zpow_add_natCast q 53).symm
        _ ≤ 2 ^ (place + (52 : ℕ)) := zpow_le_zpow_right₀ one_le_two (by omega)
        _ ≤ v := hlow (by have := hfinite.least_le; omega)
    exact absurd (h.lt_wide hm hfinite.lt) (not_lt.mpr habove)

/-- A quotient is rounded to the significand that is at most half a place away. -/
theorem roundQuotient_of_placeOf {num den : Nat} (hnum : 0 < num) (hden : 0 < den) {place : Int}
    (hplace : double.placeOf num den = place) {m : Nat}
    (hnear : |(num : ℚ) / den - m * 2 ^ place| ≤ 2 ^ place / 2)
    (hodd : m % 2 = 1 → |(num : ℚ) / den - m * 2 ^ place| < 2 ^ place / 2) (negative : Bool) :
    double.roundQuotient negative num den =
      (if negative then double.signBit else 0) + min (patternOf m place) double.infinityBits := by
  obtain ⟨hpos, hscaled⟩ := scaleDown_eq num hden place
  have hunit : (0 : ℚ) < 2 ^ place := by positivity
  have hdist : |((scaleDown num den place).1 : ℚ) / (scaleDown num den place).2 - m| =
      |(num : ℚ) / den - m * 2 ^ place| / 2 ^ place := by
    rw [hscaled, zpow_neg, ← abs_of_pos hunit, ← abs_div, abs_of_pos hunit, sub_div,
      mul_div_cancel_right₀ _ hunit.ne', div_eq_mul_inv _ ((2 : ℚ) ^ place)]
  have hwhole : roundHalfEven (scaleDown num den place).1 (scaleDown num den place).2 = m := by
    refine roundHalfEven_eq hpos ?_ fun hm => ?_
    · rw [hdist, div_le_iff₀ hunit]
      linarith
    · rw [hdist, div_lt_iff₀ hunit]
      have := hodd hm
      linarith
  unfold roundQuotient
  rw [if_neg (by omega), hplace]
  show _ + min ((place - double.leastExponent).toNat * twoTo 52 +
    roundHalfEven (scaleDown num den place).1 (scaleDown num den place).2) _ = _
  rw [hwhole, patternOf]

/-- A significand past its width has the pattern of the power of two one place above. -/
theorem patternOf_carry {q : Int} (hq : double.leastExponent < q) :
    patternOf (twoTo 53) (q - 1) = patternOf (twoTo 52) q := by
  have hplaces : (q - double.leastExponent).toNat = (q - 1 - double.leastExponent).toNat + 1 := by
    omega
  rw [patternOf, patternOf, hplaces, Nat.add_mul, Nat.one_mul, Nat.add_assoc]
  rfl

/-- A quotient that rounds to a double is rounded to it. -/
theorem roundQuotient_eq {m : Nat} {q : Int} (hfinite : IsFinite m q) (hm : 0 < m)
    {num den : Nat} (hnum : 0 < num) (hden : 0 < den) (h : RoundsTo m q (num / den))
    (negative : Bool) :
    double.roundQuotient negative num den =
      (if negative then double.signBit else 0) + min (patternOf m q) double.infinityBits := by
  obtain ⟨hnear, hodd⟩ := h.abs_sub_le hm
  rcases placeOf_of_roundsTo hfinite hm hnum hden h with hplace | ⟨hplace, rfl, hq, hbelow⟩
  · exact roundQuotient_of_placeOf hnum hden hplace hnear hodd negative
  · -- one place below, the power of two is a significand rounded up past its width
    have hunit : (0 : ℚ) < 2 ^ q := by positivity
    have hquarter := h.edge_le hq
    have hhalf : (2 : ℚ) ^ (q - 1) = 2 ^ q / 2 := by
      rw [zpow_sub₀ two_ne_zero, zpow_one]
    have hdouble : (twoTo 53 : ℚ) = 2 * twoTo 52 := by
      rw [cast_twoTo, cast_twoTo]
      norm_num
    have hnear' : |(num : ℚ) / den - twoTo 53 * 2 ^ (q - 1)| ≤ 2 ^ (q - 1) / 2 := by
      rw [hhalf, hdouble, abs_le]
      constructor <;> linarith
    rw [roundQuotient_of_placeOf hnum hden hplace hnear' (fun hodd => absurd hodd (by decide)),
      patternOf_carry hq]

/-- A power of ten with a negative exponent is below the power of eight. -/
theorem ten_zpow_le {e : Int} (he : e ≤ 0) : (10 : ℚ) ^ e ≤ 2 ^ (3 * e) := by
  obtain ⟨k, rfl⟩ : ∃ k : ℕ, e = -k := ⟨(-e).toNat, by omega⟩
  rw [zpow_mul, zpow_neg, zpow_neg, zpow_natCast, zpow_natCast]
  exact inv_anti₀ (by positivity) (pow_le_pow_left₀ (by norm_num) (by norm_num) k)

/-- A decimal number that rounds to a double is not so small that it is taken for zero. -/
theorem binaryReach_le {m : Nat} {q : Int} (hfinite : IsFinite m q) (hm : 0 < m) {c : Nat}
    (hc : 0 < c) {e : Int} (he : e ≤ 0) (h : RoundsTo m q (c * 10 ^ e)) :
    ¬((c.log2 : Int) + 3 * e < -binaryReach) := by
  have hlarge : (2 : ℚ) ^ (double.leastExponent - 1) < 2 ^ ((c.log2 : ℤ) + 1 + 3 * e) := by
    calc (2 : ℚ) ^ (double.leastExponent - 1) = 2 ^ double.leastExponent / 2 := by
          rw [zpow_sub₀ two_ne_zero, zpow_one]
      _ ≤ 2 ^ q / 2 := by
          have := zpow_le_zpow_right₀ (one_le_two (α := ℚ)) hfinite.least_le
          linarith
      _ ≤ c * 10 ^ e := h.pos hm
      _ ≤ c * 2 ^ (3 * e) := by
          have := ten_zpow_le he
          gcongr
      _ < 2 ^ ((c.log2 : ℤ) + 1) * 2 ^ (3 * e) := by
          have := (zpow_log2_bounds hc).2
          gcongr
      _ = 2 ^ ((c.log2 : ℤ) + 1 + 3 * e) := (zpow_add₀ two_ne_zero _ _).symm
  have hexponent := (zpow_lt_zpow_iff_right₀ (one_lt_two (α := ℚ))).mp hlarge
  have hleast : double.leastExponent = -1074 := by decide
  have hreach : binaryReach = 1600 := rfl
  omega

/-- A decimal number that rounds to a double is rounded to it, if its power of ten is not above
one. -/
theorem roundDecimal_eq {m : Nat} {q : Int} (hfinite : IsFinite m q) (hm : 0 < m) {c : Nat}
    {e : Int} (he : e ≤ 0) (h : RoundsTo m q (c * 10 ^ e)) (negative : Bool) :
    double.roundDecimal negative c e =
      (if negative then double.signBit else 0) + min (patternOf m q) double.infinityBits := by
  have hc : 0 < c := by
    rcases Nat.eq_zero_or_pos c with rfl | hc
    · have hpos := h.pos hm
      have hunit : (0 : ℚ) < 2 ^ q := by positivity
      rw [Nat.cast_zero, zero_mul] at hpos
      linarith
    · exact hc
  unfold roundDecimal
  rw [if_neg hc.ne', if_neg (show ¬ decimalReach < e by simp only [decimalReach]; omega),
    if_neg (binaryReach_le hfinite hm hc he h)]
  rcases lt_or_eq_of_le he with hlt | rfl
  · rw [if_neg (by omega)]
    refine roundQuotient_eq hfinite hm hc (tenTo_pos _) ?_ negative
    obtain ⟨k, rfl⟩ : ∃ k : ℕ, e = -k := ⟨(-e).toNat, by omega⟩
    rw [neg_neg, Int.toNat_natCast, cast_tenTo, div_eq_mul_inv, ← zpow_natCast, ← zpow_neg]
    exact h
  · rw [if_pos (le_refl 0)]
    refine roundQuotient_eq hfinite hm (Nat.mul_pos hc (tenTo_pos _)) Nat.one_pos ?_ negative
    rw [Nat.cast_mul, cast_tenTo, Int.toNat_zero, pow_zero, Nat.cast_one, div_one]
    rwa [zpow_zero] at h

/-! ## Doubles -/

namespace Double

variable {x : Double}

theorem eq_of_bits {pattern : Nat} (h : x.bits.toNat = pattern) : ofPattern pattern = x := by
  rw [ofPattern, ← h, UInt64.ofNat_toNat]

/-- The sign and the rest of the bits. -/
theorem bits_eq (x : Double) :
    x.bits.toNat = (if double.isNegative x.bits.toNat then double.signBit else 0) +
      double.magnitude x.bits.toNat := by
  have hsign : double.signBit = 9223372036854775808 := by decide
  have hlt : x.bits.toNat < 18446744073709551616 := x.bits.toNat_lt
  unfold isNegative magnitude
  rw [hsign]
  by_cases hneg : x.bits.toNat / 9223372036854775808 % 2 = 1
  · rw [if_pos (by simpa using hneg)]
    omega
  · rw [if_neg (by simpa using hneg)]
    omega

/-- A finite double is put together from its sign, its significand and its exponent. -/
theorem bits_of_finite {negative : Bool} {m : Nat} {q : Int} (h : x.value = .finite negative m q) :
    IsFinite m q ∧ patternOf m q < double.infinityBits ∧
      x.bits.toNat = (if negative then double.signBit else 0) + patternOf m q := by
  have hbits := x.bits_eq
  have hlt : x.bits.toNat < 18446744073709551616 := x.bits.toNat_lt
  have hsign : double.signBit = 9223372036854775808 := by decide
  have hmagnitude : double.magnitude x.bits.toNat < 9223372036854775808 := by
    unfold magnitude
    rw [hsign]
    exact Nat.mod_lt _ (by decide)
  have hfraction : twoTo double.fractionBits = 4503599627370496 := by decide
  have hfull : twoTo 52 = 4503599627370496 := by decide
  have hwide : twoTo 53 = 9007199254740992 := by decide
  have htop : double.topField = 2047 := by decide
  have hinfinity : double.infinityBits = 9218868437227405312 := by decide
  have hleast : double.leastExponent = -1074 := by decide
  unfold value decode at h
  simp only [hfraction, htop, hleast] at h
  generalize double.magnitude x.bits.toNat = size at *
  generalize double.isNegative x.bits.toNat = sign at *
  by_cases hfield : size / 4503599627370496 = 2047
  · rw [if_pos hfield] at h
    split at h <;> cases h
  · rw [if_neg hfield] at h
    by_cases hzero : size / 4503599627370496 = 0
    · rw [if_pos hzero] at h
      cases h
      have hpattern : patternOf (size % 4503599627370496) (-1074) = size := by
        unfold patternOf
        rw [hleast, hfull]
        omega
      rw [hpattern]
      exact ⟨⟨by omega, by omega, by omega⟩, by omega, hbits⟩
    · rw [if_neg hzero] at h
      cases h
      have hpattern : patternOf (4503599627370496 + size % 4503599627370496)
          (-1074 + (size / 4503599627370496 : ℕ) - 1) = size := by
        unfold patternOf
        rw [hleast, hfull]
        omega
      rw [hpattern]
      exact ⟨⟨by omega, by omega, by omega⟩, by omega, hbits⟩

/-- An infinite double is the infinity of its sign. -/
theorem eq_infinity_of_value {negative : Bool} (h : x.value = .infinite negative) :
    infinity negative = x := by
  have hbits := x.bits_eq
  have hfraction : twoTo double.fractionBits = 4503599627370496 := by decide
  have htop : double.topField = 2047 := by decide
  have hinfinity : double.infinityBits = 9218868437227405312 := by decide
  unfold value decode at h
  simp only [hfraction, htop] at h
  generalize double.magnitude x.bits.toNat = size at *
  generalize double.isNegative x.bits.toNat = sign at *
  by_cases hfield : size / 4503599627370496 = 2047
  · rw [if_pos hfield] at h
    by_cases hzero : size % 4503599627370496 = 0
    · rw [if_pos hzero] at h
      cases h
      refine eq_of_bits ?_
      rw [hbits, hinfinity]
      omega
    · rw [if_neg hzero] at h
      cases h
  · rw [if_neg hfield] at h
    split at h <;> cases h

/-- A decimal number that rounds to a finite double reads as the double. -/
theorem ofDecimal_eq {negative : Bool} {m : Nat} {q : Int} (h : x.value = .finite negative m q)
    {c : Nat} {e : Int} (he : e ≤ 0) (hc : if m = 0 then c = 0 else RoundsTo m q (c * 10 ^ e)) :
    ofDecimal negative c e = x := by
  obtain ⟨hfinite, hpattern, hbits⟩ := bits_of_finite h
  refine eq_of_bits ?_
  rcases Nat.eq_zero_or_pos m with rfl | hm
  · have hq : patternOf 0 q = 0 := by
      have hleast : double.leastExponent = q := by
        refine le_antisymm hfinite.least_le (not_lt.mp fun hlt => ?_)
        have := hfinite.full hlt
        have := twoTo_pos 52
        omega
      rw [patternOf, hleast, Int.sub_self]
      rfl
    rw [if_pos rfl] at hc
    rw [hbits, hq, hc]
    rfl
  · rw [if_neg hm.ne'] at hc
    rw [hbits, roundDecimal_eq hfinite hm he hc, min_eq_left hpattern.le]

end Double

end WindowSystem
