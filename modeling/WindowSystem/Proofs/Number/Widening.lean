/-
# Singles as doubles

A finite single is a double too: its significand has room for the places below it, so nothing is
rounded (`Single.value_toDouble`). No two finite singles become the same double
(`Single.toDouble_injective`).
-/
import WindowSystem.Proofs.Number.ShortestDecimal

namespace WindowSystem

open BinaryFormat

/-! ## Doubles from their parts -/

/-- The bits of a finite double stand for its sign, its significand and its exponent. -/
theorem Double.value_of_bits {x : Double} {negative : Bool} {m : Nat} {q : Int}
    (hfinite : IsFinite m q) (hpattern : patternOf m q < double.infinityBits)
    (hbits : x.bits.toNat = (if negative then double.signBit else 0) + patternOf m q) :
    x.value = .finite negative m q := by
  have hsign : double.signBit = 9223372036854775808 := by decide
  have hfraction : twoTo double.fractionBits = 4503599627370496 := by decide
  have hfull : twoTo 52 = 4503599627370496 := by decide
  have hwide : twoTo 53 = 9007199254740992 := by decide
  have htop : double.topField = 2047 := by decide
  have hinfinity : double.infinityBits = 9218868437227405312 := by decide
  have hleast : double.leastExponent = -1074 := by decide
  obtain ⟨hq, hm, hnormal⟩ := hfinite
  rw [hleast] at hq hnormal
  rw [hfull] at hnormal
  rw [hwide] at hm
  unfold patternOf at hpattern hbits
  rw [hleast, hfull] at hpattern hbits
  rw [hinfinity] at hpattern
  rw [hsign] at hbits
  -- the pattern stays below the sign bit, so both are read off their sum
  have hnegative : double.isNegative x.bits.toNat = negative := by
    unfold isNegative
    rw [hsign, hbits]
    cases negative with
    | true => exact beq_iff_eq.mpr (by simp only [if_true]; omega)
    | false => exact beq_eq_false_iff_ne.mpr (by simp only [Bool.false_eq_true, if_false]; omega)
  have hmagnitude : double.magnitude x.bits.toNat = (q - -1074).toNat * 4503599627370496 + m := by
    unfold magnitude
    rw [hsign, hbits]
    cases negative with
    | true => simp only [if_true]; omega
    | false => simp only [Bool.false_eq_true, if_false]; omega
  unfold value decode
  simp only [hfraction, htop, hleast, hnegative, hmagnitude]
  rw [if_neg (by omega)]
  -- a significand that is not full stands with the least exponent, as a subnormal
  by_cases hsub : m < 4503599627370496
  · have hleastq : q = -1074 := by
      by_contra hne
      have := hnormal (by omega)
      omega
    subst hleastq
    rw [if_pos (by omega), show _ % 4503599627370496 = m by omega]
  · rw [if_neg (by omega)]
    congr 1
    · omega
    · omega

namespace Single

/-! ## Singles from their parts -/

variable {x y : Single} {negative : Bool} {m : Nat} {q : Int}

/-- The sign and the rest of the bits. -/
theorem bits_eq (x : Single) :
    x.bits.toNat = (if single.isNegative x.bits.toNat then single.signBit else 0) +
      single.magnitude x.bits.toNat := by
  have hsign : single.signBit = 2147483648 := by decide
  have hlt : x.bits.toNat < 4294967296 := x.bits.toNat_lt
  unfold isNegative magnitude
  rw [hsign]
  by_cases hneg : x.bits.toNat / 2147483648 % 2 = 1
  · rw [if_pos (by simpa using hneg)]
    omega
  · rw [if_neg (by simpa using hneg)]
    omega

/-- A significand and an exponent as a finite single has them. -/
structure IsFinite (m : Nat) (q : Int) : Prop where
  least_le : -149 ≤ q
  le_most : q ≤ 104
  lt : m < 16777216
  full : -149 < q → 8388608 ≤ m

/-- A zero has the least exponent. -/
theorem IsFinite.exponent_of_zero (h : IsFinite 0 q) : q = -149 := by
  by_contra hne
  have hfull := h.full (lt_of_le_of_ne h.least_le (Ne.symm hne))
  omega

/-- A finite single is put together from its sign, its significand and its exponent. -/
theorem bits_of_finite (h : x.value = .finite negative m q) :
    IsFinite m q ∧ x.bits.toNat =
      (if negative then single.signBit else 0) + ((q + 149).toNat * 8388608 + m) := by
  have hbits := x.bits_eq
  have hsize : single.magnitude x.bits.toNat < 2147483648 := by
    have hsign : single.signBit = 2147483648 := by decide
    unfold magnitude
    rw [hsign]
    exact Nat.mod_lt _ (by decide)
  have hfraction : twoTo single.fractionBits = 8388608 := by decide
  have htop : single.topField = 255 := by decide
  have hleast : single.leastExponent = -149 := by decide
  unfold value decode at h
  simp only [hfraction, htop, hleast] at h
  generalize single.magnitude x.bits.toNat = size at *
  generalize single.isNegative x.bits.toNat = sign at *
  by_cases hfield : size / 8388608 = 255
  · rw [if_pos hfield] at h
    split at h <;> cases h
  · rw [if_neg hfield] at h
    by_cases hzero : size / 8388608 = 0
    · rw [if_pos hzero] at h
      cases h
      have hpattern : ((-149 : Int) + 149).toNat * 8388608 + size % 8388608 = size := by
        rw [Int.add_left_neg, Int.toNat_zero]
        omega
      rw [hpattern]
      exact ⟨⟨by omega, by omega, by omega, by omega⟩, hbits⟩
    · rw [if_neg hzero] at h
      cases h
      exact ⟨⟨by omega, by omega, by omega, by omega⟩, by omega⟩

/-- Finite singles with the same parts are the same. -/
theorem eq_of_value (hx : x.value = .finite negative m q) (hy : y.value = .finite negative m q) :
    x = y := by
  have hbits : x.bits.toNat = y.bits.toNat := (bits_of_finite hx).2.trans (bits_of_finite hy).2.symm
  cases x
  cases y
  exact congrArg Single.mk (UInt32.toNat_inj.mp hbits)

/-! ## Widening -/

/-- How many places of a double's significand are below those of a single's. -/
def spare (m : Nat) : Nat := 52 - m.log2

theorem log2_bounds (hm : 0 < m) (hlt : m < 16777216) :
    m.log2 < 24 ∧ twoTo m.log2 ≤ m ∧ m < twoTo (m.log2 + 1) := by
  refine ⟨(Nat.log2_lt hm.ne').mpr hlt, Nat.log2_self_le hm.ne', Nat.lt_log2_self⟩

/-- A significand that is shifted up fills a double's. -/
theorem shifted_bounds (hm : 0 < m) (hlt : m < 16777216) :
    twoTo 52 ≤ m * twoTo (spare m) ∧ m * twoTo (spare m) < twoTo 53 := by
  obtain ⟨hlog, hlow, hhigh⟩ := log2_bounds hm hlt
  have hpos : 0 < twoTo (spare m) := twoTo_pos _
  have hlowSum : twoTo m.log2 * twoTo (spare m) = twoTo 52 := by
    rw [twoTo, twoTo, twoTo, Nat.pow_eq, Nat.pow_eq, Nat.pow_eq, ← Nat.pow_add, spare]
    congr 1
    omega
  have hhighSum : twoTo (m.log2 + 1) * twoTo (spare m) = twoTo 53 := by
    rw [twoTo, twoTo, twoTo, Nat.pow_eq, Nat.pow_eq, Nat.pow_eq, ← Nat.pow_add, spare]
    congr 1
    omega
  constructor
  · rw [← hlowSum]
    exact Nat.mul_le_mul_right _ hlow
  · rw [← hhighSum]
    exact Nat.mul_lt_mul_of_pos_right hhigh hpos

theorem isFinite_shifted (h : IsFinite m q) (hm : 0 < m) :
    WindowSystem.IsFinite (m * twoTo (spare m)) (q - spare m) ∧
      patternOf (m * twoTo (spare m)) (q - spare m) < double.infinityBits := by
  have hleast : double.leastExponent = -1074 := by decide
  have hinfinity : double.infinityBits = 9218868437227405312 := by decide
  have hfull : twoTo 52 = 4503599627370496 := by decide
  have hwide : twoTo 53 = 9007199254740992 := by decide
  obtain ⟨hlow, hhigh⟩ := shifted_bounds hm h.lt
  have hspare : spare m ≤ 52 := Nat.sub_le _ _
  have hq := h.least_le
  have hq' := h.le_most
  refine ⟨⟨?_, hhigh, fun _ => hlow⟩, ?_⟩
  · rw [hleast]
    omega
  · rw [patternOf, hleast, hfull, hinfinity]
    rw [hwide] at hhigh
    omega

/-- The parts of the double that a single becomes. -/
theorem value_toDouble (h : x.value = .finite negative m q) (hm : 0 < m) :
    x.toDouble.value = .finite negative (m * twoTo (spare m)) (q - spare m) := by
  obtain ⟨hfinite, -⟩ := bits_of_finite h
  obtain ⟨hdouble, hpattern⟩ := isFinite_shifted hfinite hm
  obtain ⟨hlow, -⟩ := shifted_bounds hm hfinite.lt
  have hpos : 0 < m * twoTo (spare m) := Nat.mul_pos hm (twoTo_pos _)
  have hsame : ((m * twoTo (spare m) : ℕ) : ℚ) * 2 ^ (q - spare m) = m * 2 ^ q := by
    rw [Nat.cast_mul, cast_twoTo, zpow_sub₀ two_ne_zero, zpow_natCast]
    field_simp
  -- the quotient is the double itself, on either side of the point
  have hround : ∀ num den : Nat, 0 < num → 0 < den → (num : ℚ) / den = m * 2 ^ q →
      (Double.ofPattern (double.roundQuotient negative num den)).value =
        .finite negative (m * twoTo (spare m)) (q - spare m) := by
    intro num den hnum hden hquotient
    have hrounds : RoundsTo (m * twoTo (spare m)) (q - spare m) (num / den) := by
      rw [hquotient, ← hsame]
      exact roundsTo_self hpos _
    have hsmall : (if negative then double.signBit else 0) +
        patternOf (m * twoTo (spare m)) (q - spare m) < 18446744073709551616 := by
      have hsign : double.signBit = 9223372036854775808 := by decide
      have hinfinity : double.infinityBits = 9218868437227405312 := by decide
      rw [hinfinity] at hpattern
      rw [hsign]
      cases negative with
      | true => simp only [if_true]; omega
      | false => simp only [Bool.false_eq_true, if_false]; omega
    rw [roundQuotient_eq hdouble hpos hnum hden hrounds, min_eq_left hpattern.le]
    refine Double.value_of_bits hdouble hpattern ?_
    exact UInt64.toNat_ofNat_of_lt' hsmall
  unfold toDouble
  rw [h]
  by_cases hq : 0 ≤ q
  · simp only [if_pos hq]
    refine hround _ _ (Nat.mul_pos hm (twoTo_pos _)) Nat.one_pos ?_
    obtain ⟨k, rfl⟩ := Int.eq_ofNat_of_zero_le hq
    rw [Int.toNat_natCast, Nat.cast_mul, cast_twoTo, Nat.cast_one, div_one, zpow_natCast]
  · simp only [if_neg hq]
    refine hround _ _ hm (twoTo_pos _) ?_
    obtain ⟨k, hk⟩ : ∃ k : ℕ, q = -k := ⟨(-q).toNat, by omega⟩
    rw [hk, neg_neg, Int.toNat_natCast, cast_twoTo, zpow_neg, zpow_natCast, div_eq_mul_inv]

/-- A zero stays a zero of its sign. -/
theorem value_toDouble_zero (h : x.value = .finite negative 0 q) :
    x.toDouble.value = .finite negative 0 (-1074) := by
  have hzero : ∀ den : Nat, (Double.ofPattern (double.roundQuotient negative 0 den)).value =
      .finite negative 0 (-1074) := by
    intro den
    rw [roundQuotient, if_pos (Or.inl rfl)]
    cases negative <;> decide
  unfold toDouble
  rw [h]
  by_cases hq : 0 ≤ q
  · simp only [if_pos hq, Nat.zero_mul]
    exact hzero 1
  · simp only [if_neg hq]
    exact hzero _

/-- Whether a single is a finite number. -/
def isFinite (x : Single) : Bool :=
  match x.value with
  | .finite .. => true
  | _ => false

theorem isFinite_iff : x.isFinite = true ↔ ∃ negative m q, x.value = .finite negative m q := by
  unfold isFinite
  cases x.value <;> simp

theorem isFinite_toDouble (hx : x.isFinite = true) : x.toDouble.isFinite = true := by
  obtain ⟨negative, m, q, h⟩ := isFinite_iff.mp hx
  unfold Double.isFinite
  rcases Nat.eq_zero_or_pos m with rfl | hm
  · rw [value_toDouble_zero h]
  · rw [value_toDouble h hm]

/-- Significands that are the same after they were shifted were the same, with the same exponent. -/
theorem eq_of_shifted {n : Nat} {r : Int} (hfinite : IsFinite m q) (hfinite' : IsFinite n r)
    (hm : 0 < m) (hn : 0 < n) (hshifted : m * twoTo (spare m) = n * twoTo (spare n))
    (hexponent : q - spare m = r - spare n) : m = n ∧ q = r := by
  obtain ⟨hlog, hlow, hhigh⟩ := log2_bounds hm hfinite.lt
  obtain ⟨hlog', hlow', hhigh'⟩ := log2_bounds hn hfinite'.lt
  -- the exponent is greater only if the significand is as wide as can be
  have hwidth : ∀ {k : Nat} {e : Int}, IsFinite k e → 0 < k → -149 < e → k.log2 = 23 := by
    intro k e hk hpos he
    have hle := (log2_bounds hpos hk.lt).1
    have hge := (Nat.le_log2 hpos.ne').mpr (show 2 ^ 23 ≤ k from hk.full he)
    omega
  have hqr : q = r := by
    unfold spare at hexponent
    have hq := hfinite.least_le
    have hr := hfinite'.least_le
    rcases Int.lt_trichotomy q r with hlt | heq | hgt
    · have := hwidth hfinite' hn (by omega)
      omega
    · exact heq
    · have := hwidth hfinite hm (by omega)
      omega
  have hspare : spare m = spare n := by omega
  rw [hspare] at hshifted
  exact ⟨Nat.eq_of_mul_eq_mul_right (twoTo_pos _) hshifted, hqr⟩

/-- No two finite singles become the same double. -/
theorem toDouble_injective (hx : x.isFinite = true) (hy : y.isFinite = true)
    (h : x.toDouble = y.toDouble) : x = y := by
  obtain ⟨negative, m, q, hvx⟩ := isFinite_iff.mp hx
  obtain ⟨negative', n, r, hvy⟩ := isFinite_iff.mp hy
  have hfinite := (bits_of_finite hvx).1
  have hfinite' := (bits_of_finite hvy).1
  have hvalue : x.toDouble.value = y.toDouble.value := congrArg Double.value h
  -- zeros are kept apart by their sign, other numbers by all three parts
  rcases Nat.eq_zero_or_pos m with rfl | hm <;> rcases Nat.eq_zero_or_pos n with rfl | hn
  · rw [value_toDouble_zero hvx, value_toDouble_zero hvy] at hvalue
    obtain ⟨rfl, -, -⟩ := BinaryValue.finite.inj hvalue
    obtain rfl : q = r := hfinite.exponent_of_zero.trans hfinite'.exponent_of_zero.symm
    exact eq_of_value hvx hvy
  · rw [value_toDouble_zero hvx, value_toDouble hvy hn] at hvalue
    have hzero := (BinaryValue.finite.inj hvalue).2.1
    exact absurd hzero.symm (Nat.mul_pos hn (twoTo_pos _)).ne'
  · rw [value_toDouble hvx hm, value_toDouble_zero hvy] at hvalue
    have hzero := (BinaryValue.finite.inj hvalue).2.1
    exact absurd hzero (Nat.mul_pos hm (twoTo_pos _)).ne'
  · rw [value_toDouble hvx hm, value_toDouble hvy hn] at hvalue
    obtain ⟨rfl, hshifted, hexponent⟩ := BinaryValue.finite.inj hvalue
    obtain ⟨rfl, rfl⟩ := eq_of_shifted hfinite hfinite' hm hn hshifted hexponent
    exact eq_of_value hvx hvy

end Single

end WindowSystem
