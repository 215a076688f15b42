/-
# The shortest decimal reads back

The decimal that is written for a double is one of the numbers that round to it
(`roundsTo_shortest`): a point of a decimal grid is taken only if it lies in the interval, and the
value written out in full always does. Digits are then set down so that they write that decimal
again (`Decimal.positions`).
-/
import WindowSystem.Proofs.Number.Rounding
import WindowSystem.Toml.Lexical

namespace WindowSystem

/-! ## Grids -/

/-- A power with a whole exponent, out of the powers with natural exponents. -/
theorem zpow_mul_toNat {b : ℚ} (hb : b ≠ 0) (e : Int) :
    b ^ e.toNat = b ^ e * b ^ (-e).toNat := by
  rw [← zpow_natCast, ← zpow_natCast, ← zpow_add₀ hb]
  congr 1
  omega

/-- The factors of a grid are both the same multiple of what they compare. -/
theorem gridFactors_eq (q g : Int) :
    ∃ k : ℚ, 0 < k ∧ ((gridFactors q g).1 : ℚ) = 2 ^ (q - 2) * k ∧
      ((gridFactors q g).2 : ℚ) = 10 ^ g * k := by
  refine ⟨2 ^ (2 - q).toNat * 10 ^ (-g).toNat, by positivity, ?_, ?_⟩
  · have htwo := zpow_mul_toNat (two_ne_zero (α := ℚ)) (q - 2)
    rw [show -(q - 2) = 2 - q by ring] at htwo
    unfold gridFactors
    push_cast [cast_twoTo, cast_tenTo]
    rw [htwo, mul_assoc]
  · have hten := zpow_mul_toNat (show (10 : ℚ) ≠ 0 by norm_num) g
    unfold gridFactors
    push_cast [cast_twoTo, cast_tenTo]
    rw [hten]
    ring

/-- Whether a point of a grid lies in the interval, as it is computed. -/
def insideGrid (m : Nat) (q g : Int) (c : Nat) : Bool :=
  let (low, high) := roundingInterval m q
  let (left, right) := gridFactors q g
  if m % 2 = 0 then low * left ≤ c * right ∧ c * right ≤ high * left
  else low * left < c * right ∧ c * right < high * left

theorem insideGrid_of_gridPoint {m : Nat} {q g : Int} {c : Nat} (h : gridPoint m q g = some c) :
    insideGrid m q g c = true := by
  unfold gridPoint at h
  simp only at h
  split at h
  · rename_i hbelow habove
    cases h
    exact hbelow
  · rename_i hbelow habove
    cases h
    exact habove
  · cases h
  · rename_i hbelow habove
    split at h
    · cases h
      exact hbelow
    · split at h
      · cases h
        exact habove
      · split at h
        · cases h
          exact hbelow
        · cases h
          exact habove

/-- The factors of a grid compare places of the interval with points of the grid. -/
theorem gridFactors_le_iff (q g : Int) (a b : Nat) :
    ((a : ℚ) * 2 ^ (q - 2) ≤ b * 10 ^ g ↔ a * (gridFactors q g).1 ≤ b * (gridFactors q g).2) ∧
      ((b : ℚ) * 10 ^ g ≤ a * 2 ^ (q - 2) ↔
        b * (gridFactors q g).2 ≤ a * (gridFactors q g).1) := by
  obtain ⟨k, hk, hleft, hright⟩ := gridFactors_eq q g
  have hplace : ((a * (gridFactors q g).1 : ℕ) : ℚ) = a * 2 ^ (q - 2) * k := by
    rw [Nat.cast_mul, hleft, mul_assoc]
  have hpoint : ((b * (gridFactors q g).2 : ℕ) : ℚ) = b * 10 ^ g * k := by
    rw [Nat.cast_mul, hright, mul_assoc]
  constructor
  · rw [← Nat.cast_le (α := ℚ), hplace, hpoint, mul_le_mul_iff_left₀ hk]
  · rw [← Nat.cast_le (α := ℚ), hplace, hpoint, mul_le_mul_iff_left₀ hk]

/-- A point of a grid is taken only if it lies in the interval. -/
theorem roundsTo_gridPoint {m : Nat} {q g : Int} {c : Nat} (h : gridPoint m q g = some c) :
    RoundsTo m q (c * 10 ^ g) := by
  have hle := fun a => (gridFactors_le_iff q g a c).1
  have hge := fun a => (gridFactors_le_iff q g a c).2
  have hinside := insideGrid_of_gridPoint h
  unfold insideGrid at hinside
  rcases Nat.mod_two_eq_zero_or_one m with hm | hm
  · simp only [hm, if_true, decide_eq_true_eq] at hinside
    exact ⟨(hle _).mpr hinside.1, (hge _).mpr hinside.2, by omega, by omega⟩
  · simp only [hm, one_ne_zero, if_false, decide_eq_true_eq] at hinside
    -- the ends of the interval do not belong to it, so the comparisons are strict
    have hlow := not_le.mp (mt (hge _).mp (not_le.mpr hinside.1))
    have hhigh := not_le.mp (mt (hle _).mp (not_le.mpr hinside.2))
    exact ⟨hlow.le, hhigh.le, fun _ => hlow, fun _ => hhigh⟩

/-! ## The decimal that is written -/

/-- The value itself rounds to it. -/
theorem roundsTo_self {m : Nat} (hm : 0 < m) (q : Int) : RoundsTo m q (m * 2 ^ q) := by
  obtain ⟨-, hlow, hhigh⟩ := roundingInterval_bounds hm q
  have hunit : (0 : ℚ) < 2 ^ q := by positivity
  have hlow' : ((roundingInterval m q).1 : ℚ) < 4 * m := by exact_mod_cast hlow
  have hscaled := mul_lt_mul_of_pos_right hlow' hunit
  have hbelow : (roundingInterval m q).1 * (2 : ℚ) ^ (q - 2) < m * 2 ^ q := by
    rw [zpow_sub_two]
    linarith
  have habove : (m : ℚ) * 2 ^ q < (roundingInterval m q).2 * 2 ^ (q - 2) := by
    rw [zpow_sub_two, hhigh]
    push_cast
    linarith
  exact ⟨hbelow.le, habove.le, fun _ => hbelow, fun _ => habove⟩

/-- The number that a decimal writes. -/
def Decimal.number (d : Decimal) : ℚ := d.digits * 10 ^ d.exponent

theorem number_exactDecimal (m : Nat) (q : Int) : (exactDecimal m q).number = m * 2 ^ q := by
  unfold exactDecimal Decimal.number
  by_cases hq : 0 ≤ q
  · rw [if_pos hq]
    lift q to ℕ using hq
    rw [Int.toNat_natCast, Nat.cast_mul, cast_twoTo, zpow_zero, mul_one, zpow_natCast]
  · rw [if_neg hq]
    obtain ⟨k, rfl⟩ : ∃ k : ℕ, q = -k := ⟨(-q).toNat, by omega⟩
    have hfive : ((Nat.pow 5 k : ℕ) : ℚ) = 5 ^ k := Nat.cast_pow 5 k
    rw [neg_neg, Int.toNat_natCast, Nat.cast_mul, hfive, zpow_neg, zpow_neg, zpow_natCast,
      zpow_natCast, show (10 : ℚ) = 5 * 2 by norm_num, mul_pow]
    field_simp

theorem roundsTo_searchGrids {m : Nat} (hm : 0 < m) (q : Int) (n : Nat) (g : Int) :
    RoundsTo m q (searchGrids m q n g).number := by
  induction n generalizing g with
  | zero =>
    rw [searchGrids, number_exactDecimal]
    exact roundsTo_self hm q
  | succ n ih =>
    rw [searchGrids]
    cases hpoint : gridPoint m q g with
    | some c => exact roundsTo_gridPoint hpoint
    | none => exact ih (g - 1)

/-- The shortest decimal of a value is one that rounds to it. -/
theorem roundsTo_shortest {m : Nat} (hm : 0 < m) (q : Int) :
    RoundsTo m q (shortest m q).number := by
  rw [shortest, if_neg hm.ne']
  exact roundsTo_searchGrids hm q 20 _

/-! ## Digits -/

theorem digitChar_spec : ∀ d < 10, (digitChar d).isDigit = true ∧ (digitChar d).toNat - 48 = d ∧
    (digitChar d = '0' → d = 0) := by
  decide

open Toml (decimalValue)

theorem decimalValue_concat (ds : List Char) (c : Char) :
    decimalValue (ds ++ [c]) = decimalValue ds * 10 + (c.toNat - 48) := by
  rw [decimalValue, List.foldl_append]
  rfl

/-- Digits after others count for less by a power of ten. -/
theorem decimalValue_append (ds es : List Char) :
    decimalValue (ds ++ es) = decimalValue ds * 10 ^ es.length + decimalValue es := by
  induction es using List.reverseRecOn with
  | nil => simp [decimalValue]
  | append_singleton es c ih =>
    rw [← List.append_assoc, decimalValue_concat, ih, decimalValue_concat, List.length_append,
      List.length_singleton, pow_succ]
    ring

theorem decimalValue_zeros (k : Nat) : decimalValue (List.replicate k '0') = 0 := by
  induction k with
  | zero => rfl
  | succ k ih =>
    rw [List.replicate_succ', decimalValue_concat, ih]
    rfl

/-- The digits of a number: they are digits, they write it, and only zero starts with a zero. -/
theorem decimalDigits_spec (n : Nat) :
    (∀ c ∈ decimalDigits n, c.isDigit = true) ∧ decimalValue (decimalDigits n) = n ∧
      ∃ c rest, decimalDigits n = c :: rest ∧ (c = '0' → n = 0) := by
  induction n using Nat.strongRecOn with
  | ind n ih =>
    unfold decimalDigits at ih ⊢
    rw [digitsIn]
    by_cases hn : n < 10
    · obtain ⟨hdigit, hvalue, hzero⟩ := digitChar_spec n hn
      rw [dif_pos (Or.inl hn)]
      refine ⟨fun c hc => ?_, ?_, digitChar n, [], rfl, hzero⟩
      · rw [List.mem_singleton.mp hc]
        exact hdigit
      · show 0 * 10 + ((digitChar n).toNat - 48) = n
        rw [hvalue]
        omega
    · rw [dif_neg (by omega)]
      obtain ⟨hdigits, hvalue, c, rest, hhead, hzero⟩ := ih (n / 10) (by omega)
      obtain ⟨hlast, hlastValue, -⟩ := digitChar_spec (n % 10) (by omega)
      refine ⟨fun d hd => ?_, ?_, c, rest ++ [digitChar (n % 10)], ?_, fun hc => ?_⟩
      · rcases List.mem_append.mp hd with hd | hd
        · exact hdigits d hd
        · rw [List.mem_singleton.mp hd]
          exact hlast
      · rw [decimalValue_concat, hvalue, hlastValue]
        omega
      · rw [hhead]
        rfl
      · have := hzero hc
        omega

/-- Digits of a whole part: at least one, and no zero before others. -/
structure WholeDigits (ds : List Char) : Prop where
  isDigit : ∀ c ∈ ds, c.isDigit = true
  ne_nil : ds ≠ []
  zero_alone : ds.head? = some '0' → ds = ['0']

theorem wholeDigits_zero : WholeDigits ['0'] where
  isDigit := by simp
  ne_nil := List.cons_ne_nil _ _
  zero_alone _ := rfl

theorem isDigit_zeros {k : Nat} : ∀ c ∈ List.replicate k '0', c.isDigit = true := by
  intro c hc
  rw [List.eq_of_mem_replicate hc]
  rfl

/-- Digits set down in positions: whole digits, and others behind the point, which together write
the number. -/
structure Positions (v : ℚ) (whole fraction : List Char) : Prop where
  wholeDigits : WholeDigits whole
  isDigit : ∀ c ∈ fraction, c.isDigit = true
  value : (decimalValue (whole ++ fraction) : ℚ) * 10 ^ (-(fraction.length : ℤ)) = v

/-- The digits of a positive number, with others behind them or without. -/
theorem wholeDigits_of_append {n : Nat} (hn : 0 < n) {ds es : List Char}
    (h : decimalDigits n = ds ++ es) (hds : ds ≠ []) (tail : List Char)
    (htail : ∀ c ∈ tail, c.isDigit = true) : WholeDigits (ds ++ tail) := by
  obtain ⟨hdigits, -, c, rest, hhead, hzero⟩ := decimalDigits_spec n
  refine ⟨fun d hd => ?_, fun hnil => hds (List.append_eq_nil_iff.mp hnil).1, fun hfirst => ?_⟩
  · rcases List.mem_append.mp hd with hd | hd
    · exact hdigits d (h ▸ List.mem_append_left _ hd)
    · exact htail d hd
  · obtain ⟨d, ds, rfl⟩ := List.exists_cons_of_ne_nil hds
    rw [hhead, List.cons_append, List.cons.injEq] at h
    have hd : d = '0' := Option.some.inj hfirst
    have := hzero (h.1.trans hd)
    omega

theorem decimalDigits_ne_nil (n : Nat) : decimalDigits n ≠ [] := by
  obtain ⟨-, -, c, rest, hhead, -⟩ := decimalDigits_spec n
  rw [hhead]
  exact List.cons_ne_nil _ _

/-- Zeros behind the digits multiply by a power of ten. -/
theorem positions_zeros_behind {n : Nat} (hn : 0 < n) (k : Nat) :
    Positions (n * 10 ^ (k : ℤ)) (decimalDigits n ++ List.replicate k '0') [] := by
  have hvalue := (decimalDigits_spec n).2.1
  refine ⟨wholeDigits_of_append hn (List.append_nil _).symm (decimalDigits_ne_nil n) _
    isDigit_zeros, by simp, ?_⟩
  rw [List.append_nil, decimalValue_append, decimalValue_zeros, hvalue, List.length_replicate,
    List.length_nil, Nat.cast_zero, neg_zero, zpow_zero, mul_one, Nat.add_zero]
  push_cast
  rfl

/-- Zeros between the point and the digits fill the places. -/
theorem positions_zeros_before {n k : Nat} (hshort : (decimalDigits n).length ≤ k) :
    Positions (n * 10 ^ (-(k : ℤ))) ['0']
      (List.replicate (k - (decimalDigits n).length) '0' ++ decimalDigits n) := by
  obtain ⟨hdigits, hvalue, -⟩ := decimalDigits_spec n
  refine ⟨wholeDigits_zero, fun c hc => ?_, ?_⟩
  · rcases List.mem_append.mp hc with hc | hc
    · exact isDigit_zeros c hc
    · exact hdigits c hc
  · have hlength : (List.replicate (k - (decimalDigits n).length) '0' ++
        decimalDigits n).length = k := by
      rw [List.length_append, List.length_replicate]
      omega
    have hzero : decimalValue ['0'] = 0 := rfl
    rw [decimalValue_append, decimalValue_append, decimalValue_zeros, hvalue, hlength, hzero]
    push_cast
    ring

/-- A point among the digits divides by a power of ten. -/
theorem positions_point_among {n k : Nat} (hk : 0 < k) (hlong : k < (decimalDigits n).length) :
    Positions (n * 10 ^ (-(k : ℤ))) ((decimalDigits n).take ((decimalDigits n).length - k))
      ((decimalDigits n).drop ((decimalDigits n).length - k)) := by
  obtain ⟨hdigits, hvalue, -⟩ := decimalDigits_spec n
  have hsplit := List.take_append_drop ((decimalDigits n).length - k) (decimalDigits n)
  refine ⟨?_, fun c hc => hdigits c (List.mem_of_mem_drop hc), ?_⟩
  · -- a number of more digits than places is not zero, since there are places
    have hpos : 0 < n := by
      refine Nat.pos_of_ne_zero fun hzero => ?_
      rw [hzero] at hlong
      have : (decimalDigits 0).length = 1 := by decide +kernel
      omega
    have htake : (decimalDigits n).take ((decimalDigits n).length - k) ≠ [] := by
      rw [← List.length_pos_iff, List.length_take]
      omega
    have hwhole := wholeDigits_of_append hpos hsplit.symm htake [] (by simp)
    rwa [List.append_nil] at hwhole
  · have hlength : ((decimalDigits n).drop ((decimalDigits n).length - k)).length = k := by
      rw [List.length_drop]
      omega
    rw [hsplit, hvalue, hlength]

/-- The positions of a decimal write it. -/
theorem Decimal.positions (d : Decimal) :
    Positions d.number d.positional.1 d.positional.2 := by
  obtain ⟨n, e⟩ := d
  unfold positional number
  simp only
  by_cases he : 0 ≤ e
  · rw [if_pos he]
    by_cases hzero : n = 0
    · rw [if_pos hzero, hzero]
      exact ⟨wholeDigits_zero, by simp, by simp [decimalValue]⟩
    · rw [if_neg hzero]
      lift e to ℕ using he
      exact positions_zeros_behind (Nat.pos_of_ne_zero hzero) e
  · rw [if_neg he]
    obtain ⟨k, rfl⟩ : ∃ k : ℕ, e = -k := ⟨(-e).toNat, by omega⟩
    rw [neg_neg, Int.toNat_natCast]
    by_cases hshort : (decimalDigits n).length ≤ k
    · rw [if_pos hshort]
      exact positions_zeros_before hshort
    · rw [if_neg hshort]
      exact positions_point_among (by omega) (by omega)

/-- A point and a zero behind a whole number change nothing. -/
theorem Positions.fraction_zero {v : ℚ} {whole : List Char} (h : Positions v whole []) :
    Positions v whole ['0'] where
  wholeDigits := h.wholeDigits
  isDigit := by simp
  value := by
    have hvalue := h.value
    have hzero : decimalValue ['0'] = 0 := rfl
    rw [List.append_nil] at hvalue
    rw [decimalValue_append, hzero, ← hvalue]
    simp

/-- The text of a finite double where whole numbers carry a fraction. -/
theorem Double.textIn_finite {style : DoubleStyle} (hstyle : style.fractionAlways = true)
    {x : Double} {negative : Bool} {m : Nat} {q : Int} (hx : x.value = .finite negative m q) :
    ∃ whole fraction, fraction ≠ [] ∧ Positions (shortest m q).number whole fraction ∧
      (x.textIn style).toList =
        (if negative then ['-'] else []) ++ (whole ++ '.' :: fraction) := by
  have hpositions := (shortest m q).positions
  unfold textIn
  simp only [hx]
  generalize (shortest m q).positional = parts at hpositions ⊢
  obtain ⟨whole, fraction⟩ := parts
  cases fraction with
  | nil =>
    refine ⟨whole, ['0'], List.cons_ne_nil _ _, hpositions.fraction_zero, ?_⟩
    simp [hstyle]
  | cons d rest =>
    refine ⟨whole, d :: rest, List.cons_ne_nil _ _, hpositions, ?_⟩
    simp

/-- The decimal that positions write reads as the double whose shortest decimal it is. -/
theorem Double.ofDecimal_positions {x : Double} {negative : Bool} {m : Nat} {q : Int}
    (hx : x.value = .finite negative m q) {whole fraction : List Char}
    (h : Positions (shortest m q).number whole fraction) :
    Double.ofDecimal negative (decimalValue (whole ++ fraction)) (-(fraction.length : Int)) =
      x := by
  refine Double.ofDecimal_eq hx (by omega) ?_
  have hvalue := h.value
  rcases Nat.eq_zero_or_pos m with rfl | hm
  · rw [if_pos rfl]
    have hnumber : (shortest 0 q).number = 0 := by
      rw [shortest, if_pos rfl, Decimal.number]
      simp
    rw [hnumber, mul_eq_zero] at hvalue
    rcases hvalue with hvalue | hvalue
    · exact_mod_cast hvalue
    · exact absurd hvalue (by positivity)
  · rw [if_neg hm.ne', hvalue]
    exact roundsTo_shortest hm q

end WindowSystem
