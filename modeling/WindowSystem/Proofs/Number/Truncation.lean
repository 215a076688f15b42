/-
# The integer part of a double

A finite double stands for a rational number. Its integer part toward zero is exact: it is the
floor of the number, or the ceiling where the number is negative. Infinities and values that are
not numbers have none.
-/
import Mathlib.Algebra.Order.Floor.Ring
import Mathlib.Data.Rat.Floor
import WindowSystem.Proofs.Number.Rounding

namespace WindowSystem

/-- The integer part of a rational number toward zero. -/
def towardZero (v : ℚ) : ℤ := if 0 ≤ v then ⌊v⌋ else ⌈v⌉

/-- A number and its opposite have opposite integer parts. -/
theorem towardZero_neg (v : ℚ) : towardZero (-v) = -towardZero v := by
  unfold towardZero
  rcases lt_trichotomy v 0 with h | rfl | h
  · rw [if_pos (by linarith), if_neg (by linarith), Int.floor_neg]
  · simp
  · rw [if_neg (by linarith), if_pos h.le, Int.ceil_neg]

theorem towardZero_natCast (n : Nat) : towardZero n = n := by
  rw [towardZero, if_pos (Nat.cast_nonneg n), Int.floor_natCast]

theorem towardZero_div (n d : Nat) : towardZero (n / d) = (n / d : Nat) := by
  rw [towardZero, if_pos (by positivity), ← Int.cast_natCast (R := ℚ) n,
    Rat.floor_intCast_div_natCast, Int.natCast_ediv]

namespace Double

/-- The number that a double stands for, if it is finite. -/
def number? (x : Double) : Option ℚ :=
  match x.value with
  | .finite negative m q => some (if negative then -(m * 2 ^ q) else m * 2 ^ q)
  | _ => none

/-- The integer part toward zero of the number that a double stands for. -/
def integerPart? (x : Double) : Option ℤ := x.number?.map towardZero

/-- The integer part of a significand times a power of two. -/
theorem towardZero_scaled (m : Nat) (q : Int) :
    towardZero (m * 2 ^ q) =
      ((if 0 ≤ q then m * twoTo q.toNat else m / twoTo (-q).toNat : Nat) : ℤ) := by
  by_cases hq : 0 ≤ q
  · rw [if_pos hq]
    lift q to ℕ using hq
    rw [Int.toNat_natCast, zpow_natCast, ← cast_twoTo, ← Nat.cast_mul, towardZero_natCast]
  · rw [if_neg hq]
    obtain ⟨k, rfl⟩ : ∃ k : ℕ, q = -k := ⟨(-q).toNat, by omega⟩
    rw [neg_neg, Int.toNat_natCast, zpow_neg, zpow_natCast, ← cast_twoTo, ← div_eq_mul_inv,
      towardZero_div]

/-- Truncation is exact. -/
theorem truncate_eq (x : Double) : x.truncate = x.integerPart? := by
  unfold truncate integerPart? number?
  rcases x.value with _ | _ | ⟨negative, m, q⟩
  · rfl
  · rfl
  · cases negative with
    | true =>
      show some (-(_ : ℤ)) = some (towardZero (-(m * 2 ^ q)))
      rw [towardZero_neg, towardZero_scaled]
    | false =>
      show some _ = some (towardZero (m * 2 ^ q))
      rw [towardZero_scaled]
      rfl

end Double

end WindowSystem
