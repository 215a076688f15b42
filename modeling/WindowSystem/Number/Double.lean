/-
# Doubles and singles

The two floating-point types of the window system, each held as its bits, with the few
operations that geometry and input need: exact integer parts, comparison, and the passage
between the two widths.
-/
import WindowSystem.Number.Binary

namespace WindowSystem

/-! ## Doubles -/

/-- A 64-bit floating-point number. Two are equal as Lean values when their bits agree. -/
structure Double where
  bits : UInt64
  deriving DecidableEq, Repr, Inhabited

/-- A 32-bit floating-point number. -/
structure Single where
  bits : UInt32
  deriving DecidableEq, Repr, Inhabited

namespace Double

/-- The double with a given pattern. -/
def ofPattern (pattern : Nat) : Double := ⟨UInt64.ofNat pattern⟩

/-- Sign, significand and exponent of a double. -/
def value (x : Double) : BinaryValue := BinaryFormat.double.decode x.bits.toNat

/-- The double nearest to `± significand · 10 ^ exponent`. -/
def ofDecimal (negative : Bool) (significand : Nat) (exponent : Int) : Double :=
  ofPattern (BinaryFormat.double.roundDecimal negative significand exponent)

/-- The double nearest to an integer. -/
def ofInt (n : Int) : Double :=
  ofPattern (BinaryFormat.double.roundQuotient (n < 0) n.natAbs 1)

/-- The double nearest to a quotient of natural numbers. -/
def ofQuotient (num den : Nat) : Double :=
  ofPattern (BinaryFormat.double.roundQuotient false num den)

def zero : Double := ⟨0⟩
def one : Double := ofInt 1

/-- The value that is not a number, with the pattern of a quiet one. -/
def nan : Double := ⟨0x7ff8000000000000⟩

/-- Positive or negative infinity. -/
def infinity (negative : Bool) : Double :=
  let f := BinaryFormat.double
  ofPattern ((if negative then f.signBit else 0) + f.infinityBits)

def isNaN (x : Double) : Bool :=
  match x.value with
  | .nan => true
  | _ => false

def isFinite (x : Double) : Bool :=
  match x.value with
  | .finite .. => true
  | _ => false

/-- Equality of numbers: zero equals its negative and nothing equals a value that is not a
number. -/
def sameNumber (x y : Double) : Bool :=
  match x.value, y.value with
  | .nan, _ => false
  | _, .nan => false
  | .finite _ 0 _, .finite _ 0 _ => true
  | _, _ => x.bits == y.bits

/-- The place of a double in the order of all doubles. Below zero they count down by magnitude, so
that the negative zero comes before zero; what is not a number lies beyond the infinity of its
sign. -/
def rank (x : Double) : Int :=
  let f := BinaryFormat.double
  let n := x.bits.toNat
  if f.isNegative n then -(f.magnitude n : Int) - 1 else n

/-- The order of all doubles. -/
def rankLe (x y : Double) : Bool := x.rank ≤ y.rank

/-- The integer part toward zero of a finite double, `none` for the others. -/
def truncate (x : Double) : Option Int :=
  match x.value with
  | .finite negative m q =>
    let size : Nat := if 0 ≤ q then m * twoTo q.toNat else m / twoTo (-q).toNat
    some (if negative then -(size : Int) else size)
  | _ => none

/-- The single nearest to a double; what is too large becomes infinite. -/
def toSingle (x : Double) : Single :=
  let f := BinaryFormat.single
  let pattern : Nat :=
    match x.value with
    | .nan => 0x7fc00000
    | .infinite negative => (if negative then f.signBit else 0) + f.infinityBits
    | .finite negative m q =>
      if 0 ≤ q then f.roundQuotient negative (m * twoTo q.toNat) 1
      else f.roundQuotient negative m (twoTo (-q).toNat)
  ⟨UInt32.ofNat pattern⟩

end Double

/-! ## Singles -/

namespace Single

/-- Sign, significand and exponent of a single. -/
def value (x : Single) : BinaryValue := BinaryFormat.single.decode x.bits.toNat

/-- The double with the same value; every single has one. -/
def toDouble (x : Single) : Double :=
  match x.value with
  | .nan => Double.nan
  | .infinite negative => Double.infinity negative
  | .finite negative m q =>
    let f := BinaryFormat.double
    if 0 ≤ q then Double.ofPattern (f.roundQuotient negative (m * twoTo q.toNat) 1)
    else Double.ofPattern (f.roundQuotient negative m (twoTo (-q).toNat))

/-- Equality of numbers, as for doubles. -/
def sameNumber (x y : Single) : Bool :=
  x.toDouble.sameNumber y.toDouble

end Single

end WindowSystem
