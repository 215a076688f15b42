/-
# Decimal text of numbers

Integers in a base, the shortest decimal that reads back as a given double, and its written
form. `shortest` searches decimal grids from coarse to fine; the first grid with a point that
rounds to the double wins, and of two such points the nearer one.
-/
import WindowSystem.Number.Double

namespace WindowSystem

/-! ## Digits -/

/-- The character of a digit below sixteen, letters in lower case. -/
def digitChar (d : Nat) : Char :=
  if d < 10 then Char.ofNat (48 + d) else Char.ofNat (87 + d)

/-- The digits of a number in a base of at least two, most significant first. -/
def digitsIn (base n : Nat) : List Char :=
  if _h : n < base ∨ base < 2 then [digitChar n]
  else digitsIn base (n / base) ++ [digitChar (n % base)]
termination_by n
decreasing_by
  have hb : 2 ≤ base := by omega
  have _hn : base ≤ n := by omega
  exact Nat.div_lt_self (by omega) hb

/-- Decimal digits of a number. -/
def decimalDigits (n : Nat) : List Char := digitsIn 10 n

/-- A natural number in decimal. -/
def decimalText (n : Nat) : String := String.ofList (decimalDigits n)

/-- An integer in decimal, with a minus sign when negative. -/
def integerText (n : Int) : String :=
  if n < 0 then "-" ++ decimalText n.natAbs else decimalText n.natAbs

/-- A number in hexadecimal, in lower case. -/
def hexText (n : Nat) : String := String.ofList (digitsIn 16 n)

/-- A number in hexadecimal with leading zeros up to a width. -/
def paddedHexText (width n : Nat) : String :=
  let digits := digitsIn 16 n
  String.ofList (List.replicate (width - digits.length) '0' ++ digits)

/-! ## The shortest decimal -/

/-- A decimal number `digits · 10 ^ exponent`. -/
structure Decimal where
  digits : Nat
  exponent : Int
  deriving DecidableEq, Repr

/-- The numbers that round to `m · 2 ^ q`, in units of `2 ^ (q - 2)`: the halfway points to the
neighbours below and above. Below a power of two the lower neighbour is half as far. -/
def roundingInterval (m : Nat) (q : Int) : Nat × Nat :=
  let f := BinaryFormat.double
  if m = twoTo f.fractionBits ∧ f.leastExponent < q then (4 * m - 1, 4 * m + 2)
  else (4 * m - 2, 4 * m + 2)

/-- Factors that compare `a · 2 ^ (q - 2)` with `c · 10 ^ g` as `a · left` with `c · right`. -/
def gridFactors (q g : Int) : Nat × Nat :=
  (twoTo (q - 2).toNat * tenTo (-g).toNat, tenTo g.toNat * twoTo (2 - q).toNat)

/-- The point of the grid of multiples of `10 ^ g` that reads back as `m · 2 ^ q`, if one does:
the nearer of the two neighbours of the value when both do, the even one when they are equally
near. The interval's ends belong to it when the significand is even. -/
def gridPoint (m : Nat) (q g : Int) : Option Nat :=
  let (low, high) := roundingInterval m q
  let (left, right) := gridFactors q g
  let inside (c : Nat) : Bool :=
    if m % 2 = 0 then low * left ≤ c * right ∧ c * right ≤ high * left
    else low * left < c * right ∧ c * right < high * left
  let target := 4 * m * left
  let below := target / right
  let above := below + 1
  match inside below, inside above with
  | true, false => some below
  | false, true => some above
  | false, false => none
  | true, true =>
    let toBelow := target - below * right
    let toAbove := above * right - target
    if toBelow < toAbove then some below
    else if toAbove < toBelow then some above
    else some (if below % 2 = 0 then below else above)

/-- The value written out in full, which a binary number always can be. -/
def exactDecimal (m : Nat) (q : Int) : Decimal :=
  if 0 ≤ q then ⟨m * twoTo q.toNat, 0⟩ else ⟨m * Nat.pow 5 (-q).toNat, q⟩

/-- Searches the grids `10 ^ g`, `10 ^ (g - 1)`, … for the first with a point that reads back. -/
def searchGrids (m : Nat) (q : Int) : Nat → Int → Decimal
  | 0, _ => exactDecimal m q
  | n + 1, g =>
    match gridPoint m q g with
    | some c => ⟨c, g⟩
    | none => searchGrids m q n (g - 1)

/-- A decimal exponent whose power of ten is above `m · 2 ^ q`, by at most a hundredfold. -/
def exponentAbove (m : Nat) (q : Int) : Int :=
  ((m.log2 : Int) + 1 + q) * 30103 / 100000 + 1

/-- The shortest decimal that reads back as `m · 2 ^ q`. Seventeen digits always do, and two
more grids cover the uncertainty of the first exponent. -/
def shortest (m : Nat) (q : Int) : Decimal :=
  if m = 0 then ⟨0, 0⟩ else searchGrids m q 20 (exponentAbove m q)

/-! ## Positional notation -/

/-- Positional digits of a decimal: whole part and fraction, the fraction possibly empty. -/
def Decimal.positional (d : Decimal) : List Char × List Char :=
  let digits := decimalDigits d.digits
  if 0 ≤ d.exponent then
    if d.digits = 0 then (['0'], []) else (digits ++ List.replicate d.exponent.toNat '0', [])
  else
    let places := (-d.exponent).toNat
    if digits.length ≤ places then
      (['0'], List.replicate (places - digits.length) '0' ++ digits)
    else (digits.take (digits.length - places), digits.drop (digits.length - places))

/-- How a format spells doubles: the texts of the values that have no digits, and whether a
whole number carries a fraction of one zero. Digits are always positional. -/
structure DoubleStyle where
  nan : String
  infinity : String
  fractionAlways : Bool
  deriving DecidableEq, Repr

/-- Plain text, for messages: `800`, `0.5`, `NaN`, `inf`. -/
def DoubleStyle.plain : DoubleStyle := ⟨"NaN", "inf", false⟩

/-- The text of a double in a style. -/
def Double.textIn (style : DoubleStyle) (x : Double) : String :=
  match x.value with
  | .nan => style.nan
  | .infinite negative => (if negative then "-" else "") ++ style.infinity
  | .finite negative m q =>
    let (whole, fraction) := (shortest m q).positional
    let tail :=
      if fraction.isEmpty then (if style.fractionAlways then ['.', '0'] else [])
      else '.' :: fraction
    String.ofList ((if negative then ['-'] else []) ++ whole ++ tail)

/-- The text of a double in a message. -/
def Double.text (x : Double) : String := x.textIn .plain

end WindowSystem
