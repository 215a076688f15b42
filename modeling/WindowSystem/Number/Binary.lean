/-
# Binary floating point

The values of an IEEE-754 interchange format, read off their bit patterns in exact
natural-number arithmetic, and the rounding of a quotient to the nearest such value.
Two formats are used: `double` (64 bits) and `single` (32 bits).
-/

namespace WindowSystem

/-! ## Powers -/

/-- A power of two. -/
def twoTo (n : Nat) : Nat := Nat.pow 2 n

/-- A power of ten. -/
def tenTo (n : Nat) : Nat := Nat.pow 10 n

/-! ## Formats -/

/-- A binary interchange format: how many bits hold the fraction and how many the exponent. -/
structure BinaryFormat where
  fractionBits : Nat
  exponentBits : Nat
  deriving DecidableEq, Repr

namespace BinaryFormat

/-- The 64-bit format. -/
def double : BinaryFormat := ⟨52, 11⟩

/-- The 32-bit format. -/
def single : BinaryFormat := ⟨23, 8⟩

/-- The exponent of the last place of the smallest values: every finite value is a whole
multiple of two to this power. -/
def leastExponent (f : BinaryFormat) : Int :=
  2 - twoTo (f.exponentBits - 1) - f.fractionBits

/-- The exponent field that marks infinities and values that are not numbers. -/
def topField (f : BinaryFormat) : Nat := twoTo f.exponentBits - 1

/-- The bit pattern of positive infinity, above every finite pattern. -/
def infinityBits (f : BinaryFormat) : Nat := f.topField * twoTo f.fractionBits

/-- The bit that holds the sign. -/
def signBit (f : BinaryFormat) : Nat := twoTo (f.fractionBits + f.exponentBits)

end BinaryFormat

/-! ## Reading a pattern -/

/-- What a bit pattern stands for: not a number, an infinity, or `± significand · 2 ^ exponent`. -/
inductive BinaryValue where
  | nan
  | infinite (negative : Bool)
  | finite (negative : Bool) (significand : Nat) (exponent : Int)
  deriving DecidableEq, Repr

namespace BinaryFormat

/-- Whether the sign bit of a pattern is set. -/
def isNegative (f : BinaryFormat) (bits : Nat) : Bool :=
  bits / f.signBit % 2 == 1

/-- The pattern without its sign bit. -/
def magnitude (f : BinaryFormat) (bits : Nat) : Nat :=
  bits % f.signBit

/-- Splits a pattern into sign, significand and exponent. A zero exponent field has no hidden
bit; any other adds one above the fraction. -/
def decode (f : BinaryFormat) (bits : Nat) : BinaryValue :=
  let negative := f.isNegative bits
  let size := f.magnitude bits
  let field := size / twoTo f.fractionBits
  let fraction := size % twoTo f.fractionBits
  if field = f.topField then
    if fraction = 0 then .infinite negative else .nan
  else if field = 0 then
    .finite negative fraction f.leastExponent
  else
    .finite negative (twoTo f.fractionBits + fraction) (f.leastExponent + field - 1)

/-! ## Rounding -/

/-- `num / den` rounded to a whole number, a half going to the even neighbour. -/
def roundHalfEven (num den : Nat) : Nat :=
  let whole := num / den
  let rest := num % den
  if 2 * rest < den then whole
  else if den < 2 * rest then whole + 1
  else if whole % 2 = 0 then whole else whole + 1

/-- `num / den` times two to the power `-exponent`, as a numerator and a denominator. -/
def scaleDown (num den : Nat) (exponent : Int) : Nat × Nat :=
  if 0 ≤ exponent then (num, den * twoTo exponent.toNat)
  else (num * twoTo (-exponent).toNat, den)

/-- The exponent of the last place when `num / den` is written with the format's precision. -/
def placeOf (f : BinaryFormat) (num den : Nat) : Int :=
  let guess : Int := (num.log2 : Int) - den.log2 - f.fractionBits - 1
  let (n, d) := scaleDown num den guess
  let place := if n / d < twoTo (f.fractionBits + 1) then guess else guess + 1
  max place f.leastExponent

/-- The pattern of the value nearest to `num / den`, ties to even. The significand and the
exponent field are added, so that a significand rounded up past its width carries into the
exponent; what passes the largest finite value is infinite. -/
def roundQuotient (f : BinaryFormat) (negative : Bool) (num den : Nat) : Nat :=
  let sign := if negative then f.signBit else 0
  if num = 0 ∨ den = 0 then sign
  else
    let place := f.placeOf num den
    let (n, d) := scaleDown num den place
    let pattern := (place - f.leastExponent).toNat * twoTo f.fractionBits + roundHalfEven n d
    sign + min pattern f.infinityBits

/-- A bound on the decimal exponents that can matter: a number of at least ten to this power
is infinite in either format. -/
def decimalReach : Int := 400

/-- A bound on the binary exponents that can matter: a number below two to minus this power is
zero in either format. -/
def binaryReach : Int := 1600

/-- The pattern of the value nearest to `± significand · 10 ^ exponent`. Powers of ten are not
built where the answer is known without them. -/
def roundDecimal (f : BinaryFormat) (negative : Bool) (significand : Nat) (exponent : Int) : Nat :=
  let sign := if negative then f.signBit else 0
  if significand = 0 then sign
  else if decimalReach < exponent then sign + f.infinityBits
  else if (significand.log2 : Int) + 3 * exponent < -binaryReach then sign
  else if 0 ≤ exponent then
    f.roundQuotient negative (significand * tenTo exponent.toNat) 1
  else
    f.roundQuotient negative significand (tenTo (-exponent).toNat)

end BinaryFormat

end WindowSystem
