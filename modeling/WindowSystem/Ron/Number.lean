/-
# RON numbers

What the literals of the notation stand for. An integer may be written in four bases with
underscores between its digits, a double only in decimal and without underscores.
-/
import WindowSystem.Number.Double

namespace WindowSystem.Ron

/-! ## Characters -/

/-- The value of a hexadecimal digit. -/
def hexValue? (c : Char) : Option Nat :=
  if '0' ≤ c ∧ c ≤ '9' then some (c.toNat - 48)
  else if 'a' ≤ c ∧ c ≤ 'f' then some (c.toNat - 87)
  else if 'A' ≤ c ∧ c ≤ 'F' then some (c.toNat - 55)
  else none

/-- The characters of a number of any base, with or without sign, point and exponent. -/
def isNumberChar (c : Char) : Bool :=
  c.isAlphanum || c == '_' || c == '.' || c == '+' || c == '-'

/-- Whether a text starts like a number. -/
def startsNumber : List Char → Bool
  | c :: _ => c.isDigit || c == '+' || c == '-' || c == '.'
  | [] => false

/-! ## Integers -/

/-- The number that digits of a base write; underscores are skipped, but none stands first. -/
def digitsInBase? (base : Nat) (cs : List Char) : Option Nat :=
  match cs with
  | [] => none
  | '_' :: _ => none
  | cs =>
    cs.foldlM (fun n c =>
      if c = '_' then some n
      else (hexValue? c).bind fun d => if d < base then some (n * base + d) else none) 0

/-- The number of an integer literal without sign. -/
def natural? (cs : List Char) : Option Nat :=
  match cs with
  | '0' :: 'x' :: rest => digitsInBase? 16 rest
  | '0' :: 'b' :: rest => digitsInBase? 2 rest
  | '0' :: 'o' :: rest => digitsInBase? 8 rest
  | _ => digitsInBase? 10 cs

/-! ## Doubles -/

/-- The number that decimal digits write. -/
def decimalValue (ds : List Char) : Nat := ds.foldl (fun n c => n * 10 + (c.toNat - 48)) 0

/-- The sign at the front of a number. -/
def splitSign : List Char → Bool × List Char
  | '-' :: rest => (true, rest)
  | '+' :: rest => (false, rest)
  | cs => (false, cs)

/-- The digits before and after a point; one side may be empty, but not both. -/
def significand? (cs : List Char) : Option (List Char × List Char × List Char) :=
  let (whole, rest) := cs.span Char.isDigit
  let (fraction, rest) :=
    match rest with
    | '.' :: more => more.span Char.isDigit
    | _ => ([], rest)
  if whole.isEmpty && fraction.isEmpty then none else some (whole, fraction, rest)

/-- The exponent that ends a number, zero where there is none. -/
def exponent? (cs : List Char) : Option Int :=
  match cs with
  | [] => some 0
  | e :: rest =>
    if e = 'e' ∨ e = 'E' then
      let (negative, digits) := splitSign rest
      if digits.isEmpty || !digits.all Char.isDigit then none
      else some (if negative then -(decimalValue digits : Int) else decimalValue digits)
    else none

/-- The double of a decimal literal. -/
def double? (cs : List Char) : Option Double := do
  let (negative, rest) := splitSign cs
  if rest = "inf".toList then some (Double.infinity negative)
  else if rest = "NaN".toList then some Double.nan
  else
    let (whole, fraction, rest) ← significand? rest
    let exponent ← exponent? rest
    some (Double.ofDecimal negative (decimalValue (whole ++ fraction))
      (exponent - fraction.length))

/-! ## Literals -/

/-- Whether a literal is a number at all: an integer that fits into 64 bits, with a sign or
without, or else a double. -/
def isNumeric (literal : List Char) : Bool :=
  let isInteger :=
    match literal with
    | '-' :: digits => (natural? digits).any fun n => Int64.minValue.toInt ≤ -(n : Int)
    | '+' :: digits => (natural? digits).any fun n => (n : Int) ≤ Int64.maxValue.toInt
    | digits => (natural? digits).any (· < UInt64.size)
  isInteger || (double? literal).isSome

end WindowSystem.Ron
