/-
# JSON text

Reading and writing plain data as JSON. A number without point and exponent is an integer, any
other the nearest double; a later field replaces an earlier one of the same name.
-/
import WindowSystem.Datum.Basic
import WindowSystem.Number.Decimal

namespace WindowSystem.Datum.Json

/-! ## Writing -/

/-- A character of a string literal. Quotes, backslashes and control characters are escaped. -/
def escapedChar (c : Char) : List Char :=
  if c = '"' then ['\\', '"']
  else if c = '\\' then ['\\', '\\']
  else if c.toNat < 0x20 then ['\\', 'u'] ++ (paddedHexText 4 c.toNat).toList
  else [c]

/-- A string literal. -/
def quoted (s : String) : String :=
  "\"" ++ String.ofList (s.toList.flatMap escapedChar) ++ "\""

mutual

/-- The JSON text of a value. A number that JSON cannot write becomes null. -/
def render : Datum → String
  | .null => "null"
  | .bool b => if b then "true" else "false"
  | .int n => integerText n
  | .float x => if x.isFinite then x.textIn ⟨"null", "null", true⟩ else "null"
  | .text s => quoted s
  | .list items => "[" ++ ",".intercalate (renderItems items) ++ "]"
  | .record fields => "\x7b" ++ ",".intercalate (renderFields fields) ++ "\x7d"

def renderItems : List Datum → List String
  | [] => []
  | d :: rest => render d :: renderItems rest

def renderFields : List (String × Datum) → List String
  | [] => []
  | (key, d) :: rest => (quoted key ++ ":" ++ render d) :: renderFields rest

end

/-! ## Reading -/

/-- The blanks of JSON. -/
def isBlank (c : Char) : Bool :=
  c == ' ' || c == '\n' || c == '\r' || c == '\t'

/-- Text without its leading blanks. -/
def skipBlanks (cs : List Char) : List Char := cs.dropWhile isBlank

/-- The value of a hexadecimal digit. -/
def hexDigit? (c : Char) : Option Nat :=
  if '0' ≤ c ∧ c ≤ '9' then some (c.toNat - 48)
  else if 'a' ≤ c ∧ c ≤ 'f' then some (c.toNat - 87)
  else if 'A' ≤ c ∧ c ≤ 'F' then some (c.toNat - 55)
  else none

/-- The number that four hexadecimal digits write, and the rest. -/
def hex4? : List Char → Option (Nat × List Char)
  | a :: b :: c :: d :: rest => do
    let a ← hexDigit? a
    let b ← hexDigit? b
    let c ← hexDigit? c
    let d ← hexDigit? d
    pure (((a * 16 + b) * 16 + c) * 16 + d, rest)
  | _ => none

/-- The character after a `\u`. Characters beyond the first plane are written as a pair of
surrogates; half a pair is refused. -/
def unicodeEscape? (cs : List Char) : Option (Char × List Char) := do
  let (unit, rest) ← hex4? cs
  if 0xD800 ≤ unit ∧ unit < 0xDC00 then
    match rest with
    | '\\' :: 'u' :: tail =>
      let (low, rest) ← hex4? tail
      if 0xDC00 ≤ low ∧ low < 0xE000 then
        pure (Char.ofNat (0x10000 + (unit - 0xD800) * 0x400 + (low - 0xDC00)), rest)
      else none
    | _ => none
  else if 0xDC00 ≤ unit ∧ unit < 0xE000 then none
  else pure (Char.ofNat unit, rest)

/-- The character that a one-letter escape stands for. -/
def shortEscape? : Char → Option Char
  | '"' => some '"'
  | '\\' => some '\\'
  | '/' => some '/'
  | 'b' => some '\x08'
  | 'f' => some '\x0c'
  | 'n' => some '\n'
  | 'r' => some '\r'
  | 't' => some '\t'
  | _ => none

/-- The rest of a string literal after its opening quote. `fuel` bounds the characters read. -/
def stringBody? : Nat → List Char → List Char → Option (String × List Char)
  | 0, _, _ => none
  | fuel + 1, done, cs =>
    match cs with
    | [] => none
    | '"' :: rest => some (String.ofList done.reverse, rest)
    | '\\' :: 'u' :: rest =>
      (unicodeEscape? rest).bind fun (c, rest) => stringBody? fuel (c :: done) rest
    | '\\' :: e :: rest => (shortEscape? e).bind fun c => stringBody? fuel (c :: done) rest
    | c :: rest => if c.toNat < 0x20 then none else stringBody? fuel (c :: done) rest

/-- The decimal digits at the front of a text. -/
def digitRun (cs : List Char) : List Char × List Char := cs.span Char.isDigit

/-- The number that decimal digits write. -/
def digitsValue (cs : List Char) : Nat :=
  cs.foldl (fun n c => n * 10 + (c.toNat - 48)) 0

/-- The exponent part of a number, zero and absent when there is none. -/
def exponentPart? (cs : List Char) : Option (Option Int × List Char) :=
  match cs with
  | e :: rest =>
    if e = 'e' ∨ e = 'E' then
      let (negative, rest) :=
        match rest with
        | '-' :: tail => (true, tail)
        | '+' :: tail => (false, tail)
        | _ => (false, rest)
      let (digits, rest) := digitRun rest
      if digits.isEmpty then none
      else some (some (if negative then -(digitsValue digits : Int) else digitsValue digits), rest)
    else some (none, cs)
  | [] => some (none, [])

/-- A number literal. Minus zero is a double, since no integer is minus zero. -/
def number? (cs : List Char) : Option (Datum × List Char) := do
  let (negative, rest) := match cs with
    | '-' :: tail => (true, tail)
    | _ => (false, cs)
  let (whole, rest) := digitRun rest
  if whole.isEmpty || (whole.length > 1 && whole.head? == some '0') then none
  let (fraction, rest) ← match rest with
    | '.' :: tail =>
      let (digits, rest) := digitRun tail
      if digits.isEmpty then none else some (digits, rest)
    | _ => some ([], rest)
  let (exponent, rest) ← exponentPart? rest
  if fraction.isEmpty && exponent.isNone && !(negative && digitsValue whole == 0) then
    let n := digitsValue whole
    pure (.int (if negative then -(n : Int) else n), rest)
  else
    let x := Double.ofDecimal negative (digitsValue (whole ++ fraction))
      (exponent.getD 0 - fraction.length)
    if x.isFinite then pure (.float x, rest) else none

/-- Puts a field into a record, replacing one of the same name. -/
def putField (fields : List (String × Datum)) (key : String) (d : Datum) :
    List (String × Datum) :=
  if fields.any (fun field => field.1 == key) then
    fields.map fun field => if field.1 == key then (key, d) else field
  else fields ++ [(key, d)]

mutual

/-- A value at the front of a text, after blanks, that holds at most `depth` lists and records in
each other. `fuel` bounds the lengths of lists and records too. -/
def value? : Nat → Nat → List Char → Option (Datum × List Char)
  | 0, _, _ => none
  | fuel + 1, depth, cs =>
    match skipBlanks cs with
    | 'n' :: 'u' :: 'l' :: 'l' :: rest => some (.null, rest)
    | 't' :: 'r' :: 'u' :: 'e' :: rest => some (.bool true, rest)
    | 'f' :: 'a' :: 'l' :: 's' :: 'e' :: rest => some (.bool false, rest)
    | '"' :: rest =>
      (stringBody? (rest.length + 1) [] rest).map fun (s, rest) => (.text s, rest)
    | '[' :: rest =>
      match depth with
      | 0 => none
      | depth + 1 =>
        match skipBlanks rest with
        | ']' :: rest => some (.list [], rest)
        | rest => (items? fuel depth [] rest).map fun (items, rest) => (.list items, rest)
    | '\x7b' :: rest =>
      match depth with
      | 0 => none
      | depth + 1 =>
        match skipBlanks rest with
        | '\x7d' :: rest => some (.record [], rest)
        | rest => (fields? fuel depth [] rest).map fun (fields, rest) => (.record fields, rest)
    | rest => number? rest

/-- The items of a list up to its closing bracket. -/
def items? : Nat → Nat → List Datum → List Char → Option (List Datum × List Char)
  | 0, _, _, _ => none
  | fuel + 1, depth, done, cs =>
    (value? fuel depth cs).bind fun (d, rest) =>
      match skipBlanks rest with
      | ',' :: rest => items? fuel depth (d :: done) rest
      | ']' :: rest => some ((d :: done).reverse, rest)
      | _ => none

/-- The fields of a record up to its closing brace. -/
def fields? : Nat → Nat → List (String × Datum) → List Char →
    Option (List (String × Datum) × List Char)
  | 0, _, _, _ => none
  | fuel + 1, depth, done, cs =>
    match skipBlanks cs with
    | '"' :: rest =>
      (stringBody? (rest.length + 1) [] rest).bind fun (key, rest) =>
        match skipBlanks rest with
        | ':' :: rest =>
          (value? fuel depth rest).bind fun (d, rest) =>
            match skipBlanks rest with
            | ',' :: rest => fields? fuel depth (putField done key d) rest
            | '\x7d' :: rest => some (putField done key d, rest)
            | _ => none
        | _ => none
    | _ => none

end

/-- The most lists and records that may lie in each other. -/
def depthLimit : Nat := 127

/-- Reads a whole JSON text. -/
def parse? (s : String) : Option Datum :=
  let cs := s.toList
  match value? (2 * cs.length + 2) depthLimit cs with
  | some (d, rest) => if (skipBlanks rest).isEmpty then some d else none
  | none => none

end WindowSystem.Datum.Json
