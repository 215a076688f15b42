/-
# TOML: reading literals

Readers for the smallest parts of a TOML document: blanks and comments, keys, strings, numbers
and dates. A reader takes the text that is left and gives back a value and what remains.
-/
import WindowSystem.Number.Double

namespace WindowSystem.Toml

/-- A reader of a value at the front of a text. -/
abbrev Reader (α : Type) := List Char → Option (α × List Char)

/-! ## Blanks, line ends and comments -/

/-- The blanks inside a line. -/
def isBlank (c : Char) : Bool := c == ' ' || c == '\t'

/-- Text without its leading blanks. -/
def skipBlanks (cs : List Char) : List Char := cs.dropWhile isBlank

/-- A line break, with or without a carriage return. -/
def lineBreak? : List Char → Option (List Char)
  | '\n' :: rest => some rest
  | '\r' :: '\n' :: rest => some rest
  | _ => none

/-- The characters that may stand in a comment. -/
def isCommentChar (c : Char) : Bool :=
  c == '\t' || (0x20 ≤ c.toNat && c.toNat != 0x7f)

/-- Text without a comment at its front. -/
def skipComment : List Char → List Char
  | '#' :: rest => rest.dropWhile isCommentChar
  | cs => cs

/-- The end of a line, which may hold blanks and a comment, or of the document. -/
def lineEnd? (cs : List Char) : Option (List Char) :=
  match skipComment (skipBlanks cs) with
  | [] => some []
  | rest => lineBreak? rest

/-- Skips blanks, comments and line breaks. `fuel` bounds the number of lines. -/
def skipLines : Nat → List Char → List Char
  | 0, cs => cs
  | fuel + 1, cs =>
    match lineBreak? (skipComment (skipBlanks cs)) with
    | some below => skipLines fuel below
    | none => skipBlanks cs

/-- Skips what may stand between the items of a list. The text is measured only where a line ends
or a comment starts. -/
def skipToItem (cs : List Char) : List Char :=
  match skipBlanks cs with
  | c :: rest =>
    if c = '#' ∨ c = '\n' ∨ c = '\r' then skipLines (rest.length + 1) (c :: rest) else c :: rest
  | [] => []

/-! ## Strings -/

/-- The value of a hexadecimal digit. -/
def hexValue? (c : Char) : Option Nat :=
  if '0' ≤ c ∧ c ≤ '9' then some (c.toNat - 48)
  else if 'a' ≤ c ∧ c ≤ 'f' then some (c.toNat - 87)
  else if 'A' ≤ c ∧ c ≤ 'F' then some (c.toNat - 55)
  else none

/-- The number that hexadecimal digits write. -/
def hexNumber? (cs : List Char) : Option Nat :=
  cs.foldlM (fun n c => (hexValue? c).map (n * 16 + ·)) 0

/-- The character with a given number, if there is one. -/
def scalar? (n : Nat) : Option Char :=
  if n.isValidChar then some (Char.ofNat n) else none

/-- The character that a one-letter escape stands for. -/
def shortEscape? : Char → Option Char
  | 'b' => some '\x08'
  | 't' => some '\t'
  | 'n' => some '\n'
  | 'f' => some '\x0c'
  | 'r' => some '\r'
  | '"' => some '"'
  | '\\' => some '\\'
  | _ => none

/-- The characters that stand for themselves in strings of one line, quotes apart. -/
def isPlain (c : Char) : Bool :=
  c == '\t' || (0x20 ≤ c.toNat && c.toNat != 0x7f)

/-- The body of a basic string up to its closing quote. -/
def basicBody? : List Char → Option (List Char × List Char)
  | '"' :: rest => some ([], rest)
  | '\\' :: 'u' :: a :: b :: c :: d :: rest => do
    let x ← (hexNumber? [a, b, c, d]).bind scalar?
    (basicBody? rest).map fun (s, rest) => (x :: s, rest)
  | '\\' :: 'U' :: a :: b :: c :: d :: e :: f :: g :: h :: rest => do
    let x ← (hexNumber? [a, b, c, d, e, f, g, h]).bind scalar?
    (basicBody? rest).map fun (s, rest) => (x :: s, rest)
  | '\\' :: e :: rest => do
    let x ← shortEscape? e
    (basicBody? rest).map fun (s, rest) => (x :: s, rest)
  | c :: rest =>
    if isPlain c && c != '\\' then (basicBody? rest).map fun (s, rest) => (c :: s, rest)
    else none
  | [] => none

/-- The body of a literal string up to its closing quote. -/
def literalBody? : List Char → Option (List Char × List Char)
  | '\'' :: rest => some ([], rest)
  | c :: rest => if isPlain c then (literalBody? rest).map fun (s, rest) => (c :: s, rest) else none
  | [] => none

/-- Whether a backslash at the end of a line follows: blanks and a line break. -/
def continuesLine (cs : List Char) : Bool := (lineBreak? (skipBlanks cs)).isSome

/-- The end of a multi-line string at a run of at least three quotes: up to two quotes more than
the closing three belong to the string. -/
def closing? (q : Char) : List Char → Option (List Char × List Char)
  | a :: b :: c :: d :: e :: rest =>
    if a = q ∧ b = q ∧ c = q then
      if d = q then if e = q then some ([q, q], rest) else some ([q], e :: rest)
      else some ([], d :: e :: rest)
    else none
  | [a, b, c, d] =>
    if a = q ∧ b = q ∧ c = q then if d = q then some ([q], []) else some ([], [d]) else none
  | [a, b, c] => if a = q ∧ b = q ∧ c = q then some ([], []) else none
  | _ => none

/-- The body of a multi-line basic string. While `skipping`, after a backslash at the end of a
line, blanks and line breaks are passed over. -/
def multilineBasicBody? (skipping : Bool) : List Char → Option (List Char × List Char)
  | [] => none
  | '\\' :: 'u' :: a :: b :: c :: d :: rest => do
    let x ← (hexNumber? [a, b, c, d]).bind scalar?
    (multilineBasicBody? false rest).map fun (s, rest) => (x :: s, rest)
  | '\\' :: 'U' :: a :: b :: c :: d :: e :: f :: g :: h :: rest => do
    let x ← (hexNumber? [a, b, c, d, e, f, g, h]).bind scalar?
    (multilineBasicBody? false rest).map fun (s, rest) => (x :: s, rest)
  | '\\' :: e :: rest =>
    if continuesLine (e :: rest) then multilineBasicBody? true rest
    else do
      let x ← shortEscape? e
      (multilineBasicBody? false rest).map fun (s, rest) => (x :: s, rest)
  | '\r' :: '\n' :: rest =>
    if skipping then multilineBasicBody? true rest
    else (multilineBasicBody? false rest).map fun (s, rest) => ('\n' :: s, rest)
  | c :: rest =>
    if skipping && (isBlank c || c == '\n') then multilineBasicBody? true rest
    else
      match closing? '"' (c :: rest) with
      | some done => some done
      | none =>
        if (isPlain c && c != '\\') || c == '\n' then
          (multilineBasicBody? false rest).map fun (s, rest) => (c :: s, rest)
        else none

/-- The body of a multi-line literal string. -/
def multilineLiteralBody? : List Char → Option (List Char × List Char)
  | [] => none
  | '\r' :: '\n' :: rest =>
    (multilineLiteralBody? rest).map fun (s, rest) => ('\n' :: s, rest)
  | c :: rest =>
    match closing? '\'' (c :: rest) with
    | some done => some done
    | none =>
      if isPlain c || c == '\n' then
        (multilineLiteralBody? rest).map fun (s, rest) => (c :: s, rest)
      else none

/-- A line break right after an opening delimiter of three quotes does not count. -/
def dropFirstBreak (cs : List Char) : List Char := (lineBreak? cs).getD cs

/-- A string in any of its four forms. -/
def string? : Reader String := fun cs =>
  let body :=
    match cs with
    | '"' :: '"' :: '"' :: rest => multilineBasicBody? false (dropFirstBreak rest)
    | '"' :: rest => basicBody? rest
    | '\'' :: '\'' :: '\'' :: rest => multilineLiteralBody? (dropFirstBreak rest)
    | '\'' :: rest => literalBody? rest
    | _ => none
  body.map fun (s, rest) => (String.ofList s, rest)

/-! ## Keys -/

/-- The characters of a key without quotes. -/
def isKeyChar (c : Char) : Bool := c.isAlphanum || c == '_' || c == '-'

/-- One part of a key, bare or between single quotes of either kind. -/
def simpleKey? : Reader String := fun cs =>
  match cs with
  | '"' :: rest => (basicBody? rest).map fun (s, rest) => (String.ofList s, rest)
  | '\'' :: rest => (literalBody? rest).map fun (s, rest) => (String.ofList s, rest)
  | _ =>
    let (key, rest) := cs.span isKeyChar
    if key.isEmpty then none else some (String.ofList key, rest)

/-- A key of one or more parts with dots between them, but no more than a given number; blanks
may stand around the dots. -/
def keyOfParts? : Nat → Reader (List String)
  | 0, _ => none
  | left + 1, cs =>
    (simpleKey? cs).bind fun (part, rest) =>
      match skipBlanks rest with
      | '.' :: more =>
        (keyOfParts? left (skipBlanks more)).map fun (parts, rest) => (part :: parts, rest)
      | _ => some ([part], rest)

/-- The most parts that a key may have, and the most lists and inline tables that may lie in each
other. -/
def depthLimit : Nat := 79

/-- A key. -/
def dottedKey? : Reader (List String) := keyOfParts? depthLimit

/-! ## Numbers -/

/-- Digits of a base, single underscores between them. At least one digit. -/
def digits? (isDigit : Char → Bool) : List Char → Option (List Char × List Char)
  | c :: '_' :: d :: rest =>
    if isDigit c then
      if isDigit d then
        (digits? isDigit (d :: rest)).map fun (ds, rest) => (c :: ds, rest)
      else none
    else none
  | c :: rest =>
    if isDigit c then
      match rest with
      | [] => some ([c], [])
      | d :: _ =>
        if d = '_' then none
        else if isDigit d then (digits? isDigit rest).map fun (ds, rest) => (c :: ds, rest)
        else some ([c], rest)
    else none
  | [] => none

/-- The sign at the front of a number: whether it is negative, and the rest. -/
def sign : List Char → Bool × List Char
  | '-' :: rest => (true, rest)
  | '+' :: rest => (false, rest)
  | cs => (false, cs)

/-- The number that decimal digits write. -/
def decimalValue (ds : List Char) : Nat := ds.foldl (fun n c => n * 10 + (c.toNat - 48)) 0

/-- Whole digits of a decimal number: no zero stands before others. -/
def wholeDigits? : Reader (List Char) := fun cs =>
  match cs with
  | '0' :: rest => some (['0'], rest)
  | _ => digits? Char.isDigit cs

/-- An exponent: a letter, an optional sign and digits. -/
def exponent? : Reader Int := fun cs =>
  match cs with
  | e :: rest =>
    if e = 'e' ∨ e = 'E' then
      let (negative, rest) := sign rest
      (digits? Char.isDigit rest).map fun (ds, rest) =>
        (if negative then -(decimalValue ds : Int) else decimalValue ds, rest)
    else none
  | [] => none

/-- A floating-point number with a fraction, an exponent or both. One that is too large to write
is refused, but only when it is positive. -/
def float? : Reader Double := fun cs => do
  let (negative, rest) := sign cs
  let (whole, rest) ← wholeDigits? rest
  let finish (fraction : List Char) (exponent : Int) (rest : List Char) :
      Option (Double × List Char) :=
    let x := Double.ofDecimal negative (decimalValue (whole ++ fraction))
      (exponent - fraction.length)
    if x = Double.infinity false then none else some (x, rest)
  match rest with
  | '.' :: more =>
    let (fraction, rest) ← digits? Char.isDigit more
    match rest with
    | 'e' :: _ | 'E' :: _ =>
      let (exponent, rest) ← exponent? rest
      finish fraction exponent rest
    | _ => finish fraction 0 rest
  | _ =>
    let (exponent, rest) ← exponent? rest
    finish [] exponent rest

/-- The values that have no digits. -/
def specialFloat? : Reader Double := fun cs =>
  let (negative, rest) := sign cs
  match rest with
  | 'i' :: 'n' :: 'f' :: rest => some (Double.infinity negative, rest)
  | 'n' :: 'a' :: 'n' :: rest => some (Double.nan, rest)
  | _ => none

/-- An integer, in one of four bases; only decimal ones have a sign. -/
def integer? : Reader Int := fun cs =>
  let based (base : Nat) (isDigit : Char → Bool) (rest : List Char) : Option (Int × List Char) :=
    (digits? isDigit rest).bind fun (ds, rest) =>
      (ds.foldlM (fun n c => (hexValue? c).map (n * base + ·)) 0).map fun n => ((n : Int), rest)
  let value :=
    match cs with
    | '0' :: 'x' :: rest => based 16 (fun c => (hexValue? c).isSome) rest
    | '0' :: 'o' :: rest => based 8 (fun c => '0' ≤ c && c ≤ '7') rest
    | '0' :: 'b' :: rest => based 2 (fun c => c == '0' || c == '1') rest
    | _ =>
      let (negative, rest) := sign cs
      (wholeDigits? rest).map fun (ds, rest) =>
        (if negative then -(decimalValue ds : Int) else decimalValue ds, rest)
  value.filter fun (n, _) => Int64.minValue.toInt ≤ n && n ≤ Int64.maxValue.toInt

/-! ## Dates -/

/-- A number of exactly so many digits between two bounds. -/
def fixedDigits? (count low high : Nat) : Reader Nat := fun cs =>
  let ds := cs.take count
  if ds.length = count ∧ ds.all Char.isDigit then
    let n := decimalValue ds
    if low ≤ n ∧ n ≤ high then some (n, cs.drop count) else none
  else none

/-- A character that has to stand there. -/
def expect? (c : Char) : List Char → Option (List Char)
  | d :: rest => if c = d then some rest else none
  | [] => none

/-- The number of days of a month. -/
def daysInMonth (year month : Nat) : Nat :=
  if month = 2 then
    if year % 4 = 0 ∧ (year % 100 ≠ 0 ∨ year % 400 = 0) then 29 else 28
  else if month = 4 ∨ month = 6 ∨ month = 9 ∨ month = 11 then 30
  else 31

/-- A date that exists; what remains. -/
def date? (cs : List Char) : Option (List Char) := do
  let (year, rest) ← fixedDigits? 4 0 9999 cs
  let rest ← expect? '-' rest
  let (month, rest) ← fixedDigits? 2 1 12 rest
  let rest ← expect? '-' rest
  let (day, rest) ← fixedDigits? 2 1 31 rest
  if day ≤ daysInMonth year month then some rest else none

/-- A time of day with an optional fraction of a second; what remains. -/
def time? (cs : List Char) : Option (List Char) := do
  let (_, rest) ← fixedDigits? 2 0 23 cs
  let rest ← expect? ':' rest
  let (_, rest) ← fixedDigits? 2 0 59 rest
  let rest ← expect? ':' rest
  let (_, rest) ← fixedDigits? 2 0 60 rest
  match rest with
  | '.' :: more =>
    match more.span Char.isDigit with
    | ([], _) => some rest
    | (_, rest) => some rest
  | _ => some rest

/-- An offset from universal time, if there is one; what remains. -/
def offset? (cs : List Char) : Option (List Char) :=
  match cs with
  | 'Z' :: rest | 'z' :: rest => some rest
  | '+' :: rest | '-' :: rest => do
    let (_, rest) ← fixedDigits? 2 0 23 rest
    let rest ← expect? ':' rest
    let (_, rest) ← fixedDigits? 2 0 59 rest
    some rest
  | _ => some cs

/-- The longest date, time or both at the front of a text; what remains. -/
def dateTime? (cs : List Char) : Option (List Char) :=
  match date? cs with
  | some rest =>
    match rest with
    | sep :: more =>
      if sep = 'T' ∨ sep = 't' ∨ sep = ' ' then
        match time? more with
        | some rest => offset? rest
        | none => if sep = ' ' then some rest else none
      else some rest
    | [] => some []
  | none => time? cs

end WindowSystem.Toml
