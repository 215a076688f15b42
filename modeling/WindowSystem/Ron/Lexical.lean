/-
# RON text: literals

Readers for the smallest parts of a text of the notation: blanks and comments, names, quoted text
and characters. A reader takes the text that is left and gives back a value and what remains.
-/
import WindowSystem.Ron.Number
import WindowSystem.Ron.Writer

namespace WindowSystem.Ron

/-- A reader of a value at the front of a text. -/
abbrev Reader (α : Type) := List Char → Option (α × List Char)

/-! ## Blanks and comments -/

def isBlank (c : Char) : Bool := c == ' ' || c == '\t' || c == '\n' || c == '\r'

/-- The text after a block comment that is open `depth + 1` times. -/
def blockComment? (depth : Nat) : List Char → Option (List Char)
  | '/' :: '*' :: rest => blockComment? (depth + 1) rest
  | '*' :: '/' :: rest =>
    match depth with
    | 0 => some rest
    | depth + 1 => blockComment? depth rest
  | _ :: rest => blockComment? depth rest
  | [] => none

/-- Text without the blanks and comments at its front. A slash that starts no comment and a
comment that does not end are refused. `fuel` bounds the number of comments. -/
def skipBlanks? : Nat → List Char → Option (List Char)
  | 0, cs => some cs
  | fuel + 1, cs =>
    match cs.dropWhile isBlank with
    | '/' :: '/' :: rest => skipBlanks? fuel (rest.dropWhile (· != '\n'))
    | '/' :: '*' :: rest => (blockComment? 0 rest).bind (skipBlanks? fuel)
    | '/' :: _ => none
    | rest => some rest

/-- Blanks and comments with enough fuel for the text. The text is measured only where a comment
may start. -/
def skip? (cs : List Char) : Option (List Char) :=
  match cs.dropWhile isBlank with
  | '/' :: rest => skipBlanks? (rest.length + 2) ('/' :: rest)
  | rest => some rest

/-- A comma after a value, with the blanks around it; whether there was one. -/
def comma? (cs : List Char) : Option (Bool × List Char) :=
  (skip? cs).bind fun rest =>
    match rest with
    | ',' :: rest => (skip? rest).map fun rest => (true, rest)
    | rest => some (false, rest)

/-! ## Names -/

/-- A name, raw or not. A name that runs on into the further characters of raw names is refused,
and so is a letter that opens a raw string. -/
def name? : Reader String := fun cs =>
  match cs with
  | 'r' :: '"' :: _ => none
  | 'r' :: '#' :: rest =>
    let (name, rest) := rest.span isRawNameChar
    if name.isEmpty then none else some (String.ofList name, rest)
  | c :: _ =>
    if isNameStart c then
      let (name, rest) := cs.span isNameChar
      match rest with
      | d :: _ => if isRawNameChar d then none else some (String.ofList name, rest)
      | [] => some (String.ofList name, rest)
    else none
  | [] => none

/-- A word at the front of a text that no character of a name follows; what remains. -/
def word? (word : String) (cs : List Char) : Option (List Char) :=
  let w := word.toList
  if w.isPrefixOf cs then
    match cs.drop w.length with
    | d :: rest => if isNameChar d then none else some (d :: rest)
    | [] => some []
  else none

/-! ## Text -/

/-- The character after a short escape. -/
def shortEscape? : Char → Option Char
  | '\'' => some '\''
  | '"' => some '"'
  | '\\' => some '\\'
  | 'n' => some '\n'
  | 'r' => some '\r'
  | 't' => some '\t'
  | '0' => some '\x00'
  | _ => none

/-- The character of up to `left` hexadecimal digits and the brace after them. -/
def bracedEscape? (left : Nat) (n : Nat) : List Char → Option (Char × List Char)
  | '\x7d' :: rest => if n.isValidChar then some (Char.ofNat n, rest) else none
  | c :: rest =>
    match left with
    | 0 => none
    | left + 1 => (hexValue? c).bind fun d => bracedEscape? left (n * 16 + d) rest
  | [] => none

/-- The character of an escape, after its backslash. -/
def escape? : Reader Char := fun cs =>
  match cs with
  | 'x' :: a :: b :: rest => do
    let a ← hexValue? a
    let b ← hexValue? b
    some (Char.ofNat (a * 16 + b), rest)
  | 'u' :: '\x7b' :: '\x7d' :: _ => none
  | 'u' :: '\x7b' :: rest => bracedEscape? 6 0 rest
  | c :: rest => (shortEscape? c).map fun c => (c, rest)
  | [] => none

/-- The body of a text up to its closing quote. `fuel` bounds the characters read. -/
def textBody? : Nat → List Char → Reader String
  | 0, _, _ => none
  | fuel + 1, done, cs =>
    match cs with
    | [] => none
    | '"' :: rest => some (String.ofList done.reverse, rest)
    | '\\' :: rest => (escape? rest).bind fun (c, rest) => textBody? fuel (c :: done) rest
    | c :: rest => textBody? fuel (c :: done) rest

/-- The body of a raw text up to a quote and as many hashes as opened it. -/
def rawBody? (hashes : Nat) (done : List Char) : Reader String := fun cs =>
  match cs with
  | [] => none
  | '"' :: rest =>
    if (List.replicate hashes '#').isPrefixOf rest then
      some (String.ofList done.reverse, rest.drop hashes)
    else rawBody? hashes ('"' :: done) rest
  | c :: rest => rawBody? hashes (c :: done) rest

/-- A text, plain or raw. -/
def text? : Reader String := fun cs =>
  match cs with
  | '"' :: rest => textBody? (rest.length + 1) [] rest
  | 'r' :: rest =>
    let (hashes, rest) := rest.span (· == '#')
    match rest with
    | '"' :: rest => rawBody? hashes.length [] rest
    | _ => none
  | _ => none

/-- A character between single quotes. -/
def char? : Reader Char := fun cs =>
  match cs with
  | '\'' :: '\\' :: rest =>
    (escape? rest).bind fun (c, rest) =>
      match rest with
      | '\'' :: rest => some (c, rest)
      | _ => none
  | '\'' :: c :: '\'' :: rest => if c = '\'' then none else some (c, rest)
  | _ => none

end WindowSystem.Ron
