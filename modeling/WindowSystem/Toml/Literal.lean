/-
# TOML literals: writing

How a string, a number or a key is written in TOML. A string has four written forms; the first
that holds it without escapes is chosen, and one with escapes only where none does.
-/
import WindowSystem.Number.Decimal

namespace WindowSystem.Toml

/-! ## Strings -/

/-- The written forms of a string. Only the basic ones have escapes, only the multi-line ones
hold line breaks. -/
inductive StringForm where
  | basic | literal | multilineBasic | multilineLiteral
  deriving DecidableEq, Repr

/-- The length of the longest run of a character. -/
def longestRun (c : Char) (cs : List Char) : Nat :=
  (cs.foldl (fun (best, run) d =>
    if d = c then (max best (run + 1), run + 1) else (best, 0)) (0, 0)).1

/-- Whether a character can only be written as an escape. -/
def needsEscape (c : Char) : Bool :=
  (c.toNat < 0x20 && c != '\t' && c != '\n') || c.toNat == 0x7f

/-- The form in which a string is written. -/
def formOf (cs : List Char) : StringForm :=
  let controls := cs.any needsEscape
  let backslash := cs.contains '\\'
  let newline := cs.contains '\n'
  let doubles := longestRun '"' cs
  let singles := longestRun '\'' cs
  if !controls && !backslash && doubles == 0 && !newline then .basic
  else if !controls && singles == 0 && !newline then .literal
  else if !controls && !backslash && doubles ≤ 2 then .multilineBasic
  else if !controls && singles ≤ 2 then .multilineLiteral
  else if newline then .multilineBasic
  else .basic

/-- A character of a basic string; a line break stands for itself where the form holds it.
Quotes are dealt with by `escapedBody`. -/
def escapedChar (multiline : Bool) (c : Char) : List Char :=
  if c = '\x08' then ['\\', 'b']
  else if c = '\t' then ['\\', 't']
  else if c = '\n' then (if multiline then [c] else ['\\', 'n'])
  else if c = '\x0c' then ['\\', 'f']
  else if c = '\r' then ['\\', 'r']
  else if c = '\\' then ['\\', '\\']
  else if c.toNat < 0x20 ∨ c.toNat = 0x7f then
    ['\\', 'u', '0', '0', (digitChar (c.toNat / 16)).toUpper, (digitChar (c.toNat % 16)).toUpper]
  else [c]

/-- The characters of a basic string. `allowed` is the number of quotes that may follow each
other unescaped, `run` how many have just been written. -/
def escapedBody (multiline : Bool) (allowed run : Nat) : List Char → List Char
  | [] => []
  | c :: rest =>
    if c = '"' then
      if run < allowed then '"' :: escapedBody multiline allowed (run + 1) rest
      else '\\' :: '"' :: escapedBody multiline allowed 0 rest
    else escapedChar multiline c ++ escapedBody multiline allowed 0 rest

/-- What stands between an opening delimiter of three quotes and a string: a line break, which
does not count, where the string has line breaks of its own. -/
def opening (cs : List Char) : List Char :=
  if cs.contains '\n' then ['\n'] else []

/-- A string in a given form. -/
def stringIn (form : StringForm) (cs : List Char) : List Char :=
  match form with
  | .basic => '"' :: escapedBody false 0 0 cs ++ ['"']
  | .literal => '\'' :: cs ++ ['\'']
  | .multilineBasic => ['"', '"', '"'] ++ opening cs ++ escapedBody true 2 0 cs ++ ['"', '"', '"']
  | .multilineLiteral => ['\'', '\'', '\''] ++ opening cs ++ cs ++ ['\'', '\'', '\'']

/-- A string in its form. -/
def stringLiteral (s : String) : List Char := stringIn (formOf s.toList) s.toList

/-! ## Numbers and keys -/

/-- Whole numbers carry a fraction; the values without digits are in lower case. -/
def doubleStyle : DoubleStyle := ⟨"nan", "inf", true⟩

/-- The characters of a key that needs no quotes. -/
def isBareKeyChar (c : Char) : Bool :=
  c.isAlphanum || c == '_' || c == '-'

/-- A key, quoted where it has to be. -/
def keyText (key : String) : List Char :=
  let cs := key.toList
  if !cs.isEmpty && cs.all isBareKeyChar then cs else '"' :: escapedBody false 0 0 cs ++ ['"']

end WindowSystem.Toml
