/-
# Described text

Text between quotes as descriptions and the object notation write it: quotes, backslashes and the
common controls get a short escape, what has no visible form its number, all else stands for
itself.
-/
import WindowSystem.Number.Decimal
import WindowSystem.Text.Printable

namespace WindowSystem.Text

/-- The short escape of a character, if it has one. -/
def shortEscape? : Char → Option Char
  | '\x00' => some '0'
  | '\t' => some 't'
  | '\r' => some 'r'
  | '\n' => some 'n'
  | '\\' => some '\\'
  | '"' => some '"'
  | '\'' => some '\''
  | _ => none

/-- A character by its number in hexadecimal. -/
def numbered (c : Char) : List Char :=
  ['\\', 'u', '\x7b'] ++ digitsIn 16 c.toNat ++ ['\x7d']

/-- A character inside quotes, both kinds of quote escaped. -/
def escaped (c : Char) : List Char :=
  match shortEscape? c with
  | some e => ['\\', e]
  | none => if isExtending c || !isPrintable c then numbered c else [c]

/-- A text between double quotes. -/
def quoted (s : String) : String :=
  "\"" ++ String.ofList (s.toList.flatMap escaped) ++ "\""

/-- A character between single quotes, where a double quote stands for itself. -/
def quotedChar (c : Char) : String :=
  "'" ++ String.ofList (if c = '"' then [c] else escaped c) ++ "'"

end WindowSystem.Text
