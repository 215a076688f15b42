/-
# RON text: writing

The indented form: every field and every item of a list on a line of its own, with a comma after
each. A value is written at a depth, which says how far its lines are moved in.
-/
import WindowSystem.Number.Decimal
import WindowSystem.Ron.Basic
import WindowSystem.Text.Quoted

namespace WindowSystem.Ron

/-- Whole numbers carry a fraction. -/
def doubleStyle : DoubleStyle := ⟨"NaN", "inf", true⟩

/-- The characters that may start a name. -/
def isNameStart (c : Char) : Bool := c.isAlpha || c == '_'

/-- The characters of a name after the first. -/
def isNameChar (c : Char) : Bool := c.isAlphanum || c == '_'

/-- The characters of a raw name, which starts with a mark. -/
def isRawNameChar (c : Char) : Bool :=
  isNameChar c || c == '.' || c == '+' || c == '-'

/-- A name, with the mark of a raw name where it needs one. -/
def nameText (s : String) : List Char :=
  match s.toList with
  | c :: rest =>
    if isNameStart c && rest.all isNameChar then c :: rest else 'r' :: '#' :: c :: rest
  | [] => ['r', '#']

/-- The blanks before a line at a depth. -/
def indent (depth : Nat) : List Char := List.replicate (4 * depth) ' '

/-- A double as a number. -/
def ofDouble (x : Double) : Term := .number (x.textIn doubleStyle).toList

/-- A natural number. -/
def ofNat (n : Nat) : Term := .number (decimalDigits n)

/-- An optional value. -/
def ofOption {α : Type} (f : α → Term) : Option α → Term
  | none => .absent
  | some a => .present (f a)

mutual

/-- The text of a value whose first line is already moved in. -/
def render (depth : Nat) : Term → List Char
  | .number literal => literal
  | .bool b => (if b then "true" else "false").toList
  | .text s => (Text.quoted s).toList
  | .char c => (Text.quotedChar c).toList
  | .absent => "None".toList
  | .present t => "Some(".toList ++ render depth t ++ [')']
  | .name s => nameText s
  | .list [] => ['[', ']']
  | .list items => ['[', '\n'] ++ renderItems (depth + 1) items ++ indent depth ++ [']']
  | .map [] => ['\x7b', '\x7d']
  | .map entries => ['\x7b', '\n'] ++ renderEntries (depth + 1) entries ++ indent depth ++ ['\x7d']
  | .tuple name items => titleText name ++ ['('] ++ renderInline depth items ++ [')']
  | .struct name [] => titleText name ++ ['(', ')']
  | .struct name fields =>
    titleText name ++ ['(', '\n'] ++ renderFields (depth + 1) fields ++ indent depth ++ [')']

/-- The optional name before a structure. -/
def titleText : Option String → List Char
  | none => []
  | some s => nameText s

def renderItems (depth : Nat) : List Term → List Char
  | [] => []
  | t :: rest => indent depth ++ render depth t ++ [',', '\n'] ++ renderItems depth rest

def renderEntries (depth : Nat) : List (Term × Term) → List Char
  | [] => []
  | (k, t) :: rest =>
    indent depth ++ render depth k ++ [':', ' '] ++ render depth t ++ [',', '\n'] ++
      renderEntries depth rest

def renderFields (depth : Nat) : List (String × Term) → List Char
  | [] => []
  | (name, t) :: rest =>
    indent depth ++ nameText name ++ [':', ' '] ++ render depth t ++ [',', '\n'] ++
      renderFields depth rest

def renderInline (depth : Nat) : List Term → List Char
  | [] => []
  | [t] => render depth t
  | t :: rest => render depth t ++ [',', ' '] ++ renderInline depth rest

end

end WindowSystem.Ron
