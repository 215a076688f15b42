/-
# RON text: reading

Reads a text of the notation into a value. Blanks and comments may stand between any two signs;
a text may open with attributes that switch extensions on. How deeply values may lie in each other
is limited.
-/
import WindowSystem.Ron.Lexical

namespace WindowSystem.Ron

/-! ## Looking ahead -/

/-- Whether a field name and its colon stand at the front of a text. -/
def startsField (cs : List Char) : Bool :=
  match name? cs with
  | some (_, rest) =>
    match skip? rest with
    | some (':' :: _) => true
    | _ => false
  | none => false

/-- Passes over a text at the front, plain or raw. Of one without an end, and of the sign of raw
names, only the opening is passed over. -/
def passText (cs : List Char) : List Char :=
  match cs with
  | '"' :: rest => ((textBody? (rest.length + 1) [] rest).map Prod.snd).getD rest
  | 'r' :: rest =>
    let (hashes, rest) := rest.span (· == '#')
    match rest with
    | '"' :: rest => ((rawBody? hashes.length [] rest).map Prod.snd).getD rest
    | _ => rest
  | _ => cs

/-- Whether a look ahead finds the end of the first value between parentheses: a comma or a closing
bracket. It passes over comments and over texts, each together with the sign behind it, and counts
the brackets that open inside, also those that are written as characters. `fuel` bounds the
signs. -/
def findsEnd : Nat → Nat → List Char → Bool
  | 0, _, _ => false
  | fuel + 1, inner, cs =>
    match (skipBlanks? (fuel + 1) cs).map passText with
    | some (c :: rest) =>
      if c = '(' ∨ c = '[' ∨ c = '\x7b' then findsEnd fuel (inner + 1) rest
      else if c = ')' ∨ c = ']' ∨ c = '\x7d' then
        match inner with
        | 0 => true
        | inner + 1 => findsEnd fuel inner rest
      else (c = ',' && inner = 0) || findsEnd fuel inner rest
    | _ => false

/-- Whether values in order may stand between parentheses: the look ahead, which starts behind a
name at the front, finds an end. -/
def startsValues (cs : List Char) : Bool :=
  findsEnd (cs.length + 1) 0 (((name? cs).map Prod.snd).getD cs)

/-! ## Values -/

/-- The extensions that a text can switch on. Only the marks of optional values are affected by
them here. -/
structure Extensions where
  implicitSome : Bool := false
  deriving DecidableEq, Repr

mutual

/-- A value. What is nested in it takes up levels, of which `room` are left: one for the brackets
or the mark, one for each key, item or field between brackets. `fuel` bounds the lengths of what
is nested too. -/
def term? (extensions : Extensions) : Nat → Nat → Reader Term
  | 0, _, _ => none
  | fuel + 1, room, cs =>
    match cs with
    | '(' :: ')' :: rest => some (.tuple none [], rest)
    | '(' :: rest => body? extensions fuel room none rest
    | '[' :: rest =>
      match room with
      | 0 => none
      | room + 1 =>
        (items? extensions fuel room ']' [] rest).map fun (items, rest) => (.list items, rest)
    | '\x7b' :: rest =>
      match room with
      | 0 => none
      | room + 1 =>
        (entries? extensions fuel room [] rest).map fun (entries, rest) => (.map entries, rest)
    | '"' :: _ => (text? cs).map fun (s, rest) => (.text s, rest)
    | '\'' :: _ => (char? cs).map fun (c, rest) => (.char c, rest)
    | _ =>
      if startsNumber cs then
        let (literal, rest) := cs.span isNumberChar
        if isNumeric literal then some (.number literal, rest) else none
      else
        match word? "true" cs, word? "false" cs, word? "None" cs, word? "Some" cs with
        | some rest, _, _, _ => some (.bool true, rest)
        | _, some rest, _, _ => some (.bool false, rest)
        | _, _, some rest, _ => some (.absent, rest)
        | _, _, _, some rest => present? extensions fuel room rest
        | _, _, _, _ =>
          match word? "inf" cs, word? "NaN" cs with
          | some rest, _ => some (.number "inf".toList, rest)
          | _, some rest => some (.number "NaN".toList, rest)
          | _, _ =>
            match name? cs with
            | some (name, rest) =>
              match skip? rest with
              | some ('(' :: inner) => body? extensions fuel room (some name) inner
              | some _ => some (.name name, rest)
              | none => none
            | none => (text? cs).map fun (s, rest) => (.text s, rest)

/-- The value after the mark of an optional value, between parentheses, where a comma may follow
it. Where marks may be left out, the parentheses may be left out too. -/
def present? (extensions : Extensions) : Nat → Nat → Reader Term
  | 0, _, _ => none
  | _, 0, _ => none
  | fuel + 1, room + 1, cs =>
    match skip? cs with
    | some ('(' :: rest) =>
      (skip? rest).bind fun rest =>
        (term? extensions fuel room rest).bind fun (t, rest) =>
          (comma? rest).bind fun (_, rest) =>
            match rest with
            | ')' :: rest => some (.present t, rest)
            | _ => none
    | some rest =>
      if extensions.implicitSome then
        (term? extensions fuel room rest).map fun (t, rest) => (.present t, rest)
      else none
    | none => none

/-- What stands between the parentheses of a structure: named fields or values in order. -/
def body? (extensions : Extensions) : Nat → Nat → Option String → Reader Term
  | 0, _, _, _ => none
  | _, 0, _, _ => none
  | fuel + 1, room + 1, name, cs =>
    match skip? cs with
    | some rest =>
      if startsField rest then
        (fields? extensions fuel room [] rest).map fun (fields, rest) =>
          (.struct name fields, rest)
      else if startsValues rest then
        (items? extensions fuel room ')' [] rest).map fun (items, rest) =>
          (.tuple name items, rest)
      else none
    | none => none

/-- Values with commas between them, up to a closing sign; a comma may follow the last one. -/
def items? (extensions : Extensions) : Nat → Nat → Char → List Term → Reader (List Term)
  | 0, _, _, _, _ => none
  | fuel + 1, room, close, done, cs =>
    match skip? cs with
    | some (c :: rest) =>
      if c = close then some (done.reverse, rest)
      else
        match room with
        | 0 => none
        | inner + 1 =>
          (term? extensions fuel inner (c :: rest)).bind fun (t, rest) =>
            (comma? rest).bind fun (more, rest) =>
              if more then items? extensions fuel room close (t :: done) rest
              else
                match rest with
                | d :: rest => if d = close then some ((t :: done).reverse, rest) else none
                | [] => none
    | _ => none

/-- Named values, up to a closing parenthesis. -/
def fields? (extensions : Extensions) : Nat → Nat → List (String × Term) →
    Reader (List (String × Term))
  | 0, _, _, _ => none
  | fuel + 1, room, done, cs =>
    match skip? cs with
    | some (')' :: rest) => some (done.reverse, rest)
    | some cs =>
      match room with
      | 0 => none
      | inner + 1 =>
        (name? cs).bind fun (name, rest) =>
          match skip? rest with
          | some (':' :: rest) =>
            (skip? rest).bind fun rest =>
              (term? extensions fuel inner rest).bind fun (t, rest) =>
                (comma? rest).bind fun (more, rest) =>
                  if more then fields? extensions fuel room ((name, t) :: done) rest
                  else
                    match rest with
                    | ')' :: rest => some (((name, t) :: done).reverse, rest)
                    | _ => none
          | _ => none
    | none => none

/-- The entries of a map, up to a closing brace. -/
def entries? (extensions : Extensions) : Nat → Nat → List (Term × Term) →
    Reader (List (Term × Term))
  | 0, _, _, _ => none
  | fuel + 1, room, done, cs =>
    match skip? cs with
    | some ('\x7d' :: rest) => some (done.reverse, rest)
    | some cs =>
      match room with
      | 0 => none
      | inner + 1 =>
        (term? extensions fuel inner cs).bind fun (key, rest) =>
          match skip? rest with
          | some (':' :: rest) =>
            (skip? rest).bind fun rest =>
              (term? extensions fuel inner rest).bind fun (t, rest) =>
                (comma? rest).bind fun (more, rest) =>
                  if more then entries? extensions fuel room ((key, t) :: done) rest
                  else
                    match rest with
                    | '\x7d' :: rest => some (((key, t) :: done).reverse, rest)
                    | _ => none
          | _ => none
    | none => none

end

/-! ## Extensions -/

/-- The known extensions. -/
def extensionNames : List String :=
  ["unwrap_newtypes", "implicit_some", "unwrap_variant_newtypes"]

/-- A sign with the blanks after it. -/
def sign? (c : Char) (cs : List Char) : Option (List Char) :=
  match cs with
  | d :: rest => if c = d then skip? rest else none
  | [] => none

/-- The names of extensions up to the end of an attribute. `fuel` bounds their number. -/
def extensionList? : Nat → Extensions → Reader Extensions
  | 0, _, _ => none
  | fuel + 1, done, cs =>
    (name? cs).bind fun (name, rest) =>
      if extensionNames.contains name then
        let done := if name = "implicit_some" then { done with implicitSome := true } else done
        (comma? rest).bind fun (more, rest) =>
          let continues := (rest.head?.map isNameChar).getD false
          if more && continues then extensionList? fuel done rest
          else if continues then none
          else some (done, rest)
      else none

/-- The attributes at the front of a text. `fuel` bounds their number. -/
def attributes? : Nat → Extensions → Reader Extensions
  | 0, _, _ => none
  | fuel + 1, done, cs =>
    match cs with
    | '#' :: _ => do
      let rest ← sign? '#' cs
      let rest ← sign? '!' rest
      let rest ← sign? '[' rest
      let rest ← skip? (← (if "enable".toList.isPrefixOf rest then some (rest.drop 6) else none))
      let rest ← sign? '(' rest
      let (done, rest) ← extensionList? rest.length done rest
      let rest ← sign? ')' rest
      let rest ← sign? ']' rest
      attributes? fuel done rest
    | _ => some (done, cs)

/-- The levels that what is nested in a text may take up. -/
def levels : Nat := 128

/-- Reads a whole text: its extensions and its value. -/
def parse? (s : String) : Option (Extensions × Term) := do
  let cs ← skip? s.toList
  let (extensions, cs) ← attributes? (cs.length + 1) {} cs
  let (t, rest) ← term? extensions (2 * cs.length + 2) levels cs
  match ← skip? rest with
  | [] => some (extensions, t)
  | _ => none

end WindowSystem.Ron
