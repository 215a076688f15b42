/-
# TOML documents: reading

A document is a sequence of statements: headers that choose a table and keys that are given
values. `statements?` reads them, `Document.run` carries them out on an empty table.
-/
import WindowSystem.Toml.Lexical
import WindowSystem.Toml.Table

namespace WindowSystem.Toml

/-! ## Values -/

/-- The key under which the text of a date stands, so that a date reads as a record. -/
def dateKey : String := "date"

/-- A date, time or both as a value. -/
def dateValue? : Reader Datum := fun cs =>
  (dateTime? cs).map fun rest =>
    (.record [(dateKey, .text (String.ofList (cs.take (cs.length - rest.length))))], rest)

/-- A value that starts with a sign or a digit. -/
def numeric? : Reader Datum := fun cs =>
  match dateValue? cs with
  | some done => some done
  | none =>
    match specialFloat? cs with
    | some (x, rest) => some (.float x, rest)
    | none =>
      match float? cs with
      | some (x, rest) => some (.float x, rest)
      | none => (integer? cs).map fun (n, rest) => (.int n, rest)

/-- Gives keys values in an empty table, as inside the braces of an inline table. -/
def inlineTable? (pairs : List (List String × Datum)) : Option Datum :=
  (pairs.foldlM (fun entries (path, d) => assign d path entries) []).map fun entries =>
    .record (entriesToFields entries)

mutual

/-- A value that holds at most `depth` lists and inline tables in each other. `fuel` bounds the
lengths of lists and inline tables too. -/
def value? : Nat → Nat → Reader Datum
  | 0, _, _ => none
  | fuel + 1, depth, cs =>
    match cs with
    | '"' :: _ | '\'' :: _ => (string? cs).map fun (s, rest) => (.text s, rest)
    | 't' :: 'r' :: 'u' :: 'e' :: rest => some (.bool true, rest)
    | 'f' :: 'a' :: 'l' :: 's' :: 'e' :: rest => some (.bool false, rest)
    | '[' :: rest =>
      match depth with
      | 0 => none
      | depth + 1 => (items? fuel depth [] rest).map fun (items, rest) => (.list items, rest)
    | '\x7b' :: rest =>
      match depth with
      | 0 => none
      | depth + 1 =>
        match skipBlanks rest with
        | '\x7d' :: rest => some (.record [], rest)
        | rest =>
          (pairs? fuel depth [] rest).bind fun (pairs, rest) =>
            (inlineTable? pairs).map fun d => (d, rest)
    | _ => numeric? cs

/-- The items of a list up to its closing bracket; a comma may follow the last one. -/
def items? : Nat → Nat → List Datum → Reader (List Datum)
  | 0, _, _, _ => none
  | fuel + 1, depth, done, cs =>
    match skipToItem cs with
    | ']' :: rest => some (done.reverse, rest)
    | cs =>
      (value? fuel depth cs).bind fun (d, rest) =>
        match skipToItem rest with
        | ',' :: rest => items? fuel depth (d :: done) rest
        | ']' :: rest => some ((d :: done).reverse, rest)
        | _ => none

/-- The pairs of an inline table up to its closing brace; no comma follows the last one. -/
def pairs? : Nat → Nat → List (List String × Datum) → Reader (List (List String × Datum))
  | 0, _, _, _ => none
  | fuel + 1, depth, done, cs =>
    (dottedKey? (skipBlanks cs)).bind fun (path, rest) =>
      match skipBlanks rest with
      | '=' :: rest =>
        (value? fuel depth (skipBlanks rest)).bind fun (d, rest) =>
          match skipBlanks rest with
          | ',' :: rest => pairs? fuel depth ((path, d) :: done) rest
          | '\x7d' :: rest => some (((path, d) :: done).reverse, rest)
          | _ => none
      | _ => none

end

/-! ## Statements -/

/-- A statement of a document. -/
inductive Statement where
  | header (path : List String)
  | listHeader (path : List String)
  | assignment (path : List String) (value : Datum)

/-- A statement at the front of a line. -/
def statement? : Reader Statement := fun cs =>
  match cs with
  | '[' :: '[' :: rest => do
    let (path, rest) ← dottedKey? (skipBlanks rest)
    match skipBlanks rest with
    | ']' :: ']' :: rest => some (.listHeader path, rest)
    | _ => none
  | '[' :: rest => do
    let (path, rest) ← dottedKey? (skipBlanks rest)
    match skipBlanks rest with
    | ']' :: rest => some (.header path, rest)
    | _ => none
  | _ => do
    let (path, rest) ← dottedKey? cs
    match skipBlanks rest with
    | '=' :: rest =>
      let rest := skipBlanks rest
      let (d, rest) ← value? (rest.length + 1) depthLimit rest
      some (.assignment path d, rest)
    | _ => none

/-- The statements of a document, one or none on a line. `fuel` bounds the number of lines. -/
def statements? : Nat → List Char → Option (List Statement)
  | 0, _ => none
  | fuel + 1, cs =>
    let line := skipBlanks cs
    match line with
    | [] => some []
    | _ =>
      match lineEnd? line with
      | some rest => statements? fuel rest
      | none => do
        let (s, rest) ← statement? line
        let rest ← lineEnd? rest
        (statements? fuel rest).map (s :: ·)

/-! ## Carrying statements out -/

/-- The tables of a document and the header that is in force. -/
structure Document where
  root : Entries := []
  current : List String := []
  deriving Inhabited

/-- Carries out one statement. -/
def Document.step (doc : Document) : Statement → Option Document
  | .header path =>
    match path.getLast? with
    | none => none
    | some key =>
      (alongHeader (openTable key) path.dropLast doc.root).map fun root => ⟨root, path⟩
  | .listHeader path =>
    match path.getLast? with
    | none => none
    | some key =>
      (alongHeader (appendTable key) path.dropLast doc.root).map fun root => ⟨root, path⟩
  | .assignment path d =>
    (alongHeader (assign d path) doc.current doc.root).map fun root => ⟨root, doc.current⟩

/-- Carries out the statements of a document in order. -/
def Document.run (statements : List Statement) : Option Document :=
  statements.foldlM Document.step {}

/-- The fields of the document that a text writes. A byte order mark at its front is skipped. -/
def parse? (text : String) : Option (List (String × Datum)) :=
  let cs :=
    match text.toList with
    | '\ufeff' :: rest => rest
    | cs => cs
  (statements? (cs.length + 1) cs).bind fun statements =>
    (Document.run statements).map fun doc => entriesToFields doc.root

end WindowSystem.Toml
