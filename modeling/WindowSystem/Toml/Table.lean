/-
# TOML tables

The tables of a document while its statements are carried out. A table remembers how it came to
be, because a table that a header or a dotted key has merely passed through may be defined
later, and one that has been defined may not be defined again.
-/
import WindowSystem.Datum.Basic

namespace WindowSystem.Toml

/-- How a table came to be: by a header of its own, as a step on the way of another header, or
as a step on the way of a dotted key. -/
inductive Origin where
  | header | passedByHeader | passedByKey
  deriving DecidableEq, Repr

/-- What a key of a table holds: a value, a table, or a list of tables, the last of which can
still grow (the others come first, in reverse order). -/
inductive Node where
  | value (d : Datum)
  | table (origin : Origin) (entries : List (String × Node))
  | tables (earlier : List (List (String × Node))) (last : List (String × Node))
  deriving Inhabited

/-- The entries of a table. -/
abbrev Entries := List (String × Node)

namespace Entries

/-- The node of a key. -/
def get? (entries : Entries) (key : String) : Option Node :=
  (entries.find? fun e => e.1 == key).map Prod.snd

/-- Sets the node of a key, in its place if it has one. -/
def put (entries : Entries) (key : String) (node : Node) : Entries :=
  if entries.any (fun e => e.1 == key) then
    entries.map fun e => if e.1 == key then (key, node) else e
  else entries ++ [(key, node)]

end Entries

/-- Changes the table that a header path leads to. Missing tables on the way are made; a list of
tables leads to its last one. -/
def alongHeader (f : Entries → Option Entries) : List String → Entries → Option Entries
  | [], entries => f entries
  | key :: path, entries =>
    match entries.get? key with
    | none =>
      (alongHeader f path []).map fun inner => entries.put key (.table .passedByHeader inner)
    | some (.table origin inner) =>
      (alongHeader f path inner).map fun inner => entries.put key (.table origin inner)
    | some (.tables earlier last) =>
      (alongHeader f path last).map fun last => entries.put key (.tables earlier last)
    | some (.value _) => none

/-- Opens the table of a header. It must not have been opened before, nor be a step of a dotted
key. -/
def openTable (key : String) (entries : Entries) : Option Entries :=
  match entries.get? key with
  | none => some (entries.put key (.table .header []))
  | some (.table .passedByHeader inner) => some (entries.put key (.table .header inner))
  | some _ => none

/-- Appends an empty table to a list of tables, which is made if there is none. -/
def appendTable (key : String) (entries : Entries) : Option Entries :=
  match entries.get? key with
  | none => some (entries.put key (.tables [] []))
  | some (.tables earlier last) => some (entries.put key (.tables (last :: earlier) []))
  | some _ => none

/-- Gives a key of a table a value. A dotted key makes the tables on its way; the one that
receives the value must have been made by a dotted key too, while those before it may also be
steps of headers or the last table of a list. -/
def assign (value : Datum) : List String → Entries → Option Entries
  | [], _ => none
  | [key], entries =>
    match entries.get? key with
    | none => some (entries.put key (.value value))
    | some _ => none
  | key :: path, entries =>
    match entries.get? key with
    | none => (assign value path []).map fun inner => entries.put key (.table .passedByKey inner)
    | some (.table .passedByKey inner) =>
      (assign value path inner).map fun inner => entries.put key (.table .passedByKey inner)
    | some (.table .passedByHeader inner) =>
      if path.length < 2 then none
      else (assign value path inner).map fun inner => entries.put key (.table .passedByHeader inner)
    | some (.tables earlier last) =>
      if path.length < 2 then none
      else (assign value path last).map fun last => entries.put key (.tables earlier last)
    | some _ => none

mutual

/-- The value that a node stands for. -/
def Node.toDatum : Node → Datum
  | .value d => d
  | .table _ entries => .record (entriesToFields entries)
  | .tables earlier last =>
    .list (tablesToItems earlier ++ [.record (entriesToFields last)])

/-- The fields of a table. -/
def entriesToFields : List (String × Node) → List (String × Datum)
  | [] => []
  | (key, node) :: rest => (key, node.toDatum) :: entriesToFields rest

/-- The earlier tables of a list, in the order in which they were appended. -/
def tablesToItems : List (List (String × Node)) → List Datum
  | [] => []
  | entries :: rest => tablesToItems rest ++ [.record (entriesToFields entries)]

end

end WindowSystem.Toml
