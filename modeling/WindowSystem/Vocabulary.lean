/-
# Closed vocabularies

A finite type whose values are written as names: in records under `name`, in log text and in
descriptions under `label`. Reading a name is a search of the list of all values.
-/

namespace WindowSystem

/-- A finite type with a name in records and a label in descriptions for every value. -/
class Vocabulary (α : Type) where
  /-- Every value, in the order in which the vocabulary is usually listed. -/
  all : List α
  /-- The name a record uses. -/
  name : α → String
  /-- The label a description uses. -/
  label : α → String

namespace Vocabulary

variable {α : Type} [Vocabulary α]

/-- The value with a given name. Names are matched exactly. -/
def ofName? (s : String) : Option α :=
  (all : List α).find? fun a => name a == s

/-- The value with a given label. -/
def ofLabel? (s : String) : Option α :=
  (all : List α).find? fun a => label a == s

/-- What is read under a name bears that name. -/
theorem name_of_ofName? {s : String} {a : α} (h : ofName? s = some a) : name a = s := by
  simpa using List.find?_some h

/-- What is read under a label bears that label. -/
theorem label_of_ofLabel? {s : String} {a : α} (h : ofLabel? s = some a) : label a = s := by
  simpa using List.find?_some h

end Vocabulary

end WindowSystem
