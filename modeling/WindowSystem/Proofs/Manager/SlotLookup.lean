/-
# Looking up after a change

A sound table whose slots can be numbered finds under an identifier what is listed under the one it
is taken for (`SlotTable.Sound.get?_eq_some_iff_mem`). So putting in, replacing and taking out
change what one identifier finds, beside those that are taken for the same one, and no other.
-/
import WindowSystem.Proofs.Manager.SlotVersions

namespace WindowSystem.SlotTable

variable {α : Type} {t : SlotTable α} {id other : WindowId} {a c : α}

/-- A value that was replaced is found as the new one. -/
theorem get?_set_self (h : t.get? id = some c) (a : α) : (t.set id a).get? id = some a := by
  obtain ⟨place, slot, hplace, hslot, -, -, heq⟩ := set_of_get? h a
  obtain ⟨hlt, -⟩ := List.getElem?_eq_some_iff.mp hslot
  rw [heq]
  exact get?_eq_some_iff.mpr
    ⟨place, ⟨version id, some a⟩, hplace, List.getElem?_set_self hlt, rfl, rfl⟩

namespace Sound

/-- What an identifier finds is what is listed under the identifier that it is taken for. -/
theorem get?_eq_some_iff_mem (ht : t.Sound) (hfit : t.Fits) :
    t.get? id = some a ↔ (meant id, a) ∈ t.toList := by
  constructor
  · intro h
    obtain ⟨place, -, hplace, -⟩ := get?_eq_some_iff.mp h
    rw [← own_eq_meant hplace]
    exact mem_of_get? h
  · intro h
    rw [← get?_meant]
    exact ht.get?_of_mem hfit h

/-- What is put in is found under the identifier it got. -/
theorem get?_insert (ht : t.Sound) (hfit : (t.insert a).2.Fits) :
    (t.insert a).2.get? other =
      if meant other = (t.insert a).1 then some a else t.get? other := by
  have hbefore : t.Fits := Nat.lt_of_le_of_lt (t.length_le_insert a) hfit
  refine Option.ext fun b => ?_
  rw [(ht.insert a).get?_eq_some_iff_mem hfit, ht.mem_insert]
  split
  case isTrue hnew =>
    have hold : (meant other, b) ∉ t.toList := by
      intro hmem
      rw [hnew] at hmem
      exact ht.insert_not_mem hfit (mem_ids.mpr ⟨b, hmem⟩)
    simp [hnew ▸ hold, hnew, eq_comm]
  case isFalse hold => simp [hold, ht.get?_eq_some_iff_mem hbefore]

/-- A replaced value is found under the same identifiers. -/
theorem get?_set (ht : t.Sound) (hfit : t.Fits) (h : t.get? id = some c) :
    (t.set id a).get? other =
      if meant other = meant id then some a else t.get? other := by
  have hafter : (t.set id a).Fits := by
    rw [Fits, length_set]
    exact hfit
  obtain ⟨place, -, hplace, -⟩ := get?_eq_some_iff.mp h
  refine Option.ext fun b => ?_
  rw [(ht.set id a).get?_eq_some_iff_mem hafter, hfit.mem_set h, own_eq_meant hplace]
  split
  case isTrue hsame => simp [hsame, eq_comm]
  case isFalse hne => simp [hne, ht.get?_eq_some_iff_mem hfit]

/-- What was taken out is not found, whether it was there or not. -/
theorem get?_remove (ht : t.Sound) (hfit : t.Fits) :
    (t.remove id).get? other = if meant other = meant id then none else t.get? other := by
  have hafter : (t.remove id).Fits := by
    rw [Fits, length_remove]
    exact hfit
  cases hget : t.get? id with
  | none =>
    rw [remove_of_get?_eq_none hget]
    split
    case isTrue hsame => rw [← get?_meant, hsame, get?_meant, hget]
    case isFalse => rfl
  | some c =>
    obtain ⟨place, -, hplace, -⟩ := get?_eq_some_iff.mp hget
    refine Option.ext fun b => ?_
    rw [(ht.remove id).get?_eq_some_iff_mem hafter, hfit.mem_remove hget, own_eq_meant hplace]
    split
    case isTrue hsame => simp [hsame]
    case isFalse hne => simp [hne, ht.get?_eq_some_iff_mem hfit]

end Sound

end WindowSystem.SlotTable
