/-
# Versions of slots

The version of a slot goes up whenever it is filled or emptied, and starts again from zero when it
has gone through all. A table into which not too much was put is far from that
(`SlotTable.Within`): its versions only go up, so an identifier that was taken out finds nothing
ever after (`SlotTable.IsSpent`).

An identifier that comes from outside is taken for the one with its lowest version bit set
(`SlotTable.meant`), and finds what that one finds.
-/
import WindowSystem.Proofs.Manager.SlotTable

namespace WindowSystem.SlotTable

variable {α : Type} {t t' : SlotTable α}

/-! ## The version at a place -/

/-- The versions of the slots, in order. -/
def versions (t : SlotTable α) : List UInt32 := t.slots.map Slot.version

theorem length_versions (t : SlotTable α) : t.versions.length = t.slots.length :=
  List.length_map _

theorem versionAt_eq (t : SlotTable α) (place : Nat) :
    t.versionAt place = t.versions[place]?.getD 0 := by
  rw [versionAt, versions, List.getElem?_map]

theorem versionAt_of_getElem? {place : Nat} {slot : Slot α} (h : t.slots[place]? = some slot) :
    t.versionAt place = slot.version := by
  rw [versionAt, h, Option.map_some, Option.getD_some]

/-- A new slot comes after the others. -/
theorem versionAt_append (t : SlotTable α) (slot : Slot α) (free : List Nat) (place : Nat) :
    (⟨t.slots ++ [slot], free⟩ : SlotTable α).versionAt place =
      if place = t.slots.length then slot.version else t.versionAt place := by
  rcases Nat.lt_trichotomy place t.slots.length with hlt | rfl | hgt
  · rw [versionAt, List.getElem?_append_left hlt, if_neg (Nat.ne_of_lt hlt), versionAt]
  · rw [if_pos rfl]
    exact versionAt_of_getElem? List.getElem?_concat_length
  · have hout : (t.slots ++ [slot]).length ≤ place := by
      rw [List.length_append, List.length_singleton]
      exact hgt
    rw [versionAt, versionAt, List.getElem?_eq_none hout,
      List.getElem?_eq_none (Nat.le_of_lt hgt), if_neg (Nat.ne_of_gt hgt)]

theorem versionAt_setSlot {place : Nat} (hlt : place < t.slots.length) (slot : Slot α)
    (free : List Nat) (q : Nat) :
    (⟨t.slots.set place slot, free⟩ : SlotTable α).versionAt q =
      if q = place then slot.version else t.versionAt q := by
  split
  case isTrue hq =>
    exact versionAt_of_getElem? (by rw [hq]; exact List.getElem?_set_self hlt)
  case isFalse hq =>
    rw [versionAt, versionAt, List.getElem?_set_ne (Ne.symm hq)]

/-- Replacing a value does not change the version of its slot. -/
@[simp]
theorem versions_set (t : SlotTable α) (id : WindowId) (a : α) :
    (t.set id a).versions = t.versions := by
  cases hget : t.get? id with
  | none => rw [set_of_get?_eq_none hget]
  | some b =>
    obtain ⟨place, slot, -, hslot, hversion, -, heq⟩ := set_of_get? hget a
    obtain ⟨hlt, hgetElem⟩ := List.getElem?_eq_some_iff.mp hslot
    rw [heq, versions, versions, List.map_set, ← hversion, ← hgetElem]
    conv => rhs; rw [← List.set_getElem_self hlt, List.map_set]

/-- The next version, unless that is zero again. -/
theorem toNat_add_one {v : UInt32} (h : v.toNat + 1 < UInt32.size) :
    (v + 1).toNat = v.toNat + 1 := by
  rw [UInt32.toNat_add, UInt32.toNat_one]
  exact Nat.mod_eq_of_lt h

/-! ## Identifiers that find nothing again -/

/-- No version of a slot went down. -/
def Ages (t t' : SlotTable α) : Prop :=
  ∀ place, (t.versionAt place).toNat ≤ (t'.versionAt place).toNat

theorem ages_of_versions_eq (h : t'.versions = t.versions) : t.Ages t' := by
  intro place
  have hversion : t'.versionAt place = t.versionAt place := by
    rw [versionAt_eq, h, ← versionAt_eq]
  exact Nat.le_of_eq (congrArg UInt32.toNat hversion.symm)

/-- The slot that an identifier names is past the version that the identifier names. -/
def IsSpent (id : WindowId) (t : SlotTable α) : Prop :=
  ∃ place, place? id = some place ∧ (version id).toNat < (t.versionAt place).toNat

theorem IsSpent.get? {id : WindowId} (h : IsSpent id t) : t.get? id = none := by
  obtain ⟨place, hplace, hlt⟩ := h
  by_contra hne
  obtain ⟨a, ha⟩ := Option.ne_none_iff_exists'.mp hne
  obtain ⟨place', slot, hplace', hslot, hversion, -⟩ := get?_eq_some_iff.mp ha
  rw [hplace] at hplace'
  rw [Option.some.inj hplace', versionAt_of_getElem? hslot, hversion] at hlt
  exact Nat.lt_irrefl _ hlt

/-- What finds nothing again finds nothing later. -/
theorem IsSpent.ages {id : WindowId} (h : IsSpent id t) (hages : t.Ages t') : IsSpent id t' := by
  obtain ⟨place, hplace, hlt⟩ := h
  exact ⟨place, hplace, Nat.lt_of_lt_of_le hlt (hages place)⟩

/-! ## Identifiers from outside -/

/-- The identifier that one is taken for: its lowest version bit counts as set. -/
def meant (id : WindowId) : WindowId := ⟨id.number ||| 4294967296⟩

theorem toNat_meant (id : WindowId) :
    (meant id).number.toNat =
      (id.number.toNat / UInt32.size ||| 1) * UInt32.size + id.number.toNat % UInt32.size := by
  have hlow : id.number.toNat % 2 ^ 32 < 2 ^ 32 := Nat.mod_lt _ (by decide)
  have hhigh : 2 ^ 32 * (id.number.toNat / 2 ^ 32 ||| 1) =
      2 ^ 32 * (id.number.toNat / 2 ^ 32) ||| 2 ^ 32 := by
    have h := Nat.shiftLeft_or_distrib (a := id.number.toNat / 2 ^ 32) (b := 1) (i := 32)
    simpa [Nat.shiftLeft_eq, Nat.mul_comm] using h
  show (id.number ||| 4294967296).toNat = (id.number.toNat / 2 ^ 32 ||| 1) * 2 ^ 32 + _ % 2 ^ 32
  calc (id.number ||| 4294967296).toNat
      = (2 ^ 32 * (id.number.toNat / 2 ^ 32) + id.number.toNat % 2 ^ 32) ||| 2 ^ 32 := by
        rw [UInt64.toNat_or, Nat.div_add_mod]
        rfl
    _ = (2 ^ 32 * (id.number.toNat / 2 ^ 32) ||| 2 ^ 32) ||| id.number.toNat % 2 ^ 32 := by
        rw [Nat.two_pow_add_eq_or_of_lt hlow, Nat.or_assoc, Nat.or_comm (_ % _), ← Nat.or_assoc]
    _ = (id.number.toNat / 2 ^ 32 ||| 1) * 2 ^ 32 + id.number.toNat % 2 ^ 32 := by
        rw [← hhigh, ← Nat.two_pow_add_eq_or_of_lt hlow, Nat.mul_comm]

theorem place?_meant (id : WindowId) : place? (meant id) = place? id := by
  rw [place?, place?, toNat_meant, Nat.mul_add_mod_self_right, Nat.mod_mod]

theorem version_meant (id : WindowId) : version (meant id) = version id := by
  have hlow : id.number.toNat % UInt32.size < UInt32.size := Nat.mod_lt _ (by decide)
  have hhigh : (meant id).number.toNat / UInt32.size = id.number.toNat / UInt32.size ||| 1 := by
    rw [toNat_meant, Nat.mul_comm, Nat.mul_add_div (by decide), Nat.div_eq_of_lt hlow, Nat.add_zero]
  rw [version, version, hhigh, UInt32.ofNat_or, UInt32.or_assoc]
  rfl

theorem get?_meant (id : WindowId) : t.get? (meant id) = t.get? id := by
  rw [get?, get?, place?_meant, version_meant]

/-- An identifier that names a place is taken for the one that the slot there was given. -/
theorem own_eq_meant {id : WindowId} {place : Nat} (h : place? id = some place) :
    own id = meant id := by
  have hplace : id.number.toNat % UInt32.size = place + 1 := by
    rw [place?] at h
    split at h
    · cases h
    · rename_i n hn
      rw [hn, ← Option.some.inj h]
  have hlow : id.number.toNat % UInt32.size < UInt32.size := Nat.mod_lt _ (by decide)
  have hversion : (version id).toNat = id.number.toNat / UInt32.size ||| 1 := by
    have hn := id.number.toNat_lt
    have hhigh : id.number.toNat / UInt32.size < 2 ^ 32 := by
      simp only [UInt32.size]
      omega
    rw [version, UInt32.toNat_or, UInt32.toNat_ofNat', UInt32.toNat_one, Nat.mod_eq_of_lt hhigh]
  have hnumber : (own id).number = (meant id).number := by
    refine UInt64.toNat_inj.mp ?_
    rw [own, h, Option.getD_some, toNat_key (by omega), hversion, toNat_meant, hplace]
  calc own id = ⟨(own id).number⟩ := rfl
    _ = meant id := by rw [hnumber]

/-- An identifier is spent together with the one it is taken for. -/
theorem isSpent_meant {id : WindowId} : IsSpent (meant id) t ↔ IsSpent id t := by
  rw [IsSpent, IsSpent, place?_meant, version_meant]

namespace Sound

/-- An identifier finds something exactly if the one it is taken for is in use. -/
theorem contains_iff (ht : t.Sound) (hfit : t.Fits) {id : WindowId} :
    t.contains id = true ↔ meant id ∈ t.ids := by
  constructor
  · intro h
    obtain ⟨a, ha⟩ := Option.isSome_iff_exists.mp h
    obtain ⟨place, -, hplace, -⟩ := get?_eq_some_iff.mp ha
    rw [← own_eq_meant hplace]
    exact mem_ids.mpr ⟨a, mem_of_get? ha⟩
  · intro h
    obtain ⟨a, ha⟩ := mem_ids.mp h
    have hget := ht.get?_of_mem hfit ha
    rw [get?_meant] at hget
    exact contains_of_get? hget

/-- An identifier in use is taken for itself. -/
theorem meant_of_mem (ht : t.Sound) (hfit : t.Fits) {id : WindowId} (hid : id ∈ t.ids) :
    meant id = id := by
  obtain ⟨a, ha⟩ := mem_ids.mp hid
  obtain ⟨place, -, hplace, -⟩ := get?_eq_some_iff.mp (ht.get?_of_mem hfit ha)
  rw [← own_eq_meant hplace, ht.own_of_mem hfit hid]

/-- Taking out ends the identifier that one is taken for, whether it is in use or not. -/
theorem mem_ids_remove (ht : t.Sound) (hfit : t.Fits) {id other : WindowId} :
    other ∈ (t.remove id).ids ↔ other ≠ meant id ∧ other ∈ t.ids := by
  cases hget : t.get? id with
  | none =>
    rw [remove_of_get?_eq_none hget]
    refine ⟨fun h => ⟨?_, h⟩, fun h => h.2⟩
    rintro rfl
    exact not_contains_of_get? hget ((ht.contains_iff hfit).mpr h)
  | some a =>
    obtain ⟨place, -, hplace, -⟩ := get?_eq_some_iff.mp hget
    rw [hfit.mem_ids_remove hget, own_eq_meant hplace]

end Sound

/-! ## Tables into which little was put -/

/-- No more happened to the slots of a table than what putting in some number of values, and taking
them out, can do. -/
structure Within (puts : Nat) (t : SlotTable α) : Prop where
  length_le : t.slots.length ≤ puts
  version_le : ∀ place, (t.versionAt place).toNat ≤ 2 * puts

namespace Within

variable {puts : Nat}

theorem empty : Within 0 ({} : SlotTable α) where
  length_le := Nat.le_refl 0
  version_le _ := Nat.le_refl 0

theorem congr (h : Within puts t) (hversions : t'.versions = t.versions) : Within puts t' where
  length_le := by
    rw [← length_versions, hversions, length_versions]
    exact h.length_le
  version_le place := by
    rw [versionAt_eq, hversions, ← versionAt_eq]
    exact h.version_le place

theorem fits (h : Within puts t) (hputs : puts < UInt32.size) : t.Fits :=
  Nat.lt_of_le_of_lt h.length_le hputs

/-- Putting one more value in. -/
theorem insert (h : Within puts t) (ht : t.Sound) (hputs : 2 * (puts + 1) < UInt32.size) (a : α) :
    Within (puts + 1) (t.insert a).2 ∧ t.Ages (t.insert a).2 := by
  have hlength := h.length_le
  have hversion := h.version_le
  rw [SlotTable.insert]
  cases hfree : t.free with
  | nil =>
    refine ⟨⟨?_, fun place => ?_⟩, fun place => ?_⟩
    · simpa using hlength
    · have hplace := hversion place
      rw [versionAt_append]
      split
      · rw [UInt32.toNat_one]
        omega
      · omega
    · rw [versionAt_append]
      split
      case isTrue hplace =>
        rw [versionAt, List.getElem?_eq_none (Nat.le_of_eq hplace.symm)]
        exact Nat.zero_le _
      case isFalse => exact Nat.le_refl _
  | cons place rest =>
    obtain ⟨slot, hslot, -, heven, -⟩ :=
      ht.slot_of_free (by rw [hfree]; exact List.mem_cons_self)
    obtain ⟨hlt, -⟩ := List.getElem?_eq_some_iff.mp hslot
    have hold := hversion place
    have hnext : (t.versionAt place + 1).toNat = (t.versionAt place).toNat + 1 :=
      toNat_add_one (by omega)
    refine ⟨⟨?_, fun q => ?_⟩, fun q => ?_⟩
    · simpa using Nat.le_succ_of_le hlength
    · have hq := hversion q
      simp only [versionAt_setSlot hlt]
      split
      · omega
      · omega
    · simp only [versionAt_setSlot hlt]
      split
      case isTrue hq =>
        rw [hq, hnext]
        exact Nat.le_succ _
      case isFalse => exact Nat.le_refl _

/-- Taking a value out; its identifier finds nothing again. -/
theorem remove (h : Within puts t) (hputs : 2 * puts < UInt32.size) {id : WindowId} {c : α}
    (hget : t.get? id = some c) :
    Within puts (t.remove id) ∧ t.Ages (t.remove id) ∧ IsSpent id (t.remove id) := by
  obtain ⟨place, slot, hplace, hslot, hversion, -, heq⟩ := remove_of_get? hget
  obtain ⟨hlt, -⟩ := List.getElem?_eq_some_iff.mp hslot
  have hat : t.versionAt place = version id := (versionAt_of_getElem? hslot).trans hversion
  -- an odd version is less than the even bound
  have hodd := odd_version id
  have hold := h.version_le place
  rw [hat] at hold
  have hnext : (version id + 1).toNat = (version id).toNat + 1 := toNat_add_one (by omega)
  rw [heq]
  refine ⟨⟨?_, fun q => ?_⟩, fun q => ?_, place, hplace, ?_⟩
  · simpa using h.length_le
  · have hq := h.version_le q
    rw [versionAt_setSlot hlt]
    split
    · simp only [hnext]
      omega
    · exact hq
  · rw [versionAt_setSlot hlt]
    split
    case isTrue hq =>
      rw [hq, hat, hnext]
      exact Nat.le_succ _
    case isFalse => exact Nat.le_refl _
  · rw [versionAt_setSlot hlt, if_pos rfl, hnext]
    exact Nat.lt_succ_self _

end Within

end WindowSystem.SlotTable
