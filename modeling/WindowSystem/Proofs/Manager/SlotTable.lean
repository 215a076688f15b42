/-
# Slot tables hold what was put into them

A slot table is sound (`SlotTable.Sound`) when its free slots are the empty ones and a slot is
filled exactly at odd versions. While the numbers of its slots fit into half an identifier, a sound
table holds its values under different identifiers, and looking one of them up finds the value
listed under it. Putting in, replacing and taking out keep a table sound and change the list as
they should.
-/
import Mathlib.Data.List.Nodup
import Mathlib.Data.List.Perm.Basic
import WindowSystem.Manager.SlotTable

namespace WindowSystem

namespace SlotTable

variable {α : Type} {t : SlotTable α}

/-! ## Places and versions in identifiers -/

/-- The number of an identifier whose place fits. -/
theorem toNat_key {place : Nat} (h : place + 1 < UInt32.size) (v : UInt32) :
    (key place v).number.toNat = v.toNat * UInt32.size + (place + 1) := by
  have hv := v.toNat_lt
  simp only [UInt32.size] at h
  simp only [key, UInt64.toNat_ofNat', UInt32.size]
  omega

theorem place?_key {place : Nat} (h : place + 1 < UInt32.size) (v : UInt32) :
    place? (key place v) = some place := by
  have hmod : (v.toNat * UInt32.size + (place + 1)) % UInt32.size = place + 1 := by
    rw [Nat.add_comm, Nat.add_mul_mod_self_right, Nat.mod_eq_of_lt h]
  rw [place?, toNat_key h, hmod]

theorem version_key {place : Nat} (h : place + 1 < UInt32.size) (v : UInt32) :
    version (key place v) = v ||| 1 := by
  have hdiv : (v.toNat * UInt32.size + (place + 1)) / UInt32.size = v.toNat := by
    rw [Nat.mul_comm, Nat.mul_add_div (by decide), Nat.div_eq_of_lt h, Nat.add_zero]
  rw [version, toNat_key h, hdiv, UInt32.ofNat_toNat]

/-- Identifiers tell places apart. -/
theorem place_of_key_eq {p q : Nat} (hp : p + 1 < UInt32.size) (hq : q + 1 < UInt32.size)
    {v w : UInt32} (h : key p v = key q w) : p = q := by
  have hplace := congrArg place? h
  rw [place?_key hp, place?_key hq] at hplace
  exact Option.some.inj hplace

/-- The version that an identifier names is odd. -/
theorem odd_version (id : WindowId) : (version id).toNat % 2 = 1 := by
  rw [version, UInt32.toNat_or, Nat.mod_two_eq_one_iff_testBit_zero, Nat.testBit_or]
  simp

/-- Setting the lowest bit of an odd version changes nothing. -/
theorem or_one_of_odd {v : UInt32} (hv : v.toNat % 2 = 1) : v ||| 1 = v := by
  refine UInt32.toNat_inj.mp (Nat.eq_of_testBit_eq fun i => ?_)
  rw [UInt32.toNat_or, Nat.testBit_or, UInt32.toNat_one]
  cases i with
  | zero => simp [Nat.mod_two_eq_one_iff_testBit_zero.mp hv]
  | succ i => simp [Nat.testBit_succ]

/-- Filling or emptying a slot changes the parity of its version, also where the version starts
again from zero. -/
theorem odd_add_one (v : UInt32) : (v + 1).toNat % 2 = 1 ↔ v.toNat % 2 = 0 := by
  have hv := v.toNat_lt
  rw [UInt32.toNat_add, UInt32.toNat_one]
  omega

/-- The identifier that the slot found by an identifier was given. It is the identifier itself if
that is in use; but its version may be named in two ways. -/
def own (id : WindowId) : WindowId := key ((place? id).getD 0) (version id)

/-! ## Lists and look-ups, slot by slot -/

/-- The identifiers that are in use, in the order of their slots. -/
def ids (t : SlotTable α) : List WindowId := t.toList.map Prod.fst

theorem mem_toList {id : WindowId} {a : α} :
    (id, a) ∈ t.toList ↔ ∃ place slot, t.slots[place]? = some slot ∧ slot.content = some a ∧
      id = key place slot.version := by
  simp only [toList, List.mem_filterMap, Prod.exists, List.mem_zipIdx_iff_getElem?,
    Option.map_eq_some_iff, Prod.mk.injEq]
  constructor
  · rintro ⟨slot, place, hslot, b, hb, hid, rfl⟩
    exact ⟨place, slot, hslot, hb, hid.symm⟩
  · rintro ⟨place, slot, hslot, ha, hid⟩
    exact ⟨slot, place, hslot, a, ha, hid.symm, rfl⟩

theorem mem_ids {id : WindowId} : id ∈ t.ids ↔ ∃ a, (id, a) ∈ t.toList := by
  simp [ids]

theorem length_ids : t.ids.length = t.size := List.length_map _

theorem get?_eq_some_iff {id : WindowId} {a : α} :
    t.get? id = some a ↔ ∃ place slot, place? id = some place ∧ t.slots[place]? = some slot ∧
      slot.version = version id ∧ slot.content = some a := by
  simp only [get?, Option.bind_eq_bind, Option.bind_eq_some_iff, Option.ite_none_right_eq_some]
  constructor
  · rintro ⟨place, hplace, slot, hslot, hversion, hcontent⟩
    exact ⟨place, slot, hplace, hslot, hversion, hcontent⟩
  · rintro ⟨place, slot, hplace, hslot, hversion, hcontent⟩
    exact ⟨place, hplace, slot, hslot, hversion, hcontent⟩

/-- Whether the numbers of all slots fit into half an identifier. -/
def Fits (t : SlotTable α) : Prop := t.slots.length < UInt32.size

theorem Fits.place_lt (hfit : t.Fits) {place : Nat} {slot : Slot α}
    (h : t.slots[place]? = some slot) : place + 1 < UInt32.size := by
  obtain ⟨hlt, -⟩ := List.getElem?_eq_some_iff.mp h
  exact Nat.lt_of_le_of_lt hlt hfit

/-- The identifiers of a table that fits are different. -/
theorem Fits.nodup_ids (hfit : t.Fits) : t.ids.Nodup := by
  have hplaces : t.slots.zipIdx.Pairwise fun a b => a.2 ≠ b.2 := by
    have hrange : (t.slots.zipIdx.map Prod.snd).Nodup := by
      rw [List.zipIdx_map_snd]
      exact List.nodup_range'
    rwa [List.Nodup, List.pairwise_map] at hrange
  rw [ids, toList, List.map_filterMap, List.Nodup, List.pairwise_filterMap]
  refine hplaces.imp_of_mem ?_
  rintro ⟨slot, p⟩ ⟨slot', q⟩ hmem hmem' hne id hid id' hid' heq
  simp only [Option.map_map, Option.map_eq_some_iff, Function.comp] at hid hid'
  obtain ⟨a, -, rfl⟩ := hid
  obtain ⟨b, -, rfl⟩ := hid'
  exact hne (place_of_key_eq (hfit.place_lt (List.mem_zipIdx_iff_getElem?.mp hmem))
    (hfit.place_lt (List.mem_zipIdx_iff_getElem?.mp hmem')) heq)

theorem contains_of_get? {id : WindowId} {a : α} (h : t.get? id = some a) :
    t.contains id = true := by
  rw [contains, h, Option.isSome_some]

theorem not_contains_of_get? {id : WindowId} (h : t.get? id = none) : ¬ t.contains id = true := by
  rw [contains, h, Option.isSome_none]
  exact Bool.false_ne_true

/-- What an identifier finds is listed under the identifier that its slot was given. -/
theorem mem_of_get? {id : WindowId} {a : α} (h : t.get? id = some a) : (own id, a) ∈ t.toList := by
  obtain ⟨place, slot, hplace, hslot, hversion, hcontent⟩ := get?_eq_some_iff.mp h
  refine mem_toList.mpr ⟨place, slot, hslot, hcontent, ?_⟩
  rw [own, hplace, hversion, Option.getD_some]

/-! ## Sound tables -/

/-- The free slots of a table are the empty ones, and a slot is filled at odd versions. -/
structure Sound (t : SlotTable α) : Prop where
  filled_iff : ∀ slot ∈ t.slots, slot.content.isSome ↔ slot.version.toNat % 2 = 1
  mem_free_iff : ∀ place, place ∈ t.free ↔ ∃ slot, t.slots[place]? = some slot ∧ slot.content = none
  nodup_free : t.free.Nodup

theorem sound_empty : Sound ({} : SlotTable α) where
  filled_iff slot hslot := absurd hslot List.not_mem_nil
  mem_free_iff place := by simp
  nodup_free := List.nodup_nil

namespace Sound

variable {id : WindowId} {a : α}

/-- The version of a filled slot is odd. -/
theorem odd_of_content (ht : t.Sound) {place : Nat} {slot : Slot α}
    (hslot : t.slots[place]? = some slot) (ha : slot.content = some a) :
    slot.version.toNat % 2 = 1 := by
  rw [← ht.filled_iff slot (List.mem_of_getElem? hslot), ha]
  rfl

/-- Looking an identifier in use up finds the value that is listed under it. -/
theorem get?_of_mem (ht : t.Sound) (hfit : t.Fits) (h : (id, a) ∈ t.toList) :
    t.get? id = some a := by
  obtain ⟨place, slot, hslot, ha, rfl⟩ := mem_toList.mp h
  have hplace := hfit.place_lt hslot
  refine get?_eq_some_iff.mpr ⟨place, slot, place?_key hplace _, hslot, ?_, ha⟩
  rw [version_key hplace, or_one_of_odd (ht.odd_of_content hslot ha)]

/-- An identifier in use is the one that its slot was given. -/
theorem own_of_mem (ht : t.Sound) (hfit : t.Fits) (hid : id ∈ t.ids) : own id = id := by
  obtain ⟨a, ha⟩ := mem_ids.mp hid
  obtain ⟨place, slot, hslot, hcontent, rfl⟩ := mem_toList.mp ha
  have hplace := hfit.place_lt hslot
  rw [own, place?_key hplace, version_key hplace, or_one_of_odd (ht.odd_of_content hslot hcontent),
    Option.getD_some]

end Sound

/-! ## Changing one slot -/

/-- The list of a table in which one slot was replaced. -/
theorem mem_toList_setSlot {place : Nat} (hlt : place < t.slots.length) (slot : Slot α)
    (free : List Nat) {id : WindowId} {b : α} :
    (id, b) ∈ (⟨t.slots.set place slot, free⟩ : SlotTable α).toList ↔
      (slot.content = some b ∧ id = key place slot.version) ∨
        ∃ q old, q ≠ place ∧ t.slots[q]? = some old ∧ old.content = some b ∧
          id = key q old.version := by
  rw [mem_toList]
  constructor
  · rintro ⟨q, found, hfound, hb, hid⟩
    by_cases hq : q = place
    · have hfound' : (t.slots.set place slot)[q]? = some found := hfound
      rw [hq, List.getElem?_set_self hlt] at hfound'
      obtain rfl := Option.some.inj hfound'
      exact Or.inl ⟨hb, hq ▸ hid⟩
    · have hfound' : (t.slots.set place slot)[q]? = some found := hfound
      rw [List.getElem?_set_ne (Ne.symm hq)] at hfound'
      exact Or.inr ⟨q, found, hq, hfound', hb, hid⟩
  · rintro (⟨hb, hid⟩ | ⟨q, old, hq, hold, hb, hid⟩)
    · exact ⟨place, slot, List.getElem?_set_self hlt, hb, hid⟩
    · exact ⟨q, old, (List.getElem?_set_ne (Ne.symm hq)).trans hold, hb, hid⟩

/-- The slots other than one hold what is not listed under the identifier of that one. -/
theorem mem_keptSlots (hfit : t.Fits) {place : Nat} {slot : Slot α}
    (hslot : t.slots[place]? = some slot) {id : WindowId} {b : α} :
    (∃ q old, q ≠ place ∧ t.slots[q]? = some old ∧ old.content = some b ∧
        id = key q old.version) ↔ id ≠ key place slot.version ∧ (id, b) ∈ t.toList := by
  rw [mem_toList]
  constructor
  · rintro ⟨q, old, hq, hold, hb, rfl⟩
    refine ⟨fun hsame => hq ?_, q, old, hold, hb, rfl⟩
    exact place_of_key_eq (hfit.place_lt hold) (hfit.place_lt hslot) hsame
  · rintro ⟨hne, q, old, hold, hb, rfl⟩
    refine ⟨q, old, ?_, hold, hb, rfl⟩
    rintro rfl
    rw [hslot] at hold
    rw [← Option.some.inj hold] at hne
    exact hne rfl

/-- Replacing a slot keeps a table sound if the list of free slots follows. -/
theorem Sound.setSlot (ht : t.Sound) {place : Nat} (hlt : place < t.slots.length) {slot : Slot α}
    {free : List Nat} (hodd : slot.content.isSome ↔ slot.version.toNat % 2 = 1)
    (hself : place ∈ free ↔ slot.content = none)
    (hothers : ∀ q, q ≠ place → (q ∈ free ↔ q ∈ t.free)) (hnodup : free.Nodup) :
    (⟨t.slots.set place slot, free⟩ : SlotTable α).Sound where
  filled_iff other hmem := by
    rcases List.mem_or_eq_of_mem_set hmem with hold | rfl
    · exact ht.filled_iff other hold
    · exact hodd
  mem_free_iff q := by
    show q ∈ free ↔ ∃ slot', (t.slots.set place slot)[q]? = some slot' ∧ slot'.content = none
    by_cases hq : q = place
    · rw [hq, hself, List.getElem?_set_self hlt]
      simp
    · rw [hothers q hq, ht.mem_free_iff, List.getElem?_set_ne (Ne.symm hq)]
  nodup_free := hnodup

/-! ## Putting in -/

/-- A free slot is there, empty, and at an even version. -/
theorem Sound.slot_of_free (ht : t.Sound) {place : Nat} (hplace : place ∈ t.free) :
    ∃ slot, t.slots[place]? = some slot ∧ slot.content = none ∧ slot.version.toNat % 2 = 0 ∧
      t.versionAt place = slot.version := by
  obtain ⟨slot, hslot, hnone⟩ := (ht.mem_free_iff place).mp hplace
  refine ⟨slot, hslot, hnone, ?_, ?_⟩
  · have hodd := ht.filled_iff slot (List.mem_of_getElem? hslot)
    rw [hnone] at hodd
    simp only [Option.isSome_none, Bool.false_eq_true, false_iff] at hodd
    omega
  · rw [versionAt, hslot, Option.map_some, Option.getD_some]

theorem Sound.insert (ht : t.Sound) (a : α) : (t.insert a).2.Sound := by
  rw [SlotTable.insert]
  cases hfree : t.free with
  | nil =>
    refine ⟨fun slot hslot => ?_, fun place => ?_, List.nodup_nil⟩
    · rcases List.mem_append.mp hslot with hold | hnew
      · exact ht.filled_iff slot hold
      · rw [List.mem_singleton.mp hnew]
        simp
    · have hempty := ht.mem_free_iff place
      rw [hfree] at hempty
      simp only [List.not_mem_nil, false_iff, not_exists, not_and] at hempty ⊢
      intro slot hslot
      rcases Nat.lt_or_ge place t.slots.length with hlt | hge
      · rw [List.getElem?_append_left hlt] at hslot
        exact hempty slot hslot
      · rw [List.getElem?_append_right hge, List.getElem?_singleton] at hslot
        split at hslot
        · rw [← Option.some.inj hslot]
          simp
        · cases hslot
  | cons place rest =>
    have hnodup := ht.nodup_free
    rw [hfree, List.nodup_cons] at hnodup
    obtain ⟨slot, hslot, -, heven, hversion⟩ :=
      ht.slot_of_free (by rw [hfree]; exact List.mem_cons_self)
    obtain ⟨hlt, -⟩ := List.getElem?_eq_some_iff.mp hslot
    refine ht.setSlot hlt ?_ ?_ (fun q hq => ?_) hnodup.2
    · rw [odd_add_one, hversion, heven]
      simp
    · simp [hnodup.1]
    · rw [hfree, List.mem_cons]
      simp [hq]

/-- What is put in is listed under the identifier it got, beside what was listed before. -/
theorem Sound.mem_insert (ht : t.Sound) {id : WindowId} {a b : α} :
    (id, b) ∈ (t.insert a).2.toList ↔ (id = (t.insert a).1 ∧ b = a) ∨ (id, b) ∈ t.toList := by
  rw [SlotTable.insert]
  cases hfree : t.free with
  | nil =>
    simp only [toList, List.zipIdx_append, List.filterMap_append, List.mem_append]
    rw [or_comm]
    simp
  | cons place rest =>
    obtain ⟨slot, hslot, hnone, -, hversion⟩ :=
      ht.slot_of_free (by rw [hfree]; exact List.mem_cons_self)
    obtain ⟨hlt, -⟩ := List.getElem?_eq_some_iff.mp hslot
    simp only
    rw [mem_toList_setSlot hlt, mem_toList]
    refine or_congr ?_ ?_
    · simp [eq_comm, and_comm]
    · -- the slot that is filled held nothing
      constructor
      · rintro ⟨q, old, -, hold, hb, hid⟩
        exact ⟨q, old, hold, hb, hid⟩
      · rintro ⟨q, old, hold, hb, hid⟩
        refine ⟨q, old, ?_, hold, hb, hid⟩
        rintro rfl
        rw [hslot] at hold
        rw [← Option.some.inj hold, hnone] at hb
        cases hb

/-- Putting in never makes a table smaller. -/
theorem length_le_insert (t : SlotTable α) (a : α) :
    t.slots.length ≤ (t.insert a).2.slots.length := by
  rw [SlotTable.insert]
  cases t.free with
  | nil => simp
  | cons place rest => simp

/-- The identifier of what is put in is not in use before. -/
theorem Sound.insert_not_mem (ht : t.Sound) {a : α} (hfit : (t.insert a).2.Fits) :
    (t.insert a).1 ∉ t.ids := by
  intro hmem
  obtain ⟨b, hb⟩ := mem_ids.mp hmem
  obtain ⟨q, old, hold, hcontent, hid⟩ := mem_toList.mp hb
  have hbefore : t.Fits := Nat.lt_of_le_of_lt (t.length_le_insert a) hfit
  rw [Fits, SlotTable.insert] at hfit
  rw [SlotTable.insert] at hid
  cases hfree : t.free with
  | nil =>
    rw [hfree] at hid hfit
    rw [List.length_append, List.length_singleton] at hfit
    have hplace := place_of_key_eq hfit (hbefore.place_lt hold) hid
    rw [← hplace, List.getElem?_eq_none (Nat.le_refl _)] at hold
    cases hold
  | cons place rest =>
    rw [hfree] at hid
    obtain ⟨slot, hslot, hnone, -, -⟩ :=
      ht.slot_of_free (by rw [hfree]; exact List.mem_cons_self)
    have hplace := place_of_key_eq (hbefore.place_lt hslot) (hbefore.place_lt hold) hid
    rw [← hplace, hslot] at hold
    rw [← Option.some.inj hold, hnone] at hcontent
    cases hcontent

/-! ## Replacing -/

/-- Replacing finds the slot of an identifier, or does nothing. -/
theorem set_of_get? {id : WindowId} {b : α} (h : t.get? id = some b) (a : α) :
    ∃ place slot, place? id = some place ∧ t.slots[place]? = some slot ∧
      slot.version = version id ∧ slot.content = some b ∧
      t.set id a = ⟨t.slots.set place ⟨version id, some a⟩, t.free⟩ := by
  obtain ⟨place, slot, hplace, hslot, hversion, hcontent⟩ := get?_eq_some_iff.mp h
  exact ⟨place, slot, hplace, hslot, hversion, hcontent, by rw [SlotTable.set, hplace, h]⟩

theorem set_of_get?_eq_none {id : WindowId} (h : t.get? id = none) (a : α) : t.set id a = t := by
  rw [SlotTable.set, h]
  cases place? id <;> rfl

theorem Sound.set (ht : t.Sound) (id : WindowId) (a : α) : (t.set id a).Sound := by
  cases h : t.get? id with
  | none => rwa [set_of_get?_eq_none h]
  | some b =>
    obtain ⟨place, slot, -, hslot, -, hcontent, heq⟩ := set_of_get? h a
    obtain ⟨hlt, -⟩ := List.getElem?_eq_some_iff.mp hslot
    rw [heq]
    refine ht.setSlot hlt ?_ ?_ (fun _ _ => Iff.rfl) ht.nodup_free
    · simp [odd_version]
    · rw [ht.mem_free_iff, hslot]
      simp [hcontent]

/-- A replaced value is listed under the same identifier, and all others stay. -/
theorem Fits.mem_set (hfit : t.Fits) {id other : WindowId} {a b c : α}
    (hget : t.get? id = some c) : (other, b) ∈ (t.set id a).toList ↔
      (other = own id ∧ b = a) ∨ (other ≠ own id ∧ (other, b) ∈ t.toList) := by
  obtain ⟨place, slot, hplace, hslot, hversion, -, heq⟩ := set_of_get? hget a
  obtain ⟨hlt, -⟩ := List.getElem?_eq_some_iff.mp hslot
  have hown : own id = key place slot.version := by rw [own, hplace, hversion, Option.getD_some]
  rw [heq, mem_toList_setSlot hlt, mem_keptSlots hfit hslot, hown, ← hversion]
  refine or_congr ?_ Iff.rfl
  simp [eq_comm, and_comm]

@[simp]
theorem length_set (t : SlotTable α) (id : WindowId) (a : α) :
    (t.set id a).slots.length = t.slots.length := by
  cases h : t.get? id with
  | none => rw [set_of_get?_eq_none h]
  | some b =>
    obtain ⟨place, slot, -, -, -, -, heq⟩ := set_of_get? h a
    rw [heq]
    exact List.length_set

/-! ## Taking out -/

/-- Taking out empties the slot of an identifier. -/
theorem remove_of_get? {id : WindowId} {b : α} (h : t.get? id = some b) :
    ∃ place slot, place? id = some place ∧ t.slots[place]? = some slot ∧
      slot.version = version id ∧ slot.content = some b ∧
      t.remove id = ⟨t.slots.set place ⟨version id + 1, none⟩, place :: t.free⟩ := by
  obtain ⟨place, slot, hplace, hslot, hversion, hcontent⟩ := get?_eq_some_iff.mp h
  exact ⟨place, slot, hplace, hslot, hversion, hcontent, by rw [SlotTable.remove, hplace, h]⟩

theorem remove_of_get?_eq_none {id : WindowId} (h : t.get? id = none) : t.remove id = t := by
  rw [SlotTable.remove, h]
  cases place? id <;> rfl

theorem Sound.remove (ht : t.Sound) (id : WindowId) : (t.remove id).Sound := by
  cases h : t.get? id with
  | none => rwa [remove_of_get?_eq_none h]
  | some b =>
    obtain ⟨place, slot, -, hslot, -, hcontent, heq⟩ := remove_of_get? h
    obtain ⟨hlt, -⟩ := List.getElem?_eq_some_iff.mp hslot
    have hnot : place ∉ t.free := by
      rw [ht.mem_free_iff, hslot]
      simp [hcontent]
    rw [heq]
    refine ht.setSlot hlt ?_ (by simp) (fun q hq => by simp [hq]) ?_
    · have hodd := odd_version id
      rw [odd_add_one]
      simp [hodd]
    · exact List.nodup_cons.mpr ⟨hnot, ht.nodup_free⟩

/-- What is taken out is gone, and all others stay. -/
theorem Fits.mem_remove (hfit : t.Fits) {id other : WindowId} {b c : α}
    (hget : t.get? id = some c) :
    (other, b) ∈ (t.remove id).toList ↔ other ≠ own id ∧ (other, b) ∈ t.toList := by
  obtain ⟨place, slot, hplace, hslot, hversion, -, heq⟩ := remove_of_get? hget
  obtain ⟨hlt, -⟩ := List.getElem?_eq_some_iff.mp hslot
  have hown : own id = key place slot.version := by rw [own, hplace, hversion, Option.getD_some]
  rw [heq, mem_toList_setSlot hlt, mem_keptSlots hfit hslot, hown]
  simp

@[simp]
theorem length_remove (t : SlotTable α) (id : WindowId) :
    (t.remove id).slots.length = t.slots.length := by
  cases h : t.get? id with
  | none => rw [remove_of_get?_eq_none h]
  | some b =>
    obtain ⟨place, slot, -, -, -, -, heq⟩ := remove_of_get? h
    rw [heq]
    exact List.length_set

/-! ## Identifiers in use -/

/-- What is listed depends on the versions and contents of the slots, in order. -/
theorem map_toList {β : Type} (t : SlotTable α) (f : α → β) :
    t.toList.map (fun entry => (entry.1, f entry.2)) =
      (t.slots.map fun slot => (slot.version, slot.content.map f)).zipIdx.filterMap
        fun (shape, place) => shape.2.map fun b => (key place shape.1, b) := by
  rw [toList, List.zipIdx_map, List.filterMap_map, List.map_filterMap]
  refine List.filterMap_congr fun entry _ => ?_
  obtain ⟨⟨v, content⟩, place⟩ := entry
  cases content <;> rfl

/-- Of a replaced value, what is the same before and after is listed at the same place. -/
theorem map_toList_set {β : Type} {id : WindowId} {a c : α} (hget : t.get? id = some c)
    {f : α → β} (hf : f a = f c) :
    (t.set id a).toList.map (fun entry => (entry.1, f entry.2)) =
      t.toList.map fun entry => (entry.1, f entry.2) := by
  obtain ⟨place, slot, -, hslot, hversion, hcontent, heq⟩ := set_of_get? hget a
  obtain ⟨hlt, hget⟩ := List.getElem?_eq_some_iff.mp hslot
  have hshape : (t.slots.set place ⟨version id, some a⟩).map
      (fun slot => (slot.version, slot.content.map f)) =
        t.slots.map fun slot => (slot.version, slot.content.map f) := by
    rw [List.map_set, ← hversion, Option.map_some, hf, ← Option.map_some, ← hcontent, ← hget]
    conv => rhs; rw [← List.set_getElem_self hlt]
    rw [List.map_set]
  rw [map_toList, map_toList, heq, hshape]

/-- Replacing a value leaves the identifiers in use. -/
@[simp]
theorem ids_set (t : SlotTable α) (id : WindowId) (a : α) : (t.set id a).ids = t.ids := by
  cases hget : t.get? id with
  | none => rw [set_of_get?_eq_none hget]
  | some c =>
    have hsame := map_toList_set hget (a := a) (f := fun _ => ()) rfl
    have hids := congrArg (List.map Prod.fst) hsame
    rwa [List.map_map, List.map_map] at hids

theorem Fits.mem_ids_remove (hfit : t.Fits) {id other : WindowId} {c : α}
    (hget : t.get? id = some c) : other ∈ (t.remove id).ids ↔ other ≠ own id ∧ other ∈ t.ids := by
  simp only [mem_ids, hfit.mem_remove hget, exists_and_left]

theorem Sound.mem_ids_insert (ht : t.Sound) {id : WindowId} {a : α} :
    id ∈ (t.insert a).2.ids ↔ id = (t.insert a).1 ∨ id ∈ t.ids := by
  simp only [mem_ids, ht.mem_insert, exists_or, exists_and_left, exists_eq, and_true]

/-- Putting in adds one value. -/
theorem Sound.size_insert (ht : t.Sound) {a : α} (hfit : (t.insert a).2.Fits) :
    (t.insert a).2.size = t.size + 1 := by
  have hbefore : t.Fits := Nat.lt_of_le_of_lt (t.length_le_insert a) hfit
  have hnodup : ((t.insert a).1 :: t.ids).Nodup :=
    List.nodup_cons.mpr ⟨ht.insert_not_mem hfit, hbefore.nodup_ids⟩
  have hperm : (t.insert a).2.ids.Perm ((t.insert a).1 :: t.ids) := by
    refine (List.perm_ext_iff_of_nodup hfit.nodup_ids hnodup).mpr fun id => ?_
    rw [ht.mem_ids_insert, List.mem_cons]
  rw [← length_ids, ← length_ids, hperm.length_eq, List.length_cons]

/-- Taking out adds no value. -/
theorem Fits.size_remove_le (hfit : t.Fits) (id : WindowId) : (t.remove id).size ≤ t.size := by
  cases hget : t.get? id with
  | none => exact Nat.le_of_eq (congrArg size (remove_of_get?_eq_none hget))
  | some c =>
    have hafter : (t.remove id).Fits := by
      rw [Fits, length_remove]
      exact hfit
    rw [← length_ids, ← length_ids]
    refine (List.subperm_of_subset hafter.nodup_ids fun other hother => ?_).length_le
    exact ((hfit.mem_ids_remove hget).mp hother).2

end SlotTable

end WindowSystem
