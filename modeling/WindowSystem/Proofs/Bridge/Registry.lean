/-
# The registry agrees with the handles

The entries of a registry and the states of its handles are kept apart and changed one after the
other. They agree (`Registry.Sound`) when a handle is entered under an identifier exactly if it is
live and holds that identifier. Entering a window, replacing a handle whose identifier was handed
out again, binding, and taking a window out all keep the agreement.
-/
import Mathlib.Data.List.Nodup
import WindowSystem.Bridge.Registry

namespace WindowSystem

namespace Registry

variable {S : Type} (r : Registry S)

/-! ## Handles by reference -/

/-- A reference beyond the handles made so far finds no live handle. -/
theorem handle_of_length_le {h : HandleRef} (hle : r.handles.length ≤ h) :
    r.handle h = .destroyed := by
  rw [handle, List.getD_eq_getElem?_getD, List.getElem?_eq_none hle, Option.getD_none]

/-- A handle that is not destroyed was made. -/
theorem lt_length_of_ne {h : HandleRef} (hne : r.handle h ≠ .destroyed) :
    h < r.handles.length := by
  by_contra hge
  exact hne (r.handle_of_length_le (Nat.not_lt.mp hge))

/-- A handle that holds an identifier was made. -/
theorem lt_length_of_id? {h : HandleRef} {id : WindowId} (hid : (r.handle h).id? = some id) :
    h < r.handles.length := by
  refine r.lt_length_of_ne fun hd => ?_
  rw [hd] at hid
  exact absurd hid (by simp [Handle.id?])

@[simp]
theorem length_setHandle (h : HandleRef) (state : Handle S) :
    (r.setHandle h state).handles.length = r.handles.length := List.length_set

@[simp]
theorem length_tombstone (h : HandleRef) :
    (r.tombstone h).handles.length = r.handles.length := r.length_setHandle h _

@[simp]
theorem length_insert (id : WindowId) :
    (r.insert id).2.handles.length = r.handles.length + 1 := by
  simp [insert]

theorem handle_setHandle_self {h : HandleRef} (hlt : h < r.handles.length) (state : Handle S) :
    (r.setHandle h state).handle h = state := by
  simp [handle, setHandle, List.getD_eq_getElem?_getD, hlt]

/-- Changing one handle leaves the others. -/
theorem handle_setHandle_of_ne {h other : HandleRef} (hne : other ≠ h) (state : Handle S) :
    (r.setHandle h state).handle other = r.handle other := by
  simp [handle, setHandle, List.getD_eq_getElem?_getD, Ne.symm hne]

@[simp]
theorem handle_tombstone_self (h : HandleRef) : (r.tombstone h).handle h = .destroyed := by
  by_cases hlt : h < r.handles.length
  · exact r.handle_setHandle_self hlt .destroyed
  · refine handle_of_length_le _ ?_
    rw [length_tombstone]
    exact Nat.not_lt.mp hlt

theorem handle_tombstone_of_ne {h other : HandleRef} (hne : other ≠ h) :
    (r.tombstone h).handle other = r.handle other := r.handle_setHandle_of_ne hne _

/-- Writing back the state of a handle changes nothing. -/
theorem setHandle_handle (h : HandleRef) : r.setHandle h (r.handle h) = r := by
  have hset : r.handles.set h (r.handle h) = r.handles := by
    by_cases hlt : h < r.handles.length
    · have hget : r.handle h = r.handles[h] := by
        rw [handle, List.getD_eq_getElem?_getD, List.getElem?_eq_getElem hlt, Option.getD_some]
      rw [hget, List.set_getElem_self]
    · exact List.set_eq_of_length_le (Nat.not_lt.mp hlt)
  rw [setHandle, hset]

/-- Of two changes of one handle the last counts. -/
theorem setHandle_setHandle (h : HandleRef) (first second : Handle S) :
    (r.setHandle h first).setHandle h second = r.setHandle h second := by
  simp [setHandle, List.set_set]

theorem tombstone_setHandle (h : HandleRef) (state : Handle S) :
    (r.setHandle h state).tombstone h = r.tombstone h := r.setHandle_setHandle h state _

@[simp]
theorem handle_remove (id : WindowId) (h : HandleRef) : (r.remove id).handle h = r.handle h := rfl

@[simp]
theorem handle_insert_self (id : WindowId) :
    (r.insert id).2.handle r.handles.length = .fresh id := by
  simp [handle, insert, List.getD_eq_getElem?_getD]

/-- Making a handle leaves the others. -/
theorem handle_insert_of_ne (id : WindowId) {h : HandleRef} (hne : h ≠ r.handles.length) :
    (r.insert id).2.handle h = r.handle h := by
  simp only [handle, insert, List.getD_eq_getElem?_getD]
  rcases Nat.lt_or_gt_of_ne hne with hlt | hgt
  · rw [List.getElem?_append_left hlt]
  · have hlen : (r.handles ++ [Handle.fresh id]).length ≤ h := by
      rw [List.length_append, List.length_singleton]
      exact hgt
    rw [List.getElem?_eq_none hlen, List.getElem?_eq_none (Nat.le_of_lt hgt)]

/-! ## Entries by identifier -/

@[simp]
theorem resolve_setHandle (h : HandleRef) (state : Handle S) (id : WindowId) :
    (r.setHandle h state).resolve id = r.resolve id := rfl

@[simp]
theorem resolve_tombstone (h : HandleRef) (id : WindowId) :
    (r.tombstone h).resolve id = r.resolve id := rfl

@[simp]
theorem resolve_insert_self (id : WindowId) :
    (r.insert id).2.resolve id = some r.handles.length := by
  have habsent : (r.entriesWithout id).find? (fun entry => entry.1 = id) = none := by
    simp [entriesWithout]
  rw [resolve, insert, List.find?_append, habsent]
  simp

/-- Entering a window leaves the entries under other identifiers. -/
theorem resolve_insert_of_ne {id other : WindowId} (hne : other ≠ id) :
    (r.insert id).2.resolve other = r.resolve other := by
  rw [← resolve_remove_of_ne (r := r) hne, resolve, insert, List.find?_append]
  simp [resolve, remove, Ne.symm hne]

theorem nodup_entriesWithout (hids : (r.entries.map Prod.fst).Nodup) (id : WindowId) :
    ((r.entriesWithout id).map Prod.fst).Nodup :=
  (List.filter_sublist.map Prod.fst).nodup hids

/-- Entering a window keeps one entry to an identifier. -/
theorem nodup_insert (hids : (r.entries.map Prod.fst).Nodup) (id : WindowId) :
    ((r.insert id).2.entries.map Prod.fst).Nodup := by
  have hfree : id ∉ (r.entriesWithout id).map Prod.fst := by
    simp [entriesWithout]
  show ((r.entriesWithout id ++ [(id, r.handles.length)]).map Prod.fst).Nodup
  rw [List.map_append, List.nodup_append]
  refine ⟨r.nodup_entriesWithout hids id, by simp, ?_⟩
  intro a ha b hb hab
  rw [List.map_singleton, List.mem_singleton] at hb
  rw [hab, hb] at ha
  exact hfree ha

/-! ## Agreement -/

/-- The entries agree with the states of the handles. -/
structure Sound (r : Registry S) : Prop where
  /-- A handle is entered under an identifier exactly if it is live and holds it. -/
  resolve_iff : ∀ id h, r.resolve id = some h ↔ (r.handle h).id? = some id
  /-- There is one entry to an identifier. -/
  ids : (r.entries.map Prod.fst).Nodup

theorem sound_empty : Sound ({} : Registry S) where
  resolve_iff id h := by simp [resolve, handle, Handle.id?]
  ids := List.nodup_nil

namespace Sound

variable {r : Registry S} {id : WindowId}

/-- Two live handles hold different identifiers. -/
theorem eq_of_id? (hr : r.Sound) {h other : HandleRef} (hh : (r.handle h).id? = some id)
    (ho : (r.handle other).id? = some id) : h = other := by
  have hsome := (hr.resolve_iff id h).mpr hh
  rw [(hr.resolve_iff id other).mpr ho] at hsome
  exact (Option.some.inj hsome).symm

/-- The new handle is entered under its own identifier alone. -/
theorem resolve_insert_new (hr : r.Sound) (id other : WindowId) :
    (r.insert id).2.resolve other = some r.handles.length ↔
      ((r.insert id).2.handle r.handles.length).id? = some other := by
  rw [handle_insert_self, Handle.id?_fresh]
  by_cases ho : other = id
  · rw [ho, resolve_insert_self]
    exact ⟨fun _ => rfl, fun _ => rfl⟩
  · rw [r.resolve_insert_of_ne ho, hr.resolve_iff]
    constructor
    · intro hlive
      exact absurd (r.lt_length_of_id? hlive) (Nat.lt_irrefl _)
    · intro heq
      exact absurd (Option.some.inj heq).symm ho

/-- A window under an identifier of its own is entered. -/
theorem insert (hr : r.Sound) (hid : r.resolve id = none) : (r.insert id).2.Sound := by
  refine ⟨fun other h => ?_, r.nodup_insert hr.ids id⟩
  by_cases hh : h = r.handles.length
  · rw [hh]
    exact hr.resolve_insert_new id other
  · rw [r.handle_insert_of_ne id hh, ← hr.resolve_iff]
    by_cases ho : other = id
    · rw [ho, resolve_insert_self, hid]
      constructor
      · intro heq
        exact absurd (Option.some.inj heq).symm hh
      · intro heq
        cases heq
    · rw [r.resolve_insert_of_ne ho]

/-- A window under the identifier of a live one replaces it. -/
theorem replace (hr : r.Sound) {old : HandleRef} (hid : r.resolve id = some old) :
    ((r.insert id).2.tombstone old).Sound := by
  have hold : (r.handle old).id? = some id := (hr.resolve_iff id old).mp hid
  have hlt : old < r.handles.length := r.lt_length_of_id? hold
  refine ⟨fun other h => ?_, r.nodup_insert hr.ids id⟩
  rw [resolve_tombstone]
  by_cases hh : h = r.handles.length
  · rw [hh, handle_tombstone_of_ne _ (Nat.ne_of_gt hlt)]
    exact hr.resolve_insert_new id other
  · by_cases ho : other = id
    · -- nobody but the new handle holds the identifier, the replaced one least of all
      rw [ho, resolve_insert_self]
      constructor
      · intro heq
        exact absurd (Option.some.inj heq).symm hh
      · intro hlive
        by_cases hho : h = old
        · rw [hho, handle_tombstone_self] at hlive
          cases hlive
        · rw [handle_tombstone_of_ne _ hho, r.handle_insert_of_ne id hh] at hlive
          exact absurd (hr.eq_of_id? hlive hold) hho
    · rw [r.resolve_insert_of_ne ho, hr.resolve_iff]
      by_cases hho : h = old
      · rw [hho, handle_tombstone_self, hold]
        constructor
        · intro heq
          exact absurd (Option.some.inj heq).symm ho
        · intro heq
          cases heq
      · rw [handle_tombstone_of_ne _ hho, r.handle_insert_of_ne id hh]

/-- A live handle keeps its identifier while something is bound to it. -/
theorem setHandle (hr : r.Sound) {h : HandleRef} (hid : (r.handle h).id? = some id)
    {state : Handle S} (hstate : state.id? = some id) : (r.setHandle h state).Sound := by
  refine ⟨fun other o => ?_, hr.ids⟩
  rw [resolve_setHandle, hr.resolve_iff]
  by_cases ho : o = h
  · rw [ho, r.handle_setHandle_self (r.lt_length_of_id? hid), hid, hstate]
  · rw [r.handle_setHandle_of_ne ho]

/-- A window is taken out with its handle. -/
theorem remove (hr : r.Sound) {h : HandleRef} (hid : (r.handle h).id? = some id) :
    ((r.remove id).tombstone h).Sound := by
  refine ⟨fun other o => ?_, r.nodup_entriesWithout hr.ids id⟩
  rw [resolve_tombstone]
  by_cases hother : other = id
  · rw [hother, resolve_remove_self]
    constructor
    · intro heq
      cases heq
    · intro hlive
      by_cases ho : o = h
      · rw [ho, handle_tombstone_self] at hlive
        cases hlive
      · rw [handle_tombstone_of_ne _ ho, handle_remove] at hlive
        exact absurd (hr.eq_of_id? hlive hid) ho
  · rw [resolve_remove_of_ne hother, hr.resolve_iff]
    by_cases ho : o = h
    · rw [ho, handle_tombstone_self, hid]
      constructor
      · intro heq
        exact absurd (Option.some.inj heq).symm hother
      · intro heq
        cases heq
    · rw [handle_tombstone_of_ne _ ho, handle_remove]

end Sound

/-! ## The live handles -/

/-- The live handles, in the order in which they were made. -/
def liveHandles (r : Registry S) : List HandleRef :=
  (List.range r.handles.length).filter fun h => !(r.handle h).isDestroyed

theorem mem_liveHandles {h : HandleRef} :
    h ∈ r.liveHandles ↔ ∃ id, (r.handle h).id? = some id := by
  simp only [liveHandles, List.mem_filter, List.mem_range, Handle.isDestroyed,
    Bool.not_eq_true', Option.isNone_eq_false_iff, Option.isSome_iff_exists]
  constructor
  · exact fun hm => hm.2
  · rintro ⟨id, hid⟩
    exact ⟨r.lt_length_of_id? hid, id, hid⟩

theorem nodup_liveHandles : r.liveHandles.Nodup := List.nodup_range.filter _

variable {r}

/-- What entering a window comes to. -/
theorem run_enter (id : WindowId) (r : Registry S) :
    (enter id).run r = ⟨(r.insert id).1, (r.insert id).2,
      if (r.resolve id).isSome then
        [.log .warn
          ("Backend reused live window id " ++ id.text ++ "; previous handle invalidated")]
      else []⟩ := by
  cases hid : r.resolve id with
  | none =>
    simp only [enter, insert, Step.run_bind, Step.run_get, hid]
    rfl
  | some old =>
    simp only [enter, insert, Step.run_bind, Step.run_get, hid]
    rfl

/-- With one entry to an identifier, what is found under it is what is entered. -/
theorem resolve_eq_some_iff (hids : (r.entries.map Prod.fst).Nodup) {id : WindowId}
    {h : HandleRef} : r.resolve id = some h ↔ (id, h) ∈ r.entries := by
  rw [resolve, Option.map_eq_some_iff]
  constructor
  · rintro ⟨entry, hentry, rfl⟩
    have hkey : entry.1 = id := by simpa using List.find?_some hentry
    rw [← hkey]
    exact List.mem_of_find?_eq_some hentry
  · intro hmem
    refine ⟨(id, h), ?_, rfl⟩
    obtain ⟨entry, hentry⟩ : ∃ entry, r.entries.find? (fun e => e.1 = id) = some entry :=
      Option.isSome_iff_exists.mp (List.find?_isSome.mpr ⟨(id, h), hmem, by simp⟩)
    have hkey : entry.1 = id := by simpa using List.find?_some hentry
    have heq : entry = (id, h) :=
      List.inj_on_of_nodup_map hids (List.mem_of_find?_eq_some hentry) hmem hkey
    rw [hentry, heq]

theorem Sound.mem_entries (hr : r.Sound) {id : WindowId} {h : HandleRef} :
    (id, h) ∈ r.entries ↔ (r.handle h).id? = some id := by
  rw [← hr.resolve_iff, resolve_eq_some_iff hr.ids]

/-- The entered handles are the live ones. -/
theorem Sound.perm_liveHandles (hr : r.Sound) :
    (r.entries.map Prod.snd).Perm r.liveHandles := by
  -- a handle holds one identifier, so it is entered once
  have hnodup : (r.entries.map Prod.snd).Nodup := by
    refine (List.nodup_map_iff_inj_on hr.ids.of_map).mpr ?_
    rintro ⟨id, h⟩ hmem ⟨id', h'⟩ hmem' heq
    rw [hr.mem_entries] at hmem hmem'
    rw [show h = h' from heq, hmem'] at hmem
    rw [show h = h' from heq, Option.some.inj hmem]
  refine (List.perm_ext_iff_of_nodup hnodup r.nodup_liveHandles).mpr fun h => ?_
  rw [mem_liveHandles, List.mem_map]
  constructor
  · rintro ⟨⟨id, h'⟩, hmem, rfl⟩
    exact ⟨id, hr.mem_entries.mp hmem⟩
  · rintro ⟨id, hid⟩
    exact ⟨(id, h), hr.mem_entries.mpr hid, rfl⟩

/-- The number of entries is the number of live handles. -/
theorem Sound.size_eq (hr : r.Sound) : r.size = r.liveHandles.length := by
  rw [size, ← hr.perm_liveHandles.length_eq, List.length_map]

/-- The windows that are listed are the live ones, each once. -/
theorem Sound.windows_perm (hr : r.Sound) : r.windows.Perm r.liveHandles :=
  (List.mergeSort_perm _ _).trans hr.perm_liveHandles

end Registry

end WindowSystem
