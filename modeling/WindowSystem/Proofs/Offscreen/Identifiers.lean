/-
# Identifiers of offscreen windows

Whatever is asked of the offscreen window manager, and about whatever identifiers, its table holds
the windows that were created and not destroyed since (`Lists`). An identifier that comes from
outside is looked up with its lowest version bit set, so it reaches a window exactly if the
identifier that it is taken for was handed out for one that is still there
(`identifiers_reach_windows`). Of the two identifiers that reach a window only one was handed out;
the other should be unknown, but it is not (`unissued_identifier_reaches_window`).
-/
import WindowSystem.Proofs.Manager.Runs
import WindowSystem.Proofs.Manager.SlotVersions
import WindowSystem.Proofs.Offscreen.Windows

namespace WindowSystem

/-- A call in which the identifier under which a window is destroyed is the one it is taken for. -/
def Call.meant : Call → Call
  | .destroy id => .destroy (SlotTable.meant id)
  | c => c

theorem Call.mintedId?_meant (c : Call) : c.meant.mintedId? = c.mintedId? := by
  cases c <;> rfl

theorem Call.destroyedId?_meant (c : Call) :
    c.meant.destroyedId? = c.destroyedId?.map SlotTable.meant := by
  cases c <;> rfl

/-- Whether an answer says that there is no such window. -/
def saysUnknown {α : Type} : Except BackendError α → Bool
  | .error (.unknownWindow _) => true
  | _ => false

namespace Offscreen

/-! ## What calls do to the table -/

/-- At most, a window is replaced. -/
def Replaces (t t' : SlotTable Window) : Prop := t' = t ∨ ∃ id w, t' = t.set id w

namespace Replaces

variable {t t' : SlotTable Window}

theorem sound (h : Replaces t t') (ht : t.Sound) : t'.Sound := by
  rcases h with rfl | ⟨id, w, rfl⟩
  · exact ht
  · exact ht.set id w

theorem ids_eq (h : Replaces t t') : t'.ids = t.ids := by
  rcases h with rfl | ⟨id, w, rfl⟩
  · rfl
  · exact t.ids_set id w

theorem versions_eq (h : Replaces t t') : t'.versions = t.versions := by
  rcases h with rfl | ⟨id, w, rfl⟩
  · rfl
  · exact t.versions_set id w

end Replaces

/-- What a call does to the table of windows: one is put in under the identifier that is handed
out, the one under an identifier is taken out, or one is replaced at most. -/
inductive Turns (t : SlotTable Window) : Call → SlotTable Window → Prop where
  | created (attributes : WindowAttributes) (w : Window) :
    Turns t (.create attributes (.ok (t.insert w).1)) (t.insert w).2
  | destroyed (id : WindowId) : Turns t (.destroy id) (t.remove id)
  | replaced {c : Call} {t' : SlotTable Window} (hminted : c.mintedId? = none)
      (hdestroyed : c.destroyedId? = none) (h : Replaces t t') : Turns t c t'

namespace Manager

variable (m : Manager)

/-- A window that is not there is not destroyed, and nothing else is. -/
theorem run_destroy_of_not_contains {id : WindowId} (h : m.windows.contains id = false) :
    ((destroy id).run m).state = m := by
  unfold destroy
  rw [Step.run_bind, Step.run_get]
  simp only [h, Bool.false_eq_true, if_false]
  rfl

theorem windows_destroy (id : WindowId) :
    ((destroy id).run m).state.windows = m.windows.remove id := by
  cases h : m.windows.contains id with
  | true => rw [m.run_destroy_of_contains h]
  | false =>
    have hget : m.windows.get? id = none := by
      rwa [SlotTable.contains, Option.isSome_eq_false_iff, Option.isNone_iff_eq_none] at h
    rw [m.run_destroy_of_not_contains h, SlotTable.remove_of_get?_eq_none hget]

theorem replaces_drawable (id : WindowId) :
    Replaces m.windows ((drawable id).run m).state.windows := by
  cases hget : m.windows.get? id with
  | none =>
    refine Or.inl ?_
    unfold drawable
    rw [Step.run_bind, Step.run_get]
    simp only [hget]
    rfl
  | some w =>
    cases hissued : w.drawableIssued with
    | true =>
      refine Or.inl ?_
      unfold drawable
      rw [Step.run_bind, Step.run_get]
      simp only [hget, hissued, if_true]
      rfl
    | false =>
      rw [m.run_drawable_of_get? hget hissued]
      exact Or.inr ⟨id, _, rfl⟩

theorem run_update_of_get?_eq_none {id : WindowId} (h : m.windows.get? id = none)
    (change : WindowChange) : (update id change).run m = ⟨.error (.unknownWindow id), m, []⟩ := by
  unfold update
  rw [Step.run_bind, Step.run_get]
  simp only [h]
  rfl

theorem replaces_update (id : WindowId) (change : WindowChange) :
    Replaces m.windows ((update id change).run m).state.windows := by
  cases hget : m.windows.get? id with
  | none =>
    rw [m.run_update_of_get?_eq_none hget]
    exact Or.inl rfl
  | some w => exact Or.inr ⟨id, _, (m.run_update_of_get? hget change).2.1⟩

theorem turns_of_responds {m m' : Manager} {c : Call} (h : Responds m c m') :
    Turns m.windows c m'.windows := by
  cases h with
  | create attributes =>
    show Turns m.windows (.create attributes ((create attributes).run m).answer) _
    rcases m.run_create_cases attributes with ⟨text, hanswer, hstate⟩ | ⟨hanswer, hstate, -⟩
    · rw [hanswer]
      exact .replaced rfl rfl (Or.inl (congrArg windows hstate))
    · have hwindows : ((WindowManager.create attributes).run m).state.windows =
          (m.windows.insert (Window.ofAttributes attributes)).2 := congrArg windows hstate
      rw [hanswer, hwindows]
      exact .created attributes _
  | destroy id =>
    have hwindows : ((WindowManager.destroy id).run m).state.windows = m.windows.remove id :=
      m.windows_destroy id
    rw [hwindows]
    exact .destroyed id
  | drawable id => exact .replaced rfl rfl (m.replaces_drawable id)
  | update id change => exact .replaced rfl rfl (m.replaces_update id change)
  | query id q => exact .replaced rfl rfl (Or.inl rfl)
  | setDeviceFilter filter => exact .replaced rfl rfl (Or.inl rfl)
  | poll token => exact .replaced rfl rfl (Or.inl (m.sameWindows_poll token).windows)
  | leave token => exact .replaced rfl rfl (Or.inl (by cases token <;> rfl))

theorem replaces_happen (x : Outside) :
    Replaces m.windows ((Surroundings.happen x : Step Note Manager Unit).run m).state.windows := by
  obtain ⟨hsame | ⟨id, w, w', -, -, hset⟩, -⟩ := m.run_happen x
  · exact Or.inl hsame
  · exact Or.inr ⟨id, w', hset⟩

end Manager

/-! ## The windows that are there -/

/-- After some calls the table of the manager holds the windows that were created and not destroyed
since. -/
structure Lists (calls : List Call) (m : Manager) : Prop where
  sound : m.windows.Sound
  mem_ids : ∀ id, id ∈ m.windows.ids ↔ IsOpen (calls.map Call.meant) id
  /-- An identifier that was handed out is taken for itself. -/
  meant : ∀ id ∈ mintedIds calls, SlotTable.meant id = id

theorem lists_start (limit : Option Nat) : Lists [] { limit := limit } where
  sound := SlotTable.sound_empty
  mem_ids id := ⟨fun h => absurd h List.not_mem_nil, fun h => absurd h (not_isOpen_nil id)⟩
  meant _ hid := absurd hid List.not_mem_nil

namespace Lists

variable {calls : List Call} {m m' : Manager}

/-- Replacing a window, in a call or past the bridge, changes nothing here. -/
theorem replace (hm : Lists calls m) (h : Replaces m.windows m'.windows) : Lists calls m' where
  sound := h.sound hm.sound
  mem_ids id := by rw [h.ids_eq, hm.mem_ids]
  meant := hm.meant

/-- A call that creates no window and destroys none. -/
theorem quiet (hm : Lists calls m) {c : Call} (hminted : c.mintedId? = none)
    (hdestroyed : c.destroyedId? = none) : Lists (calls ++ [c]) m where
  sound := hm.sound
  mem_ids id := by
    rw [hm.mem_ids, List.map_append, List.map_singleton, isOpen_concat, Call.mintedId?_meant,
      Call.destroyedId?_meant, hminted, hdestroyed]
    simp
  meant := by
    rw [mintedIds_append, mintedIds_singleton hminted, List.append_nil]
    exact hm.meant

theorem turn (hm : Lists calls m) {c : Call} (h : Turns m.windows c m'.windows)
    (hfits : m'.windows.Fits) : Lists (calls ++ [c]) m' := by
  generalize ht : m'.windows = t at h hfits
  cases h with
  | created attributes w =>
    have hsound : m'.windows.Sound := by
      rw [ht]
      exact hm.sound.insert w
    refine ⟨hsound, fun id => ?_, fun id hid => ?_⟩
    · rw [ht, hm.sound.mem_ids_insert, hm.mem_ids, List.map_append, List.map_singleton,
        isOpen_concat]
      simp [Call.meant, Call.mintedId?, Call.destroyedId?, eq_comm]
    · rw [mintedIds_append, List.mem_append] at hid
      rcases hid with hold | hnew
      · exact hm.meant id hold
      · have hid : id = (m.windows.insert w).1 := List.mem_singleton.mp hnew
        rw [ht] at hsound
        exact hsound.meant_of_mem hfits (hm.sound.mem_ids_insert.mpr (Or.inl hid))
  | destroyed id =>
    have hbefore : m.windows.Fits := by
      rwa [SlotTable.Fits, SlotTable.length_remove] at hfits
    refine ⟨?_, fun other => ?_, ?_⟩
    · rw [ht]
      exact hm.sound.remove id
    · rw [ht, hm.sound.mem_ids_remove hbefore, hm.mem_ids, List.map_append, List.map_singleton,
        isOpen_concat]
      simp [Call.meant, Call.mintedId?, Call.destroyedId?, eq_comm, and_comm]
    · rw [mintedIds_append, mintedIds_singleton rfl, List.append_nil]
      exact hm.meant
  | replaced hminted hdestroyed hreplaces =>
    rw [← ht] at hreplaces
    exact (hm.replace hreplaces).quiet hminted hdestroyed

/-- The manager lists its windows at the end of every course that does not make too many slots. -/
theorem course (h : Course Outside m calls m') (hm : Lists [] m) (hfits : m'.windows.Fits) :
    Lists calls m' := by
  have hkeeps := h.keeps (P := fun past m => m.windows.Fits → Lists past m)
    (fun past n c n' hn hc hfits =>
      (hn (Nat.lt_of_le_of_lt (length_slots_le hc) hfits)).turn (Manager.turns_of_responds hc)
        hfits)
    (fun past n c hn hc hfits => (hn hfits).quiet hc.isQuiet.mintedId? hc.isQuiet.destroyedId?)
    (fun past n x hn hfits => ?_) [] (fun _ => hm)
  · exact hkeeps hfits
  · have hbefore : n.windows.Fits := by
      rwa [SlotTable.Fits, length_slots_happen] at hfits
    exact (hn hbefore).replace (n.replaces_happen x)

end Lists

/-- After a run, there is a window that was created under an identifier: it was handed out, and no
window was destroyed since under an identifier that is taken for it. -/
def IsThere (run : List (Moment Manager Waiter Outside)) (id : WindowId) : Prop :=
  IsOpen ((callsOf run).map Call.meant) id

/-- Whether an identifier reaches a window, in everything that can be asked of the manager. Under
one that does not, nothing is destroyed and nothing else changes; under one that does, the window
is destroyed that bears the identifier it is taken for. -/
structure Reaches (m : Manager) (id : WindowId) (known : Prop) : Prop where
  contains : m.windows.contains id = true ↔ known
  state : (∃ w, m.windows.get? id = some w) ↔ known
  query : ∀ q, saysUnknown ((Manager.query q id).run m).answer = false ↔ known
  update : ∀ change, saysUnknown ((Manager.update id change).run m).answer = false ↔ known
  drawable : saysUnknown ((Manager.drawable id).run m).answer = false ↔ known
  setScaleFactor : ∀ factor,
    saysUnknown ((Manager.setScaleFactor id factor).run m).answer = false ↔ known
  not_destroyed : ¬ known → ((Manager.destroy id).run m).state = m
  destroyed : known → ∀ other, other ∈ ((Manager.destroy id).run m).state.windows.ids ↔
    other ≠ SlotTable.meant id ∧ other ∈ m.windows.ids

theorem mem_ids_destroy {m : Manager} (hsound : m.windows.Sound) (hfits : m.windows.Fits)
    (id other : WindowId) :
    other ∈ ((Manager.destroy id).run m).state.windows.ids ↔
      other ≠ SlotTable.meant id ∧ other ∈ m.windows.ids := by
  rw [m.windows_destroy, hsound.mem_ids_remove hfits]

theorem reaches_of_get? {m : Manager} (hsound : m.windows.Sound) (hfits : m.windows.Fits)
    {id : WindowId} {w : Window} (hget : m.windows.get? id = some w) :
    Reaches m id (m.windows.contains id = true) := by
  have hknown := SlotTable.contains_of_get? hget
  refine ⟨Iff.rfl, iff_of_true ⟨w, hget⟩ hknown, fun q => iff_of_true ?_ hknown,
    fun change => iff_of_true ?_ hknown, iff_of_true ?_ hknown,
    fun factor => iff_of_true ?_ hknown, fun h => absurd hknown h,
    fun _ => mem_ids_destroy hsound hfits id⟩
  · rw [m.run_query_of_get? hget]
    rfl
  · rw [(m.run_update_of_get? hget change).1]
    rfl
  · -- a drawable that was handed out before is refused, but not as that of an unknown window
    unfold Manager.drawable
    rw [Step.run_bind, Step.run_get]
    simp only [hget]
    cases hissued : w.drawableIssued <;> simp only [Bool.false_eq_true, if_true, if_false] <;> rfl
  · unfold Manager.setScaleFactor
    rw [Step.run_bind, Step.run_get]
    simp only [hget]
    rfl

theorem reaches_of_get?_eq_none {m : Manager} (hsound : m.windows.Sound) (hfits : m.windows.Fits)
    {id : WindowId} (hget : m.windows.get? id = none) :
    Reaches m id (m.windows.contains id = true) := by
  have hunknown := SlotTable.not_contains_of_get? hget
  have hfalse : ¬ (true = false) := by decide
  refine ⟨Iff.rfl, iff_of_false ?_ hunknown, fun q => iff_of_false ?_ hunknown,
    fun change => iff_of_false ?_ hunknown, iff_of_false ?_ hunknown,
    fun factor => iff_of_false ?_ hunknown, fun _ => ?_,
    fun _ => mem_ids_destroy hsound hfits id⟩
  · rintro ⟨w, hw⟩
    rw [hget] at hw
    cases hw
  · unfold Manager.query
    rw [Step.run_gets]
    simp only [hget]
    exact hfalse
  · rw [m.run_update_of_get?_eq_none hget]
    exact hfalse
  · unfold Manager.drawable
    rw [Step.run_bind, Step.run_get]
    simp only [hget]
    exact hfalse
  · unfold Manager.setScaleFactor
    rw [Step.run_bind, Step.run_get]
    simp only [hget]
    exact hfalse
  · exact m.run_destroy_of_not_contains (Bool.not_eq_true _ ▸ hunknown)

/-- All that can be asked about an identifier finds a window, or nothing does. -/
theorem reaches_contains {m : Manager} (hsound : m.windows.Sound) (hfits : m.windows.Fits)
    (id : WindowId) : Reaches m id (m.windows.contains id = true) := by
  cases hget : m.windows.get? id with
  | some w => exact reaches_of_get? hsound hfits hget
  | none => exact reaches_of_get?_eq_none hsound hfits hget

/-- After every run, whatever was asked under whatever identifiers, an identifier reaches a window
exactly if the one that it is taken for was handed out for a window that is still there. An
identifier that was handed out is taken for itself. This is up to the windows whose slots can be
numbered in half an identifier. -/
theorem identifiers_reach_windows (limit : Option Nat)
    (actions : List (ManagerAction Waiter Outside)) :
    let start : Manager := { limit := limit }
    let run := moments start actions
    let m := stateAfter start actions
    m.windows.Fits →
      (∀ id, Reaches m id (IsThere run (SlotTable.meant id))) ∧
      ∀ id ∈ minted run, SlotTable.meant id = id := by
  intro start run m hfits
  have hlists : Lists (callsOf run) m :=
    Lists.course (course_moments start actions) (lists_start limit) hfits
  refine ⟨fun id => ?_, fun id hid => hlists.meant id ?_⟩
  · have hknown : m.windows.contains id = true ↔ IsThere run (SlotTable.meant id) :=
      (hlists.sound.contains_iff hfits).trans (hlists.mem_ids _)
    rw [← propext hknown]
    exact reaches_contains hlists.sound hfits id
  · rwa [mintedIds_callsOf]

/-- A window created in a slot that was used before is reached also under an identifier with an even
version. -/
theorem reached_under_even_version :
    let start : Manager := { limit := none }
    let actions : List (ManagerAction Waiter Outside) :=
      [.create {}, .destroy ⟨4294967297⟩, .create {}]
    let run := moments start actions
    let m := stateAfter start actions
    m.windows.Fits ∧ minted run = [⟨4294967297⟩, ⟨12884901889⟩] ∧
      Reaches m ⟨8589934593⟩ (IsThere run ⟨12884901889⟩) := by
  intro start actions run m
  have hfits : m.windows.Fits := by
    show m.windows.slots.length < UInt32.size
    decide +kernel
  exact ⟨hfits, by decide +kernel, (identifiers_reach_windows none actions hfits).1 ⟨8589934593⟩⟩

/-- An identifier that was never handed out reaches a window all the same, and destroys it. -/
theorem unissued_identifier_reaches_window :
    let start : Manager := {}
    let actions : List (ManagerAction Waiter Outside) := [.create {}]
    let m := stateAfter start actions
    minted (moments start actions) = [⟨4294967297⟩] ∧
      m.windows.contains ⟨1⟩ = true ∧
      saysUnknown ((Manager.query .title ⟨1⟩).run m).answer = false ∧
      m.windows.ids = [⟨4294967297⟩] ∧
      ((Manager.destroy ⟨1⟩).run m).state.windows.ids = [] := by
  decide +kernel

end Offscreen

end WindowSystem
