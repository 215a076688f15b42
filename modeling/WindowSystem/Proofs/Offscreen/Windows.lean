/-
# The windows of the offscreen manager

What each operation does to the slot table, to the focus and to the limit of the offscreen window
manager. As long as it is asked only about windows that are open, it has exactly these in its table,
has handed their drawables out once, gives the focus to one of them, and keeps to its limit
(`Knows`), so that it is dependable (`dependable`).
-/
import WindowSystem.Proofs.Bridge.Agreement
import WindowSystem.Proofs.Offscreen.Queue

namespace WindowSystem.Offscreen

namespace Manager

variable (m : Manager)

/-! ## What an operation comes to -/

/-- Windows, focus and limit are the same before and after. -/
structure SameWindows (m m' : Manager) : Prop where
  windows : m'.windows = m.windows
  focused : m'.focused = m.focused
  limit : m'.limit = m.limit

/-- A window is created, or else the limit is reached. -/
theorem run_create_cases (attributes : WindowAttributes) :
    (∃ text, ((create attributes).run m).answer = .error (.windowCreation text) ∧
        ((create attributes).run m).state = m) ∨
      (((create attributes).run m).answer =
          .ok (m.windows.insert (Window.ofAttributes attributes)).1 ∧
        ((create attributes).run m).state =
          { m with windows := (m.windows.insert (Window.ofAttributes attributes)).2 } ∧
        ∀ limit, m.limit = some limit → m.windows.size < limit) := by
  unfold create
  rw [Step.run_bind, Step.run_get]
  cases hl : m.limit.filter (· ≤ m.windows.size) with
  | some limit => exact Or.inl ⟨_, rfl, rfl⟩
  | none =>
    refine Or.inr ⟨rfl, rfl, fun limit hlimit => ?_⟩
    rw [hlimit, Option.filter_some_eq_none] at hl
    simpa using hl

/-- A window that is there is destroyed and loses the focus. -/
theorem run_destroy_of_contains {id : WindowId} (h : m.windows.contains id = true) :
    ((destroy id).run m).state =
      { m with
        windows := m.windows.remove id
        focused := if m.focused = some id then none else m.focused } := by
  unfold destroy
  rw [Step.run_bind, Step.run_get]
  simp only [h, if_true]
  rfl

/-- The drawable of a window is handed out the first time. -/
theorem run_drawable_of_get? {id : WindowId} {w : Window} (h : m.windows.get? id = some w)
    (hissued : w.drawableIssued = false) :
    (drawable id).run m =
      ⟨.ok (.offscreen id.number),
       { m with windows := m.windows.set id { w with drawableIssued := true } }, []⟩ := by
  unfold drawable
  rw [Step.run_bind, Step.run_get]
  simp only [h, hissued, Bool.false_eq_true, if_false]
  rfl

/-- A query about a window that is there is answered. -/
theorem run_query_of_get? {id : WindowId} {w : Window} (h : m.windows.get? id = some w)
    (q : Query) : (query q id).run m = ⟨.ok (w.answer q), m, []⟩ := by
  unfold query
  rw [Step.run_gets]
  simp only [h]

/-- A change of a window that is there is stored, and a change of the focus moves it there. -/
theorem run_update_of_get? {id : WindowId} {w : Window} (h : m.windows.get? id = some w)
    (change : WindowChange) :
    ((update id change).run m).answer = .ok () ∧
      ((update id change).run m).state.windows = m.windows.set id (w.apply change) ∧
      ((update id change).run m).state.focused =
        (if change = .focus then some id else m.focused) ∧
      ((update id change).run m).state.limit = m.limit := by
  unfold update
  rw [Step.run_bind, Step.run_get]
  simp only [h]
  cases change with
  | focus =>
    refine ⟨rfl, ?_⟩
    have hecho : ∀ m' : Manager, ((focus id).run m').state.windows = m'.windows ∧
        ((focus id).run m').state.focused = some id ∧
        ((focus id).run m').state.limit = m'.limit := by
      intro m'
      unfold focus
      rw [Step.run_bind, Step.run_get]
      by_cases hf : m'.focused = some id
      · simp only [Step.run_bind, Step.run_modify, hf, if_true, Step.run_pure]
        exact ⟨trivial, trivial, trivial⟩
      · simp only [Step.run_bind, Step.run_modify, hf, if_false]
        cases m'.focused.filter m'.windows.contains <;> exact ⟨rfl, rfl, rfl⟩
    exact hecho { m with windows := m.windows.set id (w.apply .focus) }
  | _ => exact ⟨rfl, rfl, rfl, rfl⟩

/-- Looking for an event leaves the windows alone. -/
theorem sameWindows_poll (token : Option Waiter) : m.SameWindows ((poll token).run m).state := by
  rcases m.run_poll_cases token with hrun | hrun
  · rw [hrun]
    have htook := m.took_take
    generalize take.run m = o at htook
    cases htook <;> exact ⟨rfl, rfl, rfl⟩
  · rw [hrun]
    exact ⟨rfl, rfl, rfl⟩

/-- Looking for an event never fails. -/
theorem failure_poll (token : Option Waiter) :
    (Call.poll ((poll token).run m).answer.answer?).failure? = none := by
  rcases m.run_poll_cases token with hrun | hrun
  · rw [hrun]
    have htook := m.took_take
    generalize take.run m = o at htook
    cases htook <;> rfl
  · rw [hrun]
    rfl

/-- What happens past the bridge replaces at most one window. -/
theorem run_happen (x : Outside) :
    let m' := ((Surroundings.happen x : Step Note Manager Unit).run m).state
    (m'.windows = m.windows ∨
        ∃ id w w', m.windows.get? id = some w ∧ w'.drawableIssued = w.drawableIssued ∧
          m'.windows = m.windows.set id w') ∧
      m'.focused = m.focused ∧ m'.limit = m.limit := by
  cases x with
  | send event => exact ⟨Or.inl rfl, rfl, rfl⟩
  | rescale id factor =>
    have hrun : (∃ w, m.windows.get? id = some w ∧ ((setScaleFactor id factor).run m).state =
          { m with
            windows := m.windows.set id { w with scaleFactor := factor }
            queue := m.queue ++ [.window id (.scaleFactorChanged factor)] }) ∨
        ((setScaleFactor id factor).run m).state = m := by
      unfold setScaleFactor
      rw [Step.run_bind, Step.run_get]
      cases hw : m.windows.get? id with
      | none => exact Or.inr rfl
      | some w => exact Or.inl ⟨w, rfl, rfl⟩
    intro m'
    have hm' : m' = ((setScaleFactor id factor).run m).state := rfl
    rcases hrun with ⟨w, hw, hstate⟩ | hstate
    · rw [hm', hstate]
      exact ⟨Or.inr ⟨id, w, { w with scaleFactor := factor }, hw, rfl, rfl⟩, rfl, rfl⟩
    · rw [hm', hstate]
      exact ⟨Or.inl rfl, rfl, rfl⟩

end Manager

theorem Window.drawableIssued_apply (w : Window) (change : WindowChange) :
    (w.apply change).drawableIssued = w.drawableIssued := by
  cases change <;> rfl

/-! ## What the manager knows -/

/-- After some calls the manager has the windows that are open, with the drawables handed out that
were; the focus is on one of them, and there are no more than the limit allows. -/
structure Knows (limit : Option Nat) (calls : List Call) (m : Manager) : Prop where
  limit_eq : m.limit = limit
  sound : m.windows.Sound
  mem_ids : ∀ id, id ∈ m.windows.ids ↔ IsOpen calls id
  issued_iff : ∀ id w, (id, w) ∈ m.windows.toList → (w.drawableIssued = true ↔ IsDrawn calls id)
  focused : ∀ id, m.focused = some id → id ∈ m.windows.ids
  size_le : ∀ n, limit = some n → m.windows.size ≤ n

namespace Knows

variable {limit : Option Nat} {m m' : Manager} {calls : List Call} {id : WindowId}

/-- A window that is open is found under its identifier. -/
theorem get?_of_isOpen (hm : Knows limit calls m) (hfit : m.windows.Fits) (hid : IsOpen calls id) :
    ∃ w, m.windows.get? id = some w ∧ (w.drawableIssued = true ↔ IsDrawn calls id) ∧
      SlotTable.own id = id := by
  have hmem := (hm.mem_ids id).mpr hid
  obtain ⟨w, hw⟩ := SlotTable.mem_ids.mp hmem
  exact ⟨w, hm.sound.get?_of_mem hfit hw, hm.issued_iff id w hw, hm.sound.own_of_mem hfit hmem⟩

/-- A call in which no window comes or goes, while the windows stay as they are. -/
theorem quiet_call (hm : Knows limit calls m) (hsame : m.SameWindows m') {c : Call}
    (hc : c.IsQuiet) : Knows limit (calls ++ [c]) m' where
  limit_eq := hsame.limit.trans hm.limit_eq
  sound := by
    rw [hsame.windows]
    exact hm.sound
  mem_ids other := by rw [hsame.windows, hm.mem_ids, hc.isOpen_concat]
  issued_iff other w hw := by
    rw [hsame.windows] at hw
    rw [hm.issued_iff other w hw, hc.isDrawn_concat]
  focused other hother := by
    rw [hsame.focused] at hother
    rw [hsame.windows]
    exact hm.focused other hother
  size_le n hn := by
    rw [hsame.windows]
    exact hm.size_le n hn

/-- A window is replaced, in a call or past the bridge. -/
theorem replace (hm : Knows limit calls m) (hfit : m.windows.Fits) {w w' : Window}
    (hget : m.windows.get? id = some w) (hwindows : m'.windows = m.windows.set id w')
    (hfocused : ∀ other, m'.focused = some other → other ∈ m.windows.ids)
    (hlimit : m'.limit = m.limit) {calls' : List Call}
    (hopen : ∀ other, IsOpen calls' other ↔ IsOpen calls other)
    (hself : w'.drawableIssued = true ↔ IsDrawn calls' (SlotTable.own id))
    (hothers : ∀ other, other ≠ SlotTable.own id →
      (IsDrawn calls' other ↔ IsDrawn calls other)) : Knows limit calls' m' where
  limit_eq := hlimit.trans hm.limit_eq
  sound := by
    rw [hwindows]
    exact hm.sound.set id w'
  mem_ids other := by rw [hwindows, SlotTable.ids_set, hm.mem_ids, hopen]
  issued_iff other v hv := by
    rw [hwindows, hfit.mem_set hget] at hv
    rcases hv with ⟨rfl, rfl⟩ | ⟨hne, hv⟩
    · exact hself
    · rw [hm.issued_iff other v hv, hothers other hne]
  focused other hother := by
    rw [hwindows, SlotTable.ids_set]
    exact hfocused other hother
  size_le n hn := by
    rw [hwindows, ← SlotTable.length_ids, SlotTable.ids_set, SlotTable.length_ids]
    exact hm.size_le n hn

/-- A window is created under an identifier that is not open. -/
theorem create (hm : Knows limit calls m) (attributes : WindowAttributes)
    (hwindows : m'.windows = (m.windows.insert (Window.ofAttributes attributes)).2)
    (hfocused : m'.focused = m.focused) (hlimit : m'.limit = m.limit) (hfit : m'.windows.Fits)
    (hroom : ∀ n, m.limit = some n → m.windows.size < n) :
    Knows limit (calls ++
      [.create attributes (.ok (m.windows.insert (Window.ofAttributes attributes)).1)]) m' where
  limit_eq := hlimit.trans hm.limit_eq
  sound := by
    rw [hwindows]
    exact hm.sound.insert _
  mem_ids other := by
    rw [hwindows, hm.sound.mem_ids_insert, isOpen_concat, hm.mem_ids]
    simp [Call.mintedId?, Call.destroyedId?, eq_comm]
  issued_iff other w hw := by
    rw [hwindows] at hfit hw
    have hnew := hm.sound.insert_not_mem hfit
    rw [isDrawn_concat]
    rcases hm.sound.mem_insert.mp hw with ⟨rfl, rfl⟩ | hold
    · simp [Call.drawnId?, Call.mintedId?, Window.ofAttributes]
    · have hne : (m.windows.insert (Window.ofAttributes attributes)).1 ≠ other := by
        rintro rfl
        exact hnew (SlotTable.mem_ids.mpr ⟨w, hold⟩)
      rw [hm.issued_iff other w hold]
      simp [Call.drawnId?, Call.mintedId?, Call.destroyedId?, hne]
  focused other hother := by
    rw [hfocused] at hother
    rw [hwindows, hm.sound.mem_ids_insert]
    exact Or.inr (hm.focused other hother)
  size_le n hn := by
    rw [hwindows] at hfit ⊢
    rw [hm.sound.size_insert hfit]
    exact hroom n (hm.limit_eq.trans hn)

/-- A window that is open is destroyed. -/
theorem destroy (hm : Knows limit calls m) (hfit : m.windows.Fits) (hid : IsOpen calls id) :
    Knows limit (calls ++ [.destroy id]) ((Manager.destroy id).run m).state := by
  obtain ⟨w, hget, -, hown⟩ := hm.get?_of_isOpen hfit hid
  rw [m.run_destroy_of_contains (SlotTable.contains_of_get? hget)]
  refine ⟨hm.limit_eq, hm.sound.remove id, fun other => ?_, fun other v hv => ?_,
    fun other hother => ?_, fun n hn => ?_⟩
  · rw [hfit.mem_ids_remove hget, hown, isOpen_concat, hm.mem_ids]
    simp [Call.mintedId?, Call.destroyedId?, eq_comm, and_comm]
  · obtain ⟨hne, hold⟩ := (hfit.mem_remove hget).mp hv
    rw [hown] at hne
    rw [hm.issued_iff other v hold, isDrawn_concat]
    simp [Call.drawnId?, Call.mintedId?, Call.destroyedId?, Ne.symm hne]
  · -- whoever has the focus now had it before, and was not destroyed
    have hbefore : m.focused = some other ∧ m.focused ≠ some id := by
      by_cases hf : m.focused = some id
      · simp [hf] at hother
      · simp only [hf, if_false] at hother
        exact ⟨hother, hf⟩
    rw [hfit.mem_ids_remove hget, hown]
    refine ⟨?_, hm.focused other hbefore.1⟩
    rintro rfl
    exact hbefore.2 hbefore.1
  · exact Nat.le_trans (hfit.size_remove_le id) (hm.size_le n hn)

end Knows

/-! ## The manager is dependable -/

variable {limit : Option Nat} {m m' : Manager} {c : Call} {calls : List Call}

/-- A slot that was made stays. -/
theorem length_slots_le (h : Responds m c m') :
    m.windows.slots.length ≤ m'.windows.slots.length := by
  cases h with
  | create attributes =>
    show _ ≤ ((Manager.create attributes).run m).state.windows.slots.length
    rcases m.run_create_cases attributes with ⟨text, -, hstate⟩ | ⟨-, hstate, -⟩
    · rw [hstate]
    · rw [hstate]
      exact m.windows.length_le_insert _
  | destroy id =>
    show _ ≤ ((Manager.destroy id).run m).state.windows.slots.length
    cases hc : m.windows.contains id with
    | true =>
      rw [m.run_destroy_of_contains hc]
      exact Nat.le_of_eq (SlotTable.length_remove _ id).symm
    | false =>
      unfold Manager.destroy
      rw [Step.run_bind, Step.run_get]
      simp only [hc, Bool.false_eq_true, if_false]
      exact Nat.le_refl _
  | drawable id =>
    show _ ≤ ((Manager.drawable id).run m).state.windows.slots.length
    unfold Manager.drawable
    rw [Step.run_bind, Step.run_get]
    cases hw : m.windows.get? id with
    | none => exact Nat.le_refl _
    | some w =>
      cases hissued : w.drawableIssued with
      | true =>
        simp only [hissued, if_true]
        exact Nat.le_refl _
      | false =>
        simp only [hissued, Bool.false_eq_true, if_false]
        exact Nat.le_of_eq (SlotTable.length_set _ id _).symm
  | update id change =>
    show _ ≤ ((Manager.update id change).run m).state.windows.slots.length
    cases hw : m.windows.get? id with
    | none =>
      unfold Manager.update
      rw [Step.run_bind, Step.run_get]
      simp only [hw]
      exact Nat.le_refl _
    | some w =>
      rw [(m.run_update_of_get? hw change).2.1]
      exact Nat.le_of_eq (SlotTable.length_set _ id _).symm
  | query id q => exact Nat.le_refl _
  | setDeviceFilter filter => exact Nat.le_refl _
  | poll token =>
    show _ ≤ ((Manager.poll token).run m).state.windows.slots.length
    rw [(m.sameWindows_poll token).windows]
  | leave token => cases token <;> exact Nat.le_refl _

/-- The manager knows its windows after every call about windows that are open, and answers it as
it should. -/
theorem knows_of_responds (h : Responds m c m') (hfit : m'.windows.Fits) (hm : Knows limit calls m)
    (htarget : ∀ id, c.target? = some id → IsOpen calls id)
    (hdrawn : ∀ id answer, c = .drawable id answer → ¬ IsDrawn calls id) :
    Knows limit (calls ++ [c]) m' ∧ c.IsMet calls := by
  have hbefore : m.windows.Fits := Nat.lt_of_le_of_lt (length_slots_le h) hfit
  cases h with
  | create attributes =>
    rcases m.run_create_cases attributes with ⟨text, hanswer, hstate⟩ | ⟨hanswer, hstate, hroom⟩
    · have hanswer' : ((WindowManager.create attributes).run m).answer =
          .error (.windowCreation text) := hanswer
      have hstate' : ((WindowManager.create attributes).run m).state = m := hstate
      rw [hanswer', hstate']
      refine ⟨hm.quiet_call ⟨rfl, rfl, rfl⟩ ⟨rfl, rfl, rfl⟩, ⟨fun e he => ?_, ?_, ?_⟩⟩
      · rw [← Option.some.inj he]
        exact id
      · exact fun _ _ heq => by cases heq
      · exact fun _ _ heq => by cases heq
    · have hanswer' : ((WindowManager.create attributes).run m).answer =
          .ok (m.windows.insert (Window.ofAttributes attributes)).1 := hanswer
      have hstate' : ((WindowManager.create attributes).run m).state =
          { m with windows := (m.windows.insert (Window.ofAttributes attributes)).2 } := hstate
      rw [hstate'] at hfit
      rw [hanswer', hstate']
      refine ⟨hm.create attributes rfl rfl rfl hfit hroom, ⟨fun e he => ?_, ?_, ?_⟩⟩
      · cases he
      · exact fun _ _ heq => by cases heq
      · rintro _ id heq
        obtain ⟨-, hid⟩ := Call.create.inj heq
        rw [← Except.ok.inj hid, ← hm.mem_ids]
        exact hm.sound.insert_not_mem hfit
  | destroy id =>
    exact ⟨hm.destroy hbefore (htarget id rfl), Call.isMet_of_ok rfl rfl⟩
  | drawable id =>
    have hopen := htarget id rfl
    obtain ⟨w, hget, hissued, hown⟩ := hm.get?_of_isOpen hbefore hopen
    have hfalse : w.drawableIssued = false := by
      rw [← Bool.not_eq_true, hissued]
      exact hdrawn id _ rfl
    have hrun : (WindowManager.drawable id).run m = _ := m.run_drawable_of_get? hget hfalse
    rw [hrun]
    let m' : Manager := { m with windows := m.windows.set id { w with drawableIssued := true } }
    have hwindows : m'.windows = m.windows.set id { w with drawableIssued := true } := rfl
    refine ⟨hm.replace hbefore hget hwindows hm.focused rfl (fun other => ?_) ?_
      fun other hne => ?_, Call.isMet_of_ok rfl rfl⟩
    · rw [isOpen_concat]
      simp [Call.mintedId?, Call.destroyedId?]
    · rw [isDrawn_concat, hown]
      simp [Call.drawnId?]
    · rw [hown] at hne
      rw [isDrawn_concat]
      simp [Call.drawnId?, Call.mintedId?, Call.destroyedId?, Ne.symm hne]
  | update id change =>
    have hopen := htarget id rfl
    obtain ⟨w, hget, hissued, hown⟩ := hm.get?_of_isOpen hbefore hopen
    obtain ⟨hanswer, hwindows, hfocused, hlimit⟩ := m.run_update_of_get? hget change
    have hanswer' : ((WindowManager.update id change).run m).answer = .ok () := hanswer
    have hquiet : (Call.update id change (.ok ())).IsQuiet := ⟨rfl, rfl, rfl⟩
    rw [hanswer']
    refine ⟨hm.replace hbefore hget hwindows (fun other hother => ?_) hlimit
      (fun other => hquiet.isOpen_concat) ?_ fun other _ => hquiet.isDrawn_concat,
      Call.isMet_of_ok rfl rfl⟩
    · have hother' : ((Manager.update id change).run m).state.focused = some other := hother
      rw [hfocused] at hother'
      by_cases hc : change = .focus
      · rw [if_pos hc] at hother'
        rw [hm.mem_ids, ← Option.some.inj hother']
        exact hopen
      · rw [if_neg hc] at hother'
        exact hm.focused other hother'
    · rw [w.drawableIssued_apply, hown, hquiet.isDrawn_concat]
      exact hissued
  | query id q =>
    obtain ⟨w, hget, -, -⟩ := hm.get?_of_isOpen hbefore (htarget id rfl)
    have hanswer : ((WindowManager.query q id).run m).answer = .ok (w.answer q) :=
      congrArg Outcome.answer (m.run_query_of_get? hget q)
    rw [hanswer]
    exact ⟨hm.quiet_call ⟨rfl, rfl, rfl⟩ ⟨rfl, rfl, rfl⟩, Call.isMet_of_ok rfl rfl⟩
  | setDeviceFilter filter =>
    have hsame : m.SameWindows ((WindowManager.setDeviceFilter filter).run m).state :=
      ⟨rfl, rfl, rfl⟩
    exact ⟨hm.quiet_call hsame ⟨rfl, rfl, rfl⟩, Call.isMet_of_ok rfl rfl⟩
  | poll token =>
    exact ⟨hm.quiet_call (m.sameWindows_poll token) ⟨rfl, rfl, rfl⟩,
      Call.isMet_of_ok (m.failure_poll token) rfl⟩
  | leave token =>
    refine ⟨hm.quiet_call ?_ ⟨rfl, rfl, rfl⟩, Call.isMet_of_ok rfl rfl⟩
    cases token <;> exact ⟨rfl, rfl, rfl⟩

/-- What happens past the bridge leaves the slots in place. -/
theorem length_slots_happen (m : Manager) (x : Outside) :
    ((Surroundings.happen x : Step Note Manager Unit).run m).state.windows.slots.length =
      m.windows.slots.length := by
  obtain ⟨hwindows | ⟨id, w, w', -, -, hwindows⟩, -, -⟩ := m.run_happen x
  · rw [hwindows]
  · rw [hwindows, SlotTable.length_set]

/-- Also past the bridge the manager keeps its windows. -/
theorem knows_of_happen (x : Outside)
    (hfit : ((Surroundings.happen x : Step Note Manager Unit).run m).state.windows.Fits)
    (hm : Knows limit calls m) :
    Knows limit calls ((Surroundings.happen x : Step Note Manager Unit).run m).state := by
  rw [SlotTable.Fits, length_slots_happen] at hfit
  obtain ⟨hwindows | ⟨id, w, w', hget, hissued, hwindows⟩, hfocused, hlimit⟩ := m.run_happen x
  · refine ⟨hlimit.trans hm.limit_eq, ?_, ?_, ?_, ?_, ?_⟩
    · rw [hwindows]
      exact hm.sound
    · rw [hwindows]
      exact hm.mem_ids
    · rw [hwindows]
      exact hm.issued_iff
    · rw [hwindows, hfocused]
      exact hm.focused
    · rw [hwindows]
      exact hm.size_le
  · -- the identifier need not be the one under which the window was created
    refine hm.replace hfit hget hwindows (fun other hother => ?_) hlimit (fun _ => Iff.rfl) ?_
      fun _ _ => Iff.rfl
    · rw [hfocused] at hother
      exact hm.focused other hother
    · rw [hissued]
      exact hm.issued_iff _ w (SlotTable.mem_of_get? hget)

theorem knows_start (limit : Option Nat) : Knows limit [] { limit := limit } where
  limit_eq := rfl
  sound := SlotTable.sound_empty
  mem_ids id := by
    refine ⟨fun h => ?_, fun h => absurd h (not_isOpen_nil id)⟩
    exact absurd h List.not_mem_nil
  issued_iff id w hw := absurd hw List.not_mem_nil
  focused id hid := by cases hid
  size_le _ _ := Nat.zero_le _

/-- While the numbers of its slots fit, the offscreen manager is dependable. -/
theorem dependable (limit : Option Nat) :
    Dependable Outside (fun m : Manager => m.windows.Fits) (Knows limit) where
  fits_of_responds h hfit := Nat.lt_of_le_of_lt (length_slots_le h) hfit
  fits_of_happen {m} x hfit := by
    rw [SlotTable.Fits, length_slots_happen] at hfit
    exact hfit
  responds := knows_of_responds
  happen := knows_of_happen
  graphics hc hm := hm.quiet_call ⟨rfl, rfl, rfl⟩ hc.isQuiet

end WindowSystem.Offscreen
