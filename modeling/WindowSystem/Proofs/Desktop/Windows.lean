/-
# The windows of the desktop manager

Every window of the desktop window manager is a window of its display, under a number of its own
(`Manager.Housed`). Requests to the display change neither, whatever they ask for
(`Manager.Adjusts`), and what happens at the display (`Happening`) makes and takes no window. So the
manager has in its table exactly the windows that are open, and is dependable (`dependable`).
-/
import WindowSystem.Desktop.Input
import WindowSystem.Desktop.Manager
import WindowSystem.Proofs.Bridge.Agreement
import WindowSystem.Proofs.Manager.SlotVersions

namespace WindowSystem.Desktop

/-! ## The windows of the display -/

namespace Display

/-- The numbers of the windows of a display. -/
def numbers (d : Display) : List Nat := d.windows.map Prod.fst

@[simp]
theorem numbers_updateWindow (d : Display) (n : Nat) (f : DisplayWindow → DisplayWindow) :
    (d.updateWindow n f).numbers = d.numbers := by
  rw [numbers, updateWindow, List.map_map, numbers]
  refine List.map_congr_left fun entry _ => ?_
  rw [Function.comp_apply]
  by_cases hn : entry.1 = n
  · rw [if_pos hn, hn]
  · rw [if_neg hn]

@[simp]
theorem numbers_takeReports (d : Display) (ns : List Nat) :
    (d.takeReports ns).numbers = d.numbers := by
  rw [numbers, takeReports, List.map_map, numbers]
  refine List.map_congr_left fun entry _ => ?_
  rw [Function.comp_apply]
  by_cases hn : ns.contains entry.1 = true
  · rw [if_pos hn]
  · rw [if_neg hn]

theorem isSome_window? {d : Display} {n : Nat} : (d.window? n).isSome ↔ n ∈ d.numbers := by
  rw [window?, Option.isSome_map, List.find?_isSome, numbers, List.mem_map]
  simp

/-- Windows that keep their numbers are found again. -/
theorem find?_map_of_fst {g : Nat × DisplayWindow → Nat × DisplayWindow} (hg : ∀ e, (g e).1 = e.1)
    (l : List (Nat × DisplayWindow)) (n : Nat) :
    ((l.map g).find? fun entry => entry.1 = n) = (l.find? fun entry => entry.1 = n).map g := by
  have hsame : ((fun entry : Nat × DisplayWindow => decide (entry.1 = n)) ∘ g) =
      fun entry => decide (entry.1 = n) := by
    funext entry
    rw [Function.comp_apply, hg]
  rw [List.find?_map, hsame]

theorem window?_updateWindow (d : Display) (n k : Nat) (f : DisplayWindow → DisplayWindow) :
    (d.updateWindow n f).window? k = (d.window? k).map fun w => if k = n then f w else w := by
  have hfst : ∀ e : Nat × DisplayWindow, (if e.1 = n then (n, f e.2) else e).1 = e.1 := by
    intro e
    by_cases he : e.1 = n
    · rw [if_pos he, he]
    · rw [if_neg he]
  rw [window?, updateWindow, find?_map_of_fst hfst, window?]
  cases hfind : d.windows.find? fun entry => entry.1 = k with
  | none => rfl
  | some e =>
    have he : e.1 = k := by simpa using List.find?_some hfind
    by_cases hk : k = n
    · simp [he, hk]
    · simp [he, hk]

/-- A step that makes and takes no window of the display. -/
def IsTame {α : Type} (s : Step Note Display α) : Prop :=
  ∀ d, (s.run d).state.numbers = d.numbers ∧ (s.run d).state.created = d.created

theorem tame_request (n : Nat) (r : WindowRequest) : IsTame (request n r) := fun _ => ⟨rfl, rfl⟩

theorem tame_carryOut (n : Nat) (r : WindowRequest) (f : DisplayWindow → DisplayWindow) :
    IsTame (carryOut n r f) :=
  fun d => ⟨d.numbers_updateWindow n f, rfl⟩

theorem tame_withWindow {n : Nat} {f : DisplayWindow → Step Note Display Unit}
    (hf : ∀ w, IsTame (f w)) : IsTame (withWindow n f) := by
  intro d
  unfold withWindow
  rw [Step.run_bind, Step.run_get]
  cases d.window? n with
  | none => exact ⟨rfl, rfl⟩
  | some w => exact hf w d

/-- Size limits are passed on and not kept. -/
theorem state_setLimits (n : Nat) (lower upper : Option Size) (d : Display) :
    ((setLimits n lower upper).run d).state = d := by
  unfold setLimits withWindow
  rw [Step.run_bind, Step.run_get]
  cases d.window? n with
  | none => rfl
  | some w => cases hr : w.resizable <;> simp only [hr] <;> rfl

theorem tame_setLimits (n : Nat) (lower upper : Option Size) :
    IsTame (setLimits n lower upper) := by
  intro d
  rw [state_setLimits]
  exact ⟨rfl, rfl⟩

theorem tame_showWindow (n : Nat) : IsTame (showWindow n) := by
  intro d
  have hfocus : IsTame (withWindow n fun w => if w.focusOnShow then focus n else pure ()) := by
    refine tame_withWindow fun w => ?_
    cases w.focusOnShow with
    | true => exact tame_request n _
    | false => exact fun _ => ⟨rfl, rfl⟩
  have hshown := tame_carryOut n .showWindow (fun w => { w with visible := true }) d
  have hafter := hfocus ((carryOut n .showWindow fun w => { w with visible := true }).run d).state
  exact ⟨hafter.1.trans hshown.1, hafter.2.trans hshown.2⟩

/-- A property that a window has already is not asked for again. -/
theorem tame_unlessSame {n : Nat} {p : DisplayWindow → Prop} [DecidablePred p] (r : WindowRequest)
    (f : DisplayWindow → DisplayWindow) :
    IsTame (withWindow n fun w => if p w then pure () else carryOut n r f) := by
  refine tame_withWindow fun w => ?_
  by_cases hp : p w
  · rw [if_pos hp]
    exact fun _ => ⟨rfl, rfl⟩
  · rw [if_neg hp]
    exact tame_carryOut n r f

theorem tame_setPosition (n : Nat) (x y : Int32) : IsTame (setPosition n x y) :=
  tame_carryOut _ _ _

theorem tame_setFloating (n : Nat) (isFloating : Bool) : IsTame (setFloating n isFloating) :=
  tame_unlessSame _ _

theorem tame_setCursorPosition (n : Nat) (p : Point) : IsTame (setCursorPosition n p) := by
  refine tame_withWindow fun w => ?_
  cases w.focused with
  | false => exact fun _ => ⟨rfl, rfl⟩
  | true =>
    by_cases hmode : w.cursorMode = .disabled
    · simp only [hmode, if_true]
      exact fun d => ⟨d.numbers_updateWindow n _, rfl⟩
    · simp only [hmode, if_false]
      exact tame_request n _

/-- A window is created under the next number, unless the display refuses. -/
theorem run_create_cases (hints : CreationHints) (title : String) (d : Display) :
    let o := (create hints title).run d
    (o.answer = none ∧ o.state.numbers = d.numbers ∧ o.state.created = d.created) ∨
      (o.answer = some (d.created + 1) ∧ o.state.numbers = d.numbers ++ [d.created + 1] ∧
        o.state.created = d.created + 1) := by
  unfold create
  simp only [Step.run_bind, Step.run_get]
  cases d.refusals with
  | succ refusals => exact Or.inl ⟨rfl, rfl, rfl⟩
  | zero =>
    refine Or.inr ⟨rfl, ?_, rfl⟩
    show (d.windows ++ [(d.created + 1, DisplayWindow.ofHints hints)]).map Prod.fst = _
    rw [List.map_append]
    rfl

theorem numbers_destroy (d : Display) (n : Nat) :
    ((destroy n).run d).state.numbers = d.numbers.filter (· ≠ n) ∧
      ((destroy n).run d).state.created = d.created := by
  refine ⟨?_, rfl⟩
  show (d.windows.filter fun entry => entry.1 ≠ n).map Prod.fst = (d.windows.map Prod.fst).filter _
  rw [List.filter_map]
  rfl

/-- No window of a display has a number that was not given yet. -/
def IsNumbered (d : Display) : Prop := ∀ n ∈ d.numbers, n ≤ d.created

theorem isNumbered_of_windows_eq_nil {d : Display} (h : d.windows = []) : d.IsNumbered := by
  intro n hn
  rw [numbers, h] at hn
  exact absurd hn List.not_mem_nil

theorem IsNumbered.congr {d d' : Display} (hd : d.IsNumbered) (hnumbers : d'.numbers = d.numbers)
    (hcreated : d'.created = d.created) : d'.IsNumbered := by
  intro n hn
  rw [hnumbers] at hn
  rw [hcreated]
  exact hd n hn

end Display

/-! ## What happens past the bridge -/

/-- Something that happens at the display: its windows change, and things are reported of them, but
no window comes or goes. -/
structure Happening where
  change : Display → Display
  numbers_eq : ∀ d, (change d).numbers = d.numbers
  created_eq : ∀ d, (change d).created = d.created

/-- The user does something to a window. -/
def Happening.input (n : Nat) (input : Input) : Happening where
  change d := d.receive n input
  numbers_eq d := by
    unfold Display.receive
    cases d.window? n with
    | none => rfl
    | some w => simp only [Display.report, Display.numbers_updateWindow]
  created_eq d := by
    unfold Display.receive
    cases d.window? n <;> rfl

/-- The clock of the display is set, to milliseconds. -/
def Happening.clock (time : Nat) : Happening where
  change d := { d with time }
  numbers_eq _ := rfl
  created_eq _ := rfl

/-- What can happen to the desktop window manager past the bridge: something at the display, or
time passes. -/
inductive Outside where
  | display (happening : Happening)
  | advance (milliseconds : Nat)

instance : Surroundings Outside Manager where
  happen
    | .display happening => Step.modify fun m => { m with display := happening.change m.display }
    | .advance milliseconds => Step.modify (Manager.advance milliseconds)

namespace Manager

/-- The windows of the manager with their numbers on the display. -/
def numbers (m : Manager) : List (WindowId × Nat) :=
  m.windows.toList.map fun entry => (entry.1, entry.2.number)

theorem mem_numbers {m : Manager} {id : WindowId} {n : Nat} :
    (id, n) ∈ m.numbers ↔ ∃ r, (id, r) ∈ m.windows.toList ∧ r.number = n := by
  simp [numbers]

theorem map_fst_numbers (m : Manager) : m.numbers.map Prod.fst = m.windows.ids := by
  rw [numbers, List.map_map]
  rfl

/-! ## Steps that leave the windows what they are -/

/-- The windows and their numbers are the same before and after. -/
structure SameWindows (m m' : Manager) : Prop where
  numbers : m'.numbers = m.numbers
  sound : m.windows.Sound → m'.windows.Sound
  versions : m'.windows.versions = m.windows.versions
  display : m'.display.numbers = m.display.numbers
  created : m'.display.created = m.display.created

theorem SameWindows.length {m m' : Manager} (h : m.SameWindows m') :
    m'.windows.slots.length = m.windows.slots.length := by
  rw [← SlotTable.length_versions, h.versions, SlotTable.length_versions]

/-- The windows, and all that waits to be told, are the same before and after. -/
structure Adjusts (m m' : Manager) : Prop extends SameWindows m m' where
  pending : m'.pending = m.pending
  redrawRequests : m'.redrawRequests = m.redrawRequests
  modifiers : m'.modifiers = m.modifiers

theorem adjusts_refl (m : Manager) : m.Adjusts m :=
  ⟨⟨rfl, id, rfl, rfl, rfl⟩, rfl, rfl, rfl⟩

theorem Adjusts.trans {m m' m'' : Manager} (h : m.Adjusts m') (h' : m'.Adjusts m'') :
    m.Adjusts m'' where
  numbers := h'.numbers.trans h.numbers
  sound hs := h'.sound (h.sound hs)
  versions := h'.versions.trans h.versions
  display := h'.display.trans h.display
  created := h'.created.trans h.created
  pending := h'.pending.trans h.pending
  redrawRequests := h'.redrawRequests.trans h.redrawRequests
  modifiers := h'.modifiers.trans h.modifiers

/-- A display that keeps its windows leaves the manager's what they are. -/
theorem adjusts_display (m : Manager) {d : Display} (hnumbers : d.numbers = m.display.numbers)
    (hcreated : d.created = m.display.created) : m.Adjusts { m with display := d } :=
  ⟨⟨rfl, id, rfl, hnumbers, hcreated⟩, rfl, rfl, rfl⟩

theorem adjusts_onDisplay {α : Type} {s : Step Note Display α} (hs : Display.IsTame s)
    (m : Manager) : m.Adjusts ((onDisplay s).run m).state :=
  m.adjusts_display (hs m.display).1 (hs m.display).2

/-- A record is replaced by one of the same window of the display. -/
theorem adjusts_putRecord {m : Manager} {id : WindowId} {r r' : Record}
    (hget : m.windows.get? id = some r) (hnumber : r'.number = r.number) :
    m.Adjusts ((putRecord id r').run m).state where
  numbers := SlotTable.map_toList_set hget hnumber
  sound hs := hs.set id r'
  versions := m.windows.versions_set id r'
  display := rfl
  created := rfl
  pending := rfl
  redrawRequests := rfl
  modifiers := rfl

/-- Warnings change nothing. -/
theorem state_warnUnsupported (m : Manager) (fullscreen : Bool) (level : Option StackLevel) :
    ((warnUnsupported fullscreen level).run m).state = m := by
  unfold warnUnsupported
  cases fullscreen with
  | true => by_cases hl : level = some .alwaysOnBottom <;> simp only [hl] <;> rfl
  | false => by_cases hl : level = some .alwaysOnBottom <;> simp only [hl] <;> rfl

/-! ## Changes of a window -/

theorem adjusts_moveOuter (m : Manager) (r : Record) (p : Position) :
    m.Adjusts ((moveOuter r p).run m).state := by
  unfold moveOuter
  rw [Step.run_bind, Step.run_get]
  exact adjusts_onDisplay (Display.tame_setPosition _ _ _) m

/-- A change that is passed on to the display adjusts the window at most. -/
theorem adjusts_apply {m : Manager} {id : WindowId} {r : Record} (hget : m.windows.get? id = some r)
    (change : WindowChange) : m.Adjusts ((apply id r change).run m).state := by
  -- a record is replaced by one with the same number, before or after the display is told
  have hput : ∀ {r' : Record} {s : Step Note Display Unit}, r'.number = r.number →
      Display.IsTame s → m.Adjusts ((putRecord id r' >>= fun _ => onDisplay s).run m).state :=
    fun hnumber hs => (adjusts_putRecord hget hnumber).trans (adjusts_onDisplay hs _)
  cases change with
  | title text =>
    have hshown := adjusts_onDisplay (Display.tame_request r.number (.title text)) m
    exact hshown.trans (adjusts_putRecord hget rfl)
  | visible isVisible =>
    cases isVisible with
    | true => exact adjusts_onDisplay (Display.tame_showWindow _) m
    | false => exact adjusts_onDisplay (Display.tame_carryOut _ _ _) m
  | resizable isResizable => exact adjusts_onDisplay (Display.tame_unlessSame _ _) m
  | minimized isMinimized =>
    cases isMinimized with
    | true => exact adjusts_onDisplay (Display.tame_carryOut _ _ _) m
    | false => exact adjusts_onDisplay (Display.tame_carryOut _ _ _) m
  | maximized isMaximized =>
    cases isMaximized with
    | true => exact adjusts_onDisplay (Display.tame_carryOut _ _ _) m
    | false => exact adjusts_onDisplay (Display.tame_carryOut _ _ _) m
  | fullscreen isFullscreen =>
    show m.Adjusts ((warnUnsupported true none).run m).state
    rw [state_warnUnsupported]
    exact m.adjusts_refl
  | decorated isDecorated => exact adjusts_onDisplay (Display.tame_unlessSame _ _) m
  | level stackLevel =>
    have hshown := adjusts_onDisplay (Display.tame_setFloating r.number (stackLevel = .alwaysOnTop))
      ((warnUnsupported false (some stackLevel)).run m).state
    rw [state_warnUnsupported] at hshown
    show m.Adjusts ((onDisplay (Display.setFloating r.number (stackLevel = .alwaysOnTop))).run
      ((warnUnsupported false (some stackLevel)).run m).state).state
    rw [state_warnUnsupported]
    exact hshown
  | innerSize size => exact adjusts_onDisplay (Display.tame_carryOut _ _ _) m
  | minInnerSize limit => exact hput rfl (Display.tame_setLimits _ _ _)
  | maxInnerSize limit => exact hput rfl (Display.tame_setLimits _ _ _)
  | outerPosition p => exact m.adjusts_moveOuter r p
  | cursorIcon icon => exact adjusts_onDisplay (Display.tame_request _ _) m
  | cursorGrab mode => exact hput rfl (Display.tame_unlessSame _ _)
  | cursorVisible isVisible => exact hput rfl (Display.tame_unlessSame _ _)
  | cursorPosition p => exact adjusts_onDisplay (Display.tame_setCursorPosition _ _) m
  | focus => exact adjusts_onDisplay (Display.tame_request _ _) m
  | theme chosen => exact m.adjusts_refl
  | resizeIncrements size => exact m.adjusts_refl
  | contentProtected isProtected => exact m.adjusts_refl
  | enabledButtons buttons => exact m.adjusts_refl
  | imeAllowed isAllowed => exact m.adjusts_refl
  | requestRedraw => exact m.adjusts_refl

/-- A change of a window that is there is refused, noted as a request to redraw, or passed on. -/
theorem run_update_of_get? {m : Manager} {id : WindowId} {r : Record}
    (hget : m.windows.get? id = some r) (change : WindowChange) :
    (∃ e, refusal? change = some e ∧ (update id change).run m = ⟨.error e, m, []⟩) ∨
      (refusal? change = none ∧ ((update id change).run m).answer = .ok () ∧
        ((update id change).run m).state =
          (if change = .requestRedraw then ((requestRedraw id).run m).state
            else ((apply id r change).run m).state)) := by
  unfold update
  rw [Step.run_bind, Step.run_get]
  simp only [record?, hget]
  cases hrefusal : refusal? change with
  | some e => exact Or.inl ⟨e, rfl, rfl⟩
  | none =>
    by_cases hredraw : change = .requestRedraw
    · simp only [hredraw, if_true]
      exact Or.inr ⟨trivial, rfl, rfl⟩
    · simp only [hredraw, if_false]
      exact Or.inr ⟨trivial, rfl, rfl⟩

theorem run_update_of_get?_eq_none {m : Manager} {id : WindowId} (hget : m.windows.get? id = none)
    (change : WindowChange) :
    (update id change).run m = ⟨.error (.unknownWindow id), m, []⟩ := by
  unfold update
  rw [Step.run_bind, Step.run_get]
  simp only [record?, hget]
  rfl

/-- Asking for a redraw is noted beside the windows. -/
theorem state_requestRedraw (m : Manager) (id : WindowId) :
    ((requestRedraw id).run m).state =
      { m with
        redrawRequests := if m.redrawRequests.contains id then m.redrawRequests
          else m.redrawRequests ++ [id] } := by
  show (if m.redrawRequests.contains id then m
    else { m with redrawRequests := m.redrawRequests ++ [id] }) = _
  cases m.redrawRequests.contains id <;> rfl

/-- A change is not refused for want of a window. -/
theorem not_isLost_of_refusal? {change : WindowChange} {e : BackendError}
    (h : refusal? change = some e) : ¬ e.IsLost := by
  cases change with
  | innerSize size =>
    simp only [refusal?] at h
    split at h
    · cases h
    · rw [← Option.some.inj h]
      exact id
  | cursorGrab mode =>
    cases mode with
    | confined =>
      rw [← Option.some.inj h]
      exact id
    | _ => cases h
  | _ => cases h

/-- Whatever is asked about a window, the windows stay what they are. -/
theorem sameWindows_update (m : Manager) (id : WindowId) (change : WindowChange) :
    m.SameWindows ((update id change).run m).state := by
  cases hget : m.windows.get? id with
  | none =>
    rw [run_update_of_get?_eq_none hget]
    exact m.adjusts_refl.toSameWindows
  | some r =>
    rcases run_update_of_get? hget change with ⟨e, -, hrun⟩ | ⟨-, -, hstate⟩
    · rw [hrun]
      exact m.adjusts_refl.toSameWindows
    · rw [hstate]
      split
      · rw [state_requestRedraw]
        exact ⟨rfl, fun hs => hs, rfl, rfl, rfl⟩
      · exact (adjusts_apply hget change).toSameWindows

/-! ## Windows come and go -/

/-- A step that enters a record and answers with its identifier; the display keeps its windows. -/
structure Enters (r : Record) (s : Step Note Manager (Except BackendError WindowId)) : Prop where
  answer : ∀ m, (s.run m).answer = .ok (m.windows.insert r).1
  windows : ∀ m, (s.run m).state.windows = (m.windows.insert r).2
  display : ∀ m, (s.run m).state.display.numbers = m.display.numbers
  created : ∀ m, (s.run m).state.display.created = m.display.created
  pending : ∀ m, (s.run m).state.pending = m.pending
  redrawRequests : ∀ m, (s.run m).state.redrawRequests = m.redrawRequests
  modifiers : ∀ m, (s.run m).state.modifiers = m.modifiers

/-- A step that does nothing but enter the record. -/
theorem Enters.of_run {r : Record} {s : Step Note Manager (Except BackendError WindowId)}
    (h : ∀ m, (s.run m).answer = .ok (m.windows.insert r).1 ∧
      (s.run m).state = { m with windows := (m.windows.insert r).2 }) : Enters r s where
  answer m := (h m).1
  windows m := by rw [(h m).2]
  display m := by rw [(h m).2]
  created m := by rw [(h m).2]
  pending m := by rw [(h m).2]
  redrawRequests m := by rw [(h m).2]
  modifiers m := by rw [(h m).2]

theorem Enters.onDisplay_bind {r : Record} {t : Step Note Manager (Except BackendError WindowId)}
    (ht : Enters r t) {s : Step Note Display Unit} (hs : Display.IsTame s) :
    Enters r (onDisplay s >>= fun _ => t) where
  answer m := ht.answer ((onDisplay s).run m).state
  windows m := ht.windows ((onDisplay s).run m).state
  display m := (ht.display ((onDisplay s).run m).state).trans (hs m.display).1
  created m := (ht.created ((onDisplay s).run m).state).trans (hs m.display).2
  pending m := ht.pending ((onDisplay s).run m).state
  redrawRequests m := ht.redrawRequests ((onDisplay s).run m).state
  modifiers m := ht.modifiers ((onDisplay s).run m).state

theorem Enters.warnUnsupported_bind {r : Record}
    {t : Step Note Manager (Except BackendError WindowId)} (ht : Enters r t) (fullscreen : Bool)
    (level : Option StackLevel) : Enters r (warnUnsupported fullscreen level >>= fun _ => t) := by
  have hstate : ∀ m, ((warnUnsupported fullscreen level >>= fun _ => t).run m).state =
      (t.run m).state := by
    intro m
    rw [Step.run_bind, state_warnUnsupported]
  have hanswer : ∀ m, ((warnUnsupported fullscreen level >>= fun _ => t).run m).answer =
      (t.run m).answer := by
    intro m
    rw [Step.run_bind, state_warnUnsupported]
  refine ⟨fun m => ?_, fun m => ?_, fun m => ?_, fun m => ?_, fun m => ?_, fun m => ?_, fun m => ?_⟩
  · rw [hanswer, ht.answer]
  · rw [hstate, ht.windows]
  · rw [hstate, ht.display]
  · rw [hstate, ht.created]
  · rw [hstate, ht.pending]
  · rw [hstate, ht.redrawRequests]
  · rw [hstate, ht.modifiers]

/-- A window is created on the display under the next number and entered, or else the display
refuses. -/
theorem run_create_cases (m : Manager) (a : WindowAttributes) :
    (∃ text, ((create a).run m).answer = .error (.windowCreation text) ∧
        m.Adjusts ((create a).run m).state) ∨
      ∃ (r : Record) (d : Display) (s : Step Note Manager (Except BackendError WindowId)),
        r.number = m.display.created + 1 ∧ d.created = m.display.created + 1 ∧
          d.numbers = m.display.numbers ++ [m.display.created + 1] ∧ Enters r s ∧
          ((create a).run m).answer = (s.run { m with display := d }).answer ∧
          ((create a).run m).state = (s.run { m with display := d }).state := by
  unfold create
  have hrun : (onDisplay (Display.create (hints a) (a.title.getD "Window"))).run m =
      ⟨((Display.create (hints a) (a.title.getD "Window")).run m.display).answer,
       { m with display := ((Display.create (hints a) (a.title.getD "Window")).run m.display).state },
       ((Display.create (hints a) (a.title.getD "Window")).run m.display).journal⟩ := rfl
  rw [Step.run_bind, hrun]
  rcases Display.run_create_cases (hints a) (a.title.getD "Window") m.display with
    ⟨hanswer, hnumbers, hcreated⟩ | ⟨hanswer, hnumbers, hcreated⟩
  · rw [hanswer]
    exact Or.inl ⟨_, rfl, m.adjusts_display hnumbers hcreated⟩
  · rw [hanswer]
    let r : Record :=
      { number := m.display.created + 1, title := a.title.getD "Window",
        minInnerSize := a.minInnerSize, maxInnerSize := a.maxInnerSize }
    refine Or.inr ⟨r, _, _, rfl, hcreated, hnumbers, ?_, rfl, rfl⟩
    -- the window is placed and limited before it is entered
    have henter {s : Step Note Manager (Except BackendError WindowId)} (hs : Enters r s) :
        Enters r (warnUnsupported (a.fullscreen = some true) a.level >>= fun _ => s) :=
      hs.warnUnsupported_bind _ _
    cases a.position with
    | none =>
      by_cases hlimits : (a.minInnerSize.isSome || a.maxInnerSize.isSome) = true
      · simp only [hlimits, if_true]
        exact (henter (.of_run fun _ => ⟨rfl, rfl⟩)).onDisplay_bind (Display.tame_setLimits _ _ _)
      · simp only [hlimits]
        exact henter (.of_run fun _ => ⟨rfl, rfl⟩)
    | some p =>
      refine Enters.onDisplay_bind ?_ (Display.tame_setPosition _ _ _)
      by_cases hlimits : (a.minInnerSize.isSome || a.maxInnerSize.isSome) = true
      · simp only [hlimits, if_true]
        exact (henter (.of_run fun _ => ⟨rfl, rfl⟩)).onDisplay_bind (Display.tame_setLimits _ _ _)
      · simp only [hlimits]
        exact henter (.of_run fun _ => ⟨rfl, rfl⟩)

/-- A window that is there is destroyed on the display too. -/
theorem run_destroy_of_get? {m : Manager} {id : WindowId} {r : Record}
    (hget : m.windows.get? id = some r) :
    ((destroy id).run m).state =
      { m with
        display := ((Display.destroy r.number).run m.display).state
        windows := m.windows.remove id
        redrawRequests := m.redrawRequests.filter (· ≠ id) } := by
  unfold destroy
  rw [Step.run_bind, Step.run_get]
  simp only [record?, hget]
  rfl

theorem run_destroy_of_get?_eq_none {m : Manager} {id : WindowId}
    (hget : m.windows.get? id = none) : ((destroy id).run m).state = m := by
  unfold destroy
  rw [Step.run_bind, Step.run_get]
  simp only [record?, hget]
  rfl

/-- The drawable of a window that is there is the number it has on the display. -/
theorem run_drawable_of_get? {m : Manager} {id : WindowId} {r : Record}
    (hget : m.windows.get? id = some r) :
    (drawable id).run m = ⟨.ok (.platform .xlib (UInt64.ofNat r.number) 4096), m, []⟩ := by
  unfold drawable
  rw [Step.run_gets]
  simp only [record?, hget]

/-- A query about a window that is on the display is answered. -/
theorem run_query_of_get? {m : Manager} {id : WindowId} {r : Record} {w : DisplayWindow}
    (hget : m.windows.get? id = some r) (hw : m.display.window? r.number = some w) (q : Query) :
    (query q id).run m = ⟨.ok (answer m.display r w q), m, []⟩ := by
  unfold query
  rw [Step.run_gets]
  simp only [record?, hget, hw]

/-! ## Looking for events -/

/-- A look at the display leaves the windows what they are. -/
theorem sameWindows_pump (m : Manager) : m.SameWindows (pump.run m).state where
  numbers := rfl
  sound := id
  versions := rfl
  display := m.display.numbers_takeReports _
  created := rfl

/-- Taking a pending event. -/
theorem run_takePending (m : Manager) :
    ((takePending.run m).answer = .pending (m.clock + m.pollInterval) ∧
        (takePending.run m).state = m ∧ m.pending = []) ∨
      ∃ event rest, m.pending = event :: rest ∧ (takePending.run m).answer = .ready (.ok event) ∧
        (takePending.run m).state = { m with pending := rest } := by
  unfold takePending
  rw [Step.run_bind, Step.run_get]
  cases hp : m.pending with
  | nil => exact Or.inl ⟨rfl, rfl, rfl⟩
  | cons event rest => exact Or.inr ⟨event, rest, rfl, rfl, rfl⟩

/-- Whether one who looks has to wait for a time that has not come. -/
def isEarly (m : Manager) (deadline : Option Nat) : Prop :=
  (deadline.filter (m.clock < ·)).isSome

/-- Someone who looks too early sees nothing and changes nothing; the others take a pending event,
after a look at the display if there was none. -/
theorem run_poll_cases (m : Manager) (deadline : Option Nat) :
    (m.isEarly deadline ∧ ((poll deadline).run m).state = m ∧
        ∃ time, ((poll deadline).run m).answer = .pending time) ∨
      (¬ m.isEarly deadline ∧
        ∃ m', m' = (if m.pending.isEmpty then (pump.run m).state else m) ∧
          ((poll deadline).run m).answer = (takePending.run m').answer ∧
          ((poll deadline).run m).state = (takePending.run m').state) := by
  unfold poll isEarly
  rw [Step.run_bind, Step.run_get]
  cases hd : deadline.filter (m.clock < ·) with
  | some time => exact Or.inl ⟨rfl, rfl, time, rfl⟩
  | none =>
    refine Or.inr ⟨by simp, _, rfl, ?_⟩
    cases m.pending.isEmpty with
    | true => exact ⟨rfl, rfl⟩
    | false => exact ⟨rfl, rfl⟩

theorem sameWindows_poll (m : Manager) (deadline : Option Nat) :
    m.SameWindows ((poll deadline).run m).state := by
  have htake : ∀ m' : Manager, m.SameWindows m' → m.SameWindows (takePending.run m').state := by
    intro m' h
    rcases m'.run_takePending with ⟨-, hstate, -⟩ | ⟨event, rest, -, -, hstate⟩
    · rw [hstate]
      exact h
    · rw [hstate]
      exact ⟨h.numbers, h.sound, h.versions, h.display, h.created⟩
  rcases m.run_poll_cases deadline with ⟨-, hstate, -⟩ | ⟨-, m', hm', -, hstate⟩
  · rw [hstate]
    exact m.adjusts_refl.toSameWindows
  · rw [hstate]
    refine htake m' ?_
    rw [hm']
    split
    · exact m.sameWindows_pump
    · exact m.adjusts_refl.toSameWindows

/-- Looking for an event never fails. -/
theorem failure_poll (m : Manager) (deadline : Option Nat) :
    (Call.poll ((poll deadline).run m).answer.answer?).failure? = none := by
  rcases m.run_poll_cases deadline with ⟨-, -, time, hanswer⟩ | ⟨-, m', -, hanswer, -⟩
  · rw [hanswer]
    rfl
  · rw [hanswer]
    rcases m'.run_takePending with ⟨hpending, -, -⟩ | ⟨event, rest, -, hready, -⟩
    · rw [hpending]
      rfl
    · rw [hready]
      rfl

theorem adjusts_happen (m : Manager) (x : Outside) :
    m.Adjusts ((Surroundings.happen x : Step Note Manager Unit).run m).state := by
  cases x with
  | display happening =>
    exact m.adjusts_display (happening.numbers_eq m.display) (happening.created_eq m.display)
  | advance milliseconds => exact ⟨⟨rfl, id, rfl, rfl, rfl⟩, rfl, rfl, rfl⟩

/-! ## Windows of the manager and of the display -/

/-- Every window of the manager is a window of the display, under a number of its own. -/
structure Housed (m : Manager) : Prop where
  sound : m.windows.Sound
  shown : ∀ id n, (id, n) ∈ m.numbers → n ∈ m.display.numbers
  own : ∀ id other n, (id, n) ∈ m.numbers → (other, n) ∈ m.numbers → id = other
  le_created : ∀ id n, (id, n) ∈ m.numbers → n ≤ m.display.created

namespace Housed

variable {m m' : Manager} {id : WindowId}

theorem congr (hm : Housed m) (h : m.SameWindows m') : Housed m' where
  sound := h.sound hm.sound
  shown id n hn := by
    rw [h.numbers] at hn
    rw [h.display]
    exact hm.shown id n hn
  own id other n hn ho := by
    rw [h.numbers] at hn ho
    exact hm.own id other n hn ho
  le_created id n hn := by
    rw [h.numbers] at hn
    rw [h.created]
    exact hm.le_created id n hn

/-- A window is entered under the next number of the display. -/
theorem enter (hm : Housed m) {r : Record} (hr : r.number = m.display.created + 1)
    (hwindows : m'.windows = (m.windows.insert r).2)
    (hnumbers : m'.display.numbers = m.display.numbers ++ [m.display.created + 1])
    (hcreated : m'.display.created = m.display.created + 1) : Housed m' := by
  have hmem : ∀ id n, (id, n) ∈ m'.numbers ↔
      (id = (m.windows.insert r).1 ∧ n = m.display.created + 1) ∨ (id, n) ∈ m.numbers := by
    intro id n
    rw [mem_numbers, hwindows, mem_numbers]
    constructor
    · rintro ⟨r', hr', rfl⟩
      rcases hm.sound.mem_insert.mp hr' with ⟨hid, rfl⟩ | hold
      · exact Or.inl ⟨hid, hr⟩
      · exact Or.inr ⟨r', hold, rfl⟩
    · rintro (⟨hid, rfl⟩ | ⟨r', hold, rfl⟩)
      · exact ⟨r, hm.sound.mem_insert.mpr (Or.inl ⟨hid, rfl⟩), hr⟩
      · exact ⟨r', hm.sound.mem_insert.mpr (Or.inr hold), rfl⟩
  refine ⟨?_, fun id n hn => ?_, fun id other n hn ho => ?_, fun id n hn => ?_⟩
  · rw [hwindows]
    exact hm.sound.insert r
  · rw [hnumbers, List.mem_append, List.mem_singleton]
    rcases (hmem id n).mp hn with ⟨-, rfl⟩ | hold
    · exact Or.inr rfl
    · exact Or.inl (hm.shown id n hold)
  · -- the next number is greater than all that are in use
    rcases (hmem id n).mp hn with ⟨rfl, rfl⟩ | hold
    · rcases (hmem other _).mp ho with ⟨rfl, -⟩ | hother
      · rfl
      · have := hm.le_created other _ hother
        omega
    · rcases (hmem other n).mp ho with ⟨-, rfl⟩ | hother
      · have := hm.le_created id _ hold
        omega
      · exact hm.own id other n hold hother
  · rw [hcreated]
    rcases (hmem id n).mp hn with ⟨-, rfl⟩ | hold
    · exact Nat.le_refl _
    · exact Nat.le_succ_of_le (hm.le_created id n hold)

/-- A window is destroyed, whatever identifier it was found by. -/
theorem destroy (hm : Housed m) (hfit : m.windows.Fits) (id : WindowId) :
    Housed ((Manager.destroy id).run m).state := by
  cases hget : m.windows.get? id with
  | none =>
    rw [run_destroy_of_get?_eq_none hget]
    exact hm
  | some r =>
    rw [run_destroy_of_get? hget]
    obtain ⟨hnumbers, hcreated⟩ := m.display.numbers_destroy r.number
    have hself : (SlotTable.own id, r.number) ∈ m.numbers :=
      mem_numbers.mpr ⟨r, SlotTable.mem_of_get? hget, rfl⟩
    have hmem : ∀ other n, (other, n) ∈ (m.windows.remove id).toList.map
        (fun entry => (entry.1, entry.2.number)) ↔
          other ≠ SlotTable.own id ∧ (other, n) ∈ m.numbers := by
      intro other n
      simp only [mem_numbers, List.mem_map, Prod.exists, Prod.mk.injEq, hfit.mem_remove hget]
      constructor
      · rintro ⟨id', r', ⟨hne, hold⟩, rfl, hn⟩
        exact ⟨hne, r', hold, hn⟩
      · rintro ⟨hne, r', hold, hn⟩
        exact ⟨other, r', ⟨hne, hold⟩, rfl, hn⟩
    refine ⟨hm.sound.remove id, fun other n hn => ?_, fun other third n hn ht => ?_,
      fun other n hn => ?_⟩
    · obtain ⟨hne, hold⟩ := (hmem other n).mp hn
      rw [hnumbers, List.mem_filter]
      refine ⟨hm.shown other n hold, decide_eq_true ?_⟩
      -- another window has another number
      rintro rfl
      exact hne (hm.own other _ _ hold hself)
    · exact hm.own other third n ((hmem other n).mp hn).2 ((hmem third n).mp ht).2
    · rw [hcreated]
      exact hm.le_created other n ((hmem other n).mp hn).2

end Housed

end Manager

/-! ## What the manager knows -/

/-- After some calls the manager has the windows that are open, each of them on the display. -/
structure Knows (calls : List Call) (m : Manager) : Prop where
  housed : m.Housed
  mem_ids : ∀ id, id ∈ m.windows.ids ↔ IsOpen calls id

variable {m m' : Manager} {c : Call} {calls : List Call}

namespace Knows

/-- A call in which no window comes or goes, while the windows stay what they are. -/
theorem quiet_call (hm : Knows calls m) (hsame : m.SameWindows m') (hc : c.IsQuiet) :
    Knows (calls ++ [c]) m' where
  housed := hm.housed.congr hsame
  mem_ids id := by
    rw [hc.isOpen_concat, ← hm.mem_ids, ← Manager.map_fst_numbers, hsame.numbers,
      Manager.map_fst_numbers]

/-- A window that is open is found under its identifier. -/
theorem get?_of_isOpen (hm : Knows calls m) (hfit : m.windows.Fits) {id : WindowId}
    (hid : IsOpen calls id) :
    ∃ r, m.windows.get? id = some r ∧ SlotTable.own id = id ∧ (id, r.number) ∈ m.numbers := by
  have hmem := (hm.mem_ids id).mpr hid
  obtain ⟨r, hr⟩ := SlotTable.mem_ids.mp hmem
  exact ⟨r, hm.housed.sound.get?_of_mem hfit hr, hm.housed.sound.own_of_mem hfit hmem,
    Manager.mem_numbers.mpr ⟨r, hr, rfl⟩⟩

end Knows

/-! ## Numbers of windows -/

/-- Numbers are given in order, whatever is asked of the manager. -/
theorem isNumbered_responds (h : Responds m c m') (hm : m.display.IsNumbered) :
    m'.display.IsNumbered := by
  cases h with
  | create attributes =>
    show ((Manager.create attributes).run m).state.display.IsNumbered
    rcases m.run_create_cases attributes with ⟨text, -, hsame⟩ |
      ⟨r, d, s, -, hcreated, hnumbers, hs, -, hstate⟩
    · exact hm.congr hsame.display hsame.created
    · rw [hstate]
      intro n hn
      rw [hs.display, hnumbers, List.mem_append, List.mem_singleton] at hn
      rw [hs.created, hcreated]
      exact hn.elim (fun hold => Nat.le_succ_of_le (hm n hold)) Nat.le_of_eq
  | destroy id =>
    show ((Manager.destroy id).run m).state.display.IsNumbered
    cases hget : m.windows.get? id with
    | none =>
      rw [Manager.run_destroy_of_get?_eq_none hget]
      exact hm
    | some r =>
      rw [Manager.run_destroy_of_get? hget]
      obtain ⟨hnumbers, hcreated⟩ := m.display.numbers_destroy r.number
      intro n hn
      rw [hnumbers] at hn
      rw [hcreated]
      exact hm n (List.mem_filter.mp hn).1
  | update id change =>
    have hsame := m.sameWindows_update id change
    exact hm.congr hsame.display hsame.created
  | poll token =>
    have hsame := m.sameWindows_poll token
    exact hm.congr hsame.display hsame.created
  | _ => exact hm

theorem isNumbered_course (h : Course Outside m calls m') (hm : m.display.IsNumbered) :
    m'.display.IsNumbered :=
  h.keeps (P := fun _ n => n.display.IsNumbered)
    (fun _ _ _ _ hn hc => isNumbered_responds hc hn)
    (fun _ _ _ hn _ => hn)
    (fun _ n x hn => hn.congr (n.adjusts_happen x).display (n.adjusts_happen x).created) [] hm

/-! ## The manager is dependable -/

/-- A slot that was made stays. -/
theorem length_slots_le (h : Responds m c m') :
    m.windows.slots.length ≤ m'.windows.slots.length := by
  cases h with
  | create attributes =>
    rcases m.run_create_cases attributes with ⟨text, -, hadjusts⟩ | ⟨r, d, s, -, -, -, hs, -, hstate⟩
    · exact Nat.le_of_eq hadjusts.length.symm
    · show _ ≤ ((Manager.create attributes).run m).state.windows.slots.length
      rw [hstate, hs.windows]
      exact m.windows.length_le_insert r
  | destroy id =>
    show _ ≤ ((Manager.destroy id).run m).state.windows.slots.length
    cases hget : m.windows.get? id with
    | none =>
      have hsame := Manager.run_destroy_of_get?_eq_none hget
      exact Nat.le_of_eq (by rw [hsame])
    | some r =>
      rw [Manager.run_destroy_of_get? hget]
      exact Nat.le_of_eq (m.windows.length_remove id).symm
  | drawable id => exact Nat.le_refl _
  | update id change =>
    exact Nat.le_of_eq (m.sameWindows_update id change).length.symm
  | query id q => exact Nat.le_refl _
  | setDeviceFilter filter => exact Nat.le_refl _
  | poll token => exact Nat.le_of_eq (m.sameWindows_poll token).length.symm
  | leave token => exact Nat.le_refl _

/-- The manager knows its windows after every call about windows that are open, and answers it as
it should. -/
theorem knows_of_responds (h : Responds m c m') (hfit : m'.windows.Fits) (hm : Knows calls m)
    (htarget : ∀ id, c.target? = some id → IsOpen calls id) :
    Knows (calls ++ [c]) m' ∧ c.IsMet calls := by
  have hbefore : m.windows.Fits := Nat.lt_of_le_of_lt (length_slots_le h) hfit
  cases h with
  | create attributes =>
    rcases m.run_create_cases attributes with
      ⟨text, hanswer, hadjusts⟩ | ⟨r, d, s, hnumber, hcreated, hnumbers, hs, hanswer, hstate⟩
    · have hanswer' : ((WindowManager.create attributes).run m).answer =
          .error (.windowCreation text) := hanswer
      rw [hanswer']
      refine ⟨hm.quiet_call hadjusts.toSameWindows ⟨rfl, rfl, rfl⟩, ⟨fun e he => ?_, ?_, ?_⟩⟩
      · rw [← Option.some.inj he]
        exact id
      · exact fun _ _ heq => by cases heq
      · exact fun _ _ heq => by cases heq
    · have hanswer' : ((WindowManager.create attributes).run m).answer =
          .ok (m.windows.insert r).1 := hanswer.trans (hs.answer _)
      have hwindows : ((WindowManager.create attributes).run m).state.windows =
          (m.windows.insert r).2 := (congrArg Manager.windows hstate).trans (hs.windows _)
      rw [hanswer']
      refine ⟨⟨hm.housed.enter hnumber hwindows ?_ ?_, fun id => ?_⟩, ⟨fun e he => ?_, ?_, ?_⟩⟩
      · exact (congrArg (fun m => m.display.numbers) hstate).trans ((hs.display _).trans hnumbers)
      · exact (congrArg (fun m => m.display.created) hstate).trans ((hs.created _).trans hcreated)
      · rw [hwindows, hm.housed.sound.mem_ids_insert, isOpen_concat, hm.mem_ids]
        simp [Call.mintedId?, Call.destroyedId?, eq_comm]
      · cases he
      · exact fun _ _ heq => by cases heq
      · rintro _ id heq
        obtain ⟨-, hid⟩ := Call.create.inj heq
        rw [hwindows] at hfit
        rw [← Except.ok.inj hid, ← hm.mem_ids]
        exact hm.housed.sound.insert_not_mem hfit
  | destroy id =>
    refine ⟨⟨hm.housed.destroy hbefore id, fun other => ?_⟩, Call.isMet_of_ok rfl rfl⟩
    obtain ⟨r, hget, hown, -⟩ := hm.get?_of_isOpen hbefore (htarget id rfl)
    show other ∈ ((Manager.destroy id).run m).state.windows.ids ↔ _
    rw [Manager.run_destroy_of_get? hget, hbefore.mem_ids_remove hget, hown, isOpen_concat,
      hm.mem_ids]
    simp [Call.mintedId?, Call.destroyedId?, eq_comm, and_comm]
  | drawable id =>
    obtain ⟨r, hget, -, -⟩ := hm.get?_of_isOpen hbefore (htarget id rfl)
    have hanswer : ((WindowManager.drawable id).run m).answer =
        .ok (.platform .xlib (UInt64.ofNat r.number) 4096) :=
      congrArg Outcome.answer (Manager.run_drawable_of_get? hget)
    rw [hanswer]
    refine ⟨⟨hm.housed, fun other => ?_⟩, Call.isMet_of_ok rfl rfl⟩
    rw [isOpen_concat]
    show other ∈ m.windows.ids ↔ _
    simpa [Call.mintedId?, Call.destroyedId?] using hm.mem_ids other
  | update id change =>
    obtain ⟨r, hget, -, -⟩ := hm.get?_of_isOpen hbefore (htarget id rfl)
    refine ⟨hm.quiet_call (m.sameWindows_update id change) ⟨rfl, rfl, rfl⟩, ?_⟩
    rcases Manager.run_update_of_get? hget change with ⟨e, hrefusal, hrun⟩ | ⟨-, hanswer, -⟩
    · have hrun' : (WindowManager.update id change).run m = ⟨.error e, m, []⟩ := hrun
      rw [hrun']
      refine ⟨fun found he => ?_, ?_, ?_⟩
      · rw [← Option.some.inj he]
        exact Manager.not_isLost_of_refusal? hrefusal
      · exact fun _ _ heq => by cases heq
      · exact fun _ _ heq => by cases heq
    · have hanswer' : ((WindowManager.update id change).run m).answer = .ok () := hanswer
      rw [hanswer']
      exact Call.isMet_of_ok rfl rfl
  | query id q =>
    obtain ⟨r, hget, -, hnumber⟩ := hm.get?_of_isOpen hbefore (htarget id rfl)
    have hshown := hm.housed.shown id r.number hnumber
    rw [← Display.isSome_window?, Option.isSome_iff_exists] at hshown
    obtain ⟨w, hw⟩ := hshown
    have hanswer : ((WindowManager.query q id).run m).answer =
        .ok (Manager.answer m.display r w q) :=
      congrArg Outcome.answer (Manager.run_query_of_get? hget hw q)
    rw [hanswer]
    exact ⟨hm.quiet_call m.adjusts_refl.toSameWindows ⟨rfl, rfl, rfl⟩, Call.isMet_of_ok rfl rfl⟩
  | setDeviceFilter filter =>
    exact ⟨hm.quiet_call m.adjusts_refl.toSameWindows ⟨rfl, rfl, rfl⟩, Call.isMet_of_ok rfl rfl⟩
  | poll token =>
    exact ⟨hm.quiet_call (m.sameWindows_poll token) ⟨rfl, rfl, rfl⟩,
      Call.isMet_of_ok (m.failure_poll token) rfl⟩
  | leave token =>
    exact ⟨hm.quiet_call m.adjusts_refl.toSameWindows ⟨rfl, rfl, rfl⟩, Call.isMet_of_ok rfl rfl⟩

/-- While the numbers of its slots fit, the desktop manager is dependable. -/
theorem dependable : Dependable Outside (fun m : Manager => m.windows.Fits) Knows where
  fits_of_responds h hfit := Nat.lt_of_le_of_lt (length_slots_le h) hfit
  fits_of_happen {m} x hfit := by
    rw [SlotTable.Fits, (m.adjusts_happen x).length] at hfit
    exact hfit
  responds h hfit hm htarget _ := knows_of_responds h hfit hm htarget
  happen {calls m} x _ hm :=
    ⟨hm.housed.congr (m.adjusts_happen x).toSameWindows, fun id => by
      rw [← hm.mem_ids, ← Manager.map_fst_numbers, (m.adjusts_happen x).numbers,
        Manager.map_fst_numbers]⟩
  graphics {calls m c} hc hm := hm.quiet_call m.adjusts_refl.toSameWindows hc.isQuiet

/-- A manager that opened a display without windows has none. -/
theorem knows_start {display : Display} (pollInterval : Nat) :
    Knows [] { display := display, pollInterval := pollInterval } where
  housed :=
    { sound := SlotTable.sound_empty
      shown := fun _ _ hn => absurd hn List.not_mem_nil
      own := fun _ _ _ hn => absurd hn List.not_mem_nil
      le_created := fun _ _ hn => absurd hn List.not_mem_nil }
  mem_ids id := by
    refine ⟨fun h => ?_, fun h => absurd h (not_isOpen_nil id)⟩
    exact absurd h List.not_mem_nil

end WindowSystem.Desktop
