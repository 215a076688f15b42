/-
# Reports and the looks that take them

What is reported about a window waits at the display until the manager looks there or the window
is destroyed. No request takes a report away (`Manager.KeepsReports`), and what happens at a display
only adds to them (`Outside.AddsReports`). So a look finds what was reported since the look before,
about the windows that are there, and tells it in its frame (`reports_told_at_next_look`).

The reports about a window go with it. What was reported before it was destroyed, and not looked at
yet, is told by nobody (`report_lost_with_window`).
-/
import Mathlib.Data.List.Infix
import WindowSystem.Offscreen.Graphics
import WindowSystem.Proofs.Desktop.Redraws
import WindowSystem.Proofs.Manager.SessionRuns

namespace WindowSystem.Desktop

/-! ## Reports that wait -/

namespace Display

theorem reportsOf_of_not_mem {d : Display} {n : Nat} (hn : n ∉ d.numbers) :
    d.reportsOf n = [] := by
  have hnone : d.window? n = none := by
    rw [← Option.not_isSome_iff_eq_none, isSome_window?]
    exact hn
  rw [reportsOf, hnone]
  rfl

/-- What was reported stays in front if a change keeps it there. -/
theorem reportsOf_updateWindow_prefix {d : Display} {n : Nat} {f : DisplayWindow → DisplayWindow}
    (hf : ∀ w, d.window? n = some w → w.reports <+: (f w).reports) (k : Nat) :
    d.reportsOf k <+: (d.updateWindow n f).reportsOf k := by
  rw [reportsOf, reportsOf, window?_updateWindow]
  cases hk : d.window? k with
  | none => exact List.prefix_rfl
  | some w =>
    by_cases hkn : k = n
    · subst hkn
      simpa using hf w hk
    · simp [hkn]

/-- A window that is changed keeps its reports if the change does. -/
theorem reportsOf_updateWindow {f : DisplayWindow → DisplayWindow}
    (hf : ∀ w, (f w).reports = w.reports) (d : Display) (n k : Nat) :
    (d.updateWindow n f).reportsOf k = d.reportsOf k := by
  rw [reportsOf, reportsOf, window?_updateWindow]
  cases d.window? k with
  | none => rfl
  | some w =>
    by_cases hkn : k = n
    · simp [hkn, hf]
    · simp [hkn]

/-- The reports about the other windows stay when a window is destroyed. -/
theorem reportsOf_destroy {n k : Nat} (hk : k ≠ n) (d : Display) :
    ((destroy n).run d).state.reportsOf k = d.reportsOf k := by
  show ((((d.windows.filter fun entry => entry.1 ≠ n).find? fun entry => entry.1 = k).map
    Prod.snd).map DisplayWindow.reports).getD [] = _
  have hsame : (fun entry : Nat × DisplayWindow =>
      decide (decide (entry.1 ≠ n) = true ∧ decide (entry.1 = k) = true)) =
      fun entry => decide (entry.1 = k) := by
    funext entry
    by_cases hentry : entry.1 = k
    · simp [hentry, hk]
    · simp [hentry]
  rw [List.find?_filter, hsame]
  rfl

/-- A step that leaves all reports where they are. -/
def KeepsReports {α : Type} (s : Step Note Display α) : Prop :=
  ∀ d n, (s.run d).state.reportsOf n = d.reportsOf n

theorem keepsReports_of_state {α : Type} {s : Step Note Display α} (hs : ∀ d, (s.run d).state = d) :
    KeepsReports s := by
  intro d n
  rw [hs]

theorem keepsReports_request (n : Nat) (r : WindowRequest) : KeepsReports (request n r) :=
  keepsReports_of_state fun _ => rfl

theorem keepsReports_carryOut (n : Nat) (r : WindowRequest) {f : DisplayWindow → DisplayWindow}
    (hf : ∀ w, (f w).reports = w.reports) : KeepsReports (carryOut n r f) :=
  fun d k => reportsOf_updateWindow hf d n k

theorem keepsReports_withWindow {n : Nat} {f : DisplayWindow → Step Note Display Unit}
    (hf : ∀ w, KeepsReports (f w)) : KeepsReports (withWindow n f) := by
  intro d k
  unfold withWindow
  rw [Step.run_bind, Step.run_get]
  cases d.window? n with
  | none => rfl
  | some w => exact hf w d k

theorem keepsReports_unlessSame {n : Nat} {p : DisplayWindow → Prop} [DecidablePred p]
    (r : WindowRequest) {f : DisplayWindow → DisplayWindow} (hf : ∀ w, (f w).reports = w.reports) :
    KeepsReports (withWindow n fun w => if p w then pure () else carryOut n r f) := by
  refine keepsReports_withWindow fun w => ?_
  by_cases hp : p w
  · rw [if_pos hp]
    exact keepsReports_of_state fun _ => rfl
  · rw [if_neg hp]
    exact keepsReports_carryOut n r hf

theorem keepsReports_setLimits (n : Nat) (lower upper : Option Size) :
    KeepsReports (setLimits n lower upper) :=
  keepsReports_of_state (state_setLimits n lower upper)

theorem keepsReports_showWindow (n : Nat) : KeepsReports (showWindow n) := by
  have hfocus : KeepsReports
      (withWindow n fun w => if w.focusOnShow then focus n else pure ()) := by
    refine keepsReports_withWindow fun w => ?_
    cases w.focusOnShow with
    | true => exact keepsReports_request n _
    | false => exact keepsReports_of_state fun _ => rfl
  have hshown : KeepsReports (carryOut n .showWindow fun w => { w with visible := true }) :=
    keepsReports_carryOut n .showWindow fun _ => rfl
  exact fun d k => (hfocus _ k).trans (hshown d k)

theorem keepsReports_setPosition (n : Nat) (x y : Int32) : KeepsReports (setPosition n x y) :=
  keepsReports_carryOut n (.position x y) fun _ => rfl

theorem keepsReports_restore (n : Nat) : KeepsReports (restore n) := by
  refine keepsReports_carryOut n .restore fun w => ?_
  cases w.iconified <;> rfl

theorem keepsReports_setCursorPosition (n : Nat) (p : Point) :
    KeepsReports (setCursorPosition n p) := by
  refine keepsReports_withWindow fun w => ?_
  cases w.focused with
  | false => exact keepsReports_of_state fun _ => rfl
  | true =>
    by_cases hmode : w.cursorMode = .disabled
    · simp only [hmode, if_true]
      exact fun d k =>
        reportsOf_updateWindow (f := fun w => { w with cursor := p }) (fun _ => rfl) d n k
    · simp only [hmode, if_false]
      exact keepsReports_request n _

/-- Nothing is reported yet about a new window. -/
theorem keepsReports_create (hints : CreationHints) (title : String) :
    KeepsReports (create hints title) := by
  intro d k
  unfold create
  simp only [Step.run_bind, Step.run_get]
  cases d.refusals with
  | succ refusals => rfl
  | zero =>
    show ((((d.windows ++ [(d.created + 1, DisplayWindow.ofHints hints)]).find?
      fun entry => entry.1 = k).map Prod.snd).map DisplayWindow.reports).getD [] = _
    rw [List.find?_append, reportsOf, window?]
    cases d.windows.find? fun entry => entry.1 = k with
    | some e => rfl
    | none =>
      by_cases hk : d.created + 1 = k
      · simp [hk, DisplayWindow.ofHints]
      · simp [hk]

end Display

namespace Manager

/-- A step of the manager that leaves all reports where they are. -/
def KeepsReports {α : Type} (s : Step Note Manager α) : Prop :=
  ∀ m n, (s.run m).state.display.reportsOf n = m.display.reportsOf n

theorem keepsReports_of_display {α : Type} {s : Step Note Manager α}
    (hs : ∀ m, (s.run m).state.display = m.display) : KeepsReports s := by
  intro m n
  rw [hs]

theorem keepsReports_onDisplay {α : Type} {s : Step Note Display α} (hs : Display.KeepsReports s) :
    KeepsReports (onDisplay s) :=
  fun m n => hs m.display n

theorem KeepsReports.bind {α β : Type} {s : Step Note Manager α} {f : α → Step Note Manager β}
    (hs : KeepsReports s) (hf : ∀ a, KeepsReports (f a)) : KeepsReports (s >>= f) :=
  fun m n => (hf _ _ n).trans (hs m n)

theorem keepsReports_putRecord (id : WindowId) (r : Record) : KeepsReports (putRecord id r) :=
  keepsReports_of_display fun _ => rfl

theorem keepsReports_warnUnsupported (fullscreen : Bool) (level : Option StackLevel) :
    KeepsReports (warnUnsupported fullscreen level) :=
  keepsReports_of_display fun m => by rw [state_warnUnsupported]

/-- No change of a window takes a report away. -/
theorem keepsReports_apply (id : WindowId) (r : Record) (change : WindowChange) :
    KeepsReports (apply id r change) := by
  cases change with
  | title text =>
    exact (keepsReports_onDisplay (Display.keepsReports_request _ _)).bind fun _ =>
      keepsReports_putRecord id _
  | visible isVisible =>
    cases isVisible with
    | true => exact keepsReports_onDisplay (Display.keepsReports_showWindow _)
    | false => exact keepsReports_onDisplay (Display.keepsReports_carryOut _ _ fun _ => rfl)
  | resizable isResizable =>
    exact keepsReports_onDisplay (Display.keepsReports_unlessSame _ fun _ => rfl)
  | minimized isMinimized =>
    cases isMinimized with
    | true => exact keepsReports_onDisplay (Display.keepsReports_carryOut _ _ fun _ => rfl)
    | false => exact keepsReports_onDisplay (Display.keepsReports_restore _)
  | maximized isMaximized =>
    cases isMaximized with
    | true => exact keepsReports_onDisplay (Display.keepsReports_carryOut _ _ fun _ => rfl)
    | false => exact keepsReports_onDisplay (Display.keepsReports_restore _)
  | fullscreen isFullscreen => exact keepsReports_warnUnsupported true none
  | decorated isDecorated =>
    exact keepsReports_onDisplay (Display.keepsReports_unlessSame _ fun _ => rfl)
  | level stackLevel =>
    exact (keepsReports_warnUnsupported _ _).bind fun _ =>
      keepsReports_onDisplay (Display.keepsReports_unlessSame _ fun _ => rfl)
  | innerSize size =>
    exact keepsReports_onDisplay (Display.keepsReports_carryOut _ _ fun _ => rfl)
  | minInnerSize limit | maxInnerSize limit =>
    exact (keepsReports_putRecord id _).bind fun _ =>
      keepsReports_onDisplay (Display.keepsReports_setLimits _ _ _)
  | outerPosition p =>
    exact KeepsReports.bind (s := Step.get) (keepsReports_of_display fun _ => rfl) fun _ =>
      keepsReports_onDisplay (Display.keepsReports_carryOut _ _ fun _ => rfl)
  | cursorIcon icon => exact keepsReports_onDisplay (Display.keepsReports_request _ _)
  | cursorGrab mode =>
    exact (keepsReports_putRecord id _).bind fun _ =>
      keepsReports_onDisplay (Display.keepsReports_unlessSame _ fun _ => rfl)
  | cursorVisible isVisible =>
    exact (keepsReports_putRecord id _).bind fun _ =>
      keepsReports_onDisplay (Display.keepsReports_unlessSame _ fun _ => rfl)
  | cursorPosition p => exact keepsReports_onDisplay (Display.keepsReports_setCursorPosition _ _)
  | focus => exact keepsReports_onDisplay (Display.keepsReports_request _ _)
  | _ => exact keepsReports_of_display fun _ => rfl

theorem keepsReports_update (id : WindowId) (change : WindowChange) :
    KeepsReports (update id change) := by
  intro m n
  cases hget : m.windows.get? id with
  | none => rw [run_update_of_get?_eq_none hget]
  | some r =>
    rcases run_update_of_get? hget change with ⟨e, -, hrun⟩ | ⟨-, -, hstate⟩
    · rw [hrun]
    · rw [hstate]
      split
      · rw [state_requestRedraw]
      · exact keepsReports_apply id r change m n

theorem keepsReports_create (a : WindowAttributes) : KeepsReports (create a) := by
  unfold create
  refine (keepsReports_onDisplay (Display.keepsReports_create _ _)).bind fun number => ?_
  cases number with
  | none => exact keepsReports_of_display fun _ => rfl
  | some number =>
    -- the new window is placed, limited and entered
    have henter {α : Type} {s : Step Note Manager α} (hs : KeepsReports s) : KeepsReports
        (warnUnsupported (a.fullscreen = some true) a.level >>= fun _ => s) :=
      (keepsReports_warnUnsupported _ _).bind fun _ => hs
    have hlimit {α : Type} {s : Step Note Manager α} (r : Record) (hs : KeepsReports s) :
        KeepsReports (if (a.minInnerSize.isSome || a.maxInnerSize.isSome) = true then
          sendLimits r >>= fun _ => s else s) := by
      split
      · exact (keepsReports_onDisplay (Display.keepsReports_setLimits _ _ _)).bind fun _ => hs
      · exact hs
    cases a.position with
    | none => exact hlimit _ (henter (keepsReports_of_display fun _ => rfl))
    | some p =>
      exact (keepsReports_onDisplay (Display.keepsReports_setPosition _ _ _)).bind fun _ =>
        hlimit _ (henter (keepsReports_of_display fun _ => rfl))

end Manager

/-! ## What is reported -/

/-- Something that happens past the bridge takes no report away. -/
def Outside.AddsReports : Outside → Prop
  | .display happening => ∀ d n, d.reportsOf n <+: (happening.change d).reportsOf n
  | .advance _ => True

/-- What a display does by itself: it may report things, but takes no report back. -/
structure Observation where
  outside : Outside
  addsReports : outside.AddsReports

instance : Surroundings Observation Manager where
  happen x := Surroundings.happen x.outside

/-- An input leaves what was reported of a window before. -/
theorem reports_receive (w : DisplayWindow) (input : Input) :
    (w.receive input).1.reports = w.reports := by
  cases input with
  | focus isFocused => cases isFocused <;> rfl
  | cursor x y =>
    rw [DisplayWindow.receive]
    split <;> rfl
  | button index isDown modifiers =>
    rw [DisplayWindow.receive, DisplayWindow.click]
    split <;> rfl
  | key struck scanCode isDown modifiers =>
    rw [DisplayWindow.receive, DisplayWindow.strike.eq_def]
    split
    · rfl
    · split <;> rfl
  | char character modifiers =>
    rw [DisplayWindow.receive]
    split <;> rfl
  | _ => rfl

/-- An input to a window is reported behind what was reported before. -/
theorem addsReports_input (n : Nat) (input : Input) :
    (Outside.display (.input n input)).AddsReports := by
  intro d k
  show d.reportsOf k <+: (d.receive n input).reportsOf k
  unfold Display.receive
  cases hw : d.window? n with
  | none => exact List.prefix_rfl
  | some w =>
    have hreceived : d.reportsOf k <+:
        (d.updateWindow n fun _ => (w.receive input).1).reportsOf k := by
      refine Display.reportsOf_updateWindow_prefix (fun w' hw' => ?_) k
      obtain rfl : w = w' := Option.some.inj (hw.symm.trans hw')
      rw [reports_receive]
    exact hreceived.trans
      (Display.reportsOf_updateWindow_prefix (fun _ _ => List.prefix_append _ _) k)

/-- The user does something to a window. -/
def Observation.input (n : Nat) (input : Input) : Observation :=
  ⟨.display (.input n input), addsReports_input n input⟩

/-- What was added in a moment to the reports about a window. -/
def reportedIn (n : Nat) (t : Moment Manager Nat Outside) : List StampedReport :=
  (t.after.display.reportsOf n).drop (t.before.display.reportsOf n).length

/-- What was reported about a window in a run. -/
def reported (run : List (Moment Manager Nat Outside)) (n : Nat) : List StampedReport :=
  run.flatMap (reportedIn n)

/-- What was reported since the look before, about the windows that are there. -/
def Pump.reported (p : Pump) : List (WindowId × StampedReport) :=
  p.manager.numbers.flatMap fun entry =>
    (Desktop.reported (sinceLook p.past) entry.2).map (entry.1, ·)

section Moments

variable {t : Moment Manager Nat Outside} {past : List (Moment Manager Nat Outside)} {n : Nat}

/-- Between looks, all that was reported about the windows that stay is still there. -/
theorem reportsOf_prefix (hadds : ∀ x, t.action = .outside x → x.AddsReports)
    (hpump : isPump t = false) (hdestroyed : destroyed? t = none) :
    t.before.display.reportsOf n <+: t.after.display.reportsOf n := by
  obtain ⟨m, action⟩ := t
  have hsame : (Moment.after (⟨m, action⟩ : Moment Manager Nat Outside)).display.reportsOf n =
      m.display.reportsOf n → m.display.reportsOf n <+:
        (Moment.after (⟨m, action⟩ : Moment Manager Nat Outside)).display.reportsOf n := by
    intro h
    rw [h]
  cases action with
  | create attributes => exact hsame (Manager.keepsReports_create attributes m n)
  | update id change => exact hsame (Manager.keepsReports_update id change m n)
  | destroy id =>
    refine hsame ?_
    -- only an identifier without a window leaves the display alone
    cases hget : m.windows.get? id with
    | none =>
      have hafter : Moment.after (⟨m, .destroy id⟩ : Moment Manager Nat Outside) = m :=
        Manager.run_destroy_of_get?_eq_none hget
      rw [hafter]
    | some r =>
      have hid : destroyed? ⟨m, .destroy id⟩ = some id := if_pos (SlotTable.contains_of_get? hget)
      rw [hid] at hdestroyed
      cases hdestroyed
  | poll token =>
    refine hsame ?_
    have hafter : Moment.after (⟨m, .poll token⟩ : Moment Manager Nat Outside) =
        ((Manager.poll token).run m).state := rfl
    rcases m.run_poll_cases token with ⟨-, hstate, -⟩ | ⟨hlate, m', hm', -, hstate⟩
    · rw [hafter, hstate]
    · -- the manager did not look, so something was pending
      have hpending : m.pending.isEmpty = false := by
        have hlate' : (token.filter (m.clock < ·)).isSome = false := Bool.eq_false_iff.mpr hlate
        have hlook : isPump ⟨m, .poll token⟩ =
            (!(token.filter (m.clock < ·)).isSome && m.pending.isEmpty) := rfl
        rw [hlook, hlate'] at hpump
        exact hpump
      rw [hpending] at hm'
      obtain rfl : m' = m := hm'
      rw [hafter, hstate]
      rcases m'.run_takePending with ⟨-, htaken, -⟩ | ⟨event, rest, -, -, htaken⟩
      · rw [htaken]
      · rw [htaken]
  | outside x =>
    have hx := hadds x rfl
    cases x with
    | display happening => exact hx m.display n
    | advance milliseconds => exact List.prefix_rfl
  | _ => exact hsame rfl

theorem reported_concat : reported (past ++ [t]) n = reported past n ++ reportedIn n t := by
  rw [reported, List.flatMap_append, List.flatMap_singleton, reported]

theorem reported_sinceLook (h : reported past n = []) : reported (sinceLook past) n = [] := by
  rw [reported, List.flatMap_eq_nil_iff] at h ⊢
  exact fun t ht => h t ((List.rtakeWhile_suffix _ past).subset ht)

end Moments

/-! ## What waits -/

/-- After some past, what waits to be looked at about the windows of the manager is what was
reported about them since the last look. Windows that were not made yet were not reported about. -/
structure Awaits (past : List (Moment Manager Nat Outside)) (m : Manager) : Prop where
  numbers_le : ∀ n ∈ m.display.numbers, n ≤ m.display.created
  unreported : ∀ n, m.display.created < n → reported past n = []
  waiting : ∀ id n, (id, n) ∈ m.numbers → m.display.reportsOf n = reported (sinceLook past) n

namespace Awaits

variable {past : List (Moment Manager Nat Outside)} {t : Moment Manager Nat Outside}

theorem start {display : Display} (h : display.windows = []) (pollInterval : Nat) :
    Awaits [] { display := display, pollInterval := pollInterval } where
  numbers_le := Display.isNumbered_of_windows_eq_nil h
  unreported _ _ := rfl
  waiting _ _ hn := absurd hn List.not_mem_nil

theorem numbers_le_after (h : Awaits past t.before) : t.after.display.IsNumbered :=
  isNumbered_course t.course h.numbers_le

/-- Nothing is reported about the windows that are still to come. -/
theorem unreported_concat (h : Awaits past t.before)
    (hcreated : t.before.display.created ≤ t.after.display.created) :
    ∀ n, t.after.display.created < n → reported (past ++ [t]) n = [] := by
  intro n hn
  have hnone : t.after.display.reportsOf n = [] :=
    Display.reportsOf_of_not_mem fun hmem => Nat.not_le.mpr hn (h.numbers_le_after n hmem)
  rw [reported_concat, h.unreported n (Nat.lt_of_le_of_lt hcreated hn), reportedIn, hnone,
    List.drop_nil, List.append_nil]

/-- What is reported in a moment without a look is behind what waited. -/
theorem waiting_concat (h : t.before.display.reportsOf n = reported (sinceLook past) n)
    (hpump : isPump t = false)
    (hfront : t.before.display.reportsOf n <+: t.after.display.reportsOf n) :
    t.after.display.reportsOf n = reported (sinceLook (past ++ [t])) n := by
  rw [sinceLook_concat hpump, reported_concat, ← h, reportedIn]
  exact (List.prefix_iff_eq_append.mp hfront).symm

/-- No window comes or goes, and the display is not looked at. -/
theorem quiet (h : Awaits past t.before) (hsame : t.before.SameWindows t.after)
    (hpump : isPump t = false)
    (hfront : ∀ n, t.before.display.reportsOf n <+: t.after.display.reportsOf n) :
    Awaits (past ++ [t]) t.after := by
  refine ⟨h.numbers_le_after, h.unreported_concat (Nat.le_of_eq hsame.created.symm), ?_⟩
  intro id n hn
  rw [hsame.numbers] at hn
  exact waiting_concat (h.waiting id n hn) hpump (hfront n)

/-- A window comes, about which nothing was reported. -/
theorem creates (h : Awaits past t.before) (hhoused : t.before.Housed) {r : Record}
    (hpump : isPump t = false) (hnumber : r.number = t.before.display.created + 1)
    (hwindows : t.after.windows = (t.before.windows.insert r).2)
    (hcreated : t.after.display.created = t.before.display.created + 1)
    (hfront : ∀ n, t.before.display.reportsOf n <+: t.after.display.reportsOf n) :
    Awaits (past ++ [t]) t.after := by
  refine ⟨h.numbers_le_after, h.unreported_concat (by omega), fun id n hn => ?_⟩
  obtain ⟨r', hr', rfl⟩ := Manager.mem_numbers.mp hn
  rw [hwindows] at hr'
  refine waiting_concat ?_ hpump (hfront _)
  -- the new window has a number that nothing was reported about, the others waited before
  rcases hhoused.sound.mem_insert.mp hr' with ⟨-, rfl⟩ | hold
  · have hnew : t.before.display.created < r'.number := by omega
    rw [Display.reportsOf_of_not_mem fun hmem => Nat.not_le.mpr hnew (h.numbers_le _ hmem),
      reported_sinceLook (h.unreported _ hnew)]
  · exact h.waiting id _ (Manager.mem_numbers.mpr ⟨r', hold, rfl⟩)

/-- A window goes, and what was reported about it with it. The others stay. -/
theorem destroys (h : Awaits past t.before) (hfit : t.before.windows.Fits)
    (hafter : t.after.Housed) {id : WindowId} {r : Record} (hpump : isPump t = false)
    (hget : t.before.windows.get? id = some r)
    (hwindows : t.after.windows = t.before.windows.remove id)
    (hdisplay : t.after.display = ((Display.destroy r.number).run t.before.display).state) :
    Awaits (past ++ [t]) t.after := by
  obtain ⟨hnumbers, hcreated⟩ := t.before.display.numbers_destroy r.number
  rw [← hdisplay] at hnumbers hcreated
  refine ⟨h.numbers_le_after, h.unreported_concat (Nat.le_of_eq hcreated.symm),
    fun other n hn => ?_⟩
  -- the windows that stay are still shown, the one that went is not
  have hother : n ≠ r.number := by
    have hshown := hafter.shown other n hn
    rw [hnumbers, List.mem_filter] at hshown
    exact of_decide_eq_true hshown.2
  obtain ⟨r', hr', rfl⟩ := Manager.mem_numbers.mp hn
  rw [hwindows, hfit.mem_remove hget] at hr'
  refine waiting_concat (h.waiting other _ (Manager.mem_numbers.mpr ⟨r', hr'.2, rfl⟩)) hpump ?_
  rw [hdisplay, Display.reportsOf_destroy hother]

/-- A look takes everything. -/
theorem looks (h : Awaits past t.before) (frame : List Told) (hpump : isPump t = true)
    (hnumbers : t.after.numbers = t.before.numbers)
    (hdisplay : t.after.display = (t.before.looked frame).display) :
    Awaits (past ++ [t]) t.after := by
  have hcreated : t.after.display.created = t.before.display.created := by
    rw [hdisplay]
    rfl
  refine ⟨h.numbers_le_after, h.unreported_concat (Nat.le_of_eq hcreated.symm), fun id n hn => ?_⟩
  have hnothing : reported (sinceLook (past ++ [t])) n = [] := by
    rw [sinceLook, List.rtakeWhile_concat, hpump]
    rfl
  rw [hnumbers] at hn
  obtain ⟨r, hr, rfl⟩ := Manager.mem_numbers.mp hn
  have htaken := List.flatMap_eq_nil_iff.mp (reports_looked t.before frame) (id, r) hr
  rw [hnothing, hdisplay]
  exact List.map_eq_nil_iff.mp htaken

/-- What waits is what was reported, whatever an action does. -/
theorem step (h : Awaits past t.before) (hhoused : t.before.Housed)
    (hfit : t.before.windows.Fits) (hafter : t.after.Housed)
    (hadds : ∀ x, t.action = .outside x → x.AddsReports) : Awaits (past ++ [t]) t.after := by
  cases effect past t with
  | adjusts hmarks hadjusts =>
    have hpump : isPump t = false := congrArg Marks.looked hmarks
    exact h.quiet hadjusts.toSameWindows hpump fun n =>
      reportsOf_prefix hadds hpump (congrArg Marks.destroyed hmarks)
  | creates r hmarks hnumber hwindows _ hcreated _ _ _ =>
    have hpump : isPump t = false := congrArg Marks.looked hmarks
    exact h.creates hhoused hpump hnumber hwindows hcreated fun n =>
      reportsOf_prefix hadds hpump (congrArg Marks.destroyed hmarks)
  | asks id r hmarks _ hstate =>
    have hpump : isPump t = false := congrArg Marks.looked hmarks
    refine h.quiet ?_ hpump fun n => reportsOf_prefix hadds hpump (congrArg Marks.destroyed hmarks)
    rw [hstate]
    exact ⟨rfl, fun hs => hs, rfl, rfl, rfl⟩
  | destroys id r hmarks hget hstate =>
    exact h.destroys hfit hafter (congrArg Marks.looked hmarks) hget (by rw [hstate])
      (by rw [hstate])
  | takes event rest hmarks _ hstate =>
    have hpump : isPump t = false := congrArg Marks.looked hmarks
    refine h.quiet ?_ hpump fun n => reportsOf_prefix hadds hpump (congrArg Marks.destroyed hmarks)
    rw [hstate]
    exact ⟨rfl, fun hs => hs, rfl, rfl, rfl⟩
  | looks frame _ _ hmarks hstate =>
    exact h.looks frame (congrArg Marks.looked hmarks) (by rw [hstate]; rfl)
      (by rw [hstate])

/-- A look finds what was reported. -/
theorem reports_eq {p : Pump} (h : Awaits p.past p.manager) : p.manager.reports = p.reported := by
  rw [Manager.reports, Pump.reported, Manager.numbers, List.flatMap_map]
  refine List.flatMap_congr fun entry hr => ?_
  obtain ⟨id, r⟩ := entry
  have hwaiting := h.waiting id r.number (Manager.mem_numbers.mpr ⟨r, hr, rfl⟩)
  show (p.manager.display.reportsOf r.number).map _ = _
  rw [hwaiting]

end Awaits

/-! ## Every history -/

/-- What is known of a manager after some past: as long as few windows were created and what
happened at the display only added reports, the past is remembered and the reports since the last
look wait. -/
def FollowsReports (past : List (Moment Manager Nat Outside)) (m : Manager) : Prop :=
  (minted past).length < 2147483648 →
    (∀ t ∈ past, ∀ x, t.action = .outside x → x.AddsReports) →
    Remembers past m ∧ Awaits past m

theorem FollowsReports.start {display : Display} (h : display.windows = []) (pollInterval : Nat) :
    FollowsReports [] { display := display, pollInterval := pollInterval } :=
  fun _ _ => ⟨Remembers.start display pollInterval, Awaits.start h pollInterval⟩

/-- What is known stays known, whatever an action does. -/
theorem FollowsReports.step {past : List (Moment Manager Nat Outside)} {m : Manager}
    (h : FollowsReports past m) (a : ManagerAction Nat Outside) :
    FollowsReports (past ++ [⟨m, a⟩]) (Moment.after ⟨m, a⟩) := by
  intro hnow hadds
  have hbefore : (minted past).length < 2147483648 := by
    rw [minted_concat, List.length_append] at hnow
    omega
  obtain ⟨hremembers, hawaits⟩ := h hbefore fun t ht => hadds t (List.mem_append_left _ ht)
  have hafter := hremembers.step a hnow
  -- the slots have numbers of their own, so only the window that is destroyed goes
  have hfit : m.windows.Fits := hremembers.within.fits (by simp only [UInt32.size]; omega)
  exact ⟨hafter, Awaits.step (t := ⟨m, a⟩) hawaits hremembers.housed hfit hafter.housed
    (hadds ⟨m, a⟩ (List.mem_append_right _ (List.mem_singleton_self _)))⟩

/-- In every run, each look finds what was reported since the look before about the windows that are
there. -/
theorem reports_eq_of_mem_pumps {display : Display} (hempty : display.windows = [])
    (pollInterval : Nat) (actions : List (ManagerAction Nat Outside))
    (hadds : ∀ x, .outside x ∈ actions → x.AddsReports) :
    let start : Manager := { display := display, pollInterval := pollInterval }
    let run := moments start actions
    (minted run).length < 2147483648 →
      ∀ p ∈ pumps run, (minted p.past).length < 2147483648 ∧ Remembers p.past p.manager ∧
        p.manager.reports = p.reported := by
  intro start run hfew p hp
  have hfront : p.past <+: run := past_isPrefix hp
  have hbefore : (minted p.past).length < 2147483648 :=
    Nat.lt_of_le_of_lt (hfront.filterMap _).length_le hfew
  have hall : ∀ t ∈ p.past, ∀ x, t.action = .outside x → x.AddsReports := by
    intro t ht x hx
    exact hadds x (hx ▸ action_mem_of_mem_moments (hfront.subset ht))
  obtain ⟨hremembers, hawaits⟩ := forall_pumps (P := FollowsReports)
    (fun _ _ a h => h.step a) (.start hempty pollInterval) actions p hp hbefore hall
  exact ⟨hbefore, hremembers, hawaits.reports_eq⟩

/-- In every history of a bridge over a display that has no windows of its own, whatever is done and
reported when: the window manager goes through the run of what the history asks of it, in which the
display does what it did in the history and the calls are those of the bridge, with their answers.
The events handed out and those still pending are frames, one for each look at the display in this
run. The frame of a look tells, each once and by time, what the reports say that were made since the
look before about the windows that are there; nothing else is told of windows but that they are to
be redrawn. A window that was destroyed before is named in no frame, whatever was reported about it.
All this is as long as fewer windows are created than a slot has odd versions. -/
theorem reports_told_at_next_look {G S : Type} [GraphicsBackend G S] (graphics : G)
    (settings : Settings) (display : Display) (pollInterval : Nat)
    (actions : List (WindowSystem.Action Observation)) :
    let start : Manager := { display := display, pollInterval := pollInterval }
    let past : Outcome Entry (Session Manager G S Nat) (List (Answer S)) :=
      Session.history start graphics settings actions
    let calls := Entry.calls past.journal
    let done := Session.askedIn Observation.outside start graphics settings actions
    let run := moments start done
    display.windows = [] → (mintedIds calls).length < 2147483648 →
      done.filterMap ManagerAction.outside? =
          (actions.filterMap WindowSystem.Action.outside?).map Observation.outside ∧
        callsOf run = managerCalls calls ∧
        stateAfter start done = past.state.1.events.manager ∧
        ∃ frames : List (List Told),
          List.Forall₂ (fun p frame => ∃ batch, Accounts p batch frame ∧
            InTimeOrder (tellAll p.manager.modifiers p.reported) batch) (pumps run) frames ∧
          calls.filterMap Call.event? ++ past.state.1.events.manager.pending =
            frames.flatten.map Told.event := by
  intro start past calls done run hempty hfew
  have htell : ∀ x : Observation, (Surroundings.happen x.outside : Step Note Manager Unit) =
      Surroundings.happen x := fun _ => rfl
  obtain ⟨hcalls, hstate⟩ := Session.run_askedIn htell start graphics settings actions
  have houtside : done.filterMap ManagerAction.outside? = _ :=
    Session.outside_askedIn Observation.outside start graphics settings actions
  have hadds : ∀ x, .outside x ∈ done → x.AddsReports := by
    intro x hx
    have hmem : x ∈ done.filterMap ManagerAction.outside? :=
      List.mem_filterMap.mpr ⟨.outside x, hx, rfl⟩
    rw [houtside] at hmem
    obtain ⟨observation, -, rfl⟩ := List.mem_map.mp hmem
    exact observation.addsReports
  have hminted : minted run = mintedIds calls := by
    rw [← mintedIds_callsOf, hcalls, mintedIds_managerCalls]
  have hdelivered : delivered run = calls.filterMap Call.event? := by
    rw [← filterMap_event?_managerCalls, ← hcalls, callsOf, List.filterMap_filterMap]
    rfl
  have hpumps := reports_eq_of_mem_pumps hempty pollInterval done hadds (by rwa [hminted])
  obtain ⟨frames, hframes, hframed⟩ := delivered_append_pending [] start done
  refine ⟨houtside, hcalls, hstate, frames, ?_, ?_⟩
  · refine ((List.forall₂_and_left _ _).mpr ⟨hpumps, hframes⟩).imp ?_
    rintro p frame ⟨⟨hbefore, hremembers, hreports⟩, hframe⟩
    obtain ⟨batch, haccounts⟩ := hremembers.accounts hbefore hframe
    refine ⟨batch, haccounts, ?_⟩
    rw [← hreports]
    exact haccounts.ordered
  · rw [← hdelivered, ← hstate]
    exact hframed

/-- A window is to be closed and is there when a script looks for events. -/
theorem close_told_at_next_look :
    let start : Manager := { display := {}, pollInterval := 4 }
    let close := Observation.input 1 .close
    let actions : List (WindowSystem.Action Observation) :=
      [.create {}, .outside close, .come "script", .poll "script", .destroy 0]
    let past : Outcome Entry (Session Manager Offscreen.Graphics Offscreen.Surface Nat) _ :=
      Session.history start {} {} actions
    let calls := Entry.calls past.journal
    let done := Session.askedIn Observation.outside start ({} : Offscreen.Graphics) {} actions
    (mintedIds calls).length < 2147483648 ∧
      done.filterMap ManagerAction.outside? = [close.outside] ∧
      ∃ frames : List (List Told),
        List.Forall₂ (fun p frame => ∃ batch, Accounts p batch frame ∧
          InTimeOrder (tellAll p.manager.modifiers p.reported) batch) (pumps (moments start done))
          frames ∧
        frames.flatten.map Told.event =
          [.lifecycle .newEvents, .window ⟨4294967297⟩ .closeRequested,
           .lifecycle .mainEventsCleared, .lifecycle .redrawEventsCleared] := by
  intro start close actions past calls done
  have hfew : (mintedIds calls).length < 2147483648 := by decide +kernel
  obtain ⟨houtside, -, -, frames, hframes, hevents⟩ :=
    reports_told_at_next_look ({} : Offscreen.Graphics) {} {} 4 actions rfl hfew
  refine ⟨hfew, houtside, frames, hframes, ?_⟩
  rw [← hevents]
  decide +kernel

/-- A window is to be closed and is destroyed before a script looks for events. The look finds
nothing, and nothing is pending. -/
theorem report_lost_with_window :
    let start : Manager := { display := {}, pollInterval := 4 }
    let first : List (WindowSystem.Action Observation) :=
      [.create {}, .outside (Observation.input 1 .close)]
    let before : Outcome Entry (Session Manager Offscreen.Graphics Offscreen.Surface Nat) _ :=
      Session.history start {} {} first
    let after : Outcome Entry (Session Manager Offscreen.Graphics Offscreen.Surface Nat) _ :=
      Session.history start {} {} (first ++ [.destroy 0, .come "script", .poll "script"])
    (before.state.1.events.manager.reports.map fun entry =>
        (entry.1, entry.2.report.windowEvents)) = [(⟨4294967297⟩, [.closeRequested])] ∧
      ((Entry.calls after.journal).filterMap fun
        | .poll seen => some seen.isSome
        | _ => none) = [false] ∧
      after.state.1.events.manager.reports = [] ∧
      (Entry.calls after.journal).filterMap Call.event? ++ after.state.1.events.manager.pending =
        [] := by
  decide +kernel

end WindowSystem.Desktop
