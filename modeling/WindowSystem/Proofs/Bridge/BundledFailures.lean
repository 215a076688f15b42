/-
# Failures over the bundled window managers

The offscreen window manager is untouched by a call that it refuses. So is the desktop window
manager; only its display counts down the windows that it is still to refuse, and the request for
such a window is all that it is told. Hence over both, and with every graphics backend, an operation
that fails leaves everything as it was but for a drawable that could not be wrapped
(`failures_leave_no_trace`).
-/
import WindowSystem.Offscreen.Graphics
import WindowSystem.Proofs.Bridge.Failures
import WindowSystem.Proofs.Desktop.Windows
import WindowSystem.Proofs.Offscreen.Identifiers

namespace WindowSystem

/-- Looking for an event does not fail if no look is recorded as a failure. -/
theorem Poll.ne_error_of_failure? {W : Type} {p : Poll W (Except BackendError RawEvent)}
    (h : (Call.poll p.answer?).failure? = none) (e : BackendError) : p ≠ .ready (.error e) := by
  rintro rfl
  cases h

theorem failsBy_untouched {N α : Type} {s : Step Note N (Except BackendError α)}
    (h : ∀ n e, (s.run n).answer = .error e → s.run n = ⟨.error e, n, []⟩) :
    FailsBy Untouched s := by
  intro n e he
  rw [h n e he]
  exact .intro

/-! ## The offscreen window manager -/

namespace Offscreen

/-- The drawable of a window that is there is marked as handed out. -/
def Manager.Issues (id : WindowId) (m m' : Manager) : Prop :=
  ∃ w, m.windows.get? id = some w ∧ w.drawableIssued = false ∧
    m' = { m with windows := m.windows.set id { w with drawableIssued := true } }

namespace Manager

variable {m : Manager} {e : BackendError}

theorem run_create_error {attributes : WindowAttributes}
    (he : ((create attributes).run m).answer = .error e) :
    (create attributes).run m = ⟨.error e, m, []⟩ := by
  unfold create at he ⊢
  rw [Step.run_bind, Step.run_get] at he ⊢
  cases hlimit : m.limit.filter (· ≤ m.windows.size) with
  | some limit =>
    simp only [hlimit] at he ⊢
    cases he
    rfl
  | none =>
    simp only [hlimit] at he
    cases he

theorem run_drawable_error {id : WindowId} (he : ((drawable id).run m).answer = .error e) :
    (drawable id).run m = ⟨.error e, m, []⟩ := by
  unfold drawable at he ⊢
  rw [Step.run_bind, Step.run_get] at he ⊢
  cases hget : m.windows.get? id with
  | none =>
    simp only [hget] at he ⊢
    cases he
    rfl
  | some w =>
    cases hissued : w.drawableIssued with
    | false =>
      simp only [hget, hissued, Bool.false_eq_true, if_false] at he
      cases he
    | true =>
      simp only [hget, hissued, if_true] at he ⊢
      cases he
      rfl

theorem run_drawable_ok {id : WindowId} {drawn : Drawable}
    (hanswer : ((drawable id).run m).answer = .ok drawn) :
    ((drawable id).run m).journal = [] ∧ Issues id m ((drawable id).run m).state := by
  cases hget : m.windows.get? id with
  | none =>
    unfold drawable at hanswer
    rw [Step.run_bind, Step.run_get] at hanswer
    simp only [hget] at hanswer
    cases hanswer
  | some w =>
    cases hissued : w.drawableIssued with
    | true =>
      unfold drawable at hanswer
      rw [Step.run_bind, Step.run_get] at hanswer
      simp only [hget, hissued, if_true] at hanswer
      cases hanswer
    | false =>
      rw [m.run_drawable_of_get? hget hissued]
      exact ⟨rfl, w, hget, hissued, rfl⟩

theorem run_update_error {id : WindowId} {change : WindowChange}
    (he : ((update id change).run m).answer = .error e) :
    (update id change).run m = ⟨.error e, m, []⟩ := by
  cases hget : m.windows.get? id with
  | none =>
    rw [m.run_update_of_get?_eq_none hget] at he ⊢
    cases he
    rfl
  | some w =>
    rw [(m.run_update_of_get? hget change).1] at he
    cases he

end Manager

theorem sparing : Sparing Untouched Manager.Issues where
  create _ := failsBy_untouched fun _ _ he => Manager.run_create_error he
  drawable _ := failsBy_untouched fun _ _ he => Manager.run_drawable_error he
  update _ _ := failsBy_untouched fun _ _ he => Manager.run_update_error he
  query _ _ _ _ _ := .intro
  poll token m e := Poll.ne_error_of_failure? (m.failure_poll token) e
  issue _ _ _ hanswer := Manager.run_drawable_ok hanswer

end Offscreen

/-! ## The desktop window manager -/

namespace Desktop

/-- What happens in a call that the desktop window manager refuses. -/
inductive Manager.Refuses (m : Manager) : List Note → Manager → Prop where
  /-- The display was not told of it. -/
  | untold : Refuses m [] m
  /-- The display refused to make a window, as it was to. -/
  | unmade (number : Nat) (hints : CreationHints) (title : String) {refusals : Nat}
      (h : m.display.refusals = refusals + 1) :
      Refuses m [.display ⟨number, .create hints title⟩]
        { m with display := { m.display with refusals := refusals } }

/-- Nothing changes when a drawable is handed out. -/
def Manager.Issues (_id : WindowId) (m m' : Manager) : Prop := m' = m

namespace Manager

variable {m : Manager} {e : BackendError}

/-- Creating a window fails when the display refuses to make one, before anything is entered. -/
theorem refuses_create {a : WindowAttributes} (he : ((create a).run m).answer = .error e) :
    Refuses m ((create a).run m).journal ((create a).run m).state := by
  have hrun : (onDisplay (Display.create (hints a) (a.title.getD "Window"))).run m =
      ⟨((Display.create (hints a) (a.title.getD "Window")).run m.display).answer,
       { m with display := ((Display.create (hints a) (a.title.getD "Window")).run m.display).state },
       ((Display.create (hints a) (a.title.getD "Window")).run m.display).journal⟩ := rfl
  unfold create at he ⊢
  rw [Step.run_bind, hrun] at he ⊢
  cases hrefusals : m.display.refusals with
  | zero =>
    have hmade : ((Display.create (hints a) (a.title.getD "Window")).run m.display).answer =
        some (m.display.created + 1) := by
      unfold Display.create
      simp only [Step.run_bind, Step.run_get, hrefusals, Step.run_pure]
    simp only [hmade] at he
    -- the window is placed and limited before it is entered, and neither can fail
    cases hposition : a.position with
    | none =>
      by_cases hlimits : (a.minInnerSize.isSome || a.maxInnerSize.isSome) = true
      · simp only [hposition, hlimits, if_true] at he
        cases he
      · simp only [hposition, hlimits] at he
        cases he
    | some p =>
      by_cases hlimits : (a.minInnerSize.isSome || a.maxInnerSize.isSome) = true
      · simp only [hposition, hlimits, if_true] at he
        cases he
      · simp only [hposition, hlimits] at he
        cases he
  | succ refusals =>
    have hunmade : (Display.create (hints a) (a.title.getD "Window")).run m.display =
        ⟨none, { m.display with refusals := refusals },
         [.display ⟨m.display.created + 1, .create (hints a) (a.title.getD "Window")⟩]⟩ := by
      unfold Display.create
      simp only [Step.run_bind, Step.run_get, hrefusals, Step.run_modify, Step.run_pure]
      rfl
    rw [hunmade]
    exact .unmade _ _ _ hrefusals

theorem run_update_error {id : WindowId} {change : WindowChange}
    (he : ((update id change).run m).answer = .error e) :
    (update id change).run m = ⟨.error e, m, []⟩ := by
  cases hget : m.windows.get? id with
  | none =>
    rw [run_update_of_get?_eq_none hget] at he ⊢
    cases he
    rfl
  | some r =>
    rcases run_update_of_get? hget change with ⟨e', -, hrun⟩ | ⟨-, hok, -⟩
    · rw [hrun] at he ⊢
      cases he
      rfl
    · rw [hok] at he
      cases he

end Manager

theorem sparing : Sparing Manager.Refuses Manager.Issues where
  create _ _ _ he := Manager.refuses_create he
  drawable _ _ _ _ := .untold
  update id change m e he := by
    have hrun : (WindowManager.update id change).run m = ⟨.error e, m, []⟩ :=
      Manager.run_update_error he
    rw [hrun]
    exact .untold
  query _ _ _ _ _ := .untold
  poll deadline m e := Poll.ne_error_of_failure? (m.failure_poll deadline) e
  issue _ _ _ _ := ⟨rfl, rfl⟩

end Desktop

/-! ## Bridges over them -/

/-- Whatever the state of a bridge over the offscreen or the desktop window manager, whatever the
graphics backend and whatever the action: if the answer is a failure, then the registry with its
handles, the mark that someone waits, the graphics backend and the window manager are as they were,
and the display was told nothing; except that a display that refuses to make a window was asked to.
Only a surface that the graphics backend refused leaves more behind: what the backend made of it, and
the drawable, which stays on the handle and is marked as handed out. -/
theorem failures_leave_no_trace :
    (∀ (G S : Type) [GraphicsBackend G S]
        (session : Session Offscreen.Manager G S Offscreen.Waiter) (a : Action Offscreen.Outside)
        (e : BridgeError),
      let done := (Session.perform a).run session
      done.answer.error? = some e →
        Undone Untouched Offscreen.Manager.Issues session.1 a e
          (Entry.notesBy .manager done.journal) done.state.1) ∧
    ∀ (G S : Type) [GraphicsBackend G S] (session : Session Desktop.Manager G S Nat)
        (a : Action Desktop.Outside) (e : BridgeError),
      let done := (Session.perform a).run session
      done.answer.error? = some e →
        Undone Desktop.Manager.Refuses Desktop.Manager.Issues session.1 a e
          (Entry.notesBy .manager done.journal) done.state.1 :=
  ⟨fun _ _ _ session a _ he => Session.undone_perform Offscreen.sparing session a he,
    fun _ _ _ session a _ he => Session.undone_perform Desktop.sparing session a he⟩

/-- A window beyond the limit is not created. Offscreen graphics make no surface of a drawable of a
display, which stays on the handle. -/
theorem refused_window_and_surface :
    (let session : Session Offscreen.Manager Offscreen.Graphics Offscreen.Surface
        Offscreen.Waiter :=
      (Session.history { limit := some 0 } {} {} ([] : List (Action Offscreen.Outside))).state
    let a : Action Offscreen.Outside := .create {}
    let done := (Session.perform a).run session
    let e : BridgeError := .backend (.windowCreation "window limit of 0 reached")
    done.answer.error? = some e ∧
      Undone Untouched Offscreen.Manager.Issues session.1 a e
        (Entry.notesBy .manager done.journal) done.state.1) ∧
    let session : Session Desktop.Manager Offscreen.Graphics Offscreen.Surface Nat :=
      (Session.history { display := {}, pollInterval := 4 } {} {}
        [(.create {} : Action Desktop.Outside)]).state
    let a : Action Desktop.Outside := .gpuSurface 0
    let done := (Session.perform a).run session
    let e : BridgeError :=
      .backend (.surfaceCreation "headless graphics can only wrap headless drawables")
    done.answer.error? = some e ∧
      Undone Desktop.Manager.Refuses Desktop.Manager.Issues session.1 a e
        (Entry.notesBy .manager done.journal) done.state.1 ∧
      (done.state.1.registry.handle 0).drawable? = some (.platform .xlib 1 4096) := by
  have hfull : ((Session.perform (.create {} : Action Offscreen.Outside)).run
      ((Session.history { limit := some 0 } {} {} ([] : List (Action Offscreen.Outside))).state :
        Session Offscreen.Manager Offscreen.Graphics Offscreen.Surface Offscreen.Waiter)
      ).answer.error? = some (.backend (.windowCreation "window limit of 0 reached")) := by
    decide +kernel
  have hunwrapped : ((Session.perform (.gpuSurface 0 : Action Desktop.Outside)).run
      ((Session.history { display := {}, pollInterval := 4 } {} {}
        [(.create {} : Action Desktop.Outside)]).state :
        Session Desktop.Manager Offscreen.Graphics Offscreen.Surface Nat)).answer.error? =
      some (.backend
        (.surfaceCreation "headless graphics can only wrap headless drawables")) := by
    decide +kernel
  exact ⟨⟨hfull, failures_leave_no_trace.1 _ _ _ _ _ hfull⟩,
    hunwrapped, failures_leave_no_trace.2 _ _ _ _ _ hunwrapped, by decide +kernel⟩

end WindowSystem
