/-
# Destroyed handles

Every operation that takes a window looks at the handle first. So for a destroyed handle it fails
at once: it is refused under its own name, nothing is asked of a backend, and nothing changes
(`Session.run_perform_destroyed`). A handle is destroyed with its window, or when the identifier of
its window is handed out again, and then it stays so whatever comes later
(`Session.destroyed_handles_fail_fast`).
-/
import WindowSystem.Bridge.Record
import WindowSystem.Offscreen.Graphics
import WindowSystem.Proofs.Bridge.Failures
import WindowSystem.Proofs.Bridge.Handles
import WindowSystem.Scripted.Graphics
import WindowSystem.Scripted.Manager

namespace WindowSystem

/-- The handle that an action is about, with the name that scripts know the operation by. The names
are listed here once more, apart from those that the bridge refuses under. -/
def Action.use? {X : Type} : Action X → Option (HandleRef × String)
  | .destroy h => some (h, "destroy")
  | .gpuSurface h => some (h, "getGPUSurface")
  | .query h .scaleFactor => some (h, "scaleFactor")
  | .query h .innerPosition => some (h, "innerPosition")
  | .query h .outerPosition => some (h, "outerPosition")
  | .query h .innerSize => some (h, "innerSize")
  | .query h .outerSize => some (h, "outerSize")
  | .query h .title => some (h, "title")
  | .query h .isVisible => some (h, "isVisible")
  | .query h .isResizable => some (h, "isResizable")
  | .query h .isMinimized => some (h, "isMinimized")
  | .query h .isMaximized => some (h, "isMaximized")
  | .query h .isFullscreen => some (h, "isFullscreen")
  | .query h .isDecorated => some (h, "isDecorated")
  | .change h (.title _) => some (h, "setTitle")
  | .change h (.visible _) => some (h, "setVisible")
  | .change h (.resizable _) => some (h, "setResizable")
  | .change h (.minimized _) => some (h, "setMinimized")
  | .change h (.maximized _) => some (h, "setMaximized")
  | .change h (.fullscreen _) => some (h, "setFullscreen")
  | .change h (.decorated _) => some (h, "setDecorated")
  | .change h (.level _) => some (h, "setWindowLevel")
  | .change h (.theme _) => some (h, "setTheme")
  | .change h (.innerSize _) => some (h, "setInnerSize")
  | .change h (.minInnerSize _) => some (h, "setMinInnerSize")
  | .change h (.maxInnerSize _) => some (h, "setMaxInnerSize")
  | .change h (.outerPosition _) => some (h, "setOuterPosition")
  | .change h (.resizeIncrements _) => some (h, "setResizeIncrements")
  | .change h (.contentProtected _) => some (h, "setContentProtected")
  | .change h (.enabledButtons _) => some (h, "setEnabledButtons")
  | .change h (.cursorIcon _) => some (h, "setCursorIcon")
  | .change h (.cursorGrab _) => some (h, "setCursorGrab")
  | .change h (.cursorVisible _) => some (h, "setCursorVisible")
  | .change h (.cursorPosition _) => some (h, "setCursorPosition")
  | .change h (.imeAllowed _) => some (h, "setImeAllowed")
  | .change h .focus => some (h, "focusWindow")
  | .change h .requestRedraw => some (h, "requestRedraw")
  | .setAlwaysOnTop h _ => some (h, "setAlwaysOnTop")
  | .create _ | .resolve _ | .windowCount | .windows | .setDeviceFilter _ | .come _ | .poll _
  | .leave _ | .outside _ => none

namespace Action

variable {X : Type}

/-- A query goes by the name that scripts know it by. -/
theorem use?_query (h : HandleRef) (q : Query) :
    (query h q : Action X).use? = some (h, q.operation) := by
  cases q <;> rfl

/-- So does a change. -/
theorem use?_change (h : HandleRef) (c : WindowChange) :
    (change h c : Action X).use? = some (h, c.operation) := by
  cases c <;> rfl

end Action

/-! ## Identifiers handed out again -/

/-- An identifier is not handed out after its last place. -/
theorem le_of_latest? {ids : List WindowId} {id : WindowId} {h other : HandleRef}
    (hh : latest? ids id = some h) (hother : ids[other]? = some id) : other ≤ h := by
  obtain ⟨front, hfront⟩ := List.getLast?_eq_some_iff.mp hh
  have hplaces : ((List.range ids.length).filter fun h => ids[h]? = some id).Pairwise (· < ·) :=
    List.pairwise_lt_range.filter _
  have hmem : other ∈ (List.range ids.length).filter fun h => ids[h]? = some id := by
    obtain ⟨hlt, -⟩ := List.getElem?_eq_some_iff.mp hother
    exact List.mem_filter.mpr ⟨List.mem_range.mpr hlt, by simpa using hother⟩
  rw [hfront] at hplaces hmem
  rcases List.mem_append.mp hmem with hbefore | hlast
  · exact Nat.le_of_lt ((List.pairwise_append.mp hplaces).2.2 other hbefore h (by simp))
  · exact Nat.le_of_eq (List.mem_singleton.mp hlast)

/-- A handle is destroyed once the identifier that it was made for is handed out again. -/
theorem Registry.Minted.handle_destroyed_of_again {S : Type} {r : Registry S} {ids : List WindowId}
    (hr : r.Minted ids) {h other : HandleRef} (hlt : h < other) (hagain : ids[other]? = ids[h]?) :
    r.handle h = .destroyed := by
  rcases hh : r.handle h with ⟨id, drawable, surface⟩ | _
  · -- a live handle is the last one of its identifier
    have hlatest := hr.latest_of_id? h id (congrArg Handle.id? hh)
    have hplace : ids[other]? = some id := hagain.trans (getElem?_of_latest? hlatest)
    exact absurd (le_of_latest? hlatest hplace) (Nat.not_le.mpr hlt)
  · rfl

/-! ## Operations -/

namespace Bridge

variable {N W G S α : Type} [WindowManager N W] {b : Bridge N G S} {h : HandleRef}

omit [WindowManager N W] in
/-- An operation that asks for a live handle goes no further with a destroyed one. -/
theorem run_of_handle_destroyed (hd : b.registry.handle h = .destroyed) (operation : String)
    (f : WindowId → Step Entry (Bridge N G S) (Except BridgeError α))
    {s : Step Entry (Bridge N G S) (Except BridgeError α)}
    (hs : s = (do
      match (← handle h).liveId operation with
      | .error e => pure (.error e)
      | .ok id => f id)) :
    s.run b = ⟨.error (.invalidHandle operation 1), b, []⟩ := by
  have hid : (b.registry.handle h).liveId operation = .error (.invalidHandle operation 1) := by
    rw [hd]
    rfl
  rw [hs, Step.run_bind, run_handle]
  simp only [hid, Step.run_pure, List.append_nil]

variable [GraphicsBackend G S]

theorem run_destroyWindow_destroyed (hd : b.registry.handle h = .destroyed) :
    (destroyWindow h).run b = ⟨.error (.invalidHandle "destroy" 1), b, []⟩ :=
  run_of_handle_destroyed hd "destroy" _ rfl

/-- The surface is looked for on the handle, which has to be live for that. -/
theorem run_gpuSurface_destroyed (hd : b.registry.handle h = .destroyed) :
    (gpuSurface h).run b = ⟨.error (.invalidHandle "getGPUSurface" 1), b, []⟩ := by
  unfold gpuSurface
  rw [Step.run_bind, run_handle, hd]
  rfl

omit [GraphicsBackend G S] in
theorem run_query_destroyed (hd : b.registry.handle h = .destroyed) (q : Query) :
    (query h q).run b = ⟨.error (.invalidHandle q.operation 1), b, []⟩ :=
  run_of_handle_destroyed hd q.operation _ rfl

omit [GraphicsBackend G S] in
theorem run_changeBy_destroyed (hd : b.registry.handle h = .destroyed) (operation : String)
    (change : WindowChange) :
    (changeBy operation h change).run b = ⟨.error (.invalidHandle operation 1), b, []⟩ :=
  run_of_handle_destroyed hd operation _ rfl

end Bridge

/-! ## Sessions -/

namespace Session

variable {N W G S X : Type} [WindowManager N W] [GraphicsBackend G S] [Surroundings X N]
  {session : Session N G S W} {h : HandleRef}

omit [WindowManager N W] [GraphicsBackend G S] in
/-- What an operation refuses on the bridge is refused in a session. -/
theorem run_onBridge_refused {α : Type} {s : Step Entry (Bridge N G S) (Except BridgeError α)}
    {e : BridgeError} (hs : s.run session.1 = ⟨.error e, session.1, []⟩)
    (answer : Except BridgeError α → Answer S) :
    (onBridge s answer : Step Entry (Session N G S W) _).run session =
      ⟨answer (.error e), session, []⟩ := by
  have hrun : (onBridge s answer : Step Entry (Session N G S W) _).run session =
      ⟨answer (s.run session.1).answer, ((s.run session.1).state, session.2),
       (s.run session.1).journal ++ []⟩ := rfl
  rw [hrun, hs]
  rfl

/-- Every use of a destroyed handle is refused under the name of the operation. It asks nothing of
the window manager or of the graphics backend, writes nothing and leaves the session as it is. -/
theorem run_perform_destroyed (hd : session.1.registry.handle h = .destroyed) {a : Action X}
    {operation : String} (ha : a.use? = some (h, operation)) :
    ∃ answer : Answer S, (perform a).run session = ⟨answer, session, []⟩ ∧
      answer.error? = some (.invalidHandle operation 1) := by
  cases a with
  | destroy other =>
    cases ha
    exact ⟨_, run_onBridge_refused (Bridge.run_destroyWindow_destroyed hd) .done, rfl⟩
  | gpuSurface other =>
    cases ha
    exact ⟨_, run_onBridge_refused (Bridge.run_gpuSurface_destroyed hd) .bound, rfl⟩
  | query other q =>
    rw [Action.use?_query] at ha
    cases ha
    exact ⟨_, run_onBridge_refused (Bridge.run_query_destroyed hd q) (.told q), rfl⟩
  | change other change =>
    rw [Action.use?_change] at ha
    cases ha
    exact ⟨_, run_onBridge_refused (Bridge.run_changeBy_destroyed hd _ change) .done, rfl⟩
  | setAlwaysOnTop other onTop =>
    cases ha
    exact ⟨_, run_onBridge_refused (Bridge.run_changeBy_destroyed hd _ _) .done, rfl⟩
  | _ => cases ha

/-- All that a script can still learn of a handle, or do with it, when it fails fast. -/
structure FailsFast (X : Type) [Surroundings X N] (session : Session N G S W) (h : HandleRef) :
    Prop where
  id?_eq : (session.1.registry.handle h).id? = none
  drawable?_eq : (session.1.registry.handle h).drawable? = none
  surface?_eq : (session.1.registry.handle h).surface? = none
  toDatum_eq : (session.1.registry.handle h).toDatum = .null
  /-- Each operation is refused, without a trace. -/
  refused : ∀ (a : Action X) (operation : String), a.use? = some (h, operation) →
    ∃ answer : Answer S, (perform a).run session = ⟨answer, session, []⟩ ∧
      answer.error? = some (.invalidHandle operation 1)

theorem failsFast_of_destroyed (hd : session.1.registry.handle h = .destroyed) :
    FailsFast X session h where
  id?_eq := congrArg Handle.id? hd
  drawable?_eq := congrArg Handle.drawable? hd
  surface?_eq := congrArg Handle.surface? hd
  toDatum_eq := congrArg Handle.toDatum hd
  refused _ _ ha := run_perform_destroyed hd ha

/-! ## Histories -/

section Histories

variable (manager : N) (graphics : G) (settings : Settings) (actions : List (Action X))

/-- A handle is destroyed for good when its window is to be destroyed. -/
theorem handle_destroyed_with_window (later : List (Action X)) :
    let past : Outcome Entry (Session N G S W) (List (Answer S)) :=
      history manager graphics settings actions
    let future : Outcome Entry (Session N G S W) (List (Answer S)) :=
      history manager graphics settings (actions ++ .destroy h :: later)
    h < past.state.1.registry.handles.length → future.state.1.registry.handle h = .destroyed := by
  intro past future hmade
  let done : Outcome Entry (Session N G S W) (List (Answer S)) :=
    history manager graphics settings (actions ++ [(.destroy h : Action X)])
  have hdone : done.state.1 = ((Bridge.destroyWindow h).run past.state.1).state := by
    rw [show done = _ from
      history_append manager graphics settings actions [(.destroy h : Action X)]]
    rfl
  have hdestroyed : done.state.1.registry.handle h = .destroyed := by
    rw [hdone]
    exact Bridge.handle_destroyWindow h past.state.1
  -- a handle that was made stays made, and once destroyed it stays destroyed
  have hlength : h < done.state.1.registry.handles.length :=
    Nat.lt_of_lt_of_le hmade
      (keepsDestroyed_history manager graphics settings actions _).length_le
  have hkeeps := keepsDestroyed_history (G := G) manager graphics settings
    (actions ++ [(.destroy h : Action X)]) later
  rw [List.append_assoc, List.singleton_append] at hkeeps
  exact hkeeps.destroyed h hlength hdestroyed

/-- The handles of a history whose windows were to be destroyed, or whose identifiers were handed
out again, are destroyed. Those that are destroyed fail fast after every longer history: they
report no identifier, no drawable and no surface and are null as values, and every operation on
them is refused under its name, for its first argument, without a call, a note or a change. -/
theorem destroyed_handles_fail_fast :
    let past : Outcome Entry (Session N G S W) (List (Answer S)) :=
      history manager graphics settings actions
    let ids := mintedIds (Entry.calls past.journal)
    h < ids.length →
      (∀ before later, actions = before ++ (.destroy h : Action X) :: later →
        h < (mintedIds (Entry.calls
          (history manager graphics settings before :
            Outcome Entry (Session N G S W) (List (Answer S))).journal)).length →
          past.state.1.registry.handle h = .destroyed) ∧
      (∀ other, h < other → ids[other]? = ids[h]? → past.state.1.registry.handle h = .destroyed) ∧
      (past.state.1.registry.handle h = .destroyed → ∀ later : List (Action X),
        let future : Outcome Entry (Session N G S W) (List (Answer S)) :=
          history manager graphics settings (actions ++ later)
        FailsFast X future.state h) := by
  intro past ids hmade
  have hminted : past.state.1.registry.Minted ids :=
    minted_history manager graphics settings actions
  refine ⟨?_, fun other hlt hagain => hminted.handle_destroyed_of_again hlt hagain, ?_⟩
  · intro before later hactions hbefore
    rw [← (minted_history manager graphics settings before).length_eq] at hbefore
    subst hactions
    exact handle_destroyed_with_window manager graphics settings before later hbefore
  · intro hd later future
    rw [← hminted.length_eq] at hmade
    have hkeeps := keepsDestroyed_history (G := G) manager graphics settings actions later
    exact failsFast_of_destroyed (hkeeps.destroyed h hmade hd)

end Histories

/-- Of two windows under one identifier the first has lost its handle, and the second loses it when
it is destroyed. -/
theorem two_windows_fail_fast :
    let manager : Scripted.Manager := { ids := [⟨7⟩, ⟨7⟩] }
    let actions : List (Action Empty) := [.create {}, .create {}, .gpuSurface 1, .destroy 1]
    let past : Outcome Entry (Session Scripted.Manager Scripted.Graphics Nat Unit) _ :=
      history manager {} {} actions
    mintedIds (Entry.calls past.journal) = [⟨7⟩, ⟨7⟩] ∧
      FailsFast Empty past.state 0 ∧ FailsFast Empty past.state 1 := by
  intro manager actions past
  have hids : mintedIds (Entry.calls past.journal) = [⟨7⟩, ⟨7⟩] := by decide +kernel
  have hfirst := destroyed_handles_fail_fast (h := 0) (G := Scripted.Graphics) manager {} {} actions
    (by decide +kernel)
  have hsecond := destroyed_handles_fail_fast (h := 1) (G := Scripted.Graphics) manager {} {}
    actions (by decide +kernel)
  have hreplaced := hfirst.2.1 1 (by decide) (by decide +kernel)
  have hdestroyed := hsecond.1 [.create {}, .create {}, .gpuSurface 1] [] rfl (by decide +kernel)
  have hthen := hfirst.2.2 hreplaced []
  have hlast := hsecond.2.2 hdestroyed []
  exact ⟨hids, hthen, hlast⟩

end Session

end WindowSystem
