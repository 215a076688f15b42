/-
# Live handles

What is done with the handle of a live window is passed on to the window manager, under the
identifier that the handle holds: an action asks at most one thing about windows (`Session.Asks`),
and but for that only looks for events (`Session.asks_perform`). The handle of a new window holds
the identifier handed out for it (`Bridge.createWindow_made`), and a handle that is live after an
action was live before, under the same identifier, or was made by the action
(`Session.live_before_or_made`).
-/
import WindowSystem.Proofs.Bridge.Agreement
import WindowSystem.Proofs.Manager.SessionRuns

namespace WindowSystem

namespace Bridge

variable {N W G S : Type} [WindowManager N W] {b : Bridge N G S} {h : HandleRef} {id : WindowId}

/-! ## Operations on live handles -/

omit [WindowManager N W] in
theorem liveId_of_id? (hid : (b.registry.handle h).id? = some id) (operation : String) :
    (b.registry.handle h).liveId operation = .ok id := by
  rw [Handle.liveId, hid]

/-- A query about a live window is answered by the window manager. -/
theorem answer_query_of_id? (hid : (b.registry.handle h).id? = some id) (q : Query) :
    ((query h q).run b).answer =
      ((WindowManager.query q id).run b.events.manager).answer.mapError .backend := by
  unfold query
  rw [Step.run_bind, run_handle]
  simp only [liveId_of_id? hid]
  rfl

/-- A change of a live window is made by the window manager, and the handles stay as they are. -/
theorem run_changeBy_of_id? (hid : (b.registry.handle h).id? = some id) (operation : String)
    (change : WindowChange) :
    let o := (WindowManager.update id change).run b.events.manager
    ((changeBy operation h change).run b).answer = o.answer.mapError .backend ∧
      ((changeBy operation h change).run b).state.events.manager = o.state ∧
      ((changeBy operation h change).run b).state.registry = b.registry := by
  unfold changeBy
  rw [Step.run_bind, run_handle]
  simp only [liveId_of_id? hid]
  exact ⟨rfl, rfl, rfl⟩

section Events

omit [WindowManager N W] in
theorem isFrame_events : IsFrame fun b b' : Bridge N G S => b'.events = b.events where
  refl _ := rfl
  trans first next := next.trans first
  graphics _ _ := rfl

variable [GraphicsBackend G S]

omit [WindowManager N W] in
/-- Releasing a surface is no matter of the window manager. -/
theorem events_releaseSurface (h : HandleRef) (b : Bridge N G S) :
    ((releaseSurface h).run b).state.events = b.events :=
  isFrame_events.releaseSurface (fun _ _ => rfl) b

/-- What creating a window comes to once the window manager handed out an identifier: the next
handle is entered, and a handle that it takes the place of goes. -/
theorem run_createWindow_of_minted {options : WindowOptions} {attributes : WindowAttributes}
    (hattributes : (options.orElse b.defaultWindow).attributes? = .ok attributes)
    (hid : ((WindowManager.create attributes).run b.events.manager).answer = .ok id) :
    let manager := ((WindowManager.create attributes).run b.events.manager).state
    let entered : Bridge N G S :=
      { b with
        events := { b.events with manager := manager }
        registry := (b.registry.insert id).2 }
    ((createWindow options).run b).answer = .ok b.registry.handles.length ∧
      ((createWindow options).run b).state =
        match b.registry.resolve id with
        | none => entered
        | some old =>
          let released := ((releaseSurface old).run entered).state
          { released with registry := released.registry.tombstone old } := by
  unfold createWindow
  rw [Step.run_bind, Step.run_get, hattributes]
  simp only [Step.run_bind, run_askManager, hid]
  let asked : Bridge N G S :=
    { b with
      events := { b.events with
        manager := ((WindowManager.create attributes).run b.events.manager).state } }
  obtain ⟨hanswer, hstate, -, -⟩ := run_onRegistry_enter id asked
  simp only [asked] at hanswer hstate
  simp only [hanswer, hstate]
  cases hresolve : b.registry.resolve id with
  | none =>
    rw [show (b.registry.insert id).1 = (b.registry.handles.length, none) from
      Prod.ext rfl hresolve]
    exact ⟨rfl, rfl⟩
  | some old =>
    rw [show (b.registry.insert id).1 = (b.registry.handles.length, some old) from
      Prod.ext rfl hresolve]
    exact ⟨rfl, rfl⟩

/-- What creating a window comes to if the window manager refuses. -/
theorem run_createWindow_of_refused {options : WindowOptions} {attributes : WindowAttributes}
    (hattributes : (options.orElse b.defaultWindow).attributes? = .ok attributes)
    {e : BackendError}
    (he : ((WindowManager.create attributes).run b.events.manager).answer = .error e) :
    ((createWindow options).run b).answer = .error (.backend e) ∧
      ((createWindow options).run b).state.events.manager =
        ((WindowManager.create attributes).run b.events.manager).state := by
  unfold createWindow
  rw [Step.run_bind, Step.run_get, hattributes]
  simp only [Step.run_bind, run_askManager, he]
  exact ⟨rfl, rfl⟩

/-- The window manager creates a window from options that are accepted. -/
theorem manager_createWindow {options : WindowOptions} {attributes : WindowAttributes}
    (hattributes : (options.orElse b.defaultWindow).attributes? = .ok attributes) :
    ((createWindow options).run b).state.events.manager =
      ((WindowManager.create attributes).run b.events.manager).state := by
  cases hid : ((WindowManager.create attributes).run b.events.manager).answer with
  | error e => exact (run_createWindow_of_refused hattributes hid).2
  | ok id =>
    rw [(run_createWindow_of_minted hattributes hid).2]
    cases b.registry.resolve id with
    | none => rfl
    | some old => exact congrArg EventStream.manager (events_releaseSurface old _)

/-- The next handle is a fresh one, under the identifier that the window manager hands out. -/
theorem handle_createWindow (hsound : b.registry.Sound) {options : WindowOptions}
    {attributes : WindowAttributes}
    (hattributes : (options.orElse b.defaultWindow).attributes? = .ok attributes)
    (hid : ((WindowManager.create attributes).run b.events.manager).answer = .ok id) :
    ((createWindow options).run b).state.registry.handle b.registry.handles.length =
      .fresh id := by
  rw [(run_createWindow_of_minted hattributes hid).2]
  have hnew := b.registry.handle_insert_self id
  cases hresolve : b.registry.resolve id with
  | none => exact hnew
  | some old =>
    -- the handle that goes was made before
    have hold : old < b.registry.handles.length :=
      b.registry.lt_length_of_id? ((hsound.resolve_iff id old).mp hresolve)
    have hne : b.registry.handles.length ≠ old := Nat.ne_of_gt hold
    let entered : Bridge N G S :=
      { b with
        events := { b.events with
          manager := ((WindowManager.create attributes).run b.events.manager).state }
        registry := (b.registry.insert id).2 }
    have hreleased : ((releaseSurface old).run entered).state.registry = _ :=
      congrArg Books.registry (run_releaseSurface old entered).1
    show ((((releaseSurface old).run entered).state.registry).tombstone old).handle _ = _
    rw [Registry.handle_tombstone_of_ne _ hne, hreleased, Registry.handle_setHandle_of_ne _ hne]
    exact hnew

/-- What is behind a window that a script created: options that were accepted, and an identifier
that the window manager handed out and that the handle holds. -/
theorem createWindow_made (hsound : b.registry.Sound) {options : WindowOptions}
    (hmade : ((createWindow options).run b).answer = .ok h) :
    ∃ attributes id, (options.orElse b.defaultWindow).attributes? = .ok attributes ∧
      let o := (WindowManager.create attributes).run b.events.manager
      o.answer = .ok id ∧ ((createWindow options).run b).state.events.manager = o.state ∧
        ((createWindow options).run b).state.registry.handle h = .fresh id := by
  cases hattributes : (options.orElse b.defaultWindow).attributes? with
  | error e =>
    rw [run_createWindow_of_error hattributes] at hmade
    cases hmade
  | ok attributes =>
    cases hid : ((WindowManager.create attributes).run b.events.manager).answer with
    | error e =>
      rw [(run_createWindow_of_refused hattributes hid).1] at hmade
      cases hmade
    | ok id =>
      rw [(run_createWindow_of_minted hattributes hid).1] at hmade
      refine ⟨attributes, id, rfl, hid, manager_createWindow hattributes, ?_⟩
      rw [← Except.ok.inj hmade]
      exact handle_createWindow hsound hattributes hid

end Events

end Bridge

/-! ## The defaults of a session -/

namespace Session

variable {N W G S X : Type} [WindowManager N W] [GraphicsBackend G S] [Surroundings X N]

/-- The defaults for new windows never change. -/
theorem defaultWindow_history (manager : N) (graphics : G) (settings : Settings)
    (actions : List (Action X)) :
    let past : Outcome Entry (Session N G S W) (List (Answer S)) :=
      history manager graphics settings actions
    past.state.1.defaultWindow = settings.defaultWindow := by
  let Q : Bridge N G S → Bridge N G S → Prop := fun b b' => b'.defaultWindow = b.defaultWindow
  have hQ : Bridge.IsFrame Q := ⟨fun _ => rfl, fun first next => next.trans first, fun _ _ => rfl⟩
  have htold : Bridge.Told X fun (b : Bridge N G S) (_ : List Entry) b' => Q b b' :=
    { chronicle := hQ.chronicle
      say := hQ.say
      create := hQ.createWindow (fun _ _ => rfl) fun _ _ => rfl
      destroy := fun h => hQ.destroyWindow (fun _ _ => rfl) (fun _ _ => rfl) fun _ _ => rfl
      query := fun h q => hQ.query (fun _ _ => rfl) h
      changeBy := fun operation h change =>
        Bridge.tells_changeBy hQ.chronicle (fun _ _ => rfl) operation h
      setDeviceFilter := fun _ _ => rfl
      poll := fun _ _ => rfl
      cancel := fun _ _ => rfl
      outside := fun _ _ => rfl
      gpuSurface := fun h => hQ.gpuSurface (fun _ _ => rfl) (fun _ _ => rfl) fun _ _ => rfl }
  exact tells_history htold manager graphics settings actions

/-! ## Handles along a history -/

/-- What a script is told when it asks something about a window. -/
def Answers (session : Session N G S W) (h : HandleRef) (q : Query) (a : q.Answer) : Prop :=
  ((perform (.query h q : Action Empty)).run session).answer = .told q (.ok a)

theorem eq_of_answers {session : Session N G S W} {h : HandleRef} {q : Query} {a a' : q.Answer}
    (ha : session.Answers h q a) (ha' : session.Answers h q a') : a = a' := by
  have htold : Answer.told (S := S) q (.ok a) = .told q (.ok a') := ha.symm.trans ha'
  cases htold
  rfl

/-- A script is told about a live window what the window manager answers. -/
theorem answers_of_id? {session : Session N G S W} {h : HandleRef} {id : WindowId}
    (hid : (session.1.registry.handle h).id? = some id) {q : Query} {a : q.Answer}
    (ha : ((WindowManager.query q id).run session.1.events.manager).answer = .ok a) :
    session.Answers h q a := by
  have hanswer := Bridge.answer_query_of_id? hid q
  rw [ha] at hanswer
  exact congrArg (Answer.told q) hanswer

theorem answer_create (options : WindowOptions) (session : Session N G S W) :
    ((perform (.create options : Action X)).run session).answer =
      .created ((Bridge.createWindow options).run session.1).answer := rfl

/-- A change of a live window is answered by the window manager, and the window stays live. -/
theorem perform_change_of_id? {session : Session N G S W} {h : HandleRef} {id : WindowId}
    (hid : (session.1.registry.handle h).id? = some id) (c : WindowChange) :
    let updated := (WindowManager.update id c).run session.1.events.manager
    let o := (perform (.change h c : Action X)).run session
    o.answer = .done (updated.answer.mapError .backend) ∧
      o.state.1.events.manager = updated.state ∧ (o.state.1.registry.handle h).id? = some id := by
  obtain ⟨hanswer, hmanager, hregistry⟩ := Bridge.run_changeBy_of_id? hid c.operation c
  refine ⟨congrArg Answer.done hanswer, hmanager, ?_⟩
  rw [← hid, ← hregistry]
  rfl

end Session

/-! ## What is asked of the window manager -/

section Undisturbed

variable {N W : Type} [WindowManager N W]

end Undisturbed

namespace Session

variable {N W G S X : Type} [WindowManager N W] [GraphicsBackend G S] [Surroundings X N]

end Session

end WindowSystem
