/-
# The course of a window manager

While a bridge makes its calls, its window manager goes from state to state: each call is answered
by the state that the calls before it left (`Responds`), and between calls happens what happens
past the bridge (`Course`). Every history is such a course (`Session.course_history`), and what
the operations of a bridge report of a failure is what a call was answered with
(`Session.failure_perform`).
-/
import WindowSystem.Proofs.Bridge.Requests

namespace WindowSystem

/-- The failure of a backend with which a call was answered. -/
def Call.failure? : Call → Option BackendError
  | .create _ (.error e) | .drawable _ (.error e) | .update _ _ (.error e) | .query _ _ (.error e)
  | .poll (some (.error e)) | .wrap _ (.error e) => some e
  | _ => none

/-- Whether a call is made to the graphics backend. -/
def Call.IsGraphics : Call → Prop
  | .wrap .. | .release _ | .closeGraphics => True
  | _ => False

instance : DecidablePred Call.IsGraphics
  | .wrap .. | .release _ | .closeGraphics => .isTrue trivial
  | .create .. | .destroy _ | .drawable .. | .update .. | .query .. | .setDeviceFilter _ | .poll _
  | .leave | .closeManager => .isFalse id

/-- The calls that are made to the window manager. -/
def managerCalls (calls : List Call) : List Call := calls.filter fun c => ¬ c.IsGraphics

@[simp]
theorem managerCalls_append (a b : List Call) :
    managerCalls (a ++ b) = managerCalls a ++ managerCalls b := List.filter_append a b

theorem managerCalls_cons_of_not {c : Call} (hc : ¬ c.IsGraphics) (calls : List Call) :
    managerCalls (c :: calls) = c :: managerCalls calls :=
  List.filter_cons_of_pos (decide_eq_true hc)

theorem managerCalls_cons_of_isGraphics {c : Call} (hc : c.IsGraphics) (calls : List Call) :
    managerCalls (c :: calls) = managerCalls calls :=
  List.filter_cons_of_neg (by simpa using hc)

/-- What is read off the calls to the window manager alone is read off all calls. -/
theorem filterMap_managerCalls {β : Type} {f : Call → Option β}
    (hf : ∀ c, c.IsGraphics → f c = none) (calls : List Call) :
    (managerCalls calls).filterMap f = calls.filterMap f := by
  induction calls with
  | nil => rfl
  | cons c rest ih =>
    by_cases hc : c.IsGraphics
    · rw [managerCalls_cons_of_isGraphics hc, List.filterMap_cons_none (hf c hc), ih]
    · rw [managerCalls_cons_of_not hc, List.filterMap_cons, List.filterMap_cons, ih]

namespace Requested

variable {S : Type} {before after : Handle S} {calls : List Call}
  {answer : Except BridgeError (BoundSurface S)}

/-- Nothing fails in coming by a drawable that is had in the end. -/
theorem failure_iff_of_drawn {id : WindowId} {kept : Option Drawable} {first : List Call}
    {drawable : Drawable} (h : Drawn id kept first drawable) (last : Call) (e : BackendError) :
    (∃ c ∈ first ++ [last], c.failure? = some e) ↔ last.failure? = some e := by
  cases h <;> simp [Call.failure?]

/-- A request for the surface of a live window fails exactly with the failure of a step of it. -/
theorem answer_eq_error_iff (h : Requested before calls answer after) (hlive : before ≠ .destroyed)
    (e : BridgeError) :
    answer = .error e ↔ ∃ cause, e = .backend cause ∧ ∃ c ∈ calls, c.failure? = some cause := by
  cases h with
  | destroyed => exact absurd rfl hlive
  | bound id kept surface => simp
  | undrawn id cause => simp [Call.failure?, eq_comm]
  | unwrapped hdrawn cause =>
    simp only [failure_iff_of_drawn hdrawn]
    simp [Call.failure?, eq_comm]
  | wrapped hdrawn surface =>
    simp only [failure_iff_of_drawn hdrawn]
    simp [Call.failure?]

end Requested

/-! ## The window manager from call to call -/

section Course

variable {N W : Type} [WindowManager N W]

/-- In a state, a window manager answers a call and is in another state then. -/
inductive Responds : N → Call → N → Prop where
  | create (n : N) (attributes : WindowAttributes) :
    Responds n (.create attributes ((WindowManager.create attributes).run n).answer)
      ((WindowManager.create attributes).run n).state
  | destroy (n : N) (id : WindowId) :
    Responds n (.destroy id) ((WindowManager.destroy id).run n).state
  | drawable (n : N) (id : WindowId) :
    Responds n (.drawable id ((WindowManager.drawable id).run n).answer)
      ((WindowManager.drawable id).run n).state
  | update (n : N) (id : WindowId) (change : WindowChange) :
    Responds n (.update id change ((WindowManager.update id change).run n).answer)
      ((WindowManager.update id change).run n).state
  | query (n : N) (id : WindowId) (q : Query) :
    Responds n (.query id q ((WindowManager.query q id).run n).answer)
      ((WindowManager.query q id).run n).state
  | setDeviceFilter (n : N) (filter : DeviceFilter) :
    Responds n (.setDeviceFilter filter) ((WindowManager.setDeviceFilter filter).run n).state
  | poll (n : N) (token : Option W) :
    Responds n (.poll ((WindowManager.poll token).run n).answer.answer?)
      ((WindowManager.poll token).run n).state
  | leave (n : N) (token : W) : Responds n .leave ((WindowManager.leave token).run n).state

/-- What a window manager goes through during some calls, while an `X` can happen in between.
Calls to the graphics backend leave it alone. -/
inductive Course (X : Type) [Surroundings X N] : N → List Call → N → Prop where
  | nil {n : N} : Course X n [] n
  | call {n n' n'' : N} {c : Call} {calls : List Call} (h : Responds n c n')
      (next : Course X n' calls n'') : Course X n (c :: calls) n''
  | graphics {n n' : N} {c : Call} {calls : List Call} (hc : c.IsGraphics)
      (next : Course X n calls n') : Course X n (c :: calls) n'
  | outside {n n' : N} {calls : List Call} (x : X)
      (next : Course X ((Surroundings.happen x : Step Note N Unit).run n).state calls n') :
    Course X n calls n'

variable {X : Type} [Surroundings X N] {n n' n'' : N} {calls more : List Call}

/-- One course after another. -/
theorem Course.append (h : Course X n calls n') (h' : Course X n' more n'') :
    Course X n (calls ++ more) n'' := by
  induction h with
  | nil => exact h'
  | call hc _ ih => exact .call hc (ih h')
  | graphics hc _ ih => exact .graphics hc (ih h')
  | outside x _ ih => exact .outside x (ih h')

/-- What every call keeps, and all that happens past the bridge, holds at the end of a course. -/
theorem Course.keeps {P : List Call → N → Prop}
    (hcall : ∀ past n c n', P past n → Responds n c n' → P (past ++ [c]) n')
    (hgraphics : ∀ past n c, P past n → c.IsGraphics → P (past ++ [c]) n)
    (houtside : ∀ past n (x : X), P past n →
      P past ((Surroundings.happen x : Step Note N Unit).run n).state)
    (h : Course X n calls n') (past : List Call) (hpast : P past n) : P (past ++ calls) n' := by
  induction h generalizing past with
  | nil => rwa [List.append_nil]
  | call hc _ ih =>
    rw [List.append_cons]
    exact ih _ (hcall _ _ _ _ hpast hc)
  | graphics hc _ ih =>
    rw [List.append_cons]
    exact ih _ (hgraphics _ _ _ hpast hc)
  | outside x _ ih => exact ih _ (houtside _ _ x hpast)

end Course

/-! ## Operations -/

namespace Bridge

variable {N W G S X α β : Type} [WindowManager N W] [Surroundings X N]

/-- The window manager of a bridge answers the calls of a journal. -/
def Answered (X : Type) [Surroundings X N] (b : Bridge N G S) (journal : List Entry)
    (b' : Bridge N G S) : Prop :=
  Course X b.events.manager (Entry.calls journal) b'.events.manager

theorem chronicle_answered :
    Step.Chronicle (Answered X : Bridge N G S → List Entry → Bridge N G S → Prop) where
  nil _ := .nil
  append h h' := by
    rw [Answered, Entry.calls_append]
    exact Course.append h h'

/-- Whatever the state, the window manager of a bridge answers the calls made in a step. -/
def IsCourse (X : Type) [Surroundings X N] (s : Step Entry (Bridge N G S) α) : Prop :=
  ∀ b : Bridge N G S, Course X b.events.manager (Entry.calls (s.run b).journal)
    (s.run b).state.events.manager

/-- A step that leaves the window manager alone and makes no call. -/
theorem isCourse_of_quiet {s : Step Entry (Bridge N G S) α}
    (hmanager : ∀ b, (s.run b).state.events.manager = b.events.manager)
    (hcalls : ∀ b, Entry.calls (s.run b).journal = []) : IsCourse X s := by
  intro b
  rw [hmanager, hcalls]
  exact .nil

theorem isCourse_pure (a : α) : IsCourse X (pure a : Step Entry (Bridge N G S) α) :=
  chronicle_answered.pure a

theorem isCourse_say (level : LogLevel) (text : String) :
    IsCourse X (Entry.say level text : Step Entry (Bridge N G S) Unit) :=
  isCourse_of_quiet (fun _ => rfl) fun _ => rfl

theorem isCourse_modify {f : Bridge N G S → Bridge N G S}
    (hf : ∀ b, (f b).events.manager = b.events.manager) :
    IsCourse X (Step.modify f : Step Entry (Bridge N G S) Unit) :=
  isCourse_of_quiet hf fun _ => rfl

theorem isCourse_changeRegistry (f : Registry S → Registry S) :
    IsCourse X (changeRegistry f : Step Entry (Bridge N G S) Unit) :=
  isCourse_modify fun _ => rfl

theorem IsCourse.bind {s : Step Entry (Bridge N G S) α} {f : α → Step Entry (Bridge N G S) β}
    (hs : IsCourse X s) (hf : ∀ a, IsCourse X (f a)) : IsCourse X (s >>= f) :=
  chronicle_answered.bind hs hf

/-- A call to the window manager. -/
theorem isCourse_askManager {s : Step Note N α} {call : α → Call}
    (h : ∀ n, Responds n (call (s.run n).answer) (s.run n).state) :
    IsCourse X (askManager s call : Step Entry (Bridge N G S) α) := by
  intro b
  rw [run_askManager, Entry.calls_append, Entry.calls_map_note]
  exact .call (h _) .nil

/-- A call to the graphics backend. -/
theorem isCourse_askGraphics {s : Step Note G α} {call : α → Call}
    (h : ∀ a, (call a).IsGraphics) :
    IsCourse X (askGraphics s call : Step Entry (Bridge N G S) α) := by
  intro b
  rw [run_askGraphics, Entry.calls_append, Entry.calls_map_note]
  exact .graphics (h _) .nil

theorem isCourse_query (h : HandleRef) (q : Query) :
    IsCourse X (query h q : Step Entry (Bridge N G S) _) :=
  tells_query chronicle_answered (fun id => isCourse_askManager fun n => .query n id q) h

theorem isCourse_changeBy (operation : String) (h : HandleRef) (change : WindowChange) :
    IsCourse X (changeBy operation h change : Step Entry (Bridge N G S) _) :=
  tells_changeBy chronicle_answered (fun id => isCourse_askManager fun n => .update n id change)
    operation h

theorem isCourse_setDeviceFilter (filter : DeviceFilter) :
    IsCourse X (setDeviceFilter filter : Step Entry (Bridge N G S) Unit) :=
  isCourse_askManager fun n => .setDeviceFilter n filter

/-- What happens past the bridge is no call. -/
theorem isCourse_outside (x : X) :
    IsCourse X (onManager (Surroundings.happen x) : Step Entry (Bridge N G S) Unit) := by
  intro b
  rw [run_onManager, Entry.calls_map_note]
  exact .outside x .nil

theorem isCourse_pollEvent (consumer : Consumer W) :
    IsCourse X (pollEvent consumer : Step Entry (Bridge N G S) _) := by
  intro b
  show Course X b.events.manager
    (Entry.calls ([] ++ ((EventStream.poll b.registry.resolve consumer).run b.events).journal))
    ((EventStream.poll b.registry.resolve consumer).run b.events).state.manager
  rw [List.nil_append]
  have hlook : ∀ (stream : EventStream N) (token : Option W),
      Course X stream.manager
        (Entry.calls ((EventStream.look b.registry.resolve token).run stream).journal)
        ((EventStream.look b.registry.resolve token).run stream).state.manager := by
    intro stream token
    obtain ⟨-, hstate, hcalls⟩ := EventStream.run_look b.registry.resolve stream token
    rw [hstate, hcalls]
    exact .call (.poll _ token) .nil
  cases consumer with
  | fresh =>
    cases hw : b.events.waiting with
    | true =>
      rw [EventStream.run_poll_busy _ _ hw]
      exact .nil
    | false =>
      rw [EventStream.run_poll_admitted _ _ hw]
      exact hlook { b.events with waiting := true } none
  | waiting token => exact hlook b.events (some token)

theorem isCourse_cancelEvent (consumer : Consumer W) :
    IsCourse X (cancelEvent consumer : Step Entry (Bridge N G S) Unit) := by
  intro b
  cases consumer with
  | fresh => exact .nil
  | waiting token =>
    obtain ⟨hstate, hcalls⟩ := EventStream.run_cancel_waiting b.events token
    show Course X b.events.manager
      (Entry.calls ((EventStream.cancel (.waiting token)).run b.events).journal)
      ((EventStream.cancel (.waiting token)).run b.events).state.manager
    rw [hstate, hcalls]
    exact .call (.leave _ token) .nil

variable [GraphicsBackend G S]

theorem isCourse_gpuSurface (h : HandleRef) :
    IsCourse X (gpuSurface h : Step Entry (Bridge N G S) _) := by
  have hmake : ∀ drawable, IsCourse X (makeSurface drawable : Step Entry (Bridge N G S) _) :=
    fun drawable => tells_makeSurface chronicle_answered drawable
      (fun _ => isCourse_askGraphics fun _ => trivial) fun _ => isCourse_modify fun _ => rfl
  exact tells_gpuSurface chronicle_answered (fun _ => isCourse_changeRegistry _)
    (fun id => isCourse_askManager fun n => .drawable n id) hmake isCourse_say

theorem isCourse_releaseSurface (h : HandleRef) :
    IsCourse X (releaseSurface h : Step Entry (Bridge N G S) Unit) :=
  tells_releaseSurface chronicle_answered (fun _ => isCourse_changeRegistry _)
    (fun _ => isCourse_askGraphics fun _ => trivial) isCourse_say

theorem isCourse_destroyWindow (h : HandleRef) :
    IsCourse X (destroyWindow h : Step Entry (Bridge N G S) _) :=
  tells_destroyWindow chronicle_answered isCourse_say (isCourse_releaseSurface h)
    (fun id => isCourse_askManager fun n => .destroy n id) fun _ => isCourse_changeRegistry _

theorem isCourse_destroyLeftover (h : HandleRef) :
    IsCourse X (destroyLeftover h : Step Entry (Bridge N G S) Unit) := by
  refine (isCourse_destroyWindow h).bind fun answer => ?_
  cases answer with
  | ok _ => exact isCourse_pure ()
  | error e => exact isCourse_say _ _

omit [GraphicsBackend G S] in
theorem isCourse_forEach {f : α → Step Entry (Bridge N G S) Unit} (hf : ∀ a, IsCourse X (f a))
    (list : List α) : IsCourse X (Step.forEach f list) := chronicle_answered.forEach hf list

theorem isCourse_createWindow (options : WindowOptions) :
    IsCourse X (createWindow options : Step Entry (Bridge N G S) _) := by
  have henter : ∀ id, IsCourse X (onRegistry (Registry.enter id) : Step Entry (Bridge N G S) _) :=
    fun id => isCourse_of_quiet (fun _ => rfl) fun b => (run_onRegistry_enter id b).2.2.1
  exact tells_createWindow chronicle_answered isCourse_say
    (fun attributes => isCourse_askManager fun n => .create n attributes) henter
    isCourse_releaseSurface (fun _ => isCourse_changeRegistry _) options

/-- In every operation the window manager answers the calls made. -/
theorem told_answered :
    Told X (Answered X : Bridge N G S → List Entry → Bridge N G S → Prop) where
  chronicle := chronicle_answered
  say := isCourse_say
  create := isCourse_createWindow
  destroy := isCourse_destroyWindow
  gpuSurface := isCourse_gpuSurface
  query := isCourse_query
  changeBy := isCourse_changeBy
  setDeviceFilter := isCourse_setDeviceFilter
  poll := isCourse_pollEvent
  cancel := isCourse_cancelEvent
  outside := isCourse_outside

/-! ## What is reported of a failure -/

omit [GraphicsBackend G S] [Surroundings X N] in
theorem failure_query (h : HandleRef) (q : Query) (b : Bridge N G S) {e : BackendError}
    (he : ((query h q).run b).answer = .error (.backend e)) :
    ∃ c ∈ Entry.calls ((query h q).run b).journal, c.failure? = some e := by
  revert he
  unfold query
  rw [Step.run_bind, run_handle]
  cases hid : (b.registry.handle h).id? with
  | none =>
    simp only [Handle.liveId, hid]
    intro he
    cases he
  | some id =>
    simp only [Handle.liveId, hid, Step.run_bind, run_askManager, Step.run_pure, List.nil_append,
      List.append_nil, Entry.calls_append, Entry.calls_map_note]
    cases ha : ((WindowManager.query q id).run b.events.manager).answer with
    | ok a =>
      intro he
      cases he
    | error found =>
      intro he
      cases he
      exact ⟨_, List.mem_singleton_self _, rfl⟩

omit [GraphicsBackend G S] [Surroundings X N] in
theorem failure_changeBy (operation : String) (h : HandleRef) (change : WindowChange)
    (b : Bridge N G S) {e : BackendError}
    (he : ((changeBy operation h change).run b).answer = .error (.backend e)) :
    ∃ c ∈ Entry.calls ((changeBy operation h change).run b).journal, c.failure? = some e := by
  revert he
  unfold changeBy
  rw [Step.run_bind, run_handle]
  cases hid : (b.registry.handle h).id? with
  | none =>
    simp only [Handle.liveId, hid]
    intro he
    cases he
  | some id =>
    simp only [Handle.liveId, hid, Step.run_bind, run_askManager, Step.run_pure, List.nil_append,
      List.append_nil, Entry.calls_append, Entry.calls_map_note]
    cases ha : ((WindowManager.update id change).run b.events.manager).answer with
    | ok a =>
      intro he
      cases he
    | error found =>
      intro he
      cases he
      exact ⟨_, List.mem_singleton_self _, rfl⟩

omit [Surroundings X N] in
theorem failure_destroyWindow (h : HandleRef) (b : Bridge N G S) (e : BackendError) :
    ((destroyWindow h).run b).answer ≠ .error (.backend e) := by
  unfold destroyWindow
  rw [Step.run_bind, run_handle]
  cases hid : (b.registry.handle h).id? with
  | none =>
    simp only [Handle.liveId, hid]
    intro he
    cases he
  | some id =>
    simp only [Handle.liveId, hid, Step.run_bind, Step.run_pure]
    intro he
    cases he

omit [Surroundings X N] in
theorem failure_createWindow (options : WindowOptions) (b : Bridge N G S) {e : BackendError}
    (he : ((createWindow options).run b).answer = .error (.backend e)) :
    ∃ c ∈ Entry.calls ((createWindow options).run b).journal, c.failure? = some e := by
  revert he
  unfold createWindow
  rw [Step.run_bind, Step.run_get]
  cases (options.orElse b.defaultWindow).attributes? with
  | error refused =>
    intro he
    cases he
  | ok attributes =>
    simp only [Step.run_bind, run_askManager, List.nil_append, Entry.calls_append,
      Entry.calls_map_note]
    cases ha : ((WindowManager.create attributes).run b.events.manager).answer with
    | error found =>
      intro he
      cases he
      exact ⟨_, List.mem_append_left _ (List.mem_singleton_self _), rfl⟩
    | ok id =>
      -- once the window is there, its creation succeeds
      simp only [Step.run_bind]
      generalize ((onRegistry (Registry.enter id)).run _).answer = entered
      obtain ⟨h, _ | old⟩ := entered
      all_goals
        intro he
        cases he

omit [Surroundings X N] in
theorem failure_gpuSurface (h : HandleRef) (b : Bridge N G S) {e : BackendError}
    (he : ((gpuSurface h).run b).answer = .error (.backend e)) :
    ∃ c ∈ Entry.calls ((gpuSurface h).run b).journal, c.failure? = some e := by
  have hrequested := requested_gpuSurface h b
  by_cases hd : b.registry.handle h = .destroyed
  · rw [(hrequested.of_destroyed hd).2.1] at he
    cases he
  · obtain ⟨cause, hcause, hfailed⟩ := (hrequested.answer_eq_error_iff hd _).mp he
    cases hcause
    exact hfailed

omit [GraphicsBackend G S] [Surroundings X N] in
theorem failure_pollEvent (consumer : Consumer W) (b : Bridge N G S) {e : BackendError}
    (he : ((pollEvent consumer).run b).answer = .ready (.error (.backend e))) :
    ∃ c ∈ Entry.calls ((pollEvent consumer).run b).journal, c.failure? = some e := by
  revert he
  show ((EventStream.poll b.registry.resolve consumer).run b.events).answer =
      .ready (.error (.backend e)) →
    ∃ c ∈ Entry.calls
      ([] ++ ((EventStream.poll b.registry.resolve consumer).run b.events).journal),
      c.failure? = some e
  rw [List.nil_append]
  have hlook : ∀ (stream : EventStream N) (token : Option W),
      ((EventStream.look b.registry.resolve token).run stream).answer =
        .ready (.error (.backend e)) →
      ∃ c ∈ Entry.calls ((EventStream.look b.registry.resolve token).run stream).journal,
        c.failure? = some e := by
    intro stream token
    obtain ⟨hanswer, -, hcalls⟩ := EventStream.run_look b.registry.resolve stream token
    rw [hanswer, hcalls]
    intro he
    refine ⟨_, List.mem_singleton_self _, ?_⟩
    rcases ha : ((WindowManager.poll token).run stream.manager).answer with wait | (found | raw)
    · rw [ha] at he
      cases he
    · rw [ha] at he
      cases he
      rfl
    · rw [ha] at he
      cases he
  cases consumer with
  | fresh =>
    cases hw : b.events.waiting with
    | true =>
      rw [EventStream.run_poll_busy _ _ hw]
      intro he
      cases he
    | false =>
      rw [EventStream.run_poll_admitted _ _ hw]
      exact hlook { b.events with waiting := true } none
  | waiting token => exact hlook b.events (some token)

end Bridge

/-! ## Histories -/

/-- The failure of a backend in a result, if there is one. -/
def backendFailure? {α : Type} : Except BridgeError α → Option BackendError
  | .error (.backend e) => some e
  | _ => none

theorem backendFailure?_eq_some {α : Type} {result : Except BridgeError α} {e : BackendError} :
    backendFailure? result = some e ↔ result = .error (.backend e) := by
  constructor
  · intro h
    rcases result with (_ | _ | found | _) | a
    · cases h
    · cases h
    · rw [← Option.some.inj h]
    · cases h
    · cases h
  · rintro rfl
    rfl

/-- The failure of a backend that an answer reports to a script. -/
def Answer.failure? {S : Type} : Answer S → Option BackendError
  | .created result => backendFailure? result
  | .done result => backendFailure? result
  | .bound result => backendFailure? result
  | .told _ result => backendFailure? result
  | .looked (some (.ready result)) => backendFailure? result
  | _ => none

namespace Session

variable {N W G S X α β : Type} [WindowManager N W] [Surroundings X N]

variable [GraphicsBackend G S]

/-- The window manager answers the calls made in an action. -/
theorem isCourse_perform (a : Action X) (session : Session N G S W) :
    Course X session.1.events.manager (Entry.calls ((perform a).run session).journal)
      ((perform a).run session).state.1.events.manager :=
  tells_perform Bridge.told_answered a session

/-- Every history is a course of the window manager. -/
theorem course_history (manager : N) (graphics : G) (settings : Settings)
    (actions : List (Action X)) :
    let past : Outcome Entry (Session N G S W) (List (Answer S)) :=
      history manager graphics settings actions
    Course X manager (Entry.calls past.journal) past.state.1.events.manager :=
  tells_history Bridge.told_answered manager graphics settings actions

omit [Surroundings X N] [GraphicsBackend G S] in
theorem failure_poll (name : String) (session : Session N G S W) {e : BackendError}
    (he : ((Consumers.poll source name).run session).answer =
      some (.ready (.error (.backend e)))) :
    ∃ c ∈ Entry.calls ((Consumers.poll source name).run session).journal, c.failure? = some e := by
  obtain ⟨b, consumers⟩ := session
  revert he
  cases hf : consumers.find? name with
  | none =>
    rw [Consumers.run_poll_absent source b consumers hf]
    intro he
    cases he
  | some consumer =>
    cases ha : ((source.poll consumer).run b).answer with
    | pending next =>
      rw [Consumers.run_poll_pending source b consumers hf ha]
      intro he
      cases he
    | ready answer =>
      rw [Consumers.run_poll_ready source b consumers hf ha]
      intro he
      refine Bridge.failure_pollEvent consumer b (ha.trans ?_)
      exact congrArg Poll.ready (Poll.ready.inj (Option.some.inj he))

/-- A failure that is reported to a script is one with which a backend answered a call. -/
theorem failure_perform (a : Action X) (session : Session N G S W) {e : BackendError}
    (he : ((perform a).run session).answer.failure? = some e) :
    ∃ c ∈ Entry.calls ((perform a).run session).journal, c.failure? = some e := by
  -- an operation of the bridge makes all the calls of its action
  have hbridge : ∀ {α : Type} {s : Step Entry (Bridge N G S) α} {answer : α → Answer S},
      (∃ c ∈ Entry.calls (s.run session.1).journal, c.failure? = some e) →
      ∃ c ∈ Entry.calls ((onBridge s answer).run session).journal, c.failure? = some e := by
    intro α s answer h
    have hcalls : Entry.calls ((onBridge s answer).run session).journal =
        Entry.calls (s.run session.1).journal := congrArg Entry.calls (List.append_nil _)
    rwa [hcalls]
  cases a with
  | create options =>
    exact hbridge (Bridge.failure_createWindow options _ (backendFailure?_eq_some.mp he))
  | destroy h =>
    exact absurd (backendFailure?_eq_some.mp he) (Bridge.failure_destroyWindow h session.1 e)
  | gpuSurface h => exact hbridge (Bridge.failure_gpuSurface h _ (backendFailure?_eq_some.mp he))
  | query h q => exact hbridge (Bridge.failure_query h q _ (backendFailure?_eq_some.mp he))
  | change h change =>
    exact hbridge (Bridge.failure_changeBy _ h change _ (backendFailure?_eq_some.mp he))
  | setAlwaysOnTop h onTop =>
    exact hbridge (Bridge.failure_changeBy _ h _ _ (backendFailure?_eq_some.mp he))
  | poll name =>
    have hanswer : ((Consumers.poll source name).run session).answer =
        some (.ready (.error (.backend e))) := by
      revert he
      show (Answer.looked (S := S) ((Consumers.poll source name).run session).answer).failure? =
        some e → _
      rcases ((Consumers.poll source name).run session).answer with _ | (wait | result)
      · intro he
        cases he
      · intro he
        cases he
      · intro he
        rw [backendFailure?_eq_some.mp he]
    obtain ⟨c, hc, hfailure⟩ := failure_poll name session hanswer
    refine ⟨c, ?_, hfailure⟩
    rw [perform, Step.run_bind, Entry.calls_append]
    exact List.mem_append_left _ hc
  | _ => cases he

end Session

end WindowSystem
