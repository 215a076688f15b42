/-
# The runs that sessions drive

What an action on a bridge comes to for the window manager can be told before it is done
(`Session.asked`): the handle, the consumer and the options that an action names decide what the
manager is asked. It is asked nothing else, so the manager of a session goes through a run of what
it is asked: the run makes the calls of the session, with their answers, and ends in the state in
which the session leaves the manager (`Session.run_askedIn`).
-/
import WindowSystem.Proofs.Manager.Runs

namespace WindowSystem

namespace Bridge

variable {N W G S Y α β : Type}

/-! ## Steps without the window manager -/

/-- While a journal is written, the window manager of a bridge is left alone. -/
def Idle (b : Bridge N G S) (journal : List Entry) (b' : Bridge N G S) : Prop :=
  managerCalls (Entry.calls journal) = [] ∧ b'.events.manager = b.events.manager

theorem chronicle_idle :
    Step.Chronicle (Idle : Bridge N G S → List Entry → Bridge N G S → Prop) where
  nil _ := ⟨rfl, rfl⟩
  append := by
    rintro b b' b'' journal more ⟨hcalls, hstate⟩ ⟨hmore, hstate'⟩
    refine ⟨?_, hstate'.trans hstate⟩
    rw [Entry.calls_append, managerCalls_append, hcalls, hmore, List.append_nil]

theorem idle_say (level : LogLevel) (text : String) :
    Step.Tells Idle (Entry.say level text : Step Entry (Bridge N G S) Unit) :=
  fun _ => ⟨rfl, rfl⟩

theorem idle_changeRegistry (f : Registry S → Registry S) :
    Step.Tells Idle (changeRegistry f : Step Entry (Bridge N G S) Unit) :=
  fun _ => ⟨rfl, rfl⟩

theorem idle_enter (id : WindowId) :
    Step.Tells Idle (onRegistry (Registry.enter id) : Step Entry (Bridge N G S) _) := by
  intro b
  obtain ⟨-, hstate, hcalls, -⟩ := run_onRegistry_enter id b
  rw [Idle, hstate, hcalls]
  exact ⟨rfl, rfl⟩

/-- A call to the graphics backend. -/
theorem idle_askGraphics {s : Step Note G α} {call : α → Call} (h : ∀ a, (call a).IsGraphics) :
    Step.Tells Idle (askGraphics s call : Step Entry (Bridge N G S) α) := by
  intro b
  rw [Idle, run_askGraphics, Entry.calls_append, Entry.calls_map_note]
  exact ⟨managerCalls_cons_of_isGraphics (h _) [], rfl⟩

section Graphics

variable [GraphicsBackend G S]

theorem idle_releaseSurface (h : HandleRef) :
    Step.Tells Idle (releaseSurface h : Step Entry (Bridge N G S) Unit) :=
  tells_releaseSurface chronicle_idle (fun _ => idle_changeRegistry _)
    (fun _ => idle_askGraphics fun _ => trivial) idle_say

theorem idle_makeSurface (drawable : Drawable) :
    Step.Tells Idle (makeSurface drawable : Step Entry (Bridge N G S) _) :=
  tells_makeSurface chronicle_idle drawable (fun _ => idle_askGraphics fun _ => trivial)
    fun _ _ => ⟨rfl, rfl⟩

/-- Binding a surface, once the drawable is there. -/
theorem idle_bindTo (h : HandleRef) (id : WindowId) (answer : Except BackendError Drawable) :
    Step.Tells Idle (bindTo h id answer : Step Entry (Bridge N G S) _) := by
  cases answer with
  | error e => exact chronicle_idle.pure _
  | ok drawable =>
    refine chronicle_idle.bind (idle_makeSurface drawable) fun made => ?_
    cases made with
    | error e => exact chronicle_idle.pure _
    | ok surface =>
      exact chronicle_idle.bind (idle_changeRegistry _) fun _ =>
        chronicle_idle.bind (idle_say _ _) fun _ => chronicle_idle.pure _

end Graphics

/-! ## Steps that ask the window manager -/

variable [WindowManager N W] [Surroundings Y N]

/-- While a journal is written, the window manager of a bridge does what a list says and nothing
else: the calls made to it are those of the list. -/
structure Relays (asked : List (ManagerAction W Y)) (b : Bridge N G S) (journal : List Entry)
    (b' : Bridge N G S) : Prop where
  calls : callsOf (moments b.events.manager asked) = managerCalls (Entry.calls journal)
  state : stateAfter b.events.manager asked = b'.events.manager

variable {asked later : List (ManagerAction W Y)} {b b' b'' : Bridge N G S}
  {journal more : List Entry}

theorem Idle.relays (h : Idle b journal b') :
    Relays ([] : List (ManagerAction W Y)) b journal b' := ⟨h.1.symm, h.2.symm⟩

theorem Relays.append (h : Relays asked b journal b') (h' : Relays later b' more b'') :
    Relays (asked ++ later) b (journal ++ more) b'' where
  calls := by
    rw [moments_append, callsOf_append, Entry.calls_append, managerCalls_append, h.calls, h.state,
      h'.calls]
  state := by rw [stateAfter_append, h.state, h'.state]

/-- What comes before asks nothing. -/
theorem Idle.bind_relays {s : Step Entry (Bridge N G S) α} {f : α → Step Entry (Bridge N G S) β}
    (hs : Step.Tells Idle s)
    (hf : Relays asked (s.run b).state ((f (s.run b).answer).run (s.run b).state).journal
      ((f (s.run b).answer).run (s.run b).state).state) :
    Relays asked b ((s >>= f).run b).journal ((s >>= f).run b).state :=
  (hs b).relays.append hf

/-- What comes after asks nothing. -/
theorem Relays.bind_idle {s : Step Entry (Bridge N G S) α} {f : α → Step Entry (Bridge N G S) β}
    (hs : Relays asked b (s.run b).journal (s.run b).state) (hf : ∀ a, Step.Tells Idle (f a)) :
    Relays asked b ((s >>= f).run b).journal ((s >>= f).run b).state := by
  have happend := hs.append (hf (s.run b).answer (s.run b).state).relays
  rwa [List.append_nil] at happend

/-- The window manager is asked one thing. -/
theorem relays_askManager {s : Step Note N α} {call : α → Call} {a : ManagerAction W Y}
    (hcall : Moment.call? (⟨b.events.manager, a⟩ : Moment N W Y) =
      some (call (s.run b.events.manager).answer))
    (hafter : Moment.after (⟨b.events.manager, a⟩ : Moment N W Y) =
      (s.run b.events.manager).state) :
    Relays [a] b ((askManager s call).run b).journal ((askManager s call).run b).state where
  calls := by
    rw [moments, moments, callsOf, List.filterMap_cons_some hcall, run_askManager,
      Entry.calls_append, Entry.calls_map_note]
    exact (managerCalls_cons_of_not (Moment.not_isGraphics hcall) []).symm
  state := hafter

/-- An operation on a live window asks for that window, and one on a destroyed window for none. -/
theorem relays_of_handle {h : HandleRef} (operation : String) (ask : WindowId → ManagerAction W Y)
    {f : WindowId → Step Entry (Bridge N G S) (Except BridgeError α)}
    {s : Step Entry (Bridge N G S) (Except BridgeError α)}
    (hs : s = (do
      match (← handle h).liveId operation with
      | .error e => pure (.error e)
      | .ok id => f id))
    (hf : ∀ id, Relays [ask id] b ((f id).run b).journal ((f id).run b).state) :
    Relays ((b.registry.handle h).id?.toList.map ask) b (s.run b).journal (s.run b).state := by
  rw [hs, Step.run_bind, run_handle]
  cases hid : (b.registry.handle h).id? with
  | none =>
    simp only [Handle.liveId, hid]
    exact (chronicle_idle.nil b).relays
  | some id =>
    simp only [Handle.liveId, hid]
    exact hf id

/-! ## Operations -/

variable (b)

theorem relays_query (h : HandleRef) (q : Query) :
    Relays ((b.registry.handle h).id?.toList.map fun id => (.query id q : ManagerAction W Y)) b
      ((query h q).run b).journal ((query h q).run b).state := by
  refine relays_of_handle q.operation _ rfl fun id => ?_
  exact Relays.bind_idle (relays_askManager rfl rfl) fun _ => chronicle_idle.pure _

theorem relays_changeBy (operation : String) (h : HandleRef) (change : WindowChange) :
    Relays ((b.registry.handle h).id?.toList.map fun id => (.update id change : ManagerAction W Y))
      b ((changeBy operation h change).run b).journal
      ((changeBy operation h change).run b).state := by
  refine relays_of_handle operation _ rfl fun id => ?_
  exact Relays.bind_idle (relays_askManager rfl rfl) fun _ => chronicle_idle.pure _

theorem relays_setDeviceFilter (filter : DeviceFilter) :
    Relays [(.setDeviceFilter filter : ManagerAction W Y)] b
      ((setDeviceFilter filter).run b).journal ((setDeviceFilter filter).run b).state :=
  relays_askManager rfl rfl

section Graphics

variable [GraphicsBackend G S]

theorem relays_destroyWindow (h : HandleRef) :
    Relays ((b.registry.handle h).id?.toList.map fun id => (.destroy id : ManagerAction W Y)) b
      ((destroyWindow h).run b).journal ((destroyWindow h).run b).state := by
  refine relays_of_handle "destroy" _ rfl fun id => Idle.bind_relays (idle_releaseSurface h) ?_
  refine Relays.bind_idle (relays_askManager rfl rfl) fun _ => ?_
  exact chronicle_idle.bind (idle_changeRegistry _) fun _ =>
    chronicle_idle.bind (idle_say _ _) fun _ => chronicle_idle.pure _

/-- What a request for a surface asks: a drawable, if there is neither a surface nor a drawable. -/
def drawableAsked : Handle S → List (ManagerAction W Y)
  | .live id none none => [.drawable id]
  | _ => []

omit [GraphicsBackend G S] in
theorem relays_drawableOf (h : HandleRef) (id : WindowId) :
    Relays [(.drawable id : ManagerAction W Y)] b ((drawableOf h id none).run b).journal
      ((drawableOf h id none).run b).state := by
  refine Relays.bind_idle (relays_askManager rfl rfl) fun answer => ?_
  cases answer with
  | error e => exact chronicle_idle.bind (chronicle_idle.pure ()) fun _ => chronicle_idle.pure _
  | ok drawable => exact chronicle_idle.bind (idle_changeRegistry _) fun _ => chronicle_idle.pure _

theorem relays_gpuSurface (h : HandleRef) :
    Relays (drawableAsked (b.registry.handle h) : List (ManagerAction W Y)) b
      ((gpuSurface h).run b).journal ((gpuSurface h).run b).state := by
  rcases hh : b.registry.handle h with ⟨id, kept, _ | surface⟩ | _
  · rw [run_gpuSurface_unbound hh]
    cases kept with
    | some drawable => exact Idle.relays (idle_bindTo h id (.ok drawable) b)
    | none => exact (relays_drawableOf b h id).bind_idle (idle_bindTo h id)
  · have hrun : (gpuSurface h).run b = ⟨.ok surface, b, []⟩ := by
      unfold gpuSurface
      rw [Step.run_bind, run_handle, hh]
      rfl
    have hnone :
        (drawableAsked (.live id kept (some surface)) : List (ManagerAction W Y)) = [] := by
      cases kept <;> rfl
    rw [hrun, hnone]
    exact (chronicle_idle.nil b).relays
  · have hrun : (gpuSurface h).run b = ⟨.error (.invalidHandle "getGPUSurface" 1), b, []⟩ := by
      unfold gpuSurface
      rw [Step.run_bind, run_handle, hh]
      rfl
    rw [hrun]
    exact (chronicle_idle.nil b).relays

/-- What creating a window asks: a window, if the options describe one. -/
def windowAsked (b : Bridge N G S) (options : WindowOptions) : List (ManagerAction W Y) :=
  match (options.orElse b.defaultWindow).attributes? with
  | .ok attributes => [.create attributes]
  | .error _ => []

theorem relays_createWindow (options : WindowOptions) :
    Relays (b.windowAsked options : List (ManagerAction W Y)) b
      ((createWindow options).run b).journal ((createWindow options).run b).state := by
  unfold createWindow windowAsked
  refine Idle.bind_relays (s := Step.get) chronicle_idle.nil ?_
  simp only [Step.run_get]
  cases (options.orElse b.defaultWindow).attributes? with
  | error e => exact (chronicle_idle.nil b).relays
  | ok attributes =>
    refine Relays.bind_idle (relays_askManager rfl rfl) fun answer => ?_
    cases answer with
    | error e => exact chronicle_idle.pure _
    | ok id =>
      -- a handle that is replaced goes, which is no matter of the window manager
      refine chronicle_idle.bind (idle_enter id) fun entered => ?_
      obtain ⟨h, _ | old⟩ := entered
      · exact chronicle_idle.bind (idle_say _ _) fun _ => chronicle_idle.pure _
      · exact chronicle_idle.bind (idle_releaseSurface old) fun _ =>
          chronicle_idle.bind (idle_changeRegistry _) fun _ =>
            chronicle_idle.bind (idle_say _ _) fun _ => chronicle_idle.pure _

end Graphics

/-! ## Events -/

/-- What a consumer asks when it looks: the next event, unless another consumer waits. -/
def lookAsked (b : Bridge N G S) : Consumer W → List (ManagerAction W Y)
  | .fresh => if b.events.waiting then [] else [.poll none]
  | .waiting token => [.poll (some token)]

/-- What a consumer asks when it leaves: an end of its wait, if it waits. -/
def leaveAsked : Consumer W → List (ManagerAction W Y)
  | .fresh => []
  | .waiting token => [.leave token]

theorem relays_pollEvent (consumer : Consumer W) :
    Relays (b.lookAsked consumer : List (ManagerAction W Y)) b ((pollEvent consumer).run b).journal
      ((pollEvent consumer).run b).state := by
  have hlook : ∀ (stream : EventStream N) (token : Option W),
      let o := (EventStream.look b.registry.resolve token).run stream
      callsOf (moments stream.manager [(.poll token : ManagerAction W Y)]) =
          managerCalls (Entry.calls o.journal) ∧
        stateAfter stream.manager [(.poll token : ManagerAction W Y)] = o.state.manager := by
    intro stream token o
    obtain ⟨-, hstate, hcalls⟩ := EventStream.run_look b.registry.resolve stream token
    rw [show o.state = _ from hstate, show Entry.calls o.journal = _ from hcalls]
    exact ⟨rfl, rfl⟩
  cases consumer with
  | fresh =>
    cases hw : b.events.waiting with
    | true =>
      have hidle : Idle b ((pollEvent (.fresh : Consumer W)).run b).journal
          ((pollEvent (.fresh : Consumer W)).run b).state := by
        unfold pollEvent
        rw [Step.run_bind, Step.run_get, run_onEvents, EventStream.run_poll_busy _ _ hw]
        exact ⟨rfl, rfl⟩
      rw [lookAsked, if_pos hw]
      exact hidle.relays
    | false =>
      rw [lookAsked, if_neg (by simp [hw])]
      unfold pollEvent
      rw [Step.run_bind, Step.run_get, run_onEvents, EventStream.run_poll_admitted _ _ hw]
      exact ⟨(hlook { b.events with waiting := true } none).1,
        (hlook { b.events with waiting := true } none).2⟩
  | waiting token => exact ⟨(hlook b.events (some token)).1, (hlook b.events (some token)).2⟩

theorem relays_cancelEvent (consumer : Consumer W) :
    Relays (leaveAsked consumer : List (ManagerAction W Y)) b ((cancelEvent consumer).run b).journal
      ((cancelEvent consumer).run b).state := by
  cases consumer with
  | fresh => exact (chronicle_idle.nil b).relays
  | waiting token =>
    obtain ⟨hstate, hcalls⟩ := EventStream.run_cancel_waiting b.events token
    refine ⟨?_, ?_⟩
    · show _ = managerCalls
        (Entry.calls ((EventStream.cancel (.waiting token)).run b.events).journal)
      rw [hcalls]
      rfl
    · show _ = ((EventStream.cancel (.waiting token)).run b.events).state.manager
      rw [hstate]
      rfl

end Bridge

/-! ## Sessions -/

namespace Session

variable {N W G S X Y : Type}

/-- What an action asks of the window manager of a session, or lets happen to it, which is told by
`tell`. -/
def asked (tell : X → Y) (session : Session N G S W) : Action X → List (ManagerAction W Y)
  | .create options => session.1.windowAsked options
  | .destroy h => (session.1.registry.handle h).id?.toList.map .destroy
  | .gpuSurface h => Bridge.drawableAsked (session.1.registry.handle h)
  | .query h q => (session.1.registry.handle h).id?.toList.map fun id => .query id q
  | .change h c => (session.1.registry.handle h).id?.toList.map fun id => .update id c
  | .setAlwaysOnTop h onTop =>
    (session.1.registry.handle h).id?.toList.map fun id => .update id (.level (.ofOnTop onTop))
  | .resolve _ | .windowCount | .windows => []
  | .setDeviceFilter filter => [.setDeviceFilter filter]
  | .come name | .leave name => (session.2.find? name).toList.flatMap Bridge.leaveAsked
  | .poll name => (session.2.find? name).toList.flatMap session.1.lookAsked
  | .outside x => [.outside (tell x)]

/-- What happens past the bridge in an action is what the action says. -/
theorem outside_asked (tell : X → Y) (session : Session N G S W) (a : Action X) :
    (asked tell session a).filterMap ManagerAction.outside? = (a.outside?.map tell).toList := by
  have hhandle : ∀ (h : HandleRef) (ask : WindowId → ManagerAction W Y),
      (∀ id, (ask id).outside? = none) →
      ((session.1.registry.handle h).id?.toList.map ask).filterMap ManagerAction.outside? = [] := by
    intro h ask hask
    cases (session.1.registry.handle h).id? with
    | none => rfl
    | some id => exact List.filterMap_cons_none (hask id)
  have hleave : ∀ name, (((session.2.find? name).toList.flatMap Bridge.leaveAsked :
      List (ManagerAction W Y)).filterMap ManagerAction.outside?) = [] := by
    intro name
    rcases session.2.find? name with _ | (_ | token) <;> rfl
  cases a with
  | create options =>
    show (session.1.windowAsked options).filterMap ManagerAction.outside? = []
    unfold Bridge.windowAsked
    cases (options.orElse session.1.defaultWindow).attributes? <;> rfl
  | destroy h => exact hhandle h _ fun _ => rfl
  | gpuSurface h =>
    show (Bridge.drawableAsked (session.1.registry.handle h)).filterMap _ = []
    rcases session.1.registry.handle h with ⟨id, _ | drawable, _ | surface⟩ | _ <;> rfl
  | query h q => exact hhandle h _ fun _ => rfl
  | change h c => exact hhandle h _ fun _ => rfl
  | setAlwaysOnTop h onTop => exact hhandle h _ fun _ => rfl
  | come name => exact hleave name
  | leave name => exact hleave name
  | poll name =>
    show ((session.2.find? name).toList.flatMap session.1.lookAsked).filterMap _ = []
    rcases session.2.find? name with _ | (_ | token)
    · rfl
    · rw [Option.toList_some, List.flatMap_singleton, Bridge.lookAsked]
      split <;> rfl
    · rfl
  | _ => rfl

variable [WindowManager N W] [GraphicsBackend G S] [Surroundings X N] [Surroundings Y N]
  (session : Session N G S W)

omit [GraphicsBackend G S] in
/-- Telling a script of a step asks nothing more. -/
theorem relays_told {α : Type} {s : Step Entry (Session N G S W) α}
    {asked : List (ManagerAction W Y)}
    (hs : Bridge.Relays asked session.1 (s.run session).journal (s.run session).state.1)
    (answer : α → Answer S) :
    let o := (s >>= fun a => pure (answer a)).run session
    Bridge.Relays asked session.1 o.journal o.state.1 := by
  intro o
  rw [show o.journal = (s.run session).journal from List.append_nil _]
  exact hs

omit [GraphicsBackend G S] in
/-- A consumer that looks asks what it asks of the bridge. -/
theorem relays_poll (name : String) :
    let o := (Consumers.poll source name).run session
    Bridge.Relays ((session.2.find? name).toList.flatMap session.1.lookAsked :
      List (ManagerAction W Y)) session.1 o.journal o.state.1 := by
  obtain ⟨b, c⟩ := session
  intro o
  cases hf : c.find? name with
  | none =>
    have hrun : o = ⟨none, (b, c), []⟩ := Consumers.run_poll_absent source b c hf
    rw [hrun]
    exact Bridge.Idle.relays (Bridge.chronicle_idle.nil b)
  | some consumer =>
    obtain ⟨hjournal, hstate⟩ : o.journal = ((Bridge.pollEvent consumer).run b).journal ∧
        o.state.1 = ((Bridge.pollEvent consumer).run b).state :=
      Consumers.source_poll source b c hf
    rw [hjournal, hstate, Option.toList_some, List.flatMap_singleton]
    exact Bridge.relays_pollEvent b consumer

omit [GraphicsBackend G S] in
/-- So does one that is dismissed. -/
theorem relays_dismiss (consumer : Option (Consumer W)) :
    let o := (Consumers.dismiss source consumer).run session
    Bridge.Relays (consumer.toList.flatMap Bridge.leaveAsked : List (ManagerAction W Y)) session.1
      o.journal o.state.1 := by
  cases consumer with
  | none => exact Bridge.Idle.relays (Bridge.chronicle_idle.nil session.1)
  | some consumer =>
    rw [Option.toList_some, List.flatMap_singleton]
    exact Bridge.relays_cancelEvent session.1 consumer

/-- An action asks of the window manager what `asked` says, and nothing else. -/
theorem relays_perform {tell : X → Y}
    (htell : ∀ x, (Surroundings.happen (tell x) : Step Note N Unit) = Surroundings.happen x)
    (a : Action X) :
    let o := (perform a).run session
    Bridge.Relays (asked tell session a) session.1 o.journal o.state.1 := by
  have hidle : Bridge.Relays ([] : List (ManagerAction W Y)) session.1 [] session.1 :=
    Bridge.Idle.relays (Bridge.chronicle_idle.nil session.1)
  cases a with
  | create options => exact relays_told session (Bridge.relays_createWindow _ options) _
  | destroy h => exact relays_told session (Bridge.relays_destroyWindow _ h) _
  | gpuSurface h => exact relays_told session (Bridge.relays_gpuSurface _ h) _
  | query h q => exact relays_told session (Bridge.relays_query _ h q) _
  | change h c => exact relays_told session (Bridge.relays_changeBy _ _ h c) _
  | setAlwaysOnTop h onTop => exact relays_told session (Bridge.relays_changeBy _ _ h _) _
  | resolve id => exact hidle
  | windowCount => exact hidle
  | windows => exact hidle
  | setDeviceFilter filter =>
    exact relays_told session (Bridge.relays_setDeviceFilter _ filter) _
  | come name =>
    refine relays_told session ?_ fun _ => .nothing
    rw [Consumers.run_come]
    exact relays_dismiss (session.1, session.2.put name .fresh) _
  | poll name => exact relays_told session (relays_poll session name) .looked
  | leave name =>
    refine relays_told session ?_ .left
    rw [Consumers.run_leave]
    exact relays_dismiss (session.1, session.2.erase name) _
  | outside x =>
    refine relays_told session ⟨?_, ?_⟩ fun _ => .nothing
    · show _ = managerCalls
        (Entry.calls ((Bridge.onManager (Surroundings.happen x)).run session.1).journal)
      rw [Bridge.run_onManager, Entry.calls_map_note]
      rfl
    · show ((Surroundings.happen (tell x) : Step Note N Unit).run _).state = _
      rw [htell]
      rfl

/-! ## Histories -/

/-- What a list of actions asks of the window manager, from the first to the last. -/
def askedAlong (tell : X → Y) (session : Session N G S W) :
    List (Action X) → List (ManagerAction W Y)
  | [] => []
  | a :: rest => asked tell session a ++ askedAlong tell ((perform a).run session).state rest

/-- What a history asks of the window manager: before all else the filter is set. -/
def askedIn (tell : X → Y) (manager : N) (graphics : G) (settings : Settings)
    (actions : List (Action X)) : List (ManagerAction W Y) :=
  let begun : Session N G S W := ((Bridge.start manager graphics settings).state, {})
  .setDeviceFilter settings.deviceFilter :: askedAlong tell begun actions

theorem relays_performAll {tell : X → Y}
    (htell : ∀ x, (Surroundings.happen (tell x) : Step Note N Unit) = Surroundings.happen x)
    (actions : List (Action X)) :
    let o := (performAll actions).run session
    Bridge.Relays (askedAlong tell session actions) session.1 o.journal o.state.1 := by
  induction actions generalizing session with
  | nil => exact Bridge.Idle.relays (Bridge.chronicle_idle.nil session.1)
  | cons a rest ih =>
    have hfirst := relays_perform session htell a
    have hrest := hfirst.append (ih ((perform a).run session).state)
    intro o
    have hjournal : o.journal = ((perform a).run session).journal ++
        ((performAll rest).run ((perform a).run session).state).journal := by
      show _ ++ (_ ++ []) = _
      rw [List.append_nil]
    rw [hjournal]
    exact hrest

/-- The window manager of a history goes through the run of what it is asked. The calls of the run
are those that the history makes to it, with their answers, and it ends where the history ends. -/
theorem run_askedIn {tell : X → Y}
    (htell : ∀ x, (Surroundings.happen (tell x) : Step Note N Unit) = Surroundings.happen x)
    (manager : N) (graphics : G) (settings : Settings) (actions : List (Action X)) :
    let past : Outcome Entry (Session N G S W) (List (Answer S)) :=
      history manager graphics settings actions
    let done := askedIn tell manager graphics settings actions
    callsOf (moments manager done) = managerCalls (Entry.calls past.journal) ∧
      stateAfter manager done = past.state.1.events.manager := by
  intro past done
  let b : Bridge N G S :=
    { events := ⟨manager, false⟩, graphics, defaultWindow := settings.defaultWindow }
  have hstart := (Bridge.relays_setDeviceFilter (Y := Y) b settings.deviceFilter).bind_idle
    fun _ => Bridge.idle_say .info ("WSI context ready (device events: " ++
      Vocabulary.label settings.deviceFilter ++ ")")
  have hall : Bridge.Relays done b past.journal past.state.1 :=
    hstart.append (relays_performAll _ htell actions)
  exact ⟨hall.calls, hall.state⟩

omit [Surroundings Y N] in
/-- What happens past the bridge in the run is what happens there in the history. -/
theorem outside_askedIn (tell : X → Y) (manager : N) (graphics : G) (settings : Settings)
    (actions : List (Action X)) :
    (askedIn tell manager graphics settings actions).filterMap ManagerAction.outside? =
      (actions.filterMap Action.outside?).map tell := by
  have halong : ∀ session : Session N G S W,
      (askedAlong tell session actions).filterMap ManagerAction.outside? =
        (actions.filterMap Action.outside?).map tell := by
    induction actions with
    | nil => exact fun _ => rfl
    | cons a rest ih =>
      intro session
      rw [askedAlong, List.filterMap_append, outside_asked, ih, List.filterMap_cons]
      cases a.outside? <;> rfl
  exact halong _

end Session

end WindowSystem
