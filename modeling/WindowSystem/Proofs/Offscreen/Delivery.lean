/-
# Delivery of offscreen events

Over every history of a session with the offscreen window manager, events go through its queue in
order: those taken so far, followed by those still queued, are those sent. Each event taken is
handed to the consumer who looked, unless it is a device event that the filter held back at that
moment. The claim to the queue, the mark of the event stream and the one consumer who waits go
together (`Attached`), which is why nobody ever waits while there is something in the queue.
-/
import WindowSystem.Proofs.Bridge.Frame
import WindowSystem.Proofs.EventStream.SingleConsumer
import WindowSystem.Proofs.Offscreen.Queue

namespace WindowSystem

/-! ## A bridge as a source of events -/

section Source

variable {N W G S : Type} [WindowManager N W]

/-- A bridge lets one consumer wait at a time. -/
theorem Session.exclusive_source :
    (source : Source Entry (Bridge N G S) W _).Exclusive fun b => b.events.waiting where
  refuses b hw := (EventStream.exclusive_source b.registry.resolve).refuses b.events hw
  admits b hw := (EventStream.exclusive_source b.registry.resolve).admits b.events hw
  again b token hw := (EventStream.exclusive_source b.registry.resolve).again b.events token hw
  cancelFresh _ := rfl
  cancelWaiting b token :=
    (EventStream.exclusive_source b.registry.resolve).cancelWaiting b.events token

end Source

/-! ## What is sent, taken and delivered -/

/-- The event that an answer hands to a consumer. -/
def Answer.delivered? {S : Type} : Answer S → Option (Event (Option HandleRef))
  | .looked (some (.ready (.ok event))) => some event
  | _ => none

namespace Offscreen

variable {G S : Type}

/-- The events that an action sends: those injected, and those that report a change back. -/
def sentBy (b : Bridge Manager G S) : Action Outside → List RawEvent
  | .outside (.send event) => [event]
  | .outside (.rescale id factor) => b.events.manager.rescaleEchoes id factor
  | .change h change =>
    match (b.registry.handle h).id? with
    | some id => b.events.manager.echoes id change
    | none => []
  | _ => []

/-- An event taken from the queue, with the filter, the focus and the windows of that moment. -/
structure Taken where
  event : RawEvent
  filter : DeviceFilter
  focused : Option WindowId
  resolve : WindowId → Option HandleRef

namespace Taken

/-- Whether an event is held back: a device event, if the filter lets none through, or none while
a window has the focus and one has. -/
def isHeldBack (t : Taken) : Bool :=
  t.event.isDevice && (t.filter == .never || t.filter == .unfocused && t.focused.isSome)

/-- The event as a consumer sees it, with the handle of its window. -/
def seen (t : Taken) : Event (Option HandleRef) := t.event.mapWindow t.resolve

/-- A consumer sees the event that was taken, the same but for its window. -/
theorem sameUnder_seen (t : Taken) : t.event.SameUnder t.resolve t.seen :=
  t.event.sameUnder_mapWindow t.resolve

/-- Only device events are held back. -/
theorem isHeldBack_of_not_device {t : Taken} (h : t.event.isDevice = false) :
    t.isHeldBack = false := by
  rw [isHeldBack, h, Bool.false_and]

/-- A consumer sees whether an event concerns a device. -/
theorem isDevice_seen (t : Taken) : t.seen.isDevice = t.event.isDevice := by
  unfold seen
  cases t.event <;> rfl

/-- All events that concern no device are seen. -/
theorem filter_map_seen (all : List Taken) :
    ((all.filter fun t => !t.isHeldBack).map seen).filter (fun event => !event.isDevice) =
      (all.filter fun t => !t.event.isDevice).map seen := by
  rw [List.filter_map, List.filter_filter]
  congr 1
  refine List.filter_congr fun t _ => ?_
  rw [Function.comp_apply, isDevice_seen]
  cases hd : t.event.isDevice with
  | true => rfl
  | false => rw [isHeldBack_of_not_device hd]; rfl

/-- An event taken at the moment. -/
def now (b : Bridge Manager G S) (event : RawEvent) : Taken :=
  ⟨event, b.events.manager.filter, b.events.manager.focused, b.registry.resolve⟩

/-- The window manager holds back what the filter and the focus of the moment say. -/
theorem isHeldBack_now (b : Bridge Manager G S) (event : RawEvent) :
    (now b event).isHeldBack = !b.events.manager.delivers event := by
  unfold isHeldBack now Manager.delivers
  cases event.isDevice with
  | false => rfl
  | true => cases b.events.manager.filter <;> cases b.events.manager.focused <;> rfl

/-- The events are told apart from how they were recorded. -/
theorem map_event_now (b : Bridge Manager G S) (front : List RawEvent) :
    (front.map (now b)).map event = front := by
  rw [List.map_map]
  exact List.map_id front

/-- What the window manager holds back is not seen. -/
theorem filter_now_of_held (b : Bridge Manager G S) {front : List RawEvent}
    (h : ∀ e ∈ front, b.events.manager.delivers e = false) :
    (front.map (now b)).filter (fun t => !t.isHeldBack) = [] := by
  refine List.filter_eq_nil_iff.mpr fun t ht => ?_
  obtain ⟨e, he, rfl⟩ := List.mem_map.mp ht
  rw [isHeldBack_now, h e he]
  decide

end Taken

variable [GraphicsBackend G S]

/-- The events that an action takes: those that a look leaves missing at the front of the
queue. -/
def takenBy (session : Session Manager G S Waiter) (a : Action Outside) : List Taken :=
  match a with
  | .poll _ =>
    let before := session.1.events.manager
    let after := ((Session.perform a).run session).state.1.events.manager
    (before.queue.take (before.queue.length - after.queue.length)).map (Taken.now session.1)
  | _ => []

/-- The events that a list of actions sends. -/
def sentAlong (session : Session Manager G S Waiter) : List (Action Outside) → List RawEvent
  | [] => []
  | a :: rest => sentBy session.1 a ++ sentAlong ((Session.perform a).run session).state rest

/-- The events that a list of actions takes. -/
def takenAlong (session : Session Manager G S Waiter) : List (Action Outside) → List Taken
  | [] => []
  | a :: rest => takenBy session a ++ takenAlong ((Session.perform a).run session).state rest

/-! ## The claim, the mark and the consumer who waits -/

/-- The queue is claimed exactly while a consumer waits for it, and that one is the holder. -/
structure Attached (session : Session Manager G S Waiter) : Prop where
  alone : Consumers.Alone session.1.events.waiting session.2
  claimed_eq : session.1.events.manager.claimed = session.1.events.waiting
  holder : ∀ name token, session.2.find? name = some (.waiting token) → token = .holder

variable {session : Session Manager G S Waiter}

omit [GraphicsBackend G S] in
/-- What leaves claim, mark and consumers alone keeps them together. -/
theorem Attached.congr {after : Session Manager G S Waiter} (h : Attached session)
    (hclaimed : after.1.events.manager.claimed = session.1.events.manager.claimed)
    (hwaiting : after.1.events.waiting = session.1.events.waiting)
    (hconsumers : after.2 = session.2) : Attached after where
  alone := by
    rw [hwaiting, hconsumers]
    exact h.alone
  claimed_eq := by rw [hclaimed, hwaiting, h.claimed_eq]
  holder name token hf := h.holder name token (by rw [← hconsumers, hf])

/-- What an action does to the queue and to the one who waits. -/
structure Passes (session : Session Manager G S Waiter) (a : Action Outside) : Prop where
  attached : Attached ((Session.perform a).run session).state
  queue : (takenBy session a).map Taken.event ++
      ((Session.perform a).run session).state.1.events.manager.queue =
    session.1.events.manager.queue ++ sentBy session.1 a
  delivered : ((Session.perform a).run session).answer.delivered?.toList =
    ((takenBy session a).filter fun t => !t.isHeldBack).map Taken.seen

/-! ## Actions that take nothing -/

/-- An action that takes nothing, leaves the consumers alone and sends what it is said to send. -/
theorem passes_of_sends (h : Attached session) {a : Action Outside}
    (hsends : Manager.Sends session.1.events.manager
      ((Session.perform a).run session).state.1.events.manager (sentBy session.1 a))
    (hwaiting : ((Session.perform a).run session).state.1.events.waiting =
      session.1.events.waiting)
    (hconsumers : ((Session.perform a).run session).state.2 = session.2)
    (htaken : takenBy session a = [])
    (hanswer : ((Session.perform a).run session).answer.delivered? = none) :
    Passes session a where
  attached := h.congr hsends.claimed hwaiting hconsumers
  queue := by rw [htaken, hsends.queue, List.map_nil, List.nil_append]
  delivered := by rw [htaken, hanswer]; rfl

/-- Nothing is sent, and the mark of the event stream stays. -/
structure Quiet (b b' : Bridge Manager G S) : Prop where
  sends : Manager.Sends b.events.manager b'.events.manager []
  waiting_eq : b'.events.waiting = b.events.waiting

omit [GraphicsBackend G S] in
theorem quiet_refl (b : Bridge Manager G S) : Quiet b b := ⟨Manager.sends_nil rfl rfl, rfl⟩

omit [GraphicsBackend G S] in
theorem isFrame_quiet :
    Bridge.IsFrame (Quiet : Bridge Manager G S → Bridge Manager G S → Prop) where
  refl := quiet_refl
  trans h h' := by
    refine ⟨Manager.sends_nil ?_ (h'.sends.claimed.trans h.sends.claimed),
      h'.waiting_eq.trans h.waiting_eq⟩
    rw [h'.sends.queue, h.sends.queue, List.append_nil, List.append_nil]
  graphics b _ := ⟨Manager.sends_nil rfl rfl, rfl⟩

omit [GraphicsBackend G S] in
/-- A call to the window manager that sends nothing. -/
theorem quiet_askManager {α : Type} {s : Step Note Manager α} (call : α → Call)
    (hs : ∀ m, Manager.Sends m (s.run m).state []) :
    Bridge.Respects Quiet (Bridge.askManager s call : Step Entry (Bridge Manager G S) α) :=
  fun b => ⟨hs b.events.manager, rfl⟩

omit [GraphicsBackend G S] in
/-- A change of the registry sends nothing. -/
theorem quiet_changeRegistry (f : Registry S → Registry S) :
    Bridge.Respects Quiet (Bridge.changeRegistry f : Step Entry (Bridge Manager G S) Unit) :=
  fun _ => ⟨Manager.sends_nil rfl rfl, rfl⟩

/-- An operation that sends nothing. -/
theorem passes_quiet {α : Type} {s : Step Entry (Bridge Manager G S) α}
    (hs : Bridge.Respects Quiet s) (answer : α → Answer S) (h : Attached session)
    {a : Action Outside} (ha : Session.perform a = Session.onBridge s answer)
    (hsent : sentBy session.1 a = []) (htaken : takenBy session a = [])
    (hanswer : ∀ x, (answer x).delivered? = none) : Passes session a := by
  have hquiet : Quiet session.1 ((Session.perform a).run session).state.1 := by
    rw [ha]
    exact hs session.1
  refine passes_of_sends h ?_ hquiet.waiting_eq ?_ htaken ?_
  · rw [hsent]
    exact hquiet.sends
  · rw [ha]
    rfl
  · rw [ha]
    exact hanswer _

omit [GraphicsBackend G S] in
/-- A change of a window sends what reports it back. -/
theorem sends_changeBy (operation : String) (h : HandleRef) (change : WindowChange)
    (b : Bridge Manager G S) :
    Manager.Sends b.events.manager ((Bridge.changeBy operation h change).run b).state.events.manager
        (sentBy b (.change h change)) ∧
      ((Bridge.changeBy operation h change).run b).state.events.waiting = b.events.waiting := by
  unfold Bridge.changeBy
  rw [Step.run_bind, Bridge.run_handle]
  cases hid : (b.registry.handle h).id? with
  | none =>
    simp only [sentBy, Handle.liveId, hid]
    exact ⟨Manager.sends_nil rfl rfl, rfl⟩
  | some id =>
    simp only [sentBy, Handle.liveId, hid]
    exact ⟨b.events.manager.sends_update id change, rfl⟩

omit [GraphicsBackend G S] in
/-- A stacking level is not reported back. -/
theorem sentBy_level (h : HandleRef) (level : StackLevel) (b : Bridge Manager G S) :
    sentBy b (.change h (.level level)) = [] := by
  cases hid : (b.registry.handle h).id? with
  | none => simp only [sentBy, hid]
  | some id =>
    simp only [sentBy, hid, Manager.echoes]
    cases b.events.manager.windows.get? id <;> rfl

/-! ## Consumers come and leave -/

omit [GraphicsBackend G S] in
/-- A consumer who is dismissed takes nothing along. One who waited lets go of the claim and of
the mark. -/
theorem run_dismiss_of_attached (h : Attached session) (name : String)
    (c : Consumers Waiter) :
    let after := (Consumers.dismiss Session.source (session.2.find? name)).run (session.1, c)
    after.state.1.events.manager.queue = session.1.events.manager.queue ∧
      after.state.1.events.manager.claimed = after.state.1.events.waiting := by
  -- only the holder gives the claim up, so it matters that the one who waits is the holder
  rcases hf : session.2.find? name with _ | (_ | token)
  · exact ⟨rfl, h.claimed_eq⟩
  · exact ⟨rfl, h.claimed_eq⟩
  · rw [h.holder name token hf]
    exact ⟨rfl, rfl⟩

/-- An action by which a consumer is dismissed takes nothing. -/
theorem passes_of_dismissed (h : Attached session) {a : Action Outside} {name : String}
    {c : Consumers Waiter}
    (hstate : ((Session.perform a).run session).state =
      ((Consumers.dismiss Session.source (session.2.find? name)).run (session.1, c)).state)
    (halone : Consumers.Alone ((Session.perform a).run session).state.1.events.waiting
      ((Session.perform a).run session).state.2)
    (hwaiters : ∀ other token, c.find? other = some (.waiting token) →
      session.2.find? other = some (.waiting token))
    (htaken : takenBy session a = []) (hsent : sentBy session.1 a = [])
    (hanswer : ((Session.perform a).run session).answer.delivered? = none) :
    Passes session a := by
  obtain ⟨hqueue, hclaimed⟩ := run_dismiss_of_attached h name c
  refine ⟨⟨halone, ?_, fun other token hf => ?_⟩, ?_, ?_⟩
  · rw [hstate]
    exact hclaimed
  · rw [hstate, Consumers.dismiss_consumers] at hf
    exact h.holder other token (hwaiters other token hf)
  · rw [htaken, hsent, hstate, hqueue, List.append_nil]
    rfl
  · rw [htaken, hanswer]
    rfl

/-- A consumer who comes takes nothing. -/
theorem passes_come (h : Attached session) (name : String) :
    Passes session (.come name) := by
  have hstate := congrArg Outcome.state
    (Consumers.run_come Session.source session.1 session.2 name)
  exact passes_of_dismissed h hstate (Consumers.alone_come Session.exclusive_source h.alone name)
    (fun _ _ => Consumers.find?_of_put_fresh) rfl rfl rfl

/-- A consumer who leaves takes nothing. -/
theorem passes_leave (h : Attached session) (name : String) :
    Passes session (.leave name) := by
  have hstate := congrArg Outcome.state
    (Consumers.run_leave Session.source session.1 session.2 name)
  exact passes_of_dismissed h hstate (Consumers.alone_leave Session.exclusive_source h.alone name)
    (fun _ _ => Consumers.find?_of_erase) rfl rfl rfl

/-! ## A look -/

omit [GraphicsBackend G S] in
/-- Whoever is let in looks at the queue itself, and sees what comes of it. -/
theorem run_poll_of_attached (h : Attached session) {name : String} {consumer : Consumer Waiter}
    (hf : session.2.find? name = some consumer)
    (hadmitted : consumer = .fresh → session.1.events.waiting = false) :
    let looked := Manager.take.run session.1.events.manager
    let o := (Session.source.poll consumer).run session.1
    o.answer = looked.answer.handOn session.1.registry.resolve ∧
      o.state = { session.1 with
        events := ⟨looked.state, EventStream.markAfter true looked.answer⟩ } := by
  obtain ⟨b, c⟩ := session
  have hlook : ∀ token, (WindowManager.poll token).run b.events.manager =
      Manager.take.run b.events.manager →
      ((EventStream.look b.registry.resolve token).run { b.events with waiting := true }).answer =
          (Manager.take.run b.events.manager).answer.handOn b.registry.resolve ∧
        ((EventStream.look b.registry.resolve token).run { b.events with waiting := true }).state =
          ⟨(Manager.take.run b.events.manager).state,
           EventStream.markAfter true (Manager.take.run b.events.manager).answer⟩ := by
    intro token htoken
    obtain ⟨hanswer, hstate, -⟩ := EventStream.run_look b.registry.resolve
      { b.events with waiting := true } token
    rw [htoken] at hanswer hstate
    exact ⟨hanswer, hstate⟩
  cases consumer with
  | fresh =>
    have hw := hadmitted rfl
    have hfree : b.events.manager.claimed = false := h.claimed_eq.trans hw
    have htake : (WindowManager.poll none).run b.events.manager =
        Manager.take.run b.events.manager := by
      show (Manager.poll none).run b.events.manager = _
      unfold Manager.poll
      rw [Step.run_bind, Step.run_get]
      simp only [hfree, Bool.false_eq_true, if_false, List.nil_append]
    obtain ⟨hanswer, hstate⟩ := hlook none htake
    rw [← EventStream.run_poll_admitted b.registry.resolve b.events hw] at hanswer hstate
    exact ⟨hanswer, congrArg (fun events => ({ b with events := events } : Bridge Manager G S))
      hstate⟩
  | waiting token =>
    have hw : b.events.waiting = true := h.alone.marked.mpr ⟨name, token, hf⟩
    have hmarked : { b.events with waiting := true } = b.events := by rw [← hw]
    rw [h.holder name token hf]
    obtain ⟨hanswer, hstate⟩ := hlook (some .holder) rfl
    rw [hmarked] at hanswer hstate
    exact ⟨hanswer, congrArg (fun events => ({ b with events := events } : Bridge Manager G S))
      hstate⟩

/-- What a look has to come to: events are gone from the front of the queue, and the consumer saw
those that were not held back. -/
theorem passes_poll_of {name : String} {front rest : List RawEvent}
    {seen : Option (Poll Unit (Except BridgeError (Event (Option HandleRef))))}
    {after : Session Manager G S Waiter} {journal : List Entry}
    (hpoll : (Consumers.poll Session.source name).run session = ⟨seen, after, journal⟩)
    (hattached : Attached after) (hqueue : session.1.events.manager.queue = front ++ rest)
    (hrest : after.1.events.manager.queue = rest)
    (hseen : (Answer.looked (S := S) seen).delivered?.toList =
      ((front.map (Taken.now session.1)).filter fun t => !t.isHeldBack).map Taken.seen) :
    Passes session (.poll name) := by
  have hrun : (Session.perform (.poll name : Action Outside)).run session =
      ⟨.looked seen, after, journal ++ []⟩ := by
    rw [Session.perform, Step.run_bind, hpoll, Step.run_pure]
  have htaken : takenBy session (.poll name) = front.map (Taken.now session.1) := by
    simp only [takenBy, hrun, hrest, hqueue, List.length_append, Nat.add_sub_cancel,
      List.take_left]
  refine ⟨?_, ?_, ?_⟩
  · rw [hrun]
    exact hattached
  · rw [htaken, Taken.map_event_now, hrun, hrest, hqueue]
    exact (List.append_nil _).symm
  · rw [htaken, hrun]
    exact hseen

/-- A consumer who is let in takes events in order up to the one that is handed out. It goes on
waiting only if nothing is left. -/
theorem passes_poll_admitted (h : Attached session) {name : String} {consumer : Consumer Waiter}
    (hf : session.2.find? name = some consumer)
    (hadmitted : consumer = .fresh → session.1.events.waiting = false) :
    Passes session (.poll name) ∧
      (((Session.perform (.poll name : Action Outside)).run session).answer =
          .looked (some (.pending ())) →
        ((Session.perform (.poll name : Action Outside)).run
          session).state.1.events.manager.queue = []) := by
  have halone := Consumers.alone_poll Session.exclusive_source h.alone name
  obtain ⟨hanswer, hstate⟩ := run_poll_of_attached h hf hadmitted
  have htook := session.1.events.manager.took_take
  obtain ⟨b, c⟩ := session
  revert hanswer hstate
  generalize Manager.take.run b.events.manager = looked at htook
  intro hanswer hstate
  cases htook with
  | nothing hheld =>
    -- the one who looked waits now, as the holder of the claim
    have hpoll := Consumers.run_poll_pending Session.source b c hf hanswer
    rw [hpoll, hstate] at halone
    rw [hstate] at hpoll
    have hattached : Attached (({ b with
        events := ⟨{ b.events.manager with queue := [], claimed := true }, true⟩ },
        c.put name (.waiting .holder)) : Session Manager G S Waiter) := by
      refine ⟨halone, rfl, fun other token ho => ?_⟩
      by_cases hne : other = name
      · rw [hne, Consumers.find?_put_self] at ho
        exact (Consumer.waiting.inj (Option.some.inj ho)).symm
      · rw [Consumers.find?_put_of_ne c _ hne] at ho
        exact h.holder other token ho
    refine ⟨passes_poll_of hpoll hattached (List.append_nil _).symm rfl ?_, fun _ => ?_⟩
    · rw [Taken.filter_now_of_held b hheld]
      rfl
    · show ((Consumers.poll Session.source name).run (b, c)).state.1.events.manager.queue = []
      rw [hpoll]
  | @one notes heldBack rest event hqueue hheld hevent =>
    -- the one who looked is gone, and claim and mark with it
    have hpoll := Consumers.run_poll_ready Session.source b c hf hanswer
    rw [hpoll, hstate] at halone
    rw [hstate] at hpoll
    have hattached : Attached (({ b with
        events := ⟨{ b.events.manager with queue := rest, claimed := false }, false⟩ },
        c.erase name) : Session Manager G S Waiter) := by
      exact ⟨halone, rfl, fun other token ho => h.holder other token (Consumers.find?_of_erase ho)⟩
    have hfront : b.events.manager.queue = (heldBack ++ [event]) ++ rest := by
      rw [hqueue, List.append_assoc, List.singleton_append]
    refine ⟨passes_poll_of hpoll hattached hfront rfl ?_, fun hpending => ?_⟩
    · have hkept : ((([event] : List RawEvent).map (Taken.now b)).filter fun t => !t.isHeldBack) =
          [Taken.now b event] := by
        rw [List.map_singleton, List.filter_singleton, Taken.isHeldBack_now, hevent]
        rfl
      rw [List.map_append, List.filter_append, Taken.filter_now_of_held b hheld, hkept]
      rfl
    · have hlooked : Answer.looked (S := S)
          ((Consumers.poll Session.source name).run (b, c)).answer =
          .looked (some (.pending ())) := hpending
      rw [hpoll] at hlooked
      simp at hlooked

omit [GraphicsBackend G S] in
/-- A bridge refuses a new consumer while another one waits, and nothing else comes of it. -/
theorem run_poll_refused {b : Bridge Manager G S} (hw : b.events.waiting = true) :
    (Session.source.poll .fresh).run b = ⟨.ready (.error .eventStreamBusy), b, []⟩ := by
  show (Bridge.pollEvent .fresh).run b = _
  unfold Bridge.pollEvent
  rw [Step.run_bind, Step.run_get, Bridge.run_onEvents,
    EventStream.run_poll_busy b.registry.resolve b.events hw]
  rfl

/-- Every look takes events in order, hands out the one that is not held back, and leaves its
consumer waiting only if nothing is left. -/
theorem passes_poll (h : Attached session) (name : String) :
    Passes session (.poll name) ∧
      (((Session.perform (.poll name : Action Outside)).run session).answer =
          .looked (some (.pending ())) →
        ((Session.perform (.poll name : Action Outside)).run
          session).state.1.events.manager.queue = []) := by
  have hanswer : ((Session.perform (.poll name : Action Outside)).run session).answer =
      .looked ((Consumers.poll Session.source name).run session).answer := rfl
  cases hf : session.2.find? name with
  | none =>
    have hpoll := Consumers.run_poll_absent Session.source session.1 session.2 hf
    refine ⟨passes_poll_of hpoll h (List.nil_append _).symm rfl rfl, fun hpending => ?_⟩
    rw [hanswer, hpoll] at hpending
    simp at hpending
  | some consumer =>
    by_cases hadmitted : consumer = .fresh → session.1.events.waiting = false
    · exact passes_poll_admitted h hf hadmitted
    · -- a new consumer, while another one waits
      rw [Classical.not_imp, Bool.not_eq_false] at hadmitted
      obtain ⟨rfl, hw⟩ := hadmitted
      have hrefused := run_poll_refused hw
      have hpoll := Consumers.run_poll_ready Session.source session.1 session.2 hf
        (congrArg Outcome.answer hrefused)
      have halone := Consumers.alone_poll Session.exclusive_source h.alone name
      rw [hpoll, hrefused] at halone
      rw [hrefused] at hpoll
      have hattached :
          Attached ((session.1, session.2.erase name) : Session Manager G S Waiter) :=
        ⟨halone, h.claimed_eq,
          fun other token ho => h.holder other token (Consumers.find?_of_erase ho)⟩
      refine ⟨passes_poll_of hpoll hattached (List.nil_append _).symm rfl rfl, fun hpending => ?_⟩
      rw [hanswer, hpoll] at hpending
      simp at hpending

/-! ## Histories -/

/-- Every action passes events on in order. -/
theorem passes_perform (h : Attached session) (a : Action Outside) : Passes session a := by
  have hset : ∀ (r : HandleRef) (state : Handle S), Bridge.Respects Quiet
      (Bridge.changeRegistry fun reg => reg.setHandle r state :
        Step Entry (Bridge Manager G S) Unit) := fun _ _ => quiet_changeRegistry _
  cases a with
  | create options =>
    have hcreate := isFrame_quiet.createWindow (G := G) (S := S)
      (fun _ => quiet_askManager _ fun m => m.sends_create _)
      (fun b _ => ⟨Manager.sends_nil rfl rfl, rfl⟩) options
    exact passes_quiet hcreate _ h rfl rfl rfl fun _ => rfl
  | destroy r =>
    have hdestroy := isFrame_quiet.destroyWindow (hset r)
      (fun id => quiet_askManager _ fun m => m.sends_destroy id)
      (fun _ => quiet_changeRegistry _)
    exact passes_quiet hdestroy _ h rfl rfl rfl fun _ => rfl
  | gpuSurface r =>
    have hsurface := isFrame_quiet.gpuSurface (hset r)
      (fun id => quiet_askManager _ fun m => m.sends_drawable id)
      (fun b _ => ⟨Manager.sends_nil rfl rfl, rfl⟩)
    exact passes_quiet hsurface _ h rfl rfl rfl fun _ => rfl
  | query r q =>
    have hquery := isFrame_quiet.query (G := G) (S := S)
      (fun id => quiet_askManager (.query id q) fun m => Manager.sends_nil rfl rfl) r
    exact passes_quiet hquery _ h rfl rfl rfl fun _ => rfl
  | change r change =>
    obtain ⟨hsends, hwaiting⟩ := sends_changeBy change.operation r change session.1
    exact passes_of_sends h hsends hwaiting rfl rfl rfl
  | setAlwaysOnTop r onTop =>
    obtain ⟨hsends, hwaiting⟩ :=
      sends_changeBy "setAlwaysOnTop" r (.level (.ofOnTop onTop)) session.1
    rw [sentBy_level] at hsends
    exact passes_of_sends h hsends hwaiting rfl rfl rfl
  | resolve id => exact passes_of_sends h (Manager.sends_nil rfl rfl) rfl rfl rfl rfl
  | windowCount => exact passes_of_sends h (Manager.sends_nil rfl rfl) rfl rfl rfl rfl
  | windows => exact passes_of_sends h (Manager.sends_nil rfl rfl) rfl rfl rfl rfl
  | setDeviceFilter filter =>
    have hfilter := quiet_askManager (G := G) (S := S) (fun _ => Call.setDeviceFilter filter)
      (s := (WindowManager.setDeviceFilter filter : Step Note Manager Unit))
      fun m => Manager.sends_nil rfl rfl
    exact passes_quiet hfilter _ h rfl rfl rfl fun _ => rfl
  | come name => exact passes_come h name
  | leave name => exact passes_leave h name
  | poll name => exact (passes_poll h name).1
  | outside x =>
    have hsends := session.1.events.manager.sends_happen x
    cases x with
    | send event => exact passes_of_sends h hsends rfl rfl rfl rfl
    | rescale id factor => exact passes_of_sends h hsends rfl rfl rfl rfl

/-- Over any list of actions, events pass in order. -/
theorem passes_performAll (h : Attached session) (actions : List (Action Outside)) :
    let past := (Session.performAll actions).run session
    Attached past.state ∧
      (takenAlong session actions).map Taken.event ++ past.state.1.events.manager.queue =
        session.1.events.manager.queue ++ sentAlong session actions ∧
      past.answer.filterMap Answer.delivered? =
        ((takenAlong session actions).filter fun t => !t.isHeldBack).map Taken.seen := by
  induction actions generalizing session with
  | nil => exact ⟨h, (List.append_nil _).symm, rfl⟩
  | cons a rest ih =>
    obtain ⟨hattached, hqueue, hdelivered⟩ := passes_perform h a
    obtain ⟨hlast, hrest, hseen⟩ := ih hattached
    refine ⟨hlast, ?_, ?_⟩
    · -- what the first action left in the queue is what the others start from
      let next := (Session.perform a).run session
      let last := (Session.performAll rest).run next.state
      show ((takenBy session a ++ takenAlong next.state rest).map Taken.event) ++
        last.state.1.events.manager.queue = _ ++ (sentBy session.1 a ++ sentAlong next.state rest)
      calc
        ((takenBy session a ++ takenAlong next.state rest).map Taken.event) ++
            last.state.1.events.manager.queue
          = (takenBy session a).map Taken.event ++ ((takenAlong next.state rest).map Taken.event ++
              last.state.1.events.manager.queue) := by rw [List.map_append, List.append_assoc]
        _ = ((takenBy session a).map Taken.event ++ next.state.1.events.manager.queue) ++
              sentAlong next.state rest := by rw [hrest, List.append_assoc]
        _ = session.1.events.manager.queue ++
              (sentBy session.1 a ++ sentAlong next.state rest) := by
            rw [hqueue, List.append_assoc]
    · rw [Session.filterMap_performAll_cons, hdelivered, hseen, takenAlong, List.filter_append,
        List.map_append]

omit [GraphicsBackend G S] in
/-- Whatever state the window manager starts from, as long as nobody waits at its queue, the
session begins attached. -/
theorem attached_start (manager : Manager) (graphics : G) (settings : Settings) :
    Attached (((Bridge.start { manager with claimed := false } graphics settings).state, {}) :
      Session Manager G S Waiter) where
  alone := Consumers.alone_empty
  claimed_eq := rfl
  holder name token hf := by
    rw [Consumers.find?_empty] at hf
    cases hf

variable (manager : Manager) (graphics : G) (settings : Settings)
  (actions : List (Action Outside))

/-- Events are delivered once and in order over every history with an offscreen window manager at
whose queue nobody waits in the beginning. The events taken so far, followed by those still queued,
are those queued in the beginning and those sent since. The events delivered are those taken, each
the same but for its window, which is named by the handle that it had at that moment, and without
the device events that were then held back; no other event ever is. A consumer who comes or leaves
takes nothing out of the queue, and one who looks goes on waiting only if nothing is left in it. -/
theorem events_delivered_once :
    let quiet : Manager := { manager with claimed := false }
    let past : Outcome Entry (Session Manager G S Waiter) (List (Answer S)) :=
      Session.history quiet graphics settings actions
    let start : Session Manager G S Waiter :=
      (Session.history quiet graphics settings ([] : List (Action Outside))).state
    let taken := takenAlong start actions
    let delivered := past.answer.filterMap Answer.delivered?
    taken.map Taken.event ++ past.state.1.events.manager.queue =
        manager.queue ++ sentAlong start actions ∧
      delivered = (taken.filter fun t => !t.isHeldBack).map Taken.seen ∧
      List.Forall₂ (fun t event => t.event.SameUnder t.resolve event)
        (taken.filter fun t => !t.isHeldBack) delivered ∧
      (delivered.filter fun event => !event.isDevice) =
        (taken.filter fun t => !t.event.isDevice).map Taken.seen ∧
      (∀ name, ((Session.perform (.come name : Action Outside)).run
          past.state).state.1.events.manager.queue = past.state.1.events.manager.queue) ∧
      (∀ name, ((Session.perform (.leave name : Action Outside)).run
          past.state).state.1.events.manager.queue = past.state.1.events.manager.queue) ∧
      ∀ name, ((Session.perform (.poll name : Action Outside)).run past.state).answer =
          .looked (some (.pending ())) →
        ((Session.perform (.poll name : Action Outside)).run
          past.state).state.1.events.manager.queue = [] := by
  intro quiet past start taken delivered
  obtain ⟨hattached, hqueue, hdelivered⟩ :=
    passes_performAll (attached_start manager graphics settings) actions
  have hseen : delivered = (taken.filter fun t => !t.isHeldBack).map Taken.seen := hdelivered
  have hcome := fun name => (passes_come hattached name).queue
  have hleave := fun name => (passes_leave hattached name).queue
  refine ⟨hqueue, hseen, ?_, ?_, fun name => ?_, fun name => ?_,
    fun name => (passes_poll hattached name).2⟩
  · rw [hseen, List.forall₂_map_right_iff]
    exact List.forall₂_same.mpr fun t _ => t.sameUnder_seen
  · rw [hseen]
    exact Taken.filter_map_seen taken
  · exact (hcome name).trans (List.append_nil _)
  · exact (hleave name).trans (List.append_nil _)

end Offscreen

end WindowSystem
