/-
# Looking for an event

What one look at an event stream comes to. The stream asks its window manager once and passes the
answer on with its window resolved; the mark that some consumer waits is cleared exactly when
there was an answer. A consumer that is refused leaves no trace at all. That an event stays the
same but for its window is said by a relation (`Event.SameUnder`), apart from the function that
the stream maps it by.
-/
import WindowSystem.Bridge.EventStream

namespace WindowSystem

/-! ## The same event -/

/-- Two events that are one but for the window: they have the same scope, the same payload and the
same device, and where the first refers to a window by `v`, the second does by `f v`. -/
inductive Event.SameUnder {V W : Type} (f : V → W) : Event V → Event W → Prop
  | lifecycle (e : LifecycleEvent) : SameUnder f (.lifecycle e) (.lifecycle e)
  | window (v : V) (e : WindowEvent) : SameUnder f (.window v e) (.window (f v) e)
  | device (d : DeviceId) (e : DeviceEvent) : SameUnder f (.device d e) (.device d e)

/-- Mapping the window of an event leaves all else the same. -/
theorem Event.sameUnder_mapWindow {V W : Type} (f : V → W) (e : Event V) :
    e.SameUnder f (e.mapWindow f) := by
  cases e with
  | lifecycle e => exact .lifecycle e
  | window v e => exact .window v e
  | device d e => exact .device d e

/-- What a consumer gets of an answer of the window manager: the same event but for its window, or
the failure as it is. -/
inductive EventStream.HandedOn {T : Type} (resolve : WindowId → Option T) :
    Except BackendError RawEvent → Except BridgeError (Event (Option T)) → Prop
  | event {raw : RawEvent} {event : Event (Option T)} (h : raw.SameUnder resolve event) :
    HandedOn resolve (.ok raw) (.ok event)
  | failure (e : BackendError) : HandedOn resolve (.error e) (.error (.backend e))

/-! ## What is handed on -/

/-- What a consumer is told of an answer of the window manager: the event with its window
resolved, or the failure as it is. -/
def EventStream.handOn {T : Type} (resolve : WindowId → Option T) :
    Except BackendError RawEvent → Except BridgeError (Event (Option T))
  | .error e => .error (.backend e)
  | .ok raw => .ok (raw.mapWindow resolve)

theorem EventStream.handedOn_handOn {T : Type} (resolve : WindowId → Option T)
    (answer : Except BackendError RawEvent) : HandedOn resolve answer (handOn resolve answer) := by
  cases answer with
  | error e => exact .failure e
  | ok raw => exact .event (raw.sameUnder_mapWindow resolve)

/-- An answer, or the token to wait with. -/
def Poll.handOn {W T : Type} (resolve : WindowId → Option T) :
    Poll W (Except BackendError RawEvent) →
      Poll (Consumer W) (Except BridgeError (Event (Option T)))
  | .pending token => .pending (.waiting token)
  | .ready answer => .ready (EventStream.handOn resolve answer)

namespace EventStream

/-! ## One look -/

variable {N W T : Type} [WindowManager N W] (resolve : WindowId → Option T)
  (stream : EventStream N)

/-- The mark of the stream after an answer: a look that found something clears it. -/
def markAfter {α : Type} (waiting : Bool) : Poll W α → Bool
  | .pending _ => waiting
  | .ready _ => false

/-- Resolving the window of an event touches nothing and makes no call. -/
theorem run_resolved (event : RawEvent) :
    ((resolved resolve event).run stream).answer = event.mapWindow resolve ∧
      ((resolved resolve event).run stream).state = stream ∧
      Entry.calls ((resolved resolve event).run stream).journal = [] := by
  unfold resolved
  cases hw : event.window? with
  | none => exact ⟨rfl, rfl, rfl⟩
  | some id =>
    cases hr : (resolve id).isNone with
    | false =>
      simp only [Step.run_bind, hr, Bool.false_eq_true, if_false, Step.run_pure]
      exact ⟨trivial, rfl, rfl⟩
    | true =>
      simp only [Step.run_bind, hr, if_true, Step.run_pure]
      exact ⟨trivial, rfl, rfl⟩

/-- One look: the answer of the window manager is handed on, and the only call is the look. -/
theorem run_look (token : Option W) :
    ((look resolve token).run stream).answer =
        ((WindowManager.poll token).run stream.manager).answer.handOn resolve ∧
      ((look resolve token).run stream).state =
        ⟨((WindowManager.poll token).run stream.manager).state,
         markAfter stream.waiting ((WindowManager.poll token).run stream.manager).answer⟩ ∧
      Entry.calls ((look resolve token).run stream).journal =
        [.poll ((WindowManager.poll token).run stream.manager).answer.answer?] := by
  have hask : ∀ call : Poll W (Except BackendError RawEvent) → Call,
      (ask (WindowManager.poll token) call).run stream =
        ⟨((WindowManager.poll token).run stream.manager).answer,
         { stream with manager := ((WindowManager.poll token).run stream.manager).state },
         ((WindowManager.poll token).run stream.manager).journal.map (.note .manager) ++
           [.call (call ((WindowManager.poll token).run stream.manager).answer)]⟩ := fun _ => rfl
  unfold look
  rw [Step.run_bind, hask]
  generalize (WindowManager.poll token).run stream.manager = o
  rcases o with ⟨token' | (e | raw), manager, notes⟩
  · refine ⟨rfl, rfl, ?_⟩
    simp only [Step.run_pure, List.append_nil, Entry.calls_append, Entry.calls_map_note]
    rfl
  · refine ⟨rfl, rfl, ?_⟩
    simp only [setWaiting, Step.run_bind, Step.run_modify, Step.run_pure, List.append_nil,
      Entry.calls_append, Entry.calls_map_note]
    rfl
  · obtain ⟨hanswer, hstate, hcalls⟩ :=
      run_resolved (N := N) resolve ⟨manager, stream.waiting⟩ raw
    simp only [setWaiting, Step.run_bind, Step.run_modify, Step.run_pure, List.append_nil,
      Entry.calls_append, Entry.calls_map_note, hanswer, hstate, hcalls]
    exact ⟨rfl, rfl, rfl⟩

/-- A new consumer is refused while another one waits: nothing is asked, resolved or changed. -/
theorem run_poll_busy (hw : stream.waiting = true) :
    (poll resolve (.fresh : Consumer W)).run stream =
      ⟨.ready (.error .eventStreamBusy), stream, []⟩ := by
  unfold poll
  rw [Step.run_bind, Step.run_get]
  simp only [hw, if_true, Step.run_pure, List.append_nil]

/-- A new consumer that is admitted marks the stream and looks. -/
theorem run_poll_admitted (hw : stream.waiting = false) :
    (poll resolve (.fresh : Consumer W)).run stream =
      (look resolve none).run { stream with waiting := true } := by
  unfold poll
  rw [Step.run_bind, Step.run_get]
  simp only [hw, Bool.false_eq_true, if_false, List.nil_append]
  rfl

/-- Giving up a wait tells the window manager and clears the mark. -/
theorem run_cancel_waiting (token : W) :
    ((cancel (.waiting token)).run stream).state =
        ⟨((WindowManager.leave token).run stream.manager).state, false⟩ ∧
      Entry.calls ((cancel (.waiting token)).run stream).journal = [.leave] := by
  refine ⟨rfl, ?_⟩
  show Entry.calls
    ((((WindowManager.leave token).run stream.manager).journal.map (.note .manager) ++
      [.call .leave]) ++ []) = [.leave]
  rw [List.append_nil, Entry.calls_append, Entry.calls_map_note]
  rfl

/-! ## The graphics backend keeps out of it -/

theorem notesBy_graphics_resolved (event : RawEvent) :
    Entry.notesBy .graphics ((resolved resolve event).run stream).journal = [] := by
  unfold resolved
  cases hw : event.window? with
  | none => rfl
  | some id =>
    cases hr : (resolve id).isNone with
    | false =>
      simp only [Step.run_bind, hr, Bool.false_eq_true, if_false, Step.run_pure]
      rfl
    | true =>
      simp only [Step.run_bind, hr, if_true, Step.run_pure]
      rfl

theorem notesBy_graphics_ask {α : Type} (s : Step Note N α) (call : α → Call) :
    Entry.notesBy .graphics ((ask s call).run stream).journal = [] := by
  show Entry.notesBy .graphics
    ((s.run stream.manager).journal.map (.note .manager) ++
      ([.call (call (s.run stream.manager).answer)] ++ [])) = []
  rw [Entry.notesBy_append, Entry.notesBy_map_note_of_ne (by decide)]
  rfl

theorem notesBy_graphics_look (token : Option W) :
    Entry.notesBy .graphics ((look resolve token).run stream).journal = [] := by
  unfold look
  rw [Step.run_bind, Entry.notesBy_append, notesBy_graphics_ask, List.nil_append]
  generalize (ask (WindowManager.poll token) fun answer => .poll answer.answer?).run stream = o
  rcases o with ⟨token' | (e | raw), after, notes⟩
  · rfl
  · rfl
  · rw [Step.run_bind, Entry.notesBy_append, notesBy_graphics_resolved]
    rfl

/-- Looking for an event lets the graphics backend write nothing. -/
theorem notesBy_graphics_poll (consumer : Consumer W) :
    Entry.notesBy .graphics ((poll resolve consumer).run stream).journal = [] := by
  cases consumer with
  | fresh =>
    cases hw : stream.waiting with
    | true => rw [run_poll_busy resolve stream hw, Entry.notesBy_nil]
    | false =>
      rw [run_poll_admitted resolve stream hw]
      exact notesBy_graphics_look resolve _ none
  | waiting token => exact notesBy_graphics_look resolve stream (some token)

/-- Giving up lets the graphics backend write nothing. -/
theorem notesBy_graphics_cancel (consumer : Consumer W) :
    Entry.notesBy .graphics ((cancel consumer).run stream).journal = [] := by
  cases consumer with
  | fresh => rfl
  | waiting token =>
    unfold cancel
    rw [Step.run_bind, Entry.notesBy_append, notesBy_graphics_ask]
    rfl

end EventStream

end WindowSystem
