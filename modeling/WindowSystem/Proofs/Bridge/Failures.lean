/-
# Failures leave no trace

What an operation that fails leaves behind. The bridge checks before it changes anything, so it is
as it was, up to what its window manager does in a call that it refuses. The one exception is a
surface that the graphics backend refuses to make: the drawable of the window was handed out by then
and stays on the handle (`Undone`, `undone_perform`).
-/
import WindowSystem.Proofs.Bridge.Operations

namespace WindowSystem

/-- The failure that an answer reports, if it does. -/
def Answer.error? {S : Type} : Answer S → Option BridgeError
  | .created (.error e) | .done (.error e) | .bound (.error e) | .told _ (.error e)
  | .looked (some (.ready (.error e))) => some e
  | _ => none

/-! ## Window managers that refuse -/

/-- A window manager that stays as it is and writes nothing. -/
inductive Untouched {N : Type} (n : N) : List Note → N → Prop where
  | intro : Untouched n [] n

/-- When a step of a window manager fails, what it wrote and the state after it are related to the
state before it. -/
def FailsBy {N α : Type} (R : N → List Note → N → Prop) (s : Step Note N (Except BackendError α)) :
    Prop :=
  ∀ n e, (s.run n).answer = .error e → R n (s.run n).journal (s.run n).state

/-- A window manager that does nothing else in a call that it refuses than `Refuses` says, and
nothing else than `Issues` says when it hands out a drawable. It never fails to look for an event. -/
structure Sparing {N W : Type} [WindowManager N W] (Refuses : N → List Note → N → Prop)
    (Issues : WindowId → N → N → Prop) : Prop where
  create : ∀ attributes, FailsBy Refuses (WindowManager.create attributes)
  drawable : ∀ id, FailsBy Refuses (WindowManager.drawable id)
  update : ∀ id change, FailsBy Refuses (WindowManager.update id change)
  query : ∀ q id, FailsBy Refuses (WindowManager.query q id)
  poll : ∀ (token : Option W) (n : N) (e : BackendError),
    ((WindowManager.poll token).run n).answer ≠ .ready (.error e)
  issue : ∀ (id : WindowId) (n : N) (drawable : Drawable),
    ((WindowManager.drawable id).run n).answer = .ok drawable →
      ((WindowManager.drawable id).run n).journal = [] ∧
        Issues id n ((WindowManager.drawable id).run n).state

/-! ## Bridges -/

section Undone

variable {N G S : Type} [GraphicsBackend G S]

/-- What a failed operation leaves of a bridge: the failure, what the window manager wrote, and the
bridge after it. -/
inductive Undone (Refuses : N → List Note → N → Prop) (Issues : WindowId → N → N → Prop) {X : Type}
    (b : Bridge N G S) : Action X → BridgeError → List Note → Bridge N G S → Prop where
  /-- Nobody was asked. -/
  | unasked (a : Action X) (e : BridgeError) : Undone Refuses Issues b a e [] b
  /-- The window manager refused. -/
  | refused (a : Action X) (cause : BackendError) {notes : List Note} {n : N}
      (hn : Refuses b.events.manager notes n) :
      Undone Refuses Issues b a (.backend cause) notes
        { b with events := { b.events with manager := n } }
  /-- The graphics backend refused to make a surface of the drawable that the handle keeps. -/
  | unwrapped {h : HandleRef} {id : WindowId} {drawable : Drawable} {cause : BackendError}
      (hh : b.registry.handle h = .live id (some drawable) none)
      (hwrap : ((GraphicsBackend.wrap drawable).run b.graphics).answer = .error cause) :
      Undone Refuses Issues b (.gpuSurface h) (.backend cause) []
        { b with graphics := ((GraphicsBackend.wrap drawable).run b.graphics).state }
  /-- The same with a drawable that was just handed out and is now on the handle. -/
  | issued {h : HandleRef} {id : WindowId} {drawable : Drawable} {cause : BackendError} {n : N}
      (hh : b.registry.handle h = .live id none none) (hn : Issues id b.events.manager n)
      (hwrap : ((GraphicsBackend.wrap drawable).run b.graphics).answer = .error cause) :
      Undone Refuses Issues b (.gpuSurface h) (.backend cause) []
        { b with
          events := { b.events with manager := n }
          graphics := ((GraphicsBackend.wrap drawable).run b.graphics).state
          registry := b.registry.setHandle h (.live id (some drawable) none) }

end Undone

namespace Bridge

variable {N W G S X : Type} [WindowManager N W] {Refuses : N → List Note → N → Prop}
  {Issues : WindowId → N → N → Prop} {b : Bridge N G S} {e : BridgeError}

omit [WindowManager N W] in
/-- What is written in a call to the window manager is by the window manager. -/
theorem notesBy_manager_askManager {α : Type} (s : Step Note N α) (call : α → Call)
    (b : Bridge N G S) :
    Entry.notesBy .manager ((askManager s call).run b).journal = (s.run b.events.manager).journal := by
  rw [run_askManager, Entry.notesBy_append, Entry.notesBy_map_note, Entry.notesBy_cons_call,
    Entry.notesBy_nil, List.append_nil]

variable [GraphicsBackend G S]

/-- An operation on a window fails when its handle is destroyed, or when the window manager refuses
what it is asked. -/
theorem undone_call {α : Type} {operation : String} {h : HandleRef} (a : Action X)
    {s : WindowId → Step Note N (Except BackendError α)}
    {call : WindowId → Except BackendError α → Call} (hs : ∀ id, FailsBy Refuses (s id))
    {t : Step Entry (Bridge N G S) (Except BridgeError α)}
    (ht : t = (do
      match (← handle h).liveId operation with
      | .error e => pure (.error e)
      | .ok id =>
        let answer ← askManager (s id) (call id)
        pure (answer.mapError .backend)))
    (he : (t.run b).answer = .error e) :
    Undone Refuses Issues b a e (Entry.notesBy .manager (t.run b).journal) (t.run b).state := by
  subst ht
  rw [Step.run_bind, run_handle] at he ⊢
  cases hid : (b.registry.handle h).id? with
  | none =>
    simp only [Handle.liveId, hid] at he ⊢
    exact .unasked a e
  | some id =>
    simp only [Handle.liveId, hid, Step.run_bind, Step.run_pure, List.nil_append, List.append_nil,
      notesBy_manager_askManager] at he ⊢
    rw [run_askManager] at he ⊢
    cases hanswer : ((s id).run b.events.manager).answer with
    | ok value =>
      rw [hanswer] at he
      cases he
    | error cause =>
      rw [hanswer] at he
      cases he
      exact .refused a cause (hs id _ cause hanswer)

/-- Creating a window fails when its options are refused, or when the window manager refuses. -/
theorem undone_createWindow (hN : Sparing Refuses Issues) (a : Action X) (options : WindowOptions)
    (he : ((createWindow options).run b).answer = .error e) :
    Undone Refuses Issues b a e (Entry.notesBy .manager ((createWindow options).run b).journal)
      ((createWindow options).run b).state := by
  unfold createWindow at he ⊢
  rw [Step.run_bind, Step.run_get] at he ⊢
  cases hattributes : (options.orElse b.defaultWindow).attributes? with
  | error refusal =>
    simp only [hattributes] at he ⊢
    exact .unasked a e
  | ok attributes =>
    simp only [hattributes, Step.run_bind, run_askManager, List.nil_append] at he ⊢
    have hcreate := hN.create attributes b.events.manager
    revert he hcreate
    generalize (WindowManager.create attributes).run b.events.manager = o
    obtain ⟨_ | id, n, notes⟩ := o
    · rename_i cause
      intro he hcreate
      cases he
      simp only [Step.run_pure, Entry.notesBy_append, Entry.notesBy_map_note,
        Entry.notesBy_cons_call, Entry.notesBy_nil, List.append_nil]
      exact .refused a cause (hcreate cause rfl)
    · -- a window that was created has a handle, whether or not that replaces another one
      intro he
      simp only [Step.run_bind] at he
      split at he
      · cases he
      · cases he

/-- Once the window has a drawable, only the graphics backend can refuse. -/
theorem run_bindTo_error {h : HandleRef} {id : WindowId} {drawable : Drawable}
    (he : ((bindTo h id (.ok drawable)).run b).answer = .error e) :
    ∃ cause, e = .backend cause ∧
      ((GraphicsBackend.wrap drawable).run b.graphics).answer = .error cause ∧
      ((bindTo h id (.ok drawable)).run b).state =
        { b with graphics := ((GraphicsBackend.wrap drawable).run b.graphics).state } ∧
      Entry.notesBy .manager ((bindTo h id (.ok drawable)).run b).journal = [] := by
  rw [bindTo, Step.run_bind] at he ⊢
  cases hwrap : ((GraphicsBackend.wrap drawable).run b.graphics).answer with
  | ok value =>
    simp only [run_makeSurface_ok hwrap] at he
    cases he
  | error cause =>
    simp only [run_makeSurface_error hwrap, Step.run_pure] at he ⊢
    cases he
    refine ⟨cause, rfl, rfl, trivial, ?_⟩
    rw [List.append_nil, Entry.notesBy_append, Entry.notesBy_map_note_of_ne (by decide)]
    rfl

/-- Asking for a surface fails for a destroyed handle, when the window manager hands out no drawable,
or when the graphics backend makes no surface of it. -/
theorem undone_gpuSurface (hN : Sparing Refuses Issues) (h : HandleRef)
    (he : ((gpuSurface h).run b).answer = .error e) :
    Undone Refuses Issues b (.gpuSurface h : Action X) e
      (Entry.notesBy .manager ((gpuSurface h).run b).journal) ((gpuSurface h).run b).state := by
  rcases hh : b.registry.handle h with ⟨id, kept, _ | surface⟩ | _
  · rw [run_gpuSurface_unbound hh, Step.run_bind] at he ⊢
    cases kept with
    | some drawable =>
      have hdrawn : (drawableOf h id (some drawable)).run b = ⟨.ok drawable, b, []⟩ := rfl
      simp only [hdrawn] at he ⊢
      obtain ⟨cause, rfl, hwrap, hstate, hnotes⟩ := run_bindTo_error he
      rw [hstate, List.nil_append, hnotes]
      exact .unwrapped hh hwrap
    | none =>
      cases hanswer : ((WindowManager.drawable id).run b.events.manager).answer with
      | error cause =>
        have hbind : ∀ b' : Bridge N G S, (bindTo h id (.error cause)).run b' =
            ⟨.error (.backend cause), b', []⟩ := fun _ => rfl
        simp only [run_drawableOf_error hanswer, hbind] at he ⊢
        cases he
        rw [List.append_nil, Entry.notesBy_append, Entry.notesBy_map_note,
          Entry.notesBy_cons_call, Entry.notesBy_nil, List.append_nil]
        exact .refused _ cause (hN.drawable id _ cause hanswer)
      | ok drawable =>
        simp only [run_drawableOf_ok hanswer] at he ⊢
        obtain ⟨cause, rfl, hwrap, hstate, hnotes⟩ := run_bindTo_error he
        obtain ⟨hjournal, hissues⟩ := hN.issue id b.events.manager drawable hanswer
        rw [hstate, Entry.notesBy_append, hnotes, hjournal]
        exact .issued hh hissues hwrap
  · unfold gpuSurface at he
    rw [Step.run_bind, run_handle, hh] at he
    cases he
  · unfold gpuSurface at he ⊢
    rw [Step.run_bind, run_handle, hh] at he ⊢
    exact .unasked _ e

/-- Destroying a window fails only for a destroyed handle. -/
theorem undone_destroyWindow (a : Action X) (h : HandleRef)
    (he : ((destroyWindow h).run b).answer = .error e) :
    Undone Refuses Issues b a e (Entry.notesBy .manager ((destroyWindow h).run b).journal)
      ((destroyWindow h).run b).state := by
  unfold destroyWindow at he ⊢
  rw [Step.run_bind, run_handle] at he ⊢
  cases hid : (b.registry.handle h).id? with
  | none =>
    simp only [Handle.liveId, hid] at he ⊢
    exact .unasked a e
  | some id =>
    simp only [Handle.liveId, hid, Step.run_bind, Step.run_pure] at he
    cases he

/-- A consumer is told of a failure only if another one waits, and then nothing was asked. -/
theorem undone_pollEvent (hN : Sparing (W := W) Refuses Issues) (a : Action X) (consumer : Consumer W)
    (he : ((pollEvent consumer).run b).answer = .ready (.error e)) :
    Undone Refuses Issues b a e (Entry.notesBy .manager ((pollEvent consumer).run b).journal)
      ((pollEvent consumer).run b).state := by
  have hlook : ∀ (stream : EventStream N) (token : Option W),
      ((EventStream.look b.registry.resolve token).run stream).answer ≠ .ready (.error e) := by
    intro stream token hfails
    rw [(EventStream.run_look b.registry.resolve stream token).1] at hfails
    have hpoll := hN.poll token stream.manager
    revert hfails hpoll
    generalize ((WindowManager.poll token).run stream.manager).answer = answer
    intro hfails hpoll
    rcases answer with next | cause | raw
    · cases hfails
    · exact hpoll cause rfl
    · cases hfails
  unfold pollEvent at he ⊢
  rw [Step.run_bind, Step.run_get, run_onEvents] at he ⊢
  cases consumer with
  | waiting token => exact absurd he (hlook b.events (some token))
  | fresh =>
    cases hw : b.events.waiting with
    | true =>
      rw [EventStream.run_poll_busy _ _ hw] at he ⊢
      exact .unasked a e
    | false =>
      rw [EventStream.run_poll_admitted _ _ hw] at he
      exact absurd he (hlook { b.events with waiting := true } none)

end Bridge

/-! ## Sessions -/

namespace Session

variable {N W G S X : Type} [WindowManager N W] [GraphicsBackend G S]
  {Refuses : N → List Note → N → Prop} {Issues : WindowId → N → N → Prop} {b : Bridge N G S}
  {consumers : Consumers W} {e : BridgeError} {a : Action X}

omit [WindowManager N W] in
/-- An operation is answered with a failure when it fails on the bridge. -/
theorem undone_onBridge {α : Type} {s : Step Entry (Bridge N G S) (Except BridgeError α)}
    {answer : Except BridgeError α → Answer S}
    (hs : ∀ e, (s.run b).answer = .error e →
      Undone Refuses Issues b a e (Entry.notesBy .manager (s.run b).journal) (s.run b).state)
    (hok : ∀ value, (answer (.ok value)).error? = none)
    (herror : ∀ e, (answer (.error e)).error? = some e)
    (he : ((onBridge s answer).run (b, consumers)).answer.error? = some e) :
    Undone Refuses Issues b a e
      (Entry.notesBy .manager ((onBridge s answer).run (b, consumers)).journal)
      ((onBridge s answer).run (b, consumers)).state.1 := by
  have hrun : (onBridge s answer).run (b, consumers) =
      ⟨answer (s.run b).answer, ((s.run b).state, consumers), (s.run b).journal ++ []⟩ := rfl
  rw [hrun] at he ⊢
  rw [List.append_nil]
  cases hanswer : (s.run b).answer with
  | ok value =>
    rw [hanswer, hok] at he
    cases he
  | error cause =>
    rw [hanswer, herror] at he
    cases he
    exact hs e hanswer

/-- A consumer is answered with a failure when it is refused. -/
theorem undone_poll (hN : Sparing (W := W) Refuses Issues) (name : String)
    {o : Outcome Entry (Session N G S W) _} (ho : (Consumers.poll source name).run (b, consumers) = o)
    (he : o.answer = some (.ready (.error e))) :
    Undone Refuses Issues b a e (Entry.notesBy .manager o.journal) o.state.1 := by
  subst ho
  cases hfound : consumers.find? name with
  | none =>
    rw [Consumers.run_poll_absent source b consumers hfound] at he
    cases he
  | some consumer =>
    cases hseen : ((Bridge.pollEvent consumer).run b).answer with
    | pending next =>
      rw [Consumers.run_poll_pending source b consumers hfound hseen] at he
      cases he
    | ready answer =>
      have hrun := Consumers.run_poll_ready source b consumers hfound hseen
      have hsource : (source.poll consumer).run b = (Bridge.pollEvent consumer).run b := rfl
      rw [hrun] at he
      have herror : answer = .error e := Poll.ready.inj (Option.some.inj he)
      rw [herror] at hseen
      rw [hrun, hsource]
      exact Bridge.undone_pollEvent hN a consumer hseen

variable [Surroundings X N]

/-- An action that is answered with a failure leaves the bridge as it was, up to what a window
manager does when it refuses, and up to a drawable whose surface was refused. -/
theorem undone_perform (hN : Sparing (W := W) Refuses Issues) (session : Session N G S W)
    (a : Action X) {e : BridgeError} (he : ((perform a).run session).answer.error? = some e) :
    Undone Refuses Issues session.1 a e
      (Entry.notesBy .manager ((perform a).run session).journal)
      ((perform a).run session).state.1 := by
  obtain ⟨b, consumers⟩ := session
  cases a with
  | create options =>
    exact undone_onBridge (fun e h => Bridge.undone_createWindow hN _ options h) (fun _ => rfl)
      (fun _ => rfl) he
  | destroy h =>
    exact undone_onBridge (fun e hd => Bridge.undone_destroyWindow _ h hd) (fun _ => rfl)
      (fun _ => rfl) he
  | gpuSurface h =>
    exact undone_onBridge (fun e hb => Bridge.undone_gpuSurface hN h hb) (fun _ => rfl)
      (fun _ => rfl) he
  | query h q =>
    exact undone_onBridge (fun e hq => Bridge.undone_call _ (hN.query q) rfl hq) (fun _ => rfl)
      (fun _ => rfl) he
  | change h change =>
    exact undone_onBridge (fun e hc => Bridge.undone_call _ (hN.update · change) rfl hc)
      (fun _ => rfl) (fun _ => rfl) he
  | setAlwaysOnTop h onTop =>
    exact undone_onBridge (fun e hc => Bridge.undone_call _ (hN.update · _) rfl hc) (fun _ => rfl)
      (fun _ => rfl) he
  | poll name =>
    rw [perform, Step.run_bind] at he ⊢
    rw [Step.run_pure, List.append_nil]
    generalize ho : (Consumers.poll source name).run (b, consumers) = o at he ⊢
    refine undone_poll hN name ho ?_
    rcases hanswer : o.answer with _ | _ | cause | event
    · rw [hanswer] at he
      cases he
    · rw [hanswer] at he
      cases he
    · rw [hanswer] at he
      cases he
      rfl
    · rw [hanswer] at he
      cases he
  | _ => cases he

end Session

end WindowSystem
