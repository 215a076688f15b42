/-
# Operations as moves

What each operation of a bridge comes to, in terms of the answers of its backends, and that it is
a sequence of moves of the books. So is every history of a session, and its end
(`moves_history`, `moves_finish`).
-/
import WindowSystem.Proofs.Bridge.Chronicle
import WindowSystem.Proofs.Bridge.Moves
import WindowSystem.Proofs.Bridge.Registry
import WindowSystem.Proofs.EventStream.Crowd
import WindowSystem.Proofs.EventStream.Look

namespace WindowSystem

namespace Bridge

variable {N W G S α : Type} [WindowManager N W]

/-! ## The parts of an operation -/

/-- A call to the window manager changes nothing but the manager. -/
theorem run_askManager (s : Step Note N α) (call : α → Call) (b : Bridge N G S) :
    (askManager s call).run b =
      ⟨(s.run b.events.manager).answer,
       { b with events := { b.events with manager := (s.run b.events.manager).state } },
       (s.run b.events.manager).journal.map (.note .manager) ++
         [.call (call (s.run b.events.manager).answer)]⟩ := rfl

/-- A call to the graphics backend changes nothing but the backend. -/
theorem run_askGraphics (s : Step Note G α) (call : α → Call) (b : Bridge N G S) :
    (askGraphics s call).run b =
      ⟨(s.run b.graphics).answer, { b with graphics := (s.run b.graphics).state },
       (s.run b.graphics).journal.map (.note .graphics) ++
         [.call (call (s.run b.graphics).answer)]⟩ := rfl

/-- Something that happens past the bridge changes nothing but the manager and is no call. -/
theorem run_onManager (s : Step Note N α) (b : Bridge N G S) :
    (onManager s).run b =
      ⟨(s.run b.events.manager).answer,
       { b with events := { b.events with manager := (s.run b.events.manager).state } },
       (s.run b.events.manager).journal.map (.note .manager)⟩ := rfl

theorem run_changeRegistry (f : Registry S → Registry S) (b : Bridge N G S) :
    (changeRegistry f).run b = ⟨(), { b with registry := f b.registry }, []⟩ := rfl

theorem run_handle (h : HandleRef) (b : Bridge N G S) :
    (handle h).run b = ⟨b.registry.handle h, b, []⟩ := rfl

theorem run_say {σ : Type} (level : LogLevel) (text : String) (state : σ) :
    (Entry.say level text).run state = ⟨(), state, [.note .bridge (.log level text)]⟩ := rfl

/-- What is written in a step of the event stream is written in the bridge. -/
theorem run_onEvents (s : Step Entry (EventStream N) α) (b : Bridge N G S) :
    (onEvents s).run b =
      ⟨(s.run b.events).answer, { b with events := (s.run b.events).state },
       (s.run b.events).journal⟩ := rfl

/-- The entry of a new window: its handle, the one it replaces, and notes of the bridge alone. -/
theorem run_onRegistry_enter (id : WindowId) (b : Bridge N G S) :
    ((onRegistry (Registry.enter id)).run b).answer = (b.registry.insert id).1 ∧
      ((onRegistry (Registry.enter id)).run b).state =
        { b with registry := (b.registry.insert id).2 } ∧
      Entry.calls ((onRegistry (Registry.enter id)).run b).journal = [] ∧
      Entry.notesBy .graphics ((onRegistry (Registry.enter id)).run b).journal = [] := by
  have hrun := Registry.run_enter id b.registry
  refine ⟨congrArg Outcome.answer hrun, ?_, Entry.calls_map_note .bridge _,
    Entry.notesBy_map_note_of_ne (by decide) _⟩
  show ({ b with registry := ((Registry.enter id).run b.registry).state } : Bridge N G S) = _
  rw [hrun]

/-- What the window manager writes is not by the graphics backend. -/
theorem notesBy_graphics_manager (notes : List Note) :
    Entry.notesBy .graphics (notes.map (.note .manager)) = [] :=
  Entry.notesBy_map_note_of_ne (by decide) notes

/-- What the bridge says is not by the graphics backend. -/
theorem notesBy_graphics_bridge (n : Note) (rest : List Entry) :
    Entry.notesBy .graphics (.note .bridge n :: rest) = Entry.notesBy .graphics rest := rfl

/-- The window manager refuses to hand out a drawable. -/
theorem run_drawableOf_error {h : HandleRef} {id : WindowId} {b : Bridge N G S}
    {e : BackendError}
    (he : ((WindowManager.drawable id).run b.events.manager).answer = .error e) :
    (drawableOf h id none).run b =
      ⟨.error e,
       { b with
         events := { b.events with
           manager := ((WindowManager.drawable id).run b.events.manager).state } },
       ((WindowManager.drawable id).run b.events.manager).journal.map (.note .manager) ++
         [.call (.drawable id (.error e))]⟩ := by
  simp only [drawableOf, Step.run_bind, run_askManager, he, Step.run_pure, List.append_nil]

/-- The window manager hands out a drawable, which is kept on the handle. -/
theorem run_drawableOf_ok {h : HandleRef} {id : WindowId} {b : Bridge N G S}
    {drawable : Drawable}
    (hd : ((WindowManager.drawable id).run b.events.manager).answer = .ok drawable) :
    (drawableOf h id none).run b =
      ⟨.ok drawable,
       { b with
         events := { b.events with
           manager := ((WindowManager.drawable id).run b.events.manager).state }
         registry := b.registry.setHandle h (.live id (some drawable) none) },
       ((WindowManager.drawable id).run b.events.manager).journal.map (.note .manager) ++
         [.call (.drawable id (.ok drawable))]⟩ := by
  simp only [drawableOf, Step.run_bind, run_askManager, hd, run_changeRegistry, Step.run_pure,
    List.append_nil]

/-! ## Operations as moves -/

variable [GraphicsBackend G S]

/-- The books go from one bridge to another by moves that make the calls of a journal. -/
def Moved (b : Bridge N G S) (journal : List Entry) (b' : Bridge N G S) : Prop :=
  Moves b.books (Entry.calls journal) (Entry.notesBy .graphics journal) b'.books

omit [WindowManager N W] in
theorem chronicle_moved : Step.Chronicle (Moved : Bridge N G S → List Entry → Bridge N G S → Prop)
    where
  nil _ := .nil
  append h h' := by
    rw [Moved, Entry.calls_append, Entry.notesBy_append]
    exact Moves.append h h'

/-- Whatever the state, a step of the bridge is a sequence of moves. -/
def IsMoves (s : Step Entry (Bridge N G S) α) : Prop :=
  ∀ b : Bridge N G S, Moves b.books (Entry.calls (s.run b).journal)
    (Entry.notesBy .graphics (s.run b).journal) (s.run b).state.books

/-- A step that leaves the books alone, makes only calls aside, and lets the graphics backend
write nothing. -/
theorem isMoves_of_aside {s : Step Entry (Bridge N G S) α} {b : Bridge N G S}
    (hbooks : (s.run b).state.books = b.books)
    (hcalls : ∀ c ∈ Entry.calls (s.run b).journal, c.IsAside)
    (hnotes : Entry.notesBy .graphics (s.run b).journal = []) :
    Moves b.books (Entry.calls (s.run b).journal) (Entry.notesBy .graphics (s.run b).journal)
      (s.run b).state.books := by
  rw [hbooks, hnotes]
  -- by induction on the calls, whatever step made them
  revert hcalls
  generalize Entry.calls (s.run b).journal = calls
  intro hcalls
  induction calls with
  | nil => exact .nil
  | cons c rest ih =>
    have hrest := ih fun c' hc' => hcalls c' (List.mem_cons_of_mem c hc')
    exact .cons (.aside (hcalls c List.mem_cons_self)) hrest

omit [WindowManager N W] in
theorem isMoves_pure (a : α) : IsMoves (pure a : Step Entry (Bridge N G S) α) :=
  chronicle_moved.pure a

omit [WindowManager N W] in
theorem IsMoves.bind {β : Type} {s : Step Entry (Bridge N G S) α}
    {f : α → Step Entry (Bridge N G S) β} (hs : IsMoves s) (hf : ∀ a, IsMoves (f a)) :
    IsMoves (s >>= f) := chronicle_moved.bind hs hf

/-- A call of the manager that concerns no window. -/
theorem isMoves_askManager {s : Step Note N α} {call : α → Call} (h : ∀ a, (call a).IsAside) :
    IsMoves (askManager s call : Step Entry (Bridge N G S) α) := by
  intro b
  have hnotes : Entry.notesBy .graphics ((askManager s call).run b).journal = [] := by
    rw [run_askManager, Entry.notesBy_append, notesBy_graphics_manager]
    rfl
  refine isMoves_of_aside rfl ?_ hnotes
  rw [run_askManager, Entry.calls_append, Entry.calls_map_note]
  intro c hc
  rw [List.mem_singleton.mp hc]
  exact h _

omit [WindowManager N W] in
theorem isMoves_say (level : LogLevel) (text : String) :
    IsMoves (Entry.say level text : Step Entry (Bridge N G S) Unit) :=
  fun _ => .nil

omit [WindowManager N W] in
theorem isMoves_forEach {β : Type} {f : β → Step Entry (Bridge N G S) Unit}
    (hf : ∀ a, IsMoves (f a)) (list : List β) : IsMoves (Step.forEach f list) :=
  chronicle_moved.forEach hf list

/-! ## Queries, changes and events -/

theorem isMoves_query (h : HandleRef) (q : Query) :
    IsMoves (query h q : Step Entry (Bridge N G S) _) := by
  intro b
  unfold query
  rw [Step.run_bind, run_handle]
  cases hid : (b.registry.handle h).id? with
  | none =>
    simp only [Handle.liveId, hid]
    exact .nil
  | some id =>
    simp only [Handle.liveId, hid, Step.run_bind, run_askManager, Step.run_pure, List.nil_append,
      List.append_nil, Entry.calls_append, Entry.calls_map_note, Entry.notesBy_append,
      notesBy_graphics_manager]
    exact .single (.queried hid q _)

theorem isMoves_changeBy (operation : String) (h : HandleRef) (change : WindowChange) :
    IsMoves (changeBy operation h change : Step Entry (Bridge N G S) _) := by
  intro b
  unfold changeBy
  rw [Step.run_bind, run_handle]
  cases hid : (b.registry.handle h).id? with
  | none =>
    simp only [Handle.liveId, hid]
    exact .nil
  | some id =>
    simp only [Handle.liveId, hid, Step.run_bind, run_askManager, Step.run_pure, List.nil_append,
      List.append_nil, Entry.calls_append, Entry.calls_map_note, Entry.notesBy_append,
      notesBy_graphics_manager]
    exact .single (.updated hid change _)

theorem isMoves_setDeviceFilter (filter : DeviceFilter) :
    IsMoves (setDeviceFilter filter : Step Entry (Bridge N G S) Unit) :=
  isMoves_askManager fun _ => trivial

theorem isMoves_onManager (s : Step Note N α) :
    IsMoves (onManager s : Step Entry (Bridge N G S) α) := by
  intro b
  rw [run_onManager, Entry.calls_map_note, notesBy_graphics_manager]
  exact .nil

omit [GraphicsBackend G S] in
/-- Looking for an event concerns no window. -/
theorem isAside_pollEvent (consumer : Consumer W) (b : Bridge N G S) :
    ∀ c ∈ Entry.calls ((pollEvent consumer).run b).journal, c.IsAside := by
  show ∀ c ∈ Entry.calls ([] ++ ((EventStream.poll b.registry.resolve consumer).run
    b.events).journal), c.IsAside
  rw [List.nil_append]
  have hlook : ∀ (stream : EventStream N) (token : Option W),
      ∀ c ∈ Entry.calls ((EventStream.look b.registry.resolve token).run stream).journal,
        c.IsAside := by
    intro stream token c hc
    rw [(EventStream.run_look b.registry.resolve stream token).2.2] at hc
    rw [List.mem_singleton.mp hc]
    trivial
  -- the manager is asked in a look that is not refused, and only there
  cases consumer with
  | fresh =>
    cases hw : b.events.waiting with
    | true =>
      rw [EventStream.run_poll_busy _ _ hw]
      exact fun c hc => absurd hc List.not_mem_nil
    | false =>
      rw [EventStream.run_poll_admitted _ _ hw]
      exact hlook _ _
  | waiting token => exact hlook _ _

theorem isMoves_pollEvent (consumer : Consumer W) :
    IsMoves (pollEvent consumer : Step Entry (Bridge N G S) _) := fun b =>
  isMoves_of_aside rfl (isAside_pollEvent consumer b)
    (EventStream.notesBy_graphics_poll _ b.events consumer)

omit [GraphicsBackend G S] in
/-- Giving up concerns no window. -/
theorem isAside_cancelEvent (consumer : Consumer W) (b : Bridge N G S) :
    ∀ c ∈ Entry.calls ((cancelEvent consumer).run b).journal, c.IsAside := by
  show ∀ c ∈ Entry.calls ((EventStream.cancel consumer).run b.events).journal, c.IsAside
  cases consumer with
  | fresh => exact fun c hc => absurd hc List.not_mem_nil
  | waiting token =>
    rw [(EventStream.run_cancel_waiting b.events token).2]
    intro c hc
    rw [List.mem_singleton.mp hc]
    trivial

theorem isMoves_cancelEvent (consumer : Consumer W) :
    IsMoves (cancelEvent consumer : Step Entry (Bridge N G S) Unit) := fun b =>
  isMoves_of_aside rfl (isAside_cancelEvent consumer b)
    (EventStream.notesBy_graphics_cancel b.events consumer)

/-! ## Surfaces and windows -/

/-- Releasing a surface takes it off the handle; the only call is the release, and the graphics
backend alone takes part in it. -/
theorem run_releaseSurface (h : HandleRef) (b : Bridge N G S) :
    ((releaseSurface h).run b).state.books =
        { b.books with
          graphics := ((b.registry.handle h).release.run b.graphics).state
          registry := b.registry.setHandle h (b.registry.handle h).withoutSurface } ∧
      Entry.calls ((releaseSurface h).run b).journal = (b.registry.handle h).releaseCalls ∧
      Entry.notesBy .graphics ((releaseSurface h).run b).journal =
        ((b.registry.handle h).release.run b.graphics).journal := by
  unfold releaseSurface
  rw [Step.run_bind, run_handle]
  rcases hh : b.registry.handle h with ⟨id, drawable, _ | surface⟩ | _
  · -- there is nothing to release, and the handle is written back as it was
    refine ⟨?_, rfl, rfl⟩
    have hsame : b.registry.setHandle h (.live id drawable none) = b.registry := by
      rw [← hh, Registry.setHandle_handle]
    rw [Handle.withoutSurface, hsame]
    rfl
  · simp only [Step.run_bind, run_changeRegistry, run_askGraphics, run_say, List.nil_append,
      Entry.calls_append, Entry.calls_map_note, Entry.notesBy_append, Entry.notesBy_map_note,
      notesBy_graphics_bridge, Entry.notesBy_cons_call, Entry.notesBy_nil, List.append_nil]
    exact ⟨rfl, rfl, rfl⟩
  · refine ⟨?_, rfl, rfl⟩
    have hsame : b.registry.setHandle h .destroyed = b.registry := by
      rw [← hh, Registry.setHandle_handle]
    rw [Handle.withoutSurface, hsame]
    rfl

theorem isMoves_destroyWindow (h : HandleRef) :
    IsMoves (destroyWindow h : Step Entry (Bridge N G S) _) := by
  intro b
  unfold destroyWindow
  rw [Step.run_bind, run_handle]
  cases hid : (b.registry.handle h).id? with
  | none =>
    simp only [Handle.liveId, hid]
    exact .nil
  | some id =>
    obtain ⟨hbooks, hcalls, hnotes⟩ := run_releaseSurface h b
    have hmove : Moves b.books _ _ _ := .single (.destroyed hid)
    -- the surface is taken off the handle before the handle goes, which makes no difference
    have hafter : (((releaseSurface h).run b).state.registry.remove id).tombstone h =
        (b.registry.remove id).tombstone h := by
      rw [show ((releaseSurface h).run b).state.registry = _ from congrArg Books.registry hbooks]
      exact (b.registry.remove id).tombstone_setHandle h _
    simp only [Handle.liveId, hid, Step.run_bind, run_changeRegistry, run_askManager, run_say,
      Step.run_pure, List.nil_append, List.append_nil, Entry.calls_append, Entry.calls_map_note,
      Entry.notesBy_append, notesBy_graphics_manager, hcalls, hnotes]
    show Moves b.books ((b.registry.handle h).releaseCalls ++ [.destroy id])
      (((b.registry.handle h).release.run b.graphics).journal ++ [])
      { ((releaseSurface h).run b).state.books with
        registry := (((releaseSurface h).run b).state.registry.remove id).tombstone h }
    rw [hafter, hbooks, List.append_nil]
    exact hmove

/-- The old handle of an identifier that was handed out again goes, after its surface. -/
theorem run_replace (old : HandleRef) (b : Bridge N G S) :
    let o := (releaseSurface old >>= fun _ => changeRegistry fun r => r.tombstone old).run b
    o.state.books =
        { b.books with
          graphics := ((b.registry.handle old).release.run b.graphics).state
          registry := b.registry.tombstone old } ∧
      Entry.calls o.journal = (b.registry.handle old).releaseCalls ∧
      Entry.notesBy .graphics o.journal =
        ((b.registry.handle old).release.run b.graphics).journal := by
  obtain ⟨hbooks, hcalls, hnotes⟩ := run_releaseSurface old b
  rw [Step.run_bind, run_changeRegistry, List.append_nil]
  refine ⟨?_, hcalls, hnotes⟩
  have hafter : ((releaseSurface old).run b).state.registry.tombstone old =
      b.registry.tombstone old := by
    rw [show ((releaseSurface old).run b).state.registry = _ from congrArg Books.registry hbooks]
    exact b.registry.tombstone_setHandle old _
  show { ((releaseSurface old).run b).state.books with
    registry := ((releaseSurface old).run b).state.registry.tombstone old } = _
  rw [hafter, hbooks]

theorem isMoves_createWindow (options : WindowOptions) :
    IsMoves (createWindow options : Step Entry (Bridge N G S) _) := by
  intro b
  unfold createWindow
  rw [Step.run_bind, Step.run_get]
  cases (options.orElse b.defaultWindow).attributes? with
  | error e => exact .nil
  | ok attributes =>
    simp only [Step.run_bind, run_askManager, List.nil_append, Entry.calls_append,
      Entry.calls_map_note, Entry.notesBy_append, notesBy_graphics_manager]
    generalize (WindowManager.create attributes).run b.events.manager = o
    obtain ⟨_ | id, manager, notes⟩ := o
    · exact .single (.refused attributes _)
    · let asked : Bridge N G S := { b with events := { b.events with manager := manager } }
      obtain ⟨hanswer, hstate, hcalls, hnotes⟩ := run_onRegistry_enter id asked
      simp only [Step.run_bind, List.nil_append, Entry.calls_append, Entry.notesBy_append, asked,
        hanswer, hstate, hcalls, hnotes]
      cases hid : b.registry.resolve id with
      | none =>
        rw [show (b.registry.insert id).1.2 = none from hid]
        exact .single (.created attributes hid)
      | some old =>
        -- the identifier of a live window was handed out again
        rw [show (b.registry.insert id).1.2 = some old from hid]
        let entered : Bridge N G S := { asked with registry := (b.registry.insert id).2 }
        obtain ⟨hbooks, hcalls, hnotes⟩ := run_replace old entered
        have hmove : Moves b.books
            (.create attributes (.ok id) :: (entered.registry.handle old).releaseCalls)
            ((entered.registry.handle old).release.run entered.graphics).journal
            { entered.books with
              graphics := ((entered.registry.handle old).release.run entered.graphics).state
              registry := entered.registry.tombstone old } :=
          .single (.replaced attributes hid)
        rw [← hcalls, ← hnotes, ← hbooks] at hmove
        simp only [Step.run_bind, run_changeRegistry, run_say, Step.run_pure, List.append_nil,
          Entry.calls_append, Entry.calls_cons_note, Entry.calls_nil, Entry.notesBy_append,
          notesBy_graphics_bridge, Entry.notesBy_nil] at hmove ⊢
        exact hmove

/-- What remains to be done for a surface once the window manager answered about the drawable. -/
def bindTo (h : HandleRef) (id : WindowId) :
    Except BackendError Drawable →
      Step Entry (Bridge N G S) (Except BridgeError (BoundSurface S))
  | .error e => pure (.error (.backend e))
  | .ok drawable => do
    match ← makeSurface drawable with
    | .error e => pure (.error (.backend e))
    | .ok surface =>
      changeRegistry fun r => r.setHandle h (.live id (some drawable) (some surface))
      Entry.say .debug ("bound surface to window " ++ id.text)
      pure (.ok surface)

/-- A surface is asked for in two parts: the drawable, and then the surface itself. -/
theorem run_gpuSurface_unbound {h : HandleRef} {id : WindowId} {kept : Option Drawable}
    {b : Bridge N G S} (hh : b.registry.handle h = .live id kept none) :
    (gpuSurface h).run b = (drawableOf h id kept >>= bindTo h id).run b := by
  unfold gpuSurface
  rw [Step.run_bind, run_handle, hh]
  rfl

/-- The graphics backend refuses to make a surface. -/
theorem run_makeSurface_error {drawable : Drawable} {b : Bridge N G S} {e : BackendError}
    (he : ((GraphicsBackend.wrap drawable).run b.graphics).answer = .error e) :
    (makeSurface drawable).run b =
      ⟨.error e, { b with graphics := ((GraphicsBackend.wrap drawable).run b.graphics).state },
       ((GraphicsBackend.wrap drawable).run b.graphics).journal.map (.note .graphics) ++
         [.call (.wrap drawable (.error e))]⟩ := by
  unfold makeSurface
  simp only [Step.run_bind, Step.run_get, run_askGraphics, he, Step.run_pure, List.nil_append,
    List.append_nil]
  rfl

/-- The graphics backend makes a surface, which gets the next number. -/
theorem run_makeSurface_ok {drawable : Drawable} {b : Bridge N G S} {value : S}
    (hv : ((GraphicsBackend.wrap drawable).run b.graphics).answer = .ok value) :
    (makeSurface drawable).run b =
      ⟨.ok ⟨b.surfacesMade, value⟩,
       { b with
         graphics := ((GraphicsBackend.wrap drawable).run b.graphics).state
         surfacesMade := b.surfacesMade + 1 },
       ((GraphicsBackend.wrap drawable).run b.graphics).journal.map (.note .graphics) ++
         [.call (.wrap drawable (.ok b.surfacesMade))]⟩ := by
  unfold makeSurface
  simp only [Step.run_bind, Step.run_get, run_askGraphics, hv, Step.run_modify, Step.run_pure,
    List.nil_append, List.append_nil]
  rfl

/-- Making a surface of the drawable that a handle keeps is one move. -/
theorem moves_bindTo {h : HandleRef} {id : WindowId} {drawable : Drawable}
    {b : Bridge N G S} (hh : b.registry.handle h = .live id (some drawable) none) :
    Moves b.books (Entry.calls ((bindTo h id (.ok drawable)).run b).journal)
      (Entry.notesBy .graphics ((bindTo h id (.ok drawable)).run b).journal)
      ((bindTo h id (.ok drawable)).run b).state.books := by
  rw [bindTo, Step.run_bind]
  cases ha : ((GraphicsBackend.wrap drawable).run b.graphics).answer with
  | error e =>
    have hmove : Moves b.books _ _ _ := .single (.unwrapped hh ha)
    simp only [run_makeSurface_error ha, Step.run_pure, List.append_nil, Entry.calls_append,
      Entry.calls_map_note, Entry.notesBy_append, Entry.notesBy_map_note, Entry.notesBy_cons_call,
      Entry.notesBy_nil]
    exact hmove
  | ok value =>
    have hmove : Moves b.books _ _ _ := .single (.wrapped hh ha)
    simp only [run_makeSurface_ok ha, Step.run_bind, run_changeRegistry, run_say, Step.run_pure,
      List.append_nil, Entry.calls_append, Entry.calls_map_note, Entry.notesBy_append,
      Entry.notesBy_map_note, Entry.notesBy_cons_call, notesBy_graphics_bridge,
      Entry.notesBy_nil]
    exact hmove

theorem isMoves_gpuSurface (h : HandleRef) :
    IsMoves (gpuSurface h : Step Entry (Bridge N G S) _) := by
  intro b
  rcases hh : b.registry.handle h with ⟨id, kept, _ | surface⟩ | _
  · rw [run_gpuSurface_unbound hh, Step.run_bind, Entry.calls_append, Entry.notesBy_append]
    -- a drawable handed out before is used again, and the manager is not asked
    cases kept with
    | some drawable => exact moves_bindTo hh
    | none =>
      cases ha : ((WindowManager.drawable id).run b.events.manager).answer with
      | error e =>
        simp only [run_drawableOf_error ha, Entry.calls_append, Entry.calls_map_note,
          Entry.notesBy_append, notesBy_graphics_manager]
        exact .single (.undrawn hh e)
      | ok drawable =>
        simp only [run_drawableOf_ok ha, Entry.calls_append, Entry.calls_map_note,
          Entry.notesBy_append, notesBy_graphics_manager]
        have hlt : h < b.registry.handles.length :=
          b.registry.lt_length_of_ne (by rw [hh]; simp)
        have hkept := b.registry.handle_setHandle_self hlt (.live id (some drawable) none)
        exact .cons (.drawn hh drawable) (moves_bindTo (b := { b with
          events := _, registry := b.registry.setHandle h (.live id (some drawable) none) }) hkept)
  · unfold gpuSurface
    rw [Step.run_bind, run_handle, hh]
    exact .nil
  · unfold gpuSurface
    rw [Step.run_bind, run_handle, hh]
    exact .nil

theorem isMoves_destroyLeftover (h : HandleRef) :
    IsMoves (destroyLeftover h : Step Entry (Bridge N G S) Unit) :=
  (isMoves_destroyWindow h).bind fun
    | .ok _ => isMoves_pure ()
    | .error _ => isMoves_say _ _

theorem isMoves_close : IsMoves (close : Step Entry (Bridge N G S) Unit) := by
  have hend : IsMoves (do
      askManager WindowManager.close fun _ => .closeManager
      askGraphics GraphicsBackend.close fun _ => .closeGraphics :
        Step Entry (Bridge N G S) Unit) := by
    have hclose : IsMoves (askManager WindowManager.close fun _ => .closeManager :
        Step Entry (Bridge N G S) Unit) := isMoves_askManager fun _ => trivial
    refine hclose.bind fun _ b => ?_
    have hmove : Moves b.books _ _ _ := .single .closed
    rw [run_askGraphics, Entry.calls_append, Entry.calls_map_note, Entry.notesBy_append,
      Entry.notesBy_map_note, Entry.notesBy_cons_call, Entry.notesBy_nil, List.append_nil]
    exact hmove
  refine IsMoves.bind (fun b => .nil) fun remaining => ?_
  by_cases hempty : remaining.isEmpty = true
  · simp only [hempty, if_true]
    exact (isMoves_pure ()).bind fun _ => hend
  · simp only [hempty]
    exact (isMoves_say _ _).bind fun _ =>
      (isMoves_forEach isMoves_destroyLeftover remaining).bind fun _ => hend

/-- Every operation is a sequence of moves. -/
theorem told_moved {X : Type} [Surroundings X N] :
    Told X (Moved : Bridge N G S → List Entry → Bridge N G S → Prop) where
  chronicle := chronicle_moved
  say := isMoves_say
  create := isMoves_createWindow
  destroy := isMoves_destroyWindow
  gpuSurface := isMoves_gpuSurface
  query := isMoves_query
  changeBy := isMoves_changeBy
  setDeviceFilter := isMoves_setDeviceFilter
  poll := isMoves_pollEvent
  cancel := isMoves_cancelEvent
  outside _ := isMoves_onManager _

end Bridge

/-! ## Histories as moves -/

namespace Session

variable {N W G S X : Type} [GraphicsBackend G S]

/-- Whatever the state, a step of a session is a sequence of moves. -/
def IsMoves {α : Type} (s : Step Entry (Session N G S W) α) : Prop :=
  ∀ session : Session N G S W, Moves session.1.books (Entry.calls (s.run session).journal)
    (Entry.notesBy .graphics (s.run session).journal) (s.run session).state.1.books

theorem IsMoves.bind {α β : Type} {s : Step Entry (Session N G S W) α}
    {f : α → Step Entry (Session N G S W) β} (hs : IsMoves s) (hf : ∀ a, IsMoves (f a)) :
    IsMoves (s >>= f) := (chronicle_ofBridge Bridge.chronicle_moved).bind hs hf

variable [WindowManager N W]

theorem isMoves_leaveAll :
    IsMoves (Consumers.leaveAll source : Step Entry (Session N G S W) Unit) :=
  tells_leaveAll Bridge.chronicle_moved Bridge.isMoves_cancelEvent

variable [Surroundings X N]

/-- Whatever the backends answer, an action is a sequence of moves. -/
theorem isMoves_perform (a : Action X) :
    IsMoves (perform a : Step Entry (Session N G S W) _) := tells_perform Bridge.told_moved a

theorem isMoves_performAll (actions : List (Action X)) :
    IsMoves (performAll actions : Step Entry (Session N G S W) _) :=
  tells_performAll Bridge.told_moved actions

omit [Surroundings X N] in
/-- The end of a session is a sequence of moves. -/
theorem isMoves_finish : IsMoves (finish : Step Entry (Session N G S W) Unit) :=
  isMoves_leaveAll.bind fun _ session => Bridge.isMoves_close session.1

variable (manager : N) (graphics : G) (settings : Settings) (actions : List (Action X))

/-- Every history is a sequence of moves from empty books. -/
theorem moves_history :
    let past : Outcome Entry (Session N G S W) (List (Answer S)) :=
      history manager graphics settings actions
    Moves ⟨graphics, {}, 0⟩ (Entry.calls past.journal) (Entry.notesBy .graphics past.journal)
      past.state.1.books := tells_history Bridge.told_moved manager graphics settings actions

end Session

end WindowSystem
