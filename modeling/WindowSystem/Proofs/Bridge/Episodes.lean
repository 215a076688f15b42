/-
# Episodes in the life of surfaces

Moves (`Move`) keep the calls of a bridge apart from what its graphics backend writes. An episode
keeps both in the order in which they stand in the journal: the backend refuses to make a surface,
makes one, or releases one, and what it wrote stands right before the call; or the backend has
nothing to do with what was written. Until the backend goes, a bridge does nothing else
(`Bridge.told_lived`).
-/
import WindowSystem.Proofs.Bridge.Course
import WindowSystem.Proofs.Bridge.Surfaces

namespace WindowSystem

/-! ## Journals without the graphics backend -/

/-- A journal in which the graphics backend is not called and writes nothing. -/
structure Entry.Quiet (journal : List Entry) : Prop where
  notes : Entry.notesBy .graphics journal = []
  calls : ∀ c ∈ Entry.calls journal, ¬ c.IsGraphics

namespace Entry

theorem quiet_nil : Quiet [] := ⟨rfl, fun _ hc => absurd hc List.not_mem_nil⟩

theorem Quiet.append {journal more : List Entry} (h : Quiet journal) (hmore : Quiet more) :
    Quiet (journal ++ more) where
  notes := by rw [notesBy_append, h.notes, hmore.notes, List.append_nil]
  calls c hc := by
    rw [calls_append, List.mem_append] at hc
    exact hc.elim (h.calls c) (hmore.calls c)

theorem quiet_say (level : LogLevel) (text : String) :
    Quiet [.note .bridge (.log level text)] :=
  ⟨rfl, fun _ hc => absurd hc List.not_mem_nil⟩

/-- What the window manager writes. -/
theorem quiet_manager (notes : List Note) : Quiet (notes.map (.note .manager)) :=
  ⟨Bridge.notesBy_graphics_manager notes, by simp⟩

/-- A call to the window manager. -/
theorem quiet_call {c : Call} (hc : ¬ c.IsGraphics) (notes : List Note) :
    Quiet (notes.map (.note .manager) ++ [.call c]) := by
  refine (quiet_manager notes).append ⟨rfl, fun d hd => ?_⟩
  rwa [List.mem_singleton.mp hd]

/-- Calls that concern no window are not made to the graphics backend. -/
theorem quiet_of_aside {journal : List Entry} (hnotes : notesBy .graphics journal = [])
    (hcalls : ∀ c ∈ calls journal, c.IsAside) : Quiet journal := by
  refine ⟨hnotes, fun c hc hgraphics => ?_⟩
  have haside := hcalls c hc
  cases c with
  | wrap drawable answer => exact haside
  | release n => exact haside
  | closeGraphics => exact haside
  | _ => exact hgraphics

/-- What stands in the journal for a call to the graphics backend: what the backend wrote, and then
the call. -/
def graphicsCall (notes : List Note) (c : Call) : List Entry :=
  notes.map (.note .graphics) ++ [.call c]

@[simp]
theorem calls_graphicsCall (notes : List Note) (c : Call) : calls (graphicsCall notes c) = [c] := by
  rw [graphicsCall, calls_append, calls_map_note]
  rfl

@[simp]
theorem notesBy_graphicsCall (notes : List Note) (c : Call) :
    notesBy .graphics (graphicsCall notes c) = notes := by
  rw [graphicsCall, notesBy_append, notesBy_map_note, notesBy_cons_call, notesBy_nil,
    List.append_nil]

end Entry

/-! ## Episodes -/

section Episodes

variable {G S : Type} [GraphicsBackend G S]

/-- One episode: the books before, what is written, and the books after. -/
inductive Episode : Books G S → List Entry → Books G S → Prop where
  /-- Whatever happens, all surfaces stay where they are. -/
  | quiet {b : Books G S} {r : Registry S} {journal : List Entry} (hjournal : Entry.Quiet journal)
      (hr : ∀ h, (r.handle h).surface? = (b.registry.handle h).surface?) :
    Episode b journal { b with registry := r }
  /-- The graphics backend refuses to make a surface. -/
  | refused {b : Books G S} {drawable : Drawable} {e : BackendError}
      (he : ((GraphicsBackend.wrap drawable).run b.graphics).answer = .error e) :
    Episode b
      (Entry.graphicsCall ((GraphicsBackend.wrap drawable).run b.graphics).journal
        (.wrap drawable (.error e)))
      { b with graphics := ((GraphicsBackend.wrap drawable).run b.graphics).state }
  /-- A surface is made and bound to a handle without one. -/
  | made {b : Books G S} {h : HandleRef} {id : WindowId} {kept : Option Drawable}
      (hh : b.registry.handle h = .live id kept none) {drawable : Drawable} {value : S}
      (hvalue : ((GraphicsBackend.wrap drawable).run b.graphics).answer = .ok value) :
    Episode b
      (Entry.graphicsCall ((GraphicsBackend.wrap drawable).run b.graphics).journal
        (.wrap drawable (.ok b.surfacesMade)))
      { graphics := ((GraphicsBackend.wrap drawable).run b.graphics).state
        registry := b.registry.setHandle h
          (.live id (some drawable) (some ⟨b.surfacesMade, value⟩))
        surfacesMade := b.surfacesMade + 1 }
  /-- The surface of a handle is taken off and released. -/
  | released {b : Books G S} {h : HandleRef} {surface : BoundSurface S}
      (hsurface : (b.registry.handle h).surface? = some surface) :
    Episode b
      (Entry.graphicsCall ((GraphicsBackend.release surface.value).run b.graphics).journal
        (.release surface.number))
      { b with
        graphics := ((GraphicsBackend.release surface.value).run b.graphics).state
        registry := b.registry.setHandle h (b.registry.handle h).withoutSurface }

/-- A sequence of episodes. -/
inductive Episodes : Books G S → List Entry → Books G S → Prop where
  | nil {b : Books G S} : Episodes b [] b
  | cons {b b' b'' : Books G S} {journal rest : List Entry} (first : Episode b journal b')
      (next : Episodes b' rest b'') : Episodes b (journal ++ rest) b''

namespace Episodes

variable {b b' b'' : Books G S} {journal more : List Entry}

theorem single (h : Episode b journal b') : Episodes b journal b' := by
  have hnil := cons h nil
  rwa [List.append_nil] at hnil

theorem append (h : Episodes b journal b') (h' : Episodes b' more b'') :
    Episodes b (journal ++ more) b'' := by
  induction h with
  | nil => exact h'
  | cons first _ ih =>
    rw [List.append_assoc]
    exact cons first (ih h')

end Episodes

end Episodes

/-! ## Operations as episodes -/

/-- A request for a surface that fails makes none. -/
theorem wrapped_eq_nil_of_requested {S : Type} {before after : Handle S} {calls : List Call}
    {answer : Except BridgeError (BoundSurface S)} (h : Requested before calls answer after)
    {e : BridgeError} (he : answer = .error e) : wrapped calls = [] := by
  cases h with
  | destroyed => rfl
  | bound => cases he
  | undrawn => rfl
  | unwrapped hdrawn => cases hdrawn <;> rfl
  | wrapped => cases he

namespace Bridge

variable {N W G S α : Type} [GraphicsBackend G S]

/-- The books go from one bridge to another by the episodes of a journal. -/
def Lived (b : Bridge N G S) (journal : List Entry) (b' : Bridge N G S) : Prop :=
  Episodes b.books journal b'.books

theorem chronicle_lived : Step.Chronicle (Lived : Bridge N G S → List Entry → Bridge N G S → Prop)
    where
  nil _ := .nil
  append h h' := Episodes.append h h'

/-- Whatever the state, a step of the bridge is a sequence of episodes. -/
abbrev IsLived (s : Step Entry (Bridge N G S) α) : Prop := Step.Tells Lived s

theorem lived_quiet {b b' : Bridge N G S} {journal : List Entry} (hjournal : Entry.Quiet journal)
    (hgraphics : b'.graphics = b.graphics) (hmade : b'.surfacesMade = b.surfacesMade)
    (hr : ∀ h, (b'.registry.handle h).surface? = (b.registry.handle h).surface?) :
    Lived b journal b' := by
  have h : Episode b.books journal { b.books with registry := b'.registry } := .quiet hjournal hr
  have hbooks : b'.books = { b.books with registry := b'.registry } := by
    rw [books, hgraphics, hmade]
    rfl
  rw [Lived, hbooks]
  exact .single h

theorem isLived_say (level : LogLevel) (text : String) :
    IsLived (Entry.say level text : Step Entry (Bridge N G S) Unit) :=
  fun _ => lived_quiet (Entry.quiet_say level text) rfl rfl fun _ => rfl

/-- A call to the window manager. -/
theorem isLived_askManager {s : Step Note N α} {call : α → Call}
    (h : ∀ a, ¬ (call a).IsGraphics) :
    IsLived (askManager s call : Step Entry (Bridge N G S) α) :=
  fun _ => lived_quiet (Entry.quiet_call (h _) _) rfl rfl fun _ => rfl

/-- A change of the registry that leaves all surfaces where they are in the state reached. -/
theorem lived_changeRegistry {f : Registry S → Registry S} {b : Bridge N G S}
    (hf : ∀ h, ((f b.registry).handle h).surface? = (b.registry.handle h).surface?) :
    Lived b ((changeRegistry f).run b).journal ((changeRegistry f).run b).state :=
  lived_quiet Entry.quiet_nil rfl rfl hf

theorem isLived_releaseSurface (h : HandleRef) :
    IsLived (releaseSurface h : Step Entry (Bridge N G S) Unit) := by
  intro b
  unfold releaseSurface
  rw [Step.run_bind, run_handle]
  rcases hh : b.registry.handle h with ⟨id, drawable, _ | surface⟩ | _
  · exact .nil
  · have hsurface : (b.registry.handle h).surface? = some surface := by rw [hh]; rfl
    have hreleased : Episode b.books _ _ := .released hsurface
    rw [show b.books.registry.handle h = _ from hh] at hreleased
    simp only [Step.run_bind, run_changeRegistry, run_askGraphics, List.nil_append]
    exact .cons hreleased (isLived_say .debug _ { b with graphics := _, registry := _ })
  · exact .nil

/-- After its surface was released, a handle can go without another change of surfaces. -/
theorem surface?_releaseSurface (h : HandleRef) (b : Bridge N G S) :
    (((releaseSurface h).run b).state.registry.handle h).surface? = none := by
  have hregistry : ((releaseSurface h).run b).state.registry =
      b.registry.setHandle h (b.registry.handle h).withoutSurface :=
    congrArg Books.registry (run_releaseSurface h b).1
  rw [hregistry]
  by_cases hlt : h < b.registry.handles.length
  · rw [b.registry.handle_setHandle_self hlt, Handle.surface?_withoutSurface]
  · rw [Registry.handle_of_length_le]
    · rfl
    · rw [Registry.length_setHandle]
      exact Nat.not_lt.mp hlt

theorem surface?_tombstone {h : HandleRef} {r : Registry S}
    (hr : (r.handle h).surface? = none) (o : HandleRef) :
    ((r.tombstone h).handle o).surface? = (r.handle o).surface? :=
  Registry.surface?_setHandle (by rw [hr, Handle.surface?]) o

variable [WindowManager N W]

theorem isLived_query (h : HandleRef) (q : Query) :
    IsLived (query h q : Step Entry (Bridge N G S) _) :=
  tells_query chronicle_lived (fun _ => isLived_askManager fun _ => not_false) h

theorem isLived_changeBy (operation : String) (h : HandleRef) (change : WindowChange) :
    IsLived (changeBy operation h change : Step Entry (Bridge N G S) _) :=
  tells_changeBy chronicle_lived (fun _ => isLived_askManager fun _ => not_false) operation h

theorem isLived_pollEvent (consumer : Consumer W) :
    IsLived (pollEvent consumer : Step Entry (Bridge N G S) _) := fun b =>
  lived_quiet
    (Entry.quiet_of_aside (EventStream.notesBy_graphics_poll _ b.events consumer)
      (isAside_pollEvent consumer b)) rfl rfl fun _ => rfl

theorem isLived_cancelEvent (consumer : Consumer W) :
    IsLived (cancelEvent consumer : Step Entry (Bridge N G S) Unit) := fun b =>
  lived_quiet
    (Entry.quiet_of_aside (EventStream.notesBy_graphics_cancel b.events consumer)
      (isAside_cancelEvent consumer b)) rfl rfl fun _ => rfl

theorem isLived_createWindow (options : WindowOptions) :
    IsLived (createWindow options : Step Entry (Bridge N G S) _) := by
  refine chronicle_lived.bind chronicle_lived.nil fun b => ?_
  cases (options.orElse b.defaultWindow).attributes? with
  | error e => exact chronicle_lived.pure _
  | ok attributes =>
    refine chronicle_lived.bind (isLived_askManager fun _ => not_false) fun answer => ?_
    rcases answer with e | id
    · exact chronicle_lived.pure _
    have henter : IsLived (onRegistry (Registry.enter id) : Step Entry (Bridge N G S) _) := by
      intro b
      obtain ⟨-, hstate, hcalls, hnotes⟩ := run_onRegistry_enter id b
      rw [hstate]
      exact lived_quiet ⟨hnotes, fun c hc => absurd (hcalls ▸ hc) List.not_mem_nil⟩ rfl rfl
        (Registry.surface?_insert id)
    refine chronicle_lived.bind henter fun entered => ?_
    obtain ⟨h, _ | old⟩ := entered
    · exact chronicle_lived.bind (isLived_say _ _) fun _ => chronicle_lived.pure _
    · intro b
      rw [Step.run_bind]
      have hgone := surface?_releaseSurface old b
      refine .append (isLived_releaseSurface old b) ?_
      exact .append (lived_changeRegistry (surface?_tombstone hgone))
        (chronicle_lived.bind (isLived_say _ _) (fun _ => chronicle_lived.pure _) _)

theorem isLived_destroyWindow (h : HandleRef) :
    IsLived (destroyWindow h : Step Entry (Bridge N G S) _) := by
  refine chronicle_lived.bind (chronicle_lived.gets _) fun state => ?_
  cases state.liveId "destroy" with
  | error e => exact chronicle_lived.pure _
  | ok id =>
    intro b
    rw [Step.run_bind]
    have hgone := surface?_releaseSurface h b
    have hdestroy : IsLived (askManager (WindowManager.destroy id) fun _ => .destroy id :
        Step Entry (Bridge N G S) Unit) := isLived_askManager fun _ => not_false
    refine .append (isLived_releaseSurface h b) (.append (hdestroy _) ?_)
    exact .append (lived_changeRegistry (surface?_tombstone hgone))
      (chronicle_lived.bind (isLived_say _ _) (fun _ => chronicle_lived.pure _) _)

/-- The drawable of a live window, which may stay on the handle. -/
theorem isLived_drawableOf {h : HandleRef} {id : WindowId} {kept : Option Drawable}
    {b : Bridge N G S} (hh : b.registry.handle h = .live id kept none) :
    Lived b ((drawableOf h id kept).run b).journal ((drawableOf h id kept).run b).state ∧
      ∃ kept', ((drawableOf h id kept).run b).state.registry.handle h = .live id kept' none := by
  cases kept with
  | some drawable => exact ⟨.nil, some drawable, hh⟩
  | none =>
    cases ha : ((WindowManager.drawable id).run b.events.manager).answer with
    | error e =>
      rw [run_drawableOf_error ha]
      exact ⟨lived_quiet (Entry.quiet_call (by exact not_false) _) rfl rfl fun _ => rfl, none, hh⟩
    | ok drawable =>
      have hlt : h < b.registry.handles.length := b.registry.lt_length_of_ne (by rw [hh]; simp)
      have hsame : (Handle.live id (some drawable) none).surface? =
          (b.registry.handle h).surface? := by rw [hh]; rfl
      rw [run_drawableOf_ok ha]
      exact ⟨lived_quiet (Entry.quiet_call (by exact not_false) _) rfl rfl
        (Registry.surface?_setHandle hsame), some drawable, b.registry.handle_setHandle_self hlt _⟩

/-- Making a surface of a drawable and binding it to a handle without one. -/
theorem isLived_bindTo {h : HandleRef} {id : WindowId} {kept : Option Drawable} {b : Bridge N G S}
    (hh : b.registry.handle h = .live id kept none) (answer : Except BackendError Drawable) :
    Lived b ((bindTo h id answer).run b).journal ((bindTo h id answer).run b).state := by
  cases answer with
  | error e => exact .nil
  | ok drawable =>
    rw [bindTo, Step.run_bind]
    cases ha : ((GraphicsBackend.wrap drawable).run b.graphics).answer with
    | error e =>
      have hrefused : Episode b.books _ _ := .refused ha
      simp only [run_makeSurface_error ha, Step.run_pure, List.append_nil]
      exact .single hrefused
    | ok value =>
      have hmade : Episode b.books _ _ := .made hh ha
      simp only [run_makeSurface_ok ha, Step.run_bind, run_changeRegistry, List.nil_append,
        Step.run_pure, List.append_nil]
      exact .cons hmade
        (isLived_say .debug _ { b with graphics := _, registry := _, surfacesMade := _ })

theorem isLived_gpuSurface (h : HandleRef) :
    IsLived (gpuSurface h : Step Entry (Bridge N G S) _) := by
  intro b
  rcases hh : b.registry.handle h with ⟨id, kept, _ | surface⟩ | _
  · rw [run_gpuSurface_unbound hh, Step.run_bind]
    obtain ⟨hdrawn, kept', hkept⟩ := isLived_drawableOf hh
    exact .append hdrawn (isLived_bindTo hkept _)
  · unfold gpuSurface
    rw [Step.run_bind, run_handle, hh]
    exact .nil
  · unfold gpuSurface
    rw [Step.run_bind, run_handle, hh]
    exact .nil

/-- A request for a surface that fails makes none and leaves the window without one. -/
theorem wrapped_gpuSurface_error {h : HandleRef} {b : Bridge N G S} {e : BridgeError}
    (he : ((gpuSurface h).run b).answer = .error e) :
    wrapped (Entry.calls ((gpuSurface h).run b).journal) = [] ∧
      (((gpuSurface h).run b).state.registry.handle h).surface? = none := by
  have hrequested := requested_gpuSurface h b
  exact ⟨wrapped_eq_nil_of_requested hrequested he, hrequested.surface?_of_error he⟩

/-- Every operation is a sequence of episodes. -/
theorem told_lived {X : Type} [Surroundings X N] :
    Told X (Lived : Bridge N G S → List Entry → Bridge N G S → Prop) where
  chronicle := chronicle_lived
  say := isLived_say
  create := isLived_createWindow
  destroy := isLived_destroyWindow
  gpuSurface := isLived_gpuSurface
  query := isLived_query
  changeBy := isLived_changeBy
  setDeviceFilter _ := isLived_askManager fun _ => not_false
  poll := isLived_pollEvent
  cancel := isLived_cancelEvent
  outside _ _ := lived_quiet (Entry.quiet_manager _) rfl rfl fun _ => rfl

theorem isLived_destroyLeftover (h : HandleRef) :
    IsLived (destroyLeftover h : Step Entry (Bridge N G S) Unit) :=
  chronicle_lived.bind (isLived_destroyWindow h) fun
    | .ok _ => chronicle_lived.pure ()
    | .error _ => isLived_say _ _

/-- A bridge that is closed lives on until its graphics backend goes, which is the last thing it
does. -/
theorem lived_close (b : Bridge N G S) :
    ∃ (last : Bridge N G S) (journal : List Entry), Lived b journal last ∧
      (close.run b).journal =
        journal ++ Entry.graphicsCall ((GraphicsBackend.close (G := G)).run last.graphics).journal
          .closeGraphics ∧
      (close.run b).state.surfacesMade = last.surfacesMade := by
  -- all but the last step, from which the backend goes
  have hmost : ∀ remaining : List HandleRef, IsLived (do
      if remaining.isEmpty then pure ()
      else
        Entry.say .debug
          ("destroying " ++ decimalText remaining.length ++ " windows left at shutdown")
        Step.forEach destroyLeftover remaining
      askManager WindowManager.close fun _ => .closeManager :
        Step Entry (Bridge N G S) Unit) := by
    intro remaining
    have hmanager : IsLived (askManager WindowManager.close fun _ => .closeManager :
        Step Entry (Bridge N G S) Unit) := isLived_askManager fun _ => not_false
    by_cases hempty : remaining.isEmpty = true
    · simp only [hempty, if_true]
      exact chronicle_lived.bind (chronicle_lived.pure ()) fun _ => hmanager
    · simp only [hempty]
      exact chronicle_lived.bind (isLived_say _ _) fun _ =>
        chronicle_lived.bind (chronicle_lived.forEach isLived_destroyLeftover remaining) fun _ =>
          hmanager
  refine ⟨_, _, hmost b.registry.windows b, ?_⟩
  unfold close windows
  cases hempty : b.registry.windows.isEmpty with
  | true =>
    simp only [Step.run_bind, Step.run_gets, hempty, if_true]
    exact ⟨rfl, rfl⟩
  | false =>
    simp only [Step.run_bind, Step.run_gets, hempty, Bool.false_eq_true, if_false,
      List.append_assoc]
    exact ⟨rfl, rfl⟩

end Bridge

/-- A session lives on until the graphics backend goes at its end. -/
theorem Session.lived_finish {N W G S : Type} [WindowManager N W] [GraphicsBackend G S]
    (session : Session N G S W) :
    ∃ (last : Bridge N G S) (journal : List Entry), Bridge.Lived session.1 journal last ∧
      (finish.run session).journal =
        journal ++ Entry.graphicsCall ((GraphicsBackend.close (G := G)).run last.graphics).journal
          .closeGraphics ∧
      (finish.run session).state.1.surfacesMade = last.surfacesMade := by
  have hleave := tells_leaveAll Bridge.chronicle_lived Bridge.isLived_cancelEvent session
  obtain ⟨last, journal, hlived, hjournal, hmade⟩ :=
    Bridge.lived_close ((Consumers.leaveAll source).run session).state.1
  refine ⟨last, _, Bridge.chronicle_lived.append hleave hlived, ?_, hmade⟩
  rw [List.append_assoc, ← hjournal]
  rfl

end WindowSystem
