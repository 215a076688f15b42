/-
# One surface to a window

Whatever else is done between the requests for the surface of a window, the handle stays as the last
one left it, or the window is destroyed; and nobody else asks for a drawable or for a surface. So
from its creation on, in every history and however the backends fail, a window gets its surface by
the one protocol, and gets one (`Session.surface_bound_once`).
-/
import WindowSystem.Proofs.Bridge.BindingProtocol
import WindowSystem.Proofs.Bridge.Ledger
import WindowSystem.Proofs.Bridge.LiveHandles
import WindowSystem.Scripted.Graphics
import WindowSystem.Scripted.Manager

namespace WindowSystem

/-! ## What is done in between -/

section Moves

variable {G S : Type} [GraphicsBackend G S] {b b' : Books G S} {calls : List Call}
  {notes : List Note} {h : HandleRef}

/-- A move in which nobody is asked for a drawable or a surface leaves a handle as it is, or
destroys it. -/
theorem Move.handle_of_not_isBinding (hm : Move b calls notes b')
    (hcalls : ∀ c ∈ calls, ¬ c.IsBinding) (hlt : h < b.registry.handles.length) :
    b'.registry.handle h = b.registry.handle h ∨ b'.registry.handle h = .destroyed := by
  cases hm with
  | created attributes hid =>
    exact Or.inl (b.registry.handle_insert_of_ne _ (Nat.ne_of_lt hlt))
  | @replaced _ id old hid =>
    by_cases hold : h = old
    · rw [hold]
      exact Or.inr (Registry.handle_tombstone_self _ old)
    · refine Or.inl ?_
      rw [Registry.handle_tombstone_of_ne _ hold,
        b.registry.handle_insert_of_ne _ (Nat.ne_of_lt hlt)]
  | @destroyed o id hid =>
    by_cases ho : h = o
    · rw [ho]
      exact Or.inr (Registry.handle_tombstone_self _ o)
    · exact Or.inl (Registry.handle_tombstone_of_ne _ ho)
  | drawn hh drawable => exact absurd trivial (hcalls _ List.mem_cons_self)
  | wrapped hh hvalue => exact absurd trivial (hcalls _ List.mem_cons_self)
  | _ => exact Or.inl rfl

theorem Moves.handle_of_not_isBinding (hm : Moves b calls notes b')
    (hcalls : ∀ c ∈ calls, ¬ c.IsBinding) (hlt : h < b.registry.handles.length) :
    b'.registry.handle h = b.registry.handle h ∨ b'.registry.handle h = .destroyed := by
  induction hm with
  | nil => exact Or.inl rfl
  | cons first _ ih =>
    have hlater := ih (fun c hc => hcalls c (List.mem_append_right _ hc))
      (Nat.lt_of_lt_of_le hlt first.keepsDestroyed.length_le)
    rcases first.handle_of_not_isBinding (fun c hc => hcalls c (List.mem_append_left _ hc)) hlt with
      hsame | hd
    · rwa [hsame] at hlater
    · rw [hd] at hlater
      exact Or.inr (hlater.elim id id)

end Moves

namespace Bridge

variable {N W G S α β : Type}

/-- Nobody is asked for a drawable or a surface. -/
def NoSurfaceAsked (_ : Bridge N G S) (journal : List Entry) (_ : Bridge N G S) : Prop :=
  ∀ c ∈ Entry.calls journal, ¬ c.IsBinding

theorem chronicle_noSurfaceAsked :
    Step.Chronicle (NoSurfaceAsked : Bridge N G S → List Entry → Bridge N G S → Prop) where
  nil _ _ hc := absurd hc List.not_mem_nil
  append h h' c hc := by
    rw [Entry.calls_append, List.mem_append] at hc
    exact hc.elim (h c) (h' c)

/-- A step asks nobody for a drawable or a surface. -/
def AsksNoSurface (s : Step Entry (Bridge N G S) α) : Prop := Step.Tells NoSurfaceAsked s

/-- A step without calls. -/
theorem asksNoSurface_of_calls {s : Step Entry (Bridge N G S) α}
    (h : ∀ b, Entry.calls (s.run b).journal = []) : AsksNoSurface s := by
  intro b c hc
  rw [h b] at hc
  exact absurd hc List.not_mem_nil

theorem asksNoSurface_askManager {s : Step Note N α} {call : α → Call}
    (h : ∀ a, ¬ (call a).IsBinding) :
    AsksNoSurface (askManager s call : Step Entry (Bridge N G S) α) := by
  intro b c hc
  rw [run_askManager, Entry.calls_append, Entry.calls_map_note] at hc
  rw [List.mem_singleton.mp hc]
  exact h _

theorem asksNoSurface_askGraphics {s : Step Note G α} {call : α → Call}
    (h : ∀ a, ¬ (call a).IsBinding) :
    AsksNoSurface (askGraphics s call : Step Entry (Bridge N G S) α) := by
  intro b c hc
  rw [run_askGraphics, Entry.calls_append, Entry.calls_map_note] at hc
  rw [List.mem_singleton.mp hc]
  exact h _

theorem asksNoSurface_of_aside {s : Step Entry (Bridge N G S) α}
    (h : ∀ b, ∀ c ∈ Entry.calls (s.run b).journal, c.IsAside) : AsksNoSurface s := by
  intro b c hc hbinding
  have haside := h b c hc
  cases c with
  | drawable => exact haside
  | wrap => exact haside
  | _ => exact hbinding

theorem asksNoSurface_say (level : LogLevel) (text : String) :
    AsksNoSurface (Entry.say level text : Step Entry (Bridge N G S) Unit) :=
  asksNoSurface_of_calls fun _ => rfl

theorem asksNoSurface_changeRegistry (f : Registry S → Registry S) :
    AsksNoSurface (changeRegistry f : Step Entry (Bridge N G S) Unit) :=
  asksNoSurface_of_calls fun _ => rfl

theorem asksNoSurface_onManager (s : Step Note N α) :
    AsksNoSurface (onManager s : Step Entry (Bridge N G S) α) :=
  asksNoSurface_of_calls fun b => by rw [run_onManager, Entry.calls_map_note]

variable [WindowManager N W]

theorem asksNoSurface_query (h : HandleRef) (q : Query) :
    AsksNoSurface (query h q : Step Entry (Bridge N G S) _) :=
  tells_query chronicle_noSurfaceAsked (fun _ => asksNoSurface_askManager fun _ => not_false) h

theorem asksNoSurface_changeBy (operation : String) (h : HandleRef) (change : WindowChange) :
    AsksNoSurface (changeBy operation h change : Step Entry (Bridge N G S) _) :=
  tells_changeBy chronicle_noSurfaceAsked (fun _ => asksNoSurface_askManager fun _ => not_false)
    operation h

variable [GraphicsBackend G S]

omit [WindowManager N W] in
theorem asksNoSurface_releaseSurface (h : HandleRef) :
    AsksNoSurface (releaseSurface h : Step Entry (Bridge N G S) Unit) :=
  tells_releaseSurface chronicle_noSurfaceAsked (fun _ => asksNoSurface_changeRegistry _)
    (fun _ => asksNoSurface_askGraphics fun _ => not_false) asksNoSurface_say

theorem asksNoSurface_destroyWindow (h : HandleRef) :
    AsksNoSurface (destroyWindow h : Step Entry (Bridge N G S) _) :=
  tells_destroyWindow chronicle_noSurfaceAsked asksNoSurface_say (asksNoSurface_releaseSurface h)
    (fun _ => asksNoSurface_askManager fun _ => not_false) fun _ => asksNoSurface_changeRegistry _

theorem asksNoSurface_createWindow (options : WindowOptions) :
    AsksNoSurface (createWindow options : Step Entry (Bridge N G S) _) := by
  have henter : ∀ id,
      AsksNoSurface (onRegistry (Registry.enter id) : Step Entry (Bridge N G S) _) :=
    fun id => asksNoSurface_of_calls fun b => (run_onRegistry_enter id b).2.2.1
  exact tells_createWindow chronicle_noSurfaceAsked asksNoSurface_say
    (fun _ => asksNoSurface_askManager fun _ => not_false) henter asksNoSurface_releaseSurface
    (fun _ => asksNoSurface_changeRegistry _) options

/-- Everything but a request for a surface asks nobody for a drawable or a surface. -/
theorem told_noSurfaceAsked {X : Type} [Surroundings X N] :
    ToldAside X (NoSurfaceAsked : Bridge N G S → List Entry → Bridge N G S → Prop) where
  chronicle := chronicle_noSurfaceAsked
  say := asksNoSurface_say
  create := asksNoSurface_createWindow
  destroy := asksNoSurface_destroyWindow
  query := asksNoSurface_query
  changeBy := asksNoSurface_changeBy
  setDeviceFilter _ := asksNoSurface_askManager fun _ => not_false
  poll consumer := asksNoSurface_of_aside (isAside_pollEvent consumer)
  cancel consumer := asksNoSurface_of_aside (isAside_cancelEvent consumer)
  outside _ := asksNoSurface_onManager _

/-- A request for the surface of a window, as the bridge takes it. -/
def request (h : HandleRef) (b : Bridge N G S) : Request S :=
  let next := (gpuSurface h).run b
  ⟨b.registry.handle h, Entry.calls next.journal, next.answer, next.state.registry.handle h⟩

end Bridge

/-! ## Sessions -/

namespace Session

variable {N W G S X : Type} [WindowManager N W] [GraphicsBackend G S] [Surroundings X N]

/-- Only a request for the surface of a window asks for a drawable or a surface. -/
theorem not_isBinding_perform {a : Action X} (ha : ∀ o, a ≠ .gpuSurface o)
    (session : Session N G S W) :
    ∀ c ∈ Entry.calls ((perform a).run session).journal, ¬ c.IsBinding :=
  tells_perform_of_ne Bridge.told_noSurfaceAsked ha session

/-- The requests made for the surface of a window along a list of actions. -/
def requests (h : HandleRef) (session : Session N G S W) : List (Action X) → List (Request S)
  | [] => []
  | a :: rest =>
    let later := requests h ((perform a).run session).state rest
    match a with
    | .gpuSurface o => if o = h then Bridge.request h session.1 :: later else later
    | _ => later

/-- Any other action makes no request for the surface of a window. -/
theorem requests_cons_of_ne {a : Action X} {h : HandleRef} (ha : a ≠ .gpuSurface h)
    (session : Session N G S W) (rest : List (Action X)) :
    requests h session (a :: rest) = requests h ((perform a).run session).state rest := by
  cases a with
  | gpuSurface o => exact if_neg fun heq : o = h => ha (heq ▸ rfl)
  | _ => rfl

theorem requests_cons_self (h : HandleRef) (session : Session N G S W) (rest : List (Action X)) :
    requests h session (.gpuSurface h :: rest) =
      Bridge.request h session.1 ::
        requests h ((perform (.gpuSurface h : Action X)).run session).state rest :=
  if_pos rfl

/-- An action that is no request for the surface of a window leaves its handle as it is, or destroys
it. -/
theorem handle_perform_of_ne {a : Action X} {h : HandleRef} (ha : a ≠ .gpuSurface h)
    {session : Session N G S W} (hlt : h < session.1.registry.handles.length) :
    ((perform a).run session).state.1.registry.handle h = session.1.registry.handle h ∨
      ((perform a).run session).state.1.registry.handle h = .destroyed := by
  by_cases hother : ∃ o, a = .gpuSurface o
  · obtain ⟨o, rfl⟩ := hother
    have hne : h ≠ o := fun heq => ha (heq ▸ rfl)
    exact Or.inl (Bridge.same_gpuSurface (f := fun r _ => r.handle h)
      (fun r state _ => r.handle_setHandle_of_ne hne state) (fun _ _ _ => rfl) session.1)
  · exact (isMoves_perform a session).handle_of_not_isBinding
      (not_isBinding_perform (fun o heq => hother ⟨o, heq⟩) session) hlt

/-- The requests for the surface of a window go on one from another. -/
theorem served_requests (h : HandleRef) (actions : List (Action X)) (session : Session N G S W)
    (hlt : h < session.1.registry.handles.length) :
    Served (session.1.registry.handle h) (requests h session actions) := by
  induction actions generalizing session with
  | nil => exact .nil _
  | cons a rest ih =>
    have hlater := ih ((perform a).run session).state
      (Nat.lt_of_lt_of_le hlt (isMoves_perform a session).keepsDestroyed.length_le)
    by_cases ha : a = .gpuSurface h
    · subst ha
      rw [requests_cons_self]
      have hfirst := Bridge.requested_gpuSurface h session.1
      exact .request (r := Bridge.request h session.1) hfirst hlater
    · rw [requests_cons_of_ne ha]
      rcases handle_perform_of_ne ha hlt with hsame | hd
      · rwa [hsame] at hlater
      · rw [hd] at hlater
        exact .destroyed _ hlater

/-- A window is created on a fresh handle, in every history. Its surface is asked for with the
first of the calls that come to one, by its own requests alone and whatever is done in between: the
window manager hands its one drawable out, the graphics backend makes the one surface of it, a
request fails with the step of it that fails, and once one succeeded the same surface is handed out
until the window is destroyed. -/
theorem surface_bound_once (manager : N) (graphics : G) (settings : Settings)
    (before : List (Action X)) (options : WindowOptions) (h : HandleRef)
    (later : List (Action X)) :
    let past : Outcome Entry (Session N G S W) (List (Answer S)) :=
      history manager graphics settings before
    let created := (perform (.create options : Action X)).run past.state
    created.answer = .created (.ok h) →
      (∃ attributes id, .create attributes (.ok id) ∈ Entry.calls created.journal ∧
        created.state.1.registry.handle h = .fresh id ∧
        BoundOnce id (requests h created.state later)) ∧
      ∀ (session : Session N G S W) (a : Action X), (∀ o, a ≠ .gpuSurface o) →
        ∀ c ∈ Entry.calls ((perform a).run session).journal, ¬ c.IsBinding := by
  intro past created hok
  have hsound : past.state.1.registry.Sound := sound_history manager graphics settings before
  obtain ⟨attributes, id, hattributes, hid, -, hfresh⟩ :=
    Bridge.createWindow_made hsound (Answer.created.inj hok)
  obtain ⟨rest, hcalls, -⟩ := (Bridge.run_createWindow_of_ok hattributes).2
  have hlt : h < created.state.1.registry.handles.length :=
    created.state.1.registry.lt_length_of_ne fun hd => by
      rw [show created.state.1.registry.handle h = .fresh id from hfresh] at hd
      cases hd
  have hserved := served_requests h later created.state hlt
  rw [show created.state.1.registry.handle h = .fresh id from hfresh] at hserved
  have hjournal : .create attributes (.ok id) ∈ Entry.calls created.journal := by
    show _ ∈ Entry.calls (((Bridge.createWindow options).run past.state.1).journal ++ [])
    rw [List.append_nil, hcalls, hid]
    exact List.mem_cons_self
  exact ⟨⟨attributes, id, hjournal, hfresh, hserved.boundOnce⟩,
    fun session a ha => not_isBinding_perform ha session⟩

/-- The drawable outlives the refusal to make a surface of it: the second request asks the graphics
backend alone. -/
theorem drawable_kept_for_retry :
    let lost : BackendError := .surfaceCreation "device lost"
    let graphics : Scripted.Graphics := { failWrap := some lost }
    let past : Outcome Entry (Session Scripted.Manager Scripted.Graphics Nat _) _ :=
      history ({} : Scripted.Manager) graphics {} ([] : List (Action Empty))
    let created := (perform (.create {} : Action Empty)).run past.state
    let tries : List (Action Empty) := [.gpuSurface 0, .windowCount, .gpuSurface 0]
    ∃ id, BoundOnce id (requests 0 created.state tries) ∧
      (requests 0 created.state tries).map (fun r => r.calls.map Call.failure?) =
        [[none, some lost], [some lost]] := by
  intro lost graphics past created tries
  obtain ⟨⟨attributes, id, hcreate, hfresh, honce⟩, -⟩ :=
    surface_bound_once ({} : Scripted.Manager) graphics {} [] {} 0 tries rfl
  exact ⟨id, honce, by decide +kernel⟩

end Session

end WindowSystem
