/-
# What operations leave alone

Most operations leave most of a bridge alone. Which parts those are is said by a relation between
the state before and the state after (`Bridge.Respects`): an operation respects a relation when
its parts do. Only the creation of a window makes a handle, and only the first request for a
surface of a window makes a surface (`Session.keeps_length_perform`,
`Session.keeps_made_perform`).
-/
import WindowSystem.Proofs.Bridge.Operations

namespace WindowSystem

namespace Bridge

variable {N W G S α β γ : Type}

/-- Whatever the state, a relation holds between it and the state after a step. -/
def Respects (Q : Bridge N G S → Bridge N G S → Prop) (s : Step Entry (Bridge N G S) α) : Prop :=
  ∀ b : Bridge N G S, Q b (s.run b).state

/-- A relation between earlier and later states that does not look at the graphics backend. -/
structure IsFrame (Q : Bridge N G S → Bridge N G S → Prop) : Prop where
  refl : ∀ b, Q b b
  trans : ∀ {b b' b''}, Q b b' → Q b' b'' → Q b b''
  graphics : ∀ b g, Q b { b with graphics := g }

namespace IsFrame

variable {Q : Bridge N G S → Bridge N G S → Prop} (hQ : IsFrame Q)

include hQ

/-- What respects the relation tells it of the states alone. -/
theorem chronicle : Step.Chronicle fun (b : Bridge N G S) (_ : List Entry) b' => Q b b' where
  nil := hQ.refl
  append h h' := hQ.trans h h'

theorem pure (a : α) : Respects Q (Pure.pure a) := hQ.refl

theorem bind {s : Step Entry (Bridge N G S) α} {t : α → Step Entry (Bridge N G S) β}
    (hs : Respects Q s) (ht : ∀ a, Respects Q (t a)) : Respects Q (s >>= t) :=
  hQ.chronicle.bind hs ht

theorem say (level : LogLevel) (text : String) : Respects Q (Entry.say level text) := hQ.refl

theorem askGraphics (s : Step Note G α) (call : α → Call) : Respects Q (askGraphics s call) :=
  fun b => hQ.graphics b _

variable [WindowManager N W]

theorem query {q : Query}
    (hcall : ∀ id, Respects Q (askManager (WindowManager.query q id) (.query id q)))
    (h : HandleRef) : Respects Q (query h q) := tells_query hQ.chronicle hcall h

section Handle

variable {h : HandleRef}
  (hset : ∀ state, Respects Q (changeRegistry fun r => r.setHandle h state))

include hset

variable [GraphicsBackend G S]

/-- Binding a surface to a handle. -/
theorem gpuSurface
    (hcall : ∀ id, Respects Q (askManager (WindowManager.drawable id) (.drawable id)))
    (hmade : ∀ b made, Q b { b with surfacesMade := made }) : Respects Q (gpuSurface h) := by
  have hmake : ∀ drawable, Respects Q (makeSurface drawable) := fun drawable =>
    tells_makeSurface hQ.chronicle drawable (fun _ => hQ.askGraphics _ _) fun n b => hmade b n
  exact tells_gpuSurface hQ.chronicle hset hcall hmake hQ.say

theorem releaseSurface : Respects Q (releaseSurface h) :=
  tells_releaseSurface hQ.chronicle hset (fun _ => hQ.askGraphics _ _) hQ.say

/-- Destroying a window. -/
theorem destroyWindow
    (hcall : ∀ id, Respects Q (askManager (WindowManager.destroy id) fun _ => .destroy id))
    (hremove : ∀ id, Respects Q (changeRegistry fun r => r.remove id)) :
    Respects Q (destroyWindow h) := by
  have hgone : ∀ id, Respects Q (changeRegistry fun r => (r.remove id).tombstone h) := fun id b =>
    hQ.trans (hremove id b) (hset .destroyed { b with registry := b.registry.remove id })
  exact tells_destroyWindow hQ.chronicle hQ.say (hQ.releaseSurface hset) hcall hgone

end Handle

variable [GraphicsBackend G S]

/-- Creating a window. -/
theorem createWindow
    (hcall : ∀ attributes,
      Respects Q (askManager (WindowManager.create attributes) (.create attributes)))
    (hregistry : ∀ b r, Q b { b with registry := r }) (options : WindowOptions) :
    Respects Q (createWindow options) :=
  tells_createWindow hQ.chronicle hQ.say hcall (fun _ b => hregistry b _)
    (fun _ => hQ.releaseSurface fun _ b => hregistry b _) (fun _ b => hregistry b _) options

end IsFrame

/-! ## Keeping a value -/

/-- A value of the registry and the number of surfaces made stays the same. -/
def Same (f : Registry S → Nat → γ) (b b' : Bridge N G S) : Prop :=
  f b'.registry b'.surfacesMade = f b.registry b.surfacesMade

theorem isFrame_same (f : Registry S → Nat → γ) :
    IsFrame (Same f : Bridge N G S → Bridge N G S → Prop) where
  refl _ := rfl
  trans h h' := h'.trans h
  graphics _ _ := rfl

variable (f : Registry S → Nat → γ) [WindowManager N W]

/-- Queries change nothing in the registry. -/
theorem same_query (h : HandleRef) (q : Query) :
    Respects (Same f) (query h q : Step Entry (Bridge N G S) _) :=
  (isFrame_same f).query (fun _ _ => rfl) h

/-- Changes of a window change nothing in the registry. -/
theorem same_changeBy (operation : String) (h : HandleRef) (change : WindowChange) :
    Respects (Same f) (changeBy operation h change : Step Entry (Bridge N G S) _) :=
  tells_changeBy (isFrame_same f).chronicle (fun _ _ => rfl) operation h

variable {f} [GraphicsBackend G S] {h : HandleRef}
  (hset : ∀ r state made, f (r.setHandle h state) made = f r made)

include hset

/-- Asking for a surface leaves the other handles alone. -/
theorem same_gpuSurface (hmade : ∀ r made made', f r made = f r made') :
    Respects (Same f) (gpuSurface h : Step Entry (Bridge N G S) _) :=
  (isFrame_same f).gpuSurface (fun state b => hset b.registry state b.surfacesMade)
    (fun _ _ => rfl) fun b _ => hmade b.registry _ _

theorem same_releaseSurface :
    Respects (Same f) (releaseSurface h : Step Entry (Bridge N G S) Unit) :=
  (isFrame_same f).releaseSurface fun state b => hset b.registry state b.surfacesMade

/-- Destroying a window leaves the other handles alone. -/
theorem same_destroyWindow (hremove : ∀ r id made, f (r.remove id) made = f r made) :
    Respects (Same f) (destroyWindow h : Step Entry (Bridge N G S) _) :=
  (isFrame_same f).destroyWindow (fun state b => hset b.registry state b.surfacesMade)
    (fun _ _ => rfl) fun id b => hremove b.registry id b.surfacesMade

end Bridge

/-! ## Sessions -/

namespace Session

variable {N W G S X α β γ : Type} (f : Registry S → Nat → γ)

/-- Whatever the state, a step of a session keeps a value of the registry and the number of
surfaces made. -/
def Keeps (s : Step Entry (Session N G S W) α) : Prop :=
  ∀ session : Session N G S W,
    f (s.run session).state.1.registry (s.run session).state.1.surfacesMade =
      f session.1.registry session.1.surfacesMade

theorem keeps_pure (a : α) : Keeps f (pure a : Step Entry (Session N G S W) α) := fun _ => rfl

variable {f}

theorem Keeps.bind {s : Step Entry (Session N G S W) α} {t : α → Step Entry (Session N G S W) β}
    (hs : Keeps f s) (ht : ∀ a, Keeps f (t a)) : Keeps f (s >>= t) := by
  intro session
  rw [Step.run_bind]
  exact (ht _ _).trans (hs session)

theorem keeps_onBridge {s : Step Entry (Bridge N G S) α} (hs : Bridge.Respects (Bridge.Same f) s)
    (answer : α → Answer S) : Keeps f (onBridge s answer : Step Entry (Session N G S W) _) :=
  fun session => hs session.1

variable (f)

/-- A value that a step keeps is kept by one step after another. -/
theorem chronicle_keeps :
    Step.Chronicle fun (b : Bridge N G S) (_ : List Entry) b' => Bridge.Same f b b' where
  nil _ := rfl
  append h h' := h'.trans h

variable [WindowManager N W]

/-- Who the consumers are is not written in the registry. -/
theorem keeps_come (name : String) :
    Keeps f (Consumers.come source name : Step Entry (Session N G S W) Unit) :=
  tells_come (chronicle_keeps f) (fun _ _ => rfl) name

theorem keeps_leave (name : String) :
    Keeps f (Consumers.leave source name : Step Entry (Session N G S W) Bool) :=
  tells_leave (chronicle_keeps f) (fun _ _ => rfl) name

theorem keeps_poll (name : String) :
    Keeps f (Consumers.poll source name : Step Entry (Session N G S W) _) :=
  tells_poll (chronicle_keeps f) (fun _ _ => rfl) name

theorem keeps_leaveAll :
    Keeps f (Consumers.leaveAll source : Step Entry (Session N G S W) Unit) :=
  tells_leaveAll (chronicle_keeps f) fun _ _ => rfl

variable [GraphicsBackend G S] [Surroundings X N]

/-- Only creating a window makes a handle. -/
theorem keeps_length_perform {a : Action X} (ha : ∀ options, a ≠ .create options) :
    Keeps (fun r _ => r.handles.length) (perform a : Step Entry (Session N G S W) _) := by
  have hset : ∀ (h : HandleRef) (r : Registry S) (state : Handle S) (_ : Nat),
      (r.setHandle h state).handles.length = r.handles.length :=
    fun h r state _ => r.length_setHandle h state
  cases a with
  | create options => exact absurd rfl (ha options)
  | destroy h => exact keeps_onBridge (Bridge.same_destroyWindow (hset h) fun _ _ _ => rfl) _
  | gpuSurface h => exact keeps_onBridge (Bridge.same_gpuSurface (hset h) fun _ _ _ => rfl) _
  | query h q => exact keeps_onBridge (Bridge.same_query _ h q) _
  | change h change => exact keeps_onBridge (Bridge.same_changeBy _ _ h change) _
  | setAlwaysOnTop h onTop => exact keeps_onBridge (Bridge.same_changeBy _ _ h _) _
  | come name => exact (keeps_come _ name).bind fun _ => keeps_pure _ _
  | leave name => exact (keeps_leave _ name).bind fun _ => keeps_pure _ _
  | poll name => exact (keeps_poll _ name).bind fun _ => keeps_pure _ _
  | _ => exact fun _ => rfl

/-- Only asking for the surface of a window makes a surface. -/
theorem keeps_made_perform {a : Action X} (ha : ∀ h, a ≠ .gpuSurface h) :
    Keeps (fun _ made => made) (perform a : Step Entry (Session N G S W) _) := by
  cases a with
  | create options =>
    have hcreate := (Bridge.isFrame_same (N := N) (G := G) (S := S) fun _ made => made).createWindow
      (fun _ _ => rfl) (fun _ _ => rfl) options
    exact keeps_onBridge hcreate _
  | destroy h =>
    exact keeps_onBridge (Bridge.same_destroyWindow (fun _ _ _ => rfl) fun _ _ _ => rfl) _
  | gpuSurface h => exact absurd rfl (ha h)
  | query h q => exact keeps_onBridge (Bridge.same_query _ h q) _
  | change h change => exact keeps_onBridge (Bridge.same_changeBy _ _ h change) _
  | setAlwaysOnTop h onTop => exact keeps_onBridge (Bridge.same_changeBy _ _ h _) _
  | come name => exact (keeps_come _ name).bind fun _ => keeps_pure _ _
  | leave name => exact (keeps_leave _ name).bind fun _ => keeps_pure _ _
  | poll name => exact (keeps_poll _ name).bind fun _ => keeps_pure _ _
  | _ => exact fun _ => rfl

end Session

end WindowSystem
