/-
# What a step tells

A chronicle is a relation between a state, what is written from there on, and the state then: it
holds when nothing is done, and of one thing after another. A step tells it when the relation holds
of every run of the step (`Step.Tells`), so a step tells what all its parts tell, and an operation
of a bridge tells what its calls and its changes of the registry do. A session adds to the
operations of its bridge only who the consumers are: what every operation tells, every action tells
(`Session.tells_perform`), and so does every history (`Session.tells_history`).
-/
import WindowSystem.Proofs.Bridge.Session

namespace WindowSystem

namespace Step

variable {ω σ α β : Type}

/-- A relation between a state, what is written, and a later state, that holds when nothing is done
and of one thing after another. -/
structure Chronicle (Q : σ → List ω → σ → Prop) : Prop where
  nil : ∀ x, Q x [] x
  append : ∀ {x y z : σ} {journal more : List ω}, Q x journal y → Q y more z →
    Q x (journal ++ more) z

/-- Whatever the state, a relation holds between it, what a step writes, and the state after. -/
def Tells (Q : σ → List ω → σ → Prop) (s : Step ω σ α) : Prop :=
  ∀ x : σ, Q x (s.run x).journal (s.run x).state

namespace Chronicle

variable {Q : σ → List ω → σ → Prop} (hQ : Chronicle Q)

include hQ

theorem pure (a : α) : Tells Q (Pure.pure a : Step ω σ α) := hQ.nil

theorem bind {s : Step ω σ α} {t : α → Step ω σ β} (hs : Tells Q s) (ht : ∀ a, Tells Q (t a)) :
    Tells Q (s >>= t) := by
  intro x
  rw [run_bind]
  exact hQ.append (hs x) (ht _ _)

/-- Reading the state writes nothing. -/
theorem gets (f : σ → α) : Tells Q (Step.gets f) := hQ.nil

theorem forEach {f : α → Step ω σ Unit} (hf : ∀ a, Tells Q (f a)) (list : List α) :
    Tells Q (forEach f list) := by
  induction list with
  | nil => exact hQ.pure ()
  | cons a rest ih => exact hQ.bind (hf a) fun _ => ih

end Chronicle

end Step

open Step (Tells Chronicle)

/-! ## What operations tell by their parts -/

namespace Bridge

variable {N W G S : Type} {Q : Bridge N G S → List Entry → Bridge N G S → Prop} (hQ : Chronicle Q)

include hQ

section Handle

variable {h : HandleRef}
  (hset : ∀ state, Tells Q (changeRegistry fun r => r.setHandle h state))

include hset

theorem tells_drawableOf [WindowManager N W] (id : WindowId) (kept : Option Drawable)
    (hcall : Tells Q (askManager (WindowManager.drawable id) (.drawable id))) :
    Tells Q (drawableOf h id kept) := by
  cases kept with
  | some drawable => exact hQ.pure _
  | none =>
    refine hQ.bind hcall fun answer => ?_
    cases answer with
    | error e => exact hQ.bind (hQ.pure _) fun _ => hQ.pure _
    | ok drawable => exact hQ.bind (hset _) fun _ => hQ.pure _

variable [GraphicsBackend G S]

theorem tells_gpuSurface [WindowManager N W]
    (hcall : ∀ id, Tells Q (askManager (WindowManager.drawable id) (.drawable id)))
    (hmake : ∀ drawable, Tells Q (makeSurface drawable))
    (hsay : ∀ level text, Tells Q (Entry.say level text)) : Tells Q (gpuSurface h) := by
  refine hQ.bind (hQ.gets _) fun state => ?_
  rcases state with ⟨id, kept, _ | surface⟩ | _
  · refine hQ.bind (tells_drawableOf hQ hset id kept (hcall id)) fun answer => ?_
    rcases answer with e | drawable
    · exact hQ.pure _
    refine hQ.bind (hmake drawable) fun answer => ?_
    rcases answer with e | surface
    · exact hQ.pure _
    exact hQ.bind (hset _) fun _ => hQ.bind (hsay _ _) fun _ => hQ.pure _
  · exact hQ.pure _
  · exact hQ.pure _

theorem tells_releaseSurface
    (hcall : ∀ surface : BoundSurface S, Tells Q (askGraphics
      (GraphicsBackend.release surface.value) fun _ => .release surface.number))
    (hsay : ∀ level text, Tells Q (Entry.say level text)) : Tells Q (releaseSurface h) := by
  refine hQ.bind (hQ.gets _) fun state => ?_
  rcases state with ⟨id, drawable, _ | surface⟩ | _
  · exact hQ.pure _
  · exact hQ.bind (hset _) fun _ => hQ.bind (hcall surface) fun _ => hsay _ _
  · exact hQ.pure _

end Handle

theorem tells_makeSurface [GraphicsBackend G S] (drawable : Drawable)
    (hcall : ∀ n, Tells Q (askGraphics (GraphicsBackend.wrap drawable) fun answer =>
      .wrap drawable (answer.map fun _ => n)))
    (hnumber : ∀ n, Tells Q (Step.modify fun b => { b with surfacesMade := n })) :
    Tells Q (makeSurface drawable) := by
  refine hQ.bind (hQ.gets _) fun b => hQ.bind (hcall _) fun answer => ?_
  cases answer with
  | error e => exact hQ.pure _
  | ok value => exact hQ.bind (hnumber _) fun _ => hQ.pure _

variable [WindowManager N W]

theorem tells_query {q : Query}
    (hcall : ∀ id, Tells Q (askManager (WindowManager.query q id) (.query id q)))
    (h : HandleRef) : Tells Q (query h q) := by
  refine hQ.bind (hQ.gets _) fun state => ?_
  cases state.liveId q.operation with
  | error e => exact hQ.pure _
  | ok id => exact hQ.bind (hcall id) fun _ => hQ.pure _

theorem tells_changeBy {change : WindowChange}
    (hcall : ∀ id, Tells Q (askManager (WindowManager.update id change) (.update id change)))
    (operation : String) (h : HandleRef) : Tells Q (changeBy operation h change) := by
  refine hQ.bind (hQ.gets _) fun state => ?_
  cases state.liveId operation with
  | error e => exact hQ.pure _
  | ok id => exact hQ.bind (hcall id) fun _ => hQ.pure _

variable [GraphicsBackend G S] (hsay : ∀ level text, Tells Q (Entry.say level text))

include hsay

theorem tells_destroyWindow {h : HandleRef} (hrelease : Tells Q (releaseSurface h))
    (hcall : ∀ id, Tells Q (askManager (WindowManager.destroy id) fun _ => .destroy id))
    (hgone : ∀ id, Tells Q (changeRegistry fun r => (r.remove id).tombstone h)) :
    Tells Q (destroyWindow h) := by
  refine hQ.bind (hQ.gets _) fun state => ?_
  cases state.liveId "destroy" with
  | error e => exact hQ.pure _
  | ok id =>
    exact hQ.bind hrelease fun _ => hQ.bind (hcall id) fun _ => hQ.bind (hgone id) fun _ =>
      hQ.bind (hsay _ _) fun _ => hQ.pure _

theorem tells_createWindow
    (hcall : ∀ attributes,
      Tells Q (askManager (WindowManager.create attributes) (.create attributes)))
    (henter : ∀ id, Tells Q (onRegistry (Registry.enter id)))
    (hrelease : ∀ old, Tells Q (releaseSurface old))
    (hgone : ∀ old, Tells Q (changeRegistry fun r => r.tombstone old)) (options : WindowOptions) :
    Tells Q (createWindow options) := by
  refine hQ.bind (hQ.gets _) fun b => ?_
  cases (options.orElse b.defaultWindow).attributes? with
  | error e => exact hQ.pure _
  | ok attributes =>
    refine hQ.bind (hcall attributes) fun answer => ?_
    rcases answer with e | id
    · exact hQ.pure _
    refine hQ.bind (henter id) fun entered => ?_
    obtain ⟨h, _ | old⟩ := entered
    · exact hQ.bind (hsay _ _) fun _ => hQ.pure _
    · exact hQ.bind (hrelease old) fun _ => hQ.bind (hgone old) fun _ =>
        hQ.bind (hsay _ _) fun _ => hQ.pure _

end Bridge

/-! ## What every action tells -/

/-- A chronicle of a bridge that its operations tell, requests for surfaces apart, and whatever an
`X` does past it. -/
structure Bridge.ToldAside {N W G S : Type} (X : Type) [WindowManager N W] [GraphicsBackend G S]
    [Surroundings X N] (Q : Bridge N G S → List Entry → Bridge N G S → Prop) : Prop where
  chronicle : Chronicle Q
  say : ∀ level text, Tells Q (Entry.say level text)
  create : ∀ options, Tells Q (createWindow options)
  destroy : ∀ h, Tells Q (destroyWindow h)
  query : ∀ h q, Tells Q (query h q)
  changeBy : ∀ operation h change, Tells Q (changeBy operation h change)
  setDeviceFilter : ∀ filter, Tells Q (setDeviceFilter filter)
  poll : ∀ consumer : Consumer W, Tells Q (pollEvent consumer)
  cancel : ∀ consumer : Consumer W, Tells Q (cancelEvent consumer)
  outside : ∀ x : X, Tells Q (onManager (Surroundings.happen x))

/-- A chronicle of a bridge that each of its operations tells, and whatever an `X` does past it. -/
structure Bridge.Told {N W G S : Type} (X : Type) [WindowManager N W] [GraphicsBackend G S]
    [Surroundings X N] (Q : Bridge N G S → List Entry → Bridge N G S → Prop) : Prop
    extends Bridge.ToldAside X Q where
  gpuSurface : ∀ h, Tells Q (gpuSurface h)

namespace Session

variable {N W G S X α : Type} {Q : Bridge N G S → List Entry → Bridge N G S → Prop}

/-- A relation of sessions that looks at their bridges alone. -/
def OfBridge (Q : Bridge N G S → List Entry → Bridge N G S → Prop) (x : Session N G S W)
    (journal : List Entry) (y : Session N G S W) : Prop := Q x.1 journal y.1

theorem chronicle_ofBridge (hQ : Chronicle Q) :
    Chronicle (OfBridge Q : Session N G S W → List Entry → Session N G S W → Prop) where
  nil _ := hQ.nil _
  append h h' := hQ.append h h'

theorem tells_onSource {s : Step Entry (Bridge N G S) α} (hs : Tells Q s) :
    Tells (OfBridge Q) (Consumers.onSource s : Step Entry (Session N G S W) α) :=
  fun session => hs session.1

theorem tells_onBridge (hQ : Chronicle Q) {s : Step Entry (Bridge N G S) α} (hs : Tells Q s)
    (answer : α → Answer S) :
    Tells (OfBridge Q) (onBridge s answer : Step Entry (Session N G S W) _) :=
  (chronicle_ofBridge hQ).bind (tells_onSource hs) fun _ => (chronicle_ofBridge hQ).pure _

/-- The consumers are not part of the bridge. -/
theorem tells_change (hQ : Chronicle Q) (f : Consumers W → Consumers W) :
    Tells (OfBridge Q) (Consumers.change f : Step Entry (Session N G S W) Unit) :=
  fun session => hQ.nil session.1

section Consumers

variable [WindowManager N W] (hQ : Chronicle Q)
  (hcancel : ∀ consumer : Consumer W, Tells Q (Bridge.cancelEvent consumer))

include hQ hcancel

theorem tells_dismiss (consumer : Option (Consumer W)) :
    Tells (OfBridge Q)
      (Consumers.dismiss source consumer : Step Entry (Session N G S W) Unit) := by
  cases consumer with
  | none => exact (chronicle_ofBridge hQ).pure ()
  | some consumer => exact tells_onSource (hcancel consumer)

theorem tells_come (name : String) :
    Tells (OfBridge Q) (Consumers.come source name : Step Entry (Session N G S W) Unit) :=
  (chronicle_ofBridge hQ).bind (fun session => hQ.nil session.1) fun _ =>
    (chronicle_ofBridge hQ).bind (tells_change hQ _) fun _ => tells_dismiss hQ hcancel _

theorem tells_leave (name : String) :
    Tells (OfBridge Q) (Consumers.leave source name : Step Entry (Session N G S W) Bool) :=
  (chronicle_ofBridge hQ).bind (fun session => hQ.nil session.1) fun _ =>
    (chronicle_ofBridge hQ).bind (tells_change hQ _) fun _ =>
      (chronicle_ofBridge hQ).bind (tells_dismiss hQ hcancel _) fun _ =>
        (chronicle_ofBridge hQ).pure _

theorem tells_leaveAll :
    Tells (OfBridge Q) (Consumers.leaveAll source : Step Entry (Session N G S W) Unit) := by
  have hQ' := chronicle_ofBridge (W := W) hQ
  refine hQ'.bind hQ'.nil fun session => hQ'.bind (tells_change hQ _) fun _ => ?_
  exact hQ'.forEach (fun entry => tells_onSource (hcancel entry.2)) session.2.byName

omit hcancel in
theorem tells_poll (hpoll : ∀ consumer : Consumer W, Tells Q (Bridge.pollEvent consumer))
    (name : String) :
    Tells (OfBridge Q) (Consumers.poll source name : Step Entry (Session N G S W) _) := by
  have hQ' := chronicle_ofBridge (W := W) hQ
  refine hQ'.bind hQ'.nil fun session => ?_
  cases session.2.find? name with
  | none => exact hQ'.pure none
  | some consumer =>
    refine hQ'.bind (tells_onSource (hpoll consumer)) fun seen => ?_
    cases seen with
    | pending next => exact hQ'.bind (tells_change hQ _) fun _ => hQ'.pure _
    | ready answer => exact hQ'.bind (tells_change hQ _) fun _ => hQ'.pure _

end Consumers

variable [WindowManager N W] [GraphicsBackend G S] [Surroundings X N]

/-- What the operations of a bridge tell, actions on it tell, requests for surfaces apart. -/
theorem tells_perform_of_ne (hQ : Bridge.ToldAside X Q) {a : Action X}
    (ha : ∀ o, a ≠ .gpuSurface o) :
    Tells (OfBridge Q) (perform a : Step Entry (Session N G S W) _) := by
  have hQ' := chronicle_ofBridge (W := W) hQ.chronicle
  cases a with
  | create options => exact tells_onBridge hQ.chronicle (hQ.create options) _
  | destroy h => exact tells_onBridge hQ.chronicle (hQ.destroy h) _
  | gpuSurface h => exact absurd rfl (ha h)
  | query h q => exact tells_onBridge hQ.chronicle (hQ.query h q) _
  | change h change => exact tells_onBridge hQ.chronicle (hQ.changeBy _ h change) _
  | setAlwaysOnTop h onTop => exact tells_onBridge hQ.chronicle (hQ.changeBy _ h _) _
  | resolve id => exact tells_onBridge hQ.chronicle (hQ.chronicle.gets _) _
  | windowCount => exact tells_onBridge hQ.chronicle (hQ.chronicle.gets _) _
  | windows => exact tells_onBridge hQ.chronicle (hQ.chronicle.gets _) _
  | setDeviceFilter filter => exact tells_onBridge hQ.chronicle (hQ.setDeviceFilter filter) _
  | outside x => exact tells_onBridge hQ.chronicle (hQ.outside x) _
  | come name =>
    exact hQ'.bind (tells_come hQ.chronicle hQ.cancel name) fun _ => hQ'.pure _
  | leave name =>
    exact hQ'.bind (tells_leave hQ.chronicle hQ.cancel name) fun _ => hQ'.pure _
  | poll name => exact hQ'.bind (tells_poll hQ.chronicle hQ.poll name) fun _ => hQ'.pure _

variable (hQ : Bridge.Told X Q)

include hQ

/-- What every operation of a bridge tells, every action on it tells. -/
theorem tells_perform (a : Action X) :
    Tells (OfBridge Q) (perform a : Step Entry (Session N G S W) _) := by
  by_cases ha : ∃ h, a = .gpuSurface h
  · obtain ⟨h, rfl⟩ := ha
    exact tells_onBridge hQ.chronicle (hQ.gpuSurface h) _
  · exact tells_perform_of_ne hQ.toToldAside fun h heq => ha ⟨h, heq⟩

theorem tells_performAll (actions : List (Action X)) :
    Tells (OfBridge Q) (performAll actions : Step Entry (Session N G S W) _) := by
  have hQ' := chronicle_ofBridge (W := W) hQ.chronicle
  induction actions with
  | nil => exact hQ'.pure []
  | cons a rest ih =>
    exact hQ'.bind (tells_perform hQ a) fun _ => hQ'.bind ih fun _ => hQ'.pure _

/-- What every operation tells is told of every history, from the bridge that it starts with. -/
theorem tells_history (manager : N) (graphics : G) (settings : Settings)
    (actions : List (Action X)) :
    let past : Outcome Entry (Session N G S W) (List (Answer S)) :=
      history manager graphics settings actions
    Q { events := ⟨manager, false⟩, graphics, defaultWindow := settings.defaultWindow }
      past.journal past.state.1 := by
  -- the filter is set and reported before the first action
  have hstart := hQ.chronicle.bind (hQ.setDeviceFilter settings.deviceFilter) fun _ =>
    hQ.say .info ("WSI context ready (device events: " ++
      Vocabulary.label settings.deviceFilter ++ ")")
  exact hQ.chronicle.append (hstart _)
    (tells_performAll hQ actions ((Bridge.start manager graphics settings).state, {}))

end Session

end WindowSystem
