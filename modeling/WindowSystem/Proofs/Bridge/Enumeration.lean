/-
# Any order of the entries

The entries of a registry come in no particular order, and it may be another one at every moment
(`Enumeration`). No operation sees the order: on two sessions that differ in it alone
(`Session.Reordered`), every action gives the same answer, writes the same, and leaves the sessions
so (`Session.reordered_perform`). Only the list of windows and the end of a bridge go through all
entries, and both sort them by identifier, of which no two are the same.
-/
import WindowSystem.Proofs.Bridge.Ledger

namespace WindowSystem

/-! ## Steps that do not see a difference -/

/-- On states that differ only in what a relation leaves open, a step gives the same answer, writes
the same, and leaves states that differ in no more. -/
def Step.Blind {ω σ α : Type} (R : σ → σ → Prop) (s : Step ω σ α) : Prop :=
  ∀ x y : σ, R x y → (s.run y).answer = (s.run x).answer ∧
    (s.run y).journal = (s.run x).journal ∧ R (s.run x).state (s.run y).state

namespace Step

variable {ω σ α β : Type} {R : σ → σ → Prop}

theorem blind_pure (a : α) : Blind R (pure a : Step ω σ α) := fun _ _ h => ⟨rfl, rfl, h⟩

theorem blind_write (entry : ω) : Blind R (write entry : Step ω σ Unit) := fun _ _ h => ⟨rfl, rfl, h⟩

theorem Blind.bind {s : Step ω σ α} {t : α → Step ω σ β} (hs : Blind R s)
    (ht : ∀ a, Blind R (t a)) : Blind R (s >>= t) := by
  intro x y h
  obtain ⟨hanswer, hjournal, hstate⟩ := hs x y h
  obtain ⟨hanswer', hjournal', hstate'⟩ := ht (s.run x).answer _ _ hstate
  simp only [run_bind, hanswer, hjournal, hanswer', hjournal']
  exact ⟨trivial, trivial, hstate'⟩

/-- The state may be read for what the relation does not leave open. -/
theorem blind_get_bind {t : σ → Step ω σ α} (hsame : ∀ {x y}, R x y → t y = t x)
    (ht : ∀ x, Blind R (t x)) : Blind R (get >>= t) := by
  intro x y h
  simp only [run_bind, run_get, hsame h, List.nil_append]
  exact ht x x y h

theorem blind_gets {f : σ → α} (hf : ∀ {x y}, R x y → f y = f x) :
    Blind R (gets f : Step ω σ α) := fun _ _ h => ⟨hf h, rfl, h⟩

theorem blind_modify {f : σ → σ} (hf : ∀ {x y}, R x y → R (f x) (f y)) :
    Blind R (modify f : Step ω σ Unit) := fun _ _ h => ⟨rfl, rfl, hf h⟩

theorem blind_forEach {f : α → Step ω σ Unit} (hf : ∀ a, Blind R (f a)) (list : List α) :
    Blind R (forEach f list) := by
  induction list with
  | nil => exact blind_pure ()
  | cons a rest ih => exact (hf a).bind fun _ => ih

end Step

/-! ## Registries -/

namespace Registry

variable {S : Type} {r r' : Registry S}

/-- The second registry is the first with its entries in another order. There is one entry to an
identifier. -/
structure Reordered (r r' : Registry S) : Prop where
  handles : r'.handles = r.handles
  entries : r'.entries.Perm r.entries
  ids : (r.entries.map Prod.fst).Nodup

namespace Reordered

theorem refl (hids : (r.entries.map Prod.fst).Nodup) : r.Reordered r where
  handles := rfl
  entries := .refl _
  ids := hids

theorem ids' (h : r.Reordered r') : (r'.entries.map Prod.fst).Nodup :=
  (h.entries.map Prod.fst).nodup_iff.mpr h.ids

theorem handle (h : r.Reordered r') (o : HandleRef) : r'.handle o = r.handle o := by
  rw [Registry.handle, Registry.handle, h.handles]

theorem resolve (h : r.Reordered r') (id : WindowId) : r'.resolve id = r.resolve id := by
  apply Option.ext
  intro o
  rw [resolve_eq_some_iff h.ids', resolve_eq_some_iff h.ids, h.entries.mem_iff]

theorem size (h : r.Reordered r') : r'.size = r.size := h.entries.length_eq

theorem setHandle (h : r.Reordered r') (o : HandleRef) (state : Handle S) :
    (r.setHandle o state).Reordered (r'.setHandle o state) where
  handles := by rw [Registry.setHandle, Registry.setHandle, h.handles]
  entries := h.entries
  ids := h.ids

theorem tombstone (h : r.Reordered r') (o : HandleRef) :
    (r.tombstone o).Reordered (r'.tombstone o) := h.setHandle o .destroyed

theorem entriesWithout (h : r.Reordered r') (id : WindowId) :
    (r'.entriesWithout id).Perm (r.entriesWithout id) := h.entries.filter _

theorem remove (h : r.Reordered r') (id : WindowId) : (r.remove id).Reordered (r'.remove id) where
  handles := h.handles
  entries := h.entriesWithout id
  ids := r.nodup_entriesWithout h.ids id

theorem insert (h : r.Reordered r') (id : WindowId) :
    (r'.insert id).1 = (r.insert id).1 ∧ (r.insert id).2.Reordered (r'.insert id).2 := by
  have hlength : r'.handles.length = r.handles.length := congrArg List.length h.handles
  refine ⟨?_, ?_, ?_, ?_⟩
  · simp only [Registry.insert, hlength, h.resolve]
  · simp only [Registry.insert, h.handles]
  · simp only [Registry.insert, hlength]
    exact (h.entriesWithout id).append_right _
  · exact r.nodup_insert h.ids id

theorem sound (h : r.Reordered r') (hr : r.Sound) : r'.Sound where
  resolve_iff id o := by rw [h.resolve, h.handle, hr.resolve_iff]
  ids := h.ids'

end Reordered

/-! ## The list of windows -/

theorem idLe_trans (a b c : Option WindowId) (hab : idLe a b = true) (hbc : idLe b c = true) :
    idLe a c = true := by
  rcases a with _ | a
  · rfl
  rcases b with _ | b
  · cases hab
  rcases c with _ | c
  · cases hbc
  simp only [idLe, WindowId.le, decide_eq_true_eq] at hab hbc ⊢
  exact UInt64.le_trans hab hbc

theorem idLe_total (a b : Option WindowId) : (idLe a b || idLe b a) = true := by
  rcases a with _ | a
  · rfl
  rcases b with _ | b
  · rfl
  simp only [idLe, WindowId.le, Bool.or_eq_true, decide_eq_true_eq]
  exact UInt64.le_total _ _

theorem idLe_antisymm {a b : WindowId} (hab : idLe (some a) (some b) = true)
    (hba : idLe (some b) (some a) = true) : a = b := by
  simp only [idLe, WindowId.le, decide_eq_true_eq] at hab hba
  exact congrArg WindowId.mk (UInt64.le_antisymm hab hba)

theorem pairwise_windows (r : Registry S) :
    r.windows.Pairwise fun a b => idLe (r.handle a).id? (r.handle b).id? = true := by
  apply List.pairwise_mergeSort
  · exact fun _ _ _ => idLe_trans _ _ _
  · exact fun _ _ => idLe_total _ _

namespace Sound

/-- A window is listed exactly if it is live. -/
theorem mem_windows (hr : r.Sound) {h : HandleRef} :
    h ∈ r.windows ↔ ∃ id, (r.handle h).id? = some id := by
  rw [hr.windows_perm.mem_iff, mem_liveHandles]

theorem nodup_windows (hr : r.Sound) : r.windows.Nodup :=
  hr.windows_perm.nodup_iff.mpr r.nodup_liveHandles

/-- Of two listed windows neither can come first unless they are the same. -/
theorem eq_of_idLe (hr : r.Sound) {a b : HandleRef} (ha : a ∈ r.windows) (hb : b ∈ r.windows)
    (hab : idLe (r.handle a).id? (r.handle b).id? = true)
    (hba : idLe (r.handle b).id? (r.handle a).id? = true) : a = b := by
  obtain ⟨i, hi⟩ := hr.mem_windows.mp ha
  obtain ⟨j, hj⟩ := hr.mem_windows.mp hb
  rw [hi, hj] at hab hba
  exact hr.eq_of_id? hi ((idLe_antisymm hab hba) ▸ hj)

/-- The windows are listed in strictly ascending order of their identifiers. -/
theorem ascending_windows (hr : r.Sound) :
    ∃ ids : List WindowId, r.windows.map (fun h => (r.handle h).id?) = ids.map some ∧
      ids.Pairwise fun a b => a.number < b.number := by
  have hsome : ((r.windows.filterMap fun h => (r.handle h).id?).map some) =
      r.windows.map fun h => (r.handle h).id? := by
    rw [List.map_filterMap_some_eq_filter_map_isSome, List.filter_eq_self]
    intro id hid
    obtain ⟨h, hh, rfl⟩ := List.mem_map.mp hid
    exact Option.isSome_iff_exists.mpr (hr.mem_windows.mp hh)
  refine ⟨r.windows.filterMap fun h => (r.handle h).id?, hsome.symm, ?_⟩
  -- two windows next to each other are in order and not the same
  have hstrict : r.windows.Pairwise fun a b =>
      idLe (r.handle a).id? (r.handle b).id? = true ∧ (r.handle a).id? ≠ (r.handle b).id? := by
    refine (r.pairwise_windows.and hr.nodup_windows).imp_of_mem fun {a b} ha hb hab => ⟨hab.1, ?_⟩
    obtain ⟨id, hid⟩ := hr.mem_windows.mp hb
    exact fun heq => hab.2 (hr.eq_of_id? (heq.trans hid) hid)
  have hids : ((r.windows.filterMap fun h => (r.handle h).id?).map some).Pairwise fun a b =>
      idLe a b = true ∧ a ≠ b := by
    rw [hsome]
    exact List.pairwise_map.mpr hstrict
  refine (List.pairwise_map.mp hids).imp fun {a b} hab => ?_
  have hle : a.number ≤ b.number := of_decide_eq_true hab.1
  exact UInt64.lt_of_le_of_ne hle fun heq => hab.2 (congrArg (some ∘ WindowId.mk) heq)

end Sound

/-- The windows are listed the same in every order of the entries. -/
theorem Reordered.windows (h : r.Reordered r') (hr : r.Sound) : r'.windows = r.windows := by
  have hperm : r'.windows.Perm r.windows :=
    (List.mergeSort_perm _ _).trans ((h.entries.map Prod.snd).trans (List.mergeSort_perm _ _).symm)
  have hsorted := r'.pairwise_windows
  simp only [h.handle] at hsorted
  exact List.Perm.eq_of_pairwise
    (fun a b ha hb hab hba => hr.eq_of_idLe (hperm.mem_iff.mp ha) hb hab hba)
    hsorted r.pairwise_windows hperm

end Registry

/-! ## Enumerations -/

/-- An order in which the entries of a registry are enumerated, which may be another at every
moment. -/
structure Enumeration where
  arrange : Nat → List (WindowId × HandleRef) → List (WindowId × HandleRef)
  perm : ∀ moment entries, (arrange moment entries).Perm entries

/-- A registry with its entries in the order of a moment. -/
def Registry.arranged {S : Type} (r : Registry S) (e : Enumeration) (moment : Nat) : Registry S :=
  { r with entries := e.arrange moment r.entries }

theorem Registry.Reordered.arranged {S : Type} {r r' : Registry S} (h : r.Reordered r')
    (e : Enumeration) (moment : Nat) : r.Reordered (r'.arranged e moment) where
  handles := h.handles
  entries := (e.perm moment r'.entries).trans h.entries
  ids := h.ids

/-! ## Bridges -/

namespace Bridge

variable {N W G S α : Type}

/-- The second bridge is the first with the entries of its registry in another order. -/
structure Reordered (b b' : Bridge N G S) : Prop where
  events : b'.events = b.events
  graphics : b'.graphics = b.graphics
  registry : b.registry.Reordered b'.registry
  surfacesMade : b'.surfacesMade = b.surfacesMade
  defaultWindow : b'.defaultWindow = b.defaultWindow

/-- A step of a bridge does not see the order of the entries. -/
abbrev Blind (s : Step Entry (Bridge N G S) α) : Prop := Step.Blind Reordered s

theorem blind_onEvents (s : Step Entry (EventStream N) α) :
    Blind (onEvents s : Step Entry (Bridge N G S) α) := by
  intro b b' h
  simp only [run_onEvents, h.events]
  exact ⟨trivial, trivial, ⟨rfl, h.graphics, h.registry, h.surfacesMade, h.defaultWindow⟩⟩

theorem blind_askManager (s : Step Note N α) (call : α → Call) :
    Blind (askManager s call : Step Entry (Bridge N G S) α) := blind_onEvents _

theorem blind_askGraphics (s : Step Note G α) (call : α → Call) :
    Blind (askGraphics s call : Step Entry (Bridge N G S) α) := by
  intro b b' h
  simp only [run_askGraphics, h.graphics]
  exact ⟨trivial, trivial, ⟨h.events, rfl, h.registry, h.surfacesMade, h.defaultWindow⟩⟩

theorem blind_changeRegistry {f : Registry S → Registry S}
    (hf : ∀ {r r' : Registry S}, r.Reordered r' → (f r).Reordered (f r')) :
    Blind (changeRegistry f : Step Entry (Bridge N G S) Unit) :=
  Step.blind_modify fun h =>
    ⟨h.events, h.graphics, hf h.registry, h.surfacesMade, h.defaultWindow⟩

theorem blind_handle (h : HandleRef) : Blind (handle h : Step Entry (Bridge N G S) _) :=
  Step.blind_gets fun hb => hb.registry.handle h

theorem blind_say (level : LogLevel) (text : String) :
    Blind (Entry.say level text : Step Entry (Bridge N G S) Unit) := Step.blind_write _

/-- Entering a new window. -/
theorem blind_enter (id : WindowId) :
    Blind (onRegistry (Registry.enter id) : Step Entry (Bridge N G S) _) := by
  intro b b' h
  obtain ⟨hanswer, hregistry⟩ := h.registry.insert id
  simp only [onRegistry, Step.run_within, Step.run_mapJournal, Registry.run_enter, hanswer,
    h.registry.resolve]
  exact ⟨trivial, trivial, ⟨h.events, h.graphics, hregistry, h.surfacesMade, h.defaultWindow⟩⟩

section Operations

variable [WindowManager N W]

theorem blind_query (h : HandleRef) (q : Query) :
    Blind (query h q : Step Entry (Bridge N G S) _) := by
  refine (blind_handle h).bind fun state => ?_
  cases state.liveId q.operation with
  | error e => exact Step.blind_pure _
  | ok id => exact (blind_askManager _ _).bind fun _ => Step.blind_pure _

theorem blind_changeBy (operation : String) (h : HandleRef) (change : WindowChange) :
    Blind (changeBy operation h change : Step Entry (Bridge N G S) _) := by
  refine (blind_handle h).bind fun state => ?_
  cases state.liveId operation with
  | error e => exact Step.blind_pure _
  | ok id => exact (blind_askManager _ _).bind fun _ => Step.blind_pure _

/-- Events find the handles of their windows in any order of the entries. -/
theorem blind_pollEvent (consumer : Consumer W) :
    Blind (pollEvent consumer : Step Entry (Bridge N G S) _) := by
  refine Step.blind_get_bind (fun {b b'} h => ?_) fun b => blind_onEvents _
  have hresolve : b'.registry.resolve = b.registry.resolve := funext h.registry.resolve
  show onEvents (EventStream.poll b'.registry.resolve consumer) = _
  rw [hresolve]

variable [GraphicsBackend G S]

theorem blind_gpuSurface (h : HandleRef) : Blind (gpuSurface h : Step Entry (Bridge N G S) _) := by
  have hset (state : Handle S) :
      Blind (changeRegistry fun r => r.setHandle h state : Step Entry (Bridge N G S) Unit) :=
    blind_changeRegistry fun hr => hr.setHandle h state
  have hmake (drawable : Drawable) : Blind (makeSurface drawable : Step Entry (Bridge N G S) _) := by
    refine Step.blind_get_bind (fun {b b'} hb => ?_) fun b => ?_
    · simp only [hb.surfacesMade]
    · refine (blind_askGraphics _ _).bind fun answer => ?_
      cases answer with
      | error e => exact Step.blind_pure _
      | ok value =>
        refine (Step.blind_modify fun hb => ?_).bind fun _ => Step.blind_pure _
        exact ⟨hb.events, hb.graphics, hb.registry, rfl, hb.defaultWindow⟩
  have hdrawable (id : WindowId) (kept : Option Drawable) :
      Blind (drawableOf h id kept : Step Entry (Bridge N G S) _) := by
    cases kept with
    | some drawable => exact Step.blind_pure _
    | none =>
      refine (blind_askManager _ _).bind fun answer => ?_
      cases answer with
      | error e => exact (Step.blind_pure _).bind fun _ => Step.blind_pure _
      | ok drawable => exact (hset _).bind fun _ => Step.blind_pure _
  refine (blind_handle h).bind fun state => ?_
  rcases state with ⟨id, kept, _ | surface⟩ | _
  · refine (hdrawable id kept).bind fun answer => ?_
    rcases answer with e | drawable
    · exact Step.blind_pure _
    refine (hmake drawable).bind fun answer => ?_
    rcases answer with e | surface
    · exact Step.blind_pure _
    exact (hset _).bind fun _ => (blind_say _ _).bind fun _ => Step.blind_pure _
  · exact Step.blind_pure _
  · exact Step.blind_pure _

theorem blind_releaseSurface (h : HandleRef) :
    Blind (releaseSurface h : Step Entry (Bridge N G S) Unit) := by
  refine (blind_handle h).bind fun state => ?_
  rcases state with ⟨id, drawable, _ | surface⟩ | _
  · exact Step.blind_pure _
  · exact (blind_changeRegistry fun hr => hr.setHandle h _).bind fun _ =>
      (blind_askGraphics _ _).bind fun _ => blind_say _ _
  · exact Step.blind_pure _

theorem blind_createWindow (options : WindowOptions) :
    Blind (createWindow options : Step Entry (Bridge N G S) _) := by
  refine Step.blind_get_bind (fun {b b'} hb => ?_) fun b => ?_
  · simp only [hb.defaultWindow]
  · cases (options.orElse b.defaultWindow).attributes? with
    | error e => exact Step.blind_pure _
    | ok attributes =>
      refine (blind_askManager _ _).bind fun answer => ?_
      rcases answer with e | id
      · exact Step.blind_pure _
      refine (blind_enter id).bind fun entered => ?_
      obtain ⟨h, _ | old⟩ := entered
      · exact (blind_say _ _).bind fun _ => Step.blind_pure _
      · exact (blind_releaseSurface old).bind fun _ =>
          (blind_changeRegistry fun hr => hr.tombstone old).bind fun _ =>
            (blind_say _ _).bind fun _ => Step.blind_pure _

theorem blind_destroyWindow (h : HandleRef) :
    Blind (destroyWindow h : Step Entry (Bridge N G S) _) := by
  refine (blind_handle h).bind fun state => ?_
  cases state.liveId "destroy" with
  | error e => exact Step.blind_pure _
  | ok id =>
    exact (blind_releaseSurface h).bind fun _ => (blind_askManager _ _).bind fun _ =>
      (blind_changeRegistry fun hr => (hr.remove id).tombstone h).bind fun _ =>
        (blind_say _ _).bind fun _ => Step.blind_pure _

theorem blind_destroyLeftover (h : HandleRef) :
    Blind (destroyLeftover h : Step Entry (Bridge N G S) Unit) := by
  refine (blind_destroyWindow h).bind fun answer => ?_
  cases answer with
  | ok _ => exact Step.blind_pure _
  | error e => exact blind_say _ _

/-- A bridge comes to the same end in every order of the entries. -/
theorem Reordered.close {b b' : Bridge N G S} (h : b.Reordered b') (hb : b.registry.Sound) :
    (Bridge.close.run b').journal = (Bridge.close.run b).journal ∧
      (Bridge.close.run b).state.Reordered (Bridge.close.run b').state := by
  have hend : Blind (do
      askManager WindowManager.close fun _ => .closeManager
      askGraphics GraphicsBackend.close fun _ => .closeGraphics :
        Step Entry (Bridge N G S) Unit) :=
    (blind_askManager _ _).bind fun _ => blind_askGraphics _ _
  have hrest (remaining : List HandleRef) : Blind (do
      if remaining.isEmpty then pure ()
      else
        Entry.say .debug
          ("destroying " ++ decimalText remaining.length ++ " windows left at shutdown")
        Step.forEach destroyLeftover remaining
      askManager WindowManager.close fun _ => .closeManager
      askGraphics GraphicsBackend.close fun _ => .closeGraphics :
        Step Entry (Bridge N G S) Unit) := by
    by_cases hempty : remaining.isEmpty = true
    · simp only [hempty, if_true]
      exact (Step.blind_pure ()).bind fun _ => hend
    · simp only [hempty]
      exact (blind_say _ _).bind fun _ =>
        (Step.blind_forEach blind_destroyLeftover remaining).bind fun _ => hend
  obtain ⟨-, hjournal, hstate⟩ := hrest b.registry.windows b b' h
  have hwindows : b'.registry.windows = b.registry.windows := h.registry.windows hb
  unfold Bridge.close Bridge.windows
  simp only [Step.run_bind, Step.run_gets, hwindows] at hjournal hstate ⊢
  exact ⟨hjournal, hstate⟩

end Operations

end Bridge

/-! ## Sessions -/

namespace Session

variable {N W G S X α : Type}

/-- The second session is the first with the entries of its registry in another order. -/
structure Reordered (x y : Session N G S W) : Prop where
  bridge : x.1.Reordered y.1
  consumers : y.2 = x.2

/-- A step of a session does not see the order of the entries. -/
abbrev Blind (s : Step Entry (Session N G S W) α) : Prop := Step.Blind Reordered s

theorem blind_onSource {s : Step Entry (Bridge N G S) α} (hs : Bridge.Blind s) :
    Blind (Consumers.onSource s : Step Entry (Session N G S W) α) := by
  intro x y h
  obtain ⟨hanswer, hjournal, hstate⟩ := hs _ _ h.bridge
  exact ⟨hanswer, hjournal, ⟨hstate, h.consumers⟩⟩

theorem blind_onBridge {s : Step Entry (Bridge N G S) α} (hs : Bridge.Blind s)
    (answer : α → Answer S) : Blind (onBridge s answer : Step Entry (Session N G S W) _) :=
  (blind_onSource hs).bind fun _ => Step.blind_pure _

theorem blind_change (f : Consumers W → Consumers W) :
    Blind (Consumers.change f : Step Entry (Session N G S W) Unit) :=
  Step.blind_modify fun h => ⟨h.bridge, congrArg f h.consumers⟩

section Operations

variable [WindowManager N W]

theorem blind_cancel (consumer : Consumer W) :
    Blind (Consumers.onSource (source.cancel consumer) : Step Entry (Session N G S W) Unit) :=
  blind_onSource (Bridge.blind_onEvents _)

theorem blind_dismiss (consumer : Option (Consumer W)) :
    Blind (Consumers.dismiss source consumer : Step Entry (Session N G S W) Unit) := by
  cases consumer with
  | none => exact Step.blind_pure ()
  | some consumer => exact blind_cancel consumer

theorem blind_poll (name : String) :
    Blind (Consumers.poll source name : Step Entry (Session N G S W) _) := by
  refine Step.blind_get_bind (fun h => by simp only [h.consumers]) fun session => ?_
  cases session.2.find? name with
  | none => exact Step.blind_pure none
  | some consumer =>
    refine (blind_onSource (Bridge.blind_pollEvent consumer)).bind fun seen => ?_
    cases seen with
    | pending next => exact (blind_change _).bind fun _ => Step.blind_pure _
    | ready answer => exact (blind_change _).bind fun _ => Step.blind_pure _

theorem blind_come (name : String) :
    Blind (Consumers.come source name : Step Entry (Session N G S W) Unit) :=
  Step.blind_get_bind (fun h => by simp only [h.consumers]) fun _ =>
    (blind_change _).bind fun _ => blind_dismiss _

theorem blind_leave (name : String) :
    Blind (Consumers.leave source name : Step Entry (Session N G S W) Bool) :=
  Step.blind_get_bind (fun h => by simp only [h.consumers]) fun _ =>
    (blind_change _).bind fun _ => (blind_dismiss _).bind fun _ => Step.blind_pure _

theorem blind_leaveAll :
    Blind (Consumers.leaveAll source : Step Entry (Session N G S W) Unit) :=
  Step.blind_get_bind (fun h => by simp only [h.consumers]) fun session =>
    (blind_change _).bind fun _ =>
      Step.blind_forEach (fun entry => blind_cancel entry.2) session.2.byName

variable [GraphicsBackend G S] [Surroundings X N] {x y : Session N G S W}

/-- Every action gives the same answer and writes the same in every order of the entries. -/
theorem Reordered.perform (h : x.Reordered y) (hx : x.1.registry.Sound) (a : Action X) :
    ((Session.perform a).run y).answer = ((Session.perform a).run x).answer ∧
      ((Session.perform a).run y).journal = ((Session.perform a).run x).journal ∧
      ((Session.perform a).run x).state.Reordered ((Session.perform a).run y).state := by
  have hblind (ha : a ≠ .windows) : Blind (Session.perform a : Step Entry (Session N G S W) _) := by
    cases a with
    | create options => exact blind_onBridge (Bridge.blind_createWindow options) _
    | destroy h => exact blind_onBridge (Bridge.blind_destroyWindow h) _
    | gpuSurface h => exact blind_onBridge (Bridge.blind_gpuSurface h) _
    | query h q => exact blind_onBridge (Bridge.blind_query h q) _
    | change h change => exact blind_onBridge (Bridge.blind_changeBy _ h change) _
    | setAlwaysOnTop h onTop => exact blind_onBridge (Bridge.blind_changeBy _ h _) _
    | resolve id => exact blind_onBridge (Step.blind_gets fun hb => hb.registry.resolve id) _
    | windowCount => exact blind_onBridge (Step.blind_gets fun hb => hb.registry.size) _
    | windows => exact absurd rfl ha
    | setDeviceFilter filter => exact blind_onBridge (Bridge.blind_askManager _ _) _
    | outside x => exact blind_onBridge (Bridge.blind_onEvents _) _
    | come name => exact (blind_come name).bind fun _ => Step.blind_pure _
    | leave name => exact (blind_leave name).bind fun _ => Step.blind_pure _
    | poll name => exact (blind_poll name).bind fun _ => Step.blind_pure _
  by_cases ha : a = .windows
  · -- the entries are enumerated here, and sorted
    rw [ha]
    exact ⟨congrArg Answer.listed (h.bridge.registry.windows hx), rfl, h⟩
  · exact hblind ha x y h

omit [Surroundings X N] in
/-- So does the end of a session. -/
theorem Reordered.finish (h : x.Reordered y) (hx : x.1.registry.Sound) :
    (Session.finish.run y).journal = (Session.finish.run x).journal ∧
      (Session.finish.run x).state.Reordered (Session.finish.run y).state := by
  obtain ⟨-, hleft, hstate⟩ := blind_leaveAll x y h
  have hsound : ((Consumers.leaveAll source).run x).state.1.registry.Sound :=
    (isMoves_leaveAll x).sound hx
  obtain ⟨hclosed, hending⟩ := hstate.bridge.close hsound
  unfold Session.finish
  simp only [Step.run_bind, Consumers.onSource, Step.run_within]
  exact ⟨congrArg₂ List.append hleft hclosed, ⟨hending, hstate.consumers⟩⟩

end Operations

/-! ## Runs -/

/-- Puts the entries in the order of a moment. -/
def arrange (e : Enumeration) (moment : Nat) : Step Entry (Session N G S W) Unit :=
  Step.modify fun session =>
    ({ session.1 with registry := session.1.registry.arranged e moment }, session.2)

/-- Putting the entries in another order is not seen. -/
theorem Reordered.arrange {x y : Session N G S W} (h : x.Reordered y) (e : Enumeration)
    (moment : Nat) : x.Reordered ((Session.arrange e moment).run y).state where
  bridge := ⟨h.bridge.events, h.bridge.graphics, h.bridge.registry.arranged e moment,
    h.bridge.surfacesMade, h.bridge.defaultWindow⟩
  consumers := h.consumers

variable [WindowManager N W] [GraphicsBackend G S] [Surroundings X N]

/-- Does what a list of actions says, while the entries come in the order of an enumeration. -/
def performAllIn (e : Enumeration) (moment : Nat) :
    List (Action X) → Step Entry (Session N G S W) (List (Answer S))
  | [] => do
    arrange e moment
    pure []
  | a :: rest => do
    arrange e moment
    let answer ← perform a
    let answers ← performAllIn e (moment + 1) rest
    pure (answer :: answers)

/-- What a list of actions comes to from the start of a bridge without consumers, while the entries
come in the order of an enumeration. -/
def historyIn (e : Enumeration) (manager : N) (graphics : G) (settings : Settings)
    (actions : List (Action X)) : Outcome Entry (Session N G S W) (List (Answer S)) :=
  let start := Bridge.start manager graphics settings
  let rest := (performAllIn e 0 actions).run (start.state, {})
  ⟨rest.answer, rest.state, start.journal ++ rest.journal⟩

/-- A list of actions gives the same answers and writes the same in every order of the entries. -/
theorem Reordered.performAllIn {x y : Session N G S W} (h : x.Reordered y)
    (hx : x.1.registry.Sound) (e : Enumeration) (moment : Nat) (actions : List (Action X)) :
    ((Session.performAllIn e moment actions).run y).answer =
        ((performAll actions).run x).answer ∧
      ((Session.performAllIn e moment actions).run y).journal =
        ((performAll actions).run x).journal ∧
      ((performAll actions).run x).state.Reordered
        ((Session.performAllIn e moment actions).run y).state := by
  induction actions generalizing x y moment with
  | nil => exact ⟨rfl, rfl, h.arrange e moment⟩
  | cons a rest ih =>
    obtain ⟨hanswer, hjournal, hstate⟩ := (h.arrange e moment).perform hx a
    have hsound : ((Session.perform a).run x).state.1.registry.Sound :=
      (isMoves_perform a x).sound hx
    obtain ⟨hanswers, hjournals, hlast⟩ := ih hstate hsound (moment + 1)
    refine ⟨congrArg₂ List.cons hanswer hanswers, ?_, hlast⟩
    exact congrArg₂ (fun first others => [] ++ (first ++ (others ++ []))) hjournal hjournals

/-- Every history gives the same answers and writes the same in every order of the entries. -/
theorem reordered_historyIn (e : Enumeration) (manager : N) (graphics : G) (settings : Settings)
    (actions : List (Action X)) :
    let plain : Outcome Entry (Session N G S W) (List (Answer S)) :=
      history manager graphics settings actions
    let run : Outcome Entry (Session N G S W) (List (Answer S)) :=
      historyIn e manager graphics settings actions
    run.answer = plain.answer ∧ run.journal = plain.journal ∧ plain.state.Reordered run.state := by
  have hstart : ((Bridge.start manager graphics settings :
      Outcome Entry (Bridge N G S) Unit).state, ({} : Consumers W)).1.registry.Sound :=
    Registry.sound_empty
  have hsame : Reordered ((Bridge.start manager graphics settings).state, ({} : Consumers W))
      ((Bridge.start manager graphics settings :
        Outcome Entry (Bridge N G S) Unit).state, ({} : Consumers W)) :=
    ⟨⟨rfl, rfl, .refl hstart.ids, rfl, rfl⟩, rfl⟩
  obtain ⟨hanswer, hjournal, hstate⟩ := hsame.performAllIn (X := X) hstart e 0 actions
  exact ⟨hanswer, congrArg (List.append _) hjournal, hstate⟩

end Session

end WindowSystem
