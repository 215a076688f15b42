/-
# Handles over a whole history

The handles of a bridge are made one for each identifier that the window manager hands out. Over
a history the registry stays in agreement with them, whatever identifiers come back, taken ones
among them: an identifier stands for the handle made last under it while that one is live
(`Registry.Minted`), and a handle that is destroyed stays destroyed
(`Registry.KeepsDestroyed`).
-/
import WindowSystem.Proofs.Bridge.Frame

namespace WindowSystem

/-! ## Identifiers handed out -/

/-- The identifier that a call got for a new window. -/
def Call.mintedId? : Call → Option WindowId
  | .create _ (.ok id) => some id
  | _ => none

/-- The identifiers handed out for new windows, in order. The handle made for one of them is
referred to by its place. -/
def mintedIds (calls : List Call) : List WindowId := calls.filterMap Call.mintedId?

@[simp]
theorem mintedIds_nil : mintedIds [] = [] := rfl

@[simp]
theorem mintedIds_append (a b : List Call) : mintedIds (a ++ b) = mintedIds a ++ mintedIds b :=
  List.filterMap_append

/-- Releasing a surface hands out no identifier. -/
@[simp]
theorem mintedIds_releaseCalls {S : Type} (h : Handle S) : mintedIds h.releaseCalls = [] := by
  rcases h with ⟨id, drawable, _ | surface⟩ | _ <;> rfl

theorem mintedIds_singleton {c : Call} (hc : c.mintedId? = none) : mintedIds [c] = [] := by
  rw [mintedIds, List.filterMap_cons_none hc, List.filterMap_nil]

theorem Call.IsAside.mintedId? {c : Call} (hc : c.IsAside) : c.mintedId? = none := by
  cases c with
  | create attributes answer => exact hc.elim
  | _ => rfl

/-- The last place of an identifier. -/
def latest? (ids : List WindowId) (id : WindowId) : Option HandleRef :=
  ((List.range ids.length).filter fun h => ids[h]? = some id).getLast?

/-- A place holds the identifier it is the last place of. -/
theorem getElem?_of_latest? {ids : List WindowId} {id : WindowId} {h : HandleRef}
    (hh : latest? ids id = some h) : ids[h]? = some id := by
  have hmem := List.mem_of_getLast? hh
  simpa using (List.mem_filter.mp hmem).2

/-- The places before the end stay what they are. -/
theorem filter_places_append (ids : List WindowId) (new id : WindowId) :
    ((List.range ids.length).filter fun h => (ids ++ [new])[h]? = some id) =
      (List.range ids.length).filter fun h => ids[h]? = some id := by
  refine List.filter_congr fun h hh => ?_
  rw [List.getElem?_append_left (List.mem_range.mp hh)]

@[simp]
theorem latest?_append_self (ids : List WindowId) (id : WindowId) :
    latest? (ids ++ [id]) id = some ids.length := by
  rw [latest?, List.length_append, List.length_singleton, List.range_succ, List.filter_append]
  simp

theorem latest?_append_of_ne (ids : List WindowId) {new id : WindowId} (hne : id ≠ new) :
    latest? (ids ++ [new]) id = latest? ids id := by
  rw [latest?, List.length_append, List.length_singleton, List.range_succ, List.filter_append,
    filter_places_append]
  simp [latest?, Ne.symm hne]

/-! ## The handle made last -/

namespace Registry

variable {S : Type}

/-- The handles of a registry were made for these identifiers, and every live one is the last
made for its own. -/
structure Minted (r : Registry S) (ids : List WindowId) : Prop where
  sound : r.Sound
  length_eq : r.handles.length = ids.length
  /-- No handle was made later for the identifier of a live one. -/
  latest_of_id? : ∀ h id, (r.handle h).id? = some id → latest? ids id = some h

theorem minted_empty : Minted ({} : Registry S) [] where
  sound := sound_empty
  length_eq := rfl
  latest_of_id? h id hid := by simp [handle, Handle.id?] at hid

namespace Minted

variable {r r' : Registry S} {ids : List WindowId} {id : WindowId}

/-- Handles that lose their windows, or stay as they are, leave the rest in order. -/
theorem of_live_before (hr : r.Minted ids) (hsound : r'.Sound)
    (hlength : r'.handles.length = r.handles.length)
    (hlive : ∀ h id, (r'.handle h).id? = some id → (r.handle h).id? = some id) :
    r'.Minted ids where
  sound := hsound
  length_eq := hlength.trans hr.length_eq
  latest_of_id? h id hid := hr.latest_of_id? h id (hlive h id hid)

/-- Calls that hand out no identifier make no handle. -/
theorem of_none {calls : List Call} (hr : r.Minted ids) (hcalls : mintedIds calls = []) :
    r.Minted (ids ++ mintedIds calls) := by
  rwa [hcalls, List.append_nil]

theorem insert (hr : r.Minted ids) (hid : r.resolve id = none) :
    (r.insert id).2.Minted (ids ++ [id]) := by
  refine ⟨hr.sound.insert hid, by simp [hr.length_eq], fun h other hother => ?_⟩
  -- the new handle is the last of its identifier, which none of the others holds
  by_cases hh : h = r.handles.length
  · rw [hh, handle_insert_self, Handle.id?_fresh] at hother
    rw [← Option.some.inj hother, latest?_append_self, hh, hr.length_eq]
  · rw [r.handle_insert_of_ne id hh] at hother
    have hne : other ≠ id := by
      rintro rfl
      rw [(hr.sound.resolve_iff other h).mpr hother] at hid
      cases hid
    rw [latest?_append_of_ne ids hne]
    exact hr.latest_of_id? h other hother

theorem replace (hr : r.Minted ids) {old : HandleRef} (hid : r.resolve id = some old) :
    ((r.insert id).2.tombstone old).Minted (ids ++ [id]) := by
  have hold : (r.handle old).id? = some id := (hr.sound.resolve_iff id old).mp hid
  refine ⟨hr.sound.replace hid, by simp [hr.length_eq], fun h other hother => ?_⟩
  by_cases hho : h = old
  · rw [hho, handle_tombstone_self] at hother
    cases hother
  rw [handle_tombstone_of_ne _ hho] at hother
  by_cases hh : h = r.handles.length
  · rw [hh, handle_insert_self, Handle.id?_fresh] at hother
    rw [← Option.some.inj hother, latest?_append_self, hh, hr.length_eq]
  · rw [r.handle_insert_of_ne id hh] at hother
    -- whoever held the identifier was the handle that is replaced
    have hne : other ≠ id := by
      rintro rfl
      exact hho (hr.sound.eq_of_id? hother hold)
    rw [latest?_append_of_ne ids hne]
    exact hr.latest_of_id? h other hother

/-- A live handle stays live under its identifier while something is bound to it. -/
theorem setHandle (hr : r.Minted ids) {h : HandleRef} (hid : (r.handle h).id? = some id)
    {state : Handle S} (hstate : state.id? = some id) : (r.setHandle h state).Minted ids := by
  refine hr.of_live_before (hr.sound.setHandle hid hstate) (r.length_setHandle h state) ?_
  intro other o ho
  by_cases hh : other = h
  · rw [hh, r.handle_setHandle_self (r.lt_length_of_id? hid), hstate] at ho
    rw [hh, hid, ho]
  · rwa [r.handle_setHandle_of_ne hh] at ho

theorem remove (hr : r.Minted ids) {h : HandleRef} (hid : (r.handle h).id? = some id) :
    ((r.remove id).tombstone h).Minted ids := by
  refine hr.of_live_before (hr.sound.remove hid) (length_tombstone _ h) ?_
  intro other o ho
  by_cases hh : other = h
  · rw [hh, handle_tombstone_self] at ho
    cases ho
  · rwa [handle_tombstone_of_ne _ hh, handle_remove] at ho

/-- An identifier stands for the handle made last under it, while that one is live. -/
theorem resolve_eq (hr : r.Minted ids) (id : WindowId) :
    r.resolve id = (latest? ids id).filter fun h => !(r.handle h).isDestroyed := by
  refine Option.ext fun h => ?_
  rw [hr.sound.resolve_iff, Option.filter_eq_some_iff]
  constructor
  · intro hid
    refine ⟨hr.latest_of_id? h id hid, ?_⟩
    rw [Handle.isDestroyed, hid]
    rfl
  · rintro ⟨hlatest, hlive⟩
    obtain ⟨own, hown⟩ : ∃ own, (r.handle h).id? = some own := by
      simpa [Handle.isDestroyed, Option.isSome_iff_exists] using hlive
    -- the handle was made for one identifier only
    have hplace := getElem?_of_latest? (hr.latest_of_id? h own hown)
    rw [getElem?_of_latest? hlatest] at hplace
    rw [hown, hplace]

end Minted

/-! ## Destroyed for good -/

/-- Handles are only added, and those destroyed before are destroyed after. -/
structure KeepsDestroyed (r r' : Registry S) : Prop where
  length_le : r.handles.length ≤ r'.handles.length
  destroyed : ∀ h, h < r.handles.length → r.handle h = .destroyed → r'.handle h = .destroyed

namespace KeepsDestroyed

variable {r r' r'' : Registry S}

theorem refl (r : Registry S) : r.KeepsDestroyed r := ⟨Nat.le_refl _, fun _ _ hd => hd⟩

theorem trans (h : r.KeepsDestroyed r') (h' : r'.KeepsDestroyed r'') : r.KeepsDestroyed r'' where
  length_le := Nat.le_trans h.length_le h'.length_le
  destroyed o ho hd :=
    h'.destroyed o (Nat.lt_of_lt_of_le ho h.length_le) (h.destroyed o ho hd)

theorem insert (r : Registry S) (id : WindowId) : r.KeepsDestroyed (r.insert id).2 where
  length_le := by simp
  destroyed h hh hd := by rw [r.handle_insert_of_ne id (Nat.ne_of_lt hh), hd]

theorem remove (r : Registry S) (id : WindowId) : r.KeepsDestroyed (r.remove id) where
  length_le := Nat.le_refl _
  destroyed _ _ hd := hd

theorem tombstone (r : Registry S) (h : HandleRef) : r.KeepsDestroyed (r.tombstone h) where
  length_le := Nat.le_of_eq (r.length_tombstone h).symm
  destroyed o _ hd := by
    by_cases ho : o = h
    · rw [ho, handle_tombstone_self]
    · rw [r.handle_tombstone_of_ne ho, hd]

/-- Something is bound to a handle that is not destroyed. -/
theorem setHandle {h : HandleRef} (hlive : r.handle h ≠ .destroyed) (state : Handle S) :
    r.KeepsDestroyed (r.setHandle h state) where
  length_le := Nat.le_of_eq (r.length_setHandle h state).symm
  destroyed o _ hd := by
    by_cases ho : o = h
    · rw [ho] at hd
      exact absurd hd hlive
    · rw [r.handle_setHandle_of_ne ho, hd]

end KeepsDestroyed

end Registry

/-! ## Moves -/

section Moves

variable {G S : Type} [GraphicsBackend G S] {b b' : Books G S} {calls : List Call}
  {notes : List Note} {ids : List WindowId}

/-- A move makes a handle for every identifier handed out in it. -/
theorem Move.minted (h : Move b calls notes b') (hb : b.registry.Minted ids) :
    b'.registry.Minted (ids ++ mintedIds calls) := by
  cases h with
  | aside hc => exact hb.of_none (mintedIds_singleton hc.mintedId?)
  | refused attributes e => exact hb.of_none (mintedIds_singleton rfl)
  | created attributes hid => exact hb.insert hid
  | replaced attributes hid =>
    rw [← List.singleton_append, mintedIds_append, mintedIds_releaseCalls, List.append_nil]
    exact hb.replace hid
  | updated hid change answer => exact hb.of_none (mintedIds_singleton rfl)
  | queried hid q answer => exact hb.of_none (mintedIds_singleton rfl)
  | undrawn hh e => exact hb.of_none (mintedIds_singleton rfl)
  | drawn hh drawable =>
    exact (hb.setHandle (congrArg Handle.id? hh) rfl).of_none (mintedIds_singleton rfl)
  | unwrapped hh he => exact hb.of_none (mintedIds_singleton rfl)
  | wrapped hh hvalue =>
    exact (hb.setHandle (congrArg Handle.id? hh) rfl).of_none (mintedIds_singleton rfl)
  | destroyed hid =>
    refine (hb.remove hid).of_none ?_
    rw [mintedIds_append, mintedIds_releaseCalls, List.nil_append]
    exact mintedIds_singleton rfl
  | closed => exact hb.of_none (mintedIds_singleton rfl)

theorem Moves.minted (h : Moves b calls notes b') (hb : b.registry.Minted ids) :
    b'.registry.Minted (ids ++ mintedIds calls) := by
  induction h generalizing ids with
  | nil => rwa [mintedIds_nil, List.append_nil]
  | cons first _ ih =>
    rw [mintedIds_append, ← List.append_assoc]
    exact ih (first.minted hb)

/-- No move brings a handle back. -/
theorem Move.keepsDestroyed (h : Move b calls notes b') :
    b.registry.KeepsDestroyed b'.registry := by
  cases h with
  | created attributes hid => exact .insert _ _
  | replaced attributes hid => exact (Registry.KeepsDestroyed.insert _ _).trans (.tombstone _ _)
  | drawn hh drawable => exact .setHandle (by rw [hh]; simp) _
  | wrapped hh hvalue => exact .setHandle (by rw [hh]; simp) _
  | destroyed hid => exact (Registry.KeepsDestroyed.remove _ _).trans (.tombstone _ _)
  | _ => exact .refl _

theorem Moves.keepsDestroyed (h : Moves b calls notes b') :
    b.registry.KeepsDestroyed b'.registry := by
  induction h with
  | nil => exact .refl _
  | cons first _ ih => exact first.keepsDestroyed.trans ih

end Moves

/-! ## Handles given to scripts -/

/-- The handle that an answer gives to a script for the first time. -/
def Answer.made? {S : Type} : Answer S → Option HandleRef
  | .created (.ok h) => some h
  | _ => none

namespace Bridge

variable {N W G S : Type} [WindowManager N W] [GraphicsBackend G S]

/-- A window that is created gets the next handle, and no handle is made without one. -/
theorem range_createWindow (options : WindowOptions) (b : Bridge N G S) :
    List.range ((createWindow options).run b).state.registry.handles.length =
      List.range b.registry.handles.length ++
        (Answer.created (S := S) ((createWindow options).run b).answer).made?.toList := by
  unfold createWindow
  rw [Step.run_bind, Step.run_get]
  cases (options.orElse b.defaultWindow).attributes? with
  | error e => exact (List.append_nil _).symm
  | ok attributes =>
    simp only [Step.run_bind, run_askManager]
    generalize (WindowManager.create attributes).run b.events.manager = o
    obtain ⟨_ | id, manager, notes⟩ := o
    · exact (List.append_nil _).symm
    · let asked : Bridge N G S := { b with events := { b.events with manager := manager } }
      obtain ⟨hanswer, hstate, -, -⟩ := run_onRegistry_enter id asked
      have hmade : List.range (b.registry.handles.length + 1) =
          List.range b.registry.handles.length ++ [b.registry.handles.length] := List.range_succ
      rw [← b.registry.length_insert id] at hmade
      simp only [Step.run_bind, asked, hanswer, hstate]
      cases hid : b.registry.resolve id with
      | none =>
        rw [show (b.registry.insert id).1.2 = none from hid]
        exact hmade
      | some old =>
        rw [show (b.registry.insert id).1.2 = some old from hid]
        let entered : Bridge N G S := { asked with registry := (b.registry.insert id).2 }
        -- replacing the old handle neither makes one nor takes one away
        have hlength : ((releaseSurface old).run entered).state.registry.handles.length =
            (b.registry.insert id).2.handles.length :=
          same_releaseSurface (f := fun r _ => r.handles.length)
            (fun r state _ => r.length_setHandle old state) entered
        rw [← hlength, ← Registry.length_tombstone _ old] at hmade
        exact hmade

/-- Whether it was live or not, a handle is destroyed once its window is to be destroyed. -/
theorem handle_destroyWindow (h : HandleRef) (b : Bridge N G S) :
    ((destroyWindow h).run b).state.registry.handle h = .destroyed := by
  unfold destroyWindow
  rw [Step.run_bind, run_handle]
  rcases hh : b.registry.handle h with ⟨id, drawable, surface⟩ | _
  · exact Registry.handle_tombstone_self _ h
  · exact hh

end Bridge

/-! ## Histories -/

namespace Session

variable {N W G S X : Type} [WindowManager N W] [GraphicsBackend G S] [Surroundings X N]

/-- Handles are made in order, each given to a script in the answer to an action. -/
theorem range_perform (a : Action X) (session : Session N G S W) :
    List.range ((perform a).run session).state.1.registry.handles.length =
      List.range session.1.registry.handles.length ++
        ((perform a).run session).answer.made?.toList := by
  have hother : (∀ options, a ≠ .create options) →
      ((perform a).run session).answer.made? = none →
      List.range ((perform a).run session).state.1.registry.handles.length =
        List.range session.1.registry.handles.length ++
          ((perform a).run session).answer.made?.toList := by
    intro ha hnone
    have hlength : ((perform a).run session).state.1.registry.handles.length =
        session.1.registry.handles.length := keeps_length_perform ha session
    rw [hlength, hnone, Option.toList_none, List.append_nil]
  cases a with
  | create options => exact Bridge.range_createWindow options session.1
  | _ => exact hother (fun _ => by simp) rfl

theorem range_performAll (actions : List (Action X)) (session : Session N G S W) :
    List.range ((performAll actions).run session).state.1.registry.handles.length =
      List.range session.1.registry.handles.length ++
        ((performAll actions).run session).answer.filterMap Answer.made? := by
  induction actions generalizing session with
  | nil => exact (List.append_nil _).symm
  | cons a rest ih =>
    rw [filterMap_performAll_cons, ← List.append_assoc, ← range_perform]
    exact ih _

variable (manager : N) (graphics : G) (settings : Settings) (actions : List (Action X))

theorem minted_history :
    let past : Outcome Entry (Session N G S W) (List (Answer S)) :=
      history manager graphics settings actions
    past.state.1.registry.Minted (mintedIds (Entry.calls past.journal)) :=
  (moves_history manager graphics settings actions).minted Registry.minted_empty

/-- The handles of a history are those that were given to scripts, in order. -/
theorem made_history :
    let past : Outcome Entry (Session N G S W) (List (Answer S)) :=
      history manager graphics settings actions
    past.answer.filterMap Answer.made? = List.range past.state.1.registry.handles.length := by
  have hrange := range_performAll actions
    (((Bridge.start manager graphics settings).state, {}) : Session N G S W)
  exact hrange.symm

/-- What is destroyed after a history is destroyed after every longer one. -/
theorem keepsDestroyed_history (later : List (Action X)) :
    let past : Outcome Entry (Session N G S W) (List (Answer S)) :=
      history manager graphics settings actions
    let future : Outcome Entry (Session N G S W) (List (Answer S)) :=
      history manager graphics settings (actions ++ later)
    past.state.1.registry.KeepsDestroyed future.state.1.registry := by
  intro past future
  have hfuture : future.state = ((performAll later).run past.state).state := by
    rw [show future = _ from history_append manager graphics settings actions later]
  rw [hfuture]
  exact (isMoves_performAll later past.state).keepsDestroyed

/-- The registry and the handles agree after every history, whatever the backends answer. The
handles are those given to scripts, one for each identifier handed out. A handle is entered under
an identifier exactly if it was made, is live and holds that identifier; so no two live handles
share one, an identifier stands for the handle made last under it while that one is live, and the
windows counted are the live handles. Asking the bridge what an identifier stands for answers with
that handle and does nothing else. A handle that is to be destroyed is destroyed, and one that
is destroyed is never live again. -/
theorem registry_agrees_with_handles :
    let past : Outcome Entry (Session N G S W) (List (Answer S)) :=
      history manager graphics settings actions
    let r := past.state.1.registry
    let ids := mintedIds (Entry.calls past.journal)
    past.answer.filterMap Answer.made? = List.range ids.length ∧
      (∀ id h, r.resolve id = some h ↔ h < ids.length ∧ (r.handle h).id? = some id) ∧
      (∀ id h other, (r.handle h).id? = some id → (r.handle other).id? = some id → h = other) ∧
      (∀ id, r.resolve id = (latest? ids id).filter fun h => !(r.handle h).isDestroyed) ∧
      (∀ id, (Bridge.resolve id).run past.state.1 =
        ⟨(latest? ids id).filter fun h => !(r.handle h).isDestroyed, past.state.1, []⟩) ∧
      (Bridge.windowCount.run past.state.1).answer = r.liveHandles.length ∧
      (∀ h, ((Bridge.destroyWindow h).run past.state.1).state.registry.handle h = .destroyed) ∧
      ∀ h later, h < ids.length → r.handle h = .destroyed →
        ((history manager graphics settings (actions ++ later) :
          Outcome Entry (Session N G S W) _).state.1.registry.handle h) = .destroyed := by
  intro past r ids
  have hminted : r.Minted ids := minted_history manager graphics settings actions
  refine ⟨?_, fun id h => ?_, fun id h other => hminted.sound.eq_of_id?, hminted.resolve_eq,
    fun id => ?_, hminted.sound.size_eq, fun h => Bridge.handle_destroyWindow h past.state.1, ?_⟩
  · rw [← hminted.length_eq]
    exact made_history manager graphics settings actions
  · rw [hminted.sound.resolve_iff, ← hminted.length_eq]
    exact ⟨fun hid => ⟨r.lt_length_of_id? hid, hid⟩, fun hboth => hboth.2⟩
  · rw [← hminted.resolve_eq id]
    rfl
  · intro h later hlt hd
    rw [← hminted.length_eq] at hlt
    exact (keepsDestroyed_history manager graphics settings actions later).destroyed h hlt hd

end Session

end WindowSystem
