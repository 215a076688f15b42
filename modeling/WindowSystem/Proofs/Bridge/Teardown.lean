/-
# Listing windows and tearing a bridge down

The windows of a bridge are listed in the order of their identifiers, and torn down in that order
when the bridge is closed: for each the release of its surface, if one is bound, and its
destruction, and nothing else but that the backends go. None of this depends on the order of the
entries. Afterwards every handle is destroyed, and offscreen nothing is left over in the backends.
-/
import WindowSystem.Proofs.Bridge.Enumeration
import WindowSystem.Proofs.Offscreen.LiveSurfaces
import WindowSystem.Proofs.Offscreen.Windows

namespace WindowSystem

/-! ## The calls of a teardown -/

namespace Handle

variable {S : Type}

/-- The call that destroys the window of a live handle. -/
def destroyCalls (h : Handle S) : List Call := (h.id?.map Call.destroy).toList

/-- The calls that take a window down: its surface is released, if one is bound, and then it is
destroyed. -/
def teardownCalls (h : Handle S) : List Call := h.releaseCalls ++ h.destroyCalls

end Handle

namespace Bridge

variable {N W G S : Type} [WindowManager N W] [GraphicsBackend G S]

theorem calls_destroyWindow (h : HandleRef) (b : Bridge N G S) :
    Entry.calls ((destroyWindow h).run b).journal = (b.registry.handle h).teardownCalls := by
  unfold destroyWindow
  rw [Step.run_bind, run_handle]
  rcases hh : b.registry.handle h with ⟨id, drawable, surface⟩ | _
  · have hrelease := (run_releaseSurface h b).2.1
    rw [hh] at hrelease
    simp only [Handle.liveId, Handle.id?, Step.run_bind, run_changeRegistry, run_askManager,
      run_say, Step.run_pure, List.nil_append, List.append_nil, Entry.calls_append,
      Entry.calls_map_note, hrelease]
    rfl
  · rfl

/-- A leftover window is taken down with the same calls. -/
theorem calls_destroyLeftover (h : HandleRef) (b : Bridge N G S) :
    Entry.calls ((destroyLeftover h).run b).journal = (b.registry.handle h).teardownCalls := by
  unfold destroyLeftover
  rw [Step.run_bind, Entry.calls_append, calls_destroyWindow]
  cases ((destroyWindow h).run b).answer <;> exact List.append_nil _

/-- Windows are taken down one after the other, each as it was at the beginning. -/
theorem calls_forEach_destroyLeftover {list : List HandleRef} (hlist : list.Nodup)
    (b : Bridge N G S) :
    Entry.calls ((Step.forEach destroyLeftover list).run b).journal =
      list.flatMap fun h => (b.registry.handle h).teardownCalls := by
  induction list generalizing b with
  | nil => rfl
  | cons h rest ih =>
    obtain ⟨hnot, hrest⟩ := List.nodup_cons.mp hlist
    rw [Step.forEach_cons, Step.run_bind, Entry.calls_append, calls_destroyLeftover,
      List.flatMap_cons, ih hrest, state_destroyLeftover]
    congr 1
    refine List.flatMap_congr fun o ho => ?_
    have hne : o ≠ h := fun heq => hnot (heq ▸ ho)
    rw [handle_destroyWindow_of_ne hne]

/-- A bridge is closed with the calls that take its windows down in the order in which they are
listed, and with those that let the backends go. -/
theorem calls_close {b : Bridge N G S} (hb : b.registry.Sound) :
    Entry.calls (close.run b).journal =
      (b.registry.windows.flatMap fun h => (b.registry.handle h).teardownCalls) ++
        [.closeManager, .closeGraphics] := by
  rw [(run_close b).2, calls_forEach_destroyLeftover hb.nodup_windows]

end Bridge

/-- The window manager goes after the windows that are left. -/
theorem Bridge.manager_close {N W G S : Type} [WindowManager N W] [GraphicsBackend G S]
    (b : Bridge N G S) :
    let left := (Step.forEach destroyLeftover b.registry.windows).run b
    (close.run b).state.events.manager =
      (WindowManager.close.run left.state.events.manager).state :=
  congrArg (fun b' => b'.events.manager) (run_close b).1

/-! ## Windows left over in a window manager -/

section Dependable

variable {N W X G S α : Type} [WindowManager N W] [Surroundings X N] [GraphicsBackend G S]
  {windows : N → SlotTable α} {knows : List Call → N → Prop}

/-- A dependable window manager has no window left when the windows of the bridge are destroyed at
its end. -/
theorem Session.ids_left (hd : Dependable X (fun n => (windows n).Fits) knows)
    (hids : ∀ calls n, knows calls n → ∀ id, id ∈ (windows n).ids ↔ IsOpen calls id)
    {manager : N} (hstart : knows [] manager) (graphics : G) (settings : Settings)
    (actions : List (Action X)) :
    let past : Outcome Entry (Session N G S W) (List (Answer S)) :=
      history manager graphics settings actions
    let left := (Step.forEach Bridge.destroyLeftover past.state.1.registry.windows).run past.state.1
    (windows left.state.events.manager).Fits → (windows left.state.events.manager).ids = [] := by
  intro past left hfits
  have hlifetimes : Lifetimes past.state.1.books (Entry.calls past.journal) :=
    lifetimes_history manager graphics settings actions
  have hcourse : Course X past.state.1.events.manager (Entry.calls left.journal)
      left.state.events.manager :=
    Bridge.isCourse_forEach Bridge.isCourse_destroyLeftover _ past.state.1
  have hmoves : Moves past.state.1.books (Entry.calls left.journal)
      (Entry.notesBy .graphics left.journal) left.state.books :=
    Bridge.isMoves_forEach Bridge.isMoves_destroyLeftover _ past.state.1
  obtain ⟨-, hknows⟩ := agrees_history (W := W) hd hids hstart graphics settings actions
  obtain ⟨hknows, hdrawings⟩ := hknows (hd.fits_of_course hcourse hfits)
  have hafter := hmoves.lifetimes hlifetimes
  obtain ⟨hknows, -⟩ := hd.course hcourse hfits hknows hafter.addressed
    (hmoves.drawings hlifetimes hdrawings).once
  -- what is left would be open, and so entered, but all handles are destroyed
  refine List.eq_nil_iff_forall_not_mem.mpr fun id hid => ?_
  rw [hids _ _ hknows, hafter.isOpen_iff, Option.isSome_iff_exists] at hid
  obtain ⟨h, hh⟩ := hid
  have hlive : (left.state.registry.handle h).id? = some id := (hafter.sound.resolve_iff id h).mp hh
  have hgone : left.state.registry.handle h = .destroyed := by
    have hclosed := Bridge.handle_close hlifetimes.sound h
    rwa [(Bridge.run_close past.state.1).1] at hclosed
  rw [hgone] at hlive
  cases hlive

end Dependable

/-! ## Surfaces left over in the offscreen backend -/

namespace Offscreen

/-- A surface that is released is not live afterwards, and nothing else changes. -/
theorem Graphics.mem_live_release (g : Graphics) (surface : Surface) (s : UInt64) :
    s ∈ ((GraphicsBackend.release surface).run g).state.live ↔
      s ∈ g.live ∧ s ≠ surface.serial := by
  by_cases hlive : surface.serial ∈ g.live
  · rw [g.run_release hlive, List.mem_filter, decide_eq_true_iff]
  · -- the backend only reports that there is no such surface
    have hstate : ((GraphicsBackend.release surface).run g).state = g := by
      show ((Graphics.release surface).run g).state = g
      have hcontains : g.live.contains surface.serial = false := by
        rw [← Bool.not_eq_true, List.contains_iff_mem]
        exact hlive
      unfold Graphics.release
      rw [Step.run_bind, Step.run_get]
      simp only [hcontains, Bool.false_eq_true, if_false]
      rfl
    rw [hstate]
    refine ⟨fun hs => ⟨hs, ?_⟩, And.left⟩
    rintro rfl
    exact hlive hs

/-- Every serial number that the backend keeps is that of a surface bound to a handle. That is so
even after the serial numbers ran out and are given again. -/
def Claimed (b : Books Graphics Surface) : Prop :=
  ∀ s ∈ b.graphics.live, ∃ h surface,
    (b.registry.handle h).surface? = some surface ∧ surface.value.serial = s

theorem claimed_empty : Claimed { graphics := {} } := fun _ hs => absurd hs List.not_mem_nil

namespace Claimed

variable {b b' : Books Graphics Surface} {calls : List Call} {notes : List Note}

theorem congr (hb : Claimed b) (hgraphics : b'.graphics = b.graphics)
    (hsurface : ∀ h, (b'.registry.handle h).surface? = (b.registry.handle h).surface?) :
    Claimed b' := by
  intro s hs
  rw [hgraphics] at hs
  obtain ⟨h, surface, hbound, hserial⟩ := hb s hs
  exact ⟨h, surface, (hsurface h).trans hbound, hserial⟩

/-- A handle goes, and its surface with it. -/
theorem release (hb : Claimed b) {o : HandleRef}
    (hgraphics : b'.graphics = ((b.registry.handle o).release.run b.graphics).state)
    (hsurface : ∀ h, h ≠ o → (b'.registry.handle h).surface? = (b.registry.handle h).surface?) :
    Claimed b' := by
  intro s hs
  rw [hgraphics, Handle.release] at hs
  have hleft : s ∈ b.graphics.live ∧
      ∀ surface, (b.registry.handle o).surface? = some surface → s ≠ surface.value.serial := by
    cases ho : (b.registry.handle o).surface? with
    | none =>
      simp only [ho] at hs
      exact ⟨hs, fun other hother => absurd hother (Option.some_ne_none other).symm⟩
    | some surface =>
      simp only [ho] at hs
      obtain ⟨hlive, hne⟩ := (b.graphics.mem_live_release surface.value s).mp hs
      exact ⟨hlive, fun other hother => Option.some.inj hother ▸ hne⟩
  obtain ⟨h, surface, hbound, hserial⟩ := hb s hleft.1
  have hne : h ≠ o := by
    rintro rfl
    exact hleft.2 surface hbound hserial.symm
  exact ⟨h, surface, (hsurface h hne).trans hbound, hserial⟩

theorem move (h : Move b calls notes b') (hsound : b.registry.Sound) (hb : Claimed b) :
    Claimed b' := by
  cases h with
  | created attributes hid => exact hb.congr rfl (Registry.surface?_insert _)
  | @replaced attributes id old hid =>
    have hold := hsound.handle_insert_old hid
    refine hb.release (o := old) (by rw [hold]) fun h hne => ?_
    rw [Registry.handle_tombstone_of_ne _ hne, Registry.surface?_insert]
  | @drawn o id hh drawable =>
    have hsame : (Handle.live id (some drawable) none).surface? =
        (b.registry.handle o).surface? := by rw [hh]; rfl
    exact hb.congr rfl (Registry.surface?_setHandle hsame)
  | unwrapped hh he => exact hb.congr (b.graphics.run_wrap_error he).1 fun _ => rfl
  | @wrapped o id drawable hh value hvalue =>
    obtain ⟨own, rfl, rfl⟩ := b.graphics.offscreen_of_wrap hvalue
    have hlt : o < b.registry.handles.length := b.registry.lt_length_of_ne (by rw [hh]; simp)
    intro s hs
    rw [Graphics.run_wrap_offscreen] at hs
    rcases List.mem_cons.mp hs with rfl | hold
    · refine ⟨o, ⟨b.surfacesMade, ⟨b.graphics.lastSerial + 1, own⟩⟩, ?_, rfl⟩
      rw [b.registry.handle_setHandle_self hlt]
      rfl
    · obtain ⟨h, surface, hbound, hserial⟩ := hb s (List.mem_filter.mp hold).1
      -- the handle had no surface before
      have hne : h ≠ o := by
        rintro rfl
        rw [hh] at hbound
        cases hbound
      exact ⟨h, surface, by rwa [b.registry.handle_setHandle_of_ne hne], hserial⟩
  | @destroyed o id hid =>
    refine hb.release (o := o) rfl fun h hne => ?_
    rw [Registry.handle_tombstone_of_ne _ hne, Registry.handle_remove]
  | _ => exact hb

theorem moves (h : Moves b calls notes b') (hsound : b.registry.Sound) (hb : Claimed b) :
    Claimed b' := by
  induction h with
  | nil => exact hb
  | cons first _ ih => exact ih (first.sound hsound) (move first hsound hb)

end Claimed

/-- When no surface is bound any more, none is live. -/
theorem liveSurfaces_eq_zero {b : Books Graphics Surface} (hb : Claimed b)
    (hnone : ∀ h, b.registry.handle h = .destroyed) : b.graphics.liveSurfaces = 0 := by
  refine List.length_eq_zero_iff.mpr (List.eq_nil_iff_forall_not_mem.mpr fun s hs => ?_)
  obtain ⟨h, surface, hbound, -⟩ := hb s hs
  rw [hnone h] at hbound
  cases hbound

end Offscreen

/-! ## Any backends, any order of the entries -/

namespace Session

variable {N W G S X : Type} [WindowManager N W] [GraphicsBackend G S] [Surroundings X N]

/-- Every history leaves a sound registry, also in another order of the entries. -/
theorem sound_historyIn (e : Enumeration) (manager : N) (graphics : G) (settings : Settings)
    (actions : List (Action X)) :
    let run : Outcome Entry (Session N G S W) (List (Answer S)) :=
      historyIn e manager graphics settings actions
    run.state.1.registry.Sound := by
  intro run
  have hplain := sound_history (W := W) manager graphics settings actions
  exact (reordered_historyIn e manager graphics settings actions).2.2.bridge.registry.sound hplain

omit [Surroundings X N] in
/-- A session whose entries are in another order comes to the same end. -/
theorem Reordered.closed {x y : Session N G S W} (h : x.Reordered y) (hx : x.1.registry.Sound) :
    (Bridge.close.run y.1).state.events = (Bridge.close.run x.1).state.events ∧
      (Bridge.close.run y.1).state.graphics = (Bridge.close.run x.1).state.graphics := by
  have hclose := (h.bridge.close hx).2
  exact ⟨hclose.events, hclose.graphics⟩

omit [GraphicsBackend G S] in
/-- No surface is left in the offscreen graphics backend. -/
theorem liveSurfaces_close (e : Enumeration) (manager : N) (settings : Settings)
    (actions : List (Action X)) :
    let run : Outcome Entry (Session N Offscreen.Graphics Offscreen.Surface W) _ :=
      historyIn e manager {} settings actions
    (Bridge.close.run run.state.1).state.graphics.liveSurfaces = 0 := by
  intro run
  let plain : Outcome Entry (Session N Offscreen.Graphics Offscreen.Surface W) _ :=
    history manager {} settings actions
  have hsound : plain.state.1.registry.Sound :=
    sound_history (W := W) manager ({} : Offscreen.Graphics) settings actions
  have hreordered : plain.state.Reordered run.state :=
    (reordered_historyIn (W := W) e manager ({} : Offscreen.Graphics) settings actions).2.2
  have hpast : Moves ⟨{}, {}, 0⟩ (Entry.calls plain.journal)
      (Entry.notesBy .graphics plain.journal) plain.state.1.books :=
    moves_history (W := W) manager ({} : Offscreen.Graphics) settings actions
  have hclaimed : Offscreen.Claimed (Bridge.close.run plain.state.1).state.books :=
    .moves (Bridge.isMoves_close plain.state.1) hsound
      (.moves hpast Registry.sound_empty Offscreen.claimed_empty)
  rw [(hreordered.closed hsound).2]
  exact Offscreen.liveSurfaces_eq_zero hclaimed (Bridge.handle_close hsound)

/-- No window is left in the offscreen window manager. -/
theorem size_close (e : Enumeration) (graphics : G) (settings : Settings) (limit : Option Nat)
    (actions : List (Action Offscreen.Outside)) :
    let run : Outcome Entry (Session Offscreen.Manager G S Offscreen.Waiter) _ :=
      historyIn e { limit := limit } graphics settings actions
    let manager := (Bridge.close.run run.state.1).state.events.manager
    manager.windows.Fits → manager.windows.size = 0 := by
  intro run manager hfits
  let plain : Outcome Entry (Session Offscreen.Manager G S Offscreen.Waiter) _ :=
    history { limit := limit } graphics settings actions
  have hsound : plain.state.1.registry.Sound :=
    sound_history (W := Offscreen.Waiter) ({ limit := limit } : Offscreen.Manager) graphics
      settings actions
  have hreordered : plain.state.Reordered run.state :=
    (reordered_historyIn (W := Offscreen.Waiter) e ({ limit := limit } : Offscreen.Manager)
      graphics settings actions).2.2
  -- the manager itself does nothing when it goes
  have hmanager : manager = ((Step.forEach Bridge.destroyLeftover
      plain.state.1.registry.windows).run plain.state.1).state.events.manager := by
    show (Bridge.close.run run.state.1).state.events.manager = _
    rw [(hreordered.closed hsound).1, Bridge.manager_close]
    rfl
  rw [hmanager] at hfits ⊢
  rw [← SlotTable.length_ids, ids_left (W := Offscreen.Waiter) (Offscreen.dependable limit)
    (fun _ _ hm => hm.mem_ids) (Offscreen.knows_start limit) graphics settings actions hfits,
    List.length_nil]

/-- Listing and teardown do not depend on the order in which the entries of the registry come,
whatever the backends. After every history the live windows are listed, each once, in strictly
ascending order of their identifiers. To close the bridge then takes these windows down in that
order: for each, the release of its surface if one is bound, and its destruction; and no other call
is made but those that let the backends go. Every handle is destroyed then. A run in another order
gives the same answers and writes the same, to the end. When the bridge is closed, the offscreen
window manager has no window left, as long as the numbers of its slots fit into half an identifier,
and the offscreen graphics backend has no surface left. -/
theorem listing_and_teardown (e other : Enumeration) (manager : N) (settings : Settings)
    (actions : List (Action X)) :
    (∀ (G S : Type) [GraphicsBackend G S] (graphics : G),
      let run : Outcome Entry (Session N G S W) (List (Answer S)) :=
        historyIn e manager graphics settings actions
      let again : Outcome Entry (Session N G S W) (List (Answer S)) :=
        historyIn other manager graphics settings actions
      let r := run.state.1.registry
      let closed := Bridge.close.run run.state.1
      (∀ h, h ∈ r.windows ↔ ∃ id, (r.handle h).id? = some id) ∧ r.windows.Nodup ∧
      (∃ ids : List WindowId, r.windows.map (fun h => (r.handle h).id?) = ids.map some ∧
        ids.Pairwise fun a b => a.number < b.number) ∧
      Entry.calls closed.journal =
        (r.windows.flatMap fun h => (r.handle h).teardownCalls) ++
          [.closeManager, .closeGraphics] ∧
      (∀ h, closed.state.registry.handle h = .destroyed) ∧
      again.answer = run.answer ∧ again.journal = run.journal ∧
      again.state.1.registry.windows = r.windows ∧
      (Bridge.close.run again.state.1).journal = closed.journal ∧
      (finish.run again.state).journal = (finish.run run.state).journal) ∧
    (let run : Outcome Entry (Session N Offscreen.Graphics Offscreen.Surface W) _ :=
        historyIn e manager {} settings actions;
      (Bridge.close.run run.state.1).state.graphics.liveSurfaces = 0) ∧
    ∀ (G S : Type) [GraphicsBackend G S] (graphics : G) (limit : Option Nat)
      (actions : List (Action Offscreen.Outside)),
      let run : Outcome Entry (Session Offscreen.Manager G S Offscreen.Waiter) _ :=
        historyIn e { limit := limit } graphics settings actions
      let left := (Bridge.close.run run.state.1).state.events.manager.windows
      left.Fits → left.size = 0 := by
  refine ⟨?_, liveSurfaces_close e manager settings actions, ?_⟩
  · intro G S _ graphics run again r closed
    have hsound : r.Sound := sound_historyIn e manager graphics settings actions
    obtain ⟨hanswer, hjournal, hstate⟩ :=
      reordered_historyIn (W := W) e manager graphics settings actions
    obtain ⟨hanswer', hjournal', hstate'⟩ :=
      reordered_historyIn (W := W) other manager graphics settings actions
    have hplain := sound_history (W := W) manager graphics settings actions
    have hwindows := (hstate'.bridge.registry.windows hplain).trans
      (hstate.bridge.registry.windows hplain).symm
    have hclose := (hstate'.bridge.close hplain).1.trans (hstate.bridge.close hplain).1.symm
    have hfinish := (hstate'.finish hplain).1.trans (hstate.finish hplain).1.symm
    exact ⟨fun h => hsound.mem_windows, hsound.nodup_windows, hsound.ascending_windows,
      Bridge.calls_close hsound, Bridge.handle_close hsound, hanswer'.trans hanswer.symm,
      hjournal'.trans hjournal.symm, hwindows, hclose, hfinish⟩
  · intro G S _ graphics limit actions
    exact size_close e graphics settings limit actions

/-- Two offscreen windows, one with a surface, in a registry that comes backwards. They are listed
in order, and when the bridge is closed none is left. -/
theorem two_windows_taken_down :
    let backwards : Enumeration :=
      ⟨fun _ entries => entries.reverse, fun _ entries => entries.reverse_perm⟩
    let run : Outcome Entry
        (Session Offscreen.Manager Offscreen.Graphics Offscreen.Surface Offscreen.Waiter) _ :=
      historyIn backwards {} {} {}
        ([.create {}, .gpuSurface 0, .create {}] : List (Action Offscreen.Outside))
    let closed := Bridge.close.run run.state.1
    run.state.1.registry.entries.map Prod.snd = [1, 0] ∧
      run.state.1.registry.windows = [0, 1] ∧ closed.state.events.manager.windows.Fits ∧
      closed.state.events.manager.windows.size = 0 ∧ closed.state.graphics.liveSurfaces = 0 := by
  intro backwards run closed
  have hentries : run.state.1.registry.entries.map Prod.snd = [1, 0] := by decide +kernel
  have hlater : Registry.idLe (run.state.1.registry.handle 1).id?
      (run.state.1.registry.handle 0).id? = false := by decide +kernel
  have hlisted : run.state.1.registry.windows = [0, 1] := by
    rw [Registry.windows, hentries]
    simp [List.mergeSort, hlater]
  have hfits : closed.state.events.manager.windows.Fits := by
    rw [SlotTable.Fits, show closed = _ from rfl, Bridge.manager_close, hlisted]
    decide +kernel
  obtain ⟨-, hsurfaces, hwindows⟩ := listing_and_teardown (W := Offscreen.Waiter) backwards
    backwards ({} : Offscreen.Manager) {}
    ([.create {}, .gpuSurface 0, .create {}] : List (Action Offscreen.Outside))
  have hnone : closed.state.events.manager.windows.size = 0 :=
    hwindows Offscreen.Graphics Offscreen.Surface {} none [.create {}, .gpuSurface 0, .create {}]
      hfits
  have hreleased : closed.state.graphics.liveSurfaces = 0 := hsurfaces
  exact ⟨hentries, hlisted, hfits, hnone, hreleased⟩

end Session

end WindowSystem
