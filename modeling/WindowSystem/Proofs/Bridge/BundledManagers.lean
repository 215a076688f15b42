/-
# Bridges over the bundled window managers

Over the offscreen and over the desktop window manager a bridge has the windows that the manager
has, after every history and with every graphics backend. So the failures that a manager reports of
unknown windows never come up, however often surfaces are refused.
-/
import WindowSystem.Offscreen.Graphics
import WindowSystem.Proofs.Desktop.Windows
import WindowSystem.Proofs.Offscreen.Windows

namespace WindowSystem.Session

variable {G S : Type} [GraphicsBackend G S]

/-- A bridge over the offscreen or the desktop window manager has exactly the windows of the manager,
whatever the graphics backend answers and whatever happens past the bridge. No action misses a
window or the source of events but through the graphics backend, none creates a window under the
identifier of another, and none is refused a drawable (`Agrees`). Offscreen, the drawable of a
window was handed out exactly if its handle keeps one, the focus is on a window that is there, and
there are no more windows than the limit allows. All this is up to the windows whose slots can be
numbered in half an identifier, more than four thousand million at a time. -/
theorem registry_agrees_with_managers (graphics : G) (settings : Settings) (limit : Option Nat)
    (display : Desktop.Display) (pollInterval : Nat)
    (offscreenActions : List (Action Offscreen.Outside))
    (desktopActions : List (Action Desktop.Outside)) :
    let offscreen : Outcome Entry (Session Offscreen.Manager G S Offscreen.Waiter) _ :=
      history { limit := limit } graphics settings offscreenActions
    let desktop : Outcome Entry (Session Desktop.Manager G S Nat) _ :=
      history { display := display, pollInterval := pollInterval } graphics settings desktopActions
    let m := offscreen.state.1.events.manager
    Agrees Offscreen.Outside Offscreen.Manager.windows offscreen.state ∧
      Agrees Desktop.Outside Desktop.Manager.windows desktop.state ∧
      (m.windows.Fits →
        (∀ h id, (offscreen.state.1.registry.handle h).id? = some id →
          ∃ w, m.windows.get? id = some w ∧
            w.drawableIssued = (offscreen.state.1.registry.handle h).drawable?.isSome) ∧
        (∀ id, m.focused = some id → id ∈ m.windows.ids) ∧
        ∀ n, limit = some n → m.windows.size ≤ n) := by
  intro offscreen desktop m
  obtain ⟨hoffscreen, hknows⟩ := agrees_history (W := Offscreen.Waiter)
    (Offscreen.dependable limit) (fun _ _ hm => hm.mem_ids) (Offscreen.knows_start limit) graphics
    settings offscreenActions
  obtain ⟨hdesktop, -⟩ := agrees_history (W := Nat) Desktop.dependable (fun _ _ hm => hm.mem_ids)
    (Desktop.knows_start pollInterval) graphics settings desktopActions
  refine ⟨hoffscreen, hdesktop, fun hfits => ?_⟩
  obtain ⟨hm, hdrawings⟩ := hknows hfits
  refine ⟨fun h id hid => ?_, hm.focused, hm.size_le⟩
  have hopen : IsOpen (Entry.calls offscreen.journal) id :=
    (lifetimes_history _ graphics settings offscreenActions).isOpen_of_id? hid
  obtain ⟨w, hget, hissued, -⟩ := hm.get?_of_isOpen hfits hopen
  refine ⟨w, hget, Bool.eq_iff_iff.mpr ?_⟩
  rw [hissued]
  exact (hdrawings.kept_iff h id hid).symm

/-- Two offscreen windows fill their limit, and the second one is drawn to. On a desktop the first
of two windows is destroyed. -/
theorem registry_agrees_with_two_windows :
    let offscreen : Outcome Entry
        (Session Offscreen.Manager Offscreen.Graphics Offscreen.Surface Offscreen.Waiter) _ :=
      history { limit := some 2 } {} {}
        ([.create {}, .create {}, .gpuSurface 1] : List (Action Offscreen.Outside))
    let desktop : Outcome Entry
        (Session Desktop.Manager Offscreen.Graphics Offscreen.Surface Nat) _ :=
      history { display := {}, pollInterval := 4 } {} {}
        ([.create {}, .create {}, .destroy 0] : List (Action Desktop.Outside))
    let m := offscreen.state.1.events.manager
    let n := desktop.state.1.events.manager
    m.windows.Fits ∧ n.windows.Fits ∧
      (offscreen.state.1.registry.entries.map Prod.fst).Perm m.windows.ids ∧
      (desktop.state.1.registry.entries.map Prod.fst).Perm n.windows.ids ∧
      (∃ w, m.windows.get? ⟨4294967298⟩ = some w ∧ w.drawableIssued = true) ∧
      m.windows.size ≤ 2 := by
  intro offscreen desktop m n
  have hfits : m.windows.Fits := by
    rw [SlotTable.Fits]
    decide +kernel
  have hfits' : n.windows.Fits := by
    rw [SlotTable.Fits]
    decide +kernel
  have hid : (offscreen.state.1.registry.handle 1).id? = some ⟨4294967298⟩ := by decide +kernel
  have hkept : (offscreen.state.1.registry.handle 1).drawable?.isSome = true := by decide +kernel
  obtain ⟨hoffscreen, hdesktop, hwindows⟩ := registry_agrees_with_managers
    ({} : Offscreen.Graphics) {} (some 2) {} 4
    ([.create {}, .create {}, .gpuSurface 1] : List (Action Offscreen.Outside))
    ([.create {}, .create {}, .destroy 0] : List (Action Desktop.Outside))
  obtain ⟨hdrawn, -, hlimit⟩ := hwindows hfits
  obtain ⟨w, hget, hissued⟩ := hdrawn 1 ⟨4294967298⟩ hid
  exact ⟨hfits, hfits', hoffscreen.ids hfits, hdesktop.ids hfits',
    ⟨w, hget, hissued.trans hkept⟩, hlimit 2 rfl⟩

end WindowSystem.Session
