/-
# The account of surfaces

What scripts and graphics backends can rely on about surfaces, over every history and to the end
of the session: none is lost, none is released twice, and each goes before its window.
-/
import WindowSystem.Proofs.Offscreen.LiveSurfaces

namespace WindowSystem

namespace Ledger

variable {G S : Type} {b : Books G S} {calls : List Call}

theorem nodup_wrapped (h : Ledger b calls) : (wrapped calls).Nodup := by
  rw [h.wrapped_eq]
  exact List.nodup_range

theorem length_wrapped (h : Ledger b calls) : (wrapped calls).length = b.surfacesMade := by
  rw [h.wrapped_eq, List.length_range]

/-- A surface is held by a window exactly as long as it was made and not released. -/
theorem holds_iff (h : Ledger b calls) (n : Nat) :
    (n ∈ wrapped calls ∧ n ∉ released calls) ↔ ∃ o id, b.registry.Holds o id n := by
  rw [h.mem_wrapped]
  refine (h.bound_iff n).symm.trans ⟨?_, ?_⟩
  · rintro ⟨o, hbinds⟩
    exact ⟨o, hbinds.holds⟩
  · rintro ⟨o, id, hholds⟩
    exact ⟨o, hholds.binds⟩

/-- When nothing is bound any more, what was made is what was released. -/
theorem perm_of_unbound (h : Ledger b calls) (hnone : ∀ o n, ¬ b.registry.Binds o n) :
    (released calls).Perm (wrapped calls) := by
  refine (List.perm_ext_iff_of_nodup h.nodup_released h.nodup_wrapped).mpr fun n => ?_
  refine ⟨fun hn => h.wrappedFirst.released_subset hn, fun hn => ?_⟩
  by_contra hnot
  obtain ⟨o, hbinds⟩ := (h.bound_iff n).mpr ⟨h.mem_wrapped.mp hn, hnot⟩
  exact hnone o n hbinds

end Ledger

namespace Session

variable {N W X : Type} [WindowManager N W] [Surroundings X N]

/-- A surface that an action made is held by the window it was asked for, and is released before
that window is destroyed, however the session goes on to its end. -/
theorem releasedFirst_of_wrapped {G S : Type} [GraphicsBackend G S] {session : Session N G S W}
    {calls : List Call} (h : Ledger session.1.books calls) (a : Action X) {n : Nat}
    (hn : n ∈ wrapped (Entry.calls ((perform a).run session).journal)) (later : List (Action X)) :
    let next := (perform a).run session
    let rest := (performAll later >>= fun _ => finish).run next.state
    ∃ o id, a = .gpuSurface o ∧ next.state.1.registry.Holds o id n ∧
      Call.destroy id ∉ Entry.calls next.journal ∧
      ReleasedFirst n id (Entry.calls rest.journal) := by
  intro next rest
  obtain ⟨o, id, rfl, hholds⟩ := holds_of_wrapped h a hn
  have hafter := (isMoves_perform (.gpuSurface o : Action X) session).ledger h
  have hrest : Moves next.state.1.books (Entry.calls rest.journal)
      (Entry.notesBy .graphics rest.journal) rest.state.1.books :=
    (isMoves_performAll later).bind (fun _ => isMoves_finish) next.state
  refine ⟨o, id, rfl, hholds, fun hmem => ?_, hrest.releasedFirst hafter.sound hholds⟩
  rw [calls_perform_gpuSurface] at hmem
  exact Bridge.isBinding_gpuSurface o session.1 _ hmem

section Offscreen

open Offscreen (Graphics Surface Tallies)

variable {session : Session N Graphics Surface W} {calls more : List Call}

/-- While there are serial numbers left, the offscreen backend agrees with the handles after every
history, and has written nothing. -/
theorem tallies_history (manager : N) (settings : Settings) (actions : List (Action X)) :
    let past : Outcome Entry (Session N Graphics Surface W) (List (Answer Surface)) :=
      history manager ({} : Graphics) settings actions
    past.state.1.books.surfacesMade < UInt64.size →
      Tallies past.state.1.books ∧ Entry.notesBy .graphics past.journal = [] := by
  intro past hsize
  have hmoves := moves_history (S := Surface) manager ({} : Graphics) settings actions
  exact Offscreen.tallies_moves hmoves Offscreen.tallies_empty (ledger_empty _) hsize

omit [Surroundings X N] in
/-- So it is at the end of a session, when no surface is left. -/
theorem tallies_finish (htallies : Tallies session.1.books) (h : Ledger session.1.books calls) :
    let ending := finish.run session
    ending.state.1.books.surfacesMade < UInt64.size →
      ending.state.1.books.graphics.liveSurfaces = 0 ∧
        Entry.notesBy .graphics ending.journal = [] := by
  intro ending hsize
  obtain ⟨hending, hnone⟩ := ledger_finish h
  obtain ⟨hafter, hnotes⟩ :=
    Offscreen.tallies_moves (isMoves_finish session) htallies h hsize
  refine ⟨?_, hnotes⟩
  have hbound : ending.state.1.books.registry.boundHandles = [] := by
    refine List.eq_nil_iff_forall_not_mem.mpr fun o hmem => ?_
    obtain ⟨surface, hsurface⟩ := Option.isSome_iff_exists.mp (List.mem_filter.mp hmem).2
    exact hnone o surface.number (Option.map_eq_some_iff.mpr ⟨surface, hsurface, rfl⟩)
  rw [hafter.liveSurfaces_eq hending, hbound, List.length_nil]

end Offscreen

/-- Surfaces are accounted for over every history, whatever the backends answer. The surfaces made
and not released are those held by live windows, each by one. To the end of the session no surface
is made twice, the surfaces released are those made, each once, and each after it was made. A
surface is made only when it is asked for, is then held by the window it was asked for, and is
released before that window is destroyed. The offscreen backend agrees, as long as its serial
numbers last: it keeps as many as there are handles with a surface and never has anything to
report. -/
theorem surfaces_released_once (manager : N) (settings : Settings) (actions : List (Action X)) :
    (∀ (G S : Type) [GraphicsBackend G S] (graphics : G),
      let past : Outcome Entry (Session N G S W) (List (Answer S)) :=
        history manager graphics settings actions
      let ending := finish.run past.state
      let calls := Entry.calls past.journal
      let all := Entry.calls (past.journal ++ ending.journal)
      (∀ n, (n ∈ wrapped calls ∧ n ∉ released calls) ↔
        ∃ h id, past.state.1.registry.Holds h id n) ∧
      (∀ n h other, past.state.1.registry.Binds h n → past.state.1.registry.Binds other n →
        h = other) ∧
      (wrapped all).Nodup ∧ (released all).Perm (wrapped all) ∧ WrappedFirst all ∧
      ∀ (a : Action X) (n : Nat) (later : List (Action X)),
        let next := (perform a).run past.state
        let rest := (performAll later >>= fun _ => finish).run next.state
        n ∈ wrapped (Entry.calls next.journal) →
          ∃ h id, a = .gpuSurface h ∧ next.state.1.registry.Holds h id n ∧
            Call.destroy id ∉ Entry.calls next.journal ∧
            ReleasedFirst n id (Entry.calls rest.journal)) ∧
    (let past : Outcome Entry (Session N Offscreen.Graphics Offscreen.Surface W)
          (List (Answer Offscreen.Surface)) :=
        history manager {} settings actions
      let ending := finish.run past.state
      ((wrapped (Entry.calls past.journal)).length < UInt64.size →
        past.state.1.graphics.liveSurfaces = past.state.1.registry.boundHandles.length ∧
          Entry.notesBy .graphics past.journal = []) ∧
      ((wrapped (Entry.calls (past.journal ++ ending.journal))).length < UInt64.size →
        ending.state.1.graphics.liveSurfaces = 0 ∧
          Entry.notesBy .graphics (past.journal ++ ending.journal) = [])) := by
  refine ⟨?_, ?_⟩
  · intro G S _ graphics past ending calls all
    have hpast : Ledger past.state.1.books calls :=
      ledger_history manager graphics settings actions
    obtain ⟨hending, hnone⟩ := ledger_finish hpast
    rw [← Entry.calls_append] at hending
    exact ⟨hpast.holds_iff, hpast.single, hending.nodup_wrapped, hending.perm_of_unbound hnone,
      hending.wrappedFirst, fun a n later hn => releasedFirst_of_wrapped hpast a hn later⟩
  · intro past ending
    have hpast : Ledger past.state.1.books (Entry.calls past.journal) :=
      ledger_history manager ({} : Offscreen.Graphics) settings actions
    obtain ⟨hending, hnone⟩ := ledger_finish hpast
    have htallies := tallies_history (W := W) manager settings actions
    refine ⟨fun hsize => ?_, fun hsize => ?_⟩
    · rw [hpast.length_wrapped] at hsize
      obtain ⟨hagrees, hnotes⟩ := htallies hsize
      exact ⟨hagrees.liveSurfaces_eq hpast, hnotes⟩
    · rw [Entry.calls_append, hending.length_wrapped] at hsize
      have hbefore := Nat.lt_of_le_of_lt (isMoves_finish past.state).surfacesMade_le hsize
      obtain ⟨hagrees, hnotes⟩ := htallies hbefore
      obtain ⟨hlive, hmore⟩ := tallies_finish hagrees hpast hsize
      refine ⟨hlive, ?_⟩
      rw [Entry.notesBy_append, hnotes, hmore]
      rfl

end Session

end WindowSystem
