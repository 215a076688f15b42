/-
# Moves keep the ledger

Every move keeps the ledger of surfaces in order, so it is in order after every history. While a
surface is bound to a window, no call destroys that window's identifier before the surface is
released. A session that comes to its end destroys all handles, so that every surface is released.
-/
import WindowSystem.Proofs.Bridge.Requests
import WindowSystem.Proofs.Bridge.Surfaces

namespace WindowSystem

variable {G S : Type} {b b' : Books G S} {calls past : List Call} {notes : List Note}

/-- A call that concerns no surface leaves the ledger in order. -/
theorem Ledger.quiet_call (hb : Ledger b past) (hsound : b'.registry.Sound)
    (hmade : b'.surfacesMade = b.surfacesMade)
    (hbinds : ∀ h n, b'.registry.Binds h n ↔ b.registry.Binds h n) {c : Call}
    (hwrapped : c.wrapped? = none) (hreleased : c.released? = none) : Ledger b' (past ++ [c]) :=
  hb.quiet hsound hmade hbinds (List.filterMap_cons_none hwrapped)
    (List.filterMap_cons_none hreleased)

/-- The handle of an identifier that is handed out again is not the new one. -/
theorem Registry.Sound.handle_insert_old {r : Registry S} (hr : r.Sound) {id : WindowId}
    {old : HandleRef} (hid : r.resolve id = some old) :
    (r.insert id).2.handle old = r.handle old := by
  have hlt := r.lt_length_of_id? ((hr.resolve_iff id old).mp hid)
  exact r.handle_insert_of_ne id (Nat.ne_of_lt hlt)

variable [GraphicsBackend G S]

/-! ## Moves and the registry -/

/-- Every move keeps the agreement of the registry with the handles. -/
theorem Move.sound (h : Move b calls notes b') (hb : b.registry.Sound) : b'.registry.Sound := by
  cases h with
  | created attributes hid => exact hb.insert hid
  | replaced attributes hid => exact hb.replace hid
  | drawn hh drawable => exact hb.setHandle (congrArg Handle.id? hh) rfl
  | wrapped hh hvalue => exact hb.setHandle (congrArg Handle.id? hh) rfl
  | destroyed hid => exact hb.remove hid
  | _ => exact hb

theorem Moves.sound (h : Moves b calls notes b') (hb : b.registry.Sound) : b'.registry.Sound := by
  induction h with
  | nil => exact hb
  | cons first _ ih => exact ih (first.sound hb)

/-! ## Moves and the ledger -/

/-- Every move keeps the ledger in order. -/
theorem Move.ledger (h : Move b calls notes b') (hb : Ledger b past) :
    Ledger b' (past ++ calls) := by
  have hsound := h.sound hb.sound
  cases h with
  | @aside c hc =>
    have hquiet : c.wrapped? = none ∧ c.released? = none := by
      cases c with
      | wrap drawable answer => exact hc.elim
      | release n => exact hc.elim
      | _ => exact ⟨rfl, rfl⟩
    exact hb.quiet_call hsound rfl (fun _ _ => Iff.rfl) hquiet.1 hquiet.2
  | refused attributes e => exact hb.quiet_call hsound rfl (fun _ _ => Iff.rfl) rfl rfl
  | @created attributes id hid =>
    exact hb.quiet_call hsound rfl (Registry.binds_insert id) rfl rfl
  | @replaced attributes id old hid =>
    have hold := hb.sound.handle_insert_old hid
    refine hb.release (o := old) hsound rfl (fun h n => ?_) ?_ ?_
    · rw [Registry.binds_tombstone, Registry.binds_insert]
    · rw [← List.singleton_append, wrapped_append, wrapped_releaseCalls]
      rfl
    · rw [← List.singleton_append, released_append, hold]
      rfl
  | updated hid change answer => exact hb.quiet_call hsound rfl (fun _ _ => Iff.rfl) rfl rfl
  | queried hid q answer => exact hb.quiet_call hsound rfl (fun _ _ => Iff.rfl) rfl rfl
  | undrawn hh e => exact hb.quiet_call hsound rfl (fun _ _ => Iff.rfl) rfl rfl
  | @drawn h id hh drawable =>
    have hsame : (Handle.live id (some drawable) none).surface? =
        (b.registry.handle h).surface? := by rw [hh]; rfl
    have hbinds := Registry.binds_setHandle hsame
    exact hb.quiet_call hsound rfl hbinds rfl rfl
  | unwrapped hh he => exact hb.quiet_call hsound rfl (fun _ _ => Iff.rfl) rfl rfl
  | @wrapped h id drawable hh value hvalue =>
    exact hb.wrap hsound rfl (Registry.binds_setHandle_bound hh b.surfacesMade value) drawable
  | @destroyed h id hid =>
    refine hb.release (o := h) hsound rfl (fun o n => ?_) ?_ ?_
    · exact Registry.binds_tombstone h o n
    · rw [wrapped_append, wrapped_releaseCalls]
      rfl
    · rw [released_append]
      exact List.append_nil _
  | closed => exact hb.quiet_call hsound rfl (fun _ _ => Iff.rfl) rfl rfl

theorem Moves.ledger (h : Moves b calls notes b') (hb : Ledger b past) :
    Ledger b' (past ++ calls) := by
  induction h generalizing past with
  | nil => rwa [List.append_nil]
  | cons first _ ih =>
    rw [← List.append_assoc]
    exact ih (first.ledger hb)

/-! ## The surface before its window -/

/-- During some calls, a window holds on to its surface and is not destroyed, or the surface is
released before anything else happens to the window. -/
def Registry.HeldOrReleased (r : Registry S) (h : HandleRef) (id : WindowId) (n : Nat)
    (calls : List Call) : Prop :=
  (r.Holds h id n ∧ Call.destroy id ∉ calls) ∨
    ∃ before rest, calls = before ++ .release n :: rest ∧ Call.destroy id ∉ before

omit [GraphicsBackend G S] in
theorem Registry.HeldOrReleased.append {r r' : Registry S} {h : HandleRef} {id : WindowId} {n : Nat}
    {calls more : List Call} (hcalls : r.HeldOrReleased h id n calls)
    (hmore : r.Holds h id n → r'.HeldOrReleased h id n more) :
    r'.HeldOrReleased h id n (calls ++ more) := by
  rcases hcalls with ⟨hholds, hnot⟩ | ⟨before, rest, hsplit, hnot⟩
  · rcases hmore hholds with ⟨hafter, hnot'⟩ | ⟨before, rest, hsplit, hnot'⟩
    · exact Or.inl ⟨hafter, by rw [List.mem_append, not_or]; exact ⟨hnot, hnot'⟩⟩
    · rw [hsplit, ← List.append_assoc]
      exact Or.inr ⟨_, rest, rfl, by rw [List.mem_append, not_or]; exact ⟨hnot, hnot'⟩⟩
  · rw [hsplit, List.append_assoc]
    exact Or.inr ⟨before, _, rfl, hnot⟩

omit [GraphicsBackend G S] in
/-- So the surface is released before the window is destroyed. -/
theorem Registry.HeldOrReleased.releasedFirst {r : Registry S} {h : HandleRef} {id : WindowId}
    {n : Nat} {calls : List Call} (hcalls : r.HeldOrReleased h id n calls) :
    ReleasedFirst n id calls := by
  intro before rest heq
  rcases hcalls with ⟨-, hnot⟩ | ⟨first, last, hsplit, hnot⟩
  · rw [heq] at hnot
    exact absurd (List.mem_append_right _ List.mem_cons_self) hnot
  · rw [hsplit] at heq
    exact releasedFirst_of_release hnot before rest heq

/-- In a move a window that holds a surface holds on to it, or the surface is released first. -/
theorem Move.heldOrReleased (hm : Move b calls notes b') (hb : b.registry.Sound)
    {h : HandleRef} {id : WindowId} {n : Nat} (hh : b.registry.Holds h id n) :
    b'.registry.HeldOrReleased h id n calls := by
  have hlt := hh.binds.lt_length
  -- what is bound to the handle is what is released with it
  obtain ⟨surface, hsurface, hnumber⟩ := hh.binds.surface?
  have hrelease : (b.registry.handle h).releaseCalls = [.release n] := by
    rw [Handle.releaseCalls, hsurface, ← hnumber]
    rfl
  have hnone : ∀ o : HandleRef, (b.registry.handle o).surface? = none → h ≠ o := by
    rintro o ho rfl
    rw [ho] at hsurface
    cases hsurface
  have hdestroy : ∀ handle : Handle S, Call.destroy id ∉ handle.releaseCalls := by
    intro handle hmem
    rcases handle with ⟨own, drawable, _ | surface⟩ | _ <;> simp [Handle.releaseCalls,
      Handle.surface?] at hmem
  -- only the moves in which a handle goes destroy a window or release a surface
  cases hm with
  | @aside c hc =>
    refine Or.inl ⟨hh, fun hmem => ?_⟩
    rw [← List.mem_singleton.mp hmem] at hc
    exact hc
  | refused attributes e => exact Or.inl ⟨hh, by simp⟩
  | @created attributes own hid =>
    exact Or.inl ⟨hh.congr (b.registry.handle_insert_of_ne own (Nat.ne_of_lt hlt)), by simp⟩
  | @replaced attributes own old hid =>
    have hold := hb.handle_insert_old hid
    by_cases ho : h = old
    · rw [hold, ← ho, hrelease]
      exact Or.inr ⟨[.create attributes (.ok own)], [], rfl, by simp⟩
    · refine Or.inl ⟨hh.congr ?_, ?_⟩
      · rw [Registry.handle_tombstone_of_ne _ ho,
          b.registry.handle_insert_of_ne own (Nat.ne_of_lt hlt)]
      · rw [List.mem_cons, not_or]
        exact ⟨by simp, hdestroy _⟩
  | updated hid change answer => exact Or.inl ⟨hh, by simp⟩
  | queried hid q answer => exact Or.inl ⟨hh, by simp⟩
  | undrawn ho e => exact Or.inl ⟨hh, by simp⟩
  | @drawn o own ho drawable =>
    have hne := hnone o (by rw [ho, Handle.surface?])
    exact Or.inl ⟨hh.congr (b.registry.handle_setHandle_of_ne hne _), by simp⟩
  | unwrapped ho he => exact Or.inl ⟨hh, by simp⟩
  | @wrapped o own drawable ho value hvalue =>
    have hne := hnone o (by rw [ho, Handle.surface?])
    exact Or.inl ⟨hh.congr (b.registry.handle_setHandle_of_ne hne _), by simp⟩
  | @destroyed o own hid =>
    by_cases ho : h = o
    · rw [← ho, hrelease]
      exact Or.inr ⟨[], [.destroy own], rfl, List.not_mem_nil⟩
    · refine Or.inl ⟨hh.congr (Registry.handle_tombstone_of_ne _ ho), ?_⟩
      rw [List.mem_append, not_or]
      refine ⟨hdestroy _, fun hmem => ho ?_⟩
      -- two live handles do not share an identifier
      have heq : id = own := by simpa using hmem
      exact hb.eq_of_id? hh.id? (heq ▸ hid)
  | closed => exact Or.inl ⟨hh, by simp⟩

theorem Moves.heldOrReleased (hm : Moves b calls notes b') (hb : b.registry.Sound)
    {h : HandleRef} {id : WindowId} {n : Nat} (hh : b.registry.Holds h id n) :
    b'.registry.HeldOrReleased h id n calls := by
  -- the surface stays where it is until the move that releases it, and no move is needed after
  induction hm with
  | nil => exact Or.inl ⟨hh, List.not_mem_nil⟩
  | cons first _ ih =>
    exact (first.heldOrReleased hb hh).append fun hholds => ih (first.sound hb) hholds

/-- While a window holds a surface, the surface is released before the window is destroyed. -/
theorem Moves.releasedFirst (hm : Moves b calls notes b') (hb : b.registry.Sound)
    {h : HandleRef} {id : WindowId} {n : Nat} (hh : b.registry.Holds h id n) :
    ReleasedFirst n id calls := (hm.heldOrReleased hb hh).releasedFirst

/-! ## Asking for a surface -/

/-- Whether a call is one of those that asking for a surface can make. -/
def Call.IsBinding : Call → Prop
  | .drawable .. | .wrap .. => True
  | _ => False

theorem Requested.isBinding {before after : Handle S} {calls : List Call}
    {answer : Except BridgeError (BoundSurface S)} (h : Requested before calls answer after) :
    ∀ c ∈ calls, c.IsBinding := by
  cases h with
  | destroyed => simp
  | bound => simp
  | undrawn => simp [Call.IsBinding]
  | unwrapped hdrawn => cases hdrawn <;> simp [Call.IsBinding]
  | wrapped hdrawn => cases hdrawn <;> simp [Call.IsBinding]

namespace Bridge

variable {N W : Type} [WindowManager N W]

/-- Asking for the surface of a window neither releases nor destroys anything. -/
theorem isBinding_gpuSurface (h : HandleRef) (b : Bridge N G S) :
    ∀ c ∈ Entry.calls ((gpuSurface h).run b).journal, c.IsBinding :=
  (requested_gpuSurface h b).isBinding

/-! ## The end of a bridge -/

/-- Whether it can be destroyed or not, a leftover window comes to what destroying it comes to. -/
theorem state_destroyLeftover (h : HandleRef) (b : Bridge N G S) :
    ((destroyLeftover h).run b).state = ((destroyWindow h).run b).state := by
  unfold destroyLeftover
  rw [Step.run_bind]
  cases ((destroyWindow h).run b).answer <;> rfl

/-- Destroying a window leaves the handles of the others. -/
theorem handle_destroyWindow_of_ne {h o : HandleRef} (hne : o ≠ h) (b : Bridge N G S) :
    ((destroyWindow h).run b).state.registry.handle o = b.registry.handle o :=
  same_destroyWindow (f := fun r _ => r.handle o)
    (fun r state _ => r.handle_setHandle_of_ne hne state) (fun _ _ _ => rfl) b

theorem handle_destroyWindow_of_destroyed (h : HandleRef) {o : HandleRef} {b : Bridge N G S}
    (ho : b.registry.handle o = .destroyed) :
    ((destroyWindow h).run b).state.registry.handle o = .destroyed := by
  by_cases hne : o = h
  · rw [hne]
    exact handle_destroyWindow h b
  · rw [handle_destroyWindow_of_ne hne, ho]

/-- Destroying windows one after the other destroys their handles and brings none back. -/
theorem handle_forEach_destroyLeftover (list : List HandleRef) (b : Bridge N G S) {h : HandleRef}
    (hh : h ∈ list ∨ b.registry.handle h = .destroyed) :
    ((Step.forEach destroyLeftover list).run b).state.registry.handle h = .destroyed := by
  induction list generalizing b with
  | nil => exact hh.resolve_left List.not_mem_nil
  | cons o rest ih =>
    rw [Step.forEach_cons, Step.run_bind, state_destroyLeftover]
    refine ih _ ?_
    rcases hh with hmem | hd
    · rcases List.mem_cons.mp hmem with rfl | hrest
      · exact Or.inr (handle_destroyWindow h b)
      · exact Or.inl hrest
    · exact Or.inr (handle_destroyWindow_of_destroyed o hd)

/-- A bridge is closed by destroying what is left and then letting its backends go. -/
theorem run_close (b : Bridge N G S) :
    let left := (Step.forEach destroyLeftover b.registry.windows).run b
    (close.run b).state =
        { left.state with
          events := { left.state.events with
            manager := (WindowManager.close.run left.state.events.manager).state }
          graphics := ((GraphicsBackend.close (G := G)).run left.state.graphics).state } ∧
      Entry.calls (close.run b).journal =
        Entry.calls left.journal ++ [.closeManager, .closeGraphics] := by
  intro left
  have hend (b' : Bridge N G S) : Entry.calls ((do
      askManager WindowManager.close fun _ => .closeManager
      askGraphics GraphicsBackend.close fun _ => .closeGraphics :
        Step Entry (Bridge N G S) Unit).run b').journal = [.closeManager, .closeGraphics] := by
    simp only [Step.run_bind, run_askManager, run_askGraphics, Entry.calls_append,
      Entry.calls_map_note, List.nil_append]
    rfl
  rw [close, windows, Step.run_bind, Step.run_gets]
  cases hempty : b.registry.windows.isEmpty with
  | true =>
    have hleft : left = ⟨(), b, []⟩ := by
      simp only [left, List.isEmpty_iff.mp hempty]
      rfl
    simp only [hleft, if_true]
    exact ⟨rfl, hend b⟩
  | false =>
    simp only [Bool.false_eq_true, if_false]
    refine ⟨rfl, ?_⟩
    simp only [Step.run_bind, run_say, Entry.calls_append, Entry.calls_cons_note, Entry.calls_nil,
      List.nil_append]
    rw [← hend left.state, Step.run_bind, Entry.calls_append]

/-- A bridge that is closed leaves no handle live. -/
theorem handle_close {b : Bridge N G S} (hb : b.registry.Sound) (h : HandleRef) :
    (close.run b).state.registry.handle h = .destroyed := by
  have hh : h ∈ b.registry.windows ∨ b.registry.handle h = .destroyed := by
    rw [hb.windows_perm.mem_iff, Registry.mem_liveHandles]
    rcases b.registry.handle h with ⟨id, drawable, surface⟩ | _
    · exact Or.inl ⟨id, rfl⟩
    · exact Or.inr rfl
  rw [(run_close b).1]
  exact handle_forEach_destroyLeftover b.registry.windows b hh

end Bridge

/-! ## Histories -/

namespace Session

variable {N W X : Type} [WindowManager N W] [Surroundings X N]

variable (manager : N) (graphics : G) (settings : Settings) (actions : List (Action X))

/-- The ledger is in order after every history. -/
theorem ledger_history :
    let past : Outcome Entry (Session N G S W) (List (Answer S)) :=
      history manager graphics settings actions
    Ledger past.state.1.books (Entry.calls past.journal) := by
  intro past
  have hmoves := moves_history manager graphics settings actions (W := W)
  exact hmoves.ledger (ledger_empty graphics)

/-- The registry is sound after every history. -/
theorem sound_history :
    let past : Outcome Entry (Session N G S W) (List (Answer S)) :=
      history manager graphics settings actions
    past.state.1.registry.Sound :=
  (ledger_history (W := W) manager graphics settings actions).sound

omit [Surroundings X N] in
/-- The ledger stays in order to the end of a session, and nothing is bound there. -/
theorem ledger_finish {session : Session N G S W} {calls : List Call}
    (h : Ledger session.1.books calls) :
    let ending := finish.run session
    Ledger ending.state.1.books (calls ++ Entry.calls ending.journal) ∧
      ∀ h n, ¬ ending.state.1.registry.Binds h n := by
  intro ending
  refine ⟨(isMoves_finish session).ledger h, fun o n hn => ?_⟩
  have hleft := (isMoves_leaveAll session).ledger h
  have hgone : ending.state.1.registry.handle o = .destroyed :=
    Bridge.handle_close hleft.sound o
  rw [Registry.Binds, hgone] at hn
  cases hn

/-- The calls of a request for a surface. -/
theorem calls_perform_gpuSurface (o : HandleRef) (session : Session N G S W) :
    Entry.calls ((perform (.gpuSurface o : Action X)).run session).journal =
      Entry.calls ((Bridge.gpuSurface o).run session.1).journal := by
  rw [perform, onBridge, Step.run_bind, Step.run_pure, List.append_nil]
  rfl

/-- Nothing but a request for the surface of a window makes a surface, and that is bound to the
window afterwards. -/
theorem holds_of_wrapped {session : Session N G S W} {calls : List Call}
    (h : Ledger session.1.books calls) (a : Action X) {n : Nat}
    (hn : n ∈ wrapped (Entry.calls ((perform a).run session).journal)) :
    ∃ o id, a = .gpuSurface o ∧ ((perform a).run session).state.1.registry.Holds o id n := by
  have hafter := (isMoves_perform a session).ledger h
  have hwrapped := hafter.wrapped_eq
  by_cases ha : ∀ o, a ≠ .gpuSurface o
  · have hmade : ((perform a).run session).state.1.books.surfacesMade =
        session.1.books.surfacesMade := keeps_made_perform ha session
    -- no surface was made, so none is among the calls
    rw [wrapped_append, h.wrapped_eq, hmade] at hwrapped
    rw [List.append_right_eq_self.mp hwrapped] at hn
    cases hn
  · simp only [ne_eq, not_forall, not_not] at ha
    obtain ⟨o, rfl⟩ := ha
    have hnodup : (wrapped calls ++ wrapped
        (Entry.calls ((perform (.gpuSurface o : Action X)).run session).journal)).Nodup := by
      rw [← wrapped_append, hwrapped]
      exact List.nodup_range
    have hnew : n ∉ wrapped calls := fun hold => List.disjoint_of_nodup_append hnodup hold hn
    have hreleased : n ∉ released (calls ++
        Entry.calls ((perform (.gpuSurface o : Action X)).run session).journal) := by
      rw [released_append, List.mem_append, not_or]
      refine ⟨fun hold => hnew (h.wrappedFirst.released_subset hold), fun hmem => ?_⟩
      rw [mem_released, calls_perform_gpuSurface] at hmem
      exact Bridge.isBinding_gpuSurface o session.1 _ hmem
    have hlt := hafter.mem_wrapped.mp (by rw [wrapped_append]; exact List.mem_append_right _ hn)
    obtain ⟨other, hbinds⟩ := (hafter.bound_iff n).mpr ⟨hlt, hreleased⟩
    -- the other handles are as before, when the surface was not there
    have hother : other = o := by
      by_contra hne
      have hsame :
          ((perform (.gpuSurface o : Action X)).run session).state.1.registry.handle other =
            session.1.registry.handle other :=
        Bridge.same_gpuSurface (f := fun r _ => r.handle other)
          (fun r state _ => r.handle_setHandle_of_ne hne state) (fun _ _ _ => rfl) session.1
      have hold := (Registry.binds_congr hsame n).mp hbinds
      exact hnew (h.mem_wrapped.mpr (h.lt_of_binds hold))
    obtain ⟨id, hholds⟩ := hbinds.holds
    exact ⟨o, id, rfl, hother ▸ hholds⟩

end Session

end WindowSystem
