/-
# The lifetimes of identifiers

A window manager hands identifiers out and sees them again in calls. An identifier is open
(`IsOpen`) after a list of calls when it was handed out and no window was destroyed under it since.
A bridge names open identifiers only, whatever its backends answer, and its end destroys what is
open, each window once (`Session.calls_name_open_windows`).
-/
import WindowSystem.Proofs.Bridge.Ledger

namespace WindowSystem

/-! ## Identifiers named in calls -/

/-- The identifier that a call asks the window manager about. -/
def Call.target? : Call → Option WindowId
  | .destroy id | .drawable id _ | .update id _ _ | .query id _ _ => some id
  | _ => none

/-- The identifier under which a call destroyed a window. -/
def Call.destroyedId? : Call → Option WindowId
  | .destroy id => some id
  | _ => none

/-- The identifiers under which windows were destroyed, in order. -/
def destroyedIds (calls : List Call) : List WindowId := calls.filterMap Call.destroyedId?

@[simp]
theorem destroyedIds_append (a b : List Call) :
    destroyedIds (a ++ b) = destroyedIds a ++ destroyedIds b :=
  List.filterMap_append

@[simp]
theorem destroyedIds_cons_destroy (id : WindowId) (rest : List Call) :
    destroyedIds (.destroy id :: rest) = id :: destroyedIds rest := rfl

theorem mem_destroyedIds {calls : List Call} {id : WindowId} :
    id ∈ destroyedIds calls ↔ Call.destroy id ∈ calls := by
  rw [destroyedIds, List.mem_filterMap]
  constructor
  · rintro ⟨c, hc, hid⟩
    cases c with
    | destroy other => rwa [← Option.some.inj hid]
    | _ => cases hid
  · intro hc
    exact ⟨_, hc, rfl⟩

theorem mem_destroyedIds_singleton {c : Call} {id : WindowId} :
    id ∈ destroyedIds [c] ↔ c.destroyedId? = some id := by
  simp [destroyedIds]

theorem mem_mintedIds {calls : List Call} {id : WindowId} :
    id ∈ mintedIds calls ↔ ∃ attributes, Call.create attributes (.ok id) ∈ calls := by
  rw [mintedIds, List.mem_filterMap]
  constructor
  · rintro ⟨c, hc, hid⟩
    rcases c with ⟨attributes, e | other⟩ | _
    · cases hid
    · rw [← Option.some.inj hid]
      exact ⟨attributes, hc⟩
    all_goals cases hid
  · rintro ⟨attributes, hc⟩
    exact ⟨_, hc, rfl⟩

/-- An identifier that was handed out was handed out a last time. -/
theorem exists_last_mint {calls : List Call} {id : WindowId} (h : id ∈ mintedIds calls) :
    ∃ before attributes since, calls = before ++ .create attributes (.ok id) :: since ∧
      id ∉ mintedIds since := by
  induction calls with
  | nil => exact absurd h List.not_mem_nil
  | cons c rest ih =>
    by_cases hrest : id ∈ mintedIds rest
    · obtain ⟨before, attributes, since, rfl, hsince⟩ := ih hrest
      exact ⟨c :: before, attributes, since, rfl, hsince⟩
    · obtain ⟨attributes, hmem⟩ := mem_mintedIds.mp h
      have hnot : Call.create attributes (.ok id) ∉ rest := fun hin =>
        hrest (mem_mintedIds.mpr ⟨attributes, hin⟩)
      have hc := (List.mem_cons.mp hmem).resolve_right hnot
      exact ⟨[], attributes, rest, by rw [hc, List.nil_append], hrest⟩

/-! ## Open identifiers -/

/-- An identifier is open after some calls: a window was created under it, and none was destroyed
under it since. -/
def IsOpen (calls : List Call) (id : WindowId) : Prop :=
  ∃ before attributes since,
    calls = before ++ .create attributes (.ok id) :: since ∧ id ∉ destroyedIds since

theorem not_isOpen_nil (id : WindowId) : ¬ IsOpen [] id := by
  rintro ⟨before, attributes, since, heq, -⟩
  simp at heq

/-- One more call opens the identifier it hands out and ends the one under which it destroys a
window. -/
theorem isOpen_concat {calls : List Call} {c : Call} {id : WindowId} :
    IsOpen (calls ++ [c]) id ↔
      c.mintedId? = some id ∨ (IsOpen calls id ∧ c.destroyedId? ≠ some id) := by
  constructor
  · rintro ⟨before, attributes, since, heq, hsince⟩
    rcases List.eq_nil_or_concat since with rfl | ⟨init, last, rfl⟩
    · -- the last call is the creation
      obtain ⟨-, hlast⟩ := List.append_inj' heq rfl
      rw [List.cons.inj hlast |>.1]
      exact Or.inl rfl
    · rw [List.concat_eq_append, ← List.cons_append, ← List.append_assoc] at heq
      obtain ⟨hcalls, hlast⟩ := List.append_inj' heq rfl
      have hc : c = last := (List.cons.inj hlast).1
      rw [List.concat_eq_append, destroyedIds_append, List.mem_append, not_or,
        mem_destroyedIds_singleton, ← hc] at hsince
      exact Or.inr ⟨⟨before, attributes, init, hcalls, hsince.1⟩, hsince.2⟩
  · rintro (hminted | ⟨⟨before, attributes, since, rfl, hsince⟩, hc⟩)
    · rcases c with ⟨attributes, e | other⟩ | _
      · cases hminted
      · have hother : other = id := Option.some.inj hminted
        rw [hother]
        exact ⟨calls, attributes, [], rfl, List.not_mem_nil⟩
      all_goals cases hminted
    · refine ⟨before, attributes, since ++ [c], by simp, ?_⟩
      rw [destroyedIds_append, List.mem_append, not_or, mem_destroyedIds_singleton]
      exact ⟨hsince, hc⟩

/-- What is open after more calls was handed out in them or was open before them. -/
theorem IsOpen.minted_or_before {calls more : List Call} {id : WindowId}
    (h : IsOpen (calls ++ more) id) : id ∈ mintedIds more ∨ IsOpen calls id := by
  obtain ⟨before, attributes, since, heq, hsince⟩ := h
  rcases append_eq_split heq with ⟨tail, rfl⟩ | ⟨mid, -, rfl⟩
  · have hsplit : since = tail ++ more := by simpa using heq.symm
    rw [hsplit, destroyedIds_append, List.mem_append, not_or] at hsince
    exact Or.inr ⟨before, attributes, tail, rfl, hsince.1⟩
  · refine Or.inl (mem_mintedIds.mpr ⟨attributes, ?_⟩)
    simp

/-- An identifier stays open while no window is destroyed under it. -/
theorem IsOpen.append {calls more : List Call} {id : WindowId} (h : IsOpen calls id)
    (hmore : id ∉ destroyedIds more) : IsOpen (calls ++ more) id := by
  obtain ⟨before, attributes, since, rfl, hsince⟩ := h
  refine ⟨before, attributes, since ++ more, by simp, ?_⟩
  rw [destroyedIds_append, List.mem_append, not_or]
  exact ⟨hsince, hmore⟩

/-- After a window was destroyed its identifier is open only if it was handed out again. -/
theorem IsOpen.minted_of_destroyed {calls more : List Call} {id : WindowId}
    (h : IsOpen (calls ++ .destroy id :: more) id) : id ∈ mintedIds more := by
  rw [List.append_cons] at h
  refine h.minted_or_before.resolve_right fun hopen => ?_
  rcases isOpen_concat.mp hopen with hminted | ⟨-, hne⟩
  · cases hminted
  · exact hne rfl

/-! ## Calls that name open identifiers -/

/-- Every call names an identifier that is open after the calls before it. -/
def Addressed (calls : List Call) : Prop :=
  ∀ before c rest id, calls = before ++ c :: rest → c.target? = some id → IsOpen before id

theorem addressed_nil : Addressed [] := by
  intro before c rest id heq
  simp at heq

theorem Addressed.concat {calls : List Call} (h : Addressed calls) {c : Call}
    (hc : ∀ id, c.target? = some id → IsOpen calls id) : Addressed (calls ++ [c]) := by
  intro before d rest id heq hd
  rcases append_eq_split heq with ⟨tail, hcalls⟩ | ⟨mid, hbefore, hmid⟩
  · exact h before d tail id hcalls hd
  · obtain ⟨rfl, hcons⟩ := List.append_eq_singleton_iff.mp hmid.symm |>.resolve_right (by simp)
    rw [List.append_nil] at hbefore
    rw [hbefore]
    exact hc id ((List.cons.inj hcons).1 ▸ hd)

/-- In a stretch of calls in which an identifier is not handed out, at most one window is destroyed
under it. -/
theorem Addressed.count_destroyedIds_le {calls before stretch rest : List Call} {id : WindowId}
    (h : Addressed calls) (heq : calls = before ++ stretch ++ rest) (hid : id ∉ mintedIds stretch) :
    (destroyedIds stretch).count id ≤ 1 := by
  by_cases hmem : id ∈ destroyedIds stretch
  · obtain ⟨first, last, rfl, hfirst⟩ := List.eq_append_cons_of_mem (mem_destroyedIds.mp hmem)
    rw [mintedIds_append, List.mem_append, not_or] at hid
    -- a second destruction would find the identifier handed out again
    have hlast : id ∉ destroyedIds last := by
      intro hagain
      obtain ⟨mid, tail, rfl⟩ := List.append_of_mem (mem_destroyedIds.mp hagain)
      have hopen : IsOpen (before ++ first ++ .destroy id :: mid) id :=
        h _ (.destroy id) (tail ++ rest) id (by simp [heq]) rfl
      have hminted := hopen.minted_of_destroyed
      refine hid.2 ?_
      rw [← List.singleton_append, mintedIds_append, mintedIds_append]
      exact List.mem_append_right _ (List.mem_append_left _ hminted)
    have hnone : id ∉ destroyedIds first := fun hf => hfirst (mem_destroyedIds.mp hf)
    have hcount : (destroyedIds (first ++ .destroy id :: last)).count id = 1 := by
      simp [List.count_append, List.count_eq_zero_of_not_mem hnone,
        List.count_eq_zero_of_not_mem hlast]
    exact Nat.le_of_eq hcount
  · rw [List.count_eq_zero_of_not_mem hmem]
    exact Nat.zero_le 1

/-! ## Moves and lifetimes -/

section Moves

variable {G S : Type} {b b' : Books G S} {calls past : List Call} {notes : List Note}

/-- The identifiers that are entered are those that are open after some calls, which named open
identifiers only. -/
structure Lifetimes (b : Books G S) (calls : List Call) : Prop where
  sound : b.registry.Sound
  isOpen_iff : ∀ id, IsOpen calls id ↔ (b.registry.resolve id).isSome
  addressed : Addressed calls

theorem lifetimes_empty (graphics : G) : Lifetimes ({ graphics } : Books G S) [] where
  sound := Registry.sound_empty
  isOpen_iff id := by
    refine ⟨fun h => absurd h (not_isOpen_nil id), fun h => ?_⟩
    simp [Registry.resolve] at h
  addressed := addressed_nil

namespace Lifetimes

/-- A live handle holds an open identifier. -/
theorem isOpen_of_id? (hb : Lifetimes b past) {h : HandleRef} {id : WindowId}
    (hid : (b.registry.handle h).id? = some id) : IsOpen past id := by
  rw [hb.isOpen_iff, (hb.sound.resolve_iff id h).mpr hid]
  rfl

/-- One more call, which names open identifiers and is followed in the registry. -/
theorem call (hb : Lifetimes b past) (hsound : b'.registry.Sound) {c : Call}
    (htarget : ∀ id, c.target? = some id → IsOpen past id)
    (hentered : ∀ id, (b'.registry.resolve id).isSome ↔
      c.mintedId? = some id ∨ ((b.registry.resolve id).isSome ∧ c.destroyedId? ≠ some id)) :
    Lifetimes b' (past ++ [c]) where
  sound := hsound
  isOpen_iff id := by rw [isOpen_concat, hentered, hb.isOpen_iff]
  addressed := hb.addressed.concat htarget

/-- One more call, which neither opens nor ends an identifier. -/
theorem quiet_call (hb : Lifetimes b past) (hsound : b'.registry.Sound) {c : Call}
    (htarget : ∀ id, c.target? = some id → IsOpen past id)
    (hminted : c.mintedId? = none) (hdestroyed : c.destroyedId? = none)
    (hentered : ∀ id, b'.registry.resolve id = b.registry.resolve id) :
    Lifetimes b' (past ++ [c]) := by
  refine hb.call hsound htarget fun id => ?_
  rw [hentered, hminted, hdestroyed]
  simp

/-- Releasing a surface neither opens nor ends an identifier. -/
theorem release (hb : Lifetimes b past) (h : Handle S) : Lifetimes b (past ++ h.releaseCalls) := by
  rw [Handle.releaseCalls]
  cases h.surface? with
  | none => simpa using hb
  | some surface =>
    exact hb.quiet_call hb.sound (fun id hid => by cases hid) rfl rfl fun _ => rfl

end Lifetimes

variable [GraphicsBackend G S]

/-- Every move names open identifiers only. -/
theorem Move.lifetimes (h : Move b calls notes b') (hb : Lifetimes b past) :
    Lifetimes b' (past ++ calls) := by
  have hsound := h.sound hb.sound
  cases h with
  | @aside c hc =>
    have hnone : c.target? = none ∧ c.mintedId? = none ∧ c.destroyedId? = none := by
      cases c with
      | setDeviceFilter filter => exact ⟨rfl, rfl, rfl⟩
      | poll answer => exact ⟨rfl, rfl, rfl⟩
      | leave => exact ⟨rfl, rfl, rfl⟩
      | closeManager => exact ⟨rfl, rfl, rfl⟩
      | _ => exact hc.elim
    refine hb.quiet_call hsound (fun id hid => ?_) hnone.2.1 hnone.2.2 fun _ => rfl
    rw [hnone.1] at hid
    cases hid
  | refused attributes e =>
    exact hb.quiet_call hsound (fun id hid => by cases hid) rfl rfl fun _ => rfl
  | @created attributes id hid =>
    refine hb.call hsound (fun other hother => by cases hother) fun other => ?_
    by_cases hother : other = id
    · rw [hother, Registry.resolve_insert_self]
      simp [Call.mintedId?]
    · rw [b.registry.resolve_insert_of_ne hother]
      simp [Call.mintedId?, Call.destroyedId?, Ne.symm hother]
  | @replaced attributes id old hid =>
    -- the identifier is open before and after
    rw [List.append_cons]
    refine Lifetimes.release ?_ _
    refine hb.call hsound (fun other hother => by cases hother) fun other => ?_
    rw [Registry.resolve_tombstone]
    by_cases hother : other = id
    · rw [hother, Registry.resolve_insert_self]
      simp [Call.mintedId?]
    · rw [b.registry.resolve_insert_of_ne hother]
      simp [Call.mintedId?, Call.destroyedId?, Ne.symm hother]
  | @updated h id hid change answer =>
    refine hb.quiet_call hsound (fun other hother => ?_) rfl rfl fun _ => rfl
    rw [← Option.some.inj hother]
    exact hb.isOpen_of_id? hid
  | @queried h id hid q answer =>
    refine hb.quiet_call hsound (fun other hother => ?_) rfl rfl fun _ => rfl
    rw [← Option.some.inj hother]
    exact hb.isOpen_of_id? hid
  | @undrawn h id hh e =>
    refine hb.quiet_call hsound (fun other hother => ?_) rfl rfl fun _ => rfl
    rw [← Option.some.inj hother]
    exact hb.isOpen_of_id? (congrArg Handle.id? hh)
  | @drawn h id hh drawable =>
    refine hb.quiet_call hsound (fun other hother => ?_) rfl rfl fun _ => rfl
    rw [← Option.some.inj hother]
    exact hb.isOpen_of_id? (congrArg Handle.id? hh)
  | unwrapped hh he =>
    exact hb.quiet_call hsound (fun id hid => by cases hid) rfl rfl fun _ => rfl
  | wrapped hh hvalue =>
    exact hb.quiet_call hsound (fun id hid => by cases hid) rfl rfl fun _ => rfl
  | @destroyed h id hid =>
    rw [← List.append_assoc]
    refine (hb.release _).call hsound (fun other hother => ?_) fun other => ?_
    · rw [← Option.some.inj hother]
      exact (hb.release _).isOpen_of_id? hid
    · rw [Registry.resolve_tombstone]
      by_cases hother : other = id
      · rw [hother, Registry.resolve_remove_self]
        simp [Call.mintedId?, Call.destroyedId?]
      · rw [Registry.resolve_remove_of_ne hother]
        simp [Call.mintedId?, Call.destroyedId?, Ne.symm hother]
  | closed => exact hb.quiet_call hsound (fun id hid => by cases hid) rfl rfl fun _ => rfl

theorem Moves.lifetimes (h : Moves b calls notes b') (hb : Lifetimes b past) :
    Lifetimes b' (past ++ calls) := by
  induction h generalizing past with
  | nil => rwa [List.append_nil]
  | cons first _ ih =>
    rw [← List.append_assoc]
    exact ih (first.lifetimes hb)

end Moves

/-! ## The end makes no window -/

namespace Bridge

variable {N W G S : Type} [WindowManager N W] [GraphicsBackend G S]

/-- A bridge that is closed makes no handle. -/
theorem length_close (b : Bridge N G S) :
    (close.run b).state.registry.handles.length = b.registry.handles.length := by
  have hQ := isFrame_same (N := N) (G := G) (S := S) fun r _ => r.handles.length
  have hleftover : ∀ h, Respects (Same fun r _ => r.handles.length)
      (destroyLeftover h : Step Entry (Bridge N G S) Unit) := by
    intro h b
    rw [Same, state_destroyLeftover]
    exact same_destroyWindow (f := fun r _ => r.handles.length)
      (fun r state _ => r.length_setHandle h state) (fun _ _ _ => rfl) b
  have hall : ∀ list, Respects (Same fun r _ => r.handles.length)
      (Step.forEach destroyLeftover list : Step Entry (Bridge N G S) Unit) := by
    intro list
    induction list with
    | nil => exact hQ.pure ()
    | cons h rest ih => exact hQ.bind (hleftover h) fun _ => ih
  have hmanager : Respects (Same fun r _ => r.handles.length)
      (askManager WindowManager.close fun _ => .closeManager : Step Entry (Bridge N G S) Unit) :=
    fun _ => rfl
  have hend := hQ.bind hmanager fun _ =>
    hQ.askGraphics (GraphicsBackend.close (G := G)) fun _ => .closeGraphics
  have hclose : Respects (Same fun r _ => r.handles.length)
      (close : Step Entry (Bridge N G S) Unit) := by
    refine hQ.bind hQ.refl fun remaining => ?_
    by_cases hempty : remaining.isEmpty = true
    · rw [if_pos hempty]
      exact hQ.bind (hQ.pure ()) fun _ => hend
    · rw [if_neg hempty]
      exact hQ.bind (hQ.say _ _) fun _ => hQ.bind (hall remaining) fun _ => hend
  exact hclose b

end Bridge

/-! ## Histories -/

namespace Session

variable {N W G S X : Type} [WindowManager N W] [GraphicsBackend G S]

/-- The end of a session makes no handle. -/
theorem length_finish (session : Session N G S W) :
    (finish.run session).state.1.registry.handles.length =
      session.1.registry.handles.length := by
  have hleave : ((Consumers.leaveAll source).run session).state.1.registry.handles.length =
      session.1.registry.handles.length := keeps_leaveAll (fun r _ => r.handles.length) session
  exact (Bridge.length_close _).trans hleave

variable [Surroundings X N] (manager : N) (graphics : G) (settings : Settings)
  (actions : List (Action X))

theorem lifetimes_history :
    let past : Outcome Entry (Session N G S W) (List (Answer S)) :=
      history manager graphics settings actions
    Lifetimes past.state.1.books (Entry.calls past.journal) := by
  intro past
  have hmoves := moves_history manager graphics settings actions (W := W)
  exact hmoves.lifetimes (lifetimes_empty graphics)

omit [Surroundings X N] in
/-- At the end of a session no window is created, and no identifier is left open. -/
theorem lifetimes_finish {session : Session N G S W} {ids : List WindowId} {calls : List Call}
    (hminted : session.1.registry.Minted ids) (h : Lifetimes session.1.books calls) :
    let ending := finish.run session
    Lifetimes ending.state.1.books (calls ++ Entry.calls ending.journal) ∧
      mintedIds (Entry.calls ending.journal) = [] ∧
      ∀ id, ¬ IsOpen (calls ++ Entry.calls ending.journal) id := by
  intro ending
  have hafter := (isMoves_finish session).lifetimes h
  refine ⟨hafter, ?_, fun id hopen => ?_⟩
  · -- there are as many handles as identifiers handed out
    have hlength : ending.state.1.registry.handles.length =
        (ids ++ mintedIds (Entry.calls ending.journal)).length :=
      ((isMoves_finish session).minted hminted).length_eq
    have hsame : ending.state.1.registry.handles.length = ids.length := by
      rw [← hminted.length_eq]
      exact length_finish session
    rw [List.length_append] at hlength
    exact List.eq_nil_of_length_eq_zero (by omega)
  · rw [hafter.isOpen_iff, Option.isSome_iff_exists] at hopen
    obtain ⟨o, ho⟩ := hopen
    have hlive := (hafter.sound.resolve_iff id o).mp ho
    have hgone : ending.state.1.registry.handle o = .destroyed :=
      Bridge.handle_close ((isMoves_leaveAll session).lifetimes h).sound o
    have hid : (ending.state.1.registry.handle o).id? = some id := hlive
    rw [hgone] at hid
    cases hid

/-- A window manager sees only identifiers that are open: over every history and to the end of the
session, whatever the backends answer, every call that names an identifier names one that was
handed out and under which no window was destroyed since. So at most one window is destroyed under
an identifier before it is handed out again. The end of the session destroys one window under every
identifier that is open then, and none under any other, so that under every identifier ever handed
out one window was destroyed since the last time. -/
theorem calls_name_open_windows :
    let past : Outcome Entry (Session N G S W) (List (Answer S)) :=
      history manager graphics settings actions
    let calls := Entry.calls past.journal
    let last := Entry.calls (finish.run past.state).journal
    let all := calls ++ last
    (∀ before c rest id, all = before ++ c :: rest → c.target? = some id → IsOpen before id) ∧
      (∀ before stretch rest id, all = before ++ stretch ++ rest → id ∉ mintedIds stretch →
        (destroyedIds stretch).count id ≤ 1) ∧
      (∀ id, IsOpen calls id → (destroyedIds last).count id = 1) ∧
      (∀ id, ¬ IsOpen calls id → (destroyedIds last).count id = 0) ∧
      ∀ id ∈ mintedIds all, ∃ before attributes since,
        all = before ++ .create attributes (.ok id) :: since ∧ id ∉ mintedIds since ∧
          (destroyedIds since).count id = 1 := by
  intro past calls last all
  have hpast : Lifetimes past.state.1.books calls :=
    lifetimes_history manager graphics settings actions
  obtain ⟨hall, hnone, hclosed⟩ :=
    lifetimes_finish (minted_history manager graphics settings actions (W := W)) hpast
  have hatMost : ∀ before stretch rest id, all = before ++ stretch ++ rest →
      id ∉ mintedIds stretch → (destroyedIds stretch).count id ≤ 1 :=
    fun _ _ _ _ heq hid => hall.addressed.count_destroyedIds_le heq hid
  have hlast : ∀ id, (destroyedIds last).count id ≤ 1 := by
    intro id
    refine hatMost calls last [] id (List.append_nil _).symm ?_
    rw [hnone]
    exact List.not_mem_nil
  -- what is not destroyed stays open, and nothing is open in the end
  refine ⟨hall.addressed, hatMost, fun id hopen => ?_, fun id hopen => ?_, fun id hid => ?_⟩
  · have hmem : id ∈ destroyedIds last := by
      by_contra hnot
      exact hclosed id (hopen.append hnot)
    have hpos := List.count_pos_iff.mpr hmem
    have hle := hlast id
    omega
  · rw [List.count_eq_zero]
    intro hmem
    obtain ⟨first, rest, hsplit⟩ := List.append_of_mem (mem_destroyedIds.mp hmem)
    have hbefore : IsOpen (calls ++ first) id :=
      hall.addressed _ (.destroy id) rest id (by rw [List.append_assoc, ← hsplit]) rfl
    refine hopen (hbefore.minted_or_before.resolve_left fun hminted => ?_)
    have hin : id ∈ mintedIds last := by
      rw [hsplit, mintedIds_append]
      exact List.mem_append_left _ hminted
    rw [hnone] at hin
    exact absurd hin List.not_mem_nil
  · obtain ⟨before, attributes, since, heq, hsince⟩ := exists_last_mint hid
    refine ⟨before, attributes, since, heq, hsince, ?_⟩
    have hmem : id ∈ destroyedIds since := by
      by_contra hnot
      exact hclosed id ⟨before, attributes, since, heq, hnot⟩
    have hpos := List.count_pos_iff.mpr hmem
    have hle : (destroyedIds since).count id ≤ 1 :=
      hatMost (before ++ [.create attributes (.ok id)]) since [] id (by simp [heq]) hsince
    omega

end Session

end WindowSystem
