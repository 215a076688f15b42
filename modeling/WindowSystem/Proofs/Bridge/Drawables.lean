/-
# Drawables are asked for once

A window manager may refuse to hand the drawable of a window out twice. A bridge keeps the drawable
on the handle from the first time on, also when the graphics backend makes nothing of it
(`Drawings`), so that it never asks again while the window lives (`DrawnOnce`).
-/
import WindowSystem.Proofs.Bridge.Lifetimes

namespace WindowSystem

/-- The identifier whose drawable was handed out in a call. -/
def Call.drawnId? : Call → Option WindowId
  | .drawable id (.ok _) => some id
  | _ => none

/-- The drawable of a window was handed out, and the window is still the one that had the
identifier then. -/
def IsDrawn (calls : List Call) (id : WindowId) : Prop :=
  ∃ before drawable since, calls = before ++ .drawable id (.ok drawable) :: since ∧
    id ∉ mintedIds since ∧ id ∉ destroyedIds since

theorem mem_mintedIds_singleton {c : Call} {id : WindowId} :
    id ∈ mintedIds [c] ↔ c.mintedId? = some id := by
  simp [mintedIds]

/-- One more call hands a drawable out, or else leaves those that are out to the windows that stay
what they are. -/
theorem isDrawn_concat {calls : List Call} {c : Call} {id : WindowId} :
    IsDrawn (calls ++ [c]) id ↔ c.drawnId? = some id ∨
      (IsDrawn calls id ∧ c.mintedId? ≠ some id ∧ c.destroyedId? ≠ some id) := by
  constructor
  · rintro ⟨before, drawable, since, heq, hminted, hdestroyed⟩
    rcases List.eq_nil_or_concat since with rfl | ⟨init, last, rfl⟩
    · obtain ⟨-, hlast⟩ := List.append_inj' heq rfl
      rw [List.cons.inj hlast |>.1]
      exact Or.inl rfl
    · rw [List.concat_eq_append, ← List.cons_append, ← List.append_assoc] at heq
      obtain ⟨hcalls, hlast⟩ := List.append_inj' heq rfl
      have hc : c = last := (List.cons.inj hlast).1
      rw [List.concat_eq_append, ← hc] at hminted hdestroyed
      rw [mintedIds_append, List.mem_append, not_or, mem_mintedIds_singleton] at hminted
      rw [destroyedIds_append, List.mem_append, not_or, mem_destroyedIds_singleton] at hdestroyed
      exact Or.inr ⟨⟨before, drawable, init, hcalls, hminted.1, hdestroyed.1⟩,
        hminted.2, hdestroyed.2⟩
  · rintro (hdrawn | ⟨⟨before, drawable, since, rfl, hminted, hdestroyed⟩, hmint, hdestroy⟩)
    · rcases c with _ | _ | ⟨other, e | drawable⟩ | _
      case drawable.ok =>
        have hother : other = id := Option.some.inj hdrawn
        rw [hother]
        exact ⟨calls, drawable, [], rfl, List.not_mem_nil, List.not_mem_nil⟩
      all_goals cases hdrawn
    · refine ⟨before, drawable, since ++ [c], by simp, ?_, ?_⟩
      · rw [mintedIds_append, List.mem_append, not_or, mem_mintedIds_singleton]
        exact ⟨hminted, hmint⟩
      · rw [destroyedIds_append, List.mem_append, not_or, mem_destroyedIds_singleton]
        exact ⟨hdestroyed, hdestroy⟩

/-- A call in which no window comes or goes and no drawable is handed out. -/
structure Call.IsQuiet (c : Call) : Prop where
  mintedId? : c.mintedId? = none
  destroyedId? : c.destroyedId? = none
  drawnId? : c.drawnId? = none

theorem Call.IsQuiet.isOpen_concat {c : Call} (hc : c.IsQuiet) {calls : List Call}
    {id : WindowId} : IsOpen (calls ++ [c]) id ↔ IsOpen calls id := by
  rw [WindowSystem.isOpen_concat, hc.mintedId?, hc.destroyedId?]
  simp

theorem Call.IsQuiet.isDrawn_concat {c : Call} (hc : c.IsQuiet) {calls : List Call}
    {id : WindowId} : IsDrawn (calls ++ [c]) id ↔ IsDrawn calls id := by
  rw [WindowSystem.isDrawn_concat, hc.mintedId?, hc.destroyedId?, hc.drawnId?]
  simp

/-- No drawable is asked for that was handed out. -/
def DrawnOnce (calls : List Call) : Prop :=
  ∀ before id answer rest, calls = before ++ .drawable id answer :: rest → ¬ IsDrawn before id

theorem drawnOnce_nil : DrawnOnce [] := by
  intro before id answer rest heq
  simp at heq

theorem DrawnOnce.concat {calls : List Call} (h : DrawnOnce calls) {c : Call}
    (hc : ∀ id answer, c = .drawable id answer → ¬ IsDrawn calls id) : DrawnOnce (calls ++ [c]) := by
  intro before id answer rest heq
  rcases List.eq_nil_or_concat rest with rfl | ⟨init, last, rfl⟩
  · obtain ⟨rfl, hlast⟩ := List.append_inj' heq rfl
    exact hc id answer (List.cons.inj hlast).1
  · rw [List.concat_eq_append, ← List.cons_append, ← List.append_assoc] at heq
    exact h before id answer init (List.append_inj' heq rfl).1

/-! ## Moves and drawables -/

section Moves

variable {G S : Type} {b b' : Books G S} {calls past : List Call} {notes : List Note}

/-- A live handle keeps a drawable exactly if one was handed out for its window. -/
structure Drawings (b : Books G S) (calls : List Call) : Prop where
  kept_iff : ∀ h id, (b.registry.handle h).id? = some id →
    ((b.registry.handle h).drawable?.isSome ↔ IsDrawn calls id)
  once : DrawnOnce calls

theorem drawings_empty (graphics : G) : Drawings ({ graphics } : Books G S) [] where
  kept_iff h id hid := by simp [Registry.handle, Handle.id?] at hid
  once := drawnOnce_nil

namespace Drawings

/-- One more call, of which the handles keep what they have to. -/
theorem call (hb : Drawings b past) {c : Call}
    (honce : ∀ id answer, c = .drawable id answer → ¬ IsDrawn past id)
    (hkept : ∀ h id, (b'.registry.handle h).id? = some id →
      ((b'.registry.handle h).drawable?.isSome ↔ c.drawnId? = some id ∨
        (IsDrawn past id ∧ c.mintedId? ≠ some id ∧ c.destroyedId? ≠ some id))) :
    Drawings b' (past ++ [c]) where
  kept_iff h id hid := by rw [isDrawn_concat, hkept h id hid]
  once := hb.once.concat honce

/-- One more call that concerns no drawable, and handles that keep theirs. -/
theorem quiet_call (hb : Drawings b past) {c : Call}
    (honce : ∀ id answer, c = .drawable id answer → ¬ IsDrawn past id)
    (hquiet : c.IsQuiet)
    (hid : ∀ h, (b'.registry.handle h).id? = (b.registry.handle h).id?)
    (hdrawable : ∀ h, (b'.registry.handle h).drawable? = (b.registry.handle h).drawable?) :
    Drawings b' (past ++ [c]) where
  kept_iff h id hlive := by
    rw [hid] at hlive
    rw [hdrawable, hb.kept_iff h id hlive, hquiet.isDrawn_concat]
  once := hb.once.concat honce

/-- Releasing a surface concerns no drawable. -/
theorem release (hb : Drawings b past) (h : Handle S) : Drawings b (past ++ h.releaseCalls) := by
  rw [Handle.releaseCalls]
  cases h.surface? with
  | none => simpa using hb
  | some surface =>
    exact hb.quiet_call (fun id answer heq => by cases heq) ⟨rfl, rfl, rfl⟩ (fun _ => rfl)
      fun _ => rfl

/-- A window under a new identifier has no drawable yet. -/
theorem create (hb : Drawings b past) (attributes : WindowAttributes) {id : WindowId}
    (hnew : ∀ h other, h ≠ b.registry.handles.length → (b'.registry.handle h).id? = some other →
      other ≠ id ∧ b'.registry.handle h = b.registry.handle h)
    (hself : b'.registry.handle b.registry.handles.length = .fresh id) :
    Drawings b' (past ++ [.create attributes (.ok id)]) := by
  refine hb.call (fun other answer heq => by cases heq) fun h other hlive => ?_
  by_cases hh : h = b.registry.handles.length
  · rw [hh, hself] at hlive ⊢
    have hother : other = id := (Option.some.inj hlive).symm
    simp [Handle.fresh, Handle.drawable?, Call.drawnId?, Call.mintedId?, hother]
  · obtain ⟨hne, hsame⟩ := hnew h other hh hlive
    rw [hsame] at hlive ⊢
    rw [hb.kept_iff h other hlive]
    simp [Call.drawnId?, Call.mintedId?, Call.destroyedId?, Ne.symm hne]

/-- A live handle keeps its identifier whatever is bound to it. -/
theorem id?_setHandle {h : HandleRef} {id : WindowId}
    (hid : (b.registry.handle h).id? = some id) {state : Handle S}
    (hstate : state.id? = some id) (other : HandleRef) :
    ((b.registry.setHandle h state).handle other).id? = (b.registry.handle other).id? := by
  by_cases ho : other = h
  · rw [ho, b.registry.handle_setHandle_self (b.registry.lt_length_of_id? hid), hid, hstate]
  · rw [b.registry.handle_setHandle_of_ne ho]

end Drawings

variable [GraphicsBackend G S]

/-- Every move keeps account of the drawables. -/
theorem Move.drawings (h : Move b calls notes b') (hl : Lifetimes b past)
    (hb : Drawings b past) : Drawings b' (past ++ calls) := by
  cases h with
  | @aside c hc =>
    have hquiet : c.IsQuiet ∧ ∀ id answer, c ≠ .drawable id answer := by
      cases c with
      | setDeviceFilter filter => exact ⟨⟨rfl, rfl, rfl⟩, fun _ _ heq => by cases heq⟩
      | poll answer => exact ⟨⟨rfl, rfl, rfl⟩, fun _ _ heq => by cases heq⟩
      | leave => exact ⟨⟨rfl, rfl, rfl⟩, fun _ _ heq => by cases heq⟩
      | closeManager => exact ⟨⟨rfl, rfl, rfl⟩, fun _ _ heq => by cases heq⟩
      | _ => exact hc.elim
    exact hb.quiet_call (fun id answer heq => absurd heq (hquiet.2 id answer)) hquiet.1
      (fun _ => rfl) fun _ => rfl
  | refused attributes e =>
    exact hb.quiet_call (fun id answer heq => by cases heq) ⟨rfl, rfl, rfl⟩ (fun _ => rfl)
      fun _ => rfl
  | @created attributes id hid =>
    refine hb.create attributes (fun o other ho hlive => ?_) (b.registry.handle_insert_self id)
    have hsame := b.registry.handle_insert_of_ne id ho
    refine ⟨?_, hsame⟩
    rintro rfl
    rw [hsame, ← hl.sound.resolve_iff, hid] at hlive
    cases hlive
  | @replaced attributes id old hid =>
    have hold : (b.registry.handle old).id? = some id := (hl.sound.resolve_iff id old).mp hid
    have hlt : old < b.registry.handles.length := b.registry.lt_length_of_id? hold
    rw [List.append_cons]
    refine (hb.create attributes (fun o other ho hlive => ?_) ?_).release _
    · -- the handle that held the identifier is destroyed
      have hne : o ≠ old := by
        rintro rfl
        rw [Registry.handle_tombstone_self] at hlive
        cases hlive
      have hsame : ((b.registry.insert id).2.tombstone old).handle o = b.registry.handle o := by
        rw [Registry.handle_tombstone_of_ne _ hne, b.registry.handle_insert_of_ne id ho]
      refine ⟨?_, hsame⟩
      rintro rfl
      rw [hsame] at hlive
      exact hne (hl.sound.eq_of_id? hlive hold)
    · rw [Registry.handle_tombstone_of_ne _ (Nat.ne_of_gt hlt), b.registry.handle_insert_self]
  | updated hid change answer =>
    exact hb.quiet_call (fun id answer heq => by cases heq) ⟨rfl, rfl, rfl⟩ (fun _ => rfl)
      fun _ => rfl
  | queried hid q answer =>
    exact hb.quiet_call (fun id answer heq => by cases heq) ⟨rfl, rfl, rfl⟩ (fun _ => rfl)
      fun _ => rfl
  | @undrawn h id hh e =>
    refine hb.quiet_call (fun other answer heq => ?_) ⟨rfl, rfl, rfl⟩ (fun _ => rfl)
      fun _ => rfl
    rw [← hb.kept_iff h other (by rw [hh, (Call.drawable.inj heq).1]; rfl), hh]
    simp [Handle.drawable?]
  | @drawn h id hh drawable =>
    have hid : (b.registry.handle h).id? = some id := congrArg Handle.id? hh
    refine hb.call (fun other answer heq => ?_) fun o other hlive => ?_
    · rw [← hb.kept_iff h other (by rw [hh, (Call.drawable.inj heq).1]; rfl), hh]
      simp [Handle.drawable?]
    · by_cases ho : o = h
      · rw [ho, b.registry.handle_setHandle_self (b.registry.lt_length_of_id? hid)] at hlive ⊢
        have hother : other = id := (Option.some.inj hlive).symm
        simp [Handle.drawable?, Call.drawnId?, hother]
      · rw [b.registry.handle_setHandle_of_ne ho] at hlive ⊢
        have hne : other ≠ id := by
          rintro rfl
          exact ho (hl.sound.eq_of_id? hlive hid)
        rw [hb.kept_iff o other hlive]
        simp [Call.drawnId?, Call.mintedId?, Call.destroyedId?, Ne.symm hne]
  | unwrapped hh he =>
    exact hb.quiet_call (fun id answer heq => by cases heq) ⟨rfl, rfl, rfl⟩ (fun _ => rfl)
      fun _ => rfl
  | @wrapped h id drawable hh value hvalue =>
    refine hb.quiet_call (fun id answer heq => by cases heq) ⟨rfl, rfl, rfl⟩
      (Drawings.id?_setHandle (congrArg Handle.id? hh) rfl) fun o => ?_
    by_cases ho : o = h
    · rw [ho, b.registry.handle_setHandle_self
        (b.registry.lt_length_of_id? (congrArg Handle.id? hh)), hh]
      rfl
    · rw [b.registry.handle_setHandle_of_ne ho]
  | @destroyed h id hid =>
    have hreleased := hb.release (b.registry.handle h)
    rw [← List.append_assoc]
    refine hreleased.call (fun other answer heq => by cases heq) fun o other hlive => ?_
    have ho : o ≠ h := by
      rintro rfl
      rw [Registry.handle_tombstone_self] at hlive
      cases hlive
    rw [Registry.handle_tombstone_of_ne _ ho, Registry.handle_remove] at hlive ⊢
    have hne : other ≠ id := by
      rintro rfl
      exact ho (hl.sound.eq_of_id? hlive hid)
    rw [hreleased.kept_iff o other hlive]
    simp [Call.drawnId?, Call.mintedId?, Call.destroyedId?, Ne.symm hne]
  | closed =>
    exact hb.quiet_call (fun id answer heq => by cases heq) ⟨rfl, rfl, rfl⟩ (fun _ => rfl)
      fun _ => rfl

theorem Moves.drawings (h : Moves b calls notes b') (hl : Lifetimes b past)
    (hb : Drawings b past) : Drawings b' (past ++ calls) := by
  induction h generalizing past with
  | nil => rwa [List.append_nil]
  | cons first _ ih =>
    rw [← List.append_assoc]
    exact ih (first.lifetimes hl) (first.drawings hl hb)

end Moves

end WindowSystem
