/-
# The protocol of a surface

Over the life of a window the requests for its surface make their calls in one fixed order
(`bindingCalls`): the window manager is asked for a drawable until it hands one out, the graphics
backend is asked for a surface of that drawable until it makes one, and then nothing is asked any
more. Each request goes on from where the last one stopped (`Served`), however the backends fail;
what follows from this alone is collected in `BoundOnce`.
-/
import WindowSystem.Proofs.Bridge.Course
import WindowSystem.Proofs.Bridge.Requests

namespace WindowSystem

/-! ## One request after another -/

/-- A request for the surface of a window, with the handle before and after. -/
structure Request (S : Type) where
  before : Handle S
  calls : List Call
  answer : Except BridgeError (BoundSurface S)
  after : Handle S

/-- Requests for one surface, each of which finds the handle as the last one left it, unless the
window was destroyed meanwhile. -/
inductive Served {S : Type} : Handle S → List (Request S) → Prop where
  | nil (state : Handle S) : Served state []
  | destroyed (state : Handle S) {requests : List (Request S)}
      (next : Served .destroyed requests) : Served state requests
  | request {r : Request S} {requests : List (Request S)}
      (first : Requested r.before r.calls r.answer r.after) (next : Served r.after requests) :
    Served r.before (r :: requests)

/-- The calls that come to a surface of a drawable: refusals to make one, and the surface. -/
def wrappingCalls (drawable : Drawable) (failures : List BackendError) (n : Nat) : List Call :=
  failures.map (fun e => .wrap drawable (.error e)) ++ [.wrap drawable (.ok n)]

/-- The calls that come to the surface of a window: refusals to hand out a drawable, the drawable,
and then those that come to a surface of it. -/
def bindingCalls (id : WindowId) (refusals : List BackendError) (drawable : Drawable)
    (failures : List BackendError) (n : Nat) : List Call :=
  refusals.map (fun e => .drawable id (.error e)) ++
    .drawable id (.ok drawable) :: wrappingCalls drawable failures n

namespace Handle

variable {S : Type}

/-- The calls that can still be made for a window, given what is on its handle: they begin those
that are missing for a surface. -/
def Awaits : Handle S → List Call → Prop
  | .live id none none, calls =>
    ∃ refusals drawable failures n, calls <+: bindingCalls id refusals drawable failures n
  | .live _ (some drawable) none, calls =>
    ∃ failures n, calls <+: wrappingCalls drawable failures n
  | .live _ _ (some _), calls => calls = []
  | .destroyed, calls => calls = []

theorem awaits_nil (state : Handle S) : state.Awaits [] := by
  rcases state with ⟨id, _ | drawable, _ | surface⟩ | _
  · exact ⟨[], .offscreen 0, [], 0, List.nil_prefix⟩
  · exact rfl
  · exact ⟨[], 0, List.nil_prefix⟩
  · exact rfl
  · exact rfl

end Handle

/-- A request makes the first of the calls that are left, and those after it the next. -/
theorem Requested.awaits {S : Type} {before after : Handle S} {calls rest : List Call}
    {answer : Except BridgeError (BoundSurface S)} (h : Requested before calls answer after)
    (hrest : after.Awaits rest) : before.Awaits (calls ++ rest) := by
  cases h with
  | destroyed => exact hrest
  | bound id kept surface => cases kept <;> exact hrest
  | undrawn id e =>
    obtain ⟨refusals, drawable, failures, n, hprefix⟩ := hrest
    exact ⟨e :: refusals, drawable, failures, n, (List.prefix_cons_inj _).mpr hprefix⟩
  | @unwrapped id kept first drawable hdrawn e =>
    obtain ⟨failures, n, hprefix⟩ := hrest
    have hwrap := (List.prefix_cons_inj (.wrap drawable (.error e))).mpr hprefix
    cases hdrawn with
    | kept => exact ⟨e :: failures, n, hwrap⟩
    | handedOut => exact ⟨[], drawable, e :: failures, n, (List.prefix_cons_inj _).mpr hwrap⟩
  | @wrapped id kept first drawable hdrawn surface =>
    have hwrap : .wrap drawable (.ok surface.number) :: rest <+:
        wrappingCalls drawable [] surface.number := by
      rw [show rest = [] from hrest]
      exact List.prefix_refl _
    cases hdrawn with
    | kept => exact ⟨[], surface.number, hwrap⟩
    | handedOut => exact ⟨[], drawable, [], surface.number, (List.prefix_cons_inj _).mpr hwrap⟩

/-! ## All requests for one surface -/

/-- How the requests for the surface of a window go, over its whole life. -/
structure BoundOnce {S : Type} (id : WindowId) (requests : List (Request S)) : Prop where
  /-- Together they make the first of the calls that come to a surface, and no others. -/
  calls_prefix : ∃ refusals drawable failures n,
    requests.flatMap Request.calls <+: bindingCalls id refusals drawable failures n
  /-- Each asks the window manager once at most, and after it the graphics backend once at most. -/
  calls_eq : ∀ r ∈ requests,
    ∃ (native : Option (Except BackendError Drawable))
      (graphics : Option (Drawable × Except BackendError Nat)),
      r.calls = native.toList.map (Call.drawable id) ++
        graphics.toList.map fun asked => .wrap asked.1 asked.2
  /-- While the window lives, one fails exactly with the failure of a step. -/
  error_iff : ∀ r ∈ requests, r.before.id? = some id → ∀ e,
    r.answer = .error e ↔ ∃ cause, e = .backend cause ∧ ∃ c ∈ r.calls, c.failure? = some cause
  surface?_of_error : ∀ r ∈ requests, ∀ e, r.answer = .error e → r.after.surface? = none
  surface?_of_ok : ∀ r ∈ requests, ∀ surface,
    r.answer = .ok surface → r.after.surface? = some surface
  /-- Once one succeeded, the later ones ask nothing, and while the window lives they are answered
  with the same surface. -/
  same : requests.Pairwise fun r later => ∀ surface, r.answer = .ok surface →
    later.calls = [] ∧ (later.before.id? = some id ∧ later.answer = .ok surface ∨
      later.before = .destroyed ∧ later.answer = .error (.invalidHandle "getGPUSurface" 1))

namespace Served

variable {S : Type} {state : Handle S} {requests : List (Request S)}

theorem awaits (h : Served state requests) : state.Awaits (requests.flatMap Request.calls) := by
  induction h with
  | nil state => exact state.awaits_nil
  | destroyed state _ ih =>
    rw [show _ = [] from ih]
    exact state.awaits_nil
  | request first _ ih => exact first.awaits ih

/-- Whatever is true of every request is true of all of them. -/
theorem requested (h : Served state requests) :
    ∀ r ∈ requests, Requested r.before r.calls r.answer r.after := by
  induction h with
  | nil state => simp
  | destroyed state _ ih => exact ih
  | request first _ ih => exact List.forall_mem_cons.mpr ⟨first, ih⟩

/-- A handle is live under its identifier, or destroyed. -/
theorem before_id? (h : Served state requests) {id : WindowId}
    (hid : state.id? = some id ∨ state = .destroyed) :
    ∀ r ∈ requests, r.before.id? = some id ∨ r.before = .destroyed := by
  induction h with
  | nil state => simp
  | destroyed state _ ih => exact ih (Or.inr rfl)
  | request first _ ih => exact List.forall_mem_cons.mpr ⟨hid, ih (first.id?_or_destroyed hid)⟩

/-- Once a surface is bound, every request is answered with it, until the window is destroyed. -/
theorem of_bound (h : Served state requests) {id : WindowId} {surface : BoundSurface S}
    (hstate : state.id? = some id ∧ state.surface? = some surface ∨ state = .destroyed) :
    ∀ later ∈ requests,
      later.calls = [] ∧ (later.before.id? = some id ∧ later.answer = .ok surface ∨
        later.before = .destroyed ∧ later.answer = .error (.invalidHandle "getGPUSurface" 1)) := by
  induction h with
  | nil state => simp
  | destroyed state _ ih => exact ih (Or.inr rfl)
  | request first _ ih =>
    rcases hstate with ⟨hid, hsurface⟩ | hd
    · obtain ⟨hcalls, hanswer, hafter⟩ := first.of_surface? hsurface
      rw [hafter] at ih
      exact List.forall_mem_cons.mpr
        ⟨⟨hcalls, Or.inl ⟨hid, hanswer⟩⟩, ih (Or.inl ⟨hid, hsurface⟩)⟩
    · obtain ⟨hcalls, hanswer, hafter⟩ := first.of_destroyed hd
      exact List.forall_mem_cons.mpr ⟨⟨hcalls, Or.inr ⟨hd, hanswer⟩⟩, ih (Or.inr hafter)⟩

theorem pairwise_same (h : Served state requests) {id : WindowId}
    (hid : state.id? = some id ∨ state = .destroyed) :
    requests.Pairwise fun r later => ∀ surface, r.answer = .ok surface →
      later.calls = [] ∧ (later.before.id? = some id ∧ later.answer = .ok surface ∨
        later.before = .destroyed ∧ later.answer = .error (.invalidHandle "getGPUSurface" 1)) := by
  induction h with
  | nil state => exact List.Pairwise.nil
  | destroyed state _ ih => exact ih (Or.inr rfl)
  | request first next ih =>
    have hafter := first.id?_or_destroyed hid
    refine List.pairwise_cons.mpr ⟨fun later hlater surface hok => ?_, ih hafter⟩
    have hsurface := first.surface?_of_ok hok
    exact next.of_bound (hafter.imp_left fun hid => ⟨hid, hsurface⟩) later hlater

/-- The requests for the surface of a window that was just created. -/
theorem boundOnce {id : WindowId} (h : Served (Handle.fresh id : Handle S) requests) :
    BoundOnce id requests where
  calls_prefix := h.awaits
  calls_eq r hr := (h.requested r hr).calls_eq (h.before_id? (Or.inl rfl) r hr)
  error_iff r hr hid e := by
    refine (h.requested r hr).answer_eq_error_iff (fun hd => ?_) e
    rw [hd] at hid
    cases hid
  surface?_of_error r hr _ he := (h.requested r hr).surface?_of_error he
  surface?_of_ok r hr _ hok := (h.requested r hr).surface?_of_ok hok
  same := h.pairwise_same (Or.inl rfl)

end Served

end WindowSystem
