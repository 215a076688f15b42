/-
# Requests for surfaces

A request for the surface of a window finds it on the handle, or makes it in two steps: the window
manager hands a drawable out, and the graphics backend makes a surface of it. Whatever the two
answer, a request goes in one of five ways (`Requested`), and what it leaves on the handle is where
the next one goes on.
-/
import WindowSystem.Proofs.Bridge.Operations

namespace WindowSystem

/-- How a request comes by a drawable: one is kept on the handle, or the window manager hands one
out. -/
inductive Drawn (id : WindowId) : Option Drawable → List Call → Drawable → Prop where
  | kept (drawable : Drawable) : Drawn id (some drawable) [] drawable
  | handedOut (drawable : Drawable) : Drawn id none [.drawable id (.ok drawable)] drawable

/-- How a request for a surface goes: what it finds on the handle, the calls that it makes, its
answer, and what it leaves on the handle. -/
inductive Requested {S : Type} :
    Handle S → List Call → Except BridgeError (BoundSurface S) → Handle S → Prop where
  | destroyed : Requested .destroyed [] (.error (.invalidHandle "getGPUSurface" 1)) .destroyed
  /-- The surface is there. -/
  | bound (id : WindowId) (kept : Option Drawable) (surface : BoundSurface S) :
    Requested (.live id kept (some surface)) [] (.ok surface) (.live id kept (some surface))
  /-- The window manager refuses to hand out a drawable. -/
  | undrawn (id : WindowId) (e : BackendError) :
    Requested (.live id none none) [.drawable id (.error e)] (.error (.backend e))
      (.live id none none)
  /-- The graphics backend refuses to make a surface of the drawable, which is kept. -/
  | unwrapped {id : WindowId} {kept : Option Drawable} {first : List Call} {drawable : Drawable}
      (hdrawn : Drawn id kept first drawable) (e : BackendError) :
    Requested (.live id kept none) (first ++ [.wrap drawable (.error e)]) (.error (.backend e))
      (.live id (some drawable) none)
  /-- A surface is made and bound. -/
  | wrapped {id : WindowId} {kept : Option Drawable} {first : List Call} {drawable : Drawable}
      (hdrawn : Drawn id kept first drawable) (surface : BoundSurface S) :
    Requested (.live id kept none) (first ++ [.wrap drawable (.ok surface.number)]) (.ok surface)
      (.live id (some drawable) (some surface))

/-! ## One request -/

namespace Requested

variable {S : Type} {before after : Handle S} {calls : List Call}
  {answer : Except BridgeError (BoundSurface S)}

/-- The window manager is asked once at most, and after it the graphics backend once at most. -/
theorem calls_eq (h : Requested before calls answer after) {id : WindowId}
    (hid : before.id? = some id ∨ before = .destroyed) :
    ∃ (native : Option (Except BackendError Drawable))
      (graphics : Option (Drawable × Except BackendError Nat)),
      calls = native.toList.map (Call.drawable id) ++
        graphics.toList.map fun asked => .wrap asked.1 asked.2 := by
  cases h with
  | destroyed => exact ⟨none, none, rfl⟩
  | bound other kept surface => exact ⟨none, none, rfl⟩
  | undrawn other e =>
    obtain rfl : other = id := by simpa [Handle.id?] using hid
    exact ⟨some (.error e), none, rfl⟩
  | @unwrapped other kept first drawable hdrawn e =>
    obtain rfl : other = id := by simpa [Handle.id?] using hid
    cases hdrawn with
    | kept => exact ⟨none, some (drawable, .error e), rfl⟩
    | handedOut => exact ⟨some (.ok drawable), some (drawable, .error e), rfl⟩
  | @wrapped other kept first drawable hdrawn surface =>
    obtain rfl : other = id := by simpa [Handle.id?] using hid
    cases hdrawn with
    | kept => exact ⟨none, some (drawable, .ok surface.number), rfl⟩
    | handedOut => exact ⟨some (.ok drawable), some (drawable, .ok surface.number), rfl⟩

/-- A request that fails leaves the handle without a surface. -/
theorem surface?_of_error (h : Requested before calls answer after) {e : BridgeError}
    (he : answer = .error e) : after.surface? = none := by
  cases h with
  | bound id kept surface => cases he
  | wrapped hdrawn surface => cases he
  | _ => rfl

/-- A surface that is handed out is the one on the handle. -/
theorem surface?_of_ok (h : Requested before calls answer after) {surface : BoundSurface S}
    (hs : answer = .ok surface) : after.surface? = some surface := by
  cases h with
  | bound id kept surface => exact congrArg some (Except.ok.inj hs)
  | wrapped hdrawn surface => exact congrArg some (Except.ok.inj hs)
  | _ => cases hs

/-- A surface that is there is handed out, and nothing is asked. -/
theorem of_surface? (h : Requested before calls answer after) {surface : BoundSurface S}
    (hs : before.surface? = some surface) : calls = [] ∧ answer = .ok surface ∧ after = before := by
  cases h with
  | bound id kept other => exact ⟨rfl, congrArg Except.ok (Option.some.inj hs), rfl⟩
  | _ => cases hs

/-- Nothing is asked for a destroyed window. -/
theorem of_destroyed (h : Requested before calls answer after) (hd : before = .destroyed) :
    calls = [] ∧ answer = .error (.invalidHandle "getGPUSurface" 1) ∧ after = .destroyed := by
  cases h with
  | destroyed => exact ⟨rfl, rfl, rfl⟩
  | _ => cases hd

/-- A window keeps its identifier, and a destroyed one stays destroyed. -/
theorem id?_or_destroyed (h : Requested before calls answer after) {id : WindowId}
    (hid : before.id? = some id ∨ before = .destroyed) :
    after.id? = some id ∨ after = .destroyed := by
  cases h with
  | destroyed => exact Or.inr rfl
  | _ => exact Or.inl (hid.resolve_right (by simp))

end Requested

/-! ## Every request -/

namespace Bridge

variable {N W G S : Type} [WindowManager N W] [GraphicsBackend G S]

omit [WindowManager N W] in
/-- The second step of a request, after the first put a drawable on the handle. -/
theorem requested_bindTo {h : HandleRef} {id : WindowId} {kept : Option Drawable}
    {first : List Call} {drawable : Drawable} {b : Bridge N G S}
    (hh : b.registry.handle h = .live id (some drawable) none)
    (hdrawn : Drawn id kept first drawable) :
    Requested (.live id kept none)
      (first ++ Entry.calls ((bindTo h id (.ok drawable)).run b).journal)
      ((bindTo h id (.ok drawable)).run b).answer
      (((bindTo h id (.ok drawable)).run b).state.registry.handle h) := by
  rw [bindTo, Step.run_bind]
  cases ha : ((GraphicsBackend.wrap drawable).run b.graphics).answer with
  | error e =>
    simp only [run_makeSurface_error ha, Step.run_pure, List.append_nil, Entry.calls_append,
      Entry.calls_map_note]
    rw [hh]
    exact .unwrapped hdrawn e
  | ok value =>
    have hlt : h < b.registry.handles.length := b.registry.lt_length_of_ne (by rw [hh]; simp)
    simp only [run_makeSurface_ok ha, Step.run_bind, run_changeRegistry, run_say, Step.run_pure,
      List.append_nil, Entry.calls_append, Entry.calls_map_note]
    rw [b.registry.handle_setHandle_self hlt]
    exact .wrapped hdrawn ⟨b.surfacesMade, value⟩

/-- Every request goes in one of these ways. -/
theorem requested_gpuSurface (h : HandleRef) (b : Bridge N G S) :
    Requested (b.registry.handle h) (Entry.calls ((gpuSurface h).run b).journal)
      ((gpuSurface h).run b).answer (((gpuSurface h).run b).state.registry.handle h) := by
  rcases hh : b.registry.handle h with ⟨id, kept, _ | surface⟩ | _
  · rw [run_gpuSurface_unbound hh, Step.run_bind]
    cases kept with
    | some drawable => exact requested_bindTo hh (.kept drawable)
    | none =>
      cases ha : ((WindowManager.drawable id).run b.events.manager).answer with
      | error e =>
        simp only [run_drawableOf_error ha, bindTo, Step.run_pure, List.append_nil,
          Entry.calls_append, Entry.calls_map_note]
        rw [hh]
        exact .undrawn id e
      | ok drawable =>
        have hlt : h < b.registry.handles.length := b.registry.lt_length_of_ne (by rw [hh]; simp)
        have hkept := b.registry.handle_setHandle_self hlt (.live id (some drawable) none)
        simp only [run_drawableOf_ok ha, Entry.calls_append, Entry.calls_map_note]
        exact requested_bindTo (b := { b with
          events := _, registry := b.registry.setHandle h (.live id (some drawable) none) }) hkept
          (.handedOut drawable)
  · have hrun : (gpuSurface h).run b = ⟨.ok surface, b, []⟩ := by
      unfold gpuSurface
      rw [Step.run_bind, run_handle, hh]
      rfl
    rw [hrun, hh]
    exact .bound id kept surface
  · have hrun : (gpuSurface h).run b = ⟨.error (.invalidHandle "getGPUSurface" 1), b, []⟩ := by
      unfold gpuSurface
      rw [Step.run_bind, run_handle, hh]
      rfl
    rw [hrun, hh]
    exact .destroyed

end Bridge

end WindowSystem
