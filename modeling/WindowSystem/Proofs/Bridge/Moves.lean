/-
# Moves of the books

The books of a bridge are its registry, the number of surfaces it made, and its graphics backend.
Whatever the backends answer, an operation changes the books only in a few ways, each together
with the calls that the bridge makes and with what the graphics backend writes: these are the
moves. What a single move preserves holds after every sequence of moves.
-/
import WindowSystem.Bridge.Basic

namespace WindowSystem

/-- What a bridge keeps of its windows and surfaces, with the backend that made the surfaces. -/
structure Books (G S : Type) where
  graphics : G
  registry : Registry S := {}
  surfacesMade : Nat := 0

/-- The books of a bridge. -/
def Bridge.books {N G S : Type} (b : Bridge N G S) : Books G S :=
  ⟨b.graphics, b.registry, b.surfacesMade⟩

/-- Whether a call concerns no window and no surface. -/
def Call.IsAside : Call → Prop
  | .setDeviceFilter _ | .poll _ | .leave | .closeManager => True
  | _ => False

namespace Handle

variable {G S : Type}

/-- The call that releases the surface of a handle, if one is bound. -/
def releaseCalls (h : Handle S) : List Call :=
  (h.surface?.map fun surface => Call.release surface.number).toList

/-- What the graphics backend does when the surface of a handle is released, if one is bound. -/
def release [GraphicsBackend G S] (h : Handle S) : Step Note G Unit :=
  match h.surface? with
  | some surface => GraphicsBackend.release surface.value
  | none => pure ()

end Handle

/-- One move: the books before, the calls made, the notes of the graphics backend, and the books
after. -/
inductive Move {G S : Type} [GraphicsBackend G S] :
    Books G S → List Call → List Note → Books G S → Prop where
  /-- A call that concerns no window. -/
  | aside {b : Books G S} {c : Call} (hc : c.IsAside) : Move b [c] [] b
  /-- The window manager refuses to create a window. -/
  | refused {b : Books G S} (attributes : WindowAttributes) (e : BackendError) :
    Move b [.create attributes (.error e)] [] b
  /-- A window is created under an identifier that is not entered. -/
  | created {b : Books G S} (attributes : WindowAttributes) {id : WindowId}
      (hid : b.registry.resolve id = none) :
    Move b [.create attributes (.ok id)] [] { b with registry := (b.registry.insert id).2 }
  /-- A window is created under the identifier of a live one, whose handle goes. -/
  | replaced {b : Books G S} (attributes : WindowAttributes) {id : WindowId} {old : HandleRef}
      (hid : b.registry.resolve id = some old) :
    Move b
      (.create attributes (.ok id) :: ((b.registry.insert id).2.handle old).releaseCalls)
      (((b.registry.insert id).2.handle old).release.run b.graphics).journal
      { b with
        graphics := (((b.registry.insert id).2.handle old).release.run b.graphics).state
        registry := (b.registry.insert id).2.tombstone old }
  /-- A live window is changed. -/
  | updated {b : Books G S} {h : HandleRef} {id : WindowId}
      (hid : (b.registry.handle h).id? = some id) (change : WindowChange)
      (answer : Except BackendError Unit) :
    Move b [.update id change answer] [] b
  /-- A live window is asked about. -/
  | queried {b : Books G S} {h : HandleRef} {id : WindowId}
      (hid : (b.registry.handle h).id? = some id) (q : Query)
      (answer : Except BackendError q.Answer) :
    Move b [.query id q answer] [] b
  /-- The window manager refuses to hand out a drawable. -/
  | undrawn {b : Books G S} {h : HandleRef} {id : WindowId}
      (hh : b.registry.handle h = .live id none none) (e : BackendError) :
    Move b [.drawable id (.error e)] [] b
  /-- The window manager hands out a drawable, which is kept. -/
  | drawn {b : Books G S} {h : HandleRef} {id : WindowId}
      (hh : b.registry.handle h = .live id none none) (drawable : Drawable) :
    Move b [.drawable id (.ok drawable)] []
      { b with registry := b.registry.setHandle h (.live id (some drawable) none) }
  /-- The graphics backend refuses to make a surface of a drawable. -/
  | unwrapped {b : Books G S} {h : HandleRef} {id : WindowId} {drawable : Drawable}
      (hh : b.registry.handle h = .live id (some drawable) none) {e : BackendError}
      (he : ((GraphicsBackend.wrap drawable).run b.graphics).answer = .error e) :
    Move b [.wrap drawable (.error e)]
      ((GraphicsBackend.wrap drawable).run b.graphics).journal
      { b with graphics := ((GraphicsBackend.wrap drawable).run b.graphics).state }
  /-- A surface is made and bound. -/
  | wrapped {b : Books G S} {h : HandleRef} {id : WindowId} {drawable : Drawable}
      (hh : b.registry.handle h = .live id (some drawable) none) {value : S}
      (hvalue : ((GraphicsBackend.wrap drawable).run b.graphics).answer = .ok value) :
    Move b [.wrap drawable (.ok b.surfacesMade)]
      ((GraphicsBackend.wrap drawable).run b.graphics).journal
      { graphics := ((GraphicsBackend.wrap drawable).run b.graphics).state
        registry := b.registry.setHandle h
          (.live id (some drawable) (some ⟨b.surfacesMade, value⟩))
        surfacesMade := b.surfacesMade + 1 }
  /-- A window is destroyed, after its surface. -/
  | destroyed {b : Books G S} {h : HandleRef} {id : WindowId}
      (hid : (b.registry.handle h).id? = some id) :
    Move b ((b.registry.handle h).releaseCalls ++ [.destroy id])
      ((b.registry.handle h).release.run b.graphics).journal
      { b with
        graphics := ((b.registry.handle h).release.run b.graphics).state
        registry := (b.registry.remove id).tombstone h }
  /-- The graphics backend goes. -/
  | closed {b : Books G S} :
    Move b [.closeGraphics] ((GraphicsBackend.close (G := G)).run b.graphics).journal
      { b with graphics := ((GraphicsBackend.close (G := G)).run b.graphics).state }

/-- A sequence of moves, with all calls and all notes in order. -/
inductive Moves {G S : Type} [GraphicsBackend G S] :
    Books G S → List Call → List Note → Books G S → Prop where
  | nil {b : Books G S} : Moves b [] [] b
  | cons {b b' b'' : Books G S} {calls rest : List Call} {notes more : List Note}
      (first : Move b calls notes b') (next : Moves b' rest more b'') :
    Moves b (calls ++ rest) (notes ++ more) b''

namespace Moves

variable {G S : Type} [GraphicsBackend G S] {b b' b'' : Books G S} {calls rest : List Call}
  {notes more : List Note}

/-- One move is a sequence of moves. -/
theorem single (h : Move b calls notes b') : Moves b calls notes b' := by
  have hnil := cons h nil
  rwa [List.append_nil, List.append_nil] at hnil

/-- Two sequences of moves are one. -/
theorem append (h : Moves b calls notes b') (h' : Moves b' rest more b'') :
    Moves b (calls ++ rest) (notes ++ more) b'' := by
  induction h with
  | nil => exact h'
  | cons first _ ih =>
    rw [List.append_assoc, List.append_assoc]
    exact cons first (ih h')

end Moves

end WindowSystem
