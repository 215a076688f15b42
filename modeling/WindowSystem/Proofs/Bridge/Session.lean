/-
# Sessions

A session is a bridge together with the consumers of its events. Scripts act on it, and so does
the world around the window manager, which can do to the manager what it likes. A history is what
a list of actions comes to from the start: the answers, the state reached, and the journal.
-/
import WindowSystem.Bridge.Basic
import WindowSystem.Bridge.Consumers

namespace WindowSystem

/-- What can happen to a window manager past the bridge, told by an `X`. -/
class Surroundings (X N : Type) where
  happen : X → Step Note N Unit

/-- Nothing happens past the bridge. -/
instance (N : Type) : Surroundings Empty N where
  happen x := nomatch x

/-- An operation on a bridge, or something that happens past it. Consumers go by name: one that
comes has not looked for an event yet, and one that leaves gives up. -/
inductive Action (X : Type) where
  | create (options : WindowOptions)
  | destroy (h : HandleRef)
  | gpuSurface (h : HandleRef)
  | query (h : HandleRef) (q : Query)
  | change (h : HandleRef) (change : WindowChange)
  | setAlwaysOnTop (h : HandleRef) (onTop : Bool)
  | resolve (id : WindowId)
  | windowCount
  | windows
  | setDeviceFilter (filter : DeviceFilter)
  | come (name : String)
  | poll (name : String)
  | leave (name : String)
  | outside (x : X)

/-- The answer to an action. -/
inductive Answer (S : Type) where
  | created (result : Except BridgeError HandleRef)
  | done (result : Except BridgeError Unit)
  | bound (result : Except BridgeError (BoundSurface S))
  | told (q : Query) (result : Except BridgeError q.Answer)
  | resolved (handle : Option HandleRef)
  | counted (count : Nat)
  | listed (handles : List HandleRef)
  /-- What a consumer saw; none if there is no consumer under the name. -/
  | looked (result : Option (Poll Unit (Except BridgeError (Event (Option HandleRef)))))
  | left (wasThere : Bool)
  | nothing

/-- A bridge with the consumers of its events. -/
abbrev Session (N G S W : Type) : Type := Consumers.Crowd (Bridge N G S) W

namespace Session

variable {N W G S X : Type} [WindowManager N W] [GraphicsBackend G S] [Surroundings X N]

/-- How consumers look for the events of a bridge. -/
def source : Source Entry (Bridge N G S) W (Except BridgeError (Event (Option HandleRef))) where
  poll := Bridge.pollEvent
  cancel := Bridge.cancelEvent

/-- An operation of the bridge. -/
def onBridge {α : Type} (s : Step Entry (Bridge N G S) α) (answer : α → Answer S) :
    Step Entry (Session N G S W) (Answer S) := do
  let a ← Consumers.onSource s
  pure (answer a)

/-- Does what an action says. -/
def perform : Action X → Step Entry (Session N G S W) (Answer S)
  | .create options => onBridge (Bridge.createWindow options) .created
  | .destroy h => onBridge (Bridge.destroyWindow h) .done
  | .gpuSurface h => onBridge (Bridge.gpuSurface h) .bound
  | .query h q => onBridge (Bridge.query h q) (.told q)
  | .change h change => onBridge (Bridge.change h change) .done
  | .setAlwaysOnTop h onTop => onBridge (Bridge.setAlwaysOnTop h onTop) .done
  | .resolve id => onBridge (Bridge.resolve id) .resolved
  | .windowCount => onBridge Bridge.windowCount .counted
  | .windows => onBridge Bridge.windows .listed
  | .setDeviceFilter filter => onBridge (Bridge.setDeviceFilter filter) fun _ => .nothing
  | .come name => do
    Consumers.come source name
    pure .nothing
  | .poll name => do
    let seen ← Consumers.poll source name
    pure (.looked seen)
  | .leave name => do
    let wasThere ← Consumers.leave source name
    pure (.left wasThere)
  | .outside x => onBridge (Bridge.onManager (Surroundings.happen x)) fun _ => .nothing

/-- Does what a list of actions says, from the first to the last. -/
def performAll : List (Action X) → Step Entry (Session N G S W) (List (Answer S))
  | [] => pure []
  | a :: rest => do
    let answer ← perform a
    let answers ← performAll rest
    pure (answer :: answers)

/-- The session comes to its end: all consumers leave and the bridge is closed. -/
def finish : Step Entry (Session N G S W) Unit := do
  Consumers.leaveAll source
  Consumers.onSource Bridge.close

/-- What a list of actions comes to, from the start of a bridge without consumers. -/
def history (manager : N) (graphics : G) (settings : Settings) (actions : List (Action X)) :
    Outcome Entry (Session N G S W) (List (Answer S)) :=
  let start := Bridge.start manager graphics settings
  let rest := (performAll actions).run (start.state, {})
  ⟨rest.answer, rest.state, start.journal ++ rest.journal⟩

/-! ## Longer and longer histories -/

@[simp]
theorem performAll_nil :
    (performAll ([] : List (Action X)) : Step Entry (Session N G S W) _) = pure [] := rfl

@[simp]
theorem performAll_cons (a : Action X) (rest : List (Action X)) :
    (performAll (a :: rest) : Step Entry (Session N G S W) _) = (do
      let answer ← perform a
      let answers ← performAll rest
      pure (answer :: answers)) := rfl

/-- What is read off the answers is read off the first one and then off the others. -/
theorem filterMap_performAll_cons {β : Type} (f : Answer S → Option β) (a : Action X)
    (rest : List (Action X)) (session : Session N G S W) :
    ((performAll (a :: rest)).run session).answer.filterMap f =
      (f ((perform a).run session).answer).toList ++
        ((performAll rest).run ((perform a).run session).state).answer.filterMap f := by
  rw [performAll_cons, Step.run_bind]
  show (((perform a).run session).answer :: _).filterMap f = _
  cases hf : f ((perform a).run session).answer with
  | none => rw [List.filterMap_cons_none hf, Option.toList_none, List.nil_append]
  | some b => rw [List.filterMap_cons_some hf, Option.toList_some, List.singleton_append]

/-- Two lists of actions are done one after the other. -/
theorem performAll_append (xs ys : List (Action X)) :
    (performAll (xs ++ ys) : Step Entry (Session N G S W) _) = (do
      let first ← performAll xs
      let second ← performAll ys
      pure (first ++ second)) := by
  induction xs with
  | nil => simp
  | cons a rest ih =>
    rw [List.cons_append, performAll_cons, ih, performAll_cons]
    simp only [bind_assoc, pure_bind, List.cons_append]

variable (manager : N) (graphics : G) (settings : Settings)

/-- A longer history goes on from where the shorter one stopped. -/
theorem history_append (xs ys : List (Action X)) :
    (history manager graphics settings (xs ++ ys) : Outcome Entry (Session N G S W) _) =
      let first : Outcome Entry (Session N G S W) _ := history manager graphics settings xs
      let second := (performAll ys).run first.state
      ⟨first.answer ++ second.answer, second.state, first.journal ++ second.journal⟩ := by
  simp only [history, performAll_append, Step.run_bind, Step.run_pure, List.append_nil,
    List.append_assoc]

end Session

end WindowSystem
