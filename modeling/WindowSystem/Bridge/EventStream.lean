/-
# The event stream

Hands the events of a window manager to one consumer at a time. A consumer starts to wait when it
first looks for an event and found none; until it has got one, or gives up, every other consumer
is refused. The stream keeps no events of its own: it passes each on as it comes, with the
identifier of its window resolved.
-/
import WindowSystem.Failure
import WindowSystem.Manager.Basic

namespace WindowSystem

/-- A window manager with the mark that some consumer waits for its next event. -/
structure EventStream (N : Type) where
  manager : N
  waiting : Bool := false

/-- Someone who wants the next event: one who has not looked yet, or one who waits. -/
inductive Consumer (W : Type) where
  | fresh
  | waiting (token : W)
  deriving DecidableEq, Repr

namespace EventStream

variable {N W T α : Type} [WindowManager N W]

/-- A step of the window manager. -/
def onManager (s : Step Note N α) : Step Entry (EventStream N) α :=
  (s.mapJournal (Entry.note .manager)).within EventStream.manager fun n stream =>
    { stream with manager := n }

/-- A call to the window manager, which is entered into the journal with its answer. -/
def ask (s : Step Note N α) (call : α → Call) : Step Entry (EventStream N) α := do
  let answer ← onManager s
  Step.write (.call (call answer))
  pure answer

/-- Marks whether a consumer waits. -/
def setWaiting (isWaiting : Bool) : Step Entry (EventStream N) Unit :=
  Step.modify fun stream => { stream with waiting := isWaiting }

/-- An event whose window is resolved. An event of a window that is gone is kept, without it. -/
def resolved (resolve : WindowId → Option T) (event : RawEvent) :
    Step Entry (EventStream N) (Event (Option T)) := do
  Entry.say .trace ("dispatching " ++ event.kind)
  match event.window? with
  | some id =>
    if (resolve id).isNone then
      Entry.say .debug ("window " ++ id.text ++ " was destroyed before its event was drained")
  | none => pure ()
  pure (event.mapWindow resolve)

/-- Looks for the next event on behalf of the consumer who waits. -/
def look (resolve : WindowId → Option T) (token : Option W) :
    Step Entry (EventStream N) (Poll (Consumer W) (Except BridgeError (Event (Option T)))) := do
  match ← ask (WindowManager.poll token) fun answer => .poll answer.answer? with
  | .pending token => pure (.pending (.waiting token))
  | .ready (.error e) =>
    setWaiting false
    pure (.ready (.error (.backend e)))
  | .ready (.ok raw) =>
    let event ← resolved resolve raw
    setWaiting false
    pure (.ready (.ok event))

/-- Looks for the next event on behalf of a consumer. -/
def poll (resolve : WindowId → Option T) :
    Consumer W →
    Step Entry (EventStream N) (Poll (Consumer W) (Except BridgeError (Event (Option T))))
  | .fresh => do
    if (← Step.get).waiting then pure (.ready (.error .eventStreamBusy))
    else
      setWaiting true
      look resolve none
  | .waiting token => look resolve (some token)

/-- A consumer gives up. -/
def cancel : Consumer W → Step Entry (EventStream N) Unit
  | .fresh => pure ()
  | .waiting token => do
    ask (WindowManager.leave token) fun _ => .leave
    setWaiting false

end EventStream

end WindowSystem
