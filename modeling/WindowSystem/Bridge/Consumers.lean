/-
# Consumers by name

Several consumers of one event source, each under a name of its own. A consumer that got an event
or was refused is gone; one that gave up, or whose name was taken by another, is told to leave.
-/
import WindowSystem.Bridge.EventStream

namespace WindowSystem

/-- Consumers under their names. -/
structure Consumers (W : Type) where
  byName : List (String × Consumer W) := []

/-- How consumers of type `W` look for an `α` at a source with state `σ`, and how they leave. -/
structure Source (ω σ W α : Type) where
  poll : Consumer W → Step ω σ (Poll (Consumer W) α)
  cancel : Consumer W → Step ω σ Unit

namespace Consumers

variable {ω σ W α : Type}

/-- The consumer under a name. -/
def find? (c : Consumers W) (name : String) : Option (Consumer W) :=
  (c.byName.find? fun entry => entry.1 = name).map Prod.snd

/-- The consumers under other names. -/
def erase (c : Consumers W) (name : String) : Consumers W :=
  ⟨c.byName.filter fun entry => entry.1 ≠ name⟩

/-- Puts a consumer under a name. -/
def put (c : Consumers W) (name : String) (consumer : Consumer W) : Consumers W :=
  ⟨(c.erase name).byName ++ [(name, consumer)]⟩

/-- A source together with its consumers. -/
abbrev Crowd (σ W : Type) := σ × Consumers W

/-- A step of the source. -/
def onSource (s : Step ω σ α) : Step ω (Crowd σ W) α :=
  s.within Prod.fst fun source crowd => (source, crowd.2)

/-- A change of the consumers. -/
def change (f : Consumers W → Consumers W) : Step ω (Crowd σ W) Unit :=
  Step.modify fun crowd => (crowd.1, f crowd.2)

/-- A consumer leaves, if there is one. -/
def dismiss (source : Source ω σ W α) : Option (Consumer W) → Step ω (Crowd σ W) Unit
  | some consumer => onSource (source.cancel consumer)
  | none => pure ()

/-- A new consumer comes under a name; one that was there before leaves. -/
def come (source : Source ω σ W α) (name : String) : Step ω (Crowd σ W) Unit := do
  let before := (← Step.get).2.find? name
  change fun c => c.put name .fresh
  dismiss source before

/-- The consumer under a name looks once. Nothing comes of it if there is none. -/
def poll (source : Source ω σ W α) (name : String) :
    Step ω (Crowd σ W) (Option (Poll Unit α)) := do
  match (← Step.get).2.find? name with
  | none => pure none
  | some consumer =>
    match ← onSource (source.poll consumer) with
    | .pending consumer =>
      change fun c => c.put name consumer
      pure (some (.pending ()))
    | .ready answer =>
      change fun c => c.erase name
      pure (some (.ready answer))

/-- The consumer under a name leaves. Answers whether there was one. -/
def leave (source : Source ω σ W α) (name : String) : Step ω (Crowd σ W) Bool := do
  let consumer := (← Step.get).2.find? name
  change fun c => c.erase name
  dismiss source consumer
  pure consumer.isSome

/-- All consumers leave. -/
def leaveAll (source : Source ω σ W α) : Step ω (Crowd σ W) Unit := do
  let all := (← Step.get).2.byName
  change fun _ => {}
  Step.forEach (fun entry => onSource (source.cancel entry.2)) all

/-- A new consumer looks once and leaves if there was nothing. -/
def once (source : Source ω σ W α) : Step ω σ (Option α) := do
  match ← source.poll .fresh with
  | .pending consumer =>
    source.cancel consumer
    pure none
  | .ready answer => pure (some answer)

end Consumers

end WindowSystem
