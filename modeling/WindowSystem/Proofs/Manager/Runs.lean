/-
# Runs of a window manager

A window manager does what it is asked in any order and about any identifiers, also without a
bridge, while around it happens what will (`ManagerAction`). A run is told by its moments: the
actions, each with the state in which it found the manager (`moments`). The calls made in it are
answered one after another, as in any course of the manager (`course_moments`).
-/
import WindowSystem.Proofs.Bridge.Course
import WindowSystem.Proofs.Bridge.Handles

namespace WindowSystem

/-- A call to a window manager, or something that happens to it, told by an `X`. -/
inductive ManagerAction (W X : Type) where
  | create (attributes : WindowAttributes)
  | destroy (id : WindowId)
  | drawable (id : WindowId)
  | update (id : WindowId) (change : WindowChange)
  | query (id : WindowId) (q : Query)
  | setDeviceFilter (filter : DeviceFilter)
  | poll (token : Option W)
  | leave (token : W)
  | outside (x : X)

/-- What happens past the bridge. -/
def ManagerAction.outside? {W X : Type} : ManagerAction W X → Option X
  | .outside x => some x
  | _ => none

/-- What happens past the bridge. -/
def Action.outside? {X : Type} : Action X → Option X
  | .outside x => some x
  | _ => none

/-- The event with which a call was answered. -/
def Call.event? : Call → Option RawEvent
  | .poll (some (.ok event)) => some event
  | _ => none

/-- No identifier is handed out by the graphics backend. -/
theorem mintedIds_managerCalls (calls : List Call) :
    mintedIds (managerCalls calls) = mintedIds calls :=
  filterMap_managerCalls (fun c hc => by cases c <;> first | rfl | exact hc.elim) calls

/-- No event is handed out by the graphics backend. -/
theorem filterMap_event?_managerCalls (calls : List Call) :
    (managerCalls calls).filterMap Call.event? = calls.filterMap Call.event? :=
  filterMap_managerCalls (fun c hc => by cases c <;> first | rfl | exact hc.elim) calls

section Runs

variable {N W X : Type} [WindowManager N W] [Surroundings X N]

/-- Does what an action says. The answer is the call, if it is one, as journals record it. -/
def ManagerAction.perform : ManagerAction W X → Step Note N (Option Call)
  | .create attributes => do
    let answer ← WindowManager.create attributes
    pure (some (.create attributes answer))
  | .destroy id => do
    WindowManager.destroy id
    pure (some (.destroy id))
  | .drawable id => do
    let answer ← WindowManager.drawable id
    pure (some (.drawable id answer))
  | .update id change => do
    let answer ← WindowManager.update id change
    pure (some (.update id change answer))
  | .query id q => do
    let answer ← WindowManager.query q id
    pure (some (.query id q answer))
  | .setDeviceFilter filter => do
    WindowManager.setDeviceFilter filter
    pure (some (.setDeviceFilter filter))
  | .poll token => do
    let seen ← WindowManager.poll token
    pure (some (.poll seen.answer?))
  | .leave token => do
    WindowManager.leave token
    pure (some .leave)
  | .outside x => do
    Surroundings.happen x
    pure none

/-- An action in a run, with the state in which it found the manager. -/
structure Moment (N W X : Type) where
  before : N
  action : ManagerAction W X

namespace Moment

/-- The state in which an action left the manager. -/
def after (t : Moment N W X) : N := (t.action.perform.run t.before).state

/-- The call that was made, with its answer. -/
def call? (t : Moment N W X) : Option Call := (t.action.perform.run t.before).answer

/-- The identifier that was handed out for a new window. -/
def mintedId? (t : Moment N W X) : Option WindowId := t.call?.bind Call.mintedId?

/-- The event that was handed out. -/
def event? (t : Moment N W X) : Option RawEvent := t.call?.bind Call.event?

end Moment

/-- The moments of a run that begins in a state. -/
def moments (n : N) : List (ManagerAction W X) → List (Moment N W X)
  | [] => []
  | a :: rest => ⟨n, a⟩ :: moments (Moment.after ⟨n, a⟩) rest

/-- The state at the end of a run. -/
def stateAfter (n : N) : List (ManagerAction W X) → N
  | [] => n
  | a :: rest => stateAfter (Moment.after ⟨n, a⟩) rest

/-- The calls made in a run, in order. -/
def callsOf (run : List (Moment N W X)) : List Call := run.filterMap Moment.call?

/-- The identifiers handed out in a run, in order. -/
def minted (run : List (Moment N W X)) : List WindowId := run.filterMap Moment.mintedId?

/-- The events handed out in a run, in order. -/
def delivered (run : List (Moment N W X)) : List RawEvent := run.filterMap Moment.event?

variable {P : List (Moment N W X) → N → Prop} {past : List (Moment N W X)} {n : N}

section Concat

variable {t : Moment N W X}

omit P past n [WindowManager N W] [Surroundings X N] in
/-- What is read off a list and one more is read off the list and then off the one more. -/
theorem filterMap_concat {α β : Type} (f : α → Option β) (l : List α) (a : α) :
    (l ++ [a]).filterMap f = l.filterMap f ++ (f a).toList := by
  rw [List.filterMap_append, List.filterMap_cons]
  cases f a <;> rfl

theorem callsOf_append (first second : List (Moment N W X)) :
    callsOf (first ++ second) = callsOf first ++ callsOf second := List.filterMap_append

theorem callsOf_concat : callsOf (past ++ [t]) = callsOf past ++ t.call?.toList :=
  filterMap_concat _ _ _

theorem minted_concat : minted (past ++ [t]) = minted past ++ t.mintedId?.toList :=
  filterMap_concat _ _ _

theorem minted_concat_of_none (h : t.mintedId? = none) : minted (past ++ [t]) = minted past := by
  rw [minted_concat, h, Option.toList_none, List.append_nil]

end Concat

omit P past in
/-- The moments of a run are those of its actions. -/
theorem action_mem_of_mem_moments {actions : List (ManagerAction W X)} {t : Moment N W X}
    (ht : t ∈ moments n actions) : t.action ∈ actions := by
  induction actions generalizing n with
  | nil => exact absurd ht List.not_mem_nil
  | cons a rest ih =>
    rcases List.mem_cons.mp ht with rfl | hlater
    · exact List.mem_cons_self
    · exact List.mem_cons_of_mem a (ih hlater)

/-- What every action keeps holds at the end of a run. -/
theorem moments_induction
    (hstep : ∀ past n a, P past n → P (past ++ [⟨n, a⟩]) (Moment.after ⟨n, a⟩))
    (h : P past n) (actions : List (ManagerAction W X)) :
    P (past ++ moments n actions) (stateAfter n actions) := by
  induction actions generalizing past n with
  | nil =>
    rw [moments, List.append_nil]
    exact h
  | cons a rest ih =>
    rw [moments, List.append_cons]
    exact ih (hstep past n a h)

omit P past in
/-- An action is a call that the manager answers, or it happens past the bridge. -/
theorem Moment.course (t : Moment N W X) : Course X t.before t.call?.toList t.after := by
  obtain ⟨n, action⟩ := t
  cases action with
  | create attributes => exact .call (.create n attributes) .nil
  | destroy id => exact .call (.destroy n id) .nil
  | drawable id => exact .call (.drawable n id) .nil
  | update id change => exact .call (.update n id change) .nil
  | query id q => exact .call (.query n id q) .nil
  | setDeviceFilter filter => exact .call (.setDeviceFilter n filter) .nil
  | poll token => exact .call (.poll n token) .nil
  | leave token => exact .call (.leave n token) .nil
  | outside x => exact .outside x .nil

/-- The manager answers the calls of a run one after another. -/
theorem course_moments (n : N) (actions : List (ManagerAction W X)) :
    Course X n (callsOf (moments n actions)) (stateAfter n actions) := by
  induction actions generalizing n with
  | nil => exact .nil
  | cons a rest ih =>
    have hcalls : callsOf (moments n (a :: rest)) =
        (Moment.call? ⟨n, a⟩).toList ++ callsOf (moments (Moment.after ⟨n, a⟩) rest) := by
      rw [moments, callsOf, List.filterMap_cons]
      cases Moment.call? ⟨n, a⟩ <;> rfl
    rw [hcalls]
    exact (Moment.course ⟨n, a⟩).append (ih _)

/-- The identifiers handed out in a run are those handed out in its calls. -/
theorem mintedIds_callsOf (run : List (Moment N W X)) : mintedIds (callsOf run) = minted run := by
  rw [mintedIds, callsOf, List.filterMap_filterMap]
  rfl

omit P past n in
/-- No call of a run is made to the graphics backend. -/
theorem Moment.not_isGraphics {t : Moment N W X} {c : Call} (h : t.call? = some c) :
    ¬ c.IsGraphics := by
  obtain ⟨n, action⟩ := t
  cases action <;> cases h <;> exact id

omit P past in
theorem moments_append (first second : List (ManagerAction W X)) :
    moments n (first ++ second) = moments n first ++ moments (stateAfter n first) second := by
  induction first generalizing n with
  | nil => rfl
  | cons a rest ih => exact congrArg (_ :: ·) ih

omit P past in
theorem stateAfter_append (first second : List (ManagerAction W X)) :
    stateAfter n (first ++ second) = stateAfter (stateAfter n first) second := by
  induction first generalizing n with
  | nil => rfl
  | cons a rest ih => exact ih

end Runs

end WindowSystem
