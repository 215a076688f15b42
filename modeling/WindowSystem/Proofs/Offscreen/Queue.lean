/-
# The queue of offscreen events

What each operation of the offscreen window manager does to its queue. Events come in at the end:
those that are injected, and those that report a change back (`Manager.echoes`). They go out at
the front, and only by a look for an event, which takes events up to the first one that is not
held back.
-/
import Mathlib.Data.List.TakeWhile
import WindowSystem.Offscreen.Manager
import WindowSystem.Proofs.Bridge.Session

namespace WindowSystem

/-- Putting back what is there changes nothing. -/
theorem SlotTable.set_get? {α : Type} {t : SlotTable α} {id : WindowId} {a : α}
    (h : t.get? id = some a) : t.set id a = t := by
  cases hp : place? id with
  | none => simp [SlotTable.set, hp]
  | some place =>
    have hslot : t.slots[place]? = some ⟨version id, some a⟩ := by
      simp only [get?, hp, Option.bind_eq_bind, Option.bind_some, Option.bind_eq_some_iff] at h
      obtain ⟨⟨v, content⟩, hslot, hcontent⟩ := h
      split at hcontent
      · next hv => rw [hslot, ← show v = version id from hv, ← hcontent]
      · cases hcontent
    have hset : t.slots.set place ⟨version id, some a⟩ = t.slots := by
      obtain ⟨hlt, hget⟩ := List.getElem?_eq_some_iff.mp hslot
      rw [← hget, List.set_getElem_self]
    simp only [SlotTable.set, hp, h, hset]

namespace Offscreen

/-- What can happen to the offscreen window manager past the bridge: someone injects an event, or
a window is moved to a monitor with another scale factor. -/
inductive Outside where
  | send (event : RawEvent)
  | rescale (id : WindowId) (factor : Double)

instance : Surroundings Outside Manager where
  happen
    | .send event => Manager.send event
    | .rescale id factor => do
      let _ ← Manager.setScaleFactor id factor
      pure ()

namespace Manager

variable (m : Manager)

/-! ## What is reported back -/

/-- The events that report a change of a window back: a new size within the limits, a new
position, a request to redraw, and the passing of the focus from a window that is still there. -/
def echoes (id : WindowId) (change : WindowChange) : List RawEvent :=
  match m.windows.get? id with
  | none => []
  | some w =>
    match change with
    | .innerSize size => [.window id (.resized (w.clamp size))]
    | .outerPosition position => [.window id (.moved position)]
    | .requestRedraw => [.window id .redrawRequested]
    | .focus =>
      if m.focused = some id then []
      else
        (m.focused.filter m.windows.contains).toList.map (Event.window · (.focused false)) ++
          [.window id (.focused true)]
    | _ => []

/-- The event that reports a new scale factor back. -/
def rescaleEchoes (id : WindowId) (factor : Double) : List RawEvent :=
  if m.windows.contains id then [.window id (.scaleFactorChanged factor)] else []

/-- An operation puts events at the end of the queue and leaves the claim to it alone. -/
structure Sends (m m' : Manager) (events : List RawEvent) : Prop where
  queue : m'.queue = m.queue ++ events
  claimed : m'.claimed = m.claimed

/-- An operation that leaves queue and claim alone sends nothing. -/
theorem sends_nil {m m' : Manager} (hqueue : m'.queue = m.queue)
    (hclaimed : m'.claimed = m.claimed) : Sends m m' [] :=
  ⟨by rw [hqueue, List.append_nil], hclaimed⟩

theorem sends_create (attributes : WindowAttributes) :
    Sends m ((create attributes).run m).state [] := by
  unfold create
  rw [Step.run_bind, Step.run_get]
  cases m.limit.filter (· ≤ m.windows.size) <;> exact sends_nil rfl rfl

theorem sends_destroy (id : WindowId) : Sends m ((destroy id).run m).state [] := by
  unfold destroy
  rw [Step.run_bind, Step.run_get]
  cases hc : m.windows.contains id with
  | true =>
    simp only [if_true]
    exact sends_nil rfl rfl
  | false =>
    simp only [Bool.false_eq_true, if_false]
    exact sends_nil rfl rfl

theorem sends_drawable (id : WindowId) : Sends m ((drawable id).run m).state [] := by
  unfold drawable
  rw [Step.run_bind, Step.run_get]
  cases hw : m.windows.get? id with
  | none => exact sends_nil rfl rfl
  | some w =>
    cases hi : w.drawableIssued with
    | true =>
      simp only [hi, if_true]
      exact sends_nil rfl rfl
    | false =>
      simp only [hi, Bool.false_eq_true, if_false]
      exact sends_nil rfl rfl

/-- Giving a window the focus tells both windows concerned. -/
theorem sends_focus {id : WindowId} {w : Window} (hw : m.windows.get? id = some w) :
    Sends m ((focus id).run m).state (m.echoes id .focus) := by
  unfold focus
  rw [Step.run_bind, Step.run_get]
  by_cases hf : m.focused = some id
  · simp only [echoes, hw, hf, Step.run_bind, Step.run_modify, if_true, Step.run_pure]
    exact sends_nil rfl rfl
  · simp only [echoes, hw, hf, Step.run_bind, Step.run_modify, if_false]
    cases m.focused.filter m.windows.contains with
    | none => exact ⟨rfl, rfl⟩
    | some previous => exact ⟨List.append_assoc _ _ _, rfl⟩

/-- A change is reported back to the end of the queue. -/
theorem sends_update (id : WindowId) (change : WindowChange) :
    Sends m ((update id change).run m).state (m.echoes id change) := by
  unfold update
  rw [Step.run_bind, Step.run_get]
  cases hw : m.windows.get? id with
  | none =>
    have hnone : m.echoes id change = [] := by simp only [echoes, hw]
    rw [hnone]
    exact sends_nil rfl rfl
  | some w =>
    cases change with
    | focus =>
      -- a window that is given the focus is stored as it was
      have hsame : ({ m with windows := m.windows.set id (w.apply .focus) } : Manager) = m := by
        rw [Window.apply, SlotTable.set_get? hw]
      simp only [Step.run_bind, Step.run_modify, hsame, echo, Step.run_pure]
      exact m.sends_focus hw
    | innerSize size => simp only [echoes, hw]; exact ⟨rfl, rfl⟩
    | outerPosition position => simp only [echoes, hw]; exact ⟨rfl, rfl⟩
    | requestRedraw => simp only [echoes, hw]; exact ⟨rfl, rfl⟩
    | _ => simp only [echoes, hw]; exact sends_nil rfl rfl

/-- What happens past the bridge puts at most one event into the queue. -/
theorem sends_happen (x : Outside) :
    Sends m ((Surroundings.happen x : Step Note Manager Unit).run m).state
      (match x with
        | .send event => [event]
        | .rescale id factor => m.rescaleEchoes id factor) := by
  cases x with
  | send event => exact ⟨rfl, rfl⟩
  | rescale id factor =>
    show Sends m ((setScaleFactor id factor).run m).state _
    unfold setScaleFactor
    rw [Step.run_bind, Step.run_get]
    cases hw : m.windows.get? id with
    | none =>
      simp only [rescaleEchoes, SlotTable.contains, hw]
      exact sends_nil rfl rfl
    | some w =>
      simp only [rescaleEchoes, SlotTable.contains, hw]
      exact ⟨rfl, rfl⟩

/-! ## Looking for an event -/

/-- How a look at the queue comes out: all events were held back and the one who looks waits, or
the first one that is not held back is handed out. -/
inductive Took : Outcome Note Manager (Poll Waiter (Except BackendError RawEvent)) → Prop where
  | nothing {notes : List Note} (h : ∀ event ∈ m.queue, m.delivers event = false) :
    Took ⟨.pending .holder, { m with queue := [], claimed := true }, notes⟩
  | one {notes : List Note} {heldBack rest : List RawEvent} {event : RawEvent}
      (hqueue : m.queue = heldBack ++ event :: rest)
      (hheld : ∀ e ∈ heldBack, m.delivers e = false) (hevent : m.delivers event = true) :
    Took ⟨.ready (.ok event), { m with queue := rest, claimed := false }, notes⟩

theorem took_take : m.Took (take.run m) := by
  show m.Took (take m)
  unfold take
  -- the queue up to the first event that is let through, and the rest
  have hsplit := List.takeWhile_append_dropWhile (p := fun e => !m.delivers e) (l := m.queue)
  have hheld : ∀ e ∈ m.queue.takeWhile fun e => !m.delivers e, m.delivers e = false := by
    intro e he
    have hp := List.mem_takeWhile_imp he
    rwa [Bool.not_eq_true'] at hp
  cases hd : m.queue.dropWhile fun e => !m.delivers e with
  | nil =>
    rw [hd, List.append_nil] at hsplit
    rw [hsplit] at hheld
    exact .nothing hheld
  | cons event rest =>
    have hne : m.queue.dropWhile (fun e => !m.delivers e) ≠ [] := by simp [hd]
    have hfirst := List.head_dropWhile_not (fun e => !m.delivers e) hne
    simp only [hd, List.head_cons, Bool.not_eq_false'] at hfirst
    rw [hd] at hsplit
    exact .one hsplit.symm hheld hfirst

/-- Whoever looks takes from the queue, or waits behind the one who does. -/
theorem run_poll_cases (token : Option Waiter) :
    (poll token).run m = take.run m ∨ (poll token).run m = ⟨.pending .behind, m, []⟩ := by
  rcases token with _ | (_ | _)
  · unfold poll
    rw [Step.run_bind, Step.run_get]
    cases m.claimed with
    | true => exact Or.inr rfl
    | false => exact Or.inl rfl
  · exact Or.inl rfl
  · unfold poll
    rw [Step.run_bind, Step.run_get]
    cases m.claimed with
    | true => exact Or.inr rfl
    | false => exact Or.inl rfl

/-- What a look hands out was in the queue. -/
theorem mem_queue_of_poll {token : Option Waiter} {event : RawEvent}
    (h : ((poll token).run m).answer = .ready (.ok event)) : event ∈ m.queue := by
  rcases m.run_poll_cases token with hrun | hrun
  · rw [hrun] at h
    have htook := m.took_take
    generalize take.run m = o at htook h
    cases htook with
    | nothing _ => cases h
    | one hqueue _ _ =>
      cases h
      rw [hqueue]
      exact List.mem_append_right _ List.mem_cons_self
  · rw [hrun] at h
    cases h

end Manager

end Offscreen

end WindowSystem
