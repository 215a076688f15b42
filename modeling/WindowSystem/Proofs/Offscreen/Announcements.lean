/-
# What events tell about the size

The manager reports a new size when a window is resized (`ownEvents`). One who knows the size that
a window was created with and listens to these reports ought to know its size at all times. A change
of a limit can move the size too, and that is not reported (`limit_moves_size_silently`); every
other change of the size is, so the listener is right as long as no limit moves the size
(`size_changes_announced`).
-/
import WindowSystem.Proofs.Offscreen.SizeLimits

namespace WindowSystem.Offscreen

/-! ## Events that the manager sends -/

/-- The events that the manager itself puts into the queue in a moment. -/
def ownEvents (t : Moment Manager Waiter Outside) : List RawEvent :=
  match t.action with
  | .outside (.send _) => []
  | _ => t.after.queue.drop t.before.queue.length

theorem Manager.Sends.drop_queue {m m' : Manager} {events : List RawEvent}
    (h : Manager.Sends m m' events) : m'.queue.drop m.queue.length = events := by
  rw [h.queue, List.drop_left]

/-- A look at the queue never makes it longer. -/
theorem length_queue_poll (m : Manager) (token : Option Waiter) :
    ((Manager.poll token).run m).state.queue.length ≤ m.queue.length := by
  rcases m.run_poll_cases token with hrun | hrun
  · rw [hrun]
    have htook := m.took_take
    generalize Manager.take.run m = o at htook
    cases htook with
    | nothing _ => exact Nat.zero_le _
    | one hqueue _ _ =>
      rw [hqueue, List.length_append, List.length_cons]
      exact Nat.le_trans (Nat.le_succ _) (Nat.le_add_left _ _)
  · rw [hrun]

/-- The manager sends what reports a change or a new scale factor back, and nothing else. -/
theorem ownEvents_eq (t : Moment Manager Waiter Outside) :
    ownEvents t =
      match t.action with
      | .update target change => t.before.echoes target change
      | .outside (.rescale target factor) => t.before.rescaleEchoes target factor
      | _ => [] := by
  obtain ⟨m, action⟩ := t
  cases action with
  | create attributes => exact (m.sends_create attributes).drop_queue
  | destroy target => exact (m.sends_destroy target).drop_queue
  | drawable target => exact (m.sends_drawable target).drop_queue
  | update target change => exact (m.sends_update target change).drop_queue
  | query target q => exact List.drop_length
  | setDeviceFilter filter => exact List.drop_length
  | poll token => exact List.drop_eq_nil_of_le (length_queue_poll m token)
  | leave token => cases token <;> exact List.drop_length
  | outside x =>
    cases x with
    | send event => rfl
    | rescale target factor => exact (m.sends_happen (.rescale target factor)).drop_queue

/-! ## Sizes told -/

/-- The sizes that events report for the window under an identifier, in order. -/
def reportedSizes (id : WindowId) (events : List RawEvent) : List Size :=
  events.filterMap fun
    | .window target (.resized size) =>
      if SlotTable.meant id = SlotTable.meant target then some size else none
    | _ => none

theorem reportedSizes_of_forall {id : WindowId} {events : List RawEvent}
    (h : ∀ target size, .window target (.resized size) ∉ events) :
    reportedSizes id events = [] := by
  refine List.filterMap_eq_nil_iff.mpr fun event hevent => ?_
  cases event with
  | window target e =>
    cases e with
    | resized size => exact absurd hevent (h target size)
    | _ => rfl
  | _ => rfl

/-- Of what reports a change back, only the answer to a resize tells a size. -/
theorem resized_mem_echoes {m : Manager} {id target : WindowId} {change : WindowChange}
    {told : Size} (h : .window target (.resized told) ∈ m.echoes id change) :
    ∃ size, change = .innerSize size := by
  unfold Manager.echoes at h
  cases hget : m.windows.get? id with
  | none =>
    rw [hget] at h
    exact absurd h List.not_mem_nil
  | some w =>
    rw [hget] at h
    cases change with
    | innerSize size => exact ⟨size, rfl⟩
    | focus =>
      simp only at h
      split at h
      · exact absurd h List.not_mem_nil
      · simp at h
    | outerPosition position => simp at h
    | requestRedraw => simp at h
    | _ => exact absurd h List.not_mem_nil

/-- The size that the manager tells when an action means this for a window: that after a resize. -/
def Fate.toldSize (found : Option Window) : Fate → Option Size
  | undergoes (.change (.innerSize size)) => found.map (·.clamp size)
  | _ => none

/-- The size that is told is the one that a window has afterwards. -/
theorem innerSize_of_toldSize {w : Window} {deed : Deed} {told : Size}
    (h : (Fate.undergoes deed).toldSize (some w) = some told) :
    (w.undergo deed).innerSize = told := by
  cases deed with
  | change change =>
    cases change with
    | innerSize size => exact Option.some.inj h
    | _ => cases h
  | draw => cases h
  | rescale factor => cases h

/-- What reports a change back tells a size exactly for a window that is resized, and tells the one
that it then has. -/
theorem reportedSizes_echoes (m : Manager) (id target : WindowId) (change : WindowChange) :
    reportedSizes id (m.echoes target change) =
      ((Fate.on target id (.undergoes (.change change))).toldSize (m.windows.get? id)).toList := by
  by_cases hresize : ∃ size, change = .innerSize size
  · obtain ⟨size, rfl⟩ := hresize
    by_cases hsame : SlotTable.meant id = SlotTable.meant target
    · have hfound : m.windows.get? id = m.windows.get? target := by
        rw [← SlotTable.get?_meant, hsame, SlotTable.get?_meant]
      rw [Fate.on, if_pos hsame, hfound, Manager.echoes]
      cases m.windows.get? target with
      | none => rfl
      | some w => exact List.filterMap_cons_some (if_pos hsame)
    · rw [Fate.on, if_neg hsame, Manager.echoes]
      cases m.windows.get? target with
      | none => rfl
      | some w => exact List.filterMap_cons_none (if_neg hsame)
  · rw [reportedSizes_of_forall fun _ _ htold => hresize (resized_mem_echoes htold), Fate.on]
    split
    · cases change with
      | innerSize size => exact absurd ⟨size, rfl⟩ hresize
      | _ => rfl
    · rfl

/-- The manager tells a size exactly for a window that is resized, and tells the one it then has. -/
theorem reportedSizes_ownEvents (id : WindowId) (t : Moment Manager Waiter Outside) :
    reportedSizes id (ownEvents t) =
      ((fate id t).toldSize (t.before.windows.get? id)).toList := by
  rw [ownEvents_eq]
  obtain ⟨m, action⟩ := t
  cases action with
  | create attributes =>
    show [] = (Fate.toldSize _ (if _ then _ else _)).toList
    split <;> rfl
  | destroy target =>
    show [] = (Fate.toldSize _ (Fate.on target id .destroyed)).toList
    rw [Fate.on]
    split <;> rfl
  | drawable target =>
    show [] = (Fate.toldSize _ (Fate.on target id (.undergoes .draw))).toList
    rw [Fate.on]
    split <;> rfl
  | update target change => exact reportedSizes_echoes m id target change
  | outside x =>
    cases x with
    | send event => rfl
    | rescale target factor =>
      show reportedSizes id (m.rescaleEchoes target factor) =
        (Fate.toldSize _ (Fate.on target id (.undergoes (.rescale factor)))).toList
      rw [reportedSizes_of_forall (by simp [Manager.rescaleEchoes]), Fate.on]
      split <;> rfl
  | _ => rfl

/-! ## Listening -/

/-- The size that a listener takes the window under an identifier to have after another moment: the
one it is created with, or the one told last. -/
def listen (id : WindowId) (known : Option Size) (t : Moment Manager Waiter Outside) :
    Option Size :=
  match fate id t with
  | .created attributes => some (Window.ofAttributes attributes).innerSize
  | _ => (reportedSizes id (ownEvents t)).getLast?.or known

/-- The size that a listener takes the window under an identifier to have after a run. -/
def knownSize (id : WindowId) (run : List (Moment Manager Waiter Outside)) : Option Size :=
  run.foldl (listen id) none

/-- In a moment a change of a limit moves the size of the window under an identifier. -/
def MovedByLimit (id : WindowId) (t : Moment Manager Waiter Outside) : Prop :=
  ∃ (bound : Bound) (limit : Option Size) (w : Window),
    fate id t = .undergoes (.change (bound.change limit)) ∧
    t.before.windows.get? id = some w ∧
    (w.apply (bound.change limit)).innerSize ≠ w.innerSize

/-- How the sizes of a window before and after agree with those told meanwhile: if they differ, the
new one is told, and once. -/
def Announced (before after : Size) (told : List Size) : Prop := after ≠ before → told = [after]

/-- A deed that moves the size is announced unless it is a change of a limit. -/
theorem announced_iff {id : WindowId} {t : Moment Manager Waiter Outside} {w : Window} {deed : Deed}
    (hfate : fate id t = .undergoes deed) (hget : t.before.windows.get? id = some w) :
    Announced w.innerSize (w.undergo deed).innerSize (reportedSizes id (ownEvents t)) ↔
      ¬ MovedByLimit id t := by
  rw [reportedSizes_ownEvents, hfate, hget]
  constructor
  · rintro hannounced ⟨bound, limit, w', hfate', hget', hmoved⟩
    obtain rfl := Option.some.inj (hget.symm.trans hget')
    obtain rfl := Fate.undergoes.inj (hfate.symm.trans hfate')
    -- nothing is told after a change of a limit
    cases bound <;> cases hannounced hmoved
  · intro hlimit hmoved
    rcases w.undergo_cases deed with ⟨size, rfl⟩ | ⟨bound, limit, rfl⟩ | hsame
    · rfl
    · exact absurd ⟨bound, limit, w, hfate, hget, hmoved⟩ hlimit
    · exact absurd hsame.innerSize hmoved

/-- A listener who knows the size of a window still does after another moment, unless a limit moved
it. -/
theorem listen_eq {t : Moment Manager Waiter Outside} (ht : t.before.windows.Sound)
    (hfits : t.after.windows.Fits) {id : WindowId} (hlimit : ¬ MovedByLimit id t)
    {known : Option Size}
    (hknown : ∀ w, t.before.windows.get? id = some w → known = some w.innerSize) {w : Window}
    (hget : t.after.windows.get? id = some w) : listen id known t = some w.innerSize := by
  rw [get?_after t ht hfits] at hget
  cases hfate : fate id t with
  | created attributes =>
    rw [hfate] at hget
    rw [listen, hfate, ← Option.some.inj hget]
  | destroyed =>
    rw [hfate] at hget
    cases hget
  | untouched =>
    rw [hfate] at hget
    rw [listen, reportedSizes_ownEvents, hfate]
    exact hknown w hget
  | undergoes deed =>
    rw [hfate, Fate.act, Option.map_eq_some_iff] at hget
    obtain ⟨before, hbefore, rfl⟩ := hget
    have hannounced := (announced_iff hfate hbefore).mpr hlimit
    rw [reportedSizes_ownEvents, hfate, hbefore] at hannounced
    rw [listen, reportedSizes_ownEvents, hfate, hbefore]
    cases htold : (Fate.undergoes deed).toldSize (some before) with
    | some size =>
      rw [innerSize_of_toldSize htold]
      rfl
    | none =>
      rw [htold] at hannounced
      have hsize : (before.undergo deed).innerSize = before.innerSize :=
        not_not.mp fun hmoved => List.cons_ne_nil _ _ (hannounced hmoved).symm
      rw [hsize]
      exact hknown before hbefore

/-- A listener to a run in which no limit moved the size of the window under an identifier knows
the size that the window has in the end. -/
structure Follows (id : WindowId) (past : List (Moment Manager Waiter Outside)) (m : Manager) :
    Prop where
  sound : m.windows.Sound
  knownSize_eq : m.windows.Fits → (∀ t ∈ past, ¬ MovedByLimit id t) →
    ∀ w, m.windows.get? id = some w → knownSize id past = some w.innerSize

theorem follows_start (limit : Option Nat) (id : WindowId) :
    Follows id [] { limit := limit } where
  sound := SlotTable.sound_empty
  knownSize_eq _ _ w hget := by
    rw [SlotTable.get?_empty] at hget
    cases hget

theorem Follows.step {id : WindowId} {past : List (Moment Manager Waiter Outside)} {m : Manager}
    (h : Follows id past m) (a : ManagerAction Waiter Outside) :
    Follows id (past ++ [⟨m, a⟩]) (Moment.after ⟨m, a⟩) where
  sound := sound_course (Moment.course ⟨m, a⟩) h.sound
  knownSize_eq hfits hlimits w hget := by
    have hbefore := h.knownSize_eq (fits_course (Moment.course ⟨m, a⟩) hfits) fun t ht =>
      hlimits t (List.mem_append_left _ ht)
    have hnow := hlimits ⟨m, a⟩ (List.mem_append_right _ List.mem_cons_self)
    rw [knownSize, List.foldl_append, List.foldl_cons, List.foldl_nil, ← knownSize]
    exact listen_eq h.sound hfits hnow hbefore hget

/-- When a limit moves the size, nothing is told at all. -/
theorem ownEvents_of_movedByLimit {m : Manager} {id : WindowId} {change : WindowChange}
    (h : MovedByLimit id ⟨m, .update id change⟩) :
    ownEvents (⟨m, .update id change⟩ : Moment Manager Waiter Outside) = [] := by
  obtain ⟨bound, limit, w, hfate, hget, -⟩ := h
  have hchange : Fate.undergoes (.change change) = .undergoes (.change (bound.change limit)) :=
    (if_pos rfl).symm.trans hfate
  obtain rfl := Deed.change.inj (Fate.undergoes.inj hchange)
  rw [ownEvents_eq]
  simp only [Manager.echoes]
  rw [show m.windows.get? id = some w from hget]
  cases bound <;> rfl

/-- In every run the manager announces every change of the size of a window, unless it is a change
of a limit that moves it: then it sends nothing. So a listener knows the size of every window, as
long as no limit moves it. -/
theorem size_changes_announced (limit : Option Nat)
    (actions : List (ManagerAction Waiter Outside)) :
    let start : Manager := { limit := limit }
    let run := moments start actions
    let m := stateAfter start actions
    ∀ id w, m.windows.get? id = some w →
      (∀ change,
        let t : Moment Manager Waiter Outside := ⟨m, .update id change⟩
        t.after.windows.get? id = some (w.apply change) ∧
          (Announced w.innerSize (w.apply change).innerSize (reportedSizes id (ownEvents t)) ↔
            ¬ MovedByLimit id t) ∧
          (MovedByLimit id t → ownEvents t = [])) ∧
      (m.windows.Fits → (∀ t ∈ run, ¬ MovedByLimit id t) →
        knownSize id run = some w.innerSize) := by
  intro start run m id w hget
  have hend : Follows id run m :=
    moments_induction (fun _ _ a h => h.step a) (follows_start limit id) actions
  refine ⟨fun change => ⟨?_, ?_, ownEvents_of_movedByLimit⟩, ?_⟩
  · have hwindows := (m.run_update_of_get? hget change).2.1
    show ((Manager.update id change).run m).state.windows.get? id = _
    rw [hwindows, SlotTable.get?_set_self hget]
  · have hfate : fate id ⟨m, .update id change⟩ = .undergoes (.change change) := if_pos rfl
    exact announced_iff hfate hget
  · exact fun hfits hlimits => hend.knownSize_eq hfits hlimits w hget

/-- A listener knows the size of a window that was resized beyond its upper limit. -/
theorem resize_heard :
    let actions : List (ManagerAction Waiter Outside) :=
      [.create { maxInnerSize := some ⟨640, 480⟩ },
        .update ⟨4294967297⟩ (.innerSize ⟨600, 900⟩)]
    let run := moments ({ limit := none } : Manager) actions
    let m := stateAfter ({ limit := none } : Manager) actions
    m.windows.Fits ∧ ∃ w, m.windows.get? ⟨4294967297⟩ = some w ∧ w.innerSize = ⟨600, 480⟩ ∧
      knownSize ⟨4294967297⟩ run = some ⟨600, 480⟩ := by
  intro actions run m
  have hfits : m.windows.Fits := by
    show m.windows.slots.length < UInt32.size
    decide +kernel
  refine ⟨hfits, _, rfl, by decide +kernel, ?_⟩
  refine (size_changes_announced none actions ⟨4294967297⟩ _ rfl).2 hfits fun t ht => ?_
  have hfates : run.map (fate ⟨4294967297⟩) =
      [.created { maxInnerSize := some ⟨640, 480⟩ },
        .undergoes (.change (.innerSize ⟨600, 900⟩))] := by
    decide +kernel
  have hmem := List.mem_map_of_mem (f := fate ⟨4294967297⟩) ht
  rintro ⟨bound, limit, w, hfate, -⟩
  rw [hfates, hfate] at hmem
  cases bound <;> simp [Bound.change] at hmem

/-- A window that gets a lower limit above its size grows, and no event tells of it. -/
theorem limit_moves_size_silently :
    let actions : List (ManagerAction Waiter Outside) :=
      [.create {}, .update ⟨4294967297⟩ (.minInnerSize (some ⟨1000, 700⟩))]
    let run := moments ({} : Manager) actions
    (run.map fun t => (t.after.windows.get? ⟨4294967297⟩).map Window.innerSize) =
        [some ⟨800, 600⟩, some ⟨1000, 700⟩] ∧
      run.map ownEvents = [[], []] ∧
      knownSize ⟨4294967297⟩ run = some ⟨800, 600⟩ := by
  decide +kernel

end WindowSystem.Offscreen
