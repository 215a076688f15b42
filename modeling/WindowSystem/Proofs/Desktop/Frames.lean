/-
# The frames of the desktop manager

The desktop window manager hands out events in frames. Each look at its display (`Pump`) takes all
that was reported about its windows and brings it into the order of time, and puts the frame of
this behind the events that are pending (`Pump.IsFrame`). So whatever is done with the manager,
the events handed out and those still pending are the frames of its looks, one after another
(`delivered_append_pending`).
-/
import Mathlib.Data.List.DropRight
import Mathlib.Data.List.Forall2
import WindowSystem.Proofs.Desktop.TimeOrder
import WindowSystem.Proofs.Desktop.Windows
import WindowSystem.Proofs.Manager.Runs

namespace WindowSystem.Desktop

/-! ## What reports tell -/

/-- An event of a frame, with the modifiers that were reported with it. -/
structure Told where
  event : RawEvent
  held : Option InputModifiers := none
  deriving DecidableEq

/-- What a report about a window tells scripts while some modifiers are known, with its time: first
a change of the modifiers, then what was reported with them. -/
def StampedReport.tells (known : Modifiers) (id : WindowId) (r : StampedReport) :
    List (Double × Told) :=
  ((r.report.modifierChange known).map fun e => (r.time, { event := .window id e })) ++
    r.report.windowEvents.map fun e =>
      (r.time, { event := .window id e, held := r.report.modifiers? })

/-- The modifiers known after a report. -/
def StampedReport.knownAfter (known : Modifiers) (r : StampedReport) : Modifiers :=
  (r.report.modifiers?.map InputModifiers.told).getD known

/-- What reports about windows tell scripts, each with its time. -/
def tellAll (known : Modifiers) : List (WindowId × StampedReport) → List (Double × Told)
  | [] => []
  | (id, r) :: rest => r.tells known id ++ tellAll (r.knownAfter known) rest

/-- The modifiers known after some reports. -/
def knownAfter (known : Modifiers) (reports : List (WindowId × StampedReport)) : Modifiers :=
  reports.foldl (fun known entry => entry.2.knownAfter known) known

/-- An event with its time, without what it was reported with. -/
def Told.timed (a : Double × Told) : Double × RawEvent := (a.1, a.2.event)

theorem run_translate (id : WindowId) (r : StampedReport) (known : Modifiers) :
    ((r.report.translate id).run known).answer.map (r.time, ·) =
        (r.tells known id).map Told.timed ∧
      ((r.report.translate id).run known).state = r.knownAfter known := by
  have htells : ((r.report.modifierChange known ++ r.report.windowEvents).map
      (Event.window id ·)).map (r.time, ·) = (r.tells known id).map Told.timed := by
    rw [StampedReport.tells, List.map_append, List.map_append, List.map_append, List.map_map,
      List.map_map, List.map_map, List.map_map]
    rfl
  unfold Report.translate
  cases r.report.ignoredLabel? with
  | none => exact ⟨htells, rfl⟩
  | some label => exact ⟨htells, rfl⟩

/-- The manager tells what the reports tell. -/
theorem run_translateAll (known : Modifiers) (reports : List (WindowId × StampedReport)) :
    ((Manager.translateAll reports).run known).answer = (tellAll known reports).map Told.timed ∧
      ((Manager.translateAll reports).run known).state = knownAfter known reports := by
  induction reports generalizing known with
  | nil => exact ⟨rfl, rfl⟩
  | cons entry rest ih =>
    obtain ⟨id, r⟩ := entry
    obtain ⟨hanswer, hstate⟩ := run_translate id r known
    obtain ⟨hanswers, hstates⟩ := ih (r.knownAfter known)
    rw [Manager.translateAll, Step.run_bind, Step.run_bind, Step.run_pure, hstate]
    refine ⟨?_, hstates⟩
    show _ ++ ((Manager.translateAll rest).run (r.knownAfter known)).answer = _
    rw [hanswer, hanswers, tellAll, List.map_append]

/-- What a report tells has its time and concerns its window. -/
theorem of_mem_tells {known : Modifiers} {id : WindowId} {r : StampedReport} {a : Double × Told}
    (h : a ∈ r.tells known id) : a.1 = r.time ∧ a.2.event.window? = some id := by
  rcases List.mem_append.mp h with hchange | hevent
  · obtain ⟨e, -, rfl⟩ := List.mem_map.mp hchange
    exact ⟨rfl, rfl⟩
  · obtain ⟨e, -, rfl⟩ := List.mem_map.mp hevent
    exact ⟨rfl, rfl⟩

theorem mem_tellAll {known : Modifiers} {reports : List (WindowId × StampedReport)}
    {a : Double × Told} (h : a ∈ tellAll known reports) :
    ∃ entry ∈ reports, ∃ known', a ∈ entry.2.tells known' entry.1 := by
  induction reports generalizing known with
  | nil => exact absurd h List.not_mem_nil
  | cons entry rest ih =>
    rcases List.mem_append.mp h with hfirst | hrest
    · exact ⟨entry, List.mem_cons_self, known, hfirst⟩
    · obtain ⟨other, hother, hmem⟩ := ih hrest
      exact ⟨other, List.mem_cons_of_mem _ hother, hmem⟩

/-- What is told by some of the reports is in the order of time if these are. -/
theorem pairwise_tellAll {p : Told → Bool} {q : WindowId × StampedReport → Bool}
    (hpq : ∀ known entry a, a ∈ StampedReport.tells known entry.1 entry.2 → p a.2 → q entry)
    {reports : List (WindowId × StampedReport)}
    (h : (reports.filter q).Pairwise fun a b => a.2.time.rank ≤ b.2.time.rank)
    (known : Modifiers) :
    ((tellAll known reports).filter fun a => p a.2).Pairwise fun a b => a.1.rank ≤ b.1.rank := by
  induction reports generalizing known with
  | nil => exact .nil
  | cons entry rest ih =>
    obtain ⟨id, r⟩ := entry
    have hrest : (rest.filter q).Pairwise fun a b => a.2.time.rank ≤ b.2.time.rank :=
      h.sublist ((List.sublist_cons_self _ rest).filter q)
    rw [tellAll, List.filter_append, List.pairwise_append]
    refine ⟨?_, ih hrest _, fun a ha b hb => ?_⟩
    · refine List.pairwise_iff_forall_sublist.mpr fun {a b} hab => ?_
      have hmem : ∀ c ∈ [a, b], c.1 = r.time := fun c hc =>
        (of_mem_tells (List.mem_filter.mp (hab.subset hc)).1).1
      have hb := hmem b (List.mem_cons_of_mem _ List.mem_cons_self)
      exact Int.le_of_eq (by rw [hmem a List.mem_cons_self, hb])
    · rw [List.mem_filter] at ha hb
      obtain ⟨entry', hentry', known', hb'⟩ := mem_tellAll hb.1
      have hq : q (id, r) = true := hpq known (id, r) a ha.1 ha.2
      rw [List.filter_cons_of_pos hq, List.pairwise_cons] at h
      have hle := h.1 entry' (List.mem_filter.mpr ⟨hentry', hpq known' entry' b hb' hb.2⟩)
      rw [(of_mem_tells ha.1).1, (of_mem_tells hb').1]
      exact hle

/-! ## Looks at the display -/

/-- The window that an action asks to be redrawn, as the action names it. -/
def asked? (t : Moment Manager Nat Outside) : Option WindowId :=
  match t.action with
  | .update id change =>
    if change = .requestRedraw ∧ t.before.windows.contains id then some id else none
  | _ => none

/-- The window that an action destroys, as the action names it. -/
def destroyed? (t : Moment Manager Nat Outside) : Option WindowId :=
  match t.action with
  | .destroy id => if t.before.windows.contains id then some id else none
  | _ => none

/-- Whether an action looks at the display: it asks for an event, not too early, and none is
pending. -/
def isPump (t : Moment Manager Nat Outside) : Bool :=
  match t.action with
  | .poll token => !(token.filter (t.before.clock < ·)).isSome && t.before.pending.isEmpty
  | _ => false

/-- A look at the display, with what was done before and the manager that looked. -/
structure Pump where
  past : List (Moment Manager Nat Outside)
  manager : Manager

/-- The looks of a run that something was done before. -/
def pumpsAfter (past : List (Moment Manager Nat Outside)) :
    List (Moment Manager Nat Outside) → List Pump
  | [] => []
  | t :: rest =>
    (if isPump t then [⟨past, t.before⟩] else []) ++ pumpsAfter (past ++ [t]) rest

/-- The looks of a run. -/
def pumps (run : List (Moment Manager Nat Outside)) : List Pump := pumpsAfter [] run

namespace Pump

/-- All that was found, window by window and report by report. -/
def found (p : Pump) : List (Double × Told) := tellAll p.manager.modifiers p.manager.reports

/-- The frame of a batch of events and of windows to be redrawn; nothing, if there are none of
both. -/
inductive Framed (batch : List Told) (redraws : List WindowId) : List Told → Prop where
  | nothing (hbatch : batch = []) (hredraws : redraws = []) : Framed batch redraws []
  | complete (h : batch ≠ [] ∨ redraws ≠ []) :
    Framed batch redraws
      ([{ event := .lifecycle .newEvents }] ++ batch ++
        [{ event := .lifecycle .mainEventsCleared }] ++
        redraws.map (fun id => { event := .window id .redrawRequested }) ++
        [{ event := .lifecycle .redrawEventsCleared }])

/-- The frame of a look: around what was found, in the order of time, and the windows that are to be
redrawn. -/
def IsFrame (p : Pump) (frame : List Told) : Prop :=
  ∃ batch, InTimeOrder p.found batch ∧ Framed batch p.manager.redrawRequests frame

/-- There is only one frame of a look. -/
theorem IsFrame.unique {p : Pump} {frame frame' : List Told} (h : p.IsFrame frame)
    (h' : p.IsFrame frame') : frame = frame' := by
  obtain ⟨batch, hordered, hframed⟩ := h
  obtain ⟨batch', hordered', hframed'⟩ := h'
  obtain rfl := hordered.unique hordered'
  cases hframed with
  | nothing hbatch hredraws =>
    cases hframed' with
    | nothing _ _ => rfl
    | complete hsome => exact absurd hsome (by simp [hbatch, hredraws])
  | complete hsome =>
    cases hframed' with
    | nothing hbatch hredraws => exact absurd hsome (by simp [hbatch, hredraws])
    | complete _ => rfl

end Pump

/-- The manager sorts events as what is told is sorted. -/
theorem inTimeOrder_map_timed (found : List (Double × Told)) :
    Manager.inTimeOrder (found.map Told.timed) =
      ((found.mergeSort fun a b => a.1.rankLe b.1).map Prod.snd).map Told.event := by
  have hsort : (found.mergeSort fun a b => a.1.rankLe b.1).map Told.timed =
      (found.map Told.timed).mergeSort fun a b => a.1.rankLe b.1 :=
    List.map_mergeSort fun _ _ _ _ => rfl
  rw [Manager.inTimeOrder, ← hsort, List.map_map, List.map_map]
  rfl

/-- The manager frames events as what is told is framed. -/
theorem exists_framed (batch : List Told) (redraws : List WindowId) :
    ∃ frame, Pump.Framed batch redraws frame ∧
      Manager.frame (batch.map Told.event) redraws = frame.map Told.event := by
  by_cases h : batch = [] ∧ redraws = []
  · obtain ⟨hbatch, hredraws⟩ := h
    refine ⟨[], .nothing hbatch hredraws, ?_⟩
    rw [hbatch, hredraws]
    rfl
  · have hsome : batch ≠ [] ∨ redraws ≠ [] := by
      rw [not_and_or] at h
      exact h
    have hframe : ((batch.map Told.event).isEmpty && redraws.isEmpty) = false := by
      rw [Bool.and_eq_false_iff]
      simpa using hsome
    refine ⟨_, .complete hsome, ?_⟩
    rw [Manager.frame, hframe]
    simp

/-- What a look leaves: reports and requests to redraw are taken, and a frame is pending. -/
def Manager.looked (m : Manager) (frame : List Told) : Manager :=
  { m with
    modifiers := knownAfter m.modifiers m.reports
    display := m.display.takeReports (m.windows.toList.map fun entry => entry.2.number)
    redrawRequests := []
    pending := m.pending ++ frame.map Told.event }

theorem run_pump (past : List (Moment Manager Nat Outside)) (m : Manager) :
    ∃ frame, Pump.IsFrame ⟨past, m⟩ frame ∧ (Manager.pump.run m).state = m.looked frame := by
  obtain ⟨hanswer, hstate⟩ := run_translateAll m.modifiers m.reports
  let found := tellAll m.modifiers m.reports
  obtain ⟨frame, hframed, heq⟩ := exists_framed
    ((found.mergeSort fun a b => a.1.rankLe b.1).map Prod.snd) m.redrawRequests
  refine ⟨frame, ⟨_, inTimeOrder_mergeSort found, hframed⟩, ?_⟩
  unfold Manager.pump Manager.looked
  simp only [Step.run_bind, Step.run_get, Step.run_within, Step.run_modify]
  rw [hanswer, hstate, inTimeOrder_map_timed, heq]

/-! ## What actions do -/

/-- What can be told of an action: the event it handed out, the identifier it handed out, the window
it asked to be redrawn or destroyed, and whether it looked at the display. -/
structure Marks where
  event : Option RawEvent := none
  minted : Option WindowId := none
  asked : Option WindowId := none
  destroyed : Option WindowId := none
  looked : Bool := false

def marks (t : Moment Manager Nat Outside) : Marks where
  event := t.event?
  minted := t.mintedId?
  asked := asked? t
  destroyed := destroyed? t
  looked := isPump t

/-- What an action does, after the past: it adjusts the windows at most, it creates a window, has
one redrawn or destroys one, or it takes an event, after a look at the display if none was
pending. -/
inductive Effect (past : List (Moment Manager Nat Outside)) (t : Moment Manager Nat Outside) : Prop
  | adjusts (hmarks : marks t = {}) (h : t.before.Adjusts t.after)
  | creates (r : Record) (hmarks : marks t = { minted := some (t.before.windows.insert r).1 })
    (hnumber : r.number = t.before.display.created + 1)
    (hwindows : t.after.windows = (t.before.windows.insert r).2)
    (hnumbers : t.after.display.numbers =
      t.before.display.numbers ++ [t.before.display.created + 1])
    (hcreated : t.after.display.created = t.before.display.created + 1)
    (hpending : t.after.pending = t.before.pending)
    (hrequests : t.after.redrawRequests = t.before.redrawRequests)
    (hmodifiers : t.after.modifiers = t.before.modifiers)
  | asks (id : WindowId) (r : Record) (hmarks : marks t = { asked := some id })
    (hget : t.before.windows.get? id = some r)
    (hafter : t.after =
      { t.before with
        redrawRequests := if t.before.redrawRequests.contains id then t.before.redrawRequests
          else t.before.redrawRequests ++ [id] })
  | destroys (id : WindowId) (r : Record) (hmarks : marks t = { destroyed := some id })
    (hget : t.before.windows.get? id = some r)
    (hafter : t.after =
      { t.before with
        display := ((Display.destroy r.number).run t.before.display).state
        windows := t.before.windows.remove id
        redrawRequests := t.before.redrawRequests.filter (· ≠ id) })
  | takes (event : RawEvent) (rest : List RawEvent) (hmarks : marks t = { event := some event })
    (hpending : t.before.pending = event :: rest)
    (hafter : t.after = { t.before with pending := rest })
  | looks (frame : List Told) (hframe : Pump.IsFrame ⟨past, t.before⟩ frame)
    (hpending : t.before.pending = [])
    (hmarks : marks t = { event := (frame.map Told.event).head?, looked := true })
    (hafter : t.after =
      { t.before.looked frame with pending := (frame.map Told.event).tail })

theorem effect_create (past : List (Moment Manager Nat Outside)) (m : Manager)
    (attributes : WindowAttributes) : Effect past ⟨m, .create attributes⟩ := by
  have hmarks : ∀ answer, ((Manager.create attributes).run m).answer = answer →
      marks ⟨m, .create attributes⟩ = { minted := Call.mintedId? (.create attributes answer) } := by
    rintro _ rfl
    rfl
  rcases m.run_create_cases attributes with
    ⟨text, hanswer, hadjusts⟩ | ⟨r, d, s, hnumber, hcreated, hnumbers, hs, hanswer, hstate⟩
  · exact .adjusts (hmarks _ hanswer) hadjusts
  · have hafter : Moment.after (⟨m, .create attributes⟩ : Moment Manager Nat Outside) =
        (s.run { m with display := d }).state := hstate
    refine .creates r (hmarks _ (hanswer.trans (hs.answer _))) hnumber ?_ ?_ ?_ ?_ ?_ ?_
    · rw [hafter, hs.windows]
    · rw [hafter, hs.display, hnumbers]
    · rw [hafter, hs.created, hcreated]
    · rw [hafter, hs.pending]
    · rw [hafter, hs.redrawRequests]
    · rw [hafter, hs.modifiers]

theorem effect_destroy (past : List (Moment Manager Nat Outside)) (m : Manager) (id : WindowId) :
    Effect past ⟨m, .destroy id⟩ := by
  have hmarks : marks ⟨m, .destroy id⟩ =
      { destroyed := if m.windows.contains id then some id else none } := rfl
  cases hget : m.windows.get? id with
  | none =>
    have hafter : Moment.after (⟨m, .destroy id⟩ : Moment Manager Nat Outside) = m :=
      Manager.run_destroy_of_get?_eq_none hget
    refine .adjusts ?_ ?_
    · rw [hmarks, if_neg (SlotTable.not_contains_of_get? hget)]
    · rw [hafter]
      exact m.adjusts_refl
  | some r =>
    refine .destroys id r ?_ hget (Manager.run_destroy_of_get? hget)
    rw [hmarks, if_pos (SlotTable.contains_of_get? hget)]

theorem effect_update (past : List (Moment Manager Nat Outside)) (m : Manager) (id : WindowId)
    (change : WindowChange) : Effect past ⟨m, .update id change⟩ := by
  have hmarks : marks ⟨m, .update id change⟩ =
      { asked := if change = .requestRedraw ∧ m.windows.contains id then some id else none } := rfl
  cases hget : m.windows.get? id with
  | none =>
    have hafter : Moment.after (⟨m, .update id change⟩ : Moment Manager Nat Outside) = m :=
      congrArg Outcome.state (Manager.run_update_of_get?_eq_none hget change)
    refine .adjusts ?_ ?_
    · rw [hmarks, if_neg fun h => SlotTable.not_contains_of_get? hget h.2]
    · rw [hafter]
      exact m.adjusts_refl
  | some r =>
    have hafter : Moment.after (⟨m, .update id change⟩ : Moment Manager Nat Outside) =
        ((Manager.update id change).run m).state := rfl
    by_cases hchange : change = .requestRedraw
    · rcases Manager.run_update_of_get? hget change with ⟨e, hrefusal, -⟩ | ⟨-, -, hstate⟩
      · rw [hchange] at hrefusal
        cases hrefusal
      · refine .asks id r ?_ hget ?_
        · rw [hmarks, if_pos ⟨hchange, SlotTable.contains_of_get? hget⟩]
        · rw [hafter, hstate, if_pos hchange, Manager.state_requestRedraw]
    · refine .adjusts ?_ ?_
      · rw [hmarks, if_neg fun h => hchange h.1]
      · rw [hafter]
        rcases Manager.run_update_of_get? hget change with ⟨e, -, hrun⟩ | ⟨-, -, hstate⟩
        · rw [hrun]
          exact m.adjusts_refl
        · rw [hstate, if_neg hchange]
          exact Manager.adjusts_apply hget change

theorem effect_poll (past : List (Moment Manager Nat Outside)) (m : Manager) (token : Option Nat) :
    Effect past ⟨m, .poll token⟩ := by
  have hmarks : ∀ {answer : Poll Nat (Except BackendError RawEvent)},
      ((Manager.poll token).run m).answer = answer →
      marks ⟨m, .poll token⟩ =
        { event := Call.event? (.poll answer.answer?)
          looked := !(token.filter (m.clock < ·)).isSome && m.pending.isEmpty } := by
    rintro _ rfl
    rfl
  have hafter : Moment.after (⟨m, .poll token⟩ : Moment Manager Nat Outside) =
      ((Manager.poll token).run m).state := rfl
  rcases m.run_poll_cases token with ⟨hearly, hstate, time, hanswer⟩ | ⟨hlate, m', hm', hanswer, hstate⟩
  · refine .adjusts ?_ ?_
    · rw [hmarks hanswer, hearly]
      rfl
    · rw [hafter, hstate]
      exact m.adjusts_refl
  · have hlate' : (token.filter (m.clock < ·)).isSome = false := by
      rw [← Bool.not_eq_true]
      exact hlate
    cases hpending : m.pending with
    | nil =>
      obtain ⟨frame, hframe, hpump⟩ := run_pump past m
      rw [hpending] at hm'
      have hm'' : m' = m.looked frame := hm'.trans hpump
      have hpending' : m'.pending = frame.map Told.event := by
        rw [hm'', Manager.looked, hpending, List.nil_append]
      refine .looks frame hframe hpending ?_ ?_
      · rw [hmarks hanswer, hlate', hpending]
        rcases m'.run_takePending with ⟨hnone, -, hempty⟩ | ⟨event, rest, hsome, hready, -⟩
        · rw [hnone, ← hpending', hempty]
          rfl
        · rw [hready, ← hpending', hsome]
          rfl
      · rw [hafter, hstate, ← hpending', ← hm'']
        rcases m'.run_takePending with ⟨-, hsame, hempty⟩ | ⟨event, rest, hsome, -, htaken⟩
        · rw [hsame, hempty, List.tail_nil, ← hempty]
        · rw [htaken, hsome, List.tail_cons]
    | cons event rest =>
      rw [hpending] at hm'
      have hm'' : m' = m := hm'
      rw [hm''] at hanswer hstate
      rcases m.run_takePending with ⟨-, -, hempty⟩ | ⟨event', rest', hsome, hready, htaken⟩
      · rw [hpending] at hempty
        cases hempty
      · rw [hpending] at hsome
        obtain ⟨rfl, rfl⟩ := List.cons.inj hsome
        refine .takes event rest ?_ hpending (hafter.trans (hstate.trans htaken))
        rw [hmarks (hanswer.trans hready), hpending, hlate']
        rfl

/-- What every action does. -/
theorem effect (past : List (Moment Manager Nat Outside)) (t : Moment Manager Nat Outside) :
    Effect past t := by
  obtain ⟨m, action⟩ := t
  cases action with
  | create attributes => exact effect_create past m attributes
  | destroy id => exact effect_destroy past m id
  | drawable id => exact .adjusts rfl m.adjusts_refl
  | update id change => exact effect_update past m id change
  | query id q => exact .adjusts rfl m.adjusts_refl
  | setDeviceFilter filter => exact .adjusts rfl m.adjusts_refl
  | poll token => exact effect_poll past m token
  | leave token => exact .adjusts rfl m.adjusts_refl
  | outside x => exact .adjusts rfl (m.adjusts_happen x)

/-! ## Runs -/

variable {past : List (Moment Manager Nat Outside)} {m : Manager}

/-- What an action puts behind the pending events is the frame of its look, if it looked. -/
theorem Effect.pending {t : Moment Manager Nat Outside} (h : Effect past t) :
    ∃ new, List.Forall₂ Pump.IsFrame (if isPump t then [⟨past, t.before⟩] else []) new ∧
      t.event?.toList ++ t.after.pending = t.before.pending ++ new.flatten.map Told.event := by
  have hnothing : isPump t = false → t.event? = none → t.after.pending = t.before.pending →
      ∃ new, List.Forall₂ Pump.IsFrame (if isPump t then [⟨past, t.before⟩] else []) new ∧
        t.event?.toList ++ t.after.pending = t.before.pending ++ new.flatten.map Told.event := by
    intro hpump hevent hpending
    refine ⟨[], ?_, ?_⟩
    · rw [hpump]
      exact .nil
    · rw [hevent, hpending]
      simp
  cases h with
  | adjusts hmarks h =>
    exact hnothing (congrArg Marks.looked hmarks) (congrArg Marks.event hmarks) h.pending
  | creates r hmarks _ _ _ _ hpending =>
    exact hnothing (congrArg Marks.looked hmarks) (congrArg Marks.event hmarks) hpending
  | asks id r hmarks _ hafter =>
    exact hnothing (congrArg Marks.looked hmarks) (congrArg Marks.event hmarks) (by rw [hafter])
  | destroys id r hmarks _ hafter =>
    exact hnothing (congrArg Marks.looked hmarks) (congrArg Marks.event hmarks) (by rw [hafter])
  | takes event rest hmarks hpending hafter =>
    have hpump : isPump t = false := congrArg Marks.looked hmarks
    have hevent : t.event? = some event := congrArg Marks.event hmarks
    refine ⟨[], ?_, ?_⟩
    · rw [hpump]
      exact .nil
    · rw [hevent, hafter, hpending]
      simp
  | looks frame hframe hpending hmarks hafter =>
    have hpump : isPump t = true := congrArg Marks.looked hmarks
    have hevent : t.event? = (frame.map Told.event).head? := congrArg Marks.event hmarks
    refine ⟨[frame], ?_, ?_⟩
    · rw [hpump]
      exact .cons hframe .nil
    · rw [hevent, hafter, hpending]
      cases frame with
      | nil => rfl
      | cons first rest => simp

/-- The events handed out in a run and those pending at its end are those pending at its beginning
and the frames of its looks. -/
theorem delivered_append_pending (past : List (Moment Manager Nat Outside)) (m : Manager)
    (actions : List (ManagerAction Nat Outside)) :
    ∃ frames, List.Forall₂ Pump.IsFrame (pumpsAfter past (moments m actions)) frames ∧
      delivered (moments m actions) ++ (stateAfter m actions).pending =
        m.pending ++ frames.flatten.map Told.event := by
  induction actions generalizing past m with
  | nil =>
    refine ⟨[], .nil, ?_⟩
    simp [moments, delivered, stateAfter]
  | cons a rest ih =>
    obtain ⟨new, hnew, hstep⟩ := (effect past ⟨m, a⟩).pending
    obtain ⟨frames, hframes, hrest⟩ := ih (past ++ [⟨m, a⟩]) (Moment.after ⟨m, a⟩)
    refine ⟨new ++ frames, List.rel_append hnew hframes, ?_⟩
    have hdelivered : delivered (moments m (a :: rest)) =
        (Moment.event? (⟨m, a⟩ : Moment Manager Nat Outside)).toList ++
          delivered (moments (Moment.after ⟨m, a⟩) rest) := by
      rw [delivered, moments, List.filterMap_cons]
      cases Moment.event? (⟨m, a⟩ : Moment Manager Nat Outside) <;> rfl
    rw [hdelivered, stateAfter, List.append_assoc, hrest, ← List.append_assoc, hstep,
      List.flatten_append, List.map_append, List.append_assoc]

theorem mem_pumpsAfter_cons {t : Moment Manager Nat Outside}
    {rest : List (Moment Manager Nat Outside)} {p : Pump} :
    p ∈ pumpsAfter past (t :: rest) ↔
      isPump t = true ∧ p = ⟨past, t.before⟩ ∨ p ∈ pumpsAfter (past ++ [t]) rest := by
  rw [pumpsAfter, List.mem_append]
  cases isPump t <;> simp

/-- What every action keeps holds at every look. -/
theorem forall_pumps {P : List (Moment Manager Nat Outside) → Manager → Prop}
    (hstep : ∀ past n a, P past n → P (past ++ [⟨n, a⟩]) (Moment.after ⟨n, a⟩)) (h : P past m)
    (actions : List (ManagerAction Nat Outside)) :
    ∀ p ∈ pumpsAfter past (moments m actions), P p.past p.manager := by
  induction actions generalizing past m with
  | nil => exact fun _ hp => absurd hp List.not_mem_nil
  | cons a rest ih =>
    intro p hp
    rcases mem_pumpsAfter_cons.mp hp with ⟨-, rfl⟩ | hlater
    · exact h
    · exact ih (hstep past m a h) p hlater

/-- What was done before a look is the beginning of the run. -/
theorem past_isPrefix {rest : List (Moment Manager Nat Outside)} {p : Pump}
    (hp : p ∈ pumpsAfter past rest) : p.past <+: past ++ rest := by
  induction rest generalizing past with
  | nil => exact absurd hp List.not_mem_nil
  | cons t rest ih =>
    rcases mem_pumpsAfter_cons.mp hp with ⟨-, rfl⟩ | hlater
    · exact List.prefix_append past _
    · rw [List.append_cons]
      exact ih hlater

/-- The modifiers known at a look are those known after the look before. -/
def Linked (known : Modifiers) : List Pump → Prop
  | [] => True
  | p :: rest =>
    p.manager.modifiers = known ∧ Linked (knownAfter known p.manager.reports) rest

theorem linked_pumpsAfter (past : List (Moment Manager Nat Outside)) (m : Manager)
    (actions : List (ManagerAction Nat Outside)) :
    Linked m.modifiers (pumpsAfter past (moments m actions)) := by
  induction actions generalizing past m with
  | nil => trivial
  | cons a rest ih =>
    have hrest := ih (past ++ [⟨m, a⟩]) (Moment.after ⟨m, a⟩)
    have hnothing : isPump (⟨m, a⟩ : Moment Manager Nat Outside) = false →
        (Moment.after (⟨m, a⟩ : Moment Manager Nat Outside)).modifiers = m.modifiers →
        Linked m.modifiers (pumpsAfter past (moments m (a :: rest))) := by
      intro hpump hmodifiers
      rw [moments, pumpsAfter, hpump]
      rw [hmodifiers] at hrest
      exact hrest
    cases effect past ⟨m, a⟩ with
    | adjusts hmarks h => exact hnothing (congrArg Marks.looked hmarks) h.modifiers
    | creates r hmarks _ _ _ _ _ _ hmodifiers =>
      exact hnothing (congrArg Marks.looked hmarks) hmodifiers
    | asks id r hmarks _ hafter =>
      exact hnothing (congrArg Marks.looked hmarks) (by rw [hafter])
    | destroys id r hmarks _ hafter =>
      exact hnothing (congrArg Marks.looked hmarks) (by rw [hafter])
    | takes event rest hmarks _ hafter =>
      exact hnothing (congrArg Marks.looked hmarks) (by rw [hafter])
    | looks frame _ _ hmarks hafter =>
      have hpump : isPump (⟨m, a⟩ : Moment Manager Nat Outside) = true :=
        congrArg Marks.looked hmarks
      have hmodifiers : (Moment.after (⟨m, a⟩ : Moment Manager Nat Outside)).modifiers =
          knownAfter m.modifiers m.reports := by
        rw [hafter]
        rfl
      rw [hmodifiers] at hrest
      rw [moments, pumpsAfter, hpump]
      exact ⟨rfl, hrest⟩

end WindowSystem.Desktop
