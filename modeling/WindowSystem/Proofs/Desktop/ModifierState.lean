/-
# Modifiers in the stream of events

Who follows the events of the desktop manager knows the modifiers from their last change. With a key
or a button these should be the ones that were reported with it (`Current`). Changes are found while
reports are looked through, window by window, and the events are brought into the order of time only
afterwards. So the modifiers are right in every run in which each look finds the keys and buttons in
the order of time, or finds no other modifiers than those known (`modifiers_current`), and can be
wrong in others (`button_before_its_modifiers`).
-/
import WindowSystem.Proofs.Desktop.Frames

namespace WindowSystem.Desktop

/-! ## Changes of modifiers -/

/-- The modifiers that an event says are held from now on. -/
def Told.changed? (told : Told) : Option Modifiers :=
  match told.event with
  | .window _ (.modifiersChanged modifiers) => some modifiers
  | _ => none

/-- Whether an event is about modifiers, by what it says or by what was reported with it. -/
def Told.isModified (told : Told) : Bool := told.held.isSome || told.changed?.isSome

/-- The changes of modifiers in a stream of events. -/
def changes (stream : List Told) : List Modifiers := stream.filterMap Told.changed?

/-- The modifiers that are known from a stream: those of the last change. -/
def lastChange (stream : List Told) : Modifiers := (changes stream).getLast?.getD Modifiers.empty

/-- The modifiers known after a stream to one who knew some before. -/
def follow (known : Modifiers) (stream : List Told) : Modifiers :=
  stream.foldl (fun known told => told.changed?.getD known) known

/-- A stream is current for one who knows some modifiers: what was reported with an event is known
when it comes, and every change is one. -/
def Current (known : Modifiers) : List Told → Prop
  | [] => True
  | told :: rest =>
    (∀ held, told.held = some held → held.told = known) ∧
      (∀ modifiers, told.changed? = some modifiers → modifiers ≠ known) ∧
      Current (told.changed?.getD known) rest

variable {known : Modifiers}

@[simp]
theorem follow_cons (known : Modifiers) (told : Told) (rest : List Told) :
    follow known (told :: rest) = follow (told.changed?.getD known) rest := rfl

theorem follow_append (known : Modifiers) (a b : List Told) :
    follow known (a ++ b) = follow (follow known a) b :=
  List.foldl_append

theorem current_append (known : Modifiers) (a b : List Told) :
    Current known (a ++ b) ↔ Current known a ∧ Current (follow known a) b := by
  induction a generalizing known with
  | nil => exact ⟨fun h => ⟨trivial, h⟩, fun h => h.2⟩
  | cons told rest ih =>
    rw [List.cons_append, Current, Current, ih, follow_cons, and_assoc, and_assoc]

/-- Only events that are about modifiers matter. -/
theorem current_filter (known : Modifiers) (stream : List Told) :
    (Current known (stream.filter Told.isModified) ↔ Current known stream) ∧
      follow known (stream.filter Told.isModified) = follow known stream := by
  induction stream generalizing known with
  | nil => exact ⟨Iff.rfl, rfl⟩
  | cons told rest ih =>
    obtain ⟨hcurrent, hfollow⟩ := ih (told.changed?.getD known)
    cases hmodified : told.isModified with
    | true =>
      rw [List.filter_cons_of_pos hmodified]
      refine ⟨?_, hfollow⟩
      rw [Current, Current, hcurrent]
    | false =>
      rw [List.filter_cons_of_neg (by simp [hmodified])]
      rw [Told.isModified, Bool.or_eq_false_iff, Option.isSome_eq_false_iff,
        Option.isSome_eq_false_iff, Option.isNone_iff_eq_none, Option.isNone_iff_eq_none]
        at hmodified
      obtain ⟨hheld, hchanged⟩ := hmodified
      rw [hchanged, Option.getD_none] at hcurrent hfollow
      refine ⟨?_, ?_⟩
      · rw [hcurrent, Current, hheld, hchanged]
        simp
      · rw [hfollow, follow_cons, hchanged, Option.getD_none]

/-- Streams in which the same events are about modifiers are current together. -/
theorem current_congr {a b : List Told} (h : a.filter Told.isModified = b.filter Told.isModified)
    (known : Modifiers) :
    (Current known a ↔ Current known b) ∧ follow known a = follow known b := by
  obtain ⟨ha, ha'⟩ := current_filter known a
  obtain ⟨hb, hb'⟩ := current_filter known b
  rw [h] at ha ha'
  exact ⟨ha.symm.trans hb, ha'.symm.trans hb'⟩

/-! ## What is known from a current stream -/

/-- What is known is the last change, if there was one. -/
theorem follow_eq (known : Modifiers) (stream : List Told) :
    follow known stream = (changes stream).getLast?.getD known := by
  induction stream generalizing known with
  | nil => rfl
  | cons told rest ih =>
    rw [follow_cons, ih, changes, changes, List.filterMap_cons]
    cases told.changed? with
    | none => rfl
    | some modifiers => rw [List.getLast?_cons, Option.getD_some, Option.getD_some]

/-- What was reported with an event is the last change before it. -/
theorem Current.lastChange_eq {stream before after : List Told} {told : Told}
    {held : InputModifiers} (h : Current Modifiers.empty stream)
    (hsplit : stream = before ++ told :: after) (hheld : told.held = some held) :
    lastChange before = held.told := by
  rw [hsplit, current_append] at h
  rw [lastChange, ← follow_eq]
  exact (h.2.1 held hheld).symm

/-- Each change differs from the one before. -/
theorem Current.isChain_changes {stream : List Told} (h : Current known stream) :
    (known :: changes stream).IsChain (· ≠ ·) := by
  induction stream generalizing known with
  | nil => exact .singleton known
  | cons told rest ih =>
    obtain ⟨-, hchange, hrest⟩ := h
    rw [changes, List.filterMap_cons]
    cases hchanged : told.changed? with
    | none =>
      rw [hchanged] at hrest
      exact ih hrest
    | some modifiers =>
      rw [hchanged] at hrest
      exact .cons_cons (Ne.symm (hchange modifiers hchanged)) (ih hrest)

/-! ## What reports tell is current -/

/-- Where no modifiers change, the known ones have to be those that are reported. -/
theorem current_of_steady {stream : List Told}
    (h : ∀ told ∈ stream, told.changed? = none ∧
      ∀ held, told.held = some held → held.told = known) :
    Current known stream ∧ follow known stream = known := by
  induction stream with
  | nil => exact ⟨trivial, rfl⟩
  | cons told rest ih =>
    obtain ⟨hchanged, hheld⟩ := h told List.mem_cons_self
    obtain ⟨hcurrent, hfollow⟩ := ih fun other hother => h other (List.mem_cons_of_mem _ hother)
    rw [Current, follow_cons, hchanged, Option.getD_none]
    refine ⟨⟨hheld, fun modifiers hsome => ?_, hcurrent⟩, hfollow⟩
    cases hsome

/-- A report leaves changes of modifiers to what comes before its own events. -/
theorem changed?_of_mem_windowEvents {r : Report} {e : WindowEvent} (he : e ∈ r.windowEvents)
    (id : WindowId) (held : Option InputModifiers) :
    Told.changed? { event := .window id e, held } = none := by
  have hnot : ∀ modifiers, WindowEvent.modifiersChanged modifiers ∉ r.windowEvents := by
    intro modifiers h
    cases r with
    | enter isInside =>
      cases isInside with
      | true => simp [Report.windowEvents] at h
      | false => simp [Report.windowEvents] at h
    | _ => simp [Report.windowEvents] at h
  cases e with
  | modifiersChanged modifiers => exact absurd he (hnot modifiers)
  | _ => rfl

/-- A report changes the modifiers if it was made with others than those that are known. -/
theorem mem_modifierChange {r : Report} {e : WindowEvent} :
    e ∈ r.modifierChange known ↔ ∃ held, r.modifiers? = some held ∧ held.told ≠ known ∧
      e = .modifiersChanged held.told := by
  rw [Report.modifierChange]
  cases r.modifiers? with
  | none => simp
  | some held => by_cases hsame : held.told = known <;> simp [hsame]

/-- What a report tells is current, and leaves known what was reported. -/
theorem current_tells (known : Modifiers) (id : WindowId) (r : StampedReport) :
    Current known ((r.tells known id).map Prod.snd) ∧
      follow known ((r.tells known id).map Prod.snd) = r.knownAfter known := by
  have hchange : Current known (((r.report.modifierChange known).map fun e =>
      (r.time, ({ event := .window id e } : Told))).map Prod.snd) ∧
      follow known (((r.report.modifierChange known).map fun e =>
        (r.time, ({ event := .window id e } : Told))).map Prod.snd) = r.knownAfter known := by
    unfold Report.modifierChange StampedReport.knownAfter
    cases r.report.modifiers? with
    | none => exact ⟨trivial, rfl⟩
    | some held =>
      by_cases hsame : held.told = known
      · simp only [hsame, if_true]
        exact ⟨trivial, hsame.symm⟩
      · simp only [hsame, if_false]
        refine ⟨⟨fun held' hheld' => ?_, fun modifiers hmodifiers => ?_, trivial⟩, rfl⟩
        · cases hheld'
        · rw [← Option.some.inj hmodifiers]
          exact hsame
  have hevents : ∀ told ∈ (r.report.windowEvents.map fun e =>
      (r.time, ({ event := .window id e, held := r.report.modifiers? } : Told))).map Prod.snd,
      told.changed? = none ∧ ∀ held, told.held = some held → held.told = r.knownAfter known := by
    intro told htold
    rw [List.map_map] at htold
    obtain ⟨e, he, rfl⟩ := List.mem_map.mp htold
    refine ⟨changed?_of_mem_windowEvents he id _, fun held hheld => ?_⟩
    have hheld' : r.report.modifiers? = some held := hheld
    rw [StampedReport.knownAfter, hheld']
    rfl
  obtain ⟨hcurrent, hfollow⟩ := current_of_steady hevents
  rw [StampedReport.tells, List.map_append, current_append, follow_append, hchange.2]
  exact ⟨⟨hchange.1, hcurrent⟩, hfollow⟩

/-- What reports tell one after another is current. -/
theorem current_tellAll (known : Modifiers) (reports : List (WindowId × StampedReport)) :
    Current known ((tellAll known reports).map Prod.snd) ∧
      follow known ((tellAll known reports).map Prod.snd) = knownAfter known reports := by
  induction reports generalizing known with
  | nil => exact ⟨trivial, rfl⟩
  | cons entry rest ih =>
    obtain ⟨id, r⟩ := entry
    obtain ⟨hfirst, hafter⟩ := current_tells known id r
    obtain ⟨hrest, hend⟩ := ih (r.knownAfter known)
    rw [tellAll, List.map_append, current_append, follow_append, hafter]
    exact ⟨⟨hfirst, hrest⟩, hend⟩

/-- Reports with the modifiers that are known change none, in whatever order. -/
theorem steady_tellAll {reports : List (WindowId × StampedReport)}
    (h : ∀ entry ∈ reports, entry.2.knownAfter known = known) :
    knownAfter known reports = known ∧ ∀ a ∈ tellAll known reports, a.2.changed? = none ∧
      ∀ held, a.2.held = some held → held.told = known := by
  induction reports with
  | nil => exact ⟨rfl, fun _ ha => absurd ha List.not_mem_nil⟩
  | cons entry rest ih =>
    obtain ⟨id, r⟩ := entry
    have hr : r.knownAfter known = known := h (id, r) List.mem_cons_self
    obtain ⟨hend, hrest⟩ := ih fun other hother => h other (List.mem_cons_of_mem _ hother)
    rw [knownAfter, List.foldl_cons, hr, ← knownAfter, tellAll, hr]
    refine ⟨hend, fun a ha => ?_⟩
    rcases List.mem_append.mp ha with hfirst | hlater
    · rw [StampedReport.knownAfter] at hr
      rcases List.mem_append.mp hfirst with hchange | hevent
      · -- a change would be to other modifiers than the known ones
        obtain ⟨e, he, -⟩ := List.mem_map.mp hchange
        obtain ⟨held, hmodifiers, hne, -⟩ := mem_modifierChange.mp he
        rw [hmodifiers] at hr
        exact absurd hr hne
      · obtain ⟨e, he, rfl⟩ := List.mem_map.mp hevent
        refine ⟨changed?_of_mem_windowEvents he id _, fun held hheld => ?_⟩
        have hheld' : r.report.modifiers? = some held := hheld
        rw [hheld'] at hr
        exact hr
    · exact hrest a hlater

/-! ## Frames are current -/

/-- A look finds the keys and buttons in the order of time, or finds with all of them the modifiers
that are known. -/
def Pump.IsOrderly (p : Pump) : Prop :=
  ((p.manager.reports.filter fun entry => entry.2.report.modifiers?.isSome).Pairwise
    fun a b => a.2.time.rank ≤ b.2.time.rank) ∨
    ∀ entry ∈ p.manager.reports, entry.2.knownAfter p.manager.modifiers = p.manager.modifiers

/-- Only what was reported with modifiers tells of them. -/
theorem isSome_of_isModified {known : Modifiers} {entry : WindowId × StampedReport}
    {a : Double × Told} (h : a ∈ entry.2.tells known entry.1) (hmodified : a.2.isModified = true) :
    entry.2.report.modifiers?.isSome = true := by
  rcases List.mem_append.mp h with hchange | hevent
  · obtain ⟨e, he, -⟩ := List.mem_map.mp hchange
    obtain ⟨held, hmodifiers, -, -⟩ := mem_modifierChange.mp he
    rw [hmodifiers]
    rfl
  · obtain ⟨e, he, rfl⟩ := List.mem_map.mp hevent
    rw [Told.isModified, changed?_of_mem_windowEvents he, Option.isSome_none, Bool.or_false]
      at hmodified
    exact hmodified

/-- What a frame adds to its batch is not about modifiers. -/
theorem Pump.Framed.filter_isModified {batch frame : List Told} {redraws : List WindowId}
    (h : Framed batch redraws frame) :
    frame.filter Told.isModified = batch.filter Told.isModified := by
  cases h with
  | nothing hbatch _ => rw [hbatch]
  | complete _ =>
    have hredraws : (redraws.map fun id =>
        ({ event := .window id .redrawRequested } : Told)).filter Told.isModified = [] := by
      refine List.filter_eq_nil_iff.mpr fun told htold => ?_
      obtain ⟨id, -, rfl⟩ := List.mem_map.mp htold
      exact Bool.false_ne_true
    simp only [List.filter_append, hredraws]
    simp [Told.isModified, Told.changed?]

/-- The frame of an orderly look is current. -/
theorem Pump.IsFrame.current {p : Pump} {frame : List Told} (h : p.IsFrame frame)
    (hp : p.IsOrderly) :
    Current p.manager.modifiers frame ∧
      follow p.manager.modifiers frame = knownAfter p.manager.modifiers p.manager.reports := by
  obtain ⟨batch, hordered, hframed⟩ := h
  obtain ⟨hiff, hfollow⟩ := current_congr hframed.filter_isModified p.manager.modifiers
  rw [hiff, hfollow]
  rcases hp with hsorted | hsteady
  · -- sorting leaves the events that are about modifiers in the order in which they were found
    have hbatch : batch.filter Told.isModified =
        (p.found.map Prod.snd).filter Told.isModified := by
      rw [hordered.filter_eq Told.isModified (pairwise_tellAll (fun known entry a ha hmodified =>
        isSome_of_isModified ha hmodified) hsorted p.manager.modifiers), List.filter_map]
      rfl
    obtain ⟨hiff, hfollow⟩ := current_congr hbatch p.manager.modifiers
    rw [hiff, hfollow]
    exact current_tellAll p.manager.modifiers p.manager.reports
  · obtain ⟨hend, hfound⟩ := steady_tellAll hsteady
    rw [hend]
    refine current_of_steady fun told htold => ?_
    obtain ⟨time, hmem⟩ := hordered.mem.mp htold
    exact hfound (time, told) hmem

/-- The frames of looks one after another are current. -/
theorem current_frames {known : Modifiers} {ps : List Pump} {frames : List (List Told)}
    (hframes : List.Forall₂ Pump.IsFrame ps frames) (hlinked : Linked known ps)
    (hps : ∀ p ∈ ps, p.IsOrderly) : Current known frames.flatten := by
  induction hframes generalizing known with
  | nil => trivial
  | @cons p frame ps frames hframe _ ih =>
    obtain ⟨hknown, hrest⟩ := hlinked
    obtain ⟨hcurrent, hfollow⟩ := hframe.current (hps p List.mem_cons_self)
    rw [hknown] at hcurrent hfollow
    rw [List.flatten_cons, current_append, hfollow]
    exact ⟨hcurrent, ih hrest fun q hq => hps q (List.mem_cons_of_mem _ hq)⟩

/-- In every run in which each look finds the keys and buttons in the order of time, or all with the
modifiers that are known, the last change of modifiers before a key or a button, handed out or
pending, is to those that were reported with it, of shift, control, alt and super; before the first
change there are none. No change repeats the one before. -/
theorem modifiers_current (display : Display) (pollInterval : Nat)
    (actions : List (ManagerAction Nat Outside)) :
    let start : Manager := { display := display, pollInterval := pollInterval }
    let run := moments start actions
    (∀ p ∈ pumps run, p.IsOrderly) →
      ∃ frames, List.Forall₂ Pump.IsFrame (pumps run) frames ∧
        delivered run ++ (stateAfter start actions).pending = frames.flatten.map Told.event ∧
        (∀ before told after held, frames.flatten = before ++ told :: after →
          told.held = some held →
            lastChange before = ⟨held.shift, held.control, held.alt, held.logo⟩) ∧
        (Modifiers.empty :: changes frames.flatten).IsChain (· ≠ ·) := by
  intro start run horder
  obtain ⟨frames, hframes, hdelivered⟩ := delivered_append_pending [] start actions
  have hcurrent : Current Modifiers.empty frames.flatten :=
    current_frames hframes (linked_pumpsAfter [] start actions) horder
  refine ⟨frames, hframes, hdelivered, fun before told after held hsplit hheld => ?_, ?_⟩
  · exact hcurrent.lastChange_eq hsplit hheld
  · exact hcurrent.isChain_changes

/-- Shift is held while a button is pressed in one window, and no longer when one is pressed in
another. The display is looked at afterwards and finds them in this order. -/
theorem modifiers_current_of_two_buttons :
    let shift : InputModifiers := { shift := true, control := false, alt := false, logo := false }
    let plain : InputModifiers := { shift := false, control := false, alt := false, logo := false }
    let start : Manager := { display := {}, pollInterval := 4 }
    let run := moments start
      [.create {}, .create {}, .outside (.display (.clock 1)),
       .outside (.display (.input 1 (.button 0 true shift))), .outside (.display (.clock 2)),
       .outside (.display (.input 2 (.button 0 true plain))), .poll none]
    (pumps run).length = 1 ∧ (∀ p ∈ pumps run, p.manager.reports.length = 2 ∧ p.IsOrderly) ∧
      ∃ frames, List.Forall₂ Pump.IsFrame (pumps run) frames ∧
        ∀ before told after held, frames.flatten = before ++ told :: after →
          told.held = some held →
            lastChange before = ⟨held.shift, held.control, held.alt, held.logo⟩ := by
  intro shift plain start run
  have hpumps : ∀ p ∈ pumps run, p.manager.reports.length = 2 ∧ p.IsOrderly := by
    intro p hp
    rw [List.mem_singleton.mp hp]
    exact ⟨by decide +kernel, Or.inl (by decide +kernel)⟩
  obtain ⟨frames, hframes, -, hcurrent, -⟩ :=
    modifiers_current {} 4 _ fun p hp => (hpumps p hp).2
  exact ⟨rfl, hpumps, frames, hframes, hcurrent⟩

/-- Shift is held while a button is pressed in one window and then in another, and the display is
looked at only afterwards. The one in the second slot comes first, by its time; but the change of
modifiers comes with the other, whose report was looked through first. -/
theorem button_before_its_modifiers :
    let shift : InputModifiers := { shift := true, control := false, alt := false, logo := false }
    let start : Manager := { display := {}, pollInterval := 4 }
    let reported : List (ManagerAction Nat Outside) :=
      [.create {}, .create {}, .outside (.display (.clock 1)),
       .outside (.display (.input 2 (.button 0 true shift))), .outside (.display (.clock 2)),
       .outside (.display (.input 1 (.button 0 true shift)))]
    let actions := reported ++ [.poll none]
    let run := moments start actions
    delivered run ++ (stateAfter start actions).pending =
        [.lifecycle .newEvents,
         .window ⟨4294967298⟩ (.mouseButton coreDevice .left .pressed),
         .window ⟨4294967297⟩ (.modifiersChanged ⟨true, false, false, false⟩),
         .window ⟨4294967297⟩ (.mouseButton coreDevice .left .pressed),
         .lifecycle .mainEventsCleared, .lifecycle .redrawEventsCleared] ∧
      ¬ ∃ frames, List.Forall₂ Pump.IsFrame (pumps run) frames ∧
        ∀ before told after held, frames.flatten = before ++ told :: after →
          told.held = some held →
            lastChange before = ⟨held.shift, held.control, held.alt, held.logo⟩ := by
  intro shift start reported actions run
  let p : Pump := ⟨moments start reported, stateAfter start reported⟩
  let button (id : WindowId) : Told :=
    { event := .window id (.mouseButton coreDevice .left .pressed), held := some shift }
  let change : Told := { event := .window ⟨4294967297⟩ (.modifiersChanged shift.told) }
  let early := Double.ofQuotient 1 1000
  let late := Double.ofQuotient 2 1000
  have hpumps : pumps run = [p] := rfl
  have hfound : p.found = [(late, change), (late, button ⟨4294967297⟩),
      (early, button ⟨4294967298⟩)] := by
    decide +kernel
  have hordered : InTimeOrder p.found
      [button ⟨4294967298⟩, change, button ⟨4294967297⟩] := by
    rw [hfound]
    refine ⟨[((early, button ⟨4294967298⟩), 2), ((late, change), 0),
      ((late, button ⟨4294967297⟩), 1)], ?_, ?_, rfl⟩
    · decide +kernel
    · decide +kernel
  have hframe : p.IsFrame
      [{ event := .lifecycle .newEvents }, button ⟨4294967298⟩, change, button ⟨4294967297⟩,
       { event := .lifecycle .mainEventsCleared }, { event := .lifecycle .redrawEventsCleared }] :=
    ⟨_, hordered, .complete (Or.inl (List.cons_ne_nil _ _))⟩
  have hunique : ∀ frames, List.Forall₂ Pump.IsFrame (pumps run) frames →
      frames.flatten = [{ event := .lifecycle .newEvents }, button ⟨4294967298⟩, change,
        button ⟨4294967297⟩, { event := .lifecycle .mainEventsCleared },
        { event := .lifecycle .redrawEventsCleared }] := by
    intro frames hframes
    rw [hpumps] at hframes
    cases hframes with
    | cons hfirst hrest =>
      cases hrest with
      | nil => rw [hfirst.unique hframe, List.flatten_singleton]
  refine ⟨?_, ?_⟩
  · obtain ⟨frames, hframes, hdelivered⟩ := delivered_append_pending [] start actions
    rw [hunique frames hframes] at hdelivered
    exact hdelivered
  · rintro ⟨frames, hframes, hcurrent⟩
    have hlast := hcurrent [{ event := .lifecycle .newEvents }] (button ⟨4294967298⟩)
      [change, button ⟨4294967297⟩, { event := .lifecycle .mainEventsCleared },
        { event := .lifecycle .redrawEventsCleared }] shift (hunique frames hframes) rfl
    exact absurd hlast (by decide)

end WindowSystem.Desktop
