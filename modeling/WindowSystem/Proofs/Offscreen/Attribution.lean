/-
# Events keep their windows

An event names its window by identifier, and gets a handle only when it is delivered, when the slot
of the window may have been used again. In a history that does not go through the versions of a slot
the identifiers handed out are all different (`nodup_minted_history`). So an event is delivered with
the handle of the very window that it named, or with none once that window is destroyed
(`event_delivered_with_own_window`).
-/
import WindowSystem.Proofs.Offscreen.Delivery
import WindowSystem.Proofs.Offscreen.Identifiers
import WindowSystem.Offscreen.Graphics

namespace WindowSystem

/-- In a list without duplicates, an identifier stands at one place only. -/
theorem latest?_of_nodup {ids : List WindowId} (hnodup : ids.Nodup) {id : WindowId}
    {h : HandleRef} (hh : ids[h]? = some id) : latest? ids id = some h := by
  obtain ⟨hlt, hget⟩ := List.getElem?_eq_some_iff.mp hh
  have hplaces : (List.range ids.length).filter (fun other => ids[other]? = some id) =
      (List.range ids.length).filter (fun other => other = h) := by
    refine List.filter_congr fun other hother => ?_
    have hother' := List.mem_range.mp hother
    rw [List.getElem?_eq_getElem hother', ← hget]
    simp [hnodup.getElem_inj_iff]
  rw [latest?, hplaces]
  simp [List.filter_eq, List.count_range, hlt]

namespace Offscreen

/-! ## Identifiers are handed out once -/

/-- After some calls every identifier that was handed out is that of a window that is there, or
finds nothing again; and no two were the same. -/
structure Distinct (calls : List Call) (m : Manager) : Prop where
  sound : m.windows.Sound
  within : m.windows.Within (mintedIds calls).length
  nodup : (mintedIds calls).Nodup
  listed_or_spent : ∀ id ∈ mintedIds calls, id ∈ m.windows.ids ∨ SlotTable.IsSpent id m.windows

theorem distinct_start (limit : Option Nat) : Distinct [] { limit := limit } where
  sound := SlotTable.sound_empty
  within := SlotTable.Within.empty
  nodup := List.nodup_nil
  listed_or_spent _ hid := absurd hid List.not_mem_nil

namespace Distinct

variable {calls : List Call} {m m' : Manager} {c : Call}

/-- Replacing a window, in a call or past the bridge, changes nothing here. -/
theorem replace (hm : Distinct calls m) (h : Replaces m.windows m'.windows) :
    Distinct calls m' where
  sound := h.sound hm.sound
  within := hm.within.congr h.versions_eq
  nodup := hm.nodup
  listed_or_spent id hid := by
    rw [h.ids_eq]
    exact (hm.listed_or_spent id hid).imp_right fun hspent =>
      hspent.ages (SlotTable.ages_of_versions_eq h.versions_eq)

/-- A call in which no window is created. -/
theorem congr_calls (hm : Distinct calls m) (hminted : c.mintedId? = none) :
    Distinct (calls ++ [c]) m := by
  have hsame : mintedIds (calls ++ [c]) = mintedIds calls := by
    rw [mintedIds_append, mintedIds_singleton hminted, List.append_nil]
  refine ⟨hm.sound, ?_, ?_, ?_⟩
  · rw [hsame]
    exact hm.within
  · rw [hsame]
    exact hm.nodup
  · rw [hsame]
    exact hm.listed_or_spent

/-- A window is created: its identifier was not handed out before, since what was handed out before
is another one that is listed, or finds nothing. -/
theorem create (hm : Distinct calls m) (attributes : WindowAttributes) (w : Window)
    (hwindows : m'.windows = (m.windows.insert w).2)
    (hfew : (mintedIds calls).length < 2147483647) :
    Distinct (calls ++ [.create attributes (.ok (m.windows.insert w).1)]) m' := by
  have hbound : 2 * ((mintedIds calls).length + 1) < UInt32.size := by
    simp only [UInt32.size]
    omega
  obtain ⟨hwithin, hages⟩ := hm.within.insert hm.sound hbound w
  have hfits : (m.windows.insert w).2.Fits := hwithin.fits (by omega)
  have hsound := hm.sound.insert w
  have hids : mintedIds (calls ++ [.create attributes (.ok (m.windows.insert w).1)]) =
      mintedIds calls ++ [(m.windows.insert w).1] := mintedIds_append _ _
  have hnew : (m.windows.insert w).1 ∉ mintedIds calls := by
    intro hold
    rcases hm.listed_or_spent _ hold with hlisted | hspent
    · exact hm.sound.insert_not_mem hfits hlisted
    · have hget := hsound.get?_of_mem hfits (hm.sound.mem_insert.mpr (Or.inl ⟨rfl, rfl⟩))
      rw [(hspent.ages hages).get?] at hget
      cases hget
  refine ⟨?_, ?_, ?_, fun id hid => ?_⟩
  · rw [hwindows]
    exact hsound
  · rw [hids, List.length_append, List.length_singleton, hwindows]
    exact hwithin
  · rw [hids]
    exact hm.nodup.append (List.nodup_singleton _) (List.disjoint_singleton.mpr hnew)
  · rw [hids, List.mem_append, List.mem_singleton] at hid
    rw [hwindows, hm.sound.mem_ids_insert]
    rcases hid with hold | rfl
    · exact (hm.listed_or_spent id hold).imp Or.inr fun hspent => hspent.ages hages
    · exact Or.inl (Or.inl rfl)

/-- A window is destroyed: the identifier that it bore finds nothing again. -/
theorem destroy (hm : Distinct calls m) (id : WindowId)
    (hwindows : m'.windows = m.windows.remove id)
    (hfew : (mintedIds calls).length < 2147483648) : Distinct calls m' := by
  have hbound : 2 * (mintedIds calls).length < UInt32.size := by
    simp only [UInt32.size]
    omega
  cases hget : m.windows.get? id with
  | none =>
    rw [SlotTable.remove_of_get?_eq_none hget] at hwindows
    exact hm.replace (Or.inl hwindows)
  | some w =>
    obtain ⟨hwithin, hages, hspent⟩ := hm.within.remove hbound hget
    refine ⟨?_, ?_, hm.nodup, fun other hother => ?_⟩
    · rw [hwindows]
      exact hm.sound.remove id
    · rw [hwindows]
      exact hwithin
    · rw [hwindows, hm.sound.mem_ids_remove (hm.within.fits (by omega))]
      by_cases hsame : other = SlotTable.meant id
      · rw [hsame, SlotTable.isSpent_meant]
        exact Or.inr hspent
      · exact (hm.listed_or_spent other hother).imp (fun hlisted => ⟨hsame, hlisted⟩)
          fun hold => hold.ages hages

theorem turn (hm : Distinct calls m) (h : Turns m.windows c m'.windows)
    (hfew : (mintedIds (calls ++ [c])).length < 2147483648) : Distinct (calls ++ [c]) m' := by
  generalize ht : m'.windows = t at h
  rw [mintedIds_append, List.length_append] at hfew
  cases h with
  | created attributes w =>
    have hone : (mintedIds [Call.create attributes (.ok (m.windows.insert w).1)]).length = 1 := rfl
    rw [hone] at hfew
    exact hm.create attributes w ht (by omega)
  | destroyed id => exact (hm.destroy id ht (by omega)).congr_calls rfl
  | replaced hminted hdestroyed hreplaces =>
    rw [← ht] at hreplaces
    exact (hm.replace hreplaces).congr_calls hminted

/-- The identifiers handed out in a course are different while they are not too many. -/
theorem course (h : Course Outside m calls m') (hm : Distinct [] m)
    (hfew : (mintedIds calls).length < 2147483648) : Distinct calls m' := by
  have hkeeps := h.keeps
    (P := fun past m => (mintedIds past).length < 2147483648 → Distinct past m)
    (fun past n c n' hn hc hfew => ?_) (fun past n c hn hc hfew => ?_)
    (fun past n x hn hfew => (hn hfew).replace (n.replaces_happen x)) [] (fun _ => hm)
  · exact hkeeps hfew
  · refine (hn ?_).turn (Manager.turns_of_responds hc) hfew
    rw [mintedIds_append, List.length_append] at hfew
    omega
  · have hminted := hc.isQuiet.mintedId?
    rw [mintedIds_append, mintedIds_singleton hminted, List.append_nil] at hfew
    exact (hn hfew).congr_calls hminted

end Distinct

variable {G S : Type} [GraphicsBackend G S]

/-- In a history in which fewer windows are created than a slot has odd versions, no identifier is
handed out twice. -/
theorem nodup_minted_history (limit : Option Nat) (graphics : G) (settings : Settings)
    (actions : List (Action Outside)) :
    let past : Outcome Entry (Session Manager G S Waiter) _ :=
      Session.history { limit := limit } graphics settings actions
    (mintedIds (Entry.calls past.journal)).length < 2147483648 →
      (mintedIds (Entry.calls past.journal)).Nodup := by
  intro past hfew
  have hcourse := Session.course_history (W := Waiter) (S := S) ({ limit := limit } : Manager)
    graphics settings actions
  exact (Distinct.course hcourse (distinct_start limit) hfew).nodup

/-! ## Delivery -/

/-- Where a consumer gets to look at the events of the window manager, what it gets is the event
that the window manager handed out. -/
theorem delivered_of_look {b : Bridge Manager G S} {consumers : Consumers Waiter} {name : String}
    (stream : EventStream Manager) (token : Option Waiter) {consumer : Consumer Waiter}
    (hmanager : stream.manager = b.events.manager) (hfound : consumers.find? name = some consumer)
    (hpoll : (EventStream.poll b.registry.resolve consumer).run b.events =
      (EventStream.look b.registry.resolve token).run stream)
    {event : Event (Option HandleRef)}
    (hevent : ((Session.perform (.poll name : Action Outside)).run
      (b, consumers)).answer.delivered? = some event) :
    ∃ raw ∈ b.events.manager.queue, event = raw.mapWindow b.registry.resolve ∧
      Entry.calls ((Session.perform (.poll name : Action Outside)).run (b, consumers)).journal =
        [.poll (some (.ok raw))] := by
  obtain ⟨hanswer, -, hcalls⟩ := EventStream.run_look b.registry.resolve stream token
  rw [← hpoll, hmanager] at hanswer hcalls
  cases hp : ((WindowManager.poll token).run b.events.manager).answer with
  | pending next =>
    rw [hp] at hanswer
    have hrun := Consumers.run_poll_pending Session.source b consumers hfound hanswer
    rw [Session.perform, Step.run_bind, hrun] at hevent
    cases hevent
  | ready answer =>
    rw [hp] at hanswer hcalls
    have hrun := Consumers.run_poll_ready Session.source b consumers hfound hanswer
    rw [Session.perform, Step.run_bind, hrun] at hevent ⊢
    cases answer with
    | error e => cases hevent
    | ok raw =>
      refine ⟨raw, b.events.manager.mem_queue_of_poll hp, (Option.some.inj hevent).symm, ?_⟩
      exact (congrArg Entry.calls (List.append_nil _)).trans hcalls

/-- What a consumer gets when it looks is the event that the window manager handed out then, with
the handle under which its window is entered at that moment. -/
theorem delivered_of_poll {session : Session Manager G S Waiter} {name : String}
    {event : Event (Option HandleRef)}
    (hevent : ((Session.perform (.poll name : Action Outside)).run session).answer.delivered? =
      some event) :
    ∃ raw ∈ session.1.events.manager.queue, event = raw.mapWindow session.1.registry.resolve ∧
      Entry.calls ((Session.perform (.poll name : Action Outside)).run session).journal =
        [.poll (some (.ok raw))] := by
  obtain ⟨b, consumers⟩ := session
  cases hfound : consumers.find? name with
  | none =>
    have hrun := Consumers.run_poll_absent Session.source b consumers hfound
    rw [Session.perform, Step.run_bind, hrun] at hevent
    cases hevent
  | some consumer =>
    cases consumer with
    | waiting token => exact delivered_of_look b.events (some token) rfl hfound rfl hevent
    | fresh =>
      -- a consumer that comes first is admitted if nobody waits, and refused otherwise
      cases hw : b.events.waiting with
      | false =>
        exact delivered_of_look { b.events with waiting := true } none rfl hfound
          (EventStream.run_poll_admitted _ _ hw) hevent
      | true =>
        have hrefused := congrArg Outcome.answer (run_poll_refused (G := G) (S := S) hw)
        have hrun := Consumers.run_poll_ready Session.source b consumers hfound hrefused
        rw [Session.perform, Step.run_bind, hrun] at hevent
        cases hevent

/-- An event is delivered with its own window, or without one. In a history in which fewer windows
are created than a slot has odd versions, let a consumer look and get an event. It was sent before,
at whatever time, and was handed out by the window manager just now. If it names the identifier of a
window that was created, it comes with the handle that was given to the script for that window while
the window is there, and without a window once it is destroyed, whatever was created in its place
since. No event comes with a handle that is destroyed. -/
theorem event_delivered_with_own_window (limit : Option Nat) (graphics : G) (settings : Settings)
    (before : List (Action Outside)) (name : String) (event : Event (Option HandleRef)) :
    let start : Session Manager G S Waiter :=
      (Session.history { limit := limit } graphics settings ([] : List (Action Outside))).state
    let past : Outcome Entry (Session Manager G S Waiter) _ :=
      Session.history { limit := limit } graphics settings before
    let look := (Session.perform (.poll name : Action Outside)).run past.state
    let ids := mintedIds (Entry.calls past.journal)
    let handle := past.state.1.registry.handle
    ids.length < 2147483648 → look.answer.delivered? = some event →
      past.answer.filterMap Answer.made? = List.range ids.length ∧
      (∃ raw ∈ sentAlong start before,
        Entry.calls look.journal = [.poll (some (.ok raw))] ∧
        event.mapWindow (fun _ => ()) = raw.mapWindow (fun _ => ()) ∧
        ∀ h id, ids[h]? = some id → raw.window? = some id →
          ((handle h).isDestroyed = false → (handle h).id? = some id ∧
            event.window? = some (some h)) ∧
          ((handle h).isDestroyed = true → event.window? = some none)) ∧
      ∀ h, event.window? = some (some h) → (handle h).isDestroyed = false := by
  intro start past look ids handle hfew hevent
  have hminted : past.state.1.registry.Minted ids :=
    Session.minted_history _ graphics settings before
  have hnodup : ids.Nodup := nodup_minted_history limit graphics settings before hfew
  have hattached := attached_start (S := S) { limit := limit } graphics settings
  have hpasses := passes_performAll hattached before
  have hqueue : (takenAlong start before).map Taken.event ++ past.state.1.events.manager.queue =
      sentAlong start before := hpasses.2.1
  obtain ⟨raw, hraw, rfl, hcalls⟩ := delivered_of_poll hevent
  have hsent : raw ∈ sentAlong start before := by
    rw [← hqueue]
    exact List.mem_append_right _ hraw
  refine ⟨?_, ⟨raw, hsent, hcalls, ?_, fun h id hid hwindow => ?_⟩, fun h hh => ?_⟩
  · rw [← hminted.length_eq]
    exact Session.made_history _ graphics settings before
  · exact Event.mapWindow_mapWindow _ _ raw
  · -- no other handle was made for the identifier
    have hresolve : past.state.1.registry.resolve id =
        (some h).filter fun h => !(handle h).isDestroyed := by
      rw [hminted.resolve_eq, latest?_of_nodup hnodup hid]
    have hsame : (raw.mapWindow past.state.1.registry.resolve).window? =
        some (past.state.1.registry.resolve id) := by
      rw [Event.window?_mapWindow, hwindow, Option.map_some]
    refine ⟨fun hlive => ?_, fun hdestroyed => ?_⟩
    · have hfound : past.state.1.registry.resolve id = some h := by
        rw [hresolve, Option.filter_some, hlive]
        rfl
      rw [hsame, hfound]
      exact ⟨(hminted.sound.resolve_iff id h).mp hfound, rfl⟩
    · rw [hsame, hresolve, Option.filter_some, hdestroyed]
      rfl
  · rw [Event.window?_mapWindow, Option.map_eq_some_iff] at hh
    obtain ⟨id, -, hid⟩ := hh
    have hlive : (handle h).id? = some id := (hminted.sound.resolve_iff id h).mp hid
    rw [Handle.isDestroyed, hlive]
    rfl

/-- An event that was sent for a window is delivered after the window was destroyed and another one
was created in its slot. It comes without a window. -/
theorem redraw_delivered_after_destruction :
    let before : List (Action Outside) :=
      [.create {}, .outside (.send (.window ⟨4294967297⟩ .redrawRequested)), .destroy 0, .create {},
       .come "consumer"]
    let past : Outcome Entry (Session Manager Graphics Surface Waiter) _ :=
      Session.history {} {} {} before
    let look := (Session.perform (.poll "consumer" : Action Outside)).run past.state
    let ids := mintedIds (Entry.calls past.journal)
    let event : Event (Option HandleRef) := .window none .redrawRequested
    ids = [⟨4294967297⟩, ⟨12884901889⟩] ∧ ids.length < 2147483648 ∧
      look.answer.delivered? = some event ∧
      ∃ raw, Entry.calls look.journal = [.poll (some (.ok raw))] ∧
        raw.window? = some ⟨4294967297⟩ ∧
        (past.state.1.registry.handle 0).isDestroyed = true ∧ event.window? = some none := by
  intro before past look ids event
  have hids : ids = [⟨4294967297⟩, ⟨12884901889⟩] := by decide +kernel
  have hfew : ids.length < 2147483648 := by
    rw [hids]
    decide
  have hevent : look.answer.delivered? = some event := by rfl
  obtain ⟨-, ⟨raw, -, hcalls, -, hwindow⟩, -⟩ :=
    event_delivered_with_own_window none ({} : Graphics) {} before "consumer" event hfew hevent
  have htaken : Entry.calls look.journal =
      [.poll (some (.ok (.window ⟨4294967297⟩ .redrawRequested)))] := by rfl
  have hraw : raw.window? = some ⟨4294967297⟩ := by
    have hsame := hcalls.symm.trans htaken
    simp only [List.cons.injEq, Call.poll.injEq, Option.some.injEq, Except.ok.injEq, and_true]
      at hsame
    rw [hsame]
    rfl
  have hdestroyed : (past.state.1.registry.handle 0).isDestroyed = true := by rfl
  refine ⟨hids, hfew, hevent, raw, hcalls, hraw, hdestroyed, ?_⟩
  have hfirst : ids[0]? = some ⟨4294967297⟩ := by
    rw [hids]
    rfl
  exact (hwindow 0 ⟨4294967297⟩ hfirst hraw).2 hdestroyed

end Offscreen

end WindowSystem
