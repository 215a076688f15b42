/-
# Whole frames

What the frames of the desktop manager tell follows from what was done with it. A window is to be
redrawn if it was asked for since the last look at the display and not destroyed after that
(`toRedraw`). A destroyed window is named in no later frame, because its identifier finds nothing
again. All of this (`Accounts`) holds in every run that does not go through the versions of a slot
(`events_told_in_frames`).

A window may be destroyed under another identifier than the one under which it asked to be redrawn.
Then the request stays (`redrawn_after_destruction`).
-/
import WindowSystem.Proofs.Desktop.Frames

namespace WindowSystem.Desktop

/-! ## What was asked for -/

/-- What was done since the last look at the display. -/
def sinceLook (past : List (Moment Manager Nat Outside)) : List (Moment Manager Nat Outside) :=
  past.rtakeWhile fun t => !isPump t

/-- The windows asked to be redrawn, in order. -/
def asked (run : List (Moment Manager Nat Outside)) : List WindowId := run.filterMap asked?

/-- The windows destroyed, in order. -/
def destroyed (run : List (Moment Manager Nat Outside)) : List WindowId := run.filterMap destroyed?

/-- The windows to be redrawn: those asked for since the last look, each once, in the order in which
they were first asked for, but not those destroyed since. -/
def toRedraw (past : List (Moment Manager Nat Outside)) : List WindowId :=
  (asked (sinceLook past)).eraseDups.filter fun id => !(destroyed (sinceLook past)).contains id

section Concat

variable {past : List (Moment Manager Nat Outside)} {t : Moment Manager Nat Outside}

theorem asked_concat : asked (past ++ [t]) = asked past ++ (asked? t).toList :=
  filterMap_concat _ _ _

theorem destroyed_concat : destroyed (past ++ [t]) = destroyed past ++ (destroyed? t).toList :=
  filterMap_concat _ _ _

theorem asked_concat_of_none (h : asked? t = none) : asked (past ++ [t]) = asked past := by
  rw [asked_concat, h, Option.toList_none, List.append_nil]

theorem destroyed_concat_of_none (h : destroyed? t = none) :
    destroyed (past ++ [t]) = destroyed past := by
  rw [destroyed_concat, h, Option.toList_none, List.append_nil]

theorem destroyed_sinceLook_subset : destroyed (sinceLook past) ⊆ destroyed past := by
  intro id hid
  obtain ⟨t, ht, hdestroyed⟩ := List.mem_filterMap.mp hid
  exact List.mem_filterMap.mpr ⟨t, (List.rtakeWhile_suffix _ _).subset ht, hdestroyed⟩

theorem sinceLook_concat (hpump : isPump t = false) :
    sinceLook (past ++ [t]) = sinceLook past ++ [t] := by
  rw [sinceLook, List.rtakeWhile_concat, hpump]
  rfl

theorem toRedraw_concat_of_isPump (hpump : isPump t = true) : toRedraw (past ++ [t]) = [] := by
  rw [toRedraw, sinceLook, List.rtakeWhile_concat, hpump]
  rfl

/-- An action that asks for no window and destroys none. -/
theorem toRedraw_concat_of_quiet (hpump : isPump t = false) (hasked : asked? t = none)
    (hdestroyed : destroyed? t = none) : toRedraw (past ++ [t]) = toRedraw past := by
  rw [toRedraw, sinceLook_concat hpump, asked_concat_of_none hasked,
    destroyed_concat_of_none hdestroyed, toRedraw]

/-- A window is asked for; once more changes nothing. -/
theorem toRedraw_concat_of_asked {id : WindowId} (hpump : isPump t = false)
    (hasked : asked? t = some id) (hdestroyed : destroyed? t = none) (hid : id ∉ destroyed past) :
    toRedraw (past ++ [t]) =
      if (toRedraw past).contains id then toRedraw past else toRedraw past ++ [id] := by
  have hkept : (!(destroyed (sinceLook past)).contains id) = true := by
    rw [Bool.not_eq_true', List.contains_eq_mem, decide_eq_false_iff_not]
    exact fun h => hid (destroyed_sinceLook_subset h)
  have hmem : (toRedraw past).contains id = true ↔ id ∈ asked (sinceLook past) := by
    rw [List.contains_iff_mem, toRedraw, List.mem_filter, List.mem_eraseDups]
    exact and_iff_left hkept
  rw [toRedraw, sinceLook_concat hpump, asked_concat, hasked, destroyed_concat_of_none hdestroyed,
    Option.toList_some, List.eraseDups_append, List.filter_append, ← toRedraw]
  by_cases h : id ∈ asked (sinceLook past)
  · rw [if_pos (hmem.mpr h), List.removeAll, List.filter_cons_of_neg (by simpa using h)]
    simp
  · have hsingle : [id].eraseDups = [id] := by rw [List.eraseDups_cons]; rfl
    rw [if_neg (mt hmem.mp h), List.removeAll, List.filter_cons_of_pos (by simpa using h),
      List.filter_nil, hsingle, List.filter_singleton, hkept, cond_true]

/-- A window is destroyed. -/
theorem toRedraw_concat_of_destroyed {id : WindowId} (hpump : isPump t = false)
    (hasked : asked? t = none) (hdestroyed : destroyed? t = some id) :
    toRedraw (past ++ [t]) = (toRedraw past).filter (· ≠ id) := by
  rw [toRedraw, sinceLook_concat hpump, asked_concat_of_none hasked, destroyed_concat, hdestroyed,
    Option.toList_some, toRedraw, List.filter_filter]
  refine List.filter_congr fun other _ => ?_
  rw [Bool.eq_iff_iff]
  simp [and_comm]

end Concat

/-! ## What the manager remembers -/

/-- After some past, the manager has its windows in slots that were not used too often, and knows
which windows are to be redrawn. -/
structure Remembers (past : List (Moment Manager Nat Outside)) (m : Manager) : Prop where
  housed : m.Housed
  within : m.windows.Within (minted past).length
  own : ∀ id ∈ minted past, SlotTable.own id = id
  spent : ∀ id ∈ destroyed past, m.windows.IsSpent id
  requests : m.redrawRequests = toRedraw past
  kept : ∀ id ∈ m.redrawRequests, id ∉ destroyed past
  /-- If windows go by the identifiers they were given, those to be redrawn are there. -/
  present : (∀ id ∈ asked past ++ destroyed past, SlotTable.own id = id) →
    ∀ id ∈ m.redrawRequests, id ∈ m.windows.ids

namespace Remembers

variable {past : List (Moment Manager Nat Outside)} {t : Moment Manager Nat Outside}
  {m m' : Manager}

theorem start (display : Display) (pollInterval : Nat) :
    Remembers [] { display := display, pollInterval := pollInterval } where
  housed := (knows_start pollInterval).housed
  within := SlotTable.Within.empty
  own _ hid := absurd hid List.not_mem_nil
  spent _ hid := absurd hid List.not_mem_nil
  requests := rfl
  kept _ hid := absurd hid List.not_mem_nil
  present _ _ hid := absurd hid List.not_mem_nil

/-- The windows stay what they are. So do the requests, if they were not taken by a look. -/
theorem quiet (h : Remembers past m) (hsame : m.SameWindows m') (hminted : t.mintedId? = none)
    (hasked : asked? t = none) (hdestroyed : destroyed? t = none)
    (hrequests : m'.redrawRequests = if isPump t then [] else m.redrawRequests) :
    Remembers (past ++ [t]) m' := by
  have hmint : minted (past ++ [t]) = minted past := minted_concat_of_none hminted
  have hdestroy : destroyed (past ++ [t]) = destroyed past := destroyed_concat_of_none hdestroyed
  have hids : m'.windows.ids = m.windows.ids := by
    rw [← Manager.map_fst_numbers, hsame.numbers, Manager.map_fst_numbers]
  have hsubset : m'.redrawRequests ⊆ m.redrawRequests := by
    rw [hrequests]
    split
    · exact List.nil_subset _
    · exact fun _ hid => hid
  refine ⟨h.housed.congr hsame, ?_, ?_, ?_, ?_, ?_, ?_⟩
  · rw [hmint]
    exact h.within.congr hsame.versions
  · rw [hmint]
    exact h.own
  · rw [hdestroy]
    exact fun id hid => (h.spent id hid).ages (SlotTable.ages_of_versions_eq hsame.versions)
  · rw [hrequests]
    cases hpump : isPump t with
    | true =>
      rw [toRedraw_concat_of_isPump hpump]
      rfl
    | false =>
      rw [toRedraw_concat_of_quiet hpump hasked hdestroyed, ← h.requests]
      rfl
  · rw [hdestroy]
    exact fun id hid => h.kept id (hsubset hid)
  · rw [asked_concat_of_none hasked, hdestroy, hids]
    exact fun hown id hid => h.present hown id (hsubset hid)

/-- A window is created. -/
theorem creates (h : Remembers past m) {r : Record} (hr : r.number = m.display.created + 1)
    (hwindows : m'.windows = (m.windows.insert r).2)
    (hnumbers : m'.display.numbers = m.display.numbers ++ [m.display.created + 1])
    (hcreated : m'.display.created = m.display.created + 1)
    (hrequests : m'.redrawRequests = m.redrawRequests)
    (hmarks : marks t = { minted := some (m.windows.insert r).1 })
    (hfew : (minted (past ++ [t])).length < 2147483648) : Remembers (past ++ [t]) m' := by
  have hminted : t.mintedId? = some (m.windows.insert r).1 := congrArg Marks.minted hmarks
  have hasked : asked? t = none := congrArg Marks.asked hmarks
  have hdestroyed : destroyed? t = none := congrArg Marks.destroyed hmarks
  have hmint : minted (past ++ [t]) = minted past ++ [(m.windows.insert r).1] := by
    rw [minted_concat, hminted, Option.toList_some]
  have hlength : (minted (past ++ [t])).length = (minted past).length + 1 := by
    rw [hmint, List.length_append, List.length_singleton]
  rw [hlength] at hfew
  obtain ⟨hwithin, hages⟩ := h.within.insert h.housed.sound (by simp only [UInt32.size]; omega) r
  have hfits : (m.windows.insert r).2.Fits := hwithin.fits (by simp only [UInt32.size]; omega)
  have hsound := h.housed.sound.insert r
  refine ⟨h.housed.enter hr hwindows hnumbers hcreated, ?_, ?_, ?_, ?_, ?_, ?_⟩
  · rw [hlength, hwindows]
    exact hwithin
  · intro id hid
    rw [hmint, List.mem_append, List.mem_singleton] at hid
    rcases hid with hold | rfl
    · exact h.own id hold
    · exact hsound.own_of_mem hfits (h.housed.sound.mem_ids_insert.mpr (Or.inl rfl))
  · rw [destroyed_concat_of_none hdestroyed, hwindows]
    exact fun id hid => (h.spent id hid).ages hages
  · rw [hrequests, toRedraw_concat_of_quiet (congrArg Marks.looked hmarks) hasked hdestroyed,
      h.requests]
  · rw [hrequests, destroyed_concat_of_none hdestroyed]
    exact h.kept
  · rw [hrequests, asked_concat_of_none hasked, destroyed_concat_of_none hdestroyed, hwindows]
    intro hown id hid
    exact h.housed.sound.mem_ids_insert.mpr (Or.inr (h.present hown id hid))

/-- A window is asked to be redrawn. -/
theorem asks (h : Remembers past m) {id : WindowId} {r : Record}
    (hget : m.windows.get? id = some r) (hmarks : marks t = { asked := some id }) :
    Remembers (past ++ [t])
      { m with
        redrawRequests := if m.redrawRequests.contains id then m.redrawRequests
          else m.redrawRequests ++ [id] } := by
  have hminted : t.mintedId? = none := congrArg Marks.minted hmarks
  have hasked : asked? t = some id := congrArg Marks.asked hmarks
  have hdestroyed : destroyed? t = none := congrArg Marks.destroyed hmarks
  -- a window that is found was not destroyed under this identifier
  have hnot : id ∉ destroyed past := by
    intro hid
    rw [(h.spent id hid).get?] at hget
    cases hget
  have hmem : ∀ other ∈ (if m.redrawRequests.contains id then m.redrawRequests
      else m.redrawRequests ++ [id]), other ∈ m.redrawRequests ∨ other = id := by
    intro other hother
    split at hother
    · exact Or.inl hother
    · rw [List.mem_append, List.mem_singleton] at hother
      exact hother
  have hmint : minted (past ++ [t]) = minted past := minted_concat_of_none hminted
  have hdestroy : destroyed (past ++ [t]) = destroyed past := destroyed_concat_of_none hdestroyed
  refine ⟨h.housed.congr ⟨rfl, fun hs => hs, rfl, rfl, rfl⟩, ?_, ?_, ?_, ?_, ?_, ?_⟩
  · rw [hmint]
    exact h.within
  · rw [hmint]
    exact h.own
  · rw [hdestroy]
    exact h.spent
  · rw [toRedraw_concat_of_asked (congrArg Marks.looked hmarks) hasked hdestroyed hnot,
      ← h.requests]
  · intro other hother
    rw [hdestroy]
    rcases hmem other hother with hold | rfl
    · exact h.kept other hold
    · exact hnot
  · intro hown other hother
    rw [asked_concat, hasked, hdestroy] at hown
    rcases hmem other hother with hold | rfl
    · refine h.present (fun id' hid' => hown id' ?_) other hold
      rw [List.mem_append] at hid' ⊢
      exact hid'.imp_left (List.mem_append_left _)
    · have hself : SlotTable.own other = other := hown other (by simp)
      have hmem' := SlotTable.mem_of_get? hget
      rw [hself] at hmem'
      exact SlotTable.mem_ids.mpr ⟨r, hmem'⟩

/-- A window is destroyed. -/
theorem destroys (h : Remembers past m) {id : WindowId} {r : Record}
    (hget : m.windows.get? id = some r) (hmarks : marks t = { destroyed := some id })
    (hfew : (minted (past ++ [t])).length < 2147483648) :
    Remembers (past ++ [t]) ((Manager.destroy id).run m).state := by
  have hminted : t.mintedId? = none := congrArg Marks.minted hmarks
  have hasked : asked? t = none := congrArg Marks.asked hmarks
  have hdestroyed : destroyed? t = some id := congrArg Marks.destroyed hmarks
  have hmint : minted (past ++ [t]) = minted past := minted_concat_of_none hminted
  have hdestroy : destroyed (past ++ [t]) = destroyed past ++ [id] := by
    rw [destroyed_concat, hdestroyed, Option.toList_some]
  rw [hmint] at hfew
  have hfits : m.windows.Fits := h.within.fits (by simp only [UInt32.size]; omega)
  obtain ⟨hwithin, hages, hspent⟩ :=
    h.within.remove (by simp only [UInt32.size]; omega) hget
  have hhoused := h.housed.destroy hfits id
  rw [Manager.run_destroy_of_get? hget] at hhoused ⊢
  refine ⟨hhoused, ?_, ?_, ?_, ?_, ?_, ?_⟩
  · rw [hmint]
    exact hwithin
  · rw [hmint]
    exact h.own
  · intro other hother
    rw [hdestroy, List.mem_append, List.mem_singleton] at hother
    rcases hother with hold | rfl
    · exact (h.spent other hold).ages hages
    · exact hspent
  · rw [toRedraw_concat_of_destroyed (congrArg Marks.looked hmarks) hasked hdestroyed, h.requests]
  · intro other hother
    rw [List.mem_filter, decide_eq_true_iff] at hother
    rw [hdestroy, List.mem_append, List.mem_singleton, not_or]
    exact ⟨h.kept other hother.1, hother.2⟩
  · intro hown other hother
    rw [asked_concat_of_none hasked, hdestroy] at hown
    rw [List.mem_filter, decide_eq_true_iff] at hother
    have hself : SlotTable.own id = id := hown id (by simp)
    refine (hfits.mem_ids_remove hget).mpr ⟨?_, h.present (fun id' hid' => hown id' ?_) other hother.1⟩
    · rw [hself]
      exact hother.2
    · rw [List.mem_append] at hid' ⊢
      exact hid'.imp_right (List.mem_append_left _)

/-- Whatever an action does, the manager remembers what it should. -/
theorem step (h : Remembers past m) (a : ManagerAction Nat Outside)
    (hfew : (minted (past ++ [⟨m, a⟩])).length < 2147483648) :
    Remembers (past ++ [⟨m, a⟩]) (Moment.after ⟨m, a⟩) := by
  cases effect past ⟨m, a⟩ with
  | adjusts hmarks hadjusts =>
    refine h.quiet hadjusts.toSameWindows (congrArg Marks.minted hmarks)
      (congrArg Marks.asked hmarks) (congrArg Marks.destroyed hmarks) ?_
    have hpump : isPump ⟨m, a⟩ = false := congrArg Marks.looked hmarks
    rw [hpump]
    exact hadjusts.redrawRequests
  | creates r hmarks hnumber hwindows hnumbers hcreated _ hrequests _ =>
    exact h.creates hnumber hwindows hnumbers hcreated hrequests hmarks hfew
  | asks id r hmarks hget hafter =>
    rw [hafter]
    exact h.asks hget hmarks
  | destroys id r hmarks hget hafter =>
    have hdestroys := h.destroys hget hmarks hfew
    rw [Manager.run_destroy_of_get? hget] at hdestroys
    rw [hafter]
    exact hdestroys
  | takes event rest hmarks _ hafter =>
    rw [hafter]
    refine h.quiet ⟨rfl, fun hs => hs, rfl, rfl, rfl⟩ (congrArg Marks.minted hmarks)
      (congrArg Marks.asked hmarks) (congrArg Marks.destroyed hmarks) ?_
    have hpump : isPump ⟨m, a⟩ = false := congrArg Marks.looked hmarks
    rw [hpump]
    rfl
  | looks frame _ _ hmarks hafter =>
    rw [hafter]
    refine h.quiet ⟨rfl, fun hs => hs, rfl, m.display.numbers_takeReports _, rfl⟩
      (congrArg Marks.minted hmarks) (congrArg Marks.asked hmarks)
      (congrArg Marks.destroyed hmarks) ?_
    have hpump : isPump ⟨m, a⟩ = true := congrArg Marks.looked hmarks
    rw [hpump]
    rfl

end Remembers

/-! ## Frames tell what was done -/

/-- Nothing that was reported is left after a look. -/
theorem reports_looked (m : Manager) (frame : List Told) : (m.looked frame).reports = [] := by
  rw [Manager.reports, List.flatMap_eq_nil_iff]
  rintro ⟨id, r⟩ hr
  have hnumber : (m.windows.toList.map fun entry => entry.2.number).contains r.number = true :=
    List.contains_iff_mem.mpr (List.mem_map.mpr ⟨(id, r), hr, rfl⟩)
  have hreports : (m.looked frame).display.reportsOf r.number = [] := by
    rw [Display.reportsOf, Display.window?]
    cases hfind : (m.looked frame).display.windows.find? fun entry => entry.1 = r.number with
    | none => rfl
    | some entry =>
      have hentry : entry.1 = r.number := by simpa using List.find?_some hfind
      obtain ⟨old, -, rfl⟩ := List.mem_map.mp (List.mem_of_find?_eq_some hfind)
      split at hentry
      case isTrue htaken =>
        rw [if_pos htaken]
        rfl
      case isFalse hkept =>
        rw [hentry] at hkept
        exact absurd hnumber hkept
  show ((m.looked frame).display.reportsOf r.number).map _ = []
  rw [hreports, List.map_nil]

/-- What the frame of a look tells, and what the look leaves. -/
structure Accounts (p : Pump) (batch frame : List Told) : Prop where
  /-- The batch is what was found at the windows that are there, each event once, by time, and at one
  time in the order in which it was found. -/
  ordered : InTimeOrder p.found batch
  /-- The frame is around the batch and the windows asked for since the last look. -/
  framed : Pump.Framed batch (toRedraw p.past) frame
  /-- Events of a window whose times do not go down stay in order. -/
  windowOrder : ∀ id, ((p.manager.reports.filter fun entry => entry.1 = id).Pairwise fun a b =>
      a.2.time.rank ≤ b.2.time.rank) →
    batch.filter (fun told => told.event.window? = some id) =
      (p.found.filter fun a => a.2.event.window? = some id).map Prod.snd
  /-- No window that was destroyed before is named. -/
  forgotten : ∀ id ∈ destroyed p.past, ∀ told ∈ frame, told.event.window? ≠ some id
  /-- No two windows are reported about in the same place. -/
  alone : ∀ id other n, (id, n) ∈ p.manager.numbers → (other, n) ∈ p.manager.numbers → id = other
  /-- All that was reported is taken. -/
  taken : ((Manager.pump.run p.manager).state).reports = []

theorem Remembers.accounts {p : Pump} {frame : List Told} (h : Remembers p.past p.manager)
    (hfew : (minted p.past).length < 2147483648) (hframe : p.IsFrame frame) :
    ∃ batch, Accounts p batch frame := by
  obtain ⟨batch, hordered, hframed⟩ := hframe
  have hfits : p.manager.windows.Fits := h.within.fits (by simp only [UInt32.size]; omega)
  refine ⟨batch, hordered, ?_, fun id hid => ?_, fun id hid told htold hwindow => ?_,
    h.housed.own, ?_⟩
  · rw [← h.requests]
    exact hframed
  · refine hordered.filter_eq _ (pairwise_tellAll
      (p := fun told => decide (told.event.window? = some id)) (fun known entry a ha htold => ?_)
      hid p.manager.modifiers)
    rw [(of_mem_tells ha).2, decide_eq_true_iff] at htold
    exact decide_eq_true (Option.some.inj htold)
  · have hnone : p.manager.windows.get? id = none := (h.spent id hid).get?
    cases hframed with
    | nothing => exact List.not_mem_nil htold
    | complete =>
      simp only [List.mem_append, List.mem_singleton, List.mem_map] at htold
      rcases htold with (((rfl | hbatch) | rfl) | ⟨other, hother, rfl⟩) | rfl
      · cases hwindow
      · -- what is found concerns a window that is there
        obtain ⟨time, hfound⟩ := hordered.mem.mp hbatch
        obtain ⟨entry, hentry, known, htells⟩ := mem_tellAll hfound
        obtain ⟨-, hconcerns⟩ := of_mem_tells htells
        rw [hwindow] at hconcerns
        obtain ⟨⟨other, r⟩, hother, hmem⟩ := List.mem_flatMap.mp hentry
        obtain ⟨report, -, rfl⟩ := List.mem_map.mp hmem
        obtain rfl : id = other := Option.some.inj hconcerns
        rw [h.housed.sound.get?_of_mem hfits hother] at hnone
        cases hnone
      · cases hwindow
      · rw [← Option.some.inj hwindow] at hid
        exact h.kept other hother hid
      · cases hwindow
  · obtain ⟨frame, -, hstate⟩ := run_pump p.past p.manager
    rw [hstate]
    exact reports_looked _ _

/-- In every run in which fewer windows are created than a slot has odd versions, whatever is
reported at the display and whoever looks for events when, the events handed out and those still
pending are frames, one for each look at the display, which tell what was done and reported
(`Accounts`). If windows are asked to be redrawn and destroyed by identifiers that were handed out,
the windows to be redrawn are there when their frame is made. -/
theorem events_told_in_frames (display : Display) (pollInterval : Nat)
    (actions : List (ManagerAction Nat Outside)) :
    let start : Manager := { display := display, pollInterval := pollInterval }
    let run := moments start actions
    (minted run).length < 2147483648 →
      ∃ frames,
        List.Forall₂ (fun p frame => ∃ batch, Accounts p batch frame) (pumps run) frames ∧
        delivered run ++ (stateAfter start actions).pending = frames.flatten.map Told.event ∧
        (asked run ⊆ minted run → destroyed run ⊆ minted run →
          ∀ p ∈ pumps run, toRedraw p.past ⊆ p.manager.windows.ids) := by
  intro start run hfew
  -- while few windows were created, every action is remembered
  have hstep : ∀ past m (a : ManagerAction Nat Outside),
      ((minted past).length < 2147483648 → Remembers past m) →
      (minted (past ++ [⟨m, a⟩])).length < 2147483648 →
      Remembers (past ++ [⟨m, a⟩]) (Moment.after ⟨m, a⟩) := by
    intro past m a h hnow
    refine (h ?_).step a hnow
    rw [minted_concat, List.length_append] at hnow
    omega
  have hstart : (minted ([] : List (Moment Manager Nat Outside))).length < 2147483648 →
      Remembers [] start := fun _ => Remembers.start display pollInterval
  have hend : Remembers run (stateAfter start actions) := moments_induction hstep hstart actions hfew
  have hpast : ∀ p ∈ pumps run, p.past <+: run := fun p hp => past_isPrefix hp
  have hpumps : ∀ p ∈ pumps run, (minted p.past).length < 2147483648 ∧ Remembers p.past p.manager := by
    intro p hp
    have hle : (minted p.past).length ≤ (minted run).length := ((hpast p hp).filterMap _).length_le
    have hbefore : (minted p.past).length < 2147483648 := Nat.lt_of_le_of_lt hle hfew
    exact ⟨hbefore, forall_pumps hstep hstart actions p hp hbefore⟩
  obtain ⟨frames, hframes, hdelivered⟩ := delivered_append_pending [] start actions
  refine ⟨frames, ?_, hdelivered, fun hasked hdestroyed p hp id hid => ?_⟩
  · refine ((List.forall₂_and_left _ _).mpr ⟨hpumps, hframes⟩).imp ?_
    rintro p frame ⟨⟨hbefore, hp⟩, hframe⟩
    exact hp.accounts hbefore hframe
  · obtain ⟨-, hp'⟩ := hpumps p hp
    refine hp'.present (fun other hother => hend.own other ?_) id ?_
    · rcases List.mem_append.mp hother with h | h
      · exact hasked (((hpast p hp).filterMap _).subset h)
      · exact hdestroyed (((hpast p hp).filterMap _).subset h)
    · rw [hp'.requests]
      exact hid

/-- A window that is asked to be redrawn, and is destroyed only after a look. -/
theorem redraw_told_in_frame :
    let start : Manager := { display := {}, pollInterval := 4 }
    let run := moments start
      [.create {}, .update ⟨4294967297⟩ .requestRedraw, .poll none, .destroy ⟨4294967297⟩]
    (minted run).length < 2147483648 ∧ asked run ⊆ minted run ∧ destroyed run ⊆ minted run ∧
      ∃ frames,
        List.Forall₂ (fun p frame => ∃ batch, Accounts p batch frame) (pumps run) frames ∧
        ∀ p ∈ pumps run, toRedraw p.past ⊆ p.manager.windows.ids := by
  intro start run
  have hfew : (minted run).length < 2147483648 := by decide +kernel
  have hasked : asked run ⊆ minted run := by
    have hsame : asked run = minted run := by decide +kernel
    rw [hsame]
    exact fun _ hid => hid
  have hdestroyed : destroyed run ⊆ minted run := by
    have hsame : destroyed run = minted run := by decide +kernel
    rw [hsame]
    exact fun _ hid => hid
  obtain ⟨frames, hframes, -, hpresent⟩ := events_told_in_frames {} 4 _ hfew
  exact ⟨hfew, hasked, hdestroyed, frames, hframes, hpresent hasked hdestroyed⟩

/-- A window that asked to be redrawn and is destroyed under its other identifier is gone when the
display is looked at, but is told to be redrawn. -/
theorem redrawn_after_destruction :
    let start : Manager := { display := {}, pollInterval := 4 }
    let before : List (ManagerAction Nat Outside) :=
      [.create {}, .update ⟨4294967297⟩ .requestRedraw, .destroy ⟨1⟩]
    let actions := before ++ [.poll none]
    minted (moments start before) = [⟨4294967297⟩] ∧
      (stateAfter start before).windows.ids = [] ∧
      delivered (moments start actions) ++ (stateAfter start actions).pending =
        [.lifecycle .newEvents, .lifecycle .mainEventsCleared,
         .window ⟨4294967297⟩ .redrawRequested, .lifecycle .redrawEventsCleared] := by
  decide +kernel

end WindowSystem.Desktop
