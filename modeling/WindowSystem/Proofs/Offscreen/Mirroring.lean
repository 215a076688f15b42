/-
# What events tell about focus, position and scale

The manager reports back which window has the focus, where windows are moved and to which scale
factor. As long as it is asked about windows that it created, these reports are a mirror of its
state (`Mirrors`): they tell of windows that are there, the focus that a window has is what was told
of it last, and so are its position and its scale factor (`focus_position_scale_mirrored`).
-/
import Mathlib.Data.List.Chain
import WindowSystem.Proofs.Offscreen.Announcements
import WindowSystem.Proofs.Offscreen.Attribution
import WindowSystem.Proofs.Offscreen.Properties

namespace WindowSystem.Offscreen

/-! ## What is told -/

/-- What events tell about the window under an identifier, in order. -/
def told {α : Type} (tells : WindowEvent → Option α) (id : WindowId) (events : List RawEvent) :
    List α :=
  events.filterMap fun
    | .window target event => if target = id then tells event else none
    | _ => none

/-- Whether a window has the focus, as an event tells it. -/
def tellsFocus : WindowEvent → Option Bool
  | .focused isFocused => some isFocused
  | _ => none

/-- Where a window is, as an event tells it. -/
def tellsPosition : WindowEvent → Option Position
  | .moved position => some position
  | _ => none

/-- The scale factor of a window, as an event tells it. -/
def tellsScale : WindowEvent → Option Double
  | .scaleFactorChanged factor => some factor
  | _ => none

section Told

variable {α : Type} {tells : WindowEvent → Option α} {id : WindowId}

theorem told_append (events more : List RawEvent) :
    told tells id (events ++ more) = told tells id events ++ told tells id more :=
  List.filterMap_append

/-- Nothing is told of a window by events that are about others, or tell something else. -/
theorem told_eq_nil {events : List RawEvent} (h : ∀ e, .window id e ∈ events → tells e = none) :
    told tells id events = [] := by
  refine List.filterMap_eq_nil_iff.mpr fun event hevent => ?_
  cases event with
  | window target e =>
    show (if target = id then tells e else none) = none
    split
    case isTrue hsame =>
      rw [hsame] at hevent
      exact h e hevent
    case isFalse => rfl
  | _ => rfl

theorem told_self (event : WindowEvent) : told tells id [.window id event] = (tells event).toList := by
  cases htells : tells event with
  | none => exact List.filterMap_cons_none ((if_pos rfl).trans htells)
  | some a => exact List.filterMap_cons_some ((if_pos rfl).trans htells)

end Told

/-- A property that is reported back when it is written, and the events that tell it. -/
inductive Property.IsTold : (p : Property) → (WindowEvent → Option p.Value) → Prop where
  | outerPosition : IsTold .outerPosition tellsPosition
  | scaleFactor : IsTold .scaleFactor tellsScale

theorem Property.IsTold.tells_focused {p : Property} {tells : WindowEvent → Option p.Value}
    (h : p.IsTold tells) (isFocused : Bool) : tells (.focused isFocused) = none := by
  cases h <;> rfl

/-! ## Values that are told when they change -/

/-- Truth values that are all different from the one before, beginning with true. -/
def Alternates (values : List Bool) : Prop := (false :: values).IsChain (· ≠ ·)

/-- What is told of a truth value: the new one, if it is another. -/
def toldChange (before after : Bool) : List Bool := if after = before then [] else [after]

theorem alternates_nil : Alternates [] := .singleton false

/-- Who tells of all changes tells alternating values, the last of them being the present one. -/
theorem Alternates.tell {values : List Bool} (h : Alternates values) {before : Bool}
    (hbefore : values.getLast?.getD false = before) (after : Bool) :
    Alternates (values ++ toldChange before after) ∧
      (values ++ toldChange before after).getLast?.getD false = after := by
  rw [toldChange]
  split
  case isTrue hsame =>
    rw [List.append_nil, hbefore, hsame]
    exact ⟨h, rfl⟩
  case isFalse hne =>
    refine ⟨List.isChain_append.mpr ⟨h, .singleton after, fun last hlast next hnext => ?_⟩, ?_⟩
    · rw [List.getLast?_cons, hbefore, Option.mem_some_iff] at hlast
      rw [List.head?_cons, Option.mem_some_iff] at hnext
      rw [← hlast, ← hnext]
      exact Ne.symm hne
    · rw [List.getLast?_concat, Option.getD_some]

/-! ## Identifiers that were handed out -/

/-- The identifier that an action is about. -/
def target? : ManagerAction Waiter Outside → Option WindowId
  | .destroy id | .drawable id | .update id _ | .query id _ | .outside (.rescale id _) => some id
  | _ => none

/-! ## One moment -/

namespace Manager

variable (m : Manager)

/-- Whether a window has the focus. -/
def hasFocus (id : WindowId) : Bool := decide (m.focused = some id)

theorem hasFocus_iff {id : WindowId} : m.hasFocus id = true ↔ m.focused = some id :=
  decide_eq_true_iff

/-- The focus is on a window that is there, under the identifier that was handed out for it. -/
def FocusIsThere : Prop :=
  ∀ id, m.focused = some id → SlotTable.meant id = id ∧ ∃ w, m.windows.get? id = some w

variable {m}

/-- Passing the focus on tells the windows that gain and lose it. -/
theorem echoes_focus (hfocus : m.FocusIsThere) {target : WindowId} {w : Window}
    (hget : m.windows.get? target = some w) :
    m.echoes target .focus =
      if m.focused = some target then []
      else m.focused.toList.map (Event.window · (.focused false)) ++
        [.window target (.focused true)] := by
  have hthere : m.focused.filter m.windows.contains = m.focused := by
    cases hf : m.focused with
    | none => rfl
    | some previous =>
      obtain ⟨-, v, hv⟩ := hfocus previous hf
      rw [Option.filter_some, SlotTable.contains_of_get? hv, if_pos rfl]
  simp only [echoes, hget, hthere]

/-- Losing the focus is told to the window that has it. -/
theorem told_loss (m : Manager) (id : WindowId) :
    told tellsFocus id (m.focused.toList.map (Event.window · (.focused false))) =
      if m.hasFocus id then [false] else [] := by
  cases hf : m.focused with
  | none => simp [hasFocus, hf, told]
  | some previous =>
    by_cases hsame : previous = id
    · simp [hasFocus, hf, hsame, told_self, tellsFocus]
    · have hother : told tellsFocus id [.window previous (.focused false)] = [] :=
        told_eq_nil fun e he => absurd (Event.window.inj (List.mem_singleton.mp he)).1.symm hsame
      simpa [hasFocus, hf, hsame] using hother

/-- When a window is given the focus, every window is told how its focus changes. -/
theorem told_echoes_focus (hfocus : m.FocusIsThere) {target : WindowId} {w : Window}
    (hget : m.windows.get? target = some w) (id : WindowId) :
    told tellsFocus id (m.echoes target .focus) =
      toldChange (m.hasFocus id) (decide (target = id)) := by
  rw [echoes_focus hfocus hget]
  by_cases hhad : m.focused = some target
  · have hsame : m.hasFocus id = decide (target = id) := by
      simp only [hasFocus, hhad, Option.some.injEq]
    rw [if_pos hhad, toldChange, if_pos hsame.symm]
    rfl
  · rw [if_neg hhad, told_append, told_loss]
    by_cases hself : target = id
    · have hbefore : m.hasFocus id = false := by
        rw [hasFocus, ← hself, decide_eq_false hhad]
      rw [hbefore, hself, told_self, decide_eq_true rfl]
      rfl
    · have hgain : told tellsFocus id [.window target (.focused true)] = [] :=
        told_eq_nil fun e he => absurd (Event.window.inj (List.mem_singleton.mp he)).1.symm hself
      rw [hgain, List.append_nil, decide_eq_false hself]
      cases m.hasFocus id <;> rfl

/-- An event that reports a change of a window back. Only the loss of the focus is about another
window. -/
inductive Reports (m : Manager) (target : WindowId) : WindowChange → RawEvent → Prop where
  | loses {previous : WindowId} (hfocused : m.focused = some previous) :
    Reports m target .focus (.window previous (.focused false))
  | gains : Reports m target .focus (.window target (.focused true))
  | other {change : WindowChange} {e : WindowEvent} (hchange : change ≠ .focus)
      (htells : tellsFocus e = none) : Reports m target change (.window target e)

/-- What is reported back is about a change of a window that is there. -/
theorem reports_of_mem_echoes {target : WindowId} {change : WindowChange} {event : RawEvent}
    (hevent : event ∈ m.echoes target change) :
    (∃ w, m.windows.get? target = some w) ∧ Reports m target change event := by
  unfold echoes at hevent
  cases hget : m.windows.get? target with
  | none =>
    rw [hget] at hevent
    exact absurd hevent List.not_mem_nil
  | some w =>
    refine ⟨⟨w, rfl⟩, ?_⟩
    rw [hget] at hevent
    have hother : ∀ e, change ≠ .focus → tellsFocus e = none → event ∈ [.window target e] →
        Reports m target change event := by
      intro e hchange htells he
      rw [List.mem_singleton.mp he]
      exact .other hchange htells
    cases change with
    | focus =>
      simp only at hevent
      split at hevent
      · exact absurd hevent List.not_mem_nil
      · rcases List.mem_append.mp hevent with hloses | hgains
        · obtain ⟨previous, hprevious, rfl⟩ := List.mem_map.mp hloses
          exact .loses (Option.filter_eq_some_iff.mp (Option.mem_toList.mp hprevious)).1
        · rw [List.mem_singleton.mp hgains]
          exact .gains
    | innerSize size => exact hother _ (by simp) rfl hevent
    | outerPosition position => exact hother _ (by simp) rfl hevent
    | requestRedraw => exact hother _ (by simp) rfl hevent
    | _ => exact absurd hevent List.not_mem_nil

/-- Of a change that is reported back, what it writes of a property that is told is told. -/
theorem told_echoes {p : Property} {tells : WindowEvent → Option p.Value} (hp : p.IsTold tells)
    {id : WindowId} {w : Window} (hget : m.windows.get? id = some w) (change : WindowChange) :
    told tells id (m.echoes id change) = (Deed.written? p (.change change)).toList := by
  cases change with
  | focus =>
    have hnone : ∀ e, .window id e ∈ m.echoes id .focus → tells e = none := by
      intro e he
      cases (reports_of_mem_echoes he).2 with
      | loses => exact hp.tells_focused false
      | gains => exact hp.tells_focused true
      | other hchange => exact absurd rfl hchange
    rw [told_eq_nil hnone]
    rfl
  | innerSize size =>
    simp only [echoes, hget, told_self]
    cases hp <;> rfl
  | outerPosition position =>
    simp only [echoes, hget, told_self]
    cases hp <;> rfl
  | requestRedraw =>
    simp only [echoes, hget, told_self]
    cases hp <;> rfl
  | _ =>
    simp only [echoes, hget]
    cases hp <;> rfl

/-- A new scale factor is reported back of a window that is there. -/
theorem of_mem_rescaleEchoes {id target : WindowId} {factor : Double} {e : WindowEvent}
    (hevent : .window id e ∈ m.rescaleEchoes target factor) :
    (id = target ∧ e = .scaleFactorChanged factor) ∧ m.windows.contains target = true := by
  unfold rescaleEchoes at hevent
  split at hevent
  case isTrue hcontains => exact ⟨Event.window.inj (List.mem_singleton.mp hevent), hcontains⟩
  case isFalse => exact absurd hevent List.not_mem_nil

end Manager

/-- The focus moves to a window that is given it, and is lost with a window that is destroyed. -/
theorem focused_after (t : Moment Manager Waiter Outside) :
    t.after.focused =
      match t.action with
      | .update target .focus =>
        if t.before.windows.contains target then some target else t.before.focused
      | .destroy target =>
        if t.before.windows.contains target ∧ t.before.focused = some target then none
        else t.before.focused
      | _ => t.before.focused := by
  obtain ⟨m, action⟩ := t
  cases action with
  | create attributes =>
    show ((Manager.create attributes).run m).state.focused = m.focused
    rcases m.run_create_cases attributes with ⟨_, -, hstate⟩ | ⟨-, hstate, -⟩ <;> rw [hstate]
  | destroy target =>
    show ((Manager.destroy target).run m).state.focused =
      if m.windows.contains target ∧ m.focused = some target then none else m.focused
    cases hcontains : m.windows.contains target with
    | true => simp only [m.run_destroy_of_contains hcontains, true_and]
    | false => simp [m.run_destroy_of_not_contains hcontains]
  | drawable target =>
    show ((Manager.drawable target).run m).state.focused = m.focused
    cases hget : m.windows.get? target with
    | none =>
      unfold Manager.drawable
      rw [Step.run_bind, Step.run_get]
      simp only [hget]
      rfl
    | some w =>
      cases hissued : w.drawableIssued with
      | true =>
        unfold Manager.drawable
        rw [Step.run_bind, Step.run_get]
        simp only [hget, hissued, if_true]
        rfl
      | false => rw [m.run_drawable_of_get? hget hissued]
  | update target change =>
    cases hget : m.windows.get? target with
    | none =>
      have hstate : ((Manager.update target change).run m).state = m := by
        rw [m.run_update_of_get?_eq_none hget]
      have hcontains : m.windows.contains target = false := by
        rw [SlotTable.contains, hget]
        rfl
      show ((Manager.update target change).run m).state.focused = _
      rw [hstate]
      cases change <;> simp [hcontains]
    | some w =>
      obtain ⟨-, -, hfocused, -⟩ := m.run_update_of_get? hget change
      show ((Manager.update target change).run m).state.focused = _
      rw [hfocused]
      cases change <;> simp [SlotTable.contains_of_get? hget]
  | query target q => rfl
  | setDeviceFilter filter => rfl
  | poll token => exact (m.sameWindows_poll token).focused
  | leave token => cases token <;> rfl
  | outside x =>
    cases x with
    | send event => rfl
    | rescale target factor => exact (m.run_happen (.rescale target factor)).2.1

/-- A window is destroyed only under an identifier that stands for it. -/
theorem fate_eq_destroyed {id : WindowId} {t : Moment Manager Waiter Outside}
    (h : fate id t = .destroyed) :
    ∃ target, t.action = .destroy target ∧ SlotTable.meant id = SlotTable.meant target := by
  have hother : ∀ target deed, Fate.on target id (.undergoes deed) ≠ .destroyed := by
    intro target deed
    rw [Fate.on]
    split <;> simp
  obtain ⟨m, action⟩ := t
  cases action with
  | create attributes =>
    unfold fate at h
    simp only at h
    split at h <;> cases h
  | destroy target =>
    by_contra hne
    have hmeant : SlotTable.meant id ≠ SlotTable.meant target := fun hsame =>
      hne ⟨target, rfl, hsame⟩
    rw [show fate id ⟨m, .destroy target⟩ = .untouched from if_neg hmeant] at h
    cases h
  | drawable target => exact absurd h (hother target .draw)
  | update target change => exact absurd h (hother target (.change change))
  | outside x =>
    cases x with
    | send event => cases h
    | rescale target factor => exact absurd h (hother target (.rescale factor))
  | _ => cases h

/-- A window is created under the identifier that is handed out. -/
theorem fate_eq_created {id : WindowId} {t : Moment Manager Waiter Outside}
    {attributes : WindowAttributes} (h : fate id t = .created attributes) :
    t.action = .create attributes ∧ t.mintedId? = some (SlotTable.meant id) := by
  have hother : ∀ target fate, fate ≠ .created attributes →
      Fate.on target id fate ≠ .created attributes := by
    intro target fate hfate
    rw [Fate.on]
    split
    · exact hfate
    · simp
  obtain ⟨m, action⟩ := t
  cases action with
  | create asked =>
    unfold fate at h
    simp only at h
    split at h
    case isTrue hminted =>
      rw [Fate.created.inj h] at hminted ⊢
      exact ⟨rfl, hminted⟩
    case isFalse => cases h
  | destroy target => exact absurd h (hother target _ (by simp))
  | drawable target => exact absurd h (hother target _ (by simp))
  | update target change => exact absurd h (hother target _ (by simp))
  | outside x =>
    cases x with
    | send event => cases h
    | rescale target factor => exact absurd h (hother target _ (by simp))
  | _ => cases h

/-- What an action writes of a property, if it means a deed for a window. -/
def Fate.written? (p : Property) : Fate → Option p.Value
  | .undergoes deed => deed.written? p
  | _ => none

/-- A moment in which a manager that is in order is asked about an identifier that was handed
out. -/
structure Orderly (t : Moment Manager Waiter Outside) : Prop where
  sound : t.before.windows.Sound
  fits : t.after.windows.Fits
  focusIsThere : t.before.FocusIsThere
  target_meant : ∀ target, target? t.action = some target → SlotTable.meant target = target

namespace Orderly

variable {t : Moment Manager Waiter Outside} (h : Orderly t) {id : WindowId} {w : Window}

include h

/-- The manager sends events about windows that are there. -/
theorem get?_of_mem_ownEvents {e : WindowEvent} (hevent : .window id e ∈ ownEvents t) :
    SlotTable.meant id = id ∧ ∃ w, t.before.windows.get? id = some w := by
  rw [ownEvents_eq] at hevent
  obtain ⟨m, action⟩ := t
  cases action with
  | update target change =>
    obtain ⟨hget, hreports⟩ := Manager.reports_of_mem_echoes hevent
    cases hreports with
    | loses hfocused => exact h.focusIsThere id hfocused
    | gains => exact ⟨h.target_meant id rfl, hget⟩
    | other => exact ⟨h.target_meant id rfl, hget⟩
  | outside x =>
    cases x with
    | send event => exact absurd hevent List.not_mem_nil
    | rescale target factor =>
      obtain ⟨⟨rfl, -⟩, hcontains⟩ := Manager.of_mem_rescaleEchoes hevent
      exact ⟨h.target_meant id rfl, Option.isSome_iff_exists.mp hcontains⟩
  | _ => exact absurd hevent List.not_mem_nil

/-- A window that is there after an action was not destroyed in it. -/
theorem ne_of_destroy (hget : t.after.windows.get? id = some w) {target : WindowId}
    (ht : t.action = .destroy target) : id ≠ target := by
  rintro rfl
  rw [get?_after t h.sound h.fits] at hget
  have hfate : fate id t = .destroyed := by
    rw [fate, ht]
    exact Fate.on_self id .destroyed
  rw [hfate] at hget
  cases hget

omit h in
/-- When the focus stays where it is and no event tells of it, no change is told. -/
theorem told_focus_of_eq (hfocused : t.after.hasFocus id = t.before.hasFocus id)
    (hnone : ∀ e, .window id e ∈ ownEvents t → tellsFocus e = none) :
    told tellsFocus id (ownEvents t) =
      toldChange (t.before.hasFocus id) (t.after.hasFocus id) := by
  rw [told_eq_nil hnone, toldChange, if_pos hfocused]

/-- Every change of the focus of a window is told, and nothing else, unless it is destroyed. -/
theorem told_focus (hget : t.after.windows.get? id = some w) :
    told tellsFocus id (ownEvents t) =
      toldChange (t.before.hasFocus id) (t.after.hasFocus id) := by
  have hafter := focused_after t
  have hevents := ownEvents_eq t
  have hsame : t.after.focused = t.before.focused → t.after.hasFocus id = t.before.hasFocus id := by
    intro hfocused
    rw [Manager.hasFocus, hfocused, Manager.hasFocus]
  have hnone : ownEvents t = [] → ∀ e, .window id e ∈ ownEvents t → tellsFocus e = none := by
    intro hnil e he
    rw [hnil] at he
    exact absurd he List.not_mem_nil
  cases ht : t.action with
  | destroy target =>
    rw [ht] at hafter hevents
    refine told_focus_of_eq ?_ (hnone hevents)
    have hne := h.ne_of_destroy hget ht
    by_cases hlost : t.before.windows.contains target ∧ t.before.focused = some target
    · have hgone : t.after.focused = none := hafter.trans (if_pos hlost)
      simp [Manager.hasFocus, hgone, hlost.2, Ne.symm hne]
    · exact hsame (hafter.trans (if_neg hlost))
  | update target change =>
    rw [ht] at hafter hevents
    have hechoes : ownEvents t = t.before.echoes target change := hevents
    by_cases hchange : change = .focus
    · rw [hchange] at hafter hechoes
      cases hwindow : t.before.windows.get? target with
      | none =>
        have hcontains := SlotTable.not_contains_of_get? hwindow
        refine told_focus_of_eq (hsame (hafter.trans (if_neg hcontains))) (hnone ?_)
        simp only [hechoes, Manager.echoes, hwindow]
      | some v =>
        have hgains : t.after.focused = some target :=
          hafter.trans (if_pos (SlotTable.contains_of_get? hwindow))
        rw [hechoes, Manager.told_echoes_focus h.focusIsThere hwindow, Manager.hasFocus,
          Manager.hasFocus, hgains]
        simp only [Option.some.injEq]
    · have hstays : t.after.focused = t.before.focused := by
        cases change with
        | focus => exact absurd rfl hchange
        | _ => exact hafter
      refine told_focus_of_eq (hsame hstays) fun e he => ?_
      rw [hechoes] at he
      cases (Manager.reports_of_mem_echoes he).2 with
      | loses => exact absurd rfl hchange
      | gains => exact absurd rfl hchange
      | other _ htells => exact htells
  | outside x =>
    rw [ht] at hafter hevents
    refine told_focus_of_eq (hsame hafter) fun e he => ?_
    cases x with
    | send event => exact hnone hevents e he
    | rescale target factor =>
      rw [hevents] at he
      obtain ⟨⟨-, rfl⟩, -⟩ := Manager.of_mem_rescaleEchoes he
      rfl
  | _ =>
    rw [ht] at hafter hevents
    exact told_focus_of_eq (hsame hafter) (hnone hevents)

/-- A window stays there unless it is destroyed. -/
theorem get?_after_of_ne (hget : t.before.windows.get? id = some w)
    (hne : ∀ target, t.action = .destroy target → SlotTable.meant id ≠ SlotTable.meant target) :
    ∃ w, t.after.windows.get? id = some w := by
  rw [get?_after t h.sound h.fits, hget]
  cases hfate : fate id t with
  | created attributes => exact ⟨_, rfl⟩
  | destroyed =>
    obtain ⟨target, ht, hsame⟩ := fate_eq_destroyed hfate
    exact absurd hsame (hne target ht)
  | undergoes deed => exact ⟨_, rfl⟩
  | untouched => exact ⟨_, rfl⟩

/-- The focus stays on a window that is there. -/
theorem focusIsThere_after : t.after.FocusIsThere := by
  intro id hid
  -- who had the focus and keeps it is not destroyed
  have hkept : t.before.focused = some id → (∀ target, t.action = .destroy target → id ≠ target) →
      SlotTable.meant id = id ∧ ∃ w, t.after.windows.get? id = some w := by
    intro hfocused hne
    obtain ⟨hmeant, w, hget⟩ := h.focusIsThere id hfocused
    refine ⟨hmeant, h.get?_after_of_ne hget fun target ht hsame => hne target ht ?_⟩
    rwa [hmeant, h.target_meant target (congrArg target? ht)] at hsame
  have hafter := focused_after t
  cases ht : t.action with
  | update target change =>
    have hkeeps := fun hfocused => hkept hfocused fun _ hdestroy => by
      rw [ht] at hdestroy
      cases hdestroy
    rw [ht, hid] at hafter
    cases change with
    | focus =>
      by_cases hcontains : t.before.windows.contains target = true
      · obtain rfl : id = target := Option.some.inj (hafter.trans (if_pos hcontains))
        obtain ⟨w, hget⟩ := Option.isSome_iff_exists.mp hcontains
        refine ⟨h.target_meant id (congrArg target? ht), h.get?_after_of_ne hget fun _ hd => ?_⟩
        rw [ht] at hd
        cases hd
      · exact hkeeps (hafter.trans (if_neg hcontains)).symm
    | _ => exact hkeeps hafter.symm
  | destroy target =>
    rw [ht, hid] at hafter
    by_cases hlost : t.before.windows.contains target ∧ t.before.focused = some target
    · cases hafter.trans (if_pos hlost)
    · have hfocused : t.before.focused = some id := (hafter.trans (if_neg hlost)).symm
      refine hkept hfocused fun other hother => ?_
      rw [ht] at hother
      cases hother
      rintro rfl
      obtain ⟨-, w, hget⟩ := h.focusIsThere id hfocused
      exact hlost ⟨SlotTable.contains_of_get? hget, hfocused⟩
  | _ =>
    rw [ht, hid] at hafter
    refine hkept hafter.symm fun _ hdestroy => ?_
    rw [ht] at hdestroy
    cases hdestroy

/-- What is written of a property that is told is told. -/
theorem told_property {p : Property} {tells : WindowEvent → Option p.Value} (hp : p.IsTold tells)
    (hid : SlotTable.meant id = id) (hget : t.before.windows.get? id = some w) :
    told tells id (ownEvents t) = ((fate id t).written? p).toList := by
  have hmeant := h.target_meant
  rw [ownEvents_eq]
  obtain ⟨m, action⟩ := t
  cases action with
  | create attributes =>
    show [] = (Fate.written? p (if _ then _ else _)).toList
    split <;> rfl
  | destroy target =>
    show [] = (Fate.written? p (Fate.on target id .destroyed)).toList
    rw [Fate.on]
    split <;> rfl
  | drawable target =>
    show [] = (Fate.written? p (Fate.on target id (.undergoes .draw))).toList
    rw [Fate.on]
    split <;> rfl
  | update target change =>
    show told tells id (m.echoes target change) =
      (Fate.written? p (Fate.on target id (.undergoes (.change change)))).toList
    by_cases hsame : id = target
    · rw [← hsame, Fate.on_self]
      exact m.told_echoes hp hget change
    · rw [Fate.on_of_ne hid (hmeant target rfl) hsame]
      refine told_eq_nil fun e he => ?_
      cases (Manager.reports_of_mem_echoes he).2 with
      | loses => exact hp.tells_focused false
      | gains => exact absurd rfl hsame
      | other => exact absurd rfl hsame
  | outside x =>
    cases x with
    | send event => rfl
    | rescale target factor =>
      show told tells id (m.rescaleEchoes target factor) =
        (Fate.written? p (Fate.on target id (.undergoes (.rescale factor)))).toList
      by_cases hsame : id = target
      · have hechoes : m.rescaleEchoes id factor = [.window id (.scaleFactorChanged factor)] :=
          if_pos (SlotTable.contains_of_get? hget)
        rw [← hsame, Fate.on_self, hechoes, told_self]
        cases hp <;> rfl
      · rw [Fate.on_of_ne hid (hmeant target rfl) hsame]
        exact told_eq_nil fun e he =>
          absurd (Manager.of_mem_rescaleEchoes he).1.1 hsame
  | _ => rfl

/-- A window that is there afterwards was there, or is created now. -/
theorem get?_before_or_minted (hid : SlotTable.meant id = id)
    (hget : t.after.windows.get? id = some w) :
    (∃ w, t.before.windows.get? id = some w) ∨ t.mintedId? = some id := by
  rw [get?_after t h.sound h.fits] at hget
  cases hfate : fate id t with
  | created attributes =>
    have hminted := (fate_eq_created hfate).2
    rw [hid] at hminted
    exact Or.inr hminted
  | destroyed =>
    rw [hfate] at hget
    cases hget
  | undergoes deed =>
    rw [hfate, Fate.act, Option.map_eq_some_iff] at hget
    obtain ⟨before, hbefore, -⟩ := hget
    exact Or.inl ⟨before, hbefore⟩
  | untouched =>
    rw [hfate] at hget
    exact Or.inl ⟨w, hget⟩

/-- Nothing is told of a window that is not there afterwards. -/
theorem told_eq_nil_of_gone {α : Type} {tells : WindowEvent → Option α}
    (hgone : SlotTable.meant id = id → t.after.windows.get? id = none) :
    told tells id (ownEvents t) = [] := by
  refine told_eq_nil fun e he => ?_
  obtain ⟨hid, w, hbefore⟩ := h.get?_of_mem_ownEvents he
  -- it was destroyed, and then nothing is sent
  by_contra
  obtain ⟨w', hafter⟩ := h.get?_after_of_ne hbefore fun target hdestroy _ => by
    rw [ownEvents_eq, hdestroy] at he
    exact absurd he List.not_mem_nil
  rw [hgone hid] at hafter
  cases hafter

end Orderly

/-! ## Runs -/

/-- The events that the manager itself sent in a run, in order. -/
def sentOf (run : List (Moment Manager Waiter Outside)) : List RawEvent := run.flatMap ownEvents

/-- The identifiers that a run is about, in order. -/
def targets (run : List (Moment Manager Waiter Outside)) : List WindowId :=
  run.filterMap fun t => target? t.action

theorem sentOf_concat (past : List (Moment Manager Waiter Outside))
    (t : Moment Manager Waiter Outside) :
    sentOf (past ++ [t]) = sentOf past ++ ownEvents t := by
  rw [sentOf, List.flatMap_append, List.flatMap_singleton, sentOf]

/-- What a run tells of the window under an identifier is how it was created and what was written of
it since. -/
structure Recorded (past : List (Moment Manager Waiter Outside)) (id : WindowId) (life : Life) :
    Prop where
  created : ∀ attributes, .create attributes (.ok id) ∈ callsOf past ↔ attributes = life.attributes
  told_eq : ∀ {p : Property} {tells : WindowEvent → Option p.Value}, p.IsTold tells →
    told tells id (sentOf past) = life.deeds.filterMap (Deed.written? p)

/-- The events that the manager sent in a run mirror its windows: they are about windows that were
created, tell of the focus of each as it changes, and of the properties that are told, and nothing
of a window that was destroyed. -/
structure Mirrors (past : List (Moment Manager Waiter Outside)) (m : Manager) : Prop where
  focusIsThere : m.FocusIsThere
  get?_minted : ∀ id w, SlotTable.meant id = id → m.windows.get? id = some w → id ∈ minted past
  sent_minted : ∀ id e, .window id e ∈ sentOf past → id ∈ minted past
  alternates : ∀ id, Alternates (told tellsFocus id (sentOf past))
  focus_told : ∀ id w, SlotTable.meant id = id → m.windows.get? id = some w →
    (told tellsFocus id (sentOf past)).getLast?.getD false = m.hasFocus id
  recorded : ∀ id life, SlotTable.meant id = id → lifeOf id past = some life →
    Recorded past id life
  silent : ∀ earlier t later id, past = earlier ++ t :: later → t.action = .destroy id →
    (∃ w, t.before.windows.get? id = some w) →
    SlotTable.meant id = id ∧ id ∈ minted past ∧ m.windows.get? id = none ∧
      ∀ e, .window id e ∉ sentOf later

theorem mirrors_start (limit : Option Nat) : Mirrors [] { limit := limit } where
  focusIsThere id hid := by cases hid
  get?_minted id w _ hget := by
    rw [SlotTable.get?_empty] at hget
    cases hget
  sent_minted id e he := absurd he List.not_mem_nil
  alternates id := alternates_nil
  focus_told id w _ hget := by
    rw [SlotTable.get?_empty] at hget
    cases hget
  recorded id life _ hlife := by cases hlife
  silent earlier t later id heq := by simp at heq

namespace Mirrors

variable {past : List (Moment Manager Waiter Outside)} {t : Moment Manager Waiter Outside}
  {id : WindowId} {w : Window}

omit id w in
/-- An identifier that is handed out was not handed out before. -/
theorem not_minted (hnodup : (minted (past ++ [t])).Nodup) {id : WindowId}
    (hid : t.mintedId? = some id) : id ∉ minted past := by
  rw [minted_concat, hid, Option.toList_some] at hnodup
  exact List.disjoint_singleton.mp (List.nodup_append'.mp hnodup).2.2

section Step

variable (h : Mirrors past t.before) (ht : Orderly t)

include h ht

/-- The manager tells only of windows that were created. -/
theorem minted_of_mem_ownEvents {e : WindowEvent} (he : .window id e ∈ ownEvents t) :
    id ∈ minted past := by
  obtain ⟨hmeant, w, hget⟩ := ht.get?_of_mem_ownEvents he
  exact h.get?_minted id w hmeant hget

variable (hnodup : (minted (past ++ [t])).Nodup)

include hnodup

/-- What was told before of a window that is there afterwards is whether it had the focus. -/
theorem focus_told_before (hid : SlotTable.meant id = id)
    (hget : t.after.windows.get? id = some w) :
    (told tellsFocus id (sentOf past)).getLast?.getD false = t.before.hasFocus id := by
  rcases ht.get?_before_or_minted hid hget with ⟨before, hbefore⟩ | hminted
  · exact h.focus_told id before hid hbefore
  · -- a window that is created now was not told of, and does not have the focus
    have hnew := not_minted hnodup hminted
    have hnil : told tellsFocus id (sentOf past) = [] :=
      told_eq_nil fun e he => absurd (h.sent_minted id e he) hnew
    have hfocus : t.before.hasFocus id = false := by
      refine decide_eq_false fun hfocused => hnew ?_
      obtain ⟨hmeant, before, hbefore⟩ := h.focusIsThere id hfocused
      exact h.get?_minted id before hmeant hbefore
    rw [hnil, hfocus]
    rfl

/-- The focus of every window goes on being told as it changes. -/
theorem focus_step (id : WindowId) :
    Alternates (told tellsFocus id (sentOf (past ++ [t]))) ∧
      ∀ w, SlotTable.meant id = id → t.after.windows.get? id = some w →
        (told tellsFocus id (sentOf (past ++ [t]))).getLast?.getD false = t.after.hasFocus id := by
  rw [sentOf_concat, told_append]
  by_cases hthere : SlotTable.meant id = id ∧ ∃ w, t.after.windows.get? id = some w
  · obtain ⟨hid, w, hget⟩ := hthere
    have hbefore := h.focus_told_before ht hnodup hid hget
    have htell := (h.alternates id).tell hbefore (t.after.hasFocus id)
    rw [ht.told_focus hget]
    exact ⟨htell.1, fun _ _ _ => htell.2⟩
  · have hnil : told tellsFocus id (ownEvents t) = [] := by
      refine ht.told_eq_nil_of_gone fun hid => ?_
      by_contra hne
      exact hthere ⟨hid, Option.ne_none_iff_exists'.mp hne⟩
    rw [hnil, List.append_nil]
    exact ⟨h.alternates id, fun w hid hget => absurd ⟨hid, w, hget⟩ hthere⟩

/-- Of a window that was there, what is told is what is written of it, and it is not created
again. -/
theorem recorded_of_lifeOf (hlives : Recounts past t.before) {earlier life : Life}
    (hid : SlotTable.meant id = id) (hearlier : lifeOf id past = some earlier)
    (hattributes : life.attributes = earlier.attributes)
    (hdeeds : ∀ p, life.deeds.filterMap (Deed.written? p) =
      earlier.deeds.filterMap (Deed.written? p) ++ ((fate id t).written? p).toList) :
    Recorded (past ++ [t]) id life := by
  have hrecorded := h.recorded id earlier hid hearlier
  have hget : t.before.windows.get? id = some earlier.window := by
    rw [hlives.get?_eq (fits_course t.course ht.fits), hearlier, Option.map_some]
  refine ⟨fun attributes => ?_, fun {p tells} hp => ?_⟩
  · rw [callsOf_concat, List.mem_append, hrecorded.created, hattributes]
    refine or_iff_left fun hcall => ?_
    have hminted : t.mintedId? = some id := by
      rw [Moment.mintedId?, Option.mem_toList.mp hcall]
      rfl
    exact not_minted hnodup hminted (h.get?_minted id _ hid hget)
  · rw [sentOf_concat, told_append, hrecorded.told_eq hp, ht.told_property hp hid hget, hdeeds]

/-- Of a window that is created nothing was told before. -/
theorem recorded_of_created {attributes : WindowAttributes} (hid : SlotTable.meant id = id)
    (hfate : fate id t = .created attributes) : Recorded (past ++ [t]) id ⟨attributes, []⟩ := by
  obtain ⟨hcreate, hminted⟩ := fate_eq_created hfate
  rw [hid] at hminted
  have hnew := not_minted hnodup hminted
  refine ⟨fun other => ?_, fun hp => ?_⟩
  · have hcall : t.call? = some (.create attributes (.ok id)) := by
      obtain ⟨m, action⟩ := t
      obtain rfl : action = .create attributes := hcreate
      have hanswer : Call.mintedId? (.create attributes ((Manager.create attributes).run m).answer) =
          some id := hminted
      show some (Call.create attributes ((Manager.create attributes).run m).answer) = _
      cases hmade : ((Manager.create attributes).run m).answer with
      | error e =>
        rw [hmade] at hanswer
        cases hanswer
      | ok made =>
        rw [hmade] at hanswer
        rw [Option.some.inj hanswer]
    have hbefore : Call.create other (.ok id) ∉ callsOf past := fun hmem => hnew (by
      rw [← mintedIds_callsOf]
      exact mem_mintedIds.mpr ⟨other, hmem⟩)
    rw [callsOf_concat, hcall, List.mem_append, or_iff_right hbefore]
    simp
  · have hnothing : ownEvents t = [] := by
      rw [ownEvents_eq, hcreate]
    rw [sentOf_concat, hnothing, List.append_nil]
    exact told_eq_nil fun e he => absurd (h.sent_minted id e he) hnew

theorem recorded_step (hlives : Recounts past t.before) {life : Life}
    (hid : SlotTable.meant id = id) (hlife : lifeOf id (past ++ [t]) = some life) :
    Recorded (past ++ [t]) id life := by
  rw [lifeOf_concat] at hlife
  cases hfate : fate id t with
  | created attributes =>
    rw [hfate] at hlife
    rw [← Option.some.inj hlife]
    exact h.recorded_of_created ht hnodup hid hfate
  | destroyed =>
    rw [hfate] at hlife
    cases hlife
  | undergoes deed =>
    rw [hfate, Fate.extend, Option.map_eq_some_iff] at hlife
    obtain ⟨earlier, hearlier, rfl⟩ := hlife
    refine h.recorded_of_lifeOf ht hnodup hlives hid hearlier rfl fun p => ?_
    rw [hfate, Life.add, filterMap_concat]
    rfl
  | untouched =>
    rw [hfate] at hlife
    refine h.recorded_of_lifeOf ht hnodup hlives hid hlife rfl fun p => ?_
    rw [hfate]
    exact (List.append_nil _).symm

/-- Nothing is told of a window again once it is destroyed. -/
theorem silent_step {earlier later : List (Moment Manager Waiter Outside)}
    {s : Moment Manager Waiter Outside} (heq : past ++ [t] = earlier ++ s :: later)
    (hdestroy : s.action = .destroy id) (hthere : ∃ w, s.before.windows.get? id = some w) :
    SlotTable.meant id = id ∧ id ∈ minted (past ++ [t]) ∧ t.after.windows.get? id = none ∧
      ∀ e, .window id e ∉ sentOf later := by
  rcases List.eq_nil_or_concat later with rfl | ⟨init, last, rfl⟩
  · -- it is destroyed now
    obtain ⟨-, hlast⟩ := List.append_inj' heq rfl
    obtain rfl : t = s := (List.cons.inj hlast).1
    obtain ⟨w, hget⟩ := hthere
    have hid := ht.target_meant id (congrArg target? hdestroy)
    refine ⟨hid, ?_, ?_, fun e he => absurd he List.not_mem_nil⟩
    · rw [minted_concat]
      exact List.mem_append_left _ (h.get?_minted id w hid hget)
    · by_contra hne
      obtain ⟨w', hafter⟩ := Option.ne_none_iff_exists'.mp hne
      exact ht.ne_of_destroy hafter hdestroy rfl
  · rw [List.concat_eq_append, ← List.cons_append, ← List.append_assoc] at heq
    obtain ⟨hpast, hlast⟩ := List.append_inj' heq rfl
    obtain rfl : t = last := (List.cons.inj hlast).1
    obtain ⟨hid, hminted, hgone, hsilent⟩ := h.silent earlier s init id hpast hdestroy hthere
    refine ⟨hid, ?_, ?_, fun e he => ?_⟩
    · rw [minted_concat]
      exact List.mem_append_left _ hminted
    · -- its identifier is not handed out again
      by_contra hne
      obtain ⟨w, hafter⟩ := Option.ne_none_iff_exists'.mp hne
      rcases ht.get?_before_or_minted hid hafter with ⟨before, hbefore⟩ | hagain
      · rw [hgone] at hbefore
        cases hbefore
      · exact not_minted hnodup hagain hminted
    · rw [List.concat_eq_append, sentOf_concat, List.mem_append] at he
      rcases he with hearlier | hnow
      · exact hsilent e hearlier
      · obtain ⟨-, w, hget⟩ := ht.get?_of_mem_ownEvents hnow
        rw [hgone] at hget
        cases hget

/-- One more action leaves the events a mirror. -/
theorem step (hlives : Recounts past t.before) : Mirrors (past ++ [t]) t.after where
  focusIsThere := ht.focusIsThere_after
  get?_minted id w hid hget := by
    rw [minted_concat, List.mem_append]
    rcases ht.get?_before_or_minted hid hget with ⟨before, hbefore⟩ | hminted
    · exact Or.inl (h.get?_minted id before hid hbefore)
    · exact Or.inr (Option.mem_toList.mpr hminted)
  sent_minted id e he := by
    rw [sentOf_concat, List.mem_append] at he
    rw [minted_concat]
    exact List.mem_append_left _
      (he.elim (h.sent_minted id e) fun hnow => h.minted_of_mem_ownEvents ht hnow)
  alternates id := (h.focus_step ht hnodup id).1
  focus_told id w hid hget := (h.focus_step ht hnodup id).2 w hid hget
  recorded _ _ hid hlife := h.recorded_step ht hnodup hlives hid hlife
  silent _ _ _ _ heq hdestroy hthere := h.silent_step ht hnodup heq hdestroy hthere

end Step

/-- At the end of a run that is about identifiers that are taken for themselves, and in which none
is handed out twice, the events are a mirror. -/
theorem run (limit : Option Nat) (actions : List (ManagerAction Waiter Outside)) :
    let start : Manager := { limit := limit }
    let run := moments start actions
    let m := stateAfter start actions
    m.windows.Fits → (minted run).Nodup → (∀ id ∈ targets run, SlotTable.meant id = id) →
      Mirrors run m := by
  intro start run m
  have hend : Recounts run m ∧ (m.windows.Fits → (minted run).Nodup →
      (∀ id ∈ targets run, SlotTable.meant id = id) → Mirrors run m) :=
    moments_induction (P := fun past n => Recounts past n ∧ (n.windows.Fits →
        (minted past).Nodup → (∀ id ∈ targets past, SlotTable.meant id = id) → Mirrors past n))
      (fun past n a hpast => ⟨hpast.1.step a, fun hfits hnodup hmeant => ?_⟩)
      ⟨recounts_start limit, fun _ _ _ => mirrors_start limit⟩ actions
  · exact hend.2
  · obtain ⟨hlives, hmirrors⟩ := hpast
    let t : Moment Manager Waiter Outside := ⟨n, a⟩
    have hbefore : Mirrors past n := by
      refine hmirrors (fits_course t.course hfits) ?_ fun id hid => hmeant id ?_
      · rw [minted_concat] at hnodup
        exact hnodup.of_append_left
      · rw [targets, List.filterMap_append]
        exact List.mem_append_left _ hid
    have horderly : Orderly t := by
      refine ⟨hlives.sound, hfits, hbefore.focusIsThere, fun target htarget => hmeant target ?_⟩
      exact List.mem_filterMap.mpr ⟨t, List.mem_append_right _ List.mem_cons_self, htarget⟩
    exact hbefore.step horderly hnodup hlives

end Mirrors

/-- The events that the manager itself sends mirror focus, position and scale factor. In a run about
identifiers that were handed out in it, in which fewer windows are created than a slot has odd
versions, the focus is on a window that is there, and it is on a window exactly if that is what the
window was told last; so it is on one at most. What a window is told of the focus alternates,
beginning with true; a window that has it is not told again when it is given it, and nothing is told
of a window once it is destroyed. The position and the scale factor of a window are those told last,
or those that it was created with. -/
theorem focus_position_scale_mirrored (limit : Option Nat)
    (actions : List (ManagerAction Waiter Outside)) :
    let start : Manager := { limit := limit }
    let run := moments start actions
    let m := stateAfter start actions
    let sent := sentOf run
    (minted run).length < 2147483648 → targets run ⊆ minted run →
      (∀ id, m.focused = some id → id ∈ m.windows.ids) ∧
      (∀ id ∈ m.windows.ids,
        m.focused = some id ↔ (told tellsFocus id sent).getLast? = some true) ∧
      (∀ id ∈ m.windows.ids, ∀ other ∈ m.windows.ids,
        (told tellsFocus id sent).getLast? = some true →
        (told tellsFocus other sent).getLast? = some true → id = other) ∧
      (∀ id, Alternates (told tellsFocus id sent)) ∧
      (∀ id, m.focused = some id →
        ownEvents (⟨m, .update id .focus⟩ : Moment Manager Waiter Outside) = []) ∧
      (∀ earlier t later id, run = earlier ++ t :: later → t.action = .destroy id →
        t.before.windows.contains id = true → ∀ event ∈ sentOf later, event.window? ≠ some id) ∧
      ∀ id ∈ m.windows.ids, ∃ attributes : WindowAttributes,
        (∀ other, .create other (.ok id) ∈ callsOf run ↔ other = attributes) ∧
        ((Manager.query .outerPosition id).run m).answer =
          .ok (some ((told tellsPosition id sent).getLast?.getD
            (attributes.position.getD Position.origin))) ∧
        ((Manager.query .scaleFactor id).run m).answer =
          .ok ((told tellsScale id sent).getLast?.getD Double.one) := by
  intro start run m sent hfew htargets
  have hcourse := course_moments start actions
  have hids : mintedIds (callsOf run) = minted run := mintedIds_callsOf run
  have hdistinct : Distinct (callsOf run) m :=
    Distinct.course hcourse (distinct_start limit) (by rwa [hids])
  have hnodup : (minted run).Nodup := by
    rw [← hids]
    exact hdistinct.nodup
  have hfits : m.windows.Fits := hdistinct.within.fits (by rw [hids, UInt32.size]; omega)
  have hlists : Lists (callsOf run) m := Lists.course hcourse (lists_start limit) hfits
  have hmirrors : Mirrors run m := by
    refine Mirrors.run limit actions hfits hnodup fun id hid => hlists.meant id ?_
    rw [hids]
    exact htargets hid
  have hlive : ∀ id ∈ m.windows.ids, SlotTable.meant id = id ∧ ∃ w, m.windows.get? id = some w := by
    intro id hid
    obtain ⟨w, hw⟩ := SlotTable.mem_ids.mp hid
    exact ⟨hlists.sound.meant_of_mem hfits hid, w, hlists.sound.get?_of_mem hfits hw⟩
  have hfocus : ∀ id ∈ m.windows.ids,
      m.focused = some id ↔ (told tellsFocus id sent).getLast? = some true := by
    intro id hid
    obtain ⟨hmeant, w, hget⟩ := hlive id hid
    rw [← m.hasFocus_iff, ← hmirrors.focus_told id w hmeant hget]
    cases (told tellsFocus id sent).getLast? <;> simp
  refine ⟨fun id hid => ?_, hfocus, fun id hid other hother hlast hlast' => ?_,
    hmirrors.alternates, fun id hid => ?_, ?_, fun id hid => ?_⟩
  · obtain ⟨hmeant, w, hget⟩ := hmirrors.focusIsThere id hid
    rw [← hmeant]
    exact (hlists.sound.contains_iff hfits).mp (SlotTable.contains_of_get? hget)
  · exact Option.some.inj (((hfocus id hid).mpr hlast).symm.trans ((hfocus other hother).mpr hlast'))
  · rw [ownEvents_eq]
    simp only [Manager.echoes]
    cases m.windows.get? id with
    | none => rfl
    | some w => exact if_pos hid
  · intro earlier t later id heq hdestroy hcontains event hevent hwindow
    obtain ⟨-, -, -, hsilent⟩ := hmirrors.silent earlier t later id heq hdestroy
      (Option.isSome_iff_exists.mp hcontains)
    cases event with
    | window target e =>
      obtain rfl : target = id := Option.some.inj hwindow
      exact hsilent e hevent
    | _ => cases hwindow
  · obtain ⟨hmeant, w, hget⟩ := hlive id hid
    have hlife := get?_eq_life limit actions hfits id
    rw [show (stateAfter start actions).windows.get? id = some w from hget, eq_comm,
      Option.map_eq_some_iff] at hlife
    obtain ⟨life, hlife, rfl⟩ := hlife
    have hrecorded := hmirrors.recorded id life hmeant hlife
    refine ⟨life.attributes, hrecorded.created, ?_, ?_⟩
    · have hread := life.read_window .outerPosition
      rw [← hrecorded.told_eq .outerPosition] at hread
      rw [m.run_query_of_get? hget]
      exact congrArg (fun position => Except.ok (some position)) hread
    · have hread := life.read_window .scaleFactor
      rw [← hrecorded.told_eq .scaleFactor] at hread
      rw [m.run_query_of_get? hget]
      exact congrArg Except.ok hread

/-- Of two windows the first has the focus again after the second was destroyed with it, and is
where it was moved to, in the scale that it was created with. -/
theorem focus_returns_after_destruction :
    let actions : List (ManagerAction Waiter Outside) :=
      [.create {}, .create {}, .update ⟨4294967297⟩ .focus, .update ⟨4294967298⟩ .focus,
       .update ⟨4294967297⟩ (.outerPosition ⟨7, 8⟩), .destroy ⟨4294967298⟩,
       .update ⟨4294967297⟩ .focus]
    let run := moments ({} : Manager) actions
    let m := stateAfter ({} : Manager) actions
    (minted run).length < 2147483648 ∧ targets run ⊆ minted run ∧
      told tellsFocus ⟨4294967297⟩ (sentOf run) = [true, false, true] ∧
      told tellsFocus ⟨4294967298⟩ (sentOf run) = [true] ∧
      m.focused = some ⟨4294967297⟩ ∧ Alternates [true, false, true] ∧
      ((Manager.query .outerPosition ⟨4294967297⟩).run m).answer = .ok (some ⟨7, 8⟩) ∧
      ((Manager.query .scaleFactor ⟨4294967297⟩).run m).answer = .ok Double.one := by
  intro actions run m
  have hminted : minted run = [⟨4294967297⟩, ⟨4294967298⟩] := by decide +kernel
  have hfew : (minted run).length < 2147483648 := by
    rw [hminted]
    decide
  have htargets : targets run ⊆ minted run := by decide +kernel
  have hfirst : told tellsFocus ⟨4294967297⟩ (sentOf run) = [true, false, true] := by
    decide +kernel
  have hlisted : (⟨4294967297⟩ : WindowId) ∈ m.windows.ids := by decide +kernel
  obtain ⟨-, hfocus, -, halternates, -, -, hmirrored⟩ :=
    focus_position_scale_mirrored none actions hfew htargets
  obtain ⟨attributes, -, hposition, hscale⟩ := hmirrored ⟨4294967297⟩ hlisted
  have hplace : told tellsPosition ⟨4294967297⟩ (sentOf run) = [⟨7, 8⟩] := by decide +kernel
  have hnone : told tellsScale ⟨4294967297⟩ (sentOf run) = [] := by decide +kernel
  rw [show sentOf (moments { limit := none } actions) = sentOf run from rfl, hplace] at hposition
  rw [show sentOf (moments { limit := none } actions) = sentOf run from rfl, hnone] at hscale
  refine ⟨hfew, htargets, hfirst, by decide +kernel, ?_, ?_, hposition, hscale⟩
  · refine (hfocus ⟨4294967297⟩ hlisted).mpr ?_
    rw [show told tellsFocus _ _ = [true, false, true] from hfirst]
    rfl
  · rw [← hfirst]
    exact halternates ⟨4294967297⟩

end WindowSystem.Offscreen
