/-
# Where a window is placed

A display places the client area of a window, and its frame begins further out. Options ask for an
outer position, and so does a script that moves a window. Moving makes up for the frame
(`Manager.stands_move`), creating does not (`Manager.stands_create`): a window that is created at a
position has its client area there, and a script is told that the window is elsewhere unless its
frame has no extents (`client_area_placed_at_creation`, `created_off_its_position`). The offscreen
manager, whose windows have no frames, puts a window in the same place either way.
-/
import WindowSystem.Proofs.Bridge.LiveHandles
import WindowSystem.Proofs.Desktop.Windows
import WindowSystem.Proofs.Offscreen.LastWrites

namespace WindowSystem.Desktop

/-! ## Client area and frame -/

namespace Frame

/-- Where the frame of a window begins whose client area begins at a position. -/
def around (f : Frame) (p : Position) : Position := ⟨p.x - f.left, p.y - f.top⟩

/-- Where the client area of a window begins whose frame begins at a position. -/
def inside (f : Frame) (p : Position) : Position := ⟨p.x + f.left, p.y + f.top⟩

@[simp]
theorem around_inside (f : Frame) (p : Position) : f.around (f.inside p) = p := by
  simp [around, inside, Int32.add_sub_cancel]

theorem around_eq_self_iff {f : Frame} {p : Position} :
    f.around p = p ↔ f.left = 0 ∧ f.top = 0 := by
  have hsub : ∀ a b : Int32, a - b = a ↔ b = 0 := by
    intro a b
    constructor
    · intro h
      have := congrArg (a - ·) h
      grind
    · rintro rfl
      exact Int32.sub_zero a
  obtain ⟨x, y⟩ := p
  rw [around, Position.mk.injEq, hsub, hsub]

theorem inside_around (f : Frame) (p : Position) : f.inside (f.around p) = p := by
  simp [around, inside, Int32.sub_add_cancel]

end Frame

/-! ## The display -/

namespace Display

/-- A window that is created is the last one. -/
theorem run_create_of_some {d : Display} {hints : CreationHints} {title : String} {n : Nat}
    (h : ((create hints title).run d).answer = some n) :
    n = d.created + 1 ∧
      ((create hints title).run d).state.windows =
        d.windows ++ [(d.created + 1, DisplayWindow.ofHints hints)] := by
  revert h
  unfold create
  simp only [Step.run_bind, Step.run_get]
  cases d.refusals with
  | succ refusals => exact nofun
  | zero => exact fun h => ⟨(Option.some.inj h).symm, rfl⟩

theorem window?_concat {d d' : Display} {n : Nat} {w : DisplayWindow}
    (h : d'.windows = d.windows ++ [(n, w)]) (hn : n ∉ d.numbers) : d'.window? n = some w := by
  have hnone : d.windows.find? (fun entry => entry.1 = n) = none := by
    rw [← isSome_window?, Option.not_isSome_iff_eq_none, window?, Option.map_eq_none_iff] at hn
    exact hn
  rw [window?, h, List.find?_append, hnone]
  simp

end Display

namespace Manager

theorem state_sendLimits (r : Record) (m : Manager) : ((sendLimits r).run m).state = m := by
  show ({ m with display := ((Display.setLimits _ _ _).run m.display).state } : Manager) = m
  rw [Display.state_setLimits]

/-- What the manager keeps of a window that it creates. -/
def recordOf (a : WindowAttributes) (number : Nat) : Record :=
  { number, title := a.title.getD "Window", minInnerSize := a.minInnerSize,
    maxInnerSize := a.maxInnerSize }

/-- What remains to be done for a window once it is on the display and placed there. -/
def settle (a : WindowAttributes) (r : Record) :
    Step Note Manager (Except BackendError WindowId) := do
  if r.minInnerSize.isSome || r.maxInnerSize.isSome then sendLimits r
  warnUnsupported (a.fullscreen = some true) a.level
  let (id, windows) := (← Step.get).windows.insert r
  Step.modify fun m => { m with windows := windows }
  Note.say .debug ("GLFW window " ++ id.text ++ " created")
  pure (.ok id)

theorem run_settle (a : WindowAttributes) (r : Record) (m : Manager) :
    ((settle a r).run m).answer = .ok (m.windows.insert r).1 ∧
      ((settle a r).run m).state = { m with windows := (m.windows.insert r).2 } := by
  unfold settle
  cases hlimits : r.minInnerSize.isSome || r.maxInnerSize.isSome with
  | true =>
    simp only [if_true, Step.run_bind, state_sendLimits, state_warnUnsupported]
    exact ⟨rfl, rfl⟩
  | false =>
    simp only [Bool.false_eq_true, if_false, Step.run_bind, state_warnUnsupported]
    exact ⟨rfl, rfl⟩

/-- A window that is created at a position is created, placed there and settled. -/
theorem create_at {a : WindowAttributes} {p : Position} (hp : a.position = some p) :
    create a = (do
      match ← onDisplay (Display.create (hints a) (a.title.getD "Window")) with
      | none =>
        pure (.error (.windowCreation
          ("GLFW refused window '" ++ a.title.getD "Window" ++ "'")))
      | some number =>
        onDisplay (Display.setPosition number p.x p.y)
        settle a (recordOf a number)) := by
  unfold create
  rw [hp]
  rfl

/-- What comes of creating a window at a position: it has the next number, and its client area is
placed there. -/
theorem run_create_at {m : Manager} {a : WindowAttributes} {p : Position} {id : WindowId}
    (hp : a.position = some p) (hid : ((create a).run m).answer = .ok id) :
    ∃ d : Display, d.windows = m.display.windows ++
        [(m.display.created + 1, DisplayWindow.ofHints (hints a))] ∧
      id = (m.windows.insert (recordOf a (m.display.created + 1))).1 ∧
      ((create a).run m).state.windows =
        (m.windows.insert (recordOf a (m.display.created + 1))).2 ∧
      ((create a).run m).state.display =
        d.updateWindow (m.display.created + 1) fun w => { w with position := p } := by
  have hrun : (onDisplay (Display.create (hints a) (a.title.getD "Window"))).run m =
      ⟨((Display.create (hints a) (a.title.getD "Window")).run m.display).answer,
       { m with
         display := ((Display.create (hints a) (a.title.getD "Window")).run m.display).state },
       ((Display.create (hints a) (a.title.getD "Window")).run m.display).journal⟩ := rfl
  rw [create_at hp, Step.run_bind, hrun] at hid ⊢
  cases hn : ((Display.create (hints a) (a.title.getD "Window")).run m.display).answer with
  | none =>
    rw [hn] at hid
    cases (show Except.error _ = Except.ok id from hid)
  | some n =>
    obtain ⟨rfl, hwindows⟩ := Display.run_create_of_some hn
    rw [hn] at hid
    let d := ((Display.create (hints a) (a.title.getD "Window")).run m.display).state
    let placed := d.updateWindow (m.display.created + 1) fun w => { w with position := p }
    obtain ⟨hanswer, hstate⟩ := run_settle a (recordOf a (m.display.created + 1))
      { m with display := placed }
    refine ⟨d, hwindows, ?_, congrArg Manager.windows hstate, congrArg Manager.display hstate⟩
    exact Except.ok.inj (hid.symm.trans hanswer)

/-- The extents that the display reports for a window. -/
def extents? (m : Manager) (id : WindowId) : Option Frame :=
  (m.record? id).bind fun r => (m.display.window? r.number).map m.display.frameOf

/-- A window of the manager, which has its client area at a position on the display, within a frame
of some extents. -/
structure Stands (m : Manager) (id : WindowId) (frame : Frame) (p : Position) : Prop where
  found : ∃ r w, m.windows.get? id = some r ∧ m.display.window? r.number = some w ∧
    m.display.frameOf w = frame ∧ w.position = p

namespace Stands

variable {m : Manager} {id : WindowId} {frame : Frame} {p : Position}

theorem extents?_eq (h : m.Stands id frame p) : m.extents? id = some frame := by
  obtain ⟨r, w, hr, hw, hframe, -⟩ := h.found
  rw [extents?, record?, hr, Option.bind_some, hw, Option.map_some, hframe]

/-- The client area is told as it is, and the frame begins around it. -/
theorem query_eq (h : m.Stands id frame p) :
    ((query .innerPosition id).run m).answer = .ok (some p) ∧
      ((query .outerPosition id).run m).answer = .ok (some (frame.around p)) := by
  obtain ⟨r, w, hr, hw, rfl, rfl⟩ := h.found
  rw [run_query_of_get? hr hw, run_query_of_get? hr hw]
  exact ⟨rfl, rfl⟩

end Stands

/-- A window that is created at a position stands there with its client area. -/
theorem stands_create {m : Manager} (hm : m.windows.Sound) (hnumbered : m.display.IsNumbered)
    {a : WindowAttributes} {p : Position} {id : WindowId} (hp : a.position = some p)
    (hid : ((create a).run m).answer = .ok id)
    (hfits : ((create a).run m).state.windows.Fits) :
    ∃ frame, ((create a).run m).state.Stands id frame p := by
  obtain ⟨d, hwindows, rfl, htable, hdisplay⟩ := run_create_at hp hid
  let r := recordOf a (m.display.created + 1)
  have hnew : m.display.created + 1 ∉ m.display.numbers := fun hmem => by
    have hle := hnumbered _ hmem
    omega
  have hshown := d.window?_updateWindow (m.display.created + 1) (m.display.created + 1)
    fun w => { w with position := p }
  rw [Display.window?_concat hwindows hnew, Option.map_some, if_pos rfl, ← hdisplay] at hshown
  rw [htable] at hfits
  refine ⟨_, ⟨r, _, ?_, hshown, rfl, rfl⟩⟩
  rw [htable]
  exact (hm.insert r).get?_of_mem hfits (hm.mem_insert.mpr (Or.inl ⟨rfl, rfl⟩))

theorem state_moveOuter (m : Manager) (r : Record) (p : Position) :
    ((moveOuter r p).run m).state =
      { m with
        display := m.display.updateWindow r.number fun w =>
          { w with
            position := (((m.display.window? r.number).map m.display.frameOf).getD
              ⟨0, 0, 0, 0⟩).inside p } } := rfl

/-- A window that is moved to a position has its frame begin there. -/
theorem stands_move {m : Manager} {id : WindowId} {r : Record} {w : DisplayWindow}
    (hr : m.windows.get? id = some r) (hw : m.display.window? r.number = some w) (p : Position) :
    let o := (update id (.outerPosition p)).run m
    o.answer = .ok () ∧
      o.state.Stands id (m.display.frameOf w) ((m.display.frameOf w).inside p) := by
  intro o
  rcases run_update_of_get? hr (.outerPosition p) with ⟨e, hrefusal, -⟩ | ⟨-, hanswer, hstate⟩
  · cases hrefusal
  · have hmoved : o.state = { m with display := m.display.updateWindow r.number fun w' =>
        { w' with position := (m.display.frameOf w).inside p } } := by
      rw [show o.state = _ from hstate, if_neg (by simp)]
      show ((moveOuter r p).run m).state = _
      rw [state_moveOuter, hw]
      rfl
    have hshown := m.display.window?_updateWindow r.number r.number fun w' =>
      { w' with position := (m.display.frameOf w).inside p }
    rw [hw, Option.map_some, if_pos rfl] at hshown
    rw [hmoved]
    exact ⟨hanswer, r, _, hr, hshown, rfl, rfl⟩

end Manager

/-! ## The offscreen manager -/

section Offscreen

open Offscreen (Waiter Holds holds_history get?_of_minted)

variable {G S : Type} [GraphicsBackend G S] {session : Session Offscreen.Manager G S Waiter}
  {h : HandleRef} {p : Position}

/-- A window that a script creates offscreen at a position is there. -/
theorem outer_of_created_offscreen (hs : Holds session) {options : WindowOptions}
    {attributes : WindowAttributes}
    (hattributes : (options.orElse session.1.defaultWindow).attributes? = .ok attributes)
    (hp : attributes.position = some p) :
    let o := (Session.perform (.create options : WindowSystem.Action Offscreen.Outside)).run session
    o.answer = .created (.ok h) → o.state.1.events.manager.windows.Fits →
      o.state.Answers h .outerPosition (some p) := by
  intro o hanswer hfits
  have hmade : ((Bridge.createWindow options).run session.1).answer = .ok h :=
    Answer.created.inj hanswer
  obtain ⟨described, id, hdescribed, hid, hmanager, hfresh⟩ :=
    Bridge.createWindow_made hs.handles hmade
  rw [hattributes] at hdescribed
  rw [← Except.ok.inj hdescribed] at hid hmanager
  have hmanager' : o.state.1.events.manager = _ := hmanager
  rw [hmanager'] at hfits
  have hget := get?_of_minted hs.windows hfits hid
  refine Session.answers_of_id? (congrArg Handle.id? hfresh) ?_
  rw [hmanager']
  refine (congrArg Outcome.answer (Offscreen.Manager.run_query_of_get? _ hget _)).trans ?_
  rw [Offscreen.Window.answer, Offscreen.Window.ofAttributes, hp]
  rfl

/-- So is a live window that a script moves there. -/
theorem outer_of_moved_offscreen (hs : Holds session)
    (hfits : session.1.events.manager.windows.Fits) {id : WindowId}
    (hid : (session.1.registry.handle h).id? = some id) :
    let o := (Session.perform
      (.change h (.outerPosition p) : WindowSystem.Action Offscreen.Outside)).run session
    o.answer = .done (.ok ()) ∧ o.state.Answers h .outerPosition (some p) := by
  intro o
  obtain ⟨w, hw⟩ := hs.get?_of_id? hid
  obtain ⟨hanswer, -, hlive⟩ :=
    Session.perform_change_of_id? (X := Offscreen.Outside) hid (.outerPosition p)
  obtain ⟨-, hwindows⟩ :=
    hs.perform_setter hfits hid (a := .change h (.outerPosition p)) (if_pos rfl)
  have hget := hwindows id
  rw [Offscreen.Fate.on_self, hw] at hget
  refine ⟨?_, Session.answers_of_id? hlive ?_⟩
  · rw [show o.answer = _ from hanswer]
    exact congrArg (fun answer => Answer.done (answer.mapError BridgeError.backend))
      (session.1.events.manager.run_update_of_get? hw (.outerPosition p)).1
  · exact congrArg Outcome.answer (Offscreen.Manager.run_query_of_get? _ hget .outerPosition)

end Offscreen

/-! ## Histories -/

section Histories

variable {G S : Type} [GraphicsBackend G S]

/-- Where a script is told that a window is, while the display reports the extents of its frame. -/
structure IsAt (session : Session Manager G S Nat) (h : HandleRef) (frame : Frame)
    (outer inner : Position) : Prop where
  extents : ∃ id, (session.1.registry.handle h).id? = some id ∧
    session.1.events.manager.extents? id = some frame
  outer_eq : session.Answers h .outerPosition (some outer)
  inner_eq : session.Answers h .innerPosition (some inner)

theorem isAt_of_stands {session : Session Manager G S Nat} {h : HandleRef} {id : WindowId}
    {frame : Frame} {p : Position} (hid : (session.1.registry.handle h).id? = some id)
    (hp : session.1.events.manager.Stands id frame p) :
    IsAt session h frame (frame.around p) p where
  extents := ⟨id, hid, hp.extents?_eq⟩
  outer_eq := Session.answers_of_id? hid hp.query_eq.2
  inner_eq := Session.answers_of_id? hid hp.query_eq.1

/-- A script is told that a window is in one place. -/
theorem IsAt.eq_of_isAt {session : Session Manager G S Nat} {h : HandleRef} {frame : Frame}
    {outer outer' inner inner' : Position} (hp : IsAt session h frame outer inner)
    (hp' : IsAt session h frame outer' inner') : outer = outer' ∧ inner = inner' :=
  ⟨Option.some.inj (Session.eq_of_answers hp.outer_eq hp'.outer_eq),
    Option.some.inj (Session.eq_of_answers hp.inner_eq hp'.inner_eq)⟩

variable (display : Display) (pollInterval : Nat) (graphics : G) (settings : Settings)
  (actions : List (WindowSystem.Action Outside))

theorem knows_history :
    let past : Outcome Entry (Session Manager G S Nat) (List (Answer S)) :=
      Session.history ({ display, pollInterval } : Manager) graphics settings actions
    past.state.1.events.manager.windows.Fits →
      Knows (Entry.calls past.journal) past.state.1.events.manager :=
  fun hfits => ((Session.agrees_history dependable (fun _ _ hm => hm.mem_ids)
    (knows_start pollInterval) graphics settings actions).2 hfits).1

/-- A window that a script creates at a position has its client area there. -/
theorem isAt_created (hempty : display.windows = []) {options : WindowOptions}
    {attributes : WindowAttributes} {p : Position} {h : HandleRef}
    (hattributes : (options.orElse settings.defaultWindow).attributes? = .ok attributes)
    (hp : attributes.position = some p) :
    let past : Outcome Entry (Session Manager G S Nat) (List (Answer S)) :=
      Session.history ({ display, pollInterval } : Manager) graphics settings actions
    let o := (Session.perform (.create options : WindowSystem.Action Outside)).run past.state
    o.answer = .created (.ok h) → o.state.1.events.manager.windows.Fits →
      ∃ frame, IsAt o.state h frame (frame.around p) p := by
  intro past o hanswer hfits
  have hbefore : past.state.1.events.manager.windows.Fits :=
    dependable.fits_of_course
      (Session.isCourse_perform (.create options : WindowSystem.Action Outside) past.state) hfits
  have hknows := knows_history display pollInterval graphics settings actions hbefore
  have hlifetimes : Lifetimes past.state.1.books (Entry.calls past.journal) :=
    Session.lifetimes_history _ graphics settings actions
  have hnumbered : past.state.1.events.manager.display.IsNumbered :=
    isNumbered_course (Session.course_history _ graphics settings actions)
      (Display.isNumbered_of_windows_eq_nil hempty)
  have hmade : ((Bridge.createWindow options).run past.state.1).answer = .ok h :=
    Answer.created.inj hanswer
  obtain ⟨described, id, hdescribed, hid, hmanager, hfresh⟩ :=
    Bridge.createWindow_made hlifetimes.sound hmade
  have hsame : described = attributes := by
    rw [show past.state.1.defaultWindow = settings.defaultWindow from
      Session.defaultWindow_history _ graphics settings actions, hattributes] at hdescribed
    exact (Except.ok.inj hdescribed).symm
  have hmanager' : o.state.1.events.manager = _ := hmanager
  rw [hsame] at hid hmanager'
  rw [hmanager'] at hfits
  obtain ⟨frame, hstands⟩ :=
    Manager.stands_create hknows.housed.sound hnumbered hp hid hfits
  refine ⟨frame, isAt_of_stands (congrArg Handle.id? hfresh) ?_⟩
  rw [hmanager']
  exact hstands

/-- A live window that a script moves to a position has its frame begin there. -/
theorem isAt_moved {h : HandleRef} {id : WindowId} (p : Position) :
    let past : Outcome Entry (Session Manager G S Nat) (List (Answer S)) :=
      Session.history ({ display, pollInterval } : Manager) graphics settings actions
    let o := (Session.perform (.change h (.outerPosition p) : WindowSystem.Action Outside)).run
      past.state
    (past.state.1.registry.handle h).id? = some id →
      past.state.1.events.manager.windows.Fits →
      o.answer = .done (.ok ()) ∧ ∃ frame, past.state.1.events.manager.extents? id = some frame ∧
        IsAt o.state h frame p (frame.inside p) := by
  intro past o hid hfits
  have hknows := knows_history display pollInterval graphics settings actions hfits
  have hlifetimes : Lifetimes past.state.1.books (Entry.calls past.journal) :=
    Session.lifetimes_history _ graphics settings actions
  obtain ⟨r, hr, -, hnumber⟩ := hknows.get?_of_isOpen hfits (hlifetimes.isOpen_of_id? hid)
  have hshown := hknows.housed.shown id r.number hnumber
  rw [← Display.isSome_window?, Option.isSome_iff_exists] at hshown
  obtain ⟨w, hw⟩ := hshown
  obtain ⟨hupdated, hstands⟩ := Manager.stands_move hr hw p
  obtain ⟨hanswer, hmanager, hlive⟩ :=
    Session.perform_change_of_id? (X := Outside) hid (.outerPosition p)
  let frame := past.state.1.events.manager.display.frameOf w
  refine ⟨?_, frame, ?_, ?_⟩
  · rw [show o.answer = _ from hanswer]
    exact congrArg (fun answer => Answer.done (answer.mapError BridgeError.backend)) hupdated
  · rw [Manager.extents?, Manager.record?, hr, Option.bind_some, hw, Option.map_some]
  · have hthere : o.state.1.events.manager.Stands id frame (frame.inside p) := by
      rw [show o.state.1.events.manager = _ from hmanager]
      exact hstands
    have hplaced := isAt_of_stands hlive hthere
    rw [Frame.around_inside] at hplaced
    exact hplaced

/-- A script that creates a window at a position is told that its client area is there, and its
frame further out; that its frame is there it is told exactly of a window without extents at the
left and at the top. Of a live window that a script moves to a position it is told that the frame
is there, and the client area within. Offscreen a window is at its position either way. -/
theorem client_area_placed_at_creation (hempty : display.windows = []) (limit : Option Nat)
    (offscreenActions : List (WindowSystem.Action Offscreen.Outside)) {options : WindowOptions}
    {attributes : WindowAttributes} {p : Position}
    (hattributes : (options.orElse settings.defaultWindow).attributes? = .ok attributes)
    (hp : attributes.position = some p) :
    let past : Outcome Entry (Session Manager G S Nat) (List (Answer S)) :=
      Session.history ({ display, pollInterval } : Manager) graphics settings actions
    let offscreen : Outcome Entry (Session Offscreen.Manager G S Offscreen.Waiter)
        (List (Answer S)) :=
      Session.history ({ limit } : Offscreen.Manager) graphics settings offscreenActions
    (∀ h,
      let o := (Session.perform (.create options : WindowSystem.Action Outside)).run past.state
      o.answer = .created (.ok h) → o.state.1.events.manager.windows.Fits →
        ∃ frame, IsAt o.state h frame (frame.around p) p ∧
          (IsAt o.state h frame p (frame.inside p) ↔ frame.left = 0 ∧ frame.top = 0)) ∧
    (∀ h id, (past.state.1.registry.handle h).id? = some id →
      past.state.1.events.manager.windows.Fits →
        let o := (Session.perform
          (.change h (.outerPosition p) : WindowSystem.Action Outside)).run past.state
        o.answer = .done (.ok ()) ∧ ∃ frame,
          past.state.1.events.manager.extents? id = some frame ∧
            IsAt o.state h frame p (frame.inside p)) ∧
    (∀ h,
      let o := (Session.perform
        (.create options : WindowSystem.Action Offscreen.Outside)).run offscreen.state
      o.answer = .created (.ok h) → o.state.1.events.manager.windows.Fits →
        o.state.Answers h .outerPosition (some p)) ∧
    (∀ h id, (offscreen.state.1.registry.handle h).id? = some id →
      offscreen.state.1.events.manager.windows.Fits →
        let o := (Session.perform
          (.change h (.outerPosition p) : WindowSystem.Action Offscreen.Outside)).run
            offscreen.state
        o.answer = .done (.ok ()) ∧ o.state.Answers h .outerPosition (some p)) := by
  intro past offscreen
  refine ⟨fun h hanswer hfits => ?_, fun h id hid hfits => ?_, fun h hanswer hfits => ?_,
    fun h id hid hfits => ?_⟩
  · obtain ⟨frame, hplaced⟩ := isAt_created display pollInterval graphics settings actions hempty
      hattributes hp hanswer hfits
    refine ⟨frame, hplaced, fun hasked => ?_, fun hnone => ?_⟩
    · exact Frame.around_eq_self_iff.mp (hplaced.eq_of_isAt hasked).1
    · have hout : frame.around p = p := Frame.around_eq_self_iff.mpr hnone
      have hin : frame.inside p = p := by
        rw [← hout, Frame.inside_around, hout]
      rw [hout] at hplaced
      rw [hin]
      exact hplaced
  · exact isAt_moved display pollInterval graphics settings actions p hid hfits
  · have hbefore : offscreen.state.1.events.manager.windows.Fits :=
      Offscreen.fits_course (Session.isCourse_perform
        (.create options : WindowSystem.Action Offscreen.Outside) offscreen.state) hfits
    have hdefaults : offscreen.state.1.defaultWindow = settings.defaultWindow :=
      Session.defaultWindow_history _ graphics settings offscreenActions
    rw [← hdefaults] at hattributes
    exact outer_of_created_offscreen
      (Offscreen.holds_history limit graphics settings offscreenActions hbefore) hattributes hp
      hanswer hfits
  · exact outer_of_moved_offscreen
      (Offscreen.holds_history limit graphics settings offscreenActions hfits) hfits hid

end Histories

/-- A script has created a window where the display wanted it. It moves that window, and it creates
another one in the same place, whose frame begins further out. -/
theorem placed_by_move_and_creation :
    let display : Display := {}
    let settings : Settings := {}
    let p : Position := ⟨100, 50⟩
    let options : WindowOptions := { position := some [Double.ofInt 100, Double.ofInt 50] }
    let actions : List (WindowSystem.Action Outside) := [.create {}]
    let past : Outcome Entry (Session Manager Offscreen.Graphics Offscreen.Surface Nat) _ :=
      Session.history ({ display, pollInterval := 4 } : Manager) {} settings actions
    let moved := (Session.perform
      (.change 0 (.outerPosition p) : WindowSystem.Action Outside)).run past.state
    let made := (Session.perform (.create options : WindowSystem.Action Outside)).run past.state
    display.windows = [] ∧
      (∃ attributes, (options.orElse settings.defaultWindow).attributes? = .ok attributes ∧
        attributes.position = some p) ∧
      past.state.1.events.manager.windows.Fits ∧ made.state.1.events.manager.windows.Fits ∧
      moved.answer = .done (.ok ()) ∧ IsAt moved.state 0 ⟨4, 24, 6, 8⟩ p ⟨104, 74⟩ ∧
      made.answer = .created (.ok 1) ∧ IsAt made.state 1 ⟨4, 24, 6, 8⟩ ⟨96, 26⟩ p := by
  intro display settings p options actions past moved made
  have hattributes : (options.orElse settings.defaultWindow).attributes? =
      .ok { position := some p } := by decide +kernel
  have hfits : past.state.1.events.manager.windows.Fits := by
    rw [SlotTable.Fits]
    decide +kernel
  have hfits' : made.state.1.events.manager.windows.Fits := by
    rw [SlotTable.Fits]
    decide +kernel
  have hmade : ((Bridge.createWindow options).run past.state.1).answer = .ok 1 := by
    decide +kernel
  have hanswer : made.answer = .created (.ok 1) :=
    (Session.answer_create options past.state).trans (congrArg Answer.created hmade)
  obtain ⟨hcreation, hmove, -⟩ := client_area_placed_at_creation display 4
    ({} : Offscreen.Graphics) settings actions rfl none [] hattributes rfl
  obtain ⟨hmoved, frame, hframe, hplaced⟩ := hmove 0 ⟨4294967297⟩ (by decide +kernel) hfits
  obtain ⟨frame', hplaced', -⟩ := hcreation 1 hanswer hfits'
  obtain ⟨id, hid, hframe'⟩ := hplaced'.extents
  obtain rfl : frame = ⟨4, 24, 6, 8⟩ := by
    refine Option.some.inj (hframe.symm.trans ?_)
    decide +kernel
  obtain rfl : id = ⟨4294967298⟩ := by
    refine Option.some.inj (hid.symm.trans ?_)
    decide +kernel
  obtain rfl : frame' = ⟨4, 24, 6, 8⟩ := by
    refine Option.some.inj (hframe'.symm.trans ?_)
    decide +kernel
  have houter : (⟨4, 24, 6, 8⟩ : Frame).around p = ⟨96, 26⟩ := by decide
  rw [houter] at hplaced'
  exact ⟨rfl, ⟨_, hattributes, rfl⟩, hfits, hfits', hmoved, hplaced, hanswer, hplaced'⟩

/-- Options may ask for an outer position, and the window is then told to be somewhere else: its
client area is at that position, where a window that is moved there has its frame. -/
theorem created_off_its_position :
    let options : WindowOptions := { position := some [Double.ofInt 100, Double.ofInt 50] }
    let past : Outcome Entry (Session Manager Offscreen.Graphics Offscreen.Surface Nat) _ :=
      Session.history ({ display := {}, pollInterval := 4 } : Manager) {} {}
        [(.create options : WindowSystem.Action Outside)]
    options.attributes? = .ok { position := some ⟨100, 50⟩ } ∧
      past.answer.map Answer.made? = [some 0] ∧
      past.state.1.events.manager.extents? ⟨4294967297⟩ = some ⟨4, 24, 6, 8⟩ ∧
      ¬ past.state.Answers 0 .outerPosition (some ⟨100, 50⟩) ∧
      ¬ past.state.Answers 0 .innerPosition (some ⟨104, 74⟩) := by
  intro options past
  have hid : (past.state.1.registry.handle 0).id? = some ⟨4294967297⟩ := by decide +kernel
  have houter : past.state.Answers 0 .outerPosition (some ⟨96, 26⟩) :=
    Session.answers_of_id? hid (by decide +kernel)
  have hinner : past.state.Answers 0 .innerPosition (some ⟨100, 50⟩) :=
    Session.answers_of_id? hid (by decide +kernel)
  refine ⟨by decide +kernel, by decide +kernel, by decide +kernel, fun h => ?_, fun h => ?_⟩
  · exact absurd (Session.eq_of_answers h houter) (by decide)
  · exact absurd (Session.eq_of_answers h hinner) (by decide)

end WindowSystem.Desktop
