/-
# The lives of offscreen windows

A window is nothing but how it was created and what was done to it since (`Life.window`). Whatever
is asked of the offscreen window manager, the table holds under an identifier the window whose life
the run tells, and nothing where the run tells of none (`get?_eq_life`): no action on another window
leaves a trace in it.
-/
import WindowSystem.Proofs.Manager.SlotLookup
import WindowSystem.Proofs.Offscreen.Identifiers

namespace WindowSystem.Offscreen

/-! ## Lives -/

/-- What can be done to a window: it is changed, its drawable is handed out, or it is moved to a
monitor with another scale factor. -/
inductive Deed where
  | change (change : WindowChange)
  | draw
  | rescale (factor : Double)
  deriving DecidableEq

/-- A window after a deed. -/
def Window.undergo (w : Window) : Deed → Window
  | .change change => w.apply change
  | .draw => { w with drawableIssued := true }
  | .rescale factor => { w with scaleFactor := factor }

/-- How a window was created, and what was done to it since. -/
structure Life where
  attributes : WindowAttributes
  deeds : List Deed
  deriving DecidableEq

namespace Life

/-- The window that comes out of a life. -/
def window (life : Life) : Window :=
  life.deeds.foldl Window.undergo (Window.ofAttributes life.attributes)

/-- A life with one more deed. -/
def add (life : Life) (deed : Deed) : Life := { life with deeds := life.deeds ++ [deed] }

theorem window_add (life : Life) (deed : Deed) :
    (life.add deed).window = life.window.undergo deed := by
  rw [window, add, List.foldl_append, List.foldl_cons, List.foldl_nil, window]

end Life

/-! ## What an action means for one window -/

/-- What an action means for the window under one identifier. -/
inductive Fate where
  | created (attributes : WindowAttributes)
  | destroyed
  | undergoes (deed : Deed)
  | untouched
  deriving DecidableEq

namespace Fate

/-- The life told under an identifier, if any, after an action. -/
def extend (life : Option Life) : Fate → Option Life
  | created attributes => some ⟨attributes, []⟩
  | destroyed => none
  | undergoes deed => life.map (·.add deed)
  | untouched => life

/-- The window found under an identifier, if any, after an action. -/
def act (found : Option Window) : Fate → Option Window
  | created attributes => some (Window.ofAttributes attributes)
  | destroyed => none
  | undergoes deed => found.map (·.undergo deed)
  | untouched => found

theorem map_extend (fate : Fate) (life : Option Life) :
    (fate.extend life).map Life.window = fate.act (life.map Life.window) := by
  cases fate with
  | created attributes => rfl
  | destroyed => rfl
  | undergoes deed =>
    rw [extend, act, Option.map_map, Option.map_map]
    exact congrArg (life.map ·) (funext fun life => life.window_add deed)
  | untouched => rfl

/-- What an action on the window under one identifier means for the window under another: an
identifier stands for the one it is taken for. -/
def on (target id : WindowId) (fate : Fate) : Fate :=
  if SlotTable.meant id = SlotTable.meant target then fate else untouched

theorem on_self (id : WindowId) (fate : Fate) : on id id fate = fate := if_pos rfl

/-- Two identifiers that are taken for themselves stand for different windows. -/
theorem on_of_ne {id target : WindowId} (hid : SlotTable.meant id = id)
    (htarget : SlotTable.meant target = target) (hne : id ≠ target) (fate : Fate) :
    on target id fate = untouched := by
  refine if_neg fun hsame => hne ?_
  rwa [hid, htarget] at hsame

end Fate

/-- What an action means for the window under an identifier. -/
def fate (id : WindowId) (t : Moment Manager Waiter Outside) : Fate :=
  match t.action with
  | .create attributes =>
    if t.mintedId? = some (SlotTable.meant id) then .created attributes else .untouched
  | .destroy target => Fate.on target id .destroyed
  | .drawable target => Fate.on target id (.undergoes .draw)
  | .update target change => Fate.on target id (.undergoes (.change change))
  | .outside (.rescale target factor) => Fate.on target id (.undergoes (.rescale factor))
  | _ => .untouched

/-- The life of the window under an identifier after a run, if there is one. -/
def lifeOf (id : WindowId) (run : List (Moment Manager Waiter Outside)) : Option Life :=
  run.foldl (fun life t => (fate id t).extend life) none

theorem lifeOf_concat (id : WindowId) (run : List (Moment Manager Waiter Outside))
    (t : Moment Manager Waiter Outside) :
    lifeOf id (run ++ [t]) = (fate id t).extend (lifeOf id run) := by
  rw [lifeOf, List.foldl_append, List.foldl_cons, List.foldl_nil, lifeOf]

/-! ## Tables along a run -/

theorem Turns.sound {t t' : SlotTable Window} {c : Call} (h : Turns t c t') (ht : t.Sound) :
    t'.Sound := by
  cases h with
  | created attributes w => exact ht.insert w
  | destroyed id => exact ht.remove id
  | replaced _ _ h => exact h.sound ht

variable {m m' : Manager} {calls : List Call}

theorem sound_course (h : Course Outside m calls m') (hm : m.windows.Sound) : m'.windows.Sound :=
  h.keeps (P := fun _ n => n.windows.Sound)
    (fun _ _ _ _ hn hc => (Manager.turns_of_responds hc).sound hn)
    (fun _ _ _ hn _ => hn)
    (fun _ n x hn => (n.replaces_happen x).sound hn) [] hm

/-- Slots that can be numbered after a course could be numbered before. -/
theorem fits_course (h : Course Outside m calls m') (hfits : m'.windows.Fits) : m.windows.Fits := by
  have hlength : m.windows.slots.length ≤ m'.windows.slots.length :=
    h.keeps (P := fun _ n => m.windows.slots.length ≤ n.windows.slots.length)
      (fun _ _ _ _ hn hc => Nat.le_trans hn (length_slots_le hc))
      (fun _ _ _ hn _ => hn)
      (fun _ n x hn => by rwa [length_slots_happen]) [] (Nat.le_refl _)
  exact Nat.lt_of_le_of_lt hlength hfits

/-! ## Windows are what their lives made of them -/

/-- A table of windows before and after a deed to the one under an identifier, which is in vain if
there is none. -/
inductive Undergone (target : WindowId) (deed : Deed) (t : SlotTable Window) :
    SlotTable Window → Prop where
  | inVain (hget : t.get? target = none) : Undergone target deed t t
  | done {w : Window} (hget : t.get? target = some w) :
    Undergone target deed t (t.set target (w.undergo deed))

/-- The window under one identifier changes, and only that. -/
theorem Undergone.get?_eq {target : WindowId} {deed : Deed} {t t' : SlotTable Window}
    (h : Undergone target deed t t') (ht : t.Sound) (hfits : t.Fits) (id : WindowId) :
    t'.get? id = (Fate.on target id (.undergoes deed)).act (t.get? id) := by
  have hfound : SlotTable.meant id = SlotTable.meant target → t.get? id = t.get? target := by
    intro hsame
    rw [← SlotTable.get?_meant, hsame, SlotTable.get?_meant]
  cases h with
  | inVain hget =>
    rw [Fate.on]
    split
    case isTrue hsame =>
      rw [hfound hsame, hget]
      rfl
    case isFalse => rfl
  | done hget =>
    rw [ht.get?_set hfits hget, Fate.on]
    split
    case isTrue hsame =>
      rw [hfound hsame, hget]
      rfl
    case isFalse => rfl

namespace Manager

variable (m : Manager)

/-- Handing a drawable out, also a second time in vain, is a deed. -/
theorem undergone_drawable (id : WindowId) :
    Undergone id .draw m.windows ((drawable id).run m).state.windows := by
  cases hget : m.windows.get? id with
  | none =>
    have hwindows : ((drawable id).run m).state.windows = m.windows := by
      unfold drawable
      rw [Step.run_bind, Step.run_get]
      simp only [hget]
      rfl
    rw [hwindows]
    exact .inVain hget
  | some w =>
    have hwindows : ((drawable id).run m).state.windows = m.windows.set id (w.undergo .draw) := by
      cases hissued : w.drawableIssued with
      | true =>
        have hsame : w.undergo .draw = w := by
          rw [Window.undergo, ← hissued]
        rw [hsame, SlotTable.set_get? hget]
        unfold drawable
        rw [Step.run_bind, Step.run_get]
        simp only [hget, hissued, if_true]
        rfl
      | false => rw [m.run_drawable_of_get? hget hissued, Window.undergo]
    rw [hwindows]
    exact .done hget

theorem undergone_update (id : WindowId) (change : WindowChange) :
    Undergone id (.change change) m.windows ((update id change).run m).state.windows := by
  cases hget : m.windows.get? id with
  | none =>
    rw [m.run_update_of_get?_eq_none hget]
    exact .inVain hget
  | some w =>
    rw [(m.run_update_of_get? hget change).2.1]
    exact .done hget

theorem undergone_setScaleFactor (id : WindowId) (factor : Double) :
    Undergone id (.rescale factor) m.windows ((setScaleFactor id factor).run m).state.windows := by
  unfold setScaleFactor
  rw [Step.run_bind, Step.run_get]
  cases hget : m.windows.get? id with
  | none => exact .inVain hget
  | some w => exact .done hget

end Manager

/-- A window is created under the identifier handed out for it. -/
theorem get?_create (m : Manager) (attributes : WindowAttributes) (hm : m.windows.Sound)
    (hfits : ((Manager.create attributes).run m).state.windows.Fits) (id : WindowId) :
    ((Manager.create attributes).run m).state.windows.get? id =
      (fate id ⟨m, .create attributes⟩).act (m.windows.get? id) := by
  have hfate : fate id ⟨m, .create attributes⟩ =
      if ((Manager.create attributes).run m).answer.toOption = some (SlotTable.meant id) then
        .created attributes
      else .untouched := by
    show (if Call.mintedId? (.create attributes ((Manager.create attributes).run m).answer) =
      some (SlotTable.meant id) then _ else _) = _
    cases ((Manager.create attributes).run m).answer <;> rfl
  rw [hfate]
  rcases m.run_create_cases attributes with ⟨text, hanswer, hstate⟩ | ⟨hanswer, hstate, -⟩
  · rw [hanswer, hstate]
    rfl
  · rw [hstate] at hfits
    rw [hanswer, hstate, hm.get?_insert hfits]
    simp only [Except.toOption, Option.some.injEq, eq_comm (a := SlotTable.meant id)]
    split <;> rfl

/-- The window found under an identifier after an action. -/
theorem get?_after (t : Moment Manager Waiter Outside) (ht : t.before.windows.Sound)
    (hfits : t.after.windows.Fits) (id : WindowId) :
    t.after.windows.get? id = (fate id t).act (t.before.windows.get? id) := by
  have hbefore : t.before.windows.Fits := fits_course t.course hfits
  obtain ⟨m, action⟩ := t
  cases action with
  | create attributes => exact get?_create m attributes ht hfits id
  | destroy target =>
    show ((Manager.destroy target).run m).state.windows.get? id =
      (Fate.on target id .destroyed).act (m.windows.get? id)
    rw [m.windows_destroy, ht.get?_remove hbefore, Fate.on]
    split <;> rfl
  | drawable target => exact (m.undergone_drawable target).get?_eq ht hbefore id
  | update target change => exact (m.undergone_update target change).get?_eq ht hbefore id
  | query target q => rfl
  | setDeviceFilter filter => rfl
  | poll token =>
    exact congrArg (SlotTable.get? · id) (m.sameWindows_poll token).windows
  | leave token => cases token <;> rfl
  | outside x =>
    cases x with
    | send event => rfl
    | rescale target factor =>
      exact (m.undergone_setScaleFactor target factor).get?_eq ht hbefore id

/-- A manager that a run led to holds the windows whose lives the run tells. -/
structure Recounts (past : List (Moment Manager Waiter Outside)) (m : Manager) : Prop where
  sound : m.windows.Sound
  get?_eq : m.windows.Fits → ∀ id, m.windows.get? id = (lifeOf id past).map Life.window

theorem recounts_start (limit : Option Nat) : Recounts [] { limit := limit } where
  sound := SlotTable.sound_empty
  get?_eq _ id := SlotTable.get?_empty id

theorem Recounts.step {past : List (Moment Manager Waiter Outside)} {m : Manager}
    (h : Recounts past m) (a : ManagerAction Waiter Outside) :
    Recounts (past ++ [⟨m, a⟩]) (Moment.after ⟨m, a⟩) where
  sound := sound_course (Moment.course ⟨m, a⟩) h.sound
  get?_eq hfits id := by
    rw [get?_after ⟨m, a⟩ h.sound hfits, lifeOf_concat, Fate.map_extend,
      h.get?_eq (fits_course (Moment.course ⟨m, a⟩) hfits)]

/-- After every run the table holds under an identifier the window whose life the run tells. -/
theorem get?_eq_life (limit : Option Nat) (actions : List (ManagerAction Waiter Outside)) :
    let start : Manager := { limit := limit }
    let m := stateAfter start actions
    m.windows.Fits → ∀ id,
      m.windows.get? id = (lifeOf id (moments start actions)).map Life.window := by
  intro start m
  have hend : Recounts (moments start actions) m :=
    moments_induction (fun _ _ a h => h.step a) (recounts_start limit) actions
  exact hend.get?_eq

end WindowSystem.Offscreen
