/-
# A window manager chosen at run time

One of the window managers, where which one is known only when the program runs.
-/
import WindowSystem.Desktop.Manager
import WindowSystem.Offscreen.Manager
import WindowSystem.Scripted.Manager

namespace WindowSystem

/-- One of the window managers. -/
inductive ManagerChoice where
  | offscreen (m : Offscreen.Manager)
  | desktop (m : Desktop.Manager)
  | scripted (m : Scripted.Manager)

namespace ManagerChoice

/-- How someone waits for an event of one of the window managers. -/
inductive Waiter where
  | offscreen (token : Offscreen.Waiter)
  | desktop (deadline : Nat)
  | scripted

/-- Does the same to whichever manager was chosen. -/
def each {α : Type} (offscreen : Step Note Offscreen.Manager α)
    (desktop : Step Note Desktop.Manager α) (scripted : Step Note Scripted.Manager α) :
    Step Note ManagerChoice α
  | .offscreen m => let o := offscreen.run m; ⟨o.answer, .offscreen o.state, o.journal⟩
  | .desktop m => let o := desktop.run m; ⟨o.answer, .desktop o.state, o.journal⟩
  | .scripted m => let o := scripted.run m; ⟨o.answer, .scripted o.state, o.journal⟩

/-- A result whose token is mapped. -/
def mapToken {V W α : Type} (f : V → W) : Poll V α → Poll W α
  | .pending token => .pending (f token)
  | .ready a => .ready a

end ManagerChoice

open ManagerChoice in
instance : WindowManager ManagerChoice Waiter where
  create a := each (WindowManager.create a) (WindowManager.create a) (WindowManager.create a)
  destroy id :=
    each (WindowManager.destroy id) (WindowManager.destroy id) (WindowManager.destroy id)
  drawable id :=
    each (WindowManager.drawable id) (WindowManager.drawable id) (WindowManager.drawable id)
  update id change :=
    each (WindowManager.update id change) (WindowManager.update id change)
      (WindowManager.update id change)
  setDeviceFilter filter :=
    each (WindowManager.setDeviceFilter filter) (WindowManager.setDeviceFilter filter)
      (WindowManager.setDeviceFilter filter)
  query q id :=
    each (WindowManager.query q id) (WindowManager.query q id) (WindowManager.query q id)
  poll token :=
    each
      (mapToken .offscreen <$> WindowManager.poll
        (token.bind fun | .offscreen t => some t | _ => none))
      (mapToken .desktop <$> WindowManager.poll
        (token.bind fun | .desktop t => some t | _ => none))
      (mapToken (fun _ => .scripted) <$> WindowManager.poll
        (token.bind fun | .scripted => some () | _ => none))
  leave token :=
    match token with
    | .offscreen t => each (WindowManager.leave t) (pure ()) (pure ())
    | .desktop t => each (pure ()) (WindowManager.leave t) (pure ())
    | .scripted => each (pure ()) (pure ()) (WindowManager.leave ())
  close := each WindowManager.close WindowManager.close WindowManager.close

end WindowSystem
