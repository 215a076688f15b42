/-
# The lifetimes of Vulkan objects

Sessions whose surfaces are made on Vulkan, while the loader fails to make surfaces as often as it
likes (`performAllUnder`). To the end of the session every surface that was made is destroyed once,
on its instance, while that exists, and before the window it belongs to; and the instance goes after
all of them if it belongs to the backend, and is left alone otherwise
(`surfaces_destroyed_before_instance`).
-/
import WindowSystem.Proofs.Bridge.SurfaceAccount
import WindowSystem.Proofs.Vulkan.Account
import WindowSystem.Scripted.Manager

namespace WindowSystem.Vulkan

variable {N W X : Type} {g : Graphics} {session after : Session N Graphics Surface W}
  {journal more : List Entry}

/-! ## Where a backend has its instance from -/

/-- Where a Vulkan backend has its instance from: it makes one of its own for an application that
presents on a window system, or is lent one. -/
inductive Origin where
  | own (name : String) (platform : Platform)
  | lent (onInstance : Nat)

namespace Origin

/-- The beginning of a backend on a loader. -/
def begin (loader : Loader) : Origin → Outcome Note Loader (Except BackendError Graphics)
  | .own name platform => (Graphics.create name platform).run loader
  | .lent onInstance => ⟨.ok (.borrow onInstance loader), loader, []⟩

/-- All calls to the loader are those for surfaces, after the creation of the instance and before
its destruction if it belongs to the backend. -/
def Encloses (onInstance : Nat) (surfaceCalls all : List Call) : Origin → Prop
  | .own _ _ => ∃ application extensions,
      all = .createInstance (some application) extensions (some onInstance) ::
        (surfaceCalls ++ [.destroyInstance onInstance])
  | .lent lentInstance => onInstance = lentInstance ∧ all = surfaceCalls

/-- A backend owns the instance that it made, and nothing else was made at its beginning. -/
theorem encloses_begin {origin : Origin} {loader : Loader}
    (hg : (origin.begin loader).answer = .ok g) (surfaceCalls : List Call) :
    origin.Encloses g.onInstance surfaceCalls
      ((origin.begin loader).journal.filterMap Note.vulkan? ++ surfaceCalls ++
        if g.ownsInstance then [.destroyInstance g.onInstance] else []) := by
  cases origin with
  | lent onInstance =>
    cases hg
    refine ⟨rfl, ?_⟩
    rw [if_neg (by simp [Graphics.borrow]), List.append_nil]
    rfl
  | own name platform =>
    obtain ⟨howns, application, extensions, hcalls⟩ := Graphics.run_create_ok hg
    refine ⟨application, extensions, ?_⟩
    rw [begin, hcalls, howns]
    rfl

variable {origin : Origin} {onInstance : Nat} {surfaceCalls all : List Call}

/-- The other calls neither make surfaces nor destroy any. -/
theorem Encloses.split (h : origin.Encloses onInstance surfaceCalls all) :
    ∃ first last, all = first ++ (surfaceCalls ++ last) ∧ created first = [] ∧
      destroyed first = [] ∧ created last = [] ∧ destroyed last = [] := by
  cases origin with
  | own name platform =>
    obtain ⟨application, extensions, rfl⟩ := h
    exact ⟨[_], [_], rfl, rfl, rfl, rfl, rfl⟩
  | lent own =>
    obtain ⟨-, rfl⟩ := h
    exact ⟨[], [], (List.append_nil _).symm, rfl, rfl, rfl, rfl⟩

theorem Encloses.created (h : origin.Encloses onInstance surfaceCalls all) :
    Vulkan.created all = Vulkan.created surfaceCalls := by
  obtain ⟨first, last, rfl, hfirst, -, hlast, -⟩ := h.split
  rw [created_append, created_append, hfirst, hlast, List.nil_append, List.append_nil]

theorem Encloses.destroyed (h : origin.Encloses onInstance surfaceCalls all) :
    Vulkan.destroyed all = Vulkan.destroyed surfaceCalls := by
  obtain ⟨first, last, rfl, -, hfirst, -, hlast⟩ := h.split
  rw [destroyed_append, destroyed_append, hfirst, hlast, List.nil_append, List.append_nil]

theorem Encloses.createdFirst (h : origin.Encloses onInstance surfaceCalls all)
    (hcalls : CreatedFirst surfaceCalls) : CreatedFirst all := by
  obtain ⟨first, last, rfl, -, hfirst, -, hlast⟩ := h.split
  exact (hcalls.append (by rw [hlast]; exact List.nil_subset _)).after hfirst

end Origin

/-! ## A loader that fails -/

/-- From now on the loader ends the creation of surfaces in a given way. -/
def settle (result : ResultCode) : Step Entry (Session N Graphics Surface W) Unit :=
  Step.modify fun session =>
    ({ session.1 with
        graphics := { session.1.graphics with
          loader := { session.1.graphics.loader with surfaceResult := result } } }, session.2)

variable [WindowManager N W] [Surroundings X N]

/-- An action while the loader ends the creation of surfaces in a given way. -/
def performUnder (result : ResultCode) (a : Action X) :
    Step Entry (Session N Graphics Surface W) (Answer Surface) := do
  settle result
  Session.perform a

/-- Actions, each while the loader ends the creation of surfaces in its own way. -/
def performAllUnder : List (ResultCode × Action X) →
    Step Entry (Session N Graphics Surface W) (List (Answer Surface))
  | [] => pure []
  | (result, a) :: rest => do
    let answer ← performUnder result a
    let answers ← performAllUnder rest
    pure (answer :: answers)

/-- What such actions come to from the start of a session. -/
def historyUnder (manager : N) (g : Graphics) (settings : Settings)
    (actions : List (ResultCode × Action X)) :
    Outcome Entry (Session N Graphics Surface W) (List (Answer Surface)) :=
  let start := Bridge.start manager g settings
  let rest := (performAllUnder actions).run (start.state, {})
  ⟨rest.answer, rest.state, start.journal ++ rest.journal⟩

/-! ## The accounts of a session -/

/-- The accounts of the bridge and of the loader are in order after a journal. -/
structure Kept (g : Graphics) (session : Session N Graphics Surface W) (journal : List Entry) :
    Prop where
  ledger : Ledger session.1.books (Entry.calls journal)
  account : Account g session.1.books journal

omit [WindowManager N W] in
/-- The loader made the surfaces that the bridge made. -/
theorem Kept.created_eq (h : Kept g session journal) :
    created (loaderCalls journal) = (wrapped (Entry.calls journal)).map g.surfaceAt := by
  rw [h.account.created_eq, h.ledger.wrapped_eq]

/-- The accounts stay in order from one session to another, the journal in between tells of the
loader what was so, and a window that holds a surface holds on to it, or the surface is released
first. -/
structure Continued (g : Graphics) (session : Session N Graphics Surface W)
    (journal more : List Entry) (after : Session N Graphics Surface W) : Prop where
  kept : Kept g after (journal ++ more)
  truthful : Truthful g more
  held : ∀ h id n, session.1.registry.Holds h id n →
    after.1.registry.HeldOrReleased h id n (Entry.calls more)

/-- Accounts that are in order are continued. -/
def Continues (g : Graphics) (session : Session N Graphics Surface W) (more : List Entry)
    (after : Session N Graphics Surface W) : Prop :=
  ∀ journal, Kept g session journal → Continued g session journal more after

omit [WindowManager N W] in
theorem chronicle_continues (g : Graphics) :
    Step.Chronicle (Continues g : Session N Graphics Surface W → List Entry →
      Session N Graphics Surface W → Prop) where
  nil _ journal h :=
    ⟨(List.append_nil journal).symm ▸ h, truthful_quiet Entry.quiet_nil,
     fun _ _ _ hh => Or.inl ⟨hh, List.not_mem_nil⟩⟩
  append first second journal h := by
    have hfirst := first journal h
    have hsecond := second _ hfirst.kept
    refine ⟨?_, hfirst.truthful.append hsecond.truthful, fun o id n hh => ?_⟩
    · rw [← List.append_assoc]
      exact hsecond.kept
    · rw [Entry.calls_append]
      exact (hfirst.held o id n hh).append (hsecond.held o id n)

omit [WindowManager N W] in
/-- The accounts do not depend on what the loader will do. -/
theorem continues_settle (result : ResultCode) :
    Step.Tells (Continues g) (settle result : Step Entry (Session N Graphics Surface W) Unit) := by
  intro session journal h
  refine ⟨?_, truthful_quiet Entry.quiet_nil, fun _ _ _ hh => Or.inl ⟨hh, List.not_mem_nil⟩⟩
  rw [show ((settle result).run session).journal = [] from rfl, List.append_nil]
  have hl := h.ledger
  have hn := h.account.numbered
  exact ⟨⟨hl.sound, hl.wrapped_eq, hl.nodup_released, hl.wrappedFirst, hl.bound_iff, hl.single⟩,
    ⟨⟨hn.onInstance, hn.ownsInstance, hn.surfaces, hn.bound⟩, h.account.created_eq,
      h.account.destroyed_eq, h.account.createdFirst, h.account.isOn⟩⟩

/-- An action continues the accounts. -/
theorem continues_perform (a : Action X) :
    Step.Tells (Continues g)
      (Session.perform a : Step Entry (Session N Graphics Surface W) _) := by
  intro session journal h
  have hmoves := Session.isMoves_perform a session
  have hlived : Episodes session.1.books _ _ := Session.tells_perform Bridge.told_lived a session
  refine ⟨⟨?_, h.account.episodes hlived⟩, h.account.numbered.truthful hlived, fun o id n hh => ?_⟩
  · rw [Entry.calls_append]
    exact hmoves.ledger h.ledger
  · exact hmoves.heldOrReleased h.ledger.sound hh

theorem continues_performUnder (result : ResultCode) (a : Action X) :
    Step.Tells (Continues g)
      (performUnder result a : Step Entry (Session N Graphics Surface W) _) :=
  (chronicle_continues g).bind (continues_settle result) fun _ => continues_perform a

theorem continues_performAllUnder (actions : List (ResultCode × Action X)) :
    Step.Tells (Continues g)
      (performAllUnder actions : Step Entry (Session N Graphics Surface W) _) := by
  induction actions with
  | nil => exact (chronicle_continues g).pure []
  | cons head rest ih =>
    exact (chronicle_continues g).bind (continues_performUnder head.1 head.2) fun _ =>
      (chronicle_continues g).bind ih fun _ => (chronicle_continues g).pure _

/-- The accounts are in order after every history, and its journal tells of the loader what was
so. -/
theorem kept_historyUnder (manager : N) (g : Graphics) (settings : Settings)
    (actions : List (ResultCode × Action X)) :
    let past : Outcome Entry (Session N Graphics Surface W) (List (Answer Surface)) :=
      historyUnder manager g settings actions
    Kept g past.state past.journal ∧ Truthful g past.journal := by
  intro past
  let start : Outcome Entry (Session N Graphics Surface W) (List (Answer Surface)) :=
    Session.history manager g settings ([] : List (Action X))
  have hlived : Episodes { graphics := g } start.journal start.state.1.books :=
    Session.tells_history Bridge.told_lived manager g settings ([] : List (Action X))
  have haccount : Account g start.state.1.books ([] ++ start.journal) :=
    (account_start g).episodes hlived
  have hstart : Kept g start.state start.journal :=
    ⟨Session.ledger_history manager g settings [], haccount⟩
  have htruthful : Truthful g start.journal := (account_start g).numbered.truthful hlived
  rw [show start.journal = (Bridge.start manager g settings).journal from List.append_nil _]
    at hstart htruthful
  have hactions := continues_performAllUnder actions start.state _ hstart
  exact ⟨hactions.kept, htruthful.append hactions.truthful⟩

/-! ## The end of a session -/

/-- The end of a session destroys the surfaces that are left, and then the instance if it belongs
to the backend. -/
theorem Kept.finish (h : Kept g session journal) :
    let ending := Session.finish.run session
    let all := loaderCalls (journal ++ ending.journal)
    ∃ surfaceCalls,
      all = surfaceCalls ++ (if g.ownsInstance then [.destroyInstance g.onInstance] else []) ∧
      (∀ c ∈ surfaceCalls, c.IsOn g.onInstance) ∧ CreatedFirst surfaceCalls ∧
      created surfaceCalls = (wrapped (Entry.calls (journal ++ ending.journal))).map g.surfaceAt ∧
      destroyed surfaceCalls = (released (Entry.calls (journal ++ ending.journal))).map g.surfaceAt ∧
      Truthful g ending.journal := by
  intro ending all
  obtain ⟨last, rest, hlived, hjournal, hmade⟩ := Session.lived_finish session
  have hlast : Account g last.books (journal ++ rest) := h.account.episodes hlived
  have hledger := (Session.ledger_finish h.ledger).1
  rw [← Entry.calls_append] at hledger
  -- the backend goes last, and does nothing then but to destroy its own instance
  have hall : all = loaderCalls (journal ++ rest) ++
      if g.ownsInstance then [.destroyInstance g.onInstance] else [] := by
    show loaderCalls (journal ++ (Session.finish.run session).journal) = _
    rw [hjournal, ← List.append_assoc, loaderCalls_append, loaderCalls_graphicsCall,
      Graphics.journal_close,
      show last.graphics.ownsInstance = g.ownsInstance from hlast.numbered.ownsInstance,
      show last.graphics.onInstance = g.onInstance from hlast.numbered.onInstance]
    cases g.ownsInstance <;> rfl
  have hreleased : released (Entry.calls (journal ++ ending.journal)) =
      released (Entry.calls (journal ++ rest)) := by
    show released (Entry.calls (journal ++ (Session.finish.run session).journal)) = _
    rw [hjournal, ← List.append_assoc, Entry.calls_append, Entry.calls_graphicsCall,
      released_append]
    exact List.append_nil _
  refine ⟨_, hall, hlast.isOn, hlast.createdFirst, ?_, ?_, ?_⟩
  · rw [hledger.wrapped_eq, hlast.created_eq, show ending.state.1.books.surfacesMade =
      last.books.surfacesMade from hmade]
  · rw [hreleased, hlast.destroyed_eq]
  · show Truthful g (Session.finish.run session).journal
    rw [hjournal]
    exact (h.account.numbered.truthful hlived).append (truthful_graphicsCall (by simp) (by simp))

/-! ## The life of a surface -/

/-- An action makes on the loader the surfaces that it makes in the bridge. -/
theorem Kept.created_performUnder (h : Kept g session journal) (result : ResultCode)
    (a : Action X) :
    let next := (performUnder result a).run session
    created (loaderCalls next.journal) = (wrapped (Entry.calls next.journal)).map g.surfaceAt := by
  intro next
  have hafter := (continues_performUnder result a session journal h).kept.created_eq
  rw [loaderCalls_append, created_append, h.created_eq, Entry.calls_append, wrapped_append,
    List.map_append] at hafter
  exact List.append_cancel_left hafter

/-- It destroys there the surfaces that it releases. -/
theorem Kept.destroyed_performUnder (h : Kept g session journal) (result : ResultCode)
    (a : Action X) :
    let next := (performUnder result a).run session
    destroyed (loaderCalls next.journal) =
      (released (Entry.calls next.journal)).map g.surfaceAt := by
  intro next
  have hafter := (continues_performUnder result a session journal h).kept.account.destroyed_eq
  rw [loaderCalls_append, destroyed_append, h.account.destroyed_eq, Entry.calls_append,
    released_append, List.map_append] at hafter
  exact List.append_cancel_left hafter

/-- A surface that the loader made was asked for by a window, which holds it then, and is destroyed
before that window, however the session goes on to its end. -/
theorem Kept.destroyed_before_window (h : Kept g session journal) (result : ResultCode)
    (a : Action X) (later : List (ResultCode × Action X)) :
    let next := (performUnder result a).run session
    let rest := (performAllUnder later >>= fun _ => Session.finish).run next.state
    ∀ s ∈ created (loaderCalls next.journal), ∃ h id drawable surface,
      a = .gpuSurface h ∧
      next.state.1.registry.handle h = .live id drawable (some surface) ∧
      s = (g.onInstance, surface.value.number) ∧
      WindowSystem.Call.destroy id ∉ Entry.calls next.journal ∧
      ∀ before last, rest.journal = before ++ .call (.destroy id) :: last →
        s ∈ destroyed (loaderCalls before) := by
  intro next rest s hs
  have hnext : Continued g session journal next.journal next.state :=
    continues_performUnder result a session journal h
  rw [h.created_performUnder result a] at hs
  obtain ⟨n, hn, rfl⟩ := List.mem_map.mp hs
  -- while the loader is set the session stays as it is, so the action finds the same accounts
  have hsettled : Kept g ((settle result).run session).state journal := by
    have hkept := (continues_settle result session journal h).kept
    rwa [show ((settle result).run session).journal = [] from rfl, List.append_nil] at hkept
  obtain ⟨o, id, rfl, hholds⟩ : ∃ o id, a = .gpuSurface o ∧
      next.state.1.registry.Holds o id n := Session.holds_of_wrapped hsettled.ledger a hn
  obtain ⟨drawable, surface, hlive, hnumber⟩ := hholds.handle_eq
  have hsurface : (next.state.1.registry.handle o).surface? = some surface := by
    rw [hlive, Handle.surface?]
  obtain ⟨-, hvalue⟩ := hnext.kept.account.numbered.bound o surface hsurface
  refine ⟨o, id, drawable, surface, rfl, hlive, by rw [hvalue, hnumber], fun hmem => ?_, ?_⟩
  · have hcalls : WindowSystem.Call.destroy id ∈ Entry.calls
        ((Session.perform (.gpuSurface o : Action X)).run
          ((settle result).run session).state).journal := hmem
    rw [Session.calls_perform_gpuSurface] at hcalls
    exact Bridge.isBinding_gpuSurface o _ _ hcalls
  · have hlater := continues_performAllUnder later next.state _ hnext.kept
    have hheld := hlater.held o id n hholds
    have hend := Session.isMoves_finish ((performAllUnder later).run next.state).state
    obtain ⟨-, -, -, -, -, -, htruthful⟩ := hlater.kept.finish
    have hrest : ReleasedFirst n id (Entry.calls rest.journal) := by
      show ReleasedFirst n id (Entry.calls (((performAllUnder later).run next.state).journal ++ _))
      rw [Entry.calls_append]
      exact (hheld.append fun hh => hend.heldOrReleased hlater.kept.ledger.sound hh).releasedFirst
    exact fun before last heq => (hlater.truthful.append htruthful).destroyed_before hrest heq

/-- A request for a surface that fails neither makes nor destroys one, and leaves the window without
one. -/
theorem Kept.failed_request (h : Kept g session journal) (result : ResultCode) (o : HandleRef)
    {e : BridgeError} :
    let next := (performUnder result (.gpuSurface o : Action X)).run session
    next.answer = .bound (.error e) →
      created (loaderCalls next.journal) = [] ∧ destroyed (loaderCalls next.journal) = [] ∧
        (next.state.1.registry.handle o).surface? = none := by
  intro next hanswer
  let settled := ((settle result).run session).state.1
  have hcalls : Entry.calls next.journal =
      Entry.calls ((Bridge.gpuSurface o).run settled).journal :=
    Session.calls_perform_gpuSurface (X := X) o ((settle result).run session).state
  obtain ⟨hwrapped, hnone⟩ := Bridge.wrapped_gpuSurface_error (b := settled) (h := o) (e := e)
    (Answer.bound.inj hanswer)
  have hreleased : released (Entry.calls next.journal) = [] := by
    refine List.eq_nil_iff_forall_not_mem.mpr fun n hn => ?_
    rw [mem_released, hcalls] at hn
    exact Bridge.isBinding_gpuSurface o settled _ hn
  refine ⟨?_, ?_, hnone⟩
  · rw [h.created_performUnder, hcalls, hwrapped]
    rfl
  · rw [h.destroyed_performUnder, hreleased]
    rfl

/-- Vulkan objects live as long as they should, whatever the window manager does and however often
the loader fails to make a surface. To the end of the session the loader destroys the surfaces that
it made, each once, after it was made and on the instance on which it was made; these are the
surfaces that the bridge counts as made, none of them of an offscreen drawable. An instance that the
backend made is destroyed once, after all of them; one that it was lent is left alone. A request for
a surface that fails makes none, destroys none, and leaves the window without one. And a surface that
an action makes belongs to the window that asked for it, and is destroyed before that window. -/
theorem surfaces_destroyed_before_instance (origin : Origin) (loader : Loader)
    (hg : (origin.begin loader).answer = .ok g) (manager : N) (settings : Settings)
    (actions : List (ResultCode × Action X)) :
    let past : Outcome Entry (Session N Graphics Surface W) (List (Answer Surface)) :=
      historyUnder manager g settings actions
    let journal := past.journal ++ (Session.finish.run past.state).journal
    let all := (origin.begin loader).journal.filterMap Note.vulkan? ++ loaderCalls journal
    (∃ surfaceCalls, (∀ c ∈ surfaceCalls, c.IsOn g.onInstance) ∧
      origin.Encloses g.onInstance surfaceCalls all) ∧
    (created all).Nodup ∧ (destroyed all).Perm (created all) ∧ CreatedFirst all ∧
    created all = (wrapped (Entry.calls journal)).map g.surfaceAt ∧
    destroyed all = (released (Entry.calls journal)).map g.surfaceAt ∧
    (∀ number n, Call.wrap (.offscreen number) (.ok n) ∉ Entry.calls journal) ∧
    (∀ (result : ResultCode) (h : HandleRef) (e : BridgeError),
      let next := (performUnder result (.gpuSurface h : Action X)).run past.state
      next.answer = .bound (.error e) →
        created (loaderCalls next.journal) = [] ∧ destroyed (loaderCalls next.journal) = [] ∧
          (next.state.1.registry.handle h).surface? = none) ∧
    ∀ (result : ResultCode) (a : Action X) (later : List (ResultCode × Action X)),
      let next := (performUnder result a).run past.state
      let rest := (performAllUnder later >>= fun _ => Session.finish).run next.state
      ∀ s ∈ created (loaderCalls next.journal), ∃ h id drawable surface,
        a = .gpuSurface h ∧
        next.state.1.registry.handle h = .live id drawable (some surface) ∧
        s = (g.onInstance, surface.value.number) ∧
        Call.destroy id ∉ Entry.calls next.journal ∧
        ∀ before last, rest.journal = before ++ .call (.destroy id) :: last →
          s ∈ destroyed (loaderCalls before) := by
  intro past journal all
  obtain ⟨hpast, htruthful⟩ := kept_historyUnder manager g settings actions
  obtain ⟨surfaceCalls, hcalls, hon, hfirst, hcreated, hdestroyed, hending⟩ := hpast.finish
  obtain ⟨hledger, hnone⟩ := Session.ledger_finish hpast.ledger
  rw [← Entry.calls_append] at hledger
  have hencloses : origin.Encloses g.onInstance surfaceCalls all := by
    have hbegin := Origin.encloses_begin hg surfaceCalls
    rwa [List.append_assoc, ← hcalls] at hbegin
  have hcreated' : created all = (wrapped (Entry.calls journal)).map g.surfaceAt :=
    hencloses.created.trans hcreated
  have hdestroyed' : destroyed all = (released (Entry.calls journal)).map g.surfaceAt :=
    hencloses.destroyed.trans hdestroyed
  refine ⟨⟨surfaceCalls, hon, hencloses⟩, ?_, ?_, hencloses.createdFirst hfirst, hcreated',
    hdestroyed', (htruthful.append hending).platform,
    fun result h e => hpast.failed_request result h,
    fun result a later => hpast.destroyed_before_window result a later⟩
  · rw [hcreated']
    exact hledger.nodup_wrapped.map g.surfaceAt_injective
  · rw [hcreated', hdestroyed']
    exact (hledger.perm_of_unbound hnone).map g.surfaceAt

/-- The loader refuses a surface to a window once, and makes it when the window asks again. -/
theorem surface_after_refusal_destroyed :
    let g : Graphics := ⟨{ instances := 1 }, 1, true⟩
    let manager : Scripted.Manager := { platform := some .xcb }
    let actions : List (ResultCode × Action Empty) :=
      [(.success, .create {}), (⟨-1⟩, .gpuSurface 0), (.success, .gpuSurface 0)]
    let past : Outcome Entry (Session Scripted.Manager Graphics Surface Unit) _ :=
      historyUnder manager g {} actions
    let begun := Origin.begin {} (.own "demo" .xcb)
    let all := begun.journal.filterMap Note.vulkan? ++
      loaderCalls (past.journal ++ (Session.finish.run past.state).journal)
    begun.answer = .ok g ∧ created all = [(1, 1)] ∧ (destroyed all).Perm [(1, 1)] := by
  intro g manager actions past begun all
  have hname : Graphics.nulPosition? "demo" = none := by decide +kernel
  have hbegun : begun.answer = .ok g := by
    simp only [begun, Origin.begin, Graphics.create, hname, Graphics.extensions?]
    rfl
  have hcreated : created all = [(1, 1)] := by decide +kernel
  obtain ⟨-, -, hperm, -⟩ := surfaces_destroyed_before_instance
    (.own "demo" .xcb) {} hbegun manager {} actions
  exact ⟨hbegun, hcreated, hcreated ▸ hperm⟩

end WindowSystem.Vulkan
