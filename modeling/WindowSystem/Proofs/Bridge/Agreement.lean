/-
# Bridge and window manager agree

A bridge and its window manager keep windows apart from each other: the one in its registry, the
other in its slot table. A window manager is dependable (`Dependable`) when it knows from the calls
made so far which windows are open and answers calls about these as it should. A bridge makes only
such calls, so that after every history the two agree (`Session.agrees_history`).
-/
import WindowSystem.Proofs.Bridge.Course
import WindowSystem.Proofs.Bridge.Drawables
import WindowSystem.Proofs.Manager.SlotTable

namespace WindowSystem

/-- Whether a failure says that a window, or the source of events, is gone. -/
def BackendError.IsLost : BackendError → Prop
  | .unknownWindow _ | .eventSourceClosed => True
  | _ => False

/-- A call was answered by a window manager that has the windows that are open: it missed none,
handed a drawable out, or created a window under an identifier that is not open. -/
structure Call.IsMet (past : List Call) (c : Call) : Prop where
  notLost : ∀ e, c.failure? = some e → ¬ e.IsLost
  drawn : ∀ id e, c ≠ .drawable id (.error e)
  fresh : ∀ attributes id, c = .create attributes (.ok id) → ¬ IsOpen past id

/-- A call that did not fail is met, unless it created a window. -/
theorem Call.isMet_of_ok {past : List Call} {c : Call} (hok : c.failure? = none)
    (hminted : c.mintedId? = none) : c.IsMet past where
  notLost e he := by
    rw [hok] at he
    cases he
  drawn id e := by
    rintro rfl
    cases hok
  fresh attributes id := by
    rintro rfl
    cases hminted

/-- In a call to the graphics backend no window comes or goes. -/
theorem Call.IsGraphics.isQuiet {c : Call} (hc : c.IsGraphics) : c.IsQuiet := by
  cases c with
  | wrap drawable answer => exact ⟨rfl, rfl, rfl⟩
  | release surface => exact ⟨rfl, rfl, rfl⟩
  | closeGraphics => exact ⟨rfl, rfl, rfl⟩
  | _ => exact hc.elim

section Dependable

variable {N W X : Type} [WindowManager N W] [Surroundings X N]

/-- While it fits, a window manager knows which windows are open after the calls made so far, and
meets every call about an open window; it need not hand a drawable out twice. -/
structure Dependable (X : Type) [Surroundings X N] (fits : N → Prop)
    (knows : List Call → N → Prop) : Prop where
  fits_of_responds : ∀ {n n' : N} {c : Call}, Responds n c n' → fits n' → fits n
  fits_of_happen : ∀ {n : N} (x : X),
    fits ((Surroundings.happen x : Step Note N Unit).run n).state → fits n
  responds : ∀ {past : List Call} {n n' : N} {c : Call}, Responds n c n' → fits n' →
    knows past n → (∀ id, c.target? = some id → IsOpen past id) →
    (∀ id answer, c = .drawable id answer → ¬ IsDrawn past id) →
    knows (past ++ [c]) n' ∧ c.IsMet past
  happen : ∀ {past : List Call} {n : N} (x : X),
    fits ((Surroundings.happen x : Step Note N Unit).run n).state → knows past n →
    knows past ((Surroundings.happen x : Step Note N Unit).run n).state
  graphics : ∀ {past : List Call} {n : N} {c : Call}, c.IsGraphics → knows past n →
    knows (past ++ [c]) n

variable {fits : N → Prop} {knows : List Call → N → Prop} {n n' : N} {calls past : List Call}

namespace Dependable

/-- A window manager that fits at the end of a course fitted at its beginning. -/
theorem fits_of_course (hd : Dependable X fits knows) (h : Course X n calls n')
    (hfits : fits n') : fits n := by
  induction h with
  | nil => exact hfits
  | call hc _ ih => exact hd.fits_of_responds hc (ih hfits)
  | graphics _ _ ih => exact ih hfits
  | outside x _ ih => exact hd.fits_of_happen x (ih hfits)

/-- A dependable window manager knows the windows to the end of a course, and meets every call that
is made to it. -/
theorem course (hd : Dependable X fits knows) (h : Course X n calls n') (hfits : fits n')
    (hknows : knows past n) (haddressed : Addressed (past ++ calls))
    (honce : DrawnOnce (past ++ calls)) :
    knows (past ++ calls) n' ∧
      ∀ before c rest, calls = before ++ c :: rest → ¬ c.IsGraphics →
        c.IsMet (past ++ before) := by
  induction h generalizing past with
  | nil =>
    rw [List.append_nil]
    refine ⟨hknows, fun before c rest heq => ?_⟩
    simp at heq
  | @call n n' n'' c calls hc next ih =>
    have htarget : ∀ id, c.target? = some id → IsOpen past id :=
      fun id hid => haddressed past c calls id rfl hid
    have hdrawn : ∀ id answer, c = .drawable id answer → ¬ IsDrawn past id := by
      rintro id answer rfl
      exact honce past id answer calls rfl
    obtain ⟨hafter, hmet⟩ := hd.responds hc (hd.fits_of_course next hfits) hknows htarget hdrawn
    rw [List.append_cons] at haddressed honce ⊢
    obtain ⟨hlast, hmets⟩ := ih hfits hafter haddressed honce
    refine ⟨hlast, fun before c' rest heq hc' => ?_⟩
    rcases List.cons_eq_append_iff.mp heq with ⟨rfl, hcons⟩ | ⟨before', rfl, hcalls⟩
    · rw [List.append_nil, (List.cons.inj hcons).1]
      exact hmet
    · rw [List.append_cons]
      exact hmets before' c' rest hcalls hc'
  | @graphics n n' c calls hc next ih =>
    rw [List.append_cons] at haddressed honce ⊢
    obtain ⟨hlast, hmets⟩ := ih hfits (hd.graphics hc hknows) haddressed honce
    refine ⟨hlast, fun before c' rest heq hc' => ?_⟩
    rcases List.cons_eq_append_iff.mp heq with ⟨rfl, hcons⟩ | ⟨before', rfl, hcalls⟩
    · rw [(List.cons.inj hcons).1] at hc'
      exact absurd hc hc'
    · rw [List.append_cons]
      exact hmets before' c' rest hcalls hc'
  | outside x next ih =>
    exact ih hfits (hd.happen x (hd.fits_of_course next hfits) hknows) haddressed honce

end Dependable

end Dependable

/-! ## The registry -/

theorem Registry.mem_ids {S : Type} {r : Registry S} {id : WindowId} :
    id ∈ r.entries.map Prod.fst ↔ (r.resolve id).isSome := by
  rw [resolve, Option.isSome_map, List.find?_isSome, List.mem_map]
  simp

/-! ## Creating a window -/

theorem Handle.isGraphics_of_mem_releaseCalls {S : Type} {h : Handle S} {c : Call}
    (hc : c ∈ h.releaseCalls) : c.IsGraphics := by
  rw [releaseCalls, Option.mem_toList, Option.map_eq_some_iff] at hc
  obtain ⟨surface, -, rfl⟩ := hc
  trivial

namespace Bridge

variable {N W G S : Type} [WindowManager N W] [GraphicsBackend G S]

/-- Nothing happens if the options are refused. -/
theorem run_createWindow_of_error {options : WindowOptions} {b : Bridge N G S} {e : OptionsError}
    (h : (options.orElse b.defaultWindow).attributes? = .error e) :
    (createWindow options).run b = ⟨.error (.options e), b, []⟩ := by
  unfold createWindow
  rw [Step.run_bind, Step.run_get, h]
  rfl

/-- A window is created with the attributes that the options describe. All other calls are made to
the graphics backend, and a failure is not about the options. -/
theorem run_createWindow_of_ok {options : WindowOptions} {b : Bridge N G S}
    {attributes : WindowAttributes}
    (h : (options.orElse b.defaultWindow).attributes? = .ok attributes) :
    (∀ e, ((createWindow options).run b).answer ≠ .error (.options e)) ∧
      ∃ rest, Entry.calls ((createWindow options).run b).journal =
        .create attributes ((WindowManager.create attributes).run b.events.manager).answer :: rest ∧
          ∀ c ∈ rest, c.IsGraphics := by
  unfold createWindow
  rw [Step.run_bind, Step.run_get, h]
  simp only [Step.run_bind, run_askManager, List.nil_append, Entry.calls_append,
    Entry.calls_map_note]
  cases ha : ((WindowManager.create attributes).run b.events.manager).answer with
  | error e => exact ⟨nofun, [], rfl, fun c hc => absurd hc List.not_mem_nil⟩
  | ok id =>
    simp only [Step.run_bind, Entry.calls_append, (run_onRegistry_enter id _).2.2.1]
    generalize ((onRegistry (Registry.enter id)).run _).answer = entered
    obtain ⟨h, _ | old⟩ := entered
    · exact ⟨nofun, [], rfl, fun c hc => absurd hc List.not_mem_nil⟩
    · -- the surface of the handle that is replaced is released
      refine ⟨nofun, _, rfl, ?_⟩
      simp only [Step.run_bind, run_changeRegistry, run_say, Step.run_pure, List.nil_append,
        List.append_nil, Entry.calls_append, Entry.calls_cons_note, Entry.calls_nil,
        (run_releaseSurface old _).2.1]
      exact fun c => Handle.isGraphics_of_mem_releaseCalls

/-- Creating a window begins with the call that creates it, and all other calls are made to the
graphics backend. -/
theorem calls_createWindow (options : WindowOptions) (b : Bridge N G S) :
    Entry.calls ((createWindow options).run b).journal = [] ∨
      ∃ attributes answer rest, Entry.calls ((createWindow options).run b).journal =
        .create attributes answer :: rest ∧ ∀ c ∈ rest, c.IsGraphics := by
  cases h : (options.orElse b.defaultWindow).attributes? with
  | error e => exact Or.inl (by rw [run_createWindow_of_error h]; rfl)
  | ok attributes => exact Or.inr ⟨attributes, _, (run_createWindow_of_ok h).2⟩

end Bridge

/-! ## Sessions -/

namespace Session

variable {N W G S X α : Type} [WindowManager N W] [GraphicsBackend G S] [Surroundings X N]

/-- The windows in the registry of a session are those in the slot table of its window manager. No
action that comes next misses a window or the source of events, unless that is how the graphics
backend refuses a surface; none creates a window under an identifier that is entered; and none is
refused a drawable. -/
structure Agrees (X : Type) [Surroundings X N] (windows : N → SlotTable α)
    (session : Session N G S W) : Prop where
  ids : (windows session.1.events.manager).Fits →
    (session.1.registry.entries.map Prod.fst).Perm (windows session.1.events.manager).ids
  next : ∀ a : Action X,
    let o := (perform a).run session
    (windows o.state.1.events.manager).Fits →
      (∀ e, o.answer.failure? = some e → e.IsLost →
        ∃ drawable, Call.wrap drawable (.error e) ∈ Entry.calls o.journal) ∧
      (∀ attributes id, Call.create attributes (.ok id) ∈ Entry.calls o.journal →
        session.1.registry.resolve id = none) ∧
      ∀ id e, Call.drawable id (.error e) ∉ Entry.calls o.journal

/-- A window is created first in its action. -/
theorem eq_nil_of_create_mem {session : Session N G S W} {ids : List WindowId}
    (hminted : session.1.registry.Minted ids) (a : Action X) {before rest : List Call}
    {attributes : WindowAttributes} {id : WindowId}
    (h : Entry.calls ((perform a).run session).journal =
      before ++ .create attributes (.ok id) :: rest) : before = [] := by
  by_cases ha : ∃ options, a = .create options
  · obtain ⟨options, rfl⟩ := ha
    have hcalls : Entry.calls ((perform (.create options : Action X)).run session).journal =
        Entry.calls ((Bridge.createWindow options).run session.1).journal :=
      congrArg Entry.calls (List.append_nil _)
    rw [hcalls] at h
    rcases Bridge.calls_createWindow options session.1 with hnil | ⟨_, _, others, hcons, hothers⟩
    · rw [hnil] at h
      simp at h
    · rw [hcons] at h
      rcases List.cons_eq_append_iff.mp h with ⟨hnil, -⟩ | ⟨before', -, hrest⟩
      · exact hnil
      · exact (hothers (.create attributes (.ok id)) (by rw [hrest]; simp)).elim
  · -- all other actions make no handle, and so create no window
    have hmade := ((isMoves_perform a session).minted hminted).length_eq
    have hsame : ((perform a).run session).state.1.registry.handles.length =
        session.1.registry.handles.length :=
      keeps_length_perform (fun options heq => ha ⟨options, heq⟩) session
    have hlength : ((perform a).run session).state.1.registry.handles.length =
      (ids ++ mintedIds (Entry.calls ((perform a).run session).journal)).length := hmade
    rw [hsame, hminted.length_eq, List.length_append] at hlength
    have hnone : mintedIds (Entry.calls ((perform a).run session).journal) = [] :=
      List.eq_nil_of_length_eq_zero (by omega)
    have hmem : id ∈ mintedIds (Entry.calls ((perform a).run session).journal) :=
      mem_mintedIds.mpr ⟨attributes, by rw [h]; simp⟩
    rw [hnone] at hmem
    exact absurd hmem List.not_mem_nil

variable {windows : N → SlotTable α} {knows : List Call → N → Prop}

/-- A bridge agrees with a dependable window manager after every history, at the end of which the
manager still knows what it should. -/
theorem agrees_history (hd : Dependable X (fun n => (windows n).Fits) knows)
    (hids : ∀ calls n, knows calls n → ∀ id, id ∈ (windows n).ids ↔ IsOpen calls id)
    {manager : N} (hstart : knows [] manager) (graphics : G) (settings : Settings)
    (actions : List (Action X)) :
    let past : Outcome Entry (Session N G S W) (List (Answer S)) :=
      history manager graphics settings actions
    Agrees X windows past.state ∧
      ((windows past.state.1.events.manager).Fits →
        knows (Entry.calls past.journal) past.state.1.events.manager ∧
          Drawings past.state.1.books (Entry.calls past.journal)) := by
  intro past
  have hcourse : Course X manager (Entry.calls past.journal) past.state.1.events.manager :=
    course_history manager graphics settings actions
  have hlifetimes : Lifetimes past.state.1.books (Entry.calls past.journal) :=
    lifetimes_history manager graphics settings actions
  have hdrawings : Drawings past.state.1.books (Entry.calls past.journal) :=
    (moves_history manager graphics settings actions (W := W)).drawings
      (lifetimes_empty graphics) (drawings_empty graphics)
  have hknows : (windows past.state.1.events.manager).Fits →
      knows (Entry.calls past.journal) past.state.1.events.manager := fun hfits =>
    (hd.course hcourse hfits hstart hlifetimes.addressed hdrawings.once).1
  refine ⟨⟨fun hfits => ?_, fun a => ?_⟩, fun hfits => ⟨hknows hfits, hdrawings⟩⟩
  · refine (List.perm_ext_iff_of_nodup hlifetimes.sound.ids hfits.nodup_ids).mpr fun id => ?_
    rw [hids _ _ (hknows hfits), hlifetimes.isOpen_iff]
    exact Registry.mem_ids
  · intro o hfits
    have hmoves := isMoves_perform a past.state
    have hnext : Course X past.state.1.events.manager (Entry.calls o.journal)
        o.state.1.events.manager := isCourse_perform a past.state
    obtain ⟨-, hmets⟩ := hd.course hnext hfits (hknows (hd.fits_of_course hnext hfits))
      (hmoves.lifetimes hlifetimes).addressed (hmoves.drawings hlifetimes hdrawings).once
    refine ⟨fun e he hlost => ?_, fun attributes id hmem => ?_, fun id e hmem => ?_⟩
    · obtain ⟨c, hmem, hfailure⟩ := failure_perform a past.state he
      obtain ⟨before, rest, hcalls⟩ := List.append_of_mem hmem
      by_cases hc : c.IsGraphics
      · rcases c with _ | _ | _ | _ | _ | _ | _ | _ | ⟨drawable, found | n⟩ | _ | _ | _
        case wrap.error =>
          refine ⟨drawable, ?_⟩
          rwa [show found = e from Option.some.inj hfailure] at hmem
        all_goals first | exact hc.elim | cases hfailure
      · exact absurd hlost ((hmets before c rest hcalls hc).notLost e hfailure)
    · obtain ⟨before, rest, hcalls⟩ := List.append_of_mem hmem
      have hfresh := (hmets before _ rest hcalls fun hc => hc.elim).fresh attributes id rfl
      have hminted : past.state.1.registry.Minted (mintedIds (Entry.calls past.journal)) :=
        minted_history manager graphics settings actions
      rw [eq_nil_of_create_mem hminted a hcalls, List.append_nil, hlifetimes.isOpen_iff,
        Option.not_isSome_iff_eq_none] at hfresh
      exact hfresh
    · obtain ⟨before, rest, hcalls⟩ := List.append_of_mem hmem
      exact (hmets before _ rest hcalls fun hc => hc.elim).drawn id e rfl

end Session

end WindowSystem
