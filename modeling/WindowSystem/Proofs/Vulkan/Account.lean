/-
# The account of Vulkan surfaces

What the Vulkan loader sees of a bridge. The surfaces of a bridge and those of the loader are made in
the same order (`Numbered`), so that the loader is asked to make and to destroy what the bridge makes
and releases (`Account`), and what the journal says of a surface is what the loader was asked for
(`Truthful`). Both hold of every sequence of episodes.
-/
import WindowSystem.Proofs.Bridge.Episodes
import WindowSystem.Vulkan.Graphics

namespace WindowSystem

/-- The call to the Vulkan loader that a note tells of, if it does. -/
def Note.vulkan? : Note → Option Vulkan.Call
  | .vulkan c => some c
  | _ => none

namespace Vulkan

/-! ## Calls to the loader -/

namespace Call

/-- The surface that a call made, after the instance it was made on. -/
def created? : Call → Option (Nat × Nat)
  | .createSurface _ on _ (some made) => some (on, made)
  | _ => none

/-- The surface that a call destroyed, after the instance it was destroyed on. -/
def destroyed? : Call → Option (Nat × Nat)
  | .destroySurface on made => some (on, made)
  | _ => none

/-- Whether a call is to make or to destroy a surface on an instance. -/
def IsOn (instanceNumber : Nat) : Call → Prop
  | .createSurface _ on _ _ | .destroySurface on _ => on = instanceNumber
  | _ => False

end Call

/-- The surfaces made, in order. -/
def created (calls : List Call) : List (Nat × Nat) := calls.filterMap Call.created?

/-- The surfaces destroyed, in order. -/
def destroyed (calls : List Call) : List (Nat × Nat) := calls.filterMap Call.destroyed?

@[simp]
theorem created_append (a b : List Call) : created (a ++ b) = created a ++ created b :=
  List.filterMap_append

@[simp]
theorem destroyed_append (a b : List Call) : destroyed (a ++ b) = destroyed a ++ destroyed b :=
  List.filterMap_append

/-- A surface is destroyed after it was made, on the instance on which it was made. -/
def CreatedFirst (calls : List Call) : Prop :=
  ∀ before on made rest, calls = before ++ .destroySurface on made :: rest →
    (on, made) ∈ created before

/-- More calls destroy only what the first ones made. -/
theorem CreatedFirst.append {calls more : List Call} (h : CreatedFirst calls)
    (hmore : destroyed more ⊆ created calls) : CreatedFirst (calls ++ more) := by
  intro before on made rest heq
  rcases append_eq_split heq with ⟨tail, hcalls⟩ | ⟨mid, hbefore, hmid⟩
  · exact h before on made tail hcalls
  · have hmem : (on, made) ∈ destroyed more := by
      rw [hmid, destroyed_append]
      exact List.mem_append_right _ List.mem_cons_self
    rw [hbefore, created_append]
    exact List.mem_append_left _ (hmore hmem)

/-- Calls that destroy nothing may come before. -/
theorem CreatedFirst.after {calls first : List Call} (h : CreatedFirst calls)
    (hfirst : destroyed first = []) : CreatedFirst (first ++ calls) := by
  intro before on made rest heq
  rcases append_eq_split heq with ⟨tail, hsplit⟩ | ⟨mid, hbefore, hmid⟩
  · rw [hsplit, destroyed_append] at hfirst
    exact absurd (List.append_eq_nil_iff.mp hfirst).2 (List.cons_ne_nil _ _)
  · rw [hbefore, created_append]
    exact List.mem_append_right _ (h mid on made rest hmid)

/-- The calls to the loader that the graphics backend made during a journal. -/
def loaderCalls (journal : List Entry) : List Call :=
  (Entry.notesBy .graphics journal).filterMap Note.vulkan?

@[simp]
theorem loaderCalls_append (a b : List Entry) :
    loaderCalls (a ++ b) = loaderCalls a ++ loaderCalls b := by
  rw [loaderCalls, Entry.notesBy_append, List.filterMap_append]
  rfl

theorem loaderCalls_quiet {journal : List Entry} (h : Entry.Quiet journal) :
    loaderCalls journal = [] := by
  rw [loaderCalls, h.notes, List.filterMap_nil]

@[simp]
theorem loaderCalls_graphicsCall (notes : List Note) (c : WindowSystem.Call) :
    loaderCalls (Entry.graphicsCall notes c) = notes.filterMap Note.vulkan? := by
  rw [loaderCalls, Entry.notesBy_graphicsCall]

/-! ## The backend and its loader -/

/-- The loader makes a surface, or ends otherwise as it is set to. -/
theorem Loader.run_createSurface (kind : SurfaceKind) (on : Nat) (window : UInt32) (l : Loader) :
    (Loader.createSurface kind on window).run l =
      if l.surfaceResult = .success then
        ⟨.ok (l.surfaces + 1), { l with surfaces := l.surfaces + 1 },
         [.vulkan (.createSurface kind on window (some (l.surfaces + 1)))]⟩
      else ⟨.error l.surfaceResult, l, [.vulkan (.createSurface kind on window none)]⟩ := by
  unfold Loader.createSurface
  rw [Step.run_bind, Step.run_get]
  dsimp only
  by_cases hresult : l.surfaceResult = .success
  · rw [if_pos hresult, if_pos hresult]
    rfl
  · rw [if_neg hresult, if_neg hresult]
    rfl

/-- The loader makes an instance, or ends otherwise as it is set to. -/
theorem Loader.run_createInstance (application : Option Application) (extensions : List String)
    (l : Loader) :
    (Loader.createInstance application extensions).run l =
      if l.instanceResult = .success then
        ⟨.ok (l.instances + 1), { l with instances := l.instances + 1 },
         [.vulkan (.createInstance application extensions (some (l.instances + 1)))]⟩
      else
        ⟨.error l.instanceResult, l, [.vulkan (.createInstance application extensions none)]⟩ := by
  unfold Loader.createInstance
  rw [Step.run_bind, Step.run_get]
  dsimp only
  by_cases hresult : l.instanceResult = .success
  · rw [if_pos hresult, if_pos hresult]
    rfl
  · rw [if_neg hresult, if_neg hresult]
    rfl

namespace Graphics

variable {g : Graphics} {drawable : Drawable}

/-- A backend that begins with an instance of its own has made that, and nothing else. -/
theorem run_create_ok {name : String} {platform : Platform} {l : Loader}
    (hg : ((create name platform).run l).answer = .ok g) :
    g.ownsInstance = true ∧ ∃ application extensions,
      ((create name platform).run l).journal.filterMap Note.vulkan? =
        [.createInstance (some application) extensions (some g.onInstance)] := by
  unfold create at hg ⊢
  cases hname : nulPosition? name with
  | some place =>
    simp only [hname] at hg
    cases hg
  | none =>
    cases hextensions : extensions? platform with
    | none =>
      simp only [hname, hextensions] at hg
      cases hg
    | some extensions =>
      simp only [hname, hextensions, Step.run_bind, Loader.run_createInstance] at hg ⊢
      by_cases hresult : l.instanceResult = .success
      · rw [if_pos hresult] at hg ⊢
        cases hg
        exact ⟨rfl, _, extensions, rfl⟩
      · rw [if_neg hresult] at hg
        cases hg

theorem run_release (g : Graphics) (surface : Surface) :
    (GraphicsBackend.release surface).run g =
      ⟨(), g, [.vulkan (.destroySurface g.onInstance surface.number)]⟩ := rfl

/-- Only an instance of its own goes with the backend. -/
theorem journal_close (g : Graphics) :
    ((GraphicsBackend.close (G := Graphics)).run g).journal =
      if g.ownsInstance then [.vulkan (.destroyInstance g.onInstance)] else [] := by
  show (close.run g).journal = _
  unfold close
  rw [Step.run_bind, Step.run_get]
  cases g.ownsInstance <;> rfl

/-- The surface of a platform's drawable is made as the loader makes it. -/
theorem run_wrap_platform {platform : Platform} {kind : SurfaceKind}
    (hkind : surfaceKind? platform = some kind) (window display : UInt64) (g : Graphics) :
    (GraphicsBackend.wrap (.platform platform window display)).run g =
      if g.loader.surfaceResult = .success then
        ⟨.ok ⟨g.loader.surfaces + 1⟩,
         { g with loader := { g.loader with surfaces := g.loader.surfaces + 1 } },
         [.vulkan (.createSurface kind g.onInstance window.toUInt32
           (some (g.loader.surfaces + 1)))]⟩
      else
        ⟨refused g.loader.surfaceResult, g,
         [.vulkan (.createSurface kind g.onInstance window.toUInt32 none)]⟩ := by
  show (wrap (.platform platform window display)).run g = _
  simp only [wrap, hkind, onLoader, Step.run_bind, Step.run_get, Step.run_within,
    Loader.run_createSurface]
  by_cases hresult : g.loader.surfaceResult = .success
  · rw [if_pos hresult, if_pos hresult]
    rfl
  · rw [if_neg hresult, if_neg hresult]
    rfl

/-- A drawable that is not one of a platform whose surfaces the loader makes is refused without
asking the loader. -/
theorem run_wrap_unasked
    (hdrawable : ∀ platform window display, drawable = .platform platform window display →
      surfaceKind? platform = none) (g : Graphics) :
    ∃ e, (GraphicsBackend.wrap drawable).run g = ⟨.error e, g, []⟩ := by
  cases drawable with
  | offscreen number => exact ⟨_, rfl⟩
  | platform platform window display =>
    refine ⟨.surfaceCreation ("Failed to create surface: " ++ ResultCode.extensionNotPresent.text),
      ?_⟩
    show (wrap (.platform platform window display)).run g = _
    simp only [wrap, hdrawable platform window display rfl]
    rfl

/-- Either the loader is asked for a surface or it is not. -/
theorem exists_surfaceKind?_or (drawable : Drawable) :
    (∃ platform window display kind, drawable = .platform platform window display ∧
      surfaceKind? platform = some kind) ∨
    ∀ platform window display, drawable = .platform platform window display →
      surfaceKind? platform = none := by
  cases drawable with
  | offscreen number => exact Or.inr fun _ _ _ heq => by cases heq
  | platform platform window display =>
    cases hkind : surfaceKind? platform with
    | none =>
      refine Or.inr fun _ _ _ heq => ?_
      cases heq
      exact hkind
    | some kind => exact Or.inl ⟨platform, window, display, kind, rfl, hkind⟩

/-- A backend that refuses to make a surface stays as it is. The loader was not called, or refused
itself. -/
theorem run_wrap_error {e : BackendError}
    (he : ((GraphicsBackend.wrap drawable).run g).answer = .error e) :
    ((GraphicsBackend.wrap drawable).run g).state = g ∧
      (((GraphicsBackend.wrap drawable).run g).journal = [] ∨
        ∃ kind window, ((GraphicsBackend.wrap drawable).run g).journal =
          [.vulkan (.createSurface kind g.onInstance window none)]) := by
  rcases exists_surfaceKind?_or drawable with
    ⟨platform, window, display, kind, rfl, hkind⟩ | hnone
  · rw [run_wrap_platform hkind] at he ⊢
    by_cases hresult : g.loader.surfaceResult = .success
    · rw [if_pos hresult] at he
      cases he
    · rw [if_neg hresult]
      exact ⟨rfl, Or.inr ⟨kind, _, rfl⟩⟩
  · obtain ⟨cause, hrun⟩ := run_wrap_unasked hnone g
    rw [hrun]
    exact ⟨rfl, Or.inl rfl⟩

/-- A surface is made of the drawable of a platform, by the loader, with the next number. -/
theorem run_wrap_ok {value : Surface}
    (hvalue : ((GraphicsBackend.wrap drawable).run g).answer = .ok value) :
    value = ⟨g.loader.surfaces + 1⟩ ∧
      ((GraphicsBackend.wrap drawable).run g).state =
        { g with loader := { g.loader with surfaces := g.loader.surfaces + 1 } } ∧
      ∃ platform window display kind, drawable = .platform platform window display ∧
        ((GraphicsBackend.wrap drawable).run g).journal =
          [.vulkan (.createSurface kind g.onInstance window.toUInt32
            (some (g.loader.surfaces + 1)))] := by
  rcases exists_surfaceKind?_or drawable with
    ⟨platform, window, display, kind, rfl, hkind⟩ | hnone
  · rw [run_wrap_platform hkind] at hvalue ⊢
    by_cases hresult : g.loader.surfaceResult = .success
    · rw [if_pos hresult] at hvalue ⊢
      cases hvalue
      exact ⟨rfl, rfl, platform, window, display, kind, rfl, rfl⟩
    · rw [if_neg hresult] at hvalue
      cases hvalue
  · obtain ⟨cause, hrun⟩ := run_wrap_unasked hnone g
    rw [hrun] at hvalue
    cases hvalue

/-- The surface of the loader, after its instance, that has a number in the bridge. -/
def surfaceAt (g : Graphics) (n : Nat) : Nat × Nat := (g.onInstance, g.loader.surfaces + n + 1)

theorem surfaceAt_injective (g : Graphics) : Function.Injective g.surfaceAt := by
  intro n m h
  have hnumber : g.loader.surfaces + n + 1 = g.loader.surfaces + m + 1 := congrArg Prod.snd h
  omega

end Graphics

/-! ## Surfaces in step with the bridge -/

variable {g : Graphics} {b b' : Books Graphics Surface} {journal more past : List Entry}

/-- A bridge that began with the backend `g` and the loader are in step: they number surfaces in the
same order. -/
structure Numbered (g : Graphics) (b : Books Graphics Surface) : Prop where
  onInstance : b.graphics.onInstance = g.onInstance
  ownsInstance : b.graphics.ownsInstance = g.ownsInstance
  surfaces : b.graphics.loader.surfaces = g.loader.surfaces + b.surfacesMade
  bound : ∀ h surface, (b.registry.handle h).surface? = some surface →
    surface.number < b.surfacesMade ∧
      (g.onInstance, surface.value.number) = g.surfaceAt surface.number

theorem Numbered.episode (h : Episode b journal b') (hb : Numbered g b) : Numbered g b' := by
  cases h with
  | quiet hjournal hr =>
    refine ⟨hb.onInstance, hb.ownsInstance, hb.surfaces, fun o surface ho => ?_⟩
    exact hb.bound o surface (by rw [← hr]; exact ho)
  | refused he =>
    rw [(Graphics.run_wrap_error he).1]
    exact hb
  | @made h id kept hh drawable value hvalue =>
    obtain ⟨hnumber, hstate, -⟩ := Graphics.run_wrap_ok hvalue
    rw [hstate]
    refine ⟨hb.onInstance, hb.ownsInstance, ?_, fun o surface ho => ?_⟩
    · show b.graphics.loader.surfaces + 1 = g.loader.surfaces + (b.surfacesMade + 1)
      rw [hb.surfaces]
      rfl
    · by_cases hoh : o = h
      · have hlt : h < b.registry.handles.length := b.registry.lt_length_of_ne (by rw [hh]; simp)
        rw [hoh, b.registry.handle_setHandle_self hlt] at ho
        rw [← Option.some.inj ho, hnumber]
        refine ⟨Nat.lt_succ_self _, ?_⟩
        rw [Graphics.surfaceAt, hb.surfaces]
      · rw [b.registry.handle_setHandle_of_ne hoh] at ho
        obtain ⟨hlt, heq⟩ := hb.bound o surface ho
        exact ⟨Nat.lt_succ_of_lt hlt, heq⟩
  | @released h surface hsurface =>
    refine ⟨hb.onInstance, hb.ownsInstance, hb.surfaces, fun o other ho => ?_⟩
    by_cases hoh : o = h
    · have hlt : h < b.registry.handles.length := by
        refine b.registry.lt_length_of_ne fun hd => ?_
        rw [hd] at hsurface
        cases hsurface
      rw [hoh, b.registry.handle_setHandle_self hlt, Handle.surface?_withoutSurface] at ho
      cases ho
    · rw [b.registry.handle_setHandle_of_ne hoh] at ho
      exact hb.bound o other ho

/-! ## The account of surfaces -/

/-- The loader's surfaces are those of the bridge after some journal: what was made and what was
released. -/
structure Account (g : Graphics) (b : Books Graphics Surface) (journal : List Entry) : Prop where
  numbered : Numbered g b
  created_eq : created (loaderCalls journal) = (List.range b.surfacesMade).map g.surfaceAt
  destroyed_eq :
    destroyed (loaderCalls journal) = (released (Entry.calls journal)).map g.surfaceAt
  createdFirst : CreatedFirst (loaderCalls journal)
  /-- The loader is called for nothing else. -/
  isOn : ∀ c ∈ loaderCalls journal, c.IsOn g.onInstance

theorem account_start (g : Graphics) : Account g { graphics := g } [] where
  numbered := ⟨rfl, rfl, rfl, fun h surface hh => by simp [Registry.handle, Handle.surface?] at hh⟩
  created_eq := rfl
  destroyed_eq := rfl
  createdFirst before on made rest heq := by simp [loaderCalls] at heq
  isOn _ hc := absurd hc List.not_mem_nil

/-- More calls keep the account in order if they make the next surfaces and destroy those that the
bridge releases, of which all were made before. -/
theorem Account.extend (ha : Account g b past) (hnumbered : Numbered g b') {calls : List Call}
    (hcalls : loaderCalls more = calls)
    (hcreated : (List.range b.surfacesMade).map g.surfaceAt ++ created calls =
      (List.range b'.surfacesMade).map g.surfaceAt)
    (hdestroyed : destroyed calls = (released (Entry.calls more)).map g.surfaceAt)
    (hbefore : destroyed calls ⊆ (List.range b.surfacesMade).map g.surfaceAt)
    (hon : ∀ c ∈ calls, c.IsOn g.onInstance) : Account g b' (past ++ more) where
  numbered := hnumbered
  created_eq := by rw [loaderCalls_append, hcalls, created_append, ha.created_eq, hcreated]
  destroyed_eq := by
    rw [loaderCalls_append, hcalls, destroyed_append, ha.destroyed_eq, hdestroyed,
      Entry.calls_append, released_append, List.map_append]
  createdFirst := by
    rw [loaderCalls_append, hcalls]
    exact ha.createdFirst.append (ha.created_eq ▸ hbefore)
  isOn c hc := by
    rw [loaderCalls_append, hcalls, List.mem_append] at hc
    exact hc.elim (ha.isOn c) (hon c)

/-- So does a call to the graphics backend with what it wrote. -/
theorem Account.graphicsCall (ha : Account g b past) (hnumbered : Numbered g b')
    {notes : List Note} {c : WindowSystem.Call} {calls : List Call}
    (hnotes : notes.filterMap Note.vulkan? = calls)
    (hcreated : (List.range b.surfacesMade).map g.surfaceAt ++ created calls =
      (List.range b'.surfacesMade).map g.surfaceAt)
    (hdestroyed : destroyed calls = (released [c]).map g.surfaceAt)
    (hbefore : destroyed calls ⊆ (List.range b.surfacesMade).map g.surfaceAt)
    (hon : ∀ c ∈ calls, c.IsOn g.onInstance) :
    Account g b' (past ++ Entry.graphicsCall notes c) :=
  ha.extend hnumbered (by rw [loaderCalls_graphicsCall, hnotes]) hcreated
    (by rw [Entry.calls_graphicsCall, hdestroyed]) hbefore hon

theorem released_quiet (h : Entry.Quiet journal) : released (Entry.calls journal) = [] :=
  List.eq_nil_iff_forall_not_mem.mpr fun _ hn => h.calls _ (mem_released.mp hn) trivial

theorem Account.episode (h : Episode b journal b') (ha : Account g b past) :
    Account g b' (past ++ journal) := by
  have hnumbered := ha.numbered.episode h
  cases h with
  | quiet hjournal hr =>
    refine ha.extend hnumbered (loaderCalls_quiet hjournal) (List.append_nil _) ?_
      (List.nil_subset _) fun c hc => absurd hc List.not_mem_nil
    rw [released_quiet hjournal]
    rfl
  | refused he =>
    rcases (Graphics.run_wrap_error he).2 with hnotes | ⟨kind, window, hnotes⟩
    · rw [hnotes]
      exact ha.graphicsCall hnumbered rfl (List.append_nil _) rfl (List.nil_subset _)
        fun c hc => absurd hc List.not_mem_nil
    · rw [hnotes]
      refine ha.graphicsCall hnumbered rfl (List.append_nil _) rfl (List.nil_subset _)
        fun c hc => ?_
      rw [List.mem_singleton.mp hc]
      exact ha.numbered.onInstance
  | made hh hvalue =>
    obtain ⟨-, -, platform, window, display, kind, -, hnotes⟩ := Graphics.run_wrap_ok hvalue
    rw [hnotes]
    refine ha.graphicsCall hnumbered rfl ?_ rfl (List.nil_subset _) fun c hc => ?_
    · rw [List.range_succ, List.map_append, List.map_singleton, Graphics.surfaceAt,
        ← ha.numbered.surfaces, ← ha.numbered.onInstance]
      rfl
    · rw [List.mem_singleton.mp hc]
      exact ha.numbered.onInstance
  | @released h surface hsurface =>
    obtain ⟨hlt, hvalue⟩ := ha.numbered.bound h surface hsurface
    rw [Graphics.run_release, ha.numbered.onInstance]
    refine ha.graphicsCall hnumbered rfl (List.append_nil _) ?_ ?_ fun c hc => ?_
    · exact congrArg (fun s => [s]) hvalue
    · intro s hs
      rw [List.mem_singleton.mp hs, hvalue]
      exact List.mem_map_of_mem (List.mem_range.mpr hlt)
    · rw [List.mem_singleton.mp hc]
      rfl

theorem Account.episodes (h : Episodes b journal b') (ha : Account g b past) :
    Account g b' (past ++ journal) := by
  induction h generalizing past with
  | nil => rwa [List.append_nil]
  | cons first _ ih =>
    rw [← List.append_assoc]
    exact ih (ha.episode first)

/-! ## What the journal says of the loader -/

/-- A journal tells of the loader what was so. -/
structure Truthful (g : Graphics) (journal : List Entry) : Prop where
  /-- When the bridge has released a surface, the loader has destroyed it. -/
  destroyed : ∀ before n rest, journal = before ++ .call (.release n) :: rest →
    g.surfaceAt n ∈ destroyed (loaderCalls before)
  /-- Surfaces are made of the drawables of platforms only. -/
  platform : ∀ number n, Call.wrap (.offscreen number) (.ok n) ∉ Entry.calls journal

theorem Truthful.append (h : Truthful g journal) (hmore : Truthful g more) :
    Truthful g (journal ++ more) where
  destroyed before n rest heq := by
    rcases append_eq_split heq with ⟨tail, hjournal⟩ | ⟨mid, hbefore, hmid⟩
    · exact h.destroyed before n tail hjournal
    · rw [hbefore, loaderCalls_append, destroyed_append]
      exact List.mem_append_right _ (hmore.destroyed mid n rest hmid)
  platform number n hmem := by
    rw [Entry.calls_append, List.mem_append] at hmem
    exact hmem.elim (h.platform number n) (hmore.platform number n)

/-- A surface that is released before a window is destroyed is destroyed before it by the loader. -/
theorem Truthful.destroyed_before (h : Truthful g journal) {n : Nat} {id : WindowId}
    (hreleased : ReleasedFirst n id (Entry.calls journal)) {before rest : List Entry}
    (heq : journal = before ++ .call (.destroy id) :: rest) :
    g.surfaceAt n ∈ Vulkan.destroyed (loaderCalls before) := by
  have hmem : n ∈ released (Entry.calls before) :=
    hreleased _ (Entry.calls rest) (by rw [heq, Entry.calls_append, Entry.calls_cons_call])
  obtain ⟨entry, hentry, hcall⟩ := List.mem_filterMap.mp (mem_released.mp hmem)
  cases entry with
  | note author note => cases hcall
  | call c =>
    cases hcall
    obtain ⟨first, last, rfl⟩ := List.append_of_mem hentry
    rw [loaderCalls_append, destroyed_append]
    refine List.mem_append_left _ (h.destroyed first n (last ++ .call (.destroy id) :: rest) ?_)
    rw [heq, List.append_assoc, List.cons_append]

theorem truthful_quiet (h : Entry.Quiet journal) : Truthful g journal where
  destroyed before n rest heq := by
    have hmem : Call.release n ∈ Entry.calls journal := by
      rw [heq, Entry.calls_append]
      exact List.mem_append_right _ List.mem_cons_self
    exact absurd trivial (h.calls _ hmem)
  platform number n hmem := h.calls _ hmem trivial

/-- A call to the graphics backend, after what the backend wrote. -/
theorem truthful_graphicsCall {notes : List Note} {c : WindowSystem.Call}
    (hreleased : ∀ n, c = .release n →
      g.surfaceAt n ∈ Vulkan.destroyed (notes.filterMap Note.vulkan?))
    (hwrapped : ∀ number n, c ≠ .wrap (.offscreen number) (.ok n)) :
    Truthful g (Entry.graphicsCall notes c) where
  destroyed before n rest heq := by
    rcases append_eq_split heq with ⟨tail, hnotes⟩ | ⟨mid, hbefore, hmid⟩
    · -- the call does not stand among the notes
      have hmem : Entry.call (.release n) ∈ notes.map (Entry.note .graphics) := by
        rw [hnotes]
        exact List.mem_append_right _ List.mem_cons_self
      obtain ⟨note, -, hnote⟩ := List.mem_map.mp hmem
      cases hnote
    · obtain ⟨rfl, hcall⟩ := (List.append_eq_singleton_iff.mp hmid.symm).resolve_right (by simp)
      rw [hbefore, List.append_nil, loaderCalls, Entry.notesBy_map_note]
      exact hreleased n (Entry.call.inj (List.cons.inj hcall).1).symm
  platform number n hmem := by
    rw [Entry.calls_graphicsCall] at hmem
    exact hwrapped number n (List.mem_singleton.mp hmem).symm

theorem Numbered.truthful_episode (h : Episode b journal b') (hb : Numbered g b) :
    Truthful g journal := by
  cases h with
  | quiet hjournal hr => exact truthful_quiet hjournal
  | refused he => exact truthful_graphicsCall (by simp) (by simp)
  | made hh hvalue =>
    obtain ⟨-, -, platform, window, display, kind, rfl, -⟩ := Graphics.run_wrap_ok hvalue
    exact truthful_graphicsCall (by simp) (by simp)
  | @released h surface hsurface =>
    obtain ⟨-, hvalue⟩ := hb.bound h surface hsurface
    rw [Graphics.run_release, hb.onInstance]
    refine truthful_graphicsCall (fun n hn => ?_) (by simp)
    rw [← WindowSystem.Call.release.inj hn, ← hvalue]
    exact List.mem_singleton_self _

theorem Numbered.truthful (h : Episodes b journal b') (hb : Numbered g b) :
    Truthful g journal := by
  induction h with
  | nil => exact truthful_quiet Entry.quiet_nil
  | cons first _ ih => exact (hb.truthful_episode first).append (ih (hb.episode first))

end Vulkan

end WindowSystem
