/-
# Surfaces over a whole history

Every surface that the graphics backend makes is bound to one live handle until it is released.
The ledger (`Ledger`) says so of the calls made so far and the handles reached: a surface that was
made and not released is bound to exactly one handle, none is released twice, and none before it
was made. A surface is released before its window is destroyed (`ReleasedFirst`), and at the end of
a session none is left.
-/
import Mathlib.Data.List.Perm.Basic
import WindowSystem.Proofs.Bridge.Handles

namespace WindowSystem

/-! ## Surfaces made and released -/

/-- The surface that a call made, if it made one. -/
def Call.wrapped? : Call → Option Nat
  | .wrap _ (.ok n) => some n
  | _ => none

/-- The surface that a call released, if it released one. -/
def Call.released? : Call → Option Nat
  | .release n => some n
  | _ => none

/-- The surfaces made, in order. -/
def wrapped (calls : List Call) : List Nat := calls.filterMap Call.wrapped?

/-- The surfaces released, in order. -/
def released (calls : List Call) : List Nat := calls.filterMap Call.released?

@[simp]
theorem wrapped_append (a b : List Call) : wrapped (a ++ b) = wrapped a ++ wrapped b :=
  List.filterMap_append

@[simp]
theorem released_append (a b : List Call) : released (a ++ b) = released a ++ released b :=
  List.filterMap_append

@[simp]
theorem wrapped_releaseCalls {S : Type} (h : Handle S) : wrapped h.releaseCalls = [] := by
  rcases h with ⟨id, drawable, _ | surface⟩ | _ <;> rfl

/-- The surfaces in a list of calls are released after they were made. -/
def WrappedFirst (calls : List Call) : Prop :=
  ∀ before n rest, calls = before ++ .release n :: rest → n ∈ wrapped before

/-- A surface is released before a native window is destroyed. -/
def ReleasedFirst (n : Nat) (id : WindowId) (calls : List Call) : Prop :=
  ∀ before rest, calls = before ++ .destroy id :: rest → n ∈ released before

theorem mem_released {calls : List Call} {n : Nat} :
    n ∈ released calls ↔ Call.release n ∈ calls := by
  rw [released, List.mem_filterMap]
  constructor
  · rintro ⟨c, hc, hn⟩
    cases c with
    | release m => rwa [← Option.some.inj hn]
    | _ => cases hn
  · intro hc
    exact ⟨_, hc, rfl⟩

/-- What is released was made before. -/
theorem WrappedFirst.released_subset {calls : List Call} (h : WrappedFirst calls) :
    released calls ⊆ wrapped calls := by
  intro n hn
  obtain ⟨before, rest, hcalls⟩ := List.append_of_mem (mem_released.mp hn)
  have hbefore := h before n rest hcalls
  rw [hcalls, wrapped_append]
  exact List.mem_append_left _ hbefore

/-- A place in two lists together is in the first, or in the second. -/
theorem append_eq_split {α : Type} {first second before rest : List α} {a : α}
    (h : first ++ second = before ++ a :: rest) :
    (∃ tail, first = before ++ a :: tail) ∨
      ∃ mid, before = first ++ mid ∧ second = mid ++ a :: rest := by
  rcases List.append_eq_append_iff.mp h with hsecond | ⟨mid, hfirst, hmid⟩
  · exact Or.inr hsecond
  · cases mid with
    | nil =>
      rw [List.append_nil] at hfirst
      exact Or.inr ⟨[], by rw [hfirst, List.append_nil], hmid.symm⟩
    | cons c tail =>
      rw [List.cons_append, List.cons.injEq] at hmid
      rw [hmid.1]
      exact Or.inl ⟨tail, hfirst⟩

/-- More calls release only what the first ones made. -/
theorem WrappedFirst.append {calls more : List Call} (h : WrappedFirst calls)
    (hmore : released more ⊆ wrapped calls) : WrappedFirst (calls ++ more) := by
  intro before n rest heq
  rcases append_eq_split heq with ⟨tail, hcalls⟩ | ⟨mid, hbefore, hmid⟩
  · exact h before n tail hcalls
  · have hn : n ∈ released more := by
      rw [hmid, mem_released]
      exact List.mem_append_right _ List.mem_cons_self
    rw [hbefore, wrapped_append]
    exact List.mem_append_left _ (hmore hn)

/-- A surface is released, and its window was not destroyed before. -/
theorem releasedFirst_of_release {n : Nat} {id : WindowId} {calls more : List Call}
    (hcalls : Call.destroy id ∉ calls) : ReleasedFirst n id (calls ++ .release n :: more) := by
  intro before rest heq
  rcases append_eq_split heq with ⟨tail, hsplit⟩ | ⟨mid, hbefore, hmid⟩
  · rw [hsplit] at hcalls
    exact absurd (List.mem_append_right _ List.mem_cons_self) hcalls
  · cases mid with
    | nil => cases hmid
    | cons c tail =>
      rw [List.cons_append, List.cons.injEq] at hmid
      rw [hbefore, ← hmid.1, mem_released]
      exact List.mem_append_right _ List.mem_cons_self

/-! ## Surfaces bound to handles -/

namespace Registry

variable {S : Type} (r : Registry S)

/-- A surface is bound to a handle. -/
def Binds (h : HandleRef) (n : Nat) : Prop :=
  (r.handle h).surface?.map BoundSurface.number = some n

/-- A live handle holds an identifier, and a surface is bound to it. -/
structure Holds (h : HandleRef) (id : WindowId) (n : Nat) : Prop where
  id? : (r.handle h).id? = some id
  binds : r.Binds h n

variable {r}

/-- The surface that is bound. -/
theorem Binds.surface? {h : HandleRef} {n : Nat} (hb : r.Binds h n) :
    ∃ surface, (r.handle h).surface? = some surface ∧ surface.number = n :=
  Option.map_eq_some_iff.mp hb

/-- A handle with a surface is live. -/
theorem Binds.holds {h : HandleRef} {n : Nat} (hb : r.Binds h n) : ∃ id, r.Holds h id n := by
  rcases hh : r.handle h with ⟨id, drawable, surface⟩ | _
  · exact ⟨id, by rw [hh, Handle.id?], hb⟩
  · rw [Binds, hh] at hb
    cases hb

/-- A handle that holds an identifier and a surface is live with both. -/
theorem Holds.handle_eq {h : HandleRef} {id : WindowId} {n : Nat} (hholds : r.Holds h id n) :
    ∃ drawable surface, r.handle h = .live id drawable (some surface) ∧ surface.number = n := by
  obtain ⟨surface, hsurface, hnumber⟩ := hholds.binds.surface?
  have hid := hholds.id?
  rcases hh : r.handle h with ⟨own, drawable, bound⟩ | _
  · rw [hh] at hid hsurface
    cases hid
    cases hsurface
    exact ⟨drawable, surface, rfl, hnumber⟩
  · rw [hh] at hid
    cases hid

theorem binds_congr {r' : Registry S} {h : HandleRef} (hh : r'.handle h = r.handle h) (n : Nat) :
    r'.Binds h n ↔ r.Binds h n := by
  rw [Binds, Binds, hh]

theorem Holds.congr {r' : Registry S} {h : HandleRef} {id : WindowId} {n : Nat}
    (hholds : r.Holds h id n) (hh : r'.handle h = r.handle h) : r'.Holds h id n :=
  ⟨by rw [hh, hholds.id?], (binds_congr hh n).mpr hholds.binds⟩

theorem Binds.lt_length {h : HandleRef} {n : Nat} (hb : r.Binds h n) : h < r.handles.length := by
  obtain ⟨id, hholds⟩ := hb.holds
  exact r.lt_length_of_id? hholds.id?

/-- A new handle has no surface, as little as one that was not made. -/
theorem surface?_insert (id : WindowId) (h : HandleRef) :
    ((r.insert id).2.handle h).surface? = (r.handle h).surface? := by
  by_cases hh : h = r.handles.length
  · rw [hh, handle_insert_self, r.handle_of_length_le (Nat.le_refl _)]
    rfl
  · rw [r.handle_insert_of_ne id hh]

/-- Changing a handle without touching its surface leaves all surfaces alone. -/
theorem surface?_setHandle {o : HandleRef} {state : Handle S}
    (hstate : state.surface? = (r.handle o).surface?) (h : HandleRef) :
    ((r.setHandle o state).handle h).surface? = (r.handle h).surface? := by
  by_cases hh : h = o
  · rw [hh]
    by_cases hlt : o < r.handles.length
    · rw [r.handle_setHandle_self hlt, hstate]
    · -- a handle that was not made stays unmade
      have hlen := Nat.not_lt.mp hlt
      rw [r.handle_of_length_le hlen,
        (r.setHandle o state).handle_of_length_le (by rwa [length_setHandle])]
  · rw [r.handle_setHandle_of_ne hh]

theorem binds_insert (id : WindowId) (h : HandleRef) (n : Nat) :
    (r.insert id).2.Binds h n ↔ r.Binds h n := by
  rw [Binds, Binds, surface?_insert]

theorem binds_tombstone (o h : HandleRef) (n : Nat) :
    (r.tombstone o).Binds h n ↔ h ≠ o ∧ r.Binds h n := by
  by_cases hh : h = o
  · rw [hh, Binds, handle_tombstone_self]
    simp [Handle.surface?]
  · rw [binds_congr (r.handle_tombstone_of_ne hh) n]
    simp [hh]

theorem binds_setHandle {o : HandleRef} {state : Handle S}
    (hstate : state.surface? = (r.handle o).surface?) (h : HandleRef) (n : Nat) :
    (r.setHandle o state).Binds h n ↔ r.Binds h n := by
  rw [Binds, Binds, surface?_setHandle hstate]

/-- Binding a surface to a handle without one adds one binding. -/
theorem binds_setHandle_bound {o : HandleRef} {id : WindowId} {kept drawable : Option Drawable}
    (ho : r.handle o = .live id kept none) (m : Nat) (value : S) (h : HandleRef) (n : Nat) :
    (r.setHandle o (.live id drawable (some ⟨m, value⟩))).Binds h n ↔
      (h = o ∧ n = m) ∨ r.Binds h n := by
  by_cases hh : h = o
  · have hlt : o < r.handles.length := r.lt_length_of_ne (by rw [ho]; simp)
    rw [hh, Binds, Binds, r.handle_setHandle_self hlt, ho]
    simp [Handle.surface?, eq_comm]
  · rw [binds_congr (r.handle_setHandle_of_ne hh _) n]
    simp [hh]

/-- What is released with a handle is what is bound to it. -/
theorem mem_released_releaseCalls {h : HandleRef} {n : Nat} :
    n ∈ released (r.handle h).releaseCalls ↔ r.Binds h n := by
  rw [mem_released, Handle.releaseCalls, Binds]
  cases (r.handle h).surface? with
  | none => simp
  | some surface => simp [eq_comm]

theorem nodup_released_releaseCalls (h : Handle S) : (released h.releaseCalls).Nodup := by
  rcases h with ⟨id, drawable, _ | surface⟩ | _
  · exact List.nodup_nil
  · exact List.nodup_singleton surface.number
  · exact List.nodup_nil

end Registry

/-! ## The ledger -/

section Ledger

variable {G S : Type} {b b' : Books G S} {calls more : List Call}

/-- The books are in order after some calls. -/
structure Ledger (b : Books G S) (calls : List Call) : Prop where
  sound : b.registry.Sound
  /-- Surfaces are numbered in the order of making. -/
  wrapped_eq : wrapped calls = List.range b.surfacesMade
  /-- No surface is released twice. -/
  nodup_released : (released calls).Nodup
  /-- A surface is released after it was made. -/
  wrappedFirst : WrappedFirst calls
  /-- A surface is bound as long as it was made and not released. -/
  bound_iff : ∀ n, (∃ h, b.registry.Binds h n) ↔ n < b.surfacesMade ∧ n ∉ released calls
  /-- A surface is bound to one handle. -/
  single : ∀ n h other, b.registry.Binds h n → b.registry.Binds other n → h = other

theorem ledger_empty (graphics : G) : Ledger ({ graphics } : Books G S) [] where
  sound := Registry.sound_empty
  wrapped_eq := rfl
  nodup_released := List.nodup_nil
  wrappedFirst before n rest heq := by simp at heq
  bound_iff n := by simp [Registry.Binds, Registry.handle, Handle.surface?]
  single n h other hh := by simp [Registry.Binds, Registry.handle, Handle.surface?] at hh

namespace Ledger

/-- What is bound was made. -/
theorem lt_of_binds (hb : Ledger b calls) {h : HandleRef} {n : Nat}
    (hn : b.registry.Binds h n) : n < b.surfacesMade :=
  ((hb.bound_iff n).mp ⟨h, hn⟩).1

/-- What is bound was not released. -/
theorem not_mem_of_binds (hb : Ledger b calls) {h : HandleRef} {n : Nat}
    (hn : b.registry.Binds h n) : n ∉ released calls :=
  ((hb.bound_iff n).mp ⟨h, hn⟩).2

theorem mem_wrapped (hb : Ledger b calls) {n : Nat} : n ∈ wrapped calls ↔ n < b.surfacesMade := by
  rw [hb.wrapped_eq, List.mem_range]

/-- Calls that concern no surface leave the books in order. -/
theorem quiet (hb : Ledger b calls) (hsound : b'.registry.Sound)
    (hmade : b'.surfacesMade = b.surfacesMade)
    (hbinds : ∀ h n, b'.registry.Binds h n ↔ b.registry.Binds h n)
    (hwrapped : wrapped more = []) (hreleased : released more = []) :
    Ledger b' (calls ++ more) where
  sound := hsound
  wrapped_eq := by rw [wrapped_append, hwrapped, List.append_nil, hmade, hb.wrapped_eq]
  nodup_released := by
    rw [released_append, hreleased, List.append_nil]
    exact hb.nodup_released
  wrappedFirst := hb.wrappedFirst.append (by rw [hreleased]; exact List.nil_subset _)
  bound_iff n := by
    rw [released_append, hreleased, List.append_nil, hmade, ← hb.bound_iff]
    exact exists_congr fun h => hbinds h n
  single n h other hh ho := hb.single n h other ((hbinds h n).mp hh) ((hbinds other n).mp ho)

/-- A handle goes, and its surface is released with it. -/
theorem release (hb : Ledger b calls) (hsound : b'.registry.Sound)
    (hmade : b'.surfacesMade = b.surfacesMade) {o : HandleRef}
    (hbinds : ∀ h n, b'.registry.Binds h n ↔ h ≠ o ∧ b.registry.Binds h n)
    (hwrapped : wrapped more = [])
    (hreleased : released more = released (b.registry.handle o).releaseCalls) :
    Ledger b' (calls ++ more) := by
  have hmem : ∀ n, n ∈ released more ↔ b.registry.Binds o n := fun n => by
    rw [hreleased, Registry.mem_released_releaseCalls]
  -- what is bound to the handle was not released before and is bound nowhere else
  refine ⟨hsound, ?_, ?_, ?_, fun n => ?_, fun n h other hh ho => ?_⟩
  · rw [wrapped_append, hwrapped, List.append_nil, hmade, hb.wrapped_eq]
  · rw [released_append]
    refine hb.nodup_released.append ?_ fun n hn hn' => ?_
    · rw [hreleased]
      exact Registry.nodup_released_releaseCalls _
    · exact hb.not_mem_of_binds ((hmem n).mp hn') hn
  · refine hb.wrappedFirst.append fun n hn => ?_
    rw [hb.mem_wrapped]
    exact hb.lt_of_binds ((hmem n).mp hn)
  · rw [released_append, List.mem_append, hmem, hmade]
    constructor
    · rintro ⟨h, hn⟩
      obtain ⟨hne, hbound⟩ := (hbinds h n).mp hn
      refine ⟨hb.lt_of_binds hbound, ?_⟩
      rintro (hold | ho)
      · exact hb.not_mem_of_binds hbound hold
      · exact hne (hb.single n h o hbound ho)
    · rintro ⟨hlt, hnot⟩
      rw [not_or] at hnot
      obtain ⟨h, hbound⟩ := (hb.bound_iff n).mpr ⟨hlt, hnot.1⟩
      refine ⟨h, (hbinds h n).mpr ⟨?_, hbound⟩⟩
      rintro rfl
      exact hnot.2 hbound
  · exact hb.single n h other ((hbinds h n).mp hh).2 ((hbinds other n).mp ho).2

/-- A surface is made and bound to a handle. -/
theorem wrap (hb : Ledger b calls) (hsound : b'.registry.Sound)
    (hmade : b'.surfacesMade = b.surfacesMade + 1) {o : HandleRef}
    (hbinds : ∀ h n, b'.registry.Binds h n ↔
      (h = o ∧ n = b.surfacesMade) ∨ b.registry.Binds h n)
    (drawable : Drawable) : Ledger b' (calls ++ [.wrap drawable (.ok b.surfacesMade)]) := by
  have hwrapped : wrapped [.wrap drawable (.ok b.surfacesMade)] = [b.surfacesMade] := rfl
  have hreleased : released [.wrap drawable (.ok b.surfacesMade)] = [] := rfl
  -- the number of the new surface is that of no other
  have hnew : ∀ h, ¬ b.registry.Binds h b.surfacesMade := fun h hn =>
    absurd (hb.lt_of_binds hn) (Nat.lt_irrefl _)
  refine ⟨hsound, ?_, ?_, ?_, fun n => ?_, fun n h other hh ho => ?_⟩
  · rw [wrapped_append, hwrapped, hb.wrapped_eq, hmade, List.range_succ]
  · rw [released_append, hreleased, List.append_nil]
    exact hb.nodup_released
  · exact hb.wrappedFirst.append (by rw [hreleased]; exact List.nil_subset _)
  · rw [released_append, hreleased, List.append_nil, hmade]
    constructor
    · rintro ⟨h, hn⟩
      rcases (hbinds h n).mp hn with ⟨-, rfl⟩ | hold
      · refine ⟨Nat.lt_succ_self _, fun hmem => ?_⟩
        have hlt := hb.mem_wrapped.mp (hb.wrappedFirst.released_subset hmem)
        exact Nat.lt_irrefl _ hlt
      · exact ⟨Nat.lt_succ_of_lt (hb.lt_of_binds hold), hb.not_mem_of_binds hold⟩
    · rintro ⟨hlt, hnot⟩
      rcases Nat.lt_succ_iff_lt_or_eq.mp hlt with hold | rfl
      · obtain ⟨h, hbound⟩ := (hb.bound_iff n).mpr ⟨hold, hnot⟩
        exact ⟨h, (hbinds h n).mpr (Or.inr hbound)⟩
      · exact ⟨o, (hbinds o _).mpr (Or.inl ⟨rfl, rfl⟩)⟩
  · rcases (hbinds h n).mp hh with ⟨rfl, rfl⟩ | hold
    · rcases (hbinds other _).mp ho with ⟨rfl, -⟩ | hother
      · rfl
      · exact absurd hother (hnew other)
    · rcases (hbinds other n).mp ho with ⟨rfl, rfl⟩ | hother
      · exact absurd hold (hnew h)
      · exact hb.single n h other hold hother

end Ledger

end Ledger

end WindowSystem
