/-
# Live offscreen surfaces

The offscreen graphics backend keeps the serial numbers of the surfaces that were not released.
As long as its serial numbers have not run out, they are those of the surfaces bound to handles
(`Offscreen.Tallies`), and the backend never gets to report that a surface was released twice,
which is the only thing that it ever writes.
-/
import WindowSystem.Offscreen.Graphics
import WindowSystem.Proofs.Bridge.Ledger

namespace WindowSystem

/-! ## Surfaces are only added -/

theorem Move.surfacesMade_le {G S : Type} [GraphicsBackend G S] {b b' : Books G S}
    {calls : List Call} {notes : List Note} (h : Move b calls notes b') :
    b.surfacesMade ≤ b'.surfacesMade := by
  cases h with
  | wrapped hh hvalue => exact Nat.le_succ _
  | _ => exact Nat.le_refl _

theorem Moves.surfacesMade_le {G S : Type} [GraphicsBackend G S] {b b' : Books G S}
    {calls : List Call} {notes : List Note} (h : Moves b calls notes b') :
    b.surfacesMade ≤ b'.surfacesMade := by
  induction h with
  | nil => exact Nat.le_refl _
  | cons first _ ih => exact Nat.le_trans first.surfacesMade_le ih

/-! ## Handles with a surface -/

/-- The handles that have a surface, in the order in which they were made. -/
def Registry.boundHandles {S : Type} (r : Registry S) : List HandleRef :=
  (List.range r.handles.length).filter fun h => (r.handle h).surface?.isSome

/-- The numbers of the surfaces bound to handles. -/
def Registry.boundNumbers {S : Type} (r : Registry S) : List Nat :=
  (List.range r.handles.length).filterMap fun h => (r.handle h).surface?.map BoundSurface.number

theorem Registry.mem_boundNumbers {S : Type} {r : Registry S} {n : Nat} :
    n ∈ r.boundNumbers ↔ ∃ h, r.Binds h n := by
  rw [boundNumbers, List.mem_filterMap]
  constructor
  · rintro ⟨h, -, hn⟩
    exact ⟨h, hn⟩
  · rintro ⟨h, hn⟩
    exact ⟨h, List.mem_range.mpr hn.lt_length, hn⟩

theorem Registry.length_boundNumbers {S : Type} (r : Registry S) :
    r.boundNumbers.length = r.boundHandles.length := by
  rw [boundNumbers, boundHandles, List.length_filterMap_eq_countP, List.countP_eq_length_filter]
  simp only [Option.isSome_map]

theorem Ledger.nodup_boundNumbers {G S : Type} {b : Books G S} {calls : List Call}
    (hb : Ledger b calls) : b.registry.boundNumbers.Nodup :=
  List.Nodup.filterMap (fun h other n hh ho => hb.single n h other hh ho) List.nodup_range

namespace Offscreen

/-! ## The offscreen backend -/

namespace Graphics

variable (g : Graphics)

theorem run_wrap_offscreen (drawable : UInt64) :
    (GraphicsBackend.wrap (Drawable.offscreen drawable)).run g =
      ⟨.ok ⟨g.lastSerial + 1, drawable⟩,
       { lastSerial := g.lastSerial + 1
         live := (g.lastSerial + 1) :: g.live.filter (· ≠ g.lastSerial + 1) }, []⟩ := rfl

/-- Only offscreen drawables are accepted. -/
theorem offscreen_of_wrap {drawable : Drawable} {value : Surface}
    (h : ((GraphicsBackend.wrap drawable).run g).answer = .ok value) :
    ∃ own, drawable = .offscreen own ∧ value = ⟨g.lastSerial + 1, own⟩ := by
  cases drawable with
  | platform kind => cases h
  | offscreen own => exact ⟨own, rfl, (Except.ok.inj h).symm⟩

/-- A refusal changes nothing. -/
theorem run_wrap_error {drawable : Drawable} {e : BackendError}
    (h : ((GraphicsBackend.wrap drawable).run g).answer = .error e) :
    ((GraphicsBackend.wrap drawable).run g).state = g ∧
      ((GraphicsBackend.wrap drawable).run g).journal = [] := by
  cases drawable with
  | platform kind => exact ⟨rfl, rfl⟩
  | offscreen own => cases h

/-- Releasing a live surface removes its serial number and writes nothing. -/
theorem run_release {surface : Surface} (h : surface.serial ∈ g.live) :
    (GraphicsBackend.release surface).run g =
      ⟨(), { g with live := g.live.filter (· ≠ surface.serial) }, []⟩ := by
  show (Graphics.release surface).run g = _
  have hcontains : g.live.contains surface.serial = true := List.contains_iff_mem.mpr h
  unfold Graphics.release
  rw [Step.run_bind, Step.run_get]
  simp only [hcontains, if_true, Step.run_modify, List.nil_append]

end Graphics

/-! ## The backend agrees with the handles -/

/-- The serial numbers that the backend keeps are those of the surfaces bound to handles. Serial
numbers count from one, the numbers of surfaces from zero. -/
structure Tallies (b : Books Graphics Surface) : Prop where
  lastSerial_eq : b.graphics.lastSerial.toNat = b.surfacesMade
  serial_eq : ∀ h surface, (b.registry.handle h).surface? = some surface →
    surface.value.serial.toNat = surface.number + 1
  nodup_live : b.graphics.live.Nodup
  mem_live : ∀ s, s ∈ b.graphics.live ↔ ∃ h n, b.registry.Binds h n ∧ s.toNat = n + 1

theorem tallies_empty : Tallies { graphics := {} } where
  lastSerial_eq := rfl
  serial_eq h surface hs := by simp [Registry.handle, Handle.surface?] at hs
  nodup_live := List.nodup_nil
  mem_live s := by simp [Registry.Binds, Registry.handle, Handle.surface?]

namespace Tallies

variable {b b' : Books Graphics Surface} {past calls : List Call} {notes : List Note}

/-- What a change leaves alone is still counted right. -/
theorem congr (hb : Tallies b) (hgraphics : b'.graphics = b.graphics)
    (hmade : b'.surfacesMade = b.surfacesMade)
    (hsurface : ∀ h, (b'.registry.handle h).surface? = (b.registry.handle h).surface?) :
    Tallies b' where
  lastSerial_eq := by rw [hgraphics, hmade, hb.lastSerial_eq]
  serial_eq h surface hs := hb.serial_eq h surface (by rw [← hsurface, hs])
  nodup_live := by
    rw [hgraphics]
    exact hb.nodup_live
  mem_live s := by
    rw [hgraphics, hb.mem_live]
    simp only [Registry.Binds, hsurface]

/-- The surface of a handle is released in the backend with the handle. -/
theorem run_release (hb : Tallies b) (hl : Ledger b past) (o : HandleRef) :
    let after := (b.registry.handle o).release.run b.graphics
    after.journal = [] ∧ after.state.lastSerial = b.graphics.lastSerial ∧
      after.state.live.Nodup ∧
      ∀ s, s ∈ after.state.live ↔
        ∃ h n, (h ≠ o ∧ b.registry.Binds h n) ∧ s.toNat = n + 1 := by
  cases ho : (b.registry.handle o).surface? with
  | none =>
    rw [Handle.release, ho]
    refine ⟨rfl, rfl, hb.nodup_live, fun s => ?_⟩
    have hne : ∀ h n, b.registry.Binds h n ↔ h ≠ o ∧ b.registry.Binds h n := by
      refine fun h n => ⟨fun hn => ⟨?_, hn⟩, fun hn => hn.2⟩
      rintro rfl
      rw [Registry.Binds, ho] at hn
      cases hn
    show s ∈ b.graphics.live ↔ _
    rw [hb.mem_live]
    simp only [← hne]
  | some surface =>
    have hbinds : b.registry.Binds o surface.number := by rw [Registry.Binds, ho]; rfl
    have hserial := hb.serial_eq o surface ho
    have hlive : surface.value.serial ∈ b.graphics.live :=
      (hb.mem_live _).mpr ⟨o, surface.number, hbinds, hserial⟩
    rw [Handle.release, ho]
    simp only [b.graphics.run_release hlive]
    refine ⟨trivial, trivial, hb.nodup_live.filter _, fun s => ?_⟩
    rw [List.mem_filter, hb.mem_live, decide_eq_true_iff]
    constructor
    · rintro ⟨⟨h, n, hn, hs⟩, hne⟩
      refine ⟨h, n, ⟨?_, hn⟩, hs⟩
      rintro rfl
      -- the handle has one surface, so the serial number is the one removed
      have hsame : n = surface.number := by
        rw [Registry.Binds, ho] at hn
        exact (Option.some.inj hn).symm
      exact hne (UInt64.toNat_inj.mp (by rw [hs, hserial, hsame]))
    · rintro ⟨h, n, ⟨hne, hn⟩, hs⟩
      refine ⟨⟨h, n, hn, hs⟩, ?_⟩
      rintro rfl
      have hsame : n = surface.number := by omega
      rw [hsame] at hn
      exact hne (hl.single surface.number h o hn hbinds)

/-- A handle goes, and its surface is released in the backend. -/
theorem release (hb : Tallies b) (hl : Ledger b past) {o : HandleRef}
    (hgraphics : b'.graphics = ((b.registry.handle o).release.run b.graphics).state)
    (hmade : b'.surfacesMade = b.surfacesMade)
    (hsurface : ∀ h, h ≠ o → (b'.registry.handle h).surface? = (b.registry.handle h).surface?)
    (hgone : (b'.registry.handle o).surface? = none) : Tallies b' := by
  obtain ⟨-, hlast, hnodup, hmem⟩ := hb.run_release hl o
  refine ⟨?_, fun h surface hs => ?_, ?_, fun s => ?_⟩
  · rw [hgraphics, hmade, hlast, hb.lastSerial_eq]
  · by_cases ho : h = o
    · rw [ho, hgone] at hs
      cases hs
    · exact hb.serial_eq h surface (by rw [← hsurface h ho, hs])
  · rw [hgraphics]
    exact hnodup
  · rw [hgraphics, hmem]
    have hbinds : ∀ h n, b'.registry.Binds h n ↔ h ≠ o ∧ b.registry.Binds h n := by
      intro h n
      by_cases ho : h = o
      · rw [ho, Registry.Binds, hgone]
        simp
      · rw [Registry.Binds, hsurface h ho]
        exact ⟨fun hn => ⟨ho, hn⟩, fun hn => hn.2⟩
    simp only [hbinds]

/-- A surface is made and bound to a handle, and its serial number is new. -/
theorem wrap (hb : Tallies b) {o : HandleRef} {id : WindowId} {kept : Option Drawable}
    (ho : b.registry.handle o = .live id kept none) {own : UInt64}
    (hsize : b.surfacesMade + 1 < UInt64.size) (drawable : Option Drawable) :
    Tallies
      { graphics := ((GraphicsBackend.wrap (Drawable.offscreen own)).run b.graphics).state
        registry := b.registry.setHandle o
          (.live id drawable (some ⟨b.surfacesMade, ⟨b.graphics.lastSerial + 1, own⟩⟩))
        surfacesMade := b.surfacesMade + 1 } := by
  have hnext : (b.graphics.lastSerial + 1).toNat = b.surfacesMade + 1 := by
    rw [UInt64.toNat_add, hb.lastSerial_eq]
    exact Nat.mod_eq_of_lt hsize
  have hlt : o < b.registry.handles.length := b.registry.lt_length_of_ne (by rw [ho]; simp)
  rw [Graphics.run_wrap_offscreen]
  refine ⟨hnext, fun h surface hs => ?_, ?_, fun s => ?_⟩
  · by_cases hh : h = o
    · rw [hh, b.registry.handle_setHandle_self hlt] at hs
      rw [← Option.some.inj hs]
      exact hnext
    · rw [b.registry.handle_setHandle_of_ne hh] at hs
      exact hb.serial_eq h surface hs
  · rw [List.nodup_cons]
    exact ⟨by simp, hb.nodup_live.filter _⟩
  · simp only [Registry.binds_setHandle_bound ho, List.mem_cons, List.mem_filter, hb.mem_live]
    constructor
    · rintro (rfl | ⟨⟨h, n, hn, hs⟩, -⟩)
      · exact ⟨o, b.surfacesMade, Or.inl ⟨rfl, rfl⟩, hnext⟩
      · exact ⟨h, n, Or.inr hn, hs⟩
    · rintro ⟨h, n, ⟨rfl, rfl⟩ | hn, hs⟩
      · exact Or.inl (UInt64.toNat_inj.mp (by rw [hs, hnext]))
      · -- the backend drops the new serial number, if it was there, before it adds it
        by_cases hnew : s = b.graphics.lastSerial + 1
        · exact Or.inl hnew
        · exact Or.inr ⟨⟨h, n, hn, hs⟩, by simp [hnew]⟩

end Tallies

/-! ## Moves and histories -/

section

variable {b b' : Books Graphics Surface} {past calls : List Call} {notes : List Note}

/-- Every move keeps the tallies and lets the backend write nothing, while there are serial
numbers left. -/
theorem tallies_move (h : Move b calls notes b') (hb : Tallies b) (hl : Ledger b past)
    (hsize : b'.surfacesMade < UInt64.size) : Tallies b' ∧ notes = [] := by
  cases h with
  | aside hc => exact ⟨hb, rfl⟩
  | refused attributes e => exact ⟨hb, rfl⟩
  | created attributes hid =>
    exact ⟨hb.congr rfl rfl (Registry.surface?_insert _), rfl⟩
  | @replaced attributes id old hid =>
    have hold := hl.sound.handle_insert_old hid
    refine ⟨hb.release hl (o := old) (by rw [hold]) rfl (fun h hne => ?_) ?_, ?_⟩
    · rw [Registry.handle_tombstone_of_ne _ hne, Registry.surface?_insert]
    · rw [Registry.handle_tombstone_self]
      rfl
    · rw [hold]
      exact (hb.run_release hl old).1
  | updated hid change answer => exact ⟨hb, rfl⟩
  | queried hid q answer => exact ⟨hb, rfl⟩
  | undrawn hh e => exact ⟨hb, rfl⟩
  | @drawn o id hh drawable =>
    have hsame : (Handle.live id (some drawable) none).surface? =
        (b.registry.handle o).surface? := by rw [hh]; rfl
    exact ⟨hb.congr rfl rfl (Registry.surface?_setHandle hsame), rfl⟩
  | unwrapped hh he =>
    obtain ⟨hstate, hjournal⟩ := b.graphics.run_wrap_error he
    exact ⟨hb.congr hstate rfl fun _ => rfl, hjournal⟩
  | wrapped hh hvalue =>
    obtain ⟨own, rfl, rfl⟩ := b.graphics.offscreen_of_wrap hvalue
    exact ⟨hb.wrap hh hsize _, rfl⟩
  | @destroyed o id hid =>
    refine ⟨hb.release hl (o := o) rfl rfl (fun h hne => ?_) ?_, (hb.run_release hl o).1⟩
    · rw [Registry.handle_tombstone_of_ne _ hne, Registry.handle_remove]
    · rw [Registry.handle_tombstone_self]
      rfl
  | closed => exact ⟨hb, rfl⟩

theorem tallies_moves (h : Moves b calls notes b') (hb : Tallies b) (hl : Ledger b past)
    (hsize : b'.surfacesMade < UInt64.size) : Tallies b' ∧ notes = [] := by
  induction h generalizing past with
  | nil => exact ⟨hb, rfl⟩
  | cons first next ih =>
    -- surfaces are never unmade, so the serial numbers lasted until here
    have hbetween := Nat.lt_of_le_of_lt next.surfacesMade_le hsize
    obtain ⟨htallies, rfl⟩ := tallies_move first hb hl hbetween
    obtain ⟨hafter, rfl⟩ := ih htallies (first.ledger hl) hsize
    exact ⟨hafter, rfl⟩

/-- The backend keeps as many serial numbers as there are handles with a surface. -/
theorem Tallies.liveSurfaces_eq (hb : Tallies b) (hl : Ledger b past) :
    b.graphics.liveSurfaces = b.registry.boundHandles.length := by
  have hlive : (b.graphics.live.map UInt64.toNat).Nodup :=
    hb.nodup_live.map fun _ _ h => UInt64.toNat_inj.mp h
  have hbound : (b.registry.boundNumbers.map (· + 1)).Nodup :=
    hl.nodup_boundNumbers.map fun _ _ h => Nat.succ.inj h
  have hperm : (b.graphics.live.map UInt64.toNat).Perm (b.registry.boundNumbers.map (· + 1)) := by
    refine (List.perm_ext_iff_of_nodup hlive hbound).mpr fun m => ?_
    simp only [List.mem_map, hb.mem_live, Registry.mem_boundNumbers]
    constructor
    · rintro ⟨s, ⟨h, n, hn, hs⟩, rfl⟩
      exact ⟨n, ⟨h, hn⟩, hs.symm⟩
    · rintro ⟨n, ⟨h, hn⟩, rfl⟩
      obtain ⟨surface, hsurface, hnumber⟩ := hn.surface?
      have hserial := hb.serial_eq h surface hsurface
      exact ⟨surface.value.serial, ⟨h, n, hn, by rw [hserial, hnumber]⟩, by rw [hserial, hnumber]⟩
  rw [Graphics.liveSurfaces, ← b.registry.length_boundNumbers]
  have hlength := hperm.length_eq
  rwa [List.length_map, List.length_map] at hlength

end

end Offscreen

end WindowSystem
