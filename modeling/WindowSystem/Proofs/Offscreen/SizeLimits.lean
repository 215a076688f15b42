/-
# Size limits of offscreen windows

The size of a window never exceeds its upper limit. From the first change of a limit on it also
stays above the lower one, whatever is done to the window: of two limits in conflict the one set
last wins, the other gives way as little as it can, and the size moves as little as it can
(`limit_set_last_wins`). Until then a window keeps the limits it was created with. These should not
be in conflict either, but nothing makes one of them give way
(`size_within_limits_iff`, `created_outside_its_limits`).
-/
import Mathlib.Data.Nat.Dist
import WindowSystem.Proofs.Creation.Validation
import WindowSystem.Proofs.Offscreen.Lives

namespace WindowSystem

/-! ## Numbers between limits -/

section Numbers

variable {l u n m : Nat}

theorem dist_max_lt (hl : l ≤ m) (hne : m ≠ max n l) : Nat.dist (max n l) n < Nat.dist m n := by
  simp only [Nat.dist]
  omega

theorem dist_min_lt (hu : m ≤ u) (hne : m ≠ min n u) : Nat.dist (min n u) n < Nat.dist m n := by
  simp only [Nat.dist]
  omega

theorem dist_min_max_lt (hl : l ≤ m) (hu : m ≤ u) (hne : m ≠ min (max n l) u) :
    Nat.dist (min (max n l) u) n < Nat.dist m n := by
  simp only [Nat.dist]
  omega

end Numbers

namespace Size

/-! ## Sizes between limits -/

/-- A size is at most another if it is so in both components. -/
instance : LE Size := ⟨fun a b => a.width ≤ b.width ∧ a.height ≤ b.height⟩

instance (a b : Size) : Decidable (a ≤ b) :=
  inferInstanceAs (Decidable (a.width ≤ b.width ∧ a.height ≤ b.height))

theorem le_iff {a b : Size} :
    a ≤ b ↔ a.width.toNat ≤ b.width.toNat ∧ a.height.toNat ≤ b.height.toNat :=
  Iff.rfl

theorem le_trans {a b c : Size} (hab : a ≤ b) (hbc : b ≤ c) : a ≤ c :=
  ⟨UInt32.le_trans hab.1 hbc.1, UInt32.le_trans hab.2 hbc.2⟩

theorem ext_toNat {a b : Size} (hwidth : a.width.toNat = b.width.toNat)
    (hheight : a.height.toNat = b.height.toNat) : a = b :=
  congr (congrArg Size.mk (UInt32.toNat_inj.mp hwidth)) (UInt32.toNat_inj.mp hheight)

theorem toNat_width_sup (a b : Size) :
    (a.sup b).width.toNat = max a.width.toNat b.width.toNat :=
  UInt32.toNat_max _ _

theorem toNat_height_sup (a b : Size) :
    (a.sup b).height.toNat = max a.height.toNat b.height.toNat :=
  UInt32.toNat_max _ _

theorem toNat_width_inf (a b : Size) :
    (a.inf b).width.toNat = min a.width.toNat b.width.toNat :=
  UInt32.toNat_min _ _

theorem toNat_height_inf (a b : Size) :
    (a.inf b).height.toNat = min a.height.toNat b.height.toNat :=
  UInt32.toNat_min _ _

/-- Two limits, either of which may be missing, leave room between them. -/
def Compatible (lower upper : Option Size) : Prop := ∀ l ∈ lower, ∀ u ∈ upper, l ≤ u

/-- A size lies between two limits, either of which may be missing. -/
structure Within (lower upper : Option Size) (size : Size) : Prop where
  lower_le : ∀ l ∈ lower, l ≤ size
  le_upper : ∀ u ∈ upper, size ≤ u

theorem Within.compatible {lower upper : Option Size} {size : Size}
    (h : Within lower upper size) : Compatible lower upper :=
  fun l hl u hu => le_trans (h.lower_le l hl) (h.le_upper u hu)

/-- The size that is nearest to a given one among those that will do: in either component, any other
is further away. -/
structure Nearest (Good : Size → Prop) (start size : Size) : Prop where
  good : Good size
  width_lt : ∀ other, Good other → other.width ≠ size.width →
    Nat.dist size.width.toNat start.width.toNat < Nat.dist other.width.toNat start.width.toNat
  height_lt : ∀ other, Good other → other.height ≠ size.height →
    Nat.dist size.height.toNat start.height.toNat < Nat.dist other.height.toNat start.height.toNat

/-- A size that will do is nearest to itself. -/
theorem Nearest.eq_of_good {Good : Size → Prop} {start size : Size} (h : Nearest Good start size)
    (hstart : Good start) : size = start := by
  have hself : ∀ n, Nat.dist n n = 0 := fun n => Nat.dist_self n
  refine ext_toNat ?_ ?_
  · by_contra hne
    have hlt := h.width_lt start hstart (fun heq => hne (congrArg UInt32.toNat heq.symm))
    rw [hself] at hlt
    exact Nat.not_lt_zero _ hlt
  · by_contra hne
    have hlt := h.height_lt start hstart (fun heq => hne (congrArg UInt32.toNat heq.symm))
    rw [hself] at hlt
    exact Nat.not_lt_zero _ hlt

/-- Every size that will do is nearest to itself. -/
theorem nearest_self {Good : Size → Prop} {size : Size} (h : Good size) :
    Nearest Good size size := by
  refine ⟨h, fun other _ hne => ?_, fun other _ hne => ?_⟩
  · rw [Nat.dist_self]
    exact Nat.dist_pos_of_ne (UInt32.toNat_inj.not.mpr hne)
  · rw [Nat.dist_self]
    exact Nat.dist_pos_of_ne (UInt32.toNat_inj.not.mpr hne)

/-- The least size above a lower limit is the nearest one there. -/
theorem nearest_sup (l start : Size) : Nearest (l ≤ ·) start (start.sup l) := by
  refine ⟨le_iff.mpr ?_, fun other hother hne => ?_, fun other hother hne => ?_⟩
  · rw [toNat_width_sup, toNat_height_sup]
    exact ⟨Nat.le_max_right _ _, Nat.le_max_right _ _⟩
  · have hne' := UInt32.toNat_inj.not.mpr hne
    rw [toNat_width_sup] at hne' ⊢
    exact dist_max_lt hother.1 hne'
  · have hne' := UInt32.toNat_inj.not.mpr hne
    rw [toNat_height_sup] at hne' ⊢
    exact dist_max_lt hother.2 hne'

/-- The greatest size below an upper limit is the nearest one there. -/
theorem nearest_inf (u start : Size) : Nearest (· ≤ u) start (start.inf u) := by
  refine ⟨le_iff.mpr ?_, fun other hother hne => ?_, fun other hother hne => ?_⟩
  · rw [toNat_width_inf, toNat_height_inf]
    exact ⟨Nat.min_le_right _ _, Nat.min_le_right _ _⟩
  · have hne' := UInt32.toNat_inj.not.mpr hne
    rw [toNat_width_inf] at hne' ⊢
    exact dist_min_lt hother.1 hne'
  · have hne' := UInt32.toNat_inj.not.mpr hne
    rw [toNat_height_inf] at hne' ⊢
    exact dist_min_lt hother.2 hne'

/-- Between two limits with room between them the nearest size is found by bringing a size up to the
lower and then down to the upper one. -/
theorem nearest_inf_sup {l u : Size} (h : l ≤ u) (start : Size) :
    Nearest (fun size => l ≤ size ∧ size ≤ u) start ((start.sup l).inf u) := by
  refine ⟨⟨le_iff.mpr ?_, (nearest_inf u _).good⟩, fun other hother hne => ?_,
    fun other hother hne => ?_⟩
  · rw [toNat_width_inf, toNat_height_inf, toNat_width_sup, toNat_height_sup]
    exact ⟨Nat.le_min.mpr ⟨Nat.le_max_right _ _, h.1⟩, Nat.le_min.mpr ⟨Nat.le_max_right _ _, h.2⟩⟩
  · have hne' := UInt32.toNat_inj.not.mpr hne
    rw [toNat_width_inf, toNat_width_sup] at hne' ⊢
    exact dist_min_max_lt hother.1.1 hother.2.1 hne'
  · have hne' := UInt32.toNat_inj.not.mpr hne
    rw [toNat_height_inf, toNat_height_sup] at hne' ⊢
    exact dist_min_max_lt hother.1.2 hother.2.2 hne'

/-- The nearest size does not depend on how it is said which will do. -/
theorem Nearest.congr {Good Good' : Size → Prop} {start size : Size} (h : Nearest Good start size)
    (hiff : ∀ other, Good' other ↔ Good other) : Nearest Good' start size := by
  rwa [funext fun other => propext (hiff other)]

end Size

namespace Offscreen

open Size

/-! ## Limiting a size -/

section Limits

variable {lower upper : Option Size}

/-- A size never exceeds the upper limit. -/
theorem limitSize_le (size : Size) : ∀ u ∈ upper, limitSize lower upper size ≤ u := by
  intro u hu
  obtain rfl := Option.mem_def.mp hu
  exact (nearest_inf u _).good

/-- Between compatible limits a size is moved to the nearest place. -/
theorem nearest_limitSize (h : Compatible lower upper) (size : Size) :
    Nearest (Within lower upper) size (limitSize lower upper size) := by
  have hnone : ∀ limit : Size, limit ∉ (none : Option Size) := fun _ hlimit => nomatch hlimit
  cases lower with
  | none =>
    cases upper with
    | none => exact nearest_self ⟨fun l hl => absurd hl (hnone l), fun u hu => absurd hu (hnone u)⟩
    | some u =>
      refine (nearest_inf u size).congr fun other => ⟨fun hin => hin.le_upper u rfl, fun hle => ?_⟩
      exact ⟨fun l hl => absurd hl (hnone l), fun v hv => Option.some.inj hv ▸ hle⟩
  | some l =>
    cases upper with
    | none =>
      refine (nearest_sup l size).congr fun other => ⟨fun hin => hin.lower_le l rfl, fun hle => ?_⟩
      exact ⟨fun v hv => Option.some.inj hv ▸ hle, fun u hu => absurd hu (hnone u)⟩
    | some u =>
      refine (nearest_inf_sup (h l rfl u rfl) size).congr fun other =>
        ⟨fun hin => ⟨hin.lower_le l rfl, hin.le_upper u rfl⟩, fun hle => ?_⟩
      exact ⟨fun v hv => Option.some.inj hv ▸ hle.1, fun v hv => Option.some.inj hv ▸ hle.2⟩

/-- A size in place stays. -/
theorem limitSize_of_within {size : Size} (h : Within lower upper size) :
    limitSize lower upper size = size :=
  (nearest_limitSize h.compatible size).eq_of_good h

/-- A size is in place as soon as it was limited, also between limits in conflict. -/
theorem limitSize_limitSize (size : Size) :
    limitSize lower upper (limitSize lower upper size) = limitSize lower upper size := by
  cases upper with
  | none =>
    -- a size that was brought up to the lower limit is already there
    cases lower with
    | none => rfl
    | some l => exact (nearest_sup l _).eq_of_good (nearest_sup l size).good
  | some u =>
    refine ext_toNat ?_ ?_
    · rcases lower with _ | l <;>
        simp only [limitSize, toNat_width_inf, toNat_width_sup] <;> omega
    · rcases lower with _ | l <;>
        simp only [limitSize, toNat_height_inf, toNat_height_sup] <;> omega

end Limits

/-! ## The two limits of a window -/

/-- The limits on the size of a window: one from below and one from above. -/
inductive Bound where
  | lower | upper
  deriving DecidableEq

namespace Bound

def opposite : Bound → Bound
  | lower => upper
  | upper => lower

/-- The limit that a window has. -/
def limit (w : Window) : Bound → Option Size
  | lower => w.minInnerSize
  | upper => w.maxInnerSize

/-- The change that sets a limit or takes it away. -/
def change (limit : Option Size) : Bound → WindowChange
  | lower => .minInnerSize limit
  | upper => .maxInnerSize limit

/-- A window without one of its limits. -/
def remove (w : Window) : Bound → Window
  | lower => { w with minInnerSize := none }
  | upper => { w with maxInnerSize := none }

/-- A limit of one kind is not in conflict with an opposite one in a component. -/
def Allows (limit other : UInt32) : Bound → Prop
  | lower => limit ≤ other
  | upper => other ≤ limit

/-- How a limit gives way to a new opposite one: as little as it can, and not at all in a component
without conflict. -/
structure GivesWay (bound : Bound) (limit other other' : Size) : Prop where
  nearest : Nearest
    (fun size => bound.Allows limit.width size.width ∧ bound.Allows limit.height size.height)
    other other'
  width_eq : bound.Allows limit.width other.width → other'.width = other.width
  height_eq : bound.Allows limit.height other.height → other'.height = other.height

theorem givesWay_sup (l u : Size) : lower.GivesWay l u (u.sup l) where
  nearest := nearest_sup l u
  width_eq h := UInt32.toNat_inj.mp ((toNat_width_sup u l).trans (Nat.max_eq_left h))
  height_eq h := UInt32.toNat_inj.mp ((toNat_height_sup u l).trans (Nat.max_eq_left h))

theorem givesWay_inf (u l : Size) : upper.GivesWay u l (l.inf u) where
  nearest := nearest_inf u l
  width_eq h := UInt32.toNat_inj.mp ((toNat_width_inf l u).trans (Nat.min_eq_left h))
  height_eq h := UInt32.toNat_inj.mp ((toNat_height_inf l u).trans (Nat.min_eq_left h))

end Bound

namespace Window

variable (w : Window)

/-- The limits of a window leave room between them. -/
def LimitsFit : Prop := Compatible w.minInnerSize w.maxInnerSize

/-- The size of a window lies within its limits. -/
def Fitted : Prop := Within w.minInnerSize w.maxInnerSize w.innerSize

/-! ## A change of a limit -/

/-- The limit that is set is stored. -/
theorem limit_apply_change (bound : Bound) (limit : Option Size) :
    bound.limit (w.apply (bound.change limit)) = limit := by
  cases bound <;> rfl

theorem maxInnerSize_setMinInnerSize (l : Size) :
    (w.setMinInnerSize (some l)).maxInnerSize = w.maxInnerSize.map (·.sup l) := by
  simp only [setMinInnerSize]
  cases w.maxInnerSize <;> rfl

theorem minInnerSize_setMaxInnerSize (u : Size) :
    (w.setMaxInnerSize (some u)).minInnerSize = w.minInnerSize.map (·.inf u) := by
  simp only [setMaxInnerSize]
  cases w.minInnerSize <;> rfl

/-- The opposite limit gives way. -/
theorem opposite_apply_change (bound : Bound) (limit : Size) :
    Option.Rel (bound.GivesWay limit) (bound.opposite.limit w)
      (bound.opposite.limit (w.apply (bound.change (some limit)))) := by
  cases bound with
  | lower =>
    show Option.Rel _ w.maxInnerSize (w.setMinInnerSize (some limit)).maxInnerSize
    rw [maxInnerSize_setMinInnerSize]
    cases w.maxInnerSize with
    | none => exact .none
    | some u => exact .some (Bound.givesWay_sup limit u)
  | upper =>
    show Option.Rel _ w.minInnerSize (w.setMaxInnerSize (some limit)).minInnerSize
    rw [minInnerSize_setMaxInnerSize]
    cases w.minInnerSize with
    | none => exact .none
    | some l => exact .some (Bound.givesWay_inf limit l)

/-- The limits leave room between them afterwards. -/
theorem limitsFit_apply_change (bound : Bound) (limit : Option Size) :
    (w.apply (bound.change limit)).LimitsFit := by
  intro l hl u hu
  cases bound with
  | lower =>
    obtain rfl : limit = some l := hl
    obtain ⟨before, -, rfl⟩ :=
      Option.map_eq_some_iff.mp ((w.maxInnerSize_setMinInnerSize l).symm.trans hu)
    exact (nearest_sup l before).good
  | upper =>
    obtain rfl : limit = some u := hu
    obtain ⟨before, -, rfl⟩ :=
      Option.map_eq_some_iff.mp ((w.minInnerSize_setMaxInnerSize u).symm.trans hl)
    exact (nearest_inf u before).good

/-- The size is limited anew. -/
theorem innerSize_apply_change (bound : Bound) (limit : Option Size) :
    (w.apply (bound.change limit)).innerSize =
      (w.apply (bound.change limit)).clamp w.innerSize := by
  cases bound <;> rfl

/-- The size moves to the nearest place between the limits. -/
theorem nearest_apply_change (bound : Bound) (limit : Option Size) :
    Nearest (Within (w.apply (bound.change limit)).minInnerSize
      (w.apply (bound.change limit)).maxInnerSize) w.innerSize
      (w.apply (bound.change limit)).innerSize := by
  rw [innerSize_apply_change]
  exact nearest_limitSize (w.limitsFit_apply_change bound limit) _

/-! ## Whatever is done to a window -/

/-- Size and limits are the same before and after. -/
structure SameExtent (w w' : Window) : Prop where
  innerSize : w'.innerSize = w.innerSize
  minInnerSize : w'.minInnerSize = w.minInnerSize
  maxInnerSize : w'.maxInnerSize = w.maxInnerSize

/-- A deed that touches the extent of a window resizes it or changes a limit. -/
theorem undergo_cases (deed : Deed) :
    (∃ size, deed = .change (.innerSize size)) ∨
      (∃ bound limit, deed = .change (Bound.change limit bound)) ∨
      w.SameExtent (w.undergo deed) := by
  cases deed with
  | draw => exact Or.inr (Or.inr ⟨rfl, rfl, rfl⟩)
  | rescale factor => exact Or.inr (Or.inr ⟨rfl, rfl, rfl⟩)
  | change change =>
    cases change with
    | innerSize size => exact Or.inl ⟨size, rfl⟩
    | minInnerSize limit => exact Or.inr (Or.inl ⟨.lower, limit, rfl⟩)
    | maxInnerSize limit => exact Or.inr (Or.inl ⟨.upper, limit, rfl⟩)
    | _ => exact Or.inr (Or.inr ⟨rfl, rfl, rfl⟩)

variable {w}

/-- Limits that leave room between them go on doing so. -/
theorem LimitsFit.undergo (h : w.LimitsFit) (deed : Deed) : (w.undergo deed).LimitsFit := by
  rcases w.undergo_cases deed with ⟨size, rfl⟩ | ⟨bound, limit, rfl⟩ | hsame
  · exact h
  · exact w.limitsFit_apply_change bound limit
  · rwa [LimitsFit, hsame.minInnerSize, hsame.maxInnerSize]

/-- A size that was limited stays so, also between limits in conflict. -/
theorem clamp_innerSize_undergo (h : w.clamp w.innerSize = w.innerSize) (deed : Deed) :
    (w.undergo deed).clamp (w.undergo deed).innerSize = (w.undergo deed).innerSize := by
  rcases w.undergo_cases deed with ⟨size, rfl⟩ | ⟨bound, limit, rfl⟩ | hsame
  · exact limitSize_limitSize size
  · show (w.apply _).clamp (w.apply _).innerSize = (w.apply _).innerSize
    rw [innerSize_apply_change]
    exact limitSize_limitSize w.innerSize
  · rwa [clamp, hsame.innerSize, hsame.minInnerSize, hsame.maxInnerSize]

/-! ## Windows that fit their limits -/

/-- A size that was limited lies within limits that leave room between them, and only then. -/
theorem fitted_iff (h : w.clamp w.innerSize = w.innerSize) : w.Fitted ↔ w.LimitsFit :=
  ⟨Within.compatible, fun hfit => by
    have hgood := (nearest_limitSize hfit w.innerSize).good
    rwa [show limitSize _ _ w.innerSize = w.innerSize from h] at hgood⟩

theorem fitted_apply_change (bound : Bound) (limit : Option Size) :
    (w.apply (bound.change limit)).Fitted :=
  (w.nearest_apply_change bound limit).good

theorem Fitted.undergo (h : w.Fitted) (deed : Deed) : (w.undergo deed).Fitted :=
  (fitted_iff (clamp_innerSize_undergo (limitSize_of_within h) deed)).mpr
    (LimitsFit.undergo h.compatible deed)

theorem Fitted.foldl_undergo (h : w.Fitted) (deeds : List Deed) :
    (deeds.foldl Window.undergo w).Fitted := by
  induction deeds generalizing w with
  | nil => exact h
  | cons deed rest ih => exact ih (h.undergo deed)

/-- Setting the size that a window has changes nothing. -/
theorem Fitted.apply_innerSize (h : w.Fitted) : w.apply (.innerSize w.innerSize) = w := by
  have hsize : w.clamp w.innerSize = w.innerSize := limitSize_of_within h
  rw [apply, hsize]

/-- Setting a limit that a window has changes nothing. -/
theorem Fitted.apply_change_limit (h : w.Fitted) (bound : Bound) :
    w.apply (bound.change (bound.limit w)) = w := by
  have hsize : limitSize w.minInnerSize w.maxInnerSize w.innerSize = w.innerSize :=
    limitSize_of_within h
  cases bound with
  | lower =>
    have hmax : (w.setMinInnerSize w.minInnerSize).maxInnerSize = w.maxInnerSize := by
      cases hl : w.minInnerSize with
      | none => rfl
      | some l =>
        rw [maxInnerSize_setMinInnerSize]
        have hstays : w.maxInnerSize.map (·.sup l) = w.maxInnerSize.map id :=
          Option.map_congr fun u hu => (nearest_sup l u).eq_of_good (h.compatible l hl u hu)
        exact hstays.trans Option.map_id_apply
    show w.setMinInnerSize w.minInnerSize = w
    simp only [setMinInnerSize] at hmax ⊢
    simp only [hmax, clamp, hsize]
  | upper =>
    have hmin : (w.setMaxInnerSize w.maxInnerSize).minInnerSize = w.minInnerSize := by
      cases hu : w.maxInnerSize with
      | none => rfl
      | some u =>
        rw [minInnerSize_setMaxInnerSize]
        have hstays : w.minInnerSize.map (·.inf u) = w.minInnerSize.map id :=
          Option.map_congr fun l hl => (nearest_inf u l).eq_of_good (h.compatible l hl u hu)
        exact hstays.trans Option.map_id_apply
    show w.setMaxInnerSize w.maxInnerSize = w
    simp only [setMaxInnerSize] at hmin ⊢
    simp only [hmin, clamp, hsize]

/-- Taking a limit away changes nothing else. -/
theorem Fitted.apply_change_none (h : w.Fitted) (bound : Bound) :
    w.apply (bound.change none) = bound.remove w := by
  cases bound with
  | lower =>
    have hsize : limitSize none w.maxInnerSize w.innerSize = w.innerSize :=
      limitSize_of_within ⟨fun _ hnone => absurd hnone (Option.not_mem_none _), h.le_upper⟩
    show w.setMinInnerSize none = _
    simp only [setMinInnerSize, clamp, hsize]
    rfl
  | upper =>
    have hsize : limitSize w.minInnerSize none w.innerSize = w.innerSize :=
      limitSize_of_within ⟨h.lower_le, fun _ hnone => absurd hnone (Option.not_mem_none _)⟩
    show w.setMaxInnerSize none = _
    simp only [setMaxInnerSize, clamp, hsize]
    rfl

end Window

/-- The size and the limits of a window are settled: the size lies between the limits, a new size is
moved to the nearest place there, taking a limit away changes nothing else, and setting the size or
a limit that the window has changes nothing at all. -/
structure Settled (w : Window) : Prop where
  limitsFit : w.LimitsFit
  fitted : w.Fitted
  nearest_innerSize : ∀ size, Nearest (Within w.minInnerSize w.maxInnerSize) size
    (w.apply (.innerSize size)).innerSize
  apply_change_none : ∀ bound : Bound, w.apply (bound.change none) = bound.remove w
  apply_innerSize : w.apply (.innerSize w.innerSize) = w
  apply_change_limit : ∀ bound : Bound, w.apply (bound.change (bound.limit w)) = w

theorem settled_of_fitted {w : Window} (h : w.Fitted) : Settled w where
  limitsFit := h.compatible
  fitted := h
  nearest_innerSize size := nearest_limitSize h.compatible size
  apply_change_none := h.apply_change_none
  apply_innerSize := h.apply_innerSize
  apply_change_limit := h.apply_change_limit

/-- A limit that is set is stored as it is, a limit in its way is moved as little as it can be, and
the size is moved to the nearest place between the two. Once a limit was set or taken away, size and
limits are settled, whatever else is done to the window. -/
theorem limit_set_last_wins (w : Window) :
    (∀ (bound : Bound) (limit : Size),
      let w' := w.apply (bound.change (some limit))
      bound.limit w' = some limit ∧
      Option.Rel (bound.GivesWay limit) (bound.opposite.limit w) (bound.opposite.limit w') ∧
      Nearest (Within w'.minInnerSize w'.maxInnerSize) w.innerSize w'.innerSize) ∧
    ∀ (bound : Bound) (limit : Option Size) (deeds : List Deed),
      Settled (deeds.foldl Window.undergo (w.apply (bound.change limit))) := by
  refine ⟨fun bound limit => ⟨?_, ?_, ?_⟩, fun bound limit deeds => ?_⟩
  · exact w.limit_apply_change bound (some limit)
  · exact w.opposite_apply_change bound limit
  · exact w.nearest_apply_change bound (some limit)
  · exact settled_of_fitted ((w.fitted_apply_change bound limit).foldl_undergo deeds)

/-! ## Windows from their creation on -/

/-- A limit was set or taken away in the life of a window. -/
def Life.LimitChanged (life : Life) : Prop :=
  ∃ (bound : Bound) (limit : Option Size), .change (bound.change limit) ∈ life.deeds

/-- The size of a window is limited all its life. -/
theorem Life.clamp_innerSize (life : Life) :
    life.window.clamp life.window.innerSize = life.window.innerSize := by
  have hkeeps : ∀ (deeds : List Deed) (w : Window), w.clamp w.innerSize = w.innerSize →
      (deeds.foldl Window.undergo w).clamp (deeds.foldl Window.undergo w).innerSize =
        (deeds.foldl Window.undergo w).innerSize := by
    intro deeds
    induction deeds with
    | nil => exact fun w hw => hw
    | cons deed rest ih => exact fun w hw => ih _ (Window.clamp_innerSize_undergo hw deed)
  exact hkeeps life.deeds _ (limitSize_limitSize _)

/-- The limits leave room between them if they did so before, or if one of them was changed. -/
theorem limitsFit_foldl_undergo (deeds : List Deed) (w : Window) :
    (deeds.foldl Window.undergo w).LimitsFit ↔
      w.LimitsFit ∨ ∃ (bound : Bound) (limit : Option Size),
        .change (bound.change limit) ∈ deeds := by
  induction deeds generalizing w with
  | nil => simp
  | cons deed rest ih =>
    have hfirst : (w.undergo deed).LimitsFit ↔
        w.LimitsFit ∨ ∃ (bound : Bound) (limit : Option Size),
          deed = .change (bound.change limit) := by
      constructor
      · intro h
        rcases w.undergo_cases deed with ⟨size, rfl⟩ | hchange | hsame
        · exact Or.inl h
        · exact Or.inr hchange
        · rw [Window.LimitsFit, hsame.minInnerSize, hsame.maxInnerSize] at h
          exact Or.inl h
      · rintro (h | ⟨bound, limit, rfl⟩)
        · exact h.undergo deed
        · exact w.limitsFit_apply_change bound limit
    rw [List.foldl_cons, ih, hfirst, or_assoc]
    simp only [List.mem_cons, exists_or, eq_comm]

/-- In a component in which there is no conflict, a limited size is not below the lower limit. -/
theorem lower_le_of_clamp {w : Window} (h : w.clamp w.innerSize = w.innerSize) :
    ∀ l ∈ w.minInnerSize,
      ((∀ u ∈ w.maxInnerSize, l.width ≤ u.width) → l.width ≤ w.innerSize.width) ∧
      ((∀ u ∈ w.maxInnerSize, l.height ≤ u.height) → l.height ≤ w.innerSize.height) := by
  intro l hl
  rw [Window.clamp, Option.mem_def.mp hl] at h
  cases hmax : w.maxInnerSize with
  | none =>
    rw [hmax] at h
    have hle : l ≤ w.innerSize := by
      rw [← h]
      exact (nearest_sup l _).good
    exact ⟨fun _ => hle.1, fun _ => hle.2⟩
  | some u =>
    rw [hmax] at h
    refine ⟨fun hle => ?_, fun hle => ?_⟩
    · have hwidth := congrArg (fun size => size.width.toNat) h
      have hle' := UInt32.le_iff_toNat_le.mp (hle u rfl)
      simp only [limitSize, toNat_width_inf, toNat_width_sup] at hwidth
      rw [UInt32.le_iff_toNat_le]
      omega
    · have hheight := congrArg (fun size => size.height.toNat) h
      have hle' := UInt32.le_iff_toNat_le.mp (hle u rfl)
      simp only [limitSize, toNat_height_inf, toNat_height_sup] at hheight
      rw [UInt32.le_iff_toNat_le]
      omega

/-- In every run the size of a window never exceeds the upper limit, nor is it below the lower one
in a component in which the limits are not in conflict. Size and limits are settled as soon as a
limit was changed, and before that only if the window was created with limits that leave room
between them. -/
theorem size_within_limits_iff (limit : Option Nat)
    (actions : List (ManagerAction Waiter Outside)) :
    let start : Manager := { limit := limit }
    let m := stateAfter start actions
    m.windows.Fits → ∀ id w, m.windows.get? id = some w →
      ∃ life, lifeOf id (moments start actions) = some life ∧
        (∀ u ∈ w.maxInnerSize, w.innerSize ≤ u) ∧
        (∀ l ∈ w.minInnerSize,
          ((∀ u ∈ w.maxInnerSize, l.width ≤ u.width) → l.width ≤ w.innerSize.width) ∧
          ((∀ u ∈ w.maxInnerSize, l.height ≤ u.height) → l.height ≤ w.innerSize.height)) ∧
        (Settled w ↔
          Compatible life.attributes.minInnerSize life.attributes.maxInnerSize ∨
            life.LimitChanged) := by
  intro start m hfits id w hget
  rw [get?_eq_life limit actions hfits, Option.map_eq_some_iff] at hget
  obtain ⟨life, hlife, rfl⟩ := hget
  have hclamp := life.clamp_innerSize
  refine ⟨life, hlife, ?_, lower_le_of_clamp hclamp, ?_⟩
  · rw [← hclamp]
    exact limitSize_le _
  · have hsettled : Settled life.window ↔ life.window.LimitsFit :=
      ⟨Settled.limitsFit, fun h => settled_of_fitted ((Window.fitted_iff hclamp).mpr h)⟩
    rw [hsettled]
    exact limitsFit_foldl_undergo _ _

/-- A window that was created with limits in conflict is settled once the upper one is set. -/
theorem settled_by_upper_limit :
    let attributes : WindowAttributes :=
      { minInnerSize := some ⟨700, 500⟩, maxInnerSize := some ⟨640, 480⟩ }
    let actions : List (ManagerAction Waiter Outside) :=
      [.create attributes, .update ⟨4294967297⟩ (.maxInnerSize (some ⟨600, 800⟩))]
    let m := stateAfter ({ limit := none } : Manager) actions
    m.windows.Fits ∧ ∃ w, m.windows.get? ⟨4294967297⟩ = some w ∧ w.innerSize = ⟨600, 500⟩ ∧
      Settled w := by
  intro attributes actions m
  have hfits : m.windows.Fits := by
    show m.windows.slots.length < UInt32.size
    decide +kernel
  refine ⟨hfits, _, rfl, by decide +kernel, ?_⟩
  obtain ⟨life, hlife, -, -, hiff⟩ := size_within_limits_iff none actions hfits ⟨4294967297⟩ _ rfl
  have htold : lifeOf ⟨4294967297⟩ (moments ({ limit := none } : Manager) actions) =
      some ⟨attributes, [.change (.maxInnerSize (some ⟨600, 800⟩))]⟩ := by
    decide +kernel
  obtain rfl := Option.some.inj (hlife.symm.trans htold)
  exact hiff.mpr (Or.inr ⟨.upper, some ⟨600, 800⟩, List.mem_singleton.mpr rfl⟩)

/-- Options may ask for a lower limit above the upper one, and the window is then smaller than it
may be. -/
theorem created_outside_its_limits :
    let options : WindowOptions :=
      { minInnerSize := some [Double.ofInt 700, Double.ofInt 500]
        maxInnerSize := some [Double.ofInt 640, Double.ofInt 480] }
    let attributes : WindowAttributes :=
      { minInnerSize := some ⟨700, 500⟩, maxInnerSize := some ⟨640, 480⟩ }
    let actions : List (ManagerAction Waiter Outside) := [.create attributes]
    options.attributes? = .ok attributes ∧
      ∃ w, (stateAfter ({} : Manager) actions).windows.get? ⟨4294967297⟩ = some w ∧
        w.innerSize = ⟨640, 480⟩ ∧ ¬ w.Fitted := by
  refine ⟨by decide +kernel, _, rfl, by decide +kernel, fun h => ?_⟩
  exact absurd (h.lower_le ⟨700, 500⟩ rfl) (by decide)

end Offscreen

end WindowSystem
