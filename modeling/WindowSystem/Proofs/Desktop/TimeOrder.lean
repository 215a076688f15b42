/-
# The order of time

What is found in several places, each item with its time, is brought into one order: by time, and
at the same time in the order in which it was found (`InTimeOrder`). Sorting does this. Items whose
times agree with the order in which they were found keep it, whatever is put between them
(`InTimeOrder.filter_eq`).
-/
import Mathlib.Data.List.Perm.Basic
import WindowSystem.Number.Double

namespace WindowSystem

namespace Double

theorem rankLe_iff {x y : Double} : x.rankLe y = true ↔ x.rank ≤ y.rank := by
  rw [rankLe, decide_eq_true_iff]

theorem rankLe_trans (x y z : Double) (hxy : x.rankLe y = true) (hyz : y.rankLe z = true) :
    x.rankLe z = true := by
  rw [rankLe_iff] at hxy hyz ⊢
  omega

theorem rankLe_total (x y : Double) : (x.rankLe y || y.rankLe x) = true := by
  rw [Bool.or_eq_true, rankLe_iff, rankLe_iff]
  omega

end Double

/-- Of two items of a list with times, each with its place, the one comes before the other: by its
time, or at the same time by its place. -/
def Precedes {α : Type} (a b : (Double × α) × Nat) : Prop :=
  a.1.1.rank < b.1.1.rank ∨ (a.1.1.rank = b.1.1.rank ∧ a.2 < b.2)

/-- A list holds what was found in the order of time: each item once, and items of one time as they
were found. -/
def InTimeOrder {α : Type} (found : List (Double × α)) (batch : List α) : Prop :=
  ∃ order : List ((Double × α) × Nat), order.Perm found.zipIdx ∧ order.Pairwise Precedes ∧
    batch = order.map fun a => a.1.2

section InTimeOrder

variable {α : Type} {found : List (Double × α)} {batch : List α}

theorem pairwise_zipIdx (l : List α) : l.zipIdx.Pairwise fun a b => a.2 < b.2 := by
  have hplaces : (l.zipIdx.map Prod.snd).Pairwise (· < ·) := by
    rw [List.zipIdx_map_snd]
    exact List.pairwise_lt_range'
  rwa [List.pairwise_map] at hplaces

instance (a b : (Double × α) × Nat) : Decidable (Precedes a b) :=
  inferInstanceAs (Decidable (_ ∨ _))

/-- There is only one order in which items precede each other. -/
theorem eq_of_precedes {a b : List ((Double × α) × Nat)} (hperm : a.Perm b)
    (ha : a.Pairwise Precedes) (hb : b.Pairwise Precedes) : a = b := by
  refine List.Perm.eq_of_pairwise (fun x y _ _ hxy hyx => ?_) ha hb hperm
  unfold Precedes at hxy hyx
  omega

/-- There is only one order of time. -/
theorem InTimeOrder.unique {batch' : List α} (h : InTimeOrder found batch)
    (h' : InTimeOrder found batch') : batch = batch' := by
  obtain ⟨order, hperm, hsorted, rfl⟩ := h
  obtain ⟨order', hperm', hsorted', rfl⟩ := h'
  rw [eq_of_precedes (hperm.trans hperm'.symm) hsorted hsorted']

/-- Sorting by time keeps the order of what has the same time. -/
theorem inTimeOrder_mergeSort (found : List (Double × α)) :
    InTimeOrder found ((found.mergeSort fun a b => a.1.rankLe b.1).map Prod.snd) := by
  rw [← List.mergeSort_zipIdx, List.map_map]
  have hperm := List.mergeSort_perm found.zipIdx
    (List.zipIdxLE fun a b : Double × α => a.1.rankLe b.1)
  have hsorted := List.pairwise_mergeSort
    (List.zipIdxLE_trans fun a b c : Double × α => Double.rankLe_trans a.1 b.1 c.1)
    (List.zipIdxLE_total fun a b : Double × α => Double.rankLe_total a.1 b.1) found.zipIdx
  generalize found.zipIdx.mergeSort _ = order at hperm hsorted ⊢
  have hdistinct : order.Pairwise fun a b => a.2 ≠ b.2 :=
    (hperm.pairwise_iff Ne.symm).mpr ((pairwise_zipIdx found).imp Nat.ne_of_lt)
  refine ⟨order, hperm, (hsorted.and hdistinct).imp ?_, rfl⟩
  rintro a b ⟨hle, hne⟩
  simp only [List.zipIdxLE, Double.rankLe_iff] at hle
  unfold Precedes
  split at hle
  · split at hle
    · have hplace := of_decide_eq_true hle
      omega
    · omega
  · cases hle

/-- What is found in the order of time stays in the order in which it was found. -/
theorem InTimeOrder.filter_eq (h : InTimeOrder found batch) (p : α → Bool)
    (hp : (found.filter fun a => p a.2).Pairwise fun a b => a.1.rank ≤ b.1.rank) :
    batch.filter p = (found.filter fun a => p a.2).map Prod.snd := by
  obtain ⟨order, hperm, hsorted, rfl⟩ := h
  -- with their places, both are what was found and passes, in the same strict order
  have hfound : (found.zipIdx.filter fun a => p a.1.2).Pairwise Precedes := by
    have hplaces := (pairwise_zipIdx found).filter fun a => p a.1.2
    have htimes : (found.zipIdx.filter fun a => p a.1.2).Pairwise
        fun a b => a.1.1.rank ≤ b.1.1.rank := by
      have hmap : (found.zipIdx.filter fun a => p a.1.2).map Prod.fst =
          found.filter fun a => p a.2 := by
        conv => rhs; rw [← List.zipIdx_map_fst 0 found, List.filter_map]
        rfl
      rwa [← hmap, List.pairwise_map] at hp
    refine (hplaces.and htimes).imp ?_
    rintro a b ⟨hplace, htime⟩
    unfold Precedes
    omega
  have heq : (order.filter fun a => p a.1.2) = found.zipIdx.filter fun a => p a.1.2 :=
    eq_of_precedes (hperm.filter _) (hsorted.filter _) hfound
  rw [List.filter_map]
  show (order.filter fun a => p a.1.2).map (fun a => a.1.2) = _
  rw [heq]
  conv => rhs; rw [← List.zipIdx_map_fst 0 found, List.filter_map, List.map_map]
  rfl

theorem InTimeOrder.mem (h : InTimeOrder found batch) {a : α} :
    a ∈ batch ↔ ∃ time, (time, a) ∈ found := by
  obtain ⟨order, hperm, -, rfl⟩ := h
  constructor
  · intro ha
    obtain ⟨⟨⟨time, b⟩, place⟩, hmem, rfl⟩ := List.mem_map.mp ha
    exact ⟨time, List.fst_mem_of_mem_zipIdx (hperm.mem_iff.mp hmem)⟩
  · rintro ⟨time, ha⟩
    rw [← List.zipIdx_map_fst 0 found] at ha
    obtain ⟨b, hmem, hb⟩ := List.mem_map.mp ha
    refine List.mem_map.mpr ⟨b, hperm.mem_iff.mpr hmem, ?_⟩
    rw [hb]

end InTimeOrder

end WindowSystem
