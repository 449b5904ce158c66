/-
  Subject:   The elements of a list with given keys first, in the order of the keys.

  `front f ks l` is a rearrangement of `l` (`front_perm`) in which an element with an earlier key
  stands before those with later ones and before those with none (`mem_of_front_eq`).
-/
import Mathlib.Data.List.Basic
import Mathlib.Data.List.Perm.Basic

namespace TcpPath.Util

open List

variable {α κ : Type} [DecidableEq κ] (f : α → κ)

/-- The elements with the first key, those with the second, and so on, and then the others. -/
def front : List κ → List α → List α
  | [], l => l
  | k :: ks, l => l.filter (f · = k) ++ front ks (l.filter (f · ≠ k))

theorem front_perm (ks : List κ) (l : List α) : (front f ks l).Perm l := by
  induction ks generalizing l with
  | nil => exact .refl l
  | cons k ks ih =>
    refine (((ih _).append_left _).trans ?_)
    simpa using filter_append_perm (fun a => decide (f a = k)) l

theorem front_eq {ks : List κ} (h : ks.Nodup) (l : List α) :
    front f ks l = ks.flatMap (fun k => l.filter (f · = k)) ++ l.filter (f · ∉ ks) := by
  induction ks generalizing l with
  | nil => simp [front]
  | cons k ks ih =>
    obtain ⟨hk, hnd⟩ := nodup_cons.mp h
    have hks : ks.flatMap (fun k' => (l.filter (f · ≠ k)).filter (f · = k')) =
        ks.flatMap fun k' => l.filter (f · = k') := by
      refine flatMap_congr fun k' hk' => ?_
      rw [filter_filter]
      refine filter_congr fun a _ => ?_
      have hne : k' ≠ k := fun heq => hk (heq ▸ hk')
      grind
    have hrest : (l.filter (f · ≠ k)).filter (f · ∉ ks) = l.filter (f · ∉ k :: ks) := by
      rw [filter_filter]
      refine filter_congr fun a _ => ?_
      simp [Bool.and_comm]
    rw [front, ih hnd, hks, hrest, flatMap_cons, append_assoc]

theorem front_pairwise (ks : List κ) (l : List α) :
    (front f ks l).Pairwise fun a b => ks.idxOf (f a) ≤ ks.idxOf (f b) := by
  induction ks generalizing l with
  | nil => exact pairwise_of_forall fun _ _ => Nat.le_refl _
  | cons k ks ih =>
    have hfront : ∀ a ∈ front f ks (l.filter (f · ≠ k)), f a ≠ k := fun a ha =>
      of_decide_eq_true (mem_filter.mp ((front_perm f ks _).mem_iff.mp ha)).2
    refine pairwise_append.mpr ⟨?_, ?_, fun a ha b hb => ?_⟩
    · refine pairwise_of_forall_mem_list fun a ha b hb => ?_
      have ha : f a = k := of_decide_eq_true (mem_filter.mp ha).2
      simp [ha]
    · refine (ih _).imp_of_mem fun ha hb hle => ?_
      rw [idxOf_cons_ne _ (hfront _ ha).symm, idxOf_cons_ne _ (hfront _ hb).symm]
      exact Nat.succ_le_succ hle
    · have ha : f a = k := of_decide_eq_true (mem_filter.mp ha).2
      simp [ha]

/-- **An element with an earlier key stands before one with a later key.** -/
theorem mem_of_front_eq {ks : List κ} {l pre post : List α} {a b : α}
    (h : front f ks l = pre ++ a :: post) (hb : b ∈ l) (hlt : ks.idxOf (f b) < ks.idxOf (f a)) :
    b ∈ pre := by
  have hpw := front_pairwise f ks l
  rw [h, pairwise_append, pairwise_cons] at hpw
  have hmem := (front_perm f ks l).mem_iff.mpr hb
  rw [h, mem_append, mem_cons] at hmem
  rcases hmem with hpre | rfl | hpost
  · exact hpre
  · exact absurd hlt (Nat.lt_irrefl _)
  · exact absurd (hpw.2.1.1 b hpost) (Nat.not_le_of_lt hlt)

end TcpPath.Util
