/-
  Subject:   A search with a queue and a list of what it has been at.

  The element at the front of the queue is taken out, its successors that are neither seen nor
  queued go to the back, and only then it counts as seen: a successor of itself is queued once
  more.

  Results:   `search_isSome`: the search ends;
             `search_reach`: it is sound;
             `search_found`: it is complete.
-/
import Mathlib.Algebra.Order.BigOperators.Group.Finset
import Mathlib.Logic.Relation

namespace TcpPath.Util

open List

variable {α : Type} [DecidableEq α]

/-- The elements of `new` that are neither seen nor queued, put at the back. -/
def pushNew (seen new queue : List α) : List α :=
  new.foldl (fun queue a => if a ∈ seen ∨ a ∈ queue then queue else queue ++ [a]) queue

/-- The search, for at most so many rounds. -/
def search (succ : α → List α) (target : α) : Nat → List α → List α → Option Bool
  | _, _, [] => some true
  | 0, _, _ :: _ => none
  | k + 1, seen, a :: rest =>
      if target ∈ a :: rest then some false
      else search succ target k (seen ++ [a]) (pushNew seen (succ a) rest)

/-! ## 1. The queue -/

variable {seen new queue : List α} {b a : α} {succ : α → List α} {k : Nat} {target : α}

theorem mem_pushNew : b ∈ pushNew seen new queue ↔ b ∈ queue ∨ b ∈ new ∧ b ∉ seen := by
  unfold pushNew
  induction new generalizing queue with
  | nil => simp
  | cons a new ih =>
    rw [foldl_cons, ih]
    split
    · rename_i h
      constructor
      · rintro (hb | ⟨hb, hs⟩)
        · exact .inl hb
        · exact .inr ⟨mem_cons_of_mem _ hb, hs⟩
      · rintro (hb | ⟨hb, hs⟩)
        · exact .inl hb
        · rcases mem_cons.mp hb with rfl | hb
          · exact .inl (h.resolve_left hs)
          · exact .inr ⟨hb, hs⟩
    · rename_i h
      rw [mem_append, mem_singleton, mem_cons, or_and_right, or_assoc]
      refine or_congr_right (or_congr_left ⟨?_, And.left⟩)
      rintro rfl
      exact ⟨rfl, fun hs => h (.inl hs)⟩

theorem nodup_pushNew (h : queue.Nodup) : (pushNew seen new queue).Nodup := by
  unfold pushNew
  induction new generalizing queue with
  | nil => exact h
  | cons a new ih =>
    rw [foldl_cons]
    split
    · exact ih h
    · rename_i ha
      refine ih (nodup_append.mpr ⟨h, nodup_singleton a, fun b hb c hc hbc => ha ?_⟩)
      rw [← mem_singleton.mp hc, ← hbc]
      exact .inr hb

/-! ## 2. The end -/

/-- What an element may still cost: it can be queued once before it is seen and once after. -/
def pending (seen queue : List α) (a : α) : Nat :=
  if a ∈ seen then if a ∈ queue then 1 else 0 else 2

theorem pending_le (seen queue : List α) (a : α) : pending seen queue a ≤ 2 := by
  unfold pending
  split
  · split <;> omega
  · exact Nat.le_refl 2

theorem pending_front {rest : List α} (h : (a :: rest).Nodup) :
    pending (seen ++ [a]) (pushNew seen new rest) a < pending seen (a :: rest) a := by
  have hrest : a ∉ rest := (nodup_cons.mp h).1
  unfold pending
  rw [if_pos (mem_append_right _ mem_cons_self)]
  by_cases hs : a ∈ seen
  · rw [if_pos hs, if_pos mem_cons_self, if_neg]
    · exact Nat.zero_lt_one
    · rw [mem_pushNew]
      exact fun hq => hq.elim hrest fun hn => hn.2 hs
  · rw [if_neg hs]
    split <;> omega

theorem pending_other (seen rest new : List α) (a b : α) :
    pending (seen ++ [a]) (pushNew seen new rest) b ≤ pending seen (a :: rest) b := by
  by_cases hs : b ∈ seen
  · unfold pending
    rw [if_pos (mem_append_left _ hs), if_pos hs]
    by_cases hq : b ∈ pushNew seen new rest
    · have hb : b ∈ rest := (mem_pushNew.mp hq).resolve_right fun hn => hn.2 hs
      rw [if_pos hq, if_pos (mem_cons_of_mem _ hb)]
    · rw [if_neg hq]
      exact Nat.zero_le _
  · refine (pending_le _ _ b).trans ?_
    unfold pending
    rw [if_neg hs]

/-- **The search ends** after at most as many rounds as the elements of `U` may still cost. -/
theorem search_isSome {U : Finset α} (hsucc : ∀ a, ∀ b ∈ succ a, b ∈ U) (target : α)
    (hnd : queue.Nodup) (hU : ∀ a ∈ queue, a ∈ U) (hk : ∑ a ∈ U, pending seen queue a ≤ k) :
    (search succ target k seen queue).isSome = true := by
  induction k generalizing seen queue with
  | zero =>
    cases queue with
    | nil => rfl
    | cons a rest =>
      have ha := Finset.sum_eq_zero_iff.mp (Nat.le_zero.mp hk) a (hU a mem_cons_self)
      have hlt : pending (seen ++ [a]) (pushNew seen [] rest) a < pending seen (a :: rest) a :=
        pending_front hnd
      omega
  | succ k ih =>
    cases queue with
    | nil => rfl
    | cons a rest =>
      rw [search]
      split
      · rfl
      · refine ih (nodup_pushNew (nodup_cons.mp hnd).2) (fun b hb => ?_) ?_
        · rcases mem_pushNew.mp hb with hb | hb
          · exact hU b (mem_cons_of_mem _ hb)
          · exact hsucc a b hb.1
        · have hlt := Finset.sum_lt_sum (fun b _ => pending_other seen rest (succ a) a b)
            ⟨a, hU a mem_cons_self, pending_front hnd⟩
          omega

/-! ## 3. The answer -/

omit [DecidableEq α] in
theorem ne_of_reach_seen (hseen : ∀ a ∈ seen, a ≠ target ∧ ∀ b ∈ succ a, b ∈ seen ∨ b ∈ [])
    (ha : a ∈ seen ∨ a ∈ []) (hab : Relation.ReflTransGen (fun a b => b ∈ succ a) a b) :
    b ≠ target := by
  have hmem : b ∈ seen := by
    induction hab with
    | refl => exact ha.resolve_right not_mem_nil
    | tail _ hbc ih => exact ((hseen _ ih).2 _ hbc).resolve_right not_mem_nil
  exact (hseen b hmem).1

/-- **The search is sound**: where it answers `true`, the target is not among what can be reached
    from the queue. -/
theorem search_reach (h : search succ target k seen queue = some true)
    (hseen : ∀ a ∈ seen, a ≠ target ∧ ∀ b ∈ succ a, b ∈ seen ∨ b ∈ queue)
    (ha : a ∈ seen ∨ a ∈ queue) (hab : Relation.ReflTransGen (fun a b => b ∈ succ a) a b) :
    b ≠ target := by
  induction k generalizing seen queue with
  | zero =>
    cases queue with
    | nil => exact ne_of_reach_seen hseen ha hab
    | cons c rest => cases h
  | succ k ih =>
    cases queue with
    | nil => exact ne_of_reach_seen hseen ha hab
    | cons c rest =>
      rw [search] at h
      split at h
      · cases h
      · rename_i htarget
        obtain ⟨hc, _⟩ := not_or.mp (mem_cons.not.mp htarget)
        -- nothing is forgotten by a round
        have hgrow : ∀ x, x ∈ seen ∨ x ∈ c :: rest →
            x ∈ seen ++ [c] ∨ x ∈ pushNew seen (succ c) rest := by
          intro x hx
          rw [mem_append, mem_singleton, mem_pushNew]
          rcases hx with hx | hx
          · exact .inl (.inl hx)
          · rcases mem_cons.mp hx with rfl | hx
            · exact .inl (.inr rfl)
            · exact .inr (.inl hx)
        refine ih h (fun x hx => ?_) (hgrow a ha)
        rcases mem_append.mp hx with hx | hx
        · exact ⟨(hseen x hx).1, fun y hy => hgrow y ((hseen x hx).2 y hy)⟩
        · cases mem_singleton.mp hx
          refine ⟨fun e => hc e.symm, fun y hy => ?_⟩
          by_cases hs : y ∈ seen
          · exact .inl (mem_append_left _ hs)
          · exact .inr (mem_pushNew.mpr (.inr ⟨hy, hs⟩))

/-- **The search is complete**: where it answers `false`, a way leads from the queue to the target,
    and comes by the target at its end only. -/
theorem search_found (h : search succ target k seen queue = some false) :
    ∃ a ∈ queue, Relation.ReflTransGen (fun a b => a ≠ target ∧ b ∈ succ a) a target := by
  induction k generalizing seen queue with
  | zero => cases queue <;> cases h
  | succ k ih =>
    cases queue with
    | nil => cases h
    | cons c rest =>
      rw [search] at h
      split at h
      · rename_i htarget
        exact ⟨target, htarget, .refl⟩
      · rename_i htarget
        obtain ⟨a, ha, hpath⟩ := ih h
        rcases mem_pushNew.mp ha with ha | ⟨ha, _⟩
        · exact ⟨a, mem_cons_of_mem _ ha, hpath⟩
        · exact ⟨c, mem_cons_self, .head ⟨fun e => htarget (e ▸ mem_cons_self), ha⟩ hpath⟩

end TcpPath.Util
