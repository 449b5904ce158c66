/-
  Subject:   Loops over numbered places with no bound of their own.

  A step at a place either leaves the loop with a result or names the next place. `walk` runs the
  loop for at most `k` rounds and keeps the places it has been at; `none` says that the rounds
  did not suffice.

  Results:   `walk_increasing`: a loop that only goes up ends;
             `walk_forever`: a loop that stays in a set does not.
-/
import Mathlib.Data.List.Basic

namespace TcpPath.Util

variable {S B : Type}

/-- The places visited and the result, if the loop is left within `k` rounds. -/
def walk (step : Nat → S → B ⊕ (Nat × S)) : Nat → Nat → S → Option (List Nat × B)
  | 0, _, _ => none
  | k + 1, t, s =>
      match step t s with
      | .inl b => some ([t], b)
      | .inr (t', s') => (walk step k t' s').map fun r => (t :: r.1, r.2)

variable {step : Nat → S → B ⊕ (Nat × S)} {k t : Nat} {s : S} {Q : B → Prop}

theorem walk_inl {b : B} (h : step t s = .inl b) : walk step (k + 1) t s = some ([t], b) := by
  rw [walk, h]

theorem walk_inr {t' : Nat} {s' : S} (h : step t s = .inr (t', s')) :
    walk step (k + 1) t s = (walk step k t' s').map fun r => (t :: r.1, r.2) := by
  rw [walk, h]

/-- **A loop that only goes up ends**, without coming to a place twice. -/
theorem walk_increasing {n : Nat} (hstep : ∀ t s, (∃ b, step t s = .inl b ∧ Q b) ∨
      ∃ t' s', step t s = .inr (t', s') ∧ t < t' ∧ t' < n) (ht : t < n) (s : S) :
    ∃ vs b, (∀ k, n ≤ k + t → walk step k t s = some (vs, b)) ∧ vs.Pairwise (· < ·) ∧
      (∀ v ∈ vs, t ≤ v) ∧ Q b := by
  -- on the distance to `n`, which every step lowers
  induction hd : n - t using Nat.strongRecOn generalizing t s with
  | _ d ih =>
    rcases hstep t s with ⟨b, hs, hb⟩ | ⟨t', s', hs, hlt, hn⟩
    · refine ⟨[t], b, fun k hk => ?_, List.pairwise_singleton _ _, ?_, hb⟩
      · obtain ⟨k, rfl⟩ : ∃ j, k = j + 1 := ⟨k - 1, by omega⟩
        exact walk_inl hs
      · intro v hv
        exact Nat.le_of_eq (List.mem_singleton.mp hv).symm
    · obtain ⟨vs, b, hw, hp, hge, hb⟩ := ih (n - t') (by omega) hn s' rfl
      refine ⟨t :: vs, b, fun k hk => ?_, ?_, ?_, hb⟩
      · obtain ⟨k, rfl⟩ : ∃ j, k = j + 1 := ⟨k - 1, by omega⟩
        rw [walk_inr hs, hw k (by omega)]
        rfl
      · exact List.pairwise_cons.mpr ⟨fun v hv => Nat.lt_of_lt_of_le hlt (hge v hv), hp⟩
      · intro v hv
        rcases List.mem_cons.mp hv with rfl | hv
        · exact Nat.le_refl _
        · exact Nat.le_trans (Nat.le_of_lt hlt) (hge v hv)

/-- **A loop that stays inside `I` has no end.** -/
theorem walk_forever {I : Nat → S → Prop}
    (hI : ∀ t s, I t s → ∃ t' s', step t s = .inr (t', s') ∧ I t' s') (k : Nat) (h : I t s) :
    walk step k t s = none := by
  induction k generalizing t s with
  | zero => rfl
  | succ k ih =>
    obtain ⟨t', s', hs, h'⟩ := hI t s h
    rw [walk_inr hs, ih h']
    rfl

end TcpPath.Util
