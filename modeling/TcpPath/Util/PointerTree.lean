/-
  Subject:   Nodes that point to each other or to a root, where a node gets its pointer once and
             only towards the root or a node that has one.

  `next v` is `none` while `v` has no pointer, `some none` when it points to the root and
  `some (some w)` when it points to `w`. `Ranked.extend`: a first pointer of a node keeps the rank;
  `Ranked.follow`: from every node with a pointer the root is reached, no node twice.
-/
import Mathlib.Data.List.Nodup
import Mathlib.Tactic.Common

namespace TcpPath.Util

variable {V : Type}

/-- Every pointer leads to the root or, down a rank, to a node with a pointer. -/
def Ranked (next : V → Option (Option V)) : Prop :=
  ∃ rank : V → Nat, ∀ v w, next v = some (some w) → next w ≠ none ∧ rank w < rank v

/-- The nodes met from `v` on to the root. -/
inductive Follow (next : V → Option (Option V)) : V → List V → Prop where
  | root {v : V} (h : next v = some none) : Follow next v [v]
  | step {v w : V} {l : List V} (h : next v = some (some w)) (hl : Follow next w l) :
      Follow next v (v :: l)

namespace Ranked

variable {next next' : V → Option (Option V)} {v : V}

theorem of_none (h : ∀ v, next v = none) : Ranked next := by
  refine ⟨fun _ => 0, fun v w hv => ?_⟩
  rw [h v] at hv
  cases hv

/-- **A node's first pointer**: it goes to the root or to a node that has a pointer. -/
theorem extend (h : Ranked next) (hsame : ∀ u, u ≠ v → next' u = next u) (hv : next v = none)
    (hnew : ∀ w, next' v = some (some w) → next w ≠ none) : Ranked next' := by
  classical
  obtain ⟨rank, hrank⟩ := h
  -- only the new pointer's target decides the new rank: nothing points to `v` yet
  let top : Nat := (next' v).join.elim 0 (rank · + 1)
  have hkeep : ∀ w, next w ≠ none → next' w ≠ none := by
    intro w hw
    have hne : w ≠ v := fun e => hw (e ▸ hv)
    rw [hsame w hne]
    exact hw
  refine ⟨fun u => if u = v then top else rank u, fun u w hu => ?_⟩
  have hw : next w ≠ none := by
    by_cases huv : u = v
    · subst huv
      exact hnew w hu
    · rw [hsame u huv] at hu
      exact (hrank u w hu).1
  have hwv : w ≠ v := fun e => hw (e ▸ hv)
  refine ⟨hkeep w hw, ?_⟩
  show (if w = v then top else rank w) < if u = v then top else rank u
  rw [if_neg hwv]
  by_cases huv : u = v
  · subst huv
    rw [if_pos rfl]
    show rank w < (next' u).join.elim 0 (rank · + 1)
    rw [hu]
    exact Nat.lt_succ_self _
  · rw [if_neg huv]
    rw [hsame u huv] at hu
    exact (hrank u w hu).2

/-- **Induction towards the root.** -/
theorem induct {P : V → Prop} (h : Ranked next) (hroot : ∀ v, next v = some none → P v)
    (hstep : ∀ v w, next v = some (some w) → P w → P v) (hv : next v ≠ none) : P v := by
  obtain ⟨rank, hrank⟩ := h
  suffices hmain : ∀ k v, rank v = k → next v ≠ none → P v from hmain _ v rfl hv
  intro k
  induction k using Nat.strongRecOn with
  | _ k ih =>
    intro v hk hv
    cases hn : next v with
    | none => exact absurd hn hv
    | some t =>
      cases t with
      | none => exact hroot v hn
      | some w =>
        obtain ⟨hw, hlt⟩ := hrank v w hn
        exact hstep v w hn (ih (rank w) (hk ▸ hlt) w rfl hw)

end Ranked

namespace Follow

variable {next : V → Option (Option V)} {v : V} {l l' : List V}

theorem head (h : Follow next v l) : ∃ r, l = v :: r := by
  cases h with
  | root => exact ⟨[], rfl⟩
  | step _ _ => exact ⟨_, rfl⟩

theorem last (h : Follow next v l) : ∃ r, l.getLast? = some r ∧ next r = some none := by
  induction h with
  | root hv => exact ⟨_, rfl, hv⟩
  | step _ hl ih =>
    obtain ⟨r, hr, hn⟩ := ih
    obtain ⟨t, rfl⟩ := hl.head
    exact ⟨r, by rw [List.getLast?_cons_cons]; exact hr, hn⟩

theorem suffix {u : V} {pre rest : List V} (h : Follow next u (pre ++ v :: rest)) :
    Follow next v (v :: rest) := by
  induction pre generalizing u with
  | nil =>
    obtain ⟨r, hr⟩ := h.head
    cases hr
    exact h
  | cons x pre ih =>
    generalize hl : x :: pre ++ v :: rest = l at h
    cases h with
    | root _ => simp at hl
    | step _ hnext =>
      cases hl
      exact ih hnext

theorem nodup (h : Follow next v l) (hr : Ranked next) : l.Nodup := by
  obtain ⟨rank, hrank⟩ := hr
  have hle : ∀ {v l}, Follow next v l → ∀ u ∈ l, rank u ≤ rank v := by
    intro v l h
    induction h with
    | root _ =>
      intro u hu
      exact Nat.le_of_eq (congrArg rank (List.mem_singleton.mp hu))
    | step hv _ ih =>
      intro u hu
      rcases List.mem_cons.mp hu with rfl | hu
      · exact Nat.le_refl _
      · exact Nat.le_trans (ih u hu) (Nat.le_of_lt (hrank _ _ hv).2)
  induction h with
  | root _ => exact List.nodup_singleton _
  | step hv hl ih =>
    refine List.nodup_cons.mpr ⟨fun hmem => ?_, ih⟩
    have h1 := hle hl _ hmem
    have h2 := (hrank _ _ hv).2
    omega

end Follow

/-- **From every node with a pointer the root is reached, and no node is met twice.** -/
theorem Ranked.follow {next : V → Option (Option V)} (h : Ranked next) {v : V}
    (hv : next v ≠ none) : ∃ l, Follow next v l ∧ l.Nodup := by
  have hex : ∃ l, Follow next v l := by
    refine h.induct (P := fun v => ∃ l, Follow next v l) (fun v hv => ⟨[v], .root hv⟩) ?_ hv
    intro v w hvw hw
    obtain ⟨l, hl⟩ := hw
    exact ⟨v :: l, .step hvw hl⟩
  obtain ⟨l, hl⟩ := hex
  exact ⟨l, hl, hl.nodup h⟩

end TcpPath.Util
