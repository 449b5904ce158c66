/-
  Subject:   Relations without cycles.

  Results:   `Acyclic.rewire`: new edges that do not lead back make no cycle.
-/
import Mathlib.Data.Finset.Card
import Mathlib.Logic.Relation

namespace TcpPath.Util

open Relation

variable {α : Type} {R R' : α → α → Prop}

/-- No element is reached from itself. -/
def Acyclic (R : α → α → Prop) : Prop := ∀ a, ¬TransGen R a a

theorem Acyclic.mono (h : Acyclic R) (hle : ∀ a b, R' a b → R a b) : Acyclic R' :=
  fun a ha => h a (TransGen.mono hle a a ha)

theorem Acyclic.of_lt {R : Nat → Nat → Prop} (h : ∀ a b, R a b → a < b) : Acyclic R := by
  intro a ha
  have hlt : ∀ b, TransGen R a b → a < b := by
    intro b hab
    induction hab with
    | single hab => exact h _ _ hab
    | tail _ hbc ih => exact ih.trans (h _ _ hbc)
  exact Nat.lt_irrefl a (hlt a ha)

theorem reach_off_or_through {x a c : α} (h : ReflTransGen R a c) :
    ReflTransGen (fun a b => a ≠ x ∧ R a b) a c ∨
      ReflTransGen (fun a b => a ≠ x ∧ R a b) a x ∧ ReflTransGen R x c := by
  induction h with
  | refl => exact .inl .refl
  | @tail b c _ hbc ih =>
    rcases ih with ih | ⟨h1, h2⟩
    · by_cases hb : b = x
      · subst hb
        exact .inr ⟨ih, .single hbc⟩
      · exact .inl (ih.tail ⟨hb, hbc⟩)
    · exact .inr ⟨h1, h2.tail hbc⟩

/-- **The edges of `x` are exchanged**, for such as do not lead back to it. -/
theorem Acyclic.rewire {x : α} (h : Acyclic R) (hR : ∀ a b, a ≠ x → R' a b → R a b)
    (hx : ∀ b, R' x b → ¬ReflTransGen (fun a b => a ≠ x ∧ R' a b) b x) : Acyclic R' := by
  have hself : ¬TransGen R' x x := by
    intro hc
    obtain ⟨b, hb, hbx⟩ := TransGen.head'_iff.mp hc
    rcases reach_off_or_through (x := x) hbx with hoff | ⟨hoff, _⟩
    · exact hx b hb hoff
    · exact hx b hb hoff
  intro a hc
  by_cases ha : a = x
  · exact hself (ha ▸ hc)
  · obtain ⟨b, hb, hba⟩ := TransGen.head'_iff.mp hc
    have hoffR : ∀ {c d}, ReflTransGen (fun a b => a ≠ x ∧ R' a b) c d → ReflTransGen R c d :=
      fun hp => ReflTransGen.mono (fun c d hcd => hR c d hcd.1 hcd.2) _ _ hp
    rcases reach_off_or_through (x := x) hba with hoff | ⟨hoff, hxa⟩
    · exact h a (TransGen.head'_iff.mpr ⟨b, hR a b ha hb, hoffR hoff⟩)
    · -- the cycle comes by `x`, which then is on one
      have hbx : ReflTransGen R' b x := ReflTransGen.mono (fun _ _ hcd => hcd.2) _ _ hoff
      exact hself (TransGen.trans_right hxa (.head' hb hbx))

section Height

open Classical in
/-- How many elements of `U` can be reached. -/
noncomputable def height (U : Finset α) (R : α → α → Prop) (a : α) : Nat :=
  (U.filter fun b => ReflTransGen R a b).card

variable {U : Finset α} {a b : α}

theorem height_le : height U R a ≤ U.card := by
  classical
  exact Finset.card_filter_le _ _

/-- **The height falls along every edge.** -/
theorem height_lt (h : Acyclic R) (ha : a ∈ U) (hab : R a b) : height U R b < height U R a := by
  classical
  refine Finset.card_lt_card (Finset.ssubset_iff_of_subset ?_ |>.mpr ⟨a, ?_, ?_⟩)
  · intro c hc
    obtain ⟨hcU, hbc⟩ := Finset.mem_filter.mp hc
    exact Finset.mem_filter.mpr ⟨hcU, .head hab hbc⟩
  · exact Finset.mem_filter.mpr ⟨ha, .refl⟩
  · intro hmem
    exact h a (.head' hab (Finset.mem_filter.mp hmem).2)

theorem height_pos (ha : a ∈ U) : 0 < height U R a := by
  classical
  exact Finset.card_pos.mpr ⟨a, Finset.mem_filter.mpr ⟨ha, .refl⟩⟩

end Height

end TcpPath.Util
