/-
  Subject:   Lists that differ only in how the elements of different classes are interleaved.

  * `answers`, **`answers_eq`**: queries that may change the state they are put to, and states that
    no sequence of them can tell apart.
-/
import TcpPath.Util.FirstMatch

namespace TcpPath.Util

variable {α β ι : Type}

/-! ## 1. The same order within each class -/

/-- The elements of each class stand in the same order in both lists. -/
def SameOrder (c : ι → α → Bool) (l l' : List α) : Prop := ∀ i, l.filter (c i) = l'.filter (c i)

variable {p q : α → Bool} {f : α → α}

theorem findSome?_filter_of {f : α → Option β} (h : ∀ x, (f x).isSome → p x = true) (l : List α) :
    (l.filter p).findSome? f = l.findSome? f := by
  induction l with
  | nil => rfl
  | cons x l ih =>
    cases hx : p x with
    | true => simp [hx, List.findSome?_cons, ih]
    | false =>
      have hnone : f x = none := by
        have := mt (h x)
        simpa [hx] using this
      simp [hx, hnone, ih]

theorem filter_modifyFirst_of (hq : ∀ x, p x = true → q x = true)
    (hf : ∀ x, p x = true → q (f x) = q x) (l : List α) :
    (modifyFirst p f l).filter q = modifyFirst p f (l.filter q) := by
  induction l with
  | nil => rfl
  | cons x l ih =>
    cases hx : p x with
    | true => simp [modifyFirst, hx, hq x hx, hf x hx]
    | false => cases hqx : q x <;> simp [modifyFirst, hx, hqx, ih]

theorem filter_modifyFirst_of_not (hq : ∀ x, p x = true → q x = false)
    (hf : ∀ x, p x = true → q (f x) = q x) (l : List α) :
    (modifyFirst p f l).filter q = l.filter q := by
  induction l with
  | nil => rfl
  | cons x l ih =>
    cases hx : p x with
    | true => simp [modifyFirst, hx, hq x hx, hf x hx]
    | false => cases hqx : q x <;> simp [modifyFirst, hx, hqx, ih]

namespace SameOrder

variable {c : ι → α → Bool} {l l' l'' : List α}

theorem refl (c : ι → α → Bool) (l : List α) : SameOrder c l l := fun _ => rfl

theorem symm (h : SameOrder c l l') : SameOrder c l' l := fun i => (h i).symm

theorem trans (h : SameOrder c l l') (h' : SameOrder c l' l'') : SameOrder c l l'' :=
  fun i => (h i).trans (h' i)

/-- **A search within a class.** -/
theorem find?_eq (h : SameOrder c l l') {p : α → Bool} {i : ι}
    (hp : ∀ x, p x = true → c i x = true) : l.find? p = l'.find? p := by
  have hfilter : ∀ l : List α, (l.filter (c i)).find? p = l.find? p := by
    intro l
    rw [List.find?_filter]
    refine congrArg (l.find? ·) (funext fun x => ?_)
    cases hx : p x with
    | true => simp [hp x hx]
    | false => simp
  rw [← hfilter l, h i, hfilter l']

theorem findSome?_eq (h : SameOrder c l l') {f : α → Option β} {i : ι}
    (hf : ∀ x, (f x).isSome → c i x = true) : l.findSome? f = l'.findSome? f := by
  rw [← findSome?_filter_of hf l, h i, findSome?_filter_of hf l']

/-- **A change of the first hit**, where the hits are all of a class or all outside of it, whatever
    class it is. -/
theorem modifyFirst (h : SameOrder c l l') {p : α → Bool} {f : α → α}
    (hp : ∀ i, (∀ x, p x = true → c i x = true) ∨ ∀ x, p x = true → c i x = false)
    (hf : ∀ i x, p x = true → c i (f x) = c i x) :
    SameOrder c (modifyFirst p f l) (Util.modifyFirst p f l') := by
  intro i
  rcases hp i with hp | hp
  · rw [filter_modifyFirst_of hp (hf i), filter_modifyFirst_of hp (hf i), h i]
  · rw [filter_modifyFirst_of_not hp (hf i), filter_modifyFirst_of_not hp (hf i), h i]

end SameOrder

/-- **A move to the front** past elements that share no class with the hit. -/
theorem sameOrder_toFront {c : ι → α → Bool} {ok : α → Bool} {l : List α}
    (h : ∀ pre x post, l = pre ++ x :: post → p x = true → (∀ y ∈ pre, p y = false) →
      ∀ i, c i x = true → ∀ y ∈ pre, c i y = false) : SameOrder c (toFront p ok l) l := by
  intro i
  rcases toFront_cases p ok l with h1 | ⟨pre, x, post, h1, h2, h3, h4⟩
  · rw [h1]
  · rw [h4, h1]
    cases hx : c i x with
    | false => simp [hx]
    | true =>
      have hpre : pre.filter (c i) = [] :=
        List.filter_eq_nil_iff.mpr fun y hy => by simp [h pre x post h1 h2 h3 i hx y hy]
      simp [hx, hpre]

/-! ## 2. Queries -/

variable {S Q A : Type}

/-- The answers to a sequence of queries, each put to the state the last one left. -/
def answers (ask : S → Q → A × S) : List Q → S → List A
  | [], _ => []
  | q :: qs, s => (ask s q).1 :: answers ask qs (ask s q).2

/-- **States that no queries tell apart**: related states answer alike, and stay related. -/
theorem answers_eq {ask : S → Q → A × S} {R : S → S → Prop}
    (hR : ∀ s s' q, R s s' → (ask s q).1 = (ask s' q).1 ∧ R (ask s q).2 (ask s' q).2)
    (qs : List Q) {s s' : S} (h : R s s') : answers ask qs s = answers ask qs s' := by
  induction qs generalizing s s' with
  | nil => rfl
  | cons q qs ih =>
    obtain ⟨h1, h2⟩ := hR s s' q h
    rw [answers, answers, h1, ih h2]

end TcpPath.Util
