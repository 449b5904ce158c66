/-
  Subject:   Lists searched from the front: the first element that meets a test, taken out,
             changed in place, or moved to the front.
-/
import Mathlib.Data.List.Basic
import Mathlib.Data.List.Nodup
import Mathlib.Data.List.Perm.Basic
import Mathlib.Tactic.Common

namespace TcpPath.Util

open List

variable {α β : Type}

/-- Split a list at its first element that meets `p`. -/
def splitFirst (p : α → Bool) : List α → Option (List α × α × List α)
  | [] => none
  | x :: l =>
      if p x then some ([], x, l)
      else (splitFirst p l).map fun r => (x :: r.1, r.2.1, r.2.2)

/-- Change the first element that meets `p`. -/
def modifyFirst (p : α → Bool) (f : α → α) : List α → List α
  | [] => []
  | x :: l => if p x then f x :: l else x :: modifyFirst p f l

/-! ## 1. Splitting -/

variable {p : α → Bool} {l pre post : List α} {x : α} {f : α → α} {R : α → α → Prop}
  {q ok : α → Bool}

theorem splitFirst_none : splitFirst p l = none ↔ ∀ x ∈ l, p x = false := by
  induction l with
  | nil => simp [splitFirst]
  | cons x l ih =>
    unfold splitFirst
    by_cases hx : p x = true
    · simp [hx]
    · simp [hx, ih]

theorem splitFirst_some :
    splitFirst p l = some (pre, x, post) ↔
      l = pre ++ x :: post ∧ p x = true ∧ ∀ y ∈ pre, p y = false := by
  induction l generalizing pre with
  | nil => simp [splitFirst]
  | cons y l ih =>
    unfold splitFirst
    by_cases hy : p y = true
    · rw [if_pos hy]
      constructor
      · intro h
        cases h
        exact ⟨rfl, hy, fun _ h => absurd h not_mem_nil⟩
      · rintro ⟨h1, h2, h3⟩
        cases pre with
        | nil =>
          cases h1
          rfl
        | cons z pre =>
          cases h1
          rw [h3 y mem_cons_self] at hy
          cases hy
    · rw [if_neg hy]
      constructor
      · intro h
        obtain ⟨⟨pre', x', post'⟩, h1, h2⟩ := Option.map_eq_some_iff.mp h
        cases h2
        obtain ⟨rfl, h3, h4⟩ := ih.mp h1
        refine ⟨rfl, h3, fun z hz => ?_⟩
        rcases mem_cons.mp hz with rfl | hz
        · simpa using hy
        · exact h4 z hz
      · rintro ⟨h1, h2, h3⟩
        cases pre with
        | nil =>
          cases h1
          exact absurd h2 hy
        | cons z pre =>
          cases h1
          rw [ih.mpr ⟨rfl, h2, fun w hw => h3 w (mem_cons_of_mem _ hw)⟩]
          rfl

theorem exists_split_cons {P Q : α → Prop} :
    (∃ pre e post, x :: l = pre ++ e :: post ∧ P e ∧ ∀ y ∈ pre, Q y) ↔
      P x ∨ Q x ∧ ∃ pre e post, l = pre ++ e :: post ∧ P e ∧ ∀ y ∈ pre, Q y := by
  constructor
  · rintro ⟨_ | ⟨y, pre⟩, e, post, h, he, hall⟩
    · cases h
      exact .inl he
    · cases h
      exact .inr ⟨hall x mem_cons_self, pre, e, post, rfl, he, fun y hy => hall y (.tail _ hy)⟩
  · rintro (hx | ⟨hx, pre, e, post, rfl, he, hall⟩)
    · exact ⟨[], x, l, rfl, hx, fun _ hy => (nomatch hy)⟩
    · exact ⟨x :: pre, e, post, rfl, he, forall_mem_cons.mpr ⟨hx, hall⟩⟩

theorem find?_of_splitFirst (h : splitFirst p l = some (pre, x, post)) : l.find? p = some x := by
  obtain ⟨rfl, hx, hpre⟩ := splitFirst_some.mp h
  rw [find?_append, find?_eq_none.mpr fun y hy => by simp [hpre y hy]]
  simp [hx]

theorem find?_of_splitFirst_none (h : splitFirst p l = none) : l.find? p = none :=
  find?_eq_none.mpr fun x hx => by simp [splitFirst_none.mp h x hx]

theorem find?_of_key {key : α → β} (h : (l.map key).Nodup) (hx : x ∈ l)
    (hp : ∀ y, p y = true ↔ key y = key x) : l.find? p = some x := by
  cases hf : l.find? p with
  | none => exact absurd ((hp x).mpr rfl) (find?_eq_none.mp hf x hx)
  | some y =>
    have hy := (hp y).mp (find?_some hf)
    rw [inj_on_of_nodup_map h (mem_of_find?_eq_some hf) hx hy]

/-! ## 2. Changing the first hit -/

theorem modifyFirst_of_none (h : ∀ x ∈ l, p x = false) : modifyFirst p f l = l := by
  induction l with
  | nil => rfl
  | cons x l ih =>
    unfold modifyFirst
    rw [if_neg (by simp [h x mem_cons_self]),
      ih fun y hy => h y (mem_cons_of_mem _ hy)]

theorem modifyFirst_append (hpre : ∀ y ∈ pre, p y = false) (hx : p x = true) :
    modifyFirst p f (pre ++ x :: post) = pre ++ f x :: post := by
  induction pre with
  | nil => simp [modifyFirst, hx]
  | cons y pre ih =>
    rw [cons_append, modifyFirst, if_neg (by simp [hpre y mem_cons_self]),
      ih fun z hz => hpre z (mem_cons_of_mem _ hz), cons_append]

theorem map_modifyFirst (g : α → β) (hg : ∀ x, p x → g (f x) = g x) (l : List α) :
    (modifyFirst p f l).map g = l.map g := by
  induction l with
  | nil => rfl
  | cons x l ih =>
    unfold modifyFirst
    by_cases hx : p x = true
    · rw [if_pos hx, map_cons, map_cons, hg x hx]
    · rw [if_neg hx, map_cons, map_cons, ih]

@[simp] theorem length_modifyFirst (l : List α) : (modifyFirst p f l).length = l.length := by
  induction l with
  | nil => rfl
  | cons x l ih =>
    unfold modifyFirst
    by_cases hx : p x = true
    · rw [if_pos hx]; rfl
    · rw [if_neg hx, length_cons, length_cons, ih]

theorem mem_modifyFirst (h : x ∈ modifyFirst p f l) :
    x ∈ l ∨ ∃ y, l.find? p = some y ∧ x = f y := by
  induction l with
  | nil => exact absurd h not_mem_nil
  | cons z l ih =>
    unfold modifyFirst at h
    by_cases hz : p z = true
    · rw [if_pos hz] at h
      rcases mem_cons.mp h with rfl | h
      · exact .inr ⟨z, by rw [find?_cons, hz], rfl⟩
      · exact .inl (mem_cons_of_mem _ h)
    · rw [if_neg hz] at h
      rcases mem_cons.mp h with rfl | h
      · exact .inl mem_cons_self
      · rcases ih h with h | ⟨y, hy, hx⟩
        · exact .inl (mem_cons_of_mem _ h)
        · exact .inr ⟨y, by rw [find?_cons, Bool.eq_false_iff.mpr hz]; exact hy, hx⟩

theorem mem_modifyFirst_of_mem (f : α → α) (h : x ∈ l) :
    x ∈ modifyFirst p f l ∨ f x ∈ modifyFirst p f l := by
  induction l with
  | nil => exact absurd h not_mem_nil
  | cons z l ih =>
    unfold modifyFirst
    split
    · rcases mem_cons.mp h with rfl | h
      · exact .inr mem_cons_self
      · exact .inl (mem_cons_of_mem _ h)
    · rcases mem_cons.mp h with rfl | h
      · exact .inl mem_cons_self
      · exact (ih h).imp (mem_cons_of_mem _) (mem_cons_of_mem _)

theorem mem_modifyFirst_of_not (f : α → α) (h : x ∈ l) (hx : p x = false) :
    x ∈ modifyFirst p f l := by
  induction l with
  | nil => exact absurd h not_mem_nil
  | cons z l ih =>
    unfold modifyFirst
    rcases mem_cons.mp h with rfl | h
    · rw [if_neg (Bool.eq_false_iff.mp hx)]
      exact mem_cons_self
    · split
      · exact mem_cons_of_mem _ h
      · exact mem_cons_of_mem _ (ih h)

theorem mem_modifyFirst_hit (f : α → α) {y : α} (h : l.find? p = some y) :
    f y ∈ modifyFirst p f l := by
  induction l with
  | nil => cases h
  | cons z l ih =>
    unfold modifyFirst
    rw [find?_cons] at h
    split at h
    · rename_i hz
      cases h
      rw [if_pos hz]
      exact mem_cons_self
    · rename_i hz
      rw [if_neg (Bool.eq_false_iff.mp hz)]
      exact mem_cons_of_mem _ (ih h)

theorem pairwise_modifyFirst (hl : l.Pairwise R)
    (h : ∀ pre x post, l = pre ++ x :: post → p x = true → (∀ y ∈ pre, p y = false) →
      (∀ y ∈ pre, R y (f x)) ∧ ∀ y ∈ post, R (f x) y) : (modifyFirst p f l).Pairwise R := by
  cases hs : splitFirst p l with
  | none =>
    rw [modifyFirst_of_none (splitFirst_none.mp hs)]
    exact hl
  | some t =>
    obtain ⟨pre, x, post⟩ := t
    obtain ⟨rfl, hx, hpre⟩ := splitFirst_some.mp hs
    obtain ⟨h1, h2⟩ := h pre x post rfl hx hpre
    rw [modifyFirst_append hpre hx]
    obtain ⟨hp, hc, hpc⟩ := pairwise_append.mp hl
    obtain ⟨_, hpost⟩ := pairwise_cons.mp hc
    refine pairwise_append.mpr ⟨hp, pairwise_cons.mpr ⟨h2, hpost⟩, ?_⟩
    intro a ha b hb
    rcases mem_cons.mp hb with rfl | hb
    · exact h1 a ha
    · exact hpc a ha b (mem_cons_of_mem _ hb)

theorem find?_modifyFirst (g : α → β) (hq : ∀ x, q (f x) = q x) (hg : ∀ x, g (f x) = g x)
    (l : List α) : ((modifyFirst p f l).find? q).map g = (l.find? q).map g := by
  induction l with
  | nil => rfl
  | cons x l ih =>
    unfold modifyFirst
    by_cases hx : p x = true
    · rw [if_pos hx, find?_cons, find?_cons, hq]
      cases q x with
      | true => exact congrArg some (hg x)
      | false => rfl
    · rw [if_neg hx, find?_cons, find?_cons]
      cases q x with
      | true => rfl
      | false => exact ih

/-! ## 3. Moving the first hit to the front -/

/-- The list after the first hit of `p` was moved to the front. A hit on one of the first two
    places stays where it is, and so does one that fails `ok`. -/
def toFront (p : α → Bool) (ok : α → Bool) (l : List α) : List α :=
  match splitFirst p l with
  | none => l
  | some (pre, x, post) => if 2 ≤ pre.length ∧ ok x = true then x :: (pre ++ post) else l

theorem toFront_cases (p ok : α → Bool) (l : List α) :
    toFront p ok l = l ∨ ∃ pre x post, l = pre ++ x :: post ∧ p x = true ∧
      (∀ y ∈ pre, p y = false) ∧ toFront p ok l = x :: (pre ++ post) := by
  unfold toFront
  split
  · exact .inl rfl
  · rename_i pre x post h
    split
    · obtain ⟨h1, h2, h3⟩ := splitFirst_some.mp h
      exact .inr ⟨pre, x, post, h1, h2, h3, rfl⟩
    · exact .inl rfl

theorem toFront_perm (p ok : α → Bool) (l : List α) : (toFront p ok l).Perm l := by
  rcases toFront_cases p ok l with h | ⟨pre, x, post, h1, _, _, h2⟩
  · rw [h]
  · rw [h2, h1]
    exact perm_middle.symm

theorem pairwise_toFront (hl : l.Pairwise R)
    (h : ∀ pre x post, l = pre ++ x :: post → p x = true → (∀ y ∈ pre, p y = false) →
      ∀ y ∈ pre, R x y) : (toFront p ok l).Pairwise R := by
  rcases toFront_cases p ok l with h1 | ⟨pre, x, post, h1, h2, h3, h4⟩
  · rw [h1]
    exact hl
  · rw [h4]
    have hx := h pre x post h1 h2 h3
    rw [h1] at hl
    obtain ⟨hp, hc, hpc⟩ := pairwise_append.mp hl
    obtain ⟨hxp, hpost⟩ := pairwise_cons.mp hc
    refine pairwise_cons.mpr ⟨?_, pairwise_append.mpr ⟨hp, hpost, ?_⟩⟩
    · intro y hy
      rcases mem_append.mp hy with hy | hy
      · exact hx y hy
      · exact hxp y hy
    · exact fun a ha b hb => hpc a ha b (mem_cons_of_mem _ hb)

theorem toFront_of_none (h : ∀ x ∈ l, p x = false) : toFront p ok l = l := by
  unfold toFront
  rw [splitFirst_none.mpr h]

theorem find?_toFront
    (h : ∀ pre x post, l = pre ++ x :: post → p x = true → (∀ y ∈ pre, p y = false) →
      q x = true → ∀ y ∈ pre, q y = false) : (toFront p ok l).find? q = l.find? q := by
  rcases toFront_cases p ok l with h1 | ⟨pre, x, post, h1, h2, h3, h4⟩
  · rw [h1]
  · rw [h4, h1]
    by_cases hq : q x = true
    · have hpre : pre.find? q = none :=
        find?_eq_none.mpr fun y hy => by simp [h pre x post h1 h2 h3 hq y hy]
      rw [find?_append, hpre]
      simp [hq]
    · simp [find?_append, hq]

/-! ## 4. Searching a list of labelled values -/

theorem splitFirst_map {p : β → Bool} (g : α → β) (l : List α) :
    splitFirst p (l.map g) =
      (splitFirst (fun x => p (g x)) l).map fun r => (r.1.map g, g r.2.1, r.2.2.map g) := by
  induction l with
  | nil => rfl
  | cons x l ih =>
    rw [map_cons, splitFirst, splitFirst, ih]
    by_cases hx : p (g x) = true
    · rw [if_pos hx, if_pos hx]
      rfl
    · rw [if_neg hx, if_neg hx]
      cases splitFirst (fun x => p (g x)) l <;> rfl

theorem toFront_map {p ok : β → Bool} (g : α → β) (l : List α) :
    toFront p ok (l.map g) = (toFront (fun x => p (g x)) (fun x => ok (g x)) l).map g := by
  unfold toFront
  rw [splitFirst_map]
  cases splitFirst (fun x => p (g x)) l with
  | none => rfl
  | some r =>
    obtain ⟨pre, x, post⟩ := r
    simp only [Option.map_some, length_map]
    split <;> simp

theorem modifyFirst_map {p : β → Bool} {f : β → β} {f' : α → α} (g : α → β)
    (hf : ∀ x, g (f' x) = f (g x)) (l : List α) :
    modifyFirst p f (l.map g) = (modifyFirst (fun x => p (g x)) f' l).map g := by
  induction l with
  | nil => rfl
  | cons x l ih =>
    rw [map_cons, modifyFirst, modifyFirst, ih]
    split
    · rw [map_cons, hf]
    · rw [map_cons]

/-! ## 5. Tests that may fail -/

section FirstOf

variable {ε : Type} [LT α]

/-- What the search of the least element of `l` that meets `f` ends with: the element, nothing, or
    the failure of a test before. -/
inductive FirstOf (f : α → Except ε Bool) (l : List α) : Except ε (Option α) → Prop
  | hit {a : α} (ha : a ∈ l) (hf : f a = .ok true) (hbefore : ∀ b ∈ l, b < a → f b = .ok false) :
      FirstOf f l (.ok (some a))
  | miss (hall : ∀ b ∈ l, f b = .ok false) : FirstOf f l (.ok none)
  | fail {a : α} {e : ε} (ha : a ∈ l) (hf : f a = .error e)
      (hbefore : ∀ b ∈ l, b < a → f b = .ok false) : FirstOf f l (.error e)

theorem firstOf_findM? {f : α → Except ε Bool} {l : List α} (hl : l.Pairwise (· < ·))
    (hasymm : ∀ a b : α, a < b → ¬b < a) : FirstOf f l (l.findM? f) := by
  induction l with
  | nil => exact .miss fun b hb => (nomatch hb)
  | cons a l ih =>
    obtain ⟨hlt, hl⟩ := pairwise_cons.mp hl
    have hno : ∀ b ∈ a :: l, ¬b < a := by
      intro b hb hba
      rcases mem_cons.mp hb with rfl | hb
      · exact hasymm b b hba hba
      · exact hasymm a b (hlt b hb) hba
    unfold List.findM?
    cases hf : f a with
    | error e => exact .fail mem_cons_self hf fun b hb hba => absurd hba (hno b hb)
    | ok t =>
      cases t with
      | true => exact .hit mem_cons_self hf fun b hb hba => absurd hba (hno b hb)
      | false =>
        have hcons : ∀ {c : α}, (∀ b ∈ l, b < c → f b = .ok false) →
            ∀ b ∈ a :: l, b < c → f b = .ok false := by
          intro c h b hb hbc
          rcases mem_cons.mp hb with rfl | hb
          · exact hf
          · exact h b hb hbc
        show FirstOf f (a :: l) (l.findM? f)
        have hrest := ih hl
        generalize l.findM? f = r at hrest ⊢
        cases hrest with
        | hit hc hfc hbefore => exact .hit (mem_cons_of_mem a hc) hfc (hcons hbefore)
        | miss hall => exact .miss (forall_mem_cons.mpr ⟨hf, hall⟩)
        | fail hc hfc hbefore => exact .fail (mem_cons_of_mem a hc) hfc (hcons hbefore)

end FirstOf

end TcpPath.Util
