/-
  Subject:   Lists whose elements have a key no other element has, and lists kept in an order.

  * an element is changed, taken out and known by its key;
  * `pairwise_orderedInsert_lt`: insertion before the first greater key, as loops do it that stop
    there; Mathlib's `Pairwise.orderedInsert` is about a total relation and does not apply;
  * sums and counts over a list when one element changes or goes;
  * searches and selections: `filter_map_insert`, `find?_first`, `takeWhile_eq_filter`.
-/
import Mathlib.Algebra.GroupWithZero.Nat
import Mathlib.Algebra.Order.BigOperators.Group.List
import Mathlib.Algebra.Order.Group.Nat
import Mathlib.Data.List.Sort
import Mathlib.Data.List.Nodup
import Mathlib.Order.Defs.LinearOrder
import TcpPath.Util.FirstMatch

namespace TcpPath.Util

open List

variable {α κ : Type}

/-! ## 1. Keys -/

section Keys

variable [DecidableEq κ] {key : α → κ}

theorem filter_key_ne {pre post : List α} {x : α}
    (h : ((pre ++ x :: post).map key).Nodup) :
    (pre ++ x :: post).filter (key · != key x) = pre ++ post := by
  rw [map_append, map_cons, nodup_middle, nodup_cons, mem_append] at h
  have hkeep : ∀ l : List α, key x ∉ l.map key → l.filter (key · != key x) = l := by
    intro l hl
    refine filter_eq_self.mpr fun y hy => bne_iff_ne.mpr fun e => hl ?_
    rw [← e]
    exact mem_map_of_mem hy
  rw [filter_append, filter_cons_of_neg (by simp), hkeep pre fun hm => h.1 (.inl hm),
    hkeep post fun hm => h.1 (.inr hm)]

variable {k : κ} {l : List α}

theorem modifyFirst_eq_map {f : α → α} (h : (l.map key).Nodup) :
    modifyFirst (key · == k) f l = l.map fun x => if key x = k then f x else x := by
  induction l with
  | nil => rfl
  | cons x l ih =>
    rw [map_cons, nodup_cons] at h
    rw [modifyFirst, map_cons]
    by_cases hx : key x = k
    · have hrest : l.map (fun y => if key y = k then f y else y) = l := by
        refine (map_congr_left fun y hy => if_neg fun e => h.1 ?_).trans (map_id' l)
        rw [hx, ← e]
        exact mem_map_of_mem hy
      rw [if_pos (beq_iff_eq.mpr hx), if_pos hx, hrest]
    · rw [if_neg (fun e => hx (eq_of_beq e)), if_neg hx, ih h.2]

theorem find?_key_modifyFirst (key : α → κ) (f : α → α) (hf : ∀ x, key (f x) = k) (l : List α)
    (k' : κ) :
    (modifyFirst (key · == k) f l).find? (key · == k') =
      if k' = k then (l.find? (key · == k')).map f else l.find? (key · == k') := by
  induction l with
  | nil => simp [modifyFirst]
  | cons x l ih =>
    rw [modifyFirst]
    by_cases hx : key x = k
    · by_cases hk : k' = k
      · simp [hx, hf, hk]
      · simp [hx, hf, hk, Ne.symm hk]
    · by_cases hk : key x = k'
      · simp [← hk, hx]
      · simpa [hx, hk] using ih

theorem find?_key_eraseP (key : α → κ) (h : (l.map key).Nodup) (k' : κ) :
    (l.eraseP (key · == k)).find? (key · == k') =
      if k' = k then none else l.find? (key · == k') := by
  induction l with
  | nil => simp
  | cons x l ih =>
    rw [map_cons, nodup_cons] at h
    by_cases hx : key x = k
    · rw [eraseP_cons, beq_iff_eq.mpr hx, cond_true]
      by_cases hk : k' = k
      · rw [if_pos hk]
        refine find?_eq_none.mpr fun y hy e => h.1 ?_
        rw [hx, ← hk, ← eq_of_beq e]
        exact mem_map_of_mem hy
      · simp [hx, hk, Ne.symm hk]
    · rw [eraseP_cons, beq_eq_false_iff_ne.mpr hx, cond_false]
      by_cases hk : key x = k'
      · simp [← hk, hx]
      · simpa [hk] using ih h.2

end Keys

variable {l : List α} {x : α} {f : α → κ} {R : α → α → Prop} {p : α → Bool}

theorem mem_map_key_iff {key : α → κ} {L : List α} (h : (L.map key).Nodup) (hl : ∀ y ∈ l, y ∈ L)
    (hx : x ∈ L) : key x ∈ l.map key ↔ x ∈ l := by
  rw [mem_map]
  constructor
  · intro ⟨y, hy, hyx⟩
    exact inj_on_of_nodup_map h (hl y hy) hx hyx ▸ hy
  · intro hmem
    exact ⟨x, hmem, rfl⟩

/-- New things, of which a list has each once, are put before others: none is there twice. -/
theorem nodup_map_append_iff {L : List κ} (hl : l.Nodup) (hL : L.Nodup) :
    (l.map f ++ L).Nodup ↔ ∀ x ∈ l, f x ∉ L ∧ ∀ y ∈ l, f y = f x → y = x := by
  rw [nodup_append', nodup_map_iff_inj_on hl]
  constructor
  · intro ⟨hinj, _, hdisj⟩ x hx
    exact ⟨hdisj (mem_map_of_mem hx), fun y hy hf => hinj y hy x hx hf⟩
  · intro h
    refine ⟨fun y hy x hx hf => (h x hx).2 y hy hf, hL, fun a ha haL => ?_⟩
    obtain ⟨x, hx, rfl⟩ := mem_map.mp ha
    exact (h x hx).1 haL

/-- The same of the elements with `q`, where the others must not have what comes new. -/
theorem nodup_map_filter_append_iff {q : α → Bool} {L : List κ} (hl : l.Nodup) (hL : L.Nodup) :
    (((l.filter q).map f ++ L).Nodup ∧
        ∀ y ∈ l, q y = false → f y ∈ (l.filter q).map f ++ L → f y ∈ L) ↔
      ∀ x ∈ l, q x = true → f x ∉ L ∧ ∀ y ∈ l, f y = f x → y = x := by
  rw [nodup_map_append_iff (hl.filter q) hL]
  constructor
  · intro ⟨hnuevas, hotros⟩ x hx hqx
    have hxq := mem_filter.mpr ⟨hx, hqx⟩
    obtain ⟨hxL, hinj⟩ := hnuevas x hxq
    refine ⟨hxL, fun y hy hf => ?_⟩
    cases hqy : q y with
    | true => exact hinj y (mem_filter.mpr ⟨hy, hqy⟩) hf
    | false =>
      have hmem := hotros y hy hqy (mem_append_left _ (hf ▸ mem_map_of_mem hxq))
      exact absurd (hf ▸ hmem) hxL
  · intro h
    constructor
    · intro x hx
      obtain ⟨hx, hqx⟩ := mem_filter.mp hx
      obtain ⟨hxL, hinj⟩ := h x hx hqx
      exact ⟨hxL, fun y hy hf => hinj y (mem_of_mem_filter hy) hf⟩
    · intro y hy hqy hmem
      refine (mem_append.mp hmem).resolve_left fun hmem => ?_
      obtain ⟨x, hx, hf⟩ := mem_map.mp hmem
      obtain ⟨hx, hqx⟩ := mem_filter.mp hx
      rw [(h x hx hqx).2 y hy hf.symm, hqx] at hqy
      cases hqy

/-- Some elements get `a` in the place of what they had: with what they had, this is what there was
    and `a` as often. -/
theorem perm_map_ite_append {q : α → Bool} (a : κ) (l : List α) :
    l.map (fun x => if q x then a else f x) ++ (l.filter q).map f ~
      replicate (l.countP q) a ++ l.map f := by
  induction l with
  | nil => exact .refl _
  | cons x l ih =>
    cases hq : q x with
    | true =>
      rw [map_cons, if_pos hq, filter_cons_of_pos hq, map_cons, countP_cons_of_pos hq,
        replicate_succ, map_cons]
      refine Perm.cons a ?_
      exact perm_middle.trans ((ih.cons (f x)).trans perm_middle.symm)
    | false =>
      have hn : ¬q x = true := by rw [hq]; exact Bool.false_ne_true
      rw [map_cons, if_neg hn, filter_cons_of_neg hn, countP_cons_of_neg hn, map_cons]
      exact (ih.cons (f x)).trans perm_middle.symm

/-! ## 2. Sums -/

section Sums

variable {p : α → Bool} {l : List α} {x : α}

theorem sum_modifyFirst (g : α → Nat) (f : α → α) (h : l.find? p = some x) :
    ((modifyFirst p f l).map g).sum + g x = (l.map g).sum + g (f x) := by
  obtain ⟨hp, pre, post, rfl, hpre⟩ := find?_eq_some_iff_append.mp h
  rw [modifyFirst_append (fun y hy => by simpa using hpre y hy) hp]
  simp only [map_append, map_cons, sum_append, sum_cons]
  omega

theorem sum_eraseP (g : α → Nat) (h : l.find? p = some x) :
    ((l.eraseP p).map g).sum + g x = (l.map g).sum := by
  obtain ⟨hp, pre, post, rfl, hpre⟩ := find?_eq_some_iff_append.mp h
  rw [eraseP_append_right _ (fun y hy => by simpa using hpre y hy),
    eraseP_cons_of_pos hp]
  simp only [map_append, map_cons, sum_append, sum_cons]
  omega

theorem mem_of_sum_le {w : α → Nat} (hw : ∀ x, 0 < w x) {l' : List α} (hl : l.Nodup)
    (hsub : l ⊆ l') (hsum : (l'.map w).sum ≤ (l.map w).sum) (hx : x ∈ l') : x ∈ l := by
  by_contra hno
  obtain ⟨l'', hperm, hsublist⟩ := subperm_of_subset
    (nodup_cons.mpr ⟨hno, hl⟩) (cons_subset.mpr ⟨hx, hsub⟩)
  have hle := (hsublist.map w).sum_le_sum fun _ _ => Nat.zero_le _
  rw [(hperm.map w).sum_eq, map_cons, sum_cons] at hle
  have := hw x
  omega

end Sums

theorem countP_update [DecidableEq α] {l : List α} {i : α} (hl : l.Nodup) (hi : i ∈ l)
    (f : α → Bool) (b : Bool) :
    l.countP (Function.update f i b) + (f i).toNat = l.countP f + b.toNat := by
  have hresto : ∀ {l : List α}, i ∉ l → l.countP (Function.update f i b) = l.countP f := by
    intro l hl
    refine countP_congr fun j hj => ?_
    rw [Function.update_of_ne (by rintro rfl; exact hl hj)]
  obtain ⟨pre, post, rfl⟩ := append_of_mem hi
  obtain ⟨hpre, hpost⟩ := not_or.mp (mem_append.not.mp (nodup_middle.mp hl).notMem)
  rw [countP_append, countP_append, countP_cons, countP_cons,
    hresto hpre, hresto hpost, Function.update_self]
  cases f i <;> cases b <;> simp <;> omega

/-! ## 3. Orders -/

theorem pairwise_orderedInsert_lt [LinearOrder κ] (k : α → κ) (a : α)
    (h : l.Pairwise fun x y => k x ≤ k y) :
    (l.orderedInsert (fun x y => k x < k y) a).Pairwise fun x y => k x ≤ k y := by
  induction l with
  | nil => exact pairwise_singleton _ a
  | cons b l ih =>
    obtain ⟨hb, hl⟩ := pairwise_cons.mp h
    rw [orderedInsert_cons]
    split
    · rename_i hab
      refine pairwise_cons.mpr ⟨fun y hy => ?_, h⟩
      rcases mem_cons.mp hy with rfl | hy
      · exact le_of_lt hab
      · exact le_trans (le_of_lt hab) (hb y hy)
    · rename_i hab
      refine pairwise_cons.mpr ⟨fun y hy => ?_, ih hl⟩
      rcases (mem_orderedInsert _).mp hy with rfl | hy
      · exact not_lt.mp hab
      · exact hb y hy

theorem pairwise_insert {pre post : List α} (h : (pre ++ post).Pairwise R) (hpre : ∀ a ∈ pre, R a x)
    (hpost : ∀ b ∈ post, R x b) : (pre ++ x :: post).Pairwise R := by
  obtain ⟨h1, h2, h3⟩ := pairwise_append.mp h
  refine pairwise_append.mpr ⟨h1, pairwise_cons.mpr ⟨hpost, h2⟩, fun a ha b hb => ?_⟩
  rcases mem_cons.mp hb with rfl | hb
  · exact hpre a ha
  · exact h3 a ha b hb

theorem filter_map_insert (p : α → Bool) (g : α → κ) (pre post : List α) (x : α) :
    (((pre ++ x :: post).filter p).map g).Perm
      ((if p x then [g x] else []) ++ ((pre ++ post).filter p).map g) := by
  have h : ((pre ++ x :: post).filter p).Perm ((x :: (pre ++ post)).filter p) :=
    perm_middle.filter p
  refine (h.map g).trans (.of_eq ?_)
  rw [filter_cons]
  split <;> rfl

/-- **The first hit** of a search stands, in the order of the list, before every other hit. -/
theorem find?_first (h : l.Pairwise R) (hx : l.find? p = some x) :
    x ∈ l ∧ p x = true ∧ ∀ y ∈ l, p y = true → y = x ∨ R x y := by
  obtain ⟨hp, pre, post, rfl, hpre⟩ := find?_eq_some_iff_append.mp hx
  refine ⟨mem_append_right _ mem_cons_self, hp, fun y hy hpy => ?_⟩
  obtain ⟨_, h2, _⟩ := pairwise_append.mp h
  rcases mem_append.mp hy with hy | hy
  · have := hpre y hy
    rw [hpy] at this
    cases this
  · rcases mem_cons.mp hy with rfl | hy
    · exact .inl rfl
    · exact .inr ((pairwise_cons.mp h2).1 y hy)

theorem takeWhile_eq_filter (h : l.Pairwise fun x y => p y = true → p x = true) :
    l.takeWhile p = l.filter p := by
  induction l with
  | nil => rfl
  | cons x l ih =>
    obtain ⟨hx, hl⟩ := pairwise_cons.mp h
    by_cases hp : p x = true
    · rw [takeWhile_cons_of_pos hp, filter_cons_of_pos hp, ih hl]
    · rw [takeWhile_cons_of_neg hp, filter_cons_of_neg hp]
      exact (filter_eq_nil_iff.mpr fun y hy hpy => hp (hx y hy hpy)).symm

theorem exists_of_perm_map {m : List κ} (h : m.Perm (l.map f)) :
    ∃ l' : List α, m = l'.map f ∧ l'.Perm l := by
  have hcomp : Relation.Comp (· = List.map f ·) List.Perm m l := by
    rw [eq_map_comp_perm]
    exact h
  exact hcomp

end TcpPath.Util
