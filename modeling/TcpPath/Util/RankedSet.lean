/-
  Subject:   Lists in the order of a rank, with one element for each key.

  Results:   `puts_spec`: the last of each key is left, in the order of the ranks;
             `puts_eq_iff`: when two orders of insertion give one list;
             `foldlM_eq_of_perm`: a fold over elements that commute within a rank.
-/
import Mathlib.Data.List.Induction
import Mathlib.Data.List.Nodup
import Mathlib.Data.List.Perm.Basic
import Mathlib.Tactic.Common

namespace TcpPath.Util

open List

variable {α κ : Type} (key : α → κ) (rank : α → Nat)

/-- `x` takes the place of the element with its key, or comes before the first of greater rank. -/
def put [DecidableEq κ] (l : List α) (x : α) : List α :=
  match l with
  | [] => [x]
  | y :: l =>
    if key y = key x then x :: l
    else if rank x < rank y then x :: y :: l
    else y :: put l x

/-- In the order of the rank, with each key once. -/
structure IsRanked (l : List α) : Prop where
  sorted : l.Pairwise fun a b => rank a ≤ rank b
  nodup : (l.map key).Nodup

/-- `z` is the last element of `ws` with its key. -/
def IsLast (ws : List α) (z : α) : Prop :=
  ∃ pre post, ws = pre ++ z :: post ∧ ∀ w ∈ post, key w ≠ key z

variable {key rank} {l ws ws' : List α} {x y z : α}

/-! ## 1. One element -/

theorem isRanked_nil : IsRanked key rank ([] : List α) := ⟨.nil, .nil⟩

theorem isRanked_cons :
    IsRanked key rank (y :: l) ↔
      (∀ z ∈ l, rank y ≤ rank z ∧ key z ≠ key y) ∧ IsRanked key rank l := by
  constructor
  · intro ⟨hs, hn⟩
    obtain ⟨hle, hs⟩ := pairwise_cons.mp hs
    obtain ⟨hnot, hn⟩ := nodup_cons.mp hn
    exact ⟨fun z hz => ⟨hle z hz, fun e => hnot (e ▸ mem_map_of_mem hz)⟩, hs, hn⟩
  · intro ⟨h, hs, hn⟩
    refine ⟨pairwise_cons.mpr ⟨fun z hz => (h z hz).1, hs⟩,
      nodup_cons.mpr ⟨fun hmem => ?_, hn⟩⟩
    obtain ⟨z, hz, e⟩ := mem_map.mp hmem
    exact (h z hz).2 e

section Put

variable (hrank : ∀ x y, key x = key y → rank x = rank y)
include hrank

theorem IsRanked.key_ne_of_lt (h : IsRanked key rank (y :: l)) (hlt : rank x < rank y) :
    ∀ z ∈ y :: l, key z ≠ key x := by
  intro z hz e
  have hle : rank y ≤ rank z := by
    rcases mem_cons.mp hz with rfl | hz
    · exact Nat.le_refl _
    · exact ((isRanked_cons.mp h).1 z hz).1
  have := hrank z x e
  omega

variable [DecidableEq κ]

theorem mem_put (h : IsRanked key rank l) :
    z ∈ put key rank l x ↔ z = x ∨ z ∈ l ∧ key z ≠ key x := by
  induction l with
  | nil => simp [put]
  | cons y l ih =>
    obtain ⟨hy, hl⟩ := isRanked_cons.mp h
    rw [put]
    by_cases hkey : key y = key x
    · rw [if_pos hkey, mem_cons, mem_cons, ← hkey]
      refine or_congr_right ⟨fun hz => ⟨.inr hz, (hy z hz).2⟩, fun ⟨hz, hne⟩ => ?_⟩
      exact hz.resolve_left fun e => hne (e ▸ rfl)
    rw [if_neg hkey]
    by_cases hlt : rank x < rank y
    · rw [if_pos hlt, mem_cons]
      exact or_congr_right
        ⟨fun hz => ⟨hz, h.key_ne_of_lt hrank hlt z hz⟩, fun hz => hz.1⟩
    · rw [if_neg hlt, mem_cons, ih hl, mem_cons]
      constructor
      · intro hz
        rcases hz with rfl | rfl | ⟨hz, hne⟩
        · exact .inr ⟨.inl rfl, hkey⟩
        · exact .inl rfl
        · exact .inr ⟨.inr hz, hne⟩
      · intro hz
        rcases hz with rfl | ⟨rfl | hz, hne⟩
        · exact .inr (.inl rfl)
        · exact .inl rfl
        · exact .inr (.inr ⟨hz, hne⟩)

/-- **The list stays what it is.** -/
theorem IsRanked.put (h : IsRanked key rank l) (x : α) : IsRanked key rank (put key rank l x) := by
  induction l with
  | nil => exact ⟨pairwise_singleton _ _, nodup_singleton _⟩
  | cons y l ih =>
    obtain ⟨hy, hl⟩ := isRanked_cons.mp h
    rw [Util.put]
    by_cases hkey : key y = key x
    · rw [if_pos hkey]
      refine isRanked_cons.mpr ⟨fun z hz => ?_, hl⟩
      rw [← hrank y x hkey, ← hkey]
      exact hy z hz
    rw [if_neg hkey]
    by_cases hlt : rank x < rank y
    · rw [if_pos hlt]
      refine isRanked_cons.mpr ⟨fun z hz => ⟨?_, h.key_ne_of_lt hrank hlt z hz⟩, h⟩
      rcases mem_cons.mp hz with rfl | hz
      · exact Nat.le_of_lt hlt
      · exact Nat.le_trans (Nat.le_of_lt hlt) (hy z hz).1
    · rw [if_neg hlt]
      refine isRanked_cons.mpr ⟨fun z hz => ?_, ih hl⟩
      rcases (mem_put hrank hl).mp hz with rfl | ⟨hz, _⟩
      · exact ⟨Nat.le_of_not_lt hlt, fun e => hkey e.symm⟩
      · exact hy z hz

omit hrank in
theorem filter_put (h : IsRanked key rank l) (hx : ∀ y ∈ l, key y ≠ key x) (r : Nat) :
    (put key rank l x).filter (rank · = r) =
      l.filter (rank · = r) ++ [x].filter (rank · = r) := by
  induction l with
  | nil => rfl
  | cons y l ih =>
    obtain ⟨hy, hl⟩ := isRanked_cons.mp h
    obtain ⟨hxy, hx⟩ := forall_mem_cons.mp hx
    rw [put, if_neg hxy]
    by_cases hlt : rank x < rank y
    · rw [if_pos hlt]
      by_cases hr : rank x = r
      · -- all that comes behind is of greater rank
        have hnone : (y :: l).filter (rank · = r) = [] := by
          refine filter_eq_nil_iff.mpr (forall_mem_cons.mpr ⟨?_, fun z hz => ?_⟩)
          · rw [decide_eq_true_iff]
            omega
          · have := (hy z hz).1
            rw [decide_eq_true_iff]
            omega
        rw [filter_cons, if_pos (decide_eq_true hr), hnone, nil_append, filter_cons,
          if_pos (decide_eq_true hr), filter_nil]
      · rw [filter_cons_of_neg (by simpa using hr), filter_singleton,
          decide_eq_false hr, Bool.cond_false, append_nil]
    · rw [if_neg hlt, filter_cons, filter_cons, ih hl hx]
      split <;> rfl

/-! ## 2. Elements one after the other -/

omit hrank [DecidableEq κ] in
theorem isLast_concat : IsLast key (ws ++ [x]) z ↔ z = x ∨ IsLast key ws z ∧ key z ≠ key x := by
  constructor
  · intro ⟨pre, post, heq, hpost⟩
    rcases eq_nil_or_concat post with rfl | ⟨post, w, rfl⟩
    · exact .inl (singleton_inj.mp (append_inj' heq rfl).2).symm
    · rw [concat_eq_append, ← cons_append, ← append_assoc] at heq
      obtain ⟨hws, hx⟩ := append_inj' heq rfl
      obtain rfl := singleton_inj.mp hx
      rw [concat_eq_append] at hpost
      exact .inr ⟨⟨pre, post, hws, fun w hw => hpost w (mem_append_left _ hw)⟩,
        fun e => hpost x (mem_append_right _ (mem_singleton_self x)) e.symm⟩
  · intro h
    rcases h with rfl | ⟨⟨pre, post, rfl, hpost⟩, hne⟩
    · exact ⟨ws, [], rfl, fun _ hw => (nomatch hw)⟩
    · refine ⟨pre, post ++ [x], by rw [append_assoc]; rfl, fun w hw => ?_⟩
      rcases mem_append.mp hw with hw | hw
      · exact hpost w hw
      · rw [mem_singleton.mp hw]
        exact fun e => hne e.symm

/-- **The last of each key**, in the order of the ranks. -/
theorem puts_spec (ws : List α) :
    IsRanked key rank (ws.foldl (put key rank) []) ∧
      ∀ z, z ∈ ws.foldl (put key rank) [] ↔ IsLast key ws z := by
  induction ws using List.reverseRecOn with
  | nil =>
    refine ⟨isRanked_nil, fun z => ⟨fun hz => (nomatch hz), fun ⟨pre, post, heq, _⟩ => ?_⟩⟩
    cases pre <;> cases heq
  | append_singleton ws x ih =>
    obtain ⟨hranked, hmem⟩ := ih
    rw [foldl_append, foldl_cons, foldl_nil]
    refine ⟨hranked.put hrank x, fun z => ?_⟩
    rw [mem_put hrank hranked, isLast_concat, hmem]

theorem filter_puts (h : (ws.map key).Nodup) (r : Nat) :
    (ws.foldl (put key rank) []).filter (rank · = r) = ws.filter (rank · = r) := by
  induction ws using List.reverseRecOn with
  | nil => rfl
  | append_singleton ws x ih =>
    rw [map_append, map_singleton, nodup_append] at h
    obtain ⟨hws, _, hx⟩ := h
    obtain ⟨hranked, hmem⟩ := puts_spec hrank ws
    have hnew : ∀ y ∈ ws.foldl (put key rank) [], key y ≠ key x := by
      intro y hy
      obtain ⟨pre, post, rfl, _⟩ := (hmem y).mp hy
      exact hx _ (mem_map_of_mem (mem_append_right _ mem_cons_self)) _
        (mem_singleton_self _)
    rw [foldl_append, foldl_cons, foldl_nil, filter_put hranked hnew,
      filter_append, ih hws]

omit hrank [DecidableEq κ] in
theorem eq_of_filter_eq {l l' : List α} (h : l.Pairwise fun a b => rank a ≤ rank b)
    (h' : l'.Pairwise fun a b => rank a ≤ rank b)
    (hf : ∀ r, l.filter (rank · = r) = l'.filter (rank · = r)) : l = l' := by
  have hmem : ∀ x, x ∈ l ↔ x ∈ l' := by
    intro x
    have := congrArg (x ∈ ·) (hf (rank x))
    simpa using this
  induction l generalizing l' with
  | nil =>
    refine (eq_nil_iff_forall_not_mem.mpr fun x hx => ?_).symm
    exact (nomatch (hmem x).mpr hx)
  | cons x l ih =>
    cases l' with
    | nil => exact (nomatch (hmem x).mp mem_cons_self)
    | cons y l' =>
      obtain ⟨hx, hl⟩ := pairwise_cons.mp h
      obtain ⟨hy, hl'⟩ := pairwise_cons.mp h'
      -- both heads are of the least rank there is
      have hrank : rank x = rank y := by
        refine Nat.le_antisymm ?_ ?_
        · rcases mem_cons.mp ((hmem y).mpr mem_cons_self) with e | hmem
          · exact Nat.le_of_eq (congrArg rank e.symm)
          · exact hx y hmem
        · rcases mem_cons.mp ((hmem x).mp mem_cons_self) with e | hmem
          · exact Nat.le_of_eq (congrArg rank e.symm)
          · exact hy x hmem
      have hhead := hf (rank x)
      rw [filter_cons, filter_cons, if_pos (decide_eq_true rfl),
        if_pos (decide_eq_true hrank.symm), List.cons.injEq] at hhead
      obtain ⟨rfl, _⟩ := hhead
      have hrest : ∀ r, l.filter (rank · = r) = l'.filter (rank · = r) := by
        intro r
        have hr := hf r
        rw [filter_cons, filter_cons] at hr
        split at hr
        · exact (List.cons.inj hr).2
        · exact hr
      refine congrArg (x :: ·) (ih hl hl' hrest fun z => ?_)
      have := congrArg (z ∈ ·) (hrest (rank z))
      simpa using this

/-- **The list and the orders in which the elements of each rank were put.** -/
theorem puts_eq_iff (h : (ws.map key).Nodup) (h' : (ws'.map key).Nodup) :
    ws.foldl (put key rank) [] = ws'.foldl (put key rank) [] ↔
      ∀ r, ws.filter (rank · = r) = ws'.filter (rank · = r) := by
  constructor
  · intro heq r
    rw [← filter_puts hrank h, ← filter_puts hrank h', heq]
  · intro hf
    refine eq_of_filter_eq (puts_spec hrank ws).1.sorted (puts_spec hrank ws').1.sorted fun r => ?_
    rw [filter_puts hrank h, filter_puts hrank h', hf r]

theorem puts_perm [DecidableEq α] (h : (ws.map key).Nodup) :
    (ws.foldl (put key rank) []).Perm ws := by
  refine perm_iff_count.mpr fun a => ?_
  have hcount : ∀ l : List α, (l.filter (rank · = rank a)).count a = l.count a :=
    fun l => count_filter (decide_eq_true rfl)
  rw [← hcount, filter_puts hrank h, hcount]

end Put

/-! ## 3. Folds over lists in the order of the rank -/

section Fold

variable {β : Type} {m : Type → Type} [Monad m] [LawfulMonad m] {f : β → α → m β}

theorem foldlM_middle {pre post : List α} {a : α}
    (h : ∀ y ∈ pre, ∀ s, (f s y >>= (f · a)) = (f s a >>= (f · y))) (s : β) :
    (pre ++ a :: post).foldlM f s = (a :: (pre ++ post)).foldlM f s := by
  induction pre generalizing s with
  | nil => rfl
  | cons y pre ih =>
    have hy := h y mem_cons_self s
    calc (y :: (pre ++ a :: post)).foldlM f s
        = f s y >>= fun s => (a :: (pre ++ post)).foldlM f s := by
          rw [foldlM_cons]
          exact bind_congr fun s => ih (fun z hz => h z (mem_cons_of_mem _ hz)) s
      _ = (f s y >>= (f · a)) >>= fun s => (pre ++ post).foldlM f s := by
          simp only [foldlM_cons, bind_assoc]
      _ = (a :: y :: (pre ++ post)).foldlM f s := by
          rw [hy]
          simp only [foldlM_cons, bind_assoc]

/-- **Where elements of one rank commute, the fold does not depend on their order.** -/
theorem foldlM_eq_of_perm {l l' : List α} (hl : l.Pairwise fun a b => rank a ≤ rank b)
    (hl' : l'.Pairwise fun a b => rank a ≤ rank b) (hp : l.Perm l')
    (hcomm : ∀ a ∈ l, ∀ b ∈ l, rank a = rank b → ∀ s, (f s a >>= (f · b)) = (f s b >>= (f · a)))
    (s : β) : l.foldlM f s = l'.foldlM f s := by
  induction l generalizing l' s with
  | nil => rw [hp.nil_eq]
  | cons a l ih =>
    obtain ⟨ha, hl⟩ := pairwise_cons.mp hl
    obtain ⟨pre, post, rfl⟩ := append_of_mem (hp.mem_iff.mp mem_cons_self)
    have hrest : l.Perm (pre ++ post) := (hp.trans perm_middle).cons_inv
    -- those in front of `a` are of its rank
    have hpre : ∀ y ∈ pre, ∀ s, (f s y >>= (f · a)) = (f s a >>= (f · y)) := by
      intro y hy
      have hmem : y ∈ l := hrest.mem_iff.mpr (mem_append_left _ hy)
      have hle := (pairwise_append.mp hl').2.2 y hy a mem_cons_self
      exact hcomm y (mem_cons_of_mem _ hmem) a mem_cons_self
        (Nat.le_antisymm hle (ha y hmem))
    rw [foldlM_middle hpre, foldlM_cons, foldlM_cons]
    refine bind_congr fun s => ih hl (hl'.sublist ?_) hrest (fun x hx y hy => ?_) s
    · exact (sublist_cons_self a post).append_left pre
    · exact hcomm x (mem_cons_of_mem _ hx) y (mem_cons_of_mem _ hy)

end Fold

end TcpPath.Util
