/-
  Subject:   Loops over a vector: refresh an element or push a new one back, erase and start
             again, draw indices at random until a free one comes up.
-/
import TcpPath.Util.FirstMatch
import Mathlib.Data.List.GetD
import Mathlib.Data.List.Nodup
import Mathlib.Data.List.Perm.Subperm
import Mathlib.Tactic.Ring

namespace TcpPath.Util

open List

variable {α κ : Type}

/-! ## 1. Refresh or push back -/

/-- Change the first element that meets `p`, or append `x` if there is none. -/
def upsert (p : α → Bool) (f : α → α) (x : α) (l : List α) : List α :=
  if l.any p then modifyFirst p f l else l ++ [x]

section Upsert

variable {p : α → Bool} {f : α → α} {x : α} {l : List α}

theorem upsert_of_mem {y : α} (hy : y ∈ l) (hp : p y = true) :
    upsert p f x l = modifyFirst p f l :=
  if_pos (any_eq_true.mpr ⟨y, hy, hp⟩)

theorem upsert_of_not (h : ∀ y ∈ l, p y = false) : upsert p f x l = l ++ [x] := by
  refine if_neg ?_
  simpa using h

/-- **Keys stay unique**, if the change keeps the key and every element with the key of `x` is
    a hit. -/
theorem nodup_map_upsert (g : α → κ) (hf : ∀ y, p y = true → g (f y) = g y)
    (hx : ∀ y, g y = g x → p y = true) (h : (l.map g).Nodup) :
    ((upsert p f x l).map g).Nodup := by
  by_cases hany : ∃ y ∈ l, p y = true
  · obtain ⟨y, hy, hp⟩ := hany
    rw [upsert_of_mem hy hp, map_modifyFirst g hf]
    exact h
  · push Not at hany
    have hno : ∀ y ∈ l, p y = false := fun y hy => Bool.eq_false_iff.mpr (hany y hy)
    rw [upsert_of_not hno, map_append, map_singleton]
    refine List.Nodup.append h (nodup_singleton _) ?_
    intro k hk hkx
    obtain ⟨y, hy, rfl⟩ := mem_map.mp hk
    exact hany y hy (hx y (mem_singleton.mp hkx))

theorem mem_upsert {y : α} (h : y ∈ upsert p f x l) :
    y ∈ l ∨ (∃ z ∈ l, p z = true ∧ y = f z) ∨ (y = x ∧ ∀ z ∈ l, p z = false) := by
  by_cases hany : ∃ z ∈ l, p z = true
  · obtain ⟨z, hz, hp⟩ := hany
    rw [upsert_of_mem hz hp] at h
    rcases mem_modifyFirst h with h | ⟨w, hw, rfl⟩
    · exact .inl h
    · exact .inr (.inl ⟨w, mem_of_find?_eq_some hw, find?_some hw, rfl⟩)
  · push Not at hany
    have hno : ∀ z ∈ l, p z = false := fun z hz => Bool.eq_false_iff.mpr (hany z hz)
    rw [upsert_of_not hno, mem_append, mem_singleton] at h
    exact h.imp id fun h => .inr ⟨h, hno⟩

theorem exists_upsert {Q : α → Prop} (hf : ∀ y, p y = true → Q (f y)) (hx : Q x) :
    ∃ y ∈ upsert p f x l, Q y := by
  cases hfind : l.find? p with
  | some y =>
    rw [upsert_of_mem (mem_of_find?_eq_some hfind) (find?_some hfind)]
    exact ⟨f y, mem_modifyFirst_hit f hfind, hf y (find?_some hfind)⟩
  | none =>
    rw [upsert_of_not fun y hy => Bool.eq_false_iff.mpr (find?_eq_none.mp hfind y hy)]
    exact ⟨x, mem_append_right _ (mem_singleton_self _), hx⟩

theorem exists_upsert_iff {β : Type} [DecidableEq κ] (g : α → κ) (v : α → β) {k : κ} {w : β}
    (hf : ∀ y, g (f y) = g y ∧ v (f y) = v y) (hx : g x = k ∧ v x = w) (hnd : (l.map g).Nodup) :
    (∃ y ∈ upsert (fun y => decide (g y = k)) f x l, g y = k ∧ v y = w) ↔
      ∀ y ∈ l, g y = k → v y = w := by
  by_cases hany : ∃ y ∈ l, g y = k
  · obtain ⟨z, hz, hzk⟩ := hany
    rw [upsert_of_mem hz (decide_eq_true hzk)]
    -- keys and values are those of the old list
    have hmap := map_modifyFirst (p := fun y => decide (g y = k)) (fun y => (g y, v y))
      (fun y _ => Prod.ext (hf y).1 (hf y).2) l
    constructor
    · rintro ⟨y, hy, hk, hw⟩ u hu huk
      have hmem : (k, w) ∈ l.map fun y => (g y, v y) :=
        hmap ▸ mem_map.mpr ⟨y, hy, Prod.ext hk hw⟩
      obtain ⟨y', hy', heq⟩ := mem_map.mp hmem
      simp only [Prod.mk.injEq] at heq
      rw [inj_on_of_nodup_map hnd hu hy' (huk.trans heq.1.symm)]
      exact heq.2
    · intro hall
      have hmem : (k, w) ∈ (modifyFirst (fun y => decide (g y = k)) f l).map fun y => (g y, v y) :=
        hmap ▸ mem_map.mpr ⟨z, hz, Prod.ext hzk (hall z hz hzk)⟩
      obtain ⟨y, hy, heq⟩ := mem_map.mp hmem
      simp only [Prod.mk.injEq] at heq
      exact ⟨y, hy, heq⟩
  · push Not at hany
    rw [upsert_of_not fun y hy => decide_eq_false (hany y hy)]
    exact ⟨fun _ y hy hk => absurd hk (hany y hy),
      fun _ => ⟨x, mem_append_right _ (mem_singleton_self _), hx⟩⟩

end Upsert

theorem foldl_lastHit {β : Type} (p : α → Prop) [DecidablePred p] (f : α → β) (l : List α)
    (o : β) : (l.foldl (fun out x => if p x then f x else out) o = o ∧ ∀ x ∈ l, ¬ p x) ∨
      ∃ x ∈ l, p x ∧ l.foldl (fun out x => if p x then f x else out) o = f x := by
  induction l generalizing o with
  | nil => exact .inl ⟨rfl, by simp⟩
  | cons y l ih =>
    rw [foldl_cons]
    by_cases hy : p y
    · rw [if_pos hy]
      rcases ih (f y) with ⟨h, -⟩ | ⟨x, hx, hp, h⟩
      · exact .inr ⟨y, mem_cons_self, hy, h⟩
      · exact .inr ⟨x, mem_cons_of_mem _ hx, hp, h⟩
    · rw [if_neg hy]
      rcases ih o with ⟨h, hno⟩ | ⟨x, hx, hp, h⟩
      · exact .inl ⟨h, by simpa [hy] using hno⟩
      · exact .inr ⟨x, mem_cons_of_mem _ hx, hp, h⟩

/-! ## 2. Erase and start again -/

/-- The loop `if (p(*it)) { v.erase(it); it = v.begin(); } else it++;` from position `i`;
    `none` when the fuel ends first. -/
def eraseRestart (p : α → Bool) : Nat → List α → Nat → Option (List α)
  | 0, _, _ => none
  | n + 1, l, i =>
      match l[i]? with
      | none => some l
      | some x => if p x then eraseRestart p n (l.eraseIdx i) 0 else eraseRestart p n l (i + 1)

/-- The steps the loop needs at most on a vector of `n` elements. -/
def eraseFuel (n : Nat) : Nat := n * (n + 1) + n + 1

theorem eraseRestart_from {p : α → Bool} {n i : Nat} {l : List α} (hi : i ≤ l.length)
    (hkeep : ∀ x ∈ l.take i, p x = false) (hn : l.length * (l.length + 1) + (l.length - i) < n) :
    eraseRestart p n l i = some (l.filter (!p ·)) := by
  induction n generalizing l i with
  | zero => exact absurd hn (Nat.not_lt_zero _)
  | succ n ih =>
    rw [eraseRestart]
    cases hx : l[i]? with
    | none =>
      -- past the end: everything has been kept
      rw [List.getElem?_eq_none_iff] at hx
      rw [take_of_length_le hx] at hkeep
      simp only [Option.some.injEq]
      exact (filter_eq_self.mpr fun x hx => by simp [hkeep x hx]).symm
    | some x =>
      obtain ⟨hlt, hxi⟩ := List.getElem?_eq_some_iff.mp hx
      have hsplit : l = l.take i ++ x :: l.drop (i + 1) := by
        rw [← hxi, ← drop_eq_getElem_cons hlt, take_append_drop]
      by_cases hp : p x = true
      · have hlen : (l.eraseIdx i).length + 1 = l.length := by
          rw [length_eraseIdx_of_lt hlt]
          omega
        have hfuel : (l.eraseIdx i).length * ((l.eraseIdx i).length + 1) +
            ((l.eraseIdx i).length - 0) < n := by
          rw [← hlen] at hn
          generalize (l.eraseIdx i).length = k at hn
          have : (k + 1) * (k + 1 + 1) = k * (k + 1) + k + k + 2 := by ring
          omega
        simp only [hp, if_true]
        rw [ih (Nat.zero_le _) (by simp) hfuel, eraseIdx_eq_take_drop_succ]
        conv_rhs => rw [hsplit]
        simp [hp]
      · simp only [hp, if_false, Bool.false_eq_true]
        refine ih hlt ?_ (by omega)
        intro y hy
        rw [take_add_one, hx, mem_append] at hy
        rcases hy with hy | hy
        · exact hkeep y hy
        · simp only [Option.toList_some, mem_singleton] at hy
          simpa [hy] using hp

/-- **The loop ends and is a filter.** -/
theorem eraseRestart_eq (p : α → Bool) (l : List α) :
    eraseRestart p (eraseFuel l.length) l 0 = some (l.filter (!p ·)) := by
  refine eraseRestart_from (Nat.zero_le _) (by simp) ?_
  unfold eraseFuel
  omega

/-! ## 3. Draw until a free index comes up -/

/-- At most `k` more indices of the vector of marks `m` are chosen. An index that is drawn is
    first marked if `mark` says so; with `stop` the loop ends as soon as every index is marked.
    The drawn index is then chosen and marked, unless it is marked already or `veto` refuses it.
    `none` when the draws end before the loop, or when a draw is no index. -/
def drawDistinct (mark veto : Nat → Bool) (stop : Bool) :
    Nat → List Bool → List Nat → Option (List Nat)
  | 0, _, _ => some []
  | _ + 1, _, [] => none
  | k + 1, m, d :: ds =>
      if d < m.length then
        let m := if mark d then m.set d true else m
        if stop && m.all id then some []
        else if m.getD d false || veto d then drawDistinct mark veto stop (k + 1) m ds
        else (drawDistinct mark veto stop k (m.set d true) ds).map (d :: ·)
      else none

theorem getD_set_true (m : List Bool) (d i : Nat) (hd : d < m.length) :
    (m.set d true).getD i false = (decide (i = d) || m.getD i false) := by
  by_cases h : i = d
  · subst h
    simp [List.getD, hd]
  · simp [List.getD, getElem?_set_ne (Ne.symm h), h]

section Draw

variable {mark veto : Nat → Bool} {stop : Bool} {k : Nat} {m : List Bool} {ds out : List Nat}

theorem getD_marked (mark : Nat → Bool) (m : List Bool) (d i : Nat) (hd : d < m.length) :
    (if mark d then m.set d true else m).getD i false =
      (m.getD i false || (decide (i = d) && mark d)) := by
  cases hm : mark d with
  | true => rw [if_pos rfl, getD_set_true m d i hd, Bool.and_true, Bool.or_comm]
  | false => simp

theorem length_marked (mark : Nat → Bool) (m : List Bool) (d : Nat) :
    (if mark d then m.set d true else m).length = m.length := by
  split <;> simp

/-- **What the loop chooses**: free indices that neither `mark` nor `veto` excludes, each once;
    and `k` of them, unless it stopped with every index marked. -/
theorem drawDistinct_spec (h : drawDistinct mark veto stop k m ds = some out) :
    out.Nodup ∧
      (∀ i ∈ out, i < m.length ∧ m.getD i false = false ∧ mark i = false ∧ veto i = false) ∧
      (out.length = k ∨ ∀ i < m.length, m.getD i false = false → mark i = false → i ∈ out) := by
  induction ds generalizing k m out with
  | nil =>
    cases k with
    | zero =>
      cases h
      simp
    | succ k => cases h
  | cons d ds ih =>
    cases k with
    | zero =>
      cases h
      simp
    | succ k =>
      rw [drawDistinct] at h
      split at h
      case isFalse => cases h
      case isTrue hd =>
        have hlen := length_marked mark m d
        have hget := fun i => getD_marked mark m d i hd
        simp only at h
        generalize (if mark d then m.set d true else m) = m' at h hlen hget
        split at h
        · -- every index is marked: what was free is excluded by `mark`
          rename_i hall
          cases h
          simp only [Bool.and_eq_true, all_eq_true, id_eq] at hall
          refine ⟨nodup_nil, by simp, .inr fun i hi hfree hmark => ?_⟩
          have hi' : i < m'.length := hlen ▸ hi
          have htrue : m'.getD i false = true := by
            rw [getD_eq_getElem _ _ hi']
            exact hall.2 _ (getElem_mem hi')
          rw [hget, hfree, Bool.false_or, Bool.and_eq_true, decide_eq_true_eq] at htrue
          rw [htrue.1, htrue.2] at hmark
          cases hmark
        · split at h
          · -- a rejected draw
            obtain ⟨h1, h2, h3⟩ := ih h
            refine ⟨h1, fun i hi => ?_, h3.imp id fun h3 i hi hfree hmark => ?_⟩
            · obtain ⟨g1, g2, g3⟩ := h2 i hi
              rw [hget, Bool.or_eq_false_iff] at g2
              exact ⟨hlen ▸ g1, g2.1, g3⟩
            · refine h3 i (hlen ▸ hi) ?_ hmark
              rw [hget, hfree]
              by_cases hid : i = d
              · simp [← hid, hmark]
              · simp [hid]
          · -- `d` is chosen
            rename_i hrej
            simp only [Bool.or_eq_true, not_or, Bool.not_eq_true] at hrej
            obtain ⟨rest, hrest, rfl⟩ := Option.map_eq_some_iff.mp h
            obtain ⟨h1, h2, h3⟩ := ih hrest
            have hd' : d < m'.length := hlen ▸ hd
            have hdfree := hrej.1
            rw [hget] at hdfree
            simp only [decide_true, Bool.true_and, Bool.or_eq_false_iff] at hdfree
            refine ⟨nodup_cons.mpr ⟨fun hmem => ?_, h1⟩, fun i hi => ?_, ?_⟩
            · have := (h2 d hmem).2.1
              rw [getD_set_true _ _ _ hd'] at this
              simp at this
            · rcases mem_cons.mp hi with rfl | hi
              · exact ⟨hd, hdfree.1, hdfree.2, hrej.2⟩
              · obtain ⟨g1, g2, g3⟩ := h2 i hi
                rw [getD_set_true _ _ _ hd', hget] at g2
                simp only [Bool.or_eq_false_iff] at g2
                exact ⟨by simpa [hlen] using g1, g2.2.1, g3⟩
            · refine h3.imp (fun h3 => by rw [length_cons, h3]) fun h3 i hi hfree hmark => ?_
              by_cases hid : i = d
              · exact hid ▸ mem_cons_self
              · refine mem_cons_of_mem _ (h3 i (by simpa [hlen] using hi) ?_ hmark)
                rw [getD_set_true _ _ _ hd', hget, hfree]
                simp [hid]

/-- **When the loop ends, all that may be chosen has been chosen, once**: from a vector without
    marks, if there is room for it. -/
theorem drawDistinct_perm {n : Nat}
    (h : drawDistinct mark veto stop k (List.replicate n false) ds = some out)
    (hk : ((List.range n).filter fun i => !mark i && !veto i).length ≤ k) :
    out.Perm ((List.range n).filter fun i => !mark i && !veto i) := by
  obtain ⟨hnd, hsub, hend⟩ := drawDistinct_spec h
  have hsub' : ∀ i ∈ out, i ∈ (List.range n).filter fun i => !mark i && !veto i := by
    intro i hi
    obtain ⟨h1, -, h3, h4⟩ := hsub i hi
    simpa [h3, h4] using h1
  have hsp := hnd.subperm hsub'
  rcases hend with hlen | hall
  · exact hsp.perm_of_length_le (hlen ▸ hk)
  · refine (perm_ext_iff_of_nodup hnd (nodup_range.filter _)).mpr fun i => ⟨hsub' i, ?_⟩
    intro hi
    simp only [mem_filter, mem_range, Bool.and_eq_true, Bool.not_eq_true'] at hi
    refine hall i (by simpa using hi.1) ?_ hi.2.1
    simp [List.getD, hi.1]

end Draw

end TcpPath.Util
