/-
  Subject:   Machines that go from hit to hit, and the rounds of a weighted round robin.

  Results:   `Searches.fair`: in a block of calls each place is answered by its weight.
-/
import Mathlib.Algebra.BigOperators.Ring.Finset
import Mathlib.Data.List.Count
import Mathlib.Data.List.Nodup
import Mathlib.Data.Multiset.Count

namespace TcpPath.Util

open List

/-! ## 1. From hit to hit -/

variable {S α : Type}

/-- The answers of `k` calls one after the other, and the state they lead to. -/
def calls (call : S → α × S) : Nat → S → List α × S
  | 0, s => ([], s)
  | k + 1, s =>
      let r := calls call k (call s).2
      ((call s).1 :: r.1, r.2)

theorem calls_add_snd (call : S → α × S) (a b : Nat) (s : S) :
    (calls call (a + b) s).2 = (calls call b (calls call a s).2).2 := by
  induction a generalizing s with
  | zero => rw [Nat.zero_add]; rfl
  | succ a ih =>
    rw [Nat.succ_add, calls, calls]
    exact ih (call s).2

/-- Each call goes on to the next number with `p`, and answers `out` of it. `At j s`: in state `s`
    everything before `j` is done with. -/
structure Searches (p : Nat → Bool) (call : S → α × S) (out : Nat → α) (At : Nat → S → Prop) :
    Prop where
  next : ∀ j s, At j s → ∃ k, j ≤ k ∧ p k = true ∧ (∀ i, j ≤ i → i < k → p i = false) ∧
    (call s).1 = out k ∧ At (k + 1) (call s).2

namespace Searches

variable {p : Nat → Bool} {call : S → α × S} {out : Nat → α} {At : Nat → S → Prop}

theorem mem_calls (h : Searches p call out At) {k j : Nat} {s : S} (hs : At j s) {a : α}
    (ha : a ∈ (calls call k s).1) : ∃ i, p i = true ∧ a = out i := by
  induction k generalizing j s with
  | zero => cases ha
  | succ k ih =>
    obtain ⟨i, _, hi, _, hout, hat⟩ := h.next j s hs
    rcases mem_cons.mp ha with rfl | ha
    · exact ⟨i, hi, hout⟩
    · exact ih hat ha

/-- **A stretch whose last number is a hit.** -/
theorem segment (h : Searches p call out At) {j e : Nat} {s : S} (hs : At j s) (hje : j ≤ e)
    (hlast : j < e → p (e - 1) = true) :
    (calls call ((List.range' j (e - j)).countP p) s).1 =
        ((List.range' j (e - j)).filter p).map out ∧
      At e (calls call ((List.range' j (e - j)).countP p) s).2 := by
  -- on the length of the stretch: one call takes off all up to the first hit
  induction hd : e - j using Nat.strongRecOn generalizing j s with
  | _ d ih =>
    subst hd
    rcases Nat.eq_or_lt_of_le hje with rfl | hlt
    · rw [Nat.sub_self]
      exact ⟨rfl, hs⟩
    · obtain ⟨k, hjk, hk, hno, hout, hat⟩ := h.next j s hs
      have hke : k < e := by
        by_contra hge
        have := hno (e - 1) (by omega) (by omega)
        rw [hlast hlt] at this
        cases this
      have hsplit : List.range' j (e - j) =
          List.range' j (k - j) ++ k :: List.range' (k + 1) (e - (k + 1)) := by
        have hlen : e - j = (k - j) + (e - (k + 1) + 1) := by omega
        have hk' : j + 1 * (k - j) = k := by omega
        rw [hlen, ← range'_append, hk', range'_succ]
      have hnone : ∀ i ∈ List.range' j (k - j), ¬p i = true := by
        intro i hi
        rw [mem_range'_1] at hi
        rw [hno i hi.1 (by omega)]
        exact Bool.false_ne_true
      obtain ⟨hlist, hend⟩ := ih (e - (k + 1)) (by omega) hat hke
        (fun _ => hlast hlt) rfl
      have hcount : (List.range' j (e - j)).countP p =
          (List.range' (k + 1) (e - (k + 1))).countP p + 1 := by
        rw [hsplit, countP_append, countP_eq_zero.mpr hnone, countP_cons_of_pos hk,
          Nat.zero_add]
      rw [hcount, calls]
      refine ⟨?_, hend⟩
      rw [hsplit, filter_append, filter_eq_nil_iff.mpr hnone, nil_append,
        filter_cons_of_pos hk, map_cons, hlist, hout]

end Searches

/-! ## 2. Rounds over `n` places -/

theorem countP_round (n s : Nat) (f : Nat → Nat → Bool) :
    (List.range' (s * n) n).countP (fun k => f (k / n) (k % n)) =
      (List.range n).countP (f s) := by
  have hmap : List.range' (s * n) n = (List.range n).map (s * n + ·) := by
    rw [range_eq_range', map_add_range', Nat.add_zero]
  rw [hmap, countP_map]
  refine countP_congr fun x hx => ?_
  have hx := mem_range.mp hx
  have hdiv : (s * n + x) / n = s := by
    rw [Nat.mul_comm, Nat.mul_add_div (by omega), Nat.div_eq_of_lt hx, Nat.add_zero]
  have hmod : (s * n + x) % n = x := by
    rw [Nat.mul_comm, Nat.mul_add_mod, Nat.mod_eq_of_lt hx]
  rw [Function.comp_apply, hdiv, hmod]

theorem countP_rounds {n i : Nat} (hi : i < n) (q : Nat → Nat → Bool) (s M : Nat) :
    (List.range' (s * n) (M * n)).countP (fun k => q (k / n) (k % n) && k % n == i) =
      (List.range' s M).countP (q · i) := by
  induction M with
  | zero => rw [Nat.zero_mul]; rfl
  | succ M ih =>
    have hsplit : List.range' (s * n) ((M + 1) * n) =
        List.range' (s * n) (M * n) ++ List.range' ((s + M) * n) n := by
      rw [Nat.succ_mul, ← range'_append, Nat.one_mul, ← Nat.add_mul]
    have hround : (List.range n).countP (fun x => q (s + M) x && x == i) =
        [s + M].countP (q · i) := by
      rw [← countP_filter, filter_beq, count_eq_one_of_mem nodup_range
        (mem_range.mpr hi)]
      rfl
    rw [hsplit, countP_append, ih, range'_1_concat, countP_append, ← hround,
      countP_round n (s + M) fun r x => q r x && x == i]

/-- The threshold of round `r`: down from `m` by `g`, and again from `m` after `m / g` rounds. -/
def threshold (m g r : Nat) : Nat := m - r % (m / g) * g

/-- Number `k` is a hit: its place has the weight its round asks for. -/
def hit (n m g : Nat) (w : Nat → Nat) (k : Nat) : Bool := threshold m g (k / n) ≤ w (k % n)

/-- The weights `w` of the places: multiples of `g`, none of them zero, the heaviest `m`. -/
structure Weights (n m g : Nat) (w : Nat → Nat) : Prop where
  pos : ∀ i < n, 0 < w i
  dvd : ∀ i < n, g ∣ w i
  le : ∀ i < n, w i ≤ m
  max : ∃ i < n, w i = m

section Period

variable {n m g : Nat} {w : Nat → Nat}

namespace Weights

theorem n_pos (h : Weights n m g w) : 0 < n := by
  obtain ⟨i, hi, _⟩ := h.max
  omega

theorem m_pos (h : Weights n m g w) : 0 < m := by
  obtain ⟨i, hi, hm⟩ := h.max
  exact hm ▸ h.pos i hi

theorem dvd_m (h : Weights n m g w) : g ∣ m := by
  obtain ⟨i, hi, hm⟩ := h.max
  exact hm ▸ h.dvd i hi

theorem g_pos (h : Weights n m g w) : 0 < g := Nat.pos_of_dvd_of_pos h.dvd_m h.m_pos

end Weights

theorem threshold_le (m g r : Nat) : threshold m g r ≤ m := Nat.sub_le _ _

theorem threshold_mul (hg : 0 < g) (M r : Nat) : threshold (g * M) g r = (M - r % M) * g := by
  rw [threshold, Nat.mul_div_cancel_left M hg, Nat.mul_comm g M, Nat.sub_mul]

theorem threshold_succ (hg : 0 < g) (hm : 0 < m) (hgm : g ∣ m) (r : Nat) :
    threshold m g (r + 1) = if threshold m g r ≤ g then m else threshold m g r - g := by
  obtain ⟨M, rfl⟩ := hgm
  have hM : 0 < M := Nat.pos_of_mul_pos_left hm
  have ht := Nat.mod_lt r hM
  have hsucc : (r + 1) % M = (r % M + 1) % M := by rw [Nat.mod_add_mod]
  rw [threshold_mul hg, threshold_mul hg, hsucc]
  rcases (show r % M + 1 = M ∨ r % M + 1 < M by omega) with hlast | hmore
  · have hone : M - r % M = 1 := by omega
    rw [hlast, Nat.mod_self, hone, Nat.one_mul, if_pos (Nat.le_refl g), Nat.sub_zero, Nat.mul_comm]
  · have htwo : 2 * g ≤ (M - r % M) * g := Nat.mul_le_mul_right g (by omega)
    rw [Nat.mod_eq_of_lt hmore, if_neg (by omega), Nat.sub_add_eq, Nat.sub_one_mul]

theorem threshold_last (hg : 0 < g) (hm : 0 < m) (hgm : g ∣ m) (s : Nat) :
    threshold m g (s * (m / g) + (m / g - 1)) = g := by
  obtain ⟨M, rfl⟩ := hgm
  have hM : 0 < M := Nat.pos_of_mul_pos_left hm
  rw [threshold_mul hg, Nat.mul_div_cancel_left M hg, Nat.mul_comm s, Nat.mul_add_mod,
    Nat.mod_eq_of_lt (by omega), Nat.sub_sub_self hM, Nat.one_mul]

theorem countP_threshold (hg : 0 < g) (hgm : g ∣ m) {x : Nat} (hx : x ≤ m) (hgx : g ∣ x)
    (s : Nat) :
    (List.range' (s * (m / g)) (m / g)).countP (fun r => threshold m g r ≤ x) = x / g := by
  obtain ⟨M, rfl⟩ := hgm
  obtain ⟨X, rfl⟩ := hgx
  have hX : X ≤ M := Nat.le_of_mul_le_mul_left hx hg
  rw [Nat.mul_div_cancel_left M hg, Nat.mul_div_cancel_left X hg]
  have hreach : ∀ r, (threshold (g * M) g r ≤ g * X) ↔ M - X ≤ r % M := by
    intro r
    rw [threshold_mul hg, Nat.mul_comm g X, Nat.mul_le_mul_right_iff hg]
    omega
  -- the weight is reached in the last `X` rounds
  have hsplit : List.range M = List.range' 0 (M - X) ++ List.range' (M - X) X := by
    have hsum : M = M - X + X := by omega
    have happ := range'_append_1 (s := 0) (m := M - X) (n := X)
    rw [Nat.zero_add, ← hsum] at happ
    rw [happ, range_eq_range']
  have hbefore : (List.range' 0 (M - X)).countP (fun t => M - X ≤ t) = 0 := by
    refine countP_eq_zero.mpr fun t ht => ?_
    have := mem_range'_1.mp ht
    rw [decide_eq_true_iff]
    omega
  have hafter : (List.range' (M - X) X).countP (fun t => M - X ≤ t) = X := by
    rw [countP_eq_length.mpr fun t ht => decide_eq_true (mem_range'_1.mp ht).1,
      length_range']
  simp only [hreach]
  rw [countP_round M s fun _ t => M - X ≤ t, hsplit, countP_append, hbefore, hafter,
    Nat.zero_add]

theorem exists_first_hit (h : Weights n m g w) (j : Nat) :
    ∃ k, j ≤ k ∧ k < j + n ∧ hit n m g w k = true ∧
      ∀ i, j ≤ i → i < k → hit n m g w i = false := by
  obtain ⟨i, hi, hm⟩ := h.max
  have hplace : ∃ k, j ≤ k ∧ k < j + n ∧ k % n = i := by
    have hlt := Nat.mod_lt j h.n_pos
    have hj := Nat.div_add_mod j n
    by_cases hle : j % n ≤ i
    · refine ⟨n * (j / n) + i, by omega, by omega, ?_⟩
      rw [Nat.mul_add_mod, Nat.mod_eq_of_lt hi]
    · refine ⟨n * (j / n + 1) + i, ?_, ?_, ?_⟩
      · rw [Nat.mul_succ]; omega
      · rw [Nat.mul_succ]; omega
      · rw [Nat.mul_add_mod, Nat.mod_eq_of_lt hi]
  have hex : ∃ k, j ≤ k ∧ hit n m g w k = true := by
    obtain ⟨k, hjk, _, hk⟩ := hplace
    refine ⟨k, hjk, decide_eq_true ?_⟩
    rw [hk, hm]
    exact threshold_le m g _
  refine ⟨Nat.find hex, (Nat.find_spec hex).1, ?_, (Nat.find_spec hex).2, fun i hji hlt => ?_⟩
  · obtain ⟨k, hjk, hlt, hk⟩ := hplace
    refine Nat.lt_of_le_of_lt (Nat.find_min' hex ⟨hjk, decide_eq_true ?_⟩) hlt
    rw [hk, hm]
    exact threshold_le m g _
  · exact Bool.eq_false_iff.mpr fun hi => Nat.find_min hex hlt ⟨hji, hi⟩

/-- **Fairness of a period.** -/
theorem countP_period (h : Weights n m g w) {i : Nat} (hi : i < n) (s : Nat) :
    (List.range' (s * (m / g) * n) (m / g * n)).countP (fun k => hit n m g w k && k % n == i) =
      w i / g := by
  rw [← countP_threshold h.g_pos h.dvd_m (h.le i hi) (h.dvd i hi) s]
  exact countP_rounds hi (fun r x => threshold m g r ≤ w x) (s * (m / g)) (m / g)

theorem countP_hits (h : Weights n m g w) (s : Nat) :
    (List.range' (s * (m / g) * n) (m / g * n)).countP (hit n m g w) =
      (∑ i ∈ Finset.range n, w i) / g := by
  rw [Nat.sum_div fun i hi => h.dvd i (Finset.mem_range.mp hi), countP_eq_length_filter,
    ← length_map (· % n), ← Multiset.coe_card,
    ← Multiset.sum_count_eq_card (s := Finset.range n)]
  · refine Finset.sum_congr rfl fun i hi => ?_
    rw [← countP_period h (Finset.mem_range.mp hi) s, Multiset.coe_count, count_eq_countP,
      countP_map, countP_filter]
    exact countP_congr fun k _ => by rw [Function.comp_apply, Bool.and_comm]
  · intro x hx
    obtain ⟨k, _, rfl⟩ := mem_map.mp (Multiset.mem_coe.mp hx)
    exact Finset.mem_range.mpr (Nat.mod_lt k h.n_pos)

theorem hit_last (h : Weights n m g w) (s : Nat) :
    hit n m g w ((s + 1) * (m / g) * n - 1) = true := by
  have hn := h.n_pos
  have hM : 0 < m / g := Nat.div_pos (Nat.le_of_dvd h.m_pos h.dvd_m) h.g_pos
  have hnum : (s + 1) * (m / g) * n - 1 = (s * (m / g) + (m / g - 1)) * n + (n - 1) := by
    have hround : (s + 1) * (m / g) = s * (m / g) + (m / g - 1) + 1 := by
      rw [Nat.succ_mul]
      omega
    rw [hround, Nat.succ_mul]
    omega
  have hlast : n - 1 < n := by omega
  rw [hit, hnum, Nat.mul_comm _ n, Nat.mul_add_div hn, Nat.mul_add_mod, Nat.div_eq_of_lt hlast,
    Nat.mod_eq_of_lt hlast, Nat.add_zero, threshold_last h.g_pos h.m_pos h.dvd_m,
    decide_eq_true_iff]
  exact Nat.le_of_dvd (h.pos _ (by omega)) (h.dvd _ (by omega))

/-! ## 3. Machines that go over the rounds -/

variable {call : S → α × S} {out : Nat → α} {At : Nat → S → Prop}

theorem Searches.period (h : Searches (hit n m g w) call out At) (hw : Weights n m g w) {b : Nat}
    {s : S} (hs : At (b * (m / g) * n) s) :
    (calls call ((∑ i ∈ Finset.range n, w i) / g) s).1 =
        ((List.range' (b * (m / g) * n) (m / g * n)).filter (hit n m g w)).map out ∧
      At ((b + 1) * (m / g) * n) (calls call ((∑ i ∈ Finset.range n, w i) / g) s).2 := by
  have hlen : (b + 1) * (m / g) * n = b * (m / g) * n + m / g * n := by
    rw [Nat.succ_mul, Nat.add_mul]
  have hseg := h.segment hs (e := (b + 1) * (m / g) * n) (by omega) fun _ => hit_last hw b
  rw [hlen, Nat.add_sub_cancel_left, countP_hits hw b] at hseg
  rw [hlen]
  exact hseg

/-- **Fairness of a machine**, for the answer `a` of place `i`. -/
theorem Searches.fair [BEq α] [LawfulBEq α] (h : Searches (hit n m g w) call out At)
    (hw : Weights n m g w) {s : S} (hs : At 0 s) (b : Nat) {i : Nat} (hi : i < n) {a : α}
    (hout : ∀ k, out k = a ↔ k % n = i) :
    List.count a (calls call ((∑ i ∈ Finset.range n, w i) / g)
      (calls call (b * ((∑ i ∈ Finset.range n, w i) / g)) s).2).1 = w i / g := by
  have hat : ∀ b, At (b * (m / g) * n)
      (calls call (b * ((∑ i ∈ Finset.range n, w i) / g)) s).2 := by
    intro b
    induction b with
    | zero =>
      rw [Nat.zero_mul, Nat.zero_mul, Nat.zero_mul]
      exact hs
    | succ b ih =>
      rw [Nat.succ_mul b ((∑ i ∈ Finset.range n, w i) / g), calls_add_snd]
      exact (h.period hw ih).2
  rw [(h.period hw (hat b)).1, ← countP_period hw hi b, count_eq_countP, countP_map,
    countP_filter]
  refine countP_congr fun k _ => ?_
  have hiff : (out k == a) = (k % n == i) := by
    rw [Bool.eq_iff_iff, beq_iff_eq, beq_iff_eq, hout]
  rw [Bool.and_comm (hit n m g w k), Function.comp_apply, hiff]

end Period

end TcpPath.Util
