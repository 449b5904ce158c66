/-
  Subject:   Token buckets.

  * A bucket holds at most `cap` tokens. A fill at a time adds at most `rate` tokens for each unit
    of time since the fill before, and may add fewer; what is paid is taken out of it.

  Results:   `TokenBucket.step`: the level after an event;
             `TokenBucket.paidIn_le`: what can be paid in an interval.
-/
import Mathlib.Algebra.Order.Ring.Nat
import Mathlib.Data.List.Basic
import Mathlib.Tactic.Common
import TcpPath.Util.Runs

namespace TcpPath.Util

open List

structure TokenBucket where
  tokens : Nat
  last : Nat
  clock : Nat
  fills : List Nat
  /-- The times and the amounts of the payments. -/
  paid : List (Nat × Nat)

namespace TokenBucket

/-- What happens at a time: the bucket is filled to `k` tokens, `c` tokens are paid, or nothing. -/
inductive Event where
  | fill (t k : Nat)
  | pay (t c : Nat)
  | idle (t : Nat)

/-- An empty bucket, made at time `start`. -/
def empty (start : Nat) : TokenBucket := ⟨0, start, start, [], []⟩

/-- **One event.** -/
def step (cap rate : Nat) (s : TokenBucket) : Event → Option TokenBucket
  | .fill t k =>
    if s.clock ≤ t ∧ k ≤ cap ∧ k ≤ s.tokens + rate * (t - s.last) then
      some { s with tokens := k, last := t, clock := t, fills := s.fills ++ [t] }
    else none
  | .pay t c =>
    if s.clock ≤ t ∧ c ≤ s.tokens then
      some { s with tokens := s.tokens - c, clock := t, paid := s.paid ++ [(t, c)] }
    else none
  | .idle t => if s.clock ≤ t then some { s with clock := t } else none

/-- What is paid from time `a` to time `b`. -/
def paidIn (a b : Nat) (paid : List (Nat × Nat)) : Nat :=
  ((paid.filter fun x => a ≤ x.1 ∧ x.1 ≤ b).map Prod.snd).sum

/-- The last fill of those with `p`, or the start. -/
def lastFill (start : Nat) (p : Nat → Bool) (fills : List Nat) : Nat :=
  (fills.filter p).getLast?.getD start

section Run

variable {cap rate start a b : Nat} {s s' : TokenBucket} {e : Event} {p : Nat → Bool} {t : Nat}
  {fills : List Nat}

theorem lastFill_concat_of_pos (h : p t = true) (fills : List Nat) :
    lastFill start p (fills ++ [t]) = t := by
  rw [lastFill, filter_append, filter_cons_of_pos h, filter_nil,
    getLast?_concat, Option.getD_some]

theorem lastFill_concat_of_neg (h : p t = false) (fills : List Nat) :
    lastFill start p (fills ++ [t]) = lastFill start p fills := by
  rw [lastFill, filter_append, filter_cons_of_neg (by simp [h]), filter_nil,
    append_nil, lastFill]

theorem lastFill_of_forall (h : ∀ x ∈ fills, p x = true) :
    lastFill start p fills = fills.getLast?.getD start := by
  rw [lastFill, filter_eq_self.mpr h]

theorem paidIn_concat (x : Nat × Nat) (paid : List (Nat × Nat)) :
    paidIn a b (paid ++ [x]) = paidIn a b paid + if a ≤ x.1 ∧ x.1 ≤ b then x.2 else 0 := by
  rw [paidIn, filter_append, map_append, sum_append, ← paidIn]
  by_cases h : a ≤ x.1 ∧ x.1 ≤ b
  · simp [h]
  · simp [h]

theorem paidIn_eq_zero {paid : List (Nat × Nat)} (h : ∀ x ∈ paid, x.1 < a) :
    paidIn a b paid = 0 := by
  rw [paidIn, filter_eq_nil_iff.mpr fun x hx => by have := h x hx; simp; omega]
  rfl

/-- The invariant, for the times from `a` to `b`. As long as the clock is not beyond `b`, what has
    been paid there and what is still in the bucket came from before `a` or from the fills. -/
structure Inv (cap rate start a b : Nat) (s : TokenBucket) : Prop where
  tokens_le : s.tokens ≤ cap
  last_eq : s.last = s.fills.getLast?.getD start
  start_le : start ≤ s.last
  fills_le : ∀ x ∈ s.fills, x ≤ s.last
  last_le : s.last ≤ s.clock
  paid_le : ∀ x ∈ s.paid, x.1 ≤ s.clock
  bound : paidIn a b s.paid + (if s.clock ≤ b then s.tokens else 0) +
    rate * lastFill start (· < a) s.fills ≤ cap + rate * lastFill start (· ≤ b) s.fills

theorem inv_empty (cap rate start a b : Nat) : Inv cap rate start a b (empty start) where
  tokens_le := Nat.zero_le cap
  last_eq := rfl
  start_le := Nat.le_refl start
  fills_le _ hx := (nomatch hx)
  last_le := Nat.le_refl start
  paid_le _ hx := (nomatch hx)
  bound := by
    show 0 + (if start ≤ b then 0 else 0) + rate * start ≤ cap + rate * start
    rw [ite_self]
    omega

theorem Inv.lastFill_eq (h : Inv cap rate start a b s) {p : Nat → Bool} {t : Nat}
    (ht : s.clock ≤ t) (hp : ∀ x ≤ t, p x = true) : lastFill start p s.fills = s.last := by
  rw [h.last_eq]
  refine lastFill_of_forall fun x hx => hp x ?_
  exact Nat.le_trans (h.fills_le x hx) (Nat.le_trans h.last_le ht)

theorem Inv.paidIn_eq_zero (h : Inv cap rate start a b s) (ha : s.clock < a) :
    paidIn a b s.paid = 0 :=
  TokenBucket.paidIn_eq_zero fun x hx => Nat.lt_of_le_of_lt (h.paid_le x hx) ha

theorem Inv.fill (h : Inv cap rate start a b s) (hab : a ≤ b) {k : Nat} (ht : s.clock ≤ t)
    (hcap : k ≤ cap) (hk : k ≤ s.tokens + rate * (t - s.last)) :
    Inv cap rate start a b
      { s with tokens := k, last := t, clock := t, fills := s.fills ++ [t] } where
  tokens_le := hcap
  last_eq := by rw [getLast?_concat, Option.getD_some]
  start_le := Nat.le_trans h.start_le (Nat.le_trans h.last_le ht)
  fills_le x hx := by
    rcases mem_append.mp hx with hx | hx
    · exact Nat.le_trans (h.fills_le x hx) (Nat.le_trans h.last_le ht)
    · exact Nat.le_of_eq (mem_singleton.mp hx)
  last_le := Nat.le_refl t
  paid_le x hx := Nat.le_trans (h.paid_le x hx) ht
  bound := by
    have hbound := h.bound
    dsimp only
    by_cases hta : t < a
    · -- the interval has not begun: both fills are this one
      rw [lastFill_concat_of_pos (decide_eq_true hta), if_pos (by omega),
        lastFill_concat_of_pos (decide_eq_true (by omega)), h.paidIn_eq_zero (by omega)]
      omega
    rw [lastFill_concat_of_neg (decide_eq_false hta)]
    by_cases htb : t ≤ b
    · rw [if_pos htb, lastFill_concat_of_pos (decide_eq_true htb)]
      rw [if_pos (by omega), h.lastFill_eq (p := (· ≤ b)) ht
        fun x hx => decide_eq_true (Nat.le_trans hx htb)] at hbound
      have hsplit : rate * t = rate * (t - s.last) + rate * s.last := by
        rw [← Nat.mul_add, Nat.sub_add_cancel (Nat.le_trans h.last_le ht)]
      omega
    · rw [if_neg htb, lastFill_concat_of_neg (decide_eq_false htb)]
      omega

theorem Inv.pay (h : Inv cap rate start a b s) {c : Nat} (ht : s.clock ≤ t) (hc : c ≤ s.tokens) :
    Inv cap rate start a b
      { s with tokens := s.tokens - c, clock := t, paid := s.paid ++ [(t, c)] } where
  tokens_le := Nat.le_trans (Nat.sub_le _ _) h.tokens_le
  last_eq := h.last_eq
  start_le := h.start_le
  fills_le := h.fills_le
  last_le := Nat.le_trans h.last_le ht
  paid_le x hx := by
    rcases mem_append.mp hx with hx | hx
    · exact Nat.le_trans (h.paid_le x hx) ht
    · rw [mem_singleton.mp hx]
  bound := by
    have hbound := h.bound
    dsimp only
    rw [paidIn_concat]
    by_cases htb : t ≤ b
    · rw [if_pos (by omega)] at hbound
      rw [if_pos htb]
      split <;> omega
    · rw [if_neg htb, if_neg fun hin => htb hin.2]
      omega

theorem Inv.idle (h : Inv cap rate start a b s) (ht : s.clock ≤ t) :
    Inv cap rate start a b { s with clock := t } where
  tokens_le := h.tokens_le
  last_eq := h.last_eq
  start_le := h.start_le
  fills_le := h.fills_le
  last_le := Nat.le_trans h.last_le ht
  paid_le x hx := Nat.le_trans (h.paid_le x hx) ht
  bound := by
    have hbound := h.bound
    dsimp only
    by_cases htb : t ≤ b
    · rw [if_pos (by omega)] at hbound
      rwa [if_pos htb]
    · rw [if_neg htb]
      omega

theorem Inv.step (h : Inv cap rate start a b s) (hab : a ≤ b)
    (hs : s.step cap rate e = some s') : Inv cap rate start a b s' := by
  cases e with
  | fill t k =>
    obtain ⟨⟨ht, hcap, hk⟩, hs⟩ := Option.ite_none_right_eq_some.mp hs
    cases hs
    exact h.fill hab ht hcap hk
  | pay t c =>
    obtain ⟨⟨ht, hc⟩, hs⟩ := Option.ite_none_right_eq_some.mp hs
    cases hs
    exact h.pay ht hc
  | idle t =>
    obtain ⟨ht, hs⟩ := Option.ite_none_right_eq_some.mp hs
    cases hs
    exact h.idle ht

/-- **The bound**: what is paid from `a` to `b` was in the bucket before, or came with the fills
    after the last one before `a`. -/
theorem paidIn_le {ok : TokenBucket → Event → Prop}
    (h : Run (TokenBucket.step cap rate) ok (empty start) s) (hab : a ≤ b) :
    paidIn a b s.paid ≤ cap +
      rate * (lastFill start (· ≤ b) s.fills - lastFill start (· < a) s.fills) := by
  have hinv := h.invariant (I := Inv cap rate start a b) (inv_empty ..)
    fun _ _ _ hi _ hs => hi.step hab hs
  have hbound := hinv.bound
  rw [Nat.mul_sub]
  omega

end Run

end TokenBucket

end TcpPath.Util
