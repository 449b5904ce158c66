/-
  Subject:   Ternary patterns: a value and a mask, over any set of positions.

  Results:   `covers_iff`: covering is acceptance of more.
-/
import Mathlib.Data.List.Basic

namespace TcpPath.Util

variable {K : Type}

/-! ## 1. Patterns -/

/-- A value at each position, and the positions at which it counts. -/
structure Ternary (K : Type) where
  val : K → Bool
  mask : K → Bool

namespace Ternary

/-- The assignment has the value wherever it counts. -/
def Accepts (p : Ternary K) (x : K → Bool) : Prop := ∀ k, p.mask k = true → x k = p.val k

/-- All that counts for `p` counts for `q`, with the same value. -/
def Covers (p q : Ternary K) : Prop := ∀ k, p.mask k = true → q.mask k = true ∧ p.val k = q.val k

/-- What counts for both has the same value. -/
def Compatible (p q : Ternary K) : Prop :=
  ∀ k, p.mask k = true → q.mask k = true → p.val k = q.val k

variable {p q : Ternary K} {ps : List (Ternary K)}

theorem Covers.accepts (h : p.Covers q) {x : K → Bool} (hx : q.Accepts x) : p.Accepts x :=
  fun k hk => (hx k (h k hk).1).trans (h k hk).2.symm

theorem Compatible.refl (p : Ternary K) : p.Compatible p := fun _ _ _ => rfl

/-- **Covering is acceptance of more.** -/
theorem covers_iff : p.Covers q ↔ ∀ x, q.Accepts x → p.Accepts x := by
  refine ⟨fun h x hx => h.accepts hx, fun h k hk => ?_⟩
  have hval : q.val k = p.val k := h q.val (fun _ _ => rfl) k hk
  refine ⟨?_, hval.symm⟩
  by_contra hno
  -- the value of `q`, turned at `k`, is accepted by `q`
  have hx : q.Accepts fun j => if q.mask j = true then q.val j else !q.val j :=
    fun j hj => if_pos hj
  have hk' := h _ hx k hk
  simp only [if_neg hno, ← hval] at hk'
  exact absurd hk' (by simp)

/-- The positions where some pattern asks for a one. -/
def join (ps : List (Ternary K)) : K → Bool := fun k => ps.any fun p => p.mask k && p.val k

theorem accepts_join (h : ∀ p ∈ ps, ∀ q ∈ ps, p.Compatible q) (hp : p ∈ ps) :
    p.Accepts (join ps) := by
  intro k hk
  rw [Bool.eq_iff_iff, join, List.any_eq_true]
  constructor
  · intro ⟨q, hq, hqk⟩
    rw [Bool.and_eq_true] at hqk
    exact (h p hp q hq k hk hqk.1).trans hqk.2
  · exact fun hv => ⟨p, hp, by rw [hk, hv]; rfl⟩

/-- **Patterns accept an assignment in common** exactly if any two of them are compatible. -/
theorem exists_accepts_iff : (∃ x, ∀ p ∈ ps, p.Accepts x) ↔ ∀ p ∈ ps, ∀ q ∈ ps, p.Compatible q := by
  constructor
  · intro ⟨x, hx⟩ p hp q hq k hpk hqk
    exact (hx p hp k hpk).symm.trans (hx q hq k hqk)
  · exact fun h => ⟨join ps, fun _ hp => accepts_join h hp⟩

end Ternary

/-! ## 2. Bytes -/

/-- Bit `j` of a byte. -/
def bit (x : UInt8) (j : Nat) : Bool := x.toBitVec.getLsbD j

@[simp] theorem bit_zero (j : Nat) : bit 0 j = false := by simp [bit]

@[simp] theorem bit_and (x y : UInt8) (j : Nat) : bit (x &&& y) j = (bit x j && bit y j) := by
  simp [bit]

@[simp] theorem bit_or (x y : UInt8) (j : Nat) : bit (x ||| y) j = (bit x j || bit y j) := by
  simp [bit]

@[simp] theorem bit_xor (x y : UInt8) (j : Nat) : bit (x ^^^ y) j = (bit x j ^^ bit y j) := by
  simp [bit]

@[simp] theorem bit_not (x : UInt8) (j : Nat) : bit (~~~x) j = (decide (j < 8) && !bit x j) := by
  simp [bit]

variable {x : UInt8} {j : Nat}

theorem bit_of_le (h : 8 ≤ j) : bit x j = false :=
  BitVec.getLsbD_of_ge _ _ h

theorem lt_of_bit (h : bit x j = true) : j < 8 := by
  by_contra hno
  rw [bit_of_le (Nat.le_of_not_lt hno)] at h
  cases h

@[simp] theorem bit_ones (j : Nat) : bit 0xff j = decide (j < 8) := by
  have h : (0xff : UInt8) = ~~~0 := rfl
  rw [h, bit_not]
  simp

theorem eq_iff_bit {y : UInt8} : x = y ↔ ∀ j, bit x j = bit y j := by
  refine ⟨fun h _ => h ▸ rfl, fun h => UInt8.toBitVec_inj.mp (BitVec.eq_of_getLsbD_eq ?_)⟩
  exact fun j _ => h j

theorem eq_zero_iff_bit : x = 0 ↔ ∀ j, bit x j = false := by
  rw [eq_iff_bit]
  simp

/-- The bits of a memory, by byte and place. -/
def bits (x : Nat → UInt8) : Nat × Nat → Bool := fun k => bit (x k.1) k.2

namespace Ternary

variable {n : Nat} {v m v' m' x : Nat → UInt8}

/-- The pattern of a value and a mask of `n` bytes. -/
def ofBytes (n : Nat) (val mask : Nat → UInt8) : Ternary (Nat × Nat) where
  val := bits val
  mask := fun k => decide (k.1 < n) && bit (mask k.1) k.2

theorem mask_ofBytes {k : Nat × Nat} :
    (ofBytes n v m).mask k = true ↔ k.1 < n ∧ bit (m k.1) k.2 = true := by
  simp [ofBytes]

theorem accepts_ofBytes :
    (ofBytes n v m).Accepts (bits x) ↔ ∀ k < n, m k &&& (v k ^^^ x k) = 0 := by
  simp only [Accepts, mask_ofBytes, eq_zero_iff_bit, bit_and, bit_xor, Bool.and_eq_false_imp,
    bne_eq_false_iff_eq, Prod.forall]
  exact ⟨fun h k hk j hj => (h k j ⟨hk, hj⟩).symm, fun h k j hk => (h k hk.1 j hk.2).symm⟩

theorem covers_ofBytes : (ofBytes n v m).Covers (ofBytes n v' m') ↔
    ∀ k < n, m k &&& ~~~m' k = 0 ∧ m k &&& (v k ^^^ v' k) = 0 := by
  simp only [Covers, mask_ofBytes, eq_zero_iff_bit, bit_and, bit_xor, bit_not,
    Bool.and_eq_false_imp, bne_eq_false_iff_eq, Prod.forall, decide_eq_true_eq]
  constructor
  · intro h k hk
    refine ⟨fun j hj _ => ?_, fun j hj => (h k j ⟨hk, hj⟩).2⟩
    rw [(h k j ⟨hk, hj⟩).1.2]
    rfl
  · intro h k j ⟨hk, hj⟩
    refine ⟨⟨hk, ?_⟩, (h k hk).2 j hj⟩
    simpa using (h k hk).1 j hj (lt_of_bit hj)

theorem compatible_ofBytes : (ofBytes n v m).Compatible (ofBytes n v' m') ↔
    ∀ k < n, m k &&& m' k &&& (v k ^^^ v' k) = 0 := by
  simp only [Compatible, mask_ofBytes, eq_zero_iff_bit, bit_and, bit_xor, Bool.and_eq_false_imp,
    bne_eq_false_iff_eq, Prod.forall, Bool.and_eq_true]
  exact ⟨fun h k hk j hj => h k j ⟨hk, hj.1⟩ ⟨hk, hj.2⟩,
    fun h k j hk hk' => h k hk.1 j ⟨hk.2, hk'.2⟩⟩

/-- The ones that values ask for under their masks. -/
def joinBytes (ps : List ((Nat → UInt8) × (Nat → UInt8))) : Nat → UInt8 :=
  fun k => ps.foldr (fun p x => p.2 k &&& p.1 k ||| x) 0

theorem bits_joinBytes (ps : List ((Nat → UInt8) × (Nat → UInt8))) (k : Nat × Nat) :
    bits (joinBytes ps) k = ps.any fun p => bit (p.2 k.1) k.2 && bit (p.1 k.1) k.2 := by
  induction ps with
  | nil => simp [bits, joinBytes]
  | cons p ps ih =>
    rw [List.any_cons, ← ih]
    simp [bits, joinBytes]

theorem accepts_joinBytes {ps : List ((Nat → UInt8) × (Nat → UInt8))}
    (h : ∀ p ∈ ps, ∀ q ∈ ps, (ofBytes n p.1 p.2).Compatible (ofBytes n q.1 q.2))
    {p : (Nat → UInt8) × (Nat → UInt8)} (hp : p ∈ ps) :
    (ofBytes n p.1 p.2).Accepts (bits (joinBytes ps)) := by
  have hjoin : (ofBytes n p.1 p.2).Accepts (join (ps.map fun p => ofBytes n p.1 p.2)) := by
    refine accepts_join (fun q hq r hr => ?_) (List.mem_map_of_mem hp)
    obtain ⟨q', hq', rfl⟩ := List.mem_map.mp hq
    obtain ⟨r', hr', rfl⟩ := List.mem_map.mp hr
    exact h q' hq' r' hr'
  intro k hk
  rw [← hjoin k hk, bits_joinBytes, join, List.any_map]
  simp [Function.comp_def, ofBytes, bits, (mask_ofBytes.mp hk).1]

end Ternary

end TcpPath.Util
