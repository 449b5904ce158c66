/-
  Subject:   Steps of integer hashes that lose nothing.

  A hash that mixes a word by `x ^ (x << s)`, `x ^ (x >> s)` and `x - (x << s)` alone maps different
  words to different words: the difference of two words with one image is its own shift, and a word
  that is its own shift is 0.
-/
import Mathlib.Data.BitVec

namespace TcpPath.Util.Mixing

variable {w s : Nat}

theorem eq_zero_of_eq_shiftLeft {z : BitVec w} (hs : 0 < s) (h : z = z <<< s) : z = 0#w := by
  refine BitVec.eq_of_getLsbD_eq fun i => ?_
  induction i using Nat.strong_induction_on with
  | _ i ih =>
    intro hi
    rw [h, BitVec.getLsbD_shiftLeft]
    by_cases his : i < s
    · simp [his]
    · simp [ih (i - s) (by omega) (by omega)]

theorem eq_zero_of_eq_ushiftRight {z : BitVec w} (hs : 0 < s) (h : z = z >>> s) : z = 0#w := by
  have hbit : ∀ k i, w ≤ i + k → z.getLsbD i = false := by
    intro k
    induction k with
    | zero => exact fun i hi => BitVec.getLsbD_of_ge z i hi
    | succ k ih =>
      intro i hi
      rw [h, BitVec.getLsbD_ushiftRight]
      exact ih (s + i) (by omega)
  refine BitVec.eq_of_getLsbD_eq fun i _ => ?_
  rw [hbit w i (Nat.le_add_left w i), BitVec.getLsbD_zero]

theorem xor_eq_xor_of {a b c d : BitVec w} (h : a ^^^ b = c ^^^ d) : a ^^^ c = b ^^^ d :=
  calc a ^^^ c = (a ^^^ b) ^^^ (b ^^^ c) := by
        rw [BitVec.xor_assoc, ← BitVec.xor_assoc b b, BitVec.xor_self, BitVec.zero_xor]
    _ = (c ^^^ d) ^^^ (b ^^^ c) := by rw [h]
    _ = (c ^^^ c) ^^^ (b ^^^ d) := by ac_rfl
    _ = b ^^^ d := by rw [BitVec.xor_self, BitVec.zero_xor]

theorem xor_shiftLeft_injective (hs : 0 < s) :
    Function.Injective fun x : BitVec w => x ^^^ x <<< s := by
  intro x y h
  have hz : x ^^^ y = (x ^^^ y) <<< s := by
    rw [BitVec.shiftLeft_xor_distrib]
    exact xor_eq_xor_of h
  exact BitVec.xor_eq_zero_iff.mp (eq_zero_of_eq_shiftLeft hs hz)

theorem xor_ushiftRight_injective (hs : 0 < s) :
    Function.Injective fun x : BitVec w => x ^^^ x >>> s := by
  intro x y h
  have hz : x ^^^ y = (x ^^^ y) >>> s := by
    rw [BitVec.ushiftRight_xor_distrib]
    exact xor_eq_xor_of h
  exact BitVec.xor_eq_zero_iff.mp (eq_zero_of_eq_ushiftRight hs hz)

theorem sub_shiftLeft_injective (hs : 0 < s) :
    Function.Injective fun x : BitVec w => x - x <<< s := by
  intro x y h
  have hz : x - y = (x - y) <<< s := by
    simp only [BitVec.shiftLeft_eq_mul_twoPow] at h ⊢
    grind
  exact sub_eq_zero.mp (eq_zero_of_eq_shiftLeft hs hz)

end TcpPath.Util.Mixing
