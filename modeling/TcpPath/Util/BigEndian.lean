/-
  Subject:   Numbers in a fixed number of bytes, the highest byte first.

  `write` and `read` are inverse to each other. `fields` is a record: numbers of given widths one
  behind the other, each of which is read back at its place (`read_fields`).
-/
import Mathlib.Data.List.Basic
import Mathlib.Data.UInt
import Mathlib.Tactic.Ring

namespace TcpPath.Util.BigEndian

open List

/-- `v` in `n` bytes. -/
def write : Nat → Nat → List UInt8
  | 0, _ => []
  | n + 1, v => write n (v / 256) ++ [UInt8.ofNat v]

/-- The number some bytes stand for. -/
def read (l : List UInt8) : Nat := l.foldl (fun a x => 256 * a + x.toNat) 0

@[simp] theorem length_write (n v : Nat) : (write n v).length = n := by
  induction n generalizing v with
  | zero => rfl
  | succ n ih => simp [write, ih]

@[simp] theorem read_nil : read [] = 0 := rfl

theorem read_concat (l : List UInt8) (x : UInt8) : read (l ++ [x]) = 256 * read l + x.toNat := by
  simp [read]

theorem read_write_mod (n v : Nat) : read (write n v) = v % 256 ^ n := by
  induction n generalizing v with
  | zero => simp [write, Nat.mod_one]
  | succ n ih =>
    rw [write, read_concat, ih, Nat.pow_succ', Nat.mod_mul]
    show _ + v % 256 = _
    omega

variable {n v : Nat} {fs : List (Nat × Nat)} {j k : Nat}

/-- **What is written is read back.** -/
@[simp] theorem read_write (h : v < 256 ^ n) : read (write n v) = v := by
  rw [read_write_mod, Nat.mod_eq_of_lt h]

theorem read_lt (l : List UInt8) : read l < 256 ^ l.length := by
  induction l using List.reverseRecOn with
  | nil => simp
  | append_singleton l x ih =>
    have hx : x.toNat < 256 := x.toNat_lt
    rw [read_concat, length_append, length_singleton, Nat.pow_succ']
    omega

/-- **Bytes that are read are written back.** -/
theorem write_read (l : List UInt8) : write l.length (read l) = l := by
  induction l using List.reverseRecOn with
  | nil => rfl
  | append_singleton l x ih =>
    have hx : x.toNat < 256 := x.toNat_lt
    have hdiv : (256 * read l + x.toNat) / 256 = read l := by omega
    rw [length_append, length_singleton, write, read_concat, hdiv, ih]
    congr 2
    apply UInt8.toNat_inj.mp
    rw [UInt8.toNat_ofNat']
    omega

def fields (fs : List (Nat × Nat)) : List UInt8 := fs.flatMap fun f => write f.1 f.2

/-- The bytes of a record. -/
def width (fs : List (Nat × Nat)) : Nat := (fs.map Prod.fst).sum

@[simp] theorem length_fields (fs : List (Nat × Nat)) : (fields fs).length = width fs := by
  simp [fields, width, length_flatMap]

theorem fields_append (fs gs : List (Nat × Nat)) : fields (fs ++ gs) = fields fs ++ fields gs :=
  flatMap_append

theorem fields_split (h : fs[j]? = some (n, v)) :
    fields fs = fields (fs.take j) ++ (write n v ++ fields (fs.drop (j + 1))) := by
  obtain ⟨hj, hv⟩ := List.getElem?_eq_some_iff.mp h
  conv_lhs => rw [← take_append_drop j fs, drop_eq_getElem_cons hj, hv]
  rw [fields_append]
  rfl

/-- **A field is read back at its place.** -/
theorem read_fields (h : fs[j]? = some (n, v)) (hk : width (fs.take j) = k) (hv : v < 256 ^ n)
    (rest : List UInt8) : read (((fields fs ++ rest).drop k).take n) = v := by
  have hlen : (fields (fs.take j)).length = k := (length_fields _).trans hk
  rw [fields_split h, append_assoc, append_assoc, ← hlen, drop_left,
    take_left' (length_write n v), read_write hv]

theorem width_le (h : fs[j]? = some (n, v)) (hk : width (fs.take j) = k) : k + n ≤ width fs := by
  have hlen := congrArg List.length (fields_split h)
  simp only [length_append, length_fields, length_write, hk] at hlen
  omega

end TcpPath.Util.BigEndian
