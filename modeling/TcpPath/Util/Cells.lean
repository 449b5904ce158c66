/-
  Subject:   Singly linked cells in a heap: loads and stores that fault, and the
             segments a chain of cells represents.
-/
import Mathlib.Logic.Function.Basic
import Mathlib.Data.List.Basic
import Mathlib.Data.List.Nodup
import Mathlib.Data.List.Perm.Subperm
import Mathlib.Tactic.Common

namespace TcpPath.Util

open List

/-- What can go wrong at a memory access, and a loop that did not end within its bound. -/
inductive Fault where
  | null
  | freed
  | noEnd
  deriving DecidableEq, Repr

@[simp] theorem ok_bind {ε α β : Type} (a : α) (f : α → Except ε β) :
    (Except.ok a >>= f) = f a := rfl

@[simp] theorem error_bind {ε α β : Type} (e : ε) (f : α → Except ε β) :
    (Except.error e >>= f) = .error e := rfl

/-- A heap of list cells: `cell a` is the value and the `next` address stored at `a`. -/
structure Heap (α : Type) where
  cell : Nat → Option (α × Nat)
  brk : Nat
  brkPos : 0 < brk
  nullFree : cell 0 = none
  fresh : ∀ a, brk ≤ a → cell a = none

namespace Heap

variable {α : Type}

/-- The heap before the first allocation. -/
def empty : Heap α := ⟨fun _ => none, 1, Nat.one_pos, rfl, fun _ _ => rfl⟩

/-- Read the cell at `a`. -/
def load (h : Heap α) (a : Nat) : Except Fault (α × Nat) :=
  if a = 0 then .error .null else
    match h.cell a with
    | none => .error .freed
    | some c => .ok c

/-- Overwrite the cell at an address that holds one. -/
def put (h : Heap α) (a : Nat) (c : α × Nat) (ha : h.cell a ≠ none) : Heap α where
  cell := Function.update h.cell a (some c)
  brk := h.brk
  brkPos := h.brkPos
  nullFree := by
    have h0 : (0 : Nat) ≠ a := fun e => ha (e ▸ h.nullFree)
    rw [Function.update_of_ne h0]
    exact h.nullFree
  fresh b hb := by
    have hne : b ≠ a := fun e => ha (e ▸ h.fresh b hb)
    rw [Function.update_of_ne hne]
    exact h.fresh b hb

/-- `a->next = n`. -/
def setNext (h : Heap α) (a n : Nat) : Except Fault (Heap α) :=
  if a = 0 then .error .null else
    match hc : h.cell a with
    | none => .error .freed
    | some c => .ok (h.put a (c.1, n) (by rw [hc]; exact Option.some_ne_none c))

/-- Store the value fields of the cell at `a`, its `next` stays. -/
def setVal (h : Heap α) (a : Nat) (v : α) : Except Fault (Heap α) :=
  if a = 0 then .error .null else
    match hc : h.cell a with
    | none => .error .freed
    | some c => .ok (h.put a (v, c.2) (by rw [hc]; exact Option.some_ne_none c))

/-- `malloc`: a cell at a fresh address. -/
def alloc (h : Heap α) (c : α × Nat) : Nat × Heap α :=
  (h.brk,
    { cell := Function.update h.cell h.brk (some c)
      brk := h.brk + 1
      brkPos := Nat.succ_pos _
      nullFree := by
        rw [Function.update_of_ne (Nat.ne_of_lt h.brkPos)]
        exact h.nullFree
      fresh := fun b hb => by
        rw [Function.update_of_ne (Nat.ne_of_gt hb)]
        exact h.fresh b (Nat.le_of_succ_le hb) })

/-- `free`. -/
def free (h : Heap α) (a : Nat) : Except Fault (Heap α) :=
  if a = 0 then .error .null else
    match h.cell a with
    | none => .error .freed
    | some _ => .ok
        { cell := Function.update h.cell a none
          brk := h.brk
          brkPos := h.brkPos
          nullFree := by
            by_cases h0 : (0 : Nat) = a
            · rw [h0, Function.update_self]
            · rw [Function.update_of_ne h0]
              exact h.nullFree
          fresh := fun b hb => by
            by_cases hba : b = a
            · rw [hba, Function.update_self]
            · rw [Function.update_of_ne hba]
              exact h.fresh b hb }

/-! ## 1. What the operations do at a cell that is there -/

variable {h : Heap α} {a : Nat} {c : α × Nat}

theorem ne_zero (hc : h.cell a = some c) : a ≠ 0 := by
  rintro rfl
  rw [h.nullFree] at hc
  cases hc

theorem lt_brk (hc : h.cell a = some c) : a < h.brk := by
  refine Nat.lt_of_not_le fun hle => ?_
  rw [h.fresh a hle] at hc
  cases hc

theorem load_of (hc : h.cell a = some c) : h.load a = .ok c := by
  unfold load
  rw [if_neg (ne_zero hc), hc]

@[simp] theorem load_null (h : Heap α) : h.load 0 = .error .null := rfl

theorem setNext_of {n : Nat} (hc : h.cell a = some c) :
    ∃ h', h.setNext a n = .ok h' ∧ h'.cell = Function.update h.cell a (some (c.1, n)) ∧
      h'.brk = h.brk := by
  unfold setNext
  rw [if_neg (ne_zero hc)]
  split
  · rename_i hn
    rw [hc] at hn
    cases hn
  · rename_i c' hc'
    rw [hc] at hc'
    cases hc'
    exact ⟨_, rfl, rfl, rfl⟩

theorem setVal_of {v : α} (hc : h.cell a = some c) :
    ∃ h', h.setVal a v = .ok h' ∧ h'.cell = Function.update h.cell a (some (v, c.2)) ∧
      h'.brk = h.brk := by
  unfold setVal
  rw [if_neg (ne_zero hc)]
  split
  · rename_i hn
    rw [hc] at hn
    cases hn
  · rename_i c' hc'
    rw [hc] at hc'
    cases hc'
    exact ⟨_, rfl, rfl, rfl⟩

theorem free_of (hc : h.cell a = some c) :
    ∃ h', h.free a = .ok h' ∧ h'.cell = Function.update h.cell a none ∧ h'.brk = h.brk := by
  unfold free
  rw [if_neg (ne_zero hc), hc]
  exact ⟨_, rfl, rfl, rfl⟩

end Heap

/-! ## 2. Segments -/

variable {α : Type}

/-- Following `next` from `p` visits exactly the cells `l` and ends at `q`. -/
def Seg (h : Heap α) : Nat → List (Nat × α) → Nat → Prop
  | p, [], q => p = q
  | p, (a, v) :: l, q => p = a ∧ ∃ n, h.cell a = some (v, n) ∧ Seg h n l q

namespace Seg

variable {h h' : Heap α} {p q : Nat} {l l₁ l₂ : List (Nat × α)} {a : Nat} {v : α}

@[simp] theorem nil_iff : Seg h p [] q ↔ p = q := Iff.rfl

theorem cons_iff : Seg h p ((a, v) :: l) q ↔ p = a ∧ ∃ n, h.cell a = some (v, n) ∧ Seg h n l q :=
  Iff.rfl

theorem append_iff : Seg h p (l₁ ++ l₂) q ↔ ∃ m, Seg h p l₁ m ∧ Seg h m l₂ q := by
  induction l₁ generalizing p with
  | nil => simp
  | cons c l₁ ih =>
    obtain ⟨a, v⟩ := c
    simp only [cons_append, cons_iff, ih]
    constructor
    · rintro ⟨rfl, n, hc, m, h1, h2⟩
      exact ⟨m, ⟨rfl, n, hc, h1⟩, h2⟩
    · rintro ⟨m, ⟨rfl, n, hc, h1⟩, h2⟩
      exact ⟨rfl, n, hc, m, h1, h2⟩

theorem mem_cell (hs : Seg h p l q) (hm : (a, v) ∈ l) : ∃ n, h.cell a = some (v, n) := by
  induction l generalizing p with
  | nil => exact absurd hm not_mem_nil
  | cons c l ih =>
    obtain ⟨b, w⟩ := c
    obtain ⟨rfl, n, hc, hs'⟩ := hs
    rcases mem_cons.mp hm with he | hm
    · cases he
      exact ⟨n, hc⟩
    · exact ih hs' hm

theorem unique (h1 : Seg h p l₁ 0) (h2 : Seg h p l₂ 0) : l₁ = l₂ := by
  induction l₁ generalizing p l₂ with
  | nil =>
    cases l₂ with
    | nil => rfl
    | cons c l₂ =>
      obtain ⟨rfl, n, hc, _⟩ := h2
      exact absurd h1 (Heap.ne_zero hc)
  | cons c l₁ ih =>
    obtain ⟨a, v⟩ := c
    obtain ⟨rfl, n, hc, hs⟩ := h1
    cases l₂ with
    | nil => exact absurd h2 (Heap.ne_zero hc)
    | cons d l₂ =>
      obtain ⟨b, w⟩ := d
      obtain ⟨rfl, m, hd, ht⟩ := h2
      rw [hc] at hd
      cases hd
      rw [ih hs ht]

/-- **A segment that ends at NULL is acyclic**: it visits no address twice. -/
theorem nodup (hs : Seg h p l 0) : (l.map Prod.fst).Nodup := by
  induction l generalizing p with
  | nil => exact nodup_nil
  | cons c l ih =>
    obtain ⟨a, v⟩ := c
    obtain ⟨rfl, n, hc, ht⟩ := hs
    rw [map_cons, nodup_cons]
    refine ⟨fun hm => ?_, ih ht⟩
    -- a second visit of `a` would give a shorter segment from the same address
    obtain ⟨⟨b, w⟩, hb, e⟩ := mem_map.mp hm
    obtain ⟨s, t, rfl⟩ := append_of_mem hb
    obtain ⟨m, _, h2⟩ := append_iff.mp ht
    have hm' : m = b := h2.1
    have e' : b = p := e
    subst hm'
    subst e'
    have h1 : Seg h m ((m, v) :: (s ++ (m, w) :: t)) 0 := ⟨rfl, n, hc, ht⟩
    have hl := congrArg List.length (unique h1 h2)
    simp only [length_cons, length_append] at hl
    omega

theorem frame (hs : Seg h p l q) (he : ∀ a ∈ l.map Prod.fst, h'.cell a = h.cell a) :
    Seg h' p l q := by
  induction l generalizing p with
  | nil => exact hs
  | cons c l ih =>
    obtain ⟨a, v⟩ := c
    obtain ⟨rfl, n, hc, ht⟩ := hs
    refine ⟨rfl, n, ?_, ih ht fun b hb => he b (mem_cons_of_mem _ hb)⟩
    rw [he p mem_cons_self, hc]

theorem frame_update {c : Option (α × Nat)} (hs : Seg h p l q)
    (hu : h'.cell = Function.update h.cell a c) (ha : a ∉ l.map Prod.fst) : Seg h' p l q :=
  hs.frame fun b hb => by
    rw [hu, Function.update_of_ne]
    rintro rfl
    exact ha hb

theorem cell_last (hs : Seg h p (l ++ [(a, v)]) q) : h.cell a = some (v, q) := by
  obtain ⟨m, _, rfl, n, hc, rfl⟩ := append_iff.mp hs
  exact hc

theorem relink_last {n : Nat} (hs : Seg h p (l ++ [(a, v)]) q) (ha : a ∉ l.map Prod.fst)
    (hu : h'.cell = Function.update h.cell a (some (v, n))) : Seg h' p (l ++ [(a, v)]) n := by
  obtain ⟨m, h1, h2⟩ := append_iff.mp hs
  obtain ⟨rfl, _, _, _⟩ := h2
  refine append_iff.mpr ⟨m, h1.frame_update hu ha, rfl, n, ?_, rfl⟩
  rw [hu, Function.update_self]

theorem eq_nil_iff (hs : Seg h p l 0) : l = [] ↔ p = 0 := by
  cases l with
  | nil => exact ⟨fun _ => hs, fun _ => rfl⟩
  | cons c l =>
    obtain ⟨rfl, n, hc, _⟩ := hs
    exact ⟨nofun, fun h0 => absurd h0 (Heap.ne_zero hc)⟩

section Middle

variable {b n : Nat} {w : α} (hs : Seg h p (l₁ ++ (b, w) :: (a, v) :: l₂) 0)

include hs

theorem ne_of_middle : a ≠ b ∧ a ≠ p := by
  have hnd := hs.nodup
  refine ⟨?_, ?_⟩
  · simp only [map_append, map_cons] at hnd
    grind
  · rintro rfl
    cases l₁ with
    | nil =>
      obtain ⟨rfl, _⟩ := hs
      simp at hnd
    | cons c l₁ =>
      obtain ⟨rfl, _⟩ := hs
      simp at hnd

theorem cells_of_middle :
    h.cell b = some (w, a) ∧ ∃ n, h.cell a = some (v, n) ∧ Seg h n l₂ 0 := by
  obtain ⟨_, _, rfl, _, hb, rfl, ha⟩ := append_iff.mp hs
  exact ⟨hb, ha⟩

/-- **Taking a cell out**: the cell before it gets its `next`. What is then stored in the cell does
    not matter. -/
theorem skip {h₁ h₂ : Heap α} {c : Option (α × Nat)} (hc : h.cell a = some (v, n))
    (u1 : h₁.cell = Function.update h.cell b (some (w, n)))
    (u2 : h₂.cell = Function.update h₁.cell a c) : Seg h₂ p (l₁ ++ (b, w) :: l₂) 0 := by
  have hnd := hs.nodup
  simp only [map_append, map_cons] at hnd
  have hs' : Seg h p ((l₁ ++ [(b, w)]) ++ (a, v) :: l₂) 0 := by simpa using hs
  obtain ⟨_, h1, rfl, n', hc', h2⟩ := append_iff.mp hs'
  rw [hc] at hc'
  cases hc'
  have h3 : Seg h₂ p (l₁ ++ [(b, w)]) n := (h1.relink_last (by grind) u1).frame_update u2 (by grind)
  have h4 : Seg h₂ n l₂ 0 := (h2.frame_update u1 (by grind)).frame_update u2 (by grind)
  simpa using append_iff.mpr ⟨n, h3, h4⟩

end Middle

theorem length_lt_brk (hs : Seg h p l 0) : l.length < h.brk := by
  have hsub : l.map Prod.fst ⊆ List.range h.brk := fun a ha => by
    obtain ⟨⟨b, v⟩, hb, rfl⟩ := mem_map.mp ha
    obtain ⟨n, hc⟩ := hs.mem_cell hb
    exact mem_range.mpr (Heap.lt_brk hc)
  have h0 : 0 ∉ l.map Prod.fst := fun h0 => by
    obtain ⟨⟨b, v⟩, hb, e⟩ := mem_map.mp h0
    obtain ⟨n, hc⟩ := hs.mem_cell hb
    exact Heap.ne_zero hc e
  have hnd : (0 :: l.map Prod.fst).Nodup := nodup_cons.mpr ⟨h0, hs.nodup⟩
  have hsub' : 0 :: l.map Prod.fst ⊆ List.range h.brk :=
    cons_subset.mpr ⟨mem_range.mpr h.brkPos, hsub⟩
  have := (subperm_of_subset hnd hsub').length_le
  simp only [length_cons, length_map, length_range] at this
  omega

end Seg

end TcpPath.Util
