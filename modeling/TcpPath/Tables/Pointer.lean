/-
  Subject:   The memory of the switch tables: `struct mac_to_port` and `struct table_tcp` are
             both a header (`inicio`, `fin`, `num_element`) over singly linked nodes.

  A loop of the source is a recursion on a bound. `brk` (one more than the nodes ever allocated)
  bounds every walk of a represented table, so `Fault.noEnd` is never the result there.
-/
import TcpPath.Util.Cells
import TcpPath.Util.FirstMatch

namespace TcpPath

open Util List Function

variable {α : Type}

/-- A table header and the heap its nodes live in. -/
structure Tabla (α : Type) where
  inicio : Nat
  fin : Nat
  numElement : Int
  heap : Heap α

namespace Tabla

/-! ## 1. The pieces of pointer code -/

/-- `mac_to_port_new`, `table_tcp_new`. -/
def new : Tabla α := ⟨0, 0, 0, Heap.empty⟩

/-- Append a new node behind `fin` (`mac_to_port_add`, `mac_to_port_add_hello`). -/
def append (m : Tabla α) (nuevo : α) : Except Fault (Tabla α) := do
  let nuevoElemento := m.heap.alloc (nuevo, 0)
  if m.inicio = 0 then
    pure ⟨nuevoElemento.1, nuevoElemento.1, m.numElement + 1, nuevoElemento.2⟩
  else
    let h ← nuevoElemento.2.setNext m.fin nuevoElemento.1
    pure ⟨m.inicio, nuevoElemento.1, m.numElement + 1, h⟩

/-- Walk from `aux` to the first node `hit` answers for. The result is `aux`, `ant`, `pos` and
    `port_select` (`none` for -1) when the loop is left. -/
def searchLoop (hit : α → Option Nat) (h : Heap α) :
    Nat → Nat → Nat → Nat → Except Fault (Nat × Nat × Nat × Option Nat)
  | 0, _, _, _ => .error .noEnd
  | k + 1, aux, ant, pos =>
      if aux = 0 then .ok (aux, ant, pos, none)
      else do
        let c ← h.load aux
        match hit c.1 with
        | some p => .ok (aux, ant, pos, some p)
        | none => searchLoop hit h k c.2 aux (pos + 1)

/-- `ant->next = aux->next; if(ant->next == NULL) fin = ant; aux->next = inicio; inicio = aux`. -/
def moveFront (m : Tabla α) (ant aux : Nat) : Except Fault (Tabla α) := do
  let c ← m.heap.load aux
  let h ← m.heap.setNext ant c.2
  let fin := if c.2 = 0 then ant else m.fin
  let h ← h.setNext aux m.inicio
  pure { inicio := aux, fin := fin, numElement := m.numElement, heap := h }

/-- A search that moves its hit to the front from the third place on
    (`mac_to_port_found_port`, `table_tcp_found_port`). -/
def foundPort (hit : α → Option Nat) (m : Tabla α) : Except Fault (Option Nat × Tabla α) := do
  let (aux, ant, pos, portSelect) ←
    searchLoop hit m.heap (m.heap.brk + 1) m.inicio m.inicio 1
  if 2 < pos ∧ 0 < portSelect.getD 0 then
    let m ← m.moveFront ant aux
    pure (portSelect, m)
  else pure (portSelect, m)

/-- Walk to the first node that meets `hit` and store `f` of its fields; the stored fields. -/
def updateLoop (hit : α → Bool) (f : α → α) (h : Heap α) :
    Nat → Nat → Except Fault (Option α × Heap α)
  | 0, _ => .error .noEnd
  | k + 1, aux =>
      if aux = 0 then .ok (none, h)
      else do
        let c ← h.load aux
        if hit c.1 then
          let h ← h.setVal aux (f c.1)
          pure (some (f c.1), h)
        else updateLoop hit f h k c.2

/-- The update loops (`mac_to_port_update`, `mac_to_port_time_refresh`, `table_tcp_update_time`,
    `table_tcp_update_port`). -/
def updateFirst (hit : α → Bool) (f : α → α) (m : Tabla α) :
    Except Fault (Option α × Tabla α) := do
  let (r, h) ← updateLoop hit f m.heap (m.heap.brk + 1) m.inicio
  pure (r, { m with heap := h })

/-- The removal of `actual` behind `aux` in the deletion loops: the table and `aux` afterwards. -/
def unlink (m : Tabla α) (aux actual : Nat) : Except Fault (Tabla α × Nat) := do
  let c ← m.heap.load actual
  if actual = m.inicio then
    let inicio := if m.numElement = 1 then 0 else c.2
    let fin := if m.numElement = 1 then 0 else m.fin
    let h ← m.heap.free actual
    pure ({ inicio := inicio, fin := fin, numElement := m.numElement - 1, heap := h }, inicio)
  else if actual = m.fin then
    let h ← m.heap.setNext aux 0
    let h ← h.free actual
    pure ({ inicio := m.inicio, fin := aux, numElement := m.numElement - 1, heap := h }, aux)
  else
    let h ← m.heap.setNext aux c.2
    let h ← h.free actual
    pure ({ m with numElement := m.numElement - 1, heap := h }, aux)

/-! ## 2. What a table represents -/

/-- The address of the last node, NULL for the empty list. -/
def lastAddr (l : List (Nat × α)) : Nat := ((l.map Prod.fst).getLast?).getD 0

/-- **The header and heap represent the nodes `l`.** -/
structure Rep (lax : Bool) (m : Tabla α) (l : List (Nat × α)) : Prop where
  seg : Seg m.heap m.inicio l 0
  num : m.numElement = l.length
  fin : m.fin = lastAddr l ∨ (lax = true ∧ m.fin = 0)

@[simp] theorem lastAddr_append_cons (l : List (Nat × α)) (c : Nat × α) (l' : List (Nat × α)) :
    lastAddr (l ++ c :: l') = lastAddr (c :: l') := by
  simp [lastAddr, getLast?_append, getLast?_cons]

@[simp] theorem lastAddr_concat (l : List (Nat × α)) (a : Nat) (v : α) :
    lastAddr (l ++ [(a, v)]) = a := by
  simp [lastAddr]

variable {l : List (Nat × α)} {c : Nat × α}

theorem lastAddr_mem (h : l ≠ []) : lastAddr l ∈ l.map Prod.fst := by
  unfold lastAddr
  have hne : l.map Prod.fst ≠ [] := by simpa using h
  rw [getLast?_eq_getLast_of_ne_nil hne]
  exact getLast_mem hne

theorem lastAddr_cons_of_ne (h : l ≠ []) : lastAddr (c :: l) = lastAddr l := by
  cases l with
  | nil => exact absurd rfl h
  | cons d l => exact lastAddr_append_cons [c] d l

theorem lastAddr_skip {l' : List (Nat × α)} {d : Nat × α} (h : l' ≠ []) :
    lastAddr (l ++ c :: d :: l') = lastAddr (l ++ c :: l') := by
  rw [lastAddr_append_cons, lastAddr_append_cons, lastAddr_cons_of_ne (by simp),
    lastAddr_cons_of_ne h, lastAddr_cons_of_ne h]

theorem new_rep (lax : Bool) : Rep lax (new : Tabla α) [] :=
  ⟨rfl, rfl, .inl rfl⟩

namespace Rep

variable {lax : Bool} {m : Tabla α} {l : List (Nat × α)}

theorem inicio_zero (hr : Rep lax m l) : m.inicio = 0 ↔ l = [] := by
  constructor
  · intro h0
    cases l with
    | nil => rfl
    | cons c l =>
      obtain ⟨a, v⟩ := c
      obtain ⟨he, n, hc, _⟩ := hr.seg
      exact absurd (he ▸ h0) (Heap.ne_zero hc)
  · rintro rfl
    exact hr.seg

theorem addr_ne_zero (hr : Rep lax m l) {a : Nat} (ha : a ∈ l.map Prod.fst) : a ≠ 0 := by
  obtain ⟨⟨b, v⟩, hb, rfl⟩ := mem_map.mp ha
  obtain ⟨n, hc⟩ := hr.seg.mem_cell hb
  exact Heap.ne_zero hc

theorem next_of {pre post : List (Nat × α)} {b : Nat} {w : α}
    (hr : Rep lax m (pre ++ (b, w) :: post)) :
    ∃ n, m.heap.load b = .ok (w, n) ∧ Seg m.heap n post 0 := by
  obtain ⟨q, _, rfl, n, hc, hs⟩ := Seg.append_iff.mp hr.seg
  exact ⟨n, Heap.load_of hc, hs⟩

theorem brk_notMem (hr : Rep lax m l) : m.heap.brk ∉ l.map Prod.fst := fun h => by
  obtain ⟨⟨c, x⟩, hc, e⟩ := mem_map.mp h
  obtain ⟨n, hn⟩ := hr.seg.mem_cell hc
  exact Nat.ne_of_lt (Heap.lt_brk hn) e

theorem cons (hr : Rep lax m l) (v : α) {fin : Nat}
    (hfin : fin = lastAddr ((m.heap.brk, v) :: l) ∨ (lax = true ∧ fin = 0)) :
    Rep lax ⟨m.heap.brk, fin, m.numElement + 1, (m.heap.alloc (v, m.inicio)).2⟩
      ((m.heap.brk, v) :: l) :=
  ⟨⟨rfl, m.inicio, update_self .., hr.seg.frame_update rfl hr.brk_notMem⟩,
    congrArg (· + 1) hr.num, hfin⟩

theorem cons_nil (hr : Rep lax m []) (v : α) {fin : Nat}
    (hfin : fin = m.heap.brk ∨ (lax = true ∧ fin = 0)) :
    Rep lax ⟨m.heap.brk, fin, m.numElement + 1, (m.heap.alloc (v, 0)).2⟩ [(m.heap.brk, v)] :=
  hr.inicio_zero.mpr rfl ▸ hr.cons v hfin

end Rep

/-! ## 3. One lemma for each piece -/

section Specs

variable {lax : Bool} {m : Tabla α} {l pre post : List (Nat × α)} {a b : Nat} {v w : α}

theorem append_spec (hr : Rep false m l) (v : α) :
    ∃ m' a, m.append v = .ok m' ∧ Rep false m' (l ++ [(a, v)]) := by
  have hfin : m.fin = lastAddr l := hr.fin.resolve_right fun h => nomatch h.1
  have hbrk := hr.brk_notMem
  have hseg : Seg (m.heap.alloc (v, 0)).2 m.inicio l 0 := hr.seg.frame_update rfl hbrk
  have hcell : (m.heap.alloc (v, 0)).2.cell m.heap.brk = some (v, 0) := update_self ..
  by_cases h0 : m.inicio = 0
  · have hl : l = [] := hr.inicio_zero.mp h0
    subst hl
    exact ⟨_, m.heap.brk, if_pos h0, hr.cons_nil v (.inl rfl)⟩
  · have hne : l ≠ [] := fun h => h0 (hr.inicio_zero.mpr h)
    obtain ⟨l', ⟨b, w⟩, rfl⟩ := eq_nil_or_concat l |>.resolve_left hne
    rw [concat_eq_append] at hr hfin hbrk hseg ⊢
    rw [lastAddr_concat] at hfin
    obtain ⟨h', hs, hu, _⟩ := Heap.setNext_of (n := m.heap.brk) hseg.cell_last
    have hnd := hr.seg.nodup
    rw [map_append, nodup_append] at hnd
    have hb : b ∉ l'.map Prod.fst := fun h => hnd.2.2 b h b (by simp) rfl
    have hbb : m.heap.brk ≠ b := fun e => hbrk (by simp [e])
    refine ⟨⟨m.inicio, m.heap.brk, m.numElement + 1, h'⟩, m.heap.brk, ?_, ?_, ?_, ?_⟩
    · rw [append, if_neg h0, hfin, show (m.heap.alloc (v, 0)).1 = m.heap.brk from rfl, hs]
      rfl
    · refine Seg.append_iff.mpr ⟨m.heap.brk, hseg.relink_last hb hu, rfl, 0, ?_, rfl⟩
      rw [hu, update_of_ne hbb, hcell]
    · show m.numElement + 1 = _
      rw [hr.num]
      simp only [length_append, length_cons, length_nil]
      omega
    · rw [lastAddr_concat]
      exact .inl rfl

variable {hit : α → Option Nat} {h : Heap α} {k aux : Nat}

theorem searchLoop_hit {p : Nat} (ant pos : Nat) (hs : Seg h aux (pre ++ (a, v) :: post) 0)
    (hk : pre.length < k) (hpre : ∀ c ∈ pre, hit c.2 = none) (hv : hit v = some p) :
    searchLoop hit h k aux ant pos =
      .ok (a, ((pre.map Prod.fst).getLast?).getD ant, pos + pre.length, some p) := by
  induction pre generalizing k aux ant pos with
  | nil =>
    obtain ⟨rfl, n, hc, _⟩ := hs
    obtain ⟨k, rfl⟩ := Nat.exists_eq_add_one.mpr hk
    simp [searchLoop, Heap.ne_zero hc, Heap.load_of hc, hv]
  | cons c pre ih =>
    obtain ⟨b, w⟩ := c
    obtain ⟨rfl, n, hc, ht⟩ := hs
    obtain ⟨k, rfl⟩ := Nat.exists_eq_add_one.mpr (Nat.zero_lt_of_lt hk)
    have hw : hit w = none := hpre (aux, w) mem_cons_self
    simp only [searchLoop, Heap.ne_zero hc, Heap.load_of hc, hw, ok_bind, if_false]
    rw [ih aux (pos + 1) ht (by simp at hk; omega) fun c hc => hpre c (mem_cons_of_mem _ hc)]
    simp only [map_cons, getLast?_cons, length_cons, Option.getD_some,
      Except.ok.injEq, Prod.mk.injEq, true_and, and_true]
    omega

theorem searchLoop_miss (ant pos : Nat) (hs : Seg h aux l 0) (hk : l.length < k)
    (hl : ∀ c ∈ l, hit c.2 = none) :
    ∃ ant' pos', searchLoop hit h k aux ant pos = .ok (0, ant', pos', none) := by
  induction l generalizing k aux ant pos with
  | nil =>
    obtain rfl : aux = 0 := hs
    obtain ⟨k, rfl⟩ := Nat.exists_eq_add_one.mpr hk
    exact ⟨ant, pos, rfl⟩
  | cons c l ih =>
    obtain ⟨b, w⟩ := c
    obtain ⟨rfl, n, hc, ht⟩ := hs
    obtain ⟨k, rfl⟩ := Nat.exists_eq_add_one.mpr (Nat.zero_lt_of_lt hk)
    obtain ⟨ant', pos', he⟩ := ih aux (pos + 1) (k := k) ht
      (by simp at hk; omega) fun c hc => hl c (mem_cons_of_mem _ hc)
    have hw : hit w = none := hl (aux, w) mem_cons_self
    exact ⟨ant', pos', by simp [searchLoop, Heap.ne_zero hc, Heap.load_of hc, hw, he]⟩

theorem moveFront_spec (hr : Rep lax m (pre ++ (b, w) :: (a, v) :: post)) :
    ∃ m', m.moveFront b a = .ok m' ∧ Rep lax m' ((a, v) :: (pre ++ (b, w) :: post)) := by
  obtain ⟨hab, _⟩ := hr.seg.ne_of_middle
  obtain ⟨hcb, n, hc, h2⟩ := hr.seg.cells_of_middle
  obtain ⟨h₁, e1, u1, _⟩ := Heap.setNext_of (n := n) hcb
  have hc1 : h₁.cell a = some (v, n) := by rw [u1, update_of_ne hab, hc]
  obtain ⟨h₂, e2, u2, _⟩ := Heap.setNext_of (n := m.inicio) hc1
  refine ⟨⟨a, if n = 0 then b else m.fin, m.numElement, h₂⟩, ?_, ?_, ?_, ?_⟩
  · simp only [moveFront, Heap.load_of hc, e1, e2, ok_bind]
    rfl
  · exact ⟨rfl, m.inicio, by rw [u2, update_self], hr.seg.skip hc u1 u2⟩
  · show m.numElement = _
    rw [hr.num]
    simp only [length_append, length_cons]
    omega
  · show (if n = 0 then b else m.fin) = _ ∨ _
    by_cases hn : n = 0
    · rw [if_pos hn, h2.eq_nil_iff.mpr hn, lastAddr_cons_of_ne (by simp), lastAddr_concat]
      exact .inl rfl
    · rw [if_neg hn]
      have hp : post ≠ [] := fun hp => hn (h2.eq_nil_iff.mp hp)
      rcases hr.fin with hf | hf
      · exact .inl (by rw [hf, lastAddr_skip hp, lastAddr_cons_of_ne (by simp)])
      · exact .inr hf

/-- **The search with move-to-front**: it answers with the first hit, and the list is left with
    that hit moved to the front. -/
theorem foundPort_spec (hit : α → Option Nat) (hr : Rep lax m l) :
    ∃ m', foundPort hit m = .ok ((l.map Prod.snd).findSome? hit, m') ∧
      Rep lax m' (toFront (fun c => (hit c.2).isSome) (fun c => 0 < (hit c.2).getD 0) l) := by
  have hk : l.length < m.heap.brk + 1 := Nat.lt_succ_of_lt hr.seg.length_lt_brk
  unfold toFront
  cases hsf : splitFirst (fun c : Nat × α => (hit c.2).isSome) l with
  | none =>
    have hl : ∀ c ∈ l, hit c.2 = none := fun c hc => by
      simpa using splitFirst_none.mp hsf c hc
    obtain ⟨ant, pos, he⟩ := searchLoop_miss m.inicio 1 hr.seg hk hl
    have hnone : (l.map Prod.snd).findSome? hit = none := by
      rw [findSome?_eq_none_iff]
      intro x hx
      obtain ⟨c, hc, rfl⟩ := mem_map.mp hx
      exact hl c hc
    refine ⟨m, ?_, hr⟩
    rw [foundPort, he, hnone, ok_bind]
    exact if_neg (by simp)
  | some r =>
    obtain ⟨pre, ⟨a, v⟩, post⟩ := r
    obtain ⟨rfl, hv, hpre⟩ := splitFirst_some.mp hsf
    obtain ⟨p, hp⟩ := Option.isSome_iff_exists.mp hv
    have hpre' : ∀ c ∈ pre, hit c.2 = none := fun c hc => by simpa using hpre c hc
    have he := searchLoop_hit m.inicio 1 hr.seg
      (by simp at hk; omega : pre.length < m.heap.brk + 1) hpre' hp
    have hsome : ((pre ++ (a, v) :: post).map Prod.snd).findSome? hit = some p := by
      rw [map_append, findSome?_append, map_cons]
      have : (pre.map Prod.snd).findSome? hit = none := by
        rw [findSome?_eq_none_iff]
        intro x hx
        obtain ⟨c, hc, rfl⟩ := mem_map.mp hx
        exact hpre' c hc
      rw [this]
      simp [hp]
    rw [hsome]
    by_cases hmove : 2 ≤ pre.length ∧ 0 < p
    · -- from the third place on there is a node before the hit, and `ant` is that node
      obtain ⟨pre', ⟨b, w⟩, rfl⟩ := eq_nil_or_concat pre |>.resolve_left
        (by rintro rfl; simp at hmove)
      rw [concat_eq_append] at *
      have hr' : Rep lax m (pre' ++ (b, w) :: (a, v) :: post) := by simpa using hr
      obtain ⟨m', e', r'⟩ := moveFront_spec hr'
      refine ⟨m', ?_, ?_⟩
      · rw [foundPort, he]
        simp only [map_append, map_cons, map_nil, getLast?_concat,
          Option.getD_some, ok_bind]
        rw [if_pos (by simp at hmove ⊢; omega), e']
        rfl
      · simp only [hp, Option.getD_some]
        rw [if_pos (by simpa using hmove)]
        simpa using r'
    · refine ⟨m, ?_, ?_⟩
      · rw [foundPort, he, ok_bind]
        exact if_neg (by simp; omega)
      · simp only [hp, Option.getD_some]
        rw [if_neg (by simpa using hmove)]
        exact hr

theorem updateLoop_spec (hit : α → Bool) (f : α → α) (hs : Seg h aux l 0) (hk : l.length < k) :
    ∃ h', updateLoop hit f h k aux = .ok (((l.map Prod.snd).find? hit).map f, h') ∧
      Seg h' aux (modifyFirst (fun c => hit c.2) (fun c => (c.1, f c.2)) l) 0 ∧
      ∀ b, b ∉ l.map Prod.fst → h'.cell b = h.cell b := by
  induction l generalizing k aux with
  | nil =>
    obtain rfl : aux = 0 := hs
    obtain ⟨k, rfl⟩ := Nat.exists_eq_add_one.mpr hk
    exact ⟨h, rfl, rfl, fun _ _ => rfl⟩
  | cons c l ih =>
    obtain ⟨a, v⟩ := c
    have hnd := hs.nodup
    obtain ⟨rfl, n, hc, ht⟩ := hs
    obtain ⟨k, rfl⟩ := Nat.exists_eq_add_one.mpr (Nat.zero_lt_of_lt hk)
    rw [map_cons, nodup_cons] at hnd
    have hrun : updateLoop hit f h (k + 1) aux = if hit v = true then
        (do let h' ← h.setVal aux (f v); pure (some (f v), h')) else updateLoop hit f h k n := by
      rw [updateLoop, if_neg (Heap.ne_zero hc), Heap.load_of hc]
      rfl
    by_cases hv : hit v = true
    · obtain ⟨h', e, u, _⟩ := Heap.setVal_of (v := f v) hc
      refine ⟨h', ?_, ?_, fun b hb => ?_⟩
      · rw [hrun, if_pos hv, e, map_cons, find?_cons_of_pos hv]
        rfl
      · rw [modifyFirst, if_pos hv]
        exact ⟨rfl, n, by rw [u, update_self], ht.frame_update u hnd.1⟩
      · rw [u, update_of_ne]
        rintro rfl
        exact hb mem_cons_self
    · obtain ⟨h', e, hs', hfr⟩ := ih (k := k) ht (by simp at hk; omega)
      refine ⟨h', ?_, ?_, fun b hb => hfr b fun h => hb (mem_cons_of_mem _ h)⟩
      · rw [hrun, if_neg hv, e, map_cons, find?_cons_of_neg hv]
      · rw [modifyFirst, if_neg hv]
        exact ⟨rfl, n, by rw [hfr aux hnd.1, hc], hs'⟩

/-- **The update loops** change the fields of the first hit and nothing else. -/
theorem updateFirst_spec (hit : α → Bool) (f : α → α) (hr : Rep lax m l) :
    ∃ m', updateFirst hit f m = .ok (((l.map Prod.snd).find? hit).map f, m') ∧
      Rep lax m' (modifyFirst (fun c => hit c.2) (fun c => (c.1, f c.2)) l) := by
  obtain ⟨h', e, hs, _⟩ := updateLoop_spec hit f hr.seg (Nat.lt_succ_of_lt hr.seg.length_lt_brk)
  have hmap : (modifyFirst (fun c => hit c.2) (fun c => (c.1, f c.2)) l).map Prod.fst =
      l.map Prod.fst :=
    map_modifyFirst (p := fun c => hit c.2) (f := fun c => (c.1, f c.2)) Prod.fst (fun _ _ => rfl) l
  refine ⟨{ m with heap := h' }, ?_, hs, ?_, ?_⟩
  · rw [updateFirst, e]
    rfl
  · show m.numElement = _
    rw [hr.num, length_modifyFirst]
  · show m.fin = _ ∨ _
    unfold lastAddr
    rw [hmap]
    exact hr.fin

theorem unlink_first (hr : Rep lax m ((a, v) :: post)) (aux : Nat) :
    ∃ m', m.unlink aux a = .ok (m', m'.inicio) ∧ Rep lax m' post ∧ m'.heap.cell a = none ∧
      ∀ x, m.heap.cell x = none → m'.heap.cell x = none := by
  have hnd := hr.seg.nodup
  rw [map_cons, nodup_cons] at hnd
  obtain ⟨hi, n, hc, ht⟩ := hr.seg
  obtain ⟨h', e, u, _⟩ := Heap.free_of hc
  have hs : Seg h' n post 0 := ht.frame_update u hnd.1
  have hone : m.numElement = 1 ↔ post = [] := by
    rw [hr.num, length_cons]
    cases post with
    | nil => simp
    | cons c l => simp; omega
  refine ⟨⟨if m.numElement = 1 then 0 else n, if m.numElement = 1 then 0 else m.fin,
    m.numElement - 1, h'⟩, ?_, ⟨?_, ?_, ?_⟩, by rw [u, update_self], fun x hx => ?_⟩
  · simp only [unlink, Heap.load_of hc, hi, e, ok_bind, if_true]
    rfl
  · show Seg h' (if m.numElement = 1 then 0 else n) post 0
    by_cases h1 : m.numElement = 1
    · rw [if_pos h1, hone.mp h1]
      rfl
    · rw [if_neg h1]
      exact hs
  · show m.numElement - 1 = _
    rw [hr.num, length_cons]
    omega
  · show (if m.numElement = 1 then 0 else m.fin) = _ ∨ _
    by_cases h1 : m.numElement = 1
    · rw [if_pos h1, hone.mp h1]
      exact .inl rfl
    · rw [if_neg h1]
      have hp : post ≠ [] := fun h => h1 (hone.mpr h)
      rcases hr.fin with hf | hf
      · exact .inl (by rw [hf, lastAddr_cons_of_ne hp])
      · exact .inr hf
  · rw [u, update_apply, hx, ite_self]

theorem eq_nil_of_fin (hr : Rep lax m (pre ++ (a, v) :: post)) (hf : a = m.fin) : post = [] := by
  by_contra hp
  have hnd := hr.seg.nodup
  rw [map_append, map_cons, nodup_append, nodup_cons] at hnd
  rcases hr.fin with hl | hl
  · rw [lastAddr_append_cons, lastAddr_cons_of_ne hp, ← hf] at hl
    exact hnd.2.1.1 (hl ▸ lastAddr_mem hp)
  · exact hr.addr_ne_zero (by simp) (hf.trans hl.2)

theorem unlink_later (hr : Rep lax m (pre ++ (b, w) :: (a, v) :: post)) :
    ∃ m', m.unlink b a = .ok (m', b) ∧ Rep lax m' (pre ++ (b, w) :: post) ∧
      m'.heap.cell a = none ∧ ∀ x, m.heap.cell x = none → m'.heap.cell x = none := by
  obtain ⟨hab, hni⟩ := hr.seg.ne_of_middle
  have hfin : a = m.fin → post = [] := by
    rw [append_cons] at hr
    exact eq_nil_of_fin hr
  obtain ⟨hcb, n, hc, h2⟩ := hr.seg.cells_of_middle
  obtain ⟨h₁, e1, u1, _⟩ := Heap.setNext_of (n := n) hcb
  have hc1 : h₁.cell a = some (v, n) := by rw [u1, update_of_ne hab, hc]
  obtain ⟨h₂, e2, u2, _⟩ := Heap.free_of hc1
  refine ⟨⟨m.inicio, if a = m.fin then b else m.fin, m.numElement - 1, h₂⟩, ?_,
    ⟨hr.seg.skip hc u1 u2, ?_, ?_⟩, by rw [u2, update_self], fun x hx => ?_⟩
  · -- both branches store the successor of the removed node: at `fin` it is NULL
    simp only [unlink, Heap.load_of hc, if_neg hni, ok_bind]
    by_cases hf : a = m.fin
    · rw [h2.eq_nil_iff.mp (hfin hf)] at e1
      simp only [if_pos hf, e1, e2, ok_bind]
      rfl
    · simp only [if_neg hf, e1, e2, ok_bind]
      rfl
  · show m.numElement - 1 = _
    rw [hr.num]
    simp only [length_append, length_cons]
    omega
  · show (if a = m.fin then b else m.fin) = _ ∨ _
    by_cases hf : a = m.fin
    · rw [if_pos hf, hfin hf, lastAddr_concat]
      exact .inl rfl
    · rw [if_neg hf]
      rcases hr.fin with hl | hl
      · have hp : post ≠ [] := by
          rintro rfl
          rw [lastAddr_append_cons, lastAddr_cons_of_ne (by simp)] at hl
          exact hf hl.symm
        exact .inl (by rw [hl, lastAddr_skip hp])
      · exact .inr hl
  · have hxb : x ≠ b := by
      rintro rfl
      rw [hcb] at hx
      cases hx
    rw [u2, update_apply, u1, update_of_ne hxb, hx, ite_self]

/-- **A loop that removes nodes** behind `aux` as it comes by them, `actual` being the node after
    `aux`, filters. -/
theorem deleteLoop_spec {loop : Nat → Tabla α → Nat → Nat → Except Fault (Tabla α)} {q : α → Bool}
    (hend : ∀ k m b, loop (k + 1) m b 0 = .ok m)
    (hdel : ∀ {k m m' b a v w n n'}, b ≠ 0 → m.heap.cell a = some (v, n) → q v = true →
      m.unlink b a = .ok (m', b) → m'.heap.load b = .ok (w, n') →
      loop (k + 1) m b a = loop k m' b n')
    (hkeep : ∀ {k m b a v w n}, m.heap.load b = .ok (w, a) → m.heap.cell a = some (v, n) →
      q v = false → loop (k + 1) m b a = loop k m a n)
    {k actual : Nat} (hr : Rep lax m (pre ++ (b, w) :: post)) (ha : Seg m.heap actual post 0)
    (hk : post.length < k) :
    ∃ m', loop k m b actual = .ok m' ∧ Rep lax m' (pre ++ (b, w) :: post.filter (!q ·.2)) := by
  induction post generalizing k m pre b w actual with
  | nil =>
    obtain ⟨k, rfl⟩ := Nat.exists_eq_add_one.mpr hk
    obtain rfl : actual = 0 := ha
    exact ⟨m, hend k m b, hr⟩
  | cons c post ih =>
    obtain ⟨a, v⟩ := c
    obtain ⟨rfl, n, hc, hn⟩ := ha
    obtain ⟨k, rfl⟩ := Nat.exists_eq_add_one.mpr (Nat.zero_lt_of_lt hk)
    have hk' : post.length < k := Nat.lt_of_succ_lt_succ hk
    cases hx : q v with
    | true =>
      obtain ⟨m₁, e1, r1, _, _⟩ := unlink_later hr
      obtain ⟨n1, e2, hn1⟩ := r1.next_of
      rw [hdel (r1.addr_ne_zero (by simp)) hc hx e1 e2, filter_cons_of_neg (by simp [hx])]
      exact ih r1 hn1 hk'
    | false =>
      have hr' : Rep lax m ((pre ++ [(b, w)]) ++ (actual, v) :: post) := by simpa using hr
      obtain ⟨n1, e1, rfl, _⟩ := hr.next_of
      rw [hkeep e1 hc hx, filter_cons_of_pos (by simp [hx])]
      simpa using ih hr' hn hk'

end Specs

end Tabla

end TcpPath
