/-
  Subject:   The TCP-table functions of dp_ports.c as pointer code, and what they do to the list
             of entries.

  `table_tcp_add` stores NULL in `fin` at the first insertion and never touches it again; only
  `table_tcp_found_port` and `table_tcp_delete_timeout` set it, to the node that is last then.
  So `fin` is NULL or the last node (`Rep true`), the branch `actual == fin` of the cleanup is
  taken at the last node only, and no live suffix is cut off.

  Results:   `TcpOp.exec_refines`: the pointer code refines the list functions;
             `tcpTable_run_sound`: no run faults, and a timeout deletes expired entries only.
-/
import TcpPath.Tables.Tcp
import TcpPath.Tables.Pointer

namespace TcpPath

open Util Tabla List

/-- `struct table_tcp` in memory. -/
abbrev TcpMem := Tabla TableTcpTime

namespace Code

/-! ## 1. The pointer code -/

def tableTcpNew : TcpMem := Tabla.new

def tableTcpAdd (m : TcpMem) (key : CmpTableTcp) (portIn tcpTime now : Nat) :
    Except Fault TcpMem :=
  let nuevo := TableTcpTime.nuevo key portIn tcpTime now
  if m.inicio = 0 then
    let n := m.heap.alloc (nuevo, 0)
    -- `fin = nuevo_elemento->next`
    .ok ⟨n.1, 0, m.numElement + 1, n.2⟩
  else
    let n := m.heap.alloc (nuevo, m.inicio)
    .ok ⟨n.1, m.fin, m.numElement + 1, n.2⟩

def tableTcpUpdateTime (m : TcpMem) (key : CmpTableTcp) (tcpTime now : Nat) :
    Except Fault TcpMem :=
  if m.numElement = 0 then .ok m
  else do
    let r ← m.updateFirst (·.eitherWay key) fun e => { e with timeEntry := now + tcpTime * 1000 }
    pure r.2

def tableTcpUpdatePort (m : TcpMem) (key : CmpTableTcp) (inPort tcpTime now : Nat) :
    Except Fault (Nat × TcpMem) :=
  if m.numElement = 0 then .ok (0, m)
  else do
    let r ← m.updateFirst (fun e => decide (e.key = key.inverso))
      fun e => { e with portOut := port16 inPort, timeEntry := now + tcpTime * 1000 }
    pure ((r.1.map (·.portIn)).getD 0, r.2)

def tableTcpFoundPort (m : TcpMem) (key : CmpTableTcp) : Except Fault (Option Nat × TcpMem) :=
  if m.numElement = 0 then .ok (none, m) else m.foundPort (tcpHit key)

def tableTcpFoundPortIn (m : TcpMem) (key : CmpTableTcp) : Except Fault (Option Nat) :=
  if m.numElement = 0 then .ok none
  else do
    let r ← searchLoop (tcpHitIn key) m.heap (m.heap.brk + 1) m.inicio 0 0
    pure r.2.2.2

/-- The loop of `table_tcp_delete_timeout`. -/
def tcpDeleteLoop (now : Nat) : Nat → TcpMem → Nat → Nat → Except Fault TcpMem
  | 0, _, _, _ => .error .noEnd
  | k + 1, m, aux, actual =>
      if actual = 0 then .ok m
      else if 2 < m.numElement then do
        let c ← m.heap.load actual
        if c.1.vencido now then
          let r ← m.unlink aux actual
          let d ← r.1.heap.load r.2
          tcpDeleteLoop now k r.1 r.2 d.2
        else tcpDeleteLoop now k m actual c.2
      else tcpDeleteLoop now k m aux 0

def tableTcpDeleteTimeout (m : TcpMem) (now : Nat) : Except Fault TcpMem :=
  tcpDeleteLoop now (m.heap.brk + 1) m m.inicio m.inicio

end Code

/-! ## 2. The pointer code and the list -/

section Refine

variable {m : TcpMem} {l pre post : List (Nat × TableTcpTime)} {b : Nat} {w : TableTcpTime}

theorem tableTcpAdd_rep (hr : Rep true m l) (key : CmpTableTcp) (portIn tcpTime now : Nat) :
    ∃ m' a, Code.tableTcpAdd m key portIn tcpTime now = .ok m' ∧
      Rep true m' ((a, .nuevo key portIn tcpTime now) :: l) := by
  by_cases h0 : m.inicio = 0
  · obtain rfl := hr.inicio_zero.mp h0
    exact ⟨_, _, if_pos h0, hr.cons_nil _ (.inr ⟨rfl, rfl⟩)⟩
  · have hne : l ≠ [] := fun h => h0 (hr.inicio_zero.mpr h)
    refine ⟨_, _, if_neg h0, hr.cons _ ?_⟩
    rw [lastAddr_cons_of_ne hne]
    exact hr.fin

/-- Past its first step the cleanup loop is `deleteWalk`, and frees what it leaves out. -/
theorem tcpDeleteLoop_rep (now : Nat) {k actual : Nat} (hr : Rep true m (pre ++ (b, w) :: post))
    (ha : Seg m.heap actual post 0) (hk : post.length + 1 < k) :
    ∃ m', Code.tcpDeleteLoop now k m b actual = .ok m' ∧
      Rep true m' (pre ++ (b, w) ::
        deleteWalk (fun c => c.2.vencido now) (pre ++ (b, w) :: post).length post) ∧
      (∀ c ∈ post, c ∉ deleteWalk (fun c => c.2.vencido now) (pre ++ (b, w) :: post).length post →
        m'.heap.cell c.1 = none) ∧
      ∀ x, m.heap.cell x = none → m'.heap.cell x = none := by
  induction post generalizing k m pre b w actual with
  | nil =>
    obtain rfl : actual = 0 := ha
    obtain ⟨k, rfl⟩ := Nat.exists_eq_add_one.mpr (Nat.zero_lt_of_lt hk)
    exact ⟨m, rfl, hr, fun c hc => absurd hc not_mem_nil, fun _ h => h⟩
  | cons c post ih =>
    obtain ⟨a, v⟩ := c
    obtain ⟨rfl, n, hc, hn⟩ := ha
    obtain ⟨k, rfl⟩ := Nat.exists_eq_add_one.mpr (Nat.zero_lt_of_lt hk)
    have hk' : post.length + 1 < k := Nat.lt_of_succ_lt_succ hk
    have hnum := hr.num
    rw [deleteWalk]
    by_cases h2 : 2 < (pre ++ (b, w) :: (actual, v) :: post).length
    · have h2' : 2 < m.numElement := by omega
      rw [if_pos h2]
      by_cases hx : v.vencido now = true
      · obtain ⟨m₁, e1, r1, hfree, hkeep⟩ := unlink_later hr
        obtain ⟨n1, e2, hn1⟩ := r1.next_of
        obtain ⟨m', e3, r3, hf3, hk3⟩ := ih r1 hn1 hk'
        have hlen : (pre ++ (b, w) :: (actual, v) :: post).length - 1 =
            (pre ++ (b, w) :: post).length := by simp
        rw [if_pos hx, hlen]
        refine ⟨m', ?_, r3, forall_mem_cons.mpr ⟨fun _ => hk3 _ hfree, hf3⟩,
          fun x h => hk3 x (hkeep x h)⟩
        simp [Code.tcpDeleteLoop, Heap.ne_zero hc, Heap.load_of hc, h2', hx, e1, e2, e3]
      · have hr' : Rep true m ((pre ++ [(b, w)]) ++ (actual, v) :: post) := by simpa using hr
        obtain ⟨m', e3, r3, hf3, hk3⟩ := ih hr' hn hk'
        have hlen : (pre ++ [(b, w)] ++ (actual, v) :: post).length =
            (pre ++ (b, w) :: (actual, v) :: post).length := by simp
        rw [hlen] at r3 hf3
        rw [if_neg hx]
        refine ⟨m', ?_, by simpa using r3, forall_mem_cons.mpr
          ⟨fun hnot => absurd mem_cons_self hnot,
            fun c hc hnot => hf3 c hc fun h => hnot (mem_cons_of_mem _ h)⟩, hk3⟩
        simp [Code.tcpDeleteLoop, Heap.ne_zero hc, Heap.load_of hc, h2', hx, e3]
    · have h2' : ¬ 2 < m.numElement := by omega
      obtain ⟨j, rfl⟩ := Nat.exists_eq_add_one.mpr (Nat.zero_lt_of_lt hk')
      rw [if_neg h2]
      refine ⟨m, ?_, hr, fun c hc hnot => absurd hc hnot, fun _ h => h⟩
      simp [Code.tcpDeleteLoop, Heap.ne_zero hc, h2']

/-- **`table_tcp_delete_timeout`**: it does not fault, leaves `deleteFrom`, and the nodes it leaves
    out are freed. -/
theorem tableTcpDeleteTimeout_rep (hr : Rep true m l) (now : Nat) :
    ∃ m', Code.tableTcpDeleteTimeout m now = .ok m' ∧
      Rep true m' (deleteFrom (fun c => c.2.vencido now) l) ∧
      ∀ c ∈ l, c ∉ deleteFrom (fun c => c.2.vencido now) l → m'.heap.cell c.1 = none := by
  have hk := hr.seg.length_lt_brk
  have hnum := hr.num
  obtain ⟨j, hj⟩ := Nat.exists_eq_add_one.mpr m.heap.brkPos
  unfold Code.tableTcpDeleteTimeout
  match l, hr, hk, hnum with
  | [], hr, _, _ =>
    exact ⟨m, if_pos (hr.inicio_zero.mpr rfl), hr, fun c hc => absurd hc not_mem_nil⟩
  | [(a, v)], hr, _, hnum =>
    obtain ⟨hi, n, hc, hs⟩ := hr.seg
    have h2' : ¬ 2 < m.numElement := by simp at hnum; omega
    refine ⟨m, ?_, hr, fun c hc hnot => absurd hc hnot⟩
    simp [hi, Code.tcpDeleteLoop, Heap.ne_zero hc, h2', hj]
  | (a, v) :: (b, w) :: r, hr, hk, hnum =>
    obtain ⟨hi, n, hc, hs⟩ := hr.seg
    rw [deleteFrom]
    by_cases h2 : 2 < r.length + 2
    · have h2' : 2 < m.numElement := by simp at hnum; omega
      rw [if_pos h2]
      by_cases hx : v.vencido now = true
      · obtain ⟨m₁, e1, r1, hfree, hkeep⟩ := unlink_first hr a
        have hi1 : m₁.inicio = b := r1.seg.1
        have r1' : Rep true m₁ ([] ++ (b, w) :: r) := r1
        obtain ⟨n1, e2, hn1⟩ := r1'.next_of
        obtain ⟨m', e3, r3, hf3, hk3⟩ := tcpDeleteLoop_rep now r1' hn1
          (by simp at hk; omega : r.length + 1 < m.heap.brk)
        rw [if_pos hx]
        refine ⟨m', ?_, r3, forall_mem_cons.mpr ⟨fun _ => hk3 _ hfree,
          forall_mem_cons.mpr ⟨fun hnot => absurd mem_cons_self hnot,
            fun c hc hnot => hf3 c hc fun h => hnot (mem_cons_of_mem _ h)⟩⟩⟩
        simp [hi, Code.tcpDeleteLoop, Heap.ne_zero hc, Heap.load_of hc, h2', hx, e1, hi1, e2, e3]
      · have hr' : Rep true m ([] ++ (a, v) :: (b, w) :: r) := hr
        obtain ⟨m', e3, r3, hf3, _⟩ := tcpDeleteLoop_rep now hr' hs
          (by simp at hk ⊢; omega : ((b, w) :: r).length + 1 < m.heap.brk)
        rw [if_neg hx]
        refine ⟨m', ?_, r3, forall_mem_cons.mpr
          ⟨fun hnot => absurd mem_cons_self hnot,
            fun c hc hnot => hf3 c hc fun h => hnot (mem_cons_of_mem _ h)⟩⟩
        simp [hi, Code.tcpDeleteLoop, Heap.ne_zero hc, Heap.load_of hc, h2', hx, e3]
    · have h2' : ¬ 2 < m.numElement := by simp at hnum; omega
      rw [if_neg h2]
      refine ⟨m, ?_, hr, fun c hc hnot => absurd hc hnot⟩
      simp [hi, Code.tcpDeleteLoop, Heap.ne_zero hc, h2', hj]

end Refine

/-! ## 3. Runs of the table functions -/

/-- A call of one of the table functions, with its arguments and the clock it reads. -/
inductive TcpOp where
  | add (key : CmpTableTcp) (portIn tcpTime now : Nat)
  | updateTime (key : CmpTableTcp) (tcpTime now : Nat)
  | updatePort (key : CmpTableTcp) (inPort tcpTime now : Nat)
  | foundPort (key : CmpTableTcp)
  | foundPortIn (key : CmpTableTcp)
  | deleteTimeout (now : Nat)

namespace TcpOp

/-- The call as pointer code; the result is what it returns (0 where nothing reads it). -/
def exec : TcpOp → TcpMem → Except Fault (Option Nat × TcpMem)
  | add key p tcpTime now, m => do
      let m ← Code.tableTcpAdd m key p tcpTime now
      pure (some 0, m)
  | updateTime key tcpTime now, m => do
      let m ← Code.tableTcpUpdateTime m key tcpTime now
      pure (some 0, m)
  | updatePort key inPort tcpTime now, m => do
      let r ← Code.tableTcpUpdatePort m key inPort tcpTime now
      pure (some r.1, r.2)
  | foundPort key, m => Code.tableTcpFoundPort m key
  | foundPortIn key, m => do
      let r ← Code.tableTcpFoundPortIn m key
      pure (r, m)
  | deleteTimeout now, m => do
      let m ← Code.tableTcpDeleteTimeout m now
      pure (some 0, m)

/-- The call on the list of entries. -/
def onList : TcpOp → TcpTable → Option Nat × TcpTable
  | add key p tcpTime now, t => (some 0, tableTcpAdd t key p tcpTime now)
  | updateTime key tcpTime now, t => (some 0, tableTcpUpdateTime t key tcpTime now)
  | updatePort key inPort tcpTime now, t =>
      (some (tableTcpUpdatePort t key inPort tcpTime now).1,
        (tableTcpUpdatePort t key inPort tcpTime now).2)
  | foundPort key, t => tableTcpFoundPort t key
  | foundPortIn key, t => (tableTcpFoundPortIn t key, t)
  | deleteTimeout now, t => (some 0, tableTcpDeleteTimeout t now)

variable {m : TcpMem} {l : List (Nat × TableTcpTime)}

theorem empty_of_num (hr : Rep true m l) (h0 : m.numElement = 0) : l = [] := by
  have hnum := hr.num
  exact length_eq_zero_iff.mp (by omega)

theorem tableTcpFoundPort_rep (hr : Rep true m l) (key : CmpTableTcp) :
    ∃ m' l', Code.tableTcpFoundPort m key =
        .ok ((tableTcpFoundPort (l.map Prod.snd) key).1, m') ∧ Rep true m' l' ∧ l'.Perm l ∧
      (tableTcpFoundPort (l.map Prod.snd) key).2 = l'.map Prod.snd := by
  unfold Code.tableTcpFoundPort
  by_cases h0 : m.numElement = 0
  · obtain rfl := empty_of_num hr h0
    exact ⟨m, [], if_pos h0, hr, .refl _, rfl⟩
  · obtain ⟨m', e, r⟩ := foundPort_spec (tcpHit key) hr
    rw [if_neg h0]
    exact ⟨m', _, e, r, toFront_perm _ _ _, toFront_map Prod.snd l⟩

theorem foundPortIn_rep (hr : Rep true m l) (key : CmpTableTcp) :
    Code.tableTcpFoundPortIn m key = .ok (tableTcpFoundPortIn (l.map Prod.snd) key) := by
  unfold Code.tableTcpFoundPortIn tableTcpFoundPortIn
  by_cases h0 : m.numElement = 0
  · rw [if_pos h0, empty_of_num hr h0]
    rfl
  rw [if_neg h0]
  have hk : l.length < m.heap.brk + 1 := Nat.lt_succ_of_lt hr.seg.length_lt_brk
  cases hs : splitFirst (fun c : Nat × TableTcpTime => decide (c.2.key = key)) l with
  | none =>
    have hl : ∀ c ∈ l, tcpHitIn key c.2 = none := fun c hc =>
      if_neg (by simpa using splitFirst_none.mp hs c hc)
    obtain ⟨ant, pos, e⟩ := searchLoop_miss 0 0 hr.seg hk hl
    rw [e, find?_map, Function.comp_def, find?_of_splitFirst_none hs]
    rfl
  | some t =>
    obtain ⟨pre, ⟨a, v⟩, post⟩ := t
    obtain ⟨rfl, hv, hpre⟩ := splitFirst_some.mp hs
    have hv' : tcpHitIn key v = some v.portIn := if_pos (by simpa using hv)
    have hpre' : ∀ c ∈ pre, tcpHitIn key c.2 = none :=
      fun c hc => if_neg (by simpa using hpre c hc)
    have hkp : pre.length < m.heap.brk + 1 := by simp at hk; omega
    rw [searchLoop_hit 0 0 hr.seg hkp hpre' hv', find?_map, Function.comp_def,
      find?_of_splitFirst hs]
    rfl

/-- **The pointer code refines the list functions**, the value returned included; no call
    faults. -/
theorem exec_refines (op : TcpOp) (hr : Rep true m l) :
    ∃ m' l', op.exec m = .ok ((op.onList (l.map Prod.snd)).1, m') ∧ Rep true m' l' ∧
      (op.onList (l.map Prod.snd)).2 = l'.map Prod.snd := by
  cases op with
  | add key p tcpTime now =>
    obtain ⟨m', a, e, r⟩ := tableTcpAdd_rep hr key p tcpTime now
    exact ⟨m', _, by rw [exec, e]; rfl, r, rfl⟩
  | updateTime key tcpTime now =>
    by_cases h0 : m.numElement = 0
    · obtain rfl := empty_of_num hr h0
      exact ⟨m, [], by rw [exec, Code.tableTcpUpdateTime, if_pos h0]; rfl, hr, rfl⟩
    · obtain ⟨m', e, r⟩ := updateFirst_spec (·.eitherWay key)
        (fun e => { e with timeEntry := now + tcpTime * 1000 }) hr
      refine ⟨m', _, ?_, r, modifyFirst_map Prod.snd (fun _ => rfl) l⟩
      rw [exec, Code.tableTcpUpdateTime, if_neg h0, e]
      rfl
  | updatePort key inPort tcpTime now =>
    by_cases h0 : m.numElement = 0
    · obtain rfl := empty_of_num hr h0
      exact ⟨m, [], by rw [exec, Code.tableTcpUpdatePort, if_pos h0]; rfl, hr, rfl⟩
    · obtain ⟨m', e, r⟩ := updateFirst_spec (fun e => decide (e.key = key.inverso))
        (fun e => { e with portOut := port16 inPort, timeEntry := now + tcpTime * 1000 }) hr
      refine ⟨m', _, ?_, r, modifyFirst_map Prod.snd (fun _ => rfl) l⟩
      rw [exec, Code.tableTcpUpdatePort, if_neg h0, e]
      show Except.ok _ = Except.ok _
      rw [Option.map_map]
      rfl
  | foundPort key =>
    obtain ⟨m', l', e, r, _, hl⟩ := tableTcpFoundPort_rep hr key
    exact ⟨m', l', e, r, hl⟩
  | foundPortIn key => exact ⟨m, l, by rw [exec, foundPortIn_rep hr]; rfl, hr, rfl⟩
  | deleteTimeout now =>
    obtain ⟨m', e, r, _⟩ := tableTcpDeleteTimeout_rep hr now
    exact ⟨m', _, by rw [exec, e]; rfl, r, deleteFrom_map _ Prod.snd l⟩

end TcpOp

/-- A run of calls from `table_tcp_new`. -/
def tcpRun (ops : List TcpOp) : Except Fault TcpMem :=
  ops.foldlM (fun m op => Prod.snd <$> op.exec m) Code.tableTcpNew

/-- The chain from `inicio` is `l` and ends at NULL without meeting a node twice, `num_element` is
    its length, and `fin` is NULL or its last node. -/
structure TcpSound (m : TcpMem) (l : List (Nat × TableTcpTime)) : Prop where
  seg : Seg m.heap m.inicio l 0
  acyclic : (l.map Prod.fst).Nodup
  num : m.numElement = l.length
  fin : m.fin = 0 ∨ m.fin = lastAddr l

theorem tcpSound_of_rep {m : TcpMem} {l : List (Nat × TableTcpTime)} (hr : Rep true m l) :
    TcpSound m l :=
  ⟨hr.seg, hr.seg.nodup, hr.num, hr.fin.symm.imp And.right id⟩

theorem tcpRun_rep (ops : List TcpOp) : ∃ m l, tcpRun ops = .ok m ∧ Rep true m l := by
  suffices h : ∀ (m : TcpMem) (l : List (Nat × TableTcpTime)), Rep true m l →
      ∃ m' l', ops.foldlM (fun m op => Prod.snd <$> op.exec m) m = .ok m' ∧ Rep true m' l' from
    h _ _ (new_rep true)
  induction ops with
  | nil => exact fun m l hr => ⟨m, l, rfl, hr⟩
  | cons op ops ih =>
    intro m l hr
    obtain ⟨m₁, l₁, e1, r1, _⟩ := op.exec_refines hr
    obtain ⟨m', l', e2, r2⟩ := ih m₁ l₁ r1
    refine ⟨m', l', ?_, r2⟩
    rw [foldlM_cons, e1]
    exact e2

/-- **Over runs**: every run of calls ends without a fault, and `table_tcp_delete_timeout` then
keeps every entry that has not expired; one that is no longer in the list has expired and its node
is freed. -/
theorem tcpTable_run_sound (ops : List TcpOp) :
    ∃ m l, tcpRun ops = .ok m ∧ TcpSound m l ∧
      ∀ now, ∃ m' l', Code.tableTcpDeleteTimeout m now = .ok m' ∧ TcpSound m' l' ∧
        l'.Sublist l ∧ (∀ c ∈ l, now < c.2.timeEntry → c ∈ l') ∧
        ∀ c ∈ l, c ∉ l' → c.2.timeEntry ≤ now ∧ m'.heap.cell c.1 = none := by
  obtain ⟨m, l, e, hr⟩ := tcpRun_rep ops
  refine ⟨m, l, e, tcpSound_of_rep hr, fun now => ?_⟩
  obtain ⟨m', e', r', hfree⟩ := tableTcpDeleteTimeout_rep hr now
  have hkeep : ∀ c ∈ l, now < c.2.timeEntry → c ∈ deleteFrom (fun c => c.2.vencido now) l := by
    intro c hc hlive
    refine mem_deleteFrom hc ?_
    show decide (c.2.timeEntry ≤ now) = false
    exact decide_eq_false (by omega)
  refine ⟨m', _, e', tcpSound_of_rep r', deleteFrom_sublist _ l, hkeep, fun c hc hnot => ?_⟩
  refine ⟨?_, hfree c hc hnot⟩
  by_contra hlive
  exact hnot (hkeep c hc (by omega))

end TcpPath
