/-
  Subject:   The MAC-table functions of dp_ports.c as pointer code, and what they do to the list
             of entries.

  Results:   `MacOp.exec_refines`: the pointer code refines the list functions;
             `macTable_run_sound_iff`: runs fault where a timeout meets a table of one entry;
             `macTable_expiry_iff`: when an expiry leaves the neighbours and the entries in force;
             `macTable_flush_iff`: when a flush leaves the other ports and the neighbours.
-/
import TcpPath.Tables.MacPort
import TcpPath.Tables.Pointer

namespace TcpPath

open Util

/-- `struct mac_to_port` in memory. -/
abbrev MacMem := Tabla MacPortTime

namespace Code

/-! ## 1. The pointer code -/

def macToPortNew : MacMem := Tabla.new

def macToPortAdd (m : MacMem) (mac : EthAddr) (portIn time now : Nat) : Except Fault MacMem :=
  m.append ⟨mac, port16 portIn, 0, now + time * 1000⟩

def macToPortAddHello (m : MacMem) (pkt : Packet) (portIn time now : Nat) : Except Fault MacMem :=
  m.append ⟨pkt.ethSrc, port16 portIn, (byteAt pkt.buffer (pkt.buffer.length - 1)).toNat,
    now + time * 1000⟩

/-- `mac_to_port_add_arp_table`: in front of `inicio`, emptiness read from `num_element`. The
    neighbour table behind `is_neighbor(pkt)` is another table, given by its entries. -/
def macToPortAddArpTable (m : MacMem) (mac : EthAddr) (portIn time : Nat)
    (neighborTable : MacTable) (inPort now : Nat) : Except Fault MacMem :=
  let actual := m.inicio
  let nuevo : MacPortTime :=
    ⟨mac, port16 portIn, isNeighbor neighborTable inPort, now + time * 1000⟩
  if m.numElement = 0 then
    let n := m.heap.alloc (nuevo, 0)
    .ok ⟨n.1, n.1, m.numElement + 1, n.2⟩
  else
    let n := m.heap.alloc (nuevo, actual)
    .ok ⟨n.1, m.fin, m.numElement + 1, n.2⟩

def macToPortUpdate (m : MacMem) (mac : EthAddr) (portIn time now : Nat) :
    Except Fault (Nat × MacMem) := do
  let r ← m.updateFirst (·.hasMac mac)
    fun e => { e.refresh (now + time * 1000) with portIn := port16 portIn }
  pure (if r.1.isSome then 0 else 1, r.2)

def macToPortTimeRefresh (m : MacMem) (mac : EthAddr) (time now : Nat) : Except Fault MacMem := do
  let r ← m.updateFirst (·.hasMac mac) (·.refresh (now + time * 1000))
  pure r.2

def macToPortFoundPort (m : MacMem) (mac : EthAddr) (now : Nat) :
    Except Fault (Option Nat × MacMem) :=
  m.foundPort (foundHit mac now)

/-- The loop of `mac_to_port_delete_timeout`: `actual = aux -> next` ends every round, whether or
    not `aux` is NULL. -/
def deleteTimeoutLoop (now : Nat) : Nat → MacMem → Nat → Nat → Except Fault MacMem
  | 0, _, _, _ => .error .noEnd
  | k + 1, m, aux, actual =>
      if actual = 0 then .ok m
      else do
        let c ← m.heap.load actual
        if c.1.expired now then
          let r ← m.unlink aux actual
          let d ← r.1.heap.load r.2
          deleteTimeoutLoop now k r.1 r.2 d.2
        else
          let b ← m.heap.load aux
          let d ← m.heap.load b.2
          deleteTimeoutLoop now k m b.2 d.2

def macToPortDeleteTimeout (m : MacMem) (now : Nat) : Except Fault MacMem :=
  deleteTimeoutLoop now (m.heap.brk + 1) m m.inicio m.inicio

/-- The loop of `mac_to_port_delete_port`: here the step to the next node is guarded. -/
def deletePortLoop (port : Nat) : Nat → MacMem → Nat → Nat → Except Fault MacMem
  | 0, _, _, _ => .error .noEnd
  | k + 1, m, aux, actual =>
      if actual = 0 then .ok m
      else do
        let c ← m.heap.load actual
        if c.1.onPort port then
          let r ← m.unlink aux actual
          if r.2 = 0 then deletePortLoop port k r.1 r.2 0
          else
            let d ← r.1.heap.load r.2
            deletePortLoop port k r.1 r.2 d.2
        else deletePortLoop port k m actual c.2

def macToPortDeletePort (m : MacMem) (port : Nat) : Except Fault MacMem :=
  deletePortLoop port (m.heap.brk + 1) m m.inicio m.inicio

end Code

/-! ## 2. The pointer code and the list -/

open Tabla

section Refine

variable {m : MacMem} {l pre post : List (Nat × MacPortTime)} {b : Nat} {w : MacPortTime}

theorem macToPortFoundPort_rep (hr : Rep false m l) (mac : EthAddr) (now : Nat) :
    ∃ m' l', Code.macToPortFoundPort m mac now =
        .ok ((macToPortFoundPort (l.map Prod.snd) mac now).1, m') ∧ Rep false m' l' ∧ l'.Perm l ∧
      (macToPortFoundPort (l.map Prod.snd) mac now).2 = l'.map Prod.snd := by
  obtain ⟨m', e, r⟩ := foundPort_spec (foundHit mac now) hr
  exact ⟨m', _, e, r, toFront_perm _ _ _, toFront_map Prod.snd l⟩

theorem addArpTable_rep (hr : Rep false m l) (mac : EthAddr) (portIn time : Nat) (nt : MacTable)
    (inPort now : Nat) :
    ∃ m' a, Code.macToPortAddArpTable m mac portIn time nt inPort now = .ok m' ∧
      Rep false m' ((a, ⟨mac, port16 portIn, isNeighbor nt inPort, now + time * 1000⟩) :: l) := by
  by_cases h0 : m.numElement = 0
  · obtain rfl : l = [] := List.length_eq_zero_iff.mp (Int.natCast_eq_zero.mp (hr.num ▸ h0))
    exact ⟨_, _, if_pos h0, hr.cons_nil _ (.inl rfl)⟩
  · have hne : l ≠ [] := by
      rintro rfl
      exact h0 hr.num
    refine ⟨_, _, if_neg h0, hr.cons _ (.inl ?_)⟩
    rw [lastAddr_cons_of_ne hne]
    exact hr.fin.resolve_right fun h => nomatch h.1

variable {k actual now : Nat} {d : Nat × MacPortTime} {port : Nat}

/-- Past its first step, `mac_to_port_delete_timeout` filters: `aux` is the node before
    `actual`. -/
theorem deleteTimeoutLoop_rep (now : Nat) (hr : Rep false m (pre ++ (b, w) :: post))
    (ha : Seg m.heap actual post 0) (hk : post.length < k) :
    ∃ m', Code.deleteTimeoutLoop now k m b actual = .ok m' ∧
      Rep false m' (pre ++ (b, w) :: post.filter fun c => !c.2.expired now) := by
  refine deleteLoop_spec (fun _ _ _ => rfl) (fun _ hc hx e1 e2 => ?_) (fun e1 hc hx => ?_) hr ha hk
  · simp [Code.deleteTimeoutLoop, Heap.ne_zero hc, Heap.load_of hc, hx, e1, e2]
  · simp [Code.deleteTimeoutLoop, Heap.ne_zero hc, Heap.load_of hc, hx, e1]

theorem deletePortLoop_rep (port : Nat) (hr : Rep false m (pre ++ (b, w) :: post))
    (ha : Seg m.heap actual post 0) (hk : post.length < k) :
    ∃ m', Code.deletePortLoop port k m b actual = .ok m' ∧
      Rep false m' (pre ++ (b, w) :: post.filter fun c => !c.2.onPort port) := by
  refine deleteLoop_spec (fun _ _ _ => rfl) (fun hb hc hx e1 e2 => ?_) (fun _ hc hx => ?_) hr ha hk
  · simp [Code.deletePortLoop, Heap.ne_zero hc, Heap.load_of hc, hx, e1, e2, hb]
  · simp [Code.deletePortLoop, Heap.ne_zero hc, Heap.load_of hc, hx]

/-- The nodes `mac_to_port_delete_timeout` leaves: it does not look at the second one. -/
def deleteTimeoutNodes (now : Nat) : List (Nat × MacPortTime) → List (Nat × MacPortTime)
  | c :: d :: r =>
      (if c.2.expired now then [] else [c]) ++ d :: r.filter fun x => !x.2.expired now
  | r => r

/-- **`mac_to_port_delete_timeout` on a table of two or more entries, or none**, node by node. -/
theorem deleteTimeout_nodes (hr : Rep false m l) (now : Nat) (hl : l.length ≠ 1) :
    ∃ m', Code.macToPortDeleteTimeout m now = .ok m' ∧ Rep false m' (deleteTimeoutNodes now l) := by
  have hk := hr.seg.length_lt_brk
  unfold Code.macToPortDeleteTimeout
  match l, hr, hl, hk with
  | [], hr, _, _ => exact ⟨m, if_pos (hr.inicio_zero.mpr rfl), hr⟩
  | (a, v) :: (b, w) :: r, hr, _, hk =>
    obtain ⟨hi, n, hc, rfl, _⟩ := hr.seg
    have hk' : r.length < m.heap.brk := by simp at hk; omega
    by_cases hx : v.expired now = true
    · obtain ⟨m₁, e1, r1, _, _⟩ := unlink_first hr a
      have hi1 : m₁.inicio = n := r1.seg.1
      have r1' : Rep false m₁ ([] ++ (n, w) :: r) := r1
      obtain ⟨n1, e2, hn1⟩ := r1'.next_of
      obtain ⟨m', e3, r3⟩ := deleteTimeoutLoop_rep now r1' hn1 hk'
      refine ⟨m', ?_, by simpa [deleteTimeoutNodes, hx] using r3⟩
      simp [Code.deleteTimeoutLoop, hi, Heap.ne_zero hc, Heap.load_of hc, hx, e1, hi1, e2, e3]
    · have hr' : Rep false m ([(a, v)] ++ (n, w) :: r) := hr
      obtain ⟨n1, e2, hn1⟩ := hr'.next_of
      obtain ⟨m', e3, r3⟩ := deleteTimeoutLoop_rep now hr' hn1 hk'
      refine ⟨m', ?_, by simpa [deleteTimeoutNodes, hx] using r3⟩
      simp [Code.deleteTimeoutLoop, hi, Heap.ne_zero hc, Heap.load_of hc, hx, e2, e3]

/-- **`mac_to_port_delete_timeout` on a table of two or more entries, or none.** -/
theorem deleteTimeout_rep (hr : Rep false m l) (now : Nat) (hl : l.length ≠ 1) :
    ∃ m' l', Code.macToPortDeleteTimeout m now = .ok m' ∧ Rep false m' l' ∧
      macToPortDeleteTimeout (l.map Prod.snd) now = some (l'.map Prod.snd) := by
  obtain ⟨m', e, r⟩ := deleteTimeout_nodes hr now hl
  refine ⟨m', _, e, r, ?_⟩
  match l, hl with
  | [], _ => rfl
  | c :: d :: r, _ =>
    by_cases hx : c.2.expired now = true <;>
      simp [macToPortDeleteTimeout, deleteTimeoutNodes, hx, List.filter_map, Function.comp_def]

/-- **On a table of one entry the loop follows NULL**, expired or not. -/
theorem deleteTimeout_single (hr : Rep false m l) (now : Nat) (hl : l.length = 1) :
    Code.macToPortDeleteTimeout m now = .error .null := by
  obtain ⟨⟨a, v⟩, rfl⟩ := List.length_eq_one_iff.mp hl
  obtain ⟨hi, n, hc, rfl⟩ := hr.seg
  obtain ⟨m₁, e1, r1, _, _⟩ := unlink_first hr a
  have hi1 : m₁.inicio = 0 := r1.inicio_zero.mpr rfl
  simp [Code.macToPortDeleteTimeout, Code.deleteTimeoutLoop, hi, Heap.ne_zero hc, Heap.load_of hc,
    e1, hi1]

theorem deleteTimeoutNodes_eq (hd : ∀ c, l[1]? = some c → c.2.expired now = false)
    (hl : l.length ≠ 1) : deleteTimeoutNodes now l = l.filter fun c => !c.2.expired now := by
  match l, hl with
  | [], _ => rfl
  | c :: d :: r, _ =>
    have hd : d.2.expired now = false := hd d rfl
    by_cases hx : c.2.expired now = true <;> simp [deleteTimeoutNodes, hx, hd]

theorem length_deleteTimeoutNodes (hd : l[1]? = some d) (hx : d.2.expired now = true) :
    (deleteTimeoutNodes now l).length = (l.filter fun c => !c.2.expired now).length + 1 := by
  match l, hd with
  | c :: d :: r, rfl =>
    by_cases hc : c.2.expired now = true <;> simp [deleteTimeoutNodes, hc, hx]

/-- The nodes `mac_to_port_delete_port` leaves: after the first one was removed, the next one is not
    looked at. -/
def deletePortNodes (port : Nat) : List (Nat × MacPortTime) → List (Nat × MacPortTime)
  | [] => []
  | c :: r =>
      if c.2.onPort port then r.take 1 ++ (r.drop 1).filter fun x => !x.2.onPort port
      else c :: r.filter fun x => !x.2.onPort port

/-- **`mac_to_port_delete_port`**, node by node. -/
theorem deletePort_nodes (hr : Rep false m l) (port : Nat) :
    ∃ m', Code.macToPortDeletePort m port = .ok m' ∧ Rep false m' (deletePortNodes port l) := by
  have hk := hr.seg.length_lt_brk
  unfold Code.macToPortDeletePort
  match l, hr, hk with
  | [], hr, _ => exact ⟨m, if_pos (hr.inicio_zero.mpr rfl), hr⟩
  | (a, v) :: r, hr, hk =>
    obtain ⟨hi, n, hc, hs⟩ := hr.seg
    by_cases hx : v.onPort port = true
    · obtain ⟨m₁, e1, r1, _, _⟩ := unlink_first hr a
      cases r with
      | nil =>
        have h0 : m₁.inicio = 0 := r1.inicio_zero.mpr rfl
        obtain ⟨j, hj⟩ := Nat.exists_eq_add_one.mpr m.heap.brkPos
        refine ⟨m₁, ?_, by simpa [deletePortNodes, hx] using r1⟩
        simp [Code.deletePortLoop, hi, Heap.ne_zero hc, Heap.load_of hc, hx, e1, h0, hj]
      | cons d r =>
        obtain ⟨b, w⟩ := d
        have hi1 : m₁.inicio = b := r1.seg.1
        have r1' : Rep false m₁ ([] ++ (b, w) :: r) := r1
        obtain ⟨n1, e2, hn1⟩ := r1'.next_of
        obtain ⟨m', e3, r3⟩ := deletePortLoop_rep port r1' hn1
          (by simp at hk; omega : r.length < m.heap.brk)
        have hb : b ≠ 0 := r1'.addr_ne_zero (by simp)
        refine ⟨m', ?_, by simpa [deletePortNodes, hx] using r3⟩
        simp [Code.deletePortLoop, hi, Heap.ne_zero hc, Heap.load_of hc, hx, e1, hi1, hb, e2, e3]
    · have hr' : Rep false m ([] ++ (a, v) :: r) := hr
      obtain ⟨m', e3, r3⟩ := deletePortLoop_rep port hr' hs
        (by simp at hk; omega : r.length < m.heap.brk)
      refine ⟨m', ?_, by simpa [deletePortNodes, hx] using r3⟩
      simp [Code.deletePortLoop, hi, Heap.ne_zero hc, Heap.load_of hc, hx, e3]

theorem deletePort_rep (hr : Rep false m l) (port : Nat) :
    ∃ m' l', Code.macToPortDeletePort m port = .ok m' ∧ Rep false m' l' ∧
      macToPortDeletePort (l.map Prod.snd) port = l'.map Prod.snd := by
  obtain ⟨m', e, r⟩ := deletePort_nodes hr port
  refine ⟨m', _, e, r, ?_⟩
  match l with
  | [] => rfl
  | [c] => by_cases hx : c.2.onPort port = true <;> simp [macToPortDeletePort, deletePortNodes, hx]
  | c :: d :: r =>
    by_cases hx : c.2.onPort port = true
    · simp [macToPortDeletePort, deletePortNodes, hx, List.filter_map, Function.comp_def]
    · have hmap := List.filter_map (p := fun x => !x.onPort port) (f := Prod.snd) (l := d :: r)
      simp only [List.map_cons, macToPortDeletePort, deletePortNodes, hx] at hmap ⊢
      exact congrArg (c.2 :: ·) hmap

theorem deletePortNodes_eq (h : ∀ c d, l[0]? = some c → l[1]? = some d → c.2.onPort port = true →
      d.2.onPort port = false) : deletePortNodes port l = l.filter fun c => !c.2.onPort port := by
  match l with
  | [] => rfl
  | [c] => by_cases hx : c.2.onPort port = true <;> simp [deletePortNodes, hx]
  | c :: d :: r =>
    by_cases hx : c.2.onPort port = true
    · simp [deletePortNodes, hx, h c d rfl rfl hx]
    · simp [deletePortNodes, hx]

theorem length_deletePortNodes {c : Nat × MacPortTime} (hc : l[0]? = some c) (hd : l[1]? = some d)
    (hcx : c.2.onPort port = true) (hdx : d.2.onPort port = true) :
    (deletePortNodes port l).length = (l.filter fun c => !c.2.onPort port).length + 1 := by
  match l, hc, hd with
  | c :: d :: r, rfl, rfl => simp [deletePortNodes, hcx, hdx]

end Refine

/-! ## 3. Calls of the table functions -/

/-- A call of one of the table functions, with its arguments and the clock it reads. -/
inductive MacOp where
  | add (mac : EthAddr) (portIn time now : Nat)
  | addHello (pkt : Packet) (portIn time now : Nat)
  | addArpTable (mac : EthAddr) (portIn time : Nat) (neighborTable : MacTable) (inPort now : Nat)
  | update (mac : EthAddr) (portIn time now : Nat)
  | timeRefresh (mac : EthAddr) (time now : Nat)
  | foundPort (mac : EthAddr) (now : Nat)
  | deleteTimeout (now : Nat)
  | deletePort (port : Nat)

namespace MacOp

/-- The call as pointer code. -/
def exec : MacOp → MacMem → Except Fault MacMem
  | add mac p time now, m => Code.macToPortAdd m mac p time now
  | addHello pkt p time now, m => Code.macToPortAddHello m pkt p time now
  | addArpTable mac p time nt inPort now, m => Code.macToPortAddArpTable m mac p time nt inPort now
  | update mac p time now, m => do
      let r ← Code.macToPortUpdate m mac p time now
      pure r.2
  | timeRefresh mac time now, m => Code.macToPortTimeRefresh m mac time now
  | foundPort mac now, m => do
      let r ← Code.macToPortFoundPort m mac now
      pure r.2
  | deleteTimeout now, m => Code.macToPortDeleteTimeout m now
  | deletePort port, m => Code.macToPortDeletePort m port

/-- The call on the list of entries. -/
def onList : MacOp → MacTable → Option MacTable
  | add mac p time now, t => some (macToPortAdd t mac p time now)
  | addHello pkt p time now, t => some (macToPortAddHello t pkt p time now)
  | addArpTable mac p time nt inPort now, t =>
      some (macToPortAddArpTable t mac p time (isNeighbor nt inPort) now)
  | update mac p time now, t => some (macToPortUpdate t mac p time now).2
  | timeRefresh mac time now, t => some (macToPortTimeRefresh t mac time now)
  | foundPort mac now, t => some (macToPortFoundPort t mac now).2
  | deleteTimeout now, t => macToPortDeleteTimeout t now
  | deletePort port, t => some (macToPortDeletePort t port)

/-- The one call that can fault: `mac_to_port_delete_timeout` on a table of one entry. -/
def Faults (op : MacOp) (n : Nat) : Prop := ∃ now, op = deleteTimeout now ∧ n = 1

variable {m : MacMem} {l : List (Nat × MacPortTime)}

/-- **The pointer code refines the list functions.** -/
theorem exec_refines (op : MacOp) (hr : Rep false m l) (hf : ¬ op.Faults l.length) :
    ∃ m' l', op.exec m = .ok m' ∧ Rep false m' l' ∧
      op.onList (l.map Prod.snd) = some (l'.map Prod.snd) := by
  cases op with
  | add mac p time now =>
    obtain ⟨m', a, e, r⟩ := append_spec hr _
    exact ⟨m', _, e, r, by simp [onList, macToPortAdd]⟩
  | addHello pkt p time now =>
    obtain ⟨m', a, e, r⟩ := append_spec hr _
    exact ⟨m', _, e, r, by simp [onList, macToPortAddHello]⟩
  | addArpTable mac p time nt inPort now =>
    obtain ⟨m', a, e, r⟩ := addArpTable_rep hr mac p time nt inPort now
    exact ⟨m', _, e, r, rfl⟩
  | update mac p time now =>
    obtain ⟨m', e, r⟩ := updateFirst_spec (·.hasMac mac)
      (fun e => { e.refresh (now + time * 1000) with portIn := port16 p }) hr
    refine ⟨m', _, ?_, r, congrArg some (modifyFirst_map Prod.snd (fun _ => rfl) l)⟩
    rw [exec, Code.macToPortUpdate, e]
    rfl
  | timeRefresh mac time now =>
    obtain ⟨m', e, r⟩ := updateFirst_spec (·.hasMac mac) (·.refresh (now + time * 1000)) hr
    refine ⟨m', _, ?_, r, congrArg some (modifyFirst_map Prod.snd (fun _ => rfl) l)⟩
    rw [exec, Code.macToPortTimeRefresh, e]
    rfl
  | foundPort mac now =>
    obtain ⟨m', l', e, r, _, hl⟩ := macToPortFoundPort_rep hr mac now
    refine ⟨m', l', ?_, r, congrArg some hl⟩
    rw [exec, e]
    rfl
  | deleteTimeout now => exact deleteTimeout_rep hr now fun h => hf ⟨now, rfl, h⟩
  | deletePort port =>
    obtain ⟨m', l', e, r, hl⟩ := deletePort_rep hr port
    exact ⟨m', l', e, r, congrArg some hl⟩

theorem exec_of_faults {op : MacOp} (hr : Rep false m l) (hf : op.Faults l.length) :
    op.exec m = .error .null := by
  obtain ⟨now, rfl, h1⟩ := hf
  exact deleteTimeout_single hr now h1

end MacOp

/-! ## 4. Runs -/

/-- A run of calls from `mac_to_port_new`. -/
def macRun (ops : List MacOp) : Except Fault MacMem :=
  ops.foldlM (fun m op => op.exec m) Code.macToPortNew

/-- **The representation invariant**: the chain from `inicio` ends at NULL without meeting a node
    twice, `num_element` is its length and `fin` its last node (NULL iff it is empty). -/
def MacSound (m : MacMem) : Prop :=
  ∃ l, Seg m.heap m.inicio l 0 ∧ (l.map Prod.fst).Nodup ∧ m.numElement = l.length ∧
    m.fin = lastAddr l ∧ (m.fin = 0 ↔ l = [])

theorem macSound_of_rep {m : MacMem} {l : List (Nat × MacPortTime)} (hr : Rep false m l) :
    MacSound m := by
  have hfin : m.fin = lastAddr l := hr.fin.resolve_right fun h => nomatch h.1
  refine ⟨l, hr.seg, hr.seg.nodup, hr.num, hfin, ?_⟩
  rw [hfin]
  constructor
  · intro h0
    by_contra hne
    exact hr.addr_ne_zero (lastAddr_mem hne) h0
  · rintro rfl
    rfl

theorem rep_of_macSound {m : MacMem} (h : MacSound m) : ∃ l, Rep false m l := by
  obtain ⟨l, h1, _, h2, h3, _⟩ := h
  exact ⟨l, h1, h2, .inl h3⟩

theorem macRun_concat (ops : List MacOp) (op : MacOp) :
    macRun (ops ++ [op]) = (macRun ops >>= fun m => op.exec m) := by
  rw [macRun, List.foldlM_append]
  exact bind_congr fun _ => bind_pure _

/-- **Over runs**: every state of the run is reached without a fault and is well represented if
    and only if no `mac_to_port_delete_timeout` of it meets a table of one entry. -/
theorem macTable_run_sound_iff (ops : List MacOp) :
    (∀ pre, pre <+: ops → ∃ m, macRun pre = .ok m ∧ MacSound m) ↔
      ∀ pre now m, pre ++ [MacOp.deleteTimeout now] <+: ops → macRun pre = .ok m →
        m.numElement ≠ 1 := by
  constructor
  · intro h pre now m hpre hm h1
    obtain ⟨m₀, e0, hs0⟩ := h pre ((List.prefix_append _ _).trans hpre)
    rw [hm] at e0
    cases e0
    obtain ⟨l, hr⟩ := rep_of_macSound hs0
    have hlen : l.length = 1 := by
      have := hr.num
      omega
    obtain ⟨m₁, e1, _⟩ := h _ hpre
    rw [macRun_concat, hm] at e1
    have : MacOp.exec (.deleteTimeout now) m = .ok m₁ := e1
    rw [MacOp.exec_of_faults hr ⟨now, rfl, hlen⟩] at this
    cases this
  · intro h
    suffices hmain : ∀ pre, pre <+: ops → ∃ m l, macRun pre = .ok m ∧ Rep false m l by
      intro pre hpre
      obtain ⟨m, l, e, hr⟩ := hmain pre hpre
      exact ⟨m, e, macSound_of_rep hr⟩
    -- induction on the calls made so far
    intro pre
    induction pre using List.reverseRecOn with
    | nil => exact fun _ => ⟨Code.macToPortNew, [], rfl, new_rep false⟩
    | append_singleton pre op ih =>
      intro hpre
      obtain ⟨m, l, e, hr⟩ := ih ((List.prefix_append _ _).trans hpre)
      have hok : ¬ op.Faults l.length := by
        rintro ⟨now, rfl, h1⟩
        refine h pre now m hpre e ?_
        rw [hr.num, h1]
        rfl
      obtain ⟨m', l', e', r', _⟩ := op.exec_refines hr hok
      refine ⟨m', l', ?_, r'⟩
      rw [macRun_concat, e]
      exact e'

/-- One entry, then the periodic cleanup: the run ends at a NULL access, so the invariant does
    not hold along every run. -/
theorem macTable_run_not_sound :
    ¬ ∀ pre, pre <+: [MacOp.addArpTable (fun _ => 0) 1 15 [] 1 0, MacOp.deleteTimeout 10000] →
      ∃ m, macRun pre = .ok m ∧ MacSound m := by
  intro h
  obtain ⟨m, e, _⟩ := h _ (List.prefix_refl _)
  have hbad : macRun [MacOp.addArpTable (fun _ => 0) 1 15 [] 1 0, MacOp.deleteTimeout 10000] =
      .error .null := rfl
  rw [hbad] at e
  cases e

/-! ## 5. Expiry -/

/-- **MAC-table expiry.** `mac_to_port_delete_timeout` leaves exactly the entries of neighbours and
those in force, with `num_element` and `fin` for them, iff the table has not got exactly one entry
and its second one is not to be removed. -/
theorem macTable_expiry_iff {m : MacMem} {l : List (Nat × MacPortTime)} (hr : Rep false m l)
    (now : Nat) :
    (∃ m', Code.macToPortDeleteTimeout m now = .ok m' ∧
      Rep false m' (l.filter fun c => !c.2.expired now)) ↔
    l.length ≠ 1 ∧ ∀ c, l[1]? = some c → c.2.expired now = false := by
  constructor
  · rintro ⟨m', e, r⟩
    have hl : l.length ≠ 1 := fun h1 => by
      rw [deleteTimeout_single hr now h1] at e
      cases e
    refine ⟨hl, fun c hc => ?_⟩
    by_contra hx
    obtain ⟨m₁, e₁, r₁⟩ := deleteTimeout_nodes hr now hl
    rw [e] at e₁
    cases e₁
    have hlen := length_deleteTimeoutNodes hc (Bool.not_eq_false _ ▸ hx)
    have hnum := r.num.symm.trans r₁.num
    omega
  · rintro ⟨hl, hd⟩
    obtain ⟨m', e, r⟩ := deleteTimeout_nodes hr now hl
    rw [deleteTimeoutNodes_eq hd hl] at r
    exact ⟨m', e, r⟩

/-- Two entries, the first of which has expired: it is removed and the other one is left. -/
theorem macTable_expiry_two : ∃ m m' a b,
    macRun [.add (fun _ => 0) 1 15 0, .add (fun _ => 1) 2 60 0] = .ok m ∧
    Rep false m [(a, ⟨fun _ => 0, 1, 0, 15000⟩), (b, ⟨fun _ => 1, 2, 0, 60000⟩)] ∧
    Code.macToPortDeleteTimeout m 20000 = .ok m' ∧
    Rep false m' [(b, ⟨fun _ => 1, 2, 0, 60000⟩)] := by
  obtain ⟨m, hm⟩ : ∃ m, macRun [.add (fun _ => 0) 1 15 0, .add (fun _ => 1) 2 60 0] = .ok m :=
    ⟨_, rfl⟩
  have hr : Rep false m [(1, ⟨fun _ => 0, 1, 0, 15000⟩), (2, ⟨fun _ => 1, 2, 0, 60000⟩)] := by
    cases hm
    exact ⟨⟨rfl, _, rfl, rfl, _, rfl, rfl⟩, rfl, .inl rfl⟩
  obtain ⟨m', e, r⟩ := (macTable_expiry_iff hr 20000).mpr
    ⟨by decide, fun c hc => by cases hc; rfl⟩
  exact ⟨m, m', 1, 2, hm, hr, e, r⟩

/-- **What `mac_to_port_delete_timeout` gets wrong**: one entry, and the loop follows NULL; two
    entries, and the second is left although its time is over. -/
theorem macTable_expiry_fails :
    (∃ m a, macRun [.add (fun _ => 0) 1 15 0] = .ok m ∧
      Rep false m [(a, ⟨fun _ => 0, 1, 0, 15000⟩)] ∧
      Code.macToPortDeleteTimeout m 20000 = .error .null) ∧
    ∃ m m' a b, macRun [.add (fun _ => 0) 1 60 0, .add (fun _ => 1) 2 15 0] = .ok m ∧
      Rep false m [(a, ⟨fun _ => 0, 1, 0, 60000⟩), (b, ⟨fun _ => 1, 2, 0, 15000⟩)] ∧
      Code.macToPortDeleteTimeout m 20000 = .ok m' ∧
      Rep false m' [(a, ⟨fun _ => 0, 1, 0, 60000⟩), (b, ⟨fun _ => 1, 2, 0, 15000⟩)] := by
  refine ⟨⟨_, 1, rfl, ⟨⟨rfl, _, rfl, rfl⟩, rfl, .inl rfl⟩, rfl⟩, ?_⟩
  exact ⟨_, _, 1, 2, rfl, ⟨⟨rfl, _, rfl, rfl, _, rfl, rfl⟩, rfl, .inl rfl⟩, rfl,
    ⟨⟨rfl, _, rfl, rfl, _, rfl, rfl⟩, rfl, .inl rfl⟩⟩

/-! ## 6. Flush -/

/-- **Port flush.** `mac_to_port_delete_port` leaves exactly the entries of other ports and of
neighbours, with `num_element` and `fin` for them, iff not both of the first two are to be removed.
-/
theorem macTable_flush_iff {m : MacMem} {l : List (Nat × MacPortTime)} (hr : Rep false m l)
    (port : Nat) :
    (∃ m' l', Code.macToPortDeletePort m port = .ok m' ∧ Rep false m' l') ∧
    ((∃ m', Code.macToPortDeletePort m port = .ok m' ∧
      Rep false m' (l.filter fun c => !c.2.onPort port)) ↔
    ∀ c d, l[0]? = some c → l[1]? = some d → c.2.onPort port = true →
      d.2.onPort port = false) := by
  obtain ⟨m', e, r⟩ := deletePort_nodes hr port
  refine ⟨⟨m', _, e, r⟩, ?_⟩
  constructor
  · intro ⟨m₁, e₁, r₁⟩ c d hc hd hx
    rw [e] at e₁
    cases e₁
    by_contra hdx
    have hlen := length_deletePortNodes hc hd hx (Bool.not_eq_false _ ▸ hdx)
    have hnum := r.num.symm.trans r₁.num
    omega
  · intro h
    rw [deletePortNodes_eq h] at r
    exact ⟨m', e, r⟩

/-- Three entries, the first and the last of which are on port 1: the other one is left, and it is
    first and last. -/
theorem macTable_flush_three : ∃ m m' a b c,
    macRun [.add (fun _ => 0) 1 15 0, .add (fun _ => 1) 2 15 0, .add (fun _ => 2) 1 15 0] = .ok m ∧
    Rep false m [(a, ⟨fun _ => 0, 1, 0, 15000⟩), (b, ⟨fun _ => 1, 2, 0, 15000⟩),
      (c, ⟨fun _ => 2, 1, 0, 15000⟩)] ∧
    Code.macToPortDeletePort m 1 = .ok m' ∧ Rep false m' [(b, ⟨fun _ => 1, 2, 0, 15000⟩)] := by
  obtain ⟨m, hm⟩ : ∃ m, macRun [.add (fun _ => 0) 1 15 0, .add (fun _ => 1) 2 15 0,
      .add (fun _ => 2) 1 15 0] = .ok m := ⟨_, rfl⟩
  have hr : Rep false m [(1, ⟨fun _ => 0, 1, 0, 15000⟩), (2, ⟨fun _ => 1, 2, 0, 15000⟩),
      (3, ⟨fun _ => 2, 1, 0, 15000⟩)] := by
    cases hm
    exact ⟨⟨rfl, _, rfl, rfl, _, rfl, rfl, _, rfl, rfl⟩, rfl, .inl rfl⟩
  obtain ⟨m', e, r⟩ := (macTable_flush_iff hr 1).2.mpr fun c d hc hd _ => by
    cases hd
    rfl
  exact ⟨m, m', 1, 2, 3, hm, hr, e, r⟩

/-- **What `mac_to_port_delete_port` gets wrong**: two entries on port 1, and one of them stays. -/
theorem macTable_flush_fails : ∃ m m' a b,
    macRun [.add (fun _ => 0) 1 15 0, .add (fun _ => 1) 1 15 0] = .ok m ∧
    Rep false m [(a, ⟨fun _ => 0, 1, 0, 15000⟩), (b, ⟨fun _ => 1, 1, 0, 15000⟩)] ∧
    Code.macToPortDeletePort m 1 = .ok m' ∧ Rep false m' [(b, ⟨fun _ => 1, 1, 0, 15000⟩)] :=
  ⟨_, _, 1, 2, rfl, ⟨⟨rfl, _, rfl, rfl, _, rfl, rfl⟩, rfl, .inl rfl⟩, rfl,
    ⟨⟨rfl, _, rfl, rfl⟩, rfl, .inl rfl⟩⟩

end TcpPath
