/-
  Subject:   dp_ports.c, as far as ports and their queues are made, changed and counted.

  * `Puertos`: `ports`, `local_port`, `port_list` and `ports_num` of the datapath. A port that is
    all zero, with no `netdev`, is `none`; so is a queue without `port`. What the network devices
    answer is an argument.
-/
import TcpPath.OpenFlow.FlowMod
import TcpPath.Ports
import TcpPath.Util.KeyedLists

namespace TcpPath.Udatapath

open Util List Function

/-! ## 1. Code -/

def netdevMaxQueues : Nat := 8

def ofppAny : Nat := 0xffffffff

def ofpqAll : Nat := 0xffffffff

/-- `OFPET_PORT_MOD_FAILED`. -/
def portModFailed (code : Nat) : OflErr := ⟨.otro 7, .otro code⟩

/-- `OFPET_QUEUE_OP_FAILED`. -/
def queueOpFailed (code : Nat) : OflErr := ⟨.otro 9, .otro code⟩

/-- `struct sw_queue` that is in use: the numbers in its `stats` and the rate in its `props`. -/
structure SwQueue where
  classId : Nat
  created : Nat
  portNo : Nat
  queueId : Nat
  rate : Nat
  deriving DecidableEq, Repr

/-- `struct sw_port` that is in use, with its queues. `hwAddr` is that of its `netdev`. -/
structure Puerto extends SwPort where
  portNo : Nat
  hwAddr : EthAddr
  maxQueues : Nat
  numQueues : UInt16
  created : Nat
  queues : Fin netdevMaxQueues → Option SwQueue

/-- `struct sw_port *`: the local port, or one of `dp->ports`. -/
inductive PortPtr where
  | loc
  | num (n : Nat)
  deriving DecidableEq, Repr

/-- The ports of a datapath. -/
structure Puertos where
  ports : Nat → Option Puerto
  localPort : Option Puerto
  portList : List PortPtr
  portsNum : Nat
  maxQueues : Nat

/-- The fields of `struct ofl_exp_openflow_msg_queue`. -/
structure QueueMsg where
  portId : Nat
  queueId : Nat
  rate : Nat
  deriving DecidableEq, Repr

/-- `struct ofl_msg_port_mod`. -/
structure PortMod where
  portNo : Nat
  hwAddr : EthAddr
  config : Nat
  mask : Nat

namespace Puerto

/-- `dp_ports_lookup_queue`, by the number of the queue in the array. -/
def dpPortsLookupQueue (p : Puerto) (queueId : Nat) : Option (Fin netdevMaxQueues × SwQueue) :=
  if queueId < p.maxQueues then
    if h : queueId < netdevMaxQueues then (p.queues ⟨queueId, h⟩).map (⟨queueId, h⟩, ·) else none
  else none

/-- `new_queue`. -/
def newQueue (p : Puerto) (i : Fin netdevMaxQueues) (rate now : Nat) : Puerto :=
  { p with
    queues := Function.update p.queues i (some ⟨i.val, now, p.portNo, i.val, rate⟩)
    numQueues := p.numQueues + 1 }

/-- `port_add_queue`; `none` is `EXFULL`. -/
def portAddQueue (p : Puerto) (queueId rate now : Nat) : Option Puerto :=
  if p.maxQueues ≤ queueId then none
  else
    if h : queueId < netdevMaxQueues then
      if (p.queues ⟨queueId, h⟩).isSome then none else some (p.newQueue ⟨queueId, h⟩ rate now)
    else none

/-- `port_delete_queue`. -/
def portDeleteQueue (p : Puerto) (i : Fin netdevMaxQueues) : Puerto :=
  { p with
    queues := Function.update p.queues i none
    numQueues := p.numQueues - 1 }

/-- The rate of a queue is changed. -/
def conRate (p : Puerto) (i : Fin netdevMaxQueues) (rate : Nat) : Puerto :=
  { p with queues := Function.update p.queues i ((p.queues i).map ({ · with rate := rate })) }

end Puerto

namespace Puertos

/-- `dp_new`, and `dp_set_max_queues`. -/
def create (maxQueues : Nat) : Puertos := ⟨fun _ => none, none, [], 0, maxQueues⟩

/-- What a pointer leads to. -/
def get (s : Puertos) : PortPtr → Option Puerto
  | .loc => s.localPort
  | .num n => s.ports n

/-- A port is changed where it is. -/
def con (s : Puertos) (p : Puerto) : PortPtr → Puertos
  | .loc => { s with localPort := some p }
  | .num n => { s with ports := Function.update s.ports n (some p) }

/-- `new_port`, once the device is open, has been set up and has address `hwAddr`. -/
def newPort (s : Puertos) (ptr : PortPtr) (portNo : Nat) (hwAddr : EthAddr) (maxQueues now : Nat) :
    Puertos :=
  let p : Puerto :=
    { config := 0, linkDown := false, portNo, hwAddr, maxQueues := min maxQueues netdevMaxQueues
      numQueues := 0, created := now, queues := fun _ => none }
  { s.con p ptr with
    portList := s.portList ++ [ptr]
    portsNum := s.portsNum + 1 }

/-- `dp_ports_add`; `dev` is the address of the device, if it can be opened and set up. -/
def dpPortsAdd (s : Puertos) (dev : Option EthAddr) (now : Nat) : Puertos :=
  match (List.range' 1 (dpMaxPorts - 1)).find? fun n => (s.ports n).isNone, dev with
  | some n, some hwAddr => s.newPort (.num n) n hwAddr s.maxQueues now
  | _, _ => s

/-- `dp_ports_add_local`. -/
def dpPortsAddLocal (s : Puertos) (dev : Option EthAddr) (now : Nat) : Puertos :=
  match s.localPort, dev with
  | none, some hwAddr => s.newPort .loc ofppLocal hwAddr 0 now
  | _, _ => s

/-- `ports_num` without the local port. -/
def sinLocal (s : Puertos) : Nat := if s.localPort.isSome then s.portsNum - 1 else s.portsNum

/-- `dp_ports_lookup`. -/
def dpPortsLookup (s : Puertos) (portNo : Nat) : Option PortPtr :=
  if portNo = ofppLocal then if s.localPort.isSome then some .loc else none
  else if portNo < 1 ∨ s.sinLocal < portNo then none
  else some (.num portNo)

/-- The port of that number, if it is in use. -/
def enUso (s : Puertos) (portNo : Nat) : Option (PortPtr × Puerto) := do
  let ptr ← s.dpPortsLookup portNo
  let p ← s.get ptr
  return (ptr, p)

/-- `dp_ports_handle_queue_modify`. `hecho` is whether the device takes the class; a queue is made
    before that is known. -/
def dpPortsHandleQueueModify (s : Puertos) (msg : QueueMsg) (hecho : Bool) (now : Nat) :
    Puertos × Option OflErr :=
  match s.enUso msg.portId with
  | none => (s, some (queueOpFailed 0))
  | some (ptr, p) =>
    match p.dpPortsLookupQueue msg.queueId with
    | some (i, _) =>
      if hecho then (s.con (p.conRate i msg.rate) ptr, none) else (s, some (queueOpFailed 2))
    | none =>
      match p.portAddQueue msg.queueId msg.rate now with
      | none => (s, some (queueOpFailed 2))
      | some p' => (s.con p' ptr, if hecho then none else some (queueOpFailed 1))

/-- `dp_ports_handle_queue_delete`. -/
def dpPortsHandleQueueDelete (s : Puertos) (msg : QueueMsg) : Puertos × Option OflErr :=
  match s.enUso msg.portId with
  | none => (s, some (queueOpFailed 0))
  | some (ptr, p) =>
    match p.dpPortsLookupQueue msg.queueId with
    | some (i, _) => (s.con (p.portDeleteQueue i) ptr, none)
    | none => (s, some (queueOpFailed 1))

/-- `dp_ports_handle_port_mod`. The state follows from `config` and the link (`SwPort.state`).
    `none` is a port without `netdev`. -/
def dpPortsHandlePortMod (s : Puertos) (slave : Bool) (msg : PortMod) :
    Option (Puertos × Option OflErr) :=
  if slave then some (s, some ⟨.badRequest, .brcIsSlave⟩)
  else
    match s.dpPortsLookup msg.portNo with
    | none => some (s, some (portModFailed 0))
    | some ptr => do
      let p ← s.get ptr
      if msg.hwAddr ≠ p.hwAddr then return (s, some (portModFailed 1))
      else if msg.mask = 0 then return (s, none)
      else
        let config := p.config &&& (0xffffffff ^^^ msg.mask) ||| msg.config &&& msg.mask
        return (s.con { p with config } ptr, none)

/-- The link of a port goes up or down: `dp_ports_run`. -/
def conEnlace (s : Puertos) (ptr : PortPtr) (linkDown : Bool) : Puertos :=
  match s.get ptr with
  | none => s
  | some p => s.con { p with linkDown } ptr

end Puertos

/-! ## 2. The invariant -/

/-- The queues of a port are counted, and have their numbers. -/
structure Puerto.Cuadra (p : Puerto) : Prop where
  maxQueues : p.maxQueues ≤ netdevMaxQueues
  numQueues : p.numQueues.toNat =
    (List.finRange netdevMaxQueues).countP fun i => (p.queues i).isSome
  numeradas : ∀ i q, p.queues i = some q → i.val < p.maxQueues ∧ q.queueId = i.val ∧
    q.portNo = p.portNo

/-- The number a port has. -/
def PortPtr.portNo : PortPtr → Nat
  | .loc => ofppLocal
  | .num n => n

structure Puertos.Sana (s : Puertos) : Prop where
  seguidos : ∃ k < dpMaxPorts, (∀ n, (s.ports n).isSome ↔ 1 ≤ n ∧ n ≤ k) ∧
    s.portsNum = k + (if s.localPort.isSome then 1 else 0)
  lista : ∀ ptr, ptr ∈ s.portList ↔ (s.get ptr).isSome
  unaVez : s.portList.Nodup
  largo : s.portList.length = s.portsNum
  numeros : ∀ ptr p, s.get ptr = some p → p.portNo = ptr.portNo
  colas : ∀ ptr p, s.get ptr = some p → p.Cuadra

namespace Puerto

section Cuadra

variable {p : Puerto} {i : Fin netdevMaxQueues}

theorem isSome_update (queues : Fin netdevMaxQueues → Option SwQueue) (q : Option SwQueue) :
    (fun j => (Function.update queues i q j).isSome) =
      Function.update (fun j => (queues j).isSome) i q.isSome :=
  funext fun j => apply_update (fun _ => Option.isSome) queues i q j

theorem Cuadra.reemplaza (h : p.Cuadra) {q : Option SwQueue} {numQueues : UInt16}
    (hq : ∀ q', q = some q' → i.val < p.maxQueues ∧ q'.queueId = i.val ∧ q'.portNo = p.portNo)
    (hnum : numQueues.toNat + (p.queues i).isSome.toNat = p.numQueues.toNat + q.isSome.toNat) :
    Cuadra { p with queues := Function.update p.queues i q, numQueues := numQueues } where
  maxQueues := h.maxQueues
  numQueues := by
    have hcount := countP_update (nodup_finRange netdevMaxQueues) (mem_finRange i)
      (fun j => (p.queues j).isSome) q.isSome
    have hold := h.numQueues
    rw [← isSome_update] at hcount
    show numQueues.toNat =
      (List.finRange netdevMaxQueues).countP fun j => (Function.update p.queues i q j).isSome
    omega
  numeradas j q' hj := by
    by_cases hne : j = i
    · subst hne
      have hself : Function.update p.queues j q j = q := update_self ..
      exact hq q' (hself.symm.trans hj)
    · have hotra : Function.update p.queues i q j = p.queues j := update_of_ne hne ..
      exact h.numeradas j q' (hotra.symm.trans hj)

theorem numQueues_le (h : p.Cuadra) : p.numQueues.toNat ≤ netdevMaxQueues := by
  rw [h.numQueues]
  exact countP_le_length.trans_eq length_finRange

theorem Cuadra.newQueue (h : p.Cuadra) (hi : i.val < p.maxQueues) (hq : p.queues i = none)
    (rate now : Nat) : (p.newQueue i rate now).Cuadra := by
  refine h.reemplaza (fun q' hq' => ?_) ?_
  · cases hq'
    exact ⟨hi, rfl, rfl⟩
  · have hle := numQueues_le h
    unfold netdevMaxQueues at hle
    rw [hq, UInt16.toNat_add, Nat.mod_eq_of_lt (by show p.numQueues.toNat + 1 < 2 ^ 16; omega)]
    rfl

variable {queueId : Nat} {q : SwQueue}

theorem Cuadra.portAddQueue (h : p.Cuadra) {rate now : Nat} {p' : Puerto}
    (hp : p.portAddQueue queueId rate now = some p') : p'.Cuadra ∧ p'.portNo = p.portNo := by
  unfold Puerto.portAddQueue at hp
  split at hp
  · cases hp
  · rename_i hmax
    split at hp
    · rename_i hlt
      split at hp
      · cases hp
      · rename_i hq
        cases hp
        exact ⟨h.newQueue (Nat.lt_of_not_le hmax) (Option.not_isSome_iff_eq_none.mp hq) rate now,
          rfl⟩
    · cases hp

theorem Cuadra.portDeleteQueue (h : p.Cuadra) (hq : p.queues i = some q) :
    (p.portDeleteQueue i).Cuadra := by
  refine h.reemplaza (fun q' hq' => nomatch hq') ?_
  -- the count is not 0, there is this queue
  have hpos : 0 < p.numQueues.toNat := by
    rw [h.numQueues]
    exact countP_pos_iff.mpr ⟨i, mem_finRange i, by rw [hq]; rfl⟩
  have hle : (1 : UInt16) ≤ p.numQueues := UInt16.le_iff_toNat_le.mpr hpos
  rw [hq, UInt16.toNat_sub_of_le _ _ hle]
  exact Nat.sub_add_cancel hpos

theorem Cuadra.conRate (h : p.Cuadra) (i : Fin netdevMaxQueues) (rate : Nat) :
    (p.conRate i rate).Cuadra := by
  refine h.reemplaza (fun q' hq' => ?_) ?_
  · obtain ⟨q, hq, rfl⟩ := Option.map_eq_some_iff.mp hq'
    exact h.numeradas i q hq
  · rw [Option.isSome_map]

theorem dpPortsLookupQueue_eq_some :
    p.dpPortsLookupQueue queueId = some (i, q) ↔
      queueId < p.maxQueues ∧ i.val = queueId ∧ p.queues i = some q := by
  unfold dpPortsLookupQueue
  constructor
  · intro h
    split at h
    · rename_i hmax
      split at h
      · obtain ⟨q', hq', heq⟩ := Option.map_eq_some_iff.mp h
        cases heq
        exact ⟨hmax, rfl, hq'⟩
      · cases h
    · cases h
  · rintro ⟨hmax, rfl, hq⟩
    rw [if_pos hmax, dif_pos i.isLt, hq]
    rfl

/-- **A queue is found by its number**, and only by it. -/
theorem Cuadra.lookupQueue_iff (h : p.Cuadra) :
    p.dpPortsLookupQueue queueId = some (i, q) ↔ p.queues i = some q ∧ q.queueId = queueId := by
  rw [dpPortsLookupQueue_eq_some]
  constructor
  · rintro ⟨_, hi, hq⟩
    exact ⟨hq, (h.numeradas i q hq).2.1.trans hi⟩
  · rintro ⟨hq, rfl⟩
    obtain ⟨hmax, hid, _⟩ := h.numeradas i q hq
    exact ⟨hid ▸ hmax, hid.symm, hq⟩

end Cuadra

end Puerto

namespace Puertos

section Sana

variable {s : Puertos} {ptr : PortPtr} {p : Puerto}

theorem get_con (s : Puertos) (p : Puerto) (ptr ptr' : PortPtr) :
    (s.con p ptr).get ptr' = if ptr' = ptr then some p else s.get ptr' := by
  cases ptr with
  | loc =>
    cases ptr' with
    | loc => rfl
    | num n => rfl
  | num n =>
    cases ptr' with
    | loc => rfl
    | num n' => simp [con, get, update_apply]

theorem sana_create (maxQueues : Nat) : (create maxQueues).Sana where
  seguidos := ⟨0, by decide, fun n => by simp [create]; omega, rfl⟩
  lista ptr := by cases ptr <;> simp [create, get]
  unaVez := nodup_nil
  largo := rfl
  numeros ptr _ hp := by cases ptr <;> cases hp
  colas ptr _ hp := by cases ptr <;> cases hp

/-- **A port is changed.** -/
theorem Sana.con (h : s.Sana) {p' : Puerto} (hp : s.get ptr = some p) (hp' : p'.Cuadra)
    (hno : p'.portNo = p.portNo) : (s.con p' ptr).Sana := by
  have hsome : ∀ ptr', ((s.con p' ptr).get ptr').isSome = (s.get ptr').isSome := by
    intro ptr'
    rw [get_con]
    split
    · rename_i heq
      rw [heq, hp]
      rfl
    · rfl
  have hlist : (s.con p' ptr).portList = s.portList := by cases ptr <;> rfl
  have hnum : (s.con p' ptr).portsNum = s.portsNum := by cases ptr <;> rfl
  refine ⟨?_, fun ptr' => ?_, ?_, ?_, fun ptr' q hq => ?_, fun ptr' q hq => ?_⟩
  · obtain ⟨k, hk, hports, hk'⟩ := h.seguidos
    refine ⟨k, hk, fun n => ?_, ?_⟩
    · exact (iff_of_eq (congrArg (· = true) (hsome (.num n)))).trans (hports n)
    · rw [hnum, hk']
      exact congrArg (fun b : Bool => k + if b then 1 else 0) (hsome .loc).symm
  · rw [hlist, hsome]
    exact h.lista ptr'
  · rw [hlist]
    exact h.unaVez
  · rw [hlist, hnum]
    exact h.largo
  · rw [get_con] at hq
    split at hq
    · rename_i heq
      cases hq
      rw [hno, heq]
      exact h.numeros ptr p hp
    · exact h.numeros ptr' q hq
  · rw [get_con] at hq
    split at hq
    · cases hq
      exact hp'
    · exact h.colas ptr' q hq

theorem get_newPort (s : Puertos) (ptr ptr' : PortPtr) (portNo : Nat) (hwAddr : EthAddr)
    (maxQueues now : Nat) :
    (s.newPort ptr portNo hwAddr maxQueues now).get ptr' =
      if ptr' = ptr then
        some ⟨⟨0, false⟩, portNo, hwAddr, min maxQueues netdevMaxQueues, 0, now, fun _ => none⟩
      else s.get ptr' := by
  rw [← get_con]
  cases ptr' <;> rfl

theorem cuadra_sinColas (sw : SwPort) (portNo : Nat) (hwAddr : EthAddr) (maxQueues now : Nat) :
    Puerto.Cuadra ⟨sw, portNo, hwAddr, min maxQueues netdevMaxQueues, 0, now, fun _ => none⟩ where
  maxQueues := Nat.min_le_right ..
  numQueues := by
    symm
    exact countP_eq_zero.mpr fun _ _ => Bool.false_ne_true
  numeradas _ _ hq := nomatch hq

/-- **A new port**, with the first free number or as the local one. -/
theorem Sana.newPort (h : s.Sana) (hptr : s.get ptr = none)
    (hseg : ∀ k, (∀ n, (s.ports n).isSome ↔ 1 ≤ n ∧ n ≤ k) → ∀ n, ptr = .num n →
      n = k + 1 ∧ k + 1 < dpMaxPorts) (hwAddr : EthAddr) (maxQueues now : Nat) :
    (s.newPort ptr ptr.portNo hwAddr maxQueues now).Sana := by
  refine ⟨?_, fun ptr' => ?_, ?_, ?_, fun ptr' q hq => ?_, fun ptr' q hq => ?_⟩
  · obtain ⟨k, hk, hports, hnum⟩ := h.seguidos
    cases ptr with
    | loc =>
      refine ⟨k, hk, hports, ?_⟩
      show s.portsNum + 1 = _
      rw [hnum, show s.localPort = none from hptr]
      rfl
    | num n =>
      obtain ⟨rfl, hmax⟩ := hseg k hports n rfl
      refine ⟨k + 1, hmax, fun n => ?_, ?_⟩
      · show (Function.update s.ports (k + 1) _ n).isSome ↔ _
        have hn := hports n
        by_cases heq : n = k + 1
        · subst heq
          simp
        · rw [update_of_ne heq, hn]
          omega
      · show s.portsNum + 1 = k + 1 + if s.localPort.isSome then 1 else 0
        omega
  · show ptr' ∈ s.portList ++ [ptr] ↔ _
    rw [get_newPort, mem_append, mem_singleton, h.lista]
    split
    · rename_i heq
      simp [heq]
    · rename_i hne
      simp [hne]
  · have hnuevo : ptr ∉ s.portList := by simp [h.lista, hptr]
    exact nodup_append_comm.mp (nodup_cons.mpr ⟨hnuevo, h.unaVez⟩)
  · show (s.portList ++ [ptr]).length = s.portsNum + 1
    rw [length_append, h.largo]
    rfl
  · rw [get_newPort] at hq
    split at hq
    · rename_i heq
      cases hq
      rw [heq]
    · exact h.numeros ptr' q hq
  · rw [get_newPort] at hq
    split at hq
    · cases hq
      exact cuadra_sinColas ..
    · exact h.colas ptr' q hq

theorem Sana.dpPortsAdd (h : s.Sana) (dev : Option EthAddr) (now : Nat) :
    (s.dpPortsAdd dev now).Sana := by
  unfold Puertos.dpPortsAdd
  split
  · rename_i n hwAddr hfind
    obtain ⟨hn, hmem, hmenores⟩ := find?_range'_eq_some.mp hfind
    have hlibre : s.get (.num n) = none := Option.isNone_iff_eq_none.mp hn
    have hrango := mem_range'_1.mp hmem
    refine h.newPort hlibre (fun k hk n' hn' => ?_) ..
    cases hn'
    -- the one after the last is free, and so not before the first that is free
    have hfuera : ¬(1 ≤ n ∧ n ≤ k) := fun hin => by
      simpa [show s.ports n = none from hlibre] using (hk n).mpr hin
    have hsig : ¬k + 1 < n := by
      intro hlt
      have hocupado : (s.ports (k + 1)).isSome := by
        simpa using hmenores (k + 1) (Nat.le_add_left 1 k) hlt
      exact absurd ((hk (k + 1)).mp hocupado).2 (Nat.not_succ_le_self k)
    unfold dpMaxPorts at hrango ⊢
    omega
  · exact h

theorem Sana.dpPortsAddLocal (h : s.Sana) (dev : Option EthAddr) (now : Nat) :
    (s.dpPortsAddLocal dev now).Sana := by
  unfold Puertos.dpPortsAddLocal
  split
  · rename_i hloc
    exact h.newPort (show s.get .loc = none from hloc) (fun _ _ _ hn => nomatch hn) ..
  · exact h

variable {portNo : Nat} {slave : Bool} {msg : PortMod} {s' : Puertos} {e : Option OflErr}

theorem enUso_eq_some (h : s.enUso portNo = some (ptr, p)) :
    s.dpPortsLookup portNo = some ptr ∧ s.get ptr = some p := by
  obtain ⟨ptr', hptr, h⟩ := Option.bind_eq_some_iff.mp h
  obtain ⟨p', hp, h⟩ := Option.bind_eq_some_iff.mp h
  cases h
  exact ⟨hptr, hp⟩

theorem portNo_of_lookup (h : s.dpPortsLookup portNo = some ptr) : ptr.portNo = portNo := by
  unfold dpPortsLookup at h
  split at h
  · rename_i hloc
    split at h
    · cases h
      exact hloc.symm
    · cases h
  · split at h
    · cases h
    · cases h
      rfl

theorem Sana.sinLocal (h : s.Sana) :
    s.sinLocal < dpMaxPorts ∧ ∀ n, (s.ports n).isSome ↔ 1 ≤ n ∧ n ≤ s.sinLocal := by
  obtain ⟨k, hk, hports, hnum⟩ := h.seguidos
  have heq : s.sinLocal = k := by
    unfold Puertos.sinLocal
    split at hnum <;> simp_all
  rw [heq]
  exact ⟨hk, hports⟩

theorem Sana.get_of_lookup (h : s.Sana) (hl : s.dpPortsLookup portNo = some ptr) :
    ∃ p, s.get ptr = some p := by
  unfold dpPortsLookup at hl
  split at hl
  · split at hl
    · rename_i hloc
      cases hl
      exact Option.isSome_iff_exists.mp hloc
    · cases hl
  · split at hl
    · cases hl
    · cases hl
      exact Option.isSome_iff_exists.mp ((h.sinLocal.2 portNo).mpr (by omega))

/-- **A port is found by its number**, and only by it. -/
theorem Sana.enUso_iff (h : s.Sana) :
    s.enUso portNo = some (ptr, p) ↔ s.get ptr = some p ∧ p.portNo = portNo := by
  constructor
  · intro huso
    obtain ⟨hptr, hp⟩ := enUso_eq_some huso
    exact ⟨hp, (h.numeros ptr p hp).trans (portNo_of_lookup hptr)⟩
  · rintro ⟨hp, rfl⟩
    suffices hptr : s.dpPortsLookup p.portNo = some ptr by
      unfold enUso
      rw [hptr]
      simp [hp]
    rw [h.numeros ptr p hp]
    unfold dpPortsLookup
    cases ptr with
    | loc =>
      have hloc : s.localPort = some p := hp
      rw [if_pos (show PortPtr.loc.portNo = ofppLocal from rfl), hloc]
      rfl
    | num n =>
      have hsome : (s.ports n).isSome := by rw [show s.ports n = some p from hp]; rfl
      obtain ⟨hmax, hports⟩ := h.sinLocal
      have hn := (hports n).mp hsome
      unfold dpMaxPorts at hmax
      rw [if_neg, if_neg]
      · rfl
      · show ¬(n < 1 ∨ s.sinLocal < n)
        omega
      · show ¬n = 0xfffffffe
        omega

theorem Sana.dpPortsHandleQueueModify (h : s.Sana) (msg : QueueMsg) (hecho : Bool) (now : Nat) :
    (s.dpPortsHandleQueueModify msg hecho now).1.Sana := by
  unfold Puertos.dpPortsHandleQueueModify
  split
  · exact h
  · rename_i ptr p huso
    have hp := (enUso_eq_some huso).2
    have hc := h.colas ptr p hp
    split
    · rename_i i _ _
      split
      · exact h.con hp (hc.conRate i msg.rate) rfl
      · exact h
    · split
      · exact h
      · rename_i p' hp'
        obtain ⟨hc', hno⟩ := hc.portAddQueue hp'
        exact h.con hp hc' hno

theorem Sana.dpPortsHandleQueueDelete (h : s.Sana) (msg : QueueMsg) :
    (s.dpPortsHandleQueueDelete msg).1.Sana := by
  unfold Puertos.dpPortsHandleQueueDelete
  split
  · exact h
  · rename_i ptr p huso
    have hp := (enUso_eq_some huso).2
    split
    · rename_i i q hq
      obtain ⟨_, _, hq⟩ := Puerto.dpPortsLookupQueue_eq_some.mp hq
      exact h.con hp ((h.colas ptr p hp).portDeleteQueue hq) rfl
    · exact h

/-- What a port-mod does: nothing, or the bits of its mask are put in the configuration of the port
    that it names. -/
inductive PortModHace (s : Puertos) (slave : Bool) (msg : PortMod) : Puertos → Prop
  | nada (h : slave = false → ∀ ptr p, s.dpPortsLookup msg.portNo = some ptr →
      s.get ptr = some p → msg.hwAddr = p.hwAddr → msg.mask = 0) : PortModHace s slave msg s
  | pone {ptr : PortPtr} {p : Puerto} (hslave : slave = false)
      (hl : s.dpPortsLookup msg.portNo = some ptr) (hp : s.get ptr = some p)
      (hhw : msg.hwAddr = p.hwAddr) : PortModHace s slave msg (s.con { p with
        config := p.config &&& (0xffffffff ^^^ msg.mask) ||| msg.config &&& msg.mask } ptr)

theorem portModHace (hs : s.dpPortsHandlePortMod slave msg = some (s', e)) :
    PortModHace s slave msg s' := by
  unfold Puertos.dpPortsHandlePortMod at hs
  cases slave with
  | true =>
    cases hs
    exact .nada fun h => absurd h (by decide)
  | false =>
    rw [if_neg Bool.false_ne_true] at hs
    split at hs
    · rename_i hnone
      cases hs
      refine .nada fun _ ptr p hl => ?_
      simp [hnone] at hl
    · rename_i ptr hl
      obtain ⟨p, hp, hs⟩ := Option.bind_eq_some_iff.mp hs
      split at hs
      · rename_i hhw
        cases hs
        refine .nada fun _ ptr' p' hl' hp' hhw' => ?_
        simp_all
      · rename_i hhw
        split at hs
        · rename_i hmask
          cases hs
          exact .nada fun _ _ _ _ _ _ => hmask
        · cases hs
          exact .pone rfl hl hp (not_not.mp hhw)

theorem Sana.dpPortsHandlePortMod (h : s.Sana)
    (hs : s.dpPortsHandlePortMod slave msg = some (s', e)) : s'.Sana := by
  cases portModHace hs with
  | nada => exact h
  | @pone ptr p _ _ hp =>
    obtain ⟨h1, h2, h3⟩ := h.colas ptr p hp
    exact h.con hp ⟨h1, h2, h3⟩ rfl

theorem Sana.conEnlace (h : s.Sana) (ptr : PortPtr) (linkDown : Bool) :
    (s.conEnlace ptr linkDown).Sana := by
  unfold Puertos.conEnlace
  split
  · exact h
  · rename_i p hp
    obtain ⟨h1, h2, h3⟩ := h.colas ptr p hp
    exact h.con hp ⟨h1, h2, h3⟩ rfl

end Sana

end Puertos

end TcpPath.Udatapath
