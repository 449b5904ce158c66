/-
  Subject:   The MAC tables of the switch (`mac_port`, `neighbor_table`, `recovery_table`) as the
             list of their entries, and what each function of dp_ports.c does to that list.

  The entries stand in the order of the chain from `inicio`; MacPortCode.lean has the pointer
  code. `now` is the `time_msec()` a function reads; `none` for a port is the source's -1.
-/
import TcpPath.Frame
import TcpPath.Util.FirstMatch

namespace TcpPath

open Util List

/-- `struct mac_port_time`. -/
structure MacPortTime where
  mac : EthAddr
  portIn : Nat
  vecino : Nat
  timeEntry : Nat
  deriving DecidableEq, Repr

namespace MacPortTime

/-- `(now < time_entry) || vecino == 1`. -/
def live (now : Nat) (e : MacPortTime) : Bool := decide (now < e.timeEntry) || e.vecino == 1

/-- `now > time_entry && vecino == 0`. -/
def expired (now : Nat) (e : MacPortTime) : Bool := decide (e.timeEntry < now) && e.vecino == 0

/-- `if (marca > time_entry) time_entry = marca`. -/
def refresh (marca : Nat) (e : MacPortTime) : MacPortTime :=
  { e with timeEntry := if e.timeEntry < marca then marca else e.timeEntry }

/-- The test `memcmp(aux->Mac, Mac, ETH_ADDR_LEN) == 0`. -/
def hasMac (mac : EthAddr) (e : MacPortTime) : Bool := decide (e.mac = mac)

variable {e : MacPortTime} {now marca : Nat}

@[simp] theorem hasMac_iff {mac : EthAddr} : e.hasMac mac = true ↔ e.mac = mac := by
  simp [hasMac]

theorem not_expired_of_live (h : e.live now = true) : e.expired now = false := by
  simp only [live, Bool.or_eq_true, decide_eq_true_eq, beq_iff_eq] at h
  simp only [expired, Bool.and_eq_false_iff, decide_eq_false_iff_not, beq_eq_false_iff_ne]
  omega

theorem timeEntry_refresh (h : e.timeEntry ≤ marca) : (e.refresh marca).timeEntry = marca := by
  show (if e.timeEntry < marca then marca else e.timeEntry) = marca
  split <;> omega

theorem live_refresh (h : e.live now = true) : (e.refresh marca).live now = true := by
  simp only [live, Bool.or_eq_true, decide_eq_true_eq, beq_iff_eq] at h ⊢
  refine h.imp_left fun h => ?_
  show now < if e.timeEntry < marca then marca else e.timeEntry
  split <;> omega

end MacPortTime

/-- A MAC table. -/
abbrev MacTable := List MacPortTime

/-! ## 1. The functions of dp_ports.c on the list -/

/-- `uint16_t port_in` of an `in_port` (`uint32_t`). -/
def port16 (p : Nat) : Nat := p % 2 ^ 16

/-- `mac_to_port_add`. -/
def macToPortAdd (t : MacTable) (mac : EthAddr) (portIn time now : Nat) : MacTable :=
  t ++ [⟨mac, port16 portIn, 0, now + time * 1000⟩]

/-- `mac_to_port_add_hello`: source address and type byte (the last byte of the frame) come from
    the hello frame. -/
def macToPortAddHello (t : MacTable) (pkt : Packet) (portIn time now : Nat) : MacTable :=
  t ++ [⟨pkt.ethSrc, port16 portIn, (byteAt pkt.buffer (pkt.buffer.length - 1)).toNat,
    now + time * 1000⟩]

/-- `is_neighbor`: 1 when no entry of `neighbor_table` has the packet's port. -/
def isNeighbor (neighborTable : MacTable) (inPort : Nat) : Nat :=
  if neighborTable.any fun e => e.portIn == inPort then 0 else 1

/-- `mac_to_port_add_arp_table`. -/
def macToPortAddArpTable (t : MacTable) (mac : EthAddr) (portIn time vecino now : Nat) : MacTable :=
  ⟨mac, port16 portIn, vecino, now + time * 1000⟩ :: t

/-- `mac_to_port_update`: the return value and the table. -/
def macToPortUpdate (t : MacTable) (mac : EthAddr) (portIn time now : Nat) : Nat × MacTable :=
  (if t.any (·.hasMac mac) then 0 else 1,
    modifyFirst (·.hasMac mac)
      (fun e => { e.refresh (now + time * 1000) with portIn := port16 portIn }) t)

/-- `mac_to_port_time_refresh`. -/
def macToPortTimeRefresh (t : MacTable) (mac : EthAddr) (time now : Nat) : MacTable :=
  modifyFirst (·.hasMac mac) (·.refresh (now + time * 1000)) t

/-- What `mac_to_port_found_port` tests at a node. -/
def foundHit (mac : EthAddr) (now : Nat) (e : MacPortTime) : Option Nat :=
  if e.hasMac mac && e.live now then some e.portIn else none

/-- `mac_to_port_found_port`: the port, and the table with the hit moved to the front. -/
def macToPortFoundPort (t : MacTable) (mac : EthAddr) (now : Nat) : Option Nat × MacTable :=
  (t.findSome? (foundHit mac now),
    toFront (fun e => (foundHit mac now e).isSome) (fun e => 0 < (foundHit mac now e).getD 0) t)

/-- `mac_to_port_check_timeout`. -/
def macToPortCheckTimeout (t : MacTable) (mac : EthAddr) (now : Nat) : Nat :=
  match t.find? (·.hasMac mac) with
  | some e => if e.expired now then 1 else 0
  | none => 2

/-- `mac_to_port_delete_timeout`, `none` where it follows a NULL pointer. -/
def macToPortDeleteTimeout (t : MacTable) (now : Nat) : Option MacTable :=
  match t with
  | [] => some []
  | [_] => none
  | e :: e' :: r =>
      let rest := e' :: r.filter fun x => !x.expired now
      some (if e.expired now then rest else e :: rest)

/-- The test of `mac_to_port_delete_port`. -/
def MacPortTime.onPort (port : Nat) (e : MacPortTime) : Bool := e.portIn == port && e.vecino == 0

/-- `mac_to_port_delete_port`: after the first entry was removed the next one is not examined. -/
def macToPortDeletePort (t : MacTable) (port : Nat) : MacTable :=
  match t with
  | [] => []
  | e :: r =>
      if e.onPort port then
        match r with
        | [] => []
        | e' :: r' => e' :: r'.filter fun x => !x.onPort port
      else e :: r.filter fun x => !x.onPort port

/-- `tipo_switch_port`: the type byte of the first neighbour behind `port`, 0 without one. -/
def tipoSwitchPort (neighborTable : MacTable) (port : Nat) : Nat :=
  match neighborTable.find? fun e => e.portIn == port with
  | some e => e.vecino
  | none => 0

/-- The common search of `src_is_neighbor` and `dst_is_neighbor`: `vecino` of the first entry. -/
def vecinoOf (t : MacTable) (mac : EthAddr) : Nat :=
  match t.find? (·.hasMac mac) with
  | some e => e.vecino
  | none => 0

/-- `src_is_neighbor`. -/
def srcIsNeighbor (pkt : Packet) (t : MacTable) : Nat := vecinoOf t pkt.ethSrc

/-- The destination `dst_is_neighbor` looks up: the trailer of a PATH frame, the repaired
    destination of a repair frame, else the Ethernet destination. -/
def dstLookedUp (pkt : Packet) : EthAddr :=
  if pkt.proto.path.isSome then pkt.trailerMac
  else if pkt.proto.arppathRepair.isSome then macAt pkt.buffer (pkt.buffer.length - 6 - 32)
  else pkt.ethDst

/-- `dst_is_neighbor`. -/
def dstIsNeighbor (pkt : Packet) (t : MacTable) : Nat := vecinoOf t (dstLookedUp pkt)

/-! ## 2. What a lookup says and does -/

variable {t : MacTable} {mac : EthAddr} {now : Nat} {e : MacPortTime}

theorem macToPortFoundPort_of_none (h : (macToPortFoundPort t mac now).1 = none) :
    (macToPortFoundPort t mac now).2 = t := by
  refine toFront_of_none fun e he => ?_
  have hnone : foundHit mac now e = none := findSome?_eq_none_iff.mp h e he
  rw [hnone]
  rfl

theorem foundPort_perm (t : MacTable) (mac : EthAddr) (now : Nat) :
    (macToPortFoundPort t mac now).2.Perm t :=
  toFront_perm _ _ _

theorem foundPort_eq_none_iff :
    (macToPortFoundPort t mac now).1 = none ↔ ∀ e ∈ t, e.mac = mac → e.live now = false := by
  have hhit : ∀ e, foundHit mac now e = none ↔ (e.mac = mac → e.live now = false) := by
    intro e
    unfold foundHit
    rw [ite_eq_right_iff]
    by_cases hm : e.mac = mac
    · rw [MacPortTime.hasMac_iff.mpr hm, Bool.true_and]
      simp [hm]
    · rw [Bool.eq_false_iff.mpr (mt MacPortTime.hasMac_iff.mp hm)]
      simp [hm]
  show t.findSome? _ = none ↔ _
  rw [findSome?_eq_none_iff]
  exact forall₂_congr fun e _ => hhit e

theorem mem_of_foundPort {p : Nat} (h : (macToPortFoundPort t mac now).1 = some p) :
    ∃ e ∈ t, e.mac = mac ∧ e.live now = true ∧ e.portIn = p := by
  obtain ⟨e, he, hhit⟩ := exists_of_findSome?_eq_some h
  unfold foundHit at hhit
  split at hhit
  · rename_i hh
    rw [Bool.and_eq_true, MacPortTime.hasMac_iff] at hh
    exact ⟨e, he, hh.1, hh.2, Option.some.inj hhit⟩
  · cases hhit

theorem find?_hasMac (hn : (t.map (·.mac)).Nodup) (he : e ∈ t) :
    t.find? (·.hasMac e.mac) = some e :=
  find?_of_key hn he fun _ => MacPortTime.hasMac_iff

/-! ## 3. One live entry per MAC, and it comes first -/

/-- Of two entries of a MAC the later one in the list is not live. -/
def Unico (now : Nat) (t : MacTable) : Prop :=
  t.Pairwise fun a b => a.mac = b.mac → b.live now = false

theorem MacPortTime.live_mono {now' : Nat} (h : now ≤ now') (hl : e.live now' = true) :
    e.live now = true := by
  simp only [live, Bool.or_eq_true, decide_eq_true_eq, beq_iff_eq] at hl ⊢
  omega

namespace Unico

variable {now now' : Nat} {t t' : MacTable}

theorem advance (h : Unico now t) (hle : now ≤ now') : Unico now' t :=
  h.imp fun hab hmac => by
    have := hab hmac
    rw [← Bool.not_eq_true] at this ⊢
    exact fun hl => this (MacPortTime.live_mono hle hl)

theorem modify {mac : EthAddr} {f : MacPortTime → MacPortTime} (hf : ∀ e, (f e).mac = e.mac)
    (h : Unico now t) : Unico now (modifyFirst (·.hasMac mac) f t) := by
  refine pairwise_modifyFirst h fun pre x post e hx hpre => ⟨fun y hy hmac => ?_, fun y hy => ?_⟩
  · -- an earlier entry has another MAC
    have hy' : y.hasMac mac = true := by
      rw [MacPortTime.hasMac_iff] at hx ⊢
      rw [hmac, hf, hx]
    rw [hpre y hy] at hy'
    cases hy'
  · rw [hf]
    subst e
    exact (pairwise_cons.mp (pairwise_append.mp h).2.1).1 y hy

theorem found (h : Unico now t) (mac : EthAddr) : Unico now (macToPortFoundPort t mac now).2 := by
  refine pairwise_toFront h fun pre x post e hx _ y hy hmac => ?_
  have hlive : x.live now = true := by
    unfold foundHit at hx
    split at hx
    · rename_i hh
      exact (Bool.and_eq_true _ _ ▸ hh).2
    · cases hx
  subst e
  have hdead := (pairwise_append.mp h).2.2 y hy x mem_cons_self hmac.symm
  rw [hlive] at hdead
  cases hdead

theorem learn (h : Unico now t) {mac : EthAddr} (portIn time vecino : Nat)
    (hnone : (macToPortFoundPort t mac now).1 = none) :
    Unico now (macToPortAddArpTable t mac portIn time vecino now) := by
  refine pairwise_cons.mpr ⟨fun y hy hmac => ?_, h⟩
  exact foundPort_eq_none_iff.mp hnone y hy hmac.symm

theorem sublist (h : Unico now t) (hs : t'.Sublist t) : Unico now t' := List.Pairwise.sublist hs h

end Unico

theorem macToPortDeletePort_sublist (t : MacTable) (port : Nat) :
    (macToPortDeletePort t port).Sublist t := by
  unfold macToPortDeletePort
  split
  · exact .refl _
  · split
    · split
      · exact nil_sublist _
      · exact (filter_sublist.cons_cons _).cons _
    · exact filter_sublist.cons_cons _

theorem macToPortDeleteTimeout_sublist {t t' : MacTable} {now : Nat}
    (h : macToPortDeleteTimeout t now = some t') : t'.Sublist t := by
  unfold macToPortDeleteTimeout at h
  split at h
  · cases h
    exact .refl _
  · cases h
  · cases h
    split
    · exact (filter_sublist.cons_cons _).cons _
    · exact (filter_sublist.cons_cons _).cons_cons _

theorem Unico.find?_of_live (h : Unico now t) (he : e ∈ t) (hlive : e.live now = true) :
    t.find? (·.hasMac e.mac) = some e := by
  obtain ⟨pre, post, rfl⟩ := append_of_mem he
  refine find?_eq_some_iff_append.mpr ⟨MacPortTime.hasMac_iff.mpr rfl, pre, post, rfl, ?_⟩
  intro y hy
  rw [Bool.not_eq_true', ← Bool.not_eq_true, MacPortTime.hasMac_iff]
  intro hmac
  have hdead := (pairwise_append.mp h).2.2 y hy e mem_cons_self hmac
  rw [hlive] at hdead
  cases hdead

theorem Unico.foundPort_of_live (h : Unico now t) (he : e ∈ t) (hlive : e.live now = true) :
    (macToPortFoundPort t e.mac now).1 = some e.portIn := by
  obtain ⟨pre, post, rfl⟩ := append_of_mem he
  have hpre : pre.findSome? (foundHit e.mac now) = none := by
    refine findSome?_eq_none_iff.mpr fun y hy => if_neg ?_
    intro hh
    rw [Bool.and_eq_true, MacPortTime.hasMac_iff] at hh
    have hdead := (pairwise_append.mp h).2.2 y hy e mem_cons_self hh.1
    rw [hlive] at hdead
    cases hdead
  have hhit : foundHit e.mac now e = some e.portIn :=
    if_pos (by rw [hlive, MacPortTime.hasMac_iff.mpr rfl]; rfl)
  show (pre ++ e :: post).findSome? (foundHit e.mac now) = some e.portIn
  rw [findSome?_append, hpre, findSome?_cons, hhit]
  rfl

theorem Unico.checkTimeout_of_found {now : Nat} {t : MacTable} (h : Unico now t) {mac : EthAddr}
    (hf : (macToPortFoundPort t mac now).1 ≠ none) : macToPortCheckTimeout t mac now = 0 := by
  obtain ⟨p, hp⟩ := Option.ne_none_iff_exists'.mp hf
  obtain ⟨e, he, rfl, hlive, _⟩ := mem_of_foundPort hp
  unfold macToPortCheckTimeout
  rw [h.find?_of_live he hlive]
  exact if_neg (by rw [MacPortTime.not_expired_of_live hlive]; exact Bool.false_ne_true)

end TcpPath
