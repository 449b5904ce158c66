/-
  Subject:   The table of TCP flows (`tcp_table`) as the list of its entries, and what each
             function of dp_ports.c does to that list. TcpCode.lean has the pointer code.

  An entry is found by comparing its first 16 bytes (`Mac_src`, `Mac_dst`, `port_src`,
  `port_dst`) with a `struct cmp_table_tcp`, the DIRECTED 4-tuple of a flow; `inverso` is the
  tuple of the opposite direction. No lookup reads `time_entry`.
-/
import TcpPath.Tables.MacPort

namespace TcpPath

open Util List

/-- `struct cmp_table_tcp`: the directed 4-tuple of a flow. -/
structure CmpTableTcp where
  macSrc : EthAddr
  macDst : EthAddr
  portSrc : Nat
  portDst : Nat
  deriving Repr

theorem CmpTableTcp.eq_iff {k k' : CmpTableTcp} : k = k' ↔
    k.macSrc = k'.macSrc ∧ k.macDst = k'.macDst ∧ k.portSrc = k'.portSrc ∧
      k.portDst = k'.portDst := by
  cases k
  cases k'
  simp

-- Addresses are functions. A derived instance would rewrite along their equality, and the kernel
-- could not evaluate it.
instance : DecidableEq CmpTableTcp := fun _ _ => decidable_of_iff' _ CmpTableTcp.eq_iff

/-- The opposite direction of the flow. -/
def CmpTableTcp.inverso (k : CmpTableTcp) : CmpTableTcp :=
  ⟨k.macDst, k.macSrc, k.portDst, k.portSrc⟩

@[simp] theorem CmpTableTcp.inverso_inverso (k : CmpTableTcp) : k.inverso.inverso = k := rfl

/-- `struct table_tcp_time`; `key` are its first four fields. -/
structure TableTcpTime where
  key : CmpTableTcp
  portIn : Nat
  portOut : Nat
  timeEntry : Nat
  deriving DecidableEq, Repr

abbrev TcpTable := List TableTcpTime

/-! ## 1. The functions of dp_ports.c on the list -/

/-- The node `table_tcp_add` makes. -/
def TableTcpTime.nuevo (key : CmpTableTcp) (portIn tcpTime now : Nat) : TableTcpTime :=
  ⟨key, port16 portIn, 0, now + tcpTime * 1000⟩

/-- `table_tcp_add`. -/
def tableTcpAdd (t : TcpTable) (key : CmpTableTcp) (portIn tcpTime now : Nat) : TcpTable :=
  .nuevo key portIn tcpTime now :: t

/-- The test of `table_tcp_update_time`: `directo` or `inverso`. -/
def TableTcpTime.eitherWay (key : CmpTableTcp) (e : TableTcpTime) : Bool :=
  decide (e.key = key) || decide (e.key = key.inverso)

/-- `table_tcp_update_time`. -/
def tableTcpUpdateTime (t : TcpTable) (key : CmpTableTcp) (tcpTime now : Nat) : TcpTable :=
  modifyFirst (·.eitherWay key) (fun e => { e with timeEntry := now + tcpTime * 1000 }) t

/-- `table_tcp_update_port` of a packet with tuple `key`: the entry of the opposite direction
    gets `port_out` and a new time, and its `port_in` is the result (0 without an entry). -/
def tableTcpUpdatePort (t : TcpTable) (key : CmpTableTcp) (inPort tcpTime now : Nat) :
    Nat × TcpTable :=
  (((t.find? fun e => decide (e.key = key.inverso)).map (·.portIn)).getD 0,
    modifyFirst (fun e => decide (e.key = key.inverso))
      (fun e => { e with portOut := port16 inPort, timeEntry := now + tcpTime * 1000 }) t)

/-- What `table_tcp_found_port` tests at a node. -/
def tcpHit (key : CmpTableTcp) (e : TableTcpTime) : Option Nat :=
  if e.key = key then some e.portOut
  else if e.key = key.inverso then some e.portIn
  else none

/-- `table_tcp_found_port`. -/
def tableTcpFoundPort (t : TcpTable) (key : CmpTableTcp) : Option Nat × TcpTable :=
  (t.findSome? (tcpHit key),
    toFront (fun e => (tcpHit key e).isSome) (fun e => 0 < (tcpHit key e).getD 0) t)

/-- What `table_tcp_found_port_in` tests at a node. -/
def tcpHitIn (key : CmpTableTcp) (e : TableTcpTime) : Option Nat :=
  if e.key = key then some e.portIn else none

/-- `table_tcp_found_port_in`. -/
def tableTcpFoundPortIn (t : TcpTable) (key : CmpTableTcp) : Option Nat :=
  (t.find? fun e => decide (e.key = key)).map (·.portIn)

/-- The test of `table_tcp_delete_timeout`. -/
def TableTcpTime.vencido (now : Nat) (e : TableTcpTime) : Bool := decide (e.timeEntry ≤ now)

/-- The walk of `table_tcp_delete_timeout` behind the first node: it removes while more than two
    nodes are left (`n` is `num_element`). -/
def deleteWalk {β : Type} (vencido : β → Bool) : Nat → List β → List β
  | _, [] => []
  | n, e :: r =>
      if 2 < n then
        if vencido e then deleteWalk vencido (n - 1) r else e :: deleteWalk vencido n r
      else e :: r

/-- `table_tcp_delete_timeout`: after the first node was removed the next one is not examined. -/
def deleteFrom {β : Type} (vencido : β → Bool) : List β → List β
  | e :: e' :: r =>
      if 2 < r.length + 2 then
        if vencido e then e' :: deleteWalk vencido (r.length + 1) r
        else e :: deleteWalk vencido (r.length + 2) (e' :: r)
      else e :: e' :: r
  | l => l

def tableTcpDeleteTimeout (t : TcpTable) (now : Nat) : TcpTable := deleteFrom (·.vencido now) t

/-! ## 2. What the functions keep -/

theorem map_key_modify {p : TableTcpTime → Bool} {f : TableTcpTime → TableTcpTime}
    (hk : ∀ e, (f e).key = e.key) (t : TcpTable) :
    (modifyFirst p f t).map (·.key) = t.map (·.key) :=
  map_modifyFirst _ (fun e _ => hk e) t

theorem find?_foundPort (t : TcpTable) (key k : CmpTableTcp) :
    (tableTcpFoundPort t key).2.find? (fun e => decide (e.key = k)) =
      t.find? fun e => decide (e.key = k) := by
  refine find?_toFront fun pre x post _ hx hpre hq y hy => ?_
  have hnot : (tcpHit key y).isSome = false := hpre y hy
  refine decide_eq_false fun hk => ?_
  have hxk : y.key = x.key := hk.trans (of_decide_eq_true hq).symm
  have hsame : (tcpHit key y).isSome = (tcpHit key x).isSome := by
    unfold tcpHit
    rw [hxk]
    split
    · rfl
    · split <;> rfl
  rw [hnot, hx] at hsame
  cases hsame

/-! ## 3. The cleanup -/

variable {β : Type} {p : β → Bool} {n : Nat} {l : List β} {e : β} {γ : Type}

theorem deleteWalk_sublist (p : β → Bool) (n : Nat) (l : List β) :
    (deleteWalk p n l).Sublist l := by
  induction l generalizing n with
  | nil => exact List.Sublist.refl _
  | cons e r ih =>
    unfold deleteWalk
    split
    · split
      · exact (ih _).cons _
      · exact (ih _).cons_cons _
    · exact List.Sublist.refl _

theorem deleteFrom_sublist (p : β → Bool) (l : List β) : (deleteFrom p l).Sublist l := by
  unfold deleteFrom
  split
  · split
    · split
      · exact ((deleteWalk_sublist _ _ _).cons_cons _).cons _
      · exact (deleteWalk_sublist _ _ _).cons_cons _
    · exact List.Sublist.refl _
  · exact List.Sublist.refl _

theorem mem_deleteWalk (he : e ∈ l) (hp : p e = false) : e ∈ deleteWalk p n l := by
  induction l generalizing n with
  | nil => exact absurd he not_mem_nil
  | cons x r ih =>
    unfold deleteWalk
    rcases mem_cons.mp he with rfl | he
    · split
      · rw [if_neg (by simp [hp])]
        exact mem_cons_self
      · exact mem_cons_self
    · split
      · split
        · exact ih he
        · exact mem_cons_of_mem _ (ih he)
      · exact mem_cons_of_mem _ he

theorem mem_deleteFrom (he : e ∈ l) (hp : p e = false) : e ∈ deleteFrom p l := by
  unfold deleteFrom
  split
  · rename_i x y r
    split
    · split
      · rename_i hx
        rcases mem_cons.mp he with rfl | he
        · rw [hp] at hx
          cases hx
        · rcases mem_cons.mp he with rfl | he
          · exact mem_cons_self
          · exact mem_cons_of_mem _ (mem_deleteWalk he hp)
      · rcases mem_cons.mp he with rfl | he
        · exact mem_cons_self
        · exact mem_cons_of_mem _ (mem_deleteWalk he hp)
    · exact he
  · exact he

/-- What the walk leaves is not expired, unless it was stopped with two nodes left; `c` nodes are
    in front of it. -/
theorem deleteWalk_vigente {β : Type} {p : β → Bool} {n c : Nat} {l : List β}
    (hn : n = l.length + c) (h : 2 < (deleteWalk p n l).length + c) :
    ∀ e ∈ deleteWalk p n l, p e = false := by
  induction l generalizing n c with
  | nil => exact fun e he => absurd he not_mem_nil
  | cons x r ih =>
    rw [length_cons] at hn
    unfold deleteWalk at h ⊢
    split at h
    · rename_i h2
      rw [if_pos h2]
      split at h
      · rename_i hx
        rw [if_pos hx]
        exact ih (by omega) h
      · rename_i hx
        rw [if_neg hx]
        rw [length_cons] at h
        intro e he
        rcases mem_cons.mp he with rfl | he
        · exact Bool.eq_false_iff.mpr hx
        · exact ih (c := c + 1) (by omega) (by omega) e he
    · rw [length_cons] at h
      omega

/-- **A full cleanup**: if its first node is not expired and more than two are left, then no node
    that is left is expired. -/
theorem deleteFrom_vigente (h2 : 2 < (deleteFrom p l).length)
    (hhead : ∀ x, l.head? = some x → p x = false) : ∀ e ∈ deleteFrom p l, p e = false := by
  match l with
  | [] => exact fun e he => absurd he not_mem_nil
  | [x] => exact absurd h2 (Nat.not_lt.mpr (Nat.le_succ 1))
  | x :: y :: r =>
    have hx := hhead x rfl
    have hx' : ¬ p x = true := Bool.eq_false_iff.mp hx
    rw [deleteFrom] at h2 ⊢
    by_cases hlen : 2 < r.length + 2
    · rw [if_pos hlen, if_neg hx'] at h2 ⊢
      rw [length_cons] at h2
      intro e he
      rcases mem_cons.mp he with rfl | he
      · exact hx
      · exact deleteWalk_vigente (c := 1) (by rw [length_cons]) h2 e he
    · rw [if_neg hlen, length_cons, length_cons] at h2
      omega

theorem deleteWalk_map (p : γ → Bool) (g : β → γ) (n : Nat) (l : List β) :
    deleteWalk p n (l.map g) = (deleteWalk (fun x => p (g x)) n l).map g := by
  induction l generalizing n with
  | nil => rfl
  | cons x r ih =>
    rw [map_cons, deleteWalk, deleteWalk, ih, ih]
    split
    · split
      · rfl
      · rw [map_cons]
    · rw [map_cons]

theorem deleteFrom_map (p : γ → Bool) (g : β → γ) (l : List β) :
    deleteFrom p (l.map g) = (deleteFrom (fun x => p (g x)) l).map g := by
  match l with
  | [] => rfl
  | [_] => rfl
  | x :: y :: r =>
    simp only [map_cons, deleteFrom, length_map]
    split
    · split
      · rw [map_cons, deleteWalk_map]
      · rw [map_cons, ← map_cons, deleteWalk_map]
    · simp only [map_cons]

end TcpPath
