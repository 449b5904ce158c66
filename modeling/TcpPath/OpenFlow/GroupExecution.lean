/-
  Subject:   Groups on packets (action_set.c, group_entry.c, `group_table_execute`,
             `dp_execute_action_list`).

  * What is not the groups' own is an argument (`Ejecutor`). An output to `OFPP_TABLE` of a
    packet-out is a run of the pipeline, with a copy that can not come back.

  Results:   `groups_acyclic`: no group leads to itself, and executions end.
-/
import TcpPath.OpenFlow.Groups
import TcpPath.Ports

namespace TcpPath.Udatapath

open Util

variable {W P Mt : Type}

/-! ## 1. Action sets -/

namespace Action

/-- `act->type`. -/
def type : Action → Nat
  | .output .. => 0
  | .copyTtlOut => 11
  | .copyTtlIn => 12
  | .setMplsTtl _ => 15
  | .decMplsTtl => 16
  | .pushVlan _ => 17
  | .popVlan => 18
  | .pushMpls _ => 19
  | .popMpls _ => 20
  | .setQueue _ => 21
  | .group _ => 22
  | .setNwTtl _ => 23
  | .decNwTtl => 24
  | .setField .. => 25
  | .pushPbb _ => 26
  | .popPbb => 27

/-- Two `OFPAT_SET_FIELD` for different fields. -/
def otroCampo : Action → Action → Bool
  | .setField header _, .setField header' _ => header != header'
  | _, _ => false

end Action

/-- `action_set_order`. -/
def actionSetOrder : Action → Nat
  | .copyTtlOut => 40
  | .copyTtlIn => 10
  | .setField .. => 60
  | .setMplsTtl _ => 60
  | .decMplsTtl => 50
  | .pushPbb _ => 30
  | .popPbb => 20
  | .pushVlan _ => 30
  | .popVlan => 20
  | .pushMpls _ => 30
  | .popMpls _ => 20
  | .setQueue _ => 70
  | .group _ => 80
  | .setNwTtl _ => 60
  | .decNwTtl => 50
  | .output .. => 90

/-- `action_set_write_action`. -/
def actionSetWriteAction : List Action → Action → List Action
  | [], act => [act]
  | entry :: set, act =>
    if entry.type = act.type then
      -- `continue`: the order is not looked at
      if entry.otroCampo act then entry :: actionSetWriteAction set act else act :: set
    else if actionSetOrder act < actionSetOrder entry then act :: entry :: set
    else entry :: actionSetWriteAction set act

/-- `action_set_write_actions`. -/
def actionSetWriteActions (set actions : List Action) : List Action :=
  actions.foldl actionSetWriteAction set

variable {set : List Action} {a : Action} {actions : List Action}

theorem mem_actionSetWriteAction {act : Action} (h : a ∈ actionSetWriteAction set act) :
    a ∈ set ∨ a = act := by
  induction set with
  | nil => exact .inr (List.mem_singleton.mp h)
  | cons entry set ih =>
    rw [actionSetWriteAction] at h
    split at h
    · split at h
      · rcases List.mem_cons.mp h with rfl | h
        · exact .inl List.mem_cons_self
        · exact (ih h).imp_left (List.mem_cons_of_mem _)
      · rcases List.mem_cons.mp h with rfl | h
        · exact .inr rfl
        · exact .inl (List.mem_cons_of_mem _ h)
    · split at h
      · exact (List.mem_cons.mp h).symm
      · rcases List.mem_cons.mp h with rfl | h
        · exact .inl List.mem_cons_self
        · exact (ih h).imp_left (List.mem_cons_of_mem _)

theorem mem_actionSetWriteActions (h : a ∈ actionSetWriteActions set actions) :
    a ∈ set ∨ a ∈ actions := by
  induction actions generalizing set with
  | nil => exact .inl h
  | cons act actions ih =>
    rcases ih h with h | h
    · refine (mem_actionSetWriteAction h).imp_right ?_
      rintro rfl
      exact List.mem_cons_self
    · exact .inr (List.mem_cons_of_mem _ h)

/-! ## 2. Packets and the world they meet -/

/-- Why an execution stops before its end. -/
inductive Paro where
  /-- More groups would be under way than the bound allows. -/
  | niveles
  /-- `bucket_is_alive` on a bucket that watches a port there is not: a null pointer is read. -/
  | nulo
  /-- An action on a header that the frame does not have: a null pointer is followed. -/
  | cabecera
  deriving DecidableEq, Repr

/-- `struct packet`: the fields below, and the rest of it. -/
structure Paquete (P : Type) where
  datos : P
  actionSet : List Action
  outGroup : Nat
  outPort : Nat
  outPortMaxLen : Nat
  outQueue : Nat
  deriving Repr

/-- `struct ofl_bucket_counter`. -/
structure BucketCounter where
  packetCount : UInt64
  byteCount : UInt64
  deriving DecidableEq, Repr

/-- One more packet. -/
def BucketCounter.suma (c : BucketCounter) (size : UInt64) : BucketCounter :=
  ⟨c.packetCount + 1, c.byteCount + size⟩

/-- `struct group_entry_wrr_data`. -/
structure WrrData where
  maxWeight : UInt16
  gcdWeight : UInt16
  currWeight : UInt16
  currBucket : UInt64
  deriving DecidableEq, Repr

structure EstadoGrupo where
  total : BucketCounter
  counters : Nat → BucketCounter
  data : WrrData

/-- The groups, by number, and everything else (ports, buffers, controllers, tables). -/
structure Mundo (W : Type) where
  estados : Nat → EstadoGrupo
  resto : W

namespace Mundo

/-- The counters of a group and of one of its buckets. -/
def cuenta (w : Mundo W) (id i : Nat) (size : UInt64) : Mundo W :=
  { w with
    estados := Function.update w.estados id
      { w.estados id with
        total := (w.estados id).total.suma size
        counters := Function.update (w.estados id).counters i
          (((w.estados id).counters i).suma size) } }

/-- `entry->data`. -/
def conData (w : Mundo W) (id : Nat) (data : WrrData) : Mundo W :=
  { w with estados := Function.update w.estados id { w.estados id with data := data } }

end Mundo

structure Ejecutor (W P : Type) where
  type : Nat → Nat
  weight : Nat → Nat → UInt16
  watchPort : Nat → Nat → Nat
  /-- `dp_ports_lookup`, and whether the port is up with its link. -/
  puertoVivo : W → Nat → Option Bool
  size : P → UInt64
  clona : P → P
  /-- `dp_execute_action` for the actions on headers; `none` where a null pointer is followed. -/
  aplica : Action → P → Option P
  destruye : P → Mundo W → Mundo W
  salida : Nat → Nat → Nat → UInt64 → P → Mundo W → P × Mundo W

/-! ## 3. The code -/

section Codigo

variable (x : Ejecutor W P)

/-- `packet_clone`. -/
def packetClone (pkt : Paquete P) : Paquete P :=
  ⟨x.clona pkt.datos, [], ofpAny, ofpAny, 0, 0⟩

/-- `dp_execute_action`, with `output`, `set_queue` and `group`. -/
def dpExecuteAction (pkt : Paquete P) : Action → Except Paro (Paquete P)
  | .output port maxLen =>
    .ok { pkt with
      outPort := port
      outPortMaxLen := if port = ofppController then maxLen else pkt.outPortMaxLen }
  | .setQueue queueId => .ok { pkt with outQueue := queueId }
  | .group groupId => .ok { pkt with outGroup := groupId }
  | action =>
    match x.aplica action pkt.datos with
    | none => .error .cabecera
    | some datos => .ok { pkt with datos }

/-- The output of both executions below: the fields are reset before it. -/
def emite (w : Mundo W) (pkt : Paquete P) (cookie : UInt64) : Paquete P × Mundo W :=
  let r := x.salida pkt.outPort pkt.outQueue pkt.outPortMaxLen cookie pkt.datos w
  ({ pkt with datos := r.1, outPort := ofpAny, outPortMaxLen := 0, outQueue := 0 }, r.2)

section Grupo

-- `group_table_execute`, as it is called from inside a group
variable (grupo : Mundo W → Paquete P → Nat → Except Paro (Mundo W))

/-- `action_set_execute`, on the packet's own set. -/
def actionSetExecute (w : Mundo W) (pkt : Paquete P) (cookie : UInt64) :
    Except Paro (Mundo W) := do
  let pkt ← pkt.actionSet.foldlM (dpExecuteAction x) pkt
  let pkt := { pkt with actionSet := [] }
  if pkt.outGroup ≠ ofpAny then grupo w { pkt with outGroup := ofpAny } pkt.outGroup
  else if pkt.outPort ≠ ofpAny then
    let r := emite x w pkt cookie
    .ok (x.destruye r.1.datos r.2)
  else .ok (x.destruye pkt.datos w)

variable (entry : RefEntry (Bucket Action))

/-- What the four types do with a bucket. -/
def executeBucket (w : Mundo W) (pkt : Paquete P) (i : Fin entry.items.length) :
    Except Paro (Mundo W) :=
  let pkt := { pkt with
    actionSet := actionSetWriteActions pkt.actionSet (entry.items.get i).actions }
  actionSetExecute x grupo (w.cuenta entry.id i (x.size pkt.datos)) pkt 0xffffffffffffffff

/-- What the last three types do with their choice. -/
def executeChosen (w : Mundo W) (pkt : Paquete P) :
    Option (Fin entry.items.length) → Except Paro (Mundo W)
  | some b => executeBucket x grupo entry w pkt b
  | none => .ok (x.destruye pkt.datos w)

/-- `execute_all`. -/
def executeAll (w : Mundo W) (pkt : Paquete P) : Except Paro (Mundo W) := do
  let w ← (List.finRange entry.items.length).foldlM
    (fun w i => executeBucket x grupo entry w (packetClone x pkt) i) w
  return x.destruye pkt.datos w

/-- The loop of `select_from_select_group`, from its guard on. -/
def selectLoop {n : Nat} (hn : 0 < n) (weight : Nat → UInt16) :
    Nat → WrrData → Option (Fin n) × WrrData
  | 0, data => (none, data)
  | guard + 1, data =>
    let b := (data.currBucket + 1).toNat % n
    let currWeight :=
      if b = 0 then
        if data.currWeight ≤ data.gcdWeight then data.maxWeight
        else data.currWeight - data.gcdWeight
      else data.currWeight
    let data := { data with currWeight := currWeight, currBucket := b.toUInt64 }
    if currWeight ≤ weight b then (some ⟨b, Nat.mod_lt _ hn⟩, data)
    else selectLoop hn weight guard data

/-- `select_from_select_group`. -/
def selectFromSelectGroup (n : Nat) (weight : Nat → UInt16) (data : WrrData) :
    Option (Fin n) × WrrData :=
  if hn : 0 < n then selectLoop hn weight n data else (none, data)

/-- `execute_select`. -/
def executeSelect (w : Mundo W) (pkt : Paquete P) : Except Paro (Mundo W) :=
  let r := selectFromSelectGroup entry.items.length (x.weight entry.id) (w.estados entry.id).data
  executeChosen x grupo entry (w.conData entry.id r.2) pkt r.1

/-- `execute_indirect`. -/
def executeIndirect (w : Mundo W) (pkt : Paquete P) : Except Paro (Mundo W) :=
  executeChosen x grupo entry w pkt (List.finRange entry.items.length).head?

/-- `bucket_is_alive`. -/
def bucketIsAlive (w : Mundo W) (id i : Nat) : Except Paro Bool :=
  if x.watchPort id i = ofpAny then .ok false
  else
    match x.puertoVivo w.resto (x.watchPort id i) with
    | none => .error .nulo
    | some vivo => .ok vivo

/-- `select_from_ff_group`. -/
def selectFromFfGroup (w : Mundo W) (id n : Nat) : Except Paro (Option (Fin n)) :=
  (List.finRange n).findM? fun i => bucketIsAlive x w id i

/-- `execute_ff`. -/
def executeFf (w : Mundo W) (pkt : Paquete P) : Except Paro (Mundo W) := do
  let b ← selectFromFfGroup x w entry.id entry.items.length
  executeChosen x grupo entry w pkt b

/-- `group_entry_execute`. -/
def groupEntryExecute (w : Mundo W) (pkt : Paquete P) : Except Paro (Mundo W) :=
  match x.type entry.id with
  | 0 => executeAll x grupo entry w pkt
  | 1 => executeSelect x grupo entry w pkt
  | 2 => executeIndirect x grupo entry w pkt
  | 3 => executeFf x grupo entry w pkt
  | _ => .ok (x.destruye pkt.datos w)

/-- One round of `dp_execute_action_list`. -/
def executeListed (cookie : UInt64) (r : Paquete P × Mundo W) (action : Action) :
    Except Paro (Paquete P × Mundo W) := do
  let pkt ← dpExecuteAction x r.1 action
  if pkt.outGroup ≠ ofpAny then
    let w ← grupo r.2 (packetClone x pkt) pkt.outGroup
    return ({ pkt with outGroup := ofpAny }, w)
  else if pkt.outPort ≠ ofpAny then .ok (emite x r.2 pkt cookie)
  else .ok (pkt, r.2)

/-- `dp_execute_action_list`. -/
def dpExecuteActionList (w : Mundo W) (pkt : Paquete P) (actions : List Action)
    (cookie : UInt64) : Except Paro (Paquete P × Mundo W) :=
  actions.foldlM (executeListed x grupo cookie) (pkt, w)

end Grupo

/-- **`group_table_execute`**, with the levels there are for it. -/
def groupTableExecute (table : RefTable (Bucket Action)) :
    Nat → Mundo W → Paquete P → Nat → Except Paro (Mundo W)
  | niveles, w, pkt, groupId =>
    match table.find groupId with
    | none => .ok w
    | some entry =>
      match niveles with
      | 0 => .error .niveles
      | niveles + 1 => groupEntryExecute x (groupTableExecute table niveles) entry w pkt

end Codigo

/-! ## 4. Executions that come to their end -/

/-- From the bound `n` on the outcome is one and the same, and not a lack of levels. -/
def Acaba {R : Type} (n : Nat) (f : Nat → Except Paro R) : Prop :=
  ∃ r, r ≠ .error .niveles ∧ ∀ k, n ≤ k → f k = r

namespace Acaba

variable {R S : Type} {n : Nat}

theorem ok (r : R) : Acaba n fun _ => .ok r := ⟨.ok r, fun h => (nomatch h), fun _ _ => rfl⟩

variable {f : Nat → Except Paro R} {g : Nat → R → Except Paro S}

theorem bind (hf : Acaba n f) (hg : ∀ r, Acaba n fun k => g k r) :
    Acaba n fun k => f k >>= g k := by
  obtain ⟨r, hr, hfk⟩ := hf
  cases r with
  | error e =>
    refine ⟨.error e, fun h => hr ?_, fun k hk => ?_⟩
    · cases h
      rfl
    · show f k >>= g k = _
      rw [hfk k hk]
      rfl
  | ok r =>
    obtain ⟨s, hs, hgk⟩ := hg r
    refine ⟨s, hs, fun k hk => ?_⟩
    show f k >>= g k = _
    rw [hfk k hk]
    exact hgk k hk

theorem tras {f : Except Paro R} (hf : f ≠ .error .niveles)
    (hg : ∀ r, f = .ok r → Acaba n fun k => g k r) : Acaba n fun k => f >>= g k := by
  cases f with
  | error e => exact ⟨.error e, fun h => hf (congrArg _ (Except.error.inj h)), fun _ _ => rfl⟩
  | ok r => exact hg r rfl

theorem foldlM {α : Type} {g : Nat → R → α → Except Paro R}
    (hg : ∀ r a, Acaba n fun k => g k r a) (l : List α) (r : R) :
    Acaba n fun k => l.foldlM (g k) r := by
  induction l generalizing r with
  | nil => exact ok r
  | cons a l ih =>
    simp only [List.foldlM_cons]
    exact (hg r a).bind ih

theorem succ {g : Nat → Except Paro R} (hg : ∀ k, g (k + 1) = f k) (h : Acaba n f) :
    Acaba (n + 1) g := by
  obtain ⟨r, hr, hfk⟩ := h
  refine ⟨r, hr, fun k hk => ?_⟩
  obtain ⟨k, rfl⟩ : ∃ j, k = j + 1 := ⟨k - 1, by omega⟩
  rw [hg]
  exact hfk k (by omega)

end Acaba

/-- No action and no group is left over from before. -/
def Paquete.Limpio (pkt : Paquete P) : Prop := pkt.actionSet = [] ∧ pkt.outGroup = ofpAny

theorem dpExecuteAction_ne (x : Ejecutor W P) (pkt : Paquete P) (a : Action) :
    dpExecuteAction x pkt a ≠ .error .niveles := by
  intro h
  unfold dpExecuteAction at h
  split at h
  · cases h
  · cases h
  · cases h
  · split at h
    · cases h
    · cases h

theorem outGroup_dpExecuteAction {x : Ejecutor W P} {pkt pkt' : Paquete P}
    (h : dpExecuteAction x pkt a = .ok pkt') :
    pkt'.outGroup = pkt.outGroup ∨ a.grupo = some pkt'.outGroup := by
  unfold dpExecuteAction at h
  split at h
  · cases h
    exact .inl rfl
  · cases h
    exact .inl rfl
  · cases h
    exact .inr rfl
  · split at h
    · cases h
    · cases h
      exact .inl rfl

theorem foldlM_dpExecuteAction_ne (x : Ejecutor W P) (actions : List Action) (pkt : Paquete P) :
    actions.foldlM (dpExecuteAction x) pkt ≠ .error .niveles := by
  induction actions generalizing pkt with
  | nil => exact fun h => (nomatch h)
  | cons a actions ih =>
    rw [List.foldlM_cons]
    cases ha : dpExecuteAction x pkt a with
    | error e =>
      intro h
      cases h
      exact dpExecuteAction_ne x pkt a ha
    | ok pkt' => exact ih pkt'

theorem outGroup_foldlM {x : Ejecutor W P} {pkt pkt' : Paquete P}
    (h : actions.foldlM (dpExecuteAction x) pkt = .ok pkt') :
    pkt'.outGroup = pkt.outGroup ∨ ∃ a ∈ actions, a.grupo = some pkt'.outGroup := by
  induction actions generalizing pkt with
  | nil =>
    cases h
    exact .inl rfl
  | cons a actions ih =>
    rw [List.foldlM_cons] at h
    obtain ⟨pkt1, h1, h⟩ := bind_eq_ok.mp h
    rcases ih h with heq | ⟨b, hb, hg⟩
    · rw [heq]
      exact (outGroup_dpExecuteAction h1).imp_right fun ha => ⟨a, List.mem_cons_self, ha⟩
    · exact .inr ⟨b, List.mem_cons_of_mem _ hb, hg⟩

section Acaba

variable {x : Ejecutor W P} {n : Nat}
  {grupo : Nat → Mundo W → Paquete P → Nat → Except Paro (Mundo W)}

/-- Groups that come to their end on every packet that is ready for them. -/
def Listo (n : Nat) (grupo : Nat → Mundo W → Paquete P → Nat → Except Paro (Mundo W))
    (g : Nat) : Prop :=
  ∀ w (pkt : Paquete P), pkt.Limpio → Acaba n fun k => grupo k w pkt g

variable {pkt : Paquete P}

theorem acaba_actionSetExecute (hg : ∀ a ∈ pkt.actionSet, ∀ g, a.grupo = some g → Listo n grupo g)
    (hout : pkt.outGroup ≠ ofpAny → Listo n grupo pkt.outGroup) (w : Mundo W) (cookie : UInt64) :
    Acaba n fun k => actionSetExecute x (grupo k) w pkt cookie := by
  unfold actionSetExecute
  refine Acaba.tras (foldlM_dpExecuteAction_ne x _ pkt) fun pkt' hpkt' => ?_
  simp only
  split
  · rename_i hany
    rcases outGroup_foldlM hpkt' with h | ⟨a, ha, h⟩
    · exact (h ▸ hout (h ▸ hany)) w _ ⟨rfl, rfl⟩
    · exact hg a ha _ h w _ ⟨rfl, rfl⟩
  · split
    · exact .ok _
    · exact .ok _

variable {entry : RefEntry (Bucket Action)}

theorem acaba_executeBucket (hg : ∀ g ∈ gruposDe Action.grupo entry.items, Listo n grupo g)
    (hpkt : pkt.Limpio) (w : Mundo W) (i : Fin entry.items.length) :
    Acaba n fun k => executeBucket x (grupo k) entry w pkt i := by
  show Acaba n fun k => actionSetExecute x (grupo k) _
    { pkt with actionSet := actionSetWriteActions pkt.actionSet (entry.items.get i).actions } _
  refine acaba_actionSetExecute ?_ ?_ _ _
  · intro a ha g hga
    refine hg g (mem_gruposDe.mpr ⟨entry.items.get i, List.get_mem _ _, a, ?_, hga⟩)
    rcases mem_actionSetWriteActions ha with ha | ha
    · rw [hpkt.1] at ha
      cases ha
    · exact ha
  · exact fun h => absurd hpkt.2 h

theorem acaba_executeChosen (hg : ∀ g ∈ gruposDe Action.grupo entry.items, Listo n grupo g)
    (hpkt : pkt.Limpio) (w : Mundo W) (b : Option (Fin entry.items.length)) :
    Acaba n fun k => executeChosen x (grupo k) entry w pkt b := by
  cases b with
  | none => exact .ok _
  | some b => exact acaba_executeBucket hg hpkt w b

theorem bucketIsAlive_ne (w : Mundo W) (id i : Nat) :
    bucketIsAlive x w id i ≠ .error .niveles := by
  unfold bucketIsAlive
  split
  · exact fun h => (nomatch h)
  · split
    · exact fun h => (nomatch h)
    · exact fun h => (nomatch h)

theorem acaba_selectFromFfGroup (w : Mundo W) (id m : Nat) :
    Acaba n fun _ => selectFromFfGroup x w id m := by
  refine ⟨_, ?_, fun _ _ => rfl⟩
  unfold selectFromFfGroup
  induction List.finRange m with
  | nil =>
    intro h
    cases h
  | cons i is ih =>
    unfold List.findM?
    cases hb : bucketIsAlive x w id i with
    | error e =>
      intro h
      cases h
      exact bucketIsAlive_ne w id i hb
    | ok vivo =>
      cases vivo with
      | true =>
        intro h
        cases h
      | false => exact ih

/-- **A group comes to its end** when the groups of its buckets do. -/
theorem acaba_groupEntryExecute (hg : ∀ g ∈ gruposDe Action.grupo entry.items, Listo n grupo g)
    (hpkt : pkt.Limpio) (w : Mundo W) :
    Acaba n fun k => groupEntryExecute x (grupo k) entry w pkt := by
  unfold groupEntryExecute
  split
  · exact (Acaba.foldlM (fun w i => acaba_executeBucket hg ⟨rfl, rfl⟩ w i) _ w).bind
      fun w => .ok _
  · exact acaba_executeChosen hg hpkt _ _
  · exact acaba_executeChosen hg hpkt _ _
  · exact (acaba_selectFromFfGroup w entry.id _).bind fun b => acaba_executeChosen hg hpkt w b
  · exact .ok _

theorem acaba_dpExecuteActionList (hg : ∀ g, Listo n grupo g) (w : Mundo W) (pkt : Paquete P)
    (actions : List Action) (cookie : UInt64) :
    Acaba n fun k => dpExecuteActionList x (grupo k) w pkt actions cookie := by
  refine Acaba.foldlM (fun r a => ?_) actions (pkt, w)
  unfold executeListed
  refine Acaba.tras (dpExecuteAction_ne x r.1 a) fun pkt' _ => ?_
  split
  · exact (hg _ r.2 _ ⟨rfl, rfl⟩).bind fun w => .ok _
  · split
    · exact .ok _
    · exact .ok _

end Acaba

section Tabla

variable {x : Ejecutor W P} {table : RefTable (Bucket Action)}

theorem groupTableExecute_none {g : Nat} (h : table.find g = none) (k : Nat) (w : Mundo W)
    (pkt : Paquete P) : groupTableExecute x table k w pkt g = .ok w := by
  unfold groupTableExecute
  rw [h]

theorem groupTableExecute_succ {g : Nat} {entry : RefEntry (Bucket Action)}
    (h : table.find g = some entry) (k : Nat) (w : Mundo W) (pkt : Paquete P) :
    groupTableExecute x table (k + 1) w pkt g =
      groupEntryExecute x (groupTableExecute x table k) entry w pkt := by
  rw [groupTableExecute, h]

/-- **The levels a group needs** are at most the groups that can be reached from it. -/
theorem listo_groupTableExecute (h : table.Encadenada Action.grupo) {n g : Nat}
    (hn : height table.ids.toFinset (LlevaA Action.grupo table) g ≤ n) :
    Listo n (groupTableExecute x table) g := by
  -- the measure falls from a group to those of its buckets
  induction n generalizing g with
  | zero =>
    have hnone : table.find g = none := by
      by_contra hsome
      have hmem := RefTable.mem_ids_iff.mpr (Option.isSome_iff_ne_none.mpr hsome)
      have := height_pos (R := LlevaA Action.grupo table) (List.mem_toFinset.mpr hmem)
      omega
    intro w pkt _
    simp only [groupTableExecute_none hnone]
    exact .ok w
  | succ n ih =>
    intro w pkt hpkt
    cases hf : table.find g with
    | none =>
      simp only [groupTableExecute_none hf]
      exact .ok w
    | some entry =>
      refine Acaba.succ (fun k => groupTableExecute_succ hf k w pkt)
        (acaba_groupEntryExecute (fun g' hg' => ih ?_) hpkt w)
      have hlleva : LlevaA Action.grupo table g g' := by
        rw [LlevaA, hijos_of_find hf]
        exact hg'
      have := height_lt h.aciclica (List.mem_toFinset.mpr hlleva.mem_ids) hlleva
      omega

theorem listo_of_length_le (h : table.Encadenada Action.grupo) (g : Nat) :
    Listo table.entries.length (groupTableExecute x table) g := by
  refine listo_groupTableExecute h (height_le.trans ?_)
  refine (List.toFinset_card_le _).trans (le_of_eq ?_)
  unfold RefTable.ids
  rw [List.length_map]

end Tabla

/-! ## 5. The result -/

/-- **Group chains are acyclic, and executions as deep as there are groups at most.** For every
    packet, the only two functions that hand one to a group come to their end. -/
theorem groups_acyclic {c : Conmutador Mt P} {ok : Dp Mt Action MeterBand → Llegada P → Prop}
    {bandsNum : UInt64} {d : Dp Mt Action MeterBand}
    (h : Run (Dp.recibe c) ok (Dp.create bandsNum) d) :
    (∀ entry ∈ d.groups.entries, ∀ bucket ∈ entry.items, ∀ a ∈ bucket.actions, ∀ g,
      a.grupo = some g → (d.groups.find g).isSome = true) ∧
    Acyclic (fun g g' => ∃ entry ∈ d.groups.entries, entry.id = g ∧
      ∃ bucket ∈ entry.items, ∃ a ∈ bucket.actions, a.grupo = some g') ∧
    ∀ (W Q : Type) (x : Ejecutor W Q) (w : Mundo W) (pkt : Paquete Q) (cookie : UInt64),
      (Acaba d.groups.entries.length fun k =>
        actionSetExecute x (groupTableExecute x d.groups k) w pkt cookie) ∧
      ∀ actions, Acaba d.groups.entries.length fun k =>
        dpExecuteActionList x (groupTableExecute x d.groups k) w pkt actions cookie := by
  have henc := Dp.encadenada_recibe h
  have hlleva : ∀ g g', (∃ entry ∈ d.groups.entries, entry.id = g ∧
      ∃ bucket ∈ entry.items, ∃ a ∈ bucket.actions, a.grupo = some g') →
      LlevaA Action.grupo d.groups g g' := by
    rintro g g' ⟨entry, he, rfl, hb⟩
    rw [LlevaA, hijos_of_find (RefTable.find_of_mem henc.unica he)]
    exact mem_gruposDe.mpr hb
  refine ⟨fun entry he bucket hb a ha g hga => ?_, henc.aciclica.mono hlleva, ?_⟩
  · exact RefTable.mem_ids_iff.mp
      (henc.existen _ g (hlleva _ g ⟨entry, he, rfl, bucket, hb, a, ha, hga⟩))
  · intro W Q x w pkt cookie
    exact ⟨acaba_actionSetExecute (fun _ _ g _ => listo_of_length_le henc g)
      (fun _ => listo_of_length_le henc _) w cookie,
      fun actions => acaba_dpExecuteActionList (listo_of_length_le henc) w pkt actions cookie⟩

/-- Three groups in a chain, of which the last first was one without buckets. The change that would
    close the chain is refused. -/
theorem groups_acyclic_tres :
    ∃ d : Dp Unit Action MeterBand,
      Run (Dp.recibe sinCampos) (fun _ _ => True) (.create 0) d ∧
      d.groups.entries.map (fun g => (g.id, gruposDe Action.grupo g.items)) =
        [(3, [2]), (2, [1, 1]), (1, [])] ∧
      Acyclic (fun g g' => ∃ entry ∈ d.groups.entries, entry.id = g ∧
        ∃ bucket ∈ entry.items, ∃ a ∈ bucket.actions, a.grupo = some g') ∧
      ∀ (W Q : Type) (x : Ejecutor W Q) (w : Mundo W) (pkt : Paquete Q) (cookie : UInt64),
        Acaba 3 fun k => actionSetExecute x (groupTableExecute x d.groups k) w pkt cookie := by
  refine Run.exists_exec₁
    [.mensaje false (msgGrupo 0 1 [cubo (accSalida 3)]) [] 0,
      .mensaje false (msgGrupo 0 2 []) [1] 0,
      .mensaje false (msgGrupo 1 2 [cubo (accGrupo 1), cubo (accGrupo 1)]) [1, 2] 0,
      .mensaje false (msgGrupo 0 3 [cubo (accGrupo 2)]) [1, 2] 0,
      .mensaje false (msgGrupo 1 1 [cubo (accGrupo 3)]) [1, 2, 3] 0,
      .mensaje false (msgGrupo 1 1 []) [1, 2, 3] 0]
    (by decide +kernel) fun d hrun hgroups => ?_
  obtain ⟨_, hac, hex⟩ := groups_acyclic hrun
  have hlen : d.groups.entries.length = 3 := by
    have := congrArg List.length hgroups
    rw [List.length_map] at this
    exact this
  refine ⟨hac, fun W Q x w pkt cookie => ?_⟩
  have := (hex W Q x w pkt cookie).1
  rw [hlen] at this
  exact this

end TcpPath.Udatapath
