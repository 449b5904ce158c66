/-
  Subject:   Controllers and the switch: roles (`dp_handle_role_request`) and asynchronous messages
             (`send_openflow_buffer` without a sender, `dp_handle_async_request`).

  Results:   `single_master`: at most one controller is master;
             `generation_ids`: when a role request is accepted;
             `async_filtering`: who gets an asynchronous message.
-/
import TcpPath.OpenFlow.Control
import TcpPath.Util.BigEndian

namespace TcpPath.Udatapath

open Util Function

variable {Mt P : Type}

/-! ## 1. Roles -/

namespace Switch

/-- `r->role`, of a controller that is connected. -/
def rol (s : Switch Mt) (r : Nat) : Option Role := (s.remotes r).map (·.role)

/-- At most one controller is master. -/
def UnMaster (s : Switch Mt) : Prop :=
  ∀ r r', s.rol r = some .master → s.rol r' = some .master → r = r'

section Roles

variable {c : Conmutador Mt P} {s s' : Switch Mt} {a : Recibo} {rem : Remote}

theorem rol_conRemote (s : Switch Mt) (r : Nat) (rem : Remote) :
    (s.conRemote r rem).rol = Function.update s.rol r (some rem.role) := by
  funext r'
  by_cases hr : r' = r
  · subst hr
    simp [rol, conRemote]
  · simp [rol, conRemote, hr]

theorem remotes_aplicaTableFeatures (s : Switch Mt) (body : Cuerpo) :
    (s.aplicaTableFeatures body).1.remotes = s.remotes := by
  unfold aplicaTableFeatures
  split
  · rfl
  · split <;> rfl

/-- **What a message other than a role request does to what is kept of controllers**: nothing, or
    its sender has another configuration of messages, or other parts of a request, which come with
    tables there are. -/
inductive CambiaRemotes (r : Nat) (rem : Remote) (s s' : Switch Mt) : Prop where
  | nada (h : s'.remotes = s.remotes)
  | config (config : AsyncConfig)
      (h : s'.remotes = Function.update s.remotes r (some { rem with config }))
  | partes (body : Cuerpo) (hbody : ∀ f ∈ body.getD [], f.tableId < pipelineTables)
      (mp : Option Cuerpo) (xid : UInt32)
      (hmp : mp = none ∨ mp = some (mergeTableFeatures (rem.mpReqMsg.getD none) body))
      (h : s'.remotes =
        Function.update s.remotes r (some { rem with mpReqMsg := mp, mpReqXid := xid }))

theorem cambiaRemotes_tableFeaturesRequest (s : Switch Mt) (a : Recibo) (rem : Remote)
    (more : Bool) (body : Cuerpo) :
    CambiaRemotes a.remote rem s (s.pipelineHandleTableFeaturesRequest a rem more body).1 := by
  unfold pipelineHandleTableFeaturesRequest
  split
  · exact .nada rfl
  · rename_i hno
    have hbody : ∀ f ∈ body.getD [], f.tableId < pipelineTables := by
      intro f hf
      by_contra hge
      exact hno (List.any_eq_true.mpr ⟨f, hf, decide_eq_true (Nat.le_of_not_lt hge)⟩)
    split
    · rename_i orig horig
      split
      · exact .nada rfl
      · dsimp only
        split
        · exact .partes body hbody _ rem.mpReqXid (.inr (by rw [horig]; rfl)) rfl
        · refine .partes body hbody none 0 (.inl rfl) ?_
          rw [conRemote, remotes_aplicaTableFeatures]
    · rename_i hnone
      split
      · exact .partes body hbody _ a.xid (.inr (by rw [hnone]; rfl)) rfl
      · exact .nada (s.remotes_aplicaTableFeatures body)

theorem cambiaRemotes_handleControlStatsRequest (s : Switch Mt) (a : Recibo) (rem : Remote)
    (req : MultipartRequest) :
    CambiaRemotes a.remote rem s (s.handleControlStatsRequest a rem req).1 := by
  cases req with
  | tableFeatures more body => exact cambiaRemotes_tableFeaturesRequest s a rem more body
  | stats req =>
    rw [handleControlStatsRequest]
    split <;> exact .nada rfl
  | _ => exact .nada rfl

variable {slave : Bool} {e : Option OflErr} {msg : ControlMsg Mt} {r : Nat}

theorem remotes_dpExpMessage (s : Switch Mt) (a : Recibo) (msg : ExpMsg) :
    (s.dpExpMessage a msg).1.remotes = s.remotes := by
  cases msg <;> rfl

theorem cambiaRemotes_handleControlMsg (h : s.handleControlMsg c a msg = some (s', e))
    (hmsg : ∀ role generationId, msg ≠ .roleRequest role generationId) :
    ∃ rem, s.remotes a.remote = some rem ∧ CambiaRemotes a.remote rem s s' := by
  obtain ⟨rem, hrem, h⟩ := Option.bind_eq_some_iff.mp h
  refine ⟨rem, hrem, ?_⟩
  cases msg with
  | packetOut msg => exact .nada (dp_handleControlPacketOut h).2.2
  | flowMod mod =>
    rcases dp_pipelineHandleFlowMod h with rfl | ⟨_, _, hr⟩
    · exact .nada rfl
    · exact .nada hr
  | groupMod mod =>
    obtain ⟨_, h⟩ := Option.ite_none_right_eq_some.mp h
    rcases conDp_ok (Option.some.inj h) with rfl | ⟨_, _, hr⟩
    · exact .nada rfl
    · exact .nada hr
  | meterMod mod =>
    obtain ⟨_, h⟩ := Option.ite_none_right_eq_some.mp h
    rcases conDp_ok (Option.some.inj h) with rfl | ⟨_, _, hr⟩
    · exact .nada rfl
    · exact .nada hr
  | portMod msg =>
    obtain ⟨_, _, h⟩ := Option.map_eq_some_iff.mp h
    cases h
    exact .nada rfl
  | tableMod tableId config => exact .nada (dp_pipelineHandleTableMod h).2.2
  | multipartRequest req =>
    obtain rfl := congrArg Prod.fst (Option.some.inj h)
    exact cambiaRemotes_handleControlStatsRequest s a rem req
  | queueGetConfigRequest port =>
    obtain rfl := eq_of_queueGetConfigRequest h
    exact .nada rfl
  | roleRequest role generationId => exact absurd rfl (hmsg role generationId)
  | experimenter msg =>
    obtain rfl := congrArg Prod.fst (Option.some.inj h)
    exact .nada (s.remotes_dpExpMessage a msg)
  | setAsync config =>
    cases h
    exact .config config rfl
  | _ =>
    cases h
    exact .nada rfl

theorem CambiaRemotes.rol (hrem : s.remotes r = some rem) (h : CambiaRemotes r rem s s') :
    s'.rol = s.rol := by
  have hself : ∀ {rem' : Remote}, s'.remotes = Function.update s.remotes r (some rem') →
      rem'.role = rem.role → s'.rol = s.rol := by
    intro rem' hs hrole
    funext r'
    by_cases hr : r' = r
    · subst hr
      simp [Switch.rol, hs, hrem, hrole]
    · simp [Switch.rol, hs, hr]
  cases h with
  | nada h =>
    unfold Switch.rol
    rw [h]
  | config config h => exact hself h rfl
  | partes body hbody mp xid hmp h => exact hself h rfl

/-- **Only role requests change roles.** -/
theorem rol_handleControlMsg (h : s.handleControlMsg c a msg = some (s', e))
    (hmsg : ∀ role generationId, msg ≠ .roleRequest role generationId) : s'.rol = s.rol := by
  obtain ⟨rem, hrem, hc⟩ := cambiaRemotes_handleControlMsg h hmsg
  exact hc.rol hrem

/-- **What an accepted request of controller `r` for `role` does to the roles.** -/
inductive CambiaRol (r role : Nat) (s s' : Switch Mt) : Prop where
  | nada (hrole : role = 0) (h : s'.rol = s.rol)
  | equal (hrole : role = 1) (h : s'.rol = Function.update s.rol r (some .equal))
  | master (hrole : role = 2) (hr : s'.rol r = some .master)
      (h : ∀ r' ≠ r, s'.rol r' = (s.rol r').map fun x => if x = .master then .slave else x)
  | slave (hrole : role = 3) (h : s'.rol = Function.update s.rol r (some .slave))

/-- **`dp_handle_role_request`**: a request that is answered with an error changes nothing. -/
theorem dpHandleRoleRequest_spec (s : Switch Mt) (r : Nat) (rem : Remote) (role : Nat)
    (generationId : UInt64) :
    let x := s.dpHandleRoleRequest r rem role generationId
    (x.2 ≠ none ∧ x.1 = s) ∨ (x.2 = none ∧ CambiaRol r role s x.1) := by
  intro x
  have hx : x = s.dpHandleRoleRequest r rem role generationId := rfl
  unfold dpHandleRoleRequest at hx
  split at hx
  · exact .inr ⟨by rw [hx], .nada rfl (by rw [hx])⟩
  · exact .inr ⟨by rw [hx], .equal rfl (by rw [hx, rol_conRemote])⟩
  · split at hx
    · exact .inl ⟨by simp [hx], by rw [hx]⟩
    · refine .inr ⟨by rw [hx], .master rfl ?_ fun r' hr' => ?_⟩
      · rw [hx, rol_conRemote, update_self]
      · rw [hx, rol_conRemote, update_of_ne hr']
        show ((s.remotes r').map cede).map (·.role) = _
        simp only [rol, Option.map_map]
        congr 1
        funext rem'
        simp only [comp_apply, cede]
        split <;> rfl
  · split at hx
    · exact .inl ⟨by simp [hx], by rw [hx]⟩
    · exact .inr ⟨by rw [hx], .slave rfl (by rw [hx, rol_conRemote]; rfl)⟩
  · exact .inl ⟨by simp [hx], by rw [hx]⟩

theorem unMaster_congr (h : s.UnMaster) (hrol : ∀ r, s'.rol r = some .master →
    s.rol r = some .master) : s'.UnMaster :=
  fun r r' hr hr' => h r r' (hrol r hr) (hrol r' hr')

theorem UnMaster.update {x : Option Role} (h : s.UnMaster) (hs : s'.rol = Function.update s.rol r x)
    (hx : x ≠ some .master) : s'.UnMaster := by
  refine unMaster_congr h fun r' hr' => ?_
  rw [hs] at hr'
  by_cases heq : r' = r
  · subst heq
    rw [update_self] at hr'
    exact absurd hr' hx
  · rwa [update_of_ne heq] at hr'

theorem master_iff {r : Nat} (hr : s'.rol r = some .master)
    (h : ∀ r' ≠ r, s'.rol r' = (s.rol r').map fun x => if x = .master then .slave else x)
    (r' : Nat) : s'.rol r' = some .master ↔ r' = r := by
  constructor
  · intro hr'
    by_contra hne
    rw [h r' hne] at hr'
    obtain ⟨x, _, hx⟩ := Option.map_eq_some_iff.mp hr'
    split at hx
    · cases hx
    · rename_i hno
      exact hno hx
  · rintro rfl
    exact hr

theorem CambiaRol.unMaster {role : Nat} (hc : CambiaRol r role s s') (h : s.UnMaster) :
    s'.UnMaster := by
  cases hc with
  | nada _ heq => exact unMaster_congr h fun r hr => by rwa [heq] at hr
  | equal _ heq => exact h.update heq (by simp)
  | master _ hr heq =>
    intro r₁ r₂ h₁ h₂
    rw [master_iff hr heq] at h₁ h₂
    rw [h₁, h₂]
  | slave _ heq => exact h.update heq (by simp)

theorem unMaster_paso {e : Evento Mt P} (hp : s.paso c e = some s') (h : s.UnMaster) :
    s'.UnMaster := by
  have hmismo : s'.rol = s.rol → s'.UnMaster := fun heq =>
    unMaster_congr h fun r hr => by rwa [heq] at hr
  cases e with
  | mensaje a msg =>
    obtain ⟨x, hx, rfl⟩ := Option.map_eq_some_iff.mp hp
    by_cases hrole : ∃ role generationId, msg = .roleRequest role generationId
    · obtain ⟨role, generationId, rfl⟩ := hrole
      obtain ⟨rem, _, hx⟩ := Option.bind_eq_some_iff.mp hx
      obtain rfl := Option.some.inj hx
      rcases s.dpHandleRoleRequest_spec a.remote rem role generationId with ⟨_, heq⟩ | ⟨_, hc⟩
      · rwa [heq]
      · exact hc.unMaster h
    · exact hmismo (rol_handleControlMsg hx fun role g heq => hrole ⟨role, g, heq⟩)
  | trafico e =>
    obtain ⟨_, _, rfl⟩ := Option.map_eq_some_iff.mp hp
    exact hmismo rfl
  | conecta r =>
    obtain ⟨_, hp⟩ := Option.ite_none_right_eq_some.mp hp
    cases hp
    exact h.update (s.rol_conRemote r remoteCreate) (by simp [remoteCreate])
  | desconecta r =>
    cases hp
    refine h.update (r := r) (x := none) ?_ (by simp)
    funext r'
    by_cases hr : r' = r
    · subst hr
      simp [rol]
    · simp [rol, hr]
  | _ =>
    cases hp
    exact hmismo rfl

end Roles

end Switch

/-- **Single master.** At most one controller is master. A request for it that is accepted makes its
sender the master and the old one a slave; an error leaves roles and `generation_id` as they were.
-/
theorem single_master {c : Conmutador Mt P} {s : Switch Mt} {bandsNum : UInt64} {maxQueues : Nat}
    {resto : Fin pipelineTables → Bytes} {dpDesc : Bytes} {now : Nat}
    (hrun : Run (Switch.paso c) (fun _ _ => True)
      (.create bandsNum maxQueues resto dpDesc now) s) :
    s.UnMaster ∧ ∀ (a : Recibo) (role : Nat) (generationId : UInt64), (s.rol a.remote).isSome →
      ∃ s' e, s.handleControlMsg c a (.roleRequest role generationId) = some (s', e) ∧
        (e = none → role = 2 → (∀ r, s'.rol r = some .master ↔ r = a.remote) ∧
          ∀ r, r ≠ a.remote → s.rol r = some .master → s'.rol r = some .slave) ∧
        (e ≠ none → (∀ r, s'.rol r = s.rol r) ∧ s'.generationId = s.generationId) := by
  refine ⟨hrun.invariant (I := Switch.UnMaster) (fun r r' hr => (nomatch hr))
    (fun _ _ _ h _ hp => Switch.unMaster_paso hp h), fun a role generationId hcon => ?_⟩
  obtain ⟨rem, hrem⟩ := Option.isSome_iff_exists.mp (Option.isSome_map.symm.trans hcon)
  refine ⟨(s.dpHandleRoleRequest a.remote rem role generationId).1,
    (s.dpHandleRoleRequest a.remote rem role generationId).2,
    by rw [Switch.handleControlMsg, hrem]; rfl, ?_⟩
  rcases s.dpHandleRoleRequest_spec a.remote rem role generationId with ⟨he, hs⟩ | ⟨he, hc⟩
  · exact ⟨fun hno => absurd hno he, fun _ => ⟨fun r => by rw [hs], by rw [hs]⟩⟩
  · refine ⟨fun _ hrole => ?_, fun hno => absurd he hno⟩
    cases hc with
    | master _ hr h =>
      refine ⟨Switch.master_iff hr h, fun r hne hm => ?_⟩
      rw [h r hne, hm]
      rfl
    | nada h0 => omega
    | equal h1 => omega
    | slave h3 => omega

/-- Controller 0 is master and controller 1 slave; then controller 1 takes over. -/
theorem single_master_takeover : ∃ s : Switch Unit,
    Run (Switch.paso sinCampos) (fun _ _ => True) .encendido s ∧
    s.rol 0 = some .master ∧ s.rol 1 = some .slave ∧ s.UnMaster ∧
    ∃ s' e, s.handleControlMsg sinCampos (.de 1 []) (.roleRequest 2 1) = some (s', e) ∧
      (e = none → s'.rol 1 = some .master ∧ s'.rol 0 = some .slave) := by
  refine Run.exists_exec₂ masterYSlave (by decide) fun s hrun h0 h1 => ?_
  obtain ⟨hun, hreq⟩ := single_master hrun
  obtain ⟨s', e, hmsg, hok, _⟩ := hreq (.de 1 []) 2 1 (by rw [Recibo.de, h1]; rfl)
  refine ⟨hun, s', e, hmsg, fun he => ?_⟩
  obtain ⟨hiff, hold⟩ := hok he rfl
  exact ⟨(hiff 1).mpr rfl, hold 0 (by decide) h0⟩

/-! ## 2. Generation ids -/

/-- A role request of controller `remote`, of whom `rem` is kept. -/
structure RoleRequest where
  remote : Nat
  rem : Remote
  role : Nat
  generationId : UInt64

namespace Switch

def pide (s : Switch Mt) (q : RoleRequest) : Switch Mt × Option OflErr :=
  s.dpHandleRoleRequest q.remote q.rem q.role q.generationId

/-- The switch after role requests, and the `generation_id` of the last one for the role of master
    or slave that was accepted; before them it is `ultima`. -/
def trasPeticiones (s : Switch Mt) (ultima : Option UInt64) :
    List RoleRequest → Switch Mt × Option UInt64
  | [] => (s, ultima)
  | q :: qs =>
    let x := s.pide q
    x.1.trasPeticiones
      (if (q.role = 2 ∨ q.role = 3) ∧ x.2.isNone then some q.generationId else ultima) qs

theorem pide_iff (s : Switch Mt) {q : RoleRequest} (hrole : q.role = 2 ∨ q.role = 3) :
    (s.pide q).2 = none ↔ 0 ≤ (q.generationId - s.generationId).toBitVec.toInt := by
  have hstale : s.staleGenerationId q.generationId = false ↔
      0 ≤ (q.generationId - s.generationId).toBitVec.toInt := by
    rw [staleGenerationId, decide_eq_false_iff_not, BitVec.toInt_eq_toNat_cond,
      UInt64.toNat_toBitVec]
    have hlt := (q.generationId - s.generationId).toNat_lt
    split <;> omega
  rw [← hstale, pide]
  unfold dpHandleRoleRequest
  rcases hrole with h | h
  · rw [h]
    cases s.staleGenerationId q.generationId <;> simp
  · rw [h]
    cases s.staleGenerationId q.generationId <;> simp

theorem generationId_pide (s : Switch Mt) (q : RoleRequest) : (s.pide q).1.generationId =
    if (q.role = 2 ∨ q.role = 3) ∧ (s.pide q).2.isNone then q.generationId
    else s.generationId := by
  unfold pide dpHandleRoleRequest
  split
  · rename_i h
    rw [if_neg (by omega)]
  · rename_i h
    rw [if_neg (by omega)]
    rfl
  · rename_i h
    split <;> simp [conRemote, h]
  · rename_i h
    split <;> simp [conRemote, h]
  · simp

theorem generationId_trasPeticiones {s : Switch Mt} {ultima : Option UInt64} {g : UInt64}
    (h : s.generationId = ultima.getD g) (qs : List RoleRequest) :
    (s.trasPeticiones ultima qs).1.generationId = (s.trasPeticiones ultima qs).2.getD g := by
  induction qs generalizing s ultima with
  | nil => exact h
  | cons q qs ih =>
    refine ih ?_
    rw [generationId_pide]
    split
    · rfl
    · exact h

end Switch

/-- **Generation ids.** A request for master or slave is accepted iff its `generation_id` is not
behind the last one accepted, as a signed number of 64 bits; the first one iff it is not behind -1.
-/
theorem generation_ids (bandsNum : UInt64) (maxQueues : Nat) (resto : Fin pipelineTables → Bytes)
    (dpDesc : Bytes) (now : Nat) (qs : List RoleRequest) {q : RoleRequest}
    (hrole : q.role = 2 ∨ q.role = 3) :
    let x := (Switch.create bandsNum maxQueues resto dpDesc now : Switch Mt).trasPeticiones none qs
    (∀ g, x.2 = some g →
      ((x.1.pide q).2 = none ↔ 0 ≤ (q.generationId - g).toBitVec.toInt)) ∧
    (x.2 = none → ((x.1.pide q).2 = none ↔ 0 ≤ (q.generationId + 1).toBitVec.toInt)) := by
  intro x
  have hgen : x.1.generationId = x.2.getD 0xffffffffffffffff :=
    Switch.generationId_trasPeticiones rfl qs
  refine ⟨fun g hg => ?_, fun hnone => ?_⟩
  · rw [Switch.pide_iff _ hrole, hgen, hg, Option.getD_some]
  · have hmas : q.generationId - 0xffffffffffffffff = q.generationId + 1 := by
      rw [sub_eq_iff_eq_add, add_assoc]
      exact (add_zero _).symm
    rw [Switch.pide_iff _ hrole, hgen, hnone, Option.getD_none, hmas]

/-- Master with 5, then a slave with 4 and one with 6. -/
theorem generation_ids_cinco :
    let x := (Switch.create 0 0 (fun _ => []) [] 0 : Switch Unit).trasPeticiones none
      [⟨0, remoteCreate, 2, 5⟩]
    (x.1.pide ⟨1, remoteCreate, 3, 4⟩).2 ≠ none ∧ (x.1.pide ⟨1, remoteCreate, 3, 6⟩).2 = none := by
  intro x
  have hiff : ∀ g, (x.1.pide ⟨1, remoteCreate, 3, g⟩).2 = none ↔ 0 ≤ (g - 5).toBitVec.toInt :=
    fun g => (generation_ids 0 0 (fun _ => []) [] 0 [⟨0, remoteCreate, 2, 5⟩] (.inr rfl)).1 5 rfl
  exact ⟨fun h => absurd ((hiff 4).mp h) (by decide), (hiff 6).mpr (by decide)⟩

/-- A first request that is refused as stale. -/
theorem generation_ids_fails :
    ((Switch.create 0 0 (fun _ => []) [] 0 : Switch Unit).pide
      ⟨0, remoteCreate, 2, 0x8000000000000000⟩).2 = some (roleRequestFailed 0) := by
  decide

/-! ## 3. Asynchronous messages -/

/-- `enum ofp_port_reason`. -/
inductive PortReason where
  | add
  | delete
  | modify
  deriving DecidableEq, Repr

/-- `enum ofp_flow_removed_reason`. -/
inductive FlowRemovedReason where
  | idleTimeout
  | hardTimeout
  | delete
  | groupDelete
  | meterDelete
  deriving DecidableEq, Repr

/-- A message the switch sends on its own. `resto` is what is packed behind the fields that are
    given: the rest of the port, the match, the frame. -/
inductive Aviso where
  | packetIn (bufferId : UInt32) (totalLen : UInt16) (reason : PacketInReason) (resto : Bytes)
  | portStatus (reason : PortReason) (portNo : UInt32) (resto : Bytes)
  | flowRemoved (cookie : UInt64) (priority : UInt16) (reason : FlowRemovedReason) (resto : Bytes)
  deriving DecidableEq, Repr

namespace Aviso

open BigEndian

/-- The number of the reason, which is that of its bit in the mask. -/
def razon : Aviso → Nat
  | .packetIn _ _ reason _ => reason.ctorIdx
  | .portStatus reason _ _ => reason.ctorIdx
  | .flowRemoved _ _ reason _ => reason.ctorIdx

/-- `enum ofp_type`. -/
def type : Aviso → Nat
  | .packetIn .. => 10
  | .flowRemoved .. => 11
  | .portStatus .. => 12

/-- `ofl_msg_pack_packet_in`, `ofl_msg_pack_port_status` and `ofl_msg_pack_flow_removed`, behind the
    header. -/
def cuerpo : Aviso → Bytes
  | .packetIn bufferId totalLen reason resto =>
    write 4 bufferId.toNat ++ write 2 totalLen.toNat ++ write 1 reason.ctorIdx ++ resto
  | .portStatus reason portNo resto =>
    write 1 reason.ctorIdx ++ write 7 0 ++ write 4 portNo.toNat ++ write 4 0 ++ resto
  | .flowRemoved cookie priority reason resto =>
    write 8 cookie.toNat ++ write 2 priority.toNat ++ write 1 reason.ctorIdx ++ resto

/-- `ofl_msg_pack` for no sender, whose `xid` is 0. -/
def pack (m : Aviso) : Bytes :=
  write 1 4 ++ write 1 m.type ++ write 2 (8 + m.cuerpo.length) ++ write 4 0 ++ m.cuerpo

end Aviso

/-- The tests of one kind of message, `(p->reason == k) && !(mask & (1 << k))` for the first `n`
    reasons. -/
def suprimida (mask : UInt32) (n reason : Nat) : Bool :=
  decide (reason < n) && mask.toNat &&& 2 ^ reason == 0

/-- A byte of the buffer. -/
def octeto (buffer : Bytes) (k : Nat) : Nat := (buffer.getD k 0).toNat

/-- **The body of the loop of `send_openflow_buffer`**: `false` where it goes on to the next
    controller. The reason is read where it is in a `struct ofp_packet_in`, `ofp_port_status` or
    `ofp_flow_removed`. -/
def Remote.acepta (r : Remote) (buffer : Bytes) : Bool :=
  let flowRemoved := !suprimida (r.config.flowRemovedMask 0) 5 (octeto buffer 18)
  if r.role = .equal ∨ r.role = .master then
    match octeto buffer 1 with
    | 10 => !suprimida (r.config.packetInMask 0) 3 (octeto buffer 14)
    -- no `break` at the end of this case
    | 12 => !suprimida (r.config.portStatusMask 0) 3 (octeto buffer 8) && flowRemoved
    | 11 => flowRemoved
    | _ => true
  else if octeto buffer 1 ≠ 12 then false
  else !suprimida (r.config.portStatusMask 1) 3 (octeto buffer 8)

/-- The loop: a controller gets the message once the next one is found, `prev` is the one that
    waits. -/
def difunde (buffer : Bytes) : List (Nat × Remote) → Option Nat → List Nat
  | [], prev => prev.toList
  | (r, rem) :: l, prev =>
    if rem.acepta buffer then prev.toList ++ difunde buffer l (some r) else difunde buffer l prev

/-- **`send_openflow_buffer`** without a sender: who the message is sent to, one after the other.
    `orden` is the list `dp->remotes`. -/
def Switch.sendOpenflowBuffer (s : Switch Mt) (orden : List Nat) (buffer : Bytes) : List Nat :=
  difunde buffer (orden.filterMap fun r => (s.remotes r).map (r, ·)) none

/-! ## 4. Who gets them -/

theorem difunde_eq (buffer : Bytes) (l : List (Nat × Remote)) (prev : Option Nat) :
    difunde buffer l prev = prev.toList ++ (l.filter (·.2.acepta buffer)).map (·.1) := by
  induction l generalizing prev with
  | nil => simp [difunde]
  | cons x l ih =>
    obtain ⟨r, rem⟩ := x
    by_cases h : rem.acepta buffer = true
    · simp [difunde, h, ih]
    · simp [difunde, h, ih]

/-- The bit for the reason of `m` in the mask of its kind, in the column of the role. -/
def AsyncConfig.deja (config : AsyncConfig) (columna : Fin 2) : Aviso → Bool
  | m@(.packetIn ..) => (config.packetInMask columna).toNat.testBit m.razon
  | m@(.portStatus ..) => (config.portStatusMask columna).toNat.testBit m.razon
  | m@(.flowRemoved ..) => (config.flowRemovedMask columna).toNat.testBit m.razon

/-- **Whether a controller wants a message**: slaves have the second column and want none but
    port-status messages. -/
def Remote.Quiere (r : Remote) (m : Aviso) : Prop :=
  if r.role = .slave then m.type = 12 ∧ r.config.deja 1 m else r.config.deja 0 m

/-- **What a master or an equal misses**: a port-status message about a port the third byte of whose
    number is that of a reason for the removal of flows it does not want to hear of. -/
def Remote.Pierde (r : Remote) : Aviso → Prop
  | .portStatus _ portNo _ => r.role ≠ .slave ∧
    suprimida (r.config.flowRemovedMask 0) 5 (portNo.toNat / 256 % 256) = true
  | _ => False

instance (r : Remote) (m : Aviso) : Decidable (r.Quiere m) := by
  unfold Remote.Quiere
  infer_instance

@[simp] theorem suprimida_eq_false {mask : UInt32} {n reason : Nat} (h : reason < n) :
    suprimida mask n reason = false ↔ mask.toNat.testBit reason = true := by
  rw [suprimida, decide_eq_true h, Bool.true_and, Nat.and_two_pow]
  cases mask.toNat.testBit reason <;> simp

section Octetos

open BigEndian

theorem octeto_type (m : Aviso) : octeto m.pack 1 = m.type := by
  cases m <;> rfl

theorem octeto_packetIn (bufferId : UInt32) (totalLen : UInt16) (reason : PacketInReason)
    (resto : Bytes) :
    octeto (Aviso.packetIn bufferId totalLen reason resto).pack 14 = reason.ctorIdx := by
  cases reason <;> rfl

theorem octeto_portStatus (reason : PortReason) (portNo : UInt32) (resto : Bytes) :
    octeto (Aviso.portStatus reason portNo resto).pack 8 = reason.ctorIdx := by
  cases reason <;> rfl

theorem octeto_flowRemoved (cookie : UInt64) (priority : UInt16) (reason : FlowRemovedReason)
    (resto : Bytes) :
    octeto (Aviso.flowRemoved cookie priority reason resto).pack 18 = reason.ctorIdx := by
  cases reason <;> rfl

/-- Where flow-removed messages have their reason, port-status messages have a byte of the number of
    the port. -/
theorem octeto_portNo (reason : PortReason) (portNo : UInt32) (resto : Bytes) :
    octeto (Aviso.portStatus reason portNo resto).pack 18 = portNo.toNat / 256 % 256 := by
  rfl

end Octetos

/-- **The body of the loop**, for a message of the switch. -/
theorem acepta_iff (r : Remote) (m : Aviso) :
    r.acepta m.pack = true ↔ r.Quiere m ∧ ¬r.Pierde m := by
  have h3 : ∀ x : PacketInReason, x.ctorIdx < 3 := fun x => by cases x <;> decide
  have h3' : ∀ x : PortReason, x.ctorIdx < 3 := fun x => by cases x <;> decide
  have h5 : ∀ x : FlowRemovedReason, x.ctorIdx < 5 := fun x => by cases x <;> decide
  unfold Remote.acepta Remote.Quiere
  rw [octeto_type]
  cases hrole : r.role <;> cases m <;>
    simp [Aviso.type, Remote.Pierde, AsyncConfig.deja, Aviso.razon, octeto_packetIn,
      octeto_portStatus, octeto_flowRemoved, octeto_portNo, hrole, h3, h3', h5]

/-- **Async filtering.** A message goes, once each, to the controllers that want it by their masks
and roles, but for port-status messages that a mask for flow-removed messages keeps back
(`Remote.Pierde`). -/
theorem async_filtering (s : Switch Mt) {orden : List Nat} (hnd : orden.Nodup)
    (hmem : ∀ r, r ∈ orden ↔ (s.remotes r).isSome) (m : Aviso) :
    (s.sendOpenflowBuffer orden m.pack).Nodup ∧
    ∀ r rem, s.remotes r = some rem →
      (r ∈ s.sendOpenflowBuffer orden m.pack ↔ rem.Quiere m ∧ ¬rem.Pierde m) ∧
      ((r ∈ s.sendOpenflowBuffer orden m.pack ↔ rem.Quiere m) ↔
        ¬(rem.Quiere m ∧ rem.Pierde m)) := by
  have hmap : (orden.filterMap fun r => (s.remotes r).map (r, ·)).map (·.1) = orden := by
    rw [List.map_filterMap]
    have hsome : ∀ r ∈ orden, ((s.remotes r).map (r, ·)).map (·.1) = some r := fun r hr => by
      obtain ⟨rem, hrem⟩ := Option.isSome_iff_exists.mp ((hmem r).mp hr)
      rw [hrem]
      rfl
    rw [List.filterMap_congr hsome, List.filterMap_some]
  unfold Switch.sendOpenflowBuffer
  rw [difunde_eq, Option.toList_none, List.nil_append]
  refine ⟨(hnd.sublist ?_), fun r rem hrem => ?_⟩
  · have hsub := (List.filter_sublist (p := fun x : Nat × Remote => x.2.acepta m.pack)
      (l := orden.filterMap fun r => (s.remotes r).map (r, ·))).map (·.1)
    rwa [hmap] at hsub
  · suffices hiff : r ∈ _ ↔ rem.Quiere m ∧ ¬rem.Pierde m from ⟨hiff, by rw [hiff]; tauto⟩
    rw [← acepta_iff]
    simp only [List.mem_map, List.mem_filter, List.mem_filterMap, Option.map_eq_some_iff]
    constructor
    · rintro ⟨_, ⟨⟨r', _, rem', hrem', rfl⟩, hac⟩, rfl⟩
      rw [hrem] at hrem'
      cases hrem'
      exact hac
    · intro hac
      have hr := (hmem r).mpr (by rw [hrem]; rfl)
      exact ⟨(r, rem), ⟨⟨r, hr, rem, hrem, rfl⟩, hac⟩, rfl⟩

def dosMandos : Switch Unit :=
  (Switch.encendido.conRemote 0 ⟨.master, .todas, none, 0⟩).conRemote 1 ⟨.slave, .todas, none, 0⟩

theorem async_filtering_packetIn :
    0 ∈ dosMandos.sendOpenflowBuffer [0, 1] (Aviso.packetIn 0 64 .action []).pack ∧
    1 ∉ dosMandos.sendOpenflowBuffer [0, 1] (Aviso.packetIn 0 64 .action []).pack := by
  have hmem : ∀ r, r ∈ [0, 1] ↔ (dosMandos.remotes r).isSome := fun r => by
    rcases r with _ | _ | r <;> simp [dosMandos, Switch.encendido, Switch.create, Switch.conRemote]
  obtain ⟨_, h⟩ := async_filtering dosMandos (by decide) hmem (.packetIn 0 64 .action [])
  exact ⟨(h 0 _ rfl).1.mpr ⟨by decide, not_false⟩,
    fun hr => absurd ((h 1 _ rfl).1.mp hr).1 (by decide)⟩

/-- **Port-status messages depend on the mask for flow-removed messages**: a controller that asks
for all but these does not hear that port 1 has been added. -/
theorem async_filtering_fails : ∃ (s : Switch Unit) (rem : Remote),
    Run (Switch.paso sinCampos) (fun _ _ => True) .encendido s ∧ s.remotes 0 = some rem ∧
    rem.role = .equal ∧ rem.Quiere (.portStatus .add 1 []) ∧
    s.sendOpenflowBuffer [0] (Aviso.portStatus .add 1 []).pack = [] ∧
    (s.conRemote 0 { rem with config := .todas }).sendOpenflowBuffer [0]
      (Aviso.portStatus .add 1 []).pack = [0] :=
  Run.exists_exec_and _ _ [.conecta 0, .mensaje (.de 0 [])
    (.setAsync { AsyncConfig.todas with flowRemovedMask := fun _ => 0 })] _ _ (by decide)

end TcpPath.Udatapath
