/-
  Subject:   The datapath as a whole and dp_control.c: `handle_control_msg` with its handlers, those
             of pipeline.c, dp_exp.c and datapath.c among them.

  Results:   `multipart_replies`: the slots of a reply are assigned once each;
             `slave_isolation`: what the message of a slave can change.
-/
import TcpPath.OpenFlow.Multipart
import TcpPath.OpenFlow.PacketIn

namespace TcpPath.Udatapath

open Util

variable {Mt P : Type}

/-! ## 1. State and messages -/

/-- `OFPCR_ROLE_EQUAL`, `OFPCR_ROLE_MASTER` and `OFPCR_ROLE_SLAVE`. -/
inductive Role where
  | equal
  | master
  | slave
  deriving DecidableEq, Repr

/-- `struct ofl_table_features`; `resto` is its name, metadata and properties. -/
structure TableFeatures where
  tableId : Nat
  config : Nat
  maxEntries : Nat
  resto : Bytes
  deriving DecidableEq, Repr

/-- `struct ofl_async_config`. -/
structure AsyncConfig where
  packetInMask : Fin 2 → UInt32
  portStatusMask : Fin 2 → UInt32
  flowRemovedMask : Fin 2 → UInt32

/-- The body of a table-features request, which may be NULL. -/
abbrev Cuerpo := Option (List TableFeatures)

/-- `struct remote`. -/
structure Remote where
  role : Role
  config : AsyncConfig
  mpReqMsg : Option Cuerpo
  mpReqXid : UInt32

/-- `struct ofl_config`. -/
structure OflConfig where
  flags : UInt16
  missSendLen : UInt16
  deriving DecidableEq, Repr

/-- `struct datapath`. -/
structure Switch (Mt : Type) where
  dp : Dp Mt Action MeterBand
  features : Fin pipelineTables → TableFeatures
  disabled : Fin pipelineTables → Bool
  puertos : Puertos
  config : OflConfig
  dpDesc : Bytes
  generationId : UInt64
  remotes : Nat → Option Remote
  almacen : Almacen

/-- `struct ofl_msg_packet_out`. -/
structure PacketOut where
  bufferId : UInt32
  actions : List Action
  dataLength : Nat

/-- Multipart requests by their type. -/
inductive MultipartRequest where
  | desc
  | flow
  | aggregate
  | table
  | tableFeatures (more : Bool) (body : Cuerpo)
  | stats (req : StatsRequest)
  | groupFeatures
  | meterFeatures
  | experimenter
  | otro

/-- Experimenter messages: those of `OPENFLOW_VENDOR_ID`, and others. -/
inductive ExpMsg where
  | queueModify (msg : QueueMsg)
  | queueDelete (msg : QueueMsg)
  | setDesc (dpDesc : Bytes)
  | otro

/-- A message that has been unpacked, by its type. `badType` are the types only a switch sends and
    those there are not. -/
inductive ControlMsg (Mt : Type) where
  | hello
  | barrierRequest
  | barrierReply
  | featuresRequest
  | getConfigRequest
  | setConfig (config : OflConfig)
  | packetOut (msg : PacketOut)
  | flowMod (mod : FlowMod Mt Action)
  | groupMod (mod : GroupMod Action)
  | portMod (msg : PortMod)
  | tableMod (tableId config : Nat)
  | multipartRequest (req : MultipartRequest)
  | echoRequest
  | echoReply
  | queueGetConfigRequest (port : Nat)
  | roleRequest (role : Nat) (generationId : UInt64)
  | meterMod (mod : MeterMod MeterBand)
  | experimenter (msg : ExpMsg)
  | getAsyncRequest
  | setAsync (config : AsyncConfig)
  | badType

/-- Who sent a message and when it came; the order in which maps are walked then, and whether the
    network device does what it is asked for. -/
structure Recibo where
  remote : Nat
  xid : UInt32
  now : Nat
  ordenG : List Nat
  ordenM : List Nat
  hecho : Bool

/-- The checks of actions look at the ports there are. -/
def Conmutador.conPuertos (c : Conmutador Mt P) (s : Puertos) : Conmutador Mt P :=
  { c with hayPuerto := fun portNo => (s.dpPortsLookup portNo).isSome }

/-! ## 2. Handlers -/

def badRequest (code : Nat) : OflErr := ⟨.badRequest, .otro code⟩

/-- `OFPET_TABLE_FEATURES_FAILED`. -/
def tableFeaturesFailed (code : Nat) : OflErr := ⟨.otro 13, .otro code⟩

/-- `OFPET_ROLE_REQUEST_FAILED`. -/
def roleRequestFailed (code : Nat) : OflErr := ⟨.otro 11, .otro code⟩

def flowTableMaxEntries : Nat := 4096

namespace Switch

/-- A handler of Datapath.lean. -/
def conDp (s : Switch Mt) : Except OflErr (Dp Mt Action MeterBand) → Switch Mt × Option OflErr
  | .ok d => ({ s with dp := d }, none)
  | .error e => (s, some e)

/-- A handler of DpPorts.lean. -/
def conPuertos (s : Switch Mt) (x : Puertos × Option OflErr) : Switch Mt × Option OflErr :=
  ({ s with puertos := x.1 }, x.2)

/-- The state of a controller is changed. -/
def conRemote (s : Switch Mt) (r : Nat) (rem : Remote) : Switch Mt :=
  { s with remotes := Function.update s.remotes r (some rem) }

/-- `handle_control_set_config`. -/
def handleControlSetConfig (s : Switch Mt) (config : OflConfig) : Switch Mt :=
  let flags := config.flags &&& 3
  { s with config := ⟨if flags ≠ 0 ∧ flags ≠ 1 then 1 else flags, config.missSendLen⟩ }

/-- `handle_control_packet_out`. -/
def handleControlPacketOut (c : Conmutador Mt P) (s : Switch Mt) (slave : Bool) (msg : PacketOut) :
    Option (Switch Mt × Option OflErr) :=
  if slave then some (s, some ⟨.badRequest, .brcIsSlave⟩)
  else
    match dpActionsValidate c.entorno s.dp.groups msg.actions with
    | some e => some (s, some e)
    | none =>
      if msg.bufferId = noBuffer then
        some (s, if msg.dataLength = 0 then some (badRequest 12) else none)
      else do
        let (almacen, q) ← s.almacen.dpBuffersRetrieve msg.bufferId
        return ({ s with almacen }, if q.isNone then some (badRequest 7) else none)

/-- `pipeline_handle_flow_mod`, with the buffered packet it sends through the tables. -/
def pipelineHandleFlowMod (c : Conmutador Mt P) (s : Switch Mt) (slave : Bool)
    (mod : FlowMod Mt Action) (now : Nat) : Option (Switch Mt × Option OflErr) :=
  match s.dp.pipelineHandleFlowMod c.entorno slave mod now with
  | .error e => some (s, some e)
  | .ok dp =>
    if (mod.command = .add ∨ mod.command = .modify ∨ mod.command = .modifyStrict) ∧
        mod.bufferId.toUInt32 ≠ noBuffer then do
      let (almacen, _) ← s.almacen.dpBuffersRetrieve mod.bufferId.toUInt32
      return ({ s with dp, almacen }, none)
    else some ({ s with dp }, none)

/-- `pipeline_handle_table_mod`. -/
def pipelineHandleTableMod (s : Switch Mt) (slave : Bool) (tableId config : Nat) :
    Option (Switch Mt × Option OflErr) :=
  if slave then some (s, some ⟨.badRequest, .brcIsSlave⟩)
  else if tableId = ofpttAll then
    some ({ s with features := fun t => { s.features t with config } }, none)
  else do
    let t ← tablaDe tableId
    return ({ s with features := Function.update s.features t { s.features t with config } }, none)

/-- `ofl_msg_merge_multipart_request_table_features`. -/
def mergeTableFeatures (orig merge : Cuerpo) : Cuerpo :=
  match merge.getD [] with
  | [] => orig
  | l => some (orig.getD [] ++ l)

/-- The tables of a request that is complete are put in place of those there are. That their numbers
    ascend is checked against a number that stays 0. -/
def aplicaTableFeatures (s : Switch Mt) (body : Cuerpo) : Switch Mt × Option OflErr :=
  match body with
  | none => (s, none)
  | some l =>
    if l.any fun f => flowTableMaxEntries < f.maxEntries then (s, some (tableFeaturesFailed 4))
    else
      ({ s with
          features := fun t => (l.reverse.find? (·.tableId == t.val)).getD (s.features t)
          disabled := fun t => !l.any (·.tableId == t.val) }, none)

/-- `pipeline_handle_stats_request_table_features_request`. -/
def pipelineHandleTableFeaturesRequest (s : Switch Mt) (a : Recibo) (rem : Remote) (more : Bool)
    (body : Cuerpo) : Switch Mt × Option OflErr :=
  if (body.getD []).any fun f => pipelineTables ≤ f.tableId then (s, some (tableFeaturesFailed 0))
  else
    match rem.mpReqMsg with
    | some orig =>
      if a.xid ≠ rem.mpReqXid then (s, some (badRequest 13))
      else
        let feat := mergeTableFeatures orig body
        if more then (s.conRemote a.remote { rem with mpReqMsg := some feat }, none)
        else
          let (s, e) := s.aplicaTableFeatures feat
          (s.conRemote a.remote { rem with mpReqMsg := none, mpReqXid := 0 }, e)
    | none =>
      if more then
        (s.conRemote a.remote
          { rem with mpReqMsg := some (mergeTableFeatures none body), mpReqXid := a.xid }, none)
      else s.aplicaTableFeatures body

/-- `handle_control_stats_request`. -/
def handleControlStatsRequest (s : Switch Mt) (a : Recibo) (rem : Remote) :
    MultipartRequest → Switch Mt × Option OflErr
  | .tableFeatures more body => s.pipelineHandleTableFeaturesRequest a rem more body
  | .stats req =>
    match statsRequest s.dp s.puertos a.ordenG a.ordenM req with
    | .ok _ => (s, none)
    | .error e => (s, some e)
  | .desc | .flow | .aggregate | .table | .groupFeatures | .meterFeatures => (s, none)
  | .experimenter => (s, some (badRequest 3))
  | .otro => (s, some (badRequest 2))

/-- `dp_ports_handle_queue_get_config_request`. -/
def dpPortsHandleQueueGetConfigRequest (s : Switch Mt) (port : Nat) :
    Option (Switch Mt × Option OflErr) :=
  if port = ofppAny then some (s, none)
  else
    match s.puertos.dpPortsLookup port with
    | none => some (s, some (queueOpFailed 0))
    | some ptr => do
      let p ← s.puertos.get ptr
      return (s, if p.portNo ≠ port then some (queueOpFailed 0) else none)

/-- `dp_check_generation_id`; that `generation_id` is not negative is always so. -/
def staleGenerationId (s : Switch Mt) (new : UInt64) : Bool :=
  decide (2 ^ 63 ≤ (new - s.generationId).toNat)

/-- Old masters become slaves. -/
def cede (rem : Remote) : Remote :=
  if rem.role = .master then { rem with role := .slave } else rem

/-- `dp_handle_role_request`. -/
def dpHandleRoleRequest (s : Switch Mt) (r : Nat) (rem : Remote) (role : Nat)
    (generationId : UInt64) : Switch Mt × Option OflErr :=
  match role with
  | 0 => (s, none)
  | 1 => (s.conRemote r { rem with role := .equal }, none)
  | 2 =>
    if s.staleGenerationId generationId then (s, some (roleRequestFailed 0))
    else
      let s := { s with generationId, remotes := fun r' => (s.remotes r').map cede }
      (s.conRemote r { rem with role := .master }, none)
  | 3 =>
    if s.staleGenerationId generationId then (s, some (roleRequestFailed 0))
    else ({ s with generationId }.conRemote r { rem with role := .slave }, none)
  | _ => (s, some (roleRequestFailed 2))

def descStrLen : Nat := 256

/-- `dp_exp_message`, with `dp_handle_set_desc`. -/
def dpExpMessage (s : Switch Mt) (a : Recibo) : ExpMsg → Switch Mt × Option OflErr
  | .queueModify msg => s.conPuertos (s.puertos.dpPortsHandleQueueModify msg a.hecho a.now)
  | .queueDelete msg => s.conPuertos (s.puertos.dpPortsHandleQueueDelete msg)
  | .setDesc dpDesc => ({ s with dpDesc := dpDesc.take (descStrLen - 1) }, none)
  | .otro => (s, some (badRequest 3))

/-- `handle_control_msg`. -/
def handleControlMsg (c : Conmutador Mt P) (s : Switch Mt) (a : Recibo) (msg : ControlMsg Mt) :
    Option (Switch Mt × Option OflErr) := do
  let rem ← s.remotes a.remote
  let slave := decide (rem.role = .slave)
  let c := c.conPuertos s.puertos
  match msg with
  | .hello | .barrierRequest | .barrierReply | .featuresRequest | .getConfigRequest
  | .echoRequest | .echoReply | .getAsyncRequest => return (s, none)
  | .setConfig config => return (s.handleControlSetConfig config, none)
  | .packetOut msg => s.handleControlPacketOut c slave msg
  | .flowMod mod => s.pipelineHandleFlowMod c slave mod a.now
  | .groupMod mod =>
    if slave ∨ a.ordenG.isPerm s.dp.groups.ids then
      return s.conDp (s.dp.groupTableHandleGroupMod c.entorno slave mod a.ordenG a.now)
    else none
  | .meterMod mod =>
    if slave ∨ a.ordenM.isPerm s.dp.meters.ids then
      return s.conDp (s.dp.meterTableHandleMeterMod slave mod a.ordenM a.now)
    else none
  | .portMod msg => (s.puertos.dpPortsHandlePortMod slave msg).map s.conPuertos
  | .tableMod tableId config => s.pipelineHandleTableMod slave tableId config
  | .multipartRequest req => return s.handleControlStatsRequest a rem req
  | .queueGetConfigRequest port => s.dpPortsHandleQueueGetConfigRequest port
  | .roleRequest role generationId =>
    return s.dpHandleRoleRequest a.remote rem role generationId
  | .experimenter msg => return s.dpExpMessage a msg
  | .setAsync config => return (s.conRemote a.remote { rem with config }, none)
  | .badType => return (s, some (badRequest 1))

end Switch

/-! ## 3. Events -/

/-- `memset` of a mask, byte by byte. -/
def AsyncConfig.todas : AsyncConfig := ⟨fun _ => 0x07070707, fun _ => 0x07070707,
  fun _ => 0x1f1f1f1f⟩

/-- `remote_create`. -/
def remoteCreate : Remote := ⟨.equal, .todas, none, 0⟩

/-- The length of packet-ins for table misses is that of the configuration. -/
def Trafico.conMissSendLen (missSendLen : UInt16) : Trafico → Trafico
  | .avisa _ q salida => .avisa missSendLen q salida
  | e => e

/-- What happens to a switch. -/
inductive Evento (Mt P : Type) where
  | mensaje (a : Recibo) (msg : ControlMsg Mt)
  | timeout (t : Fin pipelineTables) (now : Nat)
  | lookup (t : Fin pipelineTables) (pkt : P) (now : Nat)
  | trafico (e : Trafico)
  | addPort (dev : Option EthAddr) (now : Nat)
  | addLocal (dev : Option EthAddr) (now : Nat)
  | enlace (ptr : PortPtr) (linkDown : Bool)
  | conecta (r : Nat)
  | desconecta (r : Nat)

namespace Switch

/-- `dp_new`; `resto` is what `flow_table_create` writes besides. -/
def create (bandsNum : UInt64) (maxQueues : Nat) (resto : Fin pipelineTables → Bytes)
    (dpDesc : Bytes) (now : Nat) : Switch Mt where
  dp := .create bandsNum
  features t := ⟨t.val, 3, flowTableMaxEntries, resto t⟩
  disabled _ := false
  puertos := .create maxQueues
  config := ⟨0, ofpDefaultMissSendLen⟩
  dpDesc := dpDesc
  generationId := 0xffffffffffffffff
  remotes _ := none
  almacen := .inicio now

/-- **One event.** -/
def paso (c : Conmutador Mt P) (s : Switch Mt) : Evento Mt P → Option (Switch Mt)
  | .mensaje a msg => (s.handleControlMsg c a msg).map Prod.fst
  | .timeout t now => some { s with dp := s.dp.flowTableTimeout t now }
  | .lookup t pkt now =>
    some { s with dp := s.dp.conTabla t fun table => (table.lookup c.entorno pkt now).1 }
  | .trafico e =>
    (s.almacen.paso (e.conMissSendLen s.config.missSendLen)).map ({ s with almacen := · })
  | .addPort dev now => some { s with puertos := s.puertos.dpPortsAdd dev now }
  | .addLocal dev now => some { s with puertos := s.puertos.dpPortsAddLocal dev now }
  | .enlace ptr linkDown => some { s with puertos := s.puertos.conEnlace ptr linkDown }
  | .conecta r => if s.remotes r = none then some (s.conRemote r remoteCreate) else none
  | .desconecta r => some { s with remotes := Function.update s.remotes r none }

/-! ## 4. What messages do to tables and ports -/

section Cambia

variable {c : Conmutador Mt P} {s s' : Switch Mt} {a : Recibo} {rem : Remote}

/-- **What a message does to tables and ports.** -/
inductive Cambia (env : Entorno Mt Action P) (s s' : Switch Mt) : Prop where
  | nada (hdp : s'.dp = s.dp) (hp : s'.puertos = s.puertos)
  | flowMod {slave : Bool} {mod : FlowMod Mt Action} {now : Nat}
      (hdp : s.dp.pipelineHandleFlowMod env slave mod now = .ok s'.dp) (hp : s'.puertos = s.puertos)
  | groupMod {mod : GroupMod Action} {orden : List Nat} {now : Nat}
      (hdp : Dp.GrupoCambia env mod orden now s.dp s'.dp) (hp : s'.puertos = s.puertos)
  | meterMod {mod : MeterMod MeterBand} {orden : List Nat} {now : Nat}
      (hdp : Dp.MetroCambia mod orden now s.dp s'.dp) (hp : s'.puertos = s.puertos)
  | queueModify {msg : QueueMsg} {hecho : Bool} {now : Nat} (hdp : s'.dp = s.dp)
      (hp : s'.puertos = (s.puertos.dpPortsHandleQueueModify msg hecho now).1)
  | queueDelete {msg : QueueMsg} (hdp : s'.dp = s.dp)
      (hp : s'.puertos = (s.puertos.dpPortsHandleQueueDelete msg).1)
  | portMod {slave : Bool} {msg : PortMod} {e : Option OflErr} (hdp : s'.dp = s.dp)
      (hp : s.puertos.dpPortsHandlePortMod slave msg = some (s'.puertos, e))

/-- Tables, ports and buffers are the same. -/
structure MismoDatapath (s s' : Switch Mt) : Prop where
  dp : s'.dp = s.dp
  puertos : s'.puertos = s.puertos
  almacen : s'.almacen = s.almacen

/-- The features of the tables and the configuration are the same, too. -/
structure MismaConfig (s s' : Switch Mt) : Prop extends MismoDatapath s s' where
  features : s'.features = s.features
  disabled : s'.disabled = s.disabled
  config : s'.config = s.config

theorem MismoDatapath.rfl : s.MismoDatapath s := ⟨Eq.refl _, Eq.refl _, Eq.refl _⟩

theorem mismo_aplicaTableFeatures (s : Switch Mt) (body : Cuerpo) :
    s.MismoDatapath (s.aplicaTableFeatures body).1 := by
  unfold aplicaTableFeatures
  split
  · exact .rfl
  · split <;> exact ⟨rfl, rfl, rfl⟩

theorem mismo_tableFeaturesRequest (s : Switch Mt) (a : Recibo) (rem : Remote) (more : Bool)
    (body : Cuerpo) : s.MismoDatapath (s.pipelineHandleTableFeaturesRequest a rem more body).1 := by
  unfold pipelineHandleTableFeaturesRequest
  split
  · exact .rfl
  · split
    · split
      · exact .rfl
      · dsimp only
        split
        · exact ⟨rfl, rfl, rfl⟩
        · obtain ⟨hdp, hp, ha⟩ := s.mismo_aplicaTableFeatures (mergeTableFeatures _ body)
          exact ⟨hdp, hp, ha⟩
    · split
      · exact ⟨rfl, rfl, rfl⟩
      · exact s.mismo_aplicaTableFeatures body

theorem mismo_handleControlStatsRequest (s : Switch Mt) (a : Recibo) (rem : Remote)
    (req : MultipartRequest) : s.MismoDatapath (s.handleControlStatsRequest a rem req).1 := by
  cases req with
  | tableFeatures more body => exact s.mismo_tableFeaturesRequest a rem more body
  | stats req =>
    rw [handleControlStatsRequest]
    split <;> exact .rfl
  | _ => exact .rfl

theorem mismaConfig_dpHandleRoleRequest (s : Switch Mt) (r : Nat) (rem : Remote) (role : Nat)
    (generationId : UInt64) :
    s.MismaConfig (s.dpHandleRoleRequest r rem role generationId).1 := by
  unfold dpHandleRoleRequest
  split
  · exact ⟨.rfl, rfl, rfl, rfl⟩
  · exact ⟨⟨rfl, rfl, rfl⟩, rfl, rfl, rfl⟩
  · split <;> exact ⟨⟨rfl, rfl, rfl⟩, rfl, rfl, rfl⟩
  · split <;> exact ⟨⟨rfl, rfl, rfl⟩, rfl, rfl, rfl⟩
  · exact ⟨.rfl, rfl, rfl, rfl⟩

variable {slave : Bool} {e : Option OflErr} {now : Nat}

theorem dp_handleControlPacketOut {msg : PacketOut}
    (h : s.handleControlPacketOut c slave msg = some (s', e)) :
    s'.dp = s.dp ∧ s'.puertos = s.puertos ∧ s'.remotes = s.remotes := by
  unfold handleControlPacketOut at h
  split at h
  · cases h
    exact ⟨rfl, rfl, rfl⟩
  · split at h
    · cases h
      exact ⟨rfl, rfl, rfl⟩
    · split at h
      · cases h
        exact ⟨rfl, rfl, rfl⟩
      · obtain ⟨_, _, h⟩ := Option.bind_eq_some_iff.mp h
        cases h
        exact ⟨rfl, rfl, rfl⟩

theorem dp_pipelineHandleFlowMod {mod : FlowMod Mt Action}
    (h : s.pipelineHandleFlowMod c slave mod now = some (s', e)) :
    s' = s ∨ s.dp.pipelineHandleFlowMod c.entorno slave mod now = .ok s'.dp ∧
      s'.puertos = s.puertos ∧ s'.remotes = s.remotes := by
  unfold pipelineHandleFlowMod at h
  split at h
  · cases h
    exact .inl rfl
  · rename_i hdp
    split at h
    · obtain ⟨_, _, h⟩ := Option.bind_eq_some_iff.mp h
      cases h
      exact .inr ⟨hdp, rfl, rfl⟩
    · cases h
      exact .inr ⟨hdp, rfl, rfl⟩

theorem dp_pipelineHandleTableMod {tableId config : Nat}
    (h : s.pipelineHandleTableMod slave tableId config = some (s', e)) :
    s'.dp = s.dp ∧ s'.puertos = s.puertos ∧ s'.remotes = s.remotes := by
  unfold pipelineHandleTableMod at h
  split at h
  · cases h
    exact ⟨rfl, rfl, rfl⟩
  · split at h
    · cases h
      exact ⟨rfl, rfl, rfl⟩
    · obtain ⟨_, _, h⟩ := Option.bind_eq_some_iff.mp h
      cases h
      exact ⟨rfl, rfl, rfl⟩

theorem conDp_ok {x : Except OflErr (Dp Mt Action MeterBand)} (h : s.conDp x = (s', e)) :
    s' = s ∨ x = .ok s'.dp ∧ s'.puertos = s.puertos ∧ s'.remotes = s.remotes := by
  cases x with
  | error =>
    cases h
    exact .inl rfl
  | ok d =>
    cases h
    exact .inr ⟨rfl, rfl, rfl⟩

theorem eq_of_queueGetConfigRequest {port : Nat}
    (h : s.dpPortsHandleQueueGetConfigRequest port = some (s', e)) : s' = s := by
  unfold dpPortsHandleQueueGetConfigRequest at h
  split at h
  · cases h
    rfl
  · split at h
    · cases h
      rfl
    · obtain ⟨_, _, h⟩ := Option.bind_eq_some_iff.mp h
      cases h
      rfl

theorem dpExpMessage_cambia (env : Entorno Mt Action P) (s : Switch Mt) (a : Recibo)
    (msg : ExpMsg) : Cambia env s (s.dpExpMessage a msg).1 := by
  cases msg with
  | queueModify msg => exact .queueModify rfl rfl
  | queueDelete msg => exact .queueDelete rfl rfl
  | setDesc dpDesc => exact .nada rfl rfl
  | otro => exact .nada rfl rfl

/-- **The dispatcher**, as far as tables and ports are concerned. -/
theorem handleControlMsg_cambia {msg : ControlMsg Mt}
    (h : s.handleControlMsg c a msg = some (s', e)) :
    Cambia (c.conPuertos s.puertos).entorno s s' := by
  obtain ⟨rem, _, h⟩ := Option.bind_eq_some_iff.mp h
  cases msg with
  | packetOut msg =>
    obtain ⟨hdp, hp, _⟩ := dp_handleControlPacketOut h
    exact .nada hdp hp
  | flowMod mod =>
    rcases dp_pipelineHandleFlowMod h with rfl | ⟨hdp, hp, _⟩
    · exact .nada rfl rfl
    · exact .flowMod hdp hp
  | groupMod mod =>
    obtain ⟨_, h⟩ := Option.ite_none_right_eq_some.mp h
    rcases conDp_ok (Option.some.inj h) with rfl | ⟨hdp, hp, _⟩
    · exact .nada rfl rfl
    · exact .groupMod (Dp.groupTableHandleGroupMod_ok hdp) hp
  | meterMod mod =>
    obtain ⟨_, h⟩ := Option.ite_none_right_eq_some.mp h
    rcases conDp_ok (Option.some.inj h) with rfl | ⟨hdp, hp, _⟩
    · exact .nada rfl rfl
    · exact .meterMod (Dp.meterTableHandleMeterMod_ok hdp) hp
  | portMod msg =>
    obtain ⟨x, hx, h⟩ := Option.map_eq_some_iff.mp h
    cases h
    exact .portMod rfl hx
  | tableMod tableId config =>
    obtain ⟨hdp, hp, _⟩ := dp_pipelineHandleTableMod h
    exact .nada hdp hp
  | multipartRequest req =>
    obtain rfl := congrArg Prod.fst (Option.some.inj h)
    have hm := s.mismo_handleControlStatsRequest a rem req
    exact .nada hm.dp hm.puertos
  | queueGetConfigRequest port =>
    obtain rfl := eq_of_queueGetConfigRequest h
    exact .nada rfl rfl
  | roleRequest role generationId =>
    obtain rfl := congrArg Prod.fst (Option.some.inj h)
    have hm := s.mismaConfig_dpHandleRoleRequest a.remote rem role generationId
    exact .nada hm.dp hm.puertos
  | experimenter msg =>
    obtain rfl := congrArg Prod.fst (Option.some.inj h)
    exact s.dpExpMessage_cambia _ a msg
  | _ =>
    cases h
    exact .nada rfl rfl

theorem bien_flujos {d d' : Dp Mt Action MeterBand} {puertos : Puertos} (h : Bien d puertos)
    (hm : d.MismasTablas d') : Bien d' puertos :=
  ⟨h.grupos.of_sinRefs hm.grupos, h.metros.of_sinRefs hm.metros, h.puertos⟩

/-- **The counters after a message.** -/
theorem Cambia.bien {env : Entorno Mt Action P} (hc : Cambia env s s') (h : Bien s.dp s.puertos) :
    Bien s'.dp s'.puertos := by
  have hf : Dp.Flujos env _ fun d d' : Dp Mt Action MeterBand => d.MismasTablas d' :=
    Dp.flujos_sinRefs env
  cases hc with
  | nada hdp hp => rwa [hdp, hp]
  | flowMod hdp hp =>
    rw [hp]
    exact bien_flujos h (hf.pipelineHandleFlowMod (fun _ _ _ => trivial) hdp)
  | groupMod hdp hp =>
    obtain ⟨⟨g, hg, heq⟩, hm⟩ := hdp.tablas
    rw [hp]
    exact ⟨(Dp.numera_cambioGrupos h.grupos hg).of_sinRefs heq, h.metros.of_sinRefs hm, h.puertos⟩
  | meterMod hdp hp =>
    obtain ⟨⟨m, hm, heq⟩, hg⟩ := hdp.tablas env
    rw [hp]
    exact ⟨h.grupos.of_sinRefs hg, (Dp.numera_cambioMetros h.metros hm).of_sinRefs heq, h.puertos⟩
  | queueModify hdp hp =>
    rw [hdp, hp]
    exact ⟨h.grupos, h.metros, h.puertos.dpPortsHandleQueueModify ..⟩
  | queueDelete hdp hp =>
    rw [hdp, hp]
    exact ⟨h.grupos, h.metros, h.puertos.dpPortsHandleQueueDelete _⟩
  | portMod hdp hp =>
    rw [hdp]
    exact ⟨h.grupos, h.metros, h.puertos.dpPortsHandlePortMod hp⟩

theorem bien_create (bandsNum : UInt64) (maxQueues : Nat) (resto : Fin pipelineTables → Bytes)
    (dpDesc : Bytes) (now : Nat) :
    Bien (create bandsNum maxQueues resto dpDesc now : Switch Mt).dp
      (create bandsNum maxQueues resto dpDesc now : Switch Mt).puertos :=
  ⟨RefTable.numera_vacia .., RefTable.numera_vacia .., Puertos.sana_create maxQueues⟩

theorem bien_paso {e : Evento Mt P} (hp : s.paso c e = some s') (h : Bien s.dp s.puertos) :
    Bien s'.dp s'.puertos := by
  have hf : Dp.Flujos c.entorno _ fun d d' : Dp Mt Action MeterBand => d.MismasTablas d' :=
    Dp.flujos_sinRefs c.entorno
  cases e with
  | mensaje a msg =>
    obtain ⟨x, hx, rfl⟩ := Option.map_eq_some_iff.mp hp
    exact (handleControlMsg_cambia hx).bien h
  | timeout t now =>
    cases hp
    exact bien_flujos h (hf.flowTableTimeout t now s.dp)
  | lookup t pkt now =>
    cases hp
    exact bien_flujos h (hf.lookup s.dp t pkt now)
  | trafico e =>
    obtain ⟨_, _, rfl⟩ := Option.map_eq_some_iff.mp hp
    exact h
  | addPort dev now =>
    cases hp
    exact ⟨h.grupos, h.metros, h.puertos.dpPortsAdd dev now⟩
  | addLocal dev now =>
    cases hp
    exact ⟨h.grupos, h.metros, h.puertos.dpPortsAddLocal dev now⟩
  | enlace ptr linkDown =>
    cases hp
    exact ⟨h.grupos, h.metros, h.puertos.conEnlace ptr linkDown⟩
  | conecta r =>
    obtain ⟨_, hp⟩ := Option.ite_none_right_eq_some.mp hp
    cases hp
    exact h
  | desconecta r =>
    cases hp
    exact h

/-- **The counters in every state that can be reached.** -/
theorem bien_run {ok : Switch Mt → Evento Mt P → Prop} {bandsNum : UInt64} {maxQueues : Nat}
    {resto : Fin pipelineTables → Bytes} {dpDesc : Bytes}
    (h : Run (paso c) ok (create bandsNum maxQueues resto dpDesc now) s) : Bien s.dp s.puertos :=
  h.invariant (I := fun s : Switch Mt => Bien s.dp s.puertos) (bien_create ..)
    fun _ _ _ hs _ hp => bien_paso hp hs

end Cambia

end Switch

/-! ## 5. Replies -/

/-- **Multipart replies are well formed**: the slots allocated are assigned once each and hold what
was asked for; `stats_num` is their number, but for the configuration of one meter. -/
theorem multipart_replies {c : Conmutador Mt P} {s : Switch Mt} {bandsNum : UInt64}
    {maxQueues : Nat} {resto : Fin pipelineTables → Bytes} {dpDesc : Bytes} {now : Nat}
    (hrun : Run (Switch.paso c) (fun _ _ => True)
      (.create bandsNum maxQueues resto dpDesc now) s)
    {ordenG ordenM : List Nat} (hG : ordenG.Perm s.dp.groups.ids)
    (hM : ordenM.Perm s.dp.meters.ids) {req : StatsRequest} {r : Respuesta Objeto}
    (hr : statsRequest s.dp s.puertos ordenG ordenM req = .ok r) :
    (r.BienHecha ↔ ¬CuentaDeMas s.dp req) ∧ r.Asignada ∧ r.contenido.Nodup ∧
      ∀ o, o ∈ r.contenido ↔ Pedido s.dp s.puertos req o := by
  have hb := Switch.bien_run hrun
  have hda := statsRequest_da hb hG hM hr
  refine ⟨?_, hda.asignada, hda.unaVez, hda.mem⟩
  exact (and_iff_left hda.asignada).trans (statsRequest_statsNum hb hM hr)

/-- A switch at its start. -/
def Switch.encendido : Switch Unit := .create 0 netdevMaxQueues (fun _ => []) [] 0

/-- A message at time 0, when there are no groups. -/
def Recibo.de (remote : Nat) (ordenM : List Nat) : Recibo := ⟨remote, 0, 0, [], ordenM, true⟩

/-- Two ports and a queue: the reply about all queues has one slot, with this one. -/
theorem multipart_replies_cola : ∃ (s : Switch Unit) (r : Respuesta Objeto),
    Run (Switch.paso sinCampos) (fun _ _ => True) .encendido s ∧
    statsRequest s.dp s.puertos [] [] (.queue ofppAny ofpqAll) = .ok r ∧
    r.BienHecha ∧ r.huecos = 1 ∧ ∀ o, o ∈ r.contenido ↔ Pedido s.dp s.puertos
      (.queue ofppAny ofpqAll) o := by
  obtain ⟨s, hrun, hg, hm, hn⟩ := Run.exists_exec (Switch.paso sinCampos) (fun _ _ => True)
    [.addPort (some 5) 0, .addPort (some 6) 0, .conecta 0,
      .mensaje (.de 0 []) (.experimenter (.queueModify ⟨2, 3, 10⟩))] .encendido
    (fun s => s.dp.groups.ids = [] ∧ s.dp.meters.ids = [] ∧
      (s.puertos.dpPortsHandleStatsRequestQueue ofppAny ofpqAll).huecos = 1)
    (by decide)
  have hr : statsRequest s.dp s.puertos [] [] (.queue ofppAny ofpqAll) = .ok _ := rfl
  obtain ⟨hok, _, _, hmem⟩ := multipart_replies hrun (List.Perm.of_eq hg.symm)
    (List.Perm.of_eq hm.symm) hr
  exact ⟨s, _, hrun, hr, hok.mpr not_false, hn, hmem⟩

/-- **`stats_num` of the configuration of one meter** is the number of all meters: with two, the
    reply announces two and has one. -/
theorem multipart_replies_fails : ∃ (s : Switch Unit) (r : Respuesta Objeto),
    Run (Switch.paso sinCampos) (fun _ _ => True) .encendido s ∧
    statsRequest s.dp s.puertos [] [2, 1] (.meterConfig 1) = .ok r ∧
    r.statsNum = 2 ∧ r.huecos = 1 ∧ r.escritos.length = 1 ∧ ¬r.BienHecha := by
  obtain ⟨s, r, hrun, hr, hn, hh, hl⟩ := Run.exists_exec_and (Switch.paso sinCampos)
    (fun _ _ => True)
    [.conecta 0, .mensaje (.de 0 []) (.meterMod ⟨.add, 1, [.drop 5 0]⟩),
      .mensaje (.de 0 [1]) (.meterMod ⟨.add, 2, [.drop 7 0]⟩)] .encendido
    (fun s r => statsRequest s.dp s.puertos [] [2, 1] (.meterConfig 1) = .ok r ∧
      r.statsNum = 2 ∧ r.huecos = 1 ∧ r.escritos.length = 1)
    (by decide)
  refine ⟨s, r, hrun, hr, hn, hh, hl, fun hbien => ?_⟩
  cases hn.symm.trans (hbien.1.trans hh)

/-! ## 6. Slaves -/

namespace Remote

/-- The body of a table-features request with what has come before. -/
def cuerpo (rem : Remote) (body : Cuerpo) : Cuerpo :=
  match rem.mpReqMsg with
  | some orig => Switch.mergeTableFeatures orig body
  | none => body

end Remote

namespace Switch

/-- The request would change nothing: the tables it has are enabled and have these features, and
    the others are disabled. -/
def SinEfecto (s : Switch Mt) (l : List TableFeatures) : Prop :=
  ∀ t, (l.reverse.find? (·.tableId == t.val)).getD (s.features t) = s.features t ∧
    s.disabled t = !l.any (·.tableId == t.val)

/-- A complete request with this body leaves the tables alone: it has none, or is refused, or
    changes nothing. -/
def CuerpoInocuo (s : Switch Mt) (body : Cuerpo) : Prop :=
  ∀ l, body = some l → (∃ f ∈ l, flowTableMaxEntries < f.maxEntries) ∨ s.SinEfecto l

end Switch

/-- Of the queues, nothing is changed: there is no such port, or the queue has this rate, or the
    device refuses it, or the port cannot have the queue. -/
def Puertos.ModifyInocuo (s : Puertos) (hecho : Bool) (msg : QueueMsg) : Prop :=
  match s.enUso msg.portId with
  | none => True
  | some (_, p) =>
    match p.dpPortsLookupQueue msg.queueId with
    | some (_, q) => hecho = true → q.rate = msg.rate
    | none => p.maxQueues ≤ msg.queueId ∨ netdevMaxQueues ≤ msg.queueId

/-- There is no such queue to delete. -/
def Puertos.DeleteInocuo (s : Puertos) (msg : QueueMsg) : Prop :=
  match s.enUso msg.portId with
  | none => True
  | some (_, p) => p.dpPortsLookupQueue msg.queueId = none

/-- **What a message of a slave may be** for it to change nothing but what belongs to the slave. The
    role is looked at by none of the functions behind the first five cases. -/
def ControlMsg.Inocuo (s : Switch Mt) (a : Recibo) (rem : Remote) : ControlMsg Mt → Prop
  | .setConfig config =>
    s.config = ⟨if config.flags &&& 3 = 0 then 0 else 1, config.missSendLen⟩
  | .multipartRequest (.tableFeatures more body) =>
    (∃ f ∈ body.getD [], pipelineTables ≤ f.tableId) ∨ more = true ∨
      (rem.mpReqMsg ≠ none ∧ a.xid ≠ rem.mpReqXid) ∨ s.CuerpoInocuo (rem.cuerpo body)
  | .experimenter (.queueModify msg) => s.puertos.ModifyInocuo a.hecho msg
  | .experimenter (.queueDelete msg) => s.puertos.DeleteInocuo msg
  | .experimenter (.setDesc dpDesc) => s.dpDesc = dpDesc.take (Switch.descStrLen - 1)
  | .roleRequest role generationId =>
    role = 2 ∨ role = 3 → s.staleGenerationId generationId = true ∨
      (generationId = s.generationId ∧ (role = 2 → ∀ r ≠ a.remote, ∀ rem',
        s.remotes r = some rem' → rem'.role ≠ .master))
  | _ => True

namespace Puertos

variable {s : Puertos} {ptr : PortPtr} {p p' : Puerto} {msg : QueueMsg}

theorem con_eq_self_iff (hp : s.get ptr = some p) : s.con p' ptr = s ↔ p' = p := by
  constructor
  · intro h
    have hget := s.get_con p' ptr ptr
    rw [h, hp, if_pos rfl] at hget
    exact (Option.some.inj hget).symm
  · rintro rfl
    cases ptr with
    | loc => exact congrArg (fun x => { s with localPort := x }) hp.symm
    | num n =>
      have hp : s.ports n = some p' := hp
      show { s with ports := Function.update s.ports n (some p') } = s
      rw [← hp, Function.update_eq_self]

theorem dpPortsLookupQueue_eq_some {p : Puerto} {id : Nat} {i : Fin netdevMaxQueues} {q : SwQueue}
    (h : p.dpPortsLookupQueue id = some (i, q)) : p.queues i = some q := by
  unfold Puerto.dpPortsLookupQueue at h
  split at h
  · split at h
    · obtain ⟨q', hq', heq⟩ := Option.map_eq_some_iff.mp h
      cases heq
      exact hq'
    · cases h
  · cases h

theorem conRate_eq_self_iff {p : Puerto} {i : Fin netdevMaxQueues} {q : SwQueue} {rate : Nat}
    (hq : p.queues i = some q) : p.conRate i rate = p ↔ q.rate = rate := by
  unfold Puerto.conRate
  constructor
  · intro h
    have hi : Function.update p.queues i _ i = p.queues i :=
      congrFun (congrArg Puerto.queues h) i
    rw [Function.update_self, hq, Option.map_some] at hi
    exact (congrArg SwQueue.rate (Option.some.inj hi)).symm
  · rintro rfl
    rw [hq, Option.map_some, ← hq, Function.update_eq_self]

/-- A queue that is not there is added unless its number is too high. -/
theorem portAddQueue_cases {p : Puerto} {id : Nat} (rate now : Nat)
    (hq : p.dpPortsLookupQueue id = none) :
    ((p.maxQueues ≤ id ∨ netdevMaxQueues ≤ id) ∧ p.portAddQueue id rate now = none) ∨
      (¬(p.maxQueues ≤ id ∨ netdevMaxQueues ≤ id) ∧
        ∃ i, p.queues i = none ∧ p.portAddQueue id rate now = some (p.newQueue i rate now)) := by
  unfold Puerto.portAddQueue
  by_cases hmax : p.maxQueues ≤ id
  · exact .inl ⟨.inl hmax, if_pos hmax⟩
  by_cases hdev : id < netdevMaxQueues
  · rw [Puerto.dpPortsLookupQueue, if_pos (by omega), dif_pos hdev,
      Option.map_eq_none_iff] at hq
    refine .inr ⟨by omega, ⟨id, hdev⟩, hq, ?_⟩
    rw [if_neg hmax, dif_pos hdev, hq, if_neg (by simp)]
  · refine .inl ⟨.inr (by omega), ?_⟩
    rw [if_neg hmax, dif_neg hdev]

theorem queueModify_eq_self_iff {hecho : Bool} {now : Nat} :
    (s.dpPortsHandleQueueModify msg hecho now).1 = s ↔ s.ModifyInocuo hecho msg := by
  unfold dpPortsHandleQueueModify ModifyInocuo
  cases hu : s.enUso msg.portId with
  | none => exact iff_of_true rfl trivial
  | some x =>
    obtain ⟨_, hp⟩ := enUso_eq_some hu
    dsimp only
    cases hq : x.2.dpPortsLookupQueue msg.queueId with
    | some y =>
      cases hecho with
      | false => exact iff_of_true rfl fun h => absurd h Bool.false_ne_true
      | true =>
        dsimp only
        rw [if_pos rfl, con_eq_self_iff hp, conRate_eq_self_iff (dpPortsLookupQueue_eq_some hq)]
        exact ⟨fun h _ => h, fun h => h rfl⟩
    | none =>
      dsimp only
      rcases portAddQueue_cases msg.rate now hq with ⟨hno, hadd⟩ | ⟨hsi, i, hi, hadd⟩
      · rw [hadd]
        exact iff_of_true rfl hno
      · rw [hadd]
        refine iff_of_false (fun h => ?_) hsi
        have hnew : Function.update x.2.queues i (some _) i = x.2.queues i :=
          congrFun (congrArg Puerto.queues ((con_eq_self_iff hp).mp h)) i
        rw [Function.update_self, hi] at hnew
        cases hnew

theorem queueDelete_eq_self_iff :
    (s.dpPortsHandleQueueDelete msg).1 = s ↔ s.DeleteInocuo msg := by
  unfold dpPortsHandleQueueDelete DeleteInocuo
  cases hu : s.enUso msg.portId with
  | none => exact iff_of_true rfl trivial
  | some x =>
    obtain ⟨_, hp⟩ := enUso_eq_some hu
    dsimp only
    cases hq : x.2.dpPortsLookupQueue msg.queueId with
    | none => exact iff_of_true rfl rfl
    | some y =>
      refine iff_of_false (fun h => ?_) (Option.some_ne_none y)
      have hdel : Function.update x.2.queues y.1 none y.1 = x.2.queues y.1 :=
        congrFun (congrArg Puerto.queues ((con_eq_self_iff hp).mp h)) y.1
      rw [Function.update_self, dpPortsLookupQueue_eq_some hq] at hdel
      cases hdel

end Puertos

namespace Switch

section Slave

variable {c : Conmutador Mt P} {s s' : Switch Mt} {a : Recibo} {rem : Remote}

/-- All but what belongs to controller `r` is the same. -/
def SoloSuyo (r : Nat) (s s' : Switch Mt) : Prop := ∃ rem, s' = s.conRemote r rem

theorem soloSuyo_self (hrem : s.remotes a.remote = some rem) : s.SoloSuyo a.remote s :=
  ⟨rem, by rw [conRemote, ← hrem, Function.update_eq_self]⟩

theorem SoloSuyo.mismaConfig {r : Nat} (h : s.SoloSuyo r s') : s.MismaConfig s' := by
  obtain ⟨_, rfl⟩ := h
  exact ⟨⟨rfl, rfl, rfl⟩, rfl, rfl, rfl⟩

theorem SoloSuyo.resto {r : Nat} (h : s.SoloSuyo r s') :
    s'.generationId = s.generationId ∧ s'.dpDesc = s.dpDesc ∧
      ∀ r' ≠ r, s'.remotes r' = s.remotes r' := by
  obtain ⟨_, rfl⟩ := h
  exact ⟨rfl, rfl, fun r' hr' => Function.update_of_ne hr' ..⟩

theorem soloSuyo_setConfig (hrem : s.remotes a.remote = some rem) (config : OflConfig) :
    s.SoloSuyo a.remote (s.handleControlSetConfig config) ↔
      s.config = ⟨if config.flags &&& 3 = 0 then 0 else 1, config.missSendLen⟩ := by
  have hflags : ∀ flags : UInt16, (if flags ≠ 0 ∧ flags ≠ 1 then 1 else flags) =
      if flags = 0 then 0 else 1 := by
    intro flags
    grind
  unfold handleControlSetConfig
  simp only [hflags]
  constructor
  · intro h
    exact h.mismaConfig.config.symm
  · intro h
    rw [← h]
    exact soloSuyo_self hrem

theorem aplicaTableFeatures_shape (s : Switch Mt) (body : Cuerpo) :
    (s.aplicaTableFeatures body).1 =
      { s with
        features := (s.aplicaTableFeatures body).1.features
        disabled := (s.aplicaTableFeatures body).1.disabled } := by
  unfold aplicaTableFeatures
  split
  · rfl
  · split <;> rfl

theorem aplicaTableFeatures_eq_self_iff {body : Cuerpo} :
    ((s.aplicaTableFeatures body).1.features = s.features ∧
      (s.aplicaTableFeatures body).1.disabled = s.disabled) ↔ s.CuerpoInocuo body := by
  unfold aplicaTableFeatures CuerpoInocuo
  cases body with
  | none => exact iff_of_true ⟨rfl, rfl⟩ fun _ h => nomatch h
  | some l =>
    simp only [Option.some.injEq, forall_eq']
    split
    · rename_i hany
      obtain ⟨f, hf, hmax⟩ := List.any_eq_true.mp hany
      exact iff_of_true ⟨rfl, rfl⟩ (.inl ⟨f, hf, of_decide_eq_true hmax⟩)
    · rename_i hany
      have hno : ¬∃ f ∈ l, flowTableMaxEntries < f.maxEntries := by
        rintro ⟨f, hf, hmax⟩
        exact hany (List.any_eq_true.mpr ⟨f, hf, decide_eq_true hmax⟩)
      rw [or_iff_right hno]
      unfold SinEfecto
      rw [forall_and]
      exact and_congr funext_iff (eq_comm.trans funext_iff)

/-- **A table-features request**, of whomever. -/
theorem soloSuyo_tableFeaturesRequest (hrem : s.remotes a.remote = some rem) {more : Bool}
    {body : Cuerpo} :
    s.SoloSuyo a.remote (s.pipelineHandleTableFeaturesRequest a rem more body).1 ↔
      (∃ f ∈ body.getD [], pipelineTables ≤ f.tableId) ∨ more = true ∨
        (rem.mpReqMsg ≠ none ∧ a.xid ≠ rem.mpReqXid) ∨ s.CuerpoInocuo (rem.cuerpo body) := by
  -- what is put in place is the same, or the request has an effect
  have haplica : ∀ body s', (s' = (s.aplicaTableFeatures body).1 ∨
      ∃ rem', s' = (s.aplicaTableFeatures body).1.conRemote a.remote rem') →
      (s.SoloSuyo a.remote s' ↔ s.CuerpoInocuo body) := by
    intro body s' hs'
    have hshape := s.aplicaTableFeatures_shape body
    rw [← aplicaTableFeatures_eq_self_iff]
    constructor
    · intro h
      have hm := h.mismaConfig
      rcases hs' with rfl | ⟨rem', rfl⟩
      · exact ⟨hm.features, hm.disabled⟩
      · exact ⟨hm.features, hm.disabled⟩
    · rintro ⟨hf, hd⟩
      rw [hf, hd] at hshape
      rcases hs' with rfl | ⟨rem', rfl⟩
      · rw [hshape]
        exact soloSuyo_self hrem
      · exact ⟨rem', congrArg (·.conRemote a.remote rem') hshape⟩
  unfold pipelineHandleTableFeaturesRequest
  split
  · rename_i hany
    obtain ⟨f, hf, hmax⟩ := List.any_eq_true.mp hany
    exact iff_of_true (soloSuyo_self hrem) (.inl ⟨f, hf, of_decide_eq_true hmax⟩)
  · rename_i hany
    have hno : ¬∃ f ∈ body.getD [], pipelineTables ≤ f.tableId := by
      rintro ⟨f, hf, hmax⟩
      exact hany (List.any_eq_true.mpr ⟨f, hf, decide_eq_true hmax⟩)
    rw [or_iff_right hno]
    unfold Remote.cuerpo
    cases hmp : rem.mpReqMsg with
    | some orig =>
      dsimp only
      by_cases hxid : a.xid ≠ rem.mpReqXid
      · rw [if_pos hxid]
        exact iff_of_true (soloSuyo_self hrem) (.inr (.inl ⟨Option.some_ne_none _, hxid⟩))
      · rw [if_neg hxid]
        cases more with
        | true => exact iff_of_true ⟨_, rfl⟩ (.inl rfl)
        | false =>
          rw [or_iff_right Bool.false_ne_true, or_iff_right fun h => hxid h.2]
          exact haplica _ _ (.inr ⟨_, rfl⟩)
    | none =>
      cases more with
      | true => exact iff_of_true ⟨_, rfl⟩ (.inl rfl)
      | false =>
        rw [or_iff_right Bool.false_ne_true, or_iff_right fun h => h.1 rfl]
        exact haplica _ _ (.inl rfl)

theorem cede_eq_self_iff {rem : Remote} : cede rem = rem ↔ rem.role ≠ .master := by
  unfold cede
  split
  · rename_i hm
    refine iff_of_false (fun h => ?_) fun h => h hm
    have hrole := congrArg Remote.role h
    rw [hm] at hrole
    cases hrole
  · rename_i hm
    exact iff_of_true rfl hm

/-- **A role request**, of whomever. -/
theorem soloSuyo_dpHandleRoleRequest (hrem : s.remotes a.remote = some rem) {role : Nat}
    {generationId : UInt64} :
    s.SoloSuyo a.remote (s.dpHandleRoleRequest a.remote rem role generationId).1 ↔
      (role = 2 ∨ role = 3 → s.staleGenerationId generationId = true ∨
        (generationId = s.generationId ∧ (role = 2 → ∀ r ≠ a.remote, ∀ rem',
          s.remotes r = some rem' → rem'.role ≠ .master))) := by
  unfold dpHandleRoleRequest
  split
  · exact iff_of_true (soloSuyo_self hrem) fun h => by omega
  · exact iff_of_true ⟨_, rfl⟩ fun h => by omega
  · cases hst : s.staleGenerationId generationId with
    | true => exact iff_of_true (soloSuyo_self hrem) fun _ => .inl rfl
    | false =>
      simp only [Bool.false_eq_true, if_false, false_or, true_or, forall_const]
      constructor
      · intro h
        obtain ⟨hgen, _, hotros⟩ := h.resto
        refine ⟨hgen, fun r hr rem' hrem' => ?_⟩
        have hr' : Function.update (fun r' => (s.remotes r').map cede) a.remote _ r =
            s.remotes r := hotros r hr
        rw [Function.update_of_ne hr, hrem'] at hr'
        exact cede_eq_self_iff.mp (Option.some.inj hr')
      · rintro ⟨rfl, hotros⟩
        refine ⟨{ rem with role := .master }, ?_⟩
        have hremotes : Function.update (fun r' => (s.remotes r').map cede) a.remote
            (some { rem with role := .master }) =
              Function.update s.remotes a.remote (some { rem with role := .master }) := by
          funext r
          by_cases hr : r = a.remote
          · rw [hr, Function.update_self, Function.update_self]
          · rw [Function.update_of_ne hr, Function.update_of_ne hr]
            cases hrem' : s.remotes r with
            | none => rfl
            | some rem' => exact congrArg some (cede_eq_self_iff.mpr (hotros r hr rem' hrem'))
        exact congrArg (fun remotes => { s with remotes := remotes }) hremotes
  · cases hst : s.staleGenerationId generationId with
    | true => exact iff_of_true (soloSuyo_self hrem) fun _ => .inl rfl
    | false =>
      constructor
      · intro h _
        exact .inr ⟨h.resto.1, fun h => by omega⟩
      · intro h
        obtain ⟨rfl, _⟩ := (h (.inr rfl)).resolve_left Bool.false_ne_true
        exact ⟨_, rfl⟩
  · rename_i h2 h3
    refine iff_of_true (soloSuyo_self hrem) fun h => ?_
    rcases h with rfl | rfl
    · exact absurd rfl h2
    · exact absurd rfl h3

variable {msg : ControlMsg Mt}

/-- What always stays, and when all but what belongs to the sender does. -/
structure Aislada (rem : Remote) (a : Recibo) (msg : ControlMsg Mt) (s s' : Switch Mt) : Prop where
  dp : s'.dp = s.dp
  almacen : s'.almacen = s.almacen
  suyo : s.SoloSuyo a.remote s' ↔ msg.Inocuo s a rem

theorem aislada_dpExpMessage (hrem : s.remotes a.remote = some rem) (msg : ExpMsg) :
    Aislada rem a (.experimenter msg) s (s.dpExpMessage a msg).1 := by
  -- only the ports and the description can change here
  have hpuertos : ∀ puertos, s.SoloSuyo a.remote { s with puertos := puertos } ↔
      puertos = s.puertos := by
    intro puertos
    refine ⟨fun h => h.mismaConfig.puertos, ?_⟩
    rintro rfl
    exact soloSuyo_self hrem
  cases msg with
  | queueModify msg => exact ⟨rfl, rfl, (hpuertos _).trans Puertos.queueModify_eq_self_iff⟩
  | queueDelete msg => exact ⟨rfl, rfl, (hpuertos _).trans Puertos.queueDelete_eq_self_iff⟩
  | setDesc dpDesc =>
    refine ⟨rfl, rfl, fun h => h.resto.2.1.symm, fun h => ?_⟩
    have hdesc : s.dpDesc = dpDesc.take (descStrLen - 1) := h
    show s.SoloSuyo a.remote { s with dpDesc := dpDesc.take (descStrLen - 1) }
    rw [← hdesc]
    exact soloSuyo_self hrem
  | otro => exact ⟨rfl, rfl, iff_of_true (soloSuyo_self hrem) trivial⟩

theorem aislada_handleControlMsg (hrem : s.remotes a.remote = some rem) (hrole : rem.role = .slave)
    {e : Option OflErr} (h : s.handleControlMsg c a msg = some (s', e)) :
    Aislada rem a msg s s' := by
  have hself : ∀ {msg : ControlMsg Mt}, msg.Inocuo s a rem → Aislada rem a msg s s :=
    fun hin => ⟨rfl, rfl, iff_of_true (soloSuyo_self hrem) hin⟩
  unfold handleControlMsg at h
  rw [hrem, Option.bind_eq_bind, Option.bind_some, decide_eq_true hrole] at h
  cases msg with
  | setConfig config =>
    cases h
    exact ⟨rfl, rfl, soloSuyo_setConfig hrem config⟩
  | multipartRequest req =>
    obtain rfl := congrArg Prod.fst (Option.some.inj h)
    have hm := s.mismo_handleControlStatsRequest a rem req
    refine ⟨hm.dp, hm.almacen, ?_⟩
    cases req with
    | tableFeatures more body => exact soloSuyo_tableFeaturesRequest hrem
    | stats req =>
      rw [handleControlStatsRequest]
      split <;> exact iff_of_true (soloSuyo_self hrem) trivial
    | _ => exact iff_of_true (soloSuyo_self hrem) trivial
  | queueGetConfigRequest port =>
    obtain rfl := eq_of_queueGetConfigRequest h
    exact hself trivial
  | roleRequest role generationId =>
    obtain rfl := congrArg Prod.fst (Option.some.inj h)
    have hm := s.mismaConfig_dpHandleRoleRequest a.remote rem role generationId
    exact ⟨hm.dp, hm.almacen, soloSuyo_dpHandleRoleRequest hrem⟩
  | experimenter msg =>
    obtain rfl := congrArg Prod.fst (Option.some.inj h)
    exact aislada_dpExpMessage hrem msg
  | setAsync config =>
    cases h
    exact ⟨rfl, rfl, iff_of_true ⟨_, rfl⟩ trivial⟩
  | _ =>
    cases h
    exact hself trivial

theorem exists_handleControlMsg (hrem : s.remotes a.remote = some rem) (hrole : rem.role = .slave)
    (hs : s.puertos.Sana) (msg : ControlMsg Mt) :
    ∃ s' e, s.handleControlMsg c a msg = some (s', e) := by
  unfold handleControlMsg
  rw [hrem, Option.bind_eq_bind, Option.bind_some, decide_eq_true hrole]
  cases msg with
  | queueGetConfigRequest port =>
    show ∃ s' e, s.dpPortsHandleQueueGetConfigRequest port = some (s', e)
    unfold dpPortsHandleQueueGetConfigRequest
    split
    · exact ⟨_, _, rfl⟩
    · split
      · exact ⟨_, _, rfl⟩
      · rename_i hl
        obtain ⟨p, hp⟩ := hs.get_of_lookup hl
        rw [hp]
        exact ⟨_, _, rfl⟩
  | _ => exact ⟨_, _, rfl⟩

end Slave

end Switch

/-- **Slave isolation.** A slave is answered, and flow tables, groups, meters and buffers stay. So
does all the rest but what belongs to the slave, exactly if its message is one of
`ControlMsg.Inocuo`. -/
theorem slave_isolation {c : Conmutador Mt P} {s : Switch Mt} {a : Recibo} {rem : Remote}
    (hrem : s.remotes a.remote = some rem) (hrole : rem.role = .slave) (hs : s.puertos.Sana)
    (msg : ControlMsg Mt) :
    ∃ s' e, s.handleControlMsg c a msg = some (s', e) ∧ s'.dp = s.dp ∧ s'.almacen = s.almacen ∧
      (s.SoloSuyo a.remote s' ↔ msg.Inocuo s a rem) := by
  obtain ⟨s', e, h⟩ := Switch.exists_handleControlMsg (c := c) (a := a) hrem hrole hs msg
  obtain ⟨hdp, halm, hsuyo⟩ := Switch.aislada_handleControlMsg hrem hrole h
  exact ⟨s', e, h, hdp, halm, hsuyo⟩

def masterYSlave : List (Evento Unit Nat) :=
  [.addPort (some 5) 0, .conecta 0, .conecta 1, .mensaje (.de 0 []) (.roleRequest 2 1),
    .mensaje (.de 1 []) (.roleRequest 3 1)]

/-- A slave asks for a port to be shut down: it is told that it is a slave, and that is all. -/
theorem slave_isolation_portMod : ∃ (s s' : Switch Unit) (e : Option OflErr),
    Run (Switch.paso sinCampos) (fun _ _ => True) .encendido s ∧
    s.handleControlMsg sinCampos (.de 1 []) (.portMod ⟨1, 5, 1, 1⟩) = some (s', e) ∧
    e = some ⟨.badRequest, .brcIsSlave⟩ ∧ s.SoloSuyo 1 s' := by
  obtain ⟨s, rem, hrun, hrem, hrole, hmsg⟩ := Run.exists_exec_and
    (Switch.paso sinCampos) (fun _ _ => True) masterYSlave .encendido
    (fun s rem => s.remotes 1 = some rem ∧ rem.role = .slave ∧
      (s.handleControlMsg sinCampos (.de 1 []) (.portMod ⟨1, 5, 1, 1⟩)).map Prod.snd =
        some (some ⟨.badRequest, .brcIsSlave⟩))
    (by decide)
  obtain ⟨s', e, h, _, _, hsuyo⟩ := slave_isolation (c := sinCampos) (a := .de 1 []) hrem hrole
    (Switch.bien_run hrun).puertos (.portMod ⟨1, 5, 1, 1⟩)
  rw [h] at hmsg
  exact ⟨s, s', e, hrun, h, Option.some.inj hmsg, hsuyo.mpr trivial⟩

/-- **Slaves reconfigure the switch**: controller 1 is a slave, and changes `miss_send_len`,
    disables all tables but one, adds a queue, and makes a slave of the master. -/
theorem slave_isolation_fails : ∃ (s : Switch Unit) (rem : Remote),
    Run (Switch.paso sinCampos) (fun _ _ => True) .encendido s ∧
    s.remotes 1 = some rem ∧ rem.role = .slave ∧
    (∃ s' e, s.handleControlMsg sinCampos (.de 1 []) (.setConfig ⟨0, 0⟩) = some (s', e) ∧
      s.config.missSendLen = 128 ∧ s'.config.missSendLen = 0) ∧
    (∃ s' e, s.handleControlMsg sinCampos (.de 1 [])
        (.multipartRequest (.tableFeatures false (some [⟨7, 0, 1, []⟩]))) = some (s', e) ∧
      s.disabled ⟨0, by decide⟩ = false ∧ s'.disabled ⟨0, by decide⟩ = true ∧
      (s.features ⟨7, by decide⟩).maxEntries = 4096 ∧
      (s'.features ⟨7, by decide⟩).maxEntries = 1) ∧
    (∃ s' e, s.handleControlMsg sinCampos (.de 1 [])
        (.experimenter (.queueModify ⟨1, 3, 10⟩)) = some (s', e) ∧
      (s.puertos.ports 1).map (·.numQueues) = some 0 ∧
      (s'.puertos.ports 1).map (·.numQueues) = some 1) ∧
    ∃ s' e, s.handleControlMsg sinCampos (.de 1 []) (.roleRequest 2 2) = some (s', e) ∧
      (s.remotes 0).map (·.role) = some .master ∧ (s'.remotes 0).map (·.role) = some .slave :=
  Run.exists_exec_and _ _ masterYSlave _ _ (by set_option synthInstance.maxSize 400 in decide)

end TcpPath.Udatapath
