/-
  Subject:   The UAH pipeline of pipeline.c: `pipeline_process_Uah`, `pipeline_arp_path`,
             `pipeline_tcp_path` and the recovery functions they call.

  The compile-time switches of the source are a `Config`; its tables and counters are a `Switch`.
  A function returns the switch afterwards and what it did, in order (`Efecto`). The result is
  `none` where the source reads through a NULL header pointer, through a slot of `dp->ports`
  without a port, or in a packet it has destroyed.

  `now` is the one clock reading of the frame. The OpenFlow flow tables are a parameter
  (`Tablas`): what they do to the frame before the UAH part sees it. `controlador` is 0 and
  `RECOVERY_DIST` 1 in the source: the branches for other values are left out, and so are the
  time stamps of the recovery measurement.
-/
import TcpPath.Tables.Tcp
import TcpPath.Ports

namespace TcpPath

/-! ## 1. Configuration and state -/

/-- The `#define`s `TCP_PATH` and `recuperacion`. -/
structure Config where
  tcpPath : Nat
  recuperacion : Bool
  deriving DecidableEq, Repr

def btTime : Nat := 15
def ltTime : Nat := 20
def tcpTime : Nat := 10
def timeRecovery : Nat := 1
def puertoElefante : Nat := 30000

/-- What a switch is built with: the packet decoder, the configuration and the ports. -/
structure Nodo where
  parse : Parser
  cfg : Config
  dp : Datapath

/-- The tables and counters of a running switch. -/
structure Switch where
  macPort : MacTable
  recoveryTable : MacTable
  neighborTable : MacTable
  tcpTable : TcpTable
  secuencePathGeneric : Nat
  puertoNoDisponible : Nat
  deriving DecidableEq, Repr

/-- The switch after `mac_to_port_new`, `table_tcp_new`. -/
def Switch.inicial : Switch := ⟨[], [], [], [], 0, 0⟩

inductive Efecto where
  | outputPort (pkt : Packet) (outPort : Nat)
  | packetDestroy
  | sendPacketRecovery (pkt : Packet) (opcion : Nat)
  deriving DecidableEq, Repr

/-- What the loop over the flow tables leaves: whether an entry matched, what its instructions
    did, and the packet if it is still to be processed (no entry matched in the last table). -/
structure TablasRes where
  acierto : Bool
  efectos : List Efecto
  pkt : Option Packet

abbrev Tablas := Packet → TablasRes

/-- Empty flow tables: the packet falls through unchanged. -/
def sinTablas : Tablas := fun pkt => ⟨false, [], some pkt⟩

/-- The directed 4-tuple of a TCP or PATH header at offset `t`, with destination `macDst`. -/
def Packet.keyTo (pkt : Packet) (macDst : EthAddr) (t : Nat) : CmpTableTcp :=
  ⟨pkt.ethSrc, macDst, pkt.tcpSrc t, pkt.tcpDst t⟩

/-- The 4-tuple of a TCP segment. -/
def Packet.key (pkt : Packet) (t : Nat) : CmpTableTcp := pkt.keyTo pkt.ethDst t

section Pipeline

variable (n : Nodo) (now : Nat)

/-! ## 2. ARP-Path -/

/-- The learning of `pipeline_arp_path` from a broadcast or multicast frame; `none` when the frame
    is discarded. `puertoMac` is what `mac_to_port_found_port` returned for its source. -/
def aprendeInundado (s : Switch) (pkt : Packet) (puertoMac : Option Nat) : Option MacTable :=
  if puertoMac = none then
    some (macToPortAddArpTable s.macPort pkt.ethSrc pkt.inPort btTime
      (isNeighbor s.neighborTable pkt.inPort) now)
  else if puertoMac = some pkt.inPort then
    some (macToPortTimeRefresh s.macPort pkt.ethSrc btTime now)
  else if macToPortCheckTimeout s.macPort pkt.ethSrc now ≠ 0 then
    some (macToPortUpdate s.macPort pkt.ethSrc pkt.inPort btTime now).2
  else none

/-- Learn or renew the source of a unicast frame for `LT_TIME`. -/
def aprendeLt (s : Switch) (pkt : Packet) (puertoMac : Option Nat) : MacTable :=
  if puertoMac = none then
    macToPortAddArpTable s.macPort pkt.ethSrc pkt.inPort ltTime
      (isNeighbor s.neighborTable pkt.inPort) now
  else if macToPortCheckTimeout s.macPort pkt.ethSrc now = 1 then
    (macToPortUpdate s.macPort pkt.ethSrc pkt.inPort ltTime now).2
  else macToPortTimeRefresh s.macPort pkt.ethSrc ltTime now

/-- The unicast frames `pipeline_arp_path` learns from: ARP replies and ARP-Path frames. -/
def ensenaUnicast (pkt : Packet) : Bool :=
  if pkt.ethType = 1544 ∨ pkt.proto.arppath.isSome then
    match pkt.proto.arp with
    | some a => pkt.arOpHigh a == 2
    | none => pkt.proto.arppath.isSome
  else false

/-- `dp->ports[port].conf->state == OFPPS_LIVE`. -/
def puertoVivo (dp : Datapath) (port : Nat) : Option Bool :=
  (dp.conf port).map fun p => p.state == ofppsLive

/-- Start of a repair for the destination of `pkt`, unless one is going on. -/
def iniciaRecuperacion (s : Switch) (pkt : Packet) (delete : MacTable → MacTable) :
    Switch × List Efecto :=
  let s := { s with puertoNoDisponible := if s.puertoNoDisponible = 0 then 1
                                          else s.puertoNoDisponible }
  if macToPortCheckTimeout s.recoveryTable pkt.ethDst now ≠ 0 then
    ({ s with
        recoveryTable := macToPortAdd s.recoveryTable pkt.ethDst pkt.inPort timeRecovery now
        macPort := delete s.macPort }, [.sendPacketRecovery pkt 1])
  else (s, [])

/-- `arp_path_send_unicast`. -/
def arpPathSendUnicast (s : Switch) (pkt : Packet) (outPort : Option Nat) :
    Option (Switch × List Efecto) :=
  match outPort with
  | some p =>
      if n.cfg.recuperacion = false then
        some ({ s with macPort := macToPortTimeRefresh s.macPort pkt.ethDst ltTime now },
          [.outputPort pkt p])
      else
        (puertoVivo n.dp p).map fun vivo =>
          if vivo then
            ({ s with
                puertoNoDisponible := if s.puertoNoDisponible = 1 then 2 else s.puertoNoDisponible
                macPort := macToPortTimeRefresh s.macPort pkt.ethDst ltTime now },
              [.outputPort pkt p])
          else iniciaRecuperacion now s pkt (macToPortDeletePort · p)
  | none =>
      if n.cfg.recuperacion = false then some (s, [])
      else some (iniciaRecuperacion now s pkt id)

/-- `pipeline_arp_path`. -/
def pipelineArpPath (s : Switch) (pkt : Packet) : Option (Switch × List Efecto) :=
  let r := macToPortFoundPort s.macPort pkt.ethSrc now
  let s := { s with macPort := r.2 }
  if pkt.isFlooded then
    match aprendeInundado now s pkt r.1 with
    | some t => some ({ s with macPort := t }, [.outputPort pkt ofppRandom])
    | none => some (s, [.packetDestroy])
  else
    let s := if ensenaUnicast pkt then { s with macPort := aprendeLt now s pkt r.1 } else s
    let r := macToPortFoundPort s.macPort pkt.ethDst now
    arpPathSendUnicast n now { s with macPort := r.2 } pkt r.1

/-! ## 3. TCP-Path -/

/-- `Found_date_in_pkt`: the port as the match of the packet has it, in host byte order. -/
def be16At (b : Bytes) (k : Nat) : Nat := 256 * (byteAt b k).toNat + (byteAt b (k + 1)).toNat

/-- `entrar_tcp`: does the segment with its TCP header at `t` take TCP-Path? -/
def entrarTcp (pkt : Packet) (t : Nat) : Option Bool :=
  if n.cfg.tcpPath = 1 then some true
  else if n.cfg.tcpPath = 2 then
    match pkt.proto.ipv4 with
    | none => none
    | some i =>
        if byteAt pkt.buffer (i + 1) ≠ 0 then some true
        else if pkt.tcpFlags t = tcpSynAck then
          some (decide (puertoElefante < be16At pkt.buffer t))
        else if pkt.tcpFlags t = tcpSyn then
          some (decide (puertoElefante < be16At pkt.buffer (t + 2)))
        else some false
  else some false

/-- Where the first half of `pipeline_tcp_path` leaves the packet. -/
inductive PasoTcp where
  | arp
  | descarta (s : Switch)
  | sigue (s : Switch) (pkt : Packet) (puertoMac : Option Nat)

/-- The lookup of a SYN: `none` when it came in through another port than the flow's. -/
def registraSyn (t : TcpTable) (key : CmpTableTcp) (inPort : Nat) : Option TcpTable :=
  match tableTcpFoundPortIn t key with
  | none => some (tableTcpAdd t key inPort tcpTime now)
  | some p => if p = inPort then some (tableTcpUpdateTime t key tcpTime now) else none

/-- `pipeline_tcp_path` of a TCP segment (`proto->tcp` at `t`), up to the send part. -/
def pasoSegmento (s : Switch) (pkt : Packet) (t : Nat) : Option PasoTcp :=
  match entrarTcp n pkt t with
  | none => none
  | some false => some .arp
  | some true =>
      let key := pkt.key t
      if pkt.tcpFlags t = tcpSynAck then
        let r := tableTcpUpdatePort s.tcpTable key pkt.inPort tcpTime now
        some (.sigue { s with tcpTable := r.2 } pkt (some r.1))
      else if pkt.tcpFlags t = tcpSyn then
        match registraSyn now s.tcpTable key pkt.inPort with
        | none => some (.descarta s)
        | some tabla =>
            let puertoMac := tableTcpFoundPortIn s.tcpTable key
            let s := { s with tcpTable := tabla }
            if dstIsNeighbor pkt s.macPort = 0 then
              (encapsulatePathRequestTcp n.parse n.dp.id s.secuencePathGeneric pkt).map fun r =>
                .sigue { s with secuencePathGeneric := r.2 } r.1 puertoMac
            else
              let r := macToPortFoundPort s.macPort pkt.ethDst now
              some (.sigue { s with macPort := r.2 } pkt r.1)
      else
        let r := tableTcpFoundPort s.tcpTable key
        some (.sigue { s with tcpTable := r.2 } pkt r.1)

/-- `select_packet_tcp_path`: the packet turned back into a TCP segment, and the table; the inner
    `none` is the discard (-1). -/
def selectPacketTcpPath (t : TcpTable) (pkt : Packet) : Option (Option (Packet × TcpTable)) :=
  match desencapsulatePathRequestTcp n.parse pkt pkt.trailerOp with
  | none => none
  | some pkt =>
      match pkt.proto.tcp with
      | none => none
      | some h =>
          let key := pkt.key h
          match tableTcpFoundPortIn t key with
          | none => some (some (pkt, tableTcpAdd t key pkt.inPort tcpTime now))
          | some p => some (if p = pkt.inPort then some (pkt, t) else none)

/-- `pipeline_tcp_path` of a PATH frame (`proto->path` at `h`), up to the send part. -/
def pasoPath (s : Switch) (pkt : Packet) (h : Nat) : Option PasoTcp :=
  let key := pkt.keyTo pkt.trailerMac h
  let puertoMac := tableTcpFoundPortIn s.tcpTable key
  if puertoMac = none ∨ puertoMac = some pkt.inPort then
    if dstIsNeighbor pkt s.macPort = 0 then
      let tabla := if puertoMac = none then tableTcpAdd s.tcpTable key pkt.inPort tcpTime now
                   else tableTcpUpdateTime s.tcpTable key tcpTime now
      some (.sigue { s with tcpTable := tabla } (switchTrackTcp n.parse pkt h) puertoMac)
    else
      match selectPacketTcpPath n now s.tcpTable pkt with
      | none => none
      | some none => some (.descarta s)
      | some (some (pkt, tabla)) =>
          let r := macToPortFoundPort s.macPort pkt.ethDst now
          some (.sigue { s with tcpTable := tabla, macPort := r.2 } pkt r.1)
  else some (.descarta s)

/-- What `recovery_tcp_path` leaves. -/
structure Recuperado where
  s : Switch
  pkt : Packet
  efectos : List Efecto
  destruido : Bool

/-- The segment `recovery_tcp_path` works on: a PATH frame is turned back first. -/
def segmentoDe (pkt : Packet) : Option Packet :=
  match pkt.proto.path with
  | some h => desencapsulatePathRequestTcp n.parse pkt (byteAt pkt.buffer (h + 20))
  | none => some pkt

/-- May `recovery_tcp_path` send to the ARP-Path port `outPort`? -/
def puertoDirecto (outPort puertoMac : Option Nat) : Option Bool :=
  match outPort with
  | some p => (puertoVivo n.dp p).map fun vivo =>
      (vivo || !n.cfg.recuperacion) && decide (puertoMac ≠ some p)
  | none => some false

/-- The last resort of `recovery_tcp_path`: the flow's own entry. Its lookup uses the local
    `port_dst`, which is always 0. -/
def recuperaPorFlujo (s : Switch) (pkt : Packet) (t : Nat) : Option Recuperado :=
  let f := tableTcpFoundPort s.tcpTable ⟨pkt.ethSrc, pkt.ethDst, pkt.tcpSrc t, 0⟩
  let s := { s with tcpTable := f.2 }
  match f.1 with
  | some p => (puertoVivo n.dp p).map fun vivo =>
      if vivo || !n.cfg.recuperacion then ⟨s, pkt, [.outputPort pkt p, .packetDestroy], true⟩
      else ⟨s, pkt, [], false⟩
  | none => some ⟨s, pkt, [], false⟩

/-- `recovery_tcp_path`. -/
def recoveryTcpPath (s : Switch) (pkt : Packet) (puertoMac : Option Nat) : Option Recuperado :=
  (segmentoDe n pkt).bind fun pkt => pkt.proto.tcp.bind fun t =>
    let r := macToPortFoundPort s.macPort pkt.ethDst now
    let s := { s with macPort := r.2 }
    (puertoDirecto n r.1 puertoMac).bind fun directo =>
      if directo ∨ srcIsNeighbor pkt s.macPort = 1 then
        (arpPathSendUnicast n now s pkt r.1).map fun u => ⟨u.1, pkt, u.2, false⟩
      else recuperaPorFlujo n s pkt t

/-- The send part of `pipeline_tcp_path`; the number is what the function returns. -/
def tcpEnvia (s : Switch) (pkt : Packet) (puertoMac : Option Nat) :
    Option (Switch × List Efecto × Nat) :=
  let s := { s with macPort := macToPortTimeRefresh s.macPort pkt.ethSrc ltTime now }
  if pkt.isFlooded then
    some (s, [.outputPort pkt ofppRandom, .packetDestroy], 1)
  else
    let p := puertoMac.getD 0
    match if 0 < p then puertoVivo n.dp p else some false with
    | none => none
    | some true =>
        let s := match pkt.proto.tcp with
          | some t =>
              { s with tcpTable := tableTcpUpdateTime s.tcpTable (pkt.key t).inverso tcpTime now }
          | none => s
        some (s, [.outputPort pkt p, .packetDestroy], 1)
    | some false =>
        if n.cfg.recuperacion then
          match recoveryTcpPath n now s pkt puertoMac with
          | none => none
          | some r => if r.destruido then none else some (r.s, r.efectos ++ [.packetDestroy], 0)
        else some (s, [], 1)

/-- The first half of `pipeline_tcp_path`, by the headers the decoder found. -/
def pasoTcp (s : Switch) (pkt : Packet) : Option PasoTcp :=
  match pkt.proto.tcp with
  | some t => pasoSegmento n now s pkt t
  | none =>
      match pkt.proto.path with
      | some h => pasoPath n now s pkt h
      | none => some (.sigue s pkt none)

/-- The second half: the early returns, or the send part. -/
def terminaTcp (s : Switch) : PasoTcp → Option (Switch × List Efecto × Nat)
  | .arp => some (s, [], 2)
  | .descarta s => some (s, [.packetDestroy], 0)
  | .sigue s pkt puertoMac => tcpEnvia n now s pkt puertoMac

/-- `pipeline_tcp_path`. -/
def pipelineTcpPath (s : Switch) (pkt : Packet) : Option (Switch × List Efecto × Nat) :=
  (pasoTcp n now s pkt).bind (terminaTcp n now s)

/-! ## 4. The whole pipeline -/

/-- `apply_recovery`. -/
def applyRecovery (s : Switch) (pkt : Packet) (type : Nat) : Switch × List Efecto :=
  if type = 2 then
    let r := macToPortFoundPort s.macPort pkt.ethSrc now
    let s := { s with macPort := r.2 }
    if r.1 = none then
      ({ s with
          macPort := macToPortAddArpTable s.macPort pkt.ethSrc pkt.inPort timeRecovery
            (isNeighbor s.neighborTable pkt.inPort) now },
        [.outputPort pkt ofppRandom, .packetDestroy])
    else
      let u := macToPortUpdate s.macPort pkt.ethSrc pkt.inPort timeRecovery now
      let s := { s with macPort := u.2 }
      if u.1 = 1 then (s, [.packetDestroy])
      else (s, [.outputPort pkt ofppRandom, .packetDestroy])
  else if dstIsNeighbor pkt s.macPort = 0 then
    (s, [.outputPort pkt ofppRandom, .packetDestroy])
  else (s, [.sendPacketRecovery pkt 2, .packetDestroy])

/-- The check of `pipeline_process_Uah` for a segment or PATH frame (header at `t`) that came in
    through the port its own flow would leave by. -/
def recuperaSiVuelve (s : Switch) (pkt : Packet) (t : Nat) : Option Recuperado :=
  let f := tableTcpFoundPort s.tcpTable (pkt.key t).inverso
  let s := { s with tcpTable := f.2 }
  if f.1 = some pkt.inPort then recoveryTcpPath n now s pkt (some pkt.inPort)
  else some ⟨s, pkt, [], false⟩

/-- Both checks; a packet destroyed by one of them is not to be read again. -/
def recuperaTcp (s : Switch) (pkt : Packet) : Option Recuperado :=
  (match pkt.proto.tcp with
    | some t => recuperaSiVuelve n now s pkt t
    | none => some ⟨s, pkt, [], false⟩).bind fun r =>
  if r.destruido then none
  else match r.pkt.proto.path with
    | some h =>
        (recuperaSiVuelve n now r.s r.pkt h).bind fun r' =>
          if r'.destruido then none else some { r' with efectos := r.efectos ++ r'.efectos }
    | none => some r

/-- `efs` before what follows. -/
def tras (efs : List Efecto) (r : Option (Switch × List Efecto)) : Option (Switch × List Efecto) :=
  r.map fun x => (x.1, efs ++ x.2)

/-- The part of `pipeline_process_Uah` behind the flow tables. -/
def despacha (s : Switch) (pkt : Packet) : Option (Switch × List Efecto) :=
  if pkt.ethType = 56710 then some (s, [.packetDestroy])
  else if n.cfg.tcpPath = 0 then pipelineArpPath n now s pkt
  else if pkt.proto.tcp.isSome ∨ pkt.proto.path.isSome then
    match if n.cfg.recuperacion then recuperaTcp n now s pkt else some ⟨s, pkt, [], false⟩ with
    | none => none
    | some r =>
        match pipelineTcpPath n now r.s r.pkt with
        | none => none
        | some (s, efs, ret) =>
            if ret = 2 then tras (r.efectos ++ efs) (pipelineArpPath n now s r.pkt)
            else some (s, r.efectos ++ efs)
  else pipelineArpPath n now s pkt

/-- `eth_type` of the hello frames. -/
def esHello (pkt : Packet) : Bool := pkt.ethType == 30360 || pkt.ethType == 39030

/-- The hello part of `pipeline_process_Uah`. -/
def recibeHello (s : Switch) (pkt : Packet) : Switch :=
  let r := macToPortFoundPort s.neighborTable pkt.ethSrc now
  { s with
    neighborTable :=
      if r.1 = none then macToPortAddHello r.2 pkt pkt.inPort timeRecovery now
      else (macToPortUpdate r.2 pkt.ethSrc pkt.inPort timeRecovery now).2 }

/-- The state the flow tables leave (`*puerto_no_disponible`). -/
def trasTablas (s : Switch) (r : TablasRes) : Switch :=
  { s with puertoNoDisponible :=
      if n.cfg.recuperacion ∧ r.acierto ∧ s.puertoNoDisponible = 1 then 2
      else s.puertoNoDisponible }

/-- `pipeline_process_Uah`. A frame whose TTL is not valid ends the process: at the end of
    `send_packet_to_controller` the match inside of `handle_std` is freed. -/
def pipelineProcessUah (tablas : Tablas) (s : Switch) (pkt : Packet) :
    Option (Switch × List Efecto) :=
  if packetHandleStdIsTtlValid pkt = false then none
  else if esHello pkt then some (recibeHello now s pkt, [.packetDestroy])
  else if n.cfg.recuperacion ∧ pkt.ethType = 38775 ∧
      macToPortCheckTimeout s.macPort pkt.ethSrc now ≠ 0 then
    some (applyRecovery now s pkt 1)
  else if n.cfg.recuperacion ∧ pkt.ethType = 39031 ∧
      macToPortCheckTimeout s.macPort pkt.ethSrc now ≠ 0 then
    some (applyRecovery now s pkt 2)
  else
    let r := tablas pkt
    let s := trasTablas n s r
    match r.pkt with
    | none => some (s, r.efectos)
    | some pkt => tras r.efectos (despacha n now s pkt)

variable {s : Switch} {pkt : Packet}

theorem trasTablas_eq {r : TablasRes} (hrec : n.cfg.recuperacion = false) :
    trasTablas n s r = s := by
  rw [trasTablas, if_neg fun he => Bool.false_ne_true (hrec.symm.trans he.1)]

/-- The frames of the recovery, where their source has no entry in force. -/
def esRecuperacion (s : Switch) (pkt : Packet) : Prop :=
  n.cfg.recuperacion = true ∧ (pkt.ethType = 38775 ∨ pkt.ethType = 39031) ∧
    macToPortCheckTimeout s.macPort pkt.ethSrc now ≠ 0

/-- The ways through `pipeline_process_Uah`, with what each of them returns. -/
inductive Recorrido (tablas : Tablas) (s : Switch) (pkt : Packet) :
    Option (Switch × List Efecto) → Prop
  | ttl (httl : packetHandleStdIsTtlValid pkt = false) : Recorrido tablas s pkt none
  | hello (httl : packetHandleStdIsTtlValid pkt = true) (hh : esHello pkt = true) :
      Recorrido tablas s pkt (some (recibeHello now s pkt, [.packetDestroy]))
  | recupera (type : Nat) (hh : esHello pkt = false) (hrec : esRecuperacion n now s pkt)
      (htype : type = 2 → pkt.ethType = 39031) :
      Recorrido tablas s pkt (some (applyRecovery now s pkt type))
  | tablas (hh : esHello pkt = false) (hq : (tablas pkt).pkt = none) :
      Recorrido tablas s pkt (some (trasTablas n s (tablas pkt), (tablas pkt).efectos))
  | despacha (httl : packetHandleStdIsTtlValid pkt = true) (hh : esHello pkt = false)
      (hrec : ¬ esRecuperacion n now s pkt) {q : Packet} (hq : (tablas pkt).pkt = some q)
      {r : Option (Switch × List Efecto)}
      (hr : tras (tablas pkt).efectos (despacha n now (trasTablas n s (tablas pkt)) q) = r) :
      Recorrido tablas s pkt r

/-- **Inversion**: a call takes one of these ways. -/
theorem pipelineProcessUah_recorrido {tablas : Tablas} {r : Option (Switch × List Efecto)}
    (h : pipelineProcessUah n now tablas s pkt = r) : Recorrido n now tablas s pkt r := by
  subst h
  unfold pipelineProcessUah
  cases httl : packetHandleStdIsTtlValid pkt with
  | false => exact .ttl httl
  | true =>
    cases hh : esHello pkt with
    | true => exact .hello httl hh
    | false =>
      simp only [Bool.true_eq_false, Bool.false_eq_true, if_false]
      split
      · rename_i h1
        exact .recupera 1 hh ⟨h1.1, .inl h1.2.1, h1.2.2⟩ nofun
      rename_i h1
      split
      · rename_i h2
        exact .recupera 2 hh ⟨h2.1, .inr h2.2.1, h2.2.2⟩ fun _ => h2.2.1
      rename_i h2
      cases hq : (tablas pkt).pkt with
      | none => exact .tablas hh hq
      | some q =>
        refine .despacha httl hh ?_ hq rfl
        rintro ⟨hr, h3 | h3, hc⟩
        · exact h1 ⟨hr, h3, hc⟩
        · exact h2 ⟨hr, h3, hc⟩

/-- The frames that get past the checks at the start of `pipeline_process_Uah`. -/
def entra (pkt : Packet) : Bool :=
  packetHandleStdIsTtlValid pkt && !esHello pkt && pkt.ethType != 56710

theorem ethType_of_entra (h : entra pkt = true) : pkt.ethType ≠ 56710 := by
  simp only [entra, Bool.and_eq_true, bne_iff_ne] at h
  exact h.2

theorem despacha_arp (hcfg : n.cfg.tcpPath = 0) (hin : entra pkt = true) :
    despacha n now s pkt = pipelineArpPath n now s pkt := by
  rw [despacha, if_neg (ethType_of_entra hin), if_pos hcfg]

theorem pipelineProcessUah_cases {r : Switch × List Efecto} (hrec : n.cfg.recuperacion = false)
    (h : pipelineProcessUah n now sinTablas s pkt = some r) :
    (entra pkt = true ∧ despacha n now s pkt = some r) ∨
      (entra pkt = false ∧ r.1.macPort = s.macPort ∧ r.1.tcpTable = s.tcpTable ∧
        ∀ p o, Efecto.outputPort p o ∉ r.2) := by
  cases pipelineProcessUah_recorrido n now h with
  | hello httl hh =>
    exact .inr ⟨by rw [entra, hh, Bool.not_true, Bool.and_false]; rfl, rfl, rfl, by simp⟩
  | recupera type hh hr => exact absurd (hrec.symm.trans hr.1) Bool.false_ne_true
  | tablas hh hq => cases hq
  | despacha httl hh hr hq hd =>
    cases hq
    have hd : despacha n now s pkt = some r := by
      simpa [trasTablas_eq n hrec, sinTablas, tras] using hd
    by_cases h6 : pkt.ethType = 56710
    · unfold despacha at hd
      rw [if_pos h6] at hd
      cases hd
      exact .inr ⟨by rw [entra, h6]; simp, rfl, rfl, by simp⟩
    · refine .inl ⟨?_, hd⟩
      rw [entra, httl, hh]
      simpa using h6

end Pipeline

/-- The frames an effect hands to ports, in order. -/
def Efecto.copias (dp : Datapath) (neighborTable : MacTable) (rand : Nat) :
    Efecto → List (Nat × Bytes)
  | outputPort pkt outPort => dpActionsOutputPort dp neighborTable rand pkt outPort
  | _ => []

end TcpPath
