/-
  Subject:   The ns-3 switch (tfe-switch.cc): its three tables, the frame handlers
             `ModeArppath` and `ModeTcppath`, the floods and the timers.

  The devices are a type `D`; a `Ptr<NetDevice>` is an `Option D`, `none` for NULL. A handler
  answers with the members of the switch afterwards and the calls of `SendFrom` it makes; a call
  through a NULL pointer is one of them, with `puerto = none`, and stops the program. The random
  numbers of a flood are a list of draws, and the answer is `none` if its loop does not end on them.

  The preprocessor switch `MOBILITY` (defined in the source) is the field `mobility`. The hooks
  `m_rxCallback` and `m_promiscRxCallback` belong to the node and are left out. ns-3 counts time
  in a 64-bit number of nanoseconds; here it is an `Int`.
-/
import TcpPath.Tfe.Packet
import TcpPath.Util.Runs
import TcpPath.Util.VectorLoops

namespace TcpPath.Tfe

open Util

/-! ## 1. The switch -/

/-- `Time`, in nanoseconds. -/
abbrev Time := Int

def helloProt : UInt16 := 65392
def pathProt : UInt16 := 65455
def elephPortFirst : UInt16 := 3500
def elephPortLast : UInt16 := 4500

/-- `SwitchMode`: ARPPATH, TFEPATH and TCPPATH; any other number is refused by the dispatch. -/
def modeARPPATH : UInt16 := 1
def modeTFEPATH : UInt16 := 2
def modeTCPPATH : UInt16 := 3

inductive HierarchySwitch where
  | core
  | aggr
  | tor
  | err
  deriving DecidableEq, Repr

inductive TypeOfConnection where
  | upper
  | lower
  deriving DecidableEq, Repr

/-- `NetDevice::PacketType`. -/
inductive PacketType where
  | host
  | broadcast
  | multicast
  | otherhost
  deriving DecidableEq, Repr

/-- The attributes of a switch and the ports `AddBridgePort` gave it. -/
structure Config (D : Type) where
  mobility : Bool
  switchMode : UInt16
  hierarchy : HierarchySwitch
  helloPeriod : Time
  arpExpire : Time
  arpBlock : Time
  tcpExpire : Time
  address : EthAddr
  getAddress : D → EthAddr
  /-- `m_ordered_ports`, with the connection `m_ports` gives to each device. -/
  ports : List (D × TypeOfConnection)
  nodup : (ports.map Prod.fst).Nodup

/-- An entry of `m_neighbour`. -/
structure NeighbourEntry (D : Type) where
  device : D
  direction : EthAddr
  period : Time
  deriving DecidableEq

/-- An entry of `m_arp_table`. -/
structure ArpEntry (D : Type) where
  macAddr : EthAddr
  outputDevice : Option D
  neighbour : Bool
  validPeriod : Time
  deriving DecidableEq

/-- An entry of `m_tcp_table`. -/
structure TcpEntry (D : Type) where
  macSrc : EthAddr
  macDst : EthAddr
  srcPort : UInt16
  dstPort : UInt16
  srcDevice : Option D
  dstDevice : Option D
  validPeriod : Time
  deriving DecidableEq

/-- A directed flow: addresses and ports. -/
abbrev Flujo := EthAddr × EthAddr × UInt16 × UInt16

def TcpEntry.clave {D : Type} (e : TcpEntry D) : Flujo := (e.macSrc, e.macDst, e.srcPort, e.dstPort)

/-- The members of a `TFESwitch` that change. -/
structure Estado (D : Type) where
  neighbour : List (NeighbourEntry D)
  tcpTable : List (TcpEntry D)
  arpTable : List (ArpEntry D)
  tcpSrc : UInt16
  tcpDst : UInt16
  deriving DecidableEq

/-- The arguments of `ReceiveFromDevice`. -/
structure Trama (D : Type) where
  incomingPort : D
  packet : Paquete
  protocol : UInt16
  src : EthAddr
  dst : EthAddr
  packetType : PacketType

/-- A call `puerto->SendFrom (paquete, src, dst, protocol)`. -/
structure Envio (D : Type) where
  puerto : Option D
  paquete : Paquete
  src : EthAddr
  dst : EthAddr
  protocol : UInt16
  deriving DecidableEq

variable {D : Type}

namespace Config

variable [DecidableEq D]

/-- `m_ports.find(d)->second`. -/
def conexion (cfg : Config D) (d : D) : Option TypeOfConnection :=
  (cfg.ports.find? fun x => decide (x.1 = d)).map Prod.snd

/-- `m_ordered_ports[index]`. -/
def orderedPort (cfg : Config D) (index : Nat) : Option D := (cfg.ports[index]?).map Prod.fst

/-- Is `d` one of the ports of the switch? -/
def esPuerto (cfg : Config D) (d : D) : Bool := cfg.ports.any fun x => decide (x.1 = d)

end Config

/-! ## 2. Floods -/

section Flood

variable [DecidableEq D] (cfg : Config D) (incomingPort : D) (packet : Paquete) (src dst : EthAddr)
  (protocol : UInt16)

/-- One copy through each port whose index was drawn. -/
def copias (indices : List Nat) : List (Envio D) :=
  indices.map fun i => ⟨cfg.orderedPort i, packet, src, dst, protocol⟩

/-- Is the port of index `i` the one of arrival? -/
def esEntrada (i : Nat) : Bool := decide (cfg.orderedPort i = some incomingPort)

/-- `ResendToAllPorts`. -/
def resendToAllPorts (draws : List Nat) : Option (List (Envio D)) :=
  (drawDistinct (fun _ => false) (esEntrada cfg incomingPort) false (cfg.ports.length - 1)
    (List.replicate cfg.ports.length false) draws).map (copias cfg packet src dst protocol)

/-- `ResendToSelectivePorts`: an index of another course is marked when it is drawn, and the
    loop returns once all are marked. -/
def resendToSelectivePorts (course : TypeOfConnection) (draws : List Nat) :
    Option (List (Envio D)) :=
  (drawDistinct (fun i => decide ((cfg.orderedPort i).bind cfg.conexion ≠ some course))
    (esEntrada cfg incomingPort) true (cfg.ports.length - 1)
    (List.replicate cfg.ports.length false) draws).map (copias cfg packet src dst protocol)

/-- `ResendBroadcast`. On a switch without a level only an assertion fails, and nothing is
    sent where assertions are compiled out. -/
def resendBroadcast (draws : List Nat) : Option (List (Envio D)) :=
  match cfg.hierarchy with
  | .core => resendToAllPorts cfg incomingPort packet src dst protocol draws
  | .aggr =>
      if cfg.conexion incomingPort = some .upper then
        resendToSelectivePorts cfg incomingPort packet src dst protocol .lower draws
      else resendToAllPorts cfg incomingPort packet src dst protocol draws
  | .tor =>
      if cfg.conexion incomingPort = some .lower then
        resendToAllPorts cfg incomingPort packet src dst protocol draws
      else resendToSelectivePorts cfg incomingPort packet src dst protocol .lower draws
  | .err => some []

end Flood

/-! ## 3. The tables -/

namespace Estado

variable [DecidableEq D]

/-- `SearchEntryHelloTable`. -/
def searchEntryHelloTable (s : Estado D) (port : Option D) : Bool :=
  s.neighbour.any fun e => decide (some e.device = port)

/-- `RcvHelloPacket`. -/
def rcvHelloPacket (cfg : Config D) (now : Time) (portIn : D) (src : EthAddr) (s : Estado D) :
    Estado D :=
  { s with
    neighbour := upsert (fun e => decide (e.device = portIn))
      (fun e => { e with period := now + cfg.helloPeriod })
      ⟨portIn, src, now + cfg.helloPeriod⟩ s.neighbour }

end Estado

/-- The number of an enumerator. -/
def PossiblePackets.valor : PossiblePackets → Nat
  | .tcpSyn => 0
  | .tcpSynAck => 1
  | .tcpAck => 2
  | .tcpFinAck => 3
  | .tcpOther => 4
  | .arpReq => 5
  | .arpRep => 6
  | .ethBroad => 7
  | .others => 8
  | .pathReq => 9

/-- The period `LearnUpdateArpTable` writes. Its test is `iD==ARP_REQ || ETH_BROAD`, and
    `ETH_BROAD` is a number. -/
def periodoArp (cfg : Config D) (now : Time) (iD : PossiblePackets) : Time :=
  if iD = .arpReq ∨ PossiblePackets.ethBroad.valor ≠ 0 then now + cfg.arpBlock
  else now + cfg.arpExpire

@[simp] theorem periodoArp_eq (cfg : Config D) (now : Time) (iD : PossiblePackets) :
    periodoArp cfg now iD = now + cfg.arpBlock :=
  if_pos (.inr (by decide))

/-- May `GetPortArpTable` use an entry at time `now`? -/
def ArpEntry.vale (cfg : Config D) (now : Time) (e : ArpEntry D) : Bool :=
  decide (now ≤ e.validPeriod) || (!cfg.mobility && e.neighbour)

namespace Estado

section Tablas

variable [DecidableEq D]

/-- `LearnUpdateArpTable`. -/
def learnUpdateArpTable (cfg : Config D) (now : Time) (source : EthAddr) (port : Option D)
    (iD : PossiblePackets) (s : Estado D) : Estado D :=
  { s with
    arpTable := upsert (fun e => decide (e.macAddr = source))
      (fun e => { e with validPeriod := periodoArp cfg now iD })
      ⟨source, port, !s.searchEntryHelloTable port, periodoArp cfg now iD⟩ s.arpTable }

/-- `UpdateNeighbourArpTable`, called under `#ifdef MOBILITY`. -/
def updateNeighbourArpTable (cfg : Config D) (now : Time) (port : D) (s : Estado D) : Estado D :=
  if cfg.mobility then
    { s with
      arpTable := modifyFirst (fun e => decide (e.outputDevice = some port) && e.neighbour)
        (fun e => { e with validPeriod := now + cfg.arpExpire }) s.arpTable }
  else s

/-- `GetPortArpTable`: the last entry that may be used. -/
def getPortArpTable (cfg : Config D) (now : Time) (s : Estado D) (addr : EthAddr) : Option D :=
  s.arpTable.foldl
    (fun out e => if e.macAddr = addr ∧ e.vale cfg now then e.outputDevice else out) none

/-- The flow of a frame from `a` to `b`, with the ports of the members. -/
def flujo (s : Estado D) (a b : EthAddr) : Flujo := (a, b, s.tcpSrc, s.tcpDst)

/-- The flow of the opposite direction. -/
def inverso (s : Estado D) (a b : EthAddr) : Flujo := (b, a, s.tcpDst, s.tcpSrc)

/-- The body of the loop of `LearnUpdateTcpTable` for a frame that opens no flow. -/
def renuevaTcp (cfg : Config D) (now : Time) (source dst : EthAddr) (port : D)
    (iD : PossiblePackets) (s : Estado D) (e : TcpEntry D) : TcpEntry D :=
  let e := if e.clave = s.flujo source dst then { e with validPeriod := now + cfg.tcpExpire } else e
  if e.clave = s.inverso source dst then
    { e with
        dstDevice := if iD = .tcpSynAck then some port else e.dstDevice
        validPeriod := now + cfg.tcpExpire }
  else e

/-- `LearnUpdateTcpTable`. -/
def learnUpdateTcpTable (cfg : Config D) (now : Time) (source dst : EthAddr) (port : D)
    (iD : PossiblePackets) (s : Estado D) : Estado D :=
  if iD = .tcpSyn ∨ iD = .pathReq then
    { s with
      tcpTable := upsert (fun e => decide (e.clave = s.flujo source dst))
        (fun e => { e with validPeriod := now + cfg.tcpExpire })
        ⟨source, dst, s.tcpSrc, s.tcpDst, some port, none, now + cfg.tcpExpire⟩ s.tcpTable }
  else { s with tcpTable := s.tcpTable.map (renuevaTcp cfg now source dst port iD s) }

/-- What `GetPortTcpTable` returns at the first entry of the flow or of its opposite. -/
def salidaTcp (s : Estado D) (source dest : EthAddr) (iD : PossiblePackets) (e : TcpEntry D) :
    Option D :=
  if e.clave = s.inverso source dest then e.srcDevice
  else if iD = .pathReq then e.srcDevice
  else e.dstDevice

/-- The first entry of the flow or of its opposite. -/
def primeraTcp (s : Estado D) (source dest : EthAddr) : Option (TcpEntry D) :=
  s.tcpTable.find? fun e =>
    decide (e.clave = s.inverso source dest) || decide (e.clave = s.flujo source dest)

/-- `GetPortTcpTable`. -/
def getPortTcpTable (s : Estado D) (source dest : EthAddr) (iD : PossiblePackets) : Option D :=
  (s.primeraTcp source dest).bind (s.salidaTcp source dest iD)

end Tablas

/-- `CleanTcpTable`. -/
def cleanTcpTable (now : Time) (s : Estado D) : Option (Estado D) :=
  (eraseRestart (fun e => decide (e.validPeriod < now)) (eraseFuel s.tcpTable.length)
    s.tcpTable 0).map fun l => { s with tcpTable := l }

/-- `CleanArpTable`. -/
def cleanArpTable (cfg : Config D) (now : Time) (s : Estado D) : Option (Estado D) :=
  (eraseRestart (fun e => decide (e.validPeriod < now) && (cfg.mobility || !e.neighbour))
    (eraseFuel s.arpTable.length) s.arpTable 0).map fun l => { s with arpTable := l }

/-- The cleaning `SendPeriodicHello` begins with. -/
def cleanNeighbour (now : Time) (s : Estado D) : Option (Estado D) :=
  (eraseRestart (fun e => decide (e.period < now)) (eraseFuel s.neighbour.length)
    s.neighbour 0).map fun l => { s with neighbour := l }

theorem cleanTcpTable_eq (now : Time) (s : Estado D) : s.cleanTcpTable now =
    some { s with tcpTable := s.tcpTable.filter fun e => !decide (e.validPeriod < now) } := by
  simp [cleanTcpTable, eraseRestart_eq]

theorem cleanArpTable_eq (cfg : Config D) (now : Time) (s : Estado D) : s.cleanArpTable cfg now =
    some { s with arpTable := s.arpTable.filter fun e =>
      !(decide (e.validPeriod < now) && (cfg.mobility || !e.neighbour)) } := by
  simp [cleanArpTable, eraseRestart_eq]

theorem cleanNeighbour_eq (now : Time) (s : Estado D) : s.cleanNeighbour now =
    some { s with neighbour := s.neighbour.filter fun e => !decide (e.period < now) } := by
  simp [cleanNeighbour, eraseRestart_eq]

end Estado

/-! ## 4. The handlers -/

section Handlers

open TcpPath.Tfe.Estado

variable [DecidableEq D] (cfg : Config D) (now : Time) (s : Estado D) (t : Trama D)
  (packetiD : PossiblePackets) (draws : List Nat)

/-- `ModeArppath`. The port the table has for the source of a broadcast (`inEntry`) is looked up
    and never used. -/
def modeArppath : Option (Estado D × List (Envio D)) :=
  if t.dst ≠ ethAddrBroadcast then
    let outputPort := s.getPortArpTable cfg now t.dst
    let s := if packetiD = .arpRep then
        (s.learnUpdateArpTable cfg now t.src (some t.incomingPort) packetiD).learnUpdateArpTable
          cfg now t.dst outputPort .arpReq
      else s
    some (s.learnUpdateArpTable cfg now t.dst outputPort packetiD,
      [⟨outputPort, t.packet, t.src, t.dst, t.protocol⟩])
  else
    let s := s.learnUpdateArpTable cfg now t.src (some t.incomingPort) packetiD
    (resendBroadcast cfg t.incomingPort t.packet t.src t.dst t.protocol draws).map fun e => (s, e)

/-- The `TCP_SYN` case of `ModeTcppath`. -/
def casoSyn : Option (Estado D × List (Envio D)) :=
  let outputPort := s.getPortArpTable cfg now t.dst
  let s' := (s.learnUpdateTcpTable cfg now t.src t.dst t.incomingPort
    packetiD).updateNeighbourArpTable cfg now t.incomingPort
  if outputPort ≠ none ∧ s.searchEntryHelloTable outputPort = false then
    some (s', [⟨outputPort, t.packet, t.src, t.dst, t.protocol⟩])
  else
    (resendBroadcast cfg t.incomingPort (createPathPacket s.tcpSrc s.tcpDst t.packet t.src t.dst)
      t.src ethAddrBroadcast pathProt draws).map fun e => (s', e)

/-- The `TCP_SYN_ACK` case. The address it learns behind the port of arrival is the
    destination's. -/
def casoSynAck : Option (Estado D × List (Envio D)) :=
  let s := s.learnUpdateTcpTable cfg now t.src t.dst t.incomingPort packetiD
  let s := s.learnUpdateArpTable cfg now t.dst (some t.incomingPort) packetiD
  let outputPort := s.getPortTcpTable t.src t.dst packetiD
  some (s.updateNeighbourArpTable cfg now t.incomingPort,
    [⟨outputPort, t.packet, t.src, t.dst, t.protocol⟩])

/-- The `TCP_FIN_ACK` case and the default one. -/
def casoOtro : Option (Estado D × List (Envio D)) :=
  let outputPort := s.getPortTcpTable t.src t.dst packetiD
  let s := s.updateNeighbourArpTable cfg now t.incomingPort
  some (s.learnUpdateTcpTable cfg now t.src t.dst t.incomingPort packetiD,
    [⟨outputPort, t.packet, t.src, t.dst, t.protocol⟩])

/-- The `PATH_REQ` case. -/
def casoPath : Option (Estado D × List (Envio D)) :=
  let pathDst := getDstPathPaquet t.packet
  let tcpEntry := s.getPortTcpTable t.src pathDst packetiD
  if tcpEntry = none ∨ tcpEntry = some t.incomingPort then
    let s := s.learnUpdateTcpTable cfg now t.src pathDst t.incomingPort packetiD
    let arpEntry := s.getPortArpTable cfg now pathDst
    if arpEntry = none ∨ s.searchEntryHelloTable arpEntry = true then
      (resendBroadcast cfg t.incomingPort (incrementCount t.packet) t.src ethAddrBroadcast
        pathProt draws).map fun e => (s, e)
    else some (s, [⟨arpEntry, deletePathPacket t.packet, t.src, pathDst, 2048⟩])
  else some (s, [])

/-- The `switch (packetiD)` of `ModeTcppath`. -/
def casosTcppath : Option (Estado D × List (Envio D)) :=
  match packetiD with
  | .tcpSyn => casoSyn cfg now s t packetiD draws
  | .tcpSynAck => casoSynAck cfg now s t packetiD
  | .pathReq => casoPath cfg now s t packetiD draws
  | .arpReq => modeArppath cfg now s t packetiD draws
  | .arpRep => modeArppath cfg now s t packetiD draws
  | .tcpFinAck => casoOtro cfg now s t packetiD
  | .tcpAck => casoOtro cfg now s t packetiD
  | .tcpOther => casoOtro cfg now s t packetiD
  | .ethBroad => casoOtro cfg now s t packetiD
  | .others => casoOtro cfg now s t packetiD

/-- `ModeTcppath`: at its end the members for the ports are zero. -/
def modeTcppath : Option (Estado D × List (Envio D)) :=
  (casosTcppath cfg now s t packetiD draws).map fun r =>
    ({ r.1 with tcpSrc := 0, tcpDst := 0 }, r.2)

/-- What `ReceiveFromDevice` does with a frame after `TypeOfPacket`. -/
inductive Destino where
  | nada
  | hello
  | arppath
  | tcppath
  deriving DecidableEq, Repr

/-- The test of `TFEPATH` mode: one of the ports is an elephant's. -/
def esElefante : Bool :=
  (decide (elephPortFirst ≤ s.tcpSrc) && decide (s.tcpSrc ≤ elephPortLast)) ||
    (decide (elephPortFirst ≤ s.tcpDst) && decide (s.tcpDst ≤ elephPortLast))

/-- The `switch (m_switch_mode)`. -/
def porModo : Destino :=
  if cfg.switchMode = modeARPPATH then .arppath
  else if cfg.switchMode = modeTCPPATH then .tcppath
  else if cfg.switchMode = modeTFEPATH then if esElefante s then .tcppath else .arppath
  else .nada

/-- The `switch (packetType)`. -/
def destino : Destino :=
  match t.packetType with
  | .host => .nada
  | .broadcast => if t.protocol = helloProt then .hello else porModo cfg s
  | .multicast => if t.protocol = helloProt then .hello else porModo cfg s
  | .otherhost => if t.dst = cfg.address then .nada else porModo cfg s

/-- The members after `TypeOfPacket`. -/
def clasificado (k : Clase) : Estado D := { s with tcpSrc := k.tcpSrc, tcpDst := k.tcpDst }

/-- `ReceiveFromDevice`. -/
def receiveFromDevice (c : Cabeceras) (ind : Indet) : Option (Estado D × List (Envio D)) :=
  let k := typeOfPacket c ind t.packet s.tcpSrc s.tcpDst
  let s := clasificado s k
  match destino cfg s t with
  | .nada => some (s, [])
  | .hello => some (s.rcvHelloPacket cfg now t.incomingPort t.src, [])
  | .arppath => modeArppath cfg now s t k.packetType draws
  | .tcppath => modeTcppath cfg now s t k.packetType draws

variable {cfg now s t draws} {c : Cabeceras} {ind : Indet}

theorem receiveFromDevice_arppath
    (hd : destino cfg (clasificado s (typeOfPacket c ind t.packet s.tcpSrc s.tcpDst)) t =
      .arppath) :
    receiveFromDevice cfg now s t draws c ind =
      modeArppath cfg now (clasificado s (typeOfPacket c ind t.packet s.tcpSrc s.tcpDst)) t
        (typeOfPacket c ind t.packet s.tcpSrc s.tcpDst).packetType draws := by
  simp only [receiveFromDevice, hd]

theorem receiveFromDevice_tcppath
    (hd : destino cfg (clasificado s (typeOfPacket c ind t.packet s.tcpSrc s.tcpDst)) t =
      .tcppath) :
    receiveFromDevice cfg now s t draws c ind =
      modeTcppath cfg now (clasificado s (typeOfPacket c ind t.packet s.tcpSrc s.tcpDst)) t
        (typeOfPacket c ind t.packet s.tcpSrc s.tcpDst).packetType draws := by
  simp only [receiveFromDevice, hd]

end Handlers

/-! ## 5. Runs -/

/-- What can happen: a frame, with the indeterminate values and the random draws its handling
    meets, or a timer. -/
inductive Suceso (D : Type) where
  | recibe (t : Trama D) (ind : Indet) (draws : List Nat)
  | sendPeriodicHello
  | cleanTcpTable
  | cleanArpTable

/-- An event and its time. -/
structure Evento (D : Type) where
  now : Time
  suceso : Suceso D

/-- The packet `SendPeriodicHello` sends: an Ethernet header. -/
def helloPacket (src : EthAddr) : Paquete :=
  ⟨ethAddrBroadcast.bytes ++ src.bytes ++ [0, 0], [.header .ethernet 14]⟩

/-- The switch in the simulator: the clock, and when each timer is due. -/
structure Simulacion (D : Type) where
  sw : Estado D
  ahora : Time
  proxHello : Time
  proxTcp : Time
  proxArp : Time
  deriving DecidableEq

/-- The constructor, at time `t0`. The members for the ports are not initialised. The first
    `CleanTcpTable` is scheduled with `m_TcpExpire` before the attribute is set: a time of zero. -/
def construye (t0 : Time) (tcpSrc tcpDst : UInt16) : Simulacion D where
  sw := ⟨[], [], [], tcpSrc, tcpDst⟩
  ahora := t0
  proxHello := t0 + 1000
  proxTcp := t0
  proxArp := t0 + 10000000000

/-- A list of calls of `SendFrom`, one of them through NULL. -/
def porNull (envios : List (Envio D)) : Bool := envios.any fun v => v.puerto.isNone

@[simp] theorem porNull_singleton (v : Envio D) : porNull [v] = v.puerto.isNone := by
  simp [porNull]

/-- The simulation after an event at its time. -/
def programa (cfg : Config D) (σ : Simulacion D) (sw : Estado D) (e : Evento D) : Simulacion D :=
  match e.suceso with
  | .recibe _ _ _ => { σ with sw := sw, ahora := e.now }
  | .sendPeriodicHello => { σ with sw := sw, ahora := e.now, proxHello := e.now + cfg.helloPeriod }
  | .cleanTcpTable => { σ with sw := sw, ahora := e.now, proxTcp := e.now + cfg.tcpExpire }
  | .cleanArpTable => { σ with sw := sw, ahora := e.now, proxArp := e.now + 10000000000 }

@[simp] theorem programa_sw (cfg : Config D) (σ : Simulacion D) (sw : Estado D) (e : Evento D) :
    (programa cfg σ sw e).sw = sw := by
  obtain ⟨now, suceso⟩ := e
  cases suceso <;> rfl

section Runs

variable [DecidableEq D] (cfg : Config D) (c : Cabeceras)

/-- What an event does to the members, and what it sends. `SendPeriodicHello` walks over
    `m_ports` in the order of the pointers; here it is the order in which they were added. -/
def atiende (s : Estado D) (e : Evento D) : Option (Estado D × List (Envio D)) :=
  match e.suceso with
  | .recibe t ind draws =>
      if cfg.esPuerto t.incomingPort then receiveFromDevice cfg e.now s t draws c ind else none
  | .sendPeriodicHello =>
      (s.cleanNeighbour e.now).map fun s => (s, cfg.ports.map fun x =>
        ⟨some x.1, helloPacket (cfg.getAddress x.1), cfg.getAddress x.1, ethAddrBroadcast,
          helloProt⟩)
  | .cleanTcpTable => (s.cleanTcpTable e.now).map fun s => (s, [])
  | .cleanArpTable => (s.cleanArpTable cfg e.now).map fun s => (s, [])

/-- One event. `none`: a call through NULL stops the program, or the loop of a flood does not
    end on the given draws. -/
def paso (σ : Simulacion D) (e : Evento D) : Option (Simulacion D) :=
  (atiende cfg c σ.sw e).bind fun r =>
    if porNull r.2 then none else some (programa cfg σ r.1 e)

end Runs

/-- The simulator's order: time does not go back, no timer is overtaken, and a timer fires when
    it is due. -/
def EnHora (σ : Simulacion D) (e : Evento D) : Prop :=
  σ.ahora ≤ e.now ∧ e.now ≤ σ.proxHello ∧ e.now ≤ σ.proxTcp ∧ e.now ≤ σ.proxArp ∧
    match e.suceso with
    | .recibe _ _ _ => True
    | .sendPeriodicHello => e.now = σ.proxHello
    | .cleanTcpTable => e.now = σ.proxTcp
    | .cleanArpTable => e.now = σ.proxArp

instance (σ : Simulacion D) (e : Evento D) : Decidable (EnHora σ e) :=
  match e with
  | ⟨_, .recibe _ _ _⟩ => inferInstanceAs (Decidable (_ ∧ _ ∧ _ ∧ _ ∧ True))
  | ⟨_, .sendPeriodicHello⟩ => inferInstanceAs (Decidable (_ ∧ _ ∧ _ ∧ _ ∧ _ = _))
  | ⟨_, .cleanTcpTable⟩ => inferInstanceAs (Decidable (_ ∧ _ ∧ _ ∧ _ ∧ _ = _))
  | ⟨_, .cleanArpTable⟩ => inferInstanceAs (Decidable (_ ∧ _ ∧ _ ∧ _ ∧ _ = _))

/-- Any order of events. -/
def Libre (_ : Simulacion D) (_ : Evento D) : Prop := True

instance (σ : Simulacion D) (e : Evento D) : Decidable (Libre σ e) :=
  inferInstanceAs (Decidable True)

end TcpPath.Tfe
