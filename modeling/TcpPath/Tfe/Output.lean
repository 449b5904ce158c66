/-
  Subject:   Which handler of the ns-3 switch gets a frame, and through which port a handler
             sends it.

  Results:   `sendFrom_null_iff`: when a handler sends through NULL;
             `dispatch_depends_on_frame`: a frame is classified by itself alone;
             `path_request_discard_iff`: when a PATH request is discarded.
-/
import TcpPath.Tfe.Invariants

namespace TcpPath.Tfe

open Util TcpPath.Tfe.Estado

variable {D : Type} [DecidableEq D]

/-! ## 1. Frames without an output port -/

/-- A frame to one address, for which the ARP table has no usable entry. -/
def SinSalidaArp (cfg : Config D) (now : Time) (s : Estado D) (t : Trama D) : Prop :=
  t.dst ≠ ethAddrBroadcast ∧ ∀ e ∈ s.arpTable, e.macAddr = t.dst → e.vale cfg now = false

/-- The first entry of the frame's flow or of its opposite, if there is one, is of the flow
    itself and has no SYN-ACK behind it. -/
def SinSalidaTcp (s : Estado D) (t : Trama D) : Prop :=
  ∀ e, s.primeraTcp t.src t.dst = some e →
    e.clave ≠ s.inverso t.src t.dst ∧ e.dstDevice = none

/-- The frames for which `ModeTcppath` has no output port. -/
def SinSalida (cfg : Config D) (now : Time) (s : Estado D) (t : Trama D) :
    PossiblePackets → Prop
  | .tcpSyn => False
  | .pathReq => False
  | .arpReq => SinSalidaArp cfg now s t
  | .arpRep => SinSalidaArp cfg now s t
  | _ => SinSalidaTcp s t

section Null

variable {cfg : Config D} {now : Time} {s s' : Estado D} {t : Trama D}
  {packetiD : PossiblePackets} {draws : List Nat} {envios : List (Envio D)}

theorem getPortArpTable_null (hs : Sana cfg s) (addr : EthAddr) :
    s.getPortArpTable cfg now addr = none ↔
      ∀ e ∈ s.arpTable, e.macAddr = addr → e.vale cfg now = false := by
  rcases getPortArpTable_cases cfg now s addr with ⟨hn, hno⟩ | ⟨e, he, hm, hv, hd⟩
  · exact ⟨fun _ => hno, fun _ => hn⟩
  · obtain ⟨d, hd', -⟩ := hs.salida e he
    rw [hd, hd']
    exact ⟨fun h => by simp at h, fun h => by simp [h e he hm] at hv⟩

theorem getPortTcpTable_null (hs : Sana cfg s) (hp : packetiD ≠ .pathReq) :
    s.getPortTcpTable t.src t.dst packetiD = none ↔ SinSalidaTcp s t := by
  unfold getPortTcpTable SinSalidaTcp
  cases hf : s.primeraTcp t.src t.dst with
  | none => simp
  | some e =>
    obtain ⟨d, hd, -⟩ := hs.origen e (List.mem_of_find?_eq_some hf)
    by_cases hinv : e.clave = s.inverso t.src t.dst
    · simp [salidaTcp, hinv, hd]
    · simp [salidaTcp, hinv, hp]

theorem modeArppath_null (hs : Sana cfg s) (hin : cfg.esPuerto t.incomingPort = true)
    (h : modeArppath cfg now s t packetiD draws = some (s', envios)) :
    porNull envios = true ↔ SinSalidaArp cfg now s t := by
  unfold modeArppath at h
  split at h
  · rename_i hd
    simp only [Option.some.injEq, Prod.mk.injEq] at h
    obtain ⟨-, rfl⟩ := h
    rw [porNull_singleton, Option.isNone_iff_eq_none, getPortArpTable_null hs]
    exact ⟨fun h => ⟨hd, h⟩, fun h => h.2⟩
  · rename_i hd
    obtain ⟨env, hb, he⟩ := Option.map_eq_some_iff.mp h
    cases he
    rw [porNull_resendBroadcast hin hb]
    exact ⟨fun h => absurd h Bool.false_ne_true, fun h => absurd h.1 hd⟩

theorem casoOtro_null (hs : Sana cfg s) (hp : packetiD ≠ .pathReq)
    (h : casoOtro cfg now s t packetiD = some (s', envios)) :
    porNull envios = true ↔ SinSalidaTcp s t := by
  simp only [casoOtro, Option.some.injEq, Prod.mk.injEq] at h
  obtain ⟨-, rfl⟩ := h
  rw [porNull_singleton, Option.isNone_iff_eq_none, getPortTcpTable_null hs hp]

theorem casoSynAck_null (hs : Sana cfg s)
    (h : casoSynAck cfg now s t .tcpSynAck = some (s', envios)) :
    porNull envios = true ↔ SinSalidaTcp s t := by
  simp only [casoSynAck, Option.some.injEq, Prod.mk.injEq] at h
  obtain ⟨-, rfl⟩ := h
  -- what it learns about the destination is in the other table
  have hout : (((s.learnUpdateTcpTable cfg now t.src t.dst t.incomingPort
      .tcpSynAck).learnUpdateArpTable cfg now t.dst (some t.incomingPort)
      .tcpSynAck).getPortTcpTable t.src t.dst .tcpSynAck) =
      s.getPortTcpTable t.src t.dst .tcpSynAck :=
    getPortTcpTable_learn (by simp) (by simp)
  have hne : PossiblePackets.tcpSynAck ≠ .pathReq := by simp
  rw [porNull_singleton, Option.isNone_iff_eq_none, hout, getPortTcpTable_null hs hne]

theorem casoSyn_null (hin : cfg.esPuerto t.incomingPort = true)
    (h : casoSyn cfg now s t packetiD draws = some (s', envios)) : porNull envios = false := by
  simp only [casoSyn] at h
  split at h
  · rename_i hout
    simp only [Option.some.injEq, Prod.mk.injEq] at h
    rw [← h.2, porNull_singleton]
    simpa [Option.isNone_eq_false_iff, Option.isSome_iff_ne_none] using hout.1
  · obtain ⟨env, hb, he⟩ := Option.map_eq_some_iff.mp h
    cases he
    exact porNull_resendBroadcast hin hb

theorem casoPath_null (hin : cfg.esPuerto t.incomingPort = true)
    (h : casoPath cfg now s t packetiD draws = some (s', envios)) : porNull envios = false := by
  simp only [casoPath] at h
  split at h
  · split at h
    · obtain ⟨env, hb, he⟩ := Option.map_eq_some_iff.mp h
      cases he
      exact porNull_resendBroadcast hin hb
    · rename_i hout
      simp only [Option.some.injEq, Prod.mk.injEq] at h
      rw [← h.2, porNull_singleton]
      push Not at hout
      simpa [Option.isNone_eq_false_iff, Option.isSome_iff_ne_none] using hout.1
  · cases h
    rfl

theorem modeTcppath_null (hs : Sana cfg s) (hin : cfg.esPuerto t.incomingPort = true)
    (h : modeTcppath cfg now s t packetiD draws = some (s', envios)) :
    porNull envios = true ↔ SinSalida cfg now s t packetiD := by
  obtain ⟨⟨s1, env⟩, h1, he⟩ := Option.map_eq_some_iff.mp h
  cases he
  cases packetiD with
  | tcpSyn => simp [casoSyn_null hin h1, SinSalida]
  | pathReq => simp [casoPath_null hin h1, SinSalida]
  | arpReq => exact modeArppath_null hs hin h1
  | arpRep => exact modeArppath_null hs hin h1
  | tcpSynAck => exact casoSynAck_null hs h1
  | tcpFinAck => exact casoOtro_null hs (by simp) h1
  | tcpAck => exact casoOtro_null hs (by simp) h1
  | tcpOther => exact casoOtro_null hs (by simp) h1
  | ethBroad => exact casoOtro_null hs (by simp) h1
  | others => exact casoOtro_null hs (by simp) h1

theorem Sana.clasificado (hs : Sana cfg s) (k : Clase) : Sana cfg (Tfe.clasificado s k) :=
  ⟨hs.neighbour, hs.arp, hs.tcp, hs.salida, hs.origen⟩

end Null

/-- **When a handler sends through NULL**: in every reachable state, for every frame from a port
    of the switch, however it was classified. -/
theorem sendFrom_null_iff (cfg : Config D) (c : Cabeceras) (t0 : Time) (a b : UInt16)
    (σ : Simulacion D) (h : Run (paso cfg c) Libre (construye t0 a b) σ) (now : Time) (k : Clase)
    (t : Trama D) (hin : cfg.esPuerto t.incomingPort = true) (draws : List Nat) (s' : Estado D)
    (envios : List (Envio D)) :
    (modeArppath cfg now (clasificado σ.sw k) t k.packetType draws = some (s', envios) →
      (porNull envios = true ↔ SinSalidaArp cfg now σ.sw t)) ∧
    (modeTcppath cfg now (clasificado σ.sw k) t k.packetType draws = some (s', envios) →
      (porNull envios = true ↔ SinSalida cfg now (clasificado σ.sw k) t k.packetType)) :=
  ⟨modeArppath_null ((sana_run h).clasificado k) hin,
    modeTcppath_null ((sana_run h).clasificado k) hin⟩

def aConocida : Trama Nat :=
  ⟨10, segmento 1000 80 16, 2048, estacion 2, estacion 1, .otherhost⟩

theorem sendFrom_null_iff_saludo : ∃ σ,
    Run (paso nucleoNs3 cabecerasNs3) Libre (construye 0 0 0) σ ∧ ∃ s' envios,
    modeArppath nucleoNs3 5000 (clasificado σ.sw ⟨.tcpAck, 1000, 80⟩) aConocida .tcpAck [] =
      some (s', envios) ∧ porNull envios = false ∧
    (porNull envios = true ↔ SinSalidaArp nucleoNs3 5000 σ.sw aConocida) := by
  obtain ⟨σ, hrun, s', envios, hr, hn⟩ := Run.exists_exec (paso nucleoNs3 cabecerasNs3) Libre
    saludo (construye 0 0 0) (fun σ => ∃ s' envios, modeArppath nucleoNs3 5000
      (clasificado σ.sw ⟨.tcpAck, 1000, 80⟩) aConocida .tcpAck [] = some (s', envios) ∧
        porNull envios = false)
    (by decide)
  exact ⟨σ, hrun, s', envios, hr, hn,
    (sendFrom_null_iff nucleoNs3 cabecerasNs3 0 0 0 σ hrun 5000 ⟨.tcpAck, 1000, 80⟩ aConocida
      (by decide) [] s' envios).1 hr⟩

def arranque : List (Evento Nat) := [⟨0, .cleanTcpTable⟩, ⟨1000, .sendPeriodicHello⟩]

def aDesconocida : Trama Nat :=
  ⟨20, segmento 1000 80 16, 2048, estacion 1, estacion 2, .otherhost⟩

/-- `ModeArppath` gets it, and sends it through NULL. -/
theorem sendFrom_null_unknown : ∃ σ,
    Run (paso nucleoNs3 cabecerasNs3) EnHora (construye 0 0 0) σ ∧
    EnHora σ ⟨2000, .recibe aDesconocida ceros []⟩ ∧
    destino nucleoNs3 (clasificado σ.sw
      (typeOfPacket cabecerasNs3 ceros aDesconocida.packet σ.sw.tcpSrc σ.sw.tcpDst))
      aDesconocida = .arppath ∧
    ∃ s' envios, receiveFromDevice nucleoNs3 2000 σ.sw aDesconocida [] cabecerasNs3 ceros =
      some (s', envios) ∧ porNull envios = true :=
  Run.exists_exec _ _ arranque _ _ (by decide)

/-! ## 2. Classification and dispatch -/

omit [DecidableEq D] in
/-- **Dispatch depends on the frame only**, if the frame carries its ports: whatever two runs
    left in the members and in memory, it is classified with the same ports and goes to the same
    handler. -/
theorem dispatch_depends_on_frame (cfg : Config D) (c : Cabeceras) (t : Trama D)
    (h : t.packet.LlevaPuertos) (s1 s2 : Estado D) (ind1 ind2 : Indet) :
    typeOfPacket c ind1 t.packet s1.tcpSrc s1.tcpDst =
      typeOfPacket c ind2 t.packet s2.tcpSrc s2.tcpDst ∧
    destino cfg (clasificado s1 (typeOfPacket c ind1 t.packet s1.tcpSrc s1.tcpDst)) t =
      destino cfg (clasificado s2 (typeOfPacket c ind2 t.packet s2.tcpSrc s2.tcpDst)) t := by
  have hk := typeOfPacket_indep (c := c) h ind1 ind2 s1.tcpSrc s1.tcpDst s2.tcpSrc s2.tcpDst
  refine ⟨hk, ?_⟩
  rw [hk]
  -- the dispatch reads the members for the ports and nothing else of the state
  have hmodo : ∀ k, porModo cfg (clasificado s1 k) = porModo cfg (clasificado s2 k) :=
    fun k => rfl
  unfold destino
  rw [hmodo]

/-- Members with the ports of an elephant flow left in them. -/
def conRestos : Estado Nat := ⟨[], [], [], 4000, 80⟩

theorem dispatch_depends_on_frame_segmento : aConocida.packet.LlevaPuertos ∧
    destino nucleoNs3 (clasificado conRestos
        (typeOfPacket cabecerasNs3 ceros aConocida.packet 4000 80)) aConocida =
      destino nucleoNs3 (clasificado (construye 0 0 0).sw
        (typeOfPacket cabecerasNs3 ceros aConocida.packet 0 0)) aConocida := by
  have hp : aConocida.packet.LlevaPuertos :=
    ⟨⟨.tcp, 20, by decide, rfl⟩, fun _ _ => by decide⟩
  exact ⟨hp, (dispatch_depends_on_frame nucleoNs3 cabecerasNs3 aConocida hp conRestos
    (construye 0 0 0).sw ceros ceros).2⟩

def alSwitch : Evento Nat :=
  ⟨2000, .recibe ⟨20, segmento 4000 80 16, 2048, estacion 1, estacion 100, .host⟩ ceros []⟩

def otroProtocolo : Trama Nat :=
  ⟨20, ⟨[1, 2, 3, 4], [.header .otro 4]⟩, 34525, estacion 1, ethAddrBroadcast, .broadcast⟩

/-- The same frame goes to `ModeArppath` in one run and to `ModeTcppath` in the other, which has
    received one segment more. -/
theorem dispatch_depends_on_history : ∃ σ1 σ2,
    Run (paso nucleoNs3 cabecerasNs3) EnHora (construye 0 0 0) σ1 ∧
    Run (paso nucleoNs3 cabecerasNs3) EnHora (construye 0 0 0) σ2 ∧
    nucleoNs3.switchMode = modeTFEPATH ∧
    (typeOfPacket cabecerasNs3 ceros otroProtocolo.packet σ1.sw.tcpSrc σ1.sw.tcpDst).tcpSrc = 0 ∧
    (typeOfPacket cabecerasNs3 ceros otroProtocolo.packet σ2.sw.tcpSrc σ2.sw.tcpDst).tcpSrc =
      4000 ∧
    destino nucleoNs3 (clasificado σ1.sw (typeOfPacket cabecerasNs3 ceros otroProtocolo.packet
      σ1.sw.tcpSrc σ1.sw.tcpDst)) otroProtocolo = .arppath ∧
    destino nucleoNs3 (clasificado σ2.sw (typeOfPacket cabecerasNs3 ceros otroProtocolo.packet
      σ2.sw.tcpSrc σ2.sw.tcpDst)) otroProtocolo = .tcppath := by
  obtain ⟨σ1, hrun1, h1, h3⟩ := Run.exists_exec (paso nucleoNs3 cabecerasNs3) EnHora arranque
    (construye 0 0 0) (fun σ =>
      (typeOfPacket cabecerasNs3 ceros otroProtocolo.packet σ.sw.tcpSrc σ.sw.tcpDst).tcpSrc = 0 ∧
      destino nucleoNs3 (clasificado σ.sw (typeOfPacket cabecerasNs3 ceros otroProtocolo.packet
        σ.sw.tcpSrc σ.sw.tcpDst)) otroProtocolo = .arppath) (by decide)
  obtain ⟨σ2, hrun2, h2, h4⟩ := Run.exists_exec (paso nucleoNs3 cabecerasNs3) EnHora
    (arranque ++ [alSwitch]) (construye 0 0 0) (fun σ =>
      (typeOfPacket cabecerasNs3 ceros otroProtocolo.packet σ.sw.tcpSrc σ.sw.tcpDst).tcpSrc =
        4000 ∧
      destino nucleoNs3 (clasificado σ.sw (typeOfPacket cabecerasNs3 ceros otroProtocolo.packet
        σ.sw.tcpSrc σ.sw.tcpDst)) otroProtocolo = .tcppath) (by decide)
  exact ⟨σ1, σ2, hrun1, hrun2, rfl, h1, h2, h3, h4⟩

/-! ## 3. PATH requests -/

/-- The test of the `PATH_REQ` case by which a request is discarded: `tcpEntry` is a port, and
    not the one of arrival. -/
def descartaPath (s : Estado D) (t : Trama D) : Bool :=
  let tcpEntry := s.getPortTcpTable t.src (getDstPathPaquet t.packet) .pathReq
  !(decide (tcpEntry = none) || decide (tcpEntry = some t.incomingPort))

/-- The flow of a request, from its source to the destination in its header. -/
def flujoPath (s : Estado D) (t : Trama D) : Flujo := s.flujo t.src (getDstPathPaquet t.packet)

/-- Is there an entry of the flow of the request, from another port? -/
def DirectaDeOtro (s : Estado D) (t : Trama D) : Prop :=
  ∃ e ∈ s.tcpTable, e.clave = flujoPath s t ∧ e.srcDevice ≠ some t.incomingPort

/-- The tables without the entries of the opposite direction. A flow from an address to itself
    may be its own opposite. -/
def sinOpuestas (s : Estado D) (t : Trama D) : Estado D :=
  { s with
    tcpTable := s.tcpTable.filter fun e =>
      decide (e.clave ≠ s.inverso t.src (getDstPathPaquet t.packet)) ||
        decide (e.clave = flujoPath s t) }

/-- Where the first entry that `GetPortTcpTable` meets is of the opposite direction, it says of
    the port of arrival what the entry of the flow itself says. -/
def OpuestaConcuerda (s : Estado D) (t : Trama D) : Prop :=
  ∀ e, s.primeraTcp t.src (getDstPathPaquet t.packet) = some e → e.clave ≠ flujoPath s t →
    (e.srcDevice ≠ some t.incomingPort ↔ DirectaDeOtro s t)

section Path

variable {cfg : Config D} {now : Time} {s s' : Estado D} {t : Trama D} {draws : List Nat}
  {envios : List (Envio D)}

theorem descartaPath_eq_false : descartaPath s t = false ↔
    s.getPortTcpTable t.src (getDstPathPaquet t.packet) .pathReq = none ∨
      s.getPortTcpTable t.src (getDstPathPaquet t.packet) .pathReq = some t.incomingPort := by
  simp only [descartaPath, Bool.not_eq_false', Bool.or_eq_true, decide_eq_true_eq]

theorem casoPath_descarta (h : descartaPath s t = true) :
    casoPath cfg now s t .pathReq draws = some (s, []) := by
  have hno : ¬ _ := mt descartaPath_eq_false.mpr (ne_false_of_eq_true h)
  simp only [casoPath, hno, if_false]

theorem casoPath_acepta (h : descartaPath s t = false)
    (hr : casoPath cfg now s t .pathReq draws = some (s', envios)) :
    ∃ e ∈ s'.tcpTable, e.clave = flujoPath s t ∧ e.validPeriod = now + cfg.tcpExpire := by
  have hs' : s' = s.learnUpdateTcpTable cfg now t.src (getDstPathPaquet t.packet) t.incomingPort
      .pathReq := by
    simp only [casoPath, descartaPath_eq_false.mp h, if_true] at hr
    split at hr
    · obtain ⟨_, -, he⟩ := Option.map_eq_some_iff.mp hr
      cases he
      rfl
    · cases hr
      rfl
  rw [hs', learnUpdateTcpTable, if_pos (.inr rfl)]
  exact exists_upsert (fun e he => ⟨of_decide_eq_true he, rfl⟩) ⟨rfl, rfl⟩

theorem descartaPath_iff (hs : Sana cfg s) : descartaPath s t = true ↔
    ∃ e, s.primeraTcp t.src (getDstPathPaquet t.packet) = some e ∧
      e.srcDevice ≠ some t.incomingPort := by
  unfold descartaPath getPortTcpTable
  cases hf : s.primeraTcp t.src (getDstPathPaquet t.packet) with
  | none => simp
  | some e =>
    obtain ⟨d, hd, -⟩ := hs.origen e (List.mem_of_find?_eq_some hf)
    simp [salidaTcp, hd]

theorem directaDeOtro_iff (hs : Sana cfg s) {e : TcpEntry D} (he : e ∈ s.tcpTable)
    (hk : e.clave = flujoPath s t) : DirectaDeOtro s t ↔ e.srcDevice ≠ some t.incomingPort := by
  constructor
  · intro ⟨x, hx, hxk, hxd⟩
    rwa [List.inj_on_of_nodup_map hs.tcp he hx (hk.trans hxk.symm)]
  · exact fun hd => ⟨e, he, hk, hd⟩

theorem descartaPath_iff_directa (hs : Sana cfg s) :
    (descartaPath s t = true ↔ DirectaDeOtro s t) ↔ OpuestaConcuerda s t := by
  rw [descartaPath_iff hs]
  unfold OpuestaConcuerda
  cases hf : s.primeraTcp t.src (getDstPathPaquet t.packet) with
  | none =>
    have hno : ¬ DirectaDeOtro s t := by
      intro ⟨x, hx, hxk, _⟩
      have hmiss := List.find?_eq_none.mp hf x hx
      rw [Bool.or_eq_true, decide_eq_true_eq, decide_eq_true_eq] at hmiss
      exact hmiss (.inr hxk)
    simp [hno]
  | some e =>
    by_cases hk : e.clave = flujoPath s t
    · have hd := directaDeOtro_iff hs (List.mem_of_find?_eq_some hf) hk
      simp [hk, hd]
    · simp [hk]

theorem descartaPath_sinOpuestas (hs : Sana cfg s) :
    descartaPath (sinOpuestas s t) t = true ↔ DirectaDeOtro s t := by
  have hs' : Sana cfg (sinOpuestas s t) := hs.poda ⟨.refl _, .refl _, List.filter_sublist⟩
  have hmem : ∀ e, e ∈ (sinOpuestas s t).tcpTable ↔ e ∈ s.tcpTable ∧
      (e.clave ≠ s.inverso t.src (getDstPathPaquet t.packet) ∨ e.clave = flujoPath s t) := by
    intro e
    simp [sinOpuestas]
  have hsame : DirectaDeOtro (sinOpuestas s t) t ↔ DirectaDeOtro s t := by
    constructor
    · exact fun ⟨e, he, hd⟩ => ⟨e, ((hmem e).mp he).1, hd⟩
    · exact fun ⟨e, he, hd⟩ => ⟨e, (hmem e).mpr ⟨he, .inr hd.1⟩, hd⟩
  rw [← hsame]
  refine (descartaPath_iff_directa hs').mpr fun e he hk => absurd ?_ hk
  have hkey := List.find?_some he
  rw [Bool.or_eq_true, decide_eq_true_eq, decide_eq_true_eq] at hkey
  rcases hkey with hinv | hdir
  · exact ((hmem e).mp (List.mem_of_find?_eq_some he)).2.resolve_left fun hno => hno hinv
  · exact hdir

end Path

/-- **When a PATH request is discarded**: the entry of its flow decides. A discarded one does
nothing, any other leaves an entry with a new time; the opposite direction has no part in it exactly
where `OpuestaConcuerda`. -/
theorem path_request_discard_iff (cfg : Config D) (c : Cabeceras) (t0 : Time) (a b : UInt16)
    (σ : Simulacion D) (h : Run (paso cfg c) Libre (construye t0 a b) σ) (k : Clase)
    (t : Trama D) :
    (∀ now draws, descartaPath (clasificado σ.sw k) t = true →
      casoPath cfg now (clasificado σ.sw k) t .pathReq draws = some (clasificado σ.sw k, [])) ∧
    (∀ now draws s' envios, descartaPath (clasificado σ.sw k) t = false →
      casoPath cfg now (clasificado σ.sw k) t .pathReq draws = some (s', envios) →
      ∃ e ∈ s'.tcpTable, e.clave = (t.src, getDstPathPaquet t.packet, k.tcpSrc, k.tcpDst) ∧
        e.validPeriod = now + cfg.tcpExpire) ∧
    ((descartaPath (clasificado σ.sw k) t = true ↔
        ∃ e ∈ σ.sw.tcpTable, e.clave = (t.src, getDstPathPaquet t.packet, k.tcpSrc, k.tcpDst) ∧
          e.srcDevice ≠ some t.incomingPort) ↔
      OpuestaConcuerda (clasificado σ.sw k) t) ∧
    (descartaPath (clasificado σ.sw k) t =
        descartaPath (sinOpuestas (clasificado σ.sw k) t) t ↔
      OpuestaConcuerda (clasificado σ.sw k) t) := by
  have hs := (sana_run h).clasificado k
  refine ⟨fun _ _ hd => casoPath_descarta hd, fun _ _ _ _ hd hr => casoPath_acepta hd hr,
    descartaPath_iff_directa hs, ?_⟩
  rw [Bool.eq_iff_iff, descartaPath_sinOpuestas hs]
  exact descartaPath_iff_directa hs

def peticion : Trama Nat :=
  ⟨10, createPathPacket 4000 80 ⟨[], []⟩ (estacion 1) (estacion 2), pathProt, estacion 1,
    ethAddrBroadcast, .broadcast⟩

/-- After the SYN of station 1 on port 20 its request on port 10 is discarded. -/
theorem path_request_discard_saludo : ∃ σ,
    Run (paso nucleoNs3 cabecerasNs3) Libre (construye 0 0 0) σ ∧
    getDstPathPaquet peticion.packet = estacion 2 ∧
    OpuestaConcuerda (clasificado σ.sw ⟨.pathReq, 4000, 80⟩) peticion ∧
    (∃ e ∈ σ.sw.tcpTable, e.clave = (estacion 1, getDstPathPaquet peticion.packet, 4000, 80) ∧
      e.srcDevice ≠ some 10) ∧
    casoPath nucleoNs3 5000 (clasificado σ.sw ⟨.pathReq, 4000, 80⟩) peticion .pathReq [1] =
      some (clasificado σ.sw ⟨.pathReq, 4000, 80⟩, []) := by
  obtain ⟨σ, hrun, hd, he⟩ := Run.exists_exec (paso nucleoNs3 cabecerasNs3) Libre saludo
    (construye 0 0 0) (fun σ =>
      descartaPath (clasificado σ.sw ⟨.pathReq, 4000, 80⟩) peticion = true ∧
      ∃ e ∈ σ.sw.tcpTable, e.clave = (estacion 1, getDstPathPaquet peticion.packet, 4000, 80) ∧
        e.srcDevice ≠ some 10) (by decide)
  obtain ⟨h1, -, h3, -⟩ := path_request_discard_iff nucleoNs3 cabecerasNs3 0 0 0 σ hrun
    ⟨.pathReq, 4000, 80⟩ peticion
  exact ⟨σ, hrun, by decide, h3.mp ⟨fun _ => he, fun _ => hd⟩, he, h1 5000 [1] hd⟩

def synOpuesto : List (Evento Nat) :=
  arranque ++ [⟨2000, .recibe ⟨20, segmento 80 4000 2, 2048, estacion 2, estacion 1, .otherhost⟩
    ceros [0]⟩]

/-- The request of station 1 on port 10 is then discarded, without any entry of its flow. -/
theorem path_request_discard_fails : ∃ σ,
    Run (paso nucleoNs3 cabecerasNs3) EnHora (construye 0 0 0) σ ∧
    EnHora σ ⟨3000, .recibe peticion ceros [1]⟩ ∧
    typeOfPacket cabecerasNs3 ceros peticion.packet σ.sw.tcpSrc σ.sw.tcpDst =
      ⟨.pathReq, 4000, 80⟩ ∧
    receiveFromDevice nucleoNs3 3000 σ.sw peticion [1] cabecerasNs3 ceros =
      some ({ σ.sw with tcpSrc := 0, tcpDst := 0 }, []) ∧
    descartaPath (clasificado σ.sw ⟨.pathReq, 4000, 80⟩) peticion = true ∧
    ¬ ∃ e ∈ σ.sw.tcpTable, e.clave = (estacion 1, estacion 2, 4000, 80) :=
  Run.exists_exec _ _ synOpuesto _ _ (by decide)

end TcpPath.Tfe
