/-
  Subject:   The ARP-Path lock and the expiry of entries in the ns-3 switch.

  The mininet switch drops a broadcast that comes in through another port than the one its
  source is locked to. The ns-3 switch looks that port up and does not use it.

  Results:   `lock_discards_iff`: when a broadcast is without effect;
             `expiry_honoured`: expired entries decide about no copy.
-/
import TcpPath.Tfe.Output

namespace TcpPath.Tfe

open Util TcpPath.Tfe.Estado Function

variable {D : Type}

/-! ## 1. The lock -/

section Lock

variable [DecidableEq D] {cfg : Config D} {now : Time} {s s' : Estado D} {t : Trama D}
  {packetiD : PossiblePackets} {draws : List Nat} {envios : List (Envio D)} {e : ArpEntry D}

theorem modeArppath_broadcast (hb : t.dst = ethAddrBroadcast)
    (h : modeArppath cfg now s t packetiD draws = some (s', envios)) :
    s' = s.learnUpdateArpTable cfg now t.src (some t.incomingPort) packetiD ∧
      resendBroadcast cfg t.incomingPort t.packet t.src t.dst t.protocol draws = some envios := by
  unfold modeArppath at h
  rw [if_neg (not_not.mpr hb)] at h
  obtain ⟨env, henv, he⟩ := Option.map_eq_some_iff.mp h
  cases he
  exact ⟨rfl, henv⟩

theorem find?_mac (hs : Sana cfg s) (he : e ∈ s.arpTable) :
    s.arpTable.find? (fun x => decide (x.macAddr = e.macAddr)) = some e :=
  find?_of_key hs.arp he fun _ => decide_eq_true_iff

theorem resendBroadcast_nil (hin : cfg.esPuerto t.incomingPort = true)
    (h : resendBroadcast cfg t.incomingPort t.packet t.src t.dst t.protocol draws = some envios) :
    envios = [] ↔ objetivo cfg t.incomingPort = [] := by
  obtain ⟨indices, hperm, rfl⟩ := resendBroadcast_perm hin h
  rw [copias, List.map_eq_nil_iff]
  exact ⟨fun h => by simpa [h] using hperm.symm, fun h => by simpa [h] using hperm⟩

theorem learn_eq_self_iff (hs : Sana cfg s) (he : e ∈ s.arpTable) (port : Option D)
    (iD : PossiblePackets) :
    s.learnUpdateArpTable cfg now e.macAddr port iD = s ↔
      e.validPeriod = now + cfg.arpBlock := by
  have hk : Sabe s e.macAddr := ⟨e, he, rfl⟩
  have hfirst := find?_mac hs he
  constructor
  · intro h
    have hmem : ({ e with validPeriod := now + cfg.arpBlock } : ArpEntry D) ∈ s.arpTable := by
      rw [← h, learnUpdateArpTable_sabe hk]
      exact mem_modifyFirst_hit _ hfirst
    exact (congrArg ArpEntry.validPeriod (List.inj_on_of_nodup_map hs.arp hmem he rfl)).symm
  · intro h
    have htab : (s.learnUpdateArpTable cfg now e.macAddr port iD).arpTable = s.arpTable := by
      rw [learnUpdateArpTable_sabe hk]
      -- the hit is `e`, and `e` is changed into itself
      obtain ⟨pre, post, hl, hpre⟩ : ∃ pre post, s.arpTable = pre ++ e :: post ∧
          ∀ y ∈ pre, decide (y.macAddr = e.macAddr) = false := by
        obtain ⟨-, pre, post, hl, hpre⟩ := List.find?_eq_some_iff_append.mp hfirst
        exact ⟨pre, post, hl, fun y hy => by simpa using hpre y hy⟩
      have hself : ({ e with validPeriod := now + cfg.arpBlock } : ArpEntry D) = e := by rw [← h]
      rw [hl, modifyFirst_append hpre (by simp), hself]
    show { s with arpTable := (s.learnUpdateArpTable cfg now e.macAddr port iD).arpTable } = s
    rw [htab]

end Lock

/-- **The ARP-Path lock.** A broadcast whose source has an entry `e` is without effect in
`ModeArppath` exactly if the flood owes no port a copy and `e` is as fresh as the frame would make
it. `e` keeps its port. -/
theorem lock_discards_iff [DecidableEq D] (cfg : Config D) (c : Cabeceras) (t0 : Time)
    (a b : UInt16) (σ : Simulacion D) (h : Run (paso cfg c) Libre (construye t0 a b) σ)
    (now : Time) (k : Clase) (t : Trama D) (hin : cfg.esPuerto t.incomingPort = true)
    (hb : t.dst = ethAddrBroadcast) (e : ArpEntry D) (he : e ∈ σ.sw.arpTable)
    (hm : e.macAddr = t.src) (draws : List Nat) (s' : Estado D) (envios : List (Envio D))
    (hr : modeArppath cfg now (clasificado σ.sw k) t k.packetType draws = some (s', envios)) :
    ((envios = [] ∧ s' = clasificado σ.sw k) ↔
      (objetivo cfg t.incomingPort = [] ∧ e.validPeriod = now + cfg.arpBlock)) ∧
    { e with validPeriod := now + cfg.arpBlock } ∈ s'.arpTable := by
  have hs : Sana cfg (clasificado σ.sw k) := (sana_run h).clasificado k
  obtain ⟨hs', hf⟩ := modeArppath_broadcast hb hr
  have he' : e ∈ (clasificado σ.sw k).arpTable := he
  rw [hs', ← hm, resendBroadcast_nil hin hf, learn_eq_self_iff hs he']
  refine ⟨Iff.rfl, ?_⟩
  rw [learnUpdateArpTable_sabe ⟨e, he', rfl⟩]
  exact mem_modifyFirst_hit _ (find?_mac hs he')

def eco : Trama Nat := ⟨10, mensajeArp 1, 2054, estacion 1, ethAddrBroadcast, .broadcast⟩

theorem lock_discards_iff_saludo : ∃ σ,
    Run (paso nucleoNs3 cabecerasNs3) Libre (construye 0 0 0) σ ∧ ∃ e ∈ σ.sw.arpTable,
    e.macAddr = eco.src ∧ ∃ s' envios,
    modeArppath nucleoNs3 5000 (clasificado σ.sw ⟨.arpReq, 0, 0⟩) eco .arpReq [1] =
      some (s', envios) ∧
    ((envios = [] ∧ s' = clasificado σ.sw ⟨.arpReq, 0, 0⟩) ↔
      (objetivo nucleoNs3 eco.incomingPort = [] ∧
        e.validPeriod = 5000 + nucleoNs3.arpBlock)) := by
  obtain ⟨σ, hrun, ⟨e, he, hm⟩, hr⟩ := Run.exists_exec (paso nucleoNs3 cabecerasNs3) Libre saludo
    (construye 0 0 0) (fun σ => (∃ e ∈ σ.sw.arpTable, e.macAddr = eco.src) ∧
      (modeArppath nucleoNs3 5000 (clasificado σ.sw ⟨.arpReq, 0, 0⟩) eco .arpReq [1]).isSome)
    (by decide)
  obtain ⟨⟨s', envios⟩, hr⟩ := Option.isSome_iff_exists.mp hr
  exact ⟨σ, hrun, e, he, hm, s', envios, hr, (lock_discards_iff nucleoNs3 cabecerasNs3 0 0 0 σ hrun
    5000 ⟨.arpReq, 0, 0⟩ eco (by decide) rfl e he hm [1] s' envios hr).1⟩

/-- Station 1 is locked to port 20, and its request is flooded again from port 10, back to
    port 20; its entry is refreshed by it. -/
theorem lock_not_enforced : ∃ σ,
    Run (paso nucleoNs3 cabecerasNs3) EnHora (construye 0 0 0) σ ∧
    EnHora σ ⟨5000, .recibe eco ceros [1]⟩ ∧
    (∃ e ∈ σ.sw.arpTable, e.macAddr = estacion 1 ∧ e.outputDevice = some 20 ∧
      5000 ≤ e.validPeriod) ∧
    typeOfPacket cabecerasNs3 ceros eco.packet σ.sw.tcpSrc σ.sw.tcpDst = ⟨.arpReq, 0, 0⟩ ∧
    destino nucleoNs3 (clasificado σ.sw ⟨.arpReq, 0, 0⟩) eco = .arppath ∧ ∃ s' envios,
    modeArppath nucleoNs3 5000 (clasificado σ.sw ⟨.arpReq, 0, 0⟩) eco .arpReq [1] =
      some (s', envios) ∧ envios.map (·.puerto) = [some 20] ∧ s'.arpTable ≠ σ.sw.arpTable :=
  Run.exists_exec _ _ saludo _ _ (by decide)

/-! ## 2. Expired entries and the copies sent -/

/-- The tables at the arrival of a frame, without what has expired: ARP entries whose device is
    no neighbour, and TCP entries. -/
def sinCaducados (now : Time) (s : Estado D) : Estado D :=
  { s with
    arpTable := s.arpTable.filter fun e => !(decide (e.validPeriod < now) && !e.neighbour)
    tcpTable := s.tcpTable.filter fun e => !decide (e.validPeriod < now) }

/-- The destination of the flow a frame belongs to: a PATH request names it in its header. -/
def destinoFlujo (t : Trama D) (packetiD : PossiblePackets) : EthAddr :=
  if packetiD = .pathReq then getDstPathPaquet t.packet else t.dst

/-- The kinds of packet for which `ModeTcppath` looks into the TCP table. -/
def consultaTcp : PossiblePackets → Bool
  | .tcpSyn => false
  | .arpReq => false
  | .arpRep => false
  | _ => true

/-- No expired TCP entry is of the frame's flow or of the opposite one. -/
def SinCaducadasTcp (now : Time) (s : Estado D) (t : Trama D) (packetiD : PossiblePackets) : Prop :=
  ∀ e ∈ s.tcpTable, e.validPeriod < now →
    e.clave ≠ s.flujo t.src (destinoFlujo t packetiD) ∧
      e.clave ≠ s.inverso t.src (destinoFlujo t packetiD)

section Lookups

variable {cfg : Config D} {now : Time} {s : Estado D} {addr src dst : EthAddr}
  {iD : PossiblePackets}

theorem getPortArpTable_sinCaducados (cfg : Config D) (now : Time) (s : Estado D)
    (addr : EthAddr) :
    (sinCaducados now s).getPortArpTable cfg now addr = s.getPortArpTable cfg now addr := by
  unfold getPortArpTable sinCaducados
  rw [List.foldl_filter]
  congr 1
  funext out e
  by_cases hexp : e.validPeriod < now ∧ e.neighbour = false
  · have hv : e.vale cfg now = false := by
      simp [ArpEntry.vale, hexp.2, Int.not_le.mpr hexp.1]
    simp [hv]
  · rw [if_pos]
    simpa [imp_iff_or_not, not_and_or] using not_and_or.mp hexp

theorem getPortTcpTable_sinCaducados
    (h : ∀ e ∈ s.tcpTable, e.validPeriod < now →
      e.clave ≠ s.flujo src dst ∧ e.clave ≠ s.inverso src dst) :
    (sinCaducados now s).getPortTcpTable src dst iD = s.getPortTcpTable src dst iD := by
  have hfirst : (sinCaducados now s).primeraTcp src dst = s.primeraTcp src dst := by
    show (s.tcpTable.filter fun e => !decide (e.validPeriod < now)).find? (fun e =>
      decide (e.clave = s.inverso src dst) || decide (e.clave = s.flujo src dst)) = _
    rw [List.find?_filter]
    refine List.find?_congr fun e he => ?_
    by_cases hexp : e.validPeriod < now
    · simp [hexp, h e he hexp]
    · simp [hexp]
  unfold getPortTcpTable
  rw [hfirst]
  rfl

@[simp] theorem getPortArpTable_learnTcp (cfg : Config D) (now : Time) (s : Estado D)
    (src dst addr : EthAddr) (p : D) (iD : PossiblePackets) :
    (s.learnUpdateTcpTable cfg now src dst p iD).getPortArpTable cfg now addr =
      s.getPortArpTable cfg now addr := by
  unfold getPortArpTable
  rw [learnUpdateTcpTable_arp]

@[simp] theorem sinCaducados_tcpSrc (now : Time) (s : Estado D) :
    (sinCaducados now s).tcpSrc = s.tcpSrc := rfl

@[simp] theorem sinCaducados_tcpDst (now : Time) (s : Estado D) :
    (sinCaducados now s).tcpDst = s.tcpDst := rfl

end Lookups

section Copias

variable [DecidableEq D] {cfg : Config D} {now : Time} {s : Estado D} {t : Trama D}
  {packetiD : PossiblePackets} {draws : List Nat}

@[simp] theorem searchEntryHelloTable_learnTcp (cfg : Config D) (now : Time) (s : Estado D)
    (src dst : EthAddr) (p : D) (iD : PossiblePackets) (port : Option D) :
    (s.learnUpdateTcpTable cfg now src dst p iD).searchEntryHelloTable port =
      s.searchEntryHelloTable port := by
  unfold searchEntryHelloTable
  rw [learnUpdateTcpTable_neighbour]

@[simp] theorem sinCaducados_search (now : Time) (s : Estado D) (port : Option D) :
    (sinCaducados now s).searchEntryHelloTable port = s.searchEntryHelloTable port := rfl

theorem modeArppath_sinCaducados (cfg : Config D) (now : Time) (s : Estado D) (t : Trama D)
    (packetiD : PossiblePackets) (draws : List Nat) :
    (modeArppath cfg now (sinCaducados now s) t packetiD draws).map Prod.snd =
      (modeArppath cfg now s t packetiD draws).map Prod.snd := by
  simp only [modeArppath, getPortArpTable_sinCaducados]
  split
  · rfl
  · simp only [Option.map_map, comp_def]

theorem casosTcppath_sinCaducados
    (h : consultaTcp packetiD = true → SinCaducadasTcp now s t packetiD) :
    (casosTcppath cfg now (sinCaducados now s) t packetiD draws).map Prod.snd =
      (casosTcppath cfg now s t packetiD draws).map Prod.snd := by
  have htcp : consultaTcp packetiD = true → packetiD ≠ .pathReq → ∀ iD,
      (sinCaducados now s).getPortTcpTable t.src t.dst iD = s.getPortTcpTable t.src t.dst iD := by
    intro hc hp iD
    have h' := h hc
    simp only [SinCaducadasTcp, destinoFlujo, if_neg hp] at h'
    exact getPortTcpTable_sinCaducados h'
  have otro : consultaTcp packetiD = true → packetiD ≠ .pathReq → ∀ iD,
      (casoOtro cfg now (sinCaducados now s) t iD).map Prod.snd =
        (casoOtro cfg now s t iD).map Prod.snd := by
    intro hc hp iD
    simp only [casoOtro, Option.map_some, htcp hc hp]
  cases packetiD with
  | tcpSyn =>
    simp only [casosTcppath, casoSyn, getPortArpTable_sinCaducados, sinCaducados_search,
      sinCaducados_tcpSrc, sinCaducados_tcpDst]
    split
    · rfl
    · simp only [Option.map_map, comp_def]
  | tcpSynAck =>
    -- the port is looked up after learning, which does not move it
    have hl : ∀ u : Estado D, ((u.learnUpdateTcpTable cfg now t.src t.dst t.incomingPort
        .tcpSynAck).learnUpdateArpTable cfg now t.dst (some t.incomingPort)
        .tcpSynAck).getPortTcpTable t.src t.dst .tcpSynAck =
        u.getPortTcpTable t.src t.dst .tcpSynAck :=
      fun u => getPortTcpTable_learn (by simp) (by simp)
    simp only [casosTcppath, casoSynAck, Option.map_some, hl, htcp rfl (by simp)]
  | pathReq =>
    have h' := h rfl
    simp only [SinCaducadasTcp, destinoFlujo, if_true] at h'
    simp only [casosTcppath, casoPath, getPortTcpTable_sinCaducados h', getPortArpTable_learnTcp,
      getPortArpTable_sinCaducados, searchEntryHelloTable_learnTcp, sinCaducados_search]
    split
    · split
      · simp only [Option.map_map, comp_def]
      · rfl
    · rfl
  | arpReq => exact modeArppath_sinCaducados cfg now s t _ draws
  | arpRep => exact modeArppath_sinCaducados cfg now s t _ draws
  | tcpFinAck => exact otro rfl (by simp) _
  | tcpAck => exact otro rfl (by simp) _
  | tcpOther => exact otro rfl (by simp) _
  | ethBroad => exact otro rfl (by simp) _
  | others => exact otro rfl (by simp) _

/-- Is the frame's port, or whether it is accepted, looked up in the TCP table? -/
def ConsultaTcp (cfg : Config D) (s : Estado D) (t : Trama D) (packetiD : PossiblePackets) : Prop :=
  destino cfg s t = .tcppath ∧ consultaTcp packetiD = true

/-- **Expired entries do not decide where a frame goes**, if none of them is of the TCP flow that
    is looked up. -/
theorem receiveFromDevice_sinCaducados {c : Cabeceras} {ind : Indet}
    (h : ConsultaTcp cfg (clasificado s (typeOfPacket c ind t.packet s.tcpSrc s.tcpDst)) t
        (typeOfPacket c ind t.packet s.tcpSrc s.tcpDst).packetType →
      SinCaducadasTcp now (clasificado s (typeOfPacket c ind t.packet s.tcpSrc s.tcpDst)) t
        (typeOfPacket c ind t.packet s.tcpSrc s.tcpDst).packetType) :
    (receiveFromDevice cfg now (sinCaducados now s) t draws c ind).map Prod.snd =
      (receiveFromDevice cfg now s t draws c ind).map Prod.snd := by
  simp only [receiveFromDevice, sinCaducados_tcpSrc, sinCaducados_tcpDst]
  generalize typeOfPacket c ind t.packet s.tcpSrc s.tcpDst = k at h
  have hk : clasificado (sinCaducados now s) k = sinCaducados now (clasificado s k) := rfl
  have hd : destino cfg (sinCaducados now (clasificado s k)) t = destino cfg (clasificado s k) t :=
    rfl
  rw [hk, hd]
  cases hdest : destino cfg (clasificado s k) t with
  | nada => rfl
  | hello => rfl
  | arppath => exact modeArppath_sinCaducados cfg now _ t _ draws
  | tcppath =>
    have hcasos : (casosTcppath cfg now (sinCaducados now (clasificado s k)) t k.packetType
        draws).map Prod.snd = (casosTcppath cfg now (clasificado s k) t k.packetType draws).map
        Prod.snd := casosTcppath_sinCaducados fun hc => h ⟨hdest, hc⟩
    simpa only [modeTcppath, Option.map_map, comp_def] using hcasos

end Copias

/-! ## 3. Teaching frames -/

/-- A frame from which the ARP table learns the source: a broadcast or an ARP reply in
    `ModeArppath`, where `ModeTcppath` sends ARP messages too. -/
def EnsenaArp (cfg : Config D) (s : Estado D) (t : Trama D) (packetiD : PossiblePackets) : Prop :=
  (destino cfg s t = .arppath ∨
    destino cfg s t = .tcppath ∧ (packetiD = .arpReq ∨ packetiD = .arpRep)) ∧
  (t.dst = ethAddrBroadcast ∨ packetiD = .arpRep)

/-- A frame from which the TCP table learns the source: a SYN or a PATH request. -/
def EnsenaTcp (cfg : Config D) (s : Estado D) (t : Trama D) (packetiD : PossiblePackets) : Prop :=
  destino cfg s t = .tcppath ∧ (packetiD = .tcpSyn ∨ packetiD = .pathReq)

/-- The source of the frame has an entry with the port of arrival. -/
def AtadaArp (s : Estado D) (t : Trama D) : Prop :=
  ∃ e ∈ s.arpTable, e.macAddr = t.src ∧ e.outputDevice = some t.incomingPort

/-- The flow `f` has an entry with the port of arrival. -/
def AtadaTcp (s : Estado D) (t : Trama D) (f : Flujo) : Prop :=
  ∃ e ∈ s.tcpTable, e.clave = f ∧ e.srcDevice = some t.incomingPort

/-- No entry, expired or not, has the source of the frame at another port. -/
def SinOtroPuerto (s : Estado D) (t : Trama D) : Prop :=
  ∀ e ∈ s.arpTable, e.macAddr = t.src → e.outputDevice = some t.incomingPort

/-- No entry, expired or not, has the flow of the frame at another port, and for a PATH request
    neither the opposite flow. -/
def SinOtroPuertoTcp (s : Estado D) (t : Trama D) (packetiD : PossiblePackets) : Prop :=
  ∀ e ∈ s.tcpTable, (e.clave = s.flujo t.src (destinoFlujo t packetiD) ∨
    packetiD = .pathReq ∧ e.clave = s.inverso t.src (destinoFlujo t packetiD)) →
    e.srcDevice = some t.incomingPort

section Ensena

variable [DecidableEq D] {cfg : Config D} {now : Time} {s s' : Estado D} {t : Trama D}
  {packetiD : PossiblePackets} {draws : List Nat} {envios : List (Envio D)}

theorem atadaArp_learn (hs : Sana cfg s) (iD : PossiblePackets) :
    AtadaArp (s.learnUpdateArpTable cfg now t.src (some t.incomingPort) iD) t ↔
      SinOtroPuerto s t :=
  exists_upsert_iff ArpEntry.macAddr ArpEntry.outputDevice (fun _ => ⟨rfl, rfl⟩) ⟨rfl, rfl⟩ hs.arp

theorem atadaArp_learn_otra (hk : Sabe s t.src) (addr : EthAddr) (port : Option D)
    (iD : PossiblePackets) :
    AtadaArp (s.learnUpdateArpTable cfg now addr port iD) t ↔ AtadaArp s t := by
  constructor
  · rintro ⟨e, he, hm, hd⟩
    rcases mem_learnUpdateArpTable he with ⟨x, hx, h1, h2⟩ | ⟨h1, -, hno⟩
    · exact ⟨x, hx, h1.trans hm, h2.trans hd⟩
    · rw [← h1, hm] at hno
      exact absurd hk hno
  · rintro ⟨e, he, hm, hd⟩
    obtain ⟨y, hy, h1, h2⟩ := exists_learnUpdateArpTable he
    exact ⟨y, hy, h1.trans hm, h2.trans hd⟩

theorem modeArppath_atada (hs : Sana cfg s)
    (ht : t.dst = ethAddrBroadcast ∨ packetiD = .arpRep)
    (h : modeArppath cfg now s t packetiD draws = some (s', envios)) :
    AtadaArp s' t ↔ SinOtroPuerto s t := by
  by_cases hb : t.dst = ethAddrBroadcast
  · rw [(modeArppath_broadcast hb h).1]
    exact atadaArp_learn hs packetiD
  · have hrep := ht.resolve_left hb
    unfold modeArppath at h
    rw [if_pos hb] at h
    simp only [hrep, if_true, Option.some.injEq, Prod.mk.injEq] at h
    obtain ⟨rfl, -⟩ := h
    rw [atadaArp_learn_otra (sabe_learnUpdateArpTable sabe_learned),
      atadaArp_learn_otra sabe_learned]
    exact atadaArp_learn hs .arpRep

theorem atadaTcp_learn (hs : Sana cfg s) (dst : EthAddr)
    (hp : packetiD = .tcpSyn ∨ packetiD = .pathReq) :
    AtadaTcp (s.learnUpdateTcpTable cfg now t.src dst t.incomingPort packetiD) t
      (s.flujo t.src dst) ↔
      ∀ e ∈ s.tcpTable, e.clave = s.flujo t.src dst → e.srcDevice = some t.incomingPort := by
  unfold learnUpdateTcpTable
  rw [if_pos hp]
  exact exists_upsert_iff TcpEntry.clave TcpEntry.srcDevice (fun _ => ⟨rfl, rfl⟩) ⟨rfl, rfl⟩ hs.tcp

theorem updateNeighbour_tcp (p : D) :
    (s.updateNeighbourArpTable cfg now p).tcpTable = s.tcpTable := by
  unfold updateNeighbourArpTable
  split <;> rfl

theorem modeTcppath_atada (hs : Sana cfg s) (ht : packetiD = .tcpSyn ∨ packetiD = .pathReq)
    (hno : SinOtroPuertoTcp s t packetiD)
    (h : modeTcppath cfg now s t packetiD draws = some (s', envios)) :
    AtadaTcp s' t (s.flujo t.src (destinoFlujo t packetiD)) := by
  have hlearn : AtadaTcp (s.learnUpdateTcpTable cfg now t.src (destinoFlujo t packetiD)
      t.incomingPort packetiD) t (s.flujo t.src (destinoFlujo t packetiD)) :=
    (atadaTcp_learn hs _ ht).mpr fun e he hk => hno e he (.inl hk)
  obtain ⟨⟨s1, env⟩, h1, he⟩ := Option.map_eq_some_iff.mp h
  cases he
  rcases ht with rfl | rfl
  · simp only [casosTcppath, casoSyn] at h1
    have hs1 : s1.tcpTable = (s.learnUpdateTcpTable cfg now t.src t.dst t.incomingPort
        .tcpSyn).tcpTable := by
      split at h1
      · cases h1
        exact updateNeighbour_tcp _
      · obtain ⟨_, -, he⟩ := Option.map_eq_some_iff.mp h1
        cases he
        exact updateNeighbour_tcp _
    show ∃ e ∈ s1.tcpTable, _
    rw [hs1]
    exact hlearn
  · -- the request is accepted: the lookup sees an entry of this port, or none
    have hacc : s.getPortTcpTable t.src (getDstPathPaquet t.packet) .pathReq = none ∨
        s.getPortTcpTable t.src (getDstPathPaquet t.packet) .pathReq = some t.incomingPort := by
      unfold getPortTcpTable
      cases hf : s.primeraTcp t.src (getDstPathPaquet t.packet) with
      | none => exact .inl rfl
      | some e =>
        have hkey := List.find?_some hf
        simp only [Bool.or_eq_true, decide_eq_true_eq] at hkey
        have hdev := hno e (List.mem_of_find?_eq_some hf)
          (hkey.symm.imp id fun hi => ⟨rfl, hi⟩)
        refine .inr ?_
        simp [salidaTcp, hdev]
    simp only [casosTcppath, casoPath, hacc, if_true] at h1
    have hs1 : s1 = s.learnUpdateTcpTable cfg now t.src (getDstPathPaquet t.packet)
        t.incomingPort .pathReq := by
      split at h1
      · obtain ⟨_, -, he⟩ := Option.map_eq_some_iff.mp h1
        cases he
        rfl
      · cases h1
        rfl
    show ∃ e ∈ s1.tcpTable, _
    rw [hs1]
    exact hlearn

end Ensena

/-- **Expiry is honoured**: the copies are those without the expired entries, if none of these is of
a TCP flow looked up for the frame; and the source is bound to the port of arrival exactly if no
entry, expired or not, had it elsewhere. -/
theorem expiry_honoured [DecidableEq D] (cfg : Config D) (c : Cabeceras) (t0 : Time)
    (a b : UInt16) (σ : Simulacion D) (h : Run (paso cfg c) Libre (construye t0 a b) σ)
    (now : Time) (t : Trama D) (ind : Indet) (draws : List Nat) (s' : Estado D)
    (envios : List (Envio D))
    (hr : receiveFromDevice cfg now σ.sw t draws c ind = some (s', envios)) :
    let k := typeOfPacket c ind t.packet σ.sw.tcpSrc σ.sw.tcpDst
    let s := clasificado σ.sw k
    ((ConsultaTcp cfg s t k.packetType → SinCaducadasTcp now s t k.packetType) →
      (receiveFromDevice cfg now (sinCaducados now σ.sw) t draws c ind).map Prod.snd =
        some envios) ∧
    (EnsenaArp cfg s t k.packetType → (AtadaArp s' t ↔ SinOtroPuerto s t)) ∧
    (EnsenaTcp cfg s t k.packetType → SinOtroPuertoTcp s t k.packetType →
      AtadaTcp s' t (s.flujo t.src (destinoFlujo t k.packetType))) := by
  intro k s
  have hs : Sana cfg s := (sana_run h).clasificado k
  refine ⟨fun hexp => ?_, ?_, ?_⟩
  · rw [receiveFromDevice_sinCaducados hexp, hr]
    rfl
  · rintro ⟨hd | ⟨hd, hp⟩, ht⟩
    · rw [receiveFromDevice_arppath hd] at hr
      exact modeArppath_atada hs ht hr
    · rw [receiveFromDevice_tcppath hd] at hr
      obtain ⟨⟨s1, env⟩, h1, he⟩ := Option.map_eq_some_iff.mp hr
      cases he
      -- ARP messages are handed to `ModeArppath`
      have hcase : casosTcppath cfg now s t k.packetType draws =
          modeArppath cfg now s t k.packetType draws := by
        rcases hp with hp | hp <;> rw [hp] <;> rfl
      have hiff : AtadaArp s1 t ↔ SinOtroPuerto s t := modeArppath_atada hs ht (hcase ▸ h1)
      exact hiff
  · rintro ⟨hd, hp⟩ hno
    rw [receiveFromDevice_tcppath hd] at hr
    exact modeTcppath_atada hs hp hno hr

def repite : Trama Nat := ⟨20, mensajeArp 1, 2054, estacion 1, ethAddrBroadcast, .broadcast⟩

theorem expiry_honoured_saludo : ∃ σ,
    Run (paso nucleoNs3 cabecerasNs3) Libre (construye 0 0 0) σ ∧ ∃ s' envios,
    receiveFromDevice nucleoNs3 5000 σ.sw repite [0] cabecerasNs3 ceros = some (s', envios) ∧
    ∃ k, k = typeOfPacket cabecerasNs3 ceros repite.packet σ.sw.tcpSrc σ.sw.tcpDst ∧
    (EnsenaArp nucleoNs3 (clasificado σ.sw k) repite k.packetType →
      (AtadaArp s' repite ↔ SinOtroPuerto (clasificado σ.sw k) repite)) := by
  obtain ⟨σ, hrun, hσ⟩ := Run.exists_exec (paso nucleoNs3 cabecerasNs3) Libre saludo
    (construye 0 0 0) (fun σ =>
      (receiveFromDevice nucleoNs3 5000 σ.sw repite [0] cabecerasNs3 ceros).isSome)
    (by decide)
  obtain ⟨⟨s', envios⟩, hr⟩ := Option.isSome_iff_exists.mp hσ
  exact ⟨σ, hrun, s', envios, hr, _, rfl, (expiry_honoured nucleoNs3 cabecerasNs3 0 0 0 σ hrun 5000
    repite ceros [0] s' envios hr).2.1⟩

instance [DecidableEq D] (s : Estado D) (t : Trama D) : Decidable (AtadaArp s t) :=
  inferInstanceAs (Decidable (∃ e ∈ s.arpTable, _))

/-- A SYN of station 1 at one second, and the timers up to the tenth second. -/
def synViejo : List (Evento Nat) :=
  [⟨0, .cleanTcpTable⟩, ⟨1000, .sendPeriodicHello⟩,
    ⟨1000000000, .recibe ⟨20, segmento 4000 80 2, 2048, estacion 1, estacion 2, .otherhost⟩ ceros
      [0]⟩,
    ⟨5000001000, .sendPeriodicHello⟩, ⟨10000000000, .cleanTcpTable⟩,
    ⟨10000000000, .cleanArpTable⟩, ⟨10000001000, .sendPeriodicHello⟩]

def synAckTardio : Trama Nat :=
  ⟨10, segmento 80 4000 18, 2048, estacion 2, estacion 1, .otherhost⟩

/-- Port 20 has a neighbour, and an ARP request of station 1 comes from there at one second. -/
def arpViejo : List (Evento Nat) :=
  [⟨0, .cleanTcpTable⟩, ⟨1000, .sendPeriodicHello⟩,
    ⟨2000, .recibe ⟨20, helloPacket (estacion 9), helloProt, estacion 9, ethAddrBroadcast,
      .broadcast⟩ ceros []⟩,
    ⟨1000000000, .recibe ⟨20, mensajeArp 1, 2054, estacion 1, ethAddrBroadcast, .broadcast⟩ ceros
      [0]⟩]

/-- A TCP entry that expired at eleven seconds gives the SYN-ACK of the twelfth its port; and the
entry of station 1 that expired at four keeps port 20 at five. -/
theorem expiry_not_honoured :
    (∃ σ, Run (paso nucleoNs3 cabecerasNs3) EnHora (construye 0 0 0) σ ∧
      EnHora σ ⟨12000000000, .recibe synAckTardio ceros []⟩ ∧
      (∃ e ∈ σ.sw.tcpTable, e.validPeriod < 12000000000) ∧
      (receiveFromDevice nucleoNs3 12000000000 σ.sw synAckTardio [] cabecerasNs3 ceros).map
        (fun r => r.2.map (·.puerto)) = some [some 20] ∧
      (receiveFromDevice nucleoNs3 12000000000 (sinCaducados 12000000000 σ.sw) synAckTardio []
        cabecerasNs3 ceros).map (fun r => r.2.map (·.puerto)) = some [none]) ∧
    (∃ σ, Run (paso nucleoNs3 cabecerasNs3) EnHora (construye 0 0 0) σ ∧
      EnHora σ ⟨5000000000, .recibe eco ceros [1]⟩ ∧
      (∃ e ∈ σ.sw.arpTable, e.neighbour = false ∧ e.validPeriod < 5000000000) ∧ ∃ s' envios,
      receiveFromDevice nucleoNs3 5000000000 σ.sw eco [1] cabecerasNs3 ceros = some (s', envios) ∧
      ¬ AtadaArp s' eco) :=
  ⟨Run.exists_exec _ _ synViejo _ _ (by decide), Run.exists_exec _ _ arpViejo _ _ (by decide)⟩

end TcpPath.Tfe
