/-
  Subject:   What holds of the tables of the ns-3 switch in every run of frames and timers.

  * `cambios_arp`: where an entry of the ARP table can come from.

  Results:   `keys_unique`: no table has two entries of one key.
             `arp_entry_from_source`: an entry of the ARP table was made for a frame with its
             address as source, on its device.
-/
import TcpPath.Tfe.Flood

namespace TcpPath.Tfe

open Util Relation TcpPath.Tfe.Estado List

variable {D : Type}

/-! ## 1. The table functions -/

/-- Does the ARP table have an entry for `addr`, valid or not? -/
def Sabe (s : Estado D) (addr : EthAddr) : Prop := ∃ e ∈ s.arpTable, e.macAddr = addr

section Lookups

variable {cfg : Config D} {now : Time} {s : Estado D} {addr : EthAddr} {d : D}
  {iD : PossiblePackets}

theorem getPortArpTable_cases (cfg : Config D) (now : Time) (s : Estado D) (addr : EthAddr) :
    (s.getPortArpTable cfg now addr = none ∧
      ∀ e ∈ s.arpTable, e.macAddr = addr → e.vale cfg now = false) ∨
    ∃ e ∈ s.arpTable, e.macAddr = addr ∧ e.vale cfg now = true ∧
      s.getPortArpTable cfg now addr = e.outputDevice := by
  rcases foldl_lastHit (fun e : ArpEntry D => e.macAddr = addr ∧ e.vale cfg now)
    (·.outputDevice) s.arpTable none with ⟨h, hno⟩ | ⟨e, he, ⟨hmac, hv⟩, h⟩
  · refine .inl ⟨h, fun e he hmac => ?_⟩
    simpa [hmac] using hno e he
  · exact .inr ⟨e, he, hmac, hv, h⟩

theorem sabe_of_getPortArpTable (h : s.getPortArpTable cfg now addr = some d) : Sabe s addr := by
  rcases getPortArpTable_cases cfg now s addr with ⟨hn, -⟩ | ⟨e, he, hmac, -, -⟩
  · rw [hn] at h
    cases h
  · exact ⟨e, he, hmac⟩

theorem renuevaTcp_clave (cfg : Config D) (now : Time) (src dst : EthAddr) (p : D)
    (iD : PossiblePackets) (s : Estado D) (e : TcpEntry D) :
    (renuevaTcp cfg now src dst p iD s e).clave = e.clave ∧
      (renuevaTcp cfg now src dst p iD s e).srcDevice = e.srcDevice := by
  unfold renuevaTcp
  by_cases h1 : e.clave = s.flujo src dst
  · simp only [h1, if_true]
    split
    · exact ⟨h1, rfl⟩
    · exact ⟨h1, rfl⟩
  · simp only [h1, if_false]
    split
    · exact ⟨rfl, rfl⟩
    · exact ⟨rfl, rfl⟩

variable {src dst : EthAddr} {e : TcpEntry D} {p : D}

theorem renuevaTcp_dstDevice (h : e.clave ≠ s.inverso src dst) (p : D) :
    (renuevaTcp cfg now src dst p iD s e).dstDevice = e.dstDevice := by
  unfold renuevaTcp
  by_cases h1 : e.clave = s.flujo src dst
  · simp only [h1, if_true]
    rw [if_neg]
    exact h
  · simp only [h1, if_false]
    rw [if_neg h]

/-- What a frame of an open flow learns does not change where it goes: of the opposite flow the
    near side is used, and the far side of its own flow is not touched. -/
theorem getPortTcpTable_learn (h1 : iD ≠ .tcpSyn) (h2 : iD ≠ .pathReq) :
    (s.learnUpdateTcpTable cfg now src dst p iD).getPortTcpTable src dst iD =
      s.getPortTcpTable src dst iD := by
  have hlearn : s.learnUpdateTcpTable cfg now src dst p iD =
      { s with tcpTable := s.tcpTable.map (renuevaTcp cfg now src dst p iD s) } := by
    simp [learnUpdateTcpTable, h1, h2]
  have hkey := fun e => renuevaTcp_clave cfg now src dst p iD s e
  have hout : ∀ e, s.salidaTcp src dst iD (renuevaTcp cfg now src dst p iD s e) =
      s.salidaTcp src dst iD e := by
    intro e
    unfold salidaTcp
    rw [(hkey e).1, (hkey e).2]
    by_cases hinv : e.clave = s.inverso src dst
    · rw [if_pos hinv, if_pos hinv]
    · rw [if_neg hinv, if_neg hinv, renuevaTcp_dstDevice hinv]
  have hfirst : (s.learnUpdateTcpTable cfg now src dst p iD).primeraTcp src dst =
      (s.primeraTcp src dst).map (renuevaTcp cfg now src dst p iD s) := by
    rw [hlearn]
    simp only [primeraTcp, find?_map, Function.comp_def, hkey]
    rfl
  unfold getPortTcpTable
  rw [hfirst, hlearn]
  cases s.primeraTcp src dst with
  | none => rfl
  | some e => exact hout e

theorem learnUpdateTcpTable_arp (src dst : EthAddr) (p : D) :
    (s.learnUpdateTcpTable cfg now src dst p iD).arpTable = s.arpTable := by
  unfold learnUpdateTcpTable
  split <;> rfl

theorem learnUpdateTcpTable_neighbour (src dst : EthAddr) (p : D) :
    (s.learnUpdateTcpTable cfg now src dst p iD).neighbour = s.neighbour := by
  unfold learnUpdateTcpTable
  split <;> rfl

theorem mem_learnUpdateTcpTable (h : e ∈ (s.learnUpdateTcpTable cfg now src dst p iD).tcpTable) :
    (∃ x ∈ s.tcpTable, x.clave = e.clave ∧ x.srcDevice = e.srcDevice) ∨
      (e.clave = s.flujo src dst ∧ e.srcDevice = some p) := by
  unfold learnUpdateTcpTable at h
  split at h
  · rcases mem_upsert h with h | ⟨x, hx, -, rfl⟩ | ⟨rfl, -⟩
    · exact .inl ⟨e, h, rfl, rfl⟩
    · exact .inl ⟨x, hx, rfl, rfl⟩
    · exact .inr ⟨rfl, rfl⟩
  · obtain ⟨x, hx, rfl⟩ := mem_map.mp h
    obtain ⟨h1, h2⟩ := renuevaTcp_clave cfg now src dst p iD s x
    exact .inl ⟨x, hx, h1.symm, h2.symm⟩

theorem nodup_learnUpdateTcpTable (h : (s.tcpTable.map TcpEntry.clave).Nodup) (src dst : EthAddr)
    (p : D) (iD : PossiblePackets) :
    ((s.learnUpdateTcpTable cfg now src dst p iD).tcpTable.map TcpEntry.clave).Nodup := by
  unfold learnUpdateTcpTable
  split
  · exact nodup_map_upsert _ (fun _ _ => rfl) (fun _ hy => decide_eq_true hy) h
  · have hmap : (s.tcpTable.map (renuevaTcp cfg now src dst p iD s)).map TcpEntry.clave =
        s.tcpTable.map TcpEntry.clave := by
      rw [List.map_map]
      exact map_congr_left fun e _ => (renuevaTcp_clave cfg now src dst p iD s e).1
    rw [hmap]
    exact h

/-- An entry of the table with this address and this device. -/
def Heredada (s : Estado D) (e : ArpEntry D) : Prop :=
  ∃ x ∈ s.arpTable, x.macAddr = e.macAddr ∧ x.outputDevice = e.outputDevice

theorem heredada_of_map {s' : Estado D} {e : ArpEntry D}
    (h : s'.arpTable.map (fun e => (e.macAddr, e.outputDevice)) =
      s.arpTable.map fun e => (e.macAddr, e.outputDevice)) (he : e ∈ s'.arpTable) :
    Heredada s e := by
  have hmem : (e.macAddr, e.outputDevice) ∈ s.arpTable.map fun e => (e.macAddr, e.outputDevice) :=
    h ▸ mem_map_of_mem he
  obtain ⟨x, hx, hxe⟩ := mem_map.mp hmem
  simp only [Prod.mk.injEq] at hxe
  exact ⟨x, hx, hxe⟩

end Lookups

variable [DecidableEq D]

/-! ## 2. What a frame can change -/

/-- One change of the members while a frame is handled. `syn` says that the frame is a SYN-ACK
    in `ModeTcppath`; only then is an unknown destination learned. -/
inductive Cambio (cfg : Config D) (now : Time) (t : Trama D) (syn : Prop) :
    Estado D → Estado D → Prop where
  | puertos (s : Estado D) (a b : UInt16) :
      Cambio cfg now t syn s { s with tcpSrc := a, tcpDst := b }
  | hello (s : Estado D) :
      Cambio cfg now t syn s (s.rcvHelloPacket cfg now t.incomingPort t.src)
  | fuente (s : Estado D) (iD : PossiblePackets) :
      Cambio cfg now t syn s (s.learnUpdateArpTable cfg now t.src (some t.incomingPort) iD)
  | conocido (s : Estado D) (addr : EthAddr) (port : Option D) (iD : PossiblePackets)
      (h : Sabe s addr) : Cambio cfg now t syn s (s.learnUpdateArpTable cfg now addr port iD)
  | synAck (s : Estado D) (iD : PossiblePackets) (h : syn) :
      Cambio cfg now t syn s (s.learnUpdateArpTable cfg now t.dst (some t.incomingPort) iD)
  | renueva (s : Estado D) :
      Cambio cfg now t syn s (s.updateNeighbourArpTable cfg now t.incomingPort)
  | tcp (s : Estado D) (dst : EthAddr) (iD : PossiblePackets) :
      Cambio cfg now t syn s (s.learnUpdateTcpTable cfg now t.src dst t.incomingPort iD)

section Tables

variable {cfg : Config D} {now : Time} {s : Estado D} {t : Trama D} {addr a : EthAddr}
  {port : Option D} {iD : PossiblePackets}

theorem mem_learnUpdateArpTable {e : ArpEntry D}
    (h : e ∈ (s.learnUpdateArpTable cfg now addr port iD).arpTable) :
    (∃ x ∈ s.arpTable, x.macAddr = e.macAddr ∧ x.outputDevice = e.outputDevice) ∨
      (e.macAddr = addr ∧ e.outputDevice = port ∧ ¬ Sabe s addr) := by
  rcases mem_upsert h with h | ⟨x, hx, -, rfl⟩ | ⟨rfl, hno⟩
  · exact .inl ⟨e, h, rfl, rfl⟩
  · exact .inl ⟨x, hx, rfl, rfl⟩
  · refine .inr ⟨rfl, rfl, ?_⟩
    rintro ⟨x, hx, hmac⟩
    simpa [hmac] using hno x hx

theorem learnUpdateArpTable_sabe (h : Sabe s addr) :
    (s.learnUpdateArpTable cfg now addr port iD).arpTable =
      modifyFirst (fun e => decide (e.macAddr = addr))
        (fun e => { e with validPeriod := now + cfg.arpBlock }) s.arpTable := by
  obtain ⟨x, hx, hmac⟩ := h
  rw [learnUpdateArpTable, periodoArp_eq]
  exact upsert_of_mem hx (decide_eq_true hmac)

theorem learnUpdateArpTable_no_sabe (h : ¬ Sabe s addr) :
    (s.learnUpdateArpTable cfg now addr port iD).arpTable = s.arpTable ++
      [⟨addr, port, !s.searchEntryHelloTable port, periodoArp cfg now iD⟩] := by
  rw [learnUpdateArpTable]
  exact upsert_of_not fun y hy => decide_eq_false fun hmac => h ⟨y, hy, hmac⟩

theorem exists_learnUpdateArpTable {x : ArpEntry D} (hx : x ∈ s.arpTable) :
    ∃ y ∈ (s.learnUpdateArpTable cfg now addr port iD).arpTable,
      y.macAddr = x.macAddr ∧ y.outputDevice = x.outputDevice := by
  by_cases hk : Sabe s addr
  · rw [learnUpdateArpTable_sabe hk]
    rcases mem_modifyFirst_of_mem (fun e : ArpEntry D => { e with
      validPeriod := now + cfg.arpBlock }) hx with h | h
    · exact ⟨_, h, rfl, rfl⟩
    · exact ⟨_, h, rfl, rfl⟩
  · rw [learnUpdateArpTable_no_sabe hk]
    exact ⟨x, mem_append_left _ hx, rfl, rfl⟩

theorem sabe_learnUpdateArpTable (h : Sabe s a) :
    Sabe (s.learnUpdateArpTable cfg now addr port iD) a := by
  obtain ⟨x, hx, rfl⟩ := h
  obtain ⟨y, hy, hm, -⟩ := exists_learnUpdateArpTable hx
  exact ⟨y, hy, hm⟩

theorem sabe_learned : Sabe (s.learnUpdateArpTable cfg now addr port iD) addr := by
  by_cases hk : Sabe s addr
  · exact sabe_learnUpdateArpTable hk
  · refine ⟨⟨addr, port, !s.searchEntryHelloTable port, periodoArp cfg now iD⟩, ?_, rfl⟩
    rw [learnUpdateArpTable_no_sabe hk]
    exact mem_append_right _ (mem_singleton_self _)

theorem map_updateNeighbour {β : Type} (g : ArpEntry D → β)
    (hg : ∀ e p, g { e with validPeriod := p } = g e) (p : D) :
    (s.updateNeighbourArpTable cfg now p).arpTable.map g = s.arpTable.map g := by
  unfold updateNeighbourArpTable
  split
  · exact map_modifyFirst g (fun e _ => hg e _) _
  · rfl

end Tables

section Cambios

variable {cfg : Config D} {now : Time} {t : Trama D} {syn : Prop} {s s' : Estado D}
  {packetiD : PossiblePackets} {draws : List Nat} {envios : List (Envio D)}

/-- **What `ModeArppath` can change**, if it does not send through NULL: a destination it
    refreshes is one it found. -/
theorem modeArppath_cambios (syn : Prop)
    (h : modeArppath cfg now s t packetiD draws = some (s', envios)) (hn : porNull envios = false) :
    ReflTransGen (Cambio cfg now t syn) s s' := by
  unfold modeArppath at h
  split at h
  · simp only [Option.some.injEq, Prod.mk.injEq] at h
    obtain ⟨rfl, rfl⟩ := h
    -- the call was made through a device, so the table has the destination
    obtain ⟨d, hd⟩ : ∃ d, s.getPortArpTable cfg now t.dst = some d := by
      simpa [porNull, Option.isNone_eq_false_iff, Option.isSome_iff_exists] using hn
    have hsabe := sabe_of_getPortArpTable hd
    split
    · have h1 : Sabe (s.learnUpdateArpTable cfg now t.src (some t.incomingPort) packetiD) t.dst :=
        sabe_learnUpdateArpTable hsabe
      exact ((ReflTransGen.single (.fuente _ _)).tail (.conocido _ _ _ _ h1)).tail
        (.conocido _ _ _ _ (sabe_learnUpdateArpTable h1))
    · exact .single (.conocido _ _ _ _ hsabe)
  · obtain ⟨_, _, he⟩ := Option.map_eq_some_iff.mp h
    cases he
    exact .single (.fuente _ _)

theorem casosTcppath_cambios (hsyn : packetiD = .tcpSynAck → syn)
    (h : casosTcppath cfg now s t packetiD draws = some (s', envios))
    (hn : porNull envios = false) : ReflTransGen (Cambio cfg now t syn) s s' := by
  have otro : ∀ {iD}, casoOtro cfg now s t iD = some (s', envios) →
      ReflTransGen (Cambio cfg now t syn) s s' := by
    intro iD h
    simp only [casoOtro, Option.some.injEq, Prod.mk.injEq] at h
    obtain ⟨rfl, -⟩ := h
    exact (ReflTransGen.single (.renueva _)).tail (.tcp _ _ _)
  cases packetiD with
  | tcpSyn =>
    simp only [casosTcppath, casoSyn] at h
    split at h
    · cases h
      exact (ReflTransGen.single (.tcp _ _ _)).tail (.renueva _)
    · obtain ⟨_, _, he⟩ := Option.map_eq_some_iff.mp h
      cases he
      exact (ReflTransGen.single (.tcp _ _ _)).tail (.renueva _)
  | tcpSynAck =>
    simp only [casosTcppath, casoSynAck, Option.some.injEq, Prod.mk.injEq] at h
    obtain ⟨rfl, -⟩ := h
    exact ((ReflTransGen.single (.tcp _ _ _)).tail (.synAck _ _ (hsyn rfl))).tail (.renueva _)
  | pathReq =>
    simp only [casosTcppath, casoPath] at h
    split at h
    · split at h
      · obtain ⟨_, _, he⟩ := Option.map_eq_some_iff.mp h
        cases he
        exact .single (.tcp _ _ _)
      · cases h
        exact .single (.tcp _ _ _)
    · cases h
      exact .refl
  | arpReq => exact modeArppath_cambios _ h hn
  | arpRep => exact modeArppath_cambios _ h hn
  | tcpFinAck => exact otro h
  | tcpAck => exact otro h
  | tcpOther => exact otro h
  | ethBroad => exact otro h
  | others => exact otro h

/-- **What `ModeTcppath` can change.** -/
theorem modeTcppath_cambios (hsyn : packetiD = .tcpSynAck → syn)
    (h : modeTcppath cfg now s t packetiD draws = some (s', envios)) (hn : porNull envios = false) :
    ReflTransGen (Cambio cfg now t syn) s s' := by
  obtain ⟨⟨s1, env⟩, h1, he⟩ := Option.map_eq_some_iff.mp h
  cases he
  exact (casosTcppath_cambios hsyn h1 hn).tail (.puertos _ _ _)

/-- Is the frame a SYN-ACK that `ModeTcppath` handles? -/
def EsSynAck (cfg : Config D) (c : Cabeceras) (ind : Indet) (s : Estado D) (t : Trama D) : Prop :=
  let k := typeOfPacket c ind t.packet s.tcpSrc s.tcpDst
  destino cfg (clasificado s k) t = .tcppath ∧ k.packetType = .tcpSynAck

instance (cfg : Config D) (c : Cabeceras) (ind : Indet) (s : Estado D) (t : Trama D) :
    Decidable (EsSynAck cfg c ind s t) := inferInstanceAs (Decidable (_ ∧ _))

/-- **What a frame can change.** -/
theorem receiveFromDevice_cambios {c : Cabeceras} {ind : Indet}
    (h : receiveFromDevice cfg now s t draws c ind = some (s', envios))
    (hn : porNull envios = false) :
    ReflTransGen (Cambio cfg now t (EsSynAck cfg c ind s t)) s s' := by
  have h0 : Cambio cfg now t (EsSynAck cfg c ind s t) s
      (clasificado s (typeOfPacket c ind t.packet s.tcpSrc s.tcpDst)) := .puertos _ _ _
  refine .head h0 ?_
  cases hd : destino cfg (clasificado s (typeOfPacket c ind t.packet s.tcpSrc s.tcpDst)) t with
  | nada =>
    simp only [receiveFromDevice, hd, Option.some.injEq, Prod.mk.injEq] at h
    rw [h.1]
  | hello =>
    simp only [receiveFromDevice, hd, Option.some.injEq, Prod.mk.injEq] at h
    rw [← h.1]
    exact .single (.hello _)
  | arppath =>
    rw [receiveFromDevice_arppath hd] at h
    exact modeArppath_cambios _ h hn
  | tcppath =>
    rw [receiveFromDevice_tcppath hd] at h
    exact modeTcppath_cambios (fun hk => ⟨hd, hk⟩) h hn

end Cambios

/-! ## 3. What each change keeps -/

/-- Keys are unique, and every device of the tables is a port of the switch. -/
structure Sana (cfg : Config D) (s : Estado D) : Prop where
  neighbour : (s.neighbour.map (·.device)).Nodup
  arp : (s.arpTable.map (·.macAddr)).Nodup
  tcp : (s.tcpTable.map TcpEntry.clave).Nodup
  salida : ∀ e ∈ s.arpTable, ∃ d, e.outputDevice = some d ∧ cfg.esPuerto d = true
  origen : ∀ e ∈ s.tcpTable, ∃ d, e.srcDevice = some d ∧ cfg.esPuerto d = true

section Keep

variable {cfg : Config D} {now : Time} {t : Trama D} {syn : Prop} {s s' : Estado D}
  {e : ArpEntry D} {a : EthAddr}

theorem Cambio.arp (h : Cambio cfg now t syn s s') (he : e ∈ s'.arpTable) :
    Heredada s e ∨ (e.macAddr = t.src ∧ e.outputDevice = some t.incomingPort) ∨
      (syn ∧ ¬ Sabe s t.dst ∧ e.macAddr = t.dst ∧ e.outputDevice = some t.incomingPort) := by
  cases h with
  | puertos => exact .inl ⟨e, he, rfl, rfl⟩
  | hello => exact .inl ⟨e, he, rfl, rfl⟩
  | fuente iD =>
    rcases mem_learnUpdateArpTable he with h | ⟨h1, h2, -⟩
    · exact .inl h
    · exact .inr (.inl ⟨h1, h2⟩)
  | conocido addr port iD hk =>
    rcases mem_learnUpdateArpTable he with h | ⟨-, -, hno⟩
    · exact .inl h
    · exact absurd hk hno
  | synAck iD hsyn =>
    rcases mem_learnUpdateArpTable he with h | ⟨h1, h2, hno⟩
    · exact .inl h
    · exact .inr (.inr ⟨hsyn, hno, h1, h2⟩)
  | renueva => exact .inl (heredada_of_map (map_updateNeighbour _ (fun _ _ => rfl) _) he)
  | tcp dst iD =>
    rw [learnUpdateTcpTable_arp] at he
    exact .inl ⟨e, he, rfl, rfl⟩

theorem Cambio.sabe (h : Cambio cfg now t syn s s') (hs : Sabe s a) : Sabe s' a := by
  cases h with
  | puertos => exact hs
  | hello => exact hs
  | fuente iD => exact sabe_learnUpdateArpTable hs
  | conocido addr port iD _ => exact sabe_learnUpdateArpTable hs
  | synAck iD _ => exact sabe_learnUpdateArpTable hs
  | renueva =>
    obtain ⟨x, hx, rfl⟩ := hs
    have hmem : x.macAddr ∈ s.arpTable.map (·.macAddr) := mem_map_of_mem hx
    rw [← map_updateNeighbour (·.macAddr) (fun _ _ => rfl) t.incomingPort] at hmem
    exact mem_map.mp hmem
  | tcp dst iD =>
    unfold Sabe
    rw [learnUpdateTcpTable_arp]
    exact hs

theorem cambios_arp (h : ReflTransGen (Cambio cfg now t syn) s s') (he : e ∈ s'.arpTable) :
    Heredada s e ∨ (e.macAddr = t.src ∧ e.outputDevice = some t.incomingPort) ∨
      (syn ∧ ¬ Sabe s t.dst ∧ e.macAddr = t.dst ∧ e.outputDevice = some t.incomingPort) := by
  have hsabe : ∀ {u}, ReflTransGen (Cambio cfg now t syn) s u → Sabe s t.dst → Sabe u t.dst := by
    intro u hu hs
    induction hu with
    | refl => exact hs
    | tail _ hc ih => exact hc.sabe ih
  induction h generalizing e with
  | refl => exact .inl ⟨e, he, rfl, rfl⟩
  | tail hrun hc ih =>
    rcases hc.arp he with ⟨x, hx, h1, h2⟩ | h | ⟨h1, h2, h3⟩
    · rw [← h1, ← h2]
      exact (ih hx).imp (fun ⟨y, hy, h3, h4⟩ => ⟨y, hy, h3.trans h1, h4.trans h2⟩) id
    · exact .inr (.inl h)
    · exact .inr (.inr ⟨h1, fun hs => h2 (hsabe hrun hs), h3⟩)

theorem nodup_learnUpdateArpTable (h : (s.arpTable.map (·.macAddr)).Nodup) (port : Option D)
    (iD : PossiblePackets) :
    ((s.learnUpdateArpTable cfg now a port iD).arpTable.map (·.macAddr)).Nodup :=
  nodup_map_upsert _ (fun _ _ => rfl) (fun _ hy => decide_eq_true hy) h

/-- **Each change keeps the tables sound.** -/
theorem Sana.cambio (hs : Sana cfg s) (hin : cfg.esPuerto t.incomingPort = true)
    (h : Cambio cfg now t syn s s') : Sana cfg s' := by
  -- the devices of the ARP table need not be looked at change by change
  have hsalida : ∀ e ∈ s'.arpTable, ∃ d, e.outputDevice = some d ∧ cfg.esPuerto d = true := by
    intro e he
    rcases h.arp he with ⟨x, hx, -, hxe⟩ | ⟨-, hd⟩ | ⟨-, -, -, hd⟩
    · exact hxe ▸ hs.salida x hx
    · exact ⟨_, hd, hin⟩
    · exact ⟨_, hd, hin⟩
  cases h with
  | puertos => exact ⟨hs.neighbour, hs.arp, hs.tcp, hsalida, hs.origen⟩
  | hello =>
    exact ⟨nodup_map_upsert _ (fun _ _ => rfl) (fun _ hy => decide_eq_true hy) hs.neighbour,
      hs.arp, hs.tcp, hsalida, hs.origen⟩
  | fuente iD =>
    exact ⟨hs.neighbour, nodup_learnUpdateArpTable hs.arp _ _, hs.tcp, hsalida, hs.origen⟩
  | conocido addr port iD hk =>
    exact ⟨hs.neighbour, nodup_learnUpdateArpTable hs.arp _ _, hs.tcp, hsalida, hs.origen⟩
  | synAck iD hsyn =>
    exact ⟨hs.neighbour, nodup_learnUpdateArpTable hs.arp _ _, hs.tcp, hsalida, hs.origen⟩
  | renueva =>
    have hrest : (s.updateNeighbourArpTable cfg now t.incomingPort).neighbour = s.neighbour ∧
        (s.updateNeighbourArpTable cfg now t.incomingPort).tcpTable = s.tcpTable := by
      unfold updateNeighbourArpTable
      split <;> exact ⟨rfl, rfl⟩
    refine ⟨hrest.1 ▸ hs.neighbour, ?_, hrest.2 ▸ hs.tcp, hsalida, hrest.2 ▸ hs.origen⟩
    rw [map_updateNeighbour (·.macAddr) (fun _ _ => rfl)]
    exact hs.arp
  | tcp dst iD =>
    refine ⟨?_, ?_, nodup_learnUpdateTcpTable hs.tcp _ _ _ _, hsalida, fun e he => ?_⟩
    · rw [learnUpdateTcpTable_neighbour]
      exact hs.neighbour
    · rw [learnUpdateTcpTable_arp]
      exact hs.arp
    · rcases mem_learnUpdateTcpTable he with ⟨x, hx, -, hxe⟩ | ⟨-, hd⟩
      · exact hxe ▸ hs.origen x hx
      · exact ⟨_, hd, hin⟩

theorem Sana.cambios (hs : Sana cfg s) (hin : cfg.esPuerto t.incomingPort = true)
    (h : ReflTransGen (Cambio cfg now t syn) s s') : Sana cfg s' := by
  induction h with
  | refl => exact hs
  | tail _ hc ih => exact ih.cambio hin hc

end Keep

/-! ## 4. Runs -/

/-- The tables of `s'` are tables of `s` from which entries were erased. -/
structure Poda (s s' : Estado D) : Prop where
  neighbour : s'.neighbour.Sublist s.neighbour
  arp : s'.arpTable.Sublist s.arpTable
  tcp : s'.tcpTable.Sublist s.tcpTable

theorem Sana.poda {cfg : Config D} {s s' : Estado D} (hs : Sana cfg s) (h : Poda s s') :
    Sana cfg s' where
  neighbour := hs.neighbour.sublist (h.neighbour.map _)
  arp := hs.arp.sublist (h.arp.map _)
  tcp := hs.tcp.sublist (h.tcp.map _)
  salida := fun e he => hs.salida e (h.arp.subset he)
  origen := fun e he => hs.origen e (h.tcp.subset he)

section Runs

variable {cfg : Config D} {c : Cabeceras} {σ σ' : Simulacion D} {e : Evento D}

/-- **What an event does to the tables**: the changes of a frame that came in through a port, or
    the erasures of a timer. -/
theorem paso_sw (h : paso cfg c σ e = some σ') :
    (∃ t ind draws, e.suceso = .recibe t ind draws ∧ cfg.esPuerto t.incomingPort = true ∧
      ReflTransGen (Cambio cfg e.now t (EsSynAck cfg c ind σ.sw t)) σ.sw σ'.sw) ∨
    (∀ t ind draws, e.suceso ≠ .recibe t ind draws) ∧ Poda σ.sw σ'.sw := by
  obtain ⟨⟨s', envios⟩, hat, h⟩ := Option.bind_eq_some_iff.mp h
  split at h
  · cases h
  · rename_i hn
    cases h
    rw [programa_sw]
    unfold atiende at hat
    cases hs : e.suceso with
    | recibe t ind draws =>
      simp only [hs] at hat
      split at hat
      · rename_i hin
        exact .inl ⟨t, ind, draws, rfl, hin, receiveFromDevice_cambios hat (by simpa using hn)⟩
      · cases hat
    | sendPeriodicHello =>
      simp only [hs, cleanNeighbour_eq, Option.map_some, Option.some.injEq, Prod.mk.injEq] at hat
      rw [← hat.1]
      exact .inr ⟨by simp, filter_sublist, .refl _, .refl _⟩
    | cleanTcpTable =>
      simp only [hs, cleanTcpTable_eq, Option.map_some, Option.some.injEq, Prod.mk.injEq] at hat
      rw [← hat.1]
      exact .inr ⟨by simp, .refl _, .refl _, filter_sublist⟩
    | cleanArpTable =>
      simp only [hs, cleanArpTable_eq, Option.map_some, Option.some.injEq, Prod.mk.injEq] at hat
      rw [← hat.1]
      exact .inr ⟨by simp, .refl _, filter_sublist, .refl _⟩

theorem Sana.paso (hs : Sana cfg σ.sw) (h : Tfe.paso cfg c σ e = some σ') : Sana cfg σ'.sw := by
  rcases paso_sw h with ⟨t, ind, draws, -, hin, hc⟩ | ⟨-, hp⟩
  · exact hs.cambios hin hc
  · exact hs.poda hp

theorem sana_construye (cfg : Config D) (t0 : Time) (a b : UInt16) :
    Sana cfg (construye t0 a b : Simulacion D).sw := by
  constructor <;> simp [construye]

/-- **The tables are sound in every run**, whatever order frames and timers come in. -/
theorem sana_run {t0 : Time} {a b : UInt16} {ok : Simulacion D → Evento D → Prop}
    (h : Run (paso cfg c) ok (construye t0 a b) σ) : Sana cfg σ.sw :=
  h.invariant (I := fun σ => Sana cfg σ.sw) (sana_construye cfg t0 a b)
    fun _ _ _ hs _ hp => hs.paso hp

end Runs

/-- **Key uniqueness**: one entry per device, per address and per directed flow. -/
theorem keys_unique (cfg : Config D) (c : Cabeceras) (t0 : Time) (a b : UInt16)
    (σ : Simulacion D) (h : Run (paso cfg c) Libre (construye t0 a b) σ) :
    (σ.sw.neighbour.map (·.device)).Nodup ∧ (σ.sw.arpTable.map (·.macAddr)).Nodup ∧
      (σ.sw.tcpTable.map TcpEntry.clave).Nodup :=
  ⟨(sana_run h).neighbour, (sana_run h).arp, (sana_run h).tcp⟩

/-- The headers of ns-3, where they have what the switch reads. -/
def cabecerasNs3 : Cabeceras where
  ethGetDestination b := macAt b 0
  arpIsRequest b := decide (be16 (byteAt b 6) (byteAt b 7) = 1)
  tcpGetFlags b := byteAt b 13 &&& 0x3f
  tcpGetSourcePort b := be16 (byteAt b 0) (byteAt b 1)
  tcpGetDestinationPort b := be16 (byteAt b 2) (byteAt b 3)

/-- An ARP message with the given operation. -/
def mensajeArp (op : UInt8) : Paquete :=
  ⟨[0, 1, 8, 0, 6, 4, 0, op] ++ List.replicate 20 0, [.header .arp 28]⟩

/-- A TCP segment over IPv4 with the given ports and flags. -/
def segmento (sport dport : UInt16) (flags : UInt8) : Paquete :=
  ⟨List.replicate 20 0 ++ hton16 sport ++ hton16 dport ++ List.replicate 9 0 ++ [flags] ++
    List.replicate 6 0, [.header .ipv4 20, .header .tcp 20]⟩

/-- The station number `n`. -/
def estacion (n : UInt8) : EthAddr := fun _ => n

/-- Some value for what is indeterminate. -/
def ceros : Indet := ⟨.tcpSyn, fun _ => 0⟩

def nucleoNs3 : Config Nat := { agregado with hierarchy := .core }

/-- The two timers of the beginning, a hello on port 10, an ARP request of station 1 and its SYN
    to station 2. -/
def saludo : List (Evento Nat) :=
  [⟨0, .cleanTcpTable⟩, ⟨1000, .sendPeriodicHello⟩,
    ⟨2000, .recibe ⟨10, helloPacket (estacion 9), helloProt, estacion 9, ethAddrBroadcast,
      .broadcast⟩ ceros []⟩,
    ⟨3000, .recibe ⟨20, mensajeArp 1, 2054, estacion 1, ethAddrBroadcast, .broadcast⟩ ceros [0]⟩,
    ⟨4000, .recibe ⟨20, segmento 4000 80 2, 2048, estacion 1, estacion 2, .otherhost⟩ ceros [0]⟩]

theorem keys_unique_saludo : ∃ σ, Run (paso nucleoNs3 cabecerasNs3) Libre (construye 0 0 0) σ ∧
    σ.sw.neighbour.length = 1 ∧ σ.sw.arpTable.length = 1 ∧ σ.sw.tcpTable.length = 1 ∧
    (σ.sw.neighbour.map (·.device)).Nodup ∧ (σ.sw.arpTable.map (·.macAddr)).Nodup ∧
      (σ.sw.tcpTable.map TcpEntry.clave).Nodup :=
  Run.exists_exec₃ saludo (by decide) fun σ => keys_unique nucleoNs3 cabecerasNs3 0 0 0 σ

/-! ## 5. Where the entries of the ARP table come from -/

/-- Was a frame with source `m` received on the device `p`? -/
def recibida (es : List (Evento D)) (m : EthAddr) (p : D) : Bool :=
  es.any fun e =>
    match e.suceso with
    | .recibe t _ _ => decide (t.src = m) && decide (t.incomingPort = p)
    | _ => false

/-- A SYN-ACK that `ModeTcppath` handles goes to an address the ARP table has. -/
def DestinoConocido (cfg : Config D) (c : Cabeceras) (σ : Simulacion D) (e : Evento D) : Prop :=
  match e.suceso with
  | .recibe t ind _ => EsSynAck cfg c ind σ.sw t → Sabe σ.sw t.dst
  | _ => True

instance (s : Estado D) (addr : EthAddr) : Decidable (Sabe s addr) :=
  inferInstanceAs (Decidable (∃ e ∈ s.arpTable, e.macAddr = addr))

instance (cfg : Config D) (c : Cabeceras) (σ : Simulacion D) (e : Evento D) :
    Decidable (DestinoConocido cfg c σ e) :=
  match e with
  | ⟨_, .recibe _ _ _⟩ => inferInstanceAs (Decidable (_ → _))
  | ⟨_, .sendPeriodicHello⟩ => inferInstanceAs (Decidable True)
  | ⟨_, .cleanTcpTable⟩ => inferInstanceAs (Decidable True)
  | ⟨_, .cleanArpTable⟩ => inferInstanceAs (Decidable True)

section Procedencia

variable {cfg : Config D} {c : Cabeceras} {σ σ' : Simulacion D} {e : Evento D}
  {es : List (Evento D)} {m : EthAddr} {p : D}

theorem recibida_append (h : recibida es m p = true) (e : Evento D) :
    recibida (es ++ [e]) m p = true := by
  unfold recibida at h ⊢
  rw [any_append, h, Bool.true_or]

theorem recibida_last {t : Trama D} {ind : Indet} {draws : List Nat}
    (he : e.suceso = .recibe t ind draws) (es : List (Evento D)) :
    recibida (es ++ [e]) t.src t.incomingPort = true := by
  simp [recibida, he]

theorem paso_procedencia (h : paso cfg c σ e = some σ') (hok : DestinoConocido cfg c σ e)
    {x : ArpEntry D} (hx : x ∈ σ'.sw.arpTable) : Heredada σ.sw x ∨
      ∃ t ind draws, e.suceso = .recibe t ind draws ∧ cfg.esPuerto t.incomingPort = true ∧
        x.macAddr = t.src ∧ x.outputDevice = some t.incomingPort := by
  rcases paso_sw h with ⟨t, ind, draws, he, hin, hc⟩ | ⟨-, hp⟩
  · rcases cambios_arp hc hx with hh | ⟨h1, h2⟩ | ⟨hsyn, hno, -⟩
    · exact .inl hh
    · exact .inr ⟨t, ind, draws, he, hin, h1, h2⟩
    · have hok' : EsSynAck cfg c ind σ.sw t → Sabe σ.sw t.dst := by
        simpa [DestinoConocido, he] using hok
      exact absurd (hok' hsyn) hno
  · exact .inl ⟨x, hp.arp.subset hx, rfl, rfl⟩

end Procedencia

/-- **ARP-table soundness**: in a run whose SYN-ACKs go to known addresses, every entry has a
    port of the switch on which a frame from its address was received. -/
theorem arp_entry_from_source (cfg : Config D) (c : Cabeceras) (t0 : Time) (a b : UInt16)
    (es : List (Evento D)) (σ : Simulacion D)
    (h : exec (paso cfg c) (DestinoConocido cfg c) es (construye t0 a b) = some σ)
    (x : ArpEntry D) (hx : x ∈ σ.sw.arpTable) :
    ∃ p, x.outputDevice = some p ∧ cfg.esPuerto p = true ∧ recibida es x.macAddr p = true := by
  have hall : ∀ x ∈ σ.sw.arpTable, ∃ p, x.outputDevice = some p ∧ cfg.esPuerto p = true ∧
      recibida es x.macAddr p = true := by
    refine exec_history (I := fun es σ => ∀ x ∈ σ.sw.arpTable, ∃ p, x.outputDevice = some p ∧
      cfg.esPuerto p = true ∧ recibida es x.macAddr p = true) h (by simp [construye]) ?_
    intro H σ e σ' _ ih hok hp x hx
    rcases paso_procedencia hp hok hx with ⟨y, hy, hm, hd⟩ | ⟨t, ind, draws, he, hin, hm, hd⟩
    · obtain ⟨p, h1, h2, h3⟩ := ih y hy
      exact ⟨p, hd ▸ h1, h2, recibida_append (hm ▸ h3) e⟩
    · exact ⟨_, hd, hin, hm ▸ recibida_last he H⟩
  exact hall x hx

theorem arp_entry_from_source_saludo : ∃ σ,
    exec (paso nucleoNs3 cabecerasNs3) (DestinoConocido nucleoNs3 cabecerasNs3) saludo
      (construye 0 0 0) = some σ ∧
    ∃ x ∈ σ.sw.arpTable, x.macAddr = estacion 1 ∧ ∃ p, x.outputDevice = some p ∧
      nucleoNs3.esPuerto p = true ∧ recibida saludo x.macAddr p = true := by
  obtain ⟨σ, hσ, x, hx, hm⟩ : ∃ σ, exec (paso nucleoNs3 cabecerasNs3)
      (DestinoConocido nucleoNs3 cabecerasNs3) saludo (construye 0 0 0) = some σ ∧
      ∃ x ∈ σ.sw.arpTable, x.macAddr = estacion 1 := by decide
  exact ⟨σ, hσ, x, hx, hm, arp_entry_from_source nucleoNs3 cabecerasNs3 0 0 0 saludo σ hσ x hx⟩

/-- The SYN of station 1 comes in on port 20, the SYN-ACK of station 2 on port 10. -/
def saludoTcp : List (Evento Nat) :=
  [⟨0, .cleanTcpTable⟩, ⟨1000, .sendPeriodicHello⟩,
    ⟨2000, .recibe ⟨20, segmento 4000 80 2, 2048, estacion 1, estacion 2, .otherhost⟩ ceros [0]⟩,
    ⟨3000, .recibe ⟨10, segmento 80 4000 18, 2048, estacion 2, estacion 1, .otherhost⟩ ceros []⟩]

/-- Then the table has station 1 behind port 10, where no frame of its came from. -/
theorem arp_entry_without_source : ∃ σ,
    exec (paso nucleoNs3 cabecerasNs3) EnHora saludoTcp (construye 0 0 0) = some σ ∧
    ∃ x ∈ σ.sw.arpTable, x.macAddr = estacion 1 ∧ x.outputDevice = some 10 ∧
      recibida saludoTcp (estacion 1) 10 = false ∧ recibida saludoTcp (estacion 1) 20 = true := by
  decide

end TcpPath.Tfe
