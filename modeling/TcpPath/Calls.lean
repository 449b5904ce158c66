/-
  Subject:   The calls by which one frame changes the tables of a switch, with the arguments they
             are made with and the lookups that guard them.

  `pipeline_arp_path` looks up the source of the frame and learns or renews it (`Origen`), then it
  looks up the destination and renews it or starts a repair (`Destino`). `pipeline_tcp_path` makes
  entries for the 4-tuple of the frame (`TcpLlamada`) and renews the source address without any
  lookup (`MacLlamada.tcp`). The frame may have been turned back into a segment before (`Forma`).
-/
import TcpPath.Decoder
import TcpPath.Pipeline

namespace TcpPath

open Util

/-! ## 1. The frame on its way through the pipeline -/

/-- What the functions of the pipeline may have before them when `pkt` is processed: `pkt`, or what
    `desencapsulate_path_request_tcp` made of it. -/
inductive Forma (parse : Parser) (pkt : Packet) : Packet → Prop where
  | igual : Forma parse pkt pkt
  | desencapsula {q q' : Packet} {h : Nat} {op : UInt8} (hq : Forma parse pkt q)
      (hp : q.proto.path = some h) (hd : desencapsulatePathRequestTcp parse q op = some q') :
      Forma parse pkt q'

/-- What the send part of `pipeline_tcp_path` has before it: the frame, or the PATH request made of
    it, or the PATH frame with its hop counted. -/
inductive Envio (parse : Parser) (q : Packet) : Packet → Prop where
  | igual : Envio parse q q
  | encapsula {idDp sec : Nat} {r : Packet × Nat}
      (h : encapsulatePathRequestTcp parse idDp sec q = some r) : Envio parse q r.1
  | cuenta {h : Nat} (hp : q.proto.path = some h) : Envio parse q (switchTrackTcp parse q h)

/-- The 4-tuples a frame makes entries for. -/
def Packet.Clave (q : Packet) (key : CmpTableTcp) : Prop :=
  (∃ t, q.proto.tcp = some t ∧ key = q.key t) ∨
    ∃ h, q.proto.path = some h ∧ key = q.keyTo q.trailerMac h

theorem Forma.inPort {parse : Parser} {pkt q : Packet} (h : Forma parse pkt q) :
    q.inPort = pkt.inPort := by
  induction h with
  | igual => rfl
  | desencapsula _ _ hd ih =>
    rw [← ih]
    unfold desencapsulatePathRequestTcp at hd
    split at hd
    · cases hd
      rfl
    · cases hd

section Origen

variable {parse : Parser} (hley : LeyDecodificador parse) {pkt q q' : Packet}
include hley

theorem Forma.origen (hv : pkt.Leido parse) (h : Forma parse pkt q) :
    q.Leido parse ∧ q.ethSrc = pkt.ethSrc := by
  induction h with
  | igual => exact ⟨hv, rfl⟩
  | desencapsula _ hp hd ih =>
    obtain ⟨hv', hsrc⟩ := ih
    exact ⟨leido_desencapsula hd, (ethSrc_desencapsula hley hv' hp hd).1.trans hsrc⟩

theorem Envio.ethSrc (hv : q.Leido parse) (h : Envio parse q q') : q'.ethSrc = q.ethSrc := by
  cases h with
  | igual => rfl
  | encapsula h => exact ethSrc_encapsula hley hv h
  | cuenta hp => exact ethSrc_switchTrack hley hv hp

end Origen

/-! ## 2. The calls -/

/-- Is the frame one that `pipeline_arp_path` or `apply_recovery` learns its source from? -/
def ensenaOrigen (n : Nodo) (q : Packet) : Bool :=
  q.isFlooded || ensenaUnicast q || (n.cfg.recuperacion && q.ethType == 39031)

/-- What is done about the source of `q`, from its lookup on. -/
inductive Origen (n : Nodo) (nt : MacTable) (now : Nat) (q : Packet) (t : MacTable) :
    MacTable → Prop where
  | busca : Origen n nt now q t (macToPortFoundPort t q.ethSrc now).2
  | aprende (time : Nat) (he : ensenaOrigen n q = true)
      (h : (macToPortFoundPort t q.ethSrc now).1 = none) :
      Origen n nt now q t
        (macToPortAddArpTable t q.ethSrc q.inPort time (isNeighbor nt q.inPort) now)
  | renueva (time : Nat) (h : (macToPortFoundPort t q.ethSrc now).1 ≠ none) :
      Origen n nt now q t
        (macToPortTimeRefresh (macToPortFoundPort t q.ethSrc now).2 q.ethSrc time now)
  /-- `mac_to_port_update` is reached only where a live entry is not the first of its address. -/
  | mueve (time : Nat) (h : ¬ Unico now t) :
      Origen n nt now q t
        (macToPortUpdate (macToPortFoundPort t q.ethSrc now).2 q.ethSrc q.inPort time now).2

/-- One call about a destination. -/
inductive Destino (n : Nodo) (now : Nat) : MacTable → MacTable → Prop where
  | busca (t : MacTable) (mac : EthAddr) : Destino n now t (macToPortFoundPort t mac now).2
  | renueva (t : MacTable) (mac : EthAddr) (time : Nat)
      (h : (macToPortFoundPort t mac now).1 ≠ none) :
      Destino n now t (macToPortTimeRefresh t mac time now)
  | borra (t : MacTable) (port : Nat) (h : n.cfg.recuperacion = true) :
      Destino n now t (macToPortDeletePort t port)

/-- One call on `mac_port` while `pkt` is processed. -/
inductive MacLlamada (n : Nodo) (nt : MacTable) (now : Nat) (pkt : Packet) :
    MacTable → MacTable → Prop where
  | origen {t t' : MacTable} {q : Packet} (hq : Forma n.parse pkt q)
      (h : Origen n nt now q t t') : MacLlamada n nt now pkt t t'
  | destino {t t' : MacTable} (h : Destino n now t t') : MacLlamada n nt now pkt t t'
  /-- The unguarded renewal of `pipeline_tcp_path`. -/
  | tcp {t : MacTable} {q q' : Packet} (hq : Forma n.parse pkt q) (he : Envio n.parse q q')
      (hcfg : n.cfg.tcpPath ≠ 0) (ht : pkt.proto.tcp.isSome ∨ pkt.proto.path.isSome) :
      MacLlamada n nt now pkt t (macToPortTimeRefresh t q'.ethSrc ltTime now)

/-- One call on `tcp_table` while `pkt` is processed. -/
inductive TcpLlamada (parse : Parser) (now : Nat) (pkt : Packet) :
    TcpTable → TcpTable → Prop where
  | add {t : TcpTable} {q : Packet} {key : CmpTableTcp} (hq : Forma parse pkt q)
      (hk : q.Clave key) (h : tableTcpFoundPortIn t key = none) :
      TcpLlamada parse now pkt t (tableTcpAdd t key q.inPort tcpTime now)
  | updateTime (t : TcpTable) (key : CmpTableTcp) :
      TcpLlamada parse now pkt t (tableTcpUpdateTime t key tcpTime now)
  | updatePort {t : TcpTable} {q : Packet} {h : Nat} (hq : Forma parse pkt q)
      (ht : q.proto.tcp = some h) :
      TcpLlamada parse now pkt t (tableTcpUpdatePort t (q.key h) q.inPort tcpTime now).2
  | found (t : TcpTable) (key : CmpTableTcp) :
      TcpLlamada parse now pkt t (tableTcpFoundPort t key).2

/-- The tables change by such calls, and `neighbor_table` does not change. -/
structure Llama (n : Nodo) (now : Nat) (pkt : Packet) (s s' : Switch) : Prop where
  mac : Relation.ReflTransGen (MacLlamada n s.neighborTable now pkt) s.macPort s'.macPort
  tcp : Relation.ReflTransGen (TcpLlamada n.parse now pkt) s.tcpTable s'.tcpTable
  vecinos : s'.neighborTable = s.neighborTable

/-- Only calls about destinations, and only on `mac_port`. -/
structure Reenvia (n : Nodo) (now : Nat) (s s' : Switch) : Prop where
  mac : Relation.ReflTransGen (Destino n now) s.macPort s'.macPort
  tcp : s'.tcpTable = s.tcpTable
  vecinos : s'.neighborTable = s.neighborTable

section

variable {n : Nodo} {now : Nat} {pkt : Packet} {s s' s'' : Switch}

theorem Llama.rfl' : Llama n now pkt s s := ⟨.refl, .refl, rfl⟩

theorem Llama.trans (h : Llama n now pkt s s') (h' : Llama n now pkt s' s'') :
    Llama n now pkt s s'' :=
  ⟨h.mac.trans (h.vecinos ▸ h'.mac), h.tcp.trans h'.tcp, h'.vecinos.trans h.vecinos⟩

theorem Llama.ofMac (h : MacLlamada n s.neighborTable now pkt s.macPort s'.macPort)
    (ht : s'.tcpTable = s.tcpTable) (hv : s'.neighborTable = s.neighborTable) :
    Llama n now pkt s s' :=
  ⟨.single h, ht ▸ .refl, hv⟩

theorem Llama.ofTcp (hm : s'.macPort = s.macPort)
    (h : TcpLlamada n.parse now pkt s.tcpTable s'.tcpTable)
    (hv : s'.neighborTable = s.neighborTable) : Llama n now pkt s s' :=
  ⟨hm ▸ .refl, .single h, hv⟩

theorem Reenvia.rfl' : Reenvia n now s s := ⟨.refl, rfl, rfl⟩

theorem Reenvia.trans (h : Reenvia n now s s') (h' : Reenvia n now s' s'') :
    Reenvia n now s s'' :=
  ⟨h.mac.trans h'.mac, h'.tcp.trans h.tcp, h'.vecinos.trans h.vecinos⟩

theorem Reenvia.uno (h : Destino n now s.macPort s'.macPort) (ht : s'.tcpTable = s.tcpTable)
    (hv : s'.neighborTable = s.neighborTable) : Reenvia n now s s' :=
  ⟨.single h, ht, hv⟩

theorem Reenvia.llama (h : Reenvia n now s s') : Llama n now pkt s s' :=
  ⟨Relation.ReflTransGen.mono (fun _ _ hd => MacLlamada.destino hd) _ _ h.mac, h.tcp ▸ .refl,
    h.vecinos⟩

/-! ## 3. ARP-Path -/

variable {q : Packet}

theorem iniciaRecuperacion_reenvia {delete : MacTable → MacTable}
    (h : ∀ t, delete t = t ∨ Destino n now t (delete t)) :
    Reenvia n now s (iniciaRecuperacion now s q delete).1 ∧
      Efecto.packetDestroy ∉ (iniciaRecuperacion now s q delete).2 := by
  unfold iniciaRecuperacion
  dsimp only
  split
  · refine ⟨?_, by simp⟩
    rcases h s.macPort with h | h
    · exact ⟨h.symm ▸ .refl, rfl, rfl⟩
    · exact .uno h rfl rfl
  · exact ⟨⟨.refl, rfl, rfl⟩, by simp⟩

variable {r : Switch × List Efecto} {mac : EthAddr} {t' : TcpTable} {q' : Packet} {t : Nat}
  {p : PasoTcp} {puertoMac : Option Nat}

theorem arpPathSendUnicast_reenvia {outPort : Option Nat}
    (hp : outPort ≠ none → (macToPortFoundPort s.macPort q.ethDst now).1 ≠ none)
    (h : arpPathSendUnicast n now s q outPort = some r) :
    Reenvia n now s r.1 ∧ Efecto.packetDestroy ∉ r.2 := by
  unfold arpPathSendUnicast at h
  cases outPort with
  | some p =>
    have hf := hp (Option.some_ne_none p)
    dsimp only at h
    split at h
    · cases h
      exact ⟨.uno (.renueva _ _ _ hf) rfl rfl, by simp⟩
    · rename_i hrec
      obtain ⟨vivo, _, rfl⟩ := Option.map_eq_some_iff.mp h
      split
      · exact ⟨.uno (.renueva _ _ _ hf) rfl rfl, by simp⟩
      · exact iniciaRecuperacion_reenvia fun t => .inr (.borra t p (by simpa using hrec))
  | none =>
    dsimp only at h
    split at h
    · cases h
      exact ⟨.rfl', List.not_mem_nil⟩
    · cases h
      exact iniciaRecuperacion_reenvia fun t => .inl rfl

theorem found_again {t : MacTable} (h : (macToPortFoundPort t mac now).1 ≠ none) :
    (macToPortFoundPort (macToPortFoundPort t mac now).2 mac now).1 ≠ none := by
  refine fun hnone => h (foundPort_eq_none_iff.mpr fun e he => ?_)
  exact foundPort_eq_none_iff.mp hnone e ((foundPort_perm t mac now).mem_iff.mpr he)

/-- A live entry that `mac_to_port_check_timeout` takes for expired is not the first of its
    address. -/
theorem not_unico_of_checkTimeout {t : MacTable} (hf : (macToPortFoundPort t mac now).1 ≠ none)
    (hc : macToPortCheckTimeout (macToPortFoundPort t mac now).2 mac now ≠ 0) : ¬ Unico now t :=
  fun hu => hc ((hu.found mac).checkTimeout_of_found (found_again hf))

theorem aprendeInundado_origen {t t' : MacTable} (hfl : q.isFlooded = true)
    (h : aprendeInundado now { s with macPort := (macToPortFoundPort t q.ethSrc now).2 } q
      (macToPortFoundPort t q.ethSrc now).1 = some t') : Origen n s.neighborTable now q t t' := by
  unfold aprendeInundado at h
  dsimp only at h
  split at h
  · rename_i hnone
    cases h
    rw [macToPortFoundPort_of_none hnone]
    exact .aprende _ (by rw [ensenaOrigen, hfl]; rfl) hnone
  · rename_i hsome
    split at h
    · cases h
      exact .renueva _ hsome
    · split at h
      · rename_i hc
        cases h
        exact .mueve _ (not_unico_of_checkTimeout hsome hc)
      · cases h

theorem aprendeLt_origen {t : MacTable} (hen : ensenaUnicast q = true) :
    Origen n s.neighborTable now q t
      (aprendeLt now { s with macPort := (macToPortFoundPort t q.ethSrc now).2 } q
        (macToPortFoundPort t q.ethSrc now).1) := by
  unfold aprendeLt
  dsimp only
  split
  · rename_i hnone
    rw [macToPortFoundPort_of_none hnone]
    exact .aprende _ (by rw [ensenaOrigen, hen, Bool.or_true]; rfl) hnone
  · rename_i hsome
    split
    · rename_i hc
      exact .mueve _ (not_unico_of_checkTimeout hsome (by rw [hc]; exact Nat.one_ne_zero))
    · exact .renueva _ hsome

/-- **`pipeline_arp_path` in two phases**: the source, then the destination. -/
theorem pipelineArpPath_fases (h : pipelineArpPath n now s q = some r) :
    ∃ t, Origen n s.neighborTable now q s.macPort t ∧
      Reenvia n now { s with macPort := t } r.1 := by
  unfold pipelineArpPath at h
  dsimp only at h
  split at h
  · rename_i hfl
    split at h
    · rename_i t ht
      cases h
      exact ⟨t, aprendeInundado_origen hfl ht, .rfl'⟩
    · cases h
      exact ⟨_, .busca, .rfl'⟩
  · -- unicast: whatever was done about the source, a lookup of the destination follows
    have hdst : ∀ t, arpPathSendUnicast n now
          { s with macPort := (macToPortFoundPort t q.ethDst now).2 } q
          (macToPortFoundPort t q.ethDst now).1 = some r →
        Reenvia n now { s with macPort := t } r.1 := by
      intro t hr
      have h1 : Reenvia n now { s with macPort := t }
          { s with macPort := (macToPortFoundPort t q.ethDst now).2 } := .uno (.busca _ _) rfl rfl
      exact h1.trans (arpPathSendUnicast_reenvia found_again hr).1
    split at h
    · rename_i hen
      exact ⟨_, aprendeLt_origen hen, hdst _ h⟩
    · exact ⟨_, .busca, hdst _ h⟩

theorem pipelineArpPath_llama (hq : Forma n.parse pkt q) (h : pipelineArpPath n now s q = some r) :
    Llama n now pkt s r.1 := by
  obtain ⟨t, ht, hr⟩ := pipelineArpPath_fases h
  have h1 : Llama n now pkt s { s with macPort := t } := .ofMac (.origen hq ht) rfl rfl
  exact h1.trans hr.llama

theorem applyRecovery_origen {type : Nat}
    (htype : type = 2 → n.cfg.recuperacion = true ∧ pkt.ethType = 39031)
    (hc : macToPortCheckTimeout s.macPort pkt.ethSrc now ≠ 0) :
    ∃ t, (t = s.macPort ∨ Origen n s.neighborTable now pkt s.macPort t) ∧
      (applyRecovery now s pkt type).1 = { s with macPort := t } := by
  unfold applyRecovery
  dsimp only
  split
  · rename_i h2
    obtain ⟨hrec, hty⟩ := htype h2
    split
    · rename_i hnone
      refine ⟨_, .inr (.aprende timeRecovery ?_ hnone), ?_⟩
      · rw [ensenaOrigen, hrec, hty, Bool.true_and, beq_self_eq_true, Bool.or_true]
      · rw [macToPortFoundPort_of_none hnone]
    · rename_i hsome
      refine ⟨_, .inr (.mueve timeRecovery fun hu => hc (hu.checkTimeout_of_found hsome)), ?_⟩
      split <;> rfl
  · exact ⟨_, .inl rfl, by split <;> rfl⟩

/-! ## 4. TCP-Path -/

theorem registraSyn_llama (hq : Forma n.parse pkt q) {t : TcpTable} {key : CmpTableTcp}
    (hk : q.Clave key) (h : registraSyn now t key q.inPort = some t') :
    TcpLlamada n.parse now pkt t t' := by
  unfold registraSyn at h
  split at h
  · rename_i hnone
    cases h
    exact .add hq hk hnone
  · split at h
    · cases h
      exact .updateTime _ _
    · cases h

theorem selectPacketTcpPath_llama (hq : Forma n.parse pkt q) {h : Nat} (hp : q.proto.path = some h)
    {t : TcpTable} (hs : selectPacketTcpPath n now t q = some (some (q', t'))) :
    Forma n.parse pkt q' ∧ Relation.ReflTransGen (TcpLlamada n.parse now pkt) t t' := by
  unfold selectPacketTcpPath at hs
  cases hd : desencapsulatePathRequestTcp n.parse q q.trailerOp with
  | none =>
    rw [hd] at hs
    cases hs
  | some q₁ =>
    have hq₁ : Forma n.parse pkt q₁ := .desencapsula hq hp hd
    rw [hd] at hs
    dsimp only at hs
    split at hs
    · cases hs
    · rename_i k hk
      split at hs
      · rename_i hnone
        cases hs
        exact ⟨hq₁, .single (.add hq₁ (.inl ⟨k, hk, rfl⟩) hnone)⟩
      · split at hs
        · cases hs
          exact ⟨hq₁, .refl⟩
        · cases hs

/-- Where the first half of `pipeline_tcp_path` leaves the switch. -/
def PasoTcp.switch (s : Switch) : PasoTcp → Switch
  | arp => s
  | descarta s' => s'
  | sigue s' _ _ => s'

/-- The packet it hands to the send part. -/
def PasoTcp.Sale (parse : Parser) (pkt : Packet) : PasoTcp → Prop
  | sigue _ q' _ => ∃ q, Forma parse pkt q ∧ Envio parse q q'
  | _ => True

theorem pasoSegmento_llama (hq : Forma n.parse pkt q) (ht : q.proto.tcp = some t)
    (h : pasoSegmento n now s q t = some p) :
    Llama n now pkt s (p.switch s) ∧ p.Sale n.parse pkt := by
  unfold pasoSegmento at h
  split at h
  · cases h
  · cases h
    exact ⟨.rfl', trivial⟩
  · dsimp only at h
    split at h
    · cases h
      exact ⟨.ofTcp rfl (.updatePort hq ht) rfl, q, hq, .igual⟩
    · split at h
      · split at h
        · cases h
          exact ⟨.rfl', trivial⟩
        · rename_i tabla htabla
          have h1 : Llama n now pkt s { s with tcpTable := tabla } :=
            .ofTcp rfl (registraSyn_llama hq (.inl ⟨t, ht, rfl⟩) htabla) rfl
          split at h
          · obtain ⟨r, hr, rfl⟩ := Option.map_eq_some_iff.mp h
            exact ⟨h1.trans ⟨.refl, .refl, rfl⟩, q, hq, .encapsula hr⟩
          · cases h
            exact ⟨h1.trans (.ofMac (.destino (.busca _ _)) rfl rfl), q, hq, .igual⟩
      · cases h
        exact ⟨.ofTcp rfl (.found _ _) rfl, q, hq, .igual⟩

theorem pasoPath_llama (hq : Forma n.parse pkt q) (ht : q.proto.path = some t)
    (h : pasoPath n now s q t = some p) : Llama n now pkt s (p.switch s) ∧ p.Sale n.parse pkt := by
  unfold pasoPath at h
  dsimp only at h
  split at h
  · split at h
    · cases h
      refine ⟨.ofTcp rfl ?_ rfl, q, hq, .cuenta ht⟩
      show TcpLlamada n.parse now pkt s.tcpTable (ite _ _ _)
      split
      · rename_i hnone
        exact .add hq (.inr ⟨t, ht, rfl⟩) hnone
      · exact .updateTime _ _
    · split at h
      · cases h
      · cases h
        exact ⟨.rfl', trivial⟩
      · rename_i q' tabla hsel
        cases h
        obtain ⟨hq', htcp⟩ := selectPacketTcpPath_llama hq ht hsel
        have h1 : Llama n now pkt s { s with tcpTable := tabla } := ⟨.refl, htcp, rfl⟩
        exact ⟨h1.trans (.ofMac (.destino (.busca _ _)) rfl rfl), q', hq', .igual⟩
  · cases h
    exact ⟨.rfl', trivial⟩

theorem recuperaPorFlujo_llama (now : Nat) (pkt : Packet) {r : Recuperado}
    (h : recuperaPorFlujo n s q t = some r) : Llama n now pkt s r.s ∧ r.pkt = q ∧
      (r.destruido = false → Efecto.packetDestroy ∉ r.efectos) := by
  have h1 : Llama n now pkt s { s with tcpTable := (tableTcpFoundPort s.tcpTable
      ⟨q.ethSrc, q.ethDst, q.tcpSrc t, 0⟩).2 } := .ofTcp rfl (.found _ _) rfl
  unfold recuperaPorFlujo at h
  dsimp only at h
  split at h
  · obtain ⟨vivo, _, rfl⟩ := Option.map_eq_some_iff.mp h
    split
    · exact ⟨h1, rfl, nofun⟩
    · exact ⟨h1, rfl, fun _ => List.not_mem_nil⟩
  · cases h
    exact ⟨h1, rfl, fun _ => List.not_mem_nil⟩

/-- `recovery_tcp_path` asks for destinations only, whatever packet it has, and destroys it where it
    says so. -/
theorem recoveryTcpPath_llama (pkt : Packet) {r : Recuperado}
    (h : recoveryTcpPath n now s q puertoMac = some r) :
    Llama n now pkt s r.s ∧ (Forma n.parse pkt q → Forma n.parse pkt r.pkt) ∧
      (r.destruido = false → Efecto.packetDestroy ∉ r.efectos) := by
  unfold recoveryTcpPath at h
  obtain ⟨q', hq', h⟩ := Option.bind_eq_some_iff.mp h
  obtain ⟨t, _, h⟩ := Option.bind_eq_some_iff.mp h
  obtain ⟨directo, _, h⟩ := Option.bind_eq_some_iff.mp h
  have hforma : Forma n.parse pkt q → Forma n.parse pkt q' := by
    intro hq
    unfold segmentoDe at hq'
    split at hq'
    · rename_i k hk
      exact .desencapsula hq hk hq'
    · cases hq'
      exact hq
  have h1 : Reenvia n now s
      { s with macPort := (macToPortFoundPort s.macPort q'.ethDst now).2 } :=
    .uno (.busca _ _) rfl rfl
  split at h
  · obtain ⟨u, hu, rfl⟩ := Option.map_eq_some_iff.mp h
    obtain ⟨h2, hno⟩ := arpPathSendUnicast_reenvia found_again hu
    exact ⟨(h1.trans h2).llama, hforma, fun _ => hno⟩
  · obtain ⟨h2, hpkt, hno⟩ := recuperaPorFlujo_llama now pkt h
    exact ⟨h1.llama.trans h2, hpkt ▸ hforma, hno⟩

theorem tcpEnvia_llama (hq : Forma n.parse pkt q) (he : Envio n.parse q q')
    (hcfg : n.cfg.tcpPath ≠ 0) (ht : pkt.proto.tcp.isSome ∨ pkt.proto.path.isSome)
    {r : Switch × List Efecto × Nat} (h : tcpEnvia n now s q' puertoMac = some r) :
    Llama n now pkt s r.1 := by
  unfold tcpEnvia at h
  dsimp only at h
  have h1 : Llama n now pkt s
      { s with macPort := macToPortTimeRefresh s.macPort q'.ethSrc ltTime now } :=
    .ofMac (.tcp hq he hcfg ht) rfl rfl
  split at h
  · cases h
    exact h1
  · split at h
    · cases h
    · cases h
      refine h1.trans ?_
      split
      · exact .ofTcp rfl (.updateTime _ _) rfl
      · exact .rfl'
    · split at h
      · split at h
        · cases h
        · rename_i r' hr'
          split at h
          · cases h
          · cases h
            exact h1.trans (recoveryTcpPath_llama pkt hr').1
      · cases h
        exact h1

theorem pipelineTcpPath_llama (hq : Forma n.parse pkt q) (hcfg : n.cfg.tcpPath ≠ 0)
    (ht : pkt.proto.tcp.isSome ∨ pkt.proto.path.isSome) {r : Switch × List Efecto × Nat}
    (h : pipelineTcpPath n now s q = some r) : Llama n now pkt s r.1 := by
  obtain ⟨p, hp, hr⟩ := Option.bind_eq_some_iff.mp h
  obtain ⟨hpaso, hsale⟩ : Llama n now pkt s (p.switch s) ∧ p.Sale n.parse pkt := by
    unfold pasoTcp at hp
    cases htcp : q.proto.tcp with
    | some t =>
      rw [htcp] at hp
      exact pasoSegmento_llama hq htcp hp
    | none =>
      rw [htcp] at hp
      cases hpath : q.proto.path with
      | some k =>
        rw [hpath] at hp
        exact pasoPath_llama hq hpath hp
      | none =>
        rw [hpath] at hp
        cases hp
        exact ⟨.rfl', q, hq, .igual⟩
  cases p with
  | arp =>
    cases hr
    exact .rfl'
  | descarta s' =>
    cases hr
    exact hpaso
  | sigue s' q' puertoMac =>
    obtain ⟨q₁, hq₁, he⟩ := hsale
    exact hpaso.trans (tcpEnvia_llama hq₁ he hcfg ht hr)

/-! ## 5. The whole pipeline -/

theorem recuperaSiVuelve_llama (hq : Forma n.parse pkt q) {r : Recuperado}
    (h : recuperaSiVuelve n now s q t = some r) :
    Llama n now pkt s r.s ∧ Forma n.parse pkt r.pkt ∧
      (r.destruido = false → Efecto.packetDestroy ∉ r.efectos) := by
  unfold recuperaSiVuelve at h
  dsimp only at h
  have h1 : Llama n now pkt s
      { s with tcpTable := (tableTcpFoundPort s.tcpTable (q.key t).inverso).2 } :=
    .ofTcp rfl (.found _ _) rfl
  split at h
  · obtain ⟨h2, h3, hno⟩ := recoveryTcpPath_llama pkt h
    exact ⟨h1.trans h2, h3 hq, hno⟩
  · cases h
    exact ⟨h1, hq, fun _ => List.not_mem_nil⟩

theorem recuperaTcp_llama {r : Recuperado} (h : recuperaTcp n now s pkt = some r) :
    Llama n now pkt s r.s ∧ Forma n.parse pkt r.pkt ∧ Efecto.packetDestroy ∉ r.efectos := by
  unfold recuperaTcp at h
  obtain ⟨r1, hr1, h⟩ := Option.bind_eq_some_iff.mp h
  obtain ⟨h1, hq, hno⟩ : Llama n now pkt s r1.s ∧ Forma n.parse pkt r1.pkt ∧
      (r1.destruido = false → Efecto.packetDestroy ∉ r1.efectos) := by
    split at hr1
    · exact recuperaSiVuelve_llama .igual hr1
    · cases hr1
      exact ⟨.rfl', .igual, fun _ => List.not_mem_nil⟩
  split at h
  · cases h
  · rename_i hd
    have hno := hno (Bool.not_eq_true _ ▸ hd)
    split at h
    · obtain ⟨r2, hr2, h⟩ := Option.bind_eq_some_iff.mp h
      split at h
      · cases h
      · rename_i hd2
        cases h
        obtain ⟨h2, h3, hno2⟩ := recuperaSiVuelve_llama hq hr2
        have hno2 := hno2 (Bool.not_eq_true _ ▸ hd2)
        exact ⟨h1.trans h2, h3, fun hm => (List.mem_append.mp hm).elim hno hno2⟩
    · cases h
      exact ⟨h1, hq, hno⟩

/-- The frames that only ARP-Path sees. -/
def SoloArp (n : Nodo) (pkt : Packet) : Prop :=
  n.cfg.tcpPath = 0 ∨ (pkt.proto.tcp = none ∧ pkt.proto.path = none)

/-- The calls on `mac_port` for such a frame: at most one about its source, made in the table as it
    was, and then those about its destination. -/
def Fases (n : Nodo) (now : Nat) (pkt : Packet) (s s' : Switch) : Prop :=
  ∃ t, (t = s.macPort ∨ Origen n s.neighborTable now pkt s.macPort t) ∧
    Relation.ReflTransGen (Destino n now) t s'.macPort

theorem pipelineArpPath_solo (h : pipelineArpPath n now s pkt = some r) :
    Llama n now pkt s r.1 ∧ (SoloArp n pkt → Fases n now pkt s r.1) := by
  obtain ⟨t, ht, hr⟩ := pipelineArpPath_fases h
  exact ⟨pipelineArpPath_llama .igual h, fun _ => ⟨t, .inr ht, hr.mac⟩⟩

theorem despacha_llama (h : despacha n now s pkt = some r) :
    Llama n now pkt s r.1 ∧ (SoloArp n pkt → Fases n now pkt s r.1) := by
  unfold despacha at h
  split at h
  · cases h
    exact ⟨.rfl', fun _ => ⟨_, .inl rfl, .refl⟩⟩
  · split at h
    · exact pipelineArpPath_solo h
    · rename_i hcfg
      split at h
      · rename_i htp
        refine ⟨?_, ?_⟩
        · split at h
          · cases h
          · rename_i r1 hr1
            obtain ⟨h1, hq, _⟩ : Llama n now pkt s r1.s ∧ Forma n.parse pkt r1.pkt ∧
                Efecto.packetDestroy ∉ r1.efectos := by
              split at hr1
              · exact recuperaTcp_llama hr1
              · cases hr1
                exact ⟨.rfl', .igual, List.not_mem_nil⟩
            split at h
            · cases h
            · rename_i s2 efs ret hr2
              have h2 := h1.trans (pipelineTcpPath_llama hq hcfg htp hr2)
              split at h
              · obtain ⟨x, hx, rfl⟩ := Option.map_eq_some_iff.mp h
                exact h2.trans (pipelineArpPath_llama hq hx :)
              · cases h
                exact h2
        · rintro (h0 | ⟨h1, h2⟩)
          · exact absurd h0 hcfg
          · rw [h1, h2] at htp
            simp at htp
      · exact pipelineArpPath_solo h

/-- The frames the pipeline may learn from: the frame as received, and as the flow tables left
    it. -/
def tramas (tablas : Tablas) (pkt : Packet) : List Packet := pkt :: (tablas pkt).pkt.toList

/-- **A frame is a hello, or it changes the tables by guarded calls**, in every configuration and
    whatever the flow tables do. -/
theorem pipelineProcessUah_llama {tablas : Tablas}
    (h : pipelineProcessUah n now tablas s pkt = some r) :
    (packetHandleStdIsTtlValid pkt = true ∧ esHello pkt = true ∧ r.1 = recibeHello now s pkt) ∨
      ((packetHandleStdIsTtlValid pkt && esHello pkt) = false ∧ ∃ f ∈ tramas tablas pkt,
        Llama n now f s r.1 ∧ (SoloArp n f → Fases n now f s r.1)) := by
  have hself : pkt ∈ tramas tablas pkt := List.mem_cons_self
  cases pipelineProcessUah_recorrido n now h with
  | hello httl hh => exact .inl ⟨httl, hh, rfl⟩
  | recupera type hh hrec htype =>
    refine .inr ⟨by rw [hh, Bool.and_false], pkt, hself, ?_⟩
    -- the table before is the one that `mac_to_port_check_timeout` saw
    obtain ⟨t, ht, he⟩ := applyRecovery_origen (fun h2 => ⟨hrec.1, htype h2⟩) hrec.2.2
    rw [he]
    refine ⟨?_, fun _ => ⟨t, ht, .refl⟩⟩
    rcases ht with rfl | ht
    · exact .rfl'
    · exact .ofMac (.origen .igual ht) rfl rfl
  | tablas hh hq =>
    exact .inr ⟨by rw [hh, Bool.and_false], pkt, hself, ⟨.refl, .refl, rfl⟩,
      fun _ => ⟨_, .inl rfl, .refl⟩⟩
  | @despacha httl hh hrec f hf _ hr =>
    refine .inr ⟨by rw [hh, Bool.and_false], ?_⟩
    obtain ⟨x, hx, rfl⟩ := Option.map_eq_some_iff.mp hr
    obtain ⟨h1, h2⟩ := despacha_llama hx
    refine ⟨f, List.mem_cons_of_mem _ (by rw [hf]; exact List.mem_singleton_self f),
      ⟨h1.mac, h1.tcp, h1.vecinos⟩, fun hs => ?_⟩
    exact h2 hs

end

end TcpPath
