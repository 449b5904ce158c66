/-
  Subject:   What a switch learns from the frames it receives: where the entries of its tables come
             from, and when an expired entry comes back.

  In a reachable state the first entry of an address is the live one, if it has one. Therefore
  `mac_to_port_update` is never called on `mac_port`, and a renewal that follows a successful
  lookup of the same address renews the live entry. `pipeline_tcp_path` renews without a lookup.

  Results:   `maquina_no_revive`: what revives an expired entry;
             `maquina_revive_tcp`: TCP-Path does;
             `maquina_aprendizaje`: entries come from frames, lookups return ports;
             `maquina_aprende_local`: the local port is learned.
-/
import TcpPath.SwitchRuns

namespace TcpPath

open Util List

/-! ## 1. Entries and the calls -/

section Llamadas

variable {n : Nodo} {nt : MacTable} {now : Nat} {pkt : Packet} {t t' : MacTable} {s s' : Switch}

theorem MacLlamada.unico (h : MacLlamada n nt now pkt t t') (hu : Unico now t) : Unico now t' :=
  macCambios_unico h.cambios hu

/-- **The invariant rule for the calls of one frame**, in a table where live entries come first. -/
theorem macLlamadas_invariant {I : MacTable → Prop}
    (h : Relation.ReflTransGen (MacLlamada n nt now pkt) t t') (hu : Unico now t) (h0 : I t)
    (hstep : ∀ t t', Unico now t → I t → MacLlamada n nt now pkt t t' → I t') : I t' := by
  have hboth : Unico now t' ∧ I t' := by
    induction h with
    | refl => exact ⟨hu, h0⟩
    | tail _ hc ih => exact ⟨hc.unico ih.1, hstep _ _ ih.1 ih.2 hc⟩
  exact hboth.2

variable {e : MacPortTime} {P : EthAddr → Nat → Nat → Prop}

theorem mem_timeRefresh {mac : EthAddr} {time : Nat} (h : e ∈ macToPortTimeRefresh t mac time now) :
    e ∈ t ∨ ∃ e', t.find? (·.hasMac mac) = some e' ∧ e = e'.refresh (now + time * 1000) :=
  mem_modifyFirst h

theorem live_timeRefresh (mac : EthAddr) (time : Nat) (h : e ∈ t) (hl : e.live now = true) :
    ∃ e' ∈ macToPortTimeRefresh t mac time now, e'.mac = e.mac ∧ e'.live now = true := by
  rcases mem_modifyFirst_of_mem (p := fun e => e.hasMac mac)
    (fun e => e.refresh (now + time * 1000)) h with h | h
  · exact ⟨e, h, rfl, hl⟩
  · exact ⟨_, h, rfl, MacPortTime.live_refresh hl⟩

theorem MacLlamada.cumple (h : MacLlamada n nt now pkt t t') (hu : Unico now t)
    (hnueva : ∀ q, Forma n.parse pkt q → P q.ethSrc (port16 q.inPort) (isNeighbor nt q.inPort))
    (ht : ∀ e ∈ t, P e.mac e.portIn e.vecino) : ∀ e ∈ t', P e.mac e.portIn e.vecino := by
  have hfound : ∀ mac, ∀ e ∈ (macToPortFoundPort t mac now).2, P e.mac e.portIn e.vecino :=
    fun mac e he => ht e ((foundPort_perm t mac now).mem_iff.mp he)
  have hrenueva : ∀ (l : MacTable) mac time, (∀ e ∈ l, P e.mac e.portIn e.vecino) →
      ∀ e ∈ macToPortTimeRefresh l mac time now, P e.mac e.portIn e.vecino := by
    intro l mac time hl e he
    rcases mem_timeRefresh he with he | ⟨e', he', rfl⟩
    · exact hl e he
    · exact hl e' (mem_of_find?_eq_some he')
  cases h with
  | origen hq h =>
    cases h with
    | busca => exact hfound _
    | aprende time _ _ =>
      intro e he
      rcases mem_cons.mp he with rfl | he
      · exact hnueva _ hq
      · exact ht e he
    | renueva time _ => exact hrenueva _ _ _ (hfound _)
    | mueve time hn => exact absurd hu hn
  | destino h =>
    cases h with
    | busca mac => exact hfound mac
    | renueva mac time _ => exact hrenueva _ _ _ ht
    | borra port _ => exact fun e he => ht e ((macToPortDeletePort_sublist t port).subset he)
  | tcp _ _ _ _ => exact hrenueva _ _ _ ht

theorem Llama.cumple (h : Llama n now pkt s s') (hu : Unico now s.macPort)
    (hnueva : ∀ q, Forma n.parse pkt q →
      P q.ethSrc (port16 q.inPort) (isNeighbor s.neighborTable q.inPort))
    (hs : ∀ e ∈ s.macPort, P e.mac e.portIn e.vecino) :
    ∀ e ∈ s'.macPort, P e.mac e.portIn e.vecino :=
  macLlamadas_invariant (I := fun t => ∀ e ∈ t, P e.mac e.portIn e.vecino) h.mac hu hs
    fun _ _ hu ht hc => hc.cumple hu hnueva ht

/-- The ports of a TCP entry belong to its flow: `P key port` says that a frame with the 4-tuple
    `key` came in through `port`. -/
def TableTcpTime.DeFlujo (P : CmpTableTcp → Nat → Prop) (e : TableTcpTime) : Prop :=
  P e.key e.portIn ∧ (e.portOut = 0 ∨ P e.key.inverso e.portOut)

theorem TcpLlamada.deFlujo {parse : Parser} {P : CmpTableTcp → Nat → Prop} {t t' : TcpTable}
    (h : TcpLlamada parse now pkt t t')
    (hnueva : ∀ q key, Forma parse pkt q → q.Clave key → P key (port16 q.inPort))
    (ht : ∀ e ∈ t, e.DeFlujo P) : ∀ e ∈ t', e.DeFlujo P := by
  intro e he
  cases h with
  | add hq hk _ =>
    rcases mem_cons.mp he with rfl | he
    · exact ⟨hnueva _ _ hq hk, .inl rfl⟩
    · exact ht e he
  | updateTime key =>
    rcases mem_modifyFirst he with he | ⟨e', he', rfl⟩
    · exact ht e he
    · exact ht e' (mem_of_find?_eq_some he')
  | updatePort hq hk =>
    rename_i q k
    rcases mem_modifyFirst he with he | ⟨e', he', rfl⟩
    · exact ht e he
    · -- the frame of the opposite direction gives `port_out`
      have hkey : e'.key = (q.key k).inverso := by simpa using find?_some he'
      refine ⟨(ht e' (mem_of_find?_eq_some he')).1, .inr ?_⟩
      show P e'.key.inverso (port16 q.inPort)
      rw [hkey, CmpTableTcp.inverso_inverso]
      exact hnueva q _ hq (.inl ⟨k, hk, rfl⟩)
  | found key => exact ht e ((toFront_perm _ _ _).mem_iff.mp he)

theorem Llama.deFlujo {P : CmpTableTcp → Nat → Prop} (h : Llama n now pkt s s')
    (hnueva : ∀ q key, Forma n.parse pkt q → q.Clave key → P key (port16 q.inPort))
    (hs : ∀ e ∈ s.tcpTable, e.DeFlujo P) : ∀ e ∈ s'.tcpTable, e.DeFlujo P := by
  obtain ⟨_, htcp, _⟩ := h
  generalize s'.tcpTable = t at htcp
  induction htcp with
  | refl => exact hs
  | tail _ hc ih => exact hc.deFlujo hnueva ih

end Llamadas

/-! ## 2. Expired entries -/

/-- No entry of `mac` behind `port` is live. -/
def Apagada (mac : EthAddr) (port now : Nat) (t : MacTable) : Prop :=
  ∀ e ∈ t, e.mac = mac → e.portIn = port → e.live now = false

namespace Apagada

variable {n : Nodo} {nt : MacTable} {M mac : EthAddr} {p now now' : Nat} {t t' : MacTable}

theorem advance (h : Apagada M p now t) (hle : now ≤ now') : Apagada M p now' t :=
  fun e he hm hp => Bool.eq_false_iff.mpr fun hl =>
    Bool.eq_false_iff.mp (h e he hm hp) (MacPortTime.live_mono hle hl)

theorem subset (h : Apagada M p now t) (hs : t' ⊆ t) : Apagada M p now t' :=
  fun e he => h e (hs he)

theorem found (h : Apagada M p now t) (mac : EthAddr) :
    Apagada M p now (macToPortFoundPort t mac now).2 :=
  h.subset (foundPort_perm t mac now).subset

theorem renuevaOtra (h : Apagada M p now t) (hne : mac ≠ M) (time : Nat) :
    Apagada M p now (macToPortTimeRefresh t mac time now) := by
  intro e he hm hp
  rcases mem_timeRefresh he with he | ⟨e', he', rfl⟩
  · exact h e he hm hp
  · exact absurd ((MacPortTime.hasMac_iff.mp (find?_some he')).symm.trans hm) hne

theorem renueva (h : Apagada M p now t) (hu : Unico now t)
    (hf : (macToPortFoundPort t mac now).1 ≠ none) (time : Nat) :
    Apagada M p now (macToPortTimeRefresh t mac time now) := by
  intro e he hm hp
  rcases mem_timeRefresh he with he | ⟨e', he', rfl⟩
  · exact h e he hm hp
  · obtain ⟨q, hq⟩ := Option.ne_none_iff_exists'.mp hf
    obtain ⟨x, hx, rfl, hlive, _⟩ := mem_of_foundPort hq
    rw [hu.find?_of_live hx hlive] at he'
    cases he'
    have hdead := h e' hx hm hp
    rw [hlive] at hdead
    cases hdead

theorem destino (h : Apagada M p now t) (hu : Unico now t) (hd : Destino n now t t') :
    Apagada M p now t' := by
  cases hd with
  | busca mac => exact h.found mac
  | renueva mac time hf => exact h.renueva hu hf time
  | borra port _ => exact h.subset (macToPortDeletePort_sublist t port).subset

theorem destinos (h : Apagada M p now t) (hu : Unico now t)
    (hd : Relation.ReflTransGen (Destino n now) t t') : Apagada M p now t' := by
  have hboth : Unico now t' ∧ Apagada M p now t' := by
    induction hd with
    | refl => exact ⟨hu, h⟩
    | tail _ hc ih => exact ⟨hc.cambio.unico ih.1, ih.2.destino ih.1 hc⟩
  exact hboth.2

theorem origen {q : Packet} (h : Apagada M p now t) (hu : Unico now t)
    (hno : q.ethSrc = M → port16 q.inPort = p → ensenaOrigen n q = true →
      (macToPortFoundPort t M now).1 ≠ none)
    (ho : Origen n nt now q t t') : Apagada M p now t' := by
  cases ho with
  | busca => exact h.found _
  | aprende time hen hnone =>
    intro e he hm hp
    rcases mem_cons.mp he with rfl | he
    · exact absurd (hm ▸ hnone) (hno hm hp hen)
    · exact h e he hm hp
  | renueva time hf => exact (h.found _).renueva (hu.found _) (found_again hf) time
  | mueve time hn => exact absurd hu hn

end Apagada

theorem MacLlamada.found_ne_none {n : Nodo} {nt : MacTable} {now : Nat} {pkt : Packet}
    {t t' : MacTable} {M : EthAddr} (hrec : n.cfg.recuperacion = false)
    (h : MacLlamada n nt now pkt t t') (hu : Unico now t)
    (hf : (macToPortFoundPort t M now).1 ≠ none) : (macToPortFoundPort t' M now).1 ≠ none := by
  -- what is found afterwards is decided by the live entries
  have hlive : ∀ {l l' : MacTable}, (macToPortFoundPort l M now).1 ≠ none →
      (∀ e ∈ l, e.mac = M → e.live now = true → ∃ e' ∈ l', e'.mac = M ∧ e'.live now = true) →
      (macToPortFoundPort l' M now).1 ≠ none := by
    intro l l' hl hmap hnone
    obtain ⟨p, hp⟩ := Option.ne_none_iff_exists'.mp hl
    obtain ⟨e, he, hm, hlv, _⟩ := mem_of_foundPort hp
    obtain ⟨e', he', hm', hlv'⟩ := hmap e he hm hlv
    rw [foundPort_eq_none_iff.mp hnone e' he' hm'] at hlv'
    cases hlv'
  have hfound : ∀ {l : MacTable} mac, (macToPortFoundPort l M now).1 ≠ none →
      (macToPortFoundPort (macToPortFoundPort l mac now).2 M now).1 ≠ none := fun mac hl =>
    hlive hl fun e he hm hlv => ⟨e, (foundPort_perm _ mac now).mem_iff.mpr he, hm, hlv⟩
  have hrenueva : ∀ {l : MacTable} mac time, (macToPortFoundPort l M now).1 ≠ none →
      (macToPortFoundPort (macToPortTimeRefresh l mac time now) M now).1 ≠ none := by
    intro l mac time hl
    refine hlive hl fun e he hm hlv => ?_
    obtain ⟨e', he', hm', hlv'⟩ := live_timeRefresh mac time he hlv
    exact ⟨e', he', hm'.trans hm, hlv'⟩
  cases h with
  | origen hq h =>
    cases h with
    | busca => exact hfound _ hf
    | aprende time _ _ =>
      exact hlive hf fun e he hm hlv => ⟨e, mem_cons_of_mem _ he, hm, hlv⟩
    | renueva time _ => exact hrenueva _ _ (hfound _ hf)
    | mueve time hn => exact absurd hu hn
  | destino h =>
    cases h with
    | busca mac => exact hfound mac hf
    | renueva mac time _ => exact hrenueva mac time hf
    | borra port h => exact absurd (hrec.symm.trans h) Bool.false_ne_true
  | tcp _ _ _ _ => exact hrenueva _ _ hf

/-- What may happen to a switch without the port `p` coming back for the address `M`: while no entry
    of `M` is live, no frame of `M` takes TCP-Path, and none from `p` is one to learn from. -/
def SinRevivir (n : Nodo) (M : EthAddr) (p : Nat) (m : Maquina) : Suceso → Prop
  | .trama tablas pkt now => ∀ f ∈ tramas tablas pkt, f.Valido n.parse ∧ (f.ethSrc = M →
      ((macToPortFoundPort m.sw.macPort M now).1 ≠ none ∧ n.cfg.recuperacion = false) ∨
      (SoloArp n f ∧ (port16 f.inPort = p → ensenaOrigen n f = true →
        (macToPortFoundPort m.sw.macPort M now).1 ≠ none)))
  | _ => True

section Revivir

variable {n : Nodo} {M : EthAddr} {p now : Nat} {s s' : Switch} {f : Packet}

theorem apagada_ajena (hley : LeyDecodificador n.parse) (hv : f.Valido n.parse)
    (hsrc : f.ethSrc ≠ M) (hu : Unico now s.macPort) (h : Llama n now f s s')
    (ha : Apagada M p now s.macPort) : Apagada M p now s'.macPort := by
  refine macLlamadas_invariant h.mac hu ha fun t t' hu ha hc => ?_
  cases hc with
  | origen hq ho =>
    refine ha.origen hu (fun heq => ?_) ho
    exact absurd ((hq.origen hley hv.leido).2.symm.trans heq) hsrc
  | destino hd => exact ha.destino hu hd
  | tcp hq he _ _ =>
    obtain ⟨hl, hsrc'⟩ := hq.origen hley hv.leido
    refine ha.renuevaOtra ?_ ltTime
    rw [he.ethSrc hley hl, hsrc']
    exact hsrc

theorem apagada_viva (hrec : n.cfg.recuperacion = false) (hu : Unico now s.macPort)
    (hf : (macToPortFoundPort s.macPort M now).1 ≠ none) (h : Llama n now f s s')
    (ha : Apagada M p now s.macPort) : Apagada M p now s'.macPort := by
  have hI := macLlamadas_invariant
    (I := fun t => Apagada M p now t ∧ (macToPortFoundPort t M now).1 ≠ none) h.mac hu ⟨ha, hf⟩
    fun t t' hu hI hc => ?_
  · exact hI.1
  obtain ⟨ha, hf⟩ := hI
  refine ⟨?_, hc.found_ne_none hrec hu hf⟩
  cases hc with
  | origen hq ho => exact ha.origen hu (fun _ _ _ => hf) ho
  | destino hd => exact ha.destino hu hd
  | tcp hq he hcfg htp =>
    rename_i q q'
    by_cases hsrc : q'.ethSrc = M
    · exact ha.renueva hu (hsrc ▸ hf) ltTime
    · exact ha.renuevaOtra hsrc ltTime

theorem apagada_arp (hu : Unico now s.macPort)
    (hno : f.ethSrc = M → port16 f.inPort = p → ensenaOrigen n f = true →
      (macToPortFoundPort s.macPort M now).1 ≠ none)
    (h : Fases n now f s s') (ha : Apagada M p now s.macPort) : Apagada M p now s'.macPort := by
  obtain ⟨t, rfl | ho, hd⟩ := h
  · exact ha.destinos hu hd
  · exact (ha.origen hu hno ho).destinos (macCambios_unico ho.cambios hu) hd

end Revivir

/-- **Expired entries are not revived.** Without a live entry of `M` behind `p`, a lookup returns
`p` for `M` again only after a frame of `M` from `p`, or one that takes TCP-Path without a live
entry. -/
theorem maquina_no_revive {n : Nodo} (hley : LeyDecodificador n.parse) {m m' : Maquina}
    (h : m.Alcanzable n) {M : EthAddr} {p : Nat}
    (hexp : ∀ e ∈ m.sw.macPort, e.mac = M → e.portIn = p → e.live m.now = false)
    (hrun : Run (Maquina.paso n) (SinRevivir n M p) m m') :
    (macToPortFoundPort m'.sw.macPort M m'.now).1 ≠ some p := by
  have hI : Unico m'.now m'.sw.macPort ∧ Apagada M p m'.now m'.sw.macPort := by
    refine Run.invariant
      (I := fun m : Maquina => Unico m.now m.sw.macPort ∧ Apagada M p m.now m.sw.macPort) hrun
      ⟨Maquina.alcanzable_unico h, hexp⟩ ?_
    rintro m e m' ⟨hu, ha⟩ hok hs
    refine ⟨Maquina.paso_unico hs hu, ?_⟩
    obtain ⟨hle, ⟨tablas, pkt, r, rfl, hr, hsw⟩ | ⟨_, hsub, _, _⟩⟩ := Maquina.paso_cases hs
    · replace hu := hu.advance hle
      replace ha := ha.advance hle
      rw [hsw]
      rcases pipelineProcessUah_llama hr with ⟨_, _, heq⟩ | ⟨_, f, hf, hl, hfases⟩
      · rw [heq]
        exact ha
      · obtain ⟨hv, hM⟩ := hok f hf
        by_cases hsrc : f.ethSrc = M
        · rcases hM hsrc with ⟨hviva, hrec⟩ | ⟨hsolo, hno⟩
          · exact apagada_viva hrec hu hviva hl ha
          · exact apagada_arp hu (fun _ => hno) (hfases hsolo) ha
        · exact apagada_ajena hley hv hsrc hu hl ha
    · exact (ha.advance hle).subset hsub.subset
  intro hp
  obtain ⟨e, he, hm, hlive, hport⟩ := mem_of_foundPort hp
  rw [hI.2 e he hm hport] at hlive
  cases hlive

/-- A host behind port 1 of a switch whose neighbour there has said hello; its entry expires, and at
    20 s it is learned behind port 2. -/
theorem maquina_no_revive_muda :
    ∃ m m' : Maquina, m.Alcanzable ⟨decodifica, ⟨0, false⟩, dosPuertos⟩ ∧
      (m.sw.macPort.map fun e => (e.portIn, e.expired m.now)) = [(1, true)] ∧
      (macToPortFoundPort m'.sw.macPort (tramaDe 7 0 0 0).ethSrc m'.now).1 = some 2 ∧
      (macToPortFoundPort m'.sw.macPort (tramaDe 7 0 0 0).ethSrc m'.now).1 ≠ some 1 := by
  obtain ⟨m, m', h, hmap, hpaso, hfound⟩ := Run.exists_exec_and
    (Maquina.paso ⟨decodifica, ⟨0, false⟩, dosPuertos⟩) (fun _ _ => True)
    [.trama sinTablas (tramaDe 9 0x76 0x98 1) 0, .trama sinTablas (tramaDe 7 0x88 0xb5 1) 0,
      .reloj 20000] ⟨Switch.inicial, 0⟩
    (fun m m' => (m.sw.macPort.map fun e => (e.portIn, e.expired m.now)) = [(1, true)] ∧
      m.paso ⟨decodifica, ⟨0, false⟩, dosPuertos⟩
        (.trama sinTablas (tramaDe 7 0x88 0xb5 2) 20000) = some m' ∧
      (macToPortFoundPort m'.sw.macPort (tramaDe 7 0 0 0).ethSrc m'.now).1 = some 2) (by decide)
  refine ⟨m, m', h, hmap, hfound,
    maquina_no_revive decodifica_ley h (fun e he _ _ => ?_) (.tail .refl (fun f hf => ?_) hpaso)⟩
  · have hexp : (e.portIn, e.expired m.now) ∈ [(1, true)] :=
      hmap ▸ mem_map_of_mem (f := fun e => (e.portIn, e.expired m.now)) he
    refine Bool.eq_false_iff.mpr fun hl => ?_
    rw [MacPortTime.not_expired_of_live hl] at hexp
    simp at hexp
  · obtain rfl : f = tramaDe 7 0x88 0xb5 2 := by simpa [tramas, sinTablas] using hf
    exact ⟨rfl, fun _ => .inr ⟨.inl rfl, fun hp => by cases hp⟩⟩

/-- **TCP-Path revives an expired entry.** The entry of a host behind port 1 has expired; a SYN of
    the host arrives on port 2, and port 1 is found for it again. -/
theorem maquina_revive_tcp :
    ∃ m m' : Maquina, m.Alcanzable ⟨decodifica, ⟨1, false⟩, dosPuertos⟩ ∧
      (m.sw.macPort.map fun e => (e.portIn, e.vecino, e.expired m.now)) = [(1, 0, true)] ∧
      m.paso ⟨decodifica, ⟨1, false⟩, dosPuertos⟩ (.trama sinTablas (synDe 2) m.now) = some m' ∧
      (macToPortFoundPort m.sw.macPort (synDe 2).ethSrc m.now).1 = none ∧
      (macToPortFoundPort m'.sw.macPort (synDe 2).ethSrc m'.now).1 = some 1 :=
  Run.exists_exec_and _ _ [.trama sinTablas (tramaDe 9 0x76 0x98 1) 0,
    .trama sinTablas (tramaDe 1 0x88 0xb5 1) 0, .reloj 20000] _ _ (by decide)

/-! ## 3. Where the entries come from -/

/-- The frame, or the segment in it, has the 4-tuple `key`. -/
def Packet.DeFlujo (parse : Parser) (f : Packet) (key : CmpTableTcp) : Prop :=
  ∃ q, Forma parse f q ∧ q.Clave key

/-- The frames of a run. -/
def recibidas (es : List Suceso) : List Packet := es.flatMap Suceso.tramas

/-- Every entry was made by a frame among `fs`: the port of a MAC entry is that of a frame from its
    address, `port_in` of a TCP entry that of a frame of its flow, and `port_out`, once it is set,
    that of a frame of the opposite direction. -/
structure Aprendido (parse : Parser) (fs : List Packet) (s : Switch) : Prop where
  mac : ∀ e ∈ s.macPort, ∃ f ∈ fs, f.ethSrc = e.mac ∧ port16 f.inPort = e.portIn
  tcp : ∀ e ∈ s.tcpTable,
    e.DeFlujo fun key p => ∃ f ∈ fs, f.DeFlujo parse key ∧ port16 f.inPort = p

section Aprendido

variable {n : Nodo} {now : Nat} {fs fs' : List Packet} {s s' : Switch} {f : Packet}

theorem Aprendido.mono {parse : Parser} (h : Aprendido parse fs s) (hsub : fs ⊆ fs') :
    Aprendido parse fs' s := by
  refine ⟨fun e he => ?_, fun e he => ?_⟩
  · obtain ⟨f, hf, h1⟩ := h.mac e he
    exact ⟨f, hsub hf, h1⟩
  · obtain ⟨⟨f, hf, h1⟩, h2⟩ := h.tcp e he
    refine ⟨⟨f, hsub hf, h1⟩, h2.imp_right ?_⟩
    rintro ⟨g, hg, h3⟩
    exact ⟨g, hsub hg, h3⟩

theorem Aprendido.llama (hley : LeyDecodificador n.parse) (h : Aprendido n.parse fs s)
    (hu : Unico now s.macPort) (hf : f ∈ fs) (hv : f.Valido n.parse) (hl : Llama n now f s s') :
    Aprendido n.parse fs s' := by
  refine ⟨?_, ?_⟩
  · refine hl.cumple (P := fun mac p _ => ∃ f ∈ fs, f.ethSrc = mac ∧ port16 f.inPort = p) hu
      (fun q hq => ⟨f, hf, ?_, ?_⟩) h.mac
    · exact (hq.origen hley hv.leido).2.symm
    · rw [hq.inPort]
  · refine hl.deFlujo (fun q key hq hk => ⟨f, hf, ⟨q, hq, hk⟩, ?_⟩) h.tcp
    rw [hq.inPort]

theorem aprendido_of_exec (hley : LeyDecodificador n.parse) {es : List Suceso} {m : Maquina}
    (hrun : exec (Maquina.paso n) (fun _ _ => True) es ⟨Switch.inicial, 0⟩ = some m)
    (hv : ∀ f ∈ recibidas es, f.Valido n.parse) : Aprendido n.parse (recibidas es) m.sw := by
  refine exec_history (I := fun es m => (∀ f ∈ recibidas es, f.Valido n.parse) →
    Aprendido n.parse (recibidas es) m.sw) hrun ?_ ?_ hv
  · exact fun _ => ⟨fun e he => absurd he not_mem_nil, fun e he => absurd he not_mem_nil⟩
  intro es m e m' hr hI _ hs hv
  have hsplit : recibidas (es ++ [e]) = recibidas es ++ e.tramas := by
    unfold recibidas
    rw [flatMap_append, flatMap_singleton]
  rw [hsplit] at hv ⊢
  have hold : Aprendido n.parse (recibidas es ++ e.tramas) m.sw :=
    (hI fun f hf => hv f (mem_append_left _ hf)).mono (subset_append_left _ _)
  obtain ⟨hle, ⟨tablas, pkt, r, rfl, hr', hsw⟩ | ⟨_, hmac, htcp, _⟩⟩ := Maquina.paso_cases hs
  · rw [hsw]
    rcases pipelineProcessUah_llama hr' with ⟨_, _, heq⟩ | ⟨_, f, hf, hl, _⟩
    · rw [heq]
      exact ⟨hold.mac, hold.tcp⟩
    · have hmem := mem_append_right (recibidas es) hf
      exact hold.llama hley ((Maquina.alcanzable_unico hr).advance hle) hmem (hv f hmem) hl
  · exact ⟨fun e he => hold.mac e (hmac.subset he), fun e he => hold.tcp e (htcp.subset he)⟩

end Aprendido

/-- The ports that the lookups return, and that `dp->ports` is indexed with, exist. -/
structure PuertosExisten (dp : Datapath) (s : Switch) : Prop where
  mac : ∀ mac now p, (macToPortFoundPort s.macPort mac now).1 = some p → dp.physical p
  tcpIn : ∀ key p, tableTcpFoundPortIn s.tcpTable key = some p → dp.physical p
  tcp : ∀ key p, (tableTcpFoundPort s.tcpTable key).1 = some p → 0 < p → dp.physical p
  update : ∀ key inPort time now, 0 < (tableTcpUpdatePort s.tcpTable key inPort time now).1 →
    dp.physical (tableTcpUpdatePort s.tcpTable key inPort time now).1

theorem Aprendido.puertosExisten {parse : Parser} {fs : List Packet} {s : Switch} {dp : Datapath}
    (h : Aprendido parse fs s) (hfs : ∀ f ∈ fs, dp.physical f.inPort) : PuertosExisten dp s := by
  have hport : ∀ f ∈ fs, dp.physical (port16 f.inPort) := fun f hf =>
    (dp.port16_physical (hfs f hf)).symm ▸ hfs f hf
  have hin : ∀ e ∈ s.tcpTable, dp.physical e.portIn := by
    intro e he
    obtain ⟨⟨f, hf, _, hp⟩, _⟩ := h.tcp e he
    exact hp ▸ hport f hf
  have hout : ∀ e ∈ s.tcpTable, 0 < e.portOut → dp.physical e.portOut := by
    intro e he hpos
    rcases (h.tcp e he).2 with h0 | ⟨f, hf, _, hp⟩
    · omega
    · exact hp ▸ hport f hf
  refine ⟨fun mac now p hp => ?_, fun key p hp => ?_, fun key p hp hpos => ?_,
    fun key inPort time now hpos => ?_⟩
  · obtain ⟨e, he, _, _, rfl⟩ := mem_of_foundPort hp
    obtain ⟨f, hf, _, hp⟩ := h.mac e he
    exact hp ▸ hport f hf
  · obtain ⟨e, he, rfl⟩ := Option.map_eq_some_iff.mp hp
    exact hin e (mem_of_find?_eq_some he)
  · obtain ⟨e, he, hhit⟩ := exists_of_findSome?_eq_some hp
    unfold tcpHit at hhit
    split at hhit
    · cases hhit
      exact hout e he hpos
    · split at hhit
      · cases hhit
        exact hin e he
      · cases hhit
  · unfold tableTcpUpdatePort at hpos ⊢
    cases hf : s.tcpTable.find? fun e => decide (e.key = key.inverso) with
    | none =>
      rw [hf] at hpos
      exact absurd hpos (Nat.lt_irrefl 0)
    | some e => exact hin e (mem_of_find?_eq_some hf)

/-- **Learning soundness and port range.** If all frames come from physical ports, every entry was
made by a frame from its port, lookups return existing ports at every point, and a second broadcast
on the port of its live entry is flooded. -/
theorem maquina_aprendizaje {n : Nodo} (hley : LeyDecodificador n.parse) {es : List Suceso}
    {m : Maquina}
    (hrun : exec (Maquina.paso n) (fun _ _ => True) es ⟨Switch.inicial, 0⟩ = some m)
    (hes : ∀ f ∈ recibidas es, f.Valido n.parse ∧ n.dp.physical f.inPort) :
    (∀ e ∈ m.sw.macPort, ∃ f ∈ recibidas es, f.ethSrc = e.mac ∧ f.inPort = e.portIn) ∧
    (∀ e ∈ m.sw.tcpTable,
      (∃ f ∈ recibidas es, f.DeFlujo n.parse e.key ∧ f.inPort = e.portIn) ∧
      (e.portOut ≠ 0 →
        ∃ f ∈ recibidas es, f.DeFlujo n.parse e.key.inverso ∧ f.inPort = e.portOut)) ∧
    (∀ f now s', f.Valido n.parse → n.dp.physical f.inPort → m.now ≤ now →
      Llama n now f m.sw s' → PuertosExisten n.dp s') ∧
    ∀ e ∈ m.sw.macPort, ∀ f now, m.now ≤ now → e.live now = true → f.ethSrc = e.mac →
      f.inPort = e.portIn → f.isFlooded = true →
      ∃ s', pipelineArpPath n now m.sw f = some (s', [.outputPort f ofppRandom]) := by
  have hap := aprendido_of_exec hley hrun fun f hf => (hes f hf).1
  have hu := Maquina.alcanzable_unico (Maquina.alcanzable_of_exec hrun)
  have h16 : ∀ f ∈ recibidas es, port16 f.inPort = f.inPort :=
    fun f hf => n.dp.port16_physical (hes f hf).2
  refine ⟨fun e he => ?_, fun e he => ⟨?_, fun hpos => ?_⟩, fun f now s' hv hp hle hl => ?_,
    fun e he f now hle hlive hsrc hin hfl => ?_⟩
  · obtain ⟨f, hf, h1, h2⟩ := hap.mac e he
    exact ⟨f, hf, h1, (h16 f hf).symm.trans h2⟩
  · obtain ⟨f, hf, h1, h2⟩ := (hap.tcp e he).1
    exact ⟨f, hf, h1, (h16 f hf).symm.trans h2⟩
  · obtain ⟨f, hf, h1, h2⟩ := (hap.tcp e he).2.resolve_left hpos
    exact ⟨f, hf, h1, (h16 f hf).symm.trans h2⟩
  · have hfs : ∀ g ∈ f :: recibidas es, n.dp.physical g.inPort := by
      intro g hg
      rcases mem_cons.mp hg with rfl | hg
      · exact hp
      · exact (hes g hg).2
    exact ((hap.mono (subset_cons_self f _)).llama hley (hu.advance hle) mem_cons_self hv
      hl).puertosExisten hfs
  · have hfound : (macToPortFoundPort m.sw.macPort f.ethSrc now).1 = some f.inPort := by
      rw [hsrc, hin]
      exact (hu.advance hle).foundPort_of_live he hlive
    unfold pipelineArpPath
    dsimp only
    rw [if_pos hfl, hfound, aprendeInundado, if_neg (Option.some_ne_none _), if_pos rfl]
    exact ⟨_, rfl⟩

def dosTramas : List Suceso :=
  [.trama sinTablas (tramaDe 7 0x88 0xb5 1) 0, .trama sinTablas (synDe 2) 1]

theorem maquina_aprendizaje_dosTramas :
    ∃ m : Maquina, exec (Maquina.paso ⟨decodifica, ⟨1, false⟩, dosPuertos⟩) (fun _ _ => True)
        dosTramas ⟨Switch.inicial, 0⟩ = some m ∧
      m.sw.macPort.length = 1 ∧ m.sw.tcpTable.length = 1 ∧
      (∀ e ∈ m.sw.macPort, ∃ f ∈ recibidas dosTramas, f.ethSrc = e.mac ∧ f.inPort = e.portIn) ∧
      PuertosExisten dosPuertos m.sw ∧
      ∃ s', pipelineArpPath ⟨decodifica, ⟨1, false⟩, dosPuertos⟩ 2 m.sw (tramaDe 7 0x88 0xb5 1) =
        some (s', [.outputPort (tramaDe 7 0x88 0xb5 1) ofppRandom]) := by
  have hrun : exec (Maquina.paso ⟨decodifica, ⟨1, false⟩, dosPuertos⟩) (fun _ _ => True)
      dosTramas ⟨Switch.inicial, 0⟩ = some _ := rfl
  have hes : ∀ f ∈ recibidas dosTramas, f.Valido decodifica ∧ dosPuertos.physical f.inPort := by
    intro f hf
    have hf' : f = tramaDe 7 0x88 0xb5 1 ∨ f = synDe 2 := by
      simpa [recibidas, dosTramas, Suceso.tramas, tramas, sinTablas] using hf
    rcases hf' with rfl | rfl
    · exact ⟨rfl, by decide⟩
    · exact ⟨rfl, by decide⟩
  obtain ⟨hmac, _, hexisten, hsegunda⟩ := maquina_aprendizaje decodifica_ley hrun hes
  exact ⟨_, hrun, rfl, rfl, hmac,
    hexisten (synDe 2) 1 _ rfl (by decide) (Nat.le_refl _) .rfl',
    hsegunda _ mem_cons_self _ 2 (by decide) (by decide) (by decide) (by decide) (by decide)⟩

/-- A segment with the given flags from 00:00:00:00:00:01 to port 0 of 00:00:00:00:00:02. -/
def aPuertoCero (flags : UInt8) : Packet :=
  packetCreate decodifica 1
    ([0, 0, 0, 0, 0, 2, 0, 0, 0, 0, 0, 1, 8, 0, 0x45] ++ List.replicate 7 0 ++ [64, 6] ++
      List.replicate 10 0 ++ [0x10, 0x20, 0, 0] ++ List.replicate 9 0 ++ [flags] ++
      List.replicate 6 0)

/-- **The local port.** A broadcast from `OFPP_LOCAL` is learned behind port 65534 and the next one
discarded; with recovery, a segment to TCP port 0 makes `recovery_tcp_path` use `dp->ports[0]`. -/
theorem maquina_aprende_local :
    (∃ m : Maquina, exec (Maquina.paso ⟨decodifica, ⟨0, false⟩, nucleoLocal⟩) (fun _ _ => True)
        [.trama sinTablas (tramaDe 7 0x88 0xb5 ofppLocal) 0] ⟨Switch.inicial, 0⟩ = some m ∧
      (m.sw.macPort.map fun e => (e.portIn, e.live 1)) = [(65534, true)] ∧
      nucleoLocal.conf 65534 = none ∧
      (pipelineProcessUah ⟨decodifica, ⟨0, false⟩, nucleoLocal⟩ 1 sinTablas m.sw
        (tramaDe 7 0x88 0xb5 ofppLocal)).map (·.2) = some [.packetDestroy]) ∧
    ∃ m : Maquina, exec (Maquina.paso ⟨decodifica, ⟨1, true⟩, dosPuertos⟩) (fun _ _ => True)
        [.trama sinTablas (aPuertoCero 2) 0] ⟨Switch.inicial, 0⟩ = some m ∧
      pipelineProcessUah ⟨decodifica, ⟨1, true⟩, dosPuertos⟩ 1 sinTablas m.sw (aPuertoCero 0) =
        none :=
  ⟨⟨_, rfl, by decide, rfl, by decide⟩, _, rfl, rfl⟩

end TcpPath
