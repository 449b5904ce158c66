/-
  Subject:   TCP-Path: once a SYN-ACK has gone from D to S, the segments of the connection take
             its way, in both directions.

  A SYN-ACK follows the `port_in` tree from the switch of D to S and leaves at every switch the
  port it came in through as `port_out`. The tree does not change, so every later SYN-ACK of the
  connection takes the same way and writes the same ports; the `port_out` of a switch that has
  sent a SYN-ACK on leads back to where SYN-ACKs come from.

  Results:   `tcpPath_symmetry`: both directions take the way of the SYN-ACK;
             `tcpPath_symmetry_ajeno`: a segment that leaves it.
-/
import TcpPath.TcpTree

namespace TcpPath

open Util List Function

variable {V : Type}

/-! ## 1. The connection -/

/-- No SYN of the direction opposite to `k` is sent. -/
def SinSynInverso (red : Red V) (k : CmpTableTcp) : Evento V → Prop
  | .emite _ _ _ buf => (red.pkt 0 buf).peticion ≠ some k.inverso
  | _ => True

instance (red : Red V) (k : CmpTableTcp) : (e : Evento V) → Decidable (SinSynInverso red k e)
  | .emite _ _ _ buf => inferInstanceAs (Decidable ((red.pkt 0 buf).peticion ≠ some k.inverso))
  | .entrega .. | .pierde _ | .hello .. | .macDeleteTimeout .. | .tcpDeleteTimeout .. =>
      .isTrue trivial

/-- No entry is deleted, the hosts of the connection send no PATH frames and no SYN whose trailer
    the hop counter overwrites, and no SYN of the opposite direction with the same ports is
    sent. -/
def Conexion (red : Red V) (k : CmpTableTcp) (s : Estado V) (e : Evento V) : Prop :=
  SinBorrar red k s e ∧ SinBorrar red k.inverso s e ∧ SinSynInverso red k e

instance (red : Red V) (k : CmpTableTcp) (s : Estado V) (e : Evento V) :
    Decidable (Conexion red k s e) := inferInstanceAs (Decidable (_ ∧ _ ∧ _))

/-- All ports of all switches are LIVE. -/
def Red.Vivos (red : Red V) : Prop := ∀ v, ∀ q ∈ (red.dp v).ports, q.state = ofppsLive

/-- An address of one host. -/
def EthAddr.unicast (m : EthAddr) : Prop :=
  ethAddrIsBroadcast m = false ∧ ethAddrIsMulticast m = false

instance (m : EthAddr) : Decidable m.unicast := inferInstanceAs (Decidable (_ ∧ _))

/-- `port_in` and `port_out` of switch `v` for `k`. -/
def Estado.flujo (s : Estado V) (k : CmpTableTcp) (v : V) : Option (Nat × Nat) :=
  entrada (s.sw v).tcpTable k

theorem puertoIn_eq_flujo (s : Estado V) (k : CmpTableTcp) (v : V) :
    s.puertoIn k v = (s.flujo k v).map Prod.fst := foundPortIn_eq_entrada _ _

section Conexion

variable {red : Red V} {k : CmpTableTcp} {d : V} {pd : Nat} {s s' : Estado V} {v : V} {q : Nat}
  {x : Extremo V}

theorem Red.Vivos.conf (h : red.Vivos) (hl : red.link v q = some x) :
    ∃ conf, (red.dp v).conf q = some conf ∧ conf.state = ofppsLive := by
  have hsome := Datapath.conf_isSome.mpr (red.physical v q x hl)
  obtain ⟨conf, hconf⟩ := Option.isSome_iff_exists.mp hsome
  refine ⟨conf, hconf, h v conf ?_⟩
  unfold Datapath.conf at hconf
  split at hconf
  · cases hconf
  · exact mem_of_getElem? hconf

theorem Red.Vivos.puertoVivo (h : red.Vivos) (hl : red.link v q = some x) :
    puertoVivo (red.nodo v).dp q = some true := by
  obtain ⟨conf, hconf, hvivo⟩ := h.conf hl
  unfold TcpPath.puertoVivo
  show ((red.dp v).conf q).map _ = _
  rw [hconf, Option.map_some, hvivo]
  rfl

theorem Red.Vivos.recibe (h : red.Vivos) (hl : red.link v q = some x) : red.recibe v q = true := by
  obtain ⟨conf, hconf, hvivo⟩ := h.conf hl
  unfold Red.recibe
  rw [hconf, Option.map_some, (SwPort.state_eq_live.mp hvivo).2]
  rfl

theorem not_flooded {pkt : Packet} (h : pkt.ethDst.unicast) : pkt.isFlooded = false := by
  unfold Packet.isFlooded
  rw [h.1, h.2]
  rfl

/-- The way of the SYN-ACKs of `k` from the switch of D. -/
abbrev Ida (red : Red V) (k : CmpTableTcp) (d : V) (pd : Nat) (s : Estado V) :=
  Camino red (s.puertoIn k) d pd

/-- `port_out` of `u` leads back to where the SYN-ACKs come from, and not to where they go. -/
def Marcado (red : Red V) (k : CmpTableTcp) (d : V) (pd : Nat) (s : Estado V) (u : V) : Prop :=
  ∃ l q po, Ida red k d pd s l u po ∧ s.flujo k u = some (q, po) ∧ po ≠ q

/-- Where a SYN-ACK that has passed `l` may go: along the way, or from its end to the host. -/
def EnIda (red : Red V) (k : CmpTableTcp) (d : V) (pd : Nat) (s : Estado V) (l : List V) :
    Extremo V → Prop
  | .switch v p => Ida red k d pd s l v p
  | .host x => ∃ tr a p q, l = tr ++ [a] ∧ Ida red k d pd s tr a p ∧ s.puertoIn k a = some q ∧
      red.link a q = some (.host x)

theorem EnIda.mono {l : List V} (h : EnIda red k d pd s l x)
    (hf : ∀ u q, s.puertoIn k u = some q → s'.puertoIn k u = some q) : EnIda red k d pd s' l x := by
  cases x with
  | switch v p => exact Camino.mono h hf
  | host x =>
    obtain ⟨tr, a, p, q, h1, h2, h3, h4⟩ := h
    exact ⟨tr, a, p, q, h1, h2.mono hf, hf a q h3, h4⟩

theorem Marcado.mono {u : V} (h : Marcado red k d pd s u)
    (hf : ∀ u q, s.puertoIn k u = some q → s'.puertoIn k u = some q)
    (hu : s'.flujo k u = s.flujo k u) : Marcado red k d pd s' u := by
  obtain ⟨l, q, po, h1, h2, h3⟩ := h
  exact ⟨l, q, po, h1.mono hf, hu.trans h2, h3⟩

/-- **The invariant of the SYN-ACKs.** -/
structure SimInv [DecidableEq V] (red : Red V) (k : CmpTableTcp) (d : V) (pd : Nat)
    (s : Estado V) : Prop where
  tcp : TcpInv red k s
  inv : TcpInv red k.inverso s
  sinSyn : ∀ c ∈ s.vuelo, ∀ p, (red.pkt p c.buf).peticion ≠ some k.inverso
  sinEntrada : ∀ v, s.flujo k.inverso v = none
  synAck : ∀ c, c ∈ s.vuelo ∨ c ∈ s.llegadas → (red.pkt 0 c.buf).respuesta = some k.inverso →
    (∀ u ∈ c.traza, Marcado red k d pd s u) ∧ EnIda red k d pd s c.traza c.dest

end Conexion

/-! ## 2. The SYN-ACKs -/

section SynAck

variable [DecidableEq V] {red : Red V} {k : CmpTableTcp} {d : V} {pd : Nat} {s s' : Estado V}

theorem simInv_inicial : SimInv red k d pd (Estado.inicial V) where
  tcp := tcpInv_inicial red k
  inv := tcpInv_inicial red k.inverso
  sinSyn := fun _ hc => absurd hc not_mem_nil
  sinEntrada := fun _ => rfl
  synAck := fun _ hc => absurd hc (by rintro (h | h) <;> exact absurd h not_mem_nil)

theorem SimInv.mono (h : SimInv red k d pd s) (ht : TcpInv red k s') (hi : TcpInv red k.inverso s')
    (htab : ∀ v, (s'.sw v).tcpTable = (s.sw v).tcpTable) (hvuelo : ∀ c ∈ s'.vuelo, c ∈ s.vuelo)
    (hlleg : ∀ c ∈ s'.llegadas, c ∈ s.vuelo ∨ c ∈ s.llegadas) : SimInv red k d pd s' := by
  have hflujo : ∀ κ v, s'.flujo κ v = s.flujo κ v := fun κ v => by
    unfold Estado.flujo
    rw [htab v]
  have hf : ∀ u q, s.puertoIn k u = some q → s'.puertoIn k u = some q := fun u q hq => by
    rw [puertoIn_eq_flujo, hflujo, ← puertoIn_eq_flujo]
    exact hq
  refine ⟨ht, hi, fun c hc => h.sinSyn c (hvuelo c hc),
    fun v => (hflujo _ v).trans (h.sinEntrada v), fun c hc hresp => ?_⟩
  have hc' : c ∈ s.vuelo ∨ c ∈ s.llegadas := by
    rcases hc with hc | hc
    · exact .inl (hvuelo c hc)
    · exact hlleg c hc
  obtain ⟨h1, h2⟩ := h.synAck c hc' hresp
  exact ⟨fun u hu => (h1 u hu).mono hf (hflujo k u), h2.mono hf⟩

variable {v : V} {p : Nat} {buf : Bytes} {l : List V} {q now rand : Nat} {r : Switch × List Efecto}
  {c : Copia V}

theorem SimInv.emite (h : SimInv red k d pd s) {x : EthAddr}
    (hacc : red.link d pd = some (.host k.macDst)) (hl : red.link v p = some (.host x))
    (hsrc : red.src buf = x) (hno : (red.pkt 0 buf).peticion ≠ some k.inverso)
    (hvuelo : s'.vuelo = s.vuelo ++ [⟨.switch v p, buf, s.emitidas.length, []⟩])
    (hsw : s'.sw = s.sw) (hlleg : s'.llegadas = s.llegadas) (ht : TcpInv red k s')
    (hi : TcpInv red k.inverso s') : SimInv red k d pd s' := by
  have hflujo : ∀ κ v, s'.flujo κ v = s.flujo κ v := fun κ v => by
    unfold Estado.flujo
    rw [hsw]
  have hf : ∀ u q, s.puertoIn k u = some q → s'.puertoIn k u = some q := fun u q hq => by
    rw [puertoIn_eq_flujo, hflujo, ← puertoIn_eq_flujo]
    exact hq
  refine ⟨ht, hi, fun c hc q => ?_, fun v => (hflujo _ v).trans (h.sinEntrada v),
    fun c hc hresp => ?_⟩
  · rw [hvuelo] at hc
    rcases mem_append.mp hc with hc | hc
    · exact h.sinSyn c hc q
    · rw [mem_singleton.mp hc]
      exact hno
  · rw [hvuelo, hlleg, mem_append, mem_singleton] at hc
    have hcases : (c ∈ s.vuelo ∨ c ∈ s.llegadas) ∨
        c = ⟨.switch v p, buf, s.emitidas.length, []⟩ := by tauto
    rcases hcases with hc | rfl
    · obtain ⟨h1, h2⟩ := h.synAck c hc hresp
      exact ⟨fun u hu => (h1 u hu).mono hf (hflujo k u), h2.mono hf⟩
    · -- a SYN-ACK of the connection is emitted by D
      have hx : x = k.macDst := hsrc.symm.trans (respuesta_macSrc hresp).symm
      rw [hx] at hl
      obtain ⟨rfl, rfl⟩ := red.attached _ _ _ _ _ hacc hl
      exact ⟨fun u hu => absurd hu not_mem_nil, .inicio⟩

theorem SimInv.inj (h : SimInv red k d pd s) {l' : List V} {p' : Nat} (h1 : Ida red k d pd s l v p)
    (h2 : Ida red k d pd s l' v p') : l = l' ∧ p = p' :=
  h1.inj h.tcp.arbol.ranked h2

theorem TcpInv.enlazado (h : TcpInv red k s) (hq : s.puertoIn k v = some q) :
    ∃ x, red.link v q = some x := by
  rcases h.arbol.puntero v q hq with hl | ⟨y, r, hl, _⟩
  · exact ⟨_, hl⟩
  · exact ⟨_, hl⟩

theorem SimInv.synAck_sale (hcfg : red.Tcp) (hvivos : red.Vivos) (hS : k.macSrc.unicast)
    (h : SimInv red k d pd s) {b : Bytes} {o : Nat} {pkt : Packet} {nt : MacTable}
    (hr : pipelineProcessUah (red.nodo v) now sinTablas (s.sw v) (red.pkt p buf) = some r)
    (hin : entra (red.pkt p buf) = true) (hresp : (red.pkt p buf).respuesta = some k.inverso)
    (hef : Efecto.outputPort pkt o ∈ r.2)
    (hq : (q, b) ∈ dpActionsOutputPort (red.dp v) nt rand pkt o) :
    ∃ po, s.flujo k v = some (q, po) ∧ p ≠ q := by
  have hcfg' : (red.nodo v).cfg = ⟨1, false⟩ := hcfg
  have hdst : (red.pkt p buf).ethDst.unicast := by
    rw [← respuesta_macDst hresp]
    exact hS
  obtain ⟨hnone, hsome⟩ := tcp_synAck (s := s.sw v) hcfg' hin hresp (not_flooded hdst)
  cases hfl : s.flujo k v with
  | none =>
    obtain ⟨t, ht⟩ := hnone hfl
    rw [hr] at ht
    cases ht
    exact absurd hef not_mem_nil
  | some x =>
    obtain ⟨q', po⟩ := x
    have hpin : s.puertoIn k v = some q' := by
      rw [puertoIn_eq_flujo, hfl]
      rfl
    obtain ⟨x, hl⟩ := h.tcp.enlazado hpin
    obtain ⟨t, ht⟩ := hsome q' po hfl (red.physical v q' x hl).1 (hvivos.puertoVivo hl)
    rw [hr] at ht
    cases ht
    simp only [mem_cons, not_mem_nil, or_false, reduceCtorEq] at hef
    cases hef
    rw [dpActionsOutputPort_of_le (red.port16_of_link hl).2] at hq
    split at hq
    · exact absurd hq not_mem_nil
    · rename_i hne
      obtain ⟨rfl, _, _⟩ := mem_dpPortsOutput hq
      exact ⟨po, rfl, hne⟩

theorem SimInv.ida (h : SimInv red k d pd s) (hc : c ∈ s.vuelo) (hd : c.dest = .switch v p)
    (hresp : (red.pkt p c.buf).respuesta = some k.inverso) : Ida red k d pd s c.traza v p := by
  have hpos := (h.synAck c (.inl hc) hresp).2
  rw [hd] at hpos
  exact hpos

/-- **A switch that has sent a SYN-ACK on keeps its ports**: another SYN-ACK comes the same way. -/
theorem SimInv.marcado_fijo (h : SimInv red k d pd s) {u : V} {sw : Switch} (hc : c ∈ s.vuelo)
    (hd : c.dest = .switch v p) (hent : entrada sw.tcpTable k = if entra (red.pkt p c.buf) then
      entradaTras (red.pkt p c.buf) k (entrada (s.sw v).tcpTable k)
      else entrada (s.sw v).tcpTable k) (hsw : s'.sw = Function.update s.sw v sw)
    (hu : Marcado red k d pd s u) : s'.flujo k u = s.flujo k u := by
  unfold Estado.flujo
  rw [hsw]
  by_cases huv : u = v
  · subst huv
    obtain ⟨l, q, po, h1, h2, h3⟩ := hu
    rw [update_self, hent]
    split
    · rw [show entrada (s.sw u).tcpTable k = some (q, po) from h2, entradaTras, if_neg (by simp)]
      split
      · rename_i hresp
        obtain ⟨_, hpp⟩ := h.inj h1 (h.ida hc hd hresp)
        rw [red.pkt_inPort, h.tcp.port16_eq hc hd, ← hpp]
        rfl
      · rfl
    · rfl
  · rw [update_of_ne huv]

omit [DecidableEq V] in
theorem Ida.sigue {x : Extremo V} (h : Ida red k d pd s l v p) (hfl : s.flujo k v = some (q, p))
    (hne : p ≠ q) (hlink : red.link v q = some x) :
    Marcado red k d pd s v ∧ EnIda red k d pd s (l ++ [v]) x := by
  have hpin : s.puertoIn k v = some q := by
    rw [puertoIn_eq_flujo, hfl]
    rfl
  refine ⟨⟨l, q, p, h, hfl, hne⟩, ?_⟩
  cases x with
  | switch w p' => exact h.paso hpin hne hlink
  | host x => exact ⟨l, v, p, q, rfl, h, hpin, hlink⟩

/-- **The invariant over the handling of a copy**; a switch that has sent a SYN-ACK on keeps its
    ports. -/
theorem SimInv.procesa (hcfg : red.Tcp) (hley : LeyDecodificador red.parse) (hvivos : red.Vivos)
    (hS : k.macSrc.unicast) (h : SimInv red k d pd s) (hc : c ∈ s.vuelo) (hd : c.dest = .switch v p)
    (hr : pipelineProcessUah (red.nodo v) now sinTablas (s.sw v) (red.pkt p c.buf) = some r)
    (hsw : s'.sw = Function.update s.sw v r.1)
    (hvuelo : s'.vuelo = s.vuelo.erase c ++ red.copias v (s.sw v).neighborTable rand c r.2)
    (hlleg : s'.llegadas = s.llegadas ++ [c]) :
    SimInv red k d pd s' ∧ (∀ u q, s.puertoIn k u = some q → s'.puertoIn k u = some q) ∧
      ∀ u, Marcado red k d pd s u → s'.flujo k u = s.flujo k u := by
  have hcfg' : (red.nodo v).cfg = ⟨1, false⟩ := hcfg
  have hley' : LeyDecodificador (red.nodo v).parse := hley
  have hv : (red.pkt p c.buf).Valido (red.nodo v).parse := rfl
  obtain ⟨htcp', hf⟩ := h.tcp.procesa hcfg hley hc hd hr hsw hvuelo hlleg
  obtain ⟨hinv', _⟩ := h.inv.procesa hcfg hley hc hd hr hsw hvuelo hlleg
  obtain ⟨hent, _⟩ := tcp_frame hcfg' hley' hv (h.tcp.entero c hc p) hr
  obtain ⟨hentI, houtI⟩ := tcp_frame hcfg' hley' hv (h.inv.entero c hc p) hr
  have hpet : (red.pkt p c.buf).peticion ≠ some k.inverso := h.sinSyn c hc p
  have hmark : ∀ u, Marcado red k d pd s u → s'.flujo k u = s.flujo k u := fun u hu =>
    h.marcado_fijo hc hd hent hsw hu
  refine ⟨⟨htcp', hinv', fun c' hc' q => ?_, fun u => ?_, fun c' hc' hresp => ?_⟩, hf, hmark⟩
  · rw [hvuelo] at hc'
    rcases mem_append.mp hc' with hc' | hc'
    · exact h.sinSyn c' (mem_of_mem_erase hc') q
    · obtain ⟨_, _, pkt, o, q', hef, _, hq'⟩ := red.mem_copias hc'
      rw [red.buf_of_output hq']
      exact fun he => hpet ((houtI pkt o hef).2.peticion q he)
  · unfold Estado.flujo
    rw [hsw]
    by_cases huv : u = v
    · subst huv
      rw [update_self, hentI,
        show entrada (s.sw u).tcpTable k.inverso = none from h.sinEntrada u,
        entradaTras_none hpet, ite_self]
    · rw [update_of_ne huv]
      exact h.sinEntrada u
  · have hold : (c' ∈ s.vuelo ∨ c' ∈ s.llegadas) →
        (∀ u ∈ c'.traza, Marcado red k d pd s' u) ∧ EnIda red k d pd s' c'.traza c'.dest := by
      intro hc'
      obtain ⟨h1, h2⟩ := h.synAck c' hc' hresp
      exact ⟨fun u hu => (h1 u hu).mono hf (hmark u (h1 u hu)), h2.mono hf⟩
    rw [hvuelo, hlleg, mem_append, mem_append, mem_singleton] at hc'
    rcases hc' with (hc' | hc') | (hc' | rfl)
    · exact hold (.inl (mem_of_mem_erase hc'))
    · -- a new SYN-ACK of the connection is the one just handled
      obtain ⟨_, htr, pkt, o, q', hef, hlink, hq'⟩ := red.mem_copias hc'
      obtain ⟨hin, hsale⟩ := houtI pkt o hef
      rw [red.buf_of_output hq'] at hresp
      have hresp' : (red.pkt p c.buf).respuesta = some k.inverso :=
        (hsale.respuesta 0 hresp).resolve_right hpet
      obtain ⟨po, hfl, hne⟩ := h.synAck_sale hcfg hvivos hS hr hin hresp' hef hq'
      have hfl' : s'.flujo k v = some (q', p) := by
        unfold Estado.flujo
        rw [hsw, update_self, hent, if_pos hin,
          show entrada (s.sw v).tcpTable k = some (q', po) from hfl, entradaTras_respuesta hresp',
          if_pos (CmpTableTcp.inverso_inverso k).symm, red.pkt_inPort, h.tcp.port16_eq hc hd]
        rfl
      have hway : Ida red k d pd s' c.traza v p := (h.ida hc hd hresp').mono hf
      obtain ⟨hmv, hen⟩ := hway.sigue hfl' hne hlink
      rw [htr]
      refine ⟨fun u hu => ?_, hen⟩
      rcases mem_append.mp hu with hu | hu
      · have hu' := (h.synAck c (.inl hc) hresp').1 u hu
        exact hu'.mono hf (hmark u hu')
      · rw [mem_singleton.mp hu]
        exact hmv
    · exact hold (.inr hc')
    · exact hold (.inl hc)

/-- **One event** keeps the invariant, every `port_in`, and the ports of the switches that have
    sent a SYN-ACK on. -/
theorem SimInv.step {e : Evento V} (hcfg : red.Tcp) (hley : LeyDecodificador red.parse)
    (hvivos : red.Vivos) (hS : k.macSrc.unicast) (hacc : red.link d pd = some (.host k.macDst))
    (h : SimInv red k d pd s) (hok : Conexion red k s e) (hs : red.step s e = some s') :
    SimInv red k d pd s' ∧ (∀ u q, s.puertoIn k u = some q → s'.puertoIn k u = some q) ∧
      ∀ u, Marcado red k d pd s u → s'.flujo k u = s.flujo k u := by
  obtain ⟨hok1, hok2, hok3⟩ := hok
  obtain ⟨ht, hf⟩ := h.tcp.step hcfg hley hok1 hs
  have hi := (h.inv.step hcfg hley hok2 hs).1
  have hkeep : (∀ v, (s'.sw v).tcpTable = (s.sw v).tcpTable) →
      ∀ u, Marcado red k d pd s u → s'.flujo k u = s.flujo k u := by
    intro htab u _
    unfold Estado.flujo
    rw [htab u]
  have hsame : (∀ v, (s'.sw v).tcpTable = (s.sw v).tcpTable) → (∀ c ∈ s'.vuelo, c ∈ s.vuelo) →
      (∀ c ∈ s'.llegadas, c ∈ s.vuelo ∨ c ∈ s.llegadas) → SimInv red k d pd s' ∧
        (∀ u q, s.puertoIn k u = some q → s'.puertoIn k u = some q) ∧
        ∀ u, Marcado red k d pd s u → s'.flujo k u = s.flujo k u :=
    fun htab hvuelo hlleg => ⟨h.mono ht hi htab hvuelo hlleg, hf, hkeep htab⟩
  cases red.step_cases hs with
  | emite hl hsrc =>
    exact ⟨h.emite hacc hl hsrc hok3 rfl rfl rfl ht hi, hf, hkeep fun _ => rfl⟩
  | recibe hc hd =>
    refine hsame (fun _ => rfl) (fun c hc' => mem_of_mem_erase hc') fun c' hc' => ?_
    rcases mem_append.mp hc' with hc' | hc'
    · exact .inr hc'
    · rw [mem_singleton.mp hc']
      exact .inl hc
  | procesa hc hd hr => exact h.procesa hcfg hley hvivos hS hc hd hr rfl rfl rfl
  | pierde hc =>
    exact hsame (fun _ => rfl) (fun c hc' => mem_of_mem_erase hc') fun _ => .inr
  | hello => exact hsame (tcpTable_update (by rfl)) (fun _ => id) fun _ => .inr
  | macDeleteTimeout _ => exact hsame (tcpTable_update (by rfl)) (fun _ => id) fun _ => .inr
  | tcpDeleteTimeout htab =>
    exact hsame (tcpTable_update (htab.trans hok1)) (fun _ => id) fun _ => .inr

theorem simInv_alcanza (hcfg : red.Tcp) (hley : LeyDecodificador red.parse) (hvivos : red.Vivos)
    (hS : k.macSrc.unicast) (hacc : red.link d pd = some (.host k.macDst))
    (h : red.Alcanza (Conexion red k) s) : SimInv red k d pd s :=
  Run.invariant (I := SimInv red k d pd) h simInv_inicial fun _ _ _ hi hok hs =>
    (hi.step hcfg hley hvivos hS hacc hok hs).1

end SynAck

/-! ## 3. Later segments -/

section Segmentos

variable [DecidableEq V] {red : Red V} {k : CmpTableTcp} {d : V} {pd : Nat} {s s' : Estado V}
  {l tr : List V}

/-- Where a segment from S to D that has passed `tr` may go, when the SYN-ACK took the way `l`:
    back along it, through the ports the SYN-ACK came in by. -/
def EnVuelta (red : Red V) (k : CmpTableTcp) (d : V) (pd : Nat) (l : List V) (s : Estado V)
    (tr : List V) : Extremo V → Prop
  | .switch v p => s.puertoIn k v = some p ∧
      ∃ pre po, Ida red k d pd s pre v po ∧ l = pre ++ v :: tr.reverse
  | .host x => x = k.macDst ∧ tr = l.reverse

/-- Where a segment from D to S that has passed `tr` may go: along the way. -/
def EnMisma (red : Red V) (k : CmpTableTcp) (d : V) (pd : Nat) (l : List V) (s : Estado V)
    (tr : List V) : Extremo V → Prop
  | .switch v p => Ida red k d pd s tr v p ∧ ∃ resto, l = tr ++ v :: resto
  | .host x => x = k.macSrc ∧ tr = l

/-- The state after a SYN-ACK took the way `l`: its switches are marked. -/
structure Trazado (red : Red V) (k : CmpTableTcp) (d : V) (pd : Nat) (l : List V)
    (s : Estado V) : Prop where
  sim : SimInv red k d pd s
  marcado : ∀ u ∈ l, Marcado red k d pd s u
  fin : EnIda red k d pd s l (.host k.macSrc)

theorem Trazado.follow (h : Trazado red k d pd l s) :
    Follow (red.punteros (s.puertoIn k)) d l := by
  obtain ⟨tr, a, p, q, rfl, hida, hq, hl⟩ := h.fin
  refine hida.follow (.root ?_)
  unfold Red.punteros Red.detras
  rw [hq, Option.map_some, hl]

/-- `v` handles the copy `c` by sending exactly one copy on, to where `P` says. -/
def Avanza (red : Red V) (s : Estado V) (c : Copia V) (v : V) (p : Nat)
    (P : List V → Extremo V → Prop) : Prop :=
  ∀ now rand nt, ∃ t efs x,
    pipelineProcessUah (red.nodo v) now sinTablas (s.sw v) (red.pkt p c.buf) = some (t, efs) ∧
    red.copias v nt rand c efs = [⟨x, c.buf, c.id, c.traza ++ [v]⟩] ∧ P (c.traza ++ [v]) x

omit [DecidableEq V] in
theorem Avanza.copia {c c' : Copia V} {v : V} {p now rand : Nat} {nt : MacTable}
    {r : Switch × List Efecto} {P : List V → Extremo V → Prop} (h : Avanza red s c v p P)
    (hr : pipelineProcessUah (red.nodo v) now sinTablas (s.sw v) (red.pkt p c.buf) = some r)
    (hc' : c' ∈ red.copias v nt rand c r.2) : c'.buf = c.buf ∧ P c'.traza c'.dest := by
  obtain ⟨t, efs, x, ht, hcop, hP⟩ := h now rand nt
  rw [hr] at ht
  cases ht
  rw [hcop, mem_singleton] at hc'
  subst hc'
  exact ⟨rfl, hP⟩

omit [DecidableEq V] in
theorem avanza_of_port (hcfg : red.Tcp) (hvivos : red.Vivos) {κ : CmpTableTcp}
    {c : Copia V} {v : V} {p o : Nat} {x : Extremo V} {P : List V → Extremo V → Prop}
    (hin : entra (red.pkt p c.buf) = true) (hseg : (red.pkt p c.buf).segmento = some κ)
    (hdst : κ.macDst.unicast) (ho : (tableTcpFoundPort (s.sw v).tcpTable κ).1 = some o)
    (hne : p ≠ o) (hl : red.link v o = some x) (hP : P (c.traza ++ [v]) x) :
    Avanza red s c v p P := by
  intro now rand nt
  have hcfg' : (red.nodo v).cfg = ⟨1, false⟩ := hcfg
  have hf : (red.pkt p c.buf).isFlooded = false := by
    refine not_flooded ?_
    rw [← (segmento_macSrc hseg).2]
    exact hdst
  obtain ⟨t, ht⟩ := tcp_segmento hcfg' hin hseg hf ho (red.physical v o x hl).1
    (hvivos.puertoVivo hl)
  obtain ⟨conf, hconf, hvivo⟩ := hvivos.conf hl
  exact ⟨t, _, x, ht, red.copias_unicast hl hne hconf hvivo, hP⟩

/-- **From S to D**: the next switch is the one the SYN-ACK came from. -/
theorem Trazado.vuelta (hcfg : red.Tcp) (hvivos : red.Vivos) (hD : k.macDst.unicast)
    (hacc : red.link d pd = some (.host k.macDst)) (h : Trazado red k d pd l s) {c : Copia V}
    {v : V} {p : Nat} (hin : entra (red.pkt p c.buf) = true)
    (hseg : (red.pkt p c.buf).segmento = some k)
    (hc : EnVuelta red k d pd l s c.traza (.switch v p)) :
    Avanza red s c v p (EnVuelta red k d pd l s) := by
  obtain ⟨hp, pre, po, hida, hl⟩ := hc
  obtain ⟨pre', q, po', hida', hfl, hne⟩ := h.marcado v (by rw [hl]; simp)
  obtain ⟨_, rfl⟩ := h.sim.inj hida hida'
  have hpq : p = q := by
    rw [puertoIn_eq_flujo, hfl] at hp
    exact (Option.some.inj hp).symm
  have ho : (tableTcpFoundPort (s.sw v).tcpTable k).1 = some po := by
    rw [foundPort_directo _ _ (h.sim.sinEntrada v), show entrada _ k = some (q, po) from hfl]
    rfl
  have hne' : p ≠ po := fun e => hne (e.symm.trans hpq)
  cases hida with
  | inicio =>
    refine avanza_of_port hcfg hvivos hin hseg hD ho hne' hacc ⟨rfl, ?_⟩
    rw [hl]
    simp
  | @paso pre₀ w _ p₀ qw _ hw hqw _ hlw =>
    refine avanza_of_port hcfg hvivos hin hseg hD ho hne' (red.symm _ _ _ _ hlw)
      ⟨hqw, pre₀, p₀, hw, ?_⟩
    rw [hl]
    simp

/-- **From D to S**: the next switch is the one the SYN-ACK went to. -/
theorem Trazado.misma (hcfg : red.Tcp) (hvivos : red.Vivos) (hS : k.macSrc.unicast)
    (h : Trazado red k d pd l s) {c : Copia V} {v : V} {p : Nat}
    (hin : entra (red.pkt p c.buf) = true)
    (hseg : (red.pkt p c.buf).segmento = some k.inverso)
    (hc : EnMisma red k d pd l s c.traza (.switch v p)) :
    Avanza red s c v p (EnMisma red k d pd l s) := by
  obtain ⟨hida, resto, hl⟩ := hc
  obtain ⟨pre', q, po, hida', hfl, hne⟩ := h.marcado v (by rw [hl]; simp)
  obtain ⟨_, rfl⟩ := h.sim.inj hida hida'
  have hq : s.puertoIn k v = some q := by
    rw [puertoIn_eq_flujo, hfl]
    rfl
  have ho : (tableTcpFoundPort (s.sw v).tcpTable k.inverso).1 = some q := by
    rw [foundPort_inverso _ _ (h.sim.sinEntrada v), show entrada _ k = some (q, p) from hfl]
    rfl
  have hfollow := h.follow
  rw [hl] at hfollow
  -- the rest of the `port_in` chain says what is behind `port_in`
  cases hfollow.suffix with
  | root hv =>
    obtain ⟨q', hq', hlink⟩ := h.sim.tcp.arbol.host_of_root hv
    rw [hq] at hq'
    cases hq'
    exact avanza_of_port hcfg hvivos hin hseg hS ho hne hlink ⟨rfl, hl.symm⟩
  | @step _ w r hv hrest =>
    obtain ⟨q', hq', hd⟩ := Option.map_eq_some_iff.mp hv
    rw [hq] at hq'
    cases hq'
    obtain ⟨p', hlink⟩ := Red.detras_eq_some hd
    obtain ⟨r', rfl⟩ := hrest.head
    refine avanza_of_port hcfg hvivos hin hseg hS ho hne hlink ⟨hida.paso hq hne hlink, r', ?_⟩
    rw [hl]
    simp

/-- What is known of a copy `c` of a later emission, if that is a segment of the connection. -/
def Viaje (red : Red V) (k : CmpTableTcp) (d : V) (pd : Nat) (l : List V) (s : Estado V)
    (c : Copia V) : Prop :=
  ∀ x b, s.emitidas[c.id]? = some (x, b) →
    ((red.pkt 0 b).segmento = some k → c.buf = b ∧ EnVuelta red k d pd l s c.traza c.dest) ∧
    ((red.pkt 0 b).segmento = some k.inverso →
      c.buf = b ∧ EnMisma red k d pd l s c.traza c.dest)

omit [DecidableEq V] in
theorem EnVuelta.mono {x : Extremo V} (h : EnVuelta red k d pd l s tr x)
    (hf : ∀ u q, s.puertoIn k u = some q → s'.puertoIn k u = some q) :
    EnVuelta red k d pd l s' tr x := by
  cases x with
  | switch v p =>
    obtain ⟨h1, pre, po, h2, h3⟩ := h
    exact ⟨hf v p h1, pre, po, h2.mono hf, h3⟩
  | host x => exact h

omit [DecidableEq V] in
theorem EnMisma.mono {x : Extremo V} (h : EnMisma red k d pd l s tr x)
    (hf : ∀ u q, s.puertoIn k u = some q → s'.puertoIn k u = some q) :
    EnMisma red k d pd l s' tr x := by
  cases x with
  | switch v p => exact ⟨h.1.mono hf, h.2⟩
  | host x => exact h

omit [DecidableEq V] in
theorem Viaje.mono {c : Copia V} (h : Viaje red k d pd l s c)
    (hem : s'.emitidas[c.id]? = s.emitidas[c.id]?)
    (hf : ∀ u q, s.puertoIn k u = some q → s'.puertoIn k u = some q) :
    Viaje red k d pd l s' c := by
  intro x b hxb
  rw [hem] at hxb
  obtain ⟨h1, h2⟩ := h x b hxb
  exact ⟨fun hs => ⟨(h1 hs).1, (h1 hs).2.mono hf⟩, fun hs => ⟨(h2 hs).1, (h2 hs).2.mono hf⟩⟩

variable {e : Evento V} {b : Bytes} {n i : Nat}

theorem Trazado.step (hcfg : red.Tcp) (hley : LeyDecodificador red.parse) (hvivos : red.Vivos)
    (hS : k.macSrc.unicast) (hacc : red.link d pd = some (.host k.macDst))
    (h : Trazado red k d pd l s) (hok : Conexion red k s e) (hs : red.step s e = some s') :
    Trazado red k d pd l s' ∧ ∀ u q, s.puertoIn k u = some q → s'.puertoIn k u = some q := by
  obtain ⟨h1, hf, hmark⟩ := h.sim.step hcfg hley hvivos hS hacc hok hs
  exact ⟨⟨h1, fun u hu => (h.marcado u hu).mono hf (hmark u (h.marcado u hu)), h.fin.mono hf⟩, hf⟩

theorem Trazado.emite (hacc : red.link d pd = some (.host k.macDst)) (h : Trazado red k d pd l s)
    {v : V} {p : Nat} {x : EthAddr} (hl : red.link v p = some (.host x)) (hsrc : red.src b = x) :
    ((red.pkt 0 b).segmento = some k → EnVuelta red k d pd l s [] (.switch v p)) ∧
      ((red.pkt 0 b).segmento = some k.inverso → EnMisma red k d pd l s [] (.switch v p)) := by
  refine ⟨fun hseg => ?_, fun hseg => ?_⟩
  · have hx : x = k.macSrc := hsrc.symm.trans (segmento_macSrc hseg).1.symm
    obtain ⟨pre, a, po, q, hpre, hida, hq, hlq⟩ := h.fin
    rw [hx] at hl
    obtain ⟨rfl, rfl⟩ := red.attached _ _ _ _ _ hlq hl
    exact ⟨hq, pre, po, hida, hpre⟩
  · have hx : x = k.macDst := hsrc.symm.trans (segmento_macSrc hseg).1.symm
    rw [hx] at hl
    obtain ⟨rfl, rfl⟩ := red.attached _ _ _ _ _ hacc hl
    obtain ⟨r, hr⟩ := h.follow.head
    exact ⟨.inicio, r, hr⟩

/-- **The invariant of later segments**: `n` emissions came before. -/
structure Despues (red : Red V) (k : CmpTableTcp) (d : V) (pd n : Nat) (l : List V)
    (s : Estado V) : Prop where
  trazado : Trazado red k d pd l s
  historia : s.Historia
  viaje : ∀ c ∈ s.enviadas, n ≤ c.id → Viaje red k d pd l s c

theorem Despues.procesa (hcfg : red.Tcp) (hvivos : red.Vivos) (hS : k.macSrc.unicast)
    (hD : k.macDst.unicast) (hacc : red.link d pd = some (.host k.macDst))
    (h : Despues red k d pd n l s) {c c' : Copia V} {v : V} {p now rand : Nat} {nt : MacTable}
    {r : Switch × List Efecto} (hc : c ∈ s.vuelo) (hd : c.dest = .switch v p)
    (hr : pipelineProcessUah (red.nodo v) now sinTablas (s.sw v) (red.pkt p c.buf) = some r)
    (hc' : c' ∈ red.copias v nt rand c r.2) (hn : n ≤ c'.id) : Viaje red k d pd l s c' := by
  have hrec : (red.nodo v).cfg.recuperacion = false := by
    rw [show (red.nodo v).cfg = ⟨1, false⟩ from hcfg]
  have hin : entra (red.pkt p c.buf) = true := by
    rcases pipelineProcessUah_cases _ _ hrec hr with ⟨hin, _⟩ | ⟨_, _, _, hno⟩
    · exact hin
    · rw [red.copias_of_no_output hno] at hc'
      exact absurd hc' not_mem_nil
  have hid : c'.id = c.id := (red.mem_copias hc').1
  intro x b hxb
  rw [hid] at hn hxb
  obtain ⟨h1, h2⟩ := h.viaje c (h.historia.enviada c hc) hn x b hxb
  rw [hd] at h1 h2
  refine ⟨fun hseg => ?_, fun hseg => ?_⟩
  · obtain ⟨hb, hpos⟩ := h1 hseg
    obtain ⟨hbuf, hpos'⟩ := (h.trazado.vuelta hcfg hvivos hD hacc hin (by rw [hb]; exact hseg)
      hpos).copia hr hc'
    exact ⟨hbuf.trans hb, hpos'⟩
  · obtain ⟨hb, hpos⟩ := h2 hseg
    obtain ⟨hbuf, hpos'⟩ := (h.trazado.misma hcfg hvivos hS hin (by rw [hb]; exact hseg)
      hpos).copia hr hc'
    exact ⟨hbuf.trans hb, hpos'⟩

theorem Despues.step (hcfg : red.Tcp) (hley : LeyDecodificador red.parse) (hvivos : red.Vivos)
    (hS : k.macSrc.unicast) (hD : k.macDst.unicast) (hacc : red.link d pd = some (.host k.macDst))
    (h : Despues red k d pd n l s) (hok : Conexion red k s e) (hs : red.step s e = some s') :
    Despues red k d pd n l s' := by
  obtain ⟨htr, hf⟩ := h.trazado.step hcfg hley hvivos hS hacc hok hs
  refine ⟨htr, Red.historia_step h.historia hs, ?_⟩
  have hold : s'.emitidas = s.emitidas → ∀ c ∈ s.enviadas, n ≤ c.id → Viaje red k d pd l s' c :=
    fun hem c hc hn => (h.viaje c hc hn).mono (by rw [hem]) hf
  cases red.step_cases hs with
  | @emite x v p b hl hsrc =>
    intro c hc hn
    rcases mem_append.mp hc with hc | hc
    · exact (h.viaje c hc hn).mono (getElem?_append_left (h.historia.id_lt c hc)) hf
    · rw [mem_singleton] at hc
      subst hc
      intro y b' hyb
      have hlast : (s.emitidas ++ [(x, b)])[s.emitidas.length]? = some (x, b) := by
        rw [getElem?_append_right (Nat.le_refl _), Nat.sub_self]
        rfl
      have hyb' : some (x, b) = some (y, b') := hlast.symm.trans hyb
      cases hyb'
      obtain ⟨h1, h2⟩ := htr.emite hacc hl hsrc
      exact ⟨fun hseg => ⟨rfl, h1 hseg⟩, fun hseg => ⟨rfl, h2 hseg⟩⟩
  | recibe _ _ => exact hold rfl
  | procesa hc hd hr =>
    intro c' hc' hn
    rcases mem_append.mp hc' with hc' | hc'
    · exact hold rfl c' hc' hn
    · exact (h.procesa hcfg hvivos hS hD hacc hc hd hr hc' hn).mono rfl hf
  | pierde _ => exact hold rfl
  | hello => exact hold rfl
  | macDeleteTimeout _ => exact hold rfl
  | tcpDeleteTimeout _ => exact hold rfl

/-! ## 4. Symmetry -/

/-- What follows on the way `l` to host `x`. -/
def Siguiente (x : EthAddr) : List V → Extremo V → Prop
  | [], e => e = .host x
  | v :: _, e => ∃ p, e = .switch v p

/-- **Emission `i` visits the switches `l`, in this order, and goes to host `x`**: every copy of it
    ever put on a link has passed the first switches of `l` and goes to the next, or from the last
    to `x`; and a switch that takes one sends exactly one on. -/
structure Recorre (red : Red V) (s : Estado V) (i : Nat) (l : List V) (x : EthAddr) : Prop where
  copia : ∀ c ∈ s.enviadas, c.id = i → ∃ resto, c.traza ++ resto = l ∧ Siguiente x resto c.dest
  avanza : ∀ c ∈ s.vuelo, c.id = i → ∀ v p, c.dest = .switch v p →
    entra (red.pkt p c.buf) = true → ∀ now rand, ∃ s' c',
      red.step s (.entrega c now rand) = some s' ∧ s'.vuelo = s.vuelo.erase c ++ [c'] ∧
      c'.id = i ∧ c'.traza = c.traza ++ [v]

theorem Avanza.step {c : Copia V} {v : V} {p : Nat} {P : List V → Extremo V → Prop}
    (h : Avanza red s c v p P) (hc : c ∈ s.vuelo) (hd : c.dest = .switch v p)
    (hrec : red.recibe v p = true) (now rand : Nat) :
    ∃ s' c', red.step s (.entrega c now rand) = some s' ∧ s'.vuelo = s.vuelo.erase c ++ [c'] ∧
      c'.id = c.id ∧ c'.traza = c.traza ++ [v] := by
  obtain ⟨t, efs, x, ht, hcop, _⟩ := h now rand (s.sw v).neighborTable
  have hstep : ∃ s', red.step s (.entrega c now rand) = some s' ∧
      s'.vuelo = s.vuelo.erase c ++ red.copias v (s.sw v).neighborTable rand c efs := by
    rw [Red.step, if_pos hc]
    simp only [hd, hrec, if_true]
    unfold Red.procesa
    rw [ht]
    exact ⟨_, rfl, rfl⟩
  obtain ⟨s', hs', hvuelo⟩ := hstep
  exact ⟨s', ⟨x, c.buf, c.id, c.traza ++ [v]⟩, hs', by rw [hvuelo, hcop], rfl, rfl⟩

theorem Despues.recibe (hvivos : red.Vivos) (h : Despues red k d pd n l s) {c : Copia V} {v : V}
    {p : Nat} (hc : c ∈ s.vuelo) (hd : c.dest = .switch v p) : red.recibe v p = true := by
  rcases h.trazado.sim.tcp.origen c hc v p hd with hl | ⟨_, _, hl, _⟩
  · exact hvivos.recibe hl
  · exact hvivos.recibe hl

theorem Despues.recorre_vuelta (hcfg : red.Tcp) (hvivos : red.Vivos) (hD : k.macDst.unicast)
    (hacc : red.link d pd = some (.host k.macDst)) (h : Despues red k d pd n l s) {x : EthAddr}
    (hi : n ≤ i) (hib : s.emitidas[i]? = some (x, b)) (hseg : (red.pkt 0 b).segmento = some k) :
    Recorre red s i l.reverse k.macDst := by
  have hpos : ∀ c ∈ s.enviadas, c.id = i →
      c.buf = b ∧ EnVuelta red k d pd l s c.traza c.dest := fun c hc hid =>
    (h.viaje c hc (hid ▸ hi) x b (hid ▸ hib)).1 hseg
  refine ⟨fun c hc hid => ?_, fun c hc hid v p hd hin now rand => ?_⟩
  · obtain ⟨_, hv⟩ := hpos c hc hid
    cases hdest : c.dest with
    | switch v p =>
      rw [hdest] at hv
      obtain ⟨_, pre, po, _, hl⟩ := hv
      refine ⟨v :: pre.reverse, ?_, p, rfl⟩
      rw [hl]
      simp
    | host y =>
      rw [hdest] at hv
      obtain ⟨rfl, htr⟩ := hv
      exact ⟨[], by rw [append_nil]; exact htr, rfl⟩
  · obtain ⟨hb, hv⟩ := hpos c (h.historia.enviada c hc) hid
    rw [hd] at hv
    have hav := h.trazado.vuelta hcfg hvivos hD hacc hin (by rw [hb]; exact hseg) hv
    rw [← hid]
    exact hav.step hc hd (h.recibe hvivos hc hd) now rand

theorem Despues.recorre_misma (hcfg : red.Tcp) (hvivos : red.Vivos) (hS : k.macSrc.unicast)
    (h : Despues red k d pd n l s) {x : EthAddr} (hi : n ≤ i) (hib : s.emitidas[i]? = some (x, b))
    (hseg : (red.pkt 0 b).segmento = some k.inverso) : Recorre red s i l k.macSrc := by
  have hpos : ∀ c ∈ s.enviadas, c.id = i →
      c.buf = b ∧ EnMisma red k d pd l s c.traza c.dest := fun c hc hid =>
    (h.viaje c hc (hid ▸ hi) x b (hid ▸ hib)).2 hseg
  refine ⟨fun c hc hid => ?_, fun c hc hid v p hd hin now rand => ?_⟩
  · obtain ⟨_, hv⟩ := hpos c hc hid
    cases hdest : c.dest with
    | switch v p =>
      rw [hdest] at hv
      obtain ⟨_, resto, hl⟩ := hv
      exact ⟨v :: resto, hl.symm, p, rfl⟩
    | host y =>
      rw [hdest] at hv
      obtain ⟨rfl, htr⟩ := hv
      exact ⟨[], by rw [append_nil]; exact htr, rfl⟩
  · obtain ⟨hb, hv⟩ := hpos c (h.historia.enviada c hc) hid
    rw [hd] at hv
    have hav := h.trazado.misma hcfg hvivos hS hin (by rw [hb]; exact hseg) hv
    rw [← hid]
    exact hav.step hc hd (h.recibe hvivos hc hd) now rand

/-- **TCP-Path symmetry.** Once a SYN-ACK from D has come to S, on the `port_in` chain from the
switch of D, every later segment from S to D takes this way back, and every one from D to S the same
way, with the ports LIVE and none of the events that the hypotheses rule out. -/
theorem tcpPath_symmetry (hcfg : red.Tcp) (hley : LeyDecodificador red.parse)
    (hvivos : red.Vivos) (hS : k.macSrc.unicast) (hD : k.macDst.unicast)
    (hacc : red.link d pd = some (.host k.macDst)) {s₀ : Estado V}
    (h₀ : red.Alcanza (Conexion red k) s₀) {c₀ : Copia V} (hc₀ : c₀ ∈ s₀.llegadas)
    (hdest : c₀.dest = .host k.macSrc) (hresp : (red.pkt 0 c₀.buf).respuesta = some k.inverso)
    (hrun : Run red.step (Conexion red k) s₀ s) :
    Follow (red.punteros (s₀.puertoIn k)) d c₀.traza ∧
    (∀ i b, s₀.emitidas.length ≤ i → s.emitidas[i]? = some (k.macSrc, b) →
      (red.pkt 0 b).segmento = some k → Recorre red s i c₀.traza.reverse k.macDst) ∧
    (∀ i b, s₀.emitidas.length ≤ i → s.emitidas[i]? = some (k.macDst, b) →
      (red.pkt 0 b).segmento = some k.inverso → Recorre red s i c₀.traza k.macSrc) := by
  have hsim := simInv_alcanza hcfg hley hvivos hS hacc h₀
  obtain ⟨hmark, hfin⟩ := hsim.synAck c₀ (.inr hc₀) hresp
  rw [hdest] at hfin
  have htr : Trazado red k d pd c₀.traza s₀ := ⟨hsim, hmark, hfin⟩
  have hist := Red.historia_alcanza h₀
  have hdes₀ : Despues red k d pd s₀.emitidas.length c₀.traza s₀ :=
    ⟨htr, hist, fun c hc hn => absurd (hist.id_lt c hc) (Nat.not_lt.mpr hn)⟩
  have hdes : Despues red k d pd s₀.emitidas.length c₀.traza s :=
    Run.invariant (I := Despues red k d pd s₀.emitidas.length c₀.traza) hrun hdes₀
      fun _ _ _ hi hok hs => hi.step hcfg hley hvivos hS hD hacc hok hs
  exact ⟨htr.follow, fun i b hi hib hseg => hdes.recorre_vuelta hcfg hvivos hD hacc hi hib hseg,
    fun i b hi hib hseg => hdes.recorre_misma hcfg hvivos hS hi hib hseg⟩

end Segmentos

def synAckTri : Bytes := tramaTcp 2 1 [0, 80, 0x10, 0x20] 0x12

def ackTri : Bytes := tramaTcp 1 2 [0x10, 0x20, 0, 80] 0x10

def contestaTri : List (Evento Esquina) :=
  [.emite (macDe 2) .b 1 synAckTri, .entrega ⟨.switch .b 1, synAckTri, 1, []⟩ 4 0,
    .entrega ⟨.switch .a 2, synAckTri, 1, [.b]⟩ 5 0,
    .entrega ⟨.host (macDe 1), synAckTri, 1, [.b, .a]⟩ 6 0]

def confirmaTri : List (Evento Esquina) :=
  [.emite (macDe 1) .a 1 ackTri, .entrega ⟨.switch .a 1, ackTri, 2, []⟩ 7 0,
    .entrega ⟨.switch .b 3, ackTri, 2, [.a]⟩ 8 0,
    .entrega ⟨.host (macDe 2), ackTri, 2, [.a, .b]⟩ 9 0]

theorem tcpPath_symmetry_triangulo :
    ∃ s₀ s, (triangulo ⟨1, false⟩).Alcanza (Conexion (triangulo ⟨1, false⟩) claveTri) s₀ ∧
      ⟨.host (macDe 1), synAckTri, 1, [.b, .a]⟩ ∈ s₀.llegadas ∧
      Run (triangulo ⟨1, false⟩).step (Conexion (triangulo ⟨1, false⟩) claveTri) s₀ s ∧
      ⟨.host (macDe 2), ackTri, 2, [.a, .b]⟩ ∈ s.llegadas ∧
      Follow ((triangulo ⟨1, false⟩).punteros (s₀.puertoIn claveTri)) .b [.b, .a] ∧
      Recorre (triangulo ⟨1, false⟩) s 2 [.a, .b] (macDe 2) := by
  obtain ⟨s₀, s, h₀, hc₀, hlen, hex, hc, hem⟩ := Run.exists_exec_and (triangulo ⟨1, false⟩).step
    (Conexion (triangulo ⟨1, false⟩) claveTri) (pideTri ++ contestaTri) (Estado.inicial Esquina)
    (fun s₀ s => ⟨.host (macDe 1), synAckTri, 1, [.b, .a]⟩ ∈ s₀.llegadas ∧
      s₀.emitidas.length = 2 ∧
      exec (triangulo ⟨1, false⟩).step (Conexion (triangulo ⟨1, false⟩) claveTri) confirmaTri s₀ =
        some s ∧
      ⟨.host (macDe 2), ackTri, 2, [.a, .b]⟩ ∈ s.llegadas ∧
      s.emitidas[2]? = some (macDe 1, ackTri)) (by decide +kernel)
  have hrun := Run.of_exec hex
  have hcfg : (triangulo ⟨1, false⟩).Tcp := rfl
  have hacc : (triangulo ⟨1, false⟩).link .b 1 = some (.host claveTri.macDst) := rfl
  have hvivos : (triangulo ⟨1, false⟩).Vivos := by
    unfold Red.Vivos
    decide
  have hsim := tcpPath_symmetry hcfg decodifica_ley hvivos (by decide) (by decide) hacc h₀ hc₀ rfl
    (by decide) hrun
  exact ⟨s₀, s, h₀, hc₀, hrun, hc, hsim.1,
    hsim.2.1 2 ackTri (Nat.le_of_eq hlen) hem (by decide)⟩

def claveVuelta : CmpTableTcp := ⟨macDe 2, macDe 1, 0x2010, 80 * 256⟩

def synVuelta : Bytes := tramaTcp 2 1 [0x10, 0x20, 0, 80] 0x02

def pathVuelta : Bytes :=
  ethAddrBroadcast.bytes ++ (synVuelta.drop 6).set 17 253 ++ [1] ++ (macDe 1).bytes ++
    [0, 2, 0, 0, 0, 0, 1]

def synAckVuelta : Bytes := tramaTcp 1 2 [0, 80, 0x10, 0x20] 0x12

def ackVuelta : Bytes := tramaTcp 2 1 [0x10, 0x20, 0, 80] 0x10

/-- A SYN of 61 bytes from the first host to an address `9`, with the ports of the connection
    swapped. -/
def synAjeno : Bytes := tramaTcp 1 9 [0, 80, 0x10, 0x20] 0x02 ++ List.replicate 7 0

/-- Its PATH request; the hop counter comes to stand in the last byte of the destination. -/
def pathAjeno (dst saltos : UInt8) : Bytes :=
  ethAddrBroadcast.bytes ++ (synAjeno.drop 6).set 17 253 ++ [1] ++ (macDe dst).bytes ++
    [0, 1, 0, 0, 0, 0, saltos]

def ajeno : List (Evento Esquina) :=
  [.emite (macDe 2) .b 1 synVuelta, .entrega ⟨.switch .b 1, synVuelta, 0, []⟩ 0 0,
    .entrega ⟨.switch .a 2, pathVuelta, 0, [.b]⟩ 1 0,
    .emite (macDe 1) .a 1 synAckVuelta, .entrega ⟨.switch .a 1, synAckVuelta, 1, []⟩ 2 0,
    .entrega ⟨.switch .b 3, synAckVuelta, 1, [.a]⟩ 3 0,
    .entrega ⟨.host (macDe 2), synAckVuelta, 1, [.a, .b]⟩ 4 0,
    .emite (macDe 1) .a 1 synAjeno, .entrega ⟨.switch .a 1, synAjeno, 2, []⟩ 5 0,
    .entrega ⟨.switch .c 2, pathAjeno 9 1, 2, [.a]⟩ 6 0,
    .entrega ⟨.switch .b 2, pathAjeno 2 2, 2, [.a, .c]⟩ 7 0,
    .emite (macDe 2) .b 1 ackVuelta, .entrega ⟨.switch .b 1, ackVuelta, 3, []⟩ 8 0]

/-- **A segment leaves the way of the SYN-ACK**: the third switch has made a request out of the SYN
to `9`, and the second one sends the segment to the port that request came from. -/
theorem tcpPath_symmetry_ajeno :
    ∃ s, exec (triangulo ⟨1, false⟩).step (fun _ e => SinSynInverso (triangulo ⟨1, false⟩)
        claveVuelta e) ajeno (Estado.inicial Esquina) = some s ∧
      ⟨.host (macDe 2), synAckVuelta, 1, [.a, .b]⟩ ∈ s.llegadas ∧
      s.emitidas[3]? = some (macDe 2, ackVuelta) ∧
      ((triangulo ⟨1, false⟩).pkt 0 ackVuelta).segmento = some claveVuelta ∧
      ¬ Recorre (triangulo ⟨1, false⟩) s 3 [.b, .a] (macDe 1) := by
  obtain ⟨s, hs, hsa, hem, henv⟩ : ∃ s, exec (triangulo ⟨1, false⟩).step
      (fun _ e => SinSynInverso (triangulo ⟨1, false⟩) claveVuelta e) ajeno
        (Estado.inicial Esquina) = some s ∧
      ⟨.host (macDe 2), synAckVuelta, 1, [.a, .b]⟩ ∈ s.llegadas ∧
      s.emitidas[3]? = some (macDe 2, ackVuelta) ∧
      ⟨.switch .c 3, ackVuelta, 3, [.b]⟩ ∈ s.enviadas := by decide +kernel
  refine ⟨s, hs, hsa, hem, by decide, fun hrec => ?_⟩
  obtain ⟨resto, hresto, hsig⟩ := hrec.copia _ henv rfl
  cases hresto
  obtain ⟨_, hdest⟩ := hsig
  cases hdest

end TcpPath
