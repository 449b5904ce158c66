/-
  Subject:   ARP-Path delivers: a unicast frame follows the learned ports to its host.

  The learned ports are followed hop by hop: a switch that has handled the frame is not met again,
  so that what it learned from the frame does not matter.

  Results:   `arpPath_delivers`: a unicast frame arrives, before anything expires.
-/
import TcpPath.ArpPath
import TcpPath.TcpFrame

namespace TcpPath

open Util List

/-! ## 1. One switch -/

section Frame

variable {n : Nodo} {now : Nat} {s : Switch} {pkt : Packet} {q : Nat}

/-- What a unicast frame teaches is live. -/
theorem live_aprendeLt (hlive : ∀ e ∈ s.macPort, e.live now = true) {e : MacPortTime}
    (he : e ∈ aprendeLt now s pkt (portOf s.macPort pkt.ethSrc)) : e.live now = true := by
  unfold aprendeLt at he
  split at he
  · rcases mem_cons.mp he with rfl | he
    · simp [MacPortTime.live, ltTime]
    · exact hlive e he
  · rename_i hne
    rw [if_neg (by rw [checkTimeout_of_live hlive hne]; decide)] at he
    rcases mem_modifyFirst he with he | ⟨x, hx, rfl⟩
    · exact hlive e he
    · exact MacPortTime.live_refresh (hlive x (mem_of_find?_eq_some hx))

/-- A port that was there stays. -/
theorem portOf_aprendeLt (hlive : ∀ e ∈ s.macPort, e.live now = true) {mac : EthAddr}
    (hq : portOf s.macPort mac = some q) :
    portOf (aprendeLt now s pkt (portOf s.macPort pkt.ethSrc)) mac = some q := by
  unfold aprendeLt
  split
  · rename_i hnone
    have hdistinto : pkt.ethSrc ≠ mac := by
      rintro rfl
      rw [hq] at hnone
      cases hnone
    rw [portOf_add, if_neg hdistinto, hq]
  · rename_i hne
    rw [if_neg (by rw [checkTimeout_of_live hlive hne]; decide), portOf_refresh, hq]

/-- **A unicast frame for an address with a port** is sent to that port. -/
theorem pipelineArpPath_conocido (hrec : n.cfg.recuperacion = false) (hn : MacNodup s.macPort)
    (hlive : ∀ e ∈ s.macPort, e.live now = true) (hf : pkt.isFlooded = false)
    (hq : portOf s.macPort pkt.ethDst = some q) :
    ∃ s', pipelineArpPath n now s pkt = some (s', [.outputPort pkt q]) := by
  have hp := foundPort_perm s.macPort pkt.ethSrc now
  have hlive' : ∀ e ∈ (macToPortFoundPort s.macPort pkt.ethSrc now).2, e.live now = true :=
    fun e he => hlive e (hp.mem_iff.mp he)
  have hport : ∀ mac, portOf (macToPortFoundPort s.macPort pkt.ethSrc now).2 mac =
      portOf s.macPort mac := fun mac => portOf_perm hn hp
  -- the lookup of the destination comes behind the learning of the source
  have hlook : ∀ t : MacTable, (∀ e ∈ t, e.live now = true) → portOf t pkt.ethDst = some q →
      (macToPortFoundPort t pkt.ethDst now).1 = some q := fun t ht hpt =>
    (foundPort_eq_portOf ht).trans hpt
  unfold pipelineArpPath
  dsimp only
  rw [if_neg (by rw [hf]; exact Bool.false_ne_true), foundPort_eq_portOf hlive]
  split
  · rw [← hport pkt.ethSrc]
    rw [hlook _ (fun e he => live_aprendeLt hlive' he)
      (portOf_aprendeLt hlive' ((hport _).trans hq)), arpPathSendUnicast, if_pos hrec]
    exact ⟨_, rfl⟩
  · rw [hlook _ hlive' ((hport _).trans hq), arpPathSendUnicast, if_pos hrec]
    exact ⟨_, rfl⟩

end Frame

/-! ## 2. Hop by hop -/

section Red

variable {V : Type} [DecidableEq V] {red : Red V} {f : V → Option Nat} {dst : EthAddr} {now : Nat}

/-- The links of the network are up. -/
def Red.Viva (red : Red V) : Prop := ∀ v p x, red.link v p = some x →
  ∃ conf, (red.dp v).conf p = some conf ∧ conf.state = ofppsLive

/-- The switches `l` have the ports `f` for `dst`, and no entry of theirs has expired. -/
def Sirven (s : Estado V) (dst : EthAddr) (now : Nat) (f : V → Option Nat) (l : List V) : Prop :=
  ∀ u ∈ l, MacNodup (s.sw u).macPort ∧ s.puerto dst u = f u ∧
    ∀ e ∈ (s.sw u).macPort, e.live now = true

/-- Only copies of one frame are taken, and nothing else happens. -/
def SoloFrame (id now : Nat) (_ : Estado V) (e : Evento V) : Prop :=
  ∃ c rand, e = .entrega c now rand ∧ c.id = id

/-- A unicast frame that ARP-Path handles, at whatever port. -/
structure Red.Unicast (red : Red V) (buf : Bytes) (dst : EthAddr) : Prop where
  entra : ∀ p, entra (red.pkt p buf) = true
  unicast : ∀ p, (red.pkt p buf).isFlooded = false
  dst : ∀ p, (red.pkt p buf).ethDst = dst

/-- **One hop**: the copy is on the link behind the learned port. -/
theorem hop (harp : red.Arp) (hviva : red.Viva) {s : Estado V} {c : Copia V} {v : V} {p q : Nat}
    {x y : Extremo V} (hu : red.Unicast c.buf dst) (hc : c ∈ s.vuelo) (hd : c.dest = .switch v p)
    (hy : red.link v p = some y) (hne : p ≠ q) (hx : red.link v q = some x)
    (hn : MacNodup (s.sw v).macPort) (hq : s.puerto dst v = some q)
    (hlive : ∀ e ∈ (s.sw v).macPort, e.live now = true) :
    ∃ s', red.step s (.entrega c now 0) = some s' ∧
      (⟨x, c.buf, c.id, c.traza ++ [v]⟩ : Copia V) ∈ s'.vuelo ∧ ∀ u, u ≠ v → s'.sw u = s.sw u := by
  obtain ⟨confp, hconfp, hlivep⟩ := hviva v p y hy
  obtain ⟨conf, hconf, hvivo⟩ := hviva v q x hx
  have hrec : red.recibe v p = true := by
    rw [Red.recibe, hconfp, Option.map_some, Option.getD_some, (SwPort.state_eq_live.mp hlivep).2]
    rfl
  have hcfg : (red.nodo v).cfg = ⟨0, false⟩ := harp
  obtain ⟨sw, hsw⟩ := pipelineArpPath_conocido (by rw [hcfg]) hn hlive (hu.unicast p)
    (by rw [hu.dst p]; exact hq)
  have huah := (pipelineProcessUah_entra (by rw [hcfg]) (hu.entra p)).trans
    ((despacha_arp (red.nodo v) now (by rw [hcfg]) (hu.entra p)).trans hsw)
  have hcop : red.copias v (s.sw v).neighborTable 0 c [.outputPort (red.pkt p c.buf) q] =
      [⟨x, c.buf, c.id, c.traza ++ [v]⟩] := red.copias_unicast hx hne hconf hvivo
  refine ⟨_, by rw [Red.step, if_pos hc, hd]; dsimp only; rw [if_pos hrec, Red.procesa, huah]; rfl,
    ?_, fun u hu => ?_⟩
  · show _ ∈ _ ++ red.copias v (s.sw v).neighborTable 0 c [.outputPort (red.pkt p c.buf) q]
    rw [hcop]
    exact mem_append_right _ (mem_singleton_self _)
  · exact Function.update_of_ne hu ..

/-- **The way to the host**: along a `Follow` of the ports, which meets no switch twice. -/
theorem sigue_entrega (harp : red.Arp) (hviva : red.Viva) (harbol : Arbol red dst f) {v : V}
    {l : List V} (hl : Follow (red.punteros f) v l) (hnd : l.Nodup) :
    ∀ {s : Estado V} {c : Copia V} {p : Nat} {y : Extremo V}, red.Unicast c.buf dst →
      c ∈ s.vuelo → c.dest = .switch v p → red.link v p = some y → f v ≠ some p →
      Sirven s dst now f l →
      ∃ s' c', Run red.step (SoloFrame c.id now) s s' ∧ c' ∈ s'.llegadas ∧ c'.dest = .host dst ∧
        c'.buf = c.buf ∧ c'.id = c.id ∧ c'.traza = c.traza ++ l := by
  induction hl with
  | @root v hv =>
    intro s c p y hu hc hd hy hp hs
    obtain ⟨q, hq, hlink⟩ := harbol.host_of_root hv
    obtain ⟨hn, hport, hlive⟩ := hs v mem_cons_self
    obtain ⟨s₁, hstep, hmem, -⟩ := hop harp hviva hu hc hd hy (fun e => hp (e ▸ hq)) hlink hn
      (hport.trans hq) hlive
    set c' : Copia V := ⟨.host dst, c.buf, c.id, c.traza ++ [v]⟩
    have hlast : red.step s₁ (.entrega c' now 0) =
        some { s₁ with vuelo := s₁.vuelo.erase c', llegadas := s₁.llegadas ++ [c'] } := by
      rw [Red.step, if_pos hmem]
    exact ⟨_, c', .tail (.tail .refl ⟨c, 0, rfl, rfl⟩ hstep) ⟨c', 0, rfl, rfl⟩ hlast,
      mem_append_right _ (mem_singleton_self _), rfl, rfl, rfl, rfl⟩
  | @step v w l hv hl ih =>
    intro s c p y hu hc hd hy hp hs
    obtain ⟨q, hq, hdet⟩ := Option.map_eq_some_iff.mp hv
    obtain ⟨p', hlink⟩ := Red.detras_eq_some hdet
    obtain ⟨hn, hport, hlive⟩ := hs v mem_cons_self
    obtain ⟨s₁, hstep, hmem, hsame⟩ := hop harp hviva hu hc hd hy (fun e => hp (e ▸ hq)) hlink hn
      (hport.trans hq) hlive
    obtain ⟨hvl, hnd⟩ := nodup_cons.mp hnd
    -- `w` does not send back to `v`: the way would come to `v` again
    have hback : f w ≠ some p' := by
      intro hfw
      have hwv : red.punteros f w = some (some v) := by
        rw [Red.punteros, hfw, Option.map_some, Red.detras, red.symm v q w p' hlink]
      cases hl with
      | root h =>
        rw [hwv] at h
        cases h
      | step h hl' =>
        rw [hwv] at h
        cases h
        obtain ⟨r, rfl⟩ := hl'.head
        exact hvl (mem_cons_of_mem _ mem_cons_self)
    have hs₁ : Sirven s₁ dst now f l := by
      intro u hul
      have huv : u ≠ v := fun e => hvl (e ▸ hul)
      obtain ⟨h1, h2, h3⟩ := hs u (mem_cons_of_mem _ hul)
      unfold Estado.puerto at h2 ⊢
      rw [hsame u huv]
      exact ⟨h1, h2, h3⟩
    obtain ⟨s', c', hrun, hlleg, h1, h2, h3, h4⟩ := ih hnd (c := ⟨_, c.buf, c.id, c.traza ++ [v]⟩)
      hu hmem rfl (red.symm v q w p' hlink) hback hs₁
    refine ⟨s', c', ?_, hlleg, h1, h2, h3, ?_⟩
    · exact .trans (.tail .refl ⟨c, 0, rfl, rfl⟩ hstep) hrun
    · rw [h4, append_assoc]
      rfl

end Red

/-! ## 3. Delivery -/

/-- **ARP-Path delivers.** Over any topology, in every state the events lead to without an entry
    having expired: if a unicast frame is on its way to a switch that has a port for its
    destination, other than the one it comes in through, then handling that frame alone, hop by hop,
    brings it unchanged to the host, past no switch twice. -/
theorem arpPath_delivers {V : Type} [DecidableEq V] {red : Red V} (harp : red.Arp)
    (hviva : red.Viva) {s : Estado V} (h : red.Alcanza SinCaducar s) {now : Nat}
    (hlive : ∀ u, ∀ e ∈ (s.sw u).macPort, e.live now = true) {c : Copia V} {dst : EthAddr}
    (hu : red.Unicast c.buf dst) (hc : c ∈ s.vuelo) {v : V} {p q : Nat} (hd : c.dest = .switch v p)
    (hq : s.puerto dst v = some q) (hne : p ≠ q) :
    ∃ s' c' l, Run red.step (SoloFrame c.id now) s s' ∧ c' ∈ s'.llegadas ∧ c'.dest = .host dst ∧
      c'.buf = c.buf ∧ c'.id = c.id ∧ c'.traza = c.traza ++ l ∧ l.Nodup := by
  have hinv := arpInv_alcanza harp h
  obtain ⟨y, hy⟩ := hinv.enlazado hc hd
  have hsome : s.puerto dst v ≠ none := by
    rw [hq]
    exact Option.some_ne_none q
  obtain ⟨l, hl, hnd, -⟩ := (hinv.arbol dst).sigue hsome
  have hp : s.puerto dst v ≠ some p := by
    rw [hq]
    exact fun e => hne (Option.some.inj e).symm
  obtain ⟨s', c', hrun, h1, h2, h3, h4, h5⟩ := sigue_entrega harp hviva (hinv.arbol dst) hl hnd hu
    hc hd hy hp fun u _ => ⟨hinv.nodup u, rfl, hlive u⟩
  exact ⟨s', c', l, hrun, h1, h2, h3, h4, h5, hnd⟩

/-- A frame of host 3 for host 1. -/
def aHost1 : Bytes := (macDe 1).bytes ++ (macDe 3).bytes ++ [0x88, 0xb5]

theorem viva_triangulo : (triangulo ⟨0, false⟩).Viva := by
  intro v p x hl
  obtain ⟨h1, h3⟩ : 1 ≤ p ∧ p ≤ 3 := (triangulo ⟨0, false⟩).physical v p x hl
  interval_cases p <;> exact ⟨⟨0, false⟩, rfl, rfl⟩

/-- After `difunde` the third host answers the first one. -/
theorem arpPath_delivers_triangulo : ∃ s, (triangulo ⟨0, false⟩).Alcanza SinCaducar s ∧
    ((∀ u, ∀ e ∈ (s.sw u).macPort, e.live 10 = true) ∧
      (⟨.switch .c 1, aHost1, 1, []⟩ : Copia Esquina) ∈ s.vuelo ∧
      s.puerto (macDe 1) .c = some 2) ∧
    ∃ s' c' l, Run (triangulo ⟨0, false⟩).step (SoloFrame 1 10) s s' ∧ c' ∈ s'.llegadas ∧
      c'.dest = .host (macDe 1) ∧ c'.buf = aHost1 ∧ c'.id = 1 ∧ c'.traza = [] ++ l ∧ l.Nodup := by
  have harp : (triangulo ⟨0, false⟩).Arp := rfl
  have hu : (triangulo ⟨0, false⟩).Unicast aHost1 (macDe 1) := by
    refine ⟨fun p => ?_, fun p => ?_, fun p => ?_⟩
    · show entra ((triangulo ⟨0, false⟩).pkt 0 aHost1) = true
      decide
    · show ((triangulo ⟨0, false⟩).pkt 0 aHost1).isFlooded = false
      decide
    · show ((triangulo ⟨0, false⟩).pkt 0 aHost1).ethDst = macDe 1
      decide
  refine Run.exists_exec₁ (difunde ++ [.emite (macDe 3) .c 1 aHost1]) (by decide) fun s h hs => ?_
  exact arpPath_delivers (c := ⟨.switch .c 1, aHost1, 1, []⟩) harp viva_triangulo h hs.1 hu hs.2.1
    rfl hs.2.2 (by decide)

end TcpPath
