/-
  Subject:   ARP-Path over a network: the ports the switches learn for a host form a tree.

  Results:   `pipelineArpPath_flooded`: what a flooded frame does;
             `pipelineArpPath_unicast`: a unicast frame goes to one port at most;
             `arpPath_pointer_tree`: the ports for a MAC lead to its host.
-/
import TcpPath.Tree

namespace TcpPath

open Util List Function

/-! ## 1. The port of a MAC -/

/-- The port of the first entry of `mac`. -/
def portOf (t : MacTable) (mac : EthAddr) : Option Nat :=
  (t.find? (·.hasMac mac)).map (·.portIn)

/-- The table has one entry for a MAC at most. -/
def MacNodup (t : MacTable) : Prop := (t.map (·.mac)).Nodup

section Table

variable {t t' : MacTable} {mac : EthAddr} {now : Nat}

theorem portOf_eq_none : portOf t mac = none ↔ ∀ e ∈ t, e.mac ≠ mac := by
  unfold portOf
  rw [Option.map_eq_none_iff, find?_eq_none]
  simp only [MacPortTime.hasMac_iff, ne_eq]

theorem portOf_eq_some (hn : MacNodup t) {p : Nat} :
    portOf t mac = some p ↔ ∃ e ∈ t, e.mac = mac ∧ e.portIn = p := by
  unfold portOf
  rw [Option.map_eq_some_iff]
  constructor
  · intro ⟨e, he, hp⟩
    exact ⟨e, mem_of_find?_eq_some he, by simpa using find?_some he, hp⟩
  · rintro ⟨e, he, rfl, hp⟩
    exact ⟨e, find?_hasMac hn he, hp⟩

theorem MacNodup.perm (hn : MacNodup t) (hp : t'.Perm t) : MacNodup t' :=
  (hp.map _).nodup_iff.mpr hn

theorem portOf_perm (hn : MacNodup t) (hp : t'.Perm t) : portOf t' mac = portOf t mac := by
  refine Option.ext fun p => ?_
  rw [portOf_eq_some (hn.perm hp), portOf_eq_some hn]
  simp only [hp.mem_iff]

theorem foundPort_eq_portOf (hlive : ∀ e ∈ t, e.live now = true) :
    (macToPortFoundPort t mac now).1 = portOf t mac := by
  show t.findSome? (foundHit mac now) = (t.find? (·.hasMac mac)).map (·.portIn)
  induction t with
  | nil => rfl
  | cons e t ih =>
    rw [findSome?_cons, find?_cons, foundHit, hlive e mem_cons_self, Bool.and_true]
    cases e.hasMac mac with
    | true => rfl
    | false => exact ih fun x hx => hlive x (mem_cons_of_mem _ hx)

theorem checkTimeout_of_live (hlive : ∀ e ∈ t, e.live now = true) (h : portOf t mac ≠ none) :
    macToPortCheckTimeout t mac now = 0 := by
  unfold portOf at h
  unfold macToPortCheckTimeout
  cases hf : t.find? (·.hasMac mac) with
  | none =>
    rw [hf] at h
    exact absurd rfl h
  | some e =>
    have he := MacPortTime.not_expired_of_live (hlive e (mem_of_find?_eq_some hf))
    exact if_neg (by rw [he]; exact Bool.false_ne_true)

theorem portOf_refresh (time : Nat) (m : EthAddr) :
    portOf (macToPortTimeRefresh t m time now) mac = portOf t mac := by
  unfold portOf macToPortTimeRefresh
  refine find?_modifyFirst (fun e : MacPortTime => e.portIn) ?_ ?_ t <;> exact fun _ => rfl

theorem MacNodup.refresh (hn : MacNodup t) (time : Nat) (m : EthAddr) :
    MacNodup (macToPortTimeRefresh t m time now) := by
  unfold MacNodup macToPortTimeRefresh
  rw [map_modifyFirst]
  · exact hn
  · exact fun _ _ => rfl

theorem portOf_add (m : EthAddr) (portIn time vecino : Nat) :
    portOf (macToPortAddArpTable t m portIn time vecino now) mac =
      if m = mac then some (port16 portIn) else portOf t mac := by
  unfold portOf macToPortAddArpTable
  rw [find?_cons]
  by_cases h : m = mac
  · have hm : MacPortTime.hasMac mac ⟨m, port16 portIn, vecino, now + time * 1000⟩ = true :=
      decide_eq_true h
    rw [hm, if_pos h]
    rfl
  · have hm : MacPortTime.hasMac mac ⟨m, port16 portIn, vecino, now + time * 1000⟩ = false :=
      decide_eq_false h
    rw [hm, if_neg h]

theorem MacNodup.add (hn : MacNodup t) (h : portOf t mac = none) (portIn time vecino : Nat) :
    MacNodup (macToPortAddArpTable t mac portIn time vecino now) := by
  refine nodup_cons.mpr ⟨fun hmem => ?_, hn⟩
  obtain ⟨e, he, hm⟩ := mem_map.mp hmem
  exact portOf_eq_none.mp h e he hm

theorem deleteTimeout_of_live (hlive : ∀ e ∈ t, e.live now = true)
    (h : macToPortDeleteTimeout t now = some t') : t' = t := by
  have hkeep : ∀ l : MacTable, (∀ e ∈ l, e ∈ t) → l.filter (fun x => !x.expired now) = l := by
    intro l hl
    refine filter_eq_self.mpr fun e he => ?_
    rw [MacPortTime.not_expired_of_live (hlive e (hl e he))]
    rfl
  unfold macToPortDeleteTimeout at h
  split at h
  · cases h
    rfl
  · cases h
  · rename_i e e' r
    cases h
    have he : e.expired now = false :=
      MacPortTime.not_expired_of_live (hlive e mem_cons_self)
    have hr : r.filter (fun x => !x.expired now) = r :=
      hkeep r fun x hx => mem_cons_of_mem _ (mem_cons_of_mem _ hx)
    simp only [he, hr]
    rfl

end Table

/-! ## 2. What `pipeline_arp_path` does while no entry has expired -/

/-- The frames that teach their source. -/
def ensena (pkt : Packet) : Bool := entra pkt && (pkt.isFlooded || ensenaUnicast pkt)

/-- The port table after a frame: its source is learned if the frame teaches and there was no port
    for it; every other port stays. -/
def aprendido (t : MacTable) (pkt : Packet) (mac : EthAddr) : Option Nat :=
  if mac = pkt.ethSrc ∧ portOf t mac = none ∧ ensena pkt = true then some (port16 pkt.inPort)
  else portOf t mac

section Frame

variable {n : Nodo} {now : Nat} {s : Switch} {pkt : Packet} {r : Switch × List Efecto}
  {t : MacTable}

theorem aprendido_of_add (hnone : portOf t pkt.ethSrc = none) (he : ensena pkt = true)
    (time vecino now : Nat) (mac : EthAddr) :
    portOf (macToPortAddArpTable t pkt.ethSrc pkt.inPort time vecino now) mac =
      aprendido t pkt mac := by
  rw [portOf_add]
  unfold aprendido
  by_cases h : pkt.ethSrc = mac
  · rw [if_pos h, if_pos ⟨h.symm, h ▸ hnone, he⟩]
  · rw [if_neg h, if_neg fun hh => h hh.1.symm]

theorem aprendido_of_some (h : portOf t pkt.ethSrc ≠ none) (mac : EthAddr) :
    aprendido t pkt mac = portOf t mac := by
  refine if_neg fun hh => h ?_
  rw [← hh.1]
  exact hh.2.1

theorem aprendido_of_not (h : ensena pkt = false) (mac : EthAddr) :
    aprendido t pkt mac = portOf t mac :=
  if_neg fun hh => Bool.false_ne_true (h.symm.trans hh.2.2)

/-- **A flooded frame** is learned from and flooded, or discarded because its source has another
    port. -/
theorem pipelineArpPath_flooded (hin : entra pkt = true) (hn : MacNodup s.macPort)
    (hlive : ∀ e ∈ s.macPort, e.live now = true) (hf : pkt.isFlooded = true)
    (h : pipelineArpPath n now s pkt = some r) :
    MacNodup r.1.macPort ∧ (∀ mac, portOf r.1.macPort mac = aprendido s.macPort pkt mac) ∧
      ((portOf s.macPort pkt.ethSrc = none ∨ portOf s.macPort pkt.ethSrc = some pkt.inPort) ∧
          r.2 = [.outputPort pkt ofppRandom] ∨
        (portOf s.macPort pkt.ethSrc ≠ none ∧ portOf s.macPort pkt.ethSrc ≠ some pkt.inPort) ∧
          r.2 = [.packetDestroy]) := by
  have hen : ensena pkt = true := by rw [ensena, hin, hf]; rfl
  have hp := foundPort_perm s.macPort pkt.ethSrc now
  have hn' := hn.perm hp
  have hlive' : ∀ e ∈ (macToPortFoundPort s.macPort pkt.ethSrc now).2, e.live now = true :=
    fun e he => hlive e (hp.mem_iff.mp he)
  have hport : ∀ mac, portOf (macToPortFoundPort s.macPort pkt.ethSrc now).2 mac =
      portOf s.macPort mac := fun mac => portOf_perm hn hp
  unfold pipelineArpPath at h
  dsimp only at h
  rw [if_pos hf, foundPort_eq_portOf hlive] at h
  unfold aprendeInundado at h
  cases hs : portOf s.macPort pkt.ethSrc with
  | none =>
    have hnone : portOf (macToPortFoundPort s.macPort pkt.ethSrc now).2 pkt.ethSrc = none :=
      (hport _).trans hs
    rw [hs, if_pos rfl] at h
    cases h
    refine ⟨hn'.add hnone _ _ _, fun mac => ?_, .inl ⟨.inl rfl, rfl⟩⟩
    rw [← aprendido_of_add hs hen btTime 0 now mac, portOf_add, portOf_add, hport]
  | some p =>
    have hne : portOf s.macPort pkt.ethSrc ≠ none := by rw [hs]; exact Option.some_ne_none p
    have hc : macToPortCheckTimeout (macToPortFoundPort s.macPort pkt.ethSrc now).2 pkt.ethSrc now
        = 0 := checkTimeout_of_live hlive' (by rw [hport]; exact hne)
    rw [hs, if_neg (Option.some_ne_none p)] at h
    by_cases hpp : p = pkt.inPort
    · rw [if_pos (congrArg some hpp)] at h
      cases h
      refine ⟨hn'.refresh _ _, fun mac => ?_, .inl ⟨.inr (congrArg some hpp), rfl⟩⟩
      rw [portOf_refresh, hport, aprendido_of_some hne]
    · have hpp' : some p ≠ some pkt.inPort := fun e => hpp (Option.some.inj e)
      rw [if_neg hpp', if_neg fun hh => hh hc] at h
      cases h
      refine ⟨hn', fun mac => ?_, .inr ⟨⟨Option.some_ne_none p, hpp'⟩, rfl⟩⟩
      rw [hport, aprendido_of_some hne]

/-- **A unicast frame** is sent to at most one port of the table. -/
theorem pipelineArpPath_unicast (hrec : n.cfg.recuperacion = false) (hin : entra pkt = true)
    (hn : MacNodup s.macPort) (hlive : ∀ e ∈ s.macPort, e.live now = true)
    (hf : pkt.isFlooded = false)
    (h : pipelineArpPath n now s pkt = some r) :
    MacNodup r.1.macPort ∧ (∀ mac, portOf r.1.macPort mac = aprendido s.macPort pkt mac) ∧
      (r.2 = [] ∨ ∃ p, r.2 = [.outputPort pkt p]) := by
  have hp := foundPort_perm s.macPort pkt.ethSrc now
  have hn' := hn.perm hp
  have hport : ∀ mac, portOf (macToPortFoundPort s.macPort pkt.ethSrc now).2 mac =
      portOf s.macPort mac := fun mac => portOf_perm hn hp
  -- the table after the learning part
  have hlearn : ∀ t, t = (if ensenaUnicast pkt then
        aprendeLt now { s with macPort := (macToPortFoundPort s.macPort pkt.ethSrc now).2 } pkt
          (portOf s.macPort pkt.ethSrc)
      else (macToPortFoundPort s.macPort pkt.ethSrc now).2) →
      MacNodup t ∧ ∀ mac, portOf t mac = aprendido s.macPort pkt mac := by
    intro t ht
    by_cases hen : ensenaUnicast pkt = true
    · have hen' : ensena pkt = true := by rw [ensena, hin, hen, Bool.or_true]; rfl
      rw [if_pos hen] at ht
      unfold aprendeLt at ht
      cases hs : portOf s.macPort pkt.ethSrc with
      | none =>
        rw [hs, if_pos rfl] at ht
        rw [ht]
        refine ⟨hn'.add ((hport _).trans hs) _ _ _, fun mac => ?_⟩
        rw [← aprendido_of_add hs hen' ltTime 0 now mac, portOf_add, portOf_add, hport]
      | some p =>
        have hne : portOf s.macPort pkt.ethSrc ≠ none := by rw [hs]; exact Option.some_ne_none p
        have hc : macToPortCheckTimeout (macToPortFoundPort s.macPort pkt.ethSrc now).2
            pkt.ethSrc now = 0 :=
          checkTimeout_of_live (fun e he => hlive e (hp.mem_iff.mp he)) (by rw [hport]; exact hne)
        rw [hs, if_neg (Option.some_ne_none p), if_neg (by rw [hc]; decide)] at ht
        rw [ht]
        refine ⟨hn'.refresh _ _, fun mac => ?_⟩
        rw [portOf_refresh, hport, aprendido_of_some hne]
    · have hen' : ensena pkt = false := by
        rw [ensena, hin, hf, Bool.true_and, Bool.false_or]
        exact Bool.not_eq_true _ ▸ hen
      rw [if_neg hen] at ht
      rw [ht]
      exact ⟨hn', fun mac => by rw [hport, aprendido_of_not hen']⟩
  unfold pipelineArpPath at h
  dsimp only at h
  rw [if_neg (by rw [hf]; exact Bool.false_ne_true), foundPort_eq_portOf hlive] at h
  set s₁ : Switch := if ensenaUnicast pkt = true then _ else _ with hs₁
  obtain ⟨hn1, hp1⟩ := hlearn s₁.macPort (by rw [hs₁]; split <;> rfl)
  have hp2 := foundPort_perm s₁.macPort pkt.ethDst now
  unfold arpPathSendUnicast at h
  split at h
  · rw [if_pos hrec] at h
    cases h
    refine ⟨(hn1.perm hp2).refresh _ _, fun mac => ?_, .inr ⟨_, rfl⟩⟩
    rw [portOf_refresh, portOf_perm hn1 hp2, hp1]
  · rw [if_pos hrec] at h
    cases h
    refine ⟨hn1.perm hp2, fun mac => ?_, .inl rfl⟩
    rw [portOf_perm hn1 hp2, hp1]

end Frame

/-! ## 3. The network -/

/-- No `mac_port` entry has expired when a switch handles a frame or cleans up. -/
def SinCaducar {V : Type} (s : Estado V) : Evento V → Prop
  | .entrega c now _ =>
      match c.dest with
      | .switch v _ => ∀ e ∈ (s.sw v).macPort, e.live now = true
      | .host _ => True
  | .macDeleteTimeout v now => ∀ e ∈ (s.sw v).macPort, e.live now = true
  | _ => True

instance {V : Type} (s : Estado V) : (e : Evento V) → Decidable (SinCaducar s e)
  | .entrega ⟨.switch v _, _, _, _⟩ now _ =>
      inferInstanceAs (Decidable (∀ e ∈ (s.sw v).macPort, e.live now = true))
  | .macDeleteTimeout v now =>
      inferInstanceAs (Decidable (∀ e ∈ (s.sw v).macPort, e.live now = true))
  | .entrega ⟨.host _, _, _, _⟩ _ _ | .emite .. | .pierde _ | .hello .. | .tcpDeleteTimeout .. =>
      .isTrue trivial

variable {V : Type}

/-- The configuration `TCP_PATH` 0, `recuperacion` 0. -/
def Red.Arp (red : Red V) : Prop := red.cfg = ⟨0, false⟩

/-- The port switch `v` has for `mac`. -/
def Estado.puerto (s : Estado V) (mac : EthAddr) (v : V) : Option Nat :=
  portOf (s.sw v).macPort mac

variable {now : Nat} {pkt : Packet} {r : Switch × List Efecto} {red : Red V} {s s' : Estado V}
  {v : V} {p : Nat} {mac : EthAddr} {c : Copia V}

/-- **One frame at one switch**: its source may be learned, and only the frame itself is sent. -/
theorem arp_frame {n : Nodo} {s : Switch} (hcfg : n.cfg = ⟨0, false⟩) (hn : MacNodup s.macPort)
    (hlive : ∀ e ∈ s.macPort, e.live now = true)
    (h : pipelineProcessUah n now sinTablas s pkt = some r) :
    MacNodup r.1.macPort ∧ (∀ mac, portOf r.1.macPort mac = aprendido s.macPort pkt mac) ∧
      ∀ p o, Efecto.outputPort p o ∈ r.2 → p = pkt := by
  have hrec : n.cfg.recuperacion = false := by rw [hcfg]
  rcases pipelineProcessUah_cases n now hrec h with ⟨hin, hd⟩ | ⟨hin, hm, _, hout⟩
  · have harp : pipelineArpPath n now s pkt = some r := by
      rwa [despacha_arp n now (by rw [hcfg]) hin] at hd
    cases hf : pkt.isFlooded with
    | true =>
      obtain ⟨h1, h2, h3⟩ := pipelineArpPath_flooded hin hn hlive hf harp
      refine ⟨h1, h2, fun p o ho => ?_⟩
      rcases h3 with ⟨_, h3⟩ | ⟨_, h3⟩
      · rw [h3, mem_singleton] at ho
        cases ho
        rfl
      · rw [h3, mem_singleton] at ho
        cases ho
    | false =>
      obtain ⟨h1, h2, h3⟩ := pipelineArpPath_unicast hrec hin hn hlive hf harp
      refine ⟨h1, h2, fun p o ho => ?_⟩
      rcases h3 with h3 | ⟨q, h3⟩
      · rw [h3] at ho
        exact absurd ho not_mem_nil
      · rw [h3, mem_singleton] at ho
        cases ho
        rfl
  · have hno : ensena pkt = false := by rw [ensena, hin, Bool.false_and]
    refine ⟨by rw [hm]; exact hn, fun mac => by rw [hm, aprendido_of_not hno], ?_⟩
    exact fun p o ho => absurd ho (hout p o)

/-- **The invariant of the ARP-Path network.** -/
structure ArpInv (red : Red V) (s : Estado V) : Prop where
  nodup : ∀ v, MacNodup (s.sw v).macPort
  /-- A copy comes from the host with its source address, or from a switch; that switch has a port
      for the source if the frame teaches it. -/
  origen : ∀ c ∈ s.vuelo, ∀ v p, c.dest = .switch v p →
    red.link v p = some (.host (red.src c.buf)) ∨
      ∃ y q, red.link v p = some (.switch y q) ∧
        (ensena (red.pkt p c.buf) = true → s.puerto (red.src c.buf) y ≠ none)
  arbol : ∀ mac, Arbol red mac (s.puerto mac)

theorem ArpInv.mono (h : ArpInv red s) (hmac : ∀ v, (s'.sw v).macPort = (s.sw v).macPort)
    (hvuelo : ∀ c ∈ s'.vuelo, c ∈ s.vuelo) : ArpInv red s' := by
  have hp : ∀ mac v, s'.puerto mac v = s.puerto mac v := fun mac v => by
    unfold Estado.puerto
    rw [hmac v]
  refine ⟨fun v => by rw [hmac v]; exact h.nodup v, fun c hc v p hd => ?_, fun mac => ?_⟩
  · have horigen := h.origen c (hvuelo c hc) v p hd
    simpa only [hp] using horigen
  · exact (h.arbol mac).congr (hp mac)

theorem ArpInv.emite (h : ArpInv red s) {buf : Bytes} {hst : EthAddr}
    (hl : red.link v p = some (.host hst)) (hsrc : red.src buf = hst) (em : List (EthAddr × Bytes))
    (env : List (Copia V)) :
    ArpInv red { s with
      vuelo := s.vuelo ++ [⟨.switch v p, buf, s.emitidas.length, []⟩]
      emitidas := em
      enviadas := env } := by
  refine ⟨h.nodup, fun c hc u q hd => ?_, h.arbol⟩
  rcases mem_append.mp hc with hc | hc
  · exact h.origen c hc u q hd
  · rw [mem_singleton] at hc
    subst hc
    cases hd
    exact .inl (hsrc.symm ▸ hl)

theorem arpInv_inicial (red : Red V) : ArpInv red (Estado.inicial V) :=
  ⟨fun _ => nodup_nil, fun _ hc => absurd hc not_mem_nil, fun _ => .vacio fun _ => rfl⟩

variable [DecidableEq V]

theorem macPort_update {x : Switch} (hx : x.macPort = (s.sw v).macPort) (u : V) :
    (Function.update s.sw v x u).macPort = (s.sw u).macPort := by
  by_cases huv : u = v
  · subst huv
    rw [update_self, hx]
  · rw [update_of_ne huv]

theorem aprendido_stable {t : MacTable} (h : portOf t mac = some p) :
    aprendido t pkt mac = some p := by
  unfold aprendido
  rw [if_neg fun hh => by rw [h] at hh; exact Option.some_ne_none _ hh.2.1]
  exact h

omit [DecidableEq V] in
theorem ArpInv.enlazado (h : ArpInv red s) (hc : c ∈ s.vuelo) (hd : c.dest = .switch v p) :
    ∃ x, red.link v p = some x := by
  rcases h.origen c hc v p hd with hl | ⟨_, _, hl, _⟩
  · exact ⟨_, hl⟩
  · exact ⟨_, hl⟩

theorem ArpInv.aprende (h : ArpInv red s) {sw : Switch} (hc : c ∈ s.vuelo)
    (hd : c.dest = .switch v p)
    (hport : ∀ mac, portOf sw.macPort mac = aprendido (s.sw v).macPort (red.pkt p c.buf) mac)
    (hsw : s'.sw = Function.update s.sw v sw) (mac : EthAddr) :
    Aprende (s.puerto mac) (s'.puerto mac) v p
      (mac = red.src c.buf ∧ ensena (red.pkt p c.buf) = true) := by
  obtain ⟨x, hx⟩ := h.enlazado hc hd
  have hself : s'.puerto mac v = aprendido (s.sw v).macPort (red.pkt p c.buf) mac := by
    unfold Estado.puerto
    rw [hsw, update_self, hport]
  have hpropio : s'.puerto mac v = s.puerto mac v ∨ ((mac = red.src c.buf ∧
      ensena (red.pkt p c.buf) = true) ∧ s.puerto mac v = none ∧ s'.puerto mac v = some p) := by
    by_cases hnew : mac = red.src c.buf ∧ s.puerto mac v = none ∧
        ensena (red.pkt p c.buf) = true
    · refine .inr ⟨⟨hnew.1, hnew.2.2⟩, hnew.2.1, ?_⟩
      rw [hself]
      exact (if_pos hnew).trans (congrArg some (red.port16_of_link hx).1)
    · rw [hself]
      exact .inl (if_neg hnew)
  refine ⟨fun u hu => ?_, hpropio, fun he hnone => ?_⟩
  · unfold Estado.puerto
    rw [hsw, update_of_ne hu]
  · rw [hself] at hnone
    unfold aprendido at hnone
    split at hnone
    · cases hnone
    · rename_i hno
      exact hno ⟨he.1, hnone, he.2⟩

/-- **The invariant over the handling of a copy**, and what it does to the ports. -/
theorem ArpInv.procesa (hcfg : red.Arp) (h : ArpInv red s) {rand : Nat} (hc : c ∈ s.vuelo)
    (hd : c.dest = .switch v p) (hlive : ∀ e ∈ (s.sw v).macPort, e.live now = true)
    (hr : pipelineProcessUah (red.nodo v) now sinTablas (s.sw v) (red.pkt p c.buf) = some r)
    (hsw : s'.sw = Function.update s.sw v r.1)
    (hvuelo : s'.vuelo = s.vuelo.erase c ++ red.copias v (s.sw v).neighborTable rand c r.2) :
    ArpInv red s' ∧ ∀ mac u q, s.puerto mac u = some q → s'.puerto mac u = some q := by
  have hcfg' : (red.nodo v).cfg = ⟨0, false⟩ := hcfg
  obtain ⟨hn, hport, hout⟩ := arp_frame hcfg' (h.nodup v) hlive hr
  have hap := h.aprende hc hd hport hsw
  refine ⟨⟨fun u => ?_, fun c' hc' u q hd' => ?_, fun mac => ?_⟩,
    fun mac u q hq => (hap mac).estable hq⟩
  · rw [hsw]
    by_cases hu : u = v
    · subst hu
      rw [update_self]
      exact hn
    · rw [update_of_ne hu]
      exact h.nodup u
  · rw [hvuelo] at hc'
    rcases mem_append.mp hc' with hc' | hc'
    · refine (h.origen c' (mem_of_mem_erase hc') u q hd').imp id ?_
      exact fun ⟨y, q', hl, himp⟩ => ⟨y, q', hl, fun he => (hap _).ne_none (himp he)⟩
    · -- a new copy is the same frame, sent by `v`, which has just learned its source
      obtain ⟨_, _, pkt, o, q', hef, hlink, hq'⟩ := red.mem_copias hc'
      have hbuf : c'.buf = c.buf := by
        rw [red.buf_of_output hq', hout pkt o hef]
        rfl
      rw [hd'] at hlink
      refine .inr ⟨v, q', red.symm v q' u q hlink, fun he => ?_⟩
      rw [hbuf] at he ⊢
      exact (hap _).tiene ⟨rfl, he⟩
  · refine (hap mac).arbol (h.arbol mac) fun he => ?_
    rw [he.1]
    exact (h.origen c hc v p hd).imp id fun ⟨y, q, hl, himp⟩ => ⟨y, q, hl, himp he.2⟩

/-- **One event** keeps the invariant and every learned port. -/
theorem ArpInv.step (hcfg : red.Arp) {e : Evento V} (h : ArpInv red s) (hok : SinCaducar s e)
    (hs : red.step s e = some s') :
    ArpInv red s' ∧ ∀ mac u q, s.puerto mac u = some q → s'.puerto mac u = some q := by
  have hkeep : ∀ {s' : Estado V}, (∀ v, (s'.sw v).macPort = (s.sw v).macPort) →
      (∀ c ∈ s'.vuelo, c ∈ s.vuelo) → ArpInv red s' ∧
        ∀ mac u q, s.puerto mac u = some q → s'.puerto mac u = some q := by
    intro s' hmac hvuelo
    refine ⟨h.mono hmac hvuelo, fun mac u q hq => ?_⟩
    unfold Estado.puerto
    rw [hmac u]
    exact hq
  cases red.step_cases hs with
  | emite hl hsrc => exact ⟨h.emite hl hsrc _ _, fun _ _ _ hq => hq⟩
  | recibe hc hd => exact hkeep (fun _ => rfl) fun c hc' => mem_of_mem_erase hc'
  | @procesa c v p now rand r hc hd hr =>
    have hlive : ∀ e ∈ (s.sw v).macPort, e.live now = true := by
      unfold SinCaducar at hok
      simpa only [hd] using hok
    exact h.procesa hcfg hc hd hlive hr rfl rfl
  | pierde hc => exact hkeep (fun _ => rfl) fun c hc' => mem_of_mem_erase hc'
  | hello => exact hkeep (macPort_update (by rfl)) fun _ hc => hc
  | macDeleteTimeout ht =>
    have ht' := deleteTimeout_of_live hok ht
    exact hkeep (macPort_update ht') fun _ hc => hc
  | tcpDeleteTimeout _ => exact hkeep (macPort_update (by rfl)) fun _ hc => hc

theorem arpInv_alcanza (hcfg : red.Arp) (h : red.Alcanza SinCaducar s) : ArpInv red s :=
  Run.invariant (I := ArpInv red) h (arpInv_inicial red) fun _ _ _ hi hok hs =>
    (hi.step hcfg hok hs).1

theorem puerto_stable (hcfg : red.Arp) (hi : ArpInv red s) (h : Run red.step SinCaducar s s')
    (hp : s.puerto mac v = some p) : s'.puerto mac v = some p := by
  have hboth : ArpInv red s' ∧ s'.puerto mac v = some p := by
    refine Run.invariant (I := fun t => ArpInv red t ∧ t.puerto mac v = some p) h ⟨hi, hp⟩ ?_
    intro t e u ⟨hit, hpt⟩ hok hs
    obtain ⟨h1, h2⟩ := hit.step hcfg hok hs
    exact ⟨h1, h2 mac v p hpt⟩
  exact hboth.2

/-- **The ARP-Path pointer tree.** While no entry expires, a switch has at most one entry for a MAC;
its port stays, and following the ports for `mac` leads, meeting no switch twice, to the host. -/
theorem arpPath_pointer_tree {red : Red V} (hcfg : red.Arp) {s : Estado V}
    (h : red.Alcanza SinCaducar s) (mac : EthAddr) :
    (∀ v, (s.sw v).macPort.countP (·.hasMac mac) ≤ 1) ∧
    (∀ v p s', s.puerto mac v = some p → Run red.step SinCaducar s s' →
      s'.puerto mac v = some p) ∧
    ∀ v, s.puerto mac v ≠ none → ∃ l, Follow (red.punteros (s.puerto mac)) v l ∧ l.Nodup ∧
      ∃ a p, l.getLast? = some a ∧ s.puerto mac a = some p ∧
        red.link a p = some (.host mac) := by
  have hi := arpInv_alcanza hcfg h
  refine ⟨fun v => ?_, fun v p s' hp hrun => puerto_stable hcfg hi hrun hp, fun v hv => ?_⟩
  · have hcount := nodup_iff_count_le_one.mp (hi.nodup v) mac
    rw [count_eq_countP, countP_map] at hcount
    refine Nat.le_trans (Nat.le_of_eq (countP_congr fun e _ => ?_)) hcount
    simp [MacPortTime.hasMac]
  · exact (hi.arbol mac).sigue hv

/-- In a triangle, a broadcast of the first host reaches the other two switches, and a copy that
    goes round comes to a switch that has another port. -/
def difunde : List (Evento Esquina) :=
  [.emite (macDe 1) .a 1 (difusion 1), .entrega ⟨.switch .a 1, difusion 1, 0, []⟩ 0 0,
    .entrega ⟨.switch .b 3, difusion 1, 0, [.a]⟩ 1 0,
    .entrega ⟨.switch .c 2, difusion 1, 0, [.a]⟩ 2 0,
    .entrega ⟨.switch .c 3, difusion 1, 0, [.a, .b]⟩ 3 0]

theorem arpPath_pointer_tree_triangulo :
    ∃ s, (triangulo ⟨0, false⟩).Arp ∧ (triangulo ⟨0, false⟩).Alcanza SinCaducar s ∧
      s.puerto (macDe 1) .c = some 2 ∧ (s.sw .c).macPort.countP (·.hasMac (macDe 1)) ≤ 1 ∧
      ∃ l, Follow ((triangulo ⟨0, false⟩).punteros (s.puerto (macDe 1))) .c l ∧ l.Nodup ∧
        ∃ w p, l.getLast? = some w ∧ s.puerto (macDe 1) w = some p ∧
          (triangulo ⟨0, false⟩).link w p = some (.host (macDe 1)) := by
  have hcfg : (triangulo ⟨0, false⟩).Arp := rfl
  refine exists_and_left.mpr ⟨hcfg, Run.exists_exec₁ difunde (by decide) fun s hrun hp => ?_⟩
  have htree := arpPath_pointer_tree hcfg hrun (macDe 1)
  exact ⟨htree.1 .c, htree.2.2 .c (by rw [hp]; exact Option.some_ne_none 2)⟩

end TcpPath
