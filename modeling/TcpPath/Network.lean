/-
  Subject:   A network of switches and hosts: frames in flight on the links, and the events that
             change it.

  * `Copia` -- a copy of a frame on a link: where it goes and its bytes; as history also the
    number of the host emission it comes from and the switches it has passed;
  * `Estado` -- the switches, the copies in flight, and the history: what hosts emitted, every
    copy ever put on a link, every copy taken from a link, every flood executed;

  A frame for a port that is down can only be lost: `process_buffer` drops it.
-/
import TcpPath.Decoder
import TcpPath.Pipeline
import TcpPath.Util.Runs

namespace TcpPath

open Util List

/-! ## 1. The network -/

/-- The end of a link. -/
inductive Extremo (V : Type) where
  | switch (v : V) (p : Nat)
  | host (h : EthAddr)
  deriving DecidableEq, Repr

/-- A network. A host is named by its MAC. -/
structure Red (V : Type) where
  parse : Parser
  cfg : Config
  dp : V → Datapath
  link : V → Nat → Option (Extremo V)
  physical : ∀ v p x, link v p = some x → (dp v).physical p
  symm : ∀ v p w q, link v p = some (.switch w q) → link w q = some (.switch v p)
  /-- A host is attached to one port. -/
  attached : ∀ h v p w q, link v p = some (.host h) → link w q = some (.host h) → v = w ∧ p = q

/-- A copy of a frame on a link. -/
structure Copia (V : Type) where
  dest : Extremo V
  buf : Bytes
  id : Nat
  traza : List V
  deriving Repr

theorem Copia.eq_iff {V : Type} {c c' : Copia V} : c = c' ↔
    c.dest = c'.dest ∧ c.buf = c'.buf ∧ c.id = c'.id ∧ c.traza = c'.traza := by
  cases c
  cases c'
  simp

instance {V : Type} [DecidableEq V] : DecidableEq (Copia V) := fun _ _ =>
  decidable_of_iff' _ Copia.eq_iff

/-- The state of a network. -/
structure Estado (V : Type) where
  sw : V → Switch
  vuelo : List (Copia V)
  emitidas : List (EthAddr × Bytes)
  enviadas : List (Copia V)
  llegadas : List (Copia V)
  inundadas : List (V × Nat)

def Estado.inicial (V : Type) : Estado V := ⟨fun _ => Switch.inicial, [], [], [], [], []⟩

inductive Evento (V : Type) where
  | emite (h : EthAddr) (v : V) (p : Nat) (buf : Bytes)
  | entrega (c : Copia V) (now rand : Nat)
  | pierde (c : Copia V)
  | hello (v : V) (p : Nat) (buf : Bytes) (now : Nat)
  | macDeleteTimeout (v : V) (now : Nat)
  | tcpDeleteTimeout (v : V) (now : Nat)

namespace Red

variable {V : Type} (red : Red V)

/-- What switch `v` is built with. -/
def nodo (v : V) : Nodo := ⟨red.parse, red.cfg, red.dp v⟩

/-- The frame `buf` as a packet received on port `p`. -/
def pkt (p : Nat) (buf : Bytes) : Packet := packetCreate red.parse p buf

/-- The source address of a frame. -/
def src (buf : Bytes) : EthAddr := (red.pkt 0 buf).ethSrc

@[simp] theorem pkt_inPort (p : Nat) (buf : Bytes) : (red.pkt p buf).inPort = p := rfl

variable {v : V} {p : Nat} {x : Extremo V} {pkt : Packet} {nt : MacTable} {rand : Nat}
  {c c' : Copia V} {efs : List Efecto} {q : Nat}

theorem port16_of_link (h : red.link v p = some x) : port16 p = p ∧ p < 2 ^ 16 := by
  have hp := (red.physical v p x h).2
  have hfits := (red.dp v).fits
  unfold dpMaxPorts at hfits
  have hlt : p < 2 ^ 16 := by omega
  exact ⟨Nat.mod_eq_of_lt hlt, hlt⟩

/-- The copies that effects of `v` put on its links, as copies of what arrived as `c`. -/
def copias (v : V) (neighborTable : MacTable) (rand : Nat) (c : Copia V) (efs : List Efecto) :
    List (Copia V) :=
  (efs.flatMap (Efecto.copias (red.dp v) neighborTable rand)).filterMap fun x =>
    (red.link v x.1).map fun dest => ⟨dest, x.2, c.id, c.traza ++ [v]⟩

/-- Does `process_buffer` take frames from this port? -/
def recibe (v : V) (p : Nat) : Bool := (((red.dp v).conf p).map fun q => !q.portDown).getD false

/-- An effect that executes the `OFPP_RANDOM` output. -/
def esInundacion : Efecto → Bool
  | .outputPort _ outPort => outPort == ofppRandom
  | _ => false

/-! ## 2. The events -/

variable [DecidableEq V]

/-- A copy is taken by the switch it goes to. -/
def procesa (s : Estado V) (c : Copia V) (v : V) (p now rand : Nat) : Option (Estado V) :=
  (pipelineProcessUah (red.nodo v) now sinTablas (s.sw v) (red.pkt p c.buf)).map fun r =>
    let nuevas := red.copias v (s.sw v).neighborTable rand c r.2
    { sw := Function.update s.sw v r.1
      vuelo := s.vuelo.erase c ++ nuevas
      emitidas := s.emitidas
      enviadas := s.enviadas ++ nuevas
      llegadas := s.llegadas ++ [c]
      inundadas := s.inundadas ++ (r.2.filter esInundacion).map fun _ => (v, c.id) }

/-- **One event.** -/
def step (s : Estado V) : Evento V → Option (Estado V)
  | .emite h v p buf =>
      if red.link v p = some (.host h) ∧ red.src buf = h then
        let c : Copia V := ⟨.switch v p, buf, s.emitidas.length, []⟩
        some { s with
          vuelo := s.vuelo ++ [c]
          emitidas := s.emitidas ++ [(h, buf)]
          enviadas := s.enviadas ++ [c] }
      else none
  | .entrega c now rand =>
      if c ∈ s.vuelo then
        match c.dest with
        | .host _ => some { s with vuelo := s.vuelo.erase c, llegadas := s.llegadas ++ [c] }
        | .switch v p => if red.recibe v p then red.procesa s c v p now rand else none
      else none
  | .pierde c => if c ∈ s.vuelo then some { s with vuelo := s.vuelo.erase c } else none
  | .hello v p buf now =>
      if esHello (red.pkt p buf) then
        (pipelineProcessUah (red.nodo v) now sinTablas (s.sw v) (red.pkt p buf)).map fun r =>
          { s with sw := Function.update s.sw v r.1 }
      else none
  | .macDeleteTimeout v now =>
      (macToPortDeleteTimeout (s.sw v).macPort now).map fun t =>
        { s with sw := Function.update s.sw v { s.sw v with macPort := t } }
  | .tcpDeleteTimeout v now =>
      let t := tableTcpDeleteTimeout (s.sw v).tcpTable now
      some { s with sw := Function.update s.sw v { s.sw v with tcpTable := t } }

/-- What an event does, with the conditions under which it is possible. -/
inductive Paso (s : Estado V) : Evento V → Estado V → Prop where
  | emite {h : EthAddr} {v : V} {p : Nat} {buf : Bytes} (hl : red.link v p = some (.host h))
      (hsrc : red.src buf = h) :
      Paso s (.emite h v p buf) { s with
        vuelo := s.vuelo ++ [⟨.switch v p, buf, s.emitidas.length, []⟩]
        emitidas := s.emitidas ++ [(h, buf)]
        enviadas := s.enviadas ++ [⟨.switch v p, buf, s.emitidas.length, []⟩] }
  | recibe {c : Copia V} {h : EthAddr} {now rand : Nat} (hc : c ∈ s.vuelo)
      (hd : c.dest = .host h) :
      Paso s (.entrega c now rand)
        { s with vuelo := s.vuelo.erase c, llegadas := s.llegadas ++ [c] }
  | procesa {c : Copia V} {v : V} {p now rand : Nat} {r : Switch × List Efecto}
      (hc : c ∈ s.vuelo) (hd : c.dest = .switch v p)
      (hr : pipelineProcessUah (red.nodo v) now sinTablas (s.sw v) (red.pkt p c.buf) = some r) :
      Paso s (.entrega c now rand)
        { sw := Function.update s.sw v r.1
          vuelo := s.vuelo.erase c ++ red.copias v (s.sw v).neighborTable rand c r.2
          emitidas := s.emitidas
          enviadas := s.enviadas ++ red.copias v (s.sw v).neighborTable rand c r.2
          llegadas := s.llegadas ++ [c]
          inundadas := s.inundadas ++ (r.2.filter esInundacion).map fun _ => (v, c.id) }
  | pierde {c : Copia V} (hc : c ∈ s.vuelo) :
      Paso s (.pierde c) { s with vuelo := s.vuelo.erase c }
  | hello {v : V} {p : Nat} {buf : Bytes} {now : Nat} {t : MacTable} :
      Paso s (.hello v p buf now)
        { s with sw := Function.update s.sw v { s.sw v with neighborTable := t } }
  | macDeleteTimeout {v : V} {now : Nat} {t : MacTable}
      (ht : macToPortDeleteTimeout (s.sw v).macPort now = some t) :
      Paso s (.macDeleteTimeout v now)
        { s with sw := Function.update s.sw v { s.sw v with macPort := t } }
  | tcpDeleteTimeout {v : V} {now : Nat} {t : TcpTable}
      (ht : t = tableTcpDeleteTimeout (s.sw v).tcpTable now) :
      Paso s (.tcpDeleteTimeout v now)
        { s with sw := Function.update s.sw v { s.sw v with tcpTable := t } }

theorem pipelineProcessUah_hello {n : Nodo} {now : Nat} {s : Switch} {r : Switch × List Efecto}
    (hh : esHello pkt = true) (h : pipelineProcessUah n now sinTablas s pkt = some r) :
    ∃ t, r.1 = { s with neighborTable := t } := by
  unfold pipelineProcessUah at h
  split at h
  · cases h
  · cases h
    exact ⟨_, rfl⟩

/-- **Inversion**: a step is one of the events. -/
theorem step_cases {s s' : Estado V} {e : Evento V} (h : red.step s e = some s') :
    red.Paso s e s' := by
  cases e with
  | emite h' v p buf =>
    rw [step] at h
    split at h
    · rename_i hcond
      cases h
      exact .emite hcond.1 hcond.2
    · cases h
  | entrega c now rand =>
    rw [step] at h
    split at h
    · rename_i hc
      split at h
      · rename_i h' hd
        cases h
        exact .recibe hc hd
      · rename_i v p hd
        split at h
        · obtain ⟨r, hr, rfl⟩ := Option.map_eq_some_iff.mp h
          exact .procesa hc hd hr
        · cases h
    · cases h
  | pierde c =>
    rw [step] at h
    split at h
    · rename_i hc
      cases h
      exact .pierde hc
    · cases h
  | hello v p buf now =>
    rw [step] at h
    split at h
    · rename_i hh
      obtain ⟨r, hr, rfl⟩ := Option.map_eq_some_iff.mp h
      obtain ⟨t, ht⟩ := pipelineProcessUah_hello hh hr
      rw [ht]
      exact .hello
    · cases h
  | macDeleteTimeout v now =>
    rw [step] at h
    obtain ⟨t, ht, rfl⟩ := Option.map_eq_some_iff.mp h
    exact .macDeleteTimeout ht
  | tcpDeleteTimeout v now =>
    cases h
    exact .tcpDeleteTimeout rfl

/-- The states of a network after any events that meet `ok`. -/
def Alcanza (ok : Estado V → Evento V → Prop) (s : Estado V) : Prop :=
  Run red.step ok (Estado.inicial V) s

/-! ## 3. Copies and links -/

omit [DecidableEq V] in
/-- **Where a new copy comes from**: an output effect, through a linked port. -/
theorem mem_copias (h : c' ∈ red.copias v nt rand c efs) :
    c'.id = c.id ∧ c'.traza = c.traza ++ [v] ∧ ∃ pkt outPort q,
      Efecto.outputPort pkt outPort ∈ efs ∧ red.link v q = some c'.dest ∧
      (q, c'.buf) ∈ dpActionsOutputPort (red.dp v) nt rand pkt outPort := by
  obtain ⟨⟨q, b⟩, hx, hc'⟩ := mem_filterMap.mp h
  obtain ⟨dest, hdest, rfl⟩ := Option.map_eq_some_iff.mp hc'
  obtain ⟨ef, hef, hq⟩ := mem_flatMap.mp hx
  cases ef with
  | outputPort pkt outPort => exact ⟨rfl, rfl, pkt, outPort, q, hef, hdest, hq⟩
  | packetDestroy => exact absurd hq not_mem_nil
  | sendPacketRecovery pkt opcion => exact absurd hq not_mem_nil

omit [DecidableEq V] in
theorem buf_of_output {outPort : Nat} {b : Bytes}
    (h : (q, b) ∈ dpActionsOutputPort (red.dp v) nt rand pkt outPort) : b = pkt.buffer := by
  unfold dpActionsOutputPort at h
  split at h
  · exact absurd h not_mem_nil
  split at h
  · exact (mem_dpPortsOutput h).2.1
  split at h
  · obtain ⟨port, _, h⟩ := mem_flatMap.mp h
    split at h
    · exact absurd h not_mem_nil
    split at h
    · exact absurd h not_mem_nil
    · exact (mem_dpPortsOutput h).2.1
  split at h
  · exact (mem_dpPortsOutputRandom h).2.1
  split at h
  · exact absurd h not_mem_nil
  · exact (mem_dpPortsOutput h).2.1

omit [DecidableEq V] in
theorem link_of_copia {w : V} {r : Nat} (h : c' ∈ red.copias v nt rand c efs)
    (hd : c'.dest = .switch w r) : ∃ q, red.link w r = some (.switch v q) := by
  obtain ⟨_, _, _, _, q, _, hl, _⟩ := red.mem_copias h
  rw [hd] at hl
  exact ⟨q, red.symm v q w r hl⟩

omit [DecidableEq V] in
theorem copias_of_no_output (h : ∀ p o, Efecto.outputPort p o ∉ efs) :
    red.copias v nt rand c efs = [] := by
  refine eq_nil_iff_forall_not_mem.mpr fun c' hc' => ?_
  obtain ⟨_, _, pkt, o, _, hef, _, _⟩ := red.mem_copias hc'
  exact h pkt o hef

omit [DecidableEq V] in
/-- **Output of a received frame to one live port** puts it on that port's link. -/
theorem copias_unicast {conf : SwPort} (hl : red.link v q = some x) (hne : p ≠ q)
    (hconf : (red.dp v).conf q = some conf) (hvivo : conf.state = ofppsLive) :
    red.copias v nt rand c [.outputPort (red.pkt p c.buf) q, .packetDestroy] =
      [⟨x, c.buf, c.id, c.traza ++ [v]⟩] := by
  have hphys := red.physical v q x hl
  have hlook : dpPortsLookup (red.dp v) q = some conf := by
    have hq := (red.port16_of_link hl).2
    unfold dpPortsLookup
    rw [if_neg (by unfold ofppLocal; omega), if_neg (by have := hphys.1; have := hphys.2; omega)]
    exact hconf
  have hout : dpActionsOutputPort (red.dp v) nt rand (red.pkt p c.buf) q = [(q, c.buf)] := by
    rw [dpActionsOutputPort_of_le (red.port16_of_link hl).2, red.pkt_inPort, if_neg hne,
      dpPortsOutput, hlook]
    exact if_neg (by rw [(SwPort.state_eq_live.mp hvivo).2]; exact Bool.false_ne_true)
  unfold copias
  rw [flatMap_cons, flatMap_cons, flatMap_nil]
  show List.filterMap _ (dpActionsOutputPort (red.dp v) nt rand (red.pkt p c.buf) q ++ []) = _
  rw [hout, append_nil, filterMap_cons, hl]
  rfl

/-! ## 4. The history -/

end Red

/-- What every event keeps of the history. -/
structure Estado.Historia {V : Type} (s : Estado V) : Prop where
  enviada : ∀ c ∈ s.vuelo, c ∈ s.enviadas
  llegada : ∀ c ∈ s.llegadas, c ∈ s.enviadas
  /-- Copies and floods have the number of an emission. -/
  id_lt : ∀ c ∈ s.enviadas, c.id < s.emitidas.length
  inundada : ∀ x ∈ s.inundadas, x.2 < s.emitidas.length

namespace Red

variable {V : Type} [DecidableEq V] {red : Red V} {s s' : Estado V}

theorem historia_step {e : Evento V} (h : s.Historia) (hs : red.step s e = some s') :
    s'.Historia := by
  have hquita : ∀ {c c' : Copia V}, c' ∈ s.vuelo.erase c → c' ∈ s.enviadas := fun hc' =>
    h.enviada _ (mem_of_mem_erase hc')
  cases red.step_cases hs with
  | emite hl hsrc =>
    refine ⟨fun c hc => ?_, fun c hc => mem_append_left _ (h.llegada c hc), fun c hc => ?_,
      fun x hx => ?_⟩
    · rcases mem_append.mp hc with hc | hc
      · exact mem_append_left _ (h.enviada c hc)
      · exact mem_append_right _ hc
    · show c.id < (_ ++ [_]).length
      rw [length_append, length_singleton]
      rcases mem_append.mp hc with hc | hc
      · exact Nat.lt_succ_of_lt (h.id_lt c hc)
      · rw [mem_singleton.mp hc]
        exact Nat.lt_succ_self _
    · show x.2 < (_ ++ [_]).length
      rw [length_append, length_singleton]
      exact Nat.lt_succ_of_lt (h.inundada x hx)
  | recibe hc hd =>
    refine ⟨fun c hc => hquita hc, fun c' hc' => ?_, h.id_lt, h.inundada⟩
    rcases mem_append.mp hc' with hc' | hc'
    · exact h.llegada c' hc'
    · rw [mem_singleton.mp hc']
      exact h.enviada _ hc
  | procesa hc hd hr =>
    refine ⟨fun c' hc' => ?_, fun c' hc' => ?_, fun c' hc' => ?_, fun x hx => ?_⟩
    · rcases mem_append.mp hc' with hc' | hc'
      · exact mem_append_left _ (hquita hc')
      · exact mem_append_right _ hc'
    · rcases mem_append.mp hc' with hc' | hc'
      · exact mem_append_left _ (h.llegada c' hc')
      · rw [mem_singleton.mp hc']
        exact mem_append_left _ (h.enviada _ hc)
    · rcases mem_append.mp hc' with hc' | hc'
      · exact h.id_lt c' hc'
      · rw [(red.mem_copias hc').1]
        exact h.id_lt _ (h.enviada _ hc)
    · rcases mem_append.mp hx with hx | hx
      · exact h.inundada x hx
      · obtain ⟨_, _, rfl⟩ := mem_map.mp hx
        exact h.id_lt _ (h.enviada _ hc)
  | pierde hc => exact ⟨fun c hc => hquita hc, h.llegada, h.id_lt, h.inundada⟩
  | hello => exact ⟨h.enviada, h.llegada, h.id_lt, h.inundada⟩
  | macDeleteTimeout ht => exact ⟨h.enviada, h.llegada, h.id_lt, h.inundada⟩
  | tcpDeleteTimeout ht => exact ⟨h.enviada, h.llegada, h.id_lt, h.inundada⟩

omit [DecidableEq V] in
theorem historia_inicial : (Estado.inicial V).Historia :=
  ⟨fun _ hc => absurd hc not_mem_nil, fun _ hc => absurd hc not_mem_nil,
    fun _ hc => absurd hc not_mem_nil, fun _ hc => absurd hc not_mem_nil⟩

theorem historia_alcanza {ok : Estado V → Evento V → Prop} (h : red.Alcanza ok s) : s.Historia :=
  Run.invariant (I := Estado.Historia) h historia_inicial fun _ _ _ hi _ hs => historia_step hi hs

end Red

/-! ## 5. Copies of a flood -/

namespace Red

variable {V : Type} {red : Red V} {v w : V} {nt : MacTable} {rand : Nat} {c c' : Copia V}

/-- The ports of `v` that have a link. -/
def enlazados (red : Red V) (v : V) : List Nat :=
  (List.range' 1 (red.dp v).ports.length).filter fun p => (red.link v p).isSome

/-- The degree of a switch: its links to switches and hosts. -/
def grado (red : Red V) (v : V) : Nat := (red.enlazados v).length

variable {p : Nat} {x : Extremo V}

theorem mem_enlazados (h : red.link v p = some x) : p ∈ red.enlazados v := by
  have hp := red.physical v p x h
  refine mem_filter.mpr ⟨?_, by rw [h]; rfl⟩
  rw [mem_range'_1]
  exact ⟨hp.1, by have := hp.2; omega⟩

theorem link_inj {q : Nat} (hp : red.link v p = some x) (hq : red.link v q = some x) : p = q := by
  cases x with
  | switch w r =>
    have h1 := red.symm v p w r hp
    have h2 := red.symm v q w r hq
    rw [h1] at h2
    cases h2
    rfl
  | host h => exact (red.attached h v p v q hp hq).2

theorem copias_flood (pkt : Packet) :
    red.copias v nt rand c [.outputPort pkt ofppRandom] =
      (dpPortsOutputRandom (red.dp v) nt rand pkt.buffer pkt.inPort false).filterMap fun x =>
        (red.link v x.1).map fun dest => ⟨dest, x.2, c.id, c.traza ++ [v]⟩ := by
  unfold copias
  rw [flatMap_cons, flatMap_nil, append_nil]
  rfl

theorem nodup_dest_filterMap (red : Red V) (v : V) {l : List (Nat × Bytes)}
    (hl : (l.map Prod.fst).Nodup) (i : Nat) (tr : List V) :
    ((l.filterMap fun x => (red.link v x.1).map fun dest =>
      (⟨dest, x.2, i, tr⟩ : Copia V)).map (·.dest)).Nodup := by
  induction l with
  | nil => exact nodup_nil
  | cons x l ih =>
    obtain ⟨hx, hl⟩ := nodup_cons.mp hl
    cases hlink : red.link v x.1 with
    | none =>
      rw [filterMap_cons, hlink]
      exact ih hl
    | some dest =>
      rw [filterMap_cons, hlink]
      refine nodup_cons.mpr ⟨fun hmem => ?_, ih hl⟩
      obtain ⟨c, hc, hdest⟩ := mem_map.mp hmem
      obtain ⟨y, hy, hyc⟩ := mem_filterMap.mp hc
      obtain ⟨dest', hlink', rfl⟩ := Option.map_eq_some_iff.mp hyc
      have hdd : dest' = dest := hdest
      rw [hdd] at hlink'
      exact hx (mem_map.mpr ⟨y, hy, link_inj hlink' hlink⟩)

/-- **One copy per link**: a flood puts at most one copy on the way to any end. -/
theorem countP_copias_flood (pkt : Packet) (p : Copia V → Bool) {x : Extremo V}
    (hp : ∀ c, p c = true → c.dest = x) :
    (red.copias v nt rand c [.outputPort pkt ofppRandom]).countP p ≤ 1 := by
  classical
  rw [copias_flood]
  have hnd := nodup_dest_filterMap red v
    (nodup_dpPortsOutputRandom (red.dp v) nt rand pkt.buffer pkt.inPort false) c.id
    (c.traza ++ [v])
  set l := (dpPortsOutputRandom (red.dp v) nt rand pkt.buffer pkt.inPort false).filterMap
    fun x => (red.link v x.1).map fun dest => (⟨dest, x.2, c.id, c.traza ++ [v]⟩ : Copia V)
  calc l.countP p ≤ l.countP fun c => decide (c.dest = x) :=
        countP_mono_left fun c _ hc => decide_eq_true (hp c hc)
    _ ≤ 1 := by
        have h1 := nodup_iff_count_le_one.mp hnd x
        rw [count_eq_countP, countP_map] at h1
        refine Nat.le_trans (Nat.le_of_eq (countP_congr fun c _ => ?_)) h1
        simp

/-- **A flood puts at most one copy fewer than the switch has links on them.** -/
theorem length_copias_flood (pkt : Packet) (hl : red.link v pkt.inPort = some x) :
    (red.copias v nt rand c [.outputPort pkt ofppRandom]).length ≤ red.grado v - 1 := by
  rw [copias_flood]
  set out := dpPortsOutputRandom (red.dp v) nt rand pkt.buffer pkt.inPort false with hout
  have hnd : (out.map Prod.fst).Nodup := nodup_dpPortsOutputRandom ..
  -- the ports through which a copy goes
  have hlen : (out.filterMap fun x => (red.link v x.1).map fun dest =>
      (⟨dest, x.2, c.id, c.traza ++ [v]⟩ : Copia V)).length =
      ((out.map Prod.fst).filter fun q => (red.link v q).isSome).length := by
    rw [length_filterMap_eq_countP, ← countP_eq_length_filter, countP_map]
    refine countP_congr fun y _ => ?_
    simp
  rw [hlen]
  have hsub : ((out.map Prod.fst).filter fun q => (red.link v q).isSome).Subperm
      ((red.enlazados v).erase pkt.inPort) := by
    refine subperm_of_subset (hnd.filter _) fun q hq => ?_
    obtain ⟨hq1, hq2⟩ := mem_filter.mp hq
    obtain ⟨⟨q', b⟩, hmem, rfl⟩ := mem_map.mp hq1
    obtain ⟨y, hy⟩ := Option.isSome_iff_exists.mp hq2
    have hne := (mem_dpPortsOutputRandom hmem).2.2.1
    exact (mem_erase_of_ne hne).mpr (mem_enlazados hy)
  refine Nat.le_trans hsub.length_le (Nat.le_of_eq ?_)
  exact length_erase_of_mem (mem_enlazados hl)

end Red

/-! ## 6. A triangle, as an example for the results about networks -/

/-- The address 00:00:00:00:00:`x`. -/
def macDe (x : UInt8) : EthAddr := ![0, 0, 0, 0, 0, x]

/-- A broadcast frame of host `x`, of a type no decoder knows. -/
def difusion (x : UInt8) : Bytes :=
  ethAddrBroadcast.bytes ++ (macDe x).bytes ++ [0x88, 0xb5]

/-- Three ports and the local port, which brings the third port into the rows. -/
def tresPuertos (id : Nat) : Datapath where
  id := id
  ports := [⟨0, false⟩, ⟨0, false⟩, ⟨0, false⟩]
  localPort := some ⟨0, false⟩
  matrizBc := List.replicate 16 [0, 1, 2, 3]
  fits := by decide
  gen := ⟨(List.replicate 16 [0, 1, 2, 3]).flatten, by decide⟩

/-- The switches of a triangle. -/
inductive Esquina where
  | a
  | b
  | c
  deriving DecidableEq, Repr

instance : Fintype Esquina := ⟨{.a, .b, .c}, fun v => by cases v <;> decide⟩

def Esquina.siguiente : Esquina → Esquina
  | a => b
  | b => c
  | c => a

def Esquina.anterior : Esquina → Esquina
  | a => c
  | b => a
  | c => b

def Esquina.numero : Esquina → Nat
  | a => 1
  | b => 2
  | c => 3

/-- The host of a switch. -/
def Esquina.mac (v : Esquina) : EthAddr := macDe (UInt8.ofNat v.numero)

/-- A host at port 1, the next switch at port 2, the one before at port 3. -/
def triangulo.link (v : Esquina) (p : Nat) : Option (Extremo Esquina) :=
  match p with
  | 1 => some (.host v.mac)
  | 2 => some (.switch v.siguiente 3)
  | 3 => some (.switch v.anterior 2)
  | _ => none

theorem triangulo.link_host {v : Esquina} {p : Nat} {h : EthAddr}
    (hl : triangulo.link v p = some (.host h)) : p = 1 ∧ v.mac = h := by
  unfold triangulo.link at hl
  split at hl
  · exact ⟨rfl, Extremo.host.inj (Option.some.inj hl)⟩
  · cases hl
  · cases hl
  · cases hl

def triangulo (cfg : Config) : Red Esquina where
  parse := decodifica
  cfg := cfg
  dp := fun v => tresPuertos v.numero
  link := triangulo.link
  physical := fun v p x h => by
    show 1 ≤ p ∧ p ≤ 3
    unfold triangulo.link at h
    split at h
    · decide
    · decide
    · decide
    · cases h
  symm := fun v p w q h => by
    unfold triangulo.link at h
    split at h
    · cases h
    · cases h
      cases v <;> rfl
    · cases h
      cases v <;> rfl
    · cases h
  attached := fun h v p w q hv hw => by
    obtain ⟨rfl, hvh⟩ := triangulo.link_host hv
    obtain ⟨rfl, hwh⟩ := triangulo.link_host hw
    have hinj : ∀ v w : Esquina, v.mac = w.mac → v = w := by decide
    exact ⟨hinj v w (hvh.trans hwh.symm), rfl⟩

end TcpPath
