/-
  Subject:   TCP-Path over any topology: the `port_in` entries of a connection form a tree towards
             the host that sends its SYNs.

  A SYN goes through the network as itself and as a PATH request, and is turned back before its
  destination; each form asks for the same 4-tuple. A switch that sends a request on has an entry
  for it, and makes it, if at all, for the first request that arrives.

  Results:
    * `tcpPath_request_tree`: at most one entry a switch, made for the first copy of the SYN and
      kept; every copy on another port is discarded; the `port_in` links end at the source.
    * `tcpPath_request_tree_opciones`: a SYN of 66 bytes, one copy of which is not discarded.
-/
import TcpPath.SwitchRuns
import TcpPath.Tree
import TcpPath.TcpFrame

namespace TcpPath

open Util List Function

variable {V : Type}

/-! ## 1. The network -/

/-- The configuration `TCP_PATH` 1, `recuperacion` 0. -/
def Red.Tcp (red : Red V) : Prop := red.cfg = ⟨1, false⟩

/-- No entry of a `tcp_table` is deleted, and the source of `k` sends no PATH frames (they are made
    by switches) and no SYN whose trailer the hop counter would overwrite. -/
def SinBorrar (red : Red V) (k : CmpTableTcp) (s : Estado V) : Evento V → Prop
  | .emite h _ _ buf =>
      h = k.macSrc → (red.parse buf).path = none ∧ (red.pkt 0 buf).synLibre = true
  | .tcpDeleteTimeout v now =>
      tableTcpDeleteTimeout (s.sw v).tcpTable now = (s.sw v).tcpTable
  | _ => True

instance (red : Red V) (k : CmpTableTcp) (s : Estado V) :
    (e : Evento V) → Decidable (SinBorrar red k s e)
  | .emite h _ _ buf => inferInstanceAs (Decidable
      (h = k.macSrc → (red.parse buf).path = none ∧ (red.pkt 0 buf).synLibre = true))
  | .tcpDeleteTimeout v now =>
      inferInstanceAs (Decidable (tableTcpDeleteTimeout (s.sw v).tcpTable now = (s.sw v).tcpTable))
  | .entrega .. | .pierde _ | .hello .. | .macDeleteTimeout .. => .isTrue trivial

/-- The `port_in` switch `v` has for `k`. -/
def Estado.puertoIn (s : Estado V) (k : CmpTableTcp) (v : V) : Option Nat :=
  tableTcpFoundPortIn (s.sw v).tcpTable k

/-- The port of `v` through which a copy brings a request for `k`. -/
def Red.peticionEn [DecidableEq V] (red : Red V) (k : CmpTableTcp) (v : V) (c : Copia V) :
    Option Nat :=
  match c.dest with
  | .switch w p =>
      if w = v ∧ entra (red.pkt p c.buf) = true ∧ (red.pkt p c.buf).peticion = some k then some p
      else none
  | .host _ => none

/-- The copy comes from a SYN of `k` that its source has sent. -/
def Red.DeSyn (red : Red V) (k : CmpTableTcp) (s : Estado V) (c : Copia V) : Prop :=
  ∃ e ∈ s.emitidas[c.id]?, e.1 = k.macSrc ∧ (red.pkt 0 e.2).peticion = some k

instance (red : Red V) (k : CmpTableTcp) (s : Estado V) (c : Copia V) :
    Decidable (red.DeSyn k s c) :=
  inferInstanceAs (Decidable (∃ e ∈ s.emitidas[c.id]?, _))

/-- The port of `v` through which a copy of a SYN of `k` comes in, as a SYN or as a PATH request. -/
def Red.copiaEn [DecidableEq V] (red : Red V) (k : CmpTableTcp) (s : Estado V) (v : V)
    (c : Copia V) : Option Nat :=
  match c.dest with
  | .switch w p =>
      if w = v ∧ entra (red.pkt p c.buf) = true ∧ red.DeSyn k s c ∧
        (red.pkt p c.buf).peticion ≠ none then some p
      else none
  | .host _ => none

/-- **The invariant of the connection `k`.** -/
structure TcpInv [DecidableEq V] (red : Red V) (k : CmpTableTcp) (s : Estado V) : Prop where
  nodup : ∀ v, ((s.sw v).tcpTable.map (·.key)).Nodup
  entero : ∀ c ∈ s.vuelo, ∀ p, (red.pkt p c.buf).Entero red.parse k
  /-- A copy comes from the host with its source address, or from a switch; that switch has an
      entry for `k` if the copy asks for it. -/
  origen : ∀ c ∈ s.vuelo, ∀ v p, c.dest = .switch v p →
    red.link v p = some (.host (red.src c.buf)) ∨
      ∃ y q, red.link v p = some (.switch y q) ∧
        ((red.pkt p c.buf).peticion = some k → s.puertoIn k y ≠ none)
  /-- The entry is for the first request that arrived. -/
  primero : ∀ v, s.puertoIn k v = s.llegadas.findSome? (red.peticionEn k v)
  arbol : Arbol red k.macSrc (s.puertoIn k)

section Inv

variable [DecidableEq V] {red : Red V} {k : CmpTableTcp} {s s' : Estado V}

theorem tcpInv_inicial (red : Red V) (k : CmpTableTcp) : TcpInv red k (Estado.inicial V) where
  nodup := fun _ => nodup_nil
  entero := fun _ hc => absurd hc not_mem_nil
  origen := fun _ hc => absurd hc not_mem_nil
  primero := fun _ => rfl
  arbol := .vacio fun _ => rfl

theorem TcpInv.mono (h : TcpInv red k s) (htab : ∀ v, (s'.sw v).tcpTable = (s.sw v).tcpTable)
    (hvuelo : ∀ c ∈ s'.vuelo, c ∈ s.vuelo)
    (hlleg : ∀ v, s'.llegadas.findSome? (red.peticionEn k v) =
      s.llegadas.findSome? (red.peticionEn k v)) : TcpInv red k s' := by
  have hp : ∀ v, s'.puertoIn k v = s.puertoIn k v := fun v => by
    unfold Estado.puertoIn
    rw [htab v]
  refine ⟨fun v => by rw [htab v]; exact h.nodup v, fun c hc => h.entero c (hvuelo c hc),
    fun c hc v p hd => ?_, fun v => by rw [hp, hlleg]; exact h.primero v, h.arbol.congr hp⟩
  have horigen := h.origen c (hvuelo c hc) v p hd
  simpa only [hp] using horigen

variable {v : V} {p : Nat} {c : Copia V} {now rand : Nat}

theorem TcpInv.emite (h : TcpInv red k s) {buf : Bytes} {x : EthAddr}
    (hl : red.link v p = some (.host x)) (hsrc : red.src buf = x)
    (hpath : x = k.macSrc → (red.parse buf).path = none ∧ (red.pkt 0 buf).synLibre = true)
    (em : List (EthAddr × Bytes)) (env : List (Copia V)) :
    TcpInv red k { s with
      vuelo := s.vuelo ++ [⟨.switch v p, buf, s.emitidas.length, []⟩]
      emitidas := em
      enviadas := env } := by
  refine ⟨h.nodup, fun c hc q => ?_, fun c hc u q hd => ?_, h.primero, h.arbol⟩
  · rcases mem_append.mp hc with hc | hc
    · exact h.entero c hc q
    · rw [mem_singleton] at hc
      subst hc
      intro hk
      obtain ⟨hnone, hlibre⟩ := hpath (hsrc.symm.trans hk)
      refine ⟨hlibre, fun t _ hp => ?_⟩
      have hp' : (red.parse buf).path = some t := hp
      rw [hnone] at hp'
      cases hp'
  · rcases mem_append.mp hc with hc | hc
    · exact h.origen c hc u q hd
    · rw [mem_singleton] at hc
      subst hc
      cases hd
      exact .inl (hsrc.symm ▸ hl)

theorem entradaTras_fst {pkt : Packet} (x : Option (Nat × Nat)) :
    (entradaTras pkt k x).map Prod.fst =
      if pkt.peticion = some k ∧ x.map Prod.fst = none then some (port16 pkt.inPort)
      else x.map Prod.fst := by
  simp only [Option.map_eq_none_iff]
  unfold entradaTras
  split
  · rfl
  · split
    · rw [Option.map_map]
      rfl
    · rfl

theorem tcpTable_update {x : Switch} (hx : x.tcpTable = (s.sw v).tcpTable) (u : V) :
    (Function.update s.sw v x u).tcpTable = (s.sw u).tcpTable := by
  by_cases huv : u = v
  · subst huv
    rw [update_self, hx]
  · rw [update_of_ne huv]

theorem TcpInv.port16_eq (h : TcpInv red k s) (hc : c ∈ s.vuelo) (hd : c.dest = .switch v p) :
    port16 p = p := by
  rcases h.origen c hc v p hd with hl | ⟨_, _, hl, _⟩
  · exact (red.port16_of_link hl).1
  · exact (red.port16_of_link hl).1

theorem TcpInv.aprende (h : TcpInv red k s) {sw : Switch} (hc : c ∈ s.vuelo)
    (hd : c.dest = .switch v p) (hent : entrada sw.tcpTable k = if entra (red.pkt p c.buf) then
      entradaTras (red.pkt p c.buf) k (entrada (s.sw v).tcpTable k)
      else entrada (s.sw v).tcpTable k) (hsw : s'.sw = Function.update s.sw v sw) :
    Aprende (s.puertoIn k) (s'.puertoIn k) v p
      (entra (red.pkt p c.buf) = true ∧ (red.pkt p c.buf).peticion = some k) := by
  have hself : s'.puertoIn k v = if (entra (red.pkt p c.buf) = true ∧
      (red.pkt p c.buf).peticion = some k) ∧ s.puertoIn k v = none then some p
      else s.puertoIn k v := by
    unfold Estado.puertoIn
    rw [hsw, update_self, foundPortIn_eq_entrada, hent, foundPortIn_eq_entrada]
    by_cases hin : entra (red.pkt p c.buf) = true
    · rw [if_pos hin, entradaTras_fst, red.pkt_inPort, h.port16_eq hc hd]
      simp only [hin, true_and]
    · rw [if_neg hin, if_neg fun hh => hin hh.1.1]
  refine ⟨fun u hu => ?_, ?_, fun he hnone => ?_⟩
  · unfold Estado.puertoIn
    rw [hsw, update_of_ne hu]
  · rw [hself]
    split
    · rename_i hnew
      exact .inr ⟨hnew.1, hnew.2, rfl⟩
    · exact .inl rfl
  · rw [hself] at hnone
    split at hnone
    · cases hnone
    · rename_i hno
      exact hno ⟨he, hnone⟩

/-- **The invariant over the handling of a copy**, and what it does to `port_in`. -/
theorem TcpInv.procesa (hcfg : red.Tcp) (hley : LeyDecodificador red.parse) (h : TcpInv red k s)
    {r : Switch × List Efecto} (hc : c ∈ s.vuelo) (hd : c.dest = .switch v p)
    (hr : pipelineProcessUah (red.nodo v) now sinTablas (s.sw v) (red.pkt p c.buf) = some r)
    (hsw : s'.sw = Function.update s.sw v r.1)
    (hvuelo : s'.vuelo = s.vuelo.erase c ++ red.copias v (s.sw v).neighborTable rand c r.2)
    (hlleg : s'.llegadas = s.llegadas ++ [c]) :
    TcpInv red k s' ∧ ∀ u q, s.puertoIn k u = some q → s'.puertoIn k u = some q := by
  have hcfg' : (red.nodo v).cfg = ⟨1, false⟩ := hcfg
  have hley' : LeyDecodificador (red.nodo v).parse := hley
  have hv : (red.pkt p c.buf).Valido (red.nodo v).parse := rfl
  obtain ⟨hent, hout⟩ := tcp_frame hcfg' hley' hv (h.entero c hc p) hr
  have hap := h.aprende hc hd hent hsw
  refine ⟨⟨fun u => ?_, fun c' hc' q => ?_, fun c' hc' u q hd' => ?_, fun u => ?_, ?_⟩,
    fun u q hq => hap.estable hq⟩
  · rw [hsw]
    by_cases hu : u = v
    · subst hu
      rw [update_self]
      exact tcpCambios_nodup (pipelineProcessUah_cambia hr).tcp (h.nodup u)
    · rw [update_of_ne hu]
      exact h.nodup u
  · rw [hvuelo] at hc'
    rcases mem_append.mp hc' with hc' | hc'
    · exact h.entero c' (mem_of_mem_erase hc') q
    · obtain ⟨_, _, pkt, o, q', hef, _, hq'⟩ := red.mem_copias hc'
      rw [red.buf_of_output hq']
      exact (hout pkt o hef).2.entero q
  · rw [hvuelo] at hc'
    rcases mem_append.mp hc' with hc' | hc'
    · refine (h.origen c' (mem_of_mem_erase hc') u q hd').imp id ?_
      exact fun ⟨y, q', hl, himp⟩ => ⟨y, q', hl, fun he => hap.ne_none (himp he)⟩
    · -- a new copy asks for `k` only if the one just handled did, and then `v` has the entry
      obtain ⟨_, _, pkt, o, q', hef, hlink, hq'⟩ := red.mem_copias hc'
      rw [hd'] at hlink
      refine .inr ⟨v, q', red.symm v q' u q hlink, fun hpet => ?_⟩
      rw [red.buf_of_output hq'] at hpet
      obtain ⟨hin, hsale⟩ := hout pkt o hef
      exact hap.tiene ⟨hin, hsale.peticion q hpet⟩
  · rw [hlleg, findSome?_append, ← h.primero u, findSome?_singleton]
    unfold Red.peticionEn
    rw [hd]
    dsimp only
    by_cases hu : u = v
    · subst hu
      rcases hap.propio with hsame | ⟨he, hnone, hnew⟩
      · cases hq : s.puertoIn k u with
        | none =>
          rw [hsame, hq, if_neg fun hh => hap.tiene hh.2 (hsame.trans hq)]
          rfl
        | some q =>
          rw [hsame, hq]
          rfl
      · rw [hnew, hnone, if_pos ⟨rfl, he⟩]
        rfl
    · rw [hap.otro u hu, if_neg fun hh => hu hh.1.symm, Option.or_none]
  · refine hap.arbol h.arbol fun he => ?_
    rcases h.origen c hc v p hd with hl | ⟨y, q, hl, himp⟩
    · refine .inl ?_
      rw [hl, peticion_macSrc he.2]
      rfl
    · exact .inr ⟨y, q, hl, himp he.2⟩

/-- **One event** keeps the invariant and every `port_in`. -/
theorem TcpInv.step {e : Evento V} (hcfg : red.Tcp) (hley : LeyDecodificador red.parse)
    (h : TcpInv red k s) (hok : SinBorrar red k s e) (hs : red.step s e = some s') :
    TcpInv red k s' ∧ ∀ u q, s.puertoIn k u = some q → s'.puertoIn k u = some q := by
  have hkeep : ∀ {s' : Estado V}, (∀ v, (s'.sw v).tcpTable = (s.sw v).tcpTable) →
      (∀ c ∈ s'.vuelo, c ∈ s.vuelo) →
      (∀ v, s'.llegadas.findSome? (red.peticionEn k v) =
        s.llegadas.findSome? (red.peticionEn k v)) → TcpInv red k s' ∧
        ∀ u q, s.puertoIn k u = some q → s'.puertoIn k u = some q := by
    intro s' htab hvuelo hlleg
    refine ⟨h.mono htab hvuelo hlleg, fun u q hq => ?_⟩
    unfold Estado.puertoIn
    rw [htab u]
    exact hq
  cases red.step_cases hs with
  | emite hl hsrc => exact ⟨h.emite hl hsrc hok _ _, fun _ _ hq => hq⟩
  | recibe hc hd =>
    refine hkeep (fun _ => rfl) (fun c hc' => mem_of_mem_erase hc') fun v => ?_
    rw [findSome?_append, findSome?_singleton, Red.peticionEn, hd]
    exact Option.or_none
  | procesa hc hd hr => exact h.procesa hcfg hley hc hd hr rfl rfl rfl
  | pierde hc => exact hkeep (fun _ => rfl) (fun c hc' => mem_of_mem_erase hc') fun _ => rfl
  | hello => exact hkeep (tcpTable_update (by rfl)) (fun _ hc => hc) fun _ => rfl
  | macDeleteTimeout ht => exact hkeep (tcpTable_update (by rfl)) (fun _ hc => hc) fun _ => rfl
  | tcpDeleteTimeout ht =>
    exact hkeep (tcpTable_update (ht.trans hok)) (fun _ hc => hc) fun _ => rfl

theorem tcpInv_alcanza (hcfg : red.Tcp) (hley : LeyDecodificador red.parse)
    (h : red.Alcanza (SinBorrar red k) s) : TcpInv red k s :=
  Run.invariant (I := TcpInv red k) h (tcpInv_inicial red k) fun _ _ _ hi hok hs =>
    (hi.step hcfg hley hok hs).1

theorem puertoIn_stable (hcfg : red.Tcp) (hley : LeyDecodificador red.parse) (hi : TcpInv red k s)
    (h : Run red.step (SinBorrar red k) s s') (hp : s.puertoIn k v = some p) :
    s'.puertoIn k v = some p := by
  have hboth : TcpInv red k s' ∧ s'.puertoIn k v = some p := by
    refine Run.invariant (I := fun t => TcpInv red k t ∧ t.puertoIn k v = some p) h ⟨hi, hp⟩ ?_
    intro t e u ⟨hit, hpt⟩ hok hs
    obtain ⟨h1, h2⟩ := hit.step hcfg hley hok hs
    exact ⟨h1, h2 v p hpt⟩
  exact hboth.2

/-! ## 2. The copies of a SYN -/

omit [DecidableEq V] in
theorem Red.pkt_valido (red : Red V) (q : Nat) (buf : Bytes) :
    (red.pkt q buf).Valido red.parse := rfl

/-- **What becomes of a SYN of `k`**: each copy of it asks for `k` or for nothing, and no other
    frame asks for `k`. -/
structure Linaje (red : Red V) (k : CmpTableTcp) (s : Estado V) : Prop where
  historia : s.Historia
  copia : ∀ c ∈ s.enviadas, red.DeSyn k s c → ∀ p, (red.pkt p c.buf).ethSrc = k.macSrc ∧
    ((red.pkt p c.buf).peticion = none ∨ (red.pkt p c.buf).peticion = some k)
  syn : ∀ c ∈ s.enviadas, ∀ p, (red.pkt p c.buf).peticion = some k → red.DeSyn k s c

omit [DecidableEq V] in
theorem linaje_inicial (red : Red V) (k : CmpTableTcp) : Linaje red k (Estado.inicial V) where
  historia := Red.historia_inicial
  copia := fun _ hc => absurd hc not_mem_nil
  syn := fun _ hc => absurd hc not_mem_nil

omit [DecidableEq V] in
theorem Linaje.mono (h : Linaje red k s) (hh : s'.Historia) (henv : s'.enviadas = s.enviadas)
    (hem : s'.emitidas = s.emitidas) : Linaje red k s' := by
  have hde : ∀ c, red.DeSyn k s' c ↔ red.DeSyn k s c := fun c => by
    unfold Red.DeSyn
    rw [hem]
  refine ⟨hh, fun c hc hd => ?_, fun c hc p hp => ?_⟩
  · rw [henv] at hc
    exact h.copia c hc ((hde c).mp hd)
  · rw [henv] at hc
    exact (hde c).mpr (h.syn c hc p hp)

omit [DecidableEq V] in
theorem Linaje.emite (h : Linaje red k s) (hh : s'.Historia)
    {buf : Bytes} {x : EthAddr} (hsrc : red.src buf = x)
    (henv : s'.enviadas = s.enviadas ++ [⟨.switch v p, buf, s.emitidas.length, []⟩])
    (hem : s'.emitidas = s.emitidas ++ [(x, buf)]) : Linaje red k s' := by
  have hvieja : ∀ c ∈ s.enviadas, (red.DeSyn k s' c ↔ red.DeSyn k s c) := fun c hc => by
    unfold Red.DeSyn
    rw [hem, getElem?_append_left (h.historia.id_lt c hc)]
  have hnueva : ∀ c : Copia V, c.id = s.emitidas.length →
      (red.DeSyn k s' c ↔ x = k.macSrc ∧ (red.pkt 0 buf).peticion = some k) := fun c hid => by
    unfold Red.DeSyn
    rw [hem, hid, getElem?_concat_length]
    simp
  have hpet : ∀ q, (red.pkt q buf).peticion = (red.pkt 0 buf).peticion := fun q =>
    peticion_create (red.pkt_valido 0 buf) q
  refine ⟨hh, fun c hc hd q => ?_, fun c hc q hq => ?_⟩
  · rw [henv] at hc
    rcases mem_append.mp hc with hc | hc
    · exact h.copia c hc ((hvieja c hc).mp hd) q
    · rw [mem_singleton] at hc
      subst hc
      have hpide : (red.pkt q buf).peticion = some k := (hpet q).trans ((hnueva _ rfl).mp hd).2
      exact ⟨(peticion_macSrc hpide).symm, .inr hpide⟩
  · rw [henv] at hc
    rcases mem_append.mp hc with hc | hc
    · exact (hvieja c hc).mpr (h.syn c hc q hq)
    · rw [mem_singleton] at hc
      subst hc
      have hpide : (red.pkt 0 buf).peticion = some k := (hpet q).symm.trans hq
      exact (hnueva _ rfl).mpr ⟨hsrc.symm.trans (peticion_macSrc hpide).symm, hpide⟩

theorem Linaje.procesa (hcfg : red.Tcp) (hley : LeyDecodificador red.parse) (h : Linaje red k s)
    (hi : TcpInv red k s) (hh : s'.Historia) {r : Switch × List Efecto} (hc : c ∈ s.vuelo)
    (hr : pipelineProcessUah (red.nodo v) now sinTablas (s.sw v) (red.pkt p c.buf) = some r)
    (henv : s'.enviadas = s.enviadas ++ red.copias v (s.sw v).neighborTable rand c r.2)
    (hem : s'.emitidas = s.emitidas) : Linaje red k s' := by
  have hde : ∀ {c₁ c₂ : Copia V}, c₁.id = c₂.id → (red.DeSyn k s' c₁ ↔ red.DeSyn k s c₂) := by
    intro c₁ c₂ hid
    unfold Red.DeSyn
    rw [hem, hid]
  have hcfg' : (red.nodo v).cfg = ⟨1, false⟩ := hcfg
  have hley' : LeyDecodificador (red.nodo v).parse := hley
  have hv : (red.pkt p c.buf).Valido (red.nodo v).parse := rfl
  have hout := (tcp_frame hcfg' hley' hv (hi.entero c hc p) hr).2
  have henviada := h.historia.enviada c hc
  refine ⟨hh, fun c' hc' hd q => ?_, fun c' hc' q hq => ?_⟩
  · rw [henv] at hc'
    rcases mem_append.mp hc' with hc' | hc'
    · exact h.copia c' hc' ((hde rfl).mp hd) q
    · -- what is sent on for a frame of the source has that source, and asks for the same or nothing
      obtain ⟨hid, _, pkt, o, q', hef, _, hq'⟩ := red.mem_copias hc'
      obtain ⟨hsrc, hpide⟩ := h.copia c henviada ((hde hid).mp hd) p
      have hsale := (hout pkt o hef).2
      rw [red.buf_of_output hq']
      refine ⟨(ethSrc_eq hley (red.pkt_valido q _)).trans (hsale.src.trans hsrc), ?_⟩
      rcases hsale.pide hsrc q with hnone | hmisma
      · exact .inl hnone
      · exact hpide.imp hmisma.trans hmisma.trans
  · rw [henv] at hc'
    rcases mem_append.mp hc' with hc' | hc'
    · exact (hde rfl).mpr (h.syn c' hc' q hq)
    · obtain ⟨hid, _, pkt, o, q', hef, _, hq'⟩ := red.mem_copias hc'
      rw [red.buf_of_output hq'] at hq
      exact (hde hid).mpr (h.syn c henviada p ((hout pkt o hef).2.peticion q hq))

theorem Linaje.step {e : Evento V} (hcfg : red.Tcp) (hley : LeyDecodificador red.parse)
    (h : Linaje red k s) (hi : TcpInv red k s) (hs : red.step s e = some s') :
    Linaje red k s' := by
  have hh := Red.historia_step h.historia hs
  cases red.step_cases hs with
  | emite _ hsrc => exact h.emite hh hsrc rfl rfl
  | recibe => exact h.mono hh rfl rfl
  | procesa hc _ hr => exact h.procesa hcfg hley hi hh hc hr rfl rfl
  | pierde => exact h.mono hh rfl rfl
  | hello => exact h.mono hh rfl rfl
  | macDeleteTimeout => exact h.mono hh rfl rfl
  | tcpDeleteTimeout => exact h.mono hh rfl rfl

theorem linaje_alcanza (hcfg : red.Tcp) (hley : LeyDecodificador red.parse)
    (h : red.Alcanza (SinBorrar red k) s) : Linaje red k s := by
  have hboth : TcpInv red k s ∧ Linaje red k s := by
    refine Run.invariant (I := fun t => TcpInv red k t ∧ Linaje red k t) h
      ⟨tcpInv_inicial red k, linaje_inicial red k⟩ ?_
    intro t e u ⟨hi, hl⟩ hok hs
    exact ⟨(hi.step hcfg hley hok hs).1, hl.step hcfg hley hi hs⟩
  exact hboth.2

omit [DecidableEq V] in
/-- The copies of a SYN of `k`, as a SYN or as a PATH request, are the requests for `k`. -/
theorem Linaje.peticion_iff (h : Linaje red k s) (hc : c ∈ s.enviadas) :
    red.DeSyn k s c ∧ (red.pkt p c.buf).peticion ≠ none ↔ (red.pkt p c.buf).peticion = some k := by
  constructor
  · rintro ⟨hd, hne⟩
    exact (h.copia c hc hd p).2.resolve_left hne
  · intro hp
    refine ⟨h.syn c hc p hp, ?_⟩
    rw [hp]
    exact Option.some_ne_none k

theorem Linaje.copiaEn_eq (h : Linaje red k s) (hc : c ∈ s.enviadas) :
    red.copiaEn k s v c = red.peticionEn k v c := by
  unfold Red.copiaEn Red.peticionEn
  split
  · simp only [h.peticion_iff hc]
  · rfl

theorem Linaje.findSome_copiaEn (h : Linaje red k s) :
    ∀ {l : List (Copia V)}, (∀ c ∈ l, c ∈ s.enviadas) →
      l.findSome? (red.copiaEn k s v) = l.findSome? (red.peticionEn k v)
  | [], _ => rfl
  | c :: l, hl => by
    rw [findSome?_cons, findSome?_cons, h.copiaEn_eq (hl c mem_cons_self),
      h.findSome_copiaEn fun c' hc' => hl c' (mem_cons_of_mem c hc')]

/-! ## 3. The tree -/

theorem TcpInv.descarta {q : Nat} (hcfg : red.Tcp) (hd : c.dest = .switch v p)
    (hpet : (red.pkt p c.buf).peticion = some k) (hq : s.puertoIn k v = some q) (hne : q ≠ p)
    (hs : red.step s (.entrega c now rand) = some s') :
    s'.vuelo = s.vuelo.erase c ∧ s'.enviadas = s.enviadas ∧
      (∀ u, (s'.sw u).tcpTable = (s.sw u).tcpTable) ∧
      (entra (red.pkt p c.buf) = true → s'.sw = s.sw) := by
  cases red.step_cases hs with
  | recibe _ hd' =>
    rw [hd] at hd'
    cases hd'
  | procesa _ hd' hr =>
    rw [hd] at hd'
    cases hd'
    have hcfg' : (red.nodo v).cfg = ⟨1, false⟩ := hcfg
    obtain ⟨hin, ht, hno⟩ := tcp_descarta hcfg' hpet hq hne hr
    rw [red.copias_of_no_output hno]
    refine ⟨append_nil _, append_nil _, tcpTable_update ht, fun he => ?_⟩
    rw [hin he]
    exact update_eq_self v s.sw

/-- **The TCP-Path request tree.** While no entry is deleted and no trailer is hit by the hop
counter, a switch has at most one entry for a connection; its `port_in` is that of the first copy
of the SYN and stays; every copy on another port is discarded; and the `port_in` links lead,
meeting no switch twice, to the source host. The copies are those numbered as a SYN of the
connection that its source sent, in whatever bytes they arrive. -/
theorem tcpPath_request_tree (hcfg : red.Tcp) (hley : LeyDecodificador red.parse)
    (h : red.Alcanza (SinBorrar red k) s) :
    (∀ v, (s.sw v).tcpTable.countP (fun e => e.key = k) ≤ 1) ∧
    (∀ v, s.puertoIn k v = s.llegadas.findSome? (red.copiaEn k s v)) ∧
    (∀ v p s', s.puertoIn k v = some p → Run red.step (SinBorrar red k) s s' →
      s'.puertoIn k v = some p) ∧
    (∀ c v p q now rand s', c.dest = .switch v p → red.DeSyn k s c →
      (red.pkt p c.buf).peticion ≠ none → s.puertoIn k v = some q → q ≠ p →
      red.step s (.entrega c now rand) = some s' →
      s'.vuelo = s.vuelo.erase c ∧ s'.enviadas = s.enviadas ∧
        (∀ u, (s'.sw u).tcpTable = (s.sw u).tcpTable) ∧
        (entra (red.pkt p c.buf) = true → s'.sw = s.sw)) ∧
    ∀ v, s.puertoIn k v ≠ none → ∃ l, Follow (red.punteros (s.puertoIn k)) v l ∧ l.Nodup ∧
      ∃ a p, l.getLast? = some a ∧ s.puertoIn k a = some p ∧
        red.link a p = some (.host k.macSrc) := by
  have hi := tcpInv_alcanza hcfg hley h
  have hlin := linaje_alcanza hcfg hley h
  refine ⟨fun v => ?_, fun v => ?_, fun v p s' hp hrun => puertoIn_stable hcfg hley hi hrun hp,
    fun c v p q now rand s' hd hsyn hpet hq hne hs => ?_, fun v hv => hi.arbol.sigue hv⟩
  · have hcount := nodup_iff_count_le_one.mp (hi.nodup v) k
    rw [count_eq_countP, countP_map] at hcount
    refine Nat.le_trans (Nat.le_of_eq (countP_congr fun e _ => ?_)) hcount
    simp
  · rw [hi.primero v, hlin.findSome_copiaEn hlin.historia.llegada]
  · have hc : c ∈ s.vuelo := by
      cases red.step_cases hs with
      | recibe hc _ => exact hc
      | procesa hc _ _ => exact hc
    have henviada := hlin.historia.enviada c hc
    exact TcpInv.descarta hcfg hd ((hlin.peticion_iff henviada).mp ⟨hsyn, hpet⟩) hq hne hs

end Inv

/-- A TCP segment of 54 bytes from host `x` to host `y`. -/
def tramaTcp (x y : UInt8) (puertos : Bytes) (flags : UInt8) : Bytes :=
  (macDe y).bytes ++ (macDe x).bytes ++ [8, 0, 0x45] ++ List.replicate 7 0 ++ [64, 6] ++
    List.replicate 10 0 ++ puertos ++ List.replicate 9 0 ++ [flags] ++ List.replicate 6 0

def synTri : Bytes := tramaTcp 1 2 [0x10, 0x20, 0, 80] 0x02

/-- The 4-tuple of the SYN. -/
def claveTri : CmpTableTcp := ⟨macDe 1, macDe 2, 0x2010, 80 * 256⟩

/-- The PATH request the first switch makes of the SYN, before and after the next hop. -/
def pathTri (saltos : UInt8) : Bytes :=
  ethAddrBroadcast.bytes ++ (macDe 1).bytes ++ [8, 0, 0x45] ++ List.replicate 7 0 ++ [64, 253] ++
    List.replicate 10 0 ++ [0x10, 0x20, 0, 80] ++ List.replicate 9 0 ++ [0x02] ++
    List.replicate 6 0 ++ [1] ++ (macDe 2).bytes ++ [0, 1, 0, 0, 0, 0, saltos]

def pideTri : List (Evento Esquina) :=
  [.emite (macDe 1) .a 1 synTri, .entrega ⟨.switch .a 1, synTri, 0, []⟩ 0 0,
    .entrega ⟨.switch .b 3, pathTri 1, 0, [.a]⟩ 1 0,
    .entrega ⟨.switch .c 2, pathTri 1, 0, [.a]⟩ 2 0,
    .entrega ⟨.switch .c 3, pathTri 2, 0, [.a, .b]⟩ 3 0]

theorem tcpPath_request_tree_triangulo :
    ∃ s, (triangulo ⟨1, false⟩).Alcanza (SinBorrar (triangulo ⟨1, false⟩) claveTri) s ∧
      s.puertoIn claveTri .c = some 2 ∧
      s.puertoIn claveTri .c =
        s.llegadas.findSome? ((triangulo ⟨1, false⟩).copiaEn claveTri s .c) ∧
      ∃ l, Follow ((triangulo ⟨1, false⟩).punteros (s.puertoIn claveTri)) .c l ∧ l.Nodup ∧
        ∃ w p, l.getLast? = some w ∧ s.puertoIn claveTri w = some p ∧
          (triangulo ⟨1, false⟩).link w p = some (.host claveTri.macSrc) := by
  have hcfg : (triangulo ⟨1, false⟩).Tcp := rfl
  refine Run.exists_exec₁ pideTri (by decide +kernel) fun s hrun hp => ?_
  have htree := tcpPath_request_tree hcfg decodifica_ley hrun
  exact ⟨htree.2.1 .c, htree.2.2.2.2 .c (by rw [hp]; exact Option.some_ne_none 2)⟩

def opciones : Bytes := [2, 4, 5, 0xb4, 1, 3, 3, 8, 1, 1, 4, 2]

/-- Its PATH request, with destination `m` in the trailer. -/
def pathOpciones (m : EthAddr) (saltos : UInt8) : Bytes :=
  (pathTri 1).take 54 ++ opciones ++ [1] ++ m.bytes ++ [0, 1, 0, 0, 0, 0, saltos]

/-- The copy that the second switch sends to the third: its hop counter stands also in the first
    byte of the destination. -/
def copiaDanada : Copia Esquina :=
  ⟨.switch .c 3, pathOpciones (fun j => if j.val = 0 then 2 else macDe 2 j) 2, 0, [.a, .b]⟩

def pideOpciones : List (Evento Esquina) :=
  [.emite (macDe 1) .a 1 (synTri ++ opciones),
    .entrega ⟨.switch .a 1, synTri ++ opciones, 0, []⟩ 0 0,
    .entrega ⟨.switch .b 3, pathOpciones (macDe 2) 1, 0, [.a]⟩ 1 0,
    .entrega ⟨.switch .c 2, pathOpciones (macDe 2) 1, 0, [.a]⟩ 2 0]

/-- **A copy of that SYN is not discarded**: the third switch has `port_in` 2 for the connection,
    takes the copy that arrives on port 3 for one of another connection, makes an entry for it and
    floods it. -/
theorem tcpPath_request_tree_opciones :
    ∃ s s', exec (triangulo ⟨1, false⟩).step (fun _ _ => True) pideOpciones
        (Estado.inicial Esquina) = some s ∧
      ((triangulo ⟨1, false⟩).pkt 1 (synTri ++ opciones)).peticion = some claveTri ∧
      copiaDanada ∈ s.vuelo ∧ (triangulo ⟨1, false⟩).DeSyn claveTri s copiaDanada ∧
      ((triangulo ⟨1, false⟩).pkt 3 copiaDanada.buf).peticion ≠ none ∧
      s.puertoIn claveTri .c = some 2 ∧
      (triangulo ⟨1, false⟩).step s (.entrega copiaDanada 3 0) = some s' ∧
      s'.enviadas.length = s.enviadas.length + 2 ∧ (s'.sw .c).tcpTable.length = 2 := by
  decide +kernel

end TcpPath
