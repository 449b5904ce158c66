/-
  Subject:   One frame at a switch with `TCP_PATH` 1 and without recovery: what it does to the
             entry of a flow, and what is sent on.

  Results:   `tcp_frame`: the entry of a flow after a frame, and what is sent on;
             `tcp_descarta`: a request through another port is discarded.
-/
import TcpPath.Decoder
import TcpPath.Pipeline

namespace TcpPath

open Util List

/-! ## 1. The entry of a flow -/

/-- `port_in` and `port_out` of the entry of `k`. -/
def entrada (t : TcpTable) (k : CmpTableTcp) : Option (Nat × Nat) :=
  (t.find? fun e => decide (e.key = k)).map fun e => (e.portIn, e.portOut)

section Entrada

variable (t : TcpTable) (key k : CmpTableTcp) (inPort time now : Nat)

theorem foundPortIn_eq_entrada : tableTcpFoundPortIn t k = (entrada t k).map Prod.fst := by
  unfold tableTcpFoundPortIn entrada
  rw [Option.map_map]
  rfl

theorem entrada_eq_none {t : TcpTable} {k : CmpTableTcp} :
    entrada t k = none ↔ tableTcpFoundPortIn t k = none := by
  rw [foundPortIn_eq_entrada, Option.map_eq_none_iff]

theorem entrada_add : entrada (tableTcpAdd t key inPort time now) k =
    if key = k then some (port16 inPort, 0) else entrada t k := by
  unfold entrada tableTcpAdd
  rw [find?_cons]
  by_cases h : key = k
  · have hk : decide ((TableTcpTime.nuevo key inPort time now).key = k) = true := decide_eq_true h
    rw [hk, if_pos h]
    rfl
  · have hk : decide ((TableTcpTime.nuevo key inPort time now).key = k) = false :=
      decide_eq_false h
    rw [hk, if_neg h]

@[simp] theorem entrada_updateTime :
    entrada (tableTcpUpdateTime t key time now) k = entrada t k := by
  unfold entrada tableTcpUpdateTime
  refine find?_modifyFirst (fun e : TableTcpTime => (e.portIn, e.portOut)) ?_ ?_ t <;>
    exact fun _ => rfl

@[simp] theorem entrada_foundPort : entrada (tableTcpFoundPort t key).2 k = entrada t k := by
  unfold entrada
  rw [find?_foundPort]

theorem entrada_updatePort : entrada (tableTcpUpdatePort t key inPort time now).2 k =
    if k = key.inverso then (entrada t k).map fun x => (x.1, port16 inPort) else entrada t k := by
  unfold entrada tableTcpUpdatePort
  dsimp only
  -- by induction up to the first entry of the opposite direction
  induction t with
  | nil =>
    rw [modifyFirst, find?_nil]
    split <;> rfl
  | cons e t ih =>
    unfold modifyFirst
    by_cases he : e.key = key.inverso
    · rw [if_pos (decide_eq_true he), find?_cons, find?_cons]
      by_cases hk : k = key.inverso
      · rw [if_pos hk, decide_eq_true (he.trans hk.symm)]
        rfl
      · have hek : decide (e.key = k) = false := decide_eq_false fun h => hk (h.symm.trans he)
        rw [if_neg hk, hek]
    · rw [if_neg (by rw [decide_eq_true_iff]; exact he), find?_cons, find?_cons]
      by_cases hek : e.key = k
      · have hk : k ≠ key.inverso := fun h => he (hek.trans h)
        rw [if_neg hk, decide_eq_true hek]
      · rw [decide_eq_false hek]
        exact ih

theorem updatePort_fst : (tableTcpUpdatePort t key inPort time now).1 =
    ((entrada t key.inverso).map Prod.fst).getD 0 := by
  rw [← foundPortIn_eq_entrada]
  rfl

theorem foundPort_directo (h : entrada t k.inverso = none) :
    (tableTcpFoundPort t k).1 = (entrada t k).map Prod.snd := by
  show t.findSome? (tcpHit k) = _
  unfold entrada at h ⊢
  rw [Option.map_map]
  induction t with
  | nil => rfl
  | cons e t ih =>
    rw [find?_cons] at h ⊢
    rw [findSome?_cons, tcpHit]
    by_cases hi : e.key = k.inverso
    · rw [decide_eq_true hi] at h
      cases h
    · rw [decide_eq_false hi] at h
      rw [if_neg hi]
      by_cases hk : e.key = k
      · rw [if_pos hk, decide_eq_true hk]
        rfl
      · rw [if_neg hk, decide_eq_false hk]
        exact ih h

theorem foundPort_inverso (h : entrada t k.inverso = none) :
    (tableTcpFoundPort t k.inverso).1 = (entrada t k).map Prod.fst := by
  show t.findSome? (tcpHit k.inverso) = _
  unfold entrada at h ⊢
  rw [Option.map_map]
  induction t with
  | nil => rfl
  | cons e t ih =>
    rw [find?_cons] at h ⊢
    rw [findSome?_cons, tcpHit]
    by_cases hi : e.key = k.inverso
    · rw [decide_eq_true hi] at h
      cases h
    · rw [decide_eq_false hi] at h
      rw [if_neg hi, CmpTableTcp.inverso_inverso]
      by_cases hk : e.key = k
      · rw [if_pos hk, decide_eq_true hk]
        rfl
      · rw [if_neg hk, decide_eq_false hk]
        exact ih h

end Entrada

/-! ## 2. Requests and answers -/

/-- The 4-tuple that a SYN or a PATH frame asks for. -/
def Packet.peticion (pkt : Packet) : Option CmpTableTcp :=
  match pkt.proto.tcp with
  | some t => if pkt.tcpFlags t = tcpSyn then some (pkt.key t) else none
  | none => pkt.proto.path.map (pkt.keyTo pkt.trailerMac)

/-- The 4-tuple of a SYN-ACK. -/
def Packet.respuesta (pkt : Packet) : Option CmpTableTcp :=
  match pkt.proto.tcp with
  | some t => if pkt.tcpFlags t = tcpSynAck then some (pkt.key t) else none
  | none => none

/-- What a frame makes of the entry of `k`. -/
def entradaTras (pkt : Packet) (k : CmpTableTcp) (x : Option (Nat × Nat)) : Option (Nat × Nat) :=
  if pkt.peticion = some k ∧ x = none then some (port16 pkt.inPort, 0)
  else if pkt.respuesta = some k.inverso then x.map fun y => (y.1, port16 pkt.inPort)
  else x

section Peticion

variable {pkt : Packet} {t : Nat} {k : CmpTableTcp}

theorem peticion_macSrc (h : pkt.peticion = some k) : k.macSrc = pkt.ethSrc := by
  unfold Packet.peticion at h
  split at h
  · split at h
    · cases h
      rfl
    · cases h
  · obtain ⟨_, _, rfl⟩ := Option.map_eq_some_iff.mp h
    rfl

theorem respuesta_macSrc (h : pkt.respuesta = some k) : k.macSrc = pkt.ethSrc := by
  unfold Packet.respuesta at h
  split at h
  · split at h
    · cases h
      rfl
    · cases h
  · cases h

theorem peticion_path (ht : pkt.proto.tcp = none) (hp : pkt.proto.path = some t) :
    pkt.peticion = some (pkt.keyTo pkt.trailerMac t) := by
  unfold Packet.peticion
  rw [ht, hp]
  rfl

theorem peticion_syn (ht : pkt.proto.tcp = some t) (hf : pkt.tcpFlags t = tcpSyn) :
    pkt.peticion = some (pkt.key t) := by
  unfold Packet.peticion
  rw [ht]
  exact if_pos hf

theorem respuesta_synAck (ht : pkt.proto.tcp = some t) (hf : pkt.tcpFlags t = tcpSynAck) :
    pkt.respuesta = some (pkt.key t) := by
  unfold Packet.respuesta
  rw [ht]
  exact if_pos hf

theorem respuesta_of_peticion (h : pkt.peticion = some k) : pkt.respuesta = none := by
  unfold Packet.peticion at h
  unfold Packet.respuesta
  split at h
  · rename_i t ht
    split at h
    · rename_i hf
      exact if_neg (by rw [hf]; decide)
    · cases h
  · rfl

variable {k' : CmpTableTcp}

theorem peticion_of_respuesta (h : pkt.respuesta = some k') : pkt.peticion = none := by
  cases hp : pkt.peticion with
  | none => rfl
  | some k'' =>
    rw [respuesta_of_peticion hp] at h
    cases h

theorem entradaTras_respuesta (h : pkt.respuesta = some k') (x : Option (Nat × Nat)) :
    entradaTras pkt k x =
      if k = k'.inverso then x.map fun y => (y.1, port16 pkt.inPort) else x := by
  have hiff : some k' = some k.inverso ↔ k = k'.inverso :=
    ⟨fun e => by rw [Option.some.inj e]; rfl, fun e => by rw [e]; rfl⟩
  unfold entradaTras
  rw [peticion_of_respuesta h, h, if_neg fun hh => Option.some_ne_none k hh.1.symm]
  exact if_congr hiff rfl rfl

theorem entradaTras_otra (h : pkt.peticion = some k') (hk : k' ≠ k) (x : Option (Nat × Nat)) :
    entradaTras pkt k x = x := by
  unfold entradaTras
  rw [h, respuesta_of_peticion h, if_neg fun hh => hk (Option.some.inj hh.1), if_neg (by simp)]

theorem entradaTras_none (h : pkt.peticion ≠ some k) : entradaTras pkt k none = none := by
  unfold entradaTras
  rw [if_neg fun hh => h hh.1]
  split <;> rfl

theorem entradaTras_nueva (h : pkt.peticion = some k) :
    entradaTras pkt k none = some (port16 pkt.inPort, 0) := if_pos ⟨h, rfl⟩

theorem entradaTras_vieja (h : pkt.peticion = some k) (x : Nat × Nat) :
    entradaTras pkt k (some x) = some x := by
  unfold entradaTras
  rw [if_neg (by simp), respuesta_of_peticion h, if_neg (by simp)]

end Peticion

/-! ## 3. What is sent on -/

/-- A SYN whose trailer, once it is a PATH frame, is not hit by the counter that
    `switch_track_tcp` writes into the header. -/
def Packet.synLibre (pkt : Packet) : Bool :=
  pkt.proto.tcp.all fun t =>
    pkt.tcpFlags t != tcpSyn || decide (ContadorLibre t (pkt.buffer.length + trailerLen))

theorem synLibre_iff {pkt : Packet} : pkt.synLibre = true ↔ ∀ t, pkt.proto.tcp = some t →
    pkt.tcpFlags t = tcpSyn → ContadorLibre t (pkt.buffer.length + trailerLen) := by
  unfold Packet.synLibre
  cases pkt.proto.tcp with
  | none => simp
  | some t =>
    simp only [Option.all_some, Bool.or_eq_true, bne_iff_ne, decide_eq_true_eq, Option.some.injEq]
    constructor
    · rintro h u rfl hf
      exact h.resolve_left fun hne => hne hf
    · intro h
      by_cases hf : pkt.tcpFlags t = tcpSyn
      · exact .inr (h t rfl hf)
      · exact .inl hf

/-- The PATH frames of the source of `k` carry a whole trailer, and neither they nor its SYNs are
    hit by the counter. -/
def Packet.Entero (parse : Parser) (k : CmpTableTcp) (pkt : Packet) : Prop :=
  pkt.ethSrc = k.macSrc → pkt.synLibre = true ∧
    ∀ h, pkt.proto.tcp = none → pkt.proto.path = some h →
      (∃ i, pkt.EsPath parse i h) ∧ ContadorLibre h pkt.buffer.length

/-- `pkt'` may be sent on for `pkt`: it has its source, asks for `k` only if `pkt` did, and is a
    SYN-ACK of `k` only if `pkt` was or asked for `k`. A frame of the source of `k` asks for nothing
    else than `pkt` did. -/
structure Sale (parse : Parser) (k : CmpTableTcp) (pkt pkt' : Packet) : Prop where
  src : macAt pkt'.buffer 6 = pkt.ethSrc
  peticion : ∀ q, (packetCreate parse q pkt'.buffer).peticion = some k → pkt.peticion = some k
  respuesta : ∀ q, (packetCreate parse q pkt'.buffer).respuesta = some k →
    pkt.respuesta = some k ∨ pkt.peticion = some k
  pide : pkt.ethSrc = k.macSrc → ∀ q, (packetCreate parse q pkt'.buffer).peticion = none ∨
    (packetCreate parse q pkt'.buffer).peticion = pkt.peticion
  entero : ∀ q, (packetCreate parse q pkt'.buffer).Entero parse k

section Sale

variable {parse : Parser} (hley : LeyDecodificador parse) {pkt pkt' : Packet} {i t : Nat}
  {k : CmpTableTcp}

theorem peticion_create (hv : pkt.Valido parse) (q : Nat) :
    (packetCreate parse q pkt.buffer).peticion = pkt.peticion := by
  unfold Packet.Valido at hv
  unfold Packet.peticion packetCreate Packet.keyTo Packet.key Packet.keyTo Packet.ethSrc
    Packet.ethDst Packet.tcpFlags Packet.tcpSrc Packet.tcpDst Packet.trailerMac
  rw [hv]

theorem respuesta_create (hv : pkt.Valido parse) (q : Nat) :
    (packetCreate parse q pkt.buffer).respuesta = pkt.respuesta := by
  unfold Packet.Valido at hv
  unfold Packet.respuesta packetCreate Packet.key Packet.keyTo Packet.ethSrc Packet.ethDst
    Packet.tcpFlags Packet.tcpSrc Packet.tcpDst
  rw [hv]

theorem synLibre_create (hv : pkt.Valido parse) (q : Nat) :
    (packetCreate parse q pkt.buffer).synLibre = pkt.synLibre := by
  unfold Packet.Valido at hv
  unfold Packet.synLibre packetCreate Packet.tcpFlags
  rw [hv]

theorem Packet.EsPath.create (h : pkt.EsPath parse i t) (q : Nat) :
    (packetCreate parse q pkt.buffer).EsPath parse i t := by
  have hv : (packetCreate parse q pkt.buffer).proto = pkt.proto := Eq.symm h.valido
  exact ⟨rfl, by rw [hv, h.ipv4], by rw [hv, h.tcp], by rw [hv, h.path], h.length, h.op⟩

include hley

theorem Sale.refl (hv : pkt.Valido parse) (he : pkt.Entero parse k) : Sale parse k pkt pkt := by
  have hv' : pkt.proto = parse pkt.buffer := hv
  have hsrc : macAt pkt.buffer 6 = pkt.ethSrc := (ethSrc_eq hley hv).symm
  refine ⟨hsrc, fun q hq => by rwa [peticion_create hv] at hq,
    fun q hq => .inl (by rwa [respuesta_create hv] at hq),
    fun _ q => .inr (peticion_create hv q), fun q hs => ?_⟩
  have hs' : pkt.ethSrc = k.macSrc := by
    rw [← hsrc, ← hs]
    exact (ethSrc_eq hley (show (packetCreate parse q pkt.buffer).Valido parse from rfl)).symm
  refine ⟨by rw [synLibre_create hv]; exact (he hs').1, fun h ht hp => ?_⟩
  obtain ⟨⟨i, hi⟩, hl⟩ := (he hs').2 h (hv' ▸ ht) (hv' ▸ hp)
  exact ⟨⟨i, hi.create q⟩, hl⟩

theorem Sale.of_src_ne (hsrc : macAt pkt'.buffer 6 = pkt.ethSrc) (hne : pkt.ethSrc ≠ k.macSrc) :
    Sale parse k pkt pkt' := by
  have hsrc' : ∀ q, (packetCreate parse q pkt'.buffer).ethSrc = pkt.ethSrc := by
    intro q
    rw [← hsrc]
    exact ethSrc_eq hley (show (packetCreate parse q pkt'.buffer).Valido parse from rfl)
  refine ⟨hsrc, fun q hq => ?_, fun q hq => ?_, fun h => absurd h hne, fun q hs => ?_⟩
  · exact absurd ((hsrc' q).symm.trans (peticion_macSrc hq).symm) hne
  · exact absurd ((hsrc' q).symm.trans (respuesta_macSrc hq).symm) hne
  · exact absurd ((hsrc' q).symm.trans hs) hne

theorem Sale.of_esPath (h : pkt'.EsPath parse i t) (hf : MismoFlujo pkt pkt' t)
    (hlibre : ContadorLibre t pkt'.buffer.length)
    (hpet : pkt.peticion = some (pkt.keyTo pkt'.trailerMac t)) : Sale parse k pkt pkt' := by
  have hkey : pkt'.keyTo pkt'.trailerMac t = pkt.keyTo pkt'.trailerMac t := by
    unfold Packet.keyTo
    rw [hf.ethSrc, hf.tcpSrc, hf.tcpDst]
  refine ⟨?_, fun q hq => ?_, fun q hq => ?_, fun _ q => .inr ?_,
    fun q _ => ⟨?_, fun h' ht hp => ?_⟩⟩
  · rw [← hf.ethSrc]
    exact (ethSrc_eq hley h.valido).symm
  · rw [peticion_create h.valido, peticion_path h.tcp h.path, hkey] at hq
    exact hpet.trans hq
  · rw [respuesta_create h.valido, Packet.respuesta, h.tcp] at hq
    cases hq
  · rw [peticion_create h.valido, peticion_path h.tcp h.path, hkey, hpet]
  · rw [synLibre_create h.valido, synLibre_iff, h.tcp]
    exact fun _ hu => by cases hu
  · have hc := h.create q
    have htt : some h' = some t := hp.symm.trans hc.path
    cases htt
    exact ⟨⟨i, hc⟩, hlibre⟩

theorem Sale.of_segmento (ht : (parse pkt'.buffer).tcp = some t)
    (hp : (parse pkt'.buffer).path = none)
    (hsrc : pkt'.ethSrc = pkt.ethSrc) (he : pkt'.proto.eth = 0)
    (hlibre : ContadorLibre t (pkt'.buffer.length + trailerLen))
    (hkey : pkt.peticion = some (pkt'.key t)) : Sale parse k pkt pkt' := by
  have hmac : macAt pkt'.buffer 6 = pkt.ethSrc := by
    rw [← hsrc, Packet.ethSrc, he]
  have hk : ∀ q, (packetCreate parse q pkt'.buffer).key t = pkt'.key t := by
    intro q
    unfold Packet.key Packet.keyTo Packet.ethSrc Packet.ethDst packetCreate
    dsimp only
    rw [hley.eth, he]
    rfl
  have ht' : ∀ q, (packetCreate parse q pkt'.buffer).proto.tcp = some t := fun _ => ht
  refine ⟨hmac, fun q hq => ?_, fun q hq => .inr ?_, fun _ q => ?_,
    fun q _ => ⟨?_, fun h _ hpath => ?_⟩⟩
  · unfold Packet.peticion at hq
    rw [ht' q] at hq
    dsimp only at hq
    split at hq
    · rw [hkey, ← hk q]
      exact hq
    · cases hq
  · unfold Packet.respuesta at hq
    rw [ht' q] at hq
    dsimp only at hq
    split at hq
    · rw [hkey, ← hk q]
      exact hq
    · cases hq
  · unfold Packet.peticion
    rw [ht' q]
    dsimp only
    split
    · right
      rw [hk q]
      exact hkey.symm
    · exact .inl rfl
  · rw [synLibre_iff, ht' q]
    rintro u hu _
    cases hu
    exact hlibre
  · have hpath' : (parse pkt'.buffer).path = some h := hpath
    rw [hp] at hpath'
    cases hpath'

end Sale

/-! ## 4. The parts of `pipeline_tcp_path` -/

section Paso

variable {n : Nodo} {now : Nat} {s : Switch} {pkt : Packet} {k : CmpTableTcp}

theorem tcpEnvia_spec {puertoMac : Option Nat} {r : Switch × List Efecto × Nat}
    (hrec : n.cfg.recuperacion = false) (h : tcpEnvia n now s pkt puertoMac = some r) :
    r.2.2 = 1 ∧ (∀ k, entrada r.1.tcpTable k = entrada s.tcpTable k) ∧
      ∀ p o, Efecto.outputPort p o ∈ r.2.1 → p = pkt := by
  have hout : ∀ q p o, Efecto.outputPort p o ∈ [Efecto.outputPort pkt q, .packetDestroy] →
      p = pkt := by
    intro q p o ho
    simp only [mem_cons, not_mem_nil, or_false, reduceCtorEq] at ho
    cases ho
    rfl
  unfold tcpEnvia at h
  dsimp only at h
  split at h
  · cases h
    exact ⟨rfl, fun _ => rfl, hout _⟩
  split at h
  · cases h
  · cases h
    refine ⟨rfl, fun k => ?_, hout _⟩
    split
    · exact entrada_updateTime ..
    · rfl
  · rw [hrec, if_neg Bool.false_ne_true] at h
    cases h
    exact ⟨rfl, fun _ => rfl, fun p o ho => absurd ho not_mem_nil⟩

theorem tcpEnvia_unicast {q : Nat} (hf : pkt.isFlooded = false) (hq : 0 < q)
    (hvivo : puertoVivo n.dp q = some true) :
    ∃ s', tcpEnvia n now s pkt (some q) = some (s', [.outputPort pkt q, .packetDestroy], 1) := by
  unfold tcpEnvia
  dsimp only
  rw [if_neg (by rw [hf]; exact Bool.false_ne_true), Option.getD_some, if_pos hq, hvivo]
  exact ⟨_, rfl⟩

theorem tcpEnvia_sin_puerto (hrec : n.cfg.recuperacion = false) (hf : pkt.isFlooded = false) :
    ∃ s', tcpEnvia n now s pkt (some 0) = some (s', [], 1) := by
  unfold tcpEnvia
  dsimp only
  rw [if_neg (by rw [hf]; exact Bool.false_ne_true), Option.getD_some, if_neg (Nat.lt_irrefl 0),
    hrec]
  exact ⟨_, rfl⟩

theorem entrarTcp_uno (hcfg : n.cfg = ⟨1, false⟩) (t : Nat) : entrarTcp n pkt t = some true := by
  unfold entrarTcp
  rw [hcfg]
  rfl

theorem entradaTras_nada (hp : pkt.peticion = none) (hr : pkt.respuesta = none)
    (x : Option (Nat × Nat)) : entradaTras pkt k x = x := by
  unfold entradaTras
  rw [hp, hr, if_neg (by simp), if_neg (by simp)]

/-- What the first half of `pipeline_tcp_path` leaves, for the flow `k`. -/
def Sigue (parse : Parser) (k : CmpTableTcp) (s : Switch) (pkt : Packet) : PasoTcp → Prop
  | .arp => False
  | .descarta s' => s' = s ∧ entradaTras pkt k (entrada s.tcpTable k) = entrada s.tcpTable k
  | .sigue s' pkt' _ =>
      entrada s'.tcpTable k = entradaTras pkt k (entrada s.tcpTable k) ∧ Sale parse k pkt pkt'

variable {key : CmpTableTcp} {t : Nat} {q : PasoTcp} {i : Nat}

theorem entradaTras_hay {t : TcpTable} (hpet : pkt.peticion = some key)
    (h : tableTcpFoundPortIn t key ≠ none) : entradaTras pkt k (entrada t k) = entrada t k := by
  by_cases hk : key = k
  · subst hk
    obtain ⟨x, hx⟩ : ∃ x, entrada t key = some x := by
      rw [← Option.ne_none_iff_exists', ne_eq, entrada_eq_none]
      exact h
    rw [hx, entradaTras_vieja hpet]
  · exact entradaTras_otra hpet hk _

theorem registraSyn_entrada {t t' : TcpTable} (hpet : pkt.peticion = some key)
    (h : registraSyn now t key pkt.inPort = some t') :
    entrada t' k = entradaTras pkt k (entrada t k) := by
  unfold registraSyn at h
  split at h
  · rename_i hnone
    cases h
    rw [entrada_add]
    by_cases hk : key = k
    · subst hk
      rw [if_pos rfl, entrada_eq_none.mpr hnone, entradaTras_nueva hpet]
    · rw [if_neg hk, entradaTras_otra hpet hk]
  · rename_i p hp
    split at h
    · cases h
      rw [entrada_updateTime, entradaTras_hay hpet (by rw [hp]; exact Option.some_ne_none p)]
    · cases h

theorem registraSyn_none {t : TcpTable} {inPort : Nat} (h : registraSyn now t key inPort = none) :
    ∃ p, tableTcpFoundPortIn t key = some p ∧ p ≠ inPort := by
  unfold registraSyn at h
  split at h
  · cases h
  · rename_i p hp
    split at h
    · cases h
    · rename_i hne
      exact ⟨p, hp, hne⟩

/-- **A TCP segment.** -/
theorem pasoSegmento_sigue (hcfg : n.cfg = ⟨1, false⟩) (hley : LeyDecodificador n.parse)
    (hv : pkt.Valido n.parse) (he : pkt.Entero n.parse k) (ht : pkt.proto.tcp = some t)
    (h : pasoSegmento n now s pkt t = some q) : Sigue n.parse k s pkt q := by
  have hself : Sale n.parse k pkt pkt := .refl hley hv he
  unfold pasoSegmento at h
  rw [entrarTcp_uno hcfg] at h
  dsimp only at h
  split at h
  · rename_i hf
    cases h
    refine ⟨?_, hself⟩
    rw [entrada_updatePort, entradaTras_respuesta (respuesta_synAck ht hf)]
  split at h
  · rename_i hf
    have hpet := peticion_syn ht hf
    split at h
    · rename_i hreg
      cases h
      obtain ⟨p, hp, _⟩ := registraSyn_none hreg
      exact ⟨rfl, entradaTras_hay hpet (by rw [hp]; exact Option.some_ne_none p)⟩
    · rename_i tabla hreg
      have hent := registraSyn_entrada (k := k) hpet hreg
      split at h
      · obtain ⟨⟨pkt', sec'⟩, henc, rfl⟩ := Option.map_eq_some_iff.mp h
        refine ⟨hent, ?_⟩
        rcases encapsula_spec hley hv ht henc with rfl | ⟨i, hpath, hflujo, hmac, _, hsyn, _, hlen⟩
        · exact hself
        · by_cases hsrc : pkt.ethSrc = k.macSrc
          · have hlibre := synLibre_iff.mp (he hsrc).1 t ht hsyn
            refine .of_esPath hley hpath hflujo (by rw [hlen]; exact hlibre) ?_
            rw [hmac]
            exact hpet
          · refine .of_src_ne hley ?_ hsrc
            rw [← hflujo.ethSrc]
            exact (ethSrc_eq hley hpath.valido).symm
      · cases h
        exact ⟨hent, hself⟩
  · rename_i hf1 hf2
    cases h
    refine ⟨?_, hself⟩
    have hpet : pkt.peticion = none := by
      unfold Packet.peticion
      rw [ht]
      exact if_neg hf2
    have hres : pkt.respuesta = none := by
      unfold Packet.respuesta
      rw [ht]
      exact if_neg hf1
    rw [entrada_foundPort, entradaTras_nada hpet hres]

/-- **`select_packet_tcp_path`** looks up the tuple of the trailer again. -/
theorem selectPacketTcpPath_sigue {tabla : TcpTable} {res : Option (Packet × TcpTable)}
    (hley : LeyDecodificador n.parse) (hpath : pkt.EsPath n.parse i t)
    (hlibre : ContadorLibre t pkt.buffer.length)
    (h : selectPacketTcpPath n now tabla pkt = some res) :
    match res with
    | none => tableTcpFoundPortIn tabla (pkt.keyTo pkt.trailerMac t) ≠ none
    | some (pkt', tabla') =>
        entrada tabla' k = entradaTras pkt k (entrada tabla k) ∧ Sale n.parse k pkt pkt' := by
  have hpet := peticion_path hpath.tcp hpath.path
  unfold selectPacketTcpPath at h
  rw [hpath.op] at h
  split at h
  · cases h
  rename_i pkt' hdes
  obtain ⟨hflujo, hdst, htcp, _, htcp', hpath', hlen⟩ := desencapsula_spec hley hpath hdes
  have hkey : pkt'.key t = pkt.keyTo pkt.trailerMac t := by
    unfold Packet.key Packet.keyTo
    rw [hflujo.ethSrc, hflujo.tcpSrc, hflujo.tcpDst, hdst]
  have heth : pkt'.proto.eth = 0 := by
    unfold desencapsulatePathRequestTcp at hdes
    split at hdes
    · cases hdes
      exact hley.eth _
    · cases hdes
  have hsale : Sale n.parse k pkt pkt' :=
    .of_segmento hley htcp' hpath' hflujo.ethSrc heth (by rw [hlen]; exact hlibre)
      (by rw [hkey]; exact hpet)
  rw [htcp] at h
  dsimp only at h
  rw [hkey, hflujo.inPort] at h
  split at h
  · rename_i hnone
    cases h
    refine ⟨registraSyn_entrada hpet (?_ : registraSyn now _ _ pkt.inPort = _), hsale⟩
    rw [registraSyn, hnone]
  · rename_i p hp
    have hne : tableTcpFoundPortIn tabla (pkt.keyTo pkt.trailerMac t) ≠ none := by
      rw [hp]
      exact Option.some_ne_none p
    split at h
    · cases h
      exact ⟨(entradaTras_hay hpet hne).symm, hsale⟩
    · cases h
      exact hne

/-- **A PATH frame of the source of `k`.** -/
theorem pasoPath_sigue (hley : LeyDecodificador n.parse) (hpath : pkt.EsPath n.parse i t)
    (hlibre : ContadorLibre t pkt.buffer.length) (h : pasoPath n now s pkt t = some q) :
    Sigue n.parse k s pkt q := by
  have hpet := peticion_path hpath.tcp hpath.path
  set key := pkt.keyTo pkt.trailerMac t with hkey
  unfold pasoPath at h
  dsimp only at h
  rw [← hkey] at h
  split at h
  · rename_i hport
    split at h
    · cases h
      obtain ⟨htrack, hflujo, hmac⟩ := switchTrack_spec hley hpath hlibre
      refine ⟨?_, .of_esPath hley htrack hflujo (by rw [length_switchTrack]; exact hlibre)
        (by rw [hmac]; exact hpet)⟩
      by_cases hnone : tableTcpFoundPortIn s.tcpTable key = none
      · refine registraSyn_entrada hpet (?_ : registraSyn now _ key pkt.inPort = _)
        rw [registraSyn, hnone, if_pos rfl]
      · rw [if_neg hnone, entrada_updateTime, entradaTras_hay hpet hnone]
    · split at h
      · cases h
      · rename_i hsel
        cases h
        exact ⟨rfl,
          entradaTras_hay hpet (selectPacketTcpPath_sigue (k := k) hley hpath hlibre hsel)⟩
      · rename_i pkt' tabla hsel
        cases h
        exact selectPacketTcpPath_sigue (k := k) hley hpath hlibre hsel
  · rename_i hport
    cases h
    exact ⟨rfl, entradaTras_hay hpet fun hnone => hport (.inl hnone)⟩

/-- **A PATH frame of another source**, whatever its trailer holds. -/
theorem pasoPath_otro (hley : LeyDecodificador n.parse) (hv : pkt.Valido n.parse)
    (ht : pkt.proto.tcp = none) (hp : pkt.proto.path = some t) (hne : pkt.ethSrc ≠ k.macSrc)
    (h : pasoPath n now s pkt t = some q) : Sigue n.parse k s pkt q := by
  have hpet := peticion_path ht hp
  have hkey : ∀ m u, pkt.keyTo m u ≠ k := fun m u e => hne (congrArg CmpTableTcp.macSrc e)
  have hsame : entradaTras pkt k (entrada s.tcpTable k) = entrada s.tcpTable k :=
    entradaTras_otra hpet (hkey _ _) _
  unfold pasoPath at h
  dsimp only at h
  split at h
  · split at h
    · cases h
      refine ⟨?_, .of_src_ne hley ?_ hne⟩
      · rw [hsame]
        split
        · rw [entrada_add, if_neg (hkey _ _)]
        · rw [entrada_updateTime]
      · rw [← ethSrc_switchTrack hley hv.leido hp]
        exact (ethSrc_eq hley (show (switchTrackTcp n.parse pkt t).Valido n.parse from rfl)).symm
    · split at h
      · cases h
      · cases h
        exact ⟨rfl, hsame⟩
      · rename_i pkt' tabla hsel
        cases h
        unfold selectPacketTcpPath at hsel
        split at hsel
        · cases hsel
        rename_i pkt'' hdes
        obtain ⟨hsrc, hmac⟩ := ethSrc_desencapsula hley hv.leido hp hdes
        split at hsel
        · cases hsel
        rename_i u hu
        have hkey' : pkt''.key u ≠ k := fun e =>
          hne (hsrc.symm.trans (congrArg CmpTableTcp.macSrc e))
        dsimp only at hsel
        split at hsel
        · cases hsel
          refine ⟨?_, .of_src_ne hley hmac hne⟩
          rw [hsame, entrada_add, if_neg hkey']
        · split at hsel
          · cases hsel
            exact ⟨hsame.symm, .of_src_ne hley hmac hne⟩
          · cases hsel
  · cases h
    exact ⟨rfl, hsame⟩

end Paso

/-! ## 5. The whole frame -/

section Frame

variable {n : Nodo} {now : Nat} {s : Switch} {pkt : Packet} {k : CmpTableTcp}
  {r : Switch × List Efecto}

theorem pipelineArpPath_tcp (hrec : n.cfg.recuperacion = false)
    (h : pipelineArpPath n now s pkt = some r) :
    r.1.tcpTable = s.tcpTable ∧ ∀ p o, Efecto.outputPort p o ∈ r.2 → p = pkt := by
  have hone : ∀ q p o, Efecto.outputPort p o ∈ [Efecto.outputPort pkt q] → p = pkt := by
    intro q p o ho
    cases mem_singleton.mp ho
    rfl
  unfold pipelineArpPath at h
  dsimp only at h
  split at h
  · split at h
    · cases h
      exact ⟨rfl, hone _⟩
    · cases h
      refine ⟨rfl, fun p o ho => ?_⟩
      cases mem_singleton.mp ho
  · unfold arpPathSendUnicast at h
    split at h
    · rw [if_pos hrec] at h
      cases h
      refine ⟨?_, hone _⟩
      show Switch.tcpTable (if ensenaUnicast pkt = true then _ else _) = _
      split <;> rfl
    · rw [if_pos hrec] at h
      cases h
      refine ⟨?_, fun p o ho => absurd ho not_mem_nil⟩
      show Switch.tcpTable (if ensenaUnicast pkt = true then _ else _) = _
      split <;> rfl

theorem pasoTcp_sigue {q : PasoTcp} (hcfg : n.cfg = ⟨1, false⟩)
    (hley : LeyDecodificador n.parse) (hv : pkt.Valido n.parse) (he : pkt.Entero n.parse k)
    (hhay : pkt.proto.tcp.isSome = true ∨ pkt.proto.path.isSome = true)
    (h : pasoTcp n now s pkt = some q) : Sigue n.parse k s pkt q := by
  unfold pasoTcp at h
  cases ht : pkt.proto.tcp with
  | some t =>
    rw [ht] at h
    exact pasoSegmento_sigue hcfg hley hv he ht h
  | none =>
    cases hp : pkt.proto.path with
    | none =>
      rw [ht, hp] at hhay
      exact absurd hhay (by decide)
    | some t =>
      rw [ht, hp] at h
      by_cases hsrc : pkt.ethSrc = k.macSrc
      · obtain ⟨⟨i, hpath⟩, hlibre⟩ := (he hsrc).2 t ht hp
        exact pasoPath_sigue hley hpath hlibre h
      · exact pasoPath_otro hley hv ht hp hsrc h

/-- **A TCP segment or PATH frame.** -/
theorem pipelineTcpPath_sigue {r : Switch × List Efecto × Nat} (hcfg : n.cfg = ⟨1, false⟩)
    (hley : LeyDecodificador n.parse) (hv : pkt.Valido n.parse) (he : pkt.Entero n.parse k)
    (hhay : pkt.proto.tcp.isSome = true ∨ pkt.proto.path.isSome = true)
    (h : pipelineTcpPath n now s pkt = some r) :
    r.2.2 ≠ 2 ∧ entrada r.1.tcpTable k = entradaTras pkt k (entrada s.tcpTable k) ∧
      ∀ p o, Efecto.outputPort p o ∈ r.2.1 → Sale n.parse k pkt p := by
  have hrec : n.cfg.recuperacion = false := by rw [hcfg]
  obtain ⟨q, hq, hr⟩ := Option.bind_eq_some_iff.mp h
  have hsig := pasoTcp_sigue hcfg hley hv he hhay hq
  cases q with
  | arp => exact hsig.elim
  | descarta s' =>
    cases hr
    obtain ⟨rfl, hent⟩ := hsig
    refine ⟨Nat.zero_ne_add_one 1, hent.symm, fun p o ho => ?_⟩
    cases mem_singleton.mp ho
  | sigue s' pkt' puertoMac =>
    obtain ⟨h1, h2, h3⟩ := tcpEnvia_spec hrec hr
    refine ⟨by rw [h1]; decide, (h2 k).trans hsig.1, fun p o ho => ?_⟩
    rw [h3 p o ho]
    exact hsig.2

/-- **One frame**, for the flow `k`: the entry afterwards, and what is sent on. -/
theorem tcp_frame (hcfg : n.cfg = ⟨1, false⟩) (hley : LeyDecodificador n.parse)
    (hv : pkt.Valido n.parse) (he : pkt.Entero n.parse k)
    (h : pipelineProcessUah n now sinTablas s pkt = some r) :
    (entrada r.1.tcpTable k =
        if entra pkt then entradaTras pkt k (entrada s.tcpTable k) else entrada s.tcpTable k) ∧
      ∀ p o, Efecto.outputPort p o ∈ r.2 → entra pkt = true ∧ Sale n.parse k pkt p := by
  have hrec : n.cfg.recuperacion = false := by rw [hcfg]
  rcases pipelineProcessUah_cases n now hrec h with ⟨hin, hd⟩ | ⟨hin, _, ht, hout⟩
  · rw [hin, if_pos rfl]
    unfold despacha at hd
    rw [if_neg (ethType_of_entra hin), if_neg (by rw [hcfg]; decide)] at hd
    split at hd
    · rename_i hhay
      rw [hrec, if_neg Bool.false_ne_true] at hd
      dsimp only at hd
      split at hd
      · cases hd
      rename_i s' efs ret hpipe
      obtain ⟨h2, hent, hsale⟩ := pipelineTcpPath_sigue hcfg hley hv he hhay hpipe
      rw [if_neg h2] at hd
      cases hd
      exact ⟨hent, fun p o ho => ⟨rfl, hsale p o ho⟩⟩
    · rename_i hno
      have htcp : pkt.proto.tcp = none := by
        cases ht : pkt.proto.tcp with
        | none => rfl
        | some t => exact absurd (.inl (by rw [ht]; rfl)) hno
      have hpath : pkt.proto.path = none := by
        cases ht : pkt.proto.path with
        | none => rfl
        | some t => exact absurd (.inr (by rw [ht]; rfl)) hno
      obtain ⟨htab, hout⟩ := pipelineArpPath_tcp hrec hd
      have hpet : pkt.peticion = none := by
        unfold Packet.peticion
        rw [htcp, hpath]
        rfl
      have hres : pkt.respuesta = none := by
        unfold Packet.respuesta
        rw [htcp]
      rw [htab, entradaTras_nada hpet hres]
      refine ⟨rfl, fun p o ho => ⟨rfl, ?_⟩⟩
      rw [hout p o ho]
      exact .refl hley hv he
  · rw [ht, hin, if_neg Bool.false_ne_true]
    exact ⟨rfl, fun p o ho => absurd ho (hout p o)⟩

variable {s' : Switch} {efs : List Efecto} {p : Nat}

theorem despacha_tcp {ret : Nat} (hcfg : n.cfg = ⟨1, false⟩) (hin : entra pkt = true)
    (hhay : pkt.proto.tcp.isSome = true ∨ pkt.proto.path.isSome = true)
    (hpipe : pipelineTcpPath n now s pkt = some (s', efs, ret)) (hret : ret ≠ 2) :
    despacha n now s pkt = some (s', efs) := by
  unfold despacha
  rw [if_neg (ethType_of_entra hin), if_neg (by rw [hcfg]; decide), if_pos hhay, hcfg,
    if_neg Bool.false_ne_true]
  dsimp only
  rw [hpipe]
  exact if_neg hret

theorem hay_of_peticion (h : pkt.peticion = some k) :
    pkt.proto.tcp.isSome = true ∨ pkt.proto.path.isSome = true := by
  unfold Packet.peticion at h
  split at h
  · rename_i t ht
    exact .inl (by rw [ht]; rfl)
  · obtain ⟨t, hpath, _⟩ := Option.map_eq_some_iff.mp h
    exact .inr (by rw [hpath]; rfl)

theorem pasoTcp_descarta (hcfg : n.cfg = ⟨1, false⟩) (hpet : pkt.peticion = some k)
    (hp : tableTcpFoundPortIn s.tcpTable k = some p) (hne : p ≠ pkt.inPort) :
    pasoTcp n now s pkt = some (.descarta s) := by
  unfold Packet.peticion at hpet
  unfold pasoTcp
  cases ht : pkt.proto.tcp with
  | some t =>
    rw [ht] at hpet
    dsimp only at hpet ⊢
    split at hpet
    · rename_i hf
      have hk : pkt.key t = k := Option.some.inj hpet
      have hreg : registraSyn now s.tcpTable k pkt.inPort = none := by
        rw [registraSyn, hp]
        exact if_neg hne
      unfold pasoSegmento
      rw [entrarTcp_uno hcfg]
      dsimp only
      rw [if_neg (by rw [hf]; decide), if_pos hf, hk, hreg]
    · cases hpet
  | none =>
    rw [ht] at hpet
    obtain ⟨t, hpath, hk⟩ := Option.map_eq_some_iff.mp hpet
    rw [hpath]
    dsimp only
    unfold pasoPath
    dsimp only
    rw [hk, hp]
    refine if_neg fun hh => ?_
    rcases hh with hh | hh
    · cases hh
    · exact hne (Option.some.inj hh)

/-- **A request through another port** than the one of its entry is discarded. -/
theorem tcp_descarta (hcfg : n.cfg = ⟨1, false⟩) (hpet : pkt.peticion = some k)
    (hp : tableTcpFoundPortIn s.tcpTable k = some p) (hne : p ≠ pkt.inPort)
    (h : pipelineProcessUah n now sinTablas s pkt = some r) :
    (entra pkt = true → r = (s, [.packetDestroy])) ∧ r.1.tcpTable = s.tcpTable ∧
      ∀ p o, Efecto.outputPort p o ∉ r.2 := by
  have hrec : n.cfg.recuperacion = false := by rw [hcfg]
  rcases pipelineProcessUah_cases n now hrec h with ⟨hin, hd⟩ | ⟨hin, _, ht, hout⟩
  · have hpipe : pipelineTcpPath n now s pkt = some (s, [.packetDestroy], 0) := by
      rw [pipelineTcpPath, pasoTcp_descarta hcfg hpet hp hne]
      rfl
    rw [despacha_tcp hcfg hin (hay_of_peticion hpet) hpipe (Nat.zero_ne_add_one 1)] at hd
    cases hd
    exact ⟨fun _ => rfl, rfl, by simp⟩
  · exact ⟨fun e => absurd (hin.symm.trans e) Bool.false_ne_true, ht, hout⟩

theorem pipelineProcessUah_entra (hrec : n.cfg.recuperacion = false) (hin : entra pkt = true) :
    pipelineProcessUah n now sinTablas s pkt = despacha n now s pkt := by
  simp only [entra, Bool.and_eq_true, Bool.not_eq_true', bne_iff_ne] at hin
  unfold pipelineProcessUah
  simp [hin.1.1, hin.1.2, hrec, trasTablas_eq n hrec, sinTablas, tras]

/-- The segments that are neither SYN nor SYN-ACK, with their 4-tuple. -/
def Packet.segmento (pkt : Packet) : Option CmpTableTcp :=
  match pkt.proto.tcp with
  | some t =>
      if pkt.tcpFlags t = tcpSynAck ∨ pkt.tcpFlags t = tcpSyn then none else some (pkt.key t)
  | none => none

theorem segmento_macSrc (h : pkt.segmento = some k) :
    k.macSrc = pkt.ethSrc ∧ k.macDst = pkt.ethDst := by
  unfold Packet.segmento at h
  split at h
  · split at h
    · cases h
    · cases h
      exact ⟨rfl, rfl⟩
  · cases h

theorem respuesta_macDst (h : pkt.respuesta = some k) : k.macDst = pkt.ethDst := by
  unfold Packet.respuesta at h
  split at h
  · split at h
    · cases h
      rfl
    · cases h
  · cases h

theorem tcp_envia {t : Nat} {s'' : Switch} {puertoMac : Option Nat} (hcfg : n.cfg = ⟨1, false⟩)
    (hin : entra pkt = true) (ht : pkt.proto.tcp = some t)
    (hp : pasoSegmento n now s pkt t = some (.sigue s' pkt puertoMac))
    (he : tcpEnvia n now s' pkt puertoMac = some (s'', efs, 1)) :
    pipelineProcessUah n now sinTablas s pkt = some (s'', efs) := by
  have hrec : n.cfg.recuperacion = false := by rw [hcfg]
  have hpipe : pipelineTcpPath n now s pkt = some (s'', efs, 1) := by
    unfold pipelineTcpPath pasoTcp
    rw [ht]
    dsimp only
    rw [hp]
    exact he
  rw [pipelineProcessUah_entra hrec hin]
  exact despacha_tcp hcfg hin (.inl (by rw [ht]; rfl)) hpipe (by decide)

/-- **A SYN-ACK** goes to `port_in` of the opposite direction, or nowhere. -/
theorem tcp_synAck (hcfg : n.cfg = ⟨1, false⟩) (hin : entra pkt = true)
    (hr : pkt.respuesta = some k) (hf : pkt.isFlooded = false) :
    (entrada s.tcpTable k.inverso = none →
      ∃ s', pipelineProcessUah n now sinTablas s pkt = some (s', [])) ∧
    ∀ q po, entrada s.tcpTable k.inverso = some (q, po) → 0 < q →
      puertoVivo n.dp q = some true →
      ∃ s', pipelineProcessUah n now sinTablas s pkt =
        some (s', [.outputPort pkt q, .packetDestroy]) := by
  have hrec : n.cfg.recuperacion = false := by rw [hcfg]
  unfold Packet.respuesta at hr
  split at hr
  · rename_i t ht
    split at hr
    · rename_i hfl
      have hk : pkt.key t = k := Option.some.inj hr
      have hpaso : pasoSegmento n now s pkt t = some (.sigue
          { s with tcpTable := (tableTcpUpdatePort s.tcpTable k pkt.inPort tcpTime now).2 } pkt
          (some (((entrada s.tcpTable k.inverso).map Prod.fst).getD 0))) := by
        unfold pasoSegmento
        rw [entrarTcp_uno hcfg]
        dsimp only
        rw [if_pos hfl, hk, updatePort_fst]
      refine ⟨fun hnone => ?_, fun q po hq hpos hvivo => ?_⟩
      · rw [hnone, Option.map_none, Option.getD_none] at hpaso
        obtain ⟨s', hs'⟩ := tcpEnvia_sin_puerto hrec hf
        exact ⟨s', tcp_envia hcfg hin ht hpaso hs'⟩
      · rw [hq, Option.map_some, Option.getD_some] at hpaso
        obtain ⟨s', hs'⟩ := tcpEnvia_unicast hf hpos hvivo
        exact ⟨s', tcp_envia hcfg hin ht hpaso hs'⟩
    · cases hr
  · cases hr

/-- **Any other segment** goes where `table_tcp_found_port` says. -/
theorem tcp_segmento {o : Nat} (hcfg : n.cfg = ⟨1, false⟩) (hin : entra pkt = true)
    (hs : pkt.segmento = some k) (hf : pkt.isFlooded = false)
    (ho : (tableTcpFoundPort s.tcpTable k).1 = some o) (hpos : 0 < o)
    (hvivo : puertoVivo n.dp o = some true) :
    ∃ s', pipelineProcessUah n now sinTablas s pkt =
      some (s', [.outputPort pkt o, .packetDestroy]) := by
  unfold Packet.segmento at hs
  split at hs
  · rename_i t ht
    split at hs
    · cases hs
    · rename_i hfl
      have hk : pkt.key t = k := Option.some.inj hs
      have hpaso : pasoSegmento n now s pkt t =
          some (.sigue { s with tcpTable := (tableTcpFoundPort s.tcpTable k).2 } pkt
            (some o)) := by
        unfold pasoSegmento
        rw [entrarTcp_uno hcfg]
        dsimp only
        rw [if_neg fun h => hfl (.inl h), if_neg fun h => hfl (.inr h), hk, ho]
      obtain ⟨s', hs'⟩ := tcpEnvia_unicast hf hpos hvivo
      exact ⟨s', tcp_envia hcfg hin ht hpaso hs'⟩
  · cases hs

end Frame

end TcpPath
