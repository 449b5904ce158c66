/-
  Subject:   Packet-in messages: send_packet_to_controller of pipeline.c and the output to
             OFPP_CONTROLLER of dp_actions.c.

  * `send_packet_to_controller` sends its message and then frees the match inside the packet's
    handle, which was never allocated by itself: the process aborts there. Its message is sent, but
    no execution goes on behind it (`Salida.vuelve`).
  * `packet_in_keeps_frame`: a message has the whole frame, or its packet comes back for the
    `buffer_id`, exactly if it is none of those of `Pierde`.
-/
import TcpPath.OpenFlow.Buffers

namespace TcpPath.Udatapath

open Util Function

/-! ## 1. Code -/

/-- `enum ofp_packet_in_reason`. -/
inductive PacketInReason where
  | noMatch
  | action
  | invalidTtl
  deriving DecidableEq, Repr

/-- `struct ofl_msg_packet_in`, without its match. `data` is what the pointer of that name leads
    to. -/
structure PacketIn where
  bufferId : UInt32
  totalLen : UInt16
  reason : PacketInReason
  tableId : UInt8
  cookie : UInt64
  dataLength : Nat
  data : Bytes
  deriving DecidableEq, Repr

/-- The bytes that are sent. -/
def PacketIn.carga (msg : PacketIn) : Bytes := msg.data.take msg.dataLength

/-- The message has the whole frame. -/
def PacketIn.Completo (msg : PacketIn) (pkt : Packet) : Prop :=
  msg.carga = pkt.frame ∧ msg.dataLength = msg.totalLen.toNat

/-- The packet comes back for the `buffer_id` of the message. -/
def PacketIn.Recuperable (msg : PacketIn) (q : Nat) (s : Almacen) : Prop :=
  msg.bufferId ≠ noBuffer ∧ ∃ s', s.dpBuffersRetrieve msg.bufferId = some (s', some q)

def ofpcmlNoBuffer : UInt16 := 0xffff

def ofpDefaultMissSendLen : UInt16 := 128

/-- Why a packet goes to the controller: `send_packet_to_controller`,
    `send_packet_to_controller_uah`, or an output with its `max_len` and the cookie of its entry. -/
inductive Salida where
  | controlador (tableId : UInt8) (reason : PacketInReason)
  | uah (tableId : UInt8) (reason : PacketInReason)
  | accion (maxLen : UInt16) (cookie : UInt64)
  deriving DecidableEq, Repr

/-- The length the frame is cut to. -/
def Salida.len (missSendLen : UInt16) : Salida → UInt16
  | .controlador _ _ | .uah _ _ => missSendLen
  | .accion maxLen _ => maxLen

/-- The function returns: `send_packet_to_controller` aborts in `ofl_structs_free_match`. -/
def Salida.vuelve : Salida → Bool
  | .controlador _ _ => false
  | .uah _ _ | .accion _ _ => true

namespace Almacen

/-- The packet `q` in a packet-in message. -/
def packetIn (missSendLen len : UInt16) (reason : PacketInReason) (tableId : UInt8)
    (cookie : UInt64) (q : Nat) (s : Almacen) : Option (Almacen × PacketIn) := do
  let pkt ← s.paquetes q
  let msg (bufferId : UInt32) (dataLength : Nat) : PacketIn :=
    { bufferId, totalLen := pkt.frame.length.toUInt16, reason, tableId, cookie, dataLength
      data := pkt.frame }
  if missSendLen ≠ ofpcmlNoBuffer then
    let (s, _) ← s.dpBuffersSave q
    let pkt' ← s.paquetes q
    return (s, msg pkt'.bufferId (min len.toNat pkt.frame.length))
  else return (s, msg noBuffer pkt.frame.length)

/-- `send_packet_to_controller` up to the `free`. `send_packet_to_controller_uah` does the same, but
    has no `free`. -/
def sendPacketToController (missSendLen : UInt16) (tableId : UInt8) (reason : PacketInReason)
    (q : Nat) (s : Almacen) : Option (Almacen × PacketIn) :=
  s.packetIn missSendLen missSendLen reason tableId 0xffffffffffffffff q

/-- `dp_actions_output_port` for `OFPP_CONTROLLER`. -/
def dpActionsOutputController (missSendLen maxLen : UInt16) (cookie : UInt64) (q : Nat)
    (s : Almacen) : Option (Almacen × PacketIn) := do
  let pkt ← s.paquetes q
  s.packetIn missSendLen maxLen (if pkt.tableMiss then .noMatch else .action) pkt.tableId cookie q

/-- The message that is sent, and the state at that moment. -/
def avisa (missSendLen : UInt16) (q : Nat) (s : Almacen) : Salida → Option (Almacen × PacketIn)
  | .controlador tableId reason | .uah tableId reason =>
    s.sendPacketToController missSendLen tableId reason q
  | .accion maxLen cookie => s.dpActionsOutputController missSendLen maxLen cookie q

end Almacen

/-! ## 2. Traffic -/

inductive Trafico where
  /-- `packet_create` and `packet_clone`. -/
  | crea (q : Nat) (pkt : Packet)
  | cambia (q : Nat) (pkt : Packet)
  | avisa (missSendLen : UInt16) (q : Nat) (salida : Salida)
  | recupera (id : UInt32)
  | destruye (q : Nat)
  | avanza (secs : Nat)

namespace Almacen

/-- The buffers are new and there are no packets. -/
def inicio (now : Nat) : Almacen := ⟨dpBuffersCreate, fun _ => none, now⟩

/-- One event; `none` where the process ends. -/
def paso (s : Almacen) : Trafico → Option Almacen
  | .crea q pkt =>
    if s.paquetes q = none then some (s.conPaquete q (some { pkt with bufferId := noBuffer }))
    else none
  | .cambia q pkt => do
    let viejo ← s.paquetes q
    return s.conPaquete q (some { pkt with bufferId := viejo.bufferId })
  | .avisa missSendLen q salida =>
    if salida.vuelve then (s.avisa missSendLen q salida).map Prod.fst else none
  | .recupera id => (s.dpBuffersRetrieve id).map Prod.fst
  | .destruye q => s.packetDestroy q
  | .avanza secs => some { s with now := s.now + secs }

/-- **The invariant**: a packet that has a `buffer_id` is in that buffer. -/
def EnSuSitio (s : Almacen) : Prop :=
  ∀ q pkt, s.paquetes q = some pkt → pkt.bufferId ≠ noBuffer →
    (s.bufer pkt.bufferId).pkt = some q ∧ (s.bufer pkt.bufferId).cookie = pkt.bufferId >>> 8

section Pasos

variable {s s' : Almacen} {q : Nat} {pkt : Packet} {id : UInt32}

@[simp]
theorem conPaquete_suyo {pkt : Option Packet} : (s.conPaquete q pkt).paquetes q = pkt :=
  update_self ..

theorem EnSuSitio.salvo {t : Almacen} (hs : s.EnSuSitio)
    (hp : ∀ q' ≠ q, t.paquetes q' = s.paquetes q')
    (hb : ∀ i, (s.dpb.buffers i).pkt ≠ some q → t.dpb.buffers i = s.dpb.buffers i)
    (hq : ∀ pkt, t.paquetes q = some pkt → pkt.bufferId ≠ noBuffer →
      (t.bufer pkt.bufferId).pkt = some q ∧
        (t.bufer pkt.bufferId).cookie = pkt.bufferId >>> 8) : t.EnSuSitio := by
  intro q' pkt' hq' hid
  by_cases hne : q' = q
  · subst hne
    exact hq pkt' hq' hid
  · rw [hp q' hne] at hq'
    have hsitio := hs q' pkt' hq' hid
    have hotro : (s.dpb.buffers (ranura pkt'.bufferId.toNat)).pkt ≠ some q := fun heq =>
      hne (Option.some.inj (hsitio.1.symm.trans heq))
    unfold bufer
    rw [hb _ hotro]
    exact hsitio

theorem EnSuSitio.suelto (hs : s.EnSuSitio) (hid : pkt.bufferId = noBuffer) :
    (s.conPaquete q (some pkt)).EnSuSitio := by
  refine hs.salvo (q := q) (fun q' hne => update_of_ne hne ..) (fun _ _ => rfl) ?_
  intro pkt' hq' hid'
  cases conPaquete_suyo.symm.trans hq'
  exact absurd hid hid'

theorem EnSuSitio.cambia (hs : s.EnSuSitio) {viejo : Packet} (hq : s.paquetes q = some viejo)
    (hid : pkt.bufferId = viejo.bufferId) : (s.conPaquete q (some pkt)).EnSuSitio := by
  refine hs.salvo (q := q) (fun q' hne => update_of_ne hne ..) (fun _ _ => rfl) ?_
  intro pkt' hq' hid'
  cases conPaquete_suyo.symm.trans hq'
  rw [hid] at hid' ⊢
  exact hs q viejo hq hid'

theorem EnSuSitio.sacada (hs : s.EnSuSitio) (hp : (s.bufer id).pkt = some q) :
    (s.sacada id q pkt).EnSuSitio := by
  refine hs.salvo (q := q) (fun q' hne => sacada_paquetes hne) (fun i hi => ?_) ?_
  · refine sacada_otro ?_
    rintro rfl
    exact hi hp
  · intro pkt' hq' hid'
    cases (update_self ..).symm.trans hq'
    exact absurd rfl hid'

theorem EnSuSitio.destruye (hs : s.EnSuSitio) (h : s.packetDestroy q = some s') :
    s'.EnSuSitio := by
  obtain ⟨pkt, hq, h⟩ := Option.bind_eq_some_iff.mp h
  have libera {t : Almacen} (hb : ∀ i, (s.dpb.buffers i).pkt ≠ some q →
      t.dpb.buffers i = s.dpb.buffers i) (hp : t.paquetes = s.paquetes) :
      (t.conPaquete q none).EnSuSitio := by
    refine hs.salvo (q := q) (fun q' hne => ?_) hb ?_
    · exact (update_of_ne hne ..).trans (congrFun hp q')
    · intro pkt' hq'
      cases conPaquete_suyo.symm.trans hq'
  split at h
  · rename_i hid
    split at h
    · cases h
      exact hs
    · unfold dpBuffersDiscard at h
      split at h
      · cases h
        refine libera (fun i hi => update_of_ne ?_ ..) rfl
        rintro rfl
        exact hi (hs q pkt hq hid).1
      · cases h
        exact libera (fun _ _ => rfl) rfl
  · cases h
    exact libera (fun _ _ => rfl) rfl

/-- **A save**: whoever was in the buffer is no more. -/
theorem EnSuSitio.guarda (hs : s.EnSuSitio) (hg : s.Guarda q pkt s' id) : s'.EnSuSitio := by
  cases hg with
  | vigente => exact hs
  | ocupada => exact hs
  | nueva _ hven =>
    intro q' pkt' hq' hid'
    by_cases hne : q' = q
    · subst hne
      rw [guardada_paquete] at hq'
      cases hq'
      show ((s.guardada q' pkt).dpb.buffers (ranura s.idNuevo.toNat)).pkt = _ ∧ _
      unfold bufer
      simp
    · rw [guardada_paquetes hne] at hq'
      split at hq'
      · cases hq'
      · rename_i hsig
        have hsitio := hs q' pkt' hq' hid'
        have hotro : ranura pkt'.bufferId.toNat ≠ s.siguiente := by
          intro heq
          exact hsig (heq ▸ hsitio.1)
        unfold bufer
        rw [guardada_otro hotro]
        exact hsitio

end Pasos

/-! ## 3. Messages -/

section Avisos

variable {s s' : Almacen} {q : Nat} {pkt : Packet} {missSendLen len : UInt16} {msg : PacketIn}

/-- **What a packet-in can be**: the packet is not saved, or it is and the message has the
    `buffer_id` that the packet then has. -/
inductive Aviso (s : Almacen) (q : Nat) (pkt : Packet) (missSendLen len : UInt16) :
    Almacen → PacketIn → Prop where
  | entero {msg : PacketIn} (hmiss : missSendLen = ofpcmlNoBuffer)
      (hid : msg.bufferId = noBuffer) (hlen : msg.dataLength = pkt.frame.length) :
      Aviso s q pkt missSendLen len s msg
  | guardado {s' : Almacen} {msg : PacketIn} {id : UInt32} {pkt' : Packet}
      (hmiss : missSendLen ≠ ofpcmlNoBuffer) (hg : s.Guarda q pkt s' id)
      (hq' : s'.paquetes q = some pkt') (hid : msg.bufferId = pkt'.bufferId)
      (hlen : msg.dataLength = min len.toNat pkt.frame.length) :
      Aviso s q pkt missSendLen len s' msg

theorem packetIn_aviso {reason : PacketInReason} {tableId : UInt8} {cookie : UInt64}
    (hq : s.paquetes q = some pkt)
    (h : s.packetIn missSendLen len reason tableId cookie q = some (s', msg)) :
    s.Aviso q pkt missSendLen len s' msg ∧ msg.data = pkt.frame ∧
      msg.totalLen = pkt.frame.length.toUInt16 := by
  unfold packetIn at h
  simp only [hq, Option.bind_eq_bind, Option.bind_some] at h
  split at h
  · rename_i hmiss
    obtain ⟨⟨t, id⟩, ht, h⟩ := Option.bind_eq_some_iff.mp h
    obtain ⟨pkt', hq', h⟩ := Option.bind_eq_some_iff.mp h
    cases h
    exact ⟨.guardado hmiss (dpBuffersSave_guarda hq ht) hq' rfl rfl, rfl, rfl⟩
  · rename_i hmiss
    cases h
    exact ⟨.entero (not_not.mp hmiss) rfl rfl, rfl, rfl⟩

variable {salida : Salida} {id : UInt32} {pkt' : Packet}

/-- **Every packet-in.** -/
theorem avisa_aviso (hq : s.paquetes q = some pkt)
    (h : s.avisa missSendLen q salida = some (s', msg)) :
    s.Aviso q pkt missSendLen (salida.len missSendLen) s' msg ∧ msg.data = pkt.frame ∧
      msg.totalLen = pkt.frame.length.toUInt16 := by
  cases salida with
  | controlador tableId reason => exact packetIn_aviso hq h
  | uah tableId reason => exact packetIn_aviso hq h
  | accion maxLen cookie =>
    obtain ⟨_, _, h⟩ := Option.bind_eq_some_iff.mp h
    exact packetIn_aviso hq h

theorem exists_avisa (salida : Salida) (hq : s.paquetes q = some pkt)
    (hmiss : missSendLen ≠ ofpcmlNoBuffer) (hs : s.dpBuffersSave q = some (s', id))
    (hq' : s'.paquetes q = some pkt') : ∃ msg, s.avisa missSendLen q salida = some (s', msg) := by
  have comun (len : UInt16) (reason : PacketInReason) (tableId : UInt8) (cookie : UInt64) :
      ∃ msg, s.packetIn missSendLen len reason tableId cookie q = some (s', msg) := by
    unfold packetIn
    simp only [hq, hs, Option.bind_eq_bind, Option.bind_some]
    rw [if_pos hmiss, hq']
    exact ⟨_, rfl⟩
  cases salida with
  | controlador tableId reason => exact comun ..
  | uah tableId reason => exact comun ..
  | accion maxLen cookie =>
    obtain ⟨msg, h⟩ := comun maxLen (if pkt.tableMiss then .noMatch else .action) pkt.tableId cookie
    exact ⟨msg, Option.bind_eq_some_iff.mpr ⟨pkt, hq, h⟩⟩

theorem exists_paquete_of_avisa (h : s.avisa missSendLen q salida = some (s', msg)) :
    ∃ pkt, s.paquetes q = some pkt := by
  cases salida with
  | _ =>
    obtain ⟨pkt, hq, _⟩ := Option.bind_eq_some_iff.mp h
    exact ⟨pkt, hq⟩

theorem EnSuSitio.avisa (hs : s.EnSuSitio) (h : s.avisa missSendLen q salida = some (s', msg)) :
    s'.EnSuSitio := by
  obtain ⟨pkt, hq⟩ := exists_paquete_of_avisa h
  cases (avisa_aviso hq h).1 with
  | entero => exact hs
  | guardado _ hg => exact hs.guarda hg

/-- **What one step keeps.** -/
theorem EnSuSitio.paso (hs : s.EnSuSitio) {e : Trafico} (h : s.paso e = some s') :
    s'.EnSuSitio := by
  cases e with
  | crea q pkt =>
    rw [Almacen.paso] at h
    split at h
    · cases h
      exact hs.suelto rfl
    · cases h
  | cambia q pkt =>
    obtain ⟨viejo, hq, h⟩ := Option.bind_eq_some_iff.mp h
    cases h
    exact hs.cambia hq rfl
  | avisa missSendLen q salida =>
    rw [Almacen.paso] at h
    split at h
    · obtain ⟨⟨t, msg⟩, ht, rfl⟩ := Option.map_eq_some_iff.mp h
      exact hs.avisa ht
    · cases h
  | recupera id =>
    obtain ⟨⟨t, r⟩, ht, rfl⟩ := Option.map_eq_some_iff.mp h
    rcases dpBuffersRetrieve_cases ht with ⟨rfl, _⟩ | ⟨q, pkt, _, hp, _, rfl, _⟩
    · exact hs
    · exact hs.sacada hp
  | destruye q => exact hs.destruye h
  | avanza secs =>
    cases h
    exact hs

/-- The next buffer is taken, and its time has not come. -/
def Llena (s : Almacen) : Prop :=
  (s.dpb.buffers s.siguiente).pkt.isSome ∧ s.now < (s.dpb.buffers s.siguiente).timeout

theorem sinBufer_iff (hq : s.paquetes q = some pkt) (hg : s.Guarda q pkt s' id)
    (hq' : s'.paquetes q = some pkt') :
    pkt'.bufferId = noBuffer ↔ pkt.bufferId = noBuffer ∧ s.Llena := by
  cases hg with
  | vigente hv =>
    cases hq.symm.trans hq'
    exact ⟨fun hid => absurd hid hv.1, fun h => h.1⟩
  | ocupada _ hold ht =>
    cases hq.symm.trans hq'
    exact ⟨fun hid => ⟨hid, by rw [hold]; rfl, ht⟩, fun h => h.1⟩
  | nueva _ hven =>
    cases guardada_paquete.symm.trans hq'
    refine ⟨fun hid => absurd hid s.idNuevo_ne_noBuffer, fun ⟨_, hlleno, ht⟩ => ?_⟩
    obtain ⟨old, hold⟩ := Option.isSome_iff_exists.mp hlleno
    exact absurd ht (Nat.not_lt.mpr (hven old hold).2)

end Avisos

end Almacen

/-! ## 4. Nothing is lost -/

variable {msg : PacketIn} {pkt : Packet} {s : Almacen} {q : Nat}

theorem PacketIn.completo_iff (hdata : msg.data = pkt.frame)
    (htotal : msg.totalLen = pkt.frame.length.toUInt16) (hlen : msg.dataLength ≤ pkt.frame.length) :
    msg.Completo pkt ↔ pkt.frame.length ≤ msg.dataLength ∧ pkt.frame.length < 2 ^ 16 := by
  have htotal' : msg.totalLen.toNat = pkt.frame.length % 2 ^ 16 := by
    rw [htotal]
    exact UInt16.toNat_ofNat'
  unfold PacketIn.Completo PacketIn.carga
  rw [hdata, List.take_eq_self_iff, htotal']
  omega

theorem PacketIn.recuperable_iff (hs : s.EnSuSitio) (hq : s.paquetes q = some pkt)
    (hid : msg.bufferId = pkt.bufferId) : msg.Recuperable q s ↔ pkt.bufferId ≠ noBuffer := by
  unfold PacketIn.Recuperable
  rw [hid]
  refine ⟨fun h => h.1, fun hne => ⟨hne, ?_⟩⟩
  obtain ⟨hp, hc⟩ := hs q pkt hq hne
  exact Almacen.dpBuffersRetrieve_ocupante hc hp hq

/-- What can go wrong with a packet-in: the frame is longer than `total_len` can say and the
    message has no buffer, or it is cut short and there is no buffer for the rest. -/
def Pierde (s : Almacen) (pkt : Packet) (missSendLen : UInt16) (salida : Salida) : Prop :=
  if missSendLen = ofpcmlNoBuffer then 2 ^ 16 ≤ pkt.frame.length
  else (salida.len missSendLen).toNat < pkt.frame.length ∧ pkt.bufferId = noBuffer ∧ s.Llena

theorem Almacen.EnSuSitio.conserva_iff {s' : Almacen} {missSendLen : UInt16} {salida : Salida}
    (hs : s.EnSuSitio) (hq : s.paquetes q = some pkt)
    (h : s.avisa missSendLen q salida = some (s', msg)) :
    msg.Completo pkt ∨ msg.Recuperable q s' ↔ ¬Pierde s pkt missSendLen salida := by
  obtain ⟨haviso, hdata, htotal⟩ := Almacen.avisa_aviso hq h
  have hs' : s'.EnSuSitio := hs.avisa h
  unfold Pierde
  cases haviso with
  | entero hmiss hid hlen =>
    have hno : ¬msg.Recuperable q s := fun hrec => hrec.1 hid
    rw [if_pos hmiss, PacketIn.completo_iff hdata htotal hlen.le, hlen]
    simp [hno]
  | guardado hmiss hg hq' hid hlen =>
    have hmenor := (salida.len missSendLen).toNat_lt
    rw [if_neg hmiss, PacketIn.completo_iff hdata htotal (by omega),
      PacketIn.recuperable_iff hs' hq' hid, Ne, Almacen.sinBufer_iff hq hg hq', hlen]
    constructor
    · rintro (hcorta | hbufer) ⟨hlt, hresto⟩
      · omega
      · exact hbufer hresto
    · intro hno
      by_cases hlt : (salida.len missSendLen).toNat < pkt.frame.length
      · exact .inr fun hresto => hno ⟨hlt, hresto⟩
      · exact .inl (by omega)

theorem Almacen.EnSuSitio.of_run {now : Nat}
    (hrun : Run Almacen.paso (fun _ _ => True) (Almacen.inicio now) s) : s.EnSuSitio :=
  hrun.invariant (fun _ _ hq => nomatch hq) fun _ _ _ hs _ h => hs.paso h

/-- **A packet-in and its frame.** Whatever has happened to packets before, a message has the whole
    frame, or its packet comes back for its `buffer_id`, unless it is one of those of `Pierde`. -/
theorem packet_in_keeps_frame {now : Nat} {s s' : Almacen} {q : Nat} {pkt : Packet}
    {missSendLen : UInt16} {salida : Salida} {msg : PacketIn}
    (hrun : Run Almacen.paso (fun _ _ => True) (Almacen.inicio now) s)
    (hq : s.paquetes q = some pkt) (h : s.avisa missSendLen q salida = some (s', msg)) :
    msg.Completo pkt ∨ msg.Recuperable q s' ↔ ¬Pierde s pkt missSendLen salida :=
  (Almacen.EnSuSitio.of_run hrun).conserva_iff hq h

/-- A frame of five bytes, three of which are sent. The packet comes back. -/
theorem packet_in_keeps_frame_guardada : ∃ s s' msg,
    Run Almacen.paso (fun _ _ => True) (Almacen.inicio 100) s ∧
    s.avisa ofpDefaultMissSendLen 7 (.accion 3 0) = some (s', msg) ∧
    msg.carga = [10, 11, 12] ∧ msg.Recuperable 7 s' := by
  have hrun : Run Almacen.paso (fun _ _ => True) (Almacen.inicio 100)
      ((Almacen.inicio 100).conPaquete 7 (some ⟨[10, 11, 12, 13, 14], false, noBuffer, 0, true⟩)) :=
    .tail (e := .crea 7 ⟨[10, 11, 12, 13, 14], false, noBuffer, 0, true⟩) .refl trivial rfl
  obtain ⟨msg, h⟩ := Almacen.exists_avisa
    (s := (Almacen.inicio 100).conPaquete 7 (some ⟨[10, 11, 12, 13, 14], false, noBuffer, 0, true⟩))
    (.accion 3 0) Almacen.conPaquete_suyo (by decide : ofpDefaultMissSendLen ≠ ofpcmlNoBuffer)
    (Almacen.dpBuffersSave_libre Almacen.conPaquete_suyo (fun hv => hv.1 rfl) rfl)
    Almacen.guardada_paquete
  obtain ⟨haviso, hdata, _⟩ := Almacen.avisa_aviso Almacen.conPaquete_suyo h
  have hcarga : msg.carga = [10, 11, 12] := by
    unfold PacketIn.carga
    cases haviso with
    | guardado _ _ _ _ hlen =>
      rw [hdata, hlen]
      rfl
  refine ⟨_, _, msg, hrun, h, hcarga, ?_⟩
  refine ((packet_in_keeps_frame hrun Almacen.conPaquete_suyo h).mpr ?_).resolve_left ?_
  · rintro ⟨_, _, hllena, _⟩
    exact nomatch hllena
  · rintro ⟨hentera, _⟩
    exact nomatch hcarga.symm.trans hentera

/-! ## 5. Every buffer is taken -/

namespace Almacen

/-- The first `n` buffers have been filled, all of them at `now`. -/
structure Lleno (now n : Nat) (s : Almacen) : Prop where
  ahora : s.now = now
  cursor : s.siguiente.val = n % nPktBuffers
  tomados : ∀ i, i.val < n →
    (s.dpb.buffers i).pkt.isSome ∧ (s.dpb.buffers i).timeout = now + overwriteSecs
  libres : ∀ i, n ≤ i.val → (s.dpb.buffers i).pkt = none
  sinUsar : ∀ q, n ≤ q → s.paquetes q = none

theorem lleno_inicio (now : Nat) : (inicio now).Lleno now 0 where
  ahora := rfl
  cursor := by
    show (ranura ((0xffffffffffffffff : UInt64) + 1).toNat).val = _
    decide
  tomados _ hi := absurd hi (Nat.not_lt_zero _)
  libres _ _ := rfl
  sinUsar _ _ := rfl

theorem siguiente_guardada (s : Almacen) (q : Nat) (pkt : Packet) :
    (s.guardada q pkt).siguiente.val = (s.siguiente.val + 1) % nPktBuffers := by
  have hi := s.siguiente.isLt
  unfold nPktBuffers at hi
  have hsuma : (s.siguiente.val.toUInt64 + 1).toNat = s.siguiente.val + 1 := by
    rw [UInt64.toNat_add, show s.siguiente.val.toUInt64.toNat = s.siguiente.val from
      UInt64.toNat_ofNat'.trans (Nat.mod_eq_of_lt (by omega))]
    exact Nat.mod_eq_of_lt (by show _ + 1 < _; omega)
  show (s.siguiente.val.toUInt64 + 1).toNat &&& (2 ^ 8 - 1) = _
  rw [hsuma, Nat.and_two_pow_sub_one_eq_mod]
  rfl

def largo : Packet := ⟨List.replicate 200 0, false, noBuffer, 0, true⟩

/-- **One more**: a packet comes, and its entry has an output to the controller. -/
theorem Lleno.otro {now n : Nat} {s : Almacen} (hs : s.Lleno now n) (hn : n < nPktBuffers) :
    ∃ t, Run paso (fun _ _ => True) s t ∧ t.Lleno now (n + 1) := by
  have hcursor : s.siguiente.val = n := hs.cursor.trans (Nat.mod_eq_of_lt hn)
  have hcrea : s.paso (.crea n largo) = some (s.conPaquete n (some largo)) :=
    if_pos (hs.sinUsar n le_rfl)
  obtain ⟨msg, h⟩ := exists_avisa (s := s.conPaquete n (some largo)) (.accion 128 0)
    conPaquete_suyo (by decide : ofpDefaultMissSendLen ≠ ofpcmlNoBuffer)
    (dpBuffersSave_libre conPaquete_suyo (fun hv => hv.1 rfl) (hs.libres s.siguiente hcursor.ge))
    guardada_paquete
  have havisa : (s.conPaquete n (some largo)).paso
      (.avisa ofpDefaultMissSendLen n (.accion 128 0)) = some _ :=
    Option.map_eq_some_iff.mpr ⟨_, h, rfl⟩
  refine ⟨_, .tail (.tail .refl trivial hcrea) trivial havisa, ?_⟩
  refine ⟨hs.ahora, ?_, fun i hi => ?_, fun i hi => ?_, fun q hq => ?_⟩
  · rw [siguiente_guardada]
    show (s.siguiente.val + 1) % nPktBuffers = _
    rw [hcursor]
  · by_cases heq : i = s.siguiente
    · subst heq
      rw [show (guardada _ _ _).dpb.buffers s.siguiente = _ from
        guardada_siguiente (s := s.conPaquete n (some largo))]
      exact ⟨rfl, congrArg (· + overwriteSecs) hs.ahora⟩
    · rw [guardada_otro (s := s.conPaquete n (some largo)) heq]
      refine hs.tomados i ?_
      have := Fin.val_ne_of_ne heq
      omega
  · rw [guardada_otro (s := s.conPaquete n (some largo)) (i := i) ?_]
    · exact hs.libres i (by omega)
    · intro heq
      have : i.val = n := (congrArg Fin.val heq).trans hcursor
      omega
  · have hne : q ≠ n := by omega
    rw [guardada_paquetes hne]
    split
    · rfl
    · exact (update_of_ne hne ..).trans (hs.sinUsar q (by omega))

theorem exists_lleno (now : Nat) {n : Nat} (hn : n ≤ nPktBuffers) :
    ∃ s, Run paso (fun _ _ => True) (inicio now) s ∧ s.Lleno now n := by
  induction n with
  | zero => exact ⟨_, .refl, lleno_inicio now⟩
  | succ n ih =>
    obtain ⟨s, hrun, hs⟩ := ih (by omega)
    obtain ⟨t, hrun', ht⟩ := hs.otro hn
    exact ⟨t, hrun.trans hrun', ht⟩

end Almacen

/-- **Bytes are lost.** 257 packets come within one second, and their entry has an output to
    `OFPP_CONTROLLER`: 128 bytes of the last one are sent, and it is in no buffer. -/
theorem packet_in_keeps_frame_fails : ∃ s s' q pkt msg,
    Run Almacen.paso (fun _ _ => True) (Almacen.inicio 100) s ∧ s.paquetes q = some pkt ∧
    s.dpActionsOutputController ofpDefaultMissSendLen 128 0 q = some (s', msg) ∧
    ¬msg.Completo pkt ∧ ¬msg.Recuperable q s' := by
  obtain ⟨s, hrun, hs⟩ := Almacen.exists_lleno 100 le_rfl
  have hcrea : s.paso (.crea nPktBuffers Almacen.largo) =
      some (s.conPaquete nPktBuffers (some Almacen.largo)) :=
    if_pos (hs.sinUsar nPktBuffers le_rfl)
  have hrun' := Run.tail hrun trivial hcrea
  obtain ⟨hpkt, htime⟩ := hs.tomados s.siguiente s.siguiente.isLt
  obtain ⟨old, hold⟩ := Option.isSome_iff_exists.mp hpkt
  have ht : s.now < (s.dpb.buffers s.siguiente).timeout := by
    rw [htime, hs.ahora]
    exact Nat.lt_succ_self 100
  have hq : (s.conPaquete nPktBuffers (some Almacen.largo)).paquetes nPktBuffers = _ :=
    Almacen.conPaquete_suyo
  obtain ⟨msg, h⟩ := Almacen.exists_avisa (.accion 128 0) hq
    (by decide : ofpDefaultMissSendLen ≠ ofpcmlNoBuffer)
    (Almacen.dpBuffersSave_ocupada hq (fun hv => hv.1 rfl) hold ht) hq
  have hiff := (Almacen.EnSuSitio.of_run hrun').conserva_iff hq h
  have hpierde : Pierde (s.conPaquete nPktBuffers (some Almacen.largo)) Almacen.largo
      ofpDefaultMissSendLen (.accion 128 0) :=
    ⟨by rw [Almacen.largo, List.length_replicate]; decide, rfl, hpkt, ht⟩
  exact ⟨_, _, _, _, msg, hrun', hq, h,
    not_or.mp (hiff.not.mpr (not_not.mpr hpierde))⟩

end TcpPath.Udatapath
