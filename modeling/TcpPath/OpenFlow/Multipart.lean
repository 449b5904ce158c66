/-
  Subject:   Replies to multipart requests about groups, meters, ports and queues: group_table.c,
             meter_table.c and dp_ports.c.

  * `Respuesta`: `stats_num`, the number of slots that were allocated, and the assignments to them.
    What is in a slot is given by the entry, the port or the queue it is about.

  Results:   `statsRequest_da`: the slots hold what was asked for, once each.
-/
import TcpPath.OpenFlow.Accounting
import TcpPath.OpenFlow.DpPorts

namespace TcpPath.Udatapath

open Util List

variable {α β γ Mt P : Type}

/-! ## 1. Replies -/

/-- The loop of a handler: the index, and the assignments so far. -/
structure Bucle (α : Type) where
  idx : Nat
  escritos : List (Nat × α)

/-- `reply.stats[idx] = x; idx++;` -/
def Bucle.pon (b : Bucle α) (x : α) : Bucle α := ⟨b.idx + 1, b.escritos ++ [(b.idx, x)]⟩

/-- The assignments of a loop over `l`. -/
def rellena (l : List α) : List (Nat × α) := (l.foldl Bucle.pon ⟨0, []⟩).escritos

/-- A reply. -/
structure Respuesta (α : Type) where
  statsNum : Nat
  huecos : Nat
  escritos : List (Nat × α)
  deriving DecidableEq, Repr

namespace Respuesta

def map (f : α → β) (r : Respuesta α) : Respuesta β :=
  ⟨r.statsNum, r.huecos, r.escritos.map (Prod.map id f)⟩

/-- What is in the slots. -/
def contenido (r : Respuesta α) : List α := r.escritos.map Prod.snd

/-- Each slot that was allocated is assigned once. -/
def Asignada (r : Respuesta α) : Prop := r.escritos.map Prod.fst = List.range r.huecos

/-- **Well formed**: `stats_num` is the number of slots, and each is assigned once. -/
def BienHecha (r : Respuesta α) : Prop := r.statsNum = r.huecos ∧ r.Asignada

@[simp]
theorem contenido_map (f : α → β) (r : Respuesta α) :
    (r.map f).contenido = r.contenido.map f := by
  unfold contenido map
  rw [map_map, map_map]
  rfl

@[simp]
theorem asignada_map {f : α → β} {r : Respuesta α} : (r.map f).Asignada ↔ r.Asignada := by
  unfold Asignada map
  rw [map_map]
  rfl

/-- The slots are assigned once each, to what has `Q`, and to nothing twice. -/
structure Da (r : Respuesta α) (Q : α → Prop) : Prop where
  asignada : r.Asignada
  unaVez : r.contenido.Nodup
  mem : ∀ x, x ∈ r.contenido ↔ Q x

theorem Da.congr {r : Respuesta α} {Q Q' : α → Prop} (h : r.Da Q) (hQ : ∀ x, Q x ↔ Q' x) :
    r.Da Q' :=
  ⟨h.asignada, h.unaVez, fun x => (h.mem x).trans (hQ x)⟩

theorem Da.map {r : Respuesta α} {Q : α → Prop} {f : α → β} (h : r.Da Q)
    (hf : Function.Injective f) : (r.map f).Da fun y => ∃ x, Q x ∧ f x = y where
  asignada := asignada_map.mpr h.asignada
  unaVez := by
    rw [contenido_map]
    exact h.unaVez.map hf
  mem y := by
    rw [contenido_map, mem_map]
    simp only [h.mem]

end Respuesta

theorem foldl_pon (l : List α) (b : Bucle α) :
    (l.foldl Bucle.pon b).escritos =
      b.escritos ++ (List.range' b.idx l.length).zip l := by
  induction l generalizing b with
  | nil => simp
  | cons x l ih =>
    rw [foldl_cons, ih]
    simp [Bucle.pon, range'_succ]

/-- **A loop assigns the slots one after the other.** -/
theorem rellena_eq (l : List α) : rellena l = (List.range l.length).zip l := by
  rw [rellena, foldl_pon, range_eq_range']
  rfl

@[simp]
theorem map_fst_rellena (l : List α) : (rellena l).map Prod.fst = List.range l.length := by
  rw [rellena_eq, map_fst_zip (by simp)]

@[simp]
theorem map_snd_rellena (l : List α) : (rellena l).map Prod.snd = l := by
  rw [rellena_eq, map_snd_zip (by simp)]

/-! ## 2. Groups and meters -/

namespace RefTable

variable (table : RefTable β) (orden : List Nat)

/-- `HMAP_FOR_EACH`, where the numbers come in the order `orden`. -/
def recorre : List (RefEntry β) := orden.filterMap table.find

def replyTodas : Respuesta (RefEntry β) :=
  ⟨table.entriesNum.toNat, table.entriesNum.toNat, rellena (table.recorre orden)⟩

/-- A request about all entries, if the number is `todas`, or about one. -/
def handleStatsRequest (todas : Nat) (desconocido : OflErr) (id : Nat) :
    Except OflErr (Respuesta (RefEntry β)) :=
  if id = todas then .ok (table.replyTodas orden)
  else
    match table.find id with
    | none => .error desconocido
    | some entry => .ok ⟨1, 1, [(0, entry)]⟩

end RefTable

/-- `group_table_handle_stats_request_group`. -/
def groupTableHandleStatsRequestGroup (table : RefTable β) (orden : List Nat) (groupId : Nat) :
    Except OflErr (Respuesta (RefEntry β)) :=
  table.handleStatsRequest orden ofpgAll (groupModFailed 8) groupId

/-- `group_table_handle_stats_request_group_desc`. -/
def groupTableHandleStatsRequestGroupDesc (table : RefTable β) (orden : List Nat) :
    Respuesta (RefEntry β) :=
  table.replyTodas orden

/-- `meter_table_handle_stats_request_meter`. -/
def meterTableHandleStatsRequestMeter (table : RefTable β) (orden : List Nat) (meterId : Nat) :
    Except OflErr (Respuesta (RefEntry β)) :=
  table.handleStatsRequest orden ofpmAll (meterModFailed 3) meterId

/-- `meter_table_handle_stats_request_meter_conf`, which has `entries_num` in `stats_num` also where
    it allocates one slot. -/
def meterTableHandleStatsRequestMeterConf (table : RefTable β) (orden : List Nat) (meterId : Nat) :
    Except OflErr (Respuesta (RefEntry β)) :=
  if meterId = ofpmAll then .ok (table.replyTodas orden)
  else
    match table.find meterId with
    | none => .error (meterModFailed 3)
    | some entry => .ok ⟨table.entriesNum.toNat, 1, [(0, entry)]⟩

/-! ## 3. Ports and queues -/

/-- The queues of a port, by the loop over its array. -/
def Puerto.colas (p : Puerto) : List (Fin netdevMaxQueues) :=
  (List.finRange netdevMaxQueues).filter fun i =>
    decide (i.val < p.maxQueues) && (p.queues i).isSome

namespace Puertos

variable (s : Puertos)

/-- `dp_ports_handle_stats_request_port`. -/
def dpPortsHandleStatsRequestPort (portNo : Nat) : Respuesta PortPtr :=
  if portNo = ofppAny then ⟨s.portsNum, s.portsNum, rellena s.portList⟩
  else
    match s.enUso portNo with
    | some (ptr, _) => ⟨1, 1, [(0, ptr)]⟩
    | none => ⟨0, 0, []⟩

/-- `dp_ports_handle_port_desc_request`. -/
def dpPortsHandlePortDescRequest : Respuesta PortPtr :=
  ⟨s.portsNum, s.portsNum, rellena s.portList⟩

/-- How many queues of a port a request is about, by `num_queues` where it is about all. -/
def cuentaColas (queueId : Nat) (ptr : PortPtr) : Nat :=
  match s.get ptr with
  | none => 0
  | some p =>
    if queueId = ofpqAll then p.numQueues.toNat
    else if (p.dpPortsLookupQueue queueId).isSome then 1 else 0

/-- The queues of a port a request is about, as they are put into the reply. -/
def colasPedidas (queueId : Nat) (ptr : PortPtr) : List (PortPtr × Fin netdevMaxQueues) :=
  match s.get ptr with
  | none => []
  | some p =>
    if queueId = ofpqAll then p.colas.map (ptr, ·)
    else
      match p.dpPortsLookupQueue queueId with
      | some (i, _) => [(ptr, i)]
      | none => []

/-- `dp_ports_handle_stats_request_queue`. -/
def dpPortsHandleStatsRequestQueue (portNo queueId : Nat) :
    Respuesta (PortPtr × Fin netdevMaxQueues) :=
  if portNo = ofppAny then
    let num := s.portList.foldl (fun num ptr => num + s.cuentaColas queueId ptr) 0
    let b := s.portList.foldl (fun b ptr => (s.colasPedidas queueId ptr).foldl Bucle.pon b) ⟨0, []⟩
    ⟨num, num, b.escritos⟩
  else
    match s.enUso portNo with
    | none => ⟨0, 0, []⟩
    | some (ptr, _) =>
      ⟨s.cuentaColas queueId ptr, s.cuentaColas queueId ptr, rellena (s.colasPedidas queueId ptr)⟩

end Puertos

/-! ## 4. Requests -/

/-- The multipart requests about groups, meters, ports and queues. -/
inductive StatsRequest where
  | group (groupId : Nat)
  | groupDesc
  | meter (meterId : Nat)
  | meterConfig (meterId : Nat)
  | port (portNo : Nat)
  | portDesc
  | queue (portNo queueId : Nat)
  deriving DecidableEq, Repr

/-- What a slot is about. -/
inductive Objeto where
  | grupo (entry : RefEntry (Bucket Action))
  | metro (entry : RefEntry MeterBand)
  | puerto (ptr : PortPtr)
  | cola (c : PortPtr × Fin netdevMaxQueues)

/-- The handler of a request. The maps are walked in the orders `ordenG` and `ordenM`. -/
def statsRequest (d : Dp Mt Action MeterBand) (s : Puertos) (ordenG ordenM : List Nat) :
    StatsRequest → Except OflErr (Respuesta Objeto)
  | .group id => (groupTableHandleStatsRequestGroup d.groups ordenG id).map (·.map .grupo)
  | .groupDesc => .ok ((groupTableHandleStatsRequestGroupDesc d.groups ordenG).map .grupo)
  | .meter id => (meterTableHandleStatsRequestMeter d.meters ordenM id).map (·.map .metro)
  | .meterConfig id => (meterTableHandleStatsRequestMeterConf d.meters ordenM id).map (·.map .metro)
  | .port portNo => .ok ((s.dpPortsHandleStatsRequestPort portNo).map .puerto)
  | .portDesc => .ok (s.dpPortsHandlePortDescRequest.map .puerto)
  | .queue portNo queueId => .ok ((s.dpPortsHandleStatsRequestQueue portNo queueId).map .cola)

/-- **What a request asks for.** -/
def Pedido (d : Dp Mt Action MeterBand) (s : Puertos) : StatsRequest → Objeto → Prop
  | .group id, .grupo entry => entry ∈ d.groups.entries ∧ (id = ofpgAll ∨ entry.id = id)
  | .groupDesc, .grupo entry => entry ∈ d.groups.entries
  | .meter id, .metro entry => entry ∈ d.meters.entries ∧ (id = ofpmAll ∨ entry.id = id)
  | .meterConfig id, .metro entry => entry ∈ d.meters.entries ∧ (id = ofpmAll ∨ entry.id = id)
  | .port portNo, .puerto ptr => ∃ p, s.get ptr = some p ∧ (portNo = ofppAny ∨ p.portNo = portNo)
  | .portDesc, .puerto ptr => (s.get ptr).isSome
  | .queue portNo queueId, .cola (ptr, i) =>
    ∃ p q, s.get ptr = some p ∧ p.queues i = some q ∧ (portNo = ofppAny ∨ p.portNo = portNo) ∧
      (queueId = ofpqAll ∨ q.queueId = queueId)
  | _, _ => False

/-! ## 5. Replies are what was asked for -/

variable {n : Nat} {Q : α → Prop}

theorem da_rellena {l : List α} {huecos : Nat} (hn : huecos = l.length) (hnd : l.Nodup)
    (hQ : ∀ x, x ∈ l ↔ Q x) : (⟨n, huecos, rellena l⟩ : Respuesta α).Da Q where
  asignada := by
    unfold Respuesta.Asignada
    rw [map_fst_rellena, hn]
  unaVez := by
    unfold Respuesta.contenido
    rwa [map_snd_rellena]
  mem x := by
    unfold Respuesta.contenido
    rw [map_snd_rellena]
    exact hQ x

theorem da_uno {x : α} (hQ : ∀ y, Q y ↔ y = x) : (⟨n, 1, [(0, x)]⟩ : Respuesta α).Da Q :=
  da_rellena (l := [x]) rfl (nodup_singleton x) fun y => mem_singleton.trans (hQ y).symm

/-- No slot. -/
theorem da_nada (hQ : ∀ x, ¬Q x) : (⟨0, 0, []⟩ : Respuesta α).Da Q :=
  da_rellena (l := []) rfl nodup_nil fun x => ⟨(nomatch ·), fun h => absurd h (hQ x)⟩

namespace RefTable

variable {table : RefTable β} {lim : Limites} {orden : List Nat}

theorem recorre_perm (hu : table.Unica) (ho : orden.Perm table.ids) :
    (table.recorre orden).Perm table.entries := by
  have hids : table.ids.filterMap table.find = table.entries := by
    unfold ids
    rw [filterMap_map]
    exact (filterMap_congr fun e he => find_of_mem hu he).trans filterMap_some
  rw [← hids]
  exact ho.filterMap _

theorem da_replyTodas (h : table.Numera lim) (ho : orden.Perm table.ids) :
    (table.replyTodas orden).Da (· ∈ table.entries) := by
  have hperm := recorre_perm h.unica ho
  exact da_rellena (h.entriesNum.trans hperm.length_eq.symm)
    (hperm.nodup_iff.mpr (List.Nodup.of_map _ h.unica)) fun x => hperm.mem_iff

variable {id : Nat} {entry : RefEntry β} {todas : Nat} {desconocido : OflErr}
  {r : Respuesta (RefEntry β)}

theorem mem_id_iff (hu : table.Unica) (hf : table.find id = some entry) (y : RefEntry β) :
    y ∈ table.entries ∧ y.id = id ↔ y = entry := by
  constructor
  · rintro ⟨hy, rfl⟩
    exact Option.some.inj ((find_of_mem hu hy).symm.trans hf)
  · rintro rfl
    exact ⟨mem_of_find hf, id_of_find hf⟩

theorem da_una (hu : table.Unica) {n : Nat} (hid : id ≠ todas) (hf : table.find id = some entry) :
    (⟨n, 1, [(0, entry)]⟩ : Respuesta (RefEntry β)).Da fun e =>
      e ∈ table.entries ∧ (id = todas ∨ e.id = id) :=
  da_uno fun e => by simp only [hid, false_or, mem_id_iff hu hf]

theorem da_todas (h : table.Numera lim) (ho : orden.Perm table.ids) (todas : Nat) :
    (table.replyTodas orden).Da fun e => e ∈ table.entries ∧ (todas = todas ∨ e.id = todas) :=
  (da_replyTodas h ho).congr fun e => by simp

theorem da_handleStatsRequest (h : table.Numera lim) (ho : orden.Perm table.ids)
    (hr : table.handleStatsRequest orden todas desconocido id = .ok r) :
    r.Da fun e => e ∈ table.entries ∧ (id = todas ∨ e.id = id) := by
  unfold handleStatsRequest at hr
  split at hr
  · rename_i hid
    cases hr
    subst hid
    exact da_todas h ho id
  · rename_i hid
    split at hr
    · cases hr
    · rename_i entry hf
      cases hr
      exact da_una h.unica hid hf

theorem statsNum_handleStatsRequest
    (hr : table.handleStatsRequest orden todas desconocido id = .ok r) : r.statsNum = r.huecos := by
  unfold handleStatsRequest at hr
  split at hr
  · cases hr
    rfl
  · split at hr
    · cases hr
    · cases hr
      rfl

end RefTable

theorem da_meterConf {table : RefTable β} {orden : List Nat} (h : table.Numera limitesMetros)
    (ho : orden.Perm table.ids) {id : Nat} {r : Respuesta (RefEntry β)}
    (hr : meterTableHandleStatsRequestMeterConf table orden id = .ok r) :
    r.Da (fun e => e ∈ table.entries ∧ (id = ofpmAll ∨ e.id = id)) ∧
      (r.statsNum = r.huecos ↔ id = ofpmAll ∨ table.entries.length = 1) := by
  unfold meterTableHandleStatsRequestMeterConf at hr
  split at hr
  · rename_i hid
    cases hr
    subst hid
    exact ⟨table.da_todas h ho ofpmAll, iff_of_true rfl (.inl rfl)⟩
  · rename_i hid
    split at hr
    · cases hr
    · rename_i entry hf
      cases hr
      refine ⟨RefTable.da_una h.unica hid hf, ?_⟩
      show table.entriesNum.toNat = 1 ↔ _
      rw [h.entriesNum]
      simp [hid]

namespace Puertos

variable {s : Puertos}

theorem da_portList (h : s.Sana) :
    (⟨s.portsNum, s.portsNum, rellena s.portList⟩ : Respuesta PortPtr).Da fun ptr =>
      (s.get ptr).isSome :=
  da_rellena h.largo.symm h.unaVez h.lista

theorem da_port (h : s.Sana) (portNo : Nat) :
    (s.dpPortsHandleStatsRequestPort portNo).Da fun ptr =>
      ∃ p, s.get ptr = some p ∧ (portNo = ofppAny ∨ p.portNo = portNo) := by
  unfold dpPortsHandleStatsRequestPort
  split
  · rename_i hany
    refine (da_portList h).congr fun ptr => ?_
    simp [hany, Option.isSome_iff_exists]
  · rename_i hany
    simp only [hany, false_or]
    cases huso : s.enUso portNo with
    | none =>
      refine da_nada fun ptr ⟨p, hp⟩ => ?_
      rw [h.enUso_iff.mpr hp] at huso
      cases huso
    | some x =>
      obtain ⟨ptr, p⟩ := x
      refine da_uno fun ptr' => ⟨fun ⟨p', hp'⟩ => ?_, ?_⟩
      · cases huso.symm.trans (h.enUso_iff.mpr hp')
        rfl
      · rintro rfl
        exact ⟨p, h.enUso_iff.mp huso⟩

theorem statsNum_port (portNo : Nat) :
    (s.dpPortsHandleStatsRequestPort portNo).statsNum =
      (s.dpPortsHandleStatsRequestPort portNo).huecos := by
  unfold dpPortsHandleStatsRequestPort
  split
  · rfl
  · split <;> rfl

theorem statsNum_queue (portNo queueId : Nat) :
    (s.dpPortsHandleStatsRequestQueue portNo queueId).statsNum =
      (s.dpPortsHandleStatsRequestQueue portNo queueId).huecos := by
  unfold dpPortsHandleStatsRequestQueue
  split
  · rfl
  · split <;> rfl

theorem length_colas {p : Puerto} (h : p.Cuadra) : p.colas.length = p.numQueues.toNat := by
  rw [h.numQueues, countP_eq_length_filter]
  unfold Puerto.colas
  refine congrArg List.length (filter_congr fun i _ => ?_)
  cases hq : p.queues i with
  | none => simp
  | some q => simp [(h.numeradas i q hq).1]

theorem mem_colas {p : Puerto} (h : p.Cuadra) {i : Fin netdevMaxQueues} :
    i ∈ p.colas ↔ ∃ q, p.queues i = some q := by
  unfold Puerto.colas
  rw [mem_filter, Bool.and_eq_true, decide_eq_true_eq, Option.isSome_iff_exists]
  constructor
  · exact fun h => h.2.2
  · rintro ⟨q, hq⟩
    exact ⟨mem_finRange i, (h.numeradas i q hq).1, q, hq⟩

section Colas

variable (h : s.Sana) (queueId : Nat) (ptr : PortPtr)
include h

theorem length_colasPedidas : (s.colasPedidas queueId ptr).length = s.cuentaColas queueId ptr := by
  unfold colasPedidas cuentaColas
  cases hp : s.get ptr with
  | none => rfl
  | some p =>
    simp only
    split
    · rw [length_map, length_colas (h.colas ptr p hp)]
    · cases p.dpPortsLookupQueue queueId <;> rfl

theorem mem_colasPedidas {c : PortPtr × Fin netdevMaxQueues} :
    c ∈ s.colasPedidas queueId ptr ↔
      c.1 = ptr ∧ ∃ p q, s.get ptr = some p ∧ p.queues c.2 = some q ∧
        (queueId = ofpqAll ∨ q.queueId = queueId) := by
  obtain ⟨ptr', i⟩ := c
  unfold colasPedidas
  cases hp : s.get ptr with
  | none => simp
  | some p =>
    have hc := h.colas ptr p hp
    simp only
    split
    · rename_i hall
      simp only [mem_map, mem_colas hc, Prod.mk.injEq, hall, true_or, and_true]
      constructor
      · rintro ⟨j, ⟨q, hq⟩, rfl, rfl⟩
        exact ⟨rfl, p, q, rfl, hq⟩
      · rintro ⟨rfl, p', q, hp', hq⟩
        cases hp'
        exact ⟨i, ⟨q, hq⟩, rfl, rfl⟩
    · rename_i hall
      simp only [hall, false_or]
      cases hl : p.dpPortsLookupQueue queueId with
      | none =>
        refine ⟨(nomatch ·), ?_⟩
        rintro ⟨rfl, p', q, hp', hq⟩
        cases hp'
        rw [hc.lookupQueue_iff.mpr hq] at hl
        cases hl
      | some x =>
        obtain ⟨j, q⟩ := x
        rw [mem_singleton, Prod.mk.injEq]
        constructor
        · rintro ⟨rfl, rfl⟩
          exact ⟨rfl, p, q, rfl, hc.lookupQueue_iff.mp hl⟩
        · rintro ⟨rfl, p', q', hp', hq'⟩
          cases hp'
          cases hl.symm.trans (hc.lookupQueue_iff.mpr hq')
          exact ⟨rfl, rfl⟩

omit h in
theorem nodup_colasPedidas : (s.colasPedidas queueId ptr).Nodup := by
  unfold colasPedidas
  cases s.get ptr with
  | none => exact nodup_nil
  | some p =>
    simp only
    split
    · refine List.Nodup.map (fun i j hij => (Prod.mk.inj hij).2) ?_
      exact (nodup_finRange _).filter _
    · split
      · exact nodup_singleton _
      · exact nodup_nil

end Colas

theorem da_queue (h : s.Sana) (portNo queueId : Nat) :
    (s.dpPortsHandleStatsRequestQueue portNo queueId).Da fun c =>
      ∃ p q, s.get c.1 = some p ∧ p.queues c.2 = some q ∧ (portNo = ofppAny ∨ p.portNo = portNo) ∧
        (queueId = ofpqAll ∨ q.queueId = queueId) := by
  unfold dpPortsHandleStatsRequestQueue
  split
  · rename_i hany
    have hb : (s.portList.foldl (fun b ptr => (s.colasPedidas queueId ptr).foldl Bucle.pon b)
        ⟨0, []⟩).escritos = rellena (s.portList.flatMap (s.colasPedidas queueId)) := by
      rw [rellena, foldl_flatMap]
    have hnum : s.portList.foldl (fun num ptr => num + s.cuentaColas queueId ptr) 0 =
        (s.portList.flatMap (s.colasPedidas queueId)).length := by
      rw [length_flatMap, sum_eq_foldl, foldl_map]
      simp only [length_colasPedidas h]
    simp only [hb, hany, true_or, true_and]
    refine da_rellena hnum
      (nodup_flatMap.mpr ⟨fun ptr _ => nodup_colasPedidas queueId ptr, ?_⟩) fun c => ?_
    · refine h.unaVez.imp fun {ptr ptr'} hne c hc hc' => hne ?_
      exact ((mem_colasPedidas h queueId ptr).mp hc).1.symm.trans
        ((mem_colasPedidas h queueId ptr').mp hc').1
    · simp only [mem_flatMap, mem_colasPedidas h]
      constructor
      · rintro ⟨ptr, _, rfl, hq⟩
        exact hq
      · rintro ⟨p, q, hp, hq⟩
        exact ⟨c.1, (h.lista c.1).mpr (by rw [hp]; rfl), rfl, p, q, hp, hq⟩
  · rename_i hany
    simp only [hany, false_or]
    cases huso : s.enUso portNo with
    | none =>
      refine da_nada fun c ⟨p, q, hp, _, hno, _⟩ => ?_
      rw [h.enUso_iff.mpr ⟨hp, hno⟩] at huso
      cases huso
    | some x =>
      obtain ⟨ptr, p⟩ := x
      obtain ⟨hp, hno⟩ := h.enUso_iff.mp huso
      refine da_rellena (length_colasPedidas h queueId ptr).symm (nodup_colasPedidas queueId ptr)
        fun c => (mem_colasPedidas h queueId ptr).trans ?_
      constructor
      · rintro ⟨rfl, p', q, hp', hq, hid⟩
        cases hp.symm.trans hp'
        exact ⟨p, q, hp, hq, hno, hid⟩
      · rintro ⟨p', q, hp', hq, hno', hid⟩
        cases huso.symm.trans (h.enUso_iff.mpr ⟨hp', hno'⟩)
        exact ⟨rfl, p, q, hp, hq, hid⟩

end Puertos

/-- The counters the handlers rely on are right. -/
structure Bien (d : Dp Mt Action MeterBand) (s : Puertos) : Prop where
  grupos : d.groups.Numera limitesGrupos
  metros : d.meters.Numera limitesMetros
  puertos : s.Sana

section Todas

variable {d : Dp Mt Action MeterBand} {s : Puertos} {ordenG ordenM : List Nat}
  {req : StatsRequest} {r : Respuesta Objeto}

/-- **The slots of a reply**: each is assigned once, and they hold what was asked for. -/
theorem statsRequest_da (h : Bien d s) (hG : ordenG.Perm d.groups.ids)
    (hM : ordenM.Perm d.meters.ids) (hr : statsRequest d s ordenG ordenM req = .ok r) :
    r.Da (Pedido d s req) := by
  cases req with
  | group id =>
    obtain ⟨r', hr', rfl⟩ := Dp.of_map_eq_ok hr
    refine ((RefTable.da_handleStatsRequest h.grupos hG hr').map fun _ _ => Objeto.grupo.inj).congr
      fun o => ?_
    cases o <;> simp [Pedido]
  | groupDesc =>
    cases hr
    refine ((RefTable.da_replyTodas h.grupos hG).map fun _ _ => Objeto.grupo.inj).congr fun o => ?_
    cases o <;> simp [Pedido]
  | meter id =>
    obtain ⟨r', hr', rfl⟩ := Dp.of_map_eq_ok hr
    refine ((RefTable.da_handleStatsRequest h.metros hM hr').map fun _ _ => Objeto.metro.inj).congr
      fun o => ?_
    cases o <;> simp [Pedido]
  | meterConfig id =>
    obtain ⟨r', hr', rfl⟩ := Dp.of_map_eq_ok hr
    refine ((da_meterConf h.metros hM hr').1.map fun _ _ => Objeto.metro.inj).congr fun o => ?_
    cases o <;> simp [Pedido]
  | port portNo =>
    cases hr
    refine ((Puertos.da_port h.puertos portNo).map fun _ _ => Objeto.puerto.inj).congr fun o => ?_
    cases o <;> simp [Pedido]
  | portDesc =>
    cases hr
    refine ((Puertos.da_portList h.puertos).map fun _ _ => Objeto.puerto.inj).congr fun o => ?_
    cases o <;> simp [Pedido]
  | queue portNo queueId =>
    cases hr
    refine ((Puertos.da_queue h.puertos portNo queueId).map fun _ _ => Objeto.cola.inj).congr
      fun o => ?_
    cases o <;> simp [Pedido]

/-- The configuration of one meter is asked for, and there is not exactly one. -/
def CuentaDeMas (d : Dp Mt Action MeterBand) : StatsRequest → Prop
  | .meterConfig id => id ≠ ofpmAll ∧ d.meters.entries.length ≠ 1
  | _ => False

/-- **`stats_num`** is the number of slots, but for the configuration of one meter. -/
theorem statsRequest_statsNum (h : Bien d s) (hM : ordenM.Perm d.meters.ids)
    (hr : statsRequest d s ordenG ordenM req = .ok r) :
    r.statsNum = r.huecos ↔ ¬CuentaDeMas d req := by
  cases req with
  | group id =>
    obtain ⟨r', hr', rfl⟩ := Dp.of_map_eq_ok hr
    exact iff_of_true (RefTable.statsNum_handleStatsRequest hr') not_false
  | meter id =>
    obtain ⟨r', hr', rfl⟩ := Dp.of_map_eq_ok hr
    exact iff_of_true (RefTable.statsNum_handleStatsRequest hr') not_false
  | meterConfig id =>
    obtain ⟨r', hr', rfl⟩ := Dp.of_map_eq_ok hr
    refine (da_meterConf h.metros hM hr').2.trans ?_
    unfold CuentaDeMas
    tauto
  | groupDesc =>
    cases hr
    exact iff_of_true rfl not_false
  | port portNo =>
    cases hr
    exact iff_of_true (Puertos.statsNum_port portNo) not_false
  | portDesc =>
    cases hr
    exact iff_of_true rfl not_false
  | queue portNo queueId =>
    cases hr
    exact iff_of_true (Puertos.statsNum_queue portNo queueId) not_false

end Todas

end TcpPath.Udatapath
