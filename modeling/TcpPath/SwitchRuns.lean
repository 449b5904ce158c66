/-
  Subject:   Runs of one switch: any frames through `pipeline_process_Uah`, any cleanups, a clock
             that does not go back.

  Results:   `maquina_unico_live`: a live entry is the first of its MAC;
             `maquina_tcp_key_unique`: at most one entry for a 4-tuple;
             `arpPath_lock`: a flood from another port than the live one is discarded.
-/
import TcpPath.Calls
import TcpPath.Util.Runs

namespace TcpPath

open Util

/-! ## 1. The calls that change the tables -/

/-- One call on `mac_port` while a frame is processed at `now`. -/
inductive MacCambio (now : Nat) : MacTable → MacTable → Prop where
  | found (t : MacTable) (mac : EthAddr) : MacCambio now t (macToPortFoundPort t mac now).2
  | learn (t : MacTable) (mac : EthAddr) (portIn time vecino : Nat)
      (h : (macToPortFoundPort t mac now).1 = none) :
      MacCambio now t (macToPortAddArpTable t mac portIn time vecino now)
  | update (t : MacTable) (mac : EthAddr) (portIn time : Nat) :
      MacCambio now t (macToPortUpdate t mac portIn time now).2
  | refresh (t : MacTable) (mac : EthAddr) (time : Nat) :
      MacCambio now t (macToPortTimeRefresh t mac time now)
  | deletePort (t : MacTable) (port : Nat) : MacCambio now t (macToPortDeletePort t port)

/-- One call on `tcp_table` while a frame is processed at `now`. -/
inductive TcpCambio (now : Nat) : TcpTable → TcpTable → Prop where
  | add (t : TcpTable) (key : CmpTableTcp) (inPort : Nat)
      (h : tableTcpFoundPortIn t key = none) :
      TcpCambio now t (tableTcpAdd t key inPort tcpTime now)
  | updateTime (t : TcpTable) (key : CmpTableTcp) :
      TcpCambio now t (tableTcpUpdateTime t key tcpTime now)
  | updatePort (t : TcpTable) (key : CmpTableTcp) (inPort : Nat) :
      TcpCambio now t (tableTcpUpdatePort t key inPort tcpTime now).2
  | found (t : TcpTable) (key : CmpTableTcp) : TcpCambio now t (tableTcpFoundPort t key).2

/-- Both tables change by such calls. -/
structure Cambia (now : Nat) (s s' : Switch) : Prop where
  mac : Relation.ReflTransGen (MacCambio now) s.macPort s'.macPort
  tcp : Relation.ReflTransGen (TcpCambio now) s.tcpTable s'.tcpTable

/-! ## 2. A frame changes the tables by such calls -/

section Pipeline

variable {n : Nodo} {nt : MacTable} {now : Nat} {s s' : Switch} {pkt : Packet} {t t' : MacTable}

theorem Origen.cambios (h : Origen n nt now pkt t t') :
    Relation.ReflTransGen (MacCambio now) t t' := by
  cases h with
  | busca => exact .single (.found _ _)
  | aprende time _ hnone => exact .single (.learn _ _ _ _ _ hnone)
  | renueva time _ => exact .tail (.single (.found _ _)) (.refresh _ _ _)
  | mueve time _ => exact .tail (.single (.found _ _)) (.update _ _ _ _)

theorem Destino.cambio (h : Destino n now t t') : MacCambio now t t' := by
  cases h with
  | busca mac => exact .found _ _
  | renueva mac time _ => exact .refresh _ _ _
  | borra port _ => exact .deletePort _ _

theorem MacLlamada.cambios (h : MacLlamada n nt now pkt t t') :
    Relation.ReflTransGen (MacCambio now) t t' := by
  cases h with
  | origen _ h => exact h.cambios
  | destino h => exact .single h.cambio
  | tcp _ _ _ _ => exact .single (.refresh _ _ _)

theorem TcpLlamada.cambio {parse : Parser} {t t' : TcpTable} (h : TcpLlamada parse now pkt t t') :
    TcpCambio now t t' := by
  cases h with
  | add _ _ hnone => exact .add _ _ _ hnone
  | updateTime key => exact .updateTime _ _
  | updatePort _ _ => exact .updatePort _ _ _
  | found key => exact .found _ _

theorem Llama.cambia (h : Llama n now pkt s s') : Cambia now s s' :=
  ⟨Relation.ReflTransGen.lift' id (fun _ _ hm => MacLlamada.cambios hm) _ _ h.mac,
    Relation.ReflTransGen.mono (fun _ _ ht => TcpLlamada.cambio ht) _ _ h.tcp⟩

/-- **A frame changes the tables by guarded calls only**, in every configuration and whatever the
    flow tables do. -/
theorem pipelineProcessUah_cambia {tablas : Tablas} {r : Switch × List Efecto}
    (h : pipelineProcessUah n now tablas s pkt = some r) : Cambia now s r.1 := by
  rcases pipelineProcessUah_llama h with ⟨_, _, hr⟩ | ⟨_, f, _, hf, _⟩
  · rw [hr]
    exact ⟨.refl, .refl⟩
  · exact hf.cambia

end Pipeline

/-! ## 3. Runs -/

/-- A switch and its clock. -/
structure Maquina where
  sw : Switch
  now : Nat

inductive Suceso where
  | trama (tablas : Tablas) (pkt : Packet) (now : Nat)
  | macDeleteTimeout (now : Nat)
  | tcpDeleteTimeout (now : Nat)
  | reloj (now : Nat)

/-- One event at a clock reading that is not earlier than the last. -/
def Maquina.paso (n : Nodo) (m : Maquina) : Suceso → Option Maquina
  | .trama tablas pkt now =>
      if m.now ≤ now then (pipelineProcessUah n now tablas m.sw pkt).map fun r => ⟨r.1, now⟩
      else none
  | .macDeleteTimeout now =>
      if m.now ≤ now then
        (macToPortDeleteTimeout m.sw.macPort now).map fun t => ⟨{ m.sw with macPort := t }, now⟩
      else none
  | .tcpDeleteTimeout now =>
      if m.now ≤ now then
        some ⟨{ m.sw with tcpTable := tableTcpDeleteTimeout m.sw.tcpTable now }, now⟩
      else none
  | .reloj now => if m.now ≤ now then some ⟨m.sw, now⟩ else none

/-- The states of a switch after any sequence of events. -/
def Maquina.Alcanzable (n : Nodo) (m : Maquina) : Prop :=
  Run (Maquina.paso n) (fun _ _ => True) ⟨Switch.inicial, 0⟩ m

/-- The frames of an event that the pipeline may learn from. -/
def Suceso.tramas : Suceso → List Packet
  | trama tablas pkt _ => TcpPath.tramas tablas pkt
  | _ => []

variable {n : Nodo} {m m' : Maquina} {e : Suceso} {now : Nat} {t t' : TcpTable}

/-- **What an event does**: the clock advances; a frame goes through the pipeline, and nothing else
    brings an entry into a table. -/
theorem Maquina.paso_cases (h : m.paso n e = some m') :
    m.now ≤ m'.now ∧
      ((∃ tablas pkt r, e = .trama tablas pkt m'.now ∧
          pipelineProcessUah n m'.now tablas m.sw pkt = some r ∧ m'.sw = r.1) ∨
        (e.tramas = [] ∧ m'.sw.macPort.Sublist m.sw.macPort ∧
          m'.sw.tcpTable.Sublist m.sw.tcpTable ∧
          m'.sw.neighborTable = m.sw.neighborTable)) := by
  cases e with
  | trama tablas pkt now =>
    rw [paso] at h
    split at h
    · rename_i hle
      obtain ⟨r, hr, rfl⟩ := Option.map_eq_some_iff.mp h
      exact ⟨hle, .inl ⟨tablas, pkt, r, rfl, hr, rfl⟩⟩
    · cases h
  | macDeleteTimeout now =>
    rw [paso] at h
    split at h
    · rename_i hle
      obtain ⟨t, ht, rfl⟩ := Option.map_eq_some_iff.mp h
      exact ⟨hle, .inr ⟨rfl, macToPortDeleteTimeout_sublist ht, .refl _, rfl⟩⟩
    · cases h
  | tcpDeleteTimeout now =>
    rw [paso] at h
    split at h
    · rename_i hle
      cases h
      exact ⟨hle, .inr ⟨rfl, .refl _, deleteFrom_sublist _ _, rfl⟩⟩
    · cases h
  | reloj now =>
    rw [paso] at h
    split at h
    · rename_i hle
      cases h
      exact ⟨hle, .inr ⟨rfl, .refl _, .refl _, rfl⟩⟩
    · cases h

/-! A switch with two ports, as an example for the results below. -/

def dosPuertos : Datapath where
  id := 1
  ports := [⟨0, false⟩, ⟨0, false⟩]
  localPort := none
  matrizBc := List.replicate 16 [0, 1]
  fits := by decide
  gen := ⟨(List.replicate 16 [0, 1]).flatten, by decide⟩

/-- A broadcast frame from the address 00:00:00:00:00:`x` with the given `eth_type` bytes. -/
def tramaDe (x t0 t1 : UInt8) (puerto : Nat) : Packet :=
  packetCreate decodifica puerto
    [0xff, 0xff, 0xff, 0xff, 0xff, 0xff, 0, 0, 0, 0, 0, x, t0, t1]

/-- A hello frame on port 1, a broadcast of `7` on port 1 at 0, another on port 2 at 20 s, when the
    first entry has expired. -/
def reaprende : List Suceso :=
  [.trama sinTablas (tramaDe 9 0x76 0x98 1) 0, .trama sinTablas (tramaDe 7 0x88 0xb5 1) 0,
    .trama sinTablas (tramaDe 7 0x88 0xb5 2) 20000]

theorem Maquina.alcanzable_of_exec {es : List Suceso}
    (h : exec (Maquina.paso n) (fun _ _ => True) es ⟨Switch.inicial, 0⟩ = some m) :
    m.Alcanzable n :=
  Run.of_exec h

/-! ## 4. One live entry per MAC, and it comes first -/

theorem MacCambio.unico {t t' : MacTable} (h : MacCambio now t t') (hu : Unico now t) :
    Unico now t' := by
  cases h with
  | found mac => exact hu.found mac
  | learn mac portIn time vecino hnone => exact hu.learn portIn time vecino hnone
  | update mac portIn time => exact hu.modify fun _ => rfl
  | refresh mac time => exact hu.modify fun _ => rfl
  | deletePort port => exact hu.sublist (macToPortDeletePort_sublist t port)

theorem macCambios_unico {t t' : MacTable} (h : Relation.ReflTransGen (MacCambio now) t t')
    (hu : Unico now t) : Unico now t' := by
  induction h with
  | refl => exact hu
  | tail _ hc ih => exact hc.unico ih

theorem Maquina.paso_unico (h : m.paso n e = some m') (hu : Unico m.now m.sw.macPort) :
    Unico m'.now m'.sw.macPort := by
  obtain ⟨hle, ⟨tablas, pkt, r, _, hr, hsw⟩ | ⟨_, hsub, _, _⟩⟩ := paso_cases h
  · rw [hsw]
    exact macCambios_unico (pipelineProcessUah_cambia hr).mac (hu.advance hle)
  · exact (hu.advance hle).sublist hsub

theorem Maquina.alcanzable_unico (h : m.Alcanzable n) : Unico m.now m.sw.macPort := by
  have h0 : Unico 0 Switch.inicial.macPort := List.Pairwise.nil
  exact Run.invariant (I := fun m : Maquina => Unico m.now m.sw.macPort) h h0
    fun _ _ _ hu _ hs => paso_unico hs hu

/-- **Along every run of the switch** a live entry is the first entry of its MAC, and every other
    entry of that MAC is not live. -/
theorem maquina_unico_live {n : Nodo} {m : Maquina} (h : m.Alcanzable n) {i j : Nat}
    {e e' : MacPortTime} (hi : m.sw.macPort[i]? = some e) (hj : m.sw.macPort[j]? = some e')
    (hmac : e'.mac = e.mac) (hlive : e.live m.now = true) (hij : i ≠ j) :
    i < j ∧ e'.live m.now = false := by
  have hu := Maquina.alcanzable_unico h
  have hpair : ∀ {a b : Nat} {x y : MacPortTime}, m.sw.macPort[a]? = some x →
      m.sw.macPort[b]? = some y → a < b → x.mac = y.mac → y.live m.now = false := by
    intro a b x y ha hb hab
    obtain ⟨ha', rfl⟩ := List.getElem?_eq_some_iff.mp ha
    obtain ⟨hb', rfl⟩ := List.getElem?_eq_some_iff.mp hb
    exact List.pairwise_iff_getElem.mp hu a b ha' hb' hab
  rcases Nat.lt_or_gt_of_ne hij with hlt | hgt
  · exact ⟨hlt, hpair hi hj hlt hmac.symm⟩
  · have hdead := hpair hj hi hgt hmac
    rw [hlive] at hdead
    cases hdead

/-- After a MAC was learned again behind another port, its old entry is still there, behind the
    live one. -/
theorem maquina_unico_live_reaprende :
    ∃ m : Maquina, m.Alcanzable ⟨decodifica, ⟨0, false⟩, dosPuertos⟩ ∧ ∃ e e',
      m.sw.macPort[0]? = some e ∧ m.sw.macPort[1]? = some e' ∧ e.live m.now = true ∧
      e.portIn = 2 ∧ e'.portIn = 1 ∧ e'.mac = e.mac ∧ (0 < 1 ∧ e'.live m.now = false) := by
  have hrun : exec (Maquina.paso ⟨decodifica, ⟨0, false⟩, dosPuertos⟩) (fun _ _ => True)
      reaprende ⟨Switch.inicial, 0⟩ = some _ := rfl
  have h := Maquina.alcanzable_of_exec hrun
  refine ⟨_, h, _, _, rfl, rfl, by decide, by decide, by decide, by decide, ?_⟩
  exact maquina_unico_live h (i := 0) (j := 1) rfl rfl (by decide) (by decide) (by decide)

/-! ## 5. The lock -/

/-- **The lock**: a broadcast or multicast frame whose source is live on another port is discarded,
and the table keeps its entries. -/
theorem arpPath_lock {n : Nodo} {m : Maquina} (h : m.Alcanzable n) {e : MacPortTime}
    (he : e ∈ m.sw.macPort) (hlive : e.live m.now = true) {pkt : Packet}
    (hsrc : pkt.ethSrc = e.mac) (hflood : pkt.isFlooded = true) (hport : pkt.inPort ≠ e.portIn) :
    ∃ s', pipelineArpPath n m.now m.sw pkt = some (s', [.packetDestroy]) ∧
      s'.macPort.Perm m.sw.macPort ∧ s' = { m.sw with macPort := s'.macPort } := by
  have hu := Maquina.alcanzable_unico h
  set t := (macToPortFoundPort m.sw.macPort pkt.ethSrc m.now).2 with ht
  have hperm : t.Perm m.sw.macPort := toFront_perm _ _ _
  have hfound : (macToPortFoundPort m.sw.macPort pkt.ethSrc m.now).1 = some e.portIn := by
    rw [hsrc]
    exact hu.foundPort_of_live he hlive
  -- the entry is also the one `mac_to_port_check_timeout` reads
  have hcheck : macToPortCheckTimeout t pkt.ethSrc m.now = 0 := by
    have hfirst := (hu.found pkt.ethSrc).find?_of_live (hperm.mem_iff.mpr he) hlive
    unfold macToPortCheckTimeout
    rw [hsrc, hfirst]
    exact if_neg (by rw [MacPortTime.not_expired_of_live hlive]; exact Bool.false_ne_true)
  have hdiscard : aprendeInundado m.now { m.sw with macPort := t } pkt (some e.portIn) = none := by
    unfold aprendeInundado
    rw [if_neg (by simp), if_neg (by simpa using hport.symm), if_neg (by simpa using hcheck)]
  refine ⟨{ m.sw with macPort := t }, ?_, hperm, rfl⟩
  unfold pipelineArpPath
  dsimp only
  rw [if_pos hflood, hfound, hdiscard]

theorem arpPath_lock_dosPuertos :
    ∃ m : Maquina, m.Alcanzable ⟨decodifica, ⟨0, false⟩, dosPuertos⟩ ∧ m.sw.macPort.length = 1 ∧
      ∃ s', pipelineArpPath ⟨decodifica, ⟨0, false⟩, dosPuertos⟩ m.now m.sw
          (tramaDe 7 0x88 0xb5 2) = some (s', [.packetDestroy]) ∧
        s'.macPort.Perm m.sw.macPort ∧ s' = { m.sw with macPort := s'.macPort } := by
  have hrun : exec (Maquina.paso ⟨decodifica, ⟨0, false⟩, dosPuertos⟩) (fun _ _ => True)
      [.trama sinTablas (tramaDe 7 0x88 0xb5 1) 0, .reloj 12] ⟨Switch.inicial, 0⟩ = some _ := rfl
  have h := Maquina.alcanzable_of_exec hrun
  refine ⟨_, h, rfl, ?_⟩
  exact arpPath_lock h List.mem_cons_self (by decide) (by decide) (by decide) (by decide)

/-! ## 6. One TCP entry per directed 4-tuple -/

theorem TcpCambio.nodup (h : TcpCambio now t t') (hn : (t.map (·.key)).Nodup) :
    (t'.map (·.key)).Nodup := by
  cases h with
  | add key inPort hnone =>
    refine List.nodup_cons.mpr ⟨fun hmem => ?_, hn⟩
    obtain ⟨e, he, hkey⟩ := List.mem_map.mp hmem
    have hno := List.find?_eq_none.mp (Option.map_eq_none_iff.mp hnone) e he
    exact hno (decide_eq_true hkey)
  | updateTime key =>
    unfold tableTcpUpdateTime
    rw [map_key_modify]
    · exact hn
    · exact fun _ => rfl
  | updatePort key inPort =>
    unfold tableTcpUpdatePort
    rw [map_key_modify]
    · exact hn
    · exact fun _ => rfl
  | found key => exact ((toFront_perm _ _ _).map _).nodup_iff.mpr hn

theorem tcpCambios_nodup (h : Relation.ReflTransGen (TcpCambio now) t t')
    (hn : (t.map (·.key)).Nodup) : (t'.map (·.key)).Nodup := by
  induction h with
  | refl => exact hn
  | tail _ hc ih => exact hc.nodup ih

/-- **Along every run of the switch** the TCP table has at most one entry for a directed
    4-tuple. -/
theorem maquina_tcp_key_unique {n : Nodo} {m : Maquina} (h : m.Alcanzable n) :
    (m.sw.tcpTable.map (·.key)).Nodup := by
  have h0 : (Switch.inicial.tcpTable.map (·.key)).Nodup := List.nodup_nil
  refine Run.invariant (I := fun m : Maquina => (m.sw.tcpTable.map (·.key)).Nodup) h h0 ?_
  intro m e m' hn _ hs
  obtain ⟨_, ⟨tablas, pkt, r, _, hr, hsw⟩ | ⟨_, _, hsub, _⟩⟩ := Maquina.paso_cases hs
  · rw [hsw]
    exact tcpCambios_nodup (pipelineProcessUah_cambia hr).tcp hn
  · exact (hsub.map _).nodup hn

/-- A SYN of 54 bytes from 00:00:00:00:00:01 to 00:00:00:00:00:02 received on `puerto`. -/
def synDe (puerto : Nat) : Packet :=
  packetCreate decodifica puerto
    ([0, 0, 0, 0, 0, 2, 0, 0, 0, 0, 0, 1, 8, 0, 0x45] ++ List.replicate 7 0 ++ [64, 6] ++
      List.replicate 10 0 ++ [0x10, 0x20, 0, 80] ++ List.replicate 9 0 ++ [2] ++
      List.replicate 6 0)

theorem maquina_tcp_key_unique_syn :
    ∃ m : Maquina, m.Alcanzable ⟨decodifica, ⟨1, false⟩, dosPuertos⟩ ∧ m.sw.tcpTable.length = 1 ∧
      (m.sw.tcpTable.map (·.key)).Nodup := by
  have hrun : exec (Maquina.paso ⟨decodifica, ⟨1, false⟩, dosPuertos⟩) (fun _ _ => True)
      [.trama sinTablas (synDe 1) 0, .trama sinTablas (synDe 2) 1, .trama sinTablas (synDe 1) 2]
      ⟨Switch.inicial, 0⟩ = some _ := rfl
  have h := Maquina.alcanzable_of_exec hrun
  exact ⟨_, h, rfl, maquina_tcp_key_unique h⟩

end TcpPath
