/-
  Subject:   How long the entries of the ns-3 switch live: the times `LearnUpdateArpTable` writes,
             and what the timers leave of the tables.

  A lock (`m_ArpBlock`) is for the broadcast of an ARP request, a lease (`m_ArpExpire`) for a path
  that was confirmed. The test that tells them apart is `iD==ARP_REQ || ETH_BROAD`, which is true
  of every packet.

  Results:   `learnUpdateArpTable_period_iff`: when the time asked for is written;
             `cleanup_is_filter`: cleaning leaves the entries in force;
             `lifetimes_bounded`: an entry is cleaned within one period of its end;
             `device_kept`: an address keeps its device until it is cleaned.
-/
import TcpPath.Tfe.Invariants

namespace TcpPath.Tfe

open Util TcpPath.Tfe.Estado

variable {D : Type}

/-! ## 1. Locks and leases -/

/-- The time an entry learned from a packet of the given kind should have: a lock for an ARP
    request or another broadcast, a lease for the others. -/
def periodoDebido (cfg : Config D) (now : Time) (iD : PossiblePackets) : Time :=
  if iD = .arpReq ∨ iD = .ethBroad then now + cfg.arpBlock else now + cfg.arpExpire

theorem periodoArp_eq_debido_iff (cfg : Config D) (now : Time) (iD : PossiblePackets) :
    periodoArp cfg now iD = periodoDebido cfg now iD ↔
      iD = .arpReq ∨ iD = .ethBroad ∨ cfg.arpBlock = cfg.arpExpire := by
  rw [periodoArp_eq, periodoDebido]
  split <;> rename_i h
  · exact ⟨fun _ => h.imp_right .inl, fun _ => rfl⟩
  · rw [add_right_inj]
    exact ⟨fun he => .inr (.inr he), fun he => (or_assoc.mpr he).resolve_left h⟩

variable [DecidableEq D]

/-- The entry `LearnUpdateArpTable` makes for an address without one. -/
def entradaNueva (cfg : Config D) (now : Time) (source : EthAddr) (port : Option D)
    (s : Estado D) : ArpEntry D :=
  ⟨source, port, !s.searchEntryHelloTable port, now + cfg.arpBlock⟩

/-- **What `LearnUpdateArpTable` writes.** The first entry of the address, or a new one, gets the
time of a lock; nothing else changes. That is the time asked for exactly if a lock is, or if locks
and leases are equally long. -/
theorem learnUpdateArpTable_period_iff (cfg : Config D) (now : Time) (source : EthAddr)
    (port : Option D) (iD : PossiblePackets) (s : Estado D) :
    (∀ e, s.arpTable.find? (fun e => decide (e.macAddr = source)) = some e →
      ∃ pre post, s.arpTable = pre ++ e :: post ∧
        s.learnUpdateArpTable cfg now source port iD =
          { s with arpTable := pre ++ { e with validPeriod := now + cfg.arpBlock } :: post }) ∧
    (s.arpTable.find? (fun e => decide (e.macAddr = source)) = none →
      s.learnUpdateArpTable cfg now source port iD =
        { s with arpTable := s.arpTable ++ [entradaNueva cfg now source port s] }) ∧
    ((∃ e, (s.learnUpdateArpTable cfg now source port iD).arpTable.find?
        (fun e => decide (e.macAddr = source)) = some e ∧
        e.validPeriod = periodoDebido cfg now iD) ↔
      iD = .arpReq ∨ iD = .ethBroad ∨ cfg.arpBlock = cfg.arpExpire) := by
  rw [← periodoArp_eq_debido_iff cfg now iD, periodoArp_eq]
  unfold learnUpdateArpTable
  simp only [periodoArp_eq]
  cases hf : s.arpTable.find? (fun e => decide (e.macAddr = source)) with
  | none =>
    have hno : ∀ e ∈ s.arpTable, decide (e.macAddr = source) = false :=
      fun e he => Bool.eq_false_iff.mpr (List.find?_eq_none.mp hf e he)
    rw [upsert_of_not hno]
    refine ⟨by simp, fun _ => rfl, ?_⟩
    rw [List.find?_append, hf]
    simp
  | some e =>
    obtain ⟨hk, pre, post, hsplit, hpre⟩ := List.find?_eq_some_iff_append.mp hf
    have hpre' : ∀ x ∈ pre, decide (x.macAddr = source) = false :=
      fun x hx => Bool.not_eq_true' _ ▸ hpre x hx
    rw [upsert_of_mem (List.mem_of_find?_eq_some hf) hk, hsplit, modifyFirst_append hpre' hk]
    refine ⟨fun e' he' => ?_, by simp, ?_⟩
    · cases he'
      exact ⟨pre, post, rfl, rfl⟩
    · have hnone : pre.find? (fun e => decide (e.macAddr = source)) = none :=
        List.find?_eq_none.mpr fun x hx => by simp [hpre' x hx]
      rw [List.find?_append, hnone, Option.none_or, List.find?_cons_of_pos (by exact hk)]
      simp

/-- An ARP reply of station 1 is learned with the three seconds of a lock, not the ten of a
    lease. -/
theorem learnUpdateArpTable_period_fails :
    ∃ e, ((⟨[], [], [], 0, 0⟩ : Estado Nat).learnUpdateArpTable nucleoNs3 0 (estacion 1) (some 20)
        .arpRep).arpTable = [e] ∧ e.macAddr = estacion 1 ∧ e.validPeriod = 3000000000 ∧
      periodoDebido nucleoNs3 0 .arpRep = 10000000000 :=
  ⟨_, rfl, rfl, rfl, rfl⟩

/-! ## 2. The timers -/

omit [DecidableEq D] in
/-- **Cleaning is filtering**: the loops of `CleanTcpTable`, of `CleanArpTable` without `MOBILITY`
and of `SendPeriodicHello` end and leave, in their order, the entries in force (and those of
neighbours). -/
theorem cleanup_is_filter (cfg : Config D) (now : Time) (s : Estado D) :
    s.cleanTcpTable now = some { s with
      tcpTable := s.tcpTable.filter fun e => decide (e.validPeriod ≥ now) } ∧
    s.cleanArpTable { cfg with mobility := false } now = some { s with
      arpTable := s.arpTable.filter fun e => decide (e.validPeriod ≥ now) || e.neighbour } ∧
    s.cleanNeighbour now = some { s with
      neighbour := s.neighbour.filter fun e => decide (e.period ≥ now) } := by
  have hle : ∀ p : Time, (!decide (p < now)) = decide (p ≥ now) := by
    intro p
    rw [Bool.eq_iff_iff]
    simp
  refine ⟨?_, ?_, ?_⟩
  · rw [cleanTcpTable_eq]
    simp only [hle]
  · rw [cleanArpTable_eq]
    simp only [Bool.false_or, Bool.not_and, Bool.not_not, hle]
  · rw [cleanNeighbour_eq]
    simp only [hle]

/-! ## 3. Lifetimes over runs -/

/-- What a frame at `now` leaves in the tables: entries that were there, and entries with a new
    time. -/
structure Renueva (cfg : Config D) (now : Time) (s s' : Estado D) : Prop where
  arp : ∀ e ∈ s'.arpTable, e ∈ s.arpTable ∨ e.validPeriod = now + cfg.arpBlock ∨
    e.validPeriod = now + cfg.arpExpire
  tcp : ∀ e ∈ s'.tcpTable, e ∈ s.tcpTable ∨ e.validPeriod = now + cfg.tcpExpire
  neighbour : ∀ e ∈ s'.neighbour, e ∈ s.neighbour ∨ e.period = now + cfg.helloPeriod

section Renueva

variable {cfg : Config D} {now : Time} {t : Trama D} {syn : Prop} {s s' : Estado D}

omit [DecidableEq D] in
theorem Renueva.refl (s : Estado D) : Renueva cfg now s s :=
  ⟨fun _ h => .inl h, fun _ h => .inl h, fun _ h => .inl h⟩

omit [DecidableEq D] in
theorem Renueva.trans {u : Estado D} (h : Renueva cfg now s u) (h' : Renueva cfg now u s') :
    Renueva cfg now s s' where
  arp e he := (h'.arp e he).elim (h.arp e) .inr
  tcp e he := (h'.tcp e he).elim (h.tcp e) .inr
  neighbour e he := (h'.neighbour e he).elim (h.neighbour e) .inr

theorem renueva_learnUpdateArpTable (addr : EthAddr) (port : Option D) (iD : PossiblePackets) :
    Renueva cfg now s (s.learnUpdateArpTable cfg now addr port iD) := by
  refine ⟨fun e he => ?_, fun _ h => .inl h, fun _ h => .inl h⟩
  rcases mem_upsert he with h | ⟨x, -, -, rfl⟩ | ⟨rfl, -⟩
  · exact .inl h
  · exact .inr (.inl (periodoArp_eq ..))
  · exact .inr (.inl (periodoArp_eq ..))

omit [DecidableEq D] in
theorem renueva_learnUpdateTcpTable (src dst : EthAddr) (p : D) (iD : PossiblePackets) :
    Renueva cfg now s (s.learnUpdateTcpTable cfg now src dst p iD) := by
  refine ⟨fun e he => .inl (learnUpdateTcpTable_arp .. ▸ he), fun e he => ?_,
    fun e he => .inl (learnUpdateTcpTable_neighbour .. ▸ he)⟩
  unfold learnUpdateTcpTable at he
  split at he
  · rcases mem_upsert he with h | ⟨x, -, -, rfl⟩ | ⟨rfl, -⟩
    · exact .inl h
    · exact .inr rfl
    · exact .inr rfl
  · obtain ⟨x, hx, rfl⟩ := List.mem_map.mp he
    unfold renuevaTcp
    dsimp only
    split_ifs <;> first | exact .inr rfl | exact .inl hx

theorem Cambio.plazos (h : Cambio cfg now t syn s s') : Renueva cfg now s s' := by
  cases h with
  | puertos => exact ⟨fun _ h => .inl h, fun _ h => .inl h, fun _ h => .inl h⟩
  | hello =>
    refine ⟨fun _ h => .inl h, fun _ h => .inl h, fun e he => ?_⟩
    rcases mem_upsert he with h | ⟨x, -, -, rfl⟩ | ⟨rfl, -⟩
    · exact .inl h
    · exact .inr rfl
    · exact .inr rfl
  | fuente iD => exact renueva_learnUpdateArpTable ..
  | conocido addr port iD _ => exact renueva_learnUpdateArpTable ..
  | synAck iD _ => exact renueva_learnUpdateArpTable ..
  | renueva =>
    unfold updateNeighbourArpTable
    split
    · refine ⟨fun e he => ?_, fun _ h => .inl h, fun _ h => .inl h⟩
      rcases mem_modifyFirst he with h | ⟨x, -, rfl⟩
      · exact .inl h
      · exact .inr (.inr rfl)
    · exact .refl s
  | tcp dst iD => exact renueva_learnUpdateTcpTable ..

theorem cambios_renueva (h : Relation.ReflTransGen (Cambio cfg now t syn) s s') :
    Renueva cfg now s s' := by
  induction h with
  | refl => exact .refl s
  | tail _ hc ih => exact ih.trans hc.plazos

end Renueva

/-- **The invariant of the times.** Each timer is due within its period, and each entry ends no
    earlier than the last cleaning of its table, which was a period before the next, and no later
    than the longest time it can be given. -/
structure Plazos (cfg : Config D) (σ : Simulacion D) : Prop where
  hello : σ.ahora ≤ σ.proxHello ∧ σ.proxHello ≤ σ.ahora + cfg.helloPeriod
  proxTcp : σ.ahora ≤ σ.proxTcp ∧ σ.proxTcp ≤ σ.ahora + cfg.tcpExpire
  proxArp : σ.ahora ≤ σ.proxArp ∧ σ.proxArp ≤ σ.ahora + 10000000000
  arp : ∀ e ∈ σ.sw.arpTable, (cfg.mobility || !e.neighbour) = true →
    σ.proxArp ≤ e.validPeriod + 10000000000 ∧
      e.validPeriod ≤ σ.ahora + max cfg.arpBlock cfg.arpExpire
  tcp : ∀ e ∈ σ.sw.tcpTable,
    σ.proxTcp ≤ e.validPeriod + cfg.tcpExpire ∧ e.validPeriod ≤ σ.ahora + cfg.tcpExpire
  neighbour : ∀ e ∈ σ.sw.neighbour,
    σ.proxHello ≤ e.period + cfg.helloPeriod ∧ e.period ≤ σ.ahora + cfg.helloPeriod

/-- The times of a configuration are none that lie in the past; a hello period is not shorter than
    the time to the first hello. -/
structure Config.Tiempos (cfg : Config D) : Prop where
  hello : 1000 ≤ cfg.helloPeriod
  block : 0 ≤ cfg.arpBlock
  expire : 0 ≤ cfg.arpExpire
  tcp : 0 ≤ cfg.tcpExpire

section Plazos

variable {cfg : Config D} {c : Cabeceras} {σ σ' : Simulacion D} {e : Evento D}

omit [DecidableEq D] in
theorem plazos_construye (ht : cfg.Tiempos) (t0 : Time) (a b : UInt16) :
    Plazos cfg (construye t0 a b) := by
  have h1 := ht.hello
  have h2 := ht.tcp
  refine ⟨?_, ?_, ?_, by simp [construye], by simp [construye], by simp [construye]⟩ <;>
    dsimp only [construye] <;> constructor <;> linarith

omit [DecidableEq D] in
theorem Plazos.recibe (hp : Plazos cfg σ) (ht : cfg.Tiempos) {now : Time} {s' : Estado D}
    (h0 : σ.ahora ≤ now) (h1 : now ≤ σ.proxHello) (h2 : now ≤ σ.proxTcp) (h3 : now ≤ σ.proxArp)
    (hr : Renueva cfg now σ.sw s') : Plazos cfg { σ with sw := s', ahora := now } := by
  obtain ⟨⟨-, hhello⟩, ⟨-, hproxTcp⟩, ⟨-, hproxArp⟩, harp, htcp, hnei⟩ := hp
  obtain ⟨t1, t2, t3, t4⟩ := ht
  have hblock := le_max_left cfg.arpBlock cfg.arpExpire
  have hexpire := le_max_right cfg.arpBlock cfg.arpExpire
  refine ⟨⟨h1, by dsimp only; linarith⟩, ⟨h2, by dsimp only; linarith⟩,
    ⟨h3, by dsimp only; linarith⟩, fun e he hm => ?_, fun e he => ?_, fun e he => ?_⟩
  · rcases hr.arp e he with h | h | h
    · exact ⟨(harp e h hm).1, by dsimp only; linarith [(harp e h hm).2]⟩
    · dsimp only
      constructor <;> linarith
    · dsimp only
      constructor <;> linarith
  · rcases hr.tcp e he with h | h
    · exact ⟨(htcp e h).1, by dsimp only; linarith [(htcp e h).2]⟩
    · dsimp only
      constructor <;> linarith
  · rcases hr.neighbour e he with h | h
    · exact ⟨(hnei e h).1, by dsimp only; linarith [(hnei e h).2]⟩
    · dsimp only
      constructor <;> linarith

theorem paso_programa (h : paso cfg c σ e = some σ') :
    ∃ s envios, atiende cfg c σ.sw e = some (s, envios) ∧ σ' = programa cfg σ s e := by
  obtain ⟨⟨s, envios⟩, hat, h⟩ := Option.bind_eq_some_iff.mp h
  split at h
  · cases h
  · exact ⟨s, envios, hat, (Option.some.inj h).symm⟩

theorem Plazos.paso (hp : Plazos cfg σ) (ht : cfg.Tiempos) (hok : EnHora σ e)
    (h : Tfe.paso cfg c σ e = some σ') : Plazos cfg σ' := by
  obtain ⟨h0, h1, h2, h3, hdue⟩ := hok
  have hdespues := hp.recibe ht h0 h1 h2 h3 (.refl σ.sw)
  obtain ⟨hhello, hproxTcp, hproxArp, harp, htcp, hnei⟩ := hdespues
  obtain ⟨t1, t2, t3, t4⟩ := ht
  obtain ⟨now, suceso⟩ := e
  dsimp only at h0 h1 h2 h3 hhello hproxTcp hproxArp harp htcp hnei
  obtain ⟨s', envios, hat, rfl⟩ := paso_programa h
  cases suceso with
  | recibe t ind draws =>
    rcases paso_sw h with ⟨_, _, _, -, -, hc⟩ | ⟨hno, -⟩
    · exact hp.recibe ⟨t1, t2, t3, t4⟩ h0 h1 h2 h3 (cambios_renueva hc)
    · exact absurd rfl (hno t ind draws)
  | sendPeriodicHello =>
    simp only [atiende, cleanNeighbour_eq, Option.map_some] at hat
    cases hat
    have hprox : now ≤ now + cfg.helloPeriod := by linarith
    refine ⟨⟨hprox, le_rfl⟩, hproxTcp, hproxArp, harp, htcp, fun e he => ?_⟩
    obtain ⟨he, hle⟩ := List.mem_filter.mp he
    have hge : now ≤ e.period := by simpa using hle
    exact ⟨by dsimp only [programa]; linarith, (hnei e he).2⟩
  | cleanTcpTable =>
    simp only [atiende, cleanTcpTable_eq, Option.map_some] at hat
    cases hat
    have hprox : now ≤ now + cfg.tcpExpire := by linarith
    refine ⟨hhello, ⟨hprox, le_rfl⟩, hproxArp, harp, fun e he => ?_, hnei⟩
    obtain ⟨he, hle⟩ := List.mem_filter.mp he
    have hge : now ≤ e.validPeriod := by simpa using hle
    exact ⟨by dsimp only [programa]; linarith, (htcp e he).2⟩
  | cleanArpTable =>
    simp only [atiende, cleanArpTable_eq, Option.map_some] at hat
    cases hat
    have hprox : now ≤ now + 10000000000 := by linarith
    refine ⟨hhello, hproxTcp, ⟨hprox, le_rfl⟩, fun e he hm => ?_, htcp, hnei⟩
    obtain ⟨he, hle⟩ := List.mem_filter.mp he
    have hge : now ≤ e.validPeriod := by simpa [hm] using hle
    exact ⟨by dsimp only [programa]; linarith, (harp e he hm).2⟩

end Plazos

/-- **Entries live as long as they should**, in every run in the simulator's order: at no time is an
    entry left that ended more than one cleaning period ago, and none is given more than the time
    of a lease. A switch that hears nothing has so forgotten all flows after twice `m_TcpExpire`,
    all neighbours after two hello periods, and all addresses (without `MOBILITY`: of stations that
    are no neighbours) ten seconds after the longer of its two times. -/
theorem lifetimes_bounded {cfg : Config D} (ht : cfg.Tiempos) (c : Cabeceras) {t0 : Time}
    {a b : UInt16} {σ : Simulacion D} (h : Run (paso cfg c) EnHora (construye t0 a b) σ) :
    (∀ e ∈ σ.sw.tcpTable, σ.ahora ≤ e.validPeriod + cfg.tcpExpire ∧
      e.validPeriod ≤ σ.ahora + cfg.tcpExpire) ∧
    (∀ e ∈ σ.sw.neighbour, σ.ahora ≤ e.period + cfg.helloPeriod ∧
      e.period ≤ σ.ahora + cfg.helloPeriod) ∧
    ∀ e ∈ σ.sw.arpTable, (cfg.mobility || !e.neighbour) = true →
      σ.ahora ≤ e.validPeriod + 10000000000 ∧
        e.validPeriod ≤ σ.ahora + max cfg.arpBlock cfg.arpExpire := by
  have hp : Plazos cfg σ := h.invariant (I := Plazos cfg) (plazos_construye ht t0 a b)
    fun _ _ _ hp hok hs => hp.paso ht hok hs
  refine ⟨fun e he => ?_, fun e he => ?_, fun e he hm => ?_⟩
  · exact ⟨hp.proxTcp.1.trans (hp.tcp e he).1, (hp.tcp e he).2⟩
  · exact ⟨hp.hello.1.trans (hp.neighbour e he).1, (hp.neighbour e he).2⟩
  · exact ⟨hp.proxArp.1.trans (hp.arp e he hm).1, (hp.arp e he hm).2⟩

/-- After `saludo` the entry of station 1 and that of its flow have three and ten seconds. -/
theorem lifetimes_bounded_saludo : ∃ σ,
    Run (paso nucleoNs3 cabecerasNs3) EnHora (construye 0 0 0) σ ∧
    σ.sw.arpTable.length = 1 ∧ (∀ e ∈ σ.sw.arpTable, σ.ahora ≤ e.validPeriod + 10000000000 ∧
      e.validPeriod ≤ σ.ahora + max nucleoNs3.arpBlock nucleoNs3.arpExpire) := by
  refine Run.exists_exec₁ saludo (by decide) fun σ h _ e he => ?_
  exact (lifetimes_bounded ⟨by decide, by decide, by decide, by decide⟩ cabecerasNs3 h).2.2 e he rfl

/-! ## 4. Stations that move -/

section Mueve

variable {cfg : Config D} {c : Cabeceras} {now : Time} {t : Trama D} {syn : Prop}
  {s s' : Estado D} {x : ArpEntry D} {σ σ' : Simulacion D} {e : Evento D}

def Queda (x : ArpEntry D) (s : Estado D) : Prop :=
  ∃ y ∈ s.arpTable, y.macAddr = x.macAddr ∧ y.outputDevice = x.outputDevice

theorem Cambio.queda (h : Cambio cfg now t syn s s') (hq : Queda x s) : Queda x s' := by
  obtain ⟨y, hy, hm, hd⟩ := hq
  have hlearn : ∀ addr port iD, Queda x (s.learnUpdateArpTable cfg now addr port iD) := by
    intro addr port iD
    have hex : ∃ z ∈ (s.learnUpdateArpTable cfg now addr port iD).arpTable,
        z.macAddr = y.macAddr ∧ z.outputDevice = y.outputDevice := exists_learnUpdateArpTable hy
    obtain ⟨z, hz, hzm, hzd⟩ := hex
    exact ⟨z, hz, hzm.trans hm, hzd.trans hd⟩
  cases h with
  | puertos => exact ⟨y, hy, hm, hd⟩
  | hello => exact ⟨y, hy, hm, hd⟩
  | fuente iD => exact hlearn ..
  | conocido addr port iD _ => exact hlearn ..
  | synAck iD _ => exact hlearn ..
  | renueva =>
    have hmem : (y.macAddr, y.outputDevice) ∈
        s.arpTable.map fun e => (e.macAddr, e.outputDevice) := List.mem_map_of_mem hy
    rw [← map_updateNeighbour (fun e => (e.macAddr, e.outputDevice)) (fun _ _ => rfl)
      t.incomingPort] at hmem
    obtain ⟨z, hz, hzy⟩ := List.mem_map.mp hmem
    simp only [Prod.mk.injEq] at hzy
    exact ⟨z, hz, hzy.1.trans hm, hzy.2.trans hd⟩
  | tcp dst iD =>
    unfold Queda
    rw [learnUpdateTcpTable_arp]
    exact ⟨y, hy, hm, hd⟩

theorem paso_queda (h : paso cfg c σ e = some σ') (he : e.suceso ≠ .cleanArpTable)
    (hq : Queda x σ.sw) : Queda x σ'.sw := by
  rcases paso_sw h with ⟨t, ind, draws, -, -, hc⟩ | ⟨hno, -⟩
  · exact Relation.ReflTransGen.head_induction_on (motive := fun s _ => Queda x s → Queda x σ'.sw)
      hc id (fun hc _ ih hs => ih (hc.queda hs)) hq
  · obtain ⟨s', envios, hat, rfl⟩ := paso_programa h
    obtain ⟨now, suceso⟩ := e
    cases suceso with
    | recibe t ind draws => exact absurd rfl (hno t ind draws)
    | sendPeriodicHello =>
      simp only [atiende, cleanNeighbour_eq, Option.map_some] at hat
      cases hat
      exact hq
    | cleanTcpTable =>
      simp only [atiende, cleanTcpTable_eq, Option.map_some] at hat
      cases hat
      exact hq
    | cleanArpTable => exact absurd rfl he

end Mueve

/-- **A station that moves is not followed.** From any reachable state on, an address in the ARP
    table stays there with the device it was learned from, until `CleanArpTable` runs: frames of the
    station through other ports renew the time of the entry only. -/
theorem device_kept {cfg : Config D} {c : Cabeceras} {t0 : Time} {a b : UInt16}
    {σ σ' : Simulacion D} (h0 : Run (paso cfg c) Libre (construye t0 a b) σ)
    (h : Run (paso cfg c) (fun _ e => e.suceso ≠ .cleanArpTable) σ σ') {x : ArpEntry D}
    (hx : x ∈ σ.sw.arpTable) :
    (∃ y ∈ σ'.sw.arpTable, y.macAddr = x.macAddr) ∧
      ∀ y ∈ σ'.sw.arpTable, y.macAddr = x.macAddr → y.outputDevice = x.outputDevice := by
  have hs : Sana cfg σ'.sw ∧ Queda x σ'.sw :=
    h.invariant (I := fun σ => Sana cfg σ.sw ∧ Queda x σ.sw) ⟨sana_run h0, x, hx, rfl, rfl⟩
      fun _ _ _ hi hok hp => ⟨hi.1.paso hp, paso_queda hp hok hi.2⟩
  obtain ⟨hsana, z, hz, hm, hd⟩ := hs
  refine ⟨⟨z, hz, hm⟩, fun y hy hym => ?_⟩
  rw [List.inj_on_of_nodup_map hsana.arp hy hz (hym.trans hm.symm), hd]

/-- Station 1, which `saludo` has on port 20, is heard on port 10. -/
def mudanza : Evento Nat :=
  ⟨5000, .recibe ⟨10, mensajeArp 1, 2054, estacion 1, ethAddrBroadcast, .broadcast⟩ ceros [1]⟩

theorem device_kept_mudanza : ∃ σ,
    Run (paso nucleoNs3 cabecerasNs3) Libre (construye 0 0 0) σ ∧ σ.sw.arpTable.length = 1 ∧
    (paso nucleoNs3 cabecerasNs3 σ mudanza).isSome = true ∧
    ∀ σ', paso nucleoNs3 cabecerasNs3 σ mudanza = some σ' → ∀ x ∈ σ.sw.arpTable,
      ∀ y ∈ σ'.sw.arpTable, y.macAddr = x.macAddr → y.outputDevice = x.outputDevice := by
  refine Run.exists_exec₂ saludo (by decide) fun σ h _ _ σ' hσ' x hx => ?_
  exact (device_kept h (.tail .refl (by simp [mudanza]) hσ') hx).2

end TcpPath.Tfe
