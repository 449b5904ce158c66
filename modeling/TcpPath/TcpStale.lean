/-
  Subject:   A SYN or PATH frame that finds an expired entry of its 4-tuple.

  `table_tcp_found_port_in` does not read `time_entry`: an entry decides as long as it is in the
  table. Only `table_tcp_delete_timeout` takes expired entries out, and it leaves the last two, and
  the second one when it removes the first.
-/
import TcpPath.TcpFrame
import TcpPath.SwitchRuns

namespace TcpPath

open Util

/-- The request goes on to the send part, and the entry of `k` has `port_in` `p`. -/
def PasoTcp.Acepta (k : CmpTableTcp) (p : Nat) : PasoTcp → Prop
  | sigue s _ _ => tableTcpFoundPortIn s.tcpTable k = some p
  | _ => False

section Peticion

variable {n : Nodo} {now : Nat} {s : Switch} {pkt : Packet} {k : CmpTableTcp} {q : PasoTcp}
  {p i t : Nat}

theorem foundPortIn_add (t : TcpTable) (k : CmpTableTcp) (hp : p < 2 ^ 16) :
    tableTcpFoundPortIn (tableTcpAdd t k p tcpTime now) k = some p := by
  rw [foundPortIn_eq_entrada, entrada_add, if_pos rfl]
  exact congrArg some (Nat.mod_eq_of_lt hp)

theorem foundPortIn_updateTime (t : TcpTable) (k k' : CmpTableTcp) :
    tableTcpFoundPortIn (tableTcpUpdateTime t k tcpTime now) k' = tableTcpFoundPortIn t k' := by
  rw [foundPortIn_eq_entrada, entrada_updateTime, foundPortIn_eq_entrada]

theorem registraSyn_some {t t' : TcpTable} (hp : p < 2 ^ 16) (h : registraSyn now t k p = some t') :
    (tableTcpFoundPortIn t k = none ∨ tableTcpFoundPortIn t k = some p) ∧
      tableTcpFoundPortIn t' k = some p := by
  unfold registraSyn at h
  split at h
  · rename_i hnone
    cases h
    exact ⟨.inl hnone, foundPortIn_add _ _ hp⟩
  · rename_i p' hsome
    split at h
    · rename_i heq
      cases h
      rw [foundPortIn_updateTime, hsome, heq]
      exact ⟨.inr rfl, rfl⟩
    · cases h

theorem selectPacketTcpPath_acepta (hley : LeyDecodificador n.parse)
    (hpath : pkt.EsPath n.parse i t) (hin : pkt.inPort < 2 ^ 16) {tabla : TcpTable}
    (hport : tableTcpFoundPortIn tabla (pkt.keyTo pkt.trailerMac t) = none ∨
      tableTcpFoundPortIn tabla (pkt.keyTo pkt.trailerMac t) = some pkt.inPort)
    {r : Option (Packet × TcpTable)} (h : selectPacketTcpPath n now tabla pkt = some r) :
    ∃ pkt' tabla', r = some (pkt', tabla') ∧
      tableTcpFoundPortIn tabla' (pkt.keyTo pkt.trailerMac t) = some pkt.inPort := by
  set k := pkt.keyTo pkt.trailerMac t with hk
  unfold selectPacketTcpPath at h
  rw [hpath.op] at h
  cases hdes : desencapsulatePathRequestTcp n.parse pkt 1 with
  | none =>
    rw [hdes] at h
    cases h
  | some pkt' =>
    obtain ⟨hflujo, hdst, htcp, _⟩ := desencapsula_spec hley hpath hdes
    have hkey : pkt'.key t = k := by
      unfold Packet.key Packet.keyTo at *
      rw [hk, hflujo.ethSrc, hflujo.tcpSrc, hflujo.tcpDst, hdst]
    rw [hdes] at h
    dsimp only at h
    rw [htcp] at h
    dsimp only at h
    rw [hkey, hflujo.inPort] at h
    rcases hport with hnone | hsome
    · rw [hnone] at h
      cases h
      exact ⟨pkt', _, rfl, foundPortIn_add _ _ hin⟩
    · rw [hsome] at h
      dsimp only at h
      rw [if_pos rfl] at h
      cases h
      exact ⟨pkt', tabla, rfl, hsome⟩

theorem pasoSegmento_acepta (hf : pkt.tcpFlags t = tcpSyn) (hentra : entrarTcp n pkt t = some true)
    (hin : pkt.inPort < 2 ^ 16) (h : pasoSegmento n now s pkt t = some q) :
    (q.Acepta (pkt.key t) pkt.inPort ↔
      tableTcpFoundPortIn s.tcpTable (pkt.key t) = none ∨
        tableTcpFoundPortIn s.tcpTable (pkt.key t) = some pkt.inPort) ∧
      (¬ q.Acepta (pkt.key t) pkt.inPort → q = .descarta s) := by
  unfold pasoSegmento at h
  rw [hentra] at h
  dsimp only at h
  rw [if_neg (by rw [hf]; decide), if_pos hf] at h
  cases hreg : registraSyn now s.tcpTable (pkt.key t) pkt.inPort with
  | none =>
    rw [hreg] at h
    cases h
    obtain ⟨p, hp, hne⟩ := registraSyn_none hreg
    refine ⟨⟨fun hfalse => hfalse.elim, fun hcase => ?_⟩, fun _ => rfl⟩
    rw [hp] at hcase
    rcases hcase with hcase | hcase
    · cases hcase
    · exact absurd (Option.some.inj hcase) hne
  | some tabla =>
    rw [hreg] at h
    obtain ⟨hport, htabla⟩ := registraSyn_some hin hreg
    -- both ways on to the send part keep the new table
    have hacepta : q.Acepta (pkt.key t) pkt.inPort := by
      dsimp only at h
      split at h
      · obtain ⟨r, _, rfl⟩ := Option.map_eq_some_iff.mp h
        exact htabla
      · cases h
        exact htabla
    exact ⟨⟨fun _ => hport, fun _ => hacepta⟩, fun hno => absurd hacepta hno⟩

theorem pasoPath_acepta (hley : LeyDecodificador n.parse) (hpath : pkt.EsPath n.parse i t)
    (hin : pkt.inPort < 2 ^ 16) (h : pasoPath n now s pkt t = some q) :
    (q.Acepta (pkt.keyTo pkt.trailerMac t) pkt.inPort ↔
      tableTcpFoundPortIn s.tcpTable (pkt.keyTo pkt.trailerMac t) = none ∨
        tableTcpFoundPortIn s.tcpTable (pkt.keyTo pkt.trailerMac t) = some pkt.inPort) ∧
      (¬ q.Acepta (pkt.keyTo pkt.trailerMac t) pkt.inPort → q = .descarta s) := by
  set k := pkt.keyTo pkt.trailerMac t with hk
  unfold pasoPath at h
  dsimp only at h
  rw [← hk] at h
  split at h
  · rename_i hport
    have hacepta : q.Acepta k pkt.inPort := by
      split at h
      · cases h
        show tableTcpFoundPortIn (ite _ _ _) k = some pkt.inPort
        split
        · exact foundPortIn_add _ _ hin
        · rename_i hne
          rw [foundPortIn_updateTime]
          exact hport.resolve_left hne
      · cases hsel : selectPacketTcpPath n now s.tcpTable pkt with
        | none =>
          rw [hsel] at h
          cases h
        | some r =>
          obtain ⟨pkt', tabla, rfl, htabla⟩ := selectPacketTcpPath_acepta hley hpath hin hport hsel
          rw [hsel] at h
          cases h
          exact htabla
    exact ⟨⟨fun _ => hport, fun _ => hacepta⟩, fun hno => absurd hacepta hno⟩
  · rename_i hport
    cases h
    exact ⟨⟨fun hfalse => hfalse.elim, fun hcase => absurd hcase hport⟩, fun _ => rfl⟩

/-- **What becomes of a request**: it is accepted, and its flow bound to the port it came from,
    exactly if the flow has no entry or one for that port. Otherwise it is discarded. -/
theorem peticion_acepta_iff (hley : LeyDecodificador n.parse) (hpet : pkt.peticion = some k)
    (hentra : ∀ t, pkt.proto.tcp = some t → entrarTcp n pkt t = some true)
    (hpath : ∀ t, pkt.proto.tcp = none → pkt.proto.path = some t → ∃ i, pkt.EsPath n.parse i t)
    (hin : pkt.inPort < 2 ^ 16) (h : pasoTcp n now s pkt = some q) :
    (q.Acepta k pkt.inPort ↔ tableTcpFoundPortIn s.tcpTable k = none ∨
      tableTcpFoundPortIn s.tcpTable k = some pkt.inPort) ∧
      (¬ q.Acepta k pkt.inPort → q = .descarta s) := by
  unfold pasoTcp at h
  unfold Packet.peticion at hpet
  cases ht : pkt.proto.tcp with
  | some t =>
    rw [ht] at h hpet
    dsimp only at hpet
    split at hpet
    · rename_i hf
      cases hpet
      exact pasoSegmento_acepta hf (hentra t ht) hin h
    · cases hpet
  | none =>
    rw [ht] at h hpet
    obtain ⟨t, hp, rfl⟩ := Option.map_eq_some_iff.mp hpet
    obtain ⟨i, hi⟩ := hpath t ht hp
    rw [hp] at h
    exact pasoPath_acepta hley hi hin h

end Peticion

/-- **A request of a flow whose entries have expired** is treated as if there were no entry exactly
if there is none, or one for its own port; and so it is right after a cleanup that found the
first entry in force and left more than two. -/
theorem tcpPath_caducada {n : Nodo} (hley : LeyDecodificador n.parse) {now : Nat} {s : Switch}
    {pkt : Packet} {k : CmpTableTcp} (hpet : pkt.peticion = some k)
    (hentra : ∀ t, pkt.proto.tcp = some t → entrarTcp n pkt t = some true)
    (hpath : ∀ t, pkt.proto.tcp = none → pkt.proto.path = some t → ∃ i, pkt.EsPath n.parse i t)
    (hin : pkt.inPort < 2 ^ 16) (hcad : ∀ e ∈ s.tcpTable, e.key = k → e.timeEntry ≤ now)
    {q : PasoTcp} (h : pasoTcp n now s pkt = some q) :
    (q.Acepta k pkt.inPort ↔ tableTcpFoundPortIn s.tcpTable k = none ∨
      tableTcpFoundPortIn s.tcpTable k = some pkt.inPort) ∧
    (¬ q.Acepta k pkt.inPort → q = .descarta s) ∧
    ∀ t, s.tcpTable = tableTcpDeleteTimeout t now → 2 < s.tcpTable.length →
      (∀ e, t.head? = some e → now < e.timeEntry) → q.Acepta k pkt.inPort := by
  obtain ⟨hiff, hdes⟩ := peticion_acepta_iff hley hpet hentra hpath hin h
  refine ⟨hiff, hdes, fun t ht h2 hhead => hiff.mpr (.inl ?_)⟩
  rw [tableTcpFoundPortIn, Option.map_eq_none_iff]
  refine List.find?_eq_none.mpr fun e he hk => ?_
  have hle := hcad e he (of_decide_eq_true hk)
  rw [ht] at h2 he
  have hvig := deleteFrom_vigente h2
    (fun x hx => decide_eq_false (Nat.not_le.mpr (hhead x hx))) e he
  exact of_decide_eq_false hvig hle

/-- A switch that saw a SYN on port 1 at 0 and made a cleanup at 20 s, ten seconds after the entry
    expired. -/
def conCaducada : List Suceso := [.trama sinTablas (synDe 1) 0, .tcpDeleteTimeout 20000]

theorem tcpPath_caducada_mismo :
    ∃ (m : Maquina) (q : PasoTcp), exec (Maquina.paso ⟨decodifica, ⟨1, false⟩, dosPuertos⟩)
        (fun _ _ => True) conCaducada ⟨Switch.inicial, 0⟩ = some m ∧
      (m.sw.tcpTable.map fun e => (e.portIn, e.timeEntry)) = [(1, 10000)] ∧
      pasoTcp ⟨decodifica, ⟨1, false⟩, dosPuertos⟩ 20000 m.sw (synDe 1) = some q ∧
      q.Acepta ((synDe 1).key 34) 1 := by
  obtain ⟨m, q, hm, hmap, hcad, hfound, hq, _⟩ : ∃ (m : Maquina) (q : PasoTcp),
      exec (Maquina.paso ⟨decodifica, ⟨1, false⟩, dosPuertos⟩) (fun _ _ => True) conCaducada
        ⟨Switch.inicial, 0⟩ = some m ∧
      (m.sw.tcpTable.map fun e => (e.portIn, e.timeEntry)) = [(1, 10000)] ∧
      (∀ e ∈ m.sw.tcpTable, e.timeEntry ≤ 20000) ∧
      tableTcpFoundPortIn m.sw.tcpTable ((synDe 1).key 34) = some 1 ∧
      pasoTcp ⟨decodifica, ⟨1, false⟩, dosPuertos⟩ 20000 m.sw (synDe 1) = some q ∧ True := by
    decide
  have hiff := (tcpPath_caducada decodifica_ley (k := (synDe 1).key 34) rfl (fun _ _ => rfl)
    (fun t ht => by cases ht) (by decide) (fun e he _ => hcad e he) hq).1
  exact ⟨m, q, hm, hmap, hq, hiff.mpr (.inr hfound)⟩

/-- **An expired entry that decides.** The SYN comes on port 2 now. The cleanup has left the expired
    entry of its flow, and the SYN is discarded; without that entry it would have been accepted. -/
theorem tcpPath_caducada_descarta :
    ∃ m : Maquina, exec (Maquina.paso ⟨decodifica, ⟨1, false⟩, dosPuertos⟩) (fun _ _ => True)
        conCaducada ⟨Switch.inicial, 0⟩ = some m ∧
      (synDe 2).peticion = some ((synDe 2).key 34) ∧
      (∀ e ∈ m.sw.tcpTable, e.key = (synDe 2).key 34 → e.timeEntry ≤ 20000) ∧
      pasoTcp ⟨decodifica, ⟨1, false⟩, dosPuertos⟩ 20000 m.sw (synDe 2) = some (.descarta m.sw) ∧
      tableTcpFoundPortIn m.sw.tcpTable ((synDe 2).key 34) = some 1 ∧
      ∃ q, pasoTcp ⟨decodifica, ⟨1, false⟩, dosPuertos⟩ 20000 { m.sw with tcpTable := [] }
        (synDe 2) = some q ∧ q.Acepta ((synDe 2).key 34) 2 :=
  ⟨_, rfl, rfl, by decide, rfl, rfl, _, rfl, rfl⟩

end TcpPath
