/-
  Subject:   The lookups of `mac_port` and `tcp_table` in the states a switch can reach: whether
             they agree with each other, and what the order of the entries means to them.

  `mac_to_port_found_port` looks for any live entry of an address, `mac_to_port_check_timeout` and
  `dst_is_neighbor` read the first one. Both lookups of a port move what they find to the front.

  Results:   `macPort_lookup_agrees_iff`: lookup and timeout test differ at one instant;
             `moveToFront_invisible`: later queries do not see the new order.
-/
import TcpPath.Learning
import TcpPath.Tables.MacPortCode
import TcpPath.Tables.TcpCode
import TcpPath.Util.ClassOrder

namespace TcpPath

open Util Tabla List MacPortTime

/-! ## 1. The entries of an address in the order of their times -/

/-- Of two entries of an address the second one is not a neighbour's, and expires first. -/
def Ordenada (t : MacTable) : Prop :=
  t.Pairwise fun a b => a.mac = b.mac → b.vecino ≠ 1 ∧ b.timeEntry ≤ a.timeEntry

variable {mac : EthAddr} {now : Nat} {e : MacPortTime} {t : MacTable} {n : Nodo} {m : Maquina}
  {t' : TcpTable}

theorem foundHit_isSome : (foundHit mac now e).isSome = true ↔ e.mac = mac ∧ e.live now = true := by
  unfold foundHit
  split <;> rename_i h
  · simpa using h
  · simpa using h

theorem MacPortTime.live_iff : e.live now = true ↔ now < e.timeEntry ∨ e.vecino = 1 := by
  simp [live]

namespace Ordenada

variable {now : Nat} {t t' : MacTable}

theorem sublist (h : Ordenada t) (hs : t'.Sublist t) : Ordenada t' := List.Pairwise.sublist hs h

variable {pre post : MacTable} {x : MacPortTime} {mac : EthAddr}

theorem live_of_live {e : MacPortTime} (h : Ordenada (pre ++ e :: post)) (hx : x ∈ post)
    (hmac : e.mac = x.mac) (hl : x.live now = true) : e.live now = true := by
  obtain ⟨hv, ht⟩ := (pairwise_cons.mp (pairwise_append.mp h).2.1).1 x hx hmac
  rw [live_iff] at hl ⊢
  omega

theorem pasa (h : Ordenada (pre ++ x :: post)) (hx : (foundHit mac now x).isSome = true)
    (hpre : ∀ y ∈ pre, (foundHit mac now y).isSome = false) : ∀ y ∈ pre, y.mac ≠ x.mac := by
  intro y hy hmac
  obtain ⟨hxm, hxl⟩ := foundHit_isSome.mp hx
  obtain ⟨a, b, rfl⟩ := append_of_mem hy
  rw [append_assoc, cons_append] at h
  have hlive : y.live now = true := h.live_of_live (by simp) hmac hxl
  have hhit := foundHit_isSome.mpr ⟨hmac.trans hxm, hlive⟩
  rw [hpre y hy] at hhit
  cases hhit

theorem found (h : Ordenada t) (mac : EthAddr) (now : Nat) :
    Ordenada (macToPortFoundPort t mac now).2 := by
  refine pairwise_toFront h fun pre x post e hx hpre y hy hmac => ?_
  subst e
  exact absurd hmac.symm (h.pasa hx hpre y hy)

theorem learn (h : Ordenada t) (portIn time vecino : Nat)
    (hnone : (macToPortFoundPort t mac now).1 = none) :
    Ordenada (macToPortAddArpTable t mac portIn time vecino now) := by
  refine pairwise_cons.mpr ⟨fun y hy hmac => ?_, h⟩
  have hdead : ¬ y.live now = true := by
    rw [foundPort_eq_none_iff.mp hnone y hy hmac.symm]
    exact Bool.false_ne_true
  rw [live_iff] at hdead
  show y.vecino ≠ 1 ∧ y.timeEntry ≤ now + time * 1000
  omega

theorem modify {f : MacPortTime → MacPortTime} (hf : ∀ e, (f e).mac = e.mac)
    (htime : ∀ e, e.timeEntry ≤ (f e).timeEntry) (h : Ordenada t) :
    Ordenada (modifyFirst (·.hasMac mac) f t) := by
  refine pairwise_modifyFirst h fun pre x post e hx hpre =>
    ⟨fun y hy hmac => ?_, fun y hy hmac => ?_⟩
  · -- an earlier entry has another address
    rw [hf, hasMac_iff.mp hx, ← hasMac_iff, hpre y hy] at hmac
    cases hmac
  · subst e
    obtain ⟨hv, ht⟩ := (pairwise_cons.mp (pairwise_append.mp h).2.1).1 y hy
      ((hf x).symm.trans hmac)
    exact ⟨hv, ht.trans (htime x)⟩

end Ordenada

theorem MacPortTime.le_timeEntry_refresh (marca : Nat) (e : MacPortTime) :
    e.timeEntry ≤ (e.refresh marca).timeEntry := by
  show _ ≤ if e.timeEntry < marca then marca else e.timeEntry
  split <;> omega

theorem MacCambio.ordenada {t' : MacTable} (h : MacCambio now t t') (ho : Ordenada t) :
    Ordenada t' := by
  cases h with
  | found mac => exact ho.found mac now
  | learn mac portIn time vecino hnone => exact ho.learn portIn time vecino hnone
  | update mac portIn time =>
    exact ho.modify (fun _ => rfl) fun e => e.le_timeEntry_refresh (now + time * 1000)
  | refresh mac time =>
    exact ho.modify (fun _ => rfl) fun e => e.le_timeEntry_refresh (now + time * 1000)
  | deletePort port => exact ho.sublist (macToPortDeletePort_sublist t port)

/-- **Along every run** the entries of an address are in the order of their times. -/
theorem Maquina.alcanzable_ordenada (h : m.Alcanzable n) : Ordenada m.sw.macPort := by
  have h0 : Ordenada Switch.inicial.macPort := List.Pairwise.nil
  refine Run.invariant (I := fun m : Maquina => Ordenada m.sw.macPort) h h0 ?_
  intro m e m' ho _ hs
  obtain ⟨_, ⟨tablas, pkt, r, _, hr, hsw⟩ | ⟨_, hsub, _, _⟩⟩ := paso_cases hs
  · rw [hsw]
    have hc := (pipelineProcessUah_cambia hr).mac
    generalize r.1.macPort = t at hc
    induction hc with
    | refl => exact ho
    | tail _ hc ih => exact hc.ordenada ih
  · exact ho.sublist hsub

theorem Maquina.alcanzable_vecino (h : m.Alcanzable n) : ∀ e ∈ m.sw.macPort, e.vecino ≤ 1 := by
  have h0 : ∀ e ∈ Switch.inicial.macPort, e.vecino ≤ 1 := fun _ he => absurd he not_mem_nil
  have hboth := Run.invariant (I := fun m : Maquina =>
    Unico m.now m.sw.macPort ∧ ∀ e ∈ m.sw.macPort, e.vecino ≤ 1) h ⟨List.Pairwise.nil, h0⟩ ?_
  · exact hboth.2
  intro m e m' ⟨hu, hv⟩ _ hs
  refine ⟨paso_unico hs hu, ?_⟩
  obtain ⟨hle, ⟨tablas, pkt, r, _, hr, hsw⟩ | ⟨_, hsub, _, _⟩⟩ := paso_cases hs
  · rw [hsw]
    rcases pipelineProcessUah_llama hr with ⟨_, _, hr⟩ | ⟨_, f, _, hf, _⟩
    · rw [hr]
      exact hv
    · refine hf.cumple (P := fun _ _ v => v ≤ 1) (hu.advance hle) (fun q _ => ?_) hv
      unfold isNeighbor
      split <;> omega
  · exact fun e he => hv e (hsub.subset he)

/-! ## 2. The lookup and the timeout test -/

theorem Ordenada.foundPort_iff (h : Ordenada t) :
    (macToPortFoundPort t mac now).1 ≠ none ↔
      ∃ e, t.find? (·.hasMac mac) = some e ∧ e.live now = true := by
  constructor
  · intro hf
    obtain ⟨p, hp⟩ := Option.ne_none_iff_exists'.mp hf
    obtain ⟨x, hx, hxm, hxl, _⟩ := mem_of_foundPort hp
    obtain ⟨e, he⟩ := Option.isSome_iff_exists.mp
      (find?_isSome.mpr ⟨x, hx, hasMac_iff.mpr hxm⟩)
    refine ⟨e, he, ?_⟩
    obtain ⟨hem, pre, post, rfl, hpre⟩ := find?_eq_some_iff_append.mp he
    rw [hasMac_iff] at hem
    rcases mem_append.mp hx with hx | hx
    · have hno := hpre x hx
      rw [hasMac_iff.mpr hxm] at hno
      cases hno
    rcases mem_cons.mp hx with rfl | hx
    · exact hxl
    · exact h.live_of_live hx (hem.trans hxm.symm) hxl
  · intro ⟨e, he, hl⟩ hnone
    have hdead := foundPort_eq_none_iff.mp hnone e (mem_of_find?_eq_some he)
      (hasMac_iff.mp (find?_some he))
    rw [hl] at hdead
    cases hdead

theorem checkTimeout_eq_zero :
    macToPortCheckTimeout t mac now = 0 ↔
      ∃ e, t.find? (·.hasMac mac) = some e ∧ e.expired now = false := by
  unfold macToPortCheckTimeout
  cases t.find? (·.hasMac mac) with
  | none => simp
  | some e => simp

/-- With a flag as `vecino`, an entry that is not live has expired, except at its last instant. -/
theorem MacPortTime.live_iff_not_expired (hv : e.vecino ≤ 1) :
    (e.live now = true ↔ e.expired now = false) ↔ ¬ (e.timeEntry = now ∧ e.vecino = 0) := by
  rw [live_iff, expired, Bool.and_eq_false_iff, decide_eq_false_iff_not, beq_eq_false_iff_ne]
  omega

/-- **The lookup and the timeout test** of `mac_port` agree except where the first entry of the
address expires at that very instant and is not a neighbour's; in the order `pipeline_arp_path`
calls them they always do. -/
theorem macPort_lookup_agrees_iff {n : Nodo} {m : Maquina} (h : m.Alcanzable n) (mac : EthAddr)
    (now : Nat) :
    (((macToPortFoundPort m.sw.macPort mac now).1 ≠ none ↔
        macToPortCheckTimeout m.sw.macPort mac now = 0) ↔
      ∀ e, m.sw.macPort.find? (·.hasMac mac) = some e → ¬ (e.timeEntry = now ∧ e.vecino = 0)) ∧
    ((macToPortFoundPort m.sw.macPort mac now).1 ≠ none →
      macToPortCheckTimeout m.sw.macPort mac now = 0 ∧
        macToPortCheckTimeout (macToPortFoundPort m.sw.macPort mac now).2 mac now = 0) := by
  have ho := Maquina.alcanzable_ordenada h
  have hv := Maquina.alcanzable_vecino h
  have hcheck : ∀ t, Ordenada t → (macToPortFoundPort t mac now).1 ≠ none →
      macToPortCheckTimeout t mac now = 0 := by
    intro t ht hf
    obtain ⟨e, he, hl⟩ := ht.foundPort_iff.mp hf
    exact checkTimeout_eq_zero.mpr ⟨e, he, not_expired_of_live hl⟩
  refine ⟨?_, fun hf => ⟨hcheck _ ho hf, hcheck _ (ho.found mac now) ?_⟩⟩
  · rw [ho.foundPort_iff, checkTimeout_eq_zero]
    cases hfirst : m.sw.macPort.find? (·.hasMac mac) with
    | none => simp
    | some e =>
      have hiff : (e.live now = true ↔ e.expired now = false) ↔ _ :=
        live_iff_not_expired (hv e (mem_of_find?_eq_some hfirst))
      simpa using hiff
  · -- the entries are the same
    rw [Ne, foundPort_eq_none_iff] at hf ⊢
    exact fun hall => hf fun e he => hall e ((foundPort_perm _ mac now).mem_iff.mpr he)

/-- A switch with a neighbour on port 1 that has received a broadcast of `7` there at 0. -/
def inundaUno : List Suceso :=
  [.trama sinTablas (tramaDe 9 0x76 0x98 1) 0, .trama sinTablas (tramaDe 7 0x88 0xb5 1) 0]

theorem macPort_lookup_agrees_inundaUno :
    ∃ m : Maquina, m.Alcanzable ⟨decodifica, ⟨0, false⟩, dosPuertos⟩ ∧
      (macToPortFoundPort m.sw.macPort (tramaDe 7 0x88 0xb5 1).ethSrc 14999).1 = some 1 ∧
      macToPortCheckTimeout m.sw.macPort (tramaDe 7 0x88 0xb5 1).ethSrc 14999 = 0 ∧
      macToPortCheckTimeout (macToPortFoundPort m.sw.macPort (tramaDe 7 0x88 0xb5 1).ethSrc
        14999).2 (tramaDe 7 0x88 0xb5 1).ethSrc 14999 = 0 := by
  have hrun : exec (Maquina.paso ⟨decodifica, ⟨0, false⟩, dosPuertos⟩) (fun _ _ => True)
      inundaUno ⟨Switch.inicial, 0⟩ = some _ := rfl
  have h := Maquina.alcanzable_of_exec hrun
  refine ⟨_, h, by decide, ?_⟩
  exact (macPort_lookup_agrees_iff h (tramaDe 7 0x88 0xb5 1).ethSrc 14999).2 (by decide)

/-- At 15 s the entry is not found, and has not timed out. -/
theorem macPort_lookup_agrees_fails :
    ∃ m : Maquina, m.Alcanzable ⟨decodifica, ⟨0, false⟩, dosPuertos⟩ ∧ m.now ≤ 15000 ∧
      ¬ ((macToPortFoundPort m.sw.macPort (tramaDe 7 0x88 0xb5 1).ethSrc 15000).1 ≠ none ↔
        macToPortCheckTimeout m.sw.macPort (tramaDe 7 0x88 0xb5 1).ethSrc 15000 = 0) :=
  Run.exists_exec _ _ inundaUno _ _ (by decide)

/-! ## 3. Queries -/

/-- A query of the tables, with its arguments and the clock it reads. -/
inductive Consulta where
  | macFoundPort (mac : EthAddr) (now : Nat)
  | checkTimeout (mac : EthAddr) (now : Nat)
  | dstIsNeighbor (pkt : Packet)
  | tcpFoundPort (key : CmpTableTcp)
  | tcpFoundPortIn (key : CmpTableTcp)
  | tcpUpdatePort (key : CmpTableTcp) (inPort tcpTime now : Nat)

/-- What the query returns, and the tables it leaves. -/
def Switch.consulta (s : Switch) : Consulta → Option Nat × Switch
  | .macFoundPort mac now =>
      let r := macToPortFoundPort s.macPort mac now
      (r.1, { s with macPort := r.2 })
  | .checkTimeout mac now => (some (macToPortCheckTimeout s.macPort mac now), s)
  | .dstIsNeighbor pkt => (some (TcpPath.dstIsNeighbor pkt s.macPort), s)
  | .tcpFoundPort key =>
      let r := tableTcpFoundPort s.tcpTable key
      (r.1, { s with tcpTable := r.2 })
  | .tcpFoundPortIn key => (tableTcpFoundPortIn s.tcpTable key, s)
  | .tcpUpdatePort key inPort tcpTime now =>
      let r := tableTcpUpdatePort s.tcpTable key inPort tcpTime now
      (some r.1, { s with tcpTable := r.2 })

/-- The order of the entries of each address. -/
abbrev MacOrden : MacTable → MacTable → Prop := SameOrder fun mac e => e.hasMac mac

/-- The order of the entries of each connection, whatever their direction. -/
abbrev TcpOrden : TcpTable → TcpTable → Prop := SameOrder fun key e => e.eitherWay key

theorem Ordenada.foundPort_orden (h : Ordenada t) (mac : EthAddr) (now : Nat) :
    MacOrden (macToPortFoundPort t mac now).2 t := by
  refine sameOrder_toFront fun pre x post e hx hpre a ha y hy => ?_
  subst e
  have hne := h.pasa hx hpre y hy
  rw [hasMac_iff.mp ha] at hne
  exact decide_eq_false hne

theorem tcpHit_isSome (key : CmpTableTcp) (e : TableTcpTime) :
    (tcpHit key e).isSome = e.eitherWay key := by
  unfold tcpHit TableTcpTime.eitherWay
  split <;> rename_i h1
  · simp [h1]
  · split <;> rename_i h2 <;> simp [h1, h2]

theorem TableTcpTime.eitherWay_iff {key : CmpTableTcp} {e : TableTcpTime} :
    e.eitherWay key = true ↔ e.key = key ∨ e.key = key.inverso := by
  simp [eitherWay]

theorem TableTcpTime.eitherWay_eq {k k' : CmpTableTcp} {e : TableTcpTime}
    (h : e.eitherWay k = true) (h' : e.eitherWay k' = true) (y : TableTcpTime) :
    y.eitherWay k = y.eitherWay k' := by
  rw [eitherWay_iff] at h h'
  have hk : k = k' ∨ k = k'.inverso := by
    rcases h with h | h
    · exact h.symm ▸ h'
    · have hinv : k = e.key.inverso := by rw [h, CmpTableTcp.inverso_inverso]
      rcases h' with h' | h'
      · exact .inr (hinv.trans (congrArg _ h'))
      · exact .inl (by rw [hinv, h', CmpTableTcp.inverso_inverso])
  rcases hk with rfl | rfl
  · rfl
  · rw [eitherWay, eitherWay, CmpTableTcp.inverso_inverso, Bool.or_comm]

theorem foundPort_tcpOrden (t : TcpTable) (key : CmpTableTcp) :
    TcpOrden (tableTcpFoundPort t key).2 t := by
  refine sameOrder_toFront fun pre x post _ hx hpre k hk y hy => ?_
  have hno := hpre y hy
  rw [tcpHit_isSome] at hx hno
  rwa [TableTcpTime.eitherWay_eq hk hx y]

theorem TcpOrden.foundPort {t : TcpTable} (h : TcpOrden t t') (key : CmpTableTcp) :
    (tableTcpFoundPort t key).1 = (tableTcpFoundPort t' key).1 :=
  h.findSome?_eq (i := key) fun e he => by rwa [← tcpHit_isSome]

theorem TcpOrden.find?_key {t : TcpTable} (h : TcpOrden t t') (key : CmpTableTcp) :
    t.find? (fun e => decide (e.key = key)) = t'.find? fun e => decide (e.key = key) :=
  h.find?_eq (i := key) fun _ he => TableTcpTime.eitherWay_iff.mpr (.inl (of_decide_eq_true he))

theorem TcpOrden.updatePort {t : TcpTable} (h : TcpOrden t t') (key : CmpTableTcp)
    (inPort tcpTime now : Nat) :
    TcpOrden (tableTcpUpdatePort t key inPort tcpTime now).2
      (tableTcpUpdatePort t' key inPort tcpTime now).2 := by
  refine h.modifyFirst (fun k => ?_) fun _ _ _ => rfl
  by_cases hk : key.inverso = k ∨ key.inverso = k.inverso
  · refine .inl fun e he => TableTcpTime.eitherWay_iff.mpr ?_
    rwa [of_decide_eq_true he]
  · refine .inr fun e he => Bool.eq_false_iff.mpr fun hw => hk ?_
    rw [TableTcpTime.eitherWay_iff, of_decide_eq_true he] at hw
    exact hw

/-- Tables that no query tells apart. -/
structure Iguales (s s' : Switch) : Prop where
  mac : MacOrden s.macPort s'.macPort
  ordenada : Ordenada s.macPort
  ordenada' : Ordenada s'.macPort
  tcp : TcpOrden s.tcpTable s'.tcpTable

/-- **A query** gets the same answer from both, and leaves them so. -/
theorem Iguales.consulta {s s' : Switch} (h : Iguales s s') (q : Consulta) :
    (s.consulta q).1 = (s'.consulta q).1 ∧ Iguales (s.consulta q).2 (s'.consulta q).2 := by
  have hfirst : ∀ mac, s.macPort.find? (·.hasMac mac) = s'.macPort.find? (·.hasMac mac) :=
    fun mac => h.mac.find?_eq (i := mac) fun _ he => he
  cases q with
  | macFoundPort mac now =>
    refine ⟨h.mac.findSome?_eq (i := mac) fun e he => ?_, ?_, ?_, ?_, h.tcp⟩
    · exact hasMac_iff.mpr (foundHit_isSome.mp he).1
    · exact ((h.ordenada.foundPort_orden mac now).trans h.mac).trans
        (h.ordenada'.foundPort_orden mac now).symm
    · exact h.ordenada.found mac now
    · exact h.ordenada'.found mac now
  | checkTimeout mac now =>
    refine ⟨?_, h⟩
    show some (macToPortCheckTimeout _ _ _) = some (macToPortCheckTimeout _ _ _)
    unfold macToPortCheckTimeout
    rw [hfirst]
  | dstIsNeighbor pkt =>
    refine ⟨?_, h⟩
    show some (vecinoOf _ _) = some (vecinoOf _ _)
    unfold vecinoOf
    rw [hfirst]
  | tcpFoundPort key =>
    refine ⟨h.tcp.foundPort key, h.mac, h.ordenada, h.ordenada', ?_⟩
    exact ((foundPort_tcpOrden _ key).trans h.tcp).trans (foundPort_tcpOrden _ key).symm
  | tcpFoundPortIn key => exact ⟨congrArg (Option.map _) (h.tcp.find?_key key), h⟩
  | tcpUpdatePort key inPort tcpTime now =>
    refine ⟨?_, h.mac, h.ordenada, h.ordenada', h.tcp.updatePort key inPort tcpTime now⟩
    show some ((Option.map _ (s.tcpTable.find? _)).getD 0) = some (Option.getD _ 0)
    rw [h.tcp.find?_key]

/-- **Moving the hit to the front is invisible**: a lookup keeps the entries, its pointer code the
nodes, `num_element` and `fin`, and no later queries of either table get another answer. -/
theorem moveToFront_invisible {n : Nodo} {m : Maquina} (h : m.Alcanzable n) :
    (∀ mac now, (m.sw.consulta (.macFoundPort mac now)).2.macPort.Perm m.sw.macPort ∧
      (∀ mem l, Rep false mem l → l.map Prod.snd = m.sw.macPort → ∃ mem' l',
        Code.macToPortFoundPort mem mac now =
          .ok ((m.sw.consulta (.macFoundPort mac now)).1, mem') ∧ Rep false mem' l' ∧ l'.Perm l ∧
        (m.sw.consulta (.macFoundPort mac now)).2.macPort = l'.map Prod.snd ∧
        mem'.numElement = mem.numElement) ∧
      ∀ qs, answers Switch.consulta qs (m.sw.consulta (.macFoundPort mac now)).2 =
        answers Switch.consulta qs m.sw) ∧
    ∀ key, (m.sw.consulta (.tcpFoundPort key)).2.tcpTable.Perm m.sw.tcpTable ∧
      (∀ mem l, Rep true mem l → l.map Prod.snd = m.sw.tcpTable → ∃ mem' l',
        Code.tableTcpFoundPort mem key =
          .ok ((m.sw.consulta (.tcpFoundPort key)).1, mem') ∧ Rep true mem' l' ∧ l'.Perm l ∧
        (m.sw.consulta (.tcpFoundPort key)).2.tcpTable = l'.map Prod.snd ∧
        mem'.numElement = mem.numElement) ∧
      ∀ qs, answers Switch.consulta qs (m.sw.consulta (.tcpFoundPort key)).2 =
        answers Switch.consulta qs m.sw := by
  have ho := Maquina.alcanzable_ordenada h
  have hanswers : ∀ s', Iguales s' m.sw → ∀ qs,
      answers Switch.consulta qs s' = answers Switch.consulta qs m.sw :=
    fun s' hs qs => answers_eq (fun _ _ q hi => hi.consulta q) qs hs
  refine ⟨fun mac now => ⟨foundPort_perm _ mac now, fun mem l hr hl => ?_, hanswers _ ?_⟩,
    fun key => ⟨toFront_perm _ _ _, fun mem l hr hl => ?_, hanswers _ ?_⟩⟩
  · obtain ⟨mem', l', hcode, hr', hperm, hlist⟩ := macToPortFoundPort_rep hr mac now
    rw [hl] at hcode hlist
    exact ⟨mem', l', hcode, hr', hperm, hlist, by rw [hr'.num, hr.num, hperm.length_eq]⟩
  · exact ⟨ho.foundPort_orden mac now, ho.found mac now, ho, .refl _ _⟩
  · obtain ⟨mem', l', hcode, hr', hperm, hlist⟩ := TcpOp.tableTcpFoundPort_rep hr key
    rw [hl] at hcode hlist
    exact ⟨mem', l', hcode, hr', hperm, hlist, by rw [hr'.num, hr.num, hperm.length_eq]⟩
  · exact ⟨.refl _ _, ho, ho, foundPort_tcpOrden _ key⟩

/-- A SYN of 54 bytes from 00:00:00:00:00:`x` to 00:00:00:00:00:`y`; the switch reads 80 as
    the port of both ends. -/
def synEntre (x y : UInt8) (puerto : Nat) : Packet :=
  packetCreate decodifica puerto
    ([0, 0, 0, 0, 0, y, 0, 0, 0, 0, 0, x, 8, 0, 0x45] ++ List.replicate 7 0 ++ [64, 6] ++
      List.replicate 10 0 ++ [80, 0, 80, 0] ++ List.replicate 9 0 ++ [2] ++ List.replicate 6 0)

/-- A connection opened from both ends, and two others. The lookup of (1, 2) finds the entry of
    (2, 1), in the third place, and moves it. -/
theorem moveToFront_invisible_syn :
    ∃ m : Maquina, m.Alcanzable ⟨decodifica, ⟨1, false⟩, dosPuertos⟩ ∧ ∃ key,
      tableTcpFoundPortIn m.sw.tcpTable key = some 1 ∧
      tableTcpFoundPortIn m.sw.tcpTable key.inverso = some 2 ∧
      (m.sw.consulta (.tcpFoundPort key)).1 = some 2 ∧
      (m.sw.consulta (.tcpFoundPort key)).2.tcpTable ≠ m.sw.tcpTable ∧
      (m.sw.consulta (.tcpFoundPort key)).2.tcpTable.Perm m.sw.tcpTable ∧
      ∀ qs, answers Switch.consulta qs (m.sw.consulta (.tcpFoundPort key)).2 =
        answers Switch.consulta qs m.sw := by
  have hrun : exec (Maquina.paso ⟨decodifica, ⟨1, false⟩, dosPuertos⟩) (fun _ _ => True)
      [.trama sinTablas (synEntre 1 2 1) 0, .trama sinTablas (synEntre 2 1 2) 1,
        .trama sinTablas (synEntre 3 4 1) 2, .trama sinTablas (synEntre 5 6 1) 3]
      ⟨Switch.inicial, 0⟩ = some _ := rfl
  have h := Maquina.alcanzable_of_exec hrun
  have hmove := (moveToFront_invisible h).2
    ⟨(synEntre 1 2 1).ethSrc, (synEntre 1 2 1).ethDst, 80, 80⟩
  exact ⟨_, h, _, by decide, by decide, by decide, by decide, hmove.1, hmove.2.2⟩

end TcpPath
