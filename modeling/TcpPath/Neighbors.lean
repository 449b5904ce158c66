/-
  Subject:   The table of neighbour switches and the hello frames that fill it, and the flag
             (`vecino`) by which `mac_port` tells hosts from addresses behind a neighbour.

  `neighbor_table` is changed by hello frames only, and nothing ever deletes an entry of it. A
  hello of an address with a live entry moves that entry to the port of the hello; the entry keeps
  the type byte of the hello that made it. A hello of any other address makes an entry.

  Results:   `maquina_vecinos_acotados`: when there is one entry per neighbour;
             `maquina_tipo_reciente`: the type of a port is that of the latest hello;
             `maquina_vecino_coherente`: when the host flag is right.
-/
import TcpPath.Learning

namespace TcpPath

open Util List

/-! ## 1. Hellos -/

/-- What `pipeline_process_Uah` reads of a hello frame, and when. -/
structure Saludo where
  mac : EthAddr
  inPort : Nat
  tipo : Nat
  now : Nat

def Saludo.de (pkt : Packet) (now : Nat) : Saludo :=
  ⟨pkt.ethSrc, pkt.inPort, (byteAt pkt.buffer (pkt.buffer.length - 1)).toNat, now⟩

/-- The hello part of `pipeline_process_Uah` as a function of `neighbor_table`. -/
def saluda (t : MacTable) (h : Saludo) : MacTable :=
  let r := macToPortFoundPort t h.mac h.now
  if r.1 = none then r.2 ++ [⟨h.mac, port16 h.inPort, h.tipo, h.now + timeRecovery * 1000⟩]
  else (macToPortUpdate r.2 h.mac h.inPort timeRecovery h.now).2

theorem recibeHello_neighborTable (now : Nat) (s : Switch) (pkt : Packet) :
    (recibeHello now s pkt).neighborTable = saluda s.neighborTable (.de pkt now) := rfl

/-- The hello an event brings. -/
def Suceso.saludo : Suceso → Option Saludo
  | trama _ pkt now =>
      if packetHandleStdIsTtlValid pkt && esHello pkt then some (.de pkt now) else none
  | _ => none

/-- The hellos of a run, in the order they came in. -/
def saludos (es : List Suceso) : List Saludo := es.filterMap Suceso.saludo

variable {n : Nodo} {hs : List Saludo} {h : Saludo} {t : MacTable} {now : Nat} {s : Switch}

/-- **`neighbor_table` after a run** is what its hellos made of it, and they came in the order of
    time. -/
theorem vecinos_of_exec {es : List Suceso} {m : Maquina}
    (hrun : exec (Maquina.paso n) (fun _ _ => True) es ⟨Switch.inicial, 0⟩ = some m) :
    m.sw.neighborTable = (saludos es).foldl saluda [] ∧
      (saludos es).Pairwise (fun g h => g.now ≤ h.now) := by
  suffices hI : m.sw.neighborTable = (saludos es).foldl saluda [] ∧
      (saludos es).Pairwise (fun g h => g.now ≤ h.now) ∧ ∀ h ∈ saludos es, h.now ≤ m.now from
    ⟨hI.1, hI.2.1⟩
  refine exec_history (I := fun es (m : Maquina) =>
    m.sw.neighborTable = (saludos es).foldl saluda [] ∧
      (saludos es).Pairwise (fun g h => g.now ≤ h.now) ∧ ∀ h ∈ saludos es, h.now ≤ m.now) hrun
    ⟨rfl, .nil, fun h hh => absurd hh not_mem_nil⟩ ?_
  rintro es m e m' _ ⟨htab, hord, hult⟩ _ hs
  have hsplit : saludos (es ++ [e]) = saludos es ++ e.saludo.toList := by
    unfold saludos
    rw [filterMap_append]
    cases he : e.saludo <;> simp [he]
  rw [hsplit]
  -- an event without a hello leaves the table as it is
  have hsin : e.saludo = none → m'.sw.neighborTable = m.sw.neighborTable → m.now ≤ m'.now →
      m'.sw.neighborTable = (saludos es ++ e.saludo.toList).foldl saluda [] ∧
      (saludos es ++ e.saludo.toList).Pairwise (fun g h => g.now ≤ h.now) ∧
      ∀ h ∈ saludos es ++ e.saludo.toList, h.now ≤ m'.now := by
    intro he hv hle
    rw [he, Option.toList_none, append_nil, hv]
    exact ⟨htab, hord, fun h hh => (hult h hh).trans hle⟩
  obtain ⟨hle, ⟨tablas, pkt, r, rfl, hr, hsw⟩ | ⟨hno, _, _, hv⟩⟩ := Maquina.paso_cases hs
  · rcases pipelineProcessUah_llama hr with ⟨httl, hh, heq⟩ | ⟨hh, f, _, hl, _⟩
    · have he : (Suceso.trama tablas pkt m'.now).saludo = some (.de pkt m'.now) := by
        rw [Suceso.saludo, httl, hh]
        rfl
      rw [he, Option.toList_some, foldl_append, ← htab, hsw, heq]
      refine ⟨rfl, ?_, fun h hh => ?_⟩
      · refine pairwise_append.mpr ⟨hord, pairwise_singleton _ _, fun g hg h hh => ?_⟩
        rw [mem_singleton.mp hh]
        exact (hult g hg).trans hle
      · rcases mem_append.mp hh with hh | hh
        · exact (hult h hh).trans hle
        · rw [mem_singleton.mp hh]
          exact Nat.le_refl _
    · refine hsin ?_ (by rw [hsw]; exact hl.vecinos) hle
      rw [Suceso.saludo, hh]
      rfl
  · refine hsin ?_ hv hle
    cases e with
    | trama tablas pkt now => cases hno
    | macDeleteTimeout now => rfl
    | tcpDeleteTimeout now => rfl
    | reloj now => rfl

theorem saluda_cases (t : MacTable) (h : Saludo) :
    ((macToPortFoundPort t h.mac h.now).1 = none ∧
      saluda t h = t ++ [⟨h.mac, port16 h.inPort, h.tipo, h.now + timeRecovery * 1000⟩]) ∨
    ((macToPortFoundPort t h.mac h.now).1 ≠ none ∧ ∃ t', t'.Perm t ∧ saluda t h =
      modifyFirst (·.hasMac h.mac) (fun e =>
        { e.refresh (h.now + timeRecovery * 1000) with portIn := port16 h.inPort }) t') := by
  unfold saluda
  by_cases hf : (macToPortFoundPort t h.mac h.now).1 = none
  · refine .inl ⟨hf, ?_⟩
    dsimp only
    rw [if_pos hf, macToPortFoundPort_of_none hf]
  · refine .inr ⟨hf, _, foundPort_perm t h.mac h.now, ?_⟩
    dsimp only
    rw [if_neg hf]
    rfl

/-! ## 2. One entry per neighbour -/

/-- The hello `h` behind `hs` finds an entry of its address live: the first hello of the address had
    the type byte 1 (the flag that never expires), or one of them is less than a second old. -/
def Oportuno (hs : List Saludo) (h : Saludo) : Prop :=
  ∀ h₀, hs.find? (fun g => decide (g.mac = h.mac)) = some h₀ →
    h₀.tipo = 1 ∨ ∃ g ∈ hs, g.mac = h.mac ∧ h.now < g.now + timeRecovery * 1000

/-- Every hello of an address that has said hello before comes in time. -/
def Puntual (hs : List Saludo) : Prop := ∀ pre h post, hs = pre ++ h :: post → Oportuno pre h

theorem puntual_concat : Puntual (hs ++ [h]) ↔ Puntual hs ∧ Oportuno hs h := by
  constructor
  · intro hp
    refine ⟨fun pre g post he => hp pre g (post ++ [h]) ?_, hp hs h [] rfl⟩
    rw [he, append_assoc, cons_append]
  · rintro ⟨hp, hop⟩ pre g post he
    rcases eq_nil_or_concat post with rfl | ⟨post', x, rfl⟩
    · obtain ⟨rfl, hg⟩ := append_inj' he rfl
      cases hg
      exact hop
    · refine hp pre g post' ?_
      have he' : hs ++ [h] = (pre ++ g :: post') ++ [x] := by
        rw [he, concat_eq_append, append_assoc, cons_append]
      exact (append_inj' he' rfl).1

/-- The table after hellos that came in time: one entry per address, with the type of the first
    hello of the address, that expires a second after the last one. -/
structure Registro (hs : List Saludo) (t : MacTable) : Prop where
  nodup : (t.map (·.mac)).Nodup
  viene : ∀ e ∈ t, ∃ h ∈ hs, h.mac = e.mac
  entrada : ∀ mac h₀, hs.find? (fun g => decide (g.mac = mac)) = some h₀ →
    ∃ e ∈ t, e.mac = mac ∧ e.vecino = h₀.tipo ∧
      (∀ g ∈ hs, g.mac = mac → g.now + timeRecovery * 1000 ≤ e.timeEntry) ∧
      ∃ g ∈ hs, g.mac = mac ∧ e.timeEntry = g.now + timeRecovery * 1000

namespace Registro

variable {hs : List Saludo} {h : Saludo} {t : MacTable}

theorem found_iff (hr : Registro hs t) {h₀ : Saludo}
    (h0 : hs.find? (fun g => decide (g.mac = h.mac)) = some h₀) :
    (macToPortFoundPort t h.mac h.now).1 ≠ none ↔ Oportuno hs h := by
  obtain ⟨e, he, hmac, hvec, hmax, g, hg, hgm, hge⟩ := hr.entrada h.mac h₀ h0
  have huna : ∀ e' ∈ t, e'.mac = h.mac → e' = e := fun e' he' hm =>
    inj_on_of_nodup_map hr.nodup he' he (hm.trans hmac.symm)
  have hlive : (macToPortFoundPort t h.mac h.now).1 ≠ none ↔ e.live h.now = true := by
    rw [ne_eq, foundPort_eq_none_iff, ← Bool.not_eq_false, not_iff_not]
    exact ⟨fun hall => hall e he hmac, fun hd e' he' hm => huna e' he' hm ▸ hd⟩
  rw [hlive, MacPortTime.live, Bool.or_eq_true, decide_eq_true_eq, beq_iff_eq, hvec]
  constructor
  · rintro (hlt | h1) h₁ hh₁
    · exact .inr ⟨g, hg, hgm, hge ▸ hlt⟩
    · cases h0.symm.trans hh₁
      exact .inl h1
  · intro hop
    rcases hop h₀ h0 with h1 | ⟨g', hg', hgm', hlt⟩
    · exact .inr h1
    · exact .inl (hlt.trans_le (hmax g' hg' hgm'))

theorem otra (hr : Registro hs t) {mac : EthAddr} {h₀ : Saludo} {t' : MacTable} (hm : h.mac ≠ mac)
    (hh₀ : (hs ++ [h]).find? (fun g => decide (g.mac = mac)) = some h₀)
    (ht : ∀ e ∈ t, e.mac = mac → e ∈ t') :
    ∃ e ∈ t', e.mac = mac ∧ e.vecino = h₀.tipo ∧
      (∀ g ∈ hs ++ [h], g.mac = mac → g.now + timeRecovery * 1000 ≤ e.timeEntry) ∧
      ∃ g ∈ hs ++ [h], g.mac = mac ∧ e.timeEntry = g.now + timeRecovery * 1000 := by
  rw [find?_append, find?_singleton, decide_eq_false hm] at hh₀
  obtain ⟨e, he, hmac, hvec, hmax, g, hg, hge⟩ := hr.entrada mac h₀ (by simpa using hh₀)
  refine ⟨e, ht e he hmac, hmac, hvec, fun g' hg' hgm' => ?_, g, mem_append_left _ hg, hge⟩
  rcases mem_append.mp hg' with hg' | hg'
  · exact hmax g' hg' hgm'
  · rw [mem_singleton.mp hg'] at hgm'
    exact absurd hgm' hm

theorem nuevo (hr : Registro hs t) (h0 : hs.find? (fun g => decide (g.mac = h.mac)) = none) :
    Registro (hs ++ [h]) (saluda t h) := by
  have hno : ∀ g ∈ hs, g.mac ≠ h.mac := fun g hg => by simpa using find?_eq_none.mp h0 g hg
  have hnot : ∀ e ∈ t, e.mac ≠ h.mac := fun e he hm => by
    obtain ⟨g, hg, hgm⟩ := hr.viene e he
    exact hno g hg (hgm.trans hm)
  have hf : (macToPortFoundPort t h.mac h.now).1 = none :=
    foundPort_eq_none_iff.mpr fun e he hm => absurd hm (hnot e he)
  rcases saluda_cases t h with ⟨_, heq⟩ | ⟨hf', _⟩
  swap
  · exact absurd hf hf'
  rw [heq]
  refine ⟨?_, fun e he => ?_, fun mac h₀ hh₀ => ?_⟩
  · rw [map_append]
    refine nodup_append.mpr ⟨hr.nodup, nodup_singleton _, fun a ha b hb hab => ?_⟩
    obtain ⟨e, he, rfl⟩ := mem_map.mp ha
    exact hnot e he (hab.trans (mem_singleton.mp hb))
  · rcases mem_append.mp he with he | he
    · obtain ⟨g, hg, hgm⟩ := hr.viene e he
      exact ⟨g, mem_append_left _ hg, hgm⟩
    · rw [mem_singleton.mp he]
      exact ⟨h, mem_append_right _ (mem_singleton_self h), rfl⟩
  · by_cases hm : h.mac = mac
    · subst hm
      rw [find?_append, h0, Option.none_or, find?_singleton,
        decide_eq_true rfl] at hh₀
      cases hh₀
      refine ⟨_, mem_append_right _ (mem_singleton_self _), rfl, rfl, fun g hg hgm => ?_,
        h, mem_append_right _ (mem_singleton_self h), rfl, rfl⟩
      rcases mem_append.mp hg with hg | hg
      · exact absurd hgm (hno g hg)
      · rw [mem_singleton.mp hg]
    · exact hr.otra hm hh₀ fun e he _ => mem_append_left _ he

theorem renueva (hr : Registro hs t) (hord : ∀ g ∈ hs, g.now ≤ h.now) {h₁ : Saludo}
    (h1 : hs.find? (fun g => decide (g.mac = h.mac)) = some h₁) (hop : Oportuno hs h) :
    Registro (hs ++ [h]) (saluda t h) := by
  rcases saluda_cases t h with ⟨hf, _⟩ | ⟨_, t', hperm, heq⟩
  · exact absurd hf ((hr.found_iff h1).mpr hop)
  rw [heq]
  have hnodup' : (t'.map (·.mac)).Nodup := (hperm.map _).nodup_iff.mpr hr.nodup
  refine ⟨?_, fun e he => ?_, fun mac h₀ hh₀ => ?_⟩
  · rw [map_modifyFirst]
    · exact hnodup'
    · exact fun _ _ => rfl
  · have hviene : ∀ e ∈ t', ∃ g ∈ hs ++ [h], g.mac = e.mac := fun e he => by
      obtain ⟨g, hg, hgm⟩ := hr.viene e (hperm.mem_iff.mp he)
      exact ⟨g, mem_append_left _ hg, hgm⟩
    rcases mem_modifyFirst he with he | ⟨e', he', rfl⟩
    · exact hviene e he
    · exact hviene e' (mem_of_find?_eq_some he')
  · by_cases hm : h.mac = mac
    · subst hm
      rw [find?_append, h1, Option.some_or] at hh₀
      cases hh₀
      obtain ⟨e, he, hmac, hvec, hmax, g, hg, hgm, hge⟩ := hr.entrada h.mac h₁ h1
      have hfirst : t'.find? (·.hasMac h.mac) = some e :=
        hmac ▸ find?_hasMac hnodup' (hperm.mem_iff.mpr he)
      have hle : e.timeEntry ≤ h.now + timeRecovery * 1000 := by
        have := hord g hg
        omega
      have htime := MacPortTime.timeEntry_refresh hle
      refine ⟨_, mem_modifyFirst_hit _ hfirst, hmac, hvec, fun g' hg' _ => ?_, h,
        mem_append_right _ (mem_singleton_self h), rfl, htime⟩
      refine le_trans (Nat.add_le_add_right ?_ _) htime.ge
      rcases mem_append.mp hg' with hg' | hg'
      · exact hord g' hg'
      · rw [mem_singleton.mp hg']
    · refine hr.otra hm hh₀ fun e he hmac => ?_
      have hno : e.hasMac h.mac = false :=
        Bool.eq_false_iff.mpr fun hh => hm ((MacPortTime.hasMac_iff.mp hh).symm.trans hmac)
      exact mem_modifyFirst_of_not _ (hperm.mem_iff.mpr he) hno

theorem saluda (hr : Registro hs t) (hord : ∀ g ∈ hs, g.now ≤ h.now) (hop : Oportuno hs h) :
    Registro (hs ++ [h]) (saluda t h) := by
  cases h1 : hs.find? (fun g => decide (g.mac = h.mac)) with
  | none => exact hr.nuevo h1
  | some h₁ => exact hr.renueva hord h1 hop

end Registro

theorem nodup_of_saluda (hn : ((saluda t h).map (·.mac)).Nodup) : (t.map (·.mac)).Nodup := by
  rcases saluda_cases t h with ⟨_, heq⟩ | ⟨_, t', hperm, heq⟩
  · rw [heq, map_append] at hn
    exact (nodup_append.mp hn).1
  · rw [heq, map_modifyFirst] at hn
    · exact (hperm.map _).nodup_iff.mp hn
    · exact fun _ _ => rfl

theorem registro_of_puntual (hord : hs.Pairwise fun g h => g.now ≤ h.now) (hp : Puntual hs) :
    Registro hs (hs.foldl saluda []) := by
  induction hs using List.reverseRecOn with
  | nil =>
    exact ⟨nodup_nil, fun e he => absurd he not_mem_nil, fun mac h₀ h0 => by cases h0⟩
  | append_singleton hs h ih =>
    obtain ⟨hp', hop⟩ := puntual_concat.mp hp
    obtain ⟨hord', _, hlast⟩ := pairwise_append.mp hord
    rw [foldl_append]
    exact (ih hord' hp').saluda (fun g hg => hlast g hg h (mem_singleton_self h)) hop

theorem puntual_of_nodup (hord : hs.Pairwise fun g h => g.now ≤ h.now)
    (hn : ((hs.foldl saluda []).map (·.mac)).Nodup) : Puntual hs := by
  induction hs using List.reverseRecOn with
  | nil =>
    intro pre h post he
    cases pre <;> cases he
  | append_singleton hs h ih =>
    obtain ⟨hord', _, _⟩ := pairwise_append.mp hord
    rw [foldl_append] at hn
    have hp := ih hord' (nodup_of_saluda hn)
    have hr := registro_of_puntual hord' hp
    refine puntual_concat.mpr ⟨hp, fun h₀ h0 => ?_⟩
    -- a late hello would make a second entry
    refine (hr.found_iff h0).mp (fun hf => ?_) h₀ h0
    obtain ⟨e, he, hmac, _⟩ := hr.entrada h.mac h₀ h0
    rcases saluda_cases (hs.foldl saluda []) h with ⟨_, heq⟩ | ⟨hf', _⟩
    · rw [foldl_cons, foldl_nil, heq, map_append] at hn
      exact (nodup_append.mp hn).2.2 e.mac (mem_map_of_mem he) h.mac
        (mem_singleton_self _) hmac
    · exact hf' hf

/-- **The neighbour table after a run** has one entry per address exactly if every hello came in
    time; it then has no more entries than there are neighbours. -/
theorem maquina_vecinos_acotados {n : Nodo} {es : List Suceso} {m : Maquina}
    (hrun : exec (Maquina.paso n) (fun _ _ => True) es ⟨Switch.inicial, 0⟩ = some m) :
    ((m.sw.neighborTable.map (·.mac)).Nodup ↔ Puntual (saludos es)) ∧
      (Puntual (saludos es) → ∀ K : Finset EthAddr, (∀ h ∈ saludos es, h.mac ∈ K) →
        m.sw.neighborTable.length ≤ K.card) := by
  obtain ⟨htab, hord⟩ := vecinos_of_exec hrun
  rw [htab]
  refine ⟨⟨puntual_of_nodup hord, fun hp => (registro_of_puntual hord hp).nodup⟩, fun hp K hK => ?_⟩
  have hr := registro_of_puntual hord hp
  rw [← length_map (·.mac), ← toFinset_card_of_nodup hr.nodup]
  refine Finset.card_le_card fun mac hmac => ?_
  obtain ⟨e, he, rfl⟩ := mem_map.mp (mem_toFinset.mp hmac)
  obtain ⟨h, hh, hhm⟩ := hr.viene e he
  exact hhm ▸ hK h hh

/-- A hello frame of the address 00:00:00:00:00:`x` with the type byte `tipo`. -/
def saludoDe (x tipo : UInt8) (puerto : Nat) : Packet :=
  packetCreate decodifica puerto
    [0xff, 0xff, 0xff, 0xff, 0xff, 0xff, 0, 0, 0, 0, 0, x, 0x76, 0x98, tipo]

/-- Two hellos of a neighbour, the second after `espera` milliseconds. -/
def dosSaludos (espera : Nat) : List Suceso :=
  [.trama sinTablas (saludoDe 9 3 1) 0, .trama sinTablas (saludoDe 9 3 1) espera]

theorem maquina_vecinos_acotados_aTiempo :
    ∃ m : Maquina, exec (Maquina.paso ⟨decodifica, ⟨0, false⟩, dosPuertos⟩) (fun _ _ => True)
        (dosSaludos 999) ⟨Switch.inicial, 0⟩ = some m ∧
      Puntual (saludos (dosSaludos 999)) ∧
      m.sw.neighborTable.length ≤ ({(saludoDe 9 3 1).ethSrc} : Finset EthAddr).card := by
  have hrun : exec (Maquina.paso ⟨decodifica, ⟨0, false⟩, dosPuertos⟩) (fun _ _ => True)
      (dosSaludos 999) ⟨Switch.inicial, 0⟩ = some _ := rfl
  obtain ⟨hiff, hcard⟩ := maquina_vecinos_acotados hrun
  have hp := hiff.mp (by decide)
  have hmac : ∀ h ∈ saludos (dosSaludos 999), h.mac = (saludoDe 9 3 1).ethSrc := by
    decide
  exact ⟨_, hrun, hp, hcard hp _ fun h hh => Finset.mem_singleton.mpr (hmac h hh)⟩

/-- **A neighbour with two entries**: its second hello comes after a second. -/
theorem maquina_vecinos_tarde :
    ∃ m : Maquina, exec (Maquina.paso ⟨decodifica, ⟨0, false⟩, dosPuertos⟩) (fun _ _ => True)
        (dosSaludos 1000) ⟨Switch.inicial, 0⟩ = some m ∧
      m.sw.neighborTable.length = 2 ∧
      ∀ e ∈ m.sw.neighborTable, e.mac = (saludoDe 9 3 1).ethSrc :=
  ⟨_, rfl, by decide, by decide⟩

/-! ## 3. The type of a port -/

theorem saluda_puertos (hsitio : ∀ e ∈ t, e.mac = h.mac → e.portIn = port16 h.inPort) (p : Nat) :
    (∃ e ∈ saluda t h, e.portIn = p) ↔ (∃ e ∈ t, e.portIn = p) ∨ p = port16 h.inPort := by
  rcases saluda_cases t h with ⟨_, heq⟩ | ⟨hf, t', hperm, heq⟩
  · rw [heq]
    constructor
    · rintro ⟨e, he, rfl⟩
      rcases mem_append.mp he with he | he
      · exact .inl ⟨e, he, rfl⟩
      · exact .inr (by rw [mem_singleton.mp he])
    · rintro (⟨e, he, rfl⟩ | rfl)
      · exact ⟨e, mem_append_left _ he, rfl⟩
      · exact ⟨_, mem_append_right _ (mem_singleton_self _), rfl⟩
  · rw [heq]
    constructor
    · rintro ⟨e, he, rfl⟩
      rcases mem_modifyFirst he with he | ⟨e', _, rfl⟩
      · exact .inl ⟨e, hperm.mem_iff.mp he, rfl⟩
      · exact .inr rfl
    · have hhay : ∃ e ∈ modifyFirst (·.hasMac h.mac)
          (fun e => { e.refresh (h.now + timeRecovery * 1000) with portIn := port16 h.inPort }) t',
          e.portIn = port16 h.inPort := by
        obtain ⟨q, hq⟩ := Option.ne_none_iff_exists'.mp hf
        obtain ⟨e, he, hmac, _⟩ := mem_of_foundPort hq
        cases hx : t'.find? (·.hasMac h.mac) with
        | none =>
          exact absurd (MacPortTime.hasMac_iff.mpr hmac)
            (find?_eq_none.mp hx e (hperm.mem_iff.mpr he))
        | some x => exact ⟨_, mem_modifyFirst_hit _ hx, rfl⟩
      rintro (⟨e, he, rfl⟩ | rfl)
      · by_cases hmac : e.mac = h.mac
        · rw [hsitio e he hmac]
          exact hhay
        · refine ⟨e, mem_modifyFirst_of_not _ (hperm.mem_iff.mpr he) ?_, rfl⟩
          exact Bool.eq_false_iff.mpr (mt MacPortTime.hasMac_iff.mp hmac)
      · exact hhay

/-- The type byte of the latest hello on port `p`, 0 without one. -/
def tipoReciente (hs : List Saludo) (p : Nat) : Nat :=
  match hs.reverse.find? fun h => h.inPort == p with
  | some h => h.tipo
  | none => 0

/-- Neighbours stay on their ports, which are not reserved numbers. -/
def Quietos (hs : List Saludo) : Prop :=
  (∀ h ∈ hs, h.inPort < 2 ^ 16) ∧ ∀ h ∈ hs, ∀ h' ∈ hs, h.mac = h'.mac → h.inPort = h'.inPort

theorem vecinos_quietos (hq : Quietos hs) :
    (∀ e ∈ hs.foldl saluda [], ∃ h ∈ hs, h.mac = e.mac ∧ h.inPort = e.portIn ∧ h.tipo = e.vecino) ∧
      ∀ h ∈ hs, ∃ e ∈ hs.foldl saluda [], e.portIn = h.inPort := by
  induction hs using List.reverseRecOn with
  | nil => exact ⟨fun e he => absurd he not_mem_nil, fun h hh => absurd hh not_mem_nil⟩
  | append_singleton hs h ih =>
    have hmem : h ∈ hs ++ [h] := mem_append_right _ (mem_singleton_self h)
    have h16 : port16 h.inPort = h.inPort := Nat.mod_eq_of_lt (hq.1 h hmem)
    obtain ⟨hviene, hhay⟩ := ih ⟨fun g hg => hq.1 g (mem_append_left _ hg),
      fun g hg g' hg' => hq.2 g (mem_append_left _ hg) g' (mem_append_left _ hg')⟩
    have hsitio : ∀ e ∈ hs.foldl saluda [], e.mac = h.mac → e.portIn = h.inPort := by
      intro e he hm
      obtain ⟨g, hg, hgm, hgp, _⟩ := hviene e he
      exact hgp.symm.trans (hq.2 g (mem_append_left _ hg) h hmem (hgm.trans hm))
    have hold : ∀ e ∈ hs.foldl saluda [], ∃ g ∈ hs ++ [h],
        g.mac = e.mac ∧ g.inPort = e.portIn ∧ g.tipo = e.vecino := by
      intro e he
      obtain ⟨g, hg, hge⟩ := hviene e he
      exact ⟨g, mem_append_left _ hg, hge⟩
    rw [foldl_append, foldl_cons, foldl_nil]
    refine ⟨fun e he => ?_, fun g hg => ?_⟩
    · rcases saluda_cases (hs.foldl saluda []) h with ⟨_, heq⟩ | ⟨_, t', hperm, heq⟩
      · rw [heq] at he
        rcases mem_append.mp he with he | he
        · exact hold e he
        · rw [mem_singleton.mp he]
          exact ⟨h, hmem, rfl, h16.symm, rfl⟩
      · rw [heq] at he
        rcases mem_modifyFirst he with he | ⟨e', he', rfl⟩
        · exact hold e (hperm.mem_iff.mp he)
        · -- the entry that is moved is already on the port of the hello
          have het := hperm.mem_iff.mp (mem_of_find?_eq_some he')
          obtain ⟨g, hg, hgm, hgp, hgt⟩ := hold e' het
          refine ⟨g, hg, hgm, ?_, hgt⟩
          rw [hgp, hsitio e' het (MacPortTime.hasMac_iff.mp (find?_some he'))]
          exact h16.symm
    · refine (saluda_puertos (fun e he hm => ?_) g.inPort).mpr ?_
      · rw [h16]
        exact hsitio e he hm
      · rcases mem_append.mp hg with hg | hg
        · exact .inl (hhay g hg)
        · rw [mem_singleton.mp hg, h16]
          exact .inr rfl

/-- **The type of a port** is that of the latest hello on it, after a run in which no neighbour
    moved and all hellos on a port had the same type byte. -/
theorem maquina_tipo_reciente {n : Nodo} {es : List Suceso} {m : Maquina}
    (hrun : exec (Maquina.paso n) (fun _ _ => True) es ⟨Switch.inicial, 0⟩ = some m)
    (hq : Quietos (saludos es))
    (htipo : ∀ h ∈ saludos es, ∀ h' ∈ saludos es, h.inPort = h'.inPort → h.tipo = h'.tipo)
    (p : Nat) : tipoSwitchPort m.sw.neighborTable p = tipoReciente (saludos es) p := by
  obtain ⟨hviene, hhay⟩ := vecinos_quietos hq
  rw [(vecinos_of_exec hrun).1]
  unfold tipoSwitchPort tipoReciente
  cases he : ((saludos es).foldl saluda []).find? fun e => e.portIn == p with
  | none =>
    have hno : (saludos es).reverse.find? (fun h => h.inPort == p) = none := by
      refine find?_eq_none.mpr fun h hh hp => ?_
      obtain ⟨e, hem, hep⟩ := hhay h (mem_reverse.mp hh)
      exact find?_eq_none.mp he e hem (hep ▸ hp)
    rw [hno]
  | some e =>
    have hep : e.portIn = p := by simpa using find?_some he
    obtain ⟨h, hh, _, hhp, hht⟩ := hviene e (mem_of_find?_eq_some he)
    cases hx : (saludos es).reverse.find? fun h => h.inPort == p with
    | none =>
      have hne := find?_eq_none.mp hx h (mem_reverse.mpr hh)
      exact absurd (hhp.trans hep) (by simpa using hne)
    | some x =>
      have hxp : x.inPort = p := by simpa using find?_some hx
      have hxm := mem_reverse.mp (mem_of_find?_eq_some hx)
      exact hht.symm.trans (htipo h hh x hxm ((hhp.trans hep).trans hxp.symm))

theorem maquina_tipo_reciente_dosSaludos :
    ∃ m : Maquina, exec (Maquina.paso ⟨decodifica, ⟨0, false⟩, dosPuertos⟩) (fun _ _ => True)
        (dosSaludos 1000) ⟨Switch.inicial, 0⟩ = some m ∧
      tipoSwitchPort m.sw.neighborTable 1 = 3 ∧ tipoReciente (saludos (dosSaludos 1000)) 1 = 3 := by
  have hrun : exec (Maquina.paso ⟨decodifica, ⟨0, false⟩, dosPuertos⟩) (fun _ _ => True)
      (dosSaludos 1000) ⟨Switch.inicial, 0⟩ = some _ := rfl
  have htipo : tipoReciente (saludos (dosSaludos 1000)) 1 = 3 := by decide
  refine ⟨_, hrun, ?_, htipo⟩
  rw [maquina_tipo_reciente hrun ⟨by decide, by decide⟩ (by decide) 1]
  exact htipo

/-- **A port with an old type**: the neighbour on port 1 first says 3 and then 2. -/
theorem maquina_tipo_viejo :
    ∃ m : Maquina, exec (Maquina.paso ⟨decodifica, ⟨0, false⟩, dosPuertos⟩) (fun _ _ => True)
        [.trama sinTablas (saludoDe 9 3 1) 0, .trama sinTablas (saludoDe 9 2 1) 500]
        ⟨Switch.inicial, 0⟩ = some m ∧
      tipoSwitchPort m.sw.neighborTable 1 = 3 ∧
      tipoReciente (saludos [.trama sinTablas (saludoDe 9 3 1) 0,
        .trama sinTablas (saludoDe 9 2 1) 500]) 1 = 2 :=
  ⟨_, rfl, by decide, by decide⟩

/-! ## 4. Hosts and neighbours -/

/-- No neighbour has said hello on port `p`. -/
def SinVecino (nt : MacTable) (p : Nat) : Prop := ∀ e ∈ nt, e.portIn ≠ p

theorem isNeighbor_eq_one_iff {nt : MacTable} {p : Nat} : isNeighbor nt p = 1 ↔ SinVecino nt p := by
  unfold isNeighbor SinVecino
  cases hx : nt.any fun e => e.portIn == p with
  | true => simpa using any_eq_true.mp hx
  | false => simpa using any_eq_false.mp hx

/-- Frames come from ports with 16-bit numbers; a neighbour says hello on one port only, and before
    any address is learned behind it. -/
def HelloAntes (m : Maquina) : Suceso → Prop
  | .trama tablas pkt _ => (∀ f ∈ tramas tablas pkt, f.inPort < 2 ^ 16) ∧
      (packetHandleStdIsTtlValid pkt = true → esHello pkt = true →
        (∀ e ∈ m.sw.neighborTable, e.mac = pkt.ethSrc → e.portIn = pkt.inPort) ∧
        ((∀ e ∈ m.sw.neighborTable, e.portIn ≠ pkt.inPort) →
          ∀ e ∈ m.sw.macPort, e.portIn ≠ pkt.inPort))
  | _ => True

instance (m : Maquina) : (e : Suceso) → Decidable (HelloAntes m e)
  | .trama _ _ _ => inferInstanceAs (Decidable (_ ∧ _))
  | .macDeleteTimeout _ => .isTrue trivial
  | .tcpDeleteTimeout _ => .isTrue trivial
  | .reloj _ => .isTrue trivial

/-- `vecino` says whether there is a neighbour behind the port of the entry. -/
def Coherente (s : Switch) : Prop :=
  ∀ e ∈ s.macPort, (e.vecino = 1 ↔ SinVecino s.neighborTable e.portIn)

theorem Coherente.llama {f : Packet} {s' : Switch} (hc : Coherente s) (hu : Unico now s.macPort)
    (hp : f.inPort < 2 ^ 16) (hl : Llama n now f s s') : Coherente s' := by
  unfold Coherente
  rw [hl.vecinos]
  refine hl.cumple (P := fun _ p v => v = 1 ↔ SinVecino s.neighborTable p) hu (fun q hq => ?_) hc
  rw [isNeighbor_eq_one_iff, port16, hq.inPort, Nat.mod_eq_of_lt hp]

theorem Coherente.hello {pkt : Packet} (hc : Coherente s) (hp : pkt.inPort < 2 ^ 16)
    (hsitio : ∀ e ∈ s.neighborTable, e.mac = pkt.ethSrc → e.portIn = pkt.inPort)
    (hantes : (∀ e ∈ s.neighborTable, e.portIn ≠ pkt.inPort) →
      ∀ e ∈ s.macPort, e.portIn ≠ pkt.inPort) : Coherente (recibeHello now s pkt) := by
  have h16 : port16 pkt.inPort = pkt.inPort := Nat.mod_eq_of_lt hp
  intro e he
  rw [hc e he, recibeHello_neighborTable]
  have hports := saluda_puertos (t := s.neighborTable) (h := .de pkt now)
    (fun x hx hm => (hsitio x hx hm).trans h16.symm) e.portIn
  -- the only port that the hello may add has no entry behind it, or a neighbour already
  have hnueva : e.portIn = port16 pkt.inPort → ∃ x ∈ s.neighborTable, x.portIn = e.portIn := by
    intro heq
    by_contra hno
    rw [heq, h16] at hno
    exact hantes (fun x hx hxp => hno ⟨x, hx, hxp⟩) e he (heq.trans h16)
  constructor
  · intro hsin x hx hxp
    rcases hports.mp ⟨x, hx, hxp⟩ with ⟨y, hy, hyp⟩ | heq
    · exact hsin y hy hyp
    · obtain ⟨y, hy, hyp⟩ := hnueva heq
      exact hsin y hy hyp
  · intro hsin x hx hxp
    obtain ⟨y, hy, hyp⟩ := hports.mpr (.inl ⟨x, hx, hxp⟩)
    exact hsin y hy hyp

/-- **The host flag is consistent** where hellos come first: `vecino` is 1 exactly if no neighbour
is behind the port, and `dst_is_neighbor` 1 exactly for destinations behind such a port. -/
theorem maquina_vecino_coherente {n : Nodo} {m : Maquina}
    (hrun : Run (Maquina.paso n) HelloAntes ⟨Switch.inicial, 0⟩ m) :
    (∀ e ∈ m.sw.macPort, (e.vecino = 1 ↔ SinVecino m.sw.neighborTable e.portIn)) ∧
      ∀ pkt, dstIsNeighbor pkt m.sw.macPort = 1 ↔
        ∃ e, m.sw.macPort.find? (·.hasMac (dstLookedUp pkt)) = some e ∧
          SinVecino m.sw.neighborTable e.portIn := by
  have hI : Unico m.now m.sw.macPort ∧ Coherente m.sw := by
    refine Run.invariant (I := fun m : Maquina => Unico m.now m.sw.macPort ∧ Coherente m.sw) hrun
      ⟨.nil, fun e he => absurd he not_mem_nil⟩ ?_
    rintro m e m' ⟨hu, hc⟩ hok hs
    refine ⟨Maquina.paso_unico hs hu, ?_⟩
    obtain ⟨hle, ⟨tablas, pkt, r, rfl, hr, hsw⟩ | ⟨_, hsub, _, hv⟩⟩ := Maquina.paso_cases hs
    · obtain ⟨hports, hhello⟩ := hok
      rw [hsw]
      rcases pipelineProcessUah_llama hr with ⟨httl, hh, heq⟩ | ⟨_, f, hf, hl, _⟩
      · rw [heq]
        exact hc.hello (hports pkt mem_cons_self) (hhello httl hh).1 (hhello httl hh).2
      · exact hc.llama (hu.advance hle) (hports f hf) hl
    · intro e he
      rw [hv]
      exact hc e (hsub.subset he)
  refine ⟨hI.2, fun pkt => ?_⟩
  unfold dstIsNeighbor vecinoOf
  cases hf : m.sw.macPort.find? (·.hasMac (dstLookedUp pkt)) with
  | none => simp
  | some e => simpa using hI.2 e (mem_of_find?_eq_some hf)

/-- A neighbour on port 1 says hello; then an address is learned behind it, and a host on port 2. -/
theorem maquina_vecino_coherente_hello :
    ∃ m : Maquina, Run (Maquina.paso ⟨decodifica, ⟨0, false⟩, dosPuertos⟩) HelloAntes
        ⟨Switch.inicial, 0⟩ m ∧
      (m.sw.macPort.map fun e => (e.portIn, e.vecino)) = [(2, 1), (1, 0)] ∧
      ∀ e ∈ m.sw.macPort, (e.vecino = 1 ↔ SinVecino m.sw.neighborTable e.portIn) :=
  Run.exists_exec₁ [.trama sinTablas (saludoDe 9 3 1) 0, .trama sinTablas (tramaDe 7 0x88 0xb5 1) 1,
    .trama sinTablas (tramaDe 5 0x88 0xb5 2) 2] (by decide) fun _ hrun _ =>
      (maquina_vecino_coherente hrun).1

/-- **A neighbour that is taken for a host's port**: an address is learned behind port 1 before the
    neighbour on port 1 says hello. -/
theorem maquina_vecino_tarde :
    ∃ m : Maquina, m.Alcanzable ⟨decodifica, ⟨0, false⟩, dosPuertos⟩ ∧
      (m.sw.macPort.map fun e => (e.portIn, e.vecino, e.live m.now)) = [(1, 1, true)] ∧
      (m.sw.neighborTable.map fun e => e.portIn) = [1] ∧
      vecinoOf m.sw.macPort (tramaDe 7 0x88 0xb5 1).ethSrc = 1 :=
  Run.exists_exec _ _ [.trama sinTablas (tramaDe 7 0x88 0xb5 1) 0,
    .trama sinTablas (saludoDe 9 3 1) 1] _ _ (by decide)

end TcpPath
