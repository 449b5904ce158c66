/-
  Subject:   ARP-Path floods end: over any topology, cycles included, each switch floods a
             broadcast frame of a host at most once.

  The count goes along the learned ports of ArpPath.lean. A switch floods a copy only if it comes
  in through the port it has for the source; the copies on that link were put there by the switch
  behind it, one for each of its own floods, because a row of the output matrix names a port at
  most once; and behind the last port there is the host, which emitted the frame once.
-/
import TcpPath.ArpPath

namespace TcpPath

open Util List

variable {V : Type}

/-! ## 1. The invariant -/

/-- The copies of emission `i` on the way to port `p` of `v`. -/
def Copia.va [DecidableEq V] (i : Nat) (v : V) (p : Nat) (c : Copia V) : Bool :=
  decide (c.id = i ∧ c.dest = .switch v p)

namespace Estado

variable [DecidableEq V]

/-- How many copies of emission `i` have been on the link to port `p` of `v` and were not lost. -/
def cuenta (s : Estado V) (i : Nat) (v : V) (p : Nat) : Nat :=
  s.vuelo.countP (Copia.va i v p) + s.llegadas.countP (Copia.va i v p)

/-- How many copies of emission `i` switch `v` has taken from the port it has for `mac`. -/
def porPuerto (s : Estado V) (i : Nat) (mac : EthAddr) (v : V) : Nat :=
  match s.puerto mac v with
  | none => 0
  | some p => s.llegadas.countP (Copia.va i v p)

variable {s : Estado V} {i : Nat} {mac : EthAddr} {v : V}

theorem porPuerto_of_none (h : s.puerto mac v = none) : s.porPuerto i mac v = 0 := by
  rw [porPuerto, h]

theorem porPuerto_of_some {p : Nat} (h : s.puerto mac v = some p) :
    s.porPuerto i mac v = s.llegadas.countP (Copia.va i v p) := by
  rw [porPuerto, h]

end Estado

/-- Emission `i` is the flooded frame `buf` of host `h`. -/
def Emision (red : Red V) (s : Estado V) (i : Nat) (h : EthAddr) (buf : Bytes) : Prop :=
  s.emitidas[i]? = some (h, buf) ∧ (red.pkt 0 buf).isFlooded = true

structure FloodInv [DecidableEq V] (red : Red V) (s : Estado V) : Prop where
  trama : ∀ c ∈ s.vuelo, s.emitidas[c.id]? = some (red.src c.buf, c.buf)
  acceso : ∀ x ∈ s.emitidas, ∃ v p, red.link v p = some (.host x.1)
  host : ∀ i v p h, red.link v p = some (.host h) → s.cuenta i v p ≤ 1
  switch : ∀ i h buf v p y q, Emision red s i h buf → red.link v p = some (.switch y q) →
    s.cuenta i v p ≤ s.inundadas.count (y, i)
  /-- A switch floods only what comes in through the port it has for the source. -/
  bloqueo : ∀ i h buf v, Emision red s i h buf → s.inundadas.count (v, i) ≤ s.porPuerto i h v
  total : ∀ i h buf, Emision red s i h buf → s.enviadas.countP (fun c => c.id = i) ≤
    1 + ((s.inundadas.filter fun x => x.2 = i).map fun x => red.grado x.1 - 1).sum

section Inv

variable [DecidableEq V] {red : Red V} {s s' : Estado V} {i : Nat}

omit [DecidableEq V] in
theorem Emision.lt {h : EthAddr} {buf : Bytes} (he : Emision red s i h buf) :
    i < s.emitidas.length := (List.getElem?_eq_some_iff.mp he.1).1

variable {c : Copia V} {v : V} {p : Nat} {x : EthAddr} {now : Nat} {r : Switch × List Efecto}
  {rand : Nat} {nuevas : List (Copia V)} {inund : List (V × Nat)} {mac : EthAddr}

theorem va_iff : Copia.va i v p c = true ↔ c.id = i ∧ c.dest = .switch v p := decide_eq_true_iff

theorem FloodInv.mono (h : FloodInv red s) {sw : V → Switch}
    (hmac : ∀ v, (sw v).macPort = (s.sw v).macPort) : FloodInv red { s with sw := sw } := by
  have hp : ∀ i mac v, Estado.porPuerto { s with sw := sw } i mac v = s.porPuerto i mac v := by
    intro i mac v
    unfold Estado.porPuerto Estado.puerto
    rw [hmac v]
  exact
    { trama := h.trama, acceso := h.acceso, host := h.host, switch := h.switch, total := h.total
      bloqueo := fun i x buf v he => by rw [hp]; exact h.bloqueo i x buf v he }

theorem FloodInv.sale (h : FloodInv red s) {ll : List (Copia V)}
    (hll : ∀ i v p, ll.countP (Copia.va i v p) = s.llegadas.countP (Copia.va i v p)) :
    FloodInv red { s with vuelo := s.vuelo.erase c, llegadas := ll } := by
  have hle : ∀ i v p, Estado.cuenta { s with vuelo := s.vuelo.erase c, llegadas := ll } i v p ≤
      s.cuenta i v p :=
    fun i v p => Nat.add_le_add (erase_sublist.countP_le) (Nat.le_of_eq (hll i v p))
  have hp : ∀ i mac v, Estado.porPuerto { s with vuelo := s.vuelo.erase c, llegadas := ll } i mac
      v = s.porPuerto i mac v := by
    intro i mac v
    show (match s.puerto mac v with
      | none => 0
      | some p => ll.countP (Copia.va i v p)) = s.porPuerto i mac v
    cases hp : s.puerto mac v with
    | none => exact (Estado.porPuerto_of_none hp).symm
    | some p => exact (hll i v p).trans (Estado.porPuerto_of_some hp).symm
  exact
    { trama := fun c' hc' => h.trama c' (mem_of_mem_erase hc')
      acceso := h.acceso
      host := fun i v p x hl => Nat.le_trans (hle i v p) (h.host i v p x hl)
      switch := fun i x buf v p y q he hl =>
        Nat.le_trans (hle i v p) (h.switch i x buf v p y q he hl)
      bloqueo := fun i x buf v he => by rw [hp]; exact h.bloqueo i x buf v he
      total := h.total }

theorem FloodInv.pierde (h : FloodInv red s) :
    FloodInv red { s with vuelo := s.vuelo.erase c } :=
  h.sale fun _ _ _ => rfl

theorem FloodInv.recibe (h : FloodInv red s) (hd : c.dest = .host x) :
    FloodInv red { s with vuelo := s.vuelo.erase c, llegadas := s.llegadas ++ [c] } := by
  refine h.sale fun i v p => ?_
  have hva : Copia.va i v p c = false := by
    refine decide_eq_false fun hh => ?_
    rw [hd] at hh
    cases hh.2
  rw [countP_append, countP_singleton, hva]
  rfl

theorem cuenta_fresh (h : s.Historia) (v : V) (p : Nat) :
    s.cuenta s.emitidas.length v p = 0 := by
  have hzero : ∀ l : List (Copia V), (∀ c ∈ l, c ∈ s.enviadas) →
      l.countP (Copia.va s.emitidas.length v p) = 0 := fun l hl =>
    countP_eq_zero.mpr fun c hc hva =>
      absurd (va_iff.mp hva).1 (Nat.ne_of_lt (h.id_lt c (hl c hc)))
  rw [Estado.cuenta, hzero _ h.enviada, hzero _ h.llegada]

theorem count_fresh (h : s.Historia) (v : V) :
    s.inundadas.count (v, s.emitidas.length) = 0 :=
  count_eq_zero.mpr fun hmem => absurd rfl (Nat.ne_of_lt (h.inundada _ hmem))

/-- **The invariant over an emission.** -/
theorem FloodInv.emite {buf : Bytes} (hist : s.Historia) (h : FloodInv red s)
    (hl : red.link v p = some (.host x)) (hsrc : red.src buf = x) :
    FloodInv red { s with
      vuelo := s.vuelo ++ [⟨.switch v p, buf, s.emitidas.length, []⟩]
      emitidas := s.emitidas ++ [(x, buf)]
      enviadas := s.enviadas ++ [⟨.switch v p, buf, s.emitidas.length, []⟩] } := by
  set c₀ : Copia V := ⟨.switch v p, buf, s.emitidas.length, []⟩ with hc₀
  set s' : Estado V := { s with
    vuelo := s.vuelo ++ [c₀], emitidas := s.emitidas ++ [(x, buf)], enviadas := s.enviadas ++ [c₀] }
  have hlen : s'.emitidas.length = s.emitidas.length + 1 := length_append
  have hcuenta : ∀ i w r, s'.cuenta i w r = s.cuenta i w r + [c₀].countP (Copia.va i w r) := by
    intro i w r
    show (s.vuelo ++ [c₀]).countP _ + s.llegadas.countP _ =
      s.vuelo.countP _ + s.llegadas.countP _ + _
    rw [countP_append]
    omega
  -- an emission of the new state is an old one or the new one
  have hem : ∀ i y b, Emision red s' i y b → Emision red s i y b ∨ i = s.emitidas.length := by
    intro i y b he
    have hlt := he.lt
    rcases Nat.lt_or_ge i s.emitidas.length with hi | hi
    · refine .inl ⟨?_, he.2⟩
      rw [← he.1]
      exact (getElem?_append_left hi).symm
    · exact .inr (by omega)
  refine
    { trama := fun c hc => ?_, acceso := fun y hy => ?_, host := fun i w r y hw => ?_
      switch := fun i y b w r u q he hw => ?_, bloqueo := fun i y b w he => ?_
      total := fun i y b he => ?_ }
  · rcases mem_append.mp hc with hc | hc
    · have hold := h.trama c hc
      rw [← hold]
      exact getElem?_append_left (List.getElem?_eq_some_iff.mp hold).1
    · rw [mem_singleton.mp hc]
      show (s.emitidas ++ [(x, buf)])[s.emitidas.length]? = some (red.src buf, buf)
      rw [getElem?_append_right (Nat.le_refl _), Nat.sub_self, hsrc]
      rfl
  · rcases mem_append.mp hy with hy | hy
    · exact h.acceso y hy
    · rw [mem_singleton.mp hy]
      exact ⟨v, p, hl⟩
  · rw [hcuenta, countP_singleton]
    split
    · rename_i hva
      have hi : s.emitidas.length = i := (va_iff.mp hva).1
      rw [← hi, cuenta_fresh hist]
    · exact h.host i w r y hw
  · -- the new copy goes to a port with a host behind it
    have hva : [c₀].countP (Copia.va i w r) = 0 := by
      refine countP_eq_zero.mpr fun c hc hva => ?_
      rw [mem_singleton.mp hc] at hva
      cases (va_iff.mp hva).2
      rw [hl] at hw
      cases hw
    rw [hcuenta, hva, Nat.add_zero]
    rcases hem i y b he with he | rfl
    · exact h.switch i y b w r u q he hw
    · rw [cuenta_fresh hist]
      exact Nat.zero_le _
  · rcases hem i y b he with he | rfl
    · exact h.bloqueo i y b w he
    · show s.inundadas.count (w, s.emitidas.length) ≤ _
      rw [count_fresh hist]
      exact Nat.zero_le _
  · show (s.enviadas ++ [c₀]).countP _ ≤ _
    rw [countP_append, countP_singleton]
    rcases hem i y b he with he' | rfl
    · have hne : ¬ (decide (c₀.id = i)) = true := by
        have := he'.lt
        rw [decide_eq_true_iff]
        show ¬ s.emitidas.length = i
        omega
      rw [if_neg hne]
      exact h.total i y b he'
    · have hzero : s.enviadas.countP (fun c => decide (c.id = s.emitidas.length)) = 0 :=
        countP_eq_zero.mpr fun c hc hd =>
          absurd (of_decide_eq_true hd) (Nat.ne_of_lt (hist.id_lt c hc))
      rw [hzero]
      have : (if decide (c₀.id = s.emitidas.length) = true then 1 else 0) ≤ 1 := by
        split <;> omega
      omega

/-- **A flooded frame at a switch** is flooded, and then it came through the port the switch has
    for its source; or nothing is sent. -/
theorem arp_flood {n : Nodo} {s : Switch} {pkt : Packet} (hcfg : n.cfg = ⟨0, false⟩)
    (hn : MacNodup s.macPort) (hlive : ∀ e ∈ s.macPort, e.live now = true)
    (hf : pkt.isFlooded = true) (hport : port16 pkt.inPort = pkt.inPort)
    (h : pipelineProcessUah n now sinTablas s pkt = some r) :
    (r.2 = [.outputPort pkt ofppRandom] ∧ portOf r.1.macPort pkt.ethSrc = some pkt.inPort) ∨
      ∀ p o, Efecto.outputPort p o ∉ r.2 := by
  have hrec : n.cfg.recuperacion = false := by rw [hcfg]
  rcases pipelineProcessUah_cases n now hrec h with ⟨hin, hd⟩ | ⟨_, _, _, hout⟩
  · rw [despacha_arp n now (by rw [hcfg]) hin] at hd
    obtain ⟨_, h2, h3⟩ := pipelineArpPath_flooded hin hn hlive hf hd
    rcases h3 with ⟨hp, h3⟩ | ⟨_, h3⟩
    · refine .inl ⟨h3, ?_⟩
      rw [h2]
      rcases hp with hp | hp
      · have hen : ensena pkt = true := by rw [ensena, hin, hf]; rfl
        rw [aprendido, if_pos ⟨rfl, hp, hen⟩, hport]
      · exact aprendido_stable hp
    · refine .inr fun p o ho => ?_
      rw [h3, mem_singleton] at ho
      cases ho
  · exact .inr hout

/-- What the handling of copy `c` at port `p` of `v` adds for emission `i` of host `y`: nothing, or
    one flood, and then `p` is the port `v` has for `y`. -/
def Aporte (red : Red V) (i : Nat) (y : EthAddr) (c : Copia V) (v : V) (p : Nat)
    (r : Switch × List Efecto) (nuevas : List (Copia V)) (inund : List (V × Nat)) : Prop :=
  ((∀ c' ∈ nuevas, c'.id ≠ i) ∧ ∀ x ∈ inund, x.2 ≠ i) ∨
    (i = c.id ∧ inund = [(v, c.id)] ∧
      r.2 = [.outputPort (red.pkt p c.buf) ofppRandom] ∧ portOf r.1.macPort y = some p)

theorem FloodInv.aporta (hcfg : red.Arp) (ha : ArpInv red s) (h : FloodInv red s) (hc : c ∈ s.vuelo)
    (hd : c.dest = .switch v p) (hlive : ∀ e ∈ (s.sw v).macPort, e.live now = true)
    (hr : pipelineProcessUah (red.nodo v) now sinTablas (s.sw v) (red.pkt p c.buf) = some r)
    (hnuevas : nuevas = red.copias v (s.sw v).neighborTable rand c r.2)
    (hinund : inund = (r.2.filter Red.esInundacion).map fun _ => (v, c.id)) {y : EthAddr}
    {b : Bytes} (he : Emision red s i y b) : Aporte red i y c v p r nuevas inund := by
  subst hnuevas hinund
  by_cases hi : i = c.id
  · have ht := h.trama c hc
    rw [← hi, he.1] at ht
    cases ht
    obtain ⟨x, hx⟩ := ha.enlazado hc hd
    have hcfg' : (red.nodo v).cfg = ⟨0, false⟩ := hcfg
    have hf : (red.pkt p c.buf).isFlooded = true := he.2
    rcases arp_flood hcfg' (ha.nodup v) hlive hf (red.port16_of_link hx).1 hr with hfl | hno
    · exact .inr ⟨hi, by rw [hfl.1]; rfl, hfl⟩
    · refine .inl ⟨fun c' hc' => ?_, fun x hx => ?_⟩
      · rw [red.copias_of_no_output hno] at hc'
        exact absurd hc' not_mem_nil
      · obtain ⟨ef, hef, _⟩ := mem_map.mp hx
        obtain ⟨hef, hin⟩ := mem_filter.mp hef
        cases ef with
        | outputPort pkt o => exact absurd hef (hno pkt o)
        | packetDestroy => cases hin
        | sendPacketRecovery pkt opcion => cases hin
  · refine .inl ⟨fun c' hc' hid => hi ?_, fun x hx hid => hi ?_⟩
    · rw [← hid, (red.mem_copias hc').1]
    · obtain ⟨_, _, rfl⟩ := mem_map.mp hx
      exact hid.symm

theorem porPuerto_le (hstable : ∀ q, s.puerto mac v = some q → s'.puerto mac v = some q)
    {l : List (Copia V)} (hl : s'.llegadas = s.llegadas ++ l) :
    s.porPuerto i mac v ≤ s'.porPuerto i mac v := by
  cases hp : s.puerto mac v with
  | none =>
    rw [Estado.porPuerto_of_none hp]
    exact Nat.zero_le _
  | some q =>
    rw [Estado.porPuerto_of_some hp, Estado.porPuerto_of_some (hstable q hp), hl,
      countP_append]
    exact Nat.le_add_right _ _

theorem cuenta_toma (hc : c ∈ s.vuelo) (hv : s'.vuelo = s.vuelo.erase c ++ nuevas)
    (hl : s'.llegadas = s.llegadas ++ [c]) (v : V) (p : Nat) :
    s'.cuenta i v p = s.cuenta i v p + nuevas.countP (Copia.va i v p) := by
  have herase := (perm_cons_erase hc).countP_eq (Copia.va i v p)
  rw [countP_cons] at herase
  unfold Estado.cuenta
  rw [hv, hl, countP_append, countP_append, countP_singleton]
  omega

theorem porPuerto_lt (hstable : ∀ q, s.puerto mac v = some q → s'.puerto mac v = some q)
    (hp : s'.puerto mac v = some p) (hd : c.dest = .switch v p)
    (hl : s'.llegadas = s.llegadas ++ [c]) : s.porPuerto c.id mac v < s'.porPuerto c.id mac v := by
  have hle : s.porPuerto c.id mac v ≤ s.llegadas.countP (Copia.va c.id v p) := by
    cases hq : s.puerto mac v with
    | none =>
      rw [Estado.porPuerto_of_none hq]
      exact Nat.zero_le _
    | some q =>
      obtain rfl : q = p := Option.some.inj ((hstable q hq).symm.trans hp)
      rw [Estado.porPuerto_of_some hq]
  rw [Estado.porPuerto_of_some hp, hl, countP_append, countP_singleton,
    if_pos (va_iff.mpr ⟨rfl, hd⟩)]
  omega

section Toma

variable {c : Copia V} {v : V} {p rand : Nat} {r : Switch × List Efecto} {nt : MacTable}
  {nuevas : List (Copia V)} {inund : List (V × Nat)} {y : EthAddr}

theorem Aporte.countP_le (h : Aporte red i y c v p r nuevas inund)
    (hnuevas : nuevas = red.copias v nt rand c r.2) {u w : V} {q q' : Nat}
    (hw : red.link w q = some (.switch u q')) :
    nuevas.countP (Copia.va i w q) ≤ inund.count (u, i) := by
  rcases Nat.eq_zero_or_pos (nuevas.countP (Copia.va i w q)) with hzero | hpos
  · omega
  · obtain ⟨c', hc', hva⟩ := countP_pos_iff.mp hpos
    rcases h with ⟨hno, _⟩ | ⟨rfl, hin, hfl, _⟩
    · exact absurd (va_iff.mp hva).1 (hno c' hc')
    · have hone : nuevas.countP (Copia.va c.id w q) ≤ 1 := by
        rw [hnuevas, hfl]
        exact Red.countP_copias_flood _ _ fun c hc => (va_iff.mp hc).2
      rw [hnuevas] at hc'
      obtain ⟨q'', hq''⟩ := red.link_of_copia hc' (va_iff.mp hva).2
      rw [hw] at hq''
      cases hq''
      rw [hin, count_singleton_self]
      exact hone

theorem Aporte.count_le (h : Aporte red i y c v p r nuevas inund) (hd : c.dest = .switch v p)
    (hstable : ∀ w q, s.puerto y w = some q → s'.puerto y w = some q)
    (hsw : s'.sw = Function.update s.sw v r.1) (hl : s'.llegadas = s.llegadas ++ [c]) (w : V) :
    inund.count (w, i) + s.porPuerto i y w ≤ s'.porPuerto i y w := by
  have hmono : ∀ i, s.porPuerto i y w ≤ s'.porPuerto i y w := fun i => porPuerto_le (hstable w) hl
  rcases h with ⟨_, hno⟩ | ⟨rfl, hin, _, hport⟩
  · rw [count_eq_zero.mpr fun hmem => hno _ hmem rfl, Nat.zero_add]
    exact hmono i
  · rw [hin]
    by_cases hwv : w = v
    · subst hwv
      have hp : s'.puerto y w = some p := by
        unfold Estado.puerto
        rw [hsw, Function.update_self]
        exact hport
      rw [count_singleton_self, Nat.add_comm]
      exact porPuerto_lt (hstable w) hp hd hl
    · have hzero : [(v, c.id)].count (w, c.id) = 0 :=
        count_eq_zero.mpr fun hmem =>
          hwv (congrArg Prod.fst (mem_singleton.mp hmem))
      rw [hzero, Nat.zero_add]
      exact hmono c.id

omit [DecidableEq V] in
theorem Aporte.total_le (h : Aporte red i y c v p r nuevas inund)
    (hnuevas : nuevas = red.copias v nt rand c r.2) {x : Extremo V}
    (hx : red.link v p = some x) :
    nuevas.countP (fun c => c.id = i) ≤
      ((inund.filter fun x => x.2 = i).map fun x => red.grado x.1 - 1).sum := by
  rcases h with ⟨hno, _⟩ | ⟨rfl, hin, hfl, _⟩
  · rw [countP_eq_zero.mpr fun c' hc' hd' => hno c' hc' (of_decide_eq_true hd')]
    exact Nat.zero_le _
  · have hsum : ((inund.filter fun x => x.2 = c.id).map fun x => red.grado x.1 - 1).sum =
        red.grado v - 1 := by
      simp [hin]
    rw [hsum]
    refine Nat.le_trans countP_le_length ?_
    rw [hnuevas, hfl]
    exact Red.length_copias_flood _ hx

end Toma

/-- **The invariant over the handling of a copy.** -/
theorem FloodInv.procesa (hcfg : red.Arp) (ha : ArpInv red s) (h : FloodInv red s)
    (hc : c ∈ s.vuelo) (hd : c.dest = .switch v p)
    (hlive : ∀ e ∈ (s.sw v).macPort, e.live now = true)
    (hr : pipelineProcessUah (red.nodo v) now sinTablas (s.sw v) (red.pkt p c.buf) = some r)
    (hnuevas : nuevas = red.copias v (s.sw v).neighborTable rand c r.2)
    (hinund : inund = (r.2.filter Red.esInundacion).map fun _ => (v, c.id)) :
    FloodInv red
      { sw := Function.update s.sw v r.1, vuelo := s.vuelo.erase c ++ nuevas,
        emitidas := s.emitidas, enviadas := s.enviadas ++ nuevas,
        llegadas := s.llegadas ++ [c], inundadas := s.inundadas ++ inund } := by
  set s' : Estado V :=
      { sw := Function.update s.sw v r.1, vuelo := s.vuelo.erase c ++ nuevas,
        emitidas := s.emitidas, enviadas := s.enviadas ++ nuevas,
        llegadas := s.llegadas ++ [c], inundadas := s.inundadas ++ inund } with hs'
  have hvuelo : s'.vuelo = s.vuelo.erase c ++ red.copias v (s.sw v).neighborTable rand c r.2 := by
    rw [hs', hnuevas]
  have hstable : ∀ mac u q, s.puerto mac u = some q → s'.puerto mac u = some q :=
    (ha.procesa hcfg hc hd hlive hr rfl hvuelo).2
  have hcfg' : (red.nodo v).cfg = ⟨0, false⟩ := hcfg
  have hout := (arp_frame hcfg' (ha.nodup v) hlive hr).2.2
  -- what is counted on a link only changes by the new copies
  have hcuenta : ∀ i w q, s'.cuenta i w q = s.cuenta i w q + nuevas.countP (Copia.va i w q) :=
    fun i w q => cuenta_toma hc rfl rfl w q
  have haporta : ∀ i y b, Emision red s' i y b → Aporte red i y c v p r nuevas inund :=
    fun i y b (he : Emision red s i y b) => h.aporta hcfg ha hc hd hlive hr hnuevas hinund he
  refine
    { trama := fun c' hc' => ?_, acceso := h.acceso, host := fun i w q y hw => ?_
      switch := fun i y b w q u q' he hw => ?_, bloqueo := fun i y b w he => ?_
      total := fun i y b he => ?_ }
  · rcases mem_append.mp hc' with hc' | hc'
    · exact h.trama c' (mem_of_mem_erase hc')
    · rw [hnuevas] at hc'
      obtain ⟨hid', _, pkt, o, q', hef, _, hq'⟩ := red.mem_copias hc'
      have hbuf : c'.buf = c.buf := by
        rw [red.buf_of_output hq', hout pkt o hef]
        rfl
      rw [hid', hbuf]
      exact h.trama c hc
  · -- new copies come from a switch
    have hzero : nuevas.countP (Copia.va i w q) = 0 := by
      refine countP_eq_zero.mpr fun c' hc' hva' => ?_
      rw [hnuevas] at hc'
      obtain ⟨q', hq'⟩ := red.link_of_copia hc' (va_iff.mp hva').2
      rw [hw] at hq'
      cases hq'
    rw [hcuenta, hzero]
    exact h.host i w q y hw
  · rw [hcuenta]
    show _ ≤ (s.inundadas ++ inund).count (u, i)
    rw [count_append]
    exact Nat.add_le_add (h.switch i y b w q u q' he hw)
      ((haporta i y b he).countP_le hnuevas hw)
  · show (s.inundadas ++ inund).count (w, i) ≤ _
    rw [count_append, Nat.add_comm]
    exact Nat.le_trans (Nat.add_le_add_left (h.bloqueo i y b w he) _)
      ((haporta i y b he).count_le hd (hstable y) rfl rfl w)
  · obtain ⟨x, hx⟩ := ha.enlazado hc hd
    show (s.enviadas ++ nuevas).countP _ ≤
      1 + (((s.inundadas ++ inund).filter _).map _).sum
    rw [countP_append, filter_append, map_append, sum_append, ← Nat.add_assoc]
    exact Nat.add_le_add (h.total i y b he) ((haporta i y b he).total_le hnuevas hx)

/-! ## 2. Over a run -/

theorem floodInv_inicial (red : Red V) : FloodInv red (Estado.inicial V) where
  trama := fun _ hc => absurd hc not_mem_nil
  acceso := fun _ hc => absurd hc not_mem_nil
  host := fun _ _ _ _ _ => Nat.zero_le 1
  switch := fun _ _ _ _ _ _ _ _ _ => Nat.zero_le _
  bloqueo := fun _ _ _ _ _ => Nat.zero_le _
  total := fun _ _ _ _ => Nat.zero_le _

/-- **One event** keeps the invariant of the floods. -/
theorem FloodInv.step {e : Evento V} (hcfg : red.Arp) (hist : s.Historia) (ha : ArpInv red s)
    (h : FloodInv red s) (hok : SinCaducar s e) (hs : red.step s e = some s') :
    FloodInv red s' := by
  cases red.step_cases hs with
  | emite hl hsrc => exact h.emite hist hl hsrc
  | recibe hc hd => exact h.recibe hd
  | @procesa c v p now rand r hc hd hr =>
    have hlive : ∀ e ∈ (s.sw v).macPort, e.live now = true := by
      unfold SinCaducar at hok
      simpa only [hd] using hok
    exact h.procesa hcfg ha hc hd hlive hr rfl rfl
  | pierde hc => exact h.pierde
  | hello => exact h.mono (macPort_update (by rfl))
  | macDeleteTimeout ht => exact h.mono (macPort_update (deleteTimeout_of_live hok ht))
  | tcpDeleteTimeout _ => exact h.mono (macPort_update (by rfl))

theorem floodInv_alcanza (hcfg : red.Arp) (h : red.Alcanza SinCaducar s) :
    ArpInv red s ∧ FloodInv red s :=
  (Run.invariant (I := fun t => t.Historia ∧ ArpInv red t ∧ FloodInv red t) h
    ⟨Red.historia_inicial, arpInv_inicial red, floodInv_inicial red⟩ fun _ _ _ hi hok hs =>
      ⟨Red.historia_step hi.1 hs, (hi.2.1.step hcfg hok hs).1,
        hi.2.2.step hcfg hi.1 hi.2.1 hok hs⟩).2

/-- **At most one flood per switch**, by induction along the learned ports to the host. -/
theorem FloodInv.once (ha : ArpInv red s) (h : FloodInv red s) {buf : Bytes}
    (he : Emision red s i x buf) (v : V) : s.inundadas.count (v, i) ≤ 1 := by
  -- through the learned port come at most as many copies as were put on its link
  have hport : ∀ w p, s.puerto x w = some p → s.inundadas.count (w, i) ≤ s.cuenta i w p := by
    intro w p hp
    have hb := h.bloqueo i x buf w he
    rw [Estado.porPuerto_of_some hp] at hb
    exact Nat.le_trans hb (Nat.le_add_left _ _)
  by_cases hv : s.puerto x v = none
  · have hb := h.bloqueo i x buf v he
    rw [Estado.porPuerto_of_none hv] at hb
    omega
  · refine (ha.arbol x).ranked.induct (P := fun w => s.inundadas.count (w, i) ≤ 1) ?_ ?_
      (Red.punteros_ne_none.mpr hv)
    · intro w hw
      obtain ⟨p, hp, hl⟩ := (ha.arbol x).host_of_root hw
      exact Nat.le_trans (hport w p hp) (h.host i w p x hl)
    · intro w y hw hy
      obtain ⟨p, hp, hd⟩ := Option.map_eq_some_iff.mp hw
      obtain ⟨q, hl⟩ := Red.detras_eq_some hd
      calc s.inundadas.count (w, i) ≤ s.cuenta i w p := hport w p hp
        _ ≤ s.inundadas.count (y, i) := h.switch i x buf w p y q he hl
        _ ≤ 1 := hy

theorem sum_inundadas_le [Fintype V] (f : V → Nat) (hone : ∀ v, s.inundadas.count (v, i) ≤ 1) :
    ((s.inundadas.filter fun x => x.2 = i).map fun x => f x.1).sum ≤ ∑ v, f v := by
  set l := s.inundadas.filter fun x => x.2 = i with hl
  have hid : ∀ x ∈ l, x.2 = i := fun x hx => of_decide_eq_true (mem_filter.mp hx).2
  have hnd : l.Nodup := by
    refine nodup_iff_count_le_one.mpr fun x => ?_
    by_cases hx : x ∈ l
    · have hxi : x = (x.1, i) := Prod.ext rfl (hid x hx)
      rw [hxi]
      exact Nat.le_trans (filter_sublist.count_le _) (hone x.1)
    · rw [count_eq_zero.mpr hx]
      exact Nat.zero_le 1
  have hnd' : (l.map Prod.fst).Nodup := by
    refine hnd.map_on fun x hx y hy hxy => ?_
    exact Prod.ext hxy ((hid x hx).trans (hid y hy).symm)
  calc (l.map fun x => f x.1).sum = ((l.map Prod.fst).map f).sum := by rw [map_map]; rfl
    _ = ∑ v ∈ (l.map Prod.fst).toFinset, f v := (sum_toFinset f hnd').symm
    _ ≤ ∑ v, f v := Finset.sum_le_sum_of_subset (Finset.subset_univ _)

/-- **Floods end.** While no entry expires, each switch floods a broadcast frame of a host at most
once, and the copies are at most the sum of the degrees. -/
theorem arpPath_flood_once [Fintype V] (hcfg : red.Arp) (h : red.Alcanza SinCaducar s)
    {x : EthAddr} {buf : Bytes} (hi : s.emitidas[i]? = some (x, buf))
    (hf : (red.pkt 0 buf).isFlooded = true) :
    (∀ v, s.inundadas.count (v, i) ≤ 1) ∧
      s.enviadas.countP (fun c => c.id = i) ≤ ∑ v, red.grado v := by
  obtain ⟨ha, hfl⟩ := floodInv_alcanza hcfg h
  have he : Emision red s i x buf := ⟨hi, hf⟩
  have hone := hfl.once ha he
  refine ⟨hone, ?_⟩
  -- the access switch has the link to the host
  obtain ⟨a, p, hl⟩ := hfl.acceso _ (mem_of_getElem? hi)
  have hpos : 0 < red.grado a := length_pos_of_mem (Red.mem_enlazados hl)
  have hlt : ∑ v, (red.grado v - 1) < ∑ v, red.grado v :=
    Finset.sum_lt_sum (fun v _ => Nat.sub_le _ 1) ⟨a, Finset.mem_univ a, by omega⟩
  have hsum := sum_inundadas_le (fun v => red.grado v - 1) hone
  have htotal := hfl.total i x buf he
  omega

end Inv

theorem arpPath_flood_once_triangulo :
    ∃ s, (triangulo ⟨0, false⟩).Alcanza SinCaducar s ∧
      s.emitidas[0]? = some (macDe 1, difusion 1) ∧ s.inundadas.length = 3 ∧
      (∀ v, s.inundadas.count (v, 0) ≤ 1) ∧
      s.enviadas.countP (fun c => c.id = 0) ≤ ∑ v, (triangulo ⟨0, false⟩).grado v :=
  Run.exists_exec₂ difunde (by decide) fun _ hrun hem _ =>
    arpPath_flood_once rfl hrun hem (by decide)

end TcpPath
