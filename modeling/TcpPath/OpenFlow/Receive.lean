/-
  Subject:   Ports that are configured not to receive: `process_buffer` with
             `dp_ports_handle_port_mod` and the link states of `dp_ports_run`.

  Results:   `bit_exec`: a configuration bit after a history;
             `blocked_ports`: which frames get to the pipeline.
-/
import TcpPath.OpenFlow.DpPorts
import TcpPath.SwitchRuns

namespace TcpPath.Udatapath

open Util

/-! ## 1. Code -/

def ofppcPortDown : Nat := 1 <<< 0

def ofppcNoRecv : Nat := 1 <<< 2

/-- A comparison as a number. -/
def comoInt (b : Bool) : Nat := if b then 1 else 0

/-- **`process_buffer`**: the packet that is given to `pipeline_process_Uah`, if any. -/
def processBuffer (n : Nodo) (p : Puerto) (buffer : Bytes) : Option TcpPath.Packet :=
  if p.config &&& comoInt (ofppcNoRecv ||| ofppcPortDown != 0) ≠ 0 then none
  else some (packetCreate n.parse p.portNo buffer)

/-- Ports, and the tables a frame may change. -/
structure Receptor where
  puertos : Puertos
  sw : TcpPath.Switch

inductive Recepcion where
  | addPort (dev : Option EthAddr) (now : Nat)
  | addLocal (dev : Option EthAddr) (now : Nat)
  | portMod (slave : Bool) (msg : PortMod)
  | enlace (ptr : PortPtr) (linkDown : Bool)
  | trama (ptr : PortPtr) (buffer : Bytes) (tablas : Tablas) (now : Nat)

namespace Receptor

def inicial (maxQueues : Nat) : Receptor := ⟨.create maxQueues, .inicial⟩

/-- One event. `nodo` is the switch as the pipeline sees it with these ports. -/
def paso (nodo : Puertos → Nodo) (s : Receptor) : Recepcion → Option Receptor
  | .addPort dev now => some { s with puertos := s.puertos.dpPortsAdd dev now }
  | .addLocal dev now => some { s with puertos := s.puertos.dpPortsAddLocal dev now }
  | .portMod slave msg =>
    (s.puertos.dpPortsHandlePortMod slave msg).map fun x => { s with puertos := x.1 }
  | .enlace ptr linkDown => some { s with puertos := s.puertos.conEnlace ptr linkDown }
  | .trama ptr buffer tablas now => do
    let p ← s.puertos.get ptr
    match processBuffer (nodo s.puertos) p buffer with
    | none => return s
    | some pkt =>
      let r ← pipelineProcessUah (nodo s.puertos) now tablas s.sw pkt
      return { s with sw := r.1 }

end Receptor

/-! ## 2. The configuration after a history -/

/-- A port-mod for the port with number `portNo` and address `hwAddr` sets bit `i`. -/
def Recepcion.pone (portNo : Nat) (hwAddr : EthAddr) (i : Nat) : Recepcion → Option Bool
  | .portMod false msg =>
    if msg.portNo = portNo ∧ msg.hwAddr = hwAddr ∧ msg.mask.testBit i then
      some (msg.config.testBit i)
    else none
  | _ => none

/-- Bit `i` of `config` after a history. -/
def Puerto.bitTras (p : Puerto) (i : Nat) (es : List Recepcion) : Bool :=
  es.foldl (fun b e => (e.pone p.portNo p.hwAddr i).getD b) (p.config.testBit i)

/-- `config &= ~mask; config |= new & mask;` -/
theorem testBit_enmascara (config mask new : Nat) {i : Nat} (hi : i < 32) :
    (config &&& (0xffffffff ^^^ mask) ||| new &&& mask).testBit i =
      if mask.testBit i then new.testBit i else config.testBit i := by
  have h1 : (0xffffffff : Nat).testBit i = true := by
    rw [show (0xffffffff : Nat) = 2 ^ 32 - 1 from rfl, Nat.testBit_two_pow_sub_one]
    exact decide_eq_true hi
  rw [Nat.testBit_or, Nat.testBit_and, Nat.testBit_and, Nat.testBit_xor, h1]
  cases mask.testBit i <;> simp

namespace Receptor

variable {nodo : Puertos → Nodo} {s s' : Receptor} {ptr : PortPtr} {p : Puerto} {e : Recepcion}
  {ptr' : PortPtr} {maxQueues i : Nat} {t : Puertos} {q : Puerto}

theorem sana_paso (hp : s.paso nodo e = some s') (h : s.puertos.Sana) : s'.puertos.Sana := by
  cases e with
  | addPort dev now =>
    cases hp
    exact h.dpPortsAdd dev now
  | addLocal dev now =>
    cases hp
    exact h.dpPortsAddLocal dev now
  | portMod slave msg =>
    obtain ⟨x, hx, rfl⟩ := Option.map_eq_some_iff.mp hp
    exact h.dpPortsHandlePortMod hx
  | enlace ptr linkDown =>
    cases hp
    exact h.conEnlace ptr linkDown
  | trama ptr buffer tablas now =>
    obtain ⟨p, _, hp⟩ := Option.bind_eq_some_iff.mp hp
    split at hp
    · cases hp
      exact h
    · obtain ⟨r, _, hp⟩ := Option.bind_eq_some_iff.mp hp
      cases hp
      exact h

/-- What stays of a port whatever happens, and the bit of its configuration. -/
structure Sigue (p p' : Puerto) (i : Nat) (b : Bool) : Prop where
  portNo : p'.portNo = p.portNo
  hwAddr : p'.hwAddr = p.hwAddr
  bit : p'.config.testBit i = b

theorem sigue_newPort {portNo now : Nat} {hwAddr : EthAddr} (hfree : t.get ptr' = none)
    (hp : t.get ptr = some p) :
    ∃ p', (t.newPort ptr' portNo hwAddr maxQueues now).get ptr = some p' ∧
      Sigue p p' i (p.config.testBit i) := by
  refine ⟨p, ?_, rfl, rfl, rfl⟩
  rw [Puertos.get_newPort, if_neg, hp]
  rintro rfl
  rw [hfree] at hp
  cases hp

theorem get_con_self : (t.con q ptr).get ptr = some q := by
  rw [Puertos.get_con, if_pos rfl]

theorem get_con_of_ne (hne : ptr ≠ ptr') (hp : t.get ptr = some p) :
    (t.con q ptr').get ptr = some p := by
  rw [Puertos.get_con, if_neg hne, hp]

theorem sigue_portMod (h : s.puertos.Sana) {slave : Bool} {msg : PortMod}
    (hp : s.puertos.get ptr = some p) {x : Puertos × Option OflErr}
    (hx : s.puertos.dpPortsHandlePortMod slave msg = some x) (hi : i < 32) :
    ∃ p', x.1.get ptr = some p' ∧ Sigue p p' i
      (((Recepcion.portMod slave msg).pone p.portNo p.hwAddr i).getD (p.config.testBit i)) := by
  have hlp : s.puertos.dpPortsLookup p.portNo = some ptr :=
    (Puertos.enUso_eq_some (h.enUso_iff.mpr ⟨hp, rfl⟩)).1
  obtain ⟨t, e⟩ := x
  cases Puertos.portModHace hx with
  | nada hnada =>
    refine ⟨p, hp, rfl, rfl, ?_⟩
    cases slave with
    | true => rfl
    | false =>
      rw [Recepcion.pone, if_neg]
      · rfl
      · rintro ⟨hno, hhw, hbit⟩
        simp [hnada rfl ptr p (hno ▸ hlp) hp hhw] at hbit
  | @pone ptr' q hslave hl hq hhw =>
    subst hslave
    rw [Recepcion.pone]
    by_cases heq : ptr = ptr'
    · subst heq
      rw [hp] at hq
      cases hq
      have hport : msg.portNo = p.portNo :=
        (Puertos.portNo_of_lookup hl).symm.trans (h.numeros ptr p hp).symm
      refine ⟨_, get_con_self, rfl, rfl, ?_⟩
      rw [testBit_enmascara _ _ _ hi]
      cases msg.mask.testBit i <;> simp [hport, hhw]
    · -- the message is for another port
      refine ⟨p, get_con_of_ne heq hp, rfl, rfl, ?_⟩
      rw [if_neg]
      · rfl
      · rintro ⟨hno, _⟩
        rw [hno, hlp] at hl
        exact heq (Option.some.inj hl)

/-- **One event and a bit of the configuration of a port.** -/
theorem sigue_paso (hs : s.paso nodo e = some s') (h : s.puertos.Sana)
    (hp : s.puertos.get ptr = some p) (hi : i < 32) :
    ∃ p', s'.puertos.get ptr = some p' ∧
      Sigue p p' i ((e.pone p.portNo p.hwAddr i).getD (p.config.testBit i)) := by
  cases e with
  | addPort dev now =>
    cases hs
    show ∃ p', (s.puertos.dpPortsAdd dev now).get ptr = some p' ∧ _
    unfold Puertos.dpPortsAdd
    split
    · rename_i n hwAddr hfind
      obtain ⟨hn, _⟩ := List.find?_range'_eq_some.mp hfind
      exact sigue_newPort (Option.isNone_iff_eq_none.mp hn) hp
    · exact ⟨p, hp, rfl, rfl, rfl⟩
  | addLocal dev now =>
    cases hs
    show ∃ p', (s.puertos.dpPortsAddLocal dev now).get ptr = some p' ∧ _
    unfold Puertos.dpPortsAddLocal
    split
    · rename_i hloc
      exact sigue_newPort (show s.puertos.get .loc = none from hloc) hp
    · exact ⟨p, hp, rfl, rfl, rfl⟩
  | portMod slave msg =>
    obtain ⟨x, hx, rfl⟩ := Option.map_eq_some_iff.mp hs
    exact sigue_portMod h hp hx hi
  | enlace ptr' linkDown =>
    cases hs
    show ∃ p', (s.puertos.conEnlace ptr' linkDown).get ptr = some p' ∧ _
    unfold Puertos.conEnlace
    split
    · exact ⟨p, hp, rfl, rfl, rfl⟩
    · rename_i q hq
      by_cases heq : ptr = ptr'
      · subst heq
        rw [hp] at hq
        cases hq
        exact ⟨_, get_con_self, rfl, rfl, rfl⟩
      · exact ⟨p, get_con_of_ne heq hp, rfl, rfl, rfl⟩
  | trama ptr' buffer tablas now =>
    refine ⟨p, ?_, rfl, rfl, rfl⟩
    obtain ⟨q, _, hs⟩ := Option.bind_eq_some_iff.mp hs
    split at hs
    · cases hs
      exact hp
    · obtain ⟨r, _, hs⟩ := Option.bind_eq_some_iff.mp hs
      cases hs
      exact hp

theorem sana_run (h : Run (paso nodo) (fun _ _ => True) (inicial maxQueues) s) : s.puertos.Sana :=
  h.invariant (I := fun s : Receptor => s.puertos.Sana) (Puertos.sana_create maxQueues)
    fun _ _ _ hs _ hp => sana_paso hp hs

/-- **A bit of the configuration after a history.** -/
theorem bit_exec {es : List Recepcion} (h : exec (paso nodo) (fun _ _ => True) es s = some s')
    (hs : s.puertos.Sana) (hp : s.puertos.get ptr = some p) (hi : i < 32) :
    ∃ p', s'.puertos.get ptr = some p' ∧ p'.config.testBit i = p.bitTras i es := by
  have hinv : s'.puertos.Sana ∧ ∃ p', s'.puertos.get ptr = some p' ∧
      Sigue p p' i (p.bitTras i es) := by
    refine exec_history (I := fun es s' => s'.puertos.Sana ∧ ∃ p',
      s'.puertos.get ptr = some p' ∧ Sigue p p' i (p.bitTras i es)) h ⟨hs, p, hp, rfl, rfl, rfl⟩ ?_
    intro es t e u _ ⟨hsana, q, hq, hsig⟩ _ ht
    obtain ⟨q', hq', hsig'⟩ := sigue_paso ht hsana hq hi
    refine ⟨sana_paso ht hsana, q', hq', hsig'.portNo.trans hsig.portNo,
      hsig'.hwAddr.trans hsig.hwAddr, ?_⟩
    rw [hsig'.bit, hsig.portNo, hsig.hwAddr, hsig.bit]
    simp [Puerto.bitTras]
  obtain ⟨_, p', hp', hsig⟩ := hinv
  exact ⟨p', hp', hsig.bit⟩

end Receptor

/-! ## 3. The guard -/

namespace Puerto

/-- `OFPPC_NO_RECV` is set. -/
def noRecv (p : Puerto) : Bool := p.config.testBit 2

/-- The port is configured not to receive. -/
def Bloqueado (p : Puerto) : Prop := p.noRecv = true ∨ p.portDown = true

end Puerto

variable {n : Nodo} {p : Puerto} {buffer : Bytes}

theorem processBuffer_eq_none : processBuffer n p buffer = none ↔ p.portDown = true := by
  have hmask : comoInt (ofppcNoRecv ||| ofppcPortDown != 0) = 2 ^ 0 := by decide
  unfold processBuffer SwPort.portDown
  rw [hmask, Nat.and_two_pow]
  cases p.config.testBit 0 <;> simp

theorem processBuffer_eq_some (h : p.portDown = false) :
    processBuffer n p buffer = some (packetCreate n.parse p.portNo buffer) := by
  have hne : processBuffer n p buffer ≠ none := by simp [processBuffer_eq_none, h]
  unfold processBuffer at hne ⊢
  split
  · rename_i hc
    rw [if_pos hc] at hne
    exact absurd rfl hne
  · rfl

/-- **Blocked ports.** The configuration of a port is what the last port-mods made it, and a frame
goes to the pipeline unless its port is down: `OFPPC_NO_RECV` alone does not keep it back. -/
theorem blocked_ports {nodo : Puertos → Nodo} {maxQueues : Nat} {s₀ s : Receptor}
    (hrun : Run (Receptor.paso nodo) (fun _ _ => True) (.inicial maxQueues) s₀)
    {es : List Recepcion} (hex : exec (Receptor.paso nodo) (fun _ _ => True) es s₀ = some s)
    {ptr : PortPtr} {p₀ : Puerto} (hp₀ : s₀.puertos.get ptr = some p₀) :
    ∃ p, s.puertos.get ptr = some p ∧ p.portDown = p₀.bitTras 0 es ∧ p.noRecv = p₀.bitTras 2 es ∧
      (p.portDown = true → ∀ buffer tablas now,
        processBuffer (nodo s.puertos) p buffer = none ∧
        s.paso nodo (.trama ptr buffer tablas now) = some s) ∧
      (p.portDown = false → ∀ buffer, processBuffer (nodo s.puertos) p buffer =
        some (packetCreate (nodo s.puertos).parse p.portNo buffer)) ∧
      ((∀ buffer, processBuffer (nodo s.puertos) p buffer = none ↔ p.Bloqueado) ↔
        (p.noRecv = true → p.portDown = true)) := by
  have hsana := Receptor.sana_run hrun
  obtain ⟨p, hp, h0⟩ := Receptor.bit_exec hex hsana hp₀ (i := 0) (by decide)
  obtain ⟨p', hp', h2⟩ := Receptor.bit_exec hex hsana hp₀ (i := 2) (by decide)
  rw [hp] at hp'
  cases hp'
  refine ⟨p, hp, h0, h2, fun hdown buffer tablas now => ?_, fun hup buffer =>
    processBuffer_eq_some hup, ?_⟩
  · have hnone : processBuffer (nodo s.puertos) p buffer = none := processBuffer_eq_none.mpr hdown
    refine ⟨hnone, ?_⟩
    rw [Receptor.paso, hp]
    show (match processBuffer (nodo s.puertos) p buffer with | none => _ | some pkt => _) = _
    rw [hnone]
    rfl
  · simp only [processBuffer_eq_none, Puerto.Bloqueado, forall_const]
    cases p.noRecv <;> simp

def nodoDosPuertos : Puertos → Nodo := fun _ => ⟨decodifica, ⟨0, false⟩, dosPuertos⟩

theorem blocked_ports_down : ∃ (s₀ s : Receptor) (p : Puerto),
    Run (Receptor.paso nodoDosPuertos) (fun _ _ => True) (.inicial 8) s₀ ∧
    s₀.paso nodoDosPuertos (.portMod false ⟨1, 5, 1, 1⟩) = some s ∧
    s.puertos.get (.num 1) = some p ∧ p.portDown = true ∧
    ∀ buffer tablas now, s.paso nodoDosPuertos (.trama (.num 1) buffer tablas now) = some s := by
  obtain ⟨s₀, hrun, ⟨p₀, hp₀, hno, hhw⟩, hs⟩ := Run.exists_exec
    (Receptor.paso nodoDosPuertos) (fun _ _ => True) [.addPort (some 5) 0, .addPort (some 6) 0]
    (.inicial 8)
    (fun s => (∃ p, s.puertos.get (.num 1) = some p ∧ p.portNo = 1 ∧ p.hwAddr = 5) ∧
      (s.paso nodoDosPuertos (.portMod false ⟨1, 5, 1, 1⟩)).isSome)
    (by decide)
  obtain ⟨s, hs⟩ := Option.isSome_iff_exists.mp hs
  have hex : exec (Receptor.paso nodoDosPuertos) (fun _ _ => True)
      [.portMod false ⟨1, 5, 1, 1⟩] s₀ = some s := by
    rw [exec, if_pos trivial, hs]
    rfl
  obtain ⟨p, hp, hdown, _, hblock, _⟩ := blocked_ports hrun hex hp₀
  have hdown : p.portDown = true := by
    rw [hdown]
    simp [Puerto.bitTras, Recepcion.pone, hno, hhw]
  exact ⟨s₀, s, p, hrun, hs, hp, hdown, fun buffer tablas now => (hblock hdown buffer tablas now).2⟩

/-- **`OFPPC_NO_RECV` has no effect**: it is set on port 1, and a broadcast that comes in there is
    learnt from. -/
theorem blocked_ports_fails : ∃ s s' : Receptor,
    Run (Receptor.paso nodoDosPuertos) (fun _ _ => True) (.inicial 8) s ∧
    (∃ p, s.puertos.get (.num 1) = some p ∧ p.Bloqueado) ∧ s.sw.macPort = [] ∧
    s.paso nodoDosPuertos (.trama (.num 1) (tramaDe 7 0x88 0xb5 1).buffer sinTablas 0) = some s' ∧
    s'.sw.macPort.length = 1 := by
  obtain ⟨s, s', hrun, ⟨p, hp, hno⟩, hrest⟩ := Run.exists_exec_and (Receptor.paso nodoDosPuertos)
    (fun _ _ => True) [.addPort (some 5) 0, .addPort (some 6) 0, .portMod false ⟨1, 5, 4, 4⟩]
    (.inicial 8)
    (fun s s' => (∃ p, s.puertos.get (.num 1) = some p ∧ p.noRecv = true) ∧ s.sw.macPort = [] ∧
      s.paso nodoDosPuertos (.trama (.num 1) (tramaDe 7 0x88 0xb5 1).buffer sinTablas 0) =
        some s' ∧ s'.sw.macPort.length = 1)
    (by decide)
  exact ⟨s, s', hrun, ⟨p, hp, .inl hno⟩, hrest⟩

end TcpPath.Udatapath
