/-
  Subject:   The datapath's ports, the random output matrix `Matriz_bc` and the functions that
             hand a frame to a port (`dp_ports_output`, `dp_ports_output_all`,
             `dp_ports_output_random`, `dp_actions_output_port`).

  A call is modelled by the list of frames it hands to network devices, as pairs of a port number
  and the bytes sent. `rand()` is an argument: a single value for the row that
  `dp_ports_output_random` draws, a stream for `matriz_aleatoria_gen`. That the matrix of a
  `Datapath` was made by `matriz_aleatoria_gen` for its number of ports is a field of it.
-/
import TcpPath.Tables.MacPort

namespace TcpPath

open List

/-! ## 1. Port numbers and port state -/

def ofppTable : Nat := 0xfffffff9
def ofppInPort : Nat := 0xfffffff8
def ofppRandom : Nat := 0xfffffff7
def ofppFlood : Nat := 0xfffffffb
def ofppAll : Nat := 0xfffffffc
def ofppController : Nat := 0xfffffffd
def ofppLocal : Nat := 0xfffffffe

/-- `DP_MAX_PORTS`, the length of `dp->ports`. -/
def dpMaxPorts : Nat := 255

def ofppsLinkDown : Nat := 1
def ofppsLive : Nat := 4

def portHost : Nat := 0
def portCore : Nat := 1
def portAgr : Nat := 2
def portTor : Nat := 3

/-- The type byte (`posicion`) a switch puts in its hello frames. -/
def posicion (id : Nat) : Nat :=
  if id < 100 then portTor else if id < 1000 then portAgr else portCore

/-- `struct sw_port`: its configuration bits and whether the link is down. -/
structure SwPort where
  config : Nat
  linkDown : Bool
  deriving DecidableEq, Repr

namespace SwPort

/-- `config & OFPPC_PORT_DOWN`. -/
def portDown (p : SwPort) : Bool := p.config.testBit 0

/-- `config & OFPPC_NO_FWD`. -/
def noFwd (p : SwPort) : Bool := p.config.testBit 5

/-- `conf->state` as `dp_port_live_update` leaves it. -/
def state (p : SwPort) : Nat :=
  (if p.linkDown then ofppsLinkDown else 0) +
    (if p.linkDown || p.portDown then 0 else ofppsLive)

theorem state_eq_live {p : SwPort} :
    p.state = ofppsLive ↔ p.linkDown = false ∧ p.portDown = false := by
  unfold state ofppsLive ofppsLinkDown
  cases p.linkDown <;> cases p.portDown <;> decide

end SwPort

/-! ## 2. The random matrix -/

/-- One row: `rand()` values are drawn until `k` more different numbers are stored behind `row`.
    `none` when the stream ends before. The unused draws are returned. -/
def filaAleatoria (portsNum : Nat) : Nat → List Nat → List Nat → Option (List Nat × List Nat)
  | 0, row, rands => some (row, rands)
  | _ + 1, _, [] => none
  | k + 1, row, r :: rands =>
      let n := (r % portsNum) % 2 ^ 16
      if n = portsNum ∨ n ∈ row then filaAleatoria portsNum (k + 1) row rands
      else filaAleatoria portsNum k (row ++ [n]) rands

/-- The rows of the matrix from the `pos`-th to the last. -/
def filas (portsNum : Nat) : Nat → List Nat → Option (List (List Nat))
  | 0, _ => some []
  | pos + 1, rands => do
      let r ← filaAleatoria portsNum portsNum [] rands
      let rest ← filas portsNum pos r.2
      pure (r.1 :: rest)

/-- `matriz_aleatoria_gen`: the 16 rows of `Matriz_bc`. -/
def matrizAleatoriaGen (portsNum : Nat) (rands : List Nat) : Option (List (List Nat)) :=
  filas portsNum 16 rands

variable {rands : List Nat} {pos : Nat} {m : List (List Nat)}

theorem filaAleatoria_spec {portsNum k : Nat} {row out rest : List Nat}
    (h : filaAleatoria portsNum k row rands = some (out, rest)) (hnd : row.Nodup)
    (hlt : ∀ x ∈ row, x < portsNum) (hpos : 0 < k → 0 < portsNum) :
    out.Nodup ∧ (∀ x ∈ out, x < portsNum) ∧ out.length = row.length + k := by
  induction rands generalizing k row with
  | nil =>
    cases k with
    | zero =>
      cases h
      exact ⟨hnd, hlt, rfl⟩
    | succ k => cases h
  | cons r rands ih =>
    cases k with
    | zero =>
      cases h
      exact ⟨hnd, hlt, rfl⟩
    | succ k =>
      have hp : 0 < portsNum := hpos (Nat.succ_pos k)
      rw [filaAleatoria] at h
      split at h
      · exact ih h hnd hlt hpos
      · rename_i hnew
        have hx : (r % portsNum) % 2 ^ 16 < portsNum :=
          lt_of_le_of_lt (Nat.mod_le _ _) (Nat.mod_lt _ hp)
        have hnd' : (row ++ [(r % portsNum) % 2 ^ 16]).Nodup := by
          refine List.Nodup.append hnd (nodup_singleton _) ?_
          intro a ha hb
          rw [mem_singleton] at hb
          exact hnew (.inr (hb ▸ ha))
        have hlt' : ∀ x ∈ row ++ [(r % portsNum) % 2 ^ 16], x < portsNum := by
          intro x hx'
          rcases mem_append.mp hx' with hx' | hx'
          · exact hlt x hx'
          · rw [mem_singleton.mp hx']
            exact hx
        obtain ⟨h1, h2, h3⟩ := ih h hnd' hlt' fun _ => hp
        refine ⟨h1, h2, ?_⟩
        rw [h3, length_append, length_singleton]
        omega

theorem filas_spec {portsNum : Nat} (h : filas portsNum pos rands = some m) :
    ∀ row ∈ m, row.Nodup ∧ (∀ x ∈ row, x < portsNum) ∧ row.length = portsNum := by
  induction pos generalizing rands m with
  | zero =>
    cases h
    exact fun row hrow => absurd hrow not_mem_nil
  | succ pos ih =>
    unfold filas at h
    obtain ⟨⟨row, rest⟩, hr, h⟩ := Option.bind_eq_some_iff.mp h
    obtain ⟨rows, hrows, h⟩ := Option.bind_eq_some_iff.mp h
    cases h
    intro row' hrow'
    rcases mem_cons.mp hrow' with rfl | hrow'
    · obtain ⟨h1, h2, h3⟩ := filaAleatoria_spec hr nodup_nil
        (fun x hx => absurd hx not_mem_nil) id
      exact ⟨h1, h2, by simpa using h3⟩
    · exact ih hrows row' hrow'

/-- **Every row is a permutation of `0 .. ports_num - 1`.** -/
theorem filas_perm {portsNum : Nat} (h : filas portsNum pos rands = some m) :
    ∀ row ∈ m, row.Perm (List.range portsNum) := by
  intro row hrow
  obtain ⟨hnd, hsub, hlen⟩ := filas_spec h row hrow
  refine (hnd.subperm fun x hx => mem_range.mpr (hsub x hx)).perm_of_length_le ?_
  rw [length_range, hlen]

theorem length_filas {portsNum : Nat} (h : filas portsNum pos rands = some m) : m.length = pos := by
  induction pos generalizing rands m with
  | zero =>
    cases h
    rfl
  | succ pos ih =>
    unfold filas at h
    obtain ⟨r, _, h⟩ := Option.bind_eq_some_iff.mp h
    obtain ⟨rows, hrows, h⟩ := Option.bind_eq_some_iff.mp h
    cases h
    rw [length_cons, ih hrows]

/-! ## 3. The datapath -/

/-- `struct datapath`: `ports` are the ports `dp_ports_add` made, numbered from 1. -/
structure Datapath where
  id : Nat
  ports : List SwPort
  localPort : Option SwPort
  matrizBc : List (List Nat)
  /-- `dp_ports_add` finds no free slot beyond `DP_MAX_PORTS`. -/
  fits : ports.length < dpMaxPorts
  gen : ∃ rands, matrizAleatoriaGen (ports.length + localPort.toList.length) rands = some matrizBc

namespace Datapath

/-- `dp->ports_num`; it counts the local port. -/
def portsNum (dp : Datapath) : Nat := dp.ports.length + dp.localPort.toList.length

/-- The port numbers `dp_ports_add` gave. -/
def physical (dp : Datapath) (p : Nat) : Prop := 1 ≤ p ∧ p ≤ dp.ports.length

instance (dp : Datapath) (p : Nat) : Decidable (dp.physical p) :=
  inferInstanceAs (Decidable (_ ∧ _))

/-- `dp->ports[port].conf`: `none` is a slot without a port (its `conf` is NULL) or an index
    beyond the array. -/
def conf (dp : Datapath) (port : Nat) : Option SwPort :=
  if port = 0 then none else dp.ports[port - 1]?

theorem port16_physical (dp : Datapath) {p : Nat} (h : dp.physical p) : port16 p = p := by
  have hfits := dp.fits
  unfold physical at h
  unfold dpMaxPorts at hfits
  exact Nat.mod_eq_of_lt (by omega)

theorem conf_isSome {dp : Datapath} {p : Nat} : (dp.conf p).isSome ↔ dp.physical p := by
  unfold conf physical
  split
  · rename_i h0
    subst h0
    simp
  · rename_i h0
    rw [Option.isSome_iff_ne_none, ne_eq, List.getElem?_eq_none_iff]
    omega

/-- The row drawn by `rand()%16`. -/
def row (dp : Datapath) (rand : Nat) : List Nat := dp.matrizBc.getD (rand % 16) []

/-- **Every row is a permutation of `0 .. ports_num - 1`.** -/
theorem row_perm (dp : Datapath) (rand : Nat) :
    (dp.row rand).Perm (List.range dp.portsNum) := by
  obtain ⟨rands, hgen⟩ := dp.gen
  have hlt : rand % 16 < dp.matrizBc.length := by
    rw [length_filas hgen]
    exact Nat.mod_lt _ (by decide)
  have hrow : dp.row rand = dp.matrizBc[rand % 16] := getD_eq_getElem _ _ hlt
  rw [hrow]
  exact filas_perm hgen _ (getElem_mem hlt)

theorem row_nodup (dp : Datapath) (rand : Nat) : (dp.row rand).Nodup :=
  (dp.row_perm rand).nodup_iff.mpr nodup_range

end Datapath

/-! ## 4. Output -/

/-- `dp_ports_lookup`. -/
def dpPortsLookup (dp : Datapath) (portNo : Nat) : Option SwPort :=
  if portNo = ofppLocal then dp.localPort
  else if portNo < 1 ∨ portNo > dp.ports.length then none
  else dp.conf portNo

/-- `dp_ports_output`: the frame handed to the port's device, if any. -/
def dpPortsOutput (dp : Datapath) (buf : Bytes) (outPort : Nat) : List (Nat × Bytes) :=
  match dpPortsLookup dp outPort with
  | some p => if p.portDown then [] else [(outPort, buf)]
  | none => []

/-- `dp_ports_output_all`. -/
def dpPortsOutputAll (dp : Datapath) (buf : Bytes) (inPort : Nat) (flood : Bool) :
    List (Nat × Bytes) :=
  ((List.range' 1 dp.ports.length) ++ dp.localPort.toList.map fun _ => ofppLocal).flatMap
    fun port =>
      if port = inPort then []
      else if flood && ((dpPortsLookup dp port).map (·.noFwd)).getD false then []
      else dpPortsOutput dp buf port

/-- The level tests of `dp_ports_output_random`: may a frame that came in through a port of type
    `entrada` leave through one of type `salida`? -/
def nivelPermite (id entrada salida : Nat) : Bool :=
  if 1000 ≤ id then true
  else if 100 ≤ id ∧ id < 1000 then
    entrada == portTor || (entrada == portCore && salida == portTor)
  else entrada == portHost || (entrada != portHost && salida == portHost)

/-- `dp_ports_output_random`. -/
def dpPortsOutputRandom (dp : Datapath) (neighborTable : MacTable) (rand : Nat) (buf : Bytes)
    (inPort : Nat) (flood : Bool) : List (Nat × Bytes) :=
  (dp.row rand).flatMap fun port =>
    if port = inPort ∨ port = 0 then []
    else if flood && ((dp.conf port).map (·.noFwd)).getD false then []
    else if nivelPermite dp.id (tipoSwitchPort neighborTable inPort)
        (tipoSwitchPort neighborTable port) then
      dpPortsOutput dp buf port
    else []

/-- The port numbers for which `dp_ports_output_random` calls `dp_ports_output`, in order. -/
def puertosRandom (dp : Datapath) (neighborTable : MacTable) (rand inPort : Nat) (flood : Bool) :
    List Nat :=
  (dp.row rand).filter fun port =>
    !(port == inPort || port == 0) && (!(flood && ((dp.conf port).map (·.noFwd)).getD false) &&
      nivelPermite dp.id (tipoSwitchPort neighborTable inPort) (tipoSwitchPort neighborTable port))

/-- `dp_actions_output_port` of a received packet (`packet_out` is false): the frames it hands to
    ports. A message to the controller is not a frame on a port. -/
def dpActionsOutputPort (dp : Datapath) (neighborTable : MacTable) (rand : Nat) (pkt : Packet)
    (outPort : Nat) : List (Nat × Bytes) :=
  if outPort = ofppTable ∨ outPort = ofppController then []
  else if outPort = ofppInPort then dpPortsOutput dp pkt.buffer pkt.inPort
  else if outPort = ofppFlood ∨ outPort = ofppAll then
    dpPortsOutputAll dp pkt.buffer pkt.inPort (outPort == ofppFlood)
  else if outPort = ofppRandom then
    dpPortsOutputRandom dp neighborTable rand pkt.buffer pkt.inPort (outPort == ofppFlood)
  else if pkt.inPort = outPort then []
  else dpPortsOutput dp pkt.buffer outPort

/-! ## 5. Where output goes -/

section Output

variable {dp : Datapath} {nt : MacTable} {rand inPort q : Nat} {buf b : Bytes}

theorem mem_dpPortsOutput {outPort : Nat} (h : (q, b) ∈ dpPortsOutput dp buf outPort) :
    q = outPort ∧ b = buf ∧ (dpPortsLookup dp outPort).isSome := by
  unfold dpPortsOutput at h
  split at h
  · rename_i p hp
    split at h
    · exact absurd h not_mem_nil
    · cases mem_singleton.mp h
      exact ⟨rfl, rfl, by rw [hp]; rfl⟩
  · exact absurd h not_mem_nil

theorem length_dpPortsOutput (dp : Datapath) (buf : Bytes) (outPort : Nat) :
    (dpPortsOutput dp buf outPort).length ≤ 1 := by
  unfold dpPortsOutput
  split
  · split <;> simp
  · simp

theorem dpPortsOutputRandom_eq (dp : Datapath) (nt : MacTable) (rand : Nat) (buf : Bytes)
    (inPort : Nat) (flood : Bool) : dpPortsOutputRandom dp nt rand buf inPort flood =
      (puertosRandom dp nt rand inPort flood).flatMap (dpPortsOutput dp buf) := by
  unfold dpPortsOutputRandom puertosRandom
  induction dp.row rand with
  | nil => rfl
  | cons port row ih =>
    rw [flatMap_cons, ih, filter_cons]
    by_cases h0 : port = inPort ∨ port = 0
    · have h0' : (port == inPort || port == 0) = true := by simpa using h0
      rw [if_pos h0, h0', Bool.not_true, Bool.false_and, if_neg Bool.false_ne_true]
      rfl
    · have h0' : (port == inPort || port == 0) = false := by simpa using h0
      rw [if_neg h0, h0', Bool.not_false, Bool.true_and]
      cases flood && ((dp.conf port).map (·.noFwd)).getD false with
      | true => rfl
      | false =>
        rw [if_neg Bool.false_ne_true, Bool.not_false, Bool.true_and]
        split
        · rfl
        · rfl

/-- **A flood sends the frame itself, away from where it came, as the level test allows.** -/
theorem mem_dpPortsOutputRandom {flood : Bool}
    (h : (q, b) ∈ dpPortsOutputRandom dp nt rand buf inPort flood) :
    q ∈ dp.row rand ∧ b = buf ∧ q ≠ inPort ∧
      nivelPermite dp.id (tipoSwitchPort nt inPort) (tipoSwitchPort nt q) = true := by
  rw [dpPortsOutputRandom_eq] at h
  obtain ⟨port, hport, h⟩ := mem_flatMap.mp h
  obtain ⟨rfl, rfl, _⟩ := mem_dpPortsOutput h
  obtain ⟨hrow, hok⟩ := mem_filter.mp hport
  simp only [Bool.and_eq_true, Bool.not_eq_true', Bool.or_eq_false_iff, beq_eq_false_iff_ne] at hok
  exact ⟨hrow, rfl, hok.1.1, hok.2.2⟩

/-- **A flood sends at most one copy through each port.** -/
theorem nodup_dpPortsOutputRandom (dp : Datapath) (nt : MacTable) (rand : Nat) (buf : Bytes)
    (inPort : Nat) (flood : Bool) :
    ((dpPortsOutputRandom dp nt rand buf inPort flood).map Prod.fst).Nodup := by
  rw [dpPortsOutputRandom_eq, map_flatMap]
  -- each port of the row contributes nothing or itself
  have hone : ∀ port, ((dpPortsOutput dp buf port).map Prod.fst).Nodup ∧
      ∀ x ∈ (dpPortsOutput dp buf port).map Prod.fst, x = port := by
    intro port
    refine ⟨?_, fun x hx => ?_⟩
    · match dpPortsOutput dp buf port, length_dpPortsOutput dp buf port with
      | [], _ => exact nodup_nil
      | [_], _ => exact nodup_singleton _
    · obtain ⟨⟨q, b⟩, hq, rfl⟩ := mem_map.mp hx
      exact (mem_dpPortsOutput hq).1
  refine nodup_flatMap.mpr ⟨fun port _ => (hone port).1, ?_⟩
  refine ((dp.row_nodup rand).filter _).imp ?_
  intro a b hab x hxa hxb
  exact hab (((hone a).2 x hxa).symm.trans ((hone b).2 x hxb))

theorem dpActionsOutputPort_of_le {pkt : Packet} {p : Nat} (hp : p < 2 ^ 16) :
    dpActionsOutputPort dp nt rand pkt p =
      if pkt.inPort = p then [] else dpPortsOutput dp pkt.buffer p := by
  unfold dpActionsOutputPort
  have h1 : ¬ (p = ofppTable ∨ p = ofppController) := by
    unfold ofppTable ofppController
    omega
  have h2 : p ≠ ofppInPort := by
    unfold ofppInPort
    omega
  have h3 : ¬ (p = ofppFlood ∨ p = ofppAll) := by
    unfold ofppFlood ofppAll
    omega
  have h4 : p ≠ ofppRandom := by
    unfold ofppRandom
    omega
  rw [if_neg h1, if_neg h2, if_neg h3, if_neg h4]

end Output

/-! ## 6. Which ports a flood covers -/

/-- Does a flood from `inPort` call `dp_ports_output` once for every other port that
    `dp_ports_add` made, and for no other number? -/
def Cubre (dp : Datapath) (inPort : Nat) (puertos : List Nat) : Prop :=
  ∀ q, puertos.count q = if dp.physical q ∧ q ≠ inPort then 1 else 0

section Cubre

variable {dp : Datapath} {nt : MacTable} {rand inPort : Nat}

/-- On a core switch only the number 0 and the port of arrival are left out. The flag of
    `dp_ports_output_random` is `out_port == OFPP_FLOOD`, false for `OFPP_RANDOM`. -/
theorem mem_puertosRandom (hcore : 1000 ≤ dp.id) {q : Nat} :
    q ∈ puertosRandom dp nt rand inPort false ↔ q < dp.portsNum ∧ q ≠ inPort ∧ q ≠ 0 := by
  have hnivel : ∀ a b, nivelPermite dp.id a b = true := fun a b => if_pos hcore
  unfold puertosRandom
  rw [mem_filter, (dp.row_perm rand).mem_iff, mem_range, hnivel]
  simp

theorem nodup_puertosRandom (dp : Datapath) (nt : MacTable) (rand inPort : Nat) (flood : Bool) :
    (puertosRandom dp nt rand inPort flood).Nodup :=
  (dp.row_nodup rand).filter _

/-- **What a flood of a core switch covers**: each of the ports `1 .. n` but the one of arrival
exactly once, if there is a local port; without one port `n` is left out. -/
theorem random_cubre_iff (dp : Datapath) (hcore : 1000 ≤ dp.id) (nt : MacTable)
    (rand inPort : Nat) :
    Cubre dp inPort (puertosRandom dp nt rand inPort false) ↔
      dp.localPort.isSome = true ∨ dp.ports.length = 0 ∨ inPort = dp.ports.length := by
  have hnd := nodup_puertosRandom dp nt rand inPort false
  have hmem : ∀ q, q ∈ puertosRandom dp nt rand inPort false ↔
      q < dp.portsNum ∧ q ≠ inPort ∧ q ≠ 0 := fun q => mem_puertosRandom hcore
  have hnum : dp.portsNum = dp.ports.length + if dp.localPort.isSome then 1 else 0 := by
    unfold Datapath.portsNum
    cases dp.localPort <;> rfl
  constructor
  · intro h
    by_contra hno
    push Not at hno
    obtain ⟨hloc, hn, hin⟩ := hno
    -- port `n` is owed the frame, and it is not in the row
    have hq := h dp.ports.length
    rw [if_pos ⟨⟨by omega, Nat.le_refl _⟩, fun e => hin e.symm⟩] at hq
    have hin' := (hmem _).mp (count_pos_iff.mp (hq ▸ Nat.one_pos))
    rw [hnum, if_neg hloc] at hin'
    omega
  · intro h q
    have hiff : q ∈ puertosRandom dp nt rand inPort false ↔ dp.physical q ∧ q ≠ inPort := by
      rw [hmem, hnum]
      unfold Datapath.physical
      split
      · omega
      · rename_i hloc
        have h' := h.resolve_left hloc
        omega
    split
    · rename_i hq
      exact count_eq_one_of_mem hnd (hiff.mpr hq)
    · rename_i hq
      exact count_eq_zero.mpr fun hm => hq (hiff.mp hm)

end Cubre

theorem caben_dos : ([⟨0, false⟩, ⟨0, false⟩] : List SwPort).length < dpMaxPorts := by
  decide

/-- A core switch with two ports and a local port. -/
def nucleoLocal : Datapath where
  id := 1000
  ports := [⟨0, false⟩, ⟨0, false⟩]
  localPort := some ⟨0, false⟩
  matrizBc := List.replicate 16 [2, 0, 1]
  fits := caben_dos
  gen := ⟨(List.replicate 16 [5, 3, 0, 1]).flatten, by decide⟩

theorem random_cubre_nucleoLocal : puertosRandom nucleoLocal [] 0 1 false = [2] ∧
    Cubre nucleoLocal 1 (puertosRandom nucleoLocal [] 0 1 false) :=
  ⟨by decide, (random_cubre_iff nucleoLocal (by decide) [] 0 1).mpr (.inl rfl)⟩

/-- **Shuffled rows.** Whenever the loops of `matriz_aleatoria_gen` end, each of the 16 rows is a
    permutation of `0 .. ports_num - 1`. So a flood comes by no port number twice, and
    `dp_ports_output` is called for none twice. -/
theorem shuffle_rows_permute {n : Nat} (h : matrizAleatoriaGen n rands = some m) :
    m.length = 16 ∧ (∀ row ∈ m, row.Perm (List.range n)) ∧
      ∀ (dp : Datapath) (nt : MacTable) (rand inPort : Nat) (flood : Bool) (q : Nat),
        (dp.row rand).count q ≤ 1 ∧ (puertosRandom dp nt rand inPort flood).count q ≤ 1 := by
  refine ⟨length_filas h, filas_perm h, fun dp nt rand inPort flood q => ⟨?_, ?_⟩⟩
  · exact nodup_iff_count_le_one.mp (dp.row_nodup rand) q
  · exact nodup_iff_count_le_one.mp (nodup_puertosRandom dp nt rand inPort flood) q

theorem shuffle_rows_permute_nucleoLocal :
    matrizAleatoriaGen 3 (List.replicate 16 [5, 5, 3, 0, 1]).flatten = some nucleoLocal.matrizBc ∧
      ∀ row ∈ nucleoLocal.matrizBc, row.Perm (List.range 3) := by
  have hgen : matrizAleatoriaGen 3 (List.replicate 16 [5, 5, 3, 0, 1]).flatten =
      some nucleoLocal.matrizBc := by decide
  exact ⟨hgen, (shuffle_rows_permute hgen).2.1⟩

/-- A core switch with two ports and no local port. -/
def nucleo : Datapath where
  id := 1000
  ports := [⟨0, false⟩, ⟨0, false⟩]
  localPort := none
  matrizBc := List.replicate 16 [1, 0]
  fits := caben_dos
  gen := ⟨(List.replicate 16 [1, 3, 0]).flatten, by decide⟩

/-- A frame from port 1 is handed to no port at all: port 2 is in no row. -/
theorem random_no_cubre_nucleo : puertosRandom nucleo [] 0 1 false = [] ∧
    ¬ Cubre nucleo 1 (puertosRandom nucleo [] 0 1 false) :=
  ⟨by decide, fun h => absurd (h 2) (by decide)⟩

end TcpPath
