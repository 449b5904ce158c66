/-
  Subject:   Where the ns-3 switch floods to, and that the mininet switch floods to the same
             ports.

  One side draws port indices until every port it owes the frame has come up, the other walks
  over a row of a random matrix and tests each number. Both come to the same set:
  `resendBroadcast_perm`, `flood_copies` and `flood_policies_agree`.
-/
import TcpPath.Tfe.Switch
import TcpPath.Ports

namespace TcpPath.Tfe

open Util List

variable {D : Type}

/-! ## 1. Ports by index -/

namespace Config

variable {cfg : Config D} {d : D} {i j : Nat}

theorem orderedPort_lt (h : cfg.orderedPort i = some d) : i < cfg.ports.length := by
  obtain ⟨x, hx, -⟩ := Option.map_eq_some_iff.mp h
  exact (List.getElem?_eq_some_iff.mp hx).1

theorem orderedPort_of_lt (h : i < cfg.ports.length) :
    cfg.orderedPort i = some (cfg.ports[i]).1 := by
  simp [orderedPort, h]

theorem orderedPort_inj (hi : cfg.orderedPort i = some d) (hj : cfg.orderedPort j = some d) :
    i = j := by
  have hlen : i < (cfg.ports.map Prod.fst).length := by simpa using orderedPort_lt hi
  refine (getElem?_inj hlen cfg.nodup).mp ?_
  rw [getElem?_map, getElem?_map]
  exact hi.trans hj.symm

variable [DecidableEq D]

theorem exists_orderedPort (h : cfg.esPuerto d = true) : ∃ i, cfg.orderedPort i = some d := by
  obtain ⟨x, hx, hxd⟩ := any_eq_true.mp h
  obtain ⟨i, hi, rfl⟩ := mem_iff_getElem.mp hx
  exact ⟨i, by rw [orderedPort_of_lt hi, of_decide_eq_true hxd]⟩

theorem esPuerto_of_orderedPort (h : cfg.orderedPort i = some d) : cfg.esPuerto d = true := by
  obtain ⟨x, hx, rfl⟩ := Option.map_eq_some_iff.mp h
  exact any_eq_true.mpr ⟨x, mem_of_getElem? hx, by simp⟩

theorem conexion_getElem (h : i < cfg.ports.length) :
    cfg.conexion (cfg.ports[i]).1 = some (cfg.ports[i]).2 := by
  unfold conexion
  cases hf : cfg.ports.find? fun x => decide (x.1 = (cfg.ports[i]).1) with
  | none =>
    have := find?_eq_none.mp hf _ (getElem_mem h)
    simp at this
  | some x =>
    obtain ⟨j, hj, rfl⟩ := mem_iff_getElem.mp (mem_of_find?_eq_some hf)
    have hdev : (cfg.ports[j]).1 = (cfg.ports[i]).1 := by simpa using find?_some hf
    have : j = i := orderedPort_inj (orderedPort_of_lt hj) (by rw [orderedPort_of_lt h, hdev])
    simp [this]

end Config

variable [DecidableEq D]

/-! ## 2. What a flood owes -/

/-- The indices a flood restricted to `course` may choose, all if `course` is `none`. -/
def elegibles (cfg : Config D) (incomingPort : D) (course : Option TypeOfConnection) : List Nat :=
  (List.range cfg.ports.length).filter fun i =>
    !course.any (fun c => decide ((cfg.orderedPort i).bind cfg.conexion ≠ some c)) &&
      !esEntrada cfg incomingPort i

/-- The course `ResendBroadcast` restricts its flood to, by level and by the port of arrival. -/
def curso (cfg : Config D) (incomingPort : D) : Option TypeOfConnection :=
  match cfg.hierarchy with
  | .core => none
  | .aggr => if cfg.conexion incomingPort = some .upper then some .lower else none
  | .tor => if cfg.conexion incomingPort = some .lower then none else some .lower
  | .err => none

/-- The indices of the ports a flood owes a copy. -/
def objetivo (cfg : Config D) (incomingPort : D) : List Nat :=
  if cfg.hierarchy = .err then [] else elegibles cfg incomingPort (curso cfg incomingPort)

section Flood

variable {cfg : Config D} {incomingPort : D} {packet : Paquete} {src dst : EthAddr}
  {protocol : UInt16} {draws : List Nat} {envios : List (Envio D)} {i j : Nat}

theorem length_filter_entrada (hin : cfg.esPuerto incomingPort = true) (mark : Nat → Bool) :
    ((List.range cfg.ports.length).filter fun i =>
      !mark i && !esEntrada cfg incomingPort i).length ≤ cfg.ports.length - 1 := by
  obtain ⟨i, hi⟩ := Config.exists_orderedPort hin
  have hlt := Config.orderedPort_lt hi
  have hmem : i ∈ List.range cfg.ports.length := mem_range.mpr hlt
  have hno : ¬ (!mark i && !esEntrada cfg incomingPort i) = true := by simp [esEntrada, hi]
  have hlen : ((List.range cfg.ports.length).filter fun i =>
      !mark i && !esEntrada cfg incomingPort i).length < (List.range cfg.ports.length).length :=
    length_filter_lt_length_iff_exists.mpr ⟨i, hmem, hno⟩
  rw [length_range] at hlen
  omega

theorem resendToAllPorts_perm (hin : cfg.esPuerto incomingPort = true)
    (h : resendToAllPorts cfg incomingPort packet src dst protocol draws = some envios) :
    ∃ indices : List Nat, indices.Perm (elegibles cfg incomingPort none) ∧
      envios = copias cfg packet src dst protocol indices := by
  obtain ⟨indices, hdraw, rfl⟩ := Option.map_eq_some_iff.mp h
  exact ⟨indices, drawDistinct_perm hdraw (length_filter_entrada hin _), rfl⟩

theorem resendToSelectivePorts_perm (hin : cfg.esPuerto incomingPort = true)
    {course : TypeOfConnection}
    (h : resendToSelectivePorts cfg incomingPort packet src dst protocol course draws =
      some envios) :
    ∃ indices : List Nat, indices.Perm (elegibles cfg incomingPort (some course)) ∧
      envios = copias cfg packet src dst protocol indices := by
  obtain ⟨indices, hdraw, rfl⟩ := Option.map_eq_some_iff.mp h
  exact ⟨indices, drawDistinct_perm hdraw (length_filter_entrada hin _), rfl⟩

/-- **A flood gives one copy to each port it owes one**, on every stream on which it ends. -/
theorem resendBroadcast_perm (hin : cfg.esPuerto incomingPort = true)
    (h : resendBroadcast cfg incomingPort packet src dst protocol draws = some envios) :
    ∃ indices : List Nat, indices.Perm (objetivo cfg incomingPort) ∧
      envios = copias cfg packet src dst protocol indices := by
  unfold resendBroadcast at h
  unfold objetivo curso
  cases hh : cfg.hierarchy with
  | core =>
    simp only [hh] at h
    simpa using resendToAllPorts_perm hin h
  | aggr =>
    simp only [hh] at h
    split at h
    · rename_i hup
      simpa [hup] using resendToSelectivePorts_perm hin h
    · rename_i hup
      simpa [hup] using resendToAllPorts_perm hin h
  | tor =>
    simp only [hh] at h
    split at h
    · rename_i hlow
      simpa [hlow] using resendToAllPorts_perm hin h
    · rename_i hlow
      simpa [hlow] using resendToSelectivePorts_perm hin h
  | err =>
    simp only [hh, Option.some.injEq] at h
    subst h
    exact ⟨[], by simp, rfl⟩

theorem mem_elegibles {course : Option TypeOfConnection} :
    i ∈ elegibles cfg incomingPort course ↔ i < cfg.ports.length ∧
      (∀ c, course = some c → (cfg.orderedPort i).bind cfg.conexion = some c) ∧
      cfg.orderedPort i ≠ some incomingPort := by
  cases course <;> simp [elegibles, esEntrada]

theorem objetivo_lt (h : i ∈ objetivo cfg incomingPort) : i < cfg.ports.length := by
  unfold objetivo at h
  split at h
  · exact absurd h not_mem_nil
  · exact (mem_elegibles.mp h).1

theorem porNull_resendBroadcast (hin : cfg.esPuerto incomingPort = true)
    (h : resendBroadcast cfg incomingPort packet src dst protocol draws = some envios) :
    porNull envios = false := by
  obtain ⟨indices, hperm, rfl⟩ := resendBroadcast_perm hin h
  refine any_eq_false.mpr fun v hv => ?_
  obtain ⟨i, hi, rfl⟩ := mem_map.mp hv
  simp [Config.orderedPort_of_lt (objetivo_lt (hperm.mem_iff.mp hi))]

theorem mem_resendBroadcast (hin : cfg.esPuerto incomingPort = true)
    (h : resendBroadcast cfg incomingPort packet src dst protocol draws = some envios)
    (hj : j < cfg.ports.length) :
    cfg.orderedPort j ∈ envios.map (·.puerto) ↔ j ∈ objetivo cfg incomingPort := by
  obtain ⟨indices, hperm, rfl⟩ := resendBroadcast_perm hin h
  have hmap : (copias cfg packet src dst protocol indices).map (·.puerto) =
      indices.map cfg.orderedPort := by
    simp [copias]
  rw [hmap, mem_map]
  constructor
  · rintro ⟨i, hi, hij⟩
    rw [Config.orderedPort_of_lt hj] at hij
    rw [← Config.orderedPort_inj hij (Config.orderedPort_of_lt hj)]
    exact hperm.mem_iff.mp hi
  · exact fun h => ⟨j, hperm.mem_iff.mpr h, rfl⟩

theorem copias_elegibles (course : Option TypeOfConnection) :
    copias cfg packet src dst protocol (elegibles cfg incomingPort course) =
      (cfg.ports.filter fun x =>
        (!course.any fun c => decide (cfg.conexion x.1 ≠ some c)) &&
          !decide (x.1 = incomingPort)).map fun x => ⟨some x.1, packet, src, dst, protocol⟩ := by
  have hports : (List.range cfg.ports.length).map (cfg.ports[·]?) = cfg.ports.map some := by
    refine ext_getElem (by simp) fun i h _ => ?_
    have hi : i < cfg.ports.length := by simpa using h
    simp [hi]
  -- both tests and the copy read the port that the index stands for
  have hidx : copias cfg packet src dst protocol (elegibles cfg incomingPort course) =
      (((List.range cfg.ports.length).map (cfg.ports[·]?)).filter fun o =>
        (!course.any fun c => decide ((o.map Prod.fst).bind cfg.conexion ≠ some c)) &&
          !decide (o.map Prod.fst = some incomingPort)).map fun o =>
            ⟨o.map Prod.fst, packet, src, dst, protocol⟩ := by
    rw [filter_map, map_map]
    rfl
  rw [hidx, hports, filter_map, map_map]
  simp [Function.comp_def]

theorem Config.conexion_of_mem {x : D × TypeOfConnection} (hx : x ∈ cfg.ports) :
    cfg.conexion x.1 = some x.2 := by
  obtain ⟨i, hi, rfl⟩ := mem_iff_getElem.mp hx
  exact Config.conexion_getElem hi

/-- **The copies of a flood.** `ResendToAllPorts` sends one to each port but the one of arrival, and
`ResendToSelectivePorts` with `Lower` from an upper port one to each lower port; no other is sent.
-/
theorem flood_copies (cfg : Config D) (incomingPort : D) (hin : cfg.esPuerto incomingPort = true)
    (packet : Paquete) (src dst : EthAddr) (protocol : UInt16) (draws : List Nat)
    (envios : List (Envio D)) :
    (resendToAllPorts cfg incomingPort packet src dst protocol draws = some envios →
      envios.Perm ((cfg.ports.filter fun x => decide (x.1 ≠ incomingPort)).map fun x =>
        ⟨some x.1, packet, src, dst, protocol⟩)) ∧
    (cfg.conexion incomingPort = some .upper →
      resendToSelectivePorts cfg incomingPort packet src dst protocol .lower draws =
        some envios →
      envios.Perm ((cfg.ports.filter fun x => decide (x.2 = .lower)).map fun x =>
        ⟨some x.1, packet, src, dst, protocol⟩)) := by
  refine ⟨fun h => ?_, fun hup h => ?_⟩
  · obtain ⟨indices, hperm, rfl⟩ := resendToAllPorts_perm hin h
    have hcopies := hperm.map fun i =>
      (⟨cfg.orderedPort i, packet, src, dst, protocol⟩ : Envio D)
    refine hcopies.trans (.of_eq ((copias_elegibles none).trans ?_))
    simp
  · obtain ⟨indices, hperm, rfl⟩ := resendToSelectivePorts_perm hin h
    have hcopies := hperm.map fun i =>
      (⟨cfg.orderedPort i, packet, src, dst, protocol⟩ : Envio D)
    refine hcopies.trans (.of_eq ((copias_elegibles (some .lower)).trans ?_))
    refine congrArg _ (filter_congr fun x hx => ?_)
    have hcon := Config.conexion_of_mem hx
    -- the port of arrival is an upper one
    have hne : x.2 = .lower → x.1 ≠ incomingPort := by
      intro hlow heq
      rw [heq, hup, hlow] at hcon
      cases hcon
    by_cases hlow : x.2 = .lower
    · simp [hcon, hlow, hne hlow]
    · simp [hcon, hlow]

end Flood

theorem nodup_dosYDos : (([(10, .upper), (20, .lower), (30, .upper), (40, .lower)] :
    List (Nat × TypeOfConnection)).map Prod.fst).Nodup := by
  decide

/-- An AgR switch with two links up and two down. -/
def dosYDos : Config Nat where
  mobility := true
  switchMode := modeTFEPATH
  hierarchy := .aggr
  helloPeriod := 5000000000
  arpExpire := 10000000000
  arpBlock := 3000000000
  tcpExpire := 10000000000
  address := fun _ => 100
  getAddress := fun d => fun _ => UInt8.ofNat d
  ports := [(10, .upper), (20, .lower), (30, .upper), (40, .lower)]
  nodup := nodup_dosYDos

/-- A frame from the first port, with draws that repeat and that hit the port of arrival. The
    second loop goes on after its last copy, until it has drawn each upper port. -/
theorem flood_copies_dosYDos :
    (∃ envios, resendToAllPorts dosYDos 10 ⟨[], []⟩ (fun _ => 1) ethAddrBroadcast 2054
        [0, 3, 3, 1, 0, 2] = some envios ∧
      envios.Perm [⟨some 20, ⟨[], []⟩, fun _ => 1, ethAddrBroadcast, 2054⟩,
        ⟨some 30, ⟨[], []⟩, fun _ => 1, ethAddrBroadcast, 2054⟩,
        ⟨some 40, ⟨[], []⟩, fun _ => 1, ethAddrBroadcast, 2054⟩]) ∧
    ∃ envios, resendToSelectivePorts dosYDos 10 ⟨[], []⟩ (fun _ => 1) ethAddrBroadcast 2054 .lower
        [0, 3, 3, 1, 0, 2] = some envios ∧
      envios.Perm [⟨some 20, ⟨[], []⟩, fun _ => 1, ethAddrBroadcast, 2054⟩,
        ⟨some 40, ⟨[], []⟩, fun _ => 1, ethAddrBroadcast, 2054⟩] :=
  ⟨⟨_, rfl, (flood_copies dosYDos 10 (by decide) ⟨[], []⟩ (fun _ => 1) ethAddrBroadcast 2054
      [0, 3, 3, 1, 0, 2] _).1 rfl⟩,
    ⟨_, rfl, (flood_copies dosYDos 10 (by decide) ⟨[], []⟩ (fun _ => 1) ethAddrBroadcast 2054
      [0, 3, 3, 1, 0, 2] _).2 (by decide) rfl⟩⟩

/-! ## 3. The two implementations -/

/-- The id range of a level. -/
def Corresponde : HierarchySwitch → Nat → Prop
  | .tor, id => id < 100
  | .aggr, id => 100 ≤ id ∧ id < 1000
  | .core, id => 1000 ≤ id
  | .err, _ => False

/-- What the neighbour table says of the neighbour at a link; there is nothing above a core
    switch. -/
def tipoVecino : HierarchySwitch → TypeOfConnection → Option Nat
  | .tor, .lower => some portHost
  | .tor, .upper => some portAgr
  | .aggr, .lower => some portTor
  | .aggr, .upper => some portCore
  | .core, .lower => some portAgr
  | .core, .upper => none
  | .err, _ => none

/-- A datapath that stands where the switch stands: its level, a local port, the same number of
    ports, and at port `i + 1` the neighbour that the `i`-th device leads to. -/
structure Gemelo (cfg : Config D) (dp : Datapath) (nt : MacTable) : Prop where
  nivel : Corresponde cfg.hierarchy dp.id
  localPort : dp.localPort.isSome = true
  ports : dp.ports.length = cfg.ports.length
  vecinos : ∀ i, (h : i < cfg.ports.length) → ∀ tipo,
    tipoVecino cfg.hierarchy (cfg.ports[i]).2 = some tipo → tipoSwitchPort nt (i + 1) = tipo

section Agree

variable {cfg : Config D} {dp : Datapath} {nt : MacTable} {incomingPort : D} {i j : Nat}

theorem nivelPermite_gemelo (hg : Gemelo cfg dp nt) (hi : cfg.orderedPort i = some incomingPort)
    (hj : j < cfg.ports.length) :
    nivelPermite dp.id (tipoSwitchPort nt (i + 1)) (tipoSwitchPort nt (j + 1)) = true ↔
      ∀ c, curso cfg incomingPort = some c → (cfg.ports[j]).2 = c := by
  have hlt := Config.orderedPort_lt hi
  have hdev : (cfg.ports[i]).1 = incomingPort := by
    rw [Config.orderedPort_of_lt hlt] at hi
    exact Option.some.inj hi
  have hcon : cfg.conexion incomingPort = some (cfg.ports[i]).2 :=
    hdev ▸ Config.conexion_getElem hlt
  have hn := hg.nivel
  have hvi := hg.vecinos i hlt
  have hvj := hg.vecinos j hj
  unfold curso nivelPermite
  rw [hcon]
  generalize (cfg.ports[i]).2 = ci at hvi
  generalize (cfg.ports[j]).2 = cj at hvj
  -- level by level, and by the kind of link on both sides
  cases hh : cfg.hierarchy with
  | core =>
    rw [hh] at hn
    simp [show 1000 ≤ dp.id from hn]
  | aggr =>
    rw [hh] at hn hvi hvj
    have h1 : ¬ 1000 ≤ dp.id := Nat.not_le.mpr hn.2
    rw [if_neg h1, if_pos ⟨hn.1, hn.2⟩]
    cases ci <;> cases cj <;> simp [hvi _ rfl, hvj _ rfl, portCore, portTor]
  | tor =>
    rw [hh] at hn hvi hvj
    have hn' : dp.id < 100 := hn
    rw [if_neg (by omega), if_neg (by omega)]
    cases ci <;> cases cj <;> simp [hvi _ rfl, hvj _ rfl, portHost, portAgr]
  | err =>
    rw [hh] at hn
    exact hn.elim

theorem mem_puertosRandom_gemelo (hg : Gemelo cfg dp nt)
    (hi : cfg.orderedPort i = some incomingPort) (rand q : Nat) :
    q ∈ puertosRandom dp nt rand (i + 1) false ↔
      ∃ j, q = j + 1 ∧ j ∈ objetivo cfg incomingPort := by
  have hnum : dp.portsNum = cfg.ports.length + 1 := by
    obtain ⟨p, hp⟩ := Option.isSome_iff_exists.mp hg.localPort
    simp [Datapath.portsNum, hp, hg.ports]
  have herr : cfg.hierarchy ≠ .err := by
    intro h
    have := hg.nivel
    rw [h] at this
    exact this
  have hrow : q ∈ puertosRandom dp nt rand (i + 1) false ↔ q < cfg.ports.length + 1 ∧ q ≠ i + 1 ∧
      q ≠ 0 ∧ nivelPermite dp.id (tipoSwitchPort nt (i + 1)) (tipoSwitchPort nt q) = true := by
    unfold puertosRandom
    rw [mem_filter, (dp.row_perm rand).mem_iff, mem_range, hnum]
    simp [and_assoc]
  rw [hrow]
  unfold objetivo
  rw [if_neg herr]
  constructor
  · rintro ⟨hlt, hne, h0, hok⟩
    obtain ⟨j, rfl⟩ := Nat.exists_eq_succ_of_ne_zero h0
    have hj : j < cfg.ports.length := by omega
    refine ⟨j, rfl, mem_elegibles.mpr ⟨hj, fun c hc => ?_, fun hin => ?_⟩⟩
    · rw [Config.orderedPort_of_lt hj, Option.bind_some, Config.conexion_getElem hj,
        (nivelPermite_gemelo hg hi hj).mp hok c hc]
    · exact hne (by rw [Config.orderedPort_inj hin hi])
  · rintro ⟨j, rfl, hmem⟩
    obtain ⟨hj, hc, hne⟩ := mem_elegibles.mp hmem
    refine ⟨by omega, fun e => ?_, by omega, (nivelPermite_gemelo hg hi hj).mpr fun c hc' => ?_⟩
    · have hij : j = i := by omega
      exact hne (hij ▸ hi)
    · have := hc c hc'
      rw [Config.orderedPort_of_lt hj, Option.bind_some, Config.conexion_getElem hj] at this
      exact Option.some.inj this

end Agree

/-- **Two implementations, one flooding policy.** `ResendBroadcast` sends to the ports for which
`dp_ports_output_random` calls `dp_ports_output`, which sends to each that is not administratively
down. -/
theorem flood_policies_agree (cfg : Config D) (dp : Datapath) (nt : MacTable)
    (hg : Gemelo cfg dp nt) (incomingPort : D) (i : Nat)
    (hi : cfg.orderedPort i = some incomingPort) (packet : Paquete) (src dst : EthAddr)
    (protocol : UInt16) (draws : List Nat) (envios : List (Envio D))
    (h : resendBroadcast cfg incomingPort packet src dst protocol draws = some envios)
    (rand : Nat) (buf : Bytes) :
    (∀ q, q ∈ puertosRandom dp nt rand (i + 1) false ↔
      ∃ j, q = j + 1 ∧ j < cfg.ports.length ∧ cfg.orderedPort j ∈ envios.map (·.puerto)) ∧
    ∀ q b, (q, b) ∈ dpPortsOutputRandom dp nt rand buf (i + 1) false ↔ b = buf ∧
      (∃ j, q = j + 1 ∧ j < cfg.ports.length ∧ cfg.orderedPort j ∈ envios.map (·.puerto)) ∧
      (dpPortsLookup dp q).any (fun p => !p.portDown) = true := by
  have hin : cfg.esPuerto incomingPort = true := Config.esPuerto_of_orderedPort hi
  have hset : ∀ q, q ∈ puertosRandom dp nt rand (i + 1) false ↔
      ∃ j, q = j + 1 ∧ j < cfg.ports.length ∧ cfg.orderedPort j ∈ envios.map (·.puerto) := by
    intro q
    rw [mem_puertosRandom_gemelo hg hi]
    constructor
    · rintro ⟨j, hq, hj⟩
      have hlt := objetivo_lt hj
      exact ⟨j, hq, hlt, (mem_resendBroadcast hin h hlt).mpr hj⟩
    · rintro ⟨j, hq, hlt, hj⟩
      exact ⟨j, hq, (mem_resendBroadcast hin h hlt).mp hj⟩
  refine ⟨hset, fun q b => ?_⟩
  rw [dpPortsOutputRandom_eq, mem_flatMap]
  simp only [← hset]
  constructor
  · rintro ⟨port, hport, hout⟩
    obtain ⟨rfl, rfl, -⟩ := mem_dpPortsOutput hout
    refine ⟨rfl, hport, ?_⟩
    unfold dpPortsOutput at hout
    cases hl : dpPortsLookup dp q with
    | none => simp [hl] at hout
    | some p => cases hd : p.portDown <;> simp [hl, hd] at hout ⊢
  · rintro ⟨rfl, hq, hup⟩
    refine ⟨q, hq, ?_⟩
    unfold dpPortsOutput
    cases hl : dpPortsLookup dp q with
    | none => simp [hl] at hup
    | some p => cases hd : p.portDown <;> simp [hl, hd] at hup ⊢

theorem nodup_agregado :
    (([(10, .upper), (20, .lower)] : List (Nat × TypeOfConnection)).map Prod.fst).Nodup := by
  decide

def agregado : Config Nat where
  mobility := true
  switchMode := modeTFEPATH
  hierarchy := .aggr
  helloPeriod := 5000000000
  arpExpire := 10000000000
  arpBlock := 3000000000
  tcpExpire := 10000000000
  address := fun _ => 100
  getAddress := fun d => fun _ => UInt8.ofNat d
  ports := [(10, .upper), (20, .lower)]
  nodup := nodup_agregado

def agregadoLocal : Datapath := { nucleoLocal with id := 100 }

def vecinosAgregado : MacTable :=
  [⟨fun _ => 7, 1, portCore, 0⟩, ⟨fun _ => 8, 2, portTor, 0⟩]

theorem gemelo_agregado : Gemelo agregado agregadoLocal vecinosAgregado where
  nivel := ⟨Nat.le_refl 100, by decide⟩
  localPort := rfl
  ports := rfl
  vecinos := by
    intro i h tipo ht
    match i, h with
    | 0, _ =>
      cases ht
      decide
    | 1, _ =>
      cases ht
      decide

/-- A frame from above goes to port 2 in both, whatever comes first in the draws. -/
theorem flood_policies_agree_agregado :
    puertosRandom agregadoLocal vecinosAgregado 0 1 false = [2] ∧
    ∀ q, q ∈ puertosRandom agregadoLocal vecinosAgregado 0 1 false ↔
      ∃ j, q = j + 1 ∧ j < agregado.ports.length ∧
        agregado.orderedPort j ∈ [some 20] :=
  ⟨by decide, (flood_policies_agree agregado agregadoLocal vecinosAgregado gemelo_agregado 10 0 rfl
    ⟨[], []⟩ (fun _ => 1) ethAddrBroadcast 2054 [0, 1]
    [⟨some 20, ⟨[], []⟩, fun _ => 1, ethAddrBroadcast, 2054⟩] rfl 0 []).1⟩

end TcpPath.Tfe
