/-
  Subject:   The level tests of `dp_ports_output_random`: in a fabric of ToR, AgR and Core
             switches a flood goes up, then down, and ends.

  Results:   `outputRandom_valley_free`: at most five switches, no valley, and an end.
-/
import TcpPath.Network

namespace TcpPath

open Util List

variable {V : Type}

/-! ## 1. Levels -/

/-- The level of a datapath id: ToR, AgR, Core from below. -/
def nivel (id : Nat) : Nat := if id < 100 then 0 else if id < 1000 then 1 else 2

/-- The test of `dp_ports_output_random` by level. -/
def permite (n entrada salida : Nat) : Bool :=
  match n with
  | 0 => entrada == portHost || (entrada != portHost && salida == portHost)
  | 1 => entrada == portTor || (entrada == portCore && salida == portTor)
  | _ => true

theorem nivel_le (id : Nat) : nivel id ≤ 2 := by
  unfold nivel
  split
  · exact Nat.zero_le 2
  · split
    · exact Nat.le_succ 1
    · exact Nat.le_refl 2

theorem posicion_eq (id : Nat) : posicion id = 3 - nivel id := by
  unfold posicion nivel
  split
  · rfl
  · split <;> rfl

theorem nivelPermite_eq (id entrada salida : Nat) :
    nivelPermite id entrada salida = permite (nivel id) entrada salida := by
  unfold nivelPermite nivel
  by_cases h1 : id < 100
  · rw [if_pos h1, if_neg (by omega), if_neg (by omega)]
    rfl
  · by_cases h2 : id < 1000
    · rw [if_neg h1, if_pos h2, if_neg (by omega), if_pos ⟨by omega, h2⟩]
      rfl
    · rw [if_neg h1, if_neg h2, if_pos (by omega)]
      rfl

/-- A sequence of levels that does not go down and then up again. -/
def SinValle (ls : List Nat) : Prop :=
  ∀ j, j < ls.length - 1 → ∀ i, i < j → ls.getD (i + 1) 0 < ls.getD i 0 →
    ls.getD (j + 1) 0 ≤ ls.getD j 0

instance (ls : List Nat) : Decidable (SinValle ls) := by
  unfold SinValle
  infer_instance

/-- The levels passed before, the level of the switch, and the type of the port a copy comes in
    through. -/
inductive Escala : List Nat → Nat → Nat → Prop where
  | entra : Escala [] 0 portHost
  | sube : Escala [0] 1 portTor
  | vuelve : Escala [0, 1] 0 portAgr
  | cima : Escala [0, 1] 2 portAgr
  | baja : Escala [0, 1, 2] 1 portCore
  | sale : Escala [0, 1, 2, 1] 0 portAgr

namespace Escala

variable {ls : List Nat} {n m e : Nat}

/-- **One hop to a switch** of level `m` that the test permits. -/
theorem paso (h : Escala ls n e) (hadj : n + 1 = m ∨ m + 1 = n) (hm : m ≤ 2)
    (hp : permite n e (3 - m) = true) : Escala (ls ++ [n]) m (3 - n) := by
  cases h with
  | entra =>
    obtain rfl : m = 1 := by omega
    exact .sube
  | sube =>
    rcases hadj with hadj | hadj
    · obtain rfl : m = 2 := by omega
      exact .cima
    · obtain rfl : m = 0 := by omega
      exact .vuelve
  | vuelve =>
    -- from a ToR entered from above only host ports are left
    obtain rfl : m = 1 := by omega
    cases hp
  | cima =>
    obtain rfl : m = 1 := by omega
    exact .baja
  | baja =>
    rcases hadj with hadj | hadj
    · obtain rfl : m = 2 := by omega
      cases hp
    · obtain rfl : m = 0 := by omega
      exact .sale
  | sale =>
    obtain rfl : m = 1 := by omega
    cases hp

/-- **At most five switches, and no valley.** -/
theorem spec (h : Escala ls n e) : (ls ++ [n]).length ≤ 5 ∧ SinValle (ls ++ [n]) := by
  cases h <;> decide

end Escala

/-! ## 2. Floods without tables -/

/-- The level of a switch. -/
def Red.nivel (red : Red V) (v : V) : Nat := TcpPath.nivel (red.dp v).id

/-- **A fabric with levels**: hosts at ToR switches, links between neighbouring levels, and
    neighbour tables that have the type byte of the switch behind each port, and nothing for host
    ports. -/
structure Jerarquia (red : Red V) (nt : V → MacTable) : Prop where
  host : ∀ v p h, red.link v p = some (.host h) → red.nivel v = 0
  enlace : ∀ v p w q, red.link v p = some (.switch w q) →
    red.nivel v + 1 = red.nivel w ∨ red.nivel w + 1 = red.nivel v
  vecino : ∀ v p w q, red.link v p = some (.switch w q) →
    tipoSwitchPort (nt v) p = posicion (red.dp w).id
  sinVecino : ∀ v p h, red.link v p = some (.host h) → ∀ e ∈ nt v, e.portIn ≠ p

/-- The switches a copy has passed, with the one it comes to. -/
def Copia.recorrido (c : Copia V) : List V :=
  match c.dest with
  | .switch v _ => c.traza ++ [v]
  | .host _ => c.traza

/-- One event of a network without memory: a copy reaches its end of the link, and a switch floods
    it, with the row `rand()` draws. -/
def Red.olvida [DecidableEq V] (red : Red V) (nt : V → MacTable) (cs : List (Copia V))
    (e : Copia V × Nat) : Option (List (Copia V)) :=
  if cs.contains e.1 then
    match e.1.dest with
    | .host _ => some (cs.erase e.1)
    | .switch v p => some (cs.erase e.1 ++
        red.copias v (nt v) e.2 e.1 [.outputPort (red.pkt p e.1.buf) ofppRandom])
  else none

/-- Where a copy of the flood is. -/
def Etapa (red : Red V) (nt : V → MacTable) (c : Copia V) : Prop :=
  match c.dest with
  | .switch v p => (∃ x, red.link v p = some x) ∧
      Escala (c.traza.map red.nivel) (red.nivel v) (tipoSwitchPort (nt v) p)
  | .host _ => ∃ ls n e, Escala ls n e ∧ c.traza.map red.nivel = ls ++ [n]

section Etapa

variable {red : Red V} {nt : V → MacTable} {v : V} {p : Nat} {h : EthAddr} {c : Copia V}

theorem Jerarquia.tipo_host (hj : Jerarquia red nt) (hl : red.link v p = some (.host h)) :
    tipoSwitchPort (nt v) p = portHost := by
  unfold tipoSwitchPort
  rw [find?_eq_none.mpr fun e he => by simpa using hj.sinVecino v p h hl e he]
  rfl

theorem Etapa.entra (hj : Jerarquia red nt) {i : Nat} {buf : Bytes}
    (hl : red.link v p = some (.host h)) : Etapa red nt ⟨.switch v p, buf, i, []⟩ := by
  refine ⟨⟨_, hl⟩, ?_⟩
  rw [hj.host v p h hl, hj.tipo_host hl]
  exact .entra

/-- **Every copy of a flood is one stage on.** -/
theorem Etapa.inunda (hj : Jerarquia red nt) {c' : Copia V} {rand : Nat} (hd : c.dest = .switch v p)
    (hc : Etapa red nt c)
    (hc' : c' ∈ red.copias v (nt v) rand c [.outputPort (red.pkt p c.buf) ofppRandom]) :
    Etapa red nt c' := by
  unfold Etapa at hc
  rw [hd] at hc
  obtain ⟨_, hesc⟩ := hc
  rw [Red.copias_flood] at hc'
  obtain ⟨⟨q, b⟩, hout, hmap⟩ := mem_filterMap.mp hc'
  obtain ⟨x, hlink, rfl⟩ := Option.map_eq_some_iff.mp hmap
  have hper := (mem_dpPortsOutputRandom hout).2.2.2
  rw [nivelPermite_eq] at hper
  unfold Etapa
  cases x with
  | switch w r =>
    have hback := red.symm v q w r hlink
    refine ⟨⟨_, hback⟩, ?_⟩
    rw [hj.vecino v q w r hlink, posicion_eq] at hper
    rw [hj.vecino w r v q hback, posicion_eq, map_append]
    exact hesc.paso (hj.enlace v q w r hlink) (nivel_le _) hper
  | host y => exact ⟨_, _, _, hesc, map_append⟩

theorem Etapa.spec (h : Etapa red nt c) :
    c.recorrido.length ≤ 5 ∧ SinValle (c.recorrido.map red.nivel) := by
  unfold Etapa at h
  unfold Copia.recorrido
  split at h
  · have hspec := h.2.spec
    rw [length_append, length_map] at hspec
    refine ⟨by rw [length_append]; exact hspec.1, ?_⟩
    rw [map_append]
    exact hspec.2
  · obtain ⟨ls, n, e, hesc, hls⟩ := h
    have hspec := hesc.spec
    rw [← hls, length_map] at hspec
    exact hspec

end Etapa

/-! ## 3. Floods end -/

section Fin

variable [DecidableEq V] {red : Red V} {nt : V → MacTable} {cs cs' : List (Copia V)}

/-- The weight of a copy, in a network whose switches have at most `g` links. -/
def peso (g : Nat) (c : Copia V) : Nat := (g + 1) ^ (6 - c.traza.length)

omit [DecidableEq V] in
theorem peso_inunda {g rand : Nat} (hg : ∀ v, red.grado v ≤ g) {c : Copia V} {v : V} {p : Nat}
    (hd : c.dest = .switch v p) (hc : Etapa red nt c) :
    ((red.copias v (nt v) rand c [.outputPort (red.pkt p c.buf) ofppRandom]).map (peso g)).sum <
      peso g c := by
  have hlen : c.traza.length ≤ 4 := by
    have hspec := hc.spec.1
    unfold Copia.recorrido at hspec
    rw [hd, length_append, length_singleton] at hspec
    omega
  obtain ⟨x, hl⟩ : ∃ x, red.link v p = some x := by
    unfold Etapa at hc
    rw [hd] at hc
    exact hc.1
  set nuevas := red.copias v (nt v) rand c [.outputPort (red.pkt p c.buf) ofppRandom] with hn
  have hcount : nuevas.length ≤ g := by
    have h1 : nuevas.length ≤ red.grado v - 1 :=
      Red.length_copias_flood (red.pkt p c.buf) hl
    have h2 := hg v
    omega
  have heach : ∀ y ∈ nuevas.map (peso g), y ≤ (g + 1) ^ (5 - c.traza.length) := by
    intro y hy
    obtain ⟨c', hc', rfl⟩ := mem_map.mp hy
    unfold peso
    rw [(red.mem_copias hc').2.1, length_append, length_singleton]
    exact Nat.le_of_eq (congrArg _ (by omega))
  calc (nuevas.map (peso g)).sum
      ≤ nuevas.length * (g + 1) ^ (5 - c.traza.length) := by
        have hsum := sum_le_card_nsmul _ _ heach
        rwa [length_map, smul_eq_mul] at hsum
    _ ≤ g * (g + 1) ^ (5 - c.traza.length) := Nat.mul_le_mul_right _ hcount
    _ < (g + 1) * (g + 1) ^ (5 - c.traza.length) :=
        Nat.mul_lt_mul_of_pos_right (Nat.lt_succ_self g) (Nat.pow_pos (Nat.succ_pos g))
    _ = peso g c := by
        unfold peso
        rw [← Nat.pow_succ', show 6 - c.traza.length = 5 - c.traza.length + 1 by omega]

/-- **One event** keeps the stages and lowers the sum of the weights. -/
theorem olvida_step (hj : Jerarquia red nt) {g : Nat} (hg : ∀ v, red.grado v ≤ g)
    {e : Copia V × Nat} (hcs : ∀ c ∈ cs, Etapa red nt c)
    (hs : red.olvida nt cs e = some cs') :
    (∀ c ∈ cs', Etapa red nt c) ∧ (cs'.map (peso g)).sum < (cs.map (peso g)).sum := by
  obtain ⟨c, rand⟩ := e
  unfold Red.olvida at hs
  dsimp only at hs
  split at hs
  · rename_i hc
    rw [contains_iff_mem] at hc
    have hsum : peso g c + ((cs.erase c).map (peso g)).sum = (cs.map (peso g)).sum :=
      sum_map_erase (peso g) hc
    have hold : ∀ c' ∈ cs.erase c, Etapa red nt c' := fun c' hc' =>
      hcs c' (mem_of_mem_erase hc')
    split at hs
    · cases hs
      have hpos : 0 < peso g c := Nat.pow_pos (Nat.succ_pos g)
      exact ⟨hold, by omega⟩
    · rename_i v p hd
      cases hs
      refine ⟨fun c' hc' => ?_, ?_⟩
      · rcases mem_append.mp hc' with hc' | hc'
        · exact hold c' hc'
        · exact (hcs c hc).inunda hj hd hc'
      · rw [map_append, sum_append, ← hsum, Nat.add_comm]
        exact Nat.add_lt_add_right (peso_inunda hg hd (hcs c hc)) _
  · cases hs

/-- **Valley-free flooding.** In every fabric with levels a copy passes at most five switches, its
levels do not go down and then up again, and every flood ends, with no copy left. -/
theorem outputRandom_valley_free [Fintype V] (hj : Jerarquia red nt) {v : V} {p i : Nat}
    {h : EthAddr} {buf : Bytes} (hl : red.link v p = some (.host h))
    {es : List (Copia V × Nat)}
    (hrun : exec (red.olvida nt) (fun _ _ => True) es [⟨.switch v p, buf, i, []⟩] = some cs) :
    (∀ c ∈ cs, c.recorrido.length ≤ 5 ∧ SinValle (c.recorrido.map red.nivel)) ∧
    es.length ≤ (Finset.univ.sup red.grado + 1) ^ 6 ∧
    (cs ≠ [] → ∃ e, (red.olvida nt cs e).isSome = true) := by
  set g := Finset.univ.sup red.grado with hgdef
  have hg : ∀ v, red.grado v ≤ g := fun v => Finset.le_sup (Finset.mem_univ v)
  have h0 : ∀ c ∈ [(⟨.switch v p, buf, i, []⟩ : Copia V)], Etapa red nt c := by
    intro c hc
    rw [mem_singleton.mp hc]
    exact .entra hj hl
  obtain ⟨hcs, hle⟩ := exec_length_le (I := fun cs => ∀ c ∈ cs, Etapa red nt c)
    (μ := fun cs => (cs.map (peso g)).sum)
    (fun t e u ht _ hu => olvida_step hj hg ht hu) h0 hrun
  refine ⟨fun c hc => (hcs c hc).spec, ?_, fun hne => ?_⟩
  · have hone : (([⟨.switch v p, buf, i, []⟩] : List (Copia V)).map (peso g)).sum =
        (g + 1) ^ 6 := Nat.add_zero _
    rw [hone] at hle
    exact Nat.le_trans (Nat.le_add_right _ _) hle
  · obtain ⟨c, hc⟩ := exists_mem_of_ne_nil cs hne
    refine ⟨(c, 0), ?_⟩
    unfold Red.olvida
    dsimp only
    rw [if_pos (contains_iff_mem.mpr hc)]
    split <;> rfl

end Fin

def cadena.link (v : Fin 5) (p : Nat) : Option (Extremo (Fin 5)) :=
  match p with
  | 1 => if v = 0 then some (.host (macDe 1)) else if v = 4 then some (.host (macDe 2)) else none
  | 2 => if v = 4 then none else some (.switch (v + 1) 3)
  | 3 => if v = 0 then none else some (.switch (v - 1) 2)
  | _ => none

theorem cadena.link_host {v : Fin 5} {p : Nat} {h : EthAddr}
    (hl : cadena.link v p = some (.host h)) :
    p = 1 ∧ (v = 0 ∧ macDe 1 = h ∨ v = 4 ∧ macDe 2 = h) := by
  unfold cadena.link at hl
  split at hl
  · split at hl
    · rename_i hv
      exact ⟨rfl, .inl ⟨hv, Extremo.host.inj (Option.some.inj hl)⟩⟩
    · split at hl
      · rename_i hv
        exact ⟨rfl, .inr ⟨hv, Extremo.host.inj (Option.some.inj hl)⟩⟩
      · cases hl
  · split at hl <;> cases hl
  · split at hl <;> cases hl
  · cases hl

theorem cadena.link_switch {v w : Fin 5} {p q : Nat}
    (hl : cadena.link v p = some (.switch w q)) :
    p = 2 ∧ v ≠ 4 ∧ w = v + 1 ∧ q = 3 ∨ p = 3 ∧ v ≠ 0 ∧ w = v - 1 ∧ q = 2 := by
  unfold cadena.link at hl
  split at hl
  · split at hl
    · cases hl
    · split at hl <;> cases hl
  · split at hl
    · cases hl
    · rename_i hv
      cases hl
      exact .inl ⟨rfl, hv, rfl, rfl⟩
  · split at hl
    · cases hl
    · rename_i hv
      cases hl
      exact .inr ⟨rfl, hv, rfl, rfl⟩
  · cases hl

def cadena.id : Fin 5 → Nat := ![1, 100, 1000, 101, 2]

def cadena : Red (Fin 5) where
  parse := decodifica
  cfg := ⟨0, false⟩
  dp := fun v => tresPuertos (cadena.id v)
  link := cadena.link
  physical := fun v p x h => by
    show 1 ≤ p ∧ p ≤ 3
    cases x with
    | host y =>
      obtain ⟨rfl, _⟩ := cadena.link_host h
      decide
    | switch w q => rcases cadena.link_switch h with ⟨rfl, _⟩ | ⟨rfl, _⟩ <;> decide
  symm := fun v p w q h => by
    rcases cadena.link_switch h with ⟨rfl, hv, rfl, rfl⟩ | ⟨rfl, hv, rfl, rfl⟩
    · clear h
      revert v
      decide
    · clear h
      revert v
      decide
  attached := fun h v p w q hv hw => by
    obtain ⟨rfl, hv | hv⟩ := cadena.link_host hv
    · obtain ⟨rfl, hw | hw⟩ := cadena.link_host hw
      · exact ⟨hv.1.trans hw.1.symm, rfl⟩
      · exact absurd (hv.2.trans hw.2.symm) (by decide)
    · obtain ⟨rfl, hw | hw⟩ := cadena.link_host hw
      · exact absurd (hv.2.trans hw.2.symm) (by decide)
      · exact ⟨hv.1.trans hw.1.symm, rfl⟩

/-- What the hello frames of the neighbours left. -/
def cadena.vecinos (v : Fin 5) : MacTable :=
  (if v = 4 then [] else [⟨macDe 0x20, 2, posicion (cadena.id (v + 1)), 10000⟩]) ++
    if v = 0 then [] else [⟨macDe 0x30, 3, posicion (cadena.id (v - 1)), 10000⟩]

theorem cadena_jerarquia : Jerarquia cadena cadena.vecinos where
  host := fun v p h hl => by
    rcases (cadena.link_host hl).2 with ⟨rfl, _⟩ | ⟨rfl, _⟩ <;> decide
  enlace := fun v p w q hl => by
    rcases cadena.link_switch hl with ⟨_, hv, rfl, _⟩ | ⟨_, hv, rfl, _⟩
    · clear hl
      revert v
      decide
    · clear hl
      revert v
      decide
  vecino := fun v p w q hl => by
    rcases cadena.link_switch hl with ⟨rfl, hv, rfl, _⟩ | ⟨rfl, hv, rfl, _⟩
    · clear hl
      revert v
      decide
    · clear hl
      revert v
      decide
  sinVecino := fun v p h hl => by
    obtain ⟨rfl, hv⟩ := cadena.link_host hl
    rcases hv with ⟨rfl, _⟩ | ⟨rfl, _⟩ <;> decide

def cruza : List (Copia (Fin 5) × Nat) :=
  [(⟨.switch 0 1, difusion 1, 0, []⟩, 0), (⟨.switch 1 3, difusion 1, 0, [0]⟩, 0),
    (⟨.switch 2 3, difusion 1, 0, [0, 1]⟩, 0), (⟨.switch 3 3, difusion 1, 0, [0, 1, 2]⟩, 0),
    (⟨.switch 4 3, difusion 1, 0, [0, 1, 2, 3]⟩, 0)]

theorem outputRandom_valley_free_cadena :
    exec (cadena.olvida cadena.vecinos) (fun _ _ => True) cruza
        [⟨.switch 0 1, difusion 1, 0, []⟩] =
      some [⟨.host (macDe 2), difusion 1, 0, [0, 1, 2, 3, 4]⟩] ∧
    [0, 1, 2, 3, 4].length ≤ 5 ∧ SinValle ([0, 1, 2, 3, 4].map cadena.nivel) := by
  have hrun : exec (cadena.olvida cadena.vecinos) (fun _ _ => True) cruza
      [⟨.switch 0 1, difusion 1, 0, []⟩] =
        some [⟨.host (macDe 2), difusion 1, 0, [0, 1, 2, 3, 4]⟩] := by
    decide
  have hl : Red.link cadena 0 1 = some (.host (macDe 1)) := rfl
  have hfree := outputRandom_valley_free cadena_jerarquia hl hrun
  exact ⟨hrun, hfree.1 _ (mem_singleton.mpr rfl)⟩

end TcpPath
