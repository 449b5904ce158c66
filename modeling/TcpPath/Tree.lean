/-
  Subject:   Ports that switches have learned for a host, as a tree of pointers over the links.

  `f v` is the port switch `v` has learned, for a fixed host and a fixed kind of table
  (`mac_port`, or the entry of a flow in `tcp_table`). The pointer library is instantiated with
  the switch behind that port.

  Results:   `Arbol.sigue`: the ports lead to the host, past no switch twice.
-/
import TcpPath.Network
import TcpPath.Util.PointerTree

namespace TcpPath

open Util List

variable {V : Type}

/-- The switch behind a port; `none` when there is a host, or no link. -/
def Red.detras (red : Red V) (v : V) (p : Nat) : Option V :=
  match red.link v p with
  | some (.switch w _) => some w
  | _ => none

theorem Red.detras_eq_some {red : Red V} {v w : V} {p : Nat} (h : red.detras v p = some w) :
    ∃ q, red.link v p = some (.switch w q) := by
  unfold detras at h
  split at h
  · rename_i w' q hl
    cases h
    exact ⟨q, hl⟩
  · cases h

/-- The learned ports as pointers. -/
def Red.punteros (red : Red V) (f : V → Option Nat) (v : V) : Option (Option V) :=
  (f v).map (red.detras v)

theorem Red.punteros_ne_none {red : Red V} {f : V → Option Nat} {v : V} :
    red.punteros f v ≠ none ↔ f v ≠ none := by
  unfold punteros
  rw [ne_eq, Option.map_eq_none_iff]

/-- **The learned ports form a tree towards host `h`.** -/
structure Arbol (red : Red V) (h : EthAddr) (f : V → Option Nat) : Prop where
  puntero : ∀ v p, f v = some p → red.link v p = some (.host h) ∨
    ∃ y q, red.link v p = some (.switch y q) ∧ f y ≠ none
  ranked : Ranked (red.punteros f)

namespace Arbol

variable {red : Red V} {h : EthAddr} {f f' : V → Option Nat} {v : V} {p : Nat}

theorem vacio (hf : ∀ v, f v = none) : Arbol red h f := by
  refine ⟨fun v p hv => ?_, .of_none fun v => ?_⟩
  · rw [hf v] at hv
    cases hv
  · unfold Red.punteros
    rw [hf v]
    rfl

theorem congr (ha : Arbol red h f) (hsame : ∀ u, f' u = f u) : Arbol red h f' := by
  rwa [show f' = f from funext hsame]

/-- **A switch learns its first port**, towards the host or a switch with a port. -/
theorem aprende (ha : Arbol red h f) (hsame : ∀ u, u ≠ v → f' u = f u) (hv : f v = none)
    (hv' : f' v = some p) (hp : red.link v p = some (.host h) ∨
      ∃ y q, red.link v p = some (.switch y q) ∧ f y ≠ none) : Arbol red h f' := by
  have hkeep : ∀ y, f y ≠ none → f' y ≠ none := by
    intro y hy
    have hyv : y ≠ v := fun e => hy (e ▸ hv)
    rw [hsame y hyv]
    exact hy
  refine ⟨fun u q hu => ?_, ?_⟩
  · have hor : red.link u q = some (.host h) ∨
        ∃ y r, red.link u q = some (.switch y r) ∧ f y ≠ none := by
      by_cases huv : u = v
      · subst huv
        rw [hv'] at hu
        cases hu
        exact hp
      · rw [hsame u huv] at hu
        exact ha.puntero u q hu
    exact hor.imp id fun ⟨y, r, hl, hy⟩ => ⟨y, r, hl, hkeep y hy⟩
  · refine ha.ranked.extend (v := v) (fun u hu => ?_) ?_ fun w hw => ?_
    · unfold Red.punteros
      rw [hsame u hu]
    · unfold Red.punteros
      rw [hv]
      rfl
    · unfold Red.punteros at hw
      rw [hv', Option.map_some] at hw
      obtain ⟨q, hq⟩ := Red.detras_eq_some (Option.some.inj hw)
      refine Red.punteros_ne_none.mpr ?_
      rcases hp with hp | ⟨y, r, hl, hy⟩
      · rw [hp] at hq
        cases hq
      · rw [hl] at hq
        cases hq
        exact hy

end Arbol

/-- **A frame at port `p` of switch `v`**: `v` takes `p` as its first port if the frame teaches
    it, and then has a port; the other switches keep theirs. -/
structure Aprende (f f' : V → Option Nat) (v : V) (p : Nat) (ensena : Prop) : Prop where
  otro : ∀ u, u ≠ v → f' u = f u
  propio : f' v = f v ∨ (ensena ∧ f v = none ∧ f' v = some p)
  tiene : ensena → f' v ≠ none

namespace Aprende

variable {red : Red V} {h : EthAddr} {f f' : V → Option Nat} {v u : V} {p q : Nat} {ensena : Prop}

/-- **A learned port stays.** -/
theorem estable (ha : Aprende f f' v p ensena) (hu : f u = some q) : f' u = some q := by
  by_cases huv : u = v
  · subst huv
    rcases ha.propio with hsame | ⟨_, hnone, _⟩
    · rw [hsame]
      exact hu
    · rw [hnone] at hu
      cases hu
  · rw [ha.otro u huv]
    exact hu

theorem ne_none (ha : Aprende f f' v p ensena) (hu : f u ≠ none) : f' u ≠ none := by
  obtain ⟨q, hq⟩ := Option.ne_none_iff_exists'.mp hu
  rw [ha.estable hq]
  exact Option.some_ne_none q

/-- **The tree is kept** if frames that teach come from the host or a switch with a port. -/
theorem arbol (ha : Aprende f f' v p ensena) (htree : Arbol red h f)
    (hp : ensena → red.link v p = some (.host h) ∨
      ∃ y q, red.link v p = some (.switch y q) ∧ f y ≠ none) : Arbol red h f' := by
  rcases ha.propio with hsame | ⟨he, hnone, hnew⟩
  · refine htree.congr fun u => ?_
    by_cases huv : u = v
    · rw [huv]
      exact hsame
    · exact ha.otro u huv
  · exact htree.aprende ha.otro hnone hnew (hp he)

end Aprende

namespace Arbol

variable {red : Red V} {h : EthAddr} {f f' : V → Option Nat} {v : V} {p : Nat}

theorem host_of_root (ha : Arbol red h f) (hv : red.punteros f v = some none) :
    ∃ p, f v = some p ∧ red.link v p = some (.host h) := by
  obtain ⟨p, hp, hd⟩ := Option.map_eq_some_iff.mp hv
  refine ⟨p, hp, ?_⟩
  rcases ha.puntero v p hp with hl | ⟨y, q, hl, _⟩
  · exact hl
  · unfold Red.detras at hd
    rw [hl] at hd
    cases hd

/-- **Following the ports from any switch that has one leads to the switch of the host**, and meets
    no switch twice. -/
theorem sigue (ha : Arbol red h f) (hv : f v ≠ none) :
    ∃ l, Follow (red.punteros f) v l ∧ l.Nodup ∧
      ∃ a p, l.getLast? = some a ∧ f a = some p ∧ red.link a p = some (.host h) := by
  obtain ⟨l, hl, hnd⟩ := ha.ranked.follow (Red.punteros_ne_none.mpr hv)
  obtain ⟨a, hlast, ha'⟩ := hl.last
  obtain ⟨p, hp, hlink⟩ := ha.host_of_root ha'
  exact ⟨l, hl, hnd, a, p, hlast, hp, hlink⟩

end Arbol

/-! ## 2. The way along the learned ports -/

/-- A frame that came into `d` through port `pd` and left every switch through its learned port has
    passed the switches `l` and comes into `v` through port `p`. -/
inductive Camino (red : Red V) (f : V → Option Nat) (d : V) (pd : Nat) :
    List V → V → Nat → Prop where
  | inicio : Camino red f d pd [] d pd
  | paso {l : List V} {v w : V} {p q p' : Nat} (h : Camino red f d pd l v p) (hq : f v = some q)
      (hne : p ≠ q) (hl : red.link v q = some (.switch w p')) : Camino red f d pd (l ++ [v]) w p'

namespace Camino

variable {red : Red V} {f f' : V → Option Nat} {d v v' : V} {pd p p' q : Nat} {l l' : List V}

theorem mono (h : Camino red f d pd l v p) (hf : ∀ u q, f u = some q → f' u = some q) :
    Camino red f' d pd l v p := by
  induction h with
  | inicio => exact .inicio
  | paso _ hq hne hl ih => exact ih.paso (hf _ _ hq) hne hl

theorem unique (h : Camino red f d pd l v p) (h' : Camino red f d pd l' v' p')
    (hlen : l.length = l'.length) : l = l' ∧ v = v' ∧ p = p' := by
  induction h generalizing l' v' p' with
  | inicio =>
    cases h' with
    | inicio => exact ⟨rfl, rfl, rfl⟩
    | paso _ _ _ _ => simp at hlen
  | paso _ hq _ hl ih =>
    cases h' with
    | inicio => simp at hlen
    | paso h' hq' _ hl' =>
      obtain ⟨rfl, rfl, rfl⟩ := ih h' (by simpa using hlen)
      rw [hq] at hq'
      cases hq'
      rw [hl] at hl'
      cases hl'
      exact ⟨rfl, rfl, rfl⟩

theorem before (h : Camino red f d pd l v p) {n : Nat} (hn : n < l.length) :
    ∃ u pu, u ∈ l ∧ Camino red f d pd (l.take n) u pu := by
  induction h with
  | inicio => exact absurd hn (Nat.not_lt_zero n)
  | @paso l v w p q p' h hq hne hl ih =>
    rw [length_append, length_singleton] at hn
    rcases Nat.lt_or_ge n l.length with hlt | hge
    · obtain ⟨u, pu, hu, hc⟩ := ih hlt
      refine ⟨u, pu, mem_append_left _ hu, ?_⟩
      rw [take_append_of_le_length (Nat.le_of_lt hlt)]
      exact hc
    · refine ⟨v, p, mem_append_right _ mem_cons_self, ?_⟩
      have hn' : n = l.length := by omega
      rw [hn', take_left]
      exact h

theorem punteros_of_link {w : V} (hq : f v = some q) (hl : red.link v q = some (.switch w p')) :
    red.punteros f v = some (some w) := by
  unfold Red.punteros Red.detras
  rw [hq, Option.map_some, hl]

theorem inj (hr : Ranked (red.punteros f)) (h : Camino red f d pd l v p)
    (h' : Camino red f d pd l' v p') : l = l' ∧ p = p' := by
  obtain ⟨rank, hrank⟩ := hr
  -- the rank falls along the way
  have hfall : ∀ {l v p}, Camino red f d pd l v p → ∀ u ∈ l, rank v < rank u := by
    intro l v p h
    induction h with
    | inicio => exact fun u hu => absurd hu not_mem_nil
    | paso h hq _ hl ih =>
      have hlt := (hrank _ _ (punteros_of_link hq hl)).2
      intro u hu
      rcases mem_append.mp hu with hu | hu
      · exact Nat.lt_trans hlt (ih u hu)
      · rw [mem_singleton.mp hu]
        exact hlt
  have hnot : ∀ {l l' p p'}, Camino red f d pd l v p → Camino red f d pd l' v p' →
      ¬ l.length < l'.length := by
    intro l l' p p' h h' hlt
    obtain ⟨u, pu, hu, hc⟩ := h'.before hlt
    obtain ⟨_, rfl, _⟩ := h.unique hc (by rw [length_take]; omega)
    exact Nat.lt_irrefl _ (hfall h' _ hu)
  have hlen : l.length = l'.length := by
    have h1 := hnot h h'
    have h2 := hnot h' h
    omega
  obtain ⟨h1, _, h2⟩ := h.unique h' hlen
  exact ⟨h1, h2⟩

theorem follow {r : List V} (h : Camino red f d pd l v p) (hr : Follow (red.punteros f) v r) :
    Follow (red.punteros f) d (l ++ r) := by
  induction h generalizing r with
  | inicio => exact hr
  | paso _ hq _ hl ih =>
    rw [append_assoc]
    exact ih (.step (punteros_of_link hq hl) hr)

end Camino

end TcpPath
