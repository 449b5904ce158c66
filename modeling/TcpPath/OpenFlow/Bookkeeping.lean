/-
  Subject:   The lists and the counter of a flow table agree, and the match list is in the order of
             the priorities, in every state the events of Datapath.lean lead to.

  Results:   `lookup_by_priority`: a packet hits the highest priority;
             `flow_table_bookkeeping`: counts and timeout lists are right.
-/
import TcpPath.OpenFlow.Datapath
import TcpPath.Util.Runs
import Mathlib.Logic.Relation

namespace TcpPath.Udatapath

open Util List

/-! ## 1. Skeletons -/

/-- What the lists of a table need of an entry. -/
structure Nucleo where
  dir : Nat
  puesto : Nat
  priority : Nat
  idleTimeout : Nat
  hardTimeout : Nat
  removeAt : Nat
  deriving DecidableEq, Repr

namespace Nucleo

def hardNode (e : Nucleo) : HardNode := ⟨e.dir, e.removeAt⟩

/-- The order of the match list: by priority, then by the age of the place. -/
def Antes (a b : Nucleo) : Prop :=
  b.priority < a.priority ∨ a.priority = b.priority ∧ a.puesto < b.puesto

theorem Antes.priority_le {a b : Nucleo} (h : a.Antes b) : b.priority ≤ a.priority := by
  rcases h with h | h
  · exact Nat.le_of_lt h
  · exact Nat.le_of_eq h.1.symm

end Nucleo

/-- A table as far as its lists go. -/
structure Esqueleto where
  activeCount : Nat
  entradas : List Nucleo
  hardEntries : List HardNode
  idleEntries : List Nat

namespace Esqueleto

def inserta (antes : List Nucleo) (e : Nucleo) (despues : List Nucleo) (s : Esqueleto) :
    Esqueleto where
  activeCount := s.activeCount + 1
  entradas := antes ++ e :: despues
  hardEntries := if 0 < e.removeAt
    then s.hardEntries.orderedInsert (fun a b => a.removeAt < b.removeAt) e.hardNode
    else s.hardEntries
  idleEntries := if 0 < e.idleTimeout then s.idleEntries ++ [e.dir] else s.idleEntries

def quita (dir : Nat) (s : Esqueleto) : Esqueleto where
  activeCount := s.activeCount - 1
  entradas := s.entradas.filter (·.dir != dir)
  hardEntries := s.hardEntries.filter (·.dir != dir)
  idleEntries := s.idleEntries.filter (· != dir)

def reemplaza (dir : Nat) (antes : List Nucleo) (e : Nucleo) (despues : List Nucleo)
    (s : Esqueleto) : Esqueleto :=
  { (s.quita dir).inserta antes e despues with activeCount := s.activeCount }

inductive Cambio : Nat × Esqueleto → Nat × Esqueleto → Prop where
  | nada {n m : Nat} {s : Esqueleto} (h : n ≤ m) : Cambio (n, s) (m, s)
  | quita {n : Nat} {s : Esqueleto} {e : Nucleo} (he : e ∈ s.entradas) :
      Cambio (n, s) (n, s.quita e.dir)
  | inserta {n : Nat} {s : Esqueleto} {antes despues : List Nucleo} {e : Nucleo}
      (hs : s.entradas = antes ++ despues) (hact : s.activeCount ≠ flowTableMaxEntries)
      (hdir : e.dir = n) (hpuesto : e.puesto = n) (hantes : ∀ a ∈ antes, e.priority ≤ a.priority)
      (hdespues : ∀ b ∈ despues.head?, b.priority < e.priority)
      (hdura : 0 < e.removeAt ↔ 0 < e.hardTimeout) :
      Cambio (n, s) (n + 1, s.inserta antes e despues)
  | reemplaza {n : Nat} {s : Esqueleto} {antes despues : List Nucleo} {e e' : Nucleo}
      (hs : s.entradas = antes ++ e :: despues) (hdir : e'.dir = n)
      (hpuesto : e'.puesto = e.puesto) (hprio : e'.priority = e.priority)
      (hdura : 0 < e'.removeAt ↔ 0 < e'.hardTimeout) :
      Cambio (n, s) (n + 1, s.reemplaza e.dir antes e' despues)

/-- **The invariant of a flow table**; the numbers below `n` have been given to entries. -/
structure Sana (n : Nat) (s : Esqueleto) : Prop where
  activos : s.activeCount = s.entradas.length
  tope : s.activeCount ≤ flowTableMaxEntries
  dirs : (s.entradas.map (·.dir)).Nodup
  nuevas : ∀ e ∈ s.entradas, e.dir < n ∧ e.puesto < n
  orden : s.entradas.Pairwise Nucleo.Antes
  duras : ∀ e ∈ s.entradas, 0 < e.removeAt ↔ 0 < e.hardTimeout
  ociosas : s.idleEntries.Perm ((s.entradas.filter (0 < ·.idleTimeout)).map (·.dir))
  vencen : s.hardEntries.Perm ((s.entradas.filter (0 < ·.hardTimeout)).map (·.hardNode))
  hardOrden : s.hardEntries.Pairwise fun a b => a.removeAt ≤ b.removeAt

namespace Sana

variable {n : Nat} {s : Esqueleto}

theorem mono {m : Nat} (h : s.Sana n) (hnm : n ≤ m) : s.Sana m :=
  { h with nuevas := fun e he => (h.nuevas e he).imp (·.trans_le hnm) (·.trans_le hnm) }

variable {antes despues : List Nucleo} {e : Nucleo}

theorem entradas_quita (h : s.Sana n) (hs : s.entradas = antes ++ e :: despues) :
    (s.quita e.dir).entradas = antes ++ despues := by
  have hd := h.dirs
  show s.entradas.filter _ = _
  rw [hs] at hd ⊢
  exact filter_key_ne hd

/-- **An entry goes.** -/
theorem quita (h : s.Sana n) (he : e ∈ s.entradas) : (s.quita e.dir).Sana n := by
  have hsub : (s.quita e.dir).entradas.Sublist s.entradas := filter_sublist
  obtain ⟨pre, post, hs⟩ := append_of_mem he
  have hlen : s.entradas.length = (s.quita e.dir).entradas.length + 1 := by
    rw [h.entradas_quita hs, hs, length_append, length_append, length_cons,
      Nat.add_assoc]
  have hact := h.activos
  have htope := h.tope
  refine ⟨?_, ?_, ?_, ?_, ?_, ?_, ?_, ?_, ?_⟩
  · show s.activeCount - 1 = _
    omega
  · show s.activeCount - 1 ≤ _
    omega
  · exact (hsub.map _).nodup h.dirs
  · exact fun a ha => h.nuevas a (hsub.subset ha)
  · exact h.orden.sublist hsub
  · exact fun a ha => h.duras a (hsub.subset ha)
  · refine (h.ociosas.filter (· != e.dir)).trans (.of_eq ?_)
    rw [filter_map, filter_comm]
    rfl
  · refine (h.vencen.filter (·.dir != e.dir)).trans (.of_eq ?_)
    rw [filter_map, filter_comm]
    rfl
  · exact h.hardOrden.filter _

theorem inserta (h : s.Sana n) (hs : s.entradas = antes ++ despues)
    (hact : s.activeCount < flowTableMaxEntries) (hdir : e.dir = n) (hpuesto : e.puesto ≤ n)
    (hantes : ∀ a ∈ antes, a.Antes e) (hdespues : ∀ b ∈ despues, e.Antes b)
    (hdura : 0 < e.removeAt ↔ 0 < e.hardTimeout) : (s.inserta antes e despues).Sana (n + 1) := by
  have hmem : ∀ a, a ∈ antes ++ e :: despues → a = e ∨ a ∈ s.entradas := by
    intro a ha
    rw [hs]
    exact mem_cons.mp (perm_middle.mem_iff.mp ha)
  have hfresca : e.dir ∉ s.entradas.map (·.dir) := by
    intro hd
    obtain ⟨a, ha, hae⟩ := mem_map.mp hd
    have := (h.nuevas a ha).1
    omega
  refine ⟨?_, hact, ?_, fun a ha => ?_, ?_, fun a ha => ?_, ?_, ?_, ?_⟩
  · show s.activeCount + 1 = (antes ++ e :: despues).length
    rw [h.activos, hs, length_append, length_append, length_cons, Nat.add_assoc]
  · show ((antes ++ e :: despues).map (·.dir)).Nodup
    rw [map_append, map_cons, nodup_middle, ← map_append, ← hs]
    exact nodup_cons.mpr ⟨hfresca, h.dirs⟩
  · rcases hmem a ha with rfl | ha
    · omega
    · have := h.nuevas a ha
      omega
  · exact pairwise_insert (hs ▸ h.orden) hantes hdespues
  · rcases hmem a ha with rfl | ha
    · exact hdura
    · exact h.duras a ha
  · refine List.Perm.trans ?_ (filter_map_insert _ _ antes despues e).symm
    show (if 0 < e.idleTimeout then s.idleEntries ++ [e.dir] else s.idleEntries).Perm _
    rw [← hs]
    split
    · rename_i hi
      rw [if_pos (decide_eq_true hi)]
      exact (perm_append_comm).trans (h.ociosas.append_left _)
    · rename_i hi
      rw [if_neg (by simpa using hi)]
      exact h.ociosas
  · refine List.Perm.trans ?_ (filter_map_insert _ _ antes despues e).symm
    show (if 0 < e.removeAt then _ else s.hardEntries).Perm _
    rw [← hs]
    split
    · rename_i hr
      rw [if_pos (decide_eq_true (hdura.mp hr))]
      exact (perm_orderedInsert _ _ _).trans (h.vencen.cons _)
    · rename_i hr
      rw [if_neg (by simpa using fun hh => hr (hdura.mpr hh))]
      exact h.vencen
  · show List.Pairwise _ (if 0 < e.removeAt then _ else s.hardEntries)
    split
    · exact pairwise_orderedInsert_lt (·.removeAt) e.hardNode h.hardOrden
    · exact h.hardOrden

theorem inserta_antes (h : s.Sana n) (hs : s.entradas = antes ++ despues) (hpuesto : e.puesto = n)
    (hantes : ∀ a ∈ antes, e.priority ≤ a.priority)
    (hdespues : ∀ b ∈ despues.head?, b.priority < e.priority) :
    (∀ a ∈ antes, a.Antes e) ∧ ∀ b ∈ despues, e.Antes b := by
  constructor
  · intro a ha
    have hlt := (h.nuevas a (hs ▸ mem_append_left _ ha)).2
    rcases Nat.lt_or_eq_of_le (hantes a ha) with hp | hp
    · exact .inl hp
    · exact .inr ⟨hp.symm, hpuesto ▸ hlt⟩
  · intro b hb
    obtain ⟨_, hd, _⟩ := pairwise_append.mp (hs ▸ h.orden)
    cases despues with
    | nil => cases hb
    | cons c despues =>
      have hc := hdespues c rfl
      rcases mem_cons.mp hb with rfl | hb
      · exact .inl hc
      · exact .inl (Nat.lt_of_le_of_lt ((pairwise_cons.mp hd).1 b hb).priority_le hc)

theorem reemplaza (h : s.Sana n) {e' : Nucleo} (hs : s.entradas = antes ++ e :: despues)
    (hdir : e'.dir = n) (hpuesto : e'.puesto = e.puesto) (hprio : e'.priority = e.priority)
    (hdura : 0 < e'.removeAt ↔ 0 < e'.hardTimeout) :
    (s.reemplaza e.dir antes e' despues).Sana (n + 1) := by
  have he : e ∈ s.entradas := hs ▸ mem_append_right _ mem_cons_self
  have hpos : 0 < s.activeCount := h.activos ▸ length_pos_of_mem he
  have htope := h.tope
  have heq : s.reemplaza e.dir antes e' despues = (s.quita e.dir).inserta antes e' despues :=
    congrArg (Esqueleto.mk · _ _ _) (Nat.sub_add_cancel hpos).symm
  have hant : ∀ a b : Nucleo, a.Antes b ↔
      b.priority < a.priority ∨ a.priority = b.priority ∧ a.puesto < b.puesto := fun _ _ => .rfl
  obtain ⟨_, h2, h3⟩ := pairwise_append.mp (hs ▸ h.orden)
  rw [heq]
  refine (h.quita he).inserta (h.entradas_quita hs) ?_ hdir ?_ (fun a ha => ?_) (fun b hb => ?_)
    hdura
  · show s.activeCount - 1 < flowTableMaxEntries
    omega
  · have := (h.nuevas e he).2
    omega
  · rw [hant, hprio, hpuesto]
    exact h3 a ha e mem_cons_self
  · rw [hant, hprio, hpuesto]
    exact (pairwise_cons.mp h2).1 b hb

end Sana

/-- **One change keeps the invariant.** -/
theorem Cambio.sana {x y : Nat × Esqueleto} (hc : Cambio x y) (h : x.2.Sana x.1) :
    y.2.Sana y.1 := by
  cases hc with
  | nada hnm => exact h.mono hnm
  | quita he => exact h.quita he
  | inserta hs hact hdir hpuesto hantes hdespues hdura =>
    obtain ⟨h1, h2⟩ := h.inserta_antes hs hpuesto hantes hdespues
    exact h.inserta hs (Nat.lt_of_le_of_ne h.tope hact) hdir hpuesto.le h1 h2 hdura
  | reemplaza hs hdir hpuesto hprio hdura => exact h.reemplaza hs hdir hpuesto hprio hdura

end Esqueleto

variable {Mt Ac Bd P : Type}

/-! ## 2. One table -/

def Entrada.nucleo (entry : Entrada Mt Ac) : Nucleo :=
  ⟨entry.dir, entry.puesto, entry.priority, entry.idleTimeout, entry.hardTimeout, entry.removeAt⟩

namespace TablaFlujos

def esqueleto (table : TablaFlujos Mt Ac) : Esqueleto :=
  ⟨table.activeCount, table.matchEntries.map (·.nucleo), table.hardEntries, table.idleEntries⟩

theorem esqueleto_quita (dir : Nat) (table : TablaFlujos Mt Ac) :
    (table.quita dir).esqueleto = table.esqueleto.quita dir := by
  unfold esqueleto Esqueleto.quita
  rw [filter_map]
  rfl

theorem esqueleto_inserta (antes despues : List (Entrada Mt Ac)) (entry : Entrada Mt Ac)
    (table : TablaFlujos Mt Ac) :
    ((table.inserta antes entry despues).addToTimeoutLists entry).esqueleto =
      table.esqueleto.inserta (antes.map (·.nucleo)) entry.nucleo (despues.map (·.nucleo)) := by
  refine congrArg (Esqueleto.mk _ · _ _) ?_
  exact map_append.trans (congrArg _ map_cons)

theorem esqueleto_reemplaza (dir : Nat) (antes despues : List (Entrada Mt Ac))
    (entry : Entrada Mt Ac) (table : TablaFlujos Mt Ac) :
    ((table.reemplaza dir antes entry despues).addToTimeoutLists entry).esqueleto =
      table.esqueleto.reemplaza dir (antes.map (·.nucleo)) entry.nucleo
        (despues.map (·.nucleo)) := by
  refine congrArg (Esqueleto.mk _ · _ _) ?_
  exact map_append.trans (congrArg _ map_cons)

theorem esqueleto_lookup (env : Entorno Mt Ac P) (pkt : P) (now : Nat)
    (table : TablaFlujos Mt Ac) : (table.lookup env pkt now).1.esqueleto = table.esqueleto := by
  unfold lookup
  split
  · rfl
  · exact congrArg (Esqueleto.mk _ · _ _)
      (map_modifyFirst (f := (·.usa env pkt now)) Entrada.nucleo (fun _ _ => rfl) _)

end TablaFlujos

section Sitio

variable {of : OpenFlow Mt Ac P} {mod : FlowMod Mt Ac} {overlap : Bool}
  {l antes despues : List (Entrada Mt Ac)}

theorem buscaSitio_igual {entry : Entrada Mt Ac}
    (h : buscaSitio of mod overlap l = .igual antes entry despues) :
    l = antes ++ entry :: despues ∧
      flowEntryMatches of entry.toFlowEntry mod true false = true := by
  induction l generalizing antes with
  | nil => cases h
  | cons e l ih =>
    rw [buscaSitio] at h
    split at h
    · cases h
    · split at h
      · rename_i hm
        cases h
        exact ⟨rfl, hm⟩
      · split at h
        · cases h
        · cases hr : buscaSitio of mod overlap l with
          | overlap =>
            rw [hr] at h
            cases h
          | igual a x b =>
            rw [hr] at h
            cases h
            obtain ⟨hl, hm⟩ := ih hr
            exact ⟨congrArg (e :: ·) hl, hm⟩
          | nuevo a b =>
            rw [hr] at h
            cases h

theorem buscaSitio_nuevo (h : buscaSitio of mod overlap l = .nuevo antes despues) :
    l = antes ++ despues ∧ (∀ a ∈ antes, mod.priority ≤ a.priority) ∧
      ∀ b ∈ despues.head?, b.priority < mod.priority := by
  induction l generalizing antes with
  | nil =>
    cases h
    exact ⟨rfl, fun _ ha => (nomatch ha), fun _ hb => (nomatch hb)⟩
  | cons e l ih =>
    rw [buscaSitio] at h
    split at h
    · cases h
    · split at h
      · cases h
      · split at h
        · rename_i hlt
          cases h
          refine ⟨rfl, fun _ ha => (nomatch ha), fun b hb => ?_⟩
          cases hb
          exact hlt
        · rename_i hge
          cases hr : buscaSitio of mod overlap l with
          | overlap =>
            rw [hr] at h
            cases h
          | igual a x b =>
            rw [hr] at h
            cases h
          | nuevo a b =>
            rw [hr] at h
            cases h
            obtain ⟨hl, ha, hb⟩ := ih hr
            refine ⟨congrArg (e :: ·) hl, fun x hx => ?_, hb⟩
            rcases mem_cons.mp hx with rfl | hx
            · exact Nat.le_of_not_lt hge
            · exact ha x hx

theorem priority_of_matches_strict {entry : FlowEntry Mt Ac} {checkCookie : Bool}
    (h : flowEntryMatches of entry mod true checkCookie = true) :
    entry.priority = mod.priority := by
  unfold flowEntryMatches at h
  split at h
  · cases h
  · rw [if_pos rfl, Bool.and_eq_true] at h
    exact eq_of_beq h.1

end Sitio

/-! ## 3. All tables -/

namespace Dp

/-- What the lists of table `t` have to do with. -/
def vista (d : Dp Mt Ac Bd) (t : Fin pipelineTables) : Nat × Esqueleto :=
  (d.siguiente, (d.tablas t).esqueleto)

/-- From `d` to `d'` nothing happens to the tables but changes of their lists. -/
structure Cambios (d d' : Dp Mt Ac Bd) : Prop where
  tabla : ∀ t, Relation.ReflTransGen Esqueleto.Cambio (d.vista t) (d'.vista t)

@[simp] theorem tablas_conTabla_self (d : Dp Mt Ac Bd) (t : Fin pipelineTables)
    (f : TablaFlujos Mt Ac → TablaFlujos Mt Ac) :
    (d.conTabla t f).tablas t = f (d.tablas t) :=
  Function.update_self ..

variable {t : Fin pipelineTables} {d d' : Dp Mt Ac Bd} {env : Entorno Mt Ac P}
  {ok ok' : Dp Mt Ac Bd → Fin pipelineTables → FlowMod Mt Ac → Arreglo Ac → Prop}
  {R R' : Dp Mt Ac Bd → Dp Mt Ac Bd → Prop}

theorem tablas_conTabla_of_ne {t' : Fin pipelineTables} (h : t' ≠ t) (d : Dp Mt Ac Bd)
    (f : TablaFlujos Mt Ac → TablaFlujos Mt Ac) : (d.conTabla t f).tablas t' = d.tablas t' :=
  Function.update_of_ne h ..

theorem tablas_conTabla_conTabla {f g : TablaFlujos Mt Ac → TablaFlujos Mt Ac}
    (h : d'.tablas = (d.conTabla t f).tablas) :
    (d'.conTabla t g).tablas = (d.conTabla t fun table => g (f table)).tablas := by
  show Function.update d'.tablas t (g (d'.tablas t)) = _
  rw [h, tablas_conTabla_self]
  exact Function.update_idem ..

theorem tablas_avisa (d : Dp Mt Ac Bd) (entry : Entrada Mt Ac) (reason : Reason) (now : Nat) :
    (d.avisa entry reason now).tablas = d.tablas ∧
      (d.avisa entry reason now).siguiente = d.siguiente := by
  unfold avisa
  split <;> exact ⟨rfl, rfl⟩

theorem modifyFrom_fst (env : Entorno Mt Ac P) (t : Fin pipelineTables) (mod : FlowMod Mt Ac)
    (arr : Arreglo Ac) (strict : Bool) (l : List (Entrada Mt Ac))
    (groups : RefTable (Bucket Ac)) :
    (modifyFrom env t mod arr strict l groups).1 = l.map fun entry =>
      if flowEntryMatches env.toOpenFlow entry.toFlowEntry mod strict true then
        entry.modifica env mod arr
      else entry := by
  induction l generalizing groups with
  | nil => rfl
  | cons entry rest ih =>
    rw [modifyFrom, map_cons]
    split
    · exact congrArg (_ :: ·) (ih _)
    · exact congrArg (_ :: ·) (ih _)

theorem of_map_eq_ok {ε α β : Type} {f : α → β} {x : Except ε α} {b : β}
    (h : x.map f = .ok b) : ∃ a, x = .ok a ∧ f a = b := by
  cases x with
  | error e => cases h
  | ok a =>
    cases h
    exact ⟨a, rfl, rfl⟩

/-- What the functions on flow entries are made of. `ok` is what is known about a message that
    gives entries of a table their instructions. -/
structure Flujos (env : Entorno Mt Ac P)
    (ok : Dp Mt Ac Bd → Fin pipelineTables → FlowMod Mt Ac → Arreglo Ac → Prop)
    (R : Dp Mt Ac Bd → Dp Mt Ac Bd → Prop) : Prop where
  refl : ∀ d, R d d
  trans : ∀ {d d' d''}, R d d' → R d' d'' → R d d''
  memoria : ∀ d, R d { d with siguiente := d.siguiente + 1 }
  add : ∀ {d d' t mod arr overlap now}, ok d t mod arr →
    d.flowTableAdd env t mod arr overlap now = .ok d' → R d d'
  modify : ∀ t mod arr strict d, ok d t mod arr →
    mod.command = (if strict then .modifyStrict else .modify) →
    R d (d.flowTableModify env t mod arr strict)
  lookup : ∀ d t pkt now, R d (d.conTabla t fun table => (table.lookup env pkt now).1)
  remove : ∀ d reason now p, R d (d.flowEntryRemove reason now p)

namespace Flujos

variable {env : Entorno Mt Ac P}
  {ok : Dp Mt Ac Bd → Fin pipelineTables → FlowMod Mt Ac → Arreglo Ac → Prop}
  {R : Dp Mt Ac Bd → Dp Mt Ac Bd → Prop} (h : Flujos env ok R) {d d' : Dp Mt Ac Bd}
include h

theorem foldl {α : Type} {f : Dp Mt Ac Bd → α → Dp Mt Ac Bd} (hf : ∀ d a, R d (f d a))
    (l : List α) (d : Dp Mt Ac Bd) : R d (l.foldl f d) := by
  induction l generalizing d with
  | nil => exact h.refl d
  | cons a l ih => exact h.trans (hf d a) (ih (f d a))

theorem flowTableDelete (t : Fin pipelineTables) (mod : FlowMod Mt Ac) (strict : Bool) (now : Nat)
    (d : Dp Mt Ac Bd) : R d (d.flowTableDelete env t mod strict now) := by
  refine h.foldl (fun d entry => ?_) _ d
  split
  · exact h.remove ..
  · exact h.refl d

theorem flowTableFlowMod {t : Fin pipelineTables} {mod : FlowMod Mt Ac} {arr : Arreglo Ac}
    {now : Nat} (harr : ok d t mod arr) (hd : d.flowTableFlowMod env t mod arr now = .ok d') :
    R d d' := by
  unfold Dp.flowTableFlowMod at hd
  split at hd
  · exact h.add harr hd
  · rename_i hcmd
    cases hd
    exact h.modify _ _ _ _ _ harr hcmd
  · rename_i hcmd
    cases hd
    exact h.modify _ _ _ _ _ harr hcmd
  · cases hd
    exact h.flowTableDelete ..
  · cases hd
    exact h.flowTableDelete ..
  · cases hd

theorem hardTimeouts (t : Fin pipelineTables) (now : Nat) (nodes : List HardNode)
    (d : Dp Mt Ac Bd) : R d (d.hardTimeouts t now nodes) := by
  induction nodes generalizing d with
  | nil => exact h.refl d
  | cons node rest ih =>
    unfold Dp.hardTimeouts
    split
    · exact h.trans (h.remove ..) (ih _)
    · exact h.refl d

theorem flowTableTimeout (t : Fin pipelineTables) (now : Nat) (d : Dp Mt Ac Bd) :
    R d (d.flowTableTimeout t now) := by
  refine h.trans (h.hardTimeouts t now _ d) (h.foldl (fun d dir => ?_) _ _)
  unfold flowEntryIdleTimeout
  split
  · exact h.remove ..
  · exact h.refl d

theorem entryDestroy (reason : Reason) (now : Nat) (refs : List FlowPtr) (d : Dp Mt Ac Bd) :
    R d (d.entryDestroy reason now refs) :=
  h.foldl (fun d p => h.remove d reason now p) refs d

theorem destroyAll {β : Type} (tabla : Dp Mt Ac Bd → RefTable β) (reason : Reason) (now : Nat)
    (orden : List Nat) (d : Dp Mt Ac Bd) : R d (d.destroyAll tabla reason now orden) := by
  refine h.foldl (fun d id => ?_) orden d
  split
  · exact h.refl d
  · exact h.entryDestroy ..

end Flujos

theorem Flujos.and (h : Flujos env ok R) (h' : Flujos env ok' R') :
    Flujos env (fun d t mod arr => ok d t mod arr ∧ ok' d t mod arr)
      fun d d' => R d d' ∧ R' d d' where
  refl d := ⟨h.refl d, h'.refl d⟩
  trans h1 h2 := ⟨h.trans h1.1 h2.1, h'.trans h1.2 h2.2⟩
  memoria d := ⟨h.memoria d, h'.memoria d⟩
  add hok hd := ⟨h.add hok.1 hd, h'.add hok.2 hd⟩
  modify t mod arr strict d hok hcmd :=
    ⟨h.modify t mod arr strict d hok.1 hcmd, h'.modify t mod arr strict d hok.2 hcmd⟩
  lookup d t pkt now := ⟨h.lookup d t pkt now, h'.lookup d t pkt now⟩
  remove d reason now p := ⟨h.remove d reason now p, h'.remove d reason now p⟩

theorem Flujos.congr (h : Flujos env ok R) (hok : ∀ d t mod arr, ok' d t mod arr → ok d t mod arr)
    (hR : ∀ d d', R d d' ↔ R' d d') : Flujos env ok' R' := by
  obtain rfl : R = R' := by
    funext d d'
    exact propext (hR d d')
  exact
    { h with
      add := fun ho => h.add (hok _ _ _ _ ho)
      modify := fun t mod arr strict d ho => h.modify t mod arr strict d (hok _ _ _ _ ho) }

theorem Flujos.imp (h : Flujos env ok R) (htrans : ∀ {d d' d''}, R' d d' → R' d' d'' → R' d d'')
    (hR : ∀ {d d'}, R d d' → R' d d') :
    Flujos env ok R' where
  refl d := hR (h.refl d)
  trans := htrans
  memoria d := hR (h.memoria d)
  add hok hd := hR (h.add hok hd)
  modify t mod arr strict d hok hcmd := hR (h.modify t mod arr strict d hok hcmd)
  lookup d t pkt now := hR (h.lookup d t pkt now)
  remove d reason now p := hR (h.remove d reason now p)

/-- **Invariants of flow entries**: what the relation for each state carries over from it. -/
theorem Flujos.invariante
    {ok : Dp Mt Ac Bd → Dp Mt Ac Bd → Fin pipelineTables → FlowMod Mt Ac → Arreglo Ac → Prop}
    {R : Dp Mt Ac Bd → Dp Mt Ac Bd → Dp Mt Ac Bd → Prop} {I : Dp Mt Ac Bd → Prop}
    (h : ∀ d, Flujos env (ok d) (R d)) (hI : ∀ {d d'}, R d d d' → I d → I d') :
    Flujos env (fun d => ok d d) fun d d' => I d → I d' where
  refl _ := id
  trans h h' := h' ∘ h
  memoria d := hI ((h d).memoria d)
  add hok hd := hI ((h _).add hok hd)
  modify t mod arr strict d hok hcmd := hI ((h d).modify t mod arr strict d hok hcmd)
  lookup d t pkt now := hI ((h d).lookup d t pkt now)
  remove d reason now p := hI ((h d).remove d reason now p)

/-- **What the functions are made of**: a relation with these steps has every event
    (`Cerrada.paso`). -/
structure Cerrada (env : Entorno Mt Ac P) (R : Dp Mt Ac Bd → Dp Mt Ac Bd → Prop) : Prop where
  refl : ∀ d, R d d
  trans : ∀ {d d' d''}, R d d' → R d' d'' → R d d''
  memoria : ∀ d, R d { d with siguiente := d.siguiente + 1 }
  add : ∀ {d d' t mod arr overlap now}, d.flowTableAdd env t mod arr overlap now = .ok d' → R d d'
  modify : ∀ t mod arr strict d, R d (d.flowTableModify env t mod arr strict)
  lookup : ∀ d t pkt now, R d (d.conTabla t fun table => (table.lookup env pkt now).1)
  remove : ∀ d reason now p, R d (d.flowEntryRemove reason now p)
  grupos : ∀ {d : Dp Mt Ac Bd} {g}, d.groups.Paso g → R d { d with groups := g }
  metros : ∀ {d : Dp Mt Ac Bd} {m}, d.meters.Paso m → R d { d with meters := m }

namespace Cerrada

variable {env : Entorno Mt Ac P} {R : Dp Mt Ac Bd → Dp Mt Ac Bd → Prop} (h : Cerrada env R)
  {d d' : Dp Mt Ac Bd}
include h

theorem flujos : Flujos env (fun _ _ _ _ => True) R where
  refl := h.refl
  trans := h.trans
  memoria := h.memoria
  add _ := h.add
  modify t mod arr strict d _ _ := h.modify t mod arr strict d
  lookup := h.lookup
  remove := h.remove

variable {orden : List Nat} {now : Nat} {slave : Bool}

theorem groupTableDelete {id : Nat} (hd : d.groupTableDelete env id orden now = .ok d') :
    R d d' := by
  unfold Dp.groupTableDelete at hd
  split at hd
  · cases hd
    exact h.trans (h.flujos.destroyAll ..) (h.grupos (.vacia 0 0))
  · split at hd
    · cases hd
      exact h.refl d
    · rename_i entry _
      split at hd
      · cases hd
      · cases hd
        exact h.trans (h.grupos (.retira entry)) (h.flujos.entryDestroy ..)

theorem meterTableDelete (id : Nat) (orden : List Nat) (now : Nat) (d : Dp Mt Ac Bd) :
    R d (d.meterTableDelete id orden now) := by
  unfold Dp.meterTableDelete
  split
  · exact h.trans (h.flujos.destroyAll ..) (h.metros (.vacia 0 0))
  · split
    · exact h.refl d
    · rename_i entry _
      exact h.trans (h.metros (.retira entry)) (h.flujos.entryDestroy ..)

theorem groupTableHandleGroupMod {mod : GroupMod Ac}
    (hd : d.groupTableHandleGroupMod env slave mod orden now = .ok d') : R d d' := by
  unfold Dp.groupTableHandleGroupMod at hd
  split at hd
  · cases hd
  · split at hd
    · cases hd
    · split at hd
      · obtain ⟨g, hg, rfl⟩ := of_map_eq_ok hd
        exact h.grupos (.add hg)
      · obtain ⟨g, hg, rfl⟩ := of_map_eq_ok hd
        exact h.grupos (.modify hg)
      · exact h.groupTableDelete hd
      · cases hd

theorem meterTableHandleMeterMod {mod : MeterMod Bd}
    (hd : d.meterTableHandleMeterMod slave mod orden now = .ok d') : R d d' := by
  unfold Dp.meterTableHandleMeterMod at hd
  split at hd
  · cases hd
  · split at hd
    · obtain ⟨m, hm, rfl⟩ := of_map_eq_ok hd
      exact h.metros (.add hm)
    · obtain ⟨m, hm, rfl⟩ := of_map_eq_ok hd
      exact h.metros (.modify hm)
    · cases hd
      exact h.meterTableDelete ..
    · cases hd

theorem tras {r : Except OflErr (Dp Mt Ac Bd)} (hr : ∀ d', r = .ok d' → R d d') :
    R d (d.tras r) := by
  cases r with
  | error e => exact h.refl d
  | ok d' => exact hr d' rfl

/-- **One event.** -/
theorem paso {e : Suceso Mt Ac Bd P} (hd : d.paso env e = some d') : R d d' := by
  cases e with
  | flowMod t mod now =>
    cases hd
    exact h.trans (h.memoria d) (h.tras fun _ hok => h.flujos.flowTableFlowMod trivial hok)
  | timeout t now =>
    cases hd
    exact h.flujos.flowTableTimeout t now d
  | lookup t pkt now =>
    cases hd
    exact h.lookup d t pkt now
  | groupMod slave mod orden now =>
    rw [Dp.paso] at hd
    split at hd
    · cases hd
      exact h.tras fun _ hok => h.groupTableHandleGroupMod hok
    · cases hd
  | meterMod slave mod orden now =>
    rw [Dp.paso] at hd
    split at hd
    · cases hd
      exact h.tras fun _ hok => h.meterTableHandleMeterMod hok
    · cases hd

end Cerrada

namespace Cambios

variable {d d' d'' : Dp Mt Ac Bd}

theorem refl (d : Dp Mt Ac Bd) : d.Cambios d := ⟨fun _ => .refl⟩

theorem trans (h : d.Cambios d') (h' : d'.Cambios d'') : d.Cambios d'' :=
  ⟨fun t => (h.tabla t).trans (h'.tabla t)⟩

theorem of_tablas (ht : d'.tablas = d.tablas) (hn : d.siguiente ≤ d'.siguiente) :
    d.Cambios d' := by
  refine ⟨fun t => .single ?_⟩
  unfold vista
  rw [ht]
  exact .nada hn

theorem conGroups (d : Dp Mt Ac Bd) (groups : RefTable (Bucket Ac)) (libres : List Nat) :
    d.Cambios { d with groups := groups, libres := libres } :=
  of_tablas rfl (Nat.le_refl _)

theorem of_conTabla {t : Fin pipelineTables} {f : TablaFlujos Mt Ac → TablaFlujos Mt Ac}
    (ht : d'.tablas = (d.conTabla t f).tablas) (hn : d.siguiente ≤ d'.siguiente)
    (hc : Esqueleto.Cambio (d.vista t) (d'.siguiente, (f (d.tablas t)).esqueleto)) :
    d.Cambios d' := by
  refine ⟨fun t' => .single ?_⟩
  show Esqueleto.Cambio _ (d'.siguiente, (d'.tablas t').esqueleto)
  rw [ht]
  by_cases htt : t' = t
  · subst htt
    rw [tablas_conTabla_self]
    exact hc
  · rw [tablas_conTabla_of_ne htt]
    exact .nada hn

theorem flowEntryRemove (reason : Reason) (now : Nat) (d : Dp Mt Ac Bd) (p : FlowPtr) :
    d.Cambios (d.flowEntryRemove reason now p) := by
  unfold Dp.flowEntryRemove
  split
  · exact .refl d
  · rename_i entry hentry
    have hdir : entry.dir = p.dir := eq_of_beq (find?_some hentry :)
    have hmem : entry.nucleo ∈ (d.tablas p.tabla).esqueleto.entradas :=
      mem_map_of_mem (mem_of_find?_eq_some hentry)
    obtain ⟨h1, h2⟩ := d.tablas_avisa entry reason now
    refine (of_tablas h1 h2.ge).trans (of_conTabla (t := p.tabla) rfl (Nat.le_refl _) ?_)
    rw [TablaFlujos.esqueleto_quita, h1, ← hdir]
    unfold vista
    rw [h1]
    exact .quita hmem

theorem flowTableAdd {env : Entorno Mt Ac P} {t : Fin pipelineTables} {mod : FlowMod Mt Ac}
    {arr : Arreglo Ac} {overlap : Bool} {now : Nat}
    (hd : d.flowTableAdd env t mod arr overlap now = .ok d') : d.Cambios d' := by
  have hdura : 0 < (entradaNueva env mod arr now d.siguiente).removeAt ↔ 0 < mod.hardTimeout := by
    show 0 < (if mod.hardTimeout = 0 then 0 else now + mod.hardTimeout * 1000) ↔ _
    split <;> omega
  unfold Dp.flowTableAdd at hd
  split at hd
  · cases hd
  · rename_i antes entry despues hb
    obtain ⟨hl, hm⟩ := buscaSitio_igual hb
    cases hd
    refine of_conTabla (tablas_conTabla_conTabla rfl) (Nat.le_succ _) ?_
    show Esqueleto.Cambio _ (d.siguiente + 1, _)
    rw [TablaFlujos.esqueleto_reemplaza]
    refine .reemplaza (e := entry.nucleo) ?_ rfl rfl (priority_of_matches_strict hm).symm ?_
    · show (d.tablas t).matchEntries.map (·.nucleo) = _
      rw [hl, map_append, map_cons]
    · exact hdura
  · rename_i antes despues hb
    obtain ⟨hl, hantes, hdespues⟩ := buscaSitio_nuevo hb
    split at hd
    · cases hd
    · rename_i hlleno
      cases hd
      refine of_conTabla (tablas_conTabla_conTabla rfl) (Nat.le_succ _) ?_
      show Esqueleto.Cambio _ (d.siguiente + 1, _)
      rw [TablaFlujos.esqueleto_inserta]
      refine .inserta ?_ hlleno rfl rfl ?_ ?_ hdura
      · show (d.tablas t).matchEntries.map (·.nucleo) = _
        rw [hl, map_append]
      · exact forall_mem_map.mpr hantes
      · intro b hb
        rw [head?_map] at hb
        obtain ⟨x, hx, rfl⟩ := Option.map_eq_some_iff.mp hb
        exact hdespues x hx

theorem flowTableModify (env : Entorno Mt Ac P) (t : Fin pipelineTables) (mod : FlowMod Mt Ac)
    (arr : Arreglo Ac) (strict : Bool) (d : Dp Mt Ac Bd) :
    d.Cambios (d.flowTableModify env t mod arr strict) := by
  have hentradas : (d.tablas t).matchEntries.map (·.nucleo) =
      (modifyFrom env t mod arr strict (d.tablas t).matchEntries d.groups).1.map (·.nucleo) := by
    rw [modifyFrom_fst, map_map]
    refine map_congr_left fun entry _ => ?_
    show entry.nucleo = Entrada.nucleo (if _ then _ else _)
    split <;> rfl
  unfold Dp.flowTableModify
  refine (conGroups d _ _).trans (of_conTabla (t := t) rfl (Nat.le_refl _) ?_)
  unfold vista TablaFlujos.esqueleto
  simp only [← hentradas]
  exact .nada (Nat.le_refl _)

theorem cerrada (env : Entorno Mt Ac P) :
    Cerrada env fun d d' : Dp Mt Ac Bd => d.Cambios d' where
  refl := refl
  trans := trans
  memoria _ := of_tablas rfl (Nat.le_succ _)
  add := flowTableAdd
  modify := flowTableModify env
  lookup d t pkt now := by
    refine of_conTabla (t := t) rfl (Nat.le_refl _) ?_
    rw [TablaFlujos.esqueleto_lookup]
    exact .nada (Nat.le_refl _)
  remove d reason now := flowEntryRemove reason now d
  grupos _ := conGroups ..
  metros _ := of_tablas rfl (Nat.le_refl _)

end Cambios

/-- **Every table is sound.** -/
structure Sana (d : Dp Mt Ac Bd) : Prop where
  tabla : ∀ t, (d.tablas t).esqueleto.Sana d.siguiente

theorem create_sana (bandsNum : UInt64) : (create bandsNum : Dp Mt Ac Bd).Sana where
  tabla _ := ⟨rfl, Nat.zero_le _, nodup_nil, fun _ he => (nomatch he), .nil,
    fun _ he => (nomatch he), .nil, .nil, .nil⟩

theorem Sana.nodup_dirs (h : d.Sana) (t : Fin pipelineTables) :
    ((d.tablas t).matchEntries.map (·.dir)).Nodup := by
  have hd := (h.tabla t).dirs
  rw [TablaFlujos.esqueleto, map_map] at hd
  exact hd

theorem Cambios.sana (hc : d.Cambios d') (h : d.Sana) : d'.Sana := by
  have hall : ∀ t y, Relation.ReflTransGen Esqueleto.Cambio (d.vista t) y → y.2.Sana y.1 := by
    intro t y hy
    induction hy with
    | refl => exact h.tabla t
    | tail _ hxy ih => exact hxy.sana ih
  exact ⟨fun t => hall t _ (hc.tabla t)⟩

/-- **Every table is sound in every state the events lead to.** -/
theorem sana_run {bandsNum : UInt64} (h : Run (paso env) (fun _ _ => True) (create bandsNum) d) :
    d.Sana :=
  h.invariant (create_sana bandsNum) fun _ _ _ hs _ hd => ((Cambios.cerrada env).paso hd).sana hs

end Dp

/-! ## 4. The lookup -/

/-- **Flow lookup is by priority.** A packet hits nothing iff no entry accepts it, and otherwise one
of the highest priority among those that do, at the oldest place. -/
theorem lookup_by_priority {env : Entorno Mt Ac P} {bandsNum : UInt64} {d : Dp Mt Ac Bd}
    (h : Run (Dp.paso env) (fun _ _ => True) (.create bandsNum) d) (t : Fin pipelineTables)
    (pkt : P) (now : Nat) :
    (((d.tablas t).lookup env pkt now).2 = none ↔
      ∀ e ∈ (d.tablas t).matchEntries, e.acepta env pkt = false) ∧
    ∀ r, ((d.tablas t).lookup env pkt now).2 = some r →
      ∃ e ∈ (d.tablas t).matchEntries, r = e.usa env pkt now ∧ e.acepta env pkt = true ∧
        ∀ e' ∈ (d.tablas t).matchEntries, e'.acepta env pkt = true →
          e'.priority ≤ e.priority ∧
            (e'.priority = e.priority → e' = e ∨ e.puesto < e'.puesto) := by
  have horden := pairwise_map.mp ((Dp.sana_run h).tabla t).orden
  unfold TablaFlujos.lookup
  cases hf : (d.tablas t).matchEntries.find? (·.acepta env pkt) with
  | none =>
    have hnone := find?_eq_none.mp hf
    exact ⟨⟨fun _ e he => Bool.eq_false_iff.mpr (hnone e he), fun _ => rfl⟩,
      fun _ hr => (nomatch hr)⟩
  | some e =>
    obtain ⟨hmem, hacc, hfirst⟩ := find?_first horden hf
    refine ⟨⟨fun hn => (nomatch hn), fun hall => ?_⟩, ?_⟩
    · rw [hall e hmem] at hacc
      cases hacc
    · rintro r hr
      cases hr
      refine ⟨e, hmem, rfl, hacc, fun e' he' hacc' => ?_⟩
      rcases hfirst e' he' hacc' with rfl | hant
      · exact ⟨Nat.le_refl _, fun _ => .inl rfl⟩
      · refine ⟨hant.priority_le, fun hp => ?_⟩
        rcases hant with hlt | hlt
        · exact absurd hp (Nat.ne_of_lt hlt)
        · exact .inr hlt.2

/-- Matches on `OXM_OF_IN_PORT` (`none`: no field), packets that are their port and 64 bytes
    long, and no actions but those to a group. -/
def soloGrupos : Entorno (Option Nat) Nat Nat where
  oxmPullMatch _ := .error ⟨.badMatch, .otro 6⟩
  sinCampos := none
  actionsUnpack _ := .ok ([], 0)
  matchStdStrict a b := a == b
  matchStdNonstrict a b := a.isNone || a == b
  matchStdOverlap a b := a.isNone || b.isNone || a == b
  listHasOutPort _ _ := false
  listHasOutGroup actions g := actions.any (some · == some g)
  dpActionsValidate _ := none
  dpActionsCheckSetFieldReq _ _ := none
  handleStdMatch p m := m.all (· == p)
  ponTabla _ p := p
  ponMiss _ p := p
  writeMetadata _ _ p := p
  writeActions _ p := p
  executeActionList _ _ p := p
  clearActions p := p
  meterTableApply _ p := (p, true)
  actionSetExecute p := p
  grupo := some
  sinPuerto _ := false
  size _ := 64
  listHasOutGroup_eq _ _ := rfl

def tabla0 : Fin pipelineTables := ⟨0, by decide⟩

/-- A flow-mod with the flag `OFPFF_SEND_FLOW_REM`, on any output. -/
def flowMod (command : FlowModCommand) (mtch : Option Nat) (priority idle hard : Nat)
    (instructions : List (Instruction Nat)) : FlowMod (Option Nat) Nat :=
  ⟨0, 0, 0, command, idle, hard, priority, ofpAny, ofpAny, ofpAny, 1, ⟨0, mtch⟩, instructions⟩

/-- Two entries of priority 5 accept port 1. The first is replaced by one that is the same, which
    keeps the place: it is still the one that is hit. -/
theorem lookup_by_priority_reemplazo :
    ∃ d : Dp (Option Nat) Nat Nat,
      Run (Dp.paso soloGrupos) (fun _ _ => True) (.create 0) d ∧
      (d.tablas tabla0).matchEntries.map (fun e => (e.priority, e.mtch.fields, e.idleTimeout)) =
        [(7, some 2, 0), (5, some 1, 30), (5, none, 0), (3, none, 0)] ∧
      (((d.tablas tabla0).lookup soloGrupos 1 50).2).map (·.mtch.fields) = some (some 1) ∧
      ∀ r, ((d.tablas tabla0).lookup soloGrupos 1 50).2 = some r →
        ∃ e ∈ (d.tablas tabla0).matchEntries, r = e.usa soloGrupos 1 50 ∧
          e.acepta soloGrupos 1 = true ∧
          ∀ e' ∈ (d.tablas tabla0).matchEntries, e'.acepta soloGrupos 1 = true →
            e'.priority ≤ e.priority ∧
              (e'.priority = e.priority → e' = e ∨ e.puesto < e'.puesto) :=
  Run.exists_exec₂
    [.flowMod tabla0 (flowMod .add (some 1) 5 0 0 []) 10,
      .flowMod tabla0 (flowMod .add none 5 0 0 []) 20,
      .flowMod tabla0 (flowMod .add none 3 0 0 []) 30,
      .flowMod tabla0 (flowMod .add (some 2) 7 0 0 []) 40,
      .flowMod tabla0 (flowMod .add (some 1) 5 30 0 []) 50]
    (by decide) fun _ hrun _ _ => (lookup_by_priority hrun tabla0 1 50).2

/-! ## 5. The lists and the counter -/

/-- **Flow-table bookkeeping.** `active_count` is the number of entries, at most
`FLOW_TABLE_MAX_ENTRIES`; the lists of the timeouts have exactly the entries with one, the hard ones
in the order of their times. -/
theorem flow_table_bookkeeping {env : Entorno Mt Ac P} {bandsNum : UInt64} {d : Dp Mt Ac Bd}
    (h : Run (Dp.paso env) (fun _ _ => True) (.create bandsNum) d) (t : Fin pipelineTables) :
    (d.tablas t).activeCount = (d.tablas t).matchEntries.length ∧
    (d.tablas t).activeCount ≤ flowTableMaxEntries ∧
    ((d.tablas t).matchEntries.map (·.dir)).Nodup ∧
    (d.tablas t).idleEntries.Perm
      (((d.tablas t).matchEntries.filter (0 < ·.idleTimeout)).map (·.dir)) ∧
    (d.tablas t).hardEntries.Perm
      (((d.tablas t).matchEntries.filter (0 < ·.hardTimeout)).map (·.hardNode)) ∧
    (d.tablas t).hardEntries.Pairwise fun a b => a.removeAt ≤ b.removeAt := by
  have hs := (Dp.sana_run h).tabla t
  refine ⟨?_, hs.tope, ?_, ?_, ?_, hs.hardOrden⟩
  · exact hs.activos.trans (length_map _)
  · exact (Dp.sana_run h).nodup_dirs t
  · have ho := hs.ociosas
    rw [TablaFlujos.esqueleto, filter_map, map_map] at ho
    exact ho
  · have hv := hs.vencen
    rw [TablaFlujos.esqueleto, filter_map, map_map] at hv
    exact hv

/-- Five entries, of which one goes with its hard timeout, one with its group and one with its
    meter. -/
theorem flow_table_bookkeeping_dosQuedan :
    ∃ d : Dp (Option Nat) Nat Nat,
      Run (Dp.paso soloGrupos) (fun _ _ => True) (.create 0) d ∧
      d.enviados.map (·.reason) = [.hardTimeout, .groupDelete, .meterDelete] ∧
      (d.tablas tabla0).activeCount = 2 ∧
      (d.tablas tabla0).hardEntries.map (·.removeAt) = [5000, 9000] ∧
      (d.tablas tabla0).activeCount = (d.tablas tabla0).matchEntries.length ∧
      (d.tablas tabla0).activeCount ≤ flowTableMaxEntries ∧
      ((d.tablas tabla0).matchEntries.map (·.dir)).Nodup ∧
      (d.tablas tabla0).idleEntries.Perm
        (((d.tablas tabla0).matchEntries.filter (0 < ·.idleTimeout)).map (·.dir)) ∧
      (d.tablas tabla0).hardEntries.Perm
        (((d.tablas tabla0).matchEntries.filter (0 < ·.hardTimeout)).map (·.hardNode)) ∧
      (d.tablas tabla0).hardEntries.Pairwise fun a b => a.removeAt ≤ b.removeAt :=
  Run.exists_exec₃
    [.groupMod false ⟨.add, 7, []⟩ [] 0, .meterMod false ⟨.add, 4, [1]⟩ [] 0,
      .flowMod tabla0 (flowMod .add (some 1) 5 0 9 []) 0,
      .flowMod tabla0 (flowMod .add (some 2) 5 3 5 []) 0,
      .flowMod tabla0 (flowMod .add (some 3) 5 3 1 []) 0,
      .flowMod tabla0 (flowMod .add (some 4) 5 3 6 [.applyActions [7]]) 0,
      .flowMod tabla0 (flowMod .add (some 5) 5 0 2 [.meter 4]) 0,
      .timeout tabla0 1001, .groupMod false ⟨.delete, ofpgAll, []⟩ [7] 1002,
      .meterMod false ⟨.delete, 4, []⟩ [4] 1003]
    (by decide) fun _ hrun => flow_table_bookkeeping hrun tabla0

end TcpPath.Udatapath
