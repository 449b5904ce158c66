/-
  Subject:   The tables of Datapath.lean without timeouts, counters and references are those of
             FlowTables.lean.

  * `matchEntries_flowEntryRemove`: what `flow_entry_remove` leaves of the match lists.

  Results:   `flowTableFlowMod_refina`: a flow-mod does to the entries what it does to a plain list.
             `lookup_refina`: a packet hits the same entry.
-/
import TcpPath.OpenFlow.Bookkeeping
import TcpPath.Util.ClassOrder

namespace TcpPath.Udatapath

open Util List

variable {Mt Ac Bd P : Type}

/-- The match list as FlowTables.lean has it. -/
def TablaFlujos.entradas (table : TablaFlujos Mt Ac) : FlowTable Mt Ac :=
  table.matchEntries.map (·.toFlowEntry)

/-! ## 1. Removal -/

namespace Dp

theorem matchEntries_flowEntryRemove (reason : Reason) (now : Nat) (d : Dp Mt Ac Bd) (p : FlowPtr)
    (t : Fin pipelineTables) :
    ((d.flowEntryRemove reason now p).tablas t).matchEntries =
      if t = p.tabla then (d.tablas t).matchEntries.filter (·.dir != p.dir)
      else (d.tablas t).matchEntries := by
  unfold flowEntryRemove
  split
  · rename_i hnone
    split
    · rename_i htp
      refine (filter_eq_self.mpr fun e he => ?_).symm
      subst htp
      simpa using find?_eq_none.mp hnone e he
    · rfl
  · rename_i entry hentry
    have htab : ((((d.avisa entry reason now).conTabla p.tabla (·.quita p.dir)).flowEntryDestroy p
        entry).tablas t) = (d.conTabla p.tabla (·.quita p.dir)).tablas t := by
      show Function.update (d.avisa entry reason now).tablas _ _ t = _
      rw [(d.tablas_avisa entry reason now).1]
      rfl
    rw [htab]
    split
    · rename_i htp
      subst htp
      rw [tablas_conTabla_self]
      rfl
    · rename_i htp
      rw [tablas_conTabla_of_ne htp]

theorem matchEntries_foldl_remove (reason : Reason) (now : Nat) (t : Fin pipelineTables)
    (q : Entrada Mt Ac → Bool) (l : List (Entrada Mt Ac)) (d : Dp Mt Ac Bd) :
    ((l.foldl (fun d e => if q e then d.flowEntryRemove reason now ⟨t, e.dir⟩ else d) d).tablas
        t).matchEntries =
      (d.tablas t).matchEntries.filter fun e => !l.any fun x => q x && x.dir == e.dir := by
  induction l generalizing d with
  | nil => exact (filter_eq_self.mpr fun _ _ => rfl).symm
  | cons x l ih =>
    rw [foldl_cons, ih]
    split
    · rename_i hq
      rw [matchEntries_flowEntryRemove, if_pos rfl, filter_filter]
      refine filter_congr fun e _ => ?_
      rw [any_cons, hq, Bool.true_and, Bool.not_or, Bool.and_comm, bne, BEq.comm]
    · rename_i hq
      refine filter_congr fun e _ => ?_
      rw [any_cons, Bool.eq_false_iff.mpr hq, Bool.false_and, Bool.false_or]

theorem matchEntries_flowTableDelete {d : Dp Mt Ac Bd} (h : d.Sana) (env : Entorno Mt Ac P)
    (t : Fin pipelineTables) (mod : FlowMod Mt Ac) (strict : Bool) (now : Nat) :
    ((d.flowTableDelete env t mod strict now).tablas t).matchEntries =
      (d.tablas t).matchEntries.filter fun e =>
        !(tieneSalida env.toOpenFlow e.toFlowEntry mod &&
          flowEntryMatches env.toOpenFlow e.toFlowEntry mod strict true) := by
  have hd := h.nodup_dirs t
  refine (matchEntries_foldl_remove .delete now t _ _ d).trans (filter_congr fun e he => ?_)
  refine congrArg _ (Bool.eq_iff_iff.mpr ?_)
  rw [any_eq_true]
  constructor
  · rintro ⟨x, hx, hqx⟩
    obtain ⟨hq, hdir⟩ := Bool.and_eq_true_iff.mp hqx
    rw [← inj_on_of_nodup_map hd hx he (eq_of_beq hdir)]
    exact hq
  · intro hq
    exact ⟨e, he, by rw [hq, Bool.true_and, beq_self_eq_true]⟩

end Dp

/-! ## 2. Flow-mods -/

theorem addFrom_entradas (of : OpenFlow Mt Ac P) (mod : FlowMod Mt Ac) (arr : Arreglo Ac)
    (overlap : Bool) (active : Nat) (l : List (Entrada Mt Ac)) :
    addFrom of mod arr overlap active (l.map (·.toFlowEntry)) =
      match buscaSitio of mod overlap l with
      | .overlap => .error ⟨.flowModFailed, .fmfcOverlap⟩
      | .igual antes entry despues =>
          .ok (antes.map (·.toFlowEntry) ++ flowEntryCreate mod arr ::
            despues.map (·.toFlowEntry), [entry.instructions.dir])
      | .nuevo antes despues =>
          if active = flowTableMaxEntries then .error ⟨.flowModFailed, .fmfcTableFull⟩
          else .ok (antes.map (·.toFlowEntry) ++ flowEntryCreate mod arr ::
            despues.map (·.toFlowEntry), []) := by
  induction l with
  | nil => rfl
  | cons e l ih =>
    rw [map_cons, addFrom, buscaSitio]
    split
    · rfl
    · split
      · rfl
      · split
        · rfl
        · rw [ih]
          cases buscaSitio of mod overlap l with
          | overlap => rfl
          | igual antes entry despues => rfl
          | nuevo antes despues =>
            by_cases hact : active = flowTableMaxEntries
            · simp only [Sitio.tras, if_pos hact]
            · simp only [Sitio.tras, if_neg hact]
              rfl

namespace Dp

/-- Table `t`, after a result, as FlowTables.lean has it. -/
def queda (t : Fin pipelineTables) (r : Except OflErr (Dp Mt Ac Bd)) :
    Except OflErr (FlowTable Mt Ac) :=
  r.map fun d' => (d'.tablas t).entradas

variable {d : Dp Mt Ac Bd}

theorem flowTableAdd_refina (h : d.Sana) (env : Entorno Mt Ac P) (t : Fin pipelineTables)
    (mod : FlowMod Mt Ac) (arr : Arreglo Ac) (overlap : Bool) (now : Nat) :
    queda t (d.flowTableAdd env t mod arr overlap now) =
      (TcpPath.flowTableAdd env.toOpenFlow (d.tablas t).entradas mod arr overlap).map
        Prod.fst := by
  have hlen : (d.tablas t).entradas.length = (d.tablas t).activeCount := by
    have hact := (h.tabla t).activos
    rw [TablaFlujos.entradas, length_map]
    exact (hact.trans (length_map _)).symm
  have hmap : ∀ (antes despues : List (Entrada Mt Ac)) (e : Entrada Mt Ac),
      (antes ++ e :: despues).map (·.toFlowEntry) =
        antes.map (·.toFlowEntry) ++ e.toFlowEntry :: despues.map (·.toFlowEntry) :=
    fun _ _ _ => map_append.trans (congrArg _ map_cons)
  unfold TcpPath.flowTableAdd
  rw [hlen, TablaFlujos.entradas, addFrom_entradas]
  unfold flowTableAdd
  cases buscaSitio env.toOpenFlow mod overlap (d.tablas t).matchEntries with
  | overlap => rfl
  | igual antes entry despues =>
    refine congrArg Except.ok ?_
    refine (congrArg TablaFlujos.entradas (congrFun (tablas_conTabla_conTabla rfl) t)).trans ?_
    rw [tablas_conTabla_self]
    exact hmap antes despues _
  | nuevo antes despues =>
    by_cases hact : (d.tablas t).activeCount = flowTableMaxEntries
    · simp only [if_pos hact]
      rfl
    · simp only [if_neg hact]
      refine congrArg Except.ok ?_
      refine (congrArg TablaFlujos.entradas (congrFun (tablas_conTabla_conTabla rfl) t)).trans ?_
      rw [tablas_conTabla_self]
      exact hmap antes despues _

theorem flowTableModify_refina (d : Dp Mt Ac Bd) (env : Entorno Mt Ac P) (t : Fin pipelineTables)
    (mod : FlowMod Mt Ac) (arr : Arreglo Ac) (strict : Bool) :
    ((d.flowTableModify env t mod arr strict).tablas t).entradas =
      (TcpPath.flowTableModify env.toOpenFlow (d.tablas t).entradas mod arr strict).1 := by
  unfold flowTableModify TcpPath.flowTableModify TablaFlujos.entradas
  rw [tablas_conTabla_self]
  simp only [modifyFrom_fst, map_map]
  refine map_congr_left fun e _ => ?_
  show Entrada.toFlowEntry (if _ then _ else _) = if _ then _ else _
  split <;> rfl

theorem flowTableDelete_refina (h : d.Sana) (env : Entorno Mt Ac P) (t : Fin pipelineTables)
    (mod : FlowMod Mt Ac) (strict : Bool) (now : Nat) :
    ((d.flowTableDelete env t mod strict now).tablas t).entradas =
      (TcpPath.flowTableDelete env.toOpenFlow (d.tablas t).entradas mod strict).1 := by
  unfold TablaFlujos.entradas TcpPath.flowTableDelete flowTableRemove
  rw [matchEntries_flowTableDelete h, filter_map]
  rfl

/-- **A flow-mod refines `flowTableFlowMod` of FlowTables.lean**, on sound tables. -/
theorem flowTableFlowMod_refina (h : d.Sana) (env : Entorno Mt Ac P) (t : Fin pipelineTables)
    (mod : FlowMod Mt Ac) (arr : Arreglo Ac) (now : Nat) :
    queda t (d.flowTableFlowMod env t mod arr now) =
      (TcpPath.flowTableFlowMod env.toOpenFlow (d.tablas t).entradas mod arr).map Prod.fst := by
  unfold flowTableFlowMod TcpPath.flowTableFlowMod
  cases mod.command with
  | add => exact flowTableAdd_refina h ..
  | modify => exact congrArg Except.ok (flowTableModify_refina ..)
  | modifyStrict => exact congrArg Except.ok (flowTableModify_refina ..)
  | delete => exact congrArg Except.ok (flowTableDelete_refina h ..)
  | deleteStrict => exact congrArg Except.ok (flowTableDelete_refina h ..)
  | otro n => rfl

end Dp

/-! ## 3. Lookups -/

theorem lookup_refina (env : Entorno Mt Ac P) (pkt : P) (now : Nat) (table : TablaFlujos Mt Ac) :
    ((table.lookup env pkt now).2).map (·.toFlowEntry) =
      flowTableLookup env.toOpenFlow table.entradas pkt := by
  unfold flowTableLookup TablaFlujos.entradas TablaFlujos.lookup
  rw [find?_map]
  show _ = (table.matchEntries.find? (·.acepta env pkt)).map _
  cases table.matchEntries.find? (·.acepta env pkt) with
  | none => rfl
  | some e => rfl

end TcpPath.Udatapath
