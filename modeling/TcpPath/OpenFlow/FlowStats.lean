/-
  Subject:   Flow and aggregate statistics: `pipeline_handle_stats_request_flow` and
             `pipeline_handle_stats_request_aggregate` with `flow_table_stats` and
             `flow_table_aggregate_stats`.

  Results:   `flow_stats_agree`: when the two replies are about the same entries.
-/
import TcpPath.OpenFlow.Messages

namespace TcpPath.Udatapath

open Util List

variable {Mt Ac Bd P : Type}

/-! ## 1. Code -/

/-- `struct ofl_msg_multipart_request_flow`. -/
structure FlowStatsRequest (Mt : Type) where
  tableId : Nat
  outPort : Nat
  outGroup : Nat
  cookie : Nat
  cookieMask : Nat
  mtch : OflMatch Mt
  deriving DecidableEq, Repr

/-- `stats` and `stats_size`; `stats_num` is the length of the list. -/
structure FlowReply (Mt Ac : Type) where
  statsSize : Nat
  stats : List (Entrada Mt Ac)

/-- `struct ofl_msg_multipart_reply_aggregate`. -/
structure AggregateReply where
  packetCount : UInt64
  byteCount : UInt64
  flowCount : UInt32
  deriving DecidableEq, Repr

/-- The tables a request is for; `none` is an index outside `pl->tables`. -/
def tablasDe (tableId : Nat) : Option (List (Fin pipelineTables)) :=
  if tableId = ofpttAll then some (List.finRange pipelineTables)
  else (tablaDe tableId).map fun t => [t]

namespace FlowStatsRequest

/-- The restriction of a request to entries with an output. -/
def porSalida (env : Entorno Mt Ac P) (msg : FlowStatsRequest Mt) (entry : Entrada Mt Ac) : Bool :=
  (msg.outPort == ofpAny || flowEntryHasOutPort env.toOpenFlow entry.toFlowEntry msg.outPort) &&
    (msg.outGroup == ofpAny || flowEntryHasOutGroup env.toOpenFlow entry.toFlowEntry msg.outGroup)

/-- `match_std_nonstrict`. -/
def porMatch (env : Entorno Mt Ac P) (msg : FlowStatsRequest Mt) (entry : Entrada Mt Ac) : Bool :=
  env.matchStdNonstrict msg.mtch.fields entry.mtch.fields

end FlowStatsRequest

namespace FlowReply

/-- `(*stats)[(*stats_num)] = entry->stats; (*stats_num)++;` behind the test whether the array is
    full. -/
def pon (r : FlowReply Mt Ac) (entry : Entrada Mt Ac) : FlowReply Mt Ac :=
  ⟨if r.statsSize = r.stats.length then r.statsSize * 2 else r.statsSize, r.stats ++ [entry]⟩

end FlowReply

/-- `flow_table_stats`. -/
def flowTableStats (env : Entorno Mt Ac P) (msg : FlowStatsRequest Mt)
    (r : FlowReply Mt Ac) (table : TablaFlujos Mt Ac) : FlowReply Mt Ac :=
  table.matchEntries.foldl (fun r entry =>
    if msg.porSalida env entry && msg.porMatch env entry then r.pon entry else r) r

/-- `flow_table_aggregate_stats`. -/
def flowTableAggregateStats (env : Entorno Mt Ac P) (msg : FlowStatsRequest Mt)
    (a : AggregateReply) (table : TablaFlujos Mt Ac) : AggregateReply :=
  table.matchEntries.foldl (fun a entry =>
    if msg.porSalida env entry then
      { packetCount := if entry.noPktCount then a.packetCount
          else a.packetCount + entry.packetCount
        byteCount := if entry.noBytCount then a.byteCount else a.byteCount + entry.byteCount
        flowCount := a.flowCount + 1 }
    else a) a

namespace Dp

/-- `pipeline_handle_stats_request_flow`. -/
def pipelineHandleStatsRequestFlow (env : Entorno Mt Ac P) (d : Dp Mt Ac Bd)
    (msg : FlowStatsRequest Mt) : Option (FlowReply Mt Ac) :=
  (tablasDe msg.tableId).map fun ts =>
    ts.foldl (fun r t => flowTableStats env msg r (d.tablas t)) ⟨1, []⟩

/-- `pipeline_handle_stats_request_aggregate`. -/
def pipelineHandleStatsRequestAggregate (env : Entorno Mt Ac P) (d : Dp Mt Ac Bd)
    (msg : FlowStatsRequest Mt) : Option AggregateReply :=
  (tablasDe msg.tableId).map fun ts =>
    ts.foldl (fun a t => flowTableAggregateStats env msg a (d.tablas t)) ⟨0, 0, 0⟩

end Dp

/-! ## 2. What is asked for -/

/-- The entries of some tables, in the order of the replies. -/
def Dp.entradasDe (d : Dp Mt Ac Bd) (ts : List (Fin pipelineTables)) : List (Entrada Mt Ac) :=
  ts.flatMap fun t => (d.tablas t).matchEntries

namespace FlowStatsRequest

/-- The cookie of the entry agrees with that of the request as far as its mask goes. -/
def porCookie (msg : FlowStatsRequest Mt) (entry : Entrada Mt Ac) : Bool :=
  entry.cookie &&& msg.cookieMask == msg.cookie &&& msg.cookieMask

/-- **What a request asks for.** -/
def selecciona (env : Entorno Mt Ac P) (msg : FlowStatsRequest Mt) (entry : Entrada Mt Ac) : Bool :=
  msg.porSalida env entry && msg.porMatch env entry && msg.porCookie entry

end FlowStatsRequest

/-- The number of some entries, and the sums over those whose counters are enabled. -/
def AggregateReply.de (l : List (Entrada Mt Ac)) : AggregateReply where
  packetCount := ((l.filter (!·.noPktCount)).map (·.packetCount)).sum
  byteCount := ((l.filter (!·.noBytCount)).map (·.byteCount)).sum
  flowCount := l.length.toUInt32

/-! ## 3. The replies -/

section Replies

theorem toUInt32_succ (n : Nat) : (n + 1).toUInt32 = n.toUInt32 + 1 := by
  apply UInt32.toNat_inj.mp
  simp [UInt32.toNat_add]

theorem AggregateReply.de_concat (l : List (Entrada Mt Ac)) (entry : Entrada Mt Ac) :
    AggregateReply.de (l ++ [entry]) =
      { packetCount := if entry.noPktCount then (AggregateReply.de l).packetCount
          else (AggregateReply.de l).packetCount + entry.packetCount
        byteCount := if entry.noBytCount then (AggregateReply.de l).byteCount
          else (AggregateReply.de l).byteCount + entry.byteCount
        flowCount := (AggregateReply.de l).flowCount + 1 } := by
  cases hp : entry.noPktCount <;> cases hb : entry.noBytCount <;>
    simp [AggregateReply.de, filter_append, hp, hb, toUInt32_succ]

theorem foldl_tablas {β : Type} (d : Dp Mt Ac Bd) (f : β → Entrada Mt Ac → β)
    (ts : List (Fin pipelineTables)) (b : β) :
    ts.foldl (fun b t => (d.tablas t).matchEntries.foldl f b) b = (d.entradasDe ts).foldl f b := by
  induction ts generalizing b with
  | nil => rfl
  | cons t ts ih => simp [Dp.entradasDe, foldl_append, ih]

/-- `stats_num` is below `stats_size` when the next slot is written. -/
def FlowReply.Cabe (r : FlowReply Mt Ac) : Prop := r.stats.length ≤ r.statsSize ∧ 0 < r.statsSize

variable {r : FlowReply Mt Ac} {α : Type} {p q : α → Bool} {l : List α}

theorem FlowReply.Cabe.pon (h : r.Cabe) (entry : Entrada Mt Ac) :
    (r.pon entry).Cabe ∧ r.stats.length < (r.pon entry).statsSize := by
  obtain ⟨hle, hpos⟩ := h
  unfold FlowReply.Cabe FlowReply.pon
  rw [length_append, length_singleton]
  dsimp only
  split <;> omega

theorem stats_foldl (p : Entrada Mt Ac → Bool) (l : List (Entrada Mt Ac)) (h : r.Cabe) :
    let r' := l.foldl (fun r entry => if p entry then r.pon entry else r) r
    r'.Cabe ∧ r'.stats = r.stats ++ l.filter p := by
  induction l generalizing r with
  | nil => simp [h]
  | cons entry l ih =>
    by_cases hsel : p entry = true
    · obtain ⟨hcabe, hstats⟩ := ih (h.pon entry).1
      simp only [foldl_cons, hsel, if_true, filter_cons]
      exact ⟨hcabe, hstats.trans (append_assoc ..)⟩
    · simpa [hsel] using ih h

theorem aggregate_foldl (p : Entrada Mt Ac → Bool) (l l₀ : List (Entrada Mt Ac)) :
    l.foldl (fun a entry =>
      if p entry then
        { packetCount := if entry.noPktCount then a.packetCount
            else a.packetCount + entry.packetCount
          byteCount := if entry.noBytCount then a.byteCount else a.byteCount + entry.byteCount
          flowCount := a.flowCount + 1 }
      else a) (AggregateReply.de l₀) = AggregateReply.de (l₀ ++ l.filter p) := by
  induction l generalizing l₀ with
  | nil => simp
  | cons entry l ih =>
    by_cases hsel : p entry = true
    · have hih := ih (l₀ ++ [entry])
      rw [AggregateReply.de_concat] at hih
      simpa [hsel] using hih
    · simpa [hsel] using ih l₀

variable {env : Entorno Mt Ac P} {msg : FlowStatsRequest Mt} {d : Dp Mt Ac Bd}
  {ts : List (Fin pipelineTables)}

/-- **The flow reply.** -/
theorem pipelineHandleStatsRequestFlow_eq (hts : tablasDe msg.tableId = some ts) :
    ∃ r, d.pipelineHandleStatsRequestFlow env msg = some r ∧ r.Cabe ∧
      r.stats = (d.entradasDe ts).filter fun e => msg.porSalida env e && msg.porMatch env e := by
  have h := stats_foldl (fun e => msg.porSalida env e && msg.porMatch env e) (d.entradasDe ts)
    (r := ⟨1, []⟩) ⟨Nat.zero_le _, Nat.one_pos⟩
  refine ⟨_, ?_, h⟩
  unfold Dp.pipelineHandleStatsRequestFlow flowTableStats
  rw [hts, Option.map_some, foldl_tablas]

/-- **The aggregate reply.** -/
theorem pipelineHandleStatsRequestAggregate_eq (hts : tablasDe msg.tableId = some ts) :
    d.pipelineHandleStatsRequestAggregate env msg =
      some (.de ((d.entradasDe ts).filter (msg.porSalida env))) := by
  have h0 : (⟨0, 0, 0⟩ : AggregateReply) = .de ([] : List (Entrada Mt Ac)) := rfl
  unfold Dp.pipelineHandleStatsRequestAggregate flowTableAggregateStats
  rw [hts, Option.map_some, foldl_tablas, h0, aggregate_foldl, nil_append]

theorem filter_and_eq :
    (l.filter fun x => p x && q x) = l.filter p ↔ ∀ x ∈ l, p x = true → q x = true := by
  constructor
  · intro h x hx hp
    have hmem : x ∈ l.filter fun x => p x && q x := h ▸ mem_filter.mpr ⟨hx, hp⟩
    exact (Bool.and_eq_true_iff.mp (mem_filter.mp hmem).2).2
  · intro h
    refine filter_congr fun x hx => ?_
    cases hp : p x with
    | false => rfl
    | true => exact h x hx hp

theorem filter_and_eq_of_length (h : (l.filter fun x => p x && q x).length = (l.filter p).length) :
    (l.filter fun x => p x && q x) = l.filter p := by
  have hsub : (l.filter fun x => p x && q x).Sublist (l.filter p) := by
    refine monotone_filter_right l fun x hx => ?_
    exact (Bool.and_eq_true_iff.mp hx).1
  exact hsub.eq_of_length h

end Replies

/-- **Flow and aggregate statistics.** The flow reply has the entries with the outputs and the
match, whatever their cookies; the aggregate reply counts those with the outputs, whatever matches
and cookies. With fewer than 2 ^ 32 entries both are right exactly if these leave no other one. -/
theorem flow_stats_agree (env : Entorno Mt Ac P) (d : Dp Mt Ac Bd) (msg : FlowStatsRequest Mt)
    {ts : List (Fin pipelineTables)} (hts : tablasDe msg.tableId = some ts) :
    ∃ r a, d.pipelineHandleStatsRequestFlow env msg = some r ∧
      d.pipelineHandleStatsRequestAggregate env msg = some a ∧
      (r.stats = (d.entradasDe ts).filter (msg.selecciona env) ↔
        ∀ e ∈ d.entradasDe ts, msg.porSalida env e = true → msg.porMatch env e = true →
          msg.porCookie e = true) ∧
      ((∀ e ∈ d.entradasDe ts, msg.porSalida env e = true →
          msg.porMatch env e = true ∧ msg.porCookie e = true) →
        r.stats = (d.entradasDe ts).filter (msg.selecciona env) ∧
        a = .de ((d.entradasDe ts).filter (msg.selecciona env))) ∧
      ((d.entradasDe ts).length < 2 ^ 32 →
        a = .de ((d.entradasDe ts).filter (msg.selecciona env)) →
        ∀ e ∈ d.entradasDe ts, msg.porSalida env e = true →
          msg.porMatch env e = true ∧ msg.porCookie e = true) := by
  obtain ⟨r, hr, _, hstats⟩ : ∃ r, d.pipelineHandleStatsRequestFlow env msg = some r ∧ r.Cabe ∧ _ :=
    pipelineHandleStatsRequestFlow_eq hts
  have ha : d.pipelineHandleStatsRequestAggregate env msg = some _ :=
    pipelineHandleStatsRequestAggregate_eq hts
  have hflow : r.stats = (d.entradasDe ts).filter (msg.selecciona env) ↔
      ∀ e ∈ d.entradasDe ts, msg.porSalida env e = true → msg.porMatch env e = true →
        msg.porCookie e = true := by
    rw [hstats, eq_comm]
    refine filter_and_eq.trans (forall₂_congr fun e _ => ?_)
    rw [Bool.and_eq_true_iff, and_imp]
  -- the test as what the aggregate reply looks at and what it does not
  have hsel : msg.selecciona env = fun e : Entrada Mt Ac =>
      msg.porSalida env e && (msg.porMatch env e && msg.porCookie e) :=
    funext fun e => Bool.and_assoc ..
  have hall : (d.entradasDe ts).filter (msg.selecciona env) =
      (d.entradasDe ts).filter (msg.porSalida env) ↔ ∀ e ∈ d.entradasDe ts,
        msg.porSalida env e = true → msg.porMatch env e = true ∧ msg.porCookie e = true := by
    rw [hsel]
    refine filter_and_eq.trans (forall₂_congr fun e _ => ?_)
    rw [Bool.and_eq_true_iff]
  refine ⟨r, _, hr, ha, hflow, fun h => ⟨hflow.mpr fun e he hs _ => (h e he hs).2, ?_⟩,
    fun hlen heq => hall.mp ?_⟩
  · rw [hall.mpr h]
  · have hcount := congrArg (fun a : AggregateReply => a.flowCount.toNat) heq
    have hmod : ∀ p : Entrada Mt Ac → Bool,
        ((d.entradasDe ts).filter p).length.toUInt32.toNat = ((d.entradasDe ts).filter p).length :=
      fun p => Nat.mod_eq_of_lt ((length_filter_le ..).trans_lt hlen)
    rw [hsel]
    refine filter_and_eq_of_length ?_
    rw [← hsel]
    exact (hmod _).symm.trans (hcount.symm.trans (hmod _))

/-- A flow-mod that adds an entry with a cookie. -/
def conCookie (cookie : Nat) (mtch : Option Nat) : FlowMod (Option Nat) Nat :=
  { flowMod .add mtch 5 0 0 [] with cookie := cookie }

def pideTodo : FlowStatsRequest (Option Nat) := ⟨ofpttAll, ofpAny, ofpAny, 0, 0, ⟨0, none⟩⟩

def pideCookie : FlowStatsRequest (Option Nat) :=
  ⟨0, ofpAny, ofpAny, 7, 2 ^ 64 - 1, ⟨0, none⟩⟩

def pideMatch : FlowStatsRequest (Option Nat) := ⟨0, ofpAny, ofpAny, 0, 0, ⟨0, some 1⟩⟩

/-- An entry for port 1 with cookie 7 in the first table, one for port 2 with cookie 8 in the
    second: a request for all tables without restriction gets both, and counts both. -/
theorem flow_stats_agree_dos :
    ∃ d : Dp (Option Nat) Nat Nat,
      Run (Dp.paso soloGrupos) (fun _ _ => True) (.create 0) d ∧
      (d.entradasDe (List.finRange pipelineTables)).map (·.cookie) = [7, 8] ∧
      ∃ r a, d.pipelineHandleStatsRequestFlow soloGrupos pideTodo = some r ∧
        d.pipelineHandleStatsRequestAggregate soloGrupos pideTodo = some a ∧
        r.stats = d.entradasDe (List.finRange pipelineTables) ∧
        a = .de (d.entradasDe (List.finRange pipelineTables)) ∧ a.flowCount = 2 := by
  obtain ⟨d, hrun, hcookies⟩ := Run.exists_exec (Dp.paso soloGrupos) (fun _ _ => True)
    [.flowMod tabla0 (conCookie 7 (some 1)) 10,
      .flowMod ⟨1, by decide⟩ (conCookie 8 (some 2)) 20]
    (.create 0 : Dp (Option Nat) Nat Nat)
    (fun d => (d.entradasDe (List.finRange pipelineTables)).map (·.cookie) = [7, 8]) (by decide)
  -- without restriction every entry is asked for
  have htodas : ∀ e : Entrada (Option Nat) Nat,
      pideTodo.porMatch soloGrupos e = true ∧ pideTodo.porCookie e = true :=
    fun e => ⟨rfl, beq_iff_eq.mpr (by simp [pideTodo])⟩
  have hfilter : (d.entradasDe (List.finRange pipelineTables)).filter
      (pideTodo.selecciona soloGrupos) = d.entradasDe (List.finRange pipelineTables) :=
    filter_eq_self.mpr fun e _ => by
      rw [FlowStatsRequest.selecciona, (htodas e).1, (htodas e).2]; rfl
  have hts : tablasDe pideTodo.tableId = some (List.finRange pipelineTables) := rfl
  obtain ⟨r, a, hr, ha, _, hambas, _⟩ := flow_stats_agree soloGrupos d pideTodo hts
  obtain ⟨hstats, hagg⟩ := hambas fun e _ _ => htodas e
  rw [hfilter] at hstats hagg
  refine ⟨d, hrun, hcookies, r, a, hr, ha, hstats, hagg, ?_⟩
  have hlen := congrArg List.length hcookies
  rw [length_map] at hlen
  rw [hagg, AggregateReply.de, hlen]
  rfl

/-- **Not in general.** The same two entries in the first table. A request for cookie 7 gets both
    in the flow reply, and both are counted. A request for the match on port 1 gets one of them,
    and both are counted. -/
theorem flow_stats_agree_fails :
    ∃ d : Dp (Option Nat) Nat Nat,
      Run (Dp.paso soloGrupos) (fun _ _ => True) (.create 0) d ∧
      (d.tablas tabla0).matchEntries.map (fun e => (e.cookie, e.mtch.fields)) =
        [(7, some 1), (8, some 2)] ∧
      ((d.tablas tabla0).matchEntries.filter (pideCookie.selecciona soloGrupos)).map (·.cookie) =
        [7] ∧
      (d.pipelineHandleStatsRequestFlow soloGrupos pideCookie).map (·.stats.map (·.cookie)) =
        some [7, 8] ∧
      (d.pipelineHandleStatsRequestAggregate soloGrupos pideCookie).map (·.flowCount) = some 2 ∧
      ((d.tablas tabla0).matchEntries.filter (pideMatch.selecciona soloGrupos)).map (·.cookie) =
        [7] ∧
      (d.pipelineHandleStatsRequestFlow soloGrupos pideMatch).map (·.stats.map (·.cookie)) =
        some [7] ∧
      (d.pipelineHandleStatsRequestAggregate soloGrupos pideMatch).map (·.flowCount) = some 2 :=
  Run.exists_exec _ _ [.flowMod tabla0 (conCookie 7 (some 1)) 10,
    .flowMod tabla0 (conCookie 8 (some 2)) 20] _ _ (by decide)

end TcpPath.Udatapath
