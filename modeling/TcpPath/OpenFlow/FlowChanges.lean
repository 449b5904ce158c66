/-
  Subject:   What the changes of a flow table touch, and what they leave alone: an ADD that checks
             for overlaps, MODIFY and DELETE, and the timeouts (flow_table.c, flow_entry.c).

  Results:   `add_check_overlap`: when an ADD is refused;
             `modify_delete_targets`: no entry but the targets is touched;
             `timeout_exact`: which entries a timeout takes, and why.
-/
import TcpPath.OpenFlow.Refinement

namespace TcpPath.Udatapath

open Util List Function

variable {Mt Ac Bd P : Type}

/-! ## 1. An ADD that checks for overlaps -/

section Overlap

variable {of : OpenFlow Mt Ac P} {mod : FlowMod Mt Ac}

theorem flowEntryOverlaps_iff {entry : FlowEntry Mt Ac} :
    flowEntryOverlaps of entry mod = true ↔
      entry.priority = mod.priority ∧ tieneSalida of entry mod = true ∧
        of.matchStdOverlap entry.mtch.fields mod.mtch.fields = true := by
  unfold flowEntryOverlaps
  rw [Bool.and_eq_true, Bool.and_eq_true, beq_iff_eq, and_assoc]

/-- **Where the loop of `flow_table_add` meets an overlap**: not behind an entry that is the
    same. The order of the priorities keeps it from ending before. -/
theorem buscaSitio_overlap_iff {l : List (Entrada Mt Ac)}
    (hl : l.Pairwise fun a b => b.priority ≤ a.priority) :
    buscaSitio of mod true l = .overlap ↔
      ∃ antes e despues, l = antes ++ e :: despues ∧
        flowEntryOverlaps of e.toFlowEntry mod = true ∧
        ∀ a ∈ antes, flowEntryMatches of a.toFlowEntry mod true false = false := by
  induction l with
  | nil => simp [buscaSitio]
  | cons x l ih =>
    obtain ⟨hx, hl⟩ := pairwise_cons.mp hl
    rw [exists_split_cons, buscaSitio, Bool.true_and]
    by_cases hover : flowEntryOverlaps of x.toFlowEntry mod = true
    · simp [hover]
    rw [if_neg hover, or_iff_right hover]
    by_cases hmx : flowEntryMatches of x.toFlowEntry mod true false = true
    · simp [hmx]
    rw [if_neg hmx, ← ih hl]
    by_cases hlt : x.priority < mod.priority
    · -- no entry behind `x` has the priority of the message
      rw [if_pos hlt]
      constructor
      · intro h
        cases h
      · rintro ⟨_, h⟩
        obtain ⟨antes, e, despues, heq, he, _⟩ := (ih hl).mp h
        have hle := hx e (by simp [heq])
        have hprio := (flowEntryOverlaps_iff.mp he).1
        omega
    · rw [if_neg hlt]
      cases buscaSitio of mod true l <;> simp [hmx, Sitio.tras]

end Overlap

variable {d : Dp Mt Ac Bd} {env : Entorno Mt Ac P} {β : Type} {p fe : FlowPtr} {now : Nat}
  {mod : FlowMod Mt Ac} {arr : Arreglo Ac}

theorem Dp.Sana.orden (h : d.Sana) (t : Fin pipelineTables) :
    (d.tablas t).matchEntries.Pairwise fun a b => b.priority ≤ a.priority :=
  (pairwise_map.mp (h.tabla t).orden).imp fun hab => hab.priority_le

/-- **An ADD that checks for overlaps** is refused with `OFPFMFC_OVERLAP` iff an entry of its
priority overlaps, has the output that is asked for, and none before it counts as the same. A
refusal changes nothing. -/
theorem add_check_overlap {env : Entorno Mt Ac P} {bandsNum : UInt64} {d : Dp Mt Ac Bd}
    (h : Run (Dp.paso env) (fun _ _ => True) (.create bandsNum) d) (t : Fin pipelineTables)
    (mod : FlowMod Mt Ac) (arr : Arreglo Ac) (now : Nat) :
    (d.flowTableAdd env t mod arr true now = .error ⟨.flowModFailed, .fmfcOverlap⟩ ↔
      ∃ antes e despues, (d.tablas t).matchEntries = antes ++ e :: despues ∧
        (e.priority = mod.priority ∧ tieneSalida env.toOpenFlow e.toFlowEntry mod = true ∧
          env.matchStdOverlap e.mtch.fields mod.mtch.fields = true) ∧
        ∀ a ∈ antes, flowEntryMatches env.toOpenFlow a.toFlowEntry mod true false = false) ∧
    (mod.outPort = ofpAny → mod.outGroup = ofpAny →
      (∀ e ∈ (d.tablas t).matchEntries,
        flowEntryMatches env.toOpenFlow e.toFlowEntry mod true false = true →
          env.matchStdOverlap e.mtch.fields mod.mtch.fields = true) →
      (d.flowTableAdd env t mod arr true now = .error ⟨.flowModFailed, .fmfcOverlap⟩ ↔
        ∃ e ∈ (d.tablas t).matchEntries, e.priority = mod.priority ∧
          env.matchStdOverlap e.mtch.fields mod.mtch.fields = true)) ∧
    ∀ error, d.flowTableAdd env t mod arr true now = .error error →
      (error = ⟨.flowModFailed, .fmfcOverlap⟩ ∨ error = ⟨.flowModFailed, .fmfcTableFull⟩) ∧
        d.tras (d.flowTableAdd env t mod arr true now) = d := by
  have hsitio : d.flowTableAdd env t mod arr true now = .error ⟨.flowModFailed, .fmfcOverlap⟩ ↔
      buscaSitio env.toOpenFlow mod true (d.tablas t).matchEntries = .overlap := by
    unfold Dp.flowTableAdd
    cases buscaSitio env.toOpenFlow mod true (d.tablas t).matchEntries with
    | overlap => exact ⟨fun _ => rfl, fun _ => rfl⟩
    | igual antes e despues => exact ⟨fun h => (nomatch h), fun h => (nomatch h)⟩
    | nuevo antes despues =>
      refine ⟨fun h => ?_, fun h => (nomatch h)⟩
      dsimp only at h
      split at h <;> cases h
  have hiff := hsitio.trans (buscaSitio_overlap_iff ((Dp.sana_run h).orden t))
  refine ⟨?_, fun hport hgroup hsame => ?_, fun error herr => ⟨?_, ?_⟩⟩
  · rw [hiff]
    simp only [flowEntryOverlaps_iff]
  · rw [hiff]
    have hsalida : ∀ e : Entrada Mt Ac, tieneSalida env.toOpenFlow e.toFlowEntry mod = true := by
      intro e
      unfold tieneSalida
      rw [hport, hgroup, beq_self_eq_true, Bool.true_or, Bool.true_or, Bool.and_self]
    constructor
    · intro ⟨antes, e, despues, heq, he, _⟩
      obtain ⟨hprio, _, hov⟩ := flowEntryOverlaps_iff.mp he
      exact ⟨e, heq ▸ mem_append_right _ mem_cons_self, hprio, hov⟩
    · intro ⟨e, he, hprio, hov⟩
      -- the first of those that overlap: one that is the same would be one of them
      have hsome : ((d.tablas t).matchEntries.find? fun x =>
          flowEntryOverlaps env.toOpenFlow x.toFlowEntry mod).isSome = true :=
        find?_isSome.mpr ⟨e, he, flowEntryOverlaps_iff.mpr ⟨hprio, hsalida e, hov⟩⟩
      obtain ⟨x, hx⟩ := Option.isSome_iff_exists.mp hsome
      obtain ⟨hxo, antes, despues, heq, hantes⟩ := find?_eq_some_iff_append.mp hx
      refine ⟨antes, x, despues, heq, hxo, fun a ha => Bool.eq_false_iff.mpr fun hm => ?_⟩
      have hmem : a ∈ (d.tablas t).matchEntries := heq ▸ mem_append_left _ ha
      have hover : flowEntryOverlaps env.toOpenFlow a.toFlowEntry mod = true :=
        flowEntryOverlaps_iff.mpr ⟨priority_of_matches_strict hm, hsalida a, hsame a hmem hm⟩
      have hno := hantes a ha
      rw [hover] at hno
      cases hno
  · unfold Dp.flowTableAdd at herr
    split at herr
    · cases herr
      exact .inl rfl
    · cases herr
    · split at herr
      · cases herr
        exact .inr rfl
      · cases herr
  · rw [herr]
    rfl

/-- A flow-mod with the flag `OFPFF_CHECK_OVERLAP`. -/
def conCheck (outPort : Nat) (mtch : Option Nat) (priority : Nat) : FlowMod (Option Nat) Nat :=
  { flowMod .add mtch priority 0 0 [] with
    flags := 2
    outPort := outPort }

/-- An entry for every packet, and one of its priority for those of port 1. -/
theorem add_check_overlap_puerto1 :
    ∃ d : Dp (Option Nat) Nat Nat,
      Run (Dp.paso soloGrupos) (fun _ _ => True) (.create 0) d ∧
      (d.tablas tabla0).activeCount = 1 ∧
      d.flowTableAdd soloGrupos tabla0 (conCheck ofpAny (some 1) 5) ⟨2, []⟩ true 20 =
        .error ⟨.flowModFailed, .fmfcOverlap⟩ := by
  obtain ⟨d, hrun, hact, hany, hall⟩ := Run.exists_exec (Dp.paso soloGrupos) (fun _ _ => True)
    [.flowMod tabla0 (flowMod .add none 5 0 0 []) 10] (.create 0 : Dp (Option Nat) Nat Nat)
    (fun d => (d.tablas tabla0).activeCount = 1 ∧
      (∃ e ∈ (d.tablas tabla0).matchEntries, e.priority = 5 ∧
        soloGrupos.matchStdOverlap e.mtch.fields (some 1) = true) ∧
      ∀ e ∈ (d.tablas tabla0).matchEntries,
        soloGrupos.matchStdOverlap e.mtch.fields (some 1) = true)
    (by decide)
  exact ⟨d, hrun, hact, ((add_check_overlap hrun tabla0 (conCheck ofpAny (some 1) 5) ⟨2, []⟩
    20).2.1 rfl rfl fun e he _ => hall e he).mpr hany⟩

/-- The same on output to port 1, which the entry for every packet does not have: the new one is
    added, and the two overlap. -/
theorem add_check_overlap_fails :
    ∃ d : Dp (Option Nat) Nat Nat,
      Run (Dp.paso soloGrupos) (fun _ _ => True) (.create 0) d ∧
      (∃ e ∈ (d.tablas tabla0).matchEntries, e.priority = (conCheck 1 (some 1) 5).priority ∧
        soloGrupos.matchStdOverlap e.mtch.fields (conCheck 1 (some 1) 5).mtch.fields = true) ∧
      checkOverlap (conCheck 1 (some 1) 5).flags = true ∧
      ∃ d', d.flowTableFlowMod soloGrupos tabla0 (conCheck 1 (some 1) 5) ⟨2, []⟩ 20 = .ok d' ∧
        (d'.tablas tabla0).activeCount = 2 :=
  Run.exists_exec _ _ [.flowMod tabla0 (flowMod .add none 5 0 0 []) 10] _ _ (by decide)

/-! ## 2. Removals -/

/-- The numbers of the groups or meters that know of a flow entry. -/
def RefTable.conocen {β : Type} (table : RefTable β) (p : FlowPtr) : List Nat :=
  (table.entries.filter (p ∈ ·.flowRefs)).map (·.id)

theorem RefTable.conocen_alRefs {f : RefEntry β → RefEntry β} (hid : ∀ e, (f e).id = e.id)
    (hf : ∀ e, p ∈ (f e).flowRefs ↔ p ∈ e.flowRefs) (refs : List Nat) (table : RefTable β) :
    (table.alRefs f refs).conocen p = table.conocen p := by
  have hkeep : ∀ l : List (RefEntry β), (l.filter (p ∈ ·.flowRefs)).map (·.id) =
      ((l.map fun e => (e.id, decide (p ∈ e.flowRefs))).filter (·.2)).map (·.1) := by
    intro l
    rw [filter_map, map_map]
    rfl
  unfold conocen alRefs
  generalize table.entries = es
  rw [hkeep, hkeep]
  induction refs generalizing es with
  | nil => rfl
  | cons id refs ih =>
    rw [foldl_cons, ih, map_modifyFirst (f := f) (fun e => (e.id, decide (p ∈ e.flowRefs)))]
    intro e _
    simp only [hid, hf]

theorem RefTable.conocen_delRefs (h : p ≠ fe) (refs : List Nat) (table : RefTable β) :
    (table.delRefs fe refs).conocen p = table.conocen p :=
  conocen_alRefs (f := (·.delFlowRef fe)) (fun _ => rfl)
    (fun _ => RefEntry.mem_flowRefs_delFlowRef.trans (and_iff_left h)) refs table

theorem RefTable.conocen_addRefs (h : p ≠ fe) (refs : List Nat) (table : RefTable β) :
    (table.addRefs fe refs).conocen p = table.conocen p :=
  conocen_alRefs (f := (·.addFlowRef fe)) (RefEntry.id_addFlowRef fe)
    (fun _ => RefEntry.mem_flowRefs_addFlowRef.trans (or_iff_left h)) refs table

namespace TablaFlujos

/-- What is left of a table without some entries. -/
def sin (dirs : List Nat) (table : TablaFlujos Mt Ac) : TablaFlujos Mt Ac :=
  { table with
    activeCount := table.activeCount - dirs.length
    matchEntries := table.matchEntries.filter (·.dir ∉ dirs)
    hardEntries := table.hardEntries.filter (·.dir ∉ dirs)
    idleEntries := table.idleEntries.filter (· ∉ dirs) }

theorem sin_nil (table : TablaFlujos Mt Ac) : table.sin [] = table := by
  unfold sin
  simp

theorem quita_eq_sin (dir : Nat) (table : TablaFlujos Mt Ac) :
    table.quita dir = table.sin [dir] := by
  unfold sin quita desenlaza
  simp [bne, Bool.beq_eq_decide_eq]

theorem sin_sin (dirs dirs' : List Nat) (table : TablaFlujos Mt Ac) :
    (table.sin dirs).sin dirs' = table.sin (dirs ++ dirs') := by
  unfold sin
  simp only [filter_filter, length_append, mem_append, not_or, Nat.sub_sub,
    Bool.decide_and, Bool.and_comm]

end TablaFlujos

namespace Dp

variable {d d' : Dp Mt Ac Bd} {t : Fin pipelineTables} {now : Nat}
  {l : List (Entrada Mt Ac × Reason)}

/-- Entries of table `t` are removed one after the other, each for its reason. -/
def bajas (t : Fin pipelineTables) (now : Nat) (l : List (Entrada Mt Ac × Reason))
    (d : Dp Mt Ac Bd) : Dp Mt Ac Bd :=
  l.foldl (fun d x => d.flowEntryRemove x.2 now ⟨t, x.1.dir⟩) d

structure TrasBajas (t : Fin pipelineTables) (now : Nat) (l : List (Entrada Mt Ac × Reason))
    (d d' : Dp Mt Ac Bd) : Prop where
  tablas : d'.tablas = Function.update d.tablas t ((d.tablas t).sin (l.map (·.1.dir)))
  enviados : d'.enviados =
    d.enviados ++ (l.filter (·.1.sendRemoved)).map fun x => x.1.flowRemoved x.2 now
  grupos : ∀ p : FlowPtr, (∀ x ∈ l, p ≠ ⟨t, x.1.dir⟩) → d'.groups.conocen p = d.groups.conocen p
  metros : ∀ p : FlowPtr, (∀ x ∈ l, p ≠ ⟨t, x.1.dir⟩) → d'.meters.conocen p = d.meters.conocen p
  libres : d'.libres = (l.map (·.1.instructions.dir)).reverse ++ d.libres

theorem trasBajas_uno {e : Entrada Mt Ac} (hd : ((d.tablas t).matchEntries.map (·.dir)).Nodup)
    (he : e ∈ (d.tablas t).matchEntries) (reason : Reason) (now : Nat) :
    TrasBajas t now [(e, reason)] d (d.flowEntryRemove reason now ⟨t, e.dir⟩) := by
  have hfind : (d.tablas t).entrada e.dir = some e := find?_of_key hd he fun _ => beq_iff_eq
  unfold flowEntryRemove
  simp only [hfind]
  refine ⟨?_, ?_, fun p hp => ?_, fun p hp => ?_, ?_⟩
  · show Function.update (d.avisa e reason now).tablas t _ = _
    rw [(d.tablas_avisa e reason now).1]
    exact congrArg (Function.update d.tablas t) (TablaFlujos.quita_eq_sin e.dir (d.tablas t))
  · show (d.avisa e reason now).enviados = _
    unfold avisa
    cases hs : e.sendRemoved with
    | true => simp [hs]
    | false => simp [hs]
  · have hne := hp _ mem_cons_self
    show ((d.avisa e reason now).groups.delRefs _ _).conocen p = _
    rw [RefTable.conocen_delRefs hne]
    unfold avisa
    split <;> rfl
  · have hne := hp _ mem_cons_self
    show ((d.avisa e reason now).meters.delRefs _ _).conocen p = _
    rw [RefTable.conocen_delRefs hne]
    unfold avisa
    split <;> rfl
  · show e.instructions.dir :: (d.avisa e reason now).libres = e.instructions.dir :: d.libres
    unfold avisa
    split <;> rfl

theorem TrasBajas.trans {l' : List (Entrada Mt Ac × Reason)} {d'' : Dp Mt Ac Bd}
    (h : TrasBajas t now l d d') (h' : TrasBajas t now l' d' d'') :
    TrasBajas t now (l ++ l') d d'' where
  tablas := by
    rw [h'.tablas, h.tablas, update_idem, update_self, TablaFlujos.sin_sin,
      map_append]
  enviados := by
    rw [h'.enviados, h.enviados, filter_append, map_append, append_assoc]
  grupos p hp :=
    (h'.grupos p fun x hx => hp x (mem_append_right _ hx)).trans
      (h.grupos p fun x hx => hp x (mem_append_left _ hx))
  metros p hp :=
    (h'.metros p fun x hx => hp x (mem_append_right _ hx)).trans
      (h.metros p fun x hx => hp x (mem_append_left _ hx))
  libres := by
    rw [h'.libres, h.libres, map_append, reverse_append, append_assoc]

/-- **A list of removals**, of entries that are there. -/
theorem bajas_spec (hd : ((d.tablas t).matchEntries.map (·.dir)).Nodup)
    (hl : (l.map (·.1.dir)).Nodup) (hmem : ∀ x ∈ l, x.1 ∈ (d.tablas t).matchEntries) (now : Nat) :
    TrasBajas t now l d (d.bajas t now l) := by
  induction l generalizing d with
  | nil =>
    refine ⟨?_, (append_nil _).symm, fun _ _ => rfl, fun _ _ => rfl, rfl⟩
    rw [map_nil, TablaFlujos.sin_nil, update_eq_self]
    rfl
  | cons x l ih =>
    obtain ⟨hx, hl⟩ := nodup_cons.mp hl
    obtain ⟨hxmem, hmem⟩ := forall_mem_cons.mp hmem
    have huno := trasBajas_uno hd hxmem x.2 now
    have hlista : ((d.flowEntryRemove x.2 now ⟨t, x.1.dir⟩).tablas t).matchEntries =
        (d.tablas t).matchEntries.filter (·.dir ∉ [x.1.dir]) := by
      rw [huno.tablas, update_self]
      rfl
    refine huno.trans (ih ?_ hl fun y hy => ?_)
    · rw [hlista]
      exact (filter_sublist.map _).nodup hd
    · rw [hlista, mem_filter]
      exact ⟨hmem y hy, decide_eq_true fun hyx =>
        hx (mem_map.mpr ⟨y, hy, mem_singleton.mp hyx⟩)⟩

theorem TrasBajas.matchEntries (h : TrasBajas t now l d d') :
    (d'.tablas t).matchEntries = (d.tablas t).matchEntries.filter (·.dir ∉ l.map (·.1.dir)) := by
  rw [h.tablas, update_self]
  rfl

theorem TrasBajas.mem_of_not (h : TrasBajas t now l d d') {e : Entrada Mt Ac}
    (he : e ∈ (d.tablas t).matchEntries) (hno : e.dir ∉ l.map (·.1.dir)) :
    e ∈ (d'.tablas t).matchEntries := by
  rw [h.matchEntries]
  exact mem_filter.mpr ⟨he, decide_eq_true hno⟩

theorem bajas_append (l l' : List (Entrada Mt Ac × Reason)) :
    d.bajas t now (l ++ l') = (d.bajas t now l).bajas t now l' :=
  foldl_append

end Dp

/-! ## 3. Timeouts -/

namespace Dp

variable {d : Dp Mt Ac Bd} {t : Fin pipelineTables} {now : Nat}

theorem hardTimeouts_eq (nodes : List HardNode) :
    d.hardTimeouts t now nodes =
      (nodes.takeWhile (·.vencida now)).foldl
        (fun d node => d.flowEntryRemove .hardTimeout now ⟨t, node.dir⟩) d := by
  induction nodes generalizing d with
  | nil => rfl
  | cons node rest ih =>
    rw [hardTimeouts]
    by_cases hv : node.vencida now = true
    · rw [if_pos hv, takeWhile_cons_of_pos hv, foldl_cons, ih]
    · rw [if_neg hv, takeWhile_cons_of_neg hv]
      rfl

theorem idleTimeouts_eq {es : List (Entrada Mt Ac)}
    (hd : ((d.tablas t).matchEntries.map (·.dir)).Nodup) (hes : (es.map (·.dir)).Nodup)
    (hmem : ∀ e ∈ es, e ∈ (d.tablas t).matchEntries) :
    (es.map (·.dir)).foldl (flowEntryIdleTimeout t now) d =
      d.bajas t now ((es.filter (·.ociosa now)).map (·, .idleTimeout)) := by
  induction es generalizing d with
  | nil => rfl
  | cons e es ih =>
    obtain ⟨hno, hes⟩ := nodup_cons.mp hes
    obtain ⟨he, hmem⟩ := forall_mem_cons.mp hmem
    have hfind : (d.tablas t).entrada e.dir = some e := find?_of_key hd he fun _ => beq_iff_eq
    rw [map_cons, foldl_cons, flowEntryIdleTimeout, hfind, Option.any_some]
    by_cases ho : e.ociosa now = true
    · have huno := trasBajas_uno hd he .idleTimeout now
      rw [if_pos ho, filter_cons_of_pos ho]
      refine ih ?_ hes fun x hx => huno.mem_of_not (hmem x hx) fun hxe => hno ?_
      · rw [huno.matchEntries]
        exact (filter_sublist.map _).nodup hd
      · exact mem_map.mpr ⟨x, hx, mem_singleton.mp hxe⟩
    · rw [if_neg ho, filter_cons_of_neg ho]
      exact ih hd hes hmem

theorem Sana.takeWhile_vencida (hs : d.Sana) (t : Fin pipelineTables) (now : Nat) :
    ∃ duras : List (Entrada Mt Ac),
      (d.tablas t).hardEntries.takeWhile (·.vencida now) = duras.map (·.hardNode) ∧
      duras.Perm ((d.tablas t).matchEntries.filter (·.hardNode.vencida now)) := by
  have hduras : ∀ e ∈ (d.tablas t).matchEntries, 0 < e.removeAt ↔ 0 < e.hardTimeout :=
    fun e he => (hs.tabla t).duras e.nucleo (mem_map_of_mem he)
  have hvencen := (hs.tabla t).vencen
  rw [TablaFlujos.esqueleto, filter_map, map_map] at hvencen
  have htake : (d.tablas t).hardEntries.takeWhile (·.vencida now) =
      (d.tablas t).hardEntries.filter (·.vencida now) := by
    refine takeWhile_eq_filter ((hs.tabla t).hardOrden.imp_of_mem fun {a b} ha _ hab hb => ?_)
    have hpos : 0 < a.removeAt := by
      obtain ⟨e, he, hea⟩ := mem_map.mp (hvencen.mem_iff.mp ha)
      obtain ⟨he, hdura⟩ := mem_filter.mp he
      rw [← hea]
      exact (hduras e he).mpr (of_decide_eq_true hdura)
    simp only [HardNode.vencida, Bool.and_eq_true, bne_iff_ne, decide_eq_true_eq] at hb ⊢
    omega
  rw [htake]
  refine exists_of_perm_map ((hvencen.filter (·.vencida now)).trans (.of_eq ?_))
  rw [filter_map, filter_filter]
  refine congrArg (List.map _) (filter_congr fun e he => ?_)
  show (e.hardNode.vencida now && decide (0 < e.hardTimeout)) = e.hardNode.vencida now
  cases hv : e.hardNode.vencida now with
  | false => rfl
  | true =>
    simp only [HardNode.vencida, Bool.and_eq_true, bne_iff_ne] at hv
    exact decide_eq_true ((hduras e he).mp (Nat.pos_of_ne_zero hv.1))

theorem Sana.idleEntries_eq (hs : d.Sana) (t : Fin pipelineTables) :
    ∃ es : List (Entrada Mt Ac), (d.tablas t).idleEntries = es.map (·.dir) ∧
      es.Perm ((d.tablas t).matchEntries.filter (0 < ·.idleTimeout)) := by
  have hociosas := (hs.tabla t).ociosas
  rw [TablaFlujos.esqueleto, filter_map, map_map] at hociosas
  exact exists_of_perm_map hociosas

/-- **`flow_table_timeout` as removals**: first the entries whose hard timeout has passed, then
    those of the others that have been idle for too long. -/
theorem Sana.flowTableTimeout_eq (hs : d.Sana) (t : Fin pipelineTables) (now : Nat) :
    ∃ duras ociosas : List (Entrada Mt Ac),
      duras.Perm ((d.tablas t).matchEntries.filter (·.hardNode.vencida now)) ∧
      ociosas.Perm ((d.tablas t).matchEntries.filter fun e =>
        !e.hardNode.vencida now && e.ociosa now) ∧
      d.flowTableTimeout t now =
        d.bajas t now (duras.map (·, .hardTimeout) ++ ociosas.map (·, .idleTimeout)) := by
  have hnodup := hs.nodup_dirs t
  obtain ⟨duras, hduras, hperm⟩ := hs.takeWhile_vencida t now
  obtain ⟨es, hes, hesperm⟩ := hs.idleEntries_eq t
  have hmemD : ∀ e ∈ duras, e ∈ (d.tablas t).matchEntries :=
    fun e he => mem_of_mem_filter (hperm.mem_iff.mp he)
  have hmemE : ∀ e ∈ es, e ∈ (d.tablas t).matchEntries :=
    fun e he => mem_of_mem_filter (hesperm.mem_iff.mp he)
  have hdirs : ∀ e ∈ (d.tablas t).matchEntries,
      (e.dir ∈ duras.map (·.dir) ↔ e.hardNode.vencida now = true) := by
    intro e he
    rw [mem_map_key_iff hnodup hmemD he, hperm.mem_iff, mem_filter]
    exact and_iff_right he
  have hnodupE : (es.map (·.dir)).Nodup :=
    (hesperm.map _).nodup_iff.mpr ((filter_sublist.map _).nodup hnodup)
  have hmap : (duras.map (·, Reason.hardTimeout)).map (·.1.dir) = duras.map (·.dir) :=
    map_map
  have hbajas := bajas_spec (l := duras.map (·, Reason.hardTimeout)) hnodup
    (hmap ▸ (hperm.map _).nodup_iff.mpr ((filter_sublist.map _).nodup hnodup))
    (forall_mem_map.mpr hmemD) now
  -- what the first loop has left of the idle list
  let quedan := es.filter (·.dir ∉ duras.map (·.dir))
  have hquedan : ((d.bajas t now (duras.map (·, .hardTimeout))).tablas t).idleEntries =
      quedan.map (·.dir) := by
    rw [hbajas.tablas, update_self, hmap]
    show (d.tablas t).idleEntries.filter (· ∉ duras.map (·.dir)) = _
    rw [hes, filter_map]
    rfl
  refine ⟨duras, quedan.filter (·.ociosa now), hperm, ?_, ?_⟩
  · refine ((hesperm.filter _).filter _).trans (.of_eq ?_)
    rw [filter_filter, filter_filter]
    refine filter_congr fun e he => ?_
    have hiff := hdirs e he
    cases hv : e.hardNode.vencida now with
    | true => simp [hiff.mpr hv]
    | false =>
      have hno : e.dir ∉ duras.map (·.dir) := fun hmem => by
        rw [hiff.mp hmem] at hv
        cases hv
      cases ho : e.ociosa now with
      | false => simp
      | true =>
        simp only [Entrada.ociosa, Bool.and_eq_true, bne_iff_ne] at ho
        simp [hno, Nat.pos_of_ne_zero ho.1]
  · unfold flowTableTimeout
    simp only
    have hprimero : d.hardTimeouts t now (d.tablas t).hardEntries =
        d.bajas t now (duras.map (·, .hardTimeout)) := by
      rw [hardTimeouts_eq, hduras, bajas, foldl_map, foldl_map]
      rfl
    rw [hprimero, hquedan, bajas_append]
    refine idleTimeouts_eq ?_ ((filter_sublist.map _).nodup hnodupE) fun e he => ?_
    · rw [hbajas.matchEntries]
      exact (filter_sublist.map _).nodup hnodup
    · obtain ⟨he, hno⟩ := mem_filter.mp he
      exact hbajas.mem_of_not (hmemE e he) (hmap ▸ of_decide_eq_true hno)

theorem Sana.vencida_iff (hs : d.Sana) {e : Entrada Mt Ac} (he : e ∈ (d.tablas t).matchEntries) :
    e.hardNode.vencida now = true ↔ 0 < e.hardTimeout ∧ e.removeAt < now := by
  have hdura : 0 < e.removeAt ↔ 0 < e.hardTimeout :=
    (hs.tabla t).duras e.nucleo (mem_map_of_mem he)
  have hnode : e.hardNode.removeAt = e.removeAt := rfl
  simp only [HardNode.vencida, Bool.and_eq_true, bne_iff_ne, decide_eq_true_eq, hnode]
  omega

end Dp

theorem Entrada.ociosa_iff {e : Entrada Mt Ac} :
    e.ociosa now = true ↔ 0 < e.idleTimeout ∧ e.lastUsed + 1000 * e.idleTimeout < now := by
  simp only [Entrada.ociosa, Bool.and_eq_true, bne_iff_ne, decide_eq_true_eq]
  omega

/-- The hard or the idle timeout of an entry has passed. -/
def Entrada.Vence (now : Nat) (e : Entrada Mt Ac) : Prop :=
  (0 < e.hardTimeout ∧ e.removeAt < now) ∨
    (0 < e.idleTimeout ∧ e.lastUsed + 1000 * e.idleTimeout < now)

instance (now : Nat) (e : Entrada Mt Ac) : Decidable (e.Vence now) :=
  inferInstanceAs (Decidable (_ ∨ _))

/-- **The timeouts are exact.** `flow_table_timeout` takes the entries whose hard or idle timeout
has passed out of the table, each once and for the first reason it has, and no other. While no
array of instructions has been freed twice, it frees none twice exactly if none of these entries
has an array that has been freed, and no two of them have one. -/
theorem timeout_exact {env : Entorno Mt Ac P} {bandsNum : UInt64} {d : Dp Mt Ac Bd}
    (h : Run (Dp.paso env) (fun _ _ => True) (.create bandsNum) d) (hlibres : d.libres.Nodup)
    (t : Fin pipelineTables) (now : Nat) :
    ∃ l : List (Entrada Mt Ac × Reason),
      d.flowTableTimeout t now = d.bajas t now l ∧
      (l.map (·.1.dir)).Nodup ∧
      (∀ e reason, (e, reason) ∈ l ↔ e ∈ (d.tablas t).matchEntries ∧
        if 0 < e.hardTimeout ∧ e.removeAt < now then reason = .hardTimeout
        else (0 < e.idleTimeout ∧ e.lastUsed + 1000 * e.idleTimeout < now) ∧
          reason = .idleTimeout) ∧
      ((d.flowTableTimeout t now).tablas t).matchEntries =
        (d.tablas t).matchEntries.filter (fun e => ¬(0 < e.hardTimeout ∧ e.removeAt < now) ∧
          ¬(0 < e.idleTimeout ∧ e.lastUsed + 1000 * e.idleTimeout < now)) ∧
      (∀ t', t' ≠ t → (d.flowTableTimeout t now).tablas t' = d.tablas t') ∧
      (d.flowTableTimeout t now).enviados = d.enviados ++
        (l.filter (·.1.sendRemoved)).map (fun x => x.1.flowRemoved x.2 now) ∧
      ((d.flowTableTimeout t now).libres.Nodup ↔
        ∀ x ∈ (d.tablas t).matchEntries, x.Vence now →
          x.instructions.dir ∉ d.libres ∧
          ∀ e ∈ (d.tablas t).matchEntries, e.Vence now →
            e.instructions.dir = x.instructions.dir → e = x) := by
  have hs := Dp.sana_run h
  have hnodup := hs.nodup_dirs t
  obtain ⟨duras, ociosas, hduras, hociosas, heq⟩ := hs.flowTableTimeout_eq t now
  have hmem : ∀ e reason,
      (e, reason) ∈ duras.map (·, Reason.hardTimeout) ++ ociosas.map (·, Reason.idleTimeout) ↔
        e ∈ (d.tablas t).matchEntries ∧
        if 0 < e.hardTimeout ∧ e.removeAt < now then reason = .hardTimeout
        else (0 < e.idleTimeout ∧ e.lastUsed + 1000 * e.idleTimeout < now) ∧
          reason = .idleTimeout := by
    intro e reason
    rw [mem_append, mem_map, mem_map]
    simp only [hduras.mem_iff, hociosas.mem_iff, mem_filter, Prod.mk.injEq,
      Bool.and_eq_true, Bool.not_eq_true', Bool.eq_false_iff, ne_eq, Entrada.ociosa_iff]
    constructor
    · intro hx
      rcases hx with ⟨x, ⟨hx, hv⟩, rfl, rfl⟩ | ⟨x, ⟨hx, hno, ho⟩, rfl, rfl⟩
      · exact ⟨hx, by rw [if_pos ((hs.vencida_iff hx).mp hv)]⟩
      · refine ⟨hx, ?_⟩
        rw [if_neg fun hh => hno ((hs.vencida_iff hx).mpr hh)]
        exact ⟨ho, rfl⟩
    · intro ⟨he, hr⟩
      by_cases hv : 0 < e.hardTimeout ∧ e.removeAt < now
      · rw [if_pos hv] at hr
        exact .inl ⟨e, ⟨he, (hs.vencida_iff he).mpr hv⟩, rfl, hr.symm⟩
      · rw [if_neg hv] at hr
        exact .inr ⟨e, ⟨he, fun hh => hv ((hs.vencida_iff he).mp hh), hr.1⟩, rfl, hr.2.symm⟩
  generalize hl : duras.map (·, Reason.hardTimeout) ++ ociosas.map (·, Reason.idleTimeout) = l
    at heq hmem
  have hl1 : l.map (·.1) = duras ++ ociosas := by
    rw [← hl, map_append, map_map, map_map]
    simp [comp_def]
  have hentries : (l.map (·.1)).Nodup := by
    rw [hl1, (hduras.append hociosas).nodup_iff]
    have hn := List.Nodup.of_map _ hnodup
    refine (hn.filter _).append (hn.filter _) fun e he he' => ?_
    have hv := (mem_filter.mp he).2
    have hno := (mem_filter.mp he').2
    rw [hv] at hno
    cases hno
  have hin : ∀ x ∈ l, x.1 ∈ (d.tablas t).matchEntries := fun x hx => ((hmem x.1 x.2).mp hx).1
  have hdirs : (l.map (·.1.dir)).Nodup := by
    have := hentries.map_on (f := Entrada.dir) fun a ha b hb => by
      obtain ⟨x, hx, rfl⟩ := mem_map.mp ha
      obtain ⟨y, hy, rfl⟩ := mem_map.mp hb
      exact inj_on_of_nodup_map hnodup (hin x hx) (hin y hy)
    rwa [map_map] at this
  have hspec := Dp.bajas_spec hnodup hdirs hin now
  rw [← heq] at hspec
  have hvence : ∀ e, e ∈ l.map (·.1) ↔ e ∈ (d.tablas t).matchEntries ∧ e.Vence now := by
    intro e
    rw [mem_map]
    by_cases hv : 0 < e.hardTimeout ∧ e.removeAt < now
    · simp [hmem, hv, Entrada.Vence]
    · simp [hmem, hv, Entrada.Vence]
  refine ⟨l, heq, hdirs, hmem, ?_, fun t' ht' => ?_, hspec.enviados, ?_⟩
  · rw [hspec.matchEntries]
    refine filter_congr fun e he => ?_
    rw [decide_eq_decide]
    have hiff : e.dir ∈ l.map (·.1.dir) ↔ ∃ reason, (e, reason) ∈ l := by
      have hkey := mem_map_key_iff hnodup (forall_mem_map.mpr hin) he
      rw [map_map] at hkey
      exact hkey.trans (mem_map.trans (by simp))
    rw [hiff]
    simp only [hmem, he, true_and]
    by_cases hv : 0 < e.hardTimeout ∧ e.removeAt < now
    · simp [hv]
    · simp [hv]
  · rw [hspec.tablas, update_of_ne ht']
  · have hmap : l.map (·.1.instructions.dir) = (l.map (·.1)).map (·.instructions.dir) := by
      rw [map_map]
      rfl
    rw [hspec.libres, ((reverse_perm _).append_right _).nodup_iff, hmap,
      nodup_map_append_iff hentries hlibres]
    simp only [hvence, and_imp]

/-- At 3001 the time of one entry is over, two have been idle for too long, of which one is that
    entry, and one stays. -/
theorem timeout_exact_dosSeVan :
    ∃ d : Dp (Option Nat) Nat Nat,
      Run (Dp.paso soloGrupos) (fun _ _ => True) (.create 0) d ∧
      ((d.flowTableTimeout tabla0 3001).tablas tabla0).matchEntries.map (·.mtch.fields) =
        [some 1] ∧
      (d.flowTableTimeout tabla0 3001).enviados.map (fun m => (m.stats.mtch.fields, m.reason)) =
        [(some 3, .hardTimeout), (some 2, .idleTimeout)] ∧
      (d.flowTableTimeout tabla0 3001).libres.Nodup ∧
      ∃ l, d.flowTableTimeout tabla0 3001 = d.bajas tabla0 3001 l ∧ (l.map (·.1.dir)).Nodup ∧
        ∀ e reason, (e, reason) ∈ l ↔ e ∈ (d.tablas tabla0).matchEntries ∧
          if 0 < e.hardTimeout ∧ e.removeAt < 3001 then reason = .hardTimeout
          else (0 < e.idleTimeout ∧ e.lastUsed + 1000 * e.idleTimeout < 3001) ∧
            reason = .idleTimeout := by
  obtain ⟨d, hrun, hquedan, henviados, hlibres, hcond⟩ := Run.exists_exec
    (Dp.paso soloGrupos) (fun _ _ => True)
    [.flowMod tabla0 (flowMod .add (some 1) 5 3 9 []) 0,
      .flowMod tabla0 (flowMod .add (some 2) 5 3 5 []) 0,
      .flowMod tabla0 (flowMod .add (some 3) 5 3 3 []) 0,
      .lookup tabla0 1 1000]
    (.create 0 : Dp (Option Nat) Nat Nat)
    (fun d =>
      ((d.flowTableTimeout tabla0 3001).tablas tabla0).matchEntries.map (·.mtch.fields) =
        [some 1] ∧
      (d.flowTableTimeout tabla0 3001).enviados.map (fun m => (m.stats.mtch.fields, m.reason)) =
        [(some 3, .hardTimeout), (some 2, .idleTimeout)] ∧
      d.libres.Nodup ∧
      ∀ x ∈ (d.tablas tabla0).matchEntries, x.Vence 3001 →
        x.instructions.dir ∉ d.libres ∧
        ∀ e ∈ (d.tablas tabla0).matchEntries, e.Vence 3001 →
          e.instructions.dir = x.instructions.dir → e = x)
    (by decide)
  obtain ⟨l, heq, hdirs, hmem, _, _, _, hiff⟩ := timeout_exact hrun hlibres tabla0 3001
  exact ⟨d, hrun, hquedan, henviados, hiff.mpr hcond, l, heq, hdirs, hmem⟩

/-- Two entries that a MODIFY gives one array expire together, and the array is freed twice. -/
theorem timeout_exact_fails :
    ∃ d : Dp (Option Nat) Nat Nat,
      Run (Dp.paso soloGrupos) (fun _ _ => True) (.create 0) d ∧
      d.libres.Nodup ∧ (d.tablas tabla0).matchEntries.length = 2 ∧
      (∀ e ∈ (d.tablas tabla0).matchEntries, e.Vence 3001 ∧ e.instructions.dir ∉ d.libres) ∧
      ¬(d.flowTableTimeout tabla0 3001).libres.Nodup :=
  Run.exists_exec _ _
    [.flowMod tabla0 (flowMod .add (some 1) 5 0 3 []) 0,
      .flowMod tabla0 (flowMod .add (some 2) 5 0 3 []) 0,
      .flowMod tabla0 (flowMod .modify none 0 0 0 [.applyActions [7]]) 10] _ _ (by decide)

/-! ## 4. MODIFY and DELETE -/

/-- The commands that remove entries. -/
def FlowModCommand.borra : FlowModCommand → Bool
  | .delete | .deleteStrict => true
  | _ => false

/-- The commands on one entry. -/
def FlowModCommand.estricto : FlowModCommand → Bool
  | .modifyStrict | .deleteStrict => true
  | _ => false

/-- The entries a MODIFY or a DELETE is for. -/
def Entrada.objetivo (env : Entorno Mt Ac P) (mod : FlowMod Mt Ac) (e : Entrada Mt Ac) : Bool :=
  (!FlowModCommand.borra mod.command || tieneSalida env.toOpenFlow e.toFlowEntry mod) &&
    flowEntryMatches env.toOpenFlow e.toFlowEntry mod (FlowModCommand.estricto mod.command) true

/-- What a MODIFY or a DELETE makes of an entry. -/
def Entrada.tras (env : Entorno Mt Ac P) (mod : FlowMod Mt Ac) (arr : Arreglo Ac)
    (e : Entrada Mt Ac) : Option (Entrada Mt Ac) :=
  if e.objetivo env mod then
    if FlowModCommand.borra mod.command then none else some (e.modifica env mod arr)
  else some e

namespace Dp

variable {d d' : Dp Mt Ac Bd} {t : Fin pipelineTables} {now : Nat}

structure TrasObjetivos (env : Entorno Mt Ac P) (t : Fin pipelineTables) (mod : FlowMod Mt Ac)
    (arr : Arreglo Ac) (now : Nat) (d d' : Dp Mt Ac Bd) : Prop where
  /-- The targets go or get the instructions; the others are as they were and where they were. -/
  lista : (d'.tablas t).matchEntries = (d.tablas t).matchEntries.filterMap (·.tras env mod arr)
  hardEntries : (d'.tablas t).hardEntries = (d.tablas t).hardEntries.filter fun node =>
    (d'.tablas t).matchEntries.any (·.dir == node.dir)
  idleEntries : (d'.tablas t).idleEntries = (d.tablas t).idleEntries.filter fun dir =>
    (d'.tablas t).matchEntries.any (·.dir == dir)
  otras : ∀ t', t' ≠ t → d'.tablas t' = d.tablas t'
  enviados : d'.enviados = d.enviados ++
    if FlowModCommand.borra mod.command then
      ((d.tablas t).matchEntries.filter fun e => e.objetivo env mod && e.sendRemoved).map
        (·.flowRemoved .delete now)
    else []
  refs : ∀ p : FlowPtr,
    (∀ e ∈ (d.tablas t).matchEntries, e.objetivo env mod = true → p ≠ ⟨t, e.dir⟩) →
      d'.groups.conocen p = d.groups.conocen p ∧ d'.meters.conocen p = d.meters.conocen p
  /-- The arrays of the targets are freed, one `free` for each target. -/
  libres : d'.libres ~
    ((d.tablas t).matchEntries.filter (·.objetivo env mod)).map (·.instructions.dir) ++ d.libres

variable {env : Entorno Mt Ac P} {mod : FlowMod Mt Ac}

theorem filterMap_tras_borra (arr : Arreglo Ac) (hc : FlowModCommand.borra mod.command = true)
    (l : List (Entrada Mt Ac)) :
    l.filterMap (·.tras env mod arr) = l.filter fun e => !e.objetivo env mod := by
  rw [← filterMap_eq_filter]
  refine filterMap_congr fun e _ => ?_
  unfold Entrada.tras
  cases h : e.objetivo env mod with
  | true => simp [Option.guard, h, hc]
  | false => simp [Option.guard, h]

theorem filterMap_tras_modifica (arr : Arreglo Ac) (hc : FlowModCommand.borra mod.command = false)
    (l : List (Entrada Mt Ac)) :
    l.filterMap (·.tras env mod arr) =
      l.map fun e => if e.objetivo env mod then e.modifica env mod arr else e := by
  rw [← filterMap_eq_map]
  refine filterMap_congr fun e _ => ?_
  unfold Entrada.tras
  cases h : e.objetivo env mod with
  | true => simp [h, hc]
  | false => simp [h]

theorem Sana.exists_of_hardEntries (hs : d.Sana) {node : HardNode}
    (h : node ∈ (d.tablas t).hardEntries) : ∃ e ∈ (d.tablas t).matchEntries, e.dir = node.dir := by
  obtain ⟨n, hn, rfl⟩ := mem_map.mp ((hs.tabla t).vencen.mem_iff.mp h)
  obtain ⟨e, he, rfl⟩ := mem_map.mp (mem_of_mem_filter hn)
  exact ⟨e, he, rfl⟩

theorem Sana.exists_of_idleEntries (hs : d.Sana) {dir : Nat}
    (h : dir ∈ (d.tablas t).idleEntries) : ∃ e ∈ (d.tablas t).matchEntries, e.dir = dir := by
  obtain ⟨n, hn, rfl⟩ := mem_map.mp ((hs.tabla t).ociosas.mem_iff.mp h)
  obtain ⟨e, he, rfl⟩ := mem_map.mp (mem_of_mem_filter hn)
  exact ⟨e, he, rfl⟩

theorem flowTableDelete_eq_bajas (env : Entorno Mt Ac P) (t : Fin pipelineTables)
    (mod : FlowMod Mt Ac) (strict : Bool) (now : Nat) (d : Dp Mt Ac Bd) :
    d.flowTableDelete env t mod strict now =
      d.bajas t now (((d.tablas t).matchEntries.filter fun e =>
        tieneSalida env.toOpenFlow e.toFlowEntry mod &&
          flowEntryMatches env.toOpenFlow e.toFlowEntry mod strict true).map (·, .delete)) := by
  rw [bajas, foldl_map, foldl_filter]
  rfl

/-- **A DELETE.** -/
theorem Sana.tras_delete (hs : d.Sana) (arr : Arreglo Ac)
    (hc : FlowModCommand.borra mod.command = true) :
    TrasObjetivos env t mod arr now d
      (d.flowTableDelete env t mod (FlowModCommand.estricto mod.command) now) := by
  have hnodup := hs.nodup_dirs t
  let borradas := (d.tablas t).matchEntries.filter (·.objetivo env mod)
  have heq : d.flowTableDelete env t mod (FlowModCommand.estricto mod.command) now =
      d.bajas t now (borradas.map (·, .delete)) := by
    rw [flowTableDelete_eq_bajas]
    refine congrArg (fun l => d.bajas t now (List.map _ l)) (filter_congr fun e _ => ?_)
    unfold Entrada.objetivo
    rw [hc]
    rfl
  have hmap : (borradas.map (·, Reason.delete)).map (·.1.dir) = borradas.map (·.dir) :=
    map_map
  have hspec := bajas_spec (l := borradas.map (·, Reason.delete)) hnodup
    (hmap ▸ (filter_sublist.map _).nodup hnodup)
    (forall_mem_map.mpr fun _ he => mem_of_mem_filter he) now
  rw [← heq] at hspec
  have hdirs : ∀ e ∈ (d.tablas t).matchEntries,
      (e.dir ∈ borradas.map (·.dir) ↔ e.objetivo env mod = true) := by
    intro e he
    rw [mem_map_key_iff hnodup (fun _ => mem_of_mem_filter) he, mem_filter]
    exact and_iff_right he
  have hlista : ((d.flowTableDelete env t mod (FlowModCommand.estricto mod.command) now).tablas
      t).matchEntries = (d.tablas t).matchEntries.filter fun e => !e.objetivo env mod := by
    rw [hspec.matchEntries, hmap]
    refine filter_congr fun e he => ?_
    have hiff := hdirs e he
    cases hq : e.objetivo env mod with
    | true => exact decide_eq_false (not_not.mpr (hiff.mpr hq))
    | false =>
      refine decide_eq_true fun hmem => ?_
      rw [hiff.mp hmem] at hq
      cases hq
  -- of the entries there were, those that stay are those that are not removed
  have hquedan : ∀ dir, (∃ e ∈ (d.tablas t).matchEntries, e.dir = dir) →
      decide (dir ∉ borradas.map (·.dir)) = ((d.tablas t).matchEntries.filter fun e =>
        !e.objetivo env mod).any (·.dir == dir) := by
    intro dir ⟨e, he, hdir⟩
    subst hdir
    rw [Bool.eq_iff_iff, decide_eq_true_eq, hdirs e he, any_eq_true]
    constructor
    · intro hno
      exact ⟨e, mem_filter.mpr ⟨he, by simpa using hno⟩, beq_self_eq_true _⟩
    · intro ⟨x, hx, hxe⟩
      obtain ⟨hx, hno⟩ := mem_filter.mp hx
      rw [← inj_on_of_nodup_map hnodup hx he (eq_of_beq hxe)]
      simpa using hno
  refine ⟨?_, ?_, ?_, fun t' ht' => ?_, ?_, fun p hp => ?_, ?_⟩
  · rw [hlista, filterMap_tras_borra arr hc]
  · rw [hlista, hspec.tablas, update_self, hmap]
    exact filter_congr fun node hnode =>
      hquedan node.dir (hs.exists_of_hardEntries hnode)
  · rw [hlista, hspec.tablas, update_self, hmap]
    exact filter_congr fun dir hdir => hquedan dir (hs.exists_of_idleEntries hdir)
  · rw [hspec.tablas, update_of_ne ht']
  · rw [hspec.enviados, if_pos hc, filter_map, map_map, filter_filter]
    refine congrArg (fun l => d.enviados ++ List.map _ l) (filter_congr fun e _ => ?_)
    exact Bool.and_comm _ _
  · have hptr : ∀ x ∈ borradas.map (·, Reason.delete), p ≠ ⟨t, x.1.dir⟩ := by
      intro x hx
      obtain ⟨e, he, rfl⟩ := mem_map.mp hx
      obtain ⟨he, hq⟩ := mem_filter.mp he
      exact hp e he hq
    exact ⟨hspec.grupos p hptr, hspec.metros p hptr⟩
  · rw [hspec.libres, map_map]
    exact (reverse_perm _).append_right _

theorem conocen_modifyFrom {arr : Arreglo Ac} {strict : Bool} {p : FlowPtr}
    {l : List (Entrada Mt Ac)}
    (hp : ∀ e ∈ l, flowEntryMatches env.toOpenFlow e.toFlowEntry mod strict true = true →
      p ≠ ⟨t, e.dir⟩) (groups : RefTable (Bucket Ac)) :
    (modifyFrom env t mod arr strict l groups).2.conocen p = groups.conocen p := by
  induction l generalizing groups with
  | nil => rfl
  | cons e l ih =>
    obtain ⟨he, hp⟩ := forall_mem_cons.mp hp
    rw [modifyFrom]
    split
    · rename_i hm
      exact (ih hp _).trans ((RefTable.conocen_addRefs (he hm) _ _).trans
        (RefTable.conocen_delRefs (he hm) _ _))
    · exact ih hp groups

/-- **A MODIFY.** -/
theorem Sana.tras_modify (hs : d.Sana) (arr : Arreglo Ac)
    (hc : FlowModCommand.borra mod.command = false) :
    TrasObjetivos env t mod arr now d
      (d.flowTableModify env t mod arr (FlowModCommand.estricto mod.command)) := by
  have hobj : ∀ e : Entrada Mt Ac, e.objetivo env mod = flowEntryMatches env.toOpenFlow
      e.toFlowEntry mod (FlowModCommand.estricto mod.command) true := by
    intro e
    unfold Entrada.objetivo
    rw [hc]
    rfl
  have hlista : ((d.flowTableModify env t mod arr (FlowModCommand.estricto mod.command)).tablas
      t).matchEntries = (d.tablas t).matchEntries.filterMap (·.tras env mod arr) := by
    rw [filterMap_tras_modifica arr hc]
    unfold flowTableModify
    rw [tablas_conTabla_self]
    simp only [modifyFrom_fst, hobj]
  have hdirs : ∀ dir, (∃ e ∈ (d.tablas t).matchEntries, e.dir = dir) →
      ((d.flowTableModify env t mod arr (FlowModCommand.estricto mod.command)).tablas
        t).matchEntries.any (·.dir == dir) = true := by
    intro dir ⟨e, he, hdir⟩
    rw [hlista, filterMap_tras_modifica arr hc, any_map, any_eq_true]
    refine ⟨e, he, ?_⟩
    show ((if _ then _ else _ : Entrada Mt Ac).dir == dir) = true
    split <;> exact beq_iff_eq.mpr hdir
  have htabla : (d.flowTableModify env t mod arr (FlowModCommand.estricto mod.command)).tablas t =
      { d.tablas t with
        matchEntries := (modifyFrom env t mod arr (FlowModCommand.estricto mod.command)
          (d.tablas t).matchEntries d.groups).1 } := by
    unfold flowTableModify
    rw [tablas_conTabla_self]
  refine ⟨hlista, ?_, ?_, fun t' ht' => ?_, ?_, fun p hp => ⟨?_, rfl⟩, ?_⟩
  · rw [filter_eq_self.mpr fun node hnode =>
      hdirs node.dir (hs.exists_of_hardEntries hnode), htabla]
  · rw [filter_eq_self.mpr fun dir hdir =>
      hdirs dir (hs.exists_of_idleEntries hdir), htabla]
  · unfold flowTableModify
    rw [tablas_conTabla_of_ne ht']
  · rw [hc]
    exact (append_nil _).symm
  · exact conocen_modifyFrom (fun e he hm => hp e he ((hobj e).trans hm)) d.groups
  · show modifyLibera env mod _ _ ++ d.libres ~ _
    unfold modifyLibera
    rw [filter_congr fun e _ => hobj e]

end Dp

theorem Dp.flowTableFlowMod_ok {d' : Dp Mt Ac Bd} {t : Fin pipelineTables} (hc : mod.command ≠ .add)
    (hd : d.flowTableFlowMod env t mod arr now = .ok d') :
    d' = if FlowModCommand.borra mod.command
      then d.flowTableDelete env t mod (FlowModCommand.estricto mod.command) now
      else d.flowTableModify env t mod arr (FlowModCommand.estricto mod.command) := by
  unfold flowTableFlowMod at hd
  cases hm : mod.command with
  | add => exact absurd hm hc
  | otro n =>
    rw [hm] at hd
    cases hd
  | _ =>
    rw [hm] at hd
    cases hd
    rfl

end TcpPath.Udatapath
