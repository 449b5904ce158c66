/-
  Subject:   The loop over the flow tables ends, if the controller sees to it.

  Results:   `lazo_termina`: the loop over the tables ends.
-/
import TcpPath.OpenFlow.FlowTables
import TcpPath.Util.Runs

namespace TcpPath

open Util List Pipeline

/-! ## 1. The arrays of a pipeline -/

section Arreglos

variable {Mt Ac P : Type} {of : OpenFlow Mt Ac P}

/-- The arrays the entries of a table point to. -/
def dirs (table : FlowTable Mt Ac) : List Nat := table.map (·.instructions.dir)

def Pipeline.dirs (pl : Pipeline Mt Ac) : List Nat := pl.tables.flatMap TcpPath.dirs

/-- The entries of `table` that get the array of a flow-mod. -/
def FlowMod.reparte (of : OpenFlow Mt Ac P) (mod : FlowMod Mt Ac) (table : FlowTable Mt Ac) : Nat :=
  match mod.command with
  | .add => 1
  | .modify => table.countP (flowEntryMatches of · mod false true)
  | .modifyStrict => table.countP (flowEntryMatches of · mod true true)
  | _ => 0

/-- What a change makes of `table`: entries come from it or have the array `arr`, and of the
    arrays that were there or came in (`n` times `arr`) none is lost, as those that go are freed. -/
structure Cambio (arr : Arreglo Ac) (n : Nat) (table : FlowTable Mt Ac)
    (r : FlowTable Mt Ac × List Nat) : Prop where
  entradas : ∀ e ∈ r.1, e ∈ table ∨ (e.instructions = arr ∧ 0 < n)
  arreglos : (dirs r.1 ++ r.2).Perm (List.replicate n arr.dir ++ dirs table)

variable {mod : FlowMod Mt Ac} {arr : Arreglo Ac} {table : FlowTable Mt Ac}
  {r : FlowTable Mt Ac × List Nat}

theorem addFrom_cambio {overlap : Bool} {active : Nat}
    (h : addFrom of mod arr overlap active table = .ok r) : Cambio arr 1 table r := by
  induction table generalizing r with
  | nil =>
    rw [addFrom] at h
    split at h
    · cases h
    · cases h
      refine ⟨fun e he => .inr ⟨?_, Nat.one_pos⟩, .refl _⟩
      rw [mem_singleton.mp he]
      rfl
  | cons entry rest ih =>
    rw [addFrom] at h
    split at h
    · cases h
    split at h
    · -- the old entry of the same match goes, its array with it
      cases h
      refine ⟨fun e he => ?_, ?_⟩
      · rcases mem_cons.mp he with rfl | he
        · exact .inr ⟨rfl, Nat.one_pos⟩
        · exact .inl (mem_cons_of_mem _ he)
      · exact .cons _ (perm_append_singleton _ _)
    split at h
    · split at h
      · cases h
      · cases h
        refine ⟨fun e he => ?_, ?_⟩
        · rcases mem_cons.mp he with rfl | he
          · exact .inr ⟨rfl, Nat.one_pos⟩
          · exact .inl he
        · rw [append_nil]
          exact .refl _
    · cases hr : addFrom of mod arr overlap active rest with
      | error e =>
        rw [hr] at h
        cases h
      | ok r' =>
        rw [hr] at h
        cases h
        obtain ⟨hent, harr⟩ := ih hr
        refine ⟨fun e he => ?_, ?_⟩
        · rcases mem_cons.mp he with rfl | he
          · exact .inl mem_cons_self
          · exact (hent e he).imp (mem_cons_of_mem _) id
        · exact (harr.cons _).trans (.swap _ _ _)

theorem flowTableModify_cambio (of : OpenFlow Mt Ac P) (mod : FlowMod Mt Ac) (arr : Arreglo Ac)
    (strict : Bool) (table : FlowTable Mt Ac) :
    Cambio arr (table.countP (flowEntryMatches of · mod strict true)) table
      (flowTableModify of table mod arr strict) := by
  refine ⟨fun e he => ?_, ?_⟩
  · obtain ⟨e0, he0, rfl⟩ := mem_map.mp he
    split
    · rename_i hm
      exact .inr ⟨rfl, countP_pos_iff.mpr ⟨e0, he0, hm⟩⟩
    · exact .inl he0
  · induction table with
    | nil => exact .refl _
    | cons entry rest ih =>
      simp only [flowTableModify, dirs, map_cons] at ih ⊢
      by_cases hm : flowEntryMatches of entry mod strict true = true
      · rw [if_pos hm, filter_cons, if_pos hm, countP_cons, if_pos hm,
          replicate_succ, map_cons]
        -- the array of the entry is freed, that of the message takes its place
        exact .cons _ (perm_middle.trans ((ih.cons _).trans perm_middle.symm))
      · rw [if_neg hm, filter_cons, if_neg hm, countP_cons, if_neg hm]
        exact (ih.cons _).trans perm_middle.symm

theorem flowTableRemove_cambio (arr : Arreglo Ac) (table : FlowTable Mt Ac)
    (quita : FlowEntry Mt Ac → Bool) : Cambio arr 0 table (flowTableRemove table quita) := by
  refine ⟨fun e he => .inl (mem_of_mem_filter he), ?_⟩
  have hp := (perm_append_comm.trans (filter_append_perm quita table)).map
    fun e : FlowEntry Mt Ac => e.instructions.dir
  rw [map_append] at hp
  exact hp

theorem flowTableFlowMod_cambio (h : flowTableFlowMod of table mod arr = .ok r) :
    Cambio arr (mod.reparte of table) table r := by
  unfold flowTableFlowMod at h
  unfold FlowMod.reparte
  cases hc : mod.command with
  | add =>
    rw [hc] at h
    exact addFrom_cambio h
  | modify =>
    rw [hc] at h
    cases h
    exact flowTableModify_cambio of mod arr false table
  | modifyStrict =>
    rw [hc] at h
    cases h
    exact flowTableModify_cambio of mod arr true table
  | delete =>
    rw [hc] at h
    cases h
    exact flowTableRemove_cambio arr table _
  | deleteStrict =>
    rw [hc] at h
    cases h
    exact flowTableRemove_cambio arr table _
  | otro n =>
    rw [hc] at h
    cases h

namespace Pipeline

variable {pl : Pipeline Mt Ac} {t : Nat}

theorem dirs_pon (ht : t < pl.tables.length) (r : FlowTable Mt Ac × List Nat) :
    (pl.pon t r).dirs.Perm (TcpPath.dirs r.1 ++ (pl.tables.eraseIdx t).flatMap TcpPath.dirs) :=
  (set_perm_cons_eraseIdx ht r.1).flatMap_right _

theorem dirs_table (ht : t < pl.tables.length) :
    pl.dirs.Perm (TcpPath.dirs (pl.table t) ++ (pl.tables.eraseIdx t).flatMap TcpPath.dirs) := by
  rw [table, getD_eq_getElem _ _ ht]
  exact (getElem_cons_eraseIdx_perm ht).symm.flatMap_right _

theorem table_pon (ht : t < pl.tables.length) (r : FlowTable Mt Ac × List Nat) (t' : Nat) :
    (pl.pon t r).table t' = if t = t' then r.1 else pl.table t' := by
  rw [table, pon, getD_eq_getElem?_getD, getElem?_set]
  by_cases h : t = t'
  · rw [if_pos h, if_pos ht, if_pos h]
    rfl
  · rw [if_neg h, if_neg h, table, getD_eq_getElem?_getD]

theorem dirs_libres_pon (ht : t < pl.tables.length) {r : FlowTable Mt Ac × List Nat}
    {nuevas : List Nat}
    (hr : (TcpPath.dirs r.1 ++ r.2).Perm (nuevas ++ TcpPath.dirs (pl.table t))) :
    ((pl.pon t r).dirs ++ (pl.pon t r).libres).Perm (nuevas ++ (pl.dirs ++ pl.libres)) := by
  let otras := (pl.tables.eraseIdx t).flatMap TcpPath.dirs
  calc ((pl.pon t r).dirs ++ (r.2 ++ pl.libres)).Perm
        ((TcpPath.dirs r.1 ++ otras) ++ (r.2 ++ pl.libres)) := (dirs_pon ht r).append_right _
    _ |>.Perm ((TcpPath.dirs r.1 ++ r.2) ++ (otras ++ pl.libres)) := by
        rw [append_assoc, append_assoc]
        exact (perm_append_comm_assoc ..).append_left _
    _ |>.Perm ((nuevas ++ TcpPath.dirs (pl.table t)) ++ (otras ++ pl.libres)) :=
        hr.append_right _
    _ |>.Perm (nuevas ++ (pl.dirs ++ pl.libres)) := by
        rw [append_assoc, ← append_assoc (TcpPath.dirs _)]
        exact ((dirs_table ht).symm.append_right _).append_left _

end Pipeline

end Arreglos

/-! ## 2. The invariant -/

section Invariante

variable {Mt Ac P : Type} {of : OpenFlow Mt Ac P}

/-- The gotos of an array of table `t` go up, to tables there are. -/
def Arreglo.Sube (arr : Arreglo Ac) (t : Nat) : Prop :=
  ∀ id, Instruction.gotoTable id ∈ arr.lista → t < id ∧ id < pipelineTables

/-- **The invariant**: gotos go up, and no two of the arrays of the entries and the freed ones are
    the same. -/
structure Pipeline.Buena (pl : Pipeline Mt Ac) : Prop where
  num : pl.tables.length = pipelineTables
  sube : ∀ t, ∀ e ∈ pl.table t, e.instructions.Sube t
  distintas : (pl.dirs ++ pl.libres).Nodup
  usadas : ∀ d ∈ pl.dirs ++ pl.libres, d < pl.siguiente

/-- Every array of an entry is as `Q` says for its table. -/
structure Pipeline.Todas (Q : Nat → Arreglo Ac → Prop) (pl : Pipeline Mt Ac) : Prop where
  num : pl.tables.length = pipelineTables
  todas : ∀ t, ∀ e ∈ pl.table t, Q t e.instructions

/-- Every entry has an array of its own, which is not freed. -/
structure Pipeline.Propias (pl : Pipeline Mt Ac) : Prop where
  num : pl.tables.length = pipelineTables
  distintas : (pl.dirs ++ pl.libres).Nodup
  usadas : ∀ d ∈ pl.dirs ++ pl.libres, d < pl.siguiente

variable {pl : Pipeline Mt Ac} {Q : Nat → Arreglo Ac → Prop} {arr : Arreglo Ac} {n t : Nat}
  {r : FlowTable Mt Ac × List Nat} {is : List (Instruction Ac)} {pl' : Pipeline Mt Ac}
  {o : Orden Mt Ac} {pkt : P}

theorem Pipeline.buena_iff : pl.Buena ↔ pl.Todas (fun t arr => arr.Sube t) ∧ pl.Propias :=
  ⟨fun h => ⟨⟨h.num, h.sube⟩, ⟨h.num, h.distintas, h.usadas⟩⟩,
    fun ⟨h, h'⟩ => ⟨h.num, h.todas, h'.distintas, h'.usadas⟩⟩

theorem Pipeline.table_create (t : Nat) : (create : Pipeline Mt Ac).table t = [] := by
  rw [table, create, getD_eq_getElem?_getD, getElem?_replicate]
  split <;> rfl

theorem Pipeline.create_todas (Q : Nat → Arreglo Ac → Prop) :
    (create : Pipeline Mt Ac).Todas Q := by
  refine ⟨length_replicate, fun t e he => ?_⟩
  rw [table_create] at he
  cases he

theorem Pipeline.create_propias : (create : Pipeline Mt Ac).Propias := by
  have hd : (create : Pipeline Mt Ac).dirs = [] := by
    rw [dirs, flatMap_eq_nil_iff]
    intro table ht
    rw [eq_of_mem_replicate ht]
    rfl
  refine ⟨length_replicate, ?_, ?_⟩
  · rw [hd]
    exact nodup_nil
  · rw [hd]
    intro d hmem
    cases hmem

theorem Pipeline.create_buena : (create : Pipeline Mt Ac).Buena :=
  buena_iff.mpr ⟨create_todas _, create_propias⟩

/-- **The step lemma** for what the arrays are: a change of one table, with an array as `Q` says. -/
theorem Pipeline.Todas.pon (hb : pl.Todas Q) (ht : t < pipelineTables)
    (hr : Cambio arr n (pl.table t) r) (harr : 0 < n → Q t arr) : (pl.pon t r).Todas Q := by
  refine ⟨length_set.trans hb.num, fun t' e he => ?_⟩
  rw [table_pon (hb.num ▸ ht)] at he
  split at he
  · rename_i htt
    rw [← htt]
    rcases hr.entradas e he with hold | ⟨hnew, hpos⟩
    · exact hb.todas t e hold
    · rw [hnew]
      exact harr hpos
  · exact hb.todas t' e he

/-- **The step lemma** for whose the arrays are: at most one entry takes the array that comes in,
    which then is new. -/
theorem Pipeline.Propias.pon (hb : pl.Propias) (ht : t < pipelineTables)
    (hr : Cambio arr n (pl.table t) r) (hn : n ≤ 1)
    (harr : 0 < n → arr.dir ∉ pl.dirs ++ pl.libres ∧ arr.dir < pl.siguiente) :
    (pl.pon t r).Propias := by
  have hperm := dirs_libres_pon (hb.num ▸ ht : t < pl.tables.length) hr.arreglos
  have hrep : ∀ d ∈ List.replicate n arr.dir, 0 < n ∧ d = arr.dir := by
    intro d hd
    obtain ⟨h0, hd⟩ := mem_replicate.mp hd
    exact ⟨Nat.pos_of_ne_zero h0, hd⟩
  refine ⟨length_set.trans hb.num, ?_, fun d hd => ?_⟩
  · refine hperm.nodup_iff.mpr (nodup_append.mpr ⟨?_, hb.distintas, fun d hd d' hd' hdd => ?_⟩)
    · exact nodup_replicate.mpr hn
    · obtain ⟨hpos, rfl⟩ := hrep d hd
      exact (harr hpos).1 (hdd ▸ hd')
  · rcases mem_append.mp (hperm.mem_iff.mp hd) with hd | hd
    · obtain ⟨hpos, rfl⟩ := hrep d hd
      exact (harr hpos).2
    · exact hb.usadas d hd

/-- One more number taken. -/
def Pipeline.toma (pl : Pipeline Mt Ac) : Pipeline Mt Ac :=
  { pl with siguiente := pl.siguiente + 1 }

theorem Pipeline.Propias.toma (hb : pl.Propias) : pl.toma.Propias :=
  ⟨hb.num, hb.distintas, fun d hd => Nat.lt_succ_of_lt (hb.usadas d hd)⟩

/-- What the code does not check: at most one entry takes the array of the message, and if one
    does, the gotos go up. -/
structure FlowMod.Segura (of : OpenFlow Mt Ac P) (pl : Pipeline Mt Ac) (mod : FlowMod Mt Ac) :
    Prop where
  una : mod.reparte of (pl.table mod.tableId) ≤ 1
  sube : 0 < mod.reparte of (pl.table mod.tableId) →
    ∀ id, Instruction.gotoTable id ∈ mod.instructions → mod.tableId < id

theorem mem_ordena {i : Instruction Ac} : i ∈ ordena is ↔ i ∈ is :=
  mem_insertionSort _

theorem acotadas_ordena (h : Acotadas is) : Acotadas (ordena is) :=
  fun id hid => h id (mem_ordena.mp hid)

section Paso

variable {I : Pipeline Mt Ac → Prop} {pl pl' : Pipeline Mt Ac}
  (hquita : ∀ pl arr t r, t < pipelineTables → Cambio arr 0 (pl.table t) r → I pl → I (pl.pon t r))
include hquita

theorem borraTodas_cases {mod : FlowMod Mt Ac} {arr : Arreglo Ac}
    (hmod : ∀ table, mod.reparte of table = 0) {ts : List Nat}
    (hts : ∀ t ∈ ts, t < pipelineTables) (hb : I pl)
    (h : ts.foldlM (fun pl t => (flowTableFlowMod of (pl.table t) mod arr).map (pl.pon t)) pl =
      .ok pl') : I pl' := by
  refine foldlM_invariant (I := I) (fun pl t pl' ht hpl hr => ?_) hb h
  cases htab : flowTableFlowMod of (pl.table t) mod arr with
  | error e =>
    rw [htab] at hr
    cases hr
  | ok r =>
    rw [htab] at hr
    cases hr
    have hc := flowTableFlowMod_cambio htab
    rw [hmod] at hc
    exact hquita pl arr t r (hts t ht) hc hpl

theorem pipelineHandleFlowMod_cases {slave : Bool} {mod : FlowMod Mt Ac}
    (htab : mod.tableId < pipelineTables ∨ mod.tableId = ofpttAll) (htoma : I pl.toma)
    (hpon : ∀ r, mod.tableId < pipelineTables →
      Cambio ⟨pl.siguiente, ordena mod.instructions⟩ (mod.reparte of (pl.table mod.tableId))
        (pl.table mod.tableId) r → I (pl.toma.pon mod.tableId r))
    (h : pipelineHandleFlowMod of slave pl mod = .ok pl') : I pl' := by
  unfold pipelineHandleFlowMod at h
  split at h
  · cases h
  dsimp only at h
  split at h
  · cases h
  split at h
  · split at h
    · rename_i hcmd
      refine borraTodas_cases hquita (fun table => ?_) (fun t => mem_range.mp) htoma h
      unfold FlowMod.reparte
      rcases hcmd with hc | hc <;> rw [hc]
    · cases h
  · rename_i hall
    cases hr : flowTableFlowMod of (pl.table mod.tableId) mod
        ⟨pl.siguiente, ordena mod.instructions⟩ with
    | error e =>
      rw [table] at hr
      rw [table, hr] at h
      cases h
    | ok r =>
      have hc := flowTableFlowMod_cambio hr
      rw [table] at hr
      rw [table, hr] at h
      cases h
      exact hpon r (htab.resolve_right hall) hc

/-- **What an event does to the tables**: nothing, or the changes that delete, or the change of a
    flow-mod with the next array. What these keep, every event keeps. -/
theorem Pipeline.paso_cases {o : Orden Mt Ac} (h : pl.paso of o = some pl') (hb : I pl)
    (htoma : I pl → I pl.toma)
    (hpon : ∀ slave buf mod r, o = .flowMod slave buf → flowModUnpack of buf = pure mod →
      mod.tableId < pipelineTables → Acotadas mod.instructions →
      Cambio ⟨pl.siguiente, ordena mod.instructions⟩ (mod.reparte of (pl.table mod.tableId))
        (pl.table mod.tableId) r → I (pl.toma.pon mod.tableId r)) : I pl' := by
  cases o with
  | flowMod slave buf =>
    rw [paso] at h
    cases hm : (flowModUnpack of buf).run with
    | none =>
      rw [hm] at h
      cases h
    | some x =>
      rw [hm] at h
      cases x with
      | error e =>
        cases h
        exact hb
      | ok mod =>
        have hmod : flowModUnpack of buf = pure mod := hm
        obtain ⟨htab, hac⟩ := flowModUnpack_acotado hmod
        cases hf : pipelineHandleFlowMod of slave pl mod with
        | error e =>
          simp only [hf] at h
          cases h
          exact hb
        | ok pl'' =>
          simp only [hf] at h
          cases h
          exact pipelineHandleFlowMod_cases hquita htab (htoma hb)
            (fun r ht hr => hpon slave buf mod r rfl hmod ht hac hr) hf
  | retira t quita =>
    rw [paso] at h
    split at h
    · rename_i ht
      cases h
      exact hquita pl ⟨0, []⟩ t _ ht (flowTableRemove_cambio ⟨0, []⟩ (pl.table t) quita) hb
    · cases h

end Paso

theorem Pipeline.Todas.paso (hb : pl.Todas Q) (h : pl.paso of o = some pl')
    (hQ : ∀ slave buf mod, o = .flowMod slave buf → flowModUnpack of buf = pure mod →
      0 < mod.reparte of (pl.table mod.tableId) → Acotadas mod.instructions →
      Q mod.tableId ⟨pl.siguiente, ordena mod.instructions⟩) : pl'.Todas Q := by
  refine paso_cases (I := Todas Q) (fun pl arr t r ht hr hpl => ?_) h hb
    (fun hb => ⟨hb.num, hb.todas⟩) fun slave buf mod r ho hmod ht hac hr => ?_
  · exact hpl.pon ht hr fun h => absurd h (Nat.lt_irrefl 0)
  · exact (⟨hb.num, hb.todas⟩ : pl.toma.Todas Q).pon ht hr fun hpos =>
      hQ slave buf mod ho hmod hpos hac

theorem Pipeline.Propias.paso (hb : pl.Propias) (h : pl.paso of o = some pl')
    (huna : ∀ slave buf mod, o = .flowMod slave buf → flowModUnpack of buf = pure mod →
      mod.reparte of (pl.table mod.tableId) ≤ 1) : pl'.Propias := by
  refine paso_cases (I := Propias) (fun pl arr t r ht hr hpl => ?_) h hb
    (fun hb => hb.toma) fun slave buf mod r ho hmod ht hac hr => ?_
  · exact hpl.pon ht hr (Nat.zero_le 1) fun h => absurd h (Nat.lt_irrefl 0)
  · exact hb.toma.pon ht hr (huna slave buf mod ho hmod) fun _ =>
      ⟨fun hold => Nat.lt_irrefl _ (hb.usadas _ hold), Nat.lt_succ_self _⟩

/-- The events of a run that keeps to what the code does not check. -/
def Permitida (of : OpenFlow Mt Ac P) (pl : Pipeline Mt Ac) : Orden Mt Ac → Prop
  | .flowMod _ buf => ∀ mod, flowModUnpack of buf = pure mod → mod.Segura of pl
  | .retira _ _ => True

theorem Pipeline.Buena.paso (hb : pl.Buena) (ho : Permitida of pl o) (h : pl.paso of o = some pl') :
    pl'.Buena := by
  obtain ⟨htodas, hprop⟩ := buena_iff.mp hb
  refine buena_iff.mpr ⟨htodas.paso h ?_, hprop.paso h ?_⟩
  · rintro slave buf mod rfl hmod hpos hac id hid
    have hid := mem_ordena.mp hid
    exact ⟨(ho mod hmod).sube hpos id hid, hac id hid⟩
  · rintro slave buf mod rfl hmod
    exact (ho mod hmod).una

/-! ## 3. The loop ends -/

theorem executeEntry_next (of : OpenFlow Mt Ac P) (cookie : Nat) (is : List (Instruction Ac))
    (next : Option Nat) (pkt : P) :
    (executeEntry of cookie is next pkt).1 = next ∨
      ∃ id, Instruction.gotoTable id ∈ is ∧ (executeEntry of cookie is next pkt).1 = some id := by
  induction is generalizing next pkt with
  | nil => exact .inl rfl
  | cons i is ih =>
    have hsub : ∀ next' pkt', (executeEntry of cookie is next' pkt').1 = next' ∨
        ∃ id, Instruction.gotoTable id ∈ i :: is ∧
          (executeEntry of cookie is next' pkt').1 = some id := fun next' pkt' =>
      (ih next' pkt').imp_right fun ⟨id, hid, he⟩ => ⟨id, mem_cons_of_mem _ hid, he⟩
    cases i with
    | gotoTable id =>
      right
      rcases hsub (some id) pkt with he | he
      · exact ⟨id, mem_cons_self, he⟩
      · exact he
    | writeMetadata m k => exact hsub next _
    | writeActions as => exact hsub next _
    | applyActions as => exact hsub next _
    | clearActions => exact hsub next _
    | meter id =>
      rw [executeEntry]
      split
      · exact hsub next _
      · exact .inl rfl

theorem pasoTabla_next {x : Nat × P} (h : pasoTabla of pl t pkt = .inr x) :
    ∃ e ∈ pl.table t, .gotoTable x.1 ∈ e.instructions.lista := by
  unfold pasoTabla at h
  dsimp only at h
  cases hl : flowTableLookup of (pl.table t) (of.ponTabla t pkt) with
  | none =>
    rw [hl] at h
    cases h
  | some e =>
    rw [hl] at h
    dsimp only at h
    split at h
    · cases h
    · have hnext := executeEntry_next of e.cookie e.instructions.lista none
        (of.ponMiss (isTableMiss e) (of.ponTabla t pkt))
      split at h
      · cases h
      · cases h
      · rename_i next pkt' hx
        cases h
        rw [hx] at hnext
        rcases hnext with hn | ⟨id, hid, hn⟩
        · cases hn
        · cases hn
          exact ⟨e, mem_of_find?_eq_some hl, hid⟩

theorem pasoTabla_liberadas (h : pasoTabla of pl t pkt = .inl .liberadas) :
    ∃ e ∈ pl.table t, pl.libres.contains e.instructions.dir = true := by
  unfold pasoTabla at h
  dsimp only at h
  cases hl : flowTableLookup of (pl.table t) (of.ponTabla t pkt) with
  | none =>
    rw [hl] at h
    cases h
  | some e =>
    rw [hl] at h
    dsimp only at h
    split at h
    · rename_i hlib
      exact ⟨e, mem_of_find?_eq_some hl, hlib⟩
    · split at h <;> cases h

theorem Pipeline.Propias.vivo (hb : pl.Propias) {e : FlowEntry Mt Ac} (he : e ∈ pl.table t) :
    pl.libres.contains e.instructions.dir = false := by
  rw [← Bool.not_eq_true, contains_iff_mem]
  intro hl
  have ht : t < pl.tables.length := by
    by_contra hge
    rw [table, getD_eq_default _ _ (Nat.le_of_not_lt hge)] at he
    cases he
  have hd : e.instructions.dir ∈ pl.dirs :=
    (dirs_table ht).mem_iff.mpr (mem_append_left _ (mem_map_of_mem he))
  exact (nodup_append.mp hb.distintas).2.2 _ hd _ hl rfl

namespace Pipeline.Buena

variable {pl : Pipeline Mt Ac} (hb : pl.Buena)
include hb

theorem pasoTabla_spec (of : OpenFlow Mt Ac P) (t : Nat) (pkt : P) :
    (∃ s, pasoTabla of pl t pkt = .inl s ∧ s ≠ .liberadas) ∨
      ∃ t' pkt', pasoTabla of pl t pkt = .inr (t', pkt') ∧ t < t' ∧ t' < pipelineTables := by
  cases hx : pasoTabla of pl t pkt with
  | inl s =>
    refine .inl ⟨s, rfl, ?_⟩
    rintro rfl
    obtain ⟨e, he, hl⟩ := pasoTabla_liberadas hx
    rw [(buena_iff.mp hb).2.vivo he] at hl
    cases hl
  | inr x =>
    obtain ⟨e, he, hgo⟩ := pasoTabla_next hx
    exact .inr ⟨x.1, x.2, rfl, hb.sube t e he x.1 hgo⟩

theorem lazo_fin (of : OpenFlow Mt Ac P) (pkt : P) :
    ∃ vs s, (∀ k, pipelineTables ≤ k → lazo of pl k pkt = some (vs, s)) ∧ vs.Nodup ∧
      s ≠ .liberadas := by
  obtain ⟨vs, s, hw, hp, _, hs⟩ :=
    walk_increasing (hb.pasoTabla_spec of) (Nat.zero_lt_succ 63 : 0 < pipelineTables) pkt
  exact ⟨vs, s, fun k hk => hw k hk, hp.imp Nat.ne_of_lt, hs⟩

end Pipeline.Buena

/-- **The loop over the tables ends**: in every state that events of `Permitida` lead to, for every
    packet, after at most 64 rounds, without a table being visited twice and without an entry
    whose instructions are freed. -/
theorem lazo_termina {pl : Pipeline Mt Ac} (h : Run (Pipeline.paso of) (Permitida of) .create pl)
    (pkt : P) :
    ∃ vs s, (∀ k, pipelineTables ≤ k → lazo of pl k pkt = some (vs, s)) ∧ vs.Nodup ∧
      s ≠ .liberadas :=
  (h.invariant create_buena fun _ _ _ hb ho hs => hb.paso ho hs).lazo_fin of pkt

end Invariante

/-! ## 4. Messages -/

/-- A frame, what has been done with it, and the output of its action set. -/
structure PaqueteOf where
  pkt : Packet
  efectos : List Efecto
  actionSet : List Nat

/-- The part of the code around the tables that switches on ports: matches on `OXM_OF_IN_PORT`
    (`none`: no field), `OFPAT_OUTPUT` actions, no meters. -/
def soloSalidas : OpenFlow (Option Nat) Nat PaqueteOf where
  oxmPullMatch b :=
    if b.length = 8 ∧ b.take 4 = [0x80, 0, 0, 4] then
      .ok (some ((b.drop 4).foldl (fun a x => 256 * a + x.toNat) 0))
    else .error ⟨.badMatch, .otro 6⟩
  sinCampos := none
  actionsUnpack b :=
    if b = [] then .ok ([], 0)
    else if b.length = 16 ∧ b.take 4 = [0, 0, 0, 16] then
      .ok ([((b.drop 4).take 4).foldl (fun a x => 256 * a + x.toNat) 0], 0)
    else .error ⟨.badAction, .bacBadLen⟩
  matchStdStrict a b := a == b
  matchStdNonstrict a b := a.isNone || a == b
  matchStdOverlap a b := a.isNone || b.isNone || a == b
  listHasOutPort actions port := actions.contains port
  listHasOutGroup _ _ := false
  dpActionsValidate _ := none
  dpActionsCheckSetFieldReq _ _ := none
  handleStdMatch p m := m.all (· == p.pkt.inPort)
  ponTabla _ p := p
  ponMiss _ p := p
  writeMetadata _ _ p := p
  writeActions actions p := { p with actionSet := (actions.getLast?.map ([·])).getD p.actionSet }
  executeActionList actions _ p :=
    { p with efectos := p.efectos ++ actions.map (Efecto.outputPort p.pkt) }
  clearActions p := { p with actionSet := [] }
  meterTableApply _ p := (p, true)
  actionSetExecute p :=
    { p with efectos := p.efectos ++ p.actionSet.map (Efecto.outputPort p.pkt) ++ [.packetDestroy] }

/-- A flow-mod without match fields, on any output: `OFPMT_OXM` of length 4. -/
def mensaje (tableId command priority : UInt8) (instructions : Bytes) : Bytes :=
  [4, 14, 0, 56 + instructions.length.toUInt8, 0, 0, 0, 0] ++ List.replicate 16 0 ++
    [tableId, command, 0, 0, 0, 0, 0, priority] ++ List.replicate 12 0xff ++
    [0, 0, 0, 0, 0, 1, 0, 4, 0, 0, 0, 0] ++ instructions

/-- `OFPIT_GOTO_TABLE`. -/
def instGoto (tableId : UInt8) : Bytes := [0, 1, 0, 8, tableId, 0, 0, 0]

/-- `OFPIT_WRITE_ACTIONS` with an output. -/
def instSalida (port : UInt8) : Bytes :=
  [0, 3, 0, 24, 0, 0, 0, 0] ++ [0, 0, 0, 16, 0, 0, 0, port] ++ List.replicate 8 0

example : (flowModUnpack soloSalidas (mensaje 0 0 1 (instSalida 7 ++ instGoto 5))).run =
    some (.ok ⟨0, 0, 0, .add, 0, 0, 1, ofpAny, ofpAny, ofpAny, 0, ⟨0, none⟩,
      [.writeActions [7], .gotoTable 5]⟩) := by
  decide

theorem Permitida.of_unpack {Mt Ac P : Type} {of : OpenFlow Mt Ac P} {pl : Pipeline Mt Ac}
    {slave : Bool} {buf : Bytes} {mod : FlowMod Mt Ac} (h : flowModUnpack of buf = pure mod)
    (hs : mod.Segura of pl) : Permitida of pl (.flowMod slave buf) := by
  intro mod' h'
  rw [Lectura.pure_inj (h'.symm.trans h)]
  exact hs

def paqueteVacio : PaqueteOf :=
  ⟨⟨1, [], ⟨0, none, none, none, none, none, none, none⟩⟩, [], []⟩

/-- Table 0 sends on to table 5, and table 5 out of port 3. -/
theorem lazo_termina_dosTablas :
    ∃ pl, Run (Pipeline.paso soloSalidas) (Permitida soloSalidas) .create pl ∧
      (lazo soloSalidas pl pipelineTables paqueteVacio).map Prod.fst = some [0, 5] ∧
      ∃ vs s, (∀ k, pipelineTables ≤ k → lazo soloSalidas pl k paqueteVacio = some (vs, s)) ∧
        vs.Nodup ∧ s ≠ .liberadas := by
  have h1 : Run (paso soloSalidas) (Permitida soloSalidas) .create _ :=
    .tail .refl (e := .flowMod false (mensaje 0 0 1 (instGoto 5)))
      (.of_unpack rfl ⟨by decide, fun _ id hid => by
        cases hid with
        | head => decide
        | tail _ h => cases h⟩) rfl
  have h2 : Run (paso soloSalidas) (Permitida soloSalidas) .create _ :=
    .tail h1 (e := .flowMod false (mensaje 5 0 1 (instSalida 3)))
      (.of_unpack rfl ⟨by decide, fun _ id hid => by
        cases hid with
        | tail _ h => cases h⟩) rfl
  exact ⟨_, h2, rfl, lazo_termina h2 _⟩

/-- **The loop need not end.** A flow-mod that sends table 0 to table 0 is accepted; and where one
modifies two entries, the end of one leaves the other with freed instructions. -/
theorem lazo_no_termina :
    (∃ pl, exec (Pipeline.paso soloSalidas) (fun _ _ => True)
        [.flowMod false (mensaje 0 0 1 (instGoto 0))] .create = some pl ∧
      ∀ pkt k, lazo soloSalidas pl k pkt = none) ∧
    (∃ pl, exec (Pipeline.paso soloSalidas) (fun _ _ => True)
        [.flowMod false (mensaje 0 0 1 (instSalida 1)),
          .flowMod false (mensaje 0 0 2 (instSalida 2)),
          .flowMod false (mensaje 0 1 0 (instSalida 3)), .flowMod false (mensaje 0 4 2 [])]
        .create = some pl ∧
      ∀ pkt, lazo soloSalidas pl pipelineTables pkt = some ([0], .liberadas)) := by
  refine ⟨⟨_, rfl, fun pkt k => ?_⟩, ⟨_, rfl, fun pkt => rfl⟩⟩
  refine walk_forever (I := fun t _ => t = 0) ?_ k rfl
  rintro t s rfl
  exact ⟨0, s, rfl, rfl⟩

end TcpPath
