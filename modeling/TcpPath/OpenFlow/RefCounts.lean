/-
  Subject:   `ref_count` of the groups and `flow_count` of the meters, against the lists of flow
             entries they count.

  * MODIFY makes a new entry with the count 0 and gives it the list of the old one.
  * `Dp.length_flowRefs_lt`: a count of 32 bits is large enough.

  Results:   `reference_counts`: when the counts reported are those of the flow entries.
-/
import TcpPath.OpenFlow.Accounting

namespace TcpPath.Udatapath

open Util List

variable {β Mt Ac Bd P : Type}

/-! ## 1. Counts and lists -/

/-- The count of an entry is the length of its list. -/
def RefEntry.Contada (e : RefEntry β) : Prop := e.refCount = e.flowRefs.length.toUInt32

namespace RefEntry

variable {e : RefEntry β}

theorem Contada.addFlowRef (h : e.Contada) (fe : FlowPtr) : (e.addFlowRef fe).Contada := by
  unfold RefEntry.addFlowRef
  split
  · exact h
  · show e.refCount + 1 = (e.flowRefs ++ [fe]).length.toUInt32
    rw [h, length_append, length_singleton]
    exact (UInt32.ofNat_add _ _).symm

theorem Contada.delFlowRef (h : e.Contada) (fe : FlowPtr) : (e.delFlowRef fe).Contada := by
  have hlen : (e.flowRefs.filter (· != fe)).length + e.flowRefs.count fe = e.flowRefs.length := by
    have hsum := length_eq_countP_add_countP (· == fe) (l := e.flowRefs)
    have hbne : (fun a => decide ¬(a == fe) = true) = (· != fe) := by
      funext a
      simp only [bne, decide_not, Bool.decide_eq_true]
    rw [hsum, hbne, countP_eq_length_filter (p := (· != fe)), Nat.add_comm]
    rfl
  show e.refCount - (e.flowRefs.count fe).toUInt32 = (e.flowRefs.filter (· != fe)).length.toUInt32
  rw [h, ← hlen]
  exact (congrArg (· - _) (UInt32.ofNat_add _ _)).trans (UInt32.add_sub_cancel _ _)

end RefEntry

namespace RefTable

def Contadas (table : RefTable β) : Prop := ∀ e ∈ table.entries, e.Contada

namespace Contadas

variable {table table' : RefTable β} {lim : Limites} {id : Nat} {items : List β}

theorem vacia (n m : UInt64) : (RefTable.vacia n m : RefTable β).Contadas :=
  fun _ he => (nomatch he)

theorem alRefs (h : table.Contadas) {f : RefEntry β → RefEntry β}
    (hf : ∀ e : RefEntry β, e.Contada → (f e).Contada) (refs : List Nat) :
    (table.alRefs f refs).Contadas := by
  have hfold : ∀ es : List (RefEntry β), (∀ e ∈ es, e.Contada) →
      ∀ e ∈ refs.foldl (fun es id => modifyFirst (·.id == id) f es) es, e.Contada := by
    induction refs with
    | nil => exact fun _ h => h
    | cons id refs ih =>
      refine fun es hes => ih _ fun e he => ?_
      rcases mem_modifyFirst he with he | ⟨old, hold, rfl⟩
      · exact hes e he
      · exact hf old (hes old (mem_of_find?_eq_some hold))
  exact hfold table.entries h

theorem avisos (h : table.Contadas) (ha : table.Avisos table') : table'.Contadas := by
  induction ha with
  | refl => exact h
  | add _ fe refs ih => exact ih.alRefs (fun _ he => he.addFlowRef fe) refs
  | del _ fe refs ih => exact ih.alRefs (fun _ he => he.delFlowRef fe) refs

theorem add (h : table.Contadas) (ht : table.add lim id items = .ok table') :
    table'.Contadas := by
  obtain ⟨_, _, _, rfl⟩ := add_ok ht
  intro e he
  rcases mem_cons.mp he with rfl | he
  · rfl
  · exact h e he

theorem modify (h : table.Contadas) {veto : Option OflErr}
    (hno : ∀ entry ∈ table.find id, entry.flowRefs = [])
    (ht : table.modify lim id items veto = .ok table') : table'.Contadas := by
  obtain ⟨_, _, _, _, rfl⟩ := modify_ok ht
  intro e he
  rcases mem_modifyFirst he with he | ⟨old, hold, rfl⟩
  · exact h e he
  · show (0 : UInt32) = old.flowRefs.length.toUInt32
    rw [hno old hold]
    rfl

theorem retira (h : table.Contadas) (entry : RefEntry β) : (table.retira entry).Contadas :=
  fun e he => h e (eraseP_sublist.subset he)

end Contadas

end RefTable

/-! ## 2. How long a list can be -/

namespace Dp

theorem length_flowRefs_lt {d : Dp Mt Ac Bd} (hs : d.Sana) {refs : Entrada Mt Ac → List Nat}
    {table : RefTable β} (h : table.Bien (Viva refs d.listas)) {e : RefEntry β}
    (he : e ∈ table.entries) : e.flowRefs.length < 2 ^ 32 := by
  let todas : List FlowPtr :=
    (List.finRange pipelineTables).flatMap fun t => (d.listas t).map fun f => ⟨t, f.dir⟩
  have hsub : e.flowRefs ⊆ todas := by
    intro p hp
    obtain ⟨f, hf, hdir, _⟩ := h.vivas e he p hp
    refine mem_flatMap.mpr ⟨p.tabla, mem_finRange _, mem_map.mpr ⟨f, hf, ?_⟩⟩
    rw [hdir]
  have hlen : ∀ t, (d.listas t).length ≤ TcpPath.flowTableMaxEntries := by
    intro t
    have hact := (hs.tabla t).activos
    have htope := (hs.tabla t).tope
    rw [hact] at htope
    simpa [TablaFlujos.esqueleto, listas] using htope
  have htodas : todas.length ≤ pipelineTables * TcpPath.flowTableMaxEntries := by
    rw [length_flatMap]
    refine (sum_le_card_nsmul _ TcpPath.flowTableMaxEntries fun n hn => ?_).trans (le_of_eq ?_)
    · obtain ⟨t, _, rfl⟩ := mem_map.mp hn
      rw [length_map]
      exact hlen t
    · rw [length_map, length_finRange, smul_eq_mul]
  have hle := ((h.nodup e he).subperm hsub).length_le
  unfold pipelineTables TcpPath.flowTableMaxEntries at htodas
  omega

/-! ## 3. Events -/

/-- No group or meter that flows use is modified. -/
def SinUso (c : Conmutador Mt P) (d : Dp Mt Action MeterBand) : Llegada P → Prop
  | .mensaje _ buf _ _ =>
    match (c.unpack buf).run with
    | some (.ok (.groupMod mod)) =>
      mod.command = .modify → ∀ entry ∈ d.groups.find mod.groupId, entry.flowRefs = []
    | some (.ok (.meterMod mod)) =>
      mod.command = .modify → ∀ entry ∈ d.meters.find mod.meterId, entry.flowRefs = []
    | _ => True
  | _ => True

instance (c : Conmutador Mt P) (d : Dp Mt Action MeterBand) :
    (e : Llegada P) → Decidable (SinUso c d e)
  | .mensaje _ buf _ _ => by
    dsimp only [SinUso]
    exact match (c.unpack buf).run with
      | some (.ok (.groupMod _)) | some (.ok (.meterMod _)) => by dsimp only; infer_instance
      | none | some (.error _) | some (.ok (.flowMod _)) | some (.ok .otro) => .isTrue trivial
  | .timeout .. | .lookup .. => .isTrue trivial

/-- **Each entry counts the flows that refer to it.** -/
structure Contadas (d : Dp Mt Ac Bd) : Prop where
  grupos : d.groups.Contadas
  metros : d.meters.Contadas

namespace Contadas

variable {env : Entorno Mt Ac P} {d d' : Dp Mt Ac Bd}

theorem flujos (env : Entorno Mt Ac P) :
    Flujos env (fun _ _ _ _ => True) fun d d' : Dp Mt Ac Bd => d.Contadas → d'.Contadas :=
  (flujos_avisos env).imp (fun h h' => h' ∘ h)
    fun h hd => ⟨hd.grupos.avisos h.grupos, hd.metros.avisos h.metros⟩

variable {orden : List Nat} {now : Nat}

theorem grupoCambia (h : d.Contadas) {mod : GroupMod Ac}
    (huso : mod.command = .modify → ∀ entry ∈ d.groups.find mod.groupId, entry.flowRefs = [])
    (hc : GrupoCambia env mod orden now d d') : d'.Contadas := by
  cases hc with
  | nada => exact h
  | add _ _ hg => exact ⟨h.grupos.add hg, h.metros⟩
  | modify hcmd _ hg => exact ⟨h.grupos.modify (huso hcmd) hg, h.metros⟩
  | deleteAll =>
    exact ⟨.vacia 0 0, ((flujos env).destroyAll groups .groupDelete now orden d h).metros⟩
  | @delete entry =>
    exact (flujos env).entryDestroy .groupDelete now _ _ ⟨h.grupos.retira entry, h.metros⟩

theorem metroCambia (h : d.Contadas) (env : Entorno Mt Ac P) {mod : MeterMod Bd}
    (huso : mod.command = .modify → ∀ entry ∈ d.meters.find mod.meterId, entry.flowRefs = [])
    (hc : MetroCambia mod orden now d d') : d'.Contadas := by
  cases hc with
  | nada => exact h
  | add _ hm => exact ⟨h.grupos, h.metros.add hm⟩
  | modify hcmd hm => exact ⟨h.grupos, h.metros.modify (huso hcmd) hm⟩
  | deleteAll =>
    exact ⟨((flujos env).destroyAll meters .meterDelete now orden d h).grupos, .vacia 0 0⟩
  | @delete entry =>
    exact (flujos env).entryDestroy .meterDelete now _ _ ⟨h.grupos, h.metros.retira entry⟩

/-- **Every event.** -/
theorem recibe {c : Conmutador Mt P} {d d' : Dp Mt Action MeterBand} {e : Llegada P}
    (h : d.Contadas) (hok : SinUso c d e) (hd : d.recibe c e = some d') : d'.Contadas := by
  have hf : Flujos c.entorno _ fun d d' : Dp Mt Action MeterBand => d.Contadas → d'.Contadas :=
    flujos c.entorno
  refine recibe_cases (R := Contadas) hd h (fun slave buf orden now msg he hb hm => ?_)
    (fun t now => hf.flowTableTimeout t now d h) fun t pkt now => hf.lookup d t pkt now h
  subst he
  rcases atiende_cases hm with rfl | ⟨mod, rfl, hmod⟩ | ⟨mod, rfl, _, hc⟩ | ⟨mod, rfl, _, hc⟩
  · exact h
  · exact hf.pipelineHandleFlowMod (fun _ _ _ => trivial) hmod h
  · rw [SinUso, show (c.unpack buf).run = some (.ok (.groupMod mod)) from hb] at hok
    exact h.grupoCambia hok hc
  · rw [SinUso, show (c.unpack buf).run = some (.ok (.meterMod mod)) from hb] at hok
    exact h.metroCambia c.entorno hok hc

end Contadas

end Dp

/-! ## 4. The result -/

/-- **Reported reference counts**, while no group or meter that is in use is modified. -/
theorem reference_counts {c : Conmutador Mt P} {bandsNum : UInt64} {d : Dp Mt Action MeterBand}
    (h : Run (Dp.recibe c) (Dp.SinUso c) (.create bandsNum) d) :
    (∀ g ∈ d.groups.entries, g.refCount.toNat = g.flowRefs.length) ∧
      ∀ m ∈ d.meters.entries, m.refCount.toNat = m.flowRefs.length := by
  obtain ⟨hs, hv⟩ := Dp.vivas_recibe h
  have hd : d.Contadas := h.invariant (I := Dp.Contadas) ⟨.vacia 0 0, .vacia 0 bandsNum⟩
    fun _ _ _ hd hok hp => hd.recibe hok hp
  have hnat : ∀ n : Nat, n < 2 ^ 32 → n.toUInt32.toNat = n :=
    fun n hn => (UInt32.toNat_ofNat').trans (Nat.mod_eq_of_lt hn)
  refine ⟨fun g hg => ?_, fun m hm => ?_⟩
  · rw [show g.refCount = _ from hd.grupos g hg]
    exact hnat _ (Dp.length_flowRefs_lt hs hv.grupos hg)
  · rw [show m.refCount = _ from hd.metros m hm]
    exact hnat _ (Dp.length_flowRefs_lt hs hv.metros hm)

/-- A group that is modified before it is used, and a meter that is modified after its entry is
    gone. -/
theorem reference_counts_antesYDespues :
    ∃ d : Dp Unit Action MeterBand,
      Run (Dp.recibe sinCampos) (Dp.SinUso sinCampos) (.create 0) d ∧
      d.groups.entries.map (fun g => (g.id, g.flowRefs.length)) = [(1, 2)] ∧
      d.meters.entries.map (fun m => (m.id, m.flowRefs.length)) = [(5, 0)] ∧
      (∀ g ∈ d.groups.entries, g.refCount.toNat = g.flowRefs.length) ∧
      ∀ m ∈ d.meters.entries, m.refCount.toNat = m.flowRefs.length :=
  Run.exists_exec₂
    [.mensaje false (msgGrupo 0 1 []) [] 0,
      .mensaje false (msgGrupo 1 1 [cubo (accSalida 3)]) [1] 0,
      .mensaje false (msgMetro 0 5 1) [] 0,
      .mensaje false (msgFlujo 0 30 (instAplica (accGrupo 1))) [] 0,
      .mensaje false (msgFlujo 0 20 (instAplica (accGrupo 1))) [] 0,
      .mensaje false (msgFlujo 0 10 (instMetro 5)) [] 0,
      .mensaje false (msgFlujo 4 10 []) [] 0,
      .mensaje false (msgMetro 1 5 2) [5] 0]
    (by decide +kernel) fun _ hrun _ _ => reference_counts hrun

/-- **Not in general.** A group and a meter that an entry refers to are modified: both count 0
    entries with one in their lists. When the entry goes, both count 2^32 - 1 with none. -/
theorem reference_counts_fails :
    ∃ d d' : Dp Unit Action MeterBand,
      Run (Dp.recibe sinCampos) (fun _ _ => True) (.create 0) d ∧
      d.groups.entries.map (fun g => (g.refCount.toNat, g.flowRefs.length)) = [(0, 1)] ∧
      d.meters.entries.map (fun m => (m.refCount.toNat, m.flowRefs.length)) = [(0, 1)] ∧
      d.recibe sinCampos (.mensaje false (msgFlujo 4 10 []) [] 0) = some d' ∧
      d'.groups.entries.map (fun g => (g.refCount.toNat, g.flowRefs.length)) = [(2 ^ 32 - 1, 0)] ∧
      d'.meters.entries.map (fun m => (m.refCount.toNat, m.flowRefs.length)) =
        [(2 ^ 32 - 1, 0)] :=
  Run.exists_exec_and _ _
    [.mensaje false (msgGrupo 0 1 []) [] 0,
      .mensaje false (msgMetro 0 5 1) [] 0,
      .mensaje false (msgFlujo 0 10 (instMetro 5 ++ instAplica (accGrupo 1))) [] 0,
      .mensaje false (msgGrupo 1 1 []) [1] 0,
      .mensaje false (msgMetro 1 5 1) [5] 0] _ _ (by decide +kernel)

end TcpPath.Udatapath
