/-
  Subject:   The counts of the group table and of the meter table, and what a group-mod that is
             refused leaves behind.

  Results:   `Dp.flujos_avisos`: flow-mods and timeouts leave the groups' and meters' entries alone.
             `group_accounting`: `entries_num` and `buckets_num` are what the table has, within the
             limits, and a group-mod that is refused leaves all as it was.
             `meter_accounting`: so are `entries_num` and `bands_num` of the meters, and a new meter
             is refused only for lack of room.
-/
import TcpPath.OpenFlow.Messages

namespace TcpPath.Udatapath

open Util List

variable {β Mt Ac Bd P : Type}

/-! ## 1. Tables without their references -/

/-- An entry without its references. -/
def RefEntry.sinRefs (entry : RefEntry β) : RefEntry β :=
  { entry with refCount := 0, flowRefs := [] }

@[simp] theorem RefEntry.sinRefs_addFlowRef (fe : FlowPtr) (entry : RefEntry β) :
    (entry.addFlowRef fe).sinRefs = entry.sinRefs := by
  unfold addFlowRef
  split <;> rfl

@[simp] theorem RefEntry.sinRefs_delFlowRef (fe : FlowPtr) (entry : RefEntry β) :
    (entry.delFlowRef fe).sinRefs = entry.sinRefs := rfl

namespace RefTable

/-- A table without its references. -/
def sinRefs (table : RefTable β) : RefTable β :=
  { table with entries := table.entries.map (·.sinRefs) }

/-- **What flow entries do to a table**: they announce themselves and take their leave. -/
inductive Avisos (table : RefTable β) : RefTable β → Prop where
  | refl : Avisos table table
  | add {table' : RefTable β} (h : Avisos table table') (fe : FlowPtr) (refs : List Nat) :
      Avisos table (table'.addRefs fe refs)
  | del {table' : RefTable β} (h : Avisos table table') (fe : FlowPtr) (refs : List Nat) :
      Avisos table (table'.delRefs fe refs)

variable {table table' : RefTable β}

theorem Avisos.trans {table'' : RefTable β} (h : table.Avisos table') (h' : table'.Avisos table'') :
    table.Avisos table'' := by
  induction h' with
  | refl => exact h
  | add _ fe refs ih => exact ih.add fe refs
  | del _ fe refs ih => exact ih.del fe refs

theorem sinRefs_alRefs {f : RefEntry β → RefEntry β} (hf : ∀ e, (f e).sinRefs = e.sinRefs)
    (refs : List Nat) (table : RefTable β) : (table.alRefs f refs).sinRefs = table.sinRefs := by
  have hfold : ∀ es : List (RefEntry β),
      (refs.foldl (fun es id => modifyFirst (·.id == id) f es) es).map (·.sinRefs) =
        es.map (·.sinRefs) := by
    induction refs with
    | nil => exact fun _ => rfl
    | cons id refs ih =>
      intro es
      rw [foldl_cons, ih]
      exact map_modifyFirst (f := f) RefEntry.sinRefs (fun e _ => hf e) es
  exact congrArg (RefTable.mk · table.entriesNum table.itemsNum) (hfold table.entries)

theorem Avisos.sinRefs (h : table.Avisos table') : table'.sinRefs = table.sinRefs := by
  induction h with
  | refl => rfl
  | add _ fe refs ih => exact (sinRefs_alRefs (RefEntry.sinRefs_addFlowRef fe) refs _).trans ih
  | del _ fe refs ih => exact (sinRefs_alRefs (RefEntry.sinRefs_delFlowRef fe) refs _).trans ih

theorem find_sinRefs (table : RefTable β) (id : Nat) :
    table.sinRefs.find id = (table.find id).map (·.sinRefs) := by
  unfold find sinRefs
  rw [find?_map]
  rfl

theorem ids_of_sinRefs (h : table'.sinRefs = table.sinRefs) : table'.ids = table.ids := by
  have hids : ∀ table : RefTable β, table.sinRefs.ids = table.ids := by
    intro table
    unfold ids sinRefs
    rw [map_map]
    rfl
  rw [← hids, h, hids]

end RefTable

namespace Dp

/-- Groups and meters hear of flow entries, and nothing else happens to them. -/
structure SoloAvisos (d d' : Dp Mt Ac Bd) : Prop where
  grupos : d.groups.Avisos d'.groups
  metros : d.meters.Avisos d'.meters

/-- Groups and meters are the same but for their references. -/
structure MismasTablas (d d' : Dp Mt Ac Bd) : Prop where
  grupos : d'.groups.sinRefs = d.groups.sinRefs
  metros : d'.meters.sinRefs = d.meters.sinRefs

theorem avisos_modifyFrom (env : Entorno Mt Ac P) (t : Fin pipelineTables) (mod : FlowMod Mt Ac)
    (arr : Arreglo Ac) (strict : Bool) (l : List (Entrada Mt Ac)) (groups : RefTable (Bucket Ac)) :
    groups.Avisos (modifyFrom env t mod arr strict l groups).2 := by
  induction l generalizing groups with
  | nil => exact .refl
  | cons entry rest ih =>
    rw [modifyFrom]
    split
    · exact ((RefTable.Avisos.refl.del _ _).add _ _).trans (ih _)
    · exact ih groups

/-- **What happens to flow entries** reaches groups and meters as notifications only. -/
theorem flujos_avisos (env : Entorno Mt Ac P) :
    Flujos env (fun _ _ _ _ => True) fun d d' : Dp Mt Ac Bd => d.SoloAvisos d' where
  refl _ := ⟨.refl, .refl⟩
  trans h h' := ⟨h.grupos.trans h'.grupos, h.metros.trans h'.metros⟩
  memoria _ := ⟨.refl, .refl⟩
  add _ hd := by
    rcases flowTableAdd_ok hd with ⟨_, _, _, _, _, _, _, hg, hm, _⟩ | ⟨_, _, _, _, _, _, hg, hm, _⟩
    · exact ⟨hg ▸ (RefTable.Avisos.refl.add _ _).del _ _,
        hm ▸ (RefTable.Avisos.refl.add _ _).del _ _⟩
    · exact ⟨hg ▸ RefTable.Avisos.refl.add _ _, hm ▸ RefTable.Avisos.refl.add _ _⟩
  modify t mod arr strict d _ _ := ⟨avisos_modifyFrom env t mod arr strict _ _, .refl⟩
  lookup _ _ _ _ := ⟨.refl, .refl⟩
  remove d reason now p := by
    unfold flowEntryRemove
    split
    · exact ⟨.refl, .refl⟩
    · rename_i entry _
      obtain ⟨hg, hm⟩ := d.refs_avisa entry reason now
      constructor
      · show d.groups.Avisos ((d.avisa entry reason now).groups.delRefs p entry.groupRefs)
        rw [hg]
        exact RefTable.Avisos.refl.del _ _
      · show d.meters.Avisos ((d.avisa entry reason now).meters.delRefs p entry.meterRefs)
        rw [hm]
        exact RefTable.Avisos.refl.del _ _

theorem flujos_sinRefs (env : Entorno Mt Ac P) :
    Flujos env (fun _ _ _ _ => True) fun d d' : Dp Mt Ac Bd => d.MismasTablas d' :=
  (flujos_avisos env).imp (fun h h' => ⟨h'.grupos.trans h.grupos, h'.metros.trans h.metros⟩)
    fun h => ⟨h.grupos.sinRefs, h.metros.sinRefs⟩

end Dp

/-! ## 2. Counts -/

namespace RefTable

/-- All buckets of the groups, or all bands of the meters. -/
def itemsTotal (table : RefTable β) : Nat := (table.entries.map (·.items.length)).sum

/-- No number is there twice, and the count of entries is right and within its limit. -/
structure Numera (lim : Limites) (table : RefTable β) : Prop where
  unica : table.Unica
  entriesNum : table.entriesNum.toNat = table.entries.length
  entriesMax : table.entries.length ≤ lim.maxEntries.toNat

/-- **The counts of a table are right**, and within its limits. -/
structure Cuadra (lim : Limites) (table : RefTable β) : Prop where
  unica : table.Unica
  entriesNum : table.entriesNum.toNat = table.entries.length
  entriesMax : table.entries.length ≤ lim.maxEntries.toNat
  itemsNum : table.itemsNum.toNat = table.itemsTotal
  itemsMax : table.itemsTotal ≤ lim.maxItems.toNat

section Numera

variable {lim : Limites} {table table' : RefTable β} {id : Nat} {items : List β}

theorem Cuadra.numera (h : table.Cuadra lim) : table.Numera lim :=
  ⟨h.unica, h.entriesNum, h.entriesMax⟩

theorem Numera.cuadra (h : table.Numera lim) (hn : table.itemsNum.toNat = table.itemsTotal)
    (hmax : table.itemsTotal ≤ lim.maxItems.toNat) : table.Cuadra lim :=
  ⟨h.unica, h.entriesNum, h.entriesMax, hn, hmax⟩

theorem numera_vacia (lim : Limites) (itemsNum : UInt64) :
    (vacia 0 itemsNum : RefTable β).Numera lim :=
  ⟨nodup_nil, rfl, Nat.zero_le _⟩

theorem Numera.of_sinRefs (h : table.Numera lim) (heq : table'.sinRefs = table.sinRefs) :
    table'.Numera lim := by
  have hlen : table'.entries.length = table.entries.length := by
    simpa [sinRefs] using congrArg (fun t : RefTable β => t.entries.length) heq
  have hn : table'.entriesNum = table.entriesNum := (congrArg RefTable.entriesNum heq :)
  refine ⟨?_, ?_, ?_⟩
  · unfold Unica
    rw [ids_of_sinRefs heq]
    exact h.unica
  · rw [hn, hlen]
    exact h.entriesNum
  · rw [hlen]
    exact h.entriesMax

theorem Numera.add (h : table.Numera lim) (hadd : table.add lim id items = .ok table') :
    table'.Numera lim := by
  have hn := h.entriesNum
  have hmax := h.entriesMax
  have hlim := lim.maxEntries.toNat_lt
  have hunica := h.unica.add hadd
  obtain ⟨_, hfull, _, rfl⟩ := add_ok hadd
  have hfull' : table.entriesNum.toNat ≠ lim.maxEntries.toNat :=
    fun e => hfull (UInt64.toNat_inj.mp e)
  refine ⟨hunica, ?_, ?_⟩
  · rw [UInt64.toNat_add, hn, length_cons, UInt64.toNat_one, Nat.mod_eq_of_lt (by omega)]
  · rw [length_cons]
    omega

theorem Numera.modify (h : table.Numera lim) {veto : Option OflErr}
    (hmod : table.modify lim id items veto = .ok table') : table'.Numera lim := by
  have hunica := h.unica.modify hmod
  obtain ⟨_, entry, _, _, rfl⟩ := modify_ok hmod
  refine ⟨hunica, ?_, ?_⟩
  · rw [length_modifyFirst]
    exact h.entriesNum
  · rw [length_modifyFirst]
    exact h.entriesMax

theorem Numera.retira (h : table.Numera lim) {entry : RefEntry β}
    (hf : table.find id = some entry) : (table.retira entry).Numera lim := by
  have hmem := mem_of_find hf
  have hlen : (table.entries.eraseP (·.id == entry.id)).length = table.entries.length - 1 :=
    length_eraseP_of_mem hmem (by simp)
  have hpos : 0 < table.entries.length := length_pos_of_mem hmem
  have hn := h.entriesNum
  have hmax := h.entriesMax
  refine ⟨h.unica.retira entry, ?_, ?_⟩
  · show (table.entriesNum - 1).toNat = (table.entries.eraseP _).length
    rw [hlen, UInt64.toNat_sub_of_le _ _
      (UInt64.le_iff_toNat_le.mpr (by rw [UInt64.toNat_one]; omega)), UInt64.toNat_one, hn]
  · show (table.entries.eraseP _).length ≤ _
    omega

end Numera

section Cuadra

variable {lim : Limites} {table table' : RefTable β} {id : Nat} {items : List β}

theorem Cuadra.of_sinRefs (h : table.Cuadra lim) (heq : table'.sinRefs = table.sinRefs) :
    table'.Cuadra lim := by
  have hent : table'.entries.map (·.sinRefs) = table.entries.map (·.sinRefs) :=
    congrArg RefTable.entries heq
  have htot : table'.itemsTotal = table.itemsTotal := by
    have := congrArg (fun l => (List.map (·.items.length) l).sum) hent
    simp only [map_map] at this
    exact this
  have hm : table'.itemsNum = table.itemsNum := (congrArg RefTable.itemsNum heq :)
  refine (h.numera.of_sinRefs heq).cuadra ?_ ?_
  · rw [hm, htot]
    exact h.itemsNum
  · rw [htot]
    exact h.itemsMax

theorem cuadra_vacia (lim : Limites) : (vacia 0 0 : RefTable β).Cuadra lim :=
  (numera_vacia lim 0).cuadra rfl (Nat.zero_le _)

theorem toNat_length {n : Nat} (h : n < 2 ^ 16) : n.toUInt64.toNat = n := by
  rw [Nat.toUInt64_eq, UInt64.toNat_ofNat']
  omega

theorem itemsTotal_cons (entry : RefEntry β) (es : List (RefEntry β)) (n m : UInt64) :
    (⟨entry :: es, n, m⟩ : RefTable β).itemsTotal =
      entry.items.length + (es.map (·.items.length)).sum :=
  sum_cons

theorem Cuadra.add_error (h : table.Cuadra lim) (hlim : lim.maxItems.toNat < 2 ^ 32)
    (hlen : items.length < 2 ^ 16) (hid : table.find id = none) {e : OflErr}
    (hadd : table.add lim id items = .error e) :
    lim.maxEntries.toNat < table.entries.length + 1 ∨
      lim.maxItems.toNat < table.itemsTotal + items.length := by
  have hle := h.itemsMax
  unfold add at hadd
  rw [hid, if_neg (by simp)] at hadd
  split at hadd
  · rename_i hfull
    left
    rw [← hfull, h.entriesNum]
    omega
  · split at hadd
    · rename_i hover
      right
      rw [UInt64.lt_iff_toNat_lt, UInt64.toNat_add, toNat_length hlen, h.itemsNum,
        Nat.mod_eq_of_lt (by omega)] at hover
      exact hover
    · cases hadd

theorem Cuadra.add (h : table.Cuadra lim) (hlim : lim.maxItems.toNat < 2 ^ 32)
    (hlen : items.length < 2 ^ 16) (hadd : table.add lim id items = .ok table') :
    table'.Cuadra lim := by
  have hle := h.itemsMax
  have hnumera := h.numera.add hadd
  obtain ⟨_, _, hover, rfl⟩ := add_ok hadd
  have hsum : (table.itemsNum + items.length.toUInt64).toNat =
      table.itemsTotal + items.length := by
    rw [UInt64.toNat_add, toNat_length hlen, h.itemsNum, Nat.mod_eq_of_lt (by omega)]
  rw [UInt64.lt_iff_toNat_lt, hsum] at hover
  refine hnumera.cuadra ?_ ?_
  · rw [hsum, itemsTotal_cons, Nat.add_comm]
    rfl
  · rw [itemsTotal_cons]
    show items.length + table.itemsTotal ≤ _
    omega

theorem Cuadra.toNat_modify (h : table.Cuadra lim) (hlim : lim.maxItems.toNat < 2 ^ 32)
    (hlen : items.length < 2 ^ 16) {entry : RefEntry β} (hf : table.find id = some entry) :
    (table.itemsNum - entry.items.length.toUInt64 + items.length.toUInt64).toNat +
      entry.items.length = table.itemsTotal + items.length := by
  have hm := h.itemsNum
  have hle := h.itemsMax
  have hent : entry.items.length ≤ table.itemsTotal := by
    have := sum_eraseP (fun e : RefEntry β => e.items.length) hf
    unfold itemsTotal
    omega
  have hsmall : entry.items.length.toUInt64.toNat = entry.items.length := by
    rw [Nat.toUInt64_eq, UInt64.toNat_ofNat']
    omega
  rw [UInt64.toNat_add, UInt64.toNat_sub_of_le _ _ (UInt64.le_iff_toNat_le.mpr (by omega)), hsmall,
    toNat_length hlen, hm, Nat.mod_eq_of_lt (by omega)]
  omega

theorem Cuadra.modify (h : table.Cuadra lim) (hlim : lim.maxItems.toNat < 2 ^ 32)
    (hlen : items.length < 2 ^ 16) {veto : Option OflErr}
    (hmod : table.modify lim id items veto = .ok table') : table'.Cuadra lim := by
  have hnumera := h.numera.modify hmod
  obtain ⟨_, entry, hf, hover, rfl⟩ := modify_ok hmod
  have hnum := h.toNat_modify hlim hlen hf
  have htot : ∀ n m, (⟨modifyFirst (·.id == id) (fun old => ⟨id, items, 0, old.flowRefs⟩)
      table.entries, n, m⟩ : RefTable β).itemsTotal + entry.items.length =
        table.itemsTotal + items.length :=
    fun _ _ => sum_modifyFirst (fun e : RefEntry β => e.items.length) _ hf
  rw [UInt64.lt_iff_toNat_lt] at hover
  refine hnumera.cuadra ?_ ?_
  · exact Nat.add_right_cancel (hnum.trans (htot _ _).symm)
  · have := htot table.entriesNum
      (table.itemsNum - entry.items.length.toUInt64 + items.length.toUInt64)
    omega

theorem Cuadra.retira (h : table.Cuadra lim) {entry : RefEntry β}
    (hf : table.find id = some entry) : (table.retira entry).Cuadra lim := by
  have htot : (table.retira entry).itemsTotal + entry.items.length = table.itemsTotal := by
    unfold itemsTotal RefTable.retira
    rw [id_of_find hf]
    exact sum_eraseP (fun e : RefEntry β => e.items.length) hf
  have hm := h.itemsNum
  have hle := h.itemsMax
  have hsmall : entry.items.length.toUInt64.toNat = entry.items.length := by
    have := table.itemsNum.toNat_lt
    rw [Nat.toUInt64_eq, UInt64.toNat_ofNat']
    omega
  refine (h.numera.retira hf).cuadra ?_ (by omega)
  show (table.itemsNum - entry.items.length.toUInt64).toNat = _
  rw [UInt64.toNat_sub_of_le _ _ (UInt64.le_iff_toNat_le.mpr (by omega)), hsmall]
  omega

end Cuadra

end RefTable

/-! ## 3. What messages do to the tables -/

/-- **What an accepted group-mod does to the group table.** -/
inductive RefTable.CambioGrupos (env : Entorno Mt Ac P) (mod : GroupMod Ac)
    (table : RefTable (Bucket Ac)) : RefTable (Bucket Ac) → Prop where
  | nada : CambioGrupos env mod table table
  | add {g : RefTable (Bucket Ac)}
      (hval : HayGrupos env table (mod.buckets.flatMap (·.actions)))
      (hg : groupTableAdd table mod.groupId mod.buckets = .ok g) : CambioGrupos env mod table g
  | modify {g : RefTable (Bucket Ac)}
      (hval : HayGrupos env table (mod.buckets.flatMap (·.actions)))
      (hg : groupTableModify env.grupo table mod.groupId mod.buckets = .ok g) :
      CambioGrupos env mod table g
  | deleteAll : CambioGrupos env mod table (.vacia 0 0)
  | delete {entry : RefEntry (Bucket Ac)} (hf : table.find mod.groupId = some entry)
      (hno : ∀ e ∈ table.entries, groupEntryHasOutGroup env.toOpenFlow e entry.id = false) :
      CambioGrupos env mod table (table.retira entry)

/-- **What an accepted meter-mod does to the meter table.** -/
inductive RefTable.CambioMetros (mod : MeterMod Bd) (table : RefTable Bd) :
    RefTable Bd → Prop where
  | nada : CambioMetros mod table table
  | add {m : RefTable Bd} (hm : meterTableAdd table mod.meterId mod.bands = .ok m) :
      CambioMetros mod table m
  | modify {m : RefTable Bd} (hm : meterTableModify table mod.meterId mod.bands = .ok m) :
      CambioMetros mod table m
  | deleteAll : CambioMetros mod table (.vacia 0 0)
  | delete {entry : RefEntry Bd} (hf : table.find mod.meterId = some entry) :
      CambioMetros mod table (table.retira entry)

namespace Dp

variable {orden : List Nat} {now : Nat} {d d' : Dp Mt Ac Bd}

theorem GrupoCambia.tablas {env : Entorno Mt Ac P} {mod : GroupMod Ac}
    (h : GrupoCambia env mod orden now d d') :
    (∃ g, RefTable.CambioGrupos env mod d.groups g ∧ d'.groups.sinRefs = g.sinRefs) ∧
      d'.meters.sinRefs = d.meters.sinRefs := by
  have hf : Flujos env _ fun d d' : Dp Mt Ac Bd => d.MismasTablas d' := flujos_sinRefs env
  cases h with
  | nada => exact ⟨⟨_, .nada, rfl⟩, rfl⟩
  | add _ hval hg => exact ⟨⟨_, .add hval hg, rfl⟩, rfl⟩
  | modify _ hval hg => exact ⟨⟨_, .modify hval hg, rfl⟩, rfl⟩
  | deleteAll =>
    exact ⟨⟨_, .deleteAll, rfl⟩, (hf.destroyAll groups .groupDelete now orden d).metros⟩
  | @delete entry _ hfind hno =>
    have hm := hf.entryDestroy .groupDelete now entry.flowRefs
      { d with groups := d.groups.retira entry }
    exact ⟨⟨_, .delete hfind hno, hm.grupos⟩, hm.metros⟩

theorem MetroCambia.tablas {mod : MeterMod Bd} (env : Entorno Mt Ac P)
    (h : MetroCambia mod orden now d d') :
    (∃ m, RefTable.CambioMetros mod d.meters m ∧ d'.meters.sinRefs = m.sinRefs) ∧
      d'.groups.sinRefs = d.groups.sinRefs := by
  have hf : Flujos env _ fun d d' : Dp Mt Ac Bd => d.MismasTablas d' := flujos_sinRefs env
  cases h with
  | nada => exact ⟨⟨_, .nada, rfl⟩, rfl⟩
  | add _ hm => exact ⟨⟨_, .add hm, rfl⟩, rfl⟩
  | modify _ hm => exact ⟨⟨_, .modify hm, rfl⟩, rfl⟩
  | deleteAll =>
    exact ⟨⟨_, .deleteAll, rfl⟩, (hf.destroyAll meters .meterDelete now orden d).grupos⟩
  | @delete entry _ hfind =>
    have hm := hf.entryDestroy .meterDelete now entry.flowRefs
      { d with meters := d.meters.retira entry }
    exact ⟨⟨_, .delete hfind, hm.metros⟩, hm.grupos⟩

section Tablas

variable {c : Conmutador Mt P} {d d' : Dp Mt Action MeterBand} {e : Llegada P}
  {ok : Dp Mt Action MeterBand → Llegada P → Prop}

/-- **The group table under the events**: a property that does not look at references and that
    group-mods keep. -/
theorem grupos_recibe {I : RefTable (Bucket Action) → Prop}
    (hI : ∀ {t t'}, I t → t'.sinRefs = t.sinRefs → I t')
    (hpaso : ∀ {buf mod t t'}, c.unpack buf = pure (.groupMod mod) → I t →
      RefTable.CambioGrupos c.entorno mod t t' → I t') (h : d.recibe c e = some d')
    (hd : I d.groups) : I d'.groups := by
  have hf : Flujos c.entorno _ fun d d' : Dp Mt Action MeterBand => d.MismasTablas d' :=
    flujos_sinRefs c.entorno
  refine recibe_cases (R := fun d' => I d'.groups) h hd (fun slave buf orden now msg _ hb hm => ?_)
    (fun t now => hI hd (hf.flowTableTimeout t now d).grupos)
    (fun t pkt now => hI hd (hf.lookup d t pkt now).grupos)
  rcases atiende_cases hm with rfl | ⟨mod, rfl, hok⟩ | ⟨mod, rfl, _, hok⟩ | ⟨mod, rfl, _, hok⟩
  · exact hd
  · exact hI hd (hf.pipelineHandleFlowMod (fun _ _ _ => trivial) hok).grupos
  · obtain ⟨⟨g, hg, heq⟩, _⟩ := hok.tablas
    exact hI (hpaso hb hd hg) heq
  · exact hI hd (hok.tablas c.entorno).2

/-- **The meter table under the events.** -/
theorem metros_recibe {I : RefTable MeterBand → Prop}
    (hI : ∀ {t t'}, I t → t'.sinRefs = t.sinRefs → I t')
    (hpaso : ∀ {buf mod t t'}, c.unpack buf = pure (.meterMod mod) → I t →
      RefTable.CambioMetros mod t t' → I t') (h : d.recibe c e = some d') (hd : I d.meters) :
    I d'.meters := by
  have hf : Flujos c.entorno _ fun d d' : Dp Mt Action MeterBand => d.MismasTablas d' :=
    flujos_sinRefs c.entorno
  refine recibe_cases (R := fun d' => I d'.meters) h hd (fun slave buf orden now msg _ hb hm => ?_)
    (fun t now => hI hd (hf.flowTableTimeout t now d).metros)
    (fun t pkt now => hI hd (hf.lookup d t pkt now).metros)
  rcases atiende_cases hm with rfl | ⟨mod, rfl, hok⟩ | ⟨mod, rfl, _, hok⟩ | ⟨mod, rfl, _, hok⟩
  · exact hd
  · exact hI hd (hf.pipelineHandleFlowMod (fun _ _ _ => trivial) hok).metros
  · exact hI hd hok.tablas.2
  · obtain ⟨⟨m, hm, heq⟩, _⟩ := hok.tablas c.entorno
    exact hI (hpaso hb hd hm) heq

theorem numera_cambioGrupos {env : Entorno Mt Action P} {mod : GroupMod Action}
    {t t' : RefTable (Bucket Action)} (ht : t.Numera limitesGrupos)
    (h : RefTable.CambioGrupos env mod t t') : t'.Numera limitesGrupos := by
  cases h with
  | nada => exact ht
  | add _ hg => exact ht.add hg
  | modify _ hg => exact ht.modify hg
  | deleteAll => exact RefTable.numera_vacia ..
  | delete hf _ => exact ht.retira hf

theorem numera_cambioMetros {mod : MeterMod MeterBand} {t t' : RefTable MeterBand}
    (ht : t.Numera limitesMetros) (h : RefTable.CambioMetros mod t t') :
    t'.Numera limitesMetros := by
  cases h with
  | nada => exact ht
  | add hm => exact ht.add hm
  | modify hm => exact ht.modify hm
  | deleteAll => exact RefTable.numera_vacia ..
  | delete hf => exact ht.retira hf

theorem cuadra_grupos {bandsNum : UInt64} (h : Run (recibe c) ok (create bandsNum) d) :
    d.groups.Cuadra limitesGrupos := by
  refine h.invariant (I := fun d => d.groups.Cuadra limitesGrupos)
    (RefTable.cuadra_vacia limitesGrupos) fun _ _ _ hd _ hp =>
      grupos_recibe (fun hc heq => hc.of_sinRefs heq) (fun {buf mod t t'} hb hc hg => ?_) hp hd
  have hlen : mod.buckets.length < 2 ^ 16 := Conmutador.unpack_items hb
  cases hg with
  | nada => exact hc
  | add _ hg => exact hc.add (by decide) hlen hg
  | modify _ hg => exact hc.modify (by decide) hlen hg
  | deleteAll => exact RefTable.cuadra_vacia limitesGrupos
  | delete hf _ => exact hc.retira hf

theorem cuadra_metros (h : Run (recibe c) ok (create 0) d) : d.meters.Cuadra limitesMetros := by
  refine h.invariant (I := fun d => d.meters.Cuadra limitesMetros)
    (RefTable.cuadra_vacia limitesMetros) fun _ _ _ hd _ hp =>
      metros_recibe (fun hc heq => hc.of_sinRefs heq) (fun {buf mod t t'} hb hc hm => ?_) hp hd
  have hlen : mod.bands.length < 2 ^ 16 := Conmutador.unpack_items hb
  cases hm with
  | nada => exact hc
  | add hm => exact hc.add (by decide) hlen hm
  | modify hm => exact hc.modify (by decide) hlen hm
  | deleteAll => exact RefTable.cuadra_vacia limitesMetros
  | delete hf => exact hc.retira hf

end Tablas

end Dp

/-! ## 4. group_table.c, statement by statement -/

/-- Statements on the tables of a switch: an error leaves the state as it is at that point. -/
abbrev Sentencias (Mt Ac Bd : Type) := ExceptT OflErr (StateM (Dp Mt Ac Bd))

namespace Sentencias

variable {α : Type}

/-- What statements return, and the state they leave. -/
def corre (x : Sentencias Mt Ac Bd α) (d : Dp Mt Ac Bd) : Except OflErr α × Dp Mt Ac Bd :=
  x.run.run d

/-- A change of the group table. -/
def enGrupos (f : RefTable (Bucket Ac) → RefTable (Bucket Ac)) : Sentencias Mt Ac Bd Unit :=
  modify fun d => { d with groups := f d.groups }

/-- `if (c) return e;` -/
def si (c : Prop) [Decidable c] (e : OflErr) : Sentencias Mt Ac Bd Unit :=
  if c then throw e else pure ()

/-- A loop that returns the first error it finds. -/
def revisa (e : α → Option OflErr) (l : List α) : Sentencias Mt Ac Bd Unit :=
  l.forM fun a =>
    match e a with
    | some err => throw err
    | none => pure ()

/-- `group_table_add`. -/
def groupTableAdd (id : Nat) (buckets : List (Bucket Ac)) : Sentencias Mt Ac Bd Unit := do
  let d ← get
  si ((d.groups.find id).isSome) limitesGrupos.existe
  si (d.groups.entriesNum = limitesGrupos.maxEntries) limitesGrupos.sinEntradas
  si (limitesGrupos.maxItems < d.groups.itemsNum + buckets.length.toUInt64) limitesGrupos.sinItems
  enGrupos fun t => { t with entries := ⟨id, buckets, 0, []⟩ :: t.entries }
  enGrupos fun t => { t with entriesNum := t.entriesNum + 1 }
  enGrupos fun t => { t with itemsNum := t.itemsNum + buckets.length.toUInt64 }

/-- `group_table_modify`. The old entry is destroyed with an empty list. -/
def groupTableModify (env : Entorno Mt Ac P) (id : Nat) (buckets : List (Bucket Ac)) :
    Sentencias Mt Ac Bd Unit := do
  let d ← get
  match d.groups.find id with
  | none => throw limitesGrupos.desconocido
  | some entry =>
      si (limitesGrupos.maxItems <
        d.groups.itemsNum - entry.items.length.toUInt64 + buckets.length.toUInt64)
        limitesGrupos.sinItems
      si (isLoopFree env.grupo d.groups id buckets = false) (groupModFailed 7)
      enGrupos fun t =>
        { t with entries := modifyFirst (·.id == id) (fun _ => ⟨id, buckets, 0, []⟩) t.entries }
      enGrupos fun t =>
        { t with
          itemsNum := t.itemsNum - entry.items.length.toUInt64 + buckets.length.toUInt64 }
      enGrupos fun t =>
        { t with
          entries := modifyFirst (·.id == id) (fun e => { e with flowRefs := entry.flowRefs })
            t.entries }

/-- `group_table_delete`. -/
def groupTableDelete (env : Entorno Mt Ac P) (id : Nat) (orden : List Nat) (now : Nat) :
    Sentencias Mt Ac Bd Unit := do
  if id = ofpgAll then
    modify (Dp.destroyAll Dp.groups .groupDelete now orden)
    enGrupos fun t => { t with entries := [] }
    enGrupos fun t => { t with entriesNum := 0 }
    enGrupos fun t => { t with itemsNum := 0 }
  else
    let d ← get
    match d.groups.find id with
    | none => pure ()
    | some entry =>
        revisa (fun e => if groupEntryHasOutGroup env.toOpenFlow e entry.id then
          some (groupModFailed 5) else none) d.groups.entries
        enGrupos fun t => { t with entriesNum := t.entriesNum - 1 }
        enGrupos fun t => { t with itemsNum := t.itemsNum - entry.items.length.toUInt64 }
        enGrupos fun t => { t with entries := t.entries.eraseP (·.id == entry.id) }
        modify (Dp.entryDestroy .groupDelete now entry.flowRefs)

/-- `group_table_handle_group_mod`. -/
def groupTableHandleGroupMod (env : Entorno Mt Ac P) (slave : Bool) (mod : GroupMod Ac)
    (orden : List Nat) (now : Nat) : Sentencias Mt Ac Bd Unit := do
  si (slave = true) ⟨.badRequest, .brcIsSlave⟩
  let d ← get
  revisa (fun b => dpActionsValidate env d.groups b.actions) mod.buckets
  match mod.command with
  | .add => groupTableAdd mod.groupId mod.buckets
  | .modify => groupTableModify env mod.groupId mod.buckets
  | .delete => groupTableDelete env mod.groupId orden now
  | .otro _ => throw ⟨.badRequest, .otro 1⟩

/-- A result and the state it comes with: an error leaves the state as it was. -/
def intacto (d : Dp Mt Ac Bd) : Except OflErr (Dp Mt Ac Bd) → Except OflErr Unit × Dp Mt Ac Bd
  | .error e => (.error e, d)
  | .ok d' => (.ok (), d')

section Corre

variable {γ : Type} (d : Dp Mt Ac Bd)

@[simp] theorem corre_get_bind (f : Dp Mt Ac Bd → Sentencias Mt Ac Bd γ) :
    corre (get >>= f) d = corre (f d) d := rfl

@[simp] theorem corre_si_bind (p : Prop) [Decidable p] (e : OflErr)
    (f : Unit → Sentencias Mt Ac Bd γ) :
    corre (si p e >>= f) d = if p then (.error e, d) else corre (f ()) d := by
  unfold si
  split <;> rfl

@[simp] theorem corre_modify (g : Dp Mt Ac Bd → Dp Mt Ac Bd) :
    corre (modify g : Sentencias Mt Ac Bd PUnit) d = (.ok ⟨⟩, g d) := rfl

@[simp] theorem corre_enGrupos (g : RefTable (Bucket Ac) → RefTable (Bucket Ac)) :
    corre (enGrupos g) d = (.ok (), { d with groups := g d.groups }) := rfl

@[simp] theorem corre_enGrupos_bind (g : RefTable (Bucket Ac) → RefTable (Bucket Ac))
    (f : Unit → Sentencias Mt Ac Bd γ) :
    corre (enGrupos g >>= f) d = corre (f ()) { d with groups := g d.groups } := rfl

@[simp] theorem corre_revisa (e : α → Option OflErr) (l : List α)
    (f : Unit → Sentencias Mt Ac Bd γ) :
    corre (revisa e l >>= f) d =
      match l.findSome? e with
      | some err => (.error err, d)
      | none => corre (f ()) d := by
  induction l with
  | nil => rfl
  | cons a l ih =>
    rw [findSome?_cons]
    cases h : e a with
    | some err =>
      show corre ((match e a with | some err => throw err | none => pure ()) >>= _ >>= _) d = _
      rw [h]
      rfl
    | none =>
      rw [← ih]
      show corre ((match e a with | some err => throw err | none => pure ()) >>= _ >>= _) d = _
      rw [h]
      rfl

end Corre

theorem corre_groupTableAdd (id : Nat) (buckets : List (Bucket Ac)) (d : Dp Mt Ac Bd) :
    corre (groupTableAdd id buckets) d =
      intacto d ((Udatapath.groupTableAdd d.groups id buckets).map fun g =>
        { d with groups := g }) := by
  unfold groupTableAdd Udatapath.groupTableAdd RefTable.add
  simp only [corre_get_bind, corre_si_bind, corre_enGrupos_bind, corre_enGrupos]
  split_ifs <;> rfl

theorem corre_groupTableModify (env : Entorno Mt Ac P) (id : Nat) (buckets : List (Bucket Ac))
    (d : Dp Mt Ac Bd) :
    corre (groupTableModify env id buckets) d =
      intacto d ((Udatapath.groupTableModify env.grupo d.groups id buckets).map fun g =>
        { d with groups := g }) := by
  unfold groupTableModify Udatapath.groupTableModify RefTable.modify
  rw [corre_get_bind]
  cases hf : d.groups.find id with
  | none => rfl
  | some entry =>
    -- the new entry gets the list of the old one after it has taken its place
    have hent : modifyFirst (·.id == id) (fun e => { e with flowRefs := entry.flowRefs })
        (modifyFirst (·.id == id) (fun _ => ⟨id, buckets, 0, []⟩) d.groups.entries) =
        modifyFirst (·.id == id) (fun old => ⟨id, buckets, 0, old.flowRefs⟩) d.groups.entries := by
      obtain ⟨hp, pre, post, heq, hpre⟩ := find?_eq_some_iff_append.mp hf
      have hpre' : ∀ y ∈ pre, (y.id == id) = false := fun y hy => by simpa using hpre y hy
      rw [heq, modifyFirst_append hpre' hp, modifyFirst_append hpre' (by simp),
        modifyFirst_append hpre' hp]
    simp only [corre_si_bind, corre_enGrupos_bind, corre_enGrupos, hent]
    cases isLoopFree env.grupo d.groups id buckets <;> split_ifs <;> first | rfl | contradiction

theorem corre_groupTableDelete (env : Entorno Mt Ac P) (id : Nat) (orden : List Nat) (now : Nat)
    (d : Dp Mt Ac Bd) :
    corre (groupTableDelete env id orden now) d =
      intacto d (d.groupTableDelete env id orden now) := by
  unfold groupTableDelete Dp.groupTableDelete
  split
  · rfl
  · rw [corre_get_bind]
    cases hf : d.groups.find id with
    | none => rfl
    | some entry =>
      simp only [corre_revisa, corre_enGrupos_bind, corre_modify]
      split
      · rename_i err herr
        obtain ⟨e, he, hsome⟩ := exists_of_findSome?_eq_some herr
        split at hsome
        · rename_i hout
          cases hsome
          rw [if_pos (any_eq_true.mpr ⟨e, he, hout⟩)]
          rfl
        · cases hsome
      · rename_i hnone
        rw [if_neg]
        · rfl
        · intro hany
          obtain ⟨e, he, hout⟩ := any_eq_true.mp hany
          have := findSome?_eq_none_iff.mp hnone e he
          rw [if_pos hout] at this
          cases this

/-- **The handler statement by statement** does what that of Datapath.lean does, and an error
    leaves the state as it was. -/
theorem corre_groupTableHandleGroupMod (env : Entorno Mt Ac P) (slave : Bool) (mod : GroupMod Ac)
    (orden : List Nat) (now : Nat) (d : Dp Mt Ac Bd) :
    corre (groupTableHandleGroupMod env slave mod orden now) d =
      intacto d (d.groupTableHandleGroupMod env slave mod orden now) := by
  unfold groupTableHandleGroupMod Dp.groupTableHandleGroupMod
  rw [corre_si_bind]
  split
  · rfl
  · rw [corre_get_bind, corre_revisa]
    cases mod.buckets.findSome? fun b => dpActionsValidate env d.groups b.actions with
    | some e => rfl
    | none =>
      cases mod.command with
      | add => exact corre_groupTableAdd ..
      | modify => exact corre_groupTableModify ..
      | delete => exact corre_groupTableDelete ..
      | otro n => rfl

end Sentencias
/-! ## 5. Groups and meters -/

/-- **Group-table accounting and atomicity.** No two groups have one number, `entries_num` and
`buckets_num` are what they count, within the limits; and a group-mod that returns an error changes
nothing. -/
theorem group_accounting {c : Conmutador Mt P} {bandsNum : UInt64} {d : Dp Mt Action MeterBand}
    (h : Run (Dp.recibe c) (fun _ _ => True) (.create bandsNum) d) :
    d.groups.ids.Nodup ∧
    d.groups.entriesNum.toNat = d.groups.entries.length ∧
    d.groups.entries.length ≤ limitesGrupos.maxEntries.toNat ∧
    d.groups.itemsNum.toNat = (d.groups.entries.map (·.items.length)).sum ∧
    (d.groups.entries.map (·.items.length)).sum ≤ limitesGrupos.maxItems.toNat ∧
    ∀ (slave : Bool) (mod : GroupMod Action) (orden : List Nat) (now : Nat) (e : OflErr)
      (d' : Dp Mt Action MeterBand),
      (Sentencias.groupTableHandleGroupMod c.entorno slave mod orden now).corre d =
        (.error e, d') → d' = d := by
  have hc := Dp.cuadra_grupos h
  refine ⟨hc.unica, hc.entriesNum, hc.entriesMax, hc.itemsNum, hc.itemsMax, ?_⟩
  intro slave mod orden now e d' hrun
  rw [Sentencias.corre_groupTableHandleGroupMod] at hrun
  cases hr : d.groupTableHandleGroupMod c.entorno slave mod orden now with
  | error e' =>
    rw [hr] at hrun
    exact (congrArg Prod.snd hrun).symm
  | ok d1 =>
    rw [hr] at hrun
    cases congrArg Prod.fst hrun

/-- Two groups, the second leading to the first. A loop, a group that is there already and the end
    of a group that is still needed are refused. -/
theorem group_accounting_cadena :
    ∃ d : Dp Unit Action MeterBand,
      Run (Dp.recibe sinCampos) (fun _ _ => True) (.create 0) d ∧
      d.groups.entries.map (fun g => (g.id, g.items.length)) = [(2, 1), (1, 2)] ∧
      d.groups.entriesNum.toNat = 2 ∧ d.groups.itemsNum.toNat = 3 ∧
      (d.groups.entries.map (·.items.length)).sum ≤ limitesGrupos.maxItems.toNat ∧
      ∀ (slave : Bool) (mod : GroupMod Action) (orden : List Nat) (now : Nat) (e : OflErr)
        (d' : Dp Unit Action MeterBand),
        (Sentencias.groupTableHandleGroupMod sinCampos.entorno slave mod orden now).corre d =
          (.error e, d') → d' = d := by
  refine Run.exists_exec₃
    [.mensaje false (msgGrupo 0 1 [cubo (accSalida 3), cubo (accSalida 4)]) [] 0,
      .mensaje false (msgGrupo 0 2 [cubo (accGrupo 1)]) [1] 0,
      .mensaje false (msgGrupo 0 1 []) [1, 2] 0,
      .mensaje false (msgGrupo 1 1 [cubo (accGrupo 2)]) [1, 2] 0,
      .mensaje false (msgGrupo 2 1 []) [1, 2] 0]
    (by decide +kernel) fun d hrun => ?_
  obtain ⟨_, _, _, _, hmax, hatom⟩ := group_accounting hrun
  exact ⟨hmax, hatom⟩

/-- **Meter-table accounting**, if `bands_num` starts at 0: the counts are those of the meters and
their bands, and an ADD with a free number is refused only if a limit would be exceeded. -/
theorem meter_accounting {c : Conmutador Mt P} {d : Dp Mt Action MeterBand}
    (h : Run (Dp.recibe c) (fun _ _ => True) (.create 0) d) :
    d.meters.entriesNum.toNat = d.meters.entries.length ∧
    d.meters.itemsNum.toNat = (d.meters.entries.map (·.items.length)).sum ∧
    (d.meters.entries.map (·.items.length)).sum ≤ limitesMetros.maxItems.toNat ∧
    ∀ (buf : Bytes) (mod : MeterMod MeterBand) (orden : List Nat) (now : Nat) (e : OflErr),
      c.unpack buf = pure (.meterMod mod) → mod.command = .add →
      d.meters.find mod.meterId = none →
      d.meterTableHandleMeterMod false mod orden now = .error e →
      limitesMetros.maxEntries.toNat < d.meters.entries.length + 1 ∨
        limitesMetros.maxItems.toNat <
          (d.meters.entries.map (·.items.length)).sum + mod.bands.length := by
  have hc := Dp.cuadra_metros h
  refine ⟨hc.entriesNum, hc.itemsNum, hc.itemsMax, fun buf mod orden now e hb hcmd hid he => ?_⟩
  have hadd : d.meters.add limitesMetros mod.meterId mod.bands = .error e := by
    unfold Dp.meterTableHandleMeterMod at he
    rw [if_neg (by decide), hcmd] at he
    cases hr : d.meters.add limitesMetros mod.meterId mod.bands with
    | error e' =>
      rw [meterTableAdd, hr] at he
      cases he
      rfl
    | ok m =>
      rw [meterTableAdd, hr] at he
      cases he
  exact hc.add_error (by decide) (Conmutador.unpack_items hb) hid hadd

/-- Two meters, the first of which is modified, and a second one that is refused because it is
    there already. -/
theorem meter_accounting_dosMetros :
    ∃ d : Dp Unit Action MeterBand,
      Run (Dp.recibe sinCampos) (fun _ _ => True) (.create 0) d ∧
      d.meters.entries.map (fun m => (m.id, m.items.length)) = [(2, 5), (1, 3)] ∧
      d.meters.itemsNum.toNat = 8 ∧
      d.meters.entriesNum.toNat = d.meters.entries.length ∧
      d.meters.itemsNum.toNat = (d.meters.entries.map (·.items.length)).sum := by
  refine Run.exists_exec₂
    [.mensaje false (msgMetro 0 1 2) [] 0, .mensaje false (msgMetro 0 2 5) [1] 0,
      .mensaje false (msgMetro 0 2 1) [1, 2] 0, .mensaje false (msgMetro 1 1 3) [1, 2] 0]
    (by decide +kernel) fun d hrun _ _ => ?_
  obtain ⟨h3, h4, _⟩ := meter_accounting hrun
  exact ⟨h3, h4⟩

/-- **`bands_num` is not written**: where the memory of the table has 2000 there, the count is
    wrong from the start, and the first meter is refused for its one band. -/
theorem meter_accounting_fails :
    ∃ d : Dp Unit Action MeterBand,
      Run (Dp.recibe sinCampos) (fun _ _ => True) (.create 2000) d ∧
      d.meters.itemsNum.toNat ≠ (d.meters.entries.map (·.items.length)).sum ∧
      d.meters.entries = [] ∧
      ∃ mod : MeterMod MeterBand,
        sinCampos.unpack (msgMetro 0 1 1) = pure (.meterMod mod) ∧ mod.command = .add ∧
        mod.bands.length = 1 ∧
        d.meterTableHandleMeterMod false mod [] 0 = .error limitesMetros.sinItems := by
  refine ⟨.create 2000, .refl, by decide, rfl, ⟨.add, 1, [.drop 0 0]⟩, ?_, rfl, rfl, rfl⟩
  show (sinCampos.unpack (msgMetro 0 1 1)).run = some (.ok _)
  decide +kernel

end TcpPath.Udatapath
