/-
  Subject:   group_table.c and meter_table.c: two tables of one kind, whose entries know the flow
             entries that refer to them.

  Results:   `isLoopFreeRounds_isSome`: the check for loops returns.
-/
import TcpPath.OpenFlow.FlowMod
import TcpPath.Util.FirstMatch
import TcpPath.Util.KeyedLists
import TcpPath.Util.Worklist

namespace TcpPath.Udatapath

open Util List

/-! ## 1. Entries and tables -/

/-- A pointer to a flow entry: the table it is in, and which memory it has. -/
structure FlowPtr where
  tabla : Fin pipelineTables
  dir : Nat
  deriving DecidableEq, Repr

/-- `struct group_entry` and `struct meter_entry`, over the buckets and the bands. `refCount` is
    `stats->ref_count` and `stats->flow_count`. -/
structure RefEntry (β : Type) where
  id : Nat
  items : List β
  refCount : UInt32
  flowRefs : List FlowPtr
  deriving DecidableEq, Repr

/-- `struct group_table` and `struct meter_table`. -/
structure RefTable (β : Type) where
  entries : List (RefEntry β)
  entriesNum : UInt64
  itemsNum : UInt64
  deriving DecidableEq, Repr

/-- Where the two tables differ. -/
structure Limites where
  maxEntries : UInt64
  maxItems : UInt64
  existe : OflErr
  desconocido : OflErr
  sinEntradas : OflErr
  sinItems : OflErr

variable {β : Type}

namespace RefEntry

/-- `group_entry_add_flow_ref` and `meter_entry_add_flow_ref`. -/
def addFlowRef (fe : FlowPtr) (entry : RefEntry β) : RefEntry β :=
  if fe ∈ entry.flowRefs then entry
  else { entry with flowRefs := entry.flowRefs ++ [fe], refCount := entry.refCount + 1 }

/-- `group_entry_del_flow_ref` and `meter_entry_del_flow_ref`. -/
def delFlowRef (fe : FlowPtr) (entry : RefEntry β) : RefEntry β :=
  { entry with
    flowRefs := entry.flowRefs.filter (· != fe)
    refCount := entry.refCount - (entry.flowRefs.count fe).toUInt32 }

@[simp] theorem id_addFlowRef (fe : FlowPtr) (entry : RefEntry β) :
    (entry.addFlowRef fe).id = entry.id := by
  unfold addFlowRef
  split <;> rfl

@[simp] theorem id_delFlowRef (fe : FlowPtr) (entry : RefEntry β) :
    (entry.delFlowRef fe).id = entry.id := rfl

variable {fe p : FlowPtr} {entry : RefEntry β}

theorem mem_flowRefs_addFlowRef :
    p ∈ (entry.addFlowRef fe).flowRefs ↔ p ∈ entry.flowRefs ∨ p = fe := by
  unfold addFlowRef
  split
  · rename_i h
    constructor
    · exact .inl
    · rintro (hp | rfl)
      · exact hp
      · exact h
  · exact mem_append.trans (or_congr_right mem_singleton)

theorem mem_flowRefs_delFlowRef :
    p ∈ (entry.delFlowRef fe).flowRefs ↔ p ∈ entry.flowRefs ∧ p ≠ fe := by
  unfold delFlowRef
  rw [mem_filter, bne_iff_ne]

theorem nodup_addFlowRef (h : entry.flowRefs.Nodup) : (entry.addFlowRef fe).flowRefs.Nodup := by
  unfold addFlowRef
  split
  · exact h
  · rename_i hfe
    refine nodup_append.mpr ⟨h, nodup_singleton fe, fun a ha b hb hab => hfe ?_⟩
    rw [← mem_singleton.mp hb, ← hab]
    exact ha

theorem nodup_delFlowRef (h : entry.flowRefs.Nodup) : (entry.delFlowRef fe).flowRefs.Nodup :=
  h.filter _

theorem addFlowRef_idem (fe : FlowPtr) (entry : RefEntry β) :
    (entry.addFlowRef fe).addFlowRef fe = entry.addFlowRef fe := by
  have h : fe ∈ (entry.addFlowRef fe).flowRefs := mem_flowRefs_addFlowRef.mpr (.inr rfl)
  rw [addFlowRef, if_pos h]

theorem delFlowRef_idem (fe : FlowPtr) (entry : RefEntry β) :
    (entry.delFlowRef fe).delFlowRef fe = entry.delFlowRef fe := by
  have h : (entry.flowRefs.filter (· != fe)).count fe = 0 := by
    rw [count_eq_zero, mem_filter]
    simp
  simp only [delFlowRef, h, filter_filter, Bool.and_self]
  simp

end RefEntry

namespace RefTable

/-- `group_table_find` and `meter_table_find`. -/
def find (table : RefTable β) (id : Nat) : Option (RefEntry β) := table.entries.find? (·.id == id)

/-- The numbers in the map. -/
def ids (table : RefTable β) : List Nat := table.entries.map (·.id)

/-- An empty map, with whatever is in the counts. -/
def vacia (entriesNum itemsNum : UInt64) : RefTable β := ⟨[], entriesNum, itemsNum⟩

/-! ## 2. Changes of a table -/

/-- `group_table_add` and `meter_table_add`. -/
def add (lim : Limites) (table : RefTable β) (id : Nat) (items : List β) :
    Except OflErr (RefTable β) :=
  if (table.find id).isSome then .error lim.existe
  else if table.entriesNum = lim.maxEntries then .error lim.sinEntradas
  else if lim.maxItems < table.itemsNum + items.length.toUInt64 then .error lim.sinItems
  else
    .ok ⟨⟨id, items, 0, []⟩ :: table.entries, table.entriesNum + 1,
      table.itemsNum + items.length.toUInt64⟩

/-- `group_table_modify` and `meter_table_modify`; `veto` is what else speaks against it. The new
    entry takes over the references of the old one, and counts them from 0. -/
def modify (lim : Limites) (table : RefTable β) (id : Nat) (items : List β)
    (veto : Option OflErr) : Except OflErr (RefTable β) :=
  match table.find id with
  | none => .error lim.desconocido
  | some entry =>
      let num := table.itemsNum - entry.items.length.toUInt64 + items.length.toUInt64
      if lim.maxItems < num then .error lim.sinItems
      else
        match veto with
        | some e => .error e
        | none =>
            .ok { table with
              entries := modifyFirst (·.id == id) (fun old => ⟨id, items, 0, old.flowRefs⟩)
                table.entries
              itemsNum := num }

/-- The part of `group_table_delete` and `meter_table_delete` on one entry that is in the table
    itself. -/
def retira (table : RefTable β) (entry : RefEntry β) : RefTable β :=
  ⟨table.entries.eraseP (·.id == entry.id), table.entriesNum - 1,
    table.itemsNum - entry.items.length.toUInt64⟩

/-- What can happen to a table, references apart. -/
inductive Paso (table : RefTable β) : RefTable β → Prop
  | add {lim : Limites} {id : Nat} {items : List β} {table' : RefTable β}
      (h : table.add lim id items = .ok table') : Paso table table'
  | modify {lim : Limites} {id : Nat} {items : List β} {veto : Option OflErr}
      {table' : RefTable β} (h : table.modify lim id items veto = .ok table') : Paso table table'
  | retira (entry : RefEntry β) : Paso table (table.retira entry)
  | vacia (entriesNum itemsNum : UInt64) : Paso table (.vacia entriesNum itemsNum)

section Spec

variable {lim : Limites} {table table' : RefTable β} {id : Nat} {items : List β}

theorem mem_ids_iff : id ∈ table.ids ↔ (table.find id).isSome = true := by
  unfold ids find
  rw [find?_isSome, mem_map]
  simp only [beq_iff_eq]

theorem id_of_find {entry : RefEntry β} (h : table.find id = some entry) : entry.id = id :=
  eq_of_beq (find?_some h :)

theorem mem_of_find {entry : RefEntry β} (h : table.find id = some entry) :
    entry ∈ table.entries :=
  mem_of_find?_eq_some h

theorem add_ok (h : table.add lim id items = .ok table') :
    id ∉ table.ids ∧ table.entriesNum ≠ lim.maxEntries ∧
      ¬lim.maxItems < table.itemsNum + items.length.toUInt64 ∧
      table' = ⟨⟨id, items, 0, []⟩ :: table.entries, table.entriesNum + 1,
        table.itemsNum + items.length.toUInt64⟩ := by
  unfold add at h
  split at h
  · cases h
  · rename_i hnone
    split at h
    · cases h
    · rename_i hfull
      split at h
      · cases h
      · rename_i hover
        cases h
        exact ⟨fun hm => hnone (mem_ids_iff.mp hm), hfull, hover, rfl⟩

theorem modify_ok {veto : Option OflErr} (h : table.modify lim id items veto = .ok table') :
    veto = none ∧ ∃ entry, table.find id = some entry ∧
      ¬lim.maxItems < table.itemsNum - entry.items.length.toUInt64 + items.length.toUInt64 ∧
      table' = { table with
        entries := modifyFirst (·.id == id) (fun old => ⟨id, items, 0, old.flowRefs⟩)
          table.entries
        itemsNum := table.itemsNum - entry.items.length.toUInt64 + items.length.toUInt64 } := by
  unfold modify at h
  split at h
  · cases h
  · rename_i entry hf
    simp only at h
    split at h
    · cases h
    · rename_i hover
      split at h
      · cases h
      · cases h
        exact ⟨rfl, entry, hf, hover, rfl⟩

end Spec

/-! ## 3. References -/

/-- The loops over the references of a flow entry: each group or meter there is gets `f`. -/
def alRefs (f : RefEntry β → RefEntry β) (refs : List Nat) (table : RefTable β) : RefTable β :=
  { table with
    entries := refs.foldl (fun es id => modifyFirst (·.id == id) f es) table.entries }

/-- A flow entry announces itself to what it refers to. -/
def addRefs (fe : FlowPtr) (refs : List Nat) (table : RefTable β) : RefTable β :=
  table.alRefs (·.addFlowRef fe) refs

/-- A flow entry takes its leave of what it refers to. -/
def delRefs (fe : FlowPtr) (refs : List Nat) (table : RefTable β) : RefTable β :=
  table.alRefs (·.delFlowRef fe) refs

/-- No two entries have one number. -/
def Unica (table : RefTable β) : Prop := table.ids.Nodup

section Unica

variable {lim : Limites} {table table' : RefTable β} {id : Nat} {items : List β}

theorem Unica.add (h : table.Unica) (hadd : table.add lim id items = .ok table') :
    table'.Unica := by
  obtain ⟨hfree, _, _, rfl⟩ := add_ok hadd
  exact nodup_cons.mpr ⟨hfree, h⟩

variable {veto : Option OflErr} {f : RefEntry β → RefEntry β}

theorem ids_modify (hmod : table.modify lim id items veto = .ok table') :
    table'.ids = table.ids := by
  obtain ⟨_, _, _, _, rfl⟩ := modify_ok hmod
  exact map_modifyFirst (f := fun old : RefEntry β => ⟨id, items, 0, old.flowRefs⟩) RefEntry.id
    (fun e he => (eq_of_beq he).symm) _

theorem Unica.modify (h : table.Unica) (hmod : table.modify lim id items veto = .ok table') :
    table'.Unica := by
  unfold Unica
  rw [ids_modify hmod]
  exact h

theorem Unica.retira (h : table.Unica) (entry : RefEntry β) : (table.retira entry).Unica :=
  (eraseP_sublist.map _).nodup h

theorem find_of_mem (h : table.Unica) {entry : RefEntry β} (he : entry ∈ table.entries) :
    table.find entry.id = some entry :=
  find?_of_key h he fun _ => beq_iff_eq

/-! What is found behind a change. -/

theorem find_add (hadd : table.add lim id items = .ok table') (a : Nat) :
    table'.find a = if a = id then some ⟨id, items, 0, []⟩ else table.find a := by
  obtain ⟨_, _, _, rfl⟩ := add_ok hadd
  unfold find
  rw [find?_cons]
  by_cases ha : a = id
  · simp [ha]
  · rw [if_neg ha, beq_eq_false_iff_ne.mpr (Ne.symm ha)]

theorem find_modify (hmod : table.modify lim id items veto = .ok table') (a : Nat) :
    table'.find a =
      if a = id then (table.find a).map fun old => ⟨id, items, 0, old.flowRefs⟩
      else table.find a := by
  obtain ⟨_, _, _, _, rfl⟩ := modify_ok hmod
  exact find?_key_modifyFirst RefEntry.id (fun old => ⟨id, items, 0, old.flowRefs⟩)
    (fun _ => rfl) _ a

theorem find_retira (h : table.Unica) (entry : RefEntry β) (a : Nat) :
    (table.retira entry).find a = if a = entry.id then none else table.find a :=
  find?_key_eraseP RefEntry.id h a

theorem foldl_modifyFirst_eq_map (hid : ∀ e, (f e).id = e.id) (hf : ∀ e, f (f e) = f e)
    (refs : List Nat) {es : List (RefEntry β)} (h : (es.map (·.id)).Nodup) :
    refs.foldl (fun es id => modifyFirst (·.id == id) f es) es =
      es.map fun e => if e.id ∈ refs then f e else e := by
  induction refs generalizing es with
  | nil => simp
  | cons id refs ih =>
    rw [foldl_cons, modifyFirst_eq_map h, ih, map_map]
    · refine map_congr_left fun e _ => ?_
      show (if (if e.id = id then f e else e).id ∈ refs then f (if e.id = id then f e else e)
        else if e.id = id then f e else e) = _
      by_cases h1 : e.id = id <;> by_cases h2 : e.id ∈ refs <;> simp_all
    · rw [map_map]
      refine Eq.subst (motive := List.Nodup) (map_congr_left fun e _ => ?_) h
      show e.id = (if e.id = id then f e else e).id
      split
      · exact (hid e).symm
      · rfl

/-- **A notification, entry by entry.** -/
theorem entries_alRefs (hid : ∀ e, (f e).id = e.id) (hf : ∀ e, f (f e) = f e) (refs : List Nat)
    (h : table.Unica) :
    (table.alRefs f refs).entries = table.entries.map fun e => if e.id ∈ refs then f e else e :=
  foldl_modifyFirst_eq_map hid hf refs h

theorem ids_alRefs (hid : ∀ e, (f e).id = e.id) (refs : List Nat) (table : RefTable β) :
    (table.alRefs f refs).ids = table.ids := by
  unfold alRefs ids
  generalize table.entries = es
  induction refs generalizing es with
  | nil => rfl
  | cons id refs ih =>
    rw [foldl_cons, ih, map_modifyFirst (·.id) fun e _ => hid e]

end Unica

end RefTable

/-! ## 4. Groups and meters -/

/-- `struct ofl_bucket`, as far as the tables read it. -/
structure Bucket (Ac : Type) where
  actions : List Ac
  deriving DecidableEq, Repr

/-- `OFPET_GROUP_MOD_FAILED` with a code of openflow.h. -/
def groupModFailed (code : Nat) : OflErr := ⟨.otro 6, .otro code⟩

/-- `OFPET_METER_MOD_FAILED` with a code of openflow.h. -/
def meterModFailed (code : Nat) : OflErr := ⟨.otro 12, .otro code⟩

/-- `GROUP_TABLE_MAX_ENTRIES` and `GROUP_TABLE_MAX_BUCKETS`; `OFPGMFC_GROUP_EXISTS`,
    `OFPGMFC_UNKNOWN_GROUP`, `OFPGMFC_OUT_OF_GROUPS`, `OFPGMFC_OUT_OF_BUCKETS`. -/
def limitesGrupos : Limites where
  maxEntries := 4096
  maxItems := 8192
  existe := groupModFailed 0
  desconocido := groupModFailed 8
  sinEntradas := groupModFailed 3
  sinItems := groupModFailed 4

/-- `DEFAULT_MAX_METER` and `METER_TABLE_MAX_BANDS`; `OFPMMFC_METER_EXISTS`,
    `OFPMMFC_UNKNOWN_METER`, `OFPMMFC_OUT_OF_METERS`, `OFPMMFC_OUT_OF_BANDS`. -/
def limitesMetros : Limites where
  maxEntries := 256
  maxItems := 1024
  existe := meterModFailed 1
  desconocido := meterModFailed 3
  sinEntradas := meterModFailed 10
  sinItems := meterModFailed 11

/-- `meter_table_add`. -/
def meterTableAdd (table : RefTable β) (id : Nat) (bands : List β) :
    Except OflErr (RefTable β) :=
  table.add limitesMetros id bands

/-- `meter_table_modify`. -/
def meterTableModify (table : RefTable β) (id : Nat) (bands : List β) :
    Except OflErr (RefTable β) :=
  table.modify limitesMetros id bands none

section Grupos

variable {Ac : Type} (grupo : Ac → Option Nat)

/-- The numbers in the `OFPAT_GROUP` actions of buckets, in the order of the buckets. -/
def gruposDe (buckets : List (Bucket Ac)) : List Nat :=
  buckets.flatMap fun b => b.actions.filterMap grupo

/-- The groups the buckets of a group in the table lead to. -/
def hijos (table : RefTable (Bucket Ac)) (id : Nat) : List Nat :=
  ((table.find id).map fun entry => gruposDe grupo entry.items).getD []

/-- The loop of `is_loop_free` with a bound on its rounds. -/
def isLoopFreeRounds (table : RefTable (Bucket Ac)) (id : Nat) (buckets : List (Bucket Ac))
    (k : Nat) : Option Bool :=
  search (hijos grupo table) id k [] (pushNew [] (gruposDe grupo buckets) [])

/-- All the numbers the loop can come by. -/
def alcance (table : RefTable (Bucket Ac)) (buckets : List (Bucket Ac)) : List Nat :=
  gruposDe grupo buckets ++ table.entries.flatMap fun entry => gruposDe grupo entry.items

/-- `is_loop_free`: the table, and the number and the buckets of the message. -/
def isLoopFree (table : RefTable (Bucket Ac)) (id : Nat) (buckets : List (Bucket Ac)) : Bool :=
  (isLoopFreeRounds grupo table id buckets (2 * (alcance grupo table buckets).length)).getD false

theorem mem_alcance_of_mem_hijos {table : RefTable (Bucket Ac)} (buckets : List (Bucket Ac))
    {id g : Nat} (h : g ∈ hijos grupo table id) : g ∈ alcance grupo table buckets := by
  unfold hijos at h
  cases hf : table.find id with
  | none =>
    rw [hf] at h
    cases h
  | some entry =>
    rw [hf] at h
    exact mem_append_right _
      (mem_flatMap.mpr ⟨entry, mem_of_find?_eq_some hf, h⟩)

/-- **`is_loop_free` returns**: the rounds it is given are enough, whatever the table. -/
theorem isLoopFreeRounds_isSome (table : RefTable (Bucket Ac)) (id : Nat)
    (buckets : List (Bucket Ac)) :
    (isLoopFreeRounds grupo table id buckets
      (2 * (alcance grupo table buckets).length)).isSome = true := by
  refine search_isSome (U := (alcance grupo table buckets).toFinset) (fun a b hb => ?_) id
    (nodup_pushNew nodup_nil) (fun a ha => ?_) ?_
  · exact mem_toFinset.mpr (mem_alcance_of_mem_hijos grupo buckets hb)
  · rcases mem_pushNew.mp ha with ha | ha
    · cases ha
    · exact mem_toFinset.mpr (mem_append_left _ ha.1)
  · calc ∑ a ∈ (alcance grupo table buckets).toFinset, pending [] _ a
        ≤ (alcance grupo table buckets).toFinset.card • 2 :=
          Finset.sum_le_card_nsmul _ _ 2 fun a _ => pending_le _ _ a
      _ ≤ 2 * (alcance grupo table buckets).length := by
          rw [smul_eq_mul, Nat.mul_comm]
          exact Nat.mul_le_mul_left 2 (toFinset_card_le _)

/-- `group_table_add`. -/
def groupTableAdd (table : RefTable (Bucket Ac)) (id : Nat) (buckets : List (Bucket Ac)) :
    Except OflErr (RefTable (Bucket Ac)) :=
  table.add limitesGrupos id buckets

/-- `group_table_modify`, with `OFPGMFC_LOOP`. -/
def groupTableModify (table : RefTable (Bucket Ac)) (id : Nat) (buckets : List (Bucket Ac)) :
    Except OflErr (RefTable (Bucket Ac)) :=
  table.modify limitesGrupos id buckets
    (if isLoopFree grupo table id buckets then none else some (groupModFailed 7))

end Grupos

end TcpPath.Udatapath
