/-
  Subject:   Groups that lead to groups: the chains have an end (group_table.c).

  * **`Dp.encadenada_recibe`**: so in every state the messages lead to.
-/
import TcpPath.OpenFlow.Accounting
import TcpPath.Util.Acyclic

namespace TcpPath.Udatapath

open Util

variable {Mt Ac P : Type}

/-! ## 1. Chains of groups -/

section Cadenas

variable (grupo : Ac → Option Nat)

/-- A bucket of group `a` leads to group `b`. -/
def LlevaA (table : RefTable (Bucket Ac)) (a b : Nat) : Prop := b ∈ hijos grupo table a

/-- **No dead ends and no loops.** -/
structure RefTable.Encadenada (table : RefTable (Bucket Ac)) : Prop where
  unica : table.Unica
  existen : ∀ a b, LlevaA grupo table a b → b ∈ table.ids
  aciclica : Acyclic (LlevaA grupo table)

variable {grupo} {table table' : RefTable (Bucket Ac)} {id : Nat} {buckets : List (Bucket Ac)}

theorem mem_gruposDe {g : Nat} :
    g ∈ gruposDe grupo buckets ↔ ∃ b ∈ buckets, ∃ a ∈ b.actions, grupo a = some g := by
  simp only [gruposDe, List.mem_flatMap, List.mem_filterMap]

theorem hijos_sinRefs (table : RefTable (Bucket Ac)) (id : Nat) :
    hijos grupo table.sinRefs id = hijos grupo table id := by
  unfold hijos
  rw [RefTable.find_sinRefs, Option.map_map]
  rfl

theorem hijos_of_find {entry : RefEntry (Bucket Ac)} (h : table.find id = some entry) :
    hijos grupo table id = gruposDe grupo entry.items := by
  unfold hijos
  rw [h]
  rfl

theorem LlevaA.mem_ids {a b : Nat} (h : LlevaA grupo table a b) : a ∈ table.ids := by
  rw [RefTable.mem_ids_iff]
  unfold LlevaA hijos at h
  cases hf : table.find a with
  | none =>
    rw [hf] at h
    cases h
  | some entry => rfl

theorem isLoopFreeRounds_eq (grupo : Ac → Option Nat) (table : RefTable (Bucket Ac)) (id : Nat)
    (buckets : List (Bucket Ac)) :
    isLoopFreeRounds grupo table id buckets (2 * (alcance grupo table buckets).length) =
      some (isLoopFree grupo table id buckets) := by
  obtain ⟨b, hb⟩ := Option.isSome_iff_exists.mp (isLoopFreeRounds_isSome grupo table id buckets)
  rw [isLoopFree, hb, Option.getD_some]

theorem libre_of_isLoopFree (h : isLoopFree grupo table id buckets = true) :
    ∀ g ∈ gruposDe grupo buckets,
      ¬Relation.ReflTransGen (fun a b => a ≠ id ∧ LlevaA grupo table a b) g id := by
  intro g hg hpath
  have hsearch := isLoopFreeRounds_eq grupo table id buckets
  rw [h] at hsearch
  refine search_reach hsearch (fun a ha => (nomatch ha)) (a := g) (.inr ?_)
    (Relation.ReflTransGen.mono (fun a b hab => hab.2) _ _ hpath) rfl
  exact mem_pushNew.mpr (.inr ⟨hg, List.not_mem_nil⟩)

/-- A table in which group `id` has other buckets. -/
def RefTable.conBuckets (table : RefTable (Bucket Ac)) (id : Nat) (buckets : List (Bucket Ac)) :
    RefTable (Bucket Ac) :=
  { table with
    entries := modifyFirst (·.id == id) (fun old => ⟨id, buckets, old.refCount, old.flowRefs⟩)
      table.entries }

theorem llevaA_conBuckets (hid : id ∈ table.ids) {a b : Nat} :
    LlevaA grupo (table.conBuckets id buckets) a b ↔
      if a = id then b ∈ gruposDe grupo buckets else LlevaA grupo table a b := by
  have hfind : (table.conBuckets id buckets).find a =
      if a = id then (table.find a).map fun old => ⟨id, buckets, old.refCount, old.flowRefs⟩
      else table.find a :=
    find?_key_modifyFirst RefEntry.id
      (fun old => (⟨id, buckets, old.refCount, old.flowRefs⟩ : RefEntry (Bucket Ac)))
      (fun _ => rfl) _ a
  split
  · rename_i ha
    subst ha
    obtain ⟨old, hold⟩ := Option.isSome_iff_exists.mp (RefTable.mem_ids_iff.mp hid)
    rw [if_pos rfl, hold] at hfind
    rw [LlevaA, hijos_of_find hfind]
  · rename_i ha
    rw [if_neg ha] at hfind
    rw [LlevaA, hijos, hfind]
    rfl

/-- **The loop check is exact.** On a table without loops `is_loop_free` returns, and agrees to new
    buckets of a group if and only if there is no loop with them, whichever groups they lead to. -/
theorem is_loop_free_exact (h : Acyclic (LlevaA grupo table)) (hid : id ∈ table.ids)
    (buckets : List (Bucket Ac)) :
    isLoopFreeRounds grupo table id buckets (2 * (alcance grupo table buckets).length) =
        some (isLoopFree grupo table id buckets) ∧
      (isLoopFree grupo table id buckets = true ↔
        Acyclic (LlevaA grupo (table.conBuckets id buckets))) := by
  refine ⟨isLoopFreeRounds_eq grupo table id buckets, fun hfree => ?_, fun hac => ?_⟩
  · have hfuera : ∀ a b, a ≠ id → LlevaA grupo (table.conBuckets id buckets) a b →
        LlevaA grupo table a b := fun a b ha hab => by
      rwa [llevaA_conBuckets hid, if_neg ha] at hab
    refine h.rewire (x := id) hfuera fun g hg hpath => ?_
    rw [llevaA_conBuckets hid, if_pos rfl] at hg
    exact libre_of_isLoopFree hfree g hg (Relation.ReflTransGen.mono
      (fun a b hab => ⟨hab.1, hfuera a b hab.1 hab.2⟩) _ _ hpath)
  · by_contra hno
    have hsearch := isLoopFreeRounds_eq grupo table id buckets
    rw [Bool.eq_false_iff.mpr hno] at hsearch
    obtain ⟨g, hg, hpath⟩ := search_found hsearch
    obtain ⟨hg, _⟩ := (mem_pushNew.mp hg).resolve_left List.not_mem_nil
    -- the new edge from `id`, and then the way back that the search has found
    refine hac id (.head' ((llevaA_conBuckets hid).mpr ?_) (Relation.ReflTransGen.mono
      (fun a b hab => (llevaA_conBuckets hid).mpr ?_) g id hpath))
    · rw [if_pos rfl]
      exact hg
    · rw [if_neg hab.1]
      exact hab.2

/-- Group 1 leads to 2, and 2 to a group that is not there; 2 may lead to 3, but not to 1. -/
theorem is_loop_free_exact_cadena :
    let table : RefTable (Bucket Nat) := ⟨[⟨1, [⟨[2]⟩], 0, []⟩, ⟨2, [⟨[7]⟩], 0, []⟩], 2, 2⟩
    Acyclic (LlevaA some (table.conBuckets 2 [⟨[3]⟩])) ∧
      ¬Acyclic (LlevaA some (table.conBuckets 2 [⟨[3]⟩, ⟨[4, 1]⟩])) := by
  intro table
  have hlt : ∀ a b, LlevaA some table a b → a < b := by
    intro a b hab
    have hall : ∀ e ∈ table.entries, ∀ g ∈ gruposDe some e.items, e.id < g := by decide
    obtain ⟨e, he⟩ := Option.isSome_iff_exists.mp (RefTable.mem_ids_iff.mp hab.mem_ids)
    rw [LlevaA, hijos_of_find he] at hab
    exact RefTable.id_of_find he ▸ hall e (RefTable.mem_of_find he) b hab
  have hac : Acyclic (LlevaA some table) := Acyclic.of_lt hlt
  have hid : 2 ∈ table.ids := by decide
  refine ⟨(is_loop_free_exact hac hid _).2.mp (by decide), fun hbad => ?_⟩
  exact absurd ((is_loop_free_exact hac hid _).2.mpr hbad) (by decide)

namespace RefTable.Encadenada

theorem of_sinRefs (h : table.Encadenada grupo) (heq : table'.sinRefs = table.sinRefs) :
    table'.Encadenada grupo := by
  have hids := ids_of_sinRefs heq
  have hlleva : LlevaA grupo table' = LlevaA grupo table := by
    funext a b
    unfold LlevaA
    rw [← hijos_sinRefs, heq, hijos_sinRefs]
  refine ⟨?_, ?_, ?_⟩
  · unfold Unica
    rw [hids]
    exact h.unica
  · rw [hlleva, hids]
    exact h.existen
  · rw [hlleva]
    exact h.aciclica

theorem vacia (n m : UInt64) : (RefTable.vacia n m : RefTable (Bucket Ac)).Encadenada grupo := by
  refine ⟨List.nodup_nil, fun a b hab => (nomatch hab), fun a ha => ?_⟩
  obtain ⟨b, hb, _⟩ := Relation.TransGen.head'_iff.mp ha
  cases hb

/-- **The groups of `id` are exchanged** for such as there are, and that do not lead back to
    it. -/
theorem recableada (h : table.Encadenada grupo) (id : Nat) (hunica : table'.Unica)
    (hids : ∀ g ∈ table.ids, g ∈ table'.ids)
    (hhijos : ∀ a, a ≠ id → hijos grupo table' a = hijos grupo table a)
    (hid : hijos grupo table' id = gruposDe grupo buckets)
    (hval : ∀ g ∈ gruposDe grupo buckets, g ∈ table.ids)
    (hlibre : ∀ g ∈ gruposDe grupo buckets,
      ¬Relation.ReflTransGen (fun a b => a ≠ id ∧ LlevaA grupo table a b) g id) :
    table'.Encadenada grupo := by
  have hfuera : ∀ a b, a ≠ id → (LlevaA grupo table' a b ↔ LlevaA grupo table a b) := by
    intro a b ha
    unfold LlevaA
    rw [hhijos a ha]
  refine ⟨hunica, fun a b hab => hids b ?_, ?_⟩
  · by_cases ha : a = id
    · subst ha
      rw [LlevaA, hid] at hab
      exact hval b hab
    · exact h.existen a b ((hfuera a b ha).mp hab)
  · refine h.aciclica.rewire (x := id) (fun a b ha hab => (hfuera a b ha).mp hab)
      fun g hg hpath => hlibre g ?_ (Relation.ReflTransGen.mono
        (fun a b hab => ⟨hab.1, (hfuera a b hab.1).mp hab.2⟩) _ _ hpath)
    rw [LlevaA, hid] at hg
    exact hg

theorem add (h : table.Encadenada grupo) (hval : ∀ g ∈ gruposDe grupo buckets, g ∈ table.ids)
    (hg : groupTableAdd table id buckets = .ok table') : table'.Encadenada grupo := by
  have hfind := find_add hg
  have hfree : id ∉ table.ids := (add_ok hg).1
  refine h.recableada id (h.unica.add hg) (fun g hm => ?_) (fun a ha => ?_) ?_ hval
    fun g hgb hpath => ?_
  · rw [mem_ids_iff, hfind]
    split
    · rfl
    · exact mem_ids_iff.mp hm
  · unfold hijos
    rw [hfind, if_neg ha]
  · exact hijos_of_find ((hfind id).trans (if_pos rfl))
  · rcases Relation.ReflTransGen.cases_tail hpath with rfl | ⟨a, _, ha⟩
    · exact hfree (hval _ hgb)
    · exact hfree (h.existen a id ha.2)

theorem modify (h : table.Encadenada grupo) (hval : ∀ g ∈ gruposDe grupo buckets, g ∈ table.ids)
    (hg : groupTableModify grupo table id buckets = .ok table') : table'.Encadenada grupo := by
  have hfind := find_modify hg
  obtain ⟨hveto, entry, hf, _, _⟩ := modify_ok hg
  have hfree : isLoopFree grupo table id buckets = true := by
    by_contra hno
    rw [if_neg hno] at hveto
    cases hveto
  refine h.recableada id (h.unica.modify hg) (fun g hm => ?_) (fun a ha => ?_) ?_ hval
    (libre_of_isLoopFree hfree)
  · rw [ids_modify hg]
    exact hm
  · unfold hijos
    rw [hfind, if_neg ha]
  · have hnew : table'.find id = some ⟨id, buckets, 0, entry.flowRefs⟩ := by
      rw [hfind, if_pos rfl, hf]
      rfl
    exact hijos_of_find hnew

theorem retira (h : table.Encadenada grupo) {entry : RefEntry (Bucket Ac)}
    (hno : ∀ e ∈ table.entries, entry.id ∉ gruposDe grupo e.items) :
    (table.retira entry).Encadenada grupo := by
  have hfind := find_retira h.unica entry
  have hsub : ∀ a b, LlevaA grupo (table.retira entry) a b → LlevaA grupo table a b := by
    intro a b hab
    unfold LlevaA hijos at hab ⊢
    rw [hfind] at hab
    split at hab
    · cases hab
    · exact hab
  refine ⟨h.unica.retira entry, fun a b hab => ?_, h.aciclica.mono hsub⟩
  have hb := h.existen a b (hsub a b hab)
  rw [mem_ids_iff, hfind, if_neg]
  · exact mem_ids_iff.mp hb
  · rintro rfl
    obtain ⟨e, hf⟩ := Option.isSome_iff_exists.mp (mem_ids_iff.mp (hsub a _ hab).mem_ids)
    have hmem := hsub a _ hab
    rw [LlevaA, hijos_of_find hf] at hmem
    exact hno e (mem_of_find hf) hmem

/-- **Every accepted group-mod** whose group actions have numbers up to `OFPG_MAX`. -/
theorem cambio {env : Entorno Mt Ac P} {mod : GroupMod Ac} (h : table.Encadenada env.grupo)
    (hle : ∀ a ∈ mod.buckets.flatMap (·.actions), ∀ g, env.grupo a = some g → g ≤ ofpgMax)
    (hc : CambioGrupos env mod table table') : table'.Encadenada env.grupo := by
  have hids : HayGrupos env table (mod.buckets.flatMap (·.actions)) →
      ∀ g ∈ gruposDe env.grupo mod.buckets, g ∈ table.ids := by
    intro hval g hg
    obtain ⟨b, hb, a, ha, hga⟩ := mem_gruposDe.mp hg
    have hmem := List.mem_flatMap.mpr ⟨b, hb, ha⟩
    exact mem_ids_iff.mpr (hval a hmem g hga (hle a hmem g hga))
  cases hc with
  | nada => exact h
  | add hval hg => exact h.add (hids hval) hg
  | modify hval hg => exact h.modify (hids hval) hg
  | deleteAll => exact .vacia 0 0
  | delete hf hno =>
    refine h.retira fun e he hmem => ?_
    obtain ⟨b, hb, a, ha, hga⟩ := mem_gruposDe.mp hmem
    have hout := hno e he
    unfold groupEntryHasOutGroup at hout
    refine Bool.eq_false_iff.mp hout (List.any_eq_true.mpr ⟨b, hb, ?_⟩)
    rw [env.listHasOutGroup_eq]
    exact List.any_eq_true.mpr ⟨a, ha, beq_iff_eq.mpr hga⟩

end RefTable.Encadenada

end Cadenas

theorem Dp.encadenada_recibe {c : Conmutador Mt P}
    {ok : Dp Mt Action MeterBand → Llegada P → Prop} {bandsNum : UInt64}
    {d : Dp Mt Action MeterBand} (h : Run (recibe c) ok (create bandsNum) d) :
    d.groups.Encadenada Action.grupo := by
  refine h.invariant (I := fun d => d.groups.Encadenada Action.grupo) (.vacia 0 0)
    fun _ _ _ hd _ hp => grupos_recibe (fun ht heq => ht.of_sinRefs heq)
      (fun {_ _ t _} hb ht hg => ?_) hp hd
  have ht' : t.Encadenada c.entorno.grupo := ht
  exact ht'.cambio (Conmutador.unpack_grupos hb) hg

end TcpPath.Udatapath
