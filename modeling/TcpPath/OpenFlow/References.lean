/-
  Subject:   The references that groups and meters keep to flow entries never dangle.
-/
import TcpPath.OpenFlow.Refinement

namespace TcpPath.Udatapath

open Util List Function

/-! ## 1. Tables of references -/

namespace RefTable

variable {β : Type}

/-- A table whose references are all `viva`. -/
structure Bien (viva : Nat → FlowPtr → Prop) (table : RefTable β) : Prop where
  unica : table.Unica
  nodup : ∀ e ∈ table.entries, e.flowRefs.Nodup
  vivas : ∀ e ∈ table.entries, ∀ p ∈ e.flowRefs, viva e.id p

namespace Bien

variable {viva viva' : Nat → FlowPtr → Prop} {table table' : RefTable β}

theorem vacia (n m : UInt64) : (RefTable.vacia n m : RefTable β).Bien viva :=
  ⟨nodup_nil, fun _ he => (nomatch he), fun _ he => (nomatch he)⟩

theorem mono (h : table.Bien viva) (hv : ∀ id p, viva id p → viva' id p) : table.Bien viva' :=
  { h with vivas := fun e he p hp => hv _ _ (h.vivas e he p hp) }

variable {refs : List Nat} {fe : FlowPtr} {lim : Limites} {id : Nat} {items : List β}

theorem alRefs (h : table.Bien viva) {f : RefEntry β → RefEntry β} (hid : ∀ e, (f e).id = e.id)
    (hf : ∀ e, f (f e) = f e) (hn : ∀ e : RefEntry β, e.flowRefs.Nodup → (f e).flowRefs.Nodup)
    (hin : ∀ e : RefEntry β, e.id ∈ refs → (∀ p ∈ e.flowRefs, viva e.id p) →
      ∀ p ∈ (f e).flowRefs, viva' e.id p) (hout : ∀ id p, id ∉ refs → viva id p → viva' id p) :
    (table.alRefs f refs).Bien viva' := by
  have hent := entries_alRefs hid hf refs h.unica
  refine ⟨?_, ?_, ?_⟩
  · unfold Unica
    rw [ids_alRefs hid]
    exact h.unica
  · rw [hent, forall_mem_map]
    intro e he
    split
    · exact hn e (h.nodup e he)
    · exact h.nodup e he
  · rw [hent, forall_mem_map]
    intro e he
    split
    · rename_i hmem
      rw [hid]
      exact hin e hmem (h.vivas e he)
    · rename_i hmem
      exact fun p hp => hout e.id p hmem (h.vivas e he p hp)

theorem addRefs (h : table.Bien viva) (hfe : ∀ id ∈ refs, viva id fe) :
    (table.addRefs fe refs).Bien viva := by
  refine h.alRefs (RefEntry.id_addFlowRef fe) (RefEntry.addFlowRef_idem fe)
    (fun _ => RefEntry.nodup_addFlowRef) (fun e hid hv p hp => ?_) (fun _ _ _ hv => hv)
  rcases RefEntry.mem_flowRefs_addFlowRef.mp hp with hp | rfl
  · exact hv p hp
  · exact hfe e.id hid

theorem delRefs (h : table.Bien viva) (hfe : ∀ id, viva id fe → id ∈ refs)
    (hv : ∀ id p, viva id p → p ≠ fe → viva' id p) : (table.delRefs fe refs).Bien viva' := by
  refine h.alRefs (RefEntry.id_delFlowRef fe) (RefEntry.delFlowRef_idem fe)
    (fun _ => RefEntry.nodup_delFlowRef) (fun e _ hall p hp => ?_) (fun id p hid hp => ?_)
  · obtain ⟨hp, hne⟩ := RefEntry.mem_flowRefs_delFlowRef.mp hp
    exact hv _ _ (hall p hp) hne
  · refine hv id p hp ?_
    rintro rfl
    exact hid (hfe id hp)

theorem add (h : table.Bien viva) (ht : table.add lim id items = .ok table') :
    table'.Bien viva := by
  refine ⟨h.unica.add ht, fun e he => ?_, fun e he => ?_⟩
  all_goals
    obtain ⟨_, _, _, rfl⟩ := add_ok ht
    rcases mem_cons.mp he with rfl | he
  · exact nodup_nil
  · exact h.nodup e he
  · exact fun _ hp => (nomatch hp)
  · exact h.vivas e he

theorem modify (h : table.Bien viva) {veto : Option OflErr}
    (ht : table.modify lim id items veto = .ok table') : table'.Bien viva := by
  have hold : ∀ e ∈ table'.entries,
      ∃ old ∈ table.entries, e.id = old.id ∧ e.flowRefs = old.flowRefs := by
    obtain ⟨_, _, _, _, rfl⟩ := modify_ok ht
    intro e he
    rcases mem_modifyFirst he with he | ⟨old, hold, rfl⟩
    · exact ⟨e, he, rfl, rfl⟩
    · exact ⟨old, mem_of_find hold, (id_of_find hold).symm, rfl⟩
  refine ⟨h.unica.modify ht, fun e he => ?_, fun e he => ?_⟩
  · obtain ⟨old, ho, _, hr⟩ := hold e he
    exact hr ▸ h.nodup old ho
  · obtain ⟨old, ho, hid, hr⟩ := hold e he
    rw [hid, hr]
    exact h.vivas old ho

theorem retira (h : table.Bien viva) (entry : RefEntry β) : (table.retira entry).Bien viva := by
  have hsub : (table.retira entry).entries.Sublist table.entries := eraseP_sublist
  exact ⟨h.unica.retira entry, fun e he => h.nodup e (hsub.subset he),
    fun e he => h.vivas e (hsub.subset he)⟩

theorem paso (h : table.Bien viva) (hp : table.Paso table') : table'.Bien viva := by
  cases hp with
  | add ht => exact h.add ht
  | modify ht => exact h.modify ht
  | retira entry => exact h.retira entry
  | vacia n m => exact .vacia n m

end Bien

end RefTable

variable {β Mt Ac Bd P : Type}

/-! ## 2. References to flow entries -/

/-- **A living reference** of the group or meter `id`: there is an entry where it points to, and
    it refers back. -/
def Viva (refs : Entrada Mt Ac → List Nat) (L : Fin pipelineTables → List (Entrada Mt Ac))
    (id : Nat) (p : FlowPtr) : Prop :=
  ∃ e ∈ L p.tabla, e.dir = p.dir ∧ id ∈ refs e

section Viva

variable {refs : Entrada Mt Ac → List Nat} {L L' : Fin pipelineTables → List (Entrada Mt Ac)}
  {t : Fin pipelineTables} {antes despues : List (Entrada Mt Ac)} {table : RefTable β}

theorem viva_congr (h : ∀ t, (L' t).map (fun e => (e.dir, refs e)) =
    (L t).map fun e => (e.dir, refs e)) : Viva refs L' = Viva refs L := by
  have hv : ∀ (L : Fin pipelineTables → List (Entrada Mt Ac)) id (p : FlowPtr),
      Viva refs L id p ↔ ∃ x ∈ (L p.tabla).map (fun e => (e.dir, refs e)),
        x.1 = p.dir ∧ id ∈ x.2 := by
    intro L id p
    simp only [mem_map, exists_exists_and_eq_and, Viva]
  funext id p
  rw [eq_iff_iff, hv, hv, h]

variable {nueva : Entrada Mt Ac} {id : Nat} {p : FlowPtr} {entry : Entrada Mt Ac}

theorem viva_inserta (hL : L t = antes ++ despues) :
    Viva refs (Function.update L t (antes ++ nueva :: despues)) id p ↔
      Viva refs L id p ∨ p = ⟨t, nueva.dir⟩ ∧ id ∈ refs nueva := by
  obtain ⟨t', k⟩ := p
  unfold Viva
  by_cases ht : t' = t
  · subst ht
    simp only [update_self, hL, mem_append, mem_cons, FlowPtr.mk.injEq,
      true_and]
    constructor
    · rintro ⟨e, he | rfl | he, hd, hid⟩
      · exact .inl ⟨e, .inl he, hd, hid⟩
      · exact .inr ⟨hd.symm, hid⟩
      · exact .inl ⟨e, .inr he, hd, hid⟩
    · rintro (⟨e, he | he, hd, hid⟩ | ⟨hd, hid⟩)
      · exact ⟨e, .inl he, hd, hid⟩
      · exact ⟨e, .inr (.inr he), hd, hid⟩
      · exact ⟨nueva, .inr (.inl rfl), hd.symm, hid⟩
  · simp [ht]

theorem viva_quita (hL : L t = antes ++ entry :: despues) (hnd : ((L t).map (·.dir)).Nodup) :
    Viva refs (Function.update L t (antes ++ despues)) id p ↔
      Viva refs L id p ∧ p ≠ ⟨t, entry.dir⟩ := by
  obtain ⟨t', k⟩ := p
  unfold Viva
  by_cases ht : t' = t
  · subst ht
    have hfuera : ∀ e ∈ antes ++ despues, e.dir ≠ entry.dir := by
      rw [hL, map_append, map_cons, nodup_middle, nodup_cons,
        ← map_append] at hnd
      exact fun e he hd => hnd.1 (hd ▸ mem_map_of_mem he)
    simp only [update_self, hL, ne_eq, FlowPtr.mk.injEq, true_and]
    constructor
    · rintro ⟨e, he, rfl, hid⟩
      refine ⟨⟨e, ?_, rfl, hid⟩, hfuera e he⟩
      exact perm_middle.mem_iff.mpr (mem_cons_of_mem _ he)
    · rintro ⟨⟨e, he, rfl, hid⟩, hne⟩
      refine ⟨e, (mem_cons.mp (perm_middle.mem_iff.mp he)).resolve_left ?_, rfl, hid⟩
      rintro rfl
      exact hne rfl
  · simp [ht]

theorem Viva.mem_refs (h : Viva refs L id p) (hnd : ((L p.tabla).map (·.dir)).Nodup)
    {e : Entrada Mt Ac} (he : e ∈ L p.tabla) (hd : e.dir = p.dir) : id ∈ refs e := by
  obtain ⟨e', he', hd', hid⟩ := h
  rw [inj_on_of_nodup_map hnd he he' (hd.trans hd'.symm)]
  exact hid

theorem bien_inserta (h : table.Bien (Viva refs L)) (hL : L t = antes ++ despues)
    (nueva : Entrada Mt Ac) :
    (table.addRefs ⟨t, nueva.dir⟩ (refs nueva)).Bien
      (Viva refs (Function.update L t (antes ++ nueva :: despues))) :=
  (h.mono fun _ _ hp => (viva_inserta hL).mpr (.inl hp)).addRefs fun _ hid =>
    (viva_inserta hL).mpr (.inr ⟨rfl, hid⟩)

theorem bien_quita (h : table.Bien (Viva refs L)) (hL : L t = antes ++ entry :: despues)
    (hnd : ((L t).map (·.dir)).Nodup) :
    (table.delRefs ⟨t, entry.dir⟩ (refs entry)).Bien
      (Viva refs (Function.update L t (antes ++ despues))) := by
  have hmem : entry ∈ L t := hL ▸ mem_append_right _ mem_cons_self
  exact h.delRefs (fun _ hv => hv.mem_refs hnd hmem rfl) fun _ _ hp hne =>
    (viva_quita hL hnd).mpr ⟨hp, hne⟩

theorem bien_reemplaza (h : table.Bien (Viva refs L)) (hL : L t = antes ++ entry :: despues)
    (hnd : ((antes ++ nueva :: entry :: despues).map (·.dir)).Nodup) :
    ((table.addRefs ⟨t, nueva.dir⟩ (refs nueva)).delRefs ⟨t, entry.dir⟩ (refs entry)).Bien
      (Viva refs (Function.update L t (antes ++ nueva :: despues))) := by
  have hL' : Function.update L t (antes ++ nueva :: entry :: despues) t =
      (antes ++ [nueva]) ++ entry :: despues := by
    rw [update_self, append_assoc]
    rfl
  have h' := bien_quita (bien_inserta h hL nueva) hL' (by rwa [update_self])
  rw [update_idem, append_assoc] at h'
  exact h'

theorem bien_modifica (h : table.Bien (Viva refs L)) (hL : L t = antes ++ entry :: despues)
    (hnd : ((L t).map (·.dir)).Nodup) (nueva : Entrada Mt Ac) :
    ((table.delRefs ⟨t, entry.dir⟩ (refs entry)).addRefs ⟨t, nueva.dir⟩ (refs nueva)).Bien
      (Viva refs (Function.update L t (antes ++ nueva :: despues))) := by
  have h' := bien_inserta (bien_quita h hL hnd) (update_self ..) nueva
  rw [update_idem] at h'
  exact h'

end Viva

/-- **The loop of `flow_table_modify`**, from the entries behind `antes` on: what an entry that is
    written anew keeps of the match lists and the groups, the loop keeps. -/
theorem modifyFrom_rule (env : Entorno Mt Ac P) {t : Fin pipelineTables} (mod : FlowMod Mt Ac)
    (arr : Arreglo Ac) (strict : Bool)
    {J : (Fin pipelineTables → List (Entrada Mt Ac)) → RefTable (Bucket Ac) → Prop}
    (hJ : ∀ {L groups antes entry despues} (nueva : Entrada Mt Ac),
      L t = antes ++ entry :: despues → ((L t).map (·.dir)).Nodup → J L groups →
      J (Function.update L t (antes ++ nueva :: despues))
        ((groups.delRefs ⟨t, entry.dir⟩ entry.groupRefs).addRefs ⟨t, nueva.dir⟩ nueva.groupRefs))
    (l : List (Entrada Mt Ac)) {L : Fin pipelineTables → List (Entrada Mt Ac)}
    (antes : List (Entrada Mt Ac)) {groups : RefTable (Bucket Ac)} (hL : L t = antes ++ l)
    (hnd : ((L t).map (·.dir)).Nodup) (h : J L groups) :
    J (Function.update L t (antes ++ (Dp.modifyFrom env t mod arr strict l groups).1))
      (Dp.modifyFrom env t mod arr strict l groups).2 := by
  induction l generalizing L antes groups with
  | nil =>
    rw [Dp.modifyFrom, ← hL, update_eq_self]
    exact h
  | cons entry rest ih =>
    rw [Dp.modifyFrom]
    split
    · have h' := hJ (entry.modifica env mod arr) hL hnd h
      have hL' := update_self t (antes ++ entry.modifica env mod arr :: rest) L
      have hnd' : ((Function.update L t (antes ++ entry.modifica env mod arr :: rest) t).map
          (·.dir)).Nodup := by
        rw [hL', map_append, map_cons]
        rw [hL, map_append, map_cons] at hnd
        exact hnd
      have hih := ih (antes ++ [entry.modifica env mod arr])
        (hL'.trans (append_cons ..)) hnd' h'
      rw [update_idem, ← append_cons] at hih
      exact hih
    · have hih := ih (antes ++ [entry]) (hL.trans (append_cons ..)) hnd h
      rw [← append_cons] at hih
      exact hih

/-! ## 3. Functions and events -/

namespace Dp

/-- The match lists. -/
def listas (d : Dp Mt Ac Bd) (t : Fin pipelineTables) : List (Entrada Mt Ac) :=
  (d.tablas t).matchEntries

/-- **All references live.** -/
structure Vivas (d : Dp Mt Ac Bd) : Prop where
  grupos : d.groups.Bien (Viva (·.groupRefs) d.listas)
  metros : d.meters.Bien (Viva (·.meterRefs) d.listas)

theorem create_vivas (bandsNum : UInt64) : (create bandsNum : Dp Mt Ac Bd).Vivas :=
  ⟨.vacia .., .vacia ..⟩

theorem listas_conTabla (d : Dp Mt Ac Bd) (t : Fin pipelineTables)
    (f : TablaFlujos Mt Ac → TablaFlujos Mt Ac) :
    (d.conTabla t f).listas = Function.update d.listas t (f (d.tablas t)).matchEntries := by
  funext t'
  by_cases ht : t' = t
  · subst ht
    rw [listas, tablas_conTabla_self, update_self]
  · rw [listas, tablas_conTabla_of_ne ht, update_of_ne ht]
    rfl

variable {d d' : Dp Mt Ac Bd} {env : Entorno Mt Ac P} {t : Fin pipelineTables} {mod : FlowMod Mt Ac}
  {arr : Arreglo Ac} {now : Nat} {refs : Entrada Mt Ac → List Nat} {bandsNum : UInt64}
  {pre post : List FlowPtr} {p : FlowPtr}

theorem listas_of_tablas (h : d'.tablas = d.tablas) : d'.listas = d.listas := by
  unfold listas
  rw [h]

theorem refs_avisa (d : Dp Mt Ac Bd) (entry : Entrada Mt Ac) (reason : Reason) (now : Nat) :
    (d.avisa entry reason now).groups = d.groups ∧
      (d.avisa entry reason now).meters = d.meters := by
  unfold avisa
  split <;> exact ⟨rfl, rfl⟩

theorem flowEntryRemove_cases (hs : d.Sana) (reason : Reason) (now : Nat) (p : FlowPtr) :
    d.flowEntryRemove reason now p = d ∨
    ∃ (t : Fin pipelineTables) (antes despues : List (Entrada Mt Ac)) (entry : Entrada Mt Ac),
      d.listas t = antes ++ entry :: despues ∧
      (d.flowEntryRemove reason now p).listas = Function.update d.listas t (antes ++ despues) ∧
      (d.flowEntryRemove reason now p).groups =
        d.groups.delRefs ⟨t, entry.dir⟩ entry.groupRefs ∧
      (d.flowEntryRemove reason now p).meters =
        d.meters.delRefs ⟨t, entry.dir⟩ entry.meterRefs ∧
      (d.flowEntryRemove reason now p).libres = entry.instructions.dir :: d.libres ∧
      (d.flowEntryRemove reason now p).siguiente = d.siguiente := by
  have hlist : ∀ t, (d.flowEntryRemove reason now p).listas t = _ :=
    fun t => matchEntries_flowEntryRemove reason now d p t
  unfold Dp.flowEntryRemove at hlist ⊢
  split at hlist
  · exact .inl rfl
  · rename_i entry hentry
    obtain ⟨t, k⟩ := p
    obtain rfl : entry.dir = k := eq_of_beq (find?_some hentry :)
    obtain ⟨antes, despues, hL⟩ := append_of_mem (mem_of_find?_eq_some hentry)
    obtain ⟨hg, hm⟩ := d.refs_avisa entry reason now
    refine .inr ⟨t, antes, despues, entry, hL, ?_, ?_, ?_, ?_, ?_⟩
    · have hnd := hs.nodup_dirs t
      funext t'
      refine (hlist t').trans ?_
      split
      · rename_i ht
        subst ht
        rw [hL] at hnd
        rw [update_self, hL]
        exact filter_key_ne hnd
      · rename_i ht
        rw [update_of_ne ht]
        rfl
    · exact congrArg (RefTable.delRefs _ _) hg
    · exact congrArg (RefTable.delRefs _ _) hm
    · show entry.instructions.dir :: (d.avisa entry reason now).libres = _
      unfold avisa
      split <;> rfl
    · show (d.avisa entry reason now).siguiente = _
      unfold avisa
      split <;> rfl

theorem Vivas.flowEntryRemove (hs : d.Sana) (hv : d.Vivas) (reason : Reason) (now : Nat)
    (p : FlowPtr) : (d.flowEntryRemove reason now p).Vivas := by
  rcases flowEntryRemove_cases hs reason now p with
    heq | ⟨t, antes, despues, entry, hL, hl, hg, hm, _⟩
  · rw [heq]
    exact hv
  · constructor
    · rw [hg, hl]
      exact bien_quita hv.grupos hL (hs.nodup_dirs t)
    · rw [hm, hl]
      exact bien_quita hv.metros hL (hs.nodup_dirs t)

theorem flowTableAdd_ok {overlap : Bool} (hd : d.flowTableAdd env t mod arr overlap now = .ok d') :
    (∃ (antes despues : List (Entrada Mt Ac)) (entry nueva : Entrada Mt Ac),
      d.listas t = antes ++ entry :: despues ∧
      (∃ k, nueva = (entradaNueva env mod arr now d.siguiente).enPuesto k) ∧
      d'.listas = Function.update d.listas t (antes ++ nueva :: despues) ∧
      d'.groups = (d.groups.addRefs ⟨t, nueva.dir⟩ nueva.groupRefs).delRefs ⟨t, entry.dir⟩
        entry.groupRefs ∧
      d'.meters = (d.meters.addRefs ⟨t, nueva.dir⟩ nueva.meterRefs).delRefs ⟨t, entry.dir⟩
        entry.meterRefs ∧
      d'.libres = entry.instructions.dir :: d.libres ∧ d'.siguiente = d.siguiente + 1) ∨
    ∃ (antes despues : List (Entrada Mt Ac)) (nueva : Entrada Mt Ac),
      d.listas t = antes ++ despues ∧
      (∃ k, nueva = (entradaNueva env mod arr now d.siguiente).enPuesto k) ∧
      d'.listas = Function.update d.listas t (antes ++ nueva :: despues) ∧
      d'.groups = d.groups.addRefs ⟨t, nueva.dir⟩ nueva.groupRefs ∧
      d'.meters = d.meters.addRefs ⟨t, nueva.dir⟩ nueva.meterRefs ∧
      d'.libres = d.libres ∧ d'.siguiente = d.siguiente + 1 := by
  unfold flowTableAdd at hd
  split at hd
  · cases hd
  · rename_i antes entry despues hb
    cases hd
    refine .inl ⟨antes, despues, entry,
      (entradaNueva env mod arr now d.siguiente).enPuesto entry.puesto, (buscaSitio_igual hb).1,
      ⟨_, rfl⟩, ?_, rfl, rfl, rfl, rfl⟩
    exact (listas_of_tablas (tablas_conTabla_conTabla rfl)).trans (listas_conTabla ..)
  · rename_i antes despues hb
    split at hd
    · cases hd
    · cases hd
      refine .inr ⟨antes, despues, entradaNueva env mod arr now d.siguiente,
        (buscaSitio_nuevo hb).1, ⟨d.siguiente, rfl⟩, ?_, rfl, rfl, rfl, rfl⟩
      exact (listas_of_tablas (tablas_conTabla_conTabla rfl)).trans (listas_conTabla ..)

theorem Sana.nodup_nueva (hs : d.Sana) {antes despues : List (Entrada Mt Ac)}
    {entry nueva : Entrada Mt Ac} (hL : d.listas t = antes ++ entry :: despues)
    (hn : ∃ k, nueva = (entradaNueva env mod arr now d.siguiente).enPuesto k) :
    ((antes ++ nueva :: entry :: despues).map (·.dir)).Nodup := by
  obtain ⟨k, rfl⟩ := hn
  rw [map_append, map_cons, nodup_middle, ← map_append, ← hL]
  refine nodup_cons.mpr ⟨fun hmem => ?_, hs.nodup_dirs t⟩
  obtain ⟨e, he, hdir⟩ := mem_map.mp hmem
  exact Nat.ne_of_lt ((hs.tabla t).nuevas e.nucleo (mem_map_of_mem he)).1 hdir

theorem listas_flowTableModify (d : Dp Mt Ac Bd) (env : Entorno Mt Ac P) (t : Fin pipelineTables)
    (mod : FlowMod Mt Ac) (arr : Arreglo Ac) (strict : Bool) :
    (d.flowTableModify env t mod arr strict).listas = Function.update d.listas t
      (modifyFrom env t mod arr strict (d.listas t) d.groups).1 := by
  unfold Dp.flowTableModify
  exact listas_conTabla ..

theorem viva_meterRefs_flowTableModify (d : Dp Mt Ac Bd) (env : Entorno Mt Ac P)
    (t : Fin pipelineTables) (mod : FlowMod Mt Ac) (arr : Arreglo Ac) (strict : Bool) :
    Viva (·.meterRefs) (d.flowTableModify env t mod arr strict).listas =
      Viva (·.meterRefs) d.listas := by
  refine viva_congr fun t' => ?_
  rw [listas_flowTableModify]
  by_cases ht : t' = t
  · subst ht
    rw [update_self, modifyFrom_fst, map_map]
    refine map_congr_left fun e _ => ?_
    dsimp only [comp_apply]
    split <;> rfl
  · rw [update_of_ne ht]

theorem viva_lookup {pkt : P}
    (hrefs : ∀ e : Entrada Mt Ac, ∀ pkt, refs (e.usa env pkt now) = refs e) :
    Viva refs (d.conTabla t fun table => (table.lookup env pkt now).1).listas =
      Viva refs d.listas := by
  refine viva_congr fun t' => ?_
  rw [listas_conTabla]
  by_cases ht : t' = t
  · subst ht
    rw [update_self]
    unfold TablaFlujos.lookup
    split
    · rfl
    · refine map_modifyFirst _ (fun e _ => ?_) _
      show (e.dir, refs (e.usa env pkt now)) = _
      rw [hrefs]
  · rw [update_of_ne ht]

namespace Vivas

variable {d d' : Dp Mt Ac Bd}

theorem flowTableAdd (hs : d.Sana) (hv : d.Vivas) {env : Entorno Mt Ac P}
    {t : Fin pipelineTables} {mod : FlowMod Mt Ac} {arr : Arreglo Ac} {overlap : Bool} {now : Nat}
    (hd : d.flowTableAdd env t mod arr overlap now = .ok d') : d'.Vivas := by
  rcases flowTableAdd_ok hd with ⟨antes, despues, entry, nueva, hL, hn, hl, hg, hm, _⟩ |
    ⟨antes, despues, nueva, hL, _, hl, hg, hm, _⟩
  · have hnd := hs.nodup_nueva hL hn
    constructor
    · rw [hg, hl]
      exact bien_reemplaza hv.grupos hL hnd
    · rw [hm, hl]
      exact bien_reemplaza hv.metros hL hnd
  · constructor
    · rw [hg, hl]
      exact bien_inserta hv.grupos hL nueva
    · rw [hm, hl]
      exact bien_inserta hv.metros hL nueva

theorem flowTableModify (hs : d.Sana) (hv : d.Vivas) (env : Entorno Mt Ac P)
    (t : Fin pipelineTables) (mod : FlowMod Mt Ac) (arr : Arreglo Ac) (strict : Bool) :
    (d.flowTableModify env t mod arr strict).Vivas := by
  constructor
  · rw [listas_flowTableModify]
    exact modifyFrom_rule env mod arr strict
      (J := fun L groups => groups.Bien (Viva (·.groupRefs) L))
      (fun nueva hL hnd h => bien_modifica h hL hnd nueva) _ [] rfl (hs.nodup_dirs t) hv.grupos
  · rw [viva_meterRefs_flowTableModify]
    exact hv.metros

theorem lookup (hv : d.Vivas) (env : Entorno Mt Ac P) (t : Fin pipelineTables) (pkt : P)
    (now : Nat) : (d.conTabla t fun table => (table.lookup env pkt now).1).Vivas := by
  constructor
  · rw [viva_lookup fun _ _ => rfl]
    exact hv.grupos
  · rw [viva_lookup fun _ _ => rfl]
    exact hv.metros

theorem cerrada (env : Entorno Mt Ac P) :
    Cerrada env fun d d' : Dp Mt Ac Bd => d.Sana ∧ d.Vivas → d'.Sana ∧ d'.Vivas := by
  have hc : Cerrada env fun d d' : Dp Mt Ac Bd => d.Cambios d' := Cambios.cerrada env
  constructor
  case refl => exact fun _ h => h
  case trans => exact fun h h' hd => h' (h hd)
  case memoria =>
    intro d ⟨hs, hv⟩
    exact ⟨(hc.memoria d).sana hs, hv.grupos, hv.metros⟩
  case add =>
    intro d d' t mod arr overlap now hd ⟨hs, hv⟩
    exact ⟨(hc.add hd).sana hs, flowTableAdd hs hv hd⟩
  case modify =>
    intro t mod arr strict d ⟨hs, hv⟩
    exact ⟨(hc.modify t mod arr strict d).sana hs, flowTableModify hs hv env t mod arr strict⟩
  case lookup =>
    intro d t pkt now ⟨hs, hv⟩
    exact ⟨(hc.lookup d t pkt now).sana hs, lookup hv env t pkt now⟩
  case remove =>
    intro d reason now p ⟨hs, hv⟩
    exact ⟨(hc.remove d reason now p).sana hs, flowEntryRemove hs hv reason now p⟩
  case grupos =>
    intro d g hg ⟨hs, hv⟩
    exact ⟨(hc.grupos hg).sana hs, hv.grupos.paso hg, hv.metros⟩
  case metros =>
    intro d m hm ⟨hs, hv⟩
    exact ⟨(hc.metros hm).sana hs, hv.grupos, hv.metros.paso hm⟩

end Vivas

theorem mem_listas_entryDestroy (reason : Reason) (now : Nat) {refs : List FlowPtr}
    {e : Entrada Mt Ac} :
    e ∈ (d.entryDestroy reason now refs).listas t ↔ e ∈ d.listas t ∧ ⟨t, e.dir⟩ ∉ refs := by
  induction refs generalizing d with
  | nil => simp [entryDestroy]
  | cons q refs ih =>
    have hq : e ∈ (d.flowEntryRemove reason now q).listas t ↔
        e ∈ d.listas t ∧ (⟨t, e.dir⟩ : FlowPtr) ≠ q := by
      obtain ⟨t', k⟩ := q
      rw [listas, matchEntries_flowEntryRemove]
      by_cases ht : t = t'
      · simp [ht, listas]
      · simp [ht, listas]
    refine ih.trans ?_
    rw [hq, mem_cons, not_or, and_assoc]

end Dp

end TcpPath.Udatapath
