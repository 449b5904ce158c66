/-
  Subject:   The lists of flow entries that groups and meters keep are complete.

  * Flow entries keep this by themselves. A group or meter that is added must not be one that an
    entry refers to already: there are no such entries for groups, as `dp_actions_validate` asks
    for the group, and DELETE takes the entries along.

  * `recorreLibres_eq_false`: a deletion of all groups or meters finds no freed node if the first in
    the walk has the flow entries of all.
  * `group_back_references`: an entry is in the list of a group iff it is installed and has an
    action for it, and it has its instructions still.
  * `meter_back_references`: the same for meters, which need more.
-/
import TcpPath.OpenFlow.Accounting
import TcpPath.OpenFlow.Arrays

namespace TcpPath.Udatapath

open Util List Function RefTable

variable {β Mt Ac Bd P : Type}

/-! ## 1. Complete lists -/

namespace RefTable

/-- Every reference that is `viva` is kept. -/
def Todas (viva : Nat → FlowPtr → Prop) (table : RefTable β) : Prop :=
  ∀ e ∈ table.entries, ∀ p, viva e.id p → p ∈ e.flowRefs

namespace Todas

variable {viva viva' : Nat → FlowPtr → Prop} {table table' : RefTable β} {lim : Limites} {id : Nat}
  {items : List β}

theorem vacia (n m : UInt64) : (vacia n m : RefTable β).Todas viva :=
  fun _ he => (nomatch he)

variable {refs : List Nat} {fe : FlowPtr}

theorem alRefs (h : table.Todas viva) (hu : table.Unica) {f : RefEntry β → RefEntry β}
    (hid : ∀ e, (f e).id = e.id) (hf : ∀ e, f (f e) = f e)
    (hin : ∀ e : RefEntry β, e.id ∈ refs → (∀ p, viva e.id p → p ∈ e.flowRefs) →
      ∀ p, viva' e.id p → p ∈ (f e).flowRefs) (hout : ∀ id p, id ∉ refs → viva' id p → viva id p) :
    (table.alRefs f refs).Todas viva' := by
  unfold Todas
  rw [entries_alRefs hid hf refs hu, forall_mem_map]
  intro e he
  split
  · rename_i hmem
    rw [hid]
    exact hin e hmem (h e he)
  · rename_i hmem
    exact fun p hp => h e he p (hout e.id p hmem hp)

theorem addRefs (h : table.Todas viva) (hu : table.Unica)
    (hv : ∀ id p, viva' id p → viva id p ∨ p = fe ∧ id ∈ refs) :
    (table.addRefs fe refs).Todas viva' := by
  refine h.alRefs hu (RefEntry.id_addFlowRef fe) (RefEntry.addFlowRef_idem fe)
    (fun e _ hall p hp => ?_) fun id p hid hp => (hv id p hp).resolve_right fun hr => hid hr.2
  exact RefEntry.mem_flowRefs_addFlowRef.mpr ((hv e.id p hp).imp (hall p) And.left)

theorem delRefs (h : table.Todas viva) (hu : table.Unica)
    (hv : ∀ id p, viva' id p → viva id p ∧ p ≠ fe) : (table.delRefs fe refs).Todas viva' := by
  refine h.alRefs hu (RefEntry.id_delFlowRef fe) (RefEntry.delFlowRef_idem fe)
    (fun e _ hall p hp => ?_) fun id p _ hp => (hv id p hp).1
  exact RefEntry.mem_flowRefs_delFlowRef.mpr ((hv e.id p hp).imp_left (hall p))

theorem add (h : table.Todas viva) (hno : ∀ p, ¬viva id p)
    (ht : table.add lim id items = .ok table') : table'.Todas viva := by
  obtain ⟨_, _, _, rfl⟩ := add_ok ht
  intro e he p hp
  rcases mem_cons.mp he with rfl | he
  · exact absurd hp (hno p)
  · exact h e he p hp

theorem modify (h : table.Todas viva) {veto : Option OflErr}
    (ht : table.modify lim id items veto = .ok table') : table'.Todas viva := by
  obtain ⟨_, _, _, _, rfl⟩ := modify_ok ht
  intro e he p hp
  rcases mem_modifyFirst he with he | ⟨old, hold, rfl⟩
  · exact h e he p hp
  · exact h old (mem_of_find hold) p (by rwa [id_of_find hold])

theorem retira (h : table.Todas viva) (entry : RefEntry β) : (table.retira entry).Todas viva :=
  fun e he => h e (eraseP_sublist.subset he)

end Todas

/-- The lists of `table'` are parts of those of `table`. -/
def Menos (table table' : RefTable β) : Prop :=
  ∀ g ∈ table'.entries, ∃ g' ∈ table.entries, g'.id = g.id ∧ ∀ p ∈ g.flowRefs, p ∈ g'.flowRefs

namespace Menos

variable {table table' table'' : RefTable β}

theorem refl (table : RefTable β) : table.Menos table := fun g hg => ⟨g, hg, rfl, fun _ => id⟩

theorem trans (h : table.Menos table') (h' : table'.Menos table'') : table.Menos table'' := by
  intro g hg
  obtain ⟨g', hg', hid', hsub'⟩ := h' g hg
  obtain ⟨g'', hg'', hid'', hsub''⟩ := h g' hg'
  exact ⟨g'', hg'', hid''.trans hid', fun p hp => hsub'' p (hsub' p hp)⟩

theorem delRefs (fe : FlowPtr) (refs : List Nat) (table : RefTable β) :
    table.Menos (table.delRefs fe refs) := by
  induction refs generalizing table with
  | nil => exact refl table
  | cons i refs ih =>
    have huno : table.Menos (table.delRefs fe [i]) := by
      intro g hg
      rcases mem_modifyFirst hg with hg | ⟨g', hg', rfl⟩
      · exact ⟨g, hg, rfl, fun _ => id⟩
      · exact ⟨g', mem_of_find?_eq_some hg', rfl, fun _ hp => mem_of_mem_filter hp⟩
    exact huno.trans (ih (table.delRefs fe [i]))

end Menos

end RefTable

section Viva

variable {refs : Entrada Mt Ac → List Nat} {L : Fin pipelineTables → List (Entrada Mt Ac)}
  {t : Fin pipelineTables} {antes despues : List (Entrada Mt Ac)} {table : RefTable β}

theorem todas_inserta (h : table.Todas (Viva refs L)) (hu : table.Unica)
    (hL : L t = antes ++ despues) (nueva : Entrada Mt Ac) :
    (table.addRefs ⟨t, nueva.dir⟩ (refs nueva)).Todas
      (Viva refs (Function.update L t (antes ++ nueva :: despues))) :=
  h.addRefs hu fun _ _ hp => (viva_inserta hL).mp hp

theorem todas_quita (h : table.Todas (Viva refs L)) (hu : table.Unica) {entry : Entrada Mt Ac}
    (hL : L t = antes ++ entry :: despues) (hnd : ((L t).map (·.dir)).Nodup) :
    (table.delRefs ⟨t, entry.dir⟩ (refs entry)).Todas
      (Viva refs (Function.update L t (antes ++ despues))) :=
  h.delRefs hu fun _ _ hp => (viva_quita hL hnd).mp hp

theorem todas_reemplaza (h : table.Todas (Viva refs L)) (hb : table.Bien (Viva refs L))
    {entry : Entrada Mt Ac} (hL : L t = antes ++ entry :: despues) {nueva : Entrada Mt Ac}
    (hnd : ((antes ++ nueva :: entry :: despues).map (·.dir)).Nodup) :
    ((table.addRefs ⟨t, nueva.dir⟩ (refs nueva)).delRefs ⟨t, entry.dir⟩ (refs entry)).Todas
      (Viva refs (Function.update L t (antes ++ nueva :: despues))) := by
  have hL' : Function.update L t (antes ++ nueva :: entry :: despues) t =
      (antes ++ [nueva]) ++ entry :: despues := by
    rw [update_self, append_assoc]
    rfl
  have h' := todas_quita (todas_inserta h hb.unica hL nueva) (bien_inserta hb hL nueva).unica hL'
    (by rwa [update_self])
  rw [update_idem, append_assoc] at h'
  exact h'

theorem todas_modifica (h : table.Todas (Viva refs L)) (hb : table.Bien (Viva refs L))
    {entry : Entrada Mt Ac} (hL : L t = antes ++ entry :: despues)
    (hnd : ((L t).map (·.dir)).Nodup) (nueva : Entrada Mt Ac) :
    ((table.delRefs ⟨t, entry.dir⟩ (refs entry)).addRefs ⟨t, nueva.dir⟩ (refs nueva)).Todas
      (Viva refs (Function.update L t (antes ++ nueva :: despues))) := by
  have h' := todas_inserta (todas_quita h hb.unica hL hnd) (bien_quita hb hL hnd).unica
    (update_self ..) nueva
  rw [update_idem] at h'
  exact h'

end Viva

/-! ## 2. Flow entries come and go -/

namespace Dp

/-- What flow entries keep: sound lists, living references, complete lists of groups and complete
    lists of meters. -/
structure Conserva (d d' : Dp Mt Ac Bd) : Prop where
  base : d.Sana ∧ d.Vivas → d'.Sana ∧ d'.Vivas
  grupos : d.Sana ∧ d.Vivas → d.groups.Todas (Viva (·.groupRefs) d.listas) →
    d'.groups.Todas (Viva (·.groupRefs) d'.listas)
  metros : d.Sana ∧ d.Vivas → d.meters.Todas (Viva (·.meterRefs) d.listas) →
    d'.meters.Todas (Viva (·.meterRefs) d'.listas)

theorem conserva_add {d d' : Dp Mt Ac Bd} {env : Entorno Mt Ac P} {t : Fin pipelineTables}
    {mod : FlowMod Mt Ac} {arr : Arreglo Ac} {overlap : Bool} {now : Nat}
    (hd : d.flowTableAdd env t mod arr overlap now = .ok d') : d.Conserva d' := by
  refine ⟨(Vivas.cerrada env).add hd, fun ⟨hs, hv⟩ hT => ?_, fun ⟨hs, hv⟩ hT => ?_⟩
  all_goals
    rcases flowTableAdd_ok hd with ⟨antes, despues, entry, nueva, hL, hn, hl, hg, hm, _⟩ |
      ⟨antes, despues, nueva, hL, _, hl, hg, hm, _⟩
  · rw [hg, hl]
    exact todas_reemplaza hT hv.grupos hL (hs.nodup_nueva hL hn)
  · rw [hg, hl]
    exact todas_inserta hT hv.grupos.unica hL nueva
  · rw [hm, hl]
    exact todas_reemplaza hT hv.metros hL (hs.nodup_nueva hL hn)
  · rw [hm, hl]
    exact todas_inserta hT hv.metros.unica hL nueva

theorem conserva_modify (env : Entorno Mt Ac P) (t : Fin pipelineTables) (mod : FlowMod Mt Ac)
    (arr : Arreglo Ac) (strict : Bool) (d : Dp Mt Ac Bd) :
    d.Conserva (d.flowTableModify env t mod arr strict) := by
  refine ⟨(Vivas.cerrada env).modify t mod arr strict d, fun ⟨hs, hv⟩ hT => ?_, fun _ hT => ?_⟩
  · rw [listas_flowTableModify]
    exact (modifyFrom_rule env mod arr strict
      (J := fun L groups => groups.Bien (Viva (·.groupRefs) L) ∧
        groups.Todas (Viva (·.groupRefs) L))
      (fun nueva hL hnd h => ⟨bien_modifica h.1 hL hnd nueva,
        todas_modifica h.2 h.1 hL hnd nueva⟩) _ [] rfl (hs.nodup_dirs t) ⟨hv.grupos, hT⟩).2
  · rw [viva_meterRefs_flowTableModify]
    exact hT

theorem conserva_remove (env : Entorno Mt Ac P) (d : Dp Mt Ac Bd) (reason : Reason) (now : Nat)
    (p : FlowPtr) : d.Conserva (d.flowEntryRemove reason now p) := by
  refine ⟨(Vivas.cerrada env).remove d reason now p, fun ⟨hs, hv⟩ hT => ?_,
    fun ⟨hs, hv⟩ hT => ?_⟩
  all_goals
    rcases flowEntryRemove_cases hs reason now p with
      heq | ⟨t, antes, despues, entry, hL, hl, hg, hm, _⟩
  · rw [heq]
    exact hT
  · rw [hg, hl]
    exact todas_quita hT hv.grupos.unica hL (hs.nodup_dirs t)
  · rw [heq]
    exact hT
  · rw [hm, hl]
    exact todas_quita hT hv.metros.unica hL (hs.nodup_dirs t)

/-- **Flow entries keep all lists complete.** -/
theorem flujos_conserva (env : Entorno Mt Ac P) :
    Flujos env (fun _ _ _ _ => True) fun d d' : Dp Mt Ac Bd => d.Conserva d' where
  refl _ := ⟨id, fun _ => id, fun _ => id⟩
  trans h h' := ⟨h'.base ∘ h.base, fun hd hT => h'.grupos (h.base hd) (h.grupos hd hT),
    fun hd hT => h'.metros (h.base hd) (h.metros hd hT)⟩
  memoria d := ⟨(Vivas.cerrada env).memoria d, fun _ => id, fun _ => id⟩
  add _ := conserva_add
  modify t mod arr strict d _ _ := conserva_modify env t mod arr strict d
  lookup d t pkt now := by
    refine ⟨(Vivas.cerrada env).lookup d t pkt now, fun _ hT => ?_, fun _ hT => ?_⟩
    · rw [viva_lookup fun _ _ => rfl]
      exact hT
    · rw [viva_lookup fun _ _ => rfl]
      exact hT
  remove := conserva_remove env

/-! ## 3. What holds of every entry -/

/-- A property of every entry that is installed. -/
def CadaEntrada (Q : Entrada Mt Ac → Prop) (d : Dp Mt Ac Bd) : Prop := ∀ t, ∀ e ∈ d.listas t, Q e

section CadaEntrada

variable {Q : Entrada Mt Ac → Prop} {d d' : Dp Mt Ac Bd}

theorem CadaEntrada.update (h : d.CadaEntrada Q) {t : Fin pipelineTables}
    {l : List (Entrada Mt Ac)} (hl : d'.listas = Function.update d.listas t l)
    (hQ : ∀ e ∈ l, Q e) : d'.CadaEntrada Q := by
  intro t' e he
  rw [hl] at he
  by_cases ht : t' = t
  · subst ht
    rw [update_self] at he
    exact hQ e he
  · rw [update_of_ne ht] at he
    exact h t' e he

theorem CadaEntrada.entryDestroy (h : d.CadaEntrada Q) (reason : Reason) (now : Nat)
    (refs : List FlowPtr) : (d.entryDestroy reason now refs).CadaEntrada Q :=
  fun t e he => h t e ((mem_listas_entryDestroy reason now).mp he).1

/-- **What every entry has**, if it has it from the start and keeps it when it is written. -/
theorem flujos_cadaEntrada (env : Entorno Mt Ac P)
    {ok : Dp Mt Ac Bd → Fin pipelineTables → FlowMod Mt Ac → Arreglo Ac → Prop}
    (hadd : ∀ d t mod arr now dir k, ok d t mod arr →
      Q ((entradaNueva env mod arr now dir).enPuesto k))
    (hmod : ∀ d t mod arr strict, ok d t mod arr →
      mod.command = (if strict then .modifyStrict else .modify) → ∀ e ∈ d.listas t,
      flowEntryMatches env.toOpenFlow e.toFlowEntry mod strict true = true → Q e →
      Q (e.modifica env mod arr))
    (husa : ∀ e pkt now, Q e → Q (e.usa env pkt now)) :
    Flujos env ok fun d d' : Dp Mt Ac Bd => d.CadaEntrada Q → d'.CadaEntrada Q where
  refl _ := id
  trans h h' := h' ∘ h
  memoria _ := id
  add {d d' t mod arr overlap now} hok hd h := by
    rcases flowTableAdd_ok hd with ⟨antes, despues, entry, nueva, hL, ⟨k, rfl⟩, hl, _⟩ |
      ⟨antes, despues, nueva, hL, ⟨k, rfl⟩, hl, _⟩
    all_goals
      refine h.update hl fun e he => ?_
      have ht := h t
      rw [hL] at ht
    · rcases mem_cons.mp (perm_middle.mem_iff.mp he) with rfl | he
      · exact hadd d t mod arr now _ k hok
      · exact ht e (perm_middle.mem_iff.mpr (mem_cons_of_mem _ he))
    · rcases mem_cons.mp (perm_middle.mem_iff.mp he) with rfl | he
      · exact hadd d t mod arr now _ k hok
      · exact ht e he
  modify t mod arr strict d hok hcmd h := by
    refine h.update (d.listas_flowTableModify env t mod arr strict) fun e he => ?_
    rw [modifyFrom_fst] at he
    obtain ⟨old, hold, rfl⟩ := mem_map.mp he
    split
    · rename_i hm
      exact hmod d t mod arr strict hok hcmd old hold hm (h t old hold)
    · exact h t old hold
  lookup d t pkt now h := by
    refine h.update (d.listas_conTabla t _) fun e he => ?_
    unfold TablaFlujos.lookup at he
    split at he
    · exact h t e he
    · rcases mem_modifyFirst he with he | ⟨old, hold, rfl⟩
      · exact h t e he
      · exact husa old pkt now (h t old (mem_of_find?_eq_some hold))
  remove d reason now p h := h.entryDestroy reason now [p]

end CadaEntrada

/-! ## 4. Deletions -/

section Borrado

variable {refs : Entrada Mt Ac → List Nat} {reason : Reason} {now : Nat} {d : Dp Mt Ac Bd}
  {id : Nat} {p : FlowPtr} {entry : RefEntry β} {orden : List Nat}

theorem viva_entryDestroy {ptrs : List FlowPtr} :
    Viva refs (d.entryDestroy reason now ptrs).listas id p ↔
      Viva refs d.listas id p ∧ p ∉ ptrs := by
  unfold Viva
  simp only [mem_listas_entryDestroy reason now]
  constructor
  · rintro ⟨e, ⟨he, hn⟩, hd, hid⟩
    rw [hd] at hn
    exact ⟨⟨e, he, hd, hid⟩, hn⟩
  · rintro ⟨⟨e, he, hd, hid⟩, hn⟩
    refine ⟨e, ⟨he, ?_⟩, hd, hid⟩
    rw [hd]
    exact hn

theorem not_viva_entryDestroy {table : RefTable β} (h : table.Todas (Viva refs d.listas))
    (he : entry ∈ table.entries) (p : FlowPtr) :
    ¬Viva refs (d.entryDestroy reason now entry.flowRefs).listas entry.id p := by
  intro hp
  obtain ⟨hp, hn⟩ := viva_entryDestroy.mp hp
  exact hn (h entry he p hp)

variable {tabla : Dp Mt Ac Bd → RefTable β}

theorem destroyAll_cons_none (hf : (tabla d).find id = none) (orden : List Nat) :
    d.destroyAll tabla reason now (id :: orden) = d.destroyAll tabla reason now orden := by
  unfold destroyAll
  rw [foldl_cons, hf]

theorem destroyAll_cons_some (hf : (tabla d).find id = some entry) (orden : List Nat) :
    d.destroyAll tabla reason now (id :: orden) =
      (d.entryDestroy reason now entry.flowRefs).destroyAll tabla reason now orden := by
  unfold destroyAll
  rw [foldl_cons, hf]

theorem viva_of_destroyAll (h : Viva refs (d.destroyAll tabla reason now orden).listas id p) :
    Viva refs d.listas id p := by
  induction orden generalizing d with
  | nil => exact h
  | cons i orden ih =>
    cases hf : (tabla d).find i with
    | none =>
      rw [destroyAll_cons_none hf] at h
      exact ih h
    | some entry =>
      rw [destroyAll_cons_some hf] at h
      exact (viva_entryDestroy.mp (ih h)).1

/-- The loop over a whole map: nothing refers to what it came by. The entries stay in the map, and
    their lists complete (`J`), until it is over. -/
theorem not_viva_destroyAll (refs : Entrada Mt Ac → List Nat) {J : Dp Mt Ac Bd → Prop}
    (hJ : ∀ d ptrs, J d → J (d.entryDestroy reason now ptrs))
    (hT : ∀ d, J d → (tabla d).Todas (Viva refs d.listas))
    (hids : ∀ d ptrs, (tabla (d.entryDestroy reason now ptrs)).ids = (tabla d).ids) (h : J d)
    (hid : id ∈ orden) (hin : id ∈ (tabla d).ids) (p : FlowPtr) :
    ¬Viva refs (d.destroyAll tabla reason now orden).listas id p := by
  induction orden generalizing d with
  | nil => cases hid
  | cons i orden ih =>
    cases hf : (tabla d).find i with
    | none =>
      rw [destroyAll_cons_none hf]
      refine ih h ((mem_cons.mp hid).resolve_left ?_) hin
      rintro rfl
      rw [mem_ids_iff, hf] at hin
      cases hin
    | some entry =>
      rw [destroyAll_cons_some hf]
      rcases mem_cons.mp hid with rfl | hid
      · intro hp
        have hp' := viva_of_destroyAll hp
        rw [← id_of_find hf] at hp'
        exact not_viva_entryDestroy (hT d h) (mem_of_find hf) p hp'
      · exact ih (hJ d _ h) hid (hids d _ ▸ hin)

theorem conRefs_eq_false (hids : ∀ e ∈ (tabla d).entries, e.flowRefs = []) :
    conRefs tabla reason now orden d = false := by
  induction orden with
  | nil => rfl
  | cons i orden ih =>
    unfold conRefs
    cases hf : (tabla d).find i with
    | none => exact ih
    | some entry =>
      -- without flow entries nothing changes
      have hnil := hids entry (mem_of_find hf)
      simp only [hnil, isEmpty_nil, Bool.not_true, Bool.false_or]
      exact ih

theorem menos_entryDestroy (reason : Reason) (now : Nat) (ptrs : List FlowPtr)
    (d : Dp Mt Ac Bd) :
    d.groups.Menos (d.entryDestroy reason now ptrs).groups ∧
      d.meters.Menos (d.entryDestroy reason now ptrs).meters := by
  induction ptrs generalizing d with
  | nil => exact ⟨.refl _, .refl _⟩
  | cons p ptrs ih =>
    have huno : d.groups.Menos (d.flowEntryRemove reason now p).groups ∧
        d.meters.Menos (d.flowEntryRemove reason now p).meters := by
      unfold flowEntryRemove
      split
      · exact ⟨.refl _, .refl _⟩
      · rename_i entry _
        obtain ⟨hg, hm⟩ := d.refs_avisa entry reason now
        exact ⟨hg ▸ Menos.delRefs p entry.groupRefs (d.avisa entry reason now).groups,
          hm ▸ Menos.delRefs p entry.meterRefs (d.avisa entry reason now).meters⟩
    obtain ⟨hg, hm⟩ := ih (d.flowEntryRemove reason now p)
    exact ⟨huno.1.trans hg, huno.2.trans hm⟩

/-- **The walk comes by no freed node**, if the first of the map has the flow entries of all. -/
theorem recorreLibres_eq_false (hunica : (tabla d).Unica)
    (hviva : ∀ ptrs, (tabla (d.entryDestroy reason now ptrs)).Bien
      (Viva refs (d.entryDestroy reason now ptrs).listas))
    (hmenos : ∀ ptrs, (tabla d).Menos (tabla (d.entryDestroy reason now ptrs)))
    (hprimero : EnElPrimero (tabla d) orden) :
    d.recorreLibres tabla reason now orden = false := by
  unfold recorreLibres
  refine conRefs_eq_false fun g hg => eq_nil_iff_forall_not_mem.mpr fun p hp => ?_
  cases hf : orden.head?.bind (tabla d).find with
  | none =>
    -- there is no first one, and so no list of flow entries either
    have hd : d.destroyAll tabla reason now orden.head?.toList = d := by
      cases ho : orden.head? with
      | none => rfl
      | some i =>
        rw [ho] at hf
        exact destroyAll_cons_none hf []
    rw [hd] at hg
    obtain ⟨e, he, ho, _⟩ := hprimero g hg p hp
    rw [ho, Option.bind_some, find_of_mem hunica he] at hf
    cases hf
  | some entry =>
    obtain ⟨i, ho, hf⟩ := Option.bind_eq_some_iff.mp hf
    have hd : d.destroyAll tabla reason now orden.head?.toList =
        d.entryDestroy reason now entry.flowRefs := by
      rw [ho]
      exact destroyAll_cons_some hf []
    rw [hd] at hg
    have hno := (viva_entryDestroy.mp ((hviva entry.flowRefs).vivas g hg p hp)).2
    obtain ⟨g', hg', _, hsub⟩ := hmenos entry.flowRefs g hg
    obtain ⟨e, he, ho', hpe⟩ := hprimero g' hg' p (hsub p hp)
    rw [ho] at ho'
    cases ho'
    rw [find_of_mem hunica he] at hf
    cases hf
    exact hno hpe

/-- The same for the map of the groups and for that of the meters. -/
theorem Vivas.recorreLibres (env : Entorno Mt Ac P) (h : d.Sana ∧ d.Vivas) (now : Nat)
    (orden : List Nat) :
    (EnElPrimero d.groups orden → d.recorreLibres groups .groupDelete now orden = false) ∧
      (EnElPrimero d.meters orden → d.recorreLibres meters .meterDelete now orden = false) := by
  have hbase : ∀ reason ptrs, (d.entryDestroy reason now ptrs).Vivas := fun reason ptrs =>
    ((Vivas.cerrada env).flujos.entryDestroy reason now ptrs d h).2
  exact ⟨recorreLibres_eq_false h.2.grupos.unica (fun ptrs => (hbase _ ptrs).grupos)
      fun ptrs => (menos_entryDestroy _ now ptrs d).1,
    recorreLibres_eq_false h.2.metros.unica (fun ptrs => (hbase _ ptrs).metros)
      fun ptrs => (menos_entryDestroy _ now ptrs d).2⟩

end Borrado

/-! ## 5. Groups -/

variable {is : List (Instruction Ac)}

theorem mem_groupRefsDe {grupo : Ac → Option Nat} {g : Nat} :
    g ∈ groupRefsDe grupo is ↔ ∃ a ∈ accionesDe is, grupo a = some g := by
  unfold groupRefsDe
  rw [mem_eraseDups, mem_flatMap]
  simp only [mem_accionesDe]
  constructor
  · rintro ⟨i, hi, hg⟩
    cases i with
    | applyActions actions =>
      obtain ⟨a, ha, hga⟩ := mem_filterMap.mp hg
      exact ⟨a, ⟨actions, .inl hi, ha⟩, hga⟩
    | writeActions actions =>
      obtain ⟨a, ha, hga⟩ := mem_filterMap.mp hg
      exact ⟨a, ⟨actions, .inr hi, ha⟩, hga⟩
    | _ => cases hg
  · rintro ⟨a, ⟨actions, hi | hi, ha⟩, hga⟩
    · exact ⟨_, hi, mem_filterMap.mpr ⟨a, ha, hga⟩⟩
    · exact ⟨_, hi, mem_filterMap.mpr ⟨a, ha, hga⟩⟩

/-- The references of an entry are the groups of its actions. -/
def GruposPropios (env : Entorno Mt Ac P) (e : Entrada Mt Ac) : Prop :=
  e.groupRefs = groupRefsDe env.grupo e.instructions.lista

/-- An entry refers to groups of these numbers only. -/
def GruposEntre (ids : List Nat) (e : Entrada Mt Ac) : Prop := ∀ g ∈ e.groupRefs, g ∈ ids

/-- **The groups and their flow entries know each other.** -/
structure GruposFieles (env : Entorno Mt Ac P) (d : Dp Mt Ac Bd) : Prop where
  base : d.Sana ∧ d.Vivas
  todas : d.groups.Todas (Viva (·.groupRefs) d.listas)
  propios : d.CadaEntrada (GruposPropios env)
  existen : d.CadaEntrada (GruposEntre d.groups.ids)

/-- What flow entries with groups of these numbers keep. -/
structure SigueGrupos (env : Entorno Mt Ac P) (ids : List Nat) (d d' : Dp Mt Ac Bd) : Prop where
  conserva : d.Conserva d'
  mismas : d.MismasTablas d'
  propios : d.CadaEntrada (GruposPropios env) → d'.CadaEntrada (GruposPropios env)
  existen : d.CadaEntrada (GruposEntre ids) → d'.CadaEntrada (GruposEntre ids)

theorem flujos_sigueGrupos (env : Entorno Mt Ac P) (ids : List Nat) :
    Flujos env (fun _ _ _ arr => ∀ g ∈ groupRefsDe env.grupo arr.lista, g ∈ ids)
      fun d d' : Dp Mt Ac Bd => d.SigueGrupos env ids d' := by
  have hpropios : Flujos env (fun _ _ _ _ => True) fun d d' : Dp Mt Ac Bd =>
      d.CadaEntrada (GruposPropios env) → d'.CadaEntrada (GruposPropios env) :=
    flujos_cadaEntrada env (fun _ _ _ _ _ _ _ _ => rfl) (fun _ _ _ _ _ _ _ _ _ _ _ => rfl)
      fun _ _ _ h => h
  have hexisten : Flujos env (fun _ _ _ arr => ∀ g ∈ groupRefsDe env.grupo arr.lista, g ∈ ids)
      fun d d' : Dp Mt Ac Bd =>
        d.CadaEntrada (GruposEntre ids) → d'.CadaEntrada (GruposEntre ids) :=
    flujos_cadaEntrada env (fun _ _ _ _ _ _ _ h => h) (fun _ _ _ _ _ h _ _ _ _ _ => h)
      fun _ _ _ h => h
  refine ((flujos_conserva env).and ((flujos_sinRefs env).and (hpropios.and hexisten))).congr
    (fun _ _ _ _ h => ⟨trivial, trivial, trivial, h⟩) fun d d' => ?_
  exact ⟨fun h => ⟨h.1, h.2.1, h.2.2.1, h.2.2.2⟩,
    fun h => ⟨h.conserva, h.mismas, h.propios, h.existen⟩⟩

namespace GruposFieles

variable {env : Entorno Mt Ac P} {d d' : Dp Mt Ac Bd}

theorem create (env : Entorno Mt Ac P) (bandsNum : UInt64) :
    (Dp.create bandsNum : Dp Mt Ac Bd).GruposFieles env :=
  ⟨⟨create_sana bandsNum, create_vivas bandsNum⟩, .vacia 0 0, fun _ _ he => (nomatch he),
    fun _ _ he => (nomatch he)⟩

theorem sigue (h : d.GruposFieles env) (hd : d.SigueGrupos env d.groups.ids d') :
    d'.GruposFieles env := by
  refine ⟨hd.conserva.base h.base, hd.conserva.grupos h.base h.todas, hd.propios h.propios, ?_⟩
  rw [ids_of_sinRefs hd.mismas.grupos]
  exact hd.existen h.existen

theorem mem_ids_of_viva (h : d.GruposFieles env) {id : Nat} {p : FlowPtr}
    (hv : Viva (·.groupRefs) d.listas id p) : id ∈ d.groups.ids := by
  obtain ⟨e, he, _, hid⟩ := hv
  exact h.existen p.tabla e he id hid

theorem delete (h : d.GruposFieles env) {entry : RefEntry (Bucket Ac)}
    (he : entry ∈ d.groups.entries) (now : Nat) :
    ({ d with groups := d.groups.retira entry }.entryDestroy .groupDelete now
      entry.flowRefs).GruposFieles env := by
  have hbase := (Vivas.cerrada env).grupos (.retira entry) h.base
  have hc := (flujos_conserva env).entryDestroy .groupDelete now entry.flowRefs
    { d with groups := d.groups.retira entry }
  have hm := (flujos_sinRefs env).entryDestroy .groupDelete now entry.flowRefs
    { d with groups := d.groups.retira entry }
  refine ⟨hc.base hbase, hc.grupos hbase (h.todas.retira entry),
    CadaEntrada.entryDestroy (d := { d with groups := d.groups.retira entry }) h.propios _ _ _, ?_⟩
  rw [ids_of_sinRefs hm.grupos]
  intro t e hmem g hg
  have hviva := Dp.viva_entryDestroy.mp (⟨e, hmem, rfl, hg⟩ :
    Viva (·.groupRefs) (Dp.entryDestroy .groupDelete now entry.flowRefs
      { d with groups := d.groups.retira entry }).listas g ⟨t, e.dir⟩)
  rw [mem_ids_iff, find_retira h.base.2.grupos.unica, if_neg]
  · exact mem_ids_iff.mp (h.mem_ids_of_viva hviva.1)
  · rintro rfl
    exact hviva.2 (h.todas entry he _ hviva.1)

theorem deleteAll (h : d.GruposFieles env) {orden : List Nat} (hperm : orden.Perm d.groups.ids)
    (now : Nat) :
    { d.destroyAll groups .groupDelete now orden with groups := .vacia 0 0 }.GruposFieles env := by
  have hs := (flujos_sigueGrupos env d.groups.ids).destroyAll groups .groupDelete now orden d
  refine ⟨(Vivas.cerrada env).grupos (.vacia 0 0) (hs.conserva.base h.base), .vacia 0 0,
    hs.propios h.propios, fun t e he g hg => ?_⟩
  have hin := hs.existen h.existen t e he g hg
  refine absurd ⟨e, he, rfl, hg⟩ (not_viva_destroyAll (p := ⟨t, e.dir⟩) (·.groupRefs)
    (J := fun d => (d.Sana ∧ d.Vivas) ∧ d.groups.Todas (Viva (·.groupRefs) d.listas))
    (fun d ptrs hJ => ?_) (fun _ hJ => hJ.2) (fun d ptrs => ?_) ⟨h.base, h.todas⟩
    (hperm.mem_iff.mpr hin) hin)
  · have hc := (flujos_conserva env).entryDestroy .groupDelete now ptrs d
    exact ⟨hc.base hJ.1, hc.grupos hJ.1 hJ.2⟩
  · exact ids_of_sinRefs ((flujos_sinRefs env).entryDestroy .groupDelete now ptrs d).grupos

/-- **Every accepted group-mod.** -/
theorem grupoCambia (h : d.GruposFieles env) {mod : GroupMod Ac} {orden : List Nat} {now : Nat}
    (hperm : orden.Perm d.groups.ids) (hc : GrupoCambia env mod orden now d d') :
    d'.GruposFieles env := by
  cases hc with
  | nada => exact h
  | add _ _ hg =>
    refine ⟨(Vivas.cerrada env).grupos (.add hg) h.base, ?_, h.propios, fun t e he g hm => ?_⟩
    · exact h.todas.add (fun p hp => (add_ok hg).1 (h.mem_ids_of_viva hp)) hg
    · rw [mem_ids_iff, find_add hg]
      split
      · rfl
      · exact mem_ids_iff.mp (h.existen t e he g hm)
  | modify _ _ hg =>
    refine ⟨(Vivas.cerrada env).grupos (.modify hg) h.base, h.todas.modify hg, h.propios, ?_⟩
    rw [ids_modify hg]
    exact h.existen
  | deleteAll => exact h.deleteAll hperm now
  | delete _ hf => exact h.delete (mem_of_find hf) now

/-- **Flow entries** with groups that are there. -/
theorem flujos (env : Entorno Mt Ac P) :
    Flujos env (fun d _ _ arr => ∀ g ∈ groupRefsDe env.grupo arr.lista, g ∈ d.groups.ids)
      fun d d' : Dp Mt Ac Bd => d.GruposFieles env → d'.GruposFieles env :=
  .invariante (fun d => flujos_sigueGrupos env d.groups.ids) fun hd h => h.sigue hd

/-- **Every event.** -/
theorem recibe {c : Conmutador Mt P} {d d' : Dp Mt Action MeterBand} {e : Llegada P}
    (h : d.GruposFieles c.entorno) (hd : d.recibe c e = some d') : d'.GruposFieles c.entorno := by
  have hf : Flujos c.entorno _ fun d d' : Dp Mt Action MeterBand =>
      d.GruposFieles c.entorno → d'.GruposFieles c.entorno := flujos c.entorno
  refine recibe_cases (R := fun d' => d'.GruposFieles c.entorno) hd h
    (fun slave buf orden now msg _ hb hm => ?_) (fun t now => hf.flowTableTimeout t now d h)
    fun t pkt now => hf.lookup d t pkt now h
  rcases atiende_cases hm with rfl | ⟨mod, rfl, hok⟩ | ⟨mod, rfl, hperm, hc⟩ | ⟨mod, rfl, _, hc⟩
  · exact h
  · refine hf.pipelineHandleFlowMod (fun t _ hhay g hg => ?_) hok h
    obtain ⟨a, ha, hga⟩ := mem_groupRefsDe.mp hg
    rw [mem_accionesDe_ordena] at ha
    exact mem_ids_iff.mpr (hhay a ha g hga (Conmutador.unpack_grupos hb a ha g hga))
  · exact h.grupoCambia hperm hc
  · refine hc.flujos hf (fun d m hp h => ?_) h
    exact ⟨(Vivas.cerrada c.entorno).metros hp h.base, h.todas, h.propios, h.existen⟩

end GruposFieles

/-! ## 6. Meters -/

theorem mem_meterRefsDe {m : Nat} : m ∈ meterRefsDe is ↔ .meter m ∈ is := by
  unfold meterRefsDe
  rw [mem_eraseDups, mem_filterMap]
  constructor
  · rintro ⟨i, hi, hm⟩
    cases i with
    | meter id =>
      cases hm
      exact hi
    | _ => cases hm
  · exact fun hi => ⟨_, hi, rfl⟩

/-- The references of an entry are the meters of its instructions. -/
def MetrosPropios (e : Entrada Mt Ac) : Prop :=
  ∀ m, m ∈ e.meterRefs ↔ .meter m ∈ e.instructions.lista

/-- **The meters and their flow entries know each other.** -/
structure MetrosFieles (d : Dp Mt Ac Bd) : Prop where
  base : d.Sana ∧ d.Vivas
  todas : d.meters.Todas (Viva (·.meterRefs) d.listas)
  propios : d.CadaEntrada MetrosPropios

/-- Two lists have `METER` instructions for the same meters. -/
def MismosMetros (is is' : List (Instruction Ac)) : Prop :=
  ∀ m ∈ meterRefsDe is ++ meterRefsDe is', m ∈ meterRefsDe is ∧ m ∈ meterRefsDe is'

instance (is is' : List (Instruction Ac)) : Decidable (MismosMetros is is') := by
  unfold MismosMetros
  infer_instance

theorem MismosMetros.iff {is' : List (Instruction Ac)} (h : MismosMetros is is') (m : Nat) :
    .meter m ∈ is ↔ .meter m ∈ is' := by
  rw [← mem_meterRefsDe, ← mem_meterRefsDe]
  exact ⟨fun hm => (h m (mem_append_left _ hm)).2,
    fun hm => (h m (mem_append_right _ hm)).1⟩

/-- A MODIFY that leaves the entries of its table that it changes their meters. -/
def MetrosIguales (env : Entorno Mt Ac P) (d : Dp Mt Ac Bd) (t : Fin pipelineTables)
    (mod : FlowMod Mt Ac) : Prop :=
  mod.command = .modify ∨ mod.command = .modifyStrict →
    ∀ e ∈ (d.tablas t).matchEntries,
      flowEntryMatches env.toOpenFlow e.toFlowEntry mod (mod.command = .modifyStrict) true →
      MismosMetros e.instructions.lista mod.instructions

instance (env : Entorno Mt Ac P) (d : Dp Mt Ac Bd) (t : Fin pipelineTables)
    (mod : FlowMod Mt Ac) : Decidable (MetrosIguales env d t mod) := by
  unfold MetrosIguales
  infer_instance

namespace MetrosFieles

variable {env : Entorno Mt Ac P} {d d' : Dp Mt Ac Bd}

theorem create (bandsNum : UInt64) : (Dp.create bandsNum : Dp Mt Ac Bd).MetrosFieles :=
  ⟨⟨create_sana bandsNum, create_vivas bandsNum⟩, .vacia 0 bandsNum, fun _ _ he => (nomatch he)⟩

/-- **Flow entries**, if a MODIFY leaves them their meters. -/
theorem flujos (env : Entorno Mt Ac P) :
    Flujos env (fun d t mod arr => MetrosIguales env d t mod ∧ arr.lista = ordena mod.instructions)
      fun d d' : Dp Mt Ac Bd => d.MetrosFieles → d'.MetrosFieles := by
  have hpropios : Flujos env
      (fun d t mod arr => MetrosIguales env d t mod ∧ arr.lista = ordena mod.instructions)
      fun d d' : Dp Mt Ac Bd => d.CadaEntrada MetrosPropios → d'.CadaEntrada MetrosPropios := by
    refine flujos_cadaEntrada env (fun _ _ _ _ _ _ _ _ _ => mem_meterRefsDe) ?_ fun _ _ _ h => h
    intro d t mod arr strict ⟨higuales, harr⟩ hcmd e he hm hQ m
    -- the references stay as they were, and so do the meters of the instructions
    have hmismos : MismosMetros e.instructions.lista mod.instructions := by
      cases strict with
      | true => exact higuales (.inr hcmd) e he (by simpa [hcmd] using hm)
      | false => exact higuales (.inl hcmd) e he (by simpa [hcmd] using hm)
    show m ∈ e.meterRefs ↔ .meter m ∈ arr.lista
    rw [hQ m, hmismos.iff m, harr]
    exact (perm_insertionSort _ mod.instructions).mem_iff.symm
  refine (Flujos.invariante (fun _ => (flujos_conserva env).and hpropios)
    fun hd h => ⟨hd.1.base h.base, hd.1.metros h.base h.todas, hd.2 h.propios⟩).congr
    (fun _ _ _ _ hok => ⟨trivial, hok⟩) fun _ _ => .rfl

variable {mod : MeterMod Bd} {orden : List Nat} {now : Nat}

/-- **Every accepted meter-mod**, if what is added is no meter of an instruction. -/
theorem metroCambia (h : d.MetrosFieles) (env : Entorno Mt Ac P)
    (hnew : mod.command = .add → ∀ t, ∀ e ∈ (d.tablas t).matchEntries,
      .meter mod.meterId ∉ e.instructions.lista) (hc : MetroCambia mod orden now d d') :
    d'.MetrosFieles := by
  have hf : Flujos env _ fun d d' : Dp Mt Ac Bd => d.MetrosFieles → d'.MetrosFieles := flujos env
  cases hc with
  | nada => exact h
  | add hcmd hm =>
    refine ⟨(Vivas.cerrada env).metros (.add hm) h.base, h.todas.add ?_ hm, h.propios⟩
    rintro p ⟨e, he, _, hid⟩
    exact hnew hcmd p.tabla e he ((h.propios p.tabla e he _).mp hid)
  | modify _ hm =>
    exact ⟨(Vivas.cerrada env).metros (.modify hm) h.base, h.todas.modify hm, h.propios⟩
  | deleteAll =>
    have h' := hf.destroyAll meters .meterDelete now orden d h
    exact ⟨(Vivas.cerrada env).metros (.vacia 0 0) h'.base, .vacia 0 0, h'.propios⟩
  | @delete entry =>
    refine hf.entryDestroy .meterDelete now _ _ ⟨?_, h.todas.retira entry, h.propios⟩
    exact (Vivas.cerrada env).metros (.retira entry) h.base

theorem not_viva_of_borrado (h : d.MetrosFieles) (env : Entorno Mt Ac P)
    (hperm : orden.Perm d.meters.ids) (hc : MetroCambia mod orden now d d') {m : Nat}
    (hm : m ∈ d.meters.ids) (hno : m ∉ d'.meters.ids) (p : FlowPtr) :
    ¬Viva (·.meterRefs) d'.listas m p := by
  cases hc with
  | nada => exact absurd hm hno
  | add _ hadd =>
    refine absurd ?_ hno
    rw [mem_ids_iff, find_add hadd]
    split
    · rfl
    · exact mem_ids_iff.mp hm
  | modify _ hmod => exact absurd (ids_modify hmod ▸ hm) hno
  | deleteAll =>
    refine not_viva_destroyAll (·.meterRefs)
      (J := fun d => (d.Sana ∧ d.Vivas) ∧ d.meters.Todas (Viva (·.meterRefs) d.listas))
      (fun d ptrs hJ => ?_) (fun _ hJ => hJ.2) (fun d ptrs => ?_) ⟨h.base, h.todas⟩
      (hperm.mem_iff.mpr hm) hm p
    · have hc := (flujos_conserva env).entryDestroy .meterDelete now ptrs d
      exact ⟨hc.base hJ.1, hc.metros hJ.1 hJ.2⟩
    · exact ids_of_sinRefs
        ((flujos_sinRefs env).entryDestroy .meterDelete now ptrs d).metros
  | @delete entry _ hf =>
    have hids := ids_of_sinRefs ((flujos_sinRefs env).entryDestroy .meterDelete now
      entry.flowRefs { d with meters := d.meters.retira entry }).metros
    obtain rfl : m = entry.id := by
      by_contra hne
      rw [hids, mem_ids_iff, find_retira h.base.2.metros.unica, if_neg hne,
        ← mem_ids_iff] at hno
      exact hno hm
    exact not_viva_entryDestroy (d := { d with meters := d.meters.retira entry }) h.todas
      (mem_of_find hf) p

end MetrosFieles

/-- **What the lists of meters need**: a meter is added while no entry has an instruction for it,
    and a MODIFY leaves the entries it changes their meters. -/
def MetrosEstables (c : Conmutador Mt P) (d : Dp Mt Action MeterBand) : Llegada P → Prop
  | .mensaje _ buf _ _ =>
    match (c.unpack buf).run with
    | some (.ok (.flowMod mod)) => ∀ t ∈ tablaDe mod.tableId, MetrosIguales c.entorno d t mod
    | some (.ok (.meterMod mod)) =>
      mod.command = .add → ∀ t, ∀ e ∈ (d.tablas t).matchEntries,
        .meter mod.meterId ∉ e.instructions.lista
    | _ => True
  | _ => True

instance (c : Conmutador Mt P) (d : Dp Mt Action MeterBand) :
    (e : Llegada P) → Decidable (MetrosEstables c d e)
  | .mensaje _ buf _ _ => by
    dsimp only [MetrosEstables]
    exact match (c.unpack buf).run with
      | some (.ok (.flowMod _)) | some (.ok (.meterMod _)) => by dsimp only; infer_instance
      | none | some (.error _) | some (.ok (.groupMod _)) | some (.ok .otro) => .isTrue trivial
  | .timeout .. | .lookup .. => .isTrue trivial

section Eventos

variable {c : Conmutador Mt P} {d d' : Dp Mt Action MeterBand} {e : Llegada P}

theorem MetrosFieles.recibe (h : d.MetrosFieles) (hok : MetrosEstables c d e)
    (hd : d.recibe c e = some d') : d'.MetrosFieles := by
  have hf : Flujos c.entorno _ fun d d' : Dp Mt Action MeterBand =>
      d.MetrosFieles → d'.MetrosFieles := MetrosFieles.flujos c.entorno
  refine recibe_cases (R := MetrosFieles) hd h (fun slave buf orden now msg he hb hm => ?_)
    (fun t now => hf.flowTableTimeout t now d h) fun t pkt now => hf.lookup d t pkt now h
  subst he
  rcases atiende_cases hm with rfl | ⟨mod, rfl, hmod⟩ | ⟨mod, rfl, _, hc⟩ | ⟨mod, rfl, _, hc⟩
  · exact h
  · rw [MetrosEstables, show (c.unpack buf).run = some (.ok (.flowMod mod)) from hb] at hok
    exact hf.pipelineHandleFlowMod (fun t ht _ => ⟨hok t ht, rfl⟩) hmod h
  · refine hc.flujos hf (fun d g hp h => ?_) h
    exact ⟨(Vivas.cerrada c.entorno).grupos hp h.base, h.todas, h.propios⟩
  · rw [MetrosEstables, show (c.unpack buf).run = some (.ok (.meterMod mod)) from hb] at hok
    exact h.metroCambia c.entorno hok hc

theorem MetrosFieles.not_viva_recibe (h : d.MetrosFieles) (hd : d.recibe c e = some d') {m : Nat}
    (hm : m ∈ d.meters.ids) (hno : m ∉ d'.meters.ids) (p : FlowPtr) :
    ¬Viva (·.meterRefs) d'.listas m p := by
  have hf : Flujos c.entorno _ fun d d' : Dp Mt Action MeterBand => d.MismasTablas d' :=
    flujos_sinRefs c.entorno
  have hsame : ∀ d' : Dp Mt Action MeterBand, d'.meters.sinRefs = d.meters.sinRefs →
      m ∉ d'.meters.ids → ¬Viva (·.meterRefs) d'.listas m p :=
    fun d' heq hno => absurd (ids_of_sinRefs heq ▸ hm) hno
  refine recibe_cases (R := fun d' => m ∉ d'.meters.ids → ¬Viva (·.meterRefs) d'.listas m p) hd
    (hsame d rfl) (fun slave buf orden now msg _ _ hmsg => ?_)
    (fun t now => hsame _ (hf.flowTableTimeout t now d).metros)
    (fun t pkt now => hsame _ (hf.lookup d t pkt now).metros) hno
  rcases atiende_cases hmsg with rfl | ⟨mod, rfl, hmod⟩ | ⟨mod, rfl, _, hc⟩ | ⟨mod, rfl, hperm, hc⟩
  · exact hsame _ rfl
  · exact hsame _ (hf.pipelineHandleFlowMod (fun _ _ _ => trivial) hmod).metros
  · exact hsame _ hc.tablas.2
  · exact fun hno => h.not_viva_of_borrado c.entorno hperm hc hm hno p

end Eventos

end Dp

/-! ## 7. The results -/

section Resultados

variable {c : Conmutador Mt P} {bandsNum : UInt64} {d : Dp Mt Action MeterBand}

/-- In a run in which no array is shared and no walk finds freed nodes, every entry has the array
    it was given, and the next walk finds none either. -/
theorem ordenada_run {ok : Dp Mt Action MeterBand → Llegada P → Prop}
    (hok : ∀ d e, ok d e → Dp.SinCompartir c d e) (h : Run (Dp.recibe c) ok (.create bandsNum) d) :
    (∀ t, ∀ e ∈ (d.tablas t).matchEntries, e.instructions.dir ∉ d.libres) ∧ d.libres.Nodup ∧
      ∀ now orden,
        (Dp.EnElPrimero d.groups orden →
          d.recorreLibres Dp.groups .groupDelete now orden = false) ∧
        (Dp.EnElPrimero d.meters orden →
          d.recorreLibres Dp.meters .meterDelete now orden = false) := by
  have hd : (d.Sana ∧ d.Vivas) ∧ d.ArreglosPropios :=
    h.invariant (I := fun d => (d.Sana ∧ d.Vivas) ∧ d.ArreglosPropios)
      ⟨⟨Dp.create_sana bandsNum, Dp.create_vivas bandsNum⟩, .create bandsNum⟩
      fun _ _ _ hd ht hp => Dp.ArreglosPropios.recibe hd (hok _ _ ht) hp
  exact ⟨fun t e he => hd.2.not_mem_libres he, hd.2.libres_nodup,
    fun now orden => Dp.Vivas.recorreLibres c.entorno hd.1 now orden⟩

/-- **Group back-references**, while no MODIFY gives its array to two entries and no deletion of
all groups or meters walks over freed nodes. A flow entry is in the list of a group iff it is
installed and refers to it, at most once; no installed entry refers to a group that is not there;
and the instructions of installed entries are not freed. -/
theorem group_back_references (h : Run (Dp.recibe c) (Dp.SinCompartir c) (.create bandsNum) d) :
    (∀ g ∈ d.groups.entries, g.flowRefs.Nodup ∧ ∀ p, p ∈ g.flowRefs ↔
      ∃ e ∈ (d.tablas p.tabla).matchEntries, e.dir = p.dir ∧
        ∃ actions, (.applyActions actions ∈ e.instructions.lista ∨
          .writeActions actions ∈ e.instructions.lista) ∧ .group g.id ∈ actions) ∧
    (∀ t, ∀ e ∈ (d.tablas t).matchEntries, ∀ actions,
      (.applyActions actions ∈ e.instructions.lista ∨
        .writeActions actions ∈ e.instructions.lista) →
      ∀ g, .group g ∈ actions → (d.groups.find g).isSome = true) ∧
    (∀ t, ∀ e ∈ (d.tablas t).matchEntries, e.instructions.dir ∉ d.libres) ∧ d.libres.Nodup ∧
    ∀ now orden, Dp.EnElPrimero d.groups orden →
      d.recorreLibres Dp.groups .groupDelete now orden = false := by
  have hd : d.GruposFieles c.entorno := h.invariant (I := Dp.GruposFieles c.entorno)
    (.create c.entorno bandsNum) fun _ _ _ hd _ hp => hd.recibe hp
  have hrefs : ∀ t, ∀ e ∈ (d.tablas t).matchEntries, ∀ g, g ∈ e.groupRefs ↔
      ∃ actions, (.applyActions actions ∈ e.instructions.lista ∨
        .writeActions actions ∈ e.instructions.lista) ∧ .group g ∈ actions := by
    intro t e he g
    rw [hd.propios t e he, Dp.mem_groupRefsDe]
    simp only [mem_accionesDe]
    constructor
    · rintro ⟨a, ⟨actions, hi, ha⟩, hga⟩
      refine ⟨actions, hi, ?_⟩
      cases a <;> first | cases hga; exact ha | cases hga
    · rintro ⟨actions, hi, ha⟩
      exact ⟨_, ⟨actions, hi, ha⟩, rfl⟩
  obtain ⟨htiene, hlibres, hrecorre⟩ := ordenada_run (fun _ _ => id) h
  refine ⟨fun g hg => ⟨hd.base.2.grupos.nodup g hg, fun p => ?_⟩,
    fun t e he actions hi g ha => ?_, htiene, hlibres, fun now orden => (hrecorre now orden).1⟩
  · rw [show p ∈ g.flowRefs ↔ Viva (·.groupRefs) d.listas g.id p from
      ⟨hd.base.2.grupos.vivas g hg p, hd.todas g hg p⟩]
    exact exists_congr fun e => and_congr_right fun he =>
      and_congr_right fun _ => hrefs p.tabla e he g.id
  · exact mem_ids_iff.mp
      (hd.existen t e he g ((hrefs t e he g).mpr ⟨actions, hi, ha⟩))

/-- Two groups and three entries; the second of them goes with its group, the third changes to the
    group that is left. -/
theorem group_back_references_dosGrupos :
    ∃ d : Dp Unit Action MeterBand,
      Run (Dp.recibe sinCampos) (Dp.SinCompartir sinCampos) (.create 0) d ∧
      (d.tablas tabla0).matchEntries.map (fun e => (e.priority, e.groupRefs)) =
        [(30, [1]), (10, [1])] ∧
      (∀ t, ∀ e ∈ (d.tablas t).matchEntries, e.instructions.dir ∉ d.libres) ∧
      ∀ g ∈ d.groups.entries, g.id = 1 ∧ g.flowRefs.Nodup ∧
        ∀ p, p ∈ g.flowRefs ↔ ∃ e ∈ (d.tablas p.tabla).matchEntries, e.dir = p.dir ∧
          ∃ actions, (.applyActions actions ∈ e.instructions.lista ∨
            .writeActions actions ∈ e.instructions.lista) ∧ .group g.id ∈ actions := by
  obtain ⟨d, hrun, hentries, hids⟩ := Run.exists_exec (Dp.recibe sinCampos)
    (Dp.SinCompartir sinCampos)
    [.mensaje false (msgGrupo 0 1 []) [] 0,
      .mensaje false (msgGrupo 0 2 []) [1] 0,
      .mensaje false (msgFlujo 0 30 (instAplica (accGrupo 1 ++ accGrupo 1))) [] 0,
      .mensaje false (msgFlujo 0 20 (instAplica (accGrupo 1 ++ accGrupo 2))) [] 0,
      .mensaje false (msgFlujo 0 10 (instAplica (accSalida 3))) [] 0,
      .mensaje false (msgFlujo 2 10 (instAplica (accGrupo 1))) [] 0,
      .mensaje false (msgGrupo 2 2 []) [1, 2] 0]
    (.create 0)
    (fun d => (d.tablas tabla0).matchEntries.map (fun e => (e.priority, e.groupRefs)) =
      [(30, [1]), (10, [1])] ∧ d.groups.ids = [1])
    (by decide +kernel)
  obtain ⟨hiff, _, htiene, _⟩ := group_back_references hrun
  refine ⟨d, hrun, hentries, htiene, fun g hg => ⟨?_, hiff g hg⟩⟩
  exact mem_singleton.mp (hids ▸ mem_map_of_mem hg)

/-- **Not in general.** A MODIFY gives two entries one array, and a DELETE of the first frees it:
the second stays in the list of its group without instructions. And where a flow entry refers to
group 5 alone, a deletion of groups 1 and 5, in this order, searches a map with a freed node. -/
theorem group_back_references_fails :
    (∃ d : Dp Unit Action MeterBand,
      Run (Dp.recibe sinCampos) (fun _ _ => True) (.create 0) d ∧
      ∃ e ∈ (d.tablas tabla0).matchEntries, ∃ g ∈ d.groups.entries,
        (⟨tabla0, e.dir⟩ : FlowPtr) ∈ g.flowRefs ∧ e.instructions.dir ∈ d.libres) ∧
    ∃ d : Dp Unit Action MeterBand,
      Run (Dp.recibe sinCampos) (fun _ _ => True) (.create 0) d ∧
      [1, 5].Perm d.groups.ids ∧ d.recorreLibres Dp.groups .groupDelete 0 [1, 5] = true := by
  constructor
  · exact Run.exists_exec _ _
      [.mensaje false (msgGrupo 0 1 []) [] 0,
        .mensaje false (msgFlujo 0 30 (instAplica (accSalida 3))) [] 0,
        .mensaje false (msgFlujo 0 20 (instAplica (accSalida 3))) [] 0,
        .mensaje false (msgFlujo 1 0 (instAplica (accGrupo 1))) [] 0,
        .mensaje false (msgFlujo 4 30 []) [] 0] _ _ (by decide +kernel)
  · exact Run.exists_exec _ _
      [.mensaje false (msgGrupo 0 1 []) [] 0,
        .mensaje false (msgGrupo 0 5 []) [1] 0,
        .mensaje false (msgFlujo 0 10 (instAplica (accGrupo 5))) [] 0] _ _ (by decide +kernel)

/-- What the lists of meters need, and that no array is shared and no walk finds freed nodes. -/
def MetrosOrdenados (c : Conmutador Mt P) (d : Dp Mt Action MeterBand) (e : Llegada P) : Prop :=
  Dp.MetrosEstables c d e ∧ Dp.SinCompartir c d e

instance (c : Conmutador Mt P) (d : Dp Mt Action MeterBand) (e : Llegada P) :
    Decidable (MetrosOrdenados c d e) :=
  inferInstanceAs (Decidable (_ ∧ _))

/-- **Meter back-references**, while meters come before the entries that name them and a MODIFY
changes one entry at most and leaves it its meters: an entry is in the list of a meter iff it is
installed and has an instruction for it, which is not freed. -/
theorem meter_back_references (h : Run (Dp.recibe c) (MetrosOrdenados c) (.create bandsNum) d) :
    (∀ m ∈ d.meters.entries, ∀ p, p ∈ m.flowRefs ↔
      ∃ e ∈ (d.tablas p.tabla).matchEntries, e.dir = p.dir ∧
        .meter m.id ∈ e.instructions.lista) ∧
    (∀ ev d', MetrosOrdenados c d ev → d.recibe c ev = some d' →
      ∀ m, (d.meters.find m).isSome = true → d'.meters.find m = none →
        ∀ t, ∀ e ∈ (d'.tablas t).matchEntries, .meter m ∉ e.instructions.lista) ∧
    (∀ t, ∀ e ∈ (d.tablas t).matchEntries, e.instructions.dir ∉ d.libres) ∧ d.libres.Nodup ∧
    ∀ now orden, Dp.EnElPrimero d.meters orden →
      d.recorreLibres Dp.meters .meterDelete now orden = false := by
  have hd : d.MetrosFieles := h.invariant (I := Dp.MetrosFieles) (.create bandsNum)
    fun _ _ _ hd hok hp => hd.recibe hok.1 hp
  obtain ⟨htiene, hlibres, hrecorre⟩ := ordenada_run (fun _ _ hok => hok.2) h
  refine ⟨fun m hm p => ?_, fun ev d' hok hp m hm hno t e he hmem => ?_, htiene, hlibres,
    fun now orden => (hrecorre now orden).2⟩
  · rw [show p ∈ m.flowRefs ↔ Viva (·.meterRefs) d.listas m.id p from
      ⟨hd.base.2.metros.vivas m hm p, hd.todas m hm p⟩]
    exact exists_congr fun e => and_congr_right fun he =>
      and_congr_right fun _ => hd.propios p.tabla e he m.id
  · have hd' := hd.recibe hok.1 hp
    refine hd.not_viva_recibe hp (mem_ids_iff.mpr hm) (fun hin => ?_) ⟨t, e.dir⟩
      ⟨e, he, rfl, (hd'.propios t e he m).mpr hmem⟩
    rw [mem_ids_iff, hno] at hin
    cases hin

/-- A meter, an entry for it that is written anew, and the end of both. -/
theorem meter_back_references_unMetro :
    ∃ d d' : Dp Unit Action MeterBand,
      Run (Dp.recibe sinCampos) (MetrosOrdenados sinCampos) (.create 0) d ∧
      d.meters.entries.map (fun m => (m.id, m.flowRefs.length)) = [(1, 1)] ∧
      (d.tablas tabla0).matchEntries.map (·.priority) = [20, 10] ∧
      d.recibe sinCampos (.mensaje false (msgMetro 2 1 0) [1] 0) = some d' ∧
      (d'.tablas tabla0).matchEntries.map (·.priority) = [10] ∧
      (∀ m ∈ d.meters.entries, ∀ p, p ∈ m.flowRefs ↔
        ∃ e ∈ (d.tablas p.tabla).matchEntries, e.dir = p.dir ∧
          .meter m.id ∈ e.instructions.lista) ∧
      ∀ t, ∀ e ∈ (d'.tablas t).matchEntries, .meter 1 ∉ e.instructions.lista := by
  obtain ⟨d, d', hrun, hok, hm, hf, hd', hids, hf'⟩ := Run.exists_exec_and (Dp.recibe sinCampos)
    (MetrosOrdenados sinCampos)
    [.mensaje false (msgMetro 0 1 1) [] 0,
      .mensaje false (msgFlujo 0 20 (instMetro 1)) [] 0,
      .mensaje false (msgFlujo 0 10 (instAplica (accSalida 3))) [] 0,
      .mensaje false (msgFlujo 2 20 (instMetro 1 ++ instAplica (accSalida 2))) [] 0]
    (.create 0)
    (fun d d' => MetrosOrdenados sinCampos d (.mensaje false (msgMetro 2 1 0) [1] 0) ∧
      d.meters.entries.map (fun m => (m.id, m.flowRefs.length)) = [(1, 1)] ∧
      (d.tablas tabla0).matchEntries.map (·.priority) = [20, 10] ∧
      d.recibe sinCampos (.mensaje false (msgMetro 2 1 0) [1] 0) = some d' ∧
      d'.meters.ids = [] ∧ (d'.tablas tabla0).matchEntries.map (·.priority) = [10])
    (by decide +kernel)
  obtain ⟨hiff, hborra, _⟩ := meter_back_references hrun
  refine ⟨d, d', hrun, hm, hf, hd', hf', hiff, hborra _ d' hok hd' 1 ?_ ?_⟩
  · have hids' := congrArg (List.map Prod.fst) hm
    rw [map_map] at hids'
    rw [← mem_ids_iff, show d.meters.ids = [1] from hids']
    exact mem_cons_self
  · rw [← Option.not_isSome_iff_eq_none, ← mem_ids_iff, hids]
    exact not_mem_nil

/-- **Not in general.** An entry that comes before its meter is not in its list, and outlives it;
one that is changed from meter 1 to meter 2 stays in the list of meter 1; one that shares its array
stays in the list when its instructions are freed; and a deletion of all meters searches a map with
a freed node. -/
theorem meter_back_references_fails :
    (∃ d d' : Dp Unit Action MeterBand,
      Run (Dp.recibe sinCampos) (fun _ _ => True) (.create 0) d ∧
      d.meters.entries.map (fun m => (m.id, m.flowRefs)) = [(1, [])] ∧
      (d.tablas tabla0).matchEntries.map (·.instructions.lista) = [[.meter 1]] ∧
      d.recibe sinCampos (.mensaje false (msgMetro 2 1 0) [1] 0) = some d' ∧
      d'.meters.ids = [] ∧
      (d'.tablas tabla0).matchEntries.map (·.instructions.lista) = [[.meter 1]]) ∧
    (∃ d d' : Dp Unit Action MeterBand,
      Run (Dp.recibe sinCampos) (fun _ _ => True) (.create 0) d ∧
      d.meters.entries.map (fun m => (m.id, m.flowRefs.length)) = [(2, 0), (1, 1)] ∧
      (d.tablas tabla0).matchEntries.map (·.instructions.lista) = [[.meter 2]] ∧
      d.recibe sinCampos (.mensaje false (msgMetro 2 2 0) [1, 2] 0) = some d' ∧
      d'.meters.ids = [1] ∧
      (d'.tablas tabla0).matchEntries.map (·.instructions.lista) = [[.meter 2]]) ∧
    (∃ d : Dp Unit Action MeterBand,
      Run (Dp.recibe sinCampos) (fun _ _ => True) (.create 0) d ∧
      ∃ e ∈ (d.tablas tabla0).matchEntries, ∃ m ∈ d.meters.entries,
        (⟨tabla0, e.dir⟩ : FlowPtr) ∈ m.flowRefs ∧ e.instructions.dir ∈ d.libres) ∧
    ∃ d : Dp Unit Action MeterBand,
      Run (Dp.recibe sinCampos) (fun _ _ => True) (.create 0) d ∧
      [1, 2].Perm d.meters.ids ∧ d.recorreLibres Dp.meters .meterDelete 0 [1, 2] = true := by
  refine ⟨?_, ?_, ?_, ?_⟩
  · exact Run.exists_exec_and _ _
      [.mensaje false (msgFlujo 0 10 (instMetro 1)) [] 0,
        .mensaje false (msgMetro 0 1 1) [] 0] _ _ (by decide +kernel)
  · exact Run.exists_exec_and _ _
      [.mensaje false (msgMetro 0 1 1) [] 0,
        .mensaje false (msgMetro 0 2 1) [1] 0,
        .mensaje false (msgFlujo 0 10 (instMetro 1)) [] 0,
        .mensaje false (msgFlujo 1 10 (instMetro 2)) [] 0] _ _ (by decide +kernel)
  · exact Run.exists_exec _ _
      [.mensaje false (msgMetro 0 1 1) [] 0,
        .mensaje false (msgFlujo 0 30 (instMetro 1)) [] 0,
        .mensaje false (msgFlujo 0 20 (instMetro 1)) [] 0,
        .mensaje false (msgFlujo 1 0 (instMetro 1 ++ instAplica (accSalida 2))) [] 0,
        .mensaje false (msgFlujo 4 30 []) [] 0] _ _ (by decide +kernel)
  · exact Run.exists_exec _ _
      [.mensaje false (msgMetro 0 1 1) [] 0,
        .mensaje false (msgMetro 0 2 1) [1] 0,
        .mensaje false (msgFlujo 0 10 (instMetro 2)) [] 0] _ _ (by decide +kernel)

end Resultados

end TcpPath.Udatapath
