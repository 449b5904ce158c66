/-
  Subject:   Who has which array of instructions. A flow-mod brings one array; MODIFY gives it to
             every entry that it changes, and each entry frees the array it has when it goes.

  * `arreglos`: the arrays of all installed entries and, once for each `free`, the freed ones.
  * `flujos_arreglos`: while a MODIFY changes one entry at most, every operation on flow entries
    keeps this list free of repetitions: an array moves from an entry to the freed ones.
  * `ArreglosPropios.recibe`: so does every message, timeout and lookup.
-/
import TcpPath.OpenFlow.Messages

namespace TcpPath.Udatapath

open Util List Function

variable {Mt Ac Bd P : Type}

/-! ## 1. The arrays -/

namespace Dp

/-- The arrays of the entries of all tables, and what has been freed. -/
def arreglos (d : Dp Mt Ac Bd) : List Nat :=
  (finRange pipelineTables).flatMap (fun t => (d.listas t).map (·.instructions.dir)) ++ d.libres

/-- No array belongs to two entries, none to an entry after it is freed, and none is freed twice.
    New arrays are not among them. -/
structure ArreglosPropios (d : Dp Mt Ac Bd) : Prop where
  nodup : d.arreglos.Nodup
  menores : ∀ a ∈ d.arreglos, a < d.siguiente

variable {d d' : Dp Mt Ac Bd} {t : Fin pipelineTables}

/-- **One table changes**, and what is in its entries and freed is what there was and `nuevos`. -/
theorem arreglos_update {l : List (Entrada Mt Ac)} (nuevos : List Nat)
    (hl : d'.listas = Function.update d.listas t l)
    (h : l.map (·.instructions.dir) ++ d'.libres ~
      nuevos ++ ((d.listas t).map (·.instructions.dir) ++ d.libres)) :
    d'.arreglos ~ nuevos ++ d.arreglos := by
  -- table `t` first, then the others, which stay as they were
  have hfin : finRange pipelineTables ~ t :: (finRange pipelineTables).erase t :=
    perm_cons_erase (mem_finRange t)
  have hotras : ((finRange pipelineTables).erase t).flatMap
      (fun t => (d'.listas t).map (·.instructions.dir)) =
        ((finRange pipelineTables).erase t).flatMap
          fun t => (d.listas t).map (·.instructions.dir) := by
    refine flatMap_congr fun t' ht' => ?_
    rw [hl, update_of_ne ((nodup_finRange _).mem_erase_iff.mp ht').1]
  have hparte : ∀ d : Dp Mt Ac Bd, d.arreglos ~ ((d.listas t).map (·.instructions.dir) ++ d.libres)
      ++ ((finRange pipelineTables).erase t).flatMap
        fun t => (d.listas t).map (·.instructions.dir) := by
    intro d
    unfold arreglos
    refine ((hfin.flatMap_right _).append_right _).trans ?_
    rw [flatMap_cons, append_assoc, append_assoc]
    exact perm_append_comm.append_left _
  refine (hparte d').trans (Perm.trans ?_ ((hparte d).symm.append_left nuevos))
  rw [hotras, hl, update_self, ← append_assoc nuevos]
  exact h.append_right _

namespace ArreglosPropios

theorem create (bandsNum : UInt64) : (Dp.create bandsNum : Dp Mt Ac Bd).ArreglosPropios := by
  have hnil : (Dp.create bandsNum : Dp Mt Ac Bd).arreglos = [] := by
    unfold arreglos
    rw [show (Dp.create bandsNum : Dp Mt Ac Bd).libres = [] from rfl, append_nil]
    exact flatMap_eq_nil_iff.mpr fun _ _ => rfl
  constructor
  · rw [hnil]
    exact nodup_nil
  · rw [hnil]
    exact fun _ ha => absurd ha not_mem_nil

theorem of_perm (h : d.ArreglosPropios) (hp : d'.arreglos ~ d.arreglos)
    (hn : d.siguiente ≤ d'.siguiente) : d'.ArreglosPropios where
  nodup := hp.nodup_iff.mpr h.nodup
  menores a ha := Nat.lt_of_lt_of_le (h.menores a (hp.mem_iff.mp ha)) hn

/-- An array that nobody has comes in. -/
theorem of_perm_cons (h : d.ArreglosPropios) {a : Nat} (hp : d'.arreglos ~ a :: d.arreglos)
    (hno : a ∉ d.arreglos) (ha : a < d.siguiente) (hn : d.siguiente ≤ d'.siguiente) :
    d'.ArreglosPropios where
  nodup := hp.nodup_iff.mpr (nodup_cons.mpr ⟨hno, h.nodup⟩)
  menores b hb := by
    rcases mem_cons.mp (hp.mem_iff.mp hb) with rfl | hb
    · exact Nat.lt_of_lt_of_le ha hn
    · exact Nat.lt_of_lt_of_le (h.menores b hb) hn

theorem libres_nodup (h : d.ArreglosPropios) : d.libres.Nodup :=
  (nodup_append'.mp h.nodup).2.1

/-- **An installed entry has its instructions.** -/
theorem not_mem_libres (h : d.ArreglosPropios) {e : Entrada Mt Ac} (he : e ∈ d.listas t) :
    e.instructions.dir ∉ d.libres :=
  fun hlibre => (nodup_append'.mp h.nodup).2.2
    (mem_flatMap.mpr ⟨t, mem_finRange t, mem_map_of_mem he⟩) hlibre

end ArreglosPropios

/-! ## 2. Flow entries come and go -/

/-- A MODIFY changes one entry of the table at most. -/
def UnaEntrada (env : Entorno Mt Ac P) (d : Dp Mt Ac Bd) (t : Fin pipelineTables)
    (mod : FlowMod Mt Ac) : Prop :=
  mod.command = .modify ∨ mod.command = .modifyStrict →
    (d.tablas t).matchEntries.countP (fun e =>
      flowEntryMatches env.toOpenFlow e.toFlowEntry mod (mod.command = .modifyStrict) true) ≤ 1

instance (env : Entorno Mt Ac P) (d : Dp Mt Ac Bd) (t : Fin pipelineTables)
    (mod : FlowMod Mt Ac) : Decidable (UnaEntrada env d t mod) := by
  unfold UnaEntrada
  infer_instance

/-- Nobody has the array, and it is not a new one. -/
def Fresco (d : Dp Mt Ac Bd) (arr : Arreglo Ac) : Prop :=
  arr.dir ∉ d.arreglos ∧ arr.dir < d.siguiente

variable {env : Entorno Mt Ac P} {mod : FlowMod Mt Ac} {arr : Arreglo Ac} {now : Nat}

theorem arreglos_add {overlap : Bool} (hd : d.flowTableAdd env t mod arr overlap now = .ok d') :
    d'.arreglos ~ arr.dir :: d.arreglos := by
  rcases flowTableAdd_ok hd with
    ⟨antes, despues, entry, nueva, hL, ⟨k, rfl⟩, hl, _, _, hlibres, _⟩ |
    ⟨antes, despues, nueva, hL, ⟨k, rfl⟩, hl, _, _, hlibres, _⟩
  all_goals refine arreglos_update [arr.dir] hl ?_
  all_goals rw [hL, hlibres]
  all_goals simp only [map_append, map_cons, append_assoc, cons_append, nil_append]
  · refine perm_middle.trans (Perm.cons _ ?_)
    -- the array of the old entry is freed
    exact perm_middle.append_left _
  · exact perm_middle

theorem arreglos_remove (hs : d.Sana) (reason : Reason) (now : Nat) (p : FlowPtr) :
    (d.flowEntryRemove reason now p).arreglos ~ d.arreglos ∧
      (d.flowEntryRemove reason now p).siguiente = d.siguiente := by
  rcases flowEntryRemove_cases hs reason now p with
    heq | ⟨t, antes, despues, entry, hL, hl, _, _, hlibres, hn⟩
  · rw [heq]
    exact ⟨.refl _, rfl⟩
  · refine ⟨arreglos_update [] hl ?_, hn⟩
    rw [hL, hlibres]
    simp only [map_append, map_cons, append_assoc, cons_append, nil_append]
    exact perm_middle.append_left _

theorem arreglos_modify (env : Entorno Mt Ac P) (t : Fin pipelineTables) (mod : FlowMod Mt Ac)
    (arr : Arreglo Ac) (strict : Bool) (d : Dp Mt Ac Bd) :
    (d.flowTableModify env t mod arr strict).arreglos ~
      replicate ((d.listas t).countP fun e =>
        flowEntryMatches env.toOpenFlow e.toFlowEntry mod strict true) arr.dir ++ d.arreglos := by
  refine arreglos_update _ (d.listas_flowTableModify env t mod arr strict) ?_
  rw [← append_assoc (replicate _ _)]
  have hdirs : (modifyFrom env t mod arr strict (d.listas t) d.groups).1.map
      (·.instructions.dir) = (d.listas t).map fun e =>
        if flowEntryMatches env.toOpenFlow e.toFlowEntry mod strict true then arr.dir
        else e.instructions.dir := by
    rw [modifyFrom_fst, map_map]
    refine map_congr_left fun e _ => ?_
    show (if _ then _ else _ : Entrada Mt Ac).instructions.dir = _
    split <;> rfl
  rw [hdirs]
  show _ ++ (modifyLibera env mod strict (d.listas t) ++ d.libres) ~ _
  rw [← append_assoc]
  exact (perm_map_ite_append arr.dir (d.listas t)).append_right _

/-- **Every operation on flow entries** keeps the arrays apart, if a MODIFY changes one entry at
    most. -/
theorem flujos_arreglos (env : Entorno Mt Ac P) :
    Flujos env (fun d t mod arr => d.Fresco arr ∧ UnaEntrada env d t mod)
      fun d d' : Dp Mt Ac Bd => (d.Sana ∧ d.Vivas) ∧ d.ArreglosPropios →
        (d'.Sana ∧ d'.Vivas) ∧ d'.ArreglosPropios where
  refl _ := id
  trans h h' := h' ∘ h
  memoria d := fun ⟨hb, h⟩ => ⟨(Vivas.cerrada env).memoria d hb,
    h.of_perm (.refl _) (Nat.le_succ _)⟩
  add {d d' t mod arr overlap now} hok hd := by
    rintro ⟨hb, h⟩
    refine ⟨(Vivas.cerrada env).add hd hb, h.of_perm_cons (arreglos_add hd) hok.1.1 hok.1.2 ?_⟩
    rcases flowTableAdd_ok hd with ⟨_, _, _, _, _, _, _, _, _, _, hn⟩ |
      ⟨_, _, _, _, _, _, _, _, _, hn⟩
    · omega
    · omega
  modify t mod arr strict d hok hcmd := by
    rintro ⟨hb, h⟩
    refine ⟨(Vivas.cerrada env).modify t mod arr strict d hb, ?_⟩
    have hperm := arreglos_modify env t mod arr strict d
    have hle : (d.listas t).countP (fun e =>
        flowEntryMatches env.toOpenFlow e.toFlowEntry mod strict true) ≤ 1 := by
      cases strict with
      | true => simpa [hcmd, listas] using hok.2 (.inr hcmd)
      | false => simpa [hcmd, listas] using hok.2 (.inl hcmd)
    rcases Nat.le_one_iff_eq_zero_or_eq_one.mp hle with h0 | h1
    · rw [h0] at hperm
      exact h.of_perm hperm (Nat.le_refl _)
    · rw [h1] at hperm
      exact h.of_perm_cons hperm hok.1.1 hok.1.2 (Nat.le_refl _)
  lookup d t pkt now := by
    rintro ⟨hb, h⟩
    refine ⟨(Vivas.cerrada env).lookup d t pkt now hb, h.of_perm ?_ (Nat.le_refl _)⟩
    refine arreglos_update [] (d.listas_conTabla t _) (Perm.append_right _ ?_)
    unfold TablaFlujos.lookup
    split
    · exact .refl _
    · have husa : ∀ e : Entrada Mt Ac, e.acepta env pkt → (e.usa env pkt now).instructions.dir =
          e.instructions.dir := fun _ _ => rfl
      exact .of_eq (map_modifyFirst _ husa _)
  remove d reason now p := by
    rintro ⟨hb, h⟩
    obtain ⟨hperm, hn⟩ := arreglos_remove hb.1 reason now p
    exact ⟨(Vivas.cerrada env).remove d reason now p hb, h.of_perm hperm (Nat.le_of_eq hn.symm)⟩

/-! ## 3. Events -/

/-- Every flow entry in a list of flow entries is in the list of the first in the walk, too. -/
def EnElPrimero {β : Type} (table : RefTable β) (orden : List Nat) : Prop :=
  ∀ g ∈ table.entries, ∀ p ∈ g.flowRefs, ∃ e ∈ table.entries,
    orden.head? = some e.id ∧ p ∈ e.flowRefs

instance {β : Type} (table : RefTable β) (orden : List Nat) :
    Decidable (EnElPrimero table orden) := by
  unfold EnElPrimero
  infer_instance

/-- **What the code does not check**: a MODIFY changes one entry of its table at most, and a
    message that deletes all groups or all meters finds every flow entry with the first of them. -/
def SinCompartir (c : Conmutador Mt P) (d : Dp Mt Action MeterBand) : Llegada P → Prop
  | .mensaje _ buf orden _ =>
    match (c.unpack buf).run with
    | some (.ok (.flowMod mod)) => ∀ t ∈ tablaDe mod.tableId, UnaEntrada c.entorno d t mod
    | some (.ok (.groupMod mod)) =>
      mod.command = .delete ∧ mod.groupId = ofpgAll → EnElPrimero d.groups orden
    | some (.ok (.meterMod mod)) =>
      mod.command = .delete ∧ mod.meterId = ofpmAll → EnElPrimero d.meters orden
    | _ => True
  | _ => True

instance (c : Conmutador Mt P) (d : Dp Mt Action MeterBand) (e : Llegada P) :
    Decidable (SinCompartir c d e) := by
  unfold SinCompartir
  split
  · split <;> infer_instance
  · infer_instance

/-- **Every event.** -/
theorem ArreglosPropios.recibe {c : Conmutador Mt P} {d d' : Dp Mt Action MeterBand}
    {e : Llegada P} (h : (d.Sana ∧ d.Vivas) ∧ d.ArreglosPropios) (hok : SinCompartir c d e)
    (hd : d.recibe c e = some d') : (d'.Sana ∧ d'.Vivas) ∧ d'.ArreglosPropios := by
  have hf : Flujos c.entorno _ fun d d' : Dp Mt Action MeterBand => _ :=
    flujos_arreglos c.entorno
  refine recibe_cases (R := fun d' => (d'.Sana ∧ d'.Vivas) ∧ d'.ArreglosPropios) hd h
    (fun slave buf orden now msg he hb hm => ?_) (fun t now => hf.flowTableTimeout t now d h)
    fun t pkt now => hf.lookup d t pkt now h
  subst he
  rcases atiende_cases hm with rfl | ⟨mod, rfl, hmod⟩ | ⟨mod, rfl, _, hc⟩ | ⟨mod, rfl, _, hc⟩
  · exact h
  · rw [SinCompartir, show (c.unpack buf).run = some (.ok (.flowMod mod)) from hb] at hok
    refine hf.pipelineHandleFlowMod (fun t ht _ => ⟨⟨fun ha => ?_, Nat.lt_succ_self _⟩,
      hok t ht⟩) hmod h
    exact Nat.lt_irrefl _ (h.2.menores _ ha)
  · refine hc.flujos hf (fun d g hp h => ?_) h
    exact ⟨(Vivas.cerrada c.entorno).grupos hp h.1, h.2.of_perm (.refl _) (Nat.le_refl _)⟩
  · refine hc.flujos hf (fun d m hp h => ?_) h
    exact ⟨(Vivas.cerrada c.entorno).metros hp h.1, h.2.of_perm (.refl _) (Nat.le_refl _)⟩

end Dp

end TcpPath.Udatapath
