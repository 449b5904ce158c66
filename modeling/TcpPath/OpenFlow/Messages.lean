/-
  Subject:   The tables under the messages of controllers as they come in:
             `pipeline_handle_flow_mod`, `group_table_handle_group_mod` and
             `meter_table_handle_meter_mod` behind `ofl_msg_unpack`.

  Results:   `Dp.Cerrada.recibe`: the references stay closed over an event.
-/
import TcpPath.OpenFlow.References
import TcpPath.OpenFlow.Wire

namespace TcpPath.Udatapath

open Util

variable {Mt Ac Bd P : Type}

/-! ## 1. Handlers -/

/-- The checks of actions with the groups there are. -/
def Entorno.conGrupos (env : Entorno Mt Ac P) (groups : RefTable (Bucket Ac)) :
    OpenFlow Mt Ac P :=
  { env.toOpenFlow with dpActionsValidate := Udatapath.dpActionsValidate env groups }

/-- The groups of `OFPAT_GROUP` actions are in the table, as far as `dp_actions_validate` asks. -/
def HayGrupos (env : Entorno Mt Ac P) (groups : RefTable (Bucket Ac)) (actions : List Ac) :
    Prop :=
  ∀ a ∈ actions, ∀ g, env.grupo a = some g → g ≤ ofpgMax → (groups.find g).isSome

/-- `pl->tables[id]`. The unpacking lets no other number through than those of the tables and
    `OFPTT_ALL`. -/
def tablaDe (id : Nat) : Option (Fin pipelineTables) :=
  if h : id < pipelineTables then some ⟨id, h⟩ else none

namespace Dp

/-- `pipeline_handle_flow_mod`. -/
def pipelineHandleFlowMod (env : Entorno Mt Ac P) (slave : Bool) (mod : FlowMod Mt Ac)
    (now : Nat) (d : Dp Mt Ac Bd) : Except OflErr (Dp Mt Ac Bd) :=
  if slave then .error ⟨.badRequest, .brcIsSlave⟩
  else
    let arr : Arreglo Ac := ⟨d.siguiente, ordena mod.instructions⟩
    match arr.lista.findSome? (validaInstruccion (env.conGrupos d.groups) mod) with
    | some e => .error e
    | none =>
        let d := { d with siguiente := d.siguiente + 1 }
        if mod.tableId = ofpttAll then
          if mod.command = .delete ∨ mod.command = .deleteStrict then
            (List.finRange pipelineTables).foldlM
              (fun d t => d.flowTableFlowMod env t mod arr now) d
          else .error ⟨.flowModFailed, .fmfcBadTableId⟩
        else
          match tablaDe mod.tableId with
          | some t => d.flowTableFlowMod env t mod arr now
          | none => .error ⟨.badRequest, .brcBadTableId⟩

/-- What a message that has been unpacked does. -/
def atiende (env : Entorno Mt Ac P) (slave : Bool) (orden : List Nat) (now : Nat)
    (d : Dp Mt Ac MeterBand) : OflMsg Mt Ac → Option (Dp Mt Ac MeterBand)
  | .flowMod mod => some (d.tras (d.pipelineHandleFlowMod env slave mod now))
  | .groupMod mod => d.paso env (.groupMod slave mod orden now)
  | .meterMod mod => d.paso env (.meterMod slave mod orden now)
  | .otro => some d

end Dp

/-- What comes in, and when. `orden` is the order of the map that the message walks over. -/
inductive Llegada (P : Type) where
  | mensaje (slave : Bool) (buf : Bytes) (orden : List Nat) (now : Nat)
  | timeout (t : Fin pipelineTables) (now : Nat)
  | lookup (t : Fin pipelineTables) (pkt : P) (now : Nat)

namespace Dp

/-- One event; `none` where the unpacking does not return, or `orden` is not what is in the
    map. -/
def recibe (c : Conmutador Mt P) (d : Dp Mt Action MeterBand) :
    Llegada P → Option (Dp Mt Action MeterBand)
  | .mensaje slave buf orden now =>
      match (c.unpack buf).run with
      | none => none
      | some (.error _) => some d
      | some (.ok msg) => d.atiende c.entorno slave orden now msg
  | .timeout t now => d.paso c.entorno (.timeout t now)
  | .lookup t pkt now => d.paso c.entorno (.lookup t pkt now)

/-- **The events one by one**: what holds for every message that can be unpacked, for timeouts and
    for lookups, holds for what comes in. -/
theorem recibe_cases {c : Conmutador Mt P} {R : Dp Mt Action MeterBand → Prop}
    {d d' : Dp Mt Action MeterBand} {e : Llegada P} (h : d.recibe c e = some d') (hd : R d)
    (hmsg : ∀ slave buf orden now msg, e = .mensaje slave buf orden now → c.unpack buf = pure msg →
      d.atiende c.entorno slave orden now msg = some d' → R d')
    (htime : ∀ t now, R (d.flowTableTimeout t now))
    (hlook : ∀ t pkt now,
      R (d.conTabla t fun table => (table.lookup c.entorno pkt now).1)) : R d' := by
  cases e with
  | mensaje slave buf orden now =>
    rw [recibe] at h
    cases hm : (c.unpack buf).run with
    | none =>
      rw [hm] at h
      cases h
    | some x =>
      rw [hm] at h
      cases x with
      | error e =>
        cases h
        exact hd
      | ok msg => exact hmsg slave buf orden now msg rfl hm h
  | timeout t now =>
    cases h
    exact htime t now
  | lookup t pkt now =>
    cases h
    exact hlook t pkt now

end Dp

/-! ## 2. Flow-mods -/

variable {is : List (Instruction Ac)} {a : Ac} {env : Entorno Mt Ac P}

theorem mem_accionesDe :
    a ∈ accionesDe is ↔
      ∃ actions, (.applyActions actions ∈ is ∨ .writeActions actions ∈ is) ∧ a ∈ actions := by
  unfold accionesDe
  rw [List.mem_flatMap]
  constructor
  · rintro ⟨i, hi, ha⟩
    cases i with
    | applyActions actions => exact ⟨actions, .inl hi, ha⟩
    | writeActions actions => exact ⟨actions, .inr hi, ha⟩
    | _ => cases ha
  · rintro ⟨actions, hi | hi, ha⟩
    · exact ⟨_, hi, ha⟩
    · exact ⟨_, hi, ha⟩

theorem mem_accionesDe_ordena : a ∈ accionesDe (ordena is) ↔ a ∈ accionesDe is := by
  have hp : ∀ i, i ∈ ordena is ↔ i ∈ is := fun i => (List.perm_insertionSort _ is).mem_iff
  simp only [mem_accionesDe, hp]

theorem hayGrupos_of_validate {groups : RefTable (Bucket Ac)} {actions : List Ac}
    (h : dpActionsValidate env groups actions = none) : HayGrupos env groups actions := by
  intro a ha g hg hle
  have hn := List.findSome?_eq_none_iff.mp h a ha
  simp only [hg] at hn
  split at hn
  · cases hn
  · split at hn
    · cases hn
    · rename_i hno
      cases hf : groups.find g with
      | none => exact absurd ⟨hle, by rw [hf]; rfl⟩ hno
      | some entry => rfl

theorem hayGrupos_of_valida {groups : RefTable (Bucket Ac)} {mod : FlowMod Mt Ac}
    (h : is.findSome? (validaInstruccion (env.conGrupos groups) mod) = none) :
    HayGrupos env groups (accionesDe is) := by
  intro a ha
  obtain ⟨actions, hi, ha⟩ := mem_accionesDe.mp ha
  have hn : (dpActionsValidate env groups actions).or
      (env.dpActionsCheckSetFieldReq mod.mtch actions) = none := by
    rcases hi with hi | hi
    · exact List.findSome?_eq_none_iff.mp h _ hi
    · exact List.findSome?_eq_none_iff.mp h _ hi
  exact hayGrupos_of_validate (Option.or_eq_none_iff.mp hn).1 a ha

namespace Dp

variable {env : Entorno Mt Ac P}
  {ok : Dp Mt Ac Bd → Fin pipelineTables → FlowMod Mt Ac → Arreglo Ac → Prop}
  {R : Dp Mt Ac Bd → Dp Mt Ac Bd → Prop} {d d' : Dp Mt Ac Bd} {slave : Bool} {now : Nat}
  {orden : List Nat} {mod : MeterMod Bd} {c : Conmutador Mt P}

theorem Flujos.foldlM (h : Flujos env ok R) {α : Type}
    {f : Dp Mt Ac Bd → α → Except OflErr (Dp Mt Ac Bd)} (hf : ∀ d a d', f d a = .ok d' → R d d')
    {l : List α} (hd : l.foldlM f d = .ok d') : R d d' :=
  foldlM_invariant (I := R d) (fun d1 a d2 _ h1 h2 => h.trans h1 (hf d1 a d2 h2)) (h.refl d) hd

/-- **A flow-mod that is accepted.** Its instructions have only groups that are in the table. -/
theorem Flujos.pipelineHandleFlowMod (h : Flujos env ok R) {mod : FlowMod Mt Ac}
    (harr : ∀ t, tablaDe mod.tableId = some t →
      HayGrupos env d.groups (accionesDe mod.instructions) →
      ok { d with siguiente := d.siguiente + 1 } t mod ⟨d.siguiente, ordena mod.instructions⟩)
    (hd : d.pipelineHandleFlowMod env slave mod now = .ok d') : R d d' := by
  unfold Dp.pipelineHandleFlowMod at hd
  split at hd
  · cases hd
  · simp only at hd
    split at hd
    · cases hd
    · rename_i hval
      refine h.trans (h.memoria d) ?_
      split at hd
      · split at hd
        · rename_i hcmd
          -- only commands that delete come to all tables
          refine h.foldlM (fun d t d' ht => ?_) hd
          rcases hcmd with hcmd | hcmd
          · rw [Dp.flowTableFlowMod, hcmd] at ht
            cases ht
            exact h.flowTableDelete ..
          · rw [Dp.flowTableFlowMod, hcmd] at ht
            cases ht
            exact h.flowTableDelete ..
        · cases hd
      · split at hd
        · rename_i t ht
          refine h.flowTableFlowMod (harr t ht fun a ha => ?_) hd
          exact hayGrupos_of_valida hval a (mem_accionesDe_ordena.mpr ha)
        · cases hd

/-! ## 3. Group-mods -/

/-- **What an accepted group-mod can do.** -/
inductive GrupoCambia (env : Entorno Mt Ac P) (mod : GroupMod Ac) (orden : List Nat) (now : Nat)
    (d : Dp Mt Ac Bd) : Dp Mt Ac Bd → Prop where
  | nada : GrupoCambia env mod orden now d d
  | add {g : RefTable (Bucket Ac)} (hcmd : mod.command = .add)
      (hval : HayGrupos env d.groups (mod.buckets.flatMap (·.actions)))
      (hg : groupTableAdd d.groups mod.groupId mod.buckets = .ok g) :
      GrupoCambia env mod orden now d { d with groups := g }
  | modify {g : RefTable (Bucket Ac)} (hcmd : mod.command = .modify)
      (hval : HayGrupos env d.groups (mod.buckets.flatMap (·.actions)))
      (hg : groupTableModify env.grupo d.groups mod.groupId mod.buckets = .ok g) :
      GrupoCambia env mod orden now d { d with groups := g }
  | deleteAll (hcmd : mod.command = .delete) (hid : mod.groupId = ofpgAll) :
      GrupoCambia env mod orden now d
        { d.destroyAll groups .groupDelete now orden with groups := .vacia 0 0 }
  | delete {entry : RefEntry (Bucket Ac)} (hcmd : mod.command = .delete)
      (hf : d.groups.find mod.groupId = some entry)
      (hno : ∀ e ∈ d.groups.entries, groupEntryHasOutGroup env.toOpenFlow e entry.id = false) :
      GrupoCambia env mod orden now d
        ({ d with groups := d.groups.retira entry }.entryDestroy .groupDelete now entry.flowRefs)

theorem groupTableHandleGroupMod_ok {mod : GroupMod Ac}
    (h : d.groupTableHandleGroupMod env slave mod orden now = .ok d') :
    GrupoCambia env mod orden now d d' := by
  unfold groupTableHandleGroupMod at h
  split at h
  · cases h
  · split at h
    · cases h
    · rename_i hval
      have hhay : HayGrupos env d.groups (mod.buckets.flatMap (·.actions)) := by
        intro a ha
        obtain ⟨b, hb, ha⟩ := List.mem_flatMap.mp ha
        exact hayGrupos_of_validate (List.findSome?_eq_none_iff.mp hval b hb) a ha
      split at h
      · rename_i hcmd
        obtain ⟨g, hg, rfl⟩ := of_map_eq_ok h
        exact .add hcmd hhay hg
      · rename_i hcmd
        obtain ⟨g, hg, rfl⟩ := of_map_eq_ok h
        exact .modify hcmd hhay hg
      · rename_i hcmd
        unfold groupTableDelete at h
        split at h
        · rename_i hid
          cases h
          exact .deleteAll hcmd hid
        · split at h
          · cases h
            exact .nada
          · rename_i entry hf
            split at h
            · cases h
            · rename_i hno
              cases h
              refine .delete hcmd hf fun e he => Bool.eq_false_iff.mpr fun ht => hno ?_
              exact List.any_eq_true.mpr ⟨e, he, ht⟩
      · cases h

/-- **What an accepted meter-mod can do.** -/
inductive MetroCambia (mod : MeterMod Bd) (orden : List Nat) (now : Nat) (d : Dp Mt Ac Bd) :
    Dp Mt Ac Bd → Prop where
  | nada : MetroCambia mod orden now d d
  | add {m : RefTable Bd} (hcmd : mod.command = .add)
      (hm : meterTableAdd d.meters mod.meterId mod.bands = .ok m) :
      MetroCambia mod orden now d { d with meters := m }
  | modify {m : RefTable Bd} (hcmd : mod.command = .modify)
      (hm : meterTableModify d.meters mod.meterId mod.bands = .ok m) :
      MetroCambia mod orden now d { d with meters := m }
  | deleteAll (hcmd : mod.command = .delete) (hid : mod.meterId = ofpmAll) :
      MetroCambia mod orden now d
        { d.destroyAll meters .meterDelete now orden with meters := .vacia 0 0 }
  | delete {entry : RefEntry Bd} (hcmd : mod.command = .delete)
      (hf : d.meters.find mod.meterId = some entry) :
      MetroCambia mod orden now d
        ({ d with meters := d.meters.retira entry }.entryDestroy .meterDelete now entry.flowRefs)

theorem meterTableHandleMeterMod_ok (h : d.meterTableHandleMeterMod slave mod orden now = .ok d') :
    MetroCambia mod orden now d d' := by
  unfold meterTableHandleMeterMod at h
  split at h
  · cases h
  · split at h
    · rename_i hcmd
      obtain ⟨m, hm, rfl⟩ := of_map_eq_ok h
      exact .add hcmd hm
    · rename_i hcmd
      obtain ⟨m, hm, rfl⟩ := of_map_eq_ok h
      exact .modify hcmd hm
    · rename_i hcmd
      cases h
      unfold meterTableDelete
      split
      · rename_i hid
        exact .deleteAll hcmd hid
      · split
        · exact .nada
        · rename_i entry hf
          exact .delete hcmd hf
    · cases h

theorem GrupoCambia.flujos (h : Flujos env ok R)
    (hR : ∀ (d : Dp Mt Ac Bd) g, d.groups.Paso g → R d { d with groups := g }) {mod : GroupMod Ac}
    (hc : GrupoCambia env mod orden now d d') : R d d' := by
  cases hc with
  | nada => exact h.refl d
  | add _ _ hg => exact hR d _ (.add hg)
  | modify _ _ hg => exact hR d _ (.modify hg)
  | deleteAll =>
    exact h.trans (h.destroyAll groups .groupDelete now orden d) (hR _ _ (.vacia 0 0))
  | delete => exact h.trans (hR d _ (.retira _)) (h.entryDestroy ..)

theorem MetroCambia.flujos (h : Flujos env ok R)
    (hR : ∀ (d : Dp Mt Ac Bd) m, d.meters.Paso m → R d { d with meters := m })
    (hc : MetroCambia mod orden now d d') : R d d' := by
  cases hc with
  | nada => exact h.refl d
  | add _ hm => exact hR d _ (.add hm)
  | modify _ hm => exact hR d _ (.modify hm)
  | deleteAll =>
    exact h.trans (h.destroyAll meters .meterDelete now orden d) (hR _ _ (.vacia 0 0))
  | delete => exact h.trans (hR d _ (.retira _)) (h.entryDestroy ..)

/-! ## 4. Events -/

theorem atiende_cases {d d' : Dp Mt Ac MeterBand} {msg : OflMsg Mt Ac}
    (h : d.atiende env slave orden now msg = some d') :
    d' = d ∨
    (∃ mod, msg = .flowMod mod ∧ d.pipelineHandleFlowMod env slave mod now = .ok d') ∨
    (∃ mod, msg = .groupMod mod ∧ orden.Perm d.groups.ids ∧
      GrupoCambia env mod orden now d d') ∨
    ∃ mod, msg = .meterMod mod ∧ orden.Perm d.meters.ids ∧ MetroCambia mod orden now d d' := by
  cases msg with
  | flowMod mod =>
    cases h
    cases hr : d.pipelineHandleFlowMod env slave mod now with
    | error e => exact .inl rfl
    | ok d' => exact .inr (.inl ⟨mod, rfl, hr⟩)
  | groupMod mod =>
    rw [atiende, paso] at h
    split at h
    · rename_i hperm
      cases h
      cases hr : d.groupTableHandleGroupMod env slave mod orden now with
      | error e => exact .inl rfl
      | ok d' =>
        exact .inr (.inr (.inl ⟨mod, rfl, List.isPerm_iff.mp hperm,
          groupTableHandleGroupMod_ok hr⟩))
    · cases h
  | meterMod mod =>
    rw [atiende, paso] at h
    split at h
    · rename_i hperm
      cases h
      cases hr : d.meterTableHandleMeterMod slave mod orden now with
      | error e => exact .inl rfl
      | ok d' =>
        exact .inr (.inr (.inr ⟨mod, rfl, List.isPerm_iff.mp hperm,
          meterTableHandleMeterMod_ok hr⟩))
    · cases h
  | otro =>
    cases h
    exact .inl rfl

/-- **One event that comes in**, for a relation with all the steps. -/
theorem Cerrada.recibe {R : Dp Mt Action MeterBand → Dp Mt Action MeterBand → Prop}
    (h : Cerrada c.entorno R) {d d' : Dp Mt Action MeterBand} {e : Llegada P}
    (hd : d.recibe c e = some d') : R d d' := by
  refine recibe_cases (R := R d) hd (h.refl d) (fun slave buf orden now msg _ _ hm => ?_)
    (fun t now => h.flujos.flowTableTimeout t now d) (fun t pkt now => h.lookup d t pkt now)
  cases msg with
  | flowMod mod =>
    cases hm
    exact h.tras fun _ hok => h.flujos.pipelineHandleFlowMod (fun _ _ _ => trivial) hok
  | groupMod mod => exact h.paso (e := .groupMod slave mod orden now) hm
  | meterMod mod => exact h.paso (e := .meterMod slave mod orden now) hm
  | otro =>
    cases hm
    exact h.refl d

theorem vivas_recibe {ok : Dp Mt Action MeterBand → Llegada P → Prop} {bandsNum : UInt64}
    {d : Dp Mt Action MeterBand} (h : Run (recibe c) ok (create bandsNum) d) : d.Sana ∧ d.Vivas :=
  h.invariant (I := fun d => d.Sana ∧ d.Vivas) ⟨create_sana bandsNum, create_vivas bandsNum⟩
    fun _ _ _ hd _ hp => (Vivas.cerrada c.entorno).recibe hp hd

end Dp

/-! ## 5. Messages to try the switch with -/

def sinCampos : Conmutador Unit Nat where
  of :=
    { oxmPullMatch := fun _ => .error ⟨.badMatch, .otro 6⟩
      sinCampos := ()
      actionsUnpack := fun _ => .ok ([], 0)
      matchStdStrict := fun _ _ => true
      matchStdNonstrict := fun _ _ => true
      matchStdOverlap := fun _ _ => true
      listHasOutPort := fun _ _ => false
      listHasOutGroup := fun _ _ => false
      dpActionsValidate := fun _ => none
      dpActionsCheckSetFieldReq := fun _ _ => none
      handleStdMatch := fun _ _ => true
      ponTabla := fun _ p => p
      ponMiss := fun _ p => p
      writeMetadata := fun _ _ p => p
      writeActions := fun _ p => p
      executeActionList := fun _ _ p => p
      clearActions := id
      meterTableApply := fun _ p => (p, true)
      actionSetExecute := id }
  detras _ _ := 0
  hayPuerto port := decide (1 ≤ port ∧ port ≤ 9)
  size _ := 64

/-- A number in `n` bytes, in network byte order. -/
def red : Nat → Nat → Bytes
  | 0, _ => []
  | n + 1, v => red n (v / 256) ++ [v.toUInt8]

/-- `struct ofp_header`, and what follows it. -/
def conCabecera (type : UInt8) (cuerpo : Bytes) : Bytes :=
  [4, type] ++ red 2 (8 + cuerpo.length) ++ [0, 0, 0, 0] ++ cuerpo

/-- `OFPAT_OUTPUT`. -/
def accSalida (port : Nat) : Bytes := [0, 0, 0, 16] ++ red 4 port ++ List.replicate 8 0

/-- `OFPAT_GROUP`. -/
def accGrupo (groupId : Nat) : Bytes := [0, 22, 0, 8] ++ red 4 groupId

/-- `struct ofp_bucket` without weight, which watches nothing. -/
def cubo (actions : Bytes) : Bytes :=
  red 2 (16 + actions.length) ++ [0, 0] ++ List.replicate 8 0xff ++ [0, 0, 0, 0] ++ actions

/-- A group-mod for a group of type `OFPGT_ALL`. -/
def msgGrupo (command groupId : Nat) (buckets : List Bytes) : Bytes :=
  conCabecera 15 (red 2 command ++ [0, 0] ++ red 4 groupId ++ buckets.flatten)

/-- A meter-mod with as many bands of type `OFPMBT_DROP`. -/
def msgMetro (command meterId bands : Nat) : Bytes :=
  conCabecera 29 (red 2 command ++ [0, 1] ++ red 4 meterId ++
    (List.replicate bands ([0, 1, 0, 16] ++ List.replicate 12 0)).flatten)

/-- `OFPIT_APPLY_ACTIONS`. -/
def instAplica (actions : Bytes) : Bytes :=
  [0, 4] ++ red 2 (8 + actions.length) ++ [0, 0, 0, 0] ++ actions

/-- `OFPIT_METER`. -/
def instMetro (meterId : Nat) : Bytes := [0, 6, 0, 8] ++ red 4 meterId

/-- A flow-mod for table 0 on any output. -/
def msgFlujo (command priority : Nat) (instructions : Bytes) : Bytes :=
  conCabecera 14 (List.replicate 16 0 ++ [0] ++ red 1 command ++ [0, 0, 0, 0] ++ red 2 priority ++
    List.replicate 12 0xff ++ [0, 0, 0, 0, 0, 1, 0, 4, 0, 0, 0, 0] ++ instructions)

end TcpPath.Udatapath
