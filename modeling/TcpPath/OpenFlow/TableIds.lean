/-
  Subject:   The numbers `pl->tables` is indexed with: those of flow-mods, table-mods, flow,
             aggregate and table-features requests, and those of the gotos that packets follow.

  * Table features are not checked by their unpacking but by the handler, part by part. What has
    been collected of a request in parts has tables there are (`Switch.PartesEnRango`).
  * The gotos of stored entries name tables there are, in every state. But the entries that a
    flow-mod modifies share one array, and once it is freed by one of them, what the other goes to
    is what the memory holds by then (`Pipeline.conBasura`).

  Results:   `table_ids_in_range`: accepted table numbers are those of tables.
-/
import TcpPath.OpenFlow.Controllers
import TcpPath.OpenFlow.FlowStats
import TcpPath.OpenFlow.TableFeatures
import TcpPath.OpenFlow.Termination

namespace TcpPath.Udatapath

open Util

variable {Mt Ac P : Type}

/-! ## 1. Unpacking -/

section Unpack

open Lectura

/-- `ofl_msg_unpack_table_mod`: the table and the configuration. -/
def tableModUnpack (buf : Bytes) : Lectura (Nat × Nat) := do
  exige (16 ≤ buf.length) ⟨.badRequest, .brcBadLen⟩
  let tableId ← campo buf 8 1
  exige (tableId < pipelineTables) ⟨.badRequest, .brcBadTableId⟩
  let config ← campo buf 12 4
  pure (tableId, config)

/-- `ofl_msg_unpack_multipart_request_flow`, which is that of aggregate requests, too. The match
    lies where it does in a flow-mod. -/
def multipartRequestFlowUnpack (of : OpenFlow Mt Ac P) (buf : Bytes) :
    Lectura (FlowStatsRequest Mt) := do
  exige (48 ≤ buf.length) ⟨.badRequest, .brcBadLen⟩
  let tableId ← campo buf 16 1
  exige (¬(tableId ≠ ofpttAll ∧ pipelineTables ≤ tableId)) ⟨.badRequest, .brcBadTableId⟩
  let outPort ← campo buf 20 4
  let outGroup ← campo buf 24 4
  let cookie ← campo buf 32 8
  let cookieMask ← campo buf 40 8
  let m ← matchUnpack of buf (buf.length - 48)
  pure ⟨tableId, outPort, outGroup, cookie, cookieMask, m.1⟩

/-- `ofl_utils_count_ofp_table_features`. -/
def countTableFeatures (d : Bytes) (dataLen : Nat) : Lectura Nat :=
  if dataLen < 64 then pure 0
  else do
    let len ← campo d 0 2
    if dataLen < len ∨ len < 64 then throw (tableFeaturesFailed 3)
    else do
      let n ← countTableFeatures (d.drop len) (dataLen - len)
      pure (n + 1)
termination_by dataLen

/-- The loop over the tables of a request. What no handler looks at is kept as it came. -/
def tableFeaturesLoop : Nat → Bytes → Nat → Lectura (List TableFeatures)
  | 0, _, _ => pure []
  | n + 1, d, len => do
      let r ← OflTableFeatures.unpack d len
      let l ← tableFeaturesLoop n (d.drop r.1.length) r.2
      pure (⟨r.1.tableId, r.1.config, r.1.maxEntries, (d.take r.1.length).drop 8⟩ :: l)

/-- `ofl_msg_unpack_multipart_request_table_features`: whether more is to come, and the body. -/
def multipartRequestTableFeaturesUnpack (buf : Bytes) : Lectura (Bool × Cuerpo) := do
  exige (16 ≤ buf.length) ⟨.badRequest, .brcBadLen⟩
  let flags ← campo buf 10 2
  if buf.length = 16 then pure (flags.testBit 0, none)
  else do
    let num ← countTableFeatures (buf.drop 16) (buf.length - 16)
    let l ← tableFeaturesLoop num (buf.drop 16) (buf.length - 16)
    pure (flags.testBit 0, some l)

variable {c : Prop} {e : OflErr} {buf : Bytes} {id : Nat}

theorem exige_no [Decidable c] (h : ¬c) : exige c e = throw e := if_neg h

theorem exige_bind_throw {α : Type} [Decidable c] {x : Unit → Lectura α}
    (h : c → ∃ e, x () = throw e) : ∃ e', (exige c e >>= x) = throw e' := by
  by_cases hc : c
  · obtain ⟨e', he⟩ := h hc
    exact ⟨e', by rw [exige_si hc, pure_bind, he]⟩
  · exact ⟨e, by rw [exige_no hc]; rfl⟩

theorem flowModUnpack_refuses (of : OpenFlow Mt Ac P) (hid : campo buf 24 1 = pure id)
    (hge : pipelineTables ≤ id) (hall : id ≠ ofpttAll) : ∃ e, flowModUnpack of buf = throw e := by
  refine exige_bind_throw fun _ => ?_
  rw [hid, pure_bind]
  exact exige_bind_throw fun h => absurd h (by omega)

theorem tableModUnpack_refuses (hid : campo buf 8 1 = pure id) (hge : pipelineTables ≤ id) :
    ∃ e, tableModUnpack buf = throw e := by
  refine exige_bind_throw fun _ => ?_
  rw [hid, pure_bind]
  exact exige_bind_throw fun h => absurd h (by omega)

theorem multipartRequestFlowUnpack_refuses (of : OpenFlow Mt Ac P) (hid : campo buf 16 1 = pure id)
    (hge : pipelineTables ≤ id) (hall : id ≠ ofpttAll) :
    ∃ e, multipartRequestFlowUnpack of buf = throw e := by
  refine exige_bind_throw fun _ => ?_
  rw [hid, pure_bind]
  exact exige_bind_throw fun h => absurd ⟨hall, hge⟩ h

theorem tableModUnpack_lt {tableId config : Nat} (h : tableModUnpack buf = pure (tableId, config)) :
    tableId < pipelineTables := by
  unfold tableModUnpack at h
  obtain ⟨_, _, h⟩ := bind_eq_pure.mp h
  obtain ⟨id, _, h⟩ := bind_eq_pure.mp h
  obtain ⟨_, hlt, h⟩ := bind_eq_pure.mp h
  obtain ⟨_, _, h⟩ := bind_eq_pure.mp h
  cases pure_inj h
  exact exige_eq_pure.mp hlt

theorem multipartRequestFlowUnpack_tablas {of : OpenFlow Mt Ac P} {msg : FlowStatsRequest Mt}
    (h : multipartRequestFlowUnpack of buf = pure msg) : ∃ ts, tablasDe msg.tableId = some ts := by
  unfold multipartRequestFlowUnpack at h
  obtain ⟨_, _, h⟩ := bind_eq_pure.mp h
  obtain ⟨id, _, h⟩ := bind_eq_pure.mp h
  obtain ⟨_, hok, h⟩ := bind_eq_pure.mp h
  iterate 5 obtain ⟨_, _, h⟩ := bind_eq_pure.mp h
  cases pure_inj h
  have hok := exige_eq_pure.mp hok
  unfold tablasDe tablaDe
  by_cases hall : id = ofpttAll
  · exact ⟨_, if_pos hall⟩
  · have hlt : id < pipelineTables := Nat.lt_of_not_le fun hge => hok ⟨hall, hge⟩
    rw [if_neg hall, dif_pos hlt]
    exact ⟨_, rfl⟩

end Unpack

theorem tablaDe_eq {id : Nat} (h : id < pipelineTables) : tablaDe id = some ⟨id, h⟩ := dif_pos h

/-! ## 2. Table features -/

namespace Switch

/-- The loop that puts the tables of a request in place of those there are, with the index of each:
    all tables are disabled before, and those of the request are enabled again. -/
def ponFeatures (s : Switch Mt) (l : List TableFeatures) : Option (Switch Mt) :=
  l.foldlM (fun s f => do
      let t ← tablaDe f.tableId
      return { s with
        features := Function.update s.features t f
        disabled := Function.update s.disabled t false })
    { s with disabled := fun _ => true }

theorem update_tabla {α : Type} (g : Fin pipelineTables → α) {n : Nat} (hn : n < pipelineTables)
    (v : α) : Function.update g ⟨n, hn⟩ v = fun t => if n == t.val then v else g t := by
  funext t
  rw [Function.update_apply]
  simp only [Fin.ext_iff, beq_iff_eq, eq_comm (a := n)]

variable {l : List TableFeatures} {f : TableFeatures} {rem : Remote}

theorem ponFeatures_eq (s : Switch Mt) (h : ∀ f ∈ l, f.tableId < pipelineTables) :
    s.ponFeatures l = some { s with
      features := fun t => (l.reverse.find? (·.tableId == t.val)).getD (s.features t)
      disabled := fun t => !l.any (·.tableId == t.val) } := by
  induction l using List.reverseRecOn with
  | nil => rfl
  | append_singleton l f ih =>
    have hf := h f (List.mem_append_right _ List.mem_cons_self)
    have ih := ih fun x hx => h x (List.mem_append_left _ hx)
    unfold ponFeatures at ih ⊢
    rw [List.foldlM_append, ih]
    simp only [List.foldlM_cons, List.foldlM_nil, Option.bind_eq_bind, Option.bind_some,
      tablaDe_eq hf, Option.pure_def]
    rw [update_tabla, update_tabla]
    refine congrArg some ?_
    congr 1 <;> funext t <;> cases h : f.tableId == t.val <;> simp [h]

/-- What has been collected of requests in parts has tables there are. -/
def PartesEnRango (s : Switch Mt) : Prop :=
  ∀ r, ∀ rem ∈ s.remotes r, ∀ f ∈ (rem.mpReqMsg.getD none).getD [], f.tableId < pipelineTables

theorem mem_mergeTableFeatures {orig merge : Cuerpo}
    (h : f ∈ (mergeTableFeatures orig merge).getD []) : f ∈ orig.getD [] ∨ f ∈ merge.getD [] := by
  unfold mergeTableFeatures at h
  split at h
  · exact .inl h
  · exact List.mem_append.mp h

section Partes

variable {c : Conmutador Mt P} {s s' : Switch Mt} {a : Recibo} {rem : Remote}

theorem PartesEnRango.update {r : Nat} {x : Option Remote} (h : s.PartesEnRango)
    (hs : s'.remotes = Function.update s.remotes r x)
    (hx : ∀ rem ∈ x, ∀ f ∈ (rem.mpReqMsg.getD none).getD [], f.tableId < pipelineTables) :
    s'.PartesEnRango := by
  intro r' rem hr'
  rw [hs] at hr'
  by_cases heq : r' = r
  · subst heq
    rw [Function.update_self] at hr'
    exact hx rem hr'
  · rw [Function.update_of_ne heq] at hr'
    exact h r' rem hr'

theorem CambiaRemotes.partesEnRango {r : Nat} (hrem : s.remotes r = some rem)
    (hc : CambiaRemotes r rem s s') (h : s.PartesEnRango) : s'.PartesEnRango := by
  cases hc with
  | nada heq =>
    intro r' rem' hr'
    rw [heq] at hr'
    exact h r' rem' hr'
  | config config hs =>
    refine h.update hs fun rem' hrem' => ?_
    cases hrem'
    exact h r rem hrem
  | partes body hbody mp xid hmp hs =>
    refine h.update hs fun rem' hrem' f hf => ?_
    cases hrem'
    rcases hmp with rfl | rfl
    · cases hf
    · rcases mem_mergeTableFeatures hf with hf | hf
      · exact h r rem hrem f hf
      · exact hbody f hf

theorem partesEnRango_roleRequest {r role : Nat} {generationId : UInt64}
    (hrem : s.remotes r = some rem) (h : s.PartesEnRango) :
    (s.dpHandleRoleRequest r rem role generationId).1.PartesEnRango := by
  have hself : ∀ role', ∀ rem' ∈ some { rem with role := role' },
      ∀ f ∈ (rem'.mpReqMsg.getD none).getD [], f.tableId < pipelineTables := by
    intro role' rem' hrem'
    cases hrem'
    exact h r rem hrem
  unfold dpHandleRoleRequest
  split
  · exact h
  · exact h.update rfl (hself .equal)
  · split
    · exact h
    · have hcede : ({ s with generationId, remotes := fun r' => (s.remotes r').map cede } :
          Switch Mt).PartesEnRango := by
        intro r' rem' hr'
        obtain ⟨rem'', hrem'', rfl⟩ := Option.map_eq_some_iff.mp hr'
        have hmp : (cede rem'').mpReqMsg = rem''.mpReqMsg := by
          unfold cede
          split <;> rfl
        rw [hmp]
        exact h r' rem'' hrem''
      exact hcede.update rfl (hself .master)
  · split
    · exact h
    · exact h.update rfl (hself .slave)
  · exact h

theorem partesEnRango_paso {e : Evento Mt P} (hp : s.paso c e = some s') (h : s.PartesEnRango) :
    s'.PartesEnRango := by
  cases e with
  | mensaje a msg =>
    obtain ⟨x, hx, rfl⟩ := Option.map_eq_some_iff.mp hp
    by_cases hrole : ∃ role generationId, msg = .roleRequest role generationId
    · obtain ⟨role, generationId, rfl⟩ := hrole
      obtain ⟨rem, hrem, hx⟩ := Option.bind_eq_some_iff.mp hx
      obtain rfl := Option.some.inj hx
      exact partesEnRango_roleRequest hrem h
    · obtain ⟨rem, hrem, hc⟩ := cambiaRemotes_handleControlMsg hx
        fun role g heq => hrole ⟨role, g, heq⟩
      exact hc.partesEnRango hrem h
  | trafico e =>
    obtain ⟨_, _, rfl⟩ := Option.map_eq_some_iff.mp hp
    exact h
  | conecta r =>
    obtain ⟨_, hp⟩ := Option.ite_none_right_eq_some.mp hp
    cases hp
    refine h.update rfl fun rem hrem => ?_
    cases hrem
    exact fun f hf => nomatch hf
  | desconecta r =>
    cases hp
    exact h.update rfl fun rem hrem => nomatch hrem
  | _ =>
    cases hp
    exact h

theorem partesEnRango_reach {bandsNum : UInt64} {maxQueues : Nat}
    {resto : Fin pipelineTables → Bytes} {dpDesc : Bytes} {now : Nat}
    (hrun : Run (Switch.paso c) (fun _ _ => True)
      (.create bandsNum maxQueues resto dpDesc now) s) : s.PartesEnRango :=
  hrun.invariant (I := PartesEnRango) (fun _ _ hr => (nomatch hr))
    (fun _ _ _ h _ hp => partesEnRango_paso hp h)

end Partes

theorem mem_cuerpo {body : Cuerpo} (hl : rem.cuerpo body = some l) (hf : f ∈ l) :
    f ∈ (rem.mpReqMsg.getD none).getD [] ∨ f ∈ body.getD [] := by
  have hf : f ∈ (rem.cuerpo body).getD [] := by rw [hl]; exact hf
  unfold Remote.cuerpo at hf
  split at hf
  · rename_i orig horig
    rw [horig]
    exact mem_mergeTableFeatures hf
  · exact .inr hf

/-- **Table features**: a part with a number that is not that of a table is refused, and the tables
    of a request that is complete are tables there are. -/
theorem tableFeatures_tablas {s : Switch Mt} (hs : s.PartesEnRango) {a : Recibo}
    (hrem : s.remotes a.remote = some rem) (more : Bool) (body : Cuerpo) :
    ((∃ f ∈ body.getD [], pipelineTables ≤ f.tableId) →
      s.pipelineHandleTableFeaturesRequest a rem more body = (s, some (tableFeaturesFailed 0))) ∧
    ((∀ f ∈ body.getD [], f.tableId < pipelineTables) → ∀ l, rem.cuerpo body = some l →
      ∃ s', s.ponFeatures l = some s' ∧ ((∀ f ∈ l, f.maxEntries ≤ flowTableMaxEntries) →
        s.aplicaTableFeatures (some l) = (s', none))) := by
  refine ⟨fun ⟨f, hf, hge⟩ => ?_, fun hbody l hl => ?_⟩
  · exact if_pos (List.any_eq_true.mpr ⟨f, hf, decide_eq_true hge⟩)
  · refine ⟨_, s.ponFeatures_eq fun f hf => ?_, fun hmax => ?_⟩
    · rcases mem_cuerpo hl hf with hf | hf
      · exact hs a.remote rem hrem f hf
      · exact hbody f hf
    · refine if_neg fun hany => ?_
      obtain ⟨f, hf, hlt⟩ := List.any_eq_true.mp hany
      exact Nat.not_le_of_lt (of_decide_eq_true hlt) (hmax f hf)

theorem pipelineHandleFlowMod_all {c : Conmutador Mt P} (s : Switch Mt) {mod : FlowMod Mt Action}
    (hall : mod.tableId = ofpttAll) (hc : ¬(mod.command = .delete ∨ mod.command = .deleteStrict))
    (slave : Bool) (now : Nat) :
    ∃ e, s.pipelineHandleFlowMod c slave mod now = some (s, some e) := by
  have herr : ∃ e, s.dp.pipelineHandleFlowMod c.entorno slave mod now = .error e := by
    unfold Dp.pipelineHandleFlowMod
    simp only [if_pos hall, if_neg hc]
    split
    · exact ⟨_, rfl⟩
    · split <;> exact ⟨_, rfl⟩
  obtain ⟨e, he⟩ := herr
  exact ⟨e, by rw [pipelineHandleFlowMod, he]⟩

theorem pipelineHandleTableMod_isSome (s : Switch Mt) (slave : Bool) {tableId : Nat} (config : Nat)
    (h : tableId < pipelineTables) : (s.pipelineHandleTableMod slave tableId config).isSome := by
  unfold pipelineHandleTableMod
  split
  · rfl
  · split
    · rfl
    · rw [tablaDe_eq h]
      rfl

end Switch

end TcpPath.Udatapath

/-! ## 3. Packets -/

namespace TcpPath

open Util

variable {Mt Ac P : Type} {of : OpenFlow Mt Ac P} {pl : Pipeline Mt Ac}

/-- The tables as packets see them: an array that has been freed holds what the memory holds. -/
def Pipeline.conBasura (basura : Nat → List (Instruction Ac)) (pl : Pipeline Mt Ac) :
    Pipeline Mt Ac :=
  { pl with
    tables := pl.tables.map fun table => table.map fun e =>
      if pl.libres.contains e.instructions.dir then
        { e with instructions := ⟨e.instructions.dir, basura e.instructions.dir⟩ }
      else e
    libres := [] }

/-- Table `t` is looked up for the packet in some round of the loop. -/
def Visita (of : OpenFlow Mt Ac P) (pl : Pipeline Mt Ac) (pkt : P) (t : Nat) : Prop :=
  ∃ pkt', Relation.ReflTransGen (fun x y : Nat × P => pasoTabla of pl x.1 x.2 = .inr y)
    (0, pkt) (t, pkt')

/-- **What the code does not check**: a flow-mod gives its array to one entry at most. -/
def UnaSola (of : OpenFlow Mt Ac P) (pl : Pipeline Mt Ac) : Orden Mt Ac → Prop
  | .flowMod _ buf => ∀ mod, flowModUnpack of buf = pure mod →
      mod.reparte of (pl.table mod.tableId) ≤ 1
  | .retira _ _ => True

theorem Pipeline.todas_acotadas {test : Pipeline Mt Ac → Orden Mt Ac → Prop}
    (h : Run (Pipeline.paso of) test .create pl) :
    pl.Todas fun _ arr => Acotadas arr.lista :=
  h.invariant (Pipeline.create_todas _) fun _ _ _ hb _ hp =>
    hb.paso hp fun _ _ _ _ _ _ hac => acotadas_ordena hac

theorem Pipeline.propias_unaSola (h : Run (Pipeline.paso of) (UnaSola of) .create pl) :
    pl.Propias :=
  h.invariant Pipeline.create_propias fun _ _ _ hb ho hp =>
    hb.paso hp fun _ _ mod hflow hmod => by
      subst hflow
      exact ho mod hmod

variable {basura : Nat → List (Instruction Ac)} {t : Nat}

theorem Pipeline.Propias.mem_conBasura (hb : pl.Propias) {e : FlowEntry Mt Ac}
    (he : e ∈ (pl.conBasura basura).table t) : e ∈ pl.table t := by
  have htab : (pl.conBasura basura).table t = (pl.table t).map fun e =>
      if pl.libres.contains e.instructions.dir then
        { e with instructions := ⟨e.instructions.dir, basura e.instructions.dir⟩ }
      else e := by
    simp only [conBasura, table, List.getD_eq_getElem?_getD, List.getElem?_map]
    cases pl.tables[t]? <;> rfl
  rw [htab] at he
  obtain ⟨e', he', rfl⟩ := List.mem_map.mp he
  simp only [hb.vivo he', Bool.false_eq_true, if_false]
  exact he'

theorem Visita.lt (htodas : pl.Todas fun _ arr => Acotadas arr.lista) (hprop : pl.Propias) {pkt : P}
    (h : Visita of (pl.conBasura basura) pkt t) : t < pipelineTables := by
  obtain ⟨pkt', h⟩ := h
  cases h with
  | refl => decide
  | tail _ hlast =>
    obtain ⟨e, he, hgo⟩ := pasoTabla_next hlast
    exact htodas.todas _ e (hprop.mem_conBasura he) t hgo

end TcpPath

/-! ## 4. Table numbers stay in range -/

namespace TcpPath.Udatapath

open Util Lectura

variable {Mt P : Type}

/-- **Table numbers stay in range.** What is accepted has numbers of tables, or that of all where
allowed; any other is answered with an error. Stored gotos name tables, and packets come to tables
only, as long as a flow-mod gives its instructions to one entry at most. -/
theorem table_ids_in_range {c : Conmutador Mt P} {s : Switch Mt} {bandsNum : UInt64}
    {maxQueues : Nat} {resto : Fin pipelineTables → Bytes} {dpDesc : Bytes} {now : Nat}
    (hrun : Run (Switch.paso c) (fun _ _ => True)
      (.create bandsNum maxQueues resto dpDesc now) s) :
    -- flow-mods
    (∀ buf mod, flowModUnpack c.entorno.toOpenFlow buf = pure mod →
      Acotadas mod.instructions ∧ ((tablaDe mod.tableId).isSome ∨ mod.tableId = ofpttAll ∧
        (mod.command = .delete ∨ mod.command = .deleteStrict ∨
          ∀ slave now, ∃ e, s.pipelineHandleFlowMod c slave mod now = some (s, some e)))) ∧
    (∀ buf id, campo buf 24 1 = pure id → pipelineTables ≤ id → id ≠ ofpttAll →
      ∃ e, flowModUnpack c.entorno.toOpenFlow buf = throw e) ∧
    -- table-mods
    (∀ buf tableId config, tableModUnpack buf = pure (tableId, config) → ∀ slave,
      (s.pipelineHandleTableMod slave tableId config).isSome) ∧
    (∀ buf id, campo buf 8 1 = pure id → pipelineTables ≤ id → ∃ e, tableModUnpack buf = throw e) ∧
    -- flow and aggregate requests
    (∀ buf msg, multipartRequestFlowUnpack c.entorno.toOpenFlow buf = pure msg →
      (s.dp.pipelineHandleStatsRequestFlow c.entorno msg).isSome ∧
      (s.dp.pipelineHandleStatsRequestAggregate c.entorno msg).isSome) ∧
    (∀ buf id, campo buf 16 1 = pure id → pipelineTables ≤ id → id ≠ ofpttAll →
      ∃ e, multipartRequestFlowUnpack c.entorno.toOpenFlow buf = throw e) ∧
    -- table features
    (∀ buf more body, multipartRequestTableFeaturesUnpack buf = pure (more, body) →
      ∀ a rem, s.remotes a.remote = some rem →
        ((∃ f ∈ body.getD [], pipelineTables ≤ f.tableId) →
          s.pipelineHandleTableFeaturesRequest a rem more body =
            (s, some (tableFeaturesFailed 0))) ∧
        ((∀ f ∈ body.getD [], f.tableId < pipelineTables) → ∀ l, rem.cuerpo body = some l →
          ∃ s', s.ponFeatures l = some s' ∧ ((∀ f ∈ l, f.maxEntries ≤ flowTableMaxEntries) →
            s.aplicaTableFeatures (some l) = (s', none)))) ∧
    -- packets
    (∀ pl, Run (Pipeline.paso c.entorno.toOpenFlow) (fun _ _ => True) .create pl →
      ∀ t, ∀ e ∈ pl.table t, Acotadas e.instructions.lista) ∧
    (∀ pl, Run (Pipeline.paso c.entorno.toOpenFlow) (UnaSola c.entorno.toOpenFlow) .create pl →
      ∀ basura pkt t, Visita c.entorno.toOpenFlow (pl.conBasura basura) pkt t →
        t < pipelineTables) := by
  have hpartes := Switch.partesEnRango_reach hrun
  refine ⟨fun buf mod hmod => ?_, fun buf id => flowModUnpack_refuses _,
    fun buf tableId config h slave => ?_, fun buf id => tableModUnpack_refuses,
    fun buf msg h => ?_, fun buf id => multipartRequestFlowUnpack_refuses _,
    fun buf more body _ a rem hrem => Switch.tableFeatures_tablas hpartes hrem more body,
    fun pl hpl => (Pipeline.todas_acotadas hpl).todas, fun pl hpl basura pkt t h => ?_⟩
  · obtain ⟨htab, hac⟩ := flowModUnpack_acotado hmod
    refine ⟨hac, htab.imp (fun hlt => by rw [tablaDe_eq hlt]; rfl) fun hall => ⟨hall, ?_⟩⟩
    by_cases hdel : mod.command = .delete ∨ mod.command = .deleteStrict
    · exact hdel.elim .inl fun h => .inr (.inl h)
    · exact .inr (.inr (s.pipelineHandleFlowMod_all hall hdel))
  · exact s.pipelineHandleTableMod_isSome slave config (tableModUnpack_lt h)
  · obtain ⟨ts, hts⟩ := multipartRequestFlowUnpack_tablas h
    obtain ⟨r, hr, _⟩ : ∃ r, s.dp.pipelineHandleStatsRequestFlow c.entorno msg = some r ∧ _ :=
      pipelineHandleStatsRequestFlow_eq hts
    rw [hr, pipelineHandleStatsRequestAggregate_eq hts]
    exact ⟨rfl, rfl⟩
  · exact h.lt (Pipeline.todas_acotadas hpl) (Pipeline.propias_unaSola hpl)

/-- `OFPT_TABLE_MOD`. -/
def msgTableMod (tableId : UInt8) : Bytes := conCabecera 17 [tableId, 0, 0, 0, 0, 0, 0, 3]

/-- Table 63 is configured and table 64 is not; a flow-mod sends table 0 to table 5, where packets
    stay in range. -/
theorem table_ids_in_range_dosTablas :
    (Switch.encendido.pipelineHandleTableMod false 63 3).isSome ∧
    (∃ e, tableModUnpack (msgTableMod 64) = throw e) ∧
    ∃ pl, Run (Pipeline.paso sinCampos.entorno.toOpenFlow) (UnaSola sinCampos.entorno.toOpenFlow)
        .create pl ∧
      Visita sinCampos.entorno.toOpenFlow (pl.conBasura fun _ => []) 0 5 ∧
      ∀ t, Visita sinCampos.entorno.toOpenFlow (pl.conBasura fun _ => []) 0 t →
        t < pipelineTables := by
  obtain ⟨_, _, hmod, hno, _, _, _, _, hpkt⟩ :=
    table_ids_in_range (c := sinCampos) (s := .encendido) .refl
  have h1 : Run (Pipeline.paso sinCampos.entorno.toOpenFlow)
      (UnaSola sinCampos.entorno.toOpenFlow) .create _ :=
    .tail .refl (e := .flowMod false (mensaje 0 0 1 (instGoto 5)))
      (fun mod hmod => by
        cases Lectura.pure_inj (hmod.symm.trans (show flowModUnpack _ _ = pure _ from rfl))
        decide) rfl
  exact ⟨hmod (msgTableMod 63) 63 3 rfl false, hno (msgTableMod 64) 64 rfl (by decide), _, h1,
    ⟨0, .single rfl⟩, hpkt _ h1 (fun _ => []) 0⟩

/-- **Packets leave the tables.** Two entries share the instructions of a flow-mod, one of them
ends, and the freed memory sends a packet to `pl->tables[200]`. -/
theorem table_ids_in_range_fails :
    ∃ pl, exec (Pipeline.paso sinCampos.entorno.toOpenFlow) (fun _ _ => True)
        [.flowMod false (mensaje 0 0 1 (instGoto 5)),
          .flowMod false (mensaje 0 0 2 (instGoto 6)),
          .flowMod false (mensaje 0 1 0 (instGoto 7)), .flowMod false (mensaje 0 4 2 [])]
        .create = some pl ∧
      Visita sinCampos.entorno.toOpenFlow (pl.conBasura fun _ => [.gotoTable 200]) 0 200 :=
  ⟨_, rfl, 0, .single rfl⟩

end TcpPath.Udatapath
