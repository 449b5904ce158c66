/-
  Subject:   Table-features requests in parts, and the segments of the reply
             (`pipeline_handle_stats_request_table_features_request`).

  The order of the tables of a request plays no part: `last_table_id` is never set.

  Results:   `table_features_reply`: all tables in order, in segments;
             `table_features_request`: the reply to a request in parts.
-/
import TcpPath.OpenFlow.Control

namespace TcpPath.Udatapath

open Util

variable {Mt : Type}

namespace Switch

/-! ## 1. The reply -/

section Respuesta

variable (s : Switch Mt)

/-- The loop over the disabled tables. -/
def salta (t : Nat) : Nat :=
  if h : t < pipelineTables then if s.disabled ⟨t, h⟩ then salta (t + 1) else t else t
termination_by pipelineTables - t

/-- The tables that go into the next segment, and `table_id` behind them. -/
def segmento : Nat → Nat → List TableFeatures × Nat
  | 0, t => ([], t)
  | i + 1, t =>
    if h : s.salta t < pipelineTables then
      (s.features ⟨_, h⟩ :: (segmento i (s.salta t + 1)).1, (segmento i (s.salta t + 1)).2)
    else ([], s.salta t)

/-- The features of the enabled tables from the `t`-th on. -/
def habilitadas (t : Nat) : List TableFeatures :=
  (((List.finRange pipelineTables).drop t).filter fun u => !s.disabled u).map s.features

theorem habilitadas_of_lt {t : Nat} (h : t < pipelineTables) : s.habilitadas t =
    if s.disabled ⟨t, h⟩ then s.habilitadas (t + 1)
    else s.features ⟨t, h⟩ :: s.habilitadas (t + 1) := by
  have hdrop : (List.finRange pipelineTables).drop t =
      ⟨t, h⟩ :: (List.finRange pipelineTables).drop (t + 1) := by
    rw [List.drop_eq_getElem_cons (by rwa [List.length_finRange])]
    simp
  unfold habilitadas
  rw [hdrop, List.filter_cons]
  cases s.disabled ⟨t, h⟩ <;> rfl

theorem habilitadas_of_ge {t : Nat} (h : pipelineTables ≤ t) : s.habilitadas t = [] := by
  unfold habilitadas
  rw [List.drop_eq_nil_of_le (by rwa [List.length_finRange])]
  rfl

theorem salta_spec (t : Nat) (ht : t ≤ pipelineTables) :
    t ≤ s.salta t ∧ s.salta t ≤ pipelineTables ∧ s.habilitadas (s.salta t) = s.habilitadas t ∧
      ∀ h : s.salta t < pipelineTables, s.disabled ⟨_, h⟩ = false := by
  fun_induction salta s t with
  | case1 t h hd ih =>
    obtain ⟨h1, h2, h3, h4⟩ := ih h
    exact ⟨by omega, h2, by rw [h3, s.habilitadas_of_lt h, if_pos hd], h4⟩
  | case2 t h hd => exact ⟨le_rfl, ht, rfl, fun _ => Bool.not_eq_true _ ▸ hd⟩
  | case3 t h => exact ⟨le_rfl, ht, rfl, fun h' => absurd h' h⟩

/-- **A segment** has the next enabled tables: as many as it may have, or all that are left. -/
theorem segmento_spec (i t : Nat) (ht : t ≤ pipelineTables) :
    (s.segmento i t).1 ++ s.habilitadas (s.segmento i t).2 = s.habilitadas t ∧
      t ≤ (s.segmento i t).2 ∧ (s.segmento i t).2 ≤ pipelineTables ∧
      ((s.segmento i t).1.length = i ∧ t + i ≤ (s.segmento i t).2 ∨
        (s.segmento i t).1.length ≤ i ∧ (s.segmento i t).2 = pipelineTables) := by
  induction i generalizing t with
  | zero => exact ⟨rfl, le_rfl, ht, .inl ⟨rfl, le_rfl⟩⟩
  | succ i ih =>
    obtain ⟨h1, h2, h3, h4⟩ := s.salta_spec t ht
    unfold segmento
    split
    · rename_i h
      obtain ⟨ih1, ih2, ih3, ih4⟩ := ih (s.salta t + 1) h
      refine ⟨?_, by dsimp only; omega, ih3, ?_⟩
      · rw [List.cons_append, ih1, ← h3, s.habilitadas_of_lt h, h4 h]
        rfl
      · dsimp only [List.length_cons]
        omega
    · exact ⟨h3, h1, h2, .inr ⟨Nat.zero_le _, by dsimp only; omega⟩⟩

theorem lt_segmento (t : Nat) (h : (s.segmento 8 t).2 < pipelineTables) :
    t < (s.segmento 8 t).2 := by
  by_cases ht : t ≤ pipelineTables
  · obtain ⟨-, -, -, h4⟩ := s.segmento_spec 8 t ht
    omega
  · have hsalta : s.salta t = t := by
      rw [salta, dif_neg (by omega)]
    rw [segmento, hsalta, dif_neg (by omega)] at h
    dsimp only at h
    omega

/-- The segments of the reply from `table_id` on: `OFPMPF_REPLY_MORE`, and the tables. -/
def respuestaFeatures (t : Nat) : List (Bool × List TableFeatures) :=
  ((s.segmento 8 t).2 != pipelineTables, (s.segmento 8 t).1) ::
    if _h : (s.segmento 8 t).2 < pipelineTables then respuestaFeatures (s.segmento 8 t).2 else []
termination_by pipelineTables - t
decreasing_by
  have := s.lt_segmento t _h
  omega

theorem respuestaFeatures_spec (t : Nat) (ht : t ≤ pipelineTables) :
    (s.respuestaFeatures t).flatMap (·.2) = s.habilitadas t ∧
      ∃ (llenos : List (List TableFeatures)) (ultimo : List TableFeatures),
        s.respuestaFeatures t = llenos.map (true, ·) ++ [(false, ultimo)] ∧
        (∀ x ∈ llenos, x.length = 8) ∧ ultimo.length ≤ 8 := by
  induction hk : pipelineTables - t using Nat.strong_induction_on generalizing t with
  | _ k ih =>
    obtain ⟨h1, h2, h3, h4⟩ := s.segmento_spec 8 t ht
    rw [respuestaFeatures]
    by_cases h : (s.segmento 8 t).2 < pipelineTables
    · obtain ⟨ih1, llenos, ultimo, ih2, ih3, ih4⟩ :=
        ih _ (by omega) (s.segmento 8 t).2 h3 rfl
      have hmas : ((s.segmento 8 t).2 != pipelineTables) = true := bne_iff_ne.mpr (by omega)
      rw [dif_pos h, hmas]
      refine ⟨by rw [List.flatMap_cons, ih1, h1], (s.segmento 8 t).1 :: llenos, ultimo, ?_, ?_, ih4⟩
      · rw [ih2]
        rfl
      · rw [List.forall_mem_cons]
        exact ⟨by omega, ih3⟩
    · have hfin : (s.segmento 8 t).2 = pipelineTables := by omega
      have hmas : ((s.segmento 8 t).2 != pipelineTables) = false := bne_eq_false_iff_eq.mpr hfin
      rw [dif_neg h, hmas]
      refine ⟨?_, [], (s.segmento 8 t).1, rfl, by simp, by omega⟩
      rw [← h1, hfin, s.habilitadas_of_ge le_rfl]
      simp

end Respuesta

/-! ## 2. A request in parts -/

/-- Parts of a request that others follow. -/
def partes (s : Switch Mt) (a : Recibo) : List Cuerpo → Switch Mt
  | [] => s
  | b :: bs =>
    match s.remotes a.remote with
    | none => s
    | some rem => (s.pipelineHandleTableFeaturesRequest a rem true b).1.partes a bs

/-- The last part has been merged into what came before, and has tables: the copies have the
    properties and the names of the originals, not their own. -/
def fundida (rem : Remote) (a : Recibo) (ultima : Cuerpo) : Bool :=
  rem.mpReqMsg.isSome && a.xid == rem.mpReqXid &&
    !((ultima.getD []).any fun f => pipelineTables ≤ f.tableId) && !(ultima.getD []).isEmpty

/-- The parts of a request and the last one, from controller `a.remote`, as `remote_rconn_run` takes
    them: a message with an error is freed. `none` is what is freed twice then, as the merged
    request has been freed already. -/
def pideFeatures (s : Switch Mt) (a : Recibo) (bs : List Cuerpo) (ultima : Cuerpo) :
    Option (Switch Mt × Option OflErr) := do
  let rem ← (s.partes a bs).remotes a.remote
  let r := (s.partes a bs).pipelineHandleTableFeaturesRequest a rem false ultima
  if r.2.isSome && fundida rem a ultima then none else some r

/-- The tables `l` of a request have come. -/
structure Pendiente (s : Switch Mt) (a : Recibo) (l : List TableFeatures) (rem : Remote) :
    Prop where
  remote : s.remotes a.remote = some rem
  nada : rem.mpReqMsg = none → l = []
  algo : ∀ orig, rem.mpReqMsg = some orig → orig.getD [] = l ∧ rem.mpReqXid = a.xid

section Partes

variable {s : Switch Mt} {a : Recibo} {l : List TableFeatures} {rem : Remote}

theorem getD_mergeTableFeatures (orig b : Cuerpo) :
    (mergeTableFeatures orig b).getD [] = orig.getD [] ++ b.getD [] := by
  unfold mergeTableFeatures
  split
  · rename_i h
    rw [h, List.append_nil]
  · rfl

theorem any_tableId_eq_false (h : ∀ f ∈ l, f.tableId < pipelineTables) :
    (l.any fun f => pipelineTables ≤ f.tableId) = false := by
  refine List.any_eq_false.mpr fun f hf => ?_
  rw [decide_eq_true_iff]
  exact Nat.not_le.mpr (h f hf)

theorem Pendiente.parte (h : s.Pendiente a l rem) {b : Cuerpo}
    (hb : ∀ f ∈ b.getD [], f.tableId < pipelineTables) :
    ∃ rem', rem'.mpReqMsg.isSome = true ∧
      (s.pipelineHandleTableFeaturesRequest a rem true b).1.Pendiente a (l ++ b.getD []) rem' ∧
      (s.pipelineHandleTableFeaturesRequest a rem true b).1.features = s.features ∧
      (s.pipelineHandleTableFeaturesRequest a rem true b).1.disabled = s.disabled := by
  unfold pipelineHandleTableFeaturesRequest
  rw [any_tableId_eq_false hb, if_neg Bool.false_ne_true]
  cases hmp : rem.mpReqMsg with
  | none =>
    refine ⟨{ rem with mpReqMsg := some (mergeTableFeatures none b), mpReqXid := a.xid },
      rfl, ⟨Function.update_self .., fun hno => ?_, fun orig horig => ?_⟩, rfl, rfl⟩
    · cases hno
    · cases horig
      rw [getD_mergeTableFeatures, h.nada hmp]
      exact ⟨rfl, rfl⟩
  | some orig =>
    obtain ⟨hl, hxid⟩ := h.algo orig hmp
    dsimp only
    rw [if_neg (not_not_intro hxid.symm), if_pos rfl]
    refine ⟨{ rem with mpReqMsg := some (mergeTableFeatures orig b) },
      rfl, ⟨Function.update_self .., fun hno => ?_, fun orig' horig => ?_⟩, rfl, rfl⟩
    · cases hno
    · cases horig
      rw [getD_mergeTableFeatures, hl]
      exact ⟨rfl, hxid⟩

theorem Pendiente.partes (h : s.Pendiente a l rem) {bs : List Cuerpo}
    (hbs : ∀ f ∈ bs.flatMap (·.getD []), f.tableId < pipelineTables) :
    ∃ rem', rem'.mpReqMsg.isSome = (rem.mpReqMsg.isSome || !bs.isEmpty) ∧
      (s.partes a bs).Pendiente a (l ++ bs.flatMap (·.getD [])) rem' ∧
      (s.partes a bs).features = s.features ∧ (s.partes a bs).disabled = s.disabled := by
  induction bs generalizing s l rem with
  | nil => exact ⟨rem, (Bool.or_false _).symm, by rwa [List.flatMap_nil, List.append_nil], rfl, rfl⟩
  | cons b bs ih =>
    rw [List.flatMap_cons] at hbs ⊢
    obtain ⟨rem₁, hsome, h₁, hf₁, hd₁⟩ := h.parte fun f hf => hbs f (List.mem_append_left _ hf)
    obtain ⟨rem', hmp, h', hf, hd⟩ := ih h₁ fun f hf => hbs f (List.mem_append_right _ hf)
    rw [Switch.partes, h.remote, ← List.append_assoc]
    refine ⟨rem', ?_, h', hf.trans hf₁, hd.trans hd₁⟩
    rw [hmp, hsome, Bool.true_or]
    exact (Bool.or_true _).symm

/-- The last part: all tables that have come are put in place. -/
theorem Pendiente.ultima (h : s.Pendiente a l rem) {b : Cuerpo}
    (hb : ∀ f ∈ b.getD [], f.tableId < pipelineTables) (hne : l ++ b.getD [] ≠ []) :
    (s.pipelineHandleTableFeaturesRequest a rem false b).2 =
        (s.aplicaTableFeatures (some (l ++ b.getD []))).2 ∧
      (s.pipelineHandleTableFeaturesRequest a rem false b).1.features =
        (s.aplicaTableFeatures (some (l ++ b.getD []))).1.features ∧
      (s.pipelineHandleTableFeaturesRequest a rem false b).1.disabled =
        (s.aplicaTableFeatures (some (l ++ b.getD []))).1.disabled := by
  have hsome : ∀ o : Cuerpo, o.getD [] = l ++ b.getD [] → o = some (l ++ b.getD []) := by
    intro o ho
    cases o with
    | none => exact absurd ho.symm hne
    | some l' => exact congrArg some ho
  unfold pipelineHandleTableFeaturesRequest
  rw [any_tableId_eq_false hb, if_neg Bool.false_ne_true]
  cases hmp : rem.mpReqMsg with
  | none =>
    have hb' : s.aplicaTableFeatures b = s.aplicaTableFeatures (some (l ++ b.getD [])) :=
      congrArg _ (hsome b (by rw [h.nada hmp, List.nil_append]))
    dsimp only
    rw [if_neg Bool.false_ne_true, hb']
    exact ⟨rfl, rfl, rfl⟩
  | some orig =>
    obtain ⟨hl, hxid⟩ := h.algo orig hmp
    dsimp only
    rw [if_neg (not_not_intro hxid.symm), if_neg Bool.false_ne_true,
      hsome (mergeTableFeatures orig b) (by rw [getD_mergeTableFeatures, hl])]
    exact ⟨rfl, rfl, rfl⟩

end Partes

/-- What a request that is carried out leaves to be answered. -/
theorem habilitadas_aplica {s' : Switch Mt} {l : List TableFeatures}
    (hnd : (l.map (·.tableId)).Nodup)
    (hf : ∀ t f, l.reverse.find? (·.tableId == t.val) = some f → s'.features t = f)
    (hd : ∀ t, s'.disabled t = !l.any (·.tableId == t.val)) :
    s'.habilitadas 0 =
      (List.finRange pipelineTables).filterMap fun t => l.find? (·.tableId == t.val) := by
  unfold habilitadas
  rw [List.drop_zero]
  induction List.finRange pipelineTables with
  | nil => rfl
  | cons t ts ih =>
    rw [List.filter_cons, List.filterMap_cons, hd t, Bool.not_not]
    cases hfind : l.find? (·.tableId == t.val) with
    | none =>
      have hany : (l.any (·.tableId == t.val)) = false :=
        List.any_eq_false.mpr (List.find?_eq_none.mp hfind)
      rw [hany]
      exact ih
    | some f =>
      have hmem := List.mem_of_find?_eq_some hfind
      have hft : f.tableId = t.val := by simpa using List.find?_some hfind
      have hany : (l.any (·.tableId == t.val)) = true :=
        List.any_eq_true.mpr ⟨f, hmem, beq_iff_eq.mpr hft⟩
      -- no other element has the number of `f`, so the search from the end finds it too
      have hrev : l.reverse.find? (·.tableId == t.val) = some f := by
        have hnd' : (l.reverse.map (·.tableId)).Nodup := by
          rw [List.map_reverse]
          exact List.nodup_reverse.mpr hnd
        exact find?_of_key hnd' (List.mem_reverse.mpr hmem) fun y => by rw [beq_iff_eq, hft]
      rw [hany, if_pos rfl, List.map_cons, ih, hf t f hrev]

end Switch

/-! ## 3. Requests and replies -/

/-- **The reply to a table-features request**, whatever tables are enabled: their features in the
    order of their numbers, in segments of 8 tables that announce more and a last one, with at most
    8 and possibly none, that does not. -/
theorem table_features_reply (s : Switch Mt) :
    (s.respuestaFeatures 0).flatMap (·.2) =
        ((List.finRange pipelineTables).filter fun t => !s.disabled t).map s.features ∧
      ∃ (llenos : List (List TableFeatures)) (ultimo : List TableFeatures),
        s.respuestaFeatures 0 = llenos.map (true, ·) ++ [(false, ultimo)] ∧
        (∀ x ∈ llenos, x.length = 8) ∧ ultimo.length ≤ 8 :=
  s.respuestaFeatures_spec 0 (Nat.zero_le _)

/-- **Table-features requests**, in any number of parts, with different tables. If all are to have
    as many entries as there can be or fewer, then the reply has what was asked for and nothing
    else, in the order of the numbers of the tables, in whatever order they came. Otherwise there is
    an error, and features and enabled tables stay as they were; but if there are two parts or more
    and the last has a table, it is freed twice. -/
theorem table_features_request (s : Switch Mt) (a : Recibo) (rem : Remote)
    (hrem : s.remotes a.remote = some rem) (hmp : rem.mpReqMsg = none) (bs : List Cuerpo)
    (b : Cuerpo) {l : List TableFeatures} (hl : l = bs.flatMap (·.getD []) ++ b.getD [])
    (hne : l ≠ []) (hlt : ∀ f ∈ l, f.tableId < pipelineTables) (hnd : (l.map (·.tableId)).Nodup) :
    ((∀ f ∈ l, f.maxEntries ≤ flowTableMaxEntries) →
      ∃ s', s.pideFeatures a bs b = some (s', none) ∧ (s'.respuestaFeatures 0).flatMap (·.2) =
        (List.finRange pipelineTables).filterMap fun t => l.find? (·.tableId == t.val)) ∧
    ((∃ f ∈ l, flowTableMaxEntries < f.maxEntries) → bs = [] ∨ b.getD [] = [] →
      ∃ s' e, s.pideFeatures a bs b = some (s', some e) ∧
        s'.features = s.features ∧ s'.disabled = s.disabled) ∧
    ((∃ f ∈ l, flowTableMaxEntries < f.maxEntries) → bs ≠ [] → b.getD [] ≠ [] →
      s.pideFeatures a bs b = none) := by
  have h₀ : s.Pendiente a [] rem := ⟨hrem, fun _ => rfl, fun orig ho => by cases hmp.symm.trans ho⟩
  rw [hl] at hlt
  obtain ⟨rem', hpend, h', hf', hd'⟩ := h₀.partes fun f hf => hlt f (List.mem_append_left _ hf)
  have hb : ∀ f ∈ b.getD [], f.tableId < pipelineTables :=
    fun f hf => hlt f (List.mem_append_right _ hf)
  obtain ⟨he, hf, hd⟩ := h'.ultima hb (hl ▸ hne)
  rw [List.nil_append, ← hl] at he hf hd
  rw [hmp, Option.isSome_none, Bool.false_or] at hpend
  have hpide : s.pideFeatures a bs b =
      if ((s.partes a bs).pipelineHandleTableFeaturesRequest a rem' false b).2.isSome &&
          Switch.fundida rem' a b then none
      else some ((s.partes a bs).pipelineHandleTableFeaturesRequest a rem' false b) := by
    rw [Switch.pideFeatures, h'.remote]
    rfl
  have hfundida : Switch.fundida rem' a b = (!bs.isEmpty && !(b.getD []).isEmpty) := by
    rw [Switch.fundida, Switch.any_tableId_eq_false hb, hpend]
    cases hbs : bs.isEmpty with
    | true => rfl
    | false =>
      rw [hbs] at hpend
      obtain ⟨orig, horig⟩ := Option.isSome_iff_exists.mp hpend
      rw [(h'.algo orig horig).2, beq_self_eq_true]
      rfl
  -- a table that is too large is an error, and nothing is put in place
  have herror : (∃ f ∈ l, flowTableMaxEntries < f.maxEntries) →
      ∃ e, (s.partes a bs).pipelineHandleTableFeaturesRequest a rem' false b =
          (((s.partes a bs).pipelineHandleTableFeaturesRequest a rem' false b).1, some e) ∧
        ((s.partes a bs).pipelineHandleTableFeaturesRequest a rem' false b).1.features =
          s.features ∧
        ((s.partes a bs).pipelineHandleTableFeaturesRequest a rem' false b).1.disabled =
          s.disabled := by
    rintro ⟨f, hfl, hmax⟩
    have hany : (l.any fun f => flowTableMaxEntries < f.maxEntries) = true :=
      List.any_eq_true.mpr ⟨f, hfl, decide_eq_true hmax⟩
    rw [Switch.aplicaTableFeatures, if_pos hany] at he hf hd
    exact ⟨_, Prod.ext rfl he, hf.trans hf', hd.trans hd'⟩
  refine ⟨fun hmax => ?_, fun hgrande hlibre => ?_, fun hgrande hbs hbne => ?_⟩
  · have hany : ¬(l.any fun f => flowTableMaxEntries < f.maxEntries) = true := by
      rw [List.any_eq_true]
      rintro ⟨f, hfl, hlt⟩
      exact absurd (of_decide_eq_true hlt) (Nat.not_lt.mpr (hmax f hfl))
    rw [Switch.aplicaTableFeatures, if_neg hany] at he hf hd
    refine ⟨((s.partes a bs).pipelineHandleTableFeaturesRequest a rem' false b).1, ?_, ?_⟩
    · rw [hpide, he]
      exact congrArg some (Prod.ext rfl he)
    · rw [(Switch.respuestaFeatures_spec _ 0 (Nat.zero_le _)).1]
      refine Switch.habilitadas_aplica hnd (fun t f hfind => ?_) fun t => congrFun hd t
      rw [hf]
      show (List.find? _ _).getD _ = f
      rw [hfind]
      rfl
  · obtain ⟨e, heq, hfeat, hdis⟩ := herror hgrande
    have hno : (!bs.isEmpty && !(b.getD []).isEmpty) = false := by
      rcases hlibre with rfl | hnil
      · rfl
      · rw [hnil]
        exact Bool.and_false _
    refine ⟨_, e, ?_, hfeat, hdis⟩
    rw [hpide, hfundida, hno, Bool.and_false, if_neg Bool.false_ne_true]
    exact congrArg some heq
  · obtain ⟨e, heq, _⟩ := herror hgrande
    have hsi : (!bs.isEmpty && !(b.getD []).isEmpty) = true := by
      simp [hbs, hbne]
    rw [hpide, hfundida, hsi, heq]
    rfl

/-- Table 1 comes in the first part and table 0 in the last. -/
theorem table_features_request_dos : ∃ (s' : Switch Unit) (e : Option OflErr),
    (Switch.encendido.conRemote 0 remoteCreate).pideFeatures (.de 0 [])
      [some [⟨1, 3, 10, []⟩]] (some [⟨0, 3, 20, []⟩]) = some (s', e) ∧ e = none ∧
    (s'.respuestaFeatures 0).flatMap (·.2) = [⟨0, 3, 20, []⟩, ⟨1, 3, 10, []⟩] := by
  obtain ⟨hok, _⟩ := table_features_request
    ((Switch.encendido : Switch Unit).conRemote 0 remoteCreate) (.de 0 []) remoteCreate rfl rfl
    [some [⟨1, 3, 10, []⟩]] (some [⟨0, 3, 20, []⟩]) rfl (by decide) (by decide) (by decide)
  obtain ⟨s', hs, hf⟩ := hok (by decide)
  exact ⟨s', none, hs, rfl, hf.trans (by decide)⟩

end TcpPath.Udatapath
