/-
  Subject:   Action sets over whole sequences of writes and clears (action_set.c).

  Results:   `actionSetWriteAction_eq_put`: a write is an insertion;
             `action_set_is_map`: the last action of each type is left;
             `action_set_write_order`: when the order of the writes does not matter.
-/
import TcpPath.OpenFlow.GroupExecution
import TcpPath.OpenFlow.PushPop
import TcpPath.Util.RankedSet

namespace TcpPath.Udatapath

open Util

/-! ## 1. What tells actions apart -/

/-- The type, and the header of a set-field. -/
def Action.clave : Action → Nat × Option Nat
  | .setField header _ => (25, some header)
  | a => (a.type, none)

/-- `action_set_order`, from the type alone. -/
def ordenDeTipo : Nat → Nat
  | 0 => 90
  | 11 => 40
  | 12 => 10
  | 16 | 24 => 50
  | 17 | 19 | 26 => 30
  | 18 | 20 | 27 => 20
  | 21 => 70
  | 22 => 80
  | _ => 60

theorem actionSetOrder_eq (a : Action) : actionSetOrder a = ordenDeTipo a.clave.1 := by
  cases a <;> rfl

theorem actionSetOrder_of_clave (a b : Action) (h : a.clave = b.clave) :
    actionSetOrder a = actionSetOrder b := by
  rw [actionSetOrder_eq, actionSetOrder_eq, h]

theorem Action.clave_fst (a : Action) : a.clave.1 = a.type := by
  cases a <;> rfl

theorem Action.eq_setField_of_type {a : Action} (h : a.type = 25) :
    ∃ header value, a = .setField header value := by
  cases a <;> first | exact ⟨_, _, rfl⟩ | cases h

theorem Action.of_type_ne {a : Action} (h : a.type ≠ 25) :
    a.clave = (a.type, none) ∧ ∀ b, a.otroCampo b = false := by
  cases a <;> first | exact ⟨rfl, fun _ => rfl⟩ | exact absurd rfl h

theorem Action.clave_eq_iff (a b : Action) :
    a.clave = b.clave ↔ a.type = b.type ∧ a.otroCampo b = false := by
  by_cases ha : a.type = 25
  · by_cases hb : b.type = 25
    · obtain ⟨header, value, rfl⟩ := eq_setField_of_type ha
      obtain ⟨header', value', rfl⟩ := eq_setField_of_type hb
      simp [clave, type, otroCampo]
    · refine ⟨fun h => absurd ?_ hb, fun h => absurd (h.1.symm.trans ha) hb⟩
      rw [← b.clave_fst, ← h, a.clave_fst, ha]
  · obtain ⟨hclave, hotro⟩ := of_type_ne ha
    refine ⟨fun h => ⟨?_, hotro b⟩, fun ⟨h, _⟩ => ?_⟩
    · rw [← a.clave_fst, h, b.clave_fst]
    · rw [hclave, h, (of_type_ne (h ▸ ha)).1]

/-- **One write.** A set-field of another header is passed over without a look at its order, which
    is the same. -/
theorem actionSetWriteAction_eq_put (set : List Action) (act : Action) :
    actionSetWriteAction set act = put Action.clave actionSetOrder set act := by
  induction set with
  | nil => rfl
  | cons entry set ih =>
    rw [actionSetWriteAction, put, ih]
    by_cases htype : entry.type = act.type
    · have horden : ¬actionSetOrder act < actionSetOrder entry := by
        rw [actionSetOrder_eq, actionSetOrder_eq, Action.clave_fst, Action.clave_fst, htype]
        exact Nat.lt_irrefl _
      rw [if_pos htype, if_neg horden]
      cases hotro : entry.otroCampo act with
      | true =>
        have hclave : ¬entry.clave = act.clave := by
          rw [Action.clave_eq_iff, hotro]
          rintro ⟨_, h⟩
          cases h
        rw [if_pos rfl, if_neg hclave]
      | false =>
        rw [if_neg Bool.false_ne_true, if_pos ((Action.clave_eq_iff ..).mpr ⟨htype, hotro⟩)]
    · rw [if_neg htype, if_neg fun h => htype ((Action.clave_eq_iff ..).mp h).1]

/-! ## 2. Writes and clears -/

/-- What is done to an action set. -/
inductive CambioSet where
  | write (actions : List Action)
  | clear

/-- `action_set_write_actions` or `action_set_clear_actions`. -/
def CambioSet.aplica (set : List Action) : CambioSet → List Action
  | .write actions => actionSetWriteActions set actions
  | .clear => []

/-- The actions written since the last clear, in their order. -/
def CambioSet.escritas (antes : List Action) : CambioSet → List Action
  | .write actions => antes ++ actions
  | .clear => []

theorem actionSetWriteActions_eq_puts (set actions : List Action) :
    actionSetWriteActions set actions =
      actions.foldl (put Action.clave actionSetOrder) set := by
  unfold actionSetWriteActions
  congr 1
  funext set act
  exact actionSetWriteAction_eq_put set act

theorem foldl_cambioSet (cambios : List CambioSet) :
    cambios.foldl CambioSet.aplica [] =
      (cambios.foldl CambioSet.escritas []).foldl (put Action.clave actionSetOrder) [] := by
  induction cambios using List.reverseRecOn with
  | nil => rfl
  | append_singleton cambios c ih =>
    rw [List.foldl_append, List.foldl_append]
    cases c with
    | write actions =>
      show actionSetWriteActions _ actions = List.foldl _ _ (_ ++ actions)
      rw [actionSetWriteActions_eq_puts, ih, List.foldl_append]
    | clear => rfl

/-- **An action set is a map**: in the order of `action_set_order`, with one action of a type (and
header, for set-fields), the one written last since the last clear. -/
theorem action_set_is_map (cambios : List CambioSet) :
    let set := cambios.foldl CambioSet.aplica []
    let escritas := cambios.foldl CambioSet.escritas []
    set.Pairwise (fun a b => actionSetOrder a ≤ actionSetOrder b) ∧
      (set.map Action.clave).Nodup ∧
      ∀ a, a ∈ set ↔ ∃ antes despues, escritas = antes ++ a :: despues ∧
        ∀ b ∈ despues, b.clave ≠ a.clave := by
  intro set escritas
  obtain ⟨hranked, hmem⟩ := puts_spec actionSetOrder_of_clave escritas
  rw [← foldl_cambioSet] at hranked hmem
  exact ⟨hranked.sorted, hranked.nodup, hmem⟩

/-! ## 3. The order of the writes -/

section Orden

variable {W P : Type}

theorem dpExecuteAction_conSet (x : Ejecutor W P) (pkt : Paquete P) (set : List Action)
    (a : Action) :
    dpExecuteAction x { pkt with actionSet := set } a =
      (dpExecuteAction x pkt a).map ({ · with actionSet := set }) := by
  cases a <;> first | rfl | (simp only [dpExecuteAction]; cases x.aplica _ pkt.datos <;> rfl)

theorem foldlM_dpExecuteAction_conSet (x : Ejecutor W P) (pkt : Paquete P)
    (set actions : List Action) :
    actions.foldlM (dpExecuteAction x) { pkt with actionSet := set } =
      (actions.foldlM (dpExecuteAction x) pkt).map ({ · with actionSet := set }) := by
  induction actions generalizing pkt with
  | nil => rfl
  | cons a actions ih =>
    rw [List.foldlM_cons, List.foldlM_cons, dpExecuteAction_conSet]
    cases dpExecuteAction x pkt a with
    | error e => rfl
    | ok pkt' => exact ih pkt'

/-- **The order of the writes into an empty set.** The sets are the same iff the actions of each
value of `action_set_order` were written in the same order; and they do the same to packets where
such actions commute. -/
theorem action_set_write_order (x : Ejecutor W P)
    (grupo : Mundo W → Paquete P → Nat → Except Paro (Mundo W)) {ws ws' : List Action}
    (hperm : ws.Perm ws') (hclave : (ws.map Action.clave).Nodup) :
    let set := actionSetWriteActions [] ws
    let set' := actionSetWriteActions [] ws'
    set.map actionSetOrder = set'.map actionSetOrder ∧
      (set = set' ↔
        ∀ o, ws.filter (actionSetOrder · = o) = ws'.filter (actionSetOrder · = o)) ∧
      ((∀ a ∈ ws, ∀ b ∈ ws, actionSetOrder a = actionSetOrder b → ∀ pkt,
          (dpExecuteAction x pkt a >>= (dpExecuteAction x · b)) =
            (dpExecuteAction x pkt b >>= (dpExecuteAction x · a))) →
        ∀ (w : Mundo W) (pkt : Paquete P) (cookie : UInt64),
          actionSetExecute x grupo w { pkt with actionSet := set } cookie =
            actionSetExecute x grupo w { pkt with actionSet := set' } cookie) := by
  intro set set'
  have hclave' : (ws'.map Action.clave).Nodup := (hperm.map _).nodup hclave
  have hset : set = ws.foldl (put Action.clave actionSetOrder) [] :=
    actionSetWriteActions_eq_puts [] ws
  have hset' : set' = ws'.foldl (put Action.clave actionSetOrder) [] :=
    actionSetWriteActions_eq_puts [] ws'
  have hws : set.Perm ws := by
    rw [hset]
    exact puts_perm actionSetOrder_of_clave hclave
  have hws' : set'.Perm ws' := by
    rw [hset']
    exact puts_perm actionSetOrder_of_clave hclave'
  have hsets : set.Perm set' := (hws.trans hperm).trans hws'.symm
  obtain ⟨⟨hsorted, _⟩, _⟩ := puts_spec actionSetOrder_of_clave ws
  obtain ⟨⟨hsorted', _⟩, _⟩ := puts_spec actionSetOrder_of_clave ws'
  rw [← hset] at hsorted
  rw [← hset'] at hsorted'
  refine ⟨?_, ?_, fun hcomm w pkt cookie => ?_⟩
  · refine List.Perm.eq_of_pairwise (fun _ _ _ _ => Nat.le_antisymm) ?_ ?_ (hsets.map _)
    · exact List.pairwise_map.mpr hsorted
    · exact List.pairwise_map.mpr hsorted'
  · rw [hset, hset']
    exact puts_eq_iff actionSetOrder_of_clave hclave hclave'
  · have hfold := foldlM_eq_of_perm hsorted hsorted' hsets
      (fun a ha b hb => hcomm a (hws.mem_iff.mp ha) b (hws.mem_iff.mp hb)) pkt
    -- the packets that are executed differ in their sets only, which are then cleared
    unfold actionSetExecute
    rw [foldlM_dpExecuteAction_conSet x pkt set, foldlM_dpExecuteAction_conSet x pkt set', hfold]
    cases set'.foldlM (dpExecuteAction x) pkt <;> rfl

/-- The actions that push and pop headers, for packets that are their buffers. What leaves a port is
    kept, with the number of the port. -/
def Ejecutor.deEtiquetas (host : Host) (parse : Bytes → Posiciones) (r : Realloc) :
    Ejecutor (List (Nat × Bytes)) OfpBuf where
  type := fun _ => 0
  weight := fun _ _ => 0
  watchPort := fun _ _ => ofpAny
  puertoVivo := fun _ _ => none
  size := fun b => b.data.length.toUInt64
  clona := id
  aplica
    | .pushVlan ethertype => pushVlan parse (htons ethertype) r
    | .popVlan => popVlan parse
    | .pushMpls ethertype => pushMpls parse (htons ethertype) r
    | .popMpls ethertype => popMpls parse (htons ethertype)
    | .pushPbb ethertype => pushPbb host parse (htons ethertype) r
    | .popPbb => popPbb parse
    | _ => some
  destruye := fun _ w => w
  salida := fun port _ _ _ b w => (b, { w with resto := w.resto ++ [(port, b.data)] })

/-- What leaves the switch when the frame in `b` gets an action set by the writes `ws` and the set
    is executed. -/
def saleTras (ws : List Action) (b : OfpBuf) : Option (List (Nat × Bytes)) :=
  (actionSetExecute (Ejecutor.deEtiquetas .little analiza ⟨false, fun _ => 0⟩) (fun w _ _ => .ok w)
    ⟨fun _ => ⟨⟨0, 0⟩, fun _ => ⟨0, 0⟩, ⟨0, 0, 0, 0⟩⟩, []⟩
    ⟨b, actionSetWriteActions [] ws, ofpAny, ofpAny, 0, 0⟩ 0).toOption.map (·.resto)

/-- An output that is written first is executed last. -/
theorem action_set_write_order_salida :
    saleTras [.output 1 0, .pushVlan 0x8100] ⟨[0, 0, 0, 0], tramaVlan, []⟩ =
      saleTras [.pushVlan 0x8100, .output 1 0] ⟨[0, 0, 0, 0], tramaVlan, []⟩ := by
  have hcomm : ∀ a ∈ [Action.output 1 0, .pushVlan 0x8100],
      ∀ b ∈ [Action.output 1 0, .pushVlan 0x8100], actionSetOrder a = actionSetOrder b → a = b := by
    decide
  have hsame := (action_set_write_order (Ejecutor.deEtiquetas .little analiza ⟨false, fun _ => 0⟩)
    (fun w _ _ => .ok w) (List.Perm.swap (Action.pushVlan 0x8100) (.output 1 0) []) (by decide)).2.2
    (fun a ha b hb hab pkt => by rw [hcomm a ha b hb hab])
  rw [saleTras, saleTras]
  exact congrArg (·.toOption.map (·.resto)) (hsame _ ⟨_, [], ofpAny, ofpAny, 0, 0⟩ 0)

/-- The push actions have one value: the PBB header is in front of the new VLAN header, or behind
    it. -/
theorem action_set_write_order_fails :
    [Action.pushVlan 0x8100, .pushPbb 0x88e7, .output 1 0].Perm
        [.pushPbb 0x88e7, .pushVlan 0x8100, .output 1 0] ∧
      ([Action.pushVlan 0x8100, .pushPbb 0x88e7, .output 1 0].map Action.clave).Nodup ∧
      saleTras [.pushVlan 0x8100, .pushPbb 0x88e7, .output 1 0]
          ⟨List.replicate 22 0, [1, 1, 1, 1, 1, 1, 2, 2, 2, 2, 2, 2, 0x08, 0x06, 7], []⟩ =
        some [(1, [1, 1, 1, 1, 1, 1, 2, 2, 2, 2, 2, 2, 0x88, 0xe7, 0, 0, 0, 0,
          1, 1, 1, 1, 1, 1, 2, 2, 2, 2, 2, 2, 0x81, 0x00, 0, 0, 0x08, 0x06, 7])] ∧
      saleTras [.pushPbb 0x88e7, .pushVlan 0x8100, .output 1 0]
          ⟨List.replicate 22 0, [1, 1, 1, 1, 1, 1, 2, 2, 2, 2, 2, 2, 0x08, 0x06, 7], []⟩ =
        some [(1, [1, 1, 1, 1, 1, 1, 2, 2, 2, 2, 2, 2, 0x81, 0x00, 0, 0, 0x88, 0xe7, 0, 0, 0, 0,
          1, 1, 1, 1, 1, 1, 2, 2, 2, 2, 2, 2, 0x08, 0x06, 7])] :=
  ⟨List.Perm.swap _ _ _, by decide, by decide, by decide⟩

end Orden

end TcpPath.Udatapath
