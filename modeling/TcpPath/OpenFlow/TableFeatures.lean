/-
  Subject:   Table features on the wire: `ofl_structs_table_features_pack` and
             `ofl_structs_table_features_unpack` with the properties and their lists of ids.

  * An instruction id takes `sizeof(struct ofp_instruction) - 4` bytes, which are none: the ids are
    neither written nor counted.
  * The id of an action is its type and its length, and the length is what the reader goes on by.
    That of an experimenter is copied as it lies in memory.

  Results:   `table_features_round_trip`: which table features come back.
-/
import TcpPath.OpenFlow.Control
import TcpPath.OpenFlow.Pack

namespace TcpPath.Udatapath

open Util.BigEndian List

/-! ## 1. Properties -/

/-- The id of an action, a `struct ofl_action_header`. -/
structure ActionId where
  type : Nat
  len : Nat
  deriving DecidableEq, Repr

/-- The properties with lists of actions. -/
inductive ActionsProp where
  | writeActions | writeActionsMiss | applyActions | applyActionsMiss
  deriving DecidableEq, Repr

/-- The properties with lists of OXM headers. -/
inductive OxmProp where
  | mtch | wildcards | writeSetfield | writeSetfieldMiss | applySetfield | applySetfieldMiss
  deriving DecidableEq, Repr

/-- `struct ofl_table_feature_prop_header` and what follows it. -/
inductive TableFeatureProp where
  | instructions (miss : Bool) (length : Nat) (instructionIds : List Nat)
  | nextTables (miss : Bool) (length : Nat) (nextTableIds : Bytes)
  | actions (prop : ActionsProp) (length : Nat) (actionIds : List ActionId)
  | oxm (prop : OxmProp) (length : Nat) (oxmIds : List Nat)
  deriving DecidableEq, Repr

/-- `OFPIT_EXPERIMENTER` and `OFPAT_EXPERIMENTER`. -/
def experimenter : Nat := 0xffff

/-- `sizeof(struct ofp_instruction)`. -/
def sizeofInstruction : Nat := 4

def ActionsProp.type : ActionsProp → Nat
  | .writeActions => 4
  | .writeActionsMiss => 5
  | .applyActions => 6
  | .applyActionsMiss => 7

def OxmProp.type : OxmProp → Nat
  | .mtch => 8
  | .wildcards => 10
  | .writeSetfield => 12
  | .writeSetfieldMiss => 13
  | .applySetfield => 14
  | .applySetfieldMiss => 15

namespace ActionId

def ofpLen (a : ActionId) : Nat := if a.type = experimenter then 8 else 4

/-- What is written of an action id. The copy of an experimenter takes the two bytes behind the
    length that the compiler leaves free (`hueco`). -/
def pack (host : Host) (hueco : UInt8 × UInt8) (a : ActionId) : Bytes :=
  if a.type = experimenter then
    host.ntoh (write 4 a.type) ++ host.ntoh (write 2 a.len) ++ [hueco.1, hueco.2]
  else fields [(2, a.type), (2, a.len)]

end ActionId

namespace TableFeatureProp

/-- `enum ofp_table_feature_prop_type`. -/
def type : TableFeatureProp → Nat
  | .instructions miss _ _ => if miss then 1 else 0
  | .nextTables miss _ _ => if miss then 3 else 2
  | .actions prop _ _ => prop.type
  | .oxm prop _ _ => prop.type

def length : TableFeatureProp → Nat
  | .instructions _ length _ => length
  | .nextTables _ length _ => length
  | .actions _ length _ => length
  | .oxm _ length _ => length

/-- `ofl_structs_table_features_properties_ofp_len`. For an experimenter instruction it is the error
    that would be returned, since `dp_exp.inst` is NULL. -/
def ofpLen : TableFeatureProp → Nat
  | .instructions _ _ ids =>
      if experimenter ∈ ids then 0x80030001 else 4 + ids.length * (sizeofInstruction - 4)
  | .nextTables _ _ ids => 4 + ids.length
  | .actions _ _ ids => 4 + (ids.map ActionId.ofpLen).sum
  | .oxm _ _ ids => 4 + ids.length * 4

/-- The ids as they are written; `none` where the error for an experimenter instruction is returned
    in place of a length. -/
def idsPack (host : Host) (hueco : UInt8 × UInt8) : TableFeatureProp → Option Bytes
  | .instructions _ _ ids =>
      if experimenter ∈ ids then none
      else some (ids.flatMap fun type =>
        (fields [(2, type), (2, sizeofInstruction - 4)]).take (sizeofInstruction - 4))
  | .nextTables _ _ ids => some ids
  | .actions _ _ ids => some (ids.flatMap (ActionId.pack host hueco))
  | .oxm _ _ ids => some (fields (ids.map (4, ·)))

/-- `ofl_structs_table_properties_pack`. What it returns is the length rounded up to words: that of
    the bytes written, where the length of the property is `ofpLen`. -/
def pack (host : Host) (hueco : UInt8 × UInt8) (p : TableFeatureProp) : Option Bytes :=
  (p.idsPack host hueco).map fun ids =>
    fields [(2, p.type), (2, p.length)] ++ ids ++ List.replicate (roundUp8 p.length - p.length) 0

end TableFeatureProp

section Unpack

open Lectura

/-- `n` bytes at `k`. -/
def trozo (d : Bytes) (k n : Nat) : Lectura Bytes :=
  ExceptT.mk <| if k + n ≤ d.length then some (.ok ((d.drop k).take n)) else none

/-- The loop over the instruction ids. -/
def instructionIdsLoop : Nat → Bytes → Lectura (List Nat)
  | 0, _ => pure []
  | n + 1, d => do
      let type ← campo d 0 2
      let len ← campo d 2 2
      let ids ← instructionIdsLoop n (d.drop len)
      pure (type :: ids)

/-- The loop over the action ids. -/
def actionIdsLoop (mem : Memoria) : Nat → Nat → List ActionId
  | 0, _ => []
  | n + 1, d =>
      ⟨leer mem d 2, leer mem (d + 2) 2⟩ :: actionIdsLoop mem n (d + leer mem (d + 2) 2)

/-- The count and the ids of actions in `b`; the count looks at no byte behind them. -/
def actionIdsUnpack (b : Bytes) : Except OflErr (List ActionId) :=
  (countActions (memoriaDe (fun _ _ => 0) b) 0 b.length).map fun n =>
    actionIdsLoop (memoriaDe (fun _ _ => 0) b) n 0

/-- The OXM headers in `b`. -/
def oxmIdsUnpack (b : Bytes) : List Nat :=
  (List.range (b.length / 4)).map fun i => leer (memoriaDe (fun _ _ => 0) b) (4 * i) 4

/-- The cases of the `switch` of `ofl_structs_table_properties_unpack`. -/
def instructionsPropUnpack (miss : Bool) (d : Bytes) (plen : Nat) : Lectura TableFeatureProp := do
  exige (4 ≤ plen) (tableFeaturesFailed 3)
  let n ← countInstructions ((d.drop 4).length + 1) (d.drop 4) (plen - 4)
  let ids ← instructionIdsLoop n (d.drop 4)
  pure (.instructions miss plen ids)

def nextTablesPropUnpack (miss : Bool) (d : Bytes) (plen : Nat) : Lectura TableFeatureProp := do
  exige (4 ≤ plen) (tableFeaturesFailed 3)
  let b ← trozo d 4 (plen - 4)
  pure (.nextTables miss plen b)

def actionsPropUnpack (prop : ActionsProp) (d : Bytes) (plen : Nat) :
    Lectura TableFeatureProp := do
  exige (4 ≤ plen) (tableFeaturesFailed 3)
  let b ← trozo d 4 (plen - 4)
  let ids ← liftM (actionIdsUnpack b)
  pure (.actions prop plen ids)

def oxmPropUnpack (prop : OxmProp) (d : Bytes) (plen : Nat) : Lectura TableFeatureProp := do
  exige (4 ≤ plen) (tableFeaturesFailed 3)
  let b ← trozo d 4 (plen - 4)
  pure (.oxm prop plen (oxmIdsUnpack b))

/-- `ofl_structs_table_properties_unpack` at the start of `d`: the property, and the bytes left. -/
def propertiesUnpack (d : Bytes) (len : Nat) : Lectura (TableFeatureProp × Nat) := do
  exige (4 ≤ len) (tableFeaturesFailed 3)
  let plen ← campo d 2 2
  exige (plen ≤ len) (tableFeaturesFailed 3)
  let type ← campo d 0 2
  let prop ←
    match type with
    | 0 => instructionsPropUnpack false d plen
    | 1 => instructionsPropUnpack true d plen
    | 2 => nextTablesPropUnpack false d plen
    | 3 => nextTablesPropUnpack true d plen
    | 4 => actionsPropUnpack .writeActions d plen
    | 5 => actionsPropUnpack .writeActionsMiss d plen
    | 6 => actionsPropUnpack .applyActions d plen
    | 7 => actionsPropUnpack .applyActionsMiss d plen
    | 8 => oxmPropUnpack .mtch d plen
    | 10 => oxmPropUnpack .wildcards d plen
    | 12 => oxmPropUnpack .writeSetfield d plen
    | 13 => oxmPropUnpack .writeSetfieldMiss d plen
    | 14 => oxmPropUnpack .applySetfield d plen
    | 15 => oxmPropUnpack .applySetfieldMiss d plen
    | _ => throw (tableFeaturesFailed 2)
  pure (prop, len - plen)

/-- `ofl_utils_count_ofp_table_features_properties`. Each round uses up bytes of `d`, so that
    `d.length + 1` rounds are enough; the length rounded up may be more than is left, and then
    `data_len` wraps around. -/
def countProperties : Nat → Bytes → Nat → Lectura Nat
  | 0, _, _ => ExceptT.mk none
  | k + 1, d, dataLen =>
      if dataLen < 4 then pure 0
      else do
        let len ← campo d 2 2
        exige (len ≤ dataLen ∧ 4 ≤ len) (tableFeaturesFailed 3)
        let n ← countProperties k (d.drop (roundUp8 len)) (restaSize dataLen (roundUp8 len))
        pure (n + 1)

/-- The loop over the properties. The pointer goes on by the length rounded up, `plen` by the
    length. -/
def propertiesLoop : Nat → Bytes → Nat → Lectura (List TableFeatureProp)
  | 0, _, _ => pure []
  | n + 1, d, plen => do
      let r ← propertiesUnpack d plen
      let len ← campo d 2 2
      let props ← propertiesLoop n (d.drop (roundUp8 len)) r.2
      pure (r.1 :: props)

end Unpack

/-! ## 2. Table features -/

/-- `struct ofl_table_features`. -/
structure OflTableFeatures where
  length : Nat
  tableId : Nat
  name : Bytes
  metadataMatch : Nat
  metadataWrite : Nat
  config : Nat
  maxEntries : Nat
  properties : List TableFeatureProp
  deriving DecidableEq, Repr

/-- `strncpy` into `n` bytes. -/
def strncpy (n : Nat) (s : Bytes) : Bytes :=
  ((s.takeWhile (· ≠ 0)).take n).rightpad n 0

/-- `ofl_structs_table_features_properties_ofp_total_len`. -/
def propertiesOfpTotalLen (props : List TableFeatureProp) : Nat :=
  (props.map fun p => roundUp8 p.length).sum

/-- The loop over the properties. -/
def packProperties (host : Host) (hueco : UInt8 × UInt8) : List TableFeatureProp → Option Bytes
  | [] => some []
  | p :: ps => do
      let w ← p.pack host hueco
      let ws ← packProperties host hueco ps
      return w ++ ws

namespace OflTableFeatures

/-- The length `ofl_structs_table_features_pack` returns. -/
def ofpLen (f : OflTableFeatures) : Nat := 64 + propertiesOfpTotalLen f.properties

/-- `ofl_structs_table_features_pack`. -/
def pack (host : Host) (hueco : UInt8 × UInt8) (f : OflTableFeatures) : Option Bytes :=
  (packProperties host hueco f.properties).map fun props =>
    fields [(2, f.ofpLen), (1, f.tableId), (5, 0)] ++ (strncpy 32 f.name ++
      (fields [(8, f.metadataMatch), (8, f.metadataWrite), (4, f.config), (4, f.maxEntries)] ++
        props))

open Lectura in
/-- `ofl_structs_table_features_unpack` at the start of `d`: the features, and the bytes left. -/
def unpack (d : Bytes) (len : Nat) : Lectura (OflTableFeatures × Nat) := do
  exige (64 ≤ len) (tableFeaturesFailed 3)
  let length ← campo d 0 2
  exige (length ≤ len) ⟨.badAction, .bacBadLen⟩
  let tableId ← campo d 2 1
  let name ← trozo d 8 32
  let metadataMatch ← campo d 40 8
  let metadataWrite ← campo d 48 8
  let config ← campo d 56 4
  let maxEntries ← campo d 60 4
  let num ← countProperties ((d.drop 64).length + 1) (d.drop 64) (restaSize length 64)
  let properties ← propertiesLoop num (d.drop 64) (restaSize length 64)
  pure (⟨length, tableId, strncpy 32 name, metadataMatch, metadataWrite, config, maxEntries,
    properties⟩, len - length)

end OflTableFeatures

/-! ## 3. One property -/

namespace TableFeatureProp

/-- Ids of the widths of their types, and the length of `ofpLen`. -/
structure BienFormada (p : TableFeatureProp) : Prop where
  length : p.length = p.ofpLen
  cabe : p.length < 2 ^ 16
  ids : match p with
    | .instructions _ _ ids => ∀ id ∈ ids, id < 2 ^ 16
    | .nextTables _ _ _ => True
    | .actions _ _ ids => ∀ a ∈ ids, a.type < 2 ^ 16 ∧ a.len < 2 ^ 16
    | .oxm _ _ ids => ∀ id ∈ ids, id < 2 ^ 32

/-- What a property comes back as. -/
def relee (host : Host) (hueco : UInt8 × UInt8) : TableFeatureProp → Except OflErr TableFeatureProp
  | .instructions miss length _ => .ok (.instructions miss length [])
  | .nextTables miss length ids => .ok (.nextTables miss length ids)
  | .actions prop length ids =>
      (actionIdsUnpack (ids.flatMap (ActionId.pack host hueco))).map (.actions prop length)
  | .oxm prop length ids => .ok (.oxm prop length ids)

/-- The case of the `switch` for a property. -/
def caso (d : Bytes) : TableFeatureProp → Lectura TableFeatureProp
  | .instructions miss length _ => instructionsPropUnpack miss d length
  | .nextTables miss length _ => nextTablesPropUnpack miss d length
  | .actions prop length _ => actionsPropUnpack prop d length
  | .oxm prop length _ => oxmPropUnpack prop d length

end TableFeatureProp

section Propiedad

open Lectura

variable {host : Host} {hueco : UInt8 × UInt8} {p : TableFeatureProp}

theorem propertiesUnpack_eq {d : Bytes} {len : Nat} (htype : campo d 0 2 = pure p.type)
    (hlen : campo d 2 2 = pure p.length) (h4 : 4 ≤ p.length) (hle : p.length ≤ len) :
    propertiesUnpack d len = (do let q ← p.caso d; pure (q, len - p.length)) := by
  unfold propertiesUnpack
  rw [exige_si (h4.trans hle), hlen, htype, pure_bind, pure_bind, exige_si hle, pure_bind,
    pure_bind]
  cases p with
  | instructions miss length ids => cases miss <;> rfl
  | nextTables miss length ids => cases miss <;> rfl
  | actions prop length ids => cases prop <;> rfl
  | oxm prop length ids => cases prop <;> rfl

theorem trozo_append {v w rest : Bytes} {k n : Nat} (hk : v.length = k) (hn : w.length = n) :
    trozo (v ++ (w ++ rest)) k n = pure w := by
  have hle : k + n ≤ (v ++ (w ++ rest)).length := by
    simp only [length_append]
    omega
  rw [trozo, if_pos hle, drop_left' hk, take_left' hn]
  rfl

theorem width_map (n : Nat) (ids : List Nat) : width (ids.map (n, ·)) = ids.length * n := by
  simp [width, map_map, Function.comp_def, map_const']

theorem oxmIdsUnpack_pack {ids : List Nat} (h : ∀ id ∈ ids, id < 2 ^ 32) :
    oxmIdsUnpack (fields (ids.map (4, ·))) = ids := by
  have hm := empieza_memoriaDe (fun _ _ => 0) (fields (ids.map (4, ·)))
  unfold oxmIdsUnpack
  rw [length_fields, width_map, Nat.mul_div_cancel _ (by decide : 0 < 4)]
  refine ext_getElem (by simp) fun i hi hi' => ?_
  rw [getElem_map, getElem_range]
  refine hm.campo i ?_ ?_ (h _ (getElem_mem hi'))
  · rw [getElem?_map, getElem?_eq_getElem hi']
    rfl
  · rw [← map_take, width_map, length_take, Nat.min_eq_left hi'.le, Nat.mul_comm]

section Casos

variable {v ids rest : Bytes} {plen : Nat} (hv : v.length = 4) (h4 : 4 ≤ plen)
  (hids : ids.length = plen - 4)
include hv h4 hids

theorem nextTablesPropUnpack_eq (miss : Bool) :
    nextTablesPropUnpack miss (v ++ (ids ++ rest)) plen = pure (.nextTables miss plen ids) := by
  rw [nextTablesPropUnpack, exige_si h4, pure_bind, trozo_append hv hids, pure_bind]

theorem actionsPropUnpack_eq (prop : ActionsProp) :
    actionsPropUnpack prop (v ++ (ids ++ rest)) plen =
      liftM ((actionIdsUnpack ids).map (TableFeatureProp.actions prop plen)) := by
  rw [actionsPropUnpack, exige_si h4, pure_bind, trozo_append hv hids, pure_bind]
  cases actionIdsUnpack ids <;> rfl

theorem oxmPropUnpack_eq (prop : OxmProp) :
    oxmPropUnpack prop (v ++ (ids ++ rest)) plen = pure (.oxm prop plen (oxmIdsUnpack ids)) := by
  rw [oxmPropUnpack, exige_si h4, pure_bind, trozo_append hv hids, pure_bind]

end Casos

theorem instructionsPropUnpack_eq (miss : Bool) (d : Bytes) :
    instructionsPropUnpack miss d 4 = pure (.instructions miss 4 []) := rfl

theorem idsPack_instructions (ids : List Nat) :
    (ids.flatMap fun type =>
      (fields [(2, type), (2, sizeofInstruction - 4)]).take (sizeofInstruction - 4)) = [] :=
  flatMap_eq_nil_iff.mpr fun _ _ => take_zero

theorem length_actionsPack (host : Host) (hueco : UInt8 × UInt8) (ids : List ActionId) :
    (ids.flatMap (ActionId.pack host hueco)).length = (ids.map ActionId.ofpLen).sum := by
  have hone : ∀ a : ActionId, (a.pack host hueco).length = a.ofpLen := by
    intro a
    unfold ActionId.pack ActionId.ofpLen
    split
    · cases host <;> simp [Host.ntoh]
    · exact length_fields _
  rw [length_flatMap]
  exact congrArg List.sum (map_congr_left fun a _ => hone a)

theorem idsPack_spec (host : Host) (hueco : UInt8 × UInt8) (hp : p.BienFormada) :
    ∃ ids, p.idsPack host hueco = some ids ∧ ids.length = p.length - 4 ∧ 4 ≤ p.length ∧
      ∀ v rest : Bytes, v.length = 4 →
        p.caso (v ++ (ids ++ rest)) = liftM (p.relee host hueco) := by
  obtain ⟨hlen, hcabe, hids⟩ := hp
  cases p with
  | instructions miss length l =>
    have hno : experimenter ∉ l := by
      intro hmem
      rw [hlen, TableFeatureProp.ofpLen, if_pos hmem] at hcabe
      omega
    have h4 : length = 4 := by
      rw [TableFeatureProp.ofpLen, if_neg hno] at hlen
      exact hlen
    subst h4
    refine ⟨[], ?_, rfl, le_rfl, fun v rest _ => ?_⟩
    · rw [TableFeatureProp.idsPack, if_neg hno, idsPack_instructions]
    · exact instructionsPropUnpack_eq miss _
  | nextTables miss length l =>
    have hl : length = 4 + l.length := hlen
    refine ⟨l, rfl, by show _ = length - 4; omega, by show 4 ≤ length; omega, fun v rest hv => ?_⟩
    exact nextTablesPropUnpack_eq hv (by omega) (by omega) miss
  | actions prop length l =>
    have hl : length = 4 + (l.map ActionId.ofpLen).sum := hlen
    have hidl := length_actionsPack host hueco l
    refine ⟨_, rfl, by show _ = length - 4; omega, by show 4 ≤ length; omega, fun v rest hv => ?_⟩
    exact actionsPropUnpack_eq hv (by omega) (by omega) prop
  | oxm prop length l =>
    have hl : length = 4 + l.length * 4 := hlen
    have hidl : (fields (l.map (4, ·))).length = l.length * 4 :=
      (length_fields _).trans (width_map 4 l)
    refine ⟨_, rfl, by show _ = length - 4; omega, by show 4 ≤ length; omega, fun v rest hv => ?_⟩
    refine (oxmPropUnpack_eq hv (by omega) (by omega) prop).trans ?_
    rw [oxmIdsUnpack_pack hids]
    rfl

theorem TableFeatureProp.type_lt (p : TableFeatureProp) : p.type < 256 ^ 2 := by
  cases p with
  | instructions miss length ids => cases miss <;> simp [type]
  | nextTables miss length ids => cases miss <;> simp [type]
  | actions prop length ids => cases prop <;> simp [type, ActionsProp.type]
  | oxm prop length ids => cases prop <;> simp [type, OxmProp.type]

/-- **One property**: its bytes have the length rounded up, and in front of any others it comes
    back as `relee` says. -/
theorem propertiesUnpack_pack (host : Host) (hueco : UInt8 × UInt8) (hp : p.BienFormada) :
    ∃ w, p.pack host hueco = some w ∧ w.length = roundUp8 p.length ∧ 4 ≤ p.length ∧
      ∀ rest, campo (w ++ rest) 2 2 = pure p.length ∧
        ∀ len, p.length ≤ len → propertiesUnpack (w ++ rest) len =
          (do let q ← liftM (p.relee host hueco); pure (q, len - p.length)) := by
  obtain ⟨ids, hpack, hidl, h4, hcaso⟩ := idsPack_spec host hueco hp
  refine ⟨fields [(2, p.type), (2, p.length)] ++ ids ++
    List.replicate (roundUp8 p.length - p.length) 0, ?_, ?_, h4, fun rest => ?_⟩
  · rw [TableFeatureProp.pack, hpack]
    rfl
  · have := le_roundUp8 p.length
    simp only [length_append, length_fields, length_replicate, hidl, width,
      map_cons, map_nil, sum_cons, sum_nil]
    omega
  · rw [append_assoc, append_assoc]
    have hl : campo (fields [(2, p.type), (2, p.length)] ++ (ids ++
        (List.replicate (roundUp8 p.length - p.length) 0 ++ rest))) 2 2 = pure p.length :=
      campo_fields 1 _ rfl rfl hp.cabe
    refine ⟨hl, fun len hle => ?_⟩
    rw [propertiesUnpack_eq (campo_fields 0 _ rfl rfl p.type_lt) hl h4 hle,
      hcaso _ _ (length_fields _)]

end Propiedad

/-! ## 4. The ids of actions -/

section Acciones

variable {host : Host} {hueco : UInt8 × UInt8} {mem : Memoria} {d : Nat}

theorem actionIds_spec {ids : List ActionId} (hlt : ∀ a ∈ ids, a.type < 2 ^ 16)
    (h : ∀ a ∈ ids, a.type ≠ experimenter ∧ a.len = 4)
    (hm : Empieza (fun k => mem (d + k)) (ids.flatMap (ActionId.pack host hueco))) :
    countActions mem d (ids.flatMap (ActionId.pack host hueco)).length = .ok ids.length ∧
      actionIdsLoop mem ids.length d = ids := by
  induction ids generalizing d with
  | nil => exact ⟨by rw [countActions]; rfl, rfl⟩
  | cons a ids ih =>
    obtain ⟨hexp, hlen⟩ := h a mem_cons_self
    have hpack : a.pack host hueco = fields [(2, a.type), (2, a.len)] := if_neg hexp
    rw [flatMap_cons, hpack] at hm ⊢
    have h0 : leer mem d 2 = a.type :=
      (leer_add mem d 0 2).symm.trans (hm.left.campo 0 rfl rfl (hlt a mem_cons_self))
    have h2 : leer mem (d + 2) 2 = 4 :=
      (leer_add mem d 2 2).symm.trans
        ((hm.left.campo 1 rfl rfl (by rw [hlen]; decide)).trans hlen)
    have hshift : Empieza (fun k => mem (d + 4 + k))
        (ids.flatMap (ActionId.pack host hueco)) := by
      intro k hk
      show mem (d + 4 + k) = _
      rw [Nat.add_assoc]
      exact hm.right k hk
    obtain ⟨hcount, hloop⟩ := ih (fun x hx => hlt x (mem_cons_of_mem _ hx))
      (fun x hx => h x (mem_cons_of_mem _ hx)) hshift
    have hl : (fields [(2, a.type), (2, a.len)] ++
        ids.flatMap (ActionId.pack host hueco)).length =
        4 + (ids.flatMap (ActionId.pack host hueco)).length := by
      rw [length_append, length_fields]
      rfl
    constructor
    · rw [hl, countActions, if_neg (by omega), h2, if_neg (by omega), Nat.add_sub_cancel_left,
        hcount]
      rfl
    · rw [length_cons, actionIdsLoop, h0, h2, hloop, ← hlen]

theorem countActions_lens {dataLen n : Nat} (h : countActions mem d dataLen = .ok n) :
    (∀ a ∈ actionIdsLoop mem n d, 4 ≤ a.len) ∧
      ((actionIdsLoop mem n d).map ActionId.len).sum ≤ dataLen := by
  induction dataLen using Nat.strong_induction_on generalizing d n with
  | _ dataLen ih =>
    rw [countActions] at h
    split at h
    · cases h
      refine ⟨fun a ha => ?_, Nat.zero_le _⟩
      cases ha
    split at h
    · cases h
    · rename_i hge hok
      obtain ⟨m, hm, rfl⟩ : ∃ m, countActions mem (d + leer mem (d + 2) 2)
          (dataLen - leer mem (d + 2) 2) = .ok m ∧ m + 1 = n := by
        cases hc : countActions mem (d + leer mem (d + 2) 2) (dataLen - leer mem (d + 2) 2) with
        | error e =>
          rw [hc] at h
          cases h
        | ok m =>
          rw [hc] at h
          exact ⟨m, rfl, Except.ok.inj h⟩
      obtain ⟨hall, hsum⟩ := ih _ (by omega) hm
      refine ⟨fun a ha => ?_, ?_⟩
      · rcases mem_cons.mp ha with rfl | ha
        · show 4 ≤ leer mem (d + 2) 2
          omega
        · exact hall a ha
      · rw [actionIdsLoop, map_cons, sum_cons]
        show leer mem (d + 2) 2 + _ ≤ _
        omega

theorem eq_of_sum_le {l : List Nat} (h4 : ∀ n ∈ l, 4 ≤ n) (hsum : l.sum ≤ 4 * l.length) :
    ∀ n ∈ l, n = 4 := by
  induction l with
  | nil => exact fun n hn => (nomatch hn)
  | cons a l ih =>
    have ha := h4 a mem_cons_self
    have hl : 4 * l.length ≤ l.sum := by
      have := card_nsmul_le_sum l 4 fun n hn => h4 n (mem_cons_of_mem _ hn)
      simpa [Nat.mul_comm] using this
    rw [sum_cons, length_cons] at hsum
    intro n hn
    rcases mem_cons.mp hn with rfl | hn
    · omega
    · exact ih (fun n hn => h4 n (mem_cons_of_mem _ hn)) (by omega) n hn

end Acciones

namespace TableFeatureProp

/-- What is not lost: no instruction ids, and ids of actions of length 4 that are not of an
    experimenter. -/
def SeConserva : TableFeatureProp → Prop
  | .instructions _ _ ids => ids = []
  | .actions _ _ ids => ∀ a ∈ ids, a.type ≠ experimenter ∧ a.len = 4
  | .nextTables _ _ _ => True
  | .oxm _ _ _ => True

instance (p : TableFeatureProp) : Decidable p.SeConserva := by
  unfold SeConserva
  split <;> infer_instance

/-- No action of an experimenter. -/
def SinExperimenter : TableFeatureProp → Prop
  | .actions _ _ ids => ∀ a ∈ ids, a.type ≠ experimenter
  | _ => True

variable {host : Host} {hueco : UInt8 × UInt8} {p : TableFeatureProp}

theorem SeConserva.relee (hp : p.BienFormada) (h : p.SeConserva) :
    p.relee host hueco = .ok p := by
  cases p with
  | instructions miss length ids =>
    cases h
    rfl
  | nextTables miss length ids => rfl
  | actions prop length ids =>
    obtain ⟨hcount, hloop⟩ := actionIds_spec (fun a ha => (hp.ids a ha).1) h
      (empieza_cero (empieza_memoriaDe (fun _ _ => 0) (ids.flatMap (ActionId.pack host hueco))))
    rw [TableFeatureProp.relee, actionIdsUnpack, hcount]
    show Except.ok (TableFeatureProp.actions prop length (actionIdsLoop _ ids.length 0)) = _
    rw [hloop]
  | oxm prop length ids => rfl

theorem seConserva_of_relee (h : p.relee host hueco = .ok p) (hexp : p.SinExperimenter) :
    p.SeConserva := by
  cases p with
  | instructions miss length ids =>
    cases h
    rfl
  | nextTables miss length ids => trivial
  | actions prop length ids =>
    rw [relee, actionIdsUnpack] at h
    cases hc : countActions (memoriaDe (fun _ _ => 0) (ids.flatMap (ActionId.pack host hueco))) 0
        (ids.flatMap (ActionId.pack host hueco)).length with
    | error e =>
      rw [hc] at h
      cases h
    | ok n =>
      rw [hc] at h
      have hids : actionIdsLoop _ n 0 = ids := (actions.inj (Except.ok.inj h)).2.2
      obtain ⟨h4, hsum⟩ := countActions_lens hc
      rw [hids] at h4 hsum
      have hlen : (ids.map ActionId.ofpLen).sum = 4 * ids.length := by
        rw [map_congr_left fun a ha => show a.ofpLen = 4 from if_neg (hexp a ha)]
        simp [Nat.mul_comm]
      rw [length_actionsPack, hlen] at hsum
      have hall := eq_of_sum_le (l := ids.map ActionId.len)
        (by simpa using h4) (by simpa using hsum)
      exact fun a ha => ⟨hexp a ha, hall _ (mem_map_of_mem ha)⟩
  | oxm prop length ids => trivial

end TableFeatureProp

/-! ## 5. Table features -/

section Features

open Lectura

variable {host : Host} {hueco : UInt8 × UInt8}

theorem restaSize_eq {a b : Nat} (hb : b ≤ a) (ha : a < 2 ^ 64) : restaSize a b = a - b := by
  unfold restaSize
  omega

theorem packProperties_spec (host : Host) (hueco : UInt8 × UInt8) {ps : List TableFeatureProp}
    (h : ∀ p ∈ ps, p.BienFormada) :
    ∃ b, packProperties host hueco ps = some b ∧ b.length = propertiesOfpTotalLen ps ∧
      ps.length ≤ b.length ∧ (b.length < 2 ^ 64 → ∀ rest,
        (∀ k, ps.length < k → countProperties k (b ++ rest) b.length = pure ps.length) ∧
        ∀ plen, b.length ≤ plen → ∀ qs, propertiesLoop ps.length (b ++ rest) plen = pure qs ↔
          List.Forall₂ (fun p q => p.relee host hueco = .ok q) ps qs) := by
  induction ps with
  | nil =>
    refine ⟨[], rfl, rfl, le_rfl, fun _ rest => ⟨fun k hk => ?_, fun plen _ qs => ?_⟩⟩
    · obtain ⟨k, rfl⟩ := Nat.exists_eq_add_of_lt hk
      rfl
    · rw [forall₂_nil_left_iff]
      exact ⟨fun h => (pure_inj h).symm, fun h => by rw [h]; rfl⟩
  | cons p ps ih =>
    obtain ⟨w, hw, hwl, h4, hun⟩ := propertiesUnpack_pack host hueco (h p mem_cons_self)
    obtain ⟨b, hb, hlen, hnum, hrest⟩ := ih fun x hx => h x (mem_cons_of_mem _ hx)
    have hl : (w ++ b).length = w.length + b.length := length_append
    have hle := le_roundUp8 p.length
    refine ⟨w ++ b, ?_, ?_, ?_, fun hlt rest => ?_⟩
    · rw [packProperties, hw, hb]
      rfl
    · rw [hl, hwl, hlen]
      rfl
    · rw [length_cons]
      omega
    · obtain ⟨hcount, hloop⟩ := hrest (by omega) rest
      obtain ⟨hcampo, hprop⟩ := hun (b ++ rest)
      have hdrop : (w ++ (b ++ rest)).drop (roundUp8 p.length) = b ++ rest := drop_left' hwl
      rw [append_assoc, length_cons]
      refine ⟨fun k hk => ?_, fun plen hplen qs => ?_⟩
      · obtain ⟨k, rfl⟩ : ∃ k', k = k' + 1 := ⟨k - 1, by omega⟩
        rw [countProperties, if_neg (by omega)]
        refine bind_eq_pure.mpr ⟨_, hcampo, ?_⟩
        refine bind_eq_pure.mpr ⟨(), exige_si ⟨by omega, h4⟩, ?_⟩
        rw [hdrop, restaSize_eq (by omega) hlt, show (w ++ b).length - roundUp8 p.length = b.length
          by omega]
        exact bind_eq_pure.mpr ⟨_, hcount k (by omega), rfl⟩
      · rw [propertiesLoop, hprop plen (by omega), forall₂_cons_left_iff]
        constructor
        · intro hq
          obtain ⟨r, hr, hq⟩ := bind_eq_pure.mp hq
          obtain ⟨q, hq', hr⟩ := bind_eq_pure.mp hr
          cases pure_inj hr
          obtain ⟨len, hlen', hq⟩ := bind_eq_pure.mp hq
          cases pure_inj (hcampo.symm.trans hlen')
          obtain ⟨qs', hqs, hq⟩ := bind_eq_pure.mp hq
          rw [hdrop] at hqs
          exact ⟨q, qs', liftM_eq_pure.mp hq', (hloop _ (by omega) qs').mp hqs, (pure_inj hq).symm⟩
        · rintro ⟨q, qs', hq, hqs, rfl⟩
          refine bind_eq_pure.mpr ⟨(q, plen - p.length),
            bind_eq_pure.mpr ⟨q, liftM_eq_pure.mpr hq, rfl⟩, ?_⟩
          refine bind_eq_pure.mpr ⟨_, hcampo, ?_⟩
          rw [hdrop]
          exact bind_eq_pure.mpr ⟨qs', (hloop _ (by omega) qs').mpr hqs, rfl⟩

theorem campo_right (v d : Bytes) {m : Nat} (k n : Nat) (hm : v.length = m) :
    campo (v ++ d) (m + k) n = campo d k n := by
  subst hm
  have hiff : v.length + k + n ≤ (v ++ d).length ↔ k + n ≤ d.length := by
    rw [length_append]
    omega
  unfold campo
  rw [drop_append, drop_eq_nil_of_le (by omega), nil_append,
    Nat.add_sub_cancel_left]
  simp only [hiff]

@[simp] theorem length_strncpy (n : Nat) (s : Bytes) : (strncpy n s).length = n := by
  have := length_take_le n (s.takeWhile (· ≠ 0))
  rw [strncpy, length_rightpad]
  omega

theorem strncpy_strncpy (n : Nat) (s : Bytes) : strncpy n (strncpy n s) = strncpy n s := by
  set t := (s.takeWhile (· ≠ 0)).take n with ht
  have hno : ∀ x ∈ t, decide (x ≠ 0) = true := fun x hx =>
    mem_takeWhile_imp (p := fun x : UInt8 => decide (x ≠ 0)) (mem_of_mem_take hx)
  have hle : t.length ≤ n := length_take_le ..
  have hwhile : (strncpy n s).takeWhile (· ≠ 0) = t := by
    rw [strncpy, ← ht, List.rightpad, takeWhile_append_of_pos hno]
    have hz : (List.replicate (n - t.length) (0 : UInt8)).takeWhile (· ≠ 0) = [] := by
      rw [takeWhile_replicate]
      rfl
    rw [hz, append_nil]
  rw [strncpy, hwhile, take_of_length_le hle]
  rfl

namespace OflTableFeatures

/-- Fields of the widths of their types. -/
structure BienFormada (f : OflTableFeatures) : Prop where
  tableId : f.tableId < 256
  metadataMatch : f.metadataMatch < 2 ^ 64
  metadataWrite : f.metadataWrite < 2 ^ 64
  config : f.config < 2 ^ 32
  maxEntries : f.maxEntries < 2 ^ 32
  properties : ∀ p ∈ f.properties, p.BienFormada

variable {f : OflTableFeatures}

/-- **What is packed**: as many bytes as announced, and if the length fits its field, what is
    unpacked has the properties the loop returns. -/
theorem unpack_pack (host : Host) (hueco : UInt8 × UInt8) (hf : f.BienFormada) :
    ∃ b, f.pack host hueco = some b ∧ b.length = f.ofpLen ∧
      (f.ofpLen < 2 ^ 16 → campo b 0 2 = pure f.ofpLen ∧ ∀ r, unpack b b.length = pure r ↔
        ∃ qs, List.Forall₂ (fun p q => p.relee host hueco = .ok q) f.properties qs ∧
          r = ({ f with length := f.ofpLen, name := strncpy 32 f.name, properties := qs }, 0)) := by
  obtain ⟨c, hc, hcl, hnum, hspec⟩ := packProperties_spec host hueco hf.properties
  have hn : f.ofpLen = 64 + c.length := by rw [hcl, ofpLen]
  obtain ⟨b, hb⟩ : ∃ b, b = fields [(2, f.ofpLen), (1, f.tableId), (5, 0)] ++
      (strncpy 32 f.name ++ (fields [(8, f.metadataMatch), (8, f.metadataWrite), (4, f.config),
        (4, f.maxEntries)] ++ c)) := ⟨_, rfl⟩
  have hl1 : (fields [(2, f.ofpLen), (1, f.tableId), (5, 0)]).length = 8 := length_fields _
  have hl40 :
      (fields [(2, f.ofpLen), (1, f.tableId), (5, 0)] ++ strncpy 32 f.name).length = 40 := by
    rw [length_append, hl1, length_strncpy]
  have hlb : b.length = f.ofpLen := by
    rw [hb, ← append_assoc, length_append, hl40, length_append, length_fields, hn]
    show 40 + (24 + _) = _
    omega
  refine ⟨b, ?_, hlb, fun hlt => ?_⟩
  · rw [pack, hc, hb]
    rfl
  · have hlen : campo b 0 2 = pure f.ofpLen := hb ▸ campo_fields 0 _ rfl rfl hlt
    have hid : campo b 2 1 = pure f.tableId := hb ▸ campo_fields 1 _ rfl rfl hf.tableId
    have hname : trozo b 8 32 = pure (strncpy 32 f.name) :=
      hb ▸ trozo_append hl1 (length_strncpy ..)
    -- the fields behind the name
    have hback : ∀ k m, campo b (40 + k) m = campo (fields [(8, f.metadataMatch),
        (8, f.metadataWrite), (4, f.config), (4, f.maxEntries)] ++ c) k m := by
      intro k m
      rw [hb, ← append_assoc]
      exact campo_right _ _ k m hl40
    have hmatch : campo b 40 8 = pure f.metadataMatch :=
      (hback 0 8).trans (campo_fields 0 _ rfl rfl hf.metadataMatch)
    have hwrite : campo b 48 8 = pure f.metadataWrite :=
      (hback 8 8).trans (campo_fields 1 _ rfl rfl hf.metadataWrite)
    have hconfig : campo b 56 4 = pure f.config :=
      (hback 16 4).trans (campo_fields 2 _ rfl rfl hf.config)
    have hmax : campo b 60 4 = pure f.maxEntries :=
      (hback 20 4).trans (campo_fields 3 _ rfl rfl hf.maxEntries)
    have hdrop : b.drop 64 = c := by
      rw [hb, ← append_assoc, ← append_assoc]
      refine drop_left' ?_
      rw [length_append, hl40, length_fields]
      rfl
    have hplen : restaSize f.ofpLen 64 = c.length := by
      rw [restaSize_eq (by omega) (by omega)]
      omega
    obtain ⟨hcount, hloop⟩ := hspec (by omega) []
    rw [append_nil] at hcount hloop
    refine ⟨hlen, fun r => ?_⟩
    rw [unpack, hlb, exige_si (by omega), pure_bind, hlen, pure_bind, exige_si le_rfl, pure_bind,
      hid, pure_bind, hname, pure_bind, hmatch, pure_bind, hwrite, pure_bind, hconfig, pure_bind,
      hmax, pure_bind, hdrop, hplen, hcount _ (by omega), pure_bind, strncpy_strncpy, Nat.sub_self]
    constructor
    · intro h
      obtain ⟨qs, hqs, h⟩ := bind_eq_pure.mp h
      exact ⟨qs, (hloop _ le_rfl qs).mp hqs, (pure_inj h).symm⟩
    · rintro ⟨qs, hqs, rfl⟩
      exact bind_eq_pure.mpr ⟨qs, (hloop _ le_rfl qs).mpr hqs, rfl⟩

/-- The length fits its field, and no property loses ids. -/
def SinPerdida (f : OflTableFeatures) : Prop :=
  f.ofpLen < 2 ^ 16 ∧ ∀ p ∈ f.properties, p.SeConserva

end OflTableFeatures

/-- **Table features come back** if their length fits, there are no instruction ids, and the action
ids have length 4 and are no experimenter's; without experimenters only then. -/
theorem table_features_round_trip (host : Host) (hueco : UInt8 × UInt8) {f : OflTableFeatures}
    (hf : f.BienFormada) :
    (f.SinPerdida → ∃ b, f.pack host hueco = some b ∧ b.length = f.ofpLen ∧
      campo b 0 2 = pure b.length ∧ OflTableFeatures.unpack b b.length =
        pure ({ f with length := f.ofpLen, name := strncpy 32 f.name }, 0)) ∧
    ((∀ p ∈ f.properties, p.SinExperimenter) → ∀ b g l, f.pack host hueco = some b →
      campo b 0 2 = pure b.length → OflTableFeatures.unpack b b.length = pure (g, l) →
      g.properties = f.properties → f.SinPerdida) := by
  obtain ⟨b, hb, hlen, hun⟩ := OflTableFeatures.unpack_pack host hueco hf
  constructor
  · intro ⟨hlt, hcons⟩
    obtain ⟨hcampo, hiff⟩ := hun hlt
    refine ⟨b, hb, hlen, hlen ▸ hcampo, (hiff _).mpr ⟨f.properties, ?_, rfl⟩⟩
    exact forall₂_same.mpr fun p hp => (hcons p hp).relee (hf.properties p hp)
  · intro hexp b' g l hb' hcampo hunpack hprops
    obtain rfl := Option.some.inj (hb.symm.trans hb')
    have hlt : f.ofpLen < 2 ^ 16 := hlen ▸ campo_lt hcampo
    obtain ⟨qs, hqs, hr⟩ := ((hun hlt).2 _).mp hunpack
    have hg : g.properties = qs := congrArg (fun r => r.1.properties) hr
    rw [← hg, hprops] at hqs
    exact ⟨hlt, fun p hp =>
      TableFeatureProp.seConserva_of_relee (forall₂_same.mp hqs p hp) (hexp p hp)⟩

/-- Table 5 with two next tables, two actions and two fields, and no instructions. -/
def sinInstrucciones : OflTableFeatures where
  length := 0
  tableId := 5
  name := [116, 53]
  metadataMatch := 2 ^ 64 - 1
  metadataWrite := 0
  config := 3
  maxEntries := 4096
  properties := [.instructions true 4 [], .nextTables false 6 [6, 7],
    .actions .applyActions 12 [⟨0, 4⟩, ⟨22, 4⟩], .oxm .mtch 12 [0x80000004, 0x80000606]]

theorem sinInstrucciones_bienFormada : sinInstrucciones.BienFormada where
  tableId := by decide
  metadataMatch := by decide
  metadataWrite := by decide
  config := by decide
  maxEntries := by decide
  properties := by
    intro p hp
    simp only [sinInstrucciones, mem_cons, not_mem_nil, or_false] at hp
    rcases hp with rfl | rfl | rfl | rfl
    · exact ⟨rfl, by decide, by decide⟩
    · exact ⟨rfl, by decide, trivial⟩
    · exact ⟨rfl, by decide, by decide⟩
    · exact ⟨rfl, by decide, by decide⟩

theorem table_features_round_trip_cinco :
    ∃ b, sinInstrucciones.pack .little (0, 0) = some b ∧ b.length = 112 ∧
      campo b 0 2 = pure 112 ∧ OflTableFeatures.unpack b 112 =
        pure ({ sinInstrucciones with
          length := 112, name := [116, 53] ++ List.replicate 30 0 }, 0) := by
  have hs : sinInstrucciones.SinPerdida := ⟨by decide, by decide⟩
  obtain ⟨b, hb, hlen, hcampo, hun⟩ :=
    (table_features_round_trip .little (0, 0) sinInstrucciones_bienFormada).1 hs
  have hofp : sinInstrucciones.ofpLen = 112 := by decide
  rw [hofp] at hlen hun
  rw [hlen] at hcampo hun
  exact ⟨b, hb, hlen, hcampo, hun⟩

/-- Table 0 with one property. -/
def conPropiedad (p : TableFeatureProp) : OflTableFeatures :=
  ⟨0, 0, [], 0, 0, 0, 0, [p]⟩

/-- **Ids are lost.** None of the instructions of the switch's own tables comes back; an action id
of length 8 takes the next one with it; that of an experimenter's action is not read. -/
theorem table_features_round_trip_fails :
    (∃ b, (conPropiedad (.instructions false 4 [1, 2, 3, 4, 5, 6])).pack .little (0, 0) = some b ∧
      b.length = 72 ∧ (OflTableFeatures.unpack b 72).run.map (·.map (·.1.properties)) =
        some (.ok [.instructions false 4 []])) ∧
    (∃ b, (conPropiedad (.actions .writeActions 12 [⟨0, 8⟩, ⟨22, 4⟩])).pack .little (0, 0) =
        some b ∧
      (OflTableFeatures.unpack b 80).run.map (·.map (·.1.properties)) =
        some (.ok [.actions .writeActions 12 [⟨0, 8⟩]])) ∧
    ∀ host : Host,
      ∃ b, (conPropiedad (.actions .writeActions 12 [⟨0xffff, 8⟩])).pack host (0, 0) = some b ∧
        (OflTableFeatures.unpack b 80).run = some (.error ⟨.badAction, .bacBadLen⟩) := by
  refine ⟨⟨_, rfl, ?_, ?_⟩, ⟨_, rfl, ?_⟩, fun host => ?_⟩
  · decide
  · decide
  · decide +kernel
  · cases host with
    | little => exact ⟨_, rfl, by decide +kernel⟩
    | big => exact ⟨_, rfl, by decide +kernel⟩

end Features

end TcpPath.Udatapath
