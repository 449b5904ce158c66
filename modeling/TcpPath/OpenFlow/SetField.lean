/-
  Subject:   `OFPAT_SET_FIELD`: the check of a flow-mod, and the pointers `set_field` follows
             (dp_actions.c, packet_handle_std.c, `nblink_packet_parse`).

  * What NetBee finds in a frame is an argument (`Cabeceras`), as are the bytes that are written
    and the other actions.

  Results:   `setField_eq_none_iff`: a null pointer is followed exactly if the frame lacks the
             header that the field is written through.
             `validaFlowMod_eq`: with fields of oxm-match.def the check of a flow-mod follows none.
-/
import TcpPath.OpenFlow.Control
import TcpPath.OpenFlow.OxmMatch

namespace TcpPath.Udatapath

open Util List

variable {W P Mt : Type}

/-! ## 1. The headers of a frame -/

/-- The names NetBee gives to protocols, as far as `nblink_packet_parse` knows them. -/
inductive PdmlProto where
  | ethernet | vlan | mpls | arp | arppath | arppathRepair | pbb | ip | ipv6 | path | tcp | udp
  | sctp | icmp | icmp6 | otro
  deriving DecidableEq, Repr

/-- The pointers of `struct protocols_std` that `set_field` uses. -/
inductive Puntero where
  | eth | vlan | mpls | arp | arppath | arppathRepair | pbb | ipv4 | ipv6 | path | tcp | udp | sctp
  | icmp
  deriving DecidableEq, Repr

/-- `struct protocols_std` by its pointers: where in the frame the headers are, `none` is null. -/
abbrev Punteros := Puntero → Option Nat

/-- `protocol_reset`. -/
def protocolReset : Punteros := fun _ => none

/-- The pointer to a protocol. -/
def PdmlProto.puntero : PdmlProto → Option Puntero
  | ethernet => some .eth
  | vlan => some .vlan
  | mpls => some .mpls
  | arp => some .arp
  | arppath => some .arppath
  | arppathRepair => some .arppathRepair
  | pbb => some .pbb
  | ip => some .ipv4
  | ipv6 => some .ipv6
  | path => some .path
  | tcp => some .tcp
  | udp => some .udp
  | sctp => some .sctp
  | icmp => some .icmp
  | icmp6 => some .icmp
  | otro => none

/-- One round of `nblink_packet_parse`: a pointer is written once. -/
def nblinkProto (proto : Punteros) (x : PdmlProto × Nat) : Punteros :=
  match x.1.puntero with
  | none => proto
  | some p => if (proto p).isNone then Function.update proto p (some x.2) else proto

/-- `nblink_packet_parse` on what NetBee made of a frame: the pointers, and whether the result is
    not negative. -/
def nblinkPacketParse : Option (List (PdmlProto × Nat)) → Punteros × Bool
  | none => (protocolReset, false)
  | some protos => (protos.foldl nblinkProto protocolReset, true)

/-- `struct packet_handle_std`, with the bytes of its packet. -/
structure HandleStd where
  data : Bytes
  valid : Bool
  proto : Punteros

structure Cabeceras where
  /-- `DecodePacket`: the protocols of a frame, and where they start. -/
  decodePacket : Bytes → Option (List (PdmlProto × Nat))
  escribe : UInt32 → Bytes → HandleStd → Bytes
  otras : Action → HandleStd → HandleStd

namespace HandleStd

/-- `packet_handle_std_validate`. -/
def validate (e : Cabeceras) (h : HandleStd) : HandleStd :=
  if h.valid then h
  else
    let r := nblinkPacketParse (e.decodePacket h.data)
    { h with
      proto := r.1
      valid := r.2 }

/-- `packet_handle_std_create`. -/
def create (e : Cabeceras) (data : Bytes) : HandleStd := validate e ⟨data, false, protocolReset⟩

/-- `packet_handle_std_clone`. -/
def clone (e : Cabeceras) (h : HandleStd) : HandleStd := create e h.data

end HandleStd

/-! ## 2. `set_field` -/

/-- What the cases of the `switch` in `set_field` do about their pointers. -/
inductive Caso where
  | sigue (p : Puntero)
  /-- Nothing without a VLAN tag. -/
  | vlanVid
  /-- Without a VLAN tag, the case is left through the next one. -/
  | vlanPcp
  | tos
  /-- The address of a packet: before it, the checksum of TCP or else UDP. -/
  | direccion (p : Puntero)
  deriving DecidableEq, Repr

namespace Caso

/-- The pointers of the type of service. -/
def accesosTos (proto : Punteros) : List Puntero :=
  if (proto .ipv4).isSome then [.ipv4] else if (proto .ipv6).isSome then [.ipv6] else []

/-- The pointers that are followed, one by one. -/
def accesos (proto : Punteros) : Caso → List Puntero
  | sigue p => [p]
  | vlanVid => if (proto .vlan).isSome then [.vlan] else []
  | vlanPcp => if (proto .vlan).isSome then [.vlan] else accesosTos proto
  | tos => accesosTos proto
  | direccion p =>
      (if (proto .tcp).isSome then [p, .tcp]
        else if (proto .udp).isSome then [p, .udp] else []) ++ [p]

def obligado : Caso → Option Puntero
  | sigue p => some p
  | direccion p => some p
  | _ => none

theorem accesosTos_all (proto : Punteros) :
    (accesosTos proto).all (fun p => (proto p).isSome) = true := by
  unfold accesosTos
  split
  · rename_i h
    simp [h]
  · split
    · rename_i h
      simp [h]
    · rfl

/-- **A null pointer is followed exactly if it is the one that no case asks for.** -/
theorem accesos_all (proto : Punteros) (c : Caso) :
    (c.accesos proto).all (fun p => (proto p).isSome) = true ↔
      ∀ p, c.obligado = some p → (proto p).isSome = true := by
  cases c with
  | sigue p => simp [accesos, obligado]
  | vlanVid =>
    by_cases h : (proto .vlan).isSome = true
    · simp [accesos, obligado, h]
    · simp [accesos, obligado, h]
  | vlanPcp =>
    by_cases h : (proto .vlan).isSome = true
    · simp [accesos, obligado, h]
    · simp only [accesos, h, Bool.false_eq_true, if_false, accesosTos_all, obligado]
      simp
  | tos => simp [accesos, accesosTos_all, obligado]
  | direccion p =>
    by_cases ht : (proto .tcp).isSome = true
    · simp [accesos, obligado, ht]
    · by_cases hu : (proto .udp).isSome = true
      · simp [accesos, obligado, ht, hu]
      · simp [accesos, obligado, ht, hu]

end Caso

/-- The `switch` of `set_field`, in its order. A tunnel is a field of the match only, and `default`
    is a warning. -/
def setFieldCasos : List (UInt32 × Caso) := List.flatten [
  [(OxmFieldIndex.ethDst.header, .sigue .eth),
    (OxmFieldIndex.ethSrc.header, .sigue .eth),
    (OxmFieldIndex.ethType.header, .sigue .eth),
    (OxmFieldIndex.vlanVid.header, .vlanVid),
    (OxmFieldIndex.vlanPcp.header, .vlanPcp),
    (OxmFieldIndex.ipDscp.header, .tos),
    (OxmFieldIndex.ipEcn.header, .tos),
    (OxmFieldIndex.ipProto.header, .sigue .ipv4),
    (OxmFieldIndex.ipv4Src.header, .direccion .ipv4),
    (OxmFieldIndex.ipv4Dst.header, .direccion .ipv4),
    (OxmFieldIndex.tcpSrc.header, .sigue .tcp),
    (OxmFieldIndex.tcpDst.header, .sigue .tcp),
    (OxmFieldIndex.udpSrc.header, .sigue .udp),
    (OxmFieldIndex.udpDst.header, .sigue .udp),
    (OxmFieldIndex.sctpSrc.header, .sigue .sctp),
    (OxmFieldIndex.sctpDst.header, .sigue .sctp),
    (OxmFieldIndex.icmpv4Type.header, .sigue .icmp),
    (OxmFieldIndex.icmpv6Type.header, .sigue .icmp),
    (OxmFieldIndex.icmpv4Code.header, .sigue .icmp),
    (OxmFieldIndex.icmpv6Code.header, .sigue .icmp)],
  -- `OXM_OF_PATH_OP` to `_TCP_DST`, `_ID_SWITCH`, `_SECUENCE`, `_SALTOS`
  [oxmHeader 40 1, oxmHeader 41 6, oxmHeader 43 2, oxmHeader 44 2, oxmHeader 63 2, oxmHeader 64 4,
    oxmHeader 65 1].map (·, .sigue .path),
  -- `OXM_OF_ARPPATH_OP`, `_SPA`, `_TPA`, `_SHA`, `_THA`, `_SW1` to `_SW10`
  [oxmHeader 45 2, oxmHeader 46 4, oxmHeader 47 4, oxmHeader 48 6, oxmHeader 49 6, oxmHeader 50 4,
    oxmHeader 51 4, oxmHeader 52 4, oxmHeader 53 4, oxmHeader 54 4, oxmHeader 55 4, oxmHeader 56 4,
    oxmHeader 57 4, oxmHeader 58 4, oxmHeader 59 4].map (·, .sigue .arppath),
  -- `OXM_OF_ARP_REP_OP`, `_SCR`, `_DST`
  [oxmHeader 60 2, oxmHeader 61 6, oxmHeader 62 6].map (·, .sigue .arppathRepair),
  [(OxmFieldIndex.arpOp.header, .sigue .arp),
    (OxmFieldIndex.arpSpa.header, .sigue .arp),
    (OxmFieldIndex.arpTpa.header, .sigue .arp),
    (OxmFieldIndex.arpSha.header, .sigue .arp),
    (OxmFieldIndex.arpTha.header, .sigue .arp),
    (OxmFieldIndex.ipv6Src.header, .direccion .ipv6),
    (OxmFieldIndex.ipv6Dst.header, .direccion .ipv6),
    (OxmFieldIndex.ipv6Flabel.header, .sigue .ipv6),
    (OxmFieldIndex.ipv6NdTarget.header, .sigue .icmp),
    (OxmFieldIndex.ipv6NdSll.header, .sigue .icmp),
    (OxmFieldIndex.ipv6NdTll.header, .sigue .icmp),
    (OxmFieldIndex.mplsLabel.header, .sigue .mpls),
    (OxmFieldIndex.mplsTc.header, .sigue .mpls),
    (OxmFieldIndex.mplsBos.header, .sigue .mpls),
    (OxmFieldIndex.pbbIsid.header, .sigue .pbb)]]

/-- The pointers that `set_field` follows for a field. -/
def setFieldAccesos (header : UInt32) (proto : Punteros) : List Puntero :=
  ((setFieldCasos.lookup header).map (·.accesos proto)).getD []

/-- The header that a field has to find. -/
def obligado (header : UInt32) : Option Puntero := (setFieldCasos.lookup header).bind Caso.obligado

/-- `set_field`; `none` where a null pointer is followed. -/
def setField (e : Cabeceras) (h : HandleStd) (header : UInt32) (value : Bytes) :
    Option HandleStd :=
  let h := h.validate e
  if h.valid then
    if (setFieldAccesos header h.proto).all fun p => (h.proto p).isSome then
      some { h with
        data := e.escribe header value h
        valid := false }
    else none
  else some h

theorem setFieldAccesos_all (header : UInt32) (proto : Punteros) :
    (setFieldAccesos header proto).all (fun p => (proto p).isSome) = true ↔
      ∀ p, obligado header = some p → (proto p).isSome = true := by
  unfold setFieldAccesos obligado
  cases setFieldCasos.lookup header with
  | none => simp
  | some c => exact c.accesos_all proto

/-- **`set_field` follows a null pointer** exactly if the frame is decoded without the header that
    the field has to find. -/
theorem setField_eq_none_iff {e : Cabeceras} {h : HandleStd} {header : UInt32} {value : Bytes} :
    setField e h header value = none ↔
      (h.validate e).valid = true ∧
        ∃ p, obligado header = some p ∧ (h.validate e).proto p = none := by
  unfold setField
  simp only
  by_cases hv : (h.validate e).valid = true
  · rw [if_pos hv]
    by_cases hall : ((setFieldAccesos header (h.validate e).proto).all
        fun p => ((h.validate e).proto p).isSome) = true
    · rw [if_pos hall]
      refine ⟨fun hn => (nomatch hn), fun ⟨_, p, hp, hnone⟩ => ?_⟩
      have hsome := (setFieldAccesos_all header _).mp hall p hp
      rw [hnone] at hsome
      cases hsome
    · rw [if_neg hall]
      refine ⟨fun _ => ⟨hv, ?_⟩, fun _ => rfl⟩
      rw [setFieldAccesos_all] at hall
      push Not at hall
      obtain ⟨p, hp, hnone⟩ := hall
      exact ⟨p, hp, Option.not_isSome_iff_eq_none.mp hnone⟩
  · rw [if_neg hv]
    exact ⟨fun hn => (nomatch hn), fun h => absurd h.1 hv⟩

/-! ## 3. The check of a flow-mod -/

section Valida

variable (host : Host)

/-- `dp_actions_check_set_field_req`; `none` where the field is not found: both tests look into
    it. -/
def dpActionsCheckSetFieldReq (m : OxmMatch) : List Action → Option (Option OflErr)
  | [] => some none
  | .setField header _ :: actions => do
      let f ← oxmFieldLookup header.toUInt32
      if m.length = 0 ∧ f.dlType.1 ≠ 0 then some (some (badAction 10))
      else if oxmPrereqsOk host f m.fields = false then some (some (badAction 10))
      else dpActionsCheckSetFieldReq m actions
  | _ :: actions => dpActionsCheckSetFieldReq m actions

/-- The fields of the actions are in oxm-match.def. -/
def Conocidos (actions : List Action) : Prop :=
  ∀ header value, .setField header value ∈ actions → oxmFieldLookup header.toUInt32 ≠ none

theorem dpActionsCheckSetFieldReq_isSome {m : OxmMatch} {actions : List Action}
    (h : Conocidos actions) : (dpActionsCheckSetFieldReq host m actions).isSome = true := by
  induction actions with
  | nil => rfl
  | cons a actions ih =>
    have ih := ih fun header value ha => h header value (mem_cons_of_mem _ ha)
    cases a with
    | setField header value =>
      rw [dpActionsCheckSetFieldReq]
      cases hf : oxmFieldLookup header.toUInt32 with
      | none => exact absurd hf (h header value mem_cons_self)
      | some f =>
        show (if m.length = 0 ∧ f.dlType.1 ≠ 0 then some (some (badAction 10))
          else if oxmPrereqsOk host f m.fields = false then some (some (badAction 10))
          else dpActionsCheckSetFieldReq host m actions).isSome = true
        split
        · rfl
        · split
          · rfl
          · exact ih
    | _ => exact ih

/-- The switch with matches as they are in oxm-match.c. -/
def Conmutador.conOxm (c : Conmutador (List MatchTlv) P) (puntero : Bytes) :
    Conmutador (List MatchTlv) P :=
  { c with
    of := { c.of with
      oxmPullMatch := fun b =>
        (oxmPullMatch host puntero b.length (memoriaDe c.detras b) b.length).map (·.fields)
      sinCampos := []
      dpActionsCheckSetFieldReq := fun m actions =>
        (dpActionsCheckSetFieldReq host m actions).getD none } }

variable (env : Entorno (List MatchTlv) Action P) (groups : RefTable (Bucket Action))
  (mod : FlowMod (List MatchTlv) Action)

/-- The checks of `pipeline_handle_flow_mod` on one instruction; `none` where a null pointer is
    followed. -/
def validaNulo : Instruction Action → Option (Option OflErr)
  | .applyActions actions | .writeActions actions =>
      match dpActionsValidate env groups actions with
      | some e => some (some e)
      | none => dpActionsCheckSetFieldReq host mod.mtch actions
  | i => some (validaInstruccion (env.conGrupos groups) mod i)

/-- The loop over the instructions. -/
def validaFlowMod : List (Instruction Action) → Option (Option OflErr)
  | [] => some none
  | i :: is => do
      match ← validaNulo host env groups mod i with
      | some e => some (some e)
      | none => validaFlowMod is

end Valida

section Valida

variable {host : Host} {c : Conmutador (List MatchTlv) P} {puntero : Bytes}
  {groups : RefTable (Bucket Action)} {mod : FlowMod (List MatchTlv) Action}

theorem validaNulo_acciones {actions : List Action} (h : Conocidos actions) :
    (match dpActionsValidate (c.conOxm host puntero).entorno groups actions with
      | some e => some (some e)
      | none => dpActionsCheckSetFieldReq host mod.mtch actions) =
    some ((dpActionsValidate (c.conOxm host puntero).entorno groups actions).or
      ((dpActionsCheckSetFieldReq host mod.mtch actions).getD none)) := by
  cases dpActionsValidate (c.conOxm host puntero).entorno groups actions with
  | some e => rfl
  | none =>
    obtain ⟨r, hr⟩ := Option.isSome_iff_exists.mp
      (dpActionsCheckSetFieldReq_isSome host (m := mod.mtch) h)
    rw [hr]
    rfl

/-- **The check of a flow-mod** with fields of oxm-match.def is that of the handler, and no null
    pointer is followed. -/
theorem validaFlowMod_eq {is : List (Instruction Action)} (h : Conocidos (accionesDe is)) :
    validaFlowMod host (c.conOxm host puntero).entorno groups mod is =
      some (is.findSome?
        (validaInstruccion ((c.conOxm host puntero).entorno.conGrupos groups) mod)) := by
  induction is with
  | nil => rfl
  | cons i is ih =>
    have hi : validaNulo host (c.conOxm host puntero).entorno groups mod i =
        some (validaInstruccion ((c.conOxm host puntero).entorno.conGrupos groups) mod i) := by
      cases i with
      | applyActions actions =>
        exact validaNulo_acciones fun header value ha =>
          h header value (mem_append_left _ ha)
      | writeActions actions =>
        exact validaNulo_acciones fun header value ha =>
          h header value (mem_append_left _ ha)
      | _ => rfl
    have ih := ih fun header value ha => h header value (mem_append_right _ ha)
    rw [validaFlowMod, hi, findSome?_cons]
    cases validaInstruccion ((c.conOxm host puntero).entorno.conGrupos groups) mod i with
    | some e => rfl
    | none => exact ih

end Valida

end TcpPath.Udatapath
