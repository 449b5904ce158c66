/-
  Subject:   The flow-mod message on the wire: `ofl_msg_unpack_flow_mod` with
             `ofl_structs_match_unpack`, `ofl_utils_count_ofp_instructions` and
             `ofl_structs_instructions_unpack`.

  * `Lectura`: a reader of the message. `none` is a call that does not return or reads outside
    the message, an error is what the code answers the controller with.

  Results:   `flowModUnpack_acotado`: the table numbers that are checked.
-/
import TcpPath.Frame

namespace TcpPath

/-! ## 1. Errors and readers -/

/-- `enum ofp_error_type`; `otro` for what the code that is not modelled here answers. -/
inductive OfpErrorType where
  | badRequest | badAction | badInstruction | badMatch | flowModFailed
  | otro (n : Nat)
  deriving DecidableEq, Repr

/-- The error codes, by their names in openflow.h. -/
inductive OfpErrorCode where
  | brcBadLen | brcBadTableId | brcIsSlave
  | bacBadLen
  | bicUnknownInst | bicUnsupInst | bicBadTableId
  | bmcBadType
  | fmfcTableFull | fmfcBadTableId | fmfcOverlap | fmfcBadCommand
  | otro (n : Nat)
  deriving DecidableEq, Repr

/-- `ofl_error(type, code)`. -/
structure OflErr where
  type : OfpErrorType
  code : OfpErrorCode
  deriving DecidableEq, Repr

abbrev Lectura := ExceptT OflErr Option

namespace Lectura

variable {α β : Type}

/-- `if (!c) return e;` -/
def exige (c : Prop) [Decidable c] (e : OflErr) : Lectura Unit := if c then pure () else throw e

/-- The `n` bytes from offset `k` on, in network byte order. -/
def campo (d : Bytes) (k n : Nat) : Lectura Nat :=
  ExceptT.mk <|
    if k + n ≤ d.length then
      some (.ok (((d.drop k).take n).foldl (fun a x => 256 * a + x.toNat) 0))
    else none

theorem bind_eq_pure {x : Lectura α} {f : α → Lectura β} {b : β} :
    (x >>= f) = pure b ↔ ∃ a, x = pure a ∧ f a = pure b := by
  constructor
  · intro h
    rcases x with _ | e | a
    · cases h
    · cases h
    · exact ⟨a, rfl, h⟩
  · rintro ⟨a, rfl, h⟩
    exact h

theorem pure_inj {a b : α} (h : (pure a : Lectura α) = pure b) : a = b := by
  cases h
  rfl

theorem exige_eq_pure {c : Prop} [Decidable c] {e : OflErr} {u : Unit} :
    exige c e = pure u ↔ c := by
  unfold exige
  constructor
  · intro h
    by_contra hc
    rw [if_neg hc] at h
    cases h
  · intro hc
    rw [if_pos hc]

theorem throw_ne_pure {e : OflErr} {a : α} : (throw e : Lectura α) ≠ pure a := by
  intro h
  cases h

end Lectura

/-! ## 2. The message -/

/-- An instruction behind its unpacking, over the actions `Ac`. -/
inductive Instruction (Ac : Type) where
  | gotoTable (tableId : Nat)
  | writeMetadata (metadata metadataMask : Nat)
  | writeActions (actions : List Ac)
  | applyActions (actions : List Ac)
  | clearActions
  | meter (meterId : Nat)
  deriving DecidableEq, Repr

/-- `enum ofp_instruction_type`. -/
def Instruction.type {Ac : Type} : Instruction Ac → Nat
  | .gotoTable _ => 1
  | .writeMetadata _ _ => 2
  | .writeActions _ => 3
  | .applyActions _ => 4
  | .clearActions => 5
  | .meter _ => 6

/-- `enum ofp_flow_mod_command`, cast from a byte. -/
inductive FlowModCommand where
  | add | modify | modifyStrict | delete | deleteStrict
  | otro (n : Nat)
  deriving DecidableEq, Repr

def FlowModCommand.ofByte : Nat → FlowModCommand
  | 0 => .add
  | 1 => .modify
  | 2 => .modifyStrict
  | 3 => .delete
  | 4 => .deleteStrict
  | n => .otro n

/-- `struct ofl_match`: `header.length` and the fields. -/
structure OflMatch (Mt : Type) where
  length : Nat
  fields : Mt
  deriving DecidableEq, Repr

/-- `struct ofl_msg_flow_mod`. -/
structure FlowMod (Mt Ac : Type) where
  cookie : Nat
  cookieMask : Nat
  tableId : Nat
  command : FlowModCommand
  idleTimeout : Nat
  hardTimeout : Nat
  priority : Nat
  bufferId : Nat
  outPort : Nat
  outGroup : Nat
  flags : Nat
  mtch : OflMatch Mt
  instructions : List (Instruction Ac)
  deriving DecidableEq, Repr

/-- The code around the flow tables that is not modelled: match fields `Mt`, actions `Ac`, and
    packets `P` together with what has been done with them so far. -/
structure OpenFlow (Mt Ac P : Type) where
  oxmPullMatch : Bytes → Except OflErr Mt
  sinCampos : Mt
  /-- `ofl_utils_count_ofp_actions` and `ofl_actions_unpack` on the bytes of an instruction: the
      actions and the bytes left over. -/
  actionsUnpack : Bytes → Except OflErr (List Ac × Nat)
  matchStdStrict : Mt → Mt → Bool
  matchStdNonstrict : Mt → Mt → Bool
  matchStdOverlap : Mt → Mt → Bool
  listHasOutPort : List Ac → Nat → Bool
  listHasOutGroup : List Ac → Nat → Bool
  dpActionsValidate : List Ac → Option OflErr
  dpActionsCheckSetFieldReq : OflMatch Mt → List Ac → Option OflErr
  handleStdMatch : P → Mt → Bool
  ponTabla : Nat → P → P
  ponMiss : Bool → P → P
  writeMetadata : Nat → Nat → P → P
  writeActions : List Ac → P → P
  executeActionList : List Ac → Nat → P → P
  clearActions : P → P
  /-- `meter_table_apply`: whether the packet is still there. -/
  meterTableApply : Nat → P → P × Bool
  actionSetExecute : P → P

def pipelineTables : Nat := 64

def ofpttAll : Nat := 0xff

/-! ## 3. Unpacking -/

/-- `ROUND_UP(x, 8)`. -/
def roundUp8 (x : Nat) : Nat := (x + 7) / 8 * 8

/-- `a - b` on `size_t`. -/
def restaSize (a b : Nat) : Nat := (a + 2 ^ 64 - b) % 2 ^ 64

section Unpack

open Lectura

variable {Mt Ac P : Type} (of : OpenFlow Mt Ac P)

/-- The `switch` of `ofl_structs_instructions_unpack` on an instruction of `ilen` bytes at the
    start of `d`: the instruction and the bytes of it that are left. -/
def instructionBody (d : Bytes) (ilen : Nat) : Lectura (Instruction Ac × Nat) := do
  match ← campo d 0 2 with
  | 1 =>
      exige (8 ≤ ilen) ⟨.badAction, .brcBadLen⟩
      let tableId ← campo d 4 1
      exige (tableId < pipelineTables) ⟨.badInstruction, .bicBadTableId⟩
      pure (.gotoTable tableId, ilen - 8)
  | 2 =>
      exige (24 ≤ ilen) ⟨.badAction, .brcBadLen⟩
      let metadata ← campo d 8 8
      let mask ← campo d 16 8
      pure (.writeMetadata metadata mask, ilen - 24)
  | 3 =>
      exige (8 ≤ ilen) ⟨.badRequest, .brcBadLen⟩
      let r ← liftM (of.actionsUnpack ((d.drop 8).take (ilen - 8)))
      pure (.writeActions r.1, r.2)
  | 4 =>
      exige (8 ≤ ilen) ⟨.badRequest, .brcBadLen⟩
      let r ← liftM (of.actionsUnpack ((d.drop 8).take (ilen - 8)))
      pure (.applyActions r.1, r.2)
  | 5 =>
      exige (8 ≤ ilen) ⟨.badRequest, .brcBadLen⟩
      pure (.clearActions, ilen - 8)
  | 6 =>
      exige (8 ≤ ilen) ⟨.badAction, .brcBadLen⟩
      let meterId ← campo d 4 4
      pure (.meter meterId, ilen - 8)
  | 0xffff => throw ⟨.badInstruction, .bicUnsupInst⟩
  | _ => throw ⟨.badInstruction, .bicUnknownInst⟩

/-- `ofl_structs_instructions_unpack` at the start of `d`, with `len` bytes of the message left. -/
def instructionsUnpack (d : Bytes) (len : Nat) : Lectura (Instruction Ac) := do
  exige (4 ≤ len) ⟨.badAction, .bacBadLen⟩
  let ilen ← campo d 2 2
  exige (ilen ≤ len) ⟨.badAction, .bacBadLen⟩
  let r ← instructionBody of d ilen
  exige (r.2 = 0) ⟨.badRequest, .brcBadLen⟩
  pure r.1

/-- `ofl_utils_count_ofp_instructions`. Each round that moves on uses up bytes of `d`, so that
    `d.length + 1` rounds are enough unless the code itself does not come back: it accepts an
    instruction of length 0 and stays there. -/
def countInstructions : Nat → Bytes → Nat → Lectura Nat
  | 0, _, _ => ExceptT.mk none
  | k + 1, d, dataLen =>
      if dataLen ≤ 4 then pure 0
      else do
        let ilen ← campo d 2 2
        exige (ilen ≤ dataLen) ⟨.badRequest, .brcBadLen⟩
        let n ← countInstructions k (d.drop ilen) (dataLen - ilen)
        pure (n + 1)

/-- The loop of `ofl_msg_unpack_flow_mod` over the instructions. -/
def unpackInstructions : Nat → Bytes → Nat → Lectura (List (Instruction Ac))
  | 0, _, _ => pure []
  | n + 1, d, len => do
      let inst ← instructionsUnpack of d len
      let ilen ← campo d 2 2
      let resto ← unpackInstructions n (d.drop ilen) (len - ilen)
      pure (inst :: resto)

/-- `ofl_structs_match_unpack` on the match at byte 48 of the message, with `len` bytes left: the
    match and the bytes left behind it (`*len` wraps around if the match is longer). -/
def matchUnpack (buf : Bytes) (len : Nat) : Lectura (OflMatch Mt × Nat) := do
  let type ← campo buf 48 2
  exige (type = 1) ⟨.badMatch, .bmcBadType⟩
  let length ← campo buf 50 2
  if 8 < length then
    -- the copy of the fields reads as many bytes as the message says there are
    let _ ← campo buf 52 (length - 4)
    let fields ← liftM (of.oxmPullMatch ((buf.drop 52).take (length - 4)))
    pure (⟨length - 4, fields⟩, restaSize len (roundUp8 length))
  else pure (⟨0, of.sinCampos⟩, restaSize len (roundUp8 length))

/-- `ofl_msg_unpack_flow_mod`. Its test of the table number is a disjunction that the command
    cannot make false, so that only the number is left of it. -/
def flowModUnpack (buf : Bytes) : Lectura (FlowMod Mt Ac) := do
  exige (48 ≤ buf.length) ⟨.badRequest, .brcBadLen⟩
  let tableId ← campo buf 24 1
  exige (tableId < pipelineTables ∨ tableId = ofpttAll) ⟨.badRequest, .brcBadTableId⟩
  let cookie ← campo buf 8 8
  let cookieMask ← campo buf 16 8
  let command ← campo buf 25 1
  let idleTimeout ← campo buf 26 2
  let hardTimeout ← campo buf 28 2
  let priority ← campo buf 30 2
  let bufferId ← campo buf 32 4
  let outPort ← campo buf 36 4
  let outGroup ← campo buf 40 4
  let flags ← campo buf 44 2
  let m ← matchUnpack of buf (buf.length - 48)
  let d := buf.drop (roundUp8 (52 + m.1.length))
  let num ← countInstructions (d.length + 1) d m.2
  let instructions ← unpackInstructions of num d m.2
  pure ⟨cookie, cookieMask, tableId, .ofByte command, idleTimeout, hardTimeout, priority,
    bufferId, outPort, outGroup, flags, m.1, instructions⟩

/-! ## 4. What is accepted -/

/-- The gotos of a list of instructions name tables there are. -/
def Acotadas (is : List (Instruction Ac)) : Prop :=
  ∀ id, Instruction.gotoTable id ∈ is → id < pipelineTables

variable {of} {d : Bytes} {id len : Nat}

theorem instructionBody_acotado {ilen : Nat} {r : Instruction Ac × Nat}
    (h : instructionBody of d ilen = pure r) (hr : r.1 = .gotoTable id) : id < pipelineTables := by
  unfold instructionBody at h
  obtain ⟨type, _, h⟩ := bind_eq_pure.mp h
  split at h
  · obtain ⟨_, _, h⟩ := bind_eq_pure.mp h
    obtain ⟨tableId, _, h⟩ := bind_eq_pure.mp h
    obtain ⟨_, hlt, h⟩ := bind_eq_pure.mp h
    cases pure_inj h
    cases hr
    exact exige_eq_pure.mp hlt
  · obtain ⟨_, _, h⟩ := bind_eq_pure.mp h
    obtain ⟨_, _, h⟩ := bind_eq_pure.mp h
    obtain ⟨_, _, h⟩ := bind_eq_pure.mp h
    cases pure_inj h
    cases hr
  · obtain ⟨_, _, h⟩ := bind_eq_pure.mp h
    obtain ⟨_, _, h⟩ := bind_eq_pure.mp h
    cases pure_inj h
    cases hr
  · obtain ⟨_, _, h⟩ := bind_eq_pure.mp h
    obtain ⟨_, _, h⟩ := bind_eq_pure.mp h
    cases pure_inj h
    cases hr
  · obtain ⟨_, _, h⟩ := bind_eq_pure.mp h
    cases pure_inj h
    cases hr
  · obtain ⟨_, _, h⟩ := bind_eq_pure.mp h
    obtain ⟨_, _, h⟩ := bind_eq_pure.mp h
    cases pure_inj h
    cases hr
  · exact absurd h throw_ne_pure
  · exact absurd h throw_ne_pure

theorem instructionsUnpack_acotado (h : instructionsUnpack of d len = pure (.gotoTable id)) :
    id < pipelineTables := by
  unfold instructionsUnpack at h
  obtain ⟨_, _, h⟩ := bind_eq_pure.mp h
  obtain ⟨_, _, h⟩ := bind_eq_pure.mp h
  obtain ⟨_, _, h⟩ := bind_eq_pure.mp h
  obtain ⟨r, hr, h⟩ := bind_eq_pure.mp h
  obtain ⟨_, _, h⟩ := bind_eq_pure.mp h
  exact instructionBody_acotado hr (pure_inj h)

theorem unpackInstructions_acotado {n : Nat} {is : List (Instruction Ac)}
    (h : unpackInstructions of n d len = pure is) : Acotadas is := by
  induction n generalizing d len is with
  | zero =>
    cases pure_inj h
    intro id hid
    cases hid
  | succ n ih =>
    rw [unpackInstructions] at h
    obtain ⟨inst, hinst, h⟩ := bind_eq_pure.mp h
    obtain ⟨_, _, h⟩ := bind_eq_pure.mp h
    obtain ⟨resto, hresto, h⟩ := bind_eq_pure.mp h
    cases pure_inj h
    intro id hid
    rcases List.mem_cons.mp hid with rfl | hid
    · exact instructionsUnpack_acotado hinst
    · exact ih hresto id hid

/-- **What `ofl_msg_unpack_flow_mod` checks**: the table of the message and those its gotos name
    are tables there are, the first also `OFPTT_ALL`. -/
theorem flowModUnpack_acotado {buf : Bytes} {mod : FlowMod Mt Ac}
    (h : flowModUnpack of buf = pure mod) :
    (mod.tableId < pipelineTables ∨ mod.tableId = ofpttAll) ∧ Acotadas mod.instructions := by
  unfold flowModUnpack at h
  obtain ⟨_, _, h⟩ := bind_eq_pure.mp h
  obtain ⟨tableId, _, h⟩ := bind_eq_pure.mp h
  obtain ⟨_, htab, h⟩ := bind_eq_pure.mp h
  -- the ten fields of the fixed part
  iterate 10 obtain ⟨_, _, h⟩ := bind_eq_pure.mp h
  obtain ⟨m, _, h⟩ := bind_eq_pure.mp h
  obtain ⟨num, _, h⟩ := bind_eq_pure.mp h
  obtain ⟨is, his, h⟩ := bind_eq_pure.mp h
  cases pure_inj h
  exact ⟨exige_eq_pure.mp htab, unpackInstructions_acotado his⟩

end Unpack

end TcpPath
