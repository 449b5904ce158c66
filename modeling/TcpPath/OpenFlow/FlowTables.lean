/-
  Subject:   The flow tables: `pipeline_handle_flow_mod` with flow_table.c and flow_entry.c, and
             the loop over the tables that `pipeline_process_packet` and `pipeline_process_Uah`
             share.

  * An entry does not own a copy of its instructions: `flow_table_modify` hands the array of the
    message to every entry that matches, and the end of any of them frees it. An array is its
    contents and an identity (`Arreglo`), a pipeline knows which identities are freed.
-/
import TcpPath.OpenFlow.FlowMod
import TcpPath.Pipeline
import TcpPath.Util.Walk

namespace TcpPath

open Util

/-! ## 1. Entries -/

/-- An array of instructions: which one, and what is in it. -/
structure Arreglo (Ac : Type) where
  dir : Nat
  lista : List (Instruction Ac)
  deriving DecidableEq, Repr

/-- `struct flow_entry`. -/
structure FlowEntry (Mt Ac : Type) where
  priority : Nat
  cookie : Nat
  mtch : OflMatch Mt
  instructions : Arreglo Ac
  deriving DecidableEq, Repr

/-- The match list of a `struct flow_table`, highest priority first. -/
abbrev FlowTable (Mt Ac : Type) := List (FlowEntry Mt Ac)

def flowTableMaxEntries : Nat := 4096

/-- `OFPP_ANY` and `OFPG_ANY`. -/
def ofpAny : Nat := 0xffffffff

/-- `OFPFF_CHECK_OVERLAP`. -/
def checkOverlap (flags : Nat) : Bool := flags.testBit 1

section Tables

variable {Mt Ac P : Type} (of : OpenFlow Mt Ac P)

/-- The loop of `flow_entry_has_out_port` and `flow_entry_has_out_group`. -/
def flowEntryHasOut (has : List Ac → Bool) (entry : FlowEntry Mt Ac) : Bool :=
  entry.instructions.lista.any fun
    | .applyActions actions => has actions
    | .writeActions actions => has actions
    | _ => false

def flowEntryHasOutPort (entry : FlowEntry Mt Ac) (port : Nat) : Bool :=
  flowEntryHasOut (of.listHasOutPort · port) entry

def flowEntryHasOutGroup (entry : FlowEntry Mt Ac) (group : Nat) : Bool :=
  flowEntryHasOut (of.listHasOutGroup · group) entry

/-- The restriction of a flow-mod to entries with an output. -/
def tieneSalida (entry : FlowEntry Mt Ac) (mod : FlowMod Mt Ac) : Bool :=
  (mod.outPort == ofpAny || flowEntryHasOutPort of entry mod.outPort) &&
    (mod.outGroup == ofpAny || flowEntryHasOutGroup of entry mod.outGroup)

/-- `flow_entry_matches`. -/
def flowEntryMatches (entry : FlowEntry Mt Ac) (mod : FlowMod Mt Ac) (strict checkCookie : Bool) :
    Bool :=
  if checkCookie && (entry.cookie &&& mod.cookieMask) != (mod.cookie &&& mod.cookieMask) then false
  else if strict then
    entry.priority == mod.priority && of.matchStdStrict mod.mtch.fields entry.mtch.fields
  else of.matchStdNonstrict mod.mtch.fields entry.mtch.fields

/-- `flow_entry_overlaps`. -/
def flowEntryOverlaps (entry : FlowEntry Mt Ac) (mod : FlowMod Mt Ac) : Bool :=
  entry.priority == mod.priority && tieneSalida of entry mod &&
    of.matchStdOverlap entry.mtch.fields mod.mtch.fields

/-- `flow_entry_create`, with the array of the message. -/
def flowEntryCreate (mod : FlowMod Mt Ac) (arr : Arreglo Ac) : FlowEntry Mt Ac :=
  ⟨mod.priority, mod.cookie, mod.mtch, arr⟩

/-- `flow_entry_replace_instructions`. -/
def flowEntryReplaceInstructions (entry : FlowEntry Mt Ac) (arr : Arreglo Ac) : FlowEntry Mt Ac :=
  { entry with instructions := arr }

/-- `is_table_miss`. -/
def isTableMiss (entry : FlowEntry Mt Ac) : Bool :=
  entry.priority == 0 && decide (entry.mtch.length ≤ 4)

/-! ## 2. Changes of a table

  Each returns the table and the arrays it freed. -/

/-- The loop of `flow_table_add` from some entry of the list on; `active` is `active_count`. -/
def addFrom (mod : FlowMod Mt Ac) (arr : Arreglo Ac) (overlap : Bool) (active : Nat) :
    FlowTable Mt Ac → Except OflErr (FlowTable Mt Ac × List Nat)
  | [] =>
      if active = flowTableMaxEntries then .error ⟨.flowModFailed, .fmfcTableFull⟩
      else .ok ([flowEntryCreate mod arr], [])
  | entry :: rest =>
      if overlap && flowEntryOverlaps of entry mod then .error ⟨.flowModFailed, .fmfcOverlap⟩
      else if flowEntryMatches of entry mod true false then
        .ok (flowEntryCreate mod arr :: rest, [entry.instructions.dir])
      else if entry.priority < mod.priority then
        if active = flowTableMaxEntries then .error ⟨.flowModFailed, .fmfcTableFull⟩
        else .ok (flowEntryCreate mod arr :: entry :: rest, [])
      else
        match addFrom mod arr overlap active rest with
        | .error e => .error e
        | .ok r => .ok (entry :: r.1, r.2)

/-- `flow_table_add`. -/
def flowTableAdd (table : FlowTable Mt Ac) (mod : FlowMod Mt Ac) (arr : Arreglo Ac)
    (overlap : Bool) : Except OflErr (FlowTable Mt Ac × List Nat) :=
  addFrom of mod arr overlap table.length table

/-- `flow_table_modify`: every entry that matches gets the array of the message. -/
def flowTableModify (table : FlowTable Mt Ac) (mod : FlowMod Mt Ac) (arr : Arreglo Ac)
    (strict : Bool) : FlowTable Mt Ac × List Nat :=
  (table.map fun entry =>
      if flowEntryMatches of entry mod strict true then flowEntryReplaceInstructions entry arr
      else entry,
    (table.filter (flowEntryMatches of · mod strict true)).map (·.instructions.dir))

/-- The entries `quita` answers for are removed, and their arrays freed. -/
def flowTableRemove (table : FlowTable Mt Ac) (quita : FlowEntry Mt Ac → Bool) :
    FlowTable Mt Ac × List Nat :=
  (table.filter fun entry => !quita entry, (table.filter quita).map (·.instructions.dir))

/-- `flow_table_delete`. -/
def flowTableDelete (table : FlowTable Mt Ac) (mod : FlowMod Mt Ac) (strict : Bool) :
    FlowTable Mt Ac × List Nat :=
  flowTableRemove table fun entry =>
    tieneSalida of entry mod && flowEntryMatches of entry mod strict true

/-- `flow_table_flow_mod`. -/
def flowTableFlowMod (table : FlowTable Mt Ac) (mod : FlowMod Mt Ac) (arr : Arreglo Ac) :
    Except OflErr (FlowTable Mt Ac × List Nat) :=
  match mod.command with
  | .add => flowTableAdd of table mod arr (checkOverlap mod.flags)
  | .modify => .ok (flowTableModify of table mod arr false)
  | .modifyStrict => .ok (flowTableModify of table mod arr true)
  | .delete => .ok (flowTableDelete of table mod false)
  | .deleteStrict => .ok (flowTableDelete of table mod true)
  | .otro _ => .error ⟨.flowModFailed, .fmfcBadCommand⟩

/-! ## 3. The pipeline -/

/-- `struct pipeline`: the tables, the arrays freed so far, and a number no array has yet. -/
structure Pipeline (Mt Ac : Type) where
  tables : List (FlowTable Mt Ac)
  libres : List Nat
  siguiente : Nat
  deriving DecidableEq, Repr

namespace Pipeline

/-- `pipeline_create`. -/
def create : Pipeline Mt Ac := ⟨List.replicate pipelineTables [], [], 0⟩

def table (pl : Pipeline Mt Ac) (t : Nat) : FlowTable Mt Ac := pl.tables.getD t []

/-- Table `t` after a change that freed arrays. -/
def pon (pl : Pipeline Mt Ac) (t : Nat) (r : FlowTable Mt Ac × List Nat) : Pipeline Mt Ac :=
  { pl with tables := pl.tables.set t r.1, libres := r.2 ++ pl.libres }

end Pipeline

/-- `inst_compare`: 1 where `i1` has to stand behind `i2`, otherwise 0. -/
def instCompare (i1 i2 : Instruction Ac) : Bool :=
  if (i1.type = 4 ∧ i2.type = 5) ∨ (i1.type = 5 ∧ i2.type = 4) then decide (i1.type > i2.type)
  else decide (i1.type < i2.type)

/-- The `qsort` of `pipeline_handle_flow_mod`. -/
def ordena (is : List (Instruction Ac)) : List (Instruction Ac) :=
  is.insertionSort fun i1 i2 => instCompare i1 i2 = false

/-- The checks of `pipeline_handle_flow_mod` on one instruction. -/
def validaInstruccion (mod : FlowMod Mt Ac) : Instruction Ac → Option OflErr
  | .applyActions actions | .writeActions actions =>
      (of.dpActionsValidate actions).or (of.dpActionsCheckSetFieldReq mod.mtch actions)
  | .gotoTable _ =>
      if mod.tableId = pipelineTables - 1 then some ⟨.badInstruction, .bicUnsupInst⟩ else none
  | _ => none

/-- `pipeline_handle_flow_mod`, without the buffered packet it may send through the tables once
    they are changed. -/
def pipelineHandleFlowMod (slave : Bool) (pl : Pipeline Mt Ac) (mod : FlowMod Mt Ac) :
    Except OflErr (Pipeline Mt Ac) :=
  if slave then .error ⟨.badRequest, .brcIsSlave⟩
  else
    let arr : Arreglo Ac := ⟨pl.siguiente, ordena mod.instructions⟩
    let pl := { pl with siguiente := pl.siguiente + 1 }
    match arr.lista.findSome? (validaInstruccion of mod) with
    | some e => .error e
    | none =>
        if mod.tableId = ofpttAll then
          if mod.command = .delete ∨ mod.command = .deleteStrict then
            (List.range pipelineTables).foldlM
              (fun pl t => (flowTableFlowMod of (pl.table t) mod arr).map (pl.pon t)) pl
          else .error ⟨.flowModFailed, .fmfcBadTableId⟩
        else
          (flowTableFlowMod of (pl.table mod.tableId) mod arr).map (pl.pon mod.tableId)

inductive Orden (Mt Ac : Type) where
  | flowMod (slave : Bool) (buf : Bytes)
  /-- Entries of a table go: their time is over (`flow_table_timeout`), or their group or meter
      is deleted. -/
  | retira (t : Nat) (quita : FlowEntry Mt Ac → Bool)

/-- One event. A message that is refused leaves the tables as they are; `none` is a message whose
    unpacking does not return. -/
def Pipeline.paso (pl : Pipeline Mt Ac) : Orden Mt Ac → Option (Pipeline Mt Ac)
  | .flowMod slave buf =>
      match (flowModUnpack of buf).run with
      | none => none
      | some (.error _) => some pl
      | some (.ok mod) =>
          match pipelineHandleFlowMod of slave pl mod with
          | .error _ => some pl
          | .ok pl' => some pl'
  | .retira t quita =>
      if t < pipelineTables then some (pl.pon t (flowTableRemove (pl.table t) quita)) else none

/-! ## 4. The loop over the tables -/

/-- `flow_table_lookup`. -/
def flowTableLookup (table : FlowTable Mt Ac) (pkt : P) : Option (FlowEntry Mt Ac) :=
  table.find? fun entry => of.handleStdMatch pkt entry.mtch.fields

/-- `execute_entry` on the instructions that are left: the next table, the packet, and whether it
    is still there. -/
def executeEntry (cookie : Nat) : List (Instruction Ac) → Option Nat → P → Option Nat × P × Bool
  | [], next, pkt => (next, pkt, true)
  | .gotoTable id :: is, _, pkt => executeEntry cookie is (some id) pkt
  | .writeMetadata m k :: is, next, pkt => executeEntry cookie is next (of.writeMetadata m k pkt)
  | .writeActions as :: is, next, pkt => executeEntry cookie is next (of.writeActions as pkt)
  | .applyActions as :: is, next, pkt =>
      executeEntry cookie is next (of.executeActionList as cookie pkt)
  | .clearActions :: is, next, pkt => executeEntry cookie is next (of.clearActions pkt)
  | .meter id :: is, next, pkt =>
      match of.meterTableApply id pkt with
      | (pkt, true) => executeEntry cookie is next pkt
      | (pkt, false) => (next, pkt, false)

inductive Salida (P : Type) where
  /-- No entry matched: `pipeline_process_packet` destroys the packet, `pipeline_process_Uah`
      goes on with it. -/
  | falla (pkt : P)
  | destruido (pkt : P)
  | ejecuta (pkt : P)
  /-- The instructions of the entry are freed memory. -/
  | liberadas
  deriving DecidableEq, Repr

/-- One round of the loop, at table `t`. -/
def pasoTabla (pl : Pipeline Mt Ac) (t : Nat) (pkt : P) : Salida P ⊕ (Nat × P) :=
  let pkt := of.ponTabla t pkt
  match flowTableLookup of (pl.table t) pkt with
  | none => .inl (.falla pkt)
  | some entry =>
      if pl.libres.contains entry.instructions.dir then .inl .liberadas
      else
        match executeEntry of entry.cookie entry.instructions.lista none
            (of.ponMiss (isTableMiss entry) pkt) with
        | (_, pkt, false) => .inl (.destruido pkt)
        | (none, pkt, true) => .inl (.ejecuta (of.actionSetExecute pkt))
        | (some next, pkt, true) => .inr (next, pkt)

/-- The loop of `pipeline_process_packet` and `pipeline_process_Uah`, for at most `k` rounds: the
    tables it has been at, and how it was left. -/
def lazo (pl : Pipeline Mt Ac) (k : Nat) (pkt : P) : Option (List Nat × Salida P) :=
  walk (pasoTabla of pl) k 0 pkt

end Tables

/-- The loop as `pipeline_process_Uah` sees it. `abre` and `cierra` go between a frame and the
    packet the instructions work on. -/
def tablasUah {Mt Ac P : Type} (of : OpenFlow Mt Ac P) (abre : Packet → P)
    (cierra : P → Packet × List Efecto) (pl : Pipeline Mt Ac) (k : Nat) (pkt : Packet) :
    Option TablasRes :=
  (lazo of pl k (abre pkt)).bind fun r =>
    match r.2 with
    | .falla p => some ⟨decide (1 < r.1.length), (cierra p).2, some (cierra p).1⟩
    | .destruido p => some ⟨true, (cierra p).2, none⟩
    | .ejecuta p => some ⟨true, (cierra p).2, none⟩
    | .liberadas => none

end TcpPath
