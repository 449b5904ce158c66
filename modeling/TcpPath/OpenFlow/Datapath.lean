/-
  Subject:   flow_table.c and flow_entry.c with all an entry carries: its timeouts, its counters
             and its references to groups and meters, and with the deletion of groups and meters
             that takes flow entries along.

  * An entry is known by the memory it has (`dir`), which no other entry has or had. The lists of
    a table are linked through the entries: `matchEntries` has the entries themselves,
    `idleEntries` and `hardEntries` say which, in their order.
  * Deleting all groups leaves each in the map until the last is destroyed. A search that comes
    by one that is freed already is undefined; here it finds what the group last was, so that
    every execution that is defined is one of these (`recorreLibres` tells them apart).
  * A MODIFY gives all its entries one array of instructions, and whichever of them goes first
    frees it. `libres` has every `free`: the program is in order while it has no array twice, and an
    entry has its instructions while their array is not in it.
-/
import TcpPath.OpenFlow.FlowTables
import TcpPath.OpenFlow.RefTables

namespace TcpPath.Udatapath

open Util

/-! ## 1. State -/

structure Entorno (Mt Ac P : Type) extends OpenFlow Mt Ac P where
  grupo : Ac → Option Nat
  /-- An `OFPAT_OUTPUT` action to a port up to `OFPP_MAX` that there is not. -/
  sinPuerto : Ac → Bool
  size : P → Nat
  listHasOutGroup_eq : ∀ actions g, listHasOutGroup actions g = actions.any (grupo · == some g)

/-- `struct flow_entry` with its `stats`. -/
structure Entrada (Mt Ac : Type) extends FlowEntry Mt Ac where
  dir : Nat
  /-- Which of the places of the match list it stands at, counted as they were made. The source
      has no such field: it is there to speak of the order. -/
  puesto : Nat
  tableId : Nat
  idleTimeout : Nat
  hardTimeout : Nat
  flags : Nat
  noPktCount : Bool
  noBytCount : Bool
  packetCount : UInt64
  byteCount : UInt64
  created : Nat
  removeAt : Nat
  lastUsed : Nat
  sendRemoved : Bool
  groupRefs : List Nat
  meterRefs : List Nat
  deriving DecidableEq, Repr

/-- `hard_node`, with the `remove_at` of its entry, which is written once. -/
structure HardNode where
  dir : Nat
  removeAt : Nat
  deriving DecidableEq, Repr

def Entrada.hardNode {Mt Ac : Type} (entry : Entrada Mt Ac) : HardNode :=
  ⟨entry.dir, entry.removeAt⟩

/-- `struct flow_table`. -/
structure TablaFlujos (Mt Ac : Type) where
  activeCount : Nat
  lookupCount : UInt64
  matchedCount : UInt64
  matchEntries : List (Entrada Mt Ac)
  hardEntries : List HardNode
  idleEntries : List Nat
  deriving DecidableEq, Repr

/-- `enum ofp_flow_removed_reason`. -/
inductive Reason where
  | idleTimeout | hardTimeout | delete | groupDelete | meterDelete
  deriving DecidableEq, Repr

/-- `struct ofl_msg_flow_removed`, with the duration `flow_entry_update` writes. -/
structure FlowRemoved (Mt Ac : Type) where
  reason : Reason
  stats : Entrada Mt Ac
  durationSec : Nat
  durationNsec : Nat
  deriving DecidableEq, Repr

/-- The tables of a `struct datapath`, over the bands `Bd` of the meters. -/
structure Dp (Mt Ac Bd : Type) where
  tablas : Fin pipelineTables → TablaFlujos Mt Ac
  groups : RefTable (Bucket Ac)
  meters : RefTable Bd
  siguiente : Nat
  enviados : List (FlowRemoved Mt Ac)
  /-- The arrays of instructions that were given back, one for each `free`. -/
  libres : List Nat

variable {Mt Ac Bd P : Type}

/-! ## 2. One entry -/

/-- `OFPFF_SEND_FLOW_REM`. -/
def sendFlowRem (flags : Nat) : Bool := flags.testBit 0

/-- `OFPFF_RESET_COUNTS`. -/
def resetCounts (flags : Nat) : Bool := flags.testBit 2

/-- `OFPFF_NO_PKT_COUNTS`. -/
def noPktCounts (flags : Nat) : Bool := flags.testBit 3

/-- `OFPFF_NO_BYT_COUNTS`. -/
def noBytCounts (flags : Nat) : Bool := flags.testBit 4

/-- The list `init_group_refs` makes: the groups of the apply and the write actions, each once. -/
def groupRefsDe (grupo : Ac → Option Nat) (is : List (Instruction Ac)) : List Nat :=
  (is.flatMap fun
    | .applyActions actions => actions.filterMap grupo
    | .writeActions actions => actions.filterMap grupo
    | _ => []).eraseDups

/-- The list `init_meter_refs` makes. -/
def meterRefsDe (is : List (Instruction Ac)) : List Nat :=
  (is.filterMap fun
    | .meter id => some id
    | _ => none).eraseDups

/-- What `flow_entry_create` writes into the memory `dir`. -/
def entradaNueva (env : Entorno Mt Ac P) (mod : FlowMod Mt Ac) (arr : Arreglo Ac)
    (now dir : Nat) : Entrada Mt Ac where
  toFlowEntry := flowEntryCreate mod arr
  dir := dir
  puesto := dir
  tableId := mod.tableId
  idleTimeout := mod.idleTimeout
  hardTimeout := mod.hardTimeout
  flags := mod.flags
  noPktCount := noPktCounts mod.flags
  noBytCount := noBytCounts mod.flags
  packetCount := if noPktCounts mod.flags then 0xffffffffffffffff else 0
  byteCount := if noBytCounts mod.flags then 0xffffffffffffffff else 0
  created := now
  removeAt := if mod.hardTimeout = 0 then 0 else now + mod.hardTimeout * 1000
  lastUsed := now
  sendRemoved := sendFlowRem mod.flags
  groupRefs := groupRefsDe env.grupo arr.lista
  meterRefs := meterRefsDe arr.lista

namespace Entrada

/-- `flow_entry_replace_instructions` and `flow_entry_modify_stats`, as far as the entry goes: the
    references to meters stay. -/
def modifica (env : Entorno Mt Ac P) (mod : FlowMod Mt Ac) (arr : Arreglo Ac)
    (entry : Entrada Mt Ac) : Entrada Mt Ac :=
  { entry with
    toFlowEntry := flowEntryReplaceInstructions entry.toFlowEntry arr
    groupRefs := groupRefsDe env.grupo arr.lista
    packetCount := if resetCounts mod.flags && !entry.noPktCount then 0 else entry.packetCount
    byteCount := if resetCounts mod.flags && !entry.noBytCount then 0 else entry.byteCount }

/-- What a hit of `flow_table_lookup` writes. -/
def usa (env : Entorno Mt Ac P) (pkt : P) (now : Nat) (entry : Entrada Mt Ac) : Entrada Mt Ac :=
  { entry with
    byteCount := if entry.noBytCount then entry.byteCount
      else entry.byteCount + (env.size pkt).toUInt64
    packetCount := if entry.noPktCount then entry.packetCount else entry.packetCount + 1
    lastUsed := now }

/-- The entry at a place that was made before. -/
def enPuesto (puesto : Nat) (entry : Entrada Mt Ac) : Entrada Mt Ac :=
  { entry with puesto := puesto }

/-- `packet_handle_std_match` on the match of the entry. -/
def acepta (env : Entorno Mt Ac P) (pkt : P) (entry : Entrada Mt Ac) : Bool :=
  env.handleStdMatch pkt entry.mtch.fields

/-- The test of `flow_entry_idle_timeout`. -/
def ociosa (now : Nat) (entry : Entrada Mt Ac) : Bool :=
  entry.idleTimeout != 0 && decide (entry.lastUsed + entry.idleTimeout * 1000 < now)

/-- `flow_entry_update` and the message of `flow_entry_remove`. -/
def flowRemoved (reason : Reason) (now : Nat) (entry : Entrada Mt Ac) : FlowRemoved Mt Ac :=
  ⟨reason, entry, (now - entry.created) / 1000, (now - entry.created) % 1000 * 1000000⟩

end Entrada

/-- The test of `flow_entry_hard_timeout`. -/
def HardNode.vencida (now : Nat) (node : HardNode) : Bool :=
  node.removeAt != 0 && decide (node.removeAt < now)

/-! ## 3. One table -/

namespace TablaFlujos

/-- `flow_table_create`. -/
def vacia : TablaFlujos Mt Ac := ⟨0, 0, 0, [], [], []⟩

/-- The entry with some memory. -/
def entrada (table : TablaFlujos Mt Ac) (dir : Nat) : Option (Entrada Mt Ac) :=
  table.matchEntries.find? (·.dir == dir)

/-- `add_to_timeout_lists`: the list of hard timeouts is in the order of `remove_at`. -/
def addToTimeoutLists (entry : Entrada Mt Ac) (table : TablaFlujos Mt Ac) : TablaFlujos Mt Ac :=
  { table with
    idleEntries := if 0 < entry.idleTimeout then table.idleEntries ++ [entry.dir]
      else table.idleEntries
    hardEntries := if 0 < entry.removeAt
      then table.hardEntries.orderedInsert (fun a b => a.removeAt < b.removeAt) entry.hardNode
      else table.hardEntries }

/-- `list_remove` on the `hard_node` and the `idle_node` of an entry. -/
def desenlaza (dir : Nat) (table : TablaFlujos Mt Ac) : TablaFlujos Mt Ac :=
  { table with
    hardEntries := table.hardEntries.filter (·.dir != dir)
    idleEntries := table.idleEntries.filter (· != dir) }

/-- `list_insert` of a new entry into the match list. -/
def inserta (antes : List (Entrada Mt Ac)) (entry : Entrada Mt Ac) (despues : List (Entrada Mt Ac))
    (table : TablaFlujos Mt Ac) : TablaFlujos Mt Ac :=
  { table with
    activeCount := table.activeCount + 1
    matchEntries := antes ++ entry :: despues }

/-- `list_replace` of the old entry `dir` in the match list, and `list_remove` on its other
    nodes. -/
def reemplaza (dir : Nat) (antes : List (Entrada Mt Ac)) (entry : Entrada Mt Ac)
    (despues : List (Entrada Mt Ac)) (table : TablaFlujos Mt Ac) : TablaFlujos Mt Ac :=
  { table.desenlaza dir with matchEntries := antes ++ entry :: despues }

/-- The table part of `flow_entry_remove`. -/
def quita (dir : Nat) (table : TablaFlujos Mt Ac) : TablaFlujos Mt Ac :=
  { table.desenlaza dir with
    matchEntries := table.matchEntries.filter (·.dir != dir)
    activeCount := table.activeCount - 1 }

/-- `flow_table_lookup`: the table, and the entry the packet hits. -/
def lookup (env : Entorno Mt Ac P) (pkt : P) (now : Nat) (table : TablaFlujos Mt Ac) :
    TablaFlujos Mt Ac × Option (Entrada Mt Ac) :=
  match table.matchEntries.find? (·.acepta env pkt) with
  | none => ({ table with lookupCount := table.lookupCount + 1 }, none)
  | some entry =>
      ({ table with
        lookupCount := table.lookupCount + 1
        matchedCount := table.matchedCount + 1
        matchEntries := modifyFirst (·.acepta env pkt) (·.usa env pkt now) table.matchEntries },
        some (entry.usa env pkt now))

end TablaFlujos

/-- How the loop of `flow_table_add` is left. -/
inductive Sitio (E : Type) where
  | overlap
  | igual (antes : List E) (entry : E) (despues : List E)
  | nuevo (antes despues : List E)

/-- The loop goes on behind `entry`. -/
def Sitio.tras {E : Type} (entry : E) : Sitio E → Sitio E
  | .overlap => .overlap
  | .igual antes e despues => .igual (entry :: antes) e despues
  | .nuevo antes despues => .nuevo (entry :: antes) despues

/-- The loop of `flow_table_add`. -/
def buscaSitio (of : OpenFlow Mt Ac P) (mod : FlowMod Mt Ac) (overlap : Bool) :
    List (Entrada Mt Ac) → Sitio (Entrada Mt Ac)
  | [] => .nuevo [] []
  | entry :: rest =>
      if overlap && flowEntryOverlaps of entry.toFlowEntry mod then .overlap
      else if flowEntryMatches of entry.toFlowEntry mod true false then .igual [] entry rest
      else if entry.priority < mod.priority then .nuevo [] (entry :: rest)
      else (buscaSitio of mod overlap rest).tras entry

/-! ## 4. Flow entries come and go -/

namespace Dp

/-- A change of table `t`. -/
def conTabla (t : Fin pipelineTables) (f : TablaFlujos Mt Ac → TablaFlujos Mt Ac)
    (d : Dp Mt Ac Bd) : Dp Mt Ac Bd :=
  { d with tablas := Function.update d.tablas t (f (d.tablas t)) }

/-- `flow_entry_create`. -/
def flowEntryCreate (env : Entorno Mt Ac P) (t : Fin pipelineTables) (mod : FlowMod Mt Ac)
    (arr : Arreglo Ac) (now : Nat) (d : Dp Mt Ac Bd) : Dp Mt Ac Bd × Entrada Mt Ac :=
  let entry := entradaNueva env mod arr now d.siguiente
  ({ d with
    groups := d.groups.addRefs ⟨t, entry.dir⟩ entry.groupRefs
    meters := d.meters.addRefs ⟨t, entry.dir⟩ entry.meterRefs
    siguiente := d.siguiente + 1 }, entry)

/-- `flow_entry_destroy`: `del_group_refs` and `del_meter_refs`, and the array of instructions is
    freed, whichever other entry has it too. -/
def flowEntryDestroy (p : FlowPtr) (entry : Entrada Mt Ac) (d : Dp Mt Ac Bd) : Dp Mt Ac Bd :=
  { d with
    groups := d.groups.delRefs p entry.groupRefs
    meters := d.meters.delRefs p entry.meterRefs
    libres := entry.instructions.dir :: d.libres }

/-- `dp_send_message` with the flow-removed message of an entry that asks for one. -/
def avisa (entry : Entrada Mt Ac) (reason : Reason) (now : Nat) (d : Dp Mt Ac Bd) :
    Dp Mt Ac Bd :=
  if entry.sendRemoved then
    { d with enviados := d.enviados ++ [entry.flowRemoved reason now] }
  else d

/-- `flow_entry_remove` on the entry `p` points to. That there is one is `Dp.Vivas` for the
    references of groups and meters (References.lean), and `Dp.Sana` for the lists of a table. -/
def flowEntryRemove (reason : Reason) (now : Nat) (d : Dp Mt Ac Bd) (p : FlowPtr) :
    Dp Mt Ac Bd :=
  match (d.tablas p.tabla).entrada p.dir with
  | none => d
  | some entry =>
      ((d.avisa entry reason now).conTabla p.tabla (·.quita p.dir)).flowEntryDestroy p entry

/-! ## 5. flow_table.c -/

/-- `flow_table_add`. -/
def flowTableAdd (env : Entorno Mt Ac P) (t : Fin pipelineTables) (mod : FlowMod Mt Ac)
    (arr : Arreglo Ac) (overlap : Bool) (now : Nat) (d : Dp Mt Ac Bd) :
    Except OflErr (Dp Mt Ac Bd) :=
  match buscaSitio env.toOpenFlow mod overlap (d.tablas t).matchEntries with
  | .overlap => .error ⟨.flowModFailed, .fmfcOverlap⟩
  | .igual antes entry despues =>
      let r := d.flowEntryCreate env t mod arr now
      let nueva := r.2.enPuesto entry.puesto
      let d := r.1.conTabla t (·.reemplaza entry.dir antes nueva despues)
      let d := d.flowEntryDestroy ⟨t, entry.dir⟩ entry
      .ok (d.conTabla t (·.addToTimeoutLists nueva))
  | .nuevo antes despues =>
      if (d.tablas t).activeCount = flowTableMaxEntries then
        .error ⟨.flowModFailed, .fmfcTableFull⟩
      else
        let r := d.flowEntryCreate env t mod arr now
        let d := r.1.conTabla t (·.inserta antes r.2 despues)
        .ok (d.conTabla t (·.addToTimeoutLists r.2))

/-- The loop of `flow_table_modify` from some entry on, with the groups, which hear of it. -/
def modifyFrom (env : Entorno Mt Ac P) (t : Fin pipelineTables) (mod : FlowMod Mt Ac)
    (arr : Arreglo Ac) (strict : Bool) :
    List (Entrada Mt Ac) → RefTable (Bucket Ac) → List (Entrada Mt Ac) × RefTable (Bucket Ac)
  | [], groups => ([], groups)
  | entry :: rest, groups =>
      if flowEntryMatches env.toOpenFlow entry.toFlowEntry mod strict true then
        let nueva := entry.modifica env mod arr
        let r := modifyFrom env t mod arr strict rest
          ((groups.delRefs ⟨t, entry.dir⟩ entry.groupRefs).addRefs ⟨t, entry.dir⟩ nueva.groupRefs)
        (nueva :: r.1, r.2)
      else
        let r := modifyFrom env t mod arr strict rest groups
        (entry :: r.1, r.2)

/-- The arrays that the loop of `flow_table_modify` frees, one entry after the other: each entry
    gets the array of the message, and its own goes. -/
def modifyLibera (env : Entorno Mt Ac P) (mod : FlowMod Mt Ac) (strict : Bool)
    (entries : List (Entrada Mt Ac)) : List Nat :=
  (entries.filter fun entry =>
    flowEntryMatches env.toOpenFlow entry.toFlowEntry mod strict true).map (·.instructions.dir)

def flowTableModify (env : Entorno Mt Ac P) (t : Fin pipelineTables) (mod : FlowMod Mt Ac)
    (arr : Arreglo Ac) (strict : Bool) (d : Dp Mt Ac Bd) : Dp Mt Ac Bd :=
  let r := modifyFrom env t mod arr strict (d.tablas t).matchEntries d.groups
  { d with
    groups := r.2
    libres := modifyLibera env mod strict (d.tablas t).matchEntries ++ d.libres
    }.conTabla t fun table => { table with matchEntries := r.1 }

/-- `flow_table_delete`. -/
def flowTableDelete (env : Entorno Mt Ac P) (t : Fin pipelineTables) (mod : FlowMod Mt Ac)
    (strict : Bool) (now : Nat) (d : Dp Mt Ac Bd) : Dp Mt Ac Bd :=
  (d.tablas t).matchEntries.foldl (fun d entry =>
    if tieneSalida env.toOpenFlow entry.toFlowEntry mod &&
        flowEntryMatches env.toOpenFlow entry.toFlowEntry mod strict true then
      d.flowEntryRemove .delete now ⟨t, entry.dir⟩
    else d) d

/-- `flow_table_flow_mod`. -/
def flowTableFlowMod (env : Entorno Mt Ac P) (t : Fin pipelineTables) (mod : FlowMod Mt Ac)
    (arr : Arreglo Ac) (now : Nat) (d : Dp Mt Ac Bd) : Except OflErr (Dp Mt Ac Bd) :=
  match mod.command with
  | .add => d.flowTableAdd env t mod arr (checkOverlap mod.flags) now
  | .modify => .ok (d.flowTableModify env t mod arr false)
  | .modifyStrict => .ok (d.flowTableModify env t mod arr true)
  | .delete => .ok (d.flowTableDelete env t mod false now)
  | .deleteStrict => .ok (d.flowTableDelete env t mod true now)
  | .otro _ => .error ⟨.flowModFailed, .fmfcBadCommand⟩

/-- The first loop of `flow_table_timeout`: it ends at the first entry that stays. -/
def hardTimeouts (t : Fin pipelineTables) (now : Nat) :
    List HardNode → Dp Mt Ac Bd → Dp Mt Ac Bd
  | [], d => d
  | node :: rest, d =>
      if node.vencida now then
        hardTimeouts t now rest (d.flowEntryRemove .hardTimeout now ⟨t, node.dir⟩)
      else d

/-- `flow_entry_idle_timeout`. -/
def flowEntryIdleTimeout (t : Fin pipelineTables) (now : Nat) (d : Dp Mt Ac Bd) (dir : Nat) :
    Dp Mt Ac Bd :=
  if ((d.tablas t).entrada dir).any (·.ociosa now) then
    d.flowEntryRemove .idleTimeout now ⟨t, dir⟩
  else d

/-- `flow_table_timeout`. -/
def flowTableTimeout (t : Fin pipelineTables) (now : Nat) (d : Dp Mt Ac Bd) : Dp Mt Ac Bd :=
  let d := d.hardTimeouts t now (d.tablas t).hardEntries
  (d.tablas t).idleEntries.foldl (flowEntryIdleTimeout t now) d

end Dp

/-! ## 6. group_table.c and meter_table.c -/

/-- `OFPGC_ADD`, `OFPGC_MODIFY`, `OFPGC_DELETE`, and the same of a meter-mod. -/
inductive RefCommand where
  | add | modify | delete
  | otro (n : Nat)
  deriving DecidableEq, Repr

/-- `struct ofl_msg_group_mod`. -/
structure GroupMod (Ac : Type) where
  command : RefCommand
  groupId : Nat
  buckets : List (Bucket Ac)
  deriving DecidableEq, Repr

/-- `struct ofl_msg_meter_mod`. -/
structure MeterMod (Bd : Type) where
  command : RefCommand
  meterId : Nat
  bands : List Bd
  deriving DecidableEq, Repr

def ofpgMax : Nat := 0xffffff00

def ofpgAll : Nat := 0xfffffffc

def ofpmAll : Nat := 0xffffffff

/-- `dp_actions_validate`, with `OFPBAC_BAD_OUT_PORT` and `OFPBAC_BAD_OUT_GROUP`. -/
def dpActionsValidate (env : Entorno Mt Ac P) (groups : RefTable (Bucket Ac))
    (actions : List Ac) : Option OflErr :=
  actions.findSome? fun action =>
    if env.sinPuerto action then some ⟨.badAction, .otro 4⟩
    else
      match env.grupo action with
      | some g =>
          if g ≤ ofpgMax ∧ (groups.find g).isNone then some ⟨.badAction, .otro 9⟩ else none
      | none => none

/-- `group_entry_has_out_group`. -/
def groupEntryHasOutGroup (of : OpenFlow Mt Ac P) (entry : RefEntry (Bucket Ac)) (id : Nat) :
    Bool :=
  entry.items.any fun b => of.listHasOutGroup b.actions id

namespace Dp

/-- `group_entry_destroy` and `meter_entry_destroy`: the flow entries that refer to it go. -/
def entryDestroy (reason : Reason) (now : Nat) (refs : List FlowPtr) (d : Dp Mt Ac Bd) :
    Dp Mt Ac Bd :=
  refs.foldl (flowEntryRemove reason now) d

/-- The loop over a whole map, whose numbers come in the order `orden`. -/
def destroyAll {β : Type} (tabla : Dp Mt Ac Bd → RefTable β) (reason : Reason) (now : Nat)
    (orden : List Nat) (d : Dp Mt Ac Bd) : Dp Mt Ac Bd :=
  orden.foldl (fun d id =>
    match (tabla d).find id with
    | none => d
    | some entry => d.entryDestroy reason now entry.flowRefs) d

/-- One of these numbers has flow entries when its turn comes. -/
def conRefs {β : Type} (tabla : Dp Mt Ac Bd → RefTable β) (reason : Reason) (now : Nat) :
    List Nat → Dp Mt Ac Bd → Bool
  | [], _ => false
  | id :: orden, d =>
    match (tabla d).find id with
    | none => conRefs tabla reason now orden d
    | some entry => !entry.flowRefs.isEmpty ||
        conRefs tabla reason now orden (d.entryDestroy reason now entry.flowRefs)

/-- Behind the first of the map, whose node is freed by then, comes one with flow entries. As they
    go, `del_group_refs` and `del_meter_refs` search a map with freed nodes. -/
def recorreLibres {β : Type} (tabla : Dp Mt Ac Bd → RefTable β) (reason : Reason) (now : Nat)
    (orden : List Nat) (d : Dp Mt Ac Bd) : Bool :=
  conRefs tabla reason now orden.tail (d.destroyAll tabla reason now orden.head?.toList)

/-- `group_table_delete`, with `OFPGMFC_CHAINING_UNSUPPORTED`. -/
def groupTableDelete (env : Entorno Mt Ac P) (id : Nat) (orden : List Nat) (now : Nat)
    (d : Dp Mt Ac Bd) : Except OflErr (Dp Mt Ac Bd) :=
  if id = ofpgAll then
    .ok { d.destroyAll groups .groupDelete now orden with groups := .vacia 0 0 }
  else
    match d.groups.find id with
    | none => .ok d
    | some entry =>
        if d.groups.entries.any (groupEntryHasOutGroup env.toOpenFlow · entry.id) then
          .error (groupModFailed 5)
        else
          -- out of the map first: the flow entries do not find it any more
          .ok ({ d with groups := d.groups.retira entry }.entryDestroy .groupDelete now
            entry.flowRefs)

/-- `meter_table_delete`. -/
def meterTableDelete (id : Nat) (orden : List Nat) (now : Nat) (d : Dp Mt Ac Bd) :
    Dp Mt Ac Bd :=
  if id = ofpmAll then { d.destroyAll meters .meterDelete now orden with meters := .vacia 0 0 }
  else
    match d.meters.find id with
    | none => d
    | some entry =>
        { d with meters := d.meters.retira entry }.entryDestroy .meterDelete now entry.flowRefs

/-- `group_table_handle_group_mod`. -/
def groupTableHandleGroupMod (env : Entorno Mt Ac P) (slave : Bool) (mod : GroupMod Ac)
    (orden : List Nat) (now : Nat) (d : Dp Mt Ac Bd) : Except OflErr (Dp Mt Ac Bd) :=
  if slave then .error ⟨.badRequest, .brcIsSlave⟩
  else
    match mod.buckets.findSome? fun b => dpActionsValidate env d.groups b.actions with
    | some e => .error e
    | none =>
        match mod.command with
        | .add =>
            (groupTableAdd d.groups mod.groupId mod.buckets).map fun g => { d with groups := g }
        | .modify =>
            (groupTableModify env.grupo d.groups mod.groupId mod.buckets).map fun g =>
              { d with groups := g }
        | .delete => d.groupTableDelete env mod.groupId orden now
        | .otro _ => .error ⟨.badRequest, .otro 1⟩

/-- `meter_table_handle_meter_mod`. -/
def meterTableHandleMeterMod (slave : Bool) (mod : MeterMod Bd) (orden : List Nat) (now : Nat)
    (d : Dp Mt Ac Bd) : Except OflErr (Dp Mt Ac Bd) :=
  if slave then .error ⟨.badRequest, .brcIsSlave⟩
  else
    match mod.command with
    | .add => (meterTableAdd d.meters mod.meterId mod.bands).map fun m => { d with meters := m }
    | .modify =>
        (meterTableModify d.meters mod.meterId mod.bands).map fun m => { d with meters := m }
    | .delete => .ok (d.meterTableDelete mod.meterId orden now)
    | .otro _ => .error ⟨.badRequest, .otro 1⟩

end Dp

/-! ## 7. Events -/

/-- What happens to the tables, and when. `orden` is the order in which the map of the groups or
    of the meters is walked at that moment. -/
inductive Suceso (Mt Ac Bd P : Type) where
  | flowMod (t : Fin pipelineTables) (mod : FlowMod Mt Ac) (now : Nat)
  | timeout (t : Fin pipelineTables) (now : Nat)
  | lookup (t : Fin pipelineTables) (pkt : P) (now : Nat)
  | groupMod (slave : Bool) (mod : GroupMod Ac) (orden : List Nat) (now : Nat)
  | meterMod (slave : Bool) (mod : MeterMod Bd) (orden : List Nat) (now : Nat)

namespace Dp

/-- `dp_new`: `meter_table_create` does not write `bands_num`. -/
def create (bandsNum : UInt64) : Dp Mt Ac Bd :=
  ⟨fun _ => .vacia, .vacia 0 0, .vacia 0 bandsNum, 0, [], []⟩

/-- What a message leaves: one that is refused leaves everything as it was. -/
def tras (d : Dp Mt Ac Bd) : Except OflErr (Dp Mt Ac Bd) → Dp Mt Ac Bd
  | .error _ => d
  | .ok d' => d'

/-- One event; `none` where `orden` is not what is in the map. -/
def paso (env : Entorno Mt Ac P) (d : Dp Mt Ac Bd) : Suceso Mt Ac Bd P → Option (Dp Mt Ac Bd)
  | .flowMod t mod now =>
      let arr := ⟨d.siguiente, mod.instructions⟩
      let d := { d with siguiente := d.siguiente + 1 }
      some (d.tras (d.flowTableFlowMod env t mod arr now))
  | .timeout t now => some (d.flowTableTimeout t now)
  | .lookup t pkt now => some (d.conTabla t fun table => (table.lookup env pkt now).1)
  | .groupMod slave mod orden now =>
      if orden.isPerm d.groups.ids then
        some (d.tras (d.groupTableHandleGroupMod env slave mod orden now))
      else none
  | .meterMod slave mod orden now =>
      if orden.isPerm d.meters.ids then
        some (d.tras (d.meterTableHandleMeterMod slave mod orden now))
      else none

end Dp

end TcpPath.Udatapath
