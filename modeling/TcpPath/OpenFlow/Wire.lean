/-
  Subject:   Actions, group-mods and meter-mods on the wire: `ofl_msg_unpack` with
             `ofl_msg_unpack_group_mod`, `ofl_msg_unpack_meter_mod` and `ofl_actions_unpack`.

  * `OFPAT_EXPERIMENTER` is always refused, `dp_exp.act` is NULL.
  * An action is unpacked where it lies: `ofl_actions_unpack` takes the size of the structure from
    the bytes left and goes on by the length the action says it has, so that it may read behind
    the bytes of its instruction or bucket. What is there is `Conmutador.detras`.

  Results:   `Conmutador.unpack_grupos`: accepted group actions name no reserved group;
             `Conmutador.unpack_items`: fewer than 2 ^ 16 buckets or bands.
-/
import TcpPath.OpenFlow.Datapath
import TcpPath.Ports
import TcpPath.Util.BigEndian

namespace TcpPath.Udatapath

/-! ## 1. Actions -/

/-- `struct ofl_action_header` and what follows it, by `enum ofp_action_type`. The value of a
    set-field is given as it came; the code keeps numbers of 2, 4 and 8 bytes in host order. -/
inductive Action where
  | output (port maxLen : Nat)
  | copyTtlOut
  | copyTtlIn
  | setMplsTtl (mplsTtl : Nat)
  | decMplsTtl
  | pushVlan (ethertype : Nat)
  | popVlan
  | pushMpls (ethertype : Nat)
  | popMpls (ethertype : Nat)
  | setQueue (queueId : Nat)
  | group (groupId : Nat)
  | setNwTtl (nwTtl : Nat)
  | decNwTtl
  | setField (header : Nat) (value : Bytes)
  | pushPbb (ethertype : Nat)
  | popPbb
  deriving DecidableEq, Repr

namespace Action

/-- The number in an `OFPAT_GROUP` action. -/
def grupo : Action → Option Nat
  | .group groupId => some groupId
  | _ => none

/-- The port in an `OFPAT_OUTPUT` action. -/
def salida : Action → Option Nat
  | .output port _ => some port
  | _ => none

end Action

def ofppMax : Nat := 0xffffff00

/-- Memory, from some address on. -/
abbrev Memoria := Nat → UInt8

/-- The `n` bytes at `k`, in network byte order. -/
def leer (mem : Memoria) (k n : Nat) : Nat :=
  (List.range n).foldl (fun a i => 256 * a + (mem (k + i)).toNat) 0

/-- `if (c) return e;` -/
def rechaza (c : Prop) [Decidable c] (e : OflErr) : Except OflErr Unit :=
  if c then .error e else .ok ()

/-- `OFPET_BAD_ACTION` with a code of openflow.h. -/
def badAction (code : Nat) : OflErr := ⟨.badAction, .otro code⟩

/-- `OXM_OF_IN_PORT`, `OXM_OF_IN_PHY_PORT`, `OXM_OF_METADATA` and `OXM_OF_IPV6_EXTHDR`. -/
def sinSetField : List Nat := [0x80000004, 0x80000204, 0x80000408, 0x80004e02]

/-- The `switch` of `ofl_actions_unpack`: the action, and what it takes from the bytes left. -/
def actionBody (mem : Memoria) (len : Nat) : Except OflErr (Action × Nat) :=
  match leer mem 0 2 with
  | 0 => do
      rechaza (len < 16) ⟨.badAction, .bacBadLen⟩
      let port := leer mem 4 4
      rechaza (port = 0 ∨ (ofppMax < port ∧ port < ofppInPort) ∨ port = ofpAny) (badAction 4)
      pure (.output port (leer mem 8 2), 16)
  | 11 => pure (.copyTtlOut, 8)
  | 12 => pure (.copyTtlIn, 8)
  | 15 => pure (.setMplsTtl (leer mem 4 1), 8)
  | 16 => pure (.decMplsTtl, 8)
  | 17 => do
      let ethertype := leer mem 4 2
      rechaza (ethertype ≠ 0x8100 ∧ ethertype ≠ 0x88a8) (badAction 5)
      pure (.pushVlan ethertype, 8)
  | 18 => pure (.popVlan, 8)
  | 19 => do
      let ethertype := leer mem 4 2
      rechaza (ethertype ≠ 0x8847 ∧ ethertype ≠ 0x8848) (badAction 5)
      pure (.pushMpls ethertype, 8)
  | 20 => pure (.popMpls (leer mem 4 2), 8)
  | 21 => pure (.setQueue (leer mem 4 4), 8)
  | 22 => do
      let groupId := leer mem 4 4
      rechaza (ofpgMax < groupId) (badAction 9)
      pure (.group groupId, 8)
  | 23 => pure (.setNwTtl (leer mem 4 1), 8)
  | 24 => pure (.decNwTtl, 8)
  | 25 => do
      let header := leer mem 4 4
      rechaza (header ∈ sinSetField) (badAction 13)
      pure (.setField header ((List.range (header % 256)).map fun i => mem (8 + i)),
        roundUp8 (leer mem 2 2))
  | 26 => do
      let ethertype := leer mem 4 2
      rechaza (ethertype ≠ 0x88e7) (badAction 5)
      pure (.pushPbb ethertype, 8)
  | 27 => pure (.popPbb, 8)
  | 0xffff => throw (badAction 2)
  | _ => throw (badAction 0)

/-- `ofl_actions_unpack`: the action, and the bytes left behind it. The structures of all actions
    but the output have the 8 bytes that are asked for at the start. -/
def oflActionsUnpack (mem : Memoria) (len : Nat) : Except OflErr (Action × Nat) := do
  rechaza (len < 8) ⟨.badAction, .bacBadLen⟩
  rechaza (len < leer mem 2 2) ⟨.badAction, .bacBadLen⟩
  rechaza (leer mem 2 2 % 8 ≠ 0) ⟨.badAction, .bacBadLen⟩
  let r ← actionBody mem len
  pure (r.1, len - r.2)

/-- `ofl_utils_count_ofp_actions`. -/
def countActions (mem : Memoria) (d dataLen : Nat) : Except OflErr Nat :=
  if dataLen < 4 then .ok 0
  else if dataLen < leer mem (d + 2) 2 ∨ leer mem (d + 2) 2 < 4 then
    .error ⟨.badAction, .bacBadLen⟩
  else
    (countActions mem (d + leer mem (d + 2) 2) (dataLen - leer mem (d + 2) 2)).map (· + 1)
termination_by dataLen

/-- The loop over the actions of an instruction or a bucket. -/
def unpackActions (mem : Memoria) : Nat → Nat → Nat → Except OflErr (List Action × Nat)
  | 0, _, len => pure ([], len)
  | n + 1, d, len => do
      let r ← oflActionsUnpack (fun k => mem (d + k)) len
      let resto ← unpackActions mem n (d + leer mem (d + 2) 2) r.2
      pure (r.1 :: resto.1, resto.2)

/-- The memory from the start of `b` on. -/
def memoriaDe (detras : Bytes → Memoria) (b : Bytes) : Memoria :=
  fun k => (b[k]?).getD (detras b k)

/-- The count and the unpacking of the actions in `b`. -/
def oflActionsUnpackAll (detras : Bytes → Memoria) (b : Bytes) :
    Except OflErr (List Action × Nat) := do
  let n ← countActions (memoriaDe detras b) 0 b.length
  unpackActions (memoriaDe detras b) n 0 b.length

/-! ## 2. What actions are accepted -/

section Acciones

variable {ε α β : Type}

theorem bind_eq_ok {x : Except ε α} {f : α → Except ε β} {b : β} :
    (x >>= f) = .ok b ↔ ∃ a, x = .ok a ∧ f a = .ok b := by
  constructor
  · intro h
    cases x with
    | error e => cases h
    | ok a => exact ⟨a, rfl, h⟩
  · rintro ⟨a, rfl, h⟩
    exact h

theorem rechaza_eq_ok {c : Prop} [Decidable c] {e : OflErr} {u : Unit} :
    rechaza c e = .ok u ↔ ¬c := by
  unfold rechaza
  by_cases hc : c
  · rw [if_pos hc]
    exact ⟨fun h => (nomatch h), fun h => absurd hc h⟩
  · rw [if_neg hc]
    exact ⟨fun _ => hc, fun _ => rfl⟩

variable {mem : Memoria} {len g : Nat} {r : List Action × Nat} {a : Action}

theorem actionBody_grupo {r : Action × Nat} (h : actionBody mem len = .ok r)
    (hr : r.1.grupo = some g) : g ≤ ofpgMax := by
  unfold actionBody at h
  split at h
  case h_11 =>
    obtain ⟨_, hle, h⟩ := bind_eq_ok.mp h
    cases h
    cases hr
    exact Nat.le_of_not_lt (rechaza_eq_ok.mp hle)
  -- no other action has a number of a group
  case h_1 =>
    obtain ⟨_, _, h⟩ := bind_eq_ok.mp h
    obtain ⟨_, _, h⟩ := bind_eq_ok.mp h
    cases h
    cases hr
  case h_6 | h_8 | h_14 | h_15 =>
    obtain ⟨_, _, h⟩ := bind_eq_ok.mp h
    cases h
    cases hr
  case h_17 | h_18 => cases h
  all_goals
    cases h
    cases hr

theorem oflActionsUnpack_grupo {r : Action × Nat} (h : oflActionsUnpack mem len = .ok r)
    (hr : r.1.grupo = some g) : g ≤ ofpgMax := by
  unfold oflActionsUnpack at h
  obtain ⟨_, _, h⟩ := bind_eq_ok.mp h
  obtain ⟨_, _, h⟩ := bind_eq_ok.mp h
  obtain ⟨_, _, h⟩ := bind_eq_ok.mp h
  obtain ⟨b, hb, h⟩ := bind_eq_ok.mp h
  cases h
  exact actionBody_grupo hb hr

theorem unpackActions_grupo {n d : Nat} (h : unpackActions mem n d len = .ok r) (ha : a ∈ r.1)
    (hg : a.grupo = some g) : g ≤ ofpgMax := by
  induction n generalizing d len r with
  | zero =>
    cases h
    cases ha
  | succ n ih =>
    rw [unpackActions] at h
    obtain ⟨x, hx, h⟩ := bind_eq_ok.mp h
    obtain ⟨resto, hresto, h⟩ := bind_eq_ok.mp h
    cases h
    rcases List.mem_cons.mp ha with rfl | ha
    · exact oflActionsUnpack_grupo hx hg
    · exact ih hresto ha

theorem oflActionsUnpackAll_grupo {detras : Bytes → Memoria} {b : Bytes}
    (h : oflActionsUnpackAll detras b = .ok r) (ha : a ∈ r.1) (hg : a.grupo = some g) :
    g ≤ ofpgMax := by
  unfold oflActionsUnpackAll at h
  obtain ⟨n, _, h⟩ := bind_eq_ok.mp h
  exact unpackActions_grupo h ha hg

end Acciones

/-! ## 3. Messages -/

/-- `struct ofl_meter_band_header` and what follows it. The `switch` of the unpacking has no case
    for other types: the pointer to the band is not written. -/
inductive MeterBand where
  | drop (rate burstSize : Nat)
  | dscpRemark (rate burstSize precLevel : Nat)
  | experimenter (rate burstSize experimenter : Nat)
  | sinEscribir
  deriving DecidableEq, Repr

/-- A message as far as it is for the tables. -/
inductive OflMsg (Mt Ac : Type) where
  | flowMod (mod : FlowMod Mt Ac)
  | groupMod (mod : GroupMod Ac)
  | meterMod (mod : MeterMod MeterBand)
  | otro
  deriving DecidableEq, Repr

def RefCommand.ofNat : Nat → RefCommand
  | 0 => .add
  | 1 => .modify
  | 2 => .delete
  | n => .otro n

section Unpack

open Lectura

variable {Mt Ac P : Type} (of : OpenFlow Mt Ac P)

/-- `ofl_utils_count_ofp_buckets` and `ofl_utils_count_ofp_meter_bands`: structures of at least
    `size` bytes, whose length is the field at `k`. -/
def countItems (k size : Nat) (hsize : 0 < size) (d : Bytes) (dataLen : Nat) : Lectura Nat :=
  if dataLen < size then pure 0
  else do
    let len ← campo d k 2
    if dataLen < len ∨ len < size then throw ⟨.badRequest, .brcBadLen⟩
    else do
      let n ← countItems k size hsize (d.drop len) (dataLen - len)
      pure (n + 1)
termination_by dataLen

/-- `ofl_structs_bucket_unpack`, without the weight and what the bucket watches. -/
def bucketUnpack (gtype : Nat) (d : Bytes) (len : Nat) : Lectura (Bucket Ac) := do
  exige (16 ≤ len) ⟨.badAction, .bacBadLen⟩
  let blen ← campo d 0 2
  exige (blen ≤ len) ⟨.badAction, .bacBadLen⟩
  let weight ← campo d 2 2
  exige (¬(gtype = 1 ∧ weight = 0)) (groupModFailed 1)
  exige (¬(gtype ≠ 1 ∧ 0 < weight)) (groupModFailed 1)
  let r ← liftM (of.actionsUnpack ((d.drop 16).take (blen - 16)))
  exige (r.2 < 8) ⟨.badRequest, .brcBadLen⟩
  pure ⟨r.1⟩

/-- `ofl_structs_meter_band_unpack`. What a type has of its own is read behind the header, whatever
    the length of the band is. -/
def meterBandUnpack (detras : Bytes → Memoria) (d : Bytes) (len : Nat) : Lectura MeterBand := do
  exige (12 ≤ len) ⟨.badAction, .bacBadLen⟩
  let rate ← campo d 4 4
  let burstSize ← campo d 8 4
  match ← campo d 0 2 with
  | 1 => pure (.drop rate burstSize)
  | 2 => pure (.dscpRemark rate burstSize (leer (memoriaDe detras d) 12 1))
  | 0xffff => pure (.experimenter rate burstSize (leer (memoriaDe detras d) 12 4))
  | _ => pure .sinEscribir

/-- The loop over the buckets or bands of a message, whose length is the field at `k`. -/
def unpackItems {β : Type} (k : Nat) (item : Bytes → Nat → Lectura β) :
    Nat → Bytes → Nat → Lectura (List β)
  | 0, _, _ => pure []
  | n + 1, d, len => do
      let x ← item d len
      let ilen ← campo d k 2
      let resto ← unpackItems k item n (d.drop ilen) (len - ilen)
      pure (x :: resto)

/-- `ofl_msg_unpack_group_mod`. The type is one byte, and `ntohs` makes 256 times as much of it:
    the test lets every type through. -/
def groupModUnpack (buf : Bytes) : Lectura (GroupMod Ac) := do
  exige (16 ≤ buf.length) ⟨.badRequest, .brcBadLen⟩
  let command ← campo buf 8 2
  exige (command ≤ 2) ⟨.badRequest, .otro 11⟩
  let type ← campo buf 10 1
  exige (¬(3 < 256 * type ∧ 256 * type < 128)) ⟨.badRequest, .otro 10⟩
  let groupId ← campo buf 12 4
  exige (¬(ofpgMax < groupId ∧ ¬(command = 2 ∧ groupId = ofpgAll))) (groupModFailed 1)
  let num ← countItems 0 16 (by decide) (buf.drop 16) (buf.length - 16)
  exige (¬(command = 2 ∧ 0 < num)) (groupModFailed 1)
  exige (¬(type = 2 ∧ num ≠ 1)) (groupModFailed 1)
  let buckets ← unpackItems 0 (bucketUnpack of type) num (buf.drop 16) (buf.length - 16)
  pure ⟨.ofNat command, groupId, buckets⟩

def ofpmMax : Nat := 0xffff0000

/-- `ofl_msg_unpack_meter_mod`. -/
def meterModUnpack (detras : Bytes → Memoria) (buf : Bytes) : Lectura (MeterMod MeterBand) := do
  exige (16 ≤ buf.length) ⟨.badRequest, .brcBadLen⟩
  let command ← campo buf 8 2
  exige (command ≤ 2) ⟨.badRequest, .otro 4⟩
  let flags ← campo buf 10 2
  exige (flags / 8 ≤ 1) ⟨.badRequest, .otro 5⟩
  let meterId ← campo buf 12 4
  exige (¬(ofpmMax < meterId ∧ ¬(command = 2 ∧ meterId = ofpmAll))) (meterModFailed 2)
  let num ← countItems 2 12 (by decide) (buf.drop 16) (buf.length - 16)
  let bands ← unpackItems 2 (meterBandUnpack detras) num (buf.drop 16) (buf.length - 16)
  pure ⟨.ofNat command, meterId, bands⟩

/-- `ofl_msg_unpack`, as far as the message is for the tables. -/
def oflMsgUnpack (detras : Bytes → Memoria) (buf : Bytes) : Lectura (OflMsg Mt Ac) := do
  exige (8 ≤ buf.length) ⟨.badRequest, .brcBadLen⟩
  let version ← campo buf 0 1
  exige (version = 4) ⟨.otro 0, .otro 0⟩
  let length ← campo buf 2 2
  exige (buf.length = length) ⟨.badRequest, .brcBadLen⟩
  match ← campo buf 1 1 with
  | 14 => .flowMod <$> flowModUnpack of buf
  | 15 => .groupMod <$> groupModUnpack of buf
  | 29 => .meterMod <$> meterModUnpack detras buf
  | _ => pure .otro

/-! ## 4. What messages are accepted -/

/-- The actions of the apply and the write instructions. -/
def accionesDe (is : List (Instruction Ac)) : List Ac :=
  is.flatMap fun
    | .applyActions actions => actions
    | .writeActions actions => actions
    | _ => []

/-- All actions of a message. -/
def OflMsg.acciones : OflMsg Mt Ac → List Ac
  | .flowMod mod => accionesDe mod.instructions
  | .groupMod mod => mod.buckets.flatMap (·.actions)
  | _ => []

/-- The buckets or bands of a message. -/
def OflMsg.itemsNum : OflMsg Mt Ac → Nat
  | .groupMod mod => mod.buckets.length
  | .meterMod mod => mod.bands.length
  | _ => 0

variable {α β : Type} {k n : Nat} {d : Bytes} {Q : Ac → Prop} {buf : Bytes}

theorem liftM_eq_pure {ε : Type} {x : Except ε α} {a : α} :
    (liftM x : ExceptT ε Option α) = pure a ↔ x = .ok a := by
  constructor
  · intro h
    cases x with
    | error e => cases h
    | ok b =>
      cases h
      rfl
  · rintro rfl
    rfl

theorem map_eq_pure {f : α → β} {x : Lectura α} {b : β} :
    (f <$> x) = pure b ↔ ∃ a, x = pure a ∧ f a = b := by
  rw [← bind_pure_comp, bind_eq_pure]
  refine exists_congr fun a => and_congr_right fun _ => ⟨pure_inj, ?_⟩
  rintro rfl
  rfl

section Acciones

variable {of} {Q : Ac → Prop}
  (hQ : ∀ b r, of.actionsUnpack b = .ok r → ∀ a ∈ r.1, Q a)
include hQ

variable {d : Bytes} {len : Nat}

theorem instructionBody_acciones {ilen : Nat} {r : Instruction Ac × Nat}
    (h : instructionBody of d ilen = pure r) : ∀ a ∈ accionesDe [r.1], Q a := by
  have hnone : accionesDe [r.1] = [] → ∀ a ∈ accionesDe [r.1], Q a := by
    intro hnil a ha
    rw [hnil] at ha
    cases ha
  unfold instructionBody at h
  obtain ⟨type, _, h⟩ := bind_eq_pure.mp h
  split at h
  case h_3 | h_4 =>
    obtain ⟨_, _, h⟩ := bind_eq_pure.mp h
    obtain ⟨x, hx, h⟩ := bind_eq_pure.mp h
    cases pure_inj h
    intro a ha
    rw [accionesDe, List.flatMap_singleton] at ha
    exact hQ _ x (liftM_eq_pure.mp hx) a ha
  case h_1 =>
    obtain ⟨_, _, h⟩ := bind_eq_pure.mp h
    obtain ⟨_, _, h⟩ := bind_eq_pure.mp h
    obtain ⟨_, _, h⟩ := bind_eq_pure.mp h
    cases pure_inj h
    exact hnone rfl
  case h_2 =>
    obtain ⟨_, _, h⟩ := bind_eq_pure.mp h
    obtain ⟨_, _, h⟩ := bind_eq_pure.mp h
    obtain ⟨_, _, h⟩ := bind_eq_pure.mp h
    cases pure_inj h
    exact hnone rfl
  case h_5 =>
    obtain ⟨_, _, h⟩ := bind_eq_pure.mp h
    cases pure_inj h
    exact hnone rfl
  case h_6 =>
    obtain ⟨_, _, h⟩ := bind_eq_pure.mp h
    obtain ⟨_, _, h⟩ := bind_eq_pure.mp h
    cases pure_inj h
    exact hnone rfl
  all_goals exact absurd h throw_ne_pure

theorem unpackInstructions_acciones {n : Nat} {is : List (Instruction Ac)}
    (h : unpackInstructions of n d len = pure is) : ∀ a ∈ accionesDe is, Q a := by
  induction n generalizing d len is with
  | zero =>
    cases pure_inj h
    exact fun a ha => (nomatch ha)
  | succ n ih =>
    rw [unpackInstructions] at h
    obtain ⟨inst, hinst, h⟩ := bind_eq_pure.mp h
    obtain ⟨_, _, h⟩ := bind_eq_pure.mp h
    obtain ⟨resto, hresto, h⟩ := bind_eq_pure.mp h
    cases pure_inj h
    unfold instructionsUnpack at hinst
    iterate 3 obtain ⟨_, _, hinst⟩ := bind_eq_pure.mp hinst
    obtain ⟨r, hr, hinst⟩ := bind_eq_pure.mp hinst
    obtain ⟨_, _, hinst⟩ := bind_eq_pure.mp hinst
    cases pure_inj hinst
    have hsplit : accionesDe (r.1 :: resto) = accionesDe [r.1] ++ accionesDe resto := by
      unfold accionesDe
      rw [List.flatMap_cons, List.flatMap_singleton]
    intro a ha
    rw [hsplit] at ha
    rcases List.mem_append.mp ha with ha | ha
    · exact instructionBody_acciones hQ hr a ha
    · exact ih hresto a ha

theorem flowModUnpack_acciones {buf : Bytes} {mod : FlowMod Mt Ac}
    (h : flowModUnpack of buf = pure mod) : ∀ a ∈ accionesDe mod.instructions, Q a := by
  unfold flowModUnpack at h
  -- the length, the table, and the ten fields of the fixed part
  iterate 13 obtain ⟨_, _, h⟩ := bind_eq_pure.mp h
  obtain ⟨m, _, h⟩ := bind_eq_pure.mp h
  obtain ⟨num, _, h⟩ := bind_eq_pure.mp h
  obtain ⟨is, his, h⟩ := bind_eq_pure.mp h
  cases pure_inj h
  exact unpackInstructions_acciones hQ his

theorem bucketUnpack_acciones {gtype : Nat} {b : Bucket Ac}
    (h : bucketUnpack of gtype d len = pure b) : ∀ a ∈ b.actions, Q a := by
  unfold bucketUnpack at h
  iterate 6 obtain ⟨_, _, h⟩ := bind_eq_pure.mp h
  obtain ⟨r, hr, h⟩ := bind_eq_pure.mp h
  obtain ⟨_, _, h⟩ := bind_eq_pure.mp h
  cases pure_inj h
  exact hQ _ r (liftM_eq_pure.mp hr)

end Acciones

theorem unpackItems_spec {item : Bytes → Nat → Lectura β} {Q : β → Prop}
    (hQ : ∀ d len x, item d len = pure x → Q x) {len : Nat} {l : List β}
    (h : unpackItems k item n d len = pure l) : (∀ x ∈ l, Q x) ∧ l.length = n := by
  induction n generalizing d len l with
  | zero =>
    cases pure_inj h
    exact ⟨fun _ hx => (nomatch hx), rfl⟩
  | succ n ih =>
    rw [unpackItems] at h
    obtain ⟨x, hx, h⟩ := bind_eq_pure.mp h
    obtain ⟨_, _, h⟩ := bind_eq_pure.mp h
    obtain ⟨resto, hresto, h⟩ := bind_eq_pure.mp h
    cases pure_inj h
    obtain ⟨hall, hlen⟩ := ih hresto
    exact ⟨List.forall_mem_cons.mpr ⟨hQ _ _ x hx, hall⟩, congrArg (· + 1) hlen⟩

theorem countItems_le {size : Nat} {hsize : 0 < size} {dataLen : Nat}
    (h : countItems k size hsize d dataLen = pure n) : n ≤ dataLen := by
  induction dataLen using Nat.strong_induction_on generalizing d n with
  | _ dataLen ih =>
    rw [countItems] at h
    split at h
    · cases pure_inj h
      exact Nat.zero_le _
    · rename_i hge
      obtain ⟨len, _, h⟩ := bind_eq_pure.mp h
      split at h
      · exact absurd h throw_ne_pure
      · rename_i hlen
        obtain ⟨m, hm, h⟩ := bind_eq_pure.mp h
        cases pure_inj h
        have hmle := ih (dataLen - len) (by omega) hm
        omega

theorem groupModUnpack_spec (hQ : ∀ b r, of.actionsUnpack b = .ok r → ∀ a ∈ r.1, Q a)
    {mod : GroupMod Ac} (h : groupModUnpack of buf = pure mod) :
    (∀ b ∈ mod.buckets, ∀ a ∈ b.actions, Q a) ∧ mod.buckets.length ≤ buf.length := by
  unfold groupModUnpack at h
  iterate 7 obtain ⟨_, _, h⟩ := bind_eq_pure.mp h
  obtain ⟨num, hnum, h⟩ := bind_eq_pure.mp h
  iterate 2 obtain ⟨_, _, h⟩ := bind_eq_pure.mp h
  obtain ⟨buckets, hb, h⟩ := bind_eq_pure.mp h
  cases pure_inj h
  obtain ⟨hall, hlen⟩ := unpackItems_spec (fun _ _ _ hx => bucketUnpack_acciones hQ hx) hb
  have hle := countItems_le hnum
  exact ⟨hall, by show buckets.length ≤ _; omega⟩

theorem meterModUnpack_length {detras : Bytes → Memoria} {mod : MeterMod MeterBand}
    (h : meterModUnpack detras buf = pure mod) : mod.bands.length ≤ buf.length := by
  unfold meterModUnpack at h
  iterate 7 obtain ⟨_, _, h⟩ := bind_eq_pure.mp h
  obtain ⟨num, hnum, h⟩ := bind_eq_pure.mp h
  obtain ⟨bands, hb, h⟩ := bind_eq_pure.mp h
  cases pure_inj h
  obtain ⟨_, hlen⟩ := unpackItems_spec (Q := fun _ => True) (fun _ _ _ _ => trivial) hb
  have hle := countItems_le hnum
  show bands.length ≤ _
  omega

theorem campo_lt {v : Nat} (h : campo d k n = pure v) : v < 256 ^ n := by
  unfold campo at h
  split at h
  · cases h
    calc ((d.drop k).take n).foldl (fun a x => 256 * a + x.toNat) 0
        < 256 ^ ((d.drop k).take n).length := Util.BigEndian.read_lt _
      _ ≤ 256 ^ n := Nat.pow_le_pow_right (by decide) (List.length_take_le _ _)
  · cases h

/-- **What `ofl_msg_unpack` checks**, as far as the tables rely on it: what holds for every action
    that is unpacked holds for those of the message, and it has fewer than 2 ^ 16 buckets or
    bands. -/
theorem oflMsgUnpack_spec (hQ : ∀ b r, of.actionsUnpack b = .ok r → ∀ a ∈ r.1, Q a)
    {detras : Bytes → Memoria} {msg : OflMsg Mt Ac} (h : oflMsgUnpack of detras buf = pure msg) :
    (∀ a ∈ msg.acciones, Q a) ∧ msg.itemsNum < 2 ^ 16 := by
  unfold oflMsgUnpack at h
  iterate 3 obtain ⟨_, _, h⟩ := bind_eq_pure.mp h
  obtain ⟨length, hlen, h⟩ := bind_eq_pure.mp h
  obtain ⟨_, heq, h⟩ := bind_eq_pure.mp h
  obtain ⟨type, _, h⟩ := bind_eq_pure.mp h
  have hbuf : buf.length < 2 ^ 16 := exige_eq_pure.mp heq ▸ campo_lt hlen
  split at h
  · obtain ⟨mod, hmod, rfl⟩ := map_eq_pure.mp h
    exact ⟨flowModUnpack_acciones hQ hmod, by show 0 < 2 ^ 16; decide⟩
  · obtain ⟨mod, hmod, rfl⟩ := map_eq_pure.mp h
    obtain ⟨hall, hle⟩ := groupModUnpack_spec of hQ hmod
    refine ⟨fun a ha => ?_, hle.trans_lt hbuf⟩
    obtain ⟨b, hb, ha⟩ := List.mem_flatMap.mp ha
    exact hall b hb a ha
  · obtain ⟨mod, hmod, rfl⟩ := map_eq_pure.mp h
    exact ⟨fun _ ha => (nomatch ha), (meterModUnpack_length hmod).trans_lt hbuf⟩
  · cases pure_inj h
    exact ⟨fun _ ha => (nomatch ha), by show 0 < 2 ^ 16; decide⟩

end Unpack

/-! ## 5. The switch -/

/-- The code around the tables with the actions of `ofl_actions_unpack`. -/
structure Conmutador (Mt P : Type) where
  /-- Matches and packets; what concerns the unpacking and the searching of actions is given
      here. -/
  of : OpenFlow Mt Action P
  /-- The memory from the start of the actions of an instruction or a bucket, or of a band, on. -/
  detras : Bytes → Memoria
  hayPuerto : Nat → Bool
  size : P → Nat

namespace Conmutador

variable {Mt P : Type}

def entorno (c : Conmutador Mt P) : Entorno Mt Action P where
  toOpenFlow :=
    { c.of with
      actionsUnpack := oflActionsUnpackAll c.detras
      listHasOutPort := fun actions port => actions.any (·.salida == some port)
      listHasOutGroup := fun actions g => actions.any (·.grupo == some g) }
  grupo := Action.grupo
  sinPuerto
    | .output port _ => decide (port ≤ ofppMax) && !c.hayPuerto port
    | _ => false
  size := c.size
  listHasOutGroup_eq _ _ := rfl

/-- `ofl_msg_unpack` of the switch. -/
def unpack (c : Conmutador Mt P) (buf : Bytes) : Lectura (OflMsg Mt Action) :=
  oflMsgUnpack c.entorno.toOpenFlow c.detras buf

variable {c : Conmutador Mt P} {buf : Bytes} {msg : OflMsg Mt Action}

/-- **No accepted message has a group action with a number above `OFPG_MAX`.** -/
theorem unpack_grupos (h : c.unpack buf = pure msg) :
    ∀ a ∈ msg.acciones, ∀ g, a.grupo = some g → g ≤ ofpgMax :=
  (oflMsgUnpack_spec _ (Q := fun a => ∀ g, a.grupo = some g → g ≤ ofpgMax)
    (fun _ _ hr _ ha _ hg => oflActionsUnpackAll_grupo hr ha hg) h).1

/-- **The buckets or bands of an accepted message are fewer than 2 ^ 16.** -/
theorem unpack_items (h : c.unpack buf = pure msg) : msg.itemsNum < 2 ^ 16 :=
  (oflMsgUnpack_spec _ (Q := fun _ => True) (fun _ _ _ _ _ => trivial) h).2

end Conmutador

end TcpPath.Udatapath
