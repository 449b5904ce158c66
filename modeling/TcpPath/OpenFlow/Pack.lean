/-
  Subject:   Instructions and actions back on the wire: `ofl_structs_instructions_pack` with
             `ofl_actions_pack` and the lengths `ofl_structs_instructions_ofp_total_len`,
             against the unpacking of FlowMod.lean and Wire.lean.

  * In memory the value of a set-field of 2, 4 or 8 bytes is a number of the host, except for the
    addresses of IPv4 and ARP (`valorHost`). Actions are given here as they are in memory.

  Results:   `instructions_round_trip`: what was accepted is packed and comes back.
-/
import TcpPath.OpenFlow.Messages
import TcpPath.Util.BigEndian

namespace TcpPath.Udatapath

open Util.BigEndian List

/-! ## 1. Code -/

/-- The byte order of the machine. -/
inductive Host where
  | little
  | big
  deriving DecidableEq, Repr

/-- `ntohs`, `ntohl`, `ntoh64` and the other way round, on the bytes of a number. -/
def Host.ntoh : Host → Bytes → Bytes
  | .little, b => b.reverse
  | .big, b => b

def oxmLength (header : Nat) : Nat := header % 256

def oxmField (header : Nat) : Nat := header / 512 % 128

/-- Between the value of a set-field on the wire and that in memory, by the `switch` of
    `ofl_actions_pack` and `ofl_actions_unpack`. -/
def valorHost (host : Host) (header : Nat) (value : Bytes) : Bytes :=
  match oxmLength header with
  | 2 | 8 => host.ntoh value
  | 4 => if oxmField header ∈ [11, 12, 22, 23] then value else host.ntoh value
  | _ => value

/-- The lengths the `switch` has a case for. A value of another length is not written. -/
def anchosOxm : List Nat := [1, 2, 3, 4, 6, 8, 16]

namespace Action

/-- `ofl_actions_ofp_len`. -/
def oflActionsOfpLen : Action → Nat
  | .output _ _ => 16
  | .setField header _ => 8 + roundUp8 (oxmLength header)
  | _ => 8

/-- `ofl_actions_pack`; `none` where bytes are left unwritten. -/
def oflActionsPack (host : Host) : Action → Option Bytes
  | .output port maxLen => some (fields [(2, 0), (2, 16), (4, port), (2, maxLen), (6, 0)])
  | .copyTtlOut => some (fields [(2, 11), (2, 8), (4, 0)])
  | .copyTtlIn => some (fields [(2, 12), (2, 8), (4, 0)])
  | .setMplsTtl mplsTtl => some (fields [(2, 15), (2, 8), (1, mplsTtl), (3, 0)])
  | .decMplsTtl => some (fields [(2, 16), (2, 8), (4, 0)])
  | .pushVlan ethertype => some (fields [(2, 17), (2, 8), (2, ethertype), (2, 0)])
  | .popVlan => some (fields [(2, 18), (2, 8), (4, 0)])
  | .pushMpls ethertype => some (fields [(2, 19), (2, 8), (2, ethertype), (2, 0)])
  | .popMpls ethertype => some (fields [(2, 20), (2, 8), (2, ethertype), (2, 0)])
  | .setQueue queueId => some (fields [(2, 21), (2, 8), (4, queueId)])
  | .group groupId => some (fields [(2, 22), (2, 8), (4, groupId)])
  | .setNwTtl nwTtl => some (fields [(2, 23), (2, 8), (1, nwTtl), (3, 0)])
  | .decNwTtl => some (fields [(2, 24), (2, 8), (4, 0)])
  | .setField header value =>
      if oxmLength header ∈ anchosOxm then
        some (fields [(2, 25), (2, 8 + roundUp8 (oxmLength header)), (4, header)] ++
          valorHost host header value ++
          List.replicate (roundUp8 (oxmLength header) - oxmLength header) 0)
      else none
  | .pushPbb ethertype => some (fields [(2, 26), (2, 8), (2, ethertype), (2, 0)])
  | .popPbb => some (fields [(2, 27), (2, 8), (4, 0)])

def enMemoria (host : Host) : Action → Action
  | .setField header value => .setField header (valorHost host header value)
  | a => a

end Action

/-- `ofl_actions_ofp_total_len`. -/
def oflActionsOfpTotalLen (actions : List Action) : Nat :=
  (actions.map Action.oflActionsOfpLen).sum

/-- The loop over the actions of an instruction. -/
def packActions (host : Host) : List Action → Option Bytes
  | [] => some []
  | a :: as => do
      let w ← a.oflActionsPack host
      let ws ← packActions host as
      return w ++ ws

/-- `ofl_structs_instructions_ofp_len`. -/
def instructionsOfpLen : Instruction Action → Nat
  | .writeMetadata _ _ => 24
  | .writeActions actions => 8 + oflActionsOfpTotalLen actions
  | .applyActions actions => 8 + oflActionsOfpTotalLen actions
  | _ => 8

/-- `ofl_structs_instructions_pack`. -/
def instructionsPack (host : Host) : Instruction Action → Option Bytes
  | .gotoTable tableId => some (fields [(2, 1), (2, 8), (1, tableId), (3, 0)])
  | .writeMetadata metadata mask =>
      some (fields [(2, 2), (2, 24), (4, 0), (8, metadata), (8, mask)])
  | .writeActions actions =>
      (packActions host actions).map
        (fields [(2, 3), (2, 8 + oflActionsOfpTotalLen actions), (4, 0)] ++ ·)
  | .applyActions actions =>
      (packActions host actions).map
        (fields [(2, 4), (2, 8 + oflActionsOfpTotalLen actions), (4, 0)] ++ ·)
  | .clearActions => some (fields [(2, 5), (2, 8), (4, 0)])
  | .meter meterId => some (fields [(2, 6), (2, 8), (4, meterId)])

/-- `ofl_structs_instructions_ofp_total_len`. -/
def instructionsOfpTotalLen (is : List (Instruction Action)) : Nat :=
  (is.map instructionsOfpLen).sum

/-- The loop over the instructions of a message. -/
def packInstructions (host : Host) : List (Instruction Action) → Option Bytes
  | [] => some []
  | i :: is => do
      let w ← instructionsPack host i
      let ws ← packInstructions host is
      return w ++ ws

/-- The unpacking of instructions with actions as they are in memory. -/
def enMemoria {Mt P : Type} (of : OpenFlow Mt Action P) (host : Host) (detras : Bytes → Memoria) :
    OpenFlow Mt Action P :=
  { of with
    actionsUnpack := fun b =>
      (oflActionsUnpackAll detras b).map fun r => (r.1.map (·.enMemoria host), r.2) }

/-- The loop of `unpackInstructions`, with the bytes that are left. -/
def unpackInstructionsResto {Mt Ac P : Type} (of : OpenFlow Mt Ac P) :
    Nat → Bytes → Nat → Lectura (List (Instruction Ac) × Nat)
  | 0, _, len => pure ([], len)
  | n + 1, d, len => do
      let inst ← instructionsUnpack of d len
      let ilen ← Lectura.campo d 2 2
      let resto ← unpackInstructionsResto of n (d.drop ilen) (len - ilen)
      pure (inst :: resto.1, resto.2)

variable {Mt P : Type} {mem : Memoria} {fs : List (Nat × Nat)} {n : Nat} {a : Action}
  {as : List Action}

theorem unpackInstructions_resto {Ac : Type} (of : OpenFlow Mt Ac P) (n : Nat) (d : Bytes)
    (len : Nat) :
    unpackInstructions of n d len = Prod.fst <$> unpackInstructionsResto of n d len := by
  induction n generalizing d len with
  | zero => rfl
  | succ n ih =>
    rw [unpackInstructions, unpackInstructionsResto, map_bind]
    refine bind_congr fun inst => ?_
    rw [map_bind]
    refine bind_congr fun ilen => ?_
    rw [ih, map_bind, bind_map_left]
    rfl

/-! ## 2. What the unpacking accepts -/

/-- An action with arguments the unpacking accepts, of the widths of its structure. -/
def Action.Valida : Action → Prop
  | .output port maxLen =>
      port < 2 ^ 32 ∧ maxLen < 2 ^ 16 ∧
        ¬(port = 0 ∨ (ofppMax < port ∧ port < ofppInPort) ∨ port = ofpAny)
  | .setMplsTtl ttl => ttl < 256
  | .setNwTtl ttl => ttl < 256
  | .pushVlan ethertype => ethertype = 0x8100 ∨ ethertype = 0x88a8
  | .pushMpls ethertype => ethertype = 0x8847 ∨ ethertype = 0x8848
  | .pushPbb ethertype => ethertype = 0x88e7
  | .popMpls ethertype => ethertype < 2 ^ 16
  | .setQueue queueId => queueId < 2 ^ 32
  | .group groupId => groupId ≤ ofpgMax
  | .setField header value =>
      header < 2 ^ 32 ∧ header ∉ sinSetField ∧ oxmLength header ∈ anchosOxm ∧
        value.length = oxmLength header
  | _ => True

instance (a : Action) : Decidable a.Valida := by
  unfold Action.Valida
  split <;> infer_instance

/-- The same of an instruction. -/
def InstruccionValida : Instruction Action → Prop
  | .gotoTable tableId => tableId < pipelineTables
  | .writeMetadata metadata mask => metadata < 2 ^ 64 ∧ mask < 2 ^ 64
  | .writeActions actions => ∀ a ∈ actions, a.Valida
  | .applyActions actions => ∀ a ∈ actions, a.Valida
  | .clearActions => True
  | .meter meterId => meterId < 2 ^ 32

instance (i : Instruction Action) : Decidable (InstruccionValida i) := by
  unfold InstruccionValida
  split <;> infer_instance

/-! ## 3. Reading what was written -/

/-- `w` lies at the start of a memory. -/
def Empieza (mem : Memoria) (w : Bytes) : Prop := ∀ k (h : k < w.length), mem k = w[k]

namespace Empieza

variable {mem : Memoria} {v w : Bytes}

theorem left (h : Empieza mem (v ++ w)) : Empieza mem v := by
  intro k hk
  rw [h k (by rw [length_append]; omega), getElem_append_left hk]

theorem right (h : Empieza mem (v ++ w)) : Empieza (fun k => mem (v.length + k)) w := by
  intro k hk
  show mem (v.length + k) = _
  rw [h (v.length + k) (by rw [length_append]; omega), getElem_append_right (by omega)]
  congr 1
  omega

theorem map_range (h : Empieza mem w) {k n : Nat} (hk : k + n ≤ w.length) :
    ((List.range n).map fun i => mem (k + i)) = (w.drop k).take n := by
  refine ext_getElem (by simp; omega) fun i hi _ => ?_
  have hin : i < n := by simpa using hi
  rw [getElem_map, getElem_range, getElem_take, getElem_drop]
  exact h (k + i) (by omega)

theorem campo {fs : List (Nat × Nat)} (h : Empieza mem (fields fs)) (j : Nat) {k n v : Nat}
    (hj : fs[j]? = some (n, v)) (hk : width (fs.take j) = k) (hv : v < 256 ^ n) :
    leer mem k n = v := by
  have hle : k + n ≤ (fields fs).length := by
    rw [length_fields]
    exact width_le hj hk
  have hread := read_fields hj hk hv []
  rw [append_nil, ← h.map_range hle, Util.BigEndian.read, foldl_map] at hread
  exact hread

end Empieza

theorem leer_add (mem : Memoria) (d k n : Nat) :
    leer (fun k => mem (d + k)) k n = leer mem (d + k) n := by
  simp only [leer, Nat.add_assoc]

theorem empieza_cero {w : Bytes} (h : Empieza mem w) : Empieza (fun k => mem (0 + k)) w := by
  simpa only [Nat.zero_add] using h

theorem empieza_memoriaDe (detras : Bytes → Memoria) (b : Bytes) :
    Empieza (memoriaDe detras b) b := by
  intro k hk
  rw [memoriaDe, getElem?_eq_getElem hk]
  rfl

theorem campo_fields (j : Nat) {k v : Nat} (rest : Bytes) (hj : fs[j]? = some (n, v))
    (hk : width (fs.take j) = k) (hv : v < 256 ^ n) :
    Lectura.campo (fields fs ++ rest) k n = pure v := by
  have hle : k + n ≤ (fields fs ++ rest).length := by
    have := width_le hj hk
    rw [length_append, length_fields]
    omega
  rw [Lectura.campo, if_pos hle]
  exact congrArg (fun v => ExceptT.mk (some (Except.ok v))) (read_fields hj hk hv rest)

/-! ## 4. One action -/

theorem rechaza_no {c : Prop} [Decidable c] {e : OflErr} (h : ¬c) : rechaza c e = .ok () :=
  rechaza_eq_ok.mpr h

theorem roundUp8_mod (n : Nat) : roundUp8 n % 8 = 0 := Nat.mul_mod_left ..

theorem le_roundUp8 (n : Nat) : n ≤ roundUp8 n := by
  unfold roundUp8
  omega

theorem roundUp8_of_mod (h : n % 8 = 0) : roundUp8 n = n := by
  unfold roundUp8
  omega

theorem roundUp8_lt (n : Nat) : roundUp8 n < n + 8 := by
  unfold roundUp8
  omega

theorem valorHost_cases (host : Host) (header : Nat) :
    (∀ value, valorHost host header value = value) ∨
      ∀ value, valorHost host header value = host.ntoh value := by
  unfold valorHost
  split
  · exact .inr fun _ => rfl
  · exact .inr fun _ => rfl
  · split
    · exact .inl fun _ => rfl
    · exact .inr fun _ => rfl
  · exact .inl fun _ => rfl

theorem length_valorHost (host : Host) (header : Nat) (value : Bytes) :
    (valorHost host header value).length = value.length := by
  rcases valorHost_cases host header with h | h
  · rw [h]
  · rw [h]
    cases host with
    | little => exact length_reverse
    | big => rfl

theorem valorHost_valorHost (host : Host) (header : Nat) (value : Bytes) :
    valorHost host header (valorHost host header value) = value := by
  rcases valorHost_cases host header with h | h
  · rw [h, h]
  · rw [h, h]
    cases host with
    | little => exact reverse_reverse value
    | big => rfl

/-- What the round trip of one action is: bytes of the announced length, in whole words, which are
    unpacked to the action wherever they lie in memory. -/
structure Action.IdaYVuelta (host : Host) (a : Action) (w : Bytes) : Prop where
  pack : a.oflActionsPack host = some w
  length : w.length = a.oflActionsOfpLen
  largo : 8 ≤ w.length
  len : ∀ {mem}, Empieza mem w → leer mem 2 2 = w.length
  unpack : ∀ {mem len}, Empieza mem w → w.length ≤ len →
    oflActionsUnpack mem len = .ok (a.enMemoria host, len - w.length)

theorem oflActionsUnpack_eq {len : Nat} {r : Action × Nat} (hn : leer mem 2 2 = n) (h8 : 8 ≤ n)
    (hmod : n % 8 = 0) (hle : n ≤ len) (hbody : actionBody mem len = .ok (r.1, n)) :
    oflActionsUnpack mem len = .ok (r.1, len - n) := by
  unfold oflActionsUnpack
  rw [hn]
  refine bind_eq_ok.mpr ⟨(), rechaza_no (by omega), ?_⟩
  refine bind_eq_ok.mpr ⟨(), rechaza_no (by omega), ?_⟩
  refine bind_eq_ok.mpr ⟨(), rechaza_no (by omega), ?_⟩
  exact bind_eq_ok.mpr ⟨_, hbody, rfl⟩

theorem Action.IdaYVuelta.of_fields {host : Host} (n : Nat)
    (hpack : a.oflActionsPack host = some (fields fs)) (hlen : a.oflActionsOfpLen = n)
    (hw : width fs = n) (h1 : fs[1]? = some (2, n)) (hk : width (fs.take 1) = 2) (h8 : 8 ≤ n)
    (hmod : n % 8 = 0) (hn : n < 256 ^ 2) (hbody : ∀ {mem len}, Empieza mem (fields fs) → n ≤ len →
      actionBody mem len = .ok (a.enMemoria host, n)) : a.IdaYVuelta host (fields fs) := by
  have hl : (fields fs).length = n := (length_fields fs).trans hw
  refine ⟨hpack, hl.trans hlen.symm, hl ▸ h8, fun hm => ?_, fun hm hle => ?_⟩
  · rw [hl]
    exact hm.campo 1 h1 hk hn
  · rw [hl] at hle ⊢
    exact oflActionsUnpack_eq (r := (a.enMemoria host, n)) (hm.campo 1 h1 hk hn) h8 hmod hle
      (hbody hm hle)

theorem setField_idaYVuelta (host : Host) {header : Nat} {value : Bytes}
    (hv : (Action.setField header value).Valida) :
    ∃ w, (Action.setField header value).IdaYVuelta host w := by
  obtain ⟨hheader, hset, hancho, hlen⟩ := hv
  have hle := le_roundUp8 (oxmLength header)
  have hlt := roundUp8_lt (oxmLength header)
  have hmod := roundUp8_mod (oxmLength header)
  have h256 : oxmLength header < 256 := Nat.mod_lt _ (by decide)
  generalize hpad : roundUp8 (oxmLength header) = n at hle hlt hmod
  let w := fields [(2, 25), (2, 8 + n), (4, header)] ++
    (valorHost host header value ++ List.replicate (n - oxmLength header) 0)
  have hfs : ∀ {mem}, Empieza mem w →
      leer mem 0 2 = 25 ∧ leer mem 2 2 = 8 + n ∧ leer mem 4 4 = header ∧
        ((List.range (header % 256)).map fun i => mem (8 + i)) = valorHost host header value := by
    intro mem hm
    refine ⟨hm.left.campo 0 rfl rfl (by decide), hm.left.campo 1 rfl rfl (by omega),
      hm.left.campo 2 rfl rfl hheader, ?_⟩
    have hval := hm.right.left.map_range (k := 0) (n := header % 256)
      (by rw [length_valorHost, hlen, Nat.zero_add]; rfl)
    rw [drop_zero, take_of_length_le
      (by rw [length_valorHost, hlen]; rfl)] at hval
    simp only [length_fields, Nat.zero_add] at hval
    exact hval
  have hwl : w.length = 8 + n := by
    simp only [w]
    simp only [length_append, length_fields, length_valorHost, hlen, length_replicate,
      width, map_cons, map_nil, sum_cons, sum_nil]
    omega
  refine ⟨w, ?_, ?_, ?_, fun hm => ?_, fun hm hlen' => ?_⟩
  · rw [Action.oflActionsPack, if_pos hancho, hpad, append_assoc]
  · rw [hwl, Action.oflActionsOfpLen, hpad]
  · rw [hwl]
    omega
  · rw [hwl]
    exact (hfs hm).2.1
  · rw [hwl] at hlen' ⊢
    obtain ⟨h0, h2, h4, hval⟩ := hfs hm
    refine oflActionsUnpack_eq (r := ((Action.setField header value).enMemoria host, 8 + n)) h2
      (by omega) (by omega) hlen' ?_
    simp only [actionBody, h0, h2, h4, hval]
    refine bind_eq_ok.mpr ⟨(), rechaza_no hset, ?_⟩
    rw [roundUp8_of_mod (by omega)]
    rfl

/-- **One action**: every action the unpacking accepts comes back. -/
theorem Action.unpack_pack (host : Host) (ha : a.Valida) : ∃ w, a.IdaYVuelta host w := by
  cases a with
  | output port maxLen =>
    obtain ⟨hport, hmax, hno⟩ := ha
    refine ⟨_, .of_fields 16 rfl rfl rfl rfl rfl (by decide) rfl (by decide) fun hm hle => ?_⟩
    have h0 : leer _ 0 2 = 0 := hm.campo 0 rfl rfl (by decide)
    have h4 : leer _ 4 4 = port := hm.campo 2 rfl rfl hport
    have h8 : leer _ 8 2 = maxLen := hm.campo 3 rfl rfl hmax
    simp only [actionBody, h0, h4, h8]
    refine bind_eq_ok.mpr ⟨(), rechaza_no (by omega), ?_⟩
    exact bind_eq_ok.mpr ⟨(), rechaza_no hno, rfl⟩
  | setField header value => exact setField_idaYVuelta host ha
  | setMplsTtl ttl | setNwTtl ttl =>
    refine ⟨_, .of_fields 8 rfl rfl rfl rfl rfl (by decide) rfl (by decide) fun hm _ => ?_⟩
    have h4 : leer _ 4 1 = ttl := hm.campo 2 rfl rfl ha
    rw [actionBody, show leer _ 0 2 = _ from hm.campo 0 rfl rfl (by decide), h4]
    rfl
  | pushVlan ethertype | pushMpls ethertype | pushPbb ethertype =>
    have hlt : ethertype < 256 ^ 2 := by simp only [Action.Valida] at ha; omega
    refine ⟨_, .of_fields 8 rfl rfl rfl rfl rfl (by decide) rfl (by decide) fun hm _ => ?_⟩
    have h4 : leer _ 4 2 = ethertype := hm.campo 2 rfl rfl hlt
    rw [actionBody, show leer _ 0 2 = _ from hm.campo 0 rfl rfl (by decide), h4]
    exact bind_eq_ok.mpr ⟨(), rechaza_no (by simp only [Action.Valida] at ha; omega), rfl⟩
  | popMpls ethertype =>
    refine ⟨_, .of_fields 8 rfl rfl rfl rfl rfl (by decide) rfl (by decide) fun hm _ => ?_⟩
    have h4 : leer _ 4 2 = ethertype := hm.campo 2 rfl rfl ha
    rw [actionBody, show leer _ 0 2 = _ from hm.campo 0 rfl rfl (by decide), h4]
    rfl
  | setQueue queueId =>
    refine ⟨_, .of_fields 8 rfl rfl rfl rfl rfl (by decide) rfl (by decide) fun hm _ => ?_⟩
    have h4 : leer _ 4 4 = queueId := hm.campo 2 rfl rfl ha
    rw [actionBody, show leer _ 0 2 = _ from hm.campo 0 rfl rfl (by decide), h4]
    rfl
  | group groupId =>
    have hlt : groupId < 256 ^ 4 := lt_of_le_of_lt ha (by decide)
    refine ⟨_, .of_fields 8 rfl rfl rfl rfl rfl (by decide) rfl (by decide) fun hm _ => ?_⟩
    have h4 : leer _ 4 4 = groupId := hm.campo 2 rfl rfl hlt
    rw [actionBody, show leer _ 0 2 = _ from hm.campo 0 rfl rfl (by decide), h4]
    exact bind_eq_ok.mpr ⟨(), rechaza_no (Nat.not_lt.mpr ha), rfl⟩
  | copyTtlOut | copyTtlIn | decMplsTtl | popVlan | decNwTtl | popPbb =>
    refine ⟨_, .of_fields 8 rfl rfl rfl rfl rfl (by decide) rfl (by decide) fun hm _ => ?_⟩
    rw [actionBody, show leer _ 0 2 = _ from hm.campo 0 rfl rfl (by decide)]
    rfl

/-! ## 5. The actions of an instruction -/

theorem unpackActions_pack (host : Host) (h : ∀ a ∈ as, a.Valida) :
    ∃ b, packActions host as = some b ∧ b.length = oflActionsOfpTotalLen as ∧
      ∀ {mem d}, Empieza (fun k => mem (d + k)) b →
        countActions mem d b.length = .ok as.length ∧
        unpackActions mem as.length d b.length = .ok (as.map (·.enMemoria host), 0) := by
  induction as with
  | nil => exact ⟨[], rfl, rfl, fun _ => ⟨by rw [countActions]; rfl, rfl⟩⟩
  | cons a as ih =>
    obtain ⟨w, hw⟩ := Action.unpack_pack host (h a mem_cons_self)
    obtain ⟨b, hb, hlen, hun⟩ := ih fun x hx => h x (mem_cons_of_mem _ hx)
    refine ⟨w ++ b, ?_, ?_, fun {mem d} hm => ?_⟩
    · rw [packActions, hw.pack, hb]
      rfl
    · rw [length_append, hw.length, hlen]
      rfl
    · have h2 : leer mem (d + 2) 2 = w.length := (leer_add mem d 2 2).symm.trans (hw.len hm.left)
      have hshift : Empieza (fun k => mem (d + w.length + k)) b := by
        intro k hk
        show mem (d + w.length + k) = _
        rw [Nat.add_assoc]
        exact hm.right k hk
      obtain ⟨hcount, hunpack⟩ := hun hshift
      have hl : (w ++ b).length - w.length = b.length := by
        rw [length_append]
        omega
      have h8 := hw.largo
      constructor
      · rw [countActions, if_neg (by rw [length_append]; omega), h2,
          if_neg (by rw [length_append]; omega), hl, hcount]
        rfl
      · rw [length_cons, unpackActions]
        refine bind_eq_ok.mpr ⟨_, hw.unpack hm.left (by rw [length_append]; omega), ?_⟩
        rw [h2, hl]
        exact bind_eq_ok.mpr ⟨_, hunpack, rfl⟩

theorem Action.enMemoria_enMemoria (host : Host) (a : Action) :
    (a.enMemoria host).enMemoria host = a := by
  cases a with
  | setField header value => simp only [enMemoria, valorHost_valorHost]
  | _ => rfl

theorem actionsUnpack_pack (of : OpenFlow Mt Action P) (host : Host) (detras : Bytes → Memoria)
    (h : ∀ a ∈ as, a.Valida) :
    ∃ b, packActions host as = some b ∧ b.length = oflActionsOfpTotalLen as ∧
      (enMemoria of host detras).actionsUnpack b = .ok (as, 0) := by
  obtain ⟨b, hb, hlen, hun⟩ := unpackActions_pack host h
  refine ⟨b, hb, hlen, ?_⟩
  obtain ⟨hcount, hunpack⟩ := hun (empieza_cero (empieza_memoriaDe detras b))
  have hall : oflActionsUnpackAll detras b = .ok (as.map (·.enMemoria host), 0) :=
    bind_eq_ok.mpr ⟨_, hcount, hunpack⟩
  have hmap : (as.map (·.enMemoria host)).map (·.enMemoria host) = as := by
    rw [map_map]
    exact map_id'' (fun a => a.enMemoria_enMemoria host) as
  show (oflActionsUnpackAll detras b).map _ = _
  rw [hall]
  exact congrArg (fun l => Except.ok (l, 0)) hmap

/-! ## 6. One instruction -/

/-- What the round trip of one instruction is. -/
structure InstruccionVuelta {Mt P : Type} (of : OpenFlow Mt Action P) (host : Host)
    (i : Instruction Action) (w : Bytes) : Prop where
  pack : instructionsPack host i = some w
  length : w.length = instructionsOfpLen i
  largo : 8 ≤ w.length
  len : ∀ rest, w.length < 2 ^ 16 → Lectura.campo (w ++ rest) 2 2 = pure w.length
  unpack : ∀ rest len, w.length < 2 ^ 16 → w.length ≤ len →
    instructionsUnpack of (w ++ rest) len = pure i

section Instrucciones

open Lectura

variable {Mt P : Type} {of : OpenFlow Mt Action P} {host : Host}

theorem exige_si {c : Prop} [Decidable c] {e : OflErr} (h : c) : exige c e = pure () :=
  exige_eq_pure.mpr h

variable {i : Instruction Action}

theorem InstruccionVuelta.of_fields (n : Nat) (fs : List (Nat × Nat)) (b : Bytes)
    (hpack : instructionsPack host i = some (fields fs ++ b)) (hlen : instructionsOfpLen i = n)
    (hw : width fs + b.length = n) (h1 : fs[1]? = some (2, n)) (hk : width (fs.take 1) = 2)
    (h8 : 8 ≤ n)
    (hbody : ∀ rest, n < 2 ^ 16 → instructionBody of (fields fs ++ (b ++ rest)) n = pure (i, 0)) :
    InstruccionVuelta of host i (fields fs ++ b) := by
  have hl : (fields fs ++ b).length = n := by
    rw [length_append, length_fields, hw]
  have hcampo : ∀ rest, n < 2 ^ 16 → campo (fields fs ++ b ++ rest) 2 2 = pure n := by
    intro rest hn
    rw [append_assoc]
    exact campo_fields 1 _ h1 hk hn
  refine ⟨hpack, hl.trans hlen.symm, hl ▸ h8, ?_, ?_⟩
  · rw [hl]
    exact hcampo
  · rw [hl]
    intro rest len hn hle
    unfold instructionsUnpack
    refine bind_eq_pure.mpr ⟨(), exige_si (by omega), ?_⟩
    refine bind_eq_pure.mpr ⟨n, hcampo rest hn, ?_⟩
    refine bind_eq_pure.mpr ⟨(), exige_si hle, ?_⟩
    refine bind_eq_pure.mpr ⟨(i, 0), ?_, ?_⟩
    · rw [append_assoc]
      exact hbody rest hn
    · exact bind_eq_pure.mpr ⟨(), exige_si rfl, rfl⟩

theorem conAcciones (of : OpenFlow Mt Action P) (detras : Bytes → Memoria) {t : Nat}
    {actions : List Action} (h : ∀ a ∈ actions, a.Valida) (ht : t < 256 ^ 2)
    (hlen : instructionsOfpLen i = 8 + oflActionsOfpTotalLen actions)
    (hpack : instructionsPack host i = (packActions host actions).map
      (fields [(2, t), (2, 8 + oflActionsOfpTotalLen actions), (4, 0)] ++ ·))
    (hbody : ∀ d ilen, campo d 0 2 = pure t → 8 ≤ ilen →
      (enMemoria of host detras).actionsUnpack ((d.drop 8).take (ilen - 8)) = .ok (actions, 0) →
      instructionBody (enMemoria of host detras) d ilen = pure (i, 0)) :
    ∃ w, InstruccionVuelta (enMemoria of host detras) host i w := by
  obtain ⟨b, hb, hblen, hun⟩ := actionsUnpack_pack of host detras h
  refine ⟨_, .of_fields (8 + oflActionsOfpTotalLen actions)
    [(2, t), (2, 8 + oflActionsOfpTotalLen actions), (4, 0)] b ?_ hlen ?_ rfl rfl (by omega)
    fun rest _ => hbody _ _ (campo_fields 0 _ rfl rfl ht) (by omega) ?_⟩
  · rw [hpack, hb]
    rfl
  · rw [hblen]
    rfl
  · have h8 : (fields [(2, t), (2, 8 + oflActionsOfpTotalLen actions), (4, 0)]).length = 8 :=
      length_fields _
    rw [drop_left' h8, Nat.add_sub_cancel_left, take_left' hblen]
    exact hun

/-- **One instruction**: every instruction the unpacking accepts comes back. -/
theorem Instruction.unpack_pack (of : OpenFlow Mt Action P) (host : Host) (detras : Bytes → Memoria)
    (hi : InstruccionValida i) : ∃ w, InstruccionVuelta (enMemoria of host detras) host i w := by
  cases i with
  | gotoTable tableId =>
    have hlt : tableId < 256 ^ 1 := lt_trans hi (by decide)
    refine ⟨_, .of_fields 8 [(2, 1), (2, 8), (1, tableId), (3, 0)] [] rfl rfl rfl rfl rfl
      (by decide) fun rest _ => ?_⟩
    unfold instructionBody
    refine bind_eq_pure.mpr ⟨1, campo_fields 0 _ rfl rfl (by decide), ?_⟩
    refine bind_eq_pure.mpr ⟨(), exige_si (by decide), ?_⟩
    refine bind_eq_pure.mpr ⟨tableId, campo_fields 2 _ rfl rfl hlt, ?_⟩
    exact bind_eq_pure.mpr ⟨(), exige_si hi, rfl⟩
  | writeMetadata metadata mask =>
    refine ⟨_, .of_fields 24 [(2, 2), (2, 24), (4, 0), (8, metadata), (8, mask)] [] rfl rfl rfl rfl
      rfl (by decide) fun rest _ => ?_⟩
    unfold instructionBody
    refine bind_eq_pure.mpr ⟨2, campo_fields 0 _ rfl rfl (by decide), ?_⟩
    refine bind_eq_pure.mpr ⟨(), exige_si (by decide), ?_⟩
    refine bind_eq_pure.mpr ⟨metadata, campo_fields 3 _ rfl rfl hi.1, ?_⟩
    exact bind_eq_pure.mpr ⟨mask, campo_fields 4 _ rfl rfl hi.2, rfl⟩
  | writeActions actions =>
    refine conAcciones of detras hi (by decide) rfl rfl fun d ilen ht h8 hun => ?_
    unfold instructionBody
    refine bind_eq_pure.mpr ⟨3, ht, ?_⟩
    refine bind_eq_pure.mpr ⟨(), exige_si h8, ?_⟩
    exact bind_eq_pure.mpr ⟨(actions, 0), liftM_eq_pure.mpr hun, rfl⟩
  | applyActions actions =>
    refine conAcciones of detras hi (by decide) rfl rfl fun d ilen ht h8 hun => ?_
    unfold instructionBody
    refine bind_eq_pure.mpr ⟨4, ht, ?_⟩
    refine bind_eq_pure.mpr ⟨(), exige_si h8, ?_⟩
    exact bind_eq_pure.mpr ⟨(actions, 0), liftM_eq_pure.mpr hun, rfl⟩
  | clearActions =>
    refine ⟨_, .of_fields 8 [(2, 5), (2, 8), (4, 0)] [] rfl rfl rfl rfl rfl (by decide)
      fun rest _ => ?_⟩
    unfold instructionBody
    refine bind_eq_pure.mpr ⟨5, campo_fields 0 _ rfl rfl (by decide), ?_⟩
    exact bind_eq_pure.mpr ⟨(), exige_si (by decide), rfl⟩
  | meter meterId =>
    refine ⟨_, .of_fields 8 [(2, 6), (2, 8), (4, meterId)] [] rfl rfl rfl rfl rfl (by decide)
      fun rest _ => ?_⟩
    unfold instructionBody
    refine bind_eq_pure.mpr ⟨6, campo_fields 0 _ rfl rfl (by decide), ?_⟩
    refine bind_eq_pure.mpr ⟨(), exige_si (by decide), ?_⟩
    exact bind_eq_pure.mpr ⟨meterId, campo_fields 2 _ rfl rfl hi, rfl⟩

/-! ## 7. Lists of instructions -/

theorem packInstructions_spec (of : OpenFlow Mt Action P) (host : Host) (detras : Bytes → Memoria)
    {is : List (Instruction Action)} (h : ∀ i ∈ is, InstruccionValida i) :
    ∃ b, packInstructions host is = some b ∧ b.length = instructionsOfpTotalLen is ∧
      (b.length < 2 ^ 16 → ∀ rest,
        (∀ k, is.length < k → countInstructions k (b ++ rest) b.length = pure is.length) ∧
        unpackInstructionsResto (enMemoria of host detras) is.length (b ++ rest) b.length =
          pure (is, 0)) := by
  induction is with
  | nil =>
    refine ⟨[], rfl, rfl, fun _ rest => ⟨fun k hk => ?_, rfl⟩⟩
    obtain ⟨k, rfl⟩ := Nat.exists_eq_add_of_lt hk
    rfl
  | cons i is ih =>
    obtain ⟨w, hw⟩ := Instruction.unpack_pack of host detras (h i mem_cons_self)
    obtain ⟨b, hb, hlen, hun⟩ := ih fun x hx => h x (mem_cons_of_mem _ hx)
    have hl : (w ++ b).length = w.length + b.length := length_append
    refine ⟨w ++ b, ?_, ?_, fun hlt rest => ?_⟩
    · rw [packInstructions, hw.pack, hb]
      rfl
    · rw [hl, hw.length, hlen]
      rfl
    · have h8 := hw.largo
      obtain ⟨hcount, hunpack⟩ := hun (by omega) rest
      have hdrop : (w ++ (b ++ rest)).drop w.length = b ++ rest := drop_left
      have hsub : (w ++ b).length - w.length = b.length := by omega
      have hcampo : campo (w ++ (b ++ rest)) 2 2 = pure w.length := hw.len _ (by omega)
      rw [append_assoc, length_cons]
      constructor
      · intro k hk
        obtain ⟨k, rfl⟩ : ∃ k', k = k' + 1 := ⟨k - 1, by omega⟩
        rw [countInstructions, if_neg (by omega)]
        refine bind_eq_pure.mpr ⟨_, hcampo, ?_⟩
        refine bind_eq_pure.mpr ⟨(), exige_si (by omega), ?_⟩
        rw [hdrop, hsub]
        exact bind_eq_pure.mpr ⟨_, hcount k (by omega), rfl⟩
      · rw [unpackInstructionsResto]
        refine bind_eq_pure.mpr ⟨i, hw.unpack _ _ (by omega) (by omega), ?_⟩
        refine bind_eq_pure.mpr ⟨_, hcampo, ?_⟩
        rw [hdrop, hsub]
        exact bind_eq_pure.mpr ⟨_, hunpack, rfl⟩

theorem length_le_totalLen (is : List (Instruction Action)) :
    is.length ≤ instructionsOfpTotalLen is := by
  have hone : ∀ n ∈ is.map instructionsOfpLen, 1 ≤ n := by
    intro n hn
    obtain ⟨i, _, rfl⟩ := mem_map.mp hn
    cases i <;> simp only [instructionsOfpLen] <;> omega
  simpa [instructionsOfpTotalLen] using length_le_sum_of_one_le _ hone

/-- **Instructions and actions come back.** What the unpacking accepts is packed into as many bytes
as announced; whatever lies behind them, these are counted and unpacked again, all bytes used up. -/
theorem instructions_round_trip (of : OpenFlow Mt Action P) (host : Host)
    (detras : Bytes → Memoria) {is : List (Instruction Action)}
    (hval : ∀ i ∈ is, InstruccionValida i) (hlen : instructionsOfpTotalLen is < 2 ^ 16) :
    ∃ b, packInstructions host is = some b ∧ b.length = instructionsOfpTotalLen is ∧
      ∀ rest,
        countInstructions ((b ++ rest).length + 1) (b ++ rest) b.length = pure is.length ∧
        unpackInstructionsResto (enMemoria of host detras) is.length (b ++ rest) b.length =
          pure (is, 0) ∧
        unpackInstructions (enMemoria of host detras) is.length (b ++ rest) b.length = pure is := by
  obtain ⟨b, hb, hblen, hun⟩ := packInstructions_spec of host detras hval
  refine ⟨b, hb, hblen, fun rest => ?_⟩
  obtain ⟨hcount, hunpack⟩ := hun (hblen ▸ hlen) rest
  have hle : is.length ≤ b.length := hblen ▸ length_le_totalLen is
  refine ⟨hcount _ ?_, hunpack, ?_⟩
  · rw [length_append]
    omega
  · rw [unpackInstructions_resto, hunpack]
    rfl

end Instrucciones

/-- Every case of the `switch` over the lengths of a set-field, on a little-endian machine: a VLAN
    tag, an IPv4 address (not turned round), a port, a DSCP, an ISID, an Ethernet and an IPv6
    address and a tunnel id, with instructions of every type. -/
def variosAnchos : List (Instruction Action) :=
  [.applyActions [.setField 0x80000c02 [5, 16], .setField 0x80001804 [10, 0, 0, 1],
      .setField 0x80001a02 [80, 0], .setField 0x80001001 [9], .setField 0x80004a03 [0, 1, 2],
      .setField 0x80000606 [2, 0, 0, 0, 0, 1], .setField 0x80003610 (List.replicate 16 1),
      .setField 0x80004c08 [8, 7, 6, 5, 4, 3, 2, 1], .pushVlan 0x8100, .output 3 0xffff],
    .writeActions [.group 7], .clearActions, .gotoTable 5, .meter 9, .writeMetadata 1 (2 ^ 64 - 1)]

theorem instructions_round_trip_anchos :
    (∀ i ∈ variosAnchos, InstruccionValida i) ∧ instructionsOfpTotalLen variosAnchos = 232 ∧
      ∃ b, packInstructions .little variosAnchos = some b ∧ b.length = 232 ∧
        (b.drop 16).take 2 = [16, 5] ∧
        unpackInstructions (enMemoria sinCampos.of .little fun _ _ => 0) 6 b b.length =
          pure variosAnchos := by
  have hval : ∀ i ∈ variosAnchos, InstruccionValida i := by decide
  have hlen : instructionsOfpTotalLen variosAnchos = 232 := by decide
  obtain ⟨b, hb, hblen, hun⟩ := instructions_round_trip sinCampos.of .little (fun _ _ => 0) hval
    (by rw [hlen]; decide)
  refine ⟨hval, hlen, b, hb, hblen.trans hlen, ?_, ?_⟩
  · have h16 : ((packInstructions .little variosAnchos).map fun b => (b.drop 16).take 2) =
        some [16, 5] := by decide
    rw [hb] at h16
    exact Option.some.inj h16
  · have h := (hun []).2.2
    rw [append_nil] at h
    exact h

end TcpPath.Udatapath
