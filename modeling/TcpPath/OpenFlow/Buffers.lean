/-
  Subject:   dp_buffers.c, and packet.c as far as buffers go.

  * `Almacen`: the buffers, the packets by the memory they have, and what `time_now` returns, which
    is whole seconds. `none` is what is undefined: memory that was given back is read.
  * An id has the number of the buffer in its lower 8 bits and the cookie in the others (`idDe`).

  Results:   `packet_buffers`: a packet comes back for its id only, and once.
-/
import TcpPath.Frame
import TcpPath.Util.Runs

namespace TcpPath.Udatapath

open Util List Function

/-! ## 1. Ids -/

/-- `N_PKT_BUFFERS`, which is `1 << PKT_BUFFER_BITS`. -/
def nPktBuffers : Nat := 256

def noBuffer : UInt32 := 0xffffffff

def overwriteSecs : Nat := 1

/-- `& PKT_BUFFER_MASK`. -/
def ranura (id : Nat) : Fin nPktBuffers :=
  ⟨id &&& (nPktBuffers - 1), Nat.and_lt_two_pow (n := 8) id (by decide)⟩

/-- `++p->cookie`, which leaves the greatest cookie out. -/
def cookieSiguiente (cookie : UInt32) : UInt32 :=
  if 0xffffff ≤ cookie + 1 then 0 else cookie + 1

/-- `dpb->buffer_idx | (p->cookie << PKT_BUFFER_BITS)`. -/
def idDe (i : Fin nPktBuffers) (cookie : UInt32) : UInt32 := i.val.toUInt32 ||| (cookie <<< 8)

theorem cookieSiguiente_lt (cookie : UInt32) : (cookieSiguiente cookie).toNat < 2 ^ 24 - 1 := by
  unfold cookieSiguiente
  split
  · decide
  · rename_i h
    rw [UInt32.le_iff_toNat_le] at h
    exact Nat.lt_of_not_le h

section Ids

variable {i : Fin nPktBuffers} {c : UInt32}

theorem toNat_idDe (h : c.toNat < 2 ^ 24) : (idDe i c).toNat = c.toNat * 256 + i.val := by
  have hi : i.val < 2 ^ 8 := i.isLt
  have hc : (c <<< 8).toNat = c.toNat <<< 8 := by
    rw [UInt32.toNat_shiftLeft, Nat.shiftLeft_eq]
    show c.toNat * 2 ^ 8 % 2 ^ 32 = _
    rw [Nat.mod_eq_of_lt (by omega), Nat.shiftLeft_eq]
  have hi' : i.val.toUInt32.toNat = i.val :=
    (UInt32.toNat_ofNat').trans (Nat.mod_eq_of_lt (by omega))
  unfold idDe
  rw [UInt32.toNat_or, hc, hi', Nat.or_comm, ← Nat.shiftLeft_add_eq_or_of_lt hi, Nat.shiftLeft_eq]

theorem ranura_idDe (h : c.toNat < 2 ^ 24) : ranura (idDe i c).toNat = i := by
  apply Fin.ext
  show (idDe i c).toNat &&& (2 ^ 8 - 1) = i.val
  rw [Nat.and_two_pow_sub_one_eq_mod, toNat_idDe h]
  have := i.isLt
  unfold nPktBuffers at this
  omega

theorem idDe_shiftRight (h : c.toNat < 2 ^ 24) : idDe i c >>> 8 = c := by
  apply UInt32.toNat_inj.mp
  rw [UInt32.toNat_shiftRight, toNat_idDe h]
  have := i.isLt
  unfold nPktBuffers at this
  show (c.toNat * 256 + i.val) >>> 8 = _
  rw [Nat.shiftRight_eq_div_pow]
  omega

theorem idDe_ne_noBuffer (h : c.toNat < 2 ^ 24 - 1) : idDe i c ≠ noBuffer := by
  intro heq
  have hc := idDe_shiftRight (i := i) (c := c) (by omega)
  rw [heq] at hc
  rw [← hc] at h
  exact absurd h (by decide)

theorem idDe_injective {c' : UInt32} (h : c.toNat < 2 ^ 24) (h' : c'.toNat < 2 ^ 24)
    (heq : idDe i c = idDe i c') : c = c' := by
  rw [← idDe_shiftRight (i := i) h, heq, idDe_shiftRight h']

theorem idDe_partes (id : UInt32) : idDe (ranura id.toNat) (id >>> 8) = id := by
  have hid : id.toNat < 2 ^ 32 := id.toNat_lt
  have hc : (id >>> 8).toNat = id.toNat / 256 := by
    rw [UInt32.toNat_shiftRight]
    show id.toNat >>> 8 = _
    rw [Nat.shiftRight_eq_div_pow]
  have hr : (ranura id.toNat).val = id.toNat % 256 := Nat.and_two_pow_sub_one_eq_mod id.toNat 8
  apply UInt32.toNat_inj.mp
  rw [toNat_idDe (by omega), hc, hr]
  omega

end Ids

/-- The cookie of a buffer in which `n` packets have been. -/
def cookieTras : Nat → UInt32
  | 0 => 0xffffffff
  | n + 1 => (n % (2 ^ 24 - 1)).toUInt32

theorem toNat_cookieTras (n : Nat) : (cookieTras (n + 1)).toNat = n % (2 ^ 24 - 1) :=
  (UInt32.toNat_ofNat').trans (Nat.mod_eq_of_lt (by omega))

/-- **Cookies count.** -/
theorem cookieSiguiente_tras (n : Nat) : cookieSiguiente (cookieTras n) = cookieTras (n + 1) := by
  cases n with
  | zero => decide
  | succ n =>
    have hn := toNat_cookieTras n
    have hsuc : (cookieTras (n + 1) + 1).toNat = n % (2 ^ 24 - 1) + 1 := by
      rw [UInt32.toNat_add, hn]
      exact Nat.mod_eq_of_lt (by show _ + 1 < _; omega)
    apply UInt32.toNat_inj.mp
    rw [toNat_cookieTras, cookieSiguiente]
    split
    · rename_i hle
      rw [UInt32.le_iff_toNat_le, hsuc] at hle
      have : (2 : Nat) ^ 24 - 1 ≤ n % (2 ^ 24 - 1) + 1 := hle
      show 0 = _
      omega
    · rename_i hle
      rw [UInt32.le_iff_toNat_le, hsuc] at hle
      have : ¬(2 : Nat) ^ 24 - 1 ≤ n % (2 ^ 24 - 1) + 1 := hle
      rw [hsuc]
      omega

/-- The ids of the first `n` packets of a buffer, the last one first. -/
def idsTras (i : Fin nPktBuffers) : Nat → List UInt32
  | 0 => []
  | n + 1 => idDe i (cookieTras (n + 1)) :: idsTras i n

theorem length_idsTras (i : Fin nPktBuffers) (n : Nat) : (idsTras i n).length = n := by
  induction n with
  | zero => rfl
  | succ n ih => rw [idsTras, length_cons, ih]

variable {i : Fin nPktBuffers} {n : Nat}

theorem mem_idsTras {id : UInt32} (h : id ∈ idsTras i n) :
    ∃ k < n, id = idDe i (cookieTras (k + 1)) := by
  induction n with
  | zero => cases h
  | succ n ih =>
    rcases mem_cons.mp h with rfl | h
    · exact ⟨n, Nat.lt_succ_self n, rfl⟩
    · obtain ⟨k, hk, rfl⟩ := ih h
      exact ⟨k, Nat.lt_succ_of_lt hk, rfl⟩

theorem cookieTras_lt (n : Nat) : (cookieTras (n + 1)).toNat < 2 ^ 24 - 1 := by
  rw [toNat_cookieTras]
  exact Nat.mod_lt _ (by decide)

theorem nodup_idsTras (h : n ≤ 2 ^ 24 - 1) : (idsTras i n).Nodup := by
  induction n with
  | zero => exact nodup_nil
  | succ n ih =>
    refine nodup_cons.mpr ⟨fun hmem => ?_, ih (by omega)⟩
    obtain ⟨k, hk, heq⟩ := mem_idsTras hmem
    have hn := cookieTras_lt n
    have hk' := cookieTras_lt k
    have hc := congrArg UInt32.toNat (idDe_injective (by omega) (by omega) heq)
    rw [toNat_cookieTras, toNat_cookieTras, Nat.mod_eq_of_lt (by omega),
      Nat.mod_eq_of_lt (by omega)] at hc
    omega

/-! ## 2. Code -/

/-- `struct packet_buffer`. -/
structure PacketBuffer where
  pkt : Option Nat
  cookie : UInt32
  timeout : Nat
  deriving DecidableEq, Repr

/-- `struct dp_buffers`. -/
structure DpBuffers where
  bufferIdx : UInt64
  buffers : Fin nPktBuffers → PacketBuffer

/-- `struct packet`, as far as buffers and packet-in messages read it. `frame` is its `buffer`, and
    `tableMiss` is in its `handle_std`. -/
structure Packet where
  frame : Bytes
  packetOut : Bool
  bufferId : UInt32
  tableId : UInt8
  tableMiss : Bool
  deriving DecidableEq, Repr

structure Almacen where
  dpb : DpBuffers
  paquetes : Nat → Option Packet
  now : Nat

/-- `dp_buffers_create`. -/
def dpBuffersCreate : DpBuffers := ⟨0xffffffffffffffff, fun _ => ⟨none, 0xffffffff, 0⟩⟩

namespace Almacen

/-- The buffer of an id. -/
def bufer (s : Almacen) (id : UInt32) : PacketBuffer := s.dpb.buffers (ranura id.toNat)

def conBufer (i : Fin nPktBuffers) (p : PacketBuffer) (s : Almacen) : Almacen :=
  { s with dpb.buffers := Function.update s.dpb.buffers i p }

def conPaquete (q : Nat) (pkt : Option Packet) (s : Almacen) : Almacen :=
  { s with paquetes := Function.update s.paquetes q pkt }

/-- `dp_buffers_is_alive`. -/
def dpBuffersIsAlive (s : Almacen) (id : UInt32) : Bool :=
  (s.bufer id).cookie == id >>> 8 && decide (s.now < (s.bufer id).timeout)

/-- `dp_buffers_discard`. No call has `destroy` set. -/
def dpBuffersDiscard (id : UInt32) (destroy : Bool) (s : Almacen) : Option Almacen :=
  if (s.bufer id).cookie = id >>> 8 then
    if destroy then do
      -- `packet_destroy` on a packet whose `buffer_id` has just become `NO_BUFFER`
      let q ← (s.bufer id).pkt
      let _ ← s.paquetes q
      return (s.conPaquete q none).conBufer (ranura id.toNat) { s.bufer id with pkt := none }
    else some (s.conBufer (ranura id.toNat) { s.bufer id with pkt := none })
  else some s

/-- `packet_destroy`. -/
def packetDestroy (q : Nat) (s : Almacen) : Option Almacen := do
  let pkt ← s.paquetes q
  if pkt.bufferId ≠ noBuffer then
    if s.dpBuffersIsAlive pkt.bufferId then return s
    else
      let s ← s.dpBuffersDiscard pkt.bufferId false
      return s.conPaquete q none
  else return s.conPaquete q none

/-- The end of `dp_buffers_save`: the packet `q` goes into buffer `i`. -/
def ocupa (i : Fin nPktBuffers) (q : Nat) (s : Almacen) : Option (Almacen × UInt32) := do
  let cookie := cookieSiguiente (s.dpb.buffers i).cookie
  let s := s.conBufer i ⟨some q, cookie, s.now + overwriteSecs⟩
  let pkt ← s.paquetes q
  return (s.conPaquete q (some { pkt with bufferId := idDe i cookie }), idDe i cookie)

/-- The buffer after the one that was tried last. -/
def siguiente (s : Almacen) : Fin nPktBuffers := ranura (s.dpb.bufferIdx + 1).toNat

/-- `dpb->buffer_idx` goes on. -/
def avanza (s : Almacen) : Almacen :=
  { s with dpb.bufferIdx := s.siguiente.val.toUInt64 }

/-- The packet is in a buffer whose time has not come. -/
abbrev Vigente (s : Almacen) (pkt : Packet) : Prop :=
  pkt.bufferId ≠ noBuffer ∧ s.dpBuffersIsAlive pkt.bufferId = true

/-- `dp_buffers_save`. -/
def dpBuffersSave (q : Nat) (s : Almacen) : Option (Almacen × UInt32) := do
  let pkt ← s.paquetes q
  if s.Vigente pkt then return (s, pkt.bufferId)
  else
    let i := s.siguiente
    let s := s.avanza
    match (s.dpb.buffers i).pkt with
    | none => s.ocupa i q
    | some old =>
      if s.now < (s.dpb.buffers i).timeout then return (s, noBuffer)
      else
        let viejo ← s.paquetes old
        let s ← (s.conPaquete old (some { viejo with bufferId := noBuffer })).packetDestroy old
        s.ocupa i q

/-- `dp_buffers_retrieve`. -/
def dpBuffersRetrieve (id : UInt32) (s : Almacen) : Option (Almacen × Option Nat) :=
  if (s.bufer id).cookie = id >>> 8 then
    match (s.bufer id).pkt with
    | none => some (s, none)
    | some q => do
      let pkt ← s.paquetes q
      let s := s.conPaquete q (some { pkt with bufferId := noBuffer, packetOut := false })
      return (s.conBufer (ranura id.toNat) { s.bufer id with pkt := none }, some q)
  else some (s, none)

/-! ## 3. What a save can do -/

section Guarda

variable {s s' : Almacen} {q : Nat} {pkt : Packet} {id : UInt32}

/-- The packets when the one in the next buffer has been destroyed. -/
def desalojo (s : Almacen) : Nat → Option Packet :=
  match (s.dpb.buffers s.siguiente).pkt with
  | none => s.paquetes
  | some old => Function.update s.paquetes old none

/-- The id a packet gets in the next buffer. -/
def idNuevo (s : Almacen) : UInt32 :=
  idDe s.siguiente (cookieSiguiente (s.dpb.buffers s.siguiente).cookie)

/-- The state when `q` has gone into the next buffer. -/
def guardada (s : Almacen) (q : Nat) (pkt : Packet) : Almacen where
  dpb :=
    { bufferIdx := s.siguiente.val.toUInt64
      buffers := Function.update s.dpb.buffers s.siguiente
        ⟨some q, cookieSiguiente (s.dpb.buffers s.siguiente).cookie, s.now + overwriteSecs⟩ }
  paquetes := Function.update s.desalojo q (some { pkt with bufferId := s.idNuevo })
  now := s.now

/-- **What `dp_buffers_save` can do**: the state it leaves and what it returns. -/
inductive Guarda (s : Almacen) (q : Nat) (pkt : Packet) : Almacen → UInt32 → Prop where
  | vigente (hv : s.Vigente pkt) : Guarda s q pkt s pkt.bufferId
  | ocupada {old : Nat} (hv : ¬s.Vigente pkt)
      (hold : (s.dpb.buffers s.siguiente).pkt = some old)
      (ht : s.now < (s.dpb.buffers s.siguiente).timeout) : Guarda s q pkt s.avanza noBuffer
  | nueva (hv : ¬s.Vigente pkt)
      (hven : ∀ old, (s.dpb.buffers s.siguiente).pkt = some old →
        old ≠ q ∧ (s.dpb.buffers s.siguiente).timeout ≤ s.now) :
      Guarda s q pkt (s.guardada q pkt) s.idNuevo

theorem packetDestroy_suelto (h : s.paquetes q = some pkt) (hid : pkt.bufferId = noBuffer) :
    s.packetDestroy q = some (s.conPaquete q none) := by
  unfold packetDestroy
  simp [h, hid]

theorem dpBuffersSave_vigente (hq : s.paquetes q = some pkt) (hv : s.Vigente pkt) :
    s.dpBuffersSave q = some (s, pkt.bufferId) := by
  unfold dpBuffersSave
  simp only [hq, Option.bind_eq_bind, Option.bind_some]
  exact if_pos hv

theorem ocupa_avanza (hq : s.desalojo q = some pkt) :
    ocupa s.siguiente q { s.avanza with paquetes := s.desalojo } =
      some (s.guardada q pkt, s.idNuevo) := by
  unfold ocupa
  show (s.desalojo q).bind _ = _
  rw [hq]
  rfl

theorem dpBuffersSave_libre (hq : s.paquetes q = some pkt) (hv : ¬s.Vigente pkt)
    (hold : (s.dpb.buffers s.siguiente).pkt = none) :
    s.dpBuffersSave q = some (s.guardada q pkt, s.idNuevo) := by
  have hd : s.desalojo = s.paquetes := by
    unfold desalojo
    rw [hold]
  rw [← ocupa_avanza (hd ▸ hq), hd]
  unfold dpBuffersSave
  simp only [hq, Option.bind_eq_bind, Option.bind_some]
  rw [if_neg hv]
  simp only [show (s.avanza.dpb.buffers s.siguiente).pkt = none from hold]
  rfl

theorem dpBuffersSave_ocupada {old : Nat} (hq : s.paquetes q = some pkt) (hv : ¬s.Vigente pkt)
    (hold : (s.dpb.buffers s.siguiente).pkt = some old)
    (ht : s.now < (s.dpb.buffers s.siguiente).timeout) :
    s.dpBuffersSave q = some (s.avanza, noBuffer) := by
  unfold dpBuffersSave
  simp only [hq, Option.bind_eq_bind, Option.bind_some]
  rw [if_neg hv]
  simp only [show (s.avanza.dpb.buffers s.siguiente).pkt = some old from hold]
  exact if_pos ht

theorem dpBuffersSave_vencida {old : Nat} (hq : s.paquetes q = some pkt) (hv : ¬s.Vigente pkt)
    (hold : (s.dpb.buffers s.siguiente).pkt = some old)
    (ht : (s.dpb.buffers s.siguiente).timeout ≤ s.now) :
    s.dpBuffersSave q =
      (s.paquetes old).bind fun _ =>
        ocupa s.siguiente q { s.avanza with paquetes := s.desalojo } := by
  have hd : s.desalojo = Function.update s.paquetes old none := by
    unfold desalojo
    rw [hold]
  unfold dpBuffersSave
  simp only [hq, Option.bind_eq_bind, Option.bind_some]
  rw [if_neg hv]
  simp only [show (s.avanza.dpb.buffers s.siguiente).pkt = some old from hold]
  rw [if_neg (show ¬s.avanza.now < (s.avanza.dpb.buffers s.siguiente).timeout from
    Nat.not_lt.mpr ht)]
  refine Option.bind_congr fun viejo _ => ?_
  rw [packetDestroy_suelto (update_self ..) rfl, Option.bind_some, hd]
  unfold conPaquete
  rw [update_idem]
  rfl

/-- **Every save.** -/
theorem dpBuffersSave_guarda (hq : s.paquetes q = some pkt)
    (h : s.dpBuffersSave q = some (s', id)) : s.Guarda q pkt s' id := by
  by_cases hv : s.Vigente pkt
  · rw [dpBuffersSave_vigente hq hv] at h
    cases h
    exact .vigente hv
  cases hold : (s.dpb.buffers s.siguiente).pkt with
  | none =>
    rw [dpBuffersSave_libre hq hv hold] at h
    cases h
    exact .nueva hv (by simp [hold])
  | some old =>
    by_cases ht : s.now < (s.dpb.buffers s.siguiente).timeout
    · rw [dpBuffersSave_ocupada hq hv hold ht] at h
      cases h
      exact .ocupada hv hold ht
    have hven := Nat.not_lt.mp ht
    rw [dpBuffersSave_vencida hq hv hold hven] at h
    obtain ⟨_, _, hocupa⟩ := Option.bind_eq_some_iff.mp h
    have hd : s.desalojo = Function.update s.paquetes old none := by
      unfold desalojo
      rw [hold]
    -- a packet that was destroyed is not saved: its memory would be written
    have hne : q ≠ old := by
      rintro rfl
      obtain ⟨_, hnone, _⟩ := Option.bind_eq_some_iff.mp
        (show (s.desalojo q).bind _ = some (s', id) from hocupa)
      rw [hd, update_self] at hnone
      cases hnone
    rw [ocupa_avanza (hd ▸ (update_of_ne hne ..).trans hq)] at hocupa
    cases hocupa
    refine .nueva hv fun o ho => ?_
    cases hold.symm.trans ho
    exact ⟨hne.symm, hven⟩

theorem dpBuffersSave_definida (hq : s.paquetes q = some pkt)
    (hold : ∀ old, (s.dpb.buffers s.siguiente).pkt = some old →
      (s.paquetes old).isSome ∧ (old = q → s.Vigente pkt)) : ∃ r, s.dpBuffersSave q = some r := by
  by_cases hv : s.Vigente pkt
  · exact ⟨_, dpBuffersSave_vigente hq hv⟩
  cases ho : (s.dpb.buffers s.siguiente).pkt with
  | none => exact ⟨_, dpBuffersSave_libre hq hv ho⟩
  | some old =>
    by_cases ht : s.now < (s.dpb.buffers s.siguiente).timeout
    · exact ⟨_, dpBuffersSave_ocupada hq hv ho ht⟩
    obtain ⟨hviejo, hne⟩ := hold old ho
    obtain ⟨viejo, hviejo⟩ := Option.isSome_iff_exists.mp hviejo
    have hd : s.desalojo q = some pkt := by
      unfold desalojo
      rw [ho]
      exact (update_of_ne (fun heq => hv (hne heq.symm)) ..).trans hq
    rw [dpBuffersSave_vencida hq hv ho (Nat.not_lt.mp ht), hviejo, Option.bind_some,
      ocupa_avanza hd]
    exact ⟨_, rfl⟩

/-- The state when `q` has come back for `id`. -/
def sacada (s : Almacen) (id : UInt32) (q : Nat) (pkt : Packet) : Almacen :=
  (s.conPaquete q (some { pkt with bufferId := noBuffer, packetOut := false })).conBufer
    (ranura id.toNat) { s.bufer id with pkt := none }

theorem dpBuffersRetrieve_cases {r : Option Nat} (h : s.dpBuffersRetrieve id = some (s', r)) :
    (s' = s ∧ r = none) ∨
      ∃ q pkt, (s.bufer id).cookie = id >>> 8 ∧ (s.bufer id).pkt = some q ∧
        s.paquetes q = some pkt ∧ s' = s.sacada id q pkt ∧ r = some q := by
  unfold dpBuffersRetrieve at h
  split at h
  · rename_i hc
    cases hp : (s.bufer id).pkt with
    | none =>
      simp only [hp, Option.some.injEq, Prod.mk.injEq] at h
      exact .inl ⟨h.1.symm, h.2.symm⟩
    | some q =>
      simp only [hp] at h
      obtain ⟨pkt, hpkt, h⟩ := Option.bind_eq_some_iff.mp h
      cases h
      exact .inr ⟨q, pkt, hc, rfl, hpkt, rfl, rfl⟩
  · cases h
    exact .inl ⟨rfl, rfl⟩

theorem dpBuffersRetrieve_ocupante (hc : (s.bufer id).cookie = id >>> 8)
    (hp : (s.bufer id).pkt = some q) (hq : s.paquetes q = some pkt) :
    ∃ s', s.dpBuffersRetrieve id = some (s', some q) := by
  unfold dpBuffersRetrieve
  rw [if_pos hc]
  simp only [hp, hq]
  exact ⟨_, rfl⟩

theorem dpBuffersRetrieve_definida (h : ∀ q, (s.bufer id).pkt = some q → (s.paquetes q).isSome) :
    ∃ r, s.dpBuffersRetrieve id = some r := by
  by_cases hc : (s.bufer id).cookie = id >>> 8
  · cases hp : (s.bufer id).pkt with
    | none =>
      unfold dpBuffersRetrieve
      rw [if_pos hc]
      simp only [hp]
      exact ⟨_, rfl⟩
    | some q =>
      obtain ⟨pkt, hq⟩ := Option.isSome_iff_exists.mp (h q hp)
      obtain ⟨s', hs'⟩ := dpBuffersRetrieve_ocupante hc hp hq
      exact ⟨_, hs'⟩
  · unfold dpBuffersRetrieve
    rw [if_neg hc]
    exact ⟨_, rfl⟩

end Guarda

@[simp]
theorem ranura_idNuevo (s : Almacen) : ranura s.idNuevo.toNat = s.siguiente :=
  ranura_idDe (Nat.lt_of_lt_of_le (cookieSiguiente_lt _) (by decide))

@[simp]
theorem idNuevo_shiftRight (s : Almacen) :
    s.idNuevo >>> 8 = cookieSiguiente (s.dpb.buffers s.siguiente).cookie :=
  idDe_shiftRight (Nat.lt_of_lt_of_le (cookieSiguiente_lt _) (by decide))

theorem idNuevo_ne_noBuffer (s : Almacen) : s.idNuevo ≠ noBuffer :=
  idDe_ne_noBuffer (cookieSiguiente_lt _)

section Guardada

variable {s : Almacen} {q : Nat} {pkt : Packet}

@[simp]
theorem guardada_siguiente : (s.guardada q pkt).dpb.buffers s.siguiente =
    ⟨some q, s.idNuevo >>> 8, s.now + overwriteSecs⟩ := by
  rw [idNuevo_shiftRight]
  exact update_self ..

variable {i : Fin nPktBuffers} {q' : Nat}

theorem guardada_otro (hi : i ≠ s.siguiente) : (s.guardada q pkt).dpb.buffers i = s.dpb.buffers i :=
  update_of_ne hi ..

theorem guardada_paquete : (s.guardada q pkt).paquetes q =
    some { pkt with bufferId := s.idNuevo } :=
  update_self ..

theorem guardada_paquetes (hne : q' ≠ q) : (s.guardada q pkt).paquetes q' =
    if (s.dpb.buffers s.siguiente).pkt = some q' then none else s.paquetes q' := by
  rw [show (s.guardada q pkt).paquetes q' = s.desalojo q' from update_of_ne hne ..]
  unfold desalojo
  cases (s.dpb.buffers s.siguiente).pkt with
  | none => rfl
  | some old =>
    simp only [update_apply, Option.some.injEq]
    exact if_congr eq_comm rfl rfl

variable {id : UInt32}

theorem sacada_suyo : (s.sacada id q pkt).dpb.buffers (ranura id.toNat) =
    { s.bufer id with pkt := none } :=
  update_self ..

theorem sacada_otro (hi : i ≠ ranura id.toNat) :
    (s.sacada id q pkt).dpb.buffers i = s.dpb.buffers i :=
  update_of_ne hi ..

@[simp]
theorem sacada_cookie (i : Fin nPktBuffers) :
    ((s.sacada id q pkt).dpb.buffers i).cookie = (s.dpb.buffers i).cookie := by
  by_cases hi : i = ranura id.toNat
  · subst hi
    rw [sacada_suyo]
    rfl
  · rw [sacada_otro hi]

theorem pkt_of_sacada (h : ((s.sacada id q pkt).dpb.buffers i).pkt = some q') :
    i ≠ ranura id.toNat ∧ (s.dpb.buffers i).pkt = some q' := by
  by_cases hi : i = ranura id.toNat
  · subst hi
    rw [sacada_suyo] at h
    cases h
  · rw [sacada_otro hi] at h
    exact ⟨hi, h⟩

theorem sacada_paquetes (hne : q' ≠ q) : (s.sacada id q pkt).paquetes q' = s.paquetes q' :=
  update_of_ne hne ..

end Guardada

end Almacen

/-! ## 4. Histories -/

/-- A packet that went into a buffer, the id that was returned for it, and when. -/
structure Guardado where
  pkt : Nat
  id : UInt32
  cuando : Nat
  deriving DecidableEq, Repr

structure Historia where
  almacen : Almacen
  guardados : List Guardado
  recuperados : List (UInt32 × Nat)
  usados : List Nat

inductive Llamada where
  | guarda (q : Nat)
  | recupera (id : UInt32)
  | avanza (secs : Nat)

namespace Historia

/-- The buffers are new. -/
def inicio (now : Nat) (paquetes : Nat → Option Packet) : Historia :=
  ⟨⟨dpBuffersCreate, paquetes, now⟩, [], [], []⟩

/-- A save is kept when the packet is in a buffer afterwards. -/
def paso (h : Historia) : Llamada → Option Historia
  | .guarda q => do
    let (s, id) ← h.almacen.dpBuffersSave q
    return {
      h with
      almacen := s
      guardados :=
        if ∃ i, (s.dpb.buffers i).pkt = some q then ⟨q, id, s.now⟩ :: h.guardados else h.guardados
      usados := q :: h.usados }
  | .recupera id => do
    let (s, r) ← h.almacen.dpBuffersRetrieve id
    return {
      h with
      almacen := s
      recuperados := (r.map (id, ·)).toList ++ h.recuperados }
  | .avanza secs => some { h with almacen.now := h.almacen.now + secs }

/-- Packets are saved that there are, and none of them twice. -/
def Permitido (h : Historia) : Llamada → Prop
  | .guarda q => q ∉ h.usados ∧ (h.almacen.paquetes q).isSome
  | .recupera _ => True
  | .avanza _ => True

instance (h : Historia) : (e : Llamada) → Decidable (h.Permitido e)
  | .guarda _ => inferInstanceAs (Decidable (_ ∧ _))
  | .recupera _ => .isTrue trivial
  | .avanza _ => .isTrue trivial

/-- The ids of the packets that went into buffer `i`, the last one first. -/
def idsDe (h : Historia) (i : Fin nPktBuffers) : List UInt32 :=
  (h.guardados.map Guardado.id).filter (fun id => ranura id.toNat = i)

structure Fiel (h : Historia) : Prop where
  cuenta : ∀ i, ∃ n, h.idsDe i = idsTras i n ∧ (h.almacen.dpb.buffers i).cookie = cookieTras n
  validos : ∀ g ∈ h.guardados, g.id ≠ noBuffer
  usado : ∀ g ∈ h.guardados, g.pkt ∈ h.usados
  unaVez : (h.guardados.map Guardado.pkt).Nodup
  suelto : ∀ q pkt, h.almacen.paquetes q = some pkt → q ∉ h.usados → pkt.bufferId = noBuffer
  ocupante : ∀ i q, (h.almacen.dpb.buffers i).pkt = some q →
    (∃ g ∈ h.guardados, g.pkt = q ∧ ranura g.id.toNat = i ∧
      (h.almacen.dpb.buffers i).cookie = g.id >>> 8) ∧
    (h.almacen.paquetes q).isSome ∧ q ∉ h.recuperados.map Prod.snd
  devuelto : ∀ r ∈ h.recuperados, ∃ g ∈ h.guardados, g.id = r.1 ∧ g.pkt = r.2
  unaVuelta : (h.recuperados.map Prod.snd).Nodup
  reciente : ∀ g ∈ h.guardados, h.almacen.now < g.cuando + overwriteSecs →
    g.pkt ∉ h.recuperados.map Prod.snd →
    h.almacen.dpb.buffers (ranura g.id.toNat) =
      ⟨some g.pkt, g.id >>> 8, g.cuando + overwriteSecs⟩

theorem fiel_inicio {now : Nat} {paquetes : Nat → Option Packet}
    (h : ∀ q pkt, paquetes q = some pkt → pkt.bufferId = noBuffer) :
    (inicio now paquetes).Fiel where
  cuenta _ := ⟨0, rfl, rfl⟩
  validos _ hg := nomatch hg
  usado _ hg := nomatch hg
  unaVez := nodup_nil
  suelto q pkt hq _ := h q pkt hq
  ocupante _ _ hp := nomatch hp
  devuelto _ hr := nomatch hr
  unaVuelta := nodup_nil
  reciente _ hg := nomatch hg

section Pasos

variable {h : Historia} {q : Nat} {pkt : Packet}

theorem Fiel.ocupante_unico (hf : h.Fiel) {i j : Fin nPktBuffers}
    (hi : (h.almacen.dpb.buffers i).pkt = some q) (hj : (h.almacen.dpb.buffers j).pkt = some q) :
    i = j := by
  obtain ⟨⟨g, hg, hgq, rfl, _⟩, _⟩ := hf.ocupante i q hi
  obtain ⟨⟨g', hg', hgq', rfl, _⟩, _⟩ := hf.ocupante j q hj
  rw [inj_on_of_nodup_map hf.unaVez hg hg' (hgq.trans hgq'.symm)]

theorem Fiel.sinGuardar (hf : h.Fiel) (hq : q ∉ h.usados) (i : Fin nPktBuffers) :
    (h.almacen.dpb.buffers i).pkt ≠ some q := by
  intro hi
  obtain ⟨⟨g, hg, rfl, _⟩, _⟩ := hf.ocupante i q hi
  exact hq (hf.usado g hg)

theorem Fiel.ocupada (hf : h.Fiel) :
    Fiel { h with almacen := h.almacen.avanza, usados := q :: h.usados } where
  cuenta := hf.cuenta
  validos := hf.validos
  usado g hg := mem_cons_of_mem _ (hf.usado g hg)
  unaVez := hf.unaVez
  suelto q' pkt' hq' hu := hf.suelto q' pkt' hq' fun hmem => hu (mem_cons_of_mem _ hmem)
  ocupante := hf.ocupante
  devuelto := hf.devuelto
  unaVuelta := hf.unaVuelta
  reciente := hf.reciente

theorem idsDe_guardado (h : Historia) (g : Guardado) (s : Almacen) (usados : List Nat)
    (i : Fin nPktBuffers) :
    idsDe { h with almacen := s, guardados := g :: h.guardados, usados := usados } i =
      if ranura g.id.toNat = i then g.id :: h.idsDe i else h.idsDe i := by
  unfold idsDe
  rw [map_cons, filter_cons]
  simp

/-- **A packet goes into a buffer.** -/
theorem Fiel.guardada (hf : h.Fiel) (hq : q ∉ h.usados)
    (hven : ∀ old, (h.almacen.dpb.buffers h.almacen.siguiente).pkt = some old →
      old ≠ q ∧ (h.almacen.dpb.buffers h.almacen.siguiente).timeout ≤ h.almacen.now) :
    Fiel {
      h with
      almacen := h.almacen.guardada q pkt
      guardados := ⟨q, h.almacen.idNuevo, h.almacen.now⟩ :: h.guardados
      usados := q :: h.usados } where
  cuenta i := by
    obtain ⟨n, hids, hc⟩ := hf.cuenta i
    rw [idsDe_guardado, Almacen.ranura_idNuevo]
    by_cases hi : h.almacen.siguiente = i
    · subst hi
      refine ⟨n + 1, ?_, ?_⟩
      · rw [if_pos rfl, hids, idsTras, ← cookieSiguiente_tras, ← hc]
        rfl
      · rw [← cookieSiguiente_tras, ← hc, Almacen.guardada_siguiente, Almacen.idNuevo_shiftRight]
    · refine ⟨n, ?_, ?_⟩
      · rw [if_neg hi, hids]
      · rw [← hc, Almacen.guardada_otro (Ne.symm hi)]
  validos g hg := by
    rcases mem_cons.mp hg with rfl | hg
    · exact h.almacen.idNuevo_ne_noBuffer
    · exact hf.validos g hg
  usado g hg := by
    rcases mem_cons.mp hg with rfl | hg
    · exact mem_cons_self
    · exact mem_cons_of_mem _ (hf.usado g hg)
  unaVez := by
    refine nodup_cons.mpr ⟨fun hmem => ?_, hf.unaVez⟩
    obtain ⟨g, hg, rfl⟩ := mem_map.mp hmem
    exact hq (hf.usado g hg)
  suelto q' pkt' hq' hu := by
    obtain ⟨hne, hu⟩ := not_or.mp (mem_cons.not.mp hu)
    rw [Almacen.guardada_paquetes hne] at hq'
    split at hq'
    · cases hq'
    · exact hf.suelto q' pkt' hq' hu
  ocupante i q' hi := by
    by_cases hi' : i = h.almacen.siguiente
    · subst hi'
      rw [Almacen.guardada_siguiente] at hi
      cases hi
      refine ⟨⟨_, mem_cons_self, rfl, h.almacen.ranura_idNuevo, ?_⟩, ?_, fun hmem => ?_⟩
      · rw [Almacen.guardada_siguiente]
      · rw [Almacen.guardada_paquete]
        rfl
      · obtain ⟨r, hr, rfl⟩ := mem_map.mp hmem
        obtain ⟨g, hg, _, hgr⟩ := hf.devuelto r hr
        exact hq (hgr ▸ hf.usado g hg)
    · rw [Almacen.guardada_otro hi'] at hi
      obtain ⟨⟨g, hg, hgi⟩, hvivo, hvuelta⟩ := hf.ocupante i q' hi
      refine ⟨⟨g, mem_cons_of_mem _ hg, ?_⟩, ?_, hvuelta⟩
      · rwa [Almacen.guardada_otro hi']
      · -- what was destroyed was in another buffer
        have hne : q' ≠ q := by
          rintro rfl
          exact hf.sinGuardar hq i hi
        rw [Almacen.guardada_paquetes hne, if_neg fun hsig => hi' (hf.ocupante_unico hi hsig)]
        exact hvivo
  devuelto r hr := by
    obtain ⟨g, hg, hgr⟩ := hf.devuelto r hr
    exact ⟨g, mem_cons_of_mem _ hg, hgr⟩
  unaVuelta := hf.unaVuelta
  reciente g hg hnow hvuelta := by
    rcases mem_cons.mp hg with rfl | hg
    · rw [Almacen.ranura_idNuevo, Almacen.guardada_siguiente]
    · have hg' := hf.reciente g hg hnow hvuelta
      rw [Almacen.guardada_otro, hg']
      -- a buffer whose time has not come is not taken
      intro hsig
      rw [hsig] at hg'
      have htarde := (hven g.pkt (by rw [hg'])).2
      rw [hg'] at htarde
      exact absurd hnow (Nat.not_lt.mpr htarde)

/-- **A packet comes back.** -/
theorem Fiel.sacada (hf : h.Fiel) {id : UInt32}
    (hc : (h.almacen.bufer id).cookie = id >>> 8) (hp : (h.almacen.bufer id).pkt = some q) :
    Fiel {
      h with
      almacen := h.almacen.sacada id q pkt
      recuperados := (id, q) :: h.recuperados } where
  cuenta i := by
    rw [Almacen.sacada_cookie]
    exact hf.cuenta i
  validos := hf.validos
  usado := hf.usado
  unaVez := hf.unaVez
  suelto q' pkt' hq' hu := by
    have hne : q' ≠ q := by
      rintro rfl
      obtain ⟨⟨g, hg, rfl, _⟩, _⟩ := hf.ocupante _ q' hp
      exact hu (hf.usado g hg)
    rw [Almacen.sacada_paquetes hne] at hq'
    exact hf.suelto q' pkt' hq' hu
  ocupante i q' hi := by
    obtain ⟨hne, hantes⟩ := Almacen.pkt_of_sacada hi
    obtain ⟨⟨g, hg, hgi⟩, hvivo, hvuelta⟩ := hf.ocupante i q' hantes
    have hq' : q' ≠ q := by
      rintro rfl
      exact hne (hf.ocupante_unico hantes hp)
    refine ⟨⟨g, hg, ?_⟩, ?_, ?_⟩
    · rwa [Almacen.sacada_cookie]
    · rwa [Almacen.sacada_paquetes hq']
    · exact not_mem_cons_of_ne_of_not_mem hq' hvuelta
  devuelto r hr := by
    rcases mem_cons.mp hr with rfl | hr
    · obtain ⟨⟨g, hg, hgq, hgi, hgc⟩, _⟩ := hf.ocupante _ q hp
      -- the buffer and the cookie are those of one id only
      refine ⟨g, hg, ?_, hgq⟩
      rw [← idDe_partes g.id, hgi, ← hgc]
      exact (congrArg _ hc).trans (idDe_partes id)
    · exact hf.devuelto r hr
  unaVuelta := nodup_cons.mpr ⟨(hf.ocupante _ q hp).2.2, hf.unaVuelta⟩
  reciente g hg hnow hvuelta := by
    obtain ⟨hne, hvuelta⟩ := not_or.mp (mem_cons.not.mp hvuelta)
    have hg' := hf.reciente g hg hnow hvuelta
    rw [Almacen.sacada_otro, hg']
    intro heq
    rw [heq] at hg'
    have hgq : (h.almacen.bufer id).pkt = some g.pkt := congrArg PacketBuffer.pkt hg'
    exact hne (Option.some.inj (hgq.symm.trans hp))

theorem Fiel.avanza (hf : h.Fiel) (secs : Nat) :
    Fiel { h with almacen.now := h.almacen.now + secs } where
  cuenta := hf.cuenta
  validos := hf.validos
  usado := hf.usado
  unaVez := hf.unaVez
  suelto := hf.suelto
  ocupante := hf.ocupante
  devuelto := hf.devuelto
  unaVuelta := hf.unaVuelta
  reciente g hg hnow := hf.reciente g hg (Nat.lt_of_le_of_lt (Nat.le_add_right _ _) hnow)

/-- **What one step keeps.** -/
theorem Fiel.paso (hf : h.Fiel) {e : Llamada} {h' : Historia} (hok : h.Permitido e)
    (hp : h.paso e = some h') : h'.Fiel := by
  cases e with
  | guarda q =>
    obtain ⟨hq, hvivo⟩ := hok
    obtain ⟨pkt, hpkt⟩ := Option.isSome_iff_exists.mp hvivo
    obtain ⟨⟨s, id⟩, hs, hp⟩ := Option.bind_eq_some_iff.mp hp
    cases hp
    cases Almacen.dpBuffersSave_guarda hpkt hs with
    | vigente hv => exact absurd (hf.suelto q pkt hpkt hq) hv.1
    | ocupada _ _ _ =>
      rw [if_neg fun ⟨i, hi⟩ => hf.sinGuardar hq i hi]
      exact hf.ocupada
    | nueva _ hven =>
      rw [if_pos ⟨_, congrArg PacketBuffer.pkt Almacen.guardada_siguiente⟩]
      exact hf.guardada hq hven
  | recupera id =>
    obtain ⟨⟨s, r⟩, hs, hp⟩ := Option.bind_eq_some_iff.mp hp
    cases hp
    rcases Almacen.dpBuffersRetrieve_cases hs with ⟨rfl, rfl⟩ | ⟨q, pkt, hc, hpkt, _, rfl, rfl⟩
    · exact hf
    · exact hf.sacada hc hpkt
  | avanza secs =>
    cases hp
    exact hf.avanza secs

theorem Fiel.posible (hf : h.Fiel) {e : Llamada} (hok : h.Permitido e) :
    ∃ h', h.paso e = some h' := by
  cases e with
  | guarda q =>
    obtain ⟨hq, hvivo⟩ := hok
    obtain ⟨pkt, hpkt⟩ := Option.isSome_iff_exists.mp hvivo
    obtain ⟨r, hr⟩ := Almacen.dpBuffersSave_definida hpkt fun old hold =>
      ⟨(hf.ocupante _ old hold).2.1, fun heq => absurd (heq ▸ hold) (hf.sinGuardar hq _)⟩
    exact ⟨_, Option.bind_eq_some_iff.mpr ⟨r, hr, rfl⟩⟩
  | recupera id =>
    have hvivos : ∀ q, (h.almacen.bufer id).pkt = some q → (h.almacen.paquetes q).isSome :=
      fun q hq => (hf.ocupante _ q hq).2.1
    obtain ⟨r, hr⟩ := Almacen.dpBuffersRetrieve_definida hvivos
    exact ⟨_, Option.bind_eq_some_iff.mpr ⟨r, hr, rfl⟩⟩
  | avanza secs => exact ⟨_, rfl⟩

theorem Fiel.nodup (hf : h.Fiel) (hpocos : ∀ i, (h.idsDe i).length < 2 ^ 24 - 1) :
    (h.guardados.map Guardado.id).Nodup := by
  rw [nodup_iff_count_le_one]
  intro id
  obtain ⟨n, hids, _⟩ := hf.cuenta (ranura id.toNat)
  have hlen := hpocos (ranura id.toNat)
  rw [hids, length_idsTras] at hlen
  -- an id is only in the list of its own buffer
  have hcount : (h.guardados.map Guardado.id).count id = (h.idsDe (ranura id.toNat)).count id :=
    (count_filter (by simp)).symm
  rw [hcount, hids]
  exact nodup_iff_count_le_one.mp (nodup_idsTras hlen.le) id

theorem Fiel.recupera (hf : h.Fiel) {g : Guardado} (hg : g ∈ h.guardados)
    (hnow : h.almacen.now < g.cuando + overwriteSecs)
    (hvuelta : g.pkt ∉ h.recuperados.map Prod.snd) :
    ∃ s, h.almacen.dpBuffersRetrieve g.id = some (s, some g.pkt) := by
  have hg' : h.almacen.bufer g.id = _ := hf.reciente g hg hnow hvuelta
  have hp := congrArg PacketBuffer.pkt hg'
  obtain ⟨pkt, hpkt⟩ := Option.isSome_iff_exists.mp (hf.ocupante _ g.pkt hp).2.1
  exact Almacen.dpBuffersRetrieve_ocupante (congrArg PacketBuffer.cookie hg') hp hpkt

end Pasos

end Historia

/-- **Packet buffers**, while no buffer goes through its cookies: ids are different and not
`NO_BUFFER`; a packet comes back only for its id and once, and does before its time has come; no
call reads memory that was given back. -/
theorem packet_buffers {now : Nat} {paquetes : Nat → Option Packet} {h : Historia}
    (hpool : ∀ q pkt, paquetes q = some pkt → pkt.bufferId = noBuffer)
    (hrun : Run Historia.paso Historia.Permitido (Historia.inicio now paquetes) h)
    (hpocos : ∀ i, (h.idsDe i).length < 2 ^ 24 - 1) :
    ((∀ g ∈ h.guardados, g.id ≠ noBuffer) ∧ (h.guardados.map Guardado.id).Nodup) ∧
    ((∀ r ∈ h.recuperados, ∃ g ∈ h.guardados, g.id = r.1 ∧ g.pkt = r.2) ∧
      (h.recuperados.map Prod.snd).Nodup) ∧
    (∀ g ∈ h.guardados, h.almacen.now < g.cuando + overwriteSecs →
      g.pkt ∉ h.recuperados.map Prod.snd →
      ∃ s, h.almacen.dpBuffersRetrieve g.id = some (s, some g.pkt)) ∧
    ∀ e, h.Permitido e → ∃ h', h.paso e = some h' := by
  have hf : h.Fiel := hrun.invariant (Historia.fiel_inicio hpool) fun _ _ _ hf hok hs =>
    hf.paso hok hs
  exact ⟨⟨hf.validos, hf.nodup hpocos⟩, ⟨hf.devuelto, hf.unaVuelta⟩,
    fun _ hg hnow hvuelta => hf.recupera hg hnow hvuelta, fun _ hok => hf.posible hok⟩

/-- Three packets, the second of which is asked for, and asked for again, when one second has
    passed. The third is saved after that second and is still there. -/
theorem packet_buffers_tres : ∃ h,
    Run Historia.paso Historia.Permitido
      (Historia.inicio 100 fun q => if q < 3 then some ⟨[], false, noBuffer, 0, false⟩ else none)
      h ∧
    h.guardados = [⟨2, 2, 101⟩, ⟨1, 1, 100⟩, ⟨0, 0, 100⟩] ∧ h.recuperados = [(1, 1)] ∧
    (h.guardados.map Guardado.id).Nodup ∧
    ∃ s, h.almacen.dpBuffersRetrieve 2 = some (s, some 2) := by
  obtain ⟨h, hrun, hg, hr, hnow⟩ := Run.exists_exec Historia.paso Historia.Permitido
    [.guarda 0, .guarda 1, .avanza 1, .recupera 1, .recupera 1, .guarda 2]
    (Historia.inicio 100 fun q => if q < 3 then some ⟨[], false, noBuffer, 0, false⟩ else none)
    (fun h => h.guardados = [⟨2, 2, 101⟩, ⟨1, 1, 100⟩, ⟨0, 0, 100⟩] ∧
      h.recuperados = [(1, 1)] ∧ h.almacen.now = 101)
    (by decide +kernel)
  have hpool : ∀ q pkt,
      (if q < 3 then some (⟨[], false, noBuffer, 0, false⟩ : Packet) else none) = some pkt →
        pkt.bufferId = noBuffer := by
    intro q pkt hq
    split at hq
    · cases hq
      rfl
    · cases hq
  have hpocos : ∀ i, (h.idsDe i).length < 2 ^ 24 - 1 := by
    intro i
    refine Nat.lt_of_le_of_lt (length_filter_le ..) ?_
    simp [hg]
  obtain ⟨⟨_, hnodup⟩, _, hreciente, _⟩ := packet_buffers hpool hrun hpocos
  refine ⟨h, hrun, hg, hr, hnodup, hreciente ⟨2, 2, 101⟩ (by simp [hg]) ?_ (by simp [hr])⟩
  rw [hnow]
  decide

end TcpPath.Udatapath
