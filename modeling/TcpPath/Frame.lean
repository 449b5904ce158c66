/-
  Subject:   Frames as byte buffers, the header pointers of `struct protocols_std` as offsets
             into the buffer, and the functions of dp_ports.c that rewrite a frame.

  The packet decoder (NetBee, called by `nblink_packet_parse`) is not part of the repository:
  it is the parameter `Parser` of everything that validates a handle. A header pointer of the
  source (`proto->tcp`) is the offset of that header in `pkt->buffer`, `none` for NULL; the
  Ethernet header is always present. Header fields are read as the source reads them on a
  little-endian machine: 16-bit fields are compared in the byte order they have in memory
  (`eth_type == 1544` is ARP, 0x0806 on the wire).
-/
import Mathlib

namespace TcpPath

/-! ## 1. Bytes -/

abbrev Bytes := List UInt8

/-- An Ethernet address, `uint8_t [ETH_ADDR_LEN]`. -/
abbrev EthAddr := Fin 6 → UInt8

def byteAt (b : Bytes) (k : Nat) : UInt8 := b.getD k 0

/-- The address stored at offset `k`. -/
def macAt (b : Bytes) (k : Nat) : EthAddr := fun i => byteAt b (k + i)

/-- A `uint16_t` field at offset `k`, as a little-endian machine loads it. -/
def le16At (b : Bytes) (k : Nat) : Nat := (byteAt b k).toNat + 256 * (byteAt b (k + 1)).toNat

/-- `memcpy` of `d` over the bytes of `b` from offset `k` on (within the buffer). -/
def writeAt (b : Bytes) (k : Nat) (d : Bytes) : Bytes :=
  b.mapIdx fun j x => if k ≤ j ∧ j < k + d.length then byteAt d (j - k) else x

/-- The six bytes of an address. -/
def EthAddr.bytes (m : EthAddr) : Bytes := [m 0, m 1, m 2, m 3, m 4, m 5]

def ethAddrBroadcast : EthAddr := fun _ => 0xff

/-- `(ea[0] & ea[1] & ea[2] & ea[3] & ea[4] & ea[5]) == 0xff`. -/
def ethAddrIsBroadcast (ea : EthAddr) : Bool :=
  ea 0 &&& ea 1 &&& ea 2 &&& ea 3 &&& ea 4 &&& ea 5 == 0xff

/-- `ea[0] & 1`. -/
def ethAddrIsMulticast (ea : EthAddr) : Bool := ea 0 &&& 1 != 0

@[simp] theorem length_writeAt (b : Bytes) (k : Nat) (d : Bytes) :
    (writeAt b k d).length = b.length := by
  simp [writeAt]

theorem byteAt_writeAt (b : Bytes) (k : Nat) (d : Bytes) (j : Nat) :
    byteAt (writeAt b k d) j =
      if k ≤ j ∧ j < k + d.length ∧ j < b.length then byteAt d (j - k) else byteAt b j := by
  unfold writeAt byteAt
  rw [List.getD_eq_getElem?_getD, List.getElem?_mapIdx, List.getD_eq_getElem?_getD (l := b)]
  by_cases hj : j < b.length
  · rw [List.getElem?_eq_getElem hj]
    by_cases hk : k ≤ j ∧ j < k + d.length
    · rw [if_pos ⟨hk.1, hk.2, hj⟩]
      simp [hk]
    · rw [if_neg fun h => hk ⟨h.1, h.2.1⟩]
      simp [hk]
  · rw [List.getElem?_eq_none (Nat.le_of_not_lt hj), if_neg fun h => hj h.2.2]
    rfl

variable {k : Nat} {a b c : Bytes} {l : Nat}

theorem byteAt_writeAt_of_not (b : Bytes) {j : Nat} (d : Bytes) (h : j < k ∨ k + d.length ≤ j) :
    byteAt (writeAt b k d) j = byteAt b j := by
  rw [byteAt_writeAt, if_neg]
  rintro ⟨h1, h2, _⟩
  omega

theorem byteAt_append_left (h : k < a.length) : byteAt (a ++ b) k = byteAt a k := by
  unfold byteAt
  rw [List.getD_append _ _ _ _ h]

theorem byteAt_append_right (h : a.length ≤ k) : byteAt (a ++ b) k = byteAt b (k - a.length) := by
  unfold byteAt
  rw [List.getD_append_right _ _ _ _ h]

theorem byteAt_take {n : Nat} (h : k < n) : byteAt (b.take n) k = byteAt b k := by
  unfold byteAt
  rw [List.getD_eq_getElem?_getD, List.getD_eq_getElem?_getD, List.getElem?_take, if_pos h]

theorem macAt_congr (h : ∀ i < 6, byteAt b (k + i) = byteAt c (l + i)) : macAt b k = macAt c l :=
  funext fun i => h i i.isLt

theorem le16At_congr (h0 : byteAt b k = byteAt c l) (h1 : byteAt b (k + 1) = byteAt c (l + 1)) :
    le16At b k = le16At c l := by
  unfold le16At
  rw [h0, h1]

theorem byteAt_bytes (m : EthAddr) (i : Fin 6) : byteAt m.bytes i = m i := by
  fin_cases i <;> rfl

@[simp] theorem length_bytes (m : EthAddr) : m.bytes.length = 6 := rfl

/-! ## 2. The packet and its headers -/

/-- `struct protocols_std`: where the decoder found the headers the switch reads. -/
structure ProtocolsStd where
  eth : Nat
  mpls : Option Nat
  ipv4 : Option Nat
  arp : Option Nat
  tcp : Option Nat
  path : Option Nat
  arppath : Option Nat
  arppathRepair : Option Nat
  deriving DecidableEq, Repr

/-- `nblink_packet_parse`: the decoder, as the header pointers it leaves. -/
abbrev Parser := Bytes → ProtocolsStd

/-- `struct packet`, with the handle's header pointers. -/
structure Packet where
  inPort : Nat
  buffer : Bytes
  proto : ProtocolsStd
  deriving DecidableEq, Repr

/-- `packet_create`. -/
def packetCreate (parse : Parser) (inPort : Nat) (buf : Bytes) : Packet :=
  ⟨inPort, buf, parse buf⟩

/-- `pkt->handle_std->valid = false; packet_handle_std_validate(...)` after the buffer became
    `buf`. -/
def Packet.revalidate (pkt : Packet) (parse : Parser) (buf : Bytes) : Packet :=
  { pkt with buffer := buf, proto := parse buf }

namespace Packet

def ethDst (pkt : Packet) : EthAddr := macAt pkt.buffer pkt.proto.eth
def ethSrc (pkt : Packet) : EthAddr := macAt pkt.buffer (pkt.proto.eth + 6)
def ethType (pkt : Packet) : Nat := le16At pkt.buffer (pkt.proto.eth + 12)

/-- `tcp_src` and `tcp_dst` of a `struct tcp_header` or `struct path_header` at offset `t`. -/
def tcpSrc (pkt : Packet) (t : Nat) : Nat := le16At pkt.buffer t
def tcpDst (pkt : Packet) (t : Nat) : Nat := le16At pkt.buffer (t + 2)

/-- `TCP_FLAGS(tcp_ctl)`: `htons(tcp_ctl) & 0x003f`. -/
def tcpFlags (pkt : Packet) (t : Nat) : Nat := (byteAt pkt.buffer (t + 13)).toNat % 64

/-- `ar_op / 256` of a `struct arp_eth_header` at offset `a`. -/
def arOpHigh (pkt : Packet) (a : Nat) : Nat := le16At pkt.buffer (a + 6) / 256

/-- Broadcast or multicast destination. -/
def isFlooded (pkt : Packet) : Bool :=
  ethAddrIsBroadcast pkt.ethDst || ethAddrIsMulticast pkt.ethDst

end Packet

def tcpSyn : Nat := 0x02
def tcpSynAck : Nat := 0x02 + 0x10
def ipTypeTcp : UInt8 := 6
def ipTypePath : UInt8 := 253

/-- The bytes `encapsulate_path_request_tcp` appends: `op`, `mac_dst`, `id_dp`, `secuence`,
    `contador`. -/
def trailerLen : Nat := 1 + 6 + 2 + 4 + 1

/-- `packet_handle_std_is_ttl_valid`. -/
def packetHandleStdIsTtlValid (pkt : Packet) : Bool :=
  (match pkt.proto.mpls with
    | some m => decide (1 < (byteAt pkt.buffer (m + 3)).toNat)
    | none => true) &&
  (match pkt.proto.ipv4 with
    | some i => decide (1 ≤ (byteAt pkt.buffer (i + 8)).toNat)
    | none => true)

/-! ## 3. The PATH trailer -/

/-- The destination MAC of the trailer: the six bytes at
    `size - ETH_ADDR_LEN - sizeof(uint16_t) - sizeof(uint32_t) - sizeof(uint8_t)`. -/
def Packet.trailerMac (pkt : Packet) : EthAddr :=
  macAt pkt.buffer (pkt.buffer.length - 6 - 2 - 4 - 1)

/-- The `op` byte `select_packet_tcp_path` reads from the trailer. -/
def Packet.trailerOp (pkt : Packet) : UInt8 :=
  byteAt pkt.buffer (pkt.buffer.length - 1 - 6 - 2 - 4 - 1)

/-- `aux_16 = (id >> 8) | (id << 8)` as it lies in memory. -/
def idDpBytes (id : Nat) : Bytes :=
  [UInt8.ofNat (id / 256), UInt8.ofNat (id / 65536) ||| UInt8.ofNat id]

/-- The byte-swapped `secuence_path_generic` as it lies in memory. -/
def secuenceBytes (s : Nat) : Bytes :=
  [UInt8.ofNat (s / 16777216), UInt8.ofNat (s / 65536), UInt8.ofNat (s / 256), UInt8.ofNat s]

/-- The trailer of a fresh PATH request. -/
def pathTrailer (macDst : EthAddr) (id secuence : Nat) : Bytes :=
  [0x01] ++ macDst.bytes ++ idDpBytes id ++ secuenceBytes secuence ++ [1]

theorem length_pathTrailer (m : EthAddr) (id s : Nat) :
    (pathTrailer m id s).length = trailerLen := rfl

/-- `encapsulate_path_request_tcp`: the packet and `secuence_path_generic` afterwards. `none` is
    the NULL access through `proto->ipv4` of a TCP segment without an IPv4 header. -/
def encapsulatePathRequestTcp (parse : Parser) (idDp secuence : Nat) (pkt : Packet) :
    Option (Packet × Nat) :=
  match pkt.proto.tcp with
  | some t =>
      if pkt.buffer.length < 93 ∧ pkt.proto.path = none ∧ pkt.tcpFlags t = tcpSyn then
        match pkt.proto.ipv4 with
        | some i =>
            let b := writeAt pkt.buffer pkt.proto.eth ethAddrBroadcast.bytes
            let b := writeAt b (i + 9) [ipTypePath]
            let b := b ++ pathTrailer pkt.ethDst idDp secuence
            some (pkt.revalidate parse b, (secuence + 1) % 2 ^ 32)
        | none => none
      else some (pkt, secuence)
  | none => some (pkt, secuence)

/-- The four zero bytes (`nyapa`) that `desencapsulate_path_request_tcp` writes into frames of
    86 and 74 bytes. -/
def nyapa (b : Bytes) : Bytes :=
  if b.length = 86 then writeAt b (b.length - 10) [0, 0, 0, 0]
  else if b.length = 74 then writeAt b (b.length - 8) [0, 0, 0, 0]
  else b

/-- `desencapsulate_path_request_tcp`. The handle is validated before the `nyapa` bytes are
    written. -/
def desencapsulatePathRequestTcp (parse : Parser) (pkt : Packet) (op : UInt8) : Option Packet :=
  match pkt.proto.ipv4 with
  | some i =>
      let b := if op = 1 then writeAt pkt.buffer pkt.proto.eth pkt.trailerMac.bytes else pkt.buffer
      let b := writeAt b (i + 9) [ipTypeTcp]
      let b := b.take (b.length - trailerLen)
      some { pkt with buffer := nyapa b, proto := parse b }
  | none => none

/-- `switch_track_tcp` of a frame with its PATH header at `h`: the hop counter, the last byte of
    the trailer, goes up by one. The counting is done in `proto->path->contador`, and `proto->path`
    points into the buffer: the byte at `h + 33` is overwritten with the counter, whether the
    trailer ends there or not. -/
def switchTrackTcp (parse : Parser) (pkt : Packet) (h : Nat) : Packet :=
  let k := pkt.buffer.length - 1
  let contador := byteAt pkt.buffer k + 1
  pkt.revalidate parse (writeAt (writeAt pkt.buffer (h + 33) [contador]) k [contador])

end TcpPath
