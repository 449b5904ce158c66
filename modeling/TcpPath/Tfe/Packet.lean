/-
  Subject:   The ns-3 switch's packets: the PATH header (path-header.cc), the functions of
             tfe-switch.cc that put it on and take it off, and `TypeOfPacket`.

  An ns-3 packet is its bytes and the list of items its metadata keeps, outermost first. The
  headers of ns-3 itself (Ethernet, ARP, TCP) are not part of the repository: what the switch
  reads of them is the parameter `Cabeceras`. Two things `TypeOfPacket` reads may be
  indeterminate, and `Indet` stands for them: a `packet_type` that no header assigned, and the
  heap behind a copy of fewer than 34 bytes.
-/
import TcpPath.Frame

namespace TcpPath.Tfe

/-! ## 1. Packets -/

/-- The type ids `TypeOfPacket` compares an item's with: `"PathHeader"`, `"ns3::EthernetHeader"`,
    `"ns3::ArpHeader"`, `"ns3::TcpHeader"`, `"ns3::Ipv4Header"`, and any other. -/
inductive HeaderTid where
  | path
  | ethernet
  | arp
  | tcp
  | ipv4
  | otro
  deriving DecidableEq, Repr

/-- `PacketMetadata::Item`: a header with its type id, a payload or a trailer, and its size. -/
inductive Item where
  | header (tid : HeaderTid) (size : Nat)
  | payload (size : Nat)
  | trailer (size : Nat)
  deriving DecidableEq, Repr

def Item.size : Item → Nat
  | header _ n => n
  | payload n => n
  | trailer n => n

/-- An ns-3 `Packet`: its buffer and its metadata, outermost item first. -/
structure Paquete where
  buffer : Bytes
  items : List Item
  deriving DecidableEq, Repr

/-- A 16-bit number from its two bytes, high byte first (`ReadNtohU16`). -/
def be16 (high low : UInt8) : UInt16 := UInt16.ofNat (256 * high.toNat + low.toNat)

/-- `WriteHtonU16`. -/
def hton16 (x : UInt16) : Bytes := [UInt8.ofNat (x.toNat / 256), UInt8.ofNat x.toNat]

@[simp] theorem be16_hton16 (x : UInt16) :
    be16 (UInt8.ofNat (x.toNat / 256)) (UInt8.ofNat x.toNat) = x := by
  have hx := x.toNat_lt
  unfold be16
  apply UInt16.toNat_inj.mp
  simp only [UInt8.toNat_ofNat', UInt16.toNat_ofNat']
  omega

/-! ## 2. The PATH header -/

/-- `PathHeader`. -/
structure PathHeader where
  src : EthAddr
  dst : EthAddr
  path : EthAddr
  jumpCount : UInt16
  tcpSrc : UInt16
  tcpDst : UInt16

namespace PathHeader

/-- `GetSerializedSize`. -/
def getSerializedSize : Nat := 2 * 2 + 6 * 3 + 2

/-- `Serialize`. -/
def serialize (h : PathHeader) : Bytes :=
  h.dst.bytes ++ h.src.bytes ++ h.path.bytes ++ hton16 h.tcpSrc ++ hton16 h.tcpDst ++
    hton16 h.jumpCount

/-- `Deserialize`, from the beginning of `b`. -/
def deserialize (b : Bytes) : PathHeader where
  dst := macAt b 0
  src := macAt b 6
  path := macAt b 12
  tcpSrc := be16 (byteAt b 18) (byteAt b 19)
  tcpDst := be16 (byteAt b 20) (byteAt b 21)
  jumpCount := be16 (byteAt b 22) (byteAt b 23)

/-- `IncremenJumpCount`. -/
def incremenJumpCount (h : PathHeader) : PathHeader := { h with jumpCount := h.jumpCount + 1 }

@[simp] theorem length_serialize (h : PathHeader) : h.serialize.length = getSerializedSize := rfl

theorem macAt_bytes (m : EthAddr) (pre post : Bytes) :
    macAt (pre ++ m.bytes ++ post) pre.length = m := by
  funext i
  have hi : (i : Nat) < m.bytes.length := i.isLt
  unfold macAt
  rw [List.append_assoc, byteAt_append_right (Nat.le_add_right _ _), Nat.add_sub_cancel_left,
    byteAt_append_left hi, byteAt_bytes]

/-- **The header is read back as it was written**, whatever follows it. -/
theorem deserialize_serialize (h : PathHeader) (rest : Bytes) :
    deserialize (h.serialize ++ rest) = h := by
  have hdst : macAt (h.serialize ++ rest) 0 = h.dst := by
    simpa [serialize] using macAt_bytes h.dst [] (h.src.bytes ++ h.path.bytes ++
      hton16 h.tcpSrc ++ hton16 h.tcpDst ++ hton16 h.jumpCount ++ rest)
  have hsrc : macAt (h.serialize ++ rest) 6 = h.src := by
    simpa [serialize] using macAt_bytes h.src h.dst.bytes (h.path.bytes ++
      hton16 h.tcpSrc ++ hton16 h.tcpDst ++ hton16 h.jumpCount ++ rest)
  have hpath : macAt (h.serialize ++ rest) 12 = h.path := by
    simpa [serialize] using macAt_bytes h.path (h.dst.bytes ++ h.src.bytes) (
      hton16 h.tcpSrc ++ hton16 h.tcpDst ++ hton16 h.jumpCount ++ rest)
  -- the three 16-bit fields lie at fixed places of a list of fixed length
  have h1 : be16 (byteAt (h.serialize ++ rest) 18) (byteAt (h.serialize ++ rest) 19) = h.tcpSrc :=
    be16_hton16 h.tcpSrc
  have h2 : be16 (byteAt (h.serialize ++ rest) 20) (byteAt (h.serialize ++ rest) 21) = h.tcpDst :=
    be16_hton16 h.tcpDst
  have h3 : be16 (byteAt (h.serialize ++ rest) 22) (byteAt (h.serialize ++ rest) 23) =
      h.jumpCount := be16_hton16 h.jumpCount
  simp only [deserialize, hdst, hsrc, hpath, h1, h2, h3]

end PathHeader

open PathHeader

/-! ## 3. Putting the header on and taking it off -/

namespace Paquete

/-- `AddHeader` of a PATH header: its bytes go in front, and so does its item. -/
def addPath (p : Paquete) (h : PathHeader) : Paquete :=
  ⟨h.serialize ++ p.buffer, .header .path getSerializedSize :: p.items⟩

/-- `RemoveHeader` of a PATH header: the header read at the beginning of the buffer, and the
    packet without its bytes. The metadata drop their first item only if it is such a header. -/
def removePath (p : Paquete) : PathHeader × Paquete :=
  (deserialize p.buffer,
    ⟨p.buffer.drop getSerializedSize,
      if p.items.head? = some (.header .path getSerializedSize) then p.items.tail else p.items⟩)

@[simp] theorem removePath_addPath (p : Paquete) (h : PathHeader) :
    (p.addPath h).removePath = (h, p) := by
  have hdrop : (h.serialize ++ p.buffer).drop getSerializedSize = p.buffer :=
    List.drop_left' (length_serialize h)
  simp [removePath, addPath, deserialize_serialize, hdrop]

end Paquete

/-- `CreatePathPacket`, with the values of `m_tcp_src` and `m_tcp_dst`. -/
def createPathPacket (tcpSrc tcpDst : UInt16) (packet : Paquete) (src dst : EthAddr) : Paquete :=
  packet.addPath ⟨src, ethAddrBroadcast, dst, 0, tcpSrc, tcpDst⟩

/-- `DeletePathPacket`. -/
def deletePathPacket (packet : Paquete) : Paquete := packet.removePath.2

/-- `GetDstPathPaquet`. -/
def getDstPathPaquet (packet : Paquete) : EthAddr := packet.removePath.1.path

/-- `IncrementCount`. -/
def incrementCount (packet : Paquete) : Paquete :=
  packet.removePath.2.addPath packet.removePath.1.incremenJumpCount

theorem iterate_incrementCount (p : Paquete) (h : PathHeader) (k : Nat) :
    incrementCount^[k] (p.addPath h) =
      p.addPath { h with jumpCount := h.jumpCount + UInt16.ofNat k } := by
  induction k with
  | zero => simp
  | succ k ih =>
    rw [Function.iterate_succ_apply', ih]
    simp [incrementCount, incremenJumpCount, UInt16.add_assoc]

/-! ## 4. TypeOfPacket -/

/-- `PossiblePackets`. -/
inductive PossiblePackets where
  | tcpSyn
  | tcpSynAck
  | tcpAck
  | tcpFinAck
  | tcpOther
  | arpReq
  | arpRep
  | ethBroad
  | others
  | pathReq
  deriving DecidableEq, Repr

/-- What the headers of ns-3 answer when they are read from the given bytes. -/
structure Cabeceras where
  ethGetDestination : Bytes → EthAddr
  arpIsRequest : Bytes → Bool
  tcpGetFlags : Bytes → UInt8
  tcpGetSourcePort : Bytes → UInt16
  tcpGetDestinationPort : Bytes → UInt16

/-- The indeterminate values: `packet_type` before any header assigned it, and the bytes of the
    heap from the beginning of the copied buffer on. -/
structure Indet where
  packetType : PossiblePackets
  heap : Nat → UInt8

/-- What `TypeOfPacket` leaves: the value it returns, `m_tcp_src` and `m_tcp_dst`. -/
structure Clase where
  packetType : PossiblePackets
  tcpSrc : UInt16
  tcpDst : UInt16
  deriving DecidableEq, Repr

/-- The `switch (flag)` of a TCP header. -/
def tipoTcp (flag : UInt8) : PossiblePackets :=
  if flag = 2 then .tcpSyn
  else if flag = 16 then .tcpAck
  else if flag = 17 then .tcpFinAck
  else if flag = 18 then .tcpSynAck
  else .others

/-- The `switch (flag)` of an IPv4 header; here FIN+PSH+ACK counts as FIN+ACK. -/
def tipoIpv4 (flag : UInt8) : PossiblePackets :=
  if flag = 25 then .tcpFinAck else tipoTcp flag

/-- `buffer[k]` of a copy of the packet, allocated with the packet's size. -/
def copia (ind : Indet) (b : Bytes) (k : Nat) : UInt8 :=
  if k < b.length then byteAt b k else ind.heap k

section TypeOfPacket

variable (c : Cabeceras) (ind : Indet) (p : Paquete)

/-- One header of type `tid` at offset `off` of the packet. -/
def leeCabecera (off : Nat) (tid : HeaderTid) (k : Clase) : Clase :=
  match tid with
  | .path =>
      let h := deserialize (p.buffer.drop off)
      ⟨.pathReq, h.tcpSrc, h.tcpDst⟩
  | .ethernet =>
      { k with packetType :=
          if c.ethGetDestination (p.buffer.drop off) = ethAddrBroadcast then .ethBroad
          else .others }
  | .arp =>
      { k with packetType := if c.arpIsRequest (p.buffer.drop off) then .arpReq else .arpRep }
  | .tcp =>
      ⟨tipoTcp (c.tcpGetFlags (p.buffer.drop off)), c.tcpGetSourcePort (p.buffer.drop off),
        c.tcpGetDestinationPort (p.buffer.drop off)⟩
  | .ipv4 =>
      -- the ports are read at fixed offsets of the whole packet, not behind this header
      ⟨tipoIpv4 (copia ind p.buffer 33), be16 (copia ind p.buffer 20) (copia ind p.buffer 21),
        be16 (copia ind p.buffer 22) (copia ind p.buffer 23)⟩
  | .otro => { k with packetType := .others }

/-- The loop over the metadata, at offset `off` of the packet. It breaks at a PATH header. -/
def recorre : Nat → List Item → Clase → Clase
  | _, [], k => k
  | off, .header .path _ :: _, k => leeCabecera c ind p off .path k
  | off, .header tid n :: items, k => recorre (off + n) items (leeCabecera c ind p off tid k)
  | off, .payload n :: items, k => recorre (off + n) items k
  | off, .trailer n :: items, k => recorre (off + n) items k

/-- `TypeOfPacket`, with the values `m_tcp_src` and `m_tcp_dst` have before. -/
def typeOfPacket (tcpSrc tcpDst : UInt16) : Clase :=
  recorre c ind p 0 p.items ⟨ind.packetType, tcpSrc, tcpDst⟩

end TypeOfPacket

/-- **PATH header round trip**: after `k` switches the request still names the destination and
    the ports, and the packet inside is the original one. -/
theorem path_packet_round_trip (c : Cabeceras) (ind : Indet) (p : Paquete) (src dst : EthAddr)
    (tcpSrc tcpDst oldSrc oldDst : UInt16) (k : Nat) :
    let q := incrementCount^[k] (createPathPacket tcpSrc tcpDst p src dst)
    getDstPathPaquet q = dst ∧
      typeOfPacket c ind q oldSrc oldDst = ⟨.pathReq, tcpSrc, tcpDst⟩ ∧
      deletePathPacket q = p ∧
      q.removePath.1.jumpCount.toNat = k % 2 ^ 16 := by
  intro q
  have hq : q = p.addPath ⟨src, ethAddrBroadcast, dst, UInt16.ofNat k, tcpSrc, tcpDst⟩ := by
    show incrementCount^[k] (createPathPacket tcpSrc tcpDst p src dst) = _
    rw [createPathPacket, iterate_incrementCount]
    simp
  have hdel : deletePathPacket q = p := by
    rw [hq, deletePathPacket, Paquete.removePath_addPath]
  refine ⟨?_, ?_, hdel, ?_⟩
  · rw [hq, getDstPathPaquet, Paquete.removePath_addPath]
  · -- the outermost item is the PATH header, and the loop breaks there
    rw [hq]
    simp [typeOfPacket, Paquete.addPath, recorre, leeCabecera, deserialize_serialize]
  · rw [hq, Paquete.removePath_addPath]
    simp

/-! ## 5. What the classification depends on -/

/-- The headers after which `m_tcp_src` and `m_tcp_dst` have been assigned. -/
def HeaderTid.fijaPuertos : HeaderTid → Bool
  | .path => true
  | .tcp => true
  | .ipv4 => true
  | _ => false

/-- A packet that carries its ports where `TypeOfPacket` looks for them: a PATH, TCP or IPv4
    header, and enough bytes if there is an IPv4 header. -/
def Paquete.LlevaPuertos (p : Paquete) : Prop :=
  (∃ tid n, .header tid n ∈ p.items ∧ tid.fijaPuertos = true) ∧
    ∀ n, .header .ipv4 n ∈ p.items → 34 ≤ p.buffer.length

section Indep

variable {c : Cabeceras} {p : Paquete}

theorem copia_of_lt (ind : Indet) {b : Bytes} {k : Nat} (h : k < b.length) :
    copia ind b k = byteAt b k := if_pos h

variable {off : Nat} {items : List Item}

theorem leeCabecera_indep {tid : HeaderTid} (htid : tid.fijaPuertos = true)
    (hlen : tid = .ipv4 → 34 ≤ p.buffer.length) (ind ind' : Indet) (k k' : Clase) :
    leeCabecera c ind p off tid k = leeCabecera c ind' p off tid k' := by
  cases tid with
  | path => rfl
  | tcp => rfl
  | ipv4 =>
    have h := hlen rfl
    have hc : ∀ j, j ≤ 33 → copia ind p.buffer j = copia ind' p.buffer j := fun j hj => by
      rw [copia_of_lt ind (by omega), copia_of_lt ind' (by omega)]
    simp [leeCabecera, hc 33, hc 20, hc 21, hc 22, hc 23]
  | ethernet => cases htid
  | arp => cases htid
  | otro => cases htid

theorem leeCabecera_heap {tid : HeaderTid} (hlen : tid = .ipv4 → 34 ≤ p.buffer.length)
    (ind ind' : Indet) (k : Clase) :
    leeCabecera c ind p off tid k = leeCabecera c ind' p off tid k := by
  cases tid with
  | ethernet => rfl
  | arp => rfl
  | otro => rfl
  | path => rfl
  | tcp => rfl
  | ipv4 => exact leeCabecera_indep rfl hlen ind ind' k k

theorem recorre_header (c : Cabeceras) (ind : Indet) (p : Paquete) (off : Nat) (tid : HeaderTid)
    (n : Nat) (items : List Item) (k : Clase) :
    recorre c ind p off (.header tid n :: items) k =
      if tid = .path then leeCabecera c ind p off tid k
      else recorre c ind p (off + n) items (leeCabecera c ind p off tid k) := by
  cases tid <;> rfl

theorem recorre_heap (hlen : ∀ n, .header .ipv4 n ∈ items → 34 ≤ p.buffer.length) (ind ind' : Indet)
    (off : Nat) (k : Clase) : recorre c ind p off items k = recorre c ind' p off items k := by
  induction items generalizing off k with
  | nil => rfl
  | cons it items ih =>
    have ih' := ih fun n hn => hlen n (List.mem_cons_of_mem _ hn)
    cases it with
    | payload n => exact ih' _ _
    | trailer n => exact ih' _ _
    | header tid n =>
      have hhead : leeCabecera c ind p off tid k = leeCabecera c ind' p off tid k :=
        leeCabecera_heap (fun h => hlen n (h ▸ List.mem_cons_self)) ind ind' k
      rw [recorre_header, recorre_header, hhead]
      split
      · rfl
      · exact ih' _ _

theorem recorre_indep (hset : ∃ tid n, .header tid n ∈ items ∧ tid.fijaPuertos = true)
    (hlen : ∀ n, .header .ipv4 n ∈ items → 34 ≤ p.buffer.length) (ind ind' : Indet) (off : Nat)
    (k k' : Clase) : recorre c ind p off items k = recorre c ind' p off items k' := by
  induction items generalizing off k k' with
  | nil =>
    obtain ⟨tid, n, h, -⟩ := hset
    exact absurd h List.not_mem_nil
  | cons it items ih =>
    have hlen' : ∀ n, .header .ipv4 n ∈ items → 34 ≤ p.buffer.length :=
      fun n hn => hlen n (List.mem_cons_of_mem _ hn)
    obtain ⟨tid, n, hmem, htid⟩ := hset
    cases it with
    | payload m => exact ih ⟨tid, n, by simpa using hmem, htid⟩ hlen' _ _ _
    | trailer m => exact ih ⟨tid, n, by simpa using hmem, htid⟩ hlen' _ _ _
    | header tid' m =>
      rw [recorre_header, recorre_header]
      by_cases hfix : tid'.fijaPuertos = true
      · -- from here on both walks carry the same values
        rw [leeCabecera_indep hfix (fun h => hlen m (h ▸ List.mem_cons_self)) ind ind' k k']
        split
        · rfl
        · exact recorre_heap hlen' ind ind' _ _
      · have hne : tid' ≠ .path := fun h => hfix (h ▸ rfl)
        have hmem' : Item.header tid n ∈ items := by
          rcases List.mem_cons.mp hmem with h | h
          · cases h
            exact absurd htid hfix
          · exact h
        rw [if_neg hne, if_neg hne]
        exact ih ⟨tid, n, hmem', htid⟩ hlen' _ _ _

/-- **A packet that carries its ports is classified by what it carries**, whatever the members
    and the memory held before. -/
theorem typeOfPacket_indep (h : p.LlevaPuertos) (ind ind' : Indet) (a b a' b' : UInt16) :
    typeOfPacket c ind p a b = typeOfPacket c ind' p a' b' :=
  recorre_indep h.1 h.2 ind ind' 0 _ _

end Indep

end TcpPath.Tfe
