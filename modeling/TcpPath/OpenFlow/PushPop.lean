/-
  Subject:   The actions that push and pop VLAN, MPLS and PBB headers (dp_actions.c), on the buffer
             of a packet (ofpbuf.c).

  * Places are counted from `data`. A result `none` is an access outside of the block, or to a block
    that `realloc` has left.
  * Where the headers of a frame are is what `parse` says; `analiza` finds those that are there.
-/
import TcpPath.Frame
import TcpPath.OpenFlow.OxmMatch
import TcpPath.Util.BigEndian

namespace TcpPath.Udatapath

open Util List

/-! ## 1. Buffers -/

/-- `struct ofpbuf`: the headroom, the frame and the tailroom. -/
structure OfpBuf where
  head : Bytes
  data : Bytes
  tail : Bytes
  deriving DecidableEq, Repr

namespace OfpBuf

/-- `n` bytes from place `i` on. -/
def read (b : OfpBuf) (i n : Nat) : Option (Bytes) :=
  if i + n ≤ (b.data ++ b.tail).length then some (((b.data ++ b.tail).drop i).take n) else none

/-- `d` is written from place `i` on. -/
def write (b : OfpBuf) (i : Nat) (d : Bytes) : Option (OfpBuf) :=
  if i + d.length ≤ (b.data ++ b.tail).length then
    let m := (b.data ++ b.tail).take i ++ (d ++ (b.data ++ b.tail).drop (i + d.length))
    some { b with data := m.take b.data.length, tail := m.drop b.data.length }
  else none

/-- `n` bytes are moved from place `src` to place `dst`. -/
def move (b : OfpBuf) (dst src n : Nat) : Option (OfpBuf) :=
  (b.read src n).bind (b.write dst)

/-- The data starts `k` places before. -/
def push (b : OfpBuf) (k : Nat) : OfpBuf :=
  { b with
    head := b.head.take (b.head.length - k)
    data := b.head.drop (b.head.length - k) ++ b.data }

/-- The data starts `k` places behind. -/
def pull (b : OfpBuf) (k : Nat) : OfpBuf :=
  { b with head := b.head ++ b.data.take k, data := b.data.drop k }

/-- The data ends `k` places behind. -/
def extend (b : OfpBuf) (k : Nat) : OfpBuf :=
  { b with data := b.data ++ b.tail.take k, tail := b.tail.drop k }

/-- The data ends `k` places before. -/
def trim (b : OfpBuf) (k : Nat) : OfpBuf :=
  { b with
    data := b.data.take (b.data.length - k)
    tail := b.data.drop (b.data.length - k) ++ b.tail }

end OfpBuf

/-- What `xrealloc` does: whether the block is then in another place, and the bytes behind the
    frame. -/
structure Realloc where
  movido : Bool
  byte : Nat → UInt8

/-- `ofpbuf_prealloc_tailroom`. -/
def ofpbufPreallocTailroom (size : Nat) (r : Realloc) (b : OfpBuf) : OfpBuf :=
  if b.tail.length < size then { b with tail := (List.range (max size 64)).map r.byte } else b

/-- `ofpbuf_put_uninit`. -/
def ofpbufPutUninit (size : Nat) (r : Realloc) (b : OfpBuf) : OfpBuf :=
  (ofpbufPreallocTailroom size r b).extend size

/-- Room for `k` bytes behind the first `n`: from the headroom, or else from the tailroom. -/
def abreHueco (k n : Nat) (r : Realloc) (b : OfpBuf) : Option OfpBuf :=
  if k ≤ b.head.length then (b.push k).move 0 k n
  else
    let b := ofpbufPutUninit k r b
    b.move (n + k) n (b.data.length - n)

/-- Where a header is looked for that was at `i`: where it is, or, with the tailroom, directly
    behind the new header. -/
def nuevo (k n : Nat) (b : OfpBuf) (i : Nat) : Nat := if k ≤ b.head.length then i + k else n + k

/-! ## 2. Where the headers are -/

/-- Fields of `n` bytes. -/
abbrev Octetos (n : Nat) := { b : Bytes // b.length = n }

/-- `htons`. -/
def htons (v : Nat) : Octetos 2 := ⟨BigEndian.write 2 v, BigEndian.length_write 2 v⟩

/-- `ETH_TYPE_VLAN`, `ETH_TYPE_VLAN_PBB_B`, `ETH_TYPE_VLAN_QinQ` and `ETH_TYPE_SVLAN`. -/
def tiposVlan : List Bytes := [[0x81, 0x00], [0x88, 0xa8], [0x91, 0x00], [0x92, 0x00]]

/-- `ETH_TYPE_MPLS` and `ETH_TYPE_MPLS_MCAST`. -/
def tiposMpls : List Bytes := [[0x88, 0x47], [0x88, 0x48]]

/-- `ETH_TYPE_PBB`. -/
def tipoPbb : Bytes := [0x88, 0xe7]

/-- `ETH_TYPE_IP`. -/
def tipoIp : Bytes := [0x08, 0x00]

/-- `ETH_TYPE_IPV6`. -/
def tipoIpv6 : Bytes := [0x86, 0xdd]

/-- Where the headers are that `struct protocols_std` has pointers to, from the start of the
    frame. -/
structure Posiciones where
  eth : Bool := true
  ethSnap : Option Nat := none
  vlan : Option Nat := none
  vlanLast : Option Nat := none
  mpls : Option Nat := none
  pbb : Option Nat := none
  ipv4 : Option Nat := none
  ipv6 : Option Nat := none
  deriving DecidableEq, Repr

/-- The headers from `n` on, the first of which is announced by `tipo`; `k` is more than the bytes
    that are left. -/
def analizaCapas : Nat → Bytes → Bytes → Nat → Posiciones
  | 0, _, _, _ => {}
  | k + 1, tipo, cuerpo, n =>
    if tipo ∈ tiposVlan ∧ 4 ≤ cuerpo.length then
      let p := analizaCapas k ((cuerpo.drop 2).take 2) (cuerpo.drop 4) (n + 4)
      { p with vlan := some n, vlanLast := p.vlanLast.or (some n) }
    else if tipo ∈ tiposMpls ∧ 4 ≤ cuerpo.length then { mpls := some n }
    else if tipo = tipoPbb ∧ 18 ≤ cuerpo.length then
      { analizaCapas k ((cuerpo.drop 16).take 2) (cuerpo.drop 18) (n + 18) with pbb := some n }
    else
      { ipv4 := if tipo = tipoIp ∧ 20 ≤ cuerpo.length then some n else none
        ipv6 := if tipo = tipoIpv6 ∧ 40 ≤ cuerpo.length then some n else none }

/-- Where the headers of an Ethernet II or 802.3/SNAP frame are. -/
def analiza (b : Bytes) : Posiciones :=
  if b.length < 14 then { eth := false }
  else if 0x600 ≤ BigEndian.read ((b.drop 12).take 2) then
    analizaCapas b.length ((b.drop 12).take 2) (b.drop 14) 14
  else if (b.drop 14).take 3 = [0xaa, 0xaa, 0x03] then
    { analizaCapas b.length ((b.drop 20).take 2) (b.drop 22) 22 with ethSnap := some 17 }
  else {}

/-! ## 3. The actions -/

/-- The 802.3 length plus `k`. -/
def masLargo (k : Nat) (len : Bytes) : Octetos 2 := htons (BigEndian.read len + k)

/-- The `n` bytes that a pointer points to, or `no` where it is `NULL`. -/
def leeSi (lee : Nat → Nat → Option Bytes) (n : Nat) (no : Bytes) : Option Nat → Option Bytes
  | none => some no
  | some i => lee i n

/-- The length of the Ethernet header, with LLC and SNAP where they are. -/
def Posiciones.ethSize (p : Posiciones) : Nat := if p.ethSnap.isNone then 14 else 22

/-- Where the type of what follows is. -/
def Posiciones.tipo (p : Posiciones) : Nat := p.ethSnap.elim 12 (· + 3)

/-- Where the type in front of an MPLS header is: behind the last VLAN header. -/
def Posiciones.tipoMpls (p : Posiciones) : Nat := p.vlanLast.elim p.tipo (· + 2)

/-- The 802.3 length plus `k`, where there is one. -/
def ajusta (p : Posiciones) (k : Nat) (b : OfpBuf) : Option OfpBuf :=
  if p.ethSnap.isNone then some b
  else do
    let len ← b.read 12 2
    b.write 12 (masLargo k len).val

/-- `push_vlan`, when there is room. -/
def ponVlan (p : Posiciones) (ethertype : Octetos 2) (newVlan : Option Nat) (b : OfpBuf) :
    Option OfpBuf := do
  let tci ← leeSi b.read 2 [0, 0] newVlan
  let b ← b.write p.ethSize tci
  let tipo := p.ethSnap.elim 12 fun _ => 14 + 3 + 3
  let next ← b.read tipo 2
  let b ← b.write (p.ethSize + 2) next
  let b ← b.write tipo ethertype.val
  ajusta p 4 b

/-- `push_vlan`. -/
def pushVlan (parse : Bytes → Posiciones) (ethertype : Octetos 2) (r : Realloc) (b : OfpBuf) :
    Option OfpBuf :=
  let p := parse b.data
  let newVlan := p.vlan.map (nuevo 4 p.ethSize b)
  if p.eth then (abreHueco 4 p.ethSize r b).bind (ponVlan p ethertype newVlan) else some b

/-- `pop_vlan`. -/
def popVlan (parse : Bytes → Posiciones) (b : OfpBuf) : Option OfpBuf :=
  let p := parse b.data
  match p.eth, p.vlan with
  | true, some vlan => do
      let next ← b.read (vlan + 2) 2
      let b ← b.write p.tipo next
      let b ← ajusta p (2 ^ 16 - 4) b
      (b.move 4 0 vlan).map (·.pull 4)
  | _, _ => some b

/-- The new label: a copy of the outer one, or a TTL from the IP header. -/
def mplsFields (lee : Nat → Nat → Option Bytes) (mpls ipv4 ipv6 : Option Nat) : Option Bytes :=
  match mpls, ipv4, ipv6 with
  | some i, _, _ => (lee i 4).map (List.zipWith (· &&& ·) [0xff, 0xff, 0xfe, 0xff])
  | none, some i, _ => (lee (i + 8) 1).map ([0, 0, 1] ++ ·)
  | none, none, some i => (lee (i + 7) 1).map ([0, 0, 1] ++ ·)
  | none, none, none => some [0, 0, 1, 0]

/-- `push_mpls`, when there is room behind the first `n` bytes. -/
def ponMpls (p : Posiciones) (ethertype : Octetos 2) (n : Nat)
    (newMpls newIpv4 newIpv6 : Option Nat) (b : OfpBuf) : Option OfpBuf := do
  let fields ← mplsFields b.read newMpls newIpv4 newIpv6
  let b ← b.write n fields
  let b ← b.write p.tipoMpls ethertype.val
  ajusta p 4 b

/-- `push_mpls`. -/
def pushMpls (parse : Bytes → Posiciones) (ethertype : Octetos 2) (r : Realloc) (b : OfpBuf) :
    Option OfpBuf :=
  let p := parse b.data
  let headOffset := p.vlanLast.elim p.ethSize (· + 4)
  let newMpls := p.mpls.map (nuevo 4 headOffset b)
  let newIpv4 := p.ipv4.map (nuevo 4 headOffset b)
  let newIpv6 := p.ipv6.map (nuevo 4 headOffset b)
  if p.eth then
    (abreHueco 4 headOffset r b).bind (ponMpls p ethertype headOffset newMpls newIpv4 newIpv6)
  else some b

/-- `pop_mpls`. The length is not made smaller but greater. -/
def popMpls (parse : Bytes → Posiciones) (ethertype : Octetos 2) (b : OfpBuf) : Option OfpBuf :=
  let p := parse b.data
  match p.eth, p.mpls with
  | true, some mpls => do
      let b ← b.write p.tipoMpls ethertype.val
      let b ← (b.move 4 0 mpls).map (·.pull 4)
      ajusta p 4 b
  | _, _ => some b

/-- What `push_pbb->id` is masked with: the TCI as a number of the host, 16 bits further up. The
    mask of the PCP bits is one of 32 bits in network byte order and lies beside the TCI on a
    little-endian host. -/
def mascaraId (tci : Bytes) : Host → Bytes
  | .little => [0, 0] ++ tci
  | .big => List.zipWith (· &&& ·) [0x1f, 0xff] tci ++ [0, 0]

/-- `push_pbb->id`. -/
def ponId (host : Host) (n : Nat) (vlan newPbb : Option Nat) (b : OfpBuf) : Option OfpBuf := do
  let id ← leeSi b.read 4 [0, 0, 0, 0] newPbb
  let b ← b.write n id
  match vlan with
  | none => some b
  | some v =>
      let tci ← b.read v 2
      b.write n (List.zipWith (· &&& ·) id (mascaraId tci host))

/-- `push_pbb`, when there is room behind the first `n` bytes; `eth` and `vlan` are the pointers of
    before. -/
def ponPbb (host : Host) (p : Posiciones) (ethertype : Octetos 2) (n eth : Nat)
    (vlan newPbb : Option Nat) (b : OfpBuf) : Option OfpBuf := do
  let b ← ponId host n vlan newPbb b
  let b ← b.move (n + 4) eth 14
  -- the place of the SNAP type, if the headers came in the order of their names
  let tipo := p.ethSnap.elim 12 fun _ => 14 + 18 + 3 + 3
  let next ← b.read tipo 2
  let b ← b.write (n + 16) next
  let b ← b.write tipo ethertype.val
  ajusta p 18 b

/-- `push_pbb`. -/
def pushPbb (host : Host) (parse : Bytes → Posiciones) (ethertype : Octetos 2) (r : Realloc)
    (b : OfpBuf) : Option OfpBuf :=
  let p := parse b.data
  if p.eth then
    if 18 ≤ b.head.length then
      (abreHueco 18 p.ethSize r b).bind
        (ponPbb host p ethertype p.ethSize 18 (p.vlan.map (· + 18)) (p.pbb.map (· + 18)))
    -- `eth` and `vlan` point into the block of before
    else if b.tail.length < 18 ∧ r.movido then none
    else (abreHueco 18 14 r b).bind (ponPbb host p ethertype 14 0 p.vlan
      (p.pbb.map fun _ => 14 + 18))
  else some b

/-- `pop_pbb`. -/
def popPbb (parse : Bytes → Posiciones) (b : OfpBuf) : Option OfpBuf :=
  let p := parse b.data
  match p.eth, p.pbb with
  | true, some pbb => (b.move 0 (pbb + 4) (b.data.length - (pbb + 4))).map (·.trim (pbb + 4))
  | _, _ => some b

/-- A frame with one VLAN header and one byte of ARP behind it. -/
def tramaVlan : Bytes :=
  [1, 1, 1, 1, 1, 1, 2, 2, 2, 2, 2, 2, 0x81, 0x00, 0, 5, 0x08, 0x06, 7]

end TcpPath.Udatapath
