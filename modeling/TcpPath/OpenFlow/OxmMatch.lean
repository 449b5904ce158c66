/-
  Subject:   Match fields: the table of oxm-match.def, and `oxm_pull_match` and `oxm_put_match`
             between a hash map of fields and bytes.

  * Fields are found by the hash of their headers alone, which loses nothing (`hashInt_injective`).
  * Numbers are kept in the byte order of the machine, addresses and the fields of IPv4 and ARP
    as they come.
  * What is done is done as in the code: the case of `OXM_OF_IN_PHY_PORT` runs on into the next
    one, a VLAN priority without a VLAN is left out, and the test of a masked I-SID reads a byte
    too many of both value and mask, of which 6 bytes and those of a pointer are kept.
-/
import TcpPath.OpenFlow.Pack
import TcpPath.Util.Mixing

namespace TcpPath.Udatapath

open Util Util.BigEndian

/-! ## 1. The fields -/

/-- `enum oxm_field_index`. -/
inductive OxmFieldIndex where
  | inPort | inPhyPort | metadata | metadataW | ethDst | ethDstW | ethSrc | ethSrcW | ethType
  | vlanVid | vlanVidW | vlanPcp | pbbIsid | pbbIsidW | mplsLabel | mplsTc | mplsBos
  | ipDscp | ipEcn | ipv4Src | ipv4SrcW | ipv4Dst | ipv4DstW
  | ipv6Src | ipv6SrcW | ipv6Dst | ipv6DstW | ipv6Flabel | ipv6FlabelW | ipv6Exthdr | ipv6ExthdrW
  | ipProto | tcpSrc | tcpDst | udpSrc | udpDst | sctpSrc | sctpDst
  | arpOp | arpSpa | arpSpaW | arpTpa | arpTpaW | arpSha | arpShaW | arpTha | arpThaW
  | icmpv4Type | icmpv4Code | icmpv6Type | icmpv6Code | ipv6NdTarget | ipv6NdSll | ipv6NdTll
  | tunnelId | tunnelIdW
  deriving DecidableEq, Repr

/-- `struct oxm_field`. -/
structure OxmField where
  index : OxmFieldIndex
  header : UInt32
  dlType : Nat × Nat
  nwProto : Nat
  maskable : Bool
  deriving DecidableEq, Repr

/-- `OXM_HEADER`, of the class of OpenFlow. -/
def oxmHeader (field length : Nat) : UInt32 := .ofNat (0x80000000 + field * 512 + length)

/-- `OXM_HEADER_W`. -/
def oxmHeaderW (field length : Nat) : UInt32 := .ofNat (0x80000000 + field * 512 + 256 + length * 2)

/-- `OXM_HASMASK`. -/
def oxmHasmask (header : UInt32) : Bool := header.toNat.testBit 8

def dlNone : Nat × Nat := (0, 0)
def dlArp : Nat × Nat := (0x0806, 0)
def dlPbb : Nat × Nat := (0x88e7, 0)
def dlIp : Nat × Nat := (0x0800, 0)
def dlMpls : Nat × Nat := (0x8847, 0x8848)
def dlIpv6 : Nat × Nat := (0x86dd, 0)
def dlIpAny : Nat × Nat := (0x0800, 0x86dd)

namespace OxmFieldIndex

/-- The lines of oxm-match.def. -/
def field (i : OxmFieldIndex) : OxmField :=
  match i with
  | inPort => ⟨i, oxmHeader 0 4, dlNone, 0, false⟩
  | inPhyPort => ⟨i, oxmHeader 1 4, dlNone, 0, false⟩
  | metadata => ⟨i, oxmHeader 2 8, dlNone, 0, true⟩
  | metadataW => ⟨i, oxmHeaderW 2 8, dlNone, 0, true⟩
  | ethDst => ⟨i, oxmHeader 3 6, dlNone, 0, true⟩
  | ethDstW => ⟨i, oxmHeaderW 3 6, dlNone, 0, true⟩
  | ethSrc => ⟨i, oxmHeader 4 6, dlNone, 0, true⟩
  | ethSrcW => ⟨i, oxmHeaderW 4 6, dlNone, 0, true⟩
  | ethType => ⟨i, oxmHeader 5 2, dlNone, 0, false⟩
  | vlanVid => ⟨i, oxmHeader 6 2, dlNone, 0, true⟩
  | vlanVidW => ⟨i, oxmHeaderW 6 2, dlNone, 0, true⟩
  | vlanPcp => ⟨i, oxmHeader 7 1, dlNone, 0, false⟩
  | pbbIsid => ⟨i, oxmHeader 37 3, dlPbb, 0, true⟩
  | pbbIsidW => ⟨i, oxmHeaderW 37 3, dlPbb, 0, true⟩
  | mplsLabel => ⟨i, oxmHeader 34 4, dlMpls, 0, false⟩
  | mplsTc => ⟨i, oxmHeader 35 1, dlMpls, 0, false⟩
  | mplsBos => ⟨i, oxmHeader 36 1, dlMpls, 0, false⟩
  | ipDscp => ⟨i, oxmHeader 8 1, dlIpAny, 0, false⟩
  | ipEcn => ⟨i, oxmHeader 9 1, dlIpAny, 0, false⟩
  | ipv4Src => ⟨i, oxmHeader 11 4, dlIp, 0, true⟩
  | ipv4SrcW => ⟨i, oxmHeaderW 11 4, dlIp, 0, true⟩
  | ipv4Dst => ⟨i, oxmHeader 12 4, dlIp, 0, true⟩
  | ipv4DstW => ⟨i, oxmHeaderW 12 4, dlIp, 0, true⟩
  | ipv6Src => ⟨i, oxmHeader 26 16, dlIpv6, 0, true⟩
  | ipv6SrcW => ⟨i, oxmHeaderW 26 16, dlIpv6, 0, true⟩
  | ipv6Dst => ⟨i, oxmHeader 27 16, dlIpv6, 0, true⟩
  | ipv6DstW => ⟨i, oxmHeaderW 27 16, dlIpv6, 0, true⟩
  | ipv6Flabel => ⟨i, oxmHeader 28 4, dlIpv6, 0, true⟩
  | ipv6FlabelW => ⟨i, oxmHeaderW 28 4, dlIpv6, 0, true⟩
  | ipv6Exthdr => ⟨i, oxmHeader 39 2, dlIpv6, 0, true⟩
  | ipv6ExthdrW => ⟨i, oxmHeaderW 39 2, dlIpv6, 0, true⟩
  | ipProto => ⟨i, oxmHeader 10 1, dlIpAny, 0, false⟩
  | tcpSrc => ⟨i, oxmHeader 13 2, dlIpAny, 6, false⟩
  | tcpDst => ⟨i, oxmHeader 14 2, dlIpAny, 6, false⟩
  | udpSrc => ⟨i, oxmHeader 15 2, dlIpAny, 17, false⟩
  | udpDst => ⟨i, oxmHeader 16 2, dlIpAny, 17, false⟩
  | sctpSrc => ⟨i, oxmHeader 17 2, dlIpAny, 132, false⟩
  | sctpDst => ⟨i, oxmHeader 18 2, dlIpAny, 132, false⟩
  | arpOp => ⟨i, oxmHeader 21 2, dlArp, 0, false⟩
  | arpSpa => ⟨i, oxmHeader 22 4, dlArp, 0, true⟩
  | arpSpaW => ⟨i, oxmHeaderW 22 4, dlArp, 0, true⟩
  | arpTpa => ⟨i, oxmHeader 23 4, dlArp, 0, true⟩
  | arpTpaW => ⟨i, oxmHeaderW 23 4, dlArp, 0, true⟩
  | arpSha => ⟨i, oxmHeader 24 6, dlArp, 0, true⟩
  | arpShaW => ⟨i, oxmHeaderW 24 6, dlArp, 0, true⟩
  | arpTha => ⟨i, oxmHeader 25 6, dlArp, 0, true⟩
  | arpThaW => ⟨i, oxmHeaderW 25 6, dlArp, 0, true⟩
  | icmpv4Type => ⟨i, oxmHeader 19 1, dlIp, 1, false⟩
  | icmpv4Code => ⟨i, oxmHeader 20 1, dlIp, 1, false⟩
  | icmpv6Type => ⟨i, oxmHeader 29 1, dlIpv6, 58, false⟩
  | icmpv6Code => ⟨i, oxmHeader 30 1, dlIpv6, 58, false⟩
  | ipv6NdTarget => ⟨i, oxmHeader 31 16, dlIpv6, 58, false⟩
  | ipv6NdSll => ⟨i, oxmHeader 32 6, dlIpv6, 58, false⟩
  | ipv6NdTll => ⟨i, oxmHeader 33 6, dlIpv6, 58, false⟩
  | tunnelId => ⟨i, oxmHeader 38 8, dlNone, 0, true⟩
  | tunnelIdW => ⟨i, oxmHeaderW 38 8, dlNone, 0, true⟩

/-- The `OXM_OF_` headers. -/
def header (i : OxmFieldIndex) : UInt32 := i.field.header

/-- In the order of oxm-match.def. -/
def todos : List OxmFieldIndex :=
  [inPort, inPhyPort, metadata, metadataW, ethDst, ethDstW, ethSrc, ethSrcW, ethType, vlanVid,
    vlanVidW, vlanPcp, pbbIsid, pbbIsidW, mplsLabel, mplsTc, mplsBos, ipDscp, ipEcn, ipv4Src,
    ipv4SrcW, ipv4Dst, ipv4DstW, ipv6Src, ipv6SrcW, ipv6Dst, ipv6DstW, ipv6Flabel, ipv6FlabelW,
    ipv6Exthdr, ipv6ExthdrW, ipProto, tcpSrc, tcpDst, udpSrc, udpDst, sctpSrc, sctpDst, arpOp,
    arpSpa, arpSpaW, arpTpa, arpTpaW, arpSha, arpShaW, arpTha, arpThaW, icmpv4Type, icmpv4Code,
    icmpv6Type, icmpv6Code, ipv6NdTarget, ipv6NdSll, ipv6NdTll, tunnelId, tunnelIdW]

end OxmFieldIndex

/-- `all_fields`. Of its `NUM_OXM_FIELDS` entries, those behind the table are 0. -/
def allFields : List OxmField :=
  OxmFieldIndex.todos.map (·.field) ++ List.replicate 24 ⟨.inPort, 0, dlNone, 0, false⟩

/-- `oxm_field_lookup`. -/
def oxmFieldLookup (header : UInt32) : Option OxmField := allFields.find? (·.header == header)

/-! ## 2. Matches -/

/-- `hash_int`. -/
def hashInt (x basis : UInt32) : BitVec 32 :=
  let x := x.toBitVec
  let x := x - x <<< 6
  let x := x ^^^ x >>> 17
  let x := x - x <<< 9
  let x := x ^^^ x <<< 4
  let x := x + basis.toBitVec
  let x := x - x <<< 3
  let x := x ^^^ x <<< 10
  x ^^^ x >>> 15

/-- **The hash loses nothing.** -/
theorem hashInt_injective (basis : UInt32) : Function.Injective (hashInt · basis) := by
  intro x y h
  refine UInt32.toBitVec_inj.mp (Mixing.sub_shiftLeft_injective (s := 6) (by decide) ?_)
  refine Mixing.xor_ushiftRight_injective (s := 17) (by decide) ?_
  refine Mixing.sub_shiftLeft_injective (s := 9) (by decide) ?_
  refine Mixing.xor_shiftLeft_injective (s := 4) (by decide) ?_
  refine add_right_cancel (b := basis.toBitVec) ?_
  refine Mixing.sub_shiftLeft_injective (s := 3) (by decide) ?_
  refine Mixing.xor_shiftLeft_injective (s := 10) (by decide) ?_
  exact Mixing.xor_ushiftRight_injective (s := 15) (by decide) h

/-- `struct ofl_match_tlv`. -/
structure MatchTlv where
  header : UInt32
  value : Bytes
  deriving DecidableEq, Repr

/-- `HMAP_FOR_EACH_WITH_HASH`: the fields whose hash is that of a header. -/
def conHash (header : UInt32) (fields : List MatchTlv) : List MatchTlv :=
  fields.filter fun t => hashInt t.header 0 == hashInt header 0

@[simp] theorem conHash_eq (header : UInt32) (fields : List MatchTlv) :
    conHash header fields = fields.filter (·.header == header) := by
  refine List.filter_congr fun t _ => ?_
  rw [Bool.eq_iff_iff, beq_iff_eq, beq_iff_eq]
  exact (hashInt_injective 0).eq_iff

/-- `struct ofl_match`. -/
abbrev OxmMatch := OflMatch (List MatchTlv)

/-- The `ofl_structs_match_put` functions, with the bytes that each of them copies. -/
def OxmMatch.put (m : OxmMatch) (header : UInt32) (value : Bytes) : OxmMatch :=
  ⟨m.length + value.length + 4, ⟨header, value⟩ :: m.fields⟩

/-- `check_present_prereq`, and `check_oxm_dup` with the header of a field. -/
def checkPresentPrereq (fields : List MatchTlv) (header : UInt32) : Bool :=
  !(conHash header fields).isEmpty

/-- `get_oxm_value`. -/
def getOxmValue (fields : List MatchTlv) (header : UInt32) : Option Bytes :=
  (conHash header fields).head?.map (·.value)

/-- A loop of `oxm_prereqs_ok` over the fields of a header, with its `found`. -/
def todosCon (fields : List MatchTlv) (header : UInt32) (p : Bytes → Bool) : Bool :=
  (conHash header fields).all (fun t => p t.value) && checkPresentPrereq fields header

/-- `oxm_prereqs_ok`. -/
def oxmPrereqsOk (host : Host) (field : OxmField) (fields : List MatchTlv) : Bool :=
  let sll := field.header == OxmFieldIndex.ipv6NdSll.header
  let target := field.header == OxmFieldIndex.ipv6NdTarget.header
  let tll := field.header == OxmFieldIndex.ipv6NdTll.header
  let tipo := OxmFieldIndex.icmpv6Type.header
  -- the second test is passed over once the first one found the type
  (if sll || target then todosCon fields tipo (·.head? == some 135) else true) &&
  (if (tll || target) && !(sll || target) then todosCon fields tipo (·.head? == some 136)
    else true) &&
  (if field.nwProto ≠ 0 then
      todosCon fields OxmFieldIndex.ipProto.header
        (fun v => v.head?.map (·.toNat) == some field.nwProto)
    else true) &&
  (field.dlType.1 == 0 || (conHash OxmFieldIndex.ethType.header fields).any fun t =>
    let ethType := read (host.ntoh (t.value.take 2))
    field.dlType.1 == ethType || (field.dlType.2 != 0 && field.dlType.2 == ethType))

/-! ## 3. `oxm_pull_match` -/

/-- `OFPET_BAD_MATCH` with a code of openflow.h. -/
def badMatch (code : Nat) : OflErr := ⟨.badMatch, .otro code⟩

/-- The first `n` bytes of a memory. -/
def lee (mem : Memoria) (n : Nat) : Bytes := (List.range n).map mem

/-- The memory `d` bytes on. -/
def salta (mem : Memoria) (d : Nat) : Memoria := fun k => mem (d + k)

/-- `check_bad_wildcard16`, `check_bad_wildcard32` and `check_bad_wildcard64`, on the bytes of both
    numbers: a bit of the value is set that the mask leaves out. -/
def checkBadWildcard (value mask : Bytes) : Bool := List.zipWith (· &&& ·) value mask != value

/-- `check_bad_wildcard48`. -/
def checkBadWildcard48 (value mask : Bytes) : Bool :=
  checkBadWildcard (value.take 2) (mask.take 2) || checkBadWildcard (value.drop 2) (mask.drop 2)

/-- `check_bad_wildcard128`. -/
def checkBadWildcard128 (value mask : Bytes) : Bool :=
  checkBadWildcard (value.take 8) (mask.take 8) || checkBadWildcard (value.drop 8) (mask.drop 8)

/-- `parse_oxm_entry`. `puntero` are the bytes of the local variable `pbb_isid_mask`, the address
    of which is taken for the mask. -/
def parseOxmEntry (host : Host) (puntero : Bytes) (m : OxmMatch) (f : OxmField)
    (value mask : Memoria) : Except OflErr OxmMatch :=
  match f.index with
  | .inPort => .ok (m.put f.header (host.ntoh (lee value 4)))
  | .inPhyPort =>
      if checkPresentPrereq m.fields OxmFieldIndex.inPort.header then
        -- no break: the case of OXM_OF_METADATA follows
        .ok ((m.put f.header (host.ntoh (lee value 4))).put f.header (host.ntoh (lee value 8)))
      else .error (badMatch 9)
  | .metadata => .ok (m.put f.header (host.ntoh (lee value 8)))
  | .metadataW =>
      if checkBadWildcard (host.ntoh (lee value 8)) (host.ntoh (lee mask 8)) then
        .error (badMatch 5)
      else .ok (m.put f.header (host.ntoh (lee value 8) ++ host.ntoh (lee mask 8)))
  | .ethDst | .ethSrc => .ok (m.put f.header (lee value 6))
  | .ethDstW | .ethSrcW =>
      if checkBadWildcard48 (lee value 6) (lee mask 6) then .error (badMatch 5)
      else .ok (m.put f.header (lee value 6 ++ lee mask 6))
  | .ethType => .ok (m.put f.header (host.ntoh (lee value 2)))
  | .vlanVid =>
      if 0x1000 + 4095 < read (lee value 2) then .error (badMatch 7)
      else .ok (m.put f.header (host.ntoh (lee value 2)))
  | .vlanVidW =>
      if checkBadWildcard (host.ntoh (lee value 2)) (host.ntoh (lee mask 2)) then
        .error (badMatch 5)
      else if 0x1000 + 4095 < read (lee value 2) then .error (badMatch 7)
      else .ok (m.put f.header (host.ntoh (lee value 2) ++ host.ntoh (lee mask 2)))
  | .vlanPcp =>
      match getOxmValue m.fields OxmFieldIndex.vlanVid.header with
      | some p =>
          if read (host.ntoh (p.take 2)) ≠ 0 then .ok (m.put f.header (lee value 1)) else .ok m
      | none => .error (badMatch 9)
  | .ipDscp =>
      if value 0 &&& 0xc0 ≠ 0 then .error (badMatch 7) else .ok (m.put f.header (lee value 1))
  | .ipEcn | .ipProto => .ok (m.put f.header (lee value 1))
  | .ipv4Src | .ipv4Dst | .arpTpa | .arpSpa => .ok (m.put f.header (lee value 4))
  | .ipv4DstW | .ipv4SrcW | .arpSpaW | .arpTpaW =>
      if checkBadWildcard (lee value 4) (lee mask 4) then .error (badMatch 5)
      else .ok (m.put f.header (lee value 4 ++ lee mask 4))
  | .arpSha | .arpTha => .ok (m.put f.header (lee value 6))
  | .arpShaW | .arpThaW =>
      if checkBadWildcard48 (lee value 6) (lee mask 6) then .error (badMatch 5)
      else .ok (m.put f.header (lee value 6 ++ lee mask 6))
  | .ipv6Src | .ipv6Dst => .ok (m.put f.header (lee value 16))
  | .ipv6SrcW | .ipv6DstW =>
      if checkBadWildcard128 (lee value 16) (lee mask 16) then .error (badMatch 5)
      else .ok (m.put f.header (lee value 16 ++ lee mask 16))
  | .ipv6Flabel => .ok (m.put f.header (host.ntoh (lee value 4)))
  | .ipv6FlabelW =>
      if checkBadWildcard (lee value 4) (lee mask 4) then .error (badMatch 5)
      else .ok (m.put f.header (host.ntoh (lee value 4) ++ host.ntoh (lee mask 4)))
  | .tcpSrc | .tcpDst | .udpSrc | .udpDst | .sctpSrc | .sctpDst =>
      .ok (m.put f.header (host.ntoh (lee value 2)))
  | .icmpv4Type | .icmpv4Code | .icmpv6Type | .icmpv6Code => .ok (m.put f.header (lee value 1))
  | .ipv6NdTarget => .ok (m.put f.header (lee value 16))
  | .ipv6NdSll | .ipv6NdTll => .ok (m.put f.header (lee value 6))
  | .arpOp => .ok (m.put f.header (host.ntoh (lee value 2)))
  | .mplsLabel => .ok (m.put f.header (host.ntoh (lee value 4)))
  | .mplsTc | .mplsBos => .ok (m.put f.header (lee value 1))
  | .pbbIsid => .ok (m.put f.header (lee value 3))
  | .pbbIsidW =>
      if checkBadWildcard (lee value 4) (lee mask 4) then .error (badMatch 5)
      else .ok (m.put f.header (lee value 6 ++ puntero.take 6))
  | .tunnelId => .ok (m.put f.header (host.ntoh (lee value 8)))
  | .tunnelIdW =>
      if checkBadWildcard (lee value 8) (lee mask 8) then .error (badMatch 5)
      else .ok (m.put f.header (host.ntoh (lee value 8) ++ host.ntoh (lee mask 8)))
  | .ipv6Exthdr => .ok (m.put f.header (host.ntoh (lee value 2)))
  | .ipv6ExthdrW => .ok (m.put f.header (host.ntoh (lee value 2) ++ host.ntoh (lee mask 2)))

/-- `oxm_entry_ok`: the header of an entry that is there as a whole, otherwise 0. -/
def oxmEntryOk (p : Memoria) (matchLen : Nat) : UInt32 :=
  if matchLen ≤ 4 then 0
  else
    let header := leer p 0 4
    if oxmLength header = 0 then 0
    else if matchLen < oxmLength header + 4 then 0
    else .ofNat header

/-- What the loop of `oxm_pull_match` does with an entry. -/
def pullEntry (host : Host) (puntero : Bytes) (m : OxmMatch) (header : UInt32) (value : Memoria) :
    Except OflErr OxmMatch :=
  match oxmFieldLookup header with
  | none => .error (badMatch 6)
  | some f =>
      if oxmHasmask header && !f.maskable then .error (badMatch 8)
      else if !oxmPrereqsOk host f m.fields then .error (badMatch 9)
      else if checkPresentPrereq m.fields f.header then .error (badMatch 10)
      else parseOxmEntry host puntero m f value (salta value (oxmLength header.toNat / 2))

theorem oxmEntryOk_spec {p : Memoria} {matchLen : Nat} (h : oxmEntryOk p matchLen ≠ 0) :
    (oxmEntryOk p matchLen).toNat = leer p 0 4 ∧ oxmLength (leer p 0 4) ≠ 0 ∧
      oxmLength (leer p 0 4) + 4 ≤ matchLen := by
  have hlt : leer p 0 4 < 2 ^ 32 := by
    have := read_lt (lee p 4)
    rw [lee, List.length_map, List.length_range, Util.BigEndian.read, List.foldl_map] at this
    simpa [leer] using this
  unfold oxmEntryOk at h ⊢
  split at h
  · exact absurd rfl h
  · rename_i h4
    dsimp only at h
    split at h
    · exact absurd rfl h
    · rename_i h0
      split at h
      · exact absurd rfl h
      · rename_i hle
        rw [if_neg h4, if_neg h0, if_neg hle]
        exact ⟨UInt32.toNat_ofNat_of_lt' hlt, h0, Nat.le_of_not_lt hle⟩

/-- The loop of `oxm_pull_match`. -/
def pullLoop (host : Host) (puntero : Bytes) (p : Memoria) (matchLen : Nat) (m : OxmMatch) :
    Except OflErr OxmMatch :=
  let header := oxmEntryOk p matchLen
  if _h : header = 0 then if matchLen = 0 then .ok m else .error (badMatch 1)
  else
    let length := oxmLength header.toNat
    match pullEntry host puntero m header (salta p 4) with
    | .error e => .error e
    | .ok m => pullLoop host puntero (salta p (4 + length)) (matchLen - (4 + length)) m
termination_by matchLen
decreasing_by
  obtain ⟨heq, _, hle⟩ := oxmEntryOk_spec _h
  rw [← heq] at hle
  omega

/-- `oxm_pull_match` on a buffer of `size` bytes. -/
def oxmPullMatch (host : Host) (puntero : Bytes) (size : Nat) (p : Memoria) (matchLen : Nat) :
    Except OflErr OxmMatch :=
  if size < matchLen then .error (badMatch 6) else pullLoop host puntero p matchLen ⟨0, []⟩

/-! ## 4. `oxm_put_match` -/

/-- The `oxm_put` functions: a header and the bytes behind it. -/
def oxmPut (header : UInt32) (value : Bytes) : Bytes := write 4 header.toNat ++ value

/-- `is_requisite`. -/
def isRequisite (header : UInt32) : Bool :=
  header == OxmFieldIndex.inPort.header || header == OxmFieldIndex.ethType.header ||
    header == OxmFieldIndex.vlanVid.header || header == OxmFieldIndex.ipProto.header ||
    header == OxmFieldIndex.icmpv6Type.header

/-- The headers of numbers that `oxm_put_match` writes without a turn of their bytes. -/
def sinHtonl : List UInt32 :=
  [OxmFieldIndex.ipv4Dst.header, OxmFieldIndex.ipv4Src.header, OxmFieldIndex.arpSpa.header,
    OxmFieldIndex.arpTpa.header, OxmFieldIndex.ipv4DstW.header, OxmFieldIndex.ipv4SrcW.header,
    OxmFieldIndex.arpSpaW.header, OxmFieldIndex.arpTpaW.header]

/-- A value or a mask of `length` bytes as it is written. -/
def enRed (host : Host) (header : UInt32) (length : Nat) (b : Bytes) : Bytes :=
  match length with
  | 2 | 8 => host.ntoh b
  | 4 => if header ∈ sinHtonl then b else host.ntoh b
  | _ => b

/-- The length of the value of a field, without a mask. -/
def anchoOxm (header : UInt32) : Nat :=
  if oxmHasmask header then oxmLength header.toNat / 2 else oxmLength header.toNat

/-- The `switch` of `oxm_put_match` over the length of the value. -/
def putTlv (host : Host) (t : MatchTlv) : Bytes :=
  let length := anchoOxm t.header
  let value := t.value.take length
  let mask := (t.value.drop length).take length
  if length ∈ anchosOxm then
    if !oxmHasmask t.header then oxmPut t.header (enRed host t.header length value)
    -- oxm_put_8w writes its mask as a number of 16 bits
    else if length = 1 then oxmPut t.header (value ++ host.ntoh ([0] ++ mask))
    else
      oxmPut t.header (enRed host t.header length value ++ enRed host t.header length mask)
  else []

/-- A loop of `oxm_put_match` over the fields of a header that others need. -/
def putRequisito (host : Host) (fields : List MatchTlv) (header : UInt32) (n : Nat) : Bytes :=
  (conHash header fields).flatMap fun t =>
    oxmPut t.header (enRed host t.header n (t.value.take n))

/-- What `oxm_put_match` writes before the padding, from the fields in the order of the hash map. -/
def putFields (host : Host) (fields : List MatchTlv) : Bytes :=
  putRequisito host fields OxmFieldIndex.inPort.header 4 ++
    putRequisito host fields OxmFieldIndex.ethType.header 2 ++
    putRequisito host fields OxmFieldIndex.vlanVid.header 2 ++
    putRequisito host fields OxmFieldIndex.ipProto.header 1 ++
    putRequisito host fields OxmFieldIndex.icmpv6Type.header 1 ++
    (fields.filter fun t => !isRequisite t.header).flatMap (putTlv host)

/-- `oxm_put_match`: the bytes and the padding, and the length that is returned. -/
def oxmPutMatch (host : Host) (fields : List MatchTlv) : Bytes × Nat :=
  let bytes := putFields host fields
  (bytes ++ List.replicate ((bytes.length + 3) / 8 * 8 + 4 - bytes.length) 0, bytes.length)

end TcpPath.Udatapath
