/-
  Subject:   What is assumed of the packet decoder, and what follows for the frames that the
             switches rewrite.

  The decoder finds the headers from the bytes in front of them: where the TCP or PATH header
  begins is decided by the Ethernet type and the IPv4 header, which of the two it is by the
  protocol byte. The functions that rewrite a frame change the destination address, the protocol
  byte and bytes behind the port numbers, so that the port numbers stay visible.

  Results:   `encapsula_spec`: a segment becomes a PATH request of its flow;
             `switchTrack_spec`: a hop keeps what is asked for, unless it hits the trailer;
             `desencapsula_spec`: a PATH request becomes a segment again.
-/
import TcpPath.Frame

namespace TcpPath

/-! ## 1. The decoder -/

structure LeyDecodificador (parse : Parser) : Prop where
  eth : ∀ b, (parse b).eth = 0
  /-- An IPv4 header follows the Ethernet header, a TCP or PATH header follows that. -/
  orden : ∀ b i t, (parse b).ipv4 = some i → (parse b).tcp = some t ∨ (parse b).path = some t →
    14 ≤ i ∧ i + 20 ≤ t ∧ t + 20 ≤ b.length
  /-- A PATH header is announced by the protocol byte of an IPv4 header. -/
  ip : ∀ b t, (parse b).path = some t → ∃ i, (parse b).ipv4 = some i
  tipo : ∀ b i t, (parse b).ipv4 = some i → (parse b).path = some t →
    byteAt b (i + 9) = ipTypePath
  /-- With the same bytes up to the TCP or PATH header, addresses and protocol byte apart, the
      headers are at the same places, and the protocol byte says which of the two it is. -/
  relee : ∀ b b' i t, (parse b).ipv4 = some i → (parse b).tcp = some t ∨ (parse b).path = some t →
    (∀ k, 6 ≤ k → k < t → k ≠ i + 9 → byteAt b' k = byteAt b k) →
    (byteAt b' (i + 9) = ipTypeTcp → t + 20 ≤ b'.length →
      (parse b').ipv4 = some i ∧ (parse b').tcp = some t ∧ (parse b').path = none) ∧
    (byteAt b' (i + 9) = ipTypePath → t + 20 + trailerLen ≤ b'.length →
      (parse b').ipv4 = some i ∧ (parse b').tcp = none ∧ (parse b').path = some t)

/-- The header that the protocol byte `tipo` announces at `t`. -/
def decodificaIp (b : Bytes) (t : Nat) (tipo : UInt8) : ProtocolsStd :=
  if tipo = ipTypeTcp ∧ t + 20 ≤ b.length then
    ⟨0, none, some 14, none, some t, none, none, none⟩
  else if tipo = ipTypePath ∧ t + 20 + trailerLen ≤ b.length then
    ⟨0, none, some 14, none, none, some t, none, none⟩
  else ⟨0, none, some 14, none, none, none, none, none⟩

/-- A decoder of untagged Ethernet frames: ARP, and IPv4 with TCP or PATH behind it in an
    unfragmented packet. -/
def decodifica : Parser := fun b =>
  if byteAt b 12 = 8 ∧ byteAt b 13 = 0 ∧ 34 ≤ b.length ∧ 5 ≤ (byteAt b 14).toNat % 16 then
    if (byteAt b 20).toNat % 32 = 0 ∧ byteAt b 21 = 0 then
      decodificaIp b (14 + 4 * ((byteAt b 14).toNat % 16)) (byteAt b 23)
    else ⟨0, none, some 14, none, none, none, none, none⟩
  else if byteAt b 12 = 8 ∧ byteAt b 13 = 6 ∧ 42 ≤ b.length then
    ⟨0, none, none, some 14, none, none, none, none⟩
  else ⟨0, none, none, none, none, none, none, none⟩

theorem decodificaIp_ip (b : Bytes) (t : Nat) (tipo : UInt8) :
    (decodificaIp b t tipo).eth = 0 ∧ (decodificaIp b t tipo).ipv4 = some 14 := by
  unfold decodificaIp
  split
  · exact ⟨rfl, rfl⟩
  · split <;> exact ⟨rfl, rfl⟩

variable {b : Bytes} {i t : Nat}

theorem decodifica_header (hi : (decodifica b).ipv4 = some i)
    (ht : (decodifica b).tcp = some t ∨ (decodifica b).path = some t) :
    i = 14 ∧ t = 14 + 4 * ((byteAt b 14).toNat % 16) ∧ t + 20 ≤ b.length ∧
      (byteAt b 12 = 8 ∧ byteAt b 13 = 0 ∧ 5 ≤ (byteAt b 14).toNat % 16) ∧
      ((byteAt b 20).toNat % 32 = 0 ∧ byteAt b 21 = 0) ∧
      ((decodifica b).path = some t → byteAt b 23 = ipTypePath) := by
  unfold decodifica at hi ht ⊢
  split at hi
  · rename_i hip
    rw [if_pos hip] at ht ⊢
    split at hi
    · rename_i hfrag
      rw [if_pos hfrag] at ht ⊢
      unfold decodificaIp at hi ht ⊢
      split at hi
      · rename_i htcp
        rw [if_pos htcp] at ht ⊢
        have htt : some (14 + 4 * ((byteAt b 14).toNat % 16)) = some t := ht.resolve_right (by simp)
        cases hi
        cases htt
        exact ⟨rfl, rfl, htcp.2, ⟨hip.1, hip.2.1, hip.2.2.2⟩, hfrag, fun h => by cases h⟩
      · rename_i htcp
        rw [if_neg htcp] at ht ⊢
        split at hi
        · rename_i hpath
          rw [if_pos hpath] at ht ⊢
          have htt : some (14 + 4 * ((byteAt b 14).toNat % 16)) = some t :=
            ht.resolve_left (by simp)
          cases hi
          cases htt
          exact ⟨rfl, rfl, by have := hpath.2; omega, ⟨hip.1, hip.2.1, hip.2.2.2⟩, hfrag,
            fun _ => hpath.1⟩
        · rename_i hpath
          rw [if_neg hpath] at ht
          simp at ht
    · rename_i hfrag
      rw [if_neg hfrag] at ht
      simp at ht
  · rename_i hip
    rw [if_neg hip] at ht
    split at ht <;> simp at ht

theorem decodifica_ley : LeyDecodificador decodifica where
  eth := fun b => by
    unfold decodifica
    split
    · split
      · exact (decodificaIp_ip _ _ _).1
      · rfl
    · split <;> rfl
  orden := fun b i t hi ht => by
    obtain ⟨rfl, rfl, hlen, ⟨_, _, h5⟩, _⟩ := decodifica_header hi ht
    omega
  ip := fun b t ht => by
    unfold decodifica at ht ⊢
    split at ht
    · rename_i hip
      refine ⟨14, ?_⟩
      rw [if_pos hip]
      split
      · exact (decodificaIp_ip _ _ _).2
      · rfl
    · split at ht <;> cases ht
  tipo := fun b i t hi ht => by
    obtain ⟨rfl, _, _, _, _, h⟩ := decodifica_header hi (.inr ht)
    exact h ht
  relee := fun b b' i t hi ht hsame => by
    obtain ⟨rfl, rfl, hlen, ⟨h12, h13, h14⟩, hfrag, _⟩ := decodifica_header hi ht
    -- the bytes that decide where the header is
    have hs : ∀ k, 12 ≤ k → k < 23 → byteAt b' k = byteAt b k :=
      fun k h1 h2 => hsame k (by omega) (by omega) (by omega)
    have hcond : 14 + 4 * ((byteAt b 14).toNat % 16) + 20 ≤ b'.length →
        byteAt b' 12 = 8 ∧ byteAt b' 13 = 0 ∧ 34 ≤ b'.length ∧
          5 ≤ (byteAt b' 14).toNat % 16 := by
      intro hl
      rw [hs 12 (by omega) (by omega), hs 13 (by omega) (by omega), hs 14 (by omega) (by omega)]
      exact ⟨h12, h13, by omega, h14⟩
    have hfrag' : (byteAt b' 20).toNat % 32 = 0 ∧ byteAt b' 21 = 0 := by
      rw [hs 20 (by omega) (by omega), hs 21 (by omega) (by omega)]
      exact hfrag
    refine ⟨fun htipo hl => ?_, fun htipo hl => ?_⟩
    · unfold decodifica
      rw [if_pos (hcond hl), if_pos hfrag', hs 14 (by omega) (by omega), decodificaIp,
        if_pos ⟨htipo, hl⟩]
      exact ⟨rfl, rfl, rfl⟩
    · have hno : ¬ (byteAt b' 23 = ipTypeTcp ∧
          14 + 4 * ((byteAt b 14).toNat % 16) + 20 ≤ b'.length) := by
        rw [show byteAt b' 23 = ipTypePath from htipo]
        exact fun h => absurd h.1 (by decide)
      unfold decodifica
      rw [if_pos (hcond (by omega)), if_pos hfrag', hs 14 (by omega) (by omega), decodificaIp,
        if_neg hno, if_pos ⟨htipo, hl⟩]
      exact ⟨rfl, rfl, rfl⟩

/-! ## 2. What the rewriting functions keep -/

/-- Up to the port numbers of a header at `t`, `b'` differs from `b` at most in the destination
    address and the protocol byte of the IPv4 header at `i`. -/
def Conserva (i t : Nat) (b b' : Bytes) : Prop :=
  ∀ k, 6 ≤ k → k < t + 4 → k ≠ i + 9 → byteAt b' k = byteAt b k

namespace Conserva

variable {i t : Nat} {b b' b'' : Bytes}

theorem trans (h : Conserva i t b b') (h' : Conserva i t b' b'') : Conserva i t b b'' :=
  fun k h1 h2 h3 => (h' k h1 h2 h3).trans (h k h1 h2 h3)

theorem writeDst (m : EthAddr) : Conserva i t b (writeAt b 0 m.bytes) :=
  fun _ h1 _ _ => byteAt_writeAt_of_not b _ (.inr (by rw [length_bytes]; omega))

theorem writeTipo (x : UInt8) : Conserva i t b (writeAt b (i + 9) [x]) :=
  fun k _ _ h3 => byteAt_writeAt_of_not b _ (by rw [List.length_singleton]; omega)

theorem append (d : Bytes) (hl : t + 4 ≤ b.length) : Conserva i t b (b ++ d) :=
  fun _ _ h2 _ => byteAt_append_left (by omega)

theorem macSrc (h : Conserva i t b b') (hi : 14 ≤ i) (ht : i + 20 ≤ t) : macAt b' 6 = macAt b 6 :=
  macAt_congr fun j hj => h (6 + j) (by omega) (by omega) (by omega)

theorem ports (h : Conserva i t b b') (ht : i + 20 ≤ t) :
    le16At b' t = le16At b t ∧ le16At b' (t + 2) = le16At b (t + 2) :=
  ⟨le16At_congr (h t (by omega) (by omega) (by omega))
      (h (t + 1) (by omega) (by omega) (by omega)),
    le16At_congr (h (t + 2) (by omega) (by omega) (by omega))
      (h (t + 2 + 1) (by omega) (by omega) (by omega))⟩

end Conserva

theorem byteAt_writeTipo (x : UInt8) (h : i + 9 < b.length) :
    byteAt (writeAt b (i + 9) [x]) (i + 9) = x := by
  rw [byteAt_writeAt, if_pos ⟨Nat.le_refl _, by rw [List.length_singleton]; omega, h⟩, Nat.sub_self]
  rfl

theorem macAt_writeDst (m : EthAddr) (h : 6 ≤ b.length) : macAt (writeAt b 0 m.bytes) 0 = m := by
  funext j
  unfold macAt
  rw [byteAt_writeAt, if_pos ⟨Nat.zero_le _, by rw [length_bytes]; omega, by omega⟩,
    Nat.sub_zero, Nat.zero_add]
  exact byteAt_bytes m j

theorem length_nyapa (b : Bytes) : (nyapa b).length = b.length := by
  unfold nyapa
  split
  · exact length_writeAt ..
  · split
    · exact length_writeAt ..
    · rfl

/-- The bytes of `nyapa` come behind the first ten of a TCP header. -/
theorem nyapa_keeps (ht : t + 20 ≤ b.length) :
    (nyapa b).length = b.length ∧ ∀ k, k < t + 10 → byteAt (nyapa b) k = byteAt b k := by
  unfold nyapa
  split
  · exact ⟨length_writeAt .., fun k hk => byteAt_writeAt_of_not b _ (.inl (by omega))⟩
  · split
    · exact ⟨length_writeAt .., fun k hk => byteAt_writeAt_of_not b _ (.inl (by omega))⟩
    · exact ⟨rfl, fun _ _ => rfl⟩

/-! ## 3. The headers of a rewritten frame -/

section Spec

variable {parse : Parser} (hley : LeyDecodificador parse) {pkt : Packet} {i t : Nat}

/-- The packet's headers are what the decoder finds in its buffer. -/
def Packet.Valido (parse : Parser) (pkt : Packet) : Prop := pkt.proto = parse pkt.buffer

theorem Packet.valido_revalidate (pkt : Packet) (parse : Parser) (b : Bytes) :
    (pkt.revalidate parse b).Valido parse := rfl

/-- The weaker condition that also holds after the `nyapa` bytes: the headers are what the decoder
    found in a buffer of that length. -/
def Packet.Leido (parse : Parser) (pkt : Packet) : Prop :=
  ∃ b, pkt.proto = parse b ∧ b.length = pkt.buffer.length

theorem Packet.Valido.leido (hv : pkt.Valido parse) : pkt.Leido parse := ⟨_, hv, rfl⟩

/-- A frame with an IPv4 and a PATH header and room for the trailer, whatever that has. -/
structure Packet.ConTrailer (parse : Parser) (pkt : Packet) (i t : Nat) : Prop where
  valido : pkt.Valido parse
  ipv4 : pkt.proto.ipv4 = some i
  tcp : pkt.proto.tcp = none
  path : pkt.proto.path = some t
  length : t + 20 + trailerLen ≤ pkt.buffer.length

/-- A PATH request. -/
structure Packet.EsPath (parse : Parser) (pkt : Packet) (i t : Nat) : Prop where
  valido : pkt.Valido parse
  ipv4 : pkt.proto.ipv4 = some i
  tcp : pkt.proto.tcp = none
  path : pkt.proto.path = some t
  length : t + 20 + trailerLen ≤ pkt.buffer.length
  op : pkt.trailerOp = 1

theorem Packet.EsPath.conTrailer {parse : Parser} {pkt : Packet} {i t : Nat}
    (h : pkt.EsPath parse i t) : pkt.ConTrailer parse i t :=
  ⟨h.valido, h.ipv4, h.tcp, h.path, h.length⟩

/-- In a PATH frame of `len` bytes with its header at `t`, `contador` of `struct path_header`
    (the byte at `t + 33`) is outside the `op` and `mac_dst` of the trailer. -/
def ContadorLibre (t len : Nat) : Prop := t + 33 + trailerLen < len ∨ len < t + 27 + trailerLen

instance (t len : Nat) : Decidable (ContadorLibre t len) := inferInstanceAs (Decidable (_ ∨ _))

/-- What becomes of the fields of a frame that the tables are about: the source address and the
    port numbers at `t`. -/
structure MismoFlujo (pkt pkt' : Packet) (t : Nat) : Prop where
  inPort : pkt'.inPort = pkt.inPort
  ethSrc : pkt'.ethSrc = pkt.ethSrc
  tcpSrc : pkt'.tcpSrc t = pkt.tcpSrc t
  tcpDst : pkt'.tcpDst t = pkt.tcpDst t

theorem byteAt_switchTrack {k : Nat} (h1 : k ≠ t + 33) (h2 : k + 1 ≠ pkt.buffer.length) :
    byteAt (switchTrackTcp parse pkt t).buffer k = byteAt pkt.buffer k := by
  unfold switchTrackTcp Packet.revalidate
  dsimp only
  by_cases hlen : pkt.buffer.length = 0
  · rw [List.length_eq_zero_iff.mp hlen]
    rfl
  · rw [byteAt_writeAt_of_not _ _ (by rw [List.length_singleton]; omega),
      byteAt_writeAt_of_not _ _ (by rw [List.length_singleton]; omega)]

theorem length_switchTrack (parse : Parser) (pkt : Packet) (t : Nat) :
    (switchTrackTcp parse pkt t).buffer.length = pkt.buffer.length := by
  unfold switchTrackTcp Packet.revalidate
  rw [length_writeAt, length_writeAt]

variable {op : UInt8} {pkt' : Packet} {idDp sec : Nat}

theorem leido_desencapsula (h : desencapsulatePathRequestTcp parse pkt op = some pkt') :
    pkt'.Leido parse := by
  unfold desencapsulatePathRequestTcp at h
  split at h
  · cases h
    exact ⟨_, rfl, (length_nyapa _).symm⟩
  · cases h

include hley

theorem Packet.Leido.ethSrc_eq (hv : pkt.Leido parse) : pkt.ethSrc = macAt pkt.buffer 6 := by
  obtain ⟨b, hb, _⟩ := hv
  unfold Packet.ethSrc
  rw [hb, hley.eth]

theorem Packet.Leido.orden (hv : pkt.Leido parse) (hi : pkt.proto.ipv4 = some i)
    (ht : pkt.proto.tcp = some t ∨ pkt.proto.path = some t) :
    14 ≤ i ∧ i + 20 ≤ t ∧ t + 20 ≤ pkt.buffer.length := by
  obtain ⟨b, hb, hl⟩ := hv
  rw [hb] at hi ht
  rw [← hl]
  exact hley.orden b i t hi ht

theorem ethSrc_eq (hv : pkt.Valido parse) : pkt.ethSrc = macAt pkt.buffer 6 := by
  unfold Packet.ethSrc
  rw [hv, hley.eth]

theorem ethDst_eq (hv : pkt.Valido parse) : pkt.ethDst = macAt pkt.buffer 0 := by
  unfold Packet.ethDst
  rw [hv, hley.eth]

theorem mismoFlujo_of_conserva (hv : pkt.Valido parse) (hp : pkt'.inPort = pkt.inPort)
    (he : pkt'.proto.eth = 0) (hi : 14 ≤ i) (ht : i + 20 ≤ t)
    (h : Conserva i t pkt.buffer pkt'.buffer) : MismoFlujo pkt pkt' t := by
  refine ⟨hp, ?_, (h.ports ht).1, (h.ports ht).2⟩
  rw [ethSrc_eq hley hv, Packet.ethSrc, he]
  exact h.macSrc hi ht

/-- **`encapsulate_path_request_tcp`** leaves the segment as it is, or makes a PATH request of its
    flow for everyone, with the destination in the trailer. -/
theorem encapsula_spec {sec' : Nat} (hv : pkt.Valido parse) (ht : pkt.proto.tcp = some t)
    (h : encapsulatePathRequestTcp parse idDp sec pkt = some (pkt', sec')) :
    pkt' = pkt ∨ ∃ i, pkt'.EsPath parse i t ∧ MismoFlujo pkt pkt' t ∧
      pkt'.trailerMac = pkt.ethDst ∧ pkt'.isFlooded = true ∧ pkt.tcpFlags t = tcpSyn ∧
      pkt.proto.ipv4 = some i ∧ pkt'.buffer.length = pkt.buffer.length + trailerLen := by
  unfold encapsulatePathRequestTcp at h
  rw [ht] at h
  dsimp only at h
  split at h
  · rename_i hcond
    split at h
    · rename_i i hi
      refine .inr ⟨i, ?_⟩
      cases h
      obtain ⟨h14, h20, hlen⟩ := hley.orden pkt.buffer i t (hv ▸ hi) (.inl (hv ▸ ht))
      have heth : pkt.proto.eth = 0 := by rw [hv, hley.eth]
      rw [heth]
      -- the buffer before and after the trailer is appended
      set b₁ := writeAt (writeAt pkt.buffer 0 ethAddrBroadcast.bytes) (i + 9) [ipTypePath] with hb₁
      set tr := pathTrailer pkt.ethDst idDp sec with htr
      have hl₁ : b₁.length = pkt.buffer.length := by rw [hb₁, length_writeAt, length_writeAt]
      have htl : tr.length = trailerLen := length_pathTrailer ..
      have hl₂ : (b₁ ++ tr).length = pkt.buffer.length + trailerLen := by
        rw [List.length_append, hl₁, htl]
      have hap : Conserva i t b₁ (b₁ ++ tr) := .append _ (by omega)
      have hcons : Conserva i t pkt.buffer (b₁ ++ tr) :=
        ((Conserva.writeDst _).trans (.writeTipo _)).trans hap
      have htipo : byteAt (b₁ ++ tr) (i + 9) = ipTypePath := by
        rw [byteAt_append_left (by omega), hb₁, byteAt_writeTipo _ (by rw [length_writeAt]; omega)]
      obtain ⟨h1, h2, h3⟩ := (hley.relee pkt.buffer (b₁ ++ tr) i t (hv ▸ hi) (.inl (hv ▸ ht))
        fun k hk hk' hk'' => hcons k hk (by omega) hk'').2 htipo (by rw [hl₂]; omega)
      have hdst : macAt (b₁ ++ tr) 0 = ethAddrBroadcast := by
        rw [← macAt_writeDst ethAddrBroadcast (b := pkt.buffer) (by omega)]
        refine macAt_congr fun j hj => ?_
        rw [byteAt_append_left (by omega), hb₁]
        exact byteAt_writeAt_of_not _ _ (.inl (by omega))
      refine ⟨⟨rfl, h1, h2, h3, by rw [Packet.revalidate, hl₂]; omega, ?_⟩, ?_, ?_, ?_,
        hcond.2.2, hi, hl₂⟩
      · show byteAt (b₁ ++ tr) ((b₁ ++ tr).length - 1 - 6 - 2 - 4 - 1) = 1
        rw [byteAt_append_right (by rw [hl₂, hl₁]; unfold trailerLen; omega), hl₂, hl₁]
        rw [show pkt.buffer.length + trailerLen - 1 - 6 - 2 - 4 - 1 - pkt.buffer.length = 0 by
          unfold trailerLen; omega]
        rfl
      · exact mismoFlujo_of_conserva hley hv rfl (hley.eth _) h14 h20 hcons
      · funext j
        show byteAt (b₁ ++ tr) ((b₁ ++ tr).length - 6 - 2 - 4 - 1 + j) = pkt.ethDst j
        rw [byteAt_append_right (by rw [hl₂, hl₁]; unfold trailerLen; omega), hl₂, hl₁]
        rw [show pkt.buffer.length + trailerLen - 6 - 2 - 4 - 1 + (j : Nat) - pkt.buffer.length =
          1 + j by unfold trailerLen; omega]
        fin_cases j <;> rfl
      · have hd : (pkt.revalidate parse (b₁ ++ tr)).ethDst = ethAddrBroadcast := by
          rw [ethDst_eq hley (pkt.valido_revalidate parse _)]
          exact hdst
        rw [Packet.isFlooded, hd]
        rfl
    · cases h
  · cases h
    exact .inl rfl

theorem switchTrack_headers (h : pkt.ConTrailer parse i t) :
    (switchTrackTcp parse pkt t).proto.ipv4 = some i ∧
      (switchTrackTcp parse pkt t).proto.tcp = none ∧
      (switchTrackTcp parse pkt t).proto.path = some t ∧
      MismoFlujo pkt (switchTrackTcp parse pkt t) t ∧
      (switchTrackTcp parse pkt t).ethDst = pkt.ethDst := by
  have hv : pkt.proto = parse pkt.buffer := h.valido
  obtain ⟨h14, h20, _⟩ := hley.orden pkt.buffer i t (hv ▸ h.ipv4) (.inr (hv ▸ h.path))
  have hlen := h.length
  unfold trailerLen at hlen
  have hkeep : ∀ k, k < t + 33 → byteAt (switchTrackTcp parse pkt t).buffer k =
      byteAt pkt.buffer k := fun k hk => byteAt_switchTrack (by omega) (by omega)
  have hcons : Conserva i t pkt.buffer (switchTrackTcp parse pkt t).buffer :=
    fun k _ hk _ => hkeep k (by omega)
  have htipo : byteAt (switchTrackTcp parse pkt t).buffer (i + 9) = ipTypePath := by
    rw [hkeep _ (by omega)]
    exact hley.tipo pkt.buffer i t (hv ▸ h.ipv4) (hv ▸ h.path)
  obtain ⟨h1, h2, h3⟩ := (hley.relee pkt.buffer (switchTrackTcp parse pkt t).buffer i t
    (hv ▸ h.ipv4) (.inr (hv ▸ h.path)) fun k hk hk' hk'' => hcons k hk (by omega) hk'').2 htipo
    (by rw [length_switchTrack]; exact h.length)
  refine ⟨h1, h2, h3, mismoFlujo_of_conserva hley h.valido rfl (hley.eth _) h14 h20 hcons, ?_⟩
  rw [ethDst_eq hley h.valido,
    ethDst_eq hley (show (switchTrackTcp parse pkt t).Valido parse from rfl)]
  exact macAt_congr fun j hj => hkeep _ (by omega)

/-- **`switch_track_tcp`** keeps what a PATH request asks for, if the counter it writes into the
    header does not hit the trailer's `op` or `mac_dst`. -/
theorem switchTrack_spec (h : pkt.EsPath parse i t) (hlibre : ContadorLibre t pkt.buffer.length) :
    (switchTrackTcp parse pkt t).EsPath parse i t ∧
      MismoFlujo pkt (switchTrackTcp parse pkt t) t ∧
      (switchTrackTcp parse pkt t).trailerMac = pkt.trailerMac := by
  have hlen := h.length
  unfold ContadorLibre trailerLen at hlibre
  unfold trailerLen at hlen
  obtain ⟨h1, h2, h3, hflujo, _⟩ := switchTrack_headers hley h.conTrailer
  refine ⟨⟨rfl, h1, h2, h3, by rw [length_switchTrack]; exact h.length, ?_⟩, hflujo, ?_⟩
  · unfold Packet.trailerOp
    rw [length_switchTrack, byteAt_switchTrack (by omega) (by omega)]
    exact h.op
  · unfold Packet.trailerMac
    rw [length_switchTrack]
    exact macAt_congr fun j hj => byteAt_switchTrack (by omega) (by omega)

/-- **What `desencapsulate_path_request_tcp` makes of the bytes.** The destination comes out of the
    trailer only if its `op` says so. -/
theorem desencapsula_path (h : pkt.ConTrailer parse i t) (op : UInt8) :
    ∃ b, desencapsulatePathRequestTcp parse pkt op = some ⟨pkt.inPort, nyapa b, parse b⟩ ∧
      b.length + trailerLen = pkt.buffer.length ∧
      macAt b 0 = (if op = 1 then pkt.trailerMac else macAt pkt.buffer 0) ∧
      byteAt b (i + 9) = ipTypeTcp ∧
      ∀ x, 6 ≤ x → x < b.length → x ≠ i + 9 → byteAt b x = byteAt pkt.buffer x := by
  have hv : pkt.proto = parse pkt.buffer := h.valido
  obtain ⟨h14, h20, _⟩ := hley.orden pkt.buffer i t (hv ▸ h.ipv4) (.inr (hv ▸ h.path))
  have hlen := h.length
  have heth : pkt.proto.eth = 0 := by rw [hv, hley.eth]
  set b₀ := if op = 1 then writeAt pkt.buffer 0 pkt.trailerMac.bytes else pkt.buffer with hb₀
  obtain ⟨hl₀, hmac₀, hbytes₀⟩ : b₀.length = pkt.buffer.length ∧
      macAt b₀ 0 = (if op = 1 then pkt.trailerMac else macAt pkt.buffer 0) ∧
      ∀ x, 6 ≤ x → byteAt b₀ x = byteAt pkt.buffer x := by
    rw [hb₀]
    split
    · refine ⟨length_writeAt .., macAt_writeDst _ (by omega), fun x hx => ?_⟩
      exact byteAt_writeAt_of_not _ _ (by rw [length_bytes]; omega)
    · exact ⟨rfl, rfl, fun _ _ => rfl⟩
  set b₁ := writeAt b₀ (i + 9) [ipTypeTcp] with hb₁
  have hl₁ : b₁.length = pkt.buffer.length := by rw [hb₁, length_writeAt, hl₀]
  have hl₂ : (b₁.take (b₁.length - trailerLen)).length = pkt.buffer.length - trailerLen := by
    rw [List.length_take, hl₁]
    omega
  have htake : ∀ x, x < pkt.buffer.length - trailerLen →
      byteAt (b₁.take (b₁.length - trailerLen)) x = byteAt b₁ x :=
    fun x hx => byteAt_take (by rw [hl₁]; exact hx)
  refine ⟨b₁.take (b₁.length - trailerLen), ?_, ?_, ?_, ?_, ?_⟩
  · unfold desencapsulatePathRequestTcp
    rw [h.ipv4, heth]
  · rw [hl₂]
    omega
  · rw [← hmac₀]
    refine macAt_congr fun j hj => ?_
    rw [htake _ (by omega), hb₁]
    exact byteAt_writeAt_of_not _ _ (.inl (by omega))
  · rw [htake _ (by omega), hb₁, byteAt_writeTipo _ (by omega)]
  · intro x h6 hx hne
    rw [htake _ (by rw [← hl₂]; exact hx), hb₁,
      byteAt_writeAt_of_not _ _ (by rw [List.length_singleton]; omega), hbytes₀ x h6]

/-- **`desencapsulate_path_request_tcp`** turns a PATH request back into a segment of its flow to
    the destination of the trailer. -/
theorem desencapsula_spec (h : pkt.EsPath parse i t)
    (hd : desencapsulatePathRequestTcp parse pkt 1 = some pkt') :
    MismoFlujo pkt pkt' t ∧ pkt'.ethDst = pkt.trailerMac ∧ pkt'.proto.tcp = some t ∧
      pkt'.proto.path = none ∧ (parse pkt'.buffer).tcp = some t ∧
      (parse pkt'.buffer).path = none ∧ pkt'.buffer.length + trailerLen = pkt.buffer.length := by
  have hv : pkt.proto = parse pkt.buffer := h.valido
  obtain ⟨h14, h20, _⟩ := hley.orden pkt.buffer i t (hv ▸ h.ipv4) (.inr (hv ▸ h.path))
  have hlen := h.length
  obtain ⟨b, hb, hlb, hdst, htipo, hbytes⟩ := desencapsula_path hley h.conTrailer 1
  rw [if_pos rfl] at hdst
  rw [hb] at hd
  cases hd
  obtain ⟨hl, hny⟩ := nyapa_keeps (b := b) (t := t) (by omega)
  have hcons : Conserva i t pkt.buffer b := fun k h6 hk hne => hbytes k h6 (by omega) hne
  have hcons' : Conserva i t pkt.buffer (nyapa b) := hcons.trans fun k _ hk _ => hny k (by omega)
  have hparse : ∀ b', Conserva i t pkt.buffer b' → byteAt b' (i + 9) = ipTypeTcp →
      t + 20 ≤ b'.length → (parse b').tcp = some t ∧ (parse b').path = none := by
    intro b' hc ht hl
    exact ((hley.relee pkt.buffer b' i t (hv ▸ h.ipv4) (.inr (hv ▸ h.path))
      fun k hk hk' hk'' => hc k hk (by omega) hk'').1 ht hl).2
  obtain ⟨h1, h2⟩ := hparse b hcons htipo (by omega)
  obtain ⟨h3, h4⟩ := hparse (nyapa b) hcons' (by rw [hny _ (by omega)]; exact htipo) (by omega)
  refine ⟨mismoFlujo_of_conserva hley h.valido rfl (hley.eth _) h14 h20 hcons', ?_, h1, h2, h3, h4,
    (congrArg (· + trailerLen) hl).trans hlb⟩
  show macAt (nyapa b) (parse b).eth = pkt.trailerMac
  rw [hley.eth, ← hdst]
  exact macAt_congr fun j hj => hny _ (by omega)

theorem ethSrc_switchTrack (hv : pkt.Leido parse) (hp : pkt.proto.path = some t) :
    (switchTrackTcp parse pkt t).ethSrc = pkt.ethSrc := by
  obtain ⟨i, hi⟩ : ∃ i, pkt.proto.ipv4 = some i := by
    obtain ⟨b, hb, _⟩ := hv
    rw [hb] at hp ⊢
    exact hley.ip b t hp
  obtain ⟨h14, h20, hlen⟩ := hv.orden hley hi (.inr hp)
  rw [hv.ethSrc_eq hley, ethSrc_eq hley (show (switchTrackTcp parse pkt t).Valido parse from rfl)]
  exact macAt_congr fun j hj => byteAt_switchTrack (by omega) (by omega)

theorem ethSrc_encapsula {r : Packet × Nat} (hv : pkt.Leido parse)
    (h : encapsulatePathRequestTcp parse idDp sec pkt = some r) : r.1.ethSrc = pkt.ethSrc := by
  unfold encapsulatePathRequestTcp at h
  split at h
  · rename_i t ht
    split at h
    · split at h
      · rename_i i hi
        obtain ⟨h14, h20, hlen⟩ := hv.orden hley hi (.inl ht)
        have heth : pkt.proto.eth = 0 := by
          obtain ⟨b, hb, _⟩ := hv
          rw [hb, hley.eth]
        cases h
        rw [hv.ethSrc_eq hley, ethSrc_eq hley (Packet.valido_revalidate pkt parse _), heth]
        refine macAt_congr fun j hj => ?_
        show byteAt (_ ++ _) _ = _
        rw [byteAt_append_left (by rw [length_writeAt, length_writeAt]; omega),
          byteAt_writeAt_of_not _ _ (.inl (by omega)),
          byteAt_writeAt_of_not _ _ (.inr (by rw [length_bytes]; omega))]
      · cases h
    · cases h
      rfl
  · cases h
    rfl

theorem ethSrc_desencapsula (hv : pkt.Leido parse) (hp : pkt.proto.path = some t)
    (h : desencapsulatePathRequestTcp parse pkt op = some pkt') :
    pkt'.ethSrc = pkt.ethSrc ∧ macAt pkt'.buffer 6 = pkt.ethSrc := by
  have heth : pkt.proto.eth = 0 := by
    obtain ⟨b, hb, _⟩ := hv
    rw [hb, hley.eth]
  unfold desencapsulatePathRequestTcp at h
  split at h
  · rename_i i hi
    obtain ⟨h14, h20, hlen⟩ := hv.orden hley hi (.inr hp)
    cases h
    rw [heth]
    set b₀ := if op = 1 then writeAt pkt.buffer 0 pkt.trailerMac.bytes else pkt.buffer with hb₀
    set b₂ := (writeAt b₀ (i + 9) [ipTypeTcp]).take
      ((writeAt b₀ (i + 9) [ipTypeTcp]).length - trailerLen) with hb₂
    have hl₀ : b₀.length = pkt.buffer.length := by
      rw [hb₀]
      split
      · exact length_writeAt ..
      · rfl
    have hl₂ : b₂.length = pkt.buffer.length - trailerLen := by
      rw [hb₂, List.length_take, length_writeAt, hl₀]
      omega
    have h0 : ∀ k, 6 ≤ k → byteAt b₀ k = byteAt pkt.buffer k := by
      intro k hk
      rw [hb₀]
      split
      · exact byteAt_writeAt_of_not _ _ (.inr (by rw [length_bytes]; omega))
      · rfl
    have hmac : macAt (nyapa b₂) 6 = macAt pkt.buffer 6 := by
      refine macAt_congr fun j hj => ?_
      unfold trailerLen at hl₂ hb₂
      rw [(nyapa_keeps (b := b₂) (t := 14) (by omega)).2 _ (by omega), hb₂,
        byteAt_take (by rw [length_writeAt, hl₀]; omega),
        byteAt_writeAt_of_not _ _ (.inl (by omega)), h0 _ (by omega)]
    rw [hv.ethSrc_eq hley]
    refine ⟨?_, hmac⟩
    show macAt (nyapa b₂) ((parse b₂).eth + 6) = _
    rw [hley.eth]
    exact hmac
  · cases h

end Spec

end TcpPath
