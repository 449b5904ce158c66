/-
  Subject:   A SYN on its way as a PATH frame: `encapsulate_path_request_tcp` at the first switch,
             `switch_track_tcp` at every further one, `desencapsulate_path_request_tcp` at the last.

  Three places are written that the last switch does not put back: the byte at `t + 33` behind the
  start of the TCP header, where `switch_track_tcp` counts; the `nyapa` bytes of frames of 74 and
  86 bytes; and the trailer, where a SYN ends 27 to 33 bytes behind the start of its TCP header.

  * `roundTrip_iff`: the bytes come back, and every switch reads the right destination on the way,
    exactly if these bytes were such that nothing shows (`Intacto`, `DestinoIntacto`).
-/
import TcpPath.Decoder
import TcpPath.Tables.MacPort

namespace TcpPath

/-! ## 1. Bytes -/

theorem bytes_ext {b c : Bytes} (hl : b.length = c.length)
    (h : ∀ x, x < c.length → byteAt b x = byteAt c x) : b = c := by
  refine List.ext_getElem hl fun x hb hc => ?_
  have hx := h x hc
  unfold byteAt at hx
  rwa [List.getD_eq_getElem _ _ hb, List.getD_eq_getElem _ _ hc] at hx

/-- The bytes that `nyapa` sets to zero in a frame of `len` bytes. -/
def EnNyapa (len x : Nat) : Prop :=
  (len = 86 ∧ 76 ≤ x ∧ x < 80) ∨ (len = 74 ∧ 66 ≤ x ∧ x < 70)

instance (len x : Nat) : Decidable (EnNyapa len x) := inferInstanceAs (Decidable (_ ∨ _))

theorem byteAt_nyapa (b : Bytes) (x : Nat) :
    byteAt (nyapa b) x = if EnNyapa b.length x then 0 else byteAt b x := by
  have hcero : ∀ k, byteAt (writeAt b k [0, 0, 0, 0]) x =
      if k ≤ x ∧ x < k + 4 ∧ x < b.length then 0 else byteAt b x := by
    intro k
    rw [byteAt_writeAt]
    congr 1
    match x - k with
    | 0 | 1 | 2 | 3 => rfl
    | j + 4 => exact List.getD_eq_default _ _ (Nat.le_add_left 4 j)
  unfold nyapa
  split
  · rename_i h86
    rw [hcero]
    exact if_congr (by unfold EnNyapa; omega) rfl rfl
  · rename_i h86
    split
    · rename_i h74
      rw [hcero]
      exact if_congr (by unfold EnNyapa; omega) rfl rfl
    · rename_i h74
      exact (if_neg (by unfold EnNyapa; omega)).symm

/-! ## 2. The way of a SYN -/

/-- An Ethernet/IPv4/TCP SYN that `encapsulate_path_request_tcp` takes. -/
structure Packet.EsSyn (parse : Parser) (pkt : Packet) (i t : Nat) : Prop where
  valido : pkt.Valido parse
  ipv4 : pkt.proto.ipv4 = some i
  tcp : pkt.proto.tcp = some t
  path : pkt.proto.path = none
  syn : pkt.tcpFlags t = tcpSyn
  tipo : byteAt pkt.buffer (i + 9) = ipTypeTcp
  corto : pkt.buffer.length < 93

/-- `switch_track_tcp`, `k` times. -/
def rastrea (parse : Parser) (t : Nat) (pkt : Packet) : Nat → Packet
  | 0 => pkt
  | k + 1 => switchTrackTcp parse (rastrea parse t pkt k) t

section Viaje

variable {parse : Parser} (hley : LeyDecodificador parse) {pkt : Packet} {i t : Nat}

theorem length_rastrea (parse : Parser) (t : Nat) (pkt : Packet) (k : Nat) :
    (rastrea parse t pkt k).buffer.length = pkt.buffer.length := by
  induction k with
  | zero => rfl
  | succ k ih => rw [rastrea, length_switchTrack, ih]

theorem byteAt_rastrea {x : Nat} (h1 : x ≠ t + 33) (h2 : x + 1 ≠ pkt.buffer.length) (k : Nat) :
    byteAt (rastrea parse t pkt k).buffer x = byteAt pkt.buffer x := by
  induction k with
  | zero => rfl
  | succ k ih => rw [rastrea, byteAt_switchTrack h1 (by rw [length_rastrea]; exact h2), ih]

theorem byteAt_contador (parse : Parser) (hl : t + 33 < pkt.buffer.length) :
    byteAt (switchTrackTcp parse pkt t).buffer (pkt.buffer.length - 1) =
        byteAt pkt.buffer (pkt.buffer.length - 1) + 1 ∧
      byteAt (switchTrackTcp parse pkt t).buffer (t + 33) =
        byteAt pkt.buffer (pkt.buffer.length - 1) + 1 := by
  unfold switchTrackTcp Packet.revalidate
  dsimp only
  have huno : ∀ (x : UInt8) (j : Nat), j = 0 → byteAt [x] j = x := fun x j hj => by
    subst hj
    rfl
  refine ⟨?_, ?_⟩
  · rw [byteAt_writeAt, if_pos (by simp only [List.length_singleton, length_writeAt]; omega)]
    exact huno _ _ (Nat.sub_self _)
  · rw [byteAt_writeAt]
    split
    · exact huno _ _ (by simp only [List.length_singleton] at *; omega)
    · rw [byteAt_writeAt, if_pos (by simp only [List.length_singleton]; omega)]
      exact huno _ _ (Nat.sub_self _)

theorem byteAt_rastrea_contador (hl : t + 33 < pkt.buffer.length) (k : Nat) :
    byteAt (rastrea parse t pkt k).buffer (pkt.buffer.length - 1) =
        byteAt pkt.buffer (pkt.buffer.length - 1) + UInt8.ofNat k ∧
      (0 < k → byteAt (rastrea parse t pkt k).buffer (t + 33) =
        byteAt pkt.buffer (pkt.buffer.length - 1) + UInt8.ofNat k) := by
  induction k with
  | zero => exact ⟨(UInt8.add_zero _).symm, fun h => absurd h (Nat.lt_irrefl 0)⟩
  | succ k ih =>
    have hlen := length_rastrea parse t pkt k
    have hc := byteAt_contador parse (hl.trans_eq hlen.symm)
    rw [hlen, ih.1, UInt8.add_assoc, show UInt8.ofNat k + 1 = UInt8.ofNat (k + 1) from
      (UInt8.ofNat_add k 1).symm] at hc
    exact ⟨hc.1, fun _ => hc.2⟩

include hley

/-- **What the hops leave of a PATH request**: its headers. -/
theorem conTrailer_rastrea (h : pkt.ConTrailer parse i t) (k : Nat) :
    (rastrea parse t pkt k).ConTrailer parse i t := by
  induction k with
  | zero => exact h
  | succ k ih =>
    obtain ⟨h1, h2, h3, _⟩ := switchTrack_headers hley ih
    exact ⟨rfl, h1, h2, h3, by rw [rastrea, length_switchTrack]; exact ih.length⟩

theorem encapsula_syn (h : pkt.EsSyn parse i t) (idDp sec : Nat) :
    ∃ p sec', encapsulatePathRequestTcp parse idDp sec pkt = some (p, sec') ∧
      p.EsPath parse i t ∧ p.trailerMac = pkt.ethDst ∧ macAt p.buffer 0 = ethAddrBroadcast ∧
      p.buffer.length = pkt.buffer.length + trailerLen ∧
      byteAt p.buffer (p.buffer.length - 1) = 1 ∧
      ∀ x, 6 ≤ x → x < pkt.buffer.length → x ≠ i + 9 →
        byteAt p.buffer x = byteAt pkt.buffer x := by
  have hv : pkt.proto = parse pkt.buffer := h.valido
  obtain ⟨h14, h20, hlen⟩ := hley.orden pkt.buffer i t (hv ▸ h.ipv4) (.inl (hv ▸ h.tcp))
  have heth : pkt.proto.eth = 0 := by rw [hv, hley.eth]
  have henc : ∃ p sec', encapsulatePathRequestTcp parse idDp sec pkt = some (p, sec') ∧
      p.buffer = writeAt (writeAt pkt.buffer 0 ethAddrBroadcast.bytes) (i + 9) [ipTypePath] ++
        pathTrailer pkt.ethDst idDp sec := by
    unfold encapsulatePathRequestTcp
    rw [h.tcp]
    dsimp only
    rw [if_pos ⟨h.corto, h.path, h.syn⟩, h.ipv4, heth]
    exact ⟨_, _, rfl, rfl⟩
  obtain ⟨p, sec', he, hb⟩ := henc
  have hl : p.buffer.length = pkt.buffer.length + trailerLen := by
    rw [hb, List.length_append, length_writeAt, length_writeAt, length_pathTrailer]
  obtain ⟨hpath, hmac⟩ : p.EsPath parse i t ∧ p.trailerMac = pkt.ethDst := by
    rcases encapsula_spec hley h.valido h.tcp he with rfl | ⟨i', hp, _, hmac, _, _, hi', _⟩
    · exact absurd hl (by unfold trailerLen; omega)
    · cases hi'.symm.trans h.ipv4
      exact ⟨hp, hmac⟩
  refine ⟨p, sec', he, hpath, hmac, ?_, hl, ?_, fun x h6 hx hne => ?_⟩
  · rw [← macAt_writeDst ethAddrBroadcast (b := pkt.buffer) (by omega), hb]
    refine macAt_congr fun j hj => ?_
    rw [byteAt_append_left (by rw [length_writeAt, length_writeAt]; omega)]
    exact byteAt_writeAt_of_not _ _ (.inl (by omega))
  · rw [hl, hb, byteAt_append_right
        (by rw [length_writeAt, length_writeAt]; unfold trailerLen; omega),
      length_writeAt, length_writeAt,
      show pkt.buffer.length + trailerLen - 1 - pkt.buffer.length = 13 by unfold trailerLen; omega]
    rfl
  · rw [hb, byteAt_append_left (by rw [length_writeAt, length_writeAt]; exact hx),
      byteAt_writeAt_of_not _ _ (by rw [List.length_singleton]; omega),
      byteAt_writeAt_of_not _ _ (by rw [length_bytes]; omega)]

end Viaje

/-! ## 3. The round trip -/

/-- What the way over `k` hops does not put back is as it was: the `nyapa` bytes are zero, and the
    byte at `t + 33` is behind the end, or a `nyapa` byte, or the hop counter. -/
def Intacto (t k : Nat) (b : Bytes) : Prop :=
  (∀ x, EnNyapa b.length x → byteAt b x = 0) ∧
    (0 < k → t + 33 < b.length → EnNyapa b.length (t + 33) ∨
      byteAt b (t + 33) = UInt8.ofNat (k + 1))

/-- A segment that has the bytes of `c` but for the place of the hop counter becomes `c` by `nyapa`
    exactly if `c` is `Intacto`. -/
theorem nyapa_eq_iff {b c : Bytes} {t k : Nat} (hl : b.length = c.length)
    (hseg : ∀ x, x < c.length → byteAt b x =
      if 0 < k ∧ x = t + 33 then UInt8.ofNat (k + 1) else byteAt c x) :
    nyapa b = c ↔ Intacto t k c := by
  constructor
  · intro heq
    have hx : ∀ x, byteAt c x = if EnNyapa c.length x then 0 else byteAt b x := by
      intro x
      rw [← hl, ← byteAt_nyapa, heq]
    refine ⟨fun x hny => ?_, fun hk hlt => ?_⟩
    · rw [hx x, if_pos hny]
    · by_cases hny : EnNyapa c.length (t + 33)
      · exact .inl hny
      · refine .inr ?_
        rw [hx, if_neg hny, hseg _ hlt, if_pos ⟨hk, rfl⟩]
  · rintro ⟨hcero, hcont⟩
    refine bytes_ext (by rw [length_nyapa, hl]) fun x hx => ?_
    rw [byteAt_nyapa, hl]
    split
    · rename_i hny
      exact (hcero x hny).symm
    · rename_i hny
      rw [hseg x hx]
      split
      · rename_i hx33
        obtain ⟨hk, rfl⟩ := hx33
        exact ((hcont hk hx).resolve_left hny).symm
      · rfl

/-- The bytes of the SYN behind its destination, after `k` hops of its PATH request `p`: only the
    hop counter shows. -/
theorem byteAt_hops {parse : Parser} {p : Packet} {c : Bytes} {i t : Nat}
    (hl : p.buffer.length = c.length + trailerLen)
    (huno : byteAt p.buffer (p.buffer.length - 1) = 1)
    (hbytes : ∀ x, 6 ≤ x → x < c.length → x ≠ i + 9 → byteAt p.buffer x = byteAt c x) (k : Nat)
    {x : Nat} (h6 : 6 ≤ x) (hx : x < c.length) (hi : x ≠ i + 9) :
    byteAt (rastrea parse t p k).buffer x =
      if 0 < k ∧ x = t + 33 then UInt8.ofNat (k + 1) else byteAt c x := by
  split
  · rename_i hx33
    obtain ⟨hk, rfl⟩ := hx33
    rw [(byteAt_rastrea_contador (by rw [hl]; unfold trailerLen; omega) k).2 hk, huno,
      Nat.add_comm k 1, UInt8.ofNat_add]
    rfl
  · rename_i hx33
    by_cases hk : k = 0
    · rw [hk, rastrea, hbytes x h6 hx hi]
    · rw [byteAt_rastrea (by omega) (by rw [hl]; unfold trailerLen; omega), hbytes x h6 hx hi]

/-- The trailer after `j` hops: the counter shows in the byte of `mac_dst` it hits, if it hits
    one. -/
theorem trailerMac_rastrea {parse : Parser} {p : Packet} {m : EthAddr} {n t : Nat}
    (hl : p.buffer.length = n + trailerLen) (huno : byteAt p.buffer (p.buffer.length - 1) = 1)
    (hmac : p.trailerMac = m) (j : Nat) (x : Fin 6) :
    (rastrea parse t p j).trailerMac x =
      if 0 < j ∧ t + 32 = n + x then UInt8.ofNat (j + 1) else m x := by
  have hx := x.isLt
  unfold trailerLen at hl
  rw [← hmac]
  unfold Packet.trailerMac macAt
  rw [length_rastrea]
  split
  · rename_i hj
    rw [show p.buffer.length - 6 - 2 - 4 - 1 + x.val = t + 33 by omega,
      (byteAt_rastrea_contador (by omega) j).2 hj.1, huno, Nat.add_comm j 1, UInt8.ofNat_add]
    rfl
  · rename_i hj
    by_cases h0 : j = 0
    · rw [h0, rastrea]
    · exact byteAt_rastrea (by omega) (by omega) j

/-- And in its `op`, if the SYN ends at the counter. -/
theorem trailerOp_rastrea {parse : Parser} {p : Packet} {n t : Nat}
    (hl : p.buffer.length = n + trailerLen) (huno : byteAt p.buffer (p.buffer.length - 1) = 1)
    (hop : p.trailerOp = 1) (j : Nat) :
    (rastrea parse t p j).trailerOp = if 0 < j ∧ t + 33 = n then UInt8.ofNat (j + 1) else 1 := by
  unfold trailerLen at hl
  rw [← hop]
  unfold Packet.trailerOp
  rw [length_rastrea]
  split
  · rename_i hj
    rw [show p.buffer.length - 1 - 6 - 2 - 4 - 1 = t + 33 by omega,
      (byteAt_rastrea_contador (by omega) j).2 hj.1, huno, Nat.add_comm j 1, UInt8.ofNat_add]
    rfl
  · rename_i hj
    by_cases h0 : j = 0
    · rw [h0, rastrea]
    · exact byteAt_rastrea (by omega) (by omega) j

/-- **The destination on the way**, over up to `k` hops: it is that of the SYN if the counter hits
    no byte of it, or there is one hop and the byte it hits is a 2. -/
theorem destino_iff {parse : Parser} {p : Packet} {m : EthAddr} {n t : Nat}
    (hl : p.buffer.length = n + trailerLen) (huno : byteAt p.buffer (p.buffer.length - 1) = 1)
    (hmac : p.trailerMac = m) (k : Nat) :
    (∀ j ≤ k, (rastrea parse t p j).trailerMac = m) ↔
      k = 0 ∨ ∀ x : Fin 6, t + 32 = n + x → k = 1 ∧ m x = 2 := by
  have hbyte : ∀ (j : Nat) (x : Fin 6), (rastrea parse t p j).trailerMac x =
      if 0 < j ∧ t + 32 = n + x then UInt8.ofNat (j + 1) else m x :=
    trailerMac_rastrea hl huno hmac
  constructor
  · intro h
    by_cases hk : k = 0
    · exact .inl hk
    refine .inr fun x hx => ?_
    have hm : ∀ j, 0 < j → j ≤ k → m x = UInt8.ofNat (j + 1) := by
      intro j h0 hj
      rw [← congrFun (h j hj) x, hbyte, if_pos ⟨h0, hx⟩]
    refine ⟨?_, hm 1 (by omega) (by omega)⟩
    by_contra h1
    have h23 := (hm 1 (by omega) (by omega)).symm.trans (hm 2 (by omega) (by omega))
    exact absurd h23 (by decide)
  · intro h j hj
    funext x
    rw [hbyte]
    split
    · rename_i hjx
      obtain ⟨rfl, hm⟩ := (h.resolve_left (by omega)) x hjx.2
      obtain rfl : j = 1 := by omega
      exact hm.symm
    · rfl

/-- The trailer of a SYN comes through `k` hops: the counter does not hit it, or hits `op` and
    leaves it a 1 or the destination is the broadcast address anyway, or hits a byte of `mac_dst`
    that is a 2 on the only hop. -/
def DestinoIntacto (t k : Nat) (pkt : Packet) : Prop :=
  k = 0 ∨ ContadorLibre t (pkt.buffer.length + trailerLen) ∨
    (t + 33 = pkt.buffer.length ∧ (k % 256 = 0 ∨ pkt.ethDst = ethAddrBroadcast)) ∨
    (k = 1 ∧ ∃ x : Fin 6, t + 32 = pkt.buffer.length + x ∧ pkt.ethDst x = 2)

theorem destinoIntacto_iff {t k : Nat} {pkt : Packet} :
    DestinoIntacto t k pkt ↔
      (k = 0 ∨ ∀ x : Fin 6, t + 32 = pkt.buffer.length + x → k = 1 ∧ pkt.ethDst x = 2) ∧
      (¬(0 < k ∧ t + 33 = pkt.buffer.length) ∨ k % 256 = 0 ∨ pkt.ethDst = ethAddrBroadcast) := by
  unfold DestinoIntacto ContadorLibre trailerLen
  constructor
  · rintro (rfl | hlibre | ⟨hop, h⟩ | ⟨rfl, x, hx, hm⟩)
    · exact ⟨.inl rfl, .inl (by omega)⟩
    · exact ⟨.inr fun x hx => absurd x.isLt (by omega), .inl (by omega)⟩
    · exact ⟨.inr fun x hx => absurd hx (by omega), .inr h⟩
    · refine ⟨.inr fun y hy => ?_, .inl (by omega)⟩
      obtain rfl : y = x := Fin.ext (by omega)
      exact ⟨rfl, hm⟩
  · rintro ⟨hmac, hop⟩
    by_cases hk : k = 0
    · exact .inl hk
    have hmac := hmac.resolve_left hk
    by_cases h33 : t + 33 = pkt.buffer.length
    · exact .inr (.inr (.inl ⟨h33, hop.resolve_left fun hno => hno ⟨by omega, h33⟩⟩))
    by_cases h32 : pkt.buffer.length ≤ t + 32 ∧ t + 32 < pkt.buffer.length + 6
    · have hx : t + 32 = pkt.buffer.length +
          (⟨t + 32 - pkt.buffer.length, by omega⟩ : Fin 6).val := by
        show t + 32 = pkt.buffer.length + (t + 32 - pkt.buffer.length)
        omega
      exact .inr (.inr (.inr ⟨(hmac _ hx).1, _, hx, (hmac _ hx).2⟩))
    · exact .inr (.inl (by omega))

/-- **The PATH round trip.** The last switch makes the bytes of the SYN, and every switch reads its
destination from the trailer, exactly if the bytes that are not put back are as they were and the
counter does the trailer no harm. -/
theorem roundTrip_iff {parse : Parser} (hley : LeyDecodificador parse) {pkt : Packet} {i t : Nat}
    (h : pkt.EsSyn parse i t) (idDp sec k : Nat) :
    ∃ p sec' f, encapsulatePathRequestTcp parse idDp sec pkt = some (p, sec') ∧
      desencapsulatePathRequestTcp parse (rastrea parse t p k) (rastrea parse t p k).trailerOp =
        some f ∧
      ((f.buffer = pkt.buffer ∧ ∀ j ≤ k, (rastrea parse t p j).trailerMac = pkt.ethDst ∧
          dstLookedUp (rastrea parse t p j) = pkt.ethDst) ↔
        Intacto t k pkt.buffer ∧ DestinoIntacto t k pkt) := by
  have hv : pkt.proto = parse pkt.buffer := h.valido
  obtain ⟨h14, h20, hlen⟩ := hley.orden pkt.buffer i t (hv ▸ h.ipv4) (.inl (hv ▸ h.tcp))
  obtain ⟨p, sec', he, hp, hmac, hbroad, hl, huno, hbytes⟩ := encapsula_syn hley h idDp sec
  have hcon := conTrailer_rastrea hley hp.conTrailer (k := k)
  obtain ⟨b, hd, hb, hdst, htipo, hb'⟩ :=
    desencapsula_path hley hcon (rastrea parse t p k).trailerOp
  have hlb : b.length = pkt.buffer.length := by
    rw [length_rastrea, hl] at hb
    omega
  refine ⟨p, sec', _, he, hd, ?_⟩
  have hmira : ∀ j, dstLookedUp (rastrea parse t p j) = (rastrea parse t p j).trailerMac := by
    intro j
    unfold dstLookedUp
    rw [(conTrailer_rastrea hley hp.conTrailer (k := j)).path]
    rfl
  simp only [hmira, and_self, destino_iff hl huno hmac]
  rw [destinoIntacto_iff, ← and_assoc, and_comm (a := Intacto _ _ _), and_assoc, and_comm]
  refine and_congr_right fun hdestino => ?_
  have hk : (rastrea parse t p k).trailerMac = pkt.ethDst :=
    (destino_iff hl huno hmac k).mpr hdestino k (Nat.le_refl k)
  have hsyn : pkt.ethDst = macAt pkt.buffer 0 := ethDst_eq hley h.valido
  -- behind the first six bytes only the hop counter shows
  have hresto : ∀ x, 6 ≤ x → x < pkt.buffer.length → byteAt b x =
      if 0 < k ∧ x = t + 33 then UInt8.ofNat (k + 1) else byteAt pkt.buffer x := by
    intro x h6 hx
    by_cases hi : x = i + 9
    · rw [if_neg (by omega), hi, htipo, h.tipo]
    · rw [hb' x h6 (by omega) hi]
      exact byteAt_hops hl huno hbytes k h6 hx hi
  have hseg : macAt b 0 = pkt.ethDst → (nyapa b = pkt.buffer ↔ Intacto t k pkt.buffer) := by
    intro hm
    refine nyapa_eq_iff hlb fun x hx => ?_
    by_cases h6 : x < 6
    · have hx6 := congrFun (hm.trans hsyn) ⟨x, h6⟩
      rw [if_neg (by omega)]
      simpa only [macAt, Nat.zero_add] using hx6
    · exact hresto x (by omega) hx
  have hop : (rastrea parse t p k).trailerOp = 1 ↔
      ¬(0 < k ∧ t + 33 = pkt.buffer.length) ∨ k % 256 = 0 := by
    rw [trailerOp_rastrea hl huno hp.op]
    split
    · rename_i hk33
      rw [← UInt8.toNat_inj, UInt8.toNat_ofNat', show (1 : UInt8).toNat = 1 from rfl]
      omega
    · rename_i hno
      exact iff_of_true rfl (.inl hno)
  have hfuera : macAt (rastrea parse t p k).buffer 0 = ethAddrBroadcast := by
    rw [← hbroad]
    exact macAt_congr fun j hj => byteAt_rastrea (by omega) (by rw [hl]; omega) k
  rw [hfuera, hk] at hdst
  by_cases hop1 : (rastrea parse t p k).trailerOp = 1
  · rw [if_pos hop1] at hdst
    rw [hseg hdst]
    exact (and_iff_left ((hop.mp hop1).imp_right .inl)).symm
  · rw [if_neg hop1] at hdst
    by_cases hbr : pkt.ethDst = ethAddrBroadcast
    · rw [hseg (hdst.trans hbr.symm)]
      exact (and_iff_left (.inr (.inr hbr))).symm
    · refine iff_of_false (fun heq => hbr ?_) fun hint => ?_
      · rw [hsyn, ← heq, ← hdst]
        refine macAt_congr fun j hj => ?_
        rw [byteAt_nyapa, if_neg (by unfold EnNyapa; omega)]
      · rcases hint.2 with hno | hno | hno
        · exact hop1 (hop.mpr (.inl hno))
        · exact hop1 (hop.mpr (.inr hno))
        · exact hbr hno

/-- A SYN from 00:00:00:00:00:01 to 00:00:00:00:00:02 with the TCP options `opc`. -/
def synCon (opc : Bytes) : Packet :=
  packetCreate decodifica 1
    ([0, 0, 0, 0, 0, 2, 0, 0, 0, 0, 0, 1, 8, 0, 0x45] ++ List.replicate 7 0 ++ [64, 6] ++
      List.replicate 10 0 ++ [0x10, 0x20, 0, 80] ++ List.replicate 8 0 ++
      [UInt8.ofNat (16 * (5 + opc.length / 4)), 2] ++ List.replicate 6 0 ++ opc)

/-- The options of a SYN of 74 bytes: the echo of the time stamps, from byte 66 on, is zero. The hop
counter is written into it, and `nyapa` clears it. -/
theorem roundTrip_marcas :
    let pkt := synCon [2, 4, 5, 0xb4, 4, 2, 8, 10, 1, 2, 3, 4, 0, 0, 0, 0, 1, 3, 3, 7]
    pkt.buffer.length = 74 ∧
    ∃ p sec' f, encapsulatePathRequestTcp decodifica 1 0 pkt = some (p, sec') ∧
      (∀ j ≤ 3, (rastrea decodifica 34 p j).trailerMac = pkt.ethDst) ∧
      desencapsulatePathRequestTcp decodifica (rastrea decodifica 34 p 3)
        (rastrea decodifica 34 p 3).trailerOp = some f ∧
      f.buffer = pkt.buffer := by
  intro pkt
  have hsyn : pkt.EsSyn decodifica 14 34 :=
    ⟨Packet.valido_revalidate pkt _ _, rfl, rfl, rfl, rfl, rfl, by decide⟩
  obtain ⟨p, sec', f, he, hd, hiff⟩ := roundTrip_iff decodifica_ley hsyn 1 0 3
  have hint : Intacto 34 3 pkt.buffer := by
    refine ⟨fun x hx => ?_, fun _ _ => .inl (.inr ⟨rfl, by decide, by decide⟩)⟩
    obtain ⟨h86, _⟩ | ⟨_, h66, h70⟩ := hx
    · exact absurd h86 (by decide)
    · interval_cases x <;> rfl
  obtain ⟨hbuf, hmac⟩ := hiff.mpr ⟨hint, .inr (.inl (by decide))⟩
  exact ⟨rfl, p, sec', f, he, fun j hj => (hmac j hj).1, hd, hbuf⟩

/-- **SYNs that do not come back.** One of 66 bytes gets another destination; one of 78 bytes keeps
the counter in byte 67; one of 74 bytes without time stamps loses bytes 66 to 69. -/
theorem roundTrip_falla :
    (∃ p f, encapsulatePathRequestTcp decodifica 1 0 (synCon (List.replicate 12 1)) = some p ∧
      (rastrea decodifica 34 p.1 1).trailerMac ≠ (synCon (List.replicate 12 1)).ethDst ∧
      desencapsulatePathRequestTcp decodifica (rastrea decodifica 34 p.1 1)
        (rastrea decodifica 34 p.1 1).trailerOp = some f ∧
      f.buffer ≠ (synCon (List.replicate 12 1)).buffer) ∧
    (∃ p f, encapsulatePathRequestTcp decodifica 1 0 (synCon (List.replicate 24 1)) = some p ∧
      desencapsulatePathRequestTcp decodifica (rastrea decodifica 34 p.1 1)
        (rastrea decodifica 34 p.1 1).trailerOp = some f ∧
      f.buffer ≠ (synCon (List.replicate 24 1)).buffer) ∧
    ∃ p f, encapsulatePathRequestTcp decodifica 1 0 (synCon (List.replicate 20 1)) = some p ∧
      desencapsulatePathRequestTcp decodifica p.1 p.1.trailerOp = some f ∧
      f.buffer ≠ (synCon (List.replicate 20 1)).buffer := by
  refine ⟨⟨_, _, rfl, fun h => ?_, rfl, by decide⟩, ⟨_, _, rfl, rfl, by decide⟩,
    ⟨_, _, rfl, rfl, by decide⟩⟩
  exact absurd (congrFun h 0) (by decide)

end TcpPath
