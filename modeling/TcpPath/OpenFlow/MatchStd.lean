/-
  Subject:   match_std.c: `packet_match`, `match_std_strict`, `match_std_nonstrict` and
             `match_std_overlap`.

  A pointer into the value of a field is a memory that begins there. Every function of the file
  compares numbers of 1, 2, 4 or 8 bytes by bitwise operations, equality and zero, and is written
  here on their bytes. Numbers of 3, 6 and 16 bytes are compared as two. Each `switch` over the
  width of a field says the same of each byte, but for the masked case of `match_std_strict`.
-/
import TcpPath.OpenFlow.OxmMatch

namespace TcpPath.Udatapath

open Util Util.BigEndian

/-! ## 1. Numbers -/

/-- The bytes of a number, all of which pass a test. -/
def porBytes (n : Nat) (p : Nat → Bool) : Bool := (List.range n).all p

/-- Equality of two numbers of `n` bytes. -/
def matchN (n : Nat) (a b : Memoria) : Bool := porBytes n fun k => a k == b k

def match8 (a b : Memoria) : Bool := matchN 1 a b
def match16 (a b : Memoria) : Bool := matchN 2 a b
def match24 (a b : Memoria) : Bool := match16 a b && match8 (salta a 2) (salta b 2)
def match32 (a b : Memoria) : Bool := matchN 4 a b
def match48 (a b : Memoria) : Bool := match32 a b && match16 (salta a 4) (salta b 4)
def match64 (a b : Memoria) : Bool := matchN 8 a b
def match128 (a b : Memoria) : Bool := match64 a b && match64 (salta a 8) (salta b 8)

/-- `(mask & (a ^ b)) == 0`. -/
def matchMaskN (n : Nat) (a am b : Memoria) : Bool :=
  porBytes n fun k => am k &&& (a k ^^^ b k) == 0

def matchMask8 (a am b : Memoria) : Bool := matchMaskN 1 a am b
def matchMask16 (a am b : Memoria) : Bool := matchMaskN 2 a am b
def matchMask24 (a am b : Memoria) : Bool :=
  matchMask16 a am b && matchMask8 (salta a 2) (salta am 2) (salta b 2)
def matchMask32 (a am b : Memoria) : Bool := matchMaskN 4 a am b
def matchMask48 (a am b : Memoria) : Bool :=
  matchMask32 a am b && matchMask16 (salta a 4) (salta am 4) (salta b 4)
def matchMask64 (a am b : Memoria) : Bool := matchMaskN 8 a am b
def matchMask128 (a am b : Memoria) : Bool :=
  matchMask64 a am b && matchMask64 (salta a 8) (salta am 8) (salta b 8)

/-- `((am == bm) && ((a ^ b) & am)) == 0`: it is the conjunction that is compared with 0. -/
def strictMaskN (n : Nat) (a b am bm : Memoria) : Bool :=
  !(matchN n am bm && !porBytes n fun k => (a k ^^^ b k) &&& am k == 0)

def strictMask8 (a b am bm : Memoria) : Bool := strictMaskN 1 a b am bm
def strictMask16 (a b am bm : Memoria) : Bool := strictMaskN 2 a b am bm
def strictMask24 (a b am bm : Memoria) : Bool :=
  strictMask16 a b am bm && strictMask8 (salta a 2) (salta b 2) (salta am 2) (salta bm 2)
def strictMask32 (a b am bm : Memoria) : Bool := strictMaskN 4 a b am bm
def strictMaskIp (a b am bm : Memoria) : Bool := strictMaskN 4 a b am bm
def strictMask48 (a b am bm : Memoria) : Bool :=
  strictMask32 a b am bm && strictMask16 (salta a 4) (salta b 4) (salta am 4) (salta bm 4)
def strictMask64 (a b am bm : Memoria) : Bool := strictMaskN 8 a b am bm
def strictMask128 (a b am bm : Memoria) : Bool :=
  strictMask64 a b am bm && strictMask64 (salta a 8) (salta b 8) (salta am 8) (salta bm 8)

/-- `(~am & (~a | ~b | bm) & (a | b | bm)) == 0`. In numbers of 1 and 2 bytes, which are widened
    first, the last factor has no bit beyond them. -/
def nonstrictMaskN (n : Nat) (a b am bm : Memoria) : Bool :=
  porBytes n fun k =>
    ~~~am k &&& (~~~a k ||| ~~~b k ||| bm k) &&& (a k ||| b k ||| bm k) == 0

def nonstrictMask8 (a b am bm : Memoria) : Bool := nonstrictMaskN 1 a b am bm
def nonstrictMask16 (a b am bm : Memoria) : Bool := nonstrictMaskN 2 a b am bm
def nonstrictMask24 (a b am bm : Memoria) : Bool :=
  nonstrictMask16 a b am bm && nonstrictMask8 (salta a 2) (salta b 2) (salta am 2) (salta bm 2)
def nonstrictMask32 (a b am bm : Memoria) : Bool := nonstrictMaskN 4 a b am bm
def nonstrictMask48 (a b am bm : Memoria) : Bool :=
  nonstrictMask32 a b am bm && nonstrictMask16 (salta a 4) (salta b 4) (salta am 4) (salta bm 4)
def nonstrictMask64 (a b am bm : Memoria) : Bool := nonstrictMaskN 8 a b am bm
def nonstrictMask128 (a b am bm : Memoria) : Bool :=
  nonstrictMask64 a b am bm && nonstrictMask64 (salta a 8) (salta b 8) (salta am 8) (salta bm 8)

/-- `((am & a) ^ (bm & b)) != 0`. -/
def incompatibleN (n : Nat) (a b am bm : Memoria) : Bool :=
  !porBytes n fun k => (am k &&& a k) ^^^ (bm k &&& b k) == 0

def incompatible8 (a b am bm : Memoria) : Bool := incompatibleN 1 a b am bm
def incompatible16 (a b am bm : Memoria) : Bool := incompatibleN 2 a b am bm
def incompatible32 (a b am bm : Memoria) : Bool := incompatibleN 4 a b am bm
def incompatible48 (a b am bm : Memoria) : Bool :=
  incompatible32 a b am bm || incompatible16 (salta a 4) (salta b 4) (salta am 4) (salta bm 4)
def incompatible64 (a b am bm : Memoria) : Bool := incompatibleN 8 a b am bm
def incompatible128 (a b am bm : Memoria) : Bool :=
  incompatible64 a b am bm || incompatible64 (salta a 8) (salta b 8) (salta am 8) (salta bm 8)

/-! ## 2. The widths -/

/-- The `switch (field_len)` over values without a mask. -/
def matchAncho (fieldLen : Nat) (a b : Memoria) : Bool :=
  match fieldLen with
  | 1 => match8 a b
  | 2 => match16 a b
  | 3 => match24 a b
  | 4 => match32 a b
  | 6 => match48 a b
  | 8 => match64 a b
  | 16 => match128 a b
  | _ => true

/-- The masked cases of the `switch` of `packet_match`. -/
def matchMaskAncho (fieldLen : Nat) (a am b : Memoria) : Bool :=
  match fieldLen with
  | 1 => matchMask8 a am b
  | 2 => matchMask16 a am b
  | 3 => matchMask24 a am b
  | 4 => matchMask32 a am b
  | 6 => matchMask48 a am b
  | 8 => matchMask64 a am b
  | 16 => matchMask128 a am b
  | _ => true

/-- The masked cases of the `switch` of `match_std_strict`. -/
def strictMaskAncho (oxmField fieldLen : Nat) (a b am bm : Memoria) : Bool :=
  match fieldLen with
  | 1 => strictMask8 a b am bm
  | 2 => strictMask16 a b am bm
  | 3 => strictMask24 a b am bm
  | 4 =>
      -- IPV4_SRC, IPV4_DST, ARP_SPA and ARP_TPA are compared twice
      (if oxmField = 11 ∨ oxmField = 12 ∨ oxmField = 22 ∨ oxmField = 23 then
        strictMaskIp a b am bm else true) && strictMask32 a b am bm
  | 6 => strictMask48 a b am bm
  | 8 => strictMask64 a b am bm
  | 16 => strictMask128 a b am bm
  | _ => true

/-- The masked cases of the `switch` of `match_std_nonstrict`. -/
def nonstrictMaskAncho (fieldLen : Nat) (a b am bm : Memoria) : Bool :=
  match fieldLen with
  | 1 => nonstrictMask8 a b am bm
  | 2 => nonstrictMask16 a b am bm
  | 3 => nonstrictMask24 a b am bm
  | 4 => nonstrictMask32 a b am bm
  | 6 => nonstrictMask48 a b am bm
  | 8 => nonstrictMask64 a b am bm
  | 16 => nonstrictMask128 a b am bm
  | _ => true

/-- The `switch` of `match_std_overlap`. It has no case for 3 bytes. -/
def incompatibleAncho (fieldLen : Nat) (a b am bm : Memoria) : Bool :=
  match fieldLen with
  | 1 => incompatible8 a b am bm
  | 2 => incompatible16 a b am bm
  | 4 => incompatible32 a b am bm
  | 6 => incompatible48 a b am bm
  | 8 => incompatible64 a b am bm
  | 16 => incompatible128 a b am bm
  | _ => false

/-! ## 3. Matches -/

/-- `oxm_match_lookup`. -/
def oxmMatchLookup (header : UInt32) (m : OxmMatch) : Option MatchTlv :=
  (conHash header m.fields).find? (·.header == header)

theorem oxmMatchLookup_eq (header : UInt32) (m : OxmMatch) :
    oxmMatchLookup header m = m.fields.find? (·.header == header) := by
  rw [oxmMatchLookup, conHash_eq, List.find?_filter]
  refine congrArg (m.fields.find? ·) (funext fun t => ?_)
  cases t.header == header <;> simp

/-- The value of a field, where it is in memory. -/
def MatchTlv.mem (t : MatchTlv) : Memoria := byteAt t.value

/-- The header of a field without a mask: the bit of the mask is cleared and the length halved. -/
def headerExacto (header : UInt32) : UInt32 :=
  if oxmHasmask header then (header &&& 0xfffffe00) ||| .ofNat (oxmLength header.toNat / 2)
  else header

/-- The header of a field with a mask. -/
def headerConMascara (header : UInt32) : UInt32 :=
  if oxmHasmask header then header
  else (header &&& 0xfffffe00) ||| 0x100 ||| .ofNat (oxmLength header.toNat <<< 1)

/-- The case of `OXM_OF_VLAN_VID` in `packet_match`. -/
def vlanPasa (host : Host) (hasMask : Bool) (flowVal flowMask packetVal : Memoria) : Bool :=
  let flowVlanId := read (host.ntoh (lee flowVal 2))
  if flowVlanId = 0 then false
  else if flowVlanId = 0x1000 then true
  else
    let id := byteAt (host.ntoh (write 2 (flowVlanId &&& 0x0fff)))
    if hasMask then matchMask16 id flowMask packetVal else match16 id packetVal

/-- The case of `OXM_OF_IPV6_EXTHDR`. -/
def exthdrPasa (flowVal packetVal : Memoria) : Bool :=
  porBytes 2 fun k => flowVal k &&& packetVal k == flowVal k

/-- What `packet_match` does with a field that the packet has. -/
def comparaPaquete (host : Host) (f packetF : MatchTlv) : Bool :=
  let hasMask := oxmHasmask f.header
  let fieldLen := anchoOxm f.header
  let flowMask := salta f.mem fieldLen
  if headerExacto f.header = OxmFieldIndex.vlanVid.header then
    vlanPasa host hasMask f.mem flowMask packetF.mem
  else if headerExacto f.header = OxmFieldIndex.ipv6Exthdr.header then
    exthdrPasa f.mem packetF.mem
  else if hasMask then matchMaskAncho fieldLen f.mem flowMask packetF.mem
  else matchAncho fieldLen f.mem packetF.mem

/-- `packet_match`. -/
def packetMatch (host : Host) (flowMatch packet : OxmMatch) : Bool :=
  if flowMatch.length = 0 then true
  else
    flowMatch.fields.all fun f =>
      match oxmMatchLookup (headerExacto f.header) packet with
      | none =>
          -- no VLAN tag, as OFPVID_NONE requires
          f.header == OxmFieldIndex.vlanVid.header && lee f.mem 2 == [0, 0]
      | some packetF => comparaPaquete host f packetF

/-- What `match_std_strict` does with a field that both matches have. -/
def comparaEstricto (f g : MatchTlv) : Bool :=
  let fieldLen := anchoOxm f.header
  if oxmHasmask f.header then
    strictMaskAncho (oxmField f.header.toNat) fieldLen f.mem g.mem (salta f.mem fieldLen)
      (salta g.mem fieldLen)
  else matchAncho fieldLen f.mem g.mem

/-- `match_std_strict`. -/
def matchStdStrict (a b : OxmMatch) : Bool :=
  if a.length = 0 ∧ b.length = 0 then true
  else if a.length ≠ b.length then false
  else
    a.fields.all fun f =>
      match oxmMatchLookup f.header b with
      | none => false
      | some g => comparaEstricto f g

/-- What `match_std_nonstrict` does with a field that both matches have. -/
def comparaNoEstricto (f g : MatchTlv) : Bool :=
  let fieldLen := anchoOxm f.header
  if oxmHasmask f.header then
    nonstrictMaskAncho fieldLen f.mem g.mem (salta f.mem fieldLen) (salta g.mem fieldLen)
  else matchAncho fieldLen f.mem g.mem

/-- `match_std_nonstrict`. -/
def matchStdNonstrict (a b : OxmMatch) : Bool :=
  if a.length = 0 then true
  else
    a.fields.all fun f =>
      match oxmMatchLookup f.header b with
      | none => false
      | some g => comparaNoEstricto f g

/-- `all_mask`. -/
def allMask : Memoria := fun _ => 0xff

/-- The mask of a field whose value has `fieldLen` bytes, `all_mask` without one. -/
def mascara (fieldLen : Nat) (t : MatchTlv) : Memoria :=
  if oxmHasmask t.header then salta t.mem fieldLen else allMask

/-- The field of `b` that `match_std_overlap` compares with one of the given header: without a mask
    if there is one, otherwise with a mask. -/
def buscaAmbos (header : UInt32) (b : OxmMatch) : Option MatchTlv :=
  (oxmMatchLookup (headerExacto header) b).or (oxmMatchLookup (headerConMascara header) b)

/-- `match_std_overlap`. -/
def matchStdOverlap (a b : OxmMatch) : Bool :=
  a.fields.all fun fa =>
    match buscaAmbos fa.header b with
    | none => true
    | some fb =>
        let fieldLen := anchoOxm fa.header
        !incompatibleAncho fieldLen fa.mem fb.mem (mascara fieldLen fa) (mascara fieldLen fb)

/-! ## 4. Byte by byte -/

section Bytes

variable {n : Nat} {a b am bm : Memoria}

@[simp] theorem porBytes_iff {p : Nat → Bool} : porBytes n p = true ↔ ∀ k < n, p k = true := by
  simp [porBytes]

theorem porBytes_add (n m : Nat) (p : Nat → Bool) :
    (porBytes n p && porBytes m fun k => p (n + k)) = porBytes (n + m) p := by
  rw [porBytes, porBytes, porBytes, List.range_add, List.all_append, List.all_map]
  rfl

theorem anchosOxm_cases {P : Nat → Prop} (h : n ∈ anchosOxm) (h1 : P 1) (h2 : P 2) (h3 : P 3)
    (h4 : P 4) (h6 : P 6) (h8 : P 8) (h16 : P 16) : P n := by
  simp only [anchosOxm, List.mem_cons, List.not_mem_nil, or_false] at h
  rcases h with rfl | rfl | rfl | rfl | rfl | rfl | rfl <;> assumption

theorem matchAncho_iff (hn : n ∈ anchosOxm) : matchAncho n a b = true ↔ ∀ k < n, a k = b k := by
  have heq : matchAncho n a b = matchN n a b :=
    anchosOxm_cases (P := fun n => matchAncho n a b = matchN n a b) hn rfl rfl
      (porBytes_add 2 1 fun k => a k == b k) rfl (porBytes_add 4 2 fun k => a k == b k) rfl
      (porBytes_add 8 8 fun k => a k == b k)
  rw [heq]
  simp [matchN]

theorem matchMaskAncho_iff (hn : n ∈ anchosOxm) :
    matchMaskAncho n a am b = true ↔ ∀ k < n, am k &&& (a k ^^^ b k) = 0 := by
  have heq : matchMaskAncho n a am b = matchMaskN n a am b :=
    anchosOxm_cases (P := fun n => matchMaskAncho n a am b = matchMaskN n a am b) hn rfl rfl
      (porBytes_add 2 1 fun k => am k &&& (a k ^^^ b k) == 0) rfl
      (porBytes_add 4 2 fun k => am k &&& (a k ^^^ b k) == 0) rfl
      (porBytes_add 8 8 fun k => am k &&& (a k ^^^ b k) == 0)
  rw [heq]
  simp [matchMaskN]

theorem nonstrictMaskAncho_iff (hn : n ∈ anchosOxm) :
    nonstrictMaskAncho n a b am bm = true ↔ ∀ k < n,
      ~~~am k &&& (~~~a k ||| ~~~b k ||| bm k) &&& (a k ||| b k ||| bm k) = 0 := by
  let p : Nat → Bool := fun k =>
    ~~~am k &&& (~~~a k ||| ~~~b k ||| bm k) &&& (a k ||| b k ||| bm k) == 0
  have heq : nonstrictMaskAncho n a b am bm = porBytes n p :=
    anchosOxm_cases (P := fun n => nonstrictMaskAncho n a b am bm = porBytes n p) hn rfl rfl
      (porBytes_add 2 1 p) rfl (porBytes_add 4 2 p) rfl (porBytes_add 8 8 p)
  rw [heq]
  simp [p]

theorem incompatibleAncho_iff (hn : n ∈ anchosOxm) : incompatibleAncho n a b am bm = false ↔
    n = 3 ∨ ∀ k < n, am k &&& a k = bm k &&& b k := by
  let p : Nat → Bool := fun k => (am k &&& a k) ^^^ (bm k &&& b k) == 0
  have heq : incompatibleAncho n a b am bm = !(decide (n = 3) || porBytes n p) := by
    refine anchosOxm_cases (P := fun n => incompatibleAncho n a b am bm =
      !(decide (n = 3) || porBytes n p)) hn rfl rfl rfl rfl ?_ rfl ?_
    · exact (Bool.not_and _ _).symm.trans (congrArg _ (porBytes_add 4 2 p))
    · exact (Bool.not_and _ _).symm.trans (congrArg _ (porBytes_add 8 8 p))
  rw [heq, Bool.not_eq_false', Bool.or_eq_true, decide_eq_true_eq, porBytes_iff]
  simp [p]

/-- The numbers that a value of `n` bytes is compared as, by offset and width. -/
def palabras : Nat → List (Nat × Nat)
  | 3 => [(0, 2), (2, 1)]
  | 6 => [(0, 4), (4, 2)]
  | 16 => [(0, 8), (8, 8)]
  | n => [(0, n)]

theorem palabras_iff (hn : n ∈ anchosOxm) {P : Nat → Prop} :
    (∀ w ∈ palabras n, ∀ k < w.2, P (w.1 + k)) ↔ ∀ k < n, P k := by
  have hdos : ∀ p q, ((∀ k < p, P k) ∧ ∀ k < q, P (p + k)) ↔ ∀ k < p + q, P k := by
    intro p q
    refine ⟨fun h k hk => ?_, fun h => ⟨fun k hk => h k (by omega), fun k hk => h _ (by omega)⟩⟩
    by_cases hp : k < p
    · exact h.1 k hp
    · have hk' := h.2 (k - p) (by omega)
      rwa [Nat.add_sub_cancel' (Nat.le_of_not_lt hp)] at hk'
  have huna : ∀ n, (∀ w ∈ [(0, n)], ∀ k < w.2, P (w.1 + k)) ↔ ∀ k < n, P k := by simp
  have hdos' : ∀ p q, (∀ w ∈ [(0, p), (p, q)], ∀ k < w.2, P (w.1 + k)) ↔ ∀ k < p + q, P k := by
    intro p q
    rw [← hdos]
    simp
  exact anchosOxm_cases (P := fun n => (∀ w ∈ palabras n, ∀ k < w.2, P (w.1 + k)) ↔ ∀ k < n, P k)
    hn (huna 1) (huna 2) (hdos' 2 1) (huna 4) (hdos' 4 2) (huna 8) (hdos' 8 8)

/-- **What the masked case of `match_std_strict` says**: where the masks of a number are equal, the
    values agree under them. -/
theorem strictMaskAncho_iff (hn : n ∈ anchosOxm) {field : Nat} :
    strictMaskAncho field n a b am bm = true ↔ ∀ w ∈ palabras n,
      (∀ k < w.2, am (w.1 + k) = bm (w.1 + k)) →
        ∀ k < w.2, (a (w.1 + k) ^^^ b (w.1 + k)) &&& am (w.1 + k) = 0 := by
  let pasa (w : Nat × Nat) : Prop := (∀ k < w.2, am (w.1 + k) = bm (w.1 + k)) →
    ∀ k < w.2, (a (w.1 + k) ^^^ b (w.1 + k)) &&& am (w.1 + k) = 0
  have hpasa : ∀ d n, strictMaskN n (salta a d) (salta b d) (salta am d) (salta bm d) = true ↔
      pasa (d, n) := by
    intro d n
    rw [strictMaskN, Bool.not_eq_true', Bool.and_eq_false_imp, Bool.not_eq_false']
    simp [matchN, salta, pasa]
  have hcero : ∀ mem : Memoria, salta mem 0 = mem :=
    fun mem => funext fun k => congrArg mem (Nat.zero_add k)
  have huna : ∀ n, strictMaskN n a b am bm = true ↔ ∀ w ∈ [(0, n)], pasa w := by
    intro n
    have h0 := hpasa 0 n
    rw [hcero, hcero, hcero, hcero] at h0
    rw [h0, List.forall_mem_singleton]
  have hdos : ∀ p q, (strictMaskN p a b am bm &&
      strictMaskN q (salta a p) (salta b p) (salta am p) (salta bm p)) = true ↔
        ∀ w ∈ [(0, p), (p, q)], pasa w := by
    intro p q
    rw [Bool.and_eq_true, huna, hpasa]
    simp
  refine anchosOxm_cases (P := fun n => strictMaskAncho field n a b am bm = true ↔
    ∀ w ∈ palabras n, pasa w) hn (huna 1) (huna 2) (hdos 2 1) ?_ (hdos 4 2) (huna 8) (hdos 8 8)
  -- the second comparison of IPv4 addresses is the first one
  refine Iff.trans ?_ (huna 4)
  simp only [strictMaskAncho, strictMaskIp, strictMask32]
  split
  · rw [Bool.and_self]
  · rw [Bool.true_and]

end Bytes

end TcpPath.Udatapath
