/-
  Subject:   What `oxm_pull_match` reads is what the bytes say, and what `oxm_put_match` writes of
             it, in whatever order the hash map has its fields, is read again.

  * Each field has a width, a mask or none, and a byte order in memory; with these, the `switch` of
    `parse_oxm_entry` is one function (`parse_spec`), but for three fields.
  * The fields that others need are written first (`Util.front`), so that each entry can be read
    where it is written (`Leido.legible`).

  Results:   `oxm_match_round_trip`: the bytes read are kept field by field and come back, in every
             order of the hash map, exactly if they are `Regular`: no IN_PHY_PORT, no field twice,
             no priority beside VLAN 0, no masked I-SID whose mask starts with a bit.
-/
import TcpPath.OpenFlow.OxmMatch
import TcpPath.Util.Grouping

namespace TcpPath.Udatapath

open Util Util.BigEndian List OxmFieldIndex

/-! ## 1. The shape of a field -/

namespace OxmFieldIndex

/-- The bytes of a value. -/
def ancho : OxmFieldIndex → Nat
  | vlanPcp | mplsTc | mplsBos | ipDscp | ipEcn | ipProto | icmpv4Type | icmpv4Code | icmpv6Type
  | icmpv6Code => 1
  | ethType | vlanVid | vlanVidW | ipv6Exthdr | ipv6ExthdrW | tcpSrc | tcpDst | udpSrc | udpDst
  | sctpSrc | sctpDst | arpOp => 2
  | pbbIsid | pbbIsidW => 3
  | inPort | inPhyPort | mplsLabel | ipv4Src | ipv4SrcW | ipv4Dst | ipv4DstW | ipv6Flabel
  | ipv6FlabelW | arpSpa | arpSpaW | arpTpa | arpTpaW => 4
  | ethDst | ethDstW | ethSrc | ethSrcW | arpSha | arpShaW | arpTha | arpThaW | ipv6NdSll
  | ipv6NdTll => 6
  | metadata | metadataW | tunnelId | tunnelIdW => 8
  | ipv6Src | ipv6SrcW | ipv6Dst | ipv6DstW | ipv6NdTarget => 16

/-- Whether a mask follows. -/
def conMascara : OxmFieldIndex → Bool
  | metadataW | ethDstW | ethSrcW | vlanVidW | pbbIsidW | ipv4SrcW | ipv4DstW | ipv6SrcW | ipv6DstW
  | ipv6FlabelW | ipv6ExthdrW | arpSpaW | arpTpaW | arpShaW | arpThaW | tunnelIdW => true
  | _ => false

/-- The bytes of a value and its mask. -/
def largo (i : OxmFieldIndex) : Nat := if i.conMascara then 2 * i.ancho else i.ancho

/-- Whether its numbers are kept in the byte order of the machine. -/
def girado (i : OxmFieldIndex) : Bool :=
  match i with
  | ipv4Src | ipv4SrcW | ipv4Dst | ipv4DstW | arpSpa | arpSpaW | arpTpa | arpTpaW => false
  | _ => i.ancho == 2 || i.ancho == 4 || i.ancho == 8

theorem ancho_le (i : OxmFieldIndex) : i.ancho ≤ i.largo := by
  unfold largo
  split <;> omega

theorem mem_todos (i : OxmFieldIndex) : i ∈ todos := by cases i <;> decide

theorem tabla : ∀ i ∈ todos, oxmLength i.header.toNat = i.largo ∧
    oxmHasmask i.header = i.conMascara ∧ anchoOxm i.header = i.ancho ∧
    decide (i.header ∈ sinHtonl) = (i.ancho == 4 && !i.girado) := by
  decide

@[simp] theorem oxmLength_header (i : OxmFieldIndex) : oxmLength i.header.toNat = i.largo :=
  (tabla i i.mem_todos).1

@[simp] theorem oxmHasmask_header (i : OxmFieldIndex) : oxmHasmask i.header = i.conMascara :=
  (tabla i i.mem_todos).2.1

@[simp] theorem anchoOxm_header (i : OxmFieldIndex) : anchoOxm i.header = i.ancho :=
  (tabla i i.mem_todos).2.2.1

/-- Between a value or mask in memory and on the wire. -/
def gira (i : OxmFieldIndex) (host : Host) (b : Bytes) : Bytes :=
  if i.girado then host.ntoh b else b

theorem enRed_header (host : Host) (i : OxmFieldIndex) (b : Bytes) :
    enRed host i.header i.ancho b = i.gira host b := by
  have h4 := (tabla i i.mem_todos).2.2.2
  unfold enRed gira
  cases i <;> simp_all [ancho, girado]

end OxmFieldIndex

/-! ## 2. One field -/

/-- An entry as it is kept: value and mask, numbers in the byte order of the machine. -/
def guarda (host : Host) (e : UInt32 × Bytes) : MatchTlv :=
  ⟨e.1, enRed host e.1 (anchoOxm e.1) (e.2.take (anchoOxm e.1)) ++
    enRed host e.1 (anchoOxm e.1) (e.2.drop (anchoOxm e.1))⟩

theorem guarda_header (host : Host) (i : OxmFieldIndex) (b : Bytes) :
    (guarda host (i.header, b)).value =
      i.gira host (b.take i.ancho) ++ i.gira host (b.drop i.ancho) := by
  simp only [guarda, anchoOxm_header, enRed_header]

/-- A VLAN other than `OFPVID_NONE` is matched. -/
def VlanPuesta (host : Host) (fields : List MatchTlv) : Prop :=
  todosCon fields OxmFieldIndex.vlanVid.header (fun v => read (host.ntoh (v.take 2)) != 0) = true

theorem getOxmValue_of_todosCon {fields : List MatchTlv} {header : UInt32} {p : Bytes → Bool}
    (h : todosCon fields header p = true) :
    ∃ v, getOxmValue fields header = some v ∧ p v = true := by
  unfold todosCon checkPresentPrereq at h
  unfold getOxmValue
  cases hl : conHash header fields with
  | nil =>
    rw [hl] at h
    cases h
  | cons t l =>
    rw [hl] at h
    exact ⟨t.value, rfl, (Bool.and_eq_true_iff.mp (Bool.and_eq_true_iff.mp h).1).1⟩

variable {n : Nat} {i : OxmFieldIndex} {value : Memoria} {host : Host} {puntero : Bytes}
  {m m' : OxmMatch} {es : List (UInt32 × Bytes)} {p : Memoria} {l : List MatchTlv}

theorem take_lee (mem : Memoria) {k : Nat} (h : k ≤ n) : (lee mem n).take k = lee mem k := by
  rw [lee, ← map_take, take_range, Nat.min_eq_left h, lee]

theorem drop_lee (mem : Memoria) (k n : Nat) : (lee mem (k + n)).drop k = lee (salta mem k) n := by
  rw [lee, range_add, map_append, drop_left' (by simp), map_map]
  rfl

theorem ite_error_eq_ok {α : Type} {c : Prop} [Decidable c] {e : OflErr} {x : Except OflErr α}
    {y : α} : (if c then .error e else x) = .ok y ↔ ¬c ∧ x = .ok y := by
  split <;> simp_all

/-- The bytes `b` of a field are accepted wherever they stand, whatever the match holds, and kept
    with what may lie behind them. -/
def Admite (host : Host) (i : OxmFieldIndex) (b : Bytes) : Prop :=
  ∀ puntero m value, lee value i.largo = b → (i = .vlanPcp → VlanPuesta host m.fields) →
    ∃ resto, parseOxmEntry host puntero m i.field value (salta value (i.largo / 2)) =
      .ok (m.put i.header ((guarda host (i.header, b)).value ++ resto))

theorem checkBadWildcard_ntoh (host : Host) {v k : Bytes} (h : v.length = k.length) :
    checkBadWildcard (host.ntoh v) (host.ntoh k) = checkBadWildcard v k := by
  cases host with
  | big => rfl
  | little =>
    rw [Bool.eq_iff_iff, checkBadWildcard, checkBadWildcard, bne_iff_ne, bne_iff_ne]
    simp only [Host.ntoh, ← reverse_zipWith h, ne_eq, reverse_inj]

theorem checkBadWildcard_partes (n : Nat) (v k : Bytes) :
    (checkBadWildcard (v.take n) (k.take n) || checkBadWildcard (v.drop n) (k.drop n)) =
      checkBadWildcard v k := by
  have hiff : List.zipWith (· &&& ·) v k = v ↔
      List.zipWith (· &&& ·) (v.take n) (k.take n) = v.take n ∧
        List.zipWith (· &&& ·) (v.drop n) (k.drop n) = v.drop n := by
    rw [← take_zipWith, ← drop_zipWith]
    refine ⟨fun h => by rw [h]; exact ⟨rfl, rfl⟩, fun h => ?_⟩
    rw [← take_append_drop n (List.zipWith _ v k), h.1, h.2, take_append_drop]
  rw [Bool.eq_iff_iff, Bool.or_eq_true]
  simp only [checkBadWildcard, bne_iff_ne, ne_eq, hiff, not_and_or]

/-- **What the `switch` does with a field**, but for three of them: a test that lets no bit of the
value pass that the mask leaves out, and what is kept. `OXM_OF_IPV6_EXTHDR_W` is not tested. -/
theorem parse_spec (host : Host) (hphy : i ≠ .inPhyPort) (hpcp : i ≠ .vlanPcp)
    (hisid : i ≠ .pbbIsidW) :
    ∃ malo : Bytes → Bytes → Option OflErr,
      (∀ v k, i.conMascara = true → i ≠ .ipv6ExthdrW → v.length = k.length → malo v k = none →
        checkBadWildcard v k = false) ∧
      ∀ puntero m value mask, parseOxmEntry host puntero m i.field value mask =
        (malo (lee value i.ancho) (if i.conMascara then lee mask i.ancho else [])).elim
          (.ok (m.put i.header (if i.conMascara then
              i.gira host (lee value i.ancho) ++ i.gira host (lee mask i.ancho)
            else i.gira host (lee value i.ancho)))) .error := by
  have hite : ∀ {c : Prop} [Decidable c] {e : OflErr} {x : OxmMatch},
      (if c then Except.error e else .ok x) = (if c then some e else none).elim (.ok x) .error := by
    intro c _ e x
    split <;> rfl
  have hdos : ∀ {c d : Prop} [Decidable c] [Decidable d] {e e' : OflErr} {x : OxmMatch},
      (if c then Except.error e else if d then .error e' else .ok x) =
        (if c then some e else if d then some e' else none).elim (.ok x) .error := by
    intro c d _ _ e e' x
    split
    · rfl
    · exact hite
  -- a test that was passed
  have hpasa : ∀ {c : Bool} {e : OflErr} {o : Option OflErr},
      (if c = true then some e else o) = none → c = false := by
    intro c e o h
    cases c
    · rfl
    · cases h
  cases i
  case inPhyPort => exact absurd rfl hphy
  case vlanPcp => exact absurd rfl hpcp
  case pbbIsidW => exact absurd rfl hisid
  case ipv6ExthdrW => exact ⟨fun _ _ => none, fun _ _ _ h => absurd rfl h, fun _ _ _ _ => rfl⟩
  case vlanVid =>
    exact ⟨fun v _ => if 0x1000 + 4095 < read v then some (badMatch 7) else none,
      fun _ _ h => (by cases h), fun _ _ _ _ => hite⟩
  case vlanVidW =>
    exact ⟨fun v k => if checkBadWildcard (host.ntoh v) (host.ntoh k) then some (badMatch 5)
      else if 0x1000 + 4095 < read v then some (badMatch 7) else none,
      fun v k _ _ hl h => checkBadWildcard_ntoh host hl ▸ hpasa h, fun _ _ _ _ => hdos⟩
  case ipDscp =>
    exact ⟨fun v _ => if v.headD 0 &&& 0xc0 ≠ 0 then some (badMatch 7) else none,
      fun _ _ h => (by cases h), fun _ _ _ _ => hite⟩
  case metadataW =>
    exact ⟨fun v k => if checkBadWildcard (host.ntoh v) (host.ntoh k) then some (badMatch 5)
      else none, fun v k _ _ hl h => checkBadWildcard_ntoh host hl ▸ hpasa h,
      fun _ _ _ _ => hite⟩
  case tunnelIdW | ipv6FlabelW | ipv4SrcW | ipv4DstW | arpSpaW | arpTpaW =>
    exact ⟨fun v k => if checkBadWildcard v k then some (badMatch 5) else none,
      fun _ _ _ _ _ h => hpasa h, fun _ _ _ _ => hite⟩
  case ethDstW | ethSrcW | arpShaW | arpThaW =>
    exact ⟨fun v k => if checkBadWildcard48 v k then some (badMatch 5) else none,
      fun v k _ _ _ h => checkBadWildcard_partes 2 v k ▸ hpasa h, fun _ _ _ _ => hite⟩
  case ipv6SrcW | ipv6DstW =>
    exact ⟨fun v k => if checkBadWildcard128 v k then some (badMatch 5) else none,
      fun v k _ _ _ h => checkBadWildcard_partes 8 v k ▸ hpasa h, fun _ _ _ _ => hite⟩
  all_goals
    exact ⟨fun _ _ => none, fun _ _ h => (by cases h), fun _ _ _ _ => rfl⟩

theorem gira_nil (i : OxmFieldIndex) (host : Host) : i.gira host [] = [] := by
  unfold gira
  cases host <;> split <;> rfl

theorem guarda_lee (host : Host) (i : OxmFieldIndex) (value : Memoria) :
    (guarda host (i.header, lee value i.largo)).value =
      if i.conMascara then
        i.gira host (lee value i.ancho) ++ i.gira host (lee (salta value (i.largo / 2)) i.ancho)
      else i.gira host (lee value i.ancho) := by
  rw [guarda_header, take_lee value i.ancho_le]
  unfold largo
  split
  · rw [Nat.mul_div_cancel_left _ (by decide), Nat.two_mul, drop_lee]
  · have hnil : (lee value i.ancho).drop i.ancho = [] := drop_eq_nil_of_le (by simp [lee])
    rw [hnil, gira_nil, append_nil]

theorem lee_partes {value' : Memoria} (h : lee value i.largo = lee value' i.largo) :
    lee value i.ancho = lee value' i.ancho ∧
      (if i.conMascara then lee (salta value (i.largo / 2)) i.ancho else []) =
        if i.conMascara then lee (salta value' (i.largo / 2)) i.ancho else [] := by
  refine ⟨by rw [← take_lee value i.ancho_le, h, take_lee value' i.ancho_le], ?_⟩
  split
  · rename_i hm
    have hl : i.largo = i.ancho + i.ancho := by simp [largo, hm, Nat.two_mul]
    have hdiv : i.largo / 2 = i.ancho := by omega
    rw [hdiv, ← drop_lee value i.ancho i.ancho, ← hl, h, hl, drop_lee]
  · rfl

theorem checkBadWildcard_isid (value : Memoria) (h : value 3 = 0) :
    checkBadWildcard (lee value 4) (lee (salta value 3) 4) =
      checkBadWildcard (lee value 3) (lee (salta value 3) 3) := by
  have h4 : ∀ mem : Memoria, lee mem 4 = lee mem 3 ++ [mem 3] := fun mem => by
    simp [lee, range_succ]
  have h0 : (0 : UInt8) &&& salta value 3 3 = 0 := UInt8.zero_and
  rw [h4, h4, h, checkBadWildcard, zipWith_append (by simp [lee])]
  rw [Bool.eq_iff_iff, checkBadWildcard, bne_iff_ne, bne_iff_ne]
  simp [h0]

theorem admite_of_parse
    (h : parseOxmEntry host puntero m i.field value (salta value (i.largo / 2)) = .ok m')
    (hphy : i ≠ .inPhyPort) (hisid : i = .pbbIsidW → value 3 = 0) :
    Admite host i (lee value i.largo) := by
  intro puntero' n value' hb hpcp
  by_cases hi : i = .vlanPcp
  · subst hi
    obtain ⟨v, hv, hne⟩ := getOxmValue_of_todosCon (hpcp rfl)
    have hne : read (host.ntoh (v.take 2)) ≠ 0 := bne_iff_ne.mp hne
    refine ⟨[], ?_⟩
    rw [← hb, guarda_lee, append_nil]
    simp only [parseOxmEntry, field, hv, if_pos hne]
    rfl
  by_cases hi' : i = .pbbIsidW
  · subst hi'
    obtain ⟨hv, hm⟩ := lee_partes hb
    have h3 : value' 3 = value 3 := congrArg (fun b => b.getD 3 0) hb
    have h0 := hisid rfl
    refine ⟨puntero'.take 6, ?_⟩
    have hno : ¬checkBadWildcard (lee value 4) (lee (salta value 3) 4) = true :=
      (ite_error_eq_ok.mp h).1
    rw [checkBadWildcard_isid value h0] at hno
    have hno' : ¬checkBadWildcard (lee value' 4) (lee (salta value' 3) 4) = true := by
      rw [checkBadWildcard_isid value' (h3.trans h0)]
      exact (congrArg₂ checkBadWildcard hv hm).symm ▸ hno
    rw [← hb, guarda_lee]
    exact if_neg hno'
  obtain ⟨malo, _, hmalo⟩ := parse_spec host hphy hi hi'
  obtain ⟨hv, hm⟩ := lee_partes hb
  refine ⟨[], ?_⟩
  rw [← hb, append_nil, guarda_lee]
  rw [hmalo] at h ⊢
  rw [hv, hm]
  cases hx : malo (lee value i.ancho) _ with
  | some e =>
    rw [hx] at h
    cases h
  | none => rfl

/-! ## 3. What fields need -/

/-- A field of a match without what may lie behind its value and mask. -/
def recorta (t : MatchTlv) : MatchTlv := ⟨t.header, t.value.take (oxmLength t.header.toNat)⟩

/-- The headers that `oxm_prereqs_ok` looks for. -/
def OxmField.mira (f : OxmField) : List UInt32 :=
  (if f.header = OxmFieldIndex.ipv6NdSll.header ∨ f.header = OxmFieldIndex.ipv6NdTarget.header ∨
      f.header = OxmFieldIndex.ipv6NdTll.header then [OxmFieldIndex.icmpv6Type.header] else []) ++
  (if f.nwProto ≠ 0 then [OxmFieldIndex.ipProto.header] else []) ++
  (if f.dlType.1 ≠ 0 then [OxmFieldIndex.ethType.header] else [])

section Prereqs

variable {host : Host} {A B : List MatchTlv} {header : UInt32} {p : Bytes → Bool}

theorem checkPresentPrereq_iff :
    checkPresentPrereq A header = true ↔ ∃ t ∈ A, t.header = header := by
  simp [checkPresentPrereq]

theorem todosCon_iff :
    todosCon A header p = true ↔
      (∀ t ∈ A, t.header = header → p t.value = true) ∧ ∃ t ∈ A, t.header = header := by
  rw [todosCon, Bool.and_eq_true, checkPresentPrereq_iff, conHash_eq, all_eq_true]
  simp only [mem_filter, beq_iff_eq, and_imp]

theorem todosCon_mono (hB : (B.map (·.header)).Nodup) (hsub : ∀ t ∈ A, t.header = header → t ∈ B)
    (h : todosCon A header p = true) : todosCon B header p = true := by
  obtain ⟨hall, t, ht, hh⟩ := todosCon_iff.mp h
  refine todosCon_iff.mpr ⟨fun t' ht' hh' => ?_, t, hsub t ht hh, hh⟩
  obtain rfl := inj_on_of_nodup_map hB ht' (hsub t ht hh) (hh'.trans hh.symm)
  exact hall t' ht hh

/-- **What a field needs stays**, as long as the fields it looks for do. -/
theorem oxmPrereqsOk_mono {f : OxmField} (hB : (B.map (·.header)).Nodup)
    (hsub : ∀ t ∈ A, t.header ∈ f.mira → t ∈ B) (h : oxmPrereqsOk host f A = true) :
    oxmPrereqsOk host f B = true := by
  have htest : ∀ {c : Prop} [Decidable c] {header : UInt32} {p : Bytes → Bool},
      (c → header ∈ f.mira) → (if c then todosCon A header p else true) = true →
      (if c then todosCon B header p else true) = true := by
    intro c _ header p hmira h
    split at h
    · rename_i hc
      rw [if_pos hc]
      exact todosCon_mono hB (fun t ht hh => hsub t ht (hh ▸ hmira hc)) h
    · rename_i hc
      rw [if_neg hc]
  simp only [oxmPrereqsOk, Bool.and_eq_true] at h ⊢
  obtain ⟨⟨⟨h1, h2⟩, h3⟩, h4⟩ := h
  refine ⟨⟨⟨htest (fun hc => ?_) h1, htest (fun hc => ?_) h2⟩, htest (fun hc => ?_) h3⟩, ?_⟩
  · simp only [Bool.or_eq_true, beq_iff_eq] at hc
    simp [OxmField.mira, hc.imp_right Or.inl]
  · simp only [Bool.or_eq_true, beq_iff_eq] at hc
    simp [OxmField.mira, hc.1.elim (fun h => Or.inr (Or.inr h)) fun h => Or.inr (Or.inl h)]
  · simp [OxmField.mira, hc]
  · by_cases hdl : f.dlType.1 = 0
    · simp [hdl]
    · simp only [beq_eq_false_iff_ne.mpr hdl, Bool.false_or, conHash_eq, any_eq_true,
        mem_filter, beq_iff_eq] at h4 ⊢
      obtain ⟨t, ⟨ht, hh⟩, hdl'⟩ := h4
      exact ⟨t, ⟨hsub t ht (by simp [OxmField.mira, hdl, hh]), hh⟩, hdl'⟩

end Prereqs

/-! ## 4. Reading -/

/-- The entries of `n` bytes of a memory, up to one that is not there as a whole. -/
def tlvs (p : Memoria) (n : Nat) : List (UInt32 × Bytes) :=
  let header := oxmEntryOk p n
  if _h : header = 0 then []
  else
    let length := oxmLength header.toNat
    (header, lee (salta p 4) length) :: tlvs (salta p (4 + length)) (n - (4 + length))
termination_by n
decreasing_by
  obtain ⟨heq, _, hle⟩ := oxmEntryOk_spec _h
  rw [← heq] at hle
  omega

/-- **What the code has to be spared**: `OXM_OF_IN_PHY_PORT`, a VLAN priority with VLAN 0, a masked
    I-SID unless the first byte of its mask is 0, and a field with and without a mask. -/
structure Regular (es : List (UInt32 × Bytes)) : Prop where
  phy : ∀ e ∈ es, e.1 ≠ OxmFieldIndex.inPhyPort.header
  pcp : OxmFieldIndex.vlanPcp.header ∈ es.map Prod.fst →
    (OxmFieldIndex.vlanVid.header, [0, 0]) ∉ es
  isid : ∀ e ∈ es, e.1 = OxmFieldIndex.pbbIsidW.header → e.2[3]? = some 0
  unico : (es.map fun e => oxmField e.1.toNat).Nodup

theorem Regular.left {es' : List (UInt32 × Bytes)} (h : Regular (es ++ es')) : Regular es where
  phy := fun e he => h.phy e (mem_append_left _ he)
  pcp := fun hp hv => h.pcp (by rw [map_append]; exact mem_append_left _ hp)
    (mem_append_left _ hv)
  isid := fun e he => h.isid e (mem_append_left _ he)
  unico := by
    have := h.unico
    rw [map_append] at this
    exact (nodup_append.mp this).1

/-- An entry can be read after those before it: its bytes pass the tests, and what it needs is
    there. -/
structure Legible (host : Host) (antes : List (UInt32 × Bytes)) (i : OxmFieldIndex) (b : Bytes) :
    Prop where
  largo : b.length = i.largo
  admite : Admite host i b
  prereqs : oxmPrereqsOk host i.field (antes.map (guarda host)) = true
  vlan : i = .vlanPcp → VlanPuesta host (antes.map (guarda host))

/-- A match holds the entries that have been read, each of which can be read after all others. -/
structure Leido (host : Host) (es : List (UInt32 × Bytes)) (m : OxmMatch) : Prop where
  fields : m.fields.map recorta = (es.map (guarda host)).reverse
  nodup : (es.map Prod.fst).Nodup
  cada : ∀ e ∈ es, ∃ i : OxmFieldIndex, e.1 = i.header ∧ Legible host es i e.2

section Lectura

variable {host : Host} {es antes : List (UInt32 × Bytes)} {m m' : OxmMatch} {puntero : Bytes}
  {i : OxmFieldIndex} {b : Bytes}

theorem length_gira (i : OxmFieldIndex) (host : Host) (b : Bytes) :
    (i.gira host b).length = b.length := by
  unfold gira
  cases host <;> split <;> simp [Host.ntoh]

theorem ntoh_ntoh (host : Host) (b : Bytes) : host.ntoh (host.ntoh b) = b := by
  cases host <;> simp [Host.ntoh]

theorem gira_gira (i : OxmFieldIndex) (host : Host) (b : Bytes) :
    i.gira host (i.gira host b) = b := by
  unfold gira
  split
  · exact ntoh_ntoh host b
  · rfl

theorem length_guarda (host : Host) (i : OxmFieldIndex) (b : Bytes) :
    (guarda host (i.header, b)).value.length = b.length := by
  rw [guarda_header, length_append, length_gira, length_gira, ← length_append,
    take_append_drop]

theorem recorta_guarda (hb : b.length = i.largo) (resto : Bytes) :
    recorta ⟨i.header, (guarda host (i.header, b)).value ++ resto⟩ = guarda host (i.header, b) := by
  have hlen : (guarda host (i.header, b)).value.length = oxmLength i.header.toNat := by
    rw [length_guarda, hb, oxmLength_header]
  rw [recorta, take_left' hlen]
  rfl

theorem conHash_recorta (header : UInt32) (fields : List MatchTlv) :
    conHash header (fields.map recorta) = (conHash header fields).map recorta := by
  rw [conHash_eq, conHash_eq, filter_map]
  rfl

theorem todosCon_recorta {header : UInt32} {p : Bytes → Bool} (fields : List MatchTlv)
    (hp : ∀ v : Bytes, p (v.take (oxmLength header.toNat)) = p v) :
    todosCon (fields.map recorta) header p = todosCon fields header p := by
  have hex : (∃ t ∈ fields.map recorta, t.header = header) ↔ ∃ t ∈ fields, t.header = header := by
    simp [recorta]
  rw [Bool.eq_iff_iff, todosCon_iff, todosCon_iff, forall_mem_map, hex]
  refine and_congr_left fun _ => forall₂_congr fun t _ => forall_congr' fun hh => ?_
  have hh : t.header = header := hh
  rw [recorta, hh, hp]

theorem oxmPrereqsOk_recorta (f : OxmField) (fields : List MatchTlv) :
    oxmPrereqsOk host f (fields.map recorta) = oxmPrereqsOk host f fields := by
  have hhead : ∀ {i : OxmFieldIndex}, i.largo = 1 → ∀ v : Bytes,
      (v.take (oxmLength i.header.toNat)).head? = v.head? := by
    intro i hi v
    rw [oxmLength_header, hi, head?_take]
    rfl
  have htipo : ∀ x : UInt8,
      todosCon (fields.map recorta) icmpv6Type.header (fun v => v.head? == some x) =
        todosCon fields icmpv6Type.header fun v => v.head? == some x :=
    fun x => todosCon_recorta fields fun v => by rw [hhead rfl]
  have hproto : todosCon (fields.map recorta) ipProto.header
        (fun v => v.head?.map (·.toNat) == some f.nwProto) =
      todosCon fields ipProto.header
        fun v => v.head?.map (·.toNat) == some f.nwProto :=
    todosCon_recorta fields fun v => by rw [hhead rfl]
  have hany : ∀ p : Bytes → Bool,
      (conHash ethType.header fields).any
          ((fun t => p (t.value.take 2)) ∘ recorta) =
        (conHash ethType.header fields).any fun t => p (t.value.take 2) := by
    intro p
    rw [Bool.eq_iff_iff, any_eq_true, any_eq_true]
    refine exists_congr fun t => and_congr_right fun ht => ?_
    rw [conHash_eq, mem_filter] at ht
    rw [Function.comp_apply, recorta, eq_of_beq ht.2, oxmLength_header,
      take_take]
    rfl
  simp only [oxmPrereqsOk, htipo, hproto, conHash_recorta, any_map]
  rw [hany fun v => f.dlType.1 == read (host.ntoh v) ||
    (f.dlType.2 != 0 && f.dlType.2 == read (host.ntoh v))]

theorem vlanPuesta_recorta (fields : List MatchTlv) :
    VlanPuesta host (fields.map recorta) ↔ VlanPuesta host fields := by
  unfold VlanPuesta
  rw [todosCon_recorta]
  intro v
  rw [oxmLength_header, take_take]
  rfl

theorem oxmFieldLookup_header (i : OxmFieldIndex) : oxmFieldLookup i.header = some i.field := by
  have h : ∀ i ∈ todos, oxmFieldLookup i.header = some i.field := by decide
  exact h i i.mem_todos

theorem header_injective {i j : OxmFieldIndex} (h : i.header = j.header) : i = j := by
  have hidx : ∀ i : OxmFieldIndex, i.field.index = i := fun i => by cases i <;> rfl
  have hf := (oxmFieldLookup_header i).symm.trans (h ▸ oxmFieldLookup_header j)
  rw [← hidx i, ← hidx j, Option.some.inj hf]

theorem oxmFieldLookup_eq_some {header : UInt32} {f : OxmField} (h0 : header ≠ 0)
    (h : oxmFieldLookup header = some f) :
    ∃ i : OxmFieldIndex, f = i.field ∧ header = i.header := by
  have hh : f.header = header := by
    have := find?_some (p := fun f : OxmField => f.header == header) h
    exact eq_of_beq this
  rcases mem_append.mp (mem_of_find?_eq_some h) with hf | hf
  · obtain ⟨i, _, rfl⟩ := mem_map.mp hf
    exact ⟨i, rfl, hh.symm⟩
  · rw [eq_of_mem_replicate hf] at hh
    exact absurd hh.symm h0

/-- **An entry is read** if it is a field of the table, what it needs is there, its header is not
    there yet, and its bytes pass the tests. -/
theorem pullEntry_eq_ok {header : UInt32} {value : Memoria} (h0 : header ≠ 0) :
    pullEntry host puntero m header value = .ok m' ↔ ∃ i : OxmFieldIndex, header = i.header ∧
      oxmPrereqsOk host i.field m.fields = true ∧ (∀ t ∈ m.fields, t.header ≠ header) ∧
      parseOxmEntry host puntero m i.field value (salta value (i.largo / 2)) = .ok m' := by
  have hmask : ∀ i : OxmFieldIndex, (oxmHasmask i.header && !i.field.maskable) = false := by
    have h : ∀ i ∈ todos, (oxmHasmask i.header && !i.field.maskable) = false := by
      decide
    exact fun i => h i i.mem_todos
  have hpull : ∀ i : OxmFieldIndex, pullEntry host puntero m i.header value = .ok m' ↔
      oxmPrereqsOk host i.field m.fields = true ∧ (∀ t ∈ m.fields, t.header ≠ i.header) ∧
        parseOxmEntry host puntero m i.field value (salta value (i.largo / 2)) = .ok m' := by
    intro i
    have hdup : checkPresentPrereq m.fields i.field.header = true ↔
        ¬∀ t ∈ m.fields, t.header ≠ i.header := by
      rw [checkPresentPrereq_iff]
      push Not
      rfl
    simp only [pullEntry, oxmFieldLookup_header, hmask, ite_error_eq_ok,
      oxmLength_header, hdup]
    simp
  constructor
  swap
  · rintro ⟨i, rfl, h⟩
    exact (hpull i).mpr h
  intro h
  cases hf : oxmFieldLookup header with
  | none =>
    rw [pullEntry, hf] at h
    cases h
  | some f =>
    obtain ⟨i, _, rfl⟩ := oxmFieldLookup_eq_some h0 hf
    exact ⟨i, rfl, (hpull i).mp h⟩

end Lectura

section Paso

variable {host : Host} {es : List (UInt32 × Bytes)} {m m' : OxmMatch} {puntero : Bytes}
  {i : OxmFieldIndex} {b : Bytes}

theorem nodup_guarda (h : (es.map Prod.fst).Nodup) :
    ((es.map (guarda host)).map (·.header)).Nodup := by
  rw [map_map]
  exact h

theorem Legible.mono {antes : List (UInt32 × Bytes)} (h : Legible host antes i b)
    (hnd : (es.map Prod.fst).Nodup)
    (hsub : ∀ e ∈ antes, e.1 ∈ i.field.mira ∨ i = .vlanPcp ∧ e.1 = vlanVid.header →
      e ∈ es) : Legible host es i b where
  largo := h.largo
  admite := h.admite
  prereqs := oxmPrereqsOk_mono (nodup_guarda hnd) (fun t ht hh => by
    obtain ⟨e, he, rfl⟩ := mem_map.mp ht
    exact mem_map_of_mem (hsub e he (.inl hh))) h.prereqs
  vlan := fun hi => todosCon_mono (nodup_guarda hnd) (fun t ht hh => by
    obtain ⟨e, he, rfl⟩ := mem_map.mp ht
    exact mem_map_of_mem (hsub e he (.inr ⟨hi, hh⟩))) (h.vlan hi)

theorem Leido.headers (h : Leido host es m) {header : UInt32} :
    (∃ t ∈ m.fields, t.header = header) ↔ header ∈ es.map Prod.fst := by
  have hmap : m.fields.map (·.header) = (es.map Prod.fst).reverse := by
    have := congrArg (List.map (·.header)) h.fields
    rwa [map_map, map_reverse, map_map] at this
  rw [← mem_reverse, ← hmap, mem_map]

theorem Leido.nodup_fields (h : Leido host es m) :
    ((m.fields.map recorta).map (·.header)).Nodup := by
  rw [h.fields, map_reverse, nodup_reverse]
  exact nodup_guarda h.nodup

theorem Leido.mem_fields (h : Leido host es m) {t : MatchTlv} :
    t ∈ m.fields.map recorta ↔ t ∈ es.map (guarda host) := by
  rw [h.fields, mem_reverse]

theorem Leido.prereqs (h : Leido host es m) (f : OxmField) :
    oxmPrereqsOk host f m.fields = oxmPrereqsOk host f (es.map (guarda host)) := by
  rw [← oxmPrereqsOk_recorta, Bool.eq_iff_iff]
  exact ⟨oxmPrereqsOk_mono (nodup_guarda h.nodup) fun _ ht _ => h.mem_fields.mp ht,
    oxmPrereqsOk_mono h.nodup_fields fun _ ht _ => h.mem_fields.mpr ht⟩

theorem Leido.vlan (h : Leido host es m) (hvlan : VlanPuesta host (es.map (guarda host))) :
    VlanPuesta host m.fields :=
  (vlanPuesta_recorta _).mp
    (todosCon_mono h.nodup_fields (fun _ ht _ => h.mem_fields.mpr ht) hvlan)

theorem Leido.pon (h : Leido host es m) (hnew : i.header ∉ es.map Prod.fst)
    (hleg : Legible host es i b) (resto : Bytes) :
    Leido host (es ++ [(i.header, b)])
      (m.put i.header ((guarda host (i.header, b)).value ++ resto)) := by
  have hnd : ((es ++ [(i.header, b)]).map Prod.fst).Nodup := by
    rw [map_append, nodup_append]
    refine ⟨h.nodup, by simp, fun a ha b hb => ?_⟩
    rw [mem_singleton.mp hb]
    rintro rfl
    exact hnew ha
  have hsub : ∀ e ∈ es, e ∈ es ++ [(i.header, b)] := fun e he => mem_append_left _ he
  refine ⟨?_, hnd, fun e he => ?_⟩
  · rw [map_append, reverse_append]
    exact congrArg₂ List.cons (recorta_guarda hleg.largo resto) h.fields
  · rcases mem_append.mp he with he | he
    · obtain ⟨j, hj, hleg⟩ := h.cada e he
      exact ⟨j, hj, hleg.mono hnd fun e he _ => hsub e he⟩
    · rw [mem_singleton.mp he]
      exact ⟨i, rfl, hleg.mono hnd fun e he _ => hsub e he⟩

theorem Leido.vlanPuesta (h : Leido host es m) {value mask : Memoria}
    (hparse : parseOxmEntry host puntero m vlanPcp.field value mask = .ok m')
    (hcero : (vlanVid.header, [0, 0]) ∉ es) :
    VlanPuesta host (es.map (guarda host)) := by
  refine todosCon_iff.mpr ⟨fun t ht hh => ?_, ?_⟩
  · obtain ⟨⟨header, b⟩, he, rfl⟩ := mem_map.mp ht
    obtain ⟨j, hj, hleg⟩ := h.cada _ he
    obtain rfl : header = vlanVid.header := hh
    obtain rfl := header_injective hj
    have hb : b.length = 2 := hleg.largo
    have hancho : vlanVid.ancho = 2 := rfl
    have hval : (guarda host (vlanVid.header, b)).value.take 2 = host.ntoh b := by
      rw [guarda_header, hancho, take_of_length_le (Nat.le_of_eq hb),
        drop_eq_nil_of_le (Nat.le_of_eq hb), gira_nil, append_nil,
        take_of_length_le (by rw [length_gira, hb])]
      rfl
    rw [hval, ntoh_ntoh, bne_iff_ne]
    intro h0
    have hw := write_read b
    rw [hb, h0] at hw
    obtain rfl : [0, 0] = b := hw
    exact hcero he
  · have hsome : ∃ t ∈ m.fields, t.header = vlanVid.header := by
      cases hv : conHash vlanVid.header m.fields with
      | nil =>
        simp only [parseOxmEntry, field, getOxmValue, hv] at hparse
        cases hparse
      | cons t l =>
        have ht : t ∈ conHash vlanVid.header m.fields := hv ▸ mem_cons_self
        rw [conHash_eq, mem_filter] at ht
        exact ⟨t, ht.1, eq_of_beq ht.2⟩
    obtain ⟨e, he, hh⟩ := mem_map.mp (h.headers.mp hsome)
    exact ⟨_, mem_map_of_mem he, hh⟩

/-- **One entry**, where the code is spared what it does not bear. -/
theorem Leido.entry (h : Leido host es m) {header : UInt32} {value : Memoria} (h0 : header ≠ 0)
    (hreg : Regular (es ++ [(header, lee value (oxmLength header.toNat))]))
    (hpull : pullEntry host puntero m header value = .ok m') :
    Leido host (es ++ [(header, lee value (oxmLength header.toNat))]) m' := by
  obtain ⟨i, rfl, hpre, hdup, hparse⟩ := (pullEntry_eq_ok h0).mp hpull
  rw [oxmLength_header] at hreg ⊢
  have hmem : (i.header, lee value i.largo) ∈ es ++ [(i.header, lee value i.largo)] :=
    mem_append_right _ mem_cons_self
  have hadm := admite_of_parse hparse
    (fun hi => hreg.phy _ hmem (congrArg header hi)) fun hi => by
    have := hreg.isid _ hmem (congrArg header hi)
    subst hi
    exact Option.some.inj this
  have hvlan : i = .vlanPcp → VlanPuesta host (es.map (guarda host)) := by
    intro hi
    subst hi
    refine h.vlanPuesta hparse fun hno => hreg.pcp ?_ (mem_append_left _ hno)
    exact mem_map_of_mem hmem
  obtain ⟨resto, hres⟩ := hadm puntero m value rfl fun hi => h.vlan (hvlan hi)
  cases hres.symm.trans hparse
  refine h.pon (fun hin => ?_) ⟨by simp [lee], hadm, h.prereqs _ ▸ hpre, hvlan⟩ resto
  obtain ⟨t, ht, hh⟩ := h.headers.mpr hin
  exact hdup t ht hh

end Paso

/-- **All entries of a match.** -/
theorem pullLoop_leido (h : Leido host es m) (hreg : Regular (es ++ tlvs p n))
    (hpull : pullLoop host puntero p n m = .ok m') : Leido host (es ++ tlvs p n) m' := by
  induction n using Nat.strong_induction_on generalizing p es m with
  | _ n ih =>
    rw [pullLoop] at hpull
    rw [tlvs] at hreg ⊢
    dsimp only at hpull hreg ⊢
    split at hpull
    · rename_i h0
      rw [dif_pos h0, append_nil]
      split at hpull
      · cases hpull
        exact h
      · cases hpull
    · rename_i h0
      rw [dif_neg h0] at hreg ⊢
      obtain ⟨heq, _, hle⟩ := oxmEntryOk_spec h0
      rw [← heq] at hle
      cases hent : pullEntry host puntero m (oxmEntryOk p n) (salta p 4) with
      | error e =>
        rw [hent] at hpull
        cases hpull
      | ok m₁ =>
        rw [hent] at hpull
        rw [append_cons] at hreg ⊢
        exact ih _ (by omega) (h.entry h0 hreg.left hent) hreg hpull

/-! ## 5. Writing -/

/-- An entry as it is written. -/
def escribe (e : UInt32 × Bytes) : Bytes := oxmPut e.1 e.2

theorem length_escribe (e : UInt32 × Bytes) : (escribe e).length = 4 + e.2.length := by
  rw [escribe, oxmPut, length_append, length_write]

section Escritura

variable {host : Host} {puntero : Bytes} {i : OxmFieldIndex} {b : Bytes}

theorem largo_pos (i : OxmFieldIndex) : 0 < i.largo :=
  Nat.lt_of_lt_of_le (by cases i <;> decide) i.ancho_le

theorem header_ne_zero (i : OxmFieldIndex) : i.header ≠ 0 := by
  intro h
  have hl := largo_pos i
  rw [← oxmLength_header, h] at hl
  exact Nat.lt_irrefl 0 hl

theorem oxmEntryOk_escribe {p : Memoria} {n : Nat} {rest : Bytes} (hb : b.length = i.largo)
    (hm : Empieza p (escribe (i.header, b) ++ rest)) (hn : 4 + i.largo ≤ n) :
    oxmEntryOk p n = i.header ∧ lee (salta p 4) i.largo = b ∧
      Empieza (salta p (4 + i.largo)) rest := by
  have hfields : write 4 i.header.toNat = fields [(4, i.header.toNat)] := by simp [fields]
  have hheader : leer p 0 4 = i.header.toNat := by
    have := hm.left.left
    rw [hfields] at this
    exact this.campo 0 rfl rfl i.header.toNat_lt
  have hlen := length_escribe (i.header, b)
  refine ⟨?_, ?_, ?_⟩
  · have hpos := largo_pos i
    simp only [oxmEntryOk, hheader, oxmLength_header]
    rw [if_neg (by omega), if_neg (by omega), if_neg (by omega), UInt32.ofNat_toNat]
  · have hmap := hm.left.map_range (k := 4) (n := i.largo) (by rw [hlen, hb])
    rw [escribe, oxmPut, drop_left' (length_write ..),
      take_of_length_le (Nat.le_of_eq hb)] at hmap
    exact hmap
  · have := hm.right
    rwa [hlen, hb] at this

/-- **Entries that are written are read**, if each of them can be read after those before it. -/
theorem pullLoop_escribe {todo antes : List (UInt32 × Bytes)} {p : Memoria} {m : OxmMatch}
    (h : Leido host antes m)
    (hleg : ∀ pre e post, todo = pre ++ e :: post → ∃ i : OxmFieldIndex, e.1 = i.header ∧
      Legible host (antes ++ pre) i e.2 ∧ e.1 ∉ (antes ++ pre).map Prod.fst)
    (hm : Empieza p (todo.flatMap escribe)) :
    ∃ m', pullLoop host puntero p (todo.flatMap escribe).length m = .ok m' ∧
      Leido host (antes ++ todo) m' := by
  induction todo generalizing antes p m with
  | nil =>
    refine ⟨m, ?_, by rwa [append_nil]⟩
    rw [pullLoop]
    rfl
  | cons e todo ih =>
    obtain ⟨header, b⟩ := e
    obtain ⟨i, hi, hleg₀, hnew⟩ := hleg [] _ todo rfl
    obtain rfl : header = i.header := hi
    rw [append_nil] at hleg₀ hnew
    rw [flatMap_cons] at hm ⊢
    have hb : b.length = i.largo := hleg₀.largo
    obtain ⟨hok, hval, hrest⟩ := oxmEntryOk_escribe hb hm
      (n := (escribe (i.header, b) ++ todo.flatMap escribe).length)
      (by rw [length_append, length_escribe, hb]; omega)
    obtain ⟨resto, hparse⟩ := hleg₀.admite puntero m (salta p 4) hval fun hvlan =>
      h.vlan (hleg₀.vlan hvlan)
    have hpre := (h.prereqs i.field).trans hleg₀.prereqs
    have hent : pullEntry host puntero m i.header (salta p 4) = .ok _ :=
      (pullEntry_eq_ok (header_ne_zero i)).mpr ⟨i, rfl, hpre, fun t ht hh =>
        hnew (h.headers.mp ⟨t, ht, hh⟩), hparse⟩
    have hsig := h.pon hnew hleg₀ resto
    obtain ⟨m', hm', hleido⟩ := ih hsig (fun pre e post heq => by
      obtain ⟨j, hj⟩ := hleg ((i.header, b) :: pre) e post (by rw [heq]; rfl)
      rw [append_cons] at hj
      exact ⟨j, hj⟩) hrest
    refine ⟨m', ?_, by rwa [← append_cons] at hleido⟩
    rw [pullLoop]
    simp only [hok, header_ne_zero i, ↓reduceDIte, hent, oxmLength_header]
    rw [length_append, length_escribe, hb, Nat.add_sub_cancel_left]
    exact hm'

end Escritura

/-! ## 6. The order of writing -/

/-- The headers that others need, in the order in which they are written. -/
def requisitos : List UInt32 :=
  [OxmFieldIndex.inPort.header, OxmFieldIndex.ethType.header, OxmFieldIndex.vlanVid.header,
    OxmFieldIndex.ipProto.header, OxmFieldIndex.icmpv6Type.header]

/-- The entry that is written for a field. -/
def entrada (host : Host) (t : MatchTlv) : UInt32 × Bytes :=
  let n := anchoOxm t.header
  (t.header, enRed host t.header n (t.value.take n) ++
    if oxmHasmask t.header then enRed host t.header n ((t.value.drop n).take n) else [])

section Orden

variable {host : Host} {i : OxmFieldIndex} {b : Bytes} {t : MatchTlv}

/-- **What was kept is what is written.** -/
theorem entrada_eq (ht : recorta t = guarda host (i.header, b)) (hb : b.length = i.largo) :
    entrada host t = (i.header, b) := by
  obtain ⟨header, value⟩ := t
  obtain rfl : header = i.header := congrArg MatchTlv.header ht
  have hval : value.take i.largo =
      i.gira host (b.take i.ancho) ++ i.gira host (b.drop i.ancho) := by
    rw [← guarda_header, ← ht, recorta, oxmLength_header]
  have hlen : (i.gira host (b.take i.ancho)).length = i.ancho := by
    rw [length_gira, length_take, hb, Nat.min_eq_left i.ancho_le]
  have hfirst : value.take i.ancho = i.gira host (b.take i.ancho) := by
    have := congrArg (List.take i.ancho) hval
    rwa [take_take, Nat.min_eq_left i.ancho_le, take_left' hlen] at this
  simp only [entrada, anchoOxm_header, oxmHasmask_header,
    enRed_header, hfirst, gira_gira]
  split
  · rename_i hm
    have hl : i.largo = i.ancho + i.ancho := by simp [largo, hm, Nat.two_mul]
    have hrest : (value.drop i.ancho).take i.ancho = i.gira host (b.drop i.ancho) := by
      have := congrArg (List.drop i.ancho) hval
      rwa [drop_left' hlen, drop_take, hl, Nat.add_sub_cancel] at this
    rw [hrest, gira_gira, take_append_drop]
  · rename_i hm
    have hl : i.largo = i.ancho := by simp [largo, hm]
    rw [append_nil, take_of_length_le (by rw [hb, hl])]

theorem putTlv_eq (ht : t.header = i.header) : putTlv host t = escribe (entrada host t) := by
  have hancho : i.ancho ∈ anchosOxm := by cases i <;> decide
  have hocho : i.conMascara → i.ancho ≠ 1 := by cases i <;> decide
  simp only [putTlv, escribe, entrada, ht, anchoOxm_header,
    oxmHasmask_header, if_pos hancho]
  cases hm : i.conMascara with
  | false => simp
  | true => simp [hocho hm]

theorem putRequisito_eq (i : OxmFieldIndex) {n : Nat} (hm : i.conMascara = false)
    (hn : i.ancho = n) (l : List MatchTlv) :
    putRequisito host l i.header n =
      (l.filter (·.header = i.header)).flatMap fun t => escribe (entrada host t) := by
  have hfilter : l.filter (·.header == i.header) = l.filter (·.header = i.header) :=
    filter_congr fun t _ => beq_eq_decide ..
  rw [putRequisito, conHash_eq, hfilter]
  refine flatMap_congr fun t ht => ?_
  have hh : t.header = i.header := of_decide_eq_true (mem_filter.mp ht).2
  simp [escribe, entrada, hh, hm, hn]

/-- **The bytes of a match**: the headers that others need come first. -/
theorem putFields_eq {l : List MatchTlv} (hl : ∀ t ∈ l, ∃ i : OxmFieldIndex, t.header = i.header) :
    putFields host l = ((front (·.header) requisitos l).map (entrada host)).flatMap escribe := by
  have hrest : ((l.filter fun t => !isRequisite t.header).flatMap (putTlv host)) =
      (l.filter (·.header ∉ requisitos)).flatMap fun t => escribe (entrada host t) := by
    have hfilter : (l.filter fun t => !isRequisite t.header) = l.filter (·.header ∉ requisitos) :=
      filter_congr fun t _ => by
        rw [Bool.eq_iff_iff]
        simp [isRequisite, requisitos, and_assoc]
    rw [hfilter]
    refine flatMap_congr fun t ht => ?_
    obtain ⟨i, hi⟩ := hl t (mem_filter.mp ht).1
    exact putTlv_eq hi
  have hnd : requisitos.Nodup := by decide
  rw [putFields, putRequisito_eq (n := 4) .inPort rfl rfl,
    putRequisito_eq (n := 2) .ethType rfl rfl, putRequisito_eq (n := 2) .vlanVid rfl rfl,
    putRequisito_eq (n := 1) .ipProto rfl rfl, putRequisito_eq (n := 1) .icmpv6Type rfl rfl,
    hrest, front_eq _ hnd]
  simp only [requisitos, flatMap_map, flatMap_append, flatMap_cons,
    flatMap_nil, append_nil, append_assoc]

theorem mira_antes (i : OxmFieldIndex) {header : UInt32}
    (h : header ∈ i.field.mira ∨ i = .vlanPcp ∧ header = vlanVid.header) :
    requisitos.idxOf header < requisitos.idxOf i.header := by
  have hmira : ∀ i ∈ todos, i.field.mira.all fun header =>
      decide (requisitos.idxOf header < requisitos.idxOf i.header) := by decide
  rcases h with h | ⟨rfl, rfl⟩
  · exact of_decide_eq_true (all_eq_true.mp (hmira i i.mem_todos) header h)
  · decide

end Orden

/-! ## 7. The round trip -/

theorem lee_add (mem : Memoria) (k n : Nat) :
    lee mem (k + n) = lee mem k ++ lee (salta mem k) n := by
  rw [← take_lee mem (Nat.le_add_right k n), ← drop_lee mem k n, take_append_drop]

theorem salta_salta (mem : Memoria) (k n : Nat) : salta (salta mem k) n = salta mem (k + n) := by
  funext i
  simp only [salta, Nat.add_assoc]

theorem write_leer (mem : Memoria) : write 4 (leer mem 0 4) = lee mem 4 := by
  have hread : leer mem 0 4 = Util.BigEndian.read (lee mem 4) := by
    simp only [leer, lee, Util.BigEndian.read, foldl_map, Nat.zero_add]
  rw [hread]
  exact write_read (lee mem 4)

theorem escribe_tlvs (h : pullLoop host puntero p n m = .ok m') :
    (tlvs p n).flatMap escribe = lee p n := by
  induction n using Nat.strong_induction_on generalizing p m with
  | _ n ih =>
    rw [pullLoop] at h
    rw [tlvs]
    dsimp only at h ⊢
    split at h
    · rename_i h0
      rw [dif_pos h0]
      split at h
      · rename_i hn
        rw [hn]
        rfl
      · cases h
    · rename_i h0
      rw [dif_neg h0, flatMap_cons]
      obtain ⟨heq, _, hle⟩ := oxmEntryOk_spec h0
      rw [← heq] at hle
      cases hent : pullEntry host puntero m (oxmEntryOk p n) (salta p 4) with
      | error e =>
        rw [hent] at h
        cases h
      | ok m₁ =>
        rw [hent] at h
        have hcab : write 4 (leer p 0 4) = lee p 4 := write_leer p
        have hn : 4 + (oxmLength (oxmEntryOk p n).toNat +
            (n - (4 + oxmLength (oxmEntryOk p n).toNat))) = n := by omega
        rw [ih _ (by omega) h, escribe, oxmPut, heq, hcab, append_assoc, ← heq, ← salta_salta,
          ← lee_add, ← lee_add, hn]

theorem map_entrada (h : l.map recorta = es.map (guarda host))
    (hes : ∀ e ∈ es, ∃ i : OxmFieldIndex, e.1 = i.header ∧ e.2.length = i.largo) :
    l.map (entrada host) = es := by
  induction l generalizing es with
  | nil =>
    obtain rfl := map_eq_nil_iff.mp h.symm
    rfl
  | cons t l ih =>
    obtain ⟨⟨header, b⟩, es, rfl, ht, hl⟩ := map_eq_cons_iff.mp h.symm
    obtain ⟨i, hi, hb⟩ := hes (header, b) mem_cons_self
    obtain rfl : header = i.header := hi
    exact congrArg₂ List.cons (entrada_eq ht.symm hb)
      (ih hl.symm fun e he => hes e (mem_cons_of_mem _ he))

theorem Leido.entradas (h : Leido host es m) : m.fields.map (entrada host) = es.reverse := by
  refine map_entrada (by rw [h.fields, map_reverse]) fun e he => ?_
  obtain ⟨i, hi, hleg⟩ := h.cada e (mem_reverse.mp he)
  exact ⟨i, hi, hleg.largo⟩

theorem Leido.tabla (h : Leido host es m) {t : MatchTlv} (ht : t ∈ m.fields) :
    ∃ i : OxmFieldIndex, t.header = i.header := by
  obtain ⟨e, he, hh⟩ := mem_map.mp (h.headers.mp ⟨t, ht, rfl⟩)
  obtain ⟨i, hi, _⟩ := h.cada e he
  exact ⟨i, hh.symm.trans hi⟩

theorem Leido.legible (h : Leido host es m) (hl : l.Perm m.fields)
    {pre post : List (UInt32 × Bytes)} {e : UInt32 × Bytes}
    (heq : (front (·.header) requisitos l).map (entrada host) = pre ++ e :: post) :
    ∃ i : OxmFieldIndex, e.1 = i.header ∧ Legible host pre i e.2 ∧ e.1 ∉ pre.map Prod.fst := by
  have hmap : (l.map (entrada host)).Perm es :=
    (hl.map _).trans (h.entradas ▸ reverse_perm es)
  have hperm : (pre ++ e :: post).Perm es := heq ▸ ((front_perm _ requisitos l).map _).trans hmap
  have hnd := (hperm.map Prod.fst).nodup_iff.mpr h.nodup
  rw [map_append, map_cons] at hnd
  obtain ⟨hpre, _, hdis⟩ := nodup_append.mp hnd
  obtain ⟨i, hi, hleg⟩ := h.cada e (hperm.mem_iff.mp (mem_append_right _ mem_cons_self))
  refine ⟨i, hi, hleg.mono hpre fun e' he' hmira => ?_, fun hin =>
    hdis _ hin _ mem_cons_self rfl⟩
  obtain ⟨l₁, l₂, hfront, rfl, hl₂⟩ := map_eq_append_iff.mp heq
  obtain ⟨t, l₃, rfl, rfl, _⟩ := map_eq_cons_iff.mp hl₂
  obtain ⟨t', ht', rfl⟩ := mem_map.mp (hmap.mem_iff.mpr he')
  have hlt := mira_antes i hmira
  rw [← hi] at hlt
  exact mem_map_of_mem (mem_of_front_eq _ hfront ht' hlt)

theorem leido_vacio (host : Host) : Leido host [] ⟨0, []⟩ :=
  ⟨rfl, nodup_nil, fun _ he => nomatch he⟩

/-- What is to hold of a match that was read from the entries `es`: it has one entry for each field
    number, it holds the fields, values and masks of `es`, and it is read again, whatever the order
    of the hash map and whatever stands behind the bytes. -/
structure IdaYVuelta (host : Host) (es : List (UInt32 × Bytes)) (m : OxmMatch) : Prop where
  unico : (m.fields.map fun t => oxmField t.header.toNat).Nodup
  fields : (m.fields.map recorta).Perm (es.map (guarda host))
  vuelta : ∀ l, l.Perm m.fields → ∀ puntero' p', Empieza p' (oxmPutMatch host l).1 →
    ∃ m', oxmPullMatch host puntero' (oxmPutMatch host l).1.length p' (oxmPutMatch host l).2 =
        .ok m' ∧
      (m'.fields.map recorta).Perm (m.fields.map recorta)

theorem idaYVuelta_of_regular (hloop : pullLoop host puntero p n ⟨0, []⟩ = .ok m)
    (hreg : Regular (tlvs p n)) : IdaYVuelta host (tlvs p n) m := by
  have hleido := pullLoop_leido (leido_vacio host) hreg hloop
  rw [nil_append] at hleido
  have hperm : (m.fields.map recorta).Perm ((tlvs p n).map (guarda host)) := by
    rw [hleido.fields]
    exact reverse_perm _
  refine ⟨?_, hperm, fun l hl puntero' p' hp' => ?_⟩
  · have := hperm.map fun t => oxmField t.header.toNat
    rw [map_map, map_map] at this
    exact this.nodup_iff.mpr hreg.unico
  · have hput : putFields host l = _ := putFields_eq fun t ht => hleido.tabla (hl.mem_iff.mp ht)
    have hmap : (l.map (entrada host)).Perm (tlvs p n) :=
      (hl.map _).trans (hleido.entradas ▸ reverse_perm _)
    have hlegible : ∀ pre e post, (front (·.header) requisitos l).map (entrada host) =
        pre ++ e :: post → ∃ i : OxmFieldIndex, e.1 = i.header ∧
          Legible host ([] ++ pre) i e.2 ∧ e.1 ∉ ([] ++ pre).map Prod.fst := by
      intro pre e post heq
      rw [nil_append]
      exact hleido.legible hl heq
    obtain ⟨m', hm', hleido'⟩ : ∃ m', pullLoop host puntero' p' _ ⟨0, []⟩ = .ok m' ∧ _ :=
      pullLoop_escribe (leido_vacio host) hlegible (hput ▸ hp'.left)
    refine ⟨m', ?_, ?_⟩
    · rw [← hput] at hm'
      exact ite_error_eq_ok.mpr ⟨by simp [oxmPutMatch], hm'⟩
    · rw [nil_append] at hleido'
      rw [hleido'.fields]
      refine (reverse_perm _).trans (.trans (.map _ ?_) hperm.symm)
      exact ((front_perm _ requisitos l).map _).trans hmap

/-! ## 8. What the code does not bear -/

theorem getOxmValue_eq_find? (fields : List MatchTlv) (header : UInt32) :
    getOxmValue fields header = (fields.find? (·.header == header)).map (·.value) := by
  rw [getOxmValue, conHash_eq, head?_filter]

/-- A VLAN priority is kept only where a VLAN other than 0 is. -/
def PcpConVlan (host : Host) (fields : List MatchTlv) : Prop :=
  (∃ t ∈ fields, t.header = vlanPcp.header) →
    ∃ t, fields.find? (·.header == vlanVid.header) = some t ∧
      read (host.ntoh (t.value.take 2)) ≠ 0

/-- **What an entry adds**: fields with its header, two of them for `OXM_OF_IN_PHY_PORT`, and none
    for a VLAN priority without a VLAN. -/
theorem parse_anade {mask : Memoria}
    (h : parseOxmEntry host puntero m i.field value mask = .ok m') :
    ∃ nuevos, m'.fields = nuevos ++ m.fields ∧ (∀ t ∈ nuevos, t.header = i.header) ∧
      (i = .inPhyPort → nuevos.length = 2) ∧
      (i = .vlanPcp → nuevos ≠ [] → ∃ t, m.fields.find? (·.header == vlanVid.header) = some t ∧
        read (host.ntoh (t.value.take 2)) ≠ 0) := by
  have huno : ∀ {v : Bytes}, i ≠ .inPhyPort → i ≠ .vlanPcp → m' = m.put i.header v →
      ∃ nuevos, m'.fields = nuevos ++ m.fields ∧ (∀ t ∈ nuevos, t.header = i.header) ∧
        (i = .inPhyPort → nuevos.length = 2) ∧
        (i = .vlanPcp → nuevos ≠ [] → ∃ t, m.fields.find? (·.header == vlanVid.header) = some t ∧
          read (host.ntoh (t.value.take 2)) ≠ 0) := by
    rintro v hphy hpcp rfl
    refine ⟨[⟨i.header, v⟩], rfl, fun t ht => ?_, fun hi => absurd hi hphy,
      fun hi => absurd hi hpcp⟩
    rw [mem_singleton.mp ht]
  by_cases hphy : i = .inPhyPort
  · subst hphy
    simp only [parseOxmEntry, field] at h
    split at h
    · cases h
      refine ⟨[⟨_, _⟩, ⟨_, _⟩], rfl, fun t ht => ?_, fun _ => rfl, fun hi => nomatch hi⟩
      rcases mem_cons.mp ht with rfl | ht
      · rfl
      · rw [mem_singleton.mp ht]
        rfl
    · cases h
  by_cases hpcp : i = .vlanPcp
  · subst hpcp
    simp only [parseOxmEntry, field, getOxmValue_eq_find?] at h
    cases hf : m.fields.find? (·.header == vlanVid.header) with
    | none =>
      rw [hf] at h
      cases h
    | some t =>
      rw [hf] at h
      dsimp only [Option.map_some] at h
      split at h
      · rename_i hne
        cases h
        refine ⟨[⟨_, _⟩], rfl, fun t ht => ?_, fun hi => absurd hi hphy,
          fun _ _ => ⟨t, rfl, hne⟩⟩
        rw [mem_singleton.mp ht]
        rfl
      · cases h
        exact ⟨[], rfl, fun _ ht => absurd ht not_mem_nil, fun hi => absurd hi hphy,
          fun _ hno => absurd rfl hno⟩
  by_cases hisid : i = .pbbIsidW
  · subst hisid
    exact huno hphy hpcp (Except.ok.inj (ite_error_eq_ok.mp h).2).symm
  obtain ⟨malo, _, hmalo⟩ := parse_spec host hphy hpcp hisid
  rw [hmalo] at h
  cases hx : malo (lee value i.ancho) (if i.conMascara then lee mask i.ancho else []) with
  | some e =>
    rw [hx] at h
    cases h
  | none =>
    rw [hx] at h
    exact huno hphy hpcp (Except.ok.inj h).symm

theorem PcpConVlan.anade {nuevos fields : List MatchTlv} (h : PcpConVlan host fields)
    (hnuevos : ∀ t ∈ nuevos, t.header = i.header) (hdup : ∀ t ∈ fields, t.header ≠ i.header)
    (hpcp : i = .vlanPcp → nuevos ≠ [] →
      ∃ t, fields.find? (·.header == vlanVid.header) = some t ∧
        read (host.ntoh (t.value.take 2)) ≠ 0) : PcpConVlan host (nuevos ++ fields) := by
  rintro ⟨t, ht, hh⟩
  obtain ⟨v, hv, hne⟩ : ∃ t, fields.find? (·.header == vlanVid.header) = some t ∧
      read (host.ntoh (t.value.take 2)) ≠ 0 := by
    rcases mem_append.mp ht with ht | ht
    · have hi : i = .vlanPcp := header_injective ((hnuevos t ht).symm.trans hh)
      exact hpcp hi (ne_nil_of_mem ht)
    · exact h ⟨t, ht, hh⟩
  refine ⟨v, ?_, hne⟩
  -- the VLAN that was there was not added again
  rw [find?_append, Option.or_eq_right_of_none] 
  · exact hv
  · refine find?_eq_none.mpr fun t ht hvid => ?_
    have hvid : t.header = vlanVid.header := eq_of_beq hvid
    rw [hnuevos t ht] at hvid
    exact hdup v (mem_of_find?_eq_some hv)
      ((eq_of_beq (find?_some hv :)).trans hvid.symm)

/-- **What a match holds after all entries**, regular or not. -/
theorem pullLoop_anade (h : pullLoop host puntero p n m = .ok m')
    (hpcp : PcpConVlan host m.fields) :
    (∃ nuevos, m'.fields = nuevos ++ m.fields) ∧ PcpConVlan host m'.fields ∧
      (∀ e ∈ tlvs p n, ∃ i : OxmFieldIndex, e.1 = i.header ∧ e.2.length = i.largo) ∧
      ((∃ e ∈ tlvs p n, e.1 = inPhyPort.header) →
        2 ≤ m'.fields.countP (·.header == inPhyPort.header)) := by
  induction n using Nat.strong_induction_on generalizing p m with
  | _ n ih =>
    rw [pullLoop] at h
    rw [tlvs]
    dsimp only at h ⊢
    split at h
    · rename_i h0
      rw [dif_pos h0]
      split at h
      · cases h
        exact ⟨⟨[], rfl⟩, hpcp, fun _ he => absurd he not_mem_nil,
          fun ⟨_, he, _⟩ => absurd he not_mem_nil⟩
      · cases h
    · rename_i h0
      rw [dif_neg h0]
      obtain ⟨heq, _, hle⟩ := oxmEntryOk_spec h0
      rw [← heq] at hle
      cases hent : pullEntry host puntero m (oxmEntryOk p n) (salta p 4) with
      | error e =>
        rw [hent] at h
        cases h
      | ok m₁ =>
        rw [hent] at h
        obtain ⟨i, hi, _, hdup, hparse⟩ := (pullEntry_eq_ok h0).mp hent
        obtain ⟨nuevos, hnuevos, hheader, hphy, hvlan⟩ := parse_anade hparse
        have hpcp₁ : PcpConVlan host m₁.fields :=
          hnuevos ▸ hpcp.anade hheader (hi ▸ hdup) hvlan
        obtain ⟨⟨mas, hmas⟩, hfin, hcada, hdos⟩ := ih _ (by omega) h hpcp₁
        refine ⟨⟨mas ++ nuevos, by rw [hmas, hnuevos, append_assoc]⟩, hfin, ?_, ?_⟩
        · refine forall_mem_cons.mpr ⟨⟨i, hi, ?_⟩, hcada⟩
          rw [hi, oxmLength_header]
          simp [lee]
        · rintro ⟨e, he, hh⟩
          rcases mem_cons.mp he with rfl | he
          · have hi' : i = .inPhyPort := header_injective (hi.symm.trans hh)
            subst hi'
            have hall : nuevos.countP (·.header == inPhyPort.header) = nuevos.length :=
              countP_eq_length.mpr fun t ht => beq_iff_eq.mpr (hheader t ht)
            rw [hmas, hnuevos, countP_append, countP_append, hall, hphy rfl]
            omega
          · exact hdos ⟨e, he, hh⟩

/-- **Entries that are written** are read one after the other, if all can be read. -/
theorem pullLoop_salta {k : Nat} {rest : Bytes}
    (hes : ∀ e ∈ es, ∃ i : OxmFieldIndex, e.1 = i.header ∧ e.2.length = i.largo)
    (hp : Empieza p (es.flatMap escribe ++ rest))
    (h : pullLoop host puntero p ((es.flatMap escribe).length + k) m = .ok m') :
    ∃ m₁, pullLoop host puntero (salta p (es.flatMap escribe).length) k m₁ = .ok m' := by
  induction es generalizing p m with
  | nil =>
    refine ⟨m, ?_⟩
    rw [flatMap_nil, length_nil, Nat.zero_add] at h
    have hcero : salta p 0 = p := funext fun k => congrArg p (Nat.zero_add k)
    rw [flatMap_nil, length_nil, hcero]
    exact h
  | cons e es ih =>
    obtain ⟨header, b⟩ := e
    obtain ⟨i, hi, hb⟩ := hes (header, b) mem_cons_self
    obtain rfl : header = i.header := hi
    rw [flatMap_cons, append_assoc] at hp
    obtain ⟨hok, _, hrest⟩ := oxmEntryOk_escribe hb hp
      (n := (((i.header, b) :: es).flatMap escribe).length + k)
      (by rw [flatMap_cons, length_append, length_escribe]; omega)
    rw [pullLoop] at h
    simp only [hok, header_ne_zero i, ↓reduceDIte, oxmLength_header] at h
    cases hent : pullEntry host puntero m i.header (salta p 4) with
    | error e =>
      rw [hent] at h
      cases h
    | ok m₁ =>
      rw [hent] at h
      have hlen : (((i.header, b) :: es).flatMap escribe).length =
          4 + i.largo + (es.flatMap escribe).length := by
        rw [flatMap_cons, length_append, length_escribe, hb]
      rw [hlen] at h ⊢
      rw [show 4 + i.largo + (es.flatMap escribe).length + k - (4 + i.largo) =
        (es.flatMap escribe).length + k by omega] at h
      obtain ⟨m₂, hm₂⟩ := ih (fun e he => hes e (mem_cons_of_mem _ he)) hrest h
      exact ⟨m₂, by rwa [salta_salta] at hm₂⟩

/-- **A masked I-SID that is written last**, with a zero behind it, is read only if the first byte
    of its mask is 0. -/
theorem isid_ultima {b : Bytes} {mem : Memoria} (hb : b.length = 6)
    (hp : Empieza mem (escribe (pbbIsidW.header, b))) (hcero : mem 10 = 0)
    (h : pullLoop host puntero mem 10 m = .ok m') : b[3]? = some 0 := by
  have hp' : Empieza mem (escribe (pbbIsidW.header, b) ++ []) := by rwa [append_nil]
  obtain ⟨hok, hval, _⟩ := oxmEntryOk_escribe (i := .pbbIsidW) (n := 10) hb hp' (Nat.le_refl 10)
  rw [pullLoop] at h
  simp only [hok, header_ne_zero .pbbIsidW, ↓reduceDIte] at h
  cases hent : pullEntry host puntero m pbbIsidW.header (salta mem 4) with
  | error e =>
    rw [hent] at h
    cases h
  | ok m₁ =>
    obtain ⟨i, hi, _, _, hparse⟩ := (pullEntry_eq_ok (header_ne_zero .pbbIsidW)).mp hent
    obtain rfl := header_injective hi
    have hno : ¬checkBadWildcard (lee (salta mem 4) 4) (lee (salta (salta mem 4) 3) 4) = true :=
      (ite_error_eq_ok.mp hparse).1
    rw [checkBadWildcard, bne_iff_ne, not_not] at hno
    -- the fourth byte of the value is the first of the mask, that of the mask is behind the entry
    have h3 : salta mem 4 3 &&& mem 10 = salta mem 4 3 := by
      have hget := congrArg (fun l : Bytes => l[3]?) hno
      simpa [lee, salta, range_succ] using hget
    rw [hcero, UInt8.and_zero] at h3
    have hget : (lee (salta mem 4) 6)[3]? = some (salta mem 4 3) := by simp [lee, range_succ]
    rw [← hval, h3]
    exact hget

/-- A match that is read again in every order, one of which has the I-SID last. -/
theorem isid_de_vuelta {fields : List MatchTlv} {t : MatchTlv} {b : Bytes}
    (hentrada : ∀ t ∈ fields, ∃ i : OxmFieldIndex, t.header = i.header ∧
      (entrada host t).1 = i.header ∧ (entrada host t).2.length = i.largo)
    (ht : t ∈ fields) (hent : entrada host t = (pbbIsidW.header, b)) (hb : b.length = 6)
    (hvuelta : ∀ l : List MatchTlv, l.Perm fields → ∀ p', Empieza p' (oxmPutMatch host l).1 →
      ∃ m', pullLoop host [] p' (putFields host l).length ⟨0, []⟩ = .ok m') :
    b[3]? = some 0 := by
  obtain ⟨pre, post, rfl⟩ := append_of_mem ht
  have hl : (pre ++ post ++ [t]).Perm (pre ++ t :: post) := by
    rw [append_assoc]
    exact perm_append_comm.append_left pre
  have hheader : t.header = pbbIsidW.header := congrArg Prod.fst hent
  have huno : [t].filter (·.header ∉ requisitos) = [t] := by
    have hrequisito : t.header ∉ requisitos := by
      rw [hheader]
      decide
    simp [hrequisito]
  obtain ⟨delante, hfront⟩ : ∃ delante,
      front (·.header) requisitos (pre ++ post ++ [t]) = delante ++ [t] := by
    refine ⟨requisitos.flatMap (fun k => (pre ++ post ++ [t]).filter (·.header = k)) ++
      (pre ++ post).filter (·.header ∉ requisitos), ?_⟩
    have hnd : requisitos.Nodup := by decide
    have hfin : (pre ++ post ++ [t]).filter (·.header ∉ requisitos) =
        (pre ++ post).filter (·.header ∉ requisitos) ++ [t] := by rw [filter_append, huno]
    rw [front_eq _ hnd, hfin]
    exact (append_assoc _ _ _).symm
  have hdelante : ∀ e ∈ delante.map (entrada host),
      ∃ i : OxmFieldIndex, e.1 = i.header ∧ e.2.length = i.largo := by
    intro e he
    obtain ⟨t', ht', rfl⟩ := mem_map.mp he
    have hmem : t' ∈ pre ++ post ++ [t] :=
      (front_perm (·.header) requisitos _).mem_iff.mp (hfront ▸ mem_append_left _ ht')
    obtain ⟨i, _, hi, hlargo⟩ := hentrada t' (hl.mem_iff.mp hmem)
    exact ⟨i, hi, hlargo⟩
  have hput : putFields host (pre ++ post ++ [t]) =
      (delante.map (entrada host)).flatMap escribe ++ escribe (pbbIsidW.header, b) := by
    have htabla : ∀ t' ∈ pre ++ post ++ [t], ∃ i : OxmFieldIndex, t'.header = i.header := by
      intro t' ht'
      obtain ⟨i, hi, _⟩ := hentrada t' (hl.mem_iff.mp ht')
      exact ⟨i, hi⟩
    rw [putFields_eq htabla, hfront, map_append, flatMap_append, map_singleton, hent,
      flatMap_singleton]
  -- zeros stand behind what is written
  set bytes := putFields host (pre ++ post ++ [t]) with hbytes
  have hemp := empieza_memoriaDe (fun _ _ => 0) (oxmPutMatch host (pre ++ post ++ [t])).1
  obtain ⟨m', hm'⟩ := hvuelta _ hl _ hemp
  obtain ⟨ceros, hceros⟩ : ∃ k, (oxmPutMatch host (pre ++ post ++ [t])).1 =
      bytes ++ replicate k 0 := ⟨_, rfl⟩
  rw [hceros] at hemp hm'
  have hcero : memoriaDe (fun _ _ => 0) (bytes ++ replicate ceros 0) bytes.length = 0 := by
    rw [memoriaDe, getElem?_append_right (Nat.le_refl _), Nat.sub_self, getElem?_replicate]
    split <;> rfl
  generalize memoriaDe (fun _ _ => 0) (bytes ++ replicate ceros 0) = p' at hemp hm' hcero
  rw [← hbytes, hput, length_append, length_escribe, hb] at hm'
  rw [hput, append_assoc] at hemp
  obtain ⟨m₁, hm₁⟩ := pullLoop_salta hdelante hemp hm'
  refine isid_ultima hb hemp.right.left ?_ hm₁
  rw [hput, length_append, length_escribe, hb] at hcero
  exact hcero

theorem regular_of_idaYVuelta (hloop : pullLoop host puntero p n ⟨0, []⟩ = .ok m)
    (h : IdaYVuelta host (tlvs p n) m) : Regular (tlvs p n) := by
  obtain ⟨-, hpcp, hcada, hdos⟩ := pullLoop_anade hloop fun ⟨_, ht, _⟩ => absurd ht not_mem_nil
  have hheaders : (m.fields.map (·.header)).Nodup := by
    have hunico := h.unico
    rw [show (m.fields.map fun t => oxmField t.header.toNat) =
      (m.fields.map (·.header)).map fun x => oxmField x.toNat by rw [map_map]; rfl] at hunico
    exact hunico.of_map
  -- what is held of an entry, and what is written of what is held
  have hde : ∀ e ∈ tlvs p n, ∃ t ∈ m.fields, recorta t = guarda host e := fun e he =>
    mem_map.mp (h.fields.mem_iff.mpr (mem_map_of_mem he))
  have hentrada : ∀ t ∈ m.fields, ∃ i : OxmFieldIndex, t.header = i.header ∧
      (entrada host t).1 = i.header ∧ (entrada host t).2.length = i.largo := by
    intro t ht
    obtain ⟨⟨header, b⟩, he, hg⟩ := mem_map.mp (h.fields.mem_iff.mp (mem_map_of_mem ht))
    obtain ⟨i, hi, hb⟩ := hcada _ he
    obtain rfl : header = i.header := hi
    rw [entrada_eq hg.symm hb]
    exact ⟨i, (congrArg MatchTlv.header hg).symm, rfl, hb⟩
  refine ⟨fun e he hphy => ?_, fun hp hv => ?_, fun e he hisid => ?_, ?_⟩
  · have hcount : m.fields.countP (·.header == inPhyPort.header) ≤ 1 := by
      have := nodup_iff_count_le_one.mp hheaders inPhyPort.header
      rwa [count, countP_map] at this
    have := hdos ⟨e, he, hphy⟩
    omega
  · obtain ⟨e, he, hpe⟩ := mem_map.mp hp
    obtain ⟨t, ht, hg⟩ := hde e he
    obtain ⟨v, hfind, hne⟩ := hpcp ⟨t, ht, (congrArg MatchTlv.header hg).trans hpe⟩
    obtain ⟨w, hw, hgw⟩ := hde _ hv
    have hwv : w = v := inj_on_of_nodup_map hheaders hw (mem_of_find?_eq_some hfind)
      ((congrArg MatchTlv.header hgw).trans (eq_of_beq (find?_some hfind :)).symm)
    subst hwv
    have hheader : w.header = vlanVid.header := congrArg MatchTlv.header hgw
    have hval : w.value.take 2 = host.ntoh [0, 0] := by
      have hv : w.value.take (oxmLength w.header.toNat) = _ := congrArg MatchTlv.value hgw
      rw [hheader, oxmLength_header, guarda_header] at hv
      refine hv.trans ?_
      cases host <;> rfl
    rw [hval, ntoh_ntoh] at hne
    exact hne rfl
  · obtain ⟨t, ht, hg⟩ := hde e he
    obtain ⟨i, hi, hb⟩ := hcada e he
    obtain rfl : i = .pbbIsidW := header_injective (hi.symm.trans hisid)
    have hent : entrada host t = (pbbIsidW.header, e.2) := by
      obtain ⟨header, b⟩ := e
      obtain rfl : header = pbbIsidW.header := hi
      exact entrada_eq hg hb
    refine isid_de_vuelta hentrada ht hent hb fun l hl p' hp' => ?_
    obtain ⟨m', hm', _⟩ := h.vuelta l hl [] p' hp'
    exact ⟨m', (ite_error_eq_ok.mp hm').2⟩
  · have hperm := h.fields.map fun t => oxmField t.header.toNat
    rw [map_map, map_map] at hperm
    exact hperm.nodup_iff.mp h.unico

/-- **OXM match round trip.** A match that is accepted holds the bytes of its entries; and it has
one entry for each field number, has the value and the mask of each, and, written in whatever order
of the hash map, is read again as the same fields, exactly if its entries are `Regular`. -/
theorem oxm_match_round_trip (host : Host) {puntero : Bytes} {size n : Nat} {p : Memoria}
    {m : OxmMatch} (h : oxmPullMatch host puntero size p n = .ok m) :
    (tlvs p n).flatMap escribe = lee p n ∧
      (IdaYVuelta host (tlvs p n) m ↔ Regular (tlvs p n)) := by
  have hloop : pullLoop host puntero p n ⟨0, []⟩ = .ok m := (ite_error_eq_ok.mp h).2
  exact ⟨escribe_tlvs hloop, regular_of_idaYVuelta hloop, idaYVuelta_of_regular hloop⟩

def haciaWeb : List (UInt32 × Bytes) :=
  [(OxmFieldIndex.ethType.header, [8, 0]), (OxmFieldIndex.ipProto.header, [6]),
    (OxmFieldIndex.tcpDst.header, [0, 80]),
    (OxmFieldIndex.ipv4DstW.header, [10, 0, 0, 0, 255, 0, 0, 0]),
    (OxmFieldIndex.inPort.header, [0, 0, 0, 1])]

/-- The memory of some bytes, with 0 behind them. -/
def conCeros (b : Bytes) : Memoria := memoriaDe (fun _ _ => 0) b

/-- Entries as they are read by a machine with the lowest byte first. -/
def leeEntradas (es : List (UInt32 × Bytes)) : Except OflErr OxmMatch :=
  oxmPullMatch .little [] (es.flatMap escribe).length (conCeros (es.flatMap escribe))
    (es.flatMap escribe).length

/-- A match that is written and read again. -/
def releeMatch (fields : List MatchTlv) : Except OflErr OxmMatch :=
  oxmPullMatch .little [] (oxmPutMatch .little fields).1.length
    (conCeros (oxmPutMatch .little fields).1) (oxmPutMatch .little fields).2

/-- `haciaWeb` is read, written with its fields in another order, and read again. -/
theorem oxm_match_round_trip_web :
    leeEntradas haciaWeb = .ok ⟨37, (haciaWeb.map (guarda .little)).reverse⟩ ∧
    ∃ m', releeMatch (haciaWeb.map (guarda .little)) = .ok m' ∧
      (m'.fields.map recorta).Perm ((haciaWeb.map (guarda .little)).reverse.map recorta) := by
  have hread : leeEntradas haciaWeb = .ok ⟨37, (haciaWeb.map (guarda .little)).reverse⟩ := by
    decide +kernel
  have htlvs : tlvs (conCeros (haciaWeb.flatMap escribe)) (haciaWeb.flatMap escribe).length =
      haciaWeb := by decide +kernel
  have hreg : Regular haciaWeb :=
    ⟨by decide +kernel, by decide +kernel, by decide +kernel, by decide +kernel⟩
  obtain ⟨_, hiff⟩ := oxm_match_round_trip .little hread
  rw [htlvs] at hiff
  obtain ⟨_, _, hround⟩ := hiff.mpr hreg
  exact ⟨hread, hround _ (reverse_perm _).symm [] _ (empieza_memoriaDe _ _)⟩

/-- **What the code does not bear.** Fields that are accepted twice, with and without a mask;
`OXM_OF_IN_PHY_PORT`; a VLAN priority with VLAN 0, which is left out; a masked I-SID with another
byte behind its mask. -/
theorem oxm_match_round_trip_fails :
    (∃ m, leeEntradas [(OxmFieldIndex.ethDst.header, [2, 0, 0, 0, 0, 1]),
        (OxmFieldIndex.ethDstW.header, [2, 0, 0, 0, 0, 0, 255, 0, 0, 0, 0, 0])] = .ok m ∧
      ¬(m.fields.map fun t => oxmField t.header.toNat).Nodup) ∧
    (∃ m, leeEntradas [(OxmFieldIndex.inPort.header, [0, 0, 0, 1]),
        (OxmFieldIndex.inPhyPort.header, [0, 0, 0, 2])] = .ok m ∧
      releeMatch m.fields = .error (badMatch 10)) ∧
    (∃ m, leeEntradas [(OxmFieldIndex.vlanVid.header, [0, 0]),
        (OxmFieldIndex.vlanPcp.header, [3])] = .ok m ∧
      m.fields.map (·.header) = [OxmFieldIndex.vlanVid.header]) ∧
    (∃ m l, leeEntradas [(OxmFieldIndex.ethType.header, [0x88, 0xe7]),
        (OxmFieldIndex.pbbIsidW.header, [0x80, 0, 0, 0x80, 255, 255]),
        (OxmFieldIndex.ethSrc.header, [2, 0, 0, 0, 0, 1])] = .ok m ∧ l.Perm m.fields ∧
      releeMatch l = .error (badMatch 5)) := by
  refine ⟨⟨⟨26, [⟨ethDstW.header, [2, 0, 0, 0, 0, 0, 255, 0, 0, 0, 0, 0]⟩,
      ⟨ethDst.header, [2, 0, 0, 0, 0, 1]⟩]⟩, by decide +kernel, by decide +kernel⟩,
    ⟨⟨28, [⟨inPhyPort.header, [0, 0, 0, 0, 2, 0, 0, 0]⟩,
      ⟨inPhyPort.header, [2, 0, 0, 0]⟩, ⟨inPort.header, [1, 0, 0, 0]⟩]⟩,
      by decide +kernel, by decide +kernel⟩,
    ⟨⟨6, [⟨vlanVid.header, [0, 0]⟩]⟩, by decide +kernel, rfl⟩,
    ⟨⟨26, [⟨ethSrc.header, [2, 0, 0, 0, 0, 1]⟩,
      ⟨pbbIsidW.header, [0x80, 0, 0, 0x80, 255, 255]⟩,
      ⟨ethType.header, [0xe7, 0x88]⟩]⟩, _, by decide +kernel, .refl _, ?_⟩⟩
  decide +kernel

end TcpPath.Udatapath
