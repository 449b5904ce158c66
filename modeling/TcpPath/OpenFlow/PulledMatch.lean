/-
  Subject:   The matches that `oxm_pull_match` makes, as match_std.c finds them, and fields as
             ternary patterns.

  Results:   `packetMatch_iff`: a packet passes if every field is as its pattern asks.
-/
import TcpPath.OpenFlow.MatchStd
import TcpPath.OpenFlow.OxmRoundTrip
import TcpPath.Util.Ternary

namespace TcpPath.Udatapath

open Util Util.BigEndian List OxmFieldIndex

/-! ## 1. What is read -/

/-- A match that `oxm_pull_match` makes of some bytes. The address of a pointer is taken for a mask
    of 6 bytes. -/
def Leida (host : Host) (m : OxmMatch) : Prop :=
  ∃ puntero size p n, 6 ≤ puntero.length ∧ oxmPullMatch host puntero size p n = .ok m

/-- What a field adds to the length of its match. A masked I-SID is kept with 12 bytes. -/
def peso (header : UInt32) : Nat :=
  if header = OxmFieldIndex.pbbIsidW.header then 16 else oxmLength header.toNat + 4

/-- A field of the table as it is kept: all its bytes are there, and the value has no bit that the
    mask leaves out, but for extension headers. -/
structure Conservado (t : MatchTlv) (i : OxmFieldIndex) : Prop where
  header : t.header = i.header
  largo : i.largo ≤ t.value.length
  dentro : i.conMascara = true → i ≠ .ipv6ExthdrW →
    ∀ k < i.ancho, t.mem k &&& t.mem (i.ancho + k) = t.mem k

/-- What match_std.c relies on. -/
structure Buena (m : OxmMatch) : Prop where
  cada : ∀ t ∈ m.fields, ∃ i, Conservado t i
  nodup : (m.fields.map (·.header)).Nodup
  length : m.length = (m.fields.map fun t => peso t.header).sum

section Lectura

variable {host : Host} {puntero : Bytes} {m m' : OxmMatch} {i : OxmFieldIndex}
  {value mask : Memoria} {k n : Nat} {v w : Bytes}

theorem byteAt_lee (mem : Memoria) (h : k < n) : byteAt (lee mem n) k = mem k := by
  simp [byteAt, lee, h]

theorem checkBadWildcard_eq_false (h : checkBadWildcard v w = false) (hk : k < v.length) :
    byteAt v k &&& byteAt w k = byteAt v k := by
  have heq : List.zipWith (· &&& ·) v w = v := by simpa [checkBadWildcard] using h
  have hlen := congrArg List.length heq
  have hkw : k < w.length := by
    rw [length_zipWith] at hlen
    omega
  have hkth := congrArg (byteAt · k) heq
  simpa [byteAt, getElem?_zipWith, hk, hkw] using hkth

theorem conservado_con {resto : Bytes} (hm : i.conMascara = true) (hv : v.length = i.ancho)
    (hw : w.length = i.ancho) (hok : i ≠ .ipv6ExthdrW → checkBadWildcard v w = false) :
    Conservado ⟨i.header, v ++ w ++ resto⟩ i where
  header := rfl
  largo := by
    simp only [largo, hm, if_true, length_append]
    omega
  dentro := by
    intro _ hext k hk
    have hk' := checkBadWildcard_eq_false (hok hext) (hv ▸ hk)
    have h1 : byteAt (v ++ w ++ resto) k = byteAt v k := by
      rw [append_assoc, byteAt, byteAt, getD_append _ _ _ _ (hv ▸ hk)]
    have h2 : byteAt (v ++ w ++ resto) (i.ancho + k) = byteAt w k := by
      rw [append_assoc, byteAt, byteAt, getD_append_right _ _ _ _ (by omega), hv,
        Nat.add_sub_cancel_left, getD_append _ _ _ _ (by omega)]
    show byteAt _ k &&& byteAt _ (i.ancho + k) = byteAt _ k
    rw [h1, h2, hk']

theorem conservado_sin (hm : i.conMascara = false) (hv : v.length = i.ancho) :
    Conservado ⟨i.header, v⟩ i where
  header := rfl
  largo := by simp [largo, hm, hv]
  dentro := fun h => by rw [hm] at h; cases h

theorem peso_header (h : i ≠ .pbbIsidW) : peso i.header = i.largo + 4 := by
  rw [peso, if_neg (mt header_injective h), oxmLength_header]

/-- One field more, as it is kept. -/
def Pone (m m' : OxmMatch) (i : OxmFieldIndex) : Prop :=
  ∃ v : Bytes, m' = m.put i.header v ∧ v.length + 4 = peso i.header ∧ Conservado ⟨i.header, v⟩ i

theorem parse_isid (hp : 6 ≤ puntero.length)
    (h : parseOxmEntry host puntero m pbbIsidW.field value (salta value 3) =
      .ok m') : Pone m m' .pbbIsidW := by
  obtain ⟨hok, h⟩ := ite_error_eq_ok.mp h
  cases h
  have hsplit : lee value 6 = lee value 3 ++ lee (salta value 3) 3 := by
    rw [← take_lee value (by decide : 3 ≤ 6), ← drop_lee value 3 3, take_append_drop]
  have hbad : checkBadWildcard (lee value 3) (lee (salta value 3) 3) = false := by
    have h4 := checkBadWildcard_partes 3 (lee value 4) (lee (salta value 3) 4)
    rw [take_lee _ (by decide), take_lee _ (by decide)] at h4
    have hno : checkBadWildcard (lee value 4) (lee (salta value 3) 4) = false :=
      Bool.eq_false_iff.mpr hok
    rw [hno, Bool.or_eq_false_iff] at h4
    exact h4.1
  refine ⟨_, rfl, ?_, ?_⟩
  · rw [length_append, length_take, Nat.min_eq_left hp]
    rfl
  · rw [hsplit]
    exact conservado_con rfl rfl rfl fun _ => hbad

theorem parse_tabla (hphy : i ≠ .inPhyPort) (hpcp : i ≠ .vlanPcp) (hisid : i ≠ .pbbIsidW)
    (h : parseOxmEntry host puntero m i.field value (salta value (i.largo / 2)) = .ok m') :
    Pone m m' i := by
  obtain ⟨malo, hmask, hmalo⟩ := parse_spec host hphy hpcp hisid
  rw [hmalo] at h
  have hlee : ∀ mem : Memoria, (i.gira host (lee mem i.ancho)).length = i.ancho := fun mem => by
    rw [length_gira]
    simp [lee]
  cases hx : malo (lee value i.ancho) _ with
  | some e =>
    rw [hx] at h
    cases h
  | none =>
    rw [hx] at h
    cases h
    refine ⟨_, rfl, ?_, ?_⟩
    · rw [peso_header hisid, largo]
      split
      · rw [length_append, hlee, hlee, Nat.two_mul]
      · rw [hlee]
    · cases hm : i.conMascara with
      | false => exact conservado_sin hm (hlee _)
      | true =>
        rw [hm] at hx
        have hbad := fun hext => hmask _ _ hm hext (by simp [lee]) hx
        rw [if_pos rfl, ← append_nil (_ ++ _)]
        refine conservado_con hm (hlee value) (hlee (salta value (i.largo / 2))) fun hext => ?_
        unfold gira
        split
        · rw [checkBadWildcard_ntoh host (by simp [lee])]
          exact hbad hext
        · exact hbad hext

/-- **An entry that is read** adds its field, or nothing at all for a VLAN priority without a
    VLAN. -/
theorem parse_pone (hphy : i ≠ .inPhyPort) (hp : 6 ≤ puntero.length)
    (h : parseOxmEntry host puntero m i.field value (salta value (i.largo / 2)) = .ok m') :
    m' = m ∨ Pone m m' i := by
  by_cases hpcp : i = .vlanPcp
  · subst hpcp
    simp only [parseOxmEntry, field] at h
    split at h
    · split at h
      · cases h
        refine .inr ⟨lee value 1, rfl, ?_, conservado_sin rfl rfl⟩
        rw [peso_header (by decide)]
        rfl
      · cases h
        exact .inl rfl
    · cases h
  by_cases hisid : i = .pbbIsidW
  · subst hisid
    exact .inr (parse_isid hp h)
  · exact .inr (parse_tabla hphy hpcp hisid h)

/-- `OXM_OF_IN_PHY_PORT` is in the match. -/
def ConPhy (m : OxmMatch) : Prop := ∃ t ∈ m.fields, t.header = OxmFieldIndex.inPhyPort.header

theorem pullEntry_buena {header : UInt32} (h0 : header ≠ 0) (hp : 6 ≤ puntero.length)
    (h : pullEntry host puntero m header value = .ok m') (hm : ConPhy m ∨ Buena m) :
    ConPhy m' ∨ Buena m' := by
  obtain ⟨i, rfl, -, hnew, hparse⟩ := (pullEntry_eq_ok h0).mp h
  by_cases hphy : i = .inPhyPort
  · subst hphy
    simp only [parseOxmEntry, field] at hparse
    split at hparse
    · cases hparse
      exact .inl ⟨_, mem_cons_self, rfl⟩
    · cases hparse
  rcases parse_pone hphy hp hparse with rfl | ⟨v, rfl, hlen, hg⟩
  · exact hm
  rcases hm with ⟨t, ht, hh⟩ | hm
  · exact .inl ⟨t, mem_cons_of_mem _ ht, hh⟩
  refine .inr ⟨?_, ?_, ?_⟩
  · intro t ht
    rcases mem_cons.mp ht with rfl | ht
    · exact ⟨i, hg⟩
    · exact hm.cada t ht
  · refine nodup_cons.mpr ⟨fun hmem => ?_, hm.nodup⟩
    obtain ⟨t, ht, hh⟩ := mem_map.mp hmem
    exact hnew t ht hh
  · show m.length + v.length + 4 = _
    rw [OxmMatch.put, map_cons, sum_cons, ← hm.length, ← hlen]
    omega

theorem pullLoop_invariant {I : OxmMatch → Prop} (hstep : ∀ m m' header value, header ≠ 0 → I m →
      pullEntry host puntero m header value = .ok m' → I m') {p : Memoria} (h0 : I m)
    (h : pullLoop host puntero p n m = .ok m') : I m' := by
  induction n using Nat.strong_induction_on generalizing p m with
  | _ n ih =>
    rw [pullLoop] at h
    dsimp only at h
    split at h
    · split at h
      · cases h
        exact h0
      · cases h
    · rename_i hne
      obtain ⟨heq, _, hle⟩ := oxmEntryOk_spec hne
      split at h
      · cases h
      · rename_i m1 hentry
        exact ih _ (by rw [← heq] at hle; omega) (hstep _ _ _ _ hne h0 hentry) h

/-- **Every match that is read** is as match_std.c expects it, if it has no `OXM_OF_IN_PHY_PORT`. -/
theorem Leida.buena (h : Leida host m) (hphy : ¬ ConPhy m) : Buena m := by
  obtain ⟨puntero, size, p, n, hp, h⟩ := h
  have hvacia : Buena ⟨0, []⟩ := ⟨fun t ht => absurd ht not_mem_nil, nodup_nil, rfl⟩
  exact (pullLoop_invariant (I := fun m => ConPhy m ∨ Buena m)
    (fun _ _ _ _ hne hm he => pullEntry_buena hne hp he hm) (.inr hvacia)
    (ite_error_eq_ok.mp h).2).resolve_left hphy

end Lectura

/-! ## 2. Fields -/

namespace OxmFieldIndex

/-- The field without a mask. -/
def exacto : OxmFieldIndex → OxmFieldIndex
  | metadataW => metadata
  | ethDstW => ethDst
  | ethSrcW => ethSrc
  | vlanVidW => vlanVid
  | pbbIsidW => pbbIsid
  | ipv4SrcW => ipv4Src
  | ipv4DstW => ipv4Dst
  | ipv6SrcW => ipv6Src
  | ipv6DstW => ipv6Dst
  | ipv6FlabelW => ipv6Flabel
  | ipv6ExthdrW => ipv6Exthdr
  | arpSpaW => arpSpa
  | arpTpaW => arpTpa
  | arpShaW => arpSha
  | arpThaW => arpTha
  | tunnelIdW => tunnelId
  | i => i

theorem ancho_mem (i : OxmFieldIndex) : i.ancho ∈ anchosOxm := by cases i <;> decide

@[simp] theorem exacto_conMascara (i : OxmFieldIndex) : i.exacto.conMascara = false := by
  cases i <;> rfl

@[simp] theorem exacto_ancho (i : OxmFieldIndex) : i.exacto.ancho = i.ancho := by cases i <;> rfl

variable {i j : OxmFieldIndex}

theorem exacto_eq (h : i.conMascara = false) : i.exacto = i := by
  cases i <;> first | rfl | cases h

@[simp] theorem headerExacto_header (i : OxmFieldIndex) :
    headerExacto i.header = i.exacto.header := by
  have htabla : ∀ i ∈ todos, headerExacto i.header = i.exacto.header := by decide
  exact htabla i i.mem_todos

theorem tablaConMascara (i : OxmFieldIndex) :
    headerConMascara i.header = headerConMascara i.exacto.header ∧
      oxmHasmask (headerConMascara i.header) = true ∧
      headerExacto (headerConMascara i.header) = i.exacto.header ∧
      (i.conMascara = true → headerConMascara i.exacto.header = i.header) := by
  have htabla : ∀ i ∈ todos, headerConMascara i.header = headerConMascara i.exacto.header ∧
      oxmHasmask (headerConMascara i.header) = true ∧
      headerExacto (headerConMascara i.header) = i.exacto.header ∧
      (i.conMascara = true → headerConMascara i.exacto.header = i.header) := by
    decide
  exact htabla i i.mem_todos

theorem headerConMascara_eq :
    headerConMascara i.header = j.header ↔ j.conMascara = true ∧ j.exacto = i.exacto := by
  obtain ⟨hexacto, hmask, hvuelta, -⟩ := i.tablaConMascara
  constructor
  · intro h
    rw [h, oxmHasmask_header] at hmask
    rw [h, headerExacto_header] at hvuelta
    exact ⟨hmask, header_injective hvuelta⟩
  · intro ⟨hm, he⟩
    rw [hexacto, ← he, j.tablaConMascara.2.2.2 hm]

theorem exacto_inj (h : i.exacto = j.exacto) (hm : i.conMascara = j.conMascara) : i = j := by
  cases hi : i.conMascara with
  | false => rw [← exacto_eq hi, h, exacto_eq (hm ▸ hi)]
  | true =>
    have hj := headerConMascara_eq.mpr ⟨hi, h⟩
    have hjj := headerConMascara_eq.mpr ⟨hm ▸ hi, rfl⟩
    exact header_injective (hj.symm.trans hjj)

end OxmFieldIndex

/-- The field of a packet that a TLV is about, by its header. -/
def campoOxm (t : MatchTlv) : UInt32 := headerExacto t.header

/-- What a TLV asks of its field. -/
def patron (t : MatchTlv) : Ternary (Nat × Nat) :=
  .ofBytes (anchoOxm t.header) t.mem (mascara (anchoOxm t.header) t)

section Campos

variable {t f g : MatchTlv} {i j : OxmFieldIndex} {m b : OxmMatch}

@[simp] theorem Conservado.ancho (h : Conservado t i) : anchoOxm t.header = i.ancho := by
  rw [h.header, anchoOxm_header]

@[simp] theorem Conservado.hasmask (h : Conservado t i) : oxmHasmask t.header = i.conMascara := by
  rw [h.header, oxmHasmask_header]

@[simp] theorem Conservado.campoOxm (h : Conservado t i) : campoOxm t = i.exacto.header := by
  rw [Udatapath.campoOxm, h.header, headerExacto_header]

theorem campoOxm_eq_iff (hf : Conservado f i) (hg : Conservado g j) :
    campoOxm f = campoOxm g ↔ i.exacto = j.exacto := by
  rw [hf.campoOxm, hg.campoOxm]
  exact ⟨header_injective, congrArg _⟩

theorem campoOxm_ancho (hf : Conservado f i) (hg : Conservado g j) (h : campoOxm f = campoOxm g) :
    anchoOxm f.header = anchoOxm g.header := by
  have hi := congrArg ancho ((campoOxm_eq_iff hf hg).mp h)
  rw [hf.ancho, hg.ancho]
  simpa using hi

theorem header_eq_iff (hf : Conservado f i) (hg : Conservado g j) :
    f.header = g.header ↔ campoOxm f = campoOxm g ∧ oxmHasmask f.header = oxmHasmask g.header := by
  constructor
  · intro h
    exact ⟨congrArg headerExacto h, congrArg _ h⟩
  · intro ⟨hc, hm⟩
    rw [hf.hasmask, hg.hasmask] at hm
    rw [hf.header, hg.header, exacto_inj ((campoOxm_eq_iff hf hg).mp hc) hm]

theorem Conservado.mascara_and (h : Conservado t i) (hext : i ≠ .ipv6ExthdrW) {k : Nat}
    (hk : k < anchoOxm t.header) : mascara (anchoOxm t.header) t k &&& t.mem k = t.mem k := by
  rw [h.ancho] at hk ⊢
  rw [mascara, h.hasmask]
  cases hm : i.conMascara with
  | true =>
    have hd := h.dentro hm hext k hk
    rw [UInt8.and_comm] at hd
    exact hd
  | false =>
    show 0xff &&& t.mem k = t.mem k
    rw [eq_iff_bit]
    intro j
    rw [bit_and, bit_ones]
    cases hb : bit (t.mem k) j with
    | false => simp
    | true => simp [lt_of_bit hb]

theorem Buena.lookup (hb : Buena b) {header : UInt32} :
    oxmMatchLookup header b = some g ↔ g ∈ b.fields ∧ g.header = header := by
  rw [oxmMatchLookup_eq]
  constructor
  · intro h
    exact ⟨mem_of_find?_eq_some h, by simpa using find?_some h⟩
  · intro ⟨hg, hh⟩
    rw [← hh]
    exact find?_of_key hb.nodup hg fun _ => beq_iff_eq

theorem Buena.lookup_none (hb : Buena b) {header : UInt32}
    (h : oxmMatchLookup header b = none) : ∀ g ∈ b.fields, g.header ≠ header := by
  intro g hg hh
  rw [hb.lookup.mpr ⟨hg, hh⟩] at h
  cases h

theorem buscaAmbos_some (hb : Buena b) (hf : Conservado f i) (h : buscaAmbos f.header b = some g) :
    g ∈ b.fields ∧ campoOxm g = campoOxm f := by
  rcases Option.or_eq_some_iff.mp h with h | ⟨-, h⟩
  · obtain ⟨hg, hh⟩ := hb.lookup.mp h
    obtain ⟨j, hj⟩ := hb.cada g hg
    refine ⟨hg, ?_⟩
    rw [hf.header, hj.header, headerExacto_header] at hh
    rw [hj.campoOxm, hf.campoOxm, header_injective hh, exacto_eq (by simp)]
  · obtain ⟨hg, hh⟩ := hb.lookup.mp h
    obtain ⟨j, hj⟩ := hb.cada g hg
    rw [hf.header, hj.header] at hh
    exact ⟨hg, by rw [hj.campoOxm, hf.campoOxm, (headerConMascara_eq.mp hh.symm).2]⟩

theorem exists_buscaAmbos (hb : Buena b) (hf : Conservado f i) (hg : g ∈ b.fields)
    (h : campoOxm g = campoOxm f) : ∃ g', buscaAmbos f.header b = some g' := by
  obtain ⟨j, hj⟩ := hb.cada g hg
  have hij := (campoOxm_eq_iff hj hf).mp h
  rw [← Option.isSome_iff_exists, buscaAmbos, Option.isSome_or, hf.header,
    headerExacto_header]
  cases hm : j.conMascara with
  | false =>
    rw [hb.lookup.mpr ⟨hg, by rw [hj.header, ← hij, exacto_eq hm]⟩]
    rfl
  | true =>
    have hh := headerConMascara_eq.mpr ⟨hm, hij⟩
    have hl : oxmMatchLookup (headerConMascara i.header) b = some g :=
      hb.lookup.mpr ⟨hg, by rw [hj.header, hh]⟩
    rw [hl]
    exact Bool.or_true _

theorem peso_pos (header : UInt32) : 0 < peso header := by
  unfold peso
  split <;> omega

theorem Buena.length_eq_zero (hm : Buena m) : m.length = 0 ↔ m.fields = [] := by
  rw [hm.length]
  cases m.fields with
  | nil => simp
  | cons t l =>
    have := peso_pos t.header
    simp
    omega

end Campos

/-! ## 3. Packets -/

/-- Neither `OXM_OF_VLAN_VID` nor `OXM_OF_IPV6_EXTHDR` is matched, with or without a mask. -/
def SinEspeciales (m : OxmMatch) : Prop :=
  ∀ t ∈ m.fields, campoOxm t ≠ OxmFieldIndex.vlanVid.header ∧
    campoOxm t ≠ OxmFieldIndex.ipv6Exthdr.header

section Paquetes

variable {host : Host} {f : MatchTlv} {i : OxmFieldIndex} {m p : OxmMatch}

theorem ones_and_eq_zero {x y : UInt8} : 0xff &&& (x ^^^ y) = 0 ↔ x = y := by
  rw [eq_zero_iff_bit, eq_iff_bit]
  refine forall_congr' fun j => ?_
  rw [bit_and, bit_ones, bit_xor]
  by_cases hj : j < 8
  · simp [hj]
  · simp [hj, bit_of_le (Nat.le_of_not_lt hj)]

theorem comparaPaquete_iff (hf : Conservado f i) (hv : campoOxm f ≠ vlanVid.header)
    (he : campoOxm f ≠ ipv6Exthdr.header) (q : MatchTlv) :
    comparaPaquete host f q = true ↔ (patron f).Accepts (bits q.mem) := by
  have hn : anchoOxm f.header ∈ anchosOxm := hf.ancho ▸ i.ancho_mem
  rw [patron, Ternary.accepts_ofBytes, comparaPaquete]
  unfold campoOxm at hv he
  rw [if_neg hv, if_neg he]
  unfold mascara
  split
  · exact matchMaskAncho_iff hn
  · rw [matchAncho_iff hn]
    exact forall₂_congr fun k _ => ones_and_eq_zero.symm

/-- **A packet passes** if it has every field of the match, as the pattern asks. -/
theorem packetMatch_iff (hm : Buena m) (hs : SinEspeciales m) :
    packetMatch host m p = true ↔ ∀ t ∈ m.fields, ∃ q,
      oxmMatchLookup (campoOxm t) p = some q ∧ (patron t).Accepts (bits q.mem) := by
  rw [packetMatch]
  split
  · rename_i h0
    simp [hm.length_eq_zero.mp h0]
  · rw [all_eq_true]
    refine forall₂_congr fun t ht => ?_
    obtain ⟨hv, he⟩ := hs t ht
    obtain ⟨i, hi⟩ := hm.cada t ht
    dsimp only [campoOxm] at hv he ⊢
    cases oxmMatchLookup (headerExacto t.header) p with
    | none =>
      have hne : t.header ≠ vlanVid.header := by
        intro h
        rw [h, headerExacto_header] at hv
        exact hv rfl
      simp [hne]
    | some q => simpa using comparaPaquete_iff hi hv he q

end Paquetes

end TcpPath.Udatapath
