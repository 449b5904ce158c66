/-
  Subject:   What `match_std_strict`, `match_std_nonstrict` and `match_std_overlap` say of matches
             that were read, against what they are for.

  The three functions look for the fields of one match in the other one and compare pairs. Of each
  there is first what it computes, as a statement about pairs of fields, then the relation it
  stands for -- the same fields, the packets of one among those of the other, a packet in
  common -- and then where the two agree.

  Results:   `strict_identical_iff`: symmetric, true of identical matches, and right exactly if the
             headers differ, some number under equal masks does, or no masks differ.
             `nonstrict_subsumption`: right exactly if each field of `a` stands in `b` (or in a
             wider form beside the exact one), or one does not pass and one covers nothing.
             `overlap_common_packet`: right from both sides exactly if the fields agree and the
             values compared are equal, or they do not agree and some that are compared differ.
-/
import TcpPath.OpenFlow.PulledMatch
import TcpPath.Util.KeyedLists

namespace TcpPath.Udatapath

open Util Util.BigEndian List OxmFieldIndex

variable {host : Host} {a b m : OxmMatch} {f g t : MatchTlv} {i j : OxmFieldIndex}

/-! ## 1. Pairs of fields -/

/-- `R` holds of each field of `a` and each of `b` with the same key. -/
def Pares (key : MatchTlv → UInt32) (a b : OxmMatch) (R : MatchTlv → MatchTlv → Prop) : Prop :=
  ∀ f ∈ a.fields, ∀ g ∈ b.fields, key f = key g → R f g

variable {key : MatchTlv → UInt32} {R : MatchTlv → MatchTlv → Prop} {header : UInt32}
  {ts : List MatchTlv}

theorem Pares.congr {S : MatchTlv → MatchTlv → Prop} (h : Pares key a b fun f g => R f g ↔ S f g) :
    Pares key a b R ↔ Pares key a b S :=
  forall₂_congr fun f hf => forall₂_congr fun g hg => forall_congr' fun he => h f hf g hg he

theorem Buena.busca_iff (hb : Buena b) {c : MatchTlv → Bool} :
    (match oxmMatchLookup header b with
      | none => false
      | some g => c g) = true ↔ ∃ g ∈ b.fields, g.header = header ∧ c g = true := by
  cases hl : oxmMatchLookup header b with
  | none =>
    refine ⟨fun h => absurd h (by simp), fun ⟨g, hg, hh, _⟩ => ?_⟩
    exact absurd hh (hb.lookup_none hl g hg)
  | some g =>
    refine ⟨fun h => ⟨g, (hb.lookup.mp hl).1, (hb.lookup.mp hl).2, h⟩, fun ⟨g', hg', hh, hc⟩ => ?_⟩
    rw [hb.lookup.mpr ⟨hg', hh⟩] at hl
    cases hl
    exact hc

/-- The masks are equal; a field without one counts as all ones. -/
def MismaMascara (f g : MatchTlv) : Prop :=
  ∀ k < anchoOxm f.header,
    mascara (anchoOxm f.header) f k = mascara (anchoOxm f.header) g k

/-- The values agree under the mask of `f`. -/
def MismoValor (f g : MatchTlv) : Prop :=
  ∀ k < anchoOxm f.header, mascara (anchoOxm f.header) f k &&& (f.mem k ^^^ g.mem k) = 0

/-- No field has a mask. -/
def SinMascara (m : OxmMatch) : Prop := ∀ t ∈ m.fields, oxmHasmask t.header = false

theorem covers_patron (h : anchoOxm f.header = anchoOxm g.header) :
    (patron f).Covers (patron g) ↔ ∀ k < anchoOxm f.header,
      mascara (anchoOxm f.header) f k &&& ~~~mascara (anchoOxm f.header) g k = 0 ∧
        mascara (anchoOxm f.header) f k &&& (f.mem k ^^^ g.mem k) = 0 := by
  rw [patron, patron, ← h]
  exact Ternary.covers_ofBytes

theorem compatible_patron (h : anchoOxm f.header = anchoOxm g.header) :
    (patron f).Compatible (patron g) ↔ ∀ k < anchoOxm f.header,
      mascara (anchoOxm f.header) f k &&& mascara (anchoOxm f.header) g k &&&
        (f.mem k ^^^ g.mem k) = 0 := by
  rw [patron, patron, ← h]
  exact Ternary.compatible_ofBytes

theorem mascara_exacta {n : Nat} (h : oxmHasmask t.header = false) : mascara n t = allMask := by
  rw [mascara, h]
  rfl

theorem leida_little (es : List (UInt32 × Bytes))
    (h : oxmPullMatch .little (List.replicate 8 0) (es.flatMap escribe).length
      (conCeros (es.flatMap escribe)) (es.flatMap escribe).length = .ok m) : Leida .little m :=
  ⟨_, _, _, _, by simp, h⟩

/-- The match of one field. -/
def unCampo (i : OxmFieldIndex) (value : Bytes) : OxmMatch :=
  ⟨value.length + 4, [⟨i.header, value⟩]⟩

/-! ## 2. `match_std_strict` -/

/-- The same OXM headers, in whatever order. -/
def MismosHeaders (a b : OxmMatch) : Prop :=
  ∀ header, header ∈ a.fields.map (·.header) ↔ header ∈ b.fields.map (·.header)

/-- **What `match_std_strict` is for.** The same headers, with equal masks and values that agree
    under them. -/
structure Identicos (a b : OxmMatch) : Prop where
  headers : MismosHeaders a b
  mascaras : Pares (·.header) a b MismaMascara
  valores : Pares (·.header) a b MismoValor

theorem MismosHeaders.length (h : MismosHeaders a b) (ha : Buena a) (hb : Buena b) :
    a.length = b.length := by
  have hperm := (perm_ext_iff_of_nodup ha.nodup hb.nodup).mpr h
  have hsum := (hperm.map peso).sum_eq
  rw [map_map, map_map] at hsum
  rw [ha.length, hb.length]
  exact hsum

theorem mismosHeaders_of_length (ha : Buena a) (hb : Buena b) (hlen : a.length = b.length)
    (hsub : ∀ f ∈ a.fields, ∃ g ∈ b.fields, g.header = f.header) : MismosHeaders a b := by
  have hsub' : a.fields.map (·.header) ⊆ b.fields.map (·.header) := by
    intro header hmem
    obtain ⟨f, hf, rfl⟩ := mem_map.mp hmem
    obtain ⟨g, hg, hh⟩ := hsub f hf
    exact mem_map.mpr ⟨g, hg, hh⟩
  refine fun header => ⟨fun h => hsub' h, fun h => mem_of_sum_le peso_pos ha.nodup hsub' ?_ h⟩
  rw [ha.length, hb.length] at hlen
  rw [map_map, map_map]
  exact Nat.le_of_eq hlen.symm

/-- **What `match_std_strict` computes.** -/
theorem matchStdStrict_iff (ha : Buena a) (hb : Buena b) : matchStdStrict a b = true ↔
    MismosHeaders a b ∧ Pares (·.header) a b fun f g => comparaEstricto f g = true := by
  rw [matchStdStrict]
  split
  · rename_i h0
    have hfa := ha.length_eq_zero.mp h0.1
    have hfb := hb.length_eq_zero.mp h0.2
    simp [MismosHeaders, Pares, hfa, hfb]
  split
  · rename_i hne
    refine ⟨fun h => absurd h (by simp), fun h => absurd (h.1.length ha hb) hne⟩
  rename_i hlen
  rw [all_eq_true]
  refine (forall₂_congr fun f _ => hb.busca_iff).trans ?_
  constructor
  · intro h
    refine ⟨mismosHeaders_of_length ha hb (not_not.mp hlen) fun f hf => ?_, fun f hf g hg he => ?_⟩
    · obtain ⟨g, hg, hh, _⟩ := h f hf
      exact ⟨g, hg, hh⟩
    · obtain ⟨g', hg', hh, hc⟩ := h f hf
      rw [inj_on_of_nodup_map hb.nodup hg hg' (he.symm.trans hh.symm)]
      exact hc
  · intro ⟨hh, hp⟩ f hf
    obtain ⟨g, hg, he⟩ := mem_map.mp ((hh f.header).mp (mem_map_of_mem hf))
    exact ⟨g, hg, he, hp f hf g hg he.symm⟩

/-- **What tells two fields apart**: a number of theirs over which the masks are equal and the
    values differ under them. -/
def Distingue (f g : MatchTlv) : Prop :=
  ∃ w ∈ palabras (anchoOxm f.header),
    (∀ k < w.2, mascara (anchoOxm f.header) f (w.1 + k) =
      mascara (anchoOxm f.header) g (w.1 + k)) ∧
    ∃ k < w.2, mascara (anchoOxm f.header) f (w.1 + k) &&&
      (f.mem (w.1 + k) ^^^ g.mem (w.1 + k)) ≠ 0

theorem not_distingue_iff : ¬ Distingue f g ↔ ∀ w ∈ palabras (anchoOxm f.header),
    (∀ k < w.2, mascara (anchoOxm f.header) f (w.1 + k) =
      mascara (anchoOxm f.header) g (w.1 + k)) →
    ∀ k < w.2, mascara (anchoOxm f.header) f (w.1 + k) &&&
      (f.mem (w.1 + k) ^^^ g.mem (w.1 + k)) = 0 := by
  unfold Distingue
  push Not
  exact Iff.rfl

theorem Distingue.symm (he : f.header = g.header) (h : Distingue f g) : Distingue g f := by
  obtain ⟨w, hw, hm, k, hk, hne⟩ := h
  rw [he] at hw hm hne
  refine ⟨w, hw, fun k hk => (hm k hk).symm, k, hk, ?_⟩
  rwa [UInt8.xor_comm, ← hm k hk]

/-- Two fields of one header pass as identical unless they are told apart. -/
theorem comparaEstricto_iff (hf : Conservado f i) (he : f.header = g.header) :
    comparaEstricto f g = true ↔ ¬ Distingue f g := by
  have hn : anchoOxm f.header ∈ anchosOxm := hf.ancho ▸ i.ancho_mem
  rw [not_distingue_iff, comparaEstricto]
  unfold mascara
  rw [← he]
  split
  · rw [strictMaskAncho_iff hn]
    refine forall₂_congr fun w _ => imp_congr_right fun _ => forall₂_congr fun k _ => ?_
    rw [UInt8.and_comm]
  · rw [matchAncho_iff hn, ← palabras_iff hn]
    refine forall₂_congr fun w _ => ?_
    rw [imp_iff_right fun k _ => rfl]
    exact forall₂_congr fun k _ => ones_and_eq_zero.symm

theorem MismaMascara.not_distingue_iff (hf : Conservado f i) (hm : MismaMascara f g) :
    ¬ Distingue f g ↔ MismoValor f g := by
  have hn : anchoOxm f.header ∈ anchosOxm := hf.ancho ▸ i.ancho_mem
  have hw := (palabras_iff hn).mpr hm
  rw [Udatapath.not_distingue_iff, MismoValor, ← palabras_iff hn]
  exact forall₂_congr fun w hwmem => imp_iff_right (hw w hwmem)

/-- Some field of `a` is told apart from the one of its header in `b`. -/
def Distinguidos (a b : OxmMatch) : Prop :=
  ∃ f ∈ a.fields, ∃ g ∈ b.fields, f.header = g.header ∧ Distingue f g

theorem not_distinguidos_iff (ha : Buena a) : ¬ Distinguidos a b ↔
    Pares (·.header) a b fun f g => comparaEstricto f g = true := by
  unfold Distinguidos
  push Not
  refine forall₂_congr fun f hf => forall₂_congr fun g _ => forall_congr' fun he => ?_
  obtain ⟨i, hi⟩ := ha.cada f hf
  exact (comparaEstricto_iff hi he).symm

theorem Distinguidos.symm (h : Distinguidos a b) : Distinguidos b a := by
  obtain ⟨f, hf, g, hg, he, hd⟩ := h
  exact ⟨g, hg, f, hf, he.symm, hd.symm he⟩

/-- Identical matches are those of the same headers and masks of which nothing is told apart. -/
theorem identicos_iff (ha : Buena a) : Identicos a b ↔
    MismosHeaders a b ∧ ¬ Distinguidos a b ∧ Pares (·.header) a b MismaMascara := by
  have hval : Pares (·.header) a b MismaMascara →
      (¬ Distinguidos a b ↔ Pares (·.header) a b MismoValor) := by
    intro hm
    rw [not_distinguidos_iff ha]
    refine Pares.congr fun f hf g hg he => ?_
    obtain ⟨i, hi⟩ := ha.cada f hf
    exact (comparaEstricto_iff hi he).trans ((hm f hf g hg he).not_distingue_iff hi)
  exact ⟨fun h => ⟨h.headers, (hval h.mascaras).mpr h.valores, h.mascaras⟩,
    fun ⟨hh, hd, hm⟩ => ⟨hh, hm, (hval hm).mp hd⟩⟩

/-- **`match_std_strict`** is symmetric and true of identical matches. It is what it is for exactly
    if the headers differ, or two fields are told apart, or no masks differ. -/
theorem strict_identical_iff (ha : Leida host a) (hb : Leida host b) (hpa : ¬ ConPhy a)
    (hpb : ¬ ConPhy b) :
    matchStdStrict a b = matchStdStrict b a ∧
    (Identicos a b → matchStdStrict a b = true) ∧
    ((matchStdStrict a b = true ↔ Identicos a b) ↔
      ¬ MismosHeaders a b ∨ Distinguidos a b ∨ Pares (·.header) a b MismaMascara) := by
  have ha := ha.buena hpa
  have hb := hb.buena hpb
  have hab : matchStdStrict a b = true ↔ MismosHeaders a b ∧ ¬ Distinguidos a b := by
    rw [matchStdStrict_iff ha hb, not_distinguidos_iff ha]
  have hba : matchStdStrict b a = true ↔ MismosHeaders b a ∧ ¬ Distinguidos b a := by
    rw [matchStdStrict_iff hb ha, not_distinguidos_iff hb]
  refine ⟨?_, ?_, ?_⟩
  · rw [Bool.eq_iff_iff, hab, hba]
    exact and_congr ⟨fun h k => (h k).symm, fun h k => (h k).symm⟩
      (not_congr ⟨.symm, .symm⟩)
  · rw [identicos_iff ha, hab]
    exact fun h => ⟨h.1, h.2.1⟩
  · rw [identicos_iff ha, hab]
    tauto

theorem strict_identical_orders :
    Identicos
      ⟨24, [⟨OxmFieldIndex.inPort.header, [1, 0, 0, 0]⟩,
        ⟨OxmFieldIndex.ethDstW.header, [2, 0, 0, 0, 0, 0, 255, 0, 0, 0, 0, 0]⟩]⟩
      ⟨24, [⟨OxmFieldIndex.ethDstW.header, [2, 0, 0, 0, 0, 0, 255, 0, 0, 0, 0, 0]⟩,
        ⟨OxmFieldIndex.inPort.header, [1, 0, 0, 0]⟩]⟩ := by
  refine ((strict_identical_iff
    (leida_little [(ethDstW.header, [2, 0, 0, 0, 0, 0, 255, 0, 0, 0, 0, 0]),
      (inPort.header, [0, 0, 0, 1])] (by decide +kernel))
    (leida_little [(inPort.header, [0, 0, 0, 1]),
      (ethDstW.header, [2, 0, 0, 0, 0, 0, 255, 0, 0, 0, 0, 0])] (by decide +kernel))
    ?_ ?_).2.2.mpr (.inr (.inr ?_))).mp (by decide)
  · unfold ConPhy
    decide
  · unfold ConPhy
    decide
  · unfold Pares MismaMascara
    decide

/-- **What `match_std_strict` takes for identical.** Two destinations that no packet has in common,
    with different masks. And a match with `OXM_OF_IN_PHY_PORT` is not identical to itself. -/
theorem strict_identical_fails :
    (∃ a b, Leida .little a ∧ Leida .little b ∧ matchStdStrict a b = true ∧ ¬ Identicos a b ∧
      ¬ Pares (·.header) a b MismaMascara ∧ ¬ Pares (·.header) a b MismoValor) ∧
    (∃ m, Leida .little m ∧ matchStdStrict m m = false) := by
  let x : Bytes := [2, 0, 0, 0, 0, 0, 255, 0, 0, 0, 0, 0]
  let y : Bytes := [4, 0, 0, 0, 0, 0, 15, 0, 0, 0, 0, 0]
  have hm : ¬ Pares (·.header) (unCampo .ethDstW x) (unCampo .ethDstW y) MismaMascara := by
    unfold Pares MismaMascara
    decide
  have hv : ¬ Pares (·.header) (unCampo .ethDstW x) (unCampo .ethDstW y) MismoValor := by
    unfold Pares MismoValor
    decide
  refine ⟨⟨_, _, leida_little [(ethDstW.header, x)] (by decide +kernel),
      leida_little [(ethDstW.header, y)] (by decide +kernel), by decide +kernel,
      fun h => hm h.mascaras, hm, hv⟩, ?_⟩
  refine ⟨⟨28, [⟨inPhyPort.header, [0, 0, 0, 0, 2, 0, 0, 0]⟩,
    ⟨inPhyPort.header, [2, 0, 0, 0]⟩, ⟨inPort.header, [1, 0, 0, 0]⟩]⟩,
    leida_little [(inPort.header, [0, 0, 0, 1]),
      (inPhyPort.header, [0, 0, 0, 2])] (by decide +kernel), by decide +kernel⟩

/-! ## 3. `match_std_nonstrict` -/

/-- **What `match_std_nonstrict` is for.** Each field of `a` is in `b`, with a mask that has all of
    its own, and values that agree under it. -/
def Subsume (a b : OxmMatch) : Prop :=
  ∀ f ∈ a.fields, ∃ g ∈ b.fields, campoOxm f = campoOxm g ∧ (patron f).Covers (patron g)

/-- The mask of `g` is inside that of `f`. Values are equal where there are no masks. -/
def Ensancha (f g : MatchTlv) : Prop :=
  ∀ k < anchoOxm f.header,
    mascara (anchoOxm f.header) g k &&& ~~~mascara (anchoOxm f.header) f k = 0 ∧
      (oxmHasmask f.header = false → f.mem k = g.mem k)

theorem nonstrict_formula {x y xm ym : UInt8} (hx : xm &&& x = x) (hy : ym &&& y = y) :
    ~~~xm &&& (~~~x ||| ~~~y ||| ym) &&& (x ||| y ||| ym) = 0 ↔ ym &&& ~~~xm = 0 := by
  rw [eq_zero_iff_bit, eq_zero_iff_bit]
  refine forall_congr' fun j => ?_
  have hxj := eq_iff_bit.mp hx j
  have hyj := eq_iff_bit.mp hy j
  simp only [bit_and, bit_or, bit_not] at hxj hyj ⊢
  by_cases hj : j < 8
  · revert hxj hyj
    cases bit x j <;> cases bit y j <;> cases bit xm j <;> cases bit ym j <;> simp [hj]
  · simp [hj]

theorem eq_of_and_not {x y : UInt8} (h : x &&& ~~~y = 0) (h' : y &&& ~~~x = 0) : x = y := by
  rw [eq_iff_bit]
  intro j
  have hj := eq_zero_iff_bit.mp h j
  have hj' := eq_zero_iff_bit.mp h' j
  simp only [bit_and, bit_not] at hj hj'
  by_cases hlt : j < 8
  · revert hj hj'
    cases bit x j <;> cases bit y j <;> simp [hlt]
  · rw [bit_of_le (Nat.le_of_not_lt hlt), bit_of_le (Nat.le_of_not_lt hlt)]

theorem Conservado.ne_exthdr (h : Conservado t i)
    (hc : Udatapath.campoOxm t ≠ ipv6Exthdr.header) : i ≠ .ipv6ExthdrW := by
  rintro rfl
  exact hc h.campoOxm

theorem comparaNoEstricto_iff (hf : Conservado f i) (hg : Conservado g i)
    (hext : i ≠ .ipv6ExthdrW) : comparaNoEstricto f g = true ↔ Ensancha f g := by
  have hn : anchoOxm f.header ∈ anchosOxm := hf.ancho ▸ i.ancho_mem
  have hfg : f.header = g.header := hf.header.trans hg.header.symm
  have hxm := fun k hk => hf.mascara_and hext (k := k) hk
  have hym := fun k hk => hg.mascara_and hext (k := k) hk
  rw [comparaNoEstricto]
  unfold Ensancha
  unfold mascara at *
  rw [← hfg] at hym ⊢
  split
  · rename_i hm
    simp only [hm, if_true] at hxm hym ⊢
    rw [nonstrictMaskAncho_iff hn]
    refine forall₂_congr fun k hk => ?_
    rw [nonstrict_formula (hxm k hk) (hym k hk)]
    simp
  · rename_i hm
    rw [matchAncho_iff hn]
    refine forall₂_congr fun k _ => ?_
    simp only [allMask, hm, true_imp_iff]
    exact (and_iff_right (by decide)).symm

/-- **What `match_std_nonstrict` computes.** -/
theorem matchStdNonstrict_iff (ha : Buena a) (hb : Buena b) (hs : SinEspeciales a) :
    matchStdNonstrict a b = true ↔
      ∀ f ∈ a.fields, ∃ g ∈ b.fields, g.header = f.header ∧ Ensancha f g := by
  rw [matchStdNonstrict]
  split
  · rename_i h0
    simp [ha.length_eq_zero.mp h0]
  rw [all_eq_true]
  refine forall₂_congr fun f hf => hb.busca_iff.trans ?_
  refine exists_congr fun g => and_congr_right fun hg => and_congr_right fun he => ?_
  obtain ⟨i, hi⟩ := ha.cada f hf
  obtain ⟨j, hj⟩ := hb.cada g hg
  obtain rfl : j = i := header_injective (by rw [← hi.header, ← hj.header, he])
  exact comparaNoEstricto_iff hi hj (hi.ne_exthdr (hs f hf).2)

theorem Subsume.packetMatch (h : Subsume a b) (ha : Buena a) (hb : Buena b)
    (hsa : SinEspeciales a) (hsb : SinEspeciales b) (p : OxmMatch)
    (hp : packetMatch host b p = true) : packetMatch host a p = true := by
  rw [packetMatch_iff hb hsb] at hp
  refine (packetMatch_iff ha hsa).mpr fun f hf => ?_
  obtain ⟨g, hg, hc, hcov⟩ := h f hf
  obtain ⟨q, hq, hacc⟩ := hp g hg
  exact ⟨q, hc ▸ hq, Ternary.covers_iff.mp hcov _ hacc⟩

/-- `f` stands in `b`: same header, mask and value. -/
def EstaEn (f : MatchTlv) (b : OxmMatch) : Prop :=
  ∃ g ∈ b.fields, g.header = f.header ∧ MismaMascara f g ∧ MismoValor f g

/-- `b` has the header of `f` with a mask inside its own, and the same value if it has none. -/
def Ensanchado (f : MatchTlv) (b : OxmMatch) : Prop :=
  ∃ g ∈ b.fields, g.header = f.header ∧ Ensancha f g

/-- `b` has the field of `f` without a mask, with a value that `f` covers. -/
def ExactoDentro (f : MatchTlv) (b : OxmMatch) : Prop :=
  ∃ g ∈ b.fields, campoOxm g = campoOxm f ∧ oxmHasmask g.header = false ∧ MismoValor f g

/-- `f` covers a field of `b`. -/
def Cubre (f : MatchTlv) (b : OxmMatch) : Prop :=
  ∃ g ∈ b.fields, campoOxm f = campoOxm g ∧ (patron f).Covers (patron g)

theorem EstaEn.ensanchado (h : EstaEn f b) : Ensanchado f b := by
  obtain ⟨g, hg, he, hm, hv⟩ := h
  refine ⟨g, hg, he, fun k hk => ⟨?_, fun hexacto => ?_⟩⟩
  · rw [← hm k hk]
    exact UInt8.and_not_self
  · have hvk := hv k hk
    rw [mascara_exacta hexacto] at hvk
    exact ones_and_eq_zero.mp hvk

theorem EstaEn.cubre (h : EstaEn f b) : Cubre f b := by
  obtain ⟨g, hg, he, hm, hv⟩ := h
  refine ⟨g, hg, congrArg headerExacto he.symm, (covers_patron (by rw [he])).mpr fun k hk => ?_⟩
  refine ⟨?_, hv k hk⟩
  rw [← hm k hk]
  exact UInt8.and_not_self

theorem ExactoDentro.cubre (hf : Conservado f i) (hb : Buena b) (h : ExactoDentro f b) :
    Cubre f b := by
  obtain ⟨g, hg, hc, hexacto, hv⟩ := h
  obtain ⟨j, hj⟩ := hb.cada g hg
  refine ⟨g, hg, hc.symm, (covers_patron (campoOxm_ancho hf hj hc.symm)).mpr fun k hk => ?_⟩
  refine ⟨?_, hv k hk⟩
  have hno : ~~~allMask k = 0 := by
    rw [allMask]
    decide
  rw [mascara_exacta hexacto, hno]
  exact UInt8.and_zero

/-- **Where one field passes rightly**: it stands in `b`, or `b` has it without a mask too. -/
theorem ensanchado_and_cubre_iff (hf : Conservado f i) (hb : Buena b) :
    Ensanchado f b ∧ Cubre f b ↔ EstaEn f b ∨ (Ensanchado f b ∧ ExactoDentro f b) := by
  constructor
  · rintro ⟨⟨g, hg, he, hens⟩, g', hg', hc, hcov⟩
    obtain ⟨j, hj⟩ := hb.cada g' hg'
    have hcov := (covers_patron (campoOxm_ancho hf hj hc)).mp hcov
    cases hmf : oxmHasmask f.header with
    | false =>
      have hmg : oxmHasmask g.header = false := by rw [he, hmf]
      refine .inl ⟨g, hg, he, fun k _ => ?_, fun k hk => ?_⟩
      · rw [mascara_exacta hmf, mascara_exacta hmg]
      · rw [mascara_exacta hmf]
        exact ones_and_eq_zero.mpr ((hens k hk).2 hmf)
    | true =>
      cases hmg : oxmHasmask g'.header with
      | false =>
        exact .inr ⟨⟨g, hg, he, hens⟩, g', hg', hc.symm, hmg, fun k hk => (hcov k hk).2⟩
      | true =>
        have he' : f.header = g'.header := (header_eq_iff hf hj).mpr ⟨hc, hmf.trans hmg.symm⟩
        obtain rfl : g' = g := inj_on_of_nodup_map hb.nodup hg' hg (he'.symm.trans he.symm)
        refine .inl ⟨g', hg, he, fun k hk => ?_, fun k hk => (hcov k hk).2⟩
        exact eq_of_and_not (hcov k hk).1 (hens k hk).1
  · rintro (h | ⟨hens, h⟩)
    · exact ⟨h.ensanchado, h.cubre⟩
    · exact ⟨hens, h.cubre hf hb⟩

/-- A value of the right width for each field. -/
def Asignacion (x : OxmFieldIndex → Bytes) : Prop := ∀ i, (x i).length = i.ancho

/-- The packet with these values, as `packet_match` sees it. -/
def paquete (x : OxmFieldIndex → Bytes) : OxmMatch :=
  let fields := (OxmFieldIndex.todos.filter fun i => !i.conMascara).map fun i => ⟨i.header, x i⟩
  ⟨(fields.map fun t => t.value.length + 4).sum, fields⟩

/-- The field of `b` that `f` is compared with: of two of one number, the one without a mask. -/
def Comparado (f g : MatchTlv) (b : OxmMatch) : Prop :=
  g ∈ b.fields ∧ campoOxm g = campoOxm f ∧ (oxmHasmask g.header = true →
    ∀ g' ∈ b.fields, campoOxm g' = campoOxm f → oxmHasmask g'.header = true)

/-- Two values that differ, but for those of 3 bytes. -/
def Choca (f g : MatchTlv) : Prop :=
  anchoOxm f.header ≠ 3 ∧ ∃ k < anchoOxm f.header, f.mem k ≠ g.mem k

/-- Some field of `a` differs from the one of `b` that it is compared with. -/
def Chocan (a b : OxmMatch) : Prop :=
  ∃ f ∈ a.fields, ∃ g, Comparado f g b ∧ Choca f g

/-- Any two fields of one number agree on the bits that both masks have. -/
def Acordes (a b : OxmMatch) : Prop :=
  ∀ f ∈ a.fields ++ b.fields, ∀ g ∈ a.fields ++ b.fields, campoOxm f = campoOxm g →
    (patron f).Compatible (patron g)

theorem lookup_paquete (x : OxmFieldIndex → Bytes) (hi : i.conMascara = false) :
    oxmMatchLookup i.header (paquete x) = some ⟨i.header, x i⟩ := by
  have hmem : (⟨i.header, x i⟩ : MatchTlv) ∈ (paquete x).fields :=
    mem_map.mpr ⟨i, mem_filter.mpr ⟨i.mem_todos, by simp [hi]⟩, rfl⟩
  rw [oxmMatchLookup_eq]
  cases hl : (paquete x).fields.find? (·.header == i.header) with
  | none =>
    have hno := find?_eq_none.mp hl _ hmem
    simp at hno
  | some q =>
    obtain ⟨j, -, rfl⟩ := mem_map.mp (mem_of_find?_eq_some hl)
    have hh := find?_some hl
    rw [header_injective (eq_of_beq hh)]

theorem packetMatch_paquete (hm : Buena m) (hs : SinEspeciales m) (x : OxmFieldIndex → Bytes) :
    packetMatch host m (paquete x) = true ↔ ∀ t ∈ m.fields, ∀ i, Conservado t i →
      (patron t).Accepts (bits (byteAt (x i.exacto))) := by
  rw [packetMatch_iff hm hs]
  refine forall₂_congr fun t ht => ?_
  have hlookup : ∀ i, Conservado t i →
      oxmMatchLookup (campoOxm t) (paquete x) = some ⟨i.exacto.header, x i.exacto⟩ := by
    intro i hi
    rw [hi.campoOxm, lookup_paquete x i.exacto_conMascara]
  constructor
  · intro ⟨q, hq, hacc⟩ i hi
    rw [hlookup i hi] at hq
    cases hq
    exact hacc
  · intro h
    obtain ⟨i, hi⟩ := hm.cada t ht
    exact ⟨_, hlookup i hi, h i hi⟩

/-- Values and masks that `ts` have for a field. -/
def pedido (ts : List MatchTlv) (header : UInt32) : List (Memoria × Memoria) :=
  (ts.filter fun t => campoOxm t == header).map fun t => (t.mem, mascara (anchoOxm t.header) t)

theorem mem_pedido {p : Memoria × Memoria} :
    p ∈ pedido ts header ↔
      ∃ t ∈ ts, campoOxm t = header ∧ (t.mem, mascara (anchoOxm t.header) t) = p := by
  simp [pedido, and_assoc]

/-- The value that has, bit by bit, what some of `ts` asks for. -/
def juntos (ts : List MatchTlv) (i : OxmFieldIndex) : Bytes :=
  lee (Ternary.joinBytes (pedido ts i.header)) i.ancho

theorem asignacion_juntos (ts : List MatchTlv) : Asignacion (juntos ts) := by
  intro i
  simp [juntos, lee]

theorem accepts_juntos (hts : ∀ t ∈ ts, ∃ i, Conservado t i)
    (h : ∀ f ∈ ts, ∀ g ∈ ts, campoOxm f = campoOxm g → (patron f).Compatible (patron g))
    (ht : t ∈ ts) (hi : Conservado t i) :
    (patron t).Accepts (bits (byteAt (juntos ts i.exacto))) := by
  have hancho : ∀ f ∈ ts, campoOxm f = i.exacto.header → anchoOxm f.header = i.ancho := by
    intro f hf hc
    obtain ⟨j, hj⟩ := hts f hf
    rw [campoOxm_ancho hj hi (hc.trans hi.campoOxm.symm), hi.ancho]
  have hcom : ∀ p ∈ pedido ts i.exacto.header, ∀ q ∈ pedido ts i.exacto.header,
      (Ternary.ofBytes i.ancho p.1 p.2).Compatible (.ofBytes i.ancho q.1 q.2) := by
    intro p hp q hq
    obtain ⟨f, hf, hfc, rfl⟩ := mem_pedido.mp hp
    obtain ⟨g, hg, hgc, rfl⟩ := mem_pedido.mp hq
    have hfg := h f hf g hg (hfc.trans hgc.symm)
    rw [patron, patron, hancho f hf hfc, hancho g hg hgc] at hfg
    rw [hancho f hf hfc, hancho g hg hgc]
    exact hfg
  have hjoin := Ternary.accepts_joinBytes hcom (mem_pedido.mpr ⟨t, ht, hi.campoOxm, rfl⟩)
  rw [patron, hi.ancho, Ternary.accepts_ofBytes]
  rw [hi.ancho, Ternary.accepts_ofBytes] at hjoin
  intro k hk
  rw [juntos, byteAt_lee _ (by rwa [i.exacto_ancho])]
  exact hjoin k hk

/-- **TLVs accept values in common** exactly if any two of one field are compatible. -/
theorem exists_asignacion_iff (hts : ∀ t ∈ ts, ∃ i, Conservado t i) :
    (∃ x, Asignacion x ∧ ∀ t ∈ ts, ∀ i, Conservado t i →
      (patron t).Accepts (bits (byteAt (x i.exacto)))) ↔
    ∀ f ∈ ts, ∀ g ∈ ts, campoOxm f = campoOxm g → (patron f).Compatible (patron g) := by
  constructor
  · intro ⟨x, _, hx⟩ f hf g hg hc
    obtain ⟨i, hi⟩ := hts f hf
    obtain ⟨j, hj⟩ := hts g hg
    have hij := (campoOxm_eq_iff hi hj).mp hc
    have hcomun : ∀ p ∈ [patron f, patron g], p.Accepts (bits (byteAt (x i.exacto))) := by
      intro p hp
      rcases mem_pair.mp hp with rfl | rfl
      · exact hx f hf i hi
      · rw [hij]
        exact hx g hg j hj
    exact Ternary.exists_accepts_iff.mp ⟨_, hcomun⟩ _ (by simp) _ (by simp)
  · intro h
    exact ⟨juntos ts, asignacion_juntos ts, fun t ht i hi => accepts_juntos hts h ht hi⟩

theorem incompatible_iff (hf : Conservado f i) (hg : Conservado g j) (hc : campoOxm f = campoOxm g)
    (hi : i ≠ .ipv6ExthdrW) (hj : j ≠ .ipv6ExthdrW) :
    (!incompatibleAncho (anchoOxm f.header) f.mem g.mem (mascara (anchoOxm f.header) f)
      (mascara (anchoOxm f.header) g)) = true ↔ ¬ Choca f g := by
  have hn : anchoOxm f.header ∈ anchosOxm := hf.ancho ▸ i.ancho_mem
  rw [Bool.not_eq_true', incompatibleAncho_iff hn, Choca, not_and_or, not_not]
  push Not
  refine or_congr_right (forall₂_congr fun k hk => ?_)
  rw [hf.mascara_and hi hk]
  rw [campoOxm_ancho hf hg hc] at hk ⊢
  rw [hg.mascara_and hj hk]

theorem buscaAmbos_eq_some_iff (hb : Buena b) (hf : Conservado f i) :
    buscaAmbos f.header b = some g ↔ Comparado f g b := by
  have hida : ∀ g, buscaAmbos f.header b = some g → Comparado f g b := by
    intro g h
    obtain ⟨hg, hc⟩ := buscaAmbos_some hb hf h
    refine ⟨hg, hc, fun hmask g' hg' hc' => ?_⟩
    rcases Option.or_eq_some_iff.mp h with h | ⟨hno, -⟩
    · obtain ⟨j, hj⟩ := hb.cada g hg
      have hh := (hb.lookup.mp h).2
      rw [hf.header, headerExacto_header] at hh
      rw [hh, oxmHasmask_header, exacto_conMascara] at hmask
      cases hmask
    · cases hm' : oxmHasmask g'.header with
      | true => rfl
      | false =>
        have hh : g'.header = headerExacto f.header := by
          rw [← show campoOxm f = headerExacto f.header from rfl, ← hc', campoOxm, headerExacto,
            hm']
          rfl
        exact absurd hh (hb.lookup_none hno g' hg')
  refine ⟨hida g, fun hg => ?_⟩
  obtain ⟨g', hg'⟩ := exists_buscaAmbos hb hf hg.1 hg.2.1
  obtain ⟨hmem', hc', hmask'⟩ := hida g' hg'
  obtain ⟨hmem, hc, hmask⟩ := hg
  obtain ⟨i, hi⟩ := hb.cada g hmem
  obtain ⟨j, hj⟩ := hb.cada g' hmem'
  have hm : oxmHasmask g'.header = oxmHasmask g.header := by
    rw [Bool.eq_iff_iff]
    exact ⟨fun h => hmask' h g hmem hc, fun h => hmask h g' hmem' hc'⟩
  have he : g'.header = g.header := (header_eq_iff hj hi).mpr ⟨hc'.trans hc.symm, hm⟩
  rw [hg', inj_on_of_nodup_map hb.nodup hmem' hmem he]

/-- **What `match_std_overlap` computes.** -/
theorem matchStdOverlap_iff (ha : Buena a) (hb : Buena b) (hsa : SinEspeciales a)
    (hsb : SinEspeciales b) : matchStdOverlap a b = true ↔ ¬ Chocan a b := by
  unfold Chocan
  push Not
  rw [matchStdOverlap, all_eq_true]
  refine forall₂_congr fun f hf => ?_
  obtain ⟨i, hi⟩ := ha.cada f hf
  simp only [← buscaAmbos_eq_some_iff hb hi]
  cases hl : buscaAmbos f.header b with
  | none =>
    refine iff_of_true rfl fun g hg => ?_
    cases hg
  | some g =>
    obtain ⟨hg, hc, _⟩ := (buscaAmbos_eq_some_iff hb hi).mp hl
    obtain ⟨j, hj⟩ := hb.cada g hg
    have hpar := incompatible_iff hi hj hc.symm (hi.ne_exthdr (hsa f hf).2)
      (hj.ne_exthdr (hsb g hg).2)
    refine hpar.trans ⟨fun h g' hg' => ?_, fun h => h g rfl⟩
    rwa [← Option.some.inj hg']

/-- **What `match_std_overlap` is for.** Some packet is accepted for both. -/
def Comparten (host : Host) (a b : OxmMatch) : Prop :=
  ∃ x, Asignacion x ∧ packetMatch host a (paquete x) = true ∧ packetMatch host b (paquete x) = true

theorem comparten_iff (ha : Buena a) (hb : Buena b) (hsa : SinEspeciales a)
    (hsb : SinEspeciales b) : Comparten host a b ↔ Acordes a b := by
  rw [Acordes, ← exists_asignacion_iff]
  · refine exists_congr fun x => and_congr_right fun _ => ?_
    rw [packetMatch_paquete ha hsa, packetMatch_paquete hb hsb]
    simp only [mem_append, or_imp, forall_and]
  · intro t ht
    rcases mem_append.mp ht with ht | ht
    · exact ha.cada t ht
    · exact hb.cada t ht

end TcpPath.Udatapath
