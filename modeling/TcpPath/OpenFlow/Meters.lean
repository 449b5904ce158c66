/-
  Subject:   Packets through a meter (`consume_tokens`, `choose_band`, `meter_entry_apply` and
             `refill_bucket` of meter_entry.c).

  * Rates and burst sizes are `uint32_t`, and so are they times 1000; tokens and times are
    `uint64_t`.

  Results:   `meter_mod_parsing`: the bands of an accepted message are written as they are on the
             wire, and copied by `meter_entry_create`, exactly if their types are known and they are
             long enough for them.
             `token_bucket_bound`: in a time `T` no more passes than the depth of the bucket and
             what was filled in meanwhile.
-/
import TcpPath.OpenFlow.Counters
import TcpPath.Util.TokenBucket

namespace TcpPath.Udatapath

open Util

variable {P : Type}

/-! ## 1. Code -/

/-- The type of a `struct ofl_meter_band_header`, with what follows it. -/
inductive TipoBanda where
  | drop
  | dscpRemark (precLevel : Nat)
  | experimenter (experimenter : Nat)
  deriving DecidableEq, Repr

/-- A band as `meter_entry_create` copies it. -/
structure Banda where
  type : TipoBanda
  rate : UInt32
  burstSize : UInt32
  deriving DecidableEq, Repr

/-- The copy; a band that was not written can not be copied. -/
def MeterBand.copia : MeterBand → Option Banda
  | .drop rate burstSize => some ⟨.drop, rate.toUInt32, burstSize.toUInt32⟩
  | .dscpRemark rate burstSize precLevel =>
    some ⟨.dscpRemark precLevel, rate.toUInt32, burstSize.toUInt32⟩
  | .experimenter rate burstSize exp =>
    some ⟨.experimenter exp, rate.toUInt32, burstSize.toUInt32⟩
  | .sinEscribir => none

/-- `struct ofl_meter_band_stats`. -/
structure BandStats where
  byteBandCount : UInt64
  packetBandCount : UInt64
  lastFill : UInt64
  tokens : UInt64
  deriving DecidableEq, Repr

/-- `struct meter_entry`: `config->flags`, the counters of `stats`, and each of `config->bands` with
    its `stats->band_stats`. -/
structure MeterEntry where
  flags : Nat
  byteInCount : UInt64
  packetInCount : UInt64
  bands : List (Banda × BandStats)
  deriving DecidableEq, Repr

namespace MeterEntry

/-- `flags & OFPMF_KBPS`. -/
def kbps (flags : Nat) : Bool := flags.testBit 0

/-- `flags & OFPMF_PKTPS`. -/
def pktps (flags : Nat) : Bool := flags.testBit 1

/-- `flags & OFPMF_BURST`. -/
def burst (flags : Nat) : Bool := flags.testBit 2

/-- `meter_entry_create` at time `now`. -/
def create (flags : Nat) (bands : List MeterBand) (now : UInt64) : Option MeterEntry := do
  let bands ← bands.mapM MeterBand.copia
  return ⟨flags, 0, 0, bands.map (·, ⟨0, 0, now, 0⟩)⟩

/-- `consume_tokens`, for a packet of `size` bytes. -/
def consumeTokens (flags size : Nat) (band : BandStats) : BandStats × Bool :=
  if kbps flags then
    let pktSize := (size * 8).toUInt32
    if pktSize.toUInt64 ≤ band.tokens then
      ({ band with tokens := band.tokens - pktSize.toUInt64 }, true)
    else (band, false)
  else if pktps flags then
    if 1000 ≤ band.tokens then ({ band with tokens := band.tokens - 1000 }, true)
    else (band, false)
  else (band, false)

/-- The loop of `choose_band` from band `i` on, with `band_index` and `tmp_rate` so far. Every band
    loses tokens. -/
def chooseBandFrom (flags size : Nat) : Nat → Option Nat → UInt32 → List (Banda × BandStats) →
    List (Banda × BandStats) × Option Nat
  | _, bandIndex, _, [] => ([], bandIndex)
  | i, bandIndex, tmpRate, (band, stats) :: bands =>
    let c := consumeTokens flags size stats
    let r :=
      if c.2 = false ∧ tmpRate < band.rate then
        chooseBandFrom flags size (i + 1) (some i) band.rate bands
      else chooseBandFrom flags size (i + 1) bandIndex tmpRate bands
    ((band, c.1) :: r.1, r.2)

/-- `choose_band`. -/
def chooseBand (entry : MeterEntry) (size : Nat) : List (Banda × BandStats) × Option Nat :=
  chooseBandFrom entry.flags size 0 none 0 entry.bands

/-- `meter_entry_apply`. `remarca` is what an `OFPMBT_DSCP_REMARK` band does to the packet; the
    packet is gone if `none` is left of it. -/
def meterEntryApply (size : P → Nat) (remarca : Nat → P → P) (entry : MeterEntry) (pkt : P) :
    MeterEntry × Option P :=
  let r := entry.chooseBand (size pkt)
  let entry : MeterEntry :=
    { entry with
      packetInCount := entry.packetInCount + 1
      byteInCount := entry.byteInCount + (size pkt).toUInt64
      bands := r.1 }
  match r.2 with
  | none => (entry, some pkt)
  | some b =>
    let entry : MeterEntry :=
      { entry with
        bands := entry.bands.modify b fun x =>
          (x.1, { x.2 with
            byteBandCount := x.2.byteBandCount + (size pkt).toUInt64
            packetBandCount := x.2.packetBandCount + 1 }) }
    match (entry.bands[b]?.map fun x => x.1.type : Option TipoBanda) with
    | some .drop => (entry, none)
    | some (.dscpRemark precLevel) => (entry, some (remarca precLevel pkt))
    | _ => (entry, some pkt)

/-- The round of `refill_bucket` for one band. -/
def refillBand (flags : Nat) (now : UInt64) (x : Banda × BandStats) : Banda × BandStats :=
  let rate := x.1.rate * 1000
  let burstSize := x.1.burstSize * 1000
  let tokens := (now - x.2.lastFill) * rate.toUInt64 + x.2.tokens
  let tope := if burst flags then burstSize else rate
  (x.1, { x.2 with
    lastFill := now
    tokens :=
      if (kbps flags ∧ 1 ≤ tokens) ∨ 1000 ≤ tokens then min tokens tope.toUInt64
      else x.2.tokens })

/-- `refill_bucket` at time `now`. -/
def refillBucket (now : UInt64) (entry : MeterEntry) : MeterEntry :=
  { entry with bands := entry.bands.map (refillBand entry.flags now) }

end MeterEntry

/-! ## 2. From the message to the meter -/

section Mensaje

open Lectura

/-- The band that the bytes `d` of a band say. -/
def MeterBand.De (d : Bytes) : MeterBand → Prop
  | .drop rate burstSize =>
    campo d 0 2 = pure 1 ∧ campo d 4 4 = pure rate ∧ campo d 8 4 = pure burstSize
  | .dscpRemark rate burstSize precLevel =>
    campo d 0 2 = pure 2 ∧ campo d 4 4 = pure rate ∧ campo d 8 4 = pure burstSize ∧
      campo d 12 1 = pure precLevel
  | .experimenter rate burstSize exp =>
    campo d 0 2 = pure 0xffff ∧ campo d 4 4 = pure rate ∧ campo d 8 4 = pure burstSize ∧
      campo d 12 4 = pure exp
  | .sinEscribir => False

/-- The bands that lie in `d`, one behind the other, until less than a header is left. -/
inductive Bandas : Bytes → List MeterBand → Prop
  | fin {d : Bytes} (h : d.length < 12) : Bandas d []
  | sigue {d : Bytes} {len : Nat} {b : MeterBand} {bs : List MeterBand} (h : 12 ≤ d.length)
      (hlen : campo d 2 2 = pure len) (hb : b.De (d.take len)) (hbs : Bandas (d.drop len) bs) :
      Bandas d (b :: bs)

/-- A band of a known type that is long enough for what the type has of its own. -/
def Conocida (d : Bytes) : Prop :=
  ∃ type len, campo d 0 2 = pure type ∧ campo d 2 2 = pure len ∧
    (type = 1 ∨ (type = 2 ∧ 13 ≤ len) ∨ (type = 0xffff ∧ 16 ≤ len))

/-- **All bands of a message are known.** -/
def BandasConocidas (d : Bytes) : Prop :=
  ∀ d', Llega 12 2 12 id d d' → 12 ≤ d'.length → Conocida d'

variable {detras : Bytes → Memoria} {d : Bytes} {len : Nat}

theorem campo_take {k n : Nat} (h : k + n ≤ len) (hle : len ≤ d.length) :
    campo (d.take len) k n = campo d k n := by
  have hlen : (d.take len).length = len := by rw [List.length_take, Nat.min_eq_left hle]
  rw [campo, campo, hlen, if_pos h, if_pos (Nat.le_trans h hle), List.drop_take, List.take_take,
    Nat.min_eq_left (by omega)]

theorem campo_eq_leer (detras : Bytes → Memoria) {k n : Nat} (h : k + n ≤ d.length) :
    campo d k n = pure (leer (memoriaDe detras d) k n) := by
  obtain ⟨v, hv⟩ := campo_eq_pure k n h
  rw [(empieza_memoriaDe detras d).leer_of_campo hv, hv]

/-- What is in a band of its own comes from the band exactly if the band has it. -/
theorem campo_propio_iff {n v : Nat} (hv : v = leer (memoriaDe detras d) 12 n)
    (hle : len ≤ d.length) : campo (d.take len) 12 n = pure v ↔ 12 + n ≤ len := by
  constructor
  · intro h
    have hin := le_of_campo h
    rw [List.length_take] at hin
    omega
  · intro h
    rw [campo_take h hle, campo_eq_leer detras (Nat.le_trans h hle), hv]

/-- **One band** is written as it is on the wire exactly if it is known. -/
theorem meterBandUnpack_de_iff {b : MeterBand} {l : Nat} (h : meterBandUnpack detras d l = pure b)
    (hlen : campo d 2 2 = pure len) (hok : len ≤ d.length ∧ 12 ≤ len) :
    b.De (d.take len) ↔ Conocida d := by
  unfold meterBandUnpack at h
  obtain ⟨_, _, h⟩ := bind_eq_pure.mp h
  obtain ⟨rate, hrate, h⟩ := bind_eq_pure.mp h
  obtain ⟨burstSize, hburst, h⟩ := bind_eq_pure.mp h
  obtain ⟨type, htype, h⟩ := bind_eq_pure.mp h
  have hconocida : Conocida d ↔ type = 1 ∨ (type = 2 ∧ 13 ≤ len) ∨ (type = 0xffff ∧ 16 ≤ len) := by
    constructor
    · rintro ⟨type', len', htype', hlen', hor⟩
      obtain rfl := pure_inj (htype.symm.trans htype')
      obtain rfl := pure_inj (hlen.symm.trans hlen')
      exact hor
    · exact fun hor => ⟨type, len, htype, hlen, hor⟩
  rw [hconocida]
  rw [← campo_take (show 0 + 2 ≤ len by omega) hok.1] at htype
  rw [← campo_take (show 4 + 4 ≤ len by omega) hok.1] at hrate
  rw [← campo_take (show 8 + 4 ≤ len by omega) hok.1] at hburst
  split at h
  · cases pure_inj h
    exact iff_of_true ⟨htype, hrate, hburst⟩ (.inl rfl)
  · cases pure_inj h
    have hprec := campo_propio_iff (Eq.refl (leer (memoriaDe detras d) 12 1)) hok.1
    refine Iff.trans ⟨fun hb => hb.2.2.2, fun hp => ⟨htype, hrate, hburst, hp⟩⟩ (hprec.trans ?_)
    omega
  · cases pure_inj h
    have hexp := campo_propio_iff (Eq.refl (leer (memoriaDe detras d) 12 4)) hok.1
    refine Iff.trans ⟨fun hb => hb.2.2.2, fun hp => ⟨htype, hrate, hburst, hp⟩⟩ (hexp.trans ?_)
    omega
  · rename_i h1 h2 h3
    cases pure_inj h
    refine iff_of_false id ?_
    rintro (hi | hi | hi)
    · exact h1 hi
    · exact h2 hi.1
    · exact h3 hi.1

/-- **All bands that were counted** are written as they are on the wire exactly if they are known.
    -/
theorem bandas_iff {r : Option Nat} {n : Nat} {bs : List MeterBand} (hr : Recuento 12 2 12 id d r)
    (hn : r = some n) (h : unpackItems 2 (meterBandUnpack detras) n d d.length = pure bs) :
    Bandas d bs ↔ BandasConocidas d := by
  induction hr generalizing n bs with
  | @fin d hfin =>
    obtain rfl := Option.some.inj hn
    cases pure_inj h
    refine iff_of_true (.fin hfin) fun d' hl hge => ?_
    cases hl with
    | aqui => omega
    | sigue hge' _ _ _ => omega
  | rechaza => cases hn
  | @sigue d len r hge hlen hok _ _ ih =>
    obtain ⟨n, rfl, rfl⟩ : ∃ m, r = some m ∧ n = m + 1 := by
      cases r with
      | none => cases hn
      | some m => exact ⟨m, rfl, (Option.some.inj hn).symm⟩
    rw [unpackItems] at h
    obtain ⟨b, hb, h⟩ := bind_eq_pure.mp h
    obtain ⟨ilen, hilen, h⟩ := bind_eq_pure.mp h
    obtain ⟨bs, hbs, h⟩ := bind_eq_pure.mp h
    cases pure_inj h
    obtain rfl := pure_inj (hlen.symm.trans hilen)
    rw [← List.length_drop] at hbs
    have hde := meterBandUnpack_de_iff hb hlen hok
    have hresto := ih rfl hbs
    constructor
    · intro hbandas
      cases hbandas with
      | sigue _ hlen' hb' hbs' =>
        obtain rfl := pure_inj (hlen.symm.trans hlen')
        intro d' hl hge'
        cases hl with
        | aqui => exact hde.mp hb'
        | sigue _ hlen'' _ hl =>
          obtain rfl := pure_inj (hlen.symm.trans hlen'')
          exact hresto.mp hbs' d' hl hge'
    · intro hcon
      refine .sigue hge hlen (hde.mpr (hcon d (.aqui d) hge)) (hresto.mpr fun d' hl => ?_)
      exact hcon d' (.sigue hge hlen hok hl)

theorem Bandas.escritas {bs : List MeterBand} (h : Bandas d bs) : MeterBand.sinEscribir ∉ bs := by
  induction h with
  | fin => exact List.not_mem_nil
  | sigue _ _ hb _ ih =>
    rw [List.mem_cons, not_or]
    refine ⟨?_, ih⟩
    rintro rfl
    exact hb

theorem mapM_copia_iff (bs : List MeterBand) :
    (∃ l, bs.mapM MeterBand.copia = some l ∧ l.length = bs.length) ↔
      MeterBand.sinEscribir ∉ bs := by
  induction bs with
  | nil => simp
  | cons b bs ih =>
    rw [List.mem_cons, not_or, ← ih, List.mapM_cons]
    constructor
    · rintro ⟨l, hl, hlen⟩
      obtain ⟨x, hx, hl⟩ := Option.bind_eq_some_iff.mp hl
      obtain ⟨l', hl', hl⟩ := Option.bind_eq_some_iff.mp hl
      cases hl
      refine ⟨?_, l', hl', Nat.succ.inj hlen⟩
      rintro rfl
      cases hx
    · rintro ⟨hb, l, hl, hlen⟩
      obtain ⟨x, hx⟩ : ∃ x, b.copia = some x := by
        cases b with
        | sinEscribir => exact absurd rfl hb
        | _ => exact ⟨_, rfl⟩
      exact ⟨x :: l, by rw [hx, hl]; rfl, congrArg (· + 1) hlen⟩

end Mensaje

/-- **METER_MOD parsing.** The bands of an accepted message are those on the wire, and
`meter_entry_create` copies as many as the message has, exactly if every band of it is of a known
type and long enough for it. -/
theorem meter_mod_parsing {detras : Bytes → Memoria} {buf : Bytes} {mod : MeterMod MeterBand}
    (h : meterModUnpack detras buf = pure mod) :
    (Bandas (buf.drop 16) mod.bands ∧ ∀ flags now,
      ∃ entry, MeterEntry.create flags mod.bands now = some entry ∧
        entry.bands.length = mod.bands.length) ↔ BandasConocidas (buf.drop 16) := by
  unfold meterModUnpack at h
  iterate 7 obtain ⟨_, _, h⟩ := Lectura.bind_eq_pure.mp h
  obtain ⟨num, hnum, h⟩ := Lectura.bind_eq_pure.mp h
  obtain ⟨bands, hb, h⟩ := Lectura.bind_eq_pure.mp h
  cases Lectura.pure_inj h
  rw [← List.length_drop] at hnum hb
  obtain ⟨r, hr⟩ : ∃ r, Recuento 12 2 12 id (buf.drop 16) r :=
    exists_recuento (by decide) (by decide) _
  have hn : r = some num := by
    have hcount := hr.countItems.symm.trans hnum
    cases r with
    | none => cases hcount
    | some n => rw [Lectura.pure_inj hcount]
  refine Iff.trans (and_iff_left_of_imp fun hbandas flags now => ?_) (bandas_iff hr hn hb)
  obtain ⟨l, hl, hlen⟩ := (mapM_copia_iff bands).mpr hbandas.escritas
  exact ⟨_, by rw [MeterEntry.create, hl]; rfl, by rw [List.length_map, hlen]⟩

/-- A METER_MOD that adds a meter with one band of 12 bytes. -/
def conBanda (type : UInt8) : Bytes :=
  [4, 29, 0, 28, 0, 0, 0, 0, 0, 0, 0, 1, 0, 0, 0, 1, 0, type, 0, 12, 0, 0, 0, 0, 0, 0, 0, 0]

theorem meter_mod_parsing_drop : Bandas ((conBanda 1).drop 16) [.drop 0 0] ∧
    ∃ entry, MeterEntry.create 1 [.drop 0 0] 0 = some entry ∧ entry.bands.length = 1 := by
  have h : (meterModUnpack (fun _ _ => 0) (conBanda 1)).run =
      some (.ok ⟨.add, 1, [.drop 0 0]⟩) := by
    decide +kernel
  have hcon : BandasConocidas ((conBanda 1).drop 16) := by
    intro d' hl hge
    cases hl with
    | aqui => exact ⟨1, 12, rfl, rfl, .inl rfl⟩
    | sigue _ hlen _ hl =>
      cases Lectura.pure_inj (α := Nat) (a := 12) hlen
      cases hl with
      | aqui => exact absurd hge (by decide)
      | sigue hge' _ _ _ => exact absurd hge' (by decide)
  obtain ⟨hbandas, hcopia⟩ := (meter_mod_parsing h).mpr hcon
  exact ⟨hbandas, hcopia 1 0⟩

/-- A band of type 3 is accepted and not written. Of an `OFPMBT_DSCP_REMARK` band of 12 bytes the
level is read behind the message. -/
theorem meter_mod_parsing_fails :
    (meterModUnpack (fun _ _ => 7) (conBanda 3)).run = some (.ok ⟨.add, 1, [.sinEscribir]⟩) ∧
      MeterEntry.create 1 [.sinEscribir] 0 = none ∧
    (meterModUnpack (fun _ _ => 7) (conBanda 2)).run =
      some (.ok ⟨.add, 1, [.dscpRemark 0 0 7]⟩) := by
  decide +kernel

/-! ## 3. A meter in use -/

/-- What happens to a meter. -/
inductive UsoMetro (P : Type) where
  | refill
  | packet (pkt : P)

/-- A meter, the time, the times of its refills, and the packets it let through with their time. -/
structure Medicion (P : Type) where
  entry : MeterEntry
  reloj : UInt64
  rellenos : List UInt64
  pasados : List (UInt64 × P)

namespace Medicion

/-- A meter with one `OFPMBT_DROP` band, made at time `now`. -/
def unaBanda (flags : Nat) (rate burstSize : UInt32) (now : UInt64) : Medicion P where
  entry := ⟨flags, 0, 0, [(⟨.drop, rate, burstSize⟩, ⟨0, 0, now, 0⟩)]⟩
  reloj := now
  rellenos := []
  pasados := []

/-- **One event**; the time does not go back. -/
def paso (size : P → Nat) (remarca : Nat → P → P) (m : Medicion P) :
    UInt64 × UsoMetro P → Option (Medicion P)
  | (now, .refill) =>
    if m.reloj ≤ now then
      some { m with
        entry := m.entry.refillBucket now
        reloj := now
        rellenos := m.rellenos ++ [now] }
    else none
  | (now, .packet pkt) =>
    if m.reloj ≤ now then
      let r := m.entry.meterEntryApply size remarca pkt
      some { m with
        entry := r.1
        reloj := now
        pasados := m.pasados ++ (r.2.map (now, ·)).toList }
    else none

end Medicion

/-! ## 4. The meter as a token bucket -/

/-- The tokens a packet of `size` bytes costs. -/
def costo (flags size : Nat) : Nat := if MeterEntry.kbps flags then size * 8 % 2 ^ 32 else 1000

/-- The tokens there can be at most. -/
def tope (flags : Nat) (rate burstSize : UInt32) : UInt32 :=
  if MeterEntry.burst flags then burstSize * 1000 else rate * 1000

section Cubo

variable {flags : Nat} {rate burstSize : UInt32} {now : UInt64} {stats : BandStats}

/-- **`consume_tokens`**: the cost is taken, or nothing is. -/
theorem consumeTokens_spec (flags sz : Nat) (stats : BandStats) :
    (MeterEntry.consumeTokens flags sz stats = (stats, false)) ∨
      costo flags sz ≤ stats.tokens.toNat ∧ ∃ tokens : UInt64,
        MeterEntry.consumeTokens flags sz stats = ({ stats with tokens := tokens }, true) ∧
        tokens.toNat = stats.tokens.toNat - costo flags sz := by
  unfold MeterEntry.consumeTokens costo
  by_cases hk : MeterEntry.kbps flags = true
  · have hnat : (sz * 8).toUInt32.toUInt64.toNat = sz * 8 % 2 ^ 32 := by
      rw [UInt32.toNat_toUInt64, Nat.toUInt32, UInt32.toNat_ofNat']
    simp only [if_pos hk]
    by_cases hle : (sz * 8).toUInt32.toUInt64 ≤ stats.tokens
    · refine .inr ⟨hnat ▸ UInt64.le_iff_toNat_le.mp hle, _, if_pos hle, ?_⟩
      rw [UInt64.toNat_sub_of_le _ _ hle, hnat]
    · exact .inl (if_neg hle)
  · simp only [if_neg hk]
    by_cases hp : MeterEntry.pktps flags = true
    · simp only [if_pos hp]
      by_cases hle : 1000 ≤ stats.tokens
      · refine .inr ⟨UInt64.le_iff_toNat_le.mp hle, _, if_pos hle, ?_⟩
        rw [UInt64.toNat_sub_of_le _ _ hle]
        rfl
      · exact .inl (if_neg hle)
    · exact .inl (if_neg hp)

/-- **`refill_bucket`** on a band: no more than the depth, and no more than the rate times 1000 for
    each millisecond. -/
theorem refillBand_spec (flags : Nat) (banda : Banda)
    (htope : stats.tokens.toNat ≤ (tope flags banda.rate banda.burstSize).toNat)
    (hnow : stats.lastFill ≤ now) :
    ∃ tokens : UInt64,
      MeterEntry.refillBand flags now (banda, stats) =
        (banda, { stats with lastFill := now, tokens := tokens }) ∧
      tokens.toNat ≤ (tope flags banda.rate banda.burstSize).toNat ∧
      tokens.toNat ≤ stats.tokens.toNat +
        (banda.rate * 1000).toNat * (now.toNat - stats.lastFill.toNat) := by
  have hmin : ∀ a b : UInt64, (min a b).toNat ≤ a.toNat ∧ (min a b).toNat ≤ b.toNat := by
    intro a b
    show (if a ≤ b then a else b).toNat ≤ _ ∧ (if a ≤ b then a else b).toNat ≤ _
    by_cases h : a ≤ b
    · rw [if_pos h]
      exact ⟨Nat.le_refl _, UInt64.le_iff_toNat_le.mp h⟩
    · rw [if_neg h]
      exact ⟨Nat.le_of_not_le (h ∘ UInt64.le_iff_toNat_le.mpr), Nat.le_refl _⟩
  have hsuma : ((now - stats.lastFill) * (banda.rate * 1000).toUInt64 + stats.tokens).toNat ≤
      stats.tokens.toNat + (banda.rate * 1000).toNat * (now.toNat - stats.lastFill.toNat) := by
    rw [UInt64.toNat_add, UInt64.toNat_mul, UInt64.toNat_sub_of_le _ _ hnow,
      UInt32.toNat_toUInt64, Nat.mod_add_mod, Nat.mul_comm, Nat.add_comm]
    exact Nat.mod_le _ _
  refine ⟨_, rfl, ?_, ?_⟩
  · split
    · exact (hmin _ _).2
    · exact htope
  · split
    · exact Nat.le_trans (hmin _ _).1 hsuma
    · exact Nat.le_add_right _ _

theorem meterEntryApply_una (size : P → Nat) (remarca : Nat → P → P) (pkt : P) {entry : MeterEntry}
    (hrate : 0 < rate) (hbands : entry.bands = [(⟨.drop, rate, burstSize⟩, stats)]) :
    ∃ stats', (entry.meterEntryApply size remarca pkt).1.bands =
        [(⟨.drop, rate, burstSize⟩, stats')] ∧
      (entry.meterEntryApply size remarca pkt).1.flags = entry.flags ∧
      stats'.lastFill = stats.lastFill ∧
      stats'.tokens = (MeterEntry.consumeTokens entry.flags (size pkt) stats).1.tokens ∧
      (entry.meterEntryApply size remarca pkt).2 =
        if (MeterEntry.consumeTokens entry.flags (size pkt) stats).2 then some pkt else none := by
  unfold MeterEntry.meterEntryApply MeterEntry.chooseBand
  rw [hbands]
  rcases consumeTokens_spec entry.flags (size pkt) stats with hno | ⟨_, tokens, hsi, _⟩
  · simp only [MeterEntry.chooseBandFrom, hno, hrate, and_self, if_true]
    exact ⟨_, rfl, rfl, rfl, rfl, rfl⟩
  · simp only [MeterEntry.chooseBandFrom, hsi]
    exact ⟨_, rfl, rfl, rfl, rfl, rfl⟩

/-- A meter with one band, as a bucket. -/
structure Representa (flags : Nat) (rate burstSize : UInt32) (size : P → Nat) (m : Medicion P)
    (b : TokenBucket) : Prop where
  mismas : m.entry.flags = flags
  bands : ∃ stats, m.entry.bands = [(⟨.drop, rate, burstSize⟩, stats)] ∧
    b.tokens = stats.tokens.toNat ∧ b.last = stats.lastFill.toNat
  clock : b.clock = m.reloj.toNat
  fills : b.fills = m.rellenos.map (·.toNat)
  paid : b.paid = m.pasados.map fun x => (x.1.toNat, costo flags (size x.2))
  tokens_le : b.tokens ≤ (tope flags rate burstSize).toNat
  last_le : b.last ≤ b.clock

variable {size : P → Nat} {remarca : Nat → P → P} {m : Medicion P}

/-- **Each event of the meter is one of the bucket.** -/
theorem Representa.paso {m' : Medicion P} {b : TokenBucket} (hrate : 0 < rate)
    (h : Representa flags rate burstSize size m b) {e : UInt64 × UsoMetro P}
    (hp : m.paso size remarca e = some m') :
    ∃ e' b', b.step (tope flags rate burstSize).toNat (rate * 1000).toNat e' = some b' ∧
      Representa flags rate burstSize size m' b' := by
  obtain ⟨stats, hbands, htokens, hlast⟩ := h.bands
  obtain ⟨now, uso⟩ := e
  have hflags := h.mismas
  cases uso with
  | refill =>
    obtain ⟨hnow, hp⟩ := Option.ite_none_right_eq_some.mp hp
    cases hp
    have hclock : b.clock ≤ now.toNat := h.clock ▸ UInt64.le_iff_toNat_le.mp hnow
    obtain ⟨tokens, hrefill, htope, hsuma⟩ := refillBand_spec flags
      ⟨.drop, rate, burstSize⟩ (htokens ▸ h.tokens_le)
      (UInt64.le_iff_toNat_le.mpr (hlast ▸ Nat.le_trans h.last_le hclock))
    refine ⟨.fill now.toNat tokens.toNat, _,
      if_pos ⟨hclock, htope, htokens ▸ hlast ▸ hsuma⟩, hflags, ?_, rfl, ?_, h.paid, htope,
      Nat.le_refl _⟩
    · refine ⟨{ stats with lastFill := now, tokens := tokens }, ?_, rfl, rfl⟩
      show m.entry.bands.map _ = _
      rw [hbands, hflags, List.map_singleton, hrefill]
    · rw [List.map_append, ← h.fills]
      rfl
  | packet pkt =>
    obtain ⟨hnow, hp⟩ := Option.ite_none_right_eq_some.mp hp
    cases hp
    have hclock : b.clock ≤ now.toNat := h.clock ▸ UInt64.le_iff_toNat_le.mp hnow
    obtain ⟨stats', hbands', hflags', hfill', htokens', hres⟩ :=
      meterEntryApply_una size remarca pkt hrate hbands
    rw [hflags] at hres htokens' hflags'
    rcases consumeTokens_spec flags (size pkt) stats with hno | ⟨hcosto, tokens, hsi, hresta⟩
    · rw [hno] at hres htokens'
      refine ⟨.idle now.toNat, _, if_pos hclock, hflags', ⟨stats', hbands', ?_, ?_⟩, rfl,
        h.fills, ?_, h.tokens_le, Nat.le_trans h.last_le hclock⟩
      · rw [htokens', ← htokens]
      · rw [hfill', ← hlast]
      · show _ = List.map _ (m.pasados ++ _)
        rw [hres, h.paid]
        simp
    · rw [hsi] at hres htokens'
      refine ⟨.pay now.toNat (costo flags (size pkt)), _, if_pos ⟨hclock, htokens ▸ hcosto⟩,
        hflags', ⟨stats', hbands', ?_, ?_⟩, rfl, h.fills, ?_,
        Nat.le_trans (Nat.sub_le _ _) h.tokens_le, Nat.le_trans h.last_le hclock⟩
      · show b.tokens - _ = _
        rw [htokens', hresta, htokens]
      · rw [hfill', ← hlast]
      · show _ = List.map _ (m.pasados ++ _)
        rw [hres, h.paid]
        simp

/-- **A meter is a token bucket**, over whole runs. -/
theorem representa_run (hrate : 0 < rate)
    (h : Run (Medicion.paso size remarca) (fun _ _ => True) (.unaBanda flags rate burstSize now)
      m) :
    ∃ b, Run (TokenBucket.step (tope flags rate burstSize).toNat (rate * 1000).toNat)
        (fun _ _ => True) (.empty now.toNat) b ∧
      Representa flags rate burstSize size m b := by
  induction h with
  | refl =>
    exact ⟨_, .refl, rfl, ⟨_, rfl, rfl, rfl⟩, rfl, rfl, rfl, Nat.zero_le _, Nat.le_refl _⟩
  | tail _ _ hp ih =>
    obtain ⟨b, hb, hr⟩ := ih
    obtain ⟨e', b', hstep, hr'⟩ := hr.paso hrate hp
    exact ⟨b', .tail hb trivial hstep, hr'⟩

end Cubo

/-! ## 5. What a meter lets through -/

/-- The tokens the refills from time `t` to time `t + T` stand for: the rate times 1000 for each
    millisecond since the last refill before them. -/
def repuesto (rate : UInt32) (now : UInt64) (rellenos : List UInt64) (t T : Nat) : Nat :=
  (rate * 1000).toNat *
    (TokenBucket.lastFill now.toNat (· ≤ t + T) (rellenos.map (·.toNat)) -
      TokenBucket.lastFill now.toNat (· < t) (rellenos.map (·.toNat)))

/-- The packets let through from time `t` to time `t + T`. -/
def entre (t T : Nat) (pasados : List (UInt64 × P)) : List (UInt64 × P) :=
  pasados.filter fun x => t ≤ x.1.toNat ∧ x.1.toNat ≤ t + T

/-- `burst_size`, or the rate. -/
def profundidad (flags : Nat) (rate burstSize : UInt32) : Nat :=
  if MeterEntry.burst flags then burstSize.toNat else rate.toNat

theorem toNat_tope_le (flags : Nat) (rate burstSize : UInt32) :
    (tope flags rate burstSize).toNat ≤ 1000 * profundidad flags rate burstSize := by
  have hmul : ∀ a : UInt32, (a * 1000).toNat ≤ 1000 * a.toNat := by
    intro a
    rw [UInt32.toNat_mul, Nat.mul_comm 1000]
    exact Nat.mod_le _ _
  unfold tope profundidad
  split
  · exact hmul burstSize
  · exact hmul rate

/-- **What a meter lets through**: the depth, and what the refills stand for. -/
theorem costo_entre_le {size : P → Nat} {remarca : Nat → P → P} {flags : Nat}
    {rate burstSize : UInt32} {now : UInt64} {m : Medicion P} (hrate : 0 < rate)
    (h : Run (Medicion.paso size remarca) (fun _ _ => True) (.unaBanda flags rate burstSize now) m)
    (t T : Nat) :
    ((entre t T m.pasados).map fun x => costo flags (size x.2)).sum ≤
      1000 * profundidad flags rate burstSize + repuesto rate now m.rellenos t T := by
  obtain ⟨b, hrun, hr⟩ := representa_run hrate h
  have hle := TokenBucket.paidIn_le hrun (Nat.le_add_right t T)
  rw [hr.paid, hr.fills, TokenBucket.paidIn, List.filter_map, List.map_map] at hle
  exact Nat.le_trans hle (Nat.add_le_add_right (toNat_tope_le ..) _)

/-- **The token bucket bound.** For a band with a rate, packets of less than 2 ^ 29 bytes and
refills within the rate, a meter lets through at most the depth and the rate times `T`. -/
theorem token_bucket_bound {size : P → Nat} {remarca : Nat → P → P} {flags : Nat}
    {rate burstSize : UInt32} {now : UInt64} {m : Medicion P}
    (hrun : Run (Medicion.paso size remarca) (fun _ _ => True)
      (.unaBanda flags rate burstSize now) m)
    (t T : Nat) (hrate : 0 < rate)
    (hsize : MeterEntry.kbps flags = true → ∀ x ∈ m.pasados, size x.2 < 2 ^ 29)
    (hrep : repuesto rate now m.rellenos t T ≤ rate.toNat * T) :
    (MeterEntry.kbps flags = true →
      ((entre t T m.pasados).map fun x => 8 * size x.2).sum ≤
        1000 * profundidad flags rate burstSize + rate.toNat * T) ∧
    (MeterEntry.kbps flags = false →
      (entre t T m.pasados).length ≤
        profundidad flags rate burstSize + rate.toNat * T / 1000) := by
  have hle := Nat.le_trans (costo_entre_le hrate hrun t T) (Nat.add_le_add_left hrep _)
  constructor
  · intro hk
    have hcosto : ∀ x ∈ entre t T m.pasados, costo flags (size x.2) = 8 * size x.2 := by
      intro x hx
      have hsz := hsize hk x (List.mem_of_mem_filter hx)
      rw [costo, if_pos hk, Nat.mod_eq_of_lt (by omega), Nat.mul_comm]
    rwa [List.map_congr_left hcosto] at hle
  · intro hk
    have hcosto : ∀ x ∈ entre t T m.pasados, costo flags (size x.2) = 1000 := by
      intro x _
      rw [costo, hk]
      rfl
    rw [List.map_congr_left hcosto, List.map_const', List.sum_replicate, smul_eq_mul] at hle
    omega

theorem token_bucket_bound_unPaquete :
    ∃ m : Medicion Nat,
      Run (Medicion.paso id fun _ pkt => pkt) (fun _ _ => True) (.unaBanda 1 1 0 0) m ∧
      ((entre 5 10 m.pasados).map fun x => 8 * x.2).sum = 800 ∧
      ((entre 5 10 m.pasados).map fun x => 8 * x.2).sum ≤ 1000 * profundidad 1 1 0 + 1 * 10 := by
  obtain ⟨m, hrun, hpas, hrel⟩ := Run.exists_exec (Medicion.paso id fun _ pkt => pkt)
    (fun _ _ => True) [(1, .refill), (5, .packet 100), (6, .packet 100)] (.unaBanda 1 1 0 0)
    (fun m => m.pasados = [(5, 100)] ∧ m.rellenos = [1]) (by decide)
  refine ⟨m, hrun, by rw [hpas]; decide, (token_bucket_bound hrun 5 10 (by decide) ?_ ?_).1 rfl⟩
  · rw [hpas]
    decide
  · rw [hrel]
    decide

/-- **A thousand times the rate**: with a refill in each millisecond a meter of 1 kb/s lets 1000
    bits through in each. -/
theorem token_bucket_bound_fails :
    ∃ m : Medicion Nat,
      Run (Medicion.paso id fun _ pkt => pkt) (fun _ _ => True) (.unaBanda 1 1 0 0) m ∧
      ((entre 1 2 m.pasados).map fun x => 8 * x.2).sum = 3000 ∧
      1000 * profundidad 1 1 0 + 1 * 2 = 1002 :=
  Run.exists_exec _ _ [(1, .refill), (1, .packet 125), (2, .refill), (2, .packet 125),
    (3, .refill), (3, .packet 125)] _ _ (by decide)

end TcpPath.Udatapath
