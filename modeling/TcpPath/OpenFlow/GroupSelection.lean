/-
  Subject:   Which bucket a group takes (`init_select_group`, `select_from_select_group`,
             `select_from_ff_group` of group_entry.c).

  Results:   `select_fair`: each bucket is taken by its weight;
             `ff_least_alive`: the first bucket whose port is up.
-/
import TcpPath.OpenFlow.GroupExecution
import TcpPath.OpenFlow.Control
import TcpPath.Util.RoundRobin
import Mathlib.Algebra.GCDMonoid.Finset
import Mathlib.Algebra.GCDMonoid.Nat

namespace TcpPath.Udatapath

open Util

/-! ## 1. Weighted round robin -/

/-- `gcd`. -/
def gcd (a b : UInt16) : UInt16 :=
  if a = 0 then b else gcd (b % a) a
termination_by a.toNat
decreasing_by
  rename_i ha
  rw [UInt16.toNat_mod]
  exact Nat.mod_lt _ (Nat.pos_of_ne_zero fun h => ha (UInt16.toNat.inj h))

/-- `init_select_group` of a group with `n` buckets. -/
def initSelectGroup (n : Nat) (weight : Nat → UInt16) : WrrData :=
  let data : WrrData := { maxWeight := 0, gcdWeight := 0, currWeight := 0, currBucket := -1 }
  if n = 0 then data
  else
    (List.range' 1 (n - 1)).foldl
      (fun data i =>
        { data with
          gcdWeight := gcd data.gcdWeight (weight i)
          maxWeight := max data.maxWeight (weight i) })
      { data with gcdWeight := weight 0, maxWeight := weight 0 }

theorem toNat_gcd (a b : UInt16) : (gcd a b).toNat = Nat.gcd a.toNat b.toNat := by
  induction a, b using gcd.induct with
  | case1 b =>
    rw [gcd, if_pos rfl]
    exact (Nat.gcd_zero_left _).symm
  | case2 a b ha ih =>
    rw [gcd, if_neg ha, ih, UInt16.toNat_mod, ← Nat.gcd_rec]

namespace WrrData

/-- The weight the loop asks bucket `b` for. -/
def pide (data : WrrData) (b : Nat) : UInt16 :=
  if b = 0 then
    if data.currWeight ≤ data.gcdWeight then data.maxWeight else data.currWeight - data.gcdWeight
  else data.currWeight

/-- The data after a look at bucket `b`. -/
def mira (data : WrrData) (b : Nat) : WrrData :=
  { data with currWeight := data.pide b, currBucket := b.toUInt64 }

end WrrData

/-- The heaviest bucket. -/
def maximo (n : Nat) (weight : Nat → UInt16) : Nat := (Finset.range n).sup fun i => (weight i).toNat

/-- The g.c.d. of the weights. -/
def comun (n : Nat) (weight : Nat → UInt16) : Nat := (Finset.range n).gcd fun i => (weight i).toNat

/-- Everything before the `j`-th look is done with: bucket `j % n` comes next, in round `j / n`. -/
structure Turno (n : Nat) (weight : Nat → UInt16) (j : Nat) (data : WrrData) : Prop where
  maxWeight : data.maxWeight.toNat = maximo n weight
  gcdWeight : data.gcdWeight.toNat = comun n weight
  bucket : (data.currBucket + 1).toNat % n = j % n
  pide : (data.pide (j % n)).toNat = threshold (maximo n weight) (comun n weight) (j / n)

theorem toNat_max (a b : UInt16) : (max a b).toNat = max a.toNat b.toNat := by
  show (if a ≤ b then b else a).toNat = _
  by_cases h : a ≤ b
  · rw [if_pos h, Nat.max_eq_right (UInt16.le_iff_toNat_le.mp h)]
  · rw [if_neg h, Nat.max_eq_left (Nat.le_of_not_le (h ∘ UInt16.le_iff_toNat_le.mpr))]

section Rondas

variable {n : Nat} {weight : Nat → UInt16}

theorem weights (hn : 0 < n) (hw : ∀ i < n, 0 < weight i) :
    Weights n (maximo n weight) (comun n weight) fun i => (weight i).toNat where
  pos i hi := UInt16.lt_iff_toNat_lt.mp (hw i hi)
  dvd i hi := Finset.gcd_dvd (Finset.mem_range.mpr hi)
  le i hi := Finset.le_sup (f := fun i => (weight i).toNat) (Finset.mem_range.mpr hi)
  max := by
    obtain ⟨i, hi, h⟩ := Finset.exists_mem_eq_sup (Finset.range n) ⟨0, Finset.mem_range.mpr hn⟩
      fun i => (weight i).toNat
    exact ⟨i, Finset.mem_range.mp hi, h.symm⟩

/-- **`init_select_group`** finds the heaviest weight and the g.c.d. -/
theorem initSelectGroup_spec (weight : Nat → UInt16) (hn : 0 < n) :
    (initSelectGroup n weight).maxWeight.toNat = maximo n weight ∧
      (initSelectGroup n weight).gcdWeight.toNat = comun n weight ∧
      (initSelectGroup n weight).currWeight = 0 ∧ (initSelectGroup n weight).currBucket = -1 := by
  rw [initSelectGroup, if_neg (by omega)]
  obtain ⟨k, rfl⟩ : ∃ k, n = k + 1 := ⟨n - 1, by omega⟩
  rw [Nat.add_sub_cancel]
  induction k with
  | zero => simp [maximo, comun]
  | succ k ih =>
    obtain ⟨hmax, hgcd, hw, hb⟩ := ih (by omega)
    rw [List.range'_1_concat, List.foldl_append]
    refine ⟨?_, ?_, hw, hb⟩
    · rw [maximo, Finset.range_add_one, Finset.sup_insert, ← maximo, ← hmax, Nat.add_comm 1 k]
      exact (toNat_max _ _).trans (Nat.max_comm _ _)
    · rw [comun, Finset.range_add_one, Finset.gcd_insert, ← comun, ← hgcd, Nat.add_comm 1 k]
      exact (toNat_gcd _ _).trans (Nat.gcd_comm _ _)

theorem turno_init (hn : 0 < n) : Turno n weight 0 (initSelectGroup n weight) := by
  obtain ⟨hmax, hgcd, hw, hb⟩ := initSelectGroup_spec weight hn
  refine ⟨hmax, hgcd, ?_, ?_⟩
  · rw [hb]
    rfl
  · rw [Nat.zero_mod, Nat.zero_div, WrrData.pide, if_pos rfl, hw, if_pos (UInt16.zero_le), hmax,
      threshold, Nat.zero_mod, Nat.zero_mul, Nat.sub_zero]

/-- **One look.** -/
theorem Turno.mira {data : WrrData} {j : Nat} (h : Turno n weight j data) (hn64 : n < 2 ^ 64)
    (hw : Weights n (maximo n weight) (comun n weight) fun i => (weight i).toNat) :
    Turno n weight (j + 1) (data.mira (j % n)) where
  maxWeight := h.maxWeight
  gcdWeight := h.gcdWeight
  bucket := by
    have hlt := Nat.mod_lt j hw.n_pos
    have hnat : ((j % n).toUInt64 + 1).toNat = j % n + 1 := by
      rw [UInt64.toNat_add, Nat.toUInt64, UInt64.toNat_ofNat', UInt64.toNat_one,
        Nat.mod_eq_of_lt (Nat.lt_trans hlt hn64), Nat.mod_eq_of_lt (by omega)]
    show ((j % n).toUInt64 + 1).toNat % n = _
    rw [hnat, Nat.mod_add_mod]
  pide := by
    have hp := h.pide
    show (WrrData.pide _ ((j + 1) % n)).toNat = _
    rw [WrrData.pide, Nat.succ_div]
    by_cases hz : (j + 1) % n = 0
    · rw [if_pos hz, if_pos (Nat.dvd_of_mod_eq_zero hz),
        threshold_succ hw.g_pos hw.m_pos hw.dvd_m, ← hp, ← h.gcdWeight, ← h.maxWeight]
      show (if data.pide (j % n) ≤ data.gcdWeight then data.maxWeight
        else data.pide (j % n) - data.gcdWeight).toNat = _
      by_cases hle : data.pide (j % n) ≤ data.gcdWeight
      · rw [if_pos hle, if_pos (UInt16.le_iff_toNat_le.mp hle)]
      · have hnle := hle ∘ UInt16.le_iff_toNat_le.mpr
        rw [if_neg hle, if_neg hnle, UInt16.toNat_sub_of_le]
        exact UInt16.le_iff_toNat_le.mpr (Nat.le_of_not_le hnle)
    · rw [if_neg hz, if_neg fun hd => hz (Nat.mod_eq_zero_of_dvd hd), Nat.add_zero]
      exact hp

theorem selectLoop_spec (hn : 0 < n) (hn64 : n < 2 ^ 64)
    (hw : Weights n (maximo n weight) (comun n weight) fun i => (weight i).toNat)
    {guard j k : Nat} {data : WrrData} (h : Turno n weight j data) (hjk : j ≤ k)
    (hk : k < j + guard)
    (hhit : hit n (maximo n weight) (comun n weight) (fun i => (weight i).toNat) k = true)
    (hno : ∀ i, j ≤ i → i < k →
      hit n (maximo n weight) (comun n weight) (fun i => (weight i).toNat) i = false) :
    (selectLoop hn weight guard data).1 = some ⟨k % n, Nat.mod_lt k hn⟩ ∧
      Turno n weight (k + 1) (selectLoop hn weight guard data).2 := by
  induction guard generalizing j data with
  | zero => omega
  | succ guard ih =>
    have hloop : selectLoop hn weight (guard + 1) data =
        if data.pide (j % n) ≤ weight (j % n) then
          (some ⟨j % n, Nat.mod_lt j hn⟩, data.mira (j % n))
        else selectLoop hn weight guard (data.mira (j % n)) := by
      rw [selectLoop]
      simp only [h.bucket]
      rfl
    have hiff : data.pide (j % n) ≤ weight (j % n) ↔
        hit n (maximo n weight) (comun n weight) (fun i => (weight i).toNat) j = true := by
      rw [UInt16.le_iff_toNat_le, h.pide, hit, decide_eq_true_iff]
    rw [hloop]
    rcases Nat.eq_or_lt_of_le hjk with rfl | hlt
    · rw [if_pos (hiff.mpr hhit)]
      exact ⟨rfl, h.mira hn64 hw⟩
    · have hfalse := hno j (Nat.le_refl j) hlt
      rw [if_neg fun hle => by rw [hiff.mp hle] at hfalse; cases hfalse]
      exact ih (h.mira hn64 hw) hlt (by omega) fun i hi => hno i (by omega)

/-- **Each call goes on to the next bucket that is heavy enough.** -/
theorem searches_select (hn : 0 < n) (hn64 : n < 2 ^ 64)
    (hw : Weights n (maximo n weight) (comun n weight) fun i => (weight i).toNat) :
    Searches (hit n (maximo n weight) (comun n weight) fun i => (weight i).toNat)
      (selectFromSelectGroup n weight) (fun k => some ⟨k % n, Nat.mod_lt k hn⟩)
      (Turno n weight) where
  next j data h := by
    obtain ⟨k, hjk, hk, hhit, hno⟩ := exists_first_hit hw j
    rw [selectFromSelectGroup, dif_pos hn]
    exact ⟨k, hjk, hhit, hno, selectLoop_spec hn hn64 hw h hjk hk hhit hno⟩

end Rondas

/-- **Weighted round robin is fair.** With `n` buckets (a `size_t`) of positive weights every call
    finds a bucket, and each block of calls takes each bucket as often as its weight over the
    g.c.d. says. -/
theorem select_fair (n : Nat) (weight : Nat → UInt16) (hn : 0 < n) (hn64 : n < 2 ^ 64)
    (hw : ∀ i < n, 0 < weight i) :
    (∀ k, none ∉ (calls (selectFromSelectGroup n weight) k (initSelectGroup n weight)).1) ∧
    ∀ bloque (i : Fin n),
      let g := (Finset.range n).gcd fun i => (weight i).toNat
      let total := (∑ i ∈ Finset.range n, (weight i).toNat) / g
      List.count (some i)
        (calls (selectFromSelectGroup n weight) total
          (calls (selectFromSelectGroup n weight) (bloque * total)
            (initSelectGroup n weight)).2).1 = (weight i).toNat / g := by
  have hpesos := weights hn hw
  have hsearch := searches_select hn hn64 hpesos
  constructor
  · intro k hmem
    obtain ⟨_, _, hnone⟩ := hsearch.mem_calls (turno_init hn) hmem
    cases hnone
  · intro bloque i
    refine hsearch.fair hpesos (turno_init hn) bloque i.isLt fun k => ?_
    rw [Option.some_inj, Fin.ext_iff]

/-- Three buckets of weights 4, 2 and 6, in any block: two, one and three times in six calls. -/
theorem select_fair_4_2_6 :
    (∀ i < 3, 0 < [4, 2, 6].getD i (0 : UInt16)) ∧
    ∀ bloque (i : Fin 3),
      List.count (some i)
        (calls (selectFromSelectGroup 3 ([4, 2, 6].getD · 0)) 6
          (calls (selectFromSelectGroup 3 ([4, 2, 6].getD · 0)) (bloque * 6)
            (initSelectGroup 3 ([4, 2, 6].getD · 0))).2).1 = [2, 1, 3].getD i 0 := by
  refine ⟨by decide, fun bloque i => ?_⟩
  refine ((select_fair 3 ([4, 2, 6].getD · 0) (by decide) (by decide) (by decide)).2 bloque
    i).trans ?_
  revert i
  decide

/-! ## 2. Fast failover -/

/-- What the selection reads of a `struct ofl_bucket`. -/
structure BucketDesc where
  weight : Nat
  watchPort : Nat
  deriving DecidableEq, Repr

/-- What the selection reads of a `struct ofl_msg_group_mod`. -/
structure GroupDesc where
  type : Nat
  buckets : List BucketDesc
  deriving DecidableEq, Repr

section Desc

open Lectura

/-- `weight` and `watch_port` in `ofl_structs_bucket_unpack`. -/
def bucketDesc (d : Bytes) : Lectura BucketDesc := do
  let weight ← campo d 2 2
  let watchPort ← campo d 4 4
  pure ⟨weight, watchPort⟩

/-- The type and the buckets of a group-mod that `groupModUnpack` accepts. -/
def groupDesc (buf : Bytes) : Lectura GroupDesc := do
  let type ← campo buf 10 1
  let num ← countItems 0 16 (Nat.succ_pos 15) (buf.drop 16) (buf.length - 16)
  let buckets ← unpackItems 0 (fun d _ => bucketDesc d) num (buf.drop 16) (buf.length - 16)
  pure ⟨type, buckets⟩

end Desc

namespace Puertos

/-- `dp_ports_lookup`, and whether the port is neither down nor without link. `none`: there is no
    `conf` to read. -/
def vivo (s : Puertos) (portNo : Nat) : Option Bool :=
  (s.enUso portNo).map fun x => !x.2.portDown && !x.2.linkDown

/-- There is a port of that number. -/
def Existe (s : Puertos) (portNo : Nat) : Prop := ∃ ptr p, s.get ptr = some p ∧ p.portNo = portNo

/-- There is one that is neither down nor without link. -/
def Vivo (s : Puertos) (portNo : Nat) : Prop :=
  ∃ ptr p, s.get ptr = some p ∧ p.portNo = portNo ∧ p.portDown = false ∧ p.linkDown = false

variable {s : Puertos} {portNo : Nat}

theorem Vivo.existe (h : s.Vivo portNo) : s.Existe portNo := by
  obtain ⟨ptr, p, hp, hno, _⟩ := h
  exact ⟨ptr, p, hp, hno⟩

theorem Sana.vivo_eq_none (h : s.Sana) : s.vivo portNo = none ↔ ¬s.Existe portNo := by
  rw [vivo, Option.map_eq_none_iff, Option.eq_none_iff_forall_ne_some]
  constructor
  · intro hnone ⟨ptr, p, hp, hno⟩
    exact hnone (ptr, p) (h.enUso_iff.mpr ⟨hp, hno⟩)
  · intro hno ⟨ptr, p⟩ huso
    exact hno ⟨ptr, p, h.enUso_iff.mp huso⟩

theorem Sana.vivo_eq_true (h : s.Sana) : s.vivo portNo = some true ↔ s.Vivo portNo := by
  rw [vivo, Option.map_eq_some_iff]
  constructor
  · intro ⟨⟨ptr, p⟩, huso, hup⟩
    obtain ⟨hp, hno⟩ := h.enUso_iff.mp huso
    rw [Bool.and_eq_true, Bool.not_eq_true', Bool.not_eq_true'] at hup
    exact ⟨ptr, p, hp, hno, hup⟩
  · intro ⟨ptr, p, hp, hno, hdown, hlink⟩
    refine ⟨(ptr, p), h.enUso_iff.mpr ⟨hp, hno⟩, ?_⟩
    rw [hdown, hlink]
    rfl

theorem Sana.not_existe_any (h : s.Sana) : ¬s.Existe ofpAny := by
  intro ⟨ptr, p, hp, hno⟩
  have hnum := (h.numeros ptr p hp).symm.trans hno
  cases ptr with
  | loc => cases hnum
  | num n =>
    obtain ⟨hmax, hports⟩ := h.sinLocal
    have hn := (hports n).mp (Option.isSome_iff_exists.mpr ⟨p, hp⟩)
    have : n = 0xffffffff := hnum
    unfold dpMaxPorts at hmax
    omega

end Puertos

/-- The groups see the ports of the switch. -/
def Ejecutor.conPuertos {Mt P : Type} (x : Ejecutor (Switch Mt) P) : Ejecutor (Switch Mt) P :=
  { x with puertoVivo := fun s => s.puertos.vivo }

section Failover

variable {Mt P Q : Type} {x : Ejecutor (Switch Mt) P} {w : Mundo (Switch Mt)} {id i : Nat}

theorem bucketIsAlive_conPuertos :
    bucketIsAlive x.conPuertos w id i =
      if x.watchPort id i = ofpAny then .ok false
      else (w.resto.puertos.vivo (x.watchPort id i)).elim (.error .nulo) .ok := by
  have hvivo : x.conPuertos.puertoVivo w.resto (x.conPuertos.watchPort id i) =
      w.resto.puertos.vivo (x.watchPort id i) := rfl
  rw [bucketIsAlive, hvivo]
  cases w.resto.puertos.vivo (x.watchPort id i) <;> rfl

theorem bucketIsAlive_eq_true (h : w.resto.puertos.Sana) :
    bucketIsAlive x.conPuertos w id i = .ok true ↔ w.resto.puertos.Vivo (x.watchPort id i) := by
  rw [bucketIsAlive_conPuertos]
  by_cases hany : x.watchPort id i = ofpAny
  · rw [if_pos hany, hany]
    exact ⟨fun hf => (nomatch hf), fun hv => absurd hv.existe h.not_existe_any⟩
  · rw [if_neg hany, ← h.vivo_eq_true]
    cases w.resto.puertos.vivo (x.watchPort id i) <;> simp

theorem bucketIsAlive_eq_error (h : w.resto.puertos.Sana) {e : Paro} :
    bucketIsAlive x.conPuertos w id i = .error e ↔
      e = .nulo ∧ x.watchPort id i ≠ ofpAny ∧ ¬w.resto.puertos.Existe (x.watchPort id i) := by
  rw [bucketIsAlive_conPuertos, ← h.vivo_eq_none]
  by_cases hany : x.watchPort id i = ofpAny
  · simp [hany]
  · rw [if_neg hany]
    cases w.resto.puertos.vivo (x.watchPort id i) <;> simp [hany, eq_comm]

theorem bucketIsAlive_eq_false (h : w.resto.puertos.Sana)
    (hf : bucketIsAlive x.conPuertos w id i = .ok false) :
    ¬w.resto.puertos.Vivo (x.watchPort id i) ∧
      (x.watchPort id i = ofpAny ∨ w.resto.puertos.Existe (x.watchPort id i)) := by
  constructor
  · intro hv
    rw [(bucketIsAlive_eq_true h).mpr hv] at hf
    cases hf
  · by_contra hno
    rw [(bucketIsAlive_eq_error h).mpr ⟨rfl, not_or.mp hno⟩] at hf
    cases hf

/-- **Fast failover** takes the first bucket whose port is up, or -1; something is returned unless a
bucket watches a port there is not, and none before it is taken. -/
theorem ff_least_alive {c : Conmutador Mt Q} {bandsNum : UInt64} {maxQueues : Nat}
    {resto : Fin pipelineTables → Bytes} {dpDesc : Bytes} {now : Nat} (x : Ejecutor (Switch Mt) P)
    (w : Mundo (Switch Mt))
    (hrun : Run (Switch.paso c) (fun _ _ => True)
      (.create bandsNum maxQueues resto dpDesc now) w.resto) (id n : Nat) :
    let viva := fun i : Fin n => w.resto.puertos.Vivo (x.watchPort id i)
    let r := selectFromFfGroup x.conPuertos w id n
    (∀ i, r = .ok (some i) → viva i ∧ ∀ j < i, ¬viva j) ∧
    (r = .ok none → ∀ i, ¬viva i) ∧
    ((∃ b, r = .ok b) ↔ ∀ i : Fin n, (∀ j ≤ i, ¬viva j) →
      x.watchPort id i = ofpAny ∨ w.resto.puertos.Existe (x.watchPort id i)) ∧
    ∀ e, r = .error e → e = .nulo := by
  intro viva r
  have hs := (Switch.bien_run hrun).puertos
  have hfirst : FirstOf (fun i : Fin n => bucketIsAlive x.conPuertos w id i) (List.finRange n) r :=
    firstOf_findM? (List.pairwise_lt_finRange n) fun _ _ => lt_asymm
  generalize r = r at hfirst
  cases hfirst with
  | @hit a _ hf hbefore =>
    have ha : viva a := (bucketIsAlive_eq_true hs).mp hf
    have hpasa : ∀ j < a, _ := fun j hj =>
      bucketIsAlive_eq_false hs (hbefore j (List.mem_finRange j) hj)
    refine ⟨fun i hi => ?_, fun hi => (nomatch hi), ⟨fun _ i hno => ?_, fun _ => ⟨_, rfl⟩⟩,
      fun e he => (nomatch he)⟩
    · cases hi
      exact ⟨ha, fun j hj => (hpasa j hj).1⟩
    · have hi : i < a := lt_of_not_ge fun hai => hno a hai ha
      exact (hpasa i hi).2
  | miss hall =>
    have hpasa : ∀ j : Fin n, _ := fun j => bucketIsAlive_eq_false hs (hall j (List.mem_finRange j))
    exact ⟨fun i hi => (nomatch hi), fun _ i => (hpasa i).1,
      ⟨fun _ i _ => (hpasa i).2, fun _ => ⟨_, rfl⟩⟩, fun e he => (nomatch he)⟩
  | @fail a e _ hf hbefore =>
    obtain ⟨he, hany, hno⟩ := (bucketIsAlive_eq_error hs).mp hf
    refine ⟨fun i hi => (nomatch hi), fun hi => (nomatch hi), ⟨fun ⟨b, hb⟩ => (nomatch hb), ?_⟩, ?_⟩
    · intro hall
      -- the bucket that watches it is no live one, and none before it is
      refine absurd (hall a fun j hj => ?_) (not_or.mpr ⟨hany, hno⟩)
      rcases lt_or_eq_of_le hj with hlt | rfl
      · exact (bucketIsAlive_eq_false hs (hbefore j (List.mem_finRange j) hlt)).1
      · exact fun hv => hno hv.existe
    · intro e' he'
      cases he'
      exact he

end Failover

def msgFf (groupId : Nat) (watchPorts : List Nat) : Bytes :=
  conCabecera 15 ([0, 0, 3, 0] ++ red 4 groupId ++ (watchPorts.map fun port =>
    red 2 16 ++ [0, 0] ++ red 4 port ++ List.replicate 4 0xff ++ [0, 0, 0, 0]).flatten)

/-- Groups of these descriptions, of which packets come out unchanged. -/
def Ejecutor.deDesc (desc : Nat → GroupDesc) : Ejecutor (Switch Unit) Nat where
  type id := (desc id).type
  weight id i := (((desc id).buckets.map BucketDesc.weight).getD i 0).toUInt16
  watchPort id i := ((desc id).buckets.map BucketDesc.watchPort).getD i ofpAny
  puertoVivo s := s.puertos.vivo
  size _ := 64
  clona p := p
  aplica _ p := some p
  destruye _ w := w
  salida _ _ _ _ p w := (p, w)

/-- Groups before their first packet. -/
def Mundo.nuevo {W : Type} (resto : W) : Mundo W :=
  ⟨fun _ => ⟨⟨0, 0⟩, fun _ => ⟨0, 0⟩, ⟨0, 0, 0, 0⟩⟩, resto⟩

/-- Two ports, of which the first is down, and a group that watches both: the second bucket. -/
theorem ff_least_alive_segundo :
    groupDesc (msgFf 1 [1, 2]) = pure ⟨3, [⟨0, 1⟩, ⟨0, 2⟩]⟩ ∧
    ∃ s : Switch Unit, Run (Switch.paso sinCampos) (fun _ _ => True) .encendido s ∧
      selectFromFfGroup (Ejecutor.deDesc fun _ => ⟨3, [⟨0, 1⟩, ⟨0, 2⟩]⟩) (.nuevo s) 1 2 =
        .ok (some 1) ∧
      s.puertos.Vivo 2 ∧ ¬s.puertos.Vivo 1 := by
  have hdesc : (groupDesc (msgFf 1 [1, 2])).run =
      some (.ok ⟨3, [⟨0, 1⟩, ⟨0, 2⟩]⟩) := by decide +kernel
  refine ⟨hdesc, Run.exists_exec₁ [.addPort (some 5) 0, .addPort (some 6) 0, .enlace (.num 1) true]
    (by decide) fun s hrun hsel => ?_⟩
  obtain ⟨h2, h1⟩ := (ff_least_alive (Ejecutor.deDesc fun _ => ⟨3, [⟨0, 1⟩, ⟨0, 2⟩]⟩) (.nuevo s)
    hrun 1 2).1 1 hsel
  exact ⟨h2, h1 0 (by decide)⟩

/-- **A port there is not**: the group is accepted, and to take one of its buckets is to read
    through a null pointer. -/
theorem ff_least_alive_fails :
    sinCampos.unpack (msgFf 1 [99]) = pure (.groupMod ⟨.add, 1, [⟨[]⟩]⟩) ∧
    groupDesc (msgFf 1 [99]) = pure ⟨3, [⟨0, 99⟩]⟩ ∧
    ∃ s s' : Switch Unit, Run (Switch.paso sinCampos) (fun _ _ => True) .encendido s ∧
      s.paso sinCampos (.mensaje (.de 0 []) (.groupMod ⟨.add, 1, [⟨[]⟩]⟩)) = some s' ∧
      s'.dp.groups.entries.map (fun g => (g.id, g.items)) = [(1, [⟨[]⟩])] ∧
      selectFromFfGroup (Ejecutor.deDesc fun _ => ⟨3, [⟨0, 99⟩]⟩) (.nuevo s') 1 1 =
        .error .nulo := by
  have hun : (sinCampos.unpack (msgFf 1 [99])).run =
      some (.ok (.groupMod ⟨.add, 1, [⟨[]⟩]⟩)) := by decide +kernel
  have hdesc : (groupDesc (msgFf 1 [99])).run = some (.ok ⟨3, [⟨0, 99⟩]⟩) := by decide +kernel
  exact ⟨hun, hdesc,
    Run.exists_exec_and _ _ [.addPort (some 5) 0, .conecta 0] _ _ (by decide)⟩

end TcpPath.Udatapath
