/-
  Subject:   The checksums of headers (csum.c): `csum` adds all of a header up, `set_field` and the
             actions on the TTL bring the checksum up to date from the field they change.

  `recalc_csum16` folds its sum once. Where the fold carries again, at 0x1ffff, the carry is lost.

  Results:   `checksum_kept`: the checksum stays right exactly if no update is lost.
-/
import TcpPath.Frame

namespace TcpPath.Udatapath

open List

/-! ## 1. csum.c -/

def csumAdd16 (parcial : UInt32) (new : UInt16) : UInt32 := parcial + new.toUInt32

/-- `csum_continue`; an odd byte at the end is a number with a high byte of 0. -/
def csumContinue (parcial : UInt32) (data : List UInt16) : UInt32 := data.foldl csumAdd16 parcial

def csumFinish (parcial : UInt32) : UInt16 :=
  ~~~((parcial &&& (0xffff : UInt32)) + (parcial >>> 16)).toUInt16

def csum (data : List UInt16) : UInt16 := csumFinish (csumContinue 0 data)

def recalcCsum16 (oldCsum oldU16 newU16 : UInt16) : UInt16 :=
  let sum := (~~~oldCsum).toUInt32 + (~~~oldU16).toUInt32 + newU16.toUInt32
  ~~~(sum + (sum >>> 16)).toUInt16

/-- The two numbers of 16 bits that one of 32 bits is in memory. -/
def bajo (x : UInt32) : UInt16 := x.toUInt16
def alto (x : UInt32) : UInt16 := (x >>> 16).toUInt16

def recalcCsum32 (oldCsum : UInt16) (oldU32 newU32 : UInt32) : UInt16 :=
  recalcCsum16 (recalcCsum16 oldCsum (bajo oldU32) (bajo newU32)) (alto oldU32) (alto newU32)

/-! ## 2. What the checksum is -/

def suma (data : List UInt16) : Nat := (data.map UInt16.toNat).sum

theorem suma_cons (w : UInt16) (data : List UInt16) :
    suma (w :: data) = w.toNat + suma data := by
  simp [suma]

theorem suma_le (data : List UInt16) : suma data ≤ 65535 * data.length := by
  induction data with
  | nil => simp [suma]
  | cons w data ih =>
    have hw := w.toNat_lt
    rw [suma_cons, length_cons]
    omega

theorem suma_pos {data : List UInt16} : 0 < suma data ↔ ∃ w ∈ data, w ≠ 0 := by
  induction data with
  | nil => simp [suma]
  | cons w data ih =>
    have hw : w ≠ 0 ↔ 0 < w.toNat := by
      rw [ne_eq, ← UInt16.toNat_inj, UInt16.toNat_zero]
      omega
    rw [suma_cons, exists_mem_cons_iff, ← ih, hw]
    omega

theorem suma_set {data : List UInt16} {i : Nat} {old : UInt16} (h : data[i]? = some old)
    (new : UInt16) : suma (data.set i new) + old.toNat = suma data + new.toNat := by
  induction data generalizing i with
  | nil => cases h
  | cons w data ih =>
    cases i with
    | zero =>
      obtain rfl := Option.some.inj h
      rw [set_cons_zero, suma_cons, suma_cons]
      omega
    | succ i =>
      have hi := ih (i := i) h
      rw [set_cons_succ, suma_cons, suma_cons]
      omega

theorem csumContinue_toNat (parcial : UInt32) (data : List UInt16) :
    (csumContinue parcial data).toNat = (parcial.toNat + suma data) % 2 ^ 32 := by
  induction data generalizing parcial with
  | nil => simp [csumContinue, suma, Nat.mod_eq_of_lt parcial.toNat_lt]
  | cons w data ih =>
    show (csumContinue (csumAdd16 parcial w) data).toNat = _
    rw [ih, csumAdd16, UInt32.toNat_add, UInt16.toNat_toUInt32, suma_cons]
    omega

theorem toNat_shiftRight16 (x : UInt32) : (x >>> 16).toNat = x.toNat / 65536 := by
  rw [UInt32.toNat_shiftRight]
  exact Nat.shiftRight_eq_div_pow x.toNat 16

theorem csumFinish_toNat (parcial : UInt32) : (csumFinish parcial).toNat =
    65535 - (parcial.toNat % 65536 + parcial.toNat / 65536) % 65536 := by
  have hlow : (parcial &&& (0xffff : UInt32)).toNat = parcial.toNat % 65536 := by
    rw [UInt32.toNat_and]
    exact Nat.and_two_pow_sub_one_eq_mod parcial.toNat 16
  have hlt := parcial.toNat_lt
  rw [csumFinish, UInt16.toNat_not, UInt32.toNat_toUInt16, UInt32.toNat_add, hlow,
    toNat_shiftRight16, UInt16.size]
  omega

/-- **A header passes the check** if its numbers add up to 0 modulo 65535, and not all are 0. -/
theorem csum_eq_zero_iff {data : List UInt16} (hlen : data.length ≤ 65535) :
    csum data = 0 ↔ suma data % 65535 = 0 ∧ 0 < suma data := by
  have hle := suma_le data
  have hs : suma data ≤ 65535 * 65535 := hle.trans (Nat.mul_le_mul_left _ hlen)
  have hparcial : (csumContinue 0 data).toNat = suma data := by
    rw [csumContinue_toNat, UInt32.toNat_zero, Nat.zero_add]
    exact Nat.mod_eq_of_lt (hs.trans_lt (by decide))
  -- the numbers add up to what the fold of their sum is
  have hfold : suma data % 65535 = (suma data % 65536 + suma data / 65536) % 65535 := by
    have hdiv := Nat.div_add_mod (suma data) 65536
    rw [show suma data = 65535 * (suma data / 65536) + (suma data % 65536 + suma data / 65536) by
      omega, Nat.mul_add_mod]
    congr 1
    omega
  rw [← UInt16.toNat_inj, csum, csumFinish_toNat, hparcial, UInt16.toNat_zero, hfold]
  have hpos : 0 < suma data ↔ 0 < suma data % 65536 + suma data / 65536 := by omega
  have hlt : suma data % 65536 + suma data / 65536 < 131070 := by omega
  rw [hpos]
  generalize suma data % 65536 + suma data / 65536 = t at hlt ⊢
  omega

/-! ## 3. What an update keeps -/

/-- How many updates are lost: one, if the sum is 0x1ffff. -/
def perdida (c old new : UInt16) : Nat := if new.toNat = c.toNat + old.toNat + 1 then 1 else 0

/-- **An update**: checksum and field add up to the same, but for a lost carry. -/
theorem recalcCsum16_mod (c old new : UInt16) :
    ((recalcCsum16 c old new).toNat + new.toNat) % 65535 =
      (c.toNat + old.toNat + perdida c old new) % 65535 := by
  have hc := c.toNat_lt
  have ho := old.toNat_lt
  have hn := new.toNat_lt
  have hsum : ((~~~c).toUInt32 + (~~~old).toUInt32 + new.toUInt32).toNat =
      131070 + new.toNat - c.toNat - old.toNat := by
    simp only [UInt32.toNat_add, UInt16.toNat_toUInt32, UInt16.toNat_not, UInt16.size]
    omega
  rw [recalcCsum16, UInt16.toNat_not, UInt32.toNat_toUInt16, UInt32.toNat_add, toNat_shiftRight16,
    hsum, UInt16.size, perdida]
  generalize hs : 131070 + new.toNat - c.toNat - old.toNat = s
  have hq : s / 65536 = 0 ∨ s / 65536 = 1 ∨ s / 65536 = 2 := by omega
  -- the sum is folded below 0x1ffff, at 0x1ffff and above it
  rcases hq with hq | hq | hq <;> rw [hq] <;> split <;> omega

/-! ## 4. Headers that are rewritten -/

/-- A number of 16 bits of a header changes. The checksum is at place `j`. -/
def reescribe16 (j : Nat) (ws : List UInt16) (r : Nat × UInt16) : Option (List UInt16) :=
  match ws[j]?, ws[r.1]? with
  | some c, some old =>
    if r.1 = j then none else some ((ws.set j (recalcCsum16 c old r.2)).set r.1 r.2)
  | _, _ => none

/-- The field of 32 bits that two numbers are. -/
def doble (lo hi : UInt16) : UInt32 := lo.toUInt32 + (hi.toUInt32 <<< 16)

/-- A field of 16 or 32 bits gets a new value. -/
inductive Reescritura where
  | campo16 (i : Nat) (new : UInt16)
  | campo32 (i : Nat) (new : UInt32)

/-- **A rewrite** as `set_field` makes it: first the checksum, then the field. -/
def reescribe (j : Nat) (ws : List UInt16) : Reescritura → Option (List UInt16)
  | .campo16 i new => reescribe16 j ws (i, new)
  | .campo32 i new =>
    match ws[j]?, ws[i]?, ws[i + 1]? with
    | some c, some lo, some hi =>
      if i = j ∨ i + 1 = j then none
      else some (((ws.set j (recalcCsum32 c (doble lo hi) new)).set i (bajo new)).set (i + 1)
        (alto new))
    | _, _, _ => none

/-- The numbers of 16 bits that change. -/
def Reescritura.cambios : Reescritura → List (Nat × UInt16)
  | .campo16 i new => [(i, new)]
  | .campo32 i new => [(i, bajo new), (i + 1, alto new)]

/-- The updates that are lost. -/
def perdidas (j : Nat) (ws : List UInt16) : List (Nat × UInt16) → Nat
  | [] => 0
  | r :: rs =>
    perdida (ws[j]?.getD 0) (ws[r.1]?.getD 0) r.2 + perdidas j ((reescribe16 j ws r).getD []) rs

theorem doble_toNat (lo hi : UInt16) : (doble lo hi).toNat = lo.toNat + 65536 * hi.toNat := by
  have hlo := lo.toNat_lt
  have hhi := hi.toNat_lt
  have hshift : (hi.toUInt32 <<< 16).toNat = 65536 * hi.toNat := by
    rw [UInt32.toNat_shiftLeft, UInt16.toNat_toUInt32]
    show hi.toNat <<< 16 % 2 ^ 32 = _
    rw [Nat.shiftLeft_eq]
    omega
  rw [doble, UInt32.toNat_add, hshift, UInt16.toNat_toUInt32]
  omega

theorem bajo_doble (lo hi : UInt16) : bajo (doble lo hi) = lo := by
  have hlo := lo.toNat_lt
  rw [← UInt16.toNat_inj, bajo, UInt32.toNat_toUInt16, doble_toNat]
  omega

theorem alto_doble (lo hi : UInt16) : alto (doble lo hi) = hi := by
  have hlo := lo.toNat_lt
  have hhi := hi.toNat_lt
  rw [← UInt16.toNat_inj, alto, UInt32.toNat_toUInt16, toNat_shiftRight16, doble_toNat]
  omega

section Run

variable {j : Nat} {ws ws' : List UInt16}

theorem reescribe16_of {c old : UInt16} {i : Nat} (hc : ws[j]? = some c) (ho : ws[i]? = some old)
    (hne : i ≠ j) (new : UInt16) : reescribe16 j ws (i, new) =
      some ((ws.set j (recalcCsum16 c old new)).set i new) := by
  unfold reescribe16
  simp only [hc, ho, if_neg hne]

/-- A field of 32 bits changes as its two numbers do, one after the other. -/
theorem reescribe_cambios {r : Reescritura} (h : reescribe j ws r = some ws') :
    r.cambios.foldlM (reescribe16 j) ws = some ws' := by
  cases r with
  | campo16 i new => simpa [Reescritura.cambios, reescribe] using h
  | campo32 i new =>
    simp only [reescribe] at h
    split at h
    · rename_i c lo hi hc hlo hhi
      split at h
      · cases h
      · rename_i hne
        obtain ⟨h1, h2⟩ := not_or.mp hne
        have hj : j < ws.length := (List.getElem?_eq_some_iff.mp hc).1
        have hi' : i < ws.length := (List.getElem?_eq_some_iff.mp hlo).1
        have hc' : ((ws.set j (recalcCsum16 c lo (bajo new))).set i (bajo new))[j]? =
            some (recalcCsum16 c lo (bajo new)) := by
          rw [getElem?_set_ne h1, getElem?_set_self hj]
        have hhi' : ((ws.set j (recalcCsum16 c lo (bajo new))).set i (bajo new))[i + 1]? =
            some hi := by
          rw [getElem?_set_ne (by omega), getElem?_set_ne (Ne.symm h2), hhi]
        rw [Reescritura.cambios, foldlM_cons, reescribe16_of hc hlo h1]
        show (reescribe16 j _ (i + 1, alto new)).bind _ = _
        rw [reescribe16_of hc' hhi' h2, set_comm _ _ h1, set_set]
        rw [recalcCsum32, bajo_doble, alto_doble] at h
        exact h
    · cases h

theorem reescribe_run {rs : List Reescritura} (h : rs.foldlM (reescribe j) ws = some ws') :
    (rs.flatMap (·.cambios)).foldlM (reescribe16 j) ws = some ws' := by
  induction rs generalizing ws with
  | nil => exact h
  | cons r rs ih =>
    rw [foldlM_cons] at h
    obtain ⟨u, hu, h⟩ := Option.bind_eq_some_iff.mp h
    rw [flatMap_cons, foldlM_append, reescribe_cambios hu]
    exact ih h

theorem perdida_le (c old new : UInt16) : perdida c old new ≤ 1 := by
  unfold perdida
  split <;> omega

/-- **What rewrites keep**: the numbers add up to the same, but for the updates that are lost. -/
theorem suma_run {rs : List (Nat × UInt16)} (h : rs.foldlM (reescribe16 j) ws = some ws') :
    ws'.length = ws.length ∧ suma ws' % 65535 = (suma ws + perdidas j ws rs) % 65535 ∧
      perdidas j ws rs ≤ rs.length := by
  induction rs generalizing ws with
  | nil =>
    cases h
    exact ⟨rfl, rfl, le_rfl⟩
  | cons r rs ih =>
    rw [foldlM_cons] at h
    obtain ⟨u, hu, h⟩ := Option.bind_eq_some_iff.mp h
    obtain ⟨hlen, hmod, hle⟩ := ih h
    have hr := hu
    simp only [reescribe16] at hu
    split at hu
    · rename_i c old hc ho
      split at hu
      · cases hu
      · rename_i hne
        cases hu
        have h1 := suma_set hc (recalcCsum16 c old r.2)
        have ho' : (ws.set j (recalcCsum16 c old r.2))[r.1]? = some old := by
          rw [getElem?_set_ne (Ne.symm hne), ho]
        have h2 := suma_set ho' r.2
        have h3 := recalcCsum16_mod c old r.2
        have h4 := perdida_le c old r.2
        simp only [perdidas, hr, hc, ho, Option.getD_some, length_cons]
        rw [length_set, length_set] at hlen
        exact ⟨hlen, by omega, by omega⟩
    · cases hu

end Run

/-- **Checksums of headers that are rewritten.** A header whose checksum is right still has a right
    one after fewer than 2 ^ 15 rewrites exactly if none of the updates was lost, unless it is 0
    altogether. Lost is an update from `old` to the sum of `old`, the checksum and 1. -/
theorem checksum_kept (j : Nat) (ws : List UInt16) (rs : List Reescritura) {ws' : List UInt16}
    (h : rs.foldlM (reescribe j) ws = some ws') (hrs : rs.length < 32768)
    (hlen : ws.length ≤ 65535) (hok : csum ws = 0) :
    csum ws' = 0 ↔ perdidas j ws (rs.flatMap (·.cambios)) = 0 ∧ ∃ w ∈ ws', w ≠ 0 := by
  obtain ⟨hl, hmod, hle⟩ := suma_run (reescribe_run h)
  have hcambios : (rs.flatMap (·.cambios)).length ≤ 2 * rs.length := by
    clear h hmod hle hrs
    induction rs with
    | nil => rfl
    | cons r rs ih =>
      rw [flatMap_cons, length_append, length_cons]
      have hr : r.cambios.length ≤ 2 := by cases r <;> simp [Reescritura.cambios]
      omega
  have h0 := ((csum_eq_zero_iff hlen).mp hok).1
  rw [csum_eq_zero_iff (hl.trans_le hlen), ← suma_pos]
  omega

/-- An IPv4 header with TTL 1, protocol 6 and checksum 0xf9b9 gets the source 0xf9ba: the carry is
    lost, and its checksum is wrong. -/
theorem checksum_kept_direccion :
    csum [0x45, 0, 0, 0, 0x601, 0xf9b9, 0, 0, 0, 0] = 0 ∧
      ∃ ws', [Reescritura.campo32 6 0xf9ba].foldlM (reescribe 5)
          [0x45, 0, 0, 0, 0x601, 0xf9b9, 0, 0, 0, 0] = some ws' ∧ csum ws' ≠ 0 := by
  refine ⟨by decide, _, rfl, ?_⟩
  rw [Ne, checksum_kept 5 [0x45, 0, 0, 0, 0x601, 0xf9b9, 0, 0, 0, 0] [.campo32 6 0xf9ba] rfl
    (by decide) (by decide) (by decide)]
  decide

end TcpPath.Udatapath
