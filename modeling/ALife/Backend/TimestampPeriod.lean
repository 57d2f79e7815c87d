/-
# Timestamps of the device in nanoseconds

`ExactGpuTimestampPeriod`
(`crates/alife_gpu_backend/src/closed_loop_runtime.rs`).  The device reports the
nanoseconds of one tick as a binary32 float; the backend keeps its significand
and its exponent, multiplies a number of ticks in 128 bits and rounds up.  The
conversions are exact (`gpu_time_exact`) as long as the left shift of the
product loses nothing that would bring the rest back below `2 ^ 64`:
`checked_shl` looks at the distance of a shift alone
(`elapsedNs_drops_bits`).

Fields and words are natural numbers; shifts and masks of `bits` are quotients
and remainders.
-/

import ALife.Core.Error
import ALife.Machine.Binary32Value
import ALife.Machine.CheckedNat
import ALife.Machine.Checks
import ALife.Machine.Integers

namespace ALife

open Machine

/-- `ok_or(GpuTimestampQueryUnavailable)`. -/
def orUnavailable {α : Type} (o : Option α) : Contract α := getOr o .gpuTimestampQueryUnavailable

/-- The period `significand * 2 ^ binary_exponent`. -/
structure ExactGpuTimestampPeriod where
  significand : ℕ
  binaryExponent : ℤ
  deriving DecidableEq, Repr

namespace ExactGpuTimestampPeriod

def tryFromF32Bits (bits : UInt32) : Contract ExactGpuTimestampPeriod := do
  let sign := bits.toNat / 2 ^ 31
  let exponentBits : ℕ := bits.toNat / 2 ^ 23 % 2 ^ 8
  let mantissa := bits.toNat % 2 ^ 23
  reject (sign ≠ 0 ∨ exponentBits = 0xff ∨ exponentBits = 0 ∧ mantissa = 0)
    .gpuTimestampQueryUnavailable
  .ok (if exponentBits = 0 then ⟨mantissa, -149⟩
    else ⟨2 ^ 23 + mantissa, (exponentBits : ℤ) - 127 - 23⟩)

def deltaTicks (begin finish : UInt64) : Contract ℕ :=
  orUnavailable ((checkedSub finish.toNat begin.toNat).filter (· ≠ 0))

def elapsedNs (p : ExactGpuTimestampPeriod) (begin finish : UInt64) : Contract UInt64 := do
  let ticks ← deltaTicks begin finish
  let scaled ← orUnavailable (checkedMul 128 ticks p.significand)
  let shift := p.binaryExponent.natAbs
  let nanoseconds ←
    if 0 ≤ p.binaryExponent then orUnavailable (checkedShl 128 scaled shift)
    else if 128 ≤ shift then .ok 1
    else
      orUnavailable (checkedAdd 128 (scaled / 2 ^ shift) (if scaled % 2 ^ shift ≠ 0 then 1 else 0))
  orUnavailable (tryFrom64 nanoseconds)

def periodNsQ24 (p : ExactGpuTimestampPeriod) : Contract UInt64 := do
  let exponent := p.binaryExponent + 24
  let shift := exponent.natAbs
  let rounded ←
    if 0 ≤ exponent then orUnavailable (checkedShl 128 p.significand shift)
    else if 128 ≤ shift then .ok 0
    else do
      let sum ← orUnavailable (checkedAdd 128 p.significand (2 ^ (shift - 1)))
      .ok (sum / 2 ^ shift)
  orUnavailable ((tryFrom64 rounded).filter (· ≠ 0))

/-! ## What a period stands for -/

/-- The exact period. -/
def value (p : ExactGpuTimestampPeriod) : ℚ := p.significand * 2 ^ p.binaryExponent

/-- The two forms of a period: subnormal and normal. -/
structure WellFormed (p : ExactGpuTimestampPeriod) : Prop where
  significand_pos : 0 < p.significand
  significand_lt : p.significand < 2 ^ 24
  le_exponent : -149 ≤ p.binaryExponent
  exponent_le : p.binaryExponent ≤ 104
  normal : -149 < p.binaryExponent → 2 ^ 23 ≤ p.significand

/-- **An accepted pattern** is a positive finite float, and the period its exact value. -/
theorem tryFromF32Bits_spec {bits : UInt32} {p : ExactGpuTimestampPeriod}
    (h : tryFromF32Bits bits = .ok p) : p.WellFormed ∧ (F32.mk bits).value = p.value := by
  have hbits := bits.toNat_lt
  unfold tryFromF32Bits at h
  obtain ⟨haccepted, h⟩ := except_seq_eq_ok_iff.1 h
  rw [reject_eq_ok_iff] at haccepted
  push Not at haccepted
  obtain ⟨hsign, hfinite, hzero⟩ := haccepted
  have hexponent : bits.toNat / 2 ^ 23 % 2 ^ 8 = bits.toNat / 2 ^ 23 := by omega
  have hmagnitude : (F32.mk bits).magnitude = bits.toNat := by
    unfold F32.magnitude
    dsimp only
    omega
  have hpositive : (F32.mk bits).isSignNegative = false := by
    unfold F32.isSignNegative
    rw [decide_eq_false_iff_not]
    dsimp only
    omega
  have hunits : (F32.mk bits).value = (F32.mk bits).ulps / 2 ^ 149 := by
    rw [F32.value, hpositive, if_neg Bool.false_ne_true, one_mul]
  have hulps : (F32.mk bits).ulps = if bits.toNat / 2 ^ 23 = 0 then bits.toNat % 2 ^ 23
      else (2 ^ 23 + bits.toNat % 2 ^ 23) * 2 ^ (bits.toNat / 2 ^ 23 - 1) := by
    unfold F32.ulps F32.exponentBits F32.mantissaBits
    rw [hmagnitude]
  rw [hexponent] at h hfinite hzero
  obtain rfl := Except.ok.inj h
  rw [hunits, hulps]
  split_ifs with hsubnormal
  · have hmantissa := hzero hsubnormal
    refine ⟨⟨by dsimp only; omega, by dsimp only; omega, le_rfl, by dsimp only; omega,
      fun hlt => absurd hlt (lt_irrefl _)⟩, ?_⟩
    rw [value, zpow_neg, div_eq_mul_inv]
    norm_cast
  · refine ⟨⟨by dsimp only; omega, by dsimp only; omega, by dsimp only; omega,
      by dsimp only; omega, fun _ => by dsimp only; omega⟩, ?_⟩
    obtain ⟨k, hk⟩ := Nat.exists_eq_add_of_le' (Nat.one_le_iff_ne_zero.2 hsubnormal)
    rw [hk, Nat.add_sub_cancel, value]
    have hshift : ((k + 1 : ℕ) : ℤ) - 127 - 23 = k - 149 := by push_cast; ring
    dsimp only
    rw [hshift, zpow_sub₀ two_ne_zero, zpow_natCast]
    push_cast
    rw [mul_div_assoc]
    norm_cast

/-! ## The time between two timestamps -/

/-- The shift of the product, with what a left shift loses. -/
def nanoseconds (p : ExactGpuTimestampPeriod) (scaled : ℕ) : ℕ :=
  if 0 ≤ p.binaryExponent then scaled * 2 ^ p.binaryExponent.natAbs % 2 ^ 128
  else
    scaled / 2 ^ p.binaryExponent.natAbs
      + if scaled % 2 ^ p.binaryExponent.natAbs ≠ 0 then 1 else 0

theorem deltaTicks_of_lt {begin finish : UInt64} (h : begin < finish) :
    deltaTicks begin finish = .ok (finish.toNat - begin.toNat) := by
  have hlt : begin.toNat < finish.toNat := UInt64.lt_iff_toNat_lt.1 h
  unfold deltaTicks orUnavailable
  rw [getOr_eq_ok_iff, Option.filter_eq_some_iff, checkedSub_eq_some_iff, decide_eq_true_iff]
  omega

/-- What `elapsedNs` computes: no product overflows 128 bits, and a shift of 128 or more leaves
one nanosecond. -/
theorem elapsedNs_eq {p : ExactGpuTimestampPeriod} (hp : p.WellFormed) {begin finish : UInt64}
    (h : begin < finish) :
    p.elapsedNs begin finish = orUnavailable (tryFrom64
      (p.nanoseconds ((finish.toNat - begin.toNat) * p.significand))) := by
  have hlt : begin.toNat < finish.toNat := UInt64.lt_iff_toNat_lt.1 h
  have hfinish := finish.toNat_lt
  set ticks := finish.toNat - begin.toNat with hticks
  have hbound : ticks * p.significand < 2 ^ 88 :=
    calc ticks * p.significand < 2 ^ 64 * 2 ^ 24 :=
          Nat.mul_lt_mul'' (by omega) hp.significand_lt
      _ = 2 ^ 88 := by norm_num
  have hpos : 0 < ticks * p.significand := Nat.mul_pos (by omega) hp.significand_pos
  have hscaled : orUnavailable (checkedMul 128 ticks p.significand)
      = .ok (ticks * p.significand) := by
    rw [checkedMul_of_lt (by omega)]
    rfl
  unfold elapsedNs
  rw [deltaTicks_of_lt h]
  show (orUnavailable (checkedMul 128 ticks p.significand) >>= _) = _
  rw [hscaled]
  generalize hproduct : ticks * p.significand = scaled at hbound hpos
  have hexponent := hp.exponent_le
  unfold nanoseconds
  dsimp only [bind, Except.bind]
  by_cases hsign : 0 ≤ p.binaryExponent
  · rw [if_pos hsign, if_pos hsign, checkedShl, if_pos (by omega)]
    rfl
  rw [if_neg hsign, if_neg hsign]
  by_cases hlarge : 128 ≤ p.binaryExponent.natAbs
  · -- all bits are shifted out
    have hshift : scaled < 2 ^ p.binaryExponent.natAbs :=
      (hbound.trans (by norm_num)).trans_le (Nat.pow_le_pow_right two_pos hlarge)
    rw [if_pos hlarge, Nat.div_eq_of_lt hshift, Nat.mod_eq_of_lt hshift, if_pos hpos.ne']
  · have hquotient : scaled / 2 ^ p.binaryExponent.natAbs ≤ scaled := Nat.div_le_self _ _
    have hlost : (if scaled % 2 ^ p.binaryExponent.natAbs ≠ 0 then 1 else 0) ≤ 1 := by
      split_ifs <;> omega
    rw [if_neg hlarge, checkedAdd_of_lt (by omega)]
    rfl

/-- A left shift of this product brings the rest back below `2 ^ 64`. -/
def DropsBits (product : ℚ) : Prop :=
  ∃ multiple rest : ℕ, 0 < multiple ∧ rest < 2 ^ 64 ∧ product = multiple * 2 ^ 128 + rest

/-- The shift rounds the exact product up, unless it drops bits. -/
theorem nanoseconds_eq_iff {p : ExactGpuTimestampPeriod} {ticks n : ℕ} (hn : n < 2 ^ 64)
    (hkeeps : ¬DropsBits (ticks * p.value)) :
    p.nanoseconds (ticks * p.significand) = n ↔ ⌈(ticks : ℚ) * p.value⌉ = n := by
  unfold nanoseconds
  by_cases hsign : 0 ≤ p.binaryExponent
  · rw [if_pos hsign]
    obtain ⟨shift, hshift⟩ := Int.eq_ofNat_of_zero_le hsign
    have hproduct : (ticks : ℚ) * p.value = ((ticks * p.significand * 2 ^ shift : ℕ) : ℚ) := by
      rw [value, hshift, zpow_natCast]
      push_cast
      ring
    rw [hproduct, Int.ceil_natCast, Nat.cast_inj, hshift, Int.natAbs_natCast]
    rw [hproduct] at hkeeps
    generalize ticks * p.significand * 2 ^ shift = product at hkeeps ⊢
    constructor
    · intro hmod
      -- the rest is a number of nanoseconds: nothing was lost above it
      have hsmall : product / 2 ^ 128 = 0 := by
        by_contra hlost
        refine hkeeps ⟨product / 2 ^ 128, n, Nat.pos_of_ne_zero hlost, hn, ?_⟩
        have hsplit := Nat.div_add_mod' product (2 ^ 128)
        rw [hmod] at hsplit
        exact_mod_cast hsplit.symm
      rw [← hmod, Nat.mod_eq_of_lt (by omega)]
    · rintro rfl
      exact Nat.mod_eq_of_lt (by omega)
  · rw [if_neg hsign]
    have hproduct : (ticks : ℚ) * p.value
        = ((ticks * p.significand : ℕ) : ℚ) / 2 ^ p.binaryExponent.natAbs := by
      have hexponent : p.binaryExponent = -(p.binaryExponent.natAbs : ℤ) := by omega
      rw [value, hexponent, zpow_neg, zpow_natCast, Int.natAbs_neg, Int.natAbs_natCast]
      push_cast
      ring
    rw [hproduct, ceil_div_two_pow, Nat.cast_inj]

/-- **The elapsed time** is the exact product rounded up. -/
theorem elapsedNs_eq_ok_iff {p : ExactGpuTimestampPeriod} (hp : p.WellFormed)
    {begin finish n : UInt64} (h : begin < finish)
    (hkeeps : ¬DropsBits ((finish.toNat - begin.toNat) * p.value)) :
    p.elapsedNs begin finish = .ok n ↔
      ⌈((finish.toNat : ℚ) - begin.toNat) * p.value⌉ = n.toNat := by
  have hlt : begin.toNat < finish.toNat := UInt64.lt_iff_toNat_lt.1 h
  have hcast : (finish.toNat : ℚ) - begin.toNat = ((finish.toNat - begin.toNat : ℕ) : ℚ) := by
    rw [Nat.cast_sub hlt.le]
  rw [hcast] at hkeeps ⊢
  rw [elapsedNs_eq hp h, orUnavailable, getOr_eq_ok_iff, tryFrom64_eq_some_iff, eq_comm,
    nanoseconds_eq_iff n.toNat_lt hkeeps]

/-! ## The period in units of `2 ^ -24` nanoseconds -/

/-- What `periodNsQ24` computes, with what a left shift loses. -/
def roundedQ24 (p : ExactGpuTimestampPeriod) : ℕ :=
  let shift := (p.binaryExponent + 24).natAbs
  if 0 ≤ p.binaryExponent + 24 then p.significand * 2 ^ shift % 2 ^ 128
  else (p.significand + 2 ^ (shift - 1)) / 2 ^ shift

/-- The largest period of all is shifted by 128 and refused; its product is beyond any word. -/
theorem periodNsQ24_eq_ok_iff {p : ExactGpuTimestampPeriod} (hp : p.WellFormed) {q : UInt64} :
    p.periodNsQ24 = .ok q ↔ p.binaryExponent ≠ 104 ∧ p.roundedQ24 = q.toNat ∧ q ≠ 0 := by
  have hlow := hp.le_exponent
  have hhigh := hp.exponent_le
  have hsignificand := hp.significand_lt
  unfold periodNsQ24 roundedQ24 orUnavailable
  dsimp only
  split_ifs with hsign hlarge
  · rw [except_bind_eq_ok_iff]
    simp only [getOr_eq_ok_iff, Option.filter_eq_some_iff, tryFrom64_eq_some_iff,
      decide_eq_true_iff, checkedShl]
    constructor
    · rintro ⟨rounded, hshl, hrounded, hq⟩
      split_ifs at hshl with hshift
      exact ⟨by omega, (Option.some.inj hshl).trans hrounded.symm, hq⟩
    · rintro ⟨hne, hrounded, hq⟩
      rw [if_pos (by omega)]
      exact ⟨_, rfl, hrounded.symm, hq⟩
  · omega
  · have hpow : 2 ^ ((p.binaryExponent + 24).natAbs - 1) < 2 ^ 127 :=
      Nat.pow_lt_pow_right (by norm_num) (by omega)
    rw [checkedAdd_of_lt (by omega)]
    show getOr _ _ = _ ↔ _
    rw [getOr_eq_ok_iff, Option.filter_eq_some_iff, tryFrom64_eq_some_iff, decide_eq_true_iff]
    exact ⟨fun h => ⟨by omega, h.1.symm, h.2⟩, fun h => ⟨h.2.1.symm, h.2.2⟩⟩

/-- A product of 24 bits that was shifted by at most 127 is not brought back below `2 ^ 64`,
unless to zero. -/
theorem shift_eq_of_mod {a shift q : ℕ} (ha : a < 2 ^ 24) (hshift : shift < 128) (hq : 0 < q)
    (hlt : q < 2 ^ 64) (h : a * 2 ^ shift % 2 ^ 128 = q) : a * 2 ^ shift = q := by
  obtain hfew | hmany := lt_or_ge shift 64
  · have hpow : 2 ^ shift ≤ 2 ^ 63 := Nat.pow_le_pow_right two_pos (by omega)
    have hproduct : a * 2 ^ shift < 2 ^ 24 * 2 ^ 63 :=
      Nat.mul_lt_mul_of_lt_of_le ha hpow (by positivity)
    rwa [Nat.mod_eq_of_lt (by omega)] at h
  · have hdvd : 2 ^ 64 ∣ a * 2 ^ shift := (Nat.pow_dvd_pow 2 hmany).mul_left a
    have hrest : 2 ^ 64 ∣ q := h ▸ (Nat.dvd_mod_iff (by norm_num)).2 hdvd
    exact absurd (Nat.le_of_dvd hq hrest) (by omega)

/-- The word is the exact period rounded to the nearest, halves up. -/
theorem roundedQ24_eq_iff {p : ExactGpuTimestampPeriod} (hp : p.WellFormed) {q : ℕ} (hq : 0 < q)
    (hlt : q < 2 ^ 64) :
    p.binaryExponent ≠ 104 ∧ p.roundedQ24 = q ↔ ⌊p.value * 2 ^ 24 + 1 / 2⌋ = q := by
  have hlow := hp.le_exponent
  have hhigh := hp.exponent_le
  have hunits : p.value * 2 ^ 24 = p.significand * 2 ^ (p.binaryExponent + 24) := by
    rw [value, zpow_add₀ two_ne_zero, mul_assoc]
    norm_cast
  rw [hunits]
  unfold roundedQ24
  by_cases hsign : 0 ≤ p.binaryExponent + 24
  · obtain ⟨shift, hshift⟩ := Int.eq_ofNat_of_zero_le hsign
    have hproduct : (p.significand : ℚ) * 2 ^ (p.binaryExponent + 24)
        = ((p.significand * 2 ^ shift : ℕ) : ℚ) := by
      rw [hshift, zpow_natCast]
      push_cast
      rfl
    have hhalf : ⌊(1 / 2 : ℚ)⌋ = 0 := by norm_num
    dsimp only
    rw [if_pos hsign, hproduct, Int.floor_natCast_add, hhalf, add_zero, Nat.cast_inj, hshift,
      Int.natAbs_natCast]
    constructor
    · rintro ⟨hne, hmod⟩
      exact shift_eq_of_mod hp.significand_lt (by omega) hq hlt hmod
    · intro hexact
      refine ⟨?_, by rw [hexact, Nat.mod_eq_of_lt (by omega)]⟩
      rintro hlargest
      obtain rfl : shift = 128 := by omega
      have := hp.significand_pos
      omega
  · have hproduct : (p.significand : ℚ) * 2 ^ (p.binaryExponent + 24)
        = (p.significand : ℚ) / 2 ^ (p.binaryExponent + 24).natAbs := by
      have hexponent : p.binaryExponent + 24 = -((p.binaryExponent + 24).natAbs : ℤ) := by omega
      rw [hexponent, zpow_neg, zpow_natCast, Int.natAbs_neg, Int.natAbs_natCast, div_eq_mul_inv]
    dsimp only
    rw [if_neg hsign, hproduct, floor_half_up_div_two_pow (by omega), Nat.cast_inj]
    exact and_iff_right (by omega)

/-- **Time of the device is converted exactly.**  For every accepted pattern, read as the exact
rational `period`: the elapsed time is the product with the ticks rounded up, if that fits
`u64`, as long as the shift drops no bits; and the period in units of `2 ^ -24` is rounded to
the nearest, halves up, if that is not zero and fits. -/
theorem gpu_time_exact {bits : UInt32} {p : ExactGpuTimestampPeriod}
    (h : tryFromF32Bits bits = .ok p) :
    (∀ begin finish n : UInt64, begin < finish →
      ¬DropsBits (((finish.toNat : ℚ) - begin.toNat) * (F32.mk bits).value) →
      (p.elapsedNs begin finish = .ok n ↔
        ⌈((finish.toNat : ℚ) - begin.toNat) * (F32.mk bits).value⌉ = n.toNat)) ∧
    ∀ q : UInt64, p.periodNsQ24 = .ok q ↔
      ⌊(F32.mk bits).value * 2 ^ 24 + 1 / 2⌋ = q.toNat ∧ q ≠ 0 := by
  obtain ⟨hp, hvalue⟩ := tryFromF32Bits_spec h
  rw [hvalue]
  refine ⟨fun begin finish n hlt hkeeps => elapsedNs_eq_ok_iff hp hlt hkeeps, fun q => ?_⟩
  rw [periodNsQ24_eq_ok_iff hp]
  by_cases hq : q = 0
  · exact iff_of_false (fun h => h.2.2 hq) fun h => h.2 hq
  · have hpos : 0 < q.toNat := Nat.pos_of_ne_zero fun hzero => hq (UInt64.toNat_inj.1 hzero)
    rw [← roundedQ24_eq_iff hp hpos q.toNat_lt, and_assoc]

/-- Three ticks of half a nanosecond take two, and half a nanosecond is `2 ^ 23` units. -/
theorem gpu_time_exact_half :
    (ExactGpuTimestampPeriod.mk (2 ^ 23) (-24)).elapsedNs 4 7 = .ok 2 ∧
      (ExactGpuTimestampPeriod.mk (2 ^ 23) (-24)).periodNsQ24 = .ok 0x800000 := by
  have hperiod : tryFromF32Bits 0x3F000000 = .ok ⟨2 ^ 23, -24⟩ := by decide +kernel
  have hhalf : (F32.mk 0x3F000000).value = 1 / 2 := by decide +kernel
  obtain ⟨helapsed, hq24⟩ := gpu_time_exact hperiod
  rw [hhalf] at helapsed hq24
  have hseven : (7 : UInt64).toNat = 7 := rfl
  have hfour : (4 : UInt64).toNat = 4 := rfl
  have hproduct : ((7 : UInt64).toNat - (4 : UInt64).toNat : ℚ) * (1 / 2) = 3 / 2 := by
    rw [hseven, hfour]
    norm_num
  have hunits : ((0x800000 : UInt64).toNat : ℤ) = 0x800000 := rfl
  refine ⟨(helapsed 4 7 2 (by decide) ?_).2 ?_, (hq24 0x800000).2 ⟨?_, by decide⟩⟩
  · rintro ⟨multiple, rest, hpos, -, heq⟩
    have hge : (1 : ℚ) ≤ multiple := by exact_mod_cast hpos
    have hrest : (0 : ℚ) ≤ rest := Nat.cast_nonneg rest
    rw [hproduct] at heq
    linarith
  · have hceil : ⌈(3 / 2 : ℚ)⌉ = 2 := by norm_num
    rw [hproduct, hceil]
    rfl
  · rw [hunits]
    norm_num

/-- Two ticks of `2 ^ 127` nanoseconds each are taken for no time at all; and the smallest
period of all, which rounds to zero units, is refused. -/
theorem elapsedNs_drops_bits :
    (tryFromF32Bits 0x7F000000 = .ok ⟨2 ^ 23, 104⟩ ∧
      (ExactGpuTimestampPeriod.mk (2 ^ 23) 104).elapsedNs 0 2 = .ok 0 ∧
      ⌈(((2 : UInt64).toNat : ℚ) - (0 : UInt64).toNat) * (F32.mk 0x7F000000).value⌉ = 2 ^ 128) ∧
    tryFromF32Bits 1 = .ok ⟨1, -149⟩ ∧
      ⌊(F32.mk 1).value * 2 ^ 24 + 1 / 2⌋ = 0 ∧
      (ExactGpuTimestampPeriod.mk 1 (-149)).periodNsQ24 = .error .gpuTimestampQueryUnavailable := by
  have hlargest : (F32.mk 0x7F000000).value = 2 ^ 127 := by decide +kernel
  have hsmallest : (F32.mk 1).value = 1 / 2 ^ 149 := by decide +kernel
  have htwo : (2 : UInt64).toNat = 2 := rfl
  have hzero : (0 : UInt64).toNat = 0 := rfl
  rw [hlargest, hsmallest, htwo, hzero]
  refine ⟨⟨by decide +kernel, by decide +kernel, ?_⟩, by decide +kernel, by norm_num,
    by decide +kernel⟩
  norm_num

end ExactGpuTimestampPeriod

end ALife
