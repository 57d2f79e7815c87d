/-
# One word changed changes all four words of the digest

Each of the four streams of `finish256` mixes one word after the other, and each
mixing step is injective in the state and in the word.  A byte string that
differs from another of the same length inside one aligned word therefore ends
in another state, in each stream.
-/

import ALife.Core.DigestCalls
import ALife.Machine.Mixing

namespace ALife

open Machine

namespace CanonicalDigestBuilder

theorem splitmix64_eq (value : UInt64) :
    splitmix64 value = xorShiftRight 31 (xorShiftRight 27 (xorShiftRight 30
      (value + 0x9e3779b97f4a7c15) * 0xbf58476d1ce4e5b9) * 0x94d049bb133111eb) := rfl

/-- `splitmix64` is injective: both multipliers are odd. -/
theorem splitmix64_injective : Function.Injective splitmix64 := by
  have h₁ : (0xbf58476d1ce4e5b9 : UInt64) * 0x96de1b173f119089 = 1 := by decide
  have h₂ : (0x94d049bb133111eb : UInt64) * 0x319642b2d24d8ec3 = 1 := by decide
  intro x y h
  rw [splitmix64_eq, splitmix64_eq] at h
  have h := xorShiftRight_injective (by decide) h
  have h := mul_injective_of_inverse h₂ h
  have h := xorShiftRight_injective (by decide) h
  have h := mul_injective_of_inverse h₁ h
  have h := xorShiftRight_injective (by decide) h
  exact add_injective _ h

/-! ### Streams -/

/-- One stream over the chunks. -/
def absorbStream (s : UInt64) : List UInt8 → UInt64
  | b0 :: b1 :: b2 :: b3 :: b4 :: b5 :: b6 :: b7 :: rest =>
    absorbStream (splitmix64 (s ^^^ leWord [b0, b1, b2, b3, b4, b5, b6, b7])) rest
  | [] => s
  | short => splitmix64 (s ^^^ leWord short)

theorem absorb_eq (s : Digest256) (bs : List UInt8) :
    absorb s bs = ⟨absorbStream s.w0 bs, absorbStream s.w1 bs, absorbStream s.w2 bs,
      absorbStream s.w3 bs⟩ := by
  fun_induction absorb s bs with
  | case1 s b0 b1 b2 b3 b4 b5 b6 b7 rest ih =>
    rw [ih]
    simp only [absorbStream, mix]
  | case2 s => simp only [absorbStream]
  | case3 s short hlong hnil => simp only [absorbStream, mix]

/-- A stream takes eight bytes at a time. -/
theorem absorbStream_eq (s : UInt64) {bs : List UInt8} (h : bs ≠ []) :
    absorbStream s bs = absorbStream (splitmix64 (s ^^^ leWord (bs.take 8))) (bs.drop 8) := by
  rcases bs with _ | ⟨b0, _ | ⟨b1, _ | ⟨b2, _ | ⟨b3, _ | ⟨b4, _ | ⟨b5, _ | ⟨b6, _ | ⟨b7, rest⟩⟩⟩⟩⟩⟩⟩⟩
  · exact absurd rfl h
  all_goals rfl

/-- The word of at most eight bytes is their number. -/
theorem toNat_leWord {bs : List UInt8} (h : bs.length ≤ 8) :
    (leWord bs).toNat = DigestWrite.leNat bs ∧ DigestWrite.leNat bs < 256 ^ bs.length := by
  induction bs with
  | nil => exact ⟨rfl, by decide⟩
  | cons b bs ih =>
    have hlength : bs.length ≤ 7 := by
      rw [List.length_cons] at h
      omega
    obtain ⟨hword, hlt⟩ := ih (by omega)
    have hb := b.toNat_lt
    have hpow : 256 ^ bs.length ≤ 256 ^ 7 := Nat.pow_le_pow_right (by decide) hlength
    have hcons : DigestWrite.leNat (b :: bs) = b.toNat + 256 * DigestWrite.leNat bs := rfl
    constructor
    · show (leWord bs <<< 8 ||| b.toUInt64).toNat = _
      rw [UInt64.toNat_or, UInt64.toNat_shiftLeft, UInt8.toNat_toUInt64, hword, hcons,
        show (8 : UInt64).toNat % 64 = 8 from rfl, Nat.shiftLeft_eq, Nat.mod_eq_of_lt (by omega),
        Nat.mul_comm, ← Nat.two_pow_add_eq_or_of_lt (i := 8) hb]
      omega
    · rw [hcons, List.length_cons, pow_succ]
      omega

theorem leNat_injective {bs bs' : List UInt8} (hlength : bs.length = bs'.length)
    (h : DigestWrite.leNat bs = DigestWrite.leNat bs') : bs = bs' := by
  induction bs generalizing bs' with
  | nil => exact (List.length_eq_zero_iff.1 hlength.symm).symm
  | cons b bs ih =>
    obtain ⟨b', rest', rfl⟩ := List.exists_cons_of_length_eq_add_one hlength.symm
    have hb := b.toNat_lt
    have hb' := b'.toNat_lt
    have hsum : b.toNat + 256 * DigestWrite.leNat bs = b'.toNat + 256 * DigestWrite.leNat rest' := h
    have hhead : b = b' := UInt8.toNat_inj.1 (by omega)
    rw [hhead, ih (by simpa using hlength) (by omega)]

theorem leWord_injective {bs bs' : List UInt8} (hlength : bs.length = bs'.length)
    (hsmall : bs.length ≤ 8) (h : leWord bs = leWord bs') : bs = bs' := by
  refine leNat_injective hlength ?_
  rw [← (toNat_leWord hsmall).1, ← (toNat_leWord (hlength ▸ hsmall)).1, h]

theorem absorbStream_injective (bs : List UInt8) : Function.Injective (absorbStream · bs) := by
  intro s s' h
  dsimp only at h
  fun_induction absorbStream s bs generalizing s' with
  | case1 s b0 b1 b2 b3 b4 b5 b6 b7 rest ih =>
    have hmixed := splitmix64_injective (ih h)
    exact UInt64.xor_left_inj _ |>.1 hmixed
  | case2 s => exact h
  | case3 s short hlong hnil =>
    rw [absorbStream.eq_3 _ _ hlong hnil] at h
    exact UInt64.xor_left_inj _ |>.1 (splitmix64_injective h)

/-- Byte strings of one length that differ inside the `k`-th word only. -/
structure DifferInWord (k : ℕ) (bs bs' : List UInt8) : Prop where
  length : bs.length = bs'.length
  ne : bs ≠ bs'
  same : ∀ i, i / 8 ≠ k → bs[i]? = bs'[i]?

theorem DifferInWord.ne_nil {k : ℕ} {bs bs' : List UInt8} (h : DifferInWord k bs bs') :
    bs ≠ [] ∧ bs' ≠ [] := by
  constructor
  · rintro rfl
    exact h.ne (List.length_eq_zero_iff.1 h.length.symm).symm
  · rintro rfl
    exact h.ne (List.length_eq_zero_iff.1 h.length)

theorem DifferInWord.absorbStream_ne {k : ℕ} {bs bs' : List UInt8} (h : DifferInWord k bs bs')
    (s : UInt64) : absorbStream s bs ≠ absorbStream s bs' := by
  induction k generalizing bs bs' s with
  | zero =>
    have hdrop : bs.drop 8 = bs'.drop 8 := by
      refine List.ext_getElem? fun i => ?_
      rw [List.getElem?_drop, List.getElem?_drop]
      exact h.same (8 + i) (by omega)
    have htake : bs.take 8 ≠ bs'.take 8 := by
      intro htake
      apply h.ne
      rw [← List.take_append_drop 8 bs, ← List.take_append_drop 8 bs', htake, hdrop]
    intro hequal
    rw [absorbStream_eq s h.ne_nil.1, absorbStream_eq s h.ne_nil.2, hdrop] at hequal
    have hmixed := splitmix64_injective (absorbStream_injective _ hequal)
    have hword := xor_injective s hmixed
    refine htake (leWord_injective ?_ ?_ hword)
    · rw [List.length_take, List.length_take, h.length]
    · rw [List.length_take]
      omega
  | succ k ih =>
    have htake : bs.take 8 = bs'.take 8 := by
      refine List.ext_getElem? fun i => ?_
      by_cases hi : i < 8
      · rw [List.getElem?_take_of_lt hi, List.getElem?_take_of_lt hi]
        exact h.same i (by omega)
      · rw [List.getElem?_take_eq_none (by omega), List.getElem?_take_eq_none (by omega)]
    have hrest : DifferInWord k (bs.drop 8) (bs'.drop 8) := by
      refine ⟨by rw [List.length_drop, List.length_drop, h.length], fun hdrop => ?_, fun i hi => ?_⟩
      · apply h.ne
        rw [← List.take_append_drop 8 bs, ← List.take_append_drop 8 bs', htake, hdrop]
      · rw [List.getElem?_drop, List.getElem?_drop]
        exact h.same (8 + i) (by omega)
    rw [absorbStream_eq s h.ne_nil.1, absorbStream_eq s h.ne_nil.2, htake]
    exact ih hrest _

/-- Two digests with no word in common. -/
def AllWordsDiffer (d d' : Digest256) : Prop :=
  d.w0 ≠ d'.w0 ∧ d.w1 ≠ d'.w1 ∧ d.w2 ≠ d'.w2 ∧ d.w3 ≠ d'.w3

theorem DifferInWord.finish256 {k : ℕ} {d d' : CanonicalDigestBuilder}
    (h : DifferInWord k d.bytes d'.bytes) : AllWordsDiffer d.finish256 d'.finish256 := by
  unfold CanonicalDigestBuilder.finish256
  rw [absorb_eq, absorb_eq, h.length]
  have hstream (s : UInt64) (word : UInt64) : splitmix64 (absorbStream s d.bytes ^^^ word) ≠
      splitmix64 (absorbStream s d'.bytes ^^^ word) := fun hequal =>
    h.absorbStream_ne s (UInt64.xor_left_inj _ |>.1 (splitmix64_injective hequal))
  exact ⟨hstream _ _, hstream _ _, hstream _ _, hstream _ _⟩

/-- Two streams that start from different words never meet: they absorb the same words. -/
theorem finish256_w0_ne_w1 (d : CanonicalDigestBuilder) : d.finish256.w0 ≠ d.finish256.w1 := by
  unfold CanonicalDigestBuilder.finish256
  rw [absorb_eq]
  intro h
  have hmixed := UInt64.xor_left_inj _ |>.1 (splitmix64_injective h)
  exact absurd (absorbStream_injective d.bytes hmixed) (by decide)

/-- No computed digest is the reserved one. -/
theorem finish256_ne_zero (d : CanonicalDigestBuilder) : d.finish256 ≠ .zero := by
  intro h
  apply finish256_w0_ne_w1 d
  rw [h]
  rfl

/-- **The digest encoding can be read back, and mixing loses no word.**  Equal bytes
come from equal domains and equal accepted calls, zeros of either sign alike; a
refused call appends nothing; strings that differ inside one aligned word have
digests that differ in all four words. -/
theorem canonicalDigest_injective :
    (∀ (domain domain' : Slice) (calls calls' : List DigestWrite),
      (DigestWrite.after (.new domain.bytes) calls).bytes =
        (DigestWrite.after (.new domain'.bytes) calls').bytes →
      domain = domain' ∧ (calls.filter DigestWrite.accepted).map DigestWrite.canonical =
        (calls'.filter DigestWrite.accepted).map DigestWrite.canonical) ∧
    (∀ (call : DigestWrite) (d t : CanonicalDigestBuilder) (e : ScaffoldContractError),
      call.exec d = .error e t → call.accepted = false ∧ t.bytes = d.bytes) ∧
    ∀ (k : ℕ) (d d' : CanonicalDigestBuilder), DifferInWord k d.bytes d'.bytes →
      AllWordsDiffer d.finish256 d'.finish256 := by
  refine ⟨fun _ _ _ _ => DigestWrite.eq_of_bytes_eq, fun call d t e h => ?_,
    fun _ _ _ => DifferInWord.finish256⟩
  rcases call.exec_cases d with ⟨-, hexec⟩ | ⟨hrefused, hexec⟩
  · rw [hexec] at h
    cases h
  · rw [hexec] at h
    cases h
    exact ⟨hrefused, rfl⟩

/-- A change in the second word of a short string; two histories with the same accepted calls
but one, and a refused call. -/
theorem canonicalDigest_injective_secondWord :
    AllWordsDiffer (CanonicalDigestBuilder.mk [1, 2, 3, 4, 5, 6, 7, 8, 9]).finish256
        (CanonicalDigestBuilder.mk [1, 2, 3, 4, 5, 6, 7, 8, 10]).finish256 ∧
      (∀ domain : Slice,
        (DigestWrite.after (.new domain.bytes) [.u16 1, .f32 ⟨0x7FC00000⟩, .bool true]).bytes
          ≠ (DigestWrite.after (.new domain.bytes) [.u16 1, .bool false]).bytes) ∧
      ∀ d t e, (DigestWrite.f32 ⟨0x7FC00000⟩).exec d = .error e t → t.bytes = d.bytes := by
  obtain ⟨hread, hrefused, hmixed⟩ := canonicalDigest_injective
  refine ⟨hmixed 1 _ _ ⟨rfl, by decide, fun i hi => ?_⟩, fun domain h => ?_,
    fun d t e h => (hrefused _ d t e h).2⟩
  · rcases lt_trichotomy i 8 with h | rfl | h
    · interval_cases i <;> rfl
    · exact absurd rfl hi
    · rw [List.getElem?_eq_none (Nat.succ_le_of_lt h), List.getElem?_eq_none (Nat.succ_le_of_lt h)]
  · exact absurd (hread _ _ _ _ h).2 (by decide)

/-- A refused float leaves no trace: two histories with the same bytes. -/
theorem refused_write_leaves_no_trace : ∃ (domain : Slice) (calls calls' : List DigestWrite),
    (DigestWrite.after (.new domain.bytes) calls).bytes =
      (DigestWrite.after (.new domain.bytes) calls').bytes ∧
    calls.map DigestWrite.canonical ≠ calls'.map DigestWrite.canonical :=
  ⟨⟨[], by decide⟩, [.f32 ⟨0x7FC00000⟩], [], by decide, by decide⟩

end CanonicalDigestBuilder

end ALife
