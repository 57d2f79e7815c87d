/-
# BLAKE3 identities and little-endian words

`Blake3Digest` (`crates/alife_core/src/blake3_digest.rs`) is 32 bytes.  The hash
function itself comes from a package, so the modules that hash take it as a
parameter; what is written to a hasher before it is finished is a byte string,
built here by the writes of the source: integers little-endian, a domain under
its length.  The little-endian readers of the codecs are each the inverse of one
write (`reads_u16` and the others).
-/

import ALife.Core.DigestMixing
import ALife.Machine.Reader

namespace ALife

open Machine

/-- A BLAKE3 digest, 32 bytes. -/
structure Blake3Digest where
  bytes : Vector UInt8 32
  deriving DecidableEq, Repr

namespace Blake3Digest

/-- `Blake3Digest::default`: all bytes zero. -/
def default : Blake3Digest := ⟨Vector.replicate 32 0⟩

/-- The bytes as a string of 32. -/
def toList (d : Blake3Digest) : List UInt8 := d.bytes.toList

theorem length_toList (d : Blake3Digest) : d.toList.length = 32 := by
  simp [toList]

theorem toList_injective : Function.Injective toList := by
  intro a b h
  cases a
  cases b
  exact congrArg mk (Vector.toList_inj.1 h)

/-- `Blake3Digest::from_bytes` of 32 bytes. -/
def ofList (bs : List UInt8) (h : bs.length = 32) : Blake3Digest := ⟨⟨bs.toArray, by simpa using h⟩⟩

theorem toList_ofList {bs : List UInt8} (h : bs.length = 32) : (ofList bs h).toList = bs := by
  simp [toList, ofList]

end Blake3Digest

/-- `domain_hasher`: the domain under its length. -/
def domainHasher (domain : List UInt8) : List UInt8 := leBytes64 domain.length.toUInt64 ++ domain

/-- The words of a digest, one `write_u64` each. -/
def digest4Bytes (d : Digest256) : List UInt8 := d.words.flatMap leBytes64

/-- A tag byte, then the value if there is one. -/
def optionalBytes {α : Type} (w : α → List UInt8) : Option α → List UInt8
  | none => [0]
  | some a => 1 :: w a

/-! ### Little-endian readers -/

section Readers

variable {ε : Type}

/-- `u8`. -/
def readU8 (e : ε) : Reader ε UInt8 := do
  let bs ← Reader.take e 1
  pure (DigestWrite.leNat bs).toUInt8

/-- `u16::from_le_bytes`. -/
def readU16 (e : ε) : Reader ε UInt16 := do
  let bs ← Reader.take e 2
  pure (DigestWrite.leNat bs).toUInt16

/-- `u32::from_le_bytes`. -/
def readU32 (e : ε) : Reader ε UInt32 := do
  let bs ← Reader.take e 4
  pure (DigestWrite.leNat bs).toUInt32

/-- `u64::from_le_bytes`. -/
def readU64 (e : ε) : Reader ε UInt64 := do
  let bs ← Reader.take e 8
  pure (DigestWrite.leNat bs).toUInt64

/-- A digest of 32 bytes. -/
def readBlake3 (e : ε) : Reader ε Blake3Digest := fun input =>
  if h : 32 ≤ input.length then
    .ok (Blake3Digest.ofList (input.take 32) (List.length_take_of_le h), input.drop 32)
  else .error e

/-- A number of `k` little-endian bytes is below `256 ^ k`. -/
theorem leNat_lt (bs : List UInt8) : DigestWrite.leNat bs < 256 ^ bs.length := by
  induction bs with
  | nil => decide
  | cons b bs ih =>
    have hb := b.toNat_lt
    have hcons : DigestWrite.leNat (b :: bs) = b.toNat + 256 * DigestWrite.leNat bs := rfl
    rw [hcons, List.length_cons, pow_succ]
    omega

/-- A word reader takes the bytes that its word is written as. -/
theorem reads_word {α : Type} (e : ε) (k : ℕ) (ofNat : ℕ → α) (w : α → List UInt8)
    (hlen : ∀ a, (w a).length = k) (hleft : ∀ a, ofNat (DigestWrite.leNat (w a)) = a)
    (hright : ∀ n, n < 256 ^ k → DigestWrite.leNat (w (ofNat n)) = n) :
    Reads (do let bs ← Reader.take e k; pure (ofNat (DigestWrite.leNat bs)) : Reader ε α)
      (fun _ => True) w := by
  intro input a rest
  rw [Reader.bind_eq_ok_iff]
  simp only [Reader.take_eq_ok_iff, Reader.pure_eq_ok_iff, true_and]
  constructor
  · rintro ⟨bs, _, ⟨hbs, rfl⟩, rfl, rfl⟩
    have hlt := leNat_lt bs
    rw [hbs] at hlt
    rw [CanonicalDigestBuilder.leNat_injective ((hlen _).trans hbs.symm) (hright _ hlt)]
  · rintro rfl
    exact ⟨w a, rest, ⟨hlen a, rfl⟩, hleft a, rfl⟩

theorem reads_u8 (e : ε) : Reads (readU8 e) (fun _ => True) (fun v => [v]) := by
  have hone : ∀ v : UInt8, DigestWrite.leNat [v] = v.toNat := fun v => by
    simp [DigestWrite.leNat]
  refine reads_word e 1 Nat.toUInt8 (fun v => [v]) (fun _ => rfl) (fun v => ?_) fun n hn => ?_
  · rw [hone, Nat.toUInt8, UInt8.ofNat_toNat]
  · rw [hone]
    exact UInt8.toNat_ofNat_of_lt' hn

theorem reads_u16 (e : ε) : Reads (readU16 e) (fun _ => True) leBytes16 := by
  refine reads_word e 2 Nat.toUInt16 leBytes16 (fun _ => rfl) (fun v => ?_) fun n hn => ?_
  · rw [DigestWrite.leNat_leBytes16, Nat.toUInt16, UInt16.ofNat_toNat]
  · rw [DigestWrite.leNat_leBytes16]
    exact UInt16.toNat_ofNat_of_lt' hn

theorem reads_u32 (e : ε) : Reads (readU32 e) (fun _ => True) leBytes32 := by
  refine reads_word e 4 Nat.toUInt32 leBytes32 (fun _ => rfl) (fun v => ?_) fun n hn => ?_
  · rw [DigestWrite.leNat_leBytes32, Nat.toUInt32, UInt32.ofNat_toNat]
  · rw [DigestWrite.leNat_leBytes32]
    exact UInt32.toNat_ofNat_of_lt' hn

theorem reads_u64 (e : ε) : Reads (readU64 e) (fun _ => True) leBytes64 := by
  refine reads_word e 8 Nat.toUInt64 leBytes64 (fun _ => rfl) (fun v => ?_) fun n hn => ?_
  · rw [DigestWrite.leNat_leBytes64, Nat.toUInt64, UInt64.ofNat_toNat]
  · rw [DigestWrite.leNat_leBytes64]
    exact UInt64.toNat_ofNat_of_lt' hn

theorem reads_blake3 (e : ε) : Reads (readBlake3 e) (fun _ => True) Blake3Digest.toList := by
  intro input d rest
  unfold readBlake3
  split_ifs with h
  · simp only [Except.ok.injEq, Prod.mk.injEq, true_and]
    constructor
    · rintro ⟨rfl, rfl⟩
      rw [Blake3Digest.toList_ofList, List.take_append_drop]
    · rintro rfl
      refine ⟨Blake3Digest.toList_injective ?_, ?_⟩
      · rw [Blake3Digest.toList_ofList, ← d.length_toList, List.take_left]
      · rw [← d.length_toList, List.drop_left]
  · simp only [false_iff, true_and]
    rintro rfl
    rw [List.length_append, d.length_toList] at h
    omega

/-- Four words of 64 bits. -/
def readDigest4 (e : ε) : Reader ε Digest256 := do
  let w0 ← readU64 e
  let w1 ← readU64 e
  let w2 ← readU64 e
  let w3 ← readU64 e
  pure ⟨w0, w1, w2, w3⟩

theorem reads_digest4 (e : ε) : Reads (readDigest4 e) (fun _ => True) digest4Bytes := by
  intro input d rest
  simp only [readDigest4, Reader.bind_eq_ok_iff, reads_u64 e _ _ _, Reader.pure_eq_ok_iff, true_and]
  constructor
  · rintro ⟨w0, _, rfl, w1, _, rfl, w2, _, rfl, w3, _, rfl, rfl, rfl⟩
    simp [digest4Bytes, Digest256.words]
  · rintro rfl
    refine ⟨d.w0, _, ?_, d.w1, _, rfl, d.w2, _, rfl, d.w3, _, rfl, rfl, rfl⟩
    simp [digest4Bytes, Digest256.words]

/-- A tag byte, 0 or 1, then the value if the tag says so. -/
def readOptional {α : Type} (e : ε) (x : Reader ε α) : Reader ε (Option α) := do
  let tag ← readU8 e
  if tag = 0 then pure none
  else if tag = 1 then do
    let a ← x
    pure (some a)
  else Reader.lift (.error e)

theorem reads_optional {α : Type} (e : ε) {x : Reader ε α} {w : α → List UInt8}
    (h : Reads x (fun _ => True) w) :
    Reads (readOptional e x) (fun _ => True) (optionalBytes w) := by
  intro input o rest
  rw [readOptional, Reader.bind_eq_ok_iff]
  simp only [reads_u8 e _ _ _, true_and]
  constructor
  · rintro ⟨tag, mid, rfl, hmid⟩
    split_ifs at hmid with h0 h1
    · obtain ⟨rfl, rfl⟩ := Reader.pure_eq_ok_iff.1 hmid
      rw [h0]
      rfl
    · obtain ⟨a, _, hread, hpure⟩ := Reader.bind_eq_ok_iff.1 hmid
      obtain ⟨rfl, rfl⟩ := Reader.pure_eq_ok_iff.1 hpure
      rw [h1, ((h _ _ _).1 hread).2]
      rfl
    · exact absurd (Reader.lift_eq_ok_iff.1 hmid).1 (by simp)
  · rintro rfl
    cases o with
    | none => exact ⟨0, rest, rfl, Reader.pure_eq_ok_iff.2 ⟨rfl, rfl⟩⟩
    | some a =>
      refine ⟨1, w a ++ rest, rfl, ?_⟩
      rw [if_neg (by decide), if_pos rfl, Reader.bind_eq_ok_iff]
      exact ⟨a, rest, h.read trivial rest, Reader.pure_eq_ok_iff.2 ⟨rfl, rfl⟩⟩

end Readers

end ALife
