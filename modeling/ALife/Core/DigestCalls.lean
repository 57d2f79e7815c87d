/-
# The digest encoding can be read back

A `DigestWrite` is one write call on a `CanonicalDigestBuilder`
(`crates/alife_core/src/canonical_digest.rs`).  What an accepted call appends is
its tag and its value, and `readWrite` takes it off the front of a byte string
again.  Two histories with the same bytes therefore made the same calls, but for
the sign of zeros and for refused floats, which append nothing.
-/

import ALife.Core.CanonicalDigest
import ALife.Machine.Mutation

namespace ALife

open Machine

/-- A slice: its length fits a 64-bit word. -/
structure Slice where
  bytes : List UInt8
  fits : bytes.length < 2 ^ 64
  deriving DecidableEq

/-- A write call with its argument. -/
inductive DigestWrite where
  | bool (value : Bool)
  | u8 (value : UInt8)
  | u16 (value : UInt16)
  | u32 (value : UInt32)
  | u64 (value : UInt64)
  | i8 (value : Int8)
  | i16 (value : Int16)
  | i32 (value : Int32)
  | i64 (value : Int64)
  | f32 (value : F32)
  | f64 (value : F64)
  | bytes (value : Slice)
  | utf8 (value : Slice)
  | sequenceLen (len : UInt64)
  | none
  | some
  deriving DecidableEq

namespace DigestWrite

/-- The call, which mutates the builder.  The float writes check before they push. -/
def exec : DigestWrite → EStateM ScaffoldContractError CanonicalDigestBuilder Unit
  | .bool value => modify (·.writeBool value)
  | .u8 value => modify (·.writeU8 value)
  | .u16 value => modify (·.writeU16 value)
  | .u32 value => modify (·.writeU32 value)
  | .u64 value => modify (·.writeU64 value)
  | .i8 value => modify (·.writeI8 value)
  | .i16 value => modify (·.writeI16 value)
  | .i32 value => modify (·.writeI32 value)
  | .i64 value => modify (·.writeI64 value)
  | .f32 value => do
    ofResult (reject (value.isFinite = false) .nonFiniteFloat)
    modify (·.push [0x0a])
    modify (·.push (leBytes32 (if F32.feq value .zero then 0 else value.bits)))
  | .f64 value => do
    ofResult (reject (value.isFinite = false) .nonFiniteFloat)
    modify (·.push [0x0b])
    modify (·.push (leBytes64 (if F64.feq value .zero then 0 else value.bits)))
  | .bytes value => modify (·.writeBytes value.bytes)
  | .utf8 value => modify (·.writeUtf8 value.bytes)
  | .sequenceLen len => modify (·.writeSequenceLen len.toNat)
  | .none => modify (·.writeNone)
  | .some => modify (·.writeSome)

/-- A history of calls; a refused one does not stop it. -/
def after (d : CanonicalDigestBuilder) (calls : List DigestWrite) : CanonicalDigestBuilder :=
  calls.foldl (fun d call => stateAfter (call.exec d)) d

/-- The call is not refused. -/
def accepted : DigestWrite → Bool
  | .f32 value => value.isFinite
  | .f64 value => value.isFinite
  | _ => true

/-- The call with zeros given a positive sign. -/
def canonical : DigestWrite → DigestWrite
  | .f32 value => .f32 (if F32.feq value .zero then .zero else value)
  | .f64 value => .f64 (if F64.feq value .zero then .zero else value)
  | call => call

/-- What an accepted call appends. -/
def code : DigestWrite → List UInt8
  | .bool value => [0x01, if value then 1 else 0]
  | .u8 value => [0x02, value]
  | .u16 value => 0x03 :: leBytes16 value
  | .u32 value => 0x04 :: leBytes32 value
  | .u64 value => 0x05 :: leBytes64 value
  | .i8 value => [0x06, value.toUInt8]
  | .i16 value => 0x07 :: leBytes16 value.toUInt16
  | .i32 value => 0x08 :: leBytes32 value.toUInt32
  | .i64 value => 0x09 :: leBytes64 value.toUInt64
  | .f32 value => 0x0a :: leBytes32 (if F32.feq value .zero then 0 else value.bits)
  | .f64 value => 0x0b :: leBytes64 (if F64.feq value .zero then 0 else value.bits)
  | .bytes value => 0x0c :: (leBytes64 value.bytes.length.toUInt64 ++ value.bytes)
  | .utf8 value => 0x10 :: (leBytes64 value.bytes.length.toUInt64 ++ value.bytes)
  | .sequenceLen len => 0x0d :: leBytes64 len
  | .none => [0x0e]
  | .some => [0x0f]

/-- A call appends its code, or is refused and appends nothing. -/
theorem exec_cases (call : DigestWrite) (d : CanonicalDigestBuilder) :
    (call.accepted = true ∧ call.exec d = .ok () (d.push call.code)) ∨
      (call.accepted = false ∧ call.exec d = .error .nonFiniteFloat d) := by
  have hfloat {finite : Bool} {tag : UInt8} {payload : List UInt8} :
      (finite = true ∧ (do
        ofResult (reject (finite = false) .nonFiniteFloat)
        modify (·.push [tag])
        modify (·.push payload) :
          EStateM ScaffoldContractError CanonicalDigestBuilder Unit) d =
            .ok () (d.push (tag :: payload))) ∨
      (finite = false ∧ (do
        ofResult (reject (finite = false) .nonFiniteFloat)
        modify (·.push [tag])
        modify (·.push payload) :
          EStateM ScaffoldContractError CanonicalDigestBuilder Unit) d =
            .error .nonFiniteFloat d) := by
    cases finite with
    | true =>
      refine .inl ⟨rfl, ?_⟩
      show EStateM.Result.ok () ((d.push [tag]).push payload) = _
      simp [CanonicalDigestBuilder.push]
    | false => exact .inr ⟨rfl, rfl⟩
  cases call with
  | f32 value => exact hfloat
  | f64 value => exact hfloat
  | sequenceLen len =>
    refine .inl ⟨rfl, ?_⟩
    show EStateM.Result.ok () (d.push (0x0d :: leBytes64 len.toNat.toUInt64)) = _
    rw [code, Nat.toUInt64, UInt64.ofNat_toNat]
  | _ => exact .inl ⟨rfl, rfl⟩

theorem after_bytes (d : CanonicalDigestBuilder) (calls : List DigestWrite) :
    (after d calls).bytes = d.bytes ++ (calls.filter accepted).flatMap code := by
  unfold after
  induction calls generalizing d with
  | nil => simp
  | cons call calls ih =>
    rw [List.foldl_cons, ih]
    rcases exec_cases call d with ⟨haccepted, hexec⟩ | ⟨haccepted, hexec⟩
    · rw [hexec, List.filter_cons_of_pos haccepted]
      simp [CanonicalDigestBuilder.push]
    · rw [hexec, List.filter_cons_of_neg (by simp [haccepted])]
      rfl

/-! ### Reading back -/

/-- The number of a little-endian byte string. -/
def leNat (bs : List UInt8) : ℕ := bs.foldr (fun b acc => b.toNat + 256 * acc) 0

theorem leNat_leBytes16 (v : UInt16) : leNat (leBytes16 v) = v.toNat := by
  have hv := v.toNat_lt
  simp only [leNat, leBytes16, List.foldr_cons, List.foldr_nil, UInt16.toNat_toUInt8,
    UInt16.toNat_shiftRight, Nat.shiftRight_eq_div_pow,
    show (8 : UInt16).toNat % 16 = 8 from rfl]
  omega

theorem leNat_leBytes32 (v : UInt32) : leNat (leBytes32 v) = v.toNat := by
  have hv := v.toNat_lt
  simp only [leNat, leBytes32, List.foldr_cons, List.foldr_nil, UInt32.toNat_toUInt8,
    UInt32.toNat_shiftRight, Nat.shiftRight_eq_div_pow, show (8 : UInt32).toNat % 32 = 8 from rfl,
    show (16 : UInt32).toNat % 32 = 16 from rfl, show (24 : UInt32).toNat % 32 = 24 from rfl]
  omega

theorem leNat_leBytes64 (v : UInt64) : leNat (leBytes64 v) = v.toNat := by
  have hv := v.toNat_lt
  simp only [leNat, leBytes64, List.foldr_cons, List.foldr_nil, UInt64.toNat_toUInt8,
    UInt64.toNat_shiftRight, Nat.shiftRight_eq_div_pow, show (8 : UInt64).toNat % 64 = 8 from rfl,
    show (16 : UInt64).toNat % 64 = 16 from rfl, show (24 : UInt64).toNat % 64 = 24 from rfl,
    show (32 : UInt64).toNat % 64 = 32 from rfl, show (40 : UInt64).toNat % 64 = 40 from rfl,
    show (48 : UInt64).toNat % 64 = 48 from rfl, show (56 : UInt64).toNat % 64 = 56 from rfl]
  omega

/-- Takes a little-endian word of `k` bytes off the front. -/
def readWord (k : ℕ) (bs : List UInt8) : Option (ℕ × List UInt8) :=
  if k ≤ bs.length then Option.some (leNat (bs.take k), bs.drop k) else Option.none

/-- Takes a length and that many bytes off the front. -/
def readSlice (bs : List UInt8) : Option (Slice × List UInt8) := do
  let (n, rest) ← readWord 8 bs
  if h : n < 2 ^ 64 ∧ n ≤ rest.length then
    Option.some (⟨rest.take n, by rw [List.length_take]; omega⟩, rest.drop n)
  else Option.none

/-- Takes the value of a tag off the front. -/
def readTagged (rest : List UInt8) : ℕ → Option (DigestWrite × List UInt8)
  | 1 => (readWord 1 rest).map (Prod.map (fun n => .bool (n = 1)) id)
  | 2 => (readWord 1 rest).map (Prod.map (fun n => .u8 n.toUInt8) id)
  | 3 => (readWord 2 rest).map (Prod.map (fun n => .u16 n.toUInt16) id)
  | 4 => (readWord 4 rest).map (Prod.map (fun n => .u32 n.toUInt32) id)
  | 5 => (readWord 8 rest).map (Prod.map (fun n => .u64 n.toUInt64) id)
  | 6 => (readWord 1 rest).map (Prod.map (fun n => .i8 n.toUInt8.toInt8) id)
  | 7 => (readWord 2 rest).map (Prod.map (fun n => .i16 n.toUInt16.toInt16) id)
  | 8 => (readWord 4 rest).map (Prod.map (fun n => .i32 n.toUInt32.toInt32) id)
  | 9 => (readWord 8 rest).map (Prod.map (fun n => .i64 n.toUInt64.toInt64) id)
  | 10 => (readWord 4 rest).map (Prod.map (fun n => .f32 ⟨n.toUInt32⟩) id)
  | 11 => (readWord 8 rest).map (Prod.map (fun n => .f64 ⟨n.toUInt64⟩) id)
  | 12 => (readSlice rest).map (Prod.map .bytes id)
  | 13 => (readWord 8 rest).map (Prod.map (fun n => .sequenceLen n.toUInt64) id)
  | 14 => Option.some (.none, rest)
  | 15 => Option.some (.some, rest)
  | 16 => (readSlice rest).map (Prod.map .utf8 id)
  | _ => Option.none

/-- Takes a call off the front. -/
def readWrite : List UInt8 → Option (DigestWrite × List UInt8)
  | [] => Option.none
  | tag :: rest => readTagged rest tag.toNat

theorem readWord_append {w : List UInt8} (k : ℕ) (hk : w.length = k) (rest : List UInt8) :
    readWord k (w ++ rest) = Option.some (leNat w, rest) := by
  subst hk
  simp [readWord]

theorem readSlice_append (value : Slice) (rest : List UInt8) :
    readSlice (leBytes64 value.bytes.length.toUInt64 ++ value.bytes ++ rest) =
      Option.some (value, rest) := by
  have hlength : value.bytes.length.toUInt64.toNat = value.bytes.length :=
    UInt64.toNat_ofNat_of_lt' value.fits
  have hfits := value.fits
  unfold readSlice
  rw [List.append_assoc, readWord_append 8 rfl, leNat_leBytes64, hlength]
  simp only [Option.bind_eq_bind, Option.bind_some]
  rw [dif_pos ⟨hfits, by rw [List.length_append]; omega⟩]
  simp

/-- A call is read back, with its zeros positive. -/
theorem readWrite_code (call : DigestWrite) (rest : List UInt8) :
    readWrite (call.code ++ rest) = Option.some (call.canonical, rest) := by
  have hbyte (v : UInt8) : leNat [v] = v.toNat := by simp [leNat]
  cases call with
  | bool value =>
    show (readWord 1 ([if value then 1 else 0] ++ rest)).map _ = _
    rw [readWord_append 1 rfl, hbyte]
    cases value <;> rfl
  | u8 value =>
    show (readWord 1 ([value] ++ rest)).map _ = _
    rw [readWord_append 1 rfl, hbyte]
    simp [canonical]
  | u16 value =>
    show (readWord 2 (leBytes16 value ++ rest)).map _ = _
    rw [readWord_append 2 rfl, leNat_leBytes16]
    simp [canonical]
  | u32 value =>
    show (readWord 4 (leBytes32 value ++ rest)).map _ = _
    rw [readWord_append 4 rfl, leNat_leBytes32]
    simp [canonical]
  | u64 value =>
    show (readWord 8 (leBytes64 value ++ rest)).map _ = _
    rw [readWord_append 8 rfl, leNat_leBytes64]
    simp [canonical]
  | i8 value =>
    show (readWord 1 ([value.toUInt8] ++ rest)).map _ = _
    rw [readWord_append 1 rfl, hbyte]
    show Option.some (DigestWrite.i8 value.toUInt8.toNat.toUInt8.toInt8, rest) = _
    rw [Nat.toUInt8, UInt8.ofNat_toNat, Int8.toInt8_toUInt8]
    rfl
  | i16 value =>
    show (readWord 2 (leBytes16 value.toUInt16 ++ rest)).map _ = _
    rw [readWord_append 2 rfl, leNat_leBytes16]
    show Option.some (DigestWrite.i16 value.toUInt16.toNat.toUInt16.toInt16, rest) = _
    rw [Nat.toUInt16, UInt16.ofNat_toNat, Int16.toInt16_toUInt16]
    rfl
  | i32 value =>
    show (readWord 4 (leBytes32 value.toUInt32 ++ rest)).map _ = _
    rw [readWord_append 4 rfl, leNat_leBytes32]
    show Option.some (DigestWrite.i32 value.toUInt32.toNat.toUInt32.toInt32, rest) = _
    rw [Nat.toUInt32, UInt32.ofNat_toNat, Int32.toInt32_toUInt32]
    rfl
  | i64 value =>
    show (readWord 8 (leBytes64 value.toUInt64 ++ rest)).map _ = _
    rw [readWord_append 8 rfl, leNat_leBytes64]
    show Option.some (DigestWrite.i64 value.toUInt64.toNat.toUInt64.toInt64, rest) = _
    rw [Nat.toUInt64, UInt64.ofNat_toNat, Int64.toInt64_toUInt64]
    rfl
  | f32 value =>
    show (readWord 4 (leBytes32 (if F32.feq value .zero then 0 else value.bits) ++ rest)).map _ = _
    rw [readWord_append 4 rfl, leNat_leBytes32, canonical]
    split_ifs <;> simp [F32.zero]
  | f64 value =>
    show (readWord 8 (leBytes64 (if F64.feq value .zero then 0 else value.bits) ++ rest)).map _ = _
    rw [readWord_append 8 rfl, leNat_leBytes64, canonical]
    split_ifs <;> simp [F64.zero]
  | bytes value =>
    rw [code, List.cons_append, readWrite, show (0x0c : UInt8).toNat = 12 from rfl, readTagged,
      readSlice_append]
    rfl
  | utf8 value =>
    rw [code, List.cons_append, readWrite, show (0x10 : UInt8).toNat = 16 from rfl, readTagged,
      readSlice_append]
    rfl
  | sequenceLen len =>
    show (readWord 8 (leBytes64 len ++ rest)).map _ = _
    rw [readWord_append 8 rfl, leNat_leBytes64]
    simp [canonical]
  | none => rfl
  | some => rfl

theorem code_ne_nil (call : DigestWrite) : call.code ≠ [] := by
  cases call <;> exact List.cons_ne_nil _ _

/-- Accepted calls are told by their codes. -/
theorem map_canonical_of_flatMap_code {calls calls' : List DigestWrite}
    (h : calls.flatMap code = calls'.flatMap code) :
    calls.map canonical = calls'.map canonical := by
  induction calls generalizing calls' with
  | nil =>
    cases calls' with
    | nil => rfl
    | cons call' rest' =>
      have hcode : [] = call'.code ++ rest'.flatMap code := h
      exact absurd (List.append_eq_nil_iff.1 hcode.symm).1 call'.code_ne_nil
  | cons call rest ih =>
    cases calls' with
    | nil =>
      have hcode : call.code ++ rest.flatMap code = [] := h
      exact absurd (List.append_eq_nil_iff.1 hcode).1 call.code_ne_nil
    | cons call' rest' =>
      have hread : readWrite (call.code ++ rest.flatMap code) =
          readWrite (call'.code ++ rest'.flatMap code) := congrArg readWrite h
      rw [readWrite_code, readWrite_code, Option.some.injEq, Prod.mk.injEq] at hread
      rw [List.map_cons, List.map_cons, hread.1, ih hread.2]

/-- A builder of a domain, after a history of calls, reads back as the domain and
the accepted calls. -/
theorem eq_of_bytes_eq {domain domain' : Slice} {calls calls' : List DigestWrite}
    (h : (after (.new domain.bytes) calls).bytes = (after (.new domain'.bytes) calls').bytes) :
    domain = domain' ∧
      (calls.filter accepted).map canonical = (calls'.filter accepted).map canonical := by
  rw [after_bytes, after_bytes] at h
  have hread : readSlice (leBytes64 domain.bytes.length.toUInt64 ++ domain.bytes ++
        (calls.filter accepted).flatMap code) =
      readSlice (leBytes64 domain'.bytes.length.toUInt64 ++ domain'.bytes ++
        (calls'.filter accepted).flatMap code) := congrArg readSlice (List.cons.inj h).2
  rw [readSlice_append, readSlice_append, Option.some.injEq, Prod.mk.injEq] at hread
  exact ⟨hread.1, map_canonical_of_flatMap_code hread.2⟩

end DigestWrite

end ALife
