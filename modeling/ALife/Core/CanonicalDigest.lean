/-
# The canonical digest builder

`crates/alife_core/src/canonical_digest.rs`.  A builder accumulates a byte
string: the domain first, then each written value under a tag of its own, every
integer little-endian and every length as eight bytes.  `finish256` mixes the
bytes, eight at a time and padded with zeros, into four SplitMix64 streams and
closes each stream with the byte length.
-/

import ALife.Core.Units
import ALife.Machine.Binary64

namespace ALife

open Machine

/-- A digest of four words, `[u64; 4]`. -/
structure Digest256 where
  w0 : UInt64
  w1 : UInt64
  w2 : UInt64
  w3 : UInt64
  deriving DecidableEq, Repr

/-- The digest `[0; 4]`, reserved as absent by every contract. -/
def Digest256.zero : Digest256 := ⟨0, 0, 0, 0⟩

/-- The four words in order. -/
def Digest256.words (d : Digest256) : List UInt64 := [d.w0, d.w1, d.w2, d.w3]

/-- The identity of a compiled phenotype. -/
structure PhenotypeHash where
  words : Digest256
  deriving DecidableEq, Repr

/-- The bytes of an ASCII text. -/
def asciiBytes (s : String) : List UInt8 := s.toList.map fun c => c.toNat.toUInt8

/-- `u16::to_le_bytes`. -/
def leBytes16 (v : UInt16) : List UInt8 := [v.toUInt8, (v >>> 8).toUInt8]

/-- `u32::to_le_bytes`. -/
def leBytes32 (v : UInt32) : List UInt8 :=
  [v.toUInt8, (v >>> 8).toUInt8, (v >>> 16).toUInt8, (v >>> 24).toUInt8]

/-- `u64::to_le_bytes`. -/
def leBytes64 (v : UInt64) : List UInt8 :=
  [v.toUInt8, (v >>> 8).toUInt8, (v >>> 16).toUInt8, (v >>> 24).toUInt8,
    (v >>> 32).toUInt8, (v >>> 40).toUInt8, (v >>> 48).toUInt8, (v >>> 56).toUInt8]

/-- The accumulated bytes of a digest under construction. -/
structure CanonicalDigestBuilder where
  bytes : List UInt8
  deriving DecidableEq, Repr

namespace CanonicalDigestBuilder

/-- Append raw bytes. -/
def push (d : CanonicalDigestBuilder) (bs : List UInt8) : CanonicalDigestBuilder :=
  ⟨d.bytes ++ bs⟩

/-- `CanonicalDigestBuilder::new`: the domain tag, its length, the domain. -/
def new (domain : List UInt8) : CanonicalDigestBuilder :=
  ⟨0xd0 :: (leBytes64 domain.length.toUInt64 ++ domain)⟩

def writeBool (d : CanonicalDigestBuilder) (v : Bool) : CanonicalDigestBuilder :=
  d.push [0x01, if v then 1 else 0]

def writeU8 (d : CanonicalDigestBuilder) (v : UInt8) : CanonicalDigestBuilder :=
  d.push [0x02, v]

def writeU16 (d : CanonicalDigestBuilder) (v : UInt16) : CanonicalDigestBuilder :=
  d.push (0x03 :: leBytes16 v)

def writeU32 (d : CanonicalDigestBuilder) (v : UInt32) : CanonicalDigestBuilder :=
  d.push (0x04 :: leBytes32 v)

def writeU64 (d : CanonicalDigestBuilder) (v : UInt64) : CanonicalDigestBuilder :=
  d.push (0x05 :: leBytes64 v)

def writeI8 (d : CanonicalDigestBuilder) (v : Int8) : CanonicalDigestBuilder :=
  d.push [0x06, v.toUInt8]

def writeI16 (d : CanonicalDigestBuilder) (v : Int16) : CanonicalDigestBuilder :=
  d.push (0x07 :: leBytes16 v.toUInt16)

def writeI32 (d : CanonicalDigestBuilder) (v : Int32) : CanonicalDigestBuilder :=
  d.push (0x08 :: leBytes32 v.toUInt32)

def writeI64 (d : CanonicalDigestBuilder) (v : Int64) : CanonicalDigestBuilder :=
  d.push (0x09 :: leBytes64 v.toUInt64)

/-- `write_f32`: refuses what is not finite and writes both zeros as `0`. -/
def writeF32 (d : CanonicalDigestBuilder) (v : F32) : Contract CanonicalDigestBuilder :=
  if v.isFinite then .ok (d.push (0x0a :: leBytes32 (if F32.feq v .zero then 0 else v.bits)))
  else .error .nonFiniteFloat

/-- `write_f64`, as `write_f32`. -/
def writeF64 (d : CanonicalDigestBuilder) (v : F64) : Contract CanonicalDigestBuilder :=
  if v.isFinite then .ok (d.push (0x0b :: leBytes64 (if F64.feq v .zero then 0 else v.bits)))
  else .error .nonFiniteFloat

def writeBytes (d : CanonicalDigestBuilder) (v : List UInt8) : CanonicalDigestBuilder :=
  d.push (0x0c :: (leBytes64 v.length.toUInt64 ++ v))

def writeUtf8 (d : CanonicalDigestBuilder) (v : List UInt8) : CanonicalDigestBuilder :=
  d.push (0x10 :: (leBytes64 v.length.toUInt64 ++ v))

def writeSequenceLen (d : CanonicalDigestBuilder) (n : ℕ) : CanonicalDigestBuilder :=
  d.push (0x0d :: leBytes64 n.toUInt64)

def writeNone (d : CanonicalDigestBuilder) : CanonicalDigestBuilder := d.push [0x0e]

def writeSome (d : CanonicalDigestBuilder) : CanonicalDigestBuilder := d.push [0x0f]

/-- The words of a digest, one `write_u64` each. -/
def writeDigest (d : CanonicalDigestBuilder) (v : Digest256) : CanonicalDigestBuilder :=
  v.words.foldl writeU64 d

/-- `splitmix64`. -/
def splitmix64 (value : UInt64) : UInt64 :=
  let value := value + 0x9e3779b97f4a7c15
  let value := (value ^^^ (value >>> 30)) * 0xbf58476d1ce4e5b9
  let value := (value ^^^ (value >>> 27)) * 0x94d049bb133111eb
  value ^^^ (value >>> 31)

/-- One word mixed into each of the four streams. -/
def mix (s : Digest256) (word : UInt64) : Digest256 :=
  ⟨splitmix64 (s.w0 ^^^ word), splitmix64 (s.w1 ^^^ word), splitmix64 (s.w2 ^^^ word),
    splitmix64 (s.w3 ^^^ word)⟩

/-- `u64::from_le_bytes` of up to eight bytes, the missing ones zero. -/
def leWord (bs : List UInt8) : UInt64 :=
  bs.foldr (fun b acc => (acc <<< 8) ||| b.toUInt64) 0

/-- The chunk loop of `finish256`: whole words of eight bytes, then the rest
padded with zeros if there is any. -/
def absorb (s : Digest256) : List UInt8 → Digest256
  | b0 :: b1 :: b2 :: b3 :: b4 :: b5 :: b6 :: b7 :: rest =>
    absorb (mix s (leWord [b0, b1, b2, b3, b4, b5, b6, b7])) rest
  | [] => s
  | short => mix s (leWord short)

/-- `finish256`. -/
def finish256 (d : CanonicalDigestBuilder) : Digest256 :=
  mix
    (absorb ⟨0xa11fea7ed00d0001, 0xc0decafe51a70002, 0x9e3779b97f4a7c15, 0xd1b54a32d192ed03⟩
      d.bytes)
    (d.bytes.length.toUInt64 ^^^ 0xf1a1d165e57a0000)

end CanonicalDigestBuilder

end ALife
