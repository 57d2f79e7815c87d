/-
# Portable asset digests

`PortableAssetDigest` (`crates/alife_world/src/persistence.rs`): the text
`fnv1a64:` followed by the sixteen lower-case hexadecimal digits of the FNV-1a
hash.  A text is the list of its UTF-8 bytes.
-/

import ALife.Core.CanonicalDigest

namespace ALife

open Machine

/-- A text, as its UTF-8 bytes. -/
abbrev Utf8 := List UInt8

structure PortableAssetDigest where
  text : Utf8
  deriving DecidableEq, Repr

namespace PortableAssetDigest

/-- The FNV-1a loop of `for_bytes`. -/
def fnv1a64 (bytes : List UInt8) : UInt64 :=
  bytes.foldl (fun hash byte => (hash ^^^ byte.toUInt64) * 0x00000100000001B3) 0xcbf29ce484222325

/-- The digit `{:x}` writes for four bits. -/
def hexDigit (n : ℕ) : UInt8 := if n < 10 then (48 + n).toUInt8 else (87 + n).toUInt8

/-- `{hash:016x}`. -/
def hex16 (hash : UInt64) : Utf8 :=
  (List.range 16).map fun i => hexDigit (hash.toNat / 16 ^ (15 - i) % 16)

/-- `fnv1a64:`. -/
def tag : Utf8 := asciiBytes "fnv1a64:"

/-- `PortableAssetDigest::for_bytes`. -/
def forBytes (bytes : List UInt8) : PortableAssetDigest := ⟨tag ++ hex16 (fnv1a64 bytes)⟩

/-- `char::is_ascii_hexdigit`. -/
def isAsciiHexDigit (b : UInt8) : Bool :=
  (48 ≤ b && b ≤ 57) || (65 ≤ b && b ≤ 70) || (97 ≤ b && b ≤ 102)

/-- `PortableAssetDigest::validate_format`; its one error is not told apart. -/
def formatIsValid (d : PortableAssetDigest) : Bool :=
  tag.isPrefixOf d.text &&
    ((d.text.drop tag.length).length == 16 && (d.text.drop tag.length).all isAsciiHexDigit)

theorem isAsciiHexDigit_hexDigit {n : ℕ} (h : n < 16) : isAsciiHexDigit (hexDigit n) = true := by
  interval_cases n <;> decide

/-- Every computed digest is well formed. -/
theorem formatIsValid_forBytes (bytes : List UInt8) : (forBytes bytes).formatIsValid = true := by
  have hdrop : (forBytes bytes).text.drop tag.length = hex16 (fnv1a64 bytes) := by
    simp [forBytes]
  have hprefix : tag.isPrefixOf (forBytes bytes).text = true := by
    simp [forBytes]
  rw [formatIsValid, hdrop, hprefix]
  simp only [hex16, List.length_map, List.length_range, beq_self_eq_true, Bool.true_and,
    List.all_map, List.all_eq_true, Function.comp]
  exact fun i _ => isAsciiHexDigit_hexDigit (Nat.mod_lt _ (by decide))

end PortableAssetDigest

end ALife
