import HpackHuffman.Interface

/-! # The encoder's footprint

The length and the content of an encoding come from two loops. The first one tells exactly
how many bytes the second one stores, so a buffer of that size is enough, whatever the
encoder's stated precondition asks for.
-/

namespace HpackHuffman

variable {src : List Byte}

/-- The encoded length is the number of code bits, in whole bytes. -/
theorem length_encodeBytes_ceil :
    (encodeBytes hpack src).length = (encodeBits hpack src).length ⌈/⌉ 8 := by
  rw [length_encodeBytes, Nat.ceilDiv_eq_add_pred_div]
  omega

theorem length_encodeBytes_le : (encodeBytes hpack src).length ≤ 4 * src.length := by
  have bits := rfcCode_hpack.length_encodeBits_le src
  rw [length_encodeBytes]
  omega

/-- The encoder stores to the indices below its `encode_len`, once each and in order. -/
theorem encode_footprint (small : src.length < 2 ^ 27) :
    ∃ r, encodeLen src (UInt32.ofNat src.length) = .ok r ∧
      r.toNat = (encodeBits hpack src).length ⌈/⌉ 8 ∧ r.toNat ≤ 4 * src.length ∧
      ∀ bytes : List Byte, r.toNat ≤ bytes.length →
        ∃ dst, encode src (UInt32.ofNat src.length) (Buffer.ofBytes bytes) = .ok (r, dst) ∧
          dst.stores = List.range r.toNat ∧ dst.bytes.length = bytes.length ∧
          dst.bytes.drop r.toNat = bytes.drop r.toNat := by
  have length := toNat_ofNat_encoded small
  refine ⟨_, encodeLen_whole small, ?_, ?_, ?_⟩
  · rw [length]
    exact length_encodeBytes_ceil
  · rw [length]
    exact length_encodeBytes_le
  · intro bytes room
    rw [length] at room ⊢
    refine ⟨_, encode_whole small room, ?_, ?_, Buffer.drop_write_front _ _⟩
    · exact List.range_eq_range'.symm
    · exact Buffer.length_write (Nat.le_trans (Nat.le_of_eq (Nat.zero_add _)) room)

/-- The letter `a` into a buffer of one byte. -/
theorem encode_footprint_a :
    ∃ r, encodeLen [97] (UInt32.ofNat 1) = .ok r ∧
      r.toNat = (encodeBits hpack [97]).length ⌈/⌉ 8 ∧ r.toNat ≤ 4 * 1 ∧
      ∀ bytes : List Byte, r.toNat ≤ bytes.length →
        ∃ dst, encode [97] (UInt32.ofNat 1) (Buffer.ofBytes bytes) = .ok (r, dst) ∧
          dst.stores = List.range r.toNat ∧ dst.bytes.length = bytes.length ∧
          dst.bytes.drop r.toNat = bytes.drop r.toNat :=
  @encode_footprint [97] (by decide)

end HpackHuffman
