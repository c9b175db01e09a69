import HpackHuffman.Spec.Decode
import HpackHuffman.Spec.Language

/-! # Encodings as bytes

The encoder completes the code stream to whole bytes with one-bits. On byte
strings the decoder accepts exactly these encodings.
-/

namespace HpackHuffman

open Bits

/-- How many bits complete `n` bits to whole bytes. -/
def padLen (n : Nat) : Nat := (8 - n % 8) % 8

def encodeBytes (T : Table) (xs : List Byte) : List Byte :=
  packBytes (encodeBits T xs ++ List.replicate (padLen (encodeBits T xs).length) true)

theorem padLen_unique {n k : Nat} (short : k ≤ 7) (whole : (n + k) % 8 = 0) : k = padLen n := by
  simp only [padLen]
  omega

theorem padLen_whole (n : Nat) : (n + padLen n) % 8 = 0 := by
  simp only [padLen]
  omega

theorem padLen_le (n : Nat) : padLen n ≤ 7 := Nat.le_of_lt_succ (Nat.mod_lt _ (by decide))

variable (T : Table) (xs : List Byte)

theorem bytesToBits_encodeBytes :
    bytesToBits (encodeBytes T xs) =
      encodeBits T xs ++ List.replicate (padLen (encodeBits T xs).length) true := by
  rw [bytesToBits_eq]
  apply unpackBytes_packBytes
  rw [List.length_append, List.length_replicate]
  exact padLen_whole _

theorem length_encodeBytes : (encodeBytes T xs).length = ((encodeBits T xs).length + 7) / 8 := by
  rw [encodeBytes, length_packBytes, List.length_append, List.length_replicate, padLen]
  omega

variable {T xs} in
/-- Whole bytes which begin with the code stream and end in at most seven ones. -/
theorem eq_encodeBytes {s : List Byte} {k : Nat} (short : k ≤ 7)
    (bits : bytesToBits s = encodeBits T xs ++ List.replicate k true) : s = encodeBytes T xs := by
  have whole : ((encodeBits T xs).length + k) % 8 = 0 := by
    have length := congrArg List.length bits
    simp only [length_bytesToBits, List.length_append, List.length_replicate] at length
    omega
  obtain rfl := padLen_unique short whole
  exact bytesToBits_injective (bits.trans (bytesToBits_encodeBytes T xs).symm)

namespace RfcCode

variable {T : Table} (rfc : RfcCode T)

include rfc

theorem length_encodeBits_le : (encodeBits T xs).length ≤ 30 * xs.length := by
  induction xs with
  | nil => exact Nat.le_refl 0
  | cons x xs ih =>
      have code := (rfc.lengths (Sym.ofByte x)).2
      simp only [encodeBits, List.length_append, codeBitsOf, length_codeToBits,
        List.length_cons]
      omega

theorem le_length_encodeBits : 5 * xs.length ≤ (encodeBits T xs).length := by
  induction xs with
  | nil => exact Nat.zero_le _
  | cons x xs ih =>
      have code := (rfc.lengths (Sym.ofByte x)).1
      simp only [encodeBits, List.length_append, codeBitsOf, length_codeToBits,
        List.length_cons]
      omega

/-- The decoder takes a byte string to `xs` exactly when it is the encoding of `xs`. -/
theorem decodeBits_bytes_iff (s : List Byte) :
    decodeBits T (bytesToBits s) = some xs ↔ s = encodeBytes T xs := by
  constructor
  · intro accepted
    obtain ⟨k, short, bits⟩ := rfc.padded_of_decodeBits accepted
    exact eq_encodeBytes short bits
  · intro bytes
    rw [bytes, bytesToBits_encodeBytes]
    exact rfc.decodeBits_padded xs (padLen_le _)

end RfcCode

theorem padLen_add {m : Nat} (n : Nat) (whole : m % 8 = 0) : padLen (m + n) = padLen n := by
  simp only [padLen]
  omega

theorem encodeBytes_nil : encodeBytes T [] = [] := by
  simp [encodeBytes, encodeBits, padLen]

/-- No byte has a code of ones: that one begins the EOS code. -/
theorem code_ne_ones (b : Byte) (k : Nat) :
    codeBitsOf hpack (Sym.ofByte b) ≠ List.replicate k true := by
  intro ones
  have length : lenOf hpack (Sym.ofByte b) = k := by
    have := congrArg List.length ones
    rwa [codeBitsOf, length_codeToBits, List.length_replicate] at this
  have short := (hpack_lengths_in_range (Sym.ofByte b)).2
  have start : codeBitsOf hpack (Sym.ofByte b) <+: codeBitsOf hpack eosIndex := by
    refine ⟨List.replicate (30 - k) true, ?_⟩
    rw [ones, eos_ones, List.replicate_append_replicate]
    congr 1
    omega
  exact Sym.ofByte_ne_eos b (hpack_valid.eq_of_prefix start)

/-- The padding in the middle of two joined encodings would have to commute with the codes
    behind it. -/
theorem commute_of_joined {xs ys : List Byte}
    (joined : encodeBytes hpack (xs ++ ys) = encodeBytes hpack xs ++ encodeBytes hpack ys) :
    encodeBits hpack ys ++ List.replicate (padLen (encodeBits hpack xs).length) true =
      List.replicate (padLen (encodeBits hpack xs).length) true ++ encodeBits hpack ys := by
  have bits := congrArg bytesToBits joined
  rw [bytesToBits_append, bytesToBits_encodeBytes, bytesToBits_encodeBytes,
    bytesToBits_encodeBytes, encodeBits_append, List.append_assoc, List.append_assoc,
    List.append_cancel_left_eq] at bits
  have padding : padLen ((encodeBits hpack xs ++ encodeBits hpack ys).length) =
      padLen (encodeBits hpack xs).length + padLen (encodeBits hpack ys).length := by
    have length := congrArg List.length bits
    simp only [List.length_append, List.length_replicate] at length ⊢
    omega
  rw [padding, ← List.replicate_append_replicate, ← List.append_assoc, ← List.append_assoc] at bits
  exact List.append_cancel_right bits

/-- Encodings may be joined when the first one ends on a byte, and only then. -/
theorem encodeBytes_append_iff (xs ys : List Byte) :
    encodeBytes hpack (xs ++ ys) = encodeBytes hpack xs ++ encodeBytes hpack ys ↔
      ys = [] ∨ (encodeBits hpack xs).length % 8 = 0 := by
  constructor
  · intro joined
    cases ys with
    | nil => exact .inl rfl
    | cons y ys =>
        right
        by_contra partial_
        have pos : 0 < padLen (encodeBits hpack xs).length := by
          simp only [padLen]
          omega
        have ones := ones_of_commute pos (commute_of_joined joined)
        obtain ⟨k, code⟩ : ∃ k, codeBitsOf hpack (Sym.ofByte y) = List.replicate k true := by
          rw [encodeBits] at ones
          exact ⟨_, List.eq_replicate_of_mem fun b member =>
            List.eq_of_mem_replicate (ones ▸ List.mem_append_left _ member)⟩
        exact code_ne_ones y k code
  · rintro (rfl | whole)
    · rw [List.append_nil, encodeBytes_nil, List.append_nil]
    · apply bytesToBits_injective
      have padded : padLen (encodeBits hpack xs).length = 0 := by
        simp only [padLen]
        omega
      rw [bytesToBits_append, bytesToBits_encodeBytes, bytesToBits_encodeBytes,
        bytesToBits_encodeBytes, encodeBits_append, padded, List.length_append,
        padLen_add _ whole, List.replicate_zero, List.append_nil, List.append_assoc]

end HpackHuffman
