import HpackHuffman.Spec.Codec
import HpackHuffman.Lowstar.Tables

/-! # The encoder's tables are the code table

`huff_code` and `huff_len` hold, for every byte, the code and the length of the
code table. `enc_bits` is the bit string of the bytes written so far.
-/

namespace HpackHuffman

open Lowstar

/-- The bits of the first `n` bytes of `s`, as the encoder appends them. -/
def encBits (s : List Byte) : (n : Nat) → n ≤ s.length → List Bool
  | 0, _ => []
  | n + 1, inside => encBits s n (Nat.le_of_succ_le inside) ++ Bits.codeToBits s[n].toNat 8

theorem huffCode_entries : huffCode.map UInt32.toNat = (hpackTable.take 256).map Entry.code := by
  decide +kernel

theorem huffLen_entries : huffLen.map UInt8.toNat = (hpackTable.take 256).map Entry.len := by
  decide +kernel

/-- The entry of a byte, by its index. -/
theorem entry_of_byte (b : Byte) :
    (hpackTable.take 256)[b.toNat]? = some (entryAt hpack (Sym.ofByte b)) := by
  have inside : b.toNat < hpackTable.length := by
    have complete := hpack.complete
    have small := b.toNat_lt
    simp only [hpack] at complete
    omega
  rw [List.getElem?_take_of_lt b.toNat_lt, List.getElem?_eq_getElem inside]
  rfl

theorem huffCode_correct (b : Byte) :
    ∃ code : UInt32, huffCode[b.toNat]? = some code ∧ code.toNat = codeOf hpack (Sym.ofByte b) := by
  have entry : (huffCode.map UInt32.toNat)[b.toNat]? = some (codeOf hpack (Sym.ofByte b)) := by
    rw [huffCode_entries, List.getElem?_map, entry_of_byte]
    rfl
  rw [List.getElem?_map] at entry
  exact Option.map_eq_some_iff.mp entry

theorem huffLen_correct (b : Byte) :
    ∃ cb : UInt8, huffLen[b.toNat]? = some cb ∧ cb.toNat = lenOf hpack (Sym.ofByte b) := by
  have entry : (huffLen.map UInt8.toNat)[b.toNat]? = some (lenOf hpack (Sym.ofByte b)) := by
    rw [huffLen_entries, List.getElem?_map, entry_of_byte]
    rfl
  rw [List.getElem?_map] at entry
  exact Option.map_eq_some_iff.mp entry

end HpackHuffman
