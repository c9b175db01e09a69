import HpackHuffman.Util.CompleteCode
import HpackHuffman.Spec.Language

/-! # Every bit string parses

Prefix-freeness makes parsing unique; that it never gets lost is the completeness of the
code. The accumulator stays below thirty bits, and whatever it holds can still become a byte.
-/

namespace HpackHuffman

open Bits

theorem hpack_complete : hpack_valid.code.Complete 30 := by
  intro s length
  refine hpackTree_spells.exists_prefix ?_ length
  intro sym
  rw [codeBitsOf, length_codeToBits]
  exact (hpack_lengths_in_range sym).2

variable {r : List Bool}

/-- Bits which wait for the rest of a codeword are completed by a byte: of the two ways to go
    on, EOS lies on one at most. -/
theorem exists_byte_of_stuck (stuck : hpack_valid.code.Stuck r) :
    ∃ (b : Byte) (c : List Bool), c ≠ [] ∧ codeBitsOf hpack (Sym.ofByte b) = r ++ c := by
  obtain ⟨s, k, zero⟩ := hpack_complete.extends_with stuck false
  obtain ⟨t, l, one⟩ := hpack_complete.extends_with stuck true
  have byte : ∀ {sym : Sym} {c : List Bool}, sym ≠ eosIndex → hpack_valid.code.word sym = r ++ c →
      codeBitsOf hpack (Sym.ofByte sym.toByte) = r ++ c := by
    intro sym c ne word
    rw [Sym.ofByte_toByte ne]
    exact word
  by_cases eos : s = eosIndex
  · have ne : t ≠ eosIndex := by
      intro same
      rw [same, ← eos, zero] at one
      simp at one
    exact ⟨t.toByte, _, by simp, byte ne one⟩
  · exact ⟨s.toByte, _, by simp, byte eos zero⟩

/-- A run which waits can be continued to an accepted stream. -/
theorem exists_continuation (out : List Byte) (stuck : hpack_valid.code.Stuck r) :
    ∃ c, decodeBits hpack (encodeBits hpack out ++ r ++ c) ≠ none := by
  obtain ⟨b, c, -, code⟩ := exists_byte_of_stuck stuck
  have whole : encodeBits hpack out ++ r ++ c = encodeBits hpack (out ++ [b]) := by
    rw [encodeBits_append, encodeBits, code, encodeBits, List.append_nil, List.append_assoc]
  have accepted := rfcCode_hpack.decodeBits_padded (out ++ [b]) (Nat.zero_le 7)
  rw [List.replicate_zero, List.append_nil] at accepted
  exact ⟨c, by rw [whole, accepted]; exact Option.some_ne_none _⟩

/-- Every bit string parses, and no state the automaton reaches is dead. -/
theorem run_complete (bs : List Bool) :
    match bitsStep hpack (.live 0 0) bs with
    | (.live a n, out) =>
        n ≤ 29 ∧ a < 2 ^ n ∧ bs = encodeBits hpack out ++ codeToBits a n ∧
        (∃ sym, codeToBits a n <+: codeBitsOf hpack sym ∧
          codeToBits a n ≠ codeBitsOf hpack sym) ∧
        ∃ c, decodeBits hpack (bs ++ c) ≠ none
    | (.fail, out) =>
        ∃ rest, bs = encodeBits hpack out ++ (codeBitsOf hpack eosIndex ++ rest) := by
  rcases run : bitsStep hpack (.live 0 0) bs with ⟨state, out⟩
  have reads := (run_eq_iff hpack_valid bs state out).mp run
  cases state with
  | fail => exact reads
  | live a n =>
      obtain ⟨r, rfl, stuck, rfl, rfl⟩ := reads
      obtain ⟨b, c, some_, code⟩ := exists_byte_of_stuck stuck
      have short := hpack_complete.length_lt stuck
      have held := codeToBits_valueOf r
      refine ⟨by omega, valueOf_lt r, by rw [held], ⟨Sym.ofByte b, ?_, ?_⟩,
        exists_continuation out stuck⟩
      · rw [held]
        exact ⟨c, code.symm⟩
      · intro same
        rw [held, code] at same
        exact some_ (List.append_right_eq_self.mp same.symm)

end HpackHuffman
