import HpackHuffman.Spec.Encode

/-! # The checks of the code table

The verification checks a handful of arithmetic facts of the code table, entry by entry. Over
bit strings they say that the table is a prefix code of the RFC's shape, and that is all the
codec needs. That it is the RFC's own code no such fact can say: twelve entries are compared
with constants instead.
-/

namespace HpackHuffman.Source

open Bits

/-- Code length within 30 bits. -/
def le30 (e : Entry) : Bool := decide (e.len ≤ 30)

/-- The invariants of the table, the EOS code among them. -/
def checkShape (T : Table) : Bool :=
  T.entries.all lenInRange && decide (T.entries[256]? = some ⟨1073741823, 30⟩) &&
    prefixFree T.entries && T.entries.all fits && T.entries.all posLen && T.entries.all le30

/-- The entries which are pinned to the RFC's Appendix B. -/
def rfcSpotValues : List (Nat × Entry) :=
  [(48, ⟨0, 5⟩), (49, ⟨1, 5⟩), (50, ⟨2, 5⟩), (97, ⟨3, 5⟩), (99, ⟨4, 5⟩), (101, ⟨5, 5⟩),
    (105, ⟨6, 5⟩), (111, ⟨7, 5⟩), (115, ⟨8, 5⟩), (116, ⟨9, 5⟩), (32, ⟨20, 6⟩), (33, ⟨1016, 10⟩)]

/-- The table has the pinned entries. -/
def Pinned (T : Table) : Prop := ∀ p ∈ rfcSpotValues, T.entries[p.1]? = some p.2

instance (T : Table) : Decidable (Pinned T) := inferInstanceAs (Decidable (∀ p ∈ _, _))

/-- Every check of the code table. -/
def checkTable (T : Table) : Bool := checkShape T && decide (Pinned T)

/-- Thirty ones are one code of thirty bits. -/
theorem eos_iff {T : Table} (fits : codeOf T eosIndex < 2 ^ lenOf T eosIndex) :
    entryAt T eosIndex = ⟨1073741823, 30⟩ ↔ codeBitsOf T eosIndex = List.replicate 30 true := by
  constructor
  · intro entry
    rw [codeBitsOf, codeOf, lenOf, entry]
    exact codeToBits_ones 30
  · intro ones
    have len : lenOf T eosIndex = 30 := by
      have length := congrArg List.length ones
      rwa [codeBitsOf, length_codeToBits, List.length_replicate] at length
    have code : codeOf T eosIndex = 2 ^ 30 - 1 := by
      have value := congrArg valueOf ones
      rwa [codeBitsOf, valueOf_codeToBits fits, valueOf_ones] at value
    cases entry : entryAt T eosIndex with
    | mk c l =>
        simp only [lenOf, codeOf, entry] at len code
        rw [len, code]
        rfl

/-- The arithmetic checks say what the bit strings are. -/
theorem checkShape_iff (T : Table) : checkShape T = true ↔ RfcCode T := by
  have eos : T.entries[256]? = some (entryAt T eosIndex) := entries_get T eosIndex
  simp only [checkShape, Bool.and_eq_true, decide_eq_true_eq, eos, Option.some.injEq]
  constructor
  · rintro ⟨⟨⟨⟨⟨range, eosCode⟩, free⟩, allFit⟩, allPos⟩, -⟩
    have valid : T.Valid := ⟨free, allFit, allPos⟩
    refine ⟨?_, valid.code_lt, fun s t => valid.eq_of_prefix,
      (eos_iff (valid.code_lt eosIndex)).mp eosCode⟩
    intro s
    have one := all_entries.mp range s
    simpa only [lenInRange, Bool.and_eq_true, decide_eq_true_eq, lenOf] using one
  · intro rfc
    refine ⟨⟨⟨⟨⟨?_, (eos_iff (rfc.fits eosIndex)).mpr rfc.eos⟩, rfc.valid.prefixFree⟩,
      rfc.valid.fits⟩, rfc.valid.posLen⟩, ?_⟩
    · refine all_entries.mpr fun s => ?_
      simpa only [lenInRange, Bool.and_eq_true, decide_eq_true_eq, lenOf] using rfc.lengths s
    · exact all_entries.mpr fun s => decide_eq_true (rfc.lengths s).2

theorem pinned_hpack : Pinned hpack := by decide +kernel

end HpackHuffman.Source
