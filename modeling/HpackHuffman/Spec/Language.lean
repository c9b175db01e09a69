import HpackHuffman.HpackTree
import HpackHuffman.Spec.Dfa

/-! # The language of the decoder

A run of the automaton is a conservation law: the bits consumed are the codes of
the bytes emitted, followed by the bits the state holds. Parsing is unique, so
the law determines the run, and with it the accepted language.
-/

namespace HpackHuffman

open Bits

variable {T : Table} (valid : T.Valid)

/-- `bs` is spelled by the bytes `out` and what the state `s` stands for: the bits waiting
    for the rest of their codeword, or an EOS code and everything behind it. -/
def Reads (bs : List Bool) : DState → List Byte → Prop
  | .live a n, out => ∃ r, bs = encodeBits T out ++ r ∧ valid.code.Stuck r ∧
      a = valueOf r ∧ n = r.length
  | .fail, out => ∃ rest, bs = encodeBits T out ++ (codeBitsOf T eosIndex ++ rest)

namespace Reads

theorem cons {bs : List Bool} {s : DState} {out : List Byte} (b : Byte)
    (reads : Reads valid bs s out) :
    Reads valid (codeBitsOf T (Sym.ofByte b) ++ bs) s (b :: out) := by
  cases s with
  | fail =>
      obtain ⟨rest, rfl⟩ := reads
      exact ⟨rest, by simp only [encodeBits, List.append_assoc]⟩
  | live a n =>
      obtain ⟨r, rfl, stuck, rfl, rfl⟩ := reads
      exact ⟨r, by simp only [encodeBits, List.append_assoc], stuck, rfl, rfl⟩

/-- The run from a state holding the bits `r` reads `r ++ bs`. -/
theorem run (bs : List Bool) : ∀ {r : List Bool}, valid.code.Stuck r →
    Reads valid (r ++ bs) (bitsStep T (.live (valueOf r) r.length) bs).1
      (bitsStep T (.live (valueOf r) r.length) bs).2 := by
  induction bs with
  | nil =>
      intro r stuck
      exact ⟨r, by simp [bitsStep, encodeBits], stuck, rfl, rfl⟩
  | cons b bs ih =>
      intro r stuck
      have grown : valueOf r * 2 + (if b then 1 else 0) = valueOf (r ++ [b]) :=
        (valueOf_snoc r b).symm
      have length : r.length + 1 = (r ++ [b]).length := by simp
      have split : r ++ b :: bs = (r ++ [b]) ++ bs := by simp
      simp only [bitsStep, bitStep, grown, length]
      rw [split]
      cases found : lookupV T (valueOf (r ++ [b])) (r ++ [b]).length with
      | none =>
          have stuck' := valid.code.stuck_snoc stuck ((valid.lookupV_none_iff _).mp found)
          simpa using ih stuck'
      | some s =>
          have word := (valid.lookupV_iff _ _).mp found
          by_cases eos : s = eosIndex
          · simp only [eos, if_true, bitsStep_fail, Option.toList_none, List.append_nil]
            exact ⟨bs, by rw [← word, eos]; rfl⟩
          · have rest := cons valid s.toByte (ih valid.code.stuck_nil)
            rw [Sym.ofByte_toByte eos, word] at rest
            simpa [eos, valueOf] using rest

/-- Every bit string is the code stream of some symbols and a waiting remainder. -/
private theorem parse {bs : List Bool} {s : DState} {out : List Byte}
    (reads : Reads valid bs s out) :
    ∃ syms r, bs = valid.code.encode (out.map Sym.ofByte ++ syms) ++ r ∧ valid.code.Stuck r ∧
      match s with
      | .live a n => syms = [] ∧ a = valueOf r ∧ n = r.length
      | .fail => ∃ tl, syms = eosIndex :: tl := by
  cases s with
  | live a n =>
      obtain ⟨r, rfl, stuck, value, length⟩ := reads
      exact ⟨[], r, by simp [valid.encodeBits_eq], stuck, rfl, value, length⟩
  | fail =>
      obtain ⟨rest, rfl⟩ := reads
      obtain ⟨tl, r, rfl, stuck⟩ := valid.code.exists_parse rest
      refine ⟨eosIndex :: tl, r, ?_, stuck, tl, rfl⟩
      simp only [valid.encodeBits_eq, PrefixCode.encode_append, PrefixCode.encode_cons,
        List.append_assoc]
      rfl

/-- Bytes followed by EOS determine the bytes. -/
private theorem bytes_before_eos {xs ys : List Byte} {us vs : List Sym}
    (same : xs.map Sym.ofByte ++ eosIndex :: us = ys.map Sym.ofByte ++ eosIndex :: vs) :
    xs = ys := by
  induction xs generalizing ys with
  | nil =>
      cases ys with
      | nil => rfl
      | cons y ys => exact absurd (List.cons.inj same).1.symm (Sym.ofByte_ne_eos y)
  | cons x xs ih =>
      cases ys with
      | nil => exact absurd (List.cons.inj same).1 (Sym.ofByte_ne_eos x)
      | cons y ys =>
          obtain ⟨head, tail⟩ := List.cons.inj same
          rw [Sym.ofByte_injective head, ih tail]

private theorem eos_not_byte {xs ys : List Byte} {us : List Sym} :
    xs.map Sym.ofByte ≠ ys.map Sym.ofByte ++ eosIndex :: us := by
  intro same
  have member : eosIndex ∈ xs.map Sym.ofByte := by simp [same]
  obtain ⟨b, -, eos⟩ := List.mem_map.mp member
  exact Sym.ofByte_ne_eos b eos

/-- A bit string is read in one way only. -/
theorem unique {bs : List Bool} {s s' : DState} {out out' : List Byte}
    (reads : Reads valid bs s out) (reads' : Reads valid bs s' out') : s = s' ∧ out = out' := by
  obtain ⟨syms, r, rfl, stuck, state⟩ := parse valid reads
  obtain ⟨syms', r', same, stuck', state'⟩ := parse valid reads'
  obtain ⟨symbols, rfl⟩ := valid.code.parse_unique same stuck stuck'
  cases s with
  | live a n =>
      obtain ⟨rfl, rfl, rfl⟩ := state
      cases s' with
      | live a' n' =>
          obtain ⟨rfl, rfl, rfl⟩ := state'
          simp only [List.append_nil] at symbols
          exact ⟨rfl, Sym.ofByte_injective.list_map symbols⟩
      | fail =>
          obtain ⟨tl, rfl⟩ := state'
          exact absurd (by simpa using symbols) eos_not_byte
  | fail =>
      obtain ⟨tl, rfl⟩ := state
      cases s' with
      | live a' n' =>
          obtain ⟨rfl, -, -⟩ := state'
          exact absurd (by simpa using symbols.symm) eos_not_byte
      | fail =>
          obtain ⟨tl', rfl⟩ := state'
          exact ⟨rfl, bytes_before_eos symbols⟩

end Reads

/-- The conservation law determines the run from the start state. -/
theorem run_eq_iff (bs : List Bool) (s : DState) (out : List Byte) :
    bitsStep T dfaInit bs = (s, out) ↔ Reads valid bs s out := by
  have reads : Reads valid bs (bitsStep T dfaInit bs).1 (bitsStep T dfaInit bs).2 :=
    Reads.run valid bs valid.code.stuck_nil
  constructor
  · intro run
    simpa only [run] using reads
  · intro reads'
    obtain ⟨state, emitted⟩ := Reads.unique valid reads reads'
    exact Prod.ext state emitted

section Emitted

include valid

theorem run_bytes (xs : List Byte) : bitsStep T dfaInit (encodeBits T xs) = (dfaInit, xs) :=
  (run_eq_iff valid _ _ _).mpr ⟨[], (List.append_nil _).symm, valid.code.stuck_nil, rfl, rfl⟩

/-- Bytes whose codes begin a bit string are emitted first. -/
theorem run_bytes_append (xs : List Byte) (bs : List Bool) :
    bitsStep T dfaInit (encodeBits T xs ++ bs) =
      ((bitsStep T dfaInit bs).1, xs ++ (bitsStep T dfaInit bs).2) := by
  rw [bitsStep_append, run_bytes valid]

theorem encodeBits_emitted (bs : List Bool) :
    encodeBits T (bitsStep T dfaInit bs).2 <+: bs := by
  have reads := (run_eq_iff valid bs _ _).mp rfl
  cases state : (bitsStep T dfaInit bs).1 with
  | live a n =>
      rw [state] at reads
      obtain ⟨r, split, -⟩ := reads
      exact ⟨r, split.symm⟩
  | fail =>
      rw [state] at reads
      obtain ⟨rest, split⟩ := reads
      exact ⟨_, split.symm⟩

/-- A run emits the most bytes whose codes begin the bit string. -/
theorem prefix_emitted {bs : List Bool} {ys : List Byte} (start : encodeBits T ys <+: bs) :
    ys <+: (bitsStep T dfaInit bs).2 := by
  obtain ⟨rest, rfl⟩ := start
  rw [run_bytes_append valid]
  exact List.prefix_append _ _

end Emitted

/-- The accept flag of a state, in terms of the bits it holds. -/
theorem isAccepting_iff (r : List Bool) :
    isAccepting (.live (valueOf r) r.length) = true ↔
      r.length ≤ 7 ∧ r = List.replicate r.length true := by
  simp only [isAccepting, validPaddingV, Bool.and_eq_true, decide_eq_true_eq]
  refine and_congr_right fun _ => ⟨fun value => ?_, fun ones => ?_⟩
  · exact eq_of_valueOf_eq (by simp) (value.trans (valueOf_ones _).symm)
  · conv_lhs => rw [ones, valueOf_ones]

namespace RfcCode

variable (rfc : RfcCode T)

include rfc

/-- Fewer than 30 ones begin the EOS code, so no codeword begins them. -/
theorem ones_stuck {k : Nat} (lt : k < 30) : rfc.valid.code.Stuck (List.replicate k true) := by
  apply rfc.valid.code.stuck_of_proper_prefix (a := eosIndex)
  · refine ⟨List.replicate (30 - k) true, ?_⟩
    rw [List.replicate_append_replicate, Nat.add_sub_cancel' (Nat.le_of_lt lt)]
    exact rfc.eos.symm
  · intro same
    have length := congrArg List.length (same.trans rfc.eos)
    simp only [List.length_replicate] at length
    omega

theorem decodeBits_padded (xs : List Byte) {k : Nat} (short : k ≤ 7) :
    decodeBits T (encodeBits T xs ++ List.replicate k true) = some xs := by
  have stuck := rfc.ones_stuck (by omega : k < 30)
  have run := (run_eq_iff rfc.valid _ (.live _ _) xs).mpr ⟨_, rfl, stuck, rfl, rfl⟩
  have accepts := (isAccepting_iff (List.replicate k true)).mpr (by simpa using short)
  simp only [decodeBits_eq, run, verdict, accepts, if_true, List.nil_append]

theorem padded_of_decodeBits {bs : List Bool} {xs : List Byte}
    (accepted : decodeBits T bs = some xs) :
    ∃ k ≤ 7, bs = encodeBits T xs ++ List.replicate k true := by
  cases run : bitsStep T dfaInit bs with
  | mk s out =>
      have reads := (run_eq_iff rfc.valid bs s out).mp run
      simp only [decodeBits_eq, run, verdict, List.nil_append, Option.ite_none_right_eq_some,
        Option.some.injEq] at accepted
      obtain ⟨accepts, rfl⟩ := accepted
      cases s with
      | fail => simp [isAccepting] at accepts
      | live a n =>
          obtain ⟨r, rfl, -, rfl, rfl⟩ := reads
          obtain ⟨short, ones⟩ := (isAccepting_iff r).mp accepts
          exact ⟨r.length, short, congrArg _ ones⟩

end RfcCode

/-- The greedy decoder accepts exactly the language of §5.2: code streams with at most
    seven one-bits of padding. -/
theorem decodeBits_language (bs : List Bool) (xs : List Byte) :
    decodeBits hpack bs = some xs ↔
      ∃ k ≤ 7, bs = encodeBits hpack xs ++ List.replicate k true := by
  constructor
  · exact rfcCode_hpack.padded_of_decodeBits
  · rintro ⟨k, short, rfl⟩
    exact rfcCode_hpack.decodeBits_padded xs short

/-- A stream accepted as `ys` with a tail no codeword begins ends in that tail as padding. -/
theorem tail_of_decodeBits {xs ys : List Byte} {t : List Bool} (stuck : hpack_valid.code.Stuck t)
    (accepted : decodeBits hpack (encodeBits hpack xs ++ t) = some ys) :
    ∃ k ≤ 7, t = List.replicate k true := by
  obtain ⟨k, short, same⟩ := rfcCode_hpack.padded_of_decodeBits accepted
  rw [hpack_valid.encodeBits_eq, hpack_valid.encodeBits_eq] at same
  have tails := (hpack_valid.code.parse_unique same stuck (rfcCode_hpack.ones_stuck (by omega))).2
  exact ⟨k, short, tails⟩

theorem reject_eos (xs : List Byte) (rest : List Bool) :
    decodeBits hpack (encodeBits hpack xs ++ (codeBitsOf hpack eosIndex ++ rest)) = none := by
  have run := (run_eq_iff hpack_valid _ .fail xs).mpr ⟨rest, rfl⟩
  simp [decodeBits_eq, run, verdict, isAccepting]

theorem reject_long_padding (xs : List Byte) {m : Nat} (long : 8 ≤ m) :
    decodeBits hpack (encodeBits hpack xs ++ List.replicate m true) = none := by
  cases Nat.lt_or_ge m 30 with
  | inl short =>
      rw [Option.eq_none_iff_forall_ne_some]
      intro ys accepted
      obtain ⟨k, le, same⟩ := tail_of_decodeBits (rfcCode_hpack.ones_stuck short) accepted
      have length := congrArg List.length same
      simp only [List.length_replicate] at length
      omega
  | inr eos =>
      have split : List.replicate m true =
          codeBitsOf hpack eosIndex ++ List.replicate (m - 30) true := by
        rw [eos_ones, List.replicate_append_replicate, Nat.add_sub_cancel' eos]
      rw [split, reject_eos]

theorem reject_no_codeword (xs : List Byte) {t : List Bool} (zero : false ∈ t)
    (stuck : ∀ s, ¬ codeBitsOf hpack s <+: t) :
    decodeBits hpack (encodeBits hpack xs ++ t) = none := by
  rw [Option.eq_none_iff_forall_ne_some]
  intro ys accepted
  obtain ⟨k, -, rfl⟩ := tail_of_decodeBits stuck accepted
  simp at zero

end HpackHuffman
