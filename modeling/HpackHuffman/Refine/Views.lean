import HpackHuffman.Refine.Encode
import HpackHuffman.Lowstar.Decode

/-! # One buffer, three bit strings

The specification reads a buffer bit by bit, the encoder appends to it byte by byte, and the
decoder loop takes it apart nibble by nibble. The three denote one bit string.
-/

namespace HpackHuffman

open Bits Lowstar

/-- The nibbles of a buffer, the high half of each byte before its low half. -/
def nibblesOf (s : List Byte) : List Nibble := s.flatMap fun b => [highNibble b, lowNibble b]

/-- What the encoder has written and what it has not are the whole buffer. -/
theorem encBits_append {s : List Byte} {n : Nat} (le : n ≤ s.length) :
    encBits s n le ++ unpackBytes (s.drop n) = unpackBytes s := by
  induction n with
  | zero => rfl
  | succ n ih =>
      have whole := ih (Nat.le_of_succ_le le)
      rw [List.drop_eq_getElem_cons le, unpackBytes_cons] at whole
      rw [encBits, List.append_assoc]
      exact whole

theorem encBits_whole (s : List Byte) : encBits s s.length (Nat.le_refl _) = bytesToBits s := by
  have whole := encBits_append (Nat.le_refl s.length)
  rw [List.drop_length, unpackBytes_nil, List.append_nil] at whole
  rw [whole, bytesToBits_eq]

theorem nibblesToBits_nibblesOf (s : List Byte) : nibblesToBits (nibblesOf s) = bytesToBits s := by
  rw [bytesToBits_eq]
  induction s with
  | nil => rfl
  | cons b s ih =>
      rw [unpackBytes_cons, codeToBits_byte, ← ih, List.append_assoc]
      rfl

theorem nibbleAt_cons (b : Byte) {s : List Byte} {g : Nat} (inside : g < 8 * s.length)
    (inside' : g + 8 < 8 * (b :: s).length) :
    nibbleAt (b :: s) (g + 8) inside' = nibbleAt s g inside := by
  have next : (g + 8) / 8 = g / 8 + 1 := by omega
  simp only [nibbleAt, next, Nat.add_mod_right, List.getElem_cons_succ]

/-- The nibble at a bit index stands in its place. -/
theorem nibblesOf_getElem {s : List Byte} {i : Nat} (inside : 4 * i < 8 * s.length) :
    (nibblesOf s)[i]? = some (nibbleAt s (4 * i) inside) := by
  induction s generalizing i with
  | nil => exact absurd inside (Nat.not_lt_zero _)
  | cons b s ih =>
      -- The first byte holds two nibbles.
      match i with
      | 0 => rfl
      | 1 => rfl
      | i + 2 =>
          have rest : 4 * i < 8 * s.length := by
            rw [List.length_cons] at inside
            omega
          have here : (nibblesOf (b :: s))[i + 2]? = (nibblesOf s)[i]? := rfl
          rw [here, ih rest, ← nibbleAt_cons b rest inside]
          rfl

section Run

variable {src : List Byte} {srcLen dstCap : UInt32} {dst : Buffer} {v : DfaVars} {i : Nat}

/-- After `i` turns the loop is at bit `4 * i`, and the index has not wrapped. -/
structure AtTurn (srcLen : UInt32) (i : Nat) (v : DfaVars) : Prop where
  bit : v.g.toNat = 4 * i
  le : 4 * i ≤ (8 * srcLen).toNat

theorem AtTurn.next {v' : DfaVars} (here : AtTurn srcLen i v)
    (turn : dfaBody src srcLen dstCap v = .ok (.again v')) : AtTurn srcLen (i + 1) v' := by
  obtain ⟨more, next⟩ := dfaBody_next turn
  have bit := here.bit
  have le := here.le
  have ne := mt UInt32.toNat_inj.mp more
  -- `8 * src_len` may itself have wrapped; the loop compares with the wrapped total.
  have small := (8 * srcLen).toNat_lt
  have whole : (8 * srcLen).toNat % 8 = 0 := by
    simp only [UInt32.toNat_mul, UInt32.reduceToNat]
    omega
  have g : v'.g.toNat = 4 * (i + 1) := by
    simp only [next, UInt32.toNat_add, UInt32.reduceToNat]
    omega
  exact ⟨g, by omega⟩

theorem atTurn (head : headAfter (dfaBody src srcLen dstCap) ⟨dst, 0, 0, 0⟩ i = some v) :
    AtTurn srcLen i v := by
  apply headAfter_invariant ?_ ?_ head
  · exact ⟨rfl, Nat.zero_le _⟩
  · intro i v v' here turn
    exact here.next turn

theorem AtTurn.inside (here : AtTurn srcLen i v) (more : v.g ≠ 8 * srcLen)
    (enough : srcLen.toNat ≤ src.length) : 4 * i < 8 * src.length := by
  have bit := here.bit
  have le := here.le
  have ne := mt UInt32.toNat_inj.mp more
  have total : (8 * srcLen).toNat ≤ 8 * srcLen.toNat := by
    simp only [UInt32.toNat_mul, UInt32.reduceToNat]
    exact Nat.mod_le _ _
  omega

/-- The turn after `i` others looks up the nibble `i` of the buffer. -/
theorem dfaBody_nibblesOf
    (head : headAfter (dfaBody src srcLen dstCap) ⟨dst, 0, 0, 0⟩ i = some v)
    (more : v.g ≠ 8 * srcLen) (enough : srcLen.toNat ≤ src.length) :
    v.g.toNat = 4 * i ∧ ∃ (bx : Byte) (n : Nibble),
      src[(v.g / 8).toNat]? = some bx ∧ (nibblesOf src)[i]? = some n ∧
      (cutNibble bx v.g).toNat = n.val ∧
      dfaBody src srcLen dstCap v =
        readCell v.cur (cutNibble bx v.g) >>= followCell (v.written < dstCap) v := by
  have here := atTurn head
  have inside := here.inside more enough
  have read : v.g.toNat < 8 * src.length := by
    rw [here.bit]
    exact inside
  have bytei : (v.g / 8).toNat = v.g.toNat / 8 := UInt32.toNat_div v.g 8
  refine ⟨here.bit, src[v.g.toNat / 8], nibbleAt src v.g.toNat read, ?_, ?_,
    cutNibble_toNat read, ?_⟩
  · rw [bytei]
    exact List.getElem?_eq_getElem (by omega)
  · simp only [here.bit, nibblesOf_getElem inside]
  · rw [dfaBody_more more, turnCell_nibble (List.take_length (l := src)) read]

end Run

/-- The bits from any index on, the bytes appended one by one and the nibbles in the order of
    the decoder loop are one bit string. -/
theorem bit_views_agree (s : List Byte) :
    (∀ g ≤ 8 * s.length, bitsFrom s g = (encBits s s.length (Nat.le_refl _)).drop g) ∧
    bytesToBits s = nibblesToBits (nibblesOf s) ∧
    encBits s s.length (Nat.le_refl _) = nibblesToBits (nibblesOf s) ∧
    (∀ (g : Nat) (inside : g < 8 * s.length), g % 4 = 0 →
      (nibblesOf s)[g / 4]? = some (nibbleAt s g inside)) ∧
    ∀ (srcLen dstCap : UInt32) (dst : Buffer), srcLen.toNat ≤ s.length →
      ∀ (i : Nat) (v : DfaVars),
        headAfter (dfaBody s srcLen dstCap) ⟨dst, 0, 0, 0⟩ i = some v → v.g ≠ 8 * srcLen →
        v.g.toNat = 4 * i ∧ ∃ (bx : Byte) (n : Nibble),
          s[(v.g / 8).toNat]? = some bx ∧ (nibblesOf s)[i]? = some n ∧
          (cutNibble bx v.g).toNat = n.val ∧
          dfaBody s srcLen dstCap v =
            readCell v.cur (cutNibble bx v.g) >>= followCell (v.written < dstCap) v := by
  refine ⟨?_, (nibblesToBits_nibblesOf s).symm, ?_, ?_, ?_⟩
  · intro g le
    rw [encBits_whole, bytesToBits_drop le]
  · rw [encBits_whole, nibblesToBits_nibblesOf]
  · intro g inside aligned
    have four : 4 * (g / 4) = g := by omega
    have here := nibblesOf_getElem (s := s) (i := g / 4) (by omega)
    simpa only [four] using here
  · intro srcLen dstCap dst enough i v head more
    exact dfaBody_nibblesOf head more enough

/-- The code of `ab`, padded to two bytes, at the start of the loop. -/
theorem bit_views_agree_ab :
    bitsFrom [28, 127] 12 = (encBits [28, 127] 2 (by decide)).drop 12 ∧
      (nibblesOf [28, 127])[3]? = some (nibbleAt [28, 127] 12 (by decide)) ∧
      (0 : UInt32).toNat = 4 * 0 ∧ ∃ (bx : Byte) (n : Nibble),
        [28, 127][((0 : UInt32) / 8).toNat]? = some bx ∧ (nibblesOf [28, 127])[0]? = some n ∧
        (cutNibble bx 0).toNat = n.val ∧
        dfaBody [28, 127] 2 4 ⟨Buffer.ofBytes [7, 7, 7, 7], 0, 0, 0⟩ =
          readCell 0 (cutNibble bx 0) >>=
            followCell ((0 : UInt32) < 4) ⟨Buffer.ofBytes [7, 7, 7, 7], 0, 0, 0⟩ :=
  ⟨(bit_views_agree [28, 127]).1 12 (by decide),
    (bit_views_agree [28, 127]).2.2.2.1 12 (by decide) (by decide),
    (bit_views_agree [28, 127]).2.2.2.2 2 4 (Buffer.ofBytes [7, 7, 7, 7]) (by decide) 0
      ⟨Buffer.ofBytes [7, 7, 7, 7], 0, 0, 0⟩ rfl (by decide)⟩

end HpackHuffman
