import HpackHuffman.Table

/-! # The greedy codec

The RFC 7541 §5.2 codec as mathematics over a code table. The decoder reads bits
into an accumulator, emits on a codeword match, rejects an in-stream EOS, and
wants the bits left over at the end to be padding.
-/

namespace HpackHuffman

open Bits

/-- The first symbol from `i` on whose code is the `k`-bit value `v`. -/
def findV (T : Table) (v k i : Nat) : Option Sym :=
  if h : i < 257 then
    let e := entryAt T ⟨i, h⟩
    if e.len = k ∧ e.code = v then some ⟨i, h⟩ else findV T v k (i + 1)
  else none
termination_by 257 - i

def lookupV (T : Table) (v k : Nat) : Option Sym := findV T v k 0

/-- At most 7 bits, all of them ones. -/
def validPaddingV (acc nbits : Nat) : Bool := decide (nbits ≤ 7) && decide (acc = 2 ^ nbits - 1)

namespace Sym

def ofByte (b : Byte) : Sym := ⟨b.toNat, Nat.lt_succ_of_lt b.toNat_lt⟩

def toByte (s : Sym) : Byte := UInt8.ofNat s.val

@[simp] theorem toByte_ofByte (b : Byte) : toByte (ofByte b) = b := by
  simp [toByte, ofByte]

theorem ofByte_toByte {s : Sym} (byte : s ≠ eosIndex) : ofByte (toByte s) = s := by
  have lt : s.val < 256 := by
    have := Fin.val_ne_of_ne byte
    simp only [eosIndex, Fin.isValue] at this
    omega
  apply Fin.ext
  simp only [ofByte, toByte, UInt8.toNat_ofNat']
  omega

theorem ofByte_ne_eos (b : Byte) : ofByte b ≠ eosIndex := by
  intro same
  have lt := b.toNat_lt
  have := congrArg Fin.val same
  simp only [ofByte, eosIndex, Fin.isValue] at this
  omega

theorem ofByte_injective : Function.Injective ofByte :=
  Function.LeftInverse.injective toByte_ofByte

end Sym

/-- The greedy decoder over a `(value, nbits)` accumulator. -/
def decodeGo (T : Table) : List Bool → Nat → Nat → List Byte → Option (List Byte)
  | [], acc, nbits, out => if validPaddingV acc nbits then some out else none
  | b :: rest, acc, nbits, out =>
      let acc' := acc * 2 + (if b then 1 else 0)
      let nbits' := nbits + 1
      match lookupV T acc' nbits' with
      | some s => if s = eosIndex then none else decodeGo T rest 0 0 (out ++ [s.toByte])
      | none => decodeGo T rest acc' nbits' out

def decodeBits (T : Table) (input : List Bool) : Option (List Byte) := decodeGo T input 0 0 []

/-- The concatenated code bit stream, without padding. -/
def encodeBits (T : Table) : List Byte → List Bool
  | [] => []
  | b :: tl => codeBitsOf T (Sym.ofByte b) ++ encodeBits T tl

variable {T : Table}

theorem findV_some {v k i : Nat} {s : Sym} (found : findV T v k i = some s) :
    lenOf T s = k ∧ codeOf T s = v := by
  fun_induction findV T v k i with
  | case1 i h e hit =>
      obtain rfl := Option.some.inj found
      exact hit
  | case2 i h e miss ih => exact ih found
  | case3 => simp at found

theorem findV_none {v k i : Nat} (missing : findV T v k i = none) (s : Sym) (from_ : i ≤ s.val) :
    ¬ (lenOf T s = k ∧ codeOf T s = v) := by
  fun_induction findV T v k i with
  | case1 => simp at missing
  | case2 i h e miss ih =>
      cases Nat.eq_or_lt_of_le from_ with
      | inl here =>
          obtain rfl : ⟨i, h⟩ = s := Fin.ext here
          exact miss
      | inr later => exact ih missing later
  | case3 i h => exact absurd s.isLt (by omega)

namespace Table

/-- In a valid table the scan finds a symbol exactly when the bits read are its code. -/
theorem Valid.lookupV_iff (valid : T.Valid) (r : List Bool) (s : Sym) :
    lookupV T (valueOf r) r.length = some s ↔ codeBitsOf T s = r := by
  have code_of_match : ∀ t, lenOf T t = r.length ∧ codeOf T t = valueOf r → codeBitsOf T t = r := by
    rintro t ⟨len, code⟩
    rw [codeBitsOf, len, code, codeToBits_valueOf]
  constructor
  · intro found
    exact code_of_match s (findV_some found)
  · rintro rfl
    have len : (codeBitsOf T s).length = lenOf T s := length_codeToBits _ _
    have value : valueOf (codeBitsOf T s) = codeOf T s := valueOf_codeToBits (valid.code_lt s)
    cases found : lookupV T (valueOf (codeBitsOf T s)) (codeBitsOf T s).length with
    | none => exact absurd ⟨len.symm, value.symm⟩ (findV_none found s (Nat.zero_le _))
    | some t =>
        have same := code_of_match t (findV_some found)
        rw [valid.code.word_injective same]

theorem Valid.lookupV_none_iff (valid : T.Valid) (r : List Bool) :
    lookupV T (valueOf r) r.length = none ↔ ∀ s, codeBitsOf T s ≠ r := by
  simp only [Option.eq_none_iff_forall_ne_some, ne_eq, valid.lookupV_iff]

/-- The byte encoder is the symbol encoder of the table's prefix code. -/
theorem Valid.encodeBits_eq (valid : T.Valid) (xs : List Byte) :
    encodeBits T xs = valid.code.encode (xs.map Sym.ofByte) := by
  induction xs with
  | nil => rfl
  | cons x xs ih =>
      rw [encodeBits, ih]
      rfl

end Table

theorem encodeBits_append (T : Table) (xs ys : List Byte) :
    encodeBits T (xs ++ ys) = encodeBits T xs ++ encodeBits T ys := by
  induction xs with
  | nil => rfl
  | cons x xs ih => simp only [List.cons_append, encodeBits, ih, List.append_assoc]

theorem encodeBits_mono (T : Table) {xs ys : List Byte} (start : xs <+: ys) :
    encodeBits T xs <+: encodeBits T ys := by
  obtain ⟨rest, rfl⟩ := start
  rw [encodeBits_append]
  exact List.prefix_append _ _

end HpackHuffman
