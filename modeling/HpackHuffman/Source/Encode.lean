import HpackHuffman.Util.Checked
import HpackHuffman.Refine.Views
import HpackHuffman.Lowstar.Codec
import HpackHuffman.Source.Tables

/-! # The encoder before extraction

The encoder as it is verified: recursive functions whose every sum, shift and access has a
precondition. On every table which passes the checks they meet all of them, from every
state the loops can be called in, and what they write is the code stream.

Checked on the way are the operations which are partial, the arguments of refined types, and the
preconditions of calls as far as they speak of the arguments alone: that of `drain`, and in the
round trip those of `encode` and `decode_dfa`. The preconditions of the loops speak of ghost
arguments too. They are the hypotheses of the contracts, and the proofs show them again for each
call a loop makes of itself.
-/

namespace HpackHuffman.Source

open Bits Checked
open Lowstar (EncodeEnd)

/-- Bit length of the code of `b`, by the length table. -/
def blen (D : Generated) (b : Byte) : Nat :=
  (D.huffLen.get ⟨b.toNat, D.length_huffLen ▸ b.toNat_lt⟩).toNat

/-- Bits needed to encode the first `i` bytes. -/
def sumBlen (D : Generated) (src : List UInt8) : (i : Nat) → i ≤ src.length → Nat
  | 0, _ => 0
  | i + 1, inside => sumBlen D src i (Nat.le_of_succ_le inside) + blen D (getElem src i inside)

def sumLoop (D : Generated) (src : List Byte) (len i : UInt32) (acc : UInt64) : Checked UInt64 :=
  if i = len then .ok acc
  else do
    let b ← index src i
    let l ← index D.huffLen b.toUInt32
    let acc' ← U64.add acc l.toUInt64
    match _next : U32.add i 1 with
    | .error unmet => .error unmet
    | .ok i' => sumLoop D src len i' acc'
termination_by 2 ^ 32 - i.toNat
decreasing_by
  have step := (U32.add_inv _next).2
  have small := i'.toNat_lt
  simp only [UInt32.reduceToNat] at step
  omega

def encodeLen (D : Generated) (src : List Byte) (len : UInt32) : Checked UInt32 := do
  let t ← sumLoop D src len 0 0
  let sum ← U64.add t 7
  let bytes := sum / 8
  return bytes.toUInt32

/-- The write index and the bits left, and the buffer. -/
structure Drained where
  out : UInt32
  nbits : UInt32
  dst : Buffer

/-- What a call of `drain` has to meet. -/
def DrainRequires (dst : Buffer) (len out nbits : UInt32) (bits : UInt64) : Prop :=
  len.toNat < 2 ^ 27 ∧ 4 * len.toNat + 1 ≤ dst.bytes.length ∧ nbits.toNat < 64 ∧
    bits.toNat < 2 ^ nbits.toNat ∧ 8 * out.toNat + nbits.toNat ≤ 30 * len.toNat

instance (dst : Buffer) (len out nbits : UInt32) (bits : UInt64) :
    Decidable (DrainRequires dst len out nbits bits) :=
  inferInstanceAs (Decidable (_ ∧ _ ∧ _ ∧ _ ∧ _))

/-- The body of the counted loop. -/
def drainByte (out nbits : UInt32) (bits : UInt64) (j : UInt32) (dst : Buffer) :
    Checked Buffer := do
  let j1 ← U32.add j 1
  let above ← U32.mul 8 j1
  let shift ← U32.sub nbits above
  let byte ← U64.shiftRight bits shift
  let at_ ← U32.add out j
  upd dst at_ byte.toUInt8

def drain (dst : Buffer) (len out nbits : UInt32) (bits : UInt64) : Checked Drained := do
  demand (DrainRequires dst len out nbits bits)
  let nbytes := nbits / 8
  let dst ← forLoop 0 nbytes (drainByte out nbits bits) dst
  let out' ← U32.add out nbytes
  let whole ← U32.mul nbytes 8
  let nbits' ← U32.sub nbits whole
  return ⟨out', nbits', dst⟩

def encodeLoop (D : Generated) (dst : Buffer) (src : List Byte) (len i out nbits : UInt32)
    (bits : UInt64) : Checked EncodeEnd :=
  if i = len then .ok ⟨dst, out, nbits, bits⟩
  else do
    let b ← index src i
    let code ← index D.huffCode b.toUInt32
    let cb ← index D.huffLen b.toUInt32
    let cb32 := cb.toUInt32
    let shifted ← U64.shiftLeft bits cb32
    let bits1 := shifted ||| code.toUInt64
    let nbits1 ← U32.add nbits cb32
    let res ← drain dst len out nbits1 bits1
    let out2 := res.out
    let nbits2 := res.nbits
    let top ← U64.shiftLeft 1 nbits2
    let mask ← U64.sub top 1
    let bits2 := bits1 &&& mask
    match _next : U32.add i 1 with
    | .error unmet => .error unmet
    | .ok i' => encodeLoop D res.dst src len i' out2 nbits2 bits2
termination_by 2 ^ 32 - i.toNat
decreasing_by
  have step := (U32.add_inv _next).2
  have small := i'.toNat_lt
  simp only [UInt32.reduceToNat] at step
  omega

/-- What a call of `encode` has to meet. -/
def EncodeRequires (src : List Byte) (len : UInt32) (dst : Buffer) : Prop :=
  src.length = len.toNat ∧ len.toNat < 2 ^ 27 ∧ 4 * len.toNat + 1 ≤ dst.bytes.length

instance (src : List Byte) (len : UInt32) (dst : Buffer) : Decidable (EncodeRequires src len dst) :=
  inferInstanceAs (Decidable (_ ∧ _ ∧ _))

/-- The number of bytes written, and the buffer. -/
def encode (D : Generated) (src : List Byte) (len : UInt32) (dst : Buffer) :
    Checked (UInt32 × Buffer) := do
  let res ← encodeLoop D dst src len 0 0 0 0
  if res.nbits > 0 then
    let pad ← U32.sub 8 res.nbits
    let top ← U64.shiftLeft 1 pad
    let ones ← U64.sub top 1
    let shifted ← U64.shiftLeft res.bits pad
    let byte64 := shifted ||| ones
    let byte := byte64.toUInt8
    let dst ← upd res.dst res.out byte
    let r ← U32.add res.out 1
    return (r, dst)
  else
    return (res.out, res.dst)

section Unfold

variable (D : Generated) (dst : Buffer) (src : List Byte) (len i out nbits : UInt32)
  (acc bits : UInt64)

theorem sumLoop_unfold : sumLoop D src len i acc =
    if i = len then .ok acc
    else (do
      let b ← index src i
      let l ← index D.huffLen b.toUInt32
      let acc' ← U64.add acc l.toUInt64
      let i' ← U32.add i 1
      sumLoop D src len i' acc') := by
  rw [sumLoop]
  refine ite_congr rfl (fun _ => rfl) fun _ => ?_
  refine bind_congr fun b => bind_congr fun l => bind_congr fun acc' => ?_
  cases U32.add i 1 <;> rfl

theorem encodeLoop_unfold : encodeLoop D dst src len i out nbits bits =
    if i = len then .ok ⟨dst, out, nbits, bits⟩
    else (do
      let b ← index src i
      let code ← index D.huffCode b.toUInt32
      let cb ← index D.huffLen b.toUInt32
      let shifted ← U64.shiftLeft bits cb.toUInt32
      let nbits1 ← U32.add nbits cb.toUInt32
      let res ← drain dst len out nbits1 (shifted ||| code.toUInt64)
      let top ← U64.shiftLeft 1 res.nbits
      let mask ← U64.sub top 1
      let i' ← U32.add i 1
      encodeLoop D res.dst src len i' res.out res.nbits
        ((shifted ||| code.toUInt64) &&& mask)) := by
  rw [encodeLoop]
  refine ite_congr rfl (fun _ => rfl) fun _ => ?_
  refine bind_congr fun b => bind_congr fun code => bind_congr fun cb => bind_congr fun shifted =>
    bind_congr fun nbits1 => bind_congr fun res => bind_congr fun top => bind_congr fun mask => ?_
  cases U32.add i 1 <;> rfl

end Unfold

section Reads

variable (D : Generated)

theorem index_huffLen (b : Byte) :
    ∃ l, index D.huffLen b.toUInt32 = .ok l ∧ l.toNat = blen D b := by
  refine ⟨D.huffLen.get ⟨b.toNat, D.length_huffLen ▸ b.toNat_lt⟩, index_of_get ?_, rfl⟩
  rw [UInt8.toNat_toUInt32]
  exact List.getElem?_eq_getElem _

theorem blen_range (b : Byte) : 5 ≤ blen D b ∧ blen D b ≤ 30 :=
  D.huffLen_range _ (List.get_mem _ _)

variable {D} {T : Table} (tables : TablesOf T D)

include tables

theorem index_huffCode (b : Byte) :
    ∃ c, index D.huffCode b.toUInt32 = .ok c ∧ c.toNat = codeOf T (Sym.ofByte b) := by
  obtain ⟨c, here, value⟩ := tables.code b
  exact ⟨c, index_of_get (by rwa [UInt8.toNat_toUInt32]), value⟩

theorem blen_eq (b : Byte) : blen D b = lenOf T (Sym.ofByte b) := by
  obtain ⟨l, here, value⟩ := tables.len b
  rw [List.getElem?_eq_getElem (D.length_huffLen ▸ b.toNat_lt), Option.some.injEq] at here
  rw [← value, ← here]
  rfl

end Reads

section Sum

variable {D : Generated} {src : List Byte}

theorem sumBlen_congr {i j : Nat} (same : i = j) (le : i ≤ src.length) (le' : j ≤ src.length) :
    sumBlen D src i le = sumBlen D src j le' := by
  subst same
  rfl

theorem sumBlen_le {i : Nat} (le : i ≤ src.length) : sumBlen D src i le ≤ 30 * i := by
  induction i with
  | zero => exact Nat.zero_le _
  | succ i ih =>
      have before := ih (Nat.le_of_succ_le le)
      have one := (blen_range D src[i]).2
      simp only [sumBlen]
      omega

/-- The bits counted are those of the code stream. -/
theorem sumBlen_eq {T : Table} (tables : TablesOf T D) {i : Nat} (le : i ≤ src.length) :
    sumBlen D src i le = (encodeBits T (src.take i)).length := by
  induction i with
  | zero => rfl
  | succ i ih =>
      rw [sumBlen, ih (Nat.le_of_succ_le le), blen_eq tables, List.take_succ_eq_append_getElem le,
        encodeBits_append, List.length_append, encodeBits, encodeBits, List.append_nil,
        codeBitsOf, length_codeToBits]

/-- From every index the loop adds up the lengths which are left, without an overflow. -/
theorem sumLoop_contract {len i : UInt32} {acc : UInt64} (length : src.length = len.toNat)
    (small : len.toNat < 2 ^ 27) (le : i.toNat ≤ src.length)
    (counted : acc.toNat = sumBlen D src i.toNat le) :
    ∃ r, sumLoop D src len i acc = .ok r ∧
      r.toNat = sumBlen D src src.length (Nat.le_refl _) := by
  induction left : src.length - i.toNat generalizing i acc with
  | zero =>
      have last : i = len := UInt32.toNat_inj.mp (by omega)
      refine ⟨acc, by rw [sumLoop_unfold, if_pos last], ?_⟩
      rw [counted]
      exact sumBlen_congr (by omega) _ _
  | succ n ih =>
      have inside : i.toNat < src.length := by omega
      have more : i ≠ len := by
        intro last
        rw [last] at inside
        omega
      have bound := sumBlen_le (D := D) le
      obtain ⟨l, read, value⟩ := index_huffLen D src[i.toNat]
      have one := (blen_range D src[i.toNat]).2
      have byte : l.toUInt64.toNat = blen D src[i.toNat] := by
        rw [UInt8.toNat_toUInt64, value]
      obtain ⟨acc', added, sum⟩ := U64.add_spec (a := acc) (b := l.toUInt64) (by omega)
      obtain ⟨i', next, succ⟩ := U32.succ_spec (a := i) (b := len) (by omega)
      have turn : sumLoop D src len i acc = sumLoop D src len i' acc' := by
        rw [sumLoop_unfold, if_neg more]
        simp only [index_of_lt inside, read, added, next, bind, Except.bind]
      rw [turn]
      refine ih (by omega) ?_ (by omega)
      rw [sum, counted, byte, sumBlen_congr succ _ inside]
      rfl

/-- `encode_len` meets every precondition and returns the bytes the bits take up. -/
theorem encodeLen_contract {len : UInt32} (length : src.length = len.toNat)
    (small : len.toNat < 2 ^ 27) :
    ∃ r, encodeLen D src len = .ok r ∧
      r.toNat = (sumBlen D src src.length (Nat.le_refl _) + 7) / 8 := by
  have nothing : (0 : UInt64).toNat = sumBlen D src (0 : UInt32).toNat (Nat.zero_le _) := rfl
  obtain ⟨t, loop, total⟩ := sumLoop_contract length small (Nat.zero_le _) nothing
  have bound := sumBlen_le (D := D) (Nat.le_refl src.length)
  obtain ⟨sum, added, value⟩ := U64.add_spec (a := t) (b := 7)
    (by simp only [UInt64.reduceToNat]; omega)
  refine ⟨(sum / 8).toUInt32, ?_, ?_⟩
  · simp only [encodeLen, loop, added, bind, Except.bind, pure, Except.pure]
  · simp only [UInt64.reduceToNat] at value
    simp only [UInt64.toNat_toUInt32, UInt64.toNat_div, UInt64.reduceToNat, value, total]
    omega

end Sum

section Drain

variable {dst : Buffer} {len out nbits : UInt32} {bits : UInt64}

/-- What the loop has stored after `j` turns: the top `j` bytes of the window. -/
def DrainInv (dst : Buffer) (out nbits : UInt32) (bits : UInt64) (j : Nat) (dst' : Buffer) : Prop :=
  ∃ vs : List Byte, dst' = dst.write out.toNat vs ∧ vs.length = j ∧
    unpackBytes vs = codeToBits (bits.toNat / 2 ^ (nbits.toNat - 8 * j)) (8 * j)

/-- The next byte down completes the bits above it. -/
theorem unpackBytes_snoc {vs : List Byte} {j n c : Nat} {byte : UInt64}
    (fits : 8 * (j + 1) ≤ n) (value : byte.toNat = c / 2 ^ (n - 8 * (j + 1)))
    (top : unpackBytes vs = codeToBits (c / 2 ^ (n - 8 * j)) (8 * j)) :
    unpackBytes (vs ++ [byte.toUInt8]) =
      codeToBits (c / 2 ^ (n - 8 * (j + 1))) (8 * (j + 1)) := by
  have shift : n - 8 * j = n - 8 * (j + 1) + 8 := by omega
  have low : byte.toUInt8.toNat = c / 2 ^ (n - 8 * (j + 1)) % 2 ^ 8 := by
    rw [UInt64.toNat_toUInt8, value]
  change _ = codeToBits (c / 2 ^ (n - 8 * (j + 1))) (8 * j + 8)
  rw [unpackBytes_append, top, unpackBytes_cons, unpackBytes_nil, List.append_nil, low,
    codeToBits_split, shift, Nat.pow_add, ← Nat.div_div_eq_div_mul]

theorem drainByte_step (req : DrainRequires dst len out nbits bits) {j : UInt32} {dst' : Buffer}
    (more : j.toNat < (nbits / 8).toNat) (inv : DrainInv dst out nbits bits j.toNat dst') :
    ∃ dst'', drainByte out nbits bits j dst' = .ok dst'' ∧
      DrainInv dst out nbits bits (j.toNat + 1) dst'' := by
  obtain ⟨small, room, width, -, total⟩ := req
  obtain ⟨vs, rfl, count, top⟩ := inv
  simp only [UInt32.toNat_div, UInt32.reduceToNat] at more
  have fits : 8 * (j.toNat + 1) ≤ nbits.toNat := by omega
  obtain ⟨j1, next, succ⟩ := U32.succ_spec (a := j) (b := nbits) (by omega)
  obtain ⟨above, times, product⟩ := U32.mul_spec (a := 8) (b := j1)
    (by simp only [UInt32.reduceToNat]; omega)
  simp only [UInt32.reduceToNat, succ] at product
  obtain ⟨shift, minus, difference⟩ := U32.sub_spec (a := nbits) (b := above) (by omega)
  rw [product] at difference
  obtain ⟨byte, shifted, value⟩ := U64.shiftRight_spec (n := shift) bits (by omega)
  rw [difference] at value
  obtain ⟨at_, plus, sum⟩ := U32.add_spec (a := out) (b := j) (by omega)
  have before : out.toNat + vs.length ≤ dst.bytes.length := by omega
  have inside : at_.toNat < (dst.write out.toNat vs).bytes.length := by
    rw [Buffer.length_write before]
    omega
  refine ⟨_, ?_, vs ++ [byte.toUInt8], rfl, ?_, unpackBytes_snoc fits value top⟩
  · simp only [drainByte, next, times, minus, shifted, plus, upd_of_lt inside, bind, Except.bind]
    rw [sum, ← count, Buffer.write_write before]
  · rw [List.length_append, List.length_singleton, count]

/-- A call of `drain` stores the whole bytes at the top of the window and keeps the rest. -/
theorem drain_contract (req : DrainRequires dst len out nbits bits) :
    ∃ res, drain dst len out nbits bits = .ok res ∧ res.nbits.toNat = nbits.toNat % 8 ∧
      8 * res.out.toNat + res.nbits.toNat = 8 * out.toNat + nbits.toNat ∧
      ∃ vs : List Byte, res.dst = dst.write out.toNat vs ∧ out.toNat + vs.length = res.out.toNat ∧
        res.out.toNat ≤ dst.bytes.length ∧
        unpackBytes vs = codeToBits (bits.toNat / 2 ^ res.nbits.toNat) (8 * vs.length) := by
  have nbytes : (nbits / 8).toNat = nbits.toNat / 8 := UInt32.toNat_div nbits 8
  have start : DrainInv dst out nbits bits (0 : UInt32).toNat dst :=
    ⟨[], by simp, rfl, rfl⟩
  obtain ⟨dst', loop, vs, rfl, count, top⟩ := forLoop_invariant
    (DrainInv dst out nbits bits) (show (0 : UInt32).toNat ≤ (nbits / 8).toNat from Nat.zero_le _)
    (fun j dst' more inv => drainByte_step req more inv) start
  have demanded := demand_ok req
  obtain ⟨small, room, width, -, total⟩ := req
  obtain ⟨out', plus, sum⟩ := U32.add_spec (a := out) (b := nbits / 8) (by omega)
  obtain ⟨whole, times, product⟩ := U32.mul_spec (a := nbits / 8) (b := 8)
    (by simp only [UInt32.reduceToNat]; omega)
  simp only [UInt32.reduceToNat, nbytes] at product
  obtain ⟨nbits', minus, difference⟩ := U32.sub_spec (a := nbits) (b := whole) (by omega)
  have left : nbits'.toNat = nbits.toNat - 8 * (nbits.toNat / 8) := by omega
  have kept : nbits'.toNat = nbits.toNat % 8 := by omega
  have same : 8 * out'.toNat + nbits'.toNat = 8 * out.toNat + nbits.toNat := by omega
  have last : out.toNat + vs.length = out'.toNat := by omega
  have room' : out'.toNat ≤ dst.bytes.length := by omega
  refine ⟨⟨out', nbits', _⟩, ?_, kept, same, vs, rfl, last, room', ?_⟩
  · simp only [drain, demanded, loop, plus, times, minus, bind, Except.bind]
    rfl
  · rw [top, count, left, nbytes]

end Drain

theorem encBits_eq {s : List Byte} {n : Nat} (le : n ≤ s.length) :
    encBits s n le = unpackBytes (s.take n) := by
  have whole := encBits_append le
  have split := unpackBytes_append (s.take n) (s.drop n)
  rw [List.take_append_drop] at split
  exact List.append_cancel_right (whole.trans split)

/-- What a call of `encode_loop` has to meet. -/
structure EncodeLoopRequires (T : Table) (D : Generated) (dst : Buffer) (src : List Byte)
    (len i out nbits : UInt32) (bits : UInt64) : Prop where
  length : src.length = len.toNat
  small : len.toNat < 2 ^ 27
  room : 4 * len.toNat + 1 ≤ dst.bytes.length
  le : i.toNat ≤ src.length
  few : nbits.toNat < 8
  fits : bits.toNat < 2 ^ nbits.toNat
  inside : out.toNat ≤ dst.bytes.length
  total : 8 * out.toNat + nbits.toNat = sumBlen D src i.toNat le
  content : encBits dst.bytes out.toNat inside ++ codeToBits bits.toNat nbits.toNat =
    encodeBits T (src.take i.toNat)

/-- What it ensures. -/
structure EncodeLoopEnsures (T : Table) (D : Generated) (dst : Buffer) (src : List Byte)
    (out : UInt32) (res : EncodeEnd) : Prop where
  few : res.nbits.toNat < 8
  fits : res.bits.toNat < 2 ^ res.nbits.toNat
  total : 8 * res.out.toNat + res.nbits.toNat = sumBlen D src src.length (Nat.le_refl _)
  content : ∃ inside : res.out.toNat ≤ res.dst.bytes.length,
    encBits res.dst.bytes res.out.toNat inside ++ codeToBits res.bits.toNat res.nbits.toNat =
      encodeBits T src
  /-- Only the bytes from `out` on are stored to, one after the other. -/
  frame : ∃ vs : List Byte, res.dst = dst.write out.toNat vs ∧
    out.toNat + vs.length = res.out.toNat ∧ res.out.toNat ≤ dst.bytes.length

section Encode

variable {T : Table} {D : Generated} {dst : Buffer} {src : List Byte}
  {len i out nbits : UInt32} {bits : UInt64}

/-- The code goes in below the bits left. -/
theorem append_code {code cb32 : UInt32} {c l : Nat} (few : nbits.toNat < 8)
    (fits : bits.toNat < 2 ^ nbits.toNat) (long : l ≤ 30) (codeFits : c < 2 ^ l)
    (value : code.toNat = c) (width : cb32.toNat = l) :
    ∃ shifted, U64.shiftLeft bits cb32 = .ok shifted ∧
      (shifted ||| code.toUInt64).toNat < 2 ^ (nbits.toNat + l) ∧
      codeToBits (shifted ||| code.toUInt64).toNat (nbits.toNat + l) =
        codeToBits bits.toNat nbits.toNat ++ codeToBits c l := by
  subst value width
  have window : bits.toNat * 2 ^ cb32.toNat < 2 ^ 64 := shift_fits fits (by omega)
  have low : code.toUInt64.toNat < 2 ^ cb32.toNat := by rwa [UInt32.toNat_toUInt64]
  obtain ⟨shifted, shift, sum⟩ := U64.shiftLeft_or_spec code.toUInt64 (by omega) window low
  rw [UInt32.toNat_toUInt64] at sum
  refine ⟨shifted, shift, ?_, ?_⟩
  · rw [sum, Nat.pow_add]
    calc bits.toNat * 2 ^ cb32.toNat + code.toNat
        < bits.toNat * 2 ^ cb32.toNat + 2 ^ cb32.toNat := by omega
      _ = (bits.toNat + 1) * 2 ^ cb32.toNat := by ring
      _ ≤ 2 ^ nbits.toNat * 2 ^ cb32.toNat := Nat.mul_le_mul_right _ fits
  · rw [sum, codeToBits_shift _ _ fits codeFits]

/-- The bytes which draining appends and the bits it leaves are the bits there were. -/
theorem drained_stream {dst' : Buffer} {out' : UInt32} {w r : Nat} {vs : List Byte}
    (inside : out.toNat ≤ dst.bytes.length) (inside' : out'.toNat ≤ dst'.bytes.length)
    (written : dst' = dst.write out.toNat vs) (cursor : out.toNat + vs.length = out'.toNat)
    (top : unpackBytes vs = codeToBits (w / 2 ^ r) (8 * vs.length)) :
    encBits dst'.bytes out'.toNat inside' ++ codeToBits (w % 2 ^ r) r =
      encBits dst.bytes out.toNat inside ++ codeToBits w (8 * vs.length + r) := by
  rw [encBits_eq, encBits_eq, written, ← cursor, Buffer.take_write inside, unpackBytes_append,
    top, List.append_assoc, ← codeToBits_split]

/-- A turn moves one byte of the input to the code stream. -/
theorem encodeLoop_turn (rfc : RfcCode T) (tables : TablesOf T D)
    (req : EncodeLoopRequires T D dst src len i out nbits bits) (more : i.toNat < src.length) :
    ∃ (res : Drained) (i' : UInt32) (bits2 : UInt64), encodeLoop D dst src len i out nbits bits =
        encodeLoop D res.dst src len i' res.out res.nbits bits2 ∧
      i'.toNat = i.toNat + 1 ∧
      EncodeLoopRequires T D res.dst src len i' res.out res.nbits bits2 ∧
      ∃ vs : List Byte, res.dst = dst.write out.toNat vs ∧
        out.toNat + vs.length = res.out.toNat ∧ res.out.toNat ≤ dst.bytes.length := by
  obtain ⟨length, small, room, le, few, fits, inside, total, content⟩ := req
  have notLast : i ≠ len := by
    intro last
    rw [last] at more
    omega
  have bound := sumBlen_le (D := D) le
  have byteLen := blen_eq tables src[i.toNat]
  obtain ⟨code, readCode, codeValue⟩ := index_huffCode tables src[i.toNat]
  obtain ⟨cb, readLen, lenValue⟩ := index_huffLen D src[i.toNat]
  rw [byteLen] at lenValue
  have long := (rfc.lengths (Sym.ofByte src[i.toNat])).2
  have width : cb.toUInt32.toNat = lenOf T (Sym.ofByte src[i.toNat]) := by
    rw [UInt8.toNat_toUInt32, lenValue]
  obtain ⟨shifted, shift, window, bits1⟩ := append_code few fits long
    (rfc.fits (Sym.ofByte src[i.toNat])) codeValue width
  obtain ⟨nbits1, plus, sum⟩ := U32.add_spec (a := nbits) (b := cb.toUInt32) (by omega)
  rw [width] at sum
  -- The bits counted with this byte still fit four bytes for every byte of the input.
  have counted : sumBlen D src (i.toNat + 1) more =
      8 * out.toNat + (nbits.toNat + lenOf T (Sym.ofByte src[i.toNat])) := by
    rw [sumBlen, byteLen]
    omega
  have bound' := sumBlen_le (D := D) more
  have drains : DrainRequires dst len out nbits1 (shifted ||| code.toUInt64) :=
    ⟨small, room, by omega, by rwa [sum], by omega⟩
  obtain ⟨res, drained, left, same, vs, written, cursor, room', top⟩ := drain_contract drains
  obtain ⟨one, mask, oneShifted, minus, maskValue⟩ := U64.mask_spec (n := res.nbits) (by omega)
  obtain ⟨i', next, succ⟩ := U32.succ_spec (a := i) (b := len) (by omega)
  have bits2 : ((shifted ||| code.toUInt64) &&& mask).toNat =
      (shifted ||| code.toUInt64).toNat % 2 ^ res.nbits.toNat := by
    rw [UInt64.toNat_and, maskValue, Nat.and_two_pow_sub_one_eq_mod]
  refine ⟨res, i', (shifted ||| code.toUInt64) &&& mask, ?_, succ, ?_, vs, written, cursor, room'⟩
  · rw [encodeLoop_unfold, if_neg notLast]
    simp only [index_of_lt more, readCode, readLen, shift, plus, drained, oneShifted, minus, next,
      bind, Except.bind]
  · have kept : res.dst.bytes.length = dst.bytes.length := by
      rw [written, Buffer.length_write (by omega)]
    have inside' : res.out.toNat ≤ res.dst.bytes.length := by omega
    refine ⟨length, small, by omega, by omega, by omega, ?_, inside', ?_, ?_⟩
    · rw [bits2]
      exact Nat.mod_lt _ (Nat.two_pow_pos _)
    · rw [sumBlen_congr succ _ more]
      omega
    · have whole : 8 * vs.length + res.nbits.toNat =
          nbits.toNat + lenOf T (Sym.ofByte src[i.toNat]) := by omega
      rw [bits2, drained_stream inside inside' written cursor top, whole, bits1,
        ← List.append_assoc, content, succ, List.take_succ_eq_append_getElem more,
        encodeBits_append, encodeBits, encodeBits, List.append_nil]
      rfl

/-- The loop, from every state it can be called in. -/
theorem encodeLoop_ensures (rfc : RfcCode T) (tables : TablesOf T D)
    (req : EncodeLoopRequires T D dst src len i out nbits bits) :
    ∃ res, encodeLoop D dst src len i out nbits bits = .ok res ∧
      EncodeLoopEnsures T D dst src out res := by
  induction left : src.length - i.toNat generalizing dst i out nbits bits with
  | zero =>
      obtain ⟨length, -, -, le, few, fits, inside, total, content⟩ := req
      have all : i.toNat = src.length := by omega
      have last : i = len := UInt32.toNat_inj.mp (by omega)
      refine ⟨⟨dst, out, nbits, bits⟩, by rw [encodeLoop_unfold, if_pos last], few, fits, ?_,
        ⟨inside, ?_⟩, [], (Buffer.write_nil dst out.toNat).symm, rfl, inside⟩
      · rw [total]
        exact sumBlen_congr all _ _
      · rw [content, all, List.take_length]
  | succ n ih =>
      obtain ⟨res, i', bits2, turn, next, req', vs, written, cursor, room⟩ :=
        encodeLoop_turn rfc tables req (by omega)
      obtain ⟨last, run, few, fits, total, content, ws, written', cursor', room'⟩ :=
        ih req' (by omega)
      refine ⟨last, by rw [turn, run], few, fits, total, content, vs ++ ws, ?_, ?_, ?_⟩
      · rw [written', written, ← cursor, Buffer.write_write (by omega)]
      · rw [List.length_append]
        omega
      · rw [written, Buffer.length_write (by omega)] at room'
        exact room'

/-- The final byte: the bits left and ones below them. -/
theorem final_byte (some_ : 0 < nbits.toNat) (few : nbits.toNat < 8)
    (fits : bits.toNat < 2 ^ nbits.toNat) :
    ∃ pad top ones shifted, U32.sub 8 nbits = .ok pad ∧ U64.shiftLeft 1 pad = .ok top ∧
      U64.sub top 1 = .ok ones ∧ U64.shiftLeft bits pad = .ok shifted ∧ pad.toNat ≤ 7 ∧
      unpackBytes [(shifted ||| ones).toUInt8] =
        codeToBits bits.toNat nbits.toNat ++ List.replicate pad.toNat true := by
  obtain ⟨pad, minus, difference⟩ := U32.sub_spec (a := 8) (b := nbits)
    (by simp only [UInt32.reduceToNat]; omega)
  simp only [UInt32.reduceToNat] at difference
  obtain ⟨top, ones, one, less, mask⟩ := U64.mask_spec (n := pad) (by omega)
  have low : ones.toNat < 2 ^ pad.toNat := by
    rw [mask]
    exact Nat.sub_lt (Nat.two_pow_pos _) Nat.one_pos
  obtain ⟨shifted, shift, sum⟩ := U64.shiftLeft_or_spec (x := bits) (n := pad) ones (by omega)
    (shift_fits fits (by omega)) low
  refine ⟨pad, top, ones, shifted, minus, one, less, shift, by omega, ?_⟩
  have eight : nbits.toNat + pad.toNat = 8 := by omega
  have bits8 := codeToBits_shift nbits.toNat pad.toNat fits low
  rw [mask, codeToBits_ones, eight, ← mask, ← sum] at bits8
  rw [unpackBytes_cons, unpackBytes_nil, List.append_nil, UInt64.toNat_toUInt8, codeToBits_mod,
    bits8]

/-- The last byte is made of the bits left. -/
theorem encode_flush {res : EncodeEnd} {vs : List Byte}
    (run : encodeLoop D dst src len 0 0 0 0 = .ok res) (more : res.nbits > 0)
    (few : res.nbits.toNat < 8) (fits : res.bits.toNat < 2 ^ res.nbits.toNat)
    (written : res.dst = dst.write 0 vs) (cursor : vs.length = res.out.toNat)
    (room : vs.length < dst.bytes.length) (narrow : vs.length + 1 < 2 ^ 32)
    (content : unpackBytes vs ++ codeToBits res.bits.toNat res.nbits.toNat = encodeBits T src) :
    ∃ r, encode D src len dst = .ok (r, dst.write 0 (encodeBytes T src)) ∧
      r.toNat = (encodeBytes T src).length := by
  have some_ : 0 < res.nbits.toNat := UInt32.lt_iff_toNat_lt.mp more
  obtain ⟨pad, top, ones, shifted, minus, one, less, shift, short, byte⟩ :=
    final_byte some_ few fits
  have whole : vs ++ [(shifted ||| ones).toUInt8] = encodeBytes T src := by
    apply eq_encodeBytes short
    rw [bytesToBits_eq, unpackBytes_append, byte, ← List.append_assoc, content]
  have last : res.out.toNat < res.dst.bytes.length := by
    rw [written, Buffer.length_write (by omega), ← cursor]
    exact room
  obtain ⟨r, next, succ⟩ := U32.add_spec (a := res.out) (b := 1)
    (by simp only [UInt32.reduceToNat]; omega)
  refine ⟨r, ?_, ?_⟩
  · simp only [encode, run, if_pos more, minus, one, less, shift, upd_of_lt last, next, bind,
      Except.bind]
    rw [← whole, written, ← cursor, Buffer.write_append dst vs _ (by omega)]
    rfl
  · rw [succ, ← whole, List.length_append, cursor]
    rfl

/-- Where no bits are left the loop has written the whole stream. -/
theorem encode_whole {res : EncodeEnd} {vs : List Byte}
    (run : encodeLoop D dst src len 0 0 0 0 = .ok res) (more : ¬ res.nbits > 0)
    (written : res.dst = dst.write 0 vs) (cursor : vs.length = res.out.toNat)
    (content : unpackBytes vs ++ codeToBits res.bits.toNat res.nbits.toNat = encodeBits T src) :
    ∃ r, encode D src len dst = .ok (r, dst.write 0 (encodeBytes T src)) ∧
      r.toNat = (encodeBytes T src).length := by
  have none_ : res.nbits.toNat = 0 := by
    have le := mt UInt32.lt_iff_toNat_lt.mpr more
    simpa using le
  have whole : vs = encodeBytes T src := by
    apply eq_encodeBytes (Nat.zero_le 7)
    rw [bytesToBits_eq, ← content, none_, codeToBits, List.append_nil, List.replicate_zero,
      List.append_nil]
  refine ⟨res.out, ?_, by rw [← whole, cursor]⟩
  simp only [encode, run, if_neg more, bind, Except.bind]
  rw [written, whole]
  rfl

/-- `encode` writes the padded code stream from the front of the buffer. -/
theorem encode_eq (rfc : RfcCode T) (tables : TablesOf T D) (length : src.length = len.toNat)
    (small : len.toNat < 2 ^ 27) (room : 4 * len.toNat + 1 ≤ dst.bytes.length) :
    ∃ r, encode D src len dst = .ok (r, dst.write 0 (encodeBytes T src)) ∧
      r.toNat = (encodeBytes T src).length := by
  have start : EncodeLoopRequires T D dst src len 0 0 0 0 :=
    ⟨length, small, room, Nat.zero_le _, Nat.zero_lt_succ 7, Nat.one_pos, Nat.zero_le _, rfl, rfl⟩
  obtain ⟨res, run, few, fits, total, ⟨inside, content⟩, vs, written, cursor, room'⟩ :=
    encodeLoop_ensures rfc tables start
  rw [UInt32.toNat_zero] at written cursor
  rw [Nat.zero_add] at cursor
  have bound := sumBlen_le (D := D) (Nat.le_refl src.length)
  have bytes : encBits res.dst.bytes res.out.toNat inside = unpackBytes vs := by
    rw [encBits_eq, written, ← cursor, Buffer.take_write_front]
  rw [bytes] at content
  by_cases more : res.nbits > 0
  · have some_ : 0 < res.nbits.toNat := UInt32.lt_iff_toNat_lt.mp more
    exact encode_flush run more few fits written cursor (by omega) (by omega) content
  · exact encode_whole run more written cursor content

/-- From every state `encode_loop` can be called in, over tables which pass the checks,
    it meets every precondition and ends with the code stream of the whole input. -/
theorem encodeLoop_contract (checked : codecChecks T D = true)
    (req : EncodeLoopRequires T D dst src len i out nbits bits) :
    ∃ res, encodeLoop D dst src len i out nbits bits = .ok res ∧
      EncodeLoopEnsures T D dst src out res := by
  obtain ⟨rfc, tables⟩ := codecChecks_iff.mp checked
  exact encodeLoop_ensures rfc tables req

/-- The second `a` of two, when the first has left its five bits. -/
theorem encodeLoop_contract_aa :
    ∃ res, encodeLoop committed (.ofBytes [0, 0, 0, 0, 0, 0, 0, 0, 0]) [97, 97] 2 1 0 5 3 =
        .ok res ∧
      EncodeLoopEnsures hpack committed (.ofBytes [0, 0, 0, 0, 0, 0, 0, 0, 0]) [97, 97] 0 res :=
  encodeLoop_contract codecChecks_committed
    ⟨by decide, by decide, by decide, by decide, by decide, by decide, by decide,
      by decide +kernel, by decide +kernel⟩

/-- `encode_len` and `encode` meet every precondition and agree on the length. The bytes written
    are the code stream and at most seven ones, and nothing else is stored to. -/
theorem encode_contract (checked : codecChecks T D = true) (length : src.length = len.toNat)
    (small : len.toNat < 2 ^ 27) (room : 4 * len.toNat + 1 ≤ dst.bytes.length) :
    ∃ r, encodeLen D src len = .ok r ∧
      encode D src len dst = .ok (r, dst.write 0 (encodeBytes T src)) ∧
      r.toNat = (sumBlen D src src.length (Nat.le_refl _) + 7) / 8 ∧
      ∃ inside : r.toNat ≤ (dst.write 0 (encodeBytes T src)).bytes.length, ∃ k ≤ 7,
        encBits (dst.write 0 (encodeBytes T src)).bytes r.toNat inside =
          encodeBits T src ++ codeToBits (2 ^ k - 1) k := by
  obtain ⟨rfc, tables⟩ := codecChecks_iff.mp checked
  obtain ⟨r', counted, size'⟩ := encodeLen_contract (D := D) length small
  obtain ⟨r, run, size⟩ := encode_eq rfc tables length small room
  have total := sumBlen_eq tables (Nat.le_refl src.length)
  rw [List.take_length] at total
  have exact_ : r.toNat = (sumBlen D src src.length (Nat.le_refl _) + 7) / 8 := by
    rw [size, length_encodeBytes, total]
  obtain rfl : r' = r := UInt32.toNat_inj.mp (size'.trans exact_.symm)
  have bound := sumBlen_le (D := D) (Nat.le_refl src.length)
  have fits : (encodeBytes T src).length ≤ dst.bytes.length := by omega
  have inside : r'.toNat ≤ (dst.write 0 (encodeBytes T src)).bytes.length := by
    rw [Buffer.length_write (by omega)]
    omega
  refine ⟨r', counted, run, exact_, inside, padLen (encodeBits T src).length, padLen_le _, ?_⟩
  rw [encBits_eq, size, Buffer.take_write_front, ← bytesToBits_eq, bytesToBits_encodeBytes,
    codeToBits_ones]

theorem encode_contract_abc :
    ∃ r, encodeLen committed [97, 98, 99] 3 = .ok r ∧
      encode committed [97, 98, 99] 3 (.ofBytes (List.replicate 13 0)) =
        .ok (r, (Buffer.ofBytes (List.replicate 13 0)).write 0
          (encodeBytes hpack [97, 98, 99])) ∧
      r.toNat = (sumBlen committed [97, 98, 99] 3 (by decide) + 7) / 8 ∧
      ∃ inside : r.toNat ≤ ((Buffer.ofBytes (List.replicate 13 0)).write 0
          (encodeBytes hpack [97, 98, 99])).bytes.length, ∃ k ≤ 7,
        encBits ((Buffer.ofBytes (List.replicate 13 0)).write 0
            (encodeBytes hpack [97, 98, 99])).bytes r.toNat inside =
          encodeBits hpack [97, 98, 99] ++ codeToBits (2 ^ k - 1) k :=
  encode_contract codecChecks_committed (by decide) (by decide) (by decide)

end Encode

end HpackHuffman.Source
