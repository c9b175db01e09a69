import HpackHuffman.Lowstar.Exact
import HpackHuffman.Reference.EncodeTable
import HpackHuffman.Shim

/-! # The reference encoder

The encoder which the generated one replaced. It counts its bits in an `int` which the drain
loop runs down, and masks the padding in 32 bits. The two run in lockstep: a turn of either
is a turn of the other, in the drain loops as in the loops around them.
-/

namespace HpackHuffman.Reference

open Lowstar

structure RefDrainVars where
  dst : Buffer
  out : Nat
  nbits : Int32

def refDrainBody (bits : UInt64) (v : RefDrainVars) : Exec (Turn RefDrainVars RefDrainVars) := do
  if v.nbits ≥ 8 then
    let nbits := v.nbits - 8
    let byte ← shrInt bits nbits
    let dst ← v.dst.store v.out byte.toUInt8
    return .again ⟨dst, v.out + 1, nbits⟩
  else
    return .ret v

/-- The inner `while` loop. Every turn of it takes eight bits off `nbits`. -/
def refDrain (dst : Buffer) (out : Nat) (nbits : Int32) (bits : UInt64) : Exec RefDrainVars :=
  whileTrue (refDrainBody bits) (nbits.toInt.toNat + 1) ⟨dst, out, nbits⟩

structure RefEncodeVars where
  dst : Buffer
  i : Nat
  out : Nat
  nbits : Int32
  bits : UInt64

def refEncodeBody (src : List Byte) (len : Nat) (v : RefEncodeVars) :
    Exec (Turn RefEncodeVars RefEncodeVars) := do
  if v.i < len then
    let b ← load src v.i
    let sym ← load huffEncodeTable b.toNat
    let codeBits := sym.bits.toUInt32.toInt32
    let shifted ← shlInt v.bits codeBits
    let bits := shifted ||| sym.code.toUInt64
    let nbits := v.nbits + codeBits
    let drained ← refDrain v.dst v.out nbits bits
    let top ← shlInt 1 drained.nbits
    return .again ⟨drained.dst, v.i + 1, drained.out, drained.nbits, bits &&& (top - 1)⟩
  else
    return .ret v

/-- The number of bytes written, and the buffer. -/
def refHpackHuffmanEncode (src : List Byte) (len : Nat) (dst : Buffer) :
    Exec (Nat × Buffer) := do
  let v ← whileTrue (refEncodeBody src len) (len + 1) ⟨dst, 0, 0, 0, 0⟩
  if v.nbits > 0 then
    let shifted ← shlInt v.bits (8 - v.nbits)
    let top ← shlUInt 1 (8 - v.nbits)
    let bits := shifted ||| (top - 1).toUInt64
    let dst ← v.dst.store v.out (bits &&& 0xFF).toUInt8
    return (v.out + 1, dst)
  else
    return (v.out, v.dst)

structure RefSumVars where
  i : Nat
  totalBits : UInt64

def refSumBody (src : List Byte) (len : Nat) (v : RefSumVars) :
    Exec (Turn RefSumVars UInt64) := do
  if v.i < len then
    let b ← load src v.i
    let sym ← load huffEncodeTable b.toNat
    return .again ⟨v.i + 1, v.totalBits + sym.bits.toUInt64⟩
  else
    return .ret v.totalBits

/-- The sum is a `size_t` of 64 bits. -/
def refHpackHuffmanEncodeLen (src : List Byte) (len : Nat) : Exec Nat := do
  let totalBits ← whileTrue (refSumBody src len) (len + 1) ⟨0, 0⟩
  return ((totalBits + 7) / 8).toNat

theorem huffEncodeTable_codes : (huffEncodeTable.take 256).map HuffSym.code = huffCode := by
  decide +kernel

theorem huffEncodeTable_bits : (huffEncodeTable.take 256).map HuffSym.bits = huffLen := by
  decide +kernel

/-- The reference keeps in one entry what the generated tables keep at one index. -/
theorem load_huffEncodeTable {b : Byte} {code : UInt32} {cb : UInt8}
    (readCode : load huffCode b.toUInt32.toNat = .ok code)
    (readLen : load huffLen b.toUInt32.toNat = .ok cb) :
    load huffEncodeTable b.toNat = .ok ⟨code, cb⟩ := by
  obtain ⟨inside, rfl⟩ := lt_of_load readCode
  obtain ⟨inside', rfl⟩ := lt_of_load readLen
  simp only [UInt8.toNat_toUInt32] at inside inside' ⊢
  simp only [← huffEncodeTable_codes, ← huffEncodeTable_bits, List.getElem_map, List.getElem_take]
  exact load_of_lt _

section Drain

variable {out nbits1 : UInt32} {bits1 : UInt64} {w w' : DrainVars}

/-- The reference's drain loop where the generated one has stored `w.i` bytes. -/
def refDrainVars (out nbits1 : UInt32) (w : DrainVars) : RefDrainVars :=
  ⟨w.dst, (out + w.i).toNat, (nbits1 - 8 * w.i).toInt32⟩

/-- The same where the loops end, `dst` being the buffer left. -/
def refDrainEnd (out nbits1 : UInt32) (dst : Buffer) : RefDrainVars :=
  ⟨dst, (out + nbits1 / 8).toNat, (nbits1 - nbits1 / 8 * 8).toInt32⟩

/-- The bits left when `w.i` bytes are stored. -/
theorem toNat_left (le : w.i.toNat ≤ nbits1.toNat / 8) :
    (nbits1 - 8 * w.i).toNat = nbits1.toNat - 8 * w.i.toNat := by
  have lt := nbits1.toNat_lt
  have stored : (8 * w.i).toNat = 8 * w.i.toNat := by
    simp only [UInt32.toNat_mul, UInt32.reduceToNat]
    omega
  have below : 8 * w.i ≤ nbits1 := by
    rw [UInt32.le_iff_toNat_le, stored]
    omega
  rw [UInt32.toNat_sub_of_le _ _ below, stored]

theorem lt_nbytes : w.i < nbits1 / 8 ↔ w.i.toNat < nbits1.toNat / 8 := by
  rw [UInt32.lt_iff_toNat_lt, UInt32.toNat_div]
  rfl

/-- Both loops go on while eight bits are left. -/
theorem eight_le_left (width : nbits1.toNat < 64) (le : w.i.toNat ≤ nbits1.toNat / 8) :
    8 ≤ (nbits1 - 8 * w.i).toInt32 ↔ w.i < nbits1 / 8 := by
  have left := toNat_left le
  have eight : (8 : Int32).toInt = (8 : Nat) := rfl
  rw [ofNat_le_toInt32 (by omega) eight, left, lt_nbytes]
  omega

theorem refDrainBody_again (width : nbits1.toNat < 64)
    (small : out.toNat + nbits1.toNat / 8 < 2 ^ 32) (le : w.i.toNat ≤ nbits1.toNat / 8)
    (turn : drainBody out nbits1 bits1 w = .ok (.again w')) :
    refDrainBody bits1 (refDrainVars out nbits1 w) = .ok (.again (refDrainVars out nbits1 w')) ∧
      w'.i.toNat ≤ nbits1.toNat / 8 := by
  by_cases more : w.i < nbits1 / 8
  · have exact_ : DrainExact out nbits1 bits1 w := drainExact width small more
    have below := lt_nbytes.mp more
    have next := exact_.next
    have shift : (nbits1 - 8 * w.i).toInt32 - 8 = (nbits1 - 8 * (w.i + 1)).toInt32 := by
      have same : nbits1 - 8 * (w.i + 1) = nbits1 - 8 * w.i - 8 := by grind
      rw [same]
      rfl
    have byte : shr bits1 (nbits1 - 8 * (w.i + 1)) =
        .ok (bits1 >>> (nbits1 - 8 * (w.i + 1)).toUInt64) :=
      if_pos (UInt32.lt_iff_toNat_lt.mpr exact_.width)
    have byte' := shrInt_toInt32 bits1 (Nat.lt_trans exact_.width (by decide))
    have index : (out + (w.i + 1)).toNat = (out + w.i).toNat + 1 := by
      rw [exact_.index, UInt32.toNat_add, next]
      omega
    rw [drainBody, if_pos more] at turn
    obtain ⟨top, shifted, turn⟩ := exists_ok_of_bind turn
    obtain rfl := Except.ok.inj (byte.symm.trans shifted)
    obtain ⟨dst, stored, turn⟩ := exists_ok_of_bind turn
    obtain rfl := Turn.again.inj (Except.ok.inj turn)
    refine ⟨?_, by simp only [next]; omega⟩
    simp only [refDrainBody, refDrainVars, ge_iff_le, (eight_le_left width le).mpr more,
      if_true, shift, byte', byte, stored, index, bind, Except.bind]
    rfl
  · simp [drainBody, more, pure, Except.pure] at turn

theorem refDrainBody_ret {dst : Buffer} (width : nbits1.toNat < 64)
    (le : w.i.toNat ≤ nbits1.toNat / 8)
    (turn : drainBody out nbits1 bits1 w = .ok (.ret dst)) :
    refDrainBody bits1 (refDrainVars out nbits1 w) = .ok (.ret (refDrainEnd out nbits1 dst)) := by
  by_cases more : w.i < nbits1 / 8
  · rw [drainBody, if_pos more] at turn
    obtain ⟨top, -, turn⟩ := exists_ok_of_bind turn
    obtain ⟨dst, -, turn⟩ := exists_ok_of_bind turn
    cases turn
  · have last : w.i = nbits1 / 8 := by
      apply UInt32.toNat_inj.mp
      have stop := mt lt_nbytes.mpr more
      rw [UInt32.toNat_div]
      exact Nat.le_antisymm le (Nat.le_of_not_lt stop)
    simp only [drainBody, if_neg more, pure, Except.pure, Except.ok.injEq, Turn.ret.injEq] at turn
    subst turn
    have stop : ¬ (refDrainVars out nbits1 w).nbits ≥ 8 := mt (eight_le_left width le).mp more
    rw [refDrainBody, if_neg stop, refDrainVars, last, UInt32.mul_comm 8]
    rfl

/-- The two drain loops store the same bytes, and leave the same count of bits. -/
theorem refDrain_of_drain {dst dst' : Buffer} (width : nbits1.toNat < 64)
    (small : out.toNat + nbits1.toNat / 8 < 2 ^ 32)
    (stored : drain dst out nbits1 bits1 = .ok dst') :
    refDrain dst out.toNat nbits1.toInt32 bits1 = .ok (refDrainEnd out nbits1 dst') := by
  have start : refDrainVars out nbits1 ⟨dst, 0⟩ = ⟨dst, out.toNat, nbits1.toInt32⟩ := by
    simp [refDrainVars]
  have fuel : (nbits1 / 8).toNat + 1 ≤ nbits1.toInt32.toInt.toNat + 1 := by
    rw [toInt_toInt32 (Nat.lt_trans width (by decide)), Int.toNat_natCast, UInt32.toNat_div]
    exact Nat.succ_le_succ (Nat.div_le_self _ _)
  have run : ∃ p, refDrain dst out.toNat nbits1.toInt32 bits1 = .ok p ∧
      p = refDrainEnd out nbits1 dst' := by
    refine whileTrue.simulates
      (fun w t => w.i.toNat ≤ nbits1.toNat / 8 ∧ t = refDrainVars out nbits1 w)
      (fun r p => p = refDrainEnd out nbits1 r) ?_ ?_ ⟨Nat.zero_le _, start.symm⟩ stored fuel
    · rintro w t w' ⟨le, rfl⟩ turn
      obtain ⟨turn', le'⟩ := refDrainBody_again width small le turn
      exact ⟨_, turn', le', rfl⟩
    · rintro w t r ⟨le, rfl⟩ turn
      exact ⟨_, refDrainBody_ret width le turn, rfl⟩
  obtain ⟨p, run, rfl⟩ := run
  exact run

end Drain

section Encode

variable {src : List Byte} {v v' : EncodeVars}

/-- The reference's variables beside the generated encoder's. -/
def refEncodeVars (v : EncodeVars) : RefEncodeVars :=
  ⟨v.dst, v.i1.toNat, v.out.toNat, v.nbits.toInt32, v.bits⟩

/-- The same where the loops end. -/
def refEncodeEnd (src : List Byte) (res : EncodeEnd) : RefEncodeVars :=
  ⟨res.dst, src.length, res.out.toNat, res.nbits.toInt32, res.bits⟩

/-- A turn of the generated encoder, in the reference's terms. -/
theorem refEncodeBody_byte {code : UInt32} {cb : Byte} {dst : Buffer}
    (inside : v.i1.toNat < src.length)
    (readCode : load huffCode src[v.i1.toNat].toUInt32.toNat = .ok code)
    (readLen : load huffLen src[v.i1.toNat].toUInt32.toNat = .ok cb)
    (exact_ : EncodeExact v code cb) (width : (v.nbits1 cb).toNat < 64)
    (stored : drain v.dst v.out (v.nbits1 cb) (v.bits1 code cb) = .ok dst) :
    refEncodeBody src src.length (refEncodeVars v) = .ok (.again (refEncodeVars
      ⟨dst, v.i1 + 1, v.out + v.nbits1 cb / 8, v.nbits2 cb,
        v.bits1 code cb &&& ((1 : UInt64) <<< (v.nbits2 cb).toUInt64 - 1)⟩)) := by
  have small : v.out.toNat + (v.nbits1 cb).toNat / 8 < 2 ^ 32 := by
    rw [exact_.nbits1, ← exact_.out2]
    exact UInt32.toNat_lt _
  have shift : shlInt v.bits cb.toUInt32.toInt32 = .ok (v.bits <<< cb.toUInt32.toUInt64) := by
    rw [shlInt_toInt32 v.bits (Nat.lt_trans exact_.width (by decide)), shl_eq exact_.width]
  have drained := refDrain_of_drain width small stored
  have top : shlInt 1 (v.nbits2 cb).toInt32 = .ok ((1 : UInt64) <<< (v.nbits2 cb).toUInt64) := by
    rw [shlInt_toInt32 1 (Nat.lt_trans exact_.maskWidth (by decide)), shl_eq exact_.maskWidth]
  simp only [refEncodeBody, refEncodeVars, if_pos inside, load_of_lt inside,
    load_huffEncodeTable readCode readLen, shift, bind, Except.bind, exact_.next]
  change (refDrain v.dst v.out.toNat (v.nbits1 cb).toInt32 (v.bits1 code cb)).bind _ = _
  rw [drained]
  change (shlInt 1 (v.nbits2 cb).toInt32).bind _ = _
  rw [top]
  rfl

theorem refEncodeBody_again (inv : EncodeInv src v) (small : src.length < 2 ^ 27)
    (turn : encodeBody src (UInt32.ofNat src.length) v = .ok (.again v')) :
    refEncodeBody src src.length (refEncodeVars v) = .ok (.again (refEncodeVars v')) ∧
      EncodeInv src v' := by
  have bits := rfcCode_hpack.length_encodeBits_le src
  cases encodeBody_whole inv small with
  | inl ret => simp [turn] at ret
  | inr again =>
      obtain ⟨v₂, again, next, inside, inv', -⟩ := again
      obtain rfl : v₂ = v' := by simpa [turn] using again.symm
      refine ⟨?_, inv'⟩
      obtain ⟨code, readCode, codeValue⟩ := load_huffCode src[v.i1.toNat]
      obtain ⟨cb, readLen, lenValue⟩ := load_huffLen src[v.i1.toNat]
      have exact_ := encodeExact inv inside small (by omega) codeValue lenValue
      have more := ne_ofNat_length small inside
      have width : (v.nbits1 cb).toNat < 64 := by
        have few := inv.few
        have long := (hpack_lengths_in_range (Sym.ofByte src[v.i1.toNat])).2
        rw [exact_.nbits1]
        omega
      rw [encodeBody_values more (load_of_lt inside) readCode readLen exact_] at turn
      obtain ⟨dst, stored, turn⟩ := exists_ok_of_bind turn
      obtain rfl := Turn.again.inj (Except.ok.inj turn)
      exact refEncodeBody_byte inside readCode readLen exact_ width stored

theorem refEncodeBody_ret {res : EncodeEnd} (inv : EncodeInv src v) (small : src.length < 2 ^ 27)
    (turn : encodeBody src (UInt32.ofNat src.length) v = .ok (.ret res)) :
    refEncodeBody src src.length (refEncodeVars v) = .ok (.ret (refEncodeEnd src res)) := by
  have length := toNat_ofNat_small small
  cases encodeBody_whole inv small with
  | inr again =>
      obtain ⟨v', again, -⟩ := again
      simp [turn] at again
  | inl ret =>
      have last := ret.1
      have stop : ¬ (refEncodeVars v).i < src.length := by
        simp only [refEncodeVars, last, length]
        exact Nat.lt_irrefl _
      simp only [encodeBody, if_pos last, pure, Except.pure, Except.ok.injEq,
        Turn.ret.injEq] at turn
      subst turn
      rw [refEncodeBody, if_neg stop, refEncodeVars, last, length]
      rfl

/-- The two encoders reach the end of the input with the same variables. -/
theorem refEncodeLoop {dst : Buffer} {res : EncodeEnd} (small : src.length < 2 ^ 27)
    (room : (encodeBytes hpack src).length ≤ dst.bytes.length)
    (run : encodeLoop (src.length + 1) dst src (UInt32.ofNat src.length) 0 0 0 0 = .ok res) :
    whileTrue (refEncodeBody src src.length) (src.length + 1) ⟨dst, 0, 0, 0, 0⟩ =
      .ok (refEncodeEnd src res) := by
  have size := length_encodeBytes hpack src
  have start : EncodeInv src ⟨dst, 0, 0, 0, 0⟩ := EncodeInv.start (by omega)
  obtain ⟨p, same, rfl⟩ : ∃ p, whileTrue (refEncodeBody src src.length) (src.length + 1)
      ⟨dst, 0, 0, 0, 0⟩ = .ok p ∧ p = refEncodeEnd src res := by
    refine whileTrue.simulates (fun v t => EncodeInv src v ∧ t = refEncodeVars v)
      (fun r p => p = refEncodeEnd src r) ?_ ?_ ⟨start, rfl⟩ run (Nat.le_refl _)
    · rintro v t v' ⟨inv, rfl⟩ turn
      obtain ⟨turn', inv'⟩ := refEncodeBody_again inv small turn
      exact ⟨_, turn', inv', rfl⟩
    · rintro v t r ⟨inv, rfl⟩ turn
      exact ⟨_, refEncodeBody_ret inv small turn, rfl⟩
  exact same

/-- The bits left move up as they do in the generated encoder, and the ones below them, made in
    32 bits, are the same. -/
theorem refPad {res : EncodeEnd} (pad : PadExact res) :
    shlInt res.bits (8 - res.nbits.toInt32) = .ok (res.bits <<< (8 - res.nbits).toUInt64) ∧
      ∃ top, shlUInt 1 (8 - res.nbits.toInt32) = .ok top ∧
        (top - 1).toUInt64 = (1 : UInt64) <<< (8 - res.nbits).toUInt64 - 1 := by
  have value := pad.pad
  have few : (8 - res.nbits).toNat < 32 := by omega
  have same : 8 - res.nbits.toInt32 = (8 - res.nbits).toInt32 := rfl
  refine ⟨?_, 1 <<< (8 - res.nbits), ?_, toUInt64_mask few⟩
  · rw [same, shlInt_toInt32 _ (Nat.lt_trans few (by decide)), shl_eq pad.width]
  · rw [same, shlUInt_toInt32 1 few]

theorem refEncode_of_encode {dst dst' : Buffer} {n : UInt32} (small : src.length < 2 ^ 27)
    (room : (encodeBytes hpack src).length ≤ dst.bytes.length)
    (run : Lowstar.encode src (UInt32.ofNat src.length) dst = .ok (n, dst')) :
    refHpackHuffmanEncode src src.length dst = .ok (n.toNat, dst') := by
  rw [Lowstar.encode, toNat_ofNat_small small] at run
  obtain ⟨res, loop, run⟩ := exists_ok_of_bind run
  rw [refHpackHuffmanEncode, refEncodeLoop small room loop]
  simp only [bind, Except.bind]
  by_cases some_ : res.nbits > 0
  · have pad := encodeEnd_exact small room loop some_
    have value := pad.pad
    have some' : (refEncodeEnd src res).nbits > 0 :=
      (ofNat_lt_toInt32 (by omega) rfl).mpr (UInt32.lt_iff_toNat_lt.mp some_)
    obtain ⟨shift, top, one, mask⟩ := refPad pad
    simp only [if_pos some_, shl_eq pad.width] at run
    obtain ⟨top', one', run⟩ := exists_ok_of_bind run
    obtain rfl := Except.ok.inj one'
    obtain ⟨bits, shifted, run⟩ := exists_ok_of_bind run
    obtain rfl := Except.ok.inj shifted
    obtain ⟨dst₁, stored, run⟩ := exists_ok_of_bind run
    obtain ⟨rfl, rfl⟩ := Prod.mk.inj (Except.ok.inj run)
    rw [if_pos some']
    simp only [refEncodeEnd, shift, one, mask, toUInt8_and, stored, pad.out]
    rfl
  · have none : res.nbits = 0 := by
      have zero := mt UInt32.lt_iff_toNat_lt.mpr some_
      exact UInt32.toNat_inj.mp (Nat.eq_zero_of_not_pos zero)
    have none' : ¬ (refEncodeEnd src res).nbits > 0 := by
      simp only [refEncodeEnd, none]
      decide
    simp only [if_neg some_] at run
    obtain ⟨rfl, rfl⟩ := Prod.mk.inj (Except.ok.inj run)
    rw [if_neg none']
    rfl

end Encode

section Sum

variable {src : List Byte} {v v' : SumVars}

def refSumVars (v : SumVars) : RefSumVars := ⟨v.i.toNat, v.acc⟩

/-- The two length loops run in lockstep. -/
theorem refSumBody_again (inv : SumInv src v) (small : src.length < 2 ^ 27)
    (turn : sumBody src (UInt32.ofNat src.length) v = .ok (.again v')) :
    refSumBody src src.length (refSumVars v) = .ok (.again (refSumVars v')) ∧ SumInv src v' := by
  cases sumBody_whole inv small with
  | inl ret => simp [turn] at ret
  | inr again =>
      obtain ⟨v₂, again, next, inside, inv'⟩ := again
      obtain rfl : v₂ = v' := by simpa [turn] using again.symm
      refine ⟨?_, inv'⟩
      obtain ⟨code, readCode, -⟩ := load_huffCode src[v.i.toNat]
      obtain ⟨cb, readLen, -⟩ := load_huffLen src[v.i.toNat]
      have more := ne_ofNat_length small inside
      simp only [sumBody, if_neg more, load_of_lt inside, readLen, bind, Except.bind, pure,
        Except.pure, Except.ok.injEq, Turn.again.injEq] at turn
      subst turn
      simp only [refSumBody, refSumVars, if_pos inside, load_of_lt inside,
        load_huffEncodeTable readCode readLen, bind, Except.bind, next]
      rfl

theorem refSumBody_ret {t : UInt64} (small : src.length < 2 ^ 27)
    (turn : sumBody src (UInt32.ofNat src.length) v = .ok (.ret t)) :
    refSumBody src src.length (refSumVars v) = .ok (.ret t) := by
  have length := toNat_ofNat_small small
  by_cases last : v.i = UInt32.ofNat src.length
  · have stop : ¬ (refSumVars v).i < src.length := by
      simp only [refSumVars, last, length]
      exact Nat.lt_irrefl _
    simp only [sumBody, if_pos last, pure, Except.pure, Except.ok.injEq, Turn.ret.injEq] at turn
    rw [refSumBody, if_neg stop, ← turn]
    rfl
  · rw [sumBody, if_neg last] at turn
    obtain ⟨b, -, turn⟩ := exists_ok_of_bind turn
    obtain ⟨l, -, turn⟩ := exists_ok_of_bind turn
    cases turn

/-- The reference returns the number the generated function returns. -/
theorem refEncodeLen_of_encodeLen {n : UInt32} (small : src.length < 2 ^ 27)
    (run : Lowstar.encodeLen src (UInt32.ofNat src.length) = .ok n) :
    refHpackHuffmanEncodeLen src src.length = .ok n.toNat := by
  have bits := rfcCode_hpack.length_encodeBits_le src
  rw [Lowstar.encodeLen, toNat_ofNat_small small] at run
  have loop := sumLoop_whole small
  obtain ⟨t, same, rfl⟩ : ∃ t, whileTrue (refSumBody src src.length) (src.length + 1) ⟨0, 0⟩ =
      .ok t ∧ t = UInt64.ofNat (encodeBits hpack src).length := by
    refine whileTrue.simulates (fun v w => SumInv src v ∧ w = refSumVars v)
      (fun r t => t = r) ?_ ?_ ⟨SumInv.start src, rfl⟩ loop (Nat.le_refl _)
    · rintro v w v' ⟨inv, rfl⟩ turn
      obtain ⟨turn', inv'⟩ := refSumBody_again inv small turn
      exact ⟨_, turn', inv', rfl⟩
    · rintro v w r ⟨-, rfl⟩ turn
      exact ⟨r, refSumBody_ret small turn, rfl⟩
  have exact_ := encodeLenExact (by omega : (encodeBits hpack src).length < 2 ^ 32)
  simp only [loop, bind, Except.bind, pure, Except.pure, Except.ok.injEq] at run
  rw [refHpackHuffmanEncodeLen, same, ← run, exact_.narrow, ← exact_.round]
  exact congrArg Except.ok (UInt64.toNat_div _ 8)

end Sum

/-- The generated encoder and the hand-written one it replaced return the same length and write
    the same bytes, and their length functions return the same number. -/
theorem encoders_agree {src : List Byte} {dst₁ dst₂ : Buffer} (small : src.length < 2 ^ 27)
    (room₁ : (encodeBytes hpack src).length ≤ dst₁.bytes.length)
    (room₂ : (encodeBytes hpack src).length ≤ dst₂.bytes.length) :
    (∃ bytes, hpackHuffmanEncode src src.length dst₁ = .ok (bytes.length, dst₁.write 0 bytes) ∧
      refHpackHuffmanEncode src src.length dst₂ = .ok (bytes.length, dst₂.write 0 bytes)) ∧
    ∃ n, hpackHuffmanEncodeLen src src.length = .ok n ∧
      refHpackHuffmanEncodeLen src src.length = .ok n := by
  have count := toNat_ofNat_encoded small
  have run := refEncode_of_encode small room₂ (encode_whole small room₂)
  have lengths := refEncodeLen_of_encodeLen small (encodeLen_whole small)
  rw [count] at run lengths
  exact ⟨⟨encodeBytes hpack src, hpackHuffmanEncode_eq small room₁, run⟩,
    _, hpackHuffmanEncodeLen_eq small, lengths⟩

/-- The letter `a`, into buffers of different sizes and content. -/
theorem encoders_agree_a :
    (∃ bytes, hpackHuffmanEncode [97] 1 (Buffer.ofBytes [7]) =
        .ok (bytes.length, (Buffer.ofBytes [7]).write 0 bytes) ∧
      refHpackHuffmanEncode [97] 1 (Buffer.ofBytes [1, 2]) =
        .ok (bytes.length, (Buffer.ofBytes [1, 2]).write 0 bytes)) ∧
    ∃ n, hpackHuffmanEncodeLen [97] 1 = .ok n ∧ refHpackHuffmanEncodeLen [97] 1 = .ok n :=
  encoders_agree (by decide) (by decide +kernel) (by decide +kernel)

end HpackHuffman.Reference
