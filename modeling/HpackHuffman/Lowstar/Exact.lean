import HpackHuffman.Lowstar.Invariant
import HpackHuffman.Lowstar.Codec

/-! # Exact arithmetic

The C code computes in fixed widths, and the bounds which keep it from wrapping are not in
it. For every turn of every loop, each operation is compared here with the same operation
on unbounded integers.
-/

namespace HpackHuffman.Lowstar

open Bits

/-- A turn of `sum_loop` which reads the length `l`. -/
structure SumExact (v : SumVars) (l : Byte) : Prop where
  acc : (v.acc + l.toUInt32.toUInt64).toNat = v.acc.toNat + l.toNat
  next : (v.i + 1).toNat = v.i.toNat + 1

/-- What `encode_len` does with the total `t`. -/
structure EncodeLenExact (t : UInt64) : Prop where
  round : (t + 7).toNat = t.toNat + 7
  narrow : ((t + 7) / 8).toUInt32.toNat = (t.toNat + 7) / 8

/-- A turn of the drain loop which stores a byte. -/
structure DrainExact (out nbits1 : UInt32) (bits1 : UInt64) (w : DrainVars) : Prop where
  next : (w.i + 1).toNat = w.i.toNat + 1
  above : (8 * (w.i + 1)).toNat = 8 * (w.i.toNat + 1)
  shift : ((nbits1 - 8 * (w.i + 1)).toNat : ℤ) = nbits1.toNat - 8 * (w.i.toNat + 1)
  width : (nbits1 - 8 * (w.i + 1)).toNat < 64
  shifted : (bits1 >>> (nbits1 - 8 * (w.i + 1)).toUInt64).toNat =
    bits1.toNat / 2 ^ (nbits1.toNat - 8 * (w.i.toNat + 1))
  index : (out + w.i).toNat = out.toNat + w.i.toNat

/-- The accumulator with `code` shifted in. -/
def EncodeVars.bits1 (v : EncodeVars) (code : UInt32) (cb : Byte) : UInt64 :=
  v.bits <<< cb.toUInt32.toUInt64 ||| code.toUInt64

/-- The number of bits it then holds. -/
def EncodeVars.nbits1 (v : EncodeVars) (cb : Byte) : UInt32 := v.nbits + cb.toUInt32

/-- The number of bits left when its whole bytes are drained. -/
def EncodeVars.nbits2 (v : EncodeVars) (cb : Byte) : UInt32 := v.nbits1 cb - v.nbits1 cb / 8 * 8

/-- A turn of `encode_loop` which reads the code `code` of length `cb`, its drain included. -/
structure EncodeExact (v : EncodeVars) (code : UInt32) (cb : Byte) : Prop where
  width : cb.toUInt32.toNat < 64
  shifted : (v.bits <<< cb.toUInt32.toUInt64).toNat = v.bits.toNat * 2 ^ cb.toNat
  bits1 : (v.bits1 code cb).toNat = v.bits.toNat * 2 ^ cb.toNat + code.toNat
  nbits1 : (v.nbits1 cb).toNat = v.nbits.toNat + cb.toNat
  drain : ∀ w, LoopHead (drainBody v.out (v.nbits1 cb) (v.bits1 code cb)) ⟨v.dst, 0⟩ w →
    w.i < v.nbits1 cb / 8 → DrainExact v.out (v.nbits1 cb) (v.bits1 code cb) w
  out2 : (v.out + v.nbits1 cb / 8).toNat = v.out.toNat + (v.nbits.toNat + cb.toNat) / 8
  drained : (v.nbits1 cb / 8 * 8).toNat = (v.nbits.toNat + cb.toNat) / 8 * 8
  nbits2 : ((v.nbits2 cb).toNat : ℤ) =
    (v.nbits.toNat + cb.toNat : ℕ) - ((v.nbits.toNat + cb.toNat) / 8 * 8 : ℕ)
  maskWidth : (v.nbits2 cb).toNat < 64
  one : ((1 : UInt64) <<< (v.nbits2 cb).toUInt64).toNat = 2 ^ (v.nbits2 cb).toNat
  mask : (((1 : UInt64) <<< (v.nbits2 cb).toUInt64 - 1).toNat : ℤ) =
    (2 ^ (v.nbits2 cb).toNat : ℕ) - 1
  bits2 : (v.bits1 code cb &&& ((1 : UInt64) <<< (v.nbits2 cb).toUInt64 - 1)).toNat =
    (v.bits1 code cb).toNat % 2 ^ (v.nbits2 cb).toNat
  next : (v.i1 + 1).toNat = v.i1.toNat + 1

/-- The padding write of `encode`, some bits being left. -/
structure PadExact (res : EncodeEnd) : Prop where
  pad : ((8 - res.nbits).toNat : ℤ) = 8 - res.nbits.toNat
  width : (8 - res.nbits).toNat < 64
  one : ((1 : UInt64) <<< (8 - res.nbits).toUInt64).toNat = 2 ^ (8 - res.nbits).toNat
  ones : (((1 : UInt64) <<< (8 - res.nbits).toUInt64 - 1).toNat : ℤ) =
    (2 ^ (8 - res.nbits).toNat : ℕ) - 1
  shifted : (res.bits <<< (8 - res.nbits).toUInt64).toNat =
    res.bits.toNat * 2 ^ (8 - res.nbits).toNat
  byte : (res.bits <<< (8 - res.nbits).toUInt64 |||
    ((1 : UInt64) <<< (8 - res.nbits).toUInt64 - 1)).toNat < 256
  out : (res.out + 1).toNat = res.out.toNat + 1

/-- A turn of `dfa_loop`. -/
structure DfaExact (srcLen dstCap : UInt32) (v : DfaVars) : Prop where
  total : (8 * srcLen).toNat = 8 * srcLen.toNat
  high : ∀ bx : Byte, (bx.toUInt32 / 16 &&& 0xFF).toNat = bx.toNat / 16
  low : ∀ bx : Byte, (bx.toUInt32 % 16 &&& 0xFF).toNat = bx.toNat % 16
  row : (v.cur * 16).toNat = v.cur.toNat * 16
  cell : ∀ nib < 16, (v.cur * 16 + nib).toNat = v.cur.toNat * 16 + nib.toNat
  sym : ∀ c : UInt32, (c % 256).toUInt8.toNat = c.toNat % 256
  next : (v.g + 4).toNat = v.g.toNat + 4
  written : v.written < dstCap → (v.written + 1).toNat = v.written.toNat + 1

section Encode

variable {src : List Byte} {v : EncodeVars} {code : UInt32} {cb : Byte}

theorem sumExact {v : SumVars} {l : Byte} (inv : SumInv src v) (inside : v.i.toNat < 2 ^ 27)
    (small : (encodeBits hpack src).length < 2 ^ 32) : SumExact v l where
  acc := by
    have total := inv.total
    have long := l.toNat_lt
    rw [UInt64.toNat_add, UInt32.toNat_toUInt64, UInt8.toNat_toUInt32]
    omega
  next := by
    simp only [UInt32.toNat_add, UInt32.reduceToNat]
    omega

theorem encodeLenExact {n : Nat} (small : n < 2 ^ 32) : EncodeLenExact (UInt64.ofNat n) := by
  have total : (UInt64.ofNat n).toNat = n := by
    rw [UInt64.toNat_ofNat']
    omega
  have round : (UInt64.ofNat n + 7).toNat = n + 7 := by
    simp only [UInt64.toNat_add, total, UInt64.reduceToNat]
    omega
  refine ⟨by rw [round, total], ?_⟩
  simp only [UInt64.toNat_toUInt32, UInt64.toNat_div, round, total, UInt64.reduceToNat]
  omega

theorem drainExact {out nbits1 : UInt32} {bits1 : UInt64} {w : DrainVars}
    (width : nbits1.toNat < 64) (small : out.toNat + nbits1.toNat / 8 < 2 ^ 32)
    (more : w.i < nbits1 / 8) : DrainExact out nbits1 bits1 w := by
  have below : w.i.toNat < nbits1.toNat / 8 := by
    have := UInt32.lt_iff_toNat_lt.mp more
    rwa [UInt32.toNat_div] at this
  have next := toNat_succ (UInt32.lt_iff_toNat_lt.mp more)
  have above : (8 * (w.i + 1)).toNat = 8 * (w.i.toNat + 1) := by
    simp only [UInt32.toNat_mul, next, UInt32.reduceToNat]
    omega
  have le : 8 * (w.i + 1) ≤ nbits1 := by
    rw [UInt32.le_iff_toNat_le, above]
    omega
  have shift : (nbits1 - 8 * (w.i + 1)).toNat = nbits1.toNat - 8 * (w.i.toNat + 1) := by
    rw [UInt32.toNat_sub_of_le _ _ le, above]
  have shiftWidth : (nbits1 - 8 * (w.i + 1)).toNat < 64 := by omega
  refine ⟨next, above, by omega, shiftWidth, ?_, ?_⟩
  · rw [toNat_shiftRight bits1 shiftWidth, shift]
  · rw [UInt32.toNat_add]
    omega

/-- A turn of the encoder, from its invariant: the accumulator holds fewer than eight bits
    before the code comes in, and fewer than thirty-eight after. -/
theorem encodeExact (inv : EncodeInv src v) (inside : v.i1.toNat < src.length)
    (short : src.length < 2 ^ 27) (small : (encodeBits hpack src).length < 2 ^ 32)
    (codeValue : code.toNat = codeOf hpack (Sym.ofByte src[v.i1.toNat]))
    (cbValue : cb.toNat = lenOf hpack (Sym.ofByte src[v.i1.toNat])) : EncodeExact v code cb := by
  have few := inv.few
  have long := (hpack_lengths_in_range (Sym.ofByte src[v.i1.toNat])).2
  have total := inv.total
  rw [pending_eq inside, List.length_append, length_window, ← cbValue] at total
  have cb32 : cb.toUInt32.toNat = cb.toNat := UInt8.toNat_toUInt32 cb
  have width : cb.toUInt32.toNat < 64 := by omega
  have fits : v.bits.toNat * 2 ^ cb.toUInt32.toNat < 2 ^ 64 := shift_fits inv.fits (by omega)
  have low : code.toUInt64.toNat < 2 ^ cb.toUInt32.toNat := by
    have codeFits := hpack_valid.code_lt (Sym.ofByte src[v.i1.toNat])
    rwa [UInt32.toNat_toUInt64, codeValue, cb32, cbValue]
  have nbits1 : (v.nbits1 cb).toNat = v.nbits.toNat + cb.toNat := by
    rw [EncodeVars.nbits1, UInt32.toNat_add, cb32]
    omega
  have nbytes : (v.nbits1 cb / 8).toNat = (v.nbits.toNat + cb.toNat) / 8 := by
    rw [UInt32.toNat_div, nbits1]
    rfl
  have nbits2 : (v.nbits2 cb).toNat = (v.nbits.toNat + cb.toNat) % 8 := by
    rw [EncodeVars.nbits2, nbits2_toNat, nbits1]
  have maskWidth : (v.nbits2 cb).toNat < 64 := by omega
  have mask := toNat_mask maskWidth
  have pos := Nat.two_pow_pos (v.nbits2 cb).toNat
  refine ⟨width, ?_, ?_, nbits1, ?_, ?_, ?_, ?_, maskWidth, toNat_one_shiftLeft maskWidth, ?_,
    and_mask mask, ?_⟩
  · rw [toNat_shiftLeft width fits, cb32]
  · rw [EncodeVars.bits1, toNat_shiftLeft_or width fits low, cb32, UInt32.toNat_toUInt64]
  · intro w _ more
    exact drainExact (by omega) (by omega) more
  · rw [UInt32.toNat_add, nbytes]
    omega
  · rw [UInt32.toNat_mul, nbytes]
    simp only [UInt32.reduceToNat]
    omega
  · omega
  · rw [mask]
    omega
  · simp only [UInt32.toNat_add, UInt32.reduceToNat]
    omega

/-- The values compared are those the turn computes. -/
theorem encodeBody_values {len : UInt32} {b : Byte} (more : v.i1 ≠ len)
    (byte : load src v.i1.toNat = .ok b) (readCode : load huffCode b.toUInt32.toNat = .ok code)
    (readLen : load huffLen b.toUInt32.toNat = .ok cb) (exact_ : EncodeExact v code cb) :
    encodeBody src len v = do
      let dst ← drain v.dst v.out (v.nbits1 cb) (v.bits1 code cb)
      return .again ⟨dst, v.i1 + 1, v.out + v.nbits1 cb / 8, v.nbits2 cb,
        v.bits1 code cb &&& ((1 : UInt64) <<< (v.nbits2 cb).toUInt64 - 1)⟩ := by
  have top : shl 1 (v.nbits2 cb) = .ok ((1 : UInt64) <<< (v.nbits2 cb).toUInt64) :=
    shl_eq exact_.maskWidth
  simp only [EncodeVars.nbits2, EncodeVars.nbits1] at top
  simp only [encodeBody, if_neg more, byte, readCode, readLen, shl_eq exact_.width, top,
    EncodeVars.nbits2, EncodeVars.nbits1, EncodeVars.bits1, bind, Except.bind]

/-- The padding write: the bits left and the ones below them make one byte. -/
theorem padExact {res : EncodeEnd} (some_ : 0 < res.nbits.toNat) (few : res.nbits.toNat < 8)
    (fits : res.bits.toNat < 2 ^ res.nbits.toNat) (small : res.out.toNat + 1 < 2 ^ 32) :
    PadExact res := by
  have le : res.nbits ≤ 8 := by
    rw [UInt32.le_iff_toNat_le]
    exact Nat.le_of_lt few
  have pad : (8 - res.nbits).toNat = 8 - res.nbits.toNat := UInt32.toNat_sub_of_le _ _ le
  have width : (8 - res.nbits).toNat < 64 := by omega
  have byte : res.bits.toNat * 2 ^ (8 - res.nbits).toNat + 2 ^ (8 - res.nbits).toNat ≤ 2 ^ 8 := by
    calc res.bits.toNat * 2 ^ (8 - res.nbits).toNat + 2 ^ (8 - res.nbits).toNat
        = (res.bits.toNat + 1) * 2 ^ (8 - res.nbits).toNat := (Nat.succ_mul _ _).symm
      _ ≤ 2 ^ res.nbits.toNat * 2 ^ (8 - res.nbits).toNat := Nat.mul_le_mul_right _ fits
      _ = 2 ^ 8 := by rw [pad, ← Nat.pow_add, Nat.add_sub_cancel' (Nat.le_of_lt few)]
  have pos := Nat.two_pow_pos (8 - res.nbits).toNat
  have mask := toNat_mask width
  have fits64 : res.bits.toNat * 2 ^ (8 - res.nbits).toNat < 2 ^ 64 := by omega
  refine ⟨by omega, width, toNat_one_shiftLeft width, ?_, toNat_shiftLeft width fits64, ?_, ?_⟩
  · rw [mask]
    omega
  · rw [toNat_shiftLeft_or width fits64 (by rw [mask]; omega), mask]
    omega
  · simp only [UInt32.toNat_add, UInt32.reduceToNat]
    omega

end Encode

theorem dfaExact {src : List Byte} {srcLen dstCap : UInt32} {v : DfaVars}
    (small : srcLen.toNat < 2 ^ 27) (length : src.length = srcLen.toNat)
    (inv : DfaInv src dstCap v) : DfaExact srcLen dstCap v := by
  have live := inv.live
  have le := inv.le
  simp only [dfaNStates] at live
  have mask : ∀ n < 16, n &&& 255 = n := by decide
  refine ⟨nbitTotal_toNat small, ?_, ?_, ?_, ?_, ?_, ?_, ?_⟩
  · intro bx
    have := bx.toNat_lt
    simp only [UInt32.toNat_and, UInt32.toNat_div, UInt8.toNat_toUInt32, UInt32.reduceToNat]
    exact mask _ (by omega)
  · intro bx
    simp only [UInt32.toNat_and, UInt32.toNat_mod, UInt8.toNat_toUInt32, UInt32.reduceToNat]
    exact mask _ (by omega)
  · simp only [UInt32.toNat_mul, UInt32.reduceToNat]
    omega
  · intro nib nibble
    have few := UInt32.lt_iff_toNat_lt.mp nibble
    simp only [UInt32.reduceToNat] at few
    simp only [UInt32.toNat_add, UInt32.toNat_mul, UInt32.reduceToNat]
    omega
  · intro c
    simp only [UInt32.toNat_toUInt8, UInt32.toNat_mod, UInt32.reduceToNat]
    omega
  · simp only [UInt32.toNat_add, UInt32.reduceToNat]
    omega
  · intro room
    exact toNat_succ (UInt32.lt_iff_toNat_lt.mp room)

section Every

variable {src : List Byte} {dst out : Buffer} {dstCap : UInt32}

theorem sumHead {v : SumVars} (small : src.length < 2 ^ 27)
    (head : LoopHead (sumBody src (UInt32.ofNat src.length)) ⟨0, 0⟩ v) : SumInv src v := by
  refine head.invariant_of_turn (SumInv.start src) ?_
  intro v inv
  cases sumBody_whole inv small with
  | inl ret => exact .inl ⟨_, ret⟩
  | inr again =>
      obtain ⟨v', again, -, -, inv'⟩ := again
      exact .inr ⟨v', again, inv'⟩

theorem encodeHead {v : EncodeVars} (small : src.length < 2 ^ 27)
    (room : (encodeBytes hpack src).length ≤ dst.bytes.length)
    (head : LoopHead (encodeBody src (UInt32.ofNat src.length)) ⟨dst, 0, 0, 0, 0⟩ v) :
    EncodeInv src v := by
  have size := length_encodeBytes hpack src
  refine head.invariant_of_turn (EncodeInv.start (by omega)) ?_
  intro v inv
  cases encodeBody_whole inv small with
  | inl ret => exact .inl ⟨_, ret.2⟩
  | inr again =>
      obtain ⟨v', again, -, -, inv', -⟩ := again
      exact .inr ⟨v', again, inv'⟩

theorem encodeEnd_exact {res : EncodeEnd} (small : src.length < 2 ^ 27)
    (room : (encodeBytes hpack src).length ≤ dst.bytes.length)
    (run : encodeLoop (src.length + 1) dst src (UInt32.ofNat src.length) 0 0 0 0 = .ok res)
    (some_ : res.nbits > 0) : PadExact res := by
  have length := toNat_ofNat_small small
  have bits := rfcCode_hpack.length_encodeBits_le src
  have size := length_encodeBytes hpack src
  obtain ⟨v, reached, ret⟩ := LoopHead.exists_ret run
  have inv := encodeHead small room reached
  have total := inv.total
  have last : v.i1 = UInt32.ofNat src.length := by
    cases encodeBody_whole inv small with
    | inl here => exact here.1
    | inr again =>
        obtain ⟨v', again, -⟩ := again
        simp [again] at ret
  simp only [encodeBody, if_pos last, pure, Except.pure, Except.ok.injEq, Turn.ret.injEq] at ret
  subst ret
  have pos := UInt32.lt_iff_toNat_lt.mp some_
  exact padExact pos inv.few inv.fits (by simp only; omega)

/-- On the guarded domain no operation of the loops wraps, no shift is undefined and no cast
    loses anything. -/
theorem arithmetic_exact (small : src.length < 2 ^ 27)
    (encRoom : (encodeBytes hpack src).length ≤ dst.bytes.length)
    (decRoom : dstCap.toNat ≤ out.bytes.length) :
    (UInt32.ofNat src.length).toNat = src.length ∧
    (∀ v b l, LoopHead (sumBody src (UInt32.ofNat src.length)) ⟨0, 0⟩ v →
      load src v.i.toNat = .ok b → load huffLen b.toUInt32.toNat = .ok l → SumExact v l) ∧
    (∀ t, sumLoop (src.length + 1) src (UInt32.ofNat src.length) 0 0 = .ok t →
      EncodeLenExact t) ∧
    (∀ v b code cb,
      LoopHead (encodeBody src (UInt32.ofNat src.length)) ⟨dst, 0, 0, 0, 0⟩ v →
      load src v.i1.toNat = .ok b → load huffCode b.toUInt32.toNat = .ok code →
      load huffLen b.toUInt32.toNat = .ok cb → EncodeExact v code cb) ∧
    (∀ res, encodeLoop (src.length + 1) dst src (UInt32.ofNat src.length) 0 0 0 0 = .ok res →
      res.nbits > 0 → PadExact res) ∧
    ∀ v, LoopHead (dfaBody src (UInt32.ofNat src.length) dstCap) ⟨out, 0, 0, 0⟩ v →
      DfaExact (UInt32.ofNat src.length) dstCap v := by
  have length := toNat_ofNat_small small
  have bits := rfcCode_hpack.length_encodeBits_le src
  refine ⟨length, ?_, ?_, ?_, ?_, ?_⟩
  · intro v b l head byte _
    obtain ⟨inside, -⟩ := lt_of_load byte
    exact sumExact (sumHead small head) (by omega) (by omega)
  · intro t run
    have total := sumLoop_whole small
    rw [run, Except.ok.injEq] at total
    rw [total]
    exact encodeLenExact (by omega)
  · intro v b code cb head byte readCode readLen
    obtain ⟨inside, rfl⟩ := lt_of_load byte
    obtain ⟨code', readCode', codeValue⟩ := load_huffCode src[v.i1.toNat]
    obtain ⟨cb', readLen', cbValue⟩ := load_huffLen src[v.i1.toNat]
    obtain rfl : code' = code := Except.ok.inj (readCode'.symm.trans readCode)
    obtain rfl : cb' = cb := Except.ok.inj (readLen'.symm.trans readLen)
    exact encodeExact (encodeHead small encRoom head) inside small (by omega) codeValue cbValue
  · intro res run some_
    exact encodeEnd_exact small encRoom run some_
  · intro v head
    exact dfaExact (by rwa [length]) length.symm (dfaHead small decRoom head).toDfaInv

/-- Encoding the letters `abcd`, which drains two bytes in the loop and leaves six bits, and
    decoding into one byte. -/
theorem arithmetic_exact_abcd :
    (UInt32.ofNat 4).toNat = 4 ∧
    (∀ v (b : Byte) l, LoopHead (sumBody [97, 98, 99, 100] (UInt32.ofNat 4)) ⟨0, 0⟩ v →
      load [97, 98, 99, 100] v.i.toNat = .ok b → load huffLen b.toUInt32.toNat = .ok l →
      SumExact v l) ∧
    (∀ t, sumLoop 5 [97, 98, 99, 100] (UInt32.ofNat 4) 0 0 = .ok t → EncodeLenExact t) ∧
    (∀ v (b : Byte) code cb,
      LoopHead (encodeBody [97, 98, 99, 100] (UInt32.ofNat 4))
        ⟨Buffer.ofBytes [7, 7, 7], 0, 0, 0, 0⟩ v →
      load [97, 98, 99, 100] v.i1.toNat = .ok b → load huffCode b.toUInt32.toNat = .ok code →
      load huffLen b.toUInt32.toNat = .ok cb → EncodeExact v code cb) ∧
    (∀ res, encodeLoop 5 (Buffer.ofBytes [7, 7, 7]) [97, 98, 99, 100] (UInt32.ofNat 4) 0 0 0 0 =
      .ok res → res.nbits > 0 → PadExact res) ∧
    ∀ v, LoopHead (dfaBody [97, 98, 99, 100] (UInt32.ofNat 4) 1) ⟨Buffer.ofBytes [7], 0, 0, 0⟩ v →
      DfaExact (UInt32.ofNat 4) 1 v :=
  @arithmetic_exact [97, 98, 99, 100] (Buffer.ofBytes [7, 7, 7]) (Buffer.ofBytes [7]) 1
    (by decide) (by decide +kernel) (by decide)

end Every

end HpackHuffman.Lowstar
