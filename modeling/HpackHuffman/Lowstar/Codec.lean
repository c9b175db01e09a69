import HpackHuffman.Util.Loop
import HpackHuffman.Spec.Encode
import HpackHuffman.Refine.Encode

/-! # The encoder

The encoder shifts codes into a 64-bit accumulator and drains whole bytes from its top. At
every loop head, the accumulator followed by the code stream of the bytes not read yet is
what is still to be packed.
-/

namespace HpackHuffman.Lowstar

open Bits

structure SumVars where
  i : UInt32
  acc : UInt64

def sumBody (src : List Byte) (len : UInt32) (v : SumVars) : Exec (Turn SumVars UInt64) := do
  if v.i = len then
    return .ret v.acc
  else
    let b ← load src v.i.toNat
    let l ← load huffLen b.toUInt32.toNat
    return .again ⟨v.i + 1, v.acc + l.toUInt32.toUInt64⟩

def sumLoop (fuel : Nat) (src : List Byte) (len i : UInt32) (acc : UInt64) : Exec UInt64 :=
  whileTrue (sumBody src len) fuel ⟨i, acc⟩

def encodeLen (src : List Byte) (len : UInt32) : Exec UInt32 := do
  let t ← sumLoop (len.toNat + 1) src len 0 0
  let bytes := (t + 7) / 8
  return bytes.toUInt32

structure DrainVars where
  dst : Buffer
  i : UInt32

def drainBody (out nbits1 : UInt32) (bits1 : UInt64) (v : DrainVars) :
    Exec (Turn DrainVars Buffer) := do
  let nbytes := nbits1 / 8
  if v.i < nbytes then
    let shift := nbits1 - 8 * (v.i + 1)
    let byte ← shr bits1 shift
    let dst ← v.dst.store (out + v.i).toNat byte.toUInt8
    return .again ⟨dst, v.i + 1⟩
  else
    return .ret v.dst

/-- The `for` loop which stores the whole bytes of the accumulator. -/
def drain (dst : Buffer) (out nbits1 : UInt32) (bits1 : UInt64) : Exec Buffer :=
  whileTrue (drainBody out nbits1 bits1) ((nbits1 / 8).toNat + 1) ⟨dst, 0⟩

structure EncodeVars where
  dst : Buffer
  i1 : UInt32
  out : UInt32
  nbits : UInt32
  bits : UInt64

/-- What the encoder loop returns, and the buffer it leaves. -/
structure EncodeEnd where
  dst : Buffer
  out : UInt32
  nbits : UInt32
  bits : UInt64

def encodeBody (src : List Byte) (len : UInt32) (v : EncodeVars) :
    Exec (Turn EncodeVars EncodeEnd) := do
  if v.i1 = len then
    return .ret ⟨v.dst, v.out, v.nbits, v.bits⟩
  else
    let b ← load src v.i1.toNat
    let code ← load huffCode b.toUInt32.toNat
    let cb ← load huffLen b.toUInt32.toNat
    let cb32 := cb.toUInt32
    let shifted ← shl v.bits cb32
    let bits1 := shifted ||| code.toUInt64
    let nbits1 := v.nbits + cb32
    let nbytes := nbits1 / 8
    let dst ← drain v.dst v.out nbits1 bits1
    let out2 := v.out + nbytes
    let nbits2 := nbits1 - nbytes * 8
    let top ← shl 1 nbits2
    let mask := top - 1
    let bits2 := bits1 &&& mask
    return .again ⟨dst, v.i1 + 1, out2, nbits2, bits2⟩

def encodeLoop (fuel : Nat) (dst : Buffer) (src : List Byte) (len i out nbits : UInt32)
    (bits : UInt64) : Exec EncodeEnd :=
  whileTrue (encodeBody src len) fuel ⟨dst, i, out, nbits, bits⟩

/-- The number of bytes written, and the buffer. -/
def encode (src : List Byte) (len : UInt32) (dst : Buffer) : Exec (UInt32 × Buffer) := do
  let res ← encodeLoop (len.toNat + 1) dst src len 0 0 0 0
  if res.nbits > 0 then
    let pad := 8 - res.nbits
    let top ← shl 1 pad
    let ones := top - 1
    let shifted ← shl res.bits pad
    let byte := (shifted ||| ones).toUInt8
    let dst ← res.dst.store res.out.toNat byte
    return (res.out + 1, dst)
  else
    return (res.out, res.dst)

theorem load_huffLen (b : Byte) :
    ∃ cb, load huffLen b.toUInt32.toNat = .ok cb ∧ cb.toNat = lenOf hpack (Sym.ofByte b) := by
  obtain ⟨cb, found, value⟩ := huffLen_correct b
  exact ⟨cb, by rw [UInt8.toNat_toUInt32, load, found], value⟩

theorem load_huffCode (b : Byte) :
    ∃ code, load huffCode b.toUInt32.toNat = .ok code ∧
      code.toNat = codeOf hpack (Sym.ofByte b) := by
  obtain ⟨code, found, value⟩ := huffCode_correct b
  exact ⟨code, by rw [UInt8.toNat_toUInt32, load, found], value⟩

/-- Reading the byte at `i` moves it from the rest of the input to the front. -/
theorem encodeBits_drop {src : List Byte} {i : Nat} (inside : i < src.length) :
    encodeBits hpack (src.drop i) =
      codeBitsOf hpack (Sym.ofByte src[i]) ++ encodeBits hpack (src.drop (i + 1)) := by
  rw [List.drop_eq_getElem_cons inside, encodeBits]

section Drain

variable {out nbits1 : UInt32} {bits1 : UInt64} {v : DrainVars}

/-- What is still to be stored: the whole bytes of the bits below those stored already. -/
def drainAnswer (out nbits1 : UInt32) (bits1 : UInt64) (v : DrainVars) : Buffer :=
  v.dst.write (out.toNat + v.i.toNat)
    (packBytes (codeToBits bits1.toNat (nbits1.toNat - 8 * v.i.toNat)))

theorem drainBody_end (last : v.i.toNat = nbits1.toNat / 8) :
    drainBody out nbits1 bits1 v = .ok (.ret (drainAnswer out nbits1 bits1 v)) := by
  have stop : ¬ v.i < nbits1 / 8 := by
    rw [UInt32.lt_iff_toNat_lt, UInt32.toNat_div, last]
    exact Nat.lt_irrefl _
  have few : (codeToBits bits1.toNat (nbits1.toNat - 8 * v.i.toNat)).length < 8 := by
    rw [length_codeToBits]
    omega
  simp only [drainBody, if_neg stop, drainAnswer, packBytes_short few, Buffer.write_nil]
  rfl

theorem drainBody_byte (more : v.i.toNat < nbits1.toNat / 8) (width : nbits1.toNat < 64)
    (small : out.toNat + nbits1.toNat / 8 < 2 ^ 32)
    (room : out.toNat + nbits1.toNat / 8 ≤ v.dst.bytes.length) :
    ∃ v', drainBody out nbits1 bits1 v = .ok (.again v') ∧ v'.i.toNat = v.i.toNat + 1 ∧
      v'.dst.bytes.length = v.dst.bytes.length ∧
      drainAnswer out nbits1 bits1 v' = drainAnswer out nbits1 bits1 v := by
  have go : v.i < nbits1 / 8 := by
    rw [UInt32.lt_iff_toNat_lt, UInt32.toNat_div]
    exact more
  have next := toNat_succ (UInt32.lt_iff_toNat_lt.mp go)
  have index : (out + v.i).toNat = out.toNat + v.i.toNat := by
    simp only [UInt32.toNat_add]
    omega
  have above : (8 * (v.i + 1)).toNat = 8 * (v.i.toNat + 1) := by
    simp only [UInt32.toNat_mul, next, UInt32.reduceToNat]
    omega
  have shift : (nbits1 - 8 * (v.i + 1)).toNat = nbits1.toNat - 8 * (v.i.toNat + 1) := by
    have le : 8 * (v.i + 1) ≤ nbits1 := by
      rw [UInt32.le_iff_toNat_le, above]
      omega
    rw [UInt32.toNat_sub_of_le _ _ le, above]
  obtain ⟨byte, shifted, value⟩ := shr_spec bits1
    (by rw [shift]; omega : (nbits1 - 8 * (v.i + 1)).toNat < 64)
  have inside : out.toNat + v.i.toNat < v.dst.bytes.length := by omega
  have rest : nbits1.toNat - 8 * v.i.toNat = 8 + (nbits1.toNat - 8 * (v.i.toNat + 1)) := by omega
  have stored : byte.toUInt8 =
      UInt8.ofNat (bits1.toNat / 2 ^ (nbits1.toNat - 8 * (v.i.toNat + 1))) := by
    rw [← shift, ← value]
    rfl
  refine ⟨⟨v.dst.write (out.toNat + v.i.toNat) [byte.toUInt8], v.i + 1⟩, ?_, next, ?_, ?_⟩
  · simp only [drainBody, if_pos go, shifted, index, Buffer.store_eq_write inside, bind,
      Except.bind]
    rfl
  · exact Buffer.length_write inside
  · simp only [drainAnswer, next, rest, packBytes_code, ← stored]
    exact v.dst.write_write inside

end Drain

/-- Draining stores the whole bytes of the accumulator. -/
theorem drain_eq (dst : Buffer) (out : UInt32) (bits1 : UInt64) {nbits1 : UInt32} {n : Nat}
    (count : nbits1.toNat = n) (width : n < 64) (small : out.toNat + n / 8 < 2 ^ 32)
    (room : out.toNat + n / 8 ≤ dst.bytes.length) :
    drain dst out nbits1 bits1 =
      .ok (dst.write out.toNat (packBytes (codeToBits bits1.toNat n))) := by
  subst count
  have nbytes : (nbits1 / 8).toNat = nbits1.toNat / 8 := UInt32.toNat_div nbits1 8
  refine whileTrue.returns_answer
    (fun v : DrainVars =>
      v.i.toNat ≤ nbits1.toNat / 8 ∧ v.dst.bytes.length = dst.bytes.length)
    (drainAnswer out nbits1 bits1) (fun v => nbits1.toNat / 8 - v.i.toNat) ?_
    ⟨Nat.zero_le _, rfl⟩ ?_
  · rintro v ⟨le, length⟩
    cases Nat.eq_or_lt_of_le le with
    | inl last => exact .inl (drainBody_end last)
    | inr more =>
        obtain ⟨v', again, next, kept, same⟩ := drainBody_byte more width small (length ▸ room)
        refine .inr ⟨v', again, ⟨?_, kept.trans length⟩, same, ?_⟩
        · omega
        · omega
  · rw [nbytes]
    exact Nat.lt_succ_of_le (Nat.sub_le _ _)

/-- The bits still to be packed at a loop head: the residue and the stream of the bytes left. -/
def pending (src : List Byte) (v : EncodeVars) : List Bool :=
  codeToBits v.bits.toNat v.nbits.toNat ++ encodeBits hpack (src.drop v.i1.toNat)

/-- What holds at the loop head, `src` being the `len` bytes to encode. -/
structure EncodeInv (src : List Byte) (v : EncodeVars) : Prop where
  le : v.i1.toNat ≤ src.length
  few : v.nbits.toNat < 8
  fits : v.bits.toNat < 2 ^ v.nbits.toNat
  total : 8 * v.out.toNat + (pending src v).length = (encodeBits hpack src).length
  room : (encodeBits hpack src).length / 8 ≤ v.dst.bytes.length

def encodeAnswer (src : List Byte) (v : EncodeVars) : EncodeEnd where
  dst := v.dst.write v.out.toNat (packBytes (pending src v))
  out := UInt32.ofNat (v.out.toNat + (packBytes (pending src v)).length)
  nbits := UInt32.ofNat (residue (pending src v)).length
  bits := UInt64.ofNat (valueOf (residue (pending src v)))

section Encode

variable {buf src : List Byte} {len : UInt32} {v : EncodeVars}

theorem encodeBody_end (inv : EncodeInv src v) (last : v.i1 = len) (all : v.i1.toNat = src.length) :
    encodeBody buf len v = .ok (.ret (encodeAnswer src v)) := by
  have rest : pending src v = codeToBits v.bits.toNat v.nbits.toNat := by
    rw [pending, all, List.drop_length, encodeBits, List.append_nil]
  have few : (codeToBits v.bits.toNat v.nbits.toNat).length < 8 := by
    rw [length_codeToBits]
    exact inv.few
  simp only [encodeBody, if_pos last, encodeAnswer, rest, packBytes_short few, residue_short few,
    valueOf_codeToBits inv.fits, length_codeToBits, List.length_nil, Nat.add_zero,
    UInt32.ofNat_toNat, UInt64.ofNat_toNat, Buffer.write_nil]
  rfl

/-- The accumulator with the next code below it. -/
theorem accumulator {bits : UInt64} {nbits cb32 : UInt32} (code : UInt32) (few : nbits.toNat < 8)
    (fits : bits.toNat < 2 ^ nbits.toNat) (long : cb32.toNat ≤ 30)
    (codeFits : code.toNat < 2 ^ cb32.toNat) :
    ∃ shifted, shl bits cb32 = .ok shifted ∧
      codeToBits (shifted ||| code.toUInt64).toNat (nbits.toNat + cb32.toNat) =
        codeToBits bits.toNat nbits.toNat ++ codeToBits code.toNat cb32.toNat := by
  have window : bits.toNat * 2 ^ cb32.toNat < 2 ^ 64 := shift_fits fits (by omega)
  obtain ⟨shifted, ok, value⟩ := shl_or_spec code.toUInt64 (by omega) window
    (by rwa [UInt32.toNat_toUInt64])
  refine ⟨shifted, ok, ?_⟩
  rw [value, UInt32.toNat_toUInt64, codeToBits_shift _ _ fits codeFits]

/-- The accumulator's bits once the code of the byte `b` is below them. -/
def window (v : EncodeVars) (b : Byte) : List Bool :=
  codeToBits v.bits.toNat v.nbits.toNat ++ codeBitsOf hpack (Sym.ofByte b)

@[simp] theorem length_window (b : Byte) :
    (window v b).length = v.nbits.toNat + lenOf hpack (Sym.ofByte b) := by
  rw [window, codeBitsOf, List.length_append, length_codeToBits, length_codeToBits]

/-- The next code is at the front of what is still to be packed. -/
theorem pending_eq (inside : v.i1.toNat < src.length) :
    pending src v = window v src[v.i1.toNat] ++
      encodeBits hpack (src.drop (v.i1.toNat + 1)) := by
  rw [pending, encodeBits_drop inside, window, List.append_assoc]

/-- The bits left when whole bytes are drained. -/
theorem nbits2_toNat (nbits1 : UInt32) : (nbits1 - nbits1 / 8 * 8).toNat = nbits1.toNat % 8 := by
  have bytes : (nbits1 / 8 * 8).toNat = nbits1.toNat / 8 * 8 := by
    have := nbits1.toNat_lt
    simp only [UInt32.toNat_mul, UInt32.toNat_div, UInt32.reduceToNat]
    omega
  have le : nbits1 / 8 * 8 ≤ nbits1 := by
    rw [UInt32.le_iff_toNat_le, bytes]
    exact Nat.div_mul_le_self _ _
  rw [UInt32.toNat_sub_of_le _ _ le, bytes]
  omega

/-- A turn drains the window and keeps its residue. -/
theorem encodeBody_window {b : Byte} (more : v.i1 ≠ len) (inside : v.i1.toNat < len.toNat)
    (byte : load buf v.i1.toNat = .ok b) (few : v.nbits.toNat < 8)
    (fits : v.bits.toNat < 2 ^ v.nbits.toNat)
    (small : v.out.toNat + (window v b).length / 8 < 2 ^ 32)
    (room : v.out.toNat + (window v b).length / 8 ≤ v.dst.bytes.length) :
    ∃ v', encodeBody buf len v = .ok (.again v') ∧ v'.i1.toNat = v.i1.toNat + 1 ∧
      v'.dst = v.dst.write v.out.toNat (packBytes (window v b)) ∧
      v'.out.toNat = v.out.toNat + (window v b).length / 8 ∧
      v'.nbits.toNat = (window v b).length % 8 ∧
      v'.bits.toNat < 2 ^ v'.nbits.toNat ∧
      codeToBits v'.bits.toNat v'.nbits.toNat = residue (window v b) := by
  obtain ⟨code, readCode, codeValue⟩ := load_huffCode b
  obtain ⟨cb, readLen, lenValue⟩ := load_huffLen b
  have long := (hpack_lengths_in_range (Sym.ofByte b)).2
  have cb32 : cb.toUInt32.toNat = lenOf hpack (Sym.ofByte b) := by
    rw [UInt8.toNat_toUInt32, lenValue]
  have codeFits := hpack_valid.code_lt (Sym.ofByte b)
  obtain ⟨shifted, shift, bits1⟩ := accumulator code few fits
    (by rw [cb32]; exact long) (by rwa [cb32, codeValue])
  have nbits1 : (v.nbits + cb.toUInt32).toNat = (window v b).length := by
    rw [length_window, UInt32.toNat_add, cb32]
    omega
  have drained : codeToBits (shifted ||| code.toUInt64).toNat (window v b).length = window v b := by
    rw [length_window, ← cb32, bits1, cb32, codeValue]
    rfl
  have nbytes : ((v.nbits + cb.toUInt32) / 8).toNat = (window v b).length / 8 := by
    rw [UInt32.toNat_div, nbits1]
    rfl
  have out2 : (v.out + (v.nbits + cb.toUInt32) / 8).toNat =
      v.out.toNat + (window v b).length / 8 := by
    rw [UInt32.toNat_add, nbytes, Nat.mod_eq_of_lt small]
  have nbits2 := nbits2_toNat (v.nbits + cb.toUInt32)
  rw [nbits1] at nbits2
  have width : (window v b).length < 64 := by
    rw [length_window]
    omega
  have stored := drain_eq v.dst v.out (shifted ||| code.toUInt64) nbits1 width small room
  rw [drained] at stored
  obtain ⟨top, one, mask⟩ := mask_spec
    (by rw [nbits2]; omega : (v.nbits + cb.toUInt32 - (v.nbits + cb.toUInt32) / 8 * 8).toNat < 64)
  have next := toNat_succ inside
  have bits2 := and_mask (x := shifted ||| code.toUInt64) mask
  rw [nbits2] at bits2
  refine ⟨⟨_, v.i1 + 1, v.out + (v.nbits + cb.toUInt32) / 8,
    v.nbits + cb.toUInt32 - (v.nbits + cb.toUInt32) / 8 * 8,
    (shifted ||| code.toUInt64) &&& (top - 1)⟩, ?_, next, rfl, out2, nbits2, ?_, ?_⟩
  · simp only [encodeBody, if_neg more, byte, readCode, readLen, shift, stored, one, bind,
      Except.bind]
    rfl
  · simp only [nbits2, bits2]
    exact Nat.mod_lt _ (Nat.two_pow_pos _)
  · simp only [nbits2, bits2]
    rw [← residue_code, drained]

/-- A turn which reads a byte leaves the result to the next turn. -/
theorem encodeBody_byte (inv : EncodeInv src v) (view : src = buf.take len.toNat)
    (small : (encodeBits hpack src).length < 2 ^ 32) (more : v.i1 ≠ len)
    (inside : v.i1.toNat < src.length) :
    ∃ v', encodeBody buf len v = .ok (.again v') ∧ v'.i1.toNat = v.i1.toNat + 1 ∧
      EncodeInv src v' ∧ encodeAnswer src v' = encodeAnswer src v := by
  have bound : src.length ≤ len.toNat := by
    rw [view]
    exact List.length_take_le _ _
  have byte : load buf v.i1.toNat = .ok src[v.i1.toNat] := by
    subst view
    exact load_take inside
  have before := pending_eq inside
  have total := inv.total
  rw [before, List.length_append] at total
  have room := inv.room
  obtain ⟨v', again, next, dst, out, nbits, fits, bits⟩ := encodeBody_window more (by omega) byte
    inv.few inv.fits (by omega) (by omega)
  have after : pending src v' = residue (window v src[v.i1.toNat]) ++
      encodeBits hpack (src.drop (v.i1.toNat + 1)) := by
    rw [pending, bits, next]
  have packed : packBytes (pending src v) =
      packBytes (window v src[v.i1.toNat]) ++ packBytes (pending src v') := by
    rw [before, after, packBytes_append]
  have left : residue (pending src v) = residue (pending src v') := by
    rw [before, after, residue_append]
  have bytes := length_packBytes (window v src[v.i1.toNat])
  have stored : v.out.toNat + (packBytes (window v src[v.i1.toNat])).length ≤
      v.dst.bytes.length := by omega
  refine ⟨v', again, next, ⟨?_, ?_, fits, ?_, ?_⟩, ?_⟩
  · omega
  · rw [nbits]
    exact Nat.mod_lt _ (by decide)
  · rw [out, after, List.length_append, length_residue]
    omega
  · rw [dst, Buffer.length_write stored]
    exact room
  · simp only [encodeAnswer, packed, left, dst, out, List.length_append, ← bytes, Nat.add_assoc,
      Buffer.write_write stored]

theorem EncodeInv.start {dst : Buffer}
    (room : (encodeBits hpack src).length / 8 ≤ dst.bytes.length) :
    EncodeInv src ⟨dst, 0, 0, 0, 0⟩ :=
  ⟨Nat.zero_le _, Nat.zero_lt_succ 7, Nat.one_pos, by simp [pending, codeToBits], room⟩

theorem encodeBody_turn (inv : EncodeInv src v) (view : src = buf.take len.toNat)
    (length : src.length = len.toNat) (small : (encodeBits hpack src).length < 2 ^ 32) :
    (v.i1 = len ∧ encodeBody buf len v = .ok (.ret (encodeAnswer src v))) ∨
      ∃ v', encodeBody buf len v = .ok (.again v') ∧ v'.i1.toNat = v.i1.toNat + 1 ∧
        v.i1.toNat < src.length ∧ EncodeInv src v' ∧ encodeAnswer src v' = encodeAnswer src v := by
  have le := inv.le
  by_cases last : v.i1 = len
  · exact .inl ⟨last, encodeBody_end inv last (by rw [last, length])⟩
  · right
    have inside : v.i1.toNat < src.length := by
      have ne := mt UInt32.toNat_inj.mp last
      omega
    obtain ⟨v', again, next, inv', same⟩ := encodeBody_byte inv view small last inside
    exact ⟨v', again, next, inside, inv', same⟩

/-- The same where the input is the whole buffer. -/
theorem encodeBody_whole (inv : EncodeInv src v) (small : src.length < 2 ^ 27) :
    (v.i1 = UInt32.ofNat src.length ∧
        encodeBody src (UInt32.ofNat src.length) v = .ok (.ret (encodeAnswer src v))) ∨
      ∃ v', encodeBody src (UInt32.ofNat src.length) v = .ok (.again v') ∧
        v'.i1.toNat = v.i1.toNat + 1 ∧ v.i1.toNat < src.length ∧ EncodeInv src v' ∧
        encodeAnswer src v' = encodeAnswer src v := by
  have bits := rfcCode_hpack.length_encodeBits_le src
  exact encodeBody_turn inv (take_whole small) (toNat_ofNat_small small).symm (by omega)

theorem encodeLoop_eq {dst : Buffer} (view : src = buf.take len.toNat)
    (length : src.length = len.toNat) (small : (encodeBits hpack src).length < 2 ^ 32)
    (room : (encodeBits hpack src).length / 8 ≤ dst.bytes.length) :
    encodeLoop (len.toNat + 1) dst buf len 0 0 0 0 =
      .ok (encodeAnswer src ⟨dst, 0, 0, 0, 0⟩) := by
  refine whileTrue.returns_answer (EncodeInv src) (encodeAnswer src)
    (fun v => len.toNat - v.i1.toNat) ?_ (EncodeInv.start room)
    (Nat.lt_succ_of_le (Nat.sub_le _ _))
  intro v inv
  cases encodeBody_turn inv view length small with
  | inl ret => exact .inl ret.2
  | inr again =>
      obtain ⟨v', again, next, inside, inv', same⟩ := again
      exact .inr ⟨v', again, inv', same, by omega⟩

/-- The last byte: the residue completed by ones. -/
theorem finalByte {r : List Bool} {nbits : UInt32} {bits : UInt64} (some_ : 0 < r.length)
    (few : r.length < 8) (count : nbits.toNat = r.length) (value : bits.toNat = valueOf r) :
    ∃ top shifted, shl 1 (8 - nbits) = .ok top ∧ shl bits (8 - nbits) = .ok shifted ∧
      packBytes (r ++ List.replicate (8 - r.length) true) =
        [(shifted ||| (top - 1)).toUInt8] := by
  have le : nbits ≤ 8 := by
    rw [UInt32.le_iff_toNat_le, count]
    exact Nat.le_of_lt few
  have pad : (8 - nbits).toNat = 8 - r.length := by
    rw [UInt32.toNat_sub_of_le _ _ le, count]
    rfl
  obtain ⟨top, one, mask⟩ := mask_spec (by rw [pad]; omega : (8 - nbits).toNat < 64)
  have fits : bits.toNat * 2 ^ (8 - nbits).toNat < 2 ^ 64 := by
    rw [value, pad]
    exact shift_fits (valueOf_lt r) (by omega)
  obtain ⟨shifted, shift, sum⟩ := shl_or_spec (top - 1) (by rw [pad]; omega) fits
    (by rw [mask]; exact Nat.sub_lt (Nat.two_pow_pos _) Nat.one_pos)
  refine ⟨top, shifted, one, shift, ?_⟩
  have eight : (r ++ List.replicate (8 - r.length) true).length = 8 := by
    rw [List.length_append, List.length_replicate]
    omega
  have byte := packBytes_byte eight []
  rw [List.append_nil, valueOf_append, valueOf_ones, List.length_replicate] at byte
  rw [byte, packBytes_nil, ← value, ← pad, ← mask, ← sum]
  rfl

/-- The fewer than eight bits left are counted and held without loss. -/
theorem residue_count (bs : List Bool) :
    (UInt32.ofNat (residue bs).length).toNat = (residue bs).length := by
  rw [UInt32.toNat_ofNat', length_residue]
  omega

theorem residue_value (bs : List Bool) :
    (UInt64.ofNat (valueOf (residue bs))).toNat = valueOf (residue bs) := by
  have lt := valueOf_lt (residue bs)
  have bound : 2 ^ (residue bs).length ≤ 2 ^ 8 := by
    apply Nat.pow_le_pow_right (by decide)
    rw [length_residue]
    omega
  rw [UInt64.toNat_ofNat']
  omega

/-- Codes which fill whole bytes are the encoding. -/
theorem encodeBytes_whole (whole : (encodeBits hpack src).length % 8 = 0) :
    encodeBytes hpack src = packBytes (encodeBits hpack src) ∧
      residue (encodeBits hpack src) = [] := by
  have empty : residue (encodeBits hpack src) = [] := by
    apply List.length_eq_zero_iff.mp
    rw [length_residue, whole]
  have pad : padLen (encodeBits hpack src).length = 0 := by rw [padLen, whole]
  refine ⟨?_, empty⟩
  rw [encodeBytes, pad, List.replicate_zero, List.append_nil]

/-- Other codes are completed by a byte of their residue and ones. -/
theorem encodeBytes_partial (partial_ : (encodeBits hpack src).length % 8 ≠ 0) :
    encodeBytes hpack src = packBytes (encodeBits hpack src) ++
      packBytes (residue (encodeBits hpack src) ++
        List.replicate (8 - (residue (encodeBits hpack src)).length) true) := by
  have pad : padLen (encodeBits hpack src).length =
      8 - (residue (encodeBits hpack src)).length := by
    rw [padLen, length_residue]
    omega
  rw [encodeBytes, packBytes_append, pad]

/-- The generated encoder writes the encoding of its input, from the front of the buffer. -/
theorem encode_eq {dst : Buffer} (view : src = buf.take len.toNat)
    (length : src.length = len.toNat) (small : len.toNat < 2 ^ 27)
    (room : (encodeBytes hpack src).length ≤ dst.bytes.length) :
    encode buf len dst =
      .ok (UInt32.ofNat (encodeBytes hpack src).length, dst.write 0 (encodeBytes hpack src)) := by
  have le := rfcCode_hpack.length_encodeBits_le src
  have size := length_encodeBytes hpack src
  have loop := encodeLoop_eq view length (by omega) (by omega : _ ≤ dst.bytes.length)
  have all : pending src ⟨dst, 0, 0, 0, 0⟩ = encodeBits hpack src := by
    simp [pending, codeToBits]
  have bytes := length_packBytes (encodeBits hpack src)
  have left := length_residue (encodeBits hpack src)
  rw [encode, loop]
  simp only [encodeAnswer, all, UInt32.toNat_zero, Nat.zero_add, bind, Except.bind]
  by_cases whole : (encodeBits hpack src).length % 8 = 0
  · obtain ⟨packed, empty⟩ := encodeBytes_whole whole
    rw [packed, empty]
    rfl
  · have count := residue_count (encodeBits hpack src)
    have packed := encodeBytes_partial whole
    obtain ⟨top, shifted, one, shift, byte⟩ := finalByte (by omega) (by omega) count
      (residue_value _)
    rw [byte] at packed
    rw [packed, List.length_append, List.length_singleton] at room
    have some_ : UInt32.ofNat (residue (encodeBits hpack src)).length > 0 := by
      rw [gt_iff_lt, UInt32.lt_iff_toNat_lt, count, UInt32.toNat_zero]
      omega
    have index : (UInt32.ofNat (packBytes (encodeBits hpack src)).length).toNat =
        (packBytes (encodeBits hpack src)).length := by
      rw [UInt32.toNat_ofNat']
      omega
    have inside : (packBytes (encodeBits hpack src)).length <
        (dst.write 0 (packBytes (encodeBits hpack src))).bytes.length := by
      rw [Buffer.length_write (by omega)]
      exact room
    have joined := dst.write_append (packBytes (encodeBits hpack src))
      [(shifted ||| top - 1).toUInt8] (by omega)
    simp only [if_pos some_, one, shift, index, Buffer.store_eq_write inside, joined, packed,
      List.length_append, List.length_singleton, UInt32.ofNat_add]
    rfl

end Encode

/-- A turn of the sum adds the length of one code. -/
theorem sumBody_byte {buf : List Byte} {len : UInt32} {v : SumVars}
    (inside : v.i.toNat < (buf.take len.toNat).length) (more : v.i ≠ len)
    (small : v.acc.toNat < 2 ^ 32) :
    ∃ v', sumBody buf len v = .ok (.again v') ∧ v'.i.toNat = v.i.toNat + 1 ∧
      v'.acc.toNat = v.acc.toNat + lenOf hpack (Sym.ofByte (buf.take len.toNat)[v.i.toNat]) := by
  obtain ⟨l, read, value⟩ := load_huffLen (buf.take len.toNat)[v.i.toNat]
  have long := (hpack_lengths_in_range (Sym.ofByte (buf.take len.toNat)[v.i.toNat])).2
  refine ⟨⟨v.i + 1, v.acc + l.toUInt32.toUInt64⟩, ?_, ?_, ?_⟩
  · simp only [sumBody, if_neg more, load_take inside, read, bind, Except.bind]
    rfl
  · exact toNat_succ (Nat.lt_of_lt_of_le inside (List.length_take_le _ _))
  · rw [UInt64.toNat_add, UInt32.toNat_toUInt64, UInt8.toNat_toUInt32, value]
    omega

/-- What holds at the loop head of the sum. -/
structure SumInv (src : List Byte) (v : SumVars) : Prop where
  le : v.i.toNat ≤ src.length
  total : v.acc.toNat + (encodeBits hpack (src.drop v.i.toNat)).length =
    (encodeBits hpack src).length

theorem SumInv.start (src : List Byte) : SumInv src ⟨0, 0⟩ := ⟨Nat.zero_le _, by simp⟩

theorem sumBody_turn {buf src : List Byte} {len : UInt32} {v : SumVars} (inv : SumInv src v)
    (view : src = buf.take len.toNat) (length : src.length = len.toNat)
    (small : (encodeBits hpack src).length < 2 ^ 32) :
    sumBody buf len v = .ok (.ret (UInt64.ofNat (encodeBits hpack src).length)) ∨
      ∃ v', sumBody buf len v = .ok (.again v') ∧ v'.i.toNat = v.i.toNat + 1 ∧
        v.i.toNat < src.length ∧ SumInv src v' := by
  have le := inv.le
  have total := inv.total
  by_cases last : v.i = len
  · left
    rw [last, ← length, List.drop_length, encodeBits, List.length_nil, Nat.add_zero] at total
    rw [← total, UInt64.ofNat_toNat, sumBody, if_pos last]
    rfl
  · right
    have inside : v.i.toNat < src.length := by
      have ne := mt UInt32.toNat_inj.mp last
      omega
    rw [encodeBits_drop inside, List.length_append, codeBitsOf, length_codeToBits] at total
    subst view
    obtain ⟨v', again, next, acc⟩ := sumBody_byte inside last (by omega)
    refine ⟨v', again, next, inside, by omega, ?_⟩
    rw [next, acc]
    omega

/-- The same where the input is the whole buffer. -/
theorem sumBody_whole {src : List Byte} {v : SumVars} (inv : SumInv src v)
    (small : src.length < 2 ^ 27) :
    sumBody src (UInt32.ofNat src.length) v =
        .ok (.ret (UInt64.ofNat (encodeBits hpack src).length)) ∨
      ∃ v', sumBody src (UInt32.ofNat src.length) v = .ok (.again v') ∧
        v'.i.toNat = v.i.toNat + 1 ∧ v.i.toNat < src.length ∧ SumInv src v' := by
  have bits := rfcCode_hpack.length_encodeBits_le src
  exact sumBody_turn inv (take_whole small) (toNat_ofNat_small small).symm (by omega)

theorem sumLoop_eq {buf src : List Byte} {len : UInt32} (view : src = buf.take len.toNat)
    (length : src.length = len.toNat) (small : (encodeBits hpack src).length < 2 ^ 32) :
    sumLoop (len.toNat + 1) buf len 0 0 = .ok (UInt64.ofNat (encodeBits hpack src).length) := by
  refine whileTrue.returns_answer (SumInv src)
    (fun _ => UInt64.ofNat (encodeBits hpack src).length) (fun v => len.toNat - v.i.toNat) ?_
    (SumInv.start src) (Nat.lt_succ_of_le (Nat.sub_le _ _))
  intro v inv
  cases sumBody_turn inv view length small with
  | inl ret => exact .inl ret
  | inr again =>
      obtain ⟨v', again, next, inside, inv'⟩ := again
      exact .inr ⟨v', again, inv', rfl, by omega⟩

theorem sumLoop_whole {src : List Byte} (small : src.length < 2 ^ 27) :
    sumLoop (src.length + 1) src (UInt32.ofNat src.length) 0 0 =
      .ok (UInt64.ofNat (encodeBits hpack src).length) := by
  have bits := rfcCode_hpack.length_encodeBits_le src
  have length := toNat_ofNat_small small
  have loop := sumLoop_eq (take_whole small) length.symm
    (by omega : (encodeBits hpack src).length < 2 ^ 32)
  rwa [length] at loop

theorem encodeLen_eq {buf src : List Byte} {len : UInt32} (view : src = buf.take len.toNat)
    (length : src.length = len.toNat) (small : len.toNat < 2 ^ 27) :
    encodeLen buf len = .ok (UInt32.ofNat (encodeBytes hpack src).length) := by
  have le := rfcCode_hpack.length_encodeBits_le src
  rw [encodeLen, sumLoop_eq view length (by omega), length_encodeBytes]
  have total : (UInt64.ofNat (encodeBits hpack src).length).toNat =
      (encodeBits hpack src).length := by
    rw [UInt64.toNat_ofNat']
    omega
  have bytes : ((UInt64.ofNat (encodeBits hpack src).length + 7) / 8).toUInt32 =
      UInt32.ofNat (((encodeBits hpack src).length + 7) / 8) := by
    apply UInt32.toNat_inj.mp
    simp only [UInt64.toNat_toUInt32, UInt64.toNat_div, UInt64.toNat_add, total,
      UInt64.reduceToNat, UInt32.toNat_ofNat']
    omega
  rw [← bytes]
  rfl

end HpackHuffman.Lowstar
