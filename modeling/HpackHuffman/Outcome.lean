import HpackHuffman.Shim
import HpackHuffman.Lowstar.Invariant

/-! # What the decoder leaves behind

The decoder's contract speaks of accepted strings. Here is every exit: how much is written,
what it is, what is left alone, and how little room is enough for all of it.
-/

namespace HpackHuffman

open Lowstar

variable {src : List Byte} {dst : Buffer} {dstCap : Nat}

/-- What a call with the input `src` and room for `dstCap` bytes returns. -/
def outcome (src : List Byte) (dst : Buffer) (dstCap : Nat) : Decoded Nat :=
  (answer dstCap (bitsStep hpack dfaInit (bytesToBits src))).decoded id 0 dst

/-- The bytes it leaves in the buffer. -/
def outcomeBytes (src : List Byte) (dstCap : Nat) : List Byte :=
  (bitsStep hpack dfaInit (bytesToBits src)).2.take dstCap

theorem outcome_outLen : (outcome src dst dstCap).outLen = (outcomeBytes src dstCap).length :=
  Nat.zero_add _

theorem outcome_dst : (outcome src dst dstCap).dst = dst.write 0 (outcomeBytes src dstCap) := rfl

theorem outcome_take :
    (outcome src dst dstCap).dst.bytes.take (outcome src dst dstCap).outLen =
      outcomeBytes src dstCap := by
  rw [outcome_outLen, outcome_dst, Buffer.take_write_front]

theorem outcome_drop :
    (outcome src dst dstCap).dst.bytes.drop (outcome src dst dstCap).outLen =
      dst.bytes.drop (outcome src dst dstCap).outLen := by
  rw [outcome_outLen, outcome_dst, Buffer.drop_write_front]

theorem outcome_of_accepted {xs : List Byte} (spec : decodeBits hpack (bytesToBits src) = some xs)
    (fits : xs.length ≤ dstCap) : outcome src dst dstCap = ⟨0, xs.length, dst.write 0 xs⟩ :=
  decoded_of_accepted spec fits

theorem outcome_rc :
    (outcome src dst dstCap).rc = 0 ↔
      ∃ xs, decodeBits hpack (bytesToBits src) = some xs ∧ xs.length ≤ dstCap := by
  constructor
  · exact accepted_of_decoded
  · rintro ⟨xs, spec, fits⟩
    rw [outcome_of_accepted spec fits]

theorem outcome_rc_neg :
    (outcome src dst dstCap).rc = -1 ↔ (outcome src dst dstCap).rc ≠ 0 := by
  simp only [outcome, Answer.decoded]
  split
  · decide
  · decide

/-- The longest byte list within the capacity whose codes begin the bits of `src`. -/
structure LongestDecoded (src : List Byte) (cap : Nat) (xs : List Byte) : Prop where
  fits : xs.length ≤ cap
  begins : encodeBits hpack xs <+: bytesToBits src
  longest : ∀ ys, ys.length ≤ cap → encodeBits hpack ys <+: bytesToBits src → ys <+: xs

theorem outcomeBytes_longest : LongestDecoded src dstCap (outcomeBytes src dstCap) where
  fits := List.length_take_le _ _
  begins := by
    have whole := encodeBits_emitted hpack_valid (bytesToBits src)
    exact (encodeBits_mono hpack (List.take_prefix _ _)).trans whole
  longest := by
    intro ys fits begins
    exact List.prefix_take_iff.mpr ⟨prefix_emitted hpack_valid begins, fits⟩

/-- On every exit `*out_len` bytes are written, the most that fit and are spelled by the
    input, and the rest of the buffer is left alone. -/
theorem decoder_leaves (src : List Byte) (dst : Buffer) (dstCap : Nat) :
    (src.length < 2 ^ 27 → dstCap ≤ dst.bytes.length →
      ∃ res, hpackHuffmanDecode src src.length dst dstCap = .ok res ∧ res.outLen ≤ dstCap ∧
        (res.dst.bytes.take res.outLen).length = res.outLen ∧
        LongestDecoded src dstCap (res.dst.bytes.take res.outLen) ∧
        res.dst.bytes.drop res.outLen = dst.bytes.drop res.outLen) ∧
    (2 ^ 27 ≤ src.length →
      hpackHuffmanDecode src src.length dst dstCap = .ok ⟨-1, 0, dst⟩) := by
  constructor
  · intro small room
    refine ⟨outcome src dst dstCap, hpackHuffmanDecode_whole small room, ?_, ?_, ?_,
      outcome_drop⟩
    · rw [outcome_outLen]
      exact outcomeBytes_longest.fits
    · rw [outcome_take, outcome_outLen]
    · rw [outcome_take]
      exact outcomeBytes_longest
  · exact hpackHuffmanDecode_overlong

/-- The letter `a` and a byte of ones: the padding is refused, the letter stays. -/
theorem decoder_leaves_a :
    ∃ res, hpackHuffmanDecode [31, 255] 2 (Buffer.ofBytes [7, 7]) 2 = .ok res ∧
      res.outLen ≤ 2 ∧ (res.dst.bytes.take res.outLen).length = res.outLen ∧
      LongestDecoded [31, 255] 2 (res.dst.bytes.take res.outLen) ∧
      res.dst.bytes.drop res.outLen = [7, 7].drop res.outLen :=
  (decoder_leaves [31, 255] (Buffer.ofBytes [7, 7]) 2).1 (by decide) (by decide)

/-- Every byte written took at least five bits of the input. -/
theorem length_emitted_le (bs : List Bool) :
    5 * (bitsStep hpack dfaInit bs).2.length ≤ bs.length := by
  have codes := rfcCode_hpack.le_length_encodeBits (bitsStep hpack dfaInit bs).2
  have within := (encodeBits_emitted hpack_valid bs).length_le
  omega

/-- Every byte of an accepted input took at most thirty. -/
theorem length_accepted_ge {xs : List Byte}
    (accepted : decodeBits hpack (bytesToBits src) = some xs) :
    8 * src.length ≤ 30 * xs.length + 7 := by
  obtain ⟨k, short, bits⟩ := rfcCode_hpack.padded_of_decodeBits accepted
  have codes := rfcCode_hpack.length_encodeBits_le xs
  have length := congrArg List.length bits
  simp only [length_bytesToBits, List.length_append, List.length_replicate] at length
  omega

/-- With enough room the capacity does not matter. -/
theorem outcome_enough {cap : Nat} (enough : 8 * src.length / 5 ≤ dstCap)
    (enough' : 8 * src.length / 5 ≤ cap) : outcome src dst cap = outcome src dst dstCap := by
  have emitted := length_emitted_le (bytesToBits src)
  rw [length_bytesToBits] at emitted
  have inCap : (bitsStep hpack dfaInit (bytesToBits src)).2.length ≤ cap := by omega
  have inDstCap : (bitsStep hpack dfaInit (bytesToBits src)).2.length ≤ dstCap := by omega
  rw [outcome, outcome, answer_clamp inCap inDstCap]

theorem decodeBits_fits {xs : List Byte} (enough : 8 * src.length / 5 ≤ dstCap)
    (accepted : decodeBits hpack (bytesToBits src) = some xs) : xs.length ≤ dstCap := by
  obtain ⟨k, short, bits⟩ := rfcCode_hpack.padded_of_decodeBits accepted
  have codes := rfcCode_hpack.le_length_encodeBits xs
  have length := congrArg List.length bits
  simp only [length_bytesToBits, List.length_append, List.length_replicate] at length
  omega

/-- With enough room a call fails on malformed input only. -/
theorem outcome_rejects (enough : 8 * src.length / 5 ≤ dstCap) :
    (outcome src dst dstCap).rc = -1 ↔ decodeBits hpack (bytesToBits src) = none := by
  rw [outcome_rc_neg, ne_eq, outcome_rc, Option.eq_none_iff_forall_ne_some]
  constructor
  · intro rejected xs accepted
    exact rejected ⟨xs, accepted, decodeBits_fits enough accepted⟩
  · rintro none ⟨xs, accepted, -⟩
    exact none xs accepted

section Space

variable {cap : UInt32} {v : DfaVars}

/-- With enough room no turn stops for want of it. -/
theorem room_of_enough (small : src.length < 2 ^ 27) (room : cap.toNat ≤ dst.bytes.length)
    (enough : 8 * src.length / 5 ≤ cap.toNat)
    (reached : LoopHead (dfaBody src (UInt32.ofNat src.length) cap) ⟨dst, 0, 0, 0⟩ v)
    (more : v.g ≠ 8 * UInt32.ofNat src.length) {c : UInt32} (cell : turnCell src v = .ok c) :
    v.written.toNat + (cellEmit c).length ≤ cap.toNat := by
  have head := dfaHead small room reached
  have inside := inside_whole small head.le more
  obtain ⟨-, emit⟩ := turnCell_whole head.live inside cell
  have emitted := length_emitted_le ((bytesToBits src).take (v.g.toNat + 4))
  rw [head.read_nibble inside, ← emit] at emitted
  have written := head.length_written
  have within := List.length_take_le' (v.g.toNat + 4) (bytesToBits src)
  simp only [List.length_append, written, length_bytesToBits] at emitted within
  omega

end Space

/-- A turn of the decoder whose capacity is as wide as a `size_t`. -/
def dfaBodyUnclamped (src : List Byte) (srcLen : UInt32) (dstCap : Nat) (v : DfaVars) :
    Exec (Turn DfaVars (Decoded UInt32)) := do
  if v.g = 8 * srcLen then
    let ok ← acceptAt v.cur
    return .ret ⟨if ok then 0 else -1, v.written, v.dst⟩
  else
    let c ← turnCell src v
    followCell (v.written.toNat < dstCap) v c

/-- `hpack_huffman_decode` without its clamp, calling that decoder. -/
def hpackHuffmanDecodeUnclamped (src : List Byte) (srcLen : Nat) (dst : Buffer) (dstCap : Nat) :
    Exec (Decoded Nat) := do
  if srcLen ≥ hpackHuffmanMaxLen then
    return ⟨-1, 0, dst⟩
  else
    let res ← whileTrue (dfaBodyUnclamped src (UInt32.ofNat srcLen) dstCap)
      (2 * (UInt32.ofNat srcLen).toNat + 1) ⟨dst, 0, 0, 0⟩
    return ⟨if res.rc = 0 then 0 else -1, res.outLen.toNat, res.dst⟩

/-- The clamp changes no comparison, as no count of bytes comes near it. -/
theorem dfaBodyUnclamped_eq {cap : UInt32} {v : DfaVars} (small : src.length < 2 ^ 27)
    (clamp : cap.toNat = min dstCap (2 ^ 32 - 1)) (head : DfaHead src cap v) :
    dfaBodyUnclamped src (UInt32.ofNat src.length) dstCap v =
      dfaBody src (UInt32.ofNat src.length) cap v := by
  have emitted := length_emitted_le ((bytesToBits src).take v.g.toNat)
  have written := head.length_written
  have within := List.length_take_le' v.g.toNat (bytesToBits src)
  rw [head.read, written] at emitted
  rw [length_bytesToBits] at within
  have room : v.written.toNat < dstCap ↔ v.written < cap := by
    rw [UInt32.lt_iff_toNat_lt, clamp]
    omega
  by_cases last : v.g = 8 * UInt32.ofNat src.length
  · simp only [dfaBodyUnclamped, dfaBody, if_pos last]
  · rw [dfaBody_more last]
    simp only [dfaBodyUnclamped, if_neg last, room]

theorem hpackHuffmanDecodeUnclamped_eq (small : src.length < 2 ^ 27)
    (room : dstCap ≤ dst.bytes.length) :
    hpackHuffmanDecodeUnclamped src src.length dst dstCap =
      hpackHuffmanDecode src src.length dst dstCap := by
  have clamp := @cap32_toNat dstCap
  have room32 : (if dstCap > 0xFFFFFFFF then 0xFFFFFFFF else UInt32.ofNat dstCap).toNat ≤
      dst.bytes.length := by
    rw [clamp]
    exact Nat.le_trans (Nat.min_le_left _ _) room
  have same : ∀ fuel, whileTrue (dfaBodyUnclamped src (UInt32.ofNat src.length) dstCap) fuel
        ⟨dst, 0, 0, 0⟩ =
      whileTrue (dfaBody src (UInt32.ofNat src.length)
        (if dstCap > 0xFFFFFFFF then 0xFFFFFFFF else UInt32.ofNat dstCap)) fuel
        ⟨dst, 0, 0, 0⟩ := by
    intro fuel
    refine LoopHead.whileTrue_congr ?_ fuel
    intro v reached
    exact dfaBodyUnclamped_eq small clamp (dfaHead small room32 reached)
  simp only [hpackHuffmanDecodeUnclamped, hpackHuffmanDecode, decode, decodeDfa, dfaLoop, same]

/-- The size of an output is bounded by the size of the input from both sides; from the upper
    bound on, room is never what a call fails for and the capacity does not matter. -/
theorem decoded_size (small : src.length < 2 ^ 27) (room : dstCap ≤ dst.bytes.length) :
    ∃ res, hpackHuffmanDecode src src.length dst dstCap = .ok res ∧
      res.outLen ≤ 8 * src.length / 5 ∧
      res.dst.stores = dst.stores ++ List.range res.outLen ∧
      (res.rc = 0 → (8 * src.length - 7) ⌈/⌉ 30 ≤ res.outLen) ∧
      (8 * src.length / 5 ≤ dstCap →
        (res.rc = -1 ↔ decodeBits hpack (bytesToBits src) = none) ∧
        (∀ v c, v.g ≠ 8 * UInt32.ofNat src.length → turnCell src v = .ok c →
          ∀ cap : UInt32, cap.toNat = min dstCap (2 ^ 32 - 1) →
            LoopHead (dfaBody src (UInt32.ofNat src.length) cap) ⟨dst, 0, 0, 0⟩ v →
            v.written.toNat + (cellEmit c).length ≤ cap.toNat) ∧
        ∀ cap, 8 * src.length / 5 ≤ cap → cap ≤ dst.bytes.length →
          hpackHuffmanDecode src src.length dst cap = .ok res) ∧
      hpackHuffmanDecodeUnclamped src src.length dst dstCap = .ok res := by
  have run := @hpackHuffmanDecode_whole src dst dstCap small room
  refine ⟨outcome src dst dstCap, run, ?_, ?_, ?_, ?_, ?_⟩
  · have emitted := length_emitted_le (bytesToBits src)
    have kept := List.length_take_le' dstCap (bitsStep hpack dfaInit (bytesToBits src)).2
    rw [length_bytesToBits] at emitted
    rw [outcome_outLen, outcomeBytes]
    omega
  · rw [outcome_outLen, outcome_dst, Buffer.write, List.range_eq_range']
  · intro accepted
    obtain ⟨xs, spec, fits⟩ := outcome_rc.mp accepted
    have size := length_accepted_ge spec
    rw [outcome_of_accepted spec fits, Nat.ceilDiv_eq_add_pred_div]
    show _ ≤ xs.length
    omega
  · intro enough
    refine ⟨outcome_rejects enough, ?_, ?_⟩
    · intro v c more cell cap clamp reached
      have room32 : cap.toNat ≤ dst.bytes.length := by omega
      have enough32 : 8 * src.length / 5 ≤ cap.toNat := by omega
      exact room_of_enough small room32 enough32 reached more cell
    · intro cap enough' room'
      rw [hpackHuffmanDecode_whole small room']
      exact congrArg Except.ok (outcome_enough enough enough')
  · rw [hpackHuffmanDecodeUnclamped_eq small room]
    exact run

/-- The letter `a`: one byte fits into one byte. -/
theorem decoded_size_a :
    ∃ res, hpackHuffmanDecode [31] 1 (Buffer.ofBytes [7]) 1 = .ok res ∧
      res.outLen ≤ 8 * 1 / 5 ∧
      res.dst.stores = [] ++ List.range res.outLen ∧
      (res.rc = 0 → (8 * 1 - 7) ⌈/⌉ 30 ≤ res.outLen) ∧
      (8 * 1 / 5 ≤ 1 →
        (res.rc = -1 ↔ decodeBits hpack (bytesToBits [31]) = none) ∧
        (∀ v c, v.g ≠ 8 * UInt32.ofNat 1 → turnCell [31] v = .ok c →
          ∀ cap : UInt32, cap.toNat = min 1 (2 ^ 32 - 1) →
            LoopHead (dfaBody [31] (UInt32.ofNat 1) cap) ⟨Buffer.ofBytes [7], 0, 0, 0⟩ v →
            v.written.toNat + (cellEmit c).length ≤ cap.toNat) ∧
        ∀ cap, 8 * 1 / 5 ≤ cap → cap ≤ 1 →
          hpackHuffmanDecode [31] 1 (Buffer.ofBytes [7]) cap = .ok res) ∧
      hpackHuffmanDecodeUnclamped [31] 1 (Buffer.ofBytes [7]) 1 = .ok res :=
  @decoded_size [31] (Buffer.ofBytes [7]) 1 (by decide) (by decide)

end HpackHuffman
