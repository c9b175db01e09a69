import HpackHuffman.Spec.Language
import HpackHuffman.Lowstar.Decode

/-! # The invariant of the decoder loop

At every loop head the bits read so far are the codes of the bytes written, followed by the
bits the current state stands for. Nothing the loop carries says so: the state is an id, and
what it stands for is in the generated table.
-/

namespace HpackHuffman.Lowstar

open Bits

/-- The start of the loop. -/
def dfaStart (dst : Buffer) : DfaVars := ⟨dst, 0, 0, 0⟩

/-- What holds at a loop head: the loop is where the automaton is after the bits read. -/
structure DfaHead (src : List Byte) (dstCap : UInt32) (v : DfaVars) : Prop
    extends DfaInv src dstCap v where
  read : bitsStep hpack dfaInit ((bytesToBits src).take v.g.toNat) =
    (stateOf v.cur.toNat, v.dst.bytes.take v.written.toNat)

section Keeps

variable {whole : List Byte} {srcLen dstCap : UInt32} {v v' : DfaVars}

theorem inside_of_more {n : Nat} {g : UInt32} (le : g.toNat ≤ 8 * n) (length : srcLen.toNat = n)
    (small : srcLen.toNat < 2 ^ 27) (more : g ≠ 8 * srcLen) : g.toNat < 8 * n := by
  have total := nbitTotal_toNat small
  have ne := mt UInt32.toNat_inj.mp more
  omega

/-- The same where the input is the whole buffer. -/
theorem inside_whole {src : List Byte} {g : UInt32} (small : src.length < 2 ^ 27)
    (le : g.toNat ≤ 8 * src.length) (more : g ≠ 8 * UInt32.ofNat src.length) :
    g.toNat < 8 * src.length := by
  have length := toNat_ofNat_small small
  exact inside_of_more le length (by rwa [length]) more

theorem DfaInv.length_written {src : List Byte} (inv : DfaInv src dstCap v) :
    (v.dst.bytes.take v.written.toNat).length = v.written.toNat :=
  List.length_take_of_le (Nat.le_trans inv.written inv.room)

/-- The automaton after one more nibble. -/
theorem DfaHead.read_nibble {src : List Byte} (head : DfaHead src dstCap v)
    (inside : v.g.toNat < 8 * src.length) :
    bitsStep hpack dfaInit ((bytesToBits src).take (v.g.toNat + 4)) =
      ((step hpack (stateOf v.cur.toNat) (nibbleAt src v.g.toNat inside)).1,
        v.dst.bytes.take v.written.toNat ++
          (step hpack (stateOf v.cur.toNat) (nibbleAt src v.g.toNat inside)).2) := by
  rw [bytesToBits_take_nibble inside head.aligned, bitsStep_append, head.read]
  rfl

/-- The bytes in the buffer and the state grow together. -/
theorem DfaHead.keeps (length : (whole.take srcLen.toNat).length = srcLen.toNat)
    (small : srcLen.toNat < 2 ^ 27) (head : DfaHead (whole.take srcLen.toNat) dstCap v)
    (turn : dfaBody whole srcLen dstCap v = .ok (.again v')) :
    DfaHead (whole.take srcLen.toNat) dstCap v' := by
  have inv := head.toDfaInv
  have more := (dfaBody_next turn).1
  have inside := inside_of_more inv.le length.symm small more
  obtain ⟨c, cell, le, state, emit, -⟩ := turnCell_spec rfl inv.live inside
  obtain ⟨turn', done, how⟩ := followCell_spec v c inv
  rw [dfaBody_more more, cell] at turn
  obtain rfl : turn' = .again v' := Except.ok.inj (done.symm.trans turn)
  cases how with
  | stored live count fits =>
      refine ⟨inv.next inside small (Nat.lt_of_le_of_ne le live) count fits, ?_⟩
      have front : (v.dst.write v.written.toNat (cellEmit c)).bytes.take
          (v.written.toNat + (cellEmit c).length) =
            v.dst.bytes.take v.written.toNat ++ cellEmit c :=
        Buffer.take_write (Nat.le_trans inv.written inv.room)
      simp only [next_nibble inside small, head.read_nibble inside, count, front, ← cellNext_eq,
        state]
      rw [emit]

end Keeps

section Heads

variable {src : List Byte} {dst : Buffer} {dstCap : UInt32} {v : DfaVars}

/-- Every loop head of a decoding meets the invariant. -/
theorem dfaHead (small : src.length < 2 ^ 27) (room : dstCap.toNat ≤ dst.bytes.length)
    (head : LoopHead (dfaBody src (UInt32.ofNat src.length) dstCap) (dfaStart dst) v) :
    DfaHead src dstCap v := by
  have length := toNat_ofNat_small small
  have whole : src.take (UInt32.ofNat src.length).toNat = src := by
    rw [length, List.take_length]
  have start : DfaHead (src.take (UInt32.ofNat src.length).toNat) dstCap (dfaStart dst) := by
    refine ⟨⟨rfl, Nat.zero_le _, Nat.zero_lt_succ 255, Nat.zero_le _, room⟩, ?_⟩
    rfl
  have keeps : ∀ v v', DfaHead (src.take (UInt32.ofNat src.length).toNat) dstCap v →
      dfaBody src (UInt32.ofNat src.length) dstCap v = .ok (.again v') →
      DfaHead (src.take (UInt32.ofNat src.length).toNat) dstCap v' := by
    intro v v' here turn
    exact here.keeps (by rw [whole, length]) (by rwa [length]) turn
  have here := head.invariant start keeps
  rwa [whole] at here

/-- The bits read are the codes of the bytes written and the bits the state stands for. -/
theorem DfaHead.conserves (head : DfaHead src dstCap v) :
    ∃ acc nbits, stateOf v.cur.toNat = .live acc nbits ∧
      (bytesToBits src).take v.g.toNat =
        encodeBits hpack (v.dst.bytes.take v.written.toNat) ++ codeToBits acc nbits := by
  obtain ⟨path, -, -, -, -, state⟩ := node_of_id head.live
  have reads := (run_eq_iff hpack_valid _ _ _).mp head.read
  rw [state] at reads
  obtain ⟨r, split, -, value, length⟩ := reads
  refine ⟨_, _, state, ?_⟩
  rw [split, value, length, codeToBits_valueOf]

/-- A live id has its cells in one of the sixteen chunks. -/
theorem chunk_lt {cur nib : UInt32} (live : cur.toNat < dfaNStates) (nibble : nib < 16) :
    ((cur * 16 + nib) / 256).toNat < 16 := by
  have small := UInt32.lt_iff_toNat_lt.mp nibble
  simp only [dfaNStates, UInt32.reduceToNat] at live small
  simp only [UInt32.toNat_div, UInt32.toNat_add, UInt32.toNat_mul, UInt32.reduceToNat]
  omega

/-- The cell of a turn is the step of the automaton, the input being the whole buffer. -/
theorem turnCell_whole {c : UInt32} (live : v.cur.toNat < dfaNStates)
    (inside : v.g.toNat < 8 * src.length) (cell : turnCell src v = .ok c) :
    stateOf (cellNext c) =
        (step hpack (stateOf v.cur.toNat) (nibbleAt src v.g.toNat inside)).1 ∧
      cellEmit c = (step hpack (stateOf v.cur.toNat) (nibbleAt src v.g.toNat inside)).2 := by
  obtain ⟨c', cell', -, state, emit, -⟩ := turnCell_spec List.take_length live inside
  obtain rfl : c' = c := Except.ok.inj (cell'.symm.trans cell)
  exact ⟨state, emit⟩

/-- No turn leaves a buffer or a table. -/
theorem dfaBody_ok (small : src.length < 2 ^ 27) (inv : DfaInv src dstCap v) :
    ∃ turn, dfaBody src (UInt32.ofNat src.length) dstCap v = .ok turn := by
  by_cases last : v.g = 8 * UInt32.ofNat src.length
  · simp only [dfaBody, if_pos last, acceptAt_spec inv.live]
    exact ⟨_, rfl⟩
  · have inside := inside_whole small inv.le last
    obtain ⟨c, cell, -⟩ := turnCell_spec (List.take_length (l := src)) inv.live inside
    obtain ⟨turn, done, -⟩ := followCell_spec v c inv
    rw [dfaBody_more last, cell]
    exact ⟨turn, done⟩

/-- The decoder loop never leaves its invariant, stays inside every buffer and table, and
    ends. -/
theorem dfa_loop_invariant (small : src.length < 2 ^ 27)
    (room : dstCap.toNat ≤ dst.bytes.length) :
    (∀ v, LoopHead (dfaBody src (UInt32.ofNat src.length) dstCap) ⟨dst, 0, 0, 0⟩ v →
      v.cur < 256 ∧ v.g.toNat % 4 = 0 ∧ v.g.toNat ≤ 8 * src.length ∧ v.written ≤ dstCap ∧
      (∃ acc nbits, stateOf v.cur.toNat = .live acc nbits ∧
        (bytesToBits src).take v.g.toNat =
          encodeBits hpack (v.dst.bytes.take v.written.toNat) ++ codeToBits acc nbits) ∧
      (∀ nib < 16, ((v.cur * 16 + nib) / 256).toNat < 16) ∧
      ∃ turn, dfaBody src (UInt32.ofNat src.length) dstCap v = .ok turn) ∧
    ∃ res, ∀ fuel > 2 * src.length,
      dfaLoop fuel src dst (UInt32.ofNat src.length) dstCap 0 0 0 = .ok res := by
  have length := toNat_ofNat_small small
  constructor
  · intro v reached
    have head := dfaHead small room reached
    exact ⟨UInt32.lt_iff_toNat_lt.mpr head.live, head.aligned, head.le,
      UInt32.le_iff_toNat_le.mpr head.written, head.conserves, fun _ => chunk_lt head.live,
      dfaBody_ok small head.toDfaInv⟩
  · refine ⟨_, fun fuel enough => dfaLoop_eq ?_ (Nat.le_of_eq length) room ?_⟩
    · rwa [length]
    · rwa [length]

/-- Decoding the letter `a`. -/
theorem dfa_loop_invariant_a :
    (∀ v, LoopHead (dfaBody [31] (UInt32.ofNat 1) 2) ⟨Buffer.ofBytes [7, 7], 0, 0, 0⟩ v →
      v.cur < 256 ∧ v.g.toNat % 4 = 0 ∧ v.g.toNat ≤ 8 * 1 ∧ v.written ≤ 2 ∧
      (∃ acc nbits, stateOf v.cur.toNat = .live acc nbits ∧
        (bytesToBits [31]).take v.g.toNat =
          encodeBits hpack (v.dst.bytes.take v.written.toNat) ++ codeToBits acc nbits) ∧
      (∀ nib < 16, ((v.cur * 16 + nib) / 256).toNat < 16) ∧
      ∃ turn, dfaBody [31] (UInt32.ofNat 1) 2 v = .ok turn) ∧
    ∃ res, ∀ fuel > 2 * 1,
      dfaLoop fuel [31] (Buffer.ofBytes [7, 7]) (UInt32.ofNat 1) 2 0 0 0 = .ok res :=
  @dfa_loop_invariant [31] (Buffer.ofBytes [7, 7]) 2 (by decide) (by decide)

end Heads

end HpackHuffman.Lowstar
