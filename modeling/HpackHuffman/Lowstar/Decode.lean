import HpackHuffman.Spec.Decode
import HpackHuffman.Refine.Answer
import HpackHuffman.Lowstar.Dfa

/-! # The decoder loop

`dfa_loop` follows the packed table nibble by nibble. At every loop head the result still
to come is the `Answer` to the run of the automaton over the bits not read yet.
-/

namespace HpackHuffman.Lowstar

/-- The variables the loop assigns, and the buffer it writes. -/
structure DfaVars where
  dst : Buffer
  g : UInt32
  cur : UInt32
  written : UInt32

def dfaBody (src : List Byte) (srcLen dstCap : UInt32) (v : DfaVars) :
    Exec (Turn DfaVars (Decoded UInt32)) := do
  let nbitTotal := 8 * srcLen
  if v.g = nbitTotal then
    let ok ← acceptAt v.cur
    return .ret ⟨if ok then 0 else -1, v.written, v.dst⟩
  else
    let bytei := v.g / 8
    let biti := v.g % 8
    let bx ← load src bytei.toNat
    let nib := if biti = 0 then bx.toUInt32 / 16 &&& 0xFF else bx.toUInt32 % 16 &&& 0xFF
    let c ← readCell v.cur nib
    let next := c / 65536
    if next = 256 then
      return .ret ⟨-1, v.written, v.dst⟩
    else
      let flag := c / 256 % 256
      if flag = 1 then
        let sym := c % 256
        if v.written < dstCap then
          let dst ← v.dst.store v.written.toNat sym.toUInt8
          return .again ⟨dst, v.g + 4, next, v.written + 1⟩
        else
          return .ret ⟨-1, v.written, v.dst⟩
      else
        return .again { v with g := v.g + 4, cur := next }

def dfaLoop (fuel : Nat) (src : List Byte) (dst : Buffer) (srcLen dstCap g cur written : UInt32) :
    Exec (Decoded UInt32) :=
  whileTrue (dfaBody src srcLen dstCap) fuel ⟨dst, g, cur, written⟩

/-- The loop reads two nibbles a byte, and turns once more to see the end. -/
def decodeDfa (src : List Byte) (srcLen : UInt32) (dst : Buffer) (dstCap : UInt32) :
    Exec (Decoded UInt32) :=
  dfaLoop (2 * srcLen.toNat + 1) src dst srcLen dstCap 0 0 0

/-- What holds at the loop head, `src` being the `src_len` bytes to read. -/
structure DfaInv (src : List Byte) (dstCap : UInt32) (v : DfaVars) : Prop where
  aligned : v.g.toNat % 4 = 0
  le : v.g.toNat ≤ 8 * src.length
  live : v.cur.toNat < dfaNStates
  written : v.written.toNat ≤ dstCap.toNat
  room : dstCap.toNat ≤ v.dst.bytes.length

/-- The result still to come from a loop head. -/
def dfaAnswer (src : List Byte) (dstCap : UInt32) (v : DfaVars) : Decoded UInt32 :=
  (answer (dstCap.toNat - v.written.toNat)
    (bitsStep hpack (stateOf v.cur.toNat) (bitsFrom src v.g.toNat))).decoded
      UInt32.ofNat v.written.toNat v.dst

/-- The nibble the C code cuts out of the byte at the bit index `g`. -/
def cutNibble (bx : Byte) (g : UInt32) : UInt32 :=
  if g % 8 = 0 then bx.toUInt32 / 16 &&& 0xFF else bx.toUInt32 % 16 &&& 0xFF

theorem cutNibble_toNat {src : List Byte} {g : UInt32} (inside : g.toNat < 8 * src.length) :
    (cutNibble src[g.toNat / 8] g).toNat = (nibbleAt src g.toNat inside).val := by
  have small := src[g.toNat / 8].toNat_lt
  have low : ∀ n < 16, n &&& 255 = n := by decide
  have high : g % 8 = 0 ↔ g.toNat % 8 = 0 := by
    rw [← UInt32.toNat_inj]
    simp
  simp only [cutNibble, nibbleAt, high]
  by_cases half : g.toNat % 8 = 0
  · simp only [half, if_true, UInt32.toNat_and, UInt32.toNat_div, UInt8.toNat_toUInt32,
      UInt32.reduceToNat]
    exact low _ (by omega)
  · simp only [half, if_false, UInt32.toNat_and, UInt32.toNat_mod, UInt8.toNat_toUInt32,
      UInt32.reduceToNat]
    exact low _ (by omega)

/-- The run over the rest of the buffer goes on from the next nibble. -/
theorem run_nibble {src : List Byte} {g : Nat} (inside : g < 8 * src.length)
    (aligned : g % 4 = 0) (s : DState) :
    bitsStep hpack s (bitsFrom src g) =
      ((bitsStep hpack (step hpack s (nibbleAt src g inside)).1 (bitsFrom src (g + 4))).1,
        (step hpack s (nibbleAt src g inside)).2 ++
          (bitsStep hpack (step hpack s (nibbleAt src g inside)).1 (bitsFrom src (g + 4))).2) := by
  rw [bitsFrom_nibble inside aligned, bitsStep_append]
  rfl

/-- The cell the turn at `v` reads. -/
def turnCell (src : List Byte) (v : DfaVars) : Exec UInt32 := do
  let bytei := v.g / 8
  let biti := v.g % 8
  let bx ← load src bytei.toNat
  let nib := if biti = 0 then bx.toUInt32 / 16 &&& 0xFF else bx.toUInt32 % 16 &&& 0xFF
  readCell v.cur nib

/-- What the turn does with it, there being `room` for a byte or not. -/
def followCell (room : Bool) (v : DfaVars) (c : UInt32) :
    Exec (Turn DfaVars (Decoded UInt32)) := do
  let next := c / 65536
  if next = 256 then
    return .ret ⟨-1, v.written, v.dst⟩
  else
    let flag := c / 256 % 256
    if flag = 1 then
      let sym := c % 256
      if room then
        let dst ← v.dst.store v.written.toNat sym.toUInt8
        return .again ⟨dst, v.g + 4, next, v.written + 1⟩
      else
        return .ret ⟨-1, v.written, v.dst⟩
    else
      return .again { v with g := v.g + 4, cur := next }

theorem dfaBody_more {src : List Byte} {srcLen dstCap : UInt32} {v : DfaVars}
    (more : v.g ≠ 8 * srcLen) :
    dfaBody src srcLen dstCap v = turnCell src v >>= followCell (v.written < dstCap) v := by
  simp only [dfaBody, if_neg more, turnCell, bind_assoc]
  refine bind_congr fun bx => bind_congr fun c => ?_
  simp only [followCell, decide_eq_true_eq]

theorem followCell_next {room : Bool} {c : UInt32} {v v' : DfaVars}
    (turn : followCell room v c = .ok (.again v')) : v'.g = v.g + 4 := by
  unfold followCell at turn
  by_cases failed : c / 65536 = 256
  · simp [failed, pure, Except.pure] at turn
  · by_cases flag : c / 256 % 256 = 1
    · cases room with
      | false => simp [failed, flag, pure, Except.pure] at turn
      | true =>
          simp only [if_neg failed, if_pos flag, if_true] at turn
          obtain ⟨dst, -, again⟩ := exists_ok_of_bind turn
          obtain rfl := Turn.again.inj (Except.ok.inj again)
          rfl
    · simp only [if_neg failed, if_neg flag] at turn
      obtain rfl := Turn.again.inj (Except.ok.inj turn)
      rfl

/-- A turn which goes round has read a nibble and moves on to the next. -/
theorem dfaBody_next {src : List Byte} {srcLen dstCap : UInt32} {v v' : DfaVars}
    (turn : dfaBody src srcLen dstCap v = .ok (.again v')) : v.g ≠ 8 * srcLen ∧ v'.g = v.g + 4 := by
  by_cases last : v.g = 8 * srcLen
  · simp only [dfaBody, if_pos last] at turn
    obtain ⟨ok, -, again⟩ := exists_ok_of_bind turn
    cases again
  · rw [dfaBody_more last] at turn
    obtain ⟨c, -, followed⟩ := exists_ok_of_bind turn
    exact ⟨last, followCell_next followed⟩

theorem cellEmit_cases (c : UInt32) : cellEmit c = [] ∨ ∃ b, cellEmit c = [b] := by
  unfold cellEmit
  split
  · exact .inr ⟨_, rfl⟩
  · exact .inl rfl

/-- The next bit index. -/
theorem next_nibble {src : List Byte} {n g : UInt32}
    (inside : g.toNat < 8 * (src.take n.toNat).length) (small : n.toNat < 2 ^ 27) :
    (g + 4).toNat = g.toNat + 4 := by
  have bound : (src.take n.toNat).length ≤ n.toNat := List.length_take_le _ _
  simp only [UInt32.toNat_add, UInt32.reduceToNat]
  omega

/-- The cell read at a loop head is the one of the next nibble. -/
theorem turnCell_nibble {buf src : List Byte} {n : Nat} {v : DfaVars} (view : buf.take n = src)
    (inside : v.g.toNat < 8 * src.length) :
    turnCell buf v = readCell v.cur (cutNibble src[v.g.toNat / 8] v.g) := by
  subst view
  have bytei : (v.g / 8).toNat = v.g.toNat / 8 := UInt32.toNat_div v.g 8
  have byte : load buf (v.g.toNat / 8) = .ok (buf.take n)[v.g.toNat / 8] :=
    load_take (by omega)
  simp only [turnCell, bytei, byte, bind, Except.bind, cutNibble]

/-- The cell read at a loop head is the step of the automaton over the next nibble. -/
theorem turnCell_spec {buf src : List Byte} {n : Nat} {v : DfaVars} (view : buf.take n = src)
    (live : v.cur.toNat < dfaNStates) (inside : v.g.toNat < 8 * src.length) :
    ∃ c, turnCell buf v = .ok c ∧ cellNext c ≤ dfaNStates ∧
      stateOf (cellNext c) =
        (step hpack (stateOf v.cur.toNat) (nibbleAt src v.g.toNat inside)).1 ∧
      cellEmit c =
        (step hpack (stateOf v.cur.toNat) (nibbleAt src v.g.toNat inside)).2 ∧
      (cellNext c = dfaNStates → cellEmit c = []) := by
  rw [turnCell_nibble view inside]
  exact readCell_spec live (cutNibble_toNat inside)

/-- How a turn ends which read the cell `c`. -/
inductive Followed (dstCap : UInt32) (v : DfaVars) (c : UInt32) :
    Turn DfaVars (Decoded UInt32) → Prop where
  /-- The cell leads to the fail id. -/
  | failed (next : cellNext c = dfaNStates) : Followed dstCap v c (.ret ⟨-1, v.written, v.dst⟩)
  /-- There is no room for its byte. -/
  | full {b : Byte} (live : cellNext c ≠ dfaNStates) (one : cellEmit c = [b])
      (full : dstCap.toNat ≤ v.written.toNat) :
      Followed dstCap v c (.ret ⟨-1, v.written, v.dst⟩)
  /-- Its byte is stored, if it has one, and its state is the next one. -/
  | stored {written' : UInt32} (live : cellNext c ≠ dfaNStates)
      (count : written'.toNat = v.written.toNat + (cellEmit c).length)
      (fits : v.written.toNat + (cellEmit c).length ≤ dstCap.toNat) :
      Followed dstCap v c
        (.again ⟨v.dst.write v.written.toNat (cellEmit c), v.g + 4, c / 65536, written'⟩)

theorem followCell_spec {src : List Byte} {dstCap : UInt32} (v : DfaVars) (c : UInt32)
    (inv : DfaInv src dstCap v) :
    ∃ turn, followCell (v.written < dstCap) v c = .ok turn ∧ Followed dstCap v c turn := by
  have next : c / 65536 = 256 ↔ cellNext c = dfaNStates := by
    rw [next_eq_fail, cellNext_eq]
  by_cases failed : c / 65536 = 256
  · refine ⟨_, ?_, .failed (next.mp failed)⟩
    simp only [followCell, if_pos failed]
    rfl
  · have live := mt next.mpr failed
    by_cases flag : c / 256 % 256 = 1
    · have emit : cellEmit c = [(c % 256).toUInt8] := by rw [cellEmit_eq, if_pos flag]
      by_cases room : v.written < dstCap
      · have lt := UInt32.lt_iff_toNat_lt.mp room
        have stored : v.written.toNat < v.dst.bytes.length := Nat.lt_of_lt_of_le lt inv.room
        have count : (v.written + 1).toNat = v.written.toNat + (cellEmit c).length := by
          rw [emit]
          exact toNat_succ lt
        refine ⟨_, ?_, .stored live count (by rw [emit]; exact lt)⟩
        simp only [followCell, if_neg failed, if_pos flag, room, decide_true, if_true,
          Buffer.store_eq_write stored, emit]
        rfl
      · refine ⟨_, ?_, .full live emit (Nat.le_of_not_lt (mt UInt32.lt_iff_toNat_lt.mpr room))⟩
        simp only [followCell, if_neg failed, if_pos flag, room, decide_false, Bool.false_eq_true,
          if_false]
        rfl
    · have emit : cellEmit c = [] := by rw [cellEmit_eq, if_neg flag]
      have count : v.written.toNat = v.written.toNat + (cellEmit c).length := by
        rw [emit]
        rfl
      refine ⟨_, ?_, .stored live count (by rw [emit]; exact inv.written)⟩
      simp only [followCell, if_neg failed, if_neg flag, emit, Buffer.write_nil]
      rfl

/-- Going on keeps the invariant. -/
theorem DfaInv.next {src : List Byte} {n dstCap : UInt32} {v : DfaVars} {c written' : UInt32}
    (inv : DfaInv (src.take n.toNat) dstCap v)
    (inside : v.g.toNat < 8 * (src.take n.toNat).length) (small : n.toNat < 2 ^ 27)
    (live : cellNext c < dfaNStates)
    (count : written'.toNat = v.written.toNat + (cellEmit c).length)
    (fits : v.written.toNat + (cellEmit c).length ≤ dstCap.toNat) :
    DfaInv (src.take n.toNat) dstCap
      ⟨v.dst.write v.written.toNat (cellEmit c), v.g + 4, c / 65536, written'⟩ := by
  have g := next_nibble inside small
  have aligned := inv.aligned
  refine ⟨?_, ?_, ?_, ?_, ?_⟩
  · show (v.g + 4).toNat % 4 = 0
    omega
  · show (v.g + 4).toNat ≤ _
    omega
  · rwa [← cellNext_eq]
  · exact count ▸ fits
  · have kept := Buffer.length_write (Nat.le_trans fits inv.room)
    exact kept.symm ▸ inv.room

section Turn

variable {whole : List Byte} {srcLen dstCap : UInt32} {v : DfaVars}

/-- The loop ends at the last bit and answers with the accept flag. -/
theorem dfaBody_end (inv : DfaInv (whole.take srcLen.toNat) dstCap v) (last : v.g = 8 * srcLen)
    (all : v.g.toNat = 8 * (whole.take srcLen.toNat).length) :
    dfaBody whole srcLen dstCap v =
      .ok (.ret (dfaAnswer (whole.take srcLen.toNat) dstCap v)) := by
  have stop : bitsFrom (whole.take srcLen.toNat) v.g.toNat = [] :=
    bitsFrom_end (Nat.le_of_eq all.symm)
  simp only [dfaBody, if_pos last, acceptAt_spec inv.live, dfaAnswer, stop, bitsStep, decoded_end,
    UInt32.ofNat_toNat]
  rfl

/-- A turn which reads a nibble returns the answer, or leaves it to the next turn. -/
theorem dfaBody_nibble (inv : DfaInv (whole.take srcLen.toNat) dstCap v)
    (more : v.g ≠ 8 * srcLen) (inside : v.g.toNat < 8 * (whole.take srcLen.toNat).length)
    (small : srcLen.toNat < 2 ^ 27) :
    dfaBody whole srcLen dstCap v =
        .ok (.ret (dfaAnswer (whole.take srcLen.toNat) dstCap v)) ∨
      ∃ v', dfaBody whole srcLen dstCap v = .ok (.again v') ∧
        v'.g.toNat = v.g.toNat + 4 ∧ DfaInv (whole.take srcLen.toNat) dstCap v' ∧
        dfaAnswer (whole.take srcLen.toNat) dstCap v' =
          dfaAnswer (whole.take srcLen.toNat) dstCap v := by
  obtain ⟨c, cell, le, state, emit, silent⟩ := turnCell_spec rfl inv.live inside
  have run := run_nibble inside inv.aligned (stateOf v.cur.toNat)
  rw [← state, ← emit] at run
  obtain ⟨turn, done, how⟩ := followCell_spec v c inv
  have body : dfaBody whole srcLen dstCap v = .ok turn := by
    rw [dfaBody_more more, cell]
    exact done
  rw [body]
  cases how with
  | failed failed =>
      left
      have stopped : stateOf (cellNext c) = .fail := stateOf_ge (Nat.le_of_eq failed.symm)
      rw [stopped, bitsStep_fail, silent failed] at run
      simp only [dfaAnswer, run, List.append_nil, decoded_end, UInt32.ofNat_toNat]
      rfl
  | full live one full =>
      left
      rw [one, List.singleton_append] at run
      simp only [dfaAnswer, run, decoded_full _ _ _ full, UInt32.ofNat_toNat]
  | stored live count fits =>
      right
      have next := next_nibble inside small
      have lt := Nat.lt_of_le_of_ne le live
      refine ⟨_, rfl, next, inv.next inside small lt count fits, ?_⟩
      cases cellEmit_cases c with
      | inl none =>
          rw [none, List.length_nil, Nat.add_zero] at count
          rw [none, List.nil_append] at run
          simp only [dfaAnswer, none, Buffer.write_nil, count, next, run, ← cellNext_eq]
      | inr some_ =>
          obtain ⟨b, one⟩ := some_
          rw [one, List.length_singleton] at count fits
          rw [one, List.singleton_append] at run
          have stored : v.written.toNat < v.dst.bytes.length := Nat.lt_of_lt_of_le fits inv.room
          simp only [dfaAnswer, one, count, next, run, ← cellNext_eq,
            decoded_emit _ _ _ fits stored]

end Turn

/-- The bit count is exact. -/
theorem nbitTotal_toNat {n : UInt32} (small : n.toNat < 2 ^ 27) :
    (8 * n).toNat = 8 * n.toNat := by
  simp only [UInt32.toNat_mul, UInt32.reduceToNat]
  omega

/-- The loop, in closed form. -/
theorem dfaLoop_eq {src : List Byte} {srcLen dstCap : UInt32} {dst : Buffer} {fuel : Nat}
    (small : srcLen.toNat < 2 ^ 27) (enough : srcLen.toNat ≤ src.length)
    (room : dstCap.toNat ≤ dst.bytes.length) (turns : 2 * srcLen.toNat < fuel) :
    dfaLoop fuel src dst srcLen dstCap 0 0 0 =
      .ok ((answer dstCap.toNat
        (bitsStep hpack dfaInit (bytesToBits (src.take srcLen.toNat)))).decoded
          UInt32.ofNat 0 dst) := by
  have length : (src.take srcLen.toNat).length = srcLen.toNat := List.length_take_of_le enough
  have total := nbitTotal_toNat small
  have start : DfaInv (src.take srcLen.toNat) dstCap ⟨dst, 0, 0, 0⟩ :=
    ⟨rfl, Nat.zero_le _, Nat.zero_lt_succ 255, Nat.zero_le _, room⟩
  refine whileTrue.returns_answer (DfaInv (src.take srcLen.toNat) dstCap)
    (dfaAnswer (src.take srcLen.toNat) dstCap) (fun v => 2 * srcLen.toNat - v.g.toNat / 4)
    ?_ start (Nat.lt_of_le_of_lt (Nat.sub_le _ _) turns)
  intro v inv
  have le := inv.le
  by_cases last : v.g = 8 * srcLen
  · left
    exact dfaBody_end inv last (by rw [last, total, length])
  · have inside : v.g.toNat < 8 * (src.take srcLen.toNat).length := by
      have ne := mt UInt32.toNat_inj.mp last
      omega
    cases dfaBody_nibble inv last inside small with
    | inl done => exact .inl done
    | inr more =>
        obtain ⟨v', again, next, inv', same⟩ := more
        refine .inr ⟨v', again, inv', same, ?_⟩
        omega

/-- The generated decoder, in closed form. -/
theorem decodeDfa_eq {src : List Byte} {srcLen dstCap : UInt32} {dst : Buffer}
    (small : srcLen.toNat < 2 ^ 27) (enough : srcLen.toNat ≤ src.length)
    (room : dstCap.toNat ≤ dst.bytes.length) :
    decodeDfa src srcLen dst dstCap =
      .ok ((answer dstCap.toNat
        (bitsStep hpack dfaInit (bytesToBits (src.take srcLen.toNat)))).decoded
          UInt32.ofNat 0 dst) :=
  dfaLoop_eq small enough room (Nat.lt_succ_self _)

end HpackHuffman.Lowstar
