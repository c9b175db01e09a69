import HpackHuffman.Spec.Decode
import HpackHuffman.Refine.Answer
import HpackHuffman.Refine.Reference
import HpackHuffman.Shim

/-! # The reference decoder

The decoder which the generated one replaced, and the agreement of the two on every input. It
checks its capacity before it checks for failure, and tests acceptance on the flags of the last
transition taken.
-/

namespace HpackHuffman.Reference

structure RefState where
  dst : Buffer
  state : UInt16
  flags : UInt8
  written : Nat

/-- The half of the loop body which follows one nibble. -/
def refNibble (dstCap : Nat) (nib : UInt8) (v : RefState) :
    Exec (Turn RefState (Decoded Nat)) := do
  let row ← load huffDecodeTable v.state.toNat
  let e ← load row nib.toNat
  let state := e.fstate
  let flags := e.flags
  if flags &&& huffSym ≠ 0 then
    if v.written ≥ dstCap then
      return .ret ⟨-1, v.written, v.dst⟩
    else
      let dst ← v.dst.store v.written e.sym
      let written := v.written + 1
      if state = huffFailState then
        return .ret ⟨-1, written, dst⟩
      else
        return .again ⟨dst, state, flags, written⟩
  else if state = huffFailState then
    return .ret ⟨-1, v.written, v.dst⟩
  else
    return .again ⟨v.dst, state, flags, v.written⟩

structure RefVars where
  i : Nat
  cur : RefState

def refBody (src : List Byte) (srcLen dstCap : Nat) (v : RefVars) :
    Exec (Turn RefVars (Decoded Nat)) := do
  if v.i < srcLen then
    let byte ← load src v.i
    match ← refNibble dstCap (byte >>> 4) v.cur with
    | .ret r => return .ret r
    | .again cur =>
        match ← refNibble dstCap (byte &&& 0x0F) cur with
        | .ret r => return .ret r
        | .again cur => return .again ⟨v.i + 1, cur⟩
  else if v.cur.flags &&& huffAccepted = 0 then
    return .ret ⟨-1, v.cur.written, v.cur.dst⟩
  else
    return .ret ⟨0, v.cur.written, v.cur.dst⟩

def refHpackHuffmanDecode (src : List Byte) (srcLen : Nat) (dst : Buffer) (dstCap : Nat) :
    Exec (Decoded Nat) :=
  whileTrue (refBody src srcLen dstCap) (srcLen + 1) ⟨0, dst, 0, huffAccepted, 0⟩

/-- What holds between two nibbles, with the automaton in state `s`. -/
structure RefInv (s : DState) (dstCap : Nat) (v : RefState) : Prop where
  at_ : RefAt s v.state
  live : s ≠ .fail
  accepted : v.flags &&& huffAccepted ≠ 0 ↔ isAccepting s = true
  written : v.written ≤ dstCap
  room : dstCap ≤ v.dst.bytes.length

/-- The result still to come over the bits left. -/
def refAnswer (bits : List Bool) (s : DState) (dstCap : Nat) (v : RefState) : Decoded Nat :=
  (answer (dstCap - v.written) (bitsStep hpack s bits)).decoded id v.written v.dst

/-- The failure check which ends a nibble, with what was emitted already stored. -/
theorem settle {s : DState} {dstCap : Nat} {v : RefState} (at_ : RefAt s v.state)
    (accepted : v.flags &&& huffAccepted ≠ 0 ↔ isAccepting s = true)
    (written : v.written ≤ dstCap) (room : dstCap ≤ v.dst.bytes.length) (rest : List Bool) :
    (v.state = huffFailState ∧ refAnswer rest s dstCap v = ⟨-1, v.written, v.dst⟩) ∨
      (v.state ≠ huffFailState ∧ RefInv s dstCap v) := by
  by_cases failed : v.state = huffFailState
  · left
    obtain rfl := at_.fail_iff.mp failed
    rw [refAnswer, bitsStep_fail, decoded_end]
    exact ⟨failed, rfl⟩
  · exact .inr ⟨failed, at_, mt at_.fail_iff.mpr failed, accepted, written, room⟩

theorem refNibble_spec {s : DState} {dstCap : Nat} {v : RefState} {n : Nibble} {nib : UInt8}
    (inv : RefInv s dstCap v) (nibble : nib.toNat = n.val) (rest : List Bool) :
    refNibble dstCap nib v = .ok (.ret (refAnswer (nibbleBits n ++ rest) s dstCap v)) ∨
      ∃ s' v', refNibble dstCap nib v = .ok (.again v') ∧ RefInv s' dstCap v' ∧
        refAnswer rest s' dstCap v' = refAnswer (nibbleBits n ++ rest) s dstCap v := by
  obtain ⟨row, e, foundRow, found, next, emit, flag⟩ := ref_table_ok inv.at_ inv.live n
  have run := bitsStep_append hpack s (nibbleBits n) rest
  change bitsStep hpack s (nibbleBits n ++ rest) =
    ((bitsStep hpack (step hpack s n).1 rest).1,
      (step hpack s n).2 ++ (bitsStep hpack (step hpack s n).1 rest).2) at run
  rw [← emit] at run
  have readRow : load huffDecodeTable v.state.toNat = .ok row := by rw [load, foundRow]
  have read : load row nib.toNat = .ok e := by rw [load, nibble, found]
  rw [refNibble, readRow]
  simp only [read, bind, Except.bind]
  by_cases sym : e.flags &&& huffSym ≠ 0
  · simp only [refEmit, if_pos sym, List.singleton_append] at run ⊢
    by_cases full : v.written ≥ dstCap
    · left
      rw [if_pos full, refAnswer, run, decoded_full _ _ _ full]
      rfl
    · have fits := Nat.lt_of_not_le full
      have inside := Nat.lt_of_lt_of_le fits inv.room
      have kept : (v.dst.write v.written [e.sym]).bytes.length = v.dst.bytes.length :=
        Buffer.length_write inside
      have same : refAnswer rest (step hpack s n).1 dstCap
          ⟨v.dst.write v.written [e.sym], e.fstate, e.flags, v.written + 1⟩ =
            refAnswer (nibbleBits n ++ rest) s dstCap v := by
        rw [refAnswer, refAnswer, run]
        exact decoded_emit _ _ _ fits inside
      simp only [if_neg full, Buffer.store_eq_write inside]
      cases settle (v := ⟨v.dst.write v.written [e.sym], e.fstate, e.flags, v.written + 1⟩)
        next flag fits (kept.symm ▸ inv.room) rest with
      | inl stops =>
          left
          rw [if_pos stops.1, ← same, stops.2]
          rfl
      | inr goes =>
          right
          rw [if_neg goes.1]
          exact ⟨_, _, rfl, goes.2, same⟩
  · simp only [refEmit, if_neg sym, List.nil_append] at run ⊢
    have same : refAnswer rest (step hpack s n).1 dstCap
        ⟨v.dst, e.fstate, e.flags, v.written⟩ = refAnswer (nibbleBits n ++ rest) s dstCap v := by
      rw [refAnswer, refAnswer, run]
    cases settle (v := ⟨v.dst, e.fstate, e.flags, v.written⟩) next flag inv.written inv.room rest
    with
    | inl stops =>
        left
        rw [if_pos stops.1, ← same, stops.2]
        rfl
    | inr goes =>
        right
        rw [if_neg goes.1]
        exact ⟨_, _, rfl, goes.2, same⟩

theorem high_nibble (b : Byte) : (b >>> 4).toNat = b.toNat / 16 := by
  rw [UInt8.toNat_shiftRight]
  exact Nat.shiftRight_eq_div_pow _ 4

theorem low_nibble (b : Byte) : (b &&& 0x0F).toNat = b.toNat % 16 := by
  rw [UInt8.toNat_and]
  exact Nat.and_two_pow_sub_one_eq_mod _ 4

/-- The two nibbles of a byte are its eight bits. -/
theorem bitsFrom_byte {src : List Byte} {i : Nat} (inside : i < src.length) :
    ∃ hi lo : Nibble, (src[i] >>> 4).toNat = hi.val ∧ (src[i] &&& 0x0F).toNat = lo.val ∧
      bitsFrom src (8 * i) = nibbleBits hi ++ (nibbleBits lo ++ bitsFrom src (8 * (i + 1))) := by
  have first : 8 * i < 8 * src.length := by omega
  have second : 8 * i + 4 < 8 * src.length := by omega
  have byte₁ : 8 * i / 8 = i := by omega
  have byte₂ : (8 * i + 4) / 8 = i := by omega
  refine ⟨nibbleAt src (8 * i) first, nibbleAt src (8 * i + 4) second, ?_, ?_, ?_⟩
  · have high : 8 * i % 8 = 0 := by omega
    simp only [high_nibble, nibbleAt, high, if_true, byte₁]
  · have low : (8 * i + 4) % 8 ≠ 0 := by omega
    simp only [low_nibble, nibbleAt, low, if_false, byte₂]
  · rw [bitsFrom_nibble first (by omega), bitsFrom_nibble second (by omega)]
    rfl

/-- A turn of the loop follows the two nibbles of a byte. -/
theorem refBody_byte {src : List Byte} {dstCap : Nat} {v : RefVars} {s : DState}
    (inside : v.i < src.length) (inv : RefInv s dstCap v.cur) :
    refBody src src.length dstCap v =
        .ok (.ret (refAnswer (bitsFrom src (8 * v.i)) s dstCap v.cur)) ∨
      ∃ s' cur', refBody src src.length dstCap v = .ok (.again ⟨v.i + 1, cur'⟩) ∧
        RefInv s' dstCap cur' ∧ refAnswer (bitsFrom src (8 * (v.i + 1))) s' dstCap cur' =
          refAnswer (bitsFrom src (8 * v.i)) s dstCap v.cur := by
  obtain ⟨hi, lo, high, low, bits⟩ := bitsFrom_byte inside
  rw [refBody, if_pos inside, load_of_lt inside, bits]
  simp only [bind, Except.bind]
  cases refNibble_spec inv high (nibbleBits lo ++ bitsFrom src (8 * (v.i + 1))) with
  | inl done =>
      left
      simp only [done]
      rfl
  | inr more =>
      obtain ⟨s', cur', again, inv', same'⟩ := more
      simp only [again]
      cases refNibble_spec inv' low (bitsFrom src (8 * (v.i + 1))) with
      | inl done =>
          left
          simp only [done, same']
          rfl
      | inr more =>
          obtain ⟨s'', cur'', again', inv'', same''⟩ := more
          right
          simp only [again']
          exact ⟨s'', cur'', rfl, inv'', same''.trans same'⟩

theorem refBody_end {src : List Byte} {dstCap : Nat} {v : RefVars} {s : DState}
    (last : v.i = src.length) (inv : RefInv s dstCap v.cur) :
    refBody src src.length dstCap v =
      .ok (.ret (refAnswer (bitsFrom src (8 * v.i)) s dstCap v.cur)) := by
  have stop : bitsFrom src (8 * v.i) = [] := bitsFrom_end (by rw [last])
  have accepted := inv.accepted
  rw [refBody, if_neg (by rw [last]; exact Nat.lt_irrefl _), stop, refAnswer, bitsStep,
    decoded_end]
  cases accepts : isAccepting s with
  | true =>
      rw [if_neg (accepted.mpr accepts)]
      rfl
  | false =>
      rw [if_pos (by simpa [accepts] using accepted)]
      rfl

/-- The reference decoder, in closed form. -/
theorem refHpackHuffmanDecode_eq {src : List Byte} {dst : Buffer} {dstCap : Nat}
    (room : dstCap ≤ dst.bytes.length) :
    refHpackHuffmanDecode src src.length dst dstCap =
      .ok ((answer dstCap (bitsStep hpack dfaInit (bytesToBits src))).decoded id 0 dst) := by
  have accepted : huffAccepted &&& huffAccepted ≠ 0 ↔ isAccepting dfaInit = true := by decide
  have start : RefInv dfaInit dstCap ⟨dst, 0, huffAccepted, 0⟩ :=
    ⟨RefAt.init, DState.noConfusion, accepted, Nat.zero_le _, room⟩
  refine whileTrue.returns_answer
    (fun v : RefVars => v.i ≤ src.length ∧ ∃ s, RefInv s dstCap v.cur ∧
      refAnswer (bitsFrom src (8 * v.i)) s dstCap v.cur =
        refAnswer (bytesToBits src) dfaInit dstCap ⟨dst, 0, huffAccepted, 0⟩)
    (fun _ => refAnswer (bytesToBits src) dfaInit dstCap ⟨dst, 0, huffAccepted, 0⟩)
    (fun v => src.length - v.i) ?_ ⟨Nat.zero_le _, dfaInit, start, rfl⟩
    (Nat.lt_succ_of_le (Nat.sub_le _ _))
  rintro v ⟨le, s, inv, same⟩
  rw [← same]
  cases Nat.eq_or_lt_of_le le with
  | inl last => exact .inl (refBody_end last inv)
  | inr inside =>
      cases refBody_byte inside inv with
      | inl done => exact .inl done
      | inr more =>
          obtain ⟨s', cur', again, inv', same'⟩ := more
          refine .inr ⟨_, again, ⟨inside, s', inv', same'⟩, rfl, ?_⟩
          simp only
          omega

/-- The generated decoder and the nghttp2 state machine it replaced give the same return code,
    the same `*out_len` and the same buffer on every input. -/
theorem decoders_agree {src : List Byte} {dst : Buffer} {dstCap : Nat}
    (small : src.length < 2 ^ 27) (room : dstCap ≤ dst.bytes.length) :
    ∃ res, hpackHuffmanDecode src src.length dst dstCap = .ok res ∧
      refHpackHuffmanDecode src src.length dst dstCap = .ok res :=
  ⟨_, hpackHuffmanDecode_whole small room, refHpackHuffmanDecode_eq room⟩

/-- Two letters `a` in a buffer with room for one. -/
theorem decoders_agree_full :
    ∃ res, hpackHuffmanDecode [24, 255] 2 (Buffer.ofBytes [7]) 1 = .ok res ∧
      refHpackHuffmanDecode [24, 255] 2 (Buffer.ofBytes [7]) 1 = .ok res :=
  decoders_agree (by decide) (by decide)

end HpackHuffman.Reference
