import HpackHuffman.Interface

/-! # The public C interface

The shim bridges the `size_t` interface to the generated `uint32_t` one. A `size_t` is a
natural number: the shim computes nothing with one, and compares it before it narrows it.
-/

namespace HpackHuffman

/-- Above this length the shim refuses its input. -/
def hpackHuffmanMaxLen : Nat := 2 ^ 27

def hpackHuffmanEncodeLen (src : List Byte) (len : Nat) : Exec Nat := do
  if len ≥ hpackHuffmanMaxLen then
    return 0
  else
    let n ← encodeLen src (UInt32.ofNat len)
    return n.toNat

def hpackHuffmanEncode (src : List Byte) (len : Nat) (dst : Buffer) : Exec (Nat × Buffer) := do
  if len ≥ hpackHuffmanMaxLen then
    return (0, dst)
  else
    let (r, dst) ← encode src (UInt32.ofNat len) dst
    return (r.toNat, dst)

def hpackHuffmanDecode (src : List Byte) (srcLen : Nat) (dst : Buffer) (dstCap : Nat) :
    Exec (Decoded Nat) := do
  if srcLen ≥ hpackHuffmanMaxLen then
    return ⟨-1, 0, dst⟩
  else
    let cap32 := if dstCap > 0xFFFFFFFF then 0xFFFFFFFF else UInt32.ofNat dstCap
    let res ← decode src (UInt32.ofNat srcLen) dst cap32
    return ⟨if res.rc = 0 then 0 else -1, res.outLen.toNat, res.dst⟩

section ClosedForms

variable {src : List Byte} {dst : Buffer} {dstCap : Nat}

theorem hpackHuffmanEncodeLen_eq (small : src.length < hpackHuffmanMaxLen) :
    hpackHuffmanEncodeLen src src.length = .ok (encodeBytes hpack src).length := by
  rw [hpackHuffmanEncodeLen, if_neg (Nat.not_le.mpr small), encodeLen_whole small]
  exact congrArg Except.ok (toNat_ofNat_encoded small)

theorem hpackHuffmanEncode_eq (small : src.length < hpackHuffmanMaxLen)
    (room : (encodeBytes hpack src).length ≤ dst.bytes.length) :
    hpackHuffmanEncode src src.length dst =
      .ok ((encodeBytes hpack src).length, dst.write 0 (encodeBytes hpack src)) := by
  rw [hpackHuffmanEncode, if_neg (Nat.not_le.mpr small), encode_whole small room]
  exact congrArg (fun n => Except.ok (n, _)) (toNat_ofNat_encoded small)

/-- The shim's clamp of the capacity. -/
theorem cap32_toNat :
    (if dstCap > 0xFFFFFFFF then 0xFFFFFFFF else UInt32.ofNat dstCap).toNat =
      min dstCap (2 ^ 32 - 1) := by
  by_cases large : dstCap > 0xFFFFFFFF
  · rw [if_pos large, Nat.min_eq_right (by omega)]
    rfl
  · rw [if_neg large, Nat.min_eq_left (by omega), UInt32.toNat_ofNat']
    omega

/-- A run emits at most one byte a bit, so the clamp is never felt. -/
theorem answer_cap32 (small : src.length < hpackHuffmanMaxLen) :
    answer (min dstCap (2 ^ 32 - 1)) (bitsStep hpack dfaInit (bytesToBits src)) =
      answer dstCap (bitsStep hpack dfaInit (bytesToBits src)) := by
  have emitted := length_bitsStep_le hpack dfaInit (bytesToBits src)
  rw [length_bytesToBits] at emitted
  simp only [hpackHuffmanMaxLen] at small
  cases Nat.le_total dstCap (2 ^ 32 - 1) with
  | inl le => rw [Nat.min_eq_left le]
  | inr ge =>
      rw [Nat.min_eq_right ge]
      exact answer_clamp (by omega) (by omega)

/-- The shim widens what the generated decoder returns. -/
theorem decoded_widen {a : Answer} (small : a.bytes.length < 2 ^ 32) :
    (⟨if (a.decoded UInt32.ofNat 0 dst).rc = 0 then 0 else -1,
      (a.decoded UInt32.ofNat 0 dst).outLen.toNat, (a.decoded UInt32.ofNat 0 dst).dst⟩ :
        Decoded Nat) = a.decoded id 0 dst := by
  cases accepts : a.accepted with
  | true => simpa [Answer.decoded, accepts] using small
  | false => simpa [Answer.decoded, accepts] using small

theorem hpackHuffmanDecode_eq {buf : List Byte} (view : buf.take src.length = src)
    (small : src.length < hpackHuffmanMaxLen) (room : dstCap ≤ dst.bytes.length) :
    hpackHuffmanDecode buf src.length dst dstCap =
      .ok ((answer dstCap (bitsStep hpack dfaInit (bytesToBits src))).decoded id 0 dst) := by
  have room32 : (if dstCap > 0xFFFFFFFF then 0xFFFFFFFF else UInt32.ofNat dstCap).toNat ≤
      dst.bytes.length := by
    rw [cap32_toNat]
    exact Nat.le_trans (Nat.min_le_left _ _) room
  have emitted := length_bitsStep_le hpack dfaInit (bytesToBits src)
  rw [length_bytesToBits] at emitted
  have short : (answer dstCap (bitsStep hpack dfaInit (bytesToBits src))).bytes.length <
      2 ^ 32 := by
    have kept := List.length_take_le' dstCap (bitsStep hpack dfaInit (bytesToBits src)).2
    simp only [hpackHuffmanMaxLen] at small
    simp only [answer]
    omega
  rw [hpackHuffmanDecode, if_neg (Nat.not_le.mpr small)]
  simp only [decode_front view small room32, cap32_toNat, answer_cap32 small]
  exact congrArg Except.ok (decoded_widen short)

theorem hpackHuffmanDecode_whole (small : src.length < hpackHuffmanMaxLen)
    (room : dstCap ≤ dst.bytes.length) :
    hpackHuffmanDecode src src.length dst dstCap =
      .ok ((answer dstCap (bitsStep hpack dfaInit (bytesToBits src))).decoded id 0 dst) :=
  hpackHuffmanDecode_eq List.take_length small room

end ClosedForms

/-- The public decoder is the greedy decoder with bounded room: it returns 0 and the decoded
    bytes when they are defined and fit, and -1 otherwise. -/
theorem decoder_contract {src : List Byte} {dst : Buffer} {dstCap : Nat}
    (small : src.length < 2 ^ 27) (room : dstCap ≤ dst.bytes.length) :
    ∃ res, hpackHuffmanDecode src src.length dst dstCap = .ok res ∧
      (∀ xs, decodeBits hpack (bytesToBits src) = some xs → xs.length ≤ dstCap →
        res.rc = 0 ∧ res.outLen = xs.length ∧ res.dst.bytes.take xs.length = xs) ∧
      ((∀ xs, decodeBits hpack (bytesToBits src) = some xs → dstCap < xs.length) →
        res.rc = -1) := by
  refine ⟨_, hpackHuffmanDecode_whole small room, ?_, decoded_of_rejected⟩
  intro xs spec fits
  rw [decoded_of_accepted spec fits]
  exact ⟨rfl, rfl, dst.take_write_front xs⟩

theorem decoder_contract_a :
    ∃ res, hpackHuffmanDecode [31] 1 (Buffer.ofBytes [7, 7]) 2 = .ok res ∧
      (∀ xs, decodeBits hpack (bytesToBits [31]) = some xs → xs.length ≤ 2 →
        res.rc = 0 ∧ res.outLen = xs.length ∧ res.dst.bytes.take xs.length = xs) ∧
      ((∀ xs, decodeBits hpack (bytesToBits [31]) = some xs → 2 < xs.length) → res.rc = -1) :=
  decoder_contract (by decide) (by decide)

theorem hpackHuffmanDecode_overlong {src : List Byte} {srcLen dstCap : Nat} {dst : Buffer}
    (long : hpackHuffmanMaxLen ≤ srcLen) :
    hpackHuffmanDecode src srcLen dst dstCap = .ok ⟨-1, 0, dst⟩ := if_pos long

/-- The public encoder outputs the bytes the codes fill. The public decoder takes back every such
    output of up to `8 * (hpackHuffmanMaxLen - 1)` bits, and its guard refuses every other. -/
theorem public_round_trip {x : List Byte} {enc dec : Buffer} {dstCap : Nat}
    (small : x.length < hpackHuffmanMaxLen)
    (encRoom : (encodeBits hpack x).length ≤ 8 * enc.bytes.length)
    (fits : x.length ≤ dstCap) (decRoom : dstCap ≤ dec.bytes.length) :
    ∃ r enc', hpackHuffmanEncode x x.length enc = .ok (r, enc') ∧
      r = ((encodeBits hpack x).length + 7) / 8 ∧
      ((encodeBits hpack x).length ≤ 8 * (hpackHuffmanMaxLen - 1) →
        r < hpackHuffmanMaxLen ∧
          ∃ res, hpackHuffmanDecode enc'.bytes r dec dstCap = .ok res ∧
            res.rc = 0 ∧ res.outLen = x.length ∧ res.dst.bytes.take x.length = x) ∧
      (8 * (hpackHuffmanMaxLen - 1) < (encodeBits hpack x).length →
        hpackHuffmanMaxLen ≤ r ∧
          hpackHuffmanDecode enc'.bytes r dec dstCap = .ok ⟨-1, 0, dec⟩) := by
  have size := length_encodeBytes hpack x
  have bound : hpackHuffmanMaxLen = 2 ^ 27 := rfl
  refine ⟨_, _, hpackHuffmanEncode_eq small (by omega), size, ?_, ?_⟩
  · intro inside
    have short : (encodeBytes hpack x).length < hpackHuffmanMaxLen := by omega
    have spec := (rfcCode_hpack.decodeBits_bytes_iff x (encodeBytes hpack x)).mpr rfl
    have run := hpackHuffmanDecode_eq (enc.take_write_front _) short decRoom
    rw [decoded_of_accepted spec fits] at run
    exact ⟨short, _, run, rfl, rfl, dec.take_write_front x⟩
  · intro outside
    have long : hpackHuffmanMaxLen ≤ (encodeBytes hpack x).length := by omega
    exact ⟨long, hpackHuffmanDecode_overlong long⟩

theorem public_round_trip_a :
    ∃ r enc', hpackHuffmanEncode [97] 1 (Buffer.ofBytes [7]) = .ok (r, enc') ∧
      r = ((encodeBits hpack [97]).length + 7) / 8 ∧
      ((encodeBits hpack [97]).length ≤ 8 * (hpackHuffmanMaxLen - 1) →
        r < hpackHuffmanMaxLen ∧
          ∃ res, hpackHuffmanDecode enc'.bytes r (Buffer.ofBytes [7, 7]) 2 = .ok res ∧
            res.rc = 0 ∧ res.outLen = 1 ∧ res.dst.bytes.take 1 = [97]) ∧
      (8 * (hpackHuffmanMaxLen - 1) < (encodeBits hpack [97]).length →
        hpackHuffmanMaxLen ≤ r ∧
          hpackHuffmanDecode enc'.bytes r (Buffer.ofBytes [7, 7]) 2 =
            .ok ⟨-1, 0, Buffer.ofBytes [7, 7]⟩) :=
  public_round_trip (by decide) (by decide +kernel) (by decide) (by decide)

theorem length_encodeBits_newlines (n : Nat) :
    (encodeBits hpack (List.replicate n 10)).length = 30 * n := by
  have newline : (codeBitsOf hpack (Sym.ofByte 10)).length = 30 := by decide +kernel
  induction n with
  | zero => rfl
  | succ n ih =>
      rw [List.replicate_succ, encodeBits, List.length_append, newline, ih]
      omega

/-- An output may be longer than the decoder accepts: a newline has a 30-bit code. -/
theorem encoder_leaves_domain :
    ∃ r enc', (List.replicate (2 ^ 27 - 1) (10 : Byte)).length < hpackHuffmanMaxLen ∧
      hpackHuffmanEncode (List.replicate (2 ^ 27 - 1) 10) (2 ^ 27 - 1)
        (Buffer.ofBytes (List.replicate (2 ^ 29) 0)) = .ok (r, enc') ∧
      hpackHuffmanMaxLen ≤ r ∧
      ∀ dec dstCap, hpackHuffmanDecode enc'.bytes r dec dstCap = .ok ⟨-1, 0, dec⟩ := by
  have count : (List.replicate (2 ^ 27 - 1) (10 : Byte)).length = 2 ^ 27 - 1 :=
    List.length_replicate
  have room : (Buffer.ofBytes (List.replicate (2 ^ 29) 0)).bytes.length = 2 ^ 29 :=
    List.length_replicate
  have bits := length_encodeBits_newlines (2 ^ 27 - 1)
  have size := length_encodeBytes hpack (List.replicate (2 ^ 27 - 1) 10)
  have small : (List.replicate (2 ^ 27 - 1) (10 : Byte)).length < hpackHuffmanMaxLen := by
    rw [count, hpackHuffmanMaxLen]
    omega
  have run := hpackHuffmanEncode_eq small (by rw [room]; omega)
  have long : hpackHuffmanMaxLen ≤
      (encodeBytes hpack (List.replicate (2 ^ 27 - 1) 10)).length := by
    rw [hpackHuffmanMaxLen]
    omega
  rw [count] at run
  exact ⟨_, _, small, run, long, fun dec dstCap => hpackHuffmanDecode_overlong long⟩

/-- Padding of eight ones or more, an EOS code and a tail which holds no code are rejected
    wherever they stand. -/
theorem decoder_rejects {src xs : List Byte} {t : List Bool} {dst : Buffer} {dstCap : Nat}
    (small : src.length < 2 ^ 27) (room : dstCap ≤ dst.bytes.length)
    (bits : bytesToBits src = encodeBits hpack xs ++ t)
    (malformed : (∃ m, 8 ≤ m ∧ t = List.replicate m true) ∨
      codeBitsOf hpack eosIndex <+: t ∨
      (t ≠ [] ∧ (¬ ∀ b ∈ t, b = true) ∧ ∀ s, ¬ codeBitsOf hpack s <+: t)) :
    ∃ res, hpackHuffmanDecode src src.length dst dstCap = .ok res ∧ res.rc = -1 := by
  have none : decodeBits hpack (bytesToBits src) = none := by
    rw [bits]
    rcases malformed with ⟨m, long, rfl⟩ | ⟨rest, rfl⟩ | ⟨-, zero, stuck⟩
    · exact reject_long_padding xs long
    · exact reject_eos xs rest
    · exact reject_no_codeword xs (by simpa using zero) stuck
  refine ⟨_, hpackHuffmanDecode_whole small room, decoded_of_rejected ?_⟩
  intro ys spec
  simp [none] at spec

/-- After the letter `a`, a tail of eleven ones. -/
theorem decoder_rejects_ones :
    ∃ res, hpackHuffmanDecode [31, 255] 2 (Buffer.ofBytes [7, 7]) 2 = .ok res ∧ res.rc = -1 :=
  @decoder_rejects [31, 255] [97] (List.replicate 11 true) (Buffer.ofBytes [7, 7]) 2 (by decide)
    (by decide) (by decide +kernel) (.inl ⟨11, by decide, rfl⟩)

end HpackHuffman
