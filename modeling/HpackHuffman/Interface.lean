import HpackHuffman.Lowstar.Decode
import HpackHuffman.Lowstar.Codec

/-! # The generated entry points

The three functions the generated C exports, and the contracts they keep together: the round
trip, the content of an encoding, and its canonicity.
-/

namespace HpackHuffman

def encodeLen (src : List Byte) (len : UInt32) : Exec UInt32 := Lowstar.encodeLen src len

def encode (src : List Byte) (len : UInt32) (dst : Buffer) : Exec (UInt32 × Buffer) :=
  Lowstar.encode src len dst

def decode (src : List Byte) (srcLen : UInt32) (dst : Buffer) (dstCap : UInt32) :
    Exec (Decoded UInt32) :=
  Lowstar.decodeDfa src srcLen dst dstCap

section Whole

variable {src : List Byte} {dst : Buffer} {dstCap : UInt32}

theorem encodeLen_whole (small : src.length < 2 ^ 27) :
    encodeLen src (UInt32.ofNat src.length) =
      .ok (UInt32.ofNat (encodeBytes hpack src).length) :=
  Lowstar.encodeLen_eq (take_whole small) (toNat_ofNat_small small).symm
    (by rwa [toNat_ofNat_small small])

theorem encode_whole (small : src.length < 2 ^ 27)
    (room : (encodeBytes hpack src).length ≤ dst.bytes.length) :
    encode src (UInt32.ofNat src.length) dst =
      .ok (UInt32.ofNat (encodeBytes hpack src).length, dst.write 0 (encodeBytes hpack src)) :=
  Lowstar.encode_eq (take_whole small) (toNat_ofNat_small small).symm
    (by rwa [toNat_ofNat_small small]) room

/-- The encoding of a string in the domain has a `uint32_t` length. -/
theorem toNat_ofNat_encoded (small : src.length < 2 ^ 27) :
    (UInt32.ofNat (encodeBytes hpack src).length).toNat = (encodeBytes hpack src).length := by
  have size := length_encodeBytes hpack src
  have le := rfcCode_hpack.length_encodeBits_le src
  rw [UInt32.toNat_ofNat']
  omega

/-- Decoding the bytes at the front of a buffer. -/
theorem decode_front {buf : List Byte} (view : buf.take src.length = src)
    (small : src.length < 2 ^ 27) (room : dstCap.toNat ≤ dst.bytes.length) :
    decode buf (UInt32.ofNat src.length) dst dstCap =
      .ok ((answer dstCap.toNat (bitsStep hpack dfaInit (bytesToBits src))).decoded
        UInt32.ofNat 0 dst) := by
  have length := toNat_ofNat_small small
  have enough : src.length ≤ buf.length := by
    rw [← view]
    exact List.length_take_le' _ _
  rw [decode, Lowstar.decodeDfa_eq (by rwa [length]) (by rwa [length]) room, length, view]

theorem decode_whole (small : src.length < 2 ^ 27) (room : dstCap.toNat ≤ dst.bytes.length) :
    decode src (UInt32.ofNat src.length) dst dstCap =
      .ok ((answer dstCap.toNat (bitsStep hpack dfaInit (bytesToBits src))).decoded
        UInt32.ofNat 0 dst) :=
  decode_front List.take_length small room

end Whole

/-- Encoding and decoding again recovers the input, in buffers of any content and any
    sufficient size. -/
theorem round_trip_c {src : List Byte} {enc dec : Buffer} {n dstCap : UInt32}
    (small : src.length < 2 ^ 27) (size : encodeLen src (UInt32.ofNat src.length) = .ok n)
    (sizeSmall : n.toNat < 2 ^ 27) (encRoom : n.toNat ≤ enc.bytes.length)
    (fits : src.length ≤ dstCap.toNat) (decRoom : dstCap.toNat ≤ dec.bytes.length) :
    ∃ r enc' res, encode src (UInt32.ofNat src.length) enc = .ok (r, enc') ∧
      decode enc'.bytes r dec dstCap = .ok res ∧ res.rc = 0 ∧
      res.outLen = UInt32.ofNat src.length ∧ res.dst.bytes.take src.length = src := by
  rw [encodeLen_whole small, Except.ok.injEq] at size
  subst size
  have length := toNat_ofNat_encoded small
  rw [length] at sizeSmall encRoom
  have view := enc.take_write_front (encodeBytes hpack src)
  have spec := (rfcCode_hpack.decodeBits_bytes_iff src (encodeBytes hpack src)).mpr rfl
  have run := decode_front view sizeSmall decRoom
  rw [decoded_of_accepted spec fits] at run
  exact ⟨_, _, _, encode_whole small encRoom, run, rfl, rfl, dec.take_write_front src⟩

/-- One `a`, through buffers with other content. -/
theorem round_trip_c_a :
    ∃ r enc' res, encode [97] (UInt32.ofNat 1) (Buffer.ofBytes [7]) = .ok (r, enc') ∧
      decode enc'.bytes r (Buffer.ofBytes [1, 2]) 2 = .ok res ∧ res.rc = 0 ∧
      res.outLen = UInt32.ofNat 1 ∧ res.dst.bytes.take 1 = [97] :=
  round_trip_c (n := 1) (by decide) (by decide +kernel) (by decide) (by decide) (by decide)
    (by decide)

/-- An encoding is the code stream and the ones which complete its last byte. -/
theorem encode_content {src : List Byte} {dst : Buffer} (small : src.length < 2 ^ 27)
    (room : (encodeBits hpack src).length ≤ 8 * dst.bytes.length) :
    ∃ r dst' k, encode src (UInt32.ofNat src.length) dst = .ok (r, dst') ∧
      bytesToBits (dst'.bytes.take r.toNat) = encodeBits hpack src ++ List.replicate k true ∧
      k ≤ 7 ∧ ((encodeBits hpack src).length + k) % 8 = 0 ∧
      ∀ j ≤ 7, ((encodeBits hpack src).length + j) % 8 = 0 → j = k := by
  have size := length_encodeBytes hpack src
  refine ⟨_, _, padLen (encodeBits hpack src).length, encode_whole small (by omega), ?_,
    padLen_le _, padLen_whole _, fun j => padLen_unique⟩
  rw [toNat_ofNat_encoded small, Buffer.take_write_front]
  exact bytesToBits_encodeBytes hpack src

theorem encode_content_a :
    ∃ r dst' k, encode [97] (UInt32.ofNat 1) (Buffer.ofBytes [7]) = .ok (r, dst') ∧
      bytesToBits (dst'.bytes.take r.toNat) = encodeBits hpack [97] ++ List.replicate k true ∧
      k ≤ 7 ∧ ((encodeBits hpack [97]).length + k) % 8 = 0 ∧
      ∀ j ≤ 7, ((encodeBits hpack [97]).length + j) % 8 = 0 → j = k :=
  encode_content (by decide) (by decide +kernel)

/-- The decoder takes the byte string `s` to `xs`, in some buffer. -/
def DecodesTo (s xs : List Byte) : Prop :=
  ∃ (dst : Buffer) (dstCap : UInt32) (res : Decoded UInt32), dstCap.toNat ≤ dst.bytes.length ∧
    decode s (UInt32.ofNat s.length) dst dstCap = .ok res ∧ res.rc = 0 ∧
    res.dst.bytes.take res.outLen.toNat = xs

/-- The encoder outputs `s` for `xs`, into some buffer of the size its contract asks for. -/
def EncodesTo (xs s : List Byte) : Prop :=
  ∃ (dst dst' : Buffer) (r : UInt32), 4 * xs.length + 1 ≤ dst.bytes.length ∧
    encode xs (UInt32.ofNat xs.length) dst = .ok (r, dst') ∧ dst'.bytes.take r.toNat = s

/-- An accepting run decodes the encoding of what it leaves in the buffer. -/
theorem decode_accepted {s : List Byte} {dst : Buffer} {dstCap : UInt32} {res : Decoded UInt32}
    (small : s.length < 2 ^ 27) (room : dstCap.toNat ≤ dst.bytes.length)
    (run : decode s (UInt32.ofNat s.length) dst dstCap = .ok res) (rc : res.rc = 0) :
    ∃ xs, s = encodeBytes hpack xs ∧ res.dst = dst.write 0 xs ∧
      res.outLen = UInt32.ofNat xs.length ∧ res.outLen.toNat = xs.length := by
  rw [decode_whole small room, Except.ok.injEq] at run
  subst run
  obtain ⟨xs, spec, fits⟩ := accepted_of_decoded rc
  have length : (UInt32.ofNat xs.length).toNat = xs.length := by
    have := dstCap.toNat_lt
    rw [UInt32.toNat_ofNat']
    omega
  rw [decoded_of_accepted spec fits]
  exact ⟨xs, (rfcCode_hpack.decodeBits_bytes_iff xs s).mp spec, rfl, rfl, length⟩

theorem DecodesTo.eq {s xs : List Byte} (small : s.length < 2 ^ 27) (decodes : DecodesTo s xs) :
    s = encodeBytes hpack xs := by
  obtain ⟨dst, dstCap, res, room, run, rc, rfl⟩ := decodes
  obtain ⟨xs, encoded, written, -, length⟩ := decode_accepted small room run rc
  rw [written, length, Buffer.take_write_front]
  exact encoded

theorem decodesTo_encodeBytes {xs : List Byte} (small : (encodeBytes hpack xs).length < 2 ^ 27)
    (short : xs.length < 2 ^ 27) : DecodesTo (encodeBytes hpack xs) xs := by
  have length := toNat_ofNat_small short
  have spec := (rfcCode_hpack.decodeBits_bytes_iff xs (encodeBytes hpack xs)).mpr rfl
  have room : (UInt32.ofNat xs.length).toNat ≤ (Buffer.ofBytes xs).bytes.length :=
    Nat.le_of_eq length
  have run := decode_whole small room
  rw [decoded_of_accepted spec (Nat.le_of_eq length.symm)] at run
  refine ⟨_, _, _, room, run, rfl, ?_⟩
  rw [length, Buffer.take_write_front]

theorem encodesTo_iff {xs s : List Byte} (short : xs.length < 2 ^ 27) :
    EncodesTo xs s ↔ s = encodeBytes hpack xs := by
  have size := length_encodeBytes hpack xs
  have le := rfcCode_hpack.length_encodeBits_le xs
  have length := toNat_ofNat_encoded short
  constructor
  · rintro ⟨dst, dst', r, room, run, rfl⟩
    rw [encode_whole short (by omega), Except.ok.injEq, Prod.mk.injEq] at run
    obtain ⟨rfl, rfl⟩ := run
    rw [length, Buffer.take_write_front]
  · rintro rfl
    have wide : 4 * xs.length + 1 ≤ (List.replicate (4 * xs.length + 1) (0 : Byte)).length := by
      rw [List.length_replicate]
    refine ⟨Buffer.ofBytes (List.replicate (4 * xs.length + 1) 0), _, _, wide,
      encode_whole short ?_, ?_⟩
    · exact Nat.le_trans (by omega) wide
    · rw [length, Buffer.take_write_front]

/-- Encoding undoes decoding on every accepted string; so no two accepted strings decode to
    the same bytes, and the accepted strings are the outputs of the encoder. -/
theorem encode_undoes_decode {src : List Byte} (small : src.length < 2 ^ 27) :
    (∀ (dst : Buffer) (dstCap : UInt32) (res : Decoded UInt32),
      dstCap.toNat ≤ dst.bytes.length →
      decode src (UInt32.ofNat src.length) dst dstCap = .ok res → res.rc = 0 →
      res.outLen.toNat < 2 ^ 27 →
      ∀ enc : Buffer, src.length ≤ enc.bytes.length →
        encode (res.dst.bytes.take res.outLen.toNat) res.outLen enc =
          .ok (UInt32.ofNat src.length, enc.write 0 src)) ∧
    (∀ src' xs, src'.length < 2 ^ 27 → DecodesTo src xs → DecodesTo src' xs → src' = src) ∧
    ((∃ xs, xs.length < 2 ^ 27 ∧ DecodesTo src xs) ↔
      ∃ xs, xs.length < 2 ^ 27 ∧ EncodesTo xs src) := by
  refine ⟨?_, ?_, ?_, ?_⟩
  · intro dst dstCap res room run rc short enc encRoom
    obtain ⟨xs, rfl, written, outLen, length⟩ := decode_accepted small room run rc
    rw [length] at short
    rw [written, length, Buffer.take_write_front, outLen]
    exact encode_whole short encRoom
  · intro src' xs small' decodes decodes'
    exact (decodes'.eq small').trans (decodes.eq small).symm
  · rintro ⟨xs, short, decodes⟩
    exact ⟨xs, short, (encodesTo_iff short).mpr (decodes.eq small)⟩
  · rintro ⟨xs, short, encodes⟩
    obtain rfl := (encodesTo_iff short).mp encodes
    exact ⟨xs, short, decodesTo_encodeBytes small short⟩

theorem encode_undoes_decode_a :
    encode [97] 1 (Buffer.ofBytes [7]) = .ok (1, (Buffer.ofBytes [7]).write 0 [31]) :=
  (@encode_undoes_decode [31] (by decide)).1 (Buffer.ofBytes [0]) 1
    ⟨0, 1, (Buffer.ofBytes [0]).write 0 [97]⟩ (by decide) (by decide +kernel) rfl (by decide)
    (Buffer.ofBytes [7]) (by decide)

end HpackHuffman
