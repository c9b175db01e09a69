import HpackHuffman.Interface

/-! # Joining encodings

An encoding ends on a whole byte, so two of them can be joined. The result is an encoding
again exactly when the first one needed no padding; otherwise no decoder skips it.
-/

namespace HpackHuffman

/-- The buffer the encoder's contract asks for holds the encoding. -/
theorem encode_room {x : List Byte} {n : Nat} (room : 4 * x.length + 1 ≤ n) :
    (encodeBytes hpack x).length ≤ n := by
  have size := length_encodeBytes hpack x
  have bits := rfcCode_hpack.length_encodeBits_le x
  omega

/-- The encodings of `x` and `y`, joined, are the encoding of `x ++ y` exactly when `y` is empty
    or the codes of `x` fill whole bytes; where they are not, they never decode to `x ++ y`. -/
theorem concatenation {x y : List Byte} {bufX bufY bufXY : Buffer}
    (small : x.length + y.length < 2 ^ 27) (roomX : 4 * x.length + 1 ≤ bufX.bytes.length)
    (roomY : 4 * y.length + 1 ≤ bufY.bytes.length)
    (roomXY : 4 * (x.length + y.length) + 1 ≤ bufXY.bytes.length) :
    ∃ rX dstX rY dstY r dst,
      encode x (UInt32.ofNat x.length) bufX = .ok (rX, dstX) ∧
      encode y (UInt32.ofNat y.length) bufY = .ok (rY, dstY) ∧
      encode (x ++ y) (UInt32.ofNat (x ++ y).length) bufXY = .ok (r, dst) ∧
      (dst.bytes.take r.toNat = dstX.bytes.take rX.toNat ++ dstY.bytes.take rY.toNat ↔
        y = [] ∨ (encodeBits hpack x).length % 8 = 0) ∧
      (y ≠ [] → (encodeBits hpack x).length % 8 ≠ 0 → rX.toNat + rY.toNat < 2 ^ 27 →
        ∀ (out : Buffer) (cap : UInt32), cap.toNat ≤ out.bytes.length →
          ∃ res, decode (dstX.bytes.take rX.toNat ++ dstY.bytes.take rY.toNat) (rX + rY) out cap =
              .ok res ∧
            ¬ (res.rc = 0 ∧ res.dst.bytes.take res.outLen.toNat = x ++ y)) := by
  have smallXY : (x ++ y).length < 2 ^ 27 := by rwa [List.length_append]
  have smallX : x.length < 2 ^ 27 := by omega
  have smallY : y.length < 2 ^ 27 := by omega
  have lengthX := toNat_ofNat_encoded smallX
  have lengthY := toNat_ofNat_encoded smallY
  refine ⟨_, _, _, _, _, _, encode_whole smallX (encode_room roomX),
    encode_whole smallY (encode_room roomY),
    encode_whole smallXY (encode_room (by rwa [List.length_append])), ?_, ?_⟩
  · rw [toNat_ofNat_encoded smallXY, lengthX, lengthY, Buffer.take_write_front,
      Buffer.take_write_front, Buffer.take_write_front]
    exact encodeBytes_append_iff x y
  · intro some_ partial_ short out cap room
    rw [lengthX, lengthY] at short ⊢
    rw [Buffer.take_write_front, Buffer.take_write_front, ← UInt32.ofNat_add,
      ← List.length_append]
    have shortBytes : (encodeBytes hpack x ++ encodeBytes hpack y).length < 2 ^ 27 := by
      rwa [List.length_append]
    refine ⟨_, decode_whole shortBytes room, ?_⟩
    rintro ⟨accepted, bytes⟩
    obtain ⟨xs, encoded, written, -, outLen⟩ :=
      decode_accepted shortBytes room (decode_whole shortBytes room) accepted
    rw [written, outLen, Buffer.take_write_front] at bytes
    subst bytes
    cases (encodeBytes_append_iff x y).mp encoded.symm with
    | inl none => exact some_ none
    | inr whole => exact partial_ whole

/-- The letter `a`, twice: its five bits are padded, so the joined encodings are not the
    encoding of both. -/
theorem concatenation_a :
    ∃ rX dstX rY dstY r dst,
      encode [97] (UInt32.ofNat 1) (Buffer.ofBytes [0, 0, 0, 0, 0]) = .ok (rX, dstX) ∧
      encode [97] (UInt32.ofNat 1) (Buffer.ofBytes [0, 0, 0, 0, 0]) = .ok (rY, dstY) ∧
      encode [97, 97] (UInt32.ofNat 2) (Buffer.ofBytes [0, 0, 0, 0, 0, 0, 0, 0, 0]) =
        .ok (r, dst) ∧
      (dst.bytes.take r.toNat = dstX.bytes.take rX.toNat ++ dstY.bytes.take rY.toNat ↔
        [97] = ([] : List Byte) ∨ (encodeBits hpack [97]).length % 8 = 0) ∧
      ([97] ≠ ([] : List Byte) → (encodeBits hpack [97]).length % 8 ≠ 0 →
        rX.toNat + rY.toNat < 2 ^ 27 →
        ∀ (out : Buffer) (cap : UInt32), cap.toNat ≤ out.bytes.length →
          ∃ res, decode (dstX.bytes.take rX.toNat ++ dstY.bytes.take rY.toNat) (rX + rY) out cap =
              .ok res ∧
            ¬ (res.rc = 0 ∧ res.dst.bytes.take res.outLen.toNat = [97, 97])) :=
  @concatenation [97] [97] (Buffer.ofBytes [0, 0, 0, 0, 0]) (Buffer.ofBytes [0, 0, 0, 0, 0])
    (Buffer.ofBytes [0, 0, 0, 0, 0, 0, 0, 0, 0]) (by decide) (by decide) (by decide) (by decide)

end HpackHuffman
