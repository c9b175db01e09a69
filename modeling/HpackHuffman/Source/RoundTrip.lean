import HpackHuffman.Source.Decode
import HpackHuffman.Source.Encode

/-! # The round trip before extraction

`encode` into one buffer and `decode_dfa` out of it recover the input, whatever tables were
generated, once they pass the checks.
-/

namespace HpackHuffman.Source

open Checked

/-- Encode `src` into `enc`, and decode the bytes written into `dec`. -/
def roundTripC (D : Generated) (src : List Byte) (enc dec : Buffer) (len : UInt32) :
    Checked (Buffer × Decoded UInt32) := do
  demand (EncodeRequires src len enc)
  let (r, enc) ← encode D src len enc
  demand (r.toNat ≤ enc.bytes.length)
  let decsrc := enc.bytes.take r.toNat
  demand (DecodeRequires decsrc r dec len)
  let res ← decodeDfa D decsrc r dec len
  return (enc, res)

/-- Over tables which pass the checks every input of less than 2^24 bytes comes back, and
    neither buffer is stored to behind the bytes it then holds. -/
theorem roundTripC_contract {T : Table} {D : Generated} (checked : codecChecks T D = true)
    {src : List Byte} {enc dec : Buffer} {len : UInt32} (length : src.length = len.toNat)
    (small : len.toNat < 2 ^ 24) (room : 4 * len.toNat + 1 ≤ enc.bytes.length)
    (room' : len.toNat ≤ dec.bytes.length) :
    roundTripC D src enc dec len =
      .ok (enc.write 0 (encodeBytes T src), ⟨0, len, dec.write 0 src⟩) := by
  obtain ⟨rfc, tables⟩ := codecChecks_iff.mp checked
  obtain ⟨r, run, size⟩ := encode_eq rfc tables length (by omega) room
  have bits := rfc.length_encodeBits_le src
  have bytes := length_encodeBytes T src
  have fits : (encodeBytes T src).length ≤ enc.bytes.length := by omega
  have inside : r.toNat ≤ (enc.write 0 (encodeBytes T src)).bytes.length := by
    rw [Buffer.length_write (by omega)]
    omega
  have written : (enc.write 0 (encodeBytes T src)).bytes.take r.toNat = encodeBytes T src := by
    rw [size, Buffer.take_write_front]
  obtain ⟨res, decoded, ensures⟩ := decodeDfa_ensures tables size.symm room' (by omega)
  have accepted := (rfc.decodeBits_bytes_iff src _).mpr rfl
  obtain ⟨rc, count, back⟩ := ensures.accepted src accepted (Nat.le_of_eq length)
  obtain ⟨vs, stored, total⟩ := ensures.frame
  rw [UInt32.toNat_zero, Nat.zero_add] at total
  have same : vs = src := by
    rw [stored, ← total] at back
    exact (dec.take_write_front vs).symm.trans back
  have outLen : res.outLen = len := UInt32.toNat_inj.mp (count.trans length)
  have result : res = ⟨0, len, dec.write 0 src⟩ := by
    rw [← rc, ← outLen, ← same]
    cases res with
    | mk rc outLen dst => exact congrArg _ stored
  have encodes : EncodeRequires src len enc := ⟨length, by omega, room⟩
  have decodes : DecodeRequires (encodeBytes T src) r dec len := ⟨size.symm, room', by omega⟩
  simp only [roundTripC, demand_ok encodes, run, demand_ok inside, written, demand_ok decodes,
    decoded, result, bind, Except.bind]
  rfl

theorem roundTripC_contract_abc :
    roundTripC committed [97, 98, 99] (.ofBytes (List.replicate 13 0)) (.ofBytes [7, 7, 7]) 3 =
      .ok ((Buffer.ofBytes (List.replicate 13 0)).write 0 (encodeBytes hpack [97, 98, 99]),
        ⟨0, 3, (Buffer.ofBytes [7, 7, 7]).write 0 [97, 98, 99]⟩) :=
  roundTripC_contract codecChecks_committed (by decide) (by decide) (by decide) (by decide)

end HpackHuffman.Source
