import HpackHuffman.Test.Diff

/-! # The validation harness

The test program's three checks call the public interface in arrays of their own. What a check
which passes tells about its input is exactly this: a round trip that the input fits the array,
an RFC vector that it is the encoding, and a rejection that the input encodes nothing which fits.
-/

namespace HpackHuffman.Test.Huffman

open Diff (hpackHuffmanEncode_front)

/-- The counters, and the lines printed. -/
structure Harness where
  checks : Nat
  failures : Nat
  printed : List String
  deriving DecidableEq

def Harness.fail (h : Harness) (line : String) : Harness :=
  { h with failures := h.failures + 1, printed := h.printed ++ [line] }

/-- The two arrays of a check, before anything is stored to them. -/
structure Arrays (size : Nat) where
  enc : List Byte
  dec : List Byte
  length_enc : enc.length = size
  length_dec : dec.length = size

/-- The C function: the index of the first zero byte. -/
def strlen : List Byte → Exec Nat
  | [] => .error .outOfBounds
  | b :: s => if b = 0 then .ok 0 else do
      let n ← strlen s
      return n + 1

def lengthsDiffer (what : String) (elen elen2 : Nat) : String :=
  s!"FAIL [{what}]: encode_len={elen2} but encode wrote {elen}"

def mismatch (what : String) (rc : Int32) (out len : Nat) : String :=
  s!"FAIL [{what}]: round-trip mismatch (rc={rc}, out={out}, want {len})"

def notTheVector (what : String) (n : Nat) : String :=
  s!"FAIL [{what}]: encode produced {n} bytes, not the RFC vector"

def vectorMismatch (what : String) (rc : Int32) (out : Nat) : String :=
  s!"FAIL [{what}]: decode of RFC vector mismatch (rc={rc}, out={out})"

def expectedRejection (what : String) (out : Nat) : String :=
  s!"FAIL [{what}]: expected rejection, but decode accepted (out={out})"

/-- Encode `src[0..len)`, decode it back, require exact recovery. -/
def roundtrip (src : List Byte) (len : Nat) (what : String) (A : Arrays 8192) (h : Harness) :
    Exec Harness := do
  let h := { h with checks := h.checks + 1 }
  let (elen, enc) ← hpackHuffmanEncode src len (.ofBytes A.enc)
  let elen2 ← hpackHuffmanEncodeLen src len
  if elen ≠ elen2 then
    return h.fail (lengthsDiffer what elen elen2)
  else
    let r ← hpackHuffmanDecode enc.bytes elen (.ofBytes A.dec) 8192
    if ← differs (r.rc ≠ 0 ∨ r.outLen ≠ len) src r.dst.bytes len then
      return h.fail (mismatch what r.rc r.outLen len)
    else
      return h

/-- The encoding of the string must equal `exp` exactly, and `exp` decode to the string. -/
def encVector (s exp : List Byte) (elen : Nat) (what : String) (A : Arrays 256) (h : Harness) :
    Exec Harness := do
  let slen ← strlen s
  let h := { h with checks := h.checks + 1 }
  let (n, enc) ← hpackHuffmanEncode s slen (.ofBytes A.enc)
  if ← differs (n ≠ elen) enc.bytes exp elen then
    return h.fail (notTheVector what n)
  else
    let r ← hpackHuffmanDecode exp elen (.ofBytes A.dec) 256
    if ← differs (r.rc ≠ 0 ∨ r.outLen ≠ slen) r.dst.bytes s slen then
      return h.fail (vectorMismatch what r.rc r.outLen)
    else
      return h

/-- A malformed stream must not be accepted. -/
def reject (src : List Byte) (len : Nat) (what : String) (A : Arrays 256) (h : Harness) :
    Exec Harness := do
  let h := { h with checks := h.checks + 1 }
  let r ← hpackHuffmanDecode src len (.ofBytes A.dec) 256
  if r.rc = 0 then
    return h.fail (expectedRejection what r.outLen)
  else
    return h

/-- Arrays of zeros. -/
def zeros (size : Nat) : Arrays size :=
  ⟨List.replicate size 0, List.replicate size 0, List.length_replicate, List.length_replicate⟩

theorem strlen_eq {str rest : List Byte} (nonzero : 0 ∉ str) :
    strlen (str ++ 0 :: rest) = .ok str.length := by
  induction str with
  | nil => rfl
  | cons b str ih =>
      have this_ : b ≠ 0 := fun zero => nonzero (zero ▸ List.mem_cons_self)
      have later := ih fun mem => nonzero (List.mem_cons_of_mem _ mem)
      simp only [List.cons_append, strlen, if_neg this_, later]
      rfl

section Verdict

variable {bs : List Bool} {xs : List Byte} {room : Nat} {dst : Buffer}

theorem decoded_of_fits (spec : decodeBits hpack bs = some xs) (fits : xs.length ≤ room) :
    (answer room (bitsStep hpack dfaInit bs)).decoded id 0 dst =
      ⟨0, xs.length, dst.write 0 xs⟩ := decoded_of_accepted spec fits

/-- An accepted input which does not fit fills the buffer. -/
theorem decoded_of_full (spec : decodeBits hpack bs = some xs) (full : room < xs.length) :
    (answer room (bitsStep hpack dfaInit bs)).decoded id 0 dst =
      ⟨-1, room, dst.write 0 (xs.take room)⟩ := by
  have emitted : (bitsStep hpack dfaInit bs).2 = xs := by
    rw [decodeBits_eq, verdict] at spec
    split at spec
    · exact Option.some.inj spec
    · cases spec
  have long : ¬ xs.length ≤ room := Nat.not_le.mpr full
  have size : (xs.take room).length = room := List.length_take_of_le (Nat.le_of_lt full)
  simp [answer, Answer.decoded, emitted, long, size]

end Verdict

/-- A string whose encoding fits an array is one the codec takes. -/
theorem small_of_room {xs : List Byte} (room : (encodeBytes hpack xs).length ≤ 8192) :
    xs.length < hpackHuffmanMaxLen := by
  have codes := rfcCode_hpack.le_length_encodeBits xs
  rw [length_encodeBytes] at room
  rw [hpackHuffmanMaxLen]
  omega

section Roundtrip

variable {src : List Byte} {what : String} {A : Arrays 8192} {h : Harness}

/-- A round trip through arrays which hold the encoding comes to the decoder's verdict. -/
theorem roundtrip_run {r : Decoded Nat} (room : (encodeBytes hpack src).length ≤ 8192)
    (verdict : (answer 8192 (bitsStep hpack dfaInit (bytesToBits (encodeBytes hpack src)))).decoded
      id 0 (.ofBytes A.dec) = r) :
    roundtrip src src.length what A h = (do
      let h := { h with checks := h.checks + 1 }
      if ← differs (r.rc ≠ 0 ∨ r.outLen ≠ src.length) src r.dst.bytes src.length then
        return h.fail (mismatch what r.rc r.outLen src.length)
      else
        return h) := by
  have small := small_of_room room
  have enc := @hpackHuffmanEncode_eq src (.ofBytes A.enc) small
    (Nat.le_trans room (Nat.le_of_eq A.length_enc.symm))
  have dec := @hpackHuffmanDecode_eq (encodeBytes hpack src) (.ofBytes A.dec) 8192 _
    (Buffer.take_write_front (.ofBytes A.enc) _) (Nat.lt_of_le_of_lt room (by decide))
    (Nat.le_of_eq A.length_dec.symm)
  rw [verdict] at dec
  unfold roundtrip
  simp only [enc, hpackHuffmanEncodeLen_eq small, dec, bind, Except.bind, ne_eq,
    not_true_eq_false, if_false]

theorem roundtrip_pass (fits : src.length ≤ 8192)
    (room : (encodeBytes hpack src).length ≤ 8192) :
    roundtrip src src.length what A h = .ok { h with checks := h.checks + 1 } := by
  have fine : ¬ ((0 : Int32) ≠ 0 ∨ src.length ≠ src.length) := by simp
  have spec := (rfcCode_hpack.decodeBits_bytes_iff src _).mpr rfl
  rw [roundtrip_run room (decoded_of_fits spec fits)]
  simp only [differs_front fine List.prefix_rfl (Buffer.front_write (.ofBytes A.dec) src), bind,
    Except.bind]
  rfl

/-- A string whose encoding fits its array makes the round trip exactly when it fits its own. -/
theorem roundtrip_exact (room : (encodeBytes hpack src).length ≤ 8192) :
    roundtrip src src.length what A h = .ok (
      if src.length ≤ 8192 then { h with checks := h.checks + 1 }
      else Harness.fail { h with checks := h.checks + 1 }
        (mismatch what (-1) 8192 src.length)) := by
  cases Nat.lt_or_ge 8192 src.length with
  | inl full =>
      have known : (-1 : Int32) ≠ 0 ∨ 8192 ≠ src.length := .inl (by decide)
      have spec := (rfcCode_hpack.decodeBits_bytes_iff src _).mpr rfl
      rw [if_neg (Nat.not_le.mpr full), roundtrip_run room (decoded_of_full spec full)]
      simp only [differs, if_pos known, bind, Except.bind]
      rfl
  | inr fits =>
      rw [if_pos fits]
      exact roundtrip_pass fits room

end Roundtrip

section Vector

variable {str rest exp : List Byte} {what : String} {A : Arrays 256} {h : Harness}

/-- Past the comparison with the encoding a check comes to the decoder's verdict. -/
theorem encVector_run {r : Decoded Nat} (nonzero : 0 ∉ str)
    (room : (encodeBytes hpack str).length ≤ 256)
    (verdict : (answer 256 (bitsStep hpack dfaInit (bytesToBits (encodeBytes hpack str)))).decoded
      id 0 (.ofBytes A.dec) = r) :
    encVector (str ++ 0 :: rest) (encodeBytes hpack str) (encodeBytes hpack str).length what A h =
      (do
        let h := { h with checks := h.checks + 1 }
        if ← differs (r.rc ≠ 0 ∨ r.outLen ≠ str.length) r.dst.bytes (str ++ 0 :: rest)
            str.length then
          return h.fail (vectorMismatch what r.rc r.outLen)
        else
          return h) := by
  have small := small_of_room (Nat.le_trans room (by decide))
  have enc := @hpackHuffmanEncode_front str (str ++ 0 :: rest) (.ofBytes A.enc)
    (List.prefix_append _ _) small (Nat.le_trans room (Nat.le_of_eq A.length_enc.symm))
  have dec := @hpackHuffmanDecode_eq (encodeBytes hpack str) (.ofBytes A.dec) 256 _
    List.take_length (Nat.lt_of_le_of_lt room (by decide)) (Nat.le_of_eq A.length_dec.symm)
  have same := @differs_front ((encodeBytes hpack str).length ≠ (encodeBytes hpack str).length)
    _ _ _ _ (not_not.mpr rfl) (Buffer.front_write (.ofBytes A.enc) (encodeBytes hpack str))
    List.prefix_rfl
  rw [verdict] at dec
  unfold encVector
  simp only [strlen_eq nonzero, enc, same, dec, bind, Except.bind, Bool.false_eq_true,
    if_false]

theorem encVector_pass (nonzero : 0 ∉ str) (fits : str.length ≤ 256)
    (encodes : exp = encodeBytes hpack str) (room : exp.length ≤ 256) :
    encVector (str ++ 0 :: rest) exp exp.length what A h =
      .ok { h with checks := h.checks + 1 } := by
  have fine : ¬ ((0 : Int32) ≠ 0 ∨ str.length ≠ str.length) := by simp
  have spec := (rfcCode_hpack.decodeBits_bytes_iff str _).mpr rfl
  cases encodes
  rw [encVector_run nonzero room (decoded_of_fits spec fits)]
  simp only [differs_front fine (Buffer.front_write (.ofBytes A.dec) str)
    (List.prefix_append _ _), bind, Except.bind]
  rfl

/-- A check of a string whose encoding fits its array passes exactly when the vector is the
    encoding and the string fits its own. -/
theorem encVector_exact (nonzero : 0 ∉ str) (room : (encodeBytes hpack str).length ≤ 256) :
    encVector (str ++ 0 :: rest) exp exp.length what A h = .ok (
      if exp ≠ encodeBytes hpack str then
        Harness.fail { h with checks := h.checks + 1 }
          (notTheVector what (encodeBytes hpack str).length)
      else if str.length ≤ 256 then { h with checks := h.checks + 1 }
      else Harness.fail { h with checks := h.checks + 1 } (vectorMismatch what (-1) 256)) := by
  by_cases encodes : exp = encodeBytes hpack str
  · rw [if_neg (not_not.mpr encodes)]
    cases Nat.lt_or_ge 256 str.length with
    | inl full =>
        have known : (-1 : Int32) ≠ 0 ∨ 256 ≠ str.length := .inl (by decide)
        have spec := (rfcCode_hpack.decodeBits_bytes_iff str _).mpr rfl
        cases encodes
        rw [if_neg (Nat.not_le.mpr full),
          encVector_run nonzero room (decoded_of_full spec full)]
        simp only [differs, if_pos known, bind, Except.bind]
        rfl
    | inr fits =>
        rw [if_pos fits]
        exact encVector_pass nonzero fits encodes (encodes ▸ room)
  · have small := small_of_room (Nat.le_trans room (by decide))
    have enc := @hpackHuffmanEncode_front str (str ++ 0 :: rest) (.ofBytes A.enc)
      (List.prefix_append _ _) small (Nat.le_trans room (Nat.le_of_eq A.length_enc.symm))
    have bad := @differs_whole _ exp _ (Buffer.front_write (.ofBytes A.enc) (encodeBytes hpack str))
    rw [if_pos encodes]
    unfold encVector
    simp only [strlen_eq nonzero, enc, bad, decide_eq_true (Ne.symm encodes), bind, Except.bind,
      if_true]
    rfl

/-- The letter `a`. -/
theorem encVector_exact_a :
    encVector ([97] ++ 0 :: []) [31] [31].length "a" (zeros 256) ⟨0, 0, []⟩ = .ok (
      if [31] ≠ encodeBytes hpack [97] then
        Harness.fail ⟨1, 0, []⟩ (notTheVector "a" (encodeBytes hpack [97]).length)
      else if [97].length ≤ 256 then ⟨1, 0, []⟩
      else Harness.fail ⟨1, 0, []⟩ (vectorMismatch "a" (-1) 256)) :=
  @encVector_exact [97] [] [31] "a" (zeros 256) ⟨0, 0, []⟩ (by decide) (by decide +kernel)

end Vector

section Reject

variable {src : List Byte} {what : String} {A : Arrays 256} {h : Harness}

theorem reject_pass (malformed : ∀ xs, src = encodeBytes hpack xs → 256 < xs.length) :
    reject src src.length what A h = .ok { h with checks := h.checks + 1 } := by
  have rejected : ∃ out dst,
      hpackHuffmanDecode src src.length (.ofBytes A.dec) 256 = .ok ⟨-1, out, dst⟩ := by
    cases Nat.lt_or_ge src.length hpackHuffmanMaxLen with
    | inl small =>
        have run := @hpackHuffmanDecode_whole src (.ofBytes A.dec) 256 small
          (Nat.le_of_eq A.length_dec.symm)
        have rc := @decoded_of_rejected Nat id 256 (.ofBytes A.dec) hpack (bytesToBits src)
          fun xs spec => malformed xs ((rfcCode_hpack.decodeBits_bytes_iff xs src).mp spec)
        cases verdict : (answer 256 (bitsStep hpack dfaInit (bytesToBits src))).decoded id 0
          (.ofBytes A.dec) with
        | mk rc_ out dst =>
            rw [verdict] at run rc
            cases rc
            exact ⟨out, dst, run⟩
    | inr long => exact ⟨0, _, hpackHuffmanDecode_overlong long⟩
  obtain ⟨out, dst, run⟩ := rejected
  have negative : ¬ (-1 : Int32) = 0 := by decide
  unfold reject
  simp only [run, bind, Except.bind, if_neg negative]
  rfl

/-- A rejection fails exactly when the input encodes a string which fits the array. -/
theorem reject_exact (src : List Byte) (what : String) (A : Arrays 256) (h : Harness) :
    (∀ xs, src = encodeBytes hpack xs → xs.length ≤ 256 →
      reject src src.length what A h =
        .ok (Harness.fail { h with checks := h.checks + 1 } (expectedRejection what xs.length))) ∧
    ((∀ xs, src = encodeBytes hpack xs → 256 < xs.length) →
      reject src src.length what A h = .ok { h with checks := h.checks + 1 }) := by
  constructor
  · rintro xs rfl fits
    have codes := @length_encodeBytes_le xs
    have small : (encodeBytes hpack xs).length < hpackHuffmanMaxLen :=
      Nat.lt_of_le_of_lt codes (by rw [hpackHuffmanMaxLen]; omega)
    have run := @hpackHuffmanDecode_whole _ (.ofBytes A.dec) 256 small
      (Nat.le_of_eq A.length_dec.symm)
    rw [decoded_of_fits ((rfcCode_hpack.decodeBits_bytes_iff xs _).mpr rfl) fits] at run
    unfold reject
    simp only [run, bind, Except.bind, if_true]
    rfl
  · exact reject_pass

/-- The encoding of the letter `a` is accepted. -/
theorem reject_exact_a :
    reject [31] 1 "a" (zeros 256) ⟨0, 0, []⟩ =
      .ok (Harness.fail ⟨1, 0, []⟩ (expectedRejection "a" 1)) :=
  (reject_exact [31] "a" (zeros 256) ⟨0, 0, []⟩).1 [97] (by decide +kernel) (by decide)

end Reject

/-- A call of the program. -/
inductive Call where
  | roundtrip (src : List Byte) (what : String)
  | encVector (str : String) (exp : List Byte) (what : String)
  | reject (src : List Byte) (what : String)

/-- The arrays of a call. -/
structure Stack where
  large : Arrays 8192
  small : Arrays 256

def cString (str : String) : List Byte := str.toList.map (fun c => UInt8.ofNat c.toNat)

def Call.run (S : Stack) : Call → Harness → Exec Harness
  | .roundtrip src what, h => Huffman.roundtrip src src.length what S.large h
  | .encVector str exp what, h =>
      Huffman.encVector (cString str ++ [0]) exp exp.length what S.small h
  | .reject src what, h => Huffman.reject src src.length what S.small h

/-- The calls of the program, in order. -/
def calls : List Call :=
  .roundtrip [] "empty" ::
  (List.range 256).map (fun b => .roundtrip [UInt8.ofNat b] "single byte") ++
  [.roundtrip ((List.range 256).map UInt8.ofNat) "all 256 bytes",
   .roundtrip (cString "The quick brown fox jumps over the lazy dog. HTTP/2!") "mixed ascii",
   .roundtrip (List.replicate 1024 0x61) "1024x 'a'",
   .roundtrip ((List.range 300).map (fun i => UInt8.ofNat (0x80 + i % 0x60))) "non-ascii run",
   .encVector "www.example.com"
     [0xf1, 0xe3, 0xc2, 0xe5, 0xf2, 0x3a, 0x6b, 0xa0, 0xab, 0x90, 0xf4, 0xff]
     "RFC C.4.1 www.example.com",
   .encVector "no-cache" [0xa8, 0xeb, 0x10, 0x64, 0x9c, 0xbf] "RFC C.4.2 no-cache",
   .encVector "custom-key" [0x25, 0xa8, 0x49, 0xe9, 0x5b, 0xa9, 0x7d, 0x7f]
     "RFC C.4.3 custom-key",
   .encVector "custom-value" [0x25, 0xa8, 0x49, 0xe9, 0x5b, 0xb8, 0xe8, 0xb4, 0xbf]
     "RFC C.4.3 custom-value",
   .reject [0x00] "invalid (zero-bit) padding",
   .reject [0xff, 0xff, 0xff, 0xff] "in-stream EOS"]

/-- Call after call, each in arrays of its own. -/
def runCalls (stack : Nat → Stack) : List Call → Nat → Harness → Exec Harness
  | [], _, h => .ok h
  | c :: cs, i, h => do
      let h ← c.run (stack i) h
      runCalls stack cs (i + 1) h

/-- What the program prints last and returns. -/
structure Report where
  checks : Nat
  failures : Nat
  exit : Nat
  deriving DecidableEq

def main (stack : Nat → Stack) : Exec Report := do
  let h ← runCalls stack calls 0 ⟨0, 0, []⟩
  return ⟨h.checks, h.failures, if h.failures ≠ 0 then 1 else 0⟩

/-- What a call checks of its input. -/
def Call.Passes : Call → Prop
  | .roundtrip src _ => 4 * src.length ≤ 8192
  | .encVector str exp _ =>
      0 ∉ cString str ∧ (cString str).length ≤ 64 ∧ exp = encodeBytes hpack (cString str)
  | .reject src _ => decodeBits hpack (bytesToBits src) = none

instance : DecidablePred Call.Passes
  | .roundtrip src _ => inferInstanceAs (Decidable (4 * src.length ≤ 8192))
  | .encVector str exp _ => inferInstanceAs (Decidable (0 ∉ cString str ∧
      (cString str).length ≤ 64 ∧ exp = encodeBytes hpack (cString str)))
  | .reject src _ => inferInstanceAs (Decidable (decodeBits hpack (bytesToBits src) = none))

theorem Call.run_of_passes {c : Call} {S : Stack} {h : Harness} (passes : c.Passes) :
    c.run S h = .ok { h with checks := h.checks + 1 } := by
  cases c with
  | roundtrip src what =>
      have short : 4 * src.length ≤ 8192 := passes
      exact roundtrip_pass (by omega) (Nat.le_trans length_encodeBytes_le short)
  | encVector str exp what =>
      obtain ⟨nonzero, short, encodes⟩ := passes
      have codes := @length_encodeBytes_le (cString str)
      exact encVector_pass nonzero (by omega) encodes (by rw [encodes]; omega)
  | reject src what =>
      have malformed : decodeBits hpack (bytesToBits src) = none := passes
      apply reject_pass
      intro xs encodes
      rw [(rfcCode_hpack.decodeBits_bytes_iff xs src).mpr encodes] at malformed
      cases malformed

theorem runCalls_of_passes {stack : Nat → Stack} {cs : List Call} :
    ∀ {i : Nat} {h : Harness}, (∀ c ∈ cs, c.Passes) →
      runCalls stack cs i h = .ok { h with checks := h.checks + cs.length } := by
  induction cs with
  | nil =>
      intro i h passes
      rfl
  | cons c cs ih =>
      intro i h passes
      have first := @Call.run_of_passes c (stack i) h (passes c List.mem_cons_self)
      have rest := @ih (i + 1) { h with checks := h.checks + 1 } fun d mem =>
        passes d (List.mem_cons_of_mem _ mem)
      simp only [runCalls, first, bind, Except.bind, rest, List.length_cons, Nat.add_assoc,
        Nat.add_comm 1]

theorem calls_pass : ∀ c ∈ calls, c.Passes := by decide +kernel

/-- The 267 checks pass, whatever the stack holds. -/
theorem run_passes (stack : Nat → Stack) : main stack = .ok ⟨267, 0, 0⟩ := by
  have count : 0 + calls.length = 267 := by decide +kernel
  have run := @runCalls_of_passes stack calls 0 ⟨0, 0, []⟩ calls_pass
  unfold main
  simp only [run, count, bind, Except.bind]
  rfl

end HpackHuffman.Test.Huffman
