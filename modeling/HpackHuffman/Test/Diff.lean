import HpackHuffman.Util.Arrays
import HpackHuffman.Footprint
import HpackHuffman.Outcome
import HpackHuffman.Reference.Decode
import HpackHuffman.Reference.Encode

/-! # The differential test

The test program runs the two codecs against each other on pseudo-random input, in arrays on
the stack which nothing has initialised. That it finds no difference is a fact about the codecs
and not about its seed: no sequence of inputs would make it fail.
-/

namespace HpackHuffman.Test.Diff

open Reference

/-- The generator steps its state and returns the upper half of it. -/
def rnd (st : UInt64) : UInt64 × UInt32 :=
  let st := st ^^^ (st <<< 13)
  let st := st ^^^ (st >>> 7)
  let st := st ^^^ (st <<< 17)
  (st, (st >>> 32).toUInt32)

structure FillVars where
  input : Buffer
  i : Nat
  st : UInt64

def fillBody (len : Nat) (v : FillVars) : Exec (Turn FillVars (UInt64 × Buffer)) := do
  if v.i < len then
    let (st, r) := rnd v.st
    let input ← v.input.store v.i r.toUInt8
    return .again ⟨input, v.i + 1, st⟩
  else
    return .ret (v.st, v.input)

/-- The loop `for (size_t i = 0; i < len; i++) in[i] = (uint8_t)rnd();`. -/
def fill (st : UInt64) (len : Nat) (input : Buffer) : Exec (UInt64 × Buffer) :=
  whileTrue (fillBody len) (len + 1) ⟨input, 0, st⟩

/-- The arrays of one turn of a loop, before anything is stored to them. -/
structure Frame (inputSize : Nat) where
  input : List Byte
  e1 : List Byte
  e2 : List Byte
  d1 : List Byte
  d2 : List Byte
  length_input : input.length = inputSize
  length_e1 : e1.length = 512
  length_e2 : e2.length = 512
  length_d1 : d1.length = 64
  length_d2 : d2.length = 64

structure TestVars where
  it : Nat
  st : UInt64
  checks : Nat
  fails : Nat

/-- Valid plaintext: the encoders agree byte for byte, and the decoders recover it. -/
def plaintextTurn (F : Frame 64) (v : TestVars) : Exec TestVars := do
  let (st, r) := rnd v.st
  let len := (r % 64).toNat
  let (st, input) ← fill st len (.ofBytes F.input)
  let (n1, e1) ← hpackHuffmanEncode input.bytes len (.ofBytes F.e1)
  let (n2, e2) ← refHpackHuffmanEncode input.bytes len (.ofBytes F.e2)
  let checks := v.checks + 1
  if ← differs (n1 ≠ n2) e1.bytes e2.bytes n1 then
    return ⟨v.it + 1, st, checks, v.fails + 1⟩
  else
    let r1 ← hpackHuffmanDecode e2.bytes n2 (.ofBytes F.d1) 64
    let r2 ← refHpackHuffmanDecode e1.bytes n1 (.ofBytes F.d2) 64
    let checks := checks + 2
    let bad1 ← differs (r1.rc ≠ 0 ∨ r1.outLen ≠ len) r1.dst.bytes input.bytes len
    let bad2 ← differs (r2.rc ≠ 0 ∨ r2.outLen ≠ len) r2.dst.bytes input.bytes len
    let fails := if bad1 then v.fails + 1 else v.fails
    let fails := if bad2 then fails + 1 else fails
    return ⟨v.it + 1, st, checks, fails⟩

/-- Arbitrary bytes: where both decoders accept, their output matches. -/
def arbitraryTurn (F : Frame 16) (v : TestVars) : Exec TestVars := do
  let (st, r) := rnd v.st
  let len := 1 + (r % 16).toNat
  let (st, input) ← fill st len (.ofBytes F.input)
  let r1 ← hpackHuffmanDecode input.bytes len (.ofBytes F.d1) 64
  let r2 ← refHpackHuffmanDecode input.bytes len (.ofBytes F.d2) 64
  let checks := v.checks + 1
  if r1.rc = 0 ∧ r2.rc = 0 then
    let bad ← differs (r1.outLen ≠ r2.outLen) r1.dst.bytes r2.dst.bytes r1.outLen
    return ⟨v.it + 1, st, checks, if bad then v.fails + 1 else v.fails⟩
  else
    return ⟨v.it + 1, st, checks, v.fails⟩

/-- The loop `for (int it = 0; it < n; it++)`. -/
def testBody (turn : Nat → TestVars → Exec TestVars) (n : Nat) (v : TestVars) :
    Exec (Turn TestVars TestVars) := do
  if v.it < n then
    let v' ← turn v.it v
    return .again v'
  else
    return .ret v

def testLoop (turn : Nat → TestVars → Exec TestVars) (n : Nat) (v : TestVars) : Exec TestVars :=
  whileTrue (testBody turn n) (n + 1) v

/-- What the program prints and returns. -/
structure Report where
  checks : Nat
  fails : Nat
  exit : Nat
  deriving DecidableEq

/-- The fixed seed. -/
def seed : UInt64 := 0x9e3779b97f4a7c15

/-- The program, from any state of the generator. What the stack holds may be another thing on
    every turn. -/
def runFrom (st : UInt64) (stack : Nat → Frame 64) (stack' : Nat → Frame 16) : Exec Report := do
  let v ← testLoop (fun it => plaintextTurn (stack it)) 300000 ⟨0, st, 0, 0⟩
  let v ← testLoop (fun it => arbitraryTurn (stack' it)) 300000 { v with it := 0 }
  return ⟨v.checks, v.fails, if v.fails ≠ 0 then 1 else 0⟩

def main (stack : Nat → Frame 64) (stack' : Nat → Frame 16) : Exec Report :=
  runFrom seed stack stack'

/-- The loop ends, with something at the front of the array. -/
theorem fill_spec {st : UInt64} {len : Nat} {input : Buffer} (room : len ≤ input.bytes.length) :
    ∃ st' input' src, fill st len input = .ok (st', input') ∧ src <+: input'.bytes ∧
      src.length = len := by
  have run : ∀ fuel (v : FillVars), v.i ≤ len → len < v.i + fuel →
      v.input.bytes.length = input.bytes.length →
      ∃ st' input', whileTrue (fillBody len) fuel v = .ok (st', input') ∧
        input'.bytes.length = input.bytes.length := by
    intro fuel
    induction fuel with
    | zero =>
        intro v le enough
        omega
    | succ fuel ih =>
        intro v le enough same
        cases Nat.eq_or_lt_of_le le with
        | inl last =>
            have stop : ¬ v.i < len := by omega
            refine ⟨v.st, v.input, ?_, same⟩
            simp only [whileTrue, fillBody, if_neg stop]
            rfl
        | inr more =>
            have inside : v.i < v.input.bytes.length := by omega
            obtain ⟨st', input', done, kept⟩ := ih
              ⟨v.input.write v.i [(rnd v.st).2.toUInt8], v.i + 1, (rnd v.st).1⟩ more (by
                simp only
                omega) ((Buffer.length_write inside).trans same)
            refine ⟨st', input', ?_, kept⟩
            simp only [whileTrue, fillBody, if_pos more, Buffer.store_eq_write inside, bind,
              Except.bind]
            exact done
  obtain ⟨st', input', done, kept⟩ := run (len + 1) ⟨input, 0, st⟩ (Nat.zero_le _) (by simp) rfl
  exact ⟨st', input', _, done, List.take_prefix _ _, List.length_take_of_le (kept ▸ room)⟩

section Front

variable {src buf : List Byte} {dst : Buffer} {dstCap : Nat}

theorem take_front (front : src <+: buf) : buf.take src.length = src :=
  (List.prefix_iff_eq_take.mp front).symm

theorem hpackHuffmanEncode_front (front : src <+: buf) (small : src.length < hpackHuffmanMaxLen)
    (room : (encodeBytes hpack src).length ≤ dst.bytes.length) :
    hpackHuffmanEncode buf src.length dst =
      .ok ((encodeBytes hpack src).length, dst.write 0 (encodeBytes hpack src)) := by
  have length := toNat_ofNat_small small
  have run := @Lowstar.encode_eq buf src (UInt32.ofNat src.length) dst
    (by rw [length, take_front front]) length.symm (by rwa [length]) room
  rw [hpackHuffmanEncode, if_neg (Nat.not_le.mpr small), encode, run]
  exact congrArg (fun n => Except.ok (n, _)) (toNat_ofNat_encoded small)

/-- The nghttp2 loops read below the length they are given. -/
theorem refHpackHuffmanEncode_take (buf : List Byte) (n : Nat) (dst : Buffer) :
    refHpackHuffmanEncode buf n dst = refHpackHuffmanEncode (buf.take n) n dst := by
  have body : refEncodeBody buf n = refEncodeBody (buf.take n) n := by
    funext v
    unfold refEncodeBody
    by_cases more : v.i < n
    · simp only [if_pos more, load_front more]
    · simp only [if_neg more]
  unfold refHpackHuffmanEncode
  rw [body]

theorem refHpackHuffmanDecode_take (buf : List Byte) (n : Nat) (dst : Buffer) (dstCap : Nat) :
    refHpackHuffmanDecode buf n dst dstCap = refHpackHuffmanDecode (buf.take n) n dst dstCap := by
  have body : refBody buf n dstCap = refBody (buf.take n) n dstCap := by
    funext v
    unfold refBody
    by_cases more : v.i < n
    · simp only [if_pos more, load_front more]
    · simp only [if_neg more]
  unfold refHpackHuffmanDecode
  rw [body]

theorem refHpackHuffmanEncode_front (front : src <+: buf)
    (small : src.length < hpackHuffmanMaxLen)
    (room : (encodeBytes hpack src).length ≤ dst.bytes.length) :
    refHpackHuffmanEncode buf src.length dst =
      .ok ((encodeBytes hpack src).length, dst.write 0 (encodeBytes hpack src)) := by
  have run := refEncode_of_encode small room (encode_whole small room)
  rw [toNat_ofNat_encoded small] at run
  rw [refHpackHuffmanEncode_take, take_front front, run]

theorem refHpackHuffmanDecode_front (front : src <+: buf) (room : dstCap ≤ dst.bytes.length) :
    refHpackHuffmanDecode buf src.length dst dstCap =
      .ok ((answer dstCap (bitsStep hpack dfaInit (bytesToBits src))).decoded id 0 dst) := by
  rw [refHpackHuffmanDecode_take, take_front front]
  exact refHpackHuffmanDecode_eq room

end Front

section Turn

variable {src input : List Byte}

/-- Both encoders output one encoding, and each decoder takes it back from the other's array. -/
theorem codecs_cross {e1 e2 d1 d2 : Buffer} {cap : Nat} (front : src <+: input)
    (small : src.length < hpackHuffmanMaxLen)
    (small' : (encodeBytes hpack src).length < hpackHuffmanMaxLen)
    (room₁ : (encodeBytes hpack src).length ≤ e1.bytes.length)
    (room₂ : (encodeBytes hpack src).length ≤ e2.bytes.length)
    (fits : src.length ≤ cap) (room₃ : cap ≤ d1.bytes.length) (room₄ : cap ≤ d2.bytes.length) :
    ∃ enc e1' e2' d1' d2',
      (hpackHuffmanEncode input src.length e1 = .ok (enc.length, e1') ∧ enc <+: e1'.bytes) ∧
      (refHpackHuffmanEncode input src.length e2 = .ok (enc.length, e2') ∧ enc <+: e2'.bytes) ∧
      (hpackHuffmanDecode e2'.bytes enc.length d1 cap = .ok ⟨0, src.length, d1'⟩ ∧
        src <+: d1'.bytes) ∧
      refHpackHuffmanDecode e1'.bytes enc.length d2 cap = .ok ⟨0, src.length, d2'⟩ ∧
        src <+: d2'.bytes := by
  have spec := (rfcCode_hpack.decodeBits_bytes_iff src (encodeBytes hpack src)).mpr rfl
  have front₁ := e1.front_write (encodeBytes hpack src)
  have front₂ := e2.front_write (encodeBytes hpack src)
  have ours := hpackHuffmanDecode_eq (take_front front₂) small' room₃
  have theirs := refHpackHuffmanDecode_front front₁ room₄
  rw [decoded_of_accepted spec fits] at ours theirs
  exact ⟨encodeBytes hpack src, _, _, _, _,
    ⟨hpackHuffmanEncode_front front small room₁, front₁⟩,
    ⟨refHpackHuffmanEncode_front front small room₂, front₂⟩,
    ⟨ours, d1.front_write src⟩, theirs, d2.front_write src⟩

/-- Where both decoders accept, they leave the same bytes. -/
theorem decoders_accept {d1 d2 : Buffer} {cap : Nat} (front : src <+: input)
    (small : src.length < hpackHuffmanMaxLen) (room₁ : cap ≤ d1.bytes.length)
    (room₂ : cap ≤ d2.bytes.length) :
    ∃ r1 r2, hpackHuffmanDecode input src.length d1 cap = .ok r1 ∧
      refHpackHuffmanDecode input src.length d2 cap = .ok r2 ∧
      ∃ xs, r1.outLen = xs.length ∧ r2.outLen = xs.length ∧ xs <+: r1.dst.bytes ∧
        xs <+: r2.dst.bytes := by
  refine ⟨_, _, hpackHuffmanDecode_eq (take_front front) small room₁,
    refHpackHuffmanDecode_front front room₂, _, Nat.zero_add _, Nat.zero_add _, ?_, ?_⟩
  · exact d1.front_write _
  · exact d2.front_write _

end Turn

/-- A turn of the first loop makes three checks, and none fails. -/
theorem plaintextTurn_spec (F : Frame 64) (v : TestVars) :
    ∃ st, plaintextTurn F v = .ok ⟨v.it + 1, st, v.checks + 3, v.fails⟩ := by
  have short : ((rnd v.st).2 % 64).toNat < 64 := by
    rw [UInt32.toNat_mod]
    exact Nat.mod_lt _ (by decide)
  have room : ((rnd v.st).2 % 64).toNat ≤ (Buffer.ofBytes F.input).bytes.length :=
    Nat.le_trans (Nat.le_of_lt short) (Nat.le_of_eq F.length_input.symm)
  obtain ⟨st, input, src, filled, front, length⟩ := @fill_spec (rnd v.st).1 _ _ room
  rw [← length] at short filled
  have codes := @length_encodeBytes_le src
  have size₁ : (Buffer.ofBytes F.e1).bytes.length = 512 := F.length_e1
  have size₂ : (Buffer.ofBytes F.e2).bytes.length = 512 := F.length_e2
  obtain ⟨enc, e1, e2, d1, d2, ⟨enc₁, at₁⟩, ⟨enc₂, at₂⟩, ⟨dec₁, at₃⟩, dec₂, at₄⟩ :=
    @codecs_cross src input.bytes (.ofBytes F.e1) (.ofBytes F.e2) (.ofBytes F.d1)
      (.ofBytes F.d2) 64 front (by rw [hpackHuffmanMaxLen]; omega)
      (by rw [hpackHuffmanMaxLen]; omega) (by omega) (by omega) (Nat.le_of_lt short)
      (Nat.le_of_eq F.length_d1.symm) (Nat.le_of_eq F.length_d2.symm)
  have fine : ¬ ((0 : Int32) ≠ 0 ∨ src.length ≠ src.length) := by simp
  refine ⟨st, ?_⟩
  unfold plaintextTurn
  simp only [← length, filled, bind, Except.bind, enc₁, enc₂, dec₁, dec₂,
    differs_front (not_not.mpr rfl) at₁ at₂, differs_front fine at₃ front,
    differs_front fine at₄ front]
  rfl

/-- A turn of the second loop makes one check, and it does not fail. -/
theorem arbitraryTurn_spec (F : Frame 16) (v : TestVars) :
    ∃ st, arbitraryTurn F v = .ok ⟨v.it + 1, st, v.checks + 1, v.fails⟩ := by
  have short : 1 + ((rnd v.st).2 % 16).toNat ≤ 16 := by
    rw [UInt32.toNat_mod, Nat.add_comm]
    exact Nat.mod_lt _ (by decide)
  obtain ⟨st, input, src, filled, front, length⟩ :=
    @fill_spec (rnd v.st).1 _ (.ofBytes F.input)
      (Nat.le_trans short (Nat.le_of_eq F.length_input.symm))
  rw [← length] at short filled
  obtain ⟨r1, r2, dec₁, dec₂, xs, out₁, out₂, at₁, at₂⟩ :=
    @decoders_accept src input.bytes (.ofBytes F.d1) (.ofBytes F.d2) 64 front
      (by rw [hpackHuffmanMaxLen]; omega) (Nat.le_of_eq F.length_d1.symm)
      (Nat.le_of_eq F.length_d2.symm)
  have same : ¬ r1.outLen ≠ r2.outLen := not_not.mpr (out₁.trans out₂.symm)
  have agree := differs_front same at₁ at₂
  rw [← out₁] at agree
  refine ⟨st, ?_⟩
  unfold arbitraryTurn
  simp only [← length, filled, bind, Except.bind, dec₁, dec₂]
  by_cases accept : r1.rc = 0 ∧ r2.rc = 0
  · simp only [if_pos accept, agree]
    rfl
  · simp only [if_neg accept]
    rfl

/-- A loop whose every turn makes `c` checks and none that fails makes `c` a turn. -/
theorem testLoop_spec {turn : Nat → TestVars → Exec TestVars} {n c : Nat}
    (spec : ∀ v, ∃ st, turn v.it v = .ok ⟨v.it + 1, st, v.checks + c, v.fails⟩) (v : TestVars)
    (start : v.it = 0) :
    ∃ st, testLoop turn n v = .ok ⟨n, st, v.checks + c * n, v.fails⟩ := by
  have run : ∀ fuel (v : TestVars), v.it ≤ n → n < v.it + fuel →
      ∃ st, whileTrue (testBody turn n) fuel v =
        .ok ⟨n, st, v.checks + c * (n - v.it), v.fails⟩ := by
    intro fuel
    induction fuel with
    | zero =>
        intro v le enough
        omega
    | succ fuel ih =>
        intro v le enough
        cases Nat.eq_or_lt_of_le le with
        | inl last =>
            have stop : ¬ v.it < n := by omega
            refine ⟨v.st, ?_⟩
            simp only [whileTrue, testBody, if_neg stop]
            cases last
            rw [Nat.sub_self, Nat.mul_zero, Nat.add_zero]
            rfl
        | inr more =>
            obtain ⟨st, once⟩ := spec v
            obtain ⟨st', rest⟩ := ih ⟨v.it + 1, st, v.checks + c, v.fails⟩ more (by
              simp only
              omega)
            have count : v.checks + c + c * (n - (v.it + 1)) = v.checks + c * (n - v.it) := by
              obtain ⟨left, rfl⟩ : ∃ left, n = v.it + 1 + left := Nat.exists_eq_add_of_le more
              rw [Nat.add_sub_cancel_left, Nat.add_assoc v.it, Nat.add_sub_cancel_left]
              ring
            refine ⟨st', ?_⟩
            simp only [whileTrue, testBody, if_pos more, once, bind, Except.bind]
            rw [count] at rest
            exact rest
  obtain ⟨st, done⟩ := run (n + 1) v (by omega) (by omega)
  rw [start, Nat.sub_zero] at done
  exact ⟨st, done⟩

/-- The program makes its 1200000 checks and none fails, whatever its seed and whatever the
    stack holds. -/
theorem runFrom_passes (st : UInt64) (stack : Nat → Frame 64) (stack' : Nat → Frame 16) :
    runFrom st stack stack' = .ok ⟨1200000, 0, 0⟩ := by
  obtain ⟨st₁, first⟩ := @testLoop_spec (fun it => plaintextTurn (stack it)) 300000 3
    (fun v => plaintextTurn_spec (stack v.it) v) ⟨0, st, 0, 0⟩ rfl
  obtain ⟨st₂, second⟩ := @testLoop_spec (fun it => arbitraryTurn (stack' it)) 300000 1
    (fun v => arbitraryTurn_spec (stack' v.it) v) ⟨0, st₁, 0 + 3 * 300000, 0⟩ rfl
  unfold runFrom
  simp only [first, second, bind, Except.bind]
  rfl

end HpackHuffman.Test.Diff
