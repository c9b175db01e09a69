import HpackHuffman.Spec.Codec

/-! # The decoder as a nibble automaton

The automaton's state is the partial codeword the greedy decoder carries, plus
an absorbing failure for an in-stream EOS. It is not finite: a run of bits which
matches no code grows the accumulator without bound.
-/

namespace HpackHuffman

open Bits

inductive DState where
  /-- Absorbing: an EOS code was read. -/
  | fail
  /-- The `nbits`-bit value accumulated since the last emit. -/
  | live (acc nbits : Nat)
  deriving DecidableEq, Repr

def dfaInit : DState := .live 0 0

def bitStep (T : Table) : DState → Bool → DState × Option Byte
  | .fail, _ => (.fail, none)
  | .live acc nbits, b =>
      let acc' := acc * 2 + (if b then 1 else 0)
      let nbits' := nbits + 1
      match lookupV T acc' nbits' with
      | some sy => if sy = eosIndex then (.fail, none) else (.live 0 0, some sy.toByte)
      | none => (.live acc' nbits', none)

def bitsStep (T : Table) : DState → List Bool → DState × List Byte
  | s, [] => (s, [])
  | s, b :: tl =>
      let (s₁, o₁) := bitStep T s b
      let (s₂, o₂) := bitsStep T s₁ tl
      (s₂, o₁.toList ++ o₂)

/-- A 4-bit input chunk. -/
abbrev Nibble := Fin 16

/-- The four bits of a nibble, most significant first. -/
def nibbleBits (n : Nibble) : List Bool :=
  [decide (n.val / 8 % 2 = 1), decide (n.val / 4 % 2 = 1), decide (n.val / 2 % 2 = 1),
    decide (n.val % 2 = 1)]

def step (T : Table) (s : DState) (n : Nibble) : DState × List Byte := bitsStep T s (nibbleBits n)

def dfaRun (T : Table) : DState → List Nibble → DState × List Byte
  | s, [] => (s, [])
  | s, n :: tl =>
      let (s₁, o₁) := step T s n
      let (s₂, o₂) := dfaRun T s₁ tl
      (s₂, o₁ ++ o₂)

/-- It is valid to stop here: what is left is padding. -/
def isAccepting : DState → Bool
  | .fail => false
  | .live acc nbits => validPaddingV acc nbits

def dfaDecode (T : Table) (ns : List Nibble) : Option (List Byte) :=
  let (s, out) := dfaRun T dfaInit ns
  if isAccepting s then some out else none

def nibblesToBits : List Nibble → List Bool
  | [] => []
  | n :: tl => nibbleBits n ++ nibblesToBits tl

variable (T : Table)

@[simp] theorem bitsStep_fail (bs : List Bool) : bitsStep T .fail bs = (.fail, []) := by
  induction bs with
  | nil => rfl
  | cons b bs ih => simp [bitsStep, bitStep, ih]

/-- A run splits at any boundary. -/
theorem bitsStep_append (s : DState) (xs ys : List Bool) :
    bitsStep T s (xs ++ ys) =
      ((bitsStep T (bitsStep T s xs).1 ys).1,
        (bitsStep T s xs).2 ++ (bitsStep T (bitsStep T s xs).1 ys).2) := by
  induction xs generalizing s with
  | nil => rfl
  | cons x xs ih => simp only [List.cons_append, bitsStep, ih, List.append_assoc]

/-- Folding by nibbles is folding the flattened bits. -/
theorem dfaRun_bits (s : DState) (ns : List Nibble) :
    dfaRun T s ns = bitsStep T s (nibblesToBits ns) := by
  induction ns generalizing s with
  | nil => rfl
  | cons n ns ih => simp only [dfaRun, nibblesToBits, bitsStep_append, step, ih]

/-- A bit completes at most one code. -/
theorem length_bitsStep_le (s : DState) (bs : List Bool) :
    (bitsStep T s bs).2.length ≤ bs.length := by
  induction bs generalizing s with
  | nil => exact Nat.le_refl 0
  | cons b bs ih =>
      have rest := ih (bitStep T s b).1
      have one : (bitStep T s b).2.toList.length ≤ 1 := by cases (bitStep T s b).2 <;> simp
      simp only [bitsStep, List.length_append, List.length_cons]
      omega

/-- The end-of-input rule of the greedy decoder, for a run which started with `out` emitted. -/
def verdict (out : List Byte) (run : DState × List Byte) : Option (List Byte) :=
  if isAccepting run.1 then some (out ++ run.2) else none

theorem decodeGo_eq (bs : List Bool) (acc nbits : Nat) (out : List Byte) :
    decodeGo T bs acc nbits out = verdict out (bitsStep T (.live acc nbits) bs) := by
  induction bs generalizing acc nbits out with
  | nil => simp [decodeGo, bitsStep, verdict, isAccepting]
  | cons b bs ih =>
      simp only [decodeGo, bitsStep, bitStep]
      cases lookupV T (acc * 2 + if b then 1 else 0) (nbits + 1) with
      | none => simp [ih]
      | some s =>
          by_cases eos : s = eosIndex
          · simp [eos, verdict, isAccepting]
          · simp [eos, ih, verdict]

theorem decodeBits_eq (bs : List Bool) :
    decodeBits T bs = verdict [] (bitsStep T dfaInit bs) := decodeGo_eq T bs 0 0 []

theorem dfaDecode_eq (ns : List Nibble) : dfaDecode T ns = decodeBits T (nibblesToBits ns) := by
  simp [dfaDecode, dfaRun_bits, decodeBits_eq, verdict]

/-- Reading a chunk `four` either fails the whole stream or moves the decoder on. -/
theorem decodeGo_append (four rest : List Bool) (acc nbits : Nat) (out : List Byte) :
    decodeGo T (four ++ rest) acc nbits out =
      match bitsStep T (.live acc nbits) four with
      | (.fail, _) => none
      | (.live a n, o) => decodeGo T rest a n (out ++ o) := by
  rw [decodeGo_eq, bitsStep_append]
  rcases bitsStep T (.live acc nbits) four with ⟨_ | ⟨a, n⟩, o⟩
  · simp [verdict, isAccepting]
  · simp [decodeGo_eq, verdict]

/-- The nibble automaton is the greedy decoder, from every state and for every split. -/
theorem dfaDecode_correct :
    (∀ ns, dfaDecode T ns = decodeBits T (nibblesToBits ns)) ∧
    ∀ acc nbits out four rest,
      (∀ o, bitsStep T (.live acc nbits) four = (.fail, o) →
        decodeGo T (four ++ rest) acc nbits out = none) ∧
      ∀ a n o, bitsStep T (.live acc nbits) four = (.live a n, o) →
        decodeGo T (four ++ rest) acc nbits out = decodeGo T rest a n (out ++ o) := by
  refine ⟨dfaDecode_eq T, fun acc nbits out four rest => ⟨?_, ?_⟩⟩
  · intro o failed
    rw [decodeGo_append, failed]
  · intro a n o reached
    rw [decodeGo_append, reached]

/-- The last bit of the code of the zero byte emits it, whatever was decoded before. -/
theorem dfaDecode_correct_zero :
    decodeGo hpack ([false] ++ [true]) 4092 12 [97] = decodeGo hpack [true] 0 0 [97, 0] :=
  ((dfaDecode_correct hpack).2 4092 12 [97] [false] [true]).2 0 0 [0] (by decide +kernel)

end HpackHuffman
