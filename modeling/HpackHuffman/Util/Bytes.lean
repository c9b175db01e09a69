import HpackHuffman.Util.Bits

/-! # Bit strings packed into bytes

A byte string unpacks to a bit string, most significant bit of each byte first.
Packing goes back, and leaves a residue of fewer than eight bits; a packer which
works through a bit string piece by piece keeps only that residue in between.
-/

namespace Bits

/-- The bits of a byte string. -/
def unpackBytes (s : List UInt8) : List Bool := s.flatMap fun b => codeToBits b.toNat 8

@[simp] theorem unpackBytes_nil : unpackBytes [] = [] := rfl

@[simp] theorem unpackBytes_cons (b : UInt8) (s : List UInt8) :
    unpackBytes (b :: s) = codeToBits b.toNat 8 ++ unpackBytes s := List.flatMap_cons

theorem unpackBytes_append (s t : List UInt8) :
    unpackBytes (s ++ t) = unpackBytes s ++ unpackBytes t := List.flatMap_append

@[simp] theorem length_unpackBytes (s : List UInt8) : (unpackBytes s).length = 8 * s.length := by
  induction s with
  | nil => rfl
  | cons b s ih =>
      rw [unpackBytes_cons, List.length_append, length_codeToBits, ih, List.length_cons]
      omega

/-- The whole bytes at the front of a bit string. -/
def packBytes : List Bool → List UInt8
  | b₇ :: b₆ :: b₅ :: b₄ :: b₃ :: b₂ :: b₁ :: b₀ :: rest =>
      UInt8.ofNat (valueOf [b₇, b₆, b₅, b₄, b₃, b₂, b₁, b₀]) :: packBytes rest
  | _ => []

/-- The at most seven bits after the last whole byte. -/
def residue : List Bool → List Bool
  | _ :: _ :: _ :: _ :: _ :: _ :: _ :: _ :: rest => residue rest
  | bs => bs

theorem packBytes_byte {byte : List Bool} (eight : byte.length = 8) (rest : List Bool) :
    packBytes (byte ++ rest) = UInt8.ofNat (valueOf byte) :: packBytes rest := by
  match byte, eight with
  | [_, _, _, _, _, _, _, _], _ => rfl

theorem residue_byte {byte : List Bool} (eight : byte.length = 8) (rest : List Bool) :
    residue (byte ++ rest) = residue rest := by
  match byte, eight with
  | [_, _, _, _, _, _, _, _], _ => rfl

theorem packBytes_short {bs : List Bool} (short : bs.length < 8) : packBytes bs = [] := by
  unfold packBytes
  split
  · simp only [List.length_cons] at short
    omega
  · rfl

@[simp] theorem packBytes_nil : packBytes [] = [] := packBytes_short (by decide)

theorem residue_short {bs : List Bool} (short : bs.length < 8) : residue bs = bs := by
  unfold residue
  split
  · simp only [List.length_cons] at short
    omega
  · rfl

/-- Bits come a byte at a time, until fewer than eight are left. -/
theorem byteInduction {P : List Bool → Prop} (short : ∀ bs, bs.length < 8 → P bs)
    (byte : ∀ byte rest, byte.length = 8 → P rest → P (byte ++ rest)) (bs : List Bool) : P bs := by
  cases Nat.lt_or_ge bs.length 8 with
  | inl few => exact short bs few
  | inr many =>
      have eight : (bs.take 8).length = 8 := List.length_take_of_le many
      have rest := byteInduction short byte (bs.drop 8)
      rw [← List.take_append_drop 8 bs]
      exact byte _ _ eight rest
termination_by bs.length
decreasing_by
  simp only [List.length_drop]
  omega

/-- Packing splits a bit string: the bytes hold its front, the residue is the rest. -/
theorem packBytes_residue (bs : List Bool) : unpackBytes (packBytes bs) ++ residue bs = bs := by
  induction bs using byteInduction with
  | short bs few => rw [packBytes_short few, residue_short few, unpackBytes_nil, List.nil_append]
  | byte byte rest eight ih =>
      have small := valueOf_lt byte
      have bits := codeToBits_valueOf byte
      rw [eight] at small bits
      rw [packBytes_byte eight, residue_byte eight, unpackBytes_cons, List.append_assoc, ih,
        UInt8.toNat_ofNat', Nat.mod_eq_of_lt small, bits]

theorem length_residue (bs : List Bool) : (residue bs).length = bs.length % 8 := by
  induction bs using byteInduction with
  | short bs few => rw [residue_short few, Nat.mod_eq_of_lt few]
  | byte byte rest eight ih =>
      rw [residue_byte eight, ih, List.length_append, eight, Nat.add_mod_left]

theorem length_packBytes (bs : List Bool) : (packBytes bs).length = bs.length / 8 := by
  have split := congrArg List.length (packBytes_residue bs)
  simp only [List.length_append, length_unpackBytes, length_residue] at split
  omega

/-- Packing inverts the bit view on whole bytes. -/
theorem unpackBytes_packBytes {bs : List Bool} (whole : bs.length % 8 = 0) :
    unpackBytes (packBytes bs) = bs := by
  have none : residue bs = [] := List.length_eq_zero_iff.mp (by rw [length_residue, whole])
  have split := packBytes_residue bs
  rwa [none, List.append_nil] at split

theorem packBytes_unpackBytes (s : List UInt8) : packBytes (unpackBytes s) = s := by
  induction s with
  | nil =>
      rw [unpackBytes_nil, packBytes_nil]
  | cons b s ih =>
      rw [unpackBytes_cons, packBytes_byte (length_codeToBits _ 8), ih,
        valueOf_codeToBits b.toNat_lt, UInt8.ofNat_toNat]

theorem unpackBytes_injective : Function.Injective unpackBytes :=
  Function.LeftInverse.injective packBytes_unpackBytes

/-- What is packed first need not be packed again: bits after a residue are bits after the
    whole string. -/
theorem packBytes_append (xs ys : List Bool) :
    packBytes (xs ++ ys) = packBytes xs ++ packBytes (residue xs ++ ys) := by
  induction xs using byteInduction with
  | short xs few => rw [packBytes_short few, residue_short few, List.nil_append]
  | byte byte rest eight ih =>
      rw [List.append_assoc, packBytes_byte eight, packBytes_byte eight, residue_byte eight, ih,
        List.cons_append]

theorem residue_append (xs ys : List Bool) : residue (xs ++ ys) = residue (residue xs ++ ys) := by
  induction xs using byteInduction with
  | short xs few => rw [residue_short few]
  | byte byte rest eight ih => rw [List.append_assoc, residue_byte eight, residue_byte eight, ih]

/-- Packing a code of at least eight bits stores its top byte. -/
theorem packBytes_code (c s : Nat) :
    packBytes (codeToBits c (8 + s)) =
      UInt8.ofNat (c / 2 ^ s) :: packBytes (codeToBits c s) := by
  have low : c / 2 ^ s % 2 ^ 8 < 2 ^ 8 := Nat.mod_lt _ (by decide)
  rw [codeToBits_split, packBytes_byte (length_codeToBits _ 8), codeToBits_mod c,
    ← codeToBits_mod (c / 2 ^ s), valueOf_codeToBits low]
  congr 1
  apply UInt8.toNat_inj.mp
  simp

/-- The residue of a code is its low bits. -/
theorem residue_code (c l : Nat) :
    residue (codeToBits c l) = codeToBits (c % 2 ^ (l % 8)) (l % 8) := by
  have split := codeToBits_split c (8 * (l / 8)) (l % 8)
  rw [Nat.div_add_mod] at split
  have none : residue (codeToBits (c / 2 ^ (l % 8)) (8 * (l / 8))) = [] := by
    apply List.length_eq_zero_iff.mp
    rw [length_residue, length_codeToBits, Nat.mul_mod_right]
  have few : (codeToBits (c % 2 ^ (l % 8)) (l % 8)).length < 8 := by
    rw [length_codeToBits]
    exact Nat.mod_lt _ (by decide)
  rw [split, residue_append, none, List.nil_append, residue_short few]

end Bits
