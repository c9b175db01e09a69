import HpackHuffman.Util.Bytes
import HpackHuffman.Spec.Dfa

/-! # Byte buffers as bit strings

The decoder reads a buffer bit by bit, most significant bit first in each byte,
and the executable decoder takes it a nibble at a time. Both see the bit string
which the encoder fills a byte at a time.
-/

namespace HpackHuffman

open Bits

/-- The `g`-th bit of `s`. -/
def bitAt (s : List Byte) (g : Nat) (_h : g < 8 * s.length) : Bool :=
  decide (s[g / 8].toNat / 2 ^ (7 - g % 8) % 2 = 1)

/-- The bits of `s` from the global index `g` on. -/
def bitsFrom (s : List Byte) (g : Nat) : List Bool :=
  if h : g < 8 * s.length then bitAt s g h :: bitsFrom s (g + 1) else []
termination_by 8 * s.length - g

def bytesToBits (s : List Byte) : List Bool := bitsFrom s 0

theorem bitsFrom_unfold {s : List Byte} {g : Nat} (h : g < 8 * s.length) :
    bitsFrom s g = bitAt s g h :: bitsFrom s (g + 1) := by
  rw [bitsFrom, dif_pos h]

theorem bitsFrom_end {s : List Byte} {g : Nat} (h : 8 * s.length ≤ g) : bitsFrom s g = [] := by
  rw [bitsFrom, dif_neg (by omega)]

/-- The nibble at bit index `g`, a multiple of 4: the high half of a byte, then the low half. -/
def nibbleAt (s : List Byte) (g : Nat) (_h : g < 8 * s.length) : Nibble :=
  if g % 8 = 0 then ⟨s[g / 8].toNat / 16, by have := s[g / 8].toNat_lt; omega⟩
  else ⟨s[g / 8].toNat % 16, Nat.mod_lt _ (by decide)⟩

/-- The four bits of a nibble are the next four bits of the buffer. -/
theorem bitsFrom_nibble {s : List Byte} {g : Nat} (h : g < 8 * s.length) (aligned : g % 4 = 0) :
    bitsFrom s g = nibbleBits (nibbleAt s g h) ++ bitsFrom s (g + 4) := by
  rw [bitsFrom_unfold h, bitsFrom_unfold (g := g + 1) (by omega),
    bitsFrom_unfold (g := g + 1 + 1) (by omega), bitsFrom_unfold (g := g + 1 + 1 + 1) (by omega)]
  have byte₁ : (g + 1) / 8 = g / 8 := by omega
  have byte₂ : (g + 1 + 1) / 8 = g / 8 := by omega
  have byte₃ : (g + 1 + 1 + 1) / 8 = g / 8 := by omega
  simp only [bitAt, byte₁, byte₂, byte₃, nibbleBits, nibbleAt, List.cons_append, List.nil_append]
  rcases (by omega : g % 8 = 0 ∨ g % 8 = 4) with high | low
  · have bit₁ : (g + 1) % 8 = 1 := by omega
    have bit₂ : (g + 1 + 1) % 8 = 2 := by omega
    have bit₃ : (g + 1 + 1 + 1) % 8 = 3 := by omega
    simp [high, bit₁, bit₂, bit₃, Nat.div_div_eq_div_mul]
  · have bit₁ : (g + 1) % 8 = 5 := by omega
    have bit₂ : (g + 1 + 1) % 8 = 6 := by omega
    have bit₃ : (g + 1 + 1 + 1) % 8 = 7 := by omega
    simp only [low, bit₁, bit₂, bit₃]
    norm_num
    omega

theorem bytesToBits_drop {s : List Byte} {g : Nat} (le : g ≤ 8 * s.length) :
    (bytesToBits s).drop g = bitsFrom s g := by
  induction g with
  | zero => rfl
  | succ g ih => rw [← List.drop_drop, ih (by omega), bitsFrom_unfold (by omega), List.drop_one,
      List.tail_cons]

/-- The bits read after one more nibble. -/
theorem bytesToBits_take_nibble {s : List Byte} {g : Nat} (h : g < 8 * s.length)
    (aligned : g % 4 = 0) :
    (bytesToBits s).take (g + 4) = (bytesToBits s).take g ++ nibbleBits (nibbleAt s g h) := by
  rw [List.take_add, bytesToBits_drop (Nat.le_of_lt h), bitsFrom_nibble h aligned]
  rfl

theorem bitsFrom_cons (b : Byte) (s : List Byte) (g : Nat) :
    bitsFrom (b :: s) (g + 8) = bitsFrom s g := by
  fun_induction bitsFrom s g with
  | case1 g h ih =>
      have inside : g + 8 < 8 * (b :: s).length := by simp only [List.length_cons]; omega
      have next : (g + 8) / 8 = g / 8 + 1 := by omega
      have bit : (g + 8) % 8 = g % 8 := by omega
      rw [bitsFrom_unfold inside, Nat.add_right_comm, ih]
      simp only [bitAt, next, bit, List.getElem_cons_succ]
  | case2 g h => exact bitsFrom_end (by simp only [List.length_cons]; omega)

/-- The high half of a byte. -/
def highNibble (b : Byte) : Nibble := ⟨b.toNat / 16, by have := b.toNat_lt; omega⟩

/-- The low half of a byte. -/
def lowNibble (b : Byte) : Nibble := ⟨b.toNat % 16, Nat.mod_lt _ (by decide)⟩

theorem codeToBits_nibble (n : Nibble) : codeToBits n.val 4 = nibbleBits n := by
  revert n
  decide

/-- A byte's two halves, high and then low, are its bits. -/
theorem codeToBits_byte (b : Byte) :
    codeToBits b.toNat 8 = nibbleBits (highNibble b) ++ nibbleBits (lowNibble b) := by
  rw [codeToBits_split b.toNat 4 4, ← codeToBits_nibble, ← codeToBits_nibble]
  rfl

/-- The bit view is the concatenation of the bytes' bits. -/
theorem bytesToBits_eq (s : List Byte) : bytesToBits s = unpackBytes s := by
  induction s with
  | nil => exact bitsFrom_end (Nat.le_refl 0)
  | cons b s ih =>
      have high : 0 < 8 * (b :: s).length := by simp only [List.length_cons]; omega
      have low : 0 + 4 < 8 * (b :: s).length := by simp only [List.length_cons]; omega
      have rest : bitsFrom (b :: s) (0 + 4 + 4) = bytesToBits s := bitsFrom_cons b s 0
      rw [bytesToBits, bitsFrom_nibble high (by rfl), bitsFrom_nibble low (by rfl), rest, ih,
        unpackBytes_cons, codeToBits_byte, List.append_assoc]
      rfl

theorem bytesToBits_append (s t : List Byte) :
    bytesToBits (s ++ t) = bytesToBits s ++ bytesToBits t := by
  simp only [bytesToBits_eq, unpackBytes_append]

@[simp] theorem length_bytesToBits (s : List Byte) : (bytesToBits s).length = 8 * s.length := by
  rw [bytesToBits_eq, length_unpackBytes]

theorem bytesToBits_injective : Function.Injective bytesToBits := by
  intro s t same
  rw [bytesToBits_eq, bytesToBits_eq] at same
  exact unpackBytes_injective same

end HpackHuffman
