import Mathlib

/-! # MSB-first bit strings

A code is a natural `c` read as `l` bits, most significant first. `codeToBits`
is that reading and `valueOf` its valuation; on strings of one length they are
inverse, so every shift, mask and division of the codec is settled here, for
unbounded widths.
-/

namespace Bits

/-- The `l`-bit big-endian bit string of `c`. -/
def codeToBits : Nat → Nat → List Bool
  | _, 0 => []
  | c, l + 1 => decide (c / 2 ^ l % 2 = 1) :: codeToBits (c % 2 ^ l) l

/-- The natural number a bit string denotes. -/
def valueOf : List Bool → Nat
  | [] => 0
  | b :: tl => (if b then 2 ^ tl.length else 0) + valueOf tl

@[simp] theorem length_codeToBits (c l : Nat) : (codeToBits c l).length = l := by
  induction l generalizing c with
  | zero => rfl
  | succ l ih => simp only [codeToBits, List.length_cons, ih]

theorem valueOf_lt (bs : List Bool) : valueOf bs < 2 ^ bs.length := by
  induction bs with
  | nil => simp [valueOf]
  | cons b tl ih =>
      simp only [valueOf, List.length_cons, Nat.pow_succ]
      split <;> omega

theorem valueOf_append (pre suf : List Bool) :
    valueOf (pre ++ suf) = valueOf pre * 2 ^ suf.length + valueOf suf := by
  induction pre with
  | nil => simp [valueOf]
  | cons b tl ih =>
      simp only [List.cons_append, valueOf, ih, List.length_append, Nat.pow_add]
      split <;> ring

/-- Appending a bit at the low end doubles the value and adds it: the step of the
    greedy decoder's accumulator. -/
theorem valueOf_snoc (pre : List Bool) (x : Bool) :
    valueOf (pre ++ [x]) = valueOf pre * 2 + (if x then 1 else 0) := by
  simp only [valueOf_append, valueOf, List.length_singleton, List.length_nil, Nat.pow_zero,
    Nat.pow_one, Nat.add_zero]

theorem valueOf_codeToBits {c l : Nat} (fits : c < 2 ^ l) : valueOf (codeToBits c l) = c := by
  induction l generalizing c with
  | zero => simp only [Nat.pow_zero, Nat.lt_one_iff] at fits; simp [codeToBits, valueOf, fits]
  | succ l ih =>
      have low : c % 2 ^ l < 2 ^ l := Nat.mod_lt _ (Nat.two_pow_pos l)
      have high : c / 2 ^ l < 2 := Nat.div_lt_of_lt_mul (by rwa [Nat.pow_succ] at fits)
      have parts := Nat.div_add_mod c (2 ^ l)
      simp only [codeToBits, valueOf, length_codeToBits, ih low, decide_eq_true_eq]
      generalize c / 2 ^ l = top at high parts ⊢
      rcases (by omega : top = 0 ∨ top = 1) with rfl | rfl
      · simpa using parts
      · simpa using parts

/-- A bit string is determined by its value and its length. -/
@[simp] theorem codeToBits_valueOf (bs : List Bool) : codeToBits (valueOf bs) bs.length = bs := by
  induction bs with
  | nil => rfl
  | cons b tl ih =>
      have bound := valueOf_lt tl
      simp only [List.length_cons, codeToBits, valueOf]
      cases b with
      | false =>
          simp only [Bool.false_eq_true, if_false, Nat.zero_add, Nat.div_eq_of_lt bound,
            Nat.mod_eq_of_lt bound, ih]
          rfl
      | true =>
          rw [if_pos rfl, Nat.add_div_left _ (Nat.two_pow_pos _), Nat.div_eq_of_lt bound,
            Nat.add_mod_left, Nat.mod_eq_of_lt bound, ih]
          rfl

theorem eq_of_valueOf_eq {as bs : List Bool} (sameLength : as.length = bs.length)
    (sameValue : valueOf as = valueOf bs) : as = bs := by
  rw [← codeToBits_valueOf as, ← codeToBits_valueOf bs, sameLength, sameValue]

/-- A string shifted left by `b` places and filled with `lo` is concatenation. -/
theorem codeToBits_shift {hi lo : Nat} (a b : Nat) (hiFits : hi < 2 ^ a) (loFits : lo < 2 ^ b) :
    codeToBits (hi * 2 ^ b + lo) (a + b) = codeToBits hi a ++ codeToBits lo b := by
  have fits : hi * 2 ^ b + lo < 2 ^ (a + b) := by
    rw [Nat.pow_add]
    calc hi * 2 ^ b + lo < hi * 2 ^ b + 2 ^ b := by omega
      _ = (hi + 1) * 2 ^ b := by ring
      _ ≤ 2 ^ a * 2 ^ b := Nat.mul_le_mul_right _ hiFits
  apply eq_of_valueOf_eq (by simp)
  rw [valueOf_codeToBits fits, valueOf_append, valueOf_codeToBits hiFits,
    valueOf_codeToBits loFits, length_codeToBits]

/-- Only the low `l` bits of `c` are read. -/
theorem codeToBits_mod (c l : Nat) : codeToBits (c % 2 ^ l) l = codeToBits c l := by
  cases l with
  | zero => rfl
  | succ l =>
      have top : c % 2 ^ (l + 1) / 2 ^ l = c / 2 ^ l % 2 := Nat.mod_mul_right_div_self c (2 ^ l) 2
      have low : c % 2 ^ (l + 1) % 2 ^ l = c % 2 ^ l :=
        Nat.mod_mod_of_dvd c (Nat.pow_dvd_pow 2 (Nat.le_succ l))
      rw [codeToBits, codeToBits, top, low, Nat.mod_mod]

/-- The `(a + b)`-bit string of `c` is its top `a` bits followed by its low `b` bits. -/
theorem codeToBits_split (c a b : Nat) :
    codeToBits c (a + b) = codeToBits (c / 2 ^ b) a ++ codeToBits (c % 2 ^ b) b := by
  have fits : c % 2 ^ (a + b) < 2 ^ (a + b) := Nat.mod_lt _ (Nat.two_pow_pos _)
  have width : 2 ^ (a + b) = 2 ^ b * 2 ^ a := by rw [Nat.add_comm, Nat.pow_add]
  have high : c % 2 ^ (a + b) / 2 ^ b = c / 2 ^ b % 2 ^ a := by
    rw [width, Nat.mod_mul_right_div_self]
  have low : c % 2 ^ (a + b) % 2 ^ b = c % 2 ^ b :=
    Nat.mod_mod_of_dvd c (Nat.pow_dvd_pow 2 (Nat.le_add_left b a))
  have parts : c / 2 ^ b % 2 ^ a * 2 ^ b + c % 2 ^ b = c % 2 ^ (a + b) := by
    rw [← high, ← low]
    exact Nat.div_add_mod' _ _
  rw [← codeToBits_mod, ← parts, codeToBits_shift a b (Nat.mod_lt _ (Nat.two_pow_pos a))
    (Nat.mod_lt _ (Nat.two_pow_pos b)), codeToBits_mod (c / 2 ^ b) a]

section Split

variable {c l : Nat} {pre suf : List Bool} (fits : c < 2 ^ l) (split : pre ++ suf = codeToBits c l)

include fits split

theorem valueOf_split : valueOf pre * 2 ^ suf.length + valueOf suf = c := by
  rw [← valueOf_append, split, valueOf_codeToBits fits]

/-- A code prefix's value is the code's top bits. -/
theorem valueOf_code_prefix : valueOf pre = c / 2 ^ suf.length := by
  rw [← valueOf_split fits split, Nat.mul_comm, Nat.mul_add_div (Nat.two_pow_pos _),
    Nat.div_eq_of_lt (valueOf_lt suf), Nat.add_zero]

/-- What is left of the code has its low bits as its value. -/
theorem valueOf_code_suffix : valueOf suf = c % 2 ^ suf.length := by
  rw [← valueOf_split fits split, Nat.mul_add_mod_self_right, Nat.mod_eq_of_lt (valueOf_lt suf)]

end Split

/-- `k` one-bits, as a code. -/
theorem codeToBits_ones (k : Nat) : codeToBits (2 ^ k - 1) k = List.replicate k true := by
  induction k with
  | zero => rfl
  | succ k ih =>
      have pos := Nat.two_pow_pos k
      have split : 2 ^ (k + 1) - 1 = 2 ^ k + (2 ^ k - 1) := by rw [Nat.pow_succ]; omega
      rw [codeToBits, split, Nat.add_div_left _ pos, Nat.add_mod_left,
        Nat.div_eq_of_lt (by omega), Nat.mod_eq_of_lt (a := 2 ^ k - 1) (by omega), ih]
      rfl

theorem valueOf_ones (k : Nat) : valueOf (List.replicate k true) = 2 ^ k - 1 := by
  rw [← codeToBits_ones, valueOf_codeToBits (Nat.sub_lt (Nat.two_pow_pos k) Nat.one_pos)]

/-- A string which commutes with a block of ones consists of ones. -/
theorem ones_of_commute {bs : List Bool} {k : Nat} (pos : 0 < k)
    (commute : bs ++ List.replicate k true = List.replicate k true ++ bs) :
    bs = List.replicate bs.length true := by
  obtain ⟨k, rfl⟩ : ∃ j, k = j + 1 := ⟨k - 1, by omega⟩
  induction bs with
  | nil => rfl
  | cons b tl ih =>
      have shifted : List.replicate k true ++ true :: tl = List.replicate (k + 1) true ++ tl := by
        rw [List.replicate_succ', List.append_assoc]
        rfl
      rw [List.replicate_succ, List.cons_append, List.cons_append, ← List.replicate_succ] at commute
      obtain ⟨rfl, rest⟩ := List.cons.inj commute
      rw [shifted] at rest
      rw [List.length_cons, List.replicate_succ, ← ih rest]

end Bits
