import HpackHuffman.Util.Loop

/-! # Comparing arrays

What a C program which calls another does with the arrays the calls have filled: it reads the
front of them and compares it.
-/

/-- A read before the end of the part taken reads the array. -/
theorem load_front {xs : List α} {n i : Nat} (before : i < n) :
    load (xs.take n) i = load xs i := by
  simp only [load, List.getElem?_take, if_pos before]

/-- The difference of the first two bytes which differ. -/
def compareBytes : List UInt8 → List UInt8 → Int
  | x :: xs, y :: ys => if x = y then compareBytes xs ys else x.toNat - y.toNat
  | _, _ => 0

theorem compareBytes_self (xs : List UInt8) : compareBytes xs xs = 0 := by
  induction xs with
  | nil => rfl
  | cons x xs ih => rw [compareBytes, if_pos rfl, ih]

theorem compareBytes_eq_zero {xs : List UInt8} :
    ∀ {ys : List UInt8}, xs.length = ys.length → (compareBytes xs ys = 0 ↔ xs = ys) := by
  induction xs with
  | nil =>
      intro ys length
      rw [List.length_eq_zero_iff.mp length.symm]
      exact iff_of_true rfl rfl
  | cons x xs ih =>
      intro ys length
      cases ys with
      | nil => cases length
      | cons y ys =>
          rw [compareBytes]
          by_cases same : x = y
          · rw [if_pos same, ih (Nat.succ.inj length), same]
            exact ⟨congrArg _, fun equal => (List.cons.inj equal).2⟩
          · rw [if_neg same]
            refine iff_of_false ?_ fun equal => same (List.cons.inj equal).1
            intro zero
            exact same (UInt8.toNat_inj.mp (by omega))

/-- The C function: compare the first `n` bytes of two objects which have as many. -/
def memcmp (a b : List UInt8) (n : Nat) : Exec Int :=
  if n ≤ a.length ∧ n ≤ b.length then .ok (compareBytes (a.take n) (b.take n))
  else .error .outOfBounds

theorem memcmp_same {a b : List UInt8} {n : Nat} (inA : n ≤ a.length) (inB : n ≤ b.length)
    (same : a.take n = b.take n) : memcmp a b n = .ok 0 := by
  rw [memcmp, if_pos ⟨inA, inB⟩, same, compareBytes_self]

/-- The C expression `known || memcmp(a, b, n) != 0`. -/
def differs (known : Prop) [Decidable known] (a b : List UInt8) (n : Nat) : Exec Bool :=
  if known then .ok true
  else do
    let c ← memcmp a b n
    return c != 0

/-- Two arrays with the same front do not differ there. -/
theorem differs_front {known : Prop} [Decidable known] {xs a b : List UInt8} (fine : ¬ known)
    (inA : xs <+: a) (inB : xs <+: b) : differs known a b xs.length = .ok false := by
  have same : a.take xs.length = b.take xs.length :=
    (List.prefix_iff_eq_take.mp inA).symm.trans (List.prefix_iff_eq_take.mp inB)
  simp only [differs, if_neg fine, memcmp_same inA.length_le inB.length_le same]
  rfl

/-- The comparison of what stands at the front of an array with all of another. -/
theorem differs_whole {xs ys a : List UInt8} (inA : xs <+: a) :
    differs (xs.length ≠ ys.length) a ys ys.length = .ok (decide (xs ≠ ys)) := by
  by_cases length : xs.length = ys.length
  · have front : a.take ys.length = xs := by
      rw [← length]
      exact (List.prefix_iff_eq_take.mp inA).symm
    have compared : memcmp a ys ys.length = .ok (compareBytes xs ys) := by
      rw [memcmp, if_pos ⟨length ▸ inA.length_le, Nat.le_refl _⟩, front, List.take_length]
    have zero := compareBytes_eq_zero length
    have agree : (compareBytes xs ys != 0) = decide (xs ≠ ys) := by
      by_cases same : xs = ys
      · simp [same, compareBytes_self]
      · simp [same, mt zero.mp same]
    simp only [differs, if_neg (not_not.mpr length), compared, bind, Except.bind, agree]
    rfl
  · have different : xs ≠ ys := fun same => length (congrArg _ same)
    simp [differs, length, different]

/-- What is written to the front of an array is its front. -/
theorem Buffer.front_write (b : Buffer) (vs : List UInt8) : vs <+: (b.write 0 vs).bytes := by
  rw [List.prefix_iff_eq_take]
  exact (b.take_write_front vs).symm
