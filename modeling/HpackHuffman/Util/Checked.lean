import HpackHuffman.Util.Loop

/-! # Computations with preconditions

A program written against checked machine words runs only while every operation meets its
precondition. A compiler which drops the checks owes the same result, and nothing else, on
exactly those runs.
-/

/-- The precondition a computation did not meet. -/
inductive Unmet where
  /-- A sum or a product does not fit its width. -/
  | overflow
  /-- A difference is negative. -/
  | underflow
  /-- A value is shifted by its width or more. -/
  | shift
  /-- An index is past the end of its buffer. -/
  | index
  /-- An argument misses the refinement of its type, or a call its precondition. -/
  | refinement
  deriving DecidableEq, Repr

/-- A computation which stops at the first precondition it does not meet. -/
abbrev Checked := Except Unmet

namespace Checked

/-- A precondition of the code called next. -/
def demand (p : Prop) [Decidable p] : Checked Unit := if p then .ok () else .error .refinement

theorem demand_ok {p : Prop} [Decidable p] (holds : p) : demand p = .ok () := if_pos holds

theorem holds_of_demand {p : Prop} [Decidable p] {u : Unit} (met : demand p = .ok u) : p := by
  by_contra missing
  simp [demand, missing] at met

namespace U32

def add (a b : UInt32) : Checked UInt32 :=
  if a.toNat + b.toNat < 2 ^ 32 then .ok (a + b) else .error .overflow

def sub (a b : UInt32) : Checked UInt32 :=
  if b.toNat ≤ a.toNat then .ok (a - b) else .error .underflow

def mul (a b : UInt32) : Checked UInt32 :=
  if a.toNat * b.toNat < 2 ^ 32 then .ok (a * b) else .error .overflow

variable {a b c : UInt32}

theorem add_spec (fits : a.toNat + b.toNat < 2 ^ 32) :
    ∃ c, add a b = .ok c ∧ c.toNat = a.toNat + b.toNat := by
  refine ⟨a + b, if_pos fits, ?_⟩
  rw [UInt32.toNat_add, Nat.mod_eq_of_lt fits]

theorem add_inv (done : add a b = .ok c) : c = a + b ∧ c.toNat = a.toNat + b.toNat := by
  unfold add at done
  split at done
  case isTrue fits =>
    obtain rfl := Except.ok.inj done
    exact ⟨rfl, by rw [UInt32.toNat_add, Nat.mod_eq_of_lt fits]⟩
  case isFalse => cases done

/-- Counting up to a bound does not overflow. -/
theorem succ_spec (lt : a.toNat < b.toNat) : ∃ c, add a 1 = .ok c ∧ c.toNat = a.toNat + 1 := by
  have small := b.toNat_lt
  exact add_spec (by simp only [UInt32.reduceToNat]; omega)

theorem sub_spec (le : b.toNat ≤ a.toNat) :
    ∃ c, sub a b = .ok c ∧ c.toNat = a.toNat - b.toNat :=
  ⟨a - b, if_pos le, UInt32.toNat_sub_of_le _ _ (UInt32.le_iff_toNat_le.mpr le)⟩

theorem sub_inv (done : sub a b = .ok c) : c = a - b := by
  unfold sub at done
  split at done
  case isTrue le => exact (Except.ok.inj done).symm
  case isFalse => cases done

theorem mul_spec (fits : a.toNat * b.toNat < 2 ^ 32) :
    ∃ c, mul a b = .ok c ∧ c.toNat = a.toNat * b.toNat := by
  refine ⟨a * b, if_pos fits, ?_⟩
  rw [UInt32.toNat_mul, Nat.mod_eq_of_lt fits]

theorem mul_inv (done : mul a b = .ok c) : c = a * b ∧ c.toNat = a.toNat * b.toNat := by
  unfold mul at done
  split at done
  case isTrue fits =>
    obtain rfl := Except.ok.inj done
    exact ⟨rfl, by rw [UInt32.toNat_mul, Nat.mod_eq_of_lt fits]⟩
  case isFalse => cases done

end U32

namespace U64

def add (a b : UInt64) : Checked UInt64 :=
  if a.toNat + b.toNat < 2 ^ 64 then .ok (a + b) else .error .overflow

def sub (a b : UInt64) : Checked UInt64 :=
  if b.toNat ≤ a.toNat then .ok (a - b) else .error .underflow

def shiftLeft (x : UInt64) (n : UInt32) : Checked UInt64 :=
  if n.toNat < 64 then .ok (x <<< n.toUInt64) else .error .shift

def shiftRight (x : UInt64) (n : UInt32) : Checked UInt64 :=
  if n.toNat < 64 then .ok (x >>> n.toUInt64) else .error .shift

variable {a b c x : UInt64} {n : UInt32}

theorem add_spec (fits : a.toNat + b.toNat < 2 ^ 64) :
    ∃ c, add a b = .ok c ∧ c.toNat = a.toNat + b.toNat := by
  refine ⟨a + b, if_pos fits, ?_⟩
  rw [UInt64.toNat_add, Nat.mod_eq_of_lt fits]

theorem add_inv (done : add a b = .ok c) : c = a + b := by
  unfold add at done
  split at done
  case isTrue fits => exact (Except.ok.inj done).symm
  case isFalse => cases done

theorem sub_inv (done : sub a b = .ok c) : c = a - b := by
  unfold sub at done
  split at done
  case isTrue le => exact (Except.ok.inj done).symm
  case isFalse => cases done

theorem shiftRight_spec (x : UInt64) (width : n.toNat < 64) :
    ∃ y, shiftRight x n = .ok y ∧ y.toNat = x.toNat / 2 ^ n.toNat :=
  ⟨_, if_pos width, toNat_shiftRight x width⟩

/-- A shift makes room for the low bits. -/
theorem shiftLeft_or_spec (lo : UInt64) (width : n.toNat < 64)
    (fits : x.toNat * 2 ^ n.toNat < 2 ^ 64) (low : lo.toNat < 2 ^ n.toNat) :
    ∃ y, shiftLeft x n = .ok y ∧ (y ||| lo).toNat = x.toNat * 2 ^ n.toNat + lo.toNat :=
  ⟨_, if_pos width, toNat_shiftLeft_or width fits low⟩

/-- `(1 << n) - 1`, a mask of `n` ones. -/
theorem mask_spec (width : n.toNat < 64) :
    ∃ top mask, shiftLeft 1 n = .ok top ∧ sub top 1 = .ok mask ∧ mask.toNat = 2 ^ n.toNat - 1 := by
  refine ⟨1 <<< n.toUInt64, 1 <<< n.toUInt64 - 1, if_pos width, if_pos ?_, toNat_mask width⟩
  rw [toNat_one_shiftLeft width, UInt64.toNat_one]
  exact Nat.one_le_two_pow

end U64

def index (xs : List α) (i : UInt32) : Checked α :=
  match xs[i.toNat]? with
  | some x => .ok x
  | none => .error .index

def upd (b : Buffer) (i : UInt32) (v : UInt8) : Checked Buffer :=
  if i.toNat < b.bytes.length then .ok ⟨b.bytes.set i.toNat v, b.stores ++ [i.toNat]⟩
  else .error .index

theorem index_of_get {xs : List α} {i : UInt32} {x : α} (here : xs[i.toNat]? = some x) :
    index xs i = .ok x := by
  simp only [index, here]

theorem index_of_lt {xs : List α} {i : UInt32} (inside : i.toNat < xs.length) :
    index xs i = .ok xs[i.toNat] := index_of_get (List.getElem?_eq_getElem inside)

theorem upd_of_lt {b : Buffer} {i : UInt32} {v : UInt8} (inside : i.toNat < b.bytes.length) :
    upd b i v = .ok (b.write i.toNat [v]) := by
  have stored := b.store_eq_write (v := v) inside
  rw [Buffer.store, if_pos inside] at stored
  rw [upd, if_pos inside, Except.ok.inj stored]

/-- `body i`, `body (i + 1)`, and so on, `n` times. -/
def forLoop.go (body : UInt32 → σ → Checked σ) : Nat → UInt32 → σ → Checked σ
  | 0, _, s => .ok s
  | n + 1, i, s => do
      let s' ← body i s
      go body n (i + 1) s'

/-- The loop from `start` up to `finish`, which is not below it. -/
def forLoop (start finish : UInt32) (body : UInt32 → σ → Checked σ) (s : σ) : Checked σ := do
  demand (start ≤ finish)
  forLoop.go body (finish.toNat - start.toNat) start s

theorem forLoop.go_invariant {body : UInt32 → σ → Checked σ} (inv : Nat → σ → Prop) {finish n : Nat}
    (step : ∀ i s, i.toNat < finish → inv i.toNat s →
      ∃ s', body i s = .ok s' ∧ inv (i.toNat + 1) s')
    {i : UInt32} {s : σ} (small : finish < 2 ^ 32) (turns : i.toNat + n = finish)
    (here : inv i.toNat s) : ∃ s', go body n i s = .ok s' ∧ inv finish s' := by
  induction n generalizing i s with
  | zero => exact ⟨s, rfl, turns ▸ here⟩
  | succ n ih =>
      obtain ⟨s', done, keeps⟩ := step i s (by omega) here
      have next : (i + 1).toNat = i.toNat + 1 := by
        rw [UInt32.toNat_add, UInt32.toNat_one]
        omega
      obtain ⟨s'', rest, last⟩ := ih (by omega) (next ▸ keeps)
      refine ⟨s'', ?_, last⟩
      simp only [go, done, bind, Except.bind]
      exact rest

/-- The loop's rule: `inv i` holds before the turn `i` and after the last. -/
theorem forLoop_invariant {body : UInt32 → σ → Checked σ} (inv : Nat → σ → Prop)
    {start finish : UInt32} {s : σ} (le : start.toNat ≤ finish.toNat)
    (step : ∀ i s, i.toNat < finish.toNat → inv i.toNat s →
      ∃ s', body i s = .ok s' ∧ inv (i.toNat + 1) s')
    (here : inv start.toNat s) :
    ∃ s', forLoop start finish body s = .ok s' ∧ inv finish.toNat s' := by
  obtain ⟨s', done, last⟩ := forLoop.go_invariant inv step finish.toNat_lt (Nat.add_sub_cancel' le)
    here
  refine ⟨s', ?_, last⟩
  simp only [forLoop, demand_ok (UInt32.le_iff_toNat_le.mpr le), bind, Except.bind]
  exact done

end Checked

/-- Where the checked `x` has a result, the unchecked `y` has that result. -/
def Lowers (x : Checked α) (y : Exec α) : Prop := ∀ a, x = .ok a → y = .ok a

namespace Lowers

open Checked

variable {x : Checked α} {y : Exec α} {f : α → Checked β}

theorem ok (a : α) : Lowers (.ok a) (.ok a) := by
  intro b same
  rw [Except.ok.inj same]

/-- A check without a counterpart. -/
theorem check {z : Exec β} (rest : ∀ a, x = .ok a → Lowers (f a) z) : Lowers (x >>= f) z := by
  intro b done
  cases first : x with
  | error unmet =>
      rw [first] at done
      cases done
  | ok a =>
      rw [first] at done
      exact rest a first b done

theorem bind {g : α → Exec β} (first : Lowers x y) (rest : ∀ a, x = .ok a → Lowers (f a) (g a)) :
    Lowers (x >>= f) (y >>= g) := by
  refine check fun a done => ?_
  rw [first a done]
  exact rest a done

theorem ite {p : Prop} [Decidable p] {x' : Checked α} {y' : Exec α} (yes : p → Lowers x y)
    (no : ¬ p → Lowers x' y') : Lowers (if p then x else x') (if p then y else y') := by
  by_cases holds : p
  · simp only [if_pos holds]
    exact yes holds
  · simp only [if_neg holds]
    exact no holds

/-- A `while (true)` does one turn, and then the rest. -/
theorem turn {body : σ → Exec (Turn σ β)} {fuel : Nat} {s : σ} {z : Checked β}
    (one : Lowers z (body s >>= fun next =>
      match next with
      | .ret r => .ok r
      | .again s' => whileTrue body fuel s')) : Lowers z (whileTrue body (fuel + 1) s) := by
  intro b done
  rw [whileTrue, ← one b done]
  cases body s with
  | error stop => rfl
  | ok next => cases next <;> rfl

theorem index (xs : List α) (i : UInt32) : Lowers (index xs i) (load xs i.toNat) := by
  intro a done
  unfold Checked.index at done
  unfold load
  cases here : xs[i.toNat]? with
  | none => simp [here] at done
  | some b =>
      simp only [here] at done
      rw [Except.ok.inj done]

theorem upd (b : Buffer) (i : UInt32) (v : UInt8) : Lowers (upd b i v) (b.store i.toNat v) := by
  intro a done
  unfold Checked.upd at done
  split at done
  case isTrue inside =>
    rw [Buffer.store, if_pos inside]
    exact congrArg Except.ok (Except.ok.inj done)
  case isFalse => cases done

theorem shiftLeft (x : UInt64) (n : UInt32) : Lowers (U64.shiftLeft x n) (shl x n) := by
  intro a done
  unfold U64.shiftLeft at done
  split at done
  case isTrue width =>
    rw [shl_eq width]
    exact congrArg Except.ok (Except.ok.inj done)
  case isFalse => cases done

theorem shiftRight (x : UInt64) (n : UInt32) : Lowers (U64.shiftRight x n) (shr x n) := by
  intro a done
  unfold U64.shiftRight at done
  split at done
  case isTrue width =>
    rw [shr, if_pos (UInt32.lt_iff_toNat_lt.mpr width)]
    exact congrArg Except.ok (Except.ok.inj done)
  case isFalse => cases done

end Lowers
