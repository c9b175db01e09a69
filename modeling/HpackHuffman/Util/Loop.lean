import Mathlib

/-! # Execution of C loops over bounded memory

A C computation either finishes, steps outside a buffer, or is still running
when its fuel is spent. Only the first outcome is a result: a statement
`f x = .ok r` says that `f` terminates, stays inside every buffer and returns `r`.
-/

/-- Why a computation has no result. -/
inductive Stop where
  /-- A buffer or an array was accessed past its end. -/
  | outOfBounds
  /-- A value was shifted by its width or more. -/
  | undefinedShift
  /-- The fuel bounding the number of loop turns ran out. -/
  | outOfFuel
  deriving DecidableEq, Repr

/-- A C computation. -/
abbrev Exec := Except Stop

/-- A computation which finishes has finished its first step. -/
theorem exists_ok_of_bind {x : Exec α} {f : α → Exec β} {b : β} (done : x >>= f = .ok b) :
    ∃ a, x = .ok a ∧ f a = .ok b := by
  cases x with
  | error stop => cases done
  | ok a => exact ⟨a, rfl, done⟩

/-- What one turn of a `while (true)` body does. -/
inductive Turn (σ : Type u) (ρ : Type v) where
  /-- Go round again, with the loop-carried variables updated. -/
  | again (s : σ)
  /-- Leave the function with a result. -/
  | ret (r : ρ)

/-- `while (true) body`, for at most `fuel` turns. -/
def whileTrue (body : σ → Exec (Turn σ ρ)) : Nat → σ → Exec ρ
  | 0, _ => .error .outOfFuel
  | fuel + 1, s =>
      match body s with
      | .error stop => .error stop
      | .ok (.ret r) => .ok r
      | .ok (.again s') => whileTrue body fuel s'

namespace whileTrue

variable {body : σ → Exec (Turn σ ρ)} {s : σ}

/-- The total-correctness rule. `inv` holds at every loop head, `answer s` is the result
    still to come from the head `s`, and every turn that goes round keeps the answer and
    decreases the variant. -/
theorem returns_answer (inv : σ → Prop) (answer : σ → ρ) (variant : σ → Nat)
    (turn : ∀ s, inv s →
      body s = .ok (.ret (answer s)) ∨
        ∃ s', body s = .ok (.again s') ∧ inv s' ∧ answer s' = answer s ∧ variant s' < variant s)
    {fuel : Nat} (start : inv s) (enough : variant s < fuel) :
    whileTrue body fuel s = .ok (answer s) := by
  induction fuel generalizing s with
  | zero => omega
  | succ fuel ih =>
      cases turn s start with
      | inl done => simp only [whileTrue, done]
      | inr more =>
          obtain ⟨s', next, keeps, same, less⟩ := more
          simp only [whileTrue, next]
          rw [ih keeps (by omega), same]

/-- A loop which goes round and returns where another does has the other's results. `rel`
    relates the two at their heads, and `post` what they return. -/
theorem simulates {body' : τ → Exec (Turn τ π)} {t : τ} (rel : σ → τ → Prop)
    (post : ρ → π → Prop)
    (again : ∀ s t s', rel s t → body s = .ok (.again s') →
      ∃ t', body' t = .ok (.again t') ∧ rel s' t')
    (ret : ∀ s t r, rel s t → body s = .ok (.ret r) →
      ∃ p, body' t = .ok (.ret p) ∧ post r p)
    {fuel fuel' : Nat} {r : ρ} (start : rel s t) (result : whileTrue body fuel s = .ok r)
    (enough : fuel ≤ fuel') : ∃ p, whileTrue body' fuel' t = .ok p ∧ post r p := by
  induction fuel generalizing fuel' s t with
  | zero => simp [whileTrue] at result
  | succ fuel ih =>
      obtain ⟨more, rfl⟩ : ∃ more, fuel' = more + 1 := ⟨fuel' - 1, by omega⟩
      simp only [whileTrue] at result ⊢
      cases turn : body s with
      | error stop => simp [turn] at result
      | ok next =>
          simp only [turn] at result
          cases next with
          | ret r' =>
              obtain rfl := Except.ok.inj result
              obtain ⟨p, turn', here⟩ := ret s t r' start turn
              exact ⟨p, by simp only [turn'], here⟩
          | again s' =>
              obtain ⟨t', turn', there⟩ := again s t s' start turn
              simp only [turn']
              exact ih there result (Nat.le_of_succ_le_succ enough)

end whileTrue

/-- The states in which a loop started at `s` reaches the top of its body. -/
inductive LoopHead (body : σ → Exec (Turn σ ρ)) (s : σ) : σ → Prop where
  | start : LoopHead body s s
  | again {v v' : σ} (head : LoopHead body s v) (turn : body v = .ok (.again v')) :
      LoopHead body s v'

namespace LoopHead

variable {body body' : σ → Exec (Turn σ ρ)} {s v v' : σ}

/-- What holds at the start and is kept by every turn holds at every loop head. -/
theorem invariant {inv : σ → Prop} (head : LoopHead body s v) (start : inv s)
    (keeps : ∀ v v', inv v → body v = .ok (.again v') → inv v') : inv v := by
  induction head with
  | start => exact start
  | again _ turn ih => exact keeps _ _ ih turn

/-- The same, told by what a turn does. -/
theorem invariant_of_turn {inv : σ → Prop} (head : LoopHead body s v) (start : inv s)
    (turn : ∀ v, inv v → (∃ r, body v = .ok (.ret r)) ∨ ∃ v', body v = .ok (.again v') ∧ inv v') :
    inv v := by
  refine head.invariant start ?_
  intro v v' here again
  cases turn v here with
  | inl ret =>
      obtain ⟨r, ret⟩ := ret
      simp [again] at ret
  | inr next =>
      obtain ⟨w, again', keeps⟩ := next
      obtain rfl : w = v' := by simpa [again] using again'.symm
      exact keeps

theorem trans (later : LoopHead body v v') (head : LoopHead body s v) : LoopHead body s v' := by
  induction later with
  | start => exact head
  | again _ turn ih => exact .again ih turn

/-- Bodies which agree at every loop head make the same loop. -/
theorem whileTrue_congr (same : ∀ v, LoopHead body s v → body' v = body v) (fuel : Nat) :
    whileTrue body' fuel s = whileTrue body fuel s := by
  induction fuel generalizing s with
  | zero => rfl
  | succ fuel ih =>
      simp only [whileTrue, same s .start]
      cases turn : body s with
      | error stop => rfl
      | ok next =>
          cases next with
          | ret r => rfl
          | again s' =>
              apply ih
              intro v head
              exact same v (head.trans (.again .start turn))

/-- A loop which returns does so from one of its heads. -/
theorem exists_ret {fuel : Nat} {r : ρ} (result : whileTrue body fuel s = .ok r) :
    ∃ v, LoopHead body s v ∧ body v = .ok (.ret r) := by
  induction fuel generalizing s with
  | zero => simp [whileTrue] at result
  | succ fuel ih =>
      simp only [whileTrue] at result
      cases turn : body s with
      | error stop => simp [turn] at result
      | ok next =>
          simp only [turn] at result
          cases next with
          | ret r' =>
              obtain rfl := Except.ok.inj result
              exact ⟨s, .start, turn⟩
          | again s' =>
              obtain ⟨v, head, ret⟩ := ih result
              exact ⟨v, head.trans (.again .start turn), ret⟩

end LoopHead

/-- The loop head after `i` turns, unless the loop has ended by then. -/
def headAfter (body : σ → Exec (Turn σ ρ)) (s : σ) : Nat → Option σ
  | 0 => some s
  | i + 1 =>
      match (headAfter body s i).map body with
      | some (.ok (.again v)) => some v
      | _ => none

theorem headAfter_succ {body : σ → Exec (Turn σ ρ)} {s v' : σ} {i : Nat}
    (head : headAfter body s (i + 1) = some v') :
    ∃ v, headAfter body s i = some v ∧ body v = .ok (.again v') := by
  unfold headAfter at head
  split at head
  case h_1 v turn =>
    obtain rfl := Option.some.inj head
    exact Option.map_eq_some_iff.mp turn
  case h_2 => cases head

/-- An invariant which counts the turns. -/
theorem headAfter_invariant {body : σ → Exec (Turn σ ρ)} {s v : σ} {inv : Nat → σ → Prop}
    (start : inv 0 s)
    (keeps : ∀ i v v', inv i v → body v = .ok (.again v') → inv (i + 1) v') {i : Nat}
    (head : headAfter body s i = some v) : inv i v := by
  induction i generalizing v with
  | zero =>
      obtain rfl := Option.some.inj head
      exact start
  | succ i ih =>
      obtain ⟨before, head', turn⟩ := headAfter_succ head
      exact keeps i before v (ih head') turn

/-- Counting up to a `uint32_t` bound does not wrap. -/
theorem toNat_succ {i n : UInt32} (lt : i.toNat < n.toNat) : (i + 1).toNat = i.toNat + 1 := by
  have := n.toNat_lt
  simp only [UInt32.toNat_add, UInt32.reduceToNat]
  omega

theorem toNat_ofNat_small {n : Nat} (small : n < 2 ^ 27) : (UInt32.ofNat n).toNat = n := by
  rw [UInt32.toNat_ofNat']
  omega

/-- A short list is all of what its length, as a `uint32_t`, takes of it. -/
theorem take_whole {xs : List α} (small : xs.length < 2 ^ 27) :
    xs = xs.take (UInt32.ofNat xs.length).toNat := by
  rw [toNat_ofNat_small small, List.take_length]

/-- An index inside a short list has not reached its length. -/
theorem ne_ofNat_length {xs : List α} {i : UInt32} (small : xs.length < 2 ^ 27)
    (inside : i.toNat < xs.length) : i ≠ UInt32.ofNat xs.length := by
  intro last
  rw [last, toNat_ofNat_small small] at inside
  exact Nat.lt_irrefl _ inside

/-- Read `xs[i]`. -/
def load (xs : List α) (i : Nat) : Exec α :=
  match xs[i]? with
  | some x => .ok x
  | none => .error .outOfBounds

theorem load_of_lt {xs : List α} {i : Nat} (inside : i < xs.length) : load xs i = .ok xs[i] := by
  simp only [load, List.getElem?_eq_getElem inside]

theorem lt_of_load {xs : List α} {i : Nat} {x : α} (read : load xs i = .ok x) :
    ∃ inside : i < xs.length, xs[i] = x := by
  by_cases inside : i < xs.length
  · rw [load_of_lt inside] at read
    exact ⟨inside, Except.ok.inj read⟩
  · simp [load, List.getElem?_eq_none (Nat.le_of_not_lt inside)] at read

/-- A read inside a prefix reads the prefix. -/
theorem load_take {xs : List α} {n i : Nat} (inside : i < (xs.take n).length) :
    load xs i = .ok (xs.take n)[i] := by
  have whole : i < xs.length := Nat.lt_of_lt_of_le inside (List.length_take_le' n xs)
  rw [load_of_lt whole, List.getElem_take]

/-- The C expression `x << n` of a `uint64_t`. -/
def shl (x : UInt64) (n : UInt32) : Exec UInt64 :=
  if n < 64 then .ok (x <<< n.toUInt64) else .error .undefinedShift

/-- The C expression `x >> n` of a `uint64_t`. -/
def shr (x : UInt64) (n : UInt32) : Exec UInt64 :=
  if n < 64 then .ok (x >>> n.toUInt64) else .error .undefinedShift

/-- A value of `n` bits has room to move up by `k`. -/
theorem shift_fits {x n k : Nat} (fits : x < 2 ^ n) (width : n + k ≤ 64) : x * 2 ^ k < 2 ^ 64 := by
  calc x * 2 ^ k < 2 ^ n * 2 ^ k := Nat.mul_lt_mul_of_pos_right fits (Nat.two_pow_pos k)
    _ = 2 ^ (n + k) := (Nat.pow_add 2 n k).symm
    _ ≤ 2 ^ 64 := Nat.pow_le_pow_right (by decide) width

/-- A shift which drops no set bit is a multiplication. -/
theorem toNat_shiftLeft {x : UInt64} {n : UInt32} (width : n.toNat < 64)
    (fits : x.toNat * 2 ^ n.toNat < 2 ^ 64) :
    (x <<< n.toUInt64).toNat = x.toNat * 2 ^ n.toNat := by
  rw [UInt64.toNat_shiftLeft, UInt32.toNat_toUInt64, Nat.mod_eq_of_lt width, Nat.shiftLeft_eq,
    Nat.mod_eq_of_lt fits]

theorem shl_eq {x : UInt64} {n : UInt32} (width : n.toNat < 64) :
    shl x n = .ok (x <<< n.toUInt64) :=
  if_pos (UInt32.lt_iff_toNat_lt.mpr width)

/-- A shift makes room for the low bits, and `|` adds them. -/
theorem toNat_shiftLeft_or {x lo : UInt64} {n : UInt32} (width : n.toNat < 64)
    (fits : x.toNat * 2 ^ n.toNat < 2 ^ 64) (low : lo.toNat < 2 ^ n.toNat) :
    (x <<< n.toUInt64 ||| lo).toNat = x.toNat * 2 ^ n.toNat + lo.toNat := by
  rw [UInt64.toNat_or, toNat_shiftLeft width fits, Nat.mul_comm]
  exact (Nat.two_pow_add_eq_or_of_lt low x.toNat).symm

theorem shl_or_spec {x : UInt64} {n : UInt32} (lo : UInt64) (width : n.toNat < 64)
    (fits : x.toNat * 2 ^ n.toNat < 2 ^ 64) (low : lo.toNat < 2 ^ n.toNat) :
    ∃ y, shl x n = .ok y ∧ (y ||| lo).toNat = x.toNat * 2 ^ n.toNat + lo.toNat :=
  ⟨_, shl_eq width, toNat_shiftLeft_or width fits low⟩

theorem toNat_shiftRight {n : UInt32} (x : UInt64) (width : n.toNat < 64) :
    (x >>> n.toUInt64).toNat = x.toNat / 2 ^ n.toNat := by
  rw [UInt64.toNat_shiftRight, UInt32.toNat_toUInt64, Nat.mod_eq_of_lt width,
    Nat.shiftRight_eq_div_pow]

theorem shr_spec {n : UInt32} (x : UInt64) (width : n.toNat < 64) :
    ∃ y, shr x n = .ok y ∧ y.toNat = x.toNat / 2 ^ n.toNat :=
  ⟨_, if_pos (UInt32.lt_iff_toNat_lt.mpr width), toNat_shiftRight x width⟩

theorem toNat_one_shiftLeft {n : UInt32} (width : n.toNat < 64) :
    ((1 : UInt64) <<< n.toUInt64).toNat = 2 ^ n.toNat := by
  have lt : 2 ^ n.toNat < 2 ^ 64 := Nat.pow_lt_pow_right (by decide) width
  have value := @toNat_shiftLeft 1 n width (by simpa using lt)
  rwa [UInt64.toNat_one, Nat.one_mul] at value

/-- `(1 << n) - 1`, a mask of `n` ones. -/
theorem toNat_mask {n : UInt32} (width : n.toNat < 64) :
    ((1 : UInt64) <<< n.toUInt64 - 1).toNat = 2 ^ n.toNat - 1 := by
  have value := toNat_one_shiftLeft width
  have le : (1 : UInt64) ≤ 1 <<< n.toUInt64 :=
    UInt64.le_iff_toNat_le.mpr (by rw [value]; exact Nat.two_pow_pos n.toNat)
  rw [UInt64.toNat_sub_of_le _ _ le, value]
  rfl

theorem mask_spec {n : UInt32} (width : n.toNat < 64) :
    ∃ y, shl 1 n = .ok y ∧ (y - 1).toNat = 2 ^ n.toNat - 1 :=
  ⟨_, shl_eq width, toNat_mask width⟩

theorem and_mask {x y : UInt64} {n : Nat} (mask : (y - 1).toNat = 2 ^ n - 1) :
    (x &&& (y - 1)).toNat = x.toNat % 2 ^ n := by
  rw [UInt64.toNat_and, mask, Nat.and_two_pow_sub_one_eq_mod]

/-- The C expression `x << n` of a `uint64_t`, for an `int` amount. -/
def shlInt (x : UInt64) (n : Int32) : Exec UInt64 :=
  if 0 ≤ n then shl x n.toUInt32 else .error .undefinedShift

/-- The C expression `x >> n` of a `uint64_t`, for an `int` amount. -/
def shrInt (x : UInt64) (n : Int32) : Exec UInt64 :=
  if 0 ≤ n then shr x n.toUInt32 else .error .undefinedShift

/-- The C expression `x << n` of an `unsigned int`, for an `int` amount. -/
def shlUInt (x : UInt32) (n : Int32) : Exec UInt32 :=
  if 0 ≤ n ∧ n < 32 then .ok (x <<< n.toUInt32) else .error .undefinedShift

/-- A small count is the same number as an `int`. -/
theorem toInt_toInt32 {n : UInt32} (small : n.toNat < 2 ^ 31) : n.toInt32.toInt = n.toNat := by
  have value := Int32.toInt_ofNat_of_lt small
  rwa [← UInt32.toInt32_ofNat', UInt32.ofNat_toNat] at value

theorem ofNat_le_toInt32 {m : Int32} {k : Nat} {n : UInt32} (small : n.toNat < 2 ^ 31)
    (value : m.toInt = k) : m ≤ n.toInt32 ↔ k ≤ n.toNat := by
  rw [Int32.le_iff_toInt_le, toInt_toInt32 small, value, Int.ofNat_le]

theorem ofNat_lt_toInt32 {m : Int32} {k : Nat} {n : UInt32} (small : n.toNat < 2 ^ 31)
    (value : m.toInt = k) : m < n.toInt32 ↔ k < n.toNat := by
  rw [Int32.lt_iff_toInt_lt, toInt_toInt32 small, value, Int.ofNat_lt]

theorem shlInt_toInt32 (x : UInt64) {n : UInt32} (small : n.toNat < 2 ^ 31) :
    shlInt x n.toInt32 = shl x n :=
  if_pos ((ofNat_le_toInt32 small rfl).mpr (Nat.zero_le _))

theorem shrInt_toInt32 (x : UInt64) {n : UInt32} (small : n.toNat < 2 ^ 31) :
    shrInt x n.toInt32 = shr x n :=
  if_pos ((ofNat_le_toInt32 small rfl).mpr (Nat.zero_le _))

/-- A mask made in 32 bits is the mask made in 64. -/
theorem toUInt64_mask {n : UInt32} (width : n.toNat < 32) :
    ((1 : UInt32) <<< n - 1).toUInt64 = (1 : UInt64) <<< n.toUInt64 - 1 := by
  have lt : 2 ^ n.toNat < 2 ^ 32 := Nat.pow_lt_pow_right (by decide) width
  have one : ((1 : UInt32) <<< n).toNat = 2 ^ n.toNat := by
    rw [UInt32.toNat_shiftLeft, Nat.mod_eq_of_lt width, UInt32.toNat_one, Nat.shiftLeft_eq,
      Nat.one_mul, Nat.mod_eq_of_lt lt]
  have le : (1 : UInt32) ≤ 1 <<< n :=
    UInt32.le_iff_toNat_le.mpr (by rw [one]; exact Nat.two_pow_pos n.toNat)
  apply UInt64.toNat_inj.mp
  rw [toNat_mask (Nat.lt_trans width (by decide)), UInt32.toNat_toUInt64,
    UInt32.toNat_sub_of_le _ _ le, one]
  rfl

/-- Masking with `0xFF` before the cast to a byte changes nothing. -/
theorem toUInt8_and (x : UInt64) : (x &&& 0xFF).toUInt8 = x.toUInt8 := by
  apply UInt8.toNat_inj.mp
  have low : (x &&& 0xFF).toNat = x.toNat % 2 ^ 8 := by
    rw [UInt64.toNat_and]
    exact Nat.and_two_pow_sub_one_eq_mod _ 8
  rw [UInt64.toNat_toUInt8, UInt64.toNat_toUInt8, low, Nat.mod_mod]

theorem shlUInt_toInt32 (x : UInt32) {n : UInt32} (width : n.toNat < 32) :
    shlUInt x n.toInt32 = .ok (x <<< n) := by
  have small : n.toNat < 2 ^ 31 := Nat.lt_trans width (by decide)
  have wide : n.toInt32 < 32 := by
    have value : (32 : Int32).toInt = (32 : Nat) := rfl
    rw [Int32.lt_iff_toInt_lt, toInt_toInt32 small, value, Int.ofNat_lt]
    exact width
  exact if_pos ⟨(ofNat_le_toInt32 small rfl).mpr (Nat.zero_le _), wide⟩

/-- A writable byte buffer, with the indices stored to so far, in order. -/
structure Buffer where
  bytes : List UInt8
  stores : List Nat
  deriving DecidableEq, Repr

namespace Buffer

/-- A buffer before its first store. -/
def ofBytes (bytes : List UInt8) : Buffer := ⟨bytes, []⟩

/-- The C statement `b[i] = v`. -/
def store (b : Buffer) (i : Nat) (v : UInt8) : Exec Buffer :=
  if i < b.bytes.length then .ok ⟨b.bytes.set i v, b.stores ++ [i]⟩ else .error .outOfBounds

/-- The buffer after `vs` has been stored at `i`, `i + 1`, and so on. -/
def write (b : Buffer) (i : Nat) (vs : List UInt8) : Buffer :=
  ⟨b.bytes.take i ++ vs ++ b.bytes.drop (i + vs.length), b.stores ++ List.range' i vs.length⟩

@[simp] theorem write_nil (b : Buffer) (i : Nat) : b.write i [] = b := by
  simp [write]

theorem length_write {b : Buffer} {i : Nat} {vs : List UInt8}
    (room : i + vs.length ≤ b.bytes.length) : (b.write i vs).bytes.length = b.bytes.length := by
  simp only [write, List.length_append, List.length_take, List.length_drop]
  omega

theorem store_eq_write {b : Buffer} {i : Nat} {v : UInt8} (inside : i < b.bytes.length) :
    b.store i v = .ok (b.write i [v]) := by
  simp only [store, inside, if_true, write, List.length_singleton, List.range'_one,
    List.set_eq_take_append_cons_drop, List.append_assoc, List.singleton_append]

/-- Consecutive writes are one write. -/
theorem write_write {b : Buffer} {i : Nat} {vs ws : List UInt8}
    (room : i + vs.length ≤ b.bytes.length) :
    (b.write i vs).write (i + vs.length) ws = b.write i (vs ++ ws) := by
  have front : (b.bytes.take i ++ vs).length = i + vs.length := by
    simp only [List.length_append, List.length_take]
    omega
  have bytes : ((b.bytes.take i ++ vs) ++ b.bytes.drop (i + vs.length)).take (i + vs.length) =
      b.bytes.take i ++ vs := by
    rw [← front, List.take_left]
  have rest : ((b.bytes.take i ++ vs) ++ b.bytes.drop (i + vs.length)).drop
      (i + vs.length + ws.length) = b.bytes.drop (i + vs.length + ws.length) := by
    conv_lhs => rw [← front, List.drop_append, List.drop_drop]
    simp [front]
  simp only [write, List.length_append]
  rw [bytes, rest, ← Nat.add_assoc]
  simp only [List.append_assoc, List.range'_append_1]

/-- Two writes from the front of a buffer. -/
theorem write_append (b : Buffer) (vs ws : List UInt8) (room : vs.length ≤ b.bytes.length) :
    (b.write 0 vs).write vs.length ws = b.write 0 (vs ++ ws) := by
  have whole : (b.write 0 vs).write (0 + vs.length) ws = b.write 0 (vs ++ ws) :=
    write_write (by rwa [Nat.zero_add])
  rwa [Nat.zero_add] at whole

/-- The written bytes stand where they were put. -/
theorem take_write {b : Buffer} {i : Nat} {vs : List UInt8} (room : i ≤ b.bytes.length) :
    (b.write i vs).bytes.take (i + vs.length) = b.bytes.take i ++ vs := by
  have front : (b.bytes.take i ++ vs).length = i + vs.length := by
    simp only [List.length_append, List.length_take]
    omega
  rw [write, ← front, List.take_left]

/-- What lies behind the written bytes is left alone. -/
theorem drop_write {b : Buffer} {i : Nat} {vs : List UInt8} (room : i ≤ b.bytes.length) :
    (b.write i vs).bytes.drop (i + vs.length) = b.bytes.drop (i + vs.length) := by
  have front : (b.bytes.take i ++ vs).length = i + vs.length := by
    simp only [List.length_append, List.length_take]
    omega
  conv_lhs => rw [write, ← front, List.drop_left]
  rw [front]

theorem drop_write_front (b : Buffer) (vs : List UInt8) :
    (b.write 0 vs).bytes.drop vs.length = b.bytes.drop vs.length := by
  have rest : (b.write 0 vs).bytes.drop (0 + vs.length) = b.bytes.drop (0 + vs.length) :=
    drop_write (Nat.zero_le _)
  simpa using rest

theorem take_write_front (b : Buffer) (vs : List UInt8) :
    (b.write 0 vs).bytes.take vs.length = vs := by
  have front : (b.write 0 vs).bytes.take (0 + vs.length) = b.bytes.take 0 ++ vs :=
    take_write (Nat.zero_le _)
  simpa using front

end Buffer
