import Mathlib

/-! # Prefix codes and greedy parsing

A prefix code assigns every symbol a nonempty word, none of which begins
another. Every string over its letters then reads in exactly one way as
codewords followed by a remainder which no codeword begins.
-/

/-- A code whose codewords are nonempty and never begin one another. -/
structure PrefixCode (α : Type u) (β : Type v) where
  word : α → List β
  word_ne_nil : ∀ a, word a ≠ []
  eq_of_prefix : ∀ {a b}, word a <+: word b → a = b

namespace PrefixCode

variable {α : Type u} {β : Type v} (C : PrefixCode α β)

/-- The codewords of `xs`, in order. -/
def encode (xs : List α) : List β := xs.flatMap C.word

/-- No codeword begins `r`: a greedy reader holding `r` waits for more letters. -/
def Stuck (r : List β) : Prop := ∀ a, ¬ C.word a <+: r

@[simp] theorem encode_nil : C.encode [] = [] := rfl

@[simp] theorem encode_cons (a : α) (xs : List α) :
    C.encode (a :: xs) = C.word a ++ C.encode xs := rfl

@[simp] theorem encode_append (xs ys : List α) :
    C.encode (xs ++ ys) = C.encode xs ++ C.encode ys := List.flatMap_append

theorem word_injective : Function.Injective C.word := by
  intro a b same
  exact C.eq_of_prefix (same ▸ List.prefix_rfl)

/-- Two readings of one string agree on their first codeword. -/
theorem word_append_inj {a b : α} {s t : List β} (same : C.word a ++ s = C.word b ++ t) :
    a = b ∧ s = t := by
  have ha : C.word a <+: C.word b ++ t := ⟨s, same⟩
  have hb : C.word b <+: C.word b ++ t := ⟨t, rfl⟩
  have ab : a = b := (List.prefix_or_prefix_of_prefix ha hb).elim C.eq_of_prefix
    (fun h => (C.eq_of_prefix h).symm)
  subst ab
  exact ⟨rfl, List.append_cancel_left same⟩

theorem stuck_nil : C.Stuck [] := by
  intro a start
  exact C.word_ne_nil a (List.prefix_nil.mp start)

/-- Reading one more letter either completes a codeword or leaves the reader waiting. -/
theorem stuck_snoc {r : List β} {b : β} (stuck : C.Stuck r) (open_ : ∀ a, C.word a ≠ r ++ [b]) :
    C.Stuck (r ++ [b]) := by
  intro a start
  cases List.prefix_concat_iff.mp start with
  | inl whole => exact open_ a whole
  | inr shorter => exact stuck a shorter

/-- A proper part of a codeword is never a complete reading. -/
theorem stuck_of_proper_prefix {a : α} {r : List β} (start : r <+: C.word a)
    (proper : r ≠ C.word a) : C.Stuck r := by
  intro b inside
  obtain rfl := C.eq_of_prefix (inside.trans start)
  exact proper (start.eq_of_length_le inside.length_le)

theorem Stuck.of_prefix {C : PrefixCode α β} {r s : List β} (stuck : C.Stuck s) (start : r <+: s) :
    C.Stuck r := by
  intro a word
  exact stuck a (word.trans start)

/-- Unique parsing: the codewords and the remainder are both determined. -/
theorem parse_unique {xs ys : List α} {r t : List β}
    (same : C.encode xs ++ r = C.encode ys ++ t) (hr : C.Stuck r) (ht : C.Stuck t) :
    xs = ys ∧ r = t := by
  induction xs generalizing ys with
  | nil =>
      cases ys with
      | nil => exact ⟨rfl, same⟩
      | cons y ys =>
          refine absurd ⟨C.encode ys ++ t, ?_⟩ (hr y)
          simpa only [encode_nil, List.nil_append, encode_cons, List.append_assoc] using same.symm
  | cons x xs ih =>
      cases ys with
      | nil =>
          refine absurd ⟨C.encode xs ++ r, ?_⟩ (ht x)
          simpa only [encode_nil, List.nil_append, encode_cons, List.append_assoc] using same
      | cons y ys =>
          simp only [encode_cons, List.append_assoc] at same
          obtain ⟨rfl, rest⟩ := C.word_append_inj same
          obtain ⟨rfl, tail⟩ := ih rest
          exact ⟨rfl, tail⟩

/-- Every string has a reading. -/
theorem exists_parse (s : List β) : ∃ xs r, s = C.encode xs ++ r ∧ C.Stuck r := by
  induction h : s.length using Nat.strong_induction_on generalizing s with
  | _ n ih =>
      by_cases stuck : C.Stuck s
      · exact ⟨[], s, rfl, stuck⟩
      · simp only [Stuck, not_forall, not_not] at stuck
        obtain ⟨a, tail, rfl⟩ := stuck
        have shorter : tail.length < n := by
          have := List.length_pos_iff.mpr (C.word_ne_nil a)
          simp only [List.length_append] at h
          omega
        obtain ⟨xs, r, rfl, stuck⟩ := ih _ shorter tail rfl
        exact ⟨a :: xs, r, by simp only [encode_cons, List.append_assoc], stuck⟩

end PrefixCode
