import HpackHuffman.Util.PrefixCode

/-! # Complete binary prefix codes

A code over bits is complete when every long enough bit string begins with a codeword. The
strings a greedy reader waits on are then the proper prefixes of codewords: there are fewer
of them than there are codewords, and every one of them can go on either way.
-/

namespace PrefixCode

variable {α : Type u} {C : PrefixCode α Bool} {n : Nat} {r : List Bool}

/-- Every `n`-bit string begins with a codeword. -/
def Complete (C : PrefixCode α Bool) (n : Nat) : Prop :=
  ∀ s : List Bool, s.length = n → ∃ a, C.word a <+: s

namespace Complete

theorem of_le {s : List Bool} (complete : C.Complete n) (long : n ≤ s.length) :
    ∃ a, C.word a <+: s := by
  obtain ⟨a, start⟩ := complete (s.take n) (List.length_take_of_le long)
  exact ⟨a, start.trans (List.take_prefix n s)⟩

theorem length_lt (complete : C.Complete n) (stuck : C.Stuck r) : r.length < n := by
  by_contra long
  obtain ⟨a, start⟩ := complete.of_le (Nat.le_of_not_lt long)
  exact stuck a start

/-- From a string the reader waits on, either bit followed by zeros completes a codeword. -/
theorem extends_with (complete : C.Complete n) (stuck : C.Stuck r) (b : Bool) :
    ∃ a k, C.word a = r ++ b :: List.replicate k false := by
  have long : n ≤ (r ++ b :: List.replicate n false).length := by
    simp only [List.length_append, List.length_cons, List.length_replicate]
    omega
  obtain ⟨a, start⟩ := complete.of_le long
  obtain ⟨suf, within⟩ : r <+: C.word a := by
    cases List.prefix_or_prefix_of_prefix start (List.prefix_append r _) with
    | inl short => exact absurd short (stuck a)
    | inr whole => exact whole
  rw [← within, List.prefix_append_right_inj] at start
  cases suf with
  | nil =>
      rw [List.append_nil] at within
      exact absurd (within ▸ List.prefix_rfl) (stuck a)
  | cons c tl =>
      obtain ⟨rfl, zeros⟩ := List.cons_prefix_cons.mp start
      refine ⟨a, tl.length, ?_⟩
      rw [← within, (List.prefix_replicate_iff.mp zeros).2]
      simp

end Complete

/-- The last one-bit of a string splits it. -/
theorem split_at_last_one {k l : Nat} {s t : List Bool}
    (same : s ++ true :: List.replicate k false = t ++ true :: List.replicate l false) : s = t := by
  have reversed := congrArg List.reverse same
  simp only [List.reverse_append, List.reverse_cons, List.reverse_replicate, List.append_assoc,
    List.singleton_append] at reversed
  clear same
  induction k generalizing l with
  | zero =>
      cases l with
      | zero => simpa using reversed
      | succ l => simp [List.replicate_succ] at reversed
  | succ k ih =>
      cases l with
      | zero => simp [List.replicate_succ] at reversed
      | succ l =>
          simp only [List.replicate_succ, List.cons_append, List.cons.injEq, true_and] at reversed
          exact ih reversed

/-- A reader of a complete code waits on fewer strings than there are codewords. -/
theorem Complete.length_lt_card [Fintype α] (complete : C.Complete n) {rs : List (List Bool)}
    (distinct : rs.Nodup) (stuck : ∀ r ∈ rs, C.Stuck r) : rs.length < Fintype.card α := by
  obtain ⟨zeros, start⟩ := complete (List.replicate n false) List.length_replicate
  -- each waiting string has the codeword which goes on with a one and then with zeros
  have turn : ∀ r, ∃ a, r ∈ rs → ∃ k, C.word a = r ++ true :: List.replicate k false := by
    intro r
    by_cases member : r ∈ rs
    · obtain ⟨a, word⟩ := complete.extends_with (stuck r member) true
      exact ⟨a, fun _ => word⟩
    · exact ⟨zeros, fun here => absurd here member⟩
  choose next word using turn
  have injective : (rs.map next).Nodup := by
    refine distinct.map_on ?_
    intro s inS t inT same
    obtain ⟨k, wordS⟩ := word s inS
    obtain ⟨l, wordT⟩ := word t inT
    exact split_at_last_one (wordS.symm.trans ((congrArg C.word same).trans wordT))
  -- the codeword of zeros alone is none of them
  have other : zeros ∉ rs.map next := by
    intro member
    obtain ⟨r, inside, same⟩ := List.mem_map.mp member
    obtain ⟨k, one⟩ := word r inside
    have all := (List.prefix_replicate_iff.mp start).2
    rw [← same, one] at all
    have bit : true ∈ List.replicate (r ++ true :: List.replicate k false).length false :=
      all ▸ List.mem_append_right r List.mem_cons_self
    exact absurd (List.eq_of_mem_replicate bit) Bool.noConfusion
  have count := (List.nodup_cons.mpr ⟨other, injective⟩).length_le_card
  rw [List.length_cons, List.length_map] at count
  exact count

/-- Codewords which differ in the zeros at their end are one. -/
theorem eq_of_zeros {a b : α} {s : List Bool} {k l : Nat}
    (wordA : C.word a = s ++ List.replicate k false)
    (wordB : C.word b = s ++ List.replicate l false) : a = b := by
  cases Nat.le_total k l with
  | inl shorter =>
      apply C.eq_of_prefix
      rw [wordA, wordB, List.prefix_append_right_inj, List.prefix_replicate_iff]
      simpa using shorter
  | inr longer =>
      refine (C.eq_of_prefix ?_).symm
      rw [wordA, wordB, List.prefix_append_right_inj, List.prefix_replicate_iff]
      simpa using longer

/-- A string has no one-bit, or its last one-bit splits it. -/
theorem exists_last_one (s : List Bool) :
    s = List.replicate s.length false ∨ ∃ r k, s = r ++ true :: List.replicate k false := by
  induction s with
  | nil => exact .inl rfl
  | cons b s ih =>
      cases ih with
      | inr one =>
          obtain ⟨r, k, rfl⟩ := one
          exact .inr ⟨b :: r, k, rfl⟩
      | inl zeros =>
          cases b with
          | false =>
              left
              rw [List.length_cons, List.replicate_succ, ← zeros]
          | true => exact .inr ⟨[], s.length, congrArg _ zeros⟩

/-- It waits on exactly one string less: what precedes the last one-bit of each codeword. -/
theorem Complete.exists_stuck_card [Fintype α] [DecidableEq α] (complete : C.Complete n) :
    ∃ rs : List (List Bool), rs.Nodup ∧ (∀ r ∈ rs, C.Stuck r) ∧
      rs.length + 1 = Fintype.card α := by
  obtain ⟨zeros, start⟩ := complete (List.replicate n false) List.length_replicate
  have all := (List.prefix_replicate_iff.mp start).2
  have turn : ∀ a, ∃ r, a ≠ zeros → ∃ k, C.word a = r ++ true :: List.replicate k false := by
    intro a
    cases exists_last_one (C.word a) with
    | inr one =>
        obtain ⟨r, k, word⟩ := one
        exact ⟨r, fun _ => ⟨k, word⟩⟩
    | inl none_ => exact ⟨[], fun other => absurd (eq_of_zeros (s := []) none_ all) other⟩
  choose head word using turn
  refine ⟨(Finset.univ.erase zeros).toList.map head, ?_, ?_, ?_⟩
  · refine (Finset.nodup_toList _).map_on ?_
    intro a inA b inB same
    simp only [Finset.mem_toList, Finset.mem_erase, Finset.mem_univ, and_true] at inA inB
    obtain ⟨k, wordA⟩ := word a inA
    obtain ⟨l, wordB⟩ := word b inB
    rw [same, List.append_cons] at wordA
    rw [List.append_cons] at wordB
    exact eq_of_zeros wordA wordB
  · intro r member
    obtain ⟨a, inside, rfl⟩ := List.mem_map.mp member
    simp only [Finset.mem_toList, Finset.mem_erase, Finset.mem_univ, and_true] at inside
    obtain ⟨k, whole⟩ := word a inside
    apply C.stuck_of_proper_prefix (a := a)
    · rw [whole]
      exact List.prefix_append _ _
    · rw [whole]
      simp
  · have some_ : 0 < Fintype.card α := Fintype.card_pos_iff.mpr ⟨zeros⟩
    rw [List.length_map, Finset.length_toList, Finset.card_erase_of_mem (Finset.mem_univ _),
      Finset.card_univ]
    omega

/-- These are all of them: one more would be one too many. -/
theorem Complete.exists_stuck_list [Fintype α] [DecidableEq α] (complete : C.Complete n) :
    ∃ rs : List (List Bool), rs.Nodup ∧ (∀ r, r ∈ rs ↔ C.Stuck r) ∧
      rs.length + 1 = Fintype.card α := by
  obtain ⟨rs, distinct, stuck, count⟩ := complete.exists_stuck_card
  refine ⟨rs, distinct, fun r => ⟨stuck r, fun waits => ?_⟩, count⟩
  by_contra missing
  have few := complete.length_lt_card (List.nodup_cons.mpr ⟨missing, distinct⟩) (by
    intro s member
    cases List.mem_cons.mp member with
    | inl first => exact first ▸ waits
    | inr later => exact stuck s later)
  rw [List.length_cons] at few
  omega

/-- A string and the two which are one bit longer. -/
def fork (r : List Bool) : List (List Bool) := [r, r ++ [false], r ++ [true]]

/-- The longest front of even length. -/
def evenPart (s : List Bool) : List Bool := s.take (s.length / 2 * 2)

theorem evenPart_even (even : r.length % 2 = 0) : evenPart r = r := by
  rw [evenPart, Nat.div_mul_cancel (Nat.dvd_of_mod_eq_zero even), List.take_length]

theorem evenPart_snoc (even : r.length % 2 = 0) (b : Bool) : evenPart (r ++ [b]) = r := by
  have whole : (r.length + 1) / 2 * 2 = r.length := by omega
  simp only [evenPart, List.length_append, List.length_singleton, whole, List.take_left']

theorem evenPart_of_fork {s : List Bool} (even : r.length % 2 = 0) (member : s ∈ fork r) :
    evenPart s = r := by
  simp only [fork, List.mem_cons, List.not_mem_nil, or_false] at member
  rcases member with rfl | rfl | rfl
  · exact evenPart_even even
  · exact evenPart_snoc even false
  · exact evenPart_snoc even true

theorem mem_fork_evenPart (s : List Bool) : s ∈ fork (evenPart s) := by
  cases Nat.mod_two_eq_zero_or_one s.length with
  | inl even =>
      rw [evenPart_even even]
      exact List.mem_cons_self
  | inr odd =>
      cases List.eq_nil_or_concat' s with
      | inl none_ => simp [none_] at odd
      | inr some_ =>
          obtain ⟨r, b, rfl⟩ := some_
          have even : r.length % 2 = 0 := by
            rw [List.length_append, List.length_singleton] at odd
            omega
          rw [evenPart_snoc even b]
          cases b <;> simp [fork]

theorem even_length_evenPart (s : List Bool) : (evenPart s).length % 2 = 0 := by
  rw [evenPart, List.length_take_of_le (Nat.div_mul_le_self s.length 2)]
  exact Nat.mul_mod_left _ 2

/-- Where every codeword has an even length, a reader which waits on an even number of bits waits
    for two more. -/
theorem stuck_fork {s : List Bool} (even : ∀ a, (C.word a).length % 2 = 0) (stuck : C.Stuck r)
    (here : r.length % 2 = 0) (member : s ∈ fork r) : C.Stuck s := by
  have snoc : ∀ b, C.Stuck (r ++ [b]) := by
    intro b
    apply C.stuck_snoc stuck
    intro a word
    have length := even a
    rw [word, List.length_append, List.length_singleton] at length
    omega
  simp only [fork, List.mem_cons, List.not_mem_nil, or_false] at member
  rcases member with rfl | rfl | rfl
  · exact stuck
  · exact snoc false
  · exact snoc true

/-- Where every codeword has an even length, the strings a reader waits on come in threes: one of
    even length and the two which are one bit longer. -/
theorem Complete.card_of_even [Fintype α] [DecidableEq α] (complete : C.Complete n)
    (even : ∀ a, (C.word a).length % 2 = 0) : Fintype.card α % 3 = 1 := by
  obtain ⟨rs, distinct, waits, count⟩ := complete.exists_stuck_list
  have evens : ∀ r, r ∈ rs.filter (fun r => r.length % 2 = 0) ↔ C.Stuck r ∧ r.length % 2 = 0 := by
    intro r
    rw [List.mem_filter, waits, decide_eq_true_eq]
  have groups : rs.Perm ((rs.filter fun r => r.length % 2 = 0).flatMap fork) := by
    refine (List.perm_ext_iff_of_nodup distinct ?_).mpr fun s => ?_
    · refine List.nodup_flatMap.mpr ⟨fun r _ => by simp [fork], ?_⟩
      refine (distinct.filter _).imp_of_mem fun {r t} inR inT other s inS inS' => other ?_
      rw [← evenPart_of_fork ((evens r).mp inR).2 inS, evenPart_of_fork ((evens t).mp inT).2 inS']
    · rw [waits, List.mem_flatMap]
      constructor
      · intro stuck
        refine ⟨evenPart s, (evens _).mpr ⟨?_, even_length_evenPart s⟩, mem_fork_evenPart s⟩
        exact stuck.of_prefix (List.take_prefix _ s)
      · rintro ⟨r, inside, member⟩
        exact stuck_fork even ((evens r).mp inside).1 ((evens r).mp inside).2 member
  have threes : rs.length = 3 * (rs.filter fun r => r.length % 2 = 0).length := by
    rw [groups.length_eq, List.length_flatMap]
    simp [fork, Nat.mul_comm]
  omega

end PrefixCode
