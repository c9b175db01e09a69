import Mathlib.Data.List.Forall2
import Mathlib.Data.List.TakeWhile

/-! # Regular expressions without alternatives

A pattern is a row of greedy runs of characters, some of them captured. A matcher tries the
longest run first and backtracks. Where no run can be continued by a character which the next
one starts with, there is at most one way to match, and the matcher finds it.
-/

namespace Regex

variable {α : Type}

/-- A run of characters of a class, `least` to `most` of them. -/
structure Piece (α : Type) where
  item : α → Bool
  least : Nat
  most : Option Nat
  captured : Bool

def one (p : α → Bool) : Piece α := ⟨p, 1, some 1, false⟩

def many (p : α → Bool) : Piece α := ⟨p, 0, none, false⟩

def many1 (p : α → Bool) : Piece α := ⟨p, 1, none, false⟩

def group (p : α → Bool) : Piece α := ⟨p, 1, none, true⟩

namespace Piece

/-- The lengths tried, the longest first. -/
def lengths (P : Piece α) (s : List α) : List Nat :=
  let run := (s.takeWhile P.item).length
  (List.range (min run (P.most.getD run) + 1)).reverse.filter (P.least ≤ ·)

def capture (P : Piece α) (w : List α) (gs : List (List α)) : List (List α) :=
  if P.captured then w :: gs else gs

/-- A run of the piece. -/
structure Run (P : Piece α) (w : List α) : Prop where
  items : ∀ c ∈ w, P.item c = true
  least : P.least ≤ w.length
  most : ∀ m ∈ P.most, w.length ≤ m

theorem le_length_takeWhile {p : α → Bool} {s : List α} :
    ∀ {n : Nat}, n ≤ s.length →
      (n ≤ (s.takeWhile p).length ↔ ∀ c ∈ s.take n, p c = true) := by
  induction s with
  | nil =>
      intro n inside
      simpa using inside
  | cons c s ih =>
      intro n inside
      cases n with
      | zero => simp
      | succ n =>
          have later := @ih n (Nat.le_of_succ_le_succ inside)
          by_cases first : p c = true
          · simp [first, later]
          · simp [first]

/-- The lengths tried are those of the runs at the front of the text. -/
theorem mem_lengths {P : Piece α} {s : List α} {n : Nat} :
    n ∈ P.lengths s ↔ n ≤ s.length ∧ P.Run (s.take n) := by
  have short := (List.takeWhile_prefix P.item (l := s)).length_le
  have most : n ≤ min (s.takeWhile P.item).length
      (P.most.getD (s.takeWhile P.item).length) ↔
        n ≤ (s.takeWhile P.item).length ∧ ∀ m ∈ P.most, n ≤ m := by
    cases P.most with
    | none => simp
    | some m =>
        simp only [Option.getD_some, Nat.le_min, Option.mem_def, Option.some.injEq, forall_eq']
  simp only [lengths, List.mem_filter, List.mem_reverse, List.mem_range, Nat.lt_succ_iff, most,
    decide_eq_true_eq]
  constructor
  · rintro ⟨⟨run, top⟩, low⟩
    have inside := Nat.le_trans run short
    have size : (s.take n).length = n := List.length_take_of_le inside
    exact ⟨inside, (le_length_takeWhile inside).mp run, size.symm ▸ low, size.symm ▸ top⟩
  · rintro ⟨inside, all, low, top⟩
    rw [List.length_take_of_le inside] at low top
    exact ⟨⟨(le_length_takeWhile inside).mpr all, top⟩, low⟩

end Piece

/-- Match the pieces at the front of the text: what they capture, and the rest. -/
def matchAt : List (Piece α) → List α → Option (List (List α) × List α)
  | [], s => some ([], s)
  | P :: Ps, s => (P.lengths s).findSome? fun n =>
      (matchAt Ps (s.drop n)).map fun m => (P.capture (s.take n) m.1, m.2)

/-- The pieces match in some way. -/
inductive Matches : List (Piece α) → List α → List (List α) → List α → Prop where
  | done (s : List α) : Matches [] s [] s
  | piece {P : Piece α} {Ps : List (Piece α)} {w s rest : List α} {gs : List (List α)} :
      P.Run w → Matches Ps s gs rest → Matches (P :: Ps) (w ++ s) (P.capture w gs) rest

section Match

variable {P : Piece α} {Ps : List (Piece α)} {s rest : List α} {gs : List (List α)}

theorem Matches.of_matchAt (found : matchAt Ps s = some (gs, rest)) : Matches Ps s gs rest := by
  induction Ps generalizing s gs rest with
  | nil =>
      cases found
      exact .done s
  | cons P Ps ih =>
      obtain ⟨n, tried, later⟩ := List.exists_of_findSome?_eq_some found
      cases next : matchAt Ps (s.drop n) with
      | none => simp [next] at later
      | some m =>
          simp only [next, Option.map_some, Option.some.injEq, Prod.mk.injEq] at later
          obtain ⟨rfl, rfl⟩ := later
          have whole := Matches.piece (Piece.mem_lengths.mp tried).2 (ih next)
          rwa [List.take_append_drop] at whole

/-- The matcher backtracks over every way to match. -/
theorem Matches.not_none (way : Matches Ps s gs rest) : matchAt Ps s ≠ none := by
  induction way with
  | done s => simp [matchAt]
  | @piece P Ps w s rest gs run later ih =>
      intro none
      have tried : w.length ∈ P.lengths (w ++ s) := by
        rw [Piece.mem_lengths, List.take_left]
        exact ⟨by simp, run⟩
      have here := List.findSome?_eq_none_iff.mp none w.length tried
      rw [List.drop_left, Option.map_eq_none_iff] at here
      exact ih here

theorem matchAt_eq_none_iff : matchAt Ps s = none ↔ ∀ gs rest, ¬ Matches Ps s gs rest := by
  constructor
  · intro none gs rest way
    exact way.not_none none
  · intro stuck
    cases found : matchAt Ps s with
    | none => rfl
    | some m => exact absurd (Matches.of_matchAt found) (stuck m.1 m.2)

/-- The text is what was matched, and the rest. -/
theorem Matches.rest_le (way : Matches Ps s gs rest) : rest <:+ s := by
  induction way with
  | done s => exact List.suffix_rfl
  | piece run later ih => exact ih.trans (List.suffix_append _ _)

end Match

/-- The characters a match starts with. -/
def starts : List (Piece α) → α → Bool
  | [], _ => false
  | P :: Ps, c => P.item c || (P.least == 0 && starts Ps c)

/-- A match takes something. -/
def Solid (Ps : List (Piece α)) : Prop := ∃ P ∈ Ps, 0 < P.least

section Front

variable {P : Piece α} {Ps : List (Piece α)} {c : α} {s t rest : List α} {gs : List (List α)}

theorem Solid.tail (solid : Solid (P :: Ps)) (least : P.least = 0) : Solid Ps := by
  obtain ⟨Q, mem, some_⟩ := solid
  cases mem with
  | head => exact absurd least (Nat.ne_of_gt some_)
  | tail _ mem => exact ⟨Q, mem, some_⟩

theorem Matches.head (solid : Solid Ps) (way : Matches Ps s gs rest) :
    ∃ c t, s = c :: t ∧ starts Ps c = true := by
  induction way with
  | done s =>
      obtain ⟨P, mem, -⟩ := solid
      cases mem
  | @piece P Ps w s rest gs run later ih =>
      cases w with
      | nil =>
          have least : P.least = 0 := Nat.le_zero.mp run.least
          obtain ⟨c, t, rfl, first⟩ := ih (solid.tail least)
          exact ⟨c, t, rfl, by simp [starts, least, first]⟩
      | cons c w => exact ⟨c, w ++ s, rfl, by simp [starts, run.items]⟩

theorem Matches.rest_suffix (solid : Solid Ps) (way : Matches Ps s gs rest) (text : s = c :: t) :
    rest <:+ t := by
  induction way with
  | done s =>
      obtain ⟨P, mem, -⟩ := solid
      cases mem
  | @piece P Ps w s rest gs run later ih =>
      cases w with
      | nil => exact ih (solid.tail (Nat.le_zero.mp run.least)) text
      | cons d w =>
          obtain ⟨-, rfl⟩ := List.cons.inj text
          exact later.rest_le.trans (List.suffix_append _ _)

end Front

/-- Each piece is a run of a fixed length, or is followed by a character it cannot take. -/
inductive Apart : List (Piece α) → Prop where
  | nil : Apart []
  | fixed {P : Piece α} {Ps : List (Piece α)} :
      P.most = some P.least → Apart Ps → Apart (P :: Ps)
  | before {P : Piece α} {Ps : List (Piece α)} :
      Solid Ps → (∀ c, starts Ps c = true → P.item c = false) → Apart Ps → Apart (P :: Ps)

section Unique

variable {Ps : List (Piece α)} {s rest rest' : List α} {gs gs' : List (List α)}

/-- Two runs which stop where neither can go on are one. -/
theorem run_unique {p : α → Bool} {w w' t t' : List α} (all : ∀ c ∈ w, p c = true)
    (all' : ∀ c ∈ w', p c = true) (stop : ∃ c s, t = c :: s ∧ p c = false)
    (stop' : ∃ c s, t' = c :: s ∧ p c = false) (same : w ++ t = w' ++ t') : w = w' := by
  obtain ⟨c, s, rfl, out⟩ := stop
  obtain ⟨c', s', rfl, out'⟩ := stop'
  have front : (w ++ c :: s).takeWhile p = w := by
    rw [List.takeWhile_append_of_pos all]
    simp [out]
  have front' : (w' ++ c' :: s').takeWhile p = w' := by
    rw [List.takeWhile_append_of_pos all']
    simp [out']
  rw [← front, same, front']

theorem Apart.unique (apart : Apart Ps) (way : Matches Ps s gs rest)
    (way' : Matches Ps s gs' rest') : gs' = gs ∧ rest' = rest := by
  induction apart generalizing s gs rest gs' rest' with
  | nil =>
      cases way
      cases way'
      exact ⟨rfl, rfl⟩
  | @fixed P Ps most apart ih =>
      generalize text : s = s' at way'
      cases way with
      | @piece _ _ w t _ _ run later =>
          cases way' with
          | @piece _ _ w' t' _ _ run' later' =>
              have length : w.length = w'.length := by
                have top := run.most _ most
                have top' := run'.most _ most
                have low := run.least
                have low' := run'.least
                omega
              obtain ⟨rfl, rfl⟩ := List.append_inj text length
              obtain ⟨rfl, rfl⟩ := ih later later'
              exact ⟨rfl, rfl⟩
  | @before P Ps solid out apart ih =>
      generalize text : s = s' at way'
      cases way with
      | @piece _ _ w t _ _ run later =>
          cases way' with
          | @piece _ _ w' t' _ _ run' later' =>
              obtain ⟨c, u, start, item⟩ := later.head solid
              obtain ⟨c', u', start', item'⟩ := later'.head solid
              obtain rfl := run_unique run.items run'.items ⟨c, u, start, out c item⟩
                ⟨c', u', start', out c' item'⟩ text
              obtain rfl := List.append_cancel_left text
              obtain ⟨rfl, rfl⟩ := ih later later'
              exact ⟨rfl, rfl⟩

theorem Apart.matchAt_iff (apart : Apart Ps) :
    matchAt Ps s = some (gs, rest) ↔ Matches Ps s gs rest := by
  constructor
  · exact Matches.of_matchAt
  · intro way
    cases found : matchAt Ps s with
    | none => exact absurd found way.not_none
    | some m =>
        obtain ⟨same, same'⟩ := apart.unique way (Matches.of_matchAt found)
        rw [← same, ← same']

end Unique

/-- The matches which do not overlap, from left to right. `skip` counts what is left of the
    last one. -/
def findFrom (Ps : List (Piece α)) : List α → Nat → List (List (List α))
  | [], _ => (matchAt Ps []).toList.map (·.1)
  | _ :: s, skip + 1 => findFrom Ps s skip
  | c :: s, 0 =>
      match matchAt Ps (c :: s) with
      | none => findFrom Ps s 0
      | some (gs, rest) => gs :: findFrom Ps s (s.length - rest.length)

def findall (Ps : List (Piece α)) (s : List α) : List (List (List α)) := findFrom Ps s 0

/-- The captures found in a text: no match starts at a character which is passed over. -/
inductive Found (Ps : List (Piece α)) : List α → List (List (List α)) → Prop where
  | nil : Found Ps [] []
  | skip {c : α} {s : List α} {ms : List (List (List α))} :
      (∀ gs rest, ¬ Matches Ps (c :: s) gs rest) → Found Ps s ms → Found Ps (c :: s) ms
  | take {s rest : List α} {gs : List (List α)} {ms : List (List (List α))} :
      Matches Ps s gs rest → Found Ps rest ms → Found Ps s (gs :: ms)

section Find

variable {Ps : List (Piece α)} {s : List α} {ms : List (List (List α))}

theorem findFrom_drop (Ps : List (Piece α)) :
    ∀ (s : List α) (skip : Nat), skip ≤ s.length → findFrom Ps s skip = findall Ps (s.drop skip)
  | s, 0, _ => by rw [List.drop_zero, findall]
  | c :: s, skip + 1, inside => by
      rw [findFrom, List.drop_succ_cons]
      exact findFrom_drop Ps s skip (Nat.le_of_succ_le_succ inside)

/-- A pattern which matches in one way finds what the relation says, and nothing else. -/
theorem findall_of_found (apart : Apart Ps) (solid : Solid Ps) (found : Found Ps s ms) :
    findall Ps s = ms := by
  induction found with
  | nil =>
      have none : matchAt Ps [] = none := by
        rw [matchAt_eq_none_iff]
        intro gs rest way
        obtain ⟨c, s, same, -⟩ := way.head solid
        cases same
      simp [findall, findFrom, none]
  | skip stuck later ih =>
      rw [findall, findFrom, matchAt_eq_none_iff.mpr stuck]
      exact ih
  | @take s rest gs ms way later ih =>
      obtain ⟨c, t, rfl, -⟩ := way.head solid
      have shorter := way.rest_suffix solid rfl
      rw [findall, findFrom, apart.matchAt_iff.mpr way]
      simp only
      rw [findFrom_drop _ _ _ (Nat.sub_le _ _), ← List.suffix_iff_eq_drop.mp shorter, ih]

end Find

/-- No match starts in the text, whatever follows it. -/
def Inert (Ps : List (Piece α)) : List α → Prop
  | [] => True
  | c :: s => (∀ t gs rest, ¬ Matches Ps (c :: s ++ t) gs rest) ∧ Inert Ps s

/-- The text decides that no match starts at its front. -/
def stuck : List (Piece α) → List α → Bool
  | [], _ => false
  | P :: Ps, s => decide ((s.takeWhile P.item).length < s.length) &&
      (P.lengths s).all fun n => stuck Ps (s.drop n)

def inert (Ps : List (Piece α)) : List α → Bool
  | [] => true
  | c :: s => (!starts Ps c || stuck Ps (c :: s)) && inert Ps s

section Inert

variable {Ps Qs : List (Piece α)} {s t g h : List α} {ms : List (List (List α))}

theorem Found.inert (none : Inert Ps g) (found : Found Ps t ms) : Found Ps (g ++ t) ms := by
  induction g with
  | nil => exact found
  | cons c g ih => exact .skip (none.1 t) (ih none.2)

theorem Inert.append (none : Inert Ps g) (none' : Inert Ps h) : Inert Ps (g ++ h) := by
  induction g with
  | nil => exact none'
  | cons c g ih =>
      refine ⟨?_, ih none.2⟩
      intro t
      have here := none.1 (h ++ t)
      rwa [← List.append_assoc] at here

theorem Inert.flatMap {β : Type} {f : β → List α} :
    ∀ {xs : List β}, (∀ x ∈ xs, Inert Ps (f x)) → Inert Ps (xs.flatMap f)
  | [], _ => trivial
  | x :: _, all => (all x List.mem_cons_self).append
      (Inert.flatMap fun y mem => all y (List.mem_cons_of_mem x mem))

theorem not_matches_of_starts {c : α} (solid : Solid Ps) (out : starts Ps c = false)
    (gs : List (List α)) (rest : List α) : ¬ Matches Ps (c :: s ++ t) gs rest := by
  intro way
  obtain ⟨d, u, same, first⟩ := way.head solid
  obtain ⟨rfl, -⟩ := List.cons.inj same
  rw [out] at first
  cases first

/-- A text of characters which no match starts with. -/
theorem Inert.of_starts (solid : Solid Ps) (out : ∀ c ∈ g, starts Ps c = false) :
    Inert Ps g := by
  induction g with
  | nil => trivial
  | cons c g ih =>
      refine ⟨?_, ih fun d mem => out d (List.mem_cons_of_mem _ mem)⟩
      exact fun t => not_matches_of_starts solid (out c List.mem_cons_self)

theorem not_matches_of_stuck :
    ∀ {Ps : List (Piece α)} {s t : List α}, stuck Ps s = true →
      ∀ gs rest, ¬ Matches Ps (s ++ t) gs rest := by
  intro Ps
  induction Ps with
  | nil =>
      intro s t stuck_
      cases stuck_
  | cons P Ps ih =>
      intro s t stuck_ gs rest way
      simp only [stuck, Bool.and_eq_true, decide_eq_true_eq, List.all_eq_true] at stuck_
      obtain ⟨ends, all⟩ := stuck_
      generalize text : s ++ t = u at way
      cases way with
      | @piece _ _ w v _ _ run later =>
          have short : w.length ≤ (s.takeWhile P.item).length := by
            by_contra long
            have cut : (s ++ t).take ((s.takeWhile P.item).length + 1) =
                s.take ((s.takeWhile P.item).length + 1) := List.take_append_of_le_length ends
            have front : s.take ((s.takeWhile P.item).length + 1) =
                w.take ((s.takeWhile P.item).length + 1) := by
              rw [← cut, text, List.take_append_of_le_length (by omega)]
            have more := (@Piece.le_length_takeWhile _ P.item s _ ends).mpr (by
              intro c mem
              rw [front] at mem
              exact run.items c (List.mem_of_mem_take mem))
            omega
          have inside : w.length ≤ s.length := by omega
          have front : s.take w.length = w := by
            have cut : (s ++ t).take w.length = s.take w.length :=
              List.take_append_of_le_length inside
            rw [← cut, text, List.take_left]
          have back : s.drop w.length ++ t = v := by
            rw [← List.drop_append_of_le_length inside, text, List.drop_left]
          have tried : w.length ∈ P.lengths s := by
            rw [Piece.mem_lengths, front]
            exact ⟨inside, run⟩
          rw [← back] at later
          exact ih (all _ tried) _ _ later

theorem Inert.of_inert (solid : Solid Ps) (check : Regex.inert Ps g = true) : Inert Ps g := by
  induction g with
  | nil => trivial
  | cons c g ih =>
      simp only [Regex.inert, Bool.and_eq_true, Bool.or_eq_true, Bool.not_eq_true'] at check
      refine ⟨fun t => ?_, ih check.2⟩
      cases check.1 with
      | inl out => exact not_matches_of_starts solid out
      | inr stuck_ => exact not_matches_of_stuck stuck_

/-- The check looks at the characters of the text only. -/
def Alike (s : List α) (P Q : Piece α) : Prop :=
  P.least = Q.least ∧ P.most = Q.most ∧ ∀ c ∈ s, P.item c = Q.item c

theorem Alike.run {P Q : Piece α} (same : Alike s P Q) :
    s.takeWhile P.item = s.takeWhile Q.item := by
  have items := same.2.2
  clear same
  induction s with
  | nil => rfl
  | cons c s ih =>
      have later := ih fun d mem => items d (List.mem_cons_of_mem _ mem)
      simp only [List.takeWhile_cons, items c List.mem_cons_self, later]

theorem Alike.lengths {P Q : Piece α} (same : Alike s P Q) : P.lengths s = Q.lengths s := by
  simp only [Piece.lengths, same.run, same.1, same.2.1]

theorem stuck_congr (alike : List.Forall₂ (Alike s) Ps Qs) : stuck Ps s = stuck Qs s := by
  induction Ps generalizing Qs s with
  | nil =>
      cases alike
      rfl
  | cons P Ps ih =>
      cases alike with
      | @cons _ Q _ Qs same later =>
          have next : ∀ n, stuck Ps (s.drop n) = stuck Qs (s.drop n) := fun n => ih <|
            later.imp fun P Q ⟨least, most, items⟩ =>
              ⟨least, most, fun c mem => items c (List.mem_of_mem_drop mem)⟩
          simp only [stuck, same.run, same.lengths, next]

theorem starts_congr {c : α} (alike : List.Forall₂ (Alike s) Ps Qs) (mem : c ∈ s) :
    starts Ps c = starts Qs c := by
  induction alike with
  | nil => rfl
  | cons same later ih => simp only [starts, same.1, same.2.2 c mem, ih]

theorem inert_congr (alike : List.Forall₂ (Alike s) Ps Qs) :
    Regex.inert Ps s = Regex.inert Qs s := by
  induction s with
  | nil => rfl
  | cons c s ih =>
      have later := ih <| alike.imp fun P Q ⟨least, most, items⟩ =>
        ⟨least, most, fun d mem => items d (List.mem_cons_of_mem _ mem)⟩
      have first := starts_congr alike (List.mem_cons_self (a := c))
      simp only [Regex.inert, stuck_congr alike, first, later]

end Inert

end Regex
