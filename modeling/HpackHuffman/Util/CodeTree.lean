import Mathlib

/-! # Binary code trees

A full binary tree spells a complete prefix code: the words are the paths from
the root to the leaves. Internal nodes carry a label, so one tree also records
the states of an automaton which remembers the word read so far.
-/

/-- A full binary tree with symbols at its leaves and labels at its internal nodes. -/
inductive CodeTree (ι : Type u) (α : Type v) where
  | leaf (a : α)
  | node (label : ι) (zero one : CodeTree ι α)

namespace CodeTree

variable {ι : Type u} {α : Type v} {γ : Type w}

/-- The subtree below a path, if the path stays inside the tree. -/
def walk : CodeTree ι α → List Bool → Option (CodeTree ι α)
  | t, [] => some t
  | .leaf _, _ :: _ => none
  | .node _ zero one, b :: path => walk (if b then one else zero) path

@[simp] theorem walk_nil (t : CodeTree ι α) : t.walk [] = some t := by
  cases t <;> rfl

theorem walk_append (t : CodeTree ι α) (pre suf : List Bool) :
    t.walk (pre ++ suf) = (t.walk pre).bind (fun below => below.walk suf) := by
  induction pre generalizing t with
  | nil => simp
  | cons b pre ih =>
      cases t with
      | leaf a => rfl
      | node i zero one => exact ih _

/-- The tree's leaves spell exactly the words of `word`. -/
def Spells (t : CodeTree ι α) (word : α → List Bool) : Prop :=
  ∀ path a, t.walk path = some (.leaf a) ↔ path = word a

theorem Spells.eq_of_prefix {t : CodeTree ι α} {word : α → List Bool} (spells : t.Spells word)
    {a b : α} (start : word a <+: word b) : a = b := by
  obtain ⟨suf, split⟩ := start
  have whole := (spells (word b) b).mpr rfl
  rw [← split, walk_append, (spells (word a) a).mpr rfl, Option.bind_some] at whole
  cases suf with
  | nil => simpa using whole
  | cons c suf => simp [walk] at whole

/-- A path ends at an internal node or has passed a leaf. -/
theorem walk_node_or_leaf (t : CodeTree ι α) (path : List Bool) :
    (∃ i zero one, t.walk path = some (.node i zero one)) ∨
      ∃ pre a, pre <+: path ∧ t.walk pre = some (.leaf a) := by
  induction t generalizing path with
  | leaf a => exact .inr ⟨[], a, List.nil_prefix, rfl⟩
  | node i zero one ihZero ihOne =>
      cases path with
      | nil => exact .inl ⟨i, zero, one, rfl⟩
      | cons b path =>
          have below : (∃ j z o, (if b then one else zero).walk path = some (.node j z o)) ∨
              ∃ pre a, pre <+: path ∧ (if b then one else zero).walk pre = some (.leaf a) := by
            cases b with
            | false => exact ihZero path
            | true => exact ihOne path
          cases below with
          | inl node => exact .inl node
          | inr leaf =>
              obtain ⟨pre, a, start, leaf⟩ := leaf
              exact .inr ⟨b :: pre, a, List.cons_prefix_cons.mpr ⟨rfl, start⟩, leaf⟩

theorem exists_leaf (t : CodeTree ι α) : ∃ path a, t.walk path = some (.leaf a) := by
  induction t with
  | leaf a => exact ⟨[], a, rfl⟩
  | node i zero one ihZero ihOne =>
      obtain ⟨path, a, leaf⟩ := ihZero
      exact ⟨false :: path, a, leaf⟩

/-- A full tree leaves no string without a word: every string as long as the longest word
    begins with one. -/
theorem Spells.exists_prefix {t : CodeTree ι α} {word : α → List Bool} (spells : t.Spells word)
    {n : Nat} (short : ∀ a, (word a).length ≤ n) {s : List Bool} (length : s.length = n) :
    ∃ a, word a <+: s := by
  cases t.walk_node_or_leaf s with
  | inl node =>
      obtain ⟨i, zero, one, node⟩ := node
      obtain ⟨path, a, leaf⟩ := exists_leaf zero
      have deeper : t.walk (s ++ false :: path) = some (.leaf a) := by
        rw [walk_append, node, Option.bind_some]
        exact leaf
      have long := short a
      rw [← (spells _ a).mp deeper, List.length_append, List.length_cons] at long
      omega
  | inr leaf =>
      obtain ⟨pre, a, start, leaf⟩ := leaf
      exact ⟨a, (spells pre a).mp leaf ▸ start⟩

/-- Test every subtree, together with the value folded along its path from the root. -/
def checkAlong (f : γ → Bool → γ) (ok : γ → CodeTree ι α → Bool) : γ → CodeTree ι α → Bool
  | c, .leaf a => ok c (.leaf a)
  | c, .node i zero one =>
      ok c (.node i zero one) && checkAlong f ok (f c false) zero && checkAlong f ok (f c true) one

theorem checkAlong_sound {f : γ → Bool → γ} {ok : γ → CodeTree ι α → Bool} {c : γ}
    {t below : CodeTree ι α} {path : List Bool} (checked : checkAlong f ok c t = true)
    (at_ : t.walk path = some below) : ok (path.foldl f c) below = true := by
  induction t generalizing c path with
  | leaf a =>
      cases path with
      | nil =>
          obtain rfl : .leaf a = below := by simpa using at_
          exact checked
      | cons b path => simp [walk] at at_
  | node i zero one ihZero ihOne =>
      simp only [checkAlong, Bool.and_eq_true] at checked
      obtain ⟨⟨here, left⟩, right⟩ := checked
      cases path with
      | nil =>
          obtain rfl : .node i zero one = below := by simpa using at_
          exact here
      | cons b path =>
          rw [List.foldl_cons]
          cases b with
          | false => exact ihZero left at_
          | true => exact ihOne right at_

end CodeTree
