import Mathlib

/-! # Breadth-first search

A worklist search over a graph given by its successor lists. Nothing bounds the search but
the graph: it ends when the vertices reachable from the start are finitely many, and it has
then found each of them once.
-/

/-- The variables of a search: what was seen, the order of discovery, and what is queued. -/
structure Worklist (α : Type u) where
  seen : Finset α
  order : List α
  q : List α

namespace Worklist

variable {α : Type u}

def start (s : α) : Worklist α := ⟨{s}, [s], [s]⟩

/-- Queue `x` unless it was seen before. -/
def push [DecidableEq α] (w : Worklist α) (x : α) : Worklist α :=
  if x ∈ w.seen then w else ⟨insert x w.seen, w.order ++ [x], w.q ++ [x]⟩

/-- Take vertices off the queue, in order, for at most `fuel` turns. -/
def search [DecidableEq α] (succ : α → List α) : Nat → Worklist α → Option (List α)
  | 0, _ => none
  | fuel + 1, w =>
      match w.q with
      | [] => some w.order
      | x :: q => search succ fuel ((succ x).foldl push { w with q := q })

variable {succ : α → List α} {s : α} {done : List α} {w : Worklist α}

/-- A path from the start. -/
def Reachable (succ : α → List α) (s : α) : α → Prop :=
  Relation.ReflTransGen (fun x y => y ∈ succ x) s

/-- What holds while the vertices `done` have been taken off the queue. -/
structure Explored (succ : α → List α) (s : α) (done : List α) (w : Worklist α) : Prop where
  seen : ∀ x, x ∈ w.seen ↔ x ∈ w.order
  nodup : w.order.Nodup
  reachable : ∀ x ∈ w.order, Reachable succ s x
  first : [s] <+: w.order
  split : w.order = done ++ w.q

theorem Explored.start : Explored succ s [] (start s) where
  seen x := by simp [Worklist.start]
  nodup := List.nodup_singleton s
  reachable x found := by
    obtain rfl := List.mem_singleton.mp found
    exact .refl
  first := List.prefix_rfl
  split := rfl

/-- Every successor of what was taken off the queue has been discovered. -/
def Closed (succ : α → List α) (done order : List α) : Prop := ∀ x ∈ done, ∀ y ∈ succ x, y ∈ order

/-- What is closed and holds the start holds everything reachable. -/
theorem Closed.complete {order : List α} (closed : Closed succ order order) (first : s ∈ order)
    {x : α} (path : Reachable succ s x) : x ∈ order := by
  induction path with
  | refl => exact first
  | tail _ edge ih => exact closed _ ih _ edge

variable [DecidableEq α]

theorem Explored.push {x : α} (inv : Explored succ s done w) (path : Reachable succ s x) :
    Explored succ s done (w.push x) ∧ w.order <+: (w.push x).order ∧ x ∈ (w.push x).order := by
  unfold Worklist.push
  split
  case isTrue old => exact ⟨inv, List.prefix_rfl, (inv.seen x).mp old⟩
  case isFalse new =>
    have fresh : x ∉ w.order := mt (inv.seen x).mpr new
    have longer : w.order <+: w.order ++ [x] := List.prefix_append _ _
    refine ⟨⟨?_, ?_, ?_, inv.first.trans longer, ?_⟩, longer, by simp⟩
    · intro y
      simp only [Finset.mem_insert, inv.seen, List.mem_append, List.mem_singleton, or_comm]
    · exact List.nodup_append.mpr ⟨inv.nodup, List.nodup_singleton x, by
        intro y inside z single same
        rw [List.mem_singleton.mp single] at same
        exact fresh (same ▸ inside)⟩
    · intro y inside
      cases List.mem_append.mp inside with
      | inl before => exact inv.reachable y before
      | inr single => exact List.mem_singleton.mp single ▸ path
    · rw [inv.split, List.append_assoc]

/-- The same over all successors of a vertex. -/
theorem Explored.pushAll {xs : List α} (inv : Explored succ s done w)
    (paths : ∀ x ∈ xs, Reachable succ s x) :
    Explored succ s done (xs.foldl Worklist.push w) ∧
      w.order <+: (xs.foldl Worklist.push w).order ∧
      ∀ x ∈ xs, x ∈ (xs.foldl Worklist.push w).order := by
  induction xs generalizing w with
  | nil => exact ⟨inv, List.prefix_rfl, fun x inside => absurd inside List.not_mem_nil⟩
  | cons y ys ih =>
      obtain ⟨inv', longer, found⟩ := inv.push (paths y List.mem_cons_self)
      obtain ⟨inv'', longer', rest⟩ := ih inv' fun x inside => paths x (.tail y inside)
      refine ⟨inv'', longer.trans longer', ?_⟩
      intro x inside
      cases inside with
      | head => exact longer'.subset found
      | tail _ later => exact rest x later

/-- A turn takes the next vertex off the queue. -/
theorem Explored.turn {x : α} {q : List α} (inv : Explored succ s done w)
    (closed : Closed succ done w.order) (queue : w.q = x :: q) :
    Explored succ s (done ++ [x]) ((succ x).foldl Worklist.push { w with q := q }) ∧
      Closed succ (done ++ [x]) ((succ x).foldl Worklist.push { w with q := q }).order := by
  have here : x ∈ w.order := by simp [inv.split, queue]
  have popped : Explored succ s (done ++ [x]) { w with q := q } :=
    ⟨inv.seen, inv.nodup, inv.reachable, inv.first, by simp [inv.split, queue]⟩
  obtain ⟨inv', longer, found⟩ := popped.pushAll fun y edge => (inv.reachable x here).tail edge
  refine ⟨inv', ?_⟩
  intro y inside z edge
  cases List.mem_append.mp inside with
  | inl before => exact longer.subset (closed y before z edge)
  | inr single =>
      rw [List.mem_singleton.mp single] at edge
      exact found z edge

theorem search_from {bound : Nat}
    (finite : ∀ xs : List α, xs.Nodup → (∀ x ∈ xs, Reachable succ s x) → xs.length ≤ bound)
    {fuel : Nat} (inv : Explored succ s done w) (closed : Closed succ done w.order)
    (enough : bound < done.length + fuel) :
    ∃ order, search succ fuel w = some order ∧ order.Nodup ∧ [s] <+: order ∧
      ∀ x, x ∈ order ↔ Reachable succ s x := by
  induction fuel generalizing done w with
  | zero =>
      have few := finite w.order inv.nodup inv.reachable
      rw [inv.split, List.length_append] at few
      omega
  | succ fuel ih =>
      cases queue : w.q with
      | nil =>
          have all : w.order = done := by rw [inv.split, queue, List.append_nil]
          have start : s ∈ w.order := inv.first.subset List.mem_cons_self
          refine ⟨w.order, by rw [search, queue], inv.nodup, inv.first, fun x => ?_⟩
          rw [← all] at closed
          exact ⟨inv.reachable x, closed.complete start⟩
      | cons x q =>
          obtain ⟨inv', closed'⟩ := inv.turn closed queue
          obtain ⟨order, run, facts⟩ := ih inv' closed' (by
            rw [List.length_append, List.length_singleton]
            omega)
          exact ⟨order, by rw [search, queue]; exact run, facts⟩

/-- More turns change nothing. -/
theorem search_mono {fuel fuel' : Nat} {order : List α} (found : search succ fuel w = some order)
    (more : fuel ≤ fuel') : search succ fuel' w = some order := by
  induction fuel generalizing fuel' w with
  | zero => simp [search] at found
  | succ fuel ih =>
      obtain ⟨rest, rfl⟩ : ∃ rest, fuel' = rest + 1 := ⟨fuel' - 1, by omega⟩
      rw [search] at found ⊢
      cases queue : w.q with
      | nil => simpa only [queue] using found
      | cons x q =>
          simp only [queue] at found ⊢
          exact ih found (Nat.le_of_succ_le_succ more)

/-- A search of a graph with at most `bound` reachable vertices ends within `bound + 1` turns,
    and its order is the reachable vertices, each once, from the start on. -/
theorem search_spec {bound : Nat}
    (finite : ∀ xs : List α, xs.Nodup → (∀ x ∈ xs, Reachable succ s x) → xs.length ≤ bound)
    {fuel : Nat} (enough : bound < fuel) :
    ∃ order, search succ fuel (start s) = some order ∧ order.Nodup ∧ [s] <+: order ∧
      ∀ x, x ∈ order ↔ Reachable succ s x :=
  search_from finite Explored.start (fun x inside => absurd inside List.not_mem_nil)
    (by simpa using enough)

/-- A search which ends has found the reachable vertices, each once, from the start on. -/
theorem search_sound_from {fuel : Nat} {order : List α} (inv : Explored succ s done w)
    (closed : Closed succ done w.order) (found : search succ fuel w = some order) :
    order.Nodup ∧ [s] <+: order ∧ ∀ x, x ∈ order ↔ Reachable succ s x := by
  induction fuel generalizing done w with
  | zero => cases found
  | succ fuel ih =>
      rw [search] at found
      cases queue : w.q with
      | nil =>
          simp only [queue, Option.some.injEq] at found
          obtain rfl := found
          have all : w.order = done := by rw [inv.split, queue, List.append_nil]
          have start : s ∈ w.order := inv.first.subset List.mem_cons_self
          rw [← all] at closed
          exact ⟨inv.nodup, inv.first, fun x => ⟨inv.reachable x, closed.complete start⟩⟩
      | cons x q =>
          simp only [queue] at found
          obtain ⟨inv', closed'⟩ := inv.turn closed queue
          exact ih inv' closed' found

theorem search_sound {fuel : Nat} {order : List α}
    (found : search succ fuel (start s) = some order) :
    order.Nodup ∧ [s] <+: order ∧ ∀ x, x ∈ order ↔ Reachable succ s x :=
  search_sound_from Explored.start (fun _ inside => absurd inside List.not_mem_nil) found

/-- Append `x` unless it is there. -/
def insertNew (acc : List α) (x : α) : List α := if x ∈ acc then acc else acc ++ [x]

theorem prefix_insertNew (acc : List α) (x : α) : acc <+: insertNew acc x := by
  unfold insertNew
  split
  · exact List.prefix_rfl
  · exact List.prefix_append _ _

theorem prefix_foldl_insertNew (xs acc : List α) : acc <+: xs.foldl insertNew acc := by
  induction xs generalizing acc with
  | nil => exact List.prefix_rfl
  | cons x xs ih => exact (prefix_insertNew acc x).trans (ih _)

theorem nodup_foldl_insertNew (xs : List α) {acc : List α} (distinct : acc.Nodup) :
    (xs.foldl insertNew acc).Nodup := by
  induction xs generalizing acc with
  | nil => exact distinct
  | cons x xs ih =>
      apply ih
      unfold insertNew
      split
      case isTrue => exact distinct
      case isFalse new =>
        refine List.nodup_append.mpr ⟨distinct, List.nodup_singleton x, ?_⟩
        intro a inside b single same
        rw [List.mem_singleton.mp single] at same
        exact new (same ▸ inside)

theorem mem_foldl_insertNew {xs acc : List α} {x : α} :
    x ∈ xs.foldl insertNew acc ↔ x ∈ acc ∨ x ∈ xs := by
  induction xs generalizing acc with
  | nil => simp
  | cons y ys ih =>
      have one : x ∈ insertNew acc y ↔ x ∈ acc ∨ x = y := by
        unfold insertNew
        split
        case isTrue old =>
          constructor
          · exact .inl
          · rintro (inside | rfl)
            · exact inside
            · exact old
        case isFalse => simp
      rw [List.foldl_cons, ih, one, List.mem_cons, or_assoc]

theorem foldl_push_order (xs : List α) (w : Worklist α) (seen : ∀ x, x ∈ w.seen ↔ x ∈ w.order) :
    (xs.foldl push w).order = xs.foldl insertNew w.order := by
  induction xs generalizing w with
  | nil => rfl
  | cons x xs ih =>
      simp only [List.foldl_cons]
      have first : (w.push x).order = insertNew w.order x := by
        simp only [push, insertNew, ← seen]
        split <;> rfl
      have seen' : ∀ y, y ∈ (w.push x).seen ↔ y ∈ (w.push x).order := by
        intro y
        unfold push
        split
        · exact seen y
        · simp only [Finset.mem_insert, seen, List.mem_append, List.mem_singleton, or_comm]
      rw [ih _ seen', first]

/-- A list in which every vertex but the first stands where it is met first among the
    successors of the list itself. -/
def Discovered (succ : α → List α) (s : α) (order : List α) : Prop :=
  (order.flatMap succ).foldl insertNew [s] = order

theorem search_discovered_from {fuel : Nat} {order : List α} (inv : Explored succ s done w)
    (fresh : (done.flatMap succ).foldl insertNew [s] = w.order)
    (found : search succ fuel w = some order) :
    Discovered succ s order := by
  induction fuel generalizing done w with
  | zero => cases found
  | succ fuel ih =>
      rw [search] at found
      cases queue : w.q with
      | nil =>
          simp only [queue, Option.some.injEq] at found
          obtain rfl := found
          have all : w.order = done := by rw [inv.split, queue, List.append_nil]
          rw [← all] at fresh
          exact fresh
      | cons x q =>
          simp only [queue] at found
          have here : x ∈ w.order := by simp [inv.split, queue]
          have popped : Explored succ s (done ++ [x]) { w with q := q } :=
            ⟨inv.seen, inv.nodup, inv.reachable, inv.first, by simp [inv.split, queue]⟩
          obtain ⟨inv', -⟩ := popped.pushAll fun y edge => (inv.reachable x here).tail edge
          refine ih inv' ?_ found
          rw [List.flatMap_append, List.foldl_append, fresh, List.flatMap_singleton,
            foldl_push_order _ _ popped.seen]

/-- The order a search returns is the order of discovery. -/
theorem search_discovered {fuel : Nat} {order : List α}
    (found : search succ fuel (start s) = some order) : Discovered succ s order :=
  search_discovered_from Explored.start rfl found

theorem Discovered.nodup {order : List α} (disc : Discovered succ s order) : order.Nodup :=
  disc ▸ nodup_foldl_insertNew _ (List.nodup_singleton s)

/-- What is met among the successors of a part of the order comes first in it. -/
theorem Discovered.met_begins {order part : List α} (disc : Discovered succ s order)
    (start : part <+: order) : (part.flatMap succ).foldl insertNew [s] <+: order := by
  obtain ⟨rest, split⟩ := start
  have whole : (order.flatMap succ).foldl insertNew [s] =
      (rest.flatMap succ).foldl insertNew ((part.flatMap succ).foldl insertNew [s]) := by
    rw [← split, List.flatMap_append, List.foldl_append]
  rw [Discovered, whole] at disc
  have longer := prefix_foldl_insertNew (rest.flatMap succ)
    ((part.flatMap succ).foldl insertNew [s])
  rwa [disc] at longer

/-- An order of discovery begins with as much of another as there is. -/
theorem Discovered.take_begins {o o' : List α} (disc : Discovered succ s o)
    (disc' : Discovered succ s o') (reached : ∀ x ∈ o, Reachable succ s x) (n : Nat) :
    o.take n <+: o' := by
  induction n with
  | zero => exact List.nil_prefix
  | succ n ih =>
      cases Nat.lt_or_ge n o.length with
      | inr all =>
          rw [List.take_of_length_le (Nat.le_succ_of_le all)]
          rwa [List.take_of_length_le all] at ih
      | inl inside =>
          have mine := disc.met_begins (List.take_prefix n o)
          have theirs := disc'.met_begins ih
          cases Nat.lt_or_ge n (((o.take n).flatMap succ).foldl insertNew [s]).length with
          | inl more =>
              have next : o.take (n + 1) <+: ((o.take n).flatMap succ).foldl insertNew [s] :=
                List.prefix_of_prefix_length_le (List.take_prefix _ _) mine (by
                  rw [List.length_take]
                  omega)
              exact next.trans theirs
          | inr ended =>
              -- nothing is left to be met, and the next of the order is reachable
              have old : ((o.take n).flatMap succ).foldl insertNew [s] ⊆ o.take n :=
                (List.prefix_of_prefix_length_le mine (List.take_prefix n o) (by
                  rw [List.length_take]
                  omega)).subset
              have closed : Closed succ (((o.take n).flatMap succ).foldl insertNew [s])
                  (((o.take n).flatMap succ).foldl insertNew [s]) := by
                intro x member y edge
                exact mem_foldl_insertNew.mpr
                  (.inr (List.mem_flatMap.mpr ⟨x, old member, edge⟩))
              have first : s ∈ ((o.take n).flatMap succ).foldl insertNew [s] :=
                mem_foldl_insertNew.mpr (.inl List.mem_cons_self)
              have again := old (closed.complete first (reached _ (List.getElem_mem inside)))
              have split := List.take_append_drop n o
              rw [List.drop_eq_getElem_cons inside] at split
              have distinct := disc.nodup
              rw [← split, List.nodup_append] at distinct
              exact absurd rfl (distinct.2.2 _ again _ List.mem_cons_self)

/-- There is one order in which the reachable vertices are discovered. -/
theorem Discovered.unique {o o' : List α} (disc : Discovered succ s o)
    (disc' : Discovered succ s o') (reached : ∀ x ∈ o, Reachable succ s x)
    (reached' : ∀ x ∈ o', Reachable succ s x) : o = o' := by
  have here := disc.take_begins disc' reached o.length
  have there := disc'.take_begins disc reached' o'.length
  rw [List.take_length] at here there
  exact here.eq_of_length (Nat.le_antisymm here.length_le there.length_le)

/-- Count the numbers met: each is one of those before it or the next. -/
def numbered : Nat → List Nat → Option Nat
  | known, [] => some known
  | known, j :: rest =>
      if j < known then numbered known rest
      else if j = known then numbered (known + 1) rest
      else none

/-- The count succeeds where the numbers met, each once, are the first ones in order. -/
theorem numbered_iff {js : List Nat} {known n : Nat} :
    numbered known js = some n ↔
      js.foldl insertNew (List.range known) = List.range n := by
  induction js generalizing known with
  | nil =>
      simp only [numbered, Option.some.injEq, List.foldl_nil]
      constructor
      · exact congrArg List.range
      · intro same
        simpa using congrArg List.length same
  | cons j js ih =>
      simp only [numbered, List.foldl_cons, insertNew, List.mem_range]
      by_cases old : j < known
      · simp only [if_pos old]
        exact ih
      · simp only [if_neg old]
        by_cases next : j = known
        · rw [if_pos next, ih, next, List.range_succ]
        · rw [if_neg next]
          simp only [reduceCtorEq, false_iff]
          -- the number past the next one would stand at its place
          intro same
          have begins := prefix_foldl_insertNew js (List.range known ++ [j])
          rw [same] at begins
          obtain ⟨rest, split⟩ := begins
          have here : (List.range n)[known]? = some j := by
            rw [← split, List.append_assoc, List.getElem?_append_right (by simp)]
            simp
          obtain ⟨inside, value⟩ := List.getElem?_eq_some_iff.mp here
          rw [List.getElem_range] at value
          exact next value.symm

/-- Names which tell elements apart make no difference to which are new. -/
theorem foldl_insertNew_map {α : Type u} {β : Type v} [DecidableEq α] [DecidableEq β]
    {key : α → β} {p : α → Prop} (injective : ∀ a b, p a → p b → key a = key b → a = b)
    {xs : List α} : ∀ {acc : List α}, (∀ a ∈ acc, p a) → (∀ a ∈ xs, p a) →
      (xs.map key).foldl insertNew (acc.map key) =
        (xs.foldl insertNew acc).map key := by
  induction xs with
  | nil => exact fun _ _ => rfl
  | cons x xs ih =>
      intro acc known new
      have here := new x List.mem_cons_self
      have member : key x ∈ acc.map key ↔ x ∈ acc := by
        constructor
        · intro inside
          obtain ⟨a, old, same⟩ := List.mem_map.mp inside
          exact injective a x (known a old) here same ▸ old
        · exact List.mem_map_of_mem
      have one : insertNew (acc.map key) (key x) =
          (insertNew acc x).map key := by
        simp only [insertNew, member]
        split
        · rfl
        · rw [List.map_append, List.map_singleton]
      rw [List.map_cons, List.foldl_cons, List.foldl_cons, one]
      refine ih ?_ fun a later => new a (.tail x later)
      intro a inside
      unfold insertNew at inside
      split at inside
      · exact known a inside
      · cases List.mem_append.mp inside with
        | inl old => exact known a old
        | inr single => exact List.mem_singleton.mp single ▸ here

theorem map_inj_of {α : Type u} {β : Type v} {key : α → β} {p : α → Prop}
    (injective : ∀ a b, p a → p b → key a = key b → a = b) {xs : List α} :
    ∀ {ys : List α}, (∀ a ∈ xs, p a) → (∀ b ∈ ys, p b) → xs.map key = ys.map key → xs = ys := by
  induction xs with
  | nil =>
      intro ys _ _ same
      exact (List.map_eq_nil_iff.mp same.symm).symm
  | cons x xs ih =>
      intro ys left right same
      cases ys with
      | nil => cases same
      | cons y ys =>
          obtain ⟨first, rest⟩ := List.cons.inj same
          have same_rest := ih (fun a later => left a (.tail x later))
            (fun b later => right b (.tail y later)) rest
          rw [injective x y (left x List.mem_cons_self) (right y List.mem_cons_self) first,
            same_rest]

end Worklist

section Enumerate

variable {α : Type u} {κ : Type v} [DecidableEq κ] {key : α → κ} {xs : List α} {k : κ} {i : Nat}

/-- The dictionary `{key(x): i for i, x in enumerate(xs)}`: of equal keys the last one stands. -/
def enumDict (key : α → κ) (xs : List α) (k : κ) : Option Nat :=
  (xs.zipIdx.map fun p => (key p.1, p.2)).reverse.lookup k

theorem enumDict_sound (found : enumDict key xs k = some i) : ∃ x, xs[i]? = some x ∧ key x = k := by
  obtain ⟨l₁, l₂, split, -⟩ := List.lookup_eq_some_iff.mp found
  have member : (k, i) ∈ (xs.zipIdx.map fun p => (key p.1, p.2)).reverse := by simp [split]
  obtain ⟨⟨x, j⟩, inside, same⟩ := List.mem_map.mp (List.mem_reverse.mp member)
  obtain ⟨rfl, rfl⟩ := Prod.mk.inj same
  exact ⟨x, List.mem_zipIdx_iff_getElem?.mp inside, rfl⟩

theorem enumDict_missing (missing : enumDict key xs k = none) {x : α} (inside : xs[i]? = some x) :
    key x ≠ k := by
  have member : (key x, i) ∈ (xs.zipIdx.map fun p => (key p.1, p.2)).reverse :=
    List.mem_reverse.mpr (List.mem_map.mpr ⟨(x, i), List.mem_zipIdx_iff_getElem?.mpr inside, rfl⟩)
  have ne := List.lookup_eq_none_iff.mp missing _ member
  exact (bne_iff_ne.mp ne).symm

/-- Where keys are distinct the dictionary gives the position of each. -/
theorem enumDict_iff (distinct : (xs.map key).Nodup) :
    enumDict key xs k = some i ↔ ∃ x, xs[i]? = some x ∧ key x = k := by
  constructor
  · exact enumDict_sound
  · rintro ⟨x, here, rfl⟩
    cases found : enumDict key xs (key x) with
    | none => exact absurd rfl (enumDict_missing found here)
    | some j =>
        obtain ⟨y, there, same⟩ := enumDict_sound found
        have at_i : (xs.map key)[i]? = some (key x) := by rw [List.getElem?_map, here]; rfl
        have at_j : (xs.map key)[j]? = some (key x) := by rw [List.getElem?_map, there, ← same]; rfl
        obtain ⟨lt, -⟩ := List.getElem?_eq_some_iff.mp at_j
        rw [(List.getElem?_inj lt distinct).mp (at_j.trans at_i.symm)]

end Enumerate

/-- A map which may fail, and does not, gives an image for every element. -/
theorem exists_mapM {α : Type u} {β ε : Type v} {f : α → Except ε β} {rel : α → β → Prop}
    {xs : List α} (each : ∀ x ∈ xs, ∃ y, f x = .ok y ∧ rel x y) :
    ∃ ys, xs.mapM f = .ok ys ∧ List.Forall₂ rel xs ys := by
  induction xs with
  | nil => exact ⟨[], rfl, .nil⟩
  | cons x xs ih =>
      obtain ⟨y, image, here⟩ := each x List.mem_cons_self
      obtain ⟨ys, images, there⟩ := ih fun x' later => each x' (.tail x later)
      refine ⟨y :: ys, ?_, .cons here there⟩
      simp only [List.mapM_cons, image, images, bind, Except.bind, pure, Except.pure]

theorem exists_of_mem_mapM {α : Type u} {β ε : Type v} {f : α → Except ε β} {xs : List α}
    {ys : List β} (done : xs.mapM f = .ok ys) {y : β} (inside : y ∈ ys) :
    ∃ x ∈ xs, f x = .ok y := by
  induction xs generalizing ys with
  | nil =>
      obtain rfl := Except.ok.inj done
      cases inside
  | cons x xs ih =>
      rw [List.mapM_cons] at done
      cases image : f x with
      | error why => simp [image, bind, Except.bind] at done
      | ok z =>
          cases images : xs.mapM f with
          | error why => simp [image, images, bind, Except.bind] at done
          | ok zs =>
              simp only [image, images, bind, Except.bind, pure, Except.pure,
                Except.ok.injEq] at done
              subst done
              cases inside with
              | head => exact ⟨x, .head _, image⟩
              | tail _ later =>
                  obtain ⟨x', member, here⟩ := ih images later
                  exact ⟨x', .tail _ member, here⟩

theorem exists_of_mem_right {α : Type u} {β : Type v} {rel : α → β → Prop} {xs : List α}
    {ys : List β} (all : List.Forall₂ rel xs ys) {y : β} (inside : y ∈ ys) :
    ∃ x ∈ xs, rel x y := by
  induction all with
  | nil => exact absurd inside List.not_mem_nil
  | cons first _ ih =>
      cases inside with
      | head => exact ⟨_, .head _, first⟩
      | tail _ later =>
          obtain ⟨x, member, here⟩ := ih later
          exact ⟨x, .tail _ member, here⟩

theorem exists_getElem?_of_forall₂ {α : Type u} {β : Type v} {rel : α → β → Prop} {xs : List α}
    {ys : List β} (all : List.Forall₂ rel xs ys) {i : Nat} {x : α} (here : xs[i]? = some x) :
    ∃ y, ys[i]? = some y ∧ rel x y := by
  induction all generalizing i with
  | nil => simp at here
  | cons first _ ih =>
      cases i with
      | zero =>
          obtain rfl := Option.some.inj here
          exact ⟨_, rfl, first⟩
      | succ i => exact ih here

/-- A list of `n` rows of one width. -/
theorem eq_flatMap_rows {α : Type u} {width : Nat} {xs : List α} {n : Nat}
    (length : xs.length = n * width) :
    xs = (List.range n).flatMap fun i => (xs.drop (i * width)).take width := by
  induction n generalizing xs with
  | zero =>
      rw [Nat.zero_mul] at length
      rw [List.length_eq_zero_iff.mp length]
      rfl
  | succ n ih =>
      have rest : (xs.drop width).length = n * width := by
        rw [List.length_drop, length, Nat.succ_mul, Nat.add_sub_cancel]
      rw [List.range_succ_eq_map, List.flatMap_cons, Nat.zero_mul, List.drop_zero,
        List.flatMap_map]
      conv_lhs => rw [← List.take_append_drop width xs, ih rest]
      simp only [List.drop_drop, Nat.succ_mul, Nat.add_comm]

/-- Of rows of one width, laid end to end, the `i`-th begins at `i * width`. -/
theorem getElem?_rows {α : Type u} {rows : List (List α)} {row : List α} {width i j : Nat}
    (widths : ∀ r ∈ rows, r.length = width) (here : rows[i]? = some row) (inside : j < width) :
    rows.flatten[i * width + j]? = row[j]? := by
  induction rows generalizing i with
  | nil => simp at here
  | cons r rows ih =>
      have width_r := widths r List.mem_cons_self
      rw [List.flatten_cons]
      cases i with
      | zero =>
          obtain rfl : r = row := by simpa using here
          rw [Nat.zero_mul, Nat.zero_add, List.getElem?_append_left (by omega)]
      | succ i =>
          rw [List.getElem?_append_right (by rw [width_r, Nat.succ_mul]; omega), width_r]
          have shift : (i + 1) * width + j - width = i * width + j := by
            rw [Nat.succ_mul]
            omega
          rw [shift]
          exact ih (fun r' later => widths r' (.tail r later)) (by simpa using here)
