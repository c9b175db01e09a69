import Mathlib.Data.List.DropRight
import Mathlib.Logic.Function.Basic
import Mathlib.Tactic.Choose

/-! # The header of the generated files

The compiler starts every file it emits with a comment which names the paths it was invoked
with. A script puts a fixed header in its place, so that the committed files depend neither on
where they were generated nor on how often the script has run over them.
-/

namespace HpackHuffman.StripHeader

/-- The Python method: the first index at which `sub` stands. -/
def index (sub : List Char) : List Char → Option Nat
  | [] => if sub.isEmpty then some 0 else none
  | c :: s => if sub.isPrefixOf (c :: s) then some 0 else (index sub s).map (· + 1)

def lstrip (c : Char) (s : List Char) : List Char := s.dropWhile (· == c)

def header : List Char :=
  ("/*\n" ++
    " * GENERATED from the verified F* sources in fstar/.\n" ++
    " * Do not edit by hand -- regenerate with: make -C fstar generate\n" ++
    " */\n").toList

/-- The text with its leading comment replaced, unless no comment ends in it. -/
def stripHeader (text : List Char) : Option (List Char) :=
  (index ['*', '/'] text).map fun close =>
    header ++ '\n' :: lstrip '\n' (text.drop (close + 2))

section Run

variable {Path : Type} [DecidableEq Path]

/-- The files named on the command line are rewritten one after another. A file is the text which
    `open` returns, its newlines translated; one which is missing or cannot be decoded has none.
    The script stops at the first such file and at the first in which no comment ends. -/
def stripFiles : List Path → (Path → Option (List Char)) → (Path → Option (List Char)) × Bool
  | [], files => (files, true)
  | path :: argv, files =>
      match (files path).bind stripHeader with
      | none => (files, false)
      | some text => stripFiles argv (Function.update files path (some text))

end Run

theorem index_fits {sub s : List Char} :
    ∀ {i : Nat}, index sub s = some i → sub.length ≤ s.length := by
  induction s with
  | nil =>
      intro i found
      cases sub with
      | nil => exact Nat.le_refl 0
      | cons c sub => cases found
  | cons c s ih =>
      intro i found
      unfold index at found
      split at found
      case isTrue here =>
        rw [List.isPrefixOf_iff_prefix] at here
        exact here.length_le
      case isFalse other =>
        cases later : index sub s with
        | none => simp [later] at found
        | some j => exact Nat.le_succ_of_le (ih later)

/-- The first place in a text is the first place in every longer one. -/
theorem index_append {sub s : List Char} (t : List Char) :
    ∀ {i : Nat}, index sub s = some i → index sub (s ++ t) = some i := by
  induction s with
  | nil =>
      intro i found
      cases sub with
      | nil => cases t with
        | nil => exact found
        | cons c t => simpa [index] using found
      | cons c sub => cases found
  | cons c s ih =>
      intro i found
      have same : sub.isPrefixOf (c :: (s ++ t)) = sub.isPrefixOf (c :: s) := by
        rw [Bool.eq_iff_iff, List.isPrefixOf_iff_prefix, List.isPrefixOf_iff_prefix]
        constructor
        · intro front
          exact List.prefix_of_prefix_length_le front (List.prefix_append (c :: s) t)
            (index_fits found)
        · intro front
          exact front.trans (List.prefix_append (c :: s) t)
      unfold index at found
      rw [List.cons_append, index, same]
      split at found
      case isTrue here =>
        rw [if_pos here]
        exact found
      case isFalse other =>
        rw [if_neg other]
        cases later : index sub s with
        | none => simp [later] at found
        | some j =>
            rw [later] at found
            rw [ih later]
            exact found

theorem index_comment {block : List Char} (rest : List Char)
    (open_ : index ['*', '/'] block = none) :
    index ['*', '/'] (block ++ '*' :: '/' :: rest) = some block.length := by
  induction block with
  | nil => rfl
  | cons c block ih =>
      unfold index at open_
      split at open_
      case isTrue here => cases open_
      case isFalse other =>
        have later := ih (Option.map_eq_none_iff.mp open_)
        have other' : ¬ ['*', '/'].isPrefixOf (c :: (block ++ '*' :: '/' :: rest)) = true := by
          cases block with
          | nil => simp [List.isPrefixOf]
          | cons d block => simpa [List.isPrefixOf] using other
        rw [List.cons_append, index, if_neg other', later]
        rfl

theorem stripHeader_comment {block rest : List Char} (open_ : index ['*', '/'] block = none) :
    stripHeader (block ++ '*' :: '/' :: rest) = some (header ++ '\n' :: lstrip '\n' rest) := by
  have past : (block ++ '*' :: '/' :: rest).drop (block.length + 2) = rest := by
    rw [List.drop_append]
    simp
  rw [stripHeader, index_comment rest open_, Option.map_some, past]

/-- Stripping stops at the first other character. -/
theorem suffix_lstrip {c d : Char} (s t : List Char) (other : d ≠ c) :
    d :: t <:+ lstrip c (s ++ d :: t) := by
  induction s with
  | nil => simp [lstrip, other]
  | cons e s ih =>
      by_cases same : (e == c) = true
      · simpa only [lstrip, List.cons_append, List.dropWhile_cons, if_pos same] using ih
      · simp only [lstrip, List.cons_append, List.dropWhile_cons, if_neg same]
        exact List.suffix_append (e :: s) (d :: t)

/-- A text which starts with a comment: `/*`, its body, `*/`, and the rest. -/
def commented (body rest : List Char) : List Char := '/' :: '*' :: (body ++ '*' :: '/' :: rest)

/-- The script finds the end of a comment which does not open with `/*/`. In one which does, it
    takes the end of `/*/` for it. -/
theorem stripHeader_commented {body : List Char} (rest : List Char)
    (open_ : index ['*', '/'] body = none) :
    ∃ text, stripHeader (commented body rest) = some text ∧
      (text = header ++ '\n' :: lstrip '\n' rest ↔ body.head? ≠ some '/') := by
  by_cases slash : body.head? = some '/'
  · obtain ⟨later, rfl⟩ := List.head?_eq_some_iff.mp slash
    refine ⟨_, @stripHeader_comment ['/'] (later ++ '*' :: '/' :: rest) rfl, ?_⟩
    constructor
    · intro same
      have stripped := congrArg List.length (List.cons.inj (List.append_cancel_left same)).2
      have longer := (suffix_lstrip later ('/' :: rest) (by decide : '*' ≠ '\n')).length_le
      have shorter : (lstrip '\n' rest).length ≤ rest.length := List.length_dropWhile_le _ _
      simp only [List.length_cons] at longer
      omega
    · exact fun other => absurd slash other
  · have block : index ['*', '/'] ('/' :: '*' :: body) = none := by
      cases body with
      | nil => rfl
      | cons c body =>
          have other : ('/' == c) = false := beq_false_of_ne fun same => slash (same ▸ rfl)
          have none_ : ['*', '/'].isPrefixOf ('*' :: c :: body) = false := by
            simp only [List.isPrefixOf, other, Bool.false_and, Bool.and_false]
          rw [index, index, none_, open_]
          rfl
    exact ⟨_, @stripHeader_comment ('/' :: '*' :: body) rest block, iff_of_true rfl slash⟩

/-- The script leaves what it has written as it is. -/
theorem stripHeader_idempotent {text text' : List Char} (stripped : stripHeader text = some text') :
    stripHeader text' = some text' := by
  obtain ⟨close, -, rfl⟩ := Option.map_eq_some_iff.mp stripped
  have first : index ['*', '/'] header = some (header.length - 3) := by decide +kernel
  have last : header.drop (header.length - 3 + 2) = ['\n'] := by decide +kernel
  have long : header.length - 3 + 2 ≤ header.length := by decide +kernel
  have again : lstrip '\n' (['\n'] ++ '\n' :: lstrip '\n' (text.drop (close + 2))) =
      lstrip '\n' (text.drop (close + 2)) := List.dropWhile_idempotent _ _
  unfold stripHeader
  rw [index_append _ first, Option.map_some, List.drop_append_of_le_length long, last, again]

section Run

variable {Path : Type} [DecidableEq Path] {files : Path → Option (List Char)}
  {argv : List Path}

theorem stripFiles_stop {path : Path} (none : (files path).bind stripHeader = none) :
    stripFiles (path :: argv) files = (files, false) := by
  rw [stripFiles, none]

theorem stripFiles_step {path : Path} {text : List Char}
    (some_ : (files path).bind stripHeader = some text) :
    stripFiles (path :: argv) files = stripFiles argv (Function.update files path (some text)) := by
  rw [stripFiles, some_]

/-- A file which the script has written is never changed again. -/
theorem stripFiles_keeps {path : Path} {text : List Char} (done : files path = some text)
    (fixed : stripHeader text = some text) : (stripFiles argv files).1 path = some text := by
  induction argv generalizing files with
  | nil => exact done
  | cons p argv ih =>
      cases next : (files p).bind stripHeader with
      | none =>
          rw [stripFiles_stop next]
          exact done
      | some text' =>
          rw [stripFiles_step next]
          apply ih
          by_cases same : path = p
          · cases same
            rw [done, Option.bind_some, fixed] at next
            rw [Function.update_self, ← next]
          · rw [Function.update_of_ne same, done]

/-- A second run changes nothing and ends as the first has, whether or not it was stopped and
    whatever files are named how often. -/
theorem stripFiles_idempotent (argv : List Path) (files : Path → Option (List Char)) :
    stripFiles argv (stripFiles argv files).1 = stripFiles argv files := by
  induction argv generalizing files with
  | nil => rfl
  | cons p argv ih =>
      cases next : (files p).bind stripHeader with
      | none => rw [stripFiles_stop next, stripFiles_stop next]
      | some text =>
          obtain ⟨text₀, -, stripped⟩ := Option.bind_eq_some_iff.mp next
          have fixed := stripHeader_idempotent stripped
          rw [stripFiles_step next]
          have kept : (stripFiles argv (Function.update files p (some text))).1 p = some text :=
            stripFiles_keeps (Function.update_self p (some text) files) fixed
          have again : ((stripFiles argv (Function.update files p (some text))).1 p).bind
              stripHeader = some text := by
            rw [kept, Option.bind_some, fixed]
          rw [stripFiles_step again, Function.update_eq_self_iff.mpr kept.symm, ih]

/-- A run in which no file stops the script leaves each as one call would. -/
theorem stripFiles_done {final : Path → List Char}
    (each : ∀ path ∈ argv, (files path).bind stripHeader = some (final path)) :
    stripFiles argv files =
      (fun path => if path ∈ argv then some (final path) else files path, true) := by
  induction argv generalizing files with
  | nil => simp [stripFiles]
  | cons p argv ih =>
      have first := each p List.mem_cons_self
      obtain ⟨text, -, stripped⟩ := Option.bind_eq_some_iff.mp first
      rw [stripFiles_step first, ih]
      · refine Prod.ext (funext fun path => ?_) rfl
        by_cases same : path = p
        · cases same
          simp
        · simp [same]
      · intro path mem
        by_cases same : path = p
        · cases same
          rw [Function.update_self, Option.bind_some, stripHeader_idempotent stripped]
        · rw [Function.update_of_ne same]
          exact each path (List.mem_cons_of_mem p mem)

/-- On files which start with a comment a run ends. It leaves the fixed header and what follows the
    comment in each of them if and only if no comment opens with `/*/`. -/
theorem stripFiles_exact {body rest : Path → List Char}
    (comments : ∀ path ∈ argv, index ['*', '/'] (body path) = none ∧
      files path = some (commented (body path) (rest path))) :
    (stripFiles argv files).2 = true ∧
    (stripFiles argv files =
        (fun path => if path ∈ argv then some (header ++ '\n' :: lstrip '\n' (rest path))
          else files path, true) ↔
      ∀ path ∈ argv, (body path).head? ≠ some '/') := by
  have each : ∀ path ∈ argv, ∃ text, (files path).bind stripHeader = some text ∧
      (text = header ++ '\n' :: lstrip '\n' (rest path) ↔ (body path).head? ≠ some '/') := by
    intro path mem
    obtain ⟨open_, text⟩ := comments path mem
    obtain ⟨text', stripped, exact_⟩ := stripHeader_commented (rest path) open_
    exact ⟨text', by rw [text, Option.bind_some, stripped], exact_⟩
  choose! final run exact_ using each
  rw [stripFiles_done run]
  refine ⟨rfl, ?_⟩
  constructor
  · intro same path mem
    have here := congrFun (congrArg Prod.fst same) path
    simp only [if_pos mem, Option.some.injEq] at here
    exact (exact_ path mem).mp here
  · intro plain
    refine Prod.ext (funext fun path => ?_) rfl
    by_cases mem : path ∈ argv
    · simp only [if_pos mem, (exact_ path mem).mpr (plain path mem)]
    · simp only [if_neg mem]

/-- One file, named twice. -/
theorem stripFiles_exact_twice :
    stripFiles [0, 0] (fun _ : Nat => some (commented ['a'] ['\n', 'x'])) =
      (fun path => if path ∈ [0, 0] then some (header ++ '\n' :: lstrip '\n' ['\n', 'x'])
        else some (commented ['a'] ['\n', 'x']), true) :=
  (@stripFiles_exact Nat _ (fun _ => some (commented ['a'] ['\n', 'x'])) [0, 0] (fun _ => ['a'])
    (fun _ => ['\n', 'x']) fun _ _ => ⟨by decide, rfl⟩).2.mpr fun _ _ => by decide

end Run

end HpackHuffman.StripHeader
