import HpackHuffman.Generator.Worklist
import HpackHuffman.Spec.Complete

/-! # The table generator's output

From the states in the order they were found the script makes the tables: a cell for every
state and nibble, which packs the id of the next state, a flag and a symbol, and a flag for
every state in which the padding rule holds. A reader which follows the cells from the first id
does what the automaton does.
-/

namespace HpackHuffman.Generator

/-- Why the script stops without its tables. -/
inductive Failure where
  /-- The search was still running. -/
  | outOfFuel
  /-- The maximum of an empty list was taken. -/
  | valueError
  /-- A state without an id was looked up. -/
  | keyError
  | assertion
  deriving DecidableEq, Repr

/-- The tables the script prints. -/
structure Automaton where
  order : List State
  keys : List Nat
  cells : List Nat
  accept : List Nat
  deriving DecidableEq, Repr

def nextId (n : Nat) (sid : State → Option Nat) : Option State → Except Failure Nat
  | none => .ok n
  | some ns =>
      match sid ns with
      | some i => .ok i
      | none => .error .keyError

/-- The flag and the symbol of a cell. -/
def flagSym : List Nat → Nat × Nat
  | [] => (0, 0)
  | sym :: _ => (1, sym)

def cell (T : Table) (n : Nat) (sid : State → Option Nat) (st : State) (nib : Nat) :
    Except Failure Nat :=
  let (ns, emitted) := step T (some st) nib
  if emitted.length ≤ 1 then do
    let nid ← nextId n sid ns
    let (flag, sym) := flagSym emitted
    return nid * 65536 + flag * 256 + sym
  else .error .assertion

def row (T : Table) (n : Nat) (sid : State → Option Nat) (st : State) :
    Except Failure (List Nat) :=
  (List.range 16).mapM (cell T n sid st)

def acceptFlag (st : State) : Nat := if st.2 ≤ 7 ∧ st.1 = (1 <<< st.2) - 1 then 1 else 0

def packKey (st : State) : Nat := st.1 * 32 + st.2

def tables (T : Table) (order : List State) : Except Failure Automaton :=
  let n := order.length
  match (order.map Prod.snd).max? with
  | none => .error .valueError
  | some maxnb =>
      if maxnb < 32 then do
        let sid := enumDict id order
        let rows ← order.mapM (row T n sid)
        let cells := rows.flatten
        if cells.length = n * 16 ∧ ∀ c ∈ cells, c < 2 ^ 32 then
          return ⟨order, order.map packKey, cells, order.map acceptFlag⟩
        else .error .assertion
      else .error .assertion

def generate (T : Table) (fuel : Nat) : Except Failure Automaton :=
  match search T fuel with
  | none => .error .outOfFuel
  | some order => tables T order

/-- Follow cells from the id `i`: emit the symbol exactly when the flag is 1, and stop at the
    id past the last one. -/
def Automaton.run (A : Automaton) : Nat → List Nibble → Option (Nat × List Byte)
  | i, [] => some (i, [])
  | i, n :: tl => do
      let c ← A.cells[i * 16 + n.val]?
      let next := c / 65536
      let emitted := if c / 256 % 256 = 1 then [UInt8.ofNat (c % 256)] else []
      if next = A.order.length then
        return (next, emitted)
      else
        let (j, rest) ← A.run next tl
        return (j, emitted ++ rest)

/-- The id `j` stands for a state. -/
def IdOf (order : List State) : DState → Nat → Prop
  | .fail, j => j = order.length
  | .live acc nbits, j => order[j]? = some (acc, nbits)

theorem IdOf.le {order : List State} {s : DState} {j : Nat} (id_ : IdOf order s j) :
    j ≤ order.length := by
  cases s with
  | fail => exact Nat.le_of_eq id_
  | live acc nbits => exact Nat.le_of_lt (List.getElem?_eq_some_iff.mp id_).1

/-- Only the failed state has the id past the last one. -/
theorem IdOf.fail_iff {order : List State} {s : DState} {j : Nat} (id_ : IdOf order s j) :
    j = order.length ↔ s = .fail := by
  cases s with
  | fail => exact iff_of_true id_ rfl
  | live acc nbits =>
      have lt := (List.getElem?_eq_some_iff.mp id_).1
      exact iff_of_false (Nat.ne_of_lt lt) DState.noConfusion

/-- What a cell tells of a state and a nibble. -/
structure CellOk (T : Table) (order : List State) (st : State) (n : Nibble) (c : Nat) : Prop where
  next : IdOf order (HpackHuffman.step T (toDState (some st)) n).1 (c / 65536)
  emitted : (if c / 256 % 256 = 1 then [UInt8.ofNat (c % 256)] else []) =
    (HpackHuffman.step T (toDState (some st)) n).2
  small : c < 2 ^ 32

/-- Packing loses nothing. -/
theorem unpack_cell {out : List Byte} (one : out.length ≤ 1) (nid : Nat) :
    let c := nid * 65536 + (flagSym (out.map UInt8.toNat)).1 * 256 +
      (flagSym (out.map UInt8.toNat)).2
    c / 65536 = nid ∧ (if c / 256 % 256 = 1 then [UInt8.ofNat (c % 256)] else []) = out ∧
      c < (nid + 1) * 65536 := by
  match out, one with
  | [], _ =>
      simp only [List.map_nil, flagSym]
      refine ⟨by omega, if_neg (by omega), by omega⟩
  | [b], _ =>
      have lt := b.toNat_lt
      have low : (nid * 65536 + 1 * 256 + b.toNat) % 256 = b.toNat := by omega
      simp only [List.map_cons, List.map_nil, flagSym, low, UInt8.ofNat_toNat]
      refine ⟨by omega, if_pos (by omega), by omega⟩

section Cells

variable {T : Table} {order : List State} {st : State}

/-- The state a transition leads to has an id. -/
theorem exists_id (enum : Enumerates T order) (here : st ∈ order) {n : Nibble} {st' : State}
    (next : (step T (some st) n.val).1 = some st') :
    ∃ j, enumDict id order st' = some j ∧ order[j]? = some st' := by
  have edge : st' ∈ successors T st := by
    simp only [successors, List.mem_filterMap, List.mem_range]
    exact ⟨n.val, n.isLt, next⟩
  have found : st' ∈ order := (enum.reached st').mpr (((enum.reached st).mp here).tail edge)
  obtain ⟨j, inside⟩ := List.mem_iff_getElem?.mp found
  have distinct : (order.map id).Nodup := by simpa using enum.distinct
  exact ⟨j, (enumDict_iff distinct).mpr ⟨st', inside, rfl⟩, inside⟩

section Valid

variable (valid : T.Valid)

include valid

theorem nextId_ok (enum : Enumerates T order) (here : st ∈ order) (n : Nibble) :
    ∃ nid, nextId order.length (enumDict id order) (step T (some st) n.val).1 = .ok nid ∧
      IdOf order (HpackHuffman.step T (toDState (some st)) n).1 nid := by
  rw [← (step_eq valid.prefixFree (some st) n).1]
  cases next : (step T (some st) n.val).1 with
  | none => exact ⟨order.length, rfl, rfl⟩
  | some st' =>
      obtain ⟨j, id_, inside⟩ := exists_id enum here next
      exact ⟨j, by simp only [nextId, id_], inside⟩

theorem cell_ok (long : ∀ s, 4 ≤ lenOf T s) (enum : Enumerates T order)
    (few : order.length ≤ 256) (here : st ∈ order) (n : Nibble) :
    ∃ c, cell T order.length (enumDict id order) st n.val = .ok c ∧ CellOk T order st n c := by
  obtain ⟨nid, next, id_⟩ := nextId_ok valid enum here n
  have emitted := (step_eq valid.prefixFree (some st) n).2
  have one : (HpackHuffman.step T (toDState (some st)) n).2.length ≤ 1 :=
    length_emitted_le_one long _ (Nat.le_refl 4)
  obtain ⟨id_', emitted', small⟩ := unpack_cell one nid
  have le := id_.le
  have one' : (step T (some st) n.val).2.length ≤ 1 := by rwa [emitted, List.length_map]
  refine ⟨_, ?_, ⟨id_'.symm ▸ id_, emitted', by omega⟩⟩
  rw [← emitted]
  simp only [cell, if_pos one', next, bind, Except.bind]
  rfl

end Valid

/-- What a row tells of a state. -/
structure RowOk (T : Table) (order : List State) (st : State) (cells : List Nat) : Prop where
  width : cells.length = 16
  cell : ∀ n : Nibble, ∃ c, cells[n.val]? = some c ∧ CellOk T order st n c

theorem RowOk.small {cells : List Nat} (ok : RowOk T order st cells) {c : Nat}
    (inside : c ∈ cells) : c < 2 ^ 32 := by
  obtain ⟨j, there⟩ := List.mem_iff_getElem?.mp inside
  have lt := ok.width ▸ (List.getElem?_eq_some_iff.mp there).1
  obtain ⟨c', found, cellOk⟩ := ok.cell ⟨j, lt⟩
  obtain rfl : c' = c := Option.some.inj (found.symm.trans there)
  exact cellOk.small

section Valid

variable (valid : T.Valid)

include valid

theorem row_ok (long : ∀ s, 4 ≤ lenOf T s) (enum : Enumerates T order)
    (few : order.length ≤ 256) (here : st ∈ order) :
    ∃ cells, row T order.length (enumDict id order) st = .ok cells ∧ RowOk T order st cells := by
  have made : ∃ cells, row T order.length (enumDict id order) st = .ok cells ∧
      List.Forall₂ (fun nib c => ∀ n : Nibble, n.val = nib → CellOk T order st n c)
        (List.range 16) cells := by
    apply exists_mapM
    intro nib inside
    obtain ⟨c, made, ok⟩ := cell_ok valid long enum few here ⟨nib, List.mem_range.mp inside⟩
    refine ⟨c, made, ?_⟩
    rintro n rfl
    exact ok
  obtain ⟨cells, made, all⟩ := made
  refine ⟨cells, made, by simpa using all.length_eq.symm, fun n => ?_⟩
  have at_n : (List.range 16)[n.val]? = some n.val := List.getElem?_range n.isLt
  obtain ⟨c, found, ok⟩ := exists_getElem?_of_forall₂ all at_n
  exact ⟨c, found, ok n rfl⟩

/-- What the script's tables tell of the states in their order. -/
structure TablesOk (T : Table) (A : Automaton) : Prop where
  cell : ∀ i st, A.order[i]? = some st → ∀ n : Nibble,
    ∃ c, A.cells[i * 16 + n.val]? = some c ∧ CellOk T A.order st n c
  keys : A.keys = A.order.map packKey
  accept : A.accept = A.order.map acceptFlag

theorem tables_ok (long : ∀ s, 4 ≤ lenOf T s) (enum : Enumerates T order)
    (few : order.length ≤ 256) (narrow : ∀ st ∈ order, st.2 < 32) :
    ∃ A, tables T order = .ok A ∧ A.order = order ∧ TablesOk T A := by
  have made : ∃ rows, order.mapM (row T order.length (enumDict id order)) = .ok rows ∧
      List.Forall₂ (RowOk T order) order rows :=
    exists_mapM fun st here => row_ok valid long enum few here
  obtain ⟨rows, made, all⟩ := made
  have widths : ∀ r ∈ rows, r.length = 16 := by
    intro r inside
    obtain ⟨st, -, ok⟩ := exists_of_mem_right all inside
    exact ok.width
  have cells : ∀ i st, order[i]? = some st → ∀ n : Nibble,
      ∃ c, rows.flatten[i * 16 + n.val]? = some c ∧ CellOk T order st n c := by
    intro i st here n
    obtain ⟨r, there, ok⟩ := exists_getElem?_of_forall₂ all here
    obtain ⟨c, found, ok⟩ := ok.cell n
    exact ⟨c, (getElem?_rows widths there n.isLt).trans found, ok⟩
  have count : rows.flatten.length = order.length * 16 := by
    rw [List.length_flatten, List.map_congr_left widths, all.length_eq]
    simp
  have small : ∀ c ∈ rows.flatten, c < 2 ^ 32 := by
    intro c inside
    obtain ⟨r, member, inside⟩ := List.mem_flatten.mp inside
    obtain ⟨st, -, ok⟩ := exists_of_mem_right all member
    exact ok.small inside
  cases max : (order.map Prod.snd).max? with
  | none =>
      have empty := List.max?_eq_none_iff.mp max
      have first := enum.first.length_le
      rw [List.map_eq_nil_iff.mp empty] at first
      simp at first
  | some maxnb =>
      obtain ⟨member, -⟩ := List.max?_eq_some_iff.mp max
      obtain ⟨st, inside, rfl⟩ := List.mem_map.mp member
      refine ⟨⟨order, order.map packKey, rows.flatten, order.map acceptFlag⟩, ?_, rfl, cells, rfl,
        rfl⟩
      simp only [tables, max, if_pos (narrow st inside), made, bind, Except.bind]
      exact if_pos ⟨count, small⟩

end Valid

end Cells

/-- Following cells is running the automaton. -/
theorem TablesOk.run {T : Table} {A : Automaton} (ok : TablesOk T A) (ns : List Nibble) :
    ∀ {i : Nat} {st : State}, A.order[i]? = some st →
      ∃ j, A.run i ns = some (j, (dfaRun T (toDState (some st)) ns).2) ∧
        IdOf A.order (dfaRun T (toDState (some st)) ns).1 j := by
  induction ns with
  | nil =>
      intro i st here
      exact ⟨i, rfl, here⟩
  | cons n ns ih =>
      intro i st here
      obtain ⟨c, found, cellOk⟩ := ok.cell i st here n
      have next := cellOk.next
      simp only [Automaton.run, found, dfaRun, ← cellOk.emitted, bind, Option.bind]
      by_cases failed : c / 65536 = A.order.length
      · have stopped := next.fail_iff.mp failed
        refine ⟨c / 65536, ?_, ?_⟩
        · simp [failed, stopped, dfaRun_bits]
        · rw [stopped, dfaRun_bits, bitsStep_fail]
          exact failed
      · cases state : (HpackHuffman.step T (toDState (some st)) n).1 with
        | fail => exact absurd (next.fail_iff.mpr state) failed
        | live acc nbits =>
            rw [state] at next
            obtain ⟨j, run, id_⟩ := ih next
            refine ⟨j, ?_, id_⟩
            simp only [if_neg failed, run]
            rfl

theorem acceptFlag_eq (acc nbits : Nat) :
    acceptFlag (acc, nbits) = if isAccepting (.live acc nbits) then 1 else 0 := by
  simp [acceptFlag, isAccepting, validPaddingV, Nat.one_shiftLeft]

/-- The same from the first id: where the run ends, the flag is the padding rule. -/
theorem TablesOk.run_start {T : Table} {A : Automaton} (ok : TablesOk T A)
    (first : [start] <+: A.order) (ns : List Nibble) :
    ∃ j, A.run 0 ns = some (j, (dfaRun T dfaInit ns).2) ∧
      match (dfaRun T dfaInit ns).1 with
      | .fail => j = A.order.length
      | .live acc nbits => A.order[j]? = some (acc, nbits) ∧
          A.accept[j]? = some (if isAccepting (.live acc nbits) then 1 else 0) := by
  have here : A.order[0]? = some start := by
    obtain ⟨rest, split⟩ := first
    rw [← split]
    rfl
  obtain ⟨j, run, id_⟩ := ok.run ns here
  refine ⟨j, run, ?_⟩
  change IdOf A.order (dfaRun T dfaInit ns).1 j at id_
  cases state : (dfaRun T dfaInit ns).1 with
  | fail =>
      rw [state] at id_
      exact id_
  | live acc nbits =>
      rw [state] at id_
      refine ⟨id_, ?_⟩
      rw [ok.accept, List.getElem?_map, id_, ← acceptFlag_eq]
      rfl

theorem packKey_unpack {st : State} (narrow : st.2 < 32) :
    packKey st / 32 = st.1 ∧ packKey st % 32 = st.2 := by
  simp only [packKey]
  omega

/-- What the script promises of its tables. -/
structure Automaton.Correct (T : Table) (A : Automaton) : Prop where
  distinct : A.order.Nodup
  /-- The states are those reached from the start by nibble strings. -/
  reached : ∀ acc nbits, (acc, nbits) ∈ A.order ↔
    ∃ ns, (dfaRun T dfaInit ns).1 = .live acc nbits
  few : A.order.length ≤ 256
  /-- Every transition leads to a state with an id. -/
  ids : ∀ st ∈ A.order, ∀ (n : Nibble) st', (step T (some st) n.val).1 = some st' →
    ∃ j, enumDict id A.order st' = some j ∧ A.order[j]? = some st'
  /-- No nibble emits two bytes. -/
  single : ∀ (s : Option State) (n : Nibble), (step T s n.val).2.length ≤ 1
  keys : ∀ (j : Nat) (st : State), A.order[j]? = some st →
    ∃ k : Nat, A.keys[j]? = some k ∧ k / 32 = st.1 ∧ k % 32 = st.2
  /-- The cells, followed from the first id, emit what the automaton emits and end at the id
      of its state, whose flag is the padding rule. -/
  run : ∀ ns, ∃ j, A.run 0 ns = some (j, (dfaRun T dfaInit ns).2) ∧
    match (dfaRun T dfaInit ns).1 with
    | .fail => j = A.order.length
    | .live acc nbits => A.order[j]? = some (acc, nbits) ∧
        A.accept[j]? = some (if isAccepting (.live acc nbits) then 1 else 0)

/-- On every complete prefix code of 257 entries, with codes of 4 to 30 bits, the script ends and
    its tables are those of the automaton. Its bit step is the automaton's. -/
theorem generate_correct {T : Table} (valid : T.Valid)
    (lengths : ∀ s, 4 ≤ lenOf T s ∧ lenOf T s ≤ 30)
    (complete : ∀ bs : List Bool, bs.length = 30 → ∃ s, codeBitsOf T s <+: bs) :
    (∀ s (b : Bool), toDState (bitStep T s b.toNat).1 = (HpackHuffman.bitStep T (toDState s) b).1 ∧
      (bitStep T s b.toNat).2 = (HpackHuffman.bitStep T (toDState s) b).2.map UInt8.toNat) ∧
    ∃ A : Automaton, (∀ fuel > 256, generate T fuel = .ok A) ∧ A.Correct T := by
  refine ⟨bitStep_eq valid.prefixFree, ?_⟩
  have full : valid.code.Complete 30 := complete
  have long : ∀ s, 4 ≤ lenOf T s := fun s => (lengths s).1
  obtain ⟨order, found, enum⟩ := search_enumerates valid full (Nat.lt_succ_self 256)
  have few := length_le_of_reachable valid full order enum.distinct fun st inside =>
    (enum.reached st).mp inside
  have narrow : ∀ st ∈ order, st.2 < 32 := by
    intro st inside
    obtain ⟨r, stuck, rfl⟩ := stuck_of_reachable valid ((enum.reached st).mp inside)
    exact Nat.lt_trans (full.length_lt stuck) (by decide)
  obtain ⟨A, made, rfl, ok⟩ := tables_ok valid long enum few narrow
  refine ⟨A, ?_, enum.distinct, ?_, few, ?_, ?_, ?_, ?_⟩
  · intro fuel enough
    simp only [generate, search, Worklist.search_mono found enough, made]
  · intro acc nbits
    exact (enum.reached _).trans (reachable_iff valid.prefixFree start (acc, nbits))
  · intro st here n st' next
    exact exists_id enum here next
  · intro s n
    rw [(step_eq valid.prefixFree s n).2, List.length_map]
    exact length_emitted_le_one long _ (Nat.le_refl 4)
  · intro j st here
    refine ⟨packKey st, ?_, packKey_unpack (narrow st (List.mem_of_getElem? here))⟩
    rw [ok.keys, List.getElem?_map, here]
    rfl
  · intro ns
    exact ok.run_start enum.first ns

/-- The code of RFC 7541. -/
theorem generate_correct_hpack :
    (∀ s (b : Bool),
      toDState (bitStep hpack s b.toNat).1 = (HpackHuffman.bitStep hpack (toDState s) b).1 ∧
      (bitStep hpack s b.toNat).2 =
        (HpackHuffman.bitStep hpack (toDState s) b).2.map UInt8.toNat) ∧
    ∃ A : Automaton, (∀ fuel > 256, generate hpack fuel = .ok A) ∧ A.Correct hpack :=
  generate_correct hpack_valid
    (fun s => ⟨Nat.le_of_succ_le (hpack_lengths_in_range s).1, (hpack_lengths_in_range s).2⟩)
    hpack_complete

end HpackHuffman.Generator
