import HpackHuffman.Generator.Emit

/-! # Regenerating the tables

What passes the verification is not yet what the scripts print: the states could be numbered in
another order, and a cell without a symbol could hold one. Two passes over the cells tell the
rest, so that whether a set of tables is the scripts' can be decided without a search.
-/

namespace HpackHuffman.Generator

open Bits
open Lowstar (dfaNStates)
open Source (Generated Pinned TablesOf codecChecks dfaChunkSize dfaNChunks verify)

/-- The cells of all chunks, by flat position. -/
def flatCells (D : Generated) : List UInt32 := ((List.finRange dfaNChunks).map D.chunk).flatten

/-- A cell which does not emit holds no symbol. -/
def canonicalCell (c : UInt32) : Bool :=
  decide (c.toNat / 256 % 256 = 1) || decide (c.toNat % 65536 = 0)

def canonical (D : Generated) : Bool := (flatCells D).all canonicalCell

/-- The ids of the live states, in the order of the cells. -/
def liveIds (D : Generated) : List Nat :=
  ((flatCells D).map cellNext).filter fun j => decide (j < dfaNStates)

def inOrder (D : Generated) : Bool := decide (Worklist.numbered 1 (liveIds D) = some dfaNStates)

/-- The states by id. -/
def states (D : Generated) : List State := D.stateKeys.map fun k => (k / 32, k % 32)

section Lists

variable (D : Generated)

theorem length_states : (states D).length = 256 :=
  (List.length_map _).trans D.length_stateKeys

/-- The state of an id below 256. -/
def stateAt (i : Nat) : State := ((states D)[i]?).getD start

theorem states_get {i : Nat} (live : i < 256) : (states D)[i]? = some (stateAt D i) := by
  rw [stateAt, List.getElem?_eq_getElem (length_states D ▸ live), Option.getD_some]

theorem map_stateAt : (List.range 256).map (stateAt D) = states D := by
  have length := length_states D
  apply List.ext_getElem?
  intro i
  rw [List.getElem?_map]
  cases Nat.lt_or_ge i 256 with
  | inl live => rw [List.getElem?_range live, states_get D live, Option.map_some]
  | inr out =>
      rw [List.getElem?_eq_none (by simpa using out), List.getElem?_eq_none (by omega),
        Option.map_none]

theorem length_flatCells : (flatCells D).length = 256 * 16 := by
  have widths : ∀ n ∈ ((List.finRange dfaNChunks).map D.chunk).map List.length, n = 256 := by
    intro n member
    simp only [List.map_map, List.mem_map, List.mem_finRange, true_and] at member
    obtain ⟨k, rfl⟩ := member
    exact D.length_chunk k
  rw [flatCells, List.length_flatten, List.eq_replicate_of_mem widths, List.sum_replicate]
  simp [dfaNChunks]

theorem flatCells_get (k : Fin dfaNChunks) {off : Nat} (inside : off < 256) :
    (flatCells D)[k.val * 256 + off]? = (D.chunk k)[off]? := by
  refine @getElem?_rows _ _ _ 256 _ _ ?_ ?_ inside
  · intro row member
    obtain ⟨k, -, rfl⟩ := List.mem_map.mp member
    exact D.length_chunk k
  · simp

theorem stateOf_eq (i : Nat) : D.stateOf i = toDState (states D)[i]? := by
  rw [states, List.getElem?_map, Generated.stateOf]
  cases D.stateKeys[i]? <;> rfl

end Lists

section Cells

variable {T : Table} {D : Generated} (tables : TablesOf T D)

include tables

/-- The cell of a state and a nibble leads to the state one nibble further on. -/
theorem flatCells_step {i : Nat} (live : i < 256) (n : Nibble) :
    ∃ c, (flatCells D)[i * 16 + n.val]? = some c ∧ cellNext c ≤ 256 ∧
      toDState (states D)[cellNext c]? =
        (HpackHuffman.step T (toDState (states D)[i]?) n).1 ∧
      cellEmit c = (HpackHuffman.step T (toDState (states D)[i]?) n).2 := by
  have few := n.isLt
  have chunk : (i * 16 + n.val) / 256 < dfaNChunks := by
    simp only [dfaNChunks]
    omega
  have off : (i * 16 + n.val) % 256 < 256 := Nat.mod_lt _ (by decide)
  have there : (i * 16 + n.val) % 256 < (D.chunk ⟨_, chunk⟩).length := by rwa [D.length_chunk]
  have flat := flatCells_get D ⟨_, chunk⟩ off
  rw [Nat.div_add_mod', List.getElem?_eq_getElem there] at flat
  have cell := tables.cell ⟨_, chunk⟩ _ _ (List.getElem?_eq_getElem there) i n
    (Nat.div_add_mod _ 256).symm
  rw [stateOf_eq, stateOf_eq] at cell
  exact ⟨_, flat, cell⟩

variable (free : prefixFree T.entries = true)

include free

/-- The row of a state holds its successors. -/
theorem successors_eq {i : Nat} {st : State} (here : (states D)[i]? = some st) :
    successors T st = (((flatCells D).drop (i * 16)).take 16).filterMap fun c =>
      (states D)[cellNext c]? := by
  have live : i < 256 := length_states D ▸ (List.getElem?_eq_some_iff.mp here).1
  have row : ((flatCells D).drop (i * 16)).take 16 =
      (List.range 16).map fun n => ((flatCells D)[i * 16 + n]?).getD 0 := by
    have length := length_flatCells D
    apply List.ext_getElem
    · rw [List.length_take, List.length_drop, List.length_map, List.length_range]
      omega
    · intro n inside inside'
      rw [List.length_map, List.length_range] at inside'
      rw [List.getElem_take, List.getElem_drop, List.getElem_map, List.getElem_range,
        List.getElem?_eq_getElem (by omega), Option.getD_some]
  rw [successors, row, List.filterMap_map]
  apply List.filterMap_congr
  intro nib few
  obtain ⟨c, cell, -, next, -⟩ := flatCells_step tables live ⟨nib, List.mem_range.mp few⟩
  rw [here, ← (step_eq free (some st) ⟨nib, List.mem_range.mp few⟩).1] at next
  simp only [Function.comp_apply, cell, Option.getD_some]
  exact (toDState_injective next).symm

/-- What is met among the successors of all states, in order. -/
theorem flatMap_successors : (states D).flatMap (successors T) =
    (flatCells D).filterMap fun c => (states D)[cellNext c]? := by
  conv_lhs => rw [← map_stateAt D]
  conv_rhs => rw [eq_flatMap_rows (length_flatCells D)]
  rw [List.flatMap_map, List.filterMap_flatMap]
  apply List.flatMap_congr
  intro i inside
  exact successors_eq tables free (states_get D (List.mem_range.mp inside))

/-- The states hold all that is reached from the start. -/
theorem reached_mem {st : State} (path : Worklist.Reachable (successors T) start st) :
    st ∈ states D := by
  have closed : Worklist.Closed (successors T) (states D) (states D) := by
    intro st' member next edge
    have met : next ∈ (states D).flatMap (successors T) := List.mem_flatMap.mpr ⟨st', member, edge⟩
    rw [flatMap_successors tables free] at met
    obtain ⟨c, -, here⟩ := List.mem_filterMap.mp met
    exact List.mem_of_getElem? here
  have first : start ∈ states D := by
    have zero := tables.start
    rw [stateOf_eq] at zero
    exact List.mem_of_getElem? (toDState_injective (zero : _ = toDState (some start)))
  exact closed.complete first path

/-- Where 256 states are reached, those of the tables are they, each once. -/
theorem states_perm {order : List State} (enum : Enumerates T order) (count : order.length = 256) :
    (states D).Perm order := by
  have found : order ⊆ states D := fun st inside =>
    reached_mem tables free ((enum.reached st).mp inside)
  refine ((enum.distinct.subperm found).perm_of_length_le ?_).symm
  rw [length_states, count]

end Cells

section Order

variable {T : Table} {D : Generated} (tables : TablesOf T D)

include tables

/-- The ids stand in the order in which a search discovers their states. -/
theorem inOrder_iff (free : prefixFree T.entries = true) (distinct : (states D).Nodup) :
    inOrder D = true ↔ Worklist.Discovered (successors T) start (states D) := by
  have zero : start = stateAt D 0 := by
    have here := tables.start
    rw [stateOf_eq, states_get D (by decide)] at here
    exact Option.some.inj (toDState_injective (here : _ = toDState (some start))).symm
  have injective : ∀ i j : Nat, i < 256 → j < 256 → stateAt D i = stateAt D j → i = j := by
    intro i j live live' same
    apply (List.getElem?_inj (length_states D ▸ live) distinct).mp
    rw [states_get D live, states_get D live', same]
  have small : ∀ j ∈ liveIds D, j < 256 := by
    intro j member
    exact of_decide_eq_true (List.mem_filter.mp member).2
  have met : (flatCells D).filterMap (fun c => (states D)[cellNext c]?) =
      (liveIds D).map (stateAt D) := by
    rw [liveIds, ← List.filterMap_eq_map, List.filterMap_filter, List.filterMap_map]
    apply List.filterMap_congr
    intro c _
    by_cases live : cellNext c < 256
    · simp [states_get D live, live, dfaNStates]
    · simp [length_states D, live, dfaNStates]
  have fold := @Worklist.foldl_insertNew_map _ _ _ _ _ _ injective _ [0] (by simp) small
  rw [inOrder, decide_eq_true_eq, Worklist.numbered_iff, Worklist.Discovered,
    flatMap_successors tables free, met, zero, ← map_stateAt D]
  rw [List.map_singleton] at fold
  rw [fold]
  constructor
  · exact congrArg _
  · intro same
    have range : ∀ j ∈ (liveIds D).foldl Worklist.insertNew [0], j < 256 := by
      intro j member
      cases Worklist.mem_foldl_insertNew.mp member with
      | inl first => exact List.mem_singleton.mp first ▸ by decide
      | inr later => exact small j later
    exact Worklist.map_inj_of injective range (fun j => List.mem_range.mp) same

end Order

/-- A cell which holds no more than it has to is told by where it leads and what it emits. -/
theorem eq_of_canonicalCell {c c' : UInt32} (can : canonicalCell c = true)
    (can' : canonicalCell c' = true) (next : cellNext c = cellNext c')
    (emit : cellEmit c = cellEmit c') : c = c' := by
  apply UInt32.toNat_inj.mp
  simp only [canonicalCell, Bool.or_eq_true, decide_eq_true_eq] at can can'
  simp only [cellNext] at next
  simp only [cellEmit] at emit
  by_cases flag : c.toNat / 256 % 256 = 1
  · by_cases flag' : c'.toNat / 256 % 256 = 1
    · rw [if_pos flag, if_pos flag'] at emit
      have sym := congrArg UInt8.toNat (List.cons.inj emit).1
      simp only [UInt8.toNat_ofNat', Nat.reducePow, Nat.mod_mod] at sym
      omega
    · rw [if_pos flag, if_neg flag'] at emit
      cases emit
  · by_cases flag' : c'.toNat / 256 % 256 = 1
    · rw [if_neg flag, if_pos flag'] at emit
      cases emit
    · omega

theorem canonical_iff {D : Generated} :
    canonical D = true ↔ ∀ k, ∀ c ∈ D.chunk k, canonicalCell c = true := by
  simp only [canonical, flatCells, List.all_eq_true, List.mem_flatten, List.mem_map,
    List.mem_finRange, true_and]
  constructor
  · intro all k c inside
    exact all c ⟨_, ⟨k, rfl⟩, inside⟩
  · rintro all c ⟨_, ⟨k, rfl⟩, inside⟩
    exact all k c inside

/-- Lists of 256 which agree at every byte. -/
theorem eq_of_bytes {α : Type u} {xs ys : List α} (lx : xs.length = 256) (ly : ys.length = 256)
    (same : ∀ b : Byte, xs[b.toNat]? = ys[b.toNat]?) : xs = ys := by
  apply List.ext_getElem?
  intro i
  cases Nat.lt_or_ge i 256 with
  | inl lt =>
      have here := same (UInt8.ofNat i)
      rwa [UInt8.toNat_ofNat', Nat.mod_eq_of_lt lt] at here
  | inr out => rw [List.getElem?_eq_none (by omega), List.getElem?_eq_none (by omega)]

section Same

variable {T : Table} {D D' : Generated}

/-- An id up to the fail id is told by its state. -/
theorem stateOf_injective (distinct : (states D).Nodup) {i j : Nat} (le : i ≤ 256) (le' : j ≤ 256)
    (same : D.stateOf i = D.stateOf j) : i = j := by
  have length := length_states D
  rw [stateOf_eq, stateOf_eq] at same
  have there := toDState_injective same
  cases Nat.eq_or_lt_of_le le with
  | inl last =>
      rw [last, List.getElem?_eq_none (by omega)] at there
      have out := List.getElem?_eq_none_iff.mp there.symm
      omega
  | inr live => exact (List.getElem?_inj (length ▸ live) distinct).mp there

variable (tables : TablesOf T D) (tables' : TablesOf T D')

include tables tables'

theorem huffCode_eq : D.huffCode = D'.huffCode := by
  apply eq_of_bytes D.length_huffCode D'.length_huffCode
  intro b
  obtain ⟨c, here, value⟩ := tables.code b
  obtain ⟨c', here', value'⟩ := tables'.code b
  rw [here, here', UInt32.toNat_inj.mp (value.trans value'.symm)]

theorem huffLen_eq : D.huffLen = D'.huffLen := by
  apply eq_of_bytes D.length_huffLen D'.length_huffLen
  intro b
  obtain ⟨l, here, value⟩ := tables.len b
  obtain ⟨l', here', value'⟩ := tables'.len b
  rw [here, here', UInt8.toNat_inj.mp (value.trans value'.symm)]

theorem accept_eq (stateOf : D.stateOf = D'.stateOf) : D.accept = D'.accept := by
  apply eq_of_bytes D.length_accept D'.length_accept
  intro b
  rw [tables.accept _ b.toNat_lt, tables'.accept _ b.toNat_lt, stateOf]

theorem chunk_eq (can : canonical D = true) (can' : canonical D' = true)
    (stateOf : D.stateOf = D'.stateOf) (distinct : (states D).Nodup) : D.chunk = D'.chunk := by
  funext k
  apply List.ext_getElem (by rw [D.length_chunk, D'.length_chunk])
  intro off inside inside'
  have nibble : (dfaChunkSize * k.val + off) % 16 < 16 := Nat.mod_lt _ (by decide)
  obtain ⟨le, next, emit⟩ := tables.cell k off _ (List.getElem?_eq_getElem inside) _
    ⟨_, nibble⟩ (Nat.div_add_mod' _ 16)
  obtain ⟨le', next', emit'⟩ := tables'.cell k off _ (List.getElem?_eq_getElem inside') _
    ⟨_, nibble⟩ (Nat.div_add_mod' _ 16)
  rw [← stateOf] at next' emit'
  apply eq_of_canonicalCell
  · exact canonical_iff.mp can k _ (List.getElem_mem inside)
  · exact canonical_iff.mp can' k _ (List.getElem_mem inside')
  · exact stateOf_injective distinct le le' (next.trans next'.symm)
  · exact emit.trans emit'.symm

/-- Tables of one code with the same states in the same order are equal, cells and all. -/
theorem eq_of_states (can : canonical D = true) (can' : canonical D' = true)
    (same : states D = states D') (distinct : (states D).Nodup) : D = D' := by
  have keys : D.stateKeys = D'.stateKeys := by
    refine (List.map_inj_right ?_).mp same
    intro k k' pair
    obtain ⟨high, low⟩ := Prod.mk.inj pair
    omega
  have stateOf : D.stateOf = D'.stateOf := by
    funext i
    rw [stateOf_eq, stateOf_eq, same]
  have codes := huffCode_eq tables tables'
  have lens := huffLen_eq tables tables'
  have accept := accept_eq tables tables' stateOf
  have chunk := chunk_eq tables tables' can can' stateOf distinct
  cases D
  cases D'
  simp only at codes lens keys chunk accept
  subst codes lens keys chunk accept
  rfl

end Same

/-- A cell of the script holds no symbol unless it emits one. -/
theorem canonical_cell {T : Table} (free : prefixFree T.entries = true) {n : Nat}
    {sid : State → Option Nat} {st : State} {nib : Nat} (few : nib < 16) {c : Nat}
    (made : cell T n sid st nib = .ok c) : c / 256 % 256 = 1 ∨ c % 65536 = 0 := by
  have emitted := (step_eq free (some st) ⟨nib, few⟩).2
  simp only [cell] at made
  split at made
  case isFalse => cases made
  case isTrue one =>
    cases next : nextId n sid (step T (some st) nib).1 with
    | error why => simp [next, bind, Except.bind] at made
    | ok nid =>
        simp only [next, bind, Except.bind, pure, Except.pure, Except.ok.injEq] at made
        cases out : (step T (some st) nib).2 with
        | nil =>
            simp only [out, flagSym] at made
            omega
        | cons sym rest =>
            have byte : sym < 256 := by
              obtain ⟨b, -, rfl⟩ := List.mem_map.mp
                (emitted ▸ out ▸ List.mem_cons_self :
                  sym ∈ (HpackHuffman.step T (toDState (some st)) ⟨nib, few⟩).2.map UInt8.toNat)
              exact b.toNat_lt
            simp only [out, flagSym] at made
            omega

/-- So do those of all the tables. -/
theorem canonical_tables {T : Table} (free : prefixFree T.entries = true) {order : List State}
    {A : Automaton} (made : tables T order = .ok A) {c : Nat} (inside : c ∈ A.cells) :
    c / 256 % 256 = 1 ∨ c % 65536 = 0 := by
  unfold tables at made
  cases max : (order.map Prod.snd).max? with
  | none => simp [max] at made
  | some maxnb =>
      simp only [max] at made
      split at made
      case isFalse => cases made
      case isTrue =>
        cases cut : order.mapM (row T order.length (enumDict id order)) with
        | error why => simp [cut, bind, Except.bind] at made
        | ok rows =>
            simp only [cut, bind, Except.bind, pure, Except.pure] at made
            split at made
            case isFalse => cases made
            case isTrue =>
              obtain rfl := Except.ok.inj made
              obtain ⟨cells, member, here⟩ := List.mem_flatten.mp inside
              obtain ⟨st, -, row_⟩ := exists_of_mem_mapM cut member
              obtain ⟨nib, few, cell_⟩ := exists_of_mem_mapM row_ here
              exact canonical_cell free (List.mem_range.mp few) cell_

section Typed

variable {T : Table} {A : Automaton} (ok : (printed T A).WellTyped)

theorem states_typed (keys : A.keys = A.order.map packKey)
    (narrow : ∀ st ∈ A.order, st.2 < 32) : states ((printed T A).typed ok) = A.order := by
  change A.keys.map (fun k => (k / 32, k % 32)) = A.order
  rw [keys, List.map_map]
  conv_rhs => rw [← List.map_id A.order]
  apply List.map_congr_left
  intro st inside
  obtain ⟨high, low⟩ := packKey_unpack (narrow st inside)
  exact Prod.ext high low

theorem canonical_typed (small : ∀ c ∈ A.cells, c < 2 ^ 32)
    (can : ∀ c ∈ A.cells, c / 256 % 256 = 1 ∨ c % 65536 = 0) :
    canonical ((printed T A).typed ok) = true := by
  apply canonical_iff.mpr
  intro k c inside
  obtain ⟨off, there⟩ := List.mem_iff_getElem?.mp inside
  have cell := can _ (List.mem_of_getElem? (chunk_get ok there small))
  simpa [canonicalCell] using cell

end Typed

/-- Tables of the code which pass both passes are those of a run of the scripts. -/
theorem eq_of_generate {T : Table} (rfc : RfcCode T) {fuel : Nat} {A : Automaton}
    (run : generate T fuel = .ok A) (ok : (printed T A).WellTyped) (D : Generated) :
    D = (printed T A).typed ok ↔ TablesOf T D ∧ canonical D = true ∧ inOrder D = true := by
  have free := rfc.valid.prefixFree
  have count := length_order ok
  obtain ⟨enum, made⟩ := generate_inv run
  obtain ⟨-, narrow, -, small, keys, -⟩ := tables_inv made
  have tables_ := tablesOf_typed ok rfc run
  have can := canonical_typed ok small fun c => canonical_tables free made
  have same := states_typed ok keys narrow
  have discovered : Worklist.Discovered (successors T) start A.order := by
    unfold generate at run
    cases found : search T fuel with
    | none => simp [found] at run
    | some order =>
        simp only [found] at run
        obtain rfl := (tables_inv run).1
        exact Worklist.search_discovered found
  constructor
  · rintro rfl
    refine ⟨tables_, can, (inOrder_iff tables_ free ?_).mpr ?_⟩
    · exact same ▸ enum.distinct
    · exact same.symm ▸ discovered
  · rintro ⟨tables', can', order'⟩
    have perm := states_perm tables' free enum count
    have distinct := perm.nodup_iff.mpr enum.distinct
    have disc' := (inOrder_iff tables' free distinct).mp order'
    have order : states D = A.order := disc'.unique discovered
      (fun st inside => (enum.reached st).mp (perm.mem_iff.mp inside))
      (fun st inside => (enum.reached st).mp inside)
    exact eq_of_states tables' tables_ can' can (order.trans same.symm) distinct

/-- Tables which pass the checks are those of a code which leaves no string without a codeword:
    no state of theirs holds more than thirty-one bits. -/
theorem complete_of_tables {T : Table} {D : Generated} (rfc : RfcCode T) (tables : TablesOf T D)
    {bs : List Bool} (length : bs.length = 30) : ∃ s, codeBitsOf T s <+: bs := by
  apply complete_of_narrow rfc _ length
  intro st path
  have member := reached_mem tables rfc.valid.prefixFree path
  obtain ⟨key, -, rfl⟩ := List.mem_map.mp member
  exact Nat.mod_lt key (by decide)

theorem codecTables_eq_iff_tablesOf {T : Table} (rfc : RfcCode T) {fuel : Nat}
    (enough : 256 < fuel) (D : Generated) :
    codecTables T.entries fuel = some D ↔
      TablesOf T D ∧ canonical D = true ∧ inOrder D = true := by
  constructor
  · intro made
    obtain ⟨A, ok, run, same⟩ := codecTables_inv made
    exact (eq_of_generate rfc run ok D).mp same
  · rintro ⟨tables, passes⟩
    obtain ⟨A, runs, count⟩ := exists_generate rfc fun bs => complete_of_tables rfc tables
    obtain ⟨ok, made⟩ := codecTables_of_length rfc (runs fuel enough) count
    rw [made, (eq_of_generate rfc (runs fuel enough) ok D).mpr ⟨tables, passes⟩]

theorem canonical_committed : canonical Source.committed = true := by decide +kernel

theorem inOrder_committed : inOrder Source.committed = true := by decide +kernel

/-- The tables of the repository are what the scripts print. -/
theorem codecTables_committed {fuel : Nat} (enough : 256 < fuel) :
    codecTables hpack.entries fuel = some Source.committed :=
  (codecTables_eq_iff_tablesOf rfcCode_hpack enough Source.committed).mpr
    ⟨Source.tablesOf_committed, canonical_committed, inOrder_committed⟩

/-- Whatever the scripts print, once it is well typed it passes every check but that of the
    pinned entries, which is about the code table alone. -/
theorem verify_codecTables {T : Table} (rfc : RfcCode T) {fuel : Nat} {D : Generated}
    (made : codecTables T.entries fuel = some D) :
    codecChecks T D = true ∧ (verify T D = true ↔ Pinned T) := by
  obtain ⟨A, ok, run, rfl⟩ := codecTables_inv made
  have tables := tablesOf_typed ok rfc run
  refine ⟨Source.codecChecks_iff.mpr ⟨rfc, tables⟩, ?_⟩
  rw [Source.verify_iff]
  exact ⟨fun verified => verified.2.1, fun pinned => ⟨rfc, pinned, tables⟩⟩

theorem verify_codecTables_hpack :
    codecChecks hpack Source.committed = true ∧
      (verify hpack Source.committed = true ↔ Pinned hpack) :=
  verify_codecTables rfcCode_hpack (codecTables_committed (Nat.lt_succ_self 256))

/-- On every code of the RFC's shape the scripts print `D` if and only if `D` passes the codec's
    checks, holds nothing beyond what it has to and numbers its states as they are met. Where the
    code has the pinned entries, that is: passes the verification. -/
theorem codecTables_eq_iff {T : Table} (rfc : RfcCode T) {fuel : Nat} (enough : 256 < fuel)
    (D : Generated) :
    (codecTables T.entries fuel = some D ↔
      codecChecks T D = true ∧ canonical D = true ∧ inOrder D = true) ∧
    (codecTables T.entries fuel = some D ∧ Pinned T ↔
      verify T D = true ∧ canonical D = true ∧ inOrder D = true) := by
  have exact_ := codecTables_eq_iff_tablesOf rfc enough D
  constructor
  · rw [exact_, Source.codecChecks_iff, and_iff_right rfc]
  · rw [exact_, Source.verify_iff, and_iff_right rfc, and_comm, and_assoc]

theorem codecTables_eq_iff_committed :
    (codecTables hpack.entries 257 = some Source.committed ↔
      codecChecks hpack Source.committed = true ∧ canonical Source.committed = true ∧
        inOrder Source.committed = true) ∧
    (codecTables hpack.entries 257 = some Source.committed ∧ Pinned hpack ↔
      verify hpack Source.committed = true ∧ canonical Source.committed = true ∧
        inOrder Source.committed = true) :=
  codecTables_eq_iff rfcCode_hpack (Nat.lt_succ_self 256) Source.committed

end HpackHuffman.Generator
