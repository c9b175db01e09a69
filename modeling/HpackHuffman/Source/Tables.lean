import HpackHuffman.Refine.DfaTable
import HpackHuffman.Refine.Encode
import HpackHuffman.Refine.Lookup
import HpackHuffman.Source.Code

/-! # The generated tables and their checks

The codec is written against tables which scripts generate, and the scripts are not trusted:
the verification evaluates a check for every table and fails on the first wrong entry. What
passes is exactly the code, the automaton and the padding rule of a code table.
-/

namespace HpackHuffman.Source

open Lowstar (dfaNStates)

/-- Cells in a chunk of the transition table. -/
def dfaChunkSize : Nat := 256

abbrev dfaNChunks : Nat := 16

/-- What the scripts generate, at the types it is declared with. -/
structure Generated where
  huffCode : List UInt32
  huffLen : List UInt8
  stateKeys : List Nat
  chunk : Fin dfaNChunks → List UInt32
  accept : List UInt8
  length_huffCode : huffCode.length = 256
  length_huffLen : huffLen.length = 256
  huffLen_range : ∀ l ∈ huffLen, 5 ≤ l.toNat ∧ l.toNat ≤ 30
  length_stateKeys : stateKeys.length = dfaNStates
  length_chunk : ∀ k, (chunk k).length = dfaChunkSize
  length_accept : accept.length = dfaNStates

/-- The state at id `i`; ids from `dfaNStates` on are the fail state. -/
def Generated.stateOf (D : Generated) (i : Nat) : DState :=
  match D.stateKeys[i]? with
  | some k => .live (k / 32) (k % 32)
  | none => .fail

/-- The encoder's lists hold the codes and the lengths of the entries they run along. -/
def encWf : List UInt32 → List UInt8 → List Entry → Bool
  | c :: ct, l :: lt, e :: et =>
      (decide (c.toNat = e.code) && decide (l.toNat = e.len)) && encWf ct lt et
  | [], [], _ => true
  | _, _, _ => false

/-- A single pass, threading the offset. -/
def checkFrom (ok : Nat → α → Bool) : Nat → List α → Bool
  | _, [] => true
  | off, x :: rest => ok off x && checkFrom ok (off + 1) rest

/-- The cell at an offset of a chunk is the step of the automaton at its flat position. -/
def chunkCellOk (T : Table) (D : Generated) (k off : Nat) (c : UInt32) : Bool :=
  let p := dfaChunkSize * k + off
  let nn : Nibble := ⟨p % 16, Nat.mod_lt p (by decide)⟩
  let r := stepFast T (D.stateOf (p / 16)) nn
  decide (cellNext c ≤ dfaNStates) && decide (D.stateOf (cellNext c) = r.1) &&
    decide (cellEmit c = r.2)

def checkChunk (T : Table) (D : Generated) (k : Nat) : Nat → List UInt32 → Bool :=
  checkFrom (chunkCellOk T D k)

def checkAll (T : Table) (D : Generated) (k : Nat) : Bool :=
  if h : k < dfaNChunks then checkChunk T D k 0 (D.chunk ⟨k, h⟩) && checkAll T D (k + 1) else true
termination_by dfaNChunks - k

def acceptOkAt (D : Generated) (i : Nat) (av : UInt8) : Bool :=
  decide (av.toNat = if isAccepting (D.stateOf i) then 1 else 0)

def checkAcc (D : Generated) : Nat → List UInt8 → Bool := checkFrom (acceptOkAt D)

/-- The checks of the generated tables. -/
def checkGenerated (T : Table) (D : Generated) : Bool :=
  encWf D.huffCode D.huffLen T.entries && checkAll T D 0 && checkAcc D 0 D.accept &&
    decide (D.stateOf 0 = .live 0 0)

/-- Every check the verification of the codec evaluates. -/
def verify (T : Table) (D : Generated) : Bool := checkTable T && checkGenerated T D

/-- Those of them which the proofs of the codec use: all but the pinned entries. -/
def codecChecks (T : Table) (D : Generated) : Bool := checkShape T && checkGenerated T D

/-- The generated tables are those of the code table. -/
structure TablesOf (T : Table) (D : Generated) : Prop where
  code : ∀ b : Byte, ∃ c : UInt32, D.huffCode[b.toNat]? = some c ∧
    c.toNat = codeOf T (Sym.ofByte b)
  len : ∀ b : Byte, ∃ l : UInt8, D.huffLen[b.toNat]? = some l ∧ l.toNat = lenOf T (Sym.ofByte b)
  start : D.stateOf 0 = dfaInit
  cell : ∀ (k : Fin dfaNChunks) (off : Nat) (c : UInt32), (D.chunk k)[off]? = some c →
    ∀ (i : Nat) (n : Nibble), i * 16 + n.val = dfaChunkSize * k.val + off →
      cellNext c ≤ dfaNStates ∧ D.stateOf (cellNext c) = (step T (D.stateOf i) n).1 ∧
        cellEmit c = (step T (D.stateOf i) n).2
  accept : ∀ i < dfaNStates, D.accept[i]? = some (if isAccepting (D.stateOf i) then 1 else 0)

/-- The pass checks every element at its offset. -/
theorem checkFrom_iff {ok : Nat → α → Bool} {off : Nat} {xs : List α} :
    checkFrom ok off xs = true ↔ ∀ (j : Nat) (x : α), xs[j]? = some x → ok (off + j) x = true := by
  induction xs generalizing off with
  | nil => simp [checkFrom]
  | cons x xs ih =>
      simp only [checkFrom, Bool.and_eq_true, ih]
      constructor
      · rintro ⟨first, rest⟩ j y here
        cases j with
        | zero =>
            obtain rfl := Option.some.inj here
            exact first
        | succ j =>
            have later := rest j y here
            rwa [Nat.add_right_comm] at later
      · intro all
        refine ⟨all 0 x rfl, fun j y here => ?_⟩
        have later := all (j + 1) y here
        rwa [Nat.add_right_comm]

theorem checkAll_iff {T : Table} {D : Generated} {k : Nat} :
    checkAll T D k = true ↔
      ∀ l : Fin dfaNChunks, k ≤ l.val → checkChunk T D l.val 0 (D.chunk l) = true := by
  fun_induction checkAll T D k with
  | case1 k inside ih =>
      rw [Bool.and_eq_true, ih]
      constructor
      · rintro ⟨here, later⟩ l le
        cases Nat.eq_or_lt_of_le le with
        | inl same =>
            obtain rfl : ⟨k, inside⟩ = l := Fin.ext same
            exact here
        | inr lt => exact later l lt
      · intro all
        exact ⟨all ⟨k, inside⟩ (Nat.le_refl k), fun l lt => all l (Nat.le_of_succ_le lt)⟩
  | case2 k outside =>
      refine iff_of_true rfl fun l le => ?_
      exact absurd (Nat.lt_of_le_of_lt le l.isLt) outside

theorem encWf_iff {cs : List UInt32} {ls : List UInt8} {es : List Entry}
    (same : cs.length = ls.length) (enough : cs.length ≤ es.length) :
    encWf cs ls es = true ↔ ∀ (i : Nat) (e : Entry), i < cs.length → es[i]? = some e →
      (∃ c : UInt32, cs[i]? = some c ∧ c.toNat = e.code) ∧
        ∃ l : UInt8, ls[i]? = some l ∧ l.toNat = e.len := by
  fun_induction encWf cs ls es with
  | case1 c ct l lt e et ih =>
      have ih := ih (Nat.succ.inj same) (Nat.le_of_succ_le_succ enough)
      simp only [Bool.and_eq_true, decide_eq_true_eq, ih]
      constructor
      · rintro ⟨here, later⟩ i e' inside entry
        cases i with
        | zero =>
            obtain rfl := Option.some.inj entry
            exact ⟨⟨c, rfl, here.1⟩, l, rfl, here.2⟩
        | succ i => exact later i e' (Nat.lt_of_succ_lt_succ inside) entry
      · intro all
        obtain ⟨⟨c', code, first⟩, l', len, second⟩ := all 0 e (Nat.zero_lt_succ _) rfl
        obtain rfl := Option.some.inj code
        obtain rfl := Option.some.inj len
        exact ⟨⟨first, second⟩, fun i e' inside => all (i + 1) e' (Nat.succ_lt_succ inside)⟩
  | case2 es => simp
  | case3 cs ls es more none =>
      exfalso
      cases cs with
      | nil =>
          obtain rfl := List.length_eq_zero_iff.mp same.symm
          exact none rfl rfl
      | cons c ct =>
          cases ls with
          | nil => cases same
          | cons l lt =>
              cases es with
              | nil => cases enough
              | cons e et => exact more c ct l lt e et rfl rfl rfl

section Exact

variable {T : Table} {D : Generated}

theorem encoder_iff : encWf D.huffCode D.huffLen T.entries = true ↔
    ∀ b : Byte, (∃ c : UInt32, D.huffCode[b.toNat]? = some c ∧ c.toNat = codeOf T (Sym.ofByte b)) ∧
      ∃ l : UInt8, D.huffLen[b.toNat]? = some l ∧ l.toNat = lenOf T (Sym.ofByte b) := by
  have same : D.huffCode.length = D.huffLen.length := by
    rw [D.length_huffCode, D.length_huffLen]
  have enough : D.huffCode.length ≤ T.entries.length := by
    rw [D.length_huffCode, T.complete]
    decide
  rw [encWf_iff same enough, D.length_huffCode]
  constructor
  · intro all b
    exact all b.toNat _ b.toNat_lt (entries_get T (Sym.ofByte b))
  · intro all i e inside entry
    have byte : (UInt8.ofNat i).toNat = i := by
      rw [UInt8.toNat_ofNat', Nat.mod_eq_of_lt inside]
    have here := entries_get T (Sym.ofByte (UInt8.ofNat i))
    simp only [Sym.ofByte, byte] at here
    obtain rfl := Option.some.inj (entry.symm.trans here)
    have both := all (UInt8.ofNat i)
    simp only [byte] at both
    simpa only [codeOf, lenOf, Sym.ofByte, byte] using both

theorem chunkCellOk_iff {k off i : Nat} {n : Nibble} {c : UInt32}
    (flat : i * 16 + n.val = dfaChunkSize * k + off) :
    chunkCellOk T D k off c = true ↔
      cellNext c ≤ dfaNStates ∧ D.stateOf (cellNext c) = (step T (D.stateOf i) n).1 ∧
        cellEmit c = (step T (D.stateOf i) n).2 := by
  have few := n.isLt
  have state : (dfaChunkSize * k + off) / 16 = i := by omega
  have nibble : (dfaChunkSize * k + off) % 16 = n.val := by omega
  simp only [chunkCellOk, stepFast_eq, state, nibble, Bool.and_eq_true, decide_eq_true_eq,
    and_assoc]

theorem cells_iff : checkAll T D 0 = true ↔
    ∀ (k : Fin dfaNChunks) (off : Nat) (c : UInt32), (D.chunk k)[off]? = some c →
      ∀ (i : Nat) (n : Nibble), i * 16 + n.val = dfaChunkSize * k.val + off →
        cellNext c ≤ dfaNStates ∧ D.stateOf (cellNext c) = (step T (D.stateOf i) n).1 ∧
          cellEmit c = (step T (D.stateOf i) n).2 := by
  simp only [checkAll_iff, checkChunk, checkFrom_iff, Nat.zero_add, Nat.zero_le, true_imp_iff]
  constructor
  · intro all k off c here i n flat
    exact (chunkCellOk_iff flat).mp (all k off c here)
  · intro all k off c here
    have flat : (dfaChunkSize * k.val + off) / 16 * 16 + (dfaChunkSize * k.val + off) % 16 =
        dfaChunkSize * k.val + off := Nat.div_add_mod' _ 16
    have nibble : (dfaChunkSize * k.val + off) % 16 < 16 := Nat.mod_lt _ (by decide)
    have step := all k off c here _ ⟨_, nibble⟩ flat
    exact (chunkCellOk_iff (n := ⟨_, nibble⟩) flat).mpr step

theorem accept_iff : checkAcc D 0 D.accept = true ↔
    ∀ i < dfaNStates, D.accept[i]? = some (if isAccepting (D.stateOf i) then 1 else 0) := by
  simp only [checkAcc, checkFrom_iff, Nat.zero_add, acceptOkAt, decide_eq_true_eq]
  constructor
  · intro all i inside
    have lt : i < D.accept.length := by rwa [D.length_accept]
    have flag := all i _ (List.getElem?_eq_getElem lt)
    rw [List.getElem?_eq_getElem lt, Option.some.injEq]
    apply UInt8.toNat_inj.mp
    rw [flag]
    cases isAccepting (D.stateOf i) <;> rfl
  · intro all i av here
    have inside : i < dfaNStates := D.length_accept ▸ (List.getElem?_eq_some_iff.mp here).1
    obtain rfl := Option.some.inj ((all i inside).symm.trans here)
    cases isAccepting (D.stateOf i) <;> rfl

end Exact

/-- The checks the codec's proofs use pass exactly the tables of a prefix code of the RFC's
    shape. -/
theorem codecChecks_iff {T : Table} {D : Generated} :
    codecChecks T D = true ↔ RfcCode T ∧ TablesOf T D := by
  simp only [codecChecks, checkGenerated, Bool.and_eq_true, decide_eq_true_eq, checkShape_iff]
  constructor
  · rintro ⟨rfc, ⟨⟨encoder, cells⟩, accept⟩, start⟩
    rw [encoder_iff] at encoder
    exact ⟨rfc, fun b => (encoder b).1, fun b => (encoder b).2, start, cells_iff.mp cells,
      accept_iff.mp accept⟩
  · rintro ⟨rfc, tables⟩
    exact ⟨rfc, ⟨⟨encoder_iff.mpr fun b => ⟨tables.code b, tables.len b⟩,
      cells_iff.mpr tables.cell⟩, accept_iff.mpr tables.accept⟩, tables.start⟩

/-- What the verification checks besides is the pinned entries. -/
theorem verify_eq (T : Table) (D : Generated) :
    verify T D = (codecChecks T D && decide (Pinned T)) := by
  rw [verify, codecChecks, checkTable, Bool.and_right_comm]

/-- The verification passes exactly the tables of a prefix code of the RFC's shape which has the
    pinned entries. -/
theorem verify_iff (T : Table) (D : Generated) :
    verify T D = true ↔ RfcCode T ∧ Pinned T ∧ TablesOf T D := by
  rw [verify_eq, Bool.and_eq_true, codecChecks_iff, decide_eq_true_eq, and_right_comm, and_assoc]

/-- The tables of the repository. -/
def committed : Generated where
  huffCode := Lowstar.huffCode
  huffLen := Lowstar.huffLen
  stateKeys := Lowstar.dfaStateKeys
  chunk k := dfaChunkList k.val
  accept := Lowstar.dfaAccept
  length_huffCode := by decide +kernel
  length_huffLen := by decide +kernel
  huffLen_range := by decide +kernel
  length_stateKeys := by decide +kernel
  length_chunk := by decide +kernel
  length_accept := by decide +kernel

theorem tablesOf_committed : TablesOf hpack committed where
  code := huffCode_correct
  len := huffLen_correct
  start := rfl
  accept _ inside := table_accept_ok inside
  cell k off c here i n flat := by
    have few := n.isLt
    have chunks : k.val < 16 := k.isLt
    have lt : off < dfaChunkSize := committed.length_chunk k ▸ (List.getElem?_eq_some_iff.mp here).1
    simp only [dfaChunkSize] at lt flat
    have state : i / 16 = k.val := by omega
    have offset : i % 16 * 16 + n.val = off := by omega
    have inside : i < dfaNStates := by
      simp only [dfaNStates]
      omega
    obtain ⟨c', found, le, next, emit, -⟩ := chunk_table_ok inside n
    rw [state, offset] at found
    obtain rfl : c' = c := Option.some.inj (found.symm.trans here)
    exact ⟨le, next, emit⟩

theorem codecChecks_committed : codecChecks hpack committed = true :=
  codecChecks_iff.mpr ⟨rfcCode_hpack, tablesOf_committed⟩

/-- The verification of the repository passes. -/
theorem verify_committed : verify hpack committed = true :=
  (verify_iff hpack committed).mpr ⟨rfcCode_hpack, pinned_hpack, tablesOf_committed⟩

end HpackHuffman.Source
