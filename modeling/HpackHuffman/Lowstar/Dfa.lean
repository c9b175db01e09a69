import HpackHuffman.Util.Loop
import HpackHuffman.Spec.Decode
import HpackHuffman.Refine.DfaTable

/-! # The table-driven decoder

The generated C. A `uint32_t` is a `UInt32`, with its wrap-around; a read or a
write outside a buffer is an error of `Exec`.
-/

namespace HpackHuffman.Lowstar

def readChunk (chunk : List UInt32) (cur nib : UInt32) : Exec UInt32 :=
  let p := cur * 16 + nib
  let off := p % 256
  load chunk off.toNat

def readChunk0 := readChunk dfaChunk0
def readChunk1 := readChunk dfaChunk1
def readChunk2 := readChunk dfaChunk2
def readChunk3 := readChunk dfaChunk3
def readChunk4 := readChunk dfaChunk4
def readChunk5 := readChunk dfaChunk5
def readChunk6 := readChunk dfaChunk6
def readChunk7 := readChunk dfaChunk7
def readChunk8 := readChunk dfaChunk8
def readChunk9 := readChunk dfaChunk9
def readChunk10 := readChunk dfaChunk10
def readChunk11 := readChunk dfaChunk11
def readChunk12 := readChunk dfaChunk12
def readChunk13 := readChunk dfaChunk13
def readChunk14 := readChunk dfaChunk14
def readChunk15 := readChunk dfaChunk15

def readCell (cur nib : UInt32) : Exec UInt32 :=
  let k := (cur * 16 + nib) / 256
  match k with
  | 0 => readChunk0 cur nib
  | 1 => readChunk1 cur nib
  | 2 => readChunk2 cur nib
  | 3 => readChunk3 cur nib
  | 4 => readChunk4 cur nib
  | 5 => readChunk5 cur nib
  | 6 => readChunk6 cur nib
  | 7 => readChunk7 cur nib
  | 8 => readChunk8 cur nib
  | 9 => readChunk9 cur nib
  | 10 => readChunk10 cur nib
  | 11 => readChunk11 cur nib
  | 12 => readChunk12 cur nib
  | 13 => readChunk13 cur nib
  | 14 => readChunk14 cur nib
  | _ => readChunk15 cur nib

def acceptAt (cur : UInt32) : Exec Bool := do
  let v ← load dfaAccept cur.toNat
  return v == 1

theorem readCell_eq {cur nib : UInt32} (inside : ((cur * 16 + nib) / 256).toNat < 16) :
    readCell cur nib = readChunk (dfaChunkList ((cur * 16 + nib) / 256).toNat) cur nib := by
  simp only [readCell]
  generalize (cur * 16 + nib) / 256 = k at inside ⊢
  obtain ⟨n, rfl⟩ : ∃ n : Fin 16, k = UInt32.ofNat n.val :=
    ⟨⟨k.toNat, inside⟩, UInt32.ofNat_toNat.symm⟩
  fin_cases n <;> rfl

/-- A cell read for a live id is the automaton's step from the id's state. -/
theorem readCell_spec {cur nib : UInt32} {n : Nibble} (live : cur.toNat < dfaNStates)
    (nibble : nib.toNat = n.val) :
    ∃ c, readCell cur nib = .ok c ∧ cellNext c ≤ dfaNStates ∧
      stateOf (cellNext c) = (step hpack (stateOf cur.toNat) n).1 ∧
      cellEmit c = (step hpack (stateOf cur.toNat) n).2 ∧
      (cellNext c = dfaNStates → cellEmit c = []) := by
  obtain ⟨c, found, facts⟩ := chunk_table_ok live n
  have small := n.isLt
  have p : (cur * 16 + nib).toNat = cur.toNat * 16 + n.val := by
    simp only [dfaNStates] at live
    simp only [UInt32.toNat_add, UInt32.toNat_mul, nibble, UInt32.reduceToNat]
    omega
  have k : ((cur * 16 + nib) / 256).toNat = cur.toNat / 16 := by
    simp only [UInt32.toNat_div, p, UInt32.reduceToNat]
    omega
  have off : ((cur * 16 + nib) % 256).toNat = cur.toNat % 16 * 16 + n.val := by
    simp only [UInt32.toNat_mod, p, UInt32.reduceToNat]
    omega
  refine ⟨c, ?_, facts⟩
  simp only [dfaNStates] at live
  rw [readCell_eq (by omega), k]
  simp only [readChunk, off, load, found]

theorem acceptAt_spec {cur : UInt32} (live : cur.toNat < dfaNStates) :
    acceptAt cur = .ok (isAccepting (stateOf cur.toNat)) := by
  simp only [acceptAt, load, table_accept_ok live]
  cases isAccepting (stateOf cur.toNat) <;> rfl

/-- Follow cells from the id `i`: emit the symbol exactly when the flag is 1, and stop at the
    fail id. -/
def foldCells (i : UInt32) : List Nibble → Exec (UInt32 × List Byte)
  | [] => .ok (i, [])
  | n :: tl => do
      let c ← readCell i (UInt32.ofNat n.val)
      let next := c / 65536
      let flag := c / 256 % 256
      let emitted := if flag = 1 then [(c % 256).toUInt8] else []
      if next = 256 then
        return (next, emitted)
      else
        let (j, rest) ← foldCells next tl
        return (j, emitted ++ rest)

theorem cellNext_eq (c : UInt32) : cellNext c = (c / 65536).toNat := by
  simp [cellNext]

theorem cellEmit_eq (c : UInt32) :
    cellEmit c = if c / 256 % 256 = 1 then [(c % 256).toUInt8] else [] := by
  have flag : c / 256 % 256 = 1 ↔ c.toNat / 256 % 256 = 1 := by
    rw [← UInt32.toNat_inj]
    simp
  have sym : (c % 256).toUInt8 = UInt8.ofNat (c.toNat % 256) := by
    apply UInt8.toNat_inj.mp
    simp
  simp only [cellEmit, flag, sym]

theorem next_eq_fail {next : UInt32} : next = 256 ↔ next.toNat = dfaNStates := by
  rw [← UInt32.toNat_inj]
  rfl

@[simp] theorem dfaRun_fail (ns : List Nibble) : dfaRun hpack .fail ns = (.fail, []) := by
  simp [dfaRun_bits]

/-- Following cells is running the automaton. -/
theorem foldCells_spec (ns : List Nibble) : ∀ {i : UInt32}, i.toNat < dfaNStates →
    ∃ j, foldCells i ns = .ok (j, (dfaRun hpack (stateOf i.toNat) ns).2) ∧
      j.toNat ≤ dfaNStates ∧ stateOf j.toNat = (dfaRun hpack (stateOf i.toNat) ns).1 := by
  induction ns with
  | nil =>
      intro i live
      exact ⟨i, rfl, Nat.le_of_lt live, rfl⟩
  | cons n ns ih =>
      intro i live
      have nibble : (UInt32.ofNat n.val).toNat = n.val := by
        have := n.isLt
        simp only [UInt32.toNat_ofNat']
        omega
      obtain ⟨c, read, le, state, emit, -⟩ := readCell_spec live nibble
      rw [cellNext_eq] at le state
      rw [cellEmit_eq] at emit
      simp only [foldCells, read, dfaRun, ← state, ← emit]
      by_cases failed : c / 65536 = 256
      · have stopped : stateOf (c / 65536).toNat = .fail :=
          stateOf_ge (Nat.le_of_eq (next_eq_fail.mp failed).symm)
        refine ⟨c / 65536, ?_, le, ?_⟩
        · simp only [stopped, dfaRun_fail, List.append_nil]
          simp [failed, bind, Except.bind, pure, Except.pure]
        · simp only [stopped, dfaRun_fail]
      · have lt := Nat.lt_of_le_of_ne le (mt next_eq_fail.mpr failed)
        obtain ⟨j, run, le', state'⟩ := ih lt
        refine ⟨j, ?_, le', state'⟩
        simp [failed, run, bind, Except.bind, pure, Except.pure]

/-- The generated packed table runs like the automaton, from every id and over every nibble
    string, and its accept flags are the padding rule. -/
theorem table_runs_automaton :
    (∀ (i : UInt32) (ns : List Nibble), i < 256 →
      ∃ j e, foldCells i ns = .ok (j, e) ∧ j ≤ 256 ∧
        stateOf j.toNat = (dfaRun hpack (stateOf i.toNat) ns).1 ∧
        e = (dfaRun hpack (stateOf i.toNat) ns).2) ∧
    ∀ j : UInt32, j < 256 → acceptAt j = .ok (isAccepting (stateOf j.toNat)) := by
  constructor
  · intro i ns live
    obtain ⟨j, run, le, state⟩ := foldCells_spec ns (UInt32.lt_iff_toNat_lt.mp live)
    exact ⟨j, _, run, UInt32.le_iff_toNat_le.mpr le, state, rfl⟩
  · intro j live
    exact acceptAt_spec (UInt32.lt_iff_toNat_lt.mp live)

/-- The letter `a` has the code 00011: its two nibbles from the start id leave three ones. -/
theorem table_runs_a :
    (∃ j e, foldCells 0 [1, 15] = .ok (j, e) ∧ j ≤ 256 ∧
      stateOf j.toNat = (dfaRun hpack (stateOf (0 : UInt32).toNat) [1, 15]).1 ∧
      e = (dfaRun hpack (stateOf (0 : UInt32).toNat) [1, 15]).2) ∧
    acceptAt 0 = .ok (isAccepting (stateOf (0 : UInt32).toNat)) :=
  ⟨table_runs_automaton.1 0 [1, 15] (by decide), table_runs_automaton.2 0 (by decide)⟩

end HpackHuffman.Lowstar
