import HpackHuffman.Util.Checked
import HpackHuffman.Lowstar.Decode
import HpackHuffman.Source.Tables

/-! # The decoder before extraction

The nibble decoder as it is verified. A cell is read by a function for its chunk, and only for
a state and a nibble which lie in that chunk. From every state the loop can be called in it
meets every precondition and does what the greedy decoder does with the bits which are left.
-/

namespace HpackHuffman.Source

open Bits Checked
open Lowstar (dfaNStates)

def readAt (cl : List UInt32) (off : UInt32) : Checked UInt32 := do
  demand (off.toNat < dfaChunkSize)
  index cl off

def readChunk (D : Generated) (k : Fin dfaNChunks) (cur nib : UInt32) : Checked UInt32 := do
  demand (cur.toNat < dfaNStates ∧ nib.toNat < 16 ∧
    (cur.toNat * 16 + nib.toNat) / 256 = k.val)
  let row ← U32.mul cur 16
  let p ← U32.add row nib
  let off := p % 256
  readAt (D.chunk k) off

def readChunk0 (D : Generated) := readChunk D 0
def readChunk1 (D : Generated) := readChunk D 1
def readChunk2 (D : Generated) := readChunk D 2
def readChunk3 (D : Generated) := readChunk D 3
def readChunk4 (D : Generated) := readChunk D 4
def readChunk5 (D : Generated) := readChunk D 5
def readChunk6 (D : Generated) := readChunk D 6
def readChunk7 (D : Generated) := readChunk D 7
def readChunk8 (D : Generated) := readChunk D 8
def readChunk9 (D : Generated) := readChunk D 9
def readChunk10 (D : Generated) := readChunk D 10
def readChunk11 (D : Generated) := readChunk D 11
def readChunk12 (D : Generated) := readChunk D 12
def readChunk13 (D : Generated) := readChunk D 13
def readChunk14 (D : Generated) := readChunk D 14
def readChunk15 (D : Generated) := readChunk D 15

/-- The 16-way dispatch on the chunk. -/
def dispatch (D : Generated) (k cur nib : UInt32) : Checked UInt32 :=
  match k with
  | 0 => readChunk0 D cur nib
  | 1 => readChunk1 D cur nib
  | 2 => readChunk2 D cur nib
  | 3 => readChunk3 D cur nib
  | 4 => readChunk4 D cur nib
  | 5 => readChunk5 D cur nib
  | 6 => readChunk6 D cur nib
  | 7 => readChunk7 D cur nib
  | 8 => readChunk8 D cur nib
  | 9 => readChunk9 D cur nib
  | 10 => readChunk10 D cur nib
  | 11 => readChunk11 D cur nib
  | 12 => readChunk12 D cur nib
  | 13 => readChunk13 D cur nib
  | 14 => readChunk14 D cur nib
  | _ => readChunk15 D cur nib

def readCell (D : Generated) (cur nib : UInt32) : Checked UInt32 := do
  demand (cur.toNat < dfaNStates ∧ nib.toNat < 16)
  let row ← U32.mul cur 16
  let p ← U32.add row nib
  let k := p / 256
  dispatch D k cur nib

def acceptAt (D : Generated) (cur : UInt32) : Checked Bool := do
  demand (cur.toNat < dfaNStates)
  let v ← index D.accept cur
  return v == 1

/-- `out_len` is stored to once, before the loop returns. -/
def dfaLoop (D : Generated) (src : List Byte) (dst : Buffer)
    (srcLen dstCap g cur written : UInt32) : Checked (Decoded UInt32) := do
  let nbitTotal ← U32.mul 8 srcLen
  if g = nbitTotal then
    let ok ← acceptAt D cur
    return ⟨if ok then 0 else -1, written, dst⟩
  else
    let bytei := g / 8
    let biti := g % 8
    let bx ← index src bytei
    let nib := if biti = 0 then (bx / 16).toUInt32 else (bx % 16).toUInt32
    let c ← readCell D cur nib
    let next := c / 65536
    if next = 256 then
      return ⟨-1, written, dst⟩
    else
      let flag := c / 256 % 256
      if flag = 1 then
        let sym := c % 256
        if written < dstCap then
          let dst ← upd dst written sym.toUInt8
          match _next : U32.add g 4 with
          | .error unmet => .error unmet
          | .ok g' =>
              let written' ← U32.add written 1
              dfaLoop D src dst srcLen dstCap g' next written'
        else
          return ⟨-1, written, dst⟩
      else
        match _next : U32.add g 4 with
        | .error unmet => .error unmet
        | .ok g' => dfaLoop D src dst srcLen dstCap g' next written
termination_by 2 ^ 32 - g.toNat
decreasing_by
  all_goals
    have step := (U32.add_inv _next).2
    have small := g'.toNat_lt
    simp only [UInt32.reduceToNat] at step
    omega

/-- What a call of `decode_dfa` has to meet. -/
def DecodeRequires (src : List Byte) (srcLen : UInt32) (dst : Buffer) (dstCap : UInt32) : Prop :=
  src.length = srcLen.toNat ∧ dstCap.toNat ≤ dst.bytes.length ∧ srcLen.toNat < 2 ^ 27

instance (src : List Byte) (srcLen : UInt32) (dst : Buffer) (dstCap : UInt32) :
    Decidable (DecodeRequires src srcLen dst dstCap) :=
  inferInstanceAs (Decidable (_ ∧ _ ∧ _))

def decodeDfa (D : Generated) (src : List Byte) (srcLen : UInt32) (dst : Buffer)
    (dstCap : UInt32) : Checked (Decoded UInt32) :=
  dfaLoop D src dst srcLen dstCap 0 0 0

/-- What a turn does with the cell it read. -/
def followCell (D : Generated) (src : List Byte) (dst : Buffer)
    (srcLen dstCap g written c : UInt32) : Checked (Decoded UInt32) :=
  if c / 65536 = 256 then
    return ⟨-1, written, dst⟩
  else if c / 256 % 256 = 1 then
    if written < dstCap then (do
      let dst ← upd dst written (c % 256).toUInt8
      let g' ← U32.add g 4
      let written' ← U32.add written 1
      dfaLoop D src dst srcLen dstCap g' (c / 65536) written')
    else return ⟨-1, written, dst⟩
  else (do
    let g' ← U32.add g 4
    dfaLoop D src dst srcLen dstCap g' (c / 65536) written)

theorem dfaLoop_unfold (D : Generated) (src : List Byte) (dst : Buffer)
    (srcLen dstCap g cur written : UInt32) : dfaLoop D src dst srcLen dstCap g cur written = (do
    let nbitTotal ← U32.mul 8 srcLen
    if g = nbitTotal then
      let ok ← acceptAt D cur
      return ⟨if ok then 0 else -1, written, dst⟩
    else
      let bx ← index src (g / 8)
      let c ← readCell D cur (if g % 8 = 0 then (bx / 16).toUInt32 else (bx % 16).toUInt32)
      followCell D src dst srcLen dstCap g written c) := by
  rw [dfaLoop]
  refine bind_congr fun nbitTotal => ite_congr rfl (fun _ => rfl) fun _ => ?_
  refine bind_congr fun bx => bind_congr fun c => ?_
  unfold followCell
  refine ite_congr rfl (fun _ => rfl) fun _ => ite_congr rfl (fun _ => ?_) fun _ => ?_
  · refine ite_congr rfl (fun _ => bind_congr fun dst => ?_) fun _ => rfl
    cases U32.add g 4 <;> rfl
  · cases U32.add g 4 <;> rfl

section Reads

variable {T : Table} {D : Generated} (tables : TablesOf T D)

theorem stateOf_live {i : Nat} (live : i < dfaNStates) :
    ∃ acc nbits, D.stateOf i = .live acc nbits := by
  rw [← D.length_stateKeys] at live
  exact ⟨D.stateKeys[i] / 32, D.stateKeys[i] % 32, by
    rw [Generated.stateOf, List.getElem?_eq_getElem live]⟩

theorem stateOf_fail : D.stateOf dfaNStates = .fail := by
  rw [Generated.stateOf, List.getElem?_eq_none (by rw [D.length_stateKeys])]

theorem dispatch_eq {k cur nib : UInt32} (inside : k.toNat < dfaNChunks) :
    dispatch D k cur nib = readChunk D ⟨k.toNat, inside⟩ cur nib := by
  obtain ⟨n, rfl⟩ : ∃ n : Fin 16, k = UInt32.ofNat n.val :=
    ⟨⟨k.toNat, inside⟩, UInt32.ofNat_toNat.symm⟩
  fin_cases n <;> rfl

include tables

/-- The cell read for a state and a nibble is the step of the automaton. -/
theorem readCell_contract {cur nib : UInt32} {n : Nibble} (live : cur.toNat < dfaNStates)
    (nibble : nib.toNat = n.val) :
    ∃ c, readCell D cur nib = .ok c ∧ cellNext c ≤ dfaNStates ∧
      D.stateOf (cellNext c) = (step T (D.stateOf cur.toNat) n).1 ∧
      cellEmit c = (step T (D.stateOf cur.toNat) n).2 := by
  have few := n.isLt
  have states : cur.toNat < 256 := live
  obtain ⟨row, times, product⟩ := U32.mul_spec (a := cur) (b := 16)
    (by simp only [UInt32.reduceToNat]; omega)
  simp only [UInt32.reduceToNat] at product
  obtain ⟨p, plus, sum⟩ := U32.add_spec (a := row) (b := nib) (by omega)
  have k : (p / 256).toNat = (cur.toNat * 16 + nib.toNat) / 256 := by
    rw [UInt32.toNat_div, sum, product]
    rfl
  have inside : (p / 256).toNat < dfaNChunks := by
    rw [k]
    exact (by omega : (cur.toNat * 16 + nib.toNat) / 256 < 16)
  have off : (p % 256).toNat = (cur.toNat * 16 + nib.toNat) % 256 := by
    rw [UInt32.toNat_mod, sum, product]
    rfl
  have short : (p % 256).toNat < dfaChunkSize := by
    rw [off]
    exact Nat.mod_lt _ (by decide)
  have there : (p % 256).toNat < (D.chunk ⟨(p / 256).toNat, inside⟩).length := by
    rwa [D.length_chunk]
  have flat : cur.toNat * 16 + n.val = dfaChunkSize * (p / 256).toNat + (p % 256).toNat := by
    rw [k, off, nibble]
    exact (Nat.div_add_mod _ 256).symm
  refine ⟨_, ?_, tables.cell ⟨(p / 256).toNat, inside⟩ _ _ (List.getElem?_eq_getElem there)
    cur.toNat n flat⟩
  have chunk : cur.toNat < dfaNStates ∧ nib.toNat < 16 ∧
      (cur.toNat * 16 + nib.toNat) / 256 = (p / 256).toNat := ⟨live, by omega, k.symm⟩
  simp only [readCell, demand_ok (And.intro live chunk.2.1), times, plus, dispatch_eq inside,
    readChunk, demand_ok chunk, readAt, demand_ok short, index_of_lt there, bind, Except.bind]

/-- The flag read for a state is the padding rule. -/
theorem acceptAt_contract {cur : UInt32} (live : cur.toNat < dfaNStates) :
    acceptAt D cur = .ok (isAccepting (D.stateOf cur.toNat)) := by
  simp only [acceptAt, demand_ok live, index_of_get (tables.accept _ live), bind, Except.bind]
  cases isAccepting (D.stateOf cur.toNat) <;> rfl

end Reads

/-- What a call of `dfa_loop` has to meet. -/
structure DfaLoopRequires (D : Generated) (src : List Byte) (dst : Buffer)
    (srcLen dstCap g cur written : UInt32) (acc nbits : Nat) : Prop where
  length : src.length = srcLen.toNat
  room : dstCap.toNat ≤ dst.bytes.length
  small : srcLen.toNat < 2 ^ 27
  le : g.toNat ≤ 8 * srcLen.toNat
  aligned : g.toNat % 4 = 0
  live : cur.toNat < dfaNStates
  within : written.toNat ≤ dstCap.toNat
  state : D.stateOf cur.toNat = .live acc nbits

/-- What it ensures, `spec` being the greedy decoder's answer. -/
structure DfaLoopEnsures (dst : Buffer) (dstCap written : UInt32) (spec : Option (List Byte))
    (res : Decoded UInt32) : Prop where
  cap : res.outLen.toNat ≤ dstCap.toNat
  accepted : ∀ out, spec = some out → out.length ≤ dstCap.toNat →
    res.rc = 0 ∧ res.outLen.toNat = out.length ∧ res.dst.bytes.take res.outLen.toNat = out
  full : ∀ out, spec = some out → dstCap.toNat < out.length → res.rc = -1
  rejected : spec = none → res.rc = -1
  /-- Only the bytes from `written` on are stored to, one after the other. -/
  frame : ∃ vs : List Byte, res.dst = dst.write written.toNat vs ∧
    written.toNat + vs.length = res.outLen.toNat

section Loop

variable {T : Table} {D : Generated} {src : List Byte} {dst : Buffer}
  {srcLen dstCap g cur written : UInt32} {acc nbits : Nat}

/-- The decoder only appends to what it has. -/
theorem decodeGo_grows {bs : List Bool} {out out' : List Byte}
    (accepted : decodeGo T bs acc nbits out = some out') : out.length ≤ out'.length := by
  rw [decodeGo_eq, verdict, Option.ite_none_right_eq_some, Option.some.injEq] at accepted
  rw [← accepted.2, List.length_append]
  exact Nat.le_add_right _ _

theorem DfaLoopEnsures.failed {spec : Option (List Byte)} (within : written.toNat ≤ dstCap.toNat)
    (never : ∀ out, spec = some out → dstCap.toNat < out.length) :
    DfaLoopEnsures dst dstCap written spec ⟨-1, written, dst⟩ where
  cap := within
  accepted out found fits := absurd fits (Nat.not_le_of_lt (never out found))
  full _ _ _ := rfl
  rejected _ := rfl
  frame := ⟨[], (Buffer.write_nil dst _).symm, rfl⟩

/-- At the last bit the accept flag is the verdict. -/
theorem dfaLoop_end (tables : TablesOf T D)
    (req : DfaLoopRequires D src dst srcLen dstCap g cur written acc nbits)
    (all : g.toNat = 8 * srcLen.toNat) :
    ∃ res, dfaLoop D src dst srcLen dstCap g cur written = .ok res ∧
      DfaLoopEnsures dst dstCap written
        (decodeGo T (bitsFrom src g.toNat) acc nbits (dst.bytes.take written.toNat)) res := by
  obtain ⟨length, room, small, -, -, live, within, state⟩ := req
  obtain ⟨total, times, product⟩ := U32.mul_spec (a := 8) (b := srcLen)
    (by simp only [UInt32.reduceToNat]; omega)
  simp only [UInt32.reduceToNat] at product
  have last : g = total := UInt32.toNat_inj.mp (all.trans product.symm)
  have flag := acceptAt_contract tables live
  rw [state] at flag
  rw [bitsFrom_end (by omega), decodeGo, ← isAccepting]
  refine ⟨⟨if isAccepting (.live acc nbits) then 0 else -1, written, dst⟩, ?_, ?_⟩
  · simp only [dfaLoop_unfold, times, if_pos last, flag, bind, Except.bind]
    rfl
  · cases isAccepting (.live acc nbits) with
    | false => exact .failed within fun out found => by simp at found
    | true =>
        have count : (dst.bytes.take written.toNat).length = written.toNat :=
          List.length_take_of_le (Nat.le_trans within room)
        refine ⟨within, ?_, ?_, fun missing => by simp at missing,
          [], (Buffer.write_nil dst _).symm, rfl⟩
        · intro out found _
          obtain rfl := Option.some.inj found
          exact ⟨rfl, count.symm, rfl⟩
        · intro out found long
          obtain rfl := Option.some.inj found
          omega

theorem nibble_toNat (inside : g.toNat < 8 * src.length) (byte : g.toNat / 8 < src.length) :
    (if g % 8 = 0 then (src[g.toNat / 8] / 16).toUInt32
      else (src[g.toNat / 8] % 16).toUInt32).toNat = (nibbleAt src g.toNat inside).val := by
  have high : g % 8 = 0 ↔ g.toNat % 8 = 0 := by
    rw [← UInt32.toNat_inj]
    simp
  simp only [nibbleAt, high]
  by_cases half : g.toNat % 8 = 0
  · simp only [if_pos half, UInt8.toNat_toUInt32, UInt8.toNat_div, UInt8.reduceToNat]
  · simp only [if_neg half, UInt8.toNat_toUInt32, UInt8.toNat_mod, UInt8.reduceToNat]

/-- A turn reads the cell of the next nibble. It takes the greedy decoder over four bits. -/
theorem dfaLoop_nibble (tables : TablesOf T D)
    (req : DfaLoopRequires D src dst srcLen dstCap g cur written acc nbits)
    (more : g.toNat < 8 * srcLen.toNat) :
    ∃ c, dfaLoop D src dst srcLen dstCap g cur written =
        followCell D src dst srcLen dstCap g written c ∧
      cellNext c ≤ dfaNStates ∧
      ∀ out, decodeGo T (bitsFrom src g.toNat) acc nbits out =
        match D.stateOf (cellNext c) with
        | .fail => none
        | .live a m => decodeGo T (bitsFrom src (g.toNat + 4)) a m (out ++ cellEmit c) := by
  obtain ⟨length, -, small, -, aligned, live, -, state⟩ := req
  obtain ⟨total, times, product⟩ := U32.mul_spec (a := 8) (b := srcLen)
    (by simp only [UInt32.reduceToNat]; omega)
  simp only [UInt32.reduceToNat] at product
  have notLast : g ≠ total := by
    intro last
    rw [last] at more
    omega
  have inside : g.toNat < 8 * src.length := by omega
  have bytei : (g / 8).toNat = g.toNat / 8 := UInt32.toNat_div g 8
  have byte : index src (g / 8) = .ok src[g.toNat / 8] := by
    apply index_of_get
    rw [bytei]
    exact List.getElem?_eq_getElem _
  obtain ⟨c, read, le, next, emit⟩ := readCell_contract tables live (nibble_toNat inside (by omega))
  rw [state] at next emit
  refine ⟨c, ?_, le, fun out => ?_⟩
  · simp only [dfaLoop_unfold, times, if_neg notLast, byte, read, bind, Except.bind]
  · rw [bitsFrom_nibble inside aligned, decodeGo_append, next, emit, step]
    cases bitsStep T (.live acc nbits) (nibbleBits (nibbleAt src g.toNat inside)) with
    | mk s o => cases s <;> rfl

/-- What a turn does with its cell: it fails, or it stores what the cell emits and goes on. -/
theorem followCell_cases (D : Generated) (src : List Byte) (srcLen c : UInt32)
    (within : written.toNat ≤ dstCap.toNat) (room : dstCap.toNat ≤ dst.bytes.length)
    (small : g.toNat + 4 < 2 ^ 32) :
    (followCell D src dst srcLen dstCap g written c = .ok ⟨-1, written, dst⟩ ∧
        (cellNext c = dfaNStates ∨ dstCap.toNat < written.toNat + (cellEmit c).length)) ∨
      ∃ g' written', followCell D src dst srcLen dstCap g written c =
          dfaLoop D src (dst.write written.toNat (cellEmit c)) srcLen dstCap g' (c / 65536)
            written' ∧
        cellNext c ≠ dfaNStates ∧ g'.toNat = g.toNat + 4 ∧
        written'.toNat = written.toNat + (cellEmit c).length ∧
        written.toNat + (cellEmit c).length ≤ dstCap.toNat := by
  have next : c / 65536 = 256 ↔ cellNext c = dfaNStates := by
    rw [Lowstar.next_eq_fail, Lowstar.cellNext_eq]
  obtain ⟨g', plus, sum⟩ := U32.add_spec (a := g) (b := 4) small
  by_cases failed : c / 65536 = 256
  · exact .inl ⟨by rw [followCell, if_pos failed]; rfl, .inl (next.mp failed)⟩
  · have live := mt next.mpr failed
    by_cases flag : c / 256 % 256 = 1
    · rw [Lowstar.cellEmit_eq, if_pos flag]
      by_cases fits : written < dstCap
      · have lt := UInt32.lt_iff_toNat_lt.mp fits
        obtain ⟨written', next', succ⟩ := U32.succ_spec lt
        have inside : written.toNat < dst.bytes.length := Nat.lt_of_lt_of_le lt room
        refine .inr ⟨g', written', ?_, live, sum, succ, lt⟩
        rw [followCell, if_neg failed, if_pos flag, if_pos fits]
        simp only [upd_of_lt inside, plus, next', bind, Except.bind]
      · have ge := Nat.le_of_not_lt (mt UInt32.lt_iff_toNat_lt.mpr fits)
        refine .inl ⟨?_, .inr (Nat.lt_succ_of_le ge)⟩
        rw [followCell, if_neg failed, if_pos flag, if_neg fits]
        rfl
    · rw [Lowstar.cellEmit_eq, if_neg flag, Buffer.write_nil]
      refine .inr ⟨g', written, ?_, live, sum, rfl, within⟩
      rw [followCell, if_neg failed, if_neg flag]
      simp only [plus, bind, Except.bind]

/-- Where a turn fails, the greedy decoder has no answer for which there is room. -/
theorem never_fits {c : UInt32} {bs : List Bool} {taken out : List Byte}
    (why : cellNext c = dfaNStates ∨ dstCap.toNat < taken.length + (cellEmit c).length)
    (found : (match D.stateOf (cellNext c) with
      | .fail => none
      | .live a m => decodeGo T bs a m (taken ++ cellEmit c)) = some out) :
    dstCap.toNat < out.length := by
  cases why with
  | inl failed =>
      rw [failed, stateOf_fail] at found
      cases found
  | inr full =>
      cases state : D.stateOf (cellNext c) with
      | fail =>
          rw [state] at found
          cases found
      | live a m =>
          rw [state] at found
          have grows := decodeGo_grows found
          rw [List.length_append] at grows
          exact Nat.lt_of_lt_of_le full grows

/-- What a later call ensures, this one ensures which stored `vs` first. -/
theorem DfaLoopEnsures.behind {vs : List Byte} {written' : UInt32} {spec : Option (List Byte)}
    {res : Decoded UInt32} (room : written.toNat + vs.length ≤ dst.bytes.length)
    (count : written'.toNat = written.toNat + vs.length)
    (later : DfaLoopEnsures (dst.write written.toNat vs) dstCap written' spec res) :
    DfaLoopEnsures dst dstCap written spec res := by
  obtain ⟨cap, accepted, full, rejected, ws, last, total⟩ := later
  refine ⟨cap, accepted, full, rejected, vs ++ ws, ?_, ?_⟩
  · rw [last, count, Buffer.write_write room]
  · rw [List.length_append]
    omega

/-- The loop, from every state it can be called in. -/
theorem dfaLoop_ensures (tables : TablesOf T D)
    (req : DfaLoopRequires D src dst srcLen dstCap g cur written acc nbits) :
    ∃ res, dfaLoop D src dst srcLen dstCap g cur written = .ok res ∧
      DfaLoopEnsures dst dstCap written
        (decodeGo T (bitsFrom src g.toNat) acc nbits (dst.bytes.take written.toNat)) res := by
  induction left : 8 * srcLen.toNat - g.toNat using Nat.strong_induction_on
    generalizing dst g cur written acc nbits with
  | h bits ih =>
      cases Nat.eq_or_lt_of_le req.le with
      | inl all => exact dfaLoop_end tables req all
      | inr more =>
          obtain ⟨c, turn, small, spec⟩ := dfaLoop_nibble tables req more
          obtain ⟨length, room, short, -, aligned, -, within, -⟩ := req
          rw [turn, spec]
          cases followCell_cases D src srcLen c within room (by omega : g.toNat + 4 < 2 ^ 32) with
          | inl ends =>
              obtain ⟨done, why⟩ := ends
              have count : (dst.bytes.take written.toNat).length = written.toNat :=
                List.length_take_of_le (Nat.le_trans within room)
              exact ⟨_, done, .failed within fun out found => never_fits (by rwa [count]) found⟩
          | inr goes =>
              obtain ⟨g', written', on, live, sum, count, fits⟩ := goes
              have live' : (c / 65536).toNat < dfaNStates := by
                rw [← Lowstar.cellNext_eq]
                exact Nat.lt_of_le_of_ne small live
              obtain ⟨a, m, state⟩ := stateOf_live (D := D) live'
              have stored : written.toNat + (cellEmit c).length ≤ dst.bytes.length :=
                Nat.le_trans fits room
              have kept := Buffer.length_write stored
              have front : (dst.write written.toNat (cellEmit c)).bytes.take written'.toNat =
                  dst.bytes.take written.toNat ++ cellEmit c := by
                rw [count]
                exact Buffer.take_write (Nat.le_trans within room)
              obtain ⟨res, run, ensures⟩ := ih (8 * srcLen.toNat - g'.toNat) (by omega)
                ⟨length, kept ▸ room, short, by omega, by omega, live', count ▸ fits, state⟩ rfl
              rw [front, sum] at ensures
              refine ⟨res, on.trans run, ?_⟩
              rw [Lowstar.cellNext_eq, state]
              exact ensures.behind stored count

/-- From every state `dfa_loop` can be called in, over tables which pass the checks, it
    meets every precondition and returns what the greedy decoder makes of the bits left, as far
    as there is room. -/
theorem dfaLoop_contract (checked : codecChecks T D = true)
    (req : DfaLoopRequires D src dst srcLen dstCap g cur written acc nbits) :
    ∃ res, dfaLoop D src dst srcLen dstCap g cur written = .ok res ∧
      DfaLoopEnsures dst dstCap written
        (decodeGo T (bitsFrom src g.toNat) acc nbits (dst.bytes.take written.toNat)) res :=
  dfaLoop_ensures (codecChecks_iff.mp checked).2 req

/-- The second nibble of the padded code of `a`, when the first has led to id 2. -/
theorem dfaLoop_contract_a :
    ∃ res, dfaLoop committed [31] (.ofBytes [7, 7]) 1 2 4 2 0 = .ok res ∧
      DfaLoopEnsures (.ofBytes [7, 7]) 2 0 (decodeGo hpack (bitsFrom [31] 4) 1 4 []) res := by
  have req : DfaLoopRequires committed [31] (.ofBytes [7, 7]) 1 2 4 2 0 1 4 :=
    ⟨by decide, by decide, by decide, by decide, by decide, by decide, by decide, by decide⟩
  exact dfaLoop_contract codecChecks_committed req

theorem decodeDfa_ensures (tables : TablesOf T D) (length : src.length = srcLen.toNat)
    (room : dstCap.toNat ≤ dst.bytes.length) (small : srcLen.toNat < 2 ^ 27) :
    ∃ res, decodeDfa D src srcLen dst dstCap = .ok res ∧
      DfaLoopEnsures dst dstCap 0 (decodeBits T (bytesToBits src)) res :=
  dfaLoop_ensures (g := 0) tables
    ⟨length, room, small, Nat.zero_le _, rfl, Nat.zero_lt_succ 255, Nat.zero_le _, tables.start⟩

/-- `decode_dfa` meets every precondition and decides the code: it returns 0 and the bytes when
    the input is an encoding for which there is room, and -1 otherwise. -/
theorem decodeDfa_contract (checked : codecChecks T D = true) (length : src.length = srcLen.toNat)
    (room : dstCap.toNat ≤ dst.bytes.length) (small : srcLen.toNat < 2 ^ 27) :
    ∃ res, decodeDfa D src srcLen dst dstCap = .ok res ∧
      DfaLoopEnsures dst dstCap 0 (decodeBits T (bytesToBits src)) res ∧
      (res.rc = 0 ↔ ∃ xs, src = encodeBytes T xs ∧ xs.length ≤ dstCap.toNat) := by
  obtain ⟨rfc, tables⟩ := codecChecks_iff.mp checked
  obtain ⟨res, run, ensures⟩ := decodeDfa_ensures tables length room small
  refine ⟨res, run, ensures, ?_⟩
  constructor
  · intro ok
    cases found : decodeBits T (bytesToBits src) with
    | none =>
        have failed := ensures.rejected found
        rw [ok] at failed
        exact absurd failed (by decide)
    | some xs =>
        refine ⟨xs, (rfc.decodeBits_bytes_iff xs src).mp found, ?_⟩
        by_contra long
        have failed := ensures.full xs found (Nat.lt_of_not_le long)
        rw [ok] at failed
        exact absurd failed (by decide)
  · rintro ⟨xs, bytes, fits⟩
    exact (ensures.accepted xs ((rfc.decodeBits_bytes_iff xs src).mpr bytes) fits).1

theorem decodeDfa_contract_a :
    ∃ res, decodeDfa committed [31] 1 (.ofBytes [7, 7]) 2 = .ok res ∧
      DfaLoopEnsures (.ofBytes [7, 7]) 2 0 (decodeBits hpack (bytesToBits [31])) res ∧
      (res.rc = 0 ↔ ∃ xs, [31] = encodeBytes hpack xs ∧ xs.length ≤ (2 : UInt32).toNat) :=
  decodeDfa_contract codecChecks_committed (by decide) (by decide) (by decide)

end Loop

end HpackHuffman.Source
