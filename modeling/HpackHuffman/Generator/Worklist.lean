import HpackHuffman.Spec.Language
import HpackHuffman.Util.CompleteCode
import HpackHuffman.Util.Search

/-! # The table generator's search

The script which writes the automaton's tables enumerates the states a decoder can be in
between two nibbles, breadth first from the start state. It keeps its own copy of the bit step,
over a dictionary keyed by length and code. On a complete code its states are the proper parts
of codewords, and that is all which ends the search.
-/

namespace HpackHuffman.Generator

open Bits

/-- A partial codeword `(acc, nbits)`. The failed state is `none`. -/
abbrev State := Nat × Nat

def eos : Nat := 256

/-- The symbol of a length and a code. -/
def bylen (T : Table) : Nat × Nat → Option Nat := enumDict (fun e => (e.len, e.code)) T.entries

def bitStep (T : Table) : Option State → Nat → Option State × Option Nat
  | none, _ => (none, none)
  | some (acc, nbits), bit =>
      let acc2 := acc * 2 + bit
      let nb2 := nbits + 1
      match bylen T (nb2, acc2) with
      | some sym => if sym = eos then (none, none) else (some (0, 0), some sym)
      | none => (some (acc2, nb2), none)

/-- The loop over the bits `i` of a nibble, which a failed state breaks off. -/
def stepLoop (T : Table) (nib : Nat) : List Nat → Option State → List Nat → Option State × List Nat
  | [], s, emitted => (s, emitted)
  | i :: rest, s, emitted =>
      let (s', sym) := bitStep T s ((nib >>> i) &&& 1)
      let emitted' := emitted ++ sym.toList
      match s' with
      | none => (none, emitted')
      | some _ => stepLoop T nib rest s' emitted'

def step (T : Table) (state : Option State) (nib : Nat) : Option State × List Nat :=
  stepLoop T nib [3, 2, 1, 0] state []

def start : State := (0, 0)

/-- The live states one nibble further on, in the order of the nibbles. -/
def successors (T : Table) (st : State) : List State :=
  (List.range 16).filterMap fun nib => (step T (some st) nib).1

def search (T : Table) (fuel : Nat) : Option (List State) :=
  Worklist.search (successors T) fuel (Worklist.start start)

/-- The automaton's state of a generator state. -/
def toDState : Option State → DState
  | none => .fail
  | some (acc, nbits) => .live acc nbits

theorem toDState_injective : Function.Injective toDState := by
  rintro (_ | ⟨a, m⟩) (_ | ⟨a', m'⟩) same
  · rfl
  · exact DState.noConfusion same
  · exact DState.noConfusion same
  · obtain ⟨rfl, rfl⟩ := DState.live.inj same
    rfl

section Step

variable {T : Table} (free : prefixFree T.entries = true)

include free

theorem keys_distinct : (T.entries.map fun e => (e.len, e.code)).Nodup := by
  refine List.pairwise_map.mpr (((prefixFree_iff T.entries).mp free).imp ?_)
  intro e₁ e₂ apart same
  obtain ⟨len, code⟩ := Prod.mk.inj same
  simp [noPrefix, len, code] at apart

/-- Where no two codes are equal, the last entry of a code is the first. -/
theorem bylen_eq (k v : Nat) : bylen T (k, v) = (lookupV T v k).map Fin.val := by
  cases found : lookupV T v k with
  | some s =>
      obtain ⟨len, code⟩ := findV_some found
      exact (enumDict_iff (keys_distinct free)).mpr
        ⟨entryAt T s, entries_get T s, Prod.ext len code⟩
  | none =>
      rw [Option.map_none, Option.eq_none_iff_forall_ne_some]
      intro i here
      obtain ⟨e, entry, key⟩ := enumDict_sound here
      obtain ⟨inside, rfl⟩ := List.getElem?_eq_some_iff.mp entry
      have lt : i < 257 := T.complete ▸ inside
      exact findV_none found ⟨i, lt⟩ (Nat.zero_le i) (Prod.mk.inj key)

/-- The generator's bit step is the automaton's, in every state. -/
theorem bitStep_eq (s : Option State) (b : Bool) :
    toDState (bitStep T s b.toNat).1 = (HpackHuffman.bitStep T (toDState s) b).1 ∧
      (bitStep T s b.toNat).2 = (HpackHuffman.bitStep T (toDState s) b).2.map UInt8.toNat := by
  cases s with
  | none => exact ⟨rfl, rfl⟩
  | some st =>
      obtain ⟨acc, nbits⟩ := st
      have bit : b.toNat = if b then 1 else 0 := by cases b <;> rfl
      simp only [bitStep, toDState, HpackHuffman.bitStep, bit, bylen_eq free]
      cases found : lookupV T (acc * 2 + if b then 1 else 0) (nbits + 1) with
      | none => exact ⟨rfl, rfl⟩
      | some sy =>
          by_cases last : sy = eosIndex
          · subst last
            exact ⟨rfl, rfl⟩
          · have byte : sy.toByte.toNat = sy.val := congrArg Fin.val (Sym.ofByte_toByte last)
            have other : sy.val ≠ eos := by
              intro same
              exact last (Fin.ext same)
            simp only [Option.map_some, if_neg other, if_neg last, byte, and_self]

theorem stepLoop_eq (nib : Nat) (is : List Nat) (s : Option State) (emitted : List Nat) :
    toDState (stepLoop T nib is s emitted).1 =
        (bitsStep T (toDState s) (is.map nib.testBit)).1 ∧
      (stepLoop T nib is s emitted).2 =
        emitted ++ (bitsStep T (toDState s) (is.map nib.testBit)).2.map UInt8.toNat := by
  induction is generalizing s emitted with
  | nil => exact ⟨rfl, by simp [stepLoop, bitsStep]⟩
  | cons i rest ih =>
      have bit : (nib >>> i) &&& 1 = (nib.testBit i).toNat := by
        rw [Nat.and_one_is_mod, Nat.toNat_testBit, Nat.shiftRight_eq_div_pow]
      obtain ⟨state, sym⟩ := bitStep_eq free s (nib.testBit i)
      rcases one : bitStep T s (nib.testBit i).toNat with ⟨s', o⟩
      rw [one] at state sym
      have out : o.toList =
          (HpackHuffman.bitStep T (toDState s) (nib.testBit i)).2.toList.map UInt8.toNat := by
        rw [← Option.toList_map, ← sym]
      simp only [stepLoop, bit, one, List.map_cons, bitsStep, ← state]
      cases s' with
      | none => simp [toDState, out]
      | some st =>
          obtain ⟨state', sym'⟩ := ih (some st) (emitted ++ o.toList)
          refine ⟨state', ?_⟩
          rw [sym', out, List.map_append, List.append_assoc]

/-- The generator's step is the automaton's. -/
theorem step_eq (s : Option State) (n : Nibble) :
    toDState (step T s n.val).1 = (HpackHuffman.step T (toDState s) n).1 ∧
      (step T s n.val).2 = (HpackHuffman.step T (toDState s) n).2.map UInt8.toNat := by
  have bits : ∀ n : Nibble, nibbleBits n = [3, 2, 1, 0].map n.val.testBit := by decide
  rw [HpackHuffman.step, bits]
  exact stepLoop_eq free n.val [3, 2, 1, 0] s []

theorem mem_successors (st st' : State) :
    st' ∈ successors T st ↔
      ∃ n, (HpackHuffman.step T (toDState (some st)) n).1 = toDState (some st') := by
  simp only [successors, List.mem_filterMap, List.mem_range]
  constructor
  · rintro ⟨nib, few, next⟩
    refine ⟨⟨nib, few⟩, ?_⟩
    rw [← (step_eq free (some st) ⟨nib, few⟩).1, next]
  · rintro ⟨n, next⟩
    rw [← (step_eq free (some st) n).1] at next
    exact ⟨n.val, n.isLt, toDState_injective next⟩

/-- Paths of the search are nibble strings. -/
theorem reachable_iff (s st : State) :
    Worklist.Reachable (successors T) s st ↔
      ∃ ns, (dfaRun T (toDState (some s)) ns).1 = toDState (some st) := by
  constructor
  · intro path
    induction path using Relation.ReflTransGen.head_induction_on with
    | refl => exact ⟨[], rfl⟩
    | head edge _ ih =>
        obtain ⟨ns, run⟩ := ih
        obtain ⟨n, next⟩ := (mem_successors free _ _).mp edge
        refine ⟨n :: ns, ?_⟩
        simp only [dfaRun, next]
        exact run
  · rintro ⟨ns, run⟩
    induction ns generalizing s with
    | nil =>
        obtain rfl := Option.some.inj (toDState_injective run)
        exact .refl
    | cons n ns ih =>
        simp only [dfaRun] at run
        cases next : (HpackHuffman.step T (toDState (some s)) n).1 with
        | fail =>
            rw [next, dfaRun_bits, bitsStep_fail] at run
            exact absurd run DState.noConfusion
        | live a m =>
            rw [next] at run
            exact .head ((mem_successors free s (a, m)).mpr ⟨n, next⟩) (ih (a, m) run)

end Step

section Search

variable {T : Table} (valid : T.Valid)

include valid

/-- A state reached holds a string which a reader waits on. -/
theorem stuck_of_reachable {st : State}
    (path : Worklist.Reachable (successors T) start st) :
    ∃ r, valid.code.Stuck r ∧ st = (valueOf r, r.length) := by
  obtain ⟨ns, run⟩ := (reachable_iff valid.prefixFree start st).mp path
  have reads := (run_eq_iff valid (nibblesToBits ns) _ _).mp rfl
  rw [dfaRun_bits] at run
  change (bitsStep T dfaInit (nibblesToBits ns)).1 = _ at run
  rw [run] at reads
  obtain ⟨r, -, stuck, value, length⟩ := reads
  exact ⟨r, stuck, Prod.ext value length⟩

/-- There are fewer states than codewords. -/
theorem length_le_of_reachable (complete : valid.code.Complete 30) (states : List State)
    (distinct : states.Nodup)
    (reached : ∀ st ∈ states, Worklist.Reachable (successors T) start st) :
    states.length ≤ 256 := by
  have word : ∀ st ∈ states, valid.code.Stuck (codeToBits st.1 st.2) ∧
      st = (valueOf (codeToBits st.1 st.2), (codeToBits st.1 st.2).length) := by
    intro st inside
    obtain ⟨r, stuck, rfl⟩ := stuck_of_reachable valid (reached st inside)
    rw [codeToBits_valueOf]
    exact ⟨stuck, rfl⟩
  have words : (states.map fun st => codeToBits st.1 st.2).Nodup := by
    refine distinct.map_on ?_
    intro st inside st' inside' same
    rw [(word st inside).2, (word st' inside').2, same]
  have count := complete.length_lt_card words fun r member => by
    obtain ⟨st, inside, rfl⟩ := List.mem_map.mp member
    exact (word st inside).1
  rw [List.length_map, Fintype.card_fin] at count
  exact Nat.le_of_lt_succ count

/-- What the search establishes of its order. -/
structure Enumerates (T : Table) (order : List State) : Prop where
  distinct : order.Nodup
  first : [start] <+: order
  reached : ∀ st, st ∈ order ↔ Worklist.Reachable (successors T) start st

theorem search_enumerates (complete : valid.code.Complete 30) {fuel : Nat} (enough : 256 < fuel) :
    ∃ order, search T fuel = some order ∧ Enumerates T order := by
  obtain ⟨order, run, distinct, first, reached⟩ :=
    Worklist.search_spec (length_le_of_reachable valid complete) enough
  exact ⟨order, run, distinct, first, reached⟩

end Search

section Emit

variable {T : Table} (long : ∀ s, 4 ≤ lenOf T s)

include long

/-- Fewer bits than a code has emit nothing. -/
theorem bitsStep_silent (acc : Nat) {nbits : Nat} {bs : List Bool}
    (few : nbits + bs.length < 4) : (bitsStep T (.live acc nbits) bs).2 = [] := by
  induction bs generalizing acc nbits with
  | nil => rfl
  | cons b bs ih =>
      rw [List.length_cons] at few
      cases found : lookupV T (acc * 2 + if b then 1 else 0) (nbits + 1) with
      | some s =>
          have len := (findV_some found).1
          have := long s
          omega
      | none =>
          simp only [bitsStep, HpackHuffman.bitStep, found, Option.toList_none, List.nil_append]
          exact ih _ (by omega)

/-- The bits of a nibble complete at most one code: the next code is no shorter than a nibble. -/
theorem length_emitted_le_one (s : DState) {bs : List Bool} (nibble : bs.length ≤ 4) :
    (bitsStep T s bs).2.length ≤ 1 := by
  induction bs generalizing s with
  | nil => exact Nat.zero_le 1
  | cons b bs ih =>
      rw [List.length_cons] at nibble
      cases s with
      | fail => simp
      | live acc nbits =>
          simp only [bitsStep, HpackHuffman.bitStep]
          cases found : lookupV T (acc * 2 + if b then 1 else 0) (nbits + 1) with
          | none => exact ih _ (by omega)
          | some sy =>
              by_cases last : sy = eosIndex
              · simp [last]
              · simp [last, bitsStep_silent long 0 (by omega : 0 + bs.length < 4)]

end Emit

end HpackHuffman.Generator
