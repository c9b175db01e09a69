import HpackHuffman.Refine.DfaTable
import HpackHuffman.Reference.Table

/-! # The nghttp2 table is the automaton

The nghttp2 automaton numbers the same internal nodes of the code tree in its own way, and
keeps acceptance with the transition into a state. Its table is checked against the same
steps on the tree.
-/

namespace HpackHuffman

open Bits Reference

/-- The nghttp2 state at a position. -/
def refId : Option Node → Nat
  | some (.node i _ _) => i.2
  | _ => huffFailState.toNat

/-- The nghttp2 states in which the bits read since the last symbol are padding. -/
def refAccepting : List Nat := [0, 22, 40, 56, 64, 68, 72, 74]

def refEmit (e : DecodeEntry) : List Byte := if e.flags &&& huffSym ≠ 0 then [e.sym] else []

/-- A transition goes where the tree goes, emits what it emits, and is flagged when the padding
    rule holds there. -/
def refCellOk (t : Node) (n : Nibble) (e : DecodeEntry) : Bool :=
  let r := treeSteps (some t) (nibbleBits n)
  decide (e.fstate.toNat = refId r.1) && decide (refEmit e = r.2) &&
    decide (e.flags &&& huffAccepted ≠ 0) == decide (refId r.1 ∈ refAccepting)

def refNodeOk (p : Nat × Nat) : Node → Bool
  | .leaf _ => true
  | .node i zero one =>
      decide (i.2 < huffFailState.toNat) &&
        decide (i.2 ∈ refAccepting) == validPaddingV p.1 p.2 &&
        match huffDecodeTable[i.2]? with
        | some row => rowOk (refCellOk (.node i zero one)) row
        | none => false

theorem ref_nodes_ok : hpackTree.checkAlong accumulate refNodeOk (0, 0) = true := by
  decide +kernel

/-- The facts the check establishes at an internal node. -/
theorem ref_node_facts {path : List Bool} {i : Nat × Nat} {zero one : Node}
    (below : hpackTree.walk path = some (.node i zero one)) :
    i.2 < huffFailState.toNat ∧
      decide (i.2 ∈ refAccepting) = validPaddingV (valueOf path) path.length ∧
      ∃ row, huffDecodeTable[i.2]? = some row ∧
        rowOk (refCellOk (.node i zero one)) row = true := by
  have ok := checkAlong_at ref_nodes_ok below
  simp only [refNodeOk, Bool.and_eq_true, decide_eq_true_eq, beq_iff_eq] at ok
  obtain ⟨⟨live, accepting⟩, cells⟩ := ok
  split at cells
  case h_1 row found => exact ⟨live, accepting, row, found, cells⟩
  case h_2 => simp at cells

namespace AtNode

variable {s : DState} {p : Option Node}

theorem mem_refAccepting (here : AtNode s p) : refId p ∈ refAccepting ↔ isAccepting s = true := by
  cases here with
  | fail => decide
  | live below =>
      rw [isAccepting, ← (ref_node_facts below).2.1, decide_eq_true_eq]
      rfl

theorem refId_fail (here : AtNode s p) : refId p = huffFailState.toNat ↔ s = .fail := by
  cases here with
  | fail => simp [refId]
  | live below =>
      have live := (ref_node_facts below).1
      constructor
      · intro same
        exact absurd same (Nat.ne_of_lt live)
      · exact DState.noConfusion

end AtNode

/-- The nghttp2 automaton is in state `q` when the automaton is in state `s`. -/
def RefAt (s : DState) (q : UInt16) : Prop := ∃ p, AtNode s p ∧ refId p = q.toNat

theorem RefAt.init : RefAt dfaInit 0 := ⟨some hpackTree, AtNode.init, rfl⟩

theorem RefAt.fail_iff {s : DState} {q : UInt16} (here : RefAt s q) :
    q = huffFailState ↔ s = .fail := by
  obtain ⟨p, at_, id⟩ := here
  rw [← at_.refId_fail, id, UInt16.toNat_inj]

/-- Every entry of the nghttp2 table is the automaton's step. -/
theorem ref_table_ok {s : DState} {q : UInt16} (here : RefAt s q) (live : s ≠ .fail) (n : Nibble) :
    ∃ row e, huffDecodeTable[q.toNat]? = some row ∧ row[n.val]? = some e ∧
      RefAt (step hpack s n).1 e.fstate ∧ refEmit e = (step hpack s n).2 ∧
      (e.flags &&& huffAccepted ≠ 0 ↔ isAccepting (step hpack s n).1 = true) := by
  obtain ⟨p, at_, id⟩ := here
  cases at_ with
  | fail => exact absurd rfl live
  | @live path i zero one below =>
      obtain ⟨-, -, row, found, cells⟩ := ref_node_facts below
      obtain ⟨e, entry, ok⟩ := rowOk_get cells n
      simp only [refCellOk, Bool.and_eq_true, decide_eq_true_eq, beq_iff_eq] at ok
      obtain ⟨⟨next, emit⟩, flag⟩ := ok
      obtain ⟨there, emitted⟩ := (AtNode.live below).steps (nibbleBits n)
      have row_ : huffDecodeTable[q.toNat]? = some row := by
        rw [← id]
        exact found
      refine ⟨row, e, row_, entry, ⟨_, there, next.symm⟩, emit.trans emitted.symm, ?_⟩
      rw [step, ← there.mem_refAccepting, ← decide_eq_decide]
      exact flag

end HpackHuffman
