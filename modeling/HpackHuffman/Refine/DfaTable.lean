import HpackHuffman.HpackTree
import HpackHuffman.Spec.Dfa
import HpackHuffman.Lowstar.DfaTables

/-! # The generated table is the automaton

The automaton's live states are the internal nodes of the code tree. The table
is checked node by node against steps on the tree, which cost one branch a bit,
and every step on the tree is a step of the automaton.
-/

namespace HpackHuffman

open Bits Lowstar

abbrev Node := CodeTree (Nat × Nat) Sym

/-- One bit from an internal node; `none` is the fail state. -/
def treeStep : Option Node → Bool → Option Node × List Byte
  | some (.node _ zero one), b =>
      match if b then one else zero with
      | .leaf s => if s = eosIndex then (none, []) else (some hpackTree, [s.toByte])
      | .node i zero one => (some (.node i zero one), [])
  | p, _ => (p, [])

def treeSteps : Option Node → List Bool → Option Node × List Byte
  | p, [] => (p, [])
  | p, b :: tl =>
      let (p₁, o₁) := treeStep p b
      let (p₂, o₂) := treeSteps p₁ tl
      (p₂, o₁ ++ o₂)

/-- The internal node of the tree at which the automaton is in state `s`. -/
inductive AtNode : DState → Option Node → Prop where
  | fail : AtNode .fail none
  | live {path : List Bool} {i : Nat × Nat} {zero one : Node}
      (below : hpackTree.walk path = some (.node i zero one)) :
      AtNode (.live (valueOf path) path.length) (some (.node i zero one))

namespace AtNode

theorem init : AtNode dfaInit (some hpackTree) := @AtNode.live [] _ _ _ rfl

theorem step {s : DState} {p : Option Node} (here : AtNode s p) (b : Bool) :
    AtNode (bitStep hpack s b).1 (treeStep p b).1 ∧
      (bitStep hpack s b).2.toList = (treeStep p b).2 := by
  cases here with
  | fail => exact ⟨.fail, rfl⟩
  | @live path i zero one below =>
      have child : hpackTree.walk (path ++ [b]) = some (if b then one else zero) := by
        rw [CodeTree.walk_append, below, Option.bind_some, CodeTree.walk, CodeTree.walk_nil]
      have grown : valueOf path * 2 + (if b then 1 else 0) = valueOf (path ++ [b]) :=
        (valueOf_snoc path b).symm
      have length : path.length + 1 = (path ++ [b]).length := by simp
      simp only [bitStep, treeStep, grown, length]
      generalize (if b then one else zero) = next at child ⊢
      cases next with
      | leaf s =>
          have word := (hpackTree_spells _ _).mp child
          rw [(hpack_valid.lookupV_iff _ _).mpr word.symm]
          by_cases eos : s = eosIndex
          · simp only [eos, if_true]
            exact ⟨.fail, rfl⟩
          · simp only [eos, if_false]
            exact ⟨init, rfl⟩
      | node j zero' one' =>
          have missing : lookupV hpack (valueOf (path ++ [b])) (path ++ [b]).length = none := by
            rw [hpack_valid.lookupV_none_iff]
            intro s word
            have leaf := (hpackTree_spells _ s).mpr word.symm
            simp [child] at leaf
          rw [missing]
          exact ⟨.live child, rfl⟩

theorem steps {s : DState} {p : Option Node} (here : AtNode s p) (bs : List Bool) :
    AtNode (bitsStep hpack s bs).1 (treeSteps p bs).1 ∧
      (bitsStep hpack s bs).2 = (treeSteps p bs).2 := by
  induction bs generalizing s p with
  | nil => exact ⟨here, rfl⟩
  | cons b bs ih =>
      obtain ⟨next, emitted⟩ := here.step b
      obtain ⟨final, rest⟩ := ih next
      simp only [bitsStep, treeSteps, emitted, rest]
      exact ⟨final, trivial⟩

end AtNode

/-- The state at id `i`; ids from `dfaNStates` on are the fail state. -/
def stateOf (i : Nat) : DState :=
  match dfaStateKeys[i]? with
  | some k => .live (k / 32) (k % 32)
  | none => .fail

def cellNext (c : UInt32) : Nat := c.toNat / 65536

def cellEmit (c : UInt32) : List Byte :=
  if c.toNat / 256 % 256 = 1 then [UInt8.ofNat (c.toNat % 256)] else []

def dfaChunkList (k : Nat) : List UInt32 :=
  match k with
  | 0 => dfaChunk0
  | 1 => dfaChunk1
  | 2 => dfaChunk2
  | 3 => dfaChunk3
  | 4 => dfaChunk4
  | 5 => dfaChunk5
  | 6 => dfaChunk6
  | 7 => dfaChunk7
  | 8 => dfaChunk8
  | 9 => dfaChunk9
  | 10 => dfaChunk10
  | 11 => dfaChunk11
  | 12 => dfaChunk12
  | 13 => dfaChunk13
  | 14 => dfaChunk14
  | _ => dfaChunk15

/-- The id of a position; only internal nodes and failure are ever asked for theirs. -/
def dfaId : Option Node → Nat
  | some (.node i _ _) => i.1
  | _ => dfaNStates

def cellOk (t : Node) (n : Nibble) (c : UInt32) : Bool :=
  let r := treeSteps (some t) (nibbleBits n)
  decide (cellNext c = dfaId r.1) && decide (cellEmit c = r.2) &&
    (decide (cellNext c ≠ dfaNStates) || decide (cellEmit c = []))

/-- The sixteen cells of state `i`. -/
def cellRow (i : Nat) : List UInt32 := ((dfaChunkList (i / 16)).drop (i % 16 * 16)).take 16

def rowOk {γ : Type} (ok : Nibble → γ → Bool) (row : List γ) : Bool :=
  decide (row.length = 16) && ((List.finRange 16).zip row).all fun (n, c) => ok n c

/-- A node's id names its state, and the state's cells and accept flag are the automaton's. -/
def nodeOk (p : Nat × Nat) : Node → Bool
  | .leaf _ => true
  | .node i zero one =>
      decide (stateOf i.1 = .live p.1 p.2) &&
        decide (dfaAccept[i.1]? = some (if validPaddingV p.1 p.2 then 1 else 0)) &&
        rowOk (cellOk (.node i zero one)) (cellRow i.1)

/-- The key of id `i` leads to the node labelled `i`. -/
def keyOk (key i : Nat) : Bool :=
  decide (key / 32 < 2 ^ (key % 32)) &&
    match hpackTree.walk (codeToBits (key / 32) (key % 32)) with
    | some (.node j _ _) => decide (j.1 = i)
    | _ => false

theorem nodes_ok : hpackTree.checkAlong accumulate nodeOk (0, 0) = true := by decide +kernel

theorem keys_ok : dfaStateKeys.zipIdx.all (fun (key, i) => keyOk key i) = true := by decide +kernel

theorem length_dfaStateKeys : dfaStateKeys.length = dfaNStates := by decide +kernel

theorem stateOf_ge {i : Nat} (outside : dfaNStates ≤ i) : stateOf i = .fail := by
  rw [stateOf, List.getElem?_eq_none (by rwa [length_dfaStateKeys])]

theorem lt_of_stateOf_live {i a n : Nat} (state : stateOf i = .live a n) : i < dfaNStates := by
  by_contra outside
  rw [stateOf_ge (by omega)] at state
  exact DState.noConfusion state

theorem rowOk_get {γ : Type} {ok : Nibble → γ → Bool} {row : List γ} (checked : rowOk ok row = true)
    (n : Nibble) : ∃ c, row[n.val]? = some c ∧ ok n c = true := by
  simp only [rowOk, Bool.and_eq_true, decide_eq_true_eq, List.all_eq_true, Prod.forall] at checked
  obtain ⟨length, all⟩ := checked
  have inside : n.val < row.length := by rw [length]; exact n.isLt
  refine ⟨row[n.val], List.getElem?_eq_getElem inside, all n row[n.val] ?_⟩
  rw [List.mem_iff_getElem]
  exact ⟨n.val, by simp [length], by simp⟩

/-- The facts the check establishes at an internal node. -/
theorem node_facts {path : List Bool} {i : Nat × Nat} {zero one : Node}
    (below : hpackTree.walk path = some (.node i zero one)) :
    stateOf i.1 = .live (valueOf path) path.length ∧
      dfaAccept[i.1]? = some (if validPaddingV (valueOf path) path.length then 1 else 0) ∧
      rowOk (cellOk (.node i zero one)) (cellRow i.1) = true := by
  have ok := checkAlong_at nodes_ok below
  simp only [nodeOk, Bool.and_eq_true, decide_eq_true_eq] at ok
  exact ⟨ok.1.1, ok.1.2, ok.2⟩

/-- Every id below `dfaNStates` labels the node of its state. -/
theorem node_of_id {i : Nat} (inside : i < dfaNStates) :
    ∃ path r zero one, hpackTree.walk path = some (.node (i, r) zero one) ∧
      stateOf i = .live (valueOf path) path.length := by
  have inside' : i < dfaStateKeys.length := by rwa [length_dfaStateKeys]
  have ok := List.all_eq_true.mp keys_ok (dfaStateKeys[i], i)
    (List.mem_zipIdx_iff_getElem?.mpr (List.getElem?_eq_getElem inside'))
  simp only [keyOk, Bool.and_eq_true, decide_eq_true_eq] at ok
  obtain ⟨fits, label⟩ := ok
  split at label
  case h_1 j zero one below =>
      obtain ⟨j, r⟩ := j
      obtain rfl : j = i := of_decide_eq_true label
      refine ⟨_, r, zero, one, below, ?_⟩
      rw [stateOf, List.getElem?_eq_getElem inside', valueOf_codeToBits fits, length_codeToBits]
  case h_2 => simp at label

/-- The id of a position names the automaton's state there. -/
theorem AtNode.stateOf_dfaId {s : DState} {p : Option Node} (here : AtNode s p) :
    dfaId p ≤ dfaNStates ∧ stateOf (dfaId p) = s := by
  cases here with
  | fail => exact ⟨Nat.le_refl _, stateOf_ge (Nat.le_refl _)⟩
  | live below =>
      have state := (node_facts below).1
      exact ⟨Nat.le_of_lt (lt_of_stateOf_live state), state⟩

/-- Every cell of the table is the automaton's step, and a failing cell emits nothing. -/
theorem chunk_table_ok {i : Nat} (inside : i < dfaNStates) (n : Nibble) :
    ∃ c, (dfaChunkList (i / 16))[i % 16 * 16 + n.val]? = some c ∧ cellNext c ≤ dfaNStates ∧
      stateOf (cellNext c) = (step hpack (stateOf i) n).1 ∧
      cellEmit c = (step hpack (stateOf i) n).2 ∧
      (cellNext c = dfaNStates → cellEmit c = []) := by
  obtain ⟨path, r, zero, one, below, state⟩ := node_of_id inside
  obtain ⟨c, found, ok⟩ := rowOk_get (node_facts below).2.2 n
  simp only [cellRow, List.getElem?_take_of_lt n.isLt, List.getElem?_drop] at found
  simp only [cellOk, Bool.and_eq_true, Bool.or_eq_true, decide_eq_true_eq] at ok
  obtain ⟨⟨next, emit⟩, silent⟩ := ok
  obtain ⟨at_, emitted⟩ := (AtNode.live below).steps (nibbleBits n)
  obtain ⟨le, named⟩ := at_.stateOf_dfaId
  refine ⟨c, found, ?_, ?_, ?_, silent.resolve_left ∘ not_not_intro⟩
  · rw [next]
    exact le
  · rw [next, named, state]
    rfl
  · rw [emit, ← emitted, state]
    rfl

/-- Every accept flag is the padding rule. -/
theorem table_accept_ok {i : Nat} (inside : i < dfaNStates) :
    dfaAccept[i]? = some (if isAccepting (stateOf i) then 1 else 0) := by
  obtain ⟨path, r, zero, one, below, state⟩ := node_of_id inside
  rw [state]
  exact (node_facts below).2.1

end HpackHuffman
