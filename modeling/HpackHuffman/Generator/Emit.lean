import HpackHuffman.Generator.Tables
import HpackHuffman.Source.Tables

/-! # From the code table to the tables of the codec

`make tables` runs two scripts over the entries of the specification. One prints the codes and
the lengths of the bytes, the other the automaton, its cells cut into chunks. The modules they
print are checked like any other: a literal has to fit its type, and the lists have the lengths
which the codec is written against.
-/

namespace HpackHuffman.Generator

open Bits
open Lowstar (dfaNStates)
open Source (Generated TablesOf dfaChunkSize dfaNChunks)

/-- Why a script ends without its module. -/
inductive Stopped where
  | exit (message : String)
  | failed (why : Failure)
  deriving DecidableEq, Repr

/-- The entries of the bytes, in order, unless one is out of range. -/
def byteTable (b : Nat) : List Entry → Except Stopped (List Entry)
  | [] => .ok []
  | e :: rest =>
      if ¬ (5 ≤ e.len ∧ e.len ≤ 30) then
        .error (.exit s!"byte {b}: length {e.len} outside RFC [5,30]")
      else if e.code ≥ 1 <<< 30 then
        .error (.exit s!"byte {b}: code {e.code} does not fit in 30 bits")
      else do
        let rest' ← byteTable (b + 1) rest
        return e :: rest'

def wrongCount (n : Nat) : Stopped :=
  .exit s!"expected 257 entries in Hpack.Huffman.Table.fst, got {n}"

/-- The codes and the lengths printed. -/
def genLowstarTables (entries : List Entry) : Except Stopped (List Nat × List Nat) :=
  if entries.length ≠ 257 then .error (wrongCount entries.length)
  else do
    let table ← byteTable 0 (entries.take 256)
    return (table.map (·.code), table.map (·.len))

def chunkSize : Nat := 256

/-- The cells in pieces of one size. -/
def chunks (cells : List Nat) : Except Stopped (List (List Nat)) :=
  if cells.length % chunkSize = 0 then
    .ok ((List.range (cells.length / chunkSize)).map fun k =>
      cells.extract (k * chunkSize) ((k + 1) * chunkSize))
  else .error (.failed .assertion)

/-- What the scripts print. -/
structure Printed where
  codes : List Nat
  lens : List Nat
  nStates : Nat
  keys : List Nat
  chunks : List (List Nat)
  accept : List Nat

def makeTables (entries : List Entry) (fuel : Nat) : Except Stopped Printed := do
  let (codes, lens) ← genLowstarTables entries
  if complete : entries.length = 257 then
    match generate ⟨entries, complete⟩ fuel with
    | .error why => .error (.failed why)
    | .ok A => do
        let pieces ← chunks A.cells
        return ⟨codes, lens, A.order.length, A.keys, pieces, A.accept⟩
  else .error (wrongCount entries.length)

/-- The literals fit, and the lengths are those the codec is written against: it names sixteen
    chunks, and its fail id is 256. -/
structure Printed.WellTyped (P : Printed) : Prop where
  codes : P.codes.length = 256 ∧ ∀ c ∈ P.codes, c < 2 ^ 32
  lens : P.lens.length = 256 ∧ ∀ l ∈ P.lens, 5 ≤ l ∧ l ≤ 30
  states : P.nStates = dfaNStates
  keys : P.keys.length = P.nStates
  chunks : P.chunks.length = dfaNChunks ∧
    ∀ cs ∈ P.chunks, cs.length = dfaChunkSize ∧ ∀ c ∈ cs, c < 2 ^ 32
  accept : P.accept.length = P.nStates ∧ ∀ v ∈ P.accept, v < 2 ^ 8

instance (P : Printed) : Decidable P.WellTyped :=
  decidable_of_iff
    ((P.codes.length = 256 ∧ ∀ c ∈ P.codes, c < 2 ^ 32) ∧
      (P.lens.length = 256 ∧ ∀ l ∈ P.lens, 5 ≤ l ∧ l ≤ 30) ∧
      P.nStates = dfaNStates ∧ P.keys.length = P.nStates ∧
      (P.chunks.length = dfaNChunks ∧
        ∀ cs ∈ P.chunks, cs.length = dfaChunkSize ∧ ∀ c ∈ cs, c < 2 ^ 32) ∧
      P.accept.length = P.nStates ∧ ∀ v ∈ P.accept, v < 2 ^ 8)
    ⟨fun ⟨codes, lens, states, keys, chunks, accept⟩ =>
        ⟨codes, lens, states, keys, chunks, accept⟩,
      fun ⟨codes, lens, states, keys, chunks, accept⟩ =>
        ⟨codes, lens, states, keys, chunks, accept⟩⟩

/-- The words of literals which fit. -/
theorem toNat_words {xs : List Nat} (fit : ∀ x ∈ xs, x < 2 ^ 8) :
    ∀ v ∈ xs.map UInt8.ofNat, v.toNat ∈ xs := by
  intro v inside
  obtain ⟨x, member, rfl⟩ := List.mem_map.mp inside
  rwa [UInt8.toNat_ofNat', Nat.mod_eq_of_lt (fit x member)]

namespace Printed

variable {P : Printed}

/-- The tables at the types they are declared with. -/
def typed (P : Printed) (ok : P.WellTyped) : Generated where
  huffCode := P.codes.map UInt32.ofNat
  huffLen := P.lens.map UInt8.ofNat
  stateKeys := P.keys
  chunk k := (P.chunks.get (Fin.cast ok.chunks.1.symm k)).map UInt32.ofNat
  accept := P.accept.map UInt8.ofNat
  length_huffCode := by rw [List.length_map, ok.codes.1]
  length_huffLen := by rw [List.length_map, ok.lens.1]
  huffLen_range l inside := ok.lens.2 _ <| toNat_words
    (fun x member => Nat.lt_of_le_of_lt (ok.lens.2 x member).2 (by decide)) l inside
  length_stateKeys := ok.keys.trans ok.states
  length_chunk k := by
    rw [List.length_map]
    exact (ok.chunks.2 _ (List.get_mem _ _)).1
  length_accept := by rw [List.length_map, ok.accept.1, ok.states]

end Printed

/-- The tables of the codec, where the scripts end and the type checker accepts what they print. -/
def codecTables (entries : List Entry) (fuel : Nat) : Option Generated :=
  match makeTables entries fuel with
  | .error _ => none
  | .ok P => if ok : P.WellTyped then some (P.typed ok) else none

/-- The cells laid out in chunks. -/
def pieces (cells : List Nat) : List (List Nat) :=
  (List.range (cells.length / chunkSize)).map fun k =>
    cells.extract (k * chunkSize) ((k + 1) * chunkSize)

/-- The modules for a code table and its automaton. -/
def printed (T : Table) (A : Automaton) : Printed where
  codes := (T.entries.take 256).map (·.code)
  lens := (T.entries.take 256).map (·.len)
  nStates := A.order.length
  keys := A.keys
  chunks := pieces A.cells
  accept := A.accept

/-- The entries of the bytes pass unchanged, or not at all. -/
theorem byteTable_iff {b : Nat} {es es' : List Entry} :
    byteTable b es = .ok es' ↔
      (∀ e ∈ es, 5 ≤ e.len ∧ e.len ≤ 30 ∧ e.code < 2 ^ 30) ∧ es' = es := by
  induction es generalizing b es' with
  | nil => simp [byteTable, eq_comm]
  | cons e rest ih =>
      unfold byteTable
      have bound : 1 <<< 30 = 2 ^ 30 := Nat.one_shiftLeft 30
      rw [bound]
      split
      case isTrue out =>
        simp only [reduceCtorEq, false_iff, List.mem_cons, forall_eq_or_imp]
        rintro ⟨⟨⟨low, high, -⟩, -⟩, -⟩
        exact out ⟨low, high⟩
      case isFalse inside =>
        obtain ⟨low, high⟩ := not_not.mp inside
        split
        case isTrue out =>
          simp only [reduceCtorEq, false_iff, List.mem_cons, forall_eq_or_imp]
          rintro ⟨⟨⟨-, -, code⟩, -⟩, -⟩
          omega
        case isFalse code =>
          cases later : byteTable (b + 1) rest with
          | error why =>
              simp only [bind, Except.bind, reduceCtorEq, false_iff, List.mem_cons,
                forall_eq_or_imp]
              rintro ⟨⟨-, all⟩, -⟩
              rw [(@ih _ rest).mpr ⟨all, rfl⟩] at later
              cases later
          | ok rest' =>
              obtain ⟨all, rfl⟩ := ih.mp later
              simp only [bind, Except.bind, pure, Except.pure, Except.ok.injEq, List.mem_cons,
                forall_eq_or_imp]
              constructor
              · intro same
                exact ⟨⟨⟨low, high, by omega⟩, all⟩, same.symm⟩
              · rintro ⟨-, same⟩
                exact same.symm

theorem makeTables_iff {T : Table} {fuel : Nat} {P : Printed} :
    makeTables T.entries fuel = .ok P ↔
      (∀ e ∈ T.entries.take 256, 5 ≤ e.len ∧ e.len ≤ 30 ∧ e.code < 2 ^ 30) ∧
        ∃ A, generate T fuel = .ok A ∧ A.cells.length % chunkSize = 0 ∧ P = printed T A := by
  have count : ¬ T.entries.length ≠ 257 := not_not.mpr T.complete
  unfold makeTables genLowstarTables
  simp only [if_neg count, dif_pos T.complete]
  cases made : byteTable 0 (T.entries.take 256) with
  | error why =>
      simp only [bind, Except.bind, reduceCtorEq, false_iff]
      rintro ⟨range, -⟩
      rw [(@byteTable_iff 0 _ (T.entries.take 256)).mpr ⟨range, rfl⟩] at made
      cases made
  | ok table =>
      obtain ⟨range, rfl⟩ := byteTable_iff.mp made
      rw [and_iff_right range]
      simp only [bind, Except.bind, pure, Except.pure]
      cases generate T fuel with
      | error why => simp
      | ok A =>
          by_cases whole : A.cells.length % chunkSize = 0
          · have cut : chunks A.cells = .ok (pieces A.cells) := if_pos whole
            simp only [cut, Except.ok.injEq, exists_eq_left', whole, true_and]
            exact eq_comm
          · have broken : chunks A.cells = .error (.failed .assertion) := if_neg whole
            simp [broken, whole]

/-- The tables of a run which met the assertions. -/
theorem tables_inv {T : Table} {order : List State} {A : Automaton}
    (made : tables T order = .ok A) :
    A.order = order ∧ (∀ st ∈ order, st.2 < 32) ∧ A.cells.length = order.length * 16 ∧
      (∀ c ∈ A.cells, c < 2 ^ 32) ∧ A.keys = order.map packKey ∧
      A.accept = order.map acceptFlag := by
  unfold tables at made
  cases max : (order.map Prod.snd).max? with
  | none => simp [max] at made
  | some maxnb =>
      simp only [max] at made
      split at made
      case isFalse => cases made
      case isTrue narrow =>
        cases cut : order.mapM (row T order.length (enumDict id order)) with
        | error why => simp [cut, bind, Except.bind] at made
        | ok rows =>
            simp only [cut, bind, Except.bind, pure, Except.pure] at made
            split at made
            case isFalse => cases made
            case isTrue asserted =>
              obtain rfl := Except.ok.inj made
              refine ⟨rfl, ?_, asserted.1, asserted.2, rfl, rfl⟩
              intro st inside
              have le := (List.max?_eq_some_iff.mp max).2 st.2 (List.mem_map_of_mem inside)
              exact Nat.lt_of_le_of_lt le narrow

section Made

variable {T : Table} {A : Automaton} {fuel : Nat}

/-- A run which ends has found its states by a search which ended. -/
theorem generate_inv (run : generate T fuel = .ok A) :
    Enumerates T A.order ∧ tables T A.order = .ok A := by
  unfold generate at run
  cases found : search T fuel with
  | none => simp [found] at run
  | some order =>
      simp only [found] at run
      obtain ⟨distinct, first, reached⟩ := Worklist.search_sound found
      obtain ⟨rfl, -⟩ := tables_inv run
      exact ⟨⟨distinct, first, reached⟩, run⟩

variable (rfc : RfcCode T)

include rfc

theorem tablesOk_of_generate (run : generate T fuel = .ok A) (few : A.order.length ≤ 256) :
    TablesOk T A := by
  obtain ⟨enum, made⟩ := generate_inv run
  obtain ⟨-, narrow, -⟩ := tables_inv made
  obtain ⟨A', made', -, ok⟩ := tables_ok rfc.valid
    (fun s => Nat.le_of_succ_le (rfc.lengths s).1) enum few narrow
  obtain rfl := Except.ok.inj (made.symm.trans made')
  exact ok

end Made

section Typed

variable {T : Table} {A : Automaton} (ok : (printed T A).WellTyped)

include ok in
theorem length_order : A.order.length = 256 := ok.states

/-- The cells of the `k`-th chunk begin at `k * 256`. -/
theorem chunk_get {k : Fin dfaNChunks} {off : Nat} {c : UInt32}
    (there : (((printed T A).typed ok).chunk k)[off]? = some c)
    (small : ∀ x ∈ A.cells, x < 2 ^ 32) :
    A.cells[dfaChunkSize * k.val + off]? = some c.toNat := by
  have piece : (printed T A).chunks.get (Fin.cast ok.chunks.1.symm k) =
      A.cells.extract (k.val * chunkSize) ((k.val + 1) * chunkSize) := by
    simp only [printed, pieces, List.get_eq_getElem, List.getElem_map, List.getElem_range]
    rfl
  rw [Printed.typed, List.getElem?_map, piece, List.extract_eq_take_drop] at there
  obtain ⟨x, here, rfl⟩ := Option.map_eq_some_iff.mp there
  rw [List.getElem?_take] at here
  split at here
  case isFalse => cases here
  case isTrue =>
    rw [List.getElem?_drop] at here
    rw [UInt32.toNat_ofNat', Nat.mod_eq_of_lt (small x (List.mem_of_getElem? here)), ← here,
      Nat.mul_comm]
    rfl

/-- An id stands for the state the key list gives for it. -/
theorem stateOf_of_id (keys : A.keys = A.order.map packKey)
    (narrow : ∀ st ∈ A.order, st.2 < 32) {s : DState} {j : Nat} (id_ : IdOf A.order s j) :
    ((printed T A).typed ok).stateOf j = s := by
  have listed : ((printed T A).typed ok).stateKeys = A.keys := rfl
  rw [Generated.stateOf, listed, keys, List.getElem?_map]
  cases s with
  | fail => rw [List.getElem?_eq_none (Nat.le_of_eq id_.symm), Option.map_none]
  | live acc nbits =>
      obtain ⟨high, low⟩ := packKey_unpack (narrow _ (List.mem_of_getElem? id_))
      rw [id_, Option.map_some]
      exact congrArg₂ DState.live high low

theorem entries_byte (T : Table) (b : Byte) :
    (T.entries.take 256)[b.toNat]? = some (entryAt T (Sym.ofByte b)) := by
  rw [List.getElem?_take, if_pos b.toNat_lt]
  exact entries_get T (Sym.ofByte b)

/-- The encoder's lists hold the codes and the lengths of the bytes. -/
theorem typed_code (b : Byte) : ∃ c, ((printed T A).typed ok).huffCode[b.toNat]? = some c ∧
    c.toNat = codeOf T (Sym.ofByte b) := by
  refine ⟨UInt32.ofNat (codeOf T (Sym.ofByte b)), ?_, ?_⟩
  · simp only [Printed.typed, printed, List.getElem?_map, entries_byte, Option.map_some]
    rfl
  · have fits := ok.codes.2 (codeOf T (Sym.ofByte b))
      (List.mem_map_of_mem (List.mem_of_getElem? (entries_byte T b)))
    rw [UInt32.toNat_ofNat', Nat.mod_eq_of_lt fits]

theorem typed_len (b : Byte) : ∃ l, ((printed T A).typed ok).huffLen[b.toNat]? = some l ∧
    l.toNat = lenOf T (Sym.ofByte b) := by
  refine ⟨UInt8.ofNat (lenOf T (Sym.ofByte b)), ?_, ?_⟩
  · simp only [Printed.typed, printed, List.getElem?_map, entries_byte, Option.map_some]
    rfl
  · have range := ok.lens.2 (lenOf T (Sym.ofByte b))
      (List.mem_map_of_mem (List.mem_of_getElem? (entries_byte T b)))
    rw [UInt8.toNat_ofNat', Nat.mod_eq_of_lt (by omega)]

/-- The tables of the script are those of the code. -/
theorem tablesOf_typed (rfc : RfcCode T) {fuel : Nat} (run : generate T fuel = .ok A) :
    TablesOf T ((printed T A).typed ok) := by
  have states := length_order ok
  obtain ⟨enum, made⟩ := generate_inv run
  obtain ⟨-, narrow, count, small, keys, accept⟩ := tables_inv made
  have table := tablesOk_of_generate rfc run (Nat.le_of_eq states)
  have here : ∀ {i : Nat} (lt : i < A.order.length),
      ((printed T A).typed ok).stateOf i = toDState (some A.order[i]) := fun lt =>
    stateOf_of_id ok keys narrow (List.getElem?_eq_getElem lt)
  refine ⟨typed_code ok, typed_len ok, ?_, ?_, ?_⟩
  · refine stateOf_of_id ok keys narrow (s := dfaInit) ?_
    obtain ⟨rest, split⟩ := enum.first
    rw [dfaInit, IdOf, ← split]
    rfl
  · intro k off c there i n flat
    have cell := chunk_get ok there small
    have inside := (List.getElem?_eq_some_iff.mp cell).1
    have few := n.isLt
    have lt : i < A.order.length := by omega
    obtain ⟨c', found, cellOk⟩ := table.cell i _ (List.getElem?_eq_getElem lt) n
    rw [flat, cell] at found
    obtain rfl := Option.some.inj found
    rw [here lt]
    exact ⟨Nat.le_trans cellOk.next.le (Nat.le_of_eq states),
      stateOf_of_id ok keys narrow cellOk.next, cellOk.emitted⟩
  · intro i inside
    have lt : i < A.order.length := by rwa [states]
    rw [here lt]
    simp only [Printed.typed, printed, accept, List.getElem?_map, List.getElem?_eq_getElem lt,
      Option.map_some, acceptFlag_eq A.order[i].1 A.order[i].2]
    rw [toDState]
    cases isAccepting (.live A.order[i].1 A.order[i].2) <;> rfl

end Typed

theorem length_nibblesToBits (ns : List Nibble) : (nibblesToBits ns).length = 4 * ns.length := by
  induction ns with
  | nil => rfl
  | cons n ns ih =>
      have four : ∀ n : Nibble, (nibbleBits n).length = 4 := by decide
      rw [nibblesToBits, List.length_append, four, ih, List.length_cons]
      omega

/-- Bits whose number is a multiple of four are a string of nibbles. -/
theorem exists_nibbles {bs : List Bool} {k : Nat} (length : bs.length = 4 * k) :
    ∃ ns, nibblesToBits ns = bs := by
  induction k generalizing bs with
  | zero => exact ⟨[], (List.length_eq_zero_iff.mp length).symm⟩
  | succ k ih =>
      match bs, length with
      | b0 :: b1 :: b2 :: b3 :: rest, length =>
          have four : ∀ b0 b1 b2 b3 : Bool, ∃ n : Nibble, nibbleBits n = [b0, b1, b2, b3] := by
            decide
          obtain ⟨n, here⟩ := four b0 b1 b2 b3
          obtain ⟨ns, there⟩ := @ih rest (by simpa [Nat.mul_succ] using length)
          exact ⟨n :: ns, by rw [nibblesToBits, here, there]; rfl⟩

section Reached

variable {T : Table} (valid : T.Valid)

/-- The bits held between two nibbles: some bytes' codes make up the rest of the nibbles. -/
theorem reached_iff {r : List Bool} (stuck : valid.code.Stuck r) :
    Worklist.Reachable (successors T) start (valueOf r, r.length) ↔
      ∃ out : List Byte, ((encodeBits T out).length + r.length) % 4 = 0 := by
  refine (reachable_iff valid.prefixFree start (valueOf r, r.length)).trans ?_
  constructor
  · rintro ⟨ns, run⟩
    rw [dfaRun_bits] at run
    have reads := (run_eq_iff valid (nibblesToBits ns) _ _).mp rfl
    change (bitsStep T dfaInit (nibblesToBits ns)).1 = .live (valueOf r) r.length at run
    rw [run] at reads
    obtain ⟨r', bits, -, -, length⟩ := reads
    refine ⟨(bitsStep T dfaInit (nibblesToBits ns)).2, ?_⟩
    rw [length, ← List.length_append, ← bits, length_nibblesToBits]
    exact Nat.mul_mod_right 4 _
  · rintro ⟨out, whole⟩
    obtain ⟨ns, bits⟩ := @exists_nibbles (encodeBits T out ++ r)
      (((encodeBits T out).length + r.length) / 4) (by rw [List.length_append]; omega)
    refine ⟨ns, ?_⟩
    have run := (run_eq_iff valid (nibblesToBits ns) (.live (valueOf r) r.length) out).mpr
      ⟨r, bits, stuck, rfl, rfl⟩
    rw [dfaRun_bits]
    exact congrArg Prod.fst run

/-- A byte's code of odd length fills up any number of bits. -/
theorem reached_of_odd {b : Byte} (odd : lenOf T (Sym.ofByte b) % 2 = 1) {r : List Bool}
    (stuck : valid.code.Stuck r) :
    Worklist.Reachable (successors T) start (valueOf r, r.length) := by
  refine (reached_iff valid stuck).mpr ?_
  have times : ∀ k, (encodeBits T (List.replicate k b)).length = k * lenOf T (Sym.ofByte b) := by
    intro k
    induction k with
    | zero => rw [Nat.zero_mul]; rfl
    | succ k ih =>
        rw [List.replicate_succ, encodeBits, List.length_append, codeBitsOf, length_codeToBits, ih,
          Nat.succ_mul, Nat.add_comm]
  -- the square of an odd number is one more than a multiple of four
  obtain ⟨m, half⟩ : ∃ m, lenOf T (Sym.ofByte b) = 2 * m + 1 :=
    ⟨lenOf T (Sym.ofByte b) / 2, by omega⟩
  refine ⟨List.replicate (3 * r.length * lenOf T (Sym.ofByte b)) b, ?_⟩
  rw [times, half]
  have square : 3 * r.length * (2 * m + 1) * (2 * m + 1) + r.length =
      4 * (3 * r.length * (m * m + m) + r.length) := by ring
  rw [square]
  exact Nat.mul_mod_right 4 _

end Reached

section Exact

variable {T : Table} (rfc : RfcCode T)

include rfc

/-- A state of more than thirty-one bits is reached where the code leaves a string without a
    codeword. -/
theorem complete_of_narrow
    (narrow : ∀ st, Worklist.Reachable (successors T) start st → st.2 < 32) {bs : List Bool}
    (length : bs.length = 30) : ∃ s, codeBitsOf T s <+: bs := by
  by_contra missing
  have stuck : rfc.valid.code.Stuck (bs ++ [false, false]) := by
    intro s start
    refine missing ⟨s, ?_⟩
    have short : (codeBitsOf T s).length ≤ bs.length := by
      rw [codeBitsOf, length_codeToBits, length]
      exact (rfc.lengths s).2
    exact List.prefix_of_prefix_length_le start (List.prefix_append _ _) short
  have path := (reached_iff rfc.valid stuck).mpr ⟨[], by simp [encodeBits, length]⟩
  have lt := narrow _ path
  simp [length] at lt

/-- The code of some byte has an odd length: 257 is not one more than a multiple of three. -/
theorem exists_odd (complete : rfc.valid.code.Complete 30) :
    ∃ b : Byte, lenOf T (Sym.ofByte b) % 2 = 1 := by
  by_contra none_
  have even : ∀ s, (rfc.valid.code.word s).length % 2 = 0 := by
    intro s
    change (codeBitsOf T s).length % 2 = 0
    by_cases eos : s = eosIndex
    · rw [eos, rfc.eos, List.length_replicate]
    · have other := not_exists.mp none_ s.toByte
      rw [Sym.ofByte_toByte eos] at other
      rw [codeBitsOf, length_codeToBits]
      omega
  have count := complete.card_of_even even
  have symbols : Fintype.card Sym = 257 := Fintype.card_fin 257
  omega

/-- Every string which waits for the rest of a codeword is found. -/
theorem length_of_complete {order : List State} (enum : Enumerates T order)
    (complete : rfc.valid.code.Complete 30) : 256 ≤ order.length := by
  obtain ⟨b, odd⟩ := exists_odd rfc complete
  obtain ⟨rs, distinct, stuck, count⟩ := complete.exists_stuck_card
  rw [Fintype.card_fin] at count
  have states : (rs.map fun r => (valueOf r, r.length)).Nodup := by
    refine distinct.map_on ?_
    intro r inR t inT same
    obtain ⟨value, length⟩ := Prod.mk.inj same
    exact eq_of_valueOf_eq length value
  have found : (rs.map fun r => (valueOf r, r.length)) ⊆ order := by
    intro st member
    obtain ⟨r, inside, rfl⟩ := List.mem_map.mp member
    exact (enum.reached _).mpr (reached_of_odd rfc.valid odd (stuck r inside))
  have le := (states.subperm found).length_le
  rw [List.length_map] at le
  omega

/-- The entries of the bytes pass the checks of the encoder's script. -/
theorem bytes_in_range :
    ∀ e ∈ T.entries.take 256, 5 ≤ e.len ∧ e.len ≤ 30 ∧ e.code < 2 ^ 30 := by
  intro e inside
  obtain ⟨i, here⟩ := List.mem_iff_getElem?.mp (List.mem_of_mem_take inside)
  have lt : i < 257 := T.complete ▸ (List.getElem?_eq_some_iff.mp here).1
  obtain rfl := Option.some.inj ((entries_get T ⟨i, lt⟩).symm.trans here)
  obtain ⟨low, high⟩ := rfc.lengths ⟨i, lt⟩
  exact ⟨low, high, Nat.lt_of_lt_of_le (rfc.fits ⟨i, lt⟩) (Nat.pow_le_pow_right (by decide) high)⟩

theorem wellTyped_printed {A : Automaton} (made : tables T A.order = .ok A)
    (count : A.order.length = 256) : (printed T A).WellTyped := by
  have range := bytes_in_range rfc
  obtain ⟨-, -, cells, small, keys, accept⟩ := tables_inv made
  have bytes : (T.entries.take 256).length = 256 := by
    rw [List.length_take, T.complete]
    rfl
  rw [count] at cells
  refine ⟨⟨?_, ?_⟩, ⟨?_, ?_⟩, count, ?_, ⟨?_, ?_⟩, ?_, ?_⟩
  · exact (List.length_map _).trans bytes
  · intro c member
    obtain ⟨e, inside, rfl⟩ := List.mem_map.mp member
    exact Nat.lt_trans (range e inside).2.2 (by decide)
  · exact (List.length_map _).trans bytes
  · intro l member
    obtain ⟨e, inside, rfl⟩ := List.mem_map.mp member
    exact ⟨(range e inside).1, (range e inside).2.1⟩
  · simp only [printed, keys, List.length_map]
  · simp only [printed, pieces, cells, List.length_map, List.length_range, chunkSize]
  · intro cs member
    obtain ⟨k, few, rfl⟩ := List.mem_map.mp member
    rw [cells, List.mem_range] at few
    simp only [chunkSize] at few
    constructor
    · rw [List.extract_eq_take_drop, List.length_take, List.length_drop, cells]
      simp only [chunkSize, dfaChunkSize]
      omega
    · intro c inside
      rw [List.extract_eq_take_drop] at inside
      exact small c (List.mem_of_mem_drop (List.mem_of_mem_take inside))
  · simp only [printed, accept, List.length_map]
  · intro v member
    simp only [printed, accept] at member
    obtain ⟨st, -, rfl⟩ := List.mem_map.mp member
    unfold acceptFlag
    split
    · decide
    · decide

/-- Where the search finds 256 states the scripts make the tables of the codec. -/
theorem codecTables_of_length {A : Automaton} {fuel : Nat} (run : generate T fuel = .ok A)
    (count : A.order.length = 256) :
    ∃ ok : (printed T A).WellTyped,
      codecTables T.entries fuel = some ((printed T A).typed ok) := by
  obtain ⟨-, made⟩ := generate_inv run
  have ok := wellTyped_printed rfc made count
  have whole : A.cells.length % chunkSize = 0 := by
    rw [(tables_inv made).2.2.1, count]
    rfl
  refine ⟨ok, ?_⟩
  simp only [codecTables, makeTables_iff.mpr ⟨bytes_in_range rfc, A, run, whole, rfl⟩, dif_pos ok]

end Exact

/-- On a code which leaves no string without a codeword the search finds 256 states. -/
theorem exists_generate {T : Table} (rfc : RfcCode T)
    (complete : ∀ bs : List Bool, bs.length = 30 → ∃ s, codeBitsOf T s <+: bs) :
    ∃ A, (∀ fuel > 256, generate T fuel = .ok A) ∧ A.order.length = 256 := by
  have full : rfc.valid.code.Complete 30 := complete
  obtain ⟨order, found, enum⟩ := search_enumerates rfc.valid full (Nat.lt_succ_self 256)
  have few := length_le_of_reachable rfc.valid full order enum.distinct fun st inside =>
    (enum.reached st).mp inside
  have narrow : ∀ st ∈ order, st.2 < 32 := by
    intro st inside
    obtain ⟨r, stuck, rfl⟩ := stuck_of_reachable rfc.valid ((enum.reached st).mp inside)
    exact Nat.lt_trans (full.length_lt stuck) (by decide)
  obtain ⟨A, made, rfl, -⟩ := tables_ok rfc.valid
    (fun s => Nat.le_of_succ_le (rfc.lengths s).1) enum few narrow
  refine ⟨A, ?_, Nat.le_antisymm few (length_of_complete rfc enum full)⟩
  intro fuel enough
  simp only [generate, search, Worklist.search_mono found enough, made]

/-- A run of the scripts which ends. -/
theorem codecTables_inv {T : Table} {fuel : Nat} {D : Generated}
    (made : codecTables T.entries fuel = some D) :
    ∃ A, ∃ ok : (printed T A).WellTyped, generate T fuel = .ok A ∧
      D = (printed T A).typed ok := by
  unfold codecTables at made
  cases scripts : makeTables T.entries fuel with
  | error why => simp [scripts] at made
  | ok P =>
      obtain ⟨-, A, run, -, rfl⟩ := makeTables_iff.mp scripts
      simp only [scripts] at made
      split at made
      case isFalse => cases made
      case isTrue ok => exact ⟨A, ok, run, (Option.some.inj made).symm⟩

/-- The scripts make tables for those codes of the RFC's shape, and only those, which leave no
    string without a codeword. -/
theorem codecTables_iff {T : Table} (rfc : RfcCode T) :
    (∃ fuel D, codecTables T.entries fuel = some D) ↔
      ∀ bs : List Bool, bs.length = 30 → ∃ s, codeBitsOf T s <+: bs := by
  constructor
  · rintro ⟨fuel, D, made⟩ bs length
    obtain ⟨A, ok, run, -⟩ := codecTables_inv made
    obtain ⟨enum, tables_⟩ := generate_inv run
    have narrow := (tables_inv tables_).2.1
    exact complete_of_narrow rfc (fun st path => narrow st ((enum.reached st).mpr path)) length
  · intro complete
    obtain ⟨A, run, count⟩ := exists_generate rfc complete
    obtain ⟨ok, tables_⟩ := codecTables_of_length rfc (run 257 (by decide)) count
    exact ⟨257, _, tables_⟩

theorem codecTables_iff_hpack :
    (∃ fuel D, codecTables hpack.entries fuel = some D) ↔
      ∀ bs : List Bool, bs.length = 30 → ∃ s, codeBitsOf hpack s <+: bs :=
  codecTables_iff rfcCode_hpack

end HpackHuffman.Generator
