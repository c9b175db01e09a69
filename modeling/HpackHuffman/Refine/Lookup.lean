import HpackHuffman.Generator.Worklist

/-! # One lookup, three ways

The specification finds a code by index. The check of the generated table walks the entries
once, and the generator keeps a dictionary in which a later entry replaces an earlier one.
Over a prefix-free table these are one function, and so are the steps built on them.
-/

namespace HpackHuffman

/-- Scan the suffix of the table which starts at `i` for the `k`-bit value `v`. -/
def findL : (l : List Entry) → (i : Nat) → i + l.length = 257 → Nat → Nat → Option Sym
  | [], _, _, _, _ => none
  | e :: tl, i, suffix, v, k =>
      have next : i + 1 + tl.length = 257 := by
        rw [List.length_cons] at suffix
        omega
      if e.len = k ∧ e.code = v then some ⟨i, by omega⟩ else findL tl (i + 1) next v k

def lookupFast (T : Table) (v k : Nat) : Option Sym :=
  findL T.entries 0 (by rw [T.complete]) v k

def bitStepFast (T : Table) : DState → Bool → DState × Option Byte
  | .fail, _ => (.fail, none)
  | .live acc nbits, b =>
      let acc' := acc * 2 + (if b then 1 else 0)
      let nbits' := nbits + 1
      match lookupFast T acc' nbits' with
      | some sy => if sy = eosIndex then (.fail, none) else (.live 0 0, some sy.toByte)
      | none => (.live acc' nbits', none)

def bitsStepFast (T : Table) : DState → List Bool → DState × List Byte
  | s, [] => (s, [])
  | s, b :: tl =>
      let (s₁, o₁) := bitStepFast T s b
      let (s₂, o₂) := bitsStepFast T s₁ tl
      (s₂, o₁.toList ++ o₂)

def stepFast (T : Table) (s : DState) (n : Nibble) : DState × List Byte :=
  bitsStepFast T s (nibbleBits n)

variable (T : Table)

/-- The pass over the suffix at `i` is the scan from `i`. -/
theorem findL_eq {l : List Entry} {i : Nat} (suffix : i + l.length = 257)
    (here : l = T.entries.drop i) (v k : Nat) : findL l i suffix v k = findV T v k i := by
  induction l generalizing i with
  | nil =>
      have last : ¬ i < 257 := by
        rw [List.length_nil] at suffix
        omega
      rw [findL, findV, dif_neg last]
  | cons e tl ih =>
      have lt : i < 257 := by
        rw [List.length_cons] at suffix
        omega
      have inside : i < T.entries.length := by
        rw [T.complete]
        exact lt
      rw [List.drop_eq_getElem_cons inside] at here
      obtain ⟨rfl, rest⟩ := List.cons.inj here
      have entry : entryAt T ⟨i, lt⟩ = T.entries[i] := rfl
      rw [findL, findV, dif_pos lt, entry, ih _ rest]

theorem lookupFast_eq (v k : Nat) : lookupFast T v k = lookupV T v k := by
  unfold lookupFast lookupV
  apply findL_eq
  rfl

theorem bitStepFast_eq (s : DState) (b : Bool) : bitStepFast T s b = bitStep T s b := by
  cases s with
  | fail => rfl
  | live acc nbits =>
      simp only [bitStepFast, lookupFast_eq]
      rfl

theorem bitsStepFast_eq (s : DState) (bs : List Bool) : bitsStepFast T s bs = bitsStep T s bs := by
  induction bs generalizing s with
  | nil => rfl
  | cons b tl ih => simp only [bitsStepFast, bitsStep, bitStepFast_eq, ih]

theorem stepFast_eq (s : DState) (n : Nibble) : stepFast T s n = step T s n :=
  bitsStepFast_eq T s (nibbleBits n)

/-- The three lookups find the same symbol, whatever is looked up, and the three bit steps and
    the two nibble steps agree in every state. -/
theorem lookups_agree {T : Table} (free : prefixFree T.entries = true) :
    (∀ v k : Nat, lookupFast T v k = lookupV T v k ∧
      Generator.bylen T (k, v) = (lookupV T v k).map Fin.val) ∧
    (∀ (s : DState) (b : Bool), bitStepFast T s b = bitStep T s b) ∧
    (∀ (s : Option Generator.State) (b : Bool),
      Generator.toDState (Generator.bitStep T s b.toNat).1 =
          (bitStep T (Generator.toDState s) b).1 ∧
        (Generator.bitStep T s b.toNat).2 =
          (bitStep T (Generator.toDState s) b).2.map UInt8.toNat) ∧
    ∀ (s : DState) (n : Nibble), stepFast T s n = step T s n := by
  refine ⟨?_, bitStepFast_eq T, Generator.bitStep_eq free, stepFast_eq T⟩
  intro v k
  exact ⟨lookupFast_eq T v k, Generator.bylen_eq free k v⟩

/-- The code table of the RFC is prefix-free. -/
theorem lookups_agree_hpack :
    (∀ v k : Nat, lookupFast hpack v k = lookupV hpack v k ∧
      Generator.bylen hpack (k, v) = (lookupV hpack v k).map Fin.val) ∧
    (∀ (s : DState) (b : Bool), bitStepFast hpack s b = bitStep hpack s b) ∧
    (∀ (s : Option Generator.State) (b : Bool),
      Generator.toDState (Generator.bitStep hpack s b.toNat).1 =
          (bitStep hpack (Generator.toDState s) b).1 ∧
        (Generator.bitStep hpack s b.toNat).2 =
          (bitStep hpack (Generator.toDState s) b).2.map UInt8.toNat) ∧
    ∀ (s : DState) (n : Nibble), stepFast hpack s n = step hpack s n :=
  lookups_agree hpack_valid.prefixFree

end HpackHuffman
