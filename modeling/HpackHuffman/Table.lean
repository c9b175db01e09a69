import HpackHuffman.Util.Bits
import HpackHuffman.Util.PrefixCode

/-! # The HPACK Huffman code table

The transcribed Appendix B table, and the invariants which make any table of 257
entries a prefix code. The codec reads its table through `Table`, so a result
about the specification holds for every table with those invariants.
-/

namespace HpackHuffman

open Bits

/-- A bit pattern `code`, right-aligned, of width `len`. -/
structure Entry where
  code : Nat
  len : Nat
  deriving DecidableEq, Repr

/-- The 257 entries by symbol: the bytes, then EOS. -/
def hpackTable : List Entry :=
  [⟨8184, 13⟩, ⟨8388568, 23⟩, ⟨268435426, 28⟩, ⟨268435427, 28⟩, ⟨268435428, 28⟩, ⟨268435429, 28⟩,
   ⟨268435430, 28⟩, ⟨268435431, 28⟩, ⟨268435432, 28⟩, ⟨16777194, 24⟩, ⟨1073741820, 30⟩,
   ⟨268435433, 28⟩, ⟨268435434, 28⟩, ⟨1073741821, 30⟩, ⟨268435435, 28⟩, ⟨268435436, 28⟩,
   ⟨268435437, 28⟩, ⟨268435438, 28⟩, ⟨268435439, 28⟩, ⟨268435440, 28⟩, ⟨268435441, 28⟩,
   ⟨268435442, 28⟩, ⟨1073741822, 30⟩, ⟨268435443, 28⟩, ⟨268435444, 28⟩, ⟨268435445, 28⟩,
   ⟨268435446, 28⟩, ⟨268435447, 28⟩, ⟨268435448, 28⟩, ⟨268435449, 28⟩, ⟨268435450, 28⟩,
   ⟨268435451, 28⟩, ⟨20, 6⟩, ⟨1016, 10⟩, ⟨1017, 10⟩, ⟨4090, 12⟩, ⟨8185, 13⟩, ⟨21, 6⟩, ⟨248, 8⟩,
   ⟨2042, 11⟩, ⟨1018, 10⟩, ⟨1019, 10⟩, ⟨249, 8⟩, ⟨2043, 11⟩, ⟨250, 8⟩, ⟨22, 6⟩, ⟨23, 6⟩, ⟨24, 6⟩,
   ⟨0, 5⟩, ⟨1, 5⟩, ⟨2, 5⟩, ⟨25, 6⟩, ⟨26, 6⟩, ⟨27, 6⟩, ⟨28, 6⟩, ⟨29, 6⟩, ⟨30, 6⟩, ⟨31, 6⟩, ⟨92, 7⟩,
   ⟨251, 8⟩, ⟨32764, 15⟩, ⟨32, 6⟩, ⟨4091, 12⟩, ⟨1020, 10⟩, ⟨8186, 13⟩, ⟨33, 6⟩, ⟨93, 7⟩, ⟨94, 7⟩,
   ⟨95, 7⟩, ⟨96, 7⟩, ⟨97, 7⟩, ⟨98, 7⟩, ⟨99, 7⟩, ⟨100, 7⟩, ⟨101, 7⟩, ⟨102, 7⟩, ⟨103, 7⟩, ⟨104, 7⟩,
   ⟨105, 7⟩, ⟨106, 7⟩, ⟨107, 7⟩, ⟨108, 7⟩, ⟨109, 7⟩, ⟨110, 7⟩, ⟨111, 7⟩, ⟨112, 7⟩, ⟨113, 7⟩,
   ⟨114, 7⟩, ⟨252, 8⟩, ⟨115, 7⟩, ⟨253, 8⟩, ⟨8187, 13⟩, ⟨524272, 19⟩, ⟨8188, 13⟩, ⟨16380, 14⟩,
   ⟨34, 6⟩, ⟨32765, 15⟩, ⟨3, 5⟩, ⟨35, 6⟩, ⟨4, 5⟩, ⟨36, 6⟩, ⟨5, 5⟩, ⟨37, 6⟩, ⟨38, 6⟩, ⟨39, 6⟩,
   ⟨6, 5⟩, ⟨116, 7⟩, ⟨117, 7⟩, ⟨40, 6⟩, ⟨41, 6⟩, ⟨42, 6⟩, ⟨7, 5⟩, ⟨43, 6⟩, ⟨118, 7⟩, ⟨44, 6⟩,
   ⟨8, 5⟩, ⟨9, 5⟩, ⟨45, 6⟩, ⟨119, 7⟩, ⟨120, 7⟩, ⟨121, 7⟩, ⟨122, 7⟩, ⟨123, 7⟩, ⟨32766, 15⟩,
   ⟨2044, 11⟩, ⟨16381, 14⟩, ⟨8189, 13⟩, ⟨268435452, 28⟩, ⟨1048550, 20⟩, ⟨4194258, 22⟩,
   ⟨1048551, 20⟩, ⟨1048552, 20⟩, ⟨4194259, 22⟩, ⟨4194260, 22⟩, ⟨4194261, 22⟩, ⟨8388569, 23⟩,
   ⟨4194262, 22⟩, ⟨8388570, 23⟩, ⟨8388571, 23⟩, ⟨8388572, 23⟩, ⟨8388573, 23⟩, ⟨8388574, 23⟩,
   ⟨16777195, 24⟩, ⟨8388575, 23⟩, ⟨16777196, 24⟩, ⟨16777197, 24⟩, ⟨4194263, 22⟩, ⟨8388576, 23⟩,
   ⟨16777198, 24⟩, ⟨8388577, 23⟩, ⟨8388578, 23⟩, ⟨8388579, 23⟩, ⟨8388580, 23⟩, ⟨2097116, 21⟩,
   ⟨4194264, 22⟩, ⟨8388581, 23⟩, ⟨4194265, 22⟩, ⟨8388582, 23⟩, ⟨8388583, 23⟩, ⟨16777199, 24⟩,
   ⟨4194266, 22⟩, ⟨2097117, 21⟩, ⟨1048553, 20⟩, ⟨4194267, 22⟩, ⟨4194268, 22⟩, ⟨8388584, 23⟩,
   ⟨8388585, 23⟩, ⟨2097118, 21⟩, ⟨8388586, 23⟩, ⟨4194269, 22⟩, ⟨4194270, 22⟩, ⟨16777200, 24⟩,
   ⟨2097119, 21⟩, ⟨4194271, 22⟩, ⟨8388587, 23⟩, ⟨8388588, 23⟩, ⟨2097120, 21⟩, ⟨2097121, 21⟩,
   ⟨4194272, 22⟩, ⟨2097122, 21⟩, ⟨8388589, 23⟩, ⟨4194273, 22⟩, ⟨8388590, 23⟩, ⟨8388591, 23⟩,
   ⟨1048554, 20⟩, ⟨4194274, 22⟩, ⟨4194275, 22⟩, ⟨4194276, 22⟩, ⟨8388592, 23⟩, ⟨4194277, 22⟩,
   ⟨4194278, 22⟩, ⟨8388593, 23⟩, ⟨67108832, 26⟩, ⟨67108833, 26⟩, ⟨1048555, 20⟩, ⟨524273, 19⟩,
   ⟨4194279, 22⟩, ⟨8388594, 23⟩, ⟨4194280, 22⟩, ⟨33554412, 25⟩, ⟨67108834, 26⟩, ⟨67108835, 26⟩,
   ⟨67108836, 26⟩, ⟨134217694, 27⟩, ⟨134217695, 27⟩, ⟨67108837, 26⟩, ⟨16777201, 24⟩,
   ⟨33554413, 25⟩, ⟨524274, 19⟩, ⟨2097123, 21⟩, ⟨67108838, 26⟩, ⟨134217696, 27⟩, ⟨134217697, 27⟩,
   ⟨67108839, 26⟩, ⟨134217698, 27⟩, ⟨16777202, 24⟩, ⟨2097124, 21⟩, ⟨2097125, 21⟩, ⟨67108840, 26⟩,
   ⟨67108841, 26⟩, ⟨268435453, 28⟩, ⟨134217699, 27⟩, ⟨134217700, 27⟩, ⟨134217701, 27⟩,
   ⟨1048556, 20⟩, ⟨16777203, 24⟩, ⟨1048557, 20⟩, ⟨2097126, 21⟩, ⟨4194281, 22⟩, ⟨2097127, 21⟩,
   ⟨2097128, 21⟩, ⟨8388595, 23⟩, ⟨4194282, 22⟩, ⟨4194283, 22⟩, ⟨33554414, 25⟩, ⟨33554415, 25⟩,
   ⟨16777204, 24⟩, ⟨16777205, 24⟩, ⟨67108842, 26⟩, ⟨8388596, 23⟩, ⟨67108843, 26⟩, ⟨134217702, 27⟩,
   ⟨67108844, 26⟩, ⟨67108845, 26⟩, ⟨134217703, 27⟩, ⟨134217704, 27⟩, ⟨134217705, 27⟩,
   ⟨134217706, 27⟩, ⟨134217707, 27⟩, ⟨268435454, 28⟩, ⟨134217708, 27⟩, ⟨134217709, 27⟩,
   ⟨134217710, 27⟩, ⟨134217711, 27⟩, ⟨134217712, 27⟩, ⟨67108846, 26⟩, ⟨1073741823, 30⟩]

/-- A code table: one entry for each byte, and one for EOS. -/
structure Table where
  entries : List Entry
  complete : entries.length = 257

def hpack : Table := ⟨hpackTable, by decide +kernel⟩

/-- A symbol index: bytes are 0..255, 256 is EOS. -/
abbrev Sym := Fin 257

-- Numerals of `Sym` stand for symbols.
instance symCount : NeZero 257 := ⟨by decide⟩

abbrev Byte := UInt8

def eosIndex : Sym := 256

def entryAt (T : Table) (s : Sym) : Entry := T.entries.get (Fin.cast T.complete.symm s)

def codeOf (T : Table) (s : Sym) : Nat := (entryAt T s).code

def lenOf (T : Table) (s : Sym) : Nat := (entryAt T s).len

/-- The bit string of a symbol's code. -/
def codeBitsOf (T : Table) (s : Sym) : List Bool := codeToBits (codeOf T s) (lenOf T s)

/-- Neither code begins the other, in the arithmetic of right-aligned codes. -/
def noPrefix (e₁ e₂ : Entry) : Bool :=
  if e₁.len ≤ e₂.len then e₂.code / 2 ^ (e₂.len - e₁.len) != e₁.code
  else e₁.code / 2 ^ (e₁.len - e₂.len) != e₂.code

def okAgainst (e : Entry) : List Entry → Bool
  | [] => true
  | x :: tl => noPrefix e x && okAgainst e tl

def prefixFree : List Entry → Bool
  | [] => true
  | x :: tl => okAgainst x tl && prefixFree tl

/-- Code length within the RFC's band. -/
def lenInRange (e : Entry) : Bool := decide (5 ≤ e.len) && decide (e.len ≤ 30)

/-- Code fits in its own bit-length. -/
def fits (e : Entry) : Bool := decide (e.code < 2 ^ e.len)

def posLen (e : Entry) : Bool := decide (e.len ≥ 1)

theorem noPrefix_symm {e₁ e₂ : Entry} (h : noPrefix e₁ e₂) : noPrefix e₂ e₁ := by
  rcases Nat.lt_trichotomy e₁.len e₂.len with lt | eq | gt
  · simpa [noPrefix, Nat.le_of_lt lt, Nat.not_le.mpr lt] using h
  · simp only [noPrefix, eq, le_refl, if_true, Nat.sub_self, Nat.pow_zero, Nat.div_one,
      bne_iff_ne] at h ⊢
    exact h.symm
  · simpa [noPrefix, Nat.le_of_lt gt, Nat.not_le.mpr gt] using h

/-- The shorter code `e₁` does not begin `e₂`. -/
def noPrefixLe (e₁ e₂ : Entry) : Prop :=
  e₁.len ≤ e₂.len → e₂.code / 2 ^ (e₂.len - e₁.len) ≠ e₁.code

theorem noPrefix_of_le {e₁ e₂ : Entry} (h : noPrefixLe e₁ e₂) (h' : noPrefixLe e₂ e₁) :
    noPrefix e₁ e₂ := by
  unfold noPrefix
  split
  case isTrue le => exact bne_iff_ne.mpr (h le)
  case isFalse gt => exact bne_iff_ne.mpr (h' (by omega))

theorem okAgainst_iff (e : Entry) (l : List Entry) :
    okAgainst e l = true ↔ ∀ x ∈ l, noPrefix e x = true := by
  induction l with
  | nil => simp [okAgainst]
  | cons x tl ih => simp [okAgainst, ih]

theorem prefixFree_iff (l : List Entry) :
    prefixFree l = true ↔ l.Pairwise (fun e₁ e₂ => noPrefix e₁ e₂ = true) := by
  induction l with
  | nil => simp [prefixFree]
  | cons x tl ih => simp [prefixFree, okAgainst_iff, ih]

namespace Table

/-- The invariants under which a table is a prefix code. -/
structure Valid (T : Table) : Prop where
  prefixFree : prefixFree T.entries = true
  fits : T.entries.all fits = true
  posLen : T.entries.all posLen = true

variable {T : Table} (valid : T.Valid)

include valid in

theorem Valid.code_lt (s : Sym) : codeOf T s < 2 ^ lenOf T s := by
  have all := List.all_eq_true.mp valid.fits (entryAt T s) (List.get_mem _ _)
  exact of_decide_eq_true all

include valid in
theorem Valid.len_pos (s : Sym) : 0 < lenOf T s := by
  have all := List.all_eq_true.mp valid.posLen (entryAt T s) (List.get_mem _ _)
  exact of_decide_eq_true all

include valid in
theorem Valid.noPrefix {s t : Sym} (distinct : s ≠ t) :
    noPrefix (entryAt T s) (entryAt T t) = true := by
  have pairs := List.pairwise_iff_get.mp ((prefixFree_iff T.entries).mp valid.prefixFree)
  cases Nat.lt_or_gt_of_ne (Fin.val_ne_of_ne distinct) with
  | inl lt => exact pairs _ _ lt
  | inr gt => exact noPrefix_symm (pairs _ _ gt)

include valid in
/-- The arithmetic form of prefix-freeness excludes prefixes of bit strings. -/
theorem Valid.eq_of_prefix {s t : Sym} (start : codeBitsOf T s <+: codeBitsOf T t) : s = t := by
  by_contra distinct
  obtain ⟨suf, split⟩ := start
  have lengths : lenOf T s + suf.length = lenOf T t := by
    simpa [codeBitsOf] using congrArg List.length split
  have top := valueOf_code_prefix (valid.code_lt t) split
  rw [codeBitsOf, valueOf_codeToBits (valid.code_lt s)] at top
  have free := valid.noPrefix distinct
  have le : (entryAt T s).len ≤ (entryAt T t).len := by
    simp only [lenOf] at lengths
    omega
  have width : (entryAt T t).len - (entryAt T s).len = suf.length := by
    simp only [lenOf] at lengths
    omega
  rw [HpackHuffman.noPrefix, if_pos le, width] at free
  simp only [codeOf] at top
  simp [top] at free

/-- Conversely, codes whose bit strings never begin one another pass the arithmetic check. -/
theorem valid_of_words (allFit : T.entries.all HpackHuffman.fits = true)
    (allPos : T.entries.all HpackHuffman.posLen = true)
    (words : ∀ s t, codeBitsOf T s <+: codeBitsOf T t → s = t) : T.Valid where
  fits := allFit
  posLen := allPos
  prefixFree := by
    have apart : ∀ s t, s ≠ t → noPrefixLe (entryAt T s) (entryAt T t) := by
      intro s t distinct le same
      have split := codeToBits_split (entryAt T t).code (entryAt T s).len
        ((entryAt T t).len - (entryAt T s).len)
      rw [Nat.add_sub_cancel' le, same] at split
      exact distinct (words s t ⟨_, split.symm⟩)
    refine (prefixFree_iff T.entries).mpr (List.pairwise_iff_get.mpr fun i j lt => ?_)
    have distinct : Fin.cast T.complete i ≠ Fin.cast T.complete j := by
      intro same
      exact absurd (congrArg Fin.val same) (Nat.ne_of_lt lt)
    exact noPrefix_of_le (apart _ _ distinct) (apart _ _ distinct.symm)

/-- The prefix code of a valid table. -/
def Valid.code : PrefixCode Sym Bool where
  word := codeBitsOf T
  word_ne_nil s := by
    have pos := valid.len_pos s
    rw [← List.length_pos_iff]
    simpa [codeBitsOf] using pos
  eq_of_prefix := valid.eq_of_prefix

end Table

theorem entries_get (T : Table) (s : Sym) : T.entries[s.val]? = some (entryAt T s) :=
  List.getElem?_eq_getElem _

theorem all_entries {p : Entry → Bool} {T : Table} :
    T.entries.all p = true ↔ ∀ s, p (entryAt T s) = true := by
  rw [List.all_eq_true]
  constructor
  · intro all s
    exact all _ (List.get_mem _ _)
  · intro all e inside
    obtain ⟨i, here⟩ := List.mem_iff_getElem?.mp inside
    have lt : i < 257 := T.complete ▸ (List.getElem?_eq_some_iff.mp here).1
    rw [entries_get T ⟨i, lt⟩] at here
    exact Option.some.inj here ▸ all ⟨i, lt⟩

/-- The table is a prefix code of the RFC's shape, as bit strings: words of five to thirty bits,
    of which EOS is thirty ones. -/
structure RfcCode (T : Table) : Prop where
  lengths : ∀ s, 5 ≤ lenOf T s ∧ lenOf T s ≤ 30
  fits : ∀ s, codeOf T s < 2 ^ lenOf T s
  words : ∀ s t, codeBitsOf T s <+: codeBitsOf T t → s = t
  eos : codeBitsOf T eosIndex = List.replicate 30 true

theorem RfcCode.valid {T : Table} (rfc : RfcCode T) : T.Valid :=
  Table.valid_of_words (all_entries.mpr fun s => decide_eq_true (rfc.fits s))
    (all_entries.mpr fun s => decide_eq_true (Nat.le_trans (by decide) (rfc.lengths s).1))
    rfc.words

/-- The value and the length of a path, as the accumulator of the greedy decoder grows them. -/
def accumulate (p : Nat × Nat) (b : Bool) : Nat × Nat := (p.1 * 2 + (if b then 1 else 0), p.2 + 1)

theorem foldl_accumulate (pre bs : List Bool) :
    bs.foldl accumulate (valueOf pre, pre.length) = (valueOf (pre ++ bs), (pre ++ bs).length) := by
  induction bs generalizing pre with
  | nil => simp
  | cons b bs ih =>
      have step : accumulate (valueOf pre, pre.length) b =
          (valueOf (pre ++ [b]), (pre ++ [b]).length) := by
        simp [accumulate, valueOf_snoc]
      rw [List.foldl_cons, step, ih]
      simp

/-- The parts of a code are codes: a division reads off its front, and the remainder is what
    is left. A bit string is the code of its own value. -/
theorem code_split :
    (∀ (c l : Nat) (pre suf : List Bool), c < 2 ^ l → pre ++ suf = codeToBits c l →
      valueOf pre = c / 2 ^ suf.length ∧
      valueOf suf = c % 2 ^ suf.length ∧
      pre = codeToBits (c / 2 ^ suf.length) pre.length ∧
      suf = codeToBits (c % 2 ^ suf.length) suf.length) ∧
    ∀ bs : List Bool, codeToBits (valueOf bs) bs.length = bs := by
  refine ⟨?_, codeToBits_valueOf⟩
  intro c l pre suf fits split
  have top := valueOf_code_prefix fits split
  have low := valueOf_code_suffix fits split
  refine ⟨top, low, ?_, ?_⟩
  · rw [← top, codeToBits_valueOf]
  · rw [← low, codeToBits_valueOf]

/-- The code of `#`, cut after its first byte. -/
theorem code_split_hash :
    valueOf (List.replicate 8 true) = 4090 / 2 ^ 4 ∧
      valueOf [true, false, true, false] = 4090 % 2 ^ 4 ∧
      List.replicate 8 true = codeToBits (4090 / 2 ^ 4) 8 ∧
      [true, false, true, false] = codeToBits (4090 % 2 ^ 4) 4 :=
  code_split.1 4090 12 (List.replicate 8 true) [true, false, true, false] (by decide) (by decide)

theorem hpack_lengths_in_range (s : Sym) : 5 ≤ lenOf hpack s ∧ lenOf hpack s ≤ 30 := by
  have all : hpackTable.all lenInRange = true := by decide +kernel
  have one := List.all_eq_true.mp all (entryAt hpack s) (List.get_mem _ _)
  simpa only [lenInRange, Bool.and_eq_true, decide_eq_true_eq, lenOf] using one

theorem hpack_eos_code : entryAt hpack eosIndex = ⟨2 ^ 30 - 1, 30⟩ := by decide +kernel

theorem eos_ones : codeBitsOf hpack eosIndex = List.replicate 30 true := by
  rw [codeBitsOf, codeOf, lenOf, hpack_eos_code, codeToBits_ones]

end HpackHuffman
