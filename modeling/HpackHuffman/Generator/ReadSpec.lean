import HpackHuffman.Generator.Regenerate
import HpackHuffman.Util.Regex

/-! # Reading the specification

The scripts read the code table from the text of its module: they look for every place where an
entry is written, and convert the two numbers of each. What the interpreter takes for a space
and for a digit, and how long a number it converts, are parameters. On ASCII the classes are the
documented ones.
-/

namespace HpackHuffman.Generator

open Regex
open Source (Generated)

def asciiSpace (c : Char) : Bool :=
  c.toNat == 32 || (9 ≤ c.toNat && c.toNat ≤ 13) || (28 ≤ c.toNat && c.toNat ≤ 31)

def asciiDigit (c : Char) : Option Nat :=
  if 48 ≤ c.toNat ∧ c.toNat ≤ 57 then some (c.toNat - 48) else none

/-- The interpreter: its characters `\s` and `\d`, the values of digits, and the longest number
    `int` converts, if there is a limit. -/
structure Python where
  space : Char → Bool
  digit : Char → Option Nat
  maxDigits : Option Nat
  space_ascii : ∀ c : Char, c.toNat < 128 → space c = asciiSpace c
  digit_ascii : ∀ c : Char, c.toNat < 128 → digit c = asciiDigit c
  apart : ∀ c : Char, (digit c).isSome → space c = false
  maxDigits_ge : ∀ n ∈ maxDigits, 640 ≤ n

/-- An interpreter which knows ASCII only, and the default limit. -/
def asciiPython : Python where
  space c := asciiSpace c
  digit c := asciiDigit c
  maxDigits := some 4300
  space_ascii c small := rfl
  digit_ascii c small := rfl
  apart c digit := by
    simp only [asciiDigit, Option.isSome_ite] at digit
    simp only [asciiSpace, Bool.or_eq_false_iff, Bool.and_eq_false_iff, beq_eq_false_iff_ne,
      decide_eq_false_iff_not]
    omega
  maxDigits_ge := by simp

/-- Why the text is not read. -/
inductive Unread where
  | stopped (why : Stopped)
  | valueError
  deriving DecidableEq, Repr

/-- The pattern `mk\s+(\d+)\s+(\d+)\s*;`. -/
def piecesOf (space digit : Char → Bool) : List (Piece Char) :=
  [one (· == 'm'), one (· == 'k'), many1 space, group digit, many1 space, group digit, many space,
    one (· == ';')]

namespace Python

variable (py : Python)

def isDigit (c : Char) : Bool := (py.digit c).isSome

def entryPattern : List (Piece Char) := piecesOf py.space py.isDigit

def int (w : List Char) : Except Unread Nat :=
  if ∀ n ∈ py.maxDigits, w.length ≤ n then
    .ok (w.foldl (fun n c => 10 * n + (py.digit c).getD 0) 0)
  else .error .valueError

/-- The pair of numbers an entry was found with. -/
def readEntry (found : List (List Char)) : Except Unread Entry := do
  let code ← py.int (found.getD 0 [])
  let len ← py.int (found.getD 1 [])
  return ⟨code, len⟩

/-- The entries of a module. -/
def readSpec (text : List Char) : Except Unread (List Entry) :=
  let entries := findall py.entryPattern text
  if entries.length ≠ 257 then .error (.stopped (wrongCount entries.length))
  else entries.mapM py.readEntry

/-- The tables of the codec, from the text of the specification. -/
def codecTablesOfText (text : List Char) (fuel : Nat) : Option Generated :=
  match py.readSpec text with
  | .error _ => none
  | .ok entries => codecTables entries fuel

end Python

namespace Python

variable (py : Python)

theorem entryPattern_solid : Solid py.entryPattern :=
  ⟨one (· == 'm'), List.mem_cons_self, Nat.one_pos⟩

theorem starts_entryPattern (c : Char) : starts py.entryPattern c = (c == 'm') := by
  simp [entryPattern, piecesOf, starts, one]

/-- A number ends before a space or a semicolon, and a space before a digit or a semicolon. -/
theorem entryPattern_apart : Apart py.entryPattern := by
  have digit : ∀ c, py.isDigit c = true → py.space c = false := py.apart
  have space : ∀ c, py.space c = true → py.isDigit c = false := by
    intro c space
    cases taken : py.isDigit c with
    | false => rfl
    | true =>
        rw [digit c taken] at space
        cases space
  have semicolon : py.space ';' = false := py.space_ascii ';' (by decide)
  have semicolon' : py.isDigit ';' = false := by
    rw [isDigit, py.digit_ascii ';' (by decide)]
    rfl
  have last : Apart [one (· == ';')] := .fixed rfl .nil
  have gap : Apart [many py.space, one (· == ';')] := by
    apply Apart.before ⟨one (· == ';'), by simp, Nat.one_pos⟩ _ last
    intro c first
    have stop : c = ';' := by simpa [starts, one] using first
    rw [stop]
    exact semicolon
  have length : Apart [group py.isDigit, many py.space, one (· == ';')] := by
    apply Apart.before ⟨one (· == ';'), by simp, Nat.one_pos⟩ _ gap
    intro c first
    have next : py.space c = true ∨ c = ';' := by simpa [starts, one, many] using first
    cases next with
    | inl blank => exact space c blank
    | inr stop =>
        rw [stop]
        exact semicolon'
  unfold entryPattern piecesOf
  apply Apart.fixed rfl
  apply Apart.fixed rfl
  apply Apart.before ⟨group py.isDigit, by simp, Nat.one_pos⟩
  · intro c first
    exact digit c (by simpa [starts, group] using first)
  apply Apart.before ⟨many1 py.space, by simp, Nat.one_pos⟩
  · intro c first
    exact space c (by simpa [starts, many1] using first)
  apply Apart.before ⟨group py.isDigit, by simp, Nat.one_pos⟩ _ length
  intro c first
  exact digit c (by simpa [starts, group] using first)

end Python

/-- An entry as it may be written: any spaces, any way to write its numbers, and text around it
    in which no entry starts. -/
structure Row (py : Python) where
  lead : List Char
  gap₁ : List Char
  code : List Char
  gap₂ : List Char
  len : List Char
  gap₃ : List Char
  tail : List Char
  lead_inert : Inert py.entryPattern lead
  gap₁_run : (many1 py.space).Run gap₁
  code_run : (group py.isDigit).Run code
  gap₂_run : (many1 py.space).Run gap₂
  len_run : (group py.isDigit).Run len
  gap₃_run : (many py.space).Run gap₃
  tail_inert : Inert py.entryPattern tail

namespace Row

variable {py : Python}

/-- The entry, up to its semicolon. -/
def entryText (r : Row py) (rest : List Char) : List Char :=
  'm' :: 'k' :: (r.gap₁ ++ (r.code ++ (r.gap₂ ++ (r.len ++ (r.gap₃ ++ ';' :: rest)))))

def text (r : Row py) : List Char := r.lead ++ r.entryText r.tail

/-- What the scripts read the entry as. -/
def read (r : Row py) : Except Unread Entry := py.readEntry [r.code, r.len]

theorem run_one (c : Char) : (one (· == c)).Run [c] where
  items d mem := by simpa [one] using mem
  least := Nat.le_refl 1
  most m mem := by
    cases mem
    exact Nat.le_refl 1

theorem entryText_matches (r : Row py) (rest : List Char) :
    Matches py.entryPattern (r.entryText rest) [r.code, r.len] rest :=
  .piece (run_one 'm') <| .piece (run_one 'k') <| .piece r.gap₁_run <| .piece r.code_run <|
    .piece r.gap₂_run <| .piece r.len_run <| .piece r.gap₃_run <| .piece (run_one ';') <| .done rest

theorem entryText_append (r : Row py) (rest more : List Char) :
    r.entryText rest ++ more = r.entryText (rest ++ more) := by
  simp only [entryText, List.cons_append, List.append_assoc]

/-- The entries found in rows are theirs, in order. -/
theorem found (footer : List Char) (stop : Inert py.entryPattern footer) :
    ∀ rows : List (Row py), Found py.entryPattern (rows.flatMap Row.text ++ footer)
      (rows.map fun r => [r.code, r.len])
  | [] => by
      have none := Found.inert stop Found.nil
      rwa [List.append_nil] at none
  | r :: rows => by
      have later := Found.inert r.tail_inert (found footer stop rows)
      have here := Found.inert r.lead_inert (.take (r.entryText_matches _) later)
      rw [← entryText_append] at here
      simpa only [List.flatMap_cons, List.map_cons, text, List.append_assoc] using here

end Row

theorem findall_rows (py : Python) {header footer : List Char} (rows : List (Row py))
    (start : Inert py.entryPattern header) (stop : Inert py.entryPattern footer) :
    findall py.entryPattern (header ++ (rows.flatMap Row.text ++ footer)) =
      rows.map fun r => [r.code, r.len] :=
  findall_of_found py.entryPattern_apart py.entryPattern_solid
    (Found.inert start (Row.found footer stop rows))

/-- The lines of the module before the rows. -/
def specLines : List String :=
  ["module Hpack.Huffman.Table",
   "",
   "/// The HPACK Huffman code table (RFC 7541 Appendix B), as pure F* data and the",
   "/// single source of truth for the codec. Each symbol 0..255 (plus",
   "/// EOS = 256) maps to a right-aligned bit code `code` of bit-length `len`, both",
   "/// mathematical naturals. `Hpack.Huffman.Table.Properties` proves the RFC",
   "/// invariants over this data (lengths in [5,30], prefix-freeness, EOS code); the",
   "/// executable C arrays (`Hpack.Huffman.Lowstar.Tables`) are generated from it.",
   "",
   "/// A code-table entry: a bit pattern `code` of width `len` bits.",
   "type entry = \x7b code:nat; len:nat \x7d",
   "",
   "let mk (c:nat) (l:nat) : entry = \x7b code = c; len = l \x7d",
   "",
   "/// Symbol indices 0..255 are bytes; index 256 is the EOS symbol.",
   "let eos_sym : nat = 256",
   "",
   "/// The 257-entry table, indexed by symbol.",
   "let hpack_table : list entry = ["]

def specHeader : List Char := specLines.flatMap fun line => line.toList ++ ['\n']

def comment (b : Nat) : List Char :=
  if b = 256 then "  (* EOS *)\n".toList
  else "  (* sym ".toList ++ (Nat.toDigits 10 b ++ " *)\n".toList)

def specRow (b : Nat) (e : Entry) : List Char :=
  "  mk ".toList ++ Nat.toDigits 10 e.code ++ " ".toList ++ Nat.toDigits 10 e.len ++ ";".toList ++
    comment b

/-- The text of the module of a code table. -/
def specText (T : Table) : List Char :=
  specHeader ++ (T.entries.zipIdx.flatMap fun p => specRow p.2 p.1) ++ "]\n\n".toList

namespace Python

variable (py : Python) {n : Nat} {c : Char}

theorem small_of_isDigit (digit : c.isDigit = true) : 48 ≤ c.toNat ∧ c.toNat ≤ 57 := by
  simp only [Char.isDigit, Bool.and_eq_true, decide_eq_true_eq] at digit
  exact ⟨digit.1, digit.2⟩

theorem digit_of_isDigit (digit : c.isDigit = true) : py.digit c = some (c.toNat - 48) := by
  have range := small_of_isDigit digit
  rw [py.digit_ascii c (by omega), asciiDigit, if_pos range]

/-- A number is read as what was printed, unless it is longer than any limit allows. -/
theorem int_toDigits (short : (Nat.toDigits 10 n).length ≤ 640) :
    py.int (Nat.toDigits 10 n) = .ok n := by
  have allowed : ∀ m ∈ py.maxDigits, (Nat.toDigits 10 n).length ≤ m :=
    fun m limit => Nat.le_trans short (py.maxDigits_ge m limit)
  have value : (Nat.toDigits 10 n).foldl (fun n c => 10 * n + (py.digit c).getD 0) 0 =
      Nat.ofDigitChars 10 (Nat.toDigits 10 n) 0 := by
    rw [Nat.ofDigitChars_eq_foldl]
    apply List.foldl_ext
    intro n c mem
    rw [py.digit_of_isDigit (Nat.isDigit_of_mem_toDigits (by decide) (by decide) mem)]
    rfl
  rw [int, if_pos allowed, value, Nat.ofDigitChars_ten_toDigits]

theorem toDigits_run : (group py.isDigit).Run (Nat.toDigits 10 n) where
  items c mem := by
    have digit := Nat.isDigit_of_mem_toDigits (by decide) (by decide) mem
    show (py.digit c).isSome = true
    rw [py.digit_of_isDigit digit]
    rfl
  least := Nat.length_toDigits_pos
  most m mem := by cases mem

theorem blank_run : (many1 py.space).Run " ".toList where
  items c mem := by
    have blank : c = ' ' := by simpa using mem
    show py.space c = true
    rw [blank, py.space_ascii ' ' (by decide)]
    rfl
  least := Nat.le_refl 1
  most m mem := by cases mem

def asciiPattern : List (Piece Char) := piecesOf asciiSpace fun c => (asciiDigit c).isSome

/-- A check of ASCII text needs no interpreter. -/
def asciiInert (s : List Char) : Bool := s.all (fun c => c.toNat < 128) && inert asciiPattern s

theorem inert_of_ascii {s : List Char} (check : asciiInert s = true) :
    Inert py.entryPattern s := by
  simp only [asciiInert, Bool.and_eq_true, List.all_eq_true, decide_eq_true_eq] at check
  obtain ⟨ascii, none⟩ := check
  have space : Alike s (many1 py.space) (many1 asciiSpace) :=
    ⟨rfl, rfl, fun c mem => py.space_ascii c (ascii c mem)⟩
  have gap : Alike s (many py.space) (many asciiSpace) :=
    ⟨rfl, rfl, fun c mem => py.space_ascii c (ascii c mem)⟩
  have digit : Alike s (group py.isDigit) (group fun c => (asciiDigit c).isSome) :=
    ⟨rfl, rfl, fun c mem => congrArg Option.isSome (py.digit_ascii c (ascii c mem))⟩
  have same : ∀ P : Piece Char, Alike s P P := fun P => ⟨rfl, rfl, fun c mem => rfl⟩
  have alike : List.Forall₂ (Alike s) py.entryPattern asciiPattern :=
    .cons (same _) <| .cons (same _) <| .cons space <| .cons digit <| .cons space <|
      .cons digit <| .cons gap <| .cons (same _) .nil
  apply Inert.of_inert py.entryPattern_solid
  rw [inert_congr alike, none]

theorem toDigits_inert : Inert py.entryPattern (Nat.toDigits 10 n) := by
  apply Inert.of_starts py.entryPattern_solid
  intro c mem
  have range := small_of_isDigit (Nat.isDigit_of_mem_toDigits (by decide) (by decide) mem)
  rw [py.starts_entryPattern, beq_eq_false_iff_ne]
  rintro rfl
  exact absurd range (by decide)

theorem comment_inert (b : Nat) : Inert py.entryPattern (comment b) := by
  unfold comment
  split
  · exact py.inert_of_ascii (by decide +kernel)
  · apply Inert.append (py.inert_of_ascii (by decide +kernel))
    exact py.toDigits_inert.append (py.inert_of_ascii (by decide +kernel))

theorem specHeader_inert : Inert py.entryPattern specHeader := by
  have lines : ∀ line ∈ specLines, asciiInert (line.toList ++ ['\n']) = true := by
    decide +kernel
  exact Inert.flatMap fun line mem => py.inert_of_ascii (lines line mem)

theorem specFooter_inert : Inert py.entryPattern "]\n\n".toList :=
  py.inert_of_ascii (by decide +kernel)

end Python

/-- The row of an entry. -/
def rowOf (py : Python) (b : Nat) (e : Entry) : Row py where
  lead := "  ".toList
  gap₁ := " ".toList
  code := Nat.toDigits 10 e.code
  gap₂ := " ".toList
  len := Nat.toDigits 10 e.len
  gap₃ := []
  tail := comment b
  lead_inert := py.inert_of_ascii (by decide +kernel)
  gap₁_run := py.blank_run
  code_run := py.toDigits_run
  gap₂_run := py.blank_run
  len_run := py.toDigits_run
  gap₃_run := ⟨by simp, Nat.le_refl 0, by simp [many]⟩
  tail_inert := py.comment_inert b

theorem text_rowOf (py : Python) (b : Nat) (e : Entry) : (rowOf py b e).text = specRow b e := by
  have row : (rowOf py b e).text = "  ".toList ++ ('m' :: 'k' :: (" ".toList ++
      (Nat.toDigits 10 e.code ++ (" ".toList ++ (Nat.toDigits 10 e.len ++ ([] ++ ';' ::
        comment b)))))) := rfl
  rw [row]
  unfold specRow
  simp

def rowsOf (py : Python) (T : Table) : List (Row py) :=
  T.entries.zipIdx.map fun p => rowOf py p.2 p.1

theorem specText_eq (py : Python) (T : Table) :
    specText T = specHeader ++ ((rowsOf py T).flatMap Row.text ++ "]\n\n".toList) := by
  simp only [specText, rowsOf, List.flatMap_map, text_rowOf, List.append_assoc]

/-- The two numbers of an entry, as they are printed. -/
def numbers (e : Entry) : List (List Char) := [Nat.toDigits 10 e.code, Nat.toDigits 10 e.len]

section RoundTrip

variable (py : Python) {T : Table}

/-- No number of a code of the RFC's shape has more digits than any interpreter converts. -/
theorem readEntry_numbers (rfc : RfcCode T) {e : Entry} (mem : e ∈ T.entries) :
    py.readEntry (numbers e) = .ok e := by
  have all : T.entries.all (fun e => decide (e.code < 10 ^ 10 ∧ e.len < 10 ^ 10)) = true := by
    refine all_entries.mpr fun s => decide_eq_true ?_
    obtain ⟨-, high⟩ := rfc.lengths s
    have code : codeOf T s < 2 ^ 30 :=
      Nat.lt_of_lt_of_le (rfc.fits s) (Nat.pow_le_pow_right (by decide) high)
    have wide : (2 : Nat) ^ 30 < 10 ^ 10 := by decide
    exact ⟨Nat.lt_trans code wide, Nat.lt_of_le_of_lt high (by decide)⟩
  obtain ⟨code, len⟩ := of_decide_eq_true (List.all_eq_true.mp all e mem)
  have digits : ∀ {n : Nat}, n < 10 ^ 10 → (Nat.toDigits 10 n).length ≤ 640 := fun small =>
    Nat.le_trans ((Nat.length_toDigits_le_iff (by decide) (by decide)).mpr small) (by decide)
  unfold Python.readEntry
  simp only [numbers, List.getD_cons_zero, List.getD_cons_succ, py.int_toDigits (digits code),
    py.int_toDigits (digits len)]
  rfl

theorem mapM_readEntry {es : List Entry}
    (reads : ∀ e ∈ es, py.readEntry (numbers e) = .ok e) :
    (es.map numbers).mapM py.readEntry = .ok es := by
  induction es with
  | nil => rfl
  | cons e es ih =>
      have later := ih fun d mem => reads d (List.mem_cons_of_mem _ mem)
      simp only [List.map_cons, List.mapM_cons, reads e List.mem_cons_self, later]
      rfl

theorem findall_specText (T : Table) :
    findall py.entryPattern (specText T) = T.entries.map numbers := by
  have entries : T.entries.zipIdx.map (fun p => numbers p.1) = T.entries.map numbers := by
    have first := congrArg (List.map numbers) (List.zipIdx_map_fst 0 T.entries)
    rwa [List.map_map] at first
  rw [specText_eq py, findall_rows py _ py.specHeader_inert py.specFooter_inert, rowsOf,
    List.map_map, ← entries]
  rfl

theorem readSpec_specText (rfc : RfcCode T) : py.readSpec (specText T) = .ok T.entries := by
  have count : ¬ (T.entries.map numbers).length ≠ 257 := by
    rw [List.length_map]
    exact not_not.mpr T.complete
  unfold Python.readSpec
  simp only [findall_specText, if_neg count]
  exact mapM_readEntry py fun e mem => readEntry_numbers py rfc mem

theorem codecTablesOfText_eq {text : List Char} {es : List Entry} (read : py.readSpec text = .ok es)
    (fuel : Nat) : py.codecTablesOfText text fuel = codecTables es fuel := by
  unfold Python.codecTablesOfText
  rw [read]

end RoundTrip

/-- From the text of its module the scripts make of a code what they make of its entries, in
    every interpreter. -/
theorem codecTablesOfText_specText {T : Table} (rfc : RfcCode T) (py : Python) (fuel : Nat) :
    py.codecTablesOfText (specText T) fuel = codecTables T.entries fuel :=
  codecTablesOfText_eq py (readSpec_specText py rfc) fuel

theorem codecTablesOfText_specText_hpack :
    asciiPython.codecTablesOfText (specText hpack) 257 = codecTables hpack.entries 257 :=
  codecTablesOfText_specText rfcCode_hpack asciiPython 257

/-- From the committed module of the code table come the committed tables. -/
theorem codecTablesOfText_committed (py : Python) {fuel : Nat} (enough : 256 < fuel) :
    py.codecTablesOfText (specText hpack) fuel = some Source.committed :=
  (codecTablesOfText_eq py (readSpec_specText py rfcCode_hpack) fuel).trans
    (codecTables_committed enough)

end HpackHuffman.Generator
