import HpackHuffman.Util.Loop
import HpackHuffman.Spec.Dfa

/-! # A decoder with bounded room

The automaton emits as much as it likes, a C decoder at most `dst_cap` bytes. An
`Answer` is what a run of the automaton amounts to in a buffer with so much room
left: whether it is accepted, and the bytes which fit.
-/

namespace HpackHuffman

structure Answer where
  accepted : Bool
  bytes : List Byte
  deriving DecidableEq

def answer (room : Nat) (run : DState × List Byte) : Answer where
  accepted := decide (run.2.length ≤ room) && isAccepting run.1
  bytes := run.2.take room

/-- What a decoder function leaves behind: its return code, `*out_len` and `dst`. -/
structure Decoded (Len : Type) where
  rc : Int32
  outLen : Len
  dst : Buffer
  deriving DecidableEq

/-- The answer still to come, told from a loop head where `written` bytes are in `dst`. -/
def Answer.decoded (a : Answer) (len : Nat → Len) (written : Nat) (dst : Buffer) : Decoded Len where
  rc := if a.accepted then 0 else -1
  outLen := len (written + a.bytes.length)
  dst := dst.write written a.bytes

variable {len : Nat → Len} {room written cap : Nat} {dst : Buffer}

theorem decoded_end (s : DState) :
    (answer room (s, [])).decoded len written dst =
      ⟨if isAccepting s then 0 else -1, len written, dst⟩ := by
  simp [answer, Answer.decoded]

theorem decoded_emit (s : DState) (b : Byte) (out : List Byte) (fits : written < cap)
    (inside : written < dst.bytes.length) :
    (answer (cap - (written + 1)) (s, out)).decoded len (written + 1) (dst.write written [b]) =
      (answer (cap - written) (s, b :: out)).decoded len written dst := by
  obtain ⟨room, rfl⟩ : ∃ room, cap = written + 1 + room := ⟨cap - (written + 1), by omega⟩
  have more : written + 1 + room - written = room + 1 := by omega
  have total : written + 1 + (out.take room).length = written + ((out.take room).length + 1) := by
    omega
  have whole : (dst.write written [b]).write (written + 1) (out.take room) =
      dst.write written (b :: out.take room) := dst.write_write inside
  simp only [Nat.add_sub_cancel_left, more, answer, Answer.decoded, List.length_cons,
    Nat.add_le_add_iff_right, List.take_succ_cons, whole, total]

theorem decoded_full (s : DState) (b : Byte) (out : List Byte) (full : cap ≤ written) :
    (answer (cap - written) (s, b :: out)).decoded len written dst = ⟨-1, len written, dst⟩ := by
  simp [answer, Answer.decoded, Nat.sub_eq_zero_of_le full]

/-- The decoder accepts `xs` exactly when the greedy decoder does and `xs` fits. -/
theorem answer_accepts_iff {T : Table} (bs : List Bool) (xs : List Byte) :
    answer room (bitsStep T dfaInit bs) = ⟨true, xs⟩ ↔
      decodeBits T bs = some xs ∧ xs.length ≤ room := by
  rw [decodeBits_eq, verdict, answer]
  cases accepts : isAccepting (bitsStep T dfaInit bs).1 with
  | false => simp
  | true =>
      simp only [Bool.and_true, Answer.mk.injEq, decide_eq_true_eq, if_true, List.nil_append,
        Option.some.injEq]
      constructor
      · rintro ⟨fits, rfl⟩
        rw [List.take_of_length_le fits]
        exact ⟨rfl, fits⟩
      · rintro ⟨rfl, fits⟩
        exact ⟨fits, List.take_of_length_le fits⟩

section Outcome

variable {T : Table} {bs : List Bool} {xs : List Byte}

theorem decoded_of_accepted (spec : decodeBits T bs = some xs) (fits : xs.length ≤ room) :
    (answer room (bitsStep T dfaInit bs)).decoded len 0 dst =
      ⟨0, len xs.length, dst.write 0 xs⟩ := by
  rw [(answer_accepts_iff bs xs).mpr ⟨spec, fits⟩, Answer.decoded, Nat.zero_add]
  rfl

theorem accepted_of_decoded
    (rc : ((answer room (bitsStep T dfaInit bs)).decoded len 0 dst).rc = 0) :
    ∃ xs, decodeBits T bs = some xs ∧ xs.length ≤ room := by
  cases run : answer room (bitsStep T dfaInit bs) with
  | mk accepted bytes =>
      cases accepted with
      | true => exact ⟨bytes, (answer_accepts_iff bs bytes).mp run⟩
      | false => simp [run, Answer.decoded] at rc

theorem decoded_of_rejected (spec : ∀ xs, decodeBits T bs = some xs → room < xs.length) :
    ((answer room (bitsStep T dfaInit bs)).decoded len 0 dst).rc = -1 := by
  cases run : answer room (bitsStep T dfaInit bs) with
  | mk accepted bytes =>
      cases accepted with
      | true =>
          obtain ⟨some_, fits⟩ := (answer_accepts_iff bs bytes).mp run
          exact absurd fits (Nat.not_le.mpr (spec bytes some_))
      | false => rfl

/-- Room for the whole run is as good as any more room. -/
theorem answer_clamp {c d : Nat} {run : DState × List Byte} (inC : run.2.length ≤ c)
    (inD : run.2.length ≤ d) : answer c run = answer d run := by
  simp only [answer, inC, inD, List.take_of_length_le]

end Outcome

end HpackHuffman
