import HpackHuffman.Outcome

/-! # Two runs compared

A caller who retries with a bigger buffer, or with more input, compares runs which end at
different points and for different reasons. What they have in common is the run of the
automaton behind them, cut off by the capacity.
-/

namespace HpackHuffman

open Lowstar

section Capacity

variable {src : List Byte} {c₁ c₂ : Nat} {d₁ d₂ : Buffer}

theorem outcomeBytes_take (le : c₁ ≤ c₂) :
    outcomeBytes src c₁ = (outcomeBytes src c₂).take c₁ := by
  rw [outcomeBytes, outcomeBytes, List.take_take, Nat.min_eq_left le]

theorem outcome_outLen_min (le : c₁ ≤ c₂) :
    (outcome src d₁ c₁).outLen = min c₁ (outcome src d₂ c₂).outLen := by
  rw [outcome_outLen, outcome_outLen, outcomeBytes_take le, List.length_take]

theorem outcome_rc_le (le : c₁ ≤ c₂) :
    (outcome src d₁ c₁).rc = 0 ↔
      (outcome src d₂ c₂).rc = 0 ∧ (outcome src d₂ c₂).outLen ≤ c₁ := by
  rw [outcome_rc, outcome_rc]
  constructor
  · rintro ⟨xs, spec, fits⟩
    have fits' := Nat.le_trans fits le
    rw [outcome_of_accepted spec fits']
    exact ⟨⟨xs, spec, fits'⟩, fits⟩
  · rintro ⟨⟨xs, spec, fits⟩, short⟩
    rw [outcome_of_accepted spec fits] at short
    exact ⟨xs, spec, short⟩

end Capacity

/-- What a longer input makes the decoder write begins with what the shorter one did. -/
theorem outcomeBytes_append (s₁ s₂ : List Byte) (cap : Nat) :
    outcomeBytes s₁ cap <+: outcomeBytes (s₁ ++ s₂) cap := by
  rw [outcomeBytes, outcomeBytes, bytesToBits_append, bitsStep_append]
  exact (List.prefix_append _ _).take cap

/-- The decoder stops in the fail state: the cell of some turn leads to the id 256. -/
def StopsInFail (src : List Byte) (dst : Buffer) (cap : UInt32) : Prop :=
  ∃ v c, LoopHead (dfaBody src (UInt32.ofNat src.length) cap) ⟨dst, 0, 0, 0⟩ v ∧
    v.g ≠ 8 * UInt32.ofNat src.length ∧ turnCell src v = .ok c ∧ c / 65536 = 256

section Fail

variable {src : List Byte} {dst : Buffer} {cap : UInt32}

theorem run_of_stopsInFail (small : src.length < 2 ^ 27) (room : cap.toNat ≤ dst.bytes.length)
    (stops : StopsInFail src dst cap) :
    (bitsStep hpack dfaInit (bytesToBits src)).1 = .fail := by
  obtain ⟨v, c, reached, more, cell, failed⟩ := stops
  have head := dfaHead small room reached
  have inside := inside_whole small head.le more
  obtain ⟨state, -⟩ := turnCell_whole head.live inside cell
  have fail := stateOf_ge (Nat.le_of_eq (next_eq_fail.mp failed).symm)
  rw [← cellNext_eq, state] at fail
  rw [← List.take_append_drop (v.g.toNat + 4) (bytesToBits src), bitsStep_append,
    head.read_nibble inside, fail, bitsStep_fail]

/-- With enough room the decoder stops in the fail state exactly when the automaton fails. -/
theorem stopsInFail_iff (small : src.length < 2 ^ 27) (room : cap.toNat ≤ dst.bytes.length)
    (enough : 8 * src.length / 5 ≤ cap.toNat) :
    StopsInFail src dst cap ↔ (bitsStep hpack dfaInit (bytesToBits src)).1 = .fail := by
  have length := toNat_ofNat_small small
  constructor
  · exact run_of_stopsInFail small room
  · intro fails
    obtain ⟨fuel, r, run⟩ : ∃ fuel r,
        dfaLoop fuel src dst (UInt32.ofNat src.length) cap 0 0 0 = .ok r :=
      ⟨_, _, dfaLoop_eq (by rwa [length]) (Nat.le_of_eq length) room (Nat.lt_succ_self _)⟩
    obtain ⟨v, reached, ret⟩ := LoopHead.exists_ret run
    have head := dfaHead small room reached
    have more : v.g ≠ 8 * UInt32.ofNat src.length := by
      intro last
      obtain ⟨acc, nbits, state, -⟩ := head.conserves
      have total : v.g.toNat = 8 * src.length := by
        rw [last, nbitTotal_toNat (by rwa [length]), length]
      have all : (bytesToBits src).take v.g.toNat = bytesToBits src :=
        List.take_of_length_le (by rw [length_bytesToBits, total])
      have read := congrArg Prod.fst head.read
      rw [all, fails, state] at read
      exact DState.noConfusion read
    have inside := inside_whole small head.le more
    obtain ⟨c, cell, -⟩ := turnCell_spec (List.take_length (l := src)) head.live inside
    have fits := room_of_enough small room enough reached more cell
    obtain ⟨turn, done, how⟩ := followCell_spec v c head.toDfaInv
    rw [dfaBody_more more, cell] at ret
    obtain rfl := Except.ok.inj (done.symm.trans ret)
    cases how with
    | failed failed =>
        exact ⟨v, c, reached, more, cell, next_eq_fail.mpr (cellNext_eq c ▸ failed)⟩
    | full live one full =>
        rw [one, List.length_singleton] at fits
        omega

/-- No input mends a stream which failed. -/
theorem outcome_after_fail {s₁ s₂ : List Byte} {d : Buffer} {c : Nat}
    (fails : (bitsStep hpack dfaInit (bytesToBits s₁)).1 = .fail) :
    (outcome (s₁ ++ s₂) d c).rc = -1 := by
  rw [outcome_rc_neg, ne_eq, outcome_rc]
  rintro ⟨xs, spec, -⟩
  rw [decodeBits_eq, bytesToBits_append, bitsStep_append, fails, bitsStep_fail] at spec
  simp [verdict, isAccepting] at spec

end Fail

/-- More room lets the decoder write more of the same bytes, and accept when they all fit; more
    input lets it write more of the same bytes, and never mends a stream which failed. -/
theorem two_runs :
    (∀ (s : List Byte) (c₁ c₂ : Nat) (d₁ d₂ : Buffer), s.length < 2 ^ 27 → c₁ ≤ c₂ →
      c₁ ≤ d₁.bytes.length → c₂ ≤ d₂.bytes.length →
      ∃ r₁ r₂, hpackHuffmanDecode s s.length d₁ c₁ = .ok r₁ ∧
        hpackHuffmanDecode s s.length d₂ c₂ = .ok r₂ ∧
        r₁.outLen = min c₁ r₂.outLen ∧
        r₁.dst.bytes.take r₁.outLen <+: r₂.dst.bytes.take r₂.outLen ∧
        (r₁.rc = 0 ↔ r₂.rc = 0 ∧ r₂.outLen ≤ c₁)) ∧
    (∀ (s₁ s₂ : List Byte) (c : Nat) (d₁ d₂ : Buffer), (s₁ ++ s₂).length < 2 ^ 27 →
      c ≤ d₁.bytes.length → c ≤ d₂.bytes.length →
      ∃ r₁ r₂, hpackHuffmanDecode s₁ s₁.length d₁ c = .ok r₁ ∧
        hpackHuffmanDecode (s₁ ++ s₂) (s₁ ++ s₂).length d₂ c = .ok r₂ ∧
        r₁.dst.bytes.take r₁.outLen <+: r₂.dst.bytes.take r₂.outLen) ∧
    ∀ (s₁ : List Byte) (d₁ : Buffer) (cap : UInt32), cap.toNat ≤ d₁.bytes.length →
      StopsInFail s₁ d₁ cap → ∀ (s₂ : List Byte) (c : Nat) (d₂ : Buffer),
        (s₁ ++ s₂).length < 2 ^ 27 → c ≤ d₂.bytes.length →
        ∃ r₂, hpackHuffmanDecode (s₁ ++ s₂) (s₁ ++ s₂).length d₂ c = .ok r₂ ∧ r₂.rc = -1 := by
  refine ⟨?_, ?_, ?_⟩
  · intro s c₁ c₂ d₁ d₂ small le room₁ room₂
    refine ⟨_, _, hpackHuffmanDecode_whole small room₁, hpackHuffmanDecode_whole small room₂,
      outcome_outLen_min le, ?_, outcome_rc_le le⟩
    exact outcome_take.symm ▸ outcome_take.symm ▸ outcomeBytes_take le ▸ List.take_prefix _ _
  · intro s₁ s₂ c d₁ d₂ small room₁ room₂
    have small₁ : s₁.length < 2 ^ 27 := by
      rw [List.length_append] at small
      omega
    refine ⟨_, _, hpackHuffmanDecode_whole small₁ room₁, hpackHuffmanDecode_whole small room₂, ?_⟩
    exact outcome_take.symm ▸ outcome_take.symm ▸ outcomeBytes_append s₁ s₂ c
  · intro s₁ d₁ cap room₁ stops s₂ c d₂ small room₂
    have small₁ : s₁.length < 2 ^ 27 := by
      rw [List.length_append] at small
      omega
    exact ⟨_, hpackHuffmanDecode_whole small room₂,
      outcome_after_fail (run_of_stopsInFail small₁ room₁ stops)⟩

/-- The letter `a` with and without room and with more behind it, and thirty-two ones with the
    letter behind them. -/
theorem two_runs_a :
    (∃ r₁ r₂, hpackHuffmanDecode [31] 1 (Buffer.ofBytes []) 0 = .ok r₁ ∧
      hpackHuffmanDecode [31] 1 (Buffer.ofBytes [7]) 1 = .ok r₂ ∧ r₁.outLen = min 0 r₂.outLen ∧
      r₁.dst.bytes.take r₁.outLen <+: r₂.dst.bytes.take r₂.outLen ∧
      (r₁.rc = 0 ↔ r₂.rc = 0 ∧ r₂.outLen ≤ 0)) ∧
    (∃ r₁ r₂, hpackHuffmanDecode [31] 1 (Buffer.ofBytes [7]) 1 = .ok r₁ ∧
      hpackHuffmanDecode [31, 255] 2 (Buffer.ofBytes [9]) 1 = .ok r₂ ∧
      r₁.dst.bytes.take r₁.outLen <+: r₂.dst.bytes.take r₂.outLen) ∧
    ∃ r₂, hpackHuffmanDecode [255, 255, 255, 255, 31] 5 (Buffer.ofBytes [7]) 1 = .ok r₂ ∧
      r₂.rc = -1 := by
  have ones : bytesToBits [255, 255, 255, 255] = List.replicate 30 true ++ [true, true] := by
    decide +kernel
  have fails : bitsStep hpack dfaInit (bytesToBits [255, 255, 255, 255]) = (.fail, []) :=
    (run_eq_iff hpack_valid _ .fail []).mpr ⟨[true, true], by rw [ones, eos_ones]; rfl⟩
  have stops : StopsInFail [255, 255, 255, 255] (Buffer.ofBytes [0, 0, 0, 0, 0, 0]) 6 :=
    (stopsInFail_iff (by decide) (by decide) (by decide)).mpr (congrArg Prod.fst fails)
  exact ⟨two_runs.1 [31] 0 1 (Buffer.ofBytes []) (Buffer.ofBytes [7]) (by decide) (by decide)
      (by decide) (by decide),
    two_runs.2.1 [31] [255] 1 (Buffer.ofBytes [7]) (Buffer.ofBytes [9]) (by decide) (by decide)
      (by decide),
    two_runs.2.2 _ _ 6 (by decide) stops [31] 1 (Buffer.ofBytes [7]) (by decide) (by decide)⟩

end HpackHuffman
