import HpackHuffman.Source.Decode
import HpackHuffman.Source.Encode

/-! # Extraction

The generated C is the verified program with its preconditions, its ghost arguments and its
types of checked words taken out, its recursions made loops and its counted loop a `for`. What
a run of the program returns the C returns, whatever it was called with.
-/

namespace HpackHuffman.Source

open Checked

theorem sumLoop_lowers (src : List Byte) (len : UInt32) {fuel : Nat} :
    ∀ {i : UInt32} {acc : UInt64}, i.toNat ≤ len.toNat → len.toNat < i.toNat + fuel →
      Lowers (sumLoop committed src len i acc) (Lowstar.sumLoop fuel src len i acc) := by
  induction fuel with
  | zero =>
      intro i acc le enough
      omega
  | succ fuel ih =>
      intro i acc le enough
      rw [sumLoop_unfold]
      apply Lowers.turn
      by_cases last : i = len
      · simp only [Lowstar.sumBody, if_pos last]
        exact Lowers.ok acc
      · simp only [Lowstar.sumBody, if_neg last, bind_assoc, pure_bind]
        refine Lowers.bind (Lowers.index src i) fun b _ => ?_
        refine Lowers.bind (Lowers.index Lowstar.huffLen b.toUInt32) fun l _ => ?_
        refine Lowers.check fun acc' added => Lowers.check fun i' next => ?_
        obtain ⟨rfl, succ⟩ := U32.add_inv next
        have more := mt UInt32.toNat_inj.mp last
        simp only [UInt32.reduceToNat] at succ
        rw [U64.add_inv added, ← UInt8.toUInt64_toUInt32]
        exact ih (by omega) (by omega)

theorem encodeLen_lowers (src : List Byte) (len : UInt32) :
    Lowers (encodeLen committed src len) (Lowstar.encodeLen src len) := by
  have loop : Lowers (sumLoop committed src len 0 0)
      (Lowstar.sumLoop (len.toNat + 1) src len 0 0) :=
    sumLoop_lowers src len (Nat.zero_le _) (by simp)
  unfold encodeLen Lowstar.encodeLen
  refine loop.bind fun t _ => Lowers.check fun sum added => ?_
  rw [U64.add_inv added]
  exact Lowers.ok _

theorem drainLoop_lowers {out nbits : UInt32} {bits : UInt64} {n : Nat} :
    ∀ {fuel : Nat} {j : UInt32} {dst : Buffer}, j.toNat + n = (nbits / 8).toNat → n < fuel →
      Lowers (forLoop.go (drainByte out nbits bits) n j dst)
        (whileTrue (Lowstar.drainBody out nbits bits) fuel ⟨dst, j⟩) := by
  induction n with
  | zero =>
      intro fuel j dst turns enough
      obtain ⟨fuel, rfl⟩ : ∃ rest, fuel = rest + 1 := ⟨fuel - 1, by omega⟩
      have stop : ¬ j < nbits / 8 := by
        rw [UInt32.lt_iff_toNat_lt]
        omega
      apply Lowers.turn
      simp only [forLoop.go, Lowstar.drainBody, if_neg stop]
      exact Lowers.ok dst
  | succ n ih =>
      intro fuel j dst turns enough
      obtain ⟨fuel, rfl⟩ : ∃ rest, fuel = rest + 1 := ⟨fuel - 1, by omega⟩
      have more : j < nbits / 8 := by
        rw [UInt32.lt_iff_toNat_lt]
        omega
      have next := toNat_succ (UInt32.lt_iff_toNat_lt.mp more)
      apply Lowers.turn
      simp only [forLoop.go, drainByte, Lowstar.drainBody, if_pos more, bind_assoc, pure_bind]
      refine Lowers.check fun j1 succ => Lowers.check fun above times => ?_
      refine Lowers.check fun shift minus => ?_
      rw [U32.sub_inv minus, (U32.mul_inv times).1, (U32.add_inv succ).1]
      refine (Lowers.shiftRight bits _).bind fun byte _ => Lowers.check fun at_ plus => ?_
      rw [(U32.add_inv plus).1]
      refine (Lowers.upd dst (out + j) byte.toUInt8).bind fun dst' _ => ?_
      exact ih (by omega) (by omega)

/-- The drain is folded into the loop of its caller, which then moves the write index. -/
theorem drain_lowers {dst : Buffer} {len out nbits : UInt32} {bits : UInt64}
    {f : Drained → Checked β} {g : Buffer → Exec β}
    (rest : ∀ dst', Lowers (f ⟨out + nbits / 8, nbits - nbits / 8 * 8, dst'⟩) (g dst')) :
    Lowers (drain dst len out nbits bits >>= f) (Lowstar.drain dst out nbits bits >>= g) := by
  unfold drain forLoop Lowstar.drain
  simp only [bind_assoc, pure_bind]
  refine Lowers.check fun _ _ => Lowers.check fun _ _ => ?_
  refine (drainLoop_lowers (by simp) (by simp)).bind fun dst' _ => ?_
  refine Lowers.check fun out' plus => Lowers.check fun whole times => ?_
  refine Lowers.check fun nbits' minus => ?_
  rw [(U32.add_inv plus).1, U32.sub_inv minus, (U32.mul_inv times).1]
  exact rest dst'

theorem encodeLoop_lowers (src : List Byte) (len : UInt32) {fuel : Nat} :
    ∀ {dst : Buffer} {i out nbits : UInt32} {bits : UInt64}, i.toNat ≤ len.toNat →
      len.toNat < i.toNat + fuel →
      Lowers (encodeLoop committed dst src len i out nbits bits)
        (Lowstar.encodeLoop fuel dst src len i out nbits bits) := by
  induction fuel with
  | zero =>
      intro dst i out nbits bits le enough
      omega
  | succ fuel ih =>
      intro dst i out nbits bits le enough
      rw [encodeLoop_unfold]
      apply Lowers.turn
      by_cases last : i = len
      · simp only [Lowstar.encodeBody, if_pos last]
        exact Lowers.ok _
      · simp only [Lowstar.encodeBody, if_neg last, bind_assoc, pure_bind]
        refine Lowers.bind (Lowers.index src i) fun b _ => ?_
        refine Lowers.bind (Lowers.index Lowstar.huffCode b.toUInt32) fun code _ => ?_
        refine Lowers.bind (Lowers.index Lowstar.huffLen b.toUInt32) fun cb _ => ?_
        refine (Lowers.shiftLeft bits cb.toUInt32).bind fun shifted _ => ?_
        refine Lowers.check fun nbits1 plus => ?_
        rw [(U32.add_inv plus).1]
        apply drain_lowers
        intro dst'
        refine (Lowers.shiftLeft 1 _).bind fun top _ => ?_
        refine Lowers.check fun mask minus => Lowers.check fun i' next => ?_
        obtain ⟨rfl, succ⟩ := U32.add_inv next
        have more := mt UInt32.toNat_inj.mp last
        simp only [UInt32.reduceToNat] at succ
        rw [U64.sub_inv minus]
        exact ih (by omega) (by omega)

theorem encode_lowers (src : List Byte) (len : UInt32) (dst : Buffer) :
    Lowers (encode committed src len dst) (Lowstar.encode src len dst) := by
  unfold encode Lowstar.encode
  refine (encodeLoop_lowers src len (Nat.zero_le _) (by simp)).bind fun res _ => ?_
  refine Lowers.ite (fun more => ?_) fun _ => Lowers.ok _
  refine Lowers.check fun pad minus => ?_
  rw [U32.sub_inv minus]
  refine (Lowers.shiftLeft 1 _).bind fun top _ => Lowers.check fun ones less => ?_
  rw [U64.sub_inv less]
  refine (Lowers.shiftLeft res.bits _).bind fun shifted _ => ?_
  refine (Lowers.upd res.dst res.out _).bind fun dst' _ => Lowers.check fun r next => ?_
  rw [(U32.add_inv next).1]
  exact Lowers.ok _

theorem readChunk_lowers {k : Fin dfaNChunks} {cur nib : UInt32} :
    Lowers (readChunk committed k cur nib) (Lowstar.readChunk (dfaChunkList k.val) cur nib) := by
  unfold readChunk readAt Lowstar.readChunk
  refine Lowers.check fun _ _ => Lowers.check fun row times => ?_
  refine Lowers.check fun p plus => Lowers.check fun _ _ => ?_
  rw [(U32.add_inv plus).1, (U32.mul_inv times).1]
  exact Lowers.index _ _

theorem readCell_lowers (cur nib : UInt32) :
    Lowers (readCell committed cur nib) (Lowstar.readCell cur nib) := by
  unfold readCell
  refine Lowers.check fun _ met => Lowers.check fun row times => Lowers.check fun p plus => ?_
  obtain ⟨rfl, product⟩ := U32.mul_inv times
  obtain ⟨rfl, sum⟩ := U32.add_inv plus
  have live : cur.toNat < 256 ∧ nib.toNat < 16 := holds_of_demand met
  have inside : ((cur * 16 + nib) / 256).toNat < 16 := by
    simp only [UInt32.reduceToNat] at product
    rw [UInt32.toNat_div, sum, product]
    simp only [UInt32.reduceToNat]
    omega
  rw [dispatch_eq inside, Lowstar.readCell_eq inside]
  exact readChunk_lowers

theorem acceptAt_lowers (cur : UInt32) :
    Lowers (acceptAt committed cur) (Lowstar.acceptAt cur) := by
  unfold acceptAt Lowstar.acceptAt
  exact Lowers.check fun _ _ => (Lowers.index _ cur).bind fun v _ => Lowers.ok _

/-- A nibble is cut out of the byte widened, and masked to a byte again. -/
theorem nibble_lowers (bx : Byte) (g : UInt32) :
    (if g % 8 = 0 then bx.toUInt32 / 16 &&& 0xFF else bx.toUInt32 % 16 &&& 0xFF) =
      if g % 8 = 0 then (bx / 16).toUInt32 else (bx % 16).toUInt32 := by
  have few := bx.toNat_lt
  have low : ∀ n < 16, n &&& 255 = n := by decide
  refine ite_congr rfl (fun _ => ?_) fun _ => ?_
  · apply UInt32.toNat_inj.mp
    simp only [UInt32.toNat_and, UInt32.toNat_div, UInt8.toNat_toUInt32, UInt8.toNat_div,
      UInt32.reduceToNat, UInt8.reduceToNat]
    exact low _ (by omega)
  · apply UInt32.toNat_inj.mp
    simp only [UInt32.toNat_and, UInt32.toNat_mod, UInt8.toNat_toUInt32, UInt8.toNat_mod,
      UInt32.reduceToNat, UInt8.reduceToNat]
    exact low _ (by omega)

/-- The loop reads four bits a turn, and turns once more at the last. -/
theorem dfaLoop_lowers (src : List Byte) (srcLen dstCap : UInt32) {fuel : Nat} :
    ∀ {dst : Buffer} {g cur written : UInt32}, g.toNat ≤ 8 * srcLen.toNat → g.toNat % 4 = 0 →
      8 * srcLen.toNat < g.toNat + 4 * fuel →
      Lowers (dfaLoop committed src dst srcLen dstCap g cur written)
        (Lowstar.dfaLoop fuel src dst srcLen dstCap g cur written) := by
  induction fuel with
  | zero =>
      intro dst g cur written le aligned enough
      omega
  | succ fuel ih =>
      intro dst g cur written le aligned enough
      rw [dfaLoop_unfold]
      refine Lowers.check fun total times => Lowers.turn ?_
      obtain ⟨rfl, product⟩ := U32.mul_inv times
      simp only [UInt32.reduceToNat] at product
      by_cases last : g = 8 * srcLen
      · simp only [Lowstar.dfaBody, if_pos last, bind_assoc, pure_bind]
        exact (acceptAt_lowers cur).bind fun ok _ => Lowers.ok _
      · have more := mt UInt32.toNat_inj.mp last
        simp only [Lowstar.dfaBody, if_neg last, bind_assoc]
        refine (Lowers.index src (g / 8)).bind fun bx _ => ?_
        rw [nibble_lowers]
        refine (readCell_lowers cur _).bind fun c _ => ?_
        unfold followCell
        by_cases failed : c / 65536 = 256
        · simp only [if_pos failed, pure_bind]
          exact Lowers.ok _
        · simp only [if_neg failed]
          by_cases flag : c / 256 % 256 = 1
          · simp only [if_pos flag]
            by_cases room : written < dstCap
            · simp only [if_pos room, bind_assoc, pure_bind]
              refine (Lowers.upd dst written _).bind fun dst' _ => ?_
              refine Lowers.check fun g' plus => Lowers.check fun written' next => ?_
              obtain ⟨rfl, sum⟩ := U32.add_inv plus
              simp only [UInt32.reduceToNat] at sum
              rw [(U32.add_inv next).1]
              exact ih (by omega) (by omega) (by omega)
            · simp only [if_neg room, pure_bind]
              exact Lowers.ok _
          · simp only [if_neg flag, pure_bind]
            refine Lowers.check fun g' plus => ?_
            obtain ⟨rfl, sum⟩ := U32.add_inv plus
            simp only [UInt32.reduceToNat] at sum
            exact ih (by omega) (by omega) (by omega)

theorem decodeDfa_lowers (src : List Byte) (srcLen dstCap : UInt32) (dst : Buffer) :
    Lowers (decodeDfa committed src srcLen dst dstCap)
      (Lowstar.decodeDfa src srcLen dst dstCap) :=
  dfaLoop_lowers src srcLen dstCap (Nat.zero_le _) rfl (by simp only [UInt32.reduceToNat]; omega)

end HpackHuffman.Source
