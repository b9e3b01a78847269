import MediaTransport.Library.Word

namespace MediaTransport.Util

open Library

/-!
# The packet bitmap of `mt_util.c`

The receivers record which packets arrived in a byte array with one bit per
packet.  The three operations follow the source, also for an index outside the
array: a test answers `false`, and the two updates answer `true` and change
nothing.  All else uses only the extensional laws at the end.
-/

variable (bits : Byte)

/-- `bitmap_idx_valid`: the index addresses a bit of the array. -/
def bitmapIdxValid (bitmap : List Byte) (idx : Int) : Bool :=
  !(decide (idx < 0) || decide (bitmap.length ≤ (idx / 8).toNat))

def mtBitmapTest (bitmap : List Byte) (idx : Int) : Bool :=
  if bitmapIdxValid bitmap idx then
    let bits := bitmap.getD (idx / 8).toNat 0
    bits &&& (1#8 <<< (idx % 8).toNat) != 0
  else
    false

/-- The answer says whether the bit was set already. -/
def mtBitmapTestAndSet (bitmap : List Byte) (idx : Int) : Bool × List Byte :=
  if bitmapIdxValid bitmap idx then
    let bits := bitmap.getD (idx / 8).toNat 0
    if bits &&& (1#8 <<< (idx % 8).toNat) != 0 then
      (true, bitmap)
    else
      (false, bitmap.set (idx / 8).toNat (bits ||| (1#8 <<< (idx % 8).toNat)))
  else
    (true, bitmap)

/-- The answer says whether the bit was clear already. -/
def mtBitmapTestAndUnset (bitmap : List Byte) (idx : Int) : Bool × List Byte :=
  if bitmapIdxValid bitmap idx then
    let bits := bitmap.getD (idx / 8).toNat 0
    if bits &&& (1#8 <<< (idx % 8).toNat) == 0 then
      (true, bitmap)
    else
      (false, bitmap.set (idx / 8).toNat (bits &&& (255#8 ^^^ (1#8 <<< (idx % 8).toNat))))
  else
    (true, bitmap)

/-! ## Bits of one byte -/

private theorem mask_getLsbD (offset : Nat) (index : Nat) (bound : offset < 8) :
    (1#8 <<< offset).getLsbD index = decide (index = offset) := by
  rw [BitVec.getLsbD_shiftLeft]
  by_cases same : index = offset
  · subst same
    simp [bound]
  · rcases Nat.lt_or_ge index offset with before | after
    · simp [before, same]
    · have positive : index - offset ≠ 0 := by omega
      simp [same, BitVec.getLsbD_one, positive]

private theorem mask_and_ne_zero (offset : Nat) (bound : offset < 8) :
    (bits &&& (1#8 <<< offset) != 0) = bits.getLsbD offset := by
  cases held : bits.getLsbD offset with
  | true =>
    apply bne_iff_ne.mpr
    intro zero
    have bit := congrArg (fun value => BitVec.getLsbD value offset) zero
    simp [mask_getLsbD offset offset bound, held] at bit
  | false =>
    have zero : bits &&& (1#8 <<< offset) = 0 := by
      apply BitVec.eq_of_getLsbD_eq
      intro index _
      rw [BitVec.getLsbD_and, mask_getLsbD offset index bound]
      by_cases same : index = offset
      · subst same
        simp [held]
      · simp [same]
    rw [zero]
    rfl

private theorem mask_or_getLsbD (offset index : Nat) (bound : offset < 8) :
    (bits ||| (1#8 <<< offset)).getLsbD index =
      (decide (index = offset) || bits.getLsbD index) := by
  rw [BitVec.getLsbD_or, mask_getLsbD offset index bound, Bool.or_comm]

private theorem mask_clear_getLsbD (offset index : Nat) (bound : offset < 8) (inside : index < 8) :
    (bits &&& (255#8 ^^^ (1#8 <<< offset))).getLsbD index =
      (!decide (index = offset) && bits.getLsbD index) := by
  have ones : (255#8).getLsbD index = true := by
    rw [show (255#8) = BitVec.allOnes 8 from rfl, BitVec.getLsbD_allOnes]
    exact decide_eq_true inside
  rw [BitVec.getLsbD_and, BitVec.getLsbD_xor, ones, mask_getLsbD offset index bound,
    Bool.true_xor, Bool.and_comm]

/-! ## Extensional laws

Indices are natural numbers from here on; every caller has established that
its index is not negative. -/

private theorem idxValid_natCast (bitmap : List Byte) (index : Nat) :
    bitmapIdxValid bitmap index = decide (index < 8 * bitmap.length) := by
  unfold bitmapIdxValid
  rw [Bool.eq_iff_iff]
  simp only [Bool.not_eq_true', Bool.or_eq_false_iff, decide_eq_false_iff_not, decide_eq_true_eq]
  omega

private theorem idx_div (index : Nat) : ((index : Int) / 8).toNat = index / 8 := by omega

private theorem idx_mod (index : Nat) : ((index : Int) % 8).toNat = index % 8 := by omega

section

variable (bitmap : List Byte)

theorem mtBitmapTest_eq_getLsbD (index : Nat) :
    mtBitmapTest bitmap index = (bitmap.getD (index / 8) 0).getLsbD (index % 8) := by
  have bound : index % 8 < 8 := Nat.mod_lt _ (by decide)
  unfold mtBitmapTest
  rw [idxValid_natCast, idx_div, idx_mod]
  by_cases inside : index < 8 * bitmap.length
  · rw [if_pos (decide_eq_true inside), mask_and_ne_zero _ _ bound]
  · have outside : bitmap.length ≤ index / 8 := by omega
    rw [if_neg (by simpa using inside), List.getD_eq_getElem?_getD,
      List.getElem?_eq_none outside]
    simp

private theorem getD_set (position other : Nat) (value : Byte)
    (inside : position < bitmap.length) :
    (bitmap.set position value).getD other 0 =
      if other = position then value else bitmap.getD other 0 := by
  rw [List.getD_eq_getElem?_getD, List.getD_eq_getElem?_getD, List.getElem?_set]
  by_cases same : other = position
  · subst same
    simp [inside]
  · simp [same, Ne.symm same]

theorem mtBitmapTestAndSet_fst (index : Nat)
    (inside : index < 8 * bitmap.length) :
    (mtBitmapTestAndSet bitmap index).1 = mtBitmapTest bitmap index := by
  unfold mtBitmapTestAndSet mtBitmapTest
  rw [idxValid_natCast, if_pos (decide_eq_true inside), if_pos (decide_eq_true inside)]
  simp only
  split
  · rename_i held
    exact held.symm
  · rename_i clear
    exact (Bool.eq_false_iff.mpr clear).symm

@[simp] theorem mtBitmapTestAndSet_length (idx : Int) :
    (mtBitmapTestAndSet bitmap idx).2.length = bitmap.length := by
  unfold mtBitmapTestAndSet
  split
  · simp only
    split <;> simp
  · rfl

@[simp] theorem mtBitmapTestAndUnset_length (idx : Int) :
    (mtBitmapTestAndUnset bitmap idx).2.length = bitmap.length := by
  unfold mtBitmapTestAndUnset
  split
  · simp only
    split <;> simp
  · rfl

theorem mtBitmapTest_testAndSet (index other : Nat)
    (inside : index < 8 * bitmap.length) :
    mtBitmapTest (mtBitmapTestAndSet bitmap index).2 other =
      (decide (other = index) || mtBitmapTest bitmap other) := by
  have bound : index % 8 < 8 := Nat.mod_lt _ (by decide)
  have position : index / 8 < bitmap.length := by omega
  rw [mtBitmapTest_eq_getLsbD, mtBitmapTest_eq_getLsbD]
  unfold mtBitmapTestAndSet
  rw [idxValid_natCast, if_pos (decide_eq_true inside), idx_div, idx_mod]
  simp only [mask_and_ne_zero _ _ bound]
  by_cases held : (bitmap.getD (index / 8) 0).getLsbD (index % 8) = true
  · rw [if_pos held]
    by_cases same : other = index
    · subst same
      rw [held, Bool.or_true]
    · simp [same]
  · rw [if_neg held, getD_set _ _ _ _ position]
    by_cases row : other / 8 = index / 8
    · rw [if_pos row, mask_or_getLsbD _ _ _ bound, row]
      congr 2
      exact propext ⟨fun column => by omega, fun same => by rw [same]⟩
    · have different : other ≠ index := fun same => row (by rw [same])
      rw [if_neg row, decide_eq_false different, Bool.false_or]

theorem mtBitmapTest_testAndUnset (index other : Nat)
    (inside : index < 8 * bitmap.length) :
    mtBitmapTest (mtBitmapTestAndUnset bitmap index).2 other =
      (!decide (other = index) && mtBitmapTest bitmap other) := by
  have bound : index % 8 < 8 := Nat.mod_lt _ (by decide)
  have otherBound : other % 8 < 8 := Nat.mod_lt _ (by decide)
  have position : index / 8 < bitmap.length := by omega
  have cleared := mask_and_ne_zero (bitmap.getD (index / 8) 0) (index % 8) bound
  rw [mtBitmapTest_eq_getLsbD, mtBitmapTest_eq_getLsbD]
  unfold mtBitmapTestAndUnset
  rw [idxValid_natCast, if_pos (decide_eq_true inside), idx_div, idx_mod]
  simp only
  by_cases zero : bitmap.getD (index / 8) 0 &&& (1#8 <<< (index % 8)) = 0
  · rw [if_pos (beq_iff_eq.mpr zero)]
    rw [zero] at cleared
    by_cases same : other = index
    · subst same
      rw [← cleared]
      simp
    · simp [same]
  · rw [if_neg (by simpa using zero), getD_set _ _ _ _ position]
    by_cases row : other / 8 = index / 8
    · rw [if_pos row, mask_clear_getLsbD _ _ _ bound otherBound, row]
      congr 3
      exact propext ⟨fun column => by omega, fun same => by rw [same]⟩
    · have different : other ≠ index := fun same => row (by rw [same])
      rw [if_neg row, decide_eq_false different, Bool.not_false, Bool.true_and]

end

end MediaTransport.Util
