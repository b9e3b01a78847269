import MediaTransport.Anc.RoundTrip

namespace MediaTransport.Anc

open Library

/-!
# Access to single ten-bit words

`st40_get_udw` and `st40_set_udw` take the index of a word as a `uint32_t` and
hand it on as an `int`, which is multiplied by ten.
-/

variable (idx : BitVec 32)

/-- The index inside the data; there is none where the multiplication overflows or the place is in front of them. -/
def udwIndex : Option Nat :=
  let totalBitsOffset := idx.toInt * 10
  if totalBitsOffset < 0 ∨ 2147483647 < totalBitsOffset then none else some idx.toNat

/-- `st40_get_udw` -/
def st40GetUdw (data : Nat -> Byte) (base : Nat) : Option (BitVec 16) :=
  (udwIndex idx).map fun idx => get10bitUdw idx data base

/-- `st40_set_udw` -/
def st40SetUdw (udw : BitVec 16) (data : Nat -> Byte) (base : Nat) : Option (Nat -> Byte) :=
  (udwIndex idx).map fun idx => set10bitUdw idx udw data base

/-- The word is stored modulo 1024, and no other word and no byte around it changes. -/
structure UdwStored (idx : BitVec 32) (udw : BitVec 16) (data : Nat -> Byte) (base : Nat)
    (out : Nat -> Byte) : Prop where
  read : st40GetUdw idx out base = some (BitVec.ofNat 16 (udw.toNat % 1024))
  others : ∀ other ≠ idx, st40GetUdw other out base = st40GetUdw other data base
  bytes : ∀ position ≠ base + idx.toNat * 10 / 8,
    position ≠ base + idx.toNat * 10 / 8 + 1 -> out position = data position

theorem udwIndex_eq : udwIndex idx = if idx.toNat ≤ 214748364 then some idx.toNat else none := by
  have bound := idx.isLt
  unfold udwIndex
  dsimp only
  by_cases low : idx.toNat ≤ 214748364
  · have index : idx.toInt = idx.toNat := BitVec.toInt_eq_toNat_of_lt (by omega)
    rw [index, if_neg (by omega), if_pos low]
  · rw [if_neg low, if_pos]
    by_cases positive : 2 * idx.toNat < 4294967296
    · have index : idx.toInt = idx.toNat := BitVec.toInt_eq_toNat_of_lt positive
      omega
    · have index : idx.toInt = (idx.toNat : Int) - 4294967296 := by
        rw [BitVec.toInt_eq_toNat_cond, if_neg positive]
        rfl
      omega

section

variable (idx : Nat) (udw : BitVec 16) (data : Nat -> Byte) (base : Nat)

theorem get10bitUdw_set10bitUdw :
    get10bitUdw idx (set10bitUdw idx udw data base) base = BitVec.ofNat 16 (udw.toNat % 1024) := by
  have holds : HoldsAt (set10bitUdw idx udw data base) (8 * base + 10 * idx) (udw.setWidth 10 : BitVec 10) := by
    intro offset within
    rw [bitAt_set10bitUdw, if_pos (by omega)]
    congr 1
    omega
  rw [get10bitUdw_of_holds holds]
  apply BitVec.eq_of_toNat_eq
  simp only [BitVec.toNat_setWidth, BitVec.toNat_ofNat]

/-- The bits of another word are not among the ten that change. -/
theorem get10bitUdw_set10bitUdw_ne {other : Nat} (different : other ≠ idx) :
    get10bitUdw other (set10bitUdw idx udw data base) base = get10bitUdw other data base := by
  have holds : HoldsAt (set10bitUdw idx udw data base) (8 * base + 10 * other)
      ((get10bitUdw other data base).setWidth 10 : BitVec 10) := by
    apply (get10bitUdw_holds other base data).congr
    intro offset within
    rw [bitAt_set10bitUdw, if_neg (by omega)]
  have plain := get10bitUdw_of_holds (get10bitUdw_holds other base data)
  generalize ((get10bitUdw other data base).setWidth 10 : BitVec 10) = value at holds plain
  rw [plain, get10bitUdw_of_holds holds]

theorem set10bitUdw_outside {position : Nat} (first : position ≠ base + idx * 10 / 8)
    (second : position ≠ base + idx * 10 / 8 + 1) : set10bitUdw idx udw data base position = data position := by
  rw [set10bitUdw_eq]
  exact (storeBe16_writes _ _).outside data position (by omega)

end

/-- Every index whose bits an `int` can count is read back, and no other one is. -/
theorem udw_stored_iff (idx : BitVec 32) (udw : BitVec 16) (data : Nat -> Byte) (base : Nat) :
    (exists out, st40SetUdw idx udw data base = some out ∧ UdwStored idx udw data base out) <->
      idx.toNat ≤ 214748364 := by
  constructor
  · rintro ⟨out, stored, -⟩
    by_contra high
    unfold st40SetUdw at stored
    rw [udwIndex_eq, if_neg high] at stored
    cases stored
  · intro low
    have index : udwIndex idx = some idx.toNat := by rw [udwIndex_eq, if_pos low]
    refine ⟨set10bitUdw idx.toNat udw data base, by rw [st40SetUdw, index]; rfl, ?_⟩
    constructor
    case read =>
      rw [st40GetUdw, index]
      exact congrArg some (get10bitUdw_set10bitUdw idx.toNat udw data base)
    case others =>
      intro other different
      unfold st40GetUdw
      rw [udwIndex_eq]
      split
      · refine congrArg some (get10bitUdw_set10bitUdw_ne idx.toNat udw data base fun same => ?_)
        exact different (BitVec.eq_of_toNat_eq same)
      · rfl
    case bytes => exact fun position first second => set10bitUdw_outside idx.toNat udw data base first second

/-- An index whose place in bits overflows an `int`. -/
theorem high_udw_not_stored : ¬exists out,
    st40SetUdw 214748365 5 (fun _ => 0) 0 = some out ∧ UdwStored 214748365 5 (fun _ => 0) 0 out := by
  rintro ⟨out, stored, -⟩
  unfold st40SetUdw at stored
  rw [show udwIndex 214748365 = none by decide] at stored
  cases stored

end MediaTransport.Anc
