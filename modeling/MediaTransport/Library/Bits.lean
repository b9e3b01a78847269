import MediaTransport.Library.Memory
import MediaTransport.Library.Word

namespace MediaTransport.Library

/-!
# Bit fields in network order

A packet of fields that are not whole bytes is a run of bits, the most
significant bit of each byte first.  A field is held at a bit position when
the bits from there on are the bits of its value.  Loads, stores and bit-field
assignments of words in network byte order are all described by the bits they
read and write, so fields that cross bytes need no special treatment.
-/

variable (memory : Nat -> Byte)

variable {width : Nat}

/-- The bit with the given number, counted from the first bit on the wire. -/
def bitAt (index : Nat) : Bool :=
  (memory (index / 8)).getMsbD (index % 8)

/-- The bits from `start` on are those of the value. -/
def HoldsAt {width : Nat} (memory : Nat -> Byte) (start : Nat) (value : BitVec width) : Prop :=
  ∀ offset < width, bitAt memory (start + offset) = value.getMsbD offset

theorem HoldsAt.unique {memory : Nat -> Byte} {start : Nat} {first second : BitVec width}
    (one : HoldsAt memory start first) (other : HoldsAt memory start second) : first = second := by
  apply BitVec.eq_of_getMsbD_eq
  intro offset inside
  rw [← one offset inside, other offset inside]

theorem HoldsAt.congr {memory other : Nat -> Byte} {start : Nat} {value : BitVec width}
    (holds : HoldsAt memory start value) (same : ∀ offset < width,
      bitAt other (start + offset) = bitAt memory (start + offset)) :
    HoldsAt other start value := by
  intro offset inside
  rw [same offset inside, holds offset inside]

/-- A field inside a field. -/
theorem HoldsAt.extract {memory : Nat -> Byte} {start : Nat} {value : BitVec width}
    (holds : HoldsAt memory start value) (low part : Nat) (inside : low + part ≤ width) :
    HoldsAt memory (start + (width - low - part)) (value.extractLsb' low part) := by
  intro offset within
  have position : start + (width - low - part) + offset = start + (width - low - part + offset) := by
    omega
  have same : width - (low + part - offset) = width - low - part + offset := by omega
  rw [position, holds _ (by omega), BitVec.getMsbD_extractLsb']
  simp only [within, decide_true, Bool.true_and, same]
  rw [decide_eq_true (by omega), Bool.true_and]

theorem toNat_append_eq {high low : Nat} (left : BitVec high) (right : BitVec low) :
    (left ++ right).toNat = left.toNat * 2 ^ low + right.toNat := by
  rw [BitVec.toNat_append, ← Nat.shiftLeft_add_eq_or_of_lt right.isLt, Nat.shiftLeft_eq]

/-! ## Words of two and four bytes -/

/-- The value of two bytes read in network order. -/
def loadBe16 (position : Nat) : BitVec 16 :=
  memory position ++ memory (position + 1)

def loadBe32 (position : Nat) : BitVec 32 :=
  loadBe16 memory position ++ loadBe16 memory (position + 2)

/-- The memory after two bytes were written in network order. -/
def storeBe16 (position : Nat) (value : BitVec 16) : Nat -> Byte :=
  store memory position [value.extractLsb' 8 8, value.extractLsb' 0 8]

def storeBe32 (position : Nat) (value : BitVec 32) : Nat -> Byte :=
  storeBe16 (storeBe16 memory position (value.extractLsb' 16 16)) (position + 2)
    (value.extractLsb' 0 16)

theorem storeBe16_writes (position : Nat) (value : BitVec 16) :
    Writes (fun place => position ≤ place ∧ place < position + 2)
      (fun memory => storeBe16 memory position value) :=
  store_writes position [value.extractLsb' 8 8, value.extractLsb' 0 8]

theorem storeBe32_writes (position : Nat) (value : BitVec 32) :
    Writes (fun place => position ≤ place ∧ place < position + 4)
      (fun memory => storeBe32 memory position value) := by
  have both := (storeBe16_writes position (value.extractLsb' 16 16)).comp
    (storeBe16_writes (position + 2) (value.extractLsb' 0 16))
  constructor
  · intro memory place outside
    exact both.outside memory place (by omega)
  · intro first second place inside
    exact both.inside first second place (by omega)

section

variable (memory : Nat -> Byte) (position : Nat)

theorem loadBe16_holds :
    HoldsAt memory (8 * position) (loadBe16 memory position) := by
  intro offset inside
  rw [loadBe16, BitVec.getMsbD_append, bitAt]
  by_cases first : offset < 8
  · rw [if_neg (by omega)]
    congr 2 <;> omega
  · rw [if_pos (by omega)]
    congr 2 <;> omega

theorem loadBe32_holds :
    HoldsAt memory (8 * position) (loadBe32 memory position) := by
  intro offset inside
  rw [loadBe32, BitVec.getMsbD_append]
  by_cases first : offset < 16
  · rw [if_neg (by omega)]
    exact loadBe16_holds memory position offset first
  · rw [if_pos (by omega), ← loadBe16_holds memory (position + 2) _ (by omega)]
    congr 1
    omega

theorem bitAt_storeBe16 (value : BitVec 16) (index : Nat) :
    bitAt (storeBe16 memory position value) index =
      if 8 * position ≤ index ∧ index < 8 * position + 16 then value.getMsbD (index - 8 * position)
      else bitAt memory index := by
  unfold bitAt storeBe16
  by_cases inside : 8 * position ≤ index ∧ index < 8 * position + 16
  · rw [if_pos inside, store_inside _ (by omega) (by simp only [List.length_cons, List.length_nil]; omega)]
    by_cases first : index / 8 = position
    · rw [show index / 8 - position = 0 by omega, List.getD_cons_zero, BitVec.getMsbD_extractLsb']
      rw [decide_eq_true (by omega), decide_eq_true (by omega), Bool.true_and, Bool.true_and]
      congr 1
      omega
    · rw [show index / 8 - position = 1 by omega, List.getD_cons_succ, List.getD_cons_zero,
        BitVec.getMsbD_extractLsb']
      rw [decide_eq_true (by omega), decide_eq_true (by omega), Bool.true_and, Bool.true_and]
      congr 1
      omega
  · rw [if_neg inside, store_outside _ (by simp only [List.length_cons, List.length_nil]; omega)]

theorem bitAt_storeBe32 (value : BitVec 32) (index : Nat) :
    bitAt (storeBe32 memory position value) index =
      if 8 * position ≤ index ∧ index < 8 * position + 32 then value.getMsbD (index - 8 * position)
      else bitAt memory index := by
  unfold storeBe32
  rw [bitAt_storeBe16, bitAt_storeBe16]
  by_cases late : 8 * (position + 2) ≤ index ∧ index < 8 * (position + 2) + 16
  · rw [if_pos late, if_pos (by omega), BitVec.getMsbD_extractLsb']
    rw [decide_eq_true (by omega), decide_eq_true (by omega), Bool.true_and, Bool.true_and]
    congr 1
    omega
  · rw [if_neg late]
    by_cases early : 8 * position ≤ index ∧ index < 8 * position + 16
    · rw [if_pos early, if_pos (by omega), BitVec.getMsbD_extractLsb']
      rw [decide_eq_true (by omega), decide_eq_true (by omega), Bool.true_and, Bool.true_and]
      congr 1
      omega
    · rw [if_neg early, if_neg (by omega)]

theorem loadBe32_storeBe32 (value : BitVec 32) :
    loadBe32 (storeBe32 memory position value) position = value := by
  refine (loadBe32_holds _ position).unique fun offset inside => ?_
  rw [bitAt_storeBe32, if_pos (by omega), Nat.add_sub_cancel_left]

end

/-! ## Assigning a bit field -/

/-- A word after an assignment to the bit field that starts `low` bits above its end. -/
def setField {width part : Nat} (whole : BitVec width) (low : Nat) (value : BitVec part) :
    BitVec width :=
  (whole &&& ~~~((BitVec.allOnes part).setWidth width <<< low)) ||| (value.setWidth width <<< low)

theorem getLsbD_setField {width part : Nat} (whole : BitVec width) (low : Nat)
    (value : BitVec part) (inside : low + part ≤ width) (index : Nat) :
    (setField whole low value).getLsbD index =
      if low ≤ index ∧ index < low + part then value.getLsbD (index - low)
      else whole.getLsbD index := by
  unfold setField
  simp only [BitVec.getLsbD_or, BitVec.getLsbD_and, BitVec.getLsbD_not, BitVec.getLsbD_shiftLeft,
    BitVec.getLsbD_setWidth, BitVec.getLsbD_allOnes]
  by_cases bounded : index < width
  · by_cases field : low ≤ index ∧ index < low + part
    · rw [if_pos field]
      have below : index - low < part := by omega
      have within : index - low < width := by omega
      have above : ¬ index < low := by omega
      simp [bounded, below, within, above]
    · rw [if_neg field]
      by_cases lower : index < low
      · simp [lower, bounded]
      · have beyond : ¬ index - low < part := by omega
        have zero : value.getLsbD (index - low) = false := BitVec.getLsbD_of_ge _ _ (by omega)
        simp [lower, bounded, beyond, zero]
  · have outside : whole.getLsbD index = false := BitVec.getLsbD_of_ge _ _ (by omega)
    rw [if_neg (by omega), outside]
    simp [bounded]

theorem getMsbD_setField {width part : Nat} (whole : BitVec width) (low : Nat)
    (value : BitVec part) (inside : low + part ≤ width) {index : Nat} (bound : index < width) :
    (setField whole low value).getMsbD index =
      if width - low - part ≤ index ∧ index < width - low then
        value.getMsbD (index - (width - low - part))
      else whole.getMsbD index := by
  rw [BitVec.getMsbD_eq_getLsbD, BitVec.getMsbD_eq_getLsbD whole, getLsbD_setField _ _ _ inside]
  by_cases field : width - low - part ≤ index ∧ index < width - low
  · rw [if_pos field, if_pos (by omega), BitVec.getMsbD_eq_getLsbD, decide_eq_true bound,
      decide_eq_true (by omega)]
    congr 2
    omega
  · rw [if_neg field, if_neg (by omega)]

theorem byte_eq_of_bits {first second : Nat -> Byte} {position : Nat}
    (same : forall index, 8 * position ≤ index -> index < 8 * position + 8 ->
      bitAt first index = bitAt second index) :
    first position = second position := by
  apply BitVec.eq_of_getMsbD_eq
  intro offset inside
  have equal := same (8 * position + offset) (by omega) (by omega)
  unfold bitAt at equal
  rwa [show (8 * position + offset) / 8 = position by omega,
    show (8 * position + offset) % 8 = offset by omega] at equal

end MediaTransport.Library
