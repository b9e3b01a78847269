import MediaTransport.Library.Fields

namespace MediaTransport.Library

/-!
# Vector registers

A register is known by its bytes, from the low end on.  The operations that only
move values are defined for values of any type; the others work on the 16-bit or
32-bit lanes of a register of 128 bits.
-/

variable (table : List Nat)

variable {Value : Type*}

/-- A register of 128 or 512 bits; the bytes above its width mean nothing. -/
abbrev Register := Nat -> Byte

/-! ## Tables -/

/-- A register with the bytes of a table. -/
def bytesOf : Register := fun index => BitVec.ofNat 8 (table.getD index 0)

/-- The lanes of a table. -/
def lanesOf : Nat -> Nat := fun lane => table.getD lane 0

/-! ## Lanes -/

def lane16 (register : Register) (lane : Nat) : BitVec 16 :=
  joined 16 (register (2 * lane + 1)) (register (2 * lane))

def ofLanes16 (lanes : Nat -> BitVec 16) : Register :=
  fun index => (lanes (index / 2)).extractLsb' (8 * (index % 2)) 8

def lane32 (register : Register) (lane : Nat) : BitVec 32 :=
  joined 32 (lane16 register (2 * lane + 1)) (lane16 register (2 * lane))

def ofLanes32 (lanes : Nat -> BitVec 32) : Register :=
  fun index => (lanes (index / 4)).extractLsb' (8 * (index % 4)) 8

theorem exists_place (index : Nat) : exists lane place, place < 4 ∧ index = 4 * lane + place :=
  ⟨index / 4, index % 4, Nat.mod_lt _ (by decide), (Nat.div_add_mod index 4).symm⟩

theorem place_div (lane : Nat) {place : Nat} (below : place < 4) : (4 * lane + place) / 4 = lane := by
  rw [Nat.mul_add_div (by decide), Nat.div_eq_of_lt below, Nat.add_zero]

theorem place_mod (lane : Nat) {place : Nat} (below : place < 4) : (4 * lane + place) % 4 = place := by
  rw [Nat.mul_add_mod, Nat.mod_eq_of_lt below]

theorem ofLanes32_apply (lanes : Nat -> BitVec 32) (lane : Nat) {place : Nat} (below : place < 4) :
    ofLanes32 lanes (4 * lane + place) = (lanes lane).extractLsb' (8 * place) 8 := by
  rw [ofLanes32, place_div lane below, place_mod lane below]

@[simp] theorem ofLanes16_low (lanes : Nat -> BitVec 16) (lane : Nat) :
    ofLanes16 lanes (2 * lane) = (lanes lane).extractLsb' 0 8 := by
  unfold ofLanes16
  rw [Nat.mul_div_cancel_left lane (by decide), Nat.mul_mod_right]

@[simp] theorem ofLanes16_high (lanes : Nat -> BitVec 16) (lane : Nat) :
    ofLanes16 lanes (2 * lane + 1) = (lanes lane).extractLsb' 8 8 := by
  unfold ofLanes16
  rw [Nat.mul_add_div (by decide), Nat.mul_add_mod]
  rfl

/-- A register with the 16-bit lanes of a table. -/
def wordsOf : Register := ofLanes16 fun lane => BitVec.ofNat 16 (table.getD lane 0)

/-! ## Loads and stores -/

/-- `_mm_maskz_loadu_epi8` -/
def maskzLoaduEpi8 (k : Nat) (memory : Nat -> Byte) : Register :=
  fun index => if k.testBit index then memory index else 0

theorem maskzLoaduEpi8_congr {k width : Nat} (narrow : k < 2 ^ width) {first second : Nat -> Byte}
    (same : ∀ index < width, first index = second index) :
    maskzLoaduEpi8 k first = maskzLoaduEpi8 k second := by
  funext index
  unfold maskzLoaduEpi8
  by_cases below : index < width
  · rw [same index below]
  · have clear : k.testBit index = false :=
      Nat.testBit_lt_two_pow (lt_of_lt_of_le narrow (Nat.pow_le_pow_right (by decide) (by omega)))
    rw [clear]
    rfl

/-- `_mm_loadu_si128` -/
def loaduSi128 (memory : Nat -> Byte) : Register :=
  fun index => if index < 16 then memory index else 0

theorem loaduSi128_congr {first second : Nat -> Byte}
    (same : ∀ index < 16, first index = second index) :
    loaduSi128 first = loaduSi128 second := by
  funext index
  unfold loaduSi128
  by_cases below : index < 16
  · rw [same index below]
  · rw [if_neg below, if_neg below]

/-- The bytes that `_mm_mask_storeu_epi8` stores, for a mask of the first ones. -/
def maskStoreuEpi8 (k : Nat) (register : Register) : List Byte :=
  ((List.range 16).filter fun index => k.testBit index).map register

/-- The bytes that `_mm_storeu_si128` stores. -/
def storeuSi128 (register : Nat -> Value) : List Value := (List.range 16).map register

/-- The bytes that `_mm512_storeu_si512` stores. -/
def storeuSi512 (register : Nat -> Value) : List Value := (List.range 64).map register

theorem getD_map_range {Value : Type} (value : Nat -> Value) (default : Value) {index count : Nat}
    (inside : index < count) : ((List.range count).map value).getD index default = value index := by
  rw [List.getD_eq_getElem?_getD, List.getElem?_map, List.getElem?_range inside]
  rfl

/-- `_mm512_loadu_si512` of four registers of 128 bits in memory. -/
def loaduSi512 (registers : Nat -> Nat -> Value) (first : Nat) : Nat -> Value :=
  fun index => registers (first + index / 16) (index % 16)

/-! ## Moves -/

/-- `_mm_shuffle_epi8` -/
def shuffleEpi8 (register mask : Register) : Register :=
  fun index =>
    if (mask index).getLsbD 7 then 0 else register ((mask index).toNat % 16)

/-- `_mm_unpacklo_epi16` -/
def unpackloEpi16 (first second : Nat -> Value) : Nat -> Value :=
  fun index => if index % 4 < 2 then first (index / 4 * 2 + index % 2) else second (index / 4 * 2 + index % 2)

/-- `_mm_unpackhi_epi16` -/
def unpackhiEpi16 (first second : Nat -> Value) : Nat -> Value :=
  unpackloEpi16 (fun index => first (8 + index)) (fun index => second (8 + index))

/-- `_mm_unpacklo_epi32` -/
def unpackloEpi32 (first second : Nat -> Value) : Nat -> Value :=
  fun index => if index % 8 < 4 then first (index / 8 * 4 + index % 4) else second (index / 8 * 4 + index % 4)

/-- `_mm_unpackhi_epi32` -/
def unpackhiEpi32 (first second : Nat -> Value) : Nat -> Value :=
  unpackloEpi32 (fun index => first (8 + index)) (fun index => second (8 + index))

/-- `_mm512_permutexvar_epi32` -/
def permutexvarEpi32 (lanes : Nat -> Nat) (register : Nat -> Value) : Nat -> Value :=
  fun index => register (4 * (lanes (index / 4) % 16) + index % 4)

/-- `_mm512_shuffle_i32x4`, with two bits of the constant for each quarter. -/
def shuffleI32x4 (first second : Nat -> Value) (imm : Nat) : Nat -> Value :=
  fun index =>
    (if index < 32 then first else second) (16 * (imm / 4 ^ (index / 16) % 4) + index % 16)

theorem shuffleI32x4_comp {Place : Type*} (value : Place -> Value) (first second : Nat -> Place)
    (imm : Nat) :
    shuffleI32x4 (value ∘ first) (value ∘ second) imm = value ∘ shuffleI32x4 first second imm := by
  funext index
  show (if index < 32 then value ∘ first else value ∘ second) _ =
    value ((if index < 32 then first else second) _)
  split <;> rfl

theorem storeuSi512_comp {Place : Type*} (value : Place -> Value) (places : Nat -> Place) :
    storeuSi512 (value ∘ places) = (storeuSi512 places).map value := by
  unfold storeuSi512
  rw [List.map_map]

/-- `_mm512_extracti32x4_epi32` -/
def extracti32x4Epi32 (register : Nat -> Value) (imm : Nat) : Nat -> Value :=
  fun index => register (16 * imm + index)

/-! ## Arithmetic on lanes -/

/-- `_mm_srlv_epi16` -/
def srlvEpi16 (register : Register) (count : Nat -> Nat) : Register :=
  ofLanes16 fun lane => lane16 register lane >>> count lane

/-- `_mm_sllv_epi16` -/
def sllvEpi16 (register : Register) (count : Nat -> Nat) : Register :=
  ofLanes16 fun lane => lane16 register lane <<< count lane

/-- `_mm_srli_epi32` -/
def srliEpi32 (register : Register) (count : Nat) : Register :=
  ofLanes32 fun lane => lane32 register lane >>> count

/-- `_mm_rol_epi32` -/
def rolEpi32 (register : Register) (count : Nat) : Register :=
  ofLanes32 fun lane => (lane32 register lane).rotateLeft count

/-- `_mm_ror_epi32` -/
def rorEpi32 (register : Register) (count : Nat) : Register :=
  ofLanes32 fun lane => (lane32 register lane).rotateRight count

/-- `_mm_and_si128` -/
def andSi128 (first second : Register) : Register := fun index => first index &&& second index

/-- `_mm_or_si128` -/
def orSi128 (first second : Register) : Register := fun index => first index ||| second index

/-! ## Bytes of shifted lanes -/

theorem getLsbD_lane16 (register : Register) (lane bit : Nat) :
    (lane16 register lane).getLsbD bit =
      (decide (bit < 16) && (register (2 * lane + bit / 8)).getLsbD (bit % 8)) := by
  rw [lane16, getLsbD_joined]
  by_cases low : bit < 8
  · rw [if_pos low, Nat.div_eq_of_lt low, Nat.mod_eq_of_lt low, Nat.add_zero]
  · by_cases high : bit < 16
    · have place : bit / 8 = 1 := by omega
      have rest : bit % 8 = bit - 8 := by omega
      rw [if_neg low, place, rest]
    · simp [high]

theorem getLsbD_lane32 (register : Register) (lane bit : Nat) :
    (lane32 register lane).getLsbD bit =
      (decide (bit < 32) && (register (4 * lane + bit / 8)).getLsbD (bit % 8)) := by
  rw [lane32, getLsbD_joined, getLsbD_lane16, getLsbD_lane16]
  by_cases low : bit < 16
  · have first : 2 * (2 * lane) = 4 * lane := by omega
    simp [low, first]
  · by_cases high : bit < 32
    · have first : 2 * (2 * lane + 1) + (bit - 16) / 8 = 4 * lane + bit / 8 := by omega
      have rest : (bit - 16) % 8 = bit % 8 := by omega
      have inside : bit - 16 < 16 := by omega
      simp [low, first, rest, inside]
    · have outside : ¬ bit - 16 < 16 := by omega
      simp [high, low, outside]

section Shifts

variable (register : Register) {count : Nat} (index : Nat)

/-- A byte below the highest of a 32-bit lane that is shifted to the right, from it and the next byte. -/
theorem srliEpi32_apply (small : count < 8) (below : index % 4 < 3) :
    srliEpi32 register count index =
      register index >>> count ||| register (4 * (index / 4) + (index % 4 + 1)) <<< (8 - count) := by
  obtain ⟨lane, place, least, rfl⟩ := exists_place index
  rw [place_mod lane least] at below ⊢
  rw [place_div lane least, srliEpi32, ofLanes32_apply _ lane least]
  apply byte_eq
  intro bit inside
  rw [BitVec.getLsbD_extractLsb', BitVec.getLsbD_ushiftRight, getLsbD_lane32, BitVec.getLsbD_or,
    BitVec.getLsbD_ushiftRight, BitVec.getLsbD_shiftLeft]
  have within : count + (8 * place + bit) < 32 := by omega
  by_cases here : count + bit < 8
  · have byte : (count + (8 * place + bit)) / 8 = place := by omega
    have rest : (count + (8 * place + bit)) % 8 = count + bit := by omega
    have before : bit < 8 - count := by omega
    simp [inside, within, byte, rest, before]
  · have byte : (count + (8 * place + bit)) / 8 = place + 1 := by omega
    have rest : (count + (8 * place + bit)) % 8 = bit - (8 - count) := by omega
    have before : ¬ bit < 8 - count := by omega
    simp [inside, within, byte, rest, before, BitVec.getLsbD_of_ge _ _ (Nat.le_of_not_lt here)]

/-- A byte of a 32-bit lane that is rotated to the left, from it and the byte before. -/
theorem rolEpi32_apply (small : count < 8) :
    rolEpi32 register count index =
      register index <<< count ||| register (4 * (index / 4) + (index % 4 + 3) % 4) >>> (8 - count) := by
  obtain ⟨lane, place, below, rfl⟩ := exists_place index
  rw [place_mod lane below, place_div lane below, rolEpi32, ofLanes32_apply _ lane below]
  apply byte_eq
  intro bit inside
  rw [BitVec.getLsbD_extractLsb', BitVec.getLsbD_rotateLeft, getLsbD_lane32, getLsbD_lane32,
    BitVec.getLsbD_or, BitVec.getLsbD_ushiftRight, BitVec.getLsbD_shiftLeft,
    Nat.mod_eq_of_lt (by omega : count < 32)]
  by_cases here : count ≤ bit
  · have byte : (8 * place + bit - count) / 8 = place := by omega
    have rest : (8 * place + bit - count) % 8 = bit - count := by omega
    have outside : 8 ≤ 8 - count + bit := by omega
    have later : ¬ 8 * place + bit < count := by omega
    have before : ¬ bit < count := by omega
    have within : 8 * place + bit - count < 32 := by omega
    have inner : 8 * place + bit < 32 := by omega
    simp [inside, within, inner, byte, rest, later, before, BitVec.getLsbD_of_ge _ _ outside]
  · have before : bit < count := by omega
    rcases Nat.eq_zero_or_pos place with rfl | positive
    · have byte : (32 - count + bit) / 8 = 3 := by omega
      have last : (32 - count + bit) % 8 = 8 - count + bit := by omega
      have within : 32 - count + bit < 32 := by omega
      rw [Nat.mul_zero, Nat.zero_add, byte, last]
      simp [inside, before, within]
    · have byte : (8 * place + bit - count) / 8 = place - 1 := by omega
      have start : (place + 3) % 4 = place - 1 := by omega
      have rest : (8 * place + bit - count) % 8 = 8 - count + bit := by omega
      have later : ¬ 8 * place + bit < count := by omega
      have within : 8 * place + bit - count < 32 := by omega
      have inner : 8 * place + bit < 32 := by omega
      simp [inside, within, inner, byte, rest, later, before, start]

/-- A byte of a 32-bit lane that is rotated to the right, from it and the next byte. -/
theorem rorEpi32_apply (small : count < 8) :
    rorEpi32 register count index =
      register index >>> count ||| register (4 * (index / 4) + (index % 4 + 1) % 4) <<< (8 - count) := by
  obtain ⟨lane, place, below, rfl⟩ := exists_place index
  rw [place_mod lane below, place_div lane below, rorEpi32, ofLanes32_apply _ lane below]
  apply byte_eq
  intro bit inside
  rw [BitVec.getLsbD_extractLsb', BitVec.getLsbD_rotateRight, getLsbD_lane32, getLsbD_lane32,
    BitVec.getLsbD_or, BitVec.getLsbD_ushiftRight, BitVec.getLsbD_shiftLeft,
    Nat.mod_eq_of_lt (by omega : count < 32)]
  by_cases here : count + bit < 8
  · have byte : (count + (8 * place + bit)) / 8 = place := by omega
    have rest : (count + (8 * place + bit)) % 8 = count + bit := by omega
    have first : 8 * place + bit < 32 - count := by omega
    have before : bit < 8 - count := by omega
    have within : count + (8 * place + bit) < 32 := by omega
    simp [inside, within, byte, rest, first, before]
  · have before : ¬ bit < 8 - count := by omega
    have outside : 8 ≤ count + bit := by omega
    by_cases last : place = 3
    · subst last
      have byte : (8 * 3 + bit - (32 - count)) / 8 = 0 := by omega
      have rest : (8 * 3 + bit - (32 - count)) % 8 = bit - (8 - count) := by omega
      have later : ¬ 8 * 3 + bit < 32 - count := by omega
      have within : 8 * 3 + bit - (32 - count) < 32 := by omega
      have inner : 8 * 3 + bit < 32 := by omega
      simp [inside, within, inner, byte, rest, later, before, BitVec.getLsbD_of_ge _ _ outside]
    · have byte : (count + (8 * place + bit)) / 8 = place + 1 := by omega
      have start : (place + 1) % 4 = place + 1 := by omega
      have rest : (count + (8 * place + bit)) % 8 = bit - (8 - count) := by omega
      have first : 8 * place + bit < 32 - count := by omega
      have within : count + (8 * place + bit) < 32 := by omega
      simp [inside, within, byte, rest, first, before, start, BitVec.getLsbD_of_ge _ _ outside]

end Shifts

theorem andSi128_ofLanes16 (first second : Nat -> BitVec 16) :
    andSi128 (ofLanes16 first) (ofLanes16 second) = ofLanes16 fun lane => first lane &&& second lane := by
  funext index
  exact BitVec.extractLsb'_and.symm

end MediaTransport.Library
