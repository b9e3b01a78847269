import MediaTransport.Library.Word

namespace MediaTransport.Library

/-!
# Values cut into bit fields

A value that does not fit its storage unit is cut into a high and a low part.
The parts are put together by shifts and sums, cut out by shifts and the
truncation to the width of a field, and stored side by side in bytes.
-/

variable {high low width : Nat} (value : BitVec width)

theorem byte_eq {left right : Byte} (same : ∀ bit < 8, left.getLsbD bit = right.getLsbD bit) :
    left = right :=
  BitVec.eq_of_getLsbD_eq same

theorem div_of_parts {left right bound : Nat} (below : right < bound) :
    (left * bound + right) / bound = left := by
  rw [Nat.mul_comm, Nat.mul_add_div (by omega), Nat.div_eq_of_lt below, Nat.add_zero]

theorem mod_of_parts {left right bound : Nat} (below : right < bound) :
    (left * bound + right) % bound = right := by
  rw [Nat.mul_add_mod_self_right, Nat.mod_eq_of_lt below]

/-! ## Fields side by side -/

/-- Two fields of a word, the high one first. -/
def joined {high low : Nat} (width : Nat) (left : BitVec high) (right : BitVec low) : BitVec width :=
  (left ++ right).setWidth width

section

variable {high low width : Nat} (left : BitVec high) (right : BitVec low)

theorem toNat_joined (fits : high + low ≤ width) :
    (joined width left right).toNat = left.toNat * 2 ^ low + right.toNat := by
  rw [joined, BitVec.toNat_setWidth, BitVec.toNat_append,
    ← Nat.shiftLeft_add_eq_or_of_lt right.isLt, Nat.shiftLeft_eq]
  apply Nat.mod_eq_of_lt
  have above := left.isLt
  have whole : (left.toNat + 1) * 2 ^ low ≤ 2 ^ high * 2 ^ low := Nat.mul_le_mul_right _ above
  rw [← Nat.pow_add, Nat.add_mul, Nat.one_mul] at whole
  have inside : 2 ^ (high + low) ≤ 2 ^ width := Nat.pow_le_pow_right (by decide) fits
  omega

theorem getLsbD_joined (index : Nat) :
    (joined width left right).getLsbD index =
      (decide (index < width) && if index < low then right.getLsbD index
        else left.getLsbD (index - low)) := by
  rw [joined, BitVec.getLsbD_setWidth, BitVec.getLsbD_append]

theorem getElem_joined {index : Nat}
    (inside : index < width) :
    (joined width left right)[index] =
      if index < low then right.getLsbD index else left.getLsbD (index - low) := by
  rw [← BitVec.getLsbD_eq_getElem, getLsbD_joined, decide_eq_true inside, Bool.true_and]

@[simp] theorem extract_low_joined
    (fits : high + low ≤ width) : (joined width left right).extractLsb' 0 low = right := by
  apply BitVec.eq_of_toNat_eq
  rw [BitVec.extractLsb'_toNat, toNat_joined left right fits, Nat.shiftRight_zero,
    mod_of_parts right.isLt]

@[simp] theorem extract_high_joined
    (fits : high + low ≤ width) : (joined width left right).extractLsb' low high = left := by
  apply BitVec.eq_of_toNat_eq
  rw [BitVec.extractLsb'_toNat, toNat_joined left right fits, Nat.shiftRight_eq_div_pow,
    div_of_parts right.isLt, Nat.mod_eq_of_lt left.isLt]

end

@[simp] theorem joined_extract (whole : high + low = width) :
    joined width (value.extractLsb' low high) (value.extractLsb' 0 low) = value := by
  apply BitVec.eq_of_toNat_eq
  rw [toNat_joined _ _ (Nat.le_of_eq whole), BitVec.extractLsb'_toNat, BitVec.extractLsb'_toNat,
    Nat.shiftRight_zero, Nat.shiftRight_eq_div_pow]
  have bound : value.toNat / 2 ^ low < 2 ^ high := by
    rw [Nat.div_lt_iff_lt_mul (by positivity), ← Nat.pow_add, whole]
    exact value.isLt
  rw [Nat.mod_eq_of_lt bound, Nat.div_add_mod']

/-! ## Parts of a value -/

theorem setWidth_masked {width field : Nat} (value mask : BitVec width)
    (covers : mask.toNat = 2 ^ field - 1) : (value &&& mask).setWidth field = value.setWidth field := by
  apply BitVec.eq_of_toNat_eq
  rw [BitVec.toNat_setWidth, BitVec.toNat_and, covers, Nat.and_two_pow_sub_one_eq_mod, Nat.mod_mod,
    BitVec.toNat_setWidth]

section

variable {high low width : Nat} (left : BitVec high) (right : BitVec low)
    (fits : high + low ≤ width)

include fits

/-- A value of two parts: its high part shifted to its place, and its low part. -/
theorem toNat_parts :
    (left.setWidth width <<< low + right.setWidth width).toNat = left.toNat * 2 ^ low + right.toNat := by
  have above := left.isLt
  have below := right.isLt
  have whole : (left.toNat + 1) * 2 ^ low ≤ 2 ^ high * 2 ^ low := Nat.mul_le_mul_right _ above
  rw [← Nat.pow_add, Nat.add_mul, Nat.one_mul] at whole
  have inside : 2 ^ (high + low) ≤ 2 ^ width := Nat.pow_le_pow_right (by decide) fits
  have leftFits : 2 ^ high ≤ 2 ^ width := Nat.pow_le_pow_right (by decide) (by omega)
  rw [BitVec.toNat_add, BitVec.toNat_shiftLeft, BitVec.toNat_setWidth, BitVec.toNat_setWidth,
    Nat.mod_eq_of_lt (by omega : left.toNat < 2 ^ width),
    Nat.mod_eq_of_lt (by omega : right.toNat < 2 ^ width), Nat.shiftLeft_eq,
    Nat.mod_eq_of_lt (by omega : left.toNat * 2 ^ low < 2 ^ width), Nat.mod_eq_of_lt (by omega)]

theorem parts_eq_joined :
    left.setWidth width <<< low + right.setWidth width = joined width left right := by
  apply BitVec.eq_of_toNat_eq
  rw [toNat_parts left right fits, toNat_joined left right fits]

theorem toNat_parts_lt :
    (left.setWidth width <<< low + right.setWidth width).toNat < 2 ^ (high + low) := by
  have above := left.isLt
  have whole : (left.toNat + 1) * 2 ^ low ≤ 2 ^ high * 2 ^ low := Nat.mul_le_mul_right _ above
  rw [← Nat.pow_add, Nat.add_mul, Nat.one_mul] at whole
  rw [toNat_parts left right fits]
  omega

@[simp] theorem high_parts :
    ((left.setWidth width <<< low + right.setWidth width) >>> low).setWidth high = left := by
  apply BitVec.eq_of_toNat_eq
  rw [BitVec.toNat_setWidth, BitVec.toNat_ushiftRight, toNat_parts left right fits,
    Nat.shiftRight_eq_div_pow, div_of_parts right.isLt, Nat.mod_eq_of_lt left.isLt]

@[simp] theorem low_parts :
    (left.setWidth width <<< low + right.setWidth width).setWidth low = right := by
  apply BitVec.eq_of_toNat_eq
  rw [BitVec.toNat_setWidth, toNat_parts left right fits, mod_of_parts right.isLt]

end

/-- A value that needs no more bits than its two parts have is made of them. -/
theorem parts_of_value (fits : high + low ≤ width) (bound : value.toNat < 2 ^ (high + low)) :
    ((value >>> low).setWidth high).setWidth width <<< low + (value.setWidth low).setWidth width =
      value := by
  apply BitVec.eq_of_toNat_eq
  rw [toNat_parts _ _ fits, BitVec.toNat_setWidth, BitVec.toNat_ushiftRight, BitVec.toNat_setWidth,
    Nat.shiftRight_eq_div_pow]
  have quotient : value.toNat / 2 ^ low < 2 ^ high := by
    rw [Nat.div_lt_iff_lt_mul (by positivity), ← Nat.pow_add]
    exact bound
  rw [Nat.mod_eq_of_lt quotient, Nat.div_add_mod']

/-! The same with the low part first. -/

section

variable {high low width : Nat} (left : BitVec high) (right : BitVec low)
    (fits : high + low ≤ width)

include fits

@[simp] theorem high_parts_low_first :
    ((right.setWidth width + left.setWidth width <<< low) >>> low).setWidth high = left := by
  rw [BitVec.add_comm]
  exact high_parts left right fits

@[simp] theorem low_parts_low_first :
    (right.setWidth width + left.setWidth width <<< low).setWidth low = right := by
  rw [BitVec.add_comm]
  exact low_parts left right fits

theorem toNat_parts_lt_low_first :
    (right.setWidth width + left.setWidth width <<< low).toNat < 2 ^ (high + low) := by
  rw [BitVec.add_comm]
  exact toNat_parts_lt left right fits

end

theorem parts_of_value_low_first (fits : high + low ≤ width) (bound : value.toNat < 2 ^ (high + low)) :
    (value.setWidth low).setWidth width + ((value >>> low).setWidth high).setWidth width <<< low =
      value := by
  rw [BitVec.add_comm]
  exact parts_of_value value fits bound

/-! ## Parts above a padding -/

section

variable {high low width : Nat} (left : BitVec high) (right : BitVec low) {padding place : Nat}
    (above : low + padding = place) (fits : high + place ≤ width)

include above fits

/-- A value of two parts above a padding of zeros. -/
theorem toNat_padded :
    (left.setWidth width <<< place + right.setWidth width <<< padding).toNat =
      (left.toNat * 2 ^ low + right.toNat) * 2 ^ padding := by
  subst above
  have upper := left.isLt
  have whole : (left.toNat * 2 ^ low + right.toNat + 1) * 2 ^ padding ≤ 2 ^ width := by
    have part : (left.toNat + 1) * 2 ^ low ≤ 2 ^ high * 2 ^ low := Nat.mul_le_mul_right _ upper
    rw [← Nat.pow_add, Nat.add_mul, Nat.one_mul] at part
    calc (left.toNat * 2 ^ low + right.toNat + 1) * 2 ^ padding
        ≤ 2 ^ (high + low) * 2 ^ padding := Nat.mul_le_mul_right _ (by omega)
      _ = 2 ^ (high + (low + padding)) := by rw [← Nat.pow_add, Nat.add_assoc]
      _ ≤ 2 ^ width := Nat.pow_le_pow_right (by decide) fits
  have positive : 0 < 2 ^ padding := by positivity
  have leftFits : 2 ^ high ≤ 2 ^ width := Nat.pow_le_pow_right (by decide) (by omega)
  have rightFits : 2 ^ low ≤ 2 ^ width := Nat.pow_le_pow_right (by decide) (by omega)
  rw [Nat.add_mul, Nat.one_mul, Nat.add_mul] at whole
  rw [BitVec.toNat_add, BitVec.toNat_shiftLeft, BitVec.toNat_shiftLeft, BitVec.toNat_setWidth,
    BitVec.toNat_setWidth, Nat.mod_eq_of_lt (by omega : left.toNat < 2 ^ width),
    Nat.mod_eq_of_lt (by omega : right.toNat < 2 ^ width), Nat.shiftLeft_eq, Nat.shiftLeft_eq,
    Nat.pow_add, ← Nat.mul_assoc,
    Nat.mod_eq_of_lt (by omega : left.toNat * 2 ^ low * 2 ^ padding < 2 ^ width),
    Nat.mod_eq_of_lt (by omega : right.toNat * 2 ^ padding < 2 ^ width),
    Nat.mod_eq_of_lt (by omega), Nat.add_mul]

@[simp] theorem high_padded :
    ((left.setWidth width <<< place + right.setWidth width <<< padding) >>> place).setWidth high =
      left := by
  apply BitVec.eq_of_toNat_eq
  rw [BitVec.toNat_setWidth, BitVec.toNat_ushiftRight, toNat_padded left right above fits,
    Nat.shiftRight_eq_div_pow, ← above, Nat.pow_add, Nat.mul_comm (2 ^ low),
    ← Nat.div_div_eq_div_mul, Nat.mul_div_cancel _ (by positivity), div_of_parts right.isLt,
    Nat.mod_eq_of_lt left.isLt]

@[simp] theorem low_padded :
    ((left.setWidth width <<< place + right.setWidth width <<< padding) >>> padding).setWidth low =
      right := by
  apply BitVec.eq_of_toNat_eq
  rw [BitVec.toNat_setWidth, BitVec.toNat_ushiftRight, toNat_padded left right above fits,
    Nat.shiftRight_eq_div_pow, Nat.mul_div_cancel _ (by positivity), mod_of_parts right.isLt]

end

/-- A value whose padding is zero is made of its two parts. -/
theorem padded_of_value {padding place : Nat} (above : low + padding = place)
    (whole : high + place = width) (padded : value.toNat % 2 ^ padding = 0) :
    ((value >>> place).setWidth high).setWidth width <<< place +
        ((value >>> padding).setWidth low).setWidth width <<< padding = value := by
  apply BitVec.eq_of_toNat_eq
  rw [toNat_padded _ _ above (Nat.le_of_eq whole), BitVec.toNat_setWidth, BitVec.toNat_ushiftRight,
    BitVec.toNat_setWidth, BitVec.toNat_ushiftRight, Nat.shiftRight_eq_div_pow,
    Nat.shiftRight_eq_div_pow]
  have bound : value.toNat / 2 ^ place < 2 ^ high := by
    rw [Nat.div_lt_iff_lt_mul (by positivity), ← Nat.pow_add, whole]
    exact value.isLt
  have quotient : value.toNat / 2 ^ place = value.toNat / 2 ^ padding / 2 ^ low := by
    rw [Nat.div_div_eq_div_mul, ← Nat.pow_add, Nat.add_comm, above]
  rw [Nat.mod_eq_of_lt bound, quotient, Nat.div_add_mod', Nat.div_mul_cancel (Nat.dvd_of_mod_eq_zero padded)]

/-! ## Parts of two bytes -/

/-- The low bits of one byte and the high bits of the next, cut out of the two by a shift and a mask. -/
theorem masked_shift_joined {high low shift : Nat} (left right : Byte) (mask : BitVec 16)
    (covers : mask.toNat = 2 ^ (high + low) - 1) (narrow : high ≤ 8) (whole : shift + low = 8) :
    joined 16 left right >>> shift &&& mask =
      (left.extractLsb' 0 high).setWidth 16 <<< low + (right.extractLsb' shift low).setWidth 16 := by
  apply BitVec.eq_of_toNat_eq
  rw [toNat_parts _ _ (by omega), BitVec.toNat_and, covers, Nat.and_two_pow_sub_one_eq_mod,
    BitVec.toNat_ushiftRight, toNat_joined left right (by decide), Nat.shiftRight_eq_div_pow,
    BitVec.extractLsb'_toNat, BitVec.extractLsb'_toNat, Nat.shiftRight_zero, Nat.shiftRight_eq_div_pow]
  have split : 2 ^ 8 = 2 ^ low * 2 ^ shift := by rw [← Nat.pow_add, Nat.add_comm, whole]
  have below : right.toNat / 2 ^ shift < 2 ^ low := by
    rw [Nat.div_lt_iff_lt_mul (by positivity), ← split]
    exact right.isLt
  rw [Nat.mod_eq_of_lt below, split, ← Nat.mul_assoc, Nat.add_comm (left.toNat * 2 ^ low * 2 ^ shift),
    Nat.add_mul_div_right _ _ (by positivity), Nat.add_comm, Nat.pow_add, Nat.mul_comm (2 ^ high),
    Nat.mod_mul, Nat.add_comm (left.toNat * 2 ^ low), Nat.add_mul_mod_self_right,
    Nat.add_mul_div_right _ _ (by positivity), Nat.mod_eq_of_lt below, Nat.div_eq_of_lt below,
    Nat.zero_add, Nat.mul_comm, Nat.add_comm]

theorem masked_shift_joined_first {low shift : Nat} (left right : Byte) (mask : BitVec 16)
    (covers : mask.toNat = 2 ^ (8 + low) - 1) (whole : shift + low = 8) :
    joined 16 left right >>> shift &&& mask =
      left.setWidth 16 <<< low + (right.extractLsb' shift low).setWidth 16 := by
  rw [masked_shift_joined left right mask covers (Nat.le_refl 8) whole, BitVec.extractLsb'_eq_self]

theorem masked_joined_second {high : Nat} (left right : Byte) (mask : BitVec 16)
    (covers : mask.toNat = 2 ^ (high + 8) - 1) (narrow : high ≤ 8) :
    joined 16 left right >>> 0 &&& mask =
      (left.extractLsb' 0 high).setWidth 16 <<< 8 + right.setWidth 16 := by
  rw [masked_shift_joined left right mask covers narrow rfl, BitVec.extractLsb'_eq_self]

/-- A shift to the left under a mask of high bits, as one to the right under a mask of low bits. -/
theorem shiftLeft_masked {shift : Nat} (value : BitVec 16) (small : shift ≤ 6) :
    value <<< shift &&& 0xffc0#16 = (value >>> (6 - shift) &&& 0x3ff#16) <<< 6 := by
  have high : ∀ bit < 16, (0xffc0#16).getLsbD bit = decide (6 ≤ bit) := by decide
  have low : ∀ bit < 16, (0x3ff#16).getLsbD bit = decide (bit < 10) := by decide
  apply BitVec.eq_of_getLsbD_eq
  intro bit below
  rw [BitVec.getLsbD_and, BitVec.getLsbD_shiftLeft, BitVec.getLsbD_shiftLeft, BitVec.getLsbD_and,
    BitVec.getLsbD_ushiftRight, high bit below, low (bit - 6) (by omega)]
  by_cases above : 6 ≤ bit
  · have place : 6 - shift + (bit - 6) = bit - shift := by omega
    have narrow : bit - 6 < 10 := by omega
    have reached : ¬ bit < shift := by omega
    rw [place]
    simp [above, below, narrow, reached]
  · simp [above]

theorem masked_left_joined {high low shift place : Nat} (left right : Byte) (small : shift ≤ 6)
    (narrow : high ≤ 8) (ten : high + low = 10) (whole : 6 - shift + low = 8) (above : low + 6 = place) :
    joined 16 left right <<< shift &&& 0xffc0#16 =
      (left.extractLsb' 0 high).setWidth 16 <<< place +
        (right.extractLsb' (6 - shift) low).setWidth 16 <<< 6 := by
  rw [shiftLeft_masked _ small, masked_shift_joined left right 0x3ff#16 (by rw [ten]; rfl) narrow whole,
    BitVec.shiftLeft_add_distrib, ← BitVec.shiftLeft_add, above]

theorem masked_left_joined_first (left right : Byte) :
    joined 16 left right <<< 0 &&& 0xffc0#16 =
      left.setWidth 16 <<< 8 + (right.extractLsb' 6 2).setWidth 16 <<< 6 := by
  have parts := masked_left_joined left right (Nat.zero_le 6) (Nat.le_refl 8) rfl
    (by decide : 6 - 0 + 2 = 8) rfl
  rw [parts, BitVec.extractLsb'_eq_self]

theorem masked_left_joined_second (left right : Byte) :
    joined 16 left right <<< 6 &&& 0xffc0#16 =
      (left.extractLsb' 0 2).setWidth 16 <<< 14 + right.setWidth 16 <<< 6 := by
  have parts := masked_left_joined left right (Nat.le_refl 6) (by decide : 2 ≤ 8) rfl
    (by decide : 6 - 6 + 8 = 8) rfl
  rw [parts, Nat.sub_self, BitVec.extractLsb'_eq_self]

end MediaTransport.Library
