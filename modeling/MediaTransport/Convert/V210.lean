import MediaTransport.Convert.Scalar422

namespace MediaTransport.Convert

open Library

/-!
# Scalar conversions of v210

Three pixel groups of ten bits, 15 bytes, are four words of v210, 16 bytes, with
three samples in each word.  The functions move the bits byte by byte.
-/

variable (group : Planes Byte) {plane offset : Nat}

/-- Three pixel groups of 10 bit little-endian samples and the four words of v210 that hold them. -/
def le10ToV210 : GroupMap Byte where
  inSize := sizesOf [15]
  outSize := sizesOf [16]
  convert group :=
    let le := group 0
    planesOf [[
      le 0,
      le 1,
      le 2,
      le 3 &&& 0x3F,
      (le 3 >>> 6) ||| (le 4 <<< 2),
      (le 4 >>> 6) ||| (le 5 <<< 2),
      (le 5 >>> 6) ||| (le 6 <<< 2),
      ((le 6 >>> 6) ||| (le 7 <<< 2)) &&& 0x3F,
      (le 7 >>> 4) ||| (le 8 <<< 4),
      (le 8 >>> 4) ||| (le 9 <<< 4),
      (le 9 >>> 4) ||| (le 10 <<< 4),
      ((le 10 >>> 4) ||| (le 11 <<< 4)) &&& 0x3F,
      (le 11 >>> 2) ||| (le 12 <<< 6),
      (le 12 >>> 2) ||| (le 13 <<< 6),
      (le 13 >>> 2) ||| (le 14 <<< 6),
      le 14 >>> 2]]
  reads {first second} same plane offset _ := by
    have here : ∀ offset < 15, first 0 offset = second 0 offset := same 0
    simp [here]

def v210ToLe10 : GroupMap Byte where
  inSize := sizesOf [16]
  outSize := sizesOf [15]
  convert group :=
    let v210 := group 0
    planesOf [[
      v210 0,
      v210 1,
      v210 2,
      v210 3 ||| (v210 4 <<< 6),
      (v210 5 <<< 6) ||| (v210 4 >>> 2),
      (v210 6 <<< 6) ||| (v210 5 >>> 2),
      (v210 7 <<< 6) ||| (v210 6 >>> 2),
      (v210 8 <<< 4) ||| (v210 7 >>> 2),
      (v210 9 <<< 4) ||| (v210 8 >>> 4),
      (v210 10 <<< 4) ||| (v210 9 >>> 4),
      (v210 11 <<< 4) ||| (v210 10 >>> 4),
      (v210 12 <<< 2) ||| (v210 11 >>> 4),
      (v210 13 <<< 2) ||| (v210 12 >>> 6),
      (v210 14 <<< 2) ||| (v210 13 >>> 6),
      (v210 15 <<< 2) ||| (v210 14 >>> 6)]]
  reads {first second} same plane offset _ := by
    have here : ∀ offset < 16, first 0 offset = second 0 offset := same 0
    simp [here]

/-- Three pixel groups as they are sent, and the four words of v210. -/
def be10ToV210 : GroupMap Byte where
  inSize := sizesOf [15]
  outSize := sizesOf [16]
  convert group :=
    let be := group 0
    planesOf [[
      (be 0 <<< 2) ||| (be 1 >>> 6),
      (be 0 >>> 6) ||| (be 1 <<< 6) ||| ((be 2 >>> 2) &&& 0x3C),
      ((be 1 >>> 2) &&& 0x0F) ||| ((be 3 <<< 2) &&& 0xF0),
      ((be 2 <<< 2) ||| (be 3 >>> 6)) &&& 0x3F,
      be 4,
      (be 5 <<< 4) ||| ((be 6 >>> 4) &&& 0x0C) ||| (be 3 &&& 0x03),
      (be 5 >>> 4) ||| (be 7 &&& 0xF0),
      be 6 &&& 0x3F,
      (be 7 <<< 6) ||| (be 8 >>> 2),
      ((be 7 >>> 2) &&& 0x03) ||| (be 9 <<< 2),
      ((be 8 <<< 2) &&& 0x0C) ||| (be 9 >>> 6) ||| (be 10 <<< 6) ||| ((be 11 >>> 2) &&& 0x30),
      be 10 >>> 2,
      (be 12 >>> 4) ||| (be 11 <<< 4),
      ((be 11 >>> 4) &&& 0x03) ||| (be 13 &&& 0xFC),
      (be 12 &&& 0x0F) ||| (be 14 <<< 4),
      ((be 14 >>> 4) ||| (be 13 <<< 4)) &&& 0x3F]]
  reads {first second} same plane offset _ := by
    have here : ∀ offset < 15, first 0 offset = second 0 offset := same 0
    simp [here]

def v210ToBe10 : GroupMap Byte where
  inSize := sizesOf [16]
  outSize := sizesOf [15]
  convert group :=
    let v210 := group 0
    planesOf [[
      (v210 1 <<< 6) ||| (v210 0 >>> 2),
      (v210 0 <<< 6) ||| ((v210 2 <<< 2) &&& 0x3C) ||| (v210 1 >>> 6),
      ((v210 1 <<< 2) &&& 0xF0) ||| ((v210 3 >>> 2) &&& 0x0F),
      (v210 5 &&& 0x03) ||| ((v210 2 >>> 2) &&& 0x3C) ||| (v210 3 <<< 6),
      v210 4,
      (v210 6 <<< 4) ||| (v210 5 >>> 4),
      ((v210 5 <<< 4) &&& 0xC0) ||| (v210 7 &&& 0x3F),
      (v210 6 &&& 0xF0) ||| ((v210 9 <<< 2) &&& 0x0C) ||| (v210 8 >>> 6),
      (v210 8 <<< 2) ||| ((v210 10 >>> 2) &&& 0x3),
      (v210 10 <<< 6) ||| (v210 9 >>> 2),
      (v210 11 <<< 2) ||| (v210 10 >>> 6),
      ((v210 10 <<< 2) &&& 0xC0) ||| ((v210 13 <<< 4) &&& 0x30) ||| (v210 12 >>> 4),
      (v210 12 <<< 4) ||| (v210 14 &&& 0x0F),
      (v210 13 &&& 0xFC) ||| ((v210 15 >>> 4) &&& 0x03),
      (v210 15 <<< 4) ||| (v210 14 >>> 4)]]
  reads {first second} same plane offset _ := by
    have here : ∀ offset < 16, first 0 offset = second 0 offset := same 0
    simp [here]

/-! ## The conversions -/

/-- The loop over batches of three pixel groups.  The place in v210 is a signed number of 32 bits,
which is negative from 2 ^ 31 on. -/
def convertBatches (map : GroupMap Byte) (src dst : Planes Byte) (w h : UInt32) : Converted :=
  if pgCount w h 2 % 3 ≠ 0 then
    some (.error .inval, dst)
  else if (pgCount w h 2 / 3 - 1) * 16 < 2 ^ 31 then
    convertGroups map src dst (pgCount w h 2 / 3)
  else
    none

section Conversions

variable (src dst : Planes Byte) (w h : UInt32)

def st20Rfc4175_422le10ToV210Scalar : Converted := convertBatches le10ToV210 src dst w h

def st20V210ToRfc4175_422le10 : Converted := convertBatches v210ToLe10 src dst w h

def st20Rfc4175_422be10ToV210Scalar : Converted := convertBatches be10ToV210 src dst w h

def st20V210ToRfc4175_422be10Scalar : Converted := convertBatches v210ToBe10 src dst w h

end Conversions

/-! ## Bits -/

/-- The two bits of each word that no sample uses are clear. -/
def V210Within (group : Planes Byte) : Prop :=
  ∀ word < 4, (group 0 (4 * word + 3)).toNat < 64

/-- The samples that are sent come back from v210 bit by bit. -/
theorem be10_v210_be10 (inside : offset < sizesOf [15] plane) :
    v210ToBe10.convert (be10ToV210.convert group) plane offset = group plane offset := by
  apply stored_list rfl inside
  intro offset inside
  interval_cases offset <;>
    simp only [↓planesOf_zero, ↓List.getD_cons_zero, ↓List.getD_cons_succ, be10ToV210]
  all_goals
    apply byte_eq
    intro bit below
    interval_cases bit <;> simp

theorem le10_v210_le10 (inside : offset < sizesOf [15] plane) :
    v210ToLe10.convert (le10ToV210.convert group) plane offset = group plane offset := by
  apply stored_list rfl inside
  intro offset inside
  interval_cases offset <;>
    simp only [↓planesOf_zero, ↓List.getD_cons_zero, ↓List.getD_cons_succ, le10ToV210]
  all_goals
    apply byte_eq
    intro bit below
    interval_cases bit <;> simp

theorem padding_bits {byte : Byte} (within : byte.toNat < 64) : byte[6] = false ∧ byte[7] = false := by
  constructor
  · rw [← BitVec.getLsbD_eq_getElem, BitVec.getLsbD]
    exact Nat.testBit_lt_two_pow within
  · rw [← BitVec.getLsbD_eq_getElem, BitVec.getLsbD]
    exact Nat.testBit_lt_two_pow (by omega)

theorem V210Within.padding {group : Planes Byte} (within : V210Within group) :
    ((group 0 3)[6] = false ∧ (group 0 3)[7] = false) ∧ ((group 0 7)[6] = false ∧ (group 0 7)[7] = false) ∧
      ((group 0 11)[6] = false ∧ (group 0 11)[7] = false) ∧ (group 0 15)[6] = false ∧ (group 0 15)[7] = false :=
  ⟨padding_bits (within 0 (by decide)), padding_bits (within 1 (by decide)), padding_bits (within 2 (by decide)),
    padding_bits (within 3 (by decide))⟩

section

variable {group : Planes Byte} (within : V210Within group) {plane offset : Nat}
    (inside : offset < sizesOf [16] plane)

include within inside

/-- Words of v210 come back from the samples that are sent, where the unused bits were clear. -/
theorem v210_be10_v210 :
    be10ToV210.convert (v210ToBe10.convert group) plane offset = group plane offset := by
  have padding := within.padding
  apply stored_list rfl inside
  intro offset inside
  interval_cases offset <;>
    simp only [↓planesOf_zero, ↓List.getD_cons_zero, ↓List.getD_cons_succ, v210ToBe10]
  all_goals
    apply byte_eq
    intro bit below
    interval_cases bit <;> simp [padding]

theorem v210_le10_v210 :
    le10ToV210.convert (v210ToLe10.convert group) plane offset = group plane offset := by
  have padding := within.padding
  apply stored_list rfl inside
  intro offset inside
  interval_cases offset <;>
    simp only [↓planesOf_zero, ↓List.getD_cons_zero, ↓List.getD_cons_succ, v210ToLe10]
  all_goals
    apply byte_eq
    intro bit below
    interval_cases bit <;> simp [padding]

end

/-- Both ways from what is sent to v210, directly and over the little-endian samples, are one. -/
theorem be10_le10_v210 (inside : offset < sizesOf [16] plane) :
    le10ToV210.convert ((be10ToLe10.times 3).convert group) plane offset =
      be10ToV210.convert group plane offset := by
  have bytes : ∀ place < 15, (be10ToLe10.times 3).convert group 0 place =
      be10ToLe10.convert (group.tail fun input => place / 5 * be10ToLe10.inSize input) 0 (place % 5) := by
    intro place below
    exact GroupMap.times_convert be10ToLe10 3 group below
  have tail : forall start offset,
      group.tail (fun input => start * be10ToLe10.inSize input) 0 offset = group 0 (start * 5 + offset) :=
    fun start offset => rfl
  apply stored_list rfl inside
  intro offset inside
  interval_cases offset <;>
    simp only [↓planesOf_zero, ↓List.getD_cons_zero, ↓List.getD_cons_succ, be10ToV210, bytes,
      Nat.reduceLT, Nat.reduceDiv, Nat.reduceMod, be10ToLe10_convert, tail]
  all_goals
    apply byte_eq
    intro bit below
    interval_cases bit <;> simp

end MediaTransport.Convert
