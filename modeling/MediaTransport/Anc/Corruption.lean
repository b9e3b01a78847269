import MediaTransport.Anc.RoundTrip

namespace MediaTransport.Anc

open Library

/-!
# Damaged sub-packets

A word of a sub-packet has two parity bits, and the checksum adds nine bits of every
word.  Damage to one word either shows in its parity or changes the low eight bits,
and with them the sum.
-/

variable {m : St40Meta} {udwIn buf bad : Nat -> Byte} {i size : Nat}

/-- The first `size` bytes differ in bits of the word with number `i` only. -/
structure DamagedWord (buf bad : Nat -> Byte) (size i : Nat) : Prop where
  rest : ∀ index < 8 * size, (index < 32 + 10 * i ∨ 32 + 10 * i + 10 ≤ index) ->
    bitAt bad index = bitAt buf index
  differs : exists index, 32 + 10 * i ≤ index ∧ index < 32 + 10 * i + 10 ∧ bitAt bad index ≠ bitAt buf index

/-- One bit of the word is another one. -/
structure FlippedBit (buf bad : Nat -> Byte) (size i : Nat) : Prop extends DamagedWord buf bad size i where
  single : forall one other, one < 10 -> other < 10 ->
    bitAt bad (32 + 10 * i + one) ≠ bitAt buf (32 + 10 * i + one) ->
      bitAt bad (32 + 10 * i + other) ≠ bitAt buf (32 + 10 * i + other) -> one = other

def Detected (bad : Nat -> Byte) : Prop :=
  forall room udwCap hdr consumed, exists failure,
    st40Rfc8331DecodePacketInto bad room udwCap hdr consumed = (some failure, hdr, consumed)

/-! ## Words and parity -/

theorem word_eq_of_bits (same : ∀ offset < 10,
    bitAt bad (32 + 10 * i + offset) = bitAt buf (32 + 10 * i + offset)) :
    get10bitUdw i bad 4 = get10bitUdw i buf 4 := by
  have plain := get10bitUdw_of_holds (get10bitUdw_holds i 4 buf)
  have holds := get10bitUdw_holds i 4 buf
  generalize ((get10bitUdw i buf 4).setWidth 10 : BitVec 10) = value at holds plain
  rw [plain]
  apply get10bitUdw_of_holds
  intro offset within
  rw [← holds offset within]
  exact same offset within

theorem DamagedWord.word_ne (damaged : DamagedWord buf bad size i) :
    get10bitUdw i bad 4 ≠ get10bitUdw i buf 4 := by
  intro same
  rcases damaged.differs with ⟨index, lower, upper, differs⟩
  have one := get10bitUdw_holds i 4 bad (index - (32 + 10 * i)) (by omega)
  have two := get10bitUdw_holds i 4 buf (index - (32 + 10 * i)) (by omega)
  rw [same, ← two, show 8 * 4 + 10 * i + (index - (32 + 10 * i)) = index by omega] at one
  exact differs one

theorem parity_injective {first second : BitVec 16} (one : st40CheckParityBits first = true)
    (two : st40CheckParityBits second = true) (low : first.toNat % 256 = second.toNat % 256) :
    first = second := by
  have same : first &&& 0xFF = second &&& 0xFF := by
    rw [← setWidth_low, ← setWidth_low]
    congr 1
    apply BitVec.eq_of_toNat_eq
    rw [BitVec.toNat_setWidth, BitVec.toNat_setWidth]
    exact low
  rw [← st40AddParityBits_of_check one, ← st40AddParityBits_of_check two, same]

/-- A single bit changes the parity. -/
theorem parity_flip {value : BitVec 10} (valid : st40CheckParityBits (value.setWidth 16) = true) {k : Nat}
    (inside : k < 10) : st40CheckParityBits ((value ^^^ BitVec.twoPow 10 k).setWidth 16) = false := by
  have all : forall (low : Fin 256) (k : Fin 10), st40CheckParityBits
      (((st40AddParityBits (BitVec.ofNat 16 low)).setWidth 10 ^^^ BitVec.twoPow 10 k).setWidth 16) = false := by
    decide +kernel
  have low : value.setWidth 16 &&& 0xFF = BitVec.ofNat 16 (value.toNat % 256) := by
    rw [← setWidth_low]
    apply BitVec.eq_of_toNat_eq
    simp only [BitVec.toNat_setWidth, BitVec.toNat_ofNat]
    omega
  have word : value = (st40AddParityBits (BitVec.ofNat 16 (value.toNat % 256))).setWidth 10 := by
    rw [← low, st40AddParityBits_of_check valid, BitVec.setWidth_setWidth_of_le _ (by decide), BitVec.setWidth_eq]
  rw [word]
  exact all ⟨value.toNat % 256, Nat.mod_lt _ (by decide)⟩ ⟨k, inside⟩

/-! ## The checksum -/

theorem checksumOf_low {first second : BitVec 16} (same : checksumOf first = checksumOf second) :
    first.toNat % 512 = second.toNat % 512 := by
  have low : forall sum : BitVec 16, checksumOf sum &&& 0x1ff = sum &&& 0x1ff := by
    intro sum
    unfold checksumOf
    rw [BitVec.and_or_distrib_right, BitVec.and_assoc, BitVec.and_assoc, BitVec.and_self,
      show (0x200 : BitVec 16) &&& 0x1ff = 0 from rfl]
    exact (congrArg (· ||| sum &&& 0x1ff) BitVec.and_zero).trans BitVec.zero_or
  have masked : first &&& 0x1ff = second &&& 0x1ff :=
    (low first).symm.trans ((congrArg (· &&& 0x1ff) same).trans (low second))
  have mask : forall value : Nat, value &&& 511 = value % 512 := fun value => Nat.and_two_pow_sub_one_eq_mod value 9
  have numbers := congrArg BitVec.toNat masked
  rw [BitVec.toNat_and, BitVec.toNat_and] at numbers
  rw [← mask, ← mask]
  exact numbers

theorem sum_low (word : Nat -> BitVec 16) (count : Nat) :
    ((List.range count).foldl (fun chks i => chks + word i) 0).toNat % 512 =
      (∑ i ∈ Finset.range count, (word i).toNat) % 512 := by
  induction count with
  | zero => rfl
  | succ count ih =>
    rw [List.range_succ, List.foldl_append, Finset.sum_range_succ, List.foldl_cons, List.foldl_nil,
      BitVec.toNat_add]
    omega

/-- Sums that differ in one word differ in its low nine bits. -/
theorem calcChecksum_word {count : Nat} (inside : i < count)
    (others : ∀ j < count, j ≠ i -> get10bitUdw j bad 4 = get10bitUdw j buf 4)
    (same : st40CalcChecksum count bad 4 = st40CalcChecksum count buf 4) :
    (get10bitUdw i bad 4).toNat % 512 = (get10bitUdw i buf 4).toNat % 512 := by
  have sums := checksumOf_low same
  rw [sum_low, sum_low] at sums
  have member := Finset.mem_range.mpr inside
  rw [← Finset.add_sum_erase _ (fun j => (get10bitUdw j bad 4).toNat) member,
    ← Finset.add_sum_erase _ (fun j => (get10bitUdw j buf 4).toNat) member] at sums
  have rest : ∑ j ∈ (Finset.range count).erase i, (get10bitUdw j bad 4).toNat =
      ∑ j ∈ (Finset.range count).erase i, (get10bitUdw j buf 4).toNat := by
    apply Finset.sum_congr rfl
    intro j among
    rcases Finset.mem_erase.mp among with ⟨different, below⟩
    rw [others j (Finset.mem_range.mp below) different]
  omega

/-! ## Decoding a damaged packet -/

/-- What one decoder accepts, one with room for every user data word accepts too. -/
theorem decode_any_cap {room : Nat} {udwCap : Option Nat} {d : Decoded}
    (accepted : st40Rfc8331DecodePacket bad room udwCap = .ok d) :
    exists other, st40Rfc8331DecodePacket bad room (some 255) = .ok other := by
  unfold st40Rfc8331DecodePacket decodeChecked at accepted ⊢
  dsimp only at accepted ⊢
  split at accepted
  · cases accepted
  rw [if_neg ‹_›]
  split at accepted
  · cases accepted
  rw [if_neg ‹_›]
  split at accepted
  · cases accepted
  rw [if_neg ‹_›]
  split at accepted
  · cases accepted
  rw [if_neg (by simpa using Nat.and_le_right)]
  split at accepted
  · cases accepted
  split at accepted
  · cases accepted
  rw [if_neg ‹_›]
  exact ⟨_, rfl⟩

theorem decodePacketInto_of_error {room : Nat} {udwCap : Option Nat} {failure : DecodeFailure}
    (refused : st40Rfc8331DecodePacket bad room udwCap = .error failure) (hdr : St40Meta) (consumed : Nat) :
    st40Rfc8331DecodePacketInto bad room udwCap hdr consumed = (some failure, hdr, consumed) := by
  unfold st40Rfc8331DecodePacket decodeChecked at refused
  unfold st40Rfc8331DecodePacketInto decodeChecked
  dsimp only at refused ⊢
  split_ifs at refused ⊢ <;> grind

/-- An undetected damaged packet is one that an encoder could have written. -/
theorem onWire_of_undetected (undetected : ¬Detected bad) :
    exists (hdr : St40Meta) (udw : Nat -> Byte), OnWire bad hdr udw ∧ hdr.udwSize.toNat ≤ 255 := by
  unfold Detected at undetected
  push Not at undetected
  rcases undetected with ⟨room, udwCap, hdr, consumed, none⟩
  cases decoded : st40Rfc8331DecodePacket bad room udwCap with
  | error failure => exact absurd (decodePacketInto_of_error decoded hdr consumed) (none failure)
  | ok d =>
    rcases decode_any_cap decoded with ⟨other, accepted⟩
    rcases onWire_of_decode accepted with ⟨wire, -, short, -⟩
    exact ⟨_, _, wire, short⟩

theorem OnWire.parity (wire : OnWire buf m udwIn) (inside : i < 3 + m.udwSize.toNat) :
    st40CheckParityBits (get10bitUdw i buf 4) = true := by
  rw [wire.get10bitUdw_eq inside]
  rcases i with - | - | - | i <;> exact st40CheckParityBits_add _

/-- The packet says how many words it has in a word that was not damaged. -/
theorem OnWire.same_size {other : St40Meta} {udwOut : Nat -> Byte} (wire : OnWire buf m udwIn)
    (read : OnWire bad other udwOut) (short : m.udwSize.toNat ≤ 255) (shortRead : other.udwSize.toNat ≤ 255)
    (same : get10bitUdw 2 bad 4 = get10bitUdw 2 buf 4) : other.udwSize = m.udwSize := by
  rw [read.get10bitUdw_eq (by omega), wire.get10bitUdw_eq (by omega)] at same
  have low : other.udwSize &&& 0xFF = m.udwSize &&& 0xFF := by
    rw [← st40AddParityBits_low other.udwSize, ← st40AddParityBits_low m.udwSize]
    exact congrArg (· &&& 0xFF) same
  rwa [and_mask_of_lt (by omega), and_mask_of_lt (by omega)] at low

section

variable (wire : OnWire buf m udwIn) (short : m.udwSize.toNat ≤ 255)

include wire short

theorem OnWire.damaged_detected (inside : i < m.udwSize.toNat + 4) (count : i ≠ 2)
    (damaged : DamagedWord buf bad (st40Rfc8331PayloadBytes m.udwSize.toNat) i) : Detected bad := by
  by_contra undetected
  rcases onWire_of_undetected undetected with ⟨hdr, udw, read, shortRead⟩
  have kept : ∀ j < m.udwSize.toNat + 4, j ≠ i -> get10bitUdw j bad 4 = get10bitUdw j buf 4 := by
    intro j below different
    apply word_eq_of_bits
    intro offset within
    apply damaged.rest
    · rw [st40Rfc8331PayloadBytes_eq]
      omega
    · omega
  have size := wire.same_size read short shortRead (kept 2 (by omega) (Ne.symm count))
  have readSum := read.checksum_eq.trans read.calcChecksum_eq.symm
  have wireSum := wire.checksum_eq.trans wire.calcChecksum_eq.symm
  rw [size] at readSum
  by_cases last : i = m.udwSize.toNat + 3
  · -- The sum of the other words is still the one that was written.
    apply damaged.word_ne
    rw [last, readSum, wireSum]
    unfold st40CalcChecksum
    congr 1
    apply List.foldl_ext
    intro chks j member
    rw [kept j (by have below := List.mem_range.mp member; omega)
      (by have below := List.mem_range.mp member; omega)]
  · have same : st40CalcChecksum (3 + m.udwSize.toNat) bad 4 = st40CalcChecksum (3 + m.udwSize.toNat) buf 4 := by
      rw [← readSum, ← wireSum]
      exact kept _ (by omega) (Ne.symm last)
    have low := calcChecksum_word (show i < 3 + m.udwSize.toNat by omega)
      (fun j below different => kept j (by omega) different) same
    exact damaged.word_ne
      (parity_injective (read.parity (by rw [size]; omega)) (wire.parity (by omega)) (by omega))

theorem OnWire.flip_detected
    (flipped : FlippedBit buf bad (st40Rfc8331PayloadBytes m.udwSize.toNat) 2) : Detected bad := by
  by_contra undetected
  rcases onWire_of_undetected undetected with ⟨hdr, udw, read, shortRead⟩
  rcases flipped.differs with ⟨index, lower, upper, differs⟩
  have before := get10bitUdw_holds 2 4 buf
  have after := get10bitUdw_holds 2 4 bad
  have valid := wire.parity (show 2 < 3 + m.udwSize.toNat by omega)
  have accepted := read.parity (show 2 < 3 + hdr.udwSize.toNat by omega)
  rw [get10bitUdw_of_holds before] at valid
  rw [get10bitUdw_of_holds after] at accepted
  generalize ((get10bitUdw 2 buf 4).setWidth 10 : BitVec 10) = value at before valid
  generalize ((get10bitUdw 2 bad 4).setWidth 10 : BitVec 10) = other at after accepted
  have flip : other = value ^^^ BitVec.twoPow 10 (9 - (index - 52)) := by
    apply BitVec.eq_of_getMsbD_eq
    intro offset within
    rw [BitVec.getMsbD_xor, BitVec.getMsbD_twoPow, ← before offset within, ← after offset within,
      decide_eq_true (by omega), Bool.true_and]
    by_cases here : offset = index - 52
    · rw [decide_eq_true (by omega), show 8 * 4 + 10 * 2 + offset = index by omega]
      cases one : bitAt bad index <;> cases two : bitAt buf index <;> simp_all
    · rw [decide_eq_false (by omega), Bool.xor_false]
      by_contra different
      have places := flipped.single offset (index - 52) within (by omega) different
        (by rwa [show 32 + 10 * 2 + (index - 52) = index by omega])
      exact here places
  have wrong := parity_flip valid (show 9 - (index - 52) < 10 by omega)
  rw [← flip, accepted] at wrong
  cases wrong

end

/-- Any damage to one word of an encoded packet is detected, in the count of the words if it is one bit. -/
theorem damage_detected {room written : Nat} {out : Nat -> Byte}
    (encoded : st40Rfc8331EncodePacket buf room m udwIn = .ok (out, written)) :
    (forall i bad, i < m.udwSize.toNat + 4 -> i ≠ 2 -> DamagedWord out bad written i -> Detected bad) ∧
      forall bad, FlippedBit out bad written 2 -> Detected bad := by
  have fits : m.udwSize.toNat ≤ 255 ∧ st40Rfc8331PayloadBytes m.udwSize.toNat ≤ room := by
    unfold st40Rfc8331EncodePacket at encoded
    dsimp only at encoded
    split at encoded
    · cases encoded
    split at encoded
    · cases encoded
    omega
  rcases st40Rfc8331EncodePacket_writes buf udwIn fits.1 fits.2 with ⟨content, packet, wire, -⟩
  rw [packet] at encoded
  cases encoded
  exact ⟨fun i bad inside count damaged => wire.damaged_detected fits.1 inside count damaged,
    fun bad flipped => wire.flip_detected fits.1 flipped⟩

theorem damage_detected_top :
    exists out, st40Rfc8331EncodePacket (fun _ => 0xFF) 12 topMeta (memoryOf [1, 254]) = .ok (out, 12) ∧
      (forall i bad, i < 6 -> i ≠ 2 -> DamagedWord out bad 12 i -> Detected bad) ∧
        forall bad, FlippedBit out bad 12 2 -> Detected bad :=
  ⟨_, rfl, @damage_detected topMeta (memoryOf [1, 254]) (fun _ => 0xFF) 12 12 _ rfl⟩

end MediaTransport.Anc
