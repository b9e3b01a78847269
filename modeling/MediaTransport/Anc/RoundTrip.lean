import MediaTransport.Anc.Codec

namespace MediaTransport.Anc

open Library

/-!
# Encoding and decoding sub-packets

Both directions of the codec are compared with one description of the wire:
which bits hold the first header word, which hold the ten-bit word with a given
number, and which are padding.
-/

variable (val : BitVec 16) (idx : Nat) (buf : Nat -> Byte)

variable {i : Nat} {m : St40Meta} {udwIn : Nat -> Byte}

/-! ## Ten-bit words as runs of bits -/

theorem phase_cases : idx * 10 % 8 = 0 ∨ idx * 10 % 8 = 2 ∨ idx * 10 % 8 = 4 ∨ idx * 10 % 8 = 6 := by
  omega

theorem get10bitUdw_eq (data : Nat -> Byte) (base : Nat) :
    get10bitUdw idx data base =
      ((loadBe16 data (base + idx * 10 / 8)).extractLsb' (6 - idx * 10 % 8) 10).setWidth 16 := by
  unfold get10bitUdw
  rcases phase_cases idx with phase | phase | phase | phase <;> simp only [phase]

theorem set10bitUdw_eq (udw : BitVec 16) (data : Nat -> Byte) (base : Nat) :
    set10bitUdw idx udw data base =
      storeBe16 data (base + idx * 10 / 8)
        (setField (loadBe16 data (base + idx * 10 / 8)) (6 - idx * 10 % 8)
          (udw.setWidth 10 : BitVec 10)) := by
  unfold set10bitUdw
  rcases phase_cases idx with phase | phase | phase | phase <;> simp only [phase]

theorem get10bitUdw_of_holds {idx base : Nat} {data : Nat -> Byte} {value : BitVec 10}
    (holds : HoldsAt data (8 * base + 10 * idx) value) :
    get10bitUdw idx data base = value.setWidth 16 := by
  have loaded := (loadBe16_holds data (base + idx * 10 / 8)).extract (6 - idx * 10 % 8) 10 (by omega)
  have position : 8 * (base + idx * 10 / 8) + (16 - (6 - idx * 10 % 8) - 10) = 8 * base + 10 * idx := by
    omega
  rw [position] at loaded
  rw [get10bitUdw_eq, loaded.unique holds]

theorem get10bitUdw_holds (idx base : Nat) (data : Nat -> Byte) :
    HoldsAt data (8 * base + 10 * idx) ((get10bitUdw idx data base).setWidth 10) := by
  have loaded := (loadBe16_holds data (base + idx * 10 / 8)).extract (6 - idx * 10 % 8) 10 (by omega)
  have position : 8 * (base + idx * 10 / 8) + (16 - (6 - idx * 10 % 8) - 10) = 8 * base + 10 * idx := by
    omega
  rw [position] at loaded
  rwa [get10bitUdw_eq, BitVec.setWidth_setWidth_of_le _ (by decide), BitVec.setWidth_eq]

theorem bitAt_set10bitUdw (udw : BitVec 16) (data : Nat -> Byte) (base index : Nat) :
    bitAt (set10bitUdw idx udw data base) index =
      if 8 * base + 10 * idx ≤ index ∧ index < 8 * base + 10 * idx + 10 then
        (udw.setWidth 10 : BitVec 10).getMsbD (index - (8 * base + 10 * idx))
      else bitAt data index := by
  rw [set10bitUdw_eq, bitAt_storeBe16]
  by_cases loaded : 8 * (base + idx * 10 / 8) ≤ index ∧ index < 8 * (base + idx * 10 / 8) + 16
  · rw [if_pos loaded, getMsbD_setField _ _ _ (by omega) (by omega)]
    by_cases field : 8 * base + 10 * idx ≤ index ∧ index < 8 * base + 10 * idx + 10
    · rw [if_pos field, if_pos (by omega)]
      congr 1
      omega
    · rw [if_neg field, if_neg (by omega),
        ← loadBe16_holds data (base + idx * 10 / 8) (index - 8 * (base + idx * 10 / 8)) (by omega)]
      congr 1
      omega
  · rw [if_neg loaded, if_neg (by omega)]

/-! ## Values of ten bits -/

def TenBit (value : BitVec 16) : Prop := ((value.setWidth 10 : BitVec 10)).setWidth 16 = value

theorem tenBit_of_lt {value : BitVec 16} (small : value.toNat < 1024) : TenBit value := by
  apply BitVec.eq_of_toNat_eq
  simp only [BitVec.toNat_setWidth]
  omega

theorem and_mask_le (value mask : BitVec 16) : (value &&& mask).toNat ≤ mask.toNat := by
  rw [BitVec.toNat_and]
  exact Nat.and_le_right

theorem tenBit_checksumOf (sum : BitVec 16) : TenBit (checksumOf sum) := by
  apply tenBit_of_lt
  rw [checksumOf, BitVec.toNat_or]
  apply @Nat.or_lt_two_pow _ _ 10
  · exact Nat.lt_of_le_of_lt (and_mask_le _ _) (by decide)
  · exact Nat.lt_of_le_of_lt (and_mask_le _ _) (by decide)

/-! ## Parity -/

theorem parityTab_length : parityTab.length = 256 := by
  decide +kernel

theorem parityTab_bits {entry : BitVec 16} (member : entry ∈ parityTab) :
    entry = 0x100 ∨ entry = 0x200 := by
  have all : parityTab.all (fun entry => entry == 0x100 || entry == 0x200) = true := by
    decide +kernel
  have bits := List.all_eq_true.mp all entry member
  simpa only [Bool.or_eq_true, beq_iff_eq] using bits

theorem getParityBits_cases : getParityBits val = 0x100 ∨ getParityBits val = 0x200 := by
  apply parityTab_bits
  have bound : (val &&& 0xFF).toNat < parityTab.length := by
    rw [parityTab_length]
    exact Nat.lt_of_le_of_lt (and_mask_le _ _) (by decide)
  rw [getParityBits, List.getD_eq_getElem _ _ bound]
  exact List.getElem_mem bound

theorem st40AddParityBits_low : st40AddParityBits val &&& 0xFF = val &&& 0xFF := by
  have clear : getParityBits val &&& 0xFF = 0 := by
    rcases getParityBits_cases val with bits | bits <;> rw [bits] <;> rfl
  rw [st40AddParityBits, BitVec.and_or_distrib_right, clear, BitVec.and_assoc, BitVec.and_self]
  exact BitVec.zero_or

theorem getParityBits_low : getParityBits (val &&& 0xFF) = getParityBits val := by
  rw [getParityBits, getParityBits, BitVec.and_assoc, BitVec.and_self]

theorem st40AddParityBits_of_low : st40AddParityBits (val &&& 0xFF) = st40AddParityBits val := by
  rw [st40AddParityBits, st40AddParityBits, getParityBits_low, BitVec.and_assoc, BitVec.and_self]

theorem st40CheckParityBits_add : st40CheckParityBits (st40AddParityBits val) = true := by
  rw [st40CheckParityBits, st40AddParityBits_low, st40AddParityBits_of_low]
  exact beq_self_eq_true _

theorem st40AddParityBits_of_check {val : BitVec 16} (checked : st40CheckParityBits val = true) :
    st40AddParityBits (val &&& 0xFF) = val :=
  (eq_of_beq checked).symm

theorem tenBit_st40AddParityBits : TenBit (st40AddParityBits val) := by
  apply tenBit_of_lt
  rw [st40AddParityBits, BitVec.toNat_or]
  apply @Nat.or_lt_two_pow _ _ 10
  · rcases getParityBits_cases val with bits | bits <;> rw [bits] <;> decide
  · exact Nat.lt_of_le_of_lt (and_mask_le _ _) (by decide)

theorem setWidth_low : (val.setWidth 8 : Byte).setWidth 16 = val &&& 0xFF := by
  apply BitVec.eq_of_toNat_eq
  have mask : val.toNat &&& 255 = val.toNat % 256 := Nat.and_two_pow_sub_one_eq_mod val.toNat 8
  rw [BitVec.toNat_setWidth, BitVec.toNat_setWidth, BitVec.toNat_and]
  change val.toNat % 256 % 65536 = val.toNat &&& 255
  rw [mask]
  omega

theorem st40AddParityBits_byte (val : Byte) :
    (st40AddParityBits (val.setWidth 16)).setWidth 8 = val := by
  have low := st40AddParityBits_low (val.setWidth 16)
  rw [← setWidth_low, ← setWidth_low] at low
  have narrow := congrArg (fun wide : BitVec 16 => (wide.setWidth 8 : Byte)) low
  simpa only [BitVec.setWidth_setWidth_of_le _ (show 8 ≤ 16 by decide), BitVec.setWidth_eq] using narrow

/-! ## The bits of a sub-packet -/

theorem st40Rfc8331PayloadBytes_eq (udwSize : Nat) :
    st40Rfc8331PayloadBytes udwSize = 4 + (((3 + udwSize + 1) * 10 + 7) / 8 + 3) / 4 * 4 := rfl

def wireWord (m : St40Meta) (udwIn : Nat -> Byte) : Nat -> BitVec 16
  | 0 => st40AddParityBits m.did
  | 1 => st40AddParityBits m.sdid
  | 2 => st40AddParityBits m.udwSize
  | i + 3 => st40AddParityBits ((udwIn i).setWidth 16)

def wireChecksum (m : St40Meta) (udwIn : Nat -> Byte) : BitVec 16 :=
  checksumOf ((List.range (3 + m.udwSize.toNat)).foldl (fun chks i => chks + wireWord m udwIn i) 0)

/-- The buffer starts with the sub-packet of this metadata and these bytes. -/
structure OnWire (buf : Nat -> Byte) (m : St40Meta) (udwIn : Nat -> Byte) : Prop where
  first : HoldsAt buf 0 (firstHdrChunk m)
  words : ∀ i < 3 + m.udwSize.toNat,
    HoldsAt buf (8 * 4 + 10 * i) ((wireWord m udwIn i).setWidth 10)
  checksum : HoldsAt buf (8 * 4 + 10 * (m.udwSize.toNat + 3)) ((wireChecksum m udwIn).setWidth 10)

def wireBits (udwSize : Nat) : Nat := 32 + 10 * (udwSize + 4)

theorem tenBit_wireWord (m : St40Meta) (udwIn : Nat -> Byte) (i : Nat) :
    TenBit (wireWord m udwIn i) := by
  rcases i with - | - | - | i <;> exact tenBit_st40AddParityBits _

theorem OnWire.get10bitUdw_eq {buf : Nat -> Byte}
    (wire : OnWire buf m udwIn) (inside : i < 3 + m.udwSize.toNat) :
    get10bitUdw i buf 4 = wireWord m udwIn i := by
  rw [get10bitUdw_of_holds (wire.words i inside)]
  exact tenBit_wireWord m udwIn i

theorem OnWire.checksum_eq {buf : Nat -> Byte} (wire : OnWire buf m udwIn) :
    get10bitUdw (m.udwSize.toNat + 3) buf 4 = wireChecksum m udwIn := by
  rw [get10bitUdw_of_holds wire.checksum]
  exact tenBit_checksumOf _

theorem OnWire.calcChecksum_eq {buf : Nat -> Byte} (wire : OnWire buf m udwIn) :
    st40CalcChecksum (3 + m.udwSize.toNat) buf 4 = wireChecksum m udwIn := by
  unfold st40CalcChecksum wireChecksum
  congr 1
  apply List.foldl_ext
  intro chks i member
  rw [wire.get10bitUdw_eq (List.mem_range.mp member)]

theorem OnWire.bitAt_eq {buf other : Nat -> Byte}
    (one : OnWire buf m udwIn) (two : OnWire other m udwIn) {index : Nat}
    (inside : index < wireBits m.udwSize.toNat) : bitAt buf index = bitAt other index := by
  unfold wireBits at inside
  by_cases header : index < 32
  · have left := one.first index header
    have right := two.first index header
    rw [Nat.zero_add] at left right
    rw [left, right]
  · have position : 8 * 4 + 10 * ((index - 32) / 10) + (index - 32) % 10 = index := by omega
    by_cases word : (index - 32) / 10 < 3 + m.udwSize.toNat
    · have left := one.words _ word ((index - 32) % 10) (by omega)
      have right := two.words _ word ((index - 32) % 10) (by omega)
      rw [position] at left right
      rw [left, right]
    · have last : (index - 32) / 10 = m.udwSize.toNat + 3 := by omega
      have left := one.checksum ((index - 32) % 10) (by omega)
      have right := two.checksum ((index - 32) % 10) (by omega)
      rw [← last, position] at left right
      rw [left, right]

/-! ## What the encoder writes -/

theorem storeUdws (buf : Nat -> Byte) (value : Nat -> BitVec 16) (count : Nat) :
    let out := (List.range count).foldl (fun buf i => set10bitUdw (i + 3) (value i) buf 4) buf
    (∀ i < count, HoldsAt out (8 * 4 + 10 * (i + 3)) ((value i).setWidth 10)) ∧
      forall index, index < 62 ∨ 62 + 10 * count ≤ index -> bitAt out index = bitAt buf index := by
  induction count with
  | zero => exact ⟨fun i absurd => (by omega), fun index outside => rfl⟩
  | succ count ih =>
    rcases ih with ⟨held, kept⟩
    simp only [List.range_succ, List.foldl_append, List.foldl_cons, List.foldl_nil]
    constructor
    · intro i inside offset within
      rw [bitAt_set10bitUdw]
      by_cases newest : i = count
      · rw [if_pos (by omega), newest]
        congr 1
        omega
      · rw [if_neg (by omega)]
        exact held i (by omega) offset within
    · intro index outside
      rw [bitAt_set10bitUdw, if_neg (by omega)]
      exact kept index (by omega)

theorem bitAt_clearBytes (need : Nat) {index : Nat} (inside : index < 8 * need) :
    bitAt (clearBytes buf need) index = false := by
  rw [bitAt, clearBytes, if_pos (by omega)]
  exact BitVec.getMsbD_zero

theorem secondHdrChunk_holds {buf : Nat -> Byte} (udwIn : Nat -> Byte)
    (holds : HoldsAt buf 32 (secondHdrChunk m)) (header : i < 3) :
    HoldsAt buf (8 * 4 + 10 * i) ((wireWord m udwIn i).setWidth 10) := by
  intro offset within
  have bit := holds (10 * i + offset) (by omega)
  rw [← Nat.add_assoc] at bit
  rw [bit, secondHdrChunk]
  simp only [BitVec.getMsbD_append]
  have cases : i = 0 ∨ i = 1 ∨ i = 2 := by omega
  rcases cases with zero | one | two
  · subst zero
    rw [if_neg (by omega), if_neg (by omega), if_neg (by omega), Nat.mul_zero, Nat.zero_add]
    rfl
  · subst one
    rw [if_neg (by omega), if_neg (by omega), if_pos (by omega)]
    rw [show 10 * 1 + offset - 10 = offset by omega]
    rfl
  · subst two
    rw [if_neg (by omega), if_pos (by omega)]
    rw [show 10 * 2 + offset - (10 + 10) = offset by omega]
    rfl

/-- A sub-packet with room for it is written whole, with clear padding. -/
theorem st40Rfc8331EncodePacket_writes (buf : Nat -> Byte) {room : Nat}
    (udwIn : Nat -> Byte) (short : m.udwSize.toNat ≤ 255)
    (fits : st40Rfc8331PayloadBytes m.udwSize.toNat ≤ room) :
    Exists fun out =>
      st40Rfc8331EncodePacket buf room m udwIn =
        .ok (out, st40Rfc8331PayloadBytes m.udwSize.toNat) ∧
      OnWire out m udwIn ∧
      forall index, wireBits m.udwSize.toNat ≤ index ->
        index < 8 * st40Rfc8331PayloadBytes m.udwSize.toNat -> bitAt out index = false := by
  rw [st40Rfc8331EncodePacket]
  dsimp only
  rw [if_neg (by omega), if_neg (by omega)]
  generalize need_eq : st40Rfc8331PayloadBytes m.udwSize.toNat = need
  generalize start_eq : storeBe32 (storeBe32 (clearBytes buf need) 0 (firstHdrChunk m)) 4
    (secondHdrChunk m) = start
  rcases storeUdws start (fun i => st40AddParityBits ((udwIn i).setWidth 16)) m.udwSize.toNat
    with ⟨held, kept⟩
  generalize body_eq : (List.range m.udwSize.toNat).foldl (fun buf i =>
    set10bitUdw (i + 3) (st40AddParityBits ((udwIn i).setWidth 16)) buf 4) start = body at held kept ⊢
  have first : HoldsAt start 0 (firstHdrChunk m) := by
    intro offset within
    rw [← start_eq, bitAt_storeBe32, if_neg (by omega), bitAt_storeBe32, if_pos (by omega)]
    congr 1
    omega
  have second : HoldsAt start 32 (secondHdrChunk m) := by
    intro offset within
    rw [← start_eq, bitAt_storeBe32, if_pos (by omega)]
    congr 1
    omega
  have clear : forall index, 64 ≤ index -> index < 8 * need -> bitAt start index = false := by
    intro index lower upper
    rw [← start_eq, bitAt_storeBe32, if_neg (by omega), bitAt_storeBe32, if_neg (by omega)]
    exact bitAt_clearBytes buf need upper
  -- every word before the checksum stands in the buffer the checksum is taken of
  have words : ∀ i < 3 + m.udwSize.toNat,
      HoldsAt body (8 * 4 + 10 * i) ((wireWord m udwIn i).setWidth 10) := by
    intro i inside
    by_cases header : i < 3
    · apply (secondHdrChunk_holds udwIn second header).congr
      intro offset within
      exact kept _ (by omega)
    · have position : i = i - 3 + 3 := by omega
      rw [position]
      exact held (i - 3) (by omega)
  have checksum : st40CalcChecksum (3 + m.udwSize.toNat) body 4 = wireChecksum m udwIn := by
    unfold st40CalcChecksum wireChecksum
    congr 1
    apply List.foldl_ext
    intro chks i member
    have inside := List.mem_range.mp member
    rw [get10bitUdw_of_holds (words i inside)]
    congr 1
    exact tenBit_wireWord m udwIn i
  refine ⟨_, rfl, ⟨?_, ?_, ?_⟩, ?_⟩
  · apply first.congr
    intro offset within
    rw [bitAt_set10bitUdw, if_neg (by omega)]
    exact kept _ (by omega)
  · intro i inside
    apply (words i inside).congr
    intro offset within
    rw [bitAt_set10bitUdw, if_neg (by omega)]
  · intro offset within
    rw [bitAt_set10bitUdw, if_pos (by omega), checksum]
    congr 1
    omega
  · intro index lower upper
    unfold wireBits at lower
    rw [bitAt_set10bitUdw, if_neg (by omega), kept index (by omega)]
    exact clear index (by omega) upper

/-! ## What the decoder reads -/

theorem decodeUdws_of_words {buf : Nat -> Byte} {left : Nat}
    (words : forall j, i ≤ j -> j < i + left ->
      get10bitUdw (j + 3) buf 4 = st40AddParityBits ((udwIn j).setWidth 16)) :
    decodeUdws buf i left = .ok ((List.range' i left).map udwIn) := by
  induction left generalizing i with
  | zero => rfl
  | succ left ih =>
    rw [decodeUdws]
    rw [words i (by omega) (by omega), st40CheckParityBits_add, ih (fun j lower upper =>
      words j (by omega) (by omega)), st40AddParityBits_byte]
    rfl

theorem words_of_decodeUdws {buf : Nat -> Byte} {left : Nat} {udws : List Byte}
    (read : decodeUdws buf i left = .ok udws) :
    udws.length = left ∧ ∀ j < left,
      get10bitUdw (i + j + 3) buf 4 = st40AddParityBits ((memoryOf udws j).setWidth 16) := by
  induction left generalizing i udws with
  | zero =>
    cases read
    exact ⟨rfl, fun j absurd => (by omega)⟩
  | succ left ih =>
    rw [decodeUdws] at read
    by_cases checked : st40CheckParityBits (get10bitUdw (i + 3) buf 4) = true
    · rw [checked] at read
      cases rest_eq : decodeUdws buf (i + 1) left with
      | error failure =>
        rw [rest_eq] at read
        cases read
      | ok rest =>
        rw [rest_eq] at read
        cases read
        rcases ih rest_eq with ⟨length, words⟩
        constructor
        · rw [List.length_cons, length]
        · intro j inside
          rcases j with - | j
          · change get10bitUdw (i + 3) buf 4 =
              st40AddParityBits (((get10bitUdw (i + 3) buf 4).setWidth 8 : Byte).setWidth 16)
            rw [setWidth_low, st40AddParityBits_of_check checked]
          · have word := words j (by omega)
            rw [show i + 1 + j + 3 = i + (j + 1) + 3 by omega] at word
            exact word
    · rw [eq_false_of_ne_true checked] at read
      cases read

theorem loadBe32_udw {i : Nat} (header : i < 3) :
    ((loadBe32 buf 4).extractLsb' (22 - 10 * i) 10).setWidth 16 = get10bitUdw i buf 4 := by
  have loaded := (loadBe32_holds buf 4).extract (22 - 10 * i) 10 (by omega)
  have position : 8 * 4 + (32 - (22 - 10 * i) - 10) = 8 * 4 + 10 * i := by omega
  rw [position] at loaded
  rw [get10bitUdw_of_holds loaded]

/-! ## The first header word -/

theorem firstHdrChunk_toNat (m : St40Meta) :
    (firstHdrChunk m).toNat =
      m.c.toNat % 2 * 2147483648 + m.lineNumber.toNat % 2048 * 1048576 +
        m.horiOffset.toNat % 4096 * 256 + m.s.toNat % 2 * 128 + m.streamNum.toNat % 128 := by
  unfold firstHdrChunk
  simp only [toNat_append_eq, BitVec.toNat_setWidth]
  omega

theorem field_toNat (chunk : BitVec 32) (low width : Nat) (narrow : width ≤ 16) :
    (((chunk.extractLsb' low width).setWidth 16 : BitVec 16)).toNat =
      chunk.toNat / 2 ^ low % 2 ^ width := by
  have power : 2 ^ width ≤ 2 ^ 16 := Nat.pow_le_pow_right (by decide) narrow
  have bound : chunk.toNat / 2 ^ low % 2 ^ width < 2 ^ width := Nat.mod_lt _ (Nat.two_pow_pos width)
  rw [BitVec.toNat_setWidth, BitVec.extractLsb'_toNat, Nat.shiftRight_eq_div_pow]
  exact Nat.mod_eq_of_lt (Nat.lt_of_lt_of_le bound power)

/-- The metadata fits the fields of the wire. -/
structure St40Meta.InRange (m : St40Meta) : Prop where
  c_lt : m.c.toNat < 2
  lineNumber_lt : m.lineNumber.toNat < 2048
  horiOffset_lt : m.horiOffset.toNat < 4096
  s_lt : m.s.toNat < 2
  streamNum_lt : m.streamNum.toNat < 128
  did_lt : m.did.toNat < 256
  sdid_lt : m.sdid.toNat < 256

/-- The fields the decoder takes from a first header word. -/
def readFirstHdrChunk (first : BitVec 32) (m : St40Meta) : St40Meta :=
  { m with
    c := (first.extractLsb' 31 1).setWidth 16
    lineNumber := (first.extractLsb' 20 11).setWidth 16
    horiOffset := (first.extractLsb' 8 12).setWidth 16
    s := (first.extractLsb' 7 1).setWidth 16
    streamNum := (first.extractLsb' 0 7).setWidth 16 }

theorem readFirstHdrChunk_write (range : m.InRange) :
    readFirstHdrChunk (firstHdrChunk m) m = m := by
  have chunk := firstHdrChunk_toNat m
  have c_lt := range.c_lt
  have lineNumber_lt := range.lineNumber_lt
  have horiOffset_lt := range.horiOffset_lt
  have s_lt := range.s_lt
  have streamNum_lt := range.streamNum_lt
  rcases m with ⟨c, lineNumber, horiOffset, s, streamNum, did, sdid, udwSize, udwOffset⟩
  unfold readFirstHdrChunk
  dsimp only at *
  congr 1
  all_goals
    apply BitVec.eq_of_toNat_eq
    rw [field_toNat _ _ _ (by decide), chunk]
    omega

theorem firstHdrChunk_read (first : BitVec 32) (m : St40Meta) :
    firstHdrChunk (readFirstHdrChunk first m) = first := by
  apply BitVec.eq_of_toNat_eq
  rw [firstHdrChunk_toNat]
  unfold readFirstHdrChunk
  simp only [field_toNat first _ _ (show 1 ≤ 16 by decide), field_toNat first _ _ (show 11 ≤ 16 by decide),
    field_toNat first _ _ (show 12 ≤ 16 by decide), field_toNat first _ _ (show 7 ≤ 16 by decide)]
  omega

/-! ## Decoding -/

theorem header_udws :
    ((loadBe32 buf 4).extractLsb' 22 10).setWidth 16 = get10bitUdw 0 buf 4 ∧
      ((loadBe32 buf 4).extractLsb' 12 10).setWidth 16 = get10bitUdw 1 buf 4 ∧
      ((loadBe32 buf 4).extractLsb' 2 10).setWidth 16 = get10bitUdw 2 buf 4 :=
  ⟨@loadBe32_udw buf 0 (by decide), @loadBe32_udw buf 1 (by decide), @loadBe32_udw buf 2 (by decide)⟩

theorem and_mask_of_lt {value : BitVec 16} (small : value.toNat < 256) : value &&& 0xFF = value := by
  apply BitVec.eq_of_toNat_eq
  have mask : value.toNat &&& 255 = value.toNat % 256 := Nat.and_two_pow_sub_one_eq_mod value.toNat 8
  rw [BitVec.toNat_and]
  change value.toNat &&& 255 = value.toNat
  rw [mask, Nat.mod_eq_of_lt small]

theorem st40Rfc8331DecodePacket_of_onWire {buf : Nat -> Byte} {room cap : Nat}
    (wire : OnWire buf m udwIn) (range : m.InRange) (short : m.udwSize.toNat ≤ 255)
    (fits : st40Rfc8331PayloadBytes m.udwSize.toNat ≤ room) (holds : m.udwSize.toNat ≤ cap) :
    st40Rfc8331DecodePacket buf room (some cap) = .ok {
      hdr := { m with udwOffset := 0 }
      udwOut := (List.range m.udwSize.toNat).map udwIn
      consumed := st40Rfc8331PayloadBytes m.udwSize.toNat } := by
  have first : loadBe32 buf 0 = firstHdrChunk m := (loadBe32_holds buf 0).unique wire.first
  have did : get10bitUdw 0 buf 4 = st40AddParityBits m.did := wire.get10bitUdw_eq (by omega)
  have sdid : get10bitUdw 1 buf 4 = st40AddParityBits m.sdid := wire.get10bitUdw_eq (by omega)
  have count : get10bitUdw 2 buf 4 = st40AddParityBits m.udwSize := wire.get10bitUdw_eq (by omega)
  have size : m.udwSize &&& 0xFF = m.udwSize := and_mask_of_lt (by omega)
  have room_ge : 8 ≤ room := by
    rw [st40Rfc8331PayloadBytes_eq] at fits
    omega
  have udws : decodeUdws buf 0 m.udwSize.toNat = .ok ((List.range m.udwSize.toNat).map udwIn) := by
    rw [List.range_eq_range']
    apply decodeUdws_of_words
    intro j lower upper
    exact wire.get10bitUdw_eq (by omega)
  rcases header_udws buf with ⟨didWord, sdidWord, countWord⟩
  unfold st40Rfc8331DecodePacket decodeChecked
  dsimp only
  rw [if_neg (by omega), didWord, sdidWord, countWord, did, sdid, count]
  simp only [st40CheckParityBits_add, st40AddParityBits_low, size, udws, wire.checksum_eq, wire.calcChecksum_eq,
    first]
  rw [and_mask_of_lt range.did_lt, and_mask_of_lt range.sdid_lt]
  rw [if_neg (by decide), if_neg (by omega), if_neg (by simpa using holds), if_neg (by simp)]
  change Except.ok (Decoded.mk { readFirstHdrChunk (firstHdrChunk m) m with udwOffset := 0 } _ _) = _
  rw [readFirstHdrChunk_write range]
  rfl

section

variable {buf : Nat -> Byte} {room cap : Nat} {d : Decoded}
    (accepted : st40Rfc8331DecodePacket buf room (some cap) = .ok d)

include accepted

/-- The checks that an accepted buffer passed, and what was stored. -/
theorem st40Rfc8331DecodePacket_ok :
    st40CheckParityBits (get10bitUdw 0 buf 4) = true ∧
      st40CheckParityBits (get10bitUdw 1 buf 4) = true ∧
      st40CheckParityBits (get10bitUdw 2 buf 4) = true ∧
      d.hdr.did = get10bitUdw 0 buf 4 &&& 0xFF ∧ d.hdr.sdid = get10bitUdw 1 buf 4 &&& 0xFF ∧
      d.hdr.udwSize = get10bitUdw 2 buf 4 &&& 0xFF ∧
      decodeUdws buf 0 d.hdr.udwSize.toNat = .ok d.udwOut ∧
      get10bitUdw (d.hdr.udwSize.toNat + 3) buf 4 =
        st40CalcChecksum (3 + d.hdr.udwSize.toNat) buf 4 ∧
      firstHdrChunk d.hdr = loadBe32 buf 0 ∧
      d.consumed = st40Rfc8331PayloadBytes d.hdr.udwSize.toNat := by
  rcases header_udws buf with ⟨didWord, sdidWord, countWord⟩
  unfold st40Rfc8331DecodePacket decodeChecked at accepted
  dsimp only at accepted
  rw [didWord, sdidWord, countWord] at accepted
  by_cases small : room < 8
  · rw [if_pos small] at accepted
    cases accepted
  rw [if_neg small] at accepted
  by_cases parity : (!st40CheckParityBits (get10bitUdw 0 buf 4) ||
      !st40CheckParityBits (get10bitUdw 1 buf 4) ||
      !st40CheckParityBits (get10bitUdw 2 buf 4)) = true
  · rw [if_pos parity] at accepted
    cases accepted
  rw [if_neg parity] at accepted
  generalize size_eq : get10bitUdw 2 buf 4 &&& 0xFF = udwSize at accepted
  by_cases room_lt : room < st40Rfc8331PayloadBytes udwSize.toNat
  · rw [if_pos room_lt] at accepted
    cases accepted
  rw [if_neg room_lt] at accepted
  by_cases capacity : (some cap).any (fun cap => udwSize.toNat > cap) = true
  · rw [if_pos capacity] at accepted
    cases accepted
  rw [if_neg capacity] at accepted
  cases udws_eq : decodeUdws buf 0 udwSize.toNat with
  | error failure =>
    rw [udws_eq] at accepted
    cases accepted
  | ok udws =>
    rw [udws_eq] at accepted
    dsimp only at accepted
    by_cases sum : (get10bitUdw (udwSize.toNat + 3) buf 4 !=
        st40CalcChecksum (3 + udwSize.toNat) buf 4) = true
    · rw [if_pos sum] at accepted
      cases accepted
    · rw [if_neg sum] at accepted
      cases accepted
      simp only [Bool.or_eq_true, Bool.not_eq_true', not_or, Bool.not_eq_false] at parity
      refine ⟨parity.1.1, parity.1.2, parity.2, rfl, rfl, rfl, udws_eq, ?_, ?_, rfl⟩
      · simpa using sum
      · exact firstHdrChunk_read (loadBe32 buf 0)
          ⟨0, 0, 0, 0, 0, get10bitUdw 0 buf 4 &&& 0xFF, get10bitUdw 1 buf 4 &&& 0xFF, udwSize, 0⟩

theorem onWire_of_decode :
    OnWire buf d.hdr (memoryOf d.udwOut) ∧ d.udwOut.length = d.hdr.udwSize.toNat ∧
      d.hdr.udwSize.toNat ≤ 255 ∧ d.consumed = st40Rfc8331PayloadBytes d.hdr.udwSize.toNat := by
  rcases st40Rfc8331DecodePacket_ok accepted with ⟨didOk, sdidOk, countOk, did, sdid, size, read,
    checksum, first, consumed⟩
  rcases words_of_decodeUdws read with ⟨length, udws⟩
  have words : ∀ i < 3 + d.hdr.udwSize.toNat,
      get10bitUdw i buf 4 = wireWord d.hdr (memoryOf d.udwOut) i := by
    intro i inside
    rcases i with - | - | - | i
    · rw [wireWord, did, st40AddParityBits_of_check didOk]
    · rw [wireWord, sdid, st40AddParityBits_of_check sdidOk]
    · rw [wireWord, size, st40AddParityBits_of_check countOk]
    · have word := udws i (by omega)
      rw [Nat.zero_add] at word
      exact word
  refine ⟨⟨?_, ?_, ?_⟩, length, ?_, consumed⟩
  · rw [first]
    exact loadBe32_holds buf 0
  · intro i inside
    rw [← words i inside]
    exact get10bitUdw_holds i 4 buf
  · have calc_eq : st40CalcChecksum (3 + d.hdr.udwSize.toNat) buf 4 =
        wireChecksum d.hdr (memoryOf d.udwOut) := by
      unfold st40CalcChecksum wireChecksum
      congr 1
      apply List.foldl_ext
      intro chks i member
      rw [words i (List.mem_range.mp member)]
    rw [← calc_eq, ← checksum]
    exact get10bitUdw_holds _ 4 buf
  · rw [size]
    exact and_mask_le _ _

end

/-! ## Round trips -/

/-- Decoding what was encoded gives the metadata and the bytes back and consumes what was
written; encoding what was decoded gives the consumed bytes back up to the padding, which
the encoder clears. -/
theorem rfc8331_round_trip :
    (forall (buf : Nat -> Byte) (room : Nat) (m : St40Meta) (udw : List Byte),
      m.InRange -> m.udwSize.toNat = udw.length -> udw.length ≤ 255 ->
      st40Rfc8331PayloadBytes udw.length ≤ room ->
      Exists fun out => Exists fun written =>
        st40Rfc8331EncodePacket buf room m (memoryOf udw) = .ok (out, written) ∧ 4 ∣ written ∧
        forall readRoom cap, written ≤ readRoom -> udw.length ≤ cap ->
          st40Rfc8331DecodePacket out readRoom (some cap) =
            .ok { hdr := { m with udwOffset := 0 }, udwOut := udw, consumed := written }) ∧
    (forall (buf : Nat -> Byte) (room cap : Nat) (d : Decoded),
      st40Rfc8331DecodePacket buf room (some cap) = .ok d ->
      forall (other : Nat -> Byte) (otherRoom : Nat), d.consumed ≤ otherRoom ->
      Exists fun out =>
        st40Rfc8331EncodePacket other otherRoom d.hdr (memoryOf d.udwOut) = .ok (out, d.consumed) ∧
        ∀ index < 8 * d.consumed,
          if index < wireBits d.udwOut.length then bitAt out index = bitAt buf index
          else bitAt out index = false) := by
  constructor
  · intro buf room m udw range length short fits
    rw [← length] at short fits
    rcases st40Rfc8331EncodePacket_writes buf (memoryOf udw) short fits
      with ⟨out, encoded, wire, padding⟩
    refine ⟨out, _, encoded, ?_, ?_⟩
    · rw [st40Rfc8331PayloadBytes_eq]
      omega
    · intro readRoom cap roomEnough capEnough
      rw [← length] at capEnough
      rw [st40Rfc8331DecodePacket_of_onWire wire range short roomEnough capEnough, length,
        map_memoryOf_range]
  · intro buf room cap d accepted other otherRoom fits
    rcases onWire_of_decode accepted with ⟨wire, length, short, consumed⟩
    rw [consumed] at fits
    rcases st40Rfc8331EncodePacket_writes other (memoryOf d.udwOut) short fits
      with ⟨out, encoded, written, padding⟩
    rw [consumed]
    refine ⟨out, encoded, ?_⟩
    intro index inside
    rw [length]
    by_cases before : index < wireBits d.hdr.udwSize.toNat
    · rw [if_pos before]
      exact written.bitAt_eq wire before
    · rw [if_neg before]
      exact padding index (by omega) inside

/-- Metadata at the upper end of its ranges, with two bytes of user data. -/
def topMeta : St40Meta where
  c := 1
  lineNumber := 2047
  horiOffset := 4095
  s := 1
  streamNum := 127
  did := 255
  sdid := 255
  udwSize := 2
  udwOffset := 0

theorem rfc8331_round_trip_top :
    Exists fun out => Exists fun written =>
      st40Rfc8331EncodePacket (fun _ => 0xFF) 12 topMeta (memoryOf [1, 254]) = .ok (out, written) ∧
      4 ∣ written ∧
      forall readRoom cap, written ≤ readRoom -> 2 ≤ cap ->
        st40Rfc8331DecodePacket out readRoom (some cap) =
          .ok { hdr := topMeta, udwOut := [1, 254], consumed := written } :=
  rfc8331_round_trip.1 (fun _ => 0xFF) 12 topMeta [1, 254]
    ⟨by decide, by decide, by decide, by decide, by decide, by decide, by decide⟩
    (by decide) (by decide) (by decide)

end MediaTransport.Anc
