import MediaTransport.Anc.FrameLoss
import MediaTransport.Anc.RoundTrip

namespace MediaTransport.Anc

open Library

/-!
# What a delivered frame holds

A packet says how many entries it carries, and each entry how long it is.  The first one that the
decoder refuses ends the packet: one that is cut short, has a wrong parity or checksum, or has
more user data than the buffer of the frame has room for.  The frame is the entries before those, in the
order in which they arrived, with their user data one behind the other.
-/

variable {udwBufSize room cap offset left fill : Nat} {payload : Nat -> Byte} {slot : AncSlot}
  {packets : List AncArrival} {d : Decoded}

/-! ## The entries of a frame -/

/-- The entries of a packet from `offset` on, up to the first invalid one.  No entry has more than
255 bytes of user data. -/
def entriesFrom (payload : Nat -> Byte) (room : Nat) : (left offset : Nat) -> List Decoded
  | 0, _ => []
  | left + 1, offset =>
    match st40Rfc8331DecodePacket (fun position => payload (offset + position)) (room - offset) (some 255) with
    | .error _ => []
    | .ok d => d :: entriesFrom payload room left (offset + d.consumed)

def AncPkt.entries (pkt : AncPkt) : List Decoded :=
  entriesFrom pkt.payload (pkt.len - rfc8331RtpHdrSize) pkt.ancCount 0

def userData (entries : List Decoded) : List Byte := (entries.map Decoded.udwOut).flatten

def fitting : (cap : Nat) -> List Decoded -> List Decoded
  | _, [] => []
  | cap, d :: rest => if d.udwOut.length ≤ cap then d :: fitting (cap - d.udwOut.length) rest else []

/-- The entries that packets with these entries leave in a frame with a buffer of this size. -/
def keptEntries (udwBufSize : Nat) (packets : List (List Decoded)) : List Decoded :=
  packets.foldl (fun kept entries => kept ++ fitting (udwBufSize - (userData kept).length) entries) []

/-- The metadata of entries whose user data start at `fill`. -/
def placed : (fill : Nat) -> List Decoded -> List St40Meta
  | _, [] => []
  | fill, d :: rest => { d.hdr with udwOffset := BitVec.ofNat 16 fill } :: placed (fill + d.udwOut.length) rest

@[simp] theorem userData_nil : userData [] = [] := rfl

@[simp] theorem userData_cons (d : Decoded) (rest : List Decoded) :
    userData (d :: rest) = d.udwOut ++ userData rest := rfl

@[simp] theorem userData_append (first second : List Decoded) :
    userData (first ++ second) = userData first ++ userData second := by
  simp [userData]

@[simp] theorem placed_length (fill : Nat) (entries : List Decoded) :
    (placed fill entries).length = entries.length := by
  induction entries generalizing fill with
  | nil => rfl
  | cons d rest ih => rw [placed, List.length_cons, List.length_cons, ih]

theorem placed_append (fill : Nat) (first second : List Decoded) :
    placed fill (first ++ second) = placed fill first ++ placed (fill + (userData first).length) second := by
  induction first generalizing fill with
  | nil => rfl
  | cons d rest ih =>
    rw [List.cons_append, placed, placed, ih, List.cons_append, userData_cons, List.length_append, Nat.add_assoc]

/-- As long as the user data fit, nothing is left out. -/
theorem fitting_take (count cap : Nat) (entries : List Decoded)
    (fits : (userData (entries.take count)).length ≤ cap) :
    (fitting cap entries).take count = entries.take count := by
  induction entries generalizing count cap with
  | nil => rfl
  | cons d rest ih =>
    rcases count with - | count
    · rfl
    · rw [List.take_succ_cons, userData_cons, List.length_append] at fits
      rw [fitting, if_pos (by omega), List.take_succ_cons, List.take_succ_cons, ih _ _ (by omega)]

theorem keptEntries_append (packets : List (List Decoded)) (entries : List Decoded) :
    keptEntries udwBufSize (packets ++ [entries]) = keptEntries udwBufSize packets ++
      fitting (udwBufSize - (userData (keptEntries udwBufSize packets)).length) entries := by
  simp [keptEntries]

/-- With room for the user data the frame is what the packets decode to. -/
theorem keptEntries_take (packets : List (List Decoded)) (count : Nat)
    (fits : (userData (packets.flatten.take count)).length ≤ udwBufSize) :
    (keptEntries udwBufSize packets).take count = packets.flatten.take count := by
  induction packets using List.reverseRecOn generalizing count with
  | nil => rfl
  | append_singleton packets entries ih =>
    rw [keptEntries_append]
    rw [List.flatten_append, List.flatten_singleton] at fits ⊢
    by_cases early : count ≤ packets.flatten.length
    · rw [List.take_append_of_le_length early] at fits ⊢
      have same := ih count fits
      have enough : count ≤ (keptEntries udwBufSize packets).length := by
        have length := congrArg List.length same
        rw [List.length_take, List.length_take] at length
        omega
      rw [List.take_append_of_le_length enough, same]
    · rw [List.take_append, List.take_of_length_le (by omega), userData_append, List.length_append] at fits
      have whole : keptEntries udwBufSize packets = packets.flatten := by
        have all := ih (max packets.flatten.length (keptEntries udwBufSize packets).length)
          (by rw [List.take_of_length_le (Nat.le_max_left _ _)]; omega)
        rwa [List.take_of_length_le (Nat.le_max_right _ _), List.take_of_length_le (Nat.le_max_left _ _)] at all
      rw [whole, List.take_append, List.take_append, fitting_take _ _ _ (by omega)]

/-! ## The slot holds them -/

/-- The room for user data decides only whether an entry is accepted. -/
theorem decode_cap (buf : Nat -> Byte) (room cap : Nat) :
    (st40Rfc8331DecodePacket buf room (some cap)).toOption =
      (st40Rfc8331DecodePacket buf room (some 255)).toOption.filter (fun d => d.udwOut.length ≤ cap) := by
  have small : forall udwSize : BitVec 16, ¬(some 255).any (fun cap => (udwSize &&& 0xFF).toNat > cap) = true := by
    intro udwSize
    simpa using Nat.and_le_right
  unfold st40Rfc8331DecodePacket decodeChecked
  dsimp only
  split
  · rfl
  split
  · rfl
  split
  · rfl
  rw [if_neg (small _)]
  generalize ((loadBe32 buf 4).extractLsb' 2 10).setWidth 16 &&& 0xFF = udwSize
  cases udws_eq : decodeUdws buf 0 udwSize.toNat with
  | error failure =>
    dsimp only
    split <;> rfl
  | ok udws =>
    have length := (words_of_decodeUdws udws_eq).1
    dsimp only
    by_cases sum : (get10bitUdw (udwSize.toNat + 3) buf 4 != st40CalcChecksum (3 + udwSize.toNat) buf 4) = true
    · rw [if_pos sum]
      split <;> rfl
    · rw [if_neg sum, if_neg sum]
      by_cases exceeds : udwSize.toNat > cap
      · rw [if_pos (by simpa using exceeds)]
        simp [Except.toOption, Option.filter, length, Nat.not_le.mpr exceeds]
      · rw [if_neg (by simpa using exceeds)]
        simp [Except.toOption, Option.filter, length, Nat.not_lt.mp exceeds]

theorem decode_fits {buf : Nat -> Byte} (accepted : st40Rfc8331DecodePacket buf room (some 255) = .ok d)
    (fits : d.udwOut.length ≤ cap) : st40Rfc8331DecodePacket buf room (some cap) = .ok d := by
  have same := decode_cap buf room cap
  rw [accepted] at same
  cases decoded : st40Rfc8331DecodePacket buf room (some cap) with
  | error failure =>
    rw [decoded] at same
    simp [Except.toOption, Option.filter, fits] at same
  | ok other =>
    rw [decoded] at same
    simp only [Except.toOption, Option.filter, fits, decide_true, if_true, Option.some.injEq] at same
    rw [same]

theorem decode_refused {buf : Nat -> Byte} {failure : DecodeFailure}
    (refused : st40Rfc8331DecodePacket buf room (some cap) = .error failure)
    (accepted : st40Rfc8331DecodePacket buf room (some 255) = .ok d) : ¬d.udwOut.length ≤ cap := by
  intro fits
  rw [decode_fits accepted fits] at refused
  cases refused

theorem decode_accepted {buf : Nat -> Byte} (accepted : st40Rfc8331DecodePacket buf room (some cap) = .ok d) :
    st40Rfc8331DecodePacket buf room (some 255) = .ok d ∧ d.udwOut.length ≤ cap := by
  have same := decode_cap buf room cap
  rw [accepted] at same
  cases decoded : st40Rfc8331DecodePacket buf room (some 255) with
  | error failure =>
    rw [decoded] at same
    cases same
  | ok other =>
    rw [decoded] at same
    by_cases fits : other.udwOut.length ≤ cap
    · simp only [Except.toOption, Option.filter, fits, decide_true, if_true, Option.some.injEq] at same
      rw [same]
      exact ⟨rfl, fits⟩
    · simp [Except.toOption, Option.filter, fits] at same

/-- What parsing adds: the entries that fit, as far as there is room for their metadata. -/
theorem rxAncSlotParseEntries_eq (udwBufSize room : Nat) (payload : Nat -> Byte) (slot : AncSlot)
    (left offset : Nat) :
    exists kept, kept = (fitting (udwBufSize - slot.udwBuf.length) (entriesFrom payload room left offset)).take
        (st40MaxMeta - slot.metas.length) ∧
      (rxAncSlotParseEntries udwBufSize room payload slot left offset).1.metas =
        slot.metas ++ placed slot.udwBuf.length kept ∧
      (rxAncSlotParseEntries udwBufSize room payload slot left offset).1.udwBuf = slot.udwBuf ++ userData kept := by
  induction left generalizing slot offset with
  | zero => exact ⟨[], by simp [entriesFrom, fitting], by simp [rxAncSlotParseEntries, placed]⟩
  | succ left ih =>
    rw [rxAncSlotParseEntries, entriesFrom]
    by_cases full : slot.metas.length ≥ st40MaxMeta
    · rw [if_pos full, Nat.sub_eq_zero_of_le full]
      exact ⟨[], List.take_zero.symm, by simp [placed]⟩
    · rw [if_neg full]
      cases decoded : st40Rfc8331DecodePacket (fun position => payload (offset + position)) (room - offset)
          (some (udwBufSize - slot.udwBuf.length)) with
      | error failure =>
        refine ⟨[], ?_, by simp [placed]⟩
        cases whole : st40Rfc8331DecodePacket (fun position => payload (offset + position)) (room - offset)
            (some 255) with
        | error failure => simp [fitting]
        | ok d =>
          dsimp only
          rw [fitting, if_neg (decode_refused decoded whole), List.take_nil]
      | ok d =>
        rcases decode_accepted decoded with ⟨whole, fits⟩
        rw [whole]
        dsimp only
        rcases ih { slot with
            metas := slot.metas ++ [{ d.hdr with udwOffset := BitVec.ofNat 16 slot.udwBuf.length }]
            udwBuf := slot.udwBuf ++ d.udwOut } (offset + d.consumed) with ⟨later, later_eq, metas, udwBuf⟩
        refine ⟨d :: later, ?_, ?_, ?_⟩
        · rw [fitting, if_pos fits, show st40MaxMeta - slot.metas.length =
            (st40MaxMeta - (slot.metas.length + 1)) + 1 by omega, List.take_succ_cons, later_eq]
          simp only [List.length_append, List.length_singleton, Nat.sub_sub]
        · rw [metas, placed, List.append_assoc, List.length_append]
          rfl
        · rw [udwBuf, userData_cons, List.append_assoc]

/-- The slot holds the first twenty of the entries that its packets leave. -/
theorem AncSlot.Filled.content_eq (filled : slot.Filled udwBufSize packets) :
    exists kept, kept =
        (keptEntries udwBufSize (packets.map (fun packet => packet.pkt.entries))).take st40MaxMeta ∧
      slot.metas = placed 0 kept ∧ slot.udwBuf = userData kept := by
  induction filled with
  | init => exact ⟨[], rfl, rfl, rfl⟩
  | refresh filled _ _ _ ih => exact ih
  | setMarker filled ih => exact ih
  | setState filled _ ih => exact ih
  | @addPkt packets slot filled arrival ih =>
    rcases ih with ⟨done, done_eq, metas, udwBuf⟩
    -- recording the number of the packet does not touch its data
    unfold AncSlot.addPkt rxAncSlotParsePkt
    dsimp only
    generalize start_eq : rxAncSlotRecordSeq _ arrival.pkt.seqNumber arrival.port = start
    have start_content := (rxAncSlotRecordSeq_sameFrame
      { slot with
        pktsTotal := u16 (slot.pktsTotal + 1)
        pktsRecv := Function.update slot.pktsRecv arrival.port (u16 (slot.pktsRecv arrival.port + 1)) }
      arrival.pkt.seqNumber arrival.port).content
    rw [start_eq] at start_content
    have start_metas : start.metas = placed 0 done := (congrArg AncContent.metas start_content).trans metas
    have start_udwBuf : start.udwBuf = userData done :=
      (congrArg AncContent.udwBuf start_content).trans udwBuf
    rcases rxAncSlotParseEntries_eq udwBufSize (arrival.pkt.len - rfc8331RtpHdrSize) arrival.pkt.payload
      start arrival.pkt.ancCount 0 with ⟨added, added_eq, after_metas, after_udwBuf⟩
    rw [start_metas, start_udwBuf, placed_length] at added_eq
    refine ⟨done ++ added, ?_, ?_, ?_⟩
    · rw [List.map_append, List.map_singleton, keptEntries_append]
      generalize keptEntries udwBufSize (packets.map (fun packet => packet.pkt.entries)) = kept at done_eq ⊢
      rw [List.take_append, ← done_eq]
      congr 1
      by_cases few : kept.length ≤ st40MaxMeta
      · rw [List.take_of_length_le few] at done_eq
        rw [added_eq, done_eq]
        rfl
      · have full : done.length = st40MaxMeta := by
          rw [done_eq, List.length_take]
          omega
        rw [added_eq, full, Nat.sub_self, List.take_zero, Nat.sub_eq_zero_of_le (by omega), List.take_zero]
    · rw [after_metas, start_metas, start_udwBuf, placed_append, Nat.zero_add]
    · rw [after_udwBuf, start_udwBuf, userData_append]

/-! ## The packets and the buffer in memory -/

/-- A read or write whose last byte has to lie before `size`. -/
def inBounds {Value : Type} (size last : Nat) (value : Value) : Option Value :=
  if last < size then some value else none

theorem inBounds_of_lt {Value : Type} {size last : Nat} (inside : last < size) (value : Value) :
    inBounds size last value = some value := if_pos inside

/-- `st40_get_udw`, which reads two bytes. -/
def getUdwInBounds (size idx : Nat) (data : Nat -> Byte) (base : Nat) : Option (BitVec 16) :=
  inBounds size (base + idx * 10 / 8 + 1) (get10bitUdw idx data base)

/-- The loop over user data words of `st40_rfc8331_decode_packet` for the entry at `offset`: the
buffer from `out` on, and whether every parity was right. -/
def copyUdws (size udwBufSize : Nat) (payload : Nat -> Byte) (offset out : Nat) :
    (Nat -> Byte) -> (i left : Nat) -> Option ((Nat -> Byte) × Bool)
  | buf, _, 0 => some (buf, true)
  | buf, i, left + 1 => do
    let udw <- getUdwInBounds size (i + 3) payload (offset + 4)
    if !st40CheckParityBits udw then
      some (buf, false)
    else
      let buf <- inBounds udwBufSize (out + i) (Function.update buf (out + i) (udw.setWidth 8))
      copyUdws size udwBufSize payload offset out buf (i + 1) left

/-- `st40_calc_checksum` on the entry at `offset`. -/
def calcChecksumInBounds (size dataNum : Nat) (payload : Nat -> Byte) (offset : Nat) :
    Option (BitVec 16) :=
  ((List.range dataNum).foldlM (fun chks i => do
    let udw <- getUdwInBounds size i payload (offset + 4)
    some (chks + udw)) 0).map checksumOf

/-- `st40_rfc8331_decode_packet` on the entry at `offset`, into the buffer of a frame: the buffer
afterwards and, on success, the metadata and the bytes consumed. -/
def decodeInBounds (size udwBufSize : Nat) (payload : Nat -> Byte) (offset room out cap : Nat)
    (buf : Nat -> Byte) : Option ((Nat -> Byte) × Option (St40Meta × Nat)) :=
  if room < 8 then
    some (buf, none)
  else do
    let first <- inBounds size (offset + 3) (loadBe32 payload offset)
    let second <- inBounds size (offset + 7) (loadBe32 payload (offset + 4))
    let did : BitVec 16 := (second.extractLsb' 22 10).setWidth 16
    let sdid : BitVec 16 := (second.extractLsb' 12 10).setWidth 16
    let dataCount : BitVec 16 := (second.extractLsb' 2 10).setWidth 16
    if !st40CheckParityBits did || !st40CheckParityBits sdid || !st40CheckParityBits dataCount then
      some (buf, none)
    else
      let udwSize := dataCount &&& 0xFF
      let need := st40Rfc8331PayloadBytes udwSize.toNat
      if room < need then
        some (buf, none)
      else if udwSize.toNat > cap then
        some (buf, none)
      else
        let (buf, valid) <- copyUdws size udwBufSize payload offset out buf 0 udwSize.toNat
        if !valid then
          some (buf, none)
        else
          let checksumWire <- getUdwInBounds size (udwSize.toNat + 3) payload (offset + 4)
          let checksumCalc <- calcChecksumInBounds size (3 + udwSize.toNat) payload offset
          if checksumWire != checksumCalc then
            some (buf, none)
          else
            some (buf, some ({
              c := (first.extractLsb' 31 1).setWidth 16
              lineNumber := (first.extractLsb' 20 11).setWidth 16
              horiOffset := (first.extractLsb' 8 12).setWidth 16
              s := (first.extractLsb' 7 1).setWidth 16
              streamNum := (first.extractLsb' 0 7).setWidth 16
              did := did &&& 0xFF
              sdid := sdid &&& 0xFF
              udwSize := udwSize
              udwOffset := 0 }, need))

/-- The data of a slot as they lie in memory: the user data buffer, `udw_buffer_fill` and the
entries of `meta` up to `meta_num`. -/
structure UdwMemory where
  buf : Nat -> Byte
  fill : Nat
  metas : List St40Meta

/-- The loop of `rx_anc_slot_parse_pkt` on a payload of `size` bytes.  There is no result when an
access is out of bounds or one of the two unsigned differences wraps around. -/
def parseInBounds (size udwBufSize : Nat) (payload : Nat -> Byte) :
    UdwMemory -> (left offset : Nat) -> Option UdwMemory
  | memory, 0, _ => some memory
  | memory, left + 1, offset =>
    if memory.metas.length ≥ st40MaxMeta then
      some memory
    else if size < offset ∨ udwBufSize < memory.fill then
      none
    else do
      let (buf, entry) <- decodeInBounds size udwBufSize payload offset (size - offset) memory.fill
        (udwBufSize - memory.fill) memory.buf
      match entry with
      | none => some { memory with buf := buf }
      | some (hdr, consumed) =>
        parseInBounds size udwBufSize payload {
          buf := buf
          fill := memory.fill + hdr.udwSize.toNat
          metas := memory.metas ++ [{ hdr with udwOffset := BitVec.ofNat 16 memory.fill }] }
          left (offset + consumed)

/-- Every packet of a frame in turn, into a buffer with arbitrary bytes in it. -/
def parsePackets (udwBufSize : Nat) (packets : List AncPkt) (buf : Nat -> Byte) : Option UdwMemory :=
  packets.foldlM (fun memory pkt =>
    parseInBounds (pkt.len - rfc8331RtpHdrSize) udwBufSize pkt.payload memory pkt.ancCount 0)
    { buf := buf, fill := 0, metas := [] }

/-! ## No access is out of bounds -/

variable {size out : Nat} {buf : Nat -> Byte}

theorem get10bitUdw_shift (idx : Nat) (payload : Nat -> Byte) (offset : Nat) :
    get10bitUdw idx (fun position => payload (offset + position)) 4 = get10bitUdw idx payload (offset + 4) := by
  have load : forall byte, loadBe16 (fun position => payload (offset + position)) (4 + byte) =
      loadBe16 payload (offset + 4 + byte) := by
    intro byte
    rw [Nat.add_assoc]
    rfl
  unfold get10bitUdw
  dsimp only
  rw [load]

/-- The words of an entry lie within the bytes it says it takes. -/
theorem getUdwInBounds_eq {count idx : Nat} (room : offset + st40Rfc8331PayloadBytes count ≤ size)
    (inside : idx ≤ count + 3) :
    getUdwInBounds size idx payload (offset + 4) =
      some (get10bitUdw idx (fun position => payload (offset + position)) 4) := by
  rw [get10bitUdw_shift]
  apply inBounds_of_lt
  unfold st40Rfc8331PayloadBytes at room
  dsimp only at room
  omega

theorem calcChecksumInBounds_eq {count : Nat} (room : offset + st40Rfc8331PayloadBytes count ≤ size) :
    calcChecksumInBounds size (3 + count) payload offset =
      some (st40CalcChecksum (3 + count) (fun position => payload (offset + position)) 4) := by
  unfold calcChecksumInBounds st40CalcChecksum
  have sums : forall words (start : BitVec 16), (∀ i ∈ words, i < 3 + count) ->
      List.foldlM (fun chks i => do
        let udw <- getUdwInBounds size i payload (offset + 4)
        some (chks + udw)) start words =
      some (words.foldl (fun chks i =>
        chks + get10bitUdw i (fun position => payload (offset + position)) 4) start) := by
    intro words
    induction words with
    | nil => exact fun _ _ => rfl
    | cons i rest ih =>
      intro start inside
      have first := inside i List.mem_cons_self
      rw [List.foldlM_cons, getUdwInBounds_eq room (by omega)]
      exact ih _ (fun other member => inside other (List.mem_cons_of_mem i member))
  rw [sums _ _ (fun i member => List.mem_range.mp member)]
  rfl

/-- What the loop writes lies between `out` and the end of the entry's user data. -/
theorem copyUdws_eq {count : Nat} (buf : Nat -> Byte) (i : Nat) (words : i + left = count)
    (room : offset + st40Rfc8331PayloadBytes count ≤ size) (space : out + count ≤ udwBufSize) :
    exists after, copyUdws size udwBufSize payload offset out buf i left =
        some (after, (decodeUdws (fun position => payload (offset + position)) i left).toBool) ∧
      (∀ place < out + i, after place = buf place) ∧
      forall udws, decodeUdws (fun position => payload (offset + position)) i left = .ok udws ->
        ∀ j < left, after (out + i + j) = udws.getD j 0 := by
  induction left generalizing buf i with
  | zero => exact ⟨buf, rfl, fun _ _ => rfl, fun _ _ j absurd => by omega⟩
  | succ left ih =>
    rw [copyUdws, getUdwInBounds_eq room (by omega), decodeUdws]
    generalize get10bitUdw (i + 3) (fun position => payload (offset + position)) 4 = udw
    dsimp only [Option.bind_eq_bind, Option.bind_some]
    by_cases wrong : (!st40CheckParityBits udw) = true
    · rw [if_pos wrong, if_pos wrong]
      exact ⟨buf, rfl, fun _ _ => rfl, fun _ absurd => by cases absurd⟩
    · rw [if_neg wrong, if_neg wrong, inBounds_of_lt (by omega)]
      rcases ih (Function.update buf (out + i) (udw.setWidth 8)) (i + 1) (by omega) with
        ⟨after, copied, kept, written⟩
      refine ⟨after, ?_, ?_, ?_⟩
      · dsimp only [Option.bind_some]
        rw [copied]
        cases decodeUdws (fun position => payload (offset + position)) (i + 1) left <;> rfl
      · intro place before
        rw [kept place (by omega), Function.update_of_ne (by omega)]
      · intro udws read j inside
        cases rest_eq : decodeUdws (fun position => payload (offset + position)) (i + 1) left with
        | error failure =>
          rw [rest_eq] at read
          cases read
        | ok rest =>
          rw [rest_eq] at read
          cases read
          rcases j with - | j
          · rw [kept _ (by omega), Nat.add_zero, Function.update_self]
            rfl
          · have next := written rest rest_eq j (by omega)
            rw [show out + (i + 1) + j = out + i + (j + 1) by omega] at next
            exact next

theorem consumed_le {udwCap : Option Nat} (accepted : st40Rfc8331DecodePacket buf room udwCap = .ok d) :
    d.consumed ≤ room := by
  unfold st40Rfc8331DecodePacket decodeChecked at accepted
  dsimp only at accepted
  split at accepted
  · cases accepted
  split at accepted
  · cases accepted
  split at accepted
  · cases accepted
  next enough =>
    split at accepted
    · cases accepted
    split at accepted
    · cases accepted
    split at accepted
    · cases accepted
    · cases accepted
      exact Nat.not_lt.mp enough

/-- The decoder stays inside the packet and the buffer, and what is in the buffer before `out` stays. -/
theorem decodeInBounds_eq (payload buf : Nat -> Byte) (inside : offset + room ≤ size)
    (space : out + cap ≤ udwBufSize) :
    exists after, decodeInBounds size udwBufSize payload offset room out cap buf =
        some (after, (st40Rfc8331DecodePacket (fun position => payload (offset + position)) room
          (some cap)).toOption.map (fun d => (d.hdr, d.consumed))) ∧
      (∀ place < out, after place = buf place) ∧
      forall d, st40Rfc8331DecodePacket (fun position => payload (offset + position)) room (some cap) = .ok d ->
        ∀ j < d.udwOut.length, after (out + j) = d.udwOut.getD j 0 := by
  unfold decodeInBounds st40Rfc8331DecodePacket decodeChecked
  dsimp only
  by_cases short : room < 8
  · rw [if_pos short, if_pos short]
    exact ⟨buf, rfl, fun _ _ => rfl, fun _ absurd => by cases absurd⟩
  rw [if_neg short, if_neg short, inBounds_of_lt (by omega), inBounds_of_lt (by omega)]
  have first : loadBe32 (fun position => payload (offset + position)) 0 = loadBe32 payload offset := rfl
  have second : loadBe32 (fun position => payload (offset + position)) 4 = loadBe32 payload (offset + 4) := rfl
  rw [first, second]
  generalize loadBe32 payload offset = firstChunk
  generalize loadBe32 payload (offset + 4) = secondChunk
  dsimp only [Option.bind_eq_bind, Option.bind_some]
  by_cases parity : (!st40CheckParityBits ((secondChunk.extractLsb' 22 10).setWidth 16) ||
      !st40CheckParityBits ((secondChunk.extractLsb' 12 10).setWidth 16) ||
      !st40CheckParityBits ((secondChunk.extractLsb' 2 10).setWidth 16)) = true
  · rw [if_pos parity, if_pos parity]
    exact ⟨buf, rfl, fun _ _ => rfl, fun _ absurd => by cases absurd⟩
  rw [if_neg parity, if_neg parity]
  generalize (secondChunk.extractLsb' 2 10).setWidth 16 &&& 0xFF = udwSize
  by_cases cut : room < st40Rfc8331PayloadBytes udwSize.toNat
  · rw [if_pos cut, if_pos cut]
    exact ⟨buf, rfl, fun _ _ => rfl, fun _ absurd => by cases absurd⟩
  rw [if_neg cut, if_neg cut]
  by_cases exceeds : udwSize.toNat > cap
  · rw [if_pos exceeds, if_pos (by simpa using exceeds)]
    exact ⟨buf, rfl, fun _ _ => rfl, fun _ absurd => by cases absurd⟩
  rw [if_neg exceeds, if_neg (by simpa using exceeds)]
  have bytes : offset + st40Rfc8331PayloadBytes udwSize.toNat ≤ size := by omega
  rcases copyUdws_eq buf 0 (Nat.zero_add udwSize.toNat) bytes
    (show out + udwSize.toNat ≤ udwBufSize by omega) with ⟨after, copied, kept, written⟩
  rw [copied]
  dsimp only [Option.bind_some]
  refine ⟨after, ?_, kept, ?_⟩
  · cases udws_eq : decodeUdws (fun position => payload (offset + position)) 0 udwSize.toNat with
    | error failure => rfl
    | ok udws =>
      rw [getUdwInBounds_eq bytes (by omega), calcChecksumInBounds_eq bytes]
      dsimp only [Option.bind_some, Except.toBool]
      by_cases sum : (get10bitUdw (udwSize.toNat + 3) (fun position => payload (offset + position)) 4 !=
          st40CalcChecksum (3 + udwSize.toNat) (fun position => payload (offset + position)) 4) = true
      · rw [if_pos sum, if_pos sum]
        rfl
      · rw [if_neg sum, if_neg sum]
        rfl
  · intro d accepted j within
    cases udws_eq : decodeUdws (fun position => payload (offset + position)) 0 udwSize.toNat with
    | error failure =>
      rw [udws_eq] at accepted
      cases accepted
    | ok udws =>
      rw [udws_eq] at accepted
      dsimp only at accepted
      split at accepted
      · cases accepted
      · cases accepted
        have length := (words_of_decodeUdws udws_eq).1
        exact written udws udws_eq j (length ▸ within)

/-- The memory holds what the slot holds. -/
structure UdwMemory.Mirrors (memory : UdwMemory) (udwBufSize : Nat) (slot : AncSlot) : Prop where
  metas : memory.metas = slot.metas
  fill : memory.fill = slot.udwBuf.length
  bytes : ∀ place < memory.fill, memory.buf place = slot.udwBuf.getD place 0
  room : memory.fill ≤ udwBufSize

theorem parseInBounds_mirrors {memory : UdwMemory} (mirrors : memory.Mirrors udwBufSize slot)
    (inside : offset ≤ size) :
    exists after, parseInBounds size udwBufSize payload memory left offset = some after ∧
      after.Mirrors udwBufSize (rxAncSlotParseEntries udwBufSize size payload slot left offset).1 := by
  induction left generalizing memory slot offset with
  | zero => exact ⟨memory, rfl, mirrors⟩
  | succ left ih =>
    rw [parseInBounds, rxAncSlotParseEntries, mirrors.metas]
    by_cases full : slot.metas.length ≥ st40MaxMeta
    · rw [if_pos full, if_pos full]
      exact ⟨memory, rfl, mirrors⟩
    have space : slot.udwBuf.length ≤ udwBufSize := mirrors.fill ▸ mirrors.room
    rw [if_neg full, if_neg full, mirrors.fill, if_neg (by omega)]
    have packet : offset + (size - offset) ≤ size := by omega
    have rest : slot.udwBuf.length + (udwBufSize - slot.udwBuf.length) ≤ udwBufSize := by omega
    rcases decodeInBounds_eq payload memory.buf packet rest with ⟨after, decoded, kept, written⟩
    rw [decoded]
    cases entry : st40Rfc8331DecodePacket (fun position => payload (offset + position)) (size - offset)
        (some (udwBufSize - slot.udwBuf.length)) with
    | error failure =>
      refine ⟨{ buf := after, fill := slot.udwBuf.length, metas := slot.metas }, rfl, rfl, rfl, ?_, space⟩
      intro place below
      dsimp only at below ⊢
      rw [kept place below, mirrors.bytes place (mirrors.fill ▸ below)]
    | ok d =>
      have length := (onWire_of_decode entry).2.1
      have consumed := consumed_le entry
      have fits := (decode_accepted entry).2
      have udws := written d entry
      refine ih ⟨rfl, ?_, ?_, ?_⟩ (by omega)
      · dsimp only
        rw [List.length_append, length]
      · intro place below
        dsimp only at below ⊢
        by_cases old : place < slot.udwBuf.length
        · rw [kept place old, mirrors.bytes place (by rw [mirrors.fill]; exact old), List.getD_append _ _ _ _ old]
        · have byte := udws (place - slot.udwBuf.length) (by omega)
          rw [Nat.add_sub_cancel' (by omega)] at byte
          rw [byte, List.getD_append_right _ _ _ _ (by omega)]
      · dsimp only
        rw [← length]
        omega

theorem UdwMemory.Mirrors.addPkt {memory : UdwMemory} (mirrors : memory.Mirrors udwBufSize slot) (pkt : AncPkt)
    (port : MtlSessionPort) :
    exists after,
      parseInBounds (pkt.len - rfc8331RtpHdrSize) udwBufSize pkt.payload memory pkt.ancCount 0 = some after ∧
      after.Mirrors udwBufSize (slot.addPkt udwBufSize pkt port).1 := by
  refine parseInBounds_mirrors ?_ (Nat.zero_le _)
  have content := (rxAncSlotRecordSeq_sameFrame
    { slot with
      pktsTotal := u16 (slot.pktsTotal + 1)
      pktsRecv := Function.update slot.pktsRecv port (u16 (slot.pktsRecv port + 1)) } pkt.seqNumber port).content
  have metas := congrArg AncContent.metas content
  have udwBuf := congrArg AncContent.udwBuf content
  dsimp only [AncSlot.content] at metas udwBuf
  exact ⟨mirrors.metas.trans metas.symm, by rw [udwBuf]; exact mirrors.fill,
    by rw [udwBuf]; exact mirrors.bytes, mirrors.room⟩

/-- Whatever the packets are, every access is in bounds, and the memory holds the slot's data. -/
theorem AncSlot.Filled.mirrored (filled : slot.Filled udwBufSize packets) (buf : Nat -> Byte) :
    exists memory, parsePackets udwBufSize (packets.map (fun packet => packet.pkt)) buf = some memory ∧
      memory.Mirrors udwBufSize slot := by
  induction filled with
  | init => exact ⟨_, rfl, rfl, rfl, fun place absurd => (by cases absurd), Nat.zero_le _⟩
  | refresh filled _ _ _ ih =>
    rcases ih with ⟨memory, parsed, metas, fill, bytes, room⟩
    exact ⟨memory, parsed, metas, fill, bytes, room⟩
  | setMarker filled ih =>
    rcases ih with ⟨memory, parsed, metas, fill, bytes, room⟩
    exact ⟨memory, parsed, metas, fill, bytes, room⟩
  | setState filled _ ih =>
    rcases ih with ⟨memory, parsed, metas, fill, bytes, room⟩
    exact ⟨memory, parsed, metas, fill, bytes, room⟩
  | addPkt filled arrival ih =>
    rcases ih with ⟨memory, parsed, mirrors⟩
    rcases mirrors.addPkt arrival.pkt arrival.port with ⟨after, next, holds⟩
    refine ⟨after, ?_, holds⟩
    unfold parsePackets at parsed ⊢
    rw [List.map_append, List.foldlM_append, parsed]
    exact (bind_pure _).trans next

/-! ## The delivered frame -/

def udwStart (entries : List Decoded) (i : Nat) : Nat :=
  ((entries.take i).map (fun d => d.hdr.udwSize.toNat)).sum

/-- The frame has the metadata of these entries; their ranges of user data follow one another from
zero on and hold what each entry carries. -/
structure AncFrame.Holds (frame : AncFrame) (entries : List Decoded) : Prop where
  count : frame.metas.length = entries.length
  metas : forall i (inside : i < entries.length),
    frame.metas[i]? = some { entries[i].hdr with udwOffset := BitVec.ofNat 16 (udwStart entries i) }
  narrow : forall i, udwStart entries i < 65536
  fill : frame.udwBuf.length = udwStart entries entries.length
  size : forall i (inside : i < entries.length), entries[i].udwOut.length = entries[i].hdr.udwSize.toNat
  bytes : forall i (inside : i < entries.length),
    (frame.udwBuf.drop (udwStart entries i)).take entries[i].hdr.udwSize.toNat = entries[i].udwOut

theorem userData_length (entries : List Decoded)
    (sized : ∀ d ∈ entries, d.udwOut.length = d.hdr.udwSize.toNat) :
    (userData entries).length = (entries.map (fun d => d.hdr.udwSize.toNat)).sum := by
  induction entries with
  | nil => rfl
  | cons d rest ih =>
    rw [userData_cons, List.length_append, List.map_cons, List.sum_cons, sized d List.mem_cons_self,
      ih (fun other member => sized other (List.mem_cons_of_mem d member))]

theorem entriesFrom_sized (payload : Nat -> Byte) (room left offset : Nat) :
    ∀ d ∈ entriesFrom payload room left offset,
      d.udwOut.length = d.hdr.udwSize.toNat ∧ d.hdr.udwSize.toNat ≤ 255 := by
  induction left generalizing offset with
  | zero => exact fun _ absurd => by cases absurd
  | succ left ih =>
    intro d member
    rw [entriesFrom] at member
    split at member
    · cases member
    next other decoded =>
      rcases List.mem_cons.mp member with same | later
      · rcases onWire_of_decode decoded with ⟨-, length, short, -⟩
        rw [same]
        exact ⟨length, short⟩
      · exact ih _ d later

theorem mem_fitting (cap : Nat) (entries : List Decoded) : ∀ d ∈ fitting cap entries, d ∈ entries := by
  induction entries generalizing cap with
  | nil => exact fun _ absurd => by cases absurd
  | cons first rest ih =>
    intro d member
    rw [fitting] at member
    split at member
    · rcases List.mem_cons.mp member with same | later
      · exact same ▸ List.mem_cons_self
      · exact List.mem_cons_of_mem first (ih _ d later)
    · cases member

theorem mem_keptEntries (packets : List (List Decoded)) :
    ∀ d ∈ keptEntries udwBufSize packets, exists entries, entries ∈ packets ∧ d ∈ entries := by
  induction packets using List.reverseRecOn with
  | nil => exact fun _ absurd => by cases absurd
  | append_singleton packets entries ih =>
    intro d member
    rw [keptEntries_append] at member
    rcases List.mem_append.mp member with before | added
    · rcases ih d before with ⟨found, inside, mem⟩
      exact ⟨found, List.mem_append_left _ inside, mem⟩
    · exact ⟨entries, List.mem_append_right _ List.mem_cons_self, mem_fitting _ _ d added⟩

theorem placed_getElem (fill : Nat) (entries : List Decoded) (i : Nat) (inside : i < entries.length) :
    (placed fill entries)[i]? =
      some { entries[i].hdr with udwOffset := BitVec.ofNat 16 (fill + (userData (entries.take i)).length) } := by
  induction entries generalizing fill i with
  | nil => cases inside
  | cons d rest ih =>
    rcases i with - | i
    · rfl
    · rw [placed, List.getElem?_cons_succ, ih _ i (Nat.lt_of_succ_lt_succ inside), List.take_succ_cons,
        userData_cons, List.length_append, Nat.add_assoc]
      rfl

theorem userData_slice (entries : List Decoded) (i : Nat) (inside : i < entries.length) :
    ((userData entries).drop (userData (entries.take i)).length).take entries[i].udwOut.length =
      entries[i].udwOut := by
  have split : userData entries =
      userData (entries.take i) ++ (entries[i].udwOut ++ userData (entries.drop (i + 1))) := by
    rw [← userData_cons, ← List.drop_eq_getElem_cons inside, ← userData_append, List.take_append_drop]
  rw [split, List.drop_left, List.take_left]

/-- At most twenty entries of at most 255 bytes: the offsets fit their sixteen bits. -/
theorem holds_of_placed {frame : AncFrame} {entries : List Decoded} (few : entries.length ≤ st40MaxMeta)
    (sized : ∀ d ∈ entries, d.udwOut.length = d.hdr.udwSize.toNat ∧ d.hdr.udwSize.toNat ≤ 255)
    (metas : frame.metas = placed 0 entries) (udwBuf : frame.udwBuf = userData entries) :
    frame.Holds entries := by
  have start : forall i, (userData (entries.take i)).length = udwStart entries i :=
    fun i => userData_length _ (fun d member => (sized d (List.mem_of_mem_take member)).1)
  have size : forall i (inside : i < entries.length), entries[i].udwOut.length = entries[i].hdr.udwSize.toNat :=
    fun i inside => (sized _ (List.getElem_mem inside)).1
  refine ⟨by rw [metas, placed_length], ?_, ?_, ?_, size, ?_⟩
  · intro i inside
    rw [metas, placed_getElem 0 entries i inside, Nat.zero_add, start]
  · intro i
    have most := List.sum_le_card_nsmul ((entries.take i).map (fun d => d.hdr.udwSize.toNat)) 255 (by
      intro value member
      rcases List.mem_map.mp member with ⟨d, taken, rfl⟩
      exact (sized d (List.mem_of_mem_take taken)).2)
    rw [List.length_map, List.length_take, smul_eq_mul] at most
    have limit : min i entries.length ≤ 20 := le_trans (Nat.min_le_right _ _) few
    unfold udwStart
    omega
  · rw [udwBuf, ← start, List.take_length]
  · intro i inside
    rw [udwBuf, ← start, ← size i inside]
    exact userData_slice entries i inside

/-- For packets with arbitrary bytes: the frame holds the first twenty of the entries that each
packet decodes to, up to its first invalid one, which are all of them when the buffer has room.
The parser reads no byte behind a packet and writes none behind the buffer. -/
theorem frame_content (env : AncEnv) (s : RxAncSession) (idx : Nat)
    (filled : (s.frameSlots idx).Filled udwBufSize packets) (buf : Nat -> Byte) :
    exists frame memory,
      (rxAncSlotDeliver env s idx).events = .notified idx frame :: s.events ∧
      parsePackets udwBufSize (packets.map (fun packet => packet.pkt)) buf = some memory ∧
      frame.metas = memory.metas ∧ frame.udwBuf = (List.range memory.fill).map memory.buf ∧
      memory.fill ≤ udwBufSize ∧
      (let entries := packets.map (fun packet => packet.pkt.entries)
      frame.Holds ((keptEntries udwBufSize entries).take st40MaxMeta) ∧
      ((userData (entries.flatten.take st40MaxMeta)).length ≤ udwBufSize ->
        (keptEntries udwBufSize entries).take st40MaxMeta = entries.flatten.take st40MaxMeta)) := by
  rcases filled.mirrored buf with ⟨memory, parsed, mirrors⟩
  rcases filled.content_eq with ⟨kept, kept_eq, metas, udwBuf⟩
  refine ⟨_, memory, rxAncSlotDeliver_events env s idx, parsed, mirrors.metas.symm, ?_, mirrors.room, ?_,
    keptEntries_take _ _⟩
  · change (s.frameSlots idx).udwBuf = _
    apply List.ext_getElem
    · rw [List.length_map, List.length_range, mirrors.fill]
    · intro place inside _
      rw [List.getElem_map, List.getElem_range, mirrors.bytes place (mirrors.fill ▸ inside),
        List.getD_eq_getElem _ _ inside]
  · rw [← kept_eq]
    refine holds_of_placed ?_ ?_ metas udwBuf
    · rw [kept_eq, List.length_take]
      exact Nat.min_le_left _ _
    · intro d member
      rw [kept_eq] at member
      rcases mem_keptEntries _ d (List.mem_of_mem_take member) with ⟨entries, packet_mem, mem⟩
      rcases List.mem_map.mp packet_mem with ⟨packet, -, rfl⟩
      exact entriesFrom_sized _ _ _ _ d mem

/-- A packet with an entry and then twelve bytes that are none. -/
def brokenArrival (number : Int) : AncArrival :=
  let arrival := wrappingArrival number .p true
  let payload :=
    match st40Rfc8331EncodePacket (fun _ => 0) 12 topMeta (memoryOf [1, 254]) with
    | .ok (out, _) => out
    | .error _ => fun _ => 0
  { arrival with pkt := { arrival.pkt with ancCount := 2, len := 44, payload := payload } }

def brokenSlot : AncSlot :=
  [brokenArrival 0, brokenArrival 1].foldl (fun slot packet => (slot.addPkt 4 packet.pkt packet.port).1)
    (rxAncSlotInitFrame 0 false false 0)

theorem frame_content_broken :
    let s := (rxAncInit rtpLevelOps true 1 4).setSlot 0 brokenSlot
    exists frame memory,
      (rxAncSlotDeliver (brokenArrival 0).env s 0).events = .notified 0 frame :: s.events ∧
      parsePackets 4 [(brokenArrival 0).pkt, (brokenArrival 1).pkt] (fun _ => 0xFF) = some memory ∧
      frame.metas = memory.metas ∧ frame.udwBuf = (List.range memory.fill).map memory.buf ∧
      memory.fill ≤ 4 ∧ frame.metas.length = 2 := by
  have filled : brokenSlot.Filled 4 [brokenArrival 0, brokenArrival 1] :=
    .addPkt (.addPkt (.init 0 false false 0) _) _
  rcases frame_content (brokenArrival 0).env ((rxAncInit rtpLevelOps true 1 4).setSlot 0 brokenSlot) 0 filled
    (fun _ => 0xFF) with ⟨frame, memory, events, parsed, metas, udwBuf, fill, holds, -⟩
  exact ⟨frame, memory, events, parsed, metas, udwBuf, fill, holds.count.trans (by decide +kernel)⟩

end MediaTransport.Anc
