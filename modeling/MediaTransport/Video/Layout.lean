import MediaTransport.Library.Tiling
import MediaTransport.Video.Transmitter

namespace MediaTransport.Video

open Library

/-!
# Where the bytes of a transmitted packet lie

A packet announces one or two line segments in its headers and carries their
bytes.  First a packet is read through its headers alone.  Then come the numbers
that `tv_build_st20` puts into them, for every session whose byte counts fit the
source's 32-bit arithmetic.
-/

/-! ## Reading a packet through its headers -/

variable {s : TvSession} {pktIdx : Nat} (trans : StFrameTrans) (seqId : Nat)

/-- A segment of a line that a packet announces, with the bytes behind it. -/
structure LinePart where
  segment : Segment
  bytes : List Byte

def columnOf (pg : St20Pgroup) (pixel : Nat) : Nat := pixel / pg.coverage * pg.size

def headerSegment (pg : St20Pgroup) (rowNumber rowOffset rowLength : Nat) : Segment :=
  { row := clearBit topBit rowNumber
    column := columnOf pg (clearBit topBit rowOffset)
    length := rowLength }

/-- The segments of a packet with their bytes, as any reader of the headers
finds them. -/
def Rfc4175Packet.parts (pg : St20Pgroup) (pkt : Rfc4175Packet) : List LinePart :=
  let first : LinePart :=
    { segment := headerSegment pg pkt.rowNumber pkt.rowOffset pkt.rowLength
      bytes := pkt.payload.take pkt.rowLength }
  match pkt.extraRtp with
  | none => [first]
  | some extra =>
    [first,
      { segment := headerSegment pg extra.rowNumber extra.rowOffset extra.rowLength
        bytes := (pkt.payload.drop pkt.rowLength).take extra.rowLength }]

section

variable {field : Nat}

theorem hasBit_topBit_of_lt (bound : field < 32768) :
    hasBit topBit field = false := by
  rw [hasBit_topBit (by omega)]
  exact decide_eq_false (by omega)

theorem setBit_topBit_of_lt (bound : field < 32768) :
    setBit topBit field = field + 32768 := by
  rw [setBit, hasBit_topBit_of_lt bound]
  rfl

theorem hasBit_setBit_of_lt (bound : field < 65536) :
    hasBit topBit (setBit topBit field) = true := by
  by_cases low : field < 32768
  · rw [setBit_topBit_of_lt low, hasBit_topBit (by omega)]
    exact decide_eq_true (by omega)
  · have flag : hasBit topBit field = true := by
      rw [hasBit_topBit bound]
      exact decide_eq_true (by omega)
    rw [setBit, flag, if_pos rfl, flag]

theorem setBit_topBit_lt (bound : field < 65536) :
    setBit topBit field < 65536 := by
  by_cases low : field < 32768
  · rw [setBit_topBit_of_lt low]
    omega
  · have flag : hasBit topBit field = true := by
      rw [hasBit_topBit bound]
      exact decide_eq_true (by omega)
    rw [setBit, flag, if_pos rfl]
    exact bound

theorem clearBit_topBit_lt (bound : field < 65536) :
    clearBit topBit field < 32768 := by
  unfold clearBit
  split
  · unfold topBit
    omega
  · next clear =>
      rw [hasBit_topBit bound, decide_eq_true_eq] at clear
      omega

theorem clearBit_topBit_of_lt (bound : field < 32768) :
    clearBit topBit field = field := by
  rw [clearBit, hasBit_topBit_of_lt bound]
  rfl

theorem clearBit_setBit_of_lt (bound : field < 32768) :
    clearBit topBit (setBit topBit field) = field := by
  rw [clearBit, hasBit_setBit_of_lt (by omega), if_pos rfl, setBit_topBit_of_lt bound]
  exact Nat.add_sub_cancel field 32768

end

theorem extraRtp_bytes {pkt : Rfc4175Packet} {extra : Rfc4175ExtraHdr} {payload : List Byte}
    (flag : hasBit topBit pkt.rowOffset = true) (body : pkt.body = extra.bytes ++ payload)
    (length : extra.rowLength < 65536) (number : extra.rowNumber < 65536)
    (offset : extra.rowOffset < 65536) :
    pkt.extraRtp = some extra ∧ pkt.payload = payload := by
  have first : readBe16 (memoryOf pkt.body) 0 = extra.rowLength := by
    rw [body, Rfc4175ExtraHdr.bytes, List.append_assoc, List.append_assoc]
    exact readBe16_be16 _ _ length
  have second : readBe16 (memoryOf pkt.body) 2 = extra.rowNumber := by
    rw [body, Rfc4175ExtraHdr.bytes, List.append_assoc, List.append_assoc]
    exact (readBe16_append (be16 extra.rowLength) _ 0).trans (readBe16_be16 _ _ number)
  have third : readBe16 (memoryOf pkt.body) 4 = extra.rowOffset := by
    rw [body, Rfc4175ExtraHdr.bytes, List.append_assoc]
    exact (readBe16_append (be16 extra.rowLength ++ be16 extra.rowNumber) _ 0).trans
      (readBe16_be16 _ _ offset)
  constructor
  · rw [Rfc4175Packet.extraRtp, flag, first, second, third]
    rfl
  · rw [Rfc4175Packet.payload, flag, body]
    rfl

/-! ## The built packet -/

theorem u16_natCast_lt (value : Nat) : u16 (value : Int) < 65536 := u16_lt _

theorem clearBit_field {row : Nat} (secondField : Bool) (bound : row < 32768) :
    clearBit topBit ((if secondField then setBit topBit else id) row) = row := by
  cases secondField with
  | false => exact clearBit_topBit_of_lt bound
  | true => exact clearBit_setBit_of_lt bound

theorem field_lt {row : Nat} (secondField : Bool) (bound : row < 65536) :
    (if secondField then setBit topBit else id) row < 65536 := by
  cases secondField with
  | false => exact bound
  | true => exact setBit_topBit_lt bound

theorem TvSession.line1Number_lt (s : TvSession) (pktIdx : Nat) : s.line1Number pktIdx < 65536 := by
  unfold TvSession.line1Number
  split <;> exact u16_natCast_lt _

theorem TvSession.line1Offset_lt (s : TvSession) (pktIdx : Nat) : s.line1Offset pktIdx < 65536 := by
  unfold TvSession.line1Offset
  split <;> exact u16_natCast_lt _

theorem tvBuildSt20_rowNumber_lt (s : TvSession) (trans : StFrameTrans) (pktIdx seqId : Nat) :
    (tvBuildSt20 s trans pktIdx seqId).rowNumber < 65536 :=
  field_lt trans.secondField (s.line1Number_lt pktIdx)

theorem tvBuildSt20_extra (extra : s.hasExtra pktIdx = true) :
    (tvBuildSt20 s trans pktIdx seqId).extraRtp = some (tvExtraHdr s trans.secondField pktIdx) ∧
      (tvBuildSt20 s trans pktIdx seqId).payload = tvPayload s trans.addr pktIdx := by
  refine extraRtp_bytes ?_ ?_ (u16_lt _) ?_ (Nat.zero_lt_succ 65535)
  · simp only [tvBuildSt20, extra, if_true]
    exact hasBit_setBit_of_lt (s.line1Offset_lt pktIdx)
  · simp only [tvBuildSt20, extra, if_true]
  · unfold tvExtraHdr
    exact u16_natCast_lt _

theorem tvBuildSt20_single (extra : s.hasExtra pktIdx = false) (low : s.line1Offset pktIdx < 32768) :
    (tvBuildSt20 s trans pktIdx seqId).extraRtp = none ∧
      (tvBuildSt20 s trans pktIdx seqId).payload = tvPayload s trans.addr pktIdx := by
  have flag : hasBit topBit (tvBuildSt20 s trans pktIdx seqId).rowOffset = false := by
    simp only [tvBuildSt20, extra]
    exact hasBit_topBit_of_lt low
  constructor
  · rw [Rfc4175Packet.extraRtp, flag]
    rfl
  · rw [Rfc4175Packet.payload, flag]
    simp only [tvBuildSt20, extra]
    rfl

/-- The column that a reader finds for the first segment of a packet. -/
def TvSession.announcedColumn (s : TvSession) (pktIdx : Nat) : Nat :=
  columnOf s.st20Pg (clearBit topBit (s.line1Offset pktIdx))

theorem clearBit_setBit {field : Nat} (bound : field < 65536) :
    clearBit topBit (setBit topBit field) = clearBit topBit field := by
  by_cases low : field < 32768
  · rw [clearBit_setBit_of_lt low, clearBit_topBit_of_lt low]
  · have flag : hasBit topBit field = true := by
      rw [hasBit_topBit bound]
      exact decide_eq_true (by omega)
    rw [setBit, flag, if_pos rfl]

theorem tvBuildSt20_parts_extra (extra : s.hasExtra pktIdx = true)
    (row : s.line1Number pktIdx + 1 < 32768) :
    (tvBuildSt20 s trans pktIdx seqId).parts s.st20Pg =
      [ { segment := ⟨s.line1Number pktIdx, s.announcedColumn pktIdx, s.line1Length pktIdx⟩
          bytes := (tvPayload s trans.addr pktIdx).take (s.line1Length pktIdx) },
        { segment := ⟨s.line1Number pktIdx + 1, 0, s.line2Length pktIdx⟩
          bytes := ((tvPayload s trans.addr pktIdx).drop (s.line1Length pktIdx)).take
            (s.line2Length pktIdx) } ] := by
  have read := tvBuildSt20_extra trans seqId extra
  have length : (tvBuildSt20 s trans pktIdx seqId).rowLength = s.line1Length pktIdx := by
    simp only [tvBuildSt20, extra, if_true]
  have offset : (tvBuildSt20 s trans pktIdx seqId).rowOffset =
      setBit topBit (s.line1Offset pktIdx) := by
    simp only [tvBuildSt20, extra, if_true]
  have first : clearBit topBit (tvBuildSt20 s trans pktIdx seqId).rowNumber =
      s.line1Number pktIdx := clearBit_field trans.secondField (by omega)
  have second : clearBit topBit (tvExtraHdr s trans.secondField pktIdx).rowNumber =
      s.line1Number pktIdx + 1 := by
    have small := field_lt trans.secondField (Nat.lt_trans row (by decide))
    simp only [tvExtraHdr]
    rw [u16_of_lt small, clearBit_field trans.secondField row]
  have zero : columnOf s.st20Pg (clearBit topBit 0) = 0 := by
    rw [clearBit_topBit_of_lt (by decide), columnOf, Nat.zero_div, Nat.zero_mul]
  rw [Rfc4175Packet.parts, read.1, read.2, length]
  simp only [headerSegment, first, offset, second, clearBit_setBit (s.line1Offset_lt pktIdx)]
  simp only [tvExtraHdr, zero, TvSession.announcedColumn]

theorem tvBuildSt20_parts_single (extra : s.hasExtra pktIdx = false)
    (low : s.line1Offset pktIdx < 32768) (row : s.line1Number pktIdx < 32768) :
    (tvBuildSt20 s trans pktIdx seqId).parts s.st20Pg =
      [ { segment := ⟨s.line1Number pktIdx, s.announcedColumn pktIdx, s.leftLen pktIdx⟩
          bytes := (tvPayload s trans.addr pktIdx).take (s.leftLen pktIdx) } ] := by
  have read := tvBuildSt20_single trans seqId extra low
  have length : (tvBuildSt20 s trans pktIdx seqId).rowLength = s.leftLen pktIdx := by
    simp only [tvBuildSt20, extra]
    rfl
  have offset : (tvBuildSt20 s trans pktIdx seqId).rowOffset = s.line1Offset pktIdx := by
    simp only [tvBuildSt20, extra]
    rfl
  have first : clearBit topBit (tvBuildSt20 s trans pktIdx seqId).rowNumber =
      s.line1Number pktIdx := clearBit_field trans.secondField row
  rw [Rfc4175Packet.parts, read.1, read.2, length]
  simp only [headerSegment, first, offset, TvSession.announcedColumn]

theorem length_copyBytes {Value : Type} (addr : Nat -> Value) (place length : Nat) :
    (copyBytes addr place length).length = length := by
  rw [copyBytes, List.length_map, List.length_range]

theorem copyBytes_append {Value : Type} (addr : Nat -> Value) (place first second : Nat) :
    copyBytes addr place first ++ copyBytes addr (place + first) second =
      copyBytes addr place (first + second) := by
  simp only [copyBytes, List.range_add, List.map_append, List.map_map]
  congr 1
  apply List.map_congr_left
  intro index _
  simp only [Function.comp_apply, Nat.add_assoc]

/-! ## The accepted geometry -/

theorem ceilDiv_spec {divisor : Nat} (value : Nat) (positive : 0 < divisor) :
    value ≤ divisor * ceilDiv value divisor ∧ divisor * ceilDiv value divisor < value + divisor := by
  have split := Nat.div_add_mod (value + divisor - 1) divisor
  have rest := Nat.mod_lt (value + divisor - 1) positive
  unfold ceilDiv
  constructor <;> omega

theorem ceilDiv_le_iff {value divisor count : Nat} (positive : 0 < divisor) :
    ceilDiv value divisor ≤ count ↔ value ≤ divisor * count := by
  rw [ceilDiv, Nat.div_le_iff_le_mul_add_pred positive]
  omega

/-- A frame has a pixel, and its byte counts fit the 32-bit arithmetic of the
source. -/
structure TvSession.Representable (s : TvSession) : Prop where
  width_pos : 0 < s.ops.width
  lines_pos : 0 < s.ops.lines
  bytes_lt : s.ops.width * s.ops.lines * s.st20Pg.size < 2147483648
  buffer_lt : s.st20Linesize * s.ops.lines < 4294967296

/-- What holds of the lines of every accepted and representable session. -/
structure TvSession.Lines (s : TvSession) : Prop extends s.Representable where
  line_ge : s.ops.width * s.st20Pg.size ≤ s.st20Pg.coverage * s.st20BytesInLine
  line_lt : s.st20Pg.coverage * s.st20BytesInLine <
    s.ops.width * s.st20Pg.size + s.st20Pg.coverage
  linesize_ge : s.st20BytesInLine ≤ s.st20Linesize
  frameSize_eq : s.st20FrameSize = s.ops.width * s.ops.lines * s.st20Pg.size / s.st20Pg.coverage

/-- What `tv_attach` computed for an accepted session. -/
structure TvSession.Attached (s : TvSession) (suggest : Nat) (plan : PacketPlan) : Prop where
  pg_eq : s.st20Pg = st20GetPgroup s.ops.fmt
  linesize_ok : tvLinesize s.ops s.st20Pg = .ok s.st20Linesize
  bytesInLine_eq : s.st20BytesInLine = bytesInLine s.ops.width s.st20Pg
  frameSize_eq : s.st20FrameSize =
    u32 (s.ops.width * s.ops.lines * s.st20Pg.size : Nat) / s.st20Pg.coverage
  plan_ok : tvInitPktPlan suggest s.ops s.st20Pg s.st20FrameSize = .ok plan
  pktsInLine_eq : s.st20PktsInLine = plan.pktsInLine
  pktLen_eq : s.st20PktLen = plan.pktLen
  totalPkts_eq : s.st20TotalPkts = plan.totalPkts
  small : u16 (plan.pktLen + rfc4175VideoHdrSize : Nat) ≤ stPktMaxEtherBytes

theorem tvAttach_ok {suggest : Nat} {ops : St20TxOps} {s : TvSession}
    (accepted : tvAttach suggest ops = .ok s) :
    s.ops = ops ∧ exists plan, s.Attached suggest plan := by
  unfold tvAttach at accepted
  dsimp only at accepted
  split at accepted
  · cases accepted
  · next linesize lineOk =>
      split at accepted
      · cases accepted
      · next plan planOk =>
          split at accepted
          · cases accepted
          · next small =>
              cases accepted
              exact ⟨rfl, plan, rfl, lineOk, rfl, rfl, planOk, rfl, rfl, rfl,
                Nat.le_of_not_lt small⟩

theorem tvLinesize_ge {ops : St20TxOps} {pg : St20Pgroup} {linesize : Nat}
    (accepted : tvLinesize ops pg = .ok linesize) : bytesInLine ops.width pg ≤ linesize := by
  unfold tvLinesize at accepted
  dsimp only at accepted
  split at accepted
  · next wider =>
      cases accepted
      exact Nat.le_of_lt wider
  · split at accepted
    · cases accepted
    · cases accepted
      exact Nat.le_refl _

theorem TvSession.Attached.lines {suggest : Nat} {plan : PacketPlan}
    (attached : s.Attached suggest plan) (representable : s.Representable) : s.Lines := by
  have line := ceilDiv_spec (s.ops.width * s.st20Pg.size) s.st20Pg.coverage_pos
  have bytes := representable.bytes_lt
  exact
    { representable with
      line_ge := attached.bytesInLine_eq ▸ line.1
      line_lt := attached.bytesInLine_eq ▸ line.2
      linesize_ge := attached.bytesInLine_eq ▸ tvLinesize_ge attached.linesize_ok
      frameSize_eq := attached.frameSize_eq.trans (congrArg (· / s.st20Pg.coverage)
        (u32_of_lt (Nat.lt_trans bytes (by decide)))) }

namespace TvSession

variable {s : TvSession}

theorem Lines.bytesInLine_pos (lines : s.Lines) : 0 < s.st20BytesInLine := by
  have positive := Nat.mul_pos lines.width_pos s.st20Pg.size_pos
  have bound := lines.line_ge
  by_contra zero
  rw [Nat.eq_zero_of_not_pos zero, Nat.mul_zero] at bound
  omega

theorem Lines.frameSize_le (lines : s.Lines) :
    s.st20FrameSize ≤ s.st20BytesInLine * s.ops.lines := by
  rw [lines.frameSize_eq]
  apply Nat.div_le_of_le_mul
  calc
    s.ops.width * s.ops.lines * s.st20Pg.size = s.ops.width * s.st20Pg.size * s.ops.lines := by
      ring
    _ ≤ s.st20Pg.coverage * s.st20BytesInLine * s.ops.lines :=
      Nat.mul_le_mul_right _ lines.line_ge
    _ = s.st20Pg.coverage * (s.st20BytesInLine * s.ops.lines) := Nat.mul_assoc _ _ _

theorem Lines.frameSize_lt (lines : s.Lines) : s.st20FrameSize < 2147483648 := by
  rw [lines.frameSize_eq]
  exact Nat.lt_of_le_of_lt (Nat.div_le_self _ _) lines.bytes_lt

theorem columnOf_pixel {pg : St20Pgroup} {place : Nat} (aligned : pg.size ∣ place) :
    columnOf pg (place * pg.coverage / pg.size) = place := by
  rcases aligned with ⟨groups, rfl⟩
  have pixel : pg.size * groups * pg.coverage / pg.size = groups * pg.coverage := by
    rw [Nat.mul_assoc, Nat.mul_div_cancel_left _ pg.size_pos]
  rw [columnOf, pixel, Nat.mul_div_cancel _ pg.coverage_pos, Nat.mul_comm]

theorem dvd_columnOf (pg : St20Pgroup) (pixel : Nat) : pg.size ∣ columnOf pg pixel :=
  Nat.dvd_mul_left _ _

theorem pixel_columnOf_le (pg : St20Pgroup) (pixel : Nat) :
    columnOf pg pixel * pg.coverage / pg.size ≤ pixel := by
  have exact : columnOf pg pixel * pg.coverage / pg.size = pixel / pg.coverage * pg.coverage := by
    rw [columnOf, Nat.mul_right_comm, Nat.mul_div_cancel _ pg.size_pos]
  rw [exact]
  exact Nat.div_mul_le_self _ _

end TvSession

end MediaTransport.Video
