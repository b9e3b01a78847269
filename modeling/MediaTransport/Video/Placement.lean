import MediaTransport.Video.FramePacket
import MediaTransport.Video.Packing

namespace MediaTransport.Video

open Library

/-!
# Sender and receiver agree on positions

The sender finds the bytes of a packet by dividing a byte count by the length
of a line; the receiver places them by row number, row offset and its own line
size.  A packet keeps its positions when the line and the place in the line of
every byte are the same in both buffers.
-/

/-! ## Where the receiver writes -/

/-- The places that the payload is written to, in the order of its bytes. -/
def rvPlaces (cfg : RvConfig) (line : RvLine) (place : RvPlacement) : List Nat :=
  if line.crosses cfg then
    copyBytes id place.offset line.line1Length ++
      copyBytes id ((line.line1Number + 1) * cfg.st20Linesize)
        (place.payloadLength - line.line1Length)
  else
    copyBytes id place.offset place.payloadLength

theorem mem_copyBytes_id {place length position : Nat} :
    position ∈ copyBytes id place length ↔ place ≤ position ∧ position < place + length := by
  simp only [copyBytes, List.mem_map, List.mem_range, id]
  constructor
  · rintro ⟨index, bound, rfl⟩
    omega
  · rintro ⟨lower, upper⟩
    exact ⟨position - place, by omega, by omega⟩

theorem map_copyBytes_id {Value : Type} (read : Nat -> Value) (place length : Nat) :
    (copyBytes id place length).map read = copyBytes read place length := by
  rw [copyBytes, List.map_map]
  rfl

/-! ## What the receiver reads in a built packet -/

theorem clearBit_of_small {bit field : Nat} (small : field < bit) : clearBit bit field = field := by
  rw [clearBit, hasBit, Nat.div_eq_of_lt small]
  rfl

theorem hasBit_of_small {bit field : Nat} (small : field < bit) : hasBit bit field = false := by
  rw [hasBit, Nat.div_eq_of_lt small]
  rfl

theorem rvReadLine_short {pkt : Rfc4175Packet} (short : pkt.rowLength < 16384) :
    (rvReadLine pkt).line1Length = pkt.rowLength ∧ (rvReadLine pkt).userMeta = false ∧
      (rvReadLine pkt).retransmit = false := by
  have length : clearBit retransmitBit pkt.rowLength = pkt.rowLength := clearBit_of_small short
  refine ⟨?_, ?_, hasBit_of_small short⟩
  · simp only [rvReadLine, length]
    exact clearBit_topBit_of_lt (by omega)
  · simp only [rvReadLine, length]
    exact hasBit_topBit_of_lt (by omega)

theorem rvPlace_ok {cfg : RvConfig} {line : RvLine} {place : RvPlacement}
    (accepted : rvPlace cfg line = .ok place) :
    place.offset = rvOffset cfg line ∧
      place.payloadLength = line.line1Length + line.line2Length ∧
      line.payload.length = place.payloadLength ∧ 0 < place.payloadLength := by
  unfold rvPlace at accepted
  dsimp only at accepted
  split at accepted
  · cases accepted
  · split at accepted
    · cases accepted
    · split at accepted
      · cases accepted
      · next fits =>
          cases accepted
          rw [not_or, not_not] at fits
          exact ⟨rfl, rfl, fits.2, Nat.pos_of_ne_zero fits.1⟩

/-- Both sessions were asked for the same format. -/
structure SameFormat (s : TvSession) (cfg : RvConfig) : Prop where
  width : cfg.ops.width = s.ops.width
  height : cfg.ops.height = s.ops.height
  fmt : cfg.ops.fmt = s.ops.fmt
  interlaced : cfg.ops.interlaced = s.ops.interlaced

/-- The receiver's line, for a format it shares with the sender. -/
structure SharedLine (s : TvSession) (cfg : RvConfig) : Prop where
  pg : cfg.st20Pg = s.st20Pg
  bytesInLine : cfg.st20BytesInLine = s.st20BytesInLine
  linesize_ge : s.st20BytesInLine ≤ cfg.st20Linesize
  buffer_lt : cfg.st20Linesize * s.ops.lines < 4294967296

theorem rvLinesize_ge {ops : St20RxOps} {pg : St20Pgroup} {linesize : Nat}
    (accepted : rvLinesize ops pg = .ok linesize) : bytesInLine ops.width pg ≤ linesize := by
  unfold rvLinesize at accepted
  dsimp only at accepted
  split at accepted
  · next wider =>
      cases accepted
      exact Nat.le_of_lt wider
  · split at accepted
    · cases accepted
    · cases accepted
      exact Nat.le_refl _

theorem sharedLine_of_attach {s : TvSession} {suggest metaSize : Nat} {plan : PacketPlan}
    {rxOps : St20RxOps} {cfg : RvConfig} (attached : s.Attached suggest plan)
    (accepted : rvAttach metaSize rxOps none = .ok cfg) (same : SameFormat s cfg)
    (buffer : cfg.st20Linesize * s.ops.lines < 4294967296) : SharedLine s cfg := by
  unfold rvAttach at accepted
  dsimp only at accepted
  split at accepted
  · cases accepted
  · next linesize lineOk =>
      cases accepted
      have pg : st20GetPgroup rxOps.fmt = s.st20Pg := by
        rw [attached.pg_eq]
        exact congrArg st20GetPgroup same.fmt
      have line : bytesInLine rxOps.width (st20GetPgroup rxOps.fmt) = s.st20BytesInLine := by
        rw [attached.bytesInLine_eq, pg]
        exact congrArg (fun width => bytesInLine width s.st20Pg) same.width
      exact
        { pg := pg
          bytesInLine := line
          linesize_ge := line ▸ rvLinesize_ge lineOk
          buffer_lt := buffer }

/-- Every byte of an accepted packet keeps its line and its place in the line. -/
def KeepsPositions (s : TvSession) (cfg : RvConfig) (pktIdx : Nat) (line : RvLine)
    (place : RvPlacement) : Prop :=
  (tvPayload s id pktIdx).map (gridPosition s.st20Linesize) =
    (rvPlaces cfg line place).map (gridPosition cfg.st20Linesize)

/-- The packet starts with a pixel group that a row offset can name, and the
buffers have the same line size or no segment is longer than a line. -/
structure PacketAgrees (s : TvSession) (cfg : RvConfig) (pktIdx : Nat) : Prop where
  aligned : s.st20Pg.size ∣ s.columnIn pktIdx
  low : s.columnIn pktIdx * s.st20Pg.coverage / s.st20Pg.size < 32768
  strides : s.st20Linesize = cfg.st20Linesize ∨
    (if s.hasExtra pktIdx then s.st20PktLen - (s.st20BytesInLine - s.columnIn pktIdx)
      else s.columnIn pktIdx + min s.st20PktLen (s.st20FrameSize - s.st20PktLen * pktIdx)) ≤
        min s.st20Linesize cfg.st20Linesize

variable {s : TvSession} {cfg : RvConfig} {pktIdx : Nat} {trans : StFrameTrans} {seqId : Nat}
  {place : RvPlacement}

theorem offset_low_of_placed (extra : s.hasExtra pktIdx = false)
    (short : s.leftLen pktIdx < 16384)
    (accepted : rvPlace cfg (rvReadLine (tvBuildSt20 s trans pktIdx seqId)) = .ok place) :
    s.line1Offset pktIdx < 32768 := by
  by_contra high
  have fits := rvPlace_ok accepted
  generalize built : tvBuildSt20 s trans pktIdx seqId = pkt at fits
  have offset : pkt.rowOffset = s.line1Offset pktIdx := by
    rw [← built]
    simp only [tvBuildSt20, extra]
    rfl
  have length : pkt.rowLength = s.leftLen pktIdx := by
    rw [← built]
    simp only [tvBuildSt20, extra]
    rfl
  have body : pkt.body.length = s.leftLen pktIdx := by
    rw [← built]
    simp only [tvBuildSt20, extra, tvPayload, Bool.false_and]
    exact length_copyBytes _ _ _
  have flag : hasBit topBit pkt.rowOffset = true := by
    rw [offset, hasBit_topBit (s.line1Offset_lt pktIdx)]
    exact decide_eq_true (by omega)
  have payload : (rvReadLine pkt).payload.length = s.leftLen pktIdx - 6 := by
    simp only [rvReadLine, Rfc4175Packet.payload, flag, if_true, List.length_drop, body]
    rfl
  have first := (rvReadLine_short (show pkt.rowLength < 16384 by omega)).1
  omega

theorem SharedLine.rvOffset_eq (shared : SharedLine s cfg) {line : RvLine} {row column : Nat}
    (number : line.line1Number = row) (inFrame : row < s.ops.lines)
    (columnEq : columnOf s.st20Pg line.line1Offset = column) (inLine : column < s.st20BytesInLine) :
    rvOffset cfg line = row * cfg.st20Linesize + column := by
  have rows : (row + 1) * cfg.st20Linesize ≤ s.ops.lines * cfg.st20Linesize :=
    Nat.mul_le_mul_right _ inFrame
  have buffer := shared.buffer_lt
  have line := shared.linesize_ge
  rw [Nat.succ_mul, Nat.mul_comm s.ops.lines] at rows
  rw [rvOffset, number, shared.pg, columnEq]
  exact u32_of_lt (by omega)

theorem columnOf_mono (pg : St20Pgroup) {first second : Nat} (le : first ≤ second) :
    columnOf pg first ≤ columnOf pg second :=
  Nat.mul_le_mul_right _ (Nat.div_le_div_right le)

theorem TvSession.Dense.announcedColumn_le (dense : s.Dense) (inFrame : pktIdx < s.st20TotalPkts) :
    s.announcedColumn pktIdx ≤ s.columnIn pktIdx := by
  have cleared : clearBit topBit (s.line1Offset pktIdx) ≤ s.line1Offset pktIdx := by
    unfold clearBit
    split
    · exact Nat.sub_le _ _
    · exact Nat.le_refl _
  have offset : s.line1Offset pktIdx ≤
      s.columnIn pktIdx * s.st20Pg.coverage / s.st20Pg.size := by
    rw [dense.line1Offset_eq inFrame]
    exact u16_le _
  have rounded : columnOf s.st20Pg (s.columnIn pktIdx * s.st20Pg.coverage / s.st20Pg.size) ≤
      s.columnIn pktIdx := by
    have groups : s.columnIn pktIdx * s.st20Pg.coverage / s.st20Pg.size / s.st20Pg.coverage =
        s.columnIn pktIdx / s.st20Pg.size := by
      rw [Nat.div_div_eq_div_mul, Nat.mul_div_mul_right _ _ s.st20Pg.coverage_pos]
    rw [columnOf, groups]
    exact Nat.div_mul_le_self _ _
  exact Nat.le_trans (columnOf_mono _ (Nat.le_trans cleared offset)) rounded

theorem TvSession.Dense.announcedColumn_eq_iff (dense : s.Dense)
    (inFrame : pktIdx < s.st20TotalPkts) :
    s.announcedColumn pktIdx = s.columnIn pktIdx ↔
      s.st20Pg.size ∣ s.columnIn pktIdx ∧
        s.columnIn pktIdx * s.st20Pg.coverage / s.st20Pg.size < 32768 := by
  constructor
  · intro same
    rw [← same]
    exact ⟨TvSession.dvd_columnOf _ _, Nat.lt_of_le_of_lt (TvSession.pixel_columnOf_le _ _)
      (clearBit_topBit_lt (s.line1Offset_lt pktIdx))⟩
  · rintro ⟨aligned, low⟩
    have offset : s.line1Offset pktIdx =
        s.columnIn pktIdx * s.st20Pg.coverage / s.st20Pg.size := by
      rw [dense.line1Offset_eq inFrame]
      exact u16_of_lt (by omega)
    rw [TvSession.announcedColumn, offset, clearBit_topBit_of_lt low]
    exact TvSession.columnOf_pixel aligned

/-! ## What the receiver reads off an accepted packet -/

namespace TvSession

def sentRow (s : TvSession) (pktIdx : Nat) : Nat :=
  if s.singleLine then pktIdx / s.st20PktsInLine else s.rowOf pktIdx

def sentPixel (s : TvSession) (pktIdx : Nat) : Nat := clearBit topBit (s.line1Offset pktIdx)

/-- The bytes of a packet: a full packet, or what is left of its line or of
the frame. -/
def sentLen (s : TvSession) (pktIdx : Nat) : Nat :=
  if s.singleLine then
    min s.st20PktLen (columnOf s.st20Pg (s.ops.width - s.line1Offset pktIdx))
  else
    min s.st20PktLen (s.st20FrameSize - s.st20PktLen * pktIdx)

end TvSession

/-- The numbers that the receiver has of a packet when it looks for its index. -/
structure PacketRead (s : TvSession) (cfg : RvConfig) (pktIdx : Nat) (line : RvLine)
    (place : RvPlacement) : Prop where
  number : line.line1Number = s.sentRow pktIdx
  row_lt : s.sentRow pktIdx < s.ops.lines
  pixel : line.line1Offset = s.sentPixel pktIdx
  offset : place.offset = s.sentRow pktIdx * cfg.st20Linesize + s.announcedColumn pktIdx
  length : place.payloadLength = s.sentLen pktIdx

theorem TvSession.Dense.sentRow_eq (dense : s.Dense) (pktIdx : Nat) :
    s.sentRow pktIdx = s.rowOf pktIdx := by
  rw [sentRow, dense.several, if_neg (by decide)]

theorem TvSession.Dense.sentLen_eq (dense : s.Dense) (pktIdx : Nat) :
    s.sentLen pktIdx = min s.st20PktLen (s.st20FrameSize - s.st20PktLen * pktIdx) := by
  rw [sentLen, dense.several, if_neg (by decide)]

theorem TvSession.Single.sentRow_eq (single : s.Single) (pktIdx : Nat) :
    s.sentRow pktIdx = pktIdx / s.st20PktsInLine := by
  rw [sentRow, single.single, if_pos rfl]

theorem TvSession.Single.sentLen_eq (single : s.Single) (pktIdx : Nat) :
    s.sentLen pktIdx = min s.st20PktLen (columnOf s.st20Pg (s.ops.width - s.line1Offset pktIdx)) := by
  rw [sentLen, single.single, if_pos rfl]

section

variable (dense : s.Dense) (few : s.ops.lines ≤ 32768)

include dense few

/-- A packet whose first offset and whose length are read as they were sent is read whole. -/
theorem TvSession.Dense.read_packet (shared : SharedLine s cfg) (inFrame : pktIdx < s.st20TotalPkts)
    (accepted : rvPlace cfg (rvReadLine (tvBuildSt20 s trans pktIdx seqId)) = .ok place)
    (pixel : (rvReadLine (tvBuildSt20 s trans pktIdx seqId)).line1Offset = s.sentPixel pktIdx)
    (length : place.payloadLength = s.sentLen pktIdx) :
    PacketRead s cfg pktIdx (rvReadLine (tvBuildSt20 s trans pktIdx seqId)) place := by
  have row := dense.rowOf_lt inFrame
  have number : (rvReadLine (tvBuildSt20 s trans pktIdx seqId)).line1Number = s.rowOf pktIdx := by
    rw [← dense.line1Number_eq inFrame few]
    exact clearBit_field trans.secondField
      (by rw [dense.line1Number_eq inFrame few]; omega)
  have column := Nat.lt_of_le_of_lt (dense.announcedColumn_le inFrame) (dense.columnIn_lt pktIdx)
  rw [← dense.sentRow_eq] at number row
  exact
    { number := number
      row_lt := row
      pixel := pixel
      offset := (rvPlace_ok accepted).1.trans
        (shared.rvOffset_eq number row (congrArg (columnOf s.st20Pg) pixel) column)
      length := length }

theorem TvSession.Dense.read_single (shared : SharedLine s cfg) (inFrame : pktIdx < s.st20TotalPkts)
    (extra : s.hasExtra pktIdx = false)
    (accepted : rvPlace cfg (rvReadLine (tvBuildSt20 s trans pktIdx seqId)) = .ok place) :
    PacketRead s cfg pktIdx (rvReadLine (tvBuildSt20 s trans pktIdx seqId)) place := by
  have short := dense.pktLen_le
  have left := dense.leftLen_eq inFrame
  have low := offset_low_of_placed extra (by omega) accepted
  have read := tvBuildSt20_single trans seqId extra low
  apply dense.read_packet few shared inFrame accepted
  · simp only [rvReadLine, tvBuildSt20, extra, TvSession.sentPixel]
    rfl
  · rw [← (rvPlace_ok accepted).2.2.1, dense.sentLen_eq]
    show (tvBuildSt20 s trans pktIdx seqId).payload.length = _
    rw [read.2, dense.payload_single inFrame few extra, length_copyBytes]

theorem TvSession.Dense.read_lengths
    (inFrame : pktIdx < s.st20TotalPkts) (extra : s.hasExtra pktIdx = true)
    (trans : StFrameTrans) (seqId : Nat) :
    (rvReadLine (tvBuildSt20 s trans pktIdx seqId)).line1Length =
        s.st20BytesInLine - s.columnIn pktIdx ∧
      (rvReadLine (tvBuildSt20 s trans pktIdx seqId)).line2Length =
        s.st20PktLen - (s.st20BytesInLine - s.columnIn pktIdx) := by
  have runs := (dense.hasExtra_iff inFrame).mp extra
  have short := dense.pktLen_le
  have read := tvBuildSt20_extra trans seqId extra
  have rowLength : (tvBuildSt20 s trans pktIdx seqId).rowLength = s.line1Length pktIdx := by
    simp only [tvBuildSt20, extra, if_true]
  constructor
  · rw [← dense.line1Length_eq inFrame few runs.1, ← rowLength]
    refine (rvReadLine_short ?_).1
    rw [rowLength, dense.line1Length_eq inFrame few runs.1]
    omega
  · rw [← dense.line2Length_eq inFrame few runs.1]
    simp only [RvLine.line2Length, rvReadLine, read.1]
    rfl

theorem TvSession.Dense.read_extra (shared : SharedLine s cfg) (inFrame : pktIdx < s.st20TotalPkts)
    (extra : s.hasExtra pktIdx = true)
    (accepted : rvPlace cfg (rvReadLine (tvBuildSt20 s trans pktIdx seqId)) = .ok place) :
    PacketRead s cfg pktIdx (rvReadLine (tvBuildSt20 s trans pktIdx seqId)) place := by
  have runs := (dense.hasExtra_iff inFrame).mp extra
  have lengths := dense.read_lengths few inFrame extra trans seqId
  apply dense.read_packet few shared inFrame accepted
  · simp only [rvReadLine, tvBuildSt20, extra, if_true, TvSession.sentPixel,
      clearBit_setBit (s.line1Offset_lt pktIdx)]
  · rw [(rvPlace_ok accepted).2.1, lengths.1, lengths.2, dense.sentLen_eq]
    omega

end

theorem map_gridPosition_copyBytes (width place length : Nat) :
    (copyBytes id place length).map (gridPosition width) = gridRun width place length :=
  map_copyBytes_id _ _ _

theorem head?_copyBytes (place : Nat) {length : Nat} (nonempty : 0 < length) :
    (copyBytes id place length).head? = some place := by
  rcases Nat.exists_eq_succ_of_ne_zero (Nat.pos_iff_ne_zero.mp nonempty) with ⟨rest, rfl⟩
  rw [copyBytes, List.range_succ_eq_map]
  rfl

theorem head?_append_copyBytes (place : Nat) (rest : List Nat) {length : Nat}
    (nonempty : 0 < length) : (copyBytes id place length ++ rest).head? = some place := by
  rw [List.head?_append, head?_copyBytes place nonempty]
  rfl

theorem head?_append_gridRun (width place : Nat) (rest : List (Nat × Nat)) {length : Nat}
    (nonempty : 0 < length) :
    (gridRun width place length ++ rest).head? = some (gridPosition width place) := by
  rw [← map_gridPosition_copyBytes, List.head?_append, List.head?_map,
    head?_copyBytes place nonempty]
  rfl

section

variable (dense : s.Dense) (few : s.ops.lines ≤ 32768) (shared : SharedLine s cfg)
    (inFrame : pktIdx < s.st20TotalPkts)

include dense few shared inFrame

theorem TvSession.Dense.keeps_single (extra : s.hasExtra pktIdx = false)
    (accepted : rvPlace cfg (rvReadLine (tvBuildSt20 s trans pktIdx seqId)) = .ok place) :
    KeepsPositions s cfg pktIdx (rvReadLine (tvBuildSt20 s trans pktIdx seqId)) place ↔
      PacketAgrees s cfg pktIdx := by
  have below := dense.below pktIdx inFrame
  have short := dense.pktLen_le
  have long := dense.pktLen_pos
  have column := dense.columnIn_lt pktIdx
  have line := shared.linesize_ge
  have lineTx := dense.linesize_ge
  have left := dense.leftLen_eq inFrame
  have low := offset_low_of_placed extra (by omega) accepted
  have read := dense.read_single few shared inFrame extra accepted
  have offset := read.offset
  rw [dense.sentRow_eq] at offset
  have uncrossed : (rvReadLine (tvBuildSt20 s trans pktIdx seqId)).crosses cfg = false := by
    simp only [RvLine.crosses, rvReadLine, (tvBuildSt20_single trans seqId extra low).1]
    rfl
  rw [KeepsPositions, dense.payload_single inFrame few extra, rvPlaces, uncrossed, if_neg (by decide),
    map_gridPosition_copyBytes, map_gridPosition_copyBytes, offset, read.length, dense.sentLen_eq,
    gridRun_eq_iff (by omega)
      (Nat.lt_of_le_of_lt (dense.announcedColumn_le inFrame) (by omega)) (by omega)]
  constructor
  · rintro ⟨_, same, strides⟩
    have group := (dense.announcedColumn_eq_iff inFrame).mp same.symm
    exact ⟨group.1, group.2, by rw [extra, if_neg (by decide)]; exact strides⟩
  · rintro ⟨aligned, low, strides⟩
    rw [extra, if_neg (by decide)] at strides
    exact ⟨rfl, ((dense.announcedColumn_eq_iff inFrame).mpr ⟨aligned, low⟩).symm, strides⟩

/-- A packet with two lines keeps its positions exactly when it agrees. -/
theorem TvSession.Dense.keeps_extra (extra : s.hasExtra pktIdx = true)
    (accepted : rvPlace cfg (rvReadLine (tvBuildSt20 s trans pktIdx seqId)) = .ok place) :
    KeepsPositions s cfg pktIdx (rvReadLine (tvBuildSt20 s trans pktIdx seqId)) place ↔
      PacketAgrees s cfg pktIdx := by
  have runs := (dense.hasExtra_iff inFrame).mp extra
  have column := dense.columnIn_lt pktIdx
  have line := shared.linesize_ge
  have lineTx := dense.linesize_ge
  have announcedLe := dense.announcedColumn_le inFrame
  have built := tvBuildSt20_extra trans seqId extra
  have placed := rvPlace_ok accepted
  have lengths := dense.read_lengths few inFrame extra trans seqId
  have read := dense.read_extra few shared inFrame extra accepted
  have number := read.number
  have offset := read.offset
  rw [dense.sentRow_eq] at number offset
  have crosses : (rvReadLine (tvBuildSt20 s trans pktIdx seqId)).crosses cfg =
      decide (s.st20BytesInLine < cfg.st20Linesize) := by
    simp only [RvLine.crosses, rvReadLine, built.1, shared.bytesInLine, Option.isSome_some,
      Bool.true_and]
  generalize rvReadLine (tvBuildSt20 s trans pktIdx seqId) = rxLine at *
  have firstRun := @gridRun_eq_iff s.st20Linesize cfg.st20Linesize (s.rowOf pktIdx)
    (s.rowOf pktIdx) (s.columnIn pktIdx) (s.announcedColumn pktIdx)
    (s.st20BytesInLine - s.columnIn pktIdx) (by omega) (by omega) (by omega)
  have secondRun := @gridRun_eq_iff s.st20Linesize cfg.st20Linesize (s.rowOf pktIdx + 1)
    (s.rowOf pktIdx + 1) 0 0 (s.st20PktLen - (s.st20BytesInLine - s.columnIn pktIdx))
    (by omega) (by omega) (by omega)
  -- The receiver's two pieces, also where it copies them as one.
  have places : s.announcedColumn pktIdx = s.columnIn pktIdx ->
      (rvPlaces cfg rxLine place).map (gridPosition cfg.st20Linesize) =
        gridRun cfg.st20Linesize (s.rowOf pktIdx * cfg.st20Linesize + s.announcedColumn pktIdx)
            (s.st20BytesInLine - s.columnIn pktIdx) ++
          gridRun cfg.st20Linesize ((s.rowOf pktIdx + 1) * cfg.st20Linesize + 0)
            (s.st20PktLen - (s.st20BytesInLine - s.columnIn pktIdx)) := by
    intro same
    have total : place.payloadLength = (s.st20BytesInLine - s.columnIn pktIdx) +
        (s.st20PktLen - (s.st20BytesInLine - s.columnIn pktIdx)) := by omega
    rw [rvPlaces, crosses]
    by_cases wide : s.st20BytesInLine < cfg.st20Linesize
    · rw [if_pos (decide_eq_true wide), List.map_append, map_gridPosition_copyBytes,
        map_gridPosition_copyBytes, offset, number, lengths.1, total, Nat.add_sub_cancel_left]
      rfl
    · have next : (s.rowOf pktIdx + 1) * cfg.st20Linesize + 0 =
          s.rowOf pktIdx * cfg.st20Linesize + s.announcedColumn pktIdx +
            (s.st20BytesInLine - s.columnIn pktIdx) := by
        rw [Nat.succ_mul]
        omega
      rw [if_neg (by rw [decide_eq_true_eq]; exact wide), total, ← copyBytes_append,
        List.map_append, map_gridPosition_copyBytes, map_gridPosition_copyBytes, offset, next]
  have starts : (rvPlaces cfg rxLine place).head? = some place.offset := by
    have nonempty := placed.2.2.2
    rw [rvPlaces]
    split
    · rw [head?_append_copyBytes _ _ (by omega)]
    · rw [head?_copyBytes _ nonempty]
  rw [KeepsPositions, dense.payload_extra inFrame few extra, List.map_append,
    map_gridPosition_copyBytes, map_gridPosition_copyBytes]
  constructor
  · intro same
    have heads := congrArg List.head? same
    rw [List.head?_map, starts, offset, head?_append_gridRun _ _ _ (by omega),
      Option.map_some, Option.some.injEq, gridPosition_inside (by omega),
      gridPosition_inside (by omega), Prod.mk.injEq] at heads
    have group := (dense.announcedColumn_eq_iff inFrame).mp heads.2.symm
    rw [places heads.2.symm] at same
    have pieces := List.append_inj same (by rw [length_gridRun, length_gridRun])
    have strides := (secondRun.mp pieces.2).2.2
    rw [Nat.zero_add] at strides
    exact ⟨group.1, group.2, by rw [extra, if_pos rfl]; exact strides⟩
  · rintro ⟨aligned, low, strides⟩
    have same := (dense.announcedColumn_eq_iff inFrame).mpr ⟨aligned, low⟩
    rw [extra, if_pos rfl] at strides
    rw [places same]
    congr 1
    · exact firstRun.mpr ⟨rfl, same.symm, Or.inr (by omega)⟩
    · exact secondRun.mpr ⟨rfl, rfl, by rw [Nat.zero_add]; exact strides⟩

end

theorem TvSession.Single.offset_inLine (single : s.Single) (low : s.line1Offset pktIdx < 32768) :
    s.line1Offset pktIdx < s.ops.width := by
  have bound := single.firstPixel_le pktIdx
  have width := single.width_pos
  have coverage := s.st20Pg.coverage_pos
  have wrapped : s.line1Offset pktIdx ≤ s.firstPixel pktIdx := by
    rw [single.line1Offset_eq]
    exact u16_le _
  by_cases several : 2 ≤ s.st20PktsInLine
  · by_cases narrow : s.ops.width ≤ 34250
    · have starts := single.starts narrow several
      omega
    · omega
  · have one : s.st20PktsInLine - 1 = 0 := by omega
    rw [one, Nat.mul_zero] at bound
    omega

theorem columnOf_add_le (pg : St20Pgroup) (first second : Nat) :
    columnOf pg first + columnOf pg second ≤ columnOf pg (first + second) := by
  rw [columnOf, columnOf, columnOf, ← Nat.add_mul]
  exact Nat.mul_le_mul_right _ Nat.div_add_div_le_add_div

theorem TvSession.Single.offset_of_placed (single : s.Single)
    (accepted : rvPlace cfg (rvReadLine (tvBuildSt20 s trans pktIdx seqId)) = .ok place) :
    s.line1Offset pktIdx < 32768 ∧ s.line1Offset pktIdx < s.ops.width := by
  have shortLen : s.leftLen pktIdx < 16384 := by
    have le := single.pktLen_le
    unfold TvSession.leftLen
    refine Nat.lt_of_le_of_lt (u16_le _) (Nat.lt_of_le_of_lt (Nat.min_le_left _ _) (by omega))
  have low := offset_low_of_placed (single.hasExtra_eq pktIdx) shortLen accepted
  exact ⟨low, single.offset_inLine low⟩

section

variable (single : s.Single) (few : s.ops.lines ≤ 32768) (shared : SharedLine s cfg)
    (inFrame : pktIdx < s.st20TotalPkts)
    (accepted : rvPlace cfg (rvReadLine (tvBuildSt20 s trans pktIdx seqId)) = .ok place)

include single few shared inFrame accepted

theorem TvSession.Single.read :
    PacketRead s cfg pktIdx (rvReadLine (tvBuildSt20 s trans pktIdx seqId)) place := by
  have extra := single.hasExtra_eq pktIdx
  have row := single.row_lt inFrame
  rcases single.offset_of_placed accepted with ⟨low, inLine⟩
  have read := tvBuildSt20_single trans seqId extra low
  have placed := rvPlace_ok accepted
  have number : (rvReadLine (tvBuildSt20 s trans pktIdx seqId)).line1Number =
      pktIdx / s.st20PktsInLine := by
    rw [← single.line1Number_eq inFrame few]
    exact clearBit_field trans.secondField
      (by rw [single.line1Number_eq inFrame few]; omega)
  have pixel : (rvReadLine (tvBuildSt20 s trans pktIdx seqId)).line1Offset =
      s.sentPixel pktIdx := by
    simp only [rvReadLine, tvBuildSt20, extra, TvSession.sentPixel]
    rfl
  have same : s.sentPixel pktIdx = s.line1Offset pktIdx := clearBit_topBit_of_lt low
  have column : s.announcedColumn pktIdx < s.st20BytesInLine :=
    single.columnOf_lt (same.symm ▸ inLine : s.sentPixel pktIdx < s.ops.width)
  rw [← single.sentRow_eq] at number row
  exact
    { number := number
      row_lt := row
      pixel := pixel
      offset := placed.1.trans
        (shared.rvOffset_eq number row (congrArg (columnOf s.st20Pg) pixel) column)
      length := by
        rw [← placed.2.2.1, single.sentLen_eq, ← single.leftLen_eq inLine]
        show (tvBuildSt20 s trans pktIdx seqId).payload.length = _
        rw [read.2, single.payload_eq inFrame few inLine, length_copyBytes] }

theorem TvSession.Single.keeps :
    KeepsPositions s cfg pktIdx (rvReadLine (tvBuildSt20 s trans pktIdx seqId)) place := by
  have extra := single.hasExtra_eq pktIdx
  have line := shared.linesize_ge
  have lineTx := single.linesize_ge
  rcases single.offset_of_placed accepted with ⟨low, inLine⟩
  have left := single.leftLen_eq inLine
  have ends : columnOf s.st20Pg (s.line1Offset pktIdx) + s.leftLen pktIdx ≤ s.st20BytesInLine := by
    have parts := columnOf_add_le s.st20Pg (s.line1Offset pktIdx)
      (s.ops.width - s.line1Offset pktIdx)
    rw [Nat.add_sub_cancel' (Nat.le_of_lt inLine)] at parts
    have whole : columnOf s.st20Pg s.ops.width ≤ s.st20BytesInLine := by
      apply Nat.le_of_mul_le_mul_left _ s.st20Pg.coverage_pos
      refine Nat.le_trans ?_ single.line_ge
      rw [columnOf, ← Nat.mul_assoc]
      exact Nat.mul_le_mul_right _ (Nat.mul_div_le _ _)
    omega
  have read := single.read few shared inFrame accepted
  have uncrossed : (rvReadLine (tvBuildSt20 s trans pktIdx seqId)).crosses cfg = false := by
    simp only [RvLine.crosses, rvReadLine, (tvBuildSt20_single trans seqId extra low).1]
    rfl
  have offset := read.offset
  rw [single.sentRow_eq, TvSession.announcedColumn, clearBit_topBit_of_lt low] at offset
  have payload := read.length
  rw [single.sentLen_eq, ← left] at payload
  have nonempty := (rvPlace_ok accepted).2.2.2
  rw [KeepsPositions, single.payload_eq inFrame few inLine, rvPlaces, uncrossed,
    if_neg (by decide), map_gridPosition_copyBytes, map_gridPosition_copyBytes, offset, payload,
    gridRun_eq_iff (by omega) (by omega) (by omega)]
  exact ⟨rfl, rfl, Or.inr (by omega)⟩

end

/-- For every pair of accepted sessions of one format, with any line sizes,
and every packet that the receiver accepts: its bytes keep their positions
exactly when the packet agrees; in single line mode they always do. -/
theorem positions_kept_iff {user metaSize : Nat} {txOps : St20TxOps} {rxOps : St20RxOps}
    (sender : tvAttach (pktUdpSuggestMaxSize user) txOps = .ok s) (representable : s.Representable)
    (few : s.ops.lines ≤ 32768) (receiver : rvAttach metaSize rxOps none = .ok cfg)
    (same : SameFormat s cfg) (buffer : cfg.st20Linesize * s.ops.lines < 4294967296)
    (inFrame : pktIdx < s.st20TotalPkts)
    (accepted : rvPlace cfg (rvReadLine (tvBuildSt20 s trans pktIdx seqId)) = .ok place) :
    KeepsPositions s cfg pktIdx (rvReadLine (tvBuildSt20 s trans pktIdx seqId)) place ↔
      s.ops.packing = .gpmSl ∨ PacketAgrees s cfg pktIdx := by
  rcases tvAttach_ok sender with ⟨rfl, plan, attached⟩
  have shared := sharedLine_of_attach attached receiver same buffer
  have several (dense : s.Dense) (other : s.ops.packing ≠ .gpmSl) :
      KeepsPositions s cfg pktIdx (rvReadLine (tvBuildSt20 s trans pktIdx seqId)) place ↔
        s.ops.packing = .gpmSl ∨ PacketAgrees s cfg pktIdx := by
    rw [or_iff_right other]
    cases extra : s.hasExtra pktIdx with
    | true => exact dense.keeps_extra few shared inFrame extra accepted
    | false => exact dense.keeps_single few shared inFrame extra accepted
  cases packing : s.ops.packing with
  | gpm =>
    rw [← packing]
    exact several (attached.dense_gpm representable packing) (by rw [packing]; decide)
  | bpm =>
    rw [← packing]
    exact several (attached.dense_bpm representable packing) (by rw [packing]; decide)
  | gpmSl =>
    have single := attached.single_gpmSl representable packing
    exact ⟨fun _ => Or.inl rfl, fun _ => single.keeps few shared inFrame accepted⟩

/-- A receiver of the 1080 line format whose lines are padded to 5120 bytes. -/
def hdRxOps : St20RxOps :=
  { width := 1920, height := 1080, fmt := .yuv422Bit10, interlaced := false, linesize := 5120
    payloadType := 112, ssrc := 0, numPort := 1, type := .frameLevel, framebuffCnt := 3
    sliceLines := 0, uframeSize := 0, receiveIncompleteFrame := false, enableRtcp := false
    queryExtFrame := false }

def hdConfig : RvConfig :=
  { ops := hdRxOps, st22 := none, st20Pg := st20GetPgroup .yuv422Bit10, st20BytesInLine := 4800
    st20Linesize := 5120, st20FbSize := 5529600, st20FrameSize := 5184000
    st20FrameBitmapSize := 810, sliceLines := 33, sliceSize := 158400, slotMax := 1
    userMetaBufferSize := 1024 }

/-- The fourth packet runs over the end of the first line. -/
theorem positions_kept_hd :
    KeepsPositions hdSession hdConfig 3
      (rvReadLine (tvBuildSt20 hdSession ⟨fun place => BitVec.ofNat 8 place, false, 90000⟩ 3 3))
      ⟨3960, 1320⟩ := by
  refine (@positions_kept_iff hdSession hdConfig 3 _ 3 ⟨3960, 1320⟩ 0 1024 hdOps hdRxOps
    rfl ⟨by decide, by decide, by decide, by decide⟩ (by decide) rfl ⟨rfl, rfl, rfl, rfl⟩
    (by decide) (by decide) ?_).mpr (Or.inr ⟨by decide, by decide, Or.inr (by decide)⟩)
  decide +kernel

def oddOps : St20TxOps :=
  { width := 1281, height := 720, fmt := .yuv422Bit10, packing := .gpm, interlaced := false
    linesize := 0, payloadType := 112, ssrc := 1193040 }

def oddSession : TvSession :=
  { ops := oddOps, st20Pg := st20GetPgroup .yuv422Bit10, st20Linesize := 3203
    st20BytesInLine := 3203, st20FrameSize := 2305800, st20FbSize := 2306160, st20PktsInLine := 0
    st20PktLen := 1320, st20PktSize := 1382, st20TotalPkts := 1747 }

def oddRxOps : St20RxOps :=
  { hdRxOps with width := 1281, height := 720, linesize := 0 }

def oddConfig : RvConfig :=
  { ops := oddRxOps, st22 := none, st20Pg := st20GetPgroup .yuv422Bit10, st20BytesInLine := 3203
    st20Linesize := 3203, st20FbSize := 2306160, st20FrameSize := 2305800
    st20FrameBitmapSize := 360, sliceLines := 22, sliceSize := 70455, slotMax := 1
    userMetaBufferSize := 1024 }

/-- The fourth packet is read from byte 757 of the second line, inside a pixel
group, and written from byte 755 on. -/
theorem odd_line_moves : tvAttach (pktUdpSuggestMaxSize 0) oddOps = .ok oddSession ∧
    rvAttach 1024 oddRxOps none = .ok oddConfig ∧ SameFormat oddSession oddConfig ∧
    rvPlace oddConfig (rvReadLine (tvBuildSt20 oddSession ⟨fun _ => 0, false, 0⟩ 3 3)) =
      .ok ⟨3958, 1320⟩ ∧
    ¬ KeepsPositions oddSession oddConfig 3
      (rvReadLine (tvBuildSt20 oddSession ⟨fun _ => 0, false, 0⟩ 3 3)) ⟨3958, 1320⟩ := by
  refine ⟨rfl, rfl, ⟨rfl, rfl, rfl, rfl⟩, by decide +kernel, fun same => ?_⟩
  have heads := congrArg List.head? same
  have moved : ((tvPayload oddSession id 3).map (gridPosition 3203)).head? ≠
      ((rvPlaces oddConfig (rvReadLine (tvBuildSt20 oddSession ⟨fun _ => 0, false, 0⟩ 3 3))
        ⟨3958, 1320⟩).map (gridPosition 3203)).head? := by
    decide +kernel
  exact moved heads

end MediaTransport.Video
