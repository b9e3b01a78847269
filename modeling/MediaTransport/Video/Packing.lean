import MediaTransport.Video.Layout

namespace MediaTransport.Video

open Library

/-!
# The two ways of packing lines

The general and the block packing modes cut the active bytes of a frame, read
line after line, into packets of one length; a packet may run over the end of
a line.  The single line mode cuts every line for itself.  For both, the
numbers that `tv_build_st20` computes are given here without truncations.
-/

namespace TvSession

variable {s : TvSession} {pktIdx : Nat}

/-! ## Packets that run over line ends -/

/-- A session in general or block packing mode. -/
structure Dense (s : TvSession) : Prop extends s.Lines where
  several : s.singleLine = false
  pktLen_pos : 0 < s.st20PktLen
  pktLen_le : s.st20PktLen ≤ 1452
  pktLen_dvd : s.st20Pg.size ∣ s.st20PktLen
  total_ge : s.st20FrameSize ≤ s.st20PktLen * s.st20TotalPkts
  below : ∀ pktIdx < s.st20TotalPkts, s.st20PktLen * pktIdx < s.st20FrameSize

def rowOf (s : TvSession) (pktIdx : Nat) : Nat := s.st20PktLen * pktIdx / s.st20BytesInLine

def columnIn (s : TvSession) (pktIdx : Nat) : Nat := s.st20PktLen * pktIdx % s.st20BytesInLine

/-- A packet begins a whole number of packets into the frame. -/
theorem rowOf_columnIn (s : TvSession) (pktIdx : Nat) :
    s.rowOf pktIdx * s.st20BytesInLine + s.columnIn pktIdx = s.st20PktLen * pktIdx :=
  Nat.div_add_mod' _ _

theorem Dense.columnIn_lt (dense : s.Dense) (pktIdx : Nat) :
    s.columnIn pktIdx < s.st20BytesInLine :=
  Nat.mod_lt _ dense.bytesInLine_pos

theorem Dense.rowOf_lt (dense : s.Dense) (inFrame : pktIdx < s.st20TotalPkts) :
    s.rowOf pktIdx < s.ops.lines := by
  apply Nat.div_lt_of_lt_mul
  exact Nat.lt_of_lt_of_le (dense.below pktIdx inFrame) dense.frameSize_le

theorem Lines.bytesInLine_lt (lines : s.Lines) : s.st20BytesInLine < 2147483648 := by
  have upper := lines.line_lt
  have bytes := lines.bytes_lt
  have coverage := s.st20Pg.coverage_pos
  have line : s.ops.width * s.st20Pg.size ≤ s.ops.width * s.ops.lines * s.st20Pg.size := by
    apply Nat.mul_le_mul_right
    exact Nat.le_mul_of_pos_right _ lines.lines_pos
  have short : s.st20BytesInLine ≤ s.ops.width * s.st20Pg.size := by
    by_contra long
    have above : s.st20Pg.coverage * (s.ops.width * s.st20Pg.size + 1) ≤
        s.st20Pg.coverage * s.st20BytesInLine := Nat.mul_le_mul_left _ (by omega)
    have grown : s.ops.width * s.st20Pg.size ≤
        s.st20Pg.coverage * (s.ops.width * s.st20Pg.size) := Nat.le_mul_of_pos_left _ coverage
    rw [Nat.mul_add, Nat.mul_one] at above
    omega
  omega

section

variable (dense : s.Dense) (inFrame : pktIdx < s.st20TotalPkts)

include dense inFrame

theorem Dense.offset_eq :
    s.offset pktIdx = s.st20PktLen * pktIdx := by
  have bound := dense.below pktIdx inFrame
  have frame := dense.frameSize_lt
  rw [offset, dense.several, if_neg (by decide)]
  exact u32_of_lt (by omega)

theorem Dense.u32_place :
    u32 (s.st20PktLen * pktIdx : Nat) = s.st20PktLen * pktIdx := by
  have bound := dense.below pktIdx inFrame
  have frame := dense.frameSize_lt
  exact u32_of_lt (by omega)

theorem Dense.line1Number_eq (few : s.ops.lines ≤ 32768) : s.line1Number pktIdx = s.rowOf pktIdx := by
  have row := dense.rowOf_lt inFrame
  rw [line1Number, dense.several, if_neg (by decide), dense.u32_place inFrame]
  exact u16_of_lt (Nat.lt_of_lt_of_le row (by omega))

theorem Dense.line1Offset_eq :
    s.line1Offset pktIdx =
      u16 (s.columnIn pktIdx * s.st20Pg.coverage / s.st20Pg.size : Nat) := by
  rw [line1Offset, dense.several, if_neg (by decide), dense.u32_place inFrame]
  rfl

/-- A packet has a second segment if it runs over the end of its line and is not the last one. -/
theorem Dense.hasExtra_iff :
    s.hasExtra pktIdx = true ↔
      s.st20BytesInLine < s.columnIn pktIdx + s.st20PktLen ∧
        s.st20PktLen * pktIdx + s.st20PktLen < s.st20FrameSize := by
  have bound := dense.below pktIdx inFrame
  have frame := dense.frameSize_lt
  have line := dense.bytesInLine_lt
  have short := dense.pktLen_le
  have split := s.rowOf_columnIn pktIdx
  have next : (s.st20PktLen * pktIdx / s.st20BytesInLine + 1) * s.st20BytesInLine =
      s.rowOf pktIdx * s.st20BytesInLine + s.st20BytesInLine := Nat.succ_mul _ _
  have last : u32 (s.st20PktLen * pktIdx + s.st20PktLen : Nat) =
      s.st20PktLen * pktIdx + s.st20PktLen := u32_of_lt (by omega)
  have stop : u32 ((s.st20PktLen * pktIdx / s.st20BytesInLine + 1) * s.st20BytesInLine : Nat) =
      s.rowOf pktIdx * s.st20BytesInLine + s.st20BytesInLine := by
    rw [next]
    exact u32_of_lt (by omega)
  rw [hasExtra, dense.several, dense.offset_eq inFrame, tvPktHasExtraHdr]
  simp only [last, stop, Bool.not_false, Bool.true_and, Bool.and_eq_true, decide_eq_true_eq]
  omega

/-- The last packet carries what is left of the frame. -/
theorem Dense.leftLen_eq :
    s.leftLen pktIdx = min s.st20PktLen (s.st20FrameSize - s.st20PktLen * pktIdx) := by
  have bound := dense.below pktIdx inFrame
  have frame := dense.frameSize_lt
  have short := dense.pktLen_le
  have rest : u32 ((s.st20FrameSize : Int) - (s.st20PktLen * pktIdx : Nat)) =
      s.st20FrameSize - s.st20PktLen * pktIdx := by
    rw [← Int.ofNat_sub (Nat.le_of_lt bound)]
    exact u32_of_lt (by omega)
  simp only [leftLen, dense.several, dense.offset_eq inFrame]
  rw [if_neg (by decide), rest]
  exact u16_of_lt (by omega)

theorem Dense.line1Length_eq (few : s.ops.lines ≤ 32768)
    (runs : s.st20BytesInLine < s.columnIn pktIdx + s.st20PktLen) :
    s.line1Length pktIdx = s.st20BytesInLine - s.columnIn pktIdx := by
  have column := dense.columnIn_lt pktIdx
  have short := dense.pktLen_le
  have split := s.rowOf_columnIn pktIdx
  have next : (s.rowOf pktIdx + 1) * s.st20BytesInLine =
      s.rowOf pktIdx * s.st20BytesInLine + s.st20BytesInLine := Nat.succ_mul _ _
  have rest : (((s.rowOf pktIdx + 1) * s.st20BytesInLine : Nat) : Int) -
      (s.st20PktLen * pktIdx : Nat) = (s.st20BytesInLine - s.columnIn pktIdx : Nat) := by
    omega
  rw [line1Length, dense.line1Number_eq inFrame few, dense.offset_eq inFrame, rest]
  exact u16_of_lt (by omega)

theorem Dense.line2Length_eq (few : s.ops.lines ≤ 32768)
    (runs : s.st20BytesInLine < s.columnIn pktIdx + s.st20PktLen) :
    s.line2Length pktIdx = s.st20PktLen - (s.st20BytesInLine - s.columnIn pktIdx) := by
  have short := dense.pktLen_le
  rw [line2Length, dense.line1Length_eq inFrame few runs]
  rw [← Int.ofNat_sub (by omega)]
  exact u16_of_lt (by omega)

/-- The bytes are taken from the packet's line of a frame with padded lines. -/
theorem Dense.copyOffset_eq (few : s.ops.lines ≤ 32768) :
    s.copyOffset pktIdx = s.rowOf pktIdx * s.st20Linesize + s.columnIn pktIdx := by
  have column := dense.columnIn_lt pktIdx
  have row := dense.rowOf_lt inFrame
  have line := dense.linesize_ge
  have buffer := dense.buffer_lt
  rw [copyOffset, dense.several, dense.offset_eq inFrame, dense.line1Number_eq inFrame few]
  by_cases wide : s.padded = true
  · have rows : (s.rowOf pktIdx + 1) * s.st20Linesize ≤ s.ops.lines * s.st20Linesize :=
      Nat.mul_le_mul_right _ row
    rw [Nat.succ_mul, Nat.mul_comm s.ops.lines] at rows
    rw [wide, if_pos (by decide), Nat.add_comm]
    exact u32_of_lt (by unfold columnIn at column; omega)
  · have same : s.st20Linesize = s.st20BytesInLine := by
      unfold padded at wide
      rw [decide_eq_true_eq] at wide
      omega
    rw [Bool.eq_false_of_not_eq_true wide, if_neg (by decide), same]
    exact (s.rowOf_columnIn pktIdx).symm

theorem Dense.rowOf_succ_lt
    (extra : s.hasExtra pktIdx = true) : s.rowOf pktIdx + 1 < s.ops.lines := by
  rcases (dense.hasExtra_iff inFrame).mp extra with ⟨runs, inner⟩
  have split := s.rowOf_columnIn pktIdx
  have frame := dense.frameSize_le
  apply Nat.lt_of_mul_lt_mul_left (a := s.st20BytesInLine)
  rw [Nat.mul_add, Nat.mul_one, Nat.mul_comm s.st20BytesInLine (s.rowOf pktIdx)]
  omega

/-- The bytes of a packet with a second segment come from two lines. -/
theorem Dense.payload_extra
    (few : s.ops.lines ≤ 32768) (extra : s.hasExtra pktIdx = true) {Value : Type}
    (addr : Nat -> Value) :
    tvPayload s addr pktIdx =
      copyBytes addr (s.rowOf pktIdx * s.st20Linesize + s.columnIn pktIdx)
          (s.st20BytesInLine - s.columnIn pktIdx) ++
        copyBytes addr ((s.rowOf pktIdx + 1) * s.st20Linesize)
          (s.st20PktLen - (s.st20BytesInLine - s.columnIn pktIdx)) := by
  rcases (dense.hasExtra_iff inFrame).mp extra with ⟨runs, inner⟩
  have column := dense.columnIn_lt pktIdx
  rw [tvPayload, extra, Bool.true_and, dense.copyOffset_eq inFrame few,
    dense.line1Number_eq inFrame few, dense.line1Length_eq inFrame few runs,
    dense.line2Length_eq inFrame few runs, dense.leftLen_eq inFrame]
  by_cases wide : s.padded = true
  · rw [if_pos wide, Nat.mul_comm s.st20Linesize]
  · have same : s.st20Linesize = s.st20BytesInLine := by
      have line := dense.linesize_ge
      unfold padded at wide
      rw [decide_eq_true_eq] at wide
      omega
    have next : (s.rowOf pktIdx + 1) * s.st20Linesize =
        s.rowOf pktIdx * s.st20Linesize + s.columnIn pktIdx +
          (s.st20BytesInLine - s.columnIn pktIdx) := by
      rw [Nat.succ_mul]
      omega
    rw [if_neg wide, next, copyBytes_append]
    congr 1
    omega

theorem Dense.payload_single
    (few : s.ops.lines ≤ 32768) (extra : s.hasExtra pktIdx = false) {Value : Type}
    (addr : Nat -> Value) :
    tvPayload s addr pktIdx =
      copyBytes addr (s.rowOf pktIdx * s.st20Linesize + s.columnIn pktIdx)
        (min s.st20PktLen (s.st20FrameSize - s.st20PktLen * pktIdx)) := by
  rw [tvPayload, extra, Bool.false_and, if_neg (by decide), dense.copyOffset_eq inFrame few,
    dense.leftLen_eq inFrame]

/-- The two segments of a packet that runs over the end of its line, with the bytes they are made of. -/
theorem Dense.parts_extra (few : s.ops.lines ≤ 32768) (extra : s.hasExtra pktIdx = true)
    (trans : StFrameTrans) (seqId : Nat) :
    (tvBuildSt20 s trans pktIdx seqId).parts s.st20Pg =
      [ { segment := ⟨s.rowOf pktIdx, s.announcedColumn pktIdx,
            s.st20BytesInLine - s.columnIn pktIdx⟩
          bytes := copyBytes trans.addr (s.rowOf pktIdx * s.st20Linesize + s.columnIn pktIdx)
            (s.st20BytesInLine - s.columnIn pktIdx) },
        { segment := ⟨s.rowOf pktIdx + 1, 0,
            s.st20PktLen - (s.st20BytesInLine - s.columnIn pktIdx)⟩
          bytes := copyBytes trans.addr ((s.rowOf pktIdx + 1) * s.st20Linesize)
            (s.st20PktLen - (s.st20BytesInLine - s.columnIn pktIdx)) } ] := by
  have runs := (dense.hasExtra_iff inFrame).mp extra
  have row := dense.rowOf_succ_lt inFrame extra
  have number := dense.line1Number_eq inFrame few
  have read := tvBuildSt20_parts_extra trans seqId extra (by omega)
  rw [read, dense.payload_extra inFrame few extra, number,
    dense.line1Length_eq inFrame few runs.1, dense.line2Length_eq inFrame few runs.1]
  rw [List.take_left' (length_copyBytes _ _ _), List.drop_left' (length_copyBytes _ _ _),
    List.take_of_length_le (Nat.le_of_eq (length_copyBytes _ _ _))]

/-- The segment of every other packet. -/
theorem Dense.parts_single (few : s.ops.lines ≤ 32768) (extra : s.hasExtra pktIdx = false)
    (low : s.line1Offset pktIdx < 32768) (trans : StFrameTrans) (seqId : Nat) :
    (tvBuildSt20 s trans pktIdx seqId).parts s.st20Pg =
      [ { segment := ⟨s.rowOf pktIdx, s.announcedColumn pktIdx,
            min s.st20PktLen (s.st20FrameSize - s.st20PktLen * pktIdx)⟩
          bytes := copyBytes trans.addr (s.rowOf pktIdx * s.st20Linesize + s.columnIn pktIdx)
            (min s.st20PktLen (s.st20FrameSize - s.st20PktLen * pktIdx)) } ] := by
  have row := dense.rowOf_lt inFrame
  have number := dense.line1Number_eq inFrame few
  have read := tvBuildSt20_parts_single trans seqId extra low (by omega)
  rw [read, dense.payload_single inFrame few extra, number, dense.leftLen_eq inFrame,
    List.take_of_length_le (Nat.le_of_eq (length_copyBytes _ _ _))]

end

/-! ## Packets of one line -/

def pixelInPkt (s : TvSession) : Nat := s.st20PktLen / s.st20Pg.size * s.st20Pg.coverage

/-- A session in single line mode.  The last packet of a line starts inside
the line unless the line is longer than the 15 bits of a row offset reach. -/
structure Single (s : TvSession) : Prop extends s.Lines where
  single : s.singleLine = true
  pktsInLine_pos : 0 < s.st20PktsInLine
  pktLen_pos : 0 < s.st20PktLen
  pktLen_le : s.st20PktLen ≤ 1432
  pktLen_dvd : s.st20Pg.size ∣ s.st20PktLen
  enough : s.ops.width ≤ s.st20PktsInLine * s.pixelInPkt
  starts : s.ops.width ≤ 34250 -> 2 ≤ s.st20PktsInLine ->
    s.pixelInPkt * (s.st20PktsInLine - 1) + s.st20Pg.coverage ≤ s.ops.width
  total_eq : s.st20TotalPkts = s.ops.lines * s.st20PktsInLine

section

variable (single : s.Single)

include single

theorem Single.pixelInPkt_le : s.pixelInPkt ≤ s.st20PktLen := by
  have less := Nat.mul_le_mul_left (s.st20PktLen / s.st20Pg.size) s.st20Pg.coverage_le
  rw [Nat.div_mul_cancel single.pktLen_dvd] at less
  exact less

theorem Single.columnOf_eq (number : Nat) :
    columnOf s.st20Pg (s.pixelInPkt * number) = s.st20PktLen * number := by
  have groups : s.pixelInPkt * number / s.st20Pg.coverage =
      s.st20PktLen / s.st20Pg.size * number := by
    rw [pixelInPkt, Nat.mul_right_comm, Nat.mul_div_cancel _ s.st20Pg.coverage_pos]
  rw [columnOf, groups, Nat.mul_right_comm, Nat.div_mul_cancel single.pktLen_dvd]

theorem Single.row_lt (inFrame : pktIdx < s.st20TotalPkts) :
    pktIdx / s.st20PktsInLine < s.ops.lines := by
  rw [single.total_eq] at inFrame
  apply Nat.div_lt_of_lt_mul
  rw [Nat.mul_comm]
  exact inFrame

theorem Single.line1Number_eq (inFrame : pktIdx < s.st20TotalPkts)
    (few : s.ops.lines ≤ 32768) : s.line1Number pktIdx = pktIdx / s.st20PktsInLine := by
  have row := single.row_lt inFrame
  rw [line1Number, single.single, if_pos rfl]
  exact u16_of_lt (by omega)

theorem Single.line1Offset_eq (pktIdx : Nat) :
    s.line1Offset pktIdx = u16 (s.pixelInPkt * (pktIdx % s.st20PktsInLine) : Nat) := by
  rw [line1Offset, single.single, if_pos rfl]
  rfl

theorem Single.hasExtra_eq (pktIdx : Nat) : s.hasExtra pktIdx = false := by
  rw [hasExtra, single.single]
  rfl

end

def firstPixel (s : TvSession) (pktIdx : Nat) : Nat :=
  s.pixelInPkt * (pktIdx % s.st20PktsInLine)

theorem Single.firstPixel_le (single : s.Single) (pktIdx : Nat) :
    s.firstPixel pktIdx ≤ s.pixelInPkt * (s.st20PktsInLine - 1) := by
  apply Nat.mul_le_mul_left
  have rest := Nat.mod_lt pktIdx single.pktsInLine_pos
  omega

theorem Single.line1Offset_firstPixel (single : s.Single) (low : s.firstPixel pktIdx < 65536) :
    s.line1Offset pktIdx = s.firstPixel pktIdx := by
  rw [single.line1Offset_eq]
  exact u16_of_lt low

theorem Lines.columnOf_lt (lines : s.Lines) {pixel : Nat} (inLine : pixel < s.ops.width) :
    columnOf s.st20Pg pixel < s.st20BytesInLine := by
  apply Nat.lt_of_mul_lt_mul_left (a := s.st20Pg.coverage)
  calc
    s.st20Pg.coverage * columnOf s.st20Pg pixel =
        s.st20Pg.coverage * (pixel / s.st20Pg.coverage) * s.st20Pg.size := by
      rw [columnOf, Nat.mul_assoc]
    _ ≤ pixel * s.st20Pg.size := Nat.mul_le_mul_right _ (Nat.mul_div_le _ _)
    _ < s.ops.width * s.st20Pg.size := Nat.mul_lt_mul_of_pos_right inLine s.st20Pg.size_pos
    _ ≤ s.st20Pg.coverage * s.st20BytesInLine := lines.line_ge

/-- The last packet of a line carries what is left of the line. -/
theorem Single.leftLen_eq (single : s.Single) (inLine : s.line1Offset pktIdx < s.ops.width) :
    s.leftLen pktIdx =
      min s.st20PktLen (columnOf s.st20Pg (s.ops.width - s.line1Offset pktIdx)) := by
  have bytes := single.bytes_lt
  have line : s.ops.width * s.st20Pg.size ≤ s.ops.width * s.ops.lines * s.st20Pg.size :=
    Nat.mul_le_mul_right _ (Nat.le_mul_of_pos_right _ single.lines_pos)
  have width : s.ops.width ≤ s.ops.width * s.st20Pg.size :=
    Nat.le_mul_of_pos_right _ s.st20Pg.size_pos
  have column : columnOf s.st20Pg (s.ops.width - s.line1Offset pktIdx) ≤
      s.ops.width * s.st20Pg.size := by
    apply Nat.mul_le_mul_right
    exact Nat.le_trans (Nat.div_le_self _ _) (Nat.sub_le _ _)
  have rest : u32 ((s.ops.width : Int) - (s.line1Offset pktIdx : Nat)) =
      s.ops.width - s.line1Offset pktIdx := by
    rw [← Int.ofNat_sub (Nat.le_of_lt inLine)]
    exact u32_of_lt (by omega)
  have temp : u32 ((s.ops.width - s.line1Offset pktIdx) / s.st20Pg.coverage *
      s.st20Pg.size : Nat) = columnOf s.st20Pg (s.ops.width - s.line1Offset pktIdx) :=
    u32_of_lt (show columnOf _ _ < _ by omega)
  have short := single.pktLen_le
  simp only [leftLen, single.single, rest]
  rw [if_pos trivial, temp]
  exact u16_of_lt (by omega)

theorem Single.payload_eq (single : s.Single) (inFrame : pktIdx < s.st20TotalPkts)
    (few : s.ops.lines ≤ 32768) (inLine : s.line1Offset pktIdx < s.ops.width) {Value : Type}
    (addr : Nat -> Value) :
    tvPayload s addr pktIdx =
      copyBytes addr (pktIdx / s.st20PktsInLine * s.st20Linesize +
        columnOf s.st20Pg (s.line1Offset pktIdx)) (s.leftLen pktIdx) := by
  have row := single.row_lt inFrame
  have column := single.columnOf_lt inLine
  have line := single.linesize_ge
  have buffer := single.buffer_lt
  have rows : (pktIdx / s.st20PktsInLine + 1) * s.st20Linesize ≤ s.ops.lines * s.st20Linesize :=
    Nat.mul_le_mul_right _ row
  rw [Nat.succ_mul, Nat.mul_comm s.ops.lines] at rows
  rw [tvPayload, single.hasExtra_eq, Bool.false_and, if_neg (by decide), copyOffset, single.single,
    Bool.not_true, Bool.false_and, if_neg (by decide), TvSession.offset, single.single,
    if_pos rfl, single.line1Number_eq inFrame few]
  congr 1
  exact u32_of_lt (show _ + columnOf _ _ < _ by omega)

/-- The segment of a packet in single line mode, with the bytes it is made of. -/
theorem Single.parts_eq (single : s.Single) (inFrame : pktIdx < s.st20TotalPkts)
    (few : s.ops.lines ≤ 32768) (low : s.firstPixel pktIdx < 32768)
    (inLine : s.firstPixel pktIdx < s.ops.width) (trans : StFrameTrans) (seqId : Nat) :
    (tvBuildSt20 s trans pktIdx seqId).parts s.st20Pg =
      [ { segment := ⟨pktIdx / s.st20PktsInLine, s.st20PktLen * (pktIdx % s.st20PktsInLine),
            min s.st20PktLen (columnOf s.st20Pg (s.ops.width - s.firstPixel pktIdx))⟩
          bytes := copyBytes trans.addr (pktIdx / s.st20PktsInLine * s.st20Linesize +
              s.st20PktLen * (pktIdx % s.st20PktsInLine))
            (min s.st20PktLen (columnOf s.st20Pg (s.ops.width - s.firstPixel pktIdx))) } ] := by
  have row := single.row_lt inFrame
  have number := single.line1Number_eq inFrame few
  have offset : s.line1Offset pktIdx = s.firstPixel pktIdx :=
    single.line1Offset_firstPixel (Nat.lt_trans low (by decide))
  have column : columnOf s.st20Pg (s.firstPixel pktIdx) =
      s.st20PktLen * (pktIdx % s.st20PktsInLine) := single.columnOf_eq _
  have read := tvBuildSt20_parts_single trans seqId (single.hasExtra_eq pktIdx)
    (by omega) (by omega)
  have length := single.leftLen_eq (offset ▸ inLine)
  rw [read, single.payload_eq inFrame few (offset ▸ inLine), number, announcedColumn,
    List.take_of_length_le (Nat.le_of_eq (length_copyBytes _ _ _)), length, offset,
    clearBit_topBit_of_lt low, column]

end TvSession

/-! ## Accepted sessions -/

/-- The packets of general packing mode cover the frame, and none begins behind it. -/
theorem gpm_packets {width lines pgPerPkt : Nat} (pg : St20Pgroup) (positive : 0 < pgPerPkt) :
    width * lines * pg.size / pg.coverage ≤
        pgPerPkt * pg.size * ceilDiv (width * lines) (pg.coverage * pgPerPkt) ∧
      ∀ pktIdx < ceilDiv (width * lines) (pg.coverage * pgPerPkt),
        pgPerPkt * pg.size * pktIdx < width * lines * pg.size / pg.coverage := by
  have spec := ceilDiv_spec (width * lines) (Nat.mul_pos pg.coverage_pos positive)
  constructor
  · apply Nat.div_le_of_le_mul
    calc
      width * lines * pg.size ≤
          pg.coverage * pgPerPkt * ceilDiv (width * lines) (pg.coverage * pgPerPkt) * pg.size :=
        Nat.mul_le_mul_right _ spec.1
      _ = pg.coverage *
          (pgPerPkt * pg.size * ceilDiv (width * lines) (pg.coverage * pgPerPkt)) := by ring
  · intro pktIdx inFrame
    have next : pg.coverage * pgPerPkt * (pktIdx + 1) ≤
        pg.coverage * pgPerPkt * ceilDiv (width * lines) (pg.coverage * pgPerPkt) :=
      Nat.mul_le_mul_left _ inFrame
    have pixels : pg.coverage * pgPerPkt * pktIdx + 1 ≤ width * lines := by
      rw [Nat.mul_add, Nat.mul_one] at next
      omega
    have groups := Nat.mul_le_mul_right pg.size pixels
    have whole := pg.coverage_le
    apply (Nat.le_div_iff_mul_le pg.coverage_pos).mpr
    calc
      (pgPerPkt * pg.size * pktIdx + 1) * pg.coverage =
          pg.coverage * pgPerPkt * pktIdx * pg.size + pg.coverage := by ring
      _ ≤ pg.coverage * pgPerPkt * pktIdx * pg.size + pg.size := Nat.add_le_add_left whole _
      _ = (pg.coverage * pgPerPkt * pktIdx + 1) * pg.size := by ring
      _ ≤ width * lines * pg.size := groups

namespace TvSession

variable {s : TvSession} {user : Nat} {plan : PacketPlan}

theorem tvInitPktPlan_gpm {ops : St20TxOps} {pg : St20Pgroup} {frameSize : Nat}
    (planOk : tvInitPktPlan (pktUdpSuggestMaxSize user) ops pg frameSize = .ok plan)
    (packing : ops.packing = .gpm) :
    exists pgPerPkt, 0 < pgPerPkt ∧ pgPerPkt * pg.size < 1426 ∧ plan.pktLen = pgPerPkt * pg.size ∧
      plan.totalPkts = ceilDiv (ops.width * ops.lines) (pg.coverage * pgPerPkt) := by
  have suggest := pktUdpSuggestMaxSize_bounds user
  have small := pg.size_le
  have positive := pg.size_pos
  simp only [tvInitPktPlan, packing, Except.ok.injEq] at planOk
  generalize limit : pktUdpSuggestMaxSize user - rfc4175RtpHdrSize - rfc4175ExtraHdrSize =
    maxDataLen at planOk
  have range : 974 < maxDataLen ∧ maxDataLen < 1426 := by
    unfold rfc4175RtpHdrSize rfc4175ExtraHdrSize at limit
    omega
  generalize groups : maxDataLen / (pg.size * 2) * (pg.size * 2) / pg.size = pgPerPkt at planOk
  have even : pgPerPkt = maxDataLen / (pg.size * 2) * 2 := by
    rw [← groups, ← Nat.mul_assoc, Nat.mul_right_comm, Nat.mul_div_cancel _ positive]
  have nonempty : 0 < maxDataLen / (pg.size * 2) := Nat.div_pos (by omega) (by omega)
  have length : pgPerPkt * pg.size < 1426 := by
    have whole := Nat.div_mul_le_self maxDataLen (pg.size * 2)
    rw [even, Nat.mul_assoc, Nat.mul_comm 2]
    omega
  refine ⟨pgPerPkt, by omega, length, ?_, by rw [← planOk]⟩
  rw [← planOk]
  exact u16_of_lt (by omega)

/-- What the set-up of a session makes sure of in general packing mode. -/
theorem Attached.dense_gpm (attached : s.Attached (pktUdpSuggestMaxSize user) plan)
    (representable : s.Representable) (packing : s.ops.packing = .gpm) : s.Dense := by
  have lines := attached.lines representable
  have positive := s.st20Pg.size_pos
  rcases tvInitPktPlan_gpm attached.plan_ok packing with ⟨pgPerPkt, some, length, planLen, planTotal⟩
  have packets := @gpm_packets s.ops.width s.ops.lines pgPerPkt s.st20Pg some
  have pktLen := attached.pktLen_eq.trans planLen
  rw [← lines.frameSize_eq, ← pktLen, ← attached.totalPkts_eq.trans planTotal] at packets
  exact
    { lines with
      several := by rw [singleLine, packing]; rfl
      pktLen_pos := pktLen ▸ Nat.mul_pos some positive
      pktLen_le := pktLen ▸ (by omega)
      pktLen_dvd := pktLen ▸ Nat.dvd_mul_left _ _
      total_ge := packets.1
      below := packets.2 }

theorem Attached.dense_bpm (attached : s.Attached (pktUdpSuggestMaxSize user) plan)
    (representable : s.Representable) (packing : s.ops.packing = .bpm) : s.Dense := by
  have lines := attached.lines representable
  have planOk := attached.plan_ok
  simp only [tvInitPktPlan, packing] at planOk
  split at planOk
  · cases planOk
  · next whole =>
      cases planOk
      have pktLen : s.st20PktLen = stVideoBpmSize := attached.pktLen_eq
      have total : s.st20TotalPkts = ceilDiv s.st20FrameSize stVideoBpmSize := attached.totalPkts_eq
      have spec := ceilDiv_spec s.st20FrameSize (show 0 < stVideoBpmSize by decide)
      rw [← total, ← pktLen] at spec
      exact
        { lines with
          several := by rw [singleLine, packing]; rfl
          pktLen_pos := pktLen ▸ (by decide)
          pktLen_le := pktLen ▸ (by decide)
          pktLen_dvd := pktLen ▸ Nat.dvd_of_mod_eq_zero (Decidable.not_not.mp whole)
          total_ge := spec.1
          below := by
            intro pktIdx inFrame
            have next : s.st20PktLen * (pktIdx + 1) ≤ s.st20PktLen * s.st20TotalPkts :=
              Nat.mul_le_mul_left _ inFrame
            rw [Nat.mul_add, Nat.mul_one] at next
            omega }

theorem line_ge_packets (fmt : St20Fmt) {width more : Nat} (narrow : width ≤ 34250)
    (line : (st20GetPgroup fmt).coverage * (1432 * (more + 1)) <
      width * (st20GetPgroup fmt).size + (st20GetPgroup fmt).coverage) :
    (more + 2) * (more + 3) * (st20GetPgroup fmt).coverage ≤ width := by
  have wide : (st20GetPgroup fmt).coverage * (1432 * (more + 1)) ≤
      34250 * (st20GetPgroup fmt).size + (st20GetPgroup fmt).coverage := by
    have pixels := Nat.mul_le_mul_right (st20GetPgroup fmt).size narrow
    omega
  have square := Nat.mul_le_mul_right more wide
  cases fmt <;> simp only [st20GetPgroup] at line square ⊢ <;> nlinarith

/-- The packet plan of single line mode in numbers: `groups` pixel groups in a
packet and `packets` packets in a line. -/
structure SingleCounts (s : TvSession) (packets groups : Nat) : Prop where
  packets_pos : 0 < packets
  groups_pos : 0 < groups
  groups_le : groups ≤ 1433
  line_ge : 1432 * (packets - 1) ≤ s.st20BytesInLine
  enough : s.ops.width ≤ packets * (s.st20Pg.coverage * groups)
  tight : packets * (s.st20Pg.coverage * groups) < s.ops.width + packets * s.st20Pg.coverage

theorem singleCounts (width : 0 < s.ops.width)
    (line : s.ops.width * s.st20Pg.size ≤ s.st20Pg.coverage * s.st20BytesInLine) :
    s.SingleCounts (s.st20BytesInLine / 1432 + 1)
      (ceilDiv (ceilDiv s.ops.width (s.st20BytesInLine / 1432 + 1)) s.st20Pg.coverage) := by
  have short : s.st20BytesInLine < 1432 * (s.st20BytesInLine / 1432 + 1) :=
    Nat.lt_mul_div_succ _ (by decide)
  have long := Nat.mul_div_le s.st20BytesInLine 1432
  generalize s.st20BytesInLine / 1432 = more at short long ⊢
  have pixelSpec := ceilDiv_spec s.ops.width (show 0 < more + 1 by omega)
  generalize ceilDiv s.ops.width (more + 1) = pixels at pixelSpec ⊢
  have groupSpec := ceilDiv_spec pixels s.st20Pg.coverage_pos
  generalize ceilDiv pixels s.st20Pg.coverage = groups at groupSpec ⊢
  have coverage := s.st20Pg.coverage_pos
  have widthShort : s.ops.width < 1432 * (more + 1) := by
    apply Nat.lt_of_mul_lt_mul_right (a := s.st20Pg.size)
    calc
      s.ops.width * s.st20Pg.size ≤ s.st20Pg.coverage * s.st20BytesInLine := line
      _ < s.st20Pg.coverage * (1432 * (more + 1)) := Nat.mul_lt_mul_of_pos_left short coverage
      _ ≤ s.st20Pg.size * (1432 * (more + 1)) := Nat.mul_le_mul_right _ s.st20Pg.coverage_le
      _ = 1432 * (more + 1) * s.st20Pg.size := Nat.mul_comm _ _
  have pixelLe : pixels < 1433 := by
    apply Nat.lt_of_mul_lt_mul_left (a := more + 1)
    omega
  have pixelPos : 0 < pixels := by
    by_contra zero
    rw [Nat.eq_zero_of_not_pos zero, Nat.mul_zero] at pixelSpec
    omega
  constructor
  case packets_pos => exact Nat.succ_pos more
  case groups_pos =>
    by_contra zero
    rw [Nat.eq_zero_of_not_pos zero, Nat.mul_zero] at groupSpec
    omega
  case groups_le =>
    by_contra many
    have above : s.st20Pg.coverage * 1434 ≤ s.st20Pg.coverage * groups :=
      Nat.mul_le_mul_left _ (by omega)
    omega
  case line_ge => exact long
  case enough => exact Nat.le_trans pixelSpec.1 (Nat.mul_le_mul_left _ groupSpec.1)
  case tight =>
    have rounded : (more + 1) * (s.st20Pg.coverage * groups + 1) ≤
        (more + 1) * (pixels + s.st20Pg.coverage) := Nat.mul_le_mul_left _ groupSpec.2
    rw [Nat.mul_add, Nat.mul_add, Nat.mul_one] at rounded
    omega

theorem SingleCounts.starts {packets groups : Nat} (counts : s.SingleCounts packets groups)
    (lines : s.Lines) (table : s.st20Pg = st20GetPgroup s.ops.fmt) (narrow : s.ops.width ≤ 34250)
    (two : 2 ≤ packets) :
    s.st20Pg.coverage * groups * (packets - 1) + s.st20Pg.coverage ≤ s.ops.width := by
  rcases Nat.exists_eq_add_of_le' two with ⟨more, rfl⟩
  have longLine : s.st20Pg.coverage * (1432 * (more + 1)) <
      s.ops.width * s.st20Pg.size + s.st20Pg.coverage :=
    Nat.lt_of_le_of_lt (Nat.mul_le_mul_left _ counts.line_ge) lines.line_lt
  rw [table] at longLine
  have few := line_ge_packets s.ops.fmt narrow longLine
  rw [← table] at few
  have enough := counts.enough
  have tight := counts.tight
  have full : (more + 3) * s.st20Pg.coverage ≤ s.st20Pg.coverage * groups := by
    refine Nat.le_of_mul_le_mul_left (c := more + 2) ?_ (by omega)
    rw [← Nat.mul_assoc]
    omega
  show s.st20Pg.coverage * groups * (more + 1) + s.st20Pg.coverage ≤ s.ops.width
  generalize s.st20Pg.coverage * groups = pixels at enough tight full ⊢
  have split : (more + 2) * pixels = pixels * (more + 1) + pixels := by ring
  have room : (more + 3) * s.st20Pg.coverage =
      (more + 2) * s.st20Pg.coverage + s.st20Pg.coverage := Nat.succ_mul _ _
  omega

/-- What it makes sure of in single line mode. -/
theorem Attached.single_gpmSl (attached : s.Attached (pktUdpSuggestMaxSize user) plan)
    (representable : s.Representable) (packing : s.ops.packing = .gpmSl) : s.Single := by
  have lines := attached.lines representable
  have planOk := attached.plan_ok
  have bytesInPkt : stPktMaxEtherBytes - rfc4175VideoHdrSize = 1432 := rfl
  simp only [tvInitPktPlan, packing, Except.ok.injEq, bytesInPkt] at planOk
  rw [← attached.bytesInLine_eq] at planOk
  have counts := singleCounts lines.width_pos lines.line_ge
  generalize s.st20BytesInLine / 1432 + 1 = packets at planOk counts
  generalize ceilDiv (ceilDiv s.ops.width packets) s.st20Pg.coverage = groups at planOk counts
  have bound : groups * s.st20Pg.size ≤ 1433 * 15 :=
    Nat.mul_le_mul counts.groups_le s.st20Pg.size_le
  rw [u16_of_lt (show groups * s.st20Pg.size < 65536 by omega)] at planOk
  subst planOk
  have pktLen : s.st20PktLen = groups * s.st20Pg.size := attached.pktLen_eq
  have inLine : s.st20PktsInLine = packets := attached.pktsInLine_eq
  have accepted : s.st20PktLen ≤ 1432 := by
    have small : u16 (groups * s.st20Pg.size + 62 : Nat) ≤ 1494 := attached.small
    rw [u16_of_lt (show groups * s.st20Pg.size + 62 < 65536 by omega), ← pktLen] at small
    exact Nat.le_of_add_le_add_right small
  have pixels : s.pixelInPkt = s.st20Pg.coverage * groups := by
    rw [pixelInPkt, pktLen, Nat.mul_div_cancel _ s.st20Pg.size_pos, Nat.mul_comm]
  exact
    { lines with
      single := by rw [singleLine, packing]; rfl
      pktsInLine_pos := inLine ▸ counts.packets_pos
      pktLen_pos := pktLen ▸ Nat.mul_pos counts.groups_pos s.st20Pg.size_pos
      pktLen_le := accepted
      pktLen_dvd := pktLen ▸ Nat.dvd_mul_left _ _
      enough := by rw [inLine, pixels]; exact counts.enough
      starts := by rw [inLine, pixels]; exact counts.starts lines attached.pg_eq
      total_eq := attached.totalPkts_eq.trans (by rw [inLine]) }

end TvSession

end MediaTransport.Video
