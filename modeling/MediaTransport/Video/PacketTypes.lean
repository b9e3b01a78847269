import MediaTransport.Video.Packing

namespace MediaTransport.Video

open Library

/-!
# Packet types of a frame

For the rate limiter `tv_init_pkt` counts the packets of a frame by their
type, and gives each type a size.  The count of the packets with a second line
header is derived from the lines whose ends meet no packet's end, the first of
which is found by adding up lines.
-/

variable (s : TvSession)

/-- `enum st20_packet_type` -/
inductive St20PacketType where
  | normal
  | extra
  | frameTail
  | lineTail
  deriving DecidableEq

/-- `struct st20_packet_group_info` -/
structure St20PacketGroupInfo where
  size : Nat
  number : Nat

/-- The lines are added up until their bytes are whole packets, or more than the frame's. -/
def tvExtraTemp (frameSize bytesInLine pktLen : Nat) : Nat -> Nat -> Nat
  | 0, temp => temp
  | fuel + 1, temp =>
    if temp % pktLen ≠ 0 ∧ temp ≤ frameSize then
      tvExtraTemp frameSize bytesInLine pktLen fuel (temp + bytesInLine)
    else
      temp

namespace TvSession

/-- `temp` behind its loop, which ends within the lines of the frame. -/
def extraTemp : Nat :=
  tvExtraTemp s.st20FrameSize s.st20BytesInLine s.st20PktLen
    (s.st20FrameSize / s.st20BytesInLine + 1) s.st20BytesInLine

def noneExtraLines : Nat := ceilDiv s.st20FrameSize s.extraTemp

def extraPkts : Int := s.ops.lines - s.noneExtraLines

/-- `st20_pkt_info`, as `tv_init_pkt` fills it for frames: what it does not set is zero. -/
def st20PktInfo : St20PacketType -> St20PacketGroupInfo :=
  if s.singleLine then
    let lineLastLen := s.st20BytesInLine % s.st20PktLen
    let lineTail : St20PacketGroupInfo :=
      if lineLastLen ≠ 0 then ⟨lineLastLen + rfc4175VideoHdrSize, s.ops.lines⟩ else ⟨0, 0⟩
    fun type => match type with
    | .normal => ⟨s.st20PktSize, u32 (s.st20TotalPkts - lineTail.number)⟩
    | .lineTail => lineTail
    | .extra | .frameTail => ⟨0, 0⟩
  else
    let lastPktLen := s.st20FrameSize % s.st20PktLen
    let extra : St20PacketGroupInfo :=
      if s.extraPkts ≠ 0 then ⟨s.st20PktSize + rfc4175ExtraHdrSize, u32 s.extraPkts⟩ else ⟨0, 0⟩
    let frameTail : St20PacketGroupInfo :=
      if lastPktLen ≠ 0 then ⟨lastPktLen + rfc4175VideoHdrSize, 1⟩ else ⟨0, 0⟩
    fun type => match type with
    | .normal => ⟨s.st20PktSize, u32 (s.st20TotalPkts - frameTail.number - extra.number)⟩
    | .extra => extra
    | .frameTail => frameTail
    | .lineTail => ⟨0, 0⟩

/-- `tv_train_pad_type`, for a session of frames. -/
def tvTrainPadType (pktIdx : Nat) : St20PacketType :=
  if s.singleLine then
    if (s.st20PktInfo .lineTail).number ≠ 0 ∧ pktIdx % s.st20PktsInLine = s.st20PktsInLine - 1 then
      .lineTail
    else
      .normal
  else
    let offset := u32 (s.st20PktLen * pktIdx : Nat)
    if s.st20FrameSize < u32 (offset + s.st20PktLen : Nat) then .frameTail
    else if s.tvPktHasExtraHdr offset then .extra
    else .normal

/-- `data_len` of the packet that `tv_build_st20` builds. -/
def builtSize (pktIdx : Nat) : Nat :=
  rfc4175VideoHdrSize + s.leftLen pktIdx + if s.hasExtra pktIdx then rfc4175ExtraHdrSize else 0

/-! ## What is promised -/

/-- The counts add up to the frame's packets, and each packet has the size of its type. -/
structure PadTypesRight (s : TvSession) : Prop where
  total : (s.st20PktInfo .normal).number + (s.st20PktInfo .extra).number +
    (s.st20PktInfo .frameTail).number + (s.st20PktInfo .lineTail).number = s.st20TotalPkts
  size : ∀ pktIdx < s.st20TotalPkts,
    (s.st20PktInfo (s.tvTrainPadType pktIdx)).size = s.builtSize pktIdx

/-- The bytes that the plan gives the packet at a place of its line. -/
def plannedLen (column : Nat) : Nat :=
  if s.st20BytesInLine % s.st20PktLen ≠ 0 ∧ column = s.st20PktsInLine - 1 then
    s.st20BytesInLine % s.st20PktLen
  else
    s.st20PktLen

/-- Where the packet at a place of its line starts, in the 16 bits of a row offset. -/
def startOf (column : Nat) : Nat := s.pixelInPkt * column % 65536

/-- The packet at this place is full: its pixels lie in the line, or it starts behind the line, where the
difference wraps. -/
def FullAt (column : Nat) : Prop :=
  s.startOf column + s.pixelInPkt ≤ s.ops.width ∨ s.ops.width < s.startOf column

/-- All packets of a line but the last are full, and the last one has the pixels that the others leave. -/
def LinePlanned : Prop :=
  (forall column, column + 1 < s.st20PktsInLine -> s.FullAt column) ∧
    if s.ops.width % s.pixelInPkt = 0 then s.FullAt (s.st20PktsInLine - 1)
    else
      s.startOf (s.st20PktsInLine - 1) ≤ s.ops.width ∧
        (s.ops.width - s.startOf (s.st20PktsInLine - 1)) / s.st20Pg.coverage * s.st20Pg.coverage =
          s.ops.width % s.pixelInPkt

/-- Lines are whole pixel groups, or the frame has as many packets as lines whose end no
packet's end meets.  In a line of more than 34250 pixels the last packets can start behind the line and
the row offsets can wrap. -/
def PadTypesPlanned : Prop :=
  if s.singleLine then
    s.st20Pg.coverage ∣ s.ops.width ∧ (34250 < s.ops.width -> s.LinePlanned)
  else
    s.ops.lines ≤ s.st20FrameSize / s.st20PktLen +
      ceilDiv s.st20FrameSize (Nat.lcm s.st20BytesInLine s.st20PktLen)

end TvSession

/-! ## Adding up lines -/

theorem tvExtraTemp_spec {frameSize bytesInLine pktLen : Nat} (positive : 0 < bytesInLine) (fuel : Nat) :
    forall {temp : Nat}, 0 < temp -> bytesInLine ∣ temp -> temp ≤ Nat.lcm bytesInLine pktLen ->
      frameSize < temp + fuel * bytesInLine ->
        let last := tvExtraTemp frameSize bytesInLine pktLen fuel temp
        0 < last ∧ bytesInLine ∣ last ∧ last ≤ Nat.lcm bytesInLine pktLen ∧
          (pktLen ∣ last ∨ frameSize < last) := by
  induction fuel with
  | zero =>
    intro temp some multiple below enough
    exact ⟨some, multiple, below, Or.inr (by simpa [tvExtraTemp] using enough)⟩
  | succ fuel ih =>
    intro temp some multiple below enough
    unfold tvExtraTemp
    by_cases goes : temp % pktLen ≠ 0 ∧ temp ≤ frameSize
    · rw [if_pos goes]
      -- the least common multiple is a packet's end, so one more line fits below it
      have less : temp < Nat.lcm bytesInLine pktLen := by
        apply Nat.lt_of_le_of_ne below
        intro same
        exact goes.1 (Nat.mod_eq_zero_of_dvd (same ▸ Nat.dvd_lcm_right _ _))
      have next : temp + bytesInLine ≤ Nat.lcm bytesInLine pktLen := by
        have gap := Nat.le_of_dvd (Nat.sub_pos_of_lt less)
          (Nat.dvd_sub (Nat.dvd_lcm_left bytesInLine pktLen) multiple)
        omega
      apply ih (by omega) (Nat.dvd_add multiple (Nat.dvd_refl _)) next
      rw [Nat.succ_mul] at enough
      omega
    · rw [if_neg goes]
      refine ⟨some, multiple, below, ?_⟩
      by_cases whole : temp % pktLen = 0
      · exact Or.inl (Nat.dvd_of_mod_eq_zero whole)
      · exact Or.inr (Nat.lt_of_not_le fun more => goes ⟨whole, more⟩)

theorem ceilDiv_of_le {value divisor : Nat} (positive : 0 < value) (most : value ≤ divisor) :
    ceilDiv value divisor = 1 := by
  have spec := ceilDiv_spec value (Nat.lt_of_lt_of_le positive most)
  apply Nat.le_antisymm
  · exact (ceilDiv_le_iff (Nat.lt_of_lt_of_le positive most)).mpr (by omega)
  · by_contra none
    rw [Nat.lt_one_iff.mp (Nat.lt_of_not_le none)] at spec
    omega

namespace TvSession

variable {s : TvSession} {pktIdx : Nat}

theorem noneExtraLines_eq (line : 0 < s.st20BytesInLine) (packet : 0 < s.st20PktLen) :
    s.noneExtraLines = ceilDiv s.st20FrameSize (Nat.lcm s.st20BytesInLine s.st20PktLen) := by
  have common := Nat.le_of_dvd (Nat.lcm_pos line packet) (Nat.dvd_lcm_left s.st20BytesInLine s.st20PktLen)
  have enough : s.st20FrameSize < s.st20BytesInLine +
      (s.st20FrameSize / s.st20BytesInLine + 1) * s.st20BytesInLine := by
    have next := Nat.lt_mul_div_succ s.st20FrameSize line
    rw [Nat.mul_comm] at next
    omega
  rcases tvExtraTemp_spec line _ line (Nat.dvd_refl _) common enough with ⟨some, multiple, below, ends⟩
  unfold noneExtraLines extraTemp
  rcases ends with whole | past
  · rw [Nat.le_antisymm below (Nat.le_of_dvd some (Nat.lcm_dvd multiple whole))]
  · rcases Nat.eq_zero_or_pos s.st20FrameSize with none | frame
    · rw [none, Nat.le_zero.mp ((ceilDiv_le_iff (none ▸ some)).mpr (Nat.zero_le _)),
        Nat.le_zero.mp ((ceilDiv_le_iff (Nat.lcm_pos line packet)).mpr (Nat.zero_le _))]
    · rw [ceilDiv_of_le frame past.le, ceilDiv_of_le frame (past.le.trans below)]

theorem Lines.noneExtraLines_le (lines : s.Lines) (packet : 0 < s.st20PktLen) :
    s.noneExtraLines ≤ s.ops.lines := by
  rw [noneExtraLines_eq lines.bytesInLine_pos packet,
    ceilDiv_le_iff (Nat.lcm_pos lines.bytesInLine_pos packet)]
  apply lines.frameSize_le.trans
  exact Nat.mul_le_mul_right _ (Nat.le_of_dvd (Nat.lcm_pos lines.bytesInLine_pos packet) (Nat.dvd_lcm_left _ _))

/-! ## Sizes -/

theorem Dense.extraPkts_ne (dense : s.Dense) (inFrame : pktIdx < s.st20TotalPkts)
    (extra : s.hasExtra pktIdx = true) : s.extraPkts ≠ 0 := by
  rcases (dense.hasExtra_iff inFrame).mp extra with ⟨crosses, inside⟩
  have split := s.rowOf_columnIn pktIdx
  have column := dense.columnIn_lt pktIdx
  have whole := dense.frameSize_le
  -- no line that a packet runs over is whole packets, so every second line counts at most
  have apart : ¬s.st20PktLen ∣ s.st20BytesInLine := by
    rintro ⟨packets, same⟩
    have aligned : s.st20PktLen ∣ s.columnIn pktIdx := by
      have line : s.st20PktLen ∣ s.rowOf pktIdx * s.st20BytesInLine := by
        rw [same]
        exact Nat.dvd_mul_left_of_dvd (Nat.dvd_mul_right _ _) _
      rw [← Nat.dvd_add_right line, split]
      exact Nat.dvd_mul_right _ _
    rcases aligned with ⟨first, start⟩
    rw [start, same] at column
    have before := Nat.lt_of_mul_lt_mul_left column
    have ends : s.st20PktLen * (first + 1) ≤ s.st20PktLen * packets := Nat.mul_le_mul_left _ before
    rw [Nat.mul_succ] at ends
    omega
  have second : s.rowOf pktIdx + 1 < s.ops.lines := by
    apply Nat.lt_of_mul_lt_mul_left (a := s.st20BytesInLine)
    rw [Nat.mul_succ, Nat.mul_comm]
    omega
  have twice : 2 * s.st20BytesInLine ≤ Nat.lcm s.st20BytesInLine s.st20PktLen := by
    rcases Nat.dvd_lcm_left s.st20BytesInLine s.st20PktLen with ⟨count, common⟩
    have positive := Nat.lcm_pos dense.bytesInLine_pos dense.pktLen_pos
    rw [common] at positive
    rcases Nat.lt_trichotomy count 1 with none | one | more
    · rw [Nat.lt_one_iff.mp none] at positive
      omega
    · rw [one, Nat.mul_one] at common
      exact absurd (common ▸ Nat.dvd_lcm_right s.st20BytesInLine s.st20PktLen) apart
    · rw [common, Nat.mul_comm]
      exact Nat.mul_le_mul_left _ more
  have fewer : s.noneExtraLines ≤ s.ops.lines - 1 := by
    rw [noneExtraLines_eq dense.bytesInLine_pos dense.pktLen_pos,
      ceilDiv_le_iff (Nat.lcm_pos dense.bytesInLine_pos dense.pktLen_pos)]
    have enough := Nat.mul_le_mul_right (s.ops.lines - 1) twice
    have double : s.st20BytesInLine * s.ops.lines ≤ 2 * s.st20BytesInLine * (s.ops.lines - 1) := by
      rw [Nat.mul_comm 2, Nat.mul_assoc]
      exact Nat.mul_le_mul_left _ (by omega)
    omega
  unfold extraPkts
  omega

theorem Dense.sizes (dense : s.Dense) (size : s.st20PktSize = s.st20PktLen + rfc4175VideoHdrSize)
    (inFrame : pktIdx < s.st20TotalPkts) :
    (s.st20PktInfo (s.tvTrainPadType pktIdx)).size = s.builtSize pktIdx := by
  have below := dense.below pktIdx inFrame
  have short := dense.pktLen_le
  have frame := dense.frameSize_lt
  have left := dense.leftLen_eq inFrame
  have place := dense.u32_place inFrame
  have runs := dense.hasExtra_iff inFrame
  have header : s.hasExtra pktIdx = s.tvPktHasExtraHdr (s.st20PktLen * pktIdx) := by
    rw [hasExtra, dense.several, dense.offset_eq inFrame]
    rfl
  have last : u32 (s.st20PktLen * pktIdx + s.st20PktLen : Nat) = s.st20PktLen * pktIdx + s.st20PktLen :=
    u32_of_lt (by omega)
  unfold builtSize tvTrainPadType st20PktInfo
  simp only [dense.several, Bool.false_eq_true, if_false, place, last]
  rw [left]
  by_cases tail : s.st20FrameSize < s.st20PktLen * pktIdx + s.st20PktLen
  · have rest : s.st20FrameSize % s.st20PktLen = s.st20FrameSize - s.st20PktLen * pktIdx := by
      rw [Nat.mod_eq_sub_mul_div]
      have rows : s.st20FrameSize / s.st20PktLen = pktIdx :=
        Nat.div_eq_of_lt_le (by rw [Nat.mul_comm]; omega) (by rw [Nat.mul_comm, Nat.mul_succ]; omega)
      rw [rows]
    have plain : s.hasExtra pktIdx = false := by
      rw [← Bool.not_eq_true, runs]
      omega
    rw [if_pos tail, plain]
    simp only [rest]
    rw [if_pos (by omega)]
    simp only [Bool.false_eq_true, if_false]
    omega
  · rw [if_neg tail, ← header]
    cases extra : s.hasExtra pktIdx with
    | false =>
      simp only [Bool.false_eq_true, if_false, size]
      omega
    | true =>
      have counted := dense.extraPkts_ne inFrame extra
      simp only [if_true, if_pos counted, size]
      omega

/-- The bytes of the pixels before a word's end that wrapped below zero are more than a packet holds. -/
theorem wrapped_columns {size coverage back : Nat} (positive : 0 < coverage) (most : coverage ≤ size)
    (small : size ≤ 15) (some : 0 < back) (near : back < 65536) :
    1432 ≤ (4294967296 - back) / coverage * size % 4294967296 := by
  have split := Nat.div_add_mod (4294967296 - back) coverage
  have part := Nat.mod_lt (4294967296 - back) positive
  generalize (4294967296 - back) / coverage = columns at split
  generalize (4294967296 - back) % coverage = past at split part
  have wraps := Nat.div_add_mod (columns * size) 4294967296
  by_contra few
  generalize columns * size % 4294967296 = rest at wraps few
  generalize columns * size / 4294967296 = turns at wraps
  have bytes : coverage * (columns * size) = size * (4294967296 - back - past) := by
    rw [show 4294967296 - back - past = coverage * columns by omega]
    ring
  rw [← wraps, Nat.mul_add, Nat.mul_left_comm] at bytes
  have rests : coverage * rest ≤ 15 * 1432 := Nat.mul_le_mul (most.trans small) (by omega)
  have gap : size * (back + past) ≤ 15 * 65550 := Nat.mul_le_mul small (by omega)
  have whole : size * (4294967296 - back - past) + size * (back + past) = size * 4294967296 := by
    rw [← Nat.mul_add]
    congr 1
    omega
  have less : coverage * turns < size := by
    apply Nat.lt_of_mul_lt_mul_left (a := 4294967296)
    have lost : 0 < size * (back + past) := Nat.mul_pos (by omega) (by omega)
    rw [Nat.mul_comm 4294967296 size]
    omega
  have next : 4294967296 * (coverage * turns + 1) ≤ 4294967296 * size := Nat.mul_le_mul_left _ less
  rw [Nat.mul_succ, Nat.mul_comm 4294967296 size] at next
  omega

section

variable (single : s.Single) {column : Nat}

include single

theorem Single.line1Offset_startOf (inside : column < s.st20PktsInLine) :
    s.line1Offset column = s.startOf column := by
  rw [single.line1Offset_eq, Nat.mod_eq_of_lt inside]
  rfl

theorem Single.pixelInPkt_groups : s.pixelInPkt / s.st20Pg.coverage * s.st20Pg.size = s.st20PktLen := by
  rw [pixelInPkt, Nat.mul_div_cancel _ s.st20Pg.coverage_pos, Nat.div_mul_cancel single.pktLen_dvd]

/-- The length of a packet by the place where it starts. -/
theorem Single.leftLen_startOf (inside : column < s.st20PktsInLine) :
    s.leftLen column =
      if s.startOf column ≤ s.ops.width then
        min s.st20PktLen (columnOf s.st20Pg (s.ops.width - s.startOf column))
      else s.st20PktLen := by
  have offset := single.line1Offset_startOf inside
  have packet := single.pktLen_le
  rcases Nat.lt_trichotomy (s.startOf column) s.ops.width with before | ends | behind
  · rw [if_pos before.le, ← offset]
    exact single.leftLen_eq (offset ▸ before)
  · rw [if_pos ends.le, leftLen, offset, ends, Nat.sub_self, Int.sub_self]
    simp only [single.single, if_true, columnOf, Nat.zero_div, Nat.zero_mul, Nat.min_zero]
    rw [show u32 0 = 0 from rfl, Nat.zero_div, Nat.zero_mul, show u32 ((0 : Nat) : Int) = 0 from rfl,
      Nat.min_zero]
    rfl
  · have near : s.startOf column < 65536 := Nat.mod_lt _ (by decide)
    have wrapped : u32 ((s.ops.width : Int) - s.startOf column) =
        4294967296 - (s.startOf column - s.ops.width) := by
      rw [u32_eq]
      omega
    have room := wrapped_columns s.st20Pg.coverage_pos s.st20Pg.coverage_le s.st20Pg.size_le
      (show 0 < s.startOf column - s.ops.width by omega) (by omega)
    rw [if_neg (by omega), leftLen, offset, wrapped]
    simp only [single.single, if_true]
    rw [show u32 (((4294967296 - (s.startOf column - s.ops.width)) / s.st20Pg.coverage * s.st20Pg.size
        : Nat) : Int) = (4294967296 - (s.startOf column - s.ops.width)) / s.st20Pg.coverage *
          s.st20Pg.size % 4294967296 from rfl,
      Nat.min_eq_left (by omega)]
    exact u16_of_lt (by omega)

theorem Single.full_iff (inside : column < s.st20PktsInLine) :
    s.st20PktLen = s.leftLen column <-> s.FullAt column := by
  have size := s.st20Pg.size_pos
  have coverage := s.st20Pg.coverage_pos
  rw [single.leftLen_startOf inside, FullAt]
  by_cases starts : s.startOf column ≤ s.ops.width
  · have whole : s.st20PktLen ≤ columnOf s.st20Pg (s.ops.width - s.startOf column) <->
        s.pixelInPkt ≤ s.ops.width - s.startOf column := by
      rw [columnOf, ← single.pixelInPkt_groups, Nat.mul_le_mul_right_iff size, pixelInPkt,
        Nat.mul_div_cancel _ coverage, Nat.le_div_iff_mul_le coverage]
    rw [if_pos starts, eq_comm, min_eq_left_iff, whole]
    omega
  · rw [if_neg starts]
    exact ⟨fun _ => Or.inr (by omega), fun _ => rfl⟩

theorem Single.rest_iff (inside : column < s.st20PktsInLine) {rest : Nat} (short : rest < s.st20PktLen) :
    rest = s.leftLen column <-> s.startOf column ≤ s.ops.width ∧
      columnOf s.st20Pg (s.ops.width - s.startOf column) = rest := by
  rw [single.leftLen_startOf inside]
  by_cases starts : s.startOf column ≤ s.ops.width
  · rw [if_pos starts]
    omega
  · rw [if_neg starts]
    omega

theorem Single.dvd_leftLen (inside : column < s.st20PktsInLine) : s.st20Pg.size ∣ s.leftLen column := by
  rw [single.leftLen_startOf inside]
  split
  · rcases Nat.le_total s.st20PktLen (columnOf s.st20Pg (s.ops.width - s.startOf column)) with le | le
    · rw [Nat.min_eq_left le]
      exact single.pktLen_dvd
    · rw [Nat.min_eq_right le]
      exact dvd_columnOf _ _
  · exact single.pktLen_dvd

/-- A line whose bytes are whole pixel groups has whole groups of pixels. -/
theorem Single.whole_groups (line : s.st20Pg.size ∣ s.st20BytesInLine) : s.st20Pg.coverage ∣ s.ops.width := by
  rcases line with ⟨lineGroups, line⟩
  have size := s.st20Pg.size_pos
  have lower := single.line_ge
  have upper := single.line_lt
  have small := s.st20Pg.coverage_le
  rw [line] at lower upper
  refine ⟨lineGroups, Nat.le_antisymm ?_ ?_⟩
  · apply Nat.le_of_mul_le_mul_right _ size
    calc
      s.ops.width * s.st20Pg.size ≤ s.st20Pg.coverage * (s.st20Pg.size * lineGroups) := lower
      _ = s.st20Pg.coverage * lineGroups * s.st20Pg.size := by ring
  · apply Nat.le_of_lt_succ
    apply Nat.lt_of_mul_lt_mul_right (a := s.st20Pg.size)
    calc
      s.st20Pg.coverage * lineGroups * s.st20Pg.size = s.st20Pg.coverage * (s.st20Pg.size * lineGroups) := by
        ring
      _ < s.ops.width * s.st20Pg.size + s.st20Pg.coverage := upper
      _ ≤ (s.ops.width + 1) * s.st20Pg.size := by
        rw [Nat.succ_mul]
        omega

theorem Single.bytesInLine_groups (whole : s.st20Pg.coverage ∣ s.ops.width) :
    s.st20BytesInLine = columnOf s.st20Pg s.ops.width := by
  rcases whole with ⟨lineGroups, width⟩
  have coverage := s.st20Pg.coverage_pos
  have lower := single.line_ge
  have upper := single.line_lt
  rw [width, Nat.mul_assoc] at lower upper
  rw [columnOf, width, Nat.mul_div_cancel_left _ coverage]
  have most : s.st20BytesInLine < lineGroups * s.st20Pg.size + 1 := by
    apply Nat.lt_of_mul_lt_mul_left (a := s.st20Pg.coverage)
    rw [Nat.mul_succ]
    exact upper
  exact Nat.le_antisymm (by omega) (Nat.le_of_mul_le_mul_left lower coverage)

/-- The bytes behind the full packets of a line, by its pixels. -/
theorem Single.rest_groups (whole : s.st20Pg.coverage ∣ s.ops.width) :
    s.st20BytesInLine % s.st20PktLen = columnOf s.st20Pg (s.ops.width % s.pixelInPkt) ∧
      s.st20Pg.coverage ∣ s.ops.width % s.pixelInPkt := by
  have coverage := s.st20Pg.coverage_pos
  rw [single.bytesInLine_groups whole]
  rcases whole with ⟨lineGroups, width⟩
  rcases single.pktLen_dvd with ⟨groups, packet⟩
  have pixels : s.pixelInPkt = s.st20Pg.coverage * groups := by
    rw [pixelInPkt, packet, Nat.mul_div_cancel_left _ s.st20Pg.size_pos, Nat.mul_comm]
  rw [pixels, width, packet, Nat.mul_mod_mul_left]
  refine ⟨?_, Nat.dvd_mul_right _ _⟩
  rw [columnOf, columnOf, Nat.mul_div_cancel_left _ coverage, Nat.mul_div_cancel_left _ coverage,
    Nat.mul_comm lineGroups, Nat.mul_mod_mul_left, Nat.mul_comm]

theorem Single.linePlanned_iff :
    (∀ column < s.st20PktsInLine, s.plannedLen column = s.leftLen column) <->
      s.st20Pg.coverage ∣ s.ops.width ∧ s.LinePlanned := by
  have size := s.st20Pg.size_pos
  have coverage := s.st20Pg.coverage_pos
  have one := single.pktsInLine_pos
  have packet := single.pktLen_pos
  have inside : s.st20PktsInLine - 1 < s.st20PktsInLine := by omega
  have earlier : (∀ column < s.st20PktsInLine, s.plannedLen column = s.leftLen column) <->
      (forall column, column + 1 < s.st20PktsInLine -> s.FullAt column) ∧
        s.plannedLen (s.st20PktsInLine - 1) = s.leftLen (s.st20PktsInLine - 1) := by
    constructor
    · intro planned
      refine ⟨fun column before => (single.full_iff (by omega)).mp ?_, planned _ inside⟩
      rw [← planned column (by omega), plannedLen, if_neg (by omega)]
    · rintro ⟨full, last⟩ column below
      by_cases final : column = s.st20PktsInLine - 1
      · rw [final]
        exact last
      · rw [plannedLen, if_neg (fun tail => final tail.2)]
        exact (single.full_iff below).mpr (full column (by omega))
  rw [earlier, LinePlanned]
  have groups (last : s.plannedLen (s.st20PktsInLine - 1) = s.leftLen (s.st20PktsInLine - 1)) :
      s.st20Pg.coverage ∣ s.ops.width := by
    apply single.whole_groups
    have aligned := single.dvd_leftLen inside
    rw [← last, plannedLen] at aligned
    split at aligned
    · exact (Nat.dvd_mod_iff single.pktLen_dvd).mp aligned
    · next whole =>
      rw [not_and_or, not_not] at whole
      rcases whole with zero | other
      · exact single.pktLen_dvd.trans (Nat.dvd_of_mod_eq_zero zero)
      · exact absurd rfl other
  have last_iff (whole : s.st20Pg.coverage ∣ s.ops.width) :
      s.plannedLen (s.st20PktsInLine - 1) = s.leftLen (s.st20PktsInLine - 1) <->
        if s.ops.width % s.pixelInPkt = 0 then s.FullAt (s.st20PktsInLine - 1)
        else
          s.startOf (s.st20PktsInLine - 1) ≤ s.ops.width ∧
            (s.ops.width - s.startOf (s.st20PktsInLine - 1)) / s.st20Pg.coverage * s.st20Pg.coverage =
              s.ops.width % s.pixelInPkt := by
    rcases single.rest_groups whole with ⟨rest, aligned⟩
    rcases aligned with ⟨left, pixels⟩
    rw [pixels, columnOf, Nat.mul_div_cancel_left _ coverage] at rest
    rw [plannedLen, rest, pixels]
    by_cases none : left = 0
    · rw [none, if_neg (by simp), if_pos (by simp)]
      exact single.full_iff inside
    · have short : left * s.st20Pg.size < s.st20PktLen := rest ▸ Nat.mod_lt _ packet
      rw [if_pos ⟨Nat.mul_ne_zero none size.ne', rfl⟩, if_neg (Nat.mul_ne_zero coverage.ne' none),
        single.rest_iff inside short, columnOf, Nat.mul_left_inj size.ne', Nat.mul_comm s.st20Pg.coverage,
        Nat.mul_left_inj coverage.ne']
  constructor
  · rintro ⟨full, last⟩
    exact ⟨groups last, full, (last_iff (groups last)).mp last⟩
  · rintro ⟨whole, full, last⟩
    exact ⟨full, (last_iff whole).mpr last⟩

/-- In a line that is not too long each packet starts where the one before ends. -/
theorem Single.linePlanned_narrow (narrow : s.ops.width ≤ 34250)
    (whole : s.st20Pg.coverage ∣ s.ops.width) : s.LinePlanned := by
  have coverage := s.st20Pg.coverage_pos
  have positive := single.width_pos
  have one := single.pktsInLine_pos
  have enough := single.enough
  have last : s.pixelInPkt * (s.st20PktsInLine - 1) < s.ops.width := by
    by_cases two : 2 ≤ s.st20PktsInLine
    · have starts := single.starts narrow two
      omega
    · rw [show s.st20PktsInLine - 1 = 0 by omega, Nat.mul_zero]
      exact positive
  have ends : s.pixelInPkt * (s.st20PktsInLine - 1) + s.pixelInPkt = s.st20PktsInLine * s.pixelInPkt := by
    rw [← Nat.mul_succ, Nat.mul_comm]
    congr 1
    omega
  have start : forall column, column + 1 ≤ s.st20PktsInLine ->
      s.startOf column = s.pixelInPkt * column ∧
        s.pixelInPkt * column ≤ s.pixelInPkt * (s.st20PktsInLine - 1) := by
    intro column below
    have most : s.pixelInPkt * column ≤ s.pixelInPkt * (s.st20PktsInLine - 1) :=
      Nat.mul_le_mul_left _ (by omega)
    exact ⟨Nat.mod_eq_of_lt (by omega), most⟩
  refine ⟨fun column before => Or.inl ?_, ?_⟩
  · have next : s.pixelInPkt * (column + 1) ≤ s.pixelInPkt * (s.st20PktsInLine - 1) :=
      Nat.mul_le_mul_left _ (by omega)
    rw [(start column (by omega)).1]
    rw [Nat.mul_succ] at next
    omega
  · rw [(start (s.st20PktsInLine - 1) (by omega)).1]
    have split : s.ops.width =
        s.ops.width - s.pixelInPkt * (s.st20PktsInLine - 1) + s.pixelInPkt * (s.st20PktsInLine - 1) := by
      omega
    have rest : s.ops.width % s.pixelInPkt =
        (s.ops.width - s.pixelInPkt * (s.st20PktsInLine - 1)) % s.pixelInPkt := by
      conv_lhs => rw [split]
      exact Nat.add_mul_mod_self_left _ _ _
    rw [rest]
    split
    · next none =>
      refine Or.inl ?_
      rw [(start (s.st20PktsInLine - 1) (by omega)).1]
      have covers := Nat.le_of_dvd (by omega) (Nat.dvd_of_mod_eq_zero none)
      omega
    · next some =>
      have short : s.ops.width - s.pixelInPkt * (s.st20PktsInLine - 1) < s.pixelInPkt := by
        apply Nat.lt_of_le_of_ne (by omega)
        intro full
        rw [full] at some
        exact some (Nat.mod_self _)
      have aligned : s.st20Pg.coverage ∣ s.ops.width - s.pixelInPkt * (s.st20PktsInLine - 1) :=
        Nat.dvd_sub whole (Dvd.dvd.mul_right (Nat.dvd_mul_left _ _) _)
      rw [Nat.mod_eq_of_lt short, Nat.div_mul_cancel aligned]
      exact ⟨last.le, rfl⟩

theorem Single.planned_iff :
    (∀ column < s.st20PktsInLine, s.plannedLen column = s.leftLen column) <->
      s.PadTypesPlanned := by
  unfold PadTypesPlanned
  rw [single.single, if_pos rfl, single.linePlanned_iff]
  refine and_congr_right fun whole => ⟨fun planned _ => planned, fun long => ?_⟩
  by_cases narrow : s.ops.width ≤ 34250
  · exact single.linePlanned_narrow narrow whole
  · exact long (by omega)

end

theorem Single.sizes_iff (single : s.Single) (size : s.st20PktSize = s.st20PktLen + rfc4175VideoHdrSize)
    (pktIdx : Nat) :
    (s.st20PktInfo (s.tvTrainPadType pktIdx)).size = s.builtSize pktIdx <->
      s.plannedLen (pktIdx % s.st20PktsInLine) = s.leftLen (pktIdx % s.st20PktsInLine) := by
  have left : s.leftLen (pktIdx % s.st20PktsInLine) = s.leftLen pktIdx := by
    unfold leftLen
    simp only [single.single, if_true, single.line1Offset_eq, Nat.mod_mod]
  have lines := single.lines_pos
  unfold builtSize tvTrainPadType st20PktInfo plannedLen
  rw [left, single.hasExtra_eq]
  simp only [single.single, if_true, Bool.false_eq_true, if_false, size]
  by_cases whole : s.st20BytesInLine % s.st20PktLen = 0
  · simp only [whole, ne_eq, not_true_eq_false, if_false, false_and]
    omega
  · simp only [whole, ne_eq, not_false_eq_true, if_true, true_and, show s.ops.lines ≠ 0 by omega]
    by_cases last : pktIdx % s.st20PktsInLine = s.st20PktsInLine - 1
    · simp only [last, if_true]
      omega
    · simp only [last, if_false]
      omega

/-! ## Counts -/

theorem Dense.extra_number (dense : s.Dense) :
    (s.st20PktInfo .extra).number = s.ops.lines - s.noneExtraLines := by
  have most := dense.noneExtraLines_le dense.pktLen_pos
  have pixels : s.ops.lines ≤ s.ops.width * s.ops.lines * s.st20Pg.size :=
    Nat.le_mul_of_pos_left _ dense.width_pos |>.trans (Nat.le_mul_of_pos_right _ s.st20Pg.size_pos)
  have bytes := dense.bytes_lt
  have extra : u32 s.extraPkts = s.ops.lines - s.noneExtraLines := by
    rw [extraPkts, ← Int.ofNat_sub most]
    exact u32_of_lt (by omega)
  unfold st20PktInfo
  simp only [dense.several, Bool.false_eq_true, if_false]
  split
  · exact extra
  · next zero =>
    unfold extraPkts at zero
    dsimp only
    omega

theorem Dense.total_eq (dense : s.Dense) :
    s.st20TotalPkts = s.st20FrameSize / s.st20PktLen + (s.st20PktInfo .frameTail).number ∧
      (s.st20PktInfo .frameTail).number ≤ 1 := by
  have all : s.st20TotalPkts = ceilDiv s.st20FrameSize s.st20PktLen := by
    apply Nat.le_antisymm
    · by_contra more
      have behind := dense.below _ (Nat.lt_of_not_le more)
      have spec := (ceilDiv_spec s.st20FrameSize dense.pktLen_pos).1
      omega
    · exact (ceilDiv_le_iff dense.pktLen_pos).mpr dense.total_ge
  have split := Nat.div_add_mod s.st20FrameSize s.st20PktLen
  have rest := Nat.mod_lt s.st20FrameSize dense.pktLen_pos
  have spec := ceilDiv_spec s.st20FrameSize dense.pktLen_pos
  rw [all]
  unfold st20PktInfo
  simp only [dense.several, Bool.false_eq_true, if_false]
  by_cases whole : s.st20FrameSize % s.st20PktLen = 0
  · simp only [whole, ne_eq, not_true_eq_false, if_false]
    refine ⟨Nat.le_antisymm ?_ ?_, Nat.zero_le 1⟩
    · rw [ceilDiv_le_iff dense.pktLen_pos, Nat.add_zero]
      omega
    · apply Nat.le_of_mul_le_mul_left _ dense.pktLen_pos
      rw [Nat.add_zero]
      omega
  · simp only [whole, ne_eq, not_false_eq_true, if_true]
    refine ⟨Nat.le_antisymm ?_ ?_, Nat.le_refl 1⟩
    · rw [ceilDiv_le_iff dense.pktLen_pos, Nat.mul_succ]
      omega
    · apply Nat.lt_of_mul_lt_mul_left (a := s.st20PktLen)
      omega

theorem Dense.total_iff (dense : s.Dense) :
    ((s.st20PktInfo .normal).number + (s.st20PktInfo .extra).number +
      (s.st20PktInfo .frameTail).number + (s.st20PktInfo .lineTail).number = s.st20TotalPkts) <->
      s.PadTypesPlanned := by
  have most := dense.noneExtraLines_le dense.pktLen_pos
  have none := noneExtraLines_eq dense.bytesInLine_pos dense.pktLen_pos
  have number := dense.extra_number
  have tail := dense.total_eq
  have few : s.st20FrameSize / s.st20PktLen < 2147483648 :=
    Nat.lt_of_le_of_lt (Nat.div_le_self _ _) dense.frameSize_lt
  have normal : (s.st20PktInfo .normal).number =
      u32 (s.st20TotalPkts - (s.st20PktInfo .frameTail).number - (s.st20PktInfo .extra).number) := by
    unfold st20PktInfo
    simp only [dense.several, Bool.false_eq_true, if_false]
  have line : (s.st20PktInfo .lineTail).number = 0 := by
    unfold st20PktInfo
    simp only [dense.several, Bool.false_eq_true, if_false]
  unfold PadTypesPlanned
  rw [normal, line, number, ← none, if_neg (by rw [dense.several]; decide), u32_eq]
  omega

theorem Single.total (single : s.Single) (short : s.st20PktsInLine ≤ s.st20BytesInLine) :
    (s.st20PktInfo .normal).number + (s.st20PktInfo .extra).number +
      (s.st20PktInfo .frameTail).number + (s.st20PktInfo .lineTail).number = s.st20TotalPkts := by
  have total := single.total_eq
  have tails : s.ops.lines ≤ s.st20TotalPkts := total ▸ Nat.le_mul_of_pos_right _ single.pktsInLine_pos
  have small : s.st20TotalPkts < 4294967296 := by
    apply Nat.lt_of_le_of_lt _ single.buffer_lt
    rw [total, Nat.mul_comm]
    exact Nat.mul_le_mul_right _ (short.trans single.linesize_ge)
  unfold st20PktInfo
  simp only [single.single, if_true]
  split
  · dsimp only
    rw [u32_eq]
    omega
  · dsimp only
    rw [u32_eq]
    omega

end TvSession

/-! ## Every accepted session -/

theorem tvAttach_pktSize {suggest : Nat} {ops : St20TxOps} {s : TvSession}
    (accepted : tvAttach suggest ops = .ok s) :
    s.st20PktSize = u16 (s.st20PktLen + rfc4175VideoHdrSize : Nat) := by
  unfold tvAttach at accepted
  dsimp only at accepted
  split at accepted
  · cases accepted
  · split at accepted
    · cases accepted
    · split at accepted
      · cases accepted
      · cases accepted
        rfl

/-- The plan of the pads is that of the packets exactly when the plan's arithmetic fits the geometry. -/
theorem pad_types_right_iff {user : Nat} {ops : St20TxOps} {s : TvSession}
    (accepted : tvAttach (pktUdpSuggestMaxSize user) ops = .ok s) (representable : s.Representable) :
    s.PadTypesRight <-> s.PadTypesPlanned := by
  have pktSize := tvAttach_pktSize accepted
  rcases tvAttach_ok accepted with ⟨rfl, plan, attached⟩
  have dense_iff : s.Dense -> (s.PadTypesRight <-> s.PadTypesPlanned) := by
    intro dense
    have short := dense.pktLen_le
    have size : s.st20PktSize = s.st20PktLen + rfc4175VideoHdrSize :=
      pktSize.trans (u16_of_lt (by unfold rfc4175VideoHdrSize; omega))
    rw [← dense.total_iff]
    exact ⟨TvSession.PadTypesRight.total, fun total => ⟨total, fun _ inFrame => dense.sizes size inFrame⟩⟩
  cases packing : s.ops.packing with
  | gpm => exact dense_iff (attached.dense_gpm representable packing)
  | bpm => exact dense_iff (attached.dense_bpm representable packing)
  | gpmSl =>
    have single := attached.single_gpmSl representable packing
    have length := single.pktLen_le
    have size : s.st20PktSize = s.st20PktLen + rfc4175VideoHdrSize :=
      pktSize.trans (u16_of_lt (by unfold rfc4175VideoHdrSize; omega))
    have short : s.st20PktsInLine ≤ s.st20BytesInLine := by
      have plan_ok := attached.plan_ok
      have line := single.bytesInLine_pos
      simp only [tvInitPktPlan, packing] at plan_ok
      rw [attached.pktsInLine_eq, ← Except.ok.inj plan_ok, ← attached.bytesInLine_eq]
      show s.st20BytesInLine / 1432 + 1 ≤ _
      omega
    rw [← single.planned_iff]
    constructor
    · intro right column inside
      have inFrame : column < s.st20TotalPkts := by
        rw [single.total_eq]
        exact inside.trans_le (Nat.le_mul_of_pos_left _ single.lines_pos)
      have same := (single.sizes_iff size column).mp (right.size column inFrame)
      rw [Nat.mod_eq_of_lt inside] at same
      exact same
    · intro planned
      refine ⟨single.total short, fun pktIdx _ => (single.sizes_iff size pktIdx).mpr ?_⟩
      exact planned _ (Nat.mod_lt _ single.pktsInLine_pos)

theorem hd_representable : hdSession.Representable :=
  ⟨by decide, by decide, by decide, by decide⟩

theorem pad_types_right_hd : hdSession.PadTypesRight :=
  (@pad_types_right_iff 0 hdOps hdSession rfl hd_representable).mpr (show _ ≤ _ by decide +kernel)

def oddLineOps : St20TxOps := { qvgaOps with width := 321, packing := .gpmSl }

/-- Short lines share packets, and odd lines end in half a pixel group. -/
theorem pad_types_not_right :
    (exists s, tvAttach (pktUdpSuggestMaxSize 0) qvgaOps = .ok s ∧ ¬s.PadTypesRight) ∧
      exists s, tvAttach (pktUdpSuggestMaxSize 0) oddLineOps = .ok s ∧ ¬s.PadTypesRight := by
  constructor
  · exact ⟨_, rfl, fun right => absurd right.total (by decide +kernel)⟩
  · exact ⟨_, rfl, fun right => absurd (right.size 0 (by decide +kernel)) (by decide +kernel)⟩

end MediaTransport.Video
