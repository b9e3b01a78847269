import MediaTransport.Video.Packing

namespace MediaTransport.Video

open Library

/-!
# The packets of a frame tile it

The packets that `tv_build_st20` emits for a frame, read through their
headers, should cover every active byte of the frame once with the byte that
the sender's buffer holds there.  The main result says for which accepted
geometries they do.
-/

/-- The segments that the packets of a frame announce, in sending order. -/
def frameSegments (s : TvSession) (trans : StFrameTrans) (seqId : Nat) : List Segment :=
  (tvFramePackets s trans seqId).flatMap
    (fun pkt => (pkt.parts s.st20Pg).map LinePart.segment)

/-- The packets of a frame, as their headers describe them, carry the frame. -/
structure TilesFrame (s : TvSession) (trans : StFrameTrans) (seqId : Nat) : Prop where
  /-- Every active byte is announced exactly once. -/
  once : forall row column, row < s.ops.lines -> column < s.st20BytesInLine ->
    (frameSegments s trans seqId).countP (Segment.covers row column) = 1
  /-- As many bytes are announced as are attached. -/
  attached : ∀ pkt ∈ tvFramePackets s trans seqId,
    ((pkt.parts s.st20Pg).map (fun part => part.segment.length)).sum = pkt.payload.length
  /-- Nothing is announced outside the active bytes of a line. -/
  inside : ∀ pkt ∈ tvFramePackets s trans seqId,
    ∀ part ∈ pkt.parts s.st20Pg,
      part.segment.Inside s.ops.lines s.st20BytesInLine
  /-- The bytes of a segment are those of the frame buffer. -/
  faithful : ∀ pkt ∈ tvFramePackets s trans seqId,
    ∀ part ∈ pkt.parts s.st20Pg,
      part.bytes = copyBytes trans.addr
        (part.segment.row * s.st20Linesize + part.segment.column) part.segment.length

/-! ## When a geometry can be tiled -/

/-- Packets that may run over line ends: the lines hold the frame without a
partial pixel group, every packet starts with a pixel group whose pixel the
15 bits of a row offset can name, and no packet reaches a third line. -/
structure DenseFits (s : TvSession) : Prop where
  whole : s.st20FrameSize = s.st20BytesInLine * s.ops.lines
  aligned : ∀ pktIdx < s.st20TotalPkts, s.st20Pg.size ∣ s.columnIn pktIdx
  low : ∀ pktIdx < s.st20TotalPkts,
    s.columnIn pktIdx * s.st20Pg.coverage / s.st20Pg.size < 32768
  twoLines : forall pktIdx, pktIdx + 1 < s.st20TotalPkts ->
    s.columnIn pktIdx + s.st20PktLen ≤ 2 * s.st20BytesInLine
  lastLine : s.st20FrameSize ≤ s.st20PktLen * (s.st20TotalPkts - 1) + s.st20BytesInLine

/-- Packets of one line: a line is made of whole pixel groups and its last
packet starts at a pixel that a row offset can name. -/
structure SingleFits (s : TvSession) : Prop where
  whole : s.st20Pg.coverage ∣ s.ops.width
  low : s.pixelInPkt * (s.st20PktsInLine - 1) < 32768

def TvSession.Tileable (s : TvSession) : Prop :=
  s.ops.lines ≤ 32768 ∧ if s.singleLine then SingleFits s else DenseFits s

/-! ## From packets to the frame -/

/-- The segments of a packet run from one place of the frame to another and
carry its bytes. -/
structure Placed (s : TvSession) (addr : Nat -> Byte) (pkt : Rfc4175Packet)
    (first last : Nat) : Prop where
  consecutive : Consecutive s.st20BytesInLine first
    ((pkt.parts s.st20Pg).map LinePart.segment) last
  attached : ((pkt.parts s.st20Pg).map (fun part => part.segment.length)).sum = pkt.payload.length
  rows : ∀ part ∈ pkt.parts s.st20Pg, part.segment.row < s.ops.lines
  faithful : ∀ part ∈ pkt.parts s.st20Pg,
    part.bytes = copyBytes addr
      (part.segment.row * s.st20Linesize + part.segment.column) part.segment.length

variable {s : TvSession} {trans : StFrameTrans} {seqId pktIdx : Nat}

def framePacket (s : TvSession) (trans : StFrameTrans) (seqId pktIdx : Nat) : Rfc4175Packet :=
  tvBuildSt20 s trans pktIdx (u32 (seqId + pktIdx : Nat))

theorem mem_tvFramePackets {pkt : Rfc4175Packet} :
    pkt ∈ tvFramePackets s trans seqId ↔
      exists pktIdx, pktIdx < s.st20TotalPkts ∧ framePacket s trans seqId pktIdx = pkt := by
  simp only [tvFramePackets, framePacket, List.mem_map, List.mem_range]

theorem frameSegments_eq : frameSegments s trans seqId =
    (List.range s.st20TotalPkts).flatMap (fun (pktIdx : Nat) =>
      ((framePacket s trans seqId pktIdx).parts s.st20Pg).map LinePart.segment) := by
  rw [frameSegments, tvFramePackets, List.flatMap_map]
  rfl

theorem countP_of_placed (cut : Nat -> Nat) (begins : cut 0 = 0)
    (placed : ∀ pktIdx < s.st20TotalPkts,
      Placed s trans.addr (framePacket s trans seqId pktIdx) (cut pktIdx) (cut (pktIdx + 1)))
    (row : Nat) {column : Nat} (inLine : column < s.st20BytesInLine) :
    (frameSegments s trans seqId).countP (Segment.covers row column) =
      if row * s.st20BytesInLine + column < cut s.st20TotalPkts then 1 else 0 := by
  have chain := consecutive_flatMap_range cut _ _
    (fun pktIdx inFrame => (placed pktIdx inFrame).consecutive)
  rw [frameSegments_eq, chain.countP_covers row inLine, begins]
  simp only [Nat.zero_le, true_and]

theorem tilesFrame_of_placed (cut : Nat -> Nat) (begins : cut 0 = 0)
    (stops : cut s.st20TotalPkts = s.ops.lines * s.st20BytesInLine)
    (placed : ∀ pktIdx < s.st20TotalPkts,
      Placed s trans.addr (framePacket s trans seqId pktIdx) (cut pktIdx) (cut (pktIdx + 1))) :
    TilesFrame s trans seqId where
  once := by
    intro row column inFrame inLine
    rw [countP_of_placed cut begins placed row inLine, stops, if_pos]
    have rows : (row + 1) * s.st20BytesInLine ≤ s.ops.lines * s.st20BytesInLine :=
      Nat.mul_le_mul_right _ inFrame
    rw [Nat.succ_mul] at rows
    omega
  attached := by
    intro pkt member
    rcases mem_tvFramePackets.mp member with ⟨pktIdx, inFrame, rfl⟩
    exact (placed pktIdx inFrame).attached
  inside := by
    intro pkt member part isPart
    rcases mem_tvFramePackets.mp member with ⟨pktIdx, inFrame, rfl⟩
    exact ⟨(placed pktIdx inFrame).rows part isPart,
      (placed pktIdx inFrame).consecutive.fits (List.mem_map_of_mem isPart)⟩
  faithful := by
    intro pkt member part isPart
    rcases mem_tvFramePackets.mp member with ⟨pktIdx, inFrame, rfl⟩
    exact (placed pktIdx inFrame).faithful part isPart

/-! ## What a tiled frame says of each packet -/

theorem copyBytes_injective {first second length : Nat} (nonempty : 0 < length)
    (same : forall addr : Nat -> Byte,
      copyBytes addr first length = copyBytes addr second length) :
    first = second := by
  have bytes := congrArg List.head? (same (fun place => if place = first then 1 else 0))
  rcases Nat.exists_eq_succ_of_ne_zero (Nat.pos_iff_ne_zero.mp nonempty) with ⟨rest, rfl⟩
  simp only [copyBytes, List.range_succ_eq_map, List.map_cons, List.head?_cons, Nat.add_zero,
    if_true, Option.some.injEq] at bytes
  by_contra differ
  rw [if_neg (Ne.symm differ)] at bytes
  exact absurd bytes (by decide)

theorem parts_row_lt {pkt : Rfc4175Packet} {part : LinePart} (bound : pkt.rowNumber < 65536)
    (isPart : part ∈ pkt.parts s.st20Pg) : part.segment.row < 32768 := by
  unfold Rfc4175Packet.parts at isPart
  dsimp only at isPart
  split at isPart
  · rw [List.mem_singleton] at isPart
    rw [isPart]
    exact clearBit_topBit_lt bound
  · next extra found =>
      have number : extra.rowNumber < 65536 := by
        unfold Rfc4175Packet.extraRtp at found
        split at found
        · cases found
          exact readBe16_lt _ _
        · cases found
      rw [List.mem_cons, List.mem_singleton] at isPart
      rcases isPart with rfl | rfl
      · exact clearBit_topBit_lt bound
      · exact clearBit_topBit_lt number

theorem TilesFrame.exists_part (tiles : TilesFrame s trans seqId) {row column : Nat}
    (inFrame : row < s.ops.lines) (inLine : column < s.st20BytesInLine) :
    exists pktIdx part, pktIdx < s.st20TotalPkts ∧
      part ∈ (framePacket s trans seqId pktIdx).parts s.st20Pg ∧
      part.segment.row = row ∧ part.segment.column ≤ column ∧
      column < part.segment.column + part.segment.length := by
  have once := tiles.once row column inFrame inLine
  have positive : 0 < (frameSegments s trans seqId).countP (Segment.covers row column) := by omega
  rcases List.countP_pos_iff.mp positive with ⟨segment, member, covered⟩
  rw [frameSegments_eq] at member
  rcases List.mem_flatMap.mp member with ⟨pktIdx, index, mapped⟩
  rcases List.mem_map.mp mapped with ⟨part, isPart, rfl⟩
  exact ⟨pktIdx, part, List.mem_range.mp index, isPart, (Segment.covers_iff _ _ _).mp covered⟩

theorem TilesFrame.lines_le (tiles : TilesFrame s trans seqId) (lines : s.Lines) :
    s.ops.lines ≤ 32768 := by
  by_contra many
  rcases tiles.exists_part (show 32768 < s.ops.lines by omega) lines.bytesInLine_pos with
    ⟨pktIdx, part, _, isPart, row, _⟩
  have bound := parts_row_lt (tvBuildSt20_rowNumber_lt _ _ _ _) isPart
  omega

theorem TilesFrame.offset_low (tiles : TilesFrame s trans seqId)
    (inFrame : pktIdx < s.st20TotalPkts) (extra : s.hasExtra pktIdx = false)
    (nonempty : 0 < s.leftLen pktIdx) : s.line1Offset pktIdx < 32768 := by
  by_contra high
  have attached := tiles.attached _ (mem_tvFramePackets.mpr ⟨pktIdx, inFrame, rfl⟩)
  generalize built : framePacket s trans seqId pktIdx = pkt at attached
  have offset : pkt.rowOffset = s.line1Offset pktIdx := by
    rw [← built, framePacket]
    simp only [tvBuildSt20, extra]
    rfl
  have length : pkt.rowLength = s.leftLen pktIdx := by
    rw [← built, framePacket]
    simp only [tvBuildSt20, extra]
    rfl
  have body : pkt.body.length = s.leftLen pktIdx := by
    rw [← built, framePacket]
    simp only [tvBuildSt20, extra, tvPayload, Bool.false_and]
    exact length_copyBytes _ _ _
  have flag : hasBit topBit pkt.rowOffset = true := by
    rw [offset, hasBit_topBit (s.line1Offset_lt pktIdx)]
    exact decide_eq_true (by omega)
  have payload : pkt.payload.length = s.leftLen pktIdx - 6 := by
    rw [Rfc4175Packet.payload, flag, if_pos rfl, List.length_drop, body]
    rfl
  simp only [Rfc4175Packet.parts, Rfc4175Packet.extraRtp, flag, if_true, List.map_cons,
    List.map_nil, List.sum_cons, List.sum_nil, headerSegment, length, payload] at attached
  omega

/-! ## Packets that run over line ends -/

/-- One packet keeps to pixel groups and to its lines. -/
structure PacketFits (s : TvSession) (pktIdx : Nat) : Prop where
  aligned : s.st20Pg.size ∣ s.columnIn pktIdx
  low : s.columnIn pktIdx * s.st20Pg.coverage / s.st20Pg.size < 32768
  twoLines : s.hasExtra pktIdx = true -> s.columnIn pktIdx + s.st20PktLen ≤ 2 * s.st20BytesInLine
  oneLine : s.hasExtra pktIdx = false ->
    s.columnIn pktIdx + min s.st20PktLen (s.st20FrameSize - s.st20PktLen * pktIdx) ≤
      s.st20BytesInLine

theorem TvSession.Dense.announcedColumn_eq (dense : s.Dense) (inFrame : pktIdx < s.st20TotalPkts)
    (fits : PacketFits s pktIdx) :
    s.line1Offset pktIdx < 32768 ∧ s.announcedColumn pktIdx = s.columnIn pktIdx := by
  have low := fits.low
  have offset : s.line1Offset pktIdx =
      s.columnIn pktIdx * s.st20Pg.coverage / s.st20Pg.size := by
    rw [dense.line1Offset_eq inFrame]
    exact u16_of_lt (by omega)
  refine ⟨by omega, ?_⟩
  rw [TvSession.announcedColumn, offset, clearBit_topBit_of_lt low]
  exact TvSession.columnOf_pixel fits.aligned

/-- A fitting packet carries the bytes of the frame from its own place to the
place of the next packet, or to the end of the frame. -/
theorem TvSession.Dense.placed (dense : s.Dense) (few : s.ops.lines ≤ 32768)
    (inFrame : pktIdx < s.st20TotalPkts) (fits : PacketFits s pktIdx) :
    Placed s trans.addr (framePacket s trans seqId pktIdx)
      (min (s.st20PktLen * pktIdx) s.st20FrameSize)
      (min (s.st20PktLen * (pktIdx + 1)) s.st20FrameSize) := by
  have below := dense.below pktIdx inFrame
  have column := dense.columnIn_lt pktIdx
  have row := dense.rowOf_lt inFrame
  have place := s.rowOf_columnIn pktIdx
  have announced := dense.announcedColumn_eq inFrame fits
  have next : s.st20PktLen * (pktIdx + 1) = s.st20PktLen * pktIdx + s.st20PktLen := Nat.mul_succ _ _
  cases extra : s.hasExtra pktIdx with
  | true =>
    have runs := (dense.hasExtra_iff inFrame).mp extra
    have rowNext := dense.rowOf_succ_lt inFrame extra
    have two := fits.twoLines extra
    have line : (s.rowOf pktIdx + 1) * s.st20BytesInLine =
        s.rowOf pktIdx * s.st20BytesInLine + s.st20BytesInLine := Nat.succ_mul _ _
    have parts := dense.parts_extra inFrame few extra trans (u32 (seqId + pktIdx : Nat))
    have payload := (tvBuildSt20_extra trans (u32 (seqId + pktIdx : Nat)) extra).2
    rw [dense.payload_extra inFrame few extra] at payload
    rw [announced.2] at parts
    constructor
    case consecutive =>
      rw [framePacket, parts]
      simp only [List.map_cons, List.map_nil, Consecutive, Segment.start]
      omega
    case attached =>
      rw [framePacket, parts, payload, List.length_append, length_copyBytes, length_copyBytes]
      rfl
    case rows =>
      rw [framePacket, parts]
      intro part isPart
      rcases List.mem_pair.mp isPart with rfl | rfl
      · exact row
      · exact rowNext
    case faithful =>
      rw [framePacket, parts]
      intro part isPart
      rcases List.mem_pair.mp isPart with rfl | rfl
      · rfl
      · rfl
  | false =>
    have one := fits.oneLine extra
    have parts := dense.parts_single inFrame few extra announced.1 trans
      (u32 (seqId + pktIdx : Nat))
    have payload := (tvBuildSt20_single trans (u32 (seqId + pktIdx : Nat)) extra announced.1).2
    rw [dense.payload_single inFrame few extra] at payload
    rw [announced.2] at parts
    constructor
    case consecutive =>
      rw [framePacket, parts]
      simp only [List.map_cons, List.map_nil, Consecutive, Segment.start]
      omega
    case attached =>
      rw [framePacket, parts, payload, length_copyBytes]
      rfl
    case rows =>
      rw [framePacket, parts]
      intro part isPart
      rw [List.mem_singleton.mp isPart]
      exact row
    case faithful =>
      rw [framePacket, parts]
      intro part isPart
      rw [List.mem_singleton.mp isPart]

/-- Every packet of a frame that is always tiled fits. -/
theorem TvSession.Dense.packetFits (dense : s.Dense)
    (tiles : forall trans seqId, TilesFrame s trans seqId) (inFrame : pktIdx < s.st20TotalPkts) :
    PacketFits s pktIdx := by
  have few := (tiles ⟨fun _ => 0, false, 0⟩ 0).lines_le dense.toLines
  have below := dense.below pktIdx inFrame
  have column := dense.columnIn_lt pktIdx
  have long := dense.pktLen_pos
  have isPacket (addr : Nat -> Byte) := mem_tvFramePackets.mpr
    ⟨pktIdx, inFrame, @Eq.refl _ (framePacket s ⟨addr, false, 0⟩ 0 pktIdx)⟩
  -- The column in the header is where the bytes were read.
  have same : s.announcedColumn pktIdx = s.columnIn pktIdx ∧
      (s.hasExtra pktIdx = true ->
        s.columnIn pktIdx + s.st20PktLen ≤ 2 * s.st20BytesInLine) ∧
      (s.hasExtra pktIdx = false ->
        s.announcedColumn pktIdx + min s.st20PktLen (s.st20FrameSize - s.st20PktLen * pktIdx) ≤
          s.st20BytesInLine) := by
    cases extra : s.hasExtra pktIdx with
    | true =>
      have parts (addr : Nat -> Byte) := dense.parts_extra inFrame few extra
        ⟨addr, false, 0⟩ (u32 (0 + pktIdx : Nat))
      have nonempty : 0 < s.st20BytesInLine - s.columnIn pktIdx := by omega
      have places : s.rowOf pktIdx * s.st20Linesize + s.columnIn pktIdx =
          s.rowOf pktIdx * s.st20Linesize + s.announcedColumn pktIdx :=
        copyBytes_injective nonempty (fun addr =>
          (tiles ⟨addr, false, 0⟩ 0).faithful _ (isPacket addr) _
            ((parts addr).symm ▸ List.mem_cons_self))
      have second := ((tiles ⟨fun _ => 0, false, 0⟩ 0).inside _ (isPacket _) _
        ((parts _).symm ▸ List.mem_cons_of_mem _ List.mem_cons_self)).2
      simp only at second
      exact ⟨by omega, fun _ => (by omega), fun impossible => (by cases impossible)⟩
    | false =>
      have low := (tiles ⟨fun _ => 0, false, 0⟩ 0).offset_low inFrame extra
        (by rw [dense.leftLen_eq inFrame]; omega)
      have parts (addr : Nat -> Byte) := dense.parts_single inFrame few extra low
        ⟨addr, false, 0⟩ (u32 (0 + pktIdx : Nat))
      have nonempty : 0 < min s.st20PktLen (s.st20FrameSize - s.st20PktLen * pktIdx) := by omega
      have places : s.rowOf pktIdx * s.st20Linesize + s.columnIn pktIdx =
          s.rowOf pktIdx * s.st20Linesize + s.announcedColumn pktIdx :=
        copyBytes_injective nonempty (fun addr =>
          (tiles ⟨addr, false, 0⟩ 0).faithful _ (isPacket addr) _
            ((parts addr).symm ▸ List.mem_cons_self))
      have first := ((tiles ⟨fun _ => 0, false, 0⟩ 0).inside _ (isPacket _) _
        ((parts _).symm ▸ List.mem_cons_self)).2
      simp only at first
      exact ⟨by omega, fun impossible => (by cases impossible), fun _ => first⟩
  rcases same with ⟨same, two, one⟩
  rw [same] at one
  constructor
  case aligned =>
    rw [← same]
    exact TvSession.dvd_columnOf _ _
  case low =>
    rw [← same]
    exact Nat.lt_of_le_of_lt (TvSession.pixel_columnOf_le _ _)
      (clearBit_topBit_lt (s.line1Offset_lt pktIdx))
  case twoLines => exact two
  case oneLine => exact one

theorem TvSession.Dense.denseFits_of_tiles (dense : s.Dense)
    (tiles : forall trans seqId, TilesFrame s trans seqId) : DenseFits s := by
  have fits (pktIdx : Nat) (inFrame : pktIdx < s.st20TotalPkts) := dense.packetFits tiles inFrame
  have few := (tiles ⟨fun _ => 0, false, 0⟩ 0).lines_le dense.toLines
  have line := dense.bytesInLine_pos
  have lines := dense.lines_pos
  have enough := dense.total_ge
  constructor
  case whole =>
    apply Nat.le_antisymm dense.frameSize_le
    have once := (tiles ⟨fun _ => 0, false, 0⟩ 0).once (s.ops.lines - 1) (s.st20BytesInLine - 1)
      (by omega) (by omega)
    rw [countP_of_placed (fun pktIdx => min (s.st20PktLen * pktIdx) s.st20FrameSize)
      (by simp only [Nat.mul_zero, Nat.zero_min])
      (fun pktIdx inFrame => dense.placed few inFrame (fits pktIdx inFrame)) _ (by omega)] at once
    have last : (s.ops.lines - 1) * s.st20BytesInLine + s.st20BytesInLine =
        s.st20BytesInLine * s.ops.lines := by
      rw [← Nat.succ_mul, Nat.mul_comm]
      congr 1
      omega
    split at once <;> omega
  case aligned => exact fun pktIdx inFrame => (fits pktIdx inFrame).aligned
  case low => exact fun pktIdx inFrame => (fits pktIdx inFrame).low
  case twoLines =>
    intro pktIdx inner
    have next := dense.below (pktIdx + 1) inner
    rw [Nat.mul_succ] at next
    have fit := fits pktIdx (by omega)
    cases extra : s.hasExtra pktIdx with
    | true => exact fit.twoLines extra
    | false =>
      have one := fit.oneLine extra
      omega
  case lastLine =>
    by_cases nothing : s.st20TotalPkts = 0
    · rw [nothing] at enough
      omega
    · have inFrame : s.st20TotalPkts - 1 < s.st20TotalPkts := by omega
      have total : s.st20PktLen * s.st20TotalPkts =
          s.st20PktLen * (s.st20TotalPkts - 1) + s.st20PktLen := by
        rw [← Nat.mul_succ]
        congr 1
        omega
      have fit := fits _ inFrame
      cases extra : s.hasExtra (s.st20TotalPkts - 1) with
      | true =>
        have inner := ((dense.hasExtra_iff inFrame).mp extra).2
        omega
      | false =>
        have one := fit.oneLine extra
        omega

theorem DenseFits.packetFits (fits : DenseFits s) (dense : s.Dense)
    (inFrame : pktIdx < s.st20TotalPkts) : PacketFits s pktIdx := by
  have below := dense.below pktIdx inFrame
  have column := dense.columnIn_lt pktIdx
  have place := s.rowOf_columnIn pktIdx
  have enough := dense.total_ge
  constructor
  case aligned => exact fits.aligned pktIdx inFrame
  case low => exact fits.low pktIdx inFrame
  case twoLines =>
    intro extra
    have inner := ((dense.hasExtra_iff inFrame).mp extra).2
    apply fits.twoLines pktIdx
    apply Nat.lt_of_mul_lt_mul_left (a := s.st20PktLen)
    rw [Nat.mul_succ]
    omega
  case oneLine =>
    intro extra
    by_cases short : s.columnIn pktIdx + s.st20PktLen ≤ s.st20BytesInLine
    · omega
    · -- The packet would run over its line, so it is the last one and starts in the last line.
      have ends : s.st20FrameSize ≤ s.st20PktLen * pktIdx + s.st20PktLen := by
        by_contra inner
        have runs := (dense.hasExtra_iff inFrame).mpr ⟨by omega, by omega⟩
        rw [runs] at extra
        cases extra
      have last : pktIdx = s.st20TotalPkts - 1 := by
        by_contra other
        have next := dense.below (pktIdx + 1) (by omega)
        rw [Nat.mul_succ] at next
        omega
      have line := fits.lastLine
      rw [← last, fits.whole] at line
      rw [fits.whole] at below
      have lower : s.rowOf pktIdx < s.ops.lines := dense.rowOf_lt inFrame
      have upper : s.ops.lines < s.rowOf pktIdx + 2 := by
        apply Nat.lt_of_mul_lt_mul_left (a := s.st20BytesInLine)
        rw [Nat.mul_add, Nat.mul_comm _ (s.rowOf pktIdx)]
        omega
      have rows : s.ops.lines = s.rowOf pktIdx + 1 := by omega
      have total : s.st20FrameSize = s.rowOf pktIdx * s.st20BytesInLine + s.st20BytesInLine := by
        rw [fits.whole, rows, Nat.mul_succ, Nat.mul_comm]
      omega

theorem TvSession.Dense.tiles_of_denseFits (dense : s.Dense) (few : s.ops.lines ≤ 32768)
    (fits : DenseFits s) (trans : StFrameTrans) (seqId : Nat) : TilesFrame s trans seqId := by
  have enough := dense.total_ge
  refine tilesFrame_of_placed (fun pktIdx => min (s.st20PktLen * pktIdx) s.st20FrameSize) ?_ ?_
    (fun pktIdx inFrame => dense.placed few inFrame (fits.packetFits dense inFrame))
  · simp only [Nat.mul_zero, Nat.zero_min]
  · rw [← Nat.mul_comm s.st20BytesInLine, ← fits.whole]
    exact Nat.min_eq_right enough

/-! ## Packets of one line -/

theorem TvSession.Single.firstPixel_lt (single : s.Single)
    (low : s.pixelInPkt * (s.st20PktsInLine - 1) < 32768) (pktIdx : Nat) :
    s.firstPixel pktIdx < s.ops.width := by
  have bound := single.firstPixel_le pktIdx
  have width := single.width_pos
  have coverage := s.st20Pg.coverage_pos
  by_cases several : 2 ≤ s.st20PktsInLine
  · by_cases narrow : s.ops.width ≤ 34250
    · have starts := single.starts narrow several
      omega
    · omega
  · have one : s.st20PktsInLine - 1 = 0 := by omega
    rw [one, Nat.mul_zero] at bound
    omega

/-- Where a packet of single line mode starts among the active bytes. -/
def TvSession.singleCut (s : TvSession) (pktIdx : Nat) : Nat :=
  pktIdx / s.st20PktsInLine * s.st20BytesInLine + s.st20PktLen * (pktIdx % s.st20PktsInLine)

/-- In a line of whole pixel groups a packet ends where the next one starts. -/
theorem TvSession.Single.singleCut_succ (single : s.Single) (fits : SingleFits s) (pktIdx : Nat) :
    s.st20PktLen * (pktIdx % s.st20PktsInLine) +
          min s.st20PktLen (columnOf s.st20Pg (s.ops.width - s.firstPixel pktIdx)) ≤
        s.st20BytesInLine ∧
      s.singleCut (pktIdx + 1) = s.singleCut pktIdx +
        min s.st20PktLen (columnOf s.st20Pg (s.ops.width - s.firstPixel pktIdx)) := by
  have positive := single.pktsInLine_pos
  have enough := single.enough
  have coverage := s.st20Pg.coverage_pos
  have starts (index : Nat) := single.firstPixel_lt fits.low index
  rcases fits.whole with ⟨lineGroups, width⟩
  rcases single.pktLen_dvd with ⟨groups, pktLen⟩
  have pixels : s.pixelInPkt = s.st20Pg.coverage * groups := by
    rw [TvSession.pixelInPkt, pktLen, Nat.mul_div_cancel_left _ s.st20Pg.size_pos, Nat.mul_comm]
  have line : s.st20BytesInLine = lineGroups * s.st20Pg.size := by
    have lower := single.line_ge
    have upper := single.line_lt
    rw [width, Nat.mul_assoc] at lower upper
    apply Nat.le_antisymm
    · apply Nat.le_of_lt_succ
      apply Nat.lt_of_mul_lt_mul_left (a := s.st20Pg.coverage)
      rw [Nat.mul_succ]
      exact upper
    · exact Nat.le_of_mul_le_mul_left lower coverage
  have split := Nat.div_add_mod pktIdx s.st20PktsInLine
  have number := Nat.mod_lt pktIdx positive
  have here := starts pktIdx
  unfold TvSession.singleCut
  unfold TvSession.firstPixel at here ⊢
  generalize pktIdx / s.st20PktsInLine = row at *
  generalize pktIdx % s.st20PktsInLine = index at *
  -- What is left of the line behind the packet's first pixel, in pixel groups.
  have left : columnOf s.st20Pg (s.ops.width - s.pixelInPkt * index) =
      (lineGroups - groups * index) * s.st20Pg.size := by
    rw [columnOf, width, pixels, Nat.mul_assoc, ← Nat.mul_sub, Nat.mul_div_cancel_left _ coverage]
  have inLine : groups * index < lineGroups := by
    rw [width, pixels, Nat.mul_assoc] at here
    exact Nat.lt_of_mul_lt_mul_left here
  have rest : (lineGroups - groups * index) * s.st20Pg.size + s.st20PktLen * index =
      s.st20BytesInLine := by
    have room : groups * index * s.st20Pg.size ≤ lineGroups * s.st20Pg.size :=
      Nat.mul_le_mul_right _ (Nat.le_of_lt inLine)
    rw [line, pktLen, Nat.sub_mul]
    have same : s.st20Pg.size * groups * index = groups * index * s.st20Pg.size := by ring
    omega
  rw [left]
  by_cases last : index + 1 = s.st20PktsInLine
  · have next : pktIdx + 1 = s.st20PktsInLine * (row + 1) := by
      rw [Nat.mul_succ]
      omega
    have quotient : (pktIdx + 1) / s.st20PktsInLine = row + 1 := by
      rw [next, Nat.mul_div_cancel_left _ positive]
    have remainder : (pktIdx + 1) % s.st20PktsInLine = 0 := by
      rw [next, Nat.mul_mod_right]
    have short : (lineGroups - groups * index) * s.st20Pg.size ≤ s.st20PktLen := by
      rw [pktLen, Nat.mul_comm s.st20Pg.size]
      apply Nat.mul_le_mul_right
      rw [← last, width, pixels, ← Nat.mul_assoc, Nat.mul_comm _ s.st20Pg.coverage,
        Nat.mul_assoc] at enough
      have total := Nat.le_of_mul_le_mul_left enough coverage
      rw [Nat.succ_mul, Nat.mul_comm index] at total
      omega
    rw [quotient, remainder, Nat.mul_zero, Nat.succ_mul, Nat.min_eq_right short]
    omega
  · have next : pktIdx + 1 = s.st20PktsInLine * row + (index + 1) := by omega
    have inner : index + 1 < s.st20PktsInLine := by omega
    have quotient : (pktIdx + 1) / s.st20PktsInLine = row := by
      rw [next, Nat.mul_add_div positive, Nat.div_eq_of_lt inner, Nat.add_zero]
    have remainder : (pktIdx + 1) % s.st20PktsInLine = index + 1 := by
      rw [next, Nat.mul_add_mod, Nat.mod_eq_of_lt inner]
    have full : s.st20PktLen ≤ (lineGroups - groups * index) * s.st20Pg.size := by
      rw [pktLen, Nat.mul_comm s.st20Pg.size]
      apply Nat.mul_le_mul_right
      have after := starts (pktIdx + 1)
      rw [TvSession.firstPixel, remainder, width, pixels, Nat.mul_assoc] at after
      have total := Nat.lt_of_mul_lt_mul_left after
      rw [Nat.mul_succ] at total
      omega
    rw [quotient, remainder, Nat.min_eq_left full, Nat.mul_succ]
    omega

theorem TvSession.Single.placed (single : s.Single) (few : s.ops.lines ≤ 32768)
    (fits : SingleFits s) (inFrame : pktIdx < s.st20TotalPkts) :
    Placed s trans.addr (framePacket s trans seqId pktIdx) (s.singleCut pktIdx)
      (s.singleCut (pktIdx + 1)) := by
  have inLine := single.firstPixel_lt fits.low pktIdx
  have low := Nat.lt_of_le_of_lt (single.firstPixel_le pktIdx) fits.low
  have pixel := single.line1Offset_firstPixel (Nat.lt_trans low (by decide))
  have offset : s.line1Offset pktIdx < 32768 := by omega
  have column : columnOf s.st20Pg (s.firstPixel pktIdx) =
      s.st20PktLen * (pktIdx % s.st20PktsInLine) := single.columnOf_eq _
  have parts := single.parts_eq inFrame few low inLine trans (u32 (seqId + pktIdx : Nat))
  have payload := (tvBuildSt20_single trans (u32 (seqId + pktIdx : Nat))
    (single.hasExtra_eq pktIdx) offset).2
  rw [single.payload_eq inFrame few (by omega), single.leftLen_eq (by omega), pixel,
    column] at payload
  have ends := single.singleCut_succ fits pktIdx
  constructor
  case consecutive =>
    rw [framePacket, parts, ends.2]
    exact ⟨rfl, ends.1, rfl⟩
  case attached =>
    rw [framePacket, parts, payload, length_copyBytes]
    rfl
  case rows =>
    rw [framePacket, parts]
    intro part isPart
    rw [List.mem_singleton.mp isPart]
    exact single.row_lt inFrame
  case faithful =>
    rw [framePacket, parts]
    intro part isPart
    rw [List.mem_singleton.mp isPart]

theorem TvSession.Single.tiles_of_singleFits (single : s.Single) (few : s.ops.lines ≤ 32768)
    (fits : SingleFits s) (trans : StFrameTrans) (seqId : Nat) : TilesFrame s trans seqId := by
  refine tilesFrame_of_placed s.singleCut ?_ ?_
    (fun pktIdx inFrame => single.placed few fits inFrame)
  · rw [TvSession.singleCut, Nat.zero_div, Nat.zero_mod, Nat.zero_mul, Nat.mul_zero]
  · rw [TvSession.singleCut, single.total_eq, Nat.mul_div_cancel _ single.pktsInLine_pos,
      Nat.mul_mod_left, Nat.mul_zero, Nat.add_zero]

theorem TvSession.Single.low_of_tiles (single : s.Single) (tiles : TilesFrame s trans seqId) :
    s.pixelInPkt * (s.st20PktsInLine - 1) < 32768 := by
  by_contra high
  have coverage := s.st20Pg.coverage_pos
  have group := s.st20Pg.size_le
  have groupLe := s.st20Pg.coverage_le
  have short := single.pktLen_le
  have pixelLe := single.pixelInPkt_le
  have pixelPos : 0 < s.pixelInPkt := by
    by_contra zero
    rw [Nat.eq_zero_of_not_pos zero, Nat.zero_mul] at high
    omega
  have spec := ceilDiv_spec 32768 pixelPos
  generalize ceilDiv 32768 s.pixelInPkt = index at spec
  have inLine : index ≤ s.st20PktsInLine - 1 := by
    by_contra beyond
    have further : s.pixelInPkt * (s.st20PktsInLine - 1 + 1) ≤ s.pixelInPkt * index :=
      Nat.mul_le_mul_left _ (by omega)
    rw [Nat.mul_succ] at further
    omega
  have several : 2 ≤ s.st20PktsInLine := by
    by_contra one
    have zero : s.st20PktsInLine - 1 = 0 := by omega
    rw [zero, Nat.mul_zero] at high
    omega
  have inFrame : index < s.st20TotalPkts := by
    have lines := Nat.le_mul_of_pos_left s.st20PktsInLine single.lines_pos
    rw [single.total_eq]
    omega
  have pixel : s.firstPixel index = s.pixelInPkt * index := by
    rw [TvSession.firstPixel, Nat.mod_eq_of_lt (by omega)]
  have room : s.firstPixel index + s.st20Pg.coverage ≤ s.ops.width := by
    by_cases narrow : s.ops.width ≤ 34250
    · have starts := single.starts narrow several
      have bound := single.firstPixel_le index
      omega
    · omega
  have left : s.st20Pg.size ≤ columnOf s.st20Pg (s.ops.width - s.firstPixel index) :=
    Nat.le_mul_of_pos_left _ (Nat.div_pos (by omega) coverage)
  have offset := single.line1Offset_firstPixel (show s.firstPixel index < 65536 by omega)
  have nonempty : 0 < s.leftLen index := by
    have size := s.st20Pg.size_pos
    have long := single.pktLen_pos
    rw [single.leftLen_eq (by omega), offset]
    omega
  have low := tiles.offset_low inFrame (single.hasExtra_eq index) nonempty
  omega

theorem TvSession.Single.whole_of_tiles (single : s.Single) (tiles : TilesFrame s trans seqId)
    (low : s.pixelInPkt * (s.st20PktsInLine - 1) < 32768) : s.st20Pg.coverage ∣ s.ops.width := by
  have few := tiles.lines_le single.toLines
  have line := single.bytesInLine_pos
  rcases tiles.exists_part single.lines_pos (show s.st20BytesInLine - 1 < s.st20BytesInLine by omega)
    with ⟨pktIdx, part, inFrame, isPart, _, _, upper⟩
  have inLine := single.firstPixel_lt low pktIdx
  have first := Nat.lt_of_le_of_lt (single.firstPixel_le pktIdx) low
  rw [framePacket, single.parts_eq inFrame few first inLine, List.mem_singleton] at isPart
  subst isPart
  simp only at upper
  -- Up to the end of the segment there are only whole pixel groups.
  have column : s.st20PktLen * (pktIdx % s.st20PktsInLine) = columnOf s.st20Pg (s.firstPixel pktIdx) :=
    (single.columnOf_eq _).symm
  have groups : s.st20Pg.coverage ∣ s.firstPixel pktIdx :=
    Dvd.dvd.mul_right (Nat.dvd_mul_left _ _) _
  have ends : s.st20BytesInLine ≤ columnOf s.st20Pg s.ops.width := by
    have join : columnOf s.st20Pg (s.firstPixel pktIdx) +
        columnOf s.st20Pg (s.ops.width - s.firstPixel pktIdx) = columnOf s.st20Pg s.ops.width := by
      rw [columnOf, columnOf, ← Nat.add_mul, ← Nat.add_div_of_dvd_right groups]
      rw [Nat.add_sub_cancel' (Nat.le_of_lt inLine)]
      rfl
    omega
  have pixels := Nat.div_add_mod s.ops.width s.st20Pg.coverage
  have lineGe := single.line_ge
  by_contra partialGroup
  have whole : s.st20Pg.coverage * columnOf s.st20Pg s.ops.width =
      s.st20Pg.coverage * (s.ops.width / s.st20Pg.coverage) * s.st20Pg.size := by
    rw [columnOf, Nat.mul_assoc]
  have less : s.st20Pg.coverage * (s.ops.width / s.st20Pg.coverage) * s.st20Pg.size <
      s.ops.width * s.st20Pg.size := Nat.mul_lt_mul_of_pos_right (by omega) s.st20Pg.size_pos
  have bytes := Nat.mul_le_mul_left s.st20Pg.coverage ends
  omega

/-! ## The geometries that are tiled -/

theorem TvSession.Dense.tileable_iff (dense : s.Dense) :
    (forall trans seqId, TilesFrame s trans seqId) ↔ s.Tileable := by
  rw [TvSession.Tileable, dense.several, if_neg (by decide)]
  constructor
  · intro tiles
    exact ⟨(tiles ⟨fun _ => 0, false, 0⟩ 0).lines_le dense.toLines, dense.denseFits_of_tiles tiles⟩
  · rintro ⟨few, fits⟩ trans seqId
    exact dense.tiles_of_denseFits few fits trans seqId

theorem TvSession.Single.tileable_iff (single : s.Single) :
    (forall trans seqId, TilesFrame s trans seqId) ↔ s.Tileable := by
  rw [TvSession.Tileable, single.single, if_pos rfl]
  constructor
  · intro tiles
    have tiled := tiles ⟨fun _ => 0, false, 0⟩ 0
    have low := single.low_of_tiles tiled
    exact ⟨tiled.lines_le single.toLines, single.whole_of_tiles tiled low, low⟩
  · rintro ⟨few, fits⟩ trans seqId
    exact single.tiles_of_singleFits few fits trans seqId

/-- The packets of every frame of an accepted session tile it exactly for the
tileable geometries. -/
theorem frame_tiled_iff {user : Nat} {ops : St20TxOps} {s : TvSession}
    (accepted : tvAttach (pktUdpSuggestMaxSize user) ops = .ok s) (representable : s.Representable) :
    (forall trans seqId, TilesFrame s trans seqId) ↔ s.Tileable := by
  rcases tvAttach_ok accepted with ⟨rfl, plan, attached⟩
  cases packing : s.ops.packing with
  | gpm => exact (attached.dense_gpm representable packing).tileable_iff
  | bpm => exact (attached.dense_bpm representable packing).tileable_iff
  | gpmSl => exact (attached.single_gpmSl representable packing).tileable_iff

theorem frame_tiled_hd : hdSession.Tileable ∧
    TilesFrame hdSession ⟨fun place => BitVec.ofNat 8 place, true, 90000⟩ 4294967295 := by
  have accepted : tvAttach (pktUdpSuggestMaxSize 0) hdOps = .ok hdSession := rfl
  have tileable : hdSession.Tileable := by
    refine ⟨by decide, ?_⟩
    rw [if_neg (by decide)]
    constructor
    case whole => rfl
    case aligned =>
      intro pktIdx _
      exact Nat.dvd_of_mod_eq_zero (show 1320 * pktIdx % 4800 % 5 = 0 by omega)
    case low =>
      intro pktIdx _
      show 1320 * pktIdx % 4800 * 2 / 5 < 32768
      omega
    case twoLines =>
      intro pktIdx _
      show 1320 * pktIdx % 4800 + 1320 ≤ 2 * 4800
      omega
    case lastLine => decide
  exact ⟨tileable, (frame_tiled_iff accepted
    ⟨by decide, by decide, by decide, by decide⟩).mpr tileable _ _⟩

/-- The second packet announces 1040 bytes of a line that has 800. -/
theorem short_lines_not_tiled : tvAttach (pktUdpSuggestMaxSize 0) qvgaOps = .ok qvgaSession ∧
    ¬ forall trans seqId, TilesFrame qvgaSession trans seqId := by
  refine ⟨rfl, fun tiles => ?_⟩
  have segments : ((framePacket qvgaSession ⟨fun _ => 0, false, 0⟩ 0 1).parts
      qvgaSession.st20Pg).map LinePart.segment = [⟨1, 520, 280⟩, ⟨2, 0, 1040⟩] := by
    decide +kernel
  have member : (⟨2, 0, 1040⟩ : Segment) ∈ ((framePacket qvgaSession ⟨fun _ => 0, false, 0⟩ 0 1).parts
      qvgaSession.st20Pg).map LinePart.segment := by
    rw [segments]
    exact List.mem_cons_of_mem _ List.mem_cons_self
  rcases List.mem_map.mp member with ⟨part, isPart, same⟩
  have inside := (tiles ⟨fun _ => 0, false, 0⟩ 0).inside _
    (mem_tvFramePackets.mpr ⟨1, by decide, rfl⟩) part isPart
  rw [same] at inside
  exact absurd inside.2 (by decide)

end MediaTransport.Video
