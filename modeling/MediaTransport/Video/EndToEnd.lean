import MediaTransport.Video.FirstPktIdx
import MediaTransport.Video.Reassembly
import MediaTransport.Video.WriteBounds

namespace MediaTransport.Video

open Library

/-!
# From the sender's frame to the receiver's

A packet carries the bytes of a frame from one cut to the next, and the receiver
puts each of them to the place of the line that it was taken from, also where
the two buffers pad their lines differently.
-/

variable {s : TvSession} {cfg : RvConfig} {pkt : Rfc4175Packet} {addr : Nat -> Byte} {first last : Nat}

/-! ## One packet -/

def Rfc4175Packet.placement (cfg : RvConfig) (pkt : Rfc4175Packet) : RvPlacement :=
  { offset := rvOffset cfg (rvReadLine pkt)
    payloadLength := (rvReadLine pkt).line1Length + (rvReadLine pkt).line2Length }

def Rfc4175Packet.segments (pg : St20Pgroup) (pkt : Rfc4175Packet) : List Segment :=
  (pkt.parts pg).map LinePart.segment

/-- The receiver takes the packet and stores each of its segments at its own cells. -/
structure Carried (s : TvSession) (cfg : RvConfig) (addr : Nat -> Byte) (pkt : Rfc4175Packet)
    (first last : Nat) : Prop where
  consecutive : Consecutive s.st20BytesInLine first (pkt.segments s.st20Pg) last
  placed : rvPlace cfg (rvReadLine pkt) = .ok (pkt.placement cfg)
  plain : (rvReadLine pkt).userMeta = false
  size : first + (pkt.placement cfg).payloadLength = last
  places : rvPlaces cfg (rvReadLine pkt) (pkt.placement cfg) =
    (pkt.segments s.st20Pg).flatMap fun segment => copyBytes id (segment.start cfg.st20Linesize) segment.length
  copy : forall content, rvCopy cfg (rvReadLine pkt) (pkt.placement cfg) content =
    (pkt.segments s.st20Pg).foldl (fun content segment =>
      store content (segment.start cfg.st20Linesize)
        (copyBytes addr (segment.start s.st20Linesize) segment.length)) content

/-- The receiver's frame has the lines and bytes of the sender's, and it copies the payloads. -/
structure SharedFrame (s : TvSession) (cfg : RvConfig) : Prop extends SharedLine s cfg where
  height : s.ops.lines ≤ cfg.ops.height
  fbSize : cfg.st20FbSize = cfg.st20Linesize * s.ops.lines
  frameSize : cfg.st20FrameSize = s.ops.lines * s.st20BytesInLine
  byCopy : cfg.ops.uframeSize = 0

/-- What the receiver reads of the first segment of a packet. -/
structure ReadsFirst (cfg : RvConfig) (pkt : Rfc4175Packet) (one : Segment) : Prop where
  number : (rvReadLine pkt).line1Number = one.row
  length : (rvReadLine pkt).line1Length = one.length
  offset : rvOffset cfg (rvReadLine pkt) = one.start cfg.st20Linesize
  plain : (rvReadLine pkt).userMeta = false

theorem SharedLine.readsFirst (shared : SharedLine s cfg) {one : Segment}
    (announced : headerSegment s.st20Pg pkt.rowNumber pkt.rowOffset pkt.rowLength = one)
    (short : one.length < 16384) (inFrame : one.row < s.ops.lines) (inLine : one.column < s.st20BytesInLine) :
    ReadsFirst cfg pkt one := by
  subst announced
  rcases rvReadLine_short short with ⟨length, plain, -⟩
  exact ⟨rfl, length, shared.rvOffset_eq rfl inFrame rfl inLine, plain⟩

section

variable (placed : Placed s addr pkt first last) (some : first < last) (short : last < first + 16384)
  (shared : SharedFrame s cfg)

include placed some short shared

theorem Placed.carried_one (extra : pkt.extraRtp = none) : Carried s cfg addr pkt first last := by
  rcases placed with ⟨consecutive, attached, rows, faithful⟩
  have wide := shared.linesize_ge
  have buffer := shared.buffer_lt
  have sum := consecutive
  have segments : pkt.segments s.st20Pg = (pkt.parts s.st20Pg).map LinePart.segment := rfl
  unfold Rfc4175Packet.parts at sum attached faithful rows segments
  generalize announced : headerSegment s.st20Pg pkt.rowNumber pkt.rowOffset pkt.rowLength = one
    at sum attached faithful rows segments
  have rowLength : one.length = pkt.rowLength := announced ▸ rfl
  simp only [extra, List.map_cons, List.map_nil, List.sum_cons, List.sum_nil, List.mem_singleton,
    forall_eq, Nat.add_zero, Consecutive] at sum attached faithful rows segments
  rcases sum with ⟨begins, fits, ends⟩
  have read := shared.readsFirst announced (by omega) rows (by omega)
  have bytes : (rvReadLine pkt).payload = copyBytes addr (one.start s.st20Linesize) one.length := by
    rw [List.take_of_length_le (by omega)] at faithful
    exact faithful
  have line2Length : (rvReadLine pkt).line2Length = 0 := by simp only [RvLine.line2Length, rvReadLine, extra]
  have crosses : (rvReadLine pkt).crosses cfg = false := by simp [RvLine.crosses, rvReadLine, extra]
  have below : (one.row + 1) * cfg.st20Linesize ≤ s.ops.lines * cfg.st20Linesize := Nat.mul_le_mul_right _ rows
  rw [Nat.succ_mul, Nat.mul_comm s.ops.lines] at below
  have placement : pkt.placement cfg = ⟨one.start cfg.st20Linesize, one.length⟩ := by
    rw [Rfc4175Packet.placement, read.offset, read.length, line2Length]
    rfl
  refine ⟨consecutive, rvPlace_of_checks ?_ (fun crossed => ?_) ?_ ?_, read.plain, ?_, ?_, fun content => ?_⟩
  · rw [read.offset, read.length, line2Length, shared.fbSize, shared.bytesInLine, word64_eq, Segment.start]
    omega
  · rw [crosses] at crossed
    cases crossed
  · rw [read.length]
    omega
  · rw [read.length, line2Length]
    exact attached.symm
  · rw [placement]
    exact ends
  · rw [rvPlaces, crosses, if_neg (by decide), placement, segments, List.flatMap_singleton]
  · rw [rvCopy, if_neg (not_not_intro shared.byCopy), crosses, if_neg (by decide), placement, segments, bytes]
    rfl

theorem Placed.carried_two {head : Rfc4175ExtraHdr} (extra : pkt.extraRtp = Option.some head)
    (next : forall one two, pkt.parts s.st20Pg = [one, two] -> one.segment.column < s.st20BytesInLine ∧
      two.segment.row = one.segment.row + 1 ∧ two.segment.column = 0) :
    Carried s cfg addr pkt first last := by
  rcases placed with ⟨consecutive, attached, rows, faithful⟩
  have wide := shared.linesize_ge
  have buffer := shared.buffer_lt
  have sum := consecutive
  have segments : pkt.segments s.st20Pg = (pkt.parts s.st20Pg).map LinePart.segment := rfl
  unfold Rfc4175Packet.parts at sum attached faithful rows next segments
  generalize announced : headerSegment s.st20Pg pkt.rowNumber pkt.rowOffset pkt.rowLength = one
    at sum attached faithful rows next segments
  simp only [extra] at next
  generalize two_eq : headerSegment s.st20Pg head.rowNumber head.rowOffset head.rowLength = two at next
  have rowLength : one.length = pkt.rowLength := announced ▸ rfl
  have rowLength2 : two.length = head.rowLength := two_eq ▸ rfl
  simp only [extra, two_eq, List.map_cons, List.map_nil, List.sum_cons, List.sum_nil, List.mem_cons,
    List.not_mem_nil, or_false, forall_eq_or_imp, forall_eq, Nat.add_zero, Consecutive]
    at sum attached faithful rows segments
  rcases sum with ⟨begins, fits, starts, fits', ends⟩
  rcases next _ _ rfl with ⟨inLine, row, starting⟩
  dsimp only at inLine row starting
  have read := shared.readsFirst announced (by omega) rows.1 inLine
  have bytes : (rvReadLine pkt).payload = copyBytes addr (one.start s.st20Linesize) one.length ++
      copyBytes addr (two.start s.st20Linesize) two.length := by
    have behind := faithful.2
    rw [List.take_of_length_le (by rw [List.length_drop]; omega)] at behind
    rw [← (show _ = copyBytes addr (one.start _) _ from faithful.1),
      ← (show _ = copyBytes addr (two.start _) _ from behind)]
    exact (List.take_append_drop pkt.rowLength pkt.payload).symm
  have line2Length : (rvReadLine pkt).line2Length = two.length := by
    simp only [RvLine.line2Length, rvReadLine, extra, rowLength2]
  have crosses : (rvReadLine pkt).crosses cfg = decide (s.st20BytesInLine < cfg.st20Linesize) := by
    simp [RvLine.crosses, rvReadLine, extra, shared.bytesInLine]
  have below : (one.row + 2) * cfg.st20Linesize ≤ s.ops.lines * cfg.st20Linesize :=
    Nat.mul_le_mul_right _ (by omega)
  -- the first segment ends with its line, and the second one starts the line after it
  have line : one.column + one.length = s.st20BytesInLine := by
    unfold Segment.start at begins starts
    rw [row, starting, Nat.succ_mul] at starts
    omega
  have following : two.start cfg.st20Linesize = (one.row + 1) * cfg.st20Linesize := by
    rw [Segment.start, row, starting, Nat.add_zero]
  have placement : pkt.placement cfg = ⟨one.start cfg.st20Linesize, one.length + two.length⟩ := by
    rw [Rfc4175Packet.placement, read.offset, read.length, line2Length]
  have after := Nat.add_one_mul one.row cfg.st20Linesize
  rw [Nat.mul_comm s.ops.lines, Nat.add_mul, Nat.two_mul] at below
  refine ⟨consecutive, rvPlace_of_checks ?_ (fun _ => ?_) ?_ ?_, read.plain, ?_, ?_, fun content => ?_⟩
  · rw [read.offset, read.length, line2Length, shared.fbSize, shared.bytesInLine, word64_eq, Segment.start]
    omega
  · have height := shared.height
    rw [read.number, line2Length, shared.fbSize, word64_eq]
    omega
  · rw [read.length]
    omega
  · rw [read.length, line2Length]
    exact attached.symm
  · rw [placement]
    dsimp only
    omega
  · rw [rvPlaces, crosses, placement, segments, read.number, read.length, List.flatMap_cons,
      List.flatMap_singleton, following]
    by_cases wider : s.st20BytesInLine < cfg.st20Linesize
    · rw [if_pos (decide_eq_true wider), Nat.add_sub_cancel_left]
    · rw [if_neg (by simpa using wider), ← copyBytes_append]
      dsimp only [Segment.start]
      congr 2
      omega
  · rw [rvCopy, if_neg (not_not_intro shared.byCopy), crosses, placement, segments, read.number, read.length,
      bytes, List.foldl_cons, List.foldl_cons, List.foldl_nil, following]
    by_cases wider : s.st20BytesInLine < cfg.st20Linesize
    · rw [if_pos (decide_eq_true wider), List.take_left' (length_copyBytes _ _ _),
        List.drop_left' (length_copyBytes _ _ _)]
    · rw [if_neg (by simpa using wider), store_append, length_copyBytes]
      congr 1
      dsimp only [Segment.start]
      omega

end

/-- A second segment of a packet has to start the line behind the first one. -/
theorem Placed.carried (placed : Placed s addr pkt first last) (some : first < last)
    (short : last < first + 16384)
    (next : forall one two, pkt.parts s.st20Pg = [one, two] -> one.segment.column < s.st20BytesInLine ∧
      two.segment.row = one.segment.row + 1 ∧ two.segment.column = 0)
    (shared : SharedFrame s cfg) : Carried s cfg addr pkt first last := by
  cases extra : pkt.extraRtp with
  | none => exact placed.carried_one some short shared extra
  | some head => exact placed.carried_two some short shared extra next

/-! ## All packets of a frame -/

def sentStream (s : TvSession) (cfg : RvConfig) (trans : StFrameTrans) (seqId : Nat) : FrameStream where
  count := s.st20TotalPkts
  tmstamp := trans.rtpTimeStamp
  base := seqId
  packets index := ⟨framePacket s trans seqId index, false⟩
  place index := (framePacket s trans seqId index).placement cfg

/-- The receiver takes every packet of the frame, which carries the bytes from its cut to the next one. -/
structure FrameCarried (s : TvSession) (cfg : RvConfig) (trans : StFrameTrans) (seqId : Nat) (cut : Nat -> Nat) :
    Prop where
  packets : ∀ index < s.st20TotalPkts,
    Carried s cfg trans.addr (framePacket s trans seqId index) (cut index) (cut (index + 1))
  begins : cut 0 = 0
  stops : cut s.st20TotalPkts = s.ops.lines * s.st20BytesInLine

variable {trans : StFrameTrans} {seqId : Nat} {cut : Nat -> Nat}

theorem FrameCarried.mono (carried : FrameCarried s cfg trans seqId cut) {index later : Nat}
    (order : index ≤ later) (inFrame : later ≤ s.st20TotalPkts) : cut index ≤ cut later := by
  induction later, order using Nat.le_induction with
  | base => exact Nat.le_refl _
  | succ later _ ih => exact Nat.le_trans (ih (by omega)) (carried.packets later inFrame).consecutive.le

/-- A place of a packet is one of the cells between the packet's cuts. -/
theorem Carried.cell (carried : Carried s cfg addr pkt first last) (wide : s.st20BytesInLine ≤ cfg.st20Linesize)
    {position : Nat} (stored : position ∈ rvPlaces cfg (rvReadLine pkt) (pkt.placement cfg)) :
    first ≤ position / cfg.st20Linesize * s.st20BytesInLine + position % cfg.st20Linesize ∧
      position / cfg.st20Linesize * s.st20BytesInLine + position % cfg.st20Linesize < last := by
  rw [carried.places] at stored
  rcases List.mem_flatMap.mp stored with ⟨segment, member, inside⟩
  rw [mem_copyBytes_id, Segment.start] at inside
  have fits := carried.consecutive.fits member
  have column : segment.row * cfg.st20Linesize + (position - segment.row * cfg.st20Linesize) = position := by omega
  have inLine : position - segment.row * cfg.st20Linesize < s.st20BytesInLine := by omega
  have grid := @gridPosition_inside _ cfg.st20Linesize segment.row (Nat.lt_of_lt_of_le inLine wide)
  rw [column, gridPosition, Prod.mk.injEq] at grid
  rw [grid.1, grid.2]
  refine carried.consecutive.cover member inLine ((Segment.covers_iff _ _ _).mpr ⟨rfl, ?_, ?_⟩) <;> omega

theorem FrameCarried.tiles (carried : FrameCarried s cfg trans seqId cut) (shared : SharedFrame s cfg)
    (few : s.st20TotalPkts ≤ cfg.st20FrameBitmapSize * 8)
    (accepted : ∀ index < s.st20TotalPkts, rvHeaderCheck cfg ⟨framePacket s trans seqId index, false⟩ = none) :
    (sentStream s cfg trans seqId).Tiles cfg where
  few := few
  accepted := accepted
  tmstamp_eq _ _ := rfl
  seqId index _ := tvBuildSt20_seqId s trans index (u32_lt _)
  plain index bound := (carried.packets index bound).plain
  placed index bound := (carried.packets index bound).placed
  disjoint one two oneBound twoBound differ position here there := by
    have early := (carried.packets one oneBound).cell shared.linesize_ge here
    have late := (carried.packets two twoBound).cell shared.linesize_ge there
    rcases Nat.lt_or_gt_of_ne differ with before | behind
    · have order : cut (one + 1) ≤ cut two := carried.mono before (Nat.le_of_lt twoBound)
      omega
    · have order : cut (two + 1) ≤ cut one := carried.mono behind (Nat.le_of_lt oneBound)
      omega
  total := by
    have sums : forall count, count ≤ s.st20TotalPkts ->
        ((List.range count).map (sentStream s cfg trans seqId).size).sum = cut count := by
      intro count
      induction count with
      | zero => exact fun _ => carried.begins.symm
      | succ count ih =>
        intro bound
        rw [List.range_succ, List.map_append, List.sum_append, ih (by omega), List.map_singleton,
          List.sum_singleton]
        exact (carried.packets count bound).size
    exact ((sums _ (Nat.le_refl _)).trans carried.stops).trans shared.frameSize.symm

/-- The packets, in their order, put each byte of the frame to its own cell. -/
theorem FrameCarried.assembled (carried : FrameCarried s cfg trans seqId cut)
    (wide : s.st20BytesInLine ≤ cfg.st20Linesize) (initial : Nat -> Byte) {row column : Nat}
    (inFrame : row < s.ops.lines) (inLine : column < s.st20BytesInLine) :
    (sentStream s cfg trans seqId).assemble cfg (List.range s.st20TotalPkts) initial
      (row * cfg.st20Linesize + column) = trans.addr (row * s.st20Linesize + column) := by
  have chain := consecutive_flatMap_range cut _ _ (fun index bound => (carried.packets index bound).consecutive)
  have rows : (row + 1) * s.st20BytesInLine ≤ s.ops.lines * s.st20BytesInLine := Nat.mul_le_mul_right _ inFrame
  have filled := chain.foldl_store wide (fun row column => trans.addr (row * s.st20Linesize + column)) initial
    row inLine
  rw [Nat.succ_mul] at rows
  rw [carried.begins, carried.stops, if_pos (by omega), List.foldl_flatMap] at filled
  rw [← filled, FrameStream.assemble]
  refine congrFun (List.foldl_ext _ _ _ fun content index member => ?_) _
  have copied := (carried.packets index (List.mem_range.mp member)).copy content
  simp only [copyBytes, Segment.start, Nat.add_assoc] at copied ⊢
  exact copied

/-! ## The frames of a sender -/

theorem DenseFits.frameCarried (fits : DenseFits s) (dense : s.Dense) (few : s.ops.lines ≤ 32768)
    (shared : SharedFrame s cfg) (trans : StFrameTrans) (seqId : Nat) :
    FrameCarried s cfg trans seqId fun index => min (s.st20PktLen * index) s.st20FrameSize where
  packets index inFrame := by
    have packet := fits.packetFits dense inFrame
    have below := dense.below index inFrame
    have positive := dense.pktLen_pos
    have length := dense.pktLen_le
    have column := dense.columnIn_lt index
    rcases dense.announcedColumn_eq inFrame packet with ⟨low, announced⟩
    have after : s.st20PktLen * (index + 1) = s.st20PktLen * index + s.st20PktLen := Nat.mul_succ _ _
    refine (dense.placed few inFrame packet).carried (by omega) (by omega) (fun one two both => ?_) shared
    cases extra : s.hasExtra index with
    | true =>
      rw [framePacket, dense.parts_extra inFrame few extra, announced] at both
      cases both
      exact ⟨column, rfl, rfl⟩
    | false =>
      rw [framePacket, dense.parts_single inFrame few extra low] at both
      cases both
  begins := by simp only [Nat.mul_zero, Nat.zero_min]
  stops := by rw [Nat.min_eq_right dense.total_ge, fits.whole, Nat.mul_comm]

theorem SingleFits.frameCarried (fits : SingleFits s) (single : s.Single) (few : s.ops.lines ≤ 32768)
    (shared : SharedFrame s cfg) (trans : StFrameTrans) (seqId : Nat) :
    FrameCarried s cfg trans seqId s.singleCut where
  packets index inFrame := by
    have inLine := single.firstPixel_lt fits.low index
    have length := single.pktLen_le
    have groups : s.st20Pg.coverage ∣ s.ops.width - s.firstPixel index :=
      Nat.dvd_sub fits.whole (Dvd.dvd.mul_right (Nat.dvd_mul_left _ _) _)
    have positive : 0 < min s.st20PktLen (columnOf s.st20Pg (s.ops.width - s.firstPixel index)) :=
      Nat.lt_min.mpr ⟨single.pktLen_pos, Nat.mul_pos (Nat.div_pos (Nat.le_of_dvd (by omega) groups)
        s.st20Pg.coverage_pos) s.st20Pg.size_pos⟩
    have after := (single.singleCut_succ fits index).2
    refine (single.placed few fits inFrame).carried (by omega) (by omega) (fun one two both => ?_) shared
    rw [framePacket, single.parts_eq inFrame few (Nat.lt_of_le_of_lt (single.firstPixel_le index) fits.low)
      inLine] at both
    cases both
  begins := by rw [TvSession.singleCut, Nat.zero_div, Nat.zero_mod, Nat.zero_mul, Nat.mul_zero]
  stops := by
    rw [TvSession.singleCut, single.total_eq, Nat.mul_div_cancel _ single.pktsInLine_pos, Nat.mul_mod_left,
      Nat.mul_zero, Nat.add_zero]

/-- When all packets of a frame of a tileable session have come, in any order and any number of times, a
receiver that shares the frame and takes its packets has announced it exactly once, as a whole frame that has
every byte of the sender's at the same place of the same line. -/
theorem frame_carried {user metaSize : Nat} {txOps : St20TxOps} {rxOps : St20RxOps} {s : TvSession}
    {rx : RvSession} (sender : tvAttach (pktUdpSuggestMaxSize user) txOps = .ok s)
    (representable : s.Representable) (tileable : s.Tileable)
    (receiver : rvAttach metaSize rxOps none = .ok rx.cfg) (shared : SharedFrame s rx.cfg)
    (few : s.st20TotalPkts ≤ rx.cfg.st20FrameBitmapSize * 8) {trans : StFrameTrans} {seqId : Nat}
    (accepted : ∀ index < s.st20TotalPkts,
      rvHeaderCheck rx.cfg ⟨framePacket s trans seqId index, false⟩ = none)
    {first : Arrival} {rest : List Arrival} (ready : Ready first.env rx trans.rtpTimeStamp)
    (control : first.ctrlThread = true)
    (derived : rvFirstPktIdx rx.cfg (rvReadLine (framePacket s trans seqId first.index))
      ((framePacket s trans seqId first.index).placement rx.cfg) = first.index)
    (members : ∀ arrival ∈ first :: rest, arrival.index < s.st20TotalPkts)
    (all : ∀ index < s.st20TotalPkts, index ∈ (first :: rest).map Arrival.index) :
    let final := run (sentStream s rx.cfg trans seqId).receive ⟨rx, []⟩ (first :: rest)
    exists delivery, deliveriesAt trans.rtpTimeStamp final.events = [delivery] ∧
      (delivery.info.status = .complete ∨ delivery.info.status = .reconstructed) ∧
      forall row column, row < s.ops.lines -> column < s.st20BytesInLine ->
        delivery.content (row * rx.cfg.st20Linesize + column) = trans.addr (row * s.st20Linesize + column) := by
  rcases tvAttach_ok sender with ⟨rfl, plan, attached⟩
  rcases rvAttach_bounds receiver with ⟨narrow, some_slots⟩
  have ⟨cut, carried⟩ : exists cut, FrameCarried s rx.cfg trans seqId cut := by
    rcases tileable with ⟨lines, fits⟩
    have several (dense : s.Dense) : exists cut, FrameCarried s rx.cfg trans seqId cut := by
      rw [dense.several, if_neg (by decide)] at fits
      exact ⟨_, fits.frameCarried dense lines shared trans seqId⟩
    cases packing : s.ops.packing with
    | gpm => exact several (attached.dense_gpm representable packing)
    | bpm => exact several (attached.dense_bpm representable packing)
    | gpmSl =>
      have single := attached.single_gpmSl representable packing
      rw [if_pos single.single] at fits
      exact ⟨_, fits.frameCarried single lines shared trans seqId⟩
  have tiles := carried.tiles shared few accepted
  rcases Progress.first tiles narrow some_slots ready (members first List.mem_cons_self) control derived with
    ⟨slotIdx, frame, initial, -, begun⟩
  rcases begun.run tiles narrow (List.cons_ne_nil _ _) rest members with
    ⟨got, -, same, collecting | ⟨finished, -⟩⟩
  · -- a slot that has all packets is not short of any byte
    have within : List.range s.st20TotalPkts ⊆ got := fun index member =>
      (same index).mpr (all index (List.mem_range.mp member))
    rcases List.subperm_of_subset List.nodup_range within with ⟨part, perm, sublist⟩
    have sum := (sublist.map (sentStream s rx.cfg trans seqId).size).sum_le_sum fun _ _ => Nat.zero_le _
    rw [(perm.map _).sum_eq] at sum
    exact absurd (tiles.total ▸ sum) (Nat.not_le.mpr collecting.short)
  · rcases finished.delivered with ⟨info, ret, delivered, -, status⟩
    exact ⟨_, delivered, status, fun row column inFrame inLine =>
      carried.assembled shared.linesize_ge initial inFrame inLine⟩

def tinySession : TvSession :=
  { ops := { hdOps with width := 2, height := 4, packing := .gpmSl }, st20Pg := st20GetPgroup .yuv422Bit10
    st20Linesize := 5, st20BytesInLine := 5, st20FrameSize := 20, st20FbSize := 20, st20PktsInLine := 1
    st20PktLen := 5, st20PktSize := 67, st20TotalPkts := 4 }

theorem frame_carried_tiny :
    let trans : StFrameTrans := ⟨fun place => BitVec.ofNat 8 place, false, 90000⟩
    let final := run (sentStream tinySession tinyConfig trans 4294967294).receive ⟨rvInit tinyConfig, []⟩
      (⟨2, .p, true, takesAll⟩ :: tinyArrivals)
    exists delivery, deliveriesAt 90000 final.events = [delivery] ∧ delivery.content 13 = 13 := by
  have carried := @frame_carried 0 1024 tinySession.ops tinyRxOps tinySession (rvInit tinyConfig) rfl
    ⟨by decide, by decide, by decide, by decide⟩ ⟨by decide, ⟨by decide, by decide⟩⟩ rfl
    ⟨⟨rfl, rfl, by decide, by decide⟩, by decide, rfl, rfl, rfl⟩ (by decide)
    ⟨fun place => BitVec.ofNat 8 place, false, 90000⟩ 4294967294 (by decide +kernel)
    ⟨2, .p, true, takesAll⟩ tinyArrivals ⟨by decide, by decide, ⟨0, by decide, by decide⟩, fun _ => rfl⟩ rfl
    (by decide +kernel) (by decide) (by decide)
  rcases carried with ⟨delivery, delivered, -, content⟩
  exact ⟨delivery, delivered, content 2 3 (by decide) (by decide)⟩

end MediaTransport.Video
