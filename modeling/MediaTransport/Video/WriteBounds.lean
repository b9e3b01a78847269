import MediaTransport.Video.DmaPacket
import MediaTransport.Video.Reassembly
import MediaTransport.Video.St22Packet

namespace MediaTransport.Video

open Library Util

/-!
# Where a packet can write

Row numbers, offsets and lengths come from the wire.  Two checks keep the
payload inside the frame buffer: one of the whole payload against the end of
the last line, in which a line's padding is subtracted, and one of the second
piece of a payload that continues in the next line.  Both subtract sizes that
may be too large for it, and in some session formats a packet passes them and
writes behind the buffer.
-/

variable {cfg : RvConfig} {ctrlThread : Bool} {line : RvLine} {mbuf : RvMbuf} {ops : St20RxOps}
    {place : RvPlacement} {port : MtlSessionPort} {position row : Nat} {slot : RvSlot}

/-! ## The places that are written -/

/-- Header fields of sixteen bits. -/
structure Rfc4175Packet.OnWire (pkt : Rfc4175Packet) : Prop where
  rowNumber : pkt.rowNumber < 65536
  rowOffset : pkt.rowOffset < 65536
  rowLength : pkt.rowLength < 65536

/-- The places that a payload is written to, by the processor or by the DMA
device.  In user frame mode the application gets the payload instead. -/
def rvWritten (cfg : RvConfig) (line : RvLine) (place : RvPlacement) : List Nat :=
  if cfg.ops.uframeSize ≠ 0 then [] else rvPlaces cfg line place

/-- The places in the slot's frame that `rv_handle_frame_pkt` writes for a
packet. -/
def rvFrameWrites (cfg : RvConfig) (slot : RvSlot) (mbuf : RvMbuf) (port : MtlSessionPort)
    (ctrlThread : Bool) : List Nat :=
  let line := rvReadLine mbuf.pkt
  if (rvHeaderCheck cfg mbuf).isSome || line.userMeta then
    []
  else
    match rvPlace cfg line with
    | .error _ => []
    | .ok place =>
      match rvIndex cfg slot line place mbuf.pkt.seqId port ctrlThread with
      | .fresh _ _ _ => rvWritten cfg line place
      | _ => []

/-- The places in the slot's frame that `rv_handle_st22_pkt` writes for a
piece. -/
def RvSt22Piece.places (piece : RvSt22Piece) : List Nat :=
  copyBytes id piece.offset piece.bytes.length

/-- No packet is written outside the frame buffer. -/
structure WritesInside (cfg : RvConfig) : Prop where
  frame : cfg.st22 = none -> forall (slot : RvSlot) (mbuf : RvMbuf) (port : MtlSessionPort)
    (ctrlThread : Bool), mbuf.pkt.OnWire ->
    ∀ position ∈ rvFrameWrites cfg slot mbuf port ctrlThread,
      position < cfg.st20FbSize
  st22 : cfg.st22 ≠ none -> forall (slot : RvSlot) (pkt : Rfc9134Packet) (piece : RvSt22Piece),
    rvSt22Place cfg slot pkt = .ok piece ->
    ∀ position ∈ piece.places, position < cfg.st20FbSize

/-! ## The handlers write nothing else -/

theorem rvCopy_outside
    (placed : rvPlace cfg line = .ok place) (content : Nat -> Byte)
    (outside : position ∉ rvWritten cfg line place) :
    rvCopy cfg line place content position = content position := by
  unfold rvWritten at outside
  by_cases byCopy : cfg.ops.uframeSize = 0
  · rw [if_neg (not_not_intro byCopy)] at outside
    exact (rvCopy_writes byCopy placed).outside content position outside
  · rw [rvCopy, if_pos byCopy]

theorem rvUserMeta_addr (s : RvSession) (frame : Nat) (line : RvLine) :
    ((rvUserMeta s frame line).session.frames frame).addr = (s.frames frame).addr := by
  unfold rvUserMeta
  dsimp only
  generalize (if line.extra.isSome then rfc4175ExtraHdrSize else 0) = extraBytes
  split
  · show ((s.setFrame frame _).frames frame).addr = _
    rw [RvSession.setFrame_frames_self]
  · rfl

theorem rvHandleInSlot_outside {env : RvEnv} {s : RvSession} {slotIdx frame : Nat}
    (accepted : rvHeaderCheck s.cfg mbuf = none)
    (outside : position ∉
      rvFrameWrites s.cfg (fielded s slotIdx mbuf) mbuf port ctrlThread) :
    ((rvHandleInSlot env s slotIdx frame mbuf port ctrlThread).session.frames frame).addr position =
      (s.frames frame).addr position := by
  rw [rvFrameWrites, accepted] at outside
  cases plain : (rvReadLine mbuf.pkt).userMeta with
  | true =>
    unfold rvHandleInSlot
    dsimp only
    rw [plain, if_pos rfl, rvUserMeta_addr]
  | false =>
    rw [plain, if_neg (by decide)] at outside
    cases placed : rvPlace s.cfg (rvReadLine mbuf.pkt) with
    | error reason =>
      unfold rvHandleInSlot
      dsimp only
      rw [plain, if_neg Bool.false_ne_true, RvSession.setSlot_cfg, placed]
      rfl
    | ok place =>
      rw [placed] at outside
      dsimp only at outside
      cases index : rvIndex s.cfg (fielded s slotIdx mbuf) (rvReadLine mbuf.pkt) place
          mbuf.pkt.seqId port ctrlThread with
      | drop reason =>
        unfold rvHandleInSlot
        dsimp only
        rw [plain, if_neg Bool.false_ne_true, RvSession.setSlot_cfg,
          RvSession.setSlot_slots_self, placed]
        dsimp only
        unfold fielded at index
        rw [index]
        rfl
      | redundant =>
        rw [(rvHandleInSlot_repeated plain placed index).frames]
      | fresh pktIdx slot reordered =>
        rw [index] at outside
        by_cases room : rvSlotGetFrameSize slot + place.payloadLength < s.cfg.st20FrameSize
        · rw [(rvHandleInSlot_part plain placed index room).frames, RvSession.withContent,
            RvSession.setFrame_frames_self]
          exact rvCopy_outside placed _ outside
        · have last := (@rvHandleInSlot_last env s slotIdx frame mbuf port ctrlThread place
            pktIdx slot reordered plain placed index (Nat.le_of_not_lt room)).frames
          rw [last]
          unfold rvPutFrame RvSession.withContent
          split
          · rw [RvSession.setFrame_frames_self, RvSession.setFrame_frames_self]
            exact rvCopy_outside placed _ outside
          · rw [RvSession.setFrame_frames_self]
            exact rvCopy_outside placed _ outside

theorem rvDmaTakes_places {env : DmaEnv}
    (placed : rvPlace cfg line = .ok place) (takes : rvDmaTakes env cfg line place = true) :
    copyBytes id place.offset line.payload.length = rvWritten cfg line place := by
  simp only [rvDmaTakes, Bool.and_eq_true, decide_eq_true_eq, Bool.not_eq_true'] at takes
  rw [rvWritten, if_neg (not_not_intro takes.1.1.1), rvPlaces, takes.1.1.2, if_neg (by decide),
    (rvPlace_ok placed).2.2.1]

/-! ## Rows behind the buffer -/

/-- Rows of a frame buffer that holds `size` bytes in lines of `stride`, of
which `line` are active: a continuation row that lies behind the buffer, and
passes the check of the row number, while the start of the payload passes the
check of the offset. -/
structure RowEscapes (height size stride line : Nat) (row column : Nat) : Prop where
  counted : row + 1 < height
  behind : size < (row + 1) * stride
  before : u32 (row * stride + column : Nat) + 1 + stride ≤ size + line

theorem u32_le (value : Nat) : u32 value ≤ value := by
  rw [u32_eq]
  omega

theorem field_size (stride height : Nat) :
    stride * height / 2 = height / 2 * stride + height % 2 * (stride / 2) := by
  rcases Nat.even_or_odd' height with ⟨half, rfl | rfl⟩
  · rw [Nat.mul_left_comm, Nat.mul_div_cancel_left _ (by decide), Nat.mul_mod_right, Nat.zero_mul,
      Nat.mul_div_cancel_left _ (by decide), Nat.mul_comm, Nat.add_zero]
  · have split : stride * (2 * half + 1) = stride + 2 * (half * stride) := by ring
    have one : (2 * half + 1) % 2 = 1 := by omega
    rw [split, Nat.add_mul_div_left _ _ (by decide), Nat.add_comm, one, Nat.one_mul,
      show (2 * half + 1) / 2 = half from by omega]

theorem no_row_escapes {height stride line row column last reach : Nat} (padded : line < stride)
    (inReach : column ≤ reach) (rows : row ≤ 32767) (lastEq : last = min (height - 2) 32767)
    (safe : last < height / 2 ∨
      (height % 2 = 0 ∨ stride / 2 + line ≤ stride) ∧ last * stride + reach < 4294967296) :
    ¬ RowEscapes height (stride * height / 2) stride line row column := by
  intro escapes
  have counted := escapes.counted
  have rowLe : row ≤ last := by omega
  have size := field_size stride height
  have upper : height / 2 ≤ row := by
    by_contra early
    have below : (row + 1) * stride ≤ height / 2 * stride := Nat.mul_le_mul_right _ (by omega)
    have behind := escapes.behind
    omega
  rcases safe with short | ⟨fit, narrow⟩
  · omega
  · have place : row * stride ≤ last * stride := Nat.mul_le_mul_right _ rowLe
    have start : height / 2 * stride ≤ row * stride := Nat.mul_le_mul_right _ upper
    have before := escapes.before
    rw [u32_of_lt (show row * stride + column < 4294967296 by omega), size] at before
    rcases fit with even | wide
    · rw [even, Nat.zero_mul] at before
      omega
    · have part : height % 2 * (stride / 2) ≤ stride / 2 := by
        have rest := Nat.mod_lt height (show 0 < 2 by decide)
        calc
          height % 2 * (stride / 2) ≤ 1 * (stride / 2) := Nat.mul_le_mul_right _ (by omega)
          _ = stride / 2 := Nat.one_mul _
      omega

theorem u32_wrapped {value : Nat} (large : 4294967296 ≤ value) :
    u32 value + 4294967296 ≤ value := by
  rw [u32_eq]
  omega

theorem RowEscapes.of_before {height stride line column last : Nat} (positive : 0 < stride)
    (tall : 2 ≤ height) (lastEq : last = min (height - 2) 32767) (upper : height / 2 ≤ row)
    (rowLe : row ≤ last)
    (before : u32 (row * stride + column : Nat) + 1 + stride ≤ height / 2 * stride +
      height % 2 * (stride / 2) + line) :
    RowEscapes height (stride * height / 2) stride line row column := by
  refine ⟨by omega, ?_, by rw [field_size]; exact before⟩
  have part : height % 2 * (stride / 2) < stride := by
    have rest := Nat.mod_lt height (show 0 < 2 by decide)
    have less : height % 2 * (stride / 2) ≤ 1 * (stride / 2) := Nat.mul_le_mul_right _ (by omega)
    omega
  have lines : (height / 2 + 1) * stride ≤ (row + 1) * stride := Nat.mul_le_mul_right _ (by omega)
  rw [Nat.succ_mul] at lines
  rw [field_size]
  omega

theorem exists_wrapping_column {place : Nat} (pg : St20Pgroup) (low : place < 4294967296)
    (reaches : 4294967296 ≤ place + columnOf pg 32767) :
    Exists fun pixel => pixel ≤ 32767 ∧ u32 (place + columnOf pg pixel : Nat) < 15 := by
  have spec := ceilDiv_spec (4294967296 - place) pg.size_pos
  have groups : ceilDiv (4294967296 - place) pg.size ≤ 32767 / pg.coverage := by
    rw [ceilDiv_le_iff pg.size_pos, Nat.mul_comm]
    unfold columnOf at reaches
    omega
  refine ⟨ceilDiv (4294967296 - place) pg.size * pg.coverage, ?_, ?_⟩
  · exact Nat.le_trans (Nat.mul_le_mul_right _ groups) (Nat.div_mul_le_self _ _)
  · have small := pg.size_le
    rw [columnOf, Nat.mul_div_cancel _ pg.coverage_pos, Nat.mul_comm _ pg.size]
    have wrapped := @u32_wrapped (place + pg.size * ceilDiv (4294967296 - place) pg.size) (by omega)
    omega

/-- The other way round: an odd field with less padding than half a line lets
its middle row pass, and where the offset of some row wraps around, the first
such row passes. -/
theorem exists_row_escapes {height stride line last : Nat} (pg : St20Pgroup)
    (small : stride < 4294967296) (tall : 2 ≤ height) (lastEq : last = min (height - 2) 32767)
    (positive : 0 < stride) (upper : height / 2 ≤ last)
    (gap : (height % 2 = 1 ∧ stride < stride / 2 + line) ∨
      4294967296 ≤ last * stride + columnOf pg 32767) :
    Exists fun row => Exists fun pixel => row ≤ 32767 ∧ pixel ≤ 32767 ∧
      RowEscapes height (stride * height / 2) stride line row (columnOf pg pixel) := by
  have zero : columnOf pg 0 = 0 := by rw [columnOf, Nat.zero_div, Nat.zero_mul]
  rcases gap with ⟨odd, narrow⟩ | wraps
  · refine ⟨height / 2, 0, by omega, by decide, RowEscapes.of_before positive tall lastEq
      (Nat.le_refl _) upper ?_⟩
    have place := u32_le (height / 2 * stride + columnOf pg 0)
    simp only [zero, Nat.add_zero] at place ⊢
    rw [odd, Nat.one_mul]
    omega
  · -- The first row from the middle on whose offset can wrap around.
    have exists_row : Exists fun row => height / 2 ≤ row ∧
        4294967296 ≤ row * stride + columnOf pg 32767 := ⟨last, upper, wraps⟩
    have found := Nat.find_spec exists_row
    have rowLe : Nat.find exists_row ≤ last := Nat.find_min' exists_row ⟨upper, wraps⟩
    have least : height / 2 < Nat.find exists_row ->
        (Nat.find exists_row - 1) * stride + columnOf pg 32767 < 4294967296 := by
      intro later
      have earlier := Nat.find_min exists_row (show Nat.find exists_row - 1 < _ by omega)
      by_contra reaches
      exact earlier ⟨by omega, by omega⟩
    generalize Nat.find exists_row = row at found rowLe least
    by_cases past : 4294967296 ≤ row * stride
    · refine ⟨row, 0, by omega, by decide,
        RowEscapes.of_before positive tall lastEq found.1 rowLe ?_⟩
      have wrapped := u32_wrapped past
      simp only [zero, Nat.add_zero]
      rcases Nat.eq_or_lt_of_le found.1 with middle | later
      · rw [← middle] at wrapped ⊢
        omega
      · have before := least later
        have next : (row - 1) * stride + stride = row * stride := by
          rw [← Nat.succ_mul, Nat.succ_eq_add_one, Nat.sub_add_cancel (by omega)]
        have two : 2 * stride ≤ height / 2 * stride := Nat.mul_le_mul_right _ (by omega)
        omega
    · rcases exists_wrapping_column pg (Nat.lt_of_not_le past) found.2 with ⟨pixel, bound, near⟩
      refine ⟨row, pixel, by omega, bound,
        RowEscapes.of_before positive tall lastEq found.1 rowLe ?_⟩
      have columns : columnOf pg 32767 ≤ 32767 * 15 :=
        Nat.mul_le_mul (Nat.div_le_self _ _) pg.size_le
      have rows : row * stride ≤ 32767 * stride := Nat.mul_le_mul_right _ (by omega)
      have long : 30 ≤ stride := by omega
      by_cases several : 2 ≤ height / 2
      · have two : 2 * stride ≤ height / 2 * stride := Nat.mul_le_mul_right _ several
        omega
      · have three : height = 3 := by omega
        rw [three]
        omega

/-! ## The formats of a session -/

namespace St20RxOps

def bytesInLine (ops : St20RxOps) : Nat := Video.bytesInLine ops.width (st20GetPgroup ops.fmt)

/-- The last row that a row number and the check of the height admit. -/
def lastRow (ops : St20RxOps) : Nat := min (ops.height - 2) 32767

/-- The bitmap of a slot has no bit: every packet is dropped. -/
def Blind (ops : St20RxOps) : Prop :=
  (if ops.interlaced then
      u32 (ops.width * ops.height * (st20GetPgroup ops.fmt).size : Nat) /
        (st20GetPgroup ops.fmt).coverage / 2
    else
      u32 (ops.width * ops.height * (st20GetPgroup ops.fmt).size : Nat) /
        (st20GetPgroup ops.fmt).coverage) < 6400 ∧
    u32 (ops.height * 2 : Nat) < 8

/-- An interlaced session with padded lines is safe when its field is a line
with no more padding than half of it, or when no row behind the field passes
the check of the height, or when the field has whole lines or much padding and
no offset wraps around. -/
def FieldSafe (ops : St20RxOps) : Prop :=
  if ops.height = 1 then
    ops.linesize ≤ ops.linesize / 2 + ops.bytesInLine
  else
    ops.lastRow < ops.height / 2 ∨
      (ops.height % 2 = 0 ∨ ops.linesize / 2 + ops.bytesInLine ≤ ops.linesize) ∧
        ops.lastRow * ops.linesize + columnOf (st20GetPgroup ops.fmt) 32767 < 4294967296

/-- The payload goes to the application, lines have no padding, the frame is
progressive, every packet is dropped, or the field is safe. -/
def WritesSafe (ops : St20RxOps) : Prop :=
  ops.uframeSize ≠ 0 ∨ ops.linesize = 0 ∨ ops.interlaced = false ∨ ops.Blind ∨ ops.FieldSafe

end St20RxOps

/-- What `rv_attach` computes of a frame buffer. -/
structure RvBuffers (ops : St20RxOps) (cfg : RvConfig) : Prop where
  ops_eq : cfg.ops = ops
  pg : cfg.st20Pg = st20GetPgroup ops.fmt
  line : cfg.st20BytesInLine = ops.bytesInLine
  plain : ops.linesize = 0 -> cfg.st20Linesize = ops.bytesInLine
  padded : ops.linesize ≠ 0 -> cfg.st20Linesize = ops.linesize ∧ ops.bytesInLine < ops.linesize
  size : cfg.st20FbSize =
    if ops.interlaced then cfg.st20Linesize * ops.height / 2 else cfg.st20Linesize * ops.height
  bitmap : cfg.st20FrameBitmapSize = 0 ↔ ops.Blind

theorem rvAttach_buffers {metaSize : Nat}
    (accepted : rvAttach metaSize ops none = .ok cfg) : RvBuffers ops cfg := by
  unfold rvAttach at accepted
  dsimp only at accepted
  split at accepted
  · cases accepted
  · next linesize lineOk =>
      cases accepted
      unfold rvLinesize at lineOk
      dsimp only at lineOk
      refine ⟨rfl, rfl, rfl, ?_, ?_, rfl, ?_⟩
      · intro zero
        rw [zero, if_neg (Nat.not_lt_zero _), if_neg (by decide)] at lineOk
        cases lineOk
        rfl
      · intro given
        split at lineOk
        · next wider =>
            cases lineOk
            exact ⟨rfl, wider⟩
        · cases lineOk
      · unfold St20RxOps.Blind
        dsimp only
        generalize u32 (ops.width * ops.height * (st20GetPgroup ops.fmt).size : Nat) /
          (st20GetPgroup ops.fmt).coverage = bytes
        generalize u32 (ops.height * 2 : Nat) = rows
        split <;> omega

theorem rvPlace_checks
    (accepted : rvPlace cfg line = .ok place) :
    rvOffset cfg line + (line.line1Length + line.line2Length) ≤
        word 64 ((cfg.st20FbSize + cfg.st20BytesInLine : Nat) - (cfg.st20Linesize : Int)) ∧
      (line.crosses cfg = true -> line.line1Number + 1 < cfg.ops.height ∧
        line.line2Length ≤ word 64 ((cfg.st20FbSize : Int) -
          ((line.line1Number + 1) * cfg.st20Linesize : Nat))) := by
  unfold rvPlace at accepted
  dsimp only at accepted
  split at accepted
  · cases accepted
  · next fits =>
      split at accepted
      · cases accepted
      · next continued =>
          refine ⟨Nat.le_of_not_lt fits, ?_⟩
          intro crosses
          simp only [crosses, Bool.true_and, Bool.or_eq_true, decide_eq_true_eq, not_or] at continued
          exact ⟨Nat.lt_of_not_le continued.1, Nat.le_of_not_lt continued.2⟩

theorem word64_sub_le {larger smaller : Nat} (le : smaller ≤ larger) :
    word 64 ((larger : Int) - (smaller : Int)) ≤ larger - smaller := by
  rw [word64_eq]
  omega

theorem word64_sub_neg {larger smaller : Nat} (lt : larger < smaller)
    (small : smaller ≤ 4611686018427387904) :
    4611686018427387904 ≤ word 64 ((larger : Int) - (smaller : Int)) := by
  rw [word64_eq]
  omega

theorem rvPlace_of_checks {cfg : RvConfig} {line : RvLine}
    (fits : rvOffset cfg line + (line.line1Length + line.line2Length) ≤
      word 64 ((cfg.st20FbSize + cfg.st20BytesInLine : Nat) - (cfg.st20Linesize : Int)))
    (continued : line.crosses cfg = true -> line.line1Number + 1 < cfg.ops.height ∧
      line.line2Length ≤ word 64 ((cfg.st20FbSize : Int) -
        ((line.line1Number + 1) * cfg.st20Linesize : Nat)))
    (nonempty : 0 < line.line1Length + line.line2Length)
    (length : line.payload.length = line.line1Length + line.line2Length) :
    rvPlace cfg line = .ok ⟨rvOffset cfg line, line.line1Length + line.line2Length⟩ := by
  unfold rvPlace
  dsimp only
  rw [if_neg (Nat.not_lt.mpr fits), if_neg, if_neg (by omega)]
  cases crosses : line.crosses cfg with
  | false => exact Bool.false_ne_true
  | true =>
    have passed := continued crosses
    simp only [Bool.true_and, Bool.or_eq_true, decide_eq_true_eq, not_or]
    exact ⟨Nat.not_le.mpr passed.1, Nat.not_lt.mpr passed.2⟩

/-! ## Safe formats -/

theorem written_inside
    (placed : rvPlace cfg line = .ok place) (stride : cfg.st20BytesInLine ≤ cfg.st20Linesize)
    (room : cfg.st20Linesize ≤ cfg.st20FbSize + cfg.st20BytesInLine)
    (continued : line.crosses cfg = true ->
      (line.line1Number + 1) * cfg.st20Linesize ≤ cfg.st20FbSize)
    (written : position ∈ rvWritten cfg line place) : position < cfg.st20FbSize := by
  have checks := rvPlace_checks placed
  have parts := rvPlace_ok placed
  have fits := Nat.le_trans checks.1 (word64_sub_le room)
  unfold rvWritten rvPlaces at written
  split at written
  · cases written
  · split at written
    · next crosses =>
        have below := continued crosses
        have second := Nat.le_trans (checks.2 crosses).2 (word64_sub_le below)
        rw [List.mem_append, mem_copyBytes_id, mem_copyBytes_id] at written
        rcases written with first | next
        · omega
        · omega
    · rw [mem_copyBytes_id] at written
      omega

theorem mem_rvFrameWrites
    (written : position ∈ rvFrameWrites cfg slot mbuf port ctrlThread) :
    cfg.st20FrameBitmapSize ≠ 0 ∧ cfg.ops.uframeSize = 0 ∧ Exists fun place =>
      rvPlace cfg (rvReadLine mbuf.pkt) = .ok place ∧
        position ∈ rvWritten cfg (rvReadLine mbuf.pkt) place := by
  unfold rvFrameWrites at written
  dsimp only at written
  split at written
  · cases written
  · split at written
    · cases written
    · next place placed =>
        split at written
        · next pktIdx after reordered index =>
            refine ⟨?_, ?_, place, placed, written⟩
            · intro blind
              unfold rvIndex at index
              rw [blind] at index
              dsimp only at index
              split at index
              · rw [if_pos (by omega)] at index
                cases index
              · split at index
                · rw [if_pos (by omega)] at index
                  cases index
                · cases index
            · by_contra given
              rw [rvWritten, if_pos given] at written
              cases written
        · cases written

theorem St20RxOps.blind_of_flat (flat : ops.height = 0) : ops.Blind := by
  have none : u32 (0 : Nat) = 0 := rfl
  unfold Blind
  rw [flat, Nat.mul_zero, Nat.zero_mul, none, Nat.zero_div]
  refine ⟨?_, by decide⟩
  split <;> decide

theorem safe_writes_inside (buffers : RvBuffers ops cfg)
    (safe : ops.WritesSafe)
    (wire : mbuf.pkt.OnWire)
    (written : position ∈ rvFrameWrites cfg slot mbuf port ctrlThread) :
    position < cfg.st20FbSize := by
  rcases mem_rvFrameWrites written with ⟨marked, byCopy, place, placed, inPlace⟩
  have seeing : ¬ ops.Blind := fun blind => marked (buffers.bitmap.mpr blind)
  have flat : ops.height ≠ 0 := fun zero => seeing (St20RxOps.blind_of_flat zero)
  have line := buffers.line
  have size := buffers.size
  rw [buffers.ops_eq] at byCopy
  by_cases plain : ops.linesize = 0
  · -- Without padding the two lines of a packet are one piece.
    have stride := buffers.plain plain
    refine written_inside placed (by omega) (by omega) ?_ inPlace
    intro crosses
    rw [RvLine.crosses, stride, line, decide_eq_false (Nat.lt_irrefl _), Bool.and_false] at crosses
    cases crosses
  · rcases buffers.padded plain with ⟨stride, padded⟩
    rw [stride] at size
    by_cases interlaced : ops.interlaced = true
    · rw [if_pos interlaced] at size
      have fieldSafe : ops.FieldSafe := by
        rcases safe with user | unpadded | progressive | blind | field
        · exact absurd byCopy user
        · exact absurd unpadded plain
        · exact absurd interlaced (by rw [progressive]; decide)
        · exact absurd blind seeing
        · exact field
      unfold St20RxOps.FieldSafe at fieldSafe
      by_cases single : ops.height = 1
      · rw [if_pos single] at fieldSafe
        rw [single, Nat.mul_one] at size
        refine written_inside placed (by omega) (by omega) ?_ inPlace
        intro crosses
        have counted := ((rvPlace_checks placed).2 crosses).1
        rw [buffers.ops_eq, single] at counted
        omega
      · rw [if_neg single] at fieldSafe
        have lines : ops.linesize * 2 ≤ ops.linesize * ops.height :=
          Nat.mul_le_mul_left _ (by omega)
        refine written_inside placed (by omega) (by omega) ?_ inPlace
        intro crosses
        have checks := rvPlace_checks placed
        have nonempty := (rvPlace_ok placed).2.2.2
        have total := (rvPlace_ok placed).2.1
        have fits := Nat.le_trans checks.1 (word64_sub_le (by omega))
        have row : (rvReadLine mbuf.pkt).line1Number < 32768 := clearBit_topBit_lt wire.rowNumber
        have pixel : (rvReadLine mbuf.pkt).line1Offset < 32768 := clearBit_topBit_lt wire.rowOffset
        have kept := @no_row_escapes ops.height ops.linesize ops.bytesInLine
          (rvReadLine mbuf.pkt).line1Number
          (columnOf cfg.st20Pg (rvReadLine mbuf.pkt).line1Offset) ops.lastRow
          (columnOf (st20GetPgroup ops.fmt) 32767) padded
          (by rw [buffers.pg]; exact columnOf_mono _ (by omega)) (by omega) rfl fieldSafe
        by_contra behind
        refine kept ⟨buffers.ops_eq ▸ (checks.2 crosses).1, ?_, ?_⟩
        · rw [← size, ← stride]
          omega
        · rw [← size, ← stride]
          show rvOffset cfg (rvReadLine mbuf.pkt) + 1 + _ ≤ _
          omega
    · rw [if_neg interlaced] at size
      have one : ops.linesize * 1 ≤ ops.linesize * ops.height := Nat.mul_le_mul_left _ (by omega)
      refine written_inside placed (by omega) (by omega) ?_ inPlace
      intro crosses
      have counted := ((rvPlace_checks placed).2 crosses).1
      rw [buffers.ops_eq] at counted
      rw [stride, size, Nat.mul_comm ops.linesize]
      exact Nat.mul_le_mul_right _ (Nat.le_of_lt counted)

/-! ## Formats that are not safe -/

def openedSlot (cfg : RvConfig) : RvSlot :=
  { RvSlot.init cfg with
    seqIdGot := true
    frameBitmap := (mtBitmapTestAndSet (List.replicate cfg.st20FrameBitmapSize 0) (0 : Nat)).2 }

theorem openedSlot_fresh (marked : cfg.st20FrameBitmapSize ≠ 0) (line : RvLine)
    (place : RvPlacement) :
    Exists fun after => Exists fun reordered =>
      rvIndex cfg (openedSlot cfg) line place 1 .p true = .fresh 1 after reordered := by
  have number : rvLaterPktIdx (openedSlot cfg) 1 = 1 := rfl
  have clear : (mtBitmapTestAndSet (openedSlot cfg).frameBitmap (1 : Nat)).1 = false := by
    rw [mtBitmapTestAndSet_fst]
    · show mtBitmapTest (mtBitmapTestAndSet _ (0 : Nat)).2 (1 : Nat) = false
      rw [mtBitmapTest_testAndSet _ _ _ (by rw [List.length_replicate]; omega),
        mtBitmapTest_empty]
      rfl
    · show 1 < 8 * (mtBitmapTestAndSet _ (0 : Nat)).2.length
      rw [mtBitmapTestAndSet_length, List.length_replicate]
      omega
  have got : (openedSlot cfg).seqIdGot = true := rfl
  rw [rvIndex, if_pos got]
  dsimp only
  rw [number, if_neg (by omega), clear, if_neg (by decide)]
  exact ⟨_, _, rfl⟩

/-- A packet of one byte in a row, and the session's own numbers in the header. -/
def escapingPkt (cfg : RvConfig) (rowLength row rowOffset : Nat) (body : List Byte) :
    Rfc4175Packet :=
  { marker := false, payloadType := cfg.ops.payloadType, seqNumber := 1, seqNumberExt := 0
    tmstamp := 0, ssrc := cfg.ops.ssrc, rowLength := rowLength, rowNumber := row
    rowOffset := rowOffset, body := body }

theorem escapingPkt_writes {rowLength rowOffset : Nat} {body : List Byte}
    (marked : cfg.st20FrameBitmapSize ≠ 0)
    (interlaced : cfg.ops.interlaced = true) (short : rowLength < 16384)
    (placed : rvPlace cfg (rvReadLine (escapingPkt cfg rowLength row rowOffset body)) = .ok place)
    (written : position ∈
      rvWritten cfg (rvReadLine (escapingPkt cfg rowLength row rowOffset body)) place) :
    position ∈ rvFrameWrites cfg (openedSlot cfg)
      ⟨escapingPkt cfg rowLength row rowOffset body, false⟩ .p true := by
  have accepted : rvHeaderCheck cfg ⟨escapingPkt cfg rowLength row rowOffset body, false⟩ =
      none := by
    unfold rvHeaderCheck
    rw [if_neg (by simp [escapingPkt]), if_neg (by simp [escapingPkt]), interlaced]
    rfl
  have low : (escapingPkt cfg rowLength row rowOffset body).rowLength < 16384 := short
  have plain := (rvReadLine_short low).2.1
  have seqId : (escapingPkt cfg rowLength row rowOffset body).seqId = 1 := by
    show 1 + 0 * 65536 = 1
    rw [Nat.zero_mul]
  rcases openedSlot_fresh marked (rvReadLine (escapingPkt cfg rowLength row rowOffset body)) place
    with ⟨after, reordered, fresh⟩
  unfold rvFrameWrites
  dsimp only
  rw [accepted, plain, placed, seqId, if_neg (by decide)]
  dsimp only
  rw [fresh]
  exact written

theorem short_field_escapes (marked : cfg.st20FrameBitmapSize ≠ 0)
    (interlaced : cfg.ops.interlaced = true) (byCopy : cfg.ops.uframeSize = 0)
    (small : cfg.st20Linesize < 4294967296)
    (short : cfg.st20FbSize + cfg.st20BytesInLine < cfg.st20Linesize) :
    cfg.st20Linesize ∈
      rvFrameWrites cfg (openedSlot cfg) ⟨escapingPkt cfg 1 1 0 [0], false⟩ .p true := by
  have flag : hasBit topBit (escapingPkt cfg 1 1 0 [0]).rowOffset = false :=
    hasBit_topBit_of_lt (show 0 < 32768 by decide)
  have length : (escapingPkt cfg 1 1 0 [0]).rowLength < 16384 := show 1 < 16384 by decide
  have noExtra : (escapingPkt cfg 1 1 0 [0]).extraRtp = none := by
    rw [Rfc4175Packet.extraRtp, flag, if_neg Bool.false_ne_true]
  have body : (escapingPkt cfg 1 1 0 [0]).payload = [0] := by
    rw [Rfc4175Packet.payload, flag, if_neg Bool.false_ne_true]
    rfl
  generalize built : rvReadLine (escapingPkt cfg 1 1 0 [0]) = line
  have number : line.line1Number = 1 := by
    rw [← built]
    exact clearBit_topBit_of_lt (show 1 < 32768 by decide)
  have offset : rvOffset cfg line = cfg.st20Linesize := by
    have pixel : line.line1Offset = 0 := by
      rw [← built]
      exact clearBit_topBit_of_lt (show 0 < 32768 by decide)
    rw [rvOffset, number, pixel, columnOf, Nat.zero_div, Nat.zero_mul, Nat.one_mul, Nat.add_zero]
    exact u32_of_lt small
  have first : line.line1Length = 1 := by
    rw [← built]
    exact (rvReadLine_short length).1
  have extra : line.extra = none := by rw [← built]; exact noExtra
  have second : line.line2Length = 0 := by rw [RvLine.line2Length, extra]
  have payload : line.payload.length = 1 := by
    rw [← built]
    exact congrArg List.length body
  have straight : line.crosses cfg = false := by
    rw [RvLine.crosses, extra]
    rfl
  have placed := @rvPlace_of_checks cfg line
    (by
      have wide := word64_sub_neg short (by omega)
      omega)
    (by
      intro crosses
      rw [straight] at crosses
      cases crosses)
    (by omega) (by omega)
  apply escapingPkt_writes marked interlaced (by decide) (built.symm ▸ placed)
  rw [built, rvWritten, if_neg (not_not_intro byCopy), rvPlaces, straight, if_neg (by decide),
    mem_copyBytes_id]
  dsimp only
  omega

/-- A row that escapes is written by a packet whose only byte continues in it. -/
theorem row_escapes {pixel : Nat} (marked : cfg.st20FrameBitmapSize ≠ 0)
    (interlaced : cfg.ops.interlaced = true) (byCopy : cfg.ops.uframeSize = 0)
    (small : cfg.st20Linesize < 4294967296) (padded : cfg.st20BytesInLine < cfg.st20Linesize)
    (rowLe : row ≤ 32767) (pixelLe : pixel ≤ 32767)
    (escapes : RowEscapes cfg.ops.height cfg.st20FbSize cfg.st20Linesize cfg.st20BytesInLine row
      (columnOf cfg.st20Pg pixel)) :
    (row + 1) * cfg.st20Linesize ∈ rvFrameWrites cfg (openedSlot cfg)
      ⟨escapingPkt cfg 0 row (pixel + 32768) (Rfc4175ExtraHdr.bytes ⟨1, 0, 0⟩ ++ [0]), false⟩
      .p true := by
  have flag : hasBit topBit (pixel + 32768) = true := by
    rw [hasBit_topBit (by omega)]
    exact decide_eq_true (by omega)
  have length : (escapingPkt cfg 0 row (pixel + 32768)
      (Rfc4175ExtraHdr.bytes ⟨1, 0, 0⟩ ++ [0])).rowLength < 16384 := show 0 < 16384 by decide
  have read := @extraRtp_bytes
    (escapingPkt cfg 0 row (pixel + 32768) (Rfc4175ExtraHdr.bytes ⟨1, 0, 0⟩ ++ [0]))
    ⟨1, 0, 0⟩ [0] flag rfl (by decide) (by decide) (by decide)
  generalize built : rvReadLine
    (escapingPkt cfg 0 row (pixel + 32768) (Rfc4175ExtraHdr.bytes ⟨1, 0, 0⟩ ++ [0])) = line
  have number : line.line1Number = row := by
    rw [← built]
    exact clearBit_topBit_of_lt (show row < 32768 by omega)
  have offset : rvOffset cfg line =
      u32 (row * cfg.st20Linesize + columnOf cfg.st20Pg pixel : Nat) := by
    have cleared : line.line1Offset = pixel := by
      rw [← built]
      show clearBit topBit (pixel + 32768) = pixel
      rw [clearBit, if_pos flag]
      exact Nat.add_sub_cancel _ _
    rw [rvOffset, number, cleared]
  have first : line.line1Length = 0 := by
    rw [← built]
    exact (rvReadLine_short length).1
  have extra : line.extra = some ⟨1, 0, 0⟩ := by rw [← built]; exact read.1
  have second : line.line2Length = 1 := by rw [RvLine.line2Length, extra]
  have payload : line.payload.length = 1 := by
    rw [← built]
    exact congrArg List.length read.2
  have crosses : line.crosses cfg = true := by
    rw [RvLine.crosses, extra, decide_eq_true padded]
    rfl
  have before := escapes.before
  have behind := escapes.behind
  have rows : (row + 1) * cfg.st20Linesize ≤ 32768 * 4294967296 :=
    Nat.mul_le_mul (by omega) (Nat.le_of_lt small)
  have placed := @rvPlace_of_checks cfg line
    (by
      rw [offset, first, second]
      by_cases wide : cfg.st20FbSize + cfg.st20BytesInLine < 18446744073709551616
      · have difference : word 64 ((cfg.st20FbSize + cfg.st20BytesInLine : Nat) -
            (cfg.st20Linesize : Int)) =
              cfg.st20FbSize + cfg.st20BytesInLine - cfg.st20Linesize := by
          rw [word64_eq]
          omega
        omega
      · omega)
    (by
      intro _
      have wide := word64_sub_neg behind (by omega)
      rw [number, second]
      exact ⟨escapes.counted, by omega⟩)
    (by omega) (by omega)
  apply escapingPkt_writes marked interlaced (by decide) (built.symm ▸ placed)
  rw [built, rvWritten, if_neg (not_not_intro byCopy), rvPlaces, crosses, if_pos rfl, number,
    List.mem_append, mem_copyBytes_id, mem_copyBytes_id]
  dsimp only
  omega

theorem writes_outside (buffers : RvBuffers ops cfg)
    (stride : ops.linesize < 4294967296) (exposed : ¬ ops.WritesSafe) :
    Exists fun mbuf => mbuf.pkt.OnWire ∧ Exists fun position => cfg.st20FbSize ≤ position ∧
      position ∈ rvFrameWrites cfg (openedSlot cfg) mbuf .p true := by
  simp only [St20RxOps.WritesSafe, not_or, not_not, Bool.not_eq_false] at exposed
  rcases exposed with ⟨byCopy, given, interlaced, seeing, field⟩
  have marked : cfg.st20FrameBitmapSize ≠ 0 := fun none => seeing (buffers.bitmap.mp none)
  have flat : ops.height ≠ 0 := fun zero => seeing (St20RxOps.blind_of_flat zero)
  rcases buffers.padded given with ⟨linesize, padded⟩
  have size := buffers.size
  have line := buffers.line
  rw [if_pos interlaced, linesize] at size
  rw [← buffers.ops_eq] at byCopy interlaced
  unfold St20RxOps.FieldSafe at field
  by_cases single : ops.height = 1
  · rw [if_pos single] at field
    rw [single, Nat.mul_one] at size
    exact ⟨_, ⟨show 1 < 65536 by decide, show 0 < 65536 by decide, show 1 < 65536 by decide⟩,
      cfg.st20Linesize, by omega,
      short_field_escapes marked interlaced byCopy (by omega) (by omega)⟩
  · rw [if_neg single] at field
    have positive : 0 < ops.linesize := Nat.pos_of_ne_zero given
    have upper : ops.height / 2 ≤ ops.lastRow := by
      by_contra low
      exact field (Or.inl (by omega))
    have gap : (ops.height % 2 = 1 ∧ ops.linesize < ops.linesize / 2 + ops.bytesInLine) ∨
        4294967296 ≤ ops.lastRow * ops.linesize + columnOf (st20GetPgroup ops.fmt) 32767 := by
      by_contra none
      rw [not_or] at none
      exact field (Or.inr ⟨by omega, by omega⟩)
    rcases exists_row_escapes (st20GetPgroup ops.fmt) stride (show 2 ≤ ops.height by omega) rfl
      positive upper gap with ⟨row, pixel, rowLe, pixelLe, escapes⟩
    rw [← size, ← linesize, ← line, ← buffers.pg, ← buffers.ops_eq] at escapes
    exact ⟨_, ⟨show row < 65536 by omega, show pixel + 32768 < 65536 by omega,
        show 0 < 65536 by decide⟩,
      (row + 1) * cfg.st20Linesize, Nat.le_of_lt escapes.behind,
      row_escapes marked interlaced byCopy (by omega) (by omega) rowLe pixelLe escapes⟩

/-! ## Every session -/

theorem st22_writes_inside {metaSize : Nat} {st22 : St22RxOps}
    (accepted : rvAttach metaSize ops (some st22) = .ok cfg) {pkt : Rfc9134Packet}
    {piece : RvSt22Piece} (placed : rvSt22Place cfg slot pkt = .ok piece)
    (written : position ∈ piece.places) : position < cfg.st20FbSize := by
  have frame : cfg.st20FrameSize ≤ cfg.st20FbSize := by
    unfold rvAttach at accepted
    dsimp only at accepted
    split at accepted
    · cases accepted
    · cases accepted
      dsimp only
      split
      · exact Nat.div_le_self _ _
      · exact Nat.le_refl _
  have ends : piece.offset + piece.bytes.length ≤ cfg.st20FrameSize := by
    unfold rvSt22Place at placed
    dsimp only at placed
    split at placed
    · split at placed
      · cases placed
      · split at placed
        · cases placed
        · next fits =>
            cases placed
            dsimp only
            rw [List.length_drop]
            omega
    · split at placed
      · cases placed
      · split at placed
        · cases placed
        · next fits =>
            cases placed
            exact Nat.le_of_not_lt fits
  rw [RvSt22Piece.places, mem_copyBytes_id] at written
  omega

/-- For every accepted session, whatever its packets hold, nothing is written
outside the frame buffer exactly when it is a session of codestreams or its
format is safe. -/
theorem writes_inside_iff {metaSize : Nat} {ops : St20RxOps} {st22 : Option St22RxOps}
    {cfg : RvConfig} (accepted : rvAttach metaSize ops st22 = .ok cfg)
    (stride : ops.linesize < 4294967296) :
    WritesInside cfg ↔ st22 ≠ none ∨ ops.WritesSafe := by
  have kept : cfg.st22 = st22 := by
    unfold rvAttach at accepted
    dsimp only at accepted
    split at accepted
    · cases accepted
    · cases accepted
      rfl
  cases st22 with
  | some st22Ops =>
    refine iff_of_true ⟨?_, ?_⟩ (Or.inl (by simp))
    · intro none
      rw [kept] at none
      cases none
    · intro _ slot pkt piece placed position written
      exact st22_writes_inside accepted placed written
  | none =>
    have buffers := rvAttach_buffers accepted
    rw [or_iff_right (not_not_intro rfl)]
    constructor
    · intro inside
      by_contra exposed
      rcases writes_outside buffers stride exposed with ⟨mbuf, wire, position, behind, written⟩
      exact absurd (inside.frame kept (openedSlot cfg) mbuf .p true wire position written)
        (Nat.not_lt.mpr behind)
    · intro safe
      refine ⟨?_, fun some => absurd kept some⟩
      intro _ slot mbuf port ctrlThread wire position written
      exact safe_writes_inside buffers safe wire written

def fieldRxOps : St20RxOps := { hdRxOps with interlaced := true }

def fieldConfig : RvConfig :=
  { hdConfig with
    ops := fieldRxOps
    st20FbSize := 2764800
    st20FrameSize := 2592000
    st20FrameBitmapSize := 405 }

theorem field_writes_inside : WritesInside fieldConfig :=
  (@writes_inside_iff 1024 fieldRxOps none fieldConfig rfl (by decide)).mpr
    (Or.inr (Or.inr (Or.inr (Or.inr (Or.inr (Or.inr ⟨Or.inl (by decide), by decide⟩))))))

def oddFieldConfig : RvConfig :=
  { fieldConfig with
    ops := { fieldRxOps with height := 1081 }
    st20FbSize := 2767360
    st20FrameSize := 2594400 }

def middleLinePkt : Rfc4175Packet :=
  { marker := false, payloadType := 112, seqNumber := 1, seqNumberExt := 0, tmstamp := 0, ssrc := 0
    rowLength := 5, rowNumber := 540, rowOffset := 32768
    body := Rfc4175ExtraHdr.bytes ⟨5, 541, 0⟩ ++ [1, 2, 3, 4, 5, 6, 7, 8, 9, 10] }

/-- The buffer ends in the middle of line 540.  The check of the continuation
row compares with the height of the frame, and the space behind row 541 is a
negative number: five bytes are written 2560 bytes behind the buffer. -/
theorem odd_field_written_behind :
    rvAttach 1024 { fieldRxOps with height := 1081 } none = .ok oddFieldConfig ∧
    middleLinePkt.OnWire ∧
    rvPlace oddFieldConfig (rvReadLine middleLinePkt) = .ok ⟨2764800, 10⟩ ∧
    2769920 ∈ rvFrameWrites oddFieldConfig (openedSlot oddFieldConfig) ⟨middleLinePkt, false⟩ .p
      true ∧
    oddFieldConfig.st20FbSize = 2767360 ∧ ¬ WritesInside oddFieldConfig := by
  have wire : middleLinePkt.OnWire := ⟨by decide, by decide, by decide⟩
  have written : 2769920 ∈ rvFrameWrites oddFieldConfig (openedSlot oddFieldConfig)
      ⟨middleLinePkt, false⟩ .p true := by decide +kernel
  refine ⟨rfl, wire, by decide +kernel, written, rfl, ?_⟩
  intro inside
  exact absurd (inside.frame rfl (openedSlot oddFieldConfig) ⟨middleLinePkt, false⟩ .p true wire
    2769920 written) (by decide)

end MediaTransport.Video
