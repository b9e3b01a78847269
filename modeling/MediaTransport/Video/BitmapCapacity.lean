import MediaTransport.Video.Placement

namespace MediaTransport.Video

open Library

/-!
# Packets of a frame and bits of a bitmap

The sender counts the packets of a frame by its packing mode.  The receiver
sizes the bitmap of a slot from the bytes of the frame, eight hundred to a
packet, and from its lines, two packets to a line, and both quotients lose
their remainders.  Which formats have room is decided here in numbers of the
format alone.
-/

/-! ## What the two sides compute -/

variable (ops : St20TxOps)

theorem ceilDiv_ceilDiv {value first second : Nat} (firstPos : 0 < first)
    (secondPos : 0 < second) :
    ceilDiv (ceilDiv value first) second = ceilDiv value (first * second) := by
  apply Nat.le_antisymm
  · rw [ceilDiv_le_iff secondPos, ceilDiv_le_iff firstPos, ← Nat.mul_assoc,
      ← ceilDiv_le_iff (Nat.mul_pos firstPos secondPos)]
  · rw [ceilDiv_le_iff (Nat.mul_pos firstPos secondPos), Nat.mul_assoc, ← ceilDiv_le_iff firstPos,
      ← ceilDiv_le_iff secondPos]

def gpmGroups (user : Nat) (pg : St20Pgroup) : Nat :=
  (pktUdpSuggestMaxSize user - rfc4175RtpHdrSize - rfc4175ExtraHdrSize) / (pg.size * 2) *
    (pg.size * 2) / pg.size

theorem gpmGroups_eq (user : Nat) (pg : St20Pgroup) :
    gpmGroups user pg =
      (pktUdpSuggestMaxSize user - rfc4175RtpHdrSize - rfc4175ExtraHdrSize) / (pg.size * 2) * 2 := by
  rw [gpmGroups, ← Nat.mul_assoc, Nat.mul_right_comm, Nat.mul_div_cancel _ pg.size_pos]

theorem gpmGroups_pos (user : Nat) (pg : St20Pgroup) : 0 < gpmGroups user pg := by
  have suggest := pktUdpSuggestMaxSize_bounds user
  have small := pg.size_le
  have positive := pg.size_pos
  have some : 0 < (pktUdpSuggestMaxSize user - rfc4175RtpHdrSize - rfc4175ExtraHdrSize) /
      (pg.size * 2) := by
    apply Nat.div_pos
    · unfold rfc4175RtpHdrSize rfc4175ExtraHdrSize
      omega
    · omega
  rw [gpmGroups_eq]
  omega

/-- Bytes of the active pixels of a frame, or of a field, as the sender counts
them. -/
def St20TxOps.frameBytes : Nat :=
  u32 (ops.width * ops.lines * (st20GetPgroup ops.fmt).size : Nat) / (st20GetPgroup ops.fmt).coverage

/-- The same number as the receiver counts it: a field is half of the frame. -/
def St20TxOps.receivedBytes : Nat :=
  let frame := u32 (ops.width * ops.height * (st20GetPgroup ops.fmt).size : Nat) /
    (st20GetPgroup ops.fmt).coverage
  if ops.interlaced then frame / 2 else frame

def St20TxOps.pktOctets (user : Nat) : Nat :=
  let pg := st20GetPgroup ops.fmt
  match ops.packing with
  | .gpmSl => ceilDiv (ops.lines * (bytesInLine ops.width pg / 1432 + 1)) 8
  | .bpm => ceilDiv ops.frameBytes 10080
  | .gpm => ceilDiv (ops.width * ops.lines) (pg.coverage * gpmGroups user pg * 8)

theorem TvSession.Attached.pktOctets_eq {s : TvSession} {user : Nat} {plan : PacketPlan}
    (attached : s.Attached (pktUdpSuggestMaxSize user) plan) :
    ceilDiv s.st20TotalPkts 8 = s.ops.pktOctets user := by
  have planOk := attached.plan_ok
  rw [attached.totalPkts_eq]
  unfold tvInitPktPlan at planOk
  unfold St20TxOps.pktOctets
  rw [attached.pg_eq] at planOk
  cases packing : s.ops.packing with
  | gpmSl =>
    simp only [packing, Except.ok.injEq] at planOk ⊢
    rw [← planOk]
    rfl
  | bpm =>
    simp only [packing] at planOk ⊢
    split at planOk
    · cases planOk
    · cases planOk
      rw [ceilDiv_ceilDiv (by decide) (by decide), attached.frameSize_eq, attached.pg_eq]
      rfl
  | gpm =>
    simp only [packing, Except.ok.injEq] at planOk ⊢
    rw [← planOk]
    exact ceilDiv_ceilDiv
      (Nat.mul_pos (st20GetPgroup s.ops.fmt).coverage_pos (gpmGroups_pos user _)) (by decide)

theorem rvAttach_bitmap {metaSize : Nat} {rxOps : St20RxOps} {s : TvSession} {cfg : RvConfig}
    (accepted : rvAttach metaSize rxOps none = .ok cfg) (same : SameFormat s cfg) :
    cfg.st20FrameBitmapSize =
      max (s.ops.receivedBytes / 6400) (u32 (s.ops.height * 2 : Nat) / 8) := by
  unfold rvAttach at accepted
  dsimp only at accepted
  split at accepted
  · cases accepted
  · cases accepted
    have width : rxOps.width = s.ops.width := same.width
    have height : rxOps.height = s.ops.height := same.height
    have fmt : rxOps.fmt = s.ops.fmt := same.fmt
    have interlaced : rxOps.interlaced = s.ops.interlaced := same.interlaced
    dsimp only
    rw [Nat.div_div_eq_div_mul, width, height, fmt, interlaced]
    rfl

/-! ## When the bitmap has a bit for every packet -/

/-- The bitmap of a slot has a bit for every packet of a frame, and no packet
that is counted from the first sequence number of the frame is dropped for
want of one. -/
structure BitmapHolds (s : TvSession) (cfg : RvConfig) : Prop where
  few : s.st20TotalPkts ≤ 8 * cfg.st20FrameBitmapSize
  kept : forall (slot : RvSlot) (line : RvLine) (place : RvPlacement) (port : MtlSessionPort)
    (ctrlThread : Bool) (pktIdx : Nat), slot.seqIdGot = true -> pktIdx < s.st20TotalPkts ->
    rvIndex cfg slot line place (u32 (slot.seqIdBaseU32 + pktIdx : Nat)) port ctrlThread ≠
      .drop .idxOoBitmap

theorem rvLaterPktIdx_le (slot : RvSlot) (pktIdx : Nat) :
    rvLaterPktIdx slot (u32 (slot.seqIdBaseU32 + pktIdx : Nat)) ≤ pktIdx := by
  unfold rvLaterPktIdx
  rw [u32_eq, u32_eq]
  omega

theorem BitmapHolds.of_few {s : TvSession} {cfg : RvConfig}
    (few : s.st20TotalPkts ≤ 8 * cfg.st20FrameBitmapSize) : BitmapHolds s cfg := by
  refine ⟨few, ?_⟩
  intro slot line place port ctrlThread pktIdx got inFrame dropped
  have near := rvLaterPktIdx_le slot pktIdx
  rw [rvIndex, if_pos got] at dropped
  dsimp only at dropped
  rw [if_neg (by omega)] at dropped
  split at dropped <;> cases dropped

theorem few_iff {total bytes rows : Nat} :
    total ≤ 8 * max (bytes / 6400) (rows / 8) ↔
      6400 * ceilDiv total 8 ≤ bytes ∨ 8 * ceilDiv total 8 ≤ rows := by
  have octets : forall room, total ≤ 8 * room ↔ ceilDiv total 8 ≤ room := fun room =>
    (ceilDiv_le_iff (by decide)).symm
  rw [octets, le_max_iff, Nat.le_div_iff_mul_le (by decide), Nat.le_div_iff_mul_le (by decide),
    Nat.mul_comm 6400, Nat.mul_comm 8]

/-- The packets of a frame, in groups of eight, find room among its bytes, 6400
to a group, or among its lines, four to a group. -/
def St20TxOps.BitmapRoom (user : Nat) : Prop :=
  6400 * ops.pktOctets user ≤ ops.receivedBytes ∨
    8 * ops.pktOctets user ≤ u32 (ops.height * 2 : Nat)

instance (ops : St20TxOps) (user : Nat) : Decidable (ops.BitmapRoom user) :=
  inferInstanceAs (Decidable (_ ∨ _))

/-- Every packet of a frame has a bit in the receiver's bitmap exactly when the
format has room for the frame's groups of eight packets. -/
theorem bitmap_holds_iff {user metaSize : Nat} {txOps : St20TxOps} {rxOps : St20RxOps}
    {s : TvSession} {cfg : RvConfig}
    (sender : tvAttach (pktUdpSuggestMaxSize user) txOps = .ok s)
    (receiver : rvAttach metaSize rxOps none = .ok cfg) (same : SameFormat s cfg) :
    BitmapHolds s cfg ↔ txOps.BitmapRoom user := by
  rcases tvAttach_ok sender with ⟨sameOps, plan, attached⟩
  have octets := attached.pktOctets_eq
  have few := @few_iff s.st20TotalPkts s.ops.receivedBytes (u32 (s.ops.height * 2 : Nat))
  rw [octets, ← rvAttach_bitmap receiver same, sameOps] at few
  constructor
  · intro holds
    exact few.mp holds.few
  · intro room
    exact BitmapHolds.of_few (few.mpr room)

/-- The thousand eighty lines of the padded receiver. -/
theorem bitmap_holds_hd : BitmapHolds hdSession hdConfig :=
  (@bitmap_holds_iff 0 1024 hdOps hdRxOps hdSession hdConfig rfl rfl ⟨rfl, rfl, rfl, rfl⟩).mpr
    (by decide +kernel)

/-- Four hundred eighty-six lines of 1440 bytes, each cut into two packets. -/
def sdOps : St20TxOps :=
  { width := 720, height := 486, fmt := .yuv422Bit8, packing := .gpmSl, interlaced := false
    linesize := 0, payloadType := 112, ssrc := 1193040 }

def sdSession : TvSession :=
  { ops := sdOps, st20Pg := st20GetPgroup .yuv422Bit8, st20Linesize := 1440
    st20BytesInLine := 1440, st20FrameSize := 699840, st20FbSize := 699840, st20PktsInLine := 2
    st20PktLen := 720, st20PktSize := 782, st20TotalPkts := 972 }

def sdRxOps : St20RxOps :=
  { hdRxOps with width := 720, height := 486, fmt := .yuv422Bit8, linesize := 0 }

def sdConfig : RvConfig :=
  { ops := sdRxOps, st22 := none, st20Pg := st20GetPgroup .yuv422Bit8, st20BytesInLine := 1440
    st20Linesize := 1440, st20FbSize := 699840, st20FrameSize := 699840
    st20FrameBitmapSize := 121, sliceLines := 15, sliceSize := 21600, slotMax := 1
    userMetaBufferSize := 1024 }

/-- The frame has 972 packets and the bitmap 968 bits, so the first packet of
the last two lines is dropped once the slot knows where the frame begins. -/
theorem sd_packets_outrun_bitmap : tvAttach (pktUdpSuggestMaxSize 0) sdOps = .ok sdSession ∧
    rvAttach 1024 sdRxOps none = .ok sdConfig ∧ SameFormat sdSession sdConfig ∧
    8 * sdConfig.st20FrameBitmapSize < sdSession.st20TotalPkts ∧
    (forall (slot : RvSlot) (line : RvLine) (place : RvPlacement) (port : MtlSessionPort),
      slot.seqIdGot = true -> slot.seqIdBaseU32 = 1000 ->
      rvIndex sdConfig slot line place 1968 port true = .drop .idxOoBitmap) ∧
    ¬ BitmapHolds sdSession sdConfig := by
  refine ⟨rfl, rfl, ⟨rfl, rfl, rfl, rfl⟩, by decide, ?_, ?_⟩
  · intro slot line place port got based
    have number : rvLaterPktIdx slot 1968 = 968 := by
      rw [rvLaterPktIdx, based]
      rfl
    rw [rvIndex, if_pos got]
    dsimp only
    rw [number, if_pos (by decide)]
  · intro holds
    exact absurd holds.few (by decide)

end MediaTransport.Video
