import MediaTransport.Video.FrameTiling
import MediaTransport.Video.Placement

namespace MediaTransport.Video

open Library

/-!
# The index of the first packet

A slot that has no sequence number yet takes the index of its first packet
from the packet itself.  When the length of the payload divides its place in
the frame buffer, the index is the quotient, as if all packets before it had
this length.  Otherwise the packet is taken for one of a line that was cut for
itself.
-/

variable {s : TvSession} {cfg : RvConfig} {pktIdx first : Nat} {trans : StFrameTrans}
  {place : RvPlacement}

/-! ## What the receiver should find -/

theorem tvBuildSt20_seqId (s : TvSession) (trans : StFrameTrans) (pktIdx : Nat) {seqId : Nat}
    (bound : seqId < 4294967296) : (tvBuildSt20 s trans pktIdx seqId).seqId = seqId := by
  have low : u16 (seqId : Nat) = seqId % 65536 := by
    unfold u16 word
    omega
  have high : u16 (seqId / 65536 : Nat) = seqId / 65536 := u16_of_lt (by omega)
  simp only [tvBuildSt20, Rfc4175Packet.seqId, low, high]
  omega

/-- The first packet to arrive in a slot is recognised: its index is the one
it was built with, and a slot that accepts it is based at the sequence number
of the frame's first packet. -/
structure FirstIdxRight (cfg : RvConfig) (pkt : Rfc4175Packet) (place : RvPlacement)
    (pktIdx first : Nat) : Prop where
  index : rvFirstPktIdx cfg (rvReadLine pkt) place = pktIdx
  based : forall (slot : RvSlot) (port : MtlSessionPort), slot.seqIdGot = false ->
    rvIndex cfg slot (rvReadLine pkt) place pkt.seqId port true = .drop .idxOoBitmap ∨
      exists slot', rvIndex cfg slot (rvReadLine pkt) place pkt.seqId port true =
        .fresh pktIdx slot' false ∧ slot'.seqIdBaseU32 = u32 first

theorem FirstIdxRight.of_index
    (index : rvFirstPktIdx cfg (rvReadLine (framePacket s trans first pktIdx)) place = pktIdx) :
    FirstIdxRight cfg (framePacket s trans first pktIdx) place pktIdx first := by
  have seqId : (framePacket s trans first pktIdx).seqId = u32 (first + pktIdx : Nat) :=
    tvBuildSt20_seqId s trans pktIdx (u32_lt _)
  refine ⟨index, ?_⟩
  intro slot port fresh
  rw [rvIndex, if_neg (by rw [fresh]; decide), if_pos rfl]
  dsimp only
  rw [index, seqId]
  split
  · exact Or.inl rfl
  · exact Or.inr ⟨_, rfl, u32_base first pktIdx⟩

/-! ## Which packets fit the receiver's rule -/

namespace TvSession

def linePkts (s : TvSession) : Nat := s.st20BytesInLine / 1432 + 1

def sharePixels (s : TvSession) : Nat := ceilDiv s.ops.width s.linePkts

def rxPlace (s : TvSession) (cfg : RvConfig) (pktIdx : Nat) : Nat :=
  s.sentRow pktIdx * cfg.st20Linesize + s.announcedColumn pktIdx

end TvSession

/-- The packet is the one of its number in a cut of every line for itself: it
begins in that line, with a pixel of that share of the line. -/
structure InItsShare (s : TvSession) (pktIdx : Nat) : Prop where
  row : s.sentRow pktIdx = pktIdx / s.linePkts
  share : s.sentPixel pktIdx / s.sharePixels = pktIdx % s.linePkts

/-- A packet whose length divides its place stands behind packets of its own
length.  Any other packet is one of a line that is cut for itself: it is packed
that way, in a line whose pixels the row offset can count, or it lies as if it
were. -/
structure FirstPktFits (s : TvSession) (cfg : RvConfig) (pktIdx : Nat) : Prop where
  whole : s.sentLen pktIdx ∣ s.rxPlace cfg pktIdx ->
    s.rxPlace cfg pktIdx = s.sentLen pktIdx * pktIdx
  part : s.sentLen pktIdx ∣ s.rxPlace cfg pktIdx ∨
    (s.ops.packing = .gpmSl ∧ s.ops.width ≤ 34250) ∨ InItsShare s pktIdx

theorem TvSession.linePkts_pos (s : TvSession) : 0 < s.linePkts := Nat.succ_pos _

theorem TvSession.width_le_shares (s : TvSession) : s.ops.width ≤ s.linePkts * s.sharePixels :=
  (ceilDiv_spec s.ops.width s.linePkts_pos).1

theorem rvFirstPktIdx_eq_iff {line : RvLine} (read : PacketRead s cfg pktIdx line place)
    (shared : SharedLine s cfg) (width : cfg.ops.width = s.ops.width)
    (nonempty : 0 < place.payloadLength) (inLine : s.sentPixel pktIdx < s.ops.width) :
    rvFirstPktIdx cfg line place = pktIdx ↔
      (s.sentLen pktIdx ∣ s.rxPlace cfg pktIdx ->
        s.rxPlace cfg pktIdx = s.sentLen pktIdx * pktIdx) ∧
      (s.sentLen pktIdx ∣ s.rxPlace cfg pktIdx ∨ InItsShare s pktIdx) := by
  have inShare : s.sentPixel pktIdx / s.sharePixels < s.linePkts := by
    apply Nat.div_lt_of_lt_mul
    rw [Nat.mul_comm]
    exact Nat.lt_of_lt_of_le inLine s.width_le_shares
  have offset : place.offset = s.rxPlace cfg pktIdx := read.offset
  have perLine : cfg.st20BytesInLine / (stPktMaxEtherBytes - rfc4175VideoHdrSize) + 1 =
      s.linePkts := by rw [shared.bytesInLine]; rfl
  have share : ceilDiv cfg.ops.width s.linePkts = s.sharePixels := by rw [width]; rfl
  have length := read.length
  rw [length] at nonempty
  rw [rvFirstPktIdx]
  dsimp only
  rw [perLine, share, read.number, read.pixel, offset, length]
  by_cases divides : s.sentLen pktIdx ∣ s.rxPlace cfg pktIdx
  · rw [if_neg (not_not_intro (Nat.mod_eq_zero_of_dvd divides)),
      Nat.div_eq_iff_eq_mul_right nonempty divides]
    exact ⟨fun same => ⟨fun _ => same, Or.inl divides⟩, fun fits => fits.1 divides⟩
  · rw [if_pos (fun zero => divides (Nat.dvd_of_mod_eq_zero zero))]
    have unique : pktIdx / s.linePkts = s.sentRow pktIdx ∧
        pktIdx % s.linePkts = s.sentPixel pktIdx / s.sharePixels ↔
          s.sentPixel pktIdx / s.sharePixels + s.linePkts * s.sentRow pktIdx = pktIdx ∧
            s.sentPixel pktIdx / s.sharePixels < s.linePkts :=
      Nat.div_mod_unique s.linePkts_pos
    rw [Nat.add_comm, Nat.mul_comm]
    constructor
    · intro same
      have parts := unique.mpr ⟨same, inShare⟩
      exact ⟨fun divides' => absurd divides' divides, Or.inr ⟨parts.1.symm, parts.2.symm⟩⟩
    · rintro ⟨_, divides' | fits⟩
      · exact absurd divides' divides
      · exact (unique.mp ⟨fits.row.symm, fits.share.symm⟩).1

/-! ## The two ways of packing -/

theorem TvSession.Dense.sentPixel_lt (dense : s.Dense) (inFrame : pktIdx < s.st20TotalPkts) :
    s.sentPixel pktIdx < s.ops.width := by
  have column := dense.columnIn_lt pktIdx
  have line := dense.line_lt
  have announced : s.sentPixel pktIdx ≤
      s.columnIn pktIdx * s.st20Pg.coverage / s.st20Pg.size := by
    have cleared : s.sentPixel pktIdx ≤ s.line1Offset pktIdx := by
      unfold sentPixel clearBit
      split
      · exact Nat.sub_le _ _
      · exact Nat.le_refl _
    rw [dense.line1Offset_eq inFrame] at cleared
    exact Nat.le_trans cleared (u16_le _)
  apply Nat.lt_of_le_of_lt announced
  apply Nat.div_lt_of_lt_mul
  have next : (s.columnIn pktIdx + 1) * s.st20Pg.coverage ≤
      s.st20Pg.coverage * s.st20BytesInLine := by
    rw [Nat.mul_comm]
    exact Nat.mul_le_mul_left _ column
  rw [Nat.succ_mul] at next
  rw [Nat.mul_comm s.st20Pg.size]
  omega

theorem TvSession.Attached.pktsInLine_gpmSl {user : Nat} {plan : PacketPlan}
    (attached : s.Attached user plan) (packing : s.ops.packing = .gpmSl) :
    s.st20PktsInLine = s.linePkts := by
  have planOk := attached.plan_ok
  simp only [tvInitPktPlan, packing, Except.ok.injEq] at planOk
  rw [attached.pktsInLine_eq, ← planOk, linePkts, attached.bytesInLine_eq]
  rfl

theorem TvSession.Single.line1Offset_narrow (single : s.Single) (narrow : s.ops.width ≤ 34250) :
    s.line1Offset pktIdx = s.firstPixel pktIdx := by
  have bound := single.firstPixel_le pktIdx
  apply single.line1Offset_firstPixel
  by_cases several : 2 ≤ s.st20PktsInLine
  · have starts := single.starts narrow several
    omega
  · rw [show s.st20PktsInLine - 1 = 0 from by omega, Nat.mul_zero] at bound
    omega

theorem TvSession.Single.inItsShare (single : s.Single) (perLine : s.st20PktsInLine = s.linePkts)
    (narrow : s.ops.width ≤ 34250) (low : s.line1Offset pktIdx < 32768) : InItsShare s pktIdx := by
  have enough : s.sharePixels ≤ s.pixelInPkt := by
    have cut := single.enough
    rw [perLine] at cut
    exact (ceilDiv_le_iff s.linePkts_pos).mpr cut
  have covered := s.width_le_shares
  have width := single.width_pos
  have coverage := s.st20Pg.coverage_pos
  have inLine := Nat.mod_lt pktIdx single.pktsInLine_pos
  have positive : 0 < s.sharePixels := by
    by_contra none
    rw [Nat.eq_zero_of_not_pos none, Nat.mul_zero] at covered
    omega
  have rounding : s.pixelInPkt * (pktIdx % s.st20PktsInLine) <
      (pktIdx % s.st20PktsInLine + 1) * s.sharePixels := by
    by_cases several : 2 ≤ s.st20PktsInLine
    · have starts := single.starts narrow several
      rcases Nat.exists_eq_add_of_le enough with ⟨more, exceeds⟩
      rcases Nat.exists_eq_add_of_le several with ⟨rest, packets⟩
      rw [← perLine, packets, Nat.add_mul] at covered
      rw [packets, exceeds, show 2 + rest - 1 = rest + 1 from by omega, Nat.add_mul] at starts
      have inner : more * (pktIdx % s.st20PktsInLine) ≤ more * (rest + 1) :=
        Nat.mul_le_mul_left _ (by omega)
      rw [Nat.mul_comm s.sharePixels, Nat.add_mul] at starts
      rw [exceeds, Nat.add_mul, Nat.succ_mul, Nat.mul_comm s.sharePixels]
      omega
    · have zero : pktIdx % s.st20PktsInLine = 0 := by omega
      rw [zero, Nat.mul_zero, Nat.zero_add, Nat.one_mul]
      exact positive
  constructor
  · rw [single.sentRow_eq, perLine]
  · rw [sentPixel, clearBit_topBit_of_lt low, single.line1Offset_narrow narrow, firstPixel,
      ← perLine]
    apply Nat.div_eq_of_lt_le
    · rw [Nat.mul_comm]
      exact Nat.mul_le_mul_right _ enough
    · exact rounding

/-! ## Which packets are recognised -/

section Unpadded

variable (dense : s.Dense) (unpadded : cfg.st20Linesize = s.st20BytesInLine)
  (aligned : s.announcedColumn pktIdx = s.columnIn pktIdx)

include dense unpadded aligned

theorem TvSession.Dense.rxPlace_eq : s.rxPlace cfg pktIdx = s.st20PktLen * pktIdx := by
  rw [rxPlace, dense.sentRow_eq, unpadded, aligned, s.rowOf_columnIn]

/-- In lines without padding a full packet that starts a pixel group is recognised. -/
theorem TvSession.Dense.full_fits (full : s.st20PktLen * pktIdx + s.st20PktLen ≤ s.st20FrameSize) :
    FirstPktFits s cfg pktIdx := by
  have length : s.sentLen pktIdx = s.st20PktLen := by
    rw [dense.sentLen_eq]
    exact Nat.min_eq_left (by omega)
  have place := dense.rxPlace_eq unpadded aligned
  refine ⟨fun _ => ?_, Or.inl ?_⟩
  · rw [place, length]
  · rw [place, length]
    exact Nat.dvd_mul_right _ _

/-- The short packet at the end of the frame is not, when its length divides its place. -/
theorem TvSession.Dense.tail_unfit (later : 0 < pktIdx)
    (short : s.st20FrameSize < s.st20PktLen * pktIdx + s.st20PktLen)
    (divides : s.sentLen pktIdx ∣ s.st20PktLen * pktIdx) : ¬ FirstPktFits s cfg pktIdx := by
  intro fits
  have place := dense.rxPlace_eq unpadded aligned
  have same := fits.whole (place ▸ divides)
  rw [place] at same
  have length := Nat.eq_of_mul_eq_mul_right later same
  rw [dense.sentLen_eq] at length
  have packet := dense.pktLen_pos
  omega

end Unpadded

/-- A full packet of a line for itself is recognised unless its row starts at a multiple of its length, where
the packets do not fill the lines. -/
theorem TvSession.Single.full_fits_iff (single : s.Single) (packing : s.ops.packing = .gpmSl)
    (narrow : s.ops.width ≤ 34250) (low : s.line1Offset pktIdx < 32768)
    (full : s.sentLen pktIdx = s.st20PktLen) :
    FirstPktFits s cfg pktIdx ↔
      (s.st20PktLen ∣ pktIdx / s.st20PktsInLine * cfg.st20Linesize ->
        pktIdx / s.st20PktsInLine = 0 ∨ cfg.st20Linesize = s.st20PktLen * s.st20PktsInLine) := by
  have place : s.rxPlace cfg pktIdx = pktIdx / s.st20PktsInLine * cfg.st20Linesize +
      s.st20PktLen * (pktIdx % s.st20PktsInLine) := by
    rw [rxPlace, single.sentRow_eq, announcedColumn, clearBit_topBit_of_lt low,
      single.line1Offset_narrow narrow, firstPixel, single.columnOf_eq]
  have start : s.st20PktLen ∣ s.rxPlace cfg pktIdx ↔
      s.st20PktLen ∣ pktIdx / s.st20PktsInLine * cfg.st20Linesize := by
    rw [place]
    exact Nat.dvd_add_left (Nat.dvd_mul_right _ _)
  have behind : s.rxPlace cfg pktIdx = s.st20PktLen * pktIdx ↔
      pktIdx / s.st20PktsInLine = 0 ∨ cfg.st20Linesize = s.st20PktLen * s.st20PktsInLine := by
    have packets : s.st20PktLen * pktIdx = pktIdx / s.st20PktsInLine * (s.st20PktLen * s.st20PktsInLine) +
        s.st20PktLen * (pktIdx % s.st20PktsInLine) := by
      conv_lhs => rw [← Nat.div_add_mod pktIdx s.st20PktsInLine]
      ring
    rw [place, packets, Nat.add_right_cancel_iff, mul_eq_mul_left_iff]
    exact or_comm
  constructor
  · intro fits divides
    rw [← behind, ← full]
    exact fits.whole (full.symm ▸ start.mpr divides)
  · intro recognised
    refine ⟨fun divides => ?_, Or.inr (Or.inl ⟨packing, narrow⟩)⟩
    rw [full] at divides ⊢
    exact behind.mpr (recognised (start.mp divides))

/-- For every pair of accepted sessions of one format, with any line sizes, and
every packet of a frame that the receiver accepts: when it is the first of its
slot, it is recognised exactly when it fits. -/
theorem first_index_right_iff {user metaSize : Nat} {txOps : St20TxOps} {rxOps : St20RxOps}
    (sender : tvAttach (pktUdpSuggestMaxSize user) txOps = .ok s) (representable : s.Representable)
    (few : s.ops.lines ≤ 32768) (receiver : rvAttach metaSize rxOps none = .ok cfg)
    (same : SameFormat s cfg) (buffer : cfg.st20Linesize * s.ops.lines < 4294967296)
    (inFrame : pktIdx < s.st20TotalPkts)
    (accepted : rvPlace cfg (rvReadLine (framePacket s trans first pktIdx)) = .ok place) :
    FirstIdxRight cfg (framePacket s trans first pktIdx) place pktIdx first ↔
      FirstPktFits s cfg pktIdx := by
  rcases tvAttach_ok sender with ⟨rfl, plan, attached⟩
  have shared := sharedLine_of_attach attached receiver same buffer
  have nonempty := (rvPlace_ok accepted).2.2.2
  have index : (FirstIdxRight cfg (framePacket s trans first pktIdx) place pktIdx first ↔
      rvFirstPktIdx cfg (rvReadLine (framePacket s trans first pktIdx)) place = pktIdx) :=
    ⟨FirstIdxRight.index, FirstIdxRight.of_index⟩
  have several (dense : s.Dense) (other : s.ops.packing ≠ .gpmSl) :
      FirstIdxRight cfg (framePacket s trans first pktIdx) place pktIdx first ↔
        FirstPktFits s cfg pktIdx := by
    have read : PacketRead s cfg pktIdx (rvReadLine (framePacket s trans first pktIdx)) place := by
      cases extra : s.hasExtra pktIdx with
      | true => exact dense.read_extra few shared inFrame extra accepted
      | false => exact dense.read_single few shared inFrame extra accepted
    rw [index, rvFirstPktIdx_eq_iff read shared same.width nonempty (dense.sentPixel_lt inFrame)]
    constructor
    · rintro ⟨whole, part⟩
      exact ⟨whole, part.imp_right Or.inr⟩
    · intro fits
      exact ⟨fits.whole, fits.part.imp_right (fun part =>
        part.resolve_left (fun packed => other packed.1))⟩
  cases packing : s.ops.packing with
  | gpm => exact several (attached.dense_gpm representable packing) (by rw [packing]; decide)
  | bpm => exact several (attached.dense_bpm representable packing) (by rw [packing]; decide)
  | gpmSl =>
    have single := attached.single_gpmSl representable packing
    have read : PacketRead s cfg pktIdx (rvReadLine (framePacket s trans first pktIdx)) place :=
      single.read few shared inFrame accepted
    rcases single.offset_of_placed accepted with ⟨low, inLine⟩
    have pixel : s.sentPixel pktIdx = s.line1Offset pktIdx := clearBit_topBit_of_lt low
    rw [index, rvFirstPktIdx_eq_iff read shared same.width nonempty (pixel.symm ▸ inLine)]
    constructor
    · rintro ⟨whole, part⟩
      exact ⟨whole, part.imp_right Or.inr⟩
    · intro fits
      refine ⟨fits.whole, fits.part.imp_right ?_⟩
      rintro (⟨_, narrow⟩ | share)
      · exact single.inItsShare (attached.pktsInLine_gpmSl packing) narrow low
      · exact share

/-- A packet in the middle of the padded receiver's first line. -/
theorem first_index_right_hd : FirstIdxRight hdConfig
    (framePacket hdSession ⟨fun place => BitVec.ofNat 8 place, false, 90000⟩ 4294967294 3)
    ⟨3960, 1320⟩ 3 4294967294 := by
  refine (@first_index_right_iff hdSession hdConfig 3 4294967294 _ ⟨3960, 1320⟩ 0 1024 hdOps
    hdRxOps rfl ⟨by decide, by decide, by decide, by decide⟩ (by decide) rfl
    ⟨rfl, rfl, rfl, rfl⟩ (by decide) (by decide) (by decide +kernel)).mpr ⟨fun _ => rfl, Or.inl (by decide)⟩

def plainConfig : RvConfig :=
  { hdConfig with
    ops := { hdRxOps with linesize := 0 }
    st20Linesize := 4800
    st20FbSize := 5184000 }

/-- The last of the 3928 packets of a frame carries 360 bytes, which divide its
place.  Arriving first it is taken for packet 14399 and dropped. -/
theorem last_packet_misread : tvAttach (pktUdpSuggestMaxSize 0) hdOps = .ok hdSession ∧
    rvAttach 1024 { hdRxOps with linesize := 0 } none = .ok plainConfig ∧
    SameFormat hdSession plainConfig ∧
    rvPlace plainConfig (rvReadLine (framePacket hdSession ⟨fun _ => 0, false, 0⟩ 1000 3927)) =
      .ok ⟨5183640, 360⟩ ∧
    rvFirstPktIdx plainConfig
      (rvReadLine (framePacket hdSession ⟨fun _ => 0, false, 0⟩ 1000 3927)) ⟨5183640, 360⟩ =
        14399 ∧
    ¬ FirstIdxRight plainConfig (framePacket hdSession ⟨fun _ => 0, false, 0⟩ 1000 3927)
      ⟨5183640, 360⟩ 3927 1000 := by
  have misread : rvFirstPktIdx plainConfig
      (rvReadLine (framePacket hdSession ⟨fun _ => 0, false, 0⟩ 1000 3927)) ⟨5183640, 360⟩ =
        14399 := by decide +kernel
  refine ⟨rfl, rfl, ⟨rfl, rfl, rfl, rfl⟩, by decide +kernel, misread, ?_⟩
  intro right
  exact absurd (misread.symm.trans right.index) (by decide)

end MediaTransport.Video
