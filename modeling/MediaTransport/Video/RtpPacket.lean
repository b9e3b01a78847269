import MediaTransport.Video.Receiver

namespace MediaTransport.Video

open Library Util

/-!
# Handling a packet of a session at the RTP level

`rv_handle_rtp_pkt` in the order of the source.  Whole packets go to the
application through a ring; a slot only serves to tell new packets from
repeated ones, and holds no frame.  Both slots of the session are always in
use, and a new timestamp takes the next one whatever its value.
-/

/-- The part of a packet that the handler reads; the last field is the upper
half of a sequence number of ST 2110-20. -/
structure RvRtpPacket where
  payloadType : Nat
  ssrc : Nat
  tmstamp : Nat
  seqNumber : Nat
  seqNumberExt : Nat
  deriving DecidableEq, Repr

def RvRtpPacket.seqIdU32 (pkt : RvRtpPacket) : Nat := pkt.seqNumber + pkt.seqNumberExt * 65536

/-- The session of the other handlers with the ring to the application. -/
structure RvRtpSession where
  rv : RvSession
  /-- The session carries ST 2110-22. -/
  st22Handle : Bool
  /-- `rtps_ring`, oldest packet first. -/
  rtpsRing : List RvRtpPacket
  /-- The packets that the ring can hold. -/
  ringRoom : Nat
  pktsRtpRingFull : Nat

variable (s : RvRtpSession)

structure RvRtpResult where
  session : RvRtpSession
  ret : Except Errno Unit

namespace RvRtpSession

def withRv (rv : RvSession) : RvRtpSession := { s with rv := rv }

def drop (s : RvRtpSession) (reason : RvDrop) : RvRtpResult :=
  { session := s.withRv { s.rv with stats := s.rv.stats.drop reason }, ret := .error reason.errno }

end RvRtpSession

/-- `ST_VIDEO_RX_REC_NUM_OFO`. -/
def stVideoRxRecNumOfo : Nat := 2

/-- The checks before the slot is looked up. -/
def rvRtpHeaderCheck (cfg : RvConfig) (pkt : RvRtpPacket) : Option RvDrop :=
  if cfg.ops.payloadType ≠ 0 ∧ pkt.payloadType ≠ cfg.ops.payloadType then
    some .wrongPt
  else if cfg.ops.ssrc ≠ 0 ∧ pkt.ssrc ≠ cfg.ops.ssrc then
    some .wrongSsrc
  else
    none

/-! ## The slot of a timestamp -/

def rvRtpFindSlot (s : RvSession) (tmstamp : Nat) : Option Nat :=
  (List.range stVideoRxRecNumOfo).find? (fun idx => decide ((s.slots idx).tmstamp = tmstamp))

/-- A slot starts to collect another timestamp; its high-water marks stay. -/
def RvSlot.rtpRestart (slot : RvSlot) (cfg : RvConfig) (tmstamp : Nat) : RvSlot :=
  { slot with
    tmstamp := tmstamp
    seqIdGot := false
    frameBitmap := List.replicate cfg.st20FrameBitmapSize 0 }

def rvRtpNextSlot (s : RvSession) : Nat := ((s.slotIdx + 1) % stVideoRxRecNumOfo).toNat

/-- `rv_rtp_slot_by_tmstamp`. -/
def rvRtpSlotByTmstamp (s : RvSession) (tmstamp : Nat) : RvSession × Nat :=
  match rvRtpFindSlot s tmstamp with
  | some idx => (s, idx)
  | none =>
    let idx := rvRtpNextSlot s
    ({ s.setSlot idx ((s.slots idx).rtpRestart s.cfg tmstamp) with slotIdx := idx }, idx)

/-! ## The handler -/

/-- The index of a later packet, around the circle of its sequence numbers. -/
def rvRtpPktIdx (st22Handle : Bool) (slot : RvSlot) (pkt : RvRtpPacket) : Nat :=
  if st22Handle then
    u16 ((pkt.seqNumber : Int) - slot.seqIdBase)
  else
    u32 ((pkt.seqIdU32 : Int) - slot.seqIdBaseU32)

/-- A gap in the indices of a port is counted as loss at once, and a packet
behind the high-water mark as reordered. -/
def rvRtpCountGap (stats : RvStats) (port : MtlSessionPort) (last : Int) (pktIdx : Nat) :
    RvStats :=
  let values := stats.port port
  if last + 1 < pktIdx ∧ 0 ≤ last then
    let gap := ((pktIdx : Int) - last - 1).toNat
    { stats.setPort port { values with lostPackets := values.lostPackets + gap } with
      lostPackets := stats.lostPackets + gap }
  else if (pktIdx : Int) < last then
    stats.setPort port { values with reorderedPackets := values.reorderedPackets + 1 }
  else
    stats

def rvRtpCountFrame (stats : RvStats) (port : MtlSessionPort) : RvStats :=
  let values := stats.port port
  { stats.setPort port { values with frames := values.frames + 1 } with
    framesReceived := stats.framesReceived + 1 }

/-- The packet goes to the application. -/
def rvRtpEnqueue (pkt : RvRtpPacket) : RvRtpResult :=
  if s.rtpsRing.length < s.ringRoom then
    { session :=
        { s with
          rtpsRing := s.rtpsRing ++ [pkt]
          rv := s.rv.withStats { s.rv.stats with pktsReceived := s.rv.stats.pktsReceived + 1 } }
      ret := .ok () }
  else
    { session := { s with pktsRtpRingFull := s.pktsRtpRingFull + 1 }, ret := .error .io }

def RvSlot.rtpAdvance (slot : RvSlot) (pktIdx : Nat) (port : MtlSessionPort) : RvSlot :=
  if slot.lastPktIdx port < pktIdx then
    { slot with lastPktIdx := Function.update slot.lastPktIdx port (pktIdx : Int) }
  else
    slot

/-- The handler once the slot is known. -/
def rvRtpHandleInSlot (slotIdx : Nat) (pkt : RvRtpPacket) (port : MtlSessionPort) : RvRtpResult :=
  let slot := s.rv.slots slotIdx
  if slot.seqIdGot then
    let pktIdx := rvRtpPktIdx s.st22Handle slot pkt
    if s.rv.cfg.st20FrameBitmapSize * 8 ≤ pktIdx then
      s.drop .idxOoBitmap
    else
      let (isSet, bitmap) := mtBitmapTestAndSet slot.frameBitmap pktIdx
      if isSet then
        { session := s.withRv (s.rv.withStats
            { s.rv.stats with pktsRedundant := s.rv.stats.pktsRedundant + 1 })
          ret := .ok () }
      else
        let marked := { slot with frameBitmap := bitmap }
        let rv := s.rv.withStats (rvRtpCountGap s.rv.stats port (slot.lastPktIdx port) pktIdx)
        rvRtpEnqueue (s.withRv (rv.setSlot slotIdx (marked.rtpAdvance pktIdx port))) pkt
  else
    let first :=
      { slot with
        seqIdBase := pkt.seqNumber
        seqIdBaseU32 := pkt.seqIdU32
        seqIdGot := true
        frameBitmap := (mtBitmapTestAndSet slot.frameBitmap 0).2 }
    let rv := s.rv.withStats (rvRtpCountFrame s.rv.stats port)
    rvRtpEnqueue (s.withRv (rv.setSlot slotIdx (first.rtpAdvance 0 port))) pkt

/-- `rv_handle_rtp_pkt`. -/
def rvHandleRtpPkt (pkt : RvRtpPacket) (port : MtlSessionPort) : RvRtpResult :=
  match rvRtpHeaderCheck s.rv.cfg pkt with
  | some reason => s.drop reason
  | none =>
    let found := rvRtpSlotByTmstamp s.rv pkt.tmstamp
    rvRtpHandleInSlot (s.withRv found.1) found.2 pkt port

end MediaTransport.Video
