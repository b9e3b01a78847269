import MediaTransport.Rtcp.Packet
import MediaTransport.Rtcp.Sequence
import MediaTransport.Util.Bitmap

namespace MediaTransport.Rtcp

open Library Util

/-!
# The RTCP receiver of `mt_rtcp.c`

The receiver keeps one bit per sequence number of a window, at the position
`seq % seq_window_size`, together with the newest number and the end of the
contiguous prefix.  `mtRtcpRxParseRtpPacket` updates them for one RTP packet;
`mtRtcpRxSendNackPacket` lists the runs of missing numbers and sends them.

Every loop of the source counts a `uint16_t` upwards until a comparison
fails.  The model gives each loop a fuel of one full circle, which no loop
uses up.
-/

structure MtRtcpRxOps where
  nacksSendInterval : Nat
  seqBitmapSize : Nat
  /-- The receiver that `mt_rtcp_rx_create` returns does not keep this value. -/
  seqSkipWindow : Nat

structure MtRtcpRx where
  active : Bool
  nacksSendInterval : Nat
  ssrc : Nat
  nacksSendTime : Nat
  lastSeq : Nat
  lastCont : Nat
  seqBitmap : List Byte
  seqWindowSize : Nat
  seqSkipWindow : Nat
  statRtpReceived : Nat
  statRtpLostDetected : Nat
  statNackSent : Nat
  statNackDropExceed : Nat

/-- The fields of `struct st_rfc3550_rtp_hdr` that the receiver reads. -/
structure RtpHdr where
  seqNumber : Nat
  ssrc : Nat
  seqBound : seqNumber < 65536
  ssrcBound : ssrc < 4294967296

def circle : Nat := 65536

/-- A new receiver: allocated zeroed, with `seq_skip_window` left at zero. -/
def mtRtcpRxCreate (ops : MtRtcpRxOps) (now : Nat) : MtRtcpRx where
  active := true
  nacksSendInterval := ops.nacksSendInterval
  ssrc := 0
  nacksSendTime := now
  lastSeq := 0
  lastCont := 0
  seqBitmap := List.replicate ops.seqBitmapSize 0
  seqWindowSize := u16 ((ops.seqBitmapSize : Int) * 8)
  seqSkipWindow := 0
  statRtpReceived := 0
  statRtpLostDetected := 0
  statNackSent := 0
  statNackDropExceed := 0

/-! ## One RTP packet -/

/-- The loop of `rtcp_rx_update_last_cont`, from `seq` with the last accepted
number in hand. -/
def updateLastContLoop (rx : MtRtcpRx) : Nat -> Nat -> Nat -> Nat
  | 0, _, lastCont => lastCont
  | fuel + 1, seq, lastCont =>
    if rtpSeqNumCmp seq rx.lastSeq ≤ 0 then
      if mtBitmapTest rx.seqBitmap (seq % rx.seqWindowSize : Nat) then
        updateLastContLoop rx fuel (u16 ((seq : Int) + 1)) seq
      else
        lastCont
    else
      lastCont

def rtcpRxUpdateLastCont (rx : MtRtcpRx) : MtRtcpRx :=
  { rx with lastCont :=
      updateLastContLoop rx circle (u16 ((rx.lastCont : Int) + 1)) rx.lastCont }

/-- Clear the bits of the numbers from `seq` up to, not including, `stop`. -/
def clearMissingLoop (window stop : Nat) : Nat -> Nat -> List Byte -> List Byte
  | 0, _, bitmap => bitmap
  | fuel + 1, seq, bitmap =>
    if rtpSeqNumCmp seq stop < 0 then
      clearMissingLoop window stop fuel (u16 ((seq : Int) + 1))
        (mtBitmapTestAndUnset bitmap (seq % window : Nat)).2
    else
      bitmap

/-- The branch for a number newer than `last_seq`. -/
def rtcpRxNewSeq (rx : MtRtcpRx) (seq : Nat) : MtRtcpRx :=
  let bitmap := clearMissingLoop rx.seqWindowSize seq circle (u16 ((rx.lastSeq : Int) + 1))
    rx.seqBitmap
  let rx := { rx with seqBitmap := bitmap, lastSeq := seq }
  let lastContDiff := u16 ((seq : Int) - rx.lastCont)
  if rx.seqWindowSize < lastContDiff then
    rtcpRxUpdateLastCont { rx with lastCont := u16 ((seq : Int) - rx.seqWindowSize) }
  else if lastContDiff = 1 then
    { rx with lastCont := seq }
  else
    rx

/-- The branch for a number older than `last_seq`.  The source compares `seq`
with `last_cont + 1` after promotion to `int`, so the sum is not truncated. -/
def rtcpRxOldSeq (rx : MtRtcpRx) (seq : Nat) : MtRtcpRx :=
  if (seq : Int) = (rx.lastCont : Int) + 1 then
    rtcpRxUpdateLastCont { rx with lastCont := seq }
  else
    rx

/-- The updates that depend on how the number compares with `last_seq`. -/
def rtcpRxPlaceSeq (rx : MtRtcpRx) (seq : Nat) : MtRtcpRx :=
  if 0 < rtpSeqNumCmp seq rx.lastSeq then
    rtcpRxNewSeq rx seq
  else if rtpSeqNumCmp seq rx.lastSeq < 0 then
    rtcpRxOldSeq rx seq
  else
    rx

def rtcpRxFirstSeq (rx : MtRtcpRx) (rtp : RtpHdr) : MtRtcpRx :=
  { rx with ssrc := rtp.ssrc, lastCont := rtp.seqNumber, lastSeq := rtp.seqNumber }

/-- Both paths of the source end by recording the number and counting it. -/
def rtcpRxRecordSeq (rx : MtRtcpRx) (seq : Nat) : MtRtcpRx :=
  { rx with
    seqBitmap := (mtBitmapTestAndSet rx.seqBitmap (seq % rx.seqWindowSize : Nat)).2
    statRtpReceived := rx.statRtpReceived + 1 }

def mtRtcpRxParseRtpPacket (rx : MtRtcpRx) (rtp : RtpHdr) : MtRtcpRx :=
  if !rx.active then
    rx
  else if rx.ssrc = 0 then
    rtcpRxRecordSeq (rtcpRxFirstSeq rx rtp) rtp.seqNumber
  else
    rtcpRxRecordSeq (rtcpRxPlaceSeq rx rtp.seqNumber) rtp.seqNumber

theorem mtRtcpRxParseRtpPacket_inactive {rx : MtRtcpRx} (inactive : rx.active = false)
    (rtp : RtpHdr) : mtRtcpRxParseRtpPacket rx rtp = rx := by
  unfold mtRtcpRxParseRtpPacket
  rw [if_pos (by simp [inactive])]

theorem mtRtcpRxParseRtpPacket_first {rx : MtRtcpRx} (active : rx.active = true)
    (unset : rx.ssrc = 0) (rtp : RtpHdr) :
    mtRtcpRxParseRtpPacket rx rtp = rtcpRxRecordSeq (rtcpRxFirstSeq rx rtp) rtp.seqNumber := by
  unfold mtRtcpRxParseRtpPacket
  rw [if_neg (by simp [active]), if_pos unset]

theorem mtRtcpRxParseRtpPacket_later {rx : MtRtcpRx} (active : rx.active = true)
    (set : rx.ssrc ≠ 0) (rtp : RtpHdr) :
    mtRtcpRxParseRtpPacket rx rtp =
      rtcpRxRecordSeq (rtcpRxPlaceSeq rx rtp.seqNumber) rtp.seqNumber := by
  unfold mtRtcpRxParseRtpPacket
  rw [if_neg (by simp [active]), if_neg set]

/-! ## One NACK -/

/-- The variables of the loop that looks for missing packets. -/
structure NackScan where
  seq : Nat
  start : Nat
  miss : Nat
  fcis : List MtRtcpFci
  lost : Nat

/-- Scan the numbers up to and including `stop`.  The error carries the scan
at the moment when the list of items is full. -/
def nackScanLoop (bitmap : List Byte) (window stop : Nat) :
    Nat -> NackScan -> Except NackScan NackScan
  | 0, scan => .ok scan
  | fuel + 1, scan =>
    if rtpSeqNumCmp scan.seq stop ≤ 0 then
      if mtBitmapTest bitmap (scan.seq % window : Nat) then
        if scan.miss ≠ 0 then
          let fcis := scan.fcis ++
            [{ start := scan.start, follow := u16 ((scan.miss : Int) - 1) }]
          if mtRtcpMaxFcis ≤ fcis.length then
            .error { scan with fcis := fcis }
          else
            nackScanLoop bitmap window stop fuel
              { seq := u16 ((scan.seq : Int) + 1), start := u16 ((scan.seq : Int) + 1),
                miss := 0, fcis := fcis, lost := scan.lost + scan.miss }
        else
          nackScanLoop bitmap window stop fuel
            { scan with seq := u16 ((scan.seq : Int) + 1),
                        start := u16 ((scan.seq : Int) + 1) }
      else
        nackScanLoop bitmap window stop fuel
          { scan with seq := u16 ((scan.seq : Int) + 1),
                      miss := u16 ((scan.miss : Int) + 1) }
    else
      .ok scan

/-- What the environment answers during one call. -/
structure NackEnv where
  now : Nat
  pktAlloc : Bool
  txBurst : Nat

/-- A NACK as handed to the transmit queue, with the lengths of its headers. -/
structure NackPacket where
  ssrc : Nat
  fcis : List MtRtcpFci
  deriving DecidableEq

variable (packet : NackPacket)

def NackPacket.rtcp : List Byte := nackBytes packet.ssrc packet.fcis

/-- `pkt->data_len`, and `pkt->pkt_len` with it. -/
def NackPacket.dataLen : Nat :=
  mtUdpHdrSize + (mtRtcpHdrSize + packet.fcis.length * mtRtcpFciSize)

/-- `udp->dgram_len`: everything behind the Ethernet and IPv4 headers. -/
def NackPacket.dgramLen : Nat := u16 ((packet.dataLen : Int) - 14 - 20)

structure NackResult where
  rx : MtRtcpRx
  ret : Except Errno Nat
  /-- The packet passed to `mt_sys_queue_tx_burst`, if one was built. -/
  packet : Option NackPacket

def NackResult.Sent (result : NackResult) (packet : NackPacket) : Prop :=
  result.packet = some packet ∧ result.ret = .ok 0

instance (result : NackResult) (packet : NackPacket) : Decidable (result.Sent packet) :=
  inferInstanceAs (Decidable (_ ∧ _))

def rtcpRxNackStart (rx : MtRtcpRx) : NackScan where
  seq := u16 ((rx.lastCont : Int) + 1)
  start := u16 ((rx.lastCont : Int) + 1)
  miss := 0
  fcis := []
  lost := 0

/-- `end`, the number at which the scan stops. -/
def rtcpRxNackEnd (rx : MtRtcpRx) : Nat := u16 ((rx.lastSeq : Int) - rx.seqSkipWindow)

/-- The scan runs with the bit of `end` set, so that the last run is closed. -/
def rtcpRxNackScan (rx : MtRtcpRx) : Except NackScan NackScan :=
  nackScanLoop
    (mtBitmapTestAndSet rx.seqBitmap (rtcpRxNackEnd rx % rx.seqWindowSize : Nat)).2
    rx.seqWindowSize (rtcpRxNackEnd rx) circle (rtcpRxNackStart rx)

/-- The bitmap after the call: the bit of `end` is cleared again if the call
had to set it. -/
def rtcpRxNackBitmap (rx : MtRtcpRx) : List Byte :=
  let marked := mtBitmapTestAndSet rx.seqBitmap (rtcpRxNackEnd rx % rx.seqWindowSize : Nat)
  if marked.1 then
    marked.2
  else
    (mtBitmapTestAndUnset marked.2 (rtcpRxNackEnd rx % rx.seqWindowSize : Nat)).2

/-- The call from the scan on, with a buffer for the packet in hand. -/
def rtcpRxNackFinish (rx : MtRtcpRx) (txBurst : Nat) : NackResult :=
  match rtcpRxNackScan rx with
  | .error scan =>
    { rx := { rx with
        seqBitmap := rtcpRxNackBitmap rx
        statNackDropExceed := rx.statNackDropExceed + scan.fcis.length
        statRtpLostDetected := rx.statRtpLostDetected + scan.lost }
      ret := .error .inval
      packet := none }
  | .ok scan =>
    let rx := { rx with
      seqBitmap := rtcpRxNackBitmap rx
      statRtpLostDetected := rx.statRtpLostDetected + scan.lost }
    if scan.fcis.length = 0 then
      { rx := rx, ret := .ok 0, packet := none }
    else
      let packet : NackPacket := { ssrc := rx.ssrc, fcis := scan.fcis }
      if txBurst ≠ 1 then
        { rx := rx, ret := .error .io, packet := some packet }
      else
        { rx := { rx with statNackSent := rx.statNackSent + 1 }
          ret := .ok 0
          packet := some packet }

def mtRtcpRxSendNackPacket (rx : MtRtcpRx) (env : NackEnv) : NackResult :=
  if !rx.active then
    { rx := rx, ret := .ok 0, packet := none }
  else if env.now < rx.nacksSendTime then
    { rx := rx, ret := .ok 0, packet := none }
  else
    let rx := { rx with nacksSendTime := env.now + rx.nacksSendInterval }
    if !env.pktAlloc then
      { rx := rx, ret := .error .nomem, packet := none }
    else
      rtcpRxNackFinish rx env.txBurst

/-! ## The two entry points as one machine -/

/-- What the session does with its receiver. -/
inductive RxCall where
  | parseRtpPacket (rtp : RtpHdr)
  | sendNackPacket (env : NackEnv)

def RxCall.apply (rx : MtRtcpRx) : RxCall -> MtRtcpRx
  | .parseRtpPacket rtp => mtRtcpRxParseRtpPacket rx rtp
  | .sendNackPacket env => (mtRtcpRxSendNackPacket rx env).rx

end MediaTransport.Rtcp
