import MediaTransport.Util.Errno
import MediaTransport.Video.Format

namespace MediaTransport.Video

open Library

/-!
# The ST 2110-20 transmitter

`tvAttach` and `tvInitPkt` derive the packet geometry of a session from what
the user asks for, and `tvBuildSt20` builds one packet of a frame from it.
Signed C integers are unbounded here; unsigned variables are truncated where
they are assigned.  `ceil` of a quotient of doubles is the rounded up quotient,
which is exact for the integers that occur.
-/

def ceilDiv (value divisor : Nat) : Nat := (value + divisor - 1) / divisor

/-- The part of `struct st20_tx_ops` that shapes a frame's packets. -/
structure St20TxOps where
  width : Nat
  height : Nat
  fmt : St20Fmt
  packing : St20Packing
  interlaced : Bool
  linesize : Nat
  payloadType : Nat
  ssrc : Nat

def St20TxOps.lines (ops : St20TxOps) : Nat :=
  if ops.interlaced then ops.height / 2 else ops.height

/-- The geometry in `struct st_tx_video_session_impl`, with the header fields
that every packet copies. -/
structure TvSession where
  ops : St20TxOps
  st20Pg : St20Pgroup
  st20Linesize : Nat
  st20BytesInLine : Nat
  st20FrameSize : Nat
  st20FbSize : Nat
  st20PktsInLine : Nat
  st20PktLen : Nat
  st20PktSize : Nat
  st20TotalPkts : Nat

variable (s : TvSession)

/-- What a packing mode decides: packets in a line, packet length, packets in
a frame. -/
structure PacketPlan where
  pktsInLine : Nat
  pktLen : Nat
  totalPkts : Nat

def bytesInLine (width : Nat) (pg : St20Pgroup) : Nat := ceilDiv (width * pg.size) pg.coverage

/-- `tv_init_pkt` for frames of ST 2110-20, up to the final size check. -/
def tvInitPktPlan (suggest : Nat) (ops : St20TxOps) (pg : St20Pgroup) (frameSize : Nat) :
    Except Errno PacketPlan :=
  match ops.packing with
  | .gpmSl =>
    let bytesInPkt := stPktMaxEtherBytes - rfc4175VideoHdrSize
    let pktsInLine := bytesInLine ops.width pg / bytesInPkt + 1
    let pixelInPkt := ceilDiv ops.width pktsInLine
    let pktLen := u16 (ceilDiv pixelInPkt pg.coverage * pg.size : Nat)
    .ok { pktsInLine := pktsInLine, pktLen := pktLen, totalPkts := ops.lines * pktsInLine }
  | .bpm =>
    if stVideoBpmSize % pg.size ≠ 0 then
      .error .io
    else
      .ok
        { pktsInLine := 0
          pktLen := stVideoBpmSize
          totalPkts := ceilDiv frameSize stVideoBpmSize }
  | .gpm =>
    let maxDataLen := suggest - rfc4175RtpHdrSize - rfc4175ExtraHdrSize
    let align := pg.size * 2
    let pgPerPkt := maxDataLen / align * align / pg.size
    .ok
      { pktsInLine := 0
        pktLen := u16 (pgPerPkt * pg.size : Nat)
        totalPkts := ceilDiv (ops.width * ops.lines) (pg.coverage * pgPerPkt) }

/-- The line size of a session: the user's when it is larger than a line. -/
def tvLinesize (ops : St20TxOps) (pg : St20Pgroup) : Except Errno Nat :=
  let line := bytesInLine ops.width pg
  if line < ops.linesize then
    .ok ops.linesize
  else if ops.linesize ≠ 0 then
    .error .inval
  else
    .ok line

/-- `tv_attach` as far as it shapes packets. -/
def tvAttach (suggest : Nat) (ops : St20TxOps) : Except Errno TvSession :=
  let pg := st20GetPgroup ops.fmt
  match tvLinesize ops pg with
  | .error error => .error error
  | .ok linesize =>
    let frameSize := u32 (ops.width * ops.lines * pg.size : Nat) / pg.coverage
    match tvInitPktPlan suggest ops pg frameSize with
    | .error error => .error error
    | .ok plan =>
      let pktSize := u16 (plan.pktLen + rfc4175VideoHdrSize : Nat)
      if stPktMaxEtherBytes < pktSize then
        .error .io
      else
        .ok
          { ops := ops
            st20Pg := pg
            st20Linesize := linesize
            st20BytesInLine := bytesInLine ops.width pg
            st20FrameSize := frameSize
            st20FbSize := linesize * ops.lines
            st20PktsInLine := plan.pktsInLine
            st20PktLen := plan.pktLen
            st20PktSize := pktSize
            st20TotalPkts := plan.totalPkts }

/-! ## Building a packet -/

/-- `struct st_frame_trans`: the frame that is on its way out. -/
structure StFrameTrans where
  addr : Nat -> Byte
  secondField : Bool
  rtpTimeStamp : Nat

namespace TvSession

variable (pktIdx : Nat)

def singleLine : Bool := decide (s.ops.packing = .gpmSl)

def padded : Bool := decide (s.st20BytesInLine < s.st20Linesize)

/-- `tv_pkt_has_extra_hdr`. -/
def tvPktHasExtraHdr (offset : Nat) : Bool :=
  let last := u32 (offset + s.st20PktLen : Nat)
  decide (u32 ((offset / s.st20BytesInLine + 1) * s.st20BytesInLine : Nat) < last) &&
    decide (last < s.st20FrameSize)

def line1Number : Nat :=
  if s.singleLine then
    u16 (pktIdx / s.st20PktsInLine : Nat)
  else
    u16 (u32 (s.st20PktLen * pktIdx : Nat) / s.st20BytesInLine : Nat)

def line1Offset : Nat :=
  if s.singleLine then
    let pixelInPkt := s.st20PktLen / s.st20Pg.size * s.st20Pg.coverage
    u16 (pixelInPkt * (pktIdx % s.st20PktsInLine) : Nat)
  else
    u16 (u32 (s.st20PktLen * pktIdx : Nat) % s.st20BytesInLine *
      s.st20Pg.coverage / s.st20Pg.size : Nat)

/-- `offset` before the copy: with single lines a place in the frame buffer,
otherwise a place among the active bytes. -/
def offset : Nat :=
  if s.singleLine then
    u32 (s.line1Number pktIdx * s.st20Linesize +
      s.line1Offset pktIdx / s.st20Pg.coverage * s.st20Pg.size : Nat)
  else
    u32 (s.st20PktLen * pktIdx : Nat)

def hasExtra : Bool :=
  !s.singleLine && s.tvPktHasExtraHdr (s.offset pktIdx)

def leftLen : Nat :=
  let temp :=
    if s.singleLine then
      u32 (u32 ((s.ops.width : Int) - s.line1Offset pktIdx) / s.st20Pg.coverage *
        s.st20Pg.size : Nat)
    else
      u32 ((s.st20FrameSize : Int) - s.offset pktIdx)
  u16 (min s.st20PktLen temp : Nat)

def line1Length : Nat :=
  u16 (((s.line1Number pktIdx + 1) * s.st20BytesInLine : Nat) - (s.offset pktIdx : Int))

def line2Length : Nat :=
  u16 ((s.st20PktLen : Int) - s.line1Length pktIdx)

/-- `offset` with the line padding added, where the copy starts. -/
def copyOffset : Nat :=
  if !s.singleLine && s.padded then
    u32 (s.offset pktIdx % s.st20BytesInLine + s.line1Number pktIdx * s.st20Linesize : Nat)
  else
    s.offset pktIdx

end TvSession

def copyBytes {Value : Type} (addr : Nat -> Value) (place length : Nat) : List Value :=
  (List.range length).map (fun index => addr (place + index))

/-- The payload that `tv_build_st20` copies out of a frame buffer.  The places
it copies from are the payload of a memory that holds its own places. -/
def tvPayload {Value : Type} (s : TvSession) (addr : Nat -> Value) (pktIdx : Nat) : List Value :=
  if s.hasExtra pktIdx && s.padded then
    copyBytes addr (s.copyOffset pktIdx) (s.line1Length pktIdx) ++
      copyBytes addr (s.st20Linesize * (s.line1Number pktIdx + 1)) (s.line2Length pktIdx)
  else
    copyBytes addr (s.copyOffset pktIdx) (s.leftLen pktIdx)

def tvExtraHdr (secondField : Bool) (pktIdx : Nat) : Rfc4175ExtraHdr :=
  let field := if secondField then setBit topBit else id
  { rowLength := s.line2Length pktIdx
    rowNumber := u16 (field (s.line1Number pktIdx + 1) : Nat)
    rowOffset := 0 }

/-- `tv_build_st20`: the packet with index `pktIdx` of a frame. -/
def tvBuildSt20 (trans : StFrameTrans) (pktIdx seqId : Nat) : Rfc4175Packet :=
  let field := if trans.secondField then setBit topBit else id
  let extra := s.hasExtra pktIdx
  { marker := decide (s.st20TotalPkts ≤ pktIdx + 1)
    payloadType := s.ops.payloadType
    seqNumber := u16 seqId
    seqNumberExt := u16 (seqId / 65536 : Nat)
    tmstamp := trans.rtpTimeStamp
    ssrc := s.ops.ssrc
    rowLength := if extra then s.line1Length pktIdx else s.leftLen pktIdx
    rowNumber := field (s.line1Number pktIdx)
    rowOffset := if extra then setBit topBit (s.line1Offset pktIdx) else s.line1Offset pktIdx
    body :=
      (if extra then (tvExtraHdr s trans.secondField pktIdx).bytes else []) ++
        tvPayload s trans.addr pktIdx }

/-- The packets of one frame, built one after another while `st20_seq_id`
counts up from `seqId`. -/
def tvFramePackets (trans : StFrameTrans) (seqId : Nat) : List Rfc4175Packet :=
  (List.range s.st20TotalPkts).map
    (fun (pktIdx : Nat) => tvBuildSt20 s trans pktIdx (u32 (seqId + pktIdx : Nat)))

/-! ## Two sessions -/

def hdOps : St20TxOps :=
  { width := 1920, height := 1080, fmt := .yuv422Bit10, packing := .gpm, interlaced := false
    linesize := 0, payloadType := 112, ssrc := 1193040 }

def hdSession : TvSession :=
  { ops := hdOps, st20Pg := st20GetPgroup .yuv422Bit10, st20Linesize := 4800
    st20BytesInLine := 4800, st20FrameSize := 5184000, st20FbSize := 5184000, st20PktsInLine := 0
    st20PktLen := 1320, st20PktSize := 1382, st20TotalPkts := 3928 }

example : tvAttach (pktUdpSuggestMaxSize 0) hdOps = .ok hdSession := rfl

def qvgaOps : St20TxOps :=
  { width := 320, height := 240, fmt := .yuv422Bit10, packing := .gpm, interlaced := false
    linesize := 0, payloadType := 112, ssrc := 1193040 }

def qvgaSession : TvSession :=
  { ops := qvgaOps, st20Pg := st20GetPgroup .yuv422Bit10, st20Linesize := 800
    st20BytesInLine := 800, st20FrameSize := 192000, st20FbSize := 192000, st20PktsInLine := 0
    st20PktLen := 1320, st20PktSize := 1382, st20TotalPkts := 146 }

end MediaTransport.Video
