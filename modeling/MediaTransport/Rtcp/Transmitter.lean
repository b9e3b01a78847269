import MediaTransport.Rtcp.Packet
import MediaTransport.Rtcp.Sequence
import MediaTransport.Util.Fifo

namespace MediaTransport.Rtcp

open Library Util

/-!
# The RTCP transmitter of `mt_rtcp.c`

The transmitter keeps the last packets it sent in a ring of buffers.
`mtRtcpTxBufferRtpPackets` appends a bulk of packets and evicts old ones;
`mtRtcpTxParseRtcpPacket` reads a NACK and retransmits the ranges it names.
The position of a packet in the ring is computed from the distance of its
number to the number at the head.

Whether a buffer can be copied and how many copies the queue takes is up to
the environment.  Counters are natural numbers.
-/

/-- The bits of a buffered packet that the transmitter reads or changes, and
the rest of it, which a copy keeps. -/
structure RtpMbuf where
  seqNumber : Nat
  rowLength : Nat
  body : List Byte
  seqBound : seqNumber < 65536
  deriving DecidableEq

instance : Inhabited RtpMbuf := ⟨0, 0, [], by decide⟩

inductive MtRtpPayloadFormat where
  | raw
  | rfc4175
  | rfc9134
  deriving DecidableEq, Repr

inductive MtRtcpDropReason where
  | short
  | flags
  | name
  | len
  deriving DecidableEq, Repr

structure MtRtcpTx where
  active : Bool
  payloadFormat : MtRtpPayloadFormat
  mbufRing : MtU64Fifo RtpMbuf
  lastSeqNum : Nat
  statRtpSent : Nat
  statRtpRetransmitSucc : Nat
  statRtpRetransmitFail : Nat
  statRtpRetransmitFailNobuf : Nat
  statRtpRetransmitFailRead : Nat
  statRtpRetransmitFailObsolete : Nat
  statRtpRetransmitFailBurst : Nat
  statNackReceived : Nat
  statNackDropInvalid : Nat
  statNackDropReason : MtRtcpDropReason -> Nat
  nackDropSeen : MtRtcpDropReason -> Nat
  nackDropSampled : Bool

def mtRtcpRetransmitBulk : Nat := 32

def mtRtcpDropSample : Nat := 100

/-- `ST20_RETRANSMIT`: bit 14 of the row length. -/
def st20Retransmit : Nat := 16384

/-- A new transmitter with a ring of the given size. -/
def mtRtcpTxCreate (payloadFormat : MtRtpPayloadFormat) (bufferSize : Nat)
    (positive : 0 < bufferSize) : MtRtcpTx where
  active := true
  payloadFormat := payloadFormat
  mbufRing := mtU64FifoInit bufferSize positive
  lastSeqNum := 0
  statRtpSent := 0
  statRtpRetransmitSucc := 0
  statRtpRetransmitFail := 0
  statRtpRetransmitFailNobuf := 0
  statRtpRetransmitFailRead := 0
  statRtpRetransmitFailObsolete := 0
  statRtpRetransmitFailBurst := 0
  statNackReceived := 0
  statNackDropInvalid := 0
  statNackDropReason := fun _ => 0
  nackDropSeen := fun _ => 0
  nackDropSampled := false

/-! ## Buffering -/

/-- The packets of one call, at least one. -/
structure Bulk where
  first : RtpMbuf
  rest : List RtpMbuf

def Bulk.packets (bulk : Bulk) : List RtpMbuf := bulk.first :: bulk.rest

def Bulk.last (bulk : Bulk) : RtpMbuf := bulk.rest.getLastD bulk.first

/-- Make room for the bulk: when it does not fit, as many of the oldest
packets leave the ring as the bulk brings. -/
def rtcpTxEvict (tx : MtRtcpTx) (count : Nat) : Option MtRtcpTx :=
  if mtU64FifoFreeCount tx.mbufRing < count then
    (mtU64FifoGetBulk tx.mbufRing count).map (fun taken => { tx with mbufRing := taken.2 })
  else
    some tx

/-- The packets were evicted before their order is checked, so a refused bulk
also costs buffered packets. -/
def mtRtcpTxBufferRtpPackets (tx : MtRtcpTx) (bulk : Bulk) : MtRtcpTx × Except Errno Nat :=
  if !tx.active then
    (tx, .ok 0)
  else
    match rtcpTxEvict tx bulk.packets.length with
    | none => (tx, .error .io)
    | some tx =>
      let diff := u16 ((bulk.first.seqNumber : Int) - tx.lastSeqNum)
      if diff ≠ 1 ∧ mtU64FifoCount tx.mbufRing ≠ 0 then
        (tx, .error .io)
      else
        match mtU64FifoPutBulk tx.mbufRing bulk.packets with
        | none => (tx, .error .io)
        | some ring =>
          ({ tx with
              mbufRing := ring
              lastSeqNum := bulk.last.seqNumber
              statRtpSent := tx.statRtpSent + bulk.packets.length },
            .ok 0)

/-! ## Retransmission -/

/-- What the environment answers while one range is retransmitted: whether the
buffer at a position of the range can be copied, and how many of the copies
made from a position on the queue takes. -/
structure RetransmitEnv where
  copied : Nat -> Bool
  burst : Nat -> Nat -> Nat
  burst_le : forall done count, burst done count ≤ count

/-- `rte_pktmbuf_copy`, and the retransmit bit for RFC 4175 payloads. -/
def rtcpTxCopy (payloadFormat : MtRtpPayloadFormat) (mbuf : RtpMbuf) : RtpMbuf :=
  if payloadFormat = .rfc4175 then
    { mbuf with rowLength := mbuf.rowLength ||| st20Retransmit }
  else
    mbuf

def rtcpTxCopyCount (env : RetransmitEnv) (done count : Nat) : Nat :=
  ((List.range count).takeWhile (fun index => env.copied (done + index))).length

/-- What one call has sent so far, and its counts of packets not sent. -/
structure Retransmitted where
  sent : List RtpMbuf
  failRead : Nat
  failNobuf : Nat
  failBurst : Nat
  deriving DecidableEq

/-- The loop over chunks of `MT_RTCP_RETRANSMIT_BULK` packets. -/
def retransmitLoop (tx : MtRtcpTx) (env : RetransmitEnv) (diff bulk : Nat) :
    Nat -> Nat -> Retransmitted -> Retransmitted
  | 0, _, out => out
  | fuel + 1, done, out =>
    if done < bulk then
      let nb := min (bulk - done) mtRtcpRetransmitBulk
      match mtU64FifoReadAnyBulk tx.mbufRing nb (diff + done) with
      | none => { out with failRead := out.failRead + (bulk - done) }
      | some mbufs =>
        let nbRt := rtcpTxCopyCount env done nb
        let out := { out with
          failNobuf := out.failNobuf + (if nbRt < nb then bulk - done - nbRt else 0) }
        let copies := (mbufs.take nbRt).map (rtcpTxCopy tx.payloadFormat)
        let sent := env.burst done nbRt
        let out := { out with sent := out.sent ++ copies.take sent }
        if sent < nbRt then
          { out with failBurst := out.failBurst + (nbRt - sent) +
              (if nbRt = nb then bulk - done - nb else 0) }
        else if nbRt < nb then
          out
        else
          retransmitLoop tx env diff bulk fuel (done + nb) out
    else
      out

/-- The exit of `rtcp_tx_retransmit_rtp_packets`: the totals are counted. -/
def retransmitExit (tx : MtRtcpTx) (bulk : Nat) (out : Retransmitted) : MtRtcpTx :=
  { tx with
    statRtpRetransmitSucc := tx.statRtpRetransmitSucc + out.sent.length
    statRtpRetransmitFail := tx.statRtpRetransmitFail + (bulk - out.sent.length)
    statRtpRetransmitFailRead := tx.statRtpRetransmitFailRead + out.failRead
    statRtpRetransmitFailNobuf := tx.statRtpRetransmitFailNobuf + out.failNobuf
    statRtpRetransmitFailBurst := tx.statRtpRetransmitFailBurst + out.failBurst }

structure RetransmitResult where
  tx : MtRtcpTx
  ret : Except Errno Nat
  sent : List RtpMbuf

def nothingSent : Retransmitted where
  sent := []
  failRead := 0
  failNobuf := 0
  failBurst := 0

def rtcpTxRetransmitRtpPackets (tx : MtRtcpTx) (env : RetransmitEnv) (seq bulk : Nat) :
    RetransmitResult :=
  if bulk = 0 then
    { tx := { tx with statRtpRetransmitFail := tx.statRtpRetransmitFail + 1 }
      ret := .error .io
      sent := [] }
  else
    match mtU64FifoReadFront tx.mbufRing with
    | none => { tx := retransmitExit tx bulk nothingSent, ret := .error .io, sent := [] }
    | some head =>
      if 0 < rtpSeqNumCmp head.seqNumber seq then
        { tx := { retransmitExit tx bulk nothingSent with
            statRtpRetransmitFailObsolete := tx.statRtpRetransmitFailObsolete + bulk }
          ret := .error .io
          sent := [] }
      else
        let diff := u16 ((seq : Int) - head.seqNumber)
        if mtU64FifoCount tx.mbufRing < diff + bulk then
          { tx := retransmitExit tx bulk { nothingSent with failRead := bulk }
            ret := .error .io
            sent := [] }
        else
          let out := retransmitLoop tx env diff bulk bulk 0 nothingSent
          { tx := retransmitExit tx bulk out, ret := .ok out.sent.length, sent := out.sent }

/-! ## Reading a NACK -/

/-- Count a packet that is dropped; one in `MT_RTCP_DROP_SAMPLE` of each reason
is logged. -/
def rtcpTxDropInvalid (tx : MtRtcpTx) (reason : MtRtcpDropReason) : MtRtcpTx :=
  let seen := tx.nackDropSeen reason + 1
  { tx with
    statNackDropInvalid := tx.statNackDropInvalid + 1
    statNackDropReason :=
      Function.update tx.statNackDropReason reason (tx.statNackDropReason reason + 1)
    nackDropSeen := Function.update tx.nackDropSeen reason seen
    nackDropSampled := if seen % mtRtcpDropSample ≠ 1 then tx.nackDropSampled else true }

/-- One feedback item and the packets that were retransmitted for it. -/
structure FciOutcome where
  fci : MtRtcpFci
  sent : List RtpMbuf

structure ParseResult where
  tx : MtRtcpTx
  ret : Except Errno Nat
  outcomes : List FciOutcome

/-- The loop over the items of a NACK, from the item with the given index and
with the budget that is left. -/
def nackItemsLoop (envs : Nat -> RetransmitEnv) :
    List MtRtcpFci -> Nat -> Nat -> MtRtcpTx -> MtRtcpTx × List FciOutcome
  | [], _, _, tx => (tx, [])
  | fci :: rest, index, budget, tx =>
    let bulk := fci.follow + 1
    if budget < bulk then
      let next := nackItemsLoop envs rest (index + 1) budget
        { tx with statRtpRetransmitFail := tx.statRtpRetransmitFail + bulk }
      (next.1, { fci := fci, sent := [] } :: next.2)
    else
      let result := rtcpTxRetransmitRtpPackets tx (envs index) fci.start bulk
      let next := nackItemsLoop envs rest (index + 1) (budget - bulk) result.tx
      (next.1, { fci := fci, sent := result.sent } :: next.2)

/-- The number of bytes that the length field of the header declares. -/
def rtcpBytes (memory : Nat -> Byte) : Nat := (readBe16 memory 2 + 1) * 4

def declaredFcis (memory : Nat -> Byte) : List MtRtcpFci :=
  (List.range ((rtcpBytes memory - mtRtcpHdrSize) / mtRtcpFciSize)).map
    (fun index => readFci memory (mtRtcpHdrSize + index * mtRtcpFciSize))

def mtRtcpTxParseRtcpPacket (tx : MtRtcpTx) (memory : Nat -> Byte) (len : Nat)
    (envs : Nat -> RetransmitEnv) : ParseResult :=
  if !tx.active then
    { tx := tx, ret := .ok 0, outcomes := [] }
  else
    let tx := { tx with nackDropSampled := false }
    if len < mtRtcpHdrSize then
      { tx := rtcpTxDropInvalid tx .short, ret := .error .io, outcomes := [] }
    else if memory 0 ≠ 0x80#8 then
      { tx := rtcpTxDropInvalid tx .flags, ret := .error .io, outcomes := [] }
    else if (memory 1).toNat = mtRtcpPtypeNack then
      if (List.range 4).map (fun index => memory (8 + index)) ≠ imtlName then
        { tx := rtcpTxDropInvalid tx .name, ret := .error .io, outcomes := [] }
      else
        let tx := { tx with statNackReceived := tx.statNackReceived + 1 }
        if rtcpBytes memory < mtRtcpHdrSize ∨ len < rtcpBytes memory then
          { tx := rtcpTxDropInvalid tx .len, ret := .error .io, outcomes := [] }
        else
          let fcis := (declaredFcis memory).take mtRtcpMaxFcis
          let result := nackItemsLoop envs fcis 0 (mtU64FifoCount tx.mbufRing) tx
          { tx := result.1, ret := .ok 0, outcomes := result.2 }
    else
      { tx := tx, ret := .ok 0, outcomes := [] }

/-! ## The two entry points as one machine -/

inductive TxCall where
  | bufferRtpPackets (bulk : Bulk)
  | parseRtcpPacket (memory : Nat -> Byte) (len : Nat) (envs : Nat -> RetransmitEnv)

def TxCall.apply (tx : MtRtcpTx) : TxCall -> MtRtcpTx
  | .bufferRtpPackets bulk => (mtRtcpTxBufferRtpPackets tx bulk).1
  | .parseRtcpPacket memory len envs => (mtRtcpTxParseRtcpPacket tx memory len envs).tx

end MediaTransport.Rtcp
