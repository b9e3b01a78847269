import MediaTransport.Library.Wire

namespace MediaTransport.Video

open Library

/-!
# Formats and headers of ST 2110-20

A pixel group is the smallest unit of a format that occupies whole bytes.
Here are the sizes of the source's headers, the bits that they reuse, and the
RFC 4175 packet as both sides see it: the fields of the fixed header, and behind
them the bytes of the packet, which begin with a second line header when the
continuation bit is set.
-/

inductive St20Fmt where
  | yuv422Bit10
  | yuv422Bit8
  | yuv422Bit12
  | yuv422Bit16
  | yuv420Bit8
  | yuv420Bit10
  | yuv420Bit12
  | yuv420Bit16
  | rgbBit8
  | rgbBit10
  | rgbBit12
  | rgbBit16
  | yuv444Bit8
  | yuv444Bit10
  | yuv444Bit12
  | yuv444Bit16
  | yuv422Planar10le
  | v210
  deriving DecidableEq, Repr

/-- `struct st20_pgroup`: bytes and pixels of a pixel group.  No format has
more pixels than bytes in a group, and no group is longer than fifteen bytes. -/
structure St20Pgroup where
  size : Nat
  coverage : Nat
  coverage_pos : 0 < coverage
  coverage_le : coverage ≤ size
  size_le : size ≤ 15

/-- `st20_get_pgroup`: every format has an entry in the table. -/
def st20GetPgroup : St20Fmt -> St20Pgroup
  | .yuv422Bit10 => ⟨5, 2, by decide, by decide, by decide⟩
  | .yuv422Bit8 => ⟨4, 2, by decide, by decide, by decide⟩
  | .yuv422Bit12 => ⟨6, 2, by decide, by decide, by decide⟩
  | .yuv422Bit16 => ⟨8, 2, by decide, by decide, by decide⟩
  | .yuv420Bit8 => ⟨6, 4, by decide, by decide, by decide⟩
  | .yuv420Bit10 => ⟨15, 8, by decide, by decide, by decide⟩
  | .yuv420Bit12 => ⟨9, 4, by decide, by decide, by decide⟩
  | .yuv420Bit16 => ⟨12, 4, by decide, by decide, by decide⟩
  | .rgbBit8 => ⟨3, 1, by decide, by decide, by decide⟩
  | .rgbBit10 => ⟨15, 4, by decide, by decide, by decide⟩
  | .rgbBit12 => ⟨9, 2, by decide, by decide, by decide⟩
  | .rgbBit16 => ⟨6, 1, by decide, by decide, by decide⟩
  | .yuv444Bit8 => ⟨3, 1, by decide, by decide, by decide⟩
  | .yuv444Bit10 => ⟨15, 4, by decide, by decide, by decide⟩
  | .yuv444Bit12 => ⟨9, 2, by decide, by decide, by decide⟩
  | .yuv444Bit16 => ⟨6, 1, by decide, by decide, by decide⟩
  | .yuv422Planar10le => ⟨4, 1, by decide, by decide, by decide⟩
  | .v210 => ⟨8, 3, by decide, by decide, by decide⟩

theorem St20Pgroup.size_pos (pg : St20Pgroup) : 0 < pg.size :=
  Nat.lt_of_lt_of_le pg.coverage_pos pg.coverage_le

inductive St20Packing where
  | bpm
  | gpm
  | gpmSl
  deriving DecidableEq, Repr

/-- `sizeof(struct st_rfc4175_video_hdr)`: Ethernet, IPv4, UDP and RFC 4175. -/
def rfc4175VideoHdrSize : Nat := 62

/-- `sizeof(struct st20_rfc4175_rtp_hdr)`. -/
def rfc4175RtpHdrSize : Nat := 20

/-- `sizeof(struct st20_rfc4175_extra_rtp_hdr)`. -/
def rfc4175ExtraHdrSize : Nat := 6

def stPktMaxEtherBytes : Nat := 1494

def stVideoBpmSize : Nat := 1260

/-- `impl->pkt_udp_suggest_max_size`, from the value the user asks for. -/
def pktUdpSuggestMaxSize (user : Nat) : Nat :=
  if 1000 < user ∧ user < 1452 then user else 1352

theorem pktUdpSuggestMaxSize_bounds (user : Nat) :
    1000 < pktUdpSuggestMaxSize user ∧ pktUdpSuggestMaxSize user < 1452 := by
  unfold pktUdpSuggestMaxSize
  split
  · assumption
  · decide

/-- The top bit of a sixteen-bit header field: the field bit of a row number,
the continuation bit of a row offset, the user-meta bit of a row length. -/
def topBit : Nat := 32768

/-- `ST20_RETRANSMIT` in a row length. -/
def retransmitBit : Nat := 16384

def hasBit (bit field : Nat) : Bool := field / bit % 2 = 1

/-- The field with the flag bit set; the source only sets a clear bit. -/
def setBit (bit field : Nat) : Nat := if hasBit bit field then field else field + bit

def clearBit (bit field : Nat) : Nat := if hasBit bit field then field - bit else field

theorem hasBit_topBit {field : Nat} (bound : field < 65536) :
    hasBit topBit field = decide (32768 ≤ field) := by
  unfold hasBit topBit
  rw [decide_eq_decide]
  omega

/-- The RFC 4175 packet as sent or received. -/
structure Rfc4175Packet where
  marker : Bool
  payloadType : Nat
  seqNumber : Nat
  seqNumberExt : Nat
  tmstamp : Nat
  ssrc : Nat
  rowLength : Nat
  rowNumber : Nat
  rowOffset : Nat
  /-- The bytes behind the fixed header. -/
  body : List Byte

variable (pkt : Rfc4175Packet)

/-- The header of the second line of a packet. -/
structure Rfc4175ExtraHdr where
  rowLength : Nat
  rowNumber : Nat
  rowOffset : Nat
  deriving DecidableEq

def Rfc4175ExtraHdr.bytes (extra : Rfc4175ExtraHdr) : List Byte :=
  be16 extra.rowLength ++ be16 extra.rowNumber ++ be16 extra.rowOffset

/-- The second line header, which is there when the continuation bit is set. -/
def Rfc4175Packet.extraRtp : Option Rfc4175ExtraHdr :=
  if hasBit topBit pkt.rowOffset then
    some
      { rowLength := readBe16 (memoryOf pkt.body) 0
        rowNumber := readBe16 (memoryOf pkt.body) 2
        rowOffset := readBe16 (memoryOf pkt.body) 4 }
  else
    none

def Rfc4175Packet.payload : List Byte :=
  if hasBit topBit pkt.rowOffset then pkt.body.drop rfc4175ExtraHdrSize else pkt.body

/-- `rfc4175_rtp_seq_id`: the thirty-two bit sequence number. -/
def Rfc4175Packet.seqId : Nat := pkt.seqNumber + pkt.seqNumberExt * 65536

end MediaTransport.Video
