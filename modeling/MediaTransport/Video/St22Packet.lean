import MediaTransport.Video.FramePacket

namespace MediaTransport.Video

open Library Util

/-!
# Handling a packet of ST 2110-22

`rv_handle_st22_pkt` in the order of the source.  A packet carries a counter
that says which piece of the codestream it holds.  The packet with counter
zero may start with boxes, which are not part of the codestream and shift
every later piece.  The packet with the marker ends the frame and so tells its
size, which the session keeps until a frame is handed over.
-/

/-! ## The packet -/

variable (cfg : RvConfig) (env : RvEnv) (s : RvSession)

/-- The RFC 9134 packet as sent or received; the counters are split over the
bit fields of the header. -/
structure Rfc9134Packet where
  marker : Bool
  payloadType : Nat
  seqNumber : Nat
  tmstamp : Nat
  ssrc : Nat
  kmode : Bool
  interlaced : Nat
  lastPacket : Bool
  fCounterLo : Nat
  fCounterHi : Nat
  sepCounterLo : Nat
  sepCounterHi : Nat
  pCounterLo : Nat
  pCounterHi : Nat
  payload : List Byte

variable (slotIdx frame : Nat) (slot : RvSlot) (pkt : Rfc9134Packet)

/-- `pkt_counter`. -/
def Rfc9134Packet.counter : Nat :=
  let pCounter := pkt.pCounterLo + pkt.pCounterHi * 256
  let sepCounter := pkt.sepCounterLo + pkt.sepCounterHi * 32
  pCounter + sepCounter * 2048

/-- The checks before the slot is looked up. -/
def rvSt22HeaderCheck : Option RvDrop :=
  if cfg.ops.payloadType ≠ 0 ∧ pkt.payloadType ≠ cfg.ops.payloadType then
    some .wrongPt
  else if cfg.ops.ssrc ≠ 0 ∧ pkt.ssrc ≠ cfg.ops.ssrc then
    some .wrongSsrc
  else if pkt.kmode then
    some .wrongKmod
  else if cfg.ops.interlaced then
    if pkt.interlaced / 2 % 2 = 1 then none else some .wrongInterlace
  else if pkt.interlaced ≠ 0 then
    some .wrongInterlace
  else
    none

/-! ## Boxes -/

def readBe32 (memory : Nat -> Byte) (position : Nat) : Nat :=
  readBe16 memory position * 65536 + readBe16 memory (position + 2)

def st22BoxSize : Nat := 8

def jpvsTag : List Byte := [0x6a, 0x70, 0x76, 0x73]

def colrTag : List Byte := [0x63, 0x6f, 0x6c, 0x72]

/-- The length of the box of the given type at the start of the bytes, zero
when there is none; `none` when the box claims a length that cannot be. -/
def st22BoxLength (tag bytes : List Byte) : Option Nat :=
  if bytes.length < st22BoxSize then
    some 0
  else if (bytes.drop 4).take 4 = tag then
    let lbox := readBe32 (memoryOf bytes) 0
    if lbox < st22BoxSize ∨ bytes.length < lbox then none else some lbox
  else
    some 0

/-- `rv_parse_st22_boxes`: the length of both boxes together. -/
def rvParseSt22Boxes (payload : List Byte) : Option Nat :=
  match st22BoxLength jpvsTag payload with
  | none => none
  | some jpvsLen =>
    match st22BoxLength colrTag (payload.drop jpvsLen) with
    | none => none
    | some colrLen => if 512 < jpvsLen + colrLen then none else some (jpvsLen + colrLen)

/-! ## The index of a packet -/

def RvConfig.disableBoxes (cfg : RvConfig) : Bool :=
  match cfg.st22 with
  | some ops => ops.disableBoxes
  | none => false

def rvSt22BoxHdrLength : Option Nat :=
  if pkt.counter = 0 then
    if cfg.disableBoxes then some 0 else rvParseSt22Boxes pkt.payload
  else
    some slot.st22BoxHdrLength

/-- What the slot makes of a packet.  A dropped packet may have changed the
slot before it was dropped. -/
inductive RvSt22Index where
  | drop (reason : RvDrop) (slot : RvSlot)
  | redundant
  | fresh (pktIdx : Nat) (slot : RvSlot) (reordered : Bool)

/-- Finding the index of a packet and marking it in the bitmap. -/
def rvSt22Index (port : MtlSessionPort) : RvSt22Index :=
  if slot.seqIdGot then
    if pkt.marker = false ∧ pkt.payload.length ≠ slot.st22PayloadLength then
      .drop .wrongLen slot
    else
      let pktIdx := u16 ((pkt.seqNumber : Int) - slot.seqIdBase)
      if cfg.st20FrameBitmapSize * 8 ≤ pktIdx then
        .drop .idxOoBitmap slot
      else
        let (isSet, bitmap) := mtBitmapTestAndSet slot.frameBitmap pktIdx
        if isSet then
          .redundant
        else
          .fresh pktIdx { slot with frameBitmap := bitmap }
            (decide ((pktIdx : Int) < slot.lastPktIdx port))
  else
    match rvSt22BoxHdrLength cfg slot pkt with
    | none => .drop .idx slot
    | some boxHdrLength =>
      let slot := { slot with st22BoxHdrLength := boxHdrLength }
      let pktIdx := pkt.counter
      if cfg.st20FrameBitmapSize * 8 ≤ pktIdx then
        .drop .idxOoBitmap slot
      else
        .fresh pktIdx
          { slot with
            seqIdBase := u16 ((pkt.seqNumber : Int) - pktIdx)
            st22PayloadLength := pkt.payload.length
            seqIdGot := true
            frameBitmap := (mtBitmapTestAndSet slot.frameBitmap pktIdx).2 }
          false

/-- Where the payload goes and what is left of it. -/
structure RvSt22Piece where
  offset : Nat
  bytes : List Byte

/-- The checks of offset and length. -/
def rvSt22Place : Except RvDrop RvSt22Piece :=
  if pkt.counter = 0 then
    if pkt.payload.length < slot.st22BoxHdrLength then
      .error .wrongLen
    else if cfg.st20FrameSize < pkt.payload.length - slot.st22BoxHdrLength then
      .error .offset
    else
      .ok ⟨0, pkt.payload.drop slot.st22BoxHdrLength⟩
  else if slot.st22PayloadLength < slot.st22BoxHdrLength then
    .error .wrongLen
  else
    let offset := pkt.counter * slot.st22PayloadLength - slot.st22BoxHdrLength
    if cfg.st20FrameSize < offset + pkt.payload.length then
      .error .offset
    else
      .ok ⟨offset, pkt.payload⟩

/-! ## The handler -/

def rvCountBoxes : RvSession :=
  if slot.seqIdGot = false ∧ pkt.counter = 0 ∧ s.cfg.disableBoxes = false ∧
      (rvParseSt22Boxes pkt.payload).getD 0 ≠ 0 then
    s.withStats { s.stats with st22Boxes := s.stats.st22Boxes + 1 }
  else
    s

/-- `rv_st22_slot_full_frame`. -/
def rvSt22SlotFullFrame : RvSession × List RvEvent :=
  let (s, events) := rvSt22FrameNotify env env.notifyFull s slotIdx frame .complete
  (s.setSlot slotIdx
    { s.slots slotIdx with frameRecvSize := 0, pktLcoreFrameRecvSize := 0, frame := none }, events)

def RvSlot.advance (pktIdx : Nat) (port : MtlSessionPort) : RvSlot :=
  { slot with
    lastPktIdx := Function.update slot.lastPktIdx port (max (pktIdx : Int) (slot.lastPktIdx port)) }

def RvSlot.gained (length : Nat) (port : MtlSessionPort) : RvSlot :=
  { slot.countPort port with
    frameRecvSize := slot.frameRecvSize + length
    pktsReceived := slot.pktsReceived + 1 }

def rvLearnSize (marker : Bool) (size : Nat) : RvSession :=
  if marker then
    { s with st22ExpectFrameSize := size, st22ExpectSizePerFrame := size }
  else
    s

/-- The end of the handler for a packet that is new in its slot: copy, count,
learn the size from a marker, and hand a full frame over. -/
def rvSt22StorePacket (marker : Bool) (piece : RvSt22Piece) (port : MtlSessionPort)
    : RvSession × List RvEvent :=
  let held := s.frames frame
  let s := s.setFrame frame { held with addr := store held.addr piece.offset piece.bytes }
  let slot := slot.gained piece.bytes.length port
  let s := (s.setSlot slotIdx slot).withStats
    { s.stats with pktsReceived := s.stats.pktsReceived + 1 }
  let s := rvLearnSize s marker (piece.offset + piece.bytes.length)
  if s.st22ExpectFrameSize ≠ 0 ∧ s.st22ExpectFrameSize = rvSlotGetFrameSize slot then
    rvSt22SlotFullFrame env s slotIdx frame
  else
    (s, [])

/-- The handler once the slot and its frame are known. -/
def rvSt22HandleInSlot (port : MtlSessionPort) : RvResult :=
  let slot := { s.slots slotIdx with secondField := decide (pkt.interlaced = 3) }
  let s := rvCountBoxes (s.setSlot slotIdx slot) slot pkt
  match rvSt22Index s.cfg slot pkt port with
  | .drop reason slot => rvDrop (s.setSlot slotIdx slot) reason
  | .redundant => { session := rvCountRedundant s slotIdx port, ret := .ok (), events := [] }
  | .fresh pktIdx slot reordered =>
    let s := rvCountReordered s port reordered
    let slot := slot.advance pktIdx port
    match rvSt22Place s.cfg slot pkt with
    | .error reason => rvDrop (s.setSlot slotIdx slot) reason
    | .ok piece =>
      let (s, events) := rvSt22StorePacket env s slotIdx frame slot pkt.marker piece port
      { session := s, ret := .ok (), events := events }

/-- `rv_handle_st22_pkt`; `none` is a buffer that is shorter than the header. -/
def rvHandleSt22Pkt (mbuf : Option Rfc9134Packet) (port : MtlSessionPort) : RvResult :=
  match mbuf with
  | none => rvDrop s .wrongLen
  | some pkt =>
    match rvSt22HeaderCheck s.cfg pkt with
    | some reason => rvDrop s reason
    | none =>
      let answer := rvSlotByTmstamp env s pkt.tmstamp
      let s := answer.session
      match answer.slot with
      | none => { rvDrop (s.setRedundant port 0) .noSlot with events := answer.events }
      | some slotIdx =>
        match (s.slots slotIdx).frame with
        | none =>
          { session := (rvCountRedundant s slotIdx port).setRedundant port
              (s.redundantErrorCnt port + 1)
            ret := .ok ()
            events := answer.events }
        | some frame =>
          let result := rvSt22HandleInSlot env (s.setRedundant port 0) slotIdx frame pkt
            port
          { result with events := answer.events ++ result.events }

end MediaTransport.Video
