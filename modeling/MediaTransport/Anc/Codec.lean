import MediaTransport.Library.Bits
import MediaTransport.Library.Wire
import MediaTransport.Util.Errno

namespace MediaTransport.Anc

open Library

/-!
# Ancillary data sub-packets

The payload of an ST 2110-40 packet is a list of sub-packets: two header words
in network order and then ten-bit words, with a checksum word at the end and
padding up to four bytes.  The codec of `st_ancillary.c` reads and writes the
ten-bit words in place, two bytes at a time.
-/

/-! ## Ten-bit words -/

variable (buf : Nat -> Byte)

/-- `get_10bit_udw`: the word with number `idx` of those packed from `base` on. -/
def get10bitUdw (idx : Nat) (data : Nat -> Byte) (base : Nat) : BitVec 16 :=
  let totalBitsOffset := idx * 10
  let byteOffset := totalBitsOffset / 8
  let bitOffset := totalBitsOffset % 8
  let val := loadBe16 data (base + byteOffset)
  match bitOffset with
  | 0 => (val.extractLsb' 6 10).setWidth 16
  | 2 => (val.extractLsb' 4 10).setWidth 16
  | 4 => (val.extractLsb' 2 10).setWidth 16
  | 6 => (val.extractLsb' 0 10).setWidth 16
  | _ => 0

/-- `set_10bit_udw`: the six other bits of the two bytes are kept. -/
def set10bitUdw (idx : Nat) (udw : BitVec 16) (data : Nat -> Byte) (base : Nat) : Nat -> Byte :=
  let totalBitsOffset := idx * 10
  let byteOffset := totalBitsOffset / 8
  let bitOffset := totalBitsOffset % 8
  let val := loadBe16 data (base + byteOffset)
  let udw10 : BitVec 10 := udw.setWidth 10
  let val :=
    match bitOffset with
    | 0 => setField val 6 udw10
    | 2 => setField val 4 udw10
    | 4 => setField val 2 udw10
    | 6 => setField val 0 udw10
    | _ => val
  storeBe16 data (base + byteOffset) val

/-- The bits that are not the sum: the tenth bit is the inverse of the ninth. -/
def checksumOf (sum : BitVec 16) : BitVec 16 :=
  let chks := sum &&& 0x1ff
  (~~~(chks <<< 1) &&& 0x200) ||| chks

/-- `st40_calc_checksum` -/
def st40CalcChecksum (dataNum : Nat) (data : Nat -> Byte) (base : Nat) : BitVec 16 :=
  checksumOf ((List.range dataNum).foldl (fun chks i => chks + get10bitUdw i data base) 0)

/-! ## Parity -/

/-- `parity_tab` -/
def parityTab : List (BitVec 16) := [
    0x200, 0x100, 0x100, 0x200, 0x100, 0x200, 0x200, 0x100,
    0x100, 0x200, 0x200, 0x100, 0x200, 0x100, 0x100, 0x200,
    0x100, 0x200, 0x200, 0x100, 0x200, 0x100, 0x100, 0x200,
    0x200, 0x100, 0x100, 0x200, 0x100, 0x200, 0x200, 0x100,
    0x100, 0x200, 0x200, 0x100, 0x200, 0x100, 0x100, 0x200,
    0x200, 0x100, 0x100, 0x200, 0x100, 0x200, 0x200, 0x100,
    0x200, 0x100, 0x100, 0x200, 0x100, 0x200, 0x200, 0x100,
    0x100, 0x200, 0x200, 0x100, 0x200, 0x100, 0x100, 0x200,
    0x100, 0x200, 0x200, 0x100, 0x200, 0x100, 0x100, 0x200,
    0x200, 0x100, 0x100, 0x200, 0x100, 0x200, 0x200, 0x100,
    0x200, 0x100, 0x100, 0x200, 0x100, 0x200, 0x200, 0x100,
    0x100, 0x200, 0x200, 0x100, 0x200, 0x100, 0x100, 0x200,
    0x200, 0x100, 0x100, 0x200, 0x100, 0x200, 0x200, 0x100,
    0x100, 0x200, 0x200, 0x100, 0x200, 0x100, 0x100, 0x200,
    0x100, 0x200, 0x200, 0x100, 0x200, 0x100, 0x100, 0x200,
    0x200, 0x100, 0x100, 0x200, 0x100, 0x200, 0x200, 0x100,
    0x100, 0x200, 0x200, 0x100, 0x200, 0x100, 0x100, 0x200,
    0x200, 0x100, 0x100, 0x200, 0x100, 0x200, 0x200, 0x100,
    0x200, 0x100, 0x100, 0x200, 0x100, 0x200, 0x200, 0x100,
    0x100, 0x200, 0x200, 0x100, 0x200, 0x100, 0x100, 0x200,
    0x200, 0x100, 0x100, 0x200, 0x100, 0x200, 0x200, 0x100,
    0x100, 0x200, 0x200, 0x100, 0x200, 0x100, 0x100, 0x200,
    0x100, 0x200, 0x200, 0x100, 0x200, 0x100, 0x100, 0x200,
    0x200, 0x100, 0x100, 0x200, 0x100, 0x200, 0x200, 0x100,
    0x200, 0x100, 0x100, 0x200, 0x100, 0x200, 0x200, 0x100,
    0x100, 0x200, 0x200, 0x100, 0x200, 0x100, 0x100, 0x200,
    0x100, 0x200, 0x200, 0x100, 0x200, 0x100, 0x100, 0x200,
    0x200, 0x100, 0x100, 0x200, 0x100, 0x200, 0x200, 0x100,
    0x100, 0x200, 0x200, 0x100, 0x200, 0x100, 0x100, 0x200,
    0x200, 0x100, 0x100, 0x200, 0x100, 0x200, 0x200, 0x100,
    0x200, 0x100, 0x100, 0x200, 0x100, 0x200, 0x200, 0x100,
    0x100, 0x200, 0x200, 0x100, 0x200, 0x100, 0x100, 0x200]

def getParityBits (val : BitVec 16) : BitVec 16 := parityTab.getD (val &&& 0xFF).toNat 0

/-- `st40_add_parity_bits` -/
def st40AddParityBits (val : BitVec 16) : BitVec 16 := getParityBits val ||| (val &&& 0xFF)

/-- `st40_check_parity_bits` -/
def st40CheckParityBits (val : BitVec 16) : Bool := val == st40AddParityBits (val &&& 0xFF)

/-! ## The codec -/

/-- `struct st40_meta` -/
structure St40Meta where
  c : BitVec 16
  lineNumber : BitVec 16
  horiOffset : BitVec 16
  s : BitVec 16
  streamNum : BitVec 16
  did : BitVec 16
  sdid : BitVec 16
  udwSize : BitVec 16
  udwOffset : BitVec 16
  deriving DecidableEq

/-- `st40_rfc8331_payload_bytes` -/
def st40Rfc8331PayloadBytes (udwSize : Nat) : Nat :=
  let totalBits := (3 + udwSize + 1) * 10
  let totalSize := (totalBits + 7) / 8
  let totalSize := (totalSize + 3) / 4 * 4
  8 - 4 + totalSize

/-- The first header word: the bit fields from the most significant one down. -/
def firstHdrChunk (m : St40Meta) : BitVec 32 :=
  m.c.setWidth 1 ++ m.lineNumber.setWidth 11 ++ m.horiOffset.setWidth 12 ++ m.s.setWidth 1 ++
    m.streamNum.setWidth 7

/-- The second header word; its last two bits belong to the first user data word. -/
def secondHdrChunk (m : St40Meta) : BitVec 32 :=
  (st40AddParityBits m.did).setWidth 10 ++ (st40AddParityBits m.sdid).setWidth 10 ++
    (st40AddParityBits m.udwSize).setWidth 10 ++ (0 : BitVec 2)

/-- `memset(buf, 0, need)` -/
def clearBytes (need : Nat) : Nat -> Byte :=
  fun position => if position < need then 0 else buf position

/-- `st40_rfc8331_encode_packet`: the buffer afterwards and the bytes written. -/
def st40Rfc8331EncodePacket (room : Nat) (m : St40Meta) (udwIn : Nat -> Byte)
    : Except Errno ((Nat -> Byte) × Nat) :=
  let udwSize := m.udwSize.toNat
  if udwSize > 0xFF then
    .error .inval
  else
    let need := st40Rfc8331PayloadBytes udwSize
    if room < need then
      .error .nospc
    else
      let buf := clearBytes buf need
      let buf := storeBe32 buf 0 (firstHdrChunk m)
      let buf := storeBe32 buf 4 (secondHdrChunk m)
      let buf := (List.range udwSize).foldl (fun buf i =>
        set10bitUdw (i + 3) (st40AddParityBits ((udwIn i).setWidth 16)) buf 4) buf
      let checksum := st40CalcChecksum (3 + udwSize) buf 4
      .ok (set10bitUdw (udwSize + 3) checksum buf 4, need)

/-- The failures of `enum st40_rfc8331_decode_result`. -/
inductive DecodeFailure where
  | shortBuffer
  | parityFail
  | checksumFail
  deriving DecidableEq, Repr

/-- The loop over the user data words: their low bytes, unless a parity is wrong. -/
def decodeUdws (buf : Nat -> Byte) : (i left : Nat) -> Except DecodeFailure (List Byte)
  | _, 0 => .ok []
  | i, left + 1 =>
    let udw := get10bitUdw (i + 3) buf 4
    if !st40CheckParityBits udw then
      .error .parityFail
    else
      match decodeUdws buf (i + 1) left with
      | .error failure => .error failure
      | .ok rest => .ok (udw.setWidth 8 :: rest)

/-- What a successful decode stores through its pointers. -/
structure Decoded where
  hdr : St40Meta
  udwOut : List Byte
  consumed : Nat
  deriving DecidableEq

/-- The checks of `st40_rfc8331_decode_packet`, one by one; what is done with the values stands behind them all.
The capacity is `none` when `udw_out` is null. -/
def decodeChecked {Result : Type} (room : Nat) (udwCap : Option Nat) (fail : DecodeFailure -> Result)
    (store : Decoded -> Result) : Result :=
  if room < 8 then
    fail .shortBuffer
  else
    let first := loadBe32 buf 0
    let second := loadBe32 buf 4
    let did : BitVec 16 := (second.extractLsb' 22 10).setWidth 16
    let sdid : BitVec 16 := (second.extractLsb' 12 10).setWidth 16
    let dataCount : BitVec 16 := (second.extractLsb' 2 10).setWidth 16
    if !st40CheckParityBits did || !st40CheckParityBits sdid || !st40CheckParityBits dataCount then
      fail .parityFail
    else
      let udwSize := dataCount &&& 0xFF
      let need := st40Rfc8331PayloadBytes udwSize.toNat
      if room < need then
        fail .shortBuffer
      else if udwCap.any (fun cap => udwSize.toNat > cap) then
        fail .shortBuffer
      else
        match decodeUdws buf 0 udwSize.toNat with
        | .error failure => fail failure
        | .ok udws =>
          let checksumWire := get10bitUdw (udwSize.toNat + 3) buf 4
          let checksumCalc := st40CalcChecksum (3 + udwSize.toNat) buf 4
          if checksumWire != checksumCalc then
            fail .checksumFail
          else
            store {
              hdr := {
                c := (first.extractLsb' 31 1).setWidth 16
                lineNumber := (first.extractLsb' 20 11).setWidth 16
                horiOffset := (first.extractLsb' 8 12).setWidth 16
                s := (first.extractLsb' 7 1).setWidth 16
                streamNum := (first.extractLsb' 0 7).setWidth 16
                did := did &&& 0xFF
                sdid := sdid &&& 0xFF
                udwSize := udwSize
                udwOffset := 0 }
              udwOut := if udwCap.isSome then udws else []
              consumed := need }

/-- `st40_rfc8331_decode_packet` -/
def st40Rfc8331DecodePacket (room : Nat) (udwCap : Option Nat) : Except DecodeFailure Decoded :=
  decodeChecked buf room udwCap .error .ok

/-- `st40_rfc8331_decode_packet` with the values behind its pointers `meta` and `consumed`. -/
def st40Rfc8331DecodePacketInto (room : Nat) (udwCap : Option Nat) (hdr : St40Meta) (consumed : Nat) :
    Option DecodeFailure × St40Meta × Nat :=
  decodeChecked buf room udwCap (fun failure => (some failure, hdr, consumed))
    (fun decoded => (none, decoded.hdr, decoded.consumed))

end MediaTransport.Anc
