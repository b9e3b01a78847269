import MediaTransport.Library.Wire
import MediaTransport.Util.Errno

namespace MediaTransport.Rtcp

open Library

/-!
# The NACK packet on the wire

A NACK is a twelve byte RTCP header followed by feedback items of four bytes,
all in network byte order.  The header's length field counts 32-bit words
minus one.
-/

/-- `struct mt_rtcp_fci`: `follow` more packets are missing after `start`. -/
structure MtRtcpFci where
  start : Nat
  follow : Nat
  deriving DecidableEq, Repr

def MtRtcpFci.expand (fci : MtRtcpFci) : List Nat :=
  (List.range (fci.follow + 1)).map (fun (index : Nat) => u16 ((fci.start : Int) + index))

def mtRtcpPtypeNack : Nat := 204

def mtRtcpMaxFcis : Nat := 256

/-- `sizeof(struct mt_rtcp_hdr)`. -/
def mtRtcpHdrSize : Nat := 12

/-- `sizeof(struct mt_rtcp_fci)`. -/
def mtRtcpFciSize : Nat := 4

/-- `sizeof(struct mt_udp_hdr)`: Ethernet, IPv4 and UDP. -/
def mtUdpHdrSize : Nat := 42

def imtlName : List Byte := [73#8, 77#8, 84#8, 76#8]

def MtRtcpFci.bytes (fci : MtRtcpFci) : List Byte := be16 fci.start ++ be16 fci.follow

def readFci (memory : Nat -> Byte) (position : Nat) : MtRtcpFci where
  start := readBe16 memory position
  follow := readBe16 memory (position + 2)

@[simp] theorem fci_bytes_length (fci : MtRtcpFci) : fci.bytes.length = mtRtcpFciSize := rfl

theorem readFci_bytes (fci : MtRtcpFci) (rest : List Byte) (startBound : fci.start < 65536)
    (followBound : fci.follow < 65536) :
    readFci (memoryOf (fci.bytes ++ rest)) 0 = fci := by
  have start : readBe16 (memoryOf (fci.bytes ++ rest)) 0 = fci.start := by
    rw [MtRtcpFci.bytes, List.append_assoc]
    exact readBe16_be16 _ _ startBound
  have follow : readBe16 (memoryOf (fci.bytes ++ rest)) 2 = fci.follow := by
    rw [MtRtcpFci.bytes, List.append_assoc]
    exact (readBe16_append (be16 fci.start) _ 0).trans (readBe16_be16 _ _ followBound)
  unfold readFci
  rw [start, follow]

theorem readFci_append (before after : List Byte) (position : Nat) :
    readFci (memoryOf (before ++ after)) (before.length + position) =
      readFci (memoryOf after) position := by
  unfold readFci
  rw [Nat.add_assoc, readBe16_append, readBe16_append]

theorem readFci_flatMap (fcis : List MtRtcpFci) (rest : List Byte)
    (bounds : ∀ fci ∈ fcis, fci.start < 65536 ∧ fci.follow < 65536) :
    (List.range fcis.length).map
        (fun index => readFci (memoryOf (fcis.flatMap MtRtcpFci.bytes ++ rest))
          (index * mtRtcpFciSize)) = fcis := by
  induction fcis with
  | nil => rfl
  | cons fci tail ih =>
    have head := bounds fci List.mem_cons_self
    have tailBounds := fun item member => bounds item (List.mem_cons_of_mem fci member)
    rw [List.length_cons, List.range_succ_eq_map, List.map_cons, List.map_map,
      List.flatMap_cons, List.append_assoc]
    congr 1
    · rw [Nat.zero_mul]
      exact readFci_bytes fci _ head.1 head.2
    · calc
        _ = (List.range tail.length).map
            (fun index => readFci (memoryOf (tail.flatMap MtRtcpFci.bytes ++ rest))
              (index * mtRtcpFciSize)) := by
          apply List.map_congr_left
          intro index _
          have position : (index + 1) * mtRtcpFciSize =
              fci.bytes.length + index * mtRtcpFciSize := by
            rw [fci_bytes_length, Nat.add_mul, Nat.one_mul, Nat.add_comm]
          simp only [Function.comp_apply, Nat.succ_eq_add_one]
          rw [position, readFci_append]
        _ = tail := ih tailBounds

def nackBytes (ssrc : Nat) (fcis : List MtRtcpFci) : List Byte :=
  [0x80#8, BitVec.ofNat 8 mtRtcpPtypeNack] ++
    be16 (u16 ((mtRtcpHdrSize / 4 - 1 + fcis.length : Nat) : Int)) ++ be32 ssrc ++ imtlName ++
    fcis.flatMap MtRtcpFci.bytes

end MediaTransport.Rtcp
