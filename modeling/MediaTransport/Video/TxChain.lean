import MediaTransport.Library.Memory
import MediaTransport.Util.Session
import MediaTransport.Video.Packing

namespace MediaTransport.Video

open Library

/-!
# Chained and copied packets

`tv_build_st20` copies a packet's payload behind its headers;
`tv_build_st20_chain` leaves it in a second mbuf, which is the frame itself, a
copy where the frame crosses a page, or a copy from a pool of its own where the
packet runs over the end of a padded line.  Both compute the headers in the same
words, but when the last pool is empty the chained packet ends at its headers.
Buffers hold anything before they are written.
-/

/-- `struct mt_udp_hdr`: the fields that the builders write, and the rest. -/
structure MtUdpHdr where
  fixed : List Byte
  totalLength : Nat
  hdrChecksum : Nat
  srcPort : Nat
  dgramLen : Nat

def mtUdpHdrSize : Nat := 42

def Rfc4175Packet.hdrBytes (pkt : Rfc4175Packet) : List Byte :=
  [128, BitVec.ofNat 8 ((if pkt.marker then 128 else 0) + pkt.payloadType)] ++ be16 pkt.seqNumber ++
    be32 pkt.tmstamp ++ be32 pkt.ssrc ++ be16 pkt.seqNumberExt ++ be16 pkt.rowLength ++ be16 pkt.rowNumber ++
      be16 pkt.rowOffset

/-- An mbuf: the headers up to UDP, the bytes behind them, and the one it is chained to. -/
structure TvMbuf where
  udp : MtUdpHdr
  area : Nat -> Byte
  dataLen : Nat
  pktLen : Nat
  next : Option ((Nat -> Byte) × Nat)

def TvMbuf.rtpBytes (pkt : TvMbuf) : List Byte :=
  copyBytes pkt.area 0 (pkt.dataLen - mtUdpHdrSize) ++
    match pkt.next with
    | none => []
    | some (area, dataLen) => copyBytes area 0 dataLen

def TvMbuf.wire (pkt : TvMbuf) : MtUdpHdr × List Byte × Nat := (pkt.udp, pkt.rtpBytes, pkt.pktLen)

/-- What the session knows of its ports, with the checksum over the IPv4 header. -/
structure TvTxEnv where
  hdr : MtlSessionPort -> MtUdpHdr
  multiSrcPort : Bool
  cksumOffload : MtlSessionPort -> Bool
  rteIpv4Cksum : MtUdpHdr -> Nat

/-- The lengths and the checksum, for a packet of `pktLen` bytes. -/
def TvTxEnv.finish (env : TvTxEnv) (port : MtlSessionPort) (udp : MtUdpHdr) (pktLen : Nat) : MtUdpHdr :=
  let udp := { udp with dgramLen := u16 (pktLen - 34 : Int), totalLength := u16 (pktLen - 14 : Int) }
  if env.cksumOffload port then udp else { udp with hdrChecksum := env.rteIpv4Cksum udp }

/-- The header of the first port; the port number is added to as it lies in memory. -/
def TvTxEnv.start (env : TvTxEnv) (pktIdx : Nat) : MtUdpHdr :=
  let udp := env.hdr .p
  if env.multiSrcPort then { udp with srcPort := u16 (udp.srcPort + pktIdx / 128 % 8 : Nat) } else udp

/-- The bytes that both builders write from the RTP header up to the payload. -/
def tvHeaders (s : TvSession) (frame : StFrameTrans) (pktIdx seqId : Nat) : List Byte :=
  (tvBuildSt20 s frame pktIdx seqId).hdrBytes ++
    if s.hasExtra pktIdx then (tvExtraHdr s frame.secondField pktIdx).bytes else []

/-- The first `data_len`, without the payload. -/
def tvHeaderLen (s : TvSession) (pktIdx : Nat) : Nat :=
  rfc4175VideoHdrSize + if s.hasExtra pktIdx then rfc4175ExtraHdrSize else 0

section

variable (env : TvTxEnv) (s : TvSession) (frame : StFrameTrans) (pktIdx seqId : Nat) (room : Nat -> Byte)

/-- `tv_build_st20` on a buffer, and the sequence id it leaves. -/
def tvBuildSt20Mbuf : TvMbuf × Nat :=
  let headers := tvHeaders s frame pktIdx seqId
  let dataLen := u16 (tvHeaderLen s pktIdx + s.leftLen pktIdx : Nat)
  ({ udp := env.finish .p (env.start pktIdx) dataLen
     area := store (store room 0 headers) headers.length (tvPayload s frame.addr pktIdx)
     dataLen := dataLen
     pktLen := dataLen
     next := none },
    u32 (seqId + 1 : Nat))

/-- Where `tv_build_st20_chain` takes the payload from: the buffers of the chained mbuf and of one from the copy
pool, which can be empty, and whether the payload crosses a page. -/
structure ChainRoom where
  chain : Nat -> Byte
  copy : Option (Nat -> Byte)
  crossPage : Bool

/-- The chained mbuf's bytes. -/
def tvChainArea (chain : ChainRoom) : Option (Nat -> Byte) :=
  if s.hasExtra pktIdx && s.padded then
    chain.copy.map fun room =>
      store (store room 0 (copyBytes frame.addr (s.copyOffset pktIdx) (s.line1Length pktIdx)))
        (s.line1Length pktIdx)
        (copyBytes frame.addr (s.st20Linesize * (s.line1Number pktIdx + 1)) (s.line2Length pktIdx))
  else if chain.crossPage then
    some (store chain.chain 0 (copyBytes frame.addr (s.copyOffset pktIdx) (s.leftLen pktIdx)))
  else
    some fun index => frame.addr (s.copyOffset pktIdx + index)

/-- `tv_build_st20_chain`: without a buffer for the copy it returns before it chains and writes the lengths. -/
def tvBuildSt20Chain (chain : ChainRoom) : Option Errno × TvMbuf × Nat :=
  let headers := tvHeaders s frame pktIdx seqId
  let pkt : TvMbuf :=
    { udp := env.start pktIdx
      area := store room 0 headers
      dataLen := tvHeaderLen s pktIdx
      pktLen := tvHeaderLen s pktIdx
      next := none }
  let seqId := u32 (seqId + 1 : Nat)
  match tvChainArea s frame pktIdx chain with
  | none => (some .nomem, pkt, seqId)
  | some area =>
    let pktLen := pkt.pktLen + s.leftLen pktIdx
    (none,
      { pkt with
        udp := env.finish .p pkt.udp pktLen
        pktLen := pktLen
        next := some (area, s.leftLen pktIdx) },
      seqId)

/-- `tv_build_st20_redundant` -/
def tvBuildSt20Redundant (base : TvMbuf) : TvMbuf :=
  { udp := env.finish .r (env.hdr .r) base.dataLen
    area := store room 0 (copyBytes base.area 0 (base.pktLen - mtUdpHdrSize))
    dataLen := base.dataLen
    pktLen := base.dataLen
    next := none }

end

/-! ## Reading back what was written -/

theorem copyBytes_take (addr : Nat -> Byte) (place : Nat) {part whole : Nat} (inside : part ≤ whole) :
    (copyBytes addr place whole).take part = copyBytes addr place part := by
  unfold copyBytes
  rw [← List.map_take, List.take_range, Nat.min_eq_left inside]

theorem copyBytes_store (memory : Nat -> Byte) (place : Nat) (content : List Byte) :
    copyBytes (store memory place content) place content.length = content := by
  apply List.ext_getElem
  · simp [copyBytes]
  · intro index _ inside
    have written := store_inside memory (Nat.le_add_right place index) (Nat.add_lt_add_left inside place)
    rw [Nat.add_sub_cancel_left] at written
    simp [copyBytes, written, inside]

theorem copyBytes_store_before (memory : Nat -> Byte) (content : List Byte) {place start length : Nat}
    (before : start + length ≤ place) :
    copyBytes (store memory place content) start length = copyBytes memory start length := by
  unfold copyBytes
  apply List.map_congr_left
  intro index member
  have inside := List.mem_range.mp member
  exact store_outside memory (Or.inl (by omega))

theorem copyBytes_store_store (memory : Nat -> Byte) (first second : List Byte) :
    copyBytes (store (store memory 0 first) first.length second) 0 (first.length + second.length) =
      first ++ second := by
  rw [← copyBytes_append, copyBytes_store_before _ _ (by omega), Nat.zero_add, copyBytes_store, copyBytes_store]

/-! ## The two builders -/

/-- What the two builders and the second port make of one packet: equal packets and sequence ids. -/
structure BuildersAgree (env : TvTxEnv) (s : TvSession) (frame : StFrameTrans) (pktIdx seqId : Nat)
    (chain : ChainRoom) (plainRoom chainRoom redundantRoom : Nat -> Byte) : Prop where
  wire : (tvBuildSt20Chain env s frame pktIdx seqId chainRoom chain).2.1.wire =
    (tvBuildSt20Mbuf env s frame pktIdx seqId plainRoom).1.wire
  sequence : (tvBuildSt20Chain env s frame pktIdx seqId chainRoom chain).2.2 =
    (tvBuildSt20Mbuf env s frame pktIdx seqId plainRoom).2
  redundant : (tvBuildSt20Redundant env redundantRoom
      (tvBuildSt20Mbuf env s frame pktIdx seqId plainRoom).1).rtpBytes =
    (tvBuildSt20Mbuf env s frame pktIdx seqId plainRoom).1.rtpBytes

/-- A packet that runs over the end of a padded line finds a buffer for its copy. -/
def TvSession.CopyFound (s : TvSession) (pktIdx : Nat) (chain : ChainRoom) : Prop :=
  s.hasExtra pktIdx = true -> s.padded = true -> chain.copy ≠ none

theorem pktLen_le_accepted {s : TvSession} {user : Nat} {ops : St20TxOps}
    (accepted : tvAttach (pktUdpSuggestMaxSize user) ops = .ok s) (representable : s.Representable) :
    s.st20PktLen ≤ 1452 := by
  rcases tvAttach_ok accepted with ⟨_, plan, attached⟩
  cases packing : s.ops.packing with
  | bpm => exact (attached.dense_bpm representable packing).pktLen_le
  | gpm => exact (attached.dense_gpm representable packing).pktLen_le
  | gpmSl => exact Nat.le_trans (attached.single_gpmSl representable packing).pktLen_le (by decide)

theorem leftLen_pos_of_extra {s : TvSession} {user pktIdx : Nat} {ops : St20TxOps}
    (accepted : tvAttach (pktUdpSuggestMaxSize user) ops = .ok s) (representable : s.Representable)
    (inFrame : pktIdx < s.st20TotalPkts) (extra : s.hasExtra pktIdx = true) : 0 < s.leftLen pktIdx := by
  rcases tvAttach_ok accepted with ⟨_, plan, attached⟩
  have dense : s.Dense := by
    cases packing : s.ops.packing with
    | bpm => exact attached.dense_bpm representable packing
    | gpm => exact attached.dense_gpm representable packing
    | gpmSl =>
        rw [(attached.single_gpmSl representable packing).hasExtra_eq pktIdx] at extra
        cases extra
  have positive := dense.pktLen_pos
  have below := dense.below pktIdx inFrame
  rw [dense.leftLen_eq inFrame]
  omega

section

variable (s : TvSession) (frame : StFrameTrans) (pktIdx seqId : Nat)

theorem tvHeaders_length :
    (tvHeaders s frame pktIdx seqId).length + mtUdpHdrSize = tvHeaderLen s pktIdx := by
  unfold tvHeaders tvHeaderLen
  split <;> rfl

theorem leftLen_le_payload (short : s.st20PktLen ≤ 1452) :
    s.leftLen pktIdx ≤ (tvPayload s frame.addr pktIdx).length := by
  have left : s.leftLen pktIdx ≤ s.st20PktLen := by
    unfold TvSession.leftLen
    rw [u16_of_lt (by omega)]
    exact Nat.min_le_left _ _
  unfold tvPayload
  split
  · -- The second length makes up for the first, unless the first alone is too long.
    have rest : s.st20PktLen ≤ s.line1Length pktIdx + s.line2Length pktIdx := by
      unfold TvSession.line2Length
      by_cases fits : s.line1Length pktIdx ≤ s.st20PktLen
      · rw [← Int.ofNat_sub fits, u16_of_lt (by omega)]
        omega
      · omega
    rw [List.length_append, length_copyBytes, length_copyBytes]
    exact Nat.le_trans left rest
  · rw [length_copyBytes]

theorem leftLen_le (short : s.st20PktLen ≤ 1452) : s.leftLen pktIdx ≤ 1452 := by
  unfold TvSession.leftLen
  rw [u16_of_lt (by omega)]
  exact Nat.le_trans (Nat.min_le_left _ _) short

theorem tvHeaderLen_le : tvHeaderLen s pktIdx ≤ 68 := by
  unfold tvHeaderLen
  split <;> decide

def tvRtpBytes : List Byte :=
  tvHeaders s frame pktIdx seqId ++ (tvPayload s frame.addr pktIdx).take (s.leftLen pktIdx)

variable {s}

theorem tvDataLen_eq (short : s.st20PktLen ≤ 1452) :
    u16 (tvHeaderLen s pktIdx + s.leftLen pktIdx : Nat) = tvHeaderLen s pktIdx + s.leftLen pktIdx := by
  have left := leftLen_le s pktIdx short
  have headers := tvHeaderLen_le s pktIdx
  exact u16_of_lt (by omega)

theorem plain_rtpBytes (short : s.st20PktLen ≤ 1452) (env : TvTxEnv) (room : Nat -> Byte) :
    (tvBuildSt20Mbuf env s frame pktIdx seqId room).1.rtpBytes = tvRtpBytes s frame pktIdx seqId := by
  have headers := tvHeaders_length s frame pktIdx seqId
  have payload := leftLen_le_payload s frame pktIdx short
  have length : tvHeaderLen s pktIdx + s.leftLen pktIdx - mtUdpHdrSize =
      (tvHeaders s frame pktIdx seqId).length + s.leftLen pktIdx := by omega
  simp only [tvBuildSt20Mbuf, TvMbuf.rtpBytes, List.append_nil, tvDataLen_eq pktIdx short, length]
  rw [← copyBytes_take _ 0 (Nat.add_le_add_left payload _), copyBytes_store_store, List.take_length_add_append]
  rfl

theorem chainArea_copied {chain : ChainRoom} {area : Nat -> Byte}
    (found : tvChainArea s frame pktIdx chain = some area) (short : s.st20PktLen ≤ 1452) :
    copyBytes area 0 (s.leftLen pktIdx) = (tvPayload s frame.addr pktIdx).take (s.leftLen pktIdx) := by
  have payload := leftLen_le_payload s frame pktIdx short
  unfold tvChainArea at found
  unfold tvPayload at payload ⊢
  split at found
  · next wide =>
      rcases Option.map_eq_some_iff.mp found with ⟨room, _, written⟩
      rw [if_pos wide] at payload ⊢
      have lines := copyBytes_store_store room
        (copyBytes frame.addr (s.copyOffset pktIdx) (s.line1Length pktIdx))
        (copyBytes frame.addr (s.st20Linesize * (s.line1Number pktIdx + 1)) (s.line2Length pktIdx))
      rw [← lines, ← List.length_append, copyBytes_take _ _ payload, length_copyBytes, written]
  · next narrow =>
      rw [if_neg narrow, List.take_of_length_le (Nat.le_of_eq (length_copyBytes _ _ _))]
      split at found
      · cases found
        have copied := copyBytes_store chain.chain 0
          (copyBytes frame.addr (s.copyOffset pktIdx) (s.leftLen pktIdx))
        rw [length_copyBytes] at copied
        exact copied
      · cases found
        simp only [copyBytes, Nat.zero_add]

theorem chainArea_none {chain : ChainRoom} :
    tvChainArea s frame pktIdx chain = none <-> ¬s.CopyFound pktIdx chain := by
  unfold tvChainArea TvSession.CopyFound
  by_cases wide : (s.hasExtra pktIdx && s.padded) = true
  · rw [if_pos wide, Option.map_eq_none_iff]
    simp [Bool.and_eq_true_iff.mp wide]
  · rw [if_neg wide]
    rw [Bool.and_eq_true_iff] at wide
    split <;> simp <;> exact fun extra padded => absurd ⟨extra, padded⟩ wide

theorem chain_wire {chain : ChainRoom} {area : Nat -> Byte}
    (found : tvChainArea s frame pktIdx chain = some area) (short : s.st20PktLen ≤ 1452) (env : TvTxEnv)
    (room other : Nat -> Byte) :
    (tvBuildSt20Chain env s frame pktIdx seqId room chain).2.1.wire =
      (tvBuildSt20Mbuf env s frame pktIdx seqId other).1.wire := by
  have headers := tvHeaders_length s frame pktIdx seqId
  have length : tvHeaderLen s pktIdx - mtUdpHdrSize = (tvHeaders s frame pktIdx seqId).length := by omega
  unfold TvMbuf.wire
  rw [plain_rtpBytes frame pktIdx seqId short]
  simp only [tvBuildSt20Chain, found, tvBuildSt20Mbuf, tvDataLen_eq pktIdx short, Prod.mk.injEq, and_true,
    true_and]
  simp only [TvMbuf.rtpBytes, length, copyBytes_store]
  rw [chainArea_copied frame pktIdx found short]
  rfl

end

theorem redundant_rtpBytes (env : TvTxEnv) (room : Nat -> Byte) {base : TvMbuf} (segment : base.next = none)
    (whole : base.pktLen = base.dataLen) :
    (tvBuildSt20Redundant env room base).rtpBytes = base.rtpBytes := by
  have copied := copyBytes_store room 0 (copyBytes base.area 0 (base.pktLen - mtUdpHdrSize))
  rw [length_copyBytes, whole] at copied
  simp only [tvBuildSt20Redundant, TvMbuf.rtpBytes, segment, whole, copied]

theorem chain_wire_ne {s : TvSession} {frame : StFrameTrans} {pktIdx seqId : Nat} {chain : ChainRoom}
    (missing : tvChainArea s frame pktIdx chain = none) (short : s.st20PktLen ≤ 1452)
    (payload : 0 < s.leftLen pktIdx) (env : TvTxEnv) (room other : Nat -> Byte) :
    (tvBuildSt20Chain env s frame pktIdx seqId room chain).2.1.wire ≠
      (tvBuildSt20Mbuf env s frame pktIdx seqId other).1.wire := by
  intro same
  have lengths := congrArg (fun wire : MtUdpHdr × List Byte × Nat => wire.2.2) same
  simp only [TvMbuf.wire, tvBuildSt20Chain, missing, tvBuildSt20Mbuf, tvDataLen_eq pktIdx short] at lengths
  omega

/-- For every geometry, packing, packet and sequence id the two builders make equal packets unless a packet over
the end of a padded line finds no buffer. -/
theorem builders_agree_iff {user pktIdx : Nat} {ops : St20TxOps} {s : TvSession}
    (accepted : tvAttach (pktUdpSuggestMaxSize user) ops = .ok s) (representable : s.Representable)
    (inFrame : pktIdx < s.st20TotalPkts) (env : TvTxEnv) (frame : StFrameTrans) (seqId : Nat)
    (chain : ChainRoom) (plainRoom chainRoom redundantRoom : Nat -> Byte) :
    BuildersAgree env s frame pktIdx seqId chain plainRoom chainRoom redundantRoom <->
      s.CopyFound pktIdx chain := by
  have short := pktLen_le_accepted accepted representable
  constructor
  · intro agree
    by_contra lost
    have extra : s.hasExtra pktIdx = true := by
      by_contra single
      exact lost (fun extra => absurd extra single)
    exact chain_wire_ne ((chainArea_none frame pktIdx).mpr lost) short
      (leftLen_pos_of_extra accepted representable inFrame extra) env chainRoom plainRoom agree.wire
  · intro copy
    cases found : tvChainArea s frame pktIdx chain with
    | none => exact absurd copy ((chainArea_none frame pktIdx).mp found)
    | some area =>
        constructor
        case wire => exact chain_wire frame pktIdx seqId found short env chainRoom plainRoom
        case sequence => simp only [tvBuildSt20Chain, found, tvBuildSt20Mbuf]
        case redundant => exact redundant_rtpBytes env redundantRoom rfl rfl

def paddedSession : TvSession :=
  { hdSession with
    ops := { hdOps with linesize := 5120 }
    st20Linesize := 5120
    st20FbSize := 5529600 }

def plainEnv : TvTxEnv :=
  { hdr := fun _ => ⟨[], 0, 0, 20000, 0⟩
    multiSrcPort := false
    cksumOffload := fun _ => true
    rteIpv4Cksum := fun _ => 0 }

def zeroFrame : StFrameTrans := ⟨fun _ => 0, false, 0⟩

theorem builders_agree_padded :
    BuildersAgree plainEnv paddedSession zeroFrame 3 7 ⟨fun _ => 1, some fun _ => 2, false⟩ (fun _ => 3)
      (fun _ => 4) (fun _ => 5) :=
  (@builders_agree_iff 0 3 { hdOps with linesize := 5120 } paddedSession rfl
    ⟨by decide, by decide, by decide, by decide⟩ (by decide) plainEnv zeroFrame 7 _ _ _ _).mpr
      (fun _ _ => by simp)

/-- The fourth packet runs over the end of a line. -/
theorem builders_disagree :
    tvAttach (pktUdpSuggestMaxSize 0) { hdOps with linesize := 5120 } = .ok paddedSession ∧
      ¬BuildersAgree plainEnv paddedSession zeroFrame 3 7 ⟨fun _ => 1, none, false⟩ (fun _ => 3) (fun _ => 4)
        (fun _ => 5) := by
  refine ⟨rfl, fun agree => ?_⟩
  exact @chain_wire_ne paddedSession zeroFrame 3 7 ⟨fun _ => 1, none, false⟩ rfl (by decide) (by decide) plainEnv _
    _ agree.wire

end MediaTransport.Video
