import MediaTransport.Anc.RoundTrip
import MediaTransport.Anc.Transmitter

namespace MediaTransport.Anc

open Library

/-!
# Chained and single buffers

A session sends a packet from one buffer or from two chained ones, depending
on what the ports can do.  For frames the two paths put the same bytes on the
wire.  For packets of the application they do not: the header chunk is swapped
under different conditions, and the counters of a new frame differ.
-/

/-! ## The bytes of an entry -/

variable (env : TxAncEnv) (cfg : TxAncConfig) (s : TxAncSession) (stats : TxAncStats)
  (mbuf other : Nat -> Byte) (memory : Nat -> Byte)

def ancEntryBytes (data : Nat -> Byte) (entry : St40Meta) : List Byte :=
  match st40Rfc8331EncodePacket (fun _ => 0) (st40Rfc8331PayloadBytes entry.udwSize.toNat) entry
      (fun position => data (entry.udwOffset.toNat + position)) with
  | .ok (buf, written) => (List.range written).map buf
  | .error _ => []

theorem st40Rfc8331EncodePacket_bytes (buf : Nat -> Byte) {room : Nat} (data : Nat -> Byte)
    {entry : St40Meta} (short : entry.udwSize.toNat ≤ 255)
    (fits : st40Rfc8331PayloadBytes entry.udwSize.toNat ≤ room) :
    Exists fun out =>
      st40Rfc8331EncodePacket buf room entry (fun position => data (entry.udwOffset.toNat + position)) =
        .ok (out, st40Rfc8331PayloadBytes entry.udwSize.toNat) ∧
      (List.range (st40Rfc8331PayloadBytes entry.udwSize.toNat)).map out = ancEntryBytes data entry := by
  rcases st40Rfc8331EncodePacket_writes buf (fun position => data (entry.udwOffset.toNat + position))
    short fits with ⟨out, out_eq, wire, padding⟩
  rcases st40Rfc8331EncodePacket_writes (fun _ => 0)
    (fun position => data (entry.udwOffset.toNat + position)) short (Nat.le_refl _)
    with ⟨clean, clean_eq, cleanWire, cleanPadding⟩
  refine ⟨out, out_eq, ?_⟩
  unfold ancEntryBytes
  rw [clean_eq]
  refine List.map_congr_left (fun position member => ?_)
  have inside := List.mem_range.mp member
  apply byte_eq_of_bits
  intro index lower upper
  by_cases word : index < wireBits entry.udwSize.toNat
  · exact wire.bitAt_eq cleanWire word
  · rw [padding index (Nat.not_lt.mp word) (by omega),
      cleanPadding index (Nat.not_lt.mp word) (by omega)]

theorem length_ancEntryBytes (data : Nat -> Byte) {entry : St40Meta}
    (short : entry.udwSize.toNat ≤ 255) :
    (ancEntryBytes data entry).length = st40Rfc8331PayloadBytes entry.udwSize.toNat := by
  rcases st40Rfc8331EncodePacket_bytes (fun _ => 0) data short (Nat.le_refl _) with ⟨out, -, bytes⟩
  rw [← bytes, List.length_map, List.length_range]

theorem ancPackEntries_cons (splitPayload : Bool) (maxPktLen : Nat) (data mbuf : Nat -> Byte)
    (entry : St40Meta) (rest : List St40Meta) (count : Nat) (payload : List Byte) :
    ancPackEntries splitPayload maxPktLen data mbuf (entry :: rest) count payload =
      if !splitPayload && decide (payload.length + st40Rfc8331PayloadBytes entry.udwSize.toNat >
          maxPktLen) then
        .ok (count, payload)
      else if payload.length ≥ maxPktLen then .error .ancTooLarge
      else if entry.udwSize.toNat > 255 then .error (.errno .inval)
      else if maxPktLen - payload.length < st40Rfc8331PayloadBytes entry.udwSize.toNat then
        .error .ancTooLarge
      else if splitPayload then .ok (count + 1, payload ++ ancEntryBytes data entry)
      else ancPackEntries splitPayload maxPktLen data mbuf rest (count + 1)
        (payload ++ ancEntryBytes data entry) := by
  rw [ancPackEntries]
  split
  · rfl
  · split
    · rfl
    · by_cases long : entry.udwSize.toNat > 255
      · have refused : st40Rfc8331EncodePacket (fun position => mbuf (payload.length + position))
            (maxPktLen - payload.length) entry
            (fun position => data (entry.udwOffset.toNat + position)) = .error .inval := by
          rw [st40Rfc8331EncodePacket, if_pos long]
        rw [refused, if_pos long]
      · rw [if_neg long]
        by_cases narrow : maxPktLen - payload.length < st40Rfc8331PayloadBytes entry.udwSize.toNat
        · have refused : st40Rfc8331EncodePacket (fun position => mbuf (payload.length + position))
              (maxPktLen - payload.length) entry
              (fun position => data (entry.udwOffset.toNat + position)) = .error .nospc := by
            rw [st40Rfc8331EncodePacket, if_neg long, if_pos narrow]
          rw [refused, if_pos narrow]
        · rw [if_neg narrow]
          rcases st40Rfc8331EncodePacket_bytes (fun position => mbuf (payload.length + position)) data
            (Nat.not_lt.mp long) (Nat.not_lt.mp narrow) with ⟨out, out_eq, bytes⟩
          rw [out_eq]
          dsimp only
          rw [bytes]

theorem ancPackEntries_mbuf (splitPayload : Bool) (maxPktLen : Nat) (data mbuf other : Nat -> Byte)
    (entries : List St40Meta) (count : Nat) (payload : List Byte) :
    ancPackEntries splitPayload maxPktLen data mbuf entries count payload =
      ancPackEntries splitPayload maxPktLen data other entries count payload := by
  induction entries generalizing count payload with
  | nil => rfl
  | cons entry rest ih => rw [ancPackEntries_cons, ancPackEntries_cons, ih]

/-! ## Frames -/

theorem ancBuildRtp_mbuf (ancIdx : Nat) : ancBuildRtp s mbuf ancIdx = ancBuildRtp s other ancIdx := by
  unfold ancBuildRtp
  dsimp only
  rw [ancPackEntries_mbuf _ _ _ mbuf other]

theorem txAncillarySessionBuildRtpPacket_mbuf (ancIdx : Nat) :
    txAncillarySessionBuildRtpPacket s mbuf ancIdx = txAncillarySessionBuildRtpPacket s other ancIdx := by
  unfold txAncillarySessionBuildRtpPacket
  rw [ancBuildRtp_mbuf s mbuf other]

theorem txAncillarySessionBuildFmd_room :
    txAncillarySessionBuildFmd s hdrRoomSize 42 = txAncillarySessionBuildFmd s chainRoomSize 0 := by
  have same : forall rtpLen, (hdrRoomSize < 42 + rtpLen) = (chainRoomSize < 0 + rtpLen) := by
    intro rtpLen
    unfold hdrRoomSize chainRoomSize stPktMaxEtherBytes
    exact propext (by omega)
  unfold txAncillarySessionBuildFmd
  simp only [same]

theorem txAncillarySessionBuildPacket_eq :
    txAncillarySessionBuildPacket s mbuf =
      match txAncillarySessionBuildRtpPacket s other s.ancIdx with
      | (s, .error code) => (s, .error code)
      | (s, .ok (idx, rtp)) => (s, .ok (idx, { net := s.cfg.netHdr .p rtp.bytes.length, rtp := rtp })) := by
  unfold txAncillarySessionBuildPacket txAncillarySessionBuildRtpPacket
  cases s.cfg.ops.fastMetadata with
  | true =>
    rw [if_pos rfl, if_pos rfl, txAncillarySessionBuildFmd_room]
    cases txAncillarySessionBuildFmd s chainRoomSize 0 with
    | mk after result => cases result <;> rfl
  | false =>
    rw [if_neg Bool.false_ne_true, if_neg Bool.false_ne_true, ancBuildRtp_mbuf s mbuf other]
    cases ancBuildRtp s other s.ancIdx with
    | mk after result =>
      cases result with
      | error code => rfl
      | ok built => rfl

theorem patchBe16_comm (bytes : List Byte) {first second : Nat} (left right : Nat)
    (apart : first + 1 < second) :
    patchBe16 (patchBe16 bytes first left) second right =
      patchBe16 (patchBe16 bytes second right) first left := by
  unfold patchBe16
  rw [List.set_comm _ _ (show first + 1 ≠ second by omega),
    List.set_comm _ _ (show first ≠ second by omega),
    List.set_comm _ _ (show first + 1 ≠ second + 1 by omega),
    List.set_comm _ _ (show first ≠ second + 1 by omega)]

theorem txAncillarySessionUpdateRedundant_eq (pkt : TxPkt) :
    txAncillarySessionUpdateRedundant cfg pkt =
      { net := cfg.netHdr .r pkt.rtp.bytes.length, rtp := pkt.rtp } := by
  unfold txAncillarySessionUpdateRedundant TxAncConfig.netHdr
  dsimp only
  rw [patchBe16_comm _ _ _ (show 16 + 1 < 38 by omega)]

def TxAncConfig.packets (rtp : TxRtp) : TxPkt × Option TxPkt :=
  ({ net := cfg.netHdr .p rtp.bytes.length, rtp := rtp },
    if cfg.ops.numPort > 1 then some { net := cfg.netHdr .r rtp.bytes.length, rtp := rtp } else none)

/-- A call that has its buffers: the RTP packet is built, and the packets of both ports are that
packet behind the headers of the port. -/
def txAncBuildPackets (redundant : Bool) (mbuf : Nat -> Byte) (s : TxAncSession) :
    TxAncSession × Option (TxPkt × Option TxPkt) :=
  match txAncillarySessionBuildRtpPacket s mbuf s.ancIdx with
  | (s, .error code) => (txAncBuildFailed s code, none)
  | (s, .ok (nextAncIdx, rtp)) =>
    if s.cfg.ops.numPort > 1 ∧ redundant = false then (s.fail .pktAllocFail, none)
    else ({ s with ancIdx := nextAncIdx }, some (s.cfg.packets rtp))

def TxRtp.HasBase (rtp : TxRtp) (base : RtpBase) : Prop :=
  match rtp with
  | .anc rtp => rtp.base = { base with marker := rtp.base.marker }
  | .fmd rtp => rtp.base = base
  | .raw _ _ => False

theorem txAncillarySessionBuildFmd_cases (room offset : Nat) :
    (Exists fun code => Exists fun recorded =>
      txAncillarySessionBuildFmd s room offset = ({ s with buildRetCode := recorded }, .error code)) ∨
    (Exists fun rtp => txAncillarySessionBuildFmd s room offset = (txAncillarySeqAdvance s, .ok rtp) ∧
      rtp.base = s.rtpBase) := by
  unfold txAncillarySessionBuildFmd
  generalize (s.frames s.frameIdx).addr = src
  dsimp only
  by_cases large : src.dataSize > s.cfg.maxPktLen
  · rw [if_pos large]
    exact Or.inl ⟨_, _, rfl⟩
  · rw [if_neg large]
    generalize (if src.dataSize > 0 then 16 + alignWord src.dataSize else 12) = rtpLen
    by_cases narrow : room < offset + rtpLen
    · rw [if_pos narrow]
      exact Or.inl ⟨_, s.buildRetCode, rfl⟩
    · rw [if_neg narrow]
      by_cases empty : src.dataSize = 0
      · rw [if_pos empty]
        exact Or.inr ⟨_, rfl, rfl⟩
      · rw [if_neg empty]
        exact Or.inr ⟨_, rfl, rfl⟩

theorem txAncillarySessionBuildRtpPacket_cases (mbuf : Nat -> Byte) (ancIdx : Nat) :
    (s.cfg.ops.fastMetadata = true ∧ Exists fun code => Exists fun recorded =>
      txAncillarySessionBuildRtpPacket s mbuf ancIdx =
        ({ s with buildRetCode := recorded }, .error code)) ∨
    (s.cfg.ops.fastMetadata = false ∧ Exists fun code =>
      txAncillarySessionBuildRtpPacket s mbuf ancIdx =
        ((txAncillarySeqAdvance s).fail code, .error code)) ∨
    (Exists fun next => Exists fun rtp =>
      txAncillarySessionBuildRtpPacket s mbuf ancIdx = (txAncillarySeqAdvance s, .ok (next, rtp)) ∧
        rtp.HasBase s.rtpBase) := by
  unfold txAncillarySessionBuildRtpPacket
  cases s.cfg.ops.fastMetadata with
  | true =>
    rw [if_pos rfl]
    rcases txAncillarySessionBuildFmd_cases s chainRoomSize 0 with
      ⟨code, recorded, refused⟩ | ⟨rtp, built, base⟩
    · rw [refused]
      exact Or.inl ⟨rfl, code, recorded, rfl⟩
    · rw [built]
      exact Or.inr (Or.inr ⟨0, .fmd rtp, rfl, base⟩)
  | false =>
    rw [if_neg Bool.false_ne_true]
    unfold ancBuildRtp
    dsimp only
    split
    · next code result =>
        split at result
        · cases result
          exact Or.inr (Or.inl ⟨rfl, _, rfl⟩)
        · cases result
    · next next rtp result =>
        split at result
        · cases result
        · cases result
          exact Or.inr (Or.inr ⟨_, _, rfl, rfl⟩)

theorem txAncillarySeqAdvance_cfg : (txAncillarySeqAdvance s).cfg = s.cfg := by
  unfold txAncillarySeqAdvance
  split <;> rfl

theorem txAncillarySessionBuildPacketChain_frame {s : TxAncSession} (rtp : TxRtp)
    (port : MtlSessionPort) (frame : s.cfg.ops.type = .frameLevel) :
    txAncillarySessionBuildPacketChain env s rtp port =
      (s, { net := s.cfg.netHdr port rtp.bytes.length, rtp := rtp }) := by
  unfold txAncillarySessionBuildPacketChain
  split
  · next level => exact absurd (frame.symm.trans level) (by decide)
  · rfl

theorem txAncBuildChained_eq {s : TxAncSession} (frame : s.cfg.ops.type = .frameLevel) :
    txAncBuildChained env s =
      if env.allocPkt = true ∧ env.allocChain = true then
        txAncBuildPackets env.allocRedundant env.mbuf s
      else (s.fail .pktAllocFail, none) := by
  have level : (txAncillarySeqAdvance s).cfg.ops.type = .frameLevel := by
    rw [txAncillarySeqAdvance_cfg]
    exact frame
  unfold txAncBuildChained txAncBuildPackets
  cases env.allocPkt with
  | false => rfl
  | true =>
    cases env.allocChain with
    | false => rfl
    | true =>
      rw [if_neg (by decide), if_pos ⟨rfl, rfl⟩]
      rcases txAncillarySessionBuildRtpPacket_cases s env.mbuf s.ancIdx with
        ⟨-, code, recorded, refused⟩ | ⟨-, code, refused⟩ | ⟨nextAncIdx, rtp, built, -⟩
      · rw [refused]
      · rw [refused]
      · rw [built]
        dsimp only
        rw [txAncillarySessionBuildPacketChain_frame env rtp .p level]
        dsimp only
        unfold TxAncConfig.packets
        by_cases ports : (txAncillarySeqAdvance s).cfg.ops.numPort > 1
        · rw [if_pos ports, if_pos ports,
            txAncillarySessionBuildPacketChain_frame env rtp .r level]
          cases env.allocRedundant with
          | false => rw [if_pos (show (!false) = true from rfl), if_pos ⟨ports, rfl⟩]
          | true =>
            rw [if_neg (by decide), if_neg (fun absurd => Bool.false_ne_true absurd.2.symm)]
        · rw [if_neg ports, if_neg ports, if_neg (fun absurd => ports absurd.1)]

theorem txAncBuildSingle_eq :
    txAncBuildSingle env s =
      if env.allocPkt = true then txAncBuildPackets env.allocRedundant env.mbuf s
      else (s.fail .pktAllocFail, none) := by
  unfold txAncBuildSingle txAncBuildPackets
  cases env.allocPkt with
  | false => rfl
  | true =>
    rw [if_neg (by decide), if_pos rfl, txAncillarySessionBuildPacket_eq s env.mbuf env.mbuf]
    cases txAncillarySessionBuildRtpPacket s env.mbuf s.ancIdx with
    | mk after result =>
      cases result with
      | error code => rfl
      | ok next =>
        dsimp only
        rw [txAncillarySessionUpdateRedundant_eq]
        unfold TxAncConfig.packets
        by_cases ports : after.cfg.ops.numPort > 1
        · rw [if_pos ports, if_pos ports]
          cases env.allocRedundant with
          | false => rw [if_pos (show (!false) = true from rfl), if_pos ⟨ports, rfl⟩]
          | true =>
            rw [if_neg (by decide), if_neg (fun absurd => Bool.false_ne_true absurd.2.symm)]
        · rw [if_neg ports, if_neg ports, if_neg (fun absurd => ports absurd.1)]

/-! ## Packets of the application -/

theorem setRtpTmstamp_writes (tmstamp : Nat) :
    Writes (fun position => 4 ≤ position ∧ position < 8) (fun memory => setRtpTmstamp memory tmstamp) :=
  storeBe32_writes 4 (BitVec.ofNat 32 tmstamp)

theorem bswap_setRtpTmstamp (tmstamp : Nat) :
    st40Rfc8331RtpHdrBswap (setRtpTmstamp memory tmstamp) =
      setRtpTmstamp (st40Rfc8331RtpHdrBswap memory) tmstamp := by
  have writes := setRtpTmstamp_writes tmstamp
  ext1 position
  unfold st40Rfc8331RtpHdrBswap
  by_cases chunk : 16 ≤ position ∧ position < 20
  · rw [if_pos chunk, writes.outside _ _ (by omega), writes.outside _ _ (by omega), if_pos chunk]
  · rw [if_neg chunk]
    by_cases stamp : 4 ≤ position ∧ position < 8
    · exact writes.inside _ _ _ stamp
    · rw [writes.outside _ _ stamp, writes.outside _ _ stamp, if_neg chunk]

def SwapsToItself (memory : Nat -> Byte) (len : Nat) : Prop :=
  ∀ position < len, st40Rfc8331RtpHdrBswap memory position = memory position

theorem swapsToItself_iff (len tmstamp : Nat) :
    SwapsToItself memory len <->
      (List.range len).map (st40Rfc8331RtpHdrBswap (setRtpTmstamp memory tmstamp)) =
        (List.range len).map (setRtpTmstamp memory tmstamp) := by
  have writes := setRtpTmstamp_writes tmstamp
  rw [bswap_setRtpTmstamp, List.map_inj_left]
  constructor
  · intro same position member
    by_cases stamp : 4 ≤ position ∧ position < 8
    · exact writes.inside _ _ _ stamp
    · rw [writes.outside _ _ stamp, writes.outside _ _ stamp]
      exact same position (List.mem_range.mp member)
  · intro same position inside
    by_cases stamp : 4 ≤ position ∧ position < 8
    · unfold st40Rfc8331RtpHdrBswap
      rw [if_neg (by omega)]
    · have equal := same position (List.mem_range.mpr inside)
      rwa [writes.outside _ _ stamp, writes.outside _ _ stamp] at equal

/-- The counters of fields and frames, which the start of a frame moves. -/
def TxAncStats.frameCounters (stats : TxAncStats) : Nat × Nat × Nat × Nat :=
  ((stats.port .p).frames, (stats.port .r).frames, stats.interlaceFirstField, stats.interlaceSecondField)

theorem frameCounters_countBuild (port : MtlSessionPort) (pktLen : Nat) :
    (stats.countBuild port pktLen).frameCounters = stats.frameCounters := by
  unfold TxAncStats.frameCounters TxAncStats.countBuild TxAncStats.setPort
  cases port <;> simp

theorem frameCounters_sync (curTai curTsc requiredTai : Nat) :
    (txAncillarySessionSyncPacing s curTai curTsc requiredTai).stats.frameCounters =
      s.stats.frameCounters := by
  have epoch : (txAncillaryCalcEpoch s curTai requiredTai).1.stats.frameCounters =
      s.stats.frameCounters := by
    unfold txAncillaryCalcEpoch txAncillaryValidateUserTimestamp
    dsimp only
    split
    · split
      · split <;> rfl
      · split <;> rfl
    · split
      · rfl
      · split
        · split <;> rfl
        · rfl
  unfold txAncillarySessionSyncPacing
  dsimp only
  split
  · exact epoch
  · exact epoch

theorem frameCounters_start :
    (txAncStartRtpFrame env s memory).stats.frameCounters = s.stats.frameCounters :=
  frameCounters_sync s env.ptpTime env.syncTsc 0

theorem txAncillaryCalcEpoch_cfg (curTai requiredTai : Nat) :
    (txAncillaryCalcEpoch s curTai requiredTai).1.cfg = s.cfg := by
  unfold txAncillaryCalcEpoch txAncillaryValidateUserTimestamp
  dsimp only
  split
  · split
    · split <;> rfl
    · split <;> rfl
  · split
    · rfl
    · split
      · split <;> rfl
      · rfl

theorem txAncStartRtpFrame_cfg : (txAncStartRtpFrame env s memory).cfg = s.cfg :=
  txAncillaryCalcEpoch_cfg s env.ptpTime 0

def TxAncConfig.startChained (stats : TxAncStats) (secondField : Bool) : TxAncStats :=
  if cfg.rfc8331Interlaced then (stats.countFrame .p).countField secondField else stats.countFrame .p

/-- The counters with which the path with single buffers starts a frame. -/
def TxAncConfig.startSingle (stats : TxAncStats) (secondField : Bool) : TxAncStats :=
  let stats := stats.countFrame .p
  let stats := if cfg.ops.numPort > 1 then stats.countFrame .r else stats
  if cfg.rfc8331Interlaced then stats.countField secondField else stats

def TxAncConfig.StartsAlike (chained single : Bool) : Prop :=
  cfg.ops.numPort ≤ 1 ∧ (cfg.rfc8331Interlaced = true -> chained = single)

theorem start_eq_of_alike {cfg : TxAncConfig} (stats : TxAncStats) {chained single : Bool}
    (alike : cfg.StartsAlike chained single) :
    cfg.startChained stats chained = cfg.startSingle stats single := by
  rcases alike with ⟨ports, field⟩
  unfold TxAncConfig.startChained TxAncConfig.startSingle
  dsimp only
  rw [if_neg (show ¬ cfg.ops.numPort > 1 from Nat.not_lt.mpr ports)]
  by_cases interlaced : cfg.rfc8331Interlaced = true
  · rw [if_pos interlaced, if_pos interlaced, field interlaced]
  · rw [if_neg interlaced, if_neg interlaced]

theorem frameCounters_countFrame_r :
    (stats.countFrame .r).frameCounters =
      ((stats.port .p).frames, (stats.port .r).frames + 1, stats.frameCounters.2.2) := by
  unfold TxAncStats.frameCounters TxAncStats.countFrame TxAncStats.setPort
  simp

theorem frameCounters_countField (secondField : Bool) :
    (stats.countField secondField).frameCounters =
      ((stats.port .p).frames, (stats.port .r).frames,
        stats.interlaceFirstField + (if secondField then 0 else 1),
        stats.interlaceSecondField + (if secondField then 1 else 0)) := by
  cases secondField <;> rfl

theorem alike_of_counters {cfg : TxAncConfig} {stats : TxAncStats} {chained single : Bool}
    (same : (cfg.startChained stats chained).frameCounters = (cfg.startSingle stats single).frameCounters) :
    cfg.StartsAlike chained single := by
  have redundant := congrArg (fun counters => counters.2.1) same
  have second := congrArg (fun counters => counters.2.2.2) same
  have grown := frameCounters_countFrame_r (stats.countFrame .p)
  unfold TxAncConfig.startChained TxAncConfig.startSingle at redundant second
  dsimp only at redundant second
  generalize stats.countFrame .p = start at redundant second grown
  by_cases ports : cfg.ops.numPort > 1
  · -- the redundant port has one more frame on the path with single buffers
    rw [if_pos ports] at redundant
    have more : ((start.countFrame .r).port .r).frames = (start.port .r).frames + 1 :=
      congrArg (fun counters => counters.2.1) grown
    by_cases interlaced : cfg.rfc8331Interlaced = true
    · rw [if_pos interlaced, if_pos interlaced, frameCounters_countField, frameCounters_countField] at redundant
      dsimp only at redundant
      omega
    · rw [if_neg interlaced, if_neg interlaced, grown] at redundant
      exact absurd redundant (Nat.ne_of_lt (Nat.lt_succ_self _))
  · rw [if_neg ports] at second
    refine ⟨Nat.not_lt.mp ports, fun interlaced => ?_⟩
    rw [if_pos interlaced, if_pos interlaced, frameCounters_countField, frameCounters_countField] at second
    cases chained <;> cases single <;> simp at second ⊢

/-- The session after the first packet of a frame, with its counters. -/
def txAncOpened (memory : Nat -> Byte) (stats : TxAncStats) : TxAncSession :=
  txAncStartRtpFrame env
    { s with pktIdx := 0, ancIdx := 0, rtpTime := rtpTmstamp memory, stats := stats } memory

def TxAncSession.countPackets (pkts : TxPkt × Option TxPkt) : TxAncSession :=
  { s with stats :=
      match pkts.2 with
      | some redundant =>
        (s.stats.countBuild .p pkts.1.bytes.length).countBuild .r redundant.bytes.length
      | none => s.stats.countBuild .p pkts.1.bytes.length }

def chainedSession (memory : Nat -> Byte) : TxAncSession :=
  if rtpTmstamp memory ≠ s.rtpTime then
    txAncOpened env s memory
      (s.cfg.startChained s.stats (isSecondField (fun position => env.mbuf (42 + position))))
  else
    s

/-- The session on the path with single buffers before the packets are counted. -/
def singleSession (memory : Nat -> Byte) : TxAncSession :=
  if rtpTmstamp memory ≠ s.rtpTime then
    txAncOpened env s memory (s.cfg.startSingle s.stats (isSecondField memory))
  else
    s

theorem chainedSession_cfg : (chainedSession env s memory).cfg = s.cfg := by
  unfold chainedSession
  split
  · exact txAncStartRtpFrame_cfg env _ memory
  · rfl

theorem singleSession_cfg : (singleSession env s memory).cfg = s.cfg := by
  unfold singleSession
  split
  · exact txAncStartRtpFrame_cfg env _ memory
  · rfl

theorem length_raw (len : Nat) (memory : Nat -> Byte) : (TxRtp.raw memory len).bytes.length = len :=
  (List.length_map _).trans List.length_range

theorem txAncRtpChained_eq {env : TxAncEnv} {s : TxAncSession} (memory : Nat -> Byte) (len : Nat)
    (level : s.cfg.ops.type = .rtpLevel) (alloc : env.allocPkt = true)
    (redundant : env.allocRedundant = true) :
    txAncRtpChained env s memory len =
      let after := chainedSession env s memory
      let stamped := setRtpTmstamp memory after.pacing.rtpTimeStamp
      let pkts := s.cfg.packets
        (.raw (if s.cfg.ops.fastMetadata then stamped else st40Rfc8331RtpHdrBswap stamped) len)
      (after.countPackets pkts, some pkts) := by
  have kept := chainedSession_cfg env s memory
  have length := length_raw len
  have chain : txAncChainRtp env s memory = (chainedSession env s memory,
      if (chainedSession env s memory).cfg.ops.fastMetadata then
        setRtpTmstamp memory (chainedSession env s memory).pacing.rtpTimeStamp
      else st40Rfc8331RtpHdrBswap
        (setRtpTmstamp memory (chainedSession env s memory).pacing.rtpTimeStamp)) := rfl
  unfold txAncRtpChained
  rw [alloc, redundant, if_neg (by simp)]
  unfold txAncillarySessionBuildPacketChain
  rw [level]
  dsimp only
  rw [chain]
  generalize chainedSession env s memory = after at kept ⊢
  dsimp only
  rw [← kept]
  unfold TxAncSession.countPackets TxAncConfig.packets
  dsimp only
  rw [length]
  by_cases ports : after.cfg.ops.numPort > 1
  · rw [if_pos ports, if_pos ports]
  · rw [if_neg ports, if_neg ports]

theorem txAncRtpSingle_eq {env : TxAncEnv} {s : TxAncSession} (memory : Nat -> Byte) (len : Nat)
    (redundant : env.allocRedundant = true) :
    txAncRtpSingle env s memory len =
      let after := singleSession env s memory
      let swapped :=
        if rtpTmstamp memory ≠ s.rtpTime ∧ s.cfg.rfc8331Interlaced = true then
          st40Rfc8331RtpHdrBswap memory
        else memory
      let pkts := s.cfg.packets (.raw (setRtpTmstamp swapped after.pacing.rtpTimeStamp) len)
      (after.countPackets pkts, some pkts) := by
  have kept := singleSession_cfg env s memory
  have length := length_raw len
  have update : txAncillarySessionRtpUpdatePacket env s memory len = (singleSession env s memory,
      { net := (singleSession env s memory).cfg.netHdr .p len
        rtp := .raw (setRtpTmstamp (if rtpTmstamp memory ≠ s.rtpTime ∧ s.cfg.rfc8331Interlaced = true then
          st40Rfc8331RtpHdrBswap memory else memory) (singleSession env s memory).pacing.rtpTimeStamp) len }) := by
    unfold txAncillarySessionRtpUpdatePacket singleSession
    by_cases opens : rtpTmstamp memory ≠ s.rtpTime
    · rw [if_pos opens, if_pos opens]
      by_cases interlaced : s.cfg.rfc8331Interlaced = true
      · rw [if_pos interlaced, if_pos ⟨opens, interlaced⟩]
        rfl
      · rw [if_neg interlaced, if_neg (fun both => interlaced both.2)]
        rfl
    · rw [if_neg opens, if_neg opens, if_neg (fun both => opens both.1)]
  unfold txAncRtpSingle
  rw [update]
  generalize singleSession env s memory = after at kept ⊢
  dsimp only
  rw [redundant, ← kept]
  unfold TxAncSession.countPackets TxAncConfig.packets
  rw [txAncillarySessionUpdateRedundant_eq]
  dsimp only
  rw [length]
  by_cases ports : after.cfg.ops.numPort > 1
  · rw [if_pos ports, if_pos ports, if_neg (by decide)]
  · rw [if_neg ports, if_neg ports]

/-! ## When the two paths agree -/

def wireBytes (pkts : Option (TxPkt × Option TxPkt)) : Option (List Byte × Option (List Byte)) :=
  pkts.map (fun pair => (pair.1.bytes, pair.2.map TxPkt.bytes))

/-- One call on the chained path: a frame's next packet, or the packet of the application. -/
def chainedCall (memory : Nat -> Byte) (len : Nat) : TxAncSession × Option (TxPkt × Option TxPkt) :=
  match s.cfg.ops.type with
  | .frameLevel => txAncBuildChained env s
  | .rtpLevel => txAncRtpChained env s memory len

def singleCall (memory : Nat -> Byte) (len : Nat) : TxAncSession × Option (TxPkt × Option TxPkt) :=
  match s.cfg.ops.type with
  | .frameLevel => txAncBuildSingle env s
  | .rtpLevel => txAncRtpSingle env s memory len

/-- Frames; and packets whose header chunk is swapped on both paths or on neither, or may as well
be, and that start no frame unless both paths count it alike. -/
def PathsMeet (memory : Nat -> Byte) (len : Nat) : Prop :=
  s.cfg.ops.type = .frameLevel ∨
    ((s.cfg.ops.fastMetadata = true ∨
        (s.cfg.ops.interlaced = true ∧ rtpTmstamp memory ≠ s.rtpTime) ∨ SwapsToItself memory len) ∧
      (rtpTmstamp memory ≠ s.rtpTime ->
        s.cfg.StartsAlike (isSecondField (fun position => env.mbuf (42 + position)))
          (isSecondField memory)))

theorem packets_bytes_iff (first second : Nat -> Byte) (len : Nat) :
    wireBytes (some (cfg.packets (.raw first len))) = wireBytes (some (cfg.packets (.raw second len))) <->
      (List.range len).map first = (List.range len).map second := by
  unfold wireBytes TxAncConfig.packets TxPkt.bytes
  rw [length_raw, length_raw]
  constructor
  · intro same
    have primary := congrArg Prod.fst (Option.some.inj same)
    exact List.append_cancel_left primary
  · intro same
    have bytes : (TxRtp.raw first len).bytes = (TxRtp.raw second len).bytes := same
    dsimp only [Option.map_some]
    rw [bytes]
    split
    · dsimp only [Option.map_some]
      rw [bytes]
    · rfl

theorem countPackets_frameCounters (pkts : TxPkt × Option TxPkt) :
    (s.countPackets pkts).stats.frameCounters = s.stats.frameCounters := by
  unfold TxAncSession.countPackets
  cases pkts.2 with
  | none => exact frameCounters_countBuild _ _ _
  | some redundant => exact (frameCounters_countBuild _ _ _).trans (frameCounters_countBuild _ _ _)

theorem countPackets_raw (cfg : TxAncConfig) (len : Nat) (first second : Nat -> Byte) :
    s.countPackets (cfg.packets (.raw first len)) = s.countPackets (cfg.packets (.raw second len)) := by
  unfold TxAncSession.countPackets TxAncConfig.packets TxPkt.bytes
  by_cases ports : cfg.ops.numPort > 1
  · simp only [if_pos ports, length_raw, List.length_append]
  · simp only [if_neg ports, length_raw, List.length_append]

theorem sessions_alike {env : TxAncEnv} {s : TxAncSession} {memory : Nat -> Byte}
    (same : (chainedSession env s memory).stats.frameCounters =
      (singleSession env s memory).stats.frameCounters)
    (opens : rtpTmstamp memory ≠ s.rtpTime) :
    s.cfg.StartsAlike (isSecondField (fun position => env.mbuf (42 + position)))
      (isSecondField memory) := by
  unfold chainedSession singleSession at same
  rw [if_pos opens, if_pos opens] at same
  unfold txAncOpened at same
  rw [frameCounters_start, frameCounters_start] at same
  exact alike_of_counters same

theorem sessions_eq {env : TxAncEnv} {s : TxAncSession} {memory : Nat -> Byte}
    (alike : rtpTmstamp memory ≠ s.rtpTime ->
      s.cfg.StartsAlike (isSecondField (fun position => env.mbuf (42 + position)))
        (isSecondField memory)) :
    chainedSession env s memory = singleSession env s memory := by
  unfold chainedSession singleSession
  by_cases opens : rtpTmstamp memory ≠ s.rtpTime
  · rw [if_pos opens, if_pos opens, start_eq_of_alike s.stats (alike opens)]
  · rw [if_neg opens, if_neg opens]

theorem swaps_iff (len tmstamp : Nat) :
    (List.range len).map (if s.cfg.ops.fastMetadata then setRtpTmstamp memory tmstamp
        else st40Rfc8331RtpHdrBswap (setRtpTmstamp memory tmstamp)) =
      (List.range len).map (setRtpTmstamp
        (if rtpTmstamp memory ≠ s.rtpTime ∧ s.cfg.rfc8331Interlaced = true then
          st40Rfc8331RtpHdrBswap memory else memory) tmstamp) <->
    (s.cfg.ops.fastMetadata = true ∨
      (s.cfg.ops.interlaced = true ∧ rtpTmstamp memory ≠ s.rtpTime) ∨ SwapsToItself memory len) := by
  have interlaced_iff : s.cfg.rfc8331Interlaced = true <->
      s.cfg.ops.interlaced = true ∧ s.cfg.ops.fastMetadata = false := by
    unfold TxAncConfig.rfc8331Interlaced
    cases s.cfg.ops.interlaced <;> cases s.cfg.ops.fastMetadata <;> simp
  rw [swapsToItself_iff memory len tmstamp]
  cases fmd : s.cfg.ops.fastMetadata with
  | true =>
    have off : ¬ (rtpTmstamp memory ≠ s.rtpTime ∧ s.cfg.rfc8331Interlaced = true) := by
      rw [interlaced_iff, fmd]
      simp
    rw [if_pos rfl, if_neg off]
    exact ⟨fun _ => Or.inl rfl, fun _ => rfl⟩
  | false =>
    rw [if_neg Bool.false_ne_true]
    by_cases both : s.cfg.ops.interlaced = true ∧ rtpTmstamp memory ≠ s.rtpTime
    · rw [if_pos ⟨both.2, interlaced_iff.mpr ⟨both.1, fmd⟩⟩, bswap_setRtpTmstamp]
      exact ⟨fun _ => Or.inr (Or.inl both), fun _ => rfl⟩
    · rw [if_neg (fun on => both ⟨(interlaced_iff.mp on.2).1, on.1⟩)]
      refine ⟨fun same => Or.inr (Or.inr same), fun cases => ?_⟩
      rcases cases with absurd | on | same
      · cases absurd
      · exact (both on).elim
      · exact same

/-- For every state of a session and every frame or packet of the application, when the buffers can
be had: the two paths leave one session and put the same bytes on the wire exactly when they meet. -/
theorem chained_agrees_iff (env : TxAncEnv) (other : Nat -> Byte) (s : TxAncSession)
    (memory : Nat -> Byte) (len : Nat) (alloc : env.allocPkt = true ∧ env.allocChain = true)
    (redundant : env.allocRedundant = true) :
    let chained := chainedCall env s memory len
    let single := singleCall { env with mbuf := other } s memory len
    (chained.1 = single.1 ∧ wireBytes chained.2 = wireBytes single.2) <-> PathsMeet env s memory len := by
  unfold chainedCall singleCall PathsMeet
  cases level : s.cfg.ops.type with
  | frameLevel =>
    dsimp only
    have same : txAncBuildPackets env.allocRedundant other s =
        txAncBuildPackets env.allocRedundant env.mbuf s := by
      unfold txAncBuildPackets
      rw [txAncillarySessionBuildRtpPacket_mbuf s other env.mbuf]
    rw [txAncBuildChained_eq env level, txAncBuildSingle_eq, if_pos alloc, if_pos alloc.1]
    dsimp only
    rw [same]
    exact ⟨fun _ => Or.inl rfl, fun _ => ⟨rfl, rfl⟩⟩
  | rtpLevel =>
    dsimp only
    have never : ¬ St40TxType.rtpLevel = St40TxType.frameLevel := by decide
    have single_mbuf : singleSession { env with mbuf := other } s memory =
        singleSession env s memory := rfl
    rw [txAncRtpChained_eq memory len level alloc.1 redundant,
      @txAncRtpSingle_eq { env with mbuf := other } s memory len redundant, single_mbuf,
      or_iff_right never]
    dsimp only
    constructor
    · rintro ⟨session, bytes⟩
      have counters := congrArg (fun after : TxAncSession => after.stats.frameCounters) session
      rw [countPackets_frameCounters, countPackets_frameCounters] at counters
      have equal := sessions_eq (fun opens => sessions_alike counters opens)
      rw [equal, packets_bytes_iff, swaps_iff] at bytes
      exact ⟨bytes, fun opens => sessions_alike counters opens⟩
    · rintro ⟨swaps, alike⟩
      have equal := sessions_eq alike
      rw [equal]
      have bytes := (packets_bytes_iff s.cfg _ _ len).mpr
        ((swaps_iff s memory len (singleSession env s memory).pacing.rtpTimeStamp).mpr swaps)
      exact ⟨countPackets_raw _ s.cfg len _ _, bytes⟩

/-- One port and no flags. -/
def packetOps (type : St40TxType) (interlaced : Bool) : St40TxOps where
  type := type
  numPort := 1
  interlaced := interlaced
  fastMetadata := false
  splitAncByPkt := false
  userPacing := false
  exactUserPacing := false
  userTimestamp := false
  fmdDit := 0
  fmdKBit := 0

def plainConfig (ops : St40TxOps) : TxAncConfig where
  ops := ops
  hdr := fun _ => List.replicate 42 0
  payloadType := 113
  ssrc := 1
  cksumOffload := fun _ => true
  rteIpv4Cksum := fun _ => 0
  txNoChain := false
  fps := ⟨50, 1, 90000⟩
  maxOnwardEpochs := 50
  maxFutureEpochs := 50
  st10MediaClkToTai := fun anchor _ => anchor

/-- Every resource is there and the time of every packet has come. -/
def plainEnv : TxAncEnv where
  ringFull := false
  takesInflight := fun _ => true
  takes := fun _ => true
  getNextFrame := fun _ => none
  requiredTaiNow := 0
  ptpTime := 1000000000
  syncTsc := 0
  curTsc := 0
  schScheduleNs := 0
  allocPkt := true
  allocChain := true
  allocRedundant := true
  mbuf := fun _ => 0
  cursorAfter := fun cursor _ => cursor

/-- A packet of the application that announces one entry of a first field, in host order. -/
def oneEntryPacket : Nat -> Byte := memoryOf
  [0x80, 113, 0, 7, 0, 0, 0, 9, 0, 0, 0, 1, 0, 0, 0, 0, 0, 0, 0x80, 1]

/-- The first packet of an interlaced frame, from a buffer that held a first field before. -/
theorem chained_agrees_first_field :
    PathsMeet plainEnv (txAncInit (plainConfig (packetOps .rtpLevel true)) 0) oneEntryPacket 20 ∧
      wireBytes (chainedCall plainEnv (txAncInit (plainConfig (packetOps .rtpLevel true)) 0)
          oneEntryPacket 20).2 =
        wireBytes (singleCall { plainEnv with mbuf := fun _ => 1 }
          (txAncInit (plainConfig (packetOps .rtpLevel true)) 0) oneEntryPacket 20).2 := by
  have meet : PathsMeet plainEnv (txAncInit (plainConfig (packetOps .rtpLevel true)) 0) oneEntryPacket
      20 := by
    refine Or.inr ⟨Or.inr (Or.inl ⟨rfl, by decide⟩), fun _ => ⟨Nat.le_refl 1, fun _ => ?_⟩⟩
    decide
  exact ⟨meet, ((chained_agrees_iff plainEnv (fun _ => 1)
    (txAncInit (plainConfig (packetOps .rtpLevel true)) 0) oneEntryPacket 20 ⟨rfl, rfl⟩ rfl).mpr
    meet).2⟩

/-- A progressive packet: the chained path swaps the header chunk, and the other one does not. -/
theorem progressive_packet_differs :
    (wireBytes (chainedCall plainEnv (txAncInit (plainConfig (packetOps .rtpLevel false)) 0)
        oneEntryPacket 20).2).map (fun bytes => bytes.1.drop 58) = some [1, 0x80, 0, 0] ∧
      (wireBytes (singleCall plainEnv (txAncInit (plainConfig (packetOps .rtpLevel false)) 0)
        oneEntryPacket 20).2).map (fun bytes => bytes.1.drop 58) = some [0, 0, 0x80, 1] ∧
      wireBytes (chainedCall plainEnv (txAncInit (plainConfig (packetOps .rtpLevel false)) 0)
          oneEntryPacket 20).2 ≠
        wireBytes (singleCall plainEnv (txAncInit (plainConfig (packetOps .rtpLevel false)) 0)
          oneEntryPacket 20).2 := by
  refine ⟨?_, ?_, ?_⟩
  · decide +kernel
  · decide +kernel
  · decide +kernel

end MediaTransport.Anc
