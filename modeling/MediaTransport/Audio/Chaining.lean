import MediaTransport.Anc.Chaining
import MediaTransport.Audio.Continuity

namespace MediaTransport.Audio

open Library
open Anc (TxPortStats patchBe16 patchBe16_comm rtpTmstamp setRtpTmstamp)

/-!
# Chained and single buffers of the audio transmit session

Whether a packet is sent from one buffer or from a header buffer chained to another is
up to the ports.  Frames leave the same bytes, counters and session on both ways.
Packets of the application leave the same bytes too, but the start of an epoch is
counted for one port on one way and for all ports on the other.
-/

/-- A session of either type; `rtpTimeApp` is the timestamp that the application wrote last, `rtpTime` the
one that is sent for it.  Nothing of a session of packets reads the fields that belong to frames. -/
structure TxAudioPathSession where
  session : TxAudioSession
  type : St30Type
  rtpTime : Nat
  rtpTimeApp : Nat

variable (s : TxAudioPathSession)

/-- A packet of the application on its way: its headers, the memory from its RTP header on, and its length. -/
structure TxAudioRawPkt where
  net : List Byte
  memory : Nat -> Byte
  len : Nat

variable (memory : Nat -> Byte)

def TxAudioRawPkt.bytes (pkt : TxAudioRawPkt) : List Byte :=
  pkt.net ++ (List.range pkt.len).map pkt.memory

/-- What is put on the wire, port by port. -/
structure TxAudioWire where
  primary : List Byte
  redundant : Option (List Byte)
  deriving DecidableEq, Repr

/-! ## Frames -/

/-- What `tx_audio_session_tasklet_frame` builds with chained buffers. -/
def txAudioFrameChained (s : TxAudioSession) : TxAudioSession × TxAudioPkt × Option TxAudioPkt :=
  let (s, rtp) := txAudioSessionBuildRtpPacket s
  (s, txAudioSessionBuildPacketChain s.cfg rtp .p,
    if s.cfg.ops.numPort > 1 then some (txAudioSessionBuildPacketChain s.cfg rtp .r) else none)

def txAudioFrameSingle (s : TxAudioSession) : TxAudioSession × TxAudioPkt × Option TxAudioPkt :=
  let (s, pkt) := txAudioSessionBuildPacket s
  (s, pkt, if s.cfg.ops.numPort > 1 then some (txAudioSessionUpdateRedundant s.cfg pkt) else none)

/-- The packets are counted, and the frame is done with its last one. -/
def txAudioFrameCounted (built : TxAudioSession × TxAudioPkt × Option TxAudioPkt) :
    TxAudioSession × TxAudioWire :=
  (txAudioFinishFrame (txAudioAdvancePkt built.1 built.2.1 built.2.2),
    ⟨built.2.1.bytes, built.2.2.map TxAudioPkt.bytes⟩)

/-! ## Packets of the application -/

/-- The timestamp of the application is replaced; a new one starts an epoch, which is counted. -/
def TxAudioPathSession.epoch (count : TxAudioStats -> TxAudioStats) (memory : Nat -> Byte)
    : TxAudioPathSession :=
  if rtpTmstamp memory ≠ s.rtpTimeApp then
    let stamp :=
      if s.session.cfg.ops.userTimestamp then rtpTmstamp memory else s.session.pacing.rtpTimeStamp
    { s with
      session :=
        { s.session with
          pacing := { s.session.pacing with rtpTimeStamp := stamp }
          stats := count s.session.stats }
      rtpTime := stamp
      rtpTimeApp := rtpTmstamp memory }
  else
    s

/-- `tx_audio_session_build_packet_chain` for a packet of the application -/
def txAudioSessionChainRtp (len : Nat) (port : MtlSessionPort) : TxAudioPathSession × TxAudioRawPkt :=
  match port with
  | .p =>
    let s := s.epoch (fun stats => stats.countFrame .p) memory
    (s, ⟨s.session.cfg.netHdr .p len, setRtpTmstamp memory s.rtpTime, len⟩)
  | .r => (s, ⟨s.session.cfg.netHdr .r len, memory, len⟩)

/-- `tx_audio_session_rtp_update_packet` -/
def txAudioSessionRtpUpdatePacket (len : Nat) : TxAudioPathSession × TxAudioRawPkt :=
  let s := s.epoch
    (fun stats =>
      let stats := stats.countFrame .p
      if s.session.cfg.ops.numPort > 1 then stats.countFrame .r else stats) memory
  (s, ⟨s.session.cfg.netHdr .p len, setRtpTmstamp memory s.rtpTime, len⟩)

/-- `tx_audio_session_update_redundant` for a copy of the packet -/
def txAudioSessionUpdateRedundantRtp (cfg : TxAudioConfig) (pkt : TxAudioRawPkt) : TxAudioRawPkt :=
  let net := patchBe16 (cfg.hdr .r) 16 (28 + pkt.len)
  let net := patchBe16 net 38 (8 + pkt.len)
  { pkt with net := cfg.withCksum .r net }

def TxAudioPathSession.countPkt (s : TxAudioPathSession) (port : MtlSessionPort) (pkt : TxAudioRawPkt) :
    TxAudioPathSession :=
  { s with session := { s.session with stats := s.session.stats.countPkt port pkt.bytes.length } }

/-- `tx_audio_session_tasklet_rtp` with chained buffers; both ports send the one buffer of the application. -/
def txAudioRtpChained (len : Nat) : TxAudioPathSession × TxAudioWire :=
  let (s, pkt) := txAudioSessionChainRtp s memory len .p
  let s := s.countPkt .p pkt
  if s.session.cfg.ops.numPort > 1 then
    let (s, pktR) := txAudioSessionChainRtp s pkt.memory len .r
    (s.countPkt .r pktR, ⟨pkt.bytes, some pktR.bytes⟩)
  else
    (s, ⟨pkt.bytes, none⟩)

/-- `tx_audio_session_tasklet_rtp` with single buffers; the redundant port sends a copy. -/
def txAudioRtpSingle (len : Nat) : TxAudioPathSession × TxAudioWire :=
  let (s, pkt) := txAudioSessionRtpUpdatePacket s memory len
  let s := s.countPkt .p pkt
  if s.session.cfg.ops.numPort > 1 then
    let pktR := txAudioSessionUpdateRedundantRtp s.session.cfg pkt
    (s.countPkt .r pktR, ⟨pkt.bytes, some pktR.bytes⟩)
  else
    (s, ⟨pkt.bytes, none⟩)

/-! ## The two paths -/

/-- The next packet of a frame, or a packet of the application, with chained buffers. -/
def txAudioChained (len : Nat) : TxAudioPathSession × TxAudioWire :=
  match s.type with
  | .frameLevel =>
    let (session, wire) := txAudioFrameCounted (txAudioFrameChained s.session)
    ({ s with session := session }, wire)
  | .rtpLevel => txAudioRtpChained s memory len

/-- The same packet with single buffers, as `tx_no_chain` has it. -/
def txAudioNoChain (len : Nat) : TxAudioPathSession × TxAudioWire :=
  match s.type with
  | .frameLevel =>
    let (session, wire) := txAudioFrameCounted (txAudioFrameSingle s.session)
    ({ s with session := session }, wire)
  | .rtpLevel => txAudioRtpSingle s memory len

/-- The sequence number, the timestamp and the counters of frames and packets are the same. -/
structure TxAudioPathSession.Agrees (s other : TxAudioPathSession) : Prop where
  seqId : s.session.seqId = other.session.seqId
  rtpTime : s.rtpTime = other.rtpTime
  frames : forall port, (s.session.stats.port port).frames = (other.session.stats.port port).frames
  packets : forall port, (s.session.stats.port port).packets = (other.session.stats.port port).packets

/-! ## Headers -/

theorem TxAudioConfig.redundantHdr_eq (cfg : TxAudioConfig) (len : Nat) :
    cfg.withCksum .r (patchBe16 (patchBe16 (cfg.hdr .r) 16 (28 + len)) 38 (8 + len)) =
      cfg.netHdr .r len := by
  unfold TxAudioConfig.netHdr
  rw [patchBe16_comm _ _ _ (show 16 + 1 < 38 by decide)]

theorem txAudioFrameSingle_eq (s : TxAudioSession) : txAudioFrameSingle s = txAudioFrameChained s := by
  unfold txAudioFrameSingle txAudioFrameChained txAudioSessionBuildPacket txAudioSessionUpdateRedundant
    txAudioSessionBuildPacketChain
  dsimp only
  rw [TxAudioConfig.redundantHdr_eq]

/-! ## Counters -/

theorem TxAudioStats.countPkt_frames (stats : TxAudioStats) (port other : MtlSessionPort) (bytes : Nat) :
    ((stats.countPkt port bytes).port other).frames = (stats.port other).frames := by
  unfold TxAudioStats.countPkt
  by_cases same : other = port
  · subst same
    simp
  · simp [Function.update_of_ne same]

theorem TxAudioStats.countFrame_frames (stats : TxAudioStats) (port other : MtlSessionPort) :
    ((stats.countFrame port).port other).frames =
      (stats.port other).frames + if other = port then 1 else 0 := by
  unfold TxAudioStats.countFrame
  by_cases same : other = port
  · subst same
    simp
  · simp [same]

theorem txAudioSessionRtpUpdatePacket_eq {s : TxAudioPathSession} {memory : Nat -> Byte} (len : Nat)
    (alike : s.session.cfg.ops.numPort ≤ 1 ∨ rtpTmstamp memory = s.rtpTimeApp) :
    (txAudioSessionRtpUpdatePacket s memory len).1 = (txAudioSessionChainRtp s memory len .p).1 := by
  unfold txAudioSessionRtpUpdatePacket txAudioSessionChainRtp TxAudioPathSession.epoch
  dsimp only
  by_cases opens : rtpTmstamp memory ≠ s.rtpTimeApp
  · rcases alike with single | same
    · have off : ¬ s.session.cfg.ops.numPort > 1 := Nat.not_lt.mpr single
      simp only [off, if_false]
    · exact absurd same opens
  · rw [if_neg opens, if_neg opens]

theorem txAudioSessionRtpUpdatePacket_pkt (len : Nat) :
    (txAudioSessionRtpUpdatePacket s memory len).2 = (txAudioSessionChainRtp s memory len .p).2 := by
  unfold txAudioSessionRtpUpdatePacket txAudioSessionChainRtp TxAudioPathSession.epoch
  dsimp only
  split_ifs <;> rfl

theorem txAudioSessionUpdateRedundantRtp_eq (pkt : TxAudioRawPkt) :
    txAudioSessionUpdateRedundantRtp s.session.cfg pkt =
      (txAudioSessionChainRtp s pkt.memory pkt.len .r).2 := by
  unfold txAudioSessionUpdateRedundantRtp txAudioSessionChainRtp
  dsimp only
  rw [TxAudioConfig.redundantHdr_eq]

theorem txAudioRtpSingle_eq {s : TxAudioPathSession} {memory : Nat -> Byte} (len : Nat)
    (alike : s.session.cfg.ops.numPort ≤ 1 ∨ rtpTmstamp memory = s.rtpTimeApp) :
    txAudioRtpSingle s memory len = txAudioRtpChained s memory len := by
  have session := txAudioSessionRtpUpdatePacket_eq len alike
  have packet := txAudioSessionRtpUpdatePacket_pkt s memory len
  unfold txAudioRtpSingle txAudioRtpChained
  dsimp only
  rw [session, packet, txAudioSessionUpdateRedundantRtp_eq]
  rfl

theorem txAudioRtpChained_redundantFrames (len : Nat) :
    ((txAudioRtpChained s memory len).1.session.stats.port .r).frames =
      (s.session.stats.port .r).frames := by
  have epoch : ((txAudioSessionChainRtp s memory len .p).1.session.stats.port .r).frames =
      (s.session.stats.port .r).frames := by
    unfold txAudioSessionChainRtp TxAudioPathSession.epoch
    dsimp only
    by_cases opens : rtpTmstamp memory ≠ s.rtpTimeApp
    · rw [if_pos opens, TxAudioStats.countFrame_frames]
      rfl
    · rw [if_neg opens]
  unfold txAudioRtpChained
  dsimp only
  split_ifs
  · unfold txAudioSessionChainRtp TxAudioPathSession.countPkt
    dsimp only
    rw [TxAudioStats.countPkt_frames, TxAudioStats.countPkt_frames]
    exact epoch
  · unfold TxAudioPathSession.countPkt
    dsimp only
    rw [TxAudioStats.countPkt_frames]
    exact epoch

theorem txAudioRtpSingle_redundantFrames {s : TxAudioPathSession} {memory : Nat -> Byte} (len : Nat)
    (ports : s.session.cfg.ops.numPort > 1) (opens : rtpTmstamp memory ≠ s.rtpTimeApp) :
    ((txAudioRtpSingle s memory len).1.session.stats.port .r).frames =
      (s.session.stats.port .r).frames + 1 := by
  unfold txAudioRtpSingle txAudioSessionRtpUpdatePacket TxAudioPathSession.epoch
    TxAudioPathSession.countPkt
  simp only [if_pos opens, if_pos ports]
  rw [TxAudioStats.countPkt_frames, TxAudioStats.countPkt_frames, TxAudioStats.countFrame_frames,
    TxAudioStats.countFrame_frames]
  rfl

/-! ## When the two paths agree -/

/-- The session sends frames, or has one port, or the packet does not start an epoch. -/
def TxAudioPathSession.CountsAlike : Prop :=
  s.type = .frameLevel ∨ s.session.cfg.ops.numPort ≤ 1 ∨ rtpTmstamp memory = s.rtpTimeApp

/-- For every session, its next packet of a frame or any packet of the application: both paths put the same
bytes on the wire and leave the same numbers and counters exactly when they count alike. -/
theorem audio_paths_agree_iff (s : TxAudioPathSession) (memory : Nat -> Byte) (len : Nat) :
    ((txAudioChained s memory len).2 = (txAudioNoChain s memory len).2 ∧
      (txAudioChained s memory len).1.Agrees (txAudioNoChain s memory len).1) ↔ s.CountsAlike memory := by
  unfold txAudioChained txAudioNoChain TxAudioPathSession.CountsAlike
  cases level : s.type with
  | frameLevel =>
    dsimp only
    rw [txAudioFrameSingle_eq]
    exact ⟨fun _ => .inl rfl, fun _ => ⟨rfl, rfl, rfl, fun _ => rfl, fun _ => rfl⟩⟩
  | rtpLevel =>
    dsimp only
    rw [or_iff_right (show ¬ St30Type.rtpLevel = St30Type.frameLevel by decide)]
    constructor
    · rintro ⟨-, agrees⟩
      by_contra apart
      push Not at apart
      have redundant := agrees.frames .r
      rw [txAudioRtpChained_redundantFrames, txAudioRtpSingle_redundantFrames len apart.1 apart.2] at redundant
      omega
    · intro alike
      rw [txAudioRtpSingle_eq len alike]
      exact ⟨rfl, rfl, rfl, fun _ => rfl, fun _ => rfl⟩

def stereoPackets : TxAudioPathSession where
  session := txAudioInit stereoOnTwoPorts 0
  type := .rtpLevel
  rtpTime := 4294967295
  rtpTimeApp := 4294967295

/-- The first packet of the application starts an epoch, which the redundant port counts on one path only. -/
theorem first_packet_counted_once :
    ¬ (txAudioChained stereoPackets (fun _ => 0) 36).1.Agrees
      (txAudioNoChain stereoPackets (fun _ => 0) 36).1 := by
  intro agrees
  exact absurd (agrees.frames .r) (by decide)

end MediaTransport.Audio
