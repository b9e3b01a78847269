import MediaTransport.Anc.Accounts
import MediaTransport.Audio.Accounts

namespace MediaTransport

open Library Util

/-!
# The documented counters

The user statistics promise that a session loses no more packets than its
ports do.  The two counters are kept against different numbers: a port's
number starts at the port's first packet and moves with packets that the
filter turns away.  The promise holds in runs whose accepted packets leave out
no more numbers of the session than of their port.
-/

/-- The books, with the packets that the ring did not take or that found no slot as dropped. -/
def Anc.RxAncSession.accounts (s : Anc.RxAncSession) : Ledger :=
  { s.ledger with dropped := s.stats.pktsEnqueueFail + s.stats.ancFramesDropped }

/-- The counters of the ports add up in every run; what is promised of the session's losses holds
when the accepted packets are in order. -/
theorem counters_documented (audioOps : Audio.St30RxOps) (s : Audio.RxAudioSession)
    (arrivals : List Audio.AudioArrival) (ops : Anc.St40RxOps) (interlaceAuto : Bool) (cnt udwBufSize : Nat)
    (receipts : List Anc.AncReceipt) :
    (Audio.rxAudioSessionAttach audioOps = .ok s ->
      (run Audio.audioRxStep s arrivals).ledger.Balanced ∧
        (Admitted Audio.audioRxStep Audio.AudioArrival.InOrder s arrivals ->
          (run Audio.audioRxStep s arrivals).ledger.Documented)) ∧
    (run Anc.ancRxStep (Anc.rxAncInit ops interlaceAuto cnt udwBufSize) receipts).ledger.Balanced ∧
    (Admitted Anc.ancRxStep Anc.AncReceipt.InOrder (Anc.rxAncInit ops interlaceAuto cnt udwBufSize) receipts ->
      (run Anc.ancRxStep (Anc.rxAncInit ops interlaceAuto cnt udwBufSize) receipts).accounts.Documented) := by
  constructor
  · intro attached
    have start := Audio.rxAudioSessionAttach_documented attached
    exact ⟨Audio.audio_run_balanced start.balanced arrivals,
      fun inOrder => Audio.audio_run_documented start inOrder⟩
  · have start := Anc.rxAncInit_documented ops interlaceAuto cnt udwBufSize
    refine ⟨Anc.anc_run_balanced start.balanced receipts, fun inOrder => ?_⟩
    rcases Anc.anc_run_documented start rfl inOrder with ⟨documented, none⟩
    refine ⟨⟨documented.balanced.lost, ?_⟩, documented.unrecovered⟩
    have sum := documented.balanced.packets
    simp only [Anc.RxAncSession.accounts, none, Nat.add_zero]
    exact sum

/-! ## A port that joins late -/

def rtpLevelOps : Audio.St30RxOps where
  numPort := 2
  payloadType := 111
  ssrc := 0
  type := .rtpLevel
  receiveIncompleteFrame := false
  fmt := .pcm16
  ptime := .p1ms
  sampling := .s48k
  channel := 1
  framebuffCnt := 0
  framebuffSize := 0
  framebuffSizeWord := by decide

def audioPkt (seqNumber tmstamp : Nat) (seqWord : seqNumber < 65536)
    (stampWord : tmstamp < 4294967296) : Audio.AudioPkt where
  payloadType := 111
  ssrc := 0
  seqNumber := seqNumber
  seqNumberWord := seqWord
  tmstamp := tmstamp
  tmstampWord := stampWord
  dataLen := 150
  pktLen := 150
  payload := fun _ => 0
  recvTs := 0

def quietEnv : Audio.AudioEnv where
  ringTakes := true
  notify := fun _ => { refused := false, puts := [] }
  racing := fun _ _ => []

def skippingArrivals : List Audio.AudioArrival :=
  [⟨quietEnv, audioPkt 7 0 (by decide) (by decide), .p⟩,
    ⟨quietEnv, audioPkt 10 144 (by decide) (by decide), .p⟩]

def ancRtpLevelOps : Anc.St40RxOps where
  numPort := 1
  payloadType := 0
  ssrc := 0
  fastMetadata := false
  interlaced := false
  type := .rtpLevel

def ancPkt (seqNumber tmstamp : Nat) : Anc.AncPkt where
  payloadType := 113
  ssrc := 0
  seqNumber := seqNumber
  tmstamp := tmstamp
  marker := true
  f := 0
  ancCount := 0
  len := 20
  pktLen := 74
  payload := fun _ => 0
  recvTs := 0

def quietAncEnv : Anc.AncEnv where
  ringTakes := true
  notify := fun _ => { refused := false, puts := [] }
  racing := fun _ _ => []

def skippingReceipts : List Anc.AncReceipt :=
  [⟨quietAncEnv, ancPkt 7 0, .p⟩, ⟨quietAncEnv, ancPkt 10 4500, .p⟩]

theorem skipping_port_documented :
    (run Audio.audioRxStep (Audio.rxAudioInit rtpLevelOps 96) skippingArrivals).ledger.Documented ∧
      (run Anc.ancRxStep (Anc.rxAncInit ancRtpLevelOps false 0 0)
        skippingReceipts).accounts.Documented :=
  have documented := counters_documented rtpLevelOps (Audio.rxAudioInit rtpLevelOps 96) skippingArrivals
    ancRtpLevelOps false 0 0 skippingReceipts
  ⟨(documented.1 rfl).2 (by decide +kernel), documented.2.2 (by decide +kernel)⟩

/-- The second port's first packet is nine numbers ahead of the session. -/
def lateArrivals : List Audio.AudioArrival :=
  [⟨quietEnv, audioPkt 0 0 (by decide : 0 < 2 ^ 16) (by decide), .p⟩,
    ⟨quietEnv, audioPkt 10 480 (by decide) (by decide), .r⟩]

theorem late_port_not_documented :
    ¬ forall (ops : Audio.St30RxOps) (s : Audio.RxAudioSession)
      (arrivals : List Audio.AudioArrival), Audio.rxAudioSessionAttach ops = .ok s ->
        (run Audio.audioRxStep s arrivals).ledger.Documented := by
  intro claim
  have documented := claim rtpLevelOps (Audio.rxAudioInit rtpLevelOps 96) lateArrivals rfl
  have counted : (run Audio.audioRxStep (Audio.rxAudioInit rtpLevelOps 96)
      lateArrivals).ledger.unrecovered = 9 ∧
    (run Audio.audioRxStep (Audio.rxAudioInit rtpLevelOps 96) lateArrivals).ledger.lost = 0 := by
    decide +kernel
  have bound := documented.unrecovered
  omega

end MediaTransport
