import MediaTransport.Rtcp.Shift

namespace MediaTransport.Rtcp

open Library Util

/-!
# The configuration of a receiver

`rv_init_rtcp` of `st_rx_video_session.c` hands the sizes of the application to
`mt_rtcp_rx_create`.  The window is eight times the size in sixteen bits, and
the skip window is dropped on the way: a NACK always covers the numbers up to
the one before the newest.
-/

/-- `struct st_rx_rtcp_ops`. -/
structure StRxRtcpOps where
  nackIntervalUs : Nat
  seqBitmapSize : Nat
  seqSkipWindow : Nat

variable {rx : MtRtcpRx} {ops : StRxRtcpOps}

/-- `rv_init_rtcp` for one port, with its defaults. -/
def rvInitRtcp (ops : StRxRtcpOps) (now : Nat) : MtRtcpRx :=
  mtRtcpRxCreate
    { nacksSendInterval := (if ops.nackIntervalUs = 0 then 250 else ops.nackIntervalUs) * 1000
      seqBitmapSize := if ops.seqBitmapSize = 0 then 64 else ops.seqBitmapSize
      seqSkipWindow := ops.seqSkipWindow }
    now

def StRxRtcpOps.bitmapBytes (ops : StRxRtcpOps) : Nat :=
  if ops.seqBitmapSize = 0 then 64 else ops.seqBitmapSize

/-- Fewer than `skip` numbers lie between `seq` and the newest one, itself included. -/
def Skipped (rx : MtRtcpRx) (skip seq : Nat) : Prop := u16 ((rx.lastSeq : Int) - seq) < skip

/-- What is promised of every receiver of a session. -/
structure ConfiguredSafely (ops : StRxRtcpOps) (now : Nat) : Prop where
  window : (rvInitRtcp ops now).seqWindowSize = ops.bitmapBytes * 8
  positive : forall calls, (run RxCall.apply (rvInitRtcp ops now) calls).seqWindowSize ≠ 0
  inside : forall calls seq,
    let rx := run RxCall.apply (rvInitRtcp ops now) calls
    seq % rx.seqWindowSize < 8 * rx.seqBitmap.length
  requests : forall calls env packet,
    let rx := run RxCall.apply (rvInitRtcp ops now) calls
    (mtRtcpRxSendNackPacket rx env).Sent packet ->
    ∀ seq ∈ packet.fcis.flatMap MtRtcpFci.expand, ¬Skipped rx ops.seqSkipWindow seq

/-! ## What no call changes -/

/-- The window, the skip window and the size of the bitmap are those of the new receiver. -/
structure MtRtcpRx.SameSizes (rx next : MtRtcpRx) : Prop where
  window : next.seqWindowSize = rx.seqWindowSize
  skip : next.seqSkipWindow = rx.seqSkipWindow
  length : next.seqBitmap.length = rx.seqBitmap.length

theorem MtRtcpRx.SameSizes.trans {rx middle next : MtRtcpRx} (first : rx.SameSizes middle)
    (second : middle.SameSizes next) : rx.SameSizes next :=
  ⟨second.window.trans first.window, second.skip.trans first.skip, second.length.trans first.length⟩

theorem rtcpRxPlaceSeq_sameSizes (rx : MtRtcpRx) (seq : Nat) :
    rx.SameSizes (rtcpRxPlaceSeq rx seq) := by
  have cleared := clearMissingLoop_length rx.seqWindowSize seq circle (u16 ((rx.lastSeq : Int) + 1))
    rx.seqBitmap
  unfold rtcpRxPlaceSeq
  split
  · unfold rtcpRxNewSeq rtcpRxUpdateLastCont
    dsimp only
    split
    · exact ⟨rfl, rfl, cleared⟩
    · split
      · exact ⟨rfl, rfl, cleared⟩
      · exact ⟨rfl, rfl, cleared⟩
  · split
    · unfold rtcpRxOldSeq rtcpRxUpdateLastCont
      split
      · exact ⟨rfl, rfl, rfl⟩
      · exact ⟨rfl, rfl, rfl⟩
    · exact ⟨rfl, rfl, rfl⟩

theorem RxCall.apply_sameSizes (fits : rx.WindowFits) (call : RxCall) :
    rx.SameSizes (call.apply rx) := by
  cases call with
  | parseRtpPacket rtp =>
    have recorded : forall next : MtRtcpRx, rx.SameSizes next ->
        rx.SameSizes (rtcpRxRecordSeq next rtp.seqNumber) := by
      intro next same
      have setup := rtcpRxRecordSeq_sameSetup next rtp.seqNumber
      exact same.trans ⟨setup.window, setup.skip, setup.length⟩
    change rx.SameSizes (mtRtcpRxParseRtpPacket rx rtp)
    unfold mtRtcpRxParseRtpPacket
    split
    · exact ⟨rfl, rfl, rfl⟩
    · split
      · exact recorded _ ⟨rfl, rfl, rfl⟩
      · exact recorded _ (rtcpRxPlaceSeq_sameSizes rx _)
  | sendNackPacket env =>
    have view := mtRtcpRxSendNackPacket_sameView fits env
    exact ⟨view.window, view.skip, view.length⟩

theorem rvInitRtcp_sizes (fits : ops.bitmapBytes * 8 < 65536) (now : Nat) (calls : List RxCall) :
    let rx := run RxCall.apply (rvInitRtcp ops now) calls
    rx.WindowFits ∧ rx.seqWindowSize = ops.bitmapBytes * 8 ∧ rx.seqSkipWindow = 0 := by
  have some : 0 < ops.bitmapBytes := by
    unfold StRxRtcpOps.bitmapBytes
    split <;> omega
  have window : (rvInitRtcp ops now).seqWindowSize = ops.bitmapBytes * 8 := u16_of_lt fits
  have length : (rvInitRtcp ops now).seqBitmap.length = ops.bitmapBytes := List.length_replicate
  apply run_invariant RxCall.apply (fun _ _ => True)
    (fun rx => rx.WindowFits ∧ rx.seqWindowSize = ops.bitmapBytes * 8 ∧ rx.seqSkipWindow = 0)
  · rintro rx call ⟨valid, size, skip⟩ -
    have same := RxCall.apply_sameSizes valid call
    refine ⟨⟨?_, ?_⟩, same.window.trans size, same.skip.trans skip⟩
    · rw [same.window]
      exact valid.positive
    · rw [same.window, same.length]
      exact valid.inside
  · exact ⟨⟨by rw [window]; omega, by rw [window, length]; omega⟩, window, rfl⟩
  · exact admitted_of_forall RxCall.apply (fun _ _ => trivial)

/-! ## What a NACK asks for -/

theorem nackScan_older {scan : NackScan} (fits : rx.WindowFits) (scanned : rtcpRxNackScan rx = .ok scan)
    {seq : Nat} (listed : seq ∈ scan.fcis.flatMap MtRtcpFci.expand) :
    0 < u16 ((rtcpRxNackEnd rx : Int) - seq) := by
  have inside := fits.position_lt (rtcpRxNackEnd rx)
  have wire : u16 (rtcpRxNackEnd rx) = rtcpRxNackEnd rx := u16_of_lt (u16_lt _)
  unfold rtcpRxNackScan rtcpRxNackStart at scanned
  have closed : mtBitmapTest
      (mtBitmapTestAndSet rx.seqBitmap (rtcpRxNackEnd rx % rx.seqWindowSize : Nat)).2
      (u16 (rtcpRxNackEnd rx) % rx.seqWindowSize : Nat) = true := by
    rw [wire, mtBitmapTest_testAndSet _ _ _ inside, decide_eq_true rfl, Bool.true_or]
  generalize (mtBitmapTestAndSet rx.seqBitmap (rtcpRxNackEnd rx % rx.seqWindowSize : Nat)).2 = bitmap
    at scanned closed
  generalize rtcpRxNackEnd rx = stop at scanned closed wire ⊢
  by_cases within : u16 ((stop : Int) - (rx.lastCont + 1)) < 32768
  · -- The scan starts `behind` numbers before `stop`.
    obtain ⟨behind, count⟩ : exists behind : Nat, behind = u16 ((stop : Int) - (rx.lastCont + 1)) :=
      ⟨_, rfl⟩
    have start : u16 ((rx.lastCont : Int) + 1) = u16 ((stop : Int) - behind) := by
      simp only [u16_eq] at count ⊢
      omega
    rw [start] at scanned
    have present : forall number : Int, (stop : Int) - behind - 1 < number -> number < stop ->
        (mtBitmapTest bitmap (u16 number % rx.seqWindowSize : Nat) = true ↔
          number ∈ (between ((stop : Int) - behind - 1) stop).filter
            (fun number => mtBitmapTest bitmap (u16 number % rx.seqWindowSize : Nat))) := by
      intro number above below
      rw [List.mem_filter, mem_between]
      exact ⟨fun set => ⟨⟨above, below⟩, set⟩, And.right⟩
    have items := nackScanLoop_spec (by omega) present closed circle ((stop : Int) - behind) 0 0 []
      scan (by omega) (by push_cast; omega) (by unfold circle; omega)
      (by rw [Nat.cast_zero, Int.sub_zero, wire]; exact scanned)
    rw [items, between_eq_nil (by push_cast; omega), List.nil_append] at listed
    rcases List.mem_map.mp listed with ⟨number, member, rfl⟩
    have bounds := mem_between.mp (List.mem_of_mem_filter member)
    simp only [u16_eq]
    omega
  · have past : rtpSeqNumCmp (u16 ((rx.lastCont : Int) + 1)) stop = 1 := by
      rw [← wire]
      have around : u16 ((rx.lastCont : Int) + 1) =
          u16 ((stop : Int) + (65536 - u16 ((stop : Int) - (rx.lastCont + 1)))) := by
        simp only [u16_eq]
        omega
      have bound := u16_lt ((stop : Int) - (rx.lastCont + 1))
      rw [around]
      exact rtpSeqNumCmp_of_gt (by omega) (by omega)
    rw [nackScanLoop_done _ _ _ _ _ past] at scanned
    cases scanned
    cases listed

/-! ## A gap of one -/

/-- The new receiver after the packets 0 and 2 of one stream. -/
def afterGap (rx : MtRtcpRx) : MtRtcpRx :=
  { rx with
    ssrc := 1
    lastSeq := 2
    lastCont := 0
    seqBitmap := (mtBitmapTestAndSet (mtBitmapTestAndUnset
      (mtBitmapTestAndSet rx.seqBitmap (0 : Nat)).2 (1 : Nat)).2 (2 : Nat)).2
    statRtpReceived := rx.statRtpReceived + 1 + 1 }

/-- The header with a number of the stream that `packetsOf` makes. -/
def rtpOf (seq : Nat) (bound : seq < 65536) : RtpHdr where
  seqNumber := seq
  ssrc := 1
  seqBound := bound
  ssrcBound := (by decide : 1 < 2 ^ 32)

theorem run_gap (active : rx.active = true) (unset : rx.ssrc = 0) (wide : 2 < rx.seqWindowSize)
    : run RxCall.apply rx (packetsOf [0, 2]) = afterGap rx := by
  have zero : 0 % rx.seqWindowSize = 0 := Nat.zero_mod _
  have one : 1 % rx.seqWindowSize = 1 := Nat.mod_eq_of_lt (by omega)
  have two : 2 % rx.seqWindowSize = 2 := Nat.mod_eq_of_lt wide
  change mtRtcpRxParseRtpPacket (mtRtcpRxParseRtpPacket rx (rtpOf 0 (by decide)))
    (rtpOf 2 (by decide)) = _
  have later : (rtcpRxRecordSeq (rtcpRxFirstSeq rx (rtpOf 0 (by decide)))
      (rtpOf 0 (by decide)).seqNumber).active = true := active
  rw [mtRtcpRxParseRtpPacket_first active unset, mtRtcpRxParseRtpPacket_later later one_ne_zero]
  have clear : forall bitmap, clearMissingLoop rx.seqWindowSize 2 circle (u16 ((0 : Nat) + 1)) bitmap =
      (mtBitmapTestAndUnset bitmap (1 : Nat)).2 := by
    intro bitmap
    change clearMissingLoop rx.seqWindowSize 2 (65534 + 1 + 1) 1 bitmap = _
    rw [clearMissingLoop, if_pos (by decide), one, clearMissingLoop, if_neg (by decide)]
  have placed : rtcpRxPlaceSeq (rtcpRxRecordSeq (rtcpRxFirstSeq rx (rtpOf 0 (by decide))) 0) 2 =
      rtcpRxNewSeq (rtcpRxRecordSeq (rtcpRxFirstSeq rx (rtpOf 0 (by decide))) 0) 2 :=
    if_pos (show 0 < rtpSeqNumCmp 2 0 by decide)
  change rtcpRxRecordSeq
    (rtcpRxPlaceSeq (rtcpRxRecordSeq (rtcpRxFirstSeq rx (rtpOf 0 (by decide))) 0) 2) 2 = _
  rw [placed]
  unfold rtcpRxNewSeq rtcpRxRecordSeq rtcpRxFirstSeq rtpOf afterGap
  dsimp only
  rw [clear, show u16 (((2 : Nat) : Int) - ((0 : Nat) : Int)) = 2 from rfl,
    if_neg (show ¬rx.seqWindowSize < 2 by omega), if_neg (by decide), zero, two]

theorem rtcpRxNackFinish_sent {scan : NackScan} (scanned : rtcpRxNackScan rx = .ok scan)
    (some : scan.fcis ≠ []) :
    (rtcpRxNackFinish rx 1).Sent { ssrc := rx.ssrc, fcis := scan.fcis } := by
  unfold rtcpRxNackFinish
  rw [scanned]
  dsimp only
  rw [if_neg (fun none => some (List.length_eq_zero_iff.mp none)), if_neg (by decide)]
  exact ⟨rfl, rfl⟩

theorem nack_gap (fits : rx.WindowFits) (wide : 2 < rx.seqWindowSize) (skip : rx.seqSkipWindow = 0)
    (active : rx.active = true) {env : NackEnv} (due : rx.nacksSendTime ≤ env.now)
    (alloc : env.pktAlloc = true) (taken : env.txBurst = 1) :
    (mtRtcpRxSendNackPacket (afterGap rx) env).Sent { ssrc := 1, fcis := [⟨1, 0⟩] } := by
  have inside : rx.seqWindowSize ≤ 8 * rx.seqBitmap.length := fits.inside
  have one : 1 % rx.seqWindowSize = 1 := Nat.mod_eq_of_lt (by omega)
  have two : 2 % rx.seqWindowSize = 2 := Nat.mod_eq_of_lt wide
  have scanned : rtcpRxNackScan (afterGap rx) =
      .ok { seq := 3, start := 3, miss := 0, fcis := [⟨1, 0⟩], lost := 1 } := by
    have stop : rtcpRxNackEnd (afterGap rx) = 2 := by
      unfold rtcpRxNackEnd afterGap
      rw [skip]
      rfl
    unfold rtcpRxNackScan
    rw [stop]
    change nackScanLoop
      (mtBitmapTestAndSet (afterGap rx).seqBitmap (2 % rx.seqWindowSize : Nat)).2 rx.seqWindowSize 2
      (65533 + 1 + 1 + 1) { seq := 1, start := 1, miss := 0, fcis := [], lost := 0 } = _
    rw [two]
    have bits : forall cell : Nat,
        mtBitmapTest (mtBitmapTestAndSet (afterGap rx).seqBitmap (2 : Nat)).2 cell =
          (decide (cell = 2) || (decide (cell = 2) ||
            (!decide (cell = 1) && (decide (cell = 0) || mtBitmapTest rx.seqBitmap cell)))) := by
      intro cell
      unfold afterGap
      rw [mtBitmapTest_testAndSet _ _ _ (by simp; omega),
        mtBitmapTest_testAndSet _ _ _ (by simp; omega),
        mtBitmapTest_testAndUnset _ _ _ (by simp; omega), mtBitmapTest_testAndSet _ _ _ (by omega)]
    generalize (mtBitmapTestAndSet (afterGap rx).seqBitmap (2 : Nat)).2 = bitmap at bits ⊢
    have missing : mtBitmapTest bitmap (1 % rx.seqWindowSize : Nat) = false := by
      rw [one, bits]
      rfl
    have present : mtBitmapTest bitmap (2 % rx.seqWindowSize : Nat) = true := by
      rw [two, bits]
      rfl
    rw [nackScanLoop, if_pos (by decide), missing, if_neg (by decide)]
    change nackScanLoop bitmap rx.seqWindowSize 2 (65533 + 1 + 1)
      { seq := 2, start := 1, miss := 1, fcis := [], lost := 0 } = _
    rw [nackScanLoop, if_pos (by decide), present, if_pos rfl, if_pos (by decide)]
    change nackScanLoop bitmap rx.seqWindowSize 2 (65533 + 1)
      { seq := 3, start := 3, miss := 0, fcis := [⟨1, 0⟩], lost := 1 } = _
    exact nackScanLoop_done _ _ _ _ _ (by decide)
  have call : mtRtcpRxSendNackPacket (afterGap rx) env = rtcpRxNackFinish
      { afterGap rx with nacksSendTime := env.now + (afterGap rx).nacksSendInterval } env.txBurst := by
    unfold mtRtcpRxSendNackPacket
    rw [if_neg (show ¬(!(afterGap rx).active) = true by simp [afterGap, active]),
      if_neg (show ¬env.now < (afterGap rx).nacksSendTime from Nat.not_lt.mpr due),
      if_neg (by simp [alloc])]
  rw [call, taken]
  exact @rtcpRxNackFinish_sent
    { afterGap rx with nacksSendTime := env.now + (afterGap rx).nacksSendInterval } _ scanned
    (by decide)
theorem gap_requested (fits : ops.bitmapBytes * 8 < 65536) (now : Nat) :
    let rx := run RxCall.apply (rvInitRtcp ops now) (packetsOf [0, 2])
    rx.lastSeq = 2 ∧ (mtRtcpRxSendNackPacket rx { now := now, pktAlloc := true, txBurst := 1 }).Sent
      { ssrc := 1, fcis := [⟨1, 0⟩] } := by
  rcases rvInitRtcp_sizes fits now [] with ⟨valid, window, skip⟩
  have wide : 2 < (rvInitRtcp ops now).seqWindowSize := by
    have positive := valid.positive
    rw [run_nil] at window positive
    omega
  rw [run_gap rfl rfl wide]
  exact ⟨rfl, nack_gap valid wide skip rfl (Nat.le_refl _) rfl rfl⟩

theorem ConfiguredSafely.skip_le {now : Nat} (safe : ConfiguredSafely ops now)
    (fits : ops.bitmapBytes * 8 < 65536) : ops.seqSkipWindow ≤ 1 := by
  rcases gap_requested fits now with ⟨last, sent⟩
  have asked := safe.requests _ _ _ sent 1 (by decide)
  unfold Skipped at asked
  rw [last] at asked
  exact Nat.le_of_not_lt asked

/-! ## Which sizes are safe -/

/-- The receiver is configured safely exactly when the window fits in sixteen
bits and at most the newest number is to be skipped. -/
theorem receiver_configured_iff (ops : StRxRtcpOps) (now : Nat) :
    ConfiguredSafely ops now <-> ops.bitmapBytes * 8 < 65536 ∧ ops.seqSkipWindow ≤ 1 := by
  constructor
  · intro safe
    have fits : ops.bitmapBytes * 8 < 65536 := by
      have bound := u16_lt ((ops.bitmapBytes : Int) * 8)
      have window : u16 ((ops.bitmapBytes : Int) * 8) = ops.bitmapBytes * 8 := safe.window
      omega
    exact ⟨fits, safe.skip_le fits⟩
  · rintro ⟨fits, few⟩
    refine ⟨(rvInitRtcp_sizes fits now []).2.1, ?_, ?_, ?_⟩
    · intro calls
      have valid := (rvInitRtcp_sizes fits now calls).1
      exact Nat.ne_of_gt valid.positive
    · intro calls seq
      exact (rvInitRtcp_sizes fits now calls).1.position_lt seq
    · intro calls env packet rx sent seq listed skipped
      rcases rvInitRtcp_sizes fits now calls with ⟨valid, -, skip⟩
      change rx.WindowFits at valid
      change rx.seqSkipWindow = 0 at skip
      rcases mtRtcpRxSendNackPacket_packet sent.1 with ⟨scan, scanned, rfl, -⟩
      have older := nackScan_older valid scanned listed
      unfold rtcpRxNackEnd at older
      rw [skip] at older
      unfold Skipped at skipped
      simp only [u16_eq] at older skipped
      push_cast at older
      omega

/-- A bitmap of 8192 bytes gets a window of zero, and with the skip window of the
documentation the packet just before the newest one is asked for. -/
theorem receiver_misconfigured :
    ¬ConfiguredSafely { nackIntervalUs := 250, seqBitmapSize := 8192, seqSkipWindow := 0 } 0 ∧
      ¬ConfiguredSafely { nackIntervalUs := 250, seqBitmapSize := 64, seqSkipWindow := 4 } 0 := by
  constructor
  · intro safe
    exact safe.positive [] (by rfl)
  · intro safe
    exact absurd (safe.skip_le (by decide)) (by decide)

end MediaTransport.Rtcp
