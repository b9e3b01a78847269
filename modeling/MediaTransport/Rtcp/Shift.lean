import MediaTransport.Rtcp.Nack

namespace MediaTransport.Rtcp

open Library Util

/-!
# Shifting the sequence numbers

Two runs of the receiver that differ only in where their sequence numbers
start should differ only in that.  The relation `Shifted` says so for two
states: `last_seq` and `last_cont` are shifted, the bitmap is rotated, and
every other field is the same.  Every comparison, increment and bitmap access
of the source respects it when the window divides the circle, with one
exception.  The branch for an old number compares `seq` with `last_cont + 1`
in `int`, so the successor of 65535 is never recognised.
-/

/-- The second bitmap holds at each shifted number what the first holds at the
number itself. -/
structure Rotated (shift window : Nat) (bitmap image : List Byte) : Prop where
  length : image.length = bitmap.length
  bits : forall number : Int,
    mtBitmapTest image (u16 (number + shift) % window : Nat) =
      mtBitmapTest bitmap (u16 number % window : Nat)

section Bitmap

variable {shift window : Nat} {bitmap image : List Byte}

theorem position_shift (divides : window ∣ 65536) (left right : Int) :
    u16 (left + shift) % window = u16 (right + shift) % window ↔
      u16 left % window = u16 right % window := by
  rw [← Int.natCast_inj, ← Int.natCast_inj, u16_mod_of_dvd divides, u16_mod_of_dvd divides,
    u16_mod_of_dvd divides, u16_mod_of_dvd divides]
  exact Int.emod_add_cancel_right (shift : Int)

section

variable (rotated : Rotated shift window bitmap image) (divides : window ∣ 65536)
    (inside : forall seq, seq % window < 8 * bitmap.length) (number : Int)

include rotated divides inside

theorem Rotated.set :
    Rotated shift window (mtBitmapTestAndSet bitmap (u16 number % window : Nat)).2
      (mtBitmapTestAndSet image (u16 (number + shift) % window : Nat)).2 := by
  refine ⟨by simp only [mtBitmapTestAndSet_length, rotated.length], ?_⟩
  intro other
  rw [mtBitmapTest_testAndSet _ _ _ (by rw [rotated.length]; exact inside _),
    mtBitmapTest_testAndSet _ _ _ (inside _), rotated.bits,
    decide_eq_decide.mpr (position_shift divides other number)]

theorem Rotated.unset :
    Rotated shift window (mtBitmapTestAndUnset bitmap (u16 number % window : Nat)).2
      (mtBitmapTestAndUnset image (u16 (number + shift) % window : Nat)).2 := by
  refine ⟨by simp only [mtBitmapTestAndUnset_length, rotated.length], ?_⟩
  intro other
  rw [mtBitmapTest_testAndUnset _ _ _ (by rw [rotated.length]; exact inside _),
    mtBitmapTest_testAndUnset _ _ _ (inside _), rotated.bits,
    decide_eq_decide.mpr (position_shift divides other number)]

end

theorem clearMissingLoop_shift (divides : window ∣ 65536) (stop : Int) (fuel : Nat) :
    forall (first : Int) (bitmap image : List Byte), Rotated shift window bitmap image ->
      (forall seq, seq % window < 8 * bitmap.length) ->
      Rotated shift window (clearMissingLoop window (u16 stop) fuel (u16 first) bitmap)
        (clearMissingLoop window (u16 (stop + shift)) fuel (u16 (first + shift)) image) := by
  induction fuel with
  | zero =>
    intro first bitmap image rotated _
    exact rotated
  | succ fuel ih =>
    intro first bitmap image rotated inside
    rw [clearMissingLoop, clearMissingLoop, rtpSeqNumCmp_shift]
    split
    · rw [u16_add_u16, u16_add_u16, Int.add_right_comm]
      refine ih (first + 1) _ _ (rotated.unset divides inside first) ?_
      intro seq
      rw [mtBitmapTestAndUnset_length]
      exact inside seq
    · exact rotated

end Bitmap

/-! ## States -/

/-- The second state is the first one with every sequence number shifted. -/
structure Shifted (shift : Nat) (rx image : MtRtcpRx) : Prop where
  state : image = { rx with
    lastSeq := u16 (rx.lastSeq + shift)
    lastCont := u16 (rx.lastCont + shift)
    seqBitmap := image.seqBitmap }
  bitmap : Rotated shift rx.seqWindowSize rx.seqBitmap image.seqBitmap

/-- What the relation needs of the first state. -/
structure MtRtcpRx.Regular (rx : MtRtcpRx) : Prop where
  fits : rx.WindowFits
  divides : rx.seqWindowSize ∣ 65536
  last : rx.lastSeq < 65536
  cont : rx.lastCont < 65536

section Parse

variable {shift : Nat} {rx image : MtRtcpRx}

theorem updateLastContLoop_shift (shifted : Shifted shift rx image) (regular : rx.Regular)
    (fuel : Nat) : forall seq cont : Int,
      updateLastContLoop image fuel (u16 (seq + shift)) (u16 (cont + shift)) =
        u16 ((updateLastContLoop rx fuel (u16 seq) (u16 cont) : Int) + shift) := by
  have last : image.lastSeq = u16 (rx.lastSeq + shift) := by rw [shifted.state]
  have window : image.seqWindowSize = rx.seqWindowSize := by rw [shifted.state]
  have wire : u16 rx.lastSeq = rx.lastSeq := u16_of_lt regular.last
  induction fuel with
  | zero =>
    intro seq cont
    exact (u16_add_u16 cont shift).symm
  | succ fuel ih =>
    intro seq cont
    rw [updateLastContLoop, updateLastContLoop, last, window, rtpSeqNumCmp_shift, wire,
      shifted.bitmap.bits]
    split
    · split
      · rw [u16_add_u16, u16_add_u16, Int.add_right_comm]
        exact ih (seq + 1) seq
      · exact (u16_add_u16 cont shift).symm
    · exact (u16_add_u16 cont shift).symm

theorem rtcpRxUpdateLastCont_shift (shifted : Shifted shift rx image) (regular : rx.Regular) :
    Shifted shift (rtcpRxUpdateLastCont rx) (rtcpRxUpdateLastCont image) := by
  have cont : image.lastCont = u16 (rx.lastCont + shift) := by rw [shifted.state]
  have walked := updateLastContLoop_shift shifted regular circle (rx.lastCont + 1) rx.lastCont
  rw [u16_of_lt regular.cont] at walked
  refine ⟨?_, shifted.bitmap⟩
  unfold rtcpRxUpdateLastCont
  rw [cont, u16_add_u16, Int.add_right_comm, walked]
  rw [shifted.state]

theorem updateLastContLoop_lt (rx : MtRtcpRx) (fuel : Nat) :
    forall seq cont, seq < 65536 -> cont < 65536 ->
      updateLastContLoop rx fuel seq cont < 65536 := by
  induction fuel with
  | zero =>
    intro seq cont _ contBound
    exact contBound
  | succ fuel ih =>
    intro seq cont seqBound contBound
    rw [updateLastContLoop]
    split
    · split
      · exact ih _ _ (u16_lt _) seqBound
      · exact contBound
    · exact contBound

theorem MtRtcpRx.Regular.updateLastCont (regular : rx.Regular) :
    (rtcpRxUpdateLastCont rx).Regular :=
  ⟨⟨regular.fits.positive, regular.fits.inside⟩, regular.divides, regular.last,
    updateLastContLoop_lt rx circle _ _ (u16_lt _) regular.cont⟩

/-- The state of the branch for a newer number before `last_cont` is settled. -/
def clearedFor (rx : MtRtcpRx) (seq : Nat) : MtRtcpRx :=
  { rx with
    seqBitmap := clearMissingLoop rx.seqWindowSize seq circle (u16 ((rx.lastSeq : Int) + 1))
      rx.seqBitmap
    lastSeq := seq }

theorem clearMissingLoop_length (window stop : Nat) (fuel : Nat) :
    forall (seq : Nat) (bitmap : List Byte),
      (clearMissingLoop window stop fuel seq bitmap).length = bitmap.length := by
  induction fuel with
  | zero =>
    intro seq bitmap
    rfl
  | succ fuel ih =>
    intro seq bitmap
    rw [clearMissingLoop]
    split
    · rw [ih, mtBitmapTestAndUnset_length]
    · rfl

theorem clearedFor_regular (regular : rx.Regular) {seq : Nat} (bound : seq < 65536) :
    (clearedFor rx seq).Regular := by
  refine ⟨⟨regular.fits.positive, ?_⟩, regular.divides, bound, regular.cont⟩
  simp only [clearedFor, clearMissingLoop_length]
  exact regular.fits.inside

theorem clearedFor_shift (shifted : Shifted shift rx image) (regular : rx.Regular) {seq : Nat}
    (bound : seq < 65536) :
    Shifted shift (clearedFor rx seq) (clearedFor image (u16 (seq + shift))) := by
  have last : image.lastSeq = u16 (rx.lastSeq + shift) := by rw [shifted.state]
  have window : image.seqWindowSize = rx.seqWindowSize := by rw [shifted.state]
  have cleared := clearMissingLoop_shift regular.divides (seq : Int) circle (rx.lastSeq + 1)
    rx.seqBitmap image.seqBitmap shifted.bitmap regular.fits.position_lt
  rw [u16_of_lt bound] at cleared
  constructor
  · unfold clearedFor
    simp only
    rw [shifted.state]
  · simp only [clearedFor, last, window, u16_add_u16]
    rw [Int.add_right_comm]
    exact cleared

theorem Shifted.moveCont (shifted : Shifted shift rx image) (cont : Int) :
    Shifted shift { rx with lastCont := u16 cont } { image with lastCont := u16 (cont + shift) } := by
  refine ⟨?_, shifted.bitmap⟩
  simp only [u16_add_u16]
  rw [shifted.state]

theorem MtRtcpRx.Regular.moveCont (regular : rx.Regular) (cont : Int) :
    ({ rx with lastCont := u16 cont } : MtRtcpRx).Regular :=
  ⟨⟨regular.fits.positive, regular.fits.inside⟩, regular.divides, regular.last, u16_lt _⟩

theorem rtcpRxNewSeq_eq (rx : MtRtcpRx) {seq : Nat} (bound : seq < 65536) :
    rtcpRxNewSeq rx seq =
      if rx.seqWindowSize < u16 ((seq : Int) - rx.lastCont) then
        rtcpRxUpdateLastCont
          { clearedFor rx seq with lastCont := u16 ((seq : Int) - rx.seqWindowSize) }
      else if u16 ((seq : Int) - rx.lastCont) = 1 then
        { clearedFor rx seq with lastCont := u16 (seq : Int) }
      else
        clearedFor rx seq := by
  rw [u16_of_lt bound]
  rfl

theorem rtcpRxNewSeq_shift (shifted : Shifted shift rx image) (regular : rx.Regular) {seq : Nat}
    (bound : seq < 65536) :
    Shifted shift (rtcpRxNewSeq rx seq) (rtcpRxNewSeq image (u16 (seq + shift))) ∧
      (rtcpRxNewSeq rx seq).Regular := by
  have cont : image.lastCont = u16 (rx.lastCont + shift) := by rw [shifted.state]
  have window : image.seqWindowSize = rx.seqWindowSize := by rw [shifted.state]
  have distance : u16 ((u16 ((seq : Int) + shift) : Int) - image.lastCont) =
      u16 ((seq : Int) - rx.lastCont) := by
    rw [cont, u16_sub_u16, Int.add_sub_add_right]
  have cleared := clearedFor_shift shifted regular bound
  have clean := clearedFor_regular regular bound
  rw [rtcpRxNewSeq_eq rx bound, rtcpRxNewSeq_eq image (u16_lt _), distance, window]
  split
  · have restart : u16 ((u16 ((seq : Int) + shift) : Int) - rx.seqWindowSize) =
        u16 ((seq : Int) - rx.seqWindowSize + shift) := by
      rw [u16_sub_left]
      congr 1
      omega
    rw [restart]
    have moved := cleared.moveCont ((seq : Int) - rx.seqWindowSize)
    have kept := clean.moveCont ((seq : Int) - rx.seqWindowSize)
    exact ⟨rtcpRxUpdateLastCont_shift moved kept, kept.updateLastCont⟩
  · split
    · have moved := cleared.moveCont (seq : Int)
      rw [u16_of_lt (u16_lt _)]
      exact ⟨moved, clean.moveCont (seq : Int)⟩
    · exact ⟨cleared, clean⟩

/-- The old number that the two runs may treat differently: the successor of
`last_cont`, when it is zero in one run only. -/
def WrapsOnce (shift : Nat) (rx : MtRtcpRx) (seq : Nat) : Prop :=
  rtpSeqNumCmp seq rx.lastSeq < 0 ∧ seq = u16 ((rx.lastCont : Int) + 1) ∧
    ¬(seq = 0 ↔ u16 ((seq : Int) + shift) = 0)

section

variable (shifted : Shifted shift rx image) (regular : rx.Regular) {seq : Nat} (bound : seq < 65536)

include shifted regular bound

theorem rtcpRxOldSeq_shift (older : rtpSeqNumCmp seq rx.lastSeq < 0)
    (agree : ¬WrapsOnce shift rx seq) :
    Shifted shift (rtcpRxOldSeq rx seq) (rtcpRxOldSeq image (u16 (seq + shift))) ∧
      (rtcpRxOldSeq rx seq).Regular := by
  have cont : image.lastCont = u16 (rx.lastCont + shift) := by rw [shifted.state]
  have contBound := regular.cont
  have same : ((u16 ((seq : Int) + shift) : Nat) : Int) = (image.lastCont : Int) + 1 ↔
      (seq : Int) = (rx.lastCont : Int) + 1 := by
    rw [cont]
    unfold WrapsOnce at agree
    simp only [u16_eq] at agree ⊢
    omega
  unfold rtcpRxOldSeq
  simp only [same]
  split
  · have moved := shifted.moveCont (seq : Int)
    have kept := regular.moveCont (seq : Int)
    rw [u16_of_lt bound] at moved kept
    exact ⟨rtcpRxUpdateLastCont_shift moved kept, kept.updateLastCont⟩
  · exact ⟨shifted, regular⟩

theorem rtcpRxPlaceSeq_shift (agree : ¬WrapsOnce shift rx seq) :
    Shifted shift (rtcpRxPlaceSeq rx seq) (rtcpRxPlaceSeq image (u16 (seq + shift))) ∧
      (rtcpRxPlaceSeq rx seq).Regular := by
  have last : image.lastSeq = u16 (rx.lastSeq + shift) := by rw [shifted.state]
  have compared : rtpSeqNumCmp (u16 ((seq : Int) + shift)) image.lastSeq =
      rtpSeqNumCmp seq rx.lastSeq := by
    rw [last, rtpSeqNumCmp_shift, u16_of_lt bound, u16_of_lt regular.last]
  unfold rtcpRxPlaceSeq
  rw [compared]
  split
  · exact rtcpRxNewSeq_shift shifted regular bound
  · split
    · rename_i older
      exact rtcpRxOldSeq_shift shifted regular bound older agree
    · exact ⟨shifted, regular⟩

theorem rtcpRxRecordSeq_shift :
    Shifted shift (rtcpRxRecordSeq rx seq) (rtcpRxRecordSeq image (u16 (seq + shift))) ∧
      (rtcpRxRecordSeq rx seq).Regular := by
  have window : image.seqWindowSize = rx.seqWindowSize := by rw [shifted.state]
  have rotated := shifted.bitmap.set regular.divides regular.fits.position_lt (seq : Int)
  rw [u16_of_lt bound] at rotated
  refine ⟨⟨?_, ?_⟩, ?_⟩
  · unfold rtcpRxRecordSeq
    simp only
    rw [shifted.state]
  · simp only [rtcpRxRecordSeq, window]
    exact rotated
  · exact ⟨(rtcpRxRecordSeq_sameSetup rx seq).fits regular.fits, regular.divides, regular.last,
      regular.cont⟩

end

end Parse

/-! ## The NACK -/

def MtRtcpFci.shift (shift : Nat) (fci : MtRtcpFci) : MtRtcpFci :=
  { fci with start := u16 ((fci.start : Int) + shift) }

def NackPacket.shift (shift : Nat) (packet : NackPacket) : NackPacket :=
  { packet with fcis := packet.fcis.map (MtRtcpFci.shift shift) }

def NackScan.shift (shift : Nat) (scan : NackScan) : NackScan :=
  { scan with
    seq := u16 ((scan.seq : Int) + shift)
    start := u16 ((scan.start : Int) + shift)
    fcis := scan.fcis.map (MtRtcpFci.shift shift) }

def shiftScanned (shift : Nat) : Except NackScan NackScan -> Except NackScan NackScan
  | .error scan => .error (scan.shift shift)
  | .ok scan => .ok (scan.shift shift)

section Nack

variable {shift : Nat} {rx image : MtRtcpRx}

theorem nackScanLoop_shift {window : Nat} {bitmap copy : List Byte}
    (rotated : Rotated shift window bitmap copy) (stop : Int) (fuel : Nat) :
    forall scan : NackScan, scan.seq < 65536 ->
      nackScanLoop copy window (u16 (stop + shift)) fuel (scan.shift shift) =
        shiftScanned shift (nackScanLoop bitmap window (u16 stop) fuel scan) := by
  induction fuel with
  | zero =>
    intro scan _
    rfl
  | succ fuel ih =>
    intro scan bound
    have compared : rtpSeqNumCmp (u16 ((scan.seq : Int) + shift)) (u16 (stop + shift)) =
        rtpSeqNumCmp scan.seq (u16 stop) := by
      rw [rtpSeqNumCmp_shift, u16_of_lt bound]
    have held := rotated.bits scan.seq
    rw [u16_of_lt bound] at held
    have next : u16 ((u16 ((scan.seq : Int) + shift) : Int) + 1) =
        u16 ((u16 ((scan.seq : Int) + 1) : Int) + shift) := by
      rw [u16_add_u16, u16_add_u16, Int.add_right_comm]
    rw [nackScanLoop, nackScanLoop]
    simp only [NackScan.shift, compared, held, next, List.length_append, List.length_map,
      List.length_cons, List.length_nil]
    split
    · split
      · split
        · split
          · simp only [shiftScanned, NackScan.shift, List.map_append, List.map_cons,
              List.map_nil, MtRtcpFci.shift]
          · rw [← ih _ (u16_lt (scan.seq + 1))]
            simp only [NackScan.shift, List.map_append, List.map_cons, List.map_nil,
              MtRtcpFci.shift]
        · exact ih { scan with seq := u16 (scan.seq + 1), start := u16 (scan.seq + 1) }
            (u16_lt (scan.seq + 1))
      · exact ih { scan with seq := u16 (scan.seq + 1), miss := u16 (scan.miss + 1) }
          (u16_lt (scan.seq + 1))
    · rfl

theorem rtcpRxNackEnd_shift (shifted : Shifted shift rx image) :
    rtcpRxNackEnd image = u16 ((rx.lastSeq : Int) - rx.seqSkipWindow + shift) := by
  have last : image.lastSeq = u16 (rx.lastSeq + shift) := by rw [shifted.state]
  have skip : image.seqSkipWindow = rx.seqSkipWindow := by rw [shifted.state]
  unfold rtcpRxNackEnd
  rw [last, skip, u16_sub_left]
  congr 1
  omega

theorem rtcpRxNackScan_shift (shifted : Shifted shift rx image) (regular : rx.Regular) :
    rtcpRxNackScan image = shiftScanned shift (rtcpRxNackScan rx) := by
  have window : image.seqWindowSize = rx.seqWindowSize := by rw [shifted.state]
  have cont : image.lastCont = u16 (rx.lastCont + shift) := by rw [shifted.state]
  have start : rtcpRxNackStart image = (rtcpRxNackStart rx).shift shift := by
    unfold rtcpRxNackStart NackScan.shift
    rw [cont, u16_add_u16, u16_add_u16, Int.add_right_comm]
    rfl
  have marked := shifted.bitmap.set regular.divides regular.fits.position_lt
    ((rx.lastSeq : Int) - rx.seqSkipWindow)
  unfold rtcpRxNackScan
  rw [rtcpRxNackEnd_shift shifted, window, start]
  refine nackScanLoop_shift marked _ circle _ ?_
  show u16 ((rx.lastCont : Int) + 1) < 65536
  exact u16_lt _

theorem rtcpRxNackBitmap_shift (shifted : Shifted shift rx image) (regular : rx.Regular) :
    Rotated shift rx.seqWindowSize (rtcpRxNackBitmap rx) (rtcpRxNackBitmap image) := by
  have window : image.seqWindowSize = rx.seqWindowSize := by rw [shifted.state]
  have imageFits : image.WindowFits := by
    refine ⟨by rw [window]; exact regular.fits.positive, ?_⟩
    rw [window, shifted.bitmap.length]
    exact regular.fits.inside
  refine ⟨?_, ?_⟩
  · rw [rtcpRxNackBitmap_length, rtcpRxNackBitmap_length, shifted.bitmap.length]
  · intro number
    rw [rtcpRxNackBitmap_bit imageFits, rtcpRxNackBitmap_bit regular.fits]
    exact shifted.bitmap.bits number

/-- The two results of a call differ by the shift only. -/
structure ShiftedResult (shift : Nat) (result image : NackResult) : Prop where
  rx : Shifted shift result.rx image.rx
  ret : image.ret = result.ret
  packet : image.packet = result.packet.map (NackPacket.shift shift)

theorem rtcpRxNackFinish_shift (shifted : Shifted shift rx image) (regular : rx.Regular)
    (txBurst : Nat) :
    ShiftedResult shift (rtcpRxNackFinish rx txBurst) (rtcpRxNackFinish image txBurst) := by
  have bitmap := rtcpRxNackBitmap_shift shifted regular
  have ssrc : image.ssrc = rx.ssrc := by rw [shifted.state]
  unfold rtcpRxNackFinish
  rw [rtcpRxNackScan_shift shifted regular]
  cases rtcpRxNackScan rx with
  | error scan =>
    have count : (scan.shift shift).fcis.length = scan.fcis.length := List.length_map _
    simp only [shiftScanned, count]
    refine ⟨⟨?_, bitmap⟩, rfl, rfl⟩
    simp only [NackScan.shift]
    rw [shifted.state]
  | ok scan =>
    have count : (scan.shift shift).fcis.length = scan.fcis.length := List.length_map _
    simp only [shiftScanned, count]
    split
    · refine ⟨⟨?_, bitmap⟩, rfl, rfl⟩
      simp only [NackScan.shift]
      rw [shifted.state]
    · split
      · refine ⟨⟨?_, bitmap⟩, rfl, ?_⟩
        · simp only [NackScan.shift]
          rw [shifted.state]
        · simp only [NackScan.shift, NackPacket.shift, Option.map_some, ssrc]
      · refine ⟨⟨?_, bitmap⟩, rfl, ?_⟩
        · simp only [NackScan.shift]
          rw [shifted.state]
        · simp only [NackScan.shift, NackPacket.shift, Option.map_some, ssrc]

theorem mtRtcpRxSendNackPacket_shift (shifted : Shifted shift rx image) (regular : rx.Regular)
    (env : NackEnv) :
    ShiftedResult shift (mtRtcpRxSendNackPacket rx env) (mtRtcpRxSendNackPacket image env) := by
  have active : image.active = rx.active := by rw [shifted.state]
  have time : image.nacksSendTime = rx.nacksSendTime := by rw [shifted.state]
  have timed : Shifted shift { rx with nacksSendTime := env.now + rx.nacksSendInterval }
      { image with nacksSendTime := env.now + image.nacksSendInterval } := by
    refine ⟨?_, shifted.bitmap⟩
    simp only
    rw [shifted.state]
  have timedRegular : ({ rx with nacksSendTime := env.now + rx.nacksSendInterval } :
      MtRtcpRx).Regular :=
    ⟨⟨regular.fits.positive, regular.fits.inside⟩, regular.divides, regular.last, regular.cont⟩
  rw [active] at timed
  unfold mtRtcpRxSendNackPacket
  rw [active, time]
  split
  · exact ⟨shifted, rfl, rfl⟩
  · split
    · exact ⟨shifted, rfl, rfl⟩
    · simp only
      split
      · exact ⟨timed, rfl, rfl⟩
      · exact rtcpRxNackFinish_shift timed timedRegular env.txBurst

end Nack

/-! ## Runs -/

def RtpHdr.shift (shift : Nat) (rtp : RtpHdr) : RtpHdr :=
  { rtp with seqNumber := u16 ((rtp.seqNumber : Int) + shift), seqBound := u16_lt _ }

def RxCall.shift (shift : Nat) : RxCall -> RxCall
  | .parseRtpPacket rtp => .parseRtpPacket (rtp.shift shift)
  | .sendNackPacket env => .sendNackPacket env

def ShiftGuard (shift : Nat) (rx : MtRtcpRx) : RxCall -> Prop
  | .parseRtpPacket rtp => rx.ssrc ≠ 0 -> ¬WrapsOnce shift rx rtp.seqNumber
  | .sendNackPacket _ => True

instance (shift : Nat) (rx : MtRtcpRx) (seq : Nat) : Decidable (WrapsOnce shift rx seq) :=
  inferInstanceAs (Decidable (_ ∧ _ ∧ ¬(_ ↔ _)))

instance (shift : Nat) (rx : MtRtcpRx) (call : RxCall) : Decidable (ShiftGuard shift rx call) :=
  match call with
  | .parseRtpPacket _ => inferInstanceAs (Decidable (_ -> ¬_))
  | .sendNackPacket _ => inferInstanceAs (Decidable True)

section Runs

variable {shift : Nat} {rx image : MtRtcpRx}

theorem firstPacket_shift (rotated : Rotated shift rx.seqWindowSize rx.seqBitmap image.seqBitmap)
    (same : image = { rx with
      lastSeq := image.lastSeq, lastCont := image.lastCont, seqBitmap := image.seqBitmap })
    (fits : rx.WindowFits) (divides : rx.seqWindowSize ∣ 65536) (rtp : RtpHdr) :
    Shifted shift (rtcpRxRecordSeq (rtcpRxFirstSeq rx rtp) rtp.seqNumber)
        (rtcpRxRecordSeq (rtcpRxFirstSeq image (rtp.shift shift)) (rtp.shift shift).seqNumber) ∧
      (rtcpRxRecordSeq (rtcpRxFirstSeq rx rtp) rtp.seqNumber).Regular := by
  apply rtcpRxRecordSeq_shift
  · refine ⟨?_, rotated⟩
    unfold rtcpRxFirstSeq RtpHdr.shift
    rw [same]
  · exact ⟨⟨fits.positive, fits.inside⟩, divides, rtp.seqBound, rtp.seqBound⟩
  · exact rtp.seqBound

theorem RxCall.apply_shift (shifted : Shifted shift rx image ∧ rx.Regular) (call : RxCall)
    (guard : ShiftGuard shift rx call) :
    Shifted shift (call.apply rx) ((call.shift shift).apply image) ∧ (call.apply rx).Regular := by
  obtain ⟨related, regular⟩ := shifted
  have sameActive : image.active = rx.active := by rw [related.state]
  have sameSsrc : image.ssrc = rx.ssrc := by rw [related.state]
  cases call with
  | parseRtpPacket rtp =>
    simp only [RxCall.apply, RxCall.shift]
    cases active : rx.active with
    | false =>
      rw [mtRtcpRxParseRtpPacket_inactive active,
        mtRtcpRxParseRtpPacket_inactive (sameActive.trans active)]
      exact ⟨related, regular⟩
    | true =>
      rcases eq_or_ne rx.ssrc 0 with unset | set
      · rw [mtRtcpRxParseRtpPacket_first active unset,
          mtRtcpRxParseRtpPacket_first (sameActive.trans active) (sameSsrc.trans unset)]
        refine firstPacket_shift related.bitmap ?_ regular.fits regular.divides rtp
        rw [related.state]
      · rw [mtRtcpRxParseRtpPacket_later active set,
          mtRtcpRxParseRtpPacket_later (sameActive.trans active) (by rw [sameSsrc]; exact set)]
        obtain ⟨placed, kept⟩ :=
          rtcpRxPlaceSeq_shift related regular rtp.seqBound (guard set)
        exact rtcpRxRecordSeq_shift placed kept rtp.seqBound
  | sendNackPacket env =>
    have view := mtRtcpRxSendNackPacket_sameView regular.fits env
    refine ⟨(mtRtcpRxSendNackPacket_shift related regular env).rx, ?_⟩
    refine ⟨view.fits regular.fits, ?_, ?_, ?_⟩
    · rw [RxCall.apply, view.window]
      exact regular.divides
    · rw [RxCall.apply, view.last]
      exact regular.last
    · rw [RxCall.apply, view.cont]
      exact regular.cont

/-- A receiver that has not received a packet yet. -/
structure MtRtcpRx.Fresh (rx : MtRtcpRx) : Prop where
  active : rx.active = true
  ssrc : rx.ssrc = 0
  fits : rx.WindowFits
  divides : rx.seqWindowSize ∣ 65536
  empty : forall cell, rx.bit cell = false

theorem MtRtcpRx.Fresh.nack (fresh : rx.Fresh) (env : NackEnv) :
    (mtRtcpRxSendNackPacket rx env).rx.Fresh := by
  have view := mtRtcpRxSendNackPacket_sameView fresh.fits env
  exact {
    active := view.active.trans fresh.active
    ssrc := view.ssrc.trans fresh.ssrc
    fits := view.fits fresh.fits
    divides := by rw [view.window]; exact fresh.divides
    empty := fun cell => (view.bits cell).trans (fresh.empty cell) }

theorem MtRtcpRx.Fresh.run_shift {calls : List RxCall} (fresh : rx.Fresh)
    (some : exists rtp, RxCall.parseRtpPacket rtp ∈ calls)
    (admitted : Admitted RxCall.apply (ShiftGuard shift) rx calls) :
    Shifted shift (run RxCall.apply rx calls)
        (run RxCall.apply rx (calls.map (RxCall.shift shift))) ∧
      (run RxCall.apply rx calls).Regular := by
  induction calls generalizing rx with
  | nil =>
    obtain ⟨rtp, member⟩ := some
    exact absurd member List.not_mem_nil
  | cons call rest ih =>
    cases call with
    | sendNackPacket env =>
      obtain ⟨rtp, member⟩ := some
      rcases List.mem_cons.mp member with other | later
      · cases other
      · exact ih (fresh.nack env) ⟨rtp, later⟩ admitted.2
    | parseRtpPacket rtp =>
      have rotated : Rotated shift rx.seqWindowSize rx.seqBitmap rx.seqBitmap :=
        ⟨rfl, fun _ => (fresh.empty _).trans (fresh.empty _).symm⟩
      have first := firstPacket_shift rotated rfl fresh.fits fresh.divides rtp
      rw [← mtRtcpRxParseRtpPacket_first fresh.active fresh.ssrc,
        ← mtRtcpRxParseRtpPacket_first fresh.active fresh.ssrc] at first
      have remaining := run_simulation RxCall.apply RxCall.apply (ShiftGuard shift)
        (fun rx image => Shifted shift rx image ∧ rx.Regular) (RxCall.shift shift)
        (fun _ _ call related guard => RxCall.apply_shift related call guard)
        first admitted.2
      exact remaining

end Runs

theorem mtRtcpRxCreate_fresh (ops : MtRtcpRxOps) (now skip : Nat)
    (divides : (mtRtcpRxCreate ops now).seqWindowSize ∣ 65536) :
    ({ mtRtcpRxCreate ops now with seqSkipWindow := skip } : MtRtcpRx).Fresh where
  active := rfl
  ssrc := rfl
  fits := by
    refine ⟨Nat.pos_of_dvd_of_pos divides (by decide), ?_⟩
    simp only [mtRtcpRxCreate, List.length_replicate, u16_eq]
    omega
  divides := divides
  empty := by
    intro cell
    have zero : (List.replicate ops.seqBitmapSize (0 : Byte)).getD (cell / 8) 0 = 0 := by
      rw [List.getD_eq_getElem?_getD, List.getElem?_replicate]
      split <;> rfl
    simp only [MtRtcpRx.bit, mtRtcpRxCreate]
    rw [mtBitmapTest_eq_getLsbD, zero]
    exact BitVec.getLsbD_zero

/-- Over every run that does not meet the wrapping comparison, shifting the
packets shifts the state and every NACK and changes nothing else. -/
theorem receiver_run_shift (ops : MtRtcpRxOps) (now skip shift : Nat) (calls : List RxCall)
    (divides : (mtRtcpRxCreate ops now).seqWindowSize ∣ 65536)
    (some : exists rtp, RxCall.parseRtpPacket rtp ∈ calls)
    (admitted : Admitted RxCall.apply (ShiftGuard shift)
      { mtRtcpRxCreate ops now with seqSkipWindow := skip } calls) :
    let initial := { mtRtcpRxCreate ops now with seqSkipWindow := skip }
    let rx := run RxCall.apply initial calls
    let image := run RxCall.apply initial (calls.map (RxCall.shift shift))
    Shifted shift rx image ∧
      forall env, ShiftedResult shift (mtRtcpRxSendNackPacket rx env)
        (mtRtcpRxSendNackPacket image env) := by
  have fresh := mtRtcpRxCreate_fresh ops now skip divides
  obtain ⟨related, regular⟩ := fresh.run_shift some admitted
  exact ⟨related, fun env => mtRtcpRxSendNackPacket_shift related regular env⟩

theorem receiver_run_shift_ten :
    let rx := run RxCall.apply { mtRtcpRxCreate byteOps 0 with seqSkipWindow := 0 }
      (packetsOf [65535, 2, 1])
    let image := run RxCall.apply { mtRtcpRxCreate byteOps 0 with seqSkipWindow := 0 }
      ((packetsOf [65535, 2, 1]).map (RxCall.shift 10))
    Shifted 10 rx image ∧
      forall env, ShiftedResult 10 (mtRtcpRxSendNackPacket rx env)
        (mtRtcpRxSendNackPacket image env) :=
  receiver_run_shift byteOps 0 0 10 (packetsOf [65535, 2, 1]) (by decide)
    ⟨_, List.mem_cons_self⟩ (by decide +kernel)

/-- The late packet 0 is the successor of 65535 and is not recognised; ten
numbers later the late packet 10 is the successor of 9 and is. -/
theorem receiver_run_not_shifted :
    let initial := { mtRtcpRxCreate byteOps 0 with seqSkipWindow := 0 }
    let calls := packetsOf [65534, 65535, 1, 0]
    initial.seqWindowSize ∣ 65536 ∧
      (run RxCall.apply initial calls).lastCont = 65535 ∧
      (run RxCall.apply initial (calls.map (RxCall.shift 10))).lastCont = 11 ∧
      u16 ((65535 : Nat) + (10 : Nat)) = 9 := by
  decide +kernel

end MediaTransport.Rtcp
