import MediaTransport.Rtcp.Tracking

namespace MediaTransport.Rtcp

open Library Util

/-!
# What a NACK asks for

An `Observed` receiver carries, next to its state, the extended number of its
newest packet and the list of extended numbers received so far, which say what
the state of the program means.  By the invariant `Follows` the bitmap tells
exactly which numbers above `last_cont` were received.

A packet keeps the invariant unless its bit, or a bit it clears, is shared with
another number of that range.  The bitmap is indexed by the
sequence number modulo the window, so this can happen in two ways.  A window
size that does not divide 65536 puts two numbers on one position while the
range contains the step from 65535 to 0.  And a packet from before the window
is recorded without a check, at the position of a newer number.
-/

structure Observed where
  rx : MtRtcpRx
  newest : Int
  received : List Int

/-- The extended number of `last_cont`. -/
def Observed.cont (seen : Observed) : Int :=
  seen.newest - u16 ((seen.rx.lastSeq : Int) - seen.rx.lastCont)

/-- The extended number of the next packet: the one nearest to the newest. -/
def Observed.number (seen : Observed) (rtp : RtpHdr) : Int := extend seen.newest rtp.seqNumber

/-- The never received numbers between `last_cont` and `last_seq` less the
skip window, both excluded. -/
def Observed.missing (seen : Observed) : List Int :=
  (between seen.cont (seen.newest - seen.rx.seqSkipWindow)).filter
    (fun number => number ∉ seen.received)

def Observed.step (seen : Observed) : RxCall -> Observed
  | .parseRtpPacket rtp =>
    { rx := mtRtcpRxParseRtpPacket seen.rx rtp
      newest :=
        if seen.rx.ssrc = 0 then seen.number rtp else max seen.newest (seen.number rtp)
      received := seen.number rtp :: seen.received }
  | .sendNackPacket env => { seen with rx := (mtRtcpRxSendNackPacket seen.rx env).rx }

/-- A receiver before its first packet, for a skip window of any size. -/
def Observed.initial (ops : MtRtcpRxOps) (now skip : Nat) : Observed where
  rx := { mtRtcpRxCreate ops now with seqSkipWindow := skip }
  newest := 0
  received := []

/-- The lower end of the window after a packet: `last_cont`, unless the packet
is so far ahead that the receiver restarts at the beginning of its bitmap. -/
def Observed.windowLow (seen : Observed) (rtp : RtpHdr) : Int :=
  max seen.cont (seen.number rtp - seen.rx.seqWindowSize)

/-- No bitmap position is shared between two numbers that matter: the numbers
of the window have different positions, and the packet does not have the
position of another number of the window that is still missing. -/
def Observed.Unshared (seen : Observed) (rtp : RtpHdr) : Prop :=
  Separated seen.rx.position (seen.windowLow rtp) (max seen.newest (seen.number rtp)) ∧
    forall other, seen.cont < other -> other ≤ seen.newest ->
      seen.rx.position other = seen.rx.position (seen.number rtp) ->
      other = seen.number rtp ∨ other ∈ seen.received

def Observed.Guard (ssrc : Nat) (seen : Observed) : RxCall -> Prop
  | .parseRtpPacket rtp => rtp.ssrc = ssrc ∧ (seen.rx.ssrc = 0 ∨ seen.Unshared rtp)
  | .sendNackPacket _ => True

variable {ssrc : Nat} {seen : Observed}

/-- The sixteen-bit state means what the observation says. -/
structure Observed.Follows (ssrc : Nat) (seen : Observed) : Prop where
  active : seen.rx.active = true
  fits : seen.rx.WindowFits
  window : seen.rx.seqWindowSize < 65536
  skip : seen.rx.seqSkipWindow < 32768
  last : seen.rx.lastSeq = u16 seen.newest
  contiguous : seen.rx.lastCont = u16 seen.cont
  span : seen.newest ≤ seen.cont + seen.rx.seqWindowSize
  separated : Separated seen.rx.position seen.cont seen.newest
  tracks : Tracks seen.rx.position seen.rx.bit seen.received seen.cont seen.newest
  old : seen.rx.ssrc ≠ 0 -> ∀ number ∈ seen.received, number ≤ seen.newest
  fresh : seen.rx.ssrc = 0 -> ssrc = 0 ∨ seen.received = []

theorem Observed.cont_le (seen : Observed) : seen.cont ≤ seen.newest := by
  unfold Observed.cont
  omega

theorem Observed.cont_eq {reached : Int} (last : seen.rx.lastSeq = u16 seen.newest)
    (stored : seen.rx.lastCont = u16 reached) (below : reached ≤ seen.newest)
    (near : seen.newest < reached + 65536) :
    seen.cont = reached := by
  unfold Observed.cont
  rw [last, stored, u16_sub_u16, u16_eq]
  omega

theorem Observed.u16_number (seen : Observed) (rtp : RtpHdr) :
    u16 (seen.number rtp) = rtp.seqNumber :=
  u16_extend _ rtp.seqBound

/-! ## One call keeps the invariant -/

section Packet

variable {ssrc : Nat} {seen : Observed} {rtp : RtpHdr}

theorem Observed.Follows.first (follows : seen.Follows ssrc) (one : rtp.ssrc = ssrc)
    (unset : seen.rx.ssrc = 0) : (seen.step (.parseRtpPacket rtp)).Follows ssrc := by
  have parsed := mtRtcpRxParseRtpPacket_first follows.active unset rtp
  have last : (seen.step (.parseRtpPacket rtp)).rx.lastSeq =
      u16 (seen.step (.parseRtpPacket rtp)).newest := by
    simp only [Observed.step, parsed, if_pos unset, rtcpRxRecordSeq, rtcpRxFirstSeq,
      seen.u16_number]
  have stored : (seen.step (.parseRtpPacket rtp)).rx.lastCont =
      u16 (seen.step (.parseRtpPacket rtp)).newest := by
    simp only [Observed.step, parsed, if_pos unset, rtcpRxRecordSeq, rtcpRxFirstSeq,
      seen.u16_number]
  have cont := Observed.cont_eq last stored (le_refl _) (by omega)
  have setup : (rtcpRxFirstSeq seen.rx rtp).SameSetup (seen.step (.parseRtpPacket rtp)).rx := by
    simp only [Observed.step, parsed]
    exact rtcpRxRecordSeq_sameSetup _ _
  exact {
    active := setup.active.trans follows.active
    fits := setup.fits ⟨follows.fits.positive, follows.fits.inside⟩
    window := by rw [setup.window]; exact follows.window
    skip := by rw [setup.skip]; exact follows.skip
    last := last
    contiguous := by rw [cont]; exact stored
    span := by rw [cont]; omega
    separated := by
      rw [cont]
      intro left right _ _ _ _
      omega
    tracks := by rw [cont]; exact Tracks.of_empty (le_refl _)
    old := by
      intro started number member
      rw [setup.ssrc] at started
      rcases follows.fresh unset with zero | nothing
      · exact absurd (one.trans zero) started
      · simp only [Observed.step, nothing, List.mem_singleton, if_pos unset] at member ⊢
        exact le_of_eq member
    fresh := by
      intro zero
      rw [setup.ssrc] at zero
      exact Or.inl (one.symm.trans zero) }

/-- What the branch for a later packet has to provide: the state before the
number is recorded, and where `last_cont` stands. -/
theorem Observed.Follows.of_placed (follows : seen.Follows ssrc) (set : seen.rx.ssrc ≠ 0)
    {reached : Int}
    (setup : seen.rx.SameSetup (rtcpRxPlaceSeq seen.rx rtp.seqNumber))
    (last : (rtcpRxPlaceSeq seen.rx rtp.seqNumber).lastSeq =
      u16 (max seen.newest (seen.number rtp)))
    (stored : (rtcpRxPlaceSeq seen.rx rtp.seqNumber).lastCont = u16 reached)
    (below : reached ≤ max seen.newest (seen.number rtp))
    (span : max seen.newest (seen.number rtp) ≤ reached + seen.rx.seqWindowSize)
    (separated : Separated seen.rx.position reached (max seen.newest (seen.number rtp)))
    (tracks : Tracks seen.rx.position
      (fun cell => decide (cell = seen.rx.position (seen.number rtp)) ||
        (rtcpRxPlaceSeq seen.rx rtp.seqNumber).bit cell)
      (seen.number rtp :: seen.received) reached (max seen.newest (seen.number rtp))) :
    (seen.step (.parseRtpPacket rtp)).Follows ssrc := by
  have parsed : (seen.step (.parseRtpPacket rtp)).rx = rtcpRxRecordSeq
      (rtcpRxPlaceSeq seen.rx rtp.seqNumber) (u16 (seen.number rtp)) := by
    rw [seen.u16_number]
    exact mtRtcpRxParseRtpPacket_later follows.active set rtp
  have newest : (seen.step (.parseRtpPacket rtp)).newest =
      max seen.newest (seen.number rtp) := if_neg set
  have recorded := rtcpRxRecordSeq_sameSetup (rtcpRxPlaceSeq seen.rx rtp.seqNumber)
    (u16 (seen.number rtp))
  have cont : (seen.step (.parseRtpPacket rtp)).cont = reached := by
    apply Observed.cont_eq
    · rw [parsed, newest]
      exact last
    · rw [parsed]
      exact stored
    · rw [newest]
      exact below
    · have window := follows.window
      rw [newest]
      omega
  have ssrcKept : (seen.step (.parseRtpPacket rtp)).rx.ssrc = seen.rx.ssrc := by
    rw [parsed, recorded.ssrc, setup.ssrc]
  exact {
    active := by rw [parsed, recorded.active, setup.active]; exact follows.active
    fits := by rw [parsed]; exact recorded.fits (setup.fits follows.fits)
    window := by rw [parsed, recorded.window, setup.window]; exact follows.window
    skip := by rw [parsed, recorded.skip, setup.skip]; exact follows.skip
    last := by rw [parsed, newest]; exact last
    contiguous := by rw [cont, parsed]; exact stored
    span := by rw [cont, newest, parsed, recorded.window, setup.window]; exact span
    separated := by
      rw [cont, newest, parsed, recorded.position, setup.position]
      exact separated
    tracks := by
      rw [cont, newest, parsed, recorded.position, setup.position]
      intro other above inside
      rw [rtcpRxRecordSeq_bit (setup.fits follows.fits), setup.position]
      exact tracks other above inside
    old := by
      intro _ number member
      rw [newest]
      rcases List.mem_cons.mp member with rfl | member
      · exact le_max_right _ _
      · exact le_trans (follows.old set number member) (le_max_left _ _)
    fresh := fun zero => absurd (ssrcKept.symm.trans zero) set }

/-- A packet after the first: it is placed by its distance to the newest. -/
theorem Observed.Follows.later (follows : seen.Follows ssrc) (set : seen.rx.ssrc ≠ 0)
    (unshared : seen.Unshared rtp) : (seen.step (.parseRtpPacket rtp)).Follows ssrc := by
  obtain ⟨separated, harmless⟩ := unshared
  have bounds := extend_bounds seen.newest rtp.seqNumber
  rw [← Observed.number] at bounds
  have placed : rtcpRxPlaceSeq seen.rx rtp.seqNumber =
      rtcpRxPlaceSeq seen.rx (u16 (seen.number rtp)) := by rw [seen.u16_number]
  have contLe := seen.cont_le
  have span := follows.span
  rcases lt_trichotomy (seen.number rtp) seen.newest with older | same | newer
  · have compared := rtpSeqNumCmp_of_lt older (by omega)
    have greatest : max seen.newest (seen.number rtp) = seen.newest := max_eq_left (by omega)
    have low : seen.windowLow rtp = seen.cont := max_eq_left (by omega)
    obtain ⟨setup, last, bitmap, reached, above, inside, stored⟩ :=
      rtcpRxOldSeq_spec follows.last follows.contiguous contLe older (by omega)
    have branch : rtcpRxPlaceSeq seen.rx rtp.seqNumber =
        rtcpRxOldSeq seen.rx (u16 (seen.number rtp)) := by
      rw [placed, rtcpRxPlaceSeq, follows.last, compared, if_neg (by decide), if_pos (by decide)]
    rw [← branch] at setup last bitmap stored
    refine follows.of_placed set setup (by rw [greatest]; exact last) stored
      (by rw [greatest]; exact inside) (by rw [greatest]; omega)
      (separated.narrow (by rw [low]; exact above)) ?_
    rw [greatest]
    refine Tracks.narrow (Tracks.record follows.tracks harmless ?_) above
    intro cell
    simp only [MtRtcpRx.bit, bitmap]
  · have greatest : max seen.newest (seen.number rtp) = seen.newest := max_eq_left (by omega)
    have branch : rtcpRxPlaceSeq seen.rx rtp.seqNumber = seen.rx := by
      rw [placed, rtcpRxPlaceSeq, follows.last, same, rtpSeqNumCmp_self, if_neg (by decide),
        if_neg (by decide)]
    refine @Observed.Follows.of_placed ssrc seen rtp follows set seen.cont ?_ ?_ ?_ ?_ ?_ ?_ ?_
    · rw [branch]
      exact ⟨rfl, rfl, rfl, rfl, rfl⟩
    · rw [branch, greatest]
      exact follows.last
    · rw [branch]
      exact follows.contiguous
    · omega
    · omega
    · rw [greatest]
      exact follows.separated
    · rw [branch, greatest]
      exact Tracks.record follows.tracks harmless (fun _ => rfl)
  · have compared := rtpSeqNumCmp_of_gt newer (by omega)
    have greatest : max seen.newest (seen.number rtp) = seen.number rtp :=
      max_eq_right (by omega)
    obtain ⟨setup, last, ⟨reached, above, inside, stored⟩, cleared, kept⟩ :=
      rtcpRxNewSeq_spec follows.fits follows.window follows.last follows.contiguous contLe newer
        (by omega)
    have branch : rtcpRxPlaceSeq seen.rx rtp.seqNumber =
        rtcpRxNewSeq seen.rx (u16 (seen.number rtp)) := by
      rw [placed, rtcpRxPlaceSeq, follows.last, compared, if_pos (by decide)]
    rw [← branch] at setup last stored cleared kept
    have positive := follows.fits.positive
    rw [greatest] at separated
    refine follows.of_placed set setup (by rw [greatest]; exact last) stored
      (by rw [greatest]; exact inside) (by rw [greatest]; omega)
      (by rw [greatest]; exact separated.narrow above) ?_
    rw [greatest]
    have low : seen.windowLow rtp < seen.number rtp := by
      unfold Observed.windowLow
      omega
    have wider : seen.cont ≤ seen.windowLow rtp := le_max_left _ _
    refine Tracks.narrow (Tracks.advance (follows.tracks.narrow wider) newer low
      (follows.old set) separated cleared ?_) above
    intro other after before
    apply kept
    intro skipped beyond ahead shared
    have equal := separated skipped other (by omega) (by omega) after (by omega) shared
    omega

end Packet

theorem Observed.Follows.nack (follows : seen.Follows ssrc) (env : NackEnv)
    : (seen.step (.sendNackPacket env)).Follows ssrc := by
  have view := mtRtcpRxSendNackPacket_sameView follows.fits env
  have cont : (seen.step (.sendNackPacket env)).cont = seen.cont := by
    unfold Observed.cont Observed.step
    simp only [view.last, view.cont]
  exact {
    active := view.active.trans follows.active
    fits := view.fits follows.fits
    window := by rw [Observed.step, view.window]; exact follows.window
    skip := by rw [Observed.step, view.skip]; exact follows.skip
    last := view.last.trans follows.last
    contiguous := by rw [cont]; exact view.cont.trans follows.contiguous
    span := by rw [cont, Observed.step, view.window]; exact follows.span
    separated := by rw [cont, Observed.step, view.position]; exact follows.separated
    tracks := by
      rw [cont, Observed.step, view.position]
      intro number above below
      rw [view.bits]
      exact follows.tracks number above below
    old := by rw [Observed.step, view.ssrc]; exact follows.old
    fresh := by rw [Observed.step, view.ssrc]; exact follows.fresh }

theorem Observed.Follows.step {ssrc : Nat} {seen : Observed} (call : RxCall)
    (follows : seen.Follows ssrc) (guard : seen.Guard ssrc call) :
    (seen.step call).Follows ssrc := by
  cases call with
  | parseRtpPacket rtp =>
    obtain ⟨one, unset | unshared⟩ := guard
    · exact follows.first one unset
    · by_cases unset : seen.rx.ssrc = 0
      · exact follows.first one unset
      · exact follows.later unset unshared
  | sendNackPacket env => exact follows.nack env

theorem Observed.initial_follows (ops : MtRtcpRxOps) (now ssrc : Nat) {skip : Nat}
    (window : 0 < (mtRtcpRxCreate ops now).seqWindowSize) (small : skip < 32768) :
    (Observed.initial ops now skip).Follows ssrc where
  active := rfl
  fits := by
    refine ⟨window, ?_⟩
    simp only [Observed.initial, mtRtcpRxCreate, List.length_replicate, u16_eq]
    omega
  window := by
    simp only [Observed.initial, mtRtcpRxCreate]
    exact u16_lt _
  skip := small
  last := rfl
  contiguous := rfl
  span := by
    have : (Observed.initial ops now skip).cont = 0 := rfl
    have : (Observed.initial ops now skip).newest = 0 := rfl
    omega
  separated := by
    intro left right leftAbove leftBelow
    exact absurd leftAbove (not_lt.mpr leftBelow)
  tracks := Tracks.of_empty (le_refl _)
  old := fun set => absurd rfl set
  fresh := fun _ => Or.inr rfl

/-! ## The NACK -/

theorem Observed.Follows.nack_exact (follows : seen.Follows ssrc) {env : NackEnv} {packet : NackPacket}
    (built : (mtRtcpRxSendNackPacket seen.rx env).packet = some packet) :
    packet.fcis.flatMap MtRtcpFci.expand = seen.missing.map (fun number => u16 number) := by
  obtain ⟨scan, scanned, rfl, some⟩ := mtRtcpRxSendNackPacket_packet built
  have finish : rtcpRxNackEnd seen.rx = u16 (seen.newest - seen.rx.seqSkipWindow) := by
    unfold rtcpRxNackEnd
    rw [follows.last, u16_sub_left]
  have start : u16 ((seen.rx.lastCont : Int) + 1) = u16 (seen.cont + 1) := by
    rw [follows.contiguous, u16_add_u16]
  have skip := follows.skip
  have contLe := seen.cont_le
  unfold rtcpRxNackScan rtcpRxNackStart at scanned
  rw [finish, start] at scanned
  have behind : (rtpSeqNumCmp (u16 (seen.cont + 1))
      (u16 (seen.newest - seen.rx.seqSkipWindow)) = 1) -> False := by
    intro past
    rw [nackScanLoop_done _ _ _ _ _ past] at scanned
    cases scanned
    exact some rfl
  have ahead : seen.cont < seen.newest - seen.rx.seqSkipWindow := by
    by_contra short
    exact behind (rtpSeqNumCmp_of_gt (by omega) (by omega))
  have near : seen.newest - seen.rx.seqSkipWindow ≤ seen.cont + 32768 := by
    have span := follows.span
    have window := follows.window
    by_contra far
    exact behind (rtpSeqNumCmp_of_far (by omega) (by omega))
  have inside := follows.fits.position_lt (u16 (seen.newest - seen.rx.seqSkipWindow))
  -- The extra bit that the call sets for `end` is no bit of a listed number.
  have present : forall number, seen.cont < number ->
      number < seen.newest - seen.rx.seqSkipWindow ->
      (mtBitmapTest (mtBitmapTestAndSet seen.rx.seqBitmap
        (u16 (seen.newest - seen.rx.seqSkipWindow) % seen.rx.seqWindowSize : Nat)).2
        (u16 number % seen.rx.seqWindowSize : Nat) = true ↔ number ∈ seen.received) := by
    intro number above below
    have apart : u16 number % seen.rx.seqWindowSize ≠
        u16 (seen.newest - seen.rx.seqSkipWindow) % seen.rx.seqWindowSize := fun same =>
      (ne_of_lt below) (follows.separated number _ above (by omega) ahead (by omega) same)
    rw [mtBitmapTest_testAndSet _ _ _ inside, decide_eq_false apart, Bool.false_or]
    exact follows.tracks number above (by omega)
  have closed : mtBitmapTest (mtBitmapTestAndSet seen.rx.seqBitmap
      (u16 (seen.newest - seen.rx.seqSkipWindow) % seen.rx.seqWindowSize : Nat)).2
      (u16 (seen.newest - seen.rx.seqSkipWindow) % seen.rx.seqWindowSize : Nat) = true := by
    rw [mtBitmapTest_testAndSet _ _ _ inside, decide_eq_true rfl, Bool.true_or]
  have listed := nackScanLoop_spec near present closed circle (seen.cont + 1) 0 0 [] scan
    (by omega) (by push_cast; omega) (by unfold circle; omega)
    (by rw [Nat.cast_zero, Int.sub_zero]; exact scanned)
  rw [listed, between_eq_nil (by push_cast; omega), List.nil_append, Int.add_sub_cancel]
  rfl

theorem Observed.run_rx (seen : Observed) (calls : List RxCall) :
    (run Observed.step seen calls).rx = run RxCall.apply seen.rx calls := by
  induction calls generalizing seen with
  | nil => rfl
  | cons call rest ih =>
    rw [run_cons, run_cons, ih]
    cases call <;> rfl

theorem Observed.Follows.missing_nodup (follows : seen.Follows ssrc)
    : (seen.missing.map (fun number => u16 number)).Nodup := by
  have window := follows.window
  have span := follows.span
  refine List.Nodup.map_on ?_ ((nodup_between _ _).filter _)
  intro left leftMember right rightMember same
  have leftInside := mem_between.mp (List.mem_of_mem_filter leftMember)
  have rightInside := mem_between.mp (List.mem_of_mem_filter rightMember)
  exact u16_injective_of_close same (by omega) (by omega)

theorem MtRtcpRx.separated_of_dvd {rx : MtRtcpRx} {low newest : Int}
    (divides : rx.seqWindowSize ∣ 65536) (span : newest ≤ low + rx.seqWindowSize) :
    Separated rx.position low newest := by
  intro left right leftAbove leftBelow rightAbove rightBelow same
  have congruent : left % (rx.seqWindowSize : Int) = right % (rx.seqWindowSize : Int) := by
    rw [← u16_mod_of_dvd divides, ← u16_mod_of_dvd divides]
    exact congrArg Nat.cast same
  obtain ⟨factor, difference⟩ := Int.ModEq.dvd congruent
  have zero : factor = 0 := by
    by_contra other
    rcases lt_or_gt_of_ne other with negative | positive
    · have := Int.mul_le_mul_of_nonneg_left (show factor ≤ -1 by omega)
        (Int.natCast_nonneg rx.seqWindowSize)
      omega
    · have := Int.mul_le_mul_of_nonneg_left (show 1 ≤ factor by omega)
        (Int.natCast_nonneg rx.seqWindowSize)
      omega
  rw [zero, Int.mul_zero] at difference
  omega

theorem Observed.unshared_of_dvd {rtp : RtpHdr} (divides : seen.rx.seqWindowSize ∣ 65536)
    (span : seen.newest ≤ seen.cont + seen.rx.seqWindowSize) (above : seen.cont < seen.number rtp)
    (inside : seen.number rtp ≤ seen.cont + seen.rx.seqWindowSize) : seen.Unshared rtp := by
  have low : seen.windowLow rtp = seen.cont := max_eq_left (by omega)
  have separated : Separated seen.rx.position seen.cont
      (max seen.newest (seen.number rtp)) :=
    MtRtcpRx.separated_of_dvd divides (max_le span inside)
  refine ⟨by rw [low]; exact separated, ?_⟩
  intro other after before same
  exact Or.inl (separated other _ after (le_trans before (le_max_left _ _)) above
    (le_max_right _ _) same)

/-- Over every run whose packets share no bitmap position, a NACK that is sent
asks for exactly the missing numbers, each once and in order. -/
theorem nack_lists_missing (ops : MtRtcpRxOps) (now skip ssrc : Nat) (calls : List RxCall)
    (env : NackEnv) (packet : NackPacket)
    (window : 0 < (mtRtcpRxCreate ops now).seqWindowSize) (small : skip < 32768)
    (admitted : Admitted Observed.step (Observed.Guard ssrc) (Observed.initial ops now skip) calls)
    (sent : (mtRtcpRxSendNackPacket
      (run RxCall.apply { mtRtcpRxCreate ops now with seqSkipWindow := skip } calls)
      env).Sent packet) :
    packet.fcis.flatMap MtRtcpFci.expand =
        (run Observed.step (Observed.initial ops now skip) calls).missing.map
          (fun number => u16 number) ∧
      (packet.fcis.flatMap MtRtcpFci.expand).Nodup := by
  have follows := run_invariant Observed.step (Observed.Guard ssrc) (Observed.Follows ssrc)
    (fun _ call kept guard => kept.step call guard)
    (Observed.initial_follows ops now ssrc window small) admitted
  have erased := Observed.run_rx (Observed.initial ops now skip) calls
  have built := sent.1
  rw [← show (Observed.initial ops now skip).rx =
    { mtRtcpRxCreate ops now with seqSkipWindow := skip } from rfl, ← erased] at built
  have listed := follows.nack_exact built
  refine ⟨listed, ?_⟩
  rw [listed]
  exact follows.missing_nodup

def packetsOf (numbers : List Nat) : List RxCall :=
  numbers.map (fun seq => .parseRtpPacket
    { seqNumber := u16 seq, ssrc := 1, seqBound := u16_lt _, ssrcBound := by decide })

def byteOps : MtRtcpRxOps where
  nacksSendInterval := 0
  seqBitmapSize := 1
  seqSkipWindow := 0

def sendNow : NackEnv where
  now := 1
  pktAlloc := true
  txBurst := 1

theorem nack_lists_missing_six :
    [MtRtcpFci.mk 6 0].flatMap MtRtcpFci.expand =
        (run Observed.step (Observed.initial byteOps 0 0) (packetsOf [5, 7])).missing.map
          (fun number => u16 number) ∧
      ([MtRtcpFci.mk 6 0].flatMap MtRtcpFci.expand).Nodup :=
  nack_lists_missing byteOps 0 0 1 (packetsOf [5, 7]) sendNow { ssrc := 1, fcis := [⟨6, 0⟩] }
    (by decide) (by decide)
    ⟨⟨rfl, Or.inl rfl⟩,
      ⟨rfl, Or.inr (Observed.unshared_of_dvd (by decide +kernel) (by decide +kernel)
        (by decide +kernel) (by decide +kernel))⟩, trivial⟩
    (by decide +kernel)

/-! ## A late packet hides a missing one -/

/-- The calls of a run on one SSRC that never jumps ahead of the window. -/
def Observed.InWindow (ssrc : Nat) (seen : Observed) : RxCall -> Prop
  | .parseRtpPacket rtp => rtp.ssrc = ssrc ∧
      (seen.rx.ssrc = 0 ∨ seen.number rtp ≤ seen.cont + seen.rx.seqWindowSize)
  | .sendNackPacket _ => True

instance (ssrc : Nat) (seen : Observed) (call : RxCall) :
    Decidable (seen.InWindow ssrc call) :=
  match call with
  | .parseRtpPacket _ => inferInstanceAs (Decidable (_ ∧ (_ ∨ _)))
  | .sendNackPacket _ => inferInstanceAs (Decidable True)

/-- With a bitmap of one byte a second copy of 5 sets the bit of 13.  The
packets 13 and 14 are missing, and the NACK asks for 14 only. -/
theorem nack_omits_missing :
    let calls := packetsOf [5, 6, 7, 8, 9, 10, 11, 12, 15, 5]
    let packet : NackPacket := { ssrc := 1, fcis := [{ start := 14, follow := 0 }] }
    Admitted Observed.step (Observed.InWindow 1) (Observed.initial byteOps 0 0) calls ∧
      (mtRtcpRxSendNackPacket
        (run RxCall.apply { mtRtcpRxCreate byteOps 0 with seqSkipWindow := 0 } calls)
        sendNow).Sent packet ∧
      (run Observed.step (Observed.initial byteOps 0 0) calls).missing = [13, 14] ∧
      packet.fcis.flatMap MtRtcpFci.expand = [14] := by
  decide +kernel

end MediaTransport.Rtcp
