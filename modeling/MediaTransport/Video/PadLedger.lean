import MediaTransport.Video.Pads
import MediaTransport.Video.TaskletOrder

namespace MediaTransport.Video

open Library

/-!
# The references of the pads

Every reference on a pad buffer belongs to the session, to a pad that the queue has
accepted or to a normal pad that is owed.  The first packet of a frame comes after the
pads in front of it as long as the clock does not go back while a late frame is sent.
-/

/-! ## What is promised -/

variable {cfg : RlPadConfig}

/-- The references on each buffer are one and those of the pads that were accepted of it, for the normal one
also those of the pads that are owed; and of the pads that were refused, oldest first, each was accepted
once as a normal one later or is still owed. -/
structure PadsCounted (s : RlPadPort) : Prop where
  normal : s.normal.refs = 1 + s.normal.accepted + s.port.trsPadInflightNum
  coarse : s.coarse.refs = 1 + s.coarse.accepted
  fine : s.fine.refs = 1 + s.fine.accepted
  refused : s.refused = s.retried ++ s.waiting
  waiting : s.waiting.length = s.port.trsPadInflightNum

/-- The clock does not go back between the check for a late frame and its warm-up, and is no larger than an
`int64_t`. -/
def RlPadAnswers.Steady (a : RlPadAnswers) : Prop := a.curTsc ≤ a.late.tsc 0 ∧ a.late.tsc 0 < 9223372036854775808

def RlPadInput.Steady : RlPadInput -> Prop
  | .enqueue _ => True
  | .pass a again => a.Steady ∧ again.Steady

/-! ## Pads are queued -/

/-- From one state of a port to another one, pads were queued: some more are owed, and the references stay
counted. -/
structure PadsQueued (s after : RlPadPort) : Prop where
  port : exists owed, after.port = { s.port with trsPadInflightNum := s.port.trsPadInflightNum + owed }
  jumped : after.jumped = s.jumped
  counted : PadsCounted s -> PadsCounted after

section
variable {cfg : RlPadConfig} {s mid after : RlPadPort}

variable (targetTsc : Nat)

theorem PadsQueued.refl (s : RlPadPort) : PadsQueued s s := ⟨⟨0, rfl⟩, rfl, id⟩

theorem PadsQueued.trans (first : PadsQueued s mid) (second : PadsQueued mid after) : PadsQueued s after := by
  rcases first.port with ⟨one, port⟩
  rcases second.port with ⟨two, port'⟩
  refine ⟨⟨one + two, ?_⟩, second.jumped.trans first.jumped, second.counted ∘ first.counted⟩
  rw [port', port]
  simp only [Nat.add_assoc]

theorem PadsQueued.stats (s : RlPadPort) (troffset recalculate : Nat) :
    PadsQueued s { s with troffsetMismatch := troffset, recalculateWarmup := recalculate } :=
  ⟨⟨0, rfl⟩, rfl, fun counted => ⟨counted.normal, counted.coarse, counted.fine, counted.refused, counted.waiting⟩⟩

theorem PadsQueued.recalculate (s : RlPadPort) (again : Bool) : PadsQueued s (s.recalculate again) := by
  cases again with
  | false => exact PadsQueued.refl s
  | true => exact PadsQueued.stats s _ _

theorem burstNormal_taken (s : RlPadPort) (use : RlPadUse) {answer : Nat} (taken : 0 < answer) :
    s.burstNormal use answer =
      { s with normal := { refs := s.normal.refs + 1, accepted := s.normal.accepted + 1 } } := by
  have one : min answer 1 = 1 := by omega
  simp [RlPadPort.burstNormal, RlPadPort.burstPads, RlPadPort.padsRef, RlPadPort.accept, one]

theorem burstNormal_refused (s : RlPadPort) (use : RlPadUse) :
    s.burstNormal use 0 =
      { s with
        port := { s.port with trsPadInflightNum := s.port.trsPadInflightNum + 1 }
        normal := { s.normal with refs := s.normal.refs + 1 }
        refused := s.refused ++ [⟨.normal, use⟩]
        waiting := s.waiting ++ [⟨.normal, use⟩] } := by
  simp [RlPadPort.burstNormal, RlPadPort.burstPads, RlPadPort.padsRef, RlPadPort.accept, RlPadPort.owe]

theorem PadsQueued.burstNormal (s : RlPadPort) (use : RlPadUse) (answer : Nat) :
    PadsQueued s (s.burstNormal use answer) := by
  by_cases taken : 0 < answer
  · rw [burstNormal_taken s use taken]
    refine ⟨⟨0, rfl⟩, rfl, fun counted => ?_⟩
    have normal := counted.normal
    exact
      { normal := by dsimp only; omega
        coarse := counted.coarse
        fine := counted.fine
        refused := counted.refused
        waiting := counted.waiting }
  · obtain rfl : answer = 0 := by omega
    rw [burstNormal_refused s use]
    refine ⟨⟨1, rfl⟩, rfl, fun counted => ?_⟩
    have normal := counted.normal
    exact
      { normal := by dsimp only; omega
        coarse := counted.coarse
        fine := counted.fine
        refused := by rw [counted.refused, List.append_assoc]
        waiting := by
          rw [List.length_append, counted.waiting]
          rfl }

theorem PadsQueued.warmUpLoop (a : RlWarmUpAnswers) (fuel sent : Nat) (pktsNeeded : Int) (s : RlPadPort)
    : PadsQueued s (videoTrsRlWarmUpLoop cfg targetTsc a fuel sent pktsNeeded s) := by
  induction fuel generalizing sent pktsNeeded s with
  | zero => exact PadsQueued.refl s
  | succ fuel ih =>
    rw [videoTrsRlWarmUpLoop]
    by_cases needed : pktsNeeded > 0
    · rw [if_pos needed]
      exact ((PadsQueued.burstNormal s .warmUp (a.padTx sent)).trans (PadsQueued.recalculate _ _)).trans (ih _ _ _)
    · rw [if_neg needed]
      exact PadsQueued.refl s

theorem PadsQueued.warmUp (s : RlPadPort) (a : RlWarmUpAnswers) : PadsQueued s (videoTrsRlWarmUp cfg s a) := by
  unfold videoTrsRlWarmUp
  dsimp only
  split
  · exact PadsQueued.refl s
  · split
    · exact PadsQueued.stats _ _ _
    · exact PadsQueued.warmUpLoop _ a _ _ _ s

/-! ## Trim pads -/

theorem pads_take (b : StTxVideoRlBurst) (tx : Nat) :
    ((b.pads.take tx).filter fun pad => decide (pad.kind = .coarse)).length = min tx b.coarse ∧
      ((b.pads.take tx).filter fun pad => decide (pad.kind = .fine)).length = min (tx - b.coarse) b.fine ∧
      ((b.pads.take tx).filter fun pad => decide (pad.kind = .normal)).length =
        min (tx - b.coarse - b.fine) (b.n - b.coarse - b.fine) := by
  unfold StTxVideoRlBurst.pads
  simp only [List.take_append, List.take_replicate, List.filter_append, List.length_append,
    List.length_replicate, List.filter_replicate]
  simp [Nat.sub_sub]

theorem pads_length (b : StTxVideoRlBurst) (fits : b.coarse + b.fine ≤ b.n) : b.pads.length = b.n := by
  unfold StTxVideoRlBurst.pads
  simp only [List.length_append, List.length_replicate]
  omega

theorem stTxVideoRlNextBurst_fits (drain : Rat) (padSize : Nat) (trimPads : Int) (launch drained : Rat) :
    let b := stTxVideoRlNextBurst drain padSize trimPads launch drained
    b.coarse + b.fine ≤ b.n := by
  unfold stTxVideoRlNextBurst
  dsimp only
  split
  · dsimp only
    omega
  · exact Nat.zero_le _

theorem PadsQueued.preArmBurst (s : RlPadPort) (b : StTxVideoRlBurst) (fits : b.coarse + b.fine ≤ b.n)
    (answer : Nat) : PadsQueued s (s.preArmBurst b answer).1 := by
  have length := pads_length b fits
  rcases pads_take b (min answer b.n) with ⟨coarse, fine, normal⟩
  unfold RlPadPort.preArmBurst RlPadPort.burstPads RlPadPort.accept
  dsimp only
  rw [length, coarse, fine, normal]
  generalize tx_eq : min answer b.n = tx
  -- A burst that is cut in its trim pads takes the references to the others back.
  split
  all_goals
    refine ⟨⟨b.n - tx, rfl⟩, rfl, fun counted => ?_⟩
    have normal := counted.normal
    have coarse := counted.coarse
    have fine := counted.fine
    have waiting := counted.waiting
    exact
      { normal := by simp only [RlPadPort.padsRef, RlPadPort.owe]; omega
        coarse := by simp only [RlPadPort.padsRef, RlPadPort.owe]; omega
        fine := by simp only [RlPadPort.padsRef, RlPadPort.owe]; omega
        refused := by simp only [RlPadPort.padsRef, RlPadPort.owe, counted.refused, List.append_assoc]
        waiting := by
          simp only [RlPadPort.padsRef, RlPadPort.owe, List.length_append, List.length_drop, length]
          omega }

theorem PadsQueued.preArmLoop (a : RlPreArmAnswers) (fuel round : Nat) (s : RlPadPort) (drained : Rat)
    (sent : Nat) (hold : Bool) :
    PadsQueued s (videoTrsRlPreArmLoop cfg targetTsc a fuel round s drained sent hold).1 := by
  induction fuel generalizing round s drained sent hold with
  | zero => exact PadsQueued.refl s
  | succ fuel ih =>
    rw [videoTrsRlPreArmLoop]
    dsimp only
    generalize (decide (drained < a.startTsc round - cfg.bucketNs) && decide (sent ≠ 0)) = idle
    generalize caughtUp drained (a.startTsc round - cfg.bucketNs) = drained
    have begun := PadsQueued.recalculate s idle
    by_cases few : (idle && tooFewPads cfg targetTsc drained) = true
    · rw [if_pos few]
      exact begun
    · rw [if_neg few]
      by_cases reached : targetTsc ≤ drained
      · rw [if_pos reached]
        exact begun
      · rw [if_neg reached]
        have fits := stTxVideoRlNextBurst_fits cfg.padNs cfg.padSize (stTxVideoRlTrimPads cfg.padSize) targetTsc
          drained
        generalize stTxVideoRlNextBurst cfg.padNs cfg.padSize (stTxVideoRlTrimPads cfg.padSize) targetTsc
          drained = b at fits
        have burst := begun.trans (PadsQueued.preArmBurst _ b fits (a.burstTx round))
        have again := burst.trans (PadsQueued.recalculate _
          (decide (((s.recalculate idle).preArmBurst b (a.burstTx round)).2 ≠ 0) &&
            decide (drained + stTxVideoRlStallNs < a.succTsc round - cfg.bucketNs)))
        by_cases last : b.last = true
        · rw [if_pos last]
          exact again
        · rw [if_neg last]
          exact again.trans (ih _ _ _ _ _)

theorem PadsQueued.preArm (s : RlPadPort) (a : RlPreArmAnswers) :
    PadsQueued s (videoTrsRlPreArm cfg s a).1 := by
  unfold videoTrsRlPreArm
  dsimp only
  split
  · exact PadsQueued.refl s
  · split
    · exact PadsQueued.stats s _ _
    · split
      · exact PadsQueued.refl s
      · split
        · exact PadsQueued.refl s
        · exact PadsQueued.preArmLoop _ a _ _ s _ _ _

/-! ## The loops come to an end -/

theorem warmUpLoop_enough (a : RlWarmUpAnswers) {fuel sent : Nat} {pktsNeeded : Int}
    (enough : pktsNeeded ≤ fuel) (s : RlPadPort) :
    videoTrsRlWarmUpLoop cfg targetTsc a (fuel + 1) sent pktsNeeded s =
      videoTrsRlWarmUpLoop cfg targetTsc a fuel sent pktsNeeded s := by
  induction fuel generalizing sent pktsNeeded s with
  | zero =>
    show (if pktsNeeded > 0 then _ else s) = s
    exact if_neg (by omega)
  | succ fuel ih =>
    rw [videoTrsRlWarmUpLoop]
    conv_rhs => rw [videoTrsRlWarmUpLoop]
    by_cases needed : pktsNeeded > 0
    · rw [if_pos needed, if_pos needed]
      exact ih (by omega) _
    · rw [if_neg needed, if_neg needed]

theorem preArmRounds_less {targetTsc : Nat} {drained next : Rat} (positive : 0 < cfg.padNs)
    (open_ : drained < targetTsc) (later : drained + cfg.padNs ≤ next) :
    preArmRounds cfg targetTsc next < preArmRounds cfg targetTsc drained := by
  have less : (targetTsc - next) / cfg.padNs ≤ (targetTsc - drained) / cfg.padNs - 1 := by
    rw [div_le_iff₀ positive, sub_mul, div_mul_cancel₀ _ (ne_of_gt positive)]
    linarith
  have some_ : 0 < (targetTsc - drained) / cfg.padNs := div_pos (by linarith) positive
  have one := Int.ceil_pos.mpr some_
  have ceil := Int.ceil_mono less
  rw [Int.ceil_sub_one] at ceil
  unfold preArmRounds
  omega

theorem preArmRounds_mono {targetTsc : Nat} {drained next : Rat} (positive : 0 < cfg.padNs)
    (later : drained ≤ next) : preArmRounds cfg targetTsc next ≤ preArmRounds cfg targetTsc drained := by
  have less : (targetTsc - next) / cfg.padNs ≤ (targetTsc - drained) / cfg.padNs :=
    div_le_div_of_nonneg_right (by linarith) positive.le
  have ceil := Int.ceil_mono less
  unfold preArmRounds
  omega

theorem nextBurst_ns (positive : 0 < cfg.padNs) {targetTsc drained : Rat}
    (more : (stTxVideoRlNextBurst cfg.padNs cfg.padSize (stTxVideoRlTrimPads cfg.padSize) targetTsc drained).last =
      false) :
    cfg.padNs ≤
      (stTxVideoRlNextBurst cfg.padNs cfg.padSize (stTxVideoRlTrimPads cfg.padSize) targetTsc drained).ns cfg.padNs
        cfg.padSize := by
  unfold stTxVideoRlNextBurst at more ⊢
  dsimp only at more ⊢
  generalize ⌈(targetTsc - drained) / cfg.padNs⌉ = needed at more ⊢
  by_cases last : needed ≤ stTxVideoRlTrimPads cfg.padSize
  · rw [if_pos last] at more
    cases more
  · rw [if_neg last]
    unfold StTxVideoRlBurst.ns
    have one : 1 ≤ (min (needed - stTxVideoRlTrimPads cfg.padSize) stTxVideoRlMaxPadsPerBurst).toNat := by
      unfold stTxVideoRlMaxPadsPerBurst
      omega
    generalize (min (needed - stTxVideoRlTrimPads cfg.padSize) (stTxVideoRlMaxPadsPerBurst : Int)).toNat = n at one
    have cast : (1 : Rat) ≤ n := by exact_mod_cast one
    simp only [Nat.cast_zero, zero_mul, add_zero, zero_div, sub_zero]
    nlinarith

theorem preArmLoop_enough (positive : 0 < cfg.padNs) (targetTsc : Nat) (a : RlPreArmAnswers) {fuel round : Nat}
    {drained : Rat} (enough : preArmRounds cfg targetTsc drained < fuel) (s : RlPadPort) (sent : Nat) (hold : Bool) :
    videoTrsRlPreArmLoop cfg targetTsc a (fuel + 1) round s drained sent hold =
      videoTrsRlPreArmLoop cfg targetTsc a fuel round s drained sent hold := by
  induction fuel generalizing round s drained sent hold with
  | zero => omega
  | succ fuel ih =>
    rw [videoTrsRlPreArmLoop]
    conv_rhs => rw [videoTrsRlPreArmLoop]
    dsimp only
    have later : drained ≤ caughtUp drained (a.startTsc round - cfg.bucketNs) := by
      unfold caughtUp
      split <;> linarith
    generalize caughtUp drained (a.startTsc round - cfg.bucketNs) = start at later
    by_cases few : (decide (drained < a.startTsc round - cfg.bucketNs) && decide (sent ≠ 0) &&
        tooFewPads cfg targetTsc start) = true
    · rw [if_pos few, if_pos few]
    · rw [if_neg few, if_neg few]
      by_cases reached : targetTsc ≤ start
      · rw [if_pos reached, if_pos reached]
      · rw [if_neg reached, if_neg reached]
        by_cases last : (stTxVideoRlNextBurst cfg.padNs cfg.padSize (stTxVideoRlTrimPads cfg.padSize) targetTsc
            start).last = true
        · rw [if_pos last, if_pos last]
        · rw [if_neg last, if_neg last]
          have whole := nextBurst_ns positive (Bool.eq_false_of_not_eq_true last)
          refine ih (Nat.lt_of_lt_of_le (preArmRounds_less positive (not_le.mp reached) ?_) ?_) _ _ _
          · split
            · next stalled =>
                rw [Bool.and_eq_true, decide_eq_true_eq, decide_eq_true_eq] at stalled
                linarith [stalled.2]
            · linarith
          · exact Nat.le_trans (preArmRounds_mono positive later) (Nat.le_of_lt_succ enough)

/-! ## The steps of a pass -/

theorem PadsCounted.port (counted : PadsCounted s) {port : TrsPort} (jumped : Bool)
    (same : port.trsPadInflightNum = s.port.trsPadInflightNum) :
    PadsCounted { s with port := port, jumped := jumped } where
  normal := by rw [same]; exact counted.normal
  coarse := counted.coarse
  fine := counted.fine
  refused := counted.refused
  waiting := counted.waiting.trans same.symm

theorem PadsCounted.setIdle (counted : PadsCounted s) : PadsCounted s.setIdle := counted.port _ rfl

theorem PadsCounted.none_waiting (counted : PadsCounted s) (none : s.port.trsPadInflightNum = 0) :
    s.waiting = [] := List.length_eq_zero_iff.mp (counted.waiting.trans none)

theorem PadsCounted.retryPads (counted : PadsCounted s) (some_ : 0 < s.port.trsPadInflightNum) (answer : Nat) :
    PadsCounted (s.retryPads cfg answer).1 := by
  have normal := counted.normal
  have waiting := counted.waiting
  unfold RlPadPort.retryPads
  dsimp only
  generalize tx_eq : min answer (if cfg.armed = true then
    min s.port.trsPadInflightNum stTxVideoRlMaxPadsPerBurst else 1) = tx
  have few : tx ≤ s.port.trsPadInflightNum := by
    split at tx_eq <;> omega
  exact
    { normal := by dsimp only; omega
      coarse := counted.coarse
      fine := counted.fine
      refused := by
        dsimp only
        rw [List.append_assoc, List.take_append_drop, counted.refused]
      waiting := by rw [List.length_drop, waiting] }

theorem frameStart_queued (s : RlPadPort) (a : RlPadAnswers) :
    exists mid rlState targetTsc, PadsQueued s mid ∧
      s.frameStart cfg a = { mid with port := { mid.port with rlState := rlState, trsTargetTsc := targetTsc } } := by
  unfold RlPadPort.frameStart
  split
  · exact ⟨_, .waitTarget, _, PadsQueued.warmUp s a.warmUp, rfl⟩
  · have queued := @PadsQueued.preArm cfg s a.preArm
    generalize videoTrsRlPreArm cfg s a.preArm = result at queued
    rcases result with ⟨mid, armed⟩
    cases armed with
    | false => exact ⟨mid, .waitTarget, _, queued, rfl⟩
    | true => exact ⟨mid, .idle, 0, queued, rfl⟩

theorem PadsQueued.insertPad (s : RlPadPort) (pkts : List TrsMbuf) (answer : Nat) :
    PadsQueued s (RlPadPort.insertPad cfg s pkts answer) := by
  unfold RlPadPort.insertPad
  cases pkts with
  | nil => exact PadsQueued.refl s
  | cons pkt rest =>
    dsimp only
    split
    · exact PadsQueued.burstNormal s .interval answer
    · exact PadsQueued.refl s

theorem videoTrsBurst_pads (port : TrsPort) (pkts : List TrsMbuf) (answer : Nat) (useTwo : Bool) :
    (if (videoTrsBurst port pkts answer).2 < pkts.length then
      if useTwo then (videoTrsBurst port pkts answer).1.saveInflight2 (pkts.drop (videoTrsBurst port pkts answer).2)
      else (videoTrsBurst port pkts answer).1.saveInflight (pkts.drop (videoTrsBurst port pkts answer).2)
    else (videoTrsBurst port pkts answer).1).trsPadInflightNum = port.trsPadInflightNum := by
  split
  · split <;> rfl
  · rfl

theorem PadsCounted.burstPacket (counted : PadsCounted s) (pkts : List TrsMbuf) (useTwo : Bool)
    (answer padAnswer : Nat) : PadsCounted (s.burstPacket cfg pkts useTwo answer padAnswer) := by
  unfold RlPadPort.burstPacket
  refine (PadsQueued.insertPad _ pkts padAnswer).counted ?_
  exact counted.port _ (videoTrsBurst_pads s.port pkts answer useTwo)

theorem PadsCounted.sendBulk (counted : PadsCounted s) (pkts : List TrsMbuf) (a : RlPadAnswers) :
    PadsCounted (s.sendBulk cfg pkts a).1 := by
  unfold RlPadPort.sendBulk
  dsimp only
  cases pkts.dropWhile (fun pkt => !(pkt.first || pkt.dummy)) with
  | nil => exact counted.burstPacket _ _ _ _
  | cons pkt rest =>
    dsimp only
    generalize pkts.takeWhile (fun pkt => !(pkt.first || pkt.dummy)) = before
    split
    · exact (counted.burstPacket before false a.beforeTx a.beforePadTx).port _ rfl
    · have begun : PadsCounted
          (if before.length ≠ 0 then s.burstPacket cfg before true a.beforeTx a.beforePadTx else s) := by
        split
        · exact counted.burstPacket _ _ _ _
        · exact counted
      generalize (if before.length ≠ 0 then s.burstPacket cfg before true a.beforeTx a.beforePadTx else s) =
        mid at begun
      split
      · split
        · exact begun.port _ rfl
        · exact begun.burstPacket (pkt :: rest) false a.bulkTx a.bulkPadTx
      · have aimed : PadsCounted { mid with port := { mid.port with trsTargetTsc := pkt.tscTimeStamp } } :=
          begun.port _ rfl
        have warm := (@PadsQueued.warmUp cfg _ a.late).counted aimed
        exact warm.setIdle.burstPacket (pkt :: rest) false a.bulkTx a.bulkPadTx

theorem PadsCounted.send (counted : PadsCounted s) (a : RlPadAnswers) : PadsCounted (s.send cfg a).1 := by
  unfold RlPadPort.send
  split
  · exact counted.port _ rfl
  · unfold TrsPort.dequeueBulk
    split
    · next taken =>
        split at taken
        · exact counted
        · cases taken
    · next pkts port taken =>
        split at taken
        · cases taken
        · cases taken
          have taken : PadsCounted { s with port := { s.port with ring := s.port.ring.drop cfg.bulk } } :=
            counted.port _ rfl
          exact taken.sendBulk (s.port.ring.take cfg.bulk) a

theorem PadsCounted.target (counted : PadsCounted s) (targetTsc : Nat) (a : RlPadAnswers) :
    PadsCounted (s.target cfg targetTsc a).1 := by
  unfold RlPadPort.target
  by_cases some_ : 0 < s.port.trsPadInflightNum
  · rw [if_pos some_]
    exact counted.retryPads some_ a.padTx
  · rw [if_neg some_]
    split
    · split
      · exact counted
      · exact counted.setIdle.send a
    · exact counted.send a

theorem PadsCounted.taskletOnce (counted : PadsCounted s) (a : RlPadAnswers) :
    PadsCounted (s.taskletOnce cfg a).1 := by
  unfold RlPadPort.taskletOnce
  split
  · exact counted.port _ rfl
  · dsimp only
    by_cases waits : s.port.rlState = .waitWarmup
    · rw [if_pos waits]
      generalize videoTrsRlTargetReached a.warmUpTsc _ = reached
      cases reached with
      | false => exact counted
      | true =>
        rcases @frameStart_queued cfg s a with ⟨mid, rlState, targetTsc, queued, started⟩
        have begun : PadsCounted (s.frameStart cfg a) := by
          rw [started]
          exact (queued.counted counted).port _ rfl
        exact begun.target _ a
    · rw [if_neg waits]
      exact counted.target _ a

/-! ## In front of the first packet

Packets in the second buffer end the frame before, so none of them is the first of a frame.
-/

/-- No pad in front of a frame was jumped, and the second buffer has no first packet. -/
structure PadsInFront (s : RlPadPort) : Prop where
  jumped : s.jumped = false
  second : s.port.trsInflight2.unsent.any TrsMbuf.first = false

def RlPadPort.Clear (s : RlPadPort) : Prop := s.waiting.any RlPad.inFront = false

theorem any_first_drop {pkts : List TrsMbuf} (none : pkts.any TrsMbuf.first = false) (n : Nat) :
    (pkts.drop n).any TrsMbuf.first = false := by
  rw [List.any_eq_false] at none ⊢
  exact fun pkt member => none pkt (List.mem_of_mem_drop member)

theorem handOver_jumped {pkts : List TrsMbuf} (fair : pkts.any TrsMbuf.first = false ∨ s.Clear) :
    (s.handOver pkts).jumped = s.jumped := by
  unfold RlPadPort.handOver
  rcases fair with none | clear
  · simp [none]
  · simp [show s.waiting.any RlPad.inFront = false from clear]

theorem insertPad_clear (clear : s.Clear) (pkts : List TrsMbuf) (answer : Nat) :
    (RlPadPort.insertPad cfg s pkts answer).Clear := by
  unfold RlPadPort.insertPad
  cases pkts with
  | nil => exact clear
  | cons pkt rest =>
    dsimp only
    split
    · by_cases taken : 0 < answer
      · rw [burstNormal_taken s .interval taken]
        exact clear
      · obtain rfl : answer = 0 := by omega
        rw [burstNormal_refused]
        unfold RlPadPort.Clear at clear ⊢
        rw [List.any_append, clear]
        rfl
    · exact clear

theorem PadsQueued.inFront (queued : PadsQueued s after) (right : PadsInFront s) : PadsInFront after where
  jumped := queued.jumped.trans right.jumped
  second := by
    rcases queued.port with ⟨owed, port⟩
    rw [port]
    exact right.second

theorem PadsInFront.burstPacket (right : PadsInFront s) {pkts : List TrsMbuf} (useTwo : Bool)
    (answer padAnswer : Nat) (fair : pkts.any TrsMbuf.first = false ∨ s.Clear)
    (ends : useTwo = true -> pkts.any TrsMbuf.first = false) :
    PadsInFront (s.burstPacket cfg pkts useTwo answer padAnswer) := by
  unfold RlPadPort.burstPacket
  dsimp only
  refine (PadsQueued.insertPad _ pkts padAnswer).inFront ⟨(handOver_jumped fair).trans right.jumped, ?_⟩
  dsimp only
  by_cases some_ : (videoTrsBurst s.port pkts answer).2 < pkts.length
  · have refused : (videoTrsBurst (s.handOver pkts).port pkts answer).2 < pkts.length := some_
    rw [if_pos refused]
    cases useTwo with
    | false => exact right.second
    | true =>
      rw [if_pos rfl]
      have whole := any_first_drop (ends rfl) (videoTrsBurst (s.handOver pkts).port pkts answer).2
      unfold TrsPort.saveInflight2 TrsInflight.unsent
      dsimp only
      rw [List.drop_zero, List.take_length]
      exact whole
  · have all : ¬ (videoTrsBurst (s.handOver pkts).port pkts answer).2 < pkts.length := some_
    rw [if_neg all]
    exact right.second

theorem burstPacket_clear (clear : s.Clear) (pkts : List TrsMbuf) (useTwo : Bool) (answer padAnswer : Nat) :
    (s.burstPacket cfg pkts useTwo answer padAnswer).Clear := by
  unfold RlPadPort.burstPacket
  dsimp only
  exact insertPad_clear (s := { s.handOver pkts with port := _ }) clear pkts padAnswer

theorem videoTrsRlPktsNeeded_late (cfg : RlPadConfig) {targetTsc tsc : Nat} (late : targetTsc ≤ tsc)
    (small : tsc < 9223372036854775808) : videoTrsRlPktsNeeded cfg targetTsc tsc ≤ 0 := by
  have delta : tscDelta targetTsc tsc = (targetTsc : Int) - tsc := by
    unfold tscDelta
    rw [Int.bmod_def]
    split <;> omega
  have upper : ((tscDelta targetTsc tsc : Rat) + cfg.trs - 1) / cfg.trs < 1 := by
    rw [div_lt_one cfg.trs_pos, delta]
    push_cast
    have order : (targetTsc : Rat) ≤ tsc := by exact_mod_cast late
    linarith
  unfold videoTrsRlPktsNeeded truncRat
  generalize ((tscDelta targetTsc tsc : Rat) + cfg.trs - 1) / cfg.trs = value at upper
  have num : value.num < value.den := Rat.num_lt_denom_iff.mpr upper
  by_cases positive : 0 ≤ value.num
  · rw [Int.tdiv_eq_zero_of_lt positive num]
  · have negated : value.num.tdiv value.den = -((-value.num).tdiv value.den) := by
      rw [Int.neg_tdiv, neg_neg]
    have nonneg := Int.tdiv_nonneg (show 0 ≤ -value.num by omega) (show (0 : Int) ≤ value.den by omega)
    omega

theorem videoTrsRlWarmUp_late (s : RlPadPort) {a : RlWarmUpAnswers} (late : s.port.trsTargetTsc ≤ a.tsc 0)
    (small : a.tsc 0 < 9223372036854775808) :
    exists troffset, videoTrsRlWarmUp cfg s a = { s with troffsetMismatch := troffset } := by
  have none := videoTrsRlPktsNeeded_late cfg late small
  unfold videoTrsRlWarmUp
  dsimp only
  by_cases zero : s.port.trsTargetTsc = 0
  · rw [if_pos zero]
    exact ⟨_, rfl⟩
  · rw [if_neg zero]
    split
    · exact ⟨_, rfl⟩
    · rw [Int.toNat_of_nonpos none]
      exact ⟨_, rfl⟩

theorem not_first_takeWhile (pkts : List TrsMbuf) :
    (pkts.takeWhile (fun pkt => !(pkt.first || pkt.dummy))).any TrsMbuf.first = false := by
  rw [List.any_eq_false]
  intro pkt member
  have ordinary := List.mem_takeWhile_imp member
  simp only [Bool.not_eq_true', Bool.or_eq_false_iff] at ordinary
  simp [ordinary.1]

theorem PadsInFront.sendBulk (right : PadsInFront s) (clear : s.Clear) (pkts : List TrsMbuf)
    {a : RlPadAnswers} (steady : a.Steady) : PadsInFront (s.sendBulk cfg pkts a).1 := by
  have before := not_first_takeWhile pkts
  unfold RlPadPort.sendBulk
  dsimp only
  cases pkts.dropWhile (fun pkt => !(pkt.first || pkt.dummy)) with
  | nil => exact right.burstPacket false a.bulkTx a.bulkPadTx (.inr clear) (fun two => by cases two)
  | cons pkt rest =>
    dsimp only
    generalize pkts.takeWhile (fun pkt => !(pkt.first || pkt.dummy)) = ending at before
    by_cases dummy : pkt.dummy = true
    · rw [if_pos dummy]
      have sent := @PadsInFront.burstPacket cfg _ right _ false a.beforeTx a.beforePadTx (.inl before)
        (fun two => by cases two)
      exact ⟨sent.jumped, sent.second⟩
    · rw [if_neg dummy]
      have begun : PadsInFront
          (if ending.length ≠ 0 then s.burstPacket cfg ending true a.beforeTx a.beforePadTx else s) ∧
            (if ending.length ≠ 0 then s.burstPacket cfg ending true a.beforeTx a.beforePadTx else s).Clear := by
        split
        · exact ⟨right.burstPacket true _ _ (.inl before) (fun _ => before), burstPacket_clear clear _ _ _ _⟩
        · exact ⟨right, clear⟩
      generalize (if ending.length ≠ 0 then s.burstPacket cfg ending true a.beforeTx a.beforePadTx else s) =
        mid at begun
      rcases begun with ⟨right, clear⟩
      by_cases due : a.curTsc < pkt.tscTimeStamp ∨ 0 < mid.port.trsInflight2.num
      · rw [if_pos due]
        split
        · exact ⟨right.jumped, right.second⟩
        · exact @PadsInFront.burstPacket cfg _ right (pkt :: rest) false a.bulkTx a.bulkPadTx (.inr clear)
            (fun two => by cases two)
      · rw [if_neg due]
        have reached : pkt.tscTimeStamp ≤ a.curTsc := by omega
        rcases @videoTrsRlWarmUp_late cfg
          { mid with port := { mid.port with trsTargetTsc := pkt.tscTimeStamp } } _
          (Nat.le_trans reached steady.1) steady.2 with ⟨troffset, nothing⟩
        rw [nothing]
        have idle : PadsInFront (RlPadPort.setIdle
            { mid with
              port := { mid.port with trsTargetTsc := pkt.tscTimeStamp }
              troffsetMismatch := troffset }) := ⟨right.jumped, right.second⟩
        exact @PadsInFront.burstPacket cfg _ idle (pkt :: rest) false a.bulkTx a.bulkPadTx (.inr clear)
          (fun two => by cases two)

theorem PadsInFront.send (right : PadsInFront s) (none : s.waiting = []) {a : RlPadAnswers}
    (steady : a.Steady) : PadsInFront (s.send cfg a).1 := by
  have clear : s.Clear := by
    unfold RlPadPort.Clear
    rw [none]
    rfl
  unfold RlPadPort.send
  by_cases some_ : 0 < s.port.trsInflight.num
  · rw [if_pos some_]
    exact ⟨(handOver_jumped (.inr clear)).trans right.jumped, right.second⟩
  · rw [if_neg some_]
    unfold TrsPort.dequeueBulk
    by_cases few : s.port.ring.length < cfg.bulk
    · rw [if_pos few]
      exact right
    · rw [if_neg few]
      have taken : PadsInFront { s with port := { s.port with ring := s.port.ring.drop cfg.bulk } } :=
        ⟨right.jumped, right.second⟩
      exact taken.sendBulk clear _ steady

theorem PadsInFront.target (right : PadsInFront s) (counted : PadsCounted s) (targetTsc : Nat)
    {a : RlPadAnswers} (steady : a.Steady) : PadsInFront (s.target cfg targetTsc a).1 := by
  unfold RlPadPort.target
  by_cases some_ : 0 < s.port.trsPadInflightNum
  · rw [if_pos some_]
    exact ⟨right.jumped, right.second⟩
  · have none := counted.none_waiting (by omega)
    rw [if_neg some_]
    split
    · split
      · exact right
      · have idle : PadsInFront s.setIdle := ⟨right.jumped, right.second⟩
        exact idle.send none steady
    · exact right.send none steady

theorem PadsInFront.taskletOnce (right : PadsInFront s) (counted : PadsCounted s) {a : RlPadAnswers}
    (steady : a.Steady) : PadsInFront (s.taskletOnce cfg a).1 := by
  unfold RlPadPort.taskletOnce
  by_cases second : 0 < s.port.trsInflight2.num
  · rw [if_pos second]
    refine ⟨(handOver_jumped (.inl right.second)).trans right.jumped, ?_⟩
    unfold TrsPort.retryInflight2 videoTrsBurst
    dsimp only
    rw [TrsInflight.unsent_advance]
    exact any_first_drop right.second _
  · rw [if_neg second]
    dsimp only
    by_cases waits : s.port.rlState = .waitWarmup
    · rw [if_pos waits]
      generalize videoTrsRlTargetReached a.warmUpTsc _ = reached
      cases reached with
      | false => exact right
      | true =>
        rcases @frameStart_queued cfg s a with ⟨mid, rlState, targetTsc, queued, started⟩
        have begun : PadsInFront (s.frameStart cfg a) ∧ PadsCounted (s.frameStart cfg a) := by
          rw [started]
          have moved := queued.inFront right
          exact ⟨⟨moved.jumped, moved.second⟩, (queued.counted counted).port _ rfl⟩
        exact begun.1.target begun.2 _ steady
    · rw [if_neg waits]
      exact right.target counted _ steady

end

/-! ## The tasklet without its pads

Forgetting the buffers, a pass is one of the tasklet that only counts the pads it owes.
-/

/-- The answers of a pass, with the pads of its warm-ups that were refused and what came of the pre-arm. -/
def RlPadAnswers.outline (a : RlPadAnswers) (warmUpPads : Nat) (preArmed : Bool) (latePads : Nat) : RlAnswers where
  inflight2Tx := a.inflight2Tx
  warmUpTsc := a.warmUpTsc
  preArmed := preArmed
  warmUpPads := warmUpPads
  padTx := a.padTx
  targetTsc := a.targetTsc
  inflightTx := a.inflightTx
  curTsc := a.curTsc
  beforeTx := a.beforeTx
  beforePadTx := a.beforePadTx
  latePads := latePads
  bulkTx := a.bulkTx
  bulkPadTx := a.bulkPadTx

section
variable {cfg : RlPadConfig}

section

variable (s : RlPadPort) (pkts : List TrsMbuf) (a : RlPadAnswers)

theorem insertPad_port (answer : Nat) :
    (RlPadPort.insertPad cfg s pkts answer).port = s.port.insertPad cfg.toTrsConfig pkts answer := by
  unfold RlPadPort.insertPad TrsPort.insertPad
  cases pkts with
  | nil => rfl
  | cons pkt rest =>
    dsimp only
    by_cases due : cfg.padDue pkt.idx (pkt :: rest).length = true
    · by_cases taken : 0 < answer
      · rw [if_pos due, burstNormal_taken s .interval taken, due, decide_eq_false (by omega)]
        rfl
      · obtain rfl : answer = 0 := by omega
        rw [if_pos due, burstNormal_refused, due]
        rfl
    · rw [if_neg due, if_neg (fun both => due (Bool.and_eq_true_iff.mp both).1)]

theorem burstPacket_port (useTwo : Bool) (answer padAnswer : Nat) :
    (s.burstPacket cfg pkts useTwo answer padAnswer).port =
      videoBurstPacket cfg.toTrsConfig s.port pkts useTwo answer padAnswer := by
  unfold RlPadPort.burstPacket videoBurstPacket
  dsimp only
  rw [insertPad_port]
  rfl

theorem sendBulk_port :
    exists late, forall warmUpPads preArmed,
      ((s.sendBulk cfg pkts a).1.port, (s.sendBulk cfg pkts a).2) =
        videoTrsRlBulk cfg.toTrsConfig s.port pkts (a.outline warmUpPads preArmed late) := by
  unfold RlPadPort.sendBulk videoTrsRlBulk
  dsimp only
  cases pkts.dropWhile (fun pkt => !(pkt.first || pkt.dummy)) with
  | nil =>
    refine ⟨0, fun _ _ => ?_⟩
    dsimp only
    rw [burstPacket_port]
    rfl
  | cons pkt rest =>
    dsimp only
    generalize pkts.takeWhile (fun pkt => !(pkt.first || pkt.dummy)) = ending
    by_cases dummy : pkt.dummy = true
    · refine ⟨0, fun _ _ => ?_⟩
      rw [if_pos dummy, if_pos dummy]
      dsimp only
      rw [burstPacket_port]
      rfl
    · rw [if_neg dummy]
      simp only [if_neg dummy]
      have begun :
          (if ending.length ≠ 0 then s.burstPacket cfg ending true a.beforeTx a.beforePadTx else s).port =
            if ending.length ≠ 0 then
              videoBurstPacket cfg.toTrsConfig s.port ending true a.beforeTx a.beforePadTx
            else s.port := by
        split
        · exact burstPacket_port _ _ _ _ _
        · rfl
      generalize (if ending.length ≠ 0 then s.burstPacket cfg ending true a.beforeTx a.beforePadTx else s) =
        mid at begun
      have aimed := @PadsQueued.warmUp cfg
        { mid with port := { mid.port with trsTargetTsc := pkt.tscTimeStamp } } a.late
      rcases aimed.port with ⟨late, queued⟩
      refine ⟨late, fun warmUpPads preArmed => ?_⟩
      have ports : (if ending.length ≠ 0 then
          videoBurstPacket cfg.toTrsConfig s.port ending true (a.outline warmUpPads preArmed late).beforeTx
            (a.outline warmUpPads preArmed late).beforePadTx
        else s.port) = mid.port := begun.symm
      rw [ports]
      by_cases due : a.curTsc < pkt.tscTimeStamp ∨ 0 < mid.port.trsInflight2.num
      · rw [if_pos due, if_pos (show (a.outline warmUpPads preArmed late).curTsc < _ ∨ _ from due)]
        by_cases near : tscDelta pkt.tscTimeStamp a.curTsc ≤ nsPerS ∨ 0 < mid.port.trsInflight2.num
        · rw [if_pos near, if_pos (show Int.bmod (_ - ((a.outline warmUpPads preArmed late).curTsc : Int)) _ ≤
            (nsPerS : Int) ∨ _ from near)]
        · rw [if_neg near, if_neg (show ¬ (Int.bmod (_ - ((a.outline warmUpPads preArmed late).curTsc : Int)) _ ≤
            (nsPerS : Int) ∨ _) from near)]
          dsimp only
          rw [burstPacket_port]
          rfl
      · rw [if_neg due, if_neg (show ¬ ((a.outline warmUpPads preArmed late).curTsc < _ ∨ _) from due)]
        dsimp only
        rw [burstPacket_port]
        unfold RlPadPort.setIdle
        dsimp only
        rw [queued]
        rfl

theorem send_port :
    exists late, forall warmUpPads preArmed,
      ((s.send cfg a).1.port, (s.send cfg a).2) =
        videoTrsRlSend cfg.toTrsConfig s.port (a.outline warmUpPads preArmed late) := by
  unfold RlPadPort.send videoTrsRlSend
  by_cases some_ : 0 < s.port.trsInflight.num
  · refine ⟨0, fun _ _ => ?_⟩
    rw [if_pos some_, if_pos some_]
    rfl
  · rw [if_neg some_]
    simp only [if_neg some_]
    unfold TrsPort.dequeueBulk
    by_cases few : s.port.ring.length < cfg.bulk
    · exact ⟨0, fun _ _ => by rw [if_pos few]⟩
    · rw [if_neg few]
      exact sendBulk_port _ _ a

theorem target_port (targetTsc : Nat) (a : RlPadAnswers) :
    exists late, forall warmUpPads preArmed,
      ((s.target cfg targetTsc a).1.port, (s.target cfg targetTsc a).2) =
        videoTrsRlTarget cfg.toTrsConfig s.port targetTsc (a.outline warmUpPads preArmed late) := by
  unfold RlPadPort.target videoTrsRlTarget
  by_cases some_ : 0 < s.port.trsPadInflightNum
  · refine ⟨0, fun _ _ => ?_⟩
    rw [if_pos some_, if_pos some_]
    rfl
  · rw [if_neg some_]
    simp only [if_neg some_]
    by_cases waits : s.port.rlState = .waitTarget
    · rw [if_pos waits]
      simp only [if_pos waits]
      cases reached : videoTrsRlTargetReached a.targetTsc targetTsc with
      | false =>
        refine ⟨0, fun warmUpPads preArmed => ?_⟩
        rw [show videoTrsRlTargetReached (a.outline warmUpPads preArmed 0).targetTsc targetTsc = false from reached]
        rfl
      | true =>
        rcases @send_port cfg s.setIdle a with ⟨late, same⟩
        refine ⟨late, fun warmUpPads preArmed => ?_⟩
        rw [show videoTrsRlTargetReached (a.outline warmUpPads preArmed late).targetTsc targetTsc = true
          from reached]
        exact same warmUpPads preArmed
    · rw [if_neg waits]
      simp only [if_neg waits]
      exact send_port s a

theorem frameStart_port :
    exists preArmed refused,
      (s.frameStart cfg a).port = videoTrsRlFrameStart cfg.toTrsConfig s.port preArmed refused := by
  unfold RlPadPort.frameStart videoTrsRlFrameStart
  by_cases armed : cfg.armed = true
  · rw [armed]
    rcases (@PadsQueued.preArm cfg s a.preArm).port with ⟨refused, queued⟩
    generalize videoTrsRlPreArm cfg s a.preArm = result at queued
    rcases result with ⟨mid, through⟩
    refine ⟨through, refused, ?_⟩
    cases through with
    | false => exact congrArg (fun port : TrsPort => { port with rlState := .waitTarget }) queued
    | true => exact congrArg (fun port : TrsPort => { port with rlState := .idle, trsTargetTsc := 0 }) queued
  · rw [Bool.not_eq_true] at armed
    rw [armed]
    rcases (@PadsQueued.warmUp cfg s a.warmUp).port with ⟨refused, queued⟩
    exact ⟨false, refused, congrArg (fun port : TrsPort => { port with rlState := .waitTarget }) queued⟩

theorem taskletOnce_port :
    exists outline, ((s.taskletOnce cfg a).1.port, (s.taskletOnce cfg a).2) =
      videoTrsRlTaskletOnce cfg.toTrsConfig s.port outline := by
  unfold RlPadPort.taskletOnce videoTrsRlTaskletOnce
  by_cases second : 0 < s.port.trsInflight2.num
  · refine ⟨a.outline 0 false 0, ?_⟩
    rw [if_pos second, if_pos second]
    rfl
  · rw [if_neg second]
    simp only [if_neg second]
    by_cases waits : s.port.rlState = .waitWarmup
    · rw [if_pos waits]
      simp only [if_pos waits]
      generalize warmUp : (if s.port.trsTargetTsc > cfg.warmUpNs then s.port.trsTargetTsc - cfg.warmUpNs else 0) =
        warmUpTsc
      cases reached : videoTrsRlTargetReached a.warmUpTsc warmUpTsc with
      | false =>
        refine ⟨a.outline 0 false 0, ?_⟩
        rw [show videoTrsRlTargetReached (a.outline 0 false 0).warmUpTsc warmUpTsc = false from reached]
        rfl
      | true =>
        rcases @frameStart_port cfg s a with ⟨preArmed, refused, started⟩
        rcases @target_port cfg (s.frameStart cfg a) s.port.trsTargetTsc a with ⟨late, same⟩
        refine ⟨a.outline refused preArmed late, ?_⟩
        rw [show videoTrsRlTargetReached (a.outline refused preArmed late).warmUpTsc warmUpTsc = true from reached]
        rw [started] at same
        exact same refused preArmed
    · rw [if_neg waits]
      simp only [if_neg waits]
      rcases @target_port cfg s s.port.trsTargetTsc a with ⟨late, same⟩
      exact ⟨a.outline 0 false late, same 0 false⟩

end

end

/-- The same bulk, or a pass of both. -/
inductive RlPadInput.Outlines : RlPadInput -> TrsInput -> Prop where
  | enqueue (pkts : List TrsMbuf) : Outlines (.enqueue pkts) (.enqueue pkts)
  | pass (a again : RlPadAnswers) (first second : RlAnswers) : Outlines (.pass a again) (.rlPass first second)

theorem rlPadStep_port (rl : cfg.tasklet = .rl) (s : RlPadPort) (input : RlPadInput) :
    exists outline, input.Outlines outline ∧
      (rlPadStep cfg s input).port = trsStep cfg.toTrsConfig s.port outline := by
  cases input with
  | enqueue pkts => exact ⟨.enqueue pkts, .enqueue pkts, rfl⟩
  | pass a again =>
    rcases @taskletOnce_port cfg s a with ⟨first, same⟩
    rcases @taskletOnce_port cfg (s.taskletOnce cfg a).1 again with ⟨second, same'⟩
    refine ⟨.rlPass first second, .pass a again first second, ?_⟩
    have whole : trsStep cfg.toTrsConfig s.port (.rlPass first second) =
        videoTrsRlTasklet cfg.toTrsConfig s.port first second := by
      unfold trsStep
      rw [rl]
    rw [whole]
    unfold videoTrsRlTasklet
    rw [<- same]
    show (RlPadPort.tasklet cfg s a again).port = _
    unfold RlPadPort.tasklet
    dsimp only
    split
    · exact congrArg Prod.fst same'
    · rfl

/-! ## When the pads are right -/

theorem rlPadStep_counted {s : RlPadPort} (counted : PadsCounted s) (input : RlPadInput) :
    PadsCounted (rlPadStep cfg s input) := by
  cases input with
  | enqueue pkts => exact counted.port _ rfl
  | pass a again =>
    have first := @PadsCounted.taskletOnce cfg _ counted a
    unfold rlPadStep RlPadPort.tasklet
    dsimp only
    split
    · exact first.taskletOnce again
    · exact first

theorem rlPadStep_inFront {s : RlPadPort} (counted : PadsCounted s) (right : PadsInFront s)
    {input : RlPadInput} (steady : input.Steady) : PadsInFront (rlPadStep cfg s input) := by
  cases input with
  | enqueue pkts => exact ⟨right.jumped, right.second⟩
  | pass a again =>
    have first := @PadsInFront.taskletOnce cfg _ right counted _ steady.1
    unfold rlPadStep RlPadPort.tasklet
    dsimp only
    split
    · exact first.taskletOnce (counted.taskletOnce a) steady.2
    · exact first

/-- For every run of the tasklet, whatever the clock and the queue answer: the references on each pad are
those of the pads that were accepted or are owed, and each pad that was refused was sent again once or is
owed; and no first packet of a frame is given to the queue while a pad in front of a frame is owed, when the
clock does not go back while a late frame is sent. -/
theorem rl_pads_counted_and_in_front (cfg : RlPadConfig) (inputs : List RlPadInput) :
    PadsCounted (run (rlPadStep cfg) rlPadInit inputs) ∧
      ((∀ input ∈ inputs, input.Steady) ->
        (run (rlPadStep cfg) rlPadInit inputs).jumped = false) := by
  have start : PadsCounted rlPadInit :=
    { normal := rfl, coarse := rfl, fine := rfl, refused := rfl, waiting := rfl }
  constructor
  · exact run_invariant _ (fun _ _ => True) PadsCounted (fun s input counted _ => rlPadStep_counted counted input)
      start (admitted_of_forall _ fun _ _ => trivial)
  · intro steady
    have both := run_invariant (rlPadStep cfg) (fun _ input => input.Steady)
      (fun s => PadsCounted s ∧ PadsInFront s)
      (fun s input right steady => ⟨rlPadStep_counted right.1 input, rlPadStep_inFront right.1 right.2 steady⟩)
      ⟨start, rfl, rfl⟩ (admitted_of_forall _ steady)
    exact both.2.jumped

/-- A port that holds its frames, with a packet each microsecond. -/
def holdingPort : RlPadConfig where
  tasklet := .rl
  bulk := 1
  armed := false
  warmUpNs := 1000
  padDue := fun _ _ => false
  bulk_pos := Nat.one_pos
  bulk_le := Nat.succ_le_succ (Nat.zero_le 3)
  trs := 1000
  warmPkts := 1
  padNs := 0
  bucketNs := 0
  padSize := 0
  trs_pos := by norm_num
  warmUp_eq := by
    norm_num
    rfl
  padNs_pos := fun armed => by cases armed

/-- The same with three packets to warm up. -/
def warmingPort : RlPadConfig :=
  { holdingPort with
    warmUpNs := 3000
    warmPkts := 3
    warmUp_eq := by
      norm_num [holdingPort]
      rfl }

/-- A frame for 8000 waits from 4000 on, is warmed up from 5000 on and is sent at 8000. The queue takes one
pad of three, and the others when they are sent again. -/
def warmedFrame : RlPadAnswers where
  inflight2Tx := 0
  warmUpTsc := 5000
  warmUp := ⟨fun sent => 5000 + 100 * sent, fun sent => sent % 2⟩
  preArm := ⟨0, fun _ => 0, fun _ => 0, fun _ => 0⟩
  padTx := 1
  targetTsc := 8000
  inflightTx := 1
  curTsc := 4000
  beforeTx := 0
  beforePadTx := 0
  late := ⟨fun _ => 4000, fun _ => 0⟩
  bulkTx := 1
  bulkPadTx := 0

theorem warmed_frame_behind_pads :
    let inputs := .enqueue [⟨1, 0, 8000, 8000⟩] :: List.replicate 3 (.pass warmedFrame warmedFrame)
    let s := run (rlPadStep warmingPort) rlPadInit inputs
    (PadsCounted s ∧ s.jumped = false) ∧
      s.refused = List.replicate 2 ⟨.normal, .warmUp⟩ ∧ s.retried = s.refused ∧ s.normal = ⟨4, 3⟩ ∧
      s.port.sent.length = 1 := by
  intro inputs s
  have right := rl_pads_counted_and_in_front warmingPort inputs
  refine ⟨⟨right.1, right.2 ?_⟩, by decide +kernel⟩
  intro input member
  rcases List.mem_cons.mp member with rfl | pass
  · trivial
  · rw [List.eq_of_mem_replicate pass]
    exact ⟨⟨le_rfl, by decide⟩, ⟨le_rfl, by decide⟩⟩

/-- A frame is found late, then the clock goes back by half a packet; the queue takes no pad. -/
def clockGoesBack : RlPadAnswers where
  inflight2Tx := 0
  warmUpTsc := 0
  warmUp := ⟨fun _ => 0, fun _ => 0⟩
  preArm := ⟨0, fun _ => 0, fun _ => 0, fun _ => 0⟩
  padTx := 0
  targetTsc := 0
  inflightTx := 0
  curTsc := 5000
  beforeTx := 0
  beforePadTx := 0
  late := ⟨fun _ => 4500, fun _ => 0⟩
  bulkTx := 1
  bulkPadTx := 0

/-- The first packet of the frame is given to the queue while the pad of its warm-up is owed. -/
theorem late_frame_jumps_pad :
    ¬ (PadsCounted (run (rlPadStep holdingPort) rlPadInit
        [.enqueue [⟨1, 0, 5000, 5000⟩], .pass clockGoesBack clockGoesBack]) ∧
      (run (rlPadStep holdingPort) rlPadInit
        [.enqueue [⟨1, 0, 5000, 5000⟩], .pass clockGoesBack clockGoesBack]).jumped = false) := by
  rintro ⟨-, fair⟩
  revert fair
  decide +kernel

/-- Every run ends in the port of a run without the pads' buffers, with the same bulks.  So nothing is lost or
reordered and no dummy is sent, where each bulk is one of the builder and has no dummy behind the first packet
of a frame. -/
theorem rl_pads_lose_nothing (cfg : RlPadConfig) (rl : cfg.tasklet = .rl) (inputs : List RlPadInput) :
    (exists outlines, List.Forall₂ RlPadInput.Outlines inputs outlines ∧
      (run (rlPadStep cfg) rlPadInit inputs).port = run (trsStep cfg.toTrsConfig) trsInit outlines) ∧
    ((forall bulk, .enqueue bulk ∈ inputs -> BuilderBulk cfg.toTrsConfig bulk ∧ StartsClean bulk) ->
      (run (rlPadStep cfg) rlPadInit inputs).port.LosesNothing) := by
  rcases run_refinement (rlPadStep cfg) rlPadInit (trsStep cfg.toTrsConfig) RlPadPort.port
    RlPadInput.Outlines (rlPadStep_port rl) inputs with ⟨outlines, outlined, reached⟩
  refine ⟨⟨outlines, outlined, reached⟩, fun built => ?_⟩
  have clean : ∀ outline ∈ outlines,
      TrsBuilt cfg.toTrsConfig outline ∧ TrsStartsClean cfg.toTrsConfig outline := by
    clear reached
    induction outlined with
    | nil => exact fun _ absurd => by cases absurd
    | @cons input outline inputs outlines head _ ih =>
      intro other member
      rcases List.mem_cons.mp member with rfl | later
      · cases head with
        | enqueue pkts => exact ⟨(built pkts List.mem_cons_self).1, fun _ => (built pkts List.mem_cons_self).2⟩
        | pass a again first second => exact ⟨trivial, trivial⟩
      · exact ih (fun bulk member => built bulk (List.mem_cons_of_mem input member)) other later
  have right := run_invariant (trsStep cfg.toTrsConfig) _ (TrsPort.Right cfg.toTrsConfig)
    (fun _ _ right guards => trsStep_right right guards.1 guards.2) (trsInit_right _)
    (admitted_of_forall (trsStep cfg.toTrsConfig) clean)
  rw [reached]
  rcases right.kept with ⟨handled, kept⟩
  have ring := kept.ring
  rw [List.append_nil] at ring
  exact ⟨⟨handled, ring, kept.order, kept.freed⟩, kept.untouched⟩

/-- A late frame, whose pad the queue refuses and accepts in the next pass. -/
theorem late_frame_kept :
    let inputs := [.enqueue [⟨1, 0, 5000, 5000⟩], .pass clockGoesBack clockGoesBack,
      .pass { clockGoesBack with padTx := 1 } clockGoesBack]
    (run (rlPadStep holdingPort) rlPadInit inputs).port.LosesNothing ∧
      (run (rlPadStep holdingPort) rlPadInit inputs).retried.length = 1 := by
  intro inputs
  refine ⟨(rl_pads_lose_nothing holdingPort rfl inputs).2 ?_, by decide +kernel⟩
  intro bulk member
  simp [inputs] at member
  rw [member]
  decide

end MediaTransport.Video
