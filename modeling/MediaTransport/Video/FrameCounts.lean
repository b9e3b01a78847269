import MediaTransport.Video.Pacing

namespace MediaTransport.Video

open Library

/-!
# Frame counts of the video transmit session

The counts increase from frame to frame while the clock does not fall back by
more than the session may run ahead.  What the clock has run ahead is counted
as dropped before the field's parity is looked at, so a field that waits for
its parity is no drop.
-/

/-! ## The rule -/

def TvPacingConfig.Resyncs (cfg : TvPacingConfig) (previous clock : Nat) : Prop :=
  clock + cfg.maxOnwardEpochs.toNat < previous + 1

instance (cfg : TvPacingConfig) (previous clock : Nat) : Decidable (cfg.Resyncs previous clock) :=
  inferInstanceAs (Decidable (_ < _))

def TvPacingConfig.countInTurn (cfg : TvPacingConfig) (previous clock : Nat) : Nat :=
  if previous + 1 < clock ∨ cfg.Resyncs previous clock then clock else previous + 1

def TvPacingConfig.AlignsFields (cfg : TvPacingConfig) : Prop :=
  cfg.interlaced = true ∧ cfg.fieldParityKnown = true

instance (cfg : TvPacingConfig) : Decidable cfg.AlignsFields := inferInstanceAs (Decidable (_ ∧ _))

def TvPacingConfig.alignField (cfg : TvPacingConfig) (secondField : Bool) (count : Nat) : Nat :=
  if cfg.AlignsFields ∧ count % 2 ≠ fieldParity secondField then count + 1 else count

def TvPacingConfig.CountsFollow (cfg : TvPacingConfig) : Nat -> List PacedFrame -> Prop
  | _, [] => True
  | previous, frame :: rest =>
    frame.count = cfg.alignField frame.secondField (cfg.countInTurn previous frame.clock) ∧
      cfg.CountsFollow frame.count rest

/-- Each count is above the one before; at a start from the clock's time it is the first from there on
that suits the field. -/
def TvPacingConfig.CountsIncrease (cfg : TvPacingConfig) : Nat -> List PacedFrame -> Prop
  | _, [] => True
  | previous, frame :: rest =>
    (if cfg.Resyncs previous frame.clock then
      frame.count = cfg.alignField frame.secondField frame.clock
    else
      previous < frame.count) ∧
      cfg.CountsIncrease frame.count rest

def totalLate : Nat -> List PacedFrame -> Nat
  | _, [] => 0
  | previous, frame :: rest => (frame.clock - (previous + 1)) + totalLate frame.count rest

/-- What the count in turn is ahead of the clock when it is given up. -/
def TvPacingConfig.stepBack (cfg : TvPacingConfig) (previous clock : Nat) : Nat :=
  if cfg.Resyncs previous clock then previous + 1 - clock else 0

def TvPacingConfig.totalBack (cfg : TvPacingConfig) : Nat -> List PacedFrame -> Nat
  | _, [] => 0
  | previous, frame :: rest => cfg.stepBack previous frame.clock + cfg.totalBack frame.count rest

variable {cfg : TvPacingConfig}

theorem countInTurn_gt {previous clock : Nat} (follows : ¬ cfg.Resyncs previous clock) :
    previous < cfg.countInTurn previous clock := by
  unfold TvPacingConfig.countInTurn
  by_cases late : previous + 1 < clock
  · rw [if_pos (Or.inl late)]
    exact Nat.lt_of_succ_lt late
  · rw [if_neg (fun either => either.elim late follows)]
    exact Nat.lt_succ_self previous

theorem countInTurn_le (cfg : TvPacingConfig) (previous clock : Nat) :
    cfg.countInTurn previous clock ≤ clock + cfg.maxOnwardEpochs.toNat := by
  unfold TvPacingConfig.countInTurn
  split
  · exact Nat.le_add_right _ _
  · next inTurn => exact Nat.not_lt.mp (fun back => inTurn (Or.inr back))

theorem le_alignField (cfg : TvPacingConfig) (secondField : Bool) (count : Nat) :
    count ≤ cfg.alignField secondField count ∧ cfg.alignField secondField count ≤ count + 1 := by
  unfold TvPacingConfig.alignField
  split
  · exact ⟨Nat.le_succ count, Nat.le_refl _⟩
  · exact ⟨Nat.le_refl _, Nat.le_succ count⟩

theorem alignField_parity (aligns : cfg.AlignsFields) (secondField : Bool) (count : Nat) :
    cfg.alignField secondField count % 2 = fieldParity secondField := by
  have bound : fieldParity secondField < 2 := by cases secondField <;> decide
  unfold TvPacingConfig.alignField
  by_cases differs : count % 2 ≠ fieldParity secondField
  · rw [if_pos ⟨aligns, differs⟩]
    omega
  · rw [if_neg (fun both => differs both.2)]
    exact not_not.mp differs

theorem TvPacingConfig.CountsFollow.increase {previous : Nat} {frames : List PacedFrame}
    (follow : cfg.CountsFollow previous frames) : cfg.CountsIncrease previous frames := by
  induction frames generalizing previous with
  | nil => trivial
  | cons frame rest ih =>
    refine ⟨?_, ih follow.2⟩
    by_cases back : cfg.Resyncs previous frame.clock
    · rw [if_pos back]
      have inTurn : cfg.countInTurn previous frame.clock = frame.clock := if_pos (Or.inr back)
      rw [follow.1, inTurn]
    · rw [if_neg back, follow.1]
      exact Nat.lt_of_lt_of_le (countInTurn_gt back) (le_alignField cfg _ _).1

theorem TvPacingConfig.CountsFollow.parity (aligns : cfg.AlignsFields) {previous : Nat} {frames : List PacedFrame}
    (follow : cfg.CountsFollow previous frames) :
    ∀ frame ∈ frames, frame.count % 2 = fieldParity frame.secondField := by
  induction frames generalizing previous with
  | nil =>
    intro frame absurd
    cases absurd
  | cons newest rest ih =>
    intro frame member
    rcases List.mem_cons.mp member with rfl | later
    · rw [follow.1]
      exact alignField_parity aligns _ _
    · exact ih follow.2 frame later

def lastCount : Nat -> List PacedFrame -> Nat
  | first, [] => first
  | _, frame :: rest => lastCount frame.count rest

section

variable (previous : Nat) (frames : List PacedFrame) (frame : PacedFrame)

theorem countsFollow_concat :
    cfg.CountsFollow previous (frames ++ [frame]) <->
      cfg.CountsFollow previous frames ∧ frame.count =
        cfg.alignField frame.secondField (cfg.countInTurn (lastCount previous frames) frame.clock) := by
  induction frames generalizing previous with
  | nil => simp [TvPacingConfig.CountsFollow, lastCount]
  | cons first rest ih => simp only [List.cons_append, TvPacingConfig.CountsFollow, ih, lastCount, and_assoc]

theorem lastCount_concat :
    lastCount previous (frames ++ [frame]) = frame.count := by
  induction frames generalizing previous with
  | nil => rfl
  | cons first rest ih => exact ih first.count

theorem totalLate_concat :
    totalLate previous (frames ++ [frame]) =
      totalLate previous frames + (frame.clock - (lastCount previous frames + 1)) := by
  induction frames generalizing previous with
  | nil => simp [totalLate, lastCount]
  | cons first rest ih => simp only [List.cons_append, totalLate, ih, lastCount, Nat.add_assoc]

theorem totalBack_concat :
    cfg.totalBack previous (frames ++ [frame]) =
      cfg.totalBack previous frames + cfg.stepBack (lastCount previous frames) frame.clock := by
  induction frames generalizing previous with
  | nil => simp [TvPacingConfig.totalBack, lastCount]
  | cons first rest ih =>
    simp only [List.cons_append, TvPacingConfig.totalBack, ih, lastCount, Nat.add_assoc]

end

/-! ## A frame -/

variable {s : TvPacer}

def SmallCount (count : Nat) : Prop := count ≤ 10000000000000 + 4294967296

theorem clockCount_le (cfg : TvPacingConfig) (ptpTime : BitVec 64) :
    stTaiToEpoch ptpTime.toNat cfg.fpsTm ≤ 9000000000000 := by
  unfold stTaiToEpoch u64
  refine Nat.le_trans (Nat.mod_le _ _) ?_
  apply Nat.div_le_of_le_mul
  unfold TvPacingConfig.fpsTm nsPerS
  cases cfg.fps <;> simp only [stGetFpsTiming] <;> omega

theorem calcFrameCountSinceEpoch_spec (small : SmallCount s.pacing.curEpochs) (curTai : Nat) :
    let clock := stTaiToEpoch curTai s.cfg.fpsTm
    (calcFrameCountSinceEpoch s curTai 0).2 = s.cfg.countInTurn s.pacing.curEpochs clock ∧
      (calcFrameCountSinceEpoch s curTai 0).1 = { s with stats :=
        { s.stats with
          epochDrop := s.stats.epochDrop + (clock - (s.pacing.curEpochs + 1))
          epochOnward := s.stats.epochOnward + s.cfg.stepBack s.pacing.curEpochs clock } } := by
  intro clock
  unfold SmallCount at small
  have inside : ¬ s.pacing.curEpochs = uint64Max := by
    unfold uint64Max
    omega
  have wrap : u64 (s.pacing.curEpochs + 1) = s.pacing.curEpochs + 1 := Nat.mod_eq_of_lt (by omega)
  unfold calcFrameCountSinceEpoch TvPacingConfig.stepBack
  simp only [ne_eq, not_true_eq_false, if_false, inside, wrap]
  by_cases ahead : clock ≤ s.pacing.curEpochs + 1
  · have early : clock - (s.pacing.curEpochs + 1) = 0 := Nat.sub_eq_zero_of_le ahead
    rw [if_pos ahead]
    by_cases far : s.pacing.curEpochs + 1 - clock > s.cfg.maxOnwardEpochs.toNat
    · have back : s.cfg.Resyncs s.pacing.curEpochs clock := by
        unfold TvPacingConfig.Resyncs
        omega
      rw [if_pos far, if_pos back, early]
      exact ⟨(if_pos (Or.inr back)).symm, rfl⟩
    · have close : ¬ s.cfg.Resyncs s.pacing.curEpochs clock := by
        unfold TvPacingConfig.Resyncs
        omega
      have inTurn : ¬ (s.pacing.curEpochs + 1 < clock ∨ s.cfg.Resyncs s.pacing.curEpochs clock) :=
        fun either => either.elim (Nat.not_lt.mpr ahead) close
      rw [if_neg far, if_neg close, early]
      exact ⟨(if_neg inTurn).symm, rfl⟩
  · have late : s.pacing.curEpochs + 1 < clock := Nat.not_le.mp ahead
    have close : ¬ s.cfg.Resyncs s.pacing.curEpochs clock := by
      unfold TvPacingConfig.Resyncs
      omega
    rw [if_neg ahead, if_neg close]
    exact ⟨(if_pos (Or.inl late)).symm, rfl⟩

theorem tvPaceFrame_spec (paced : s.cfg.userPacing = false) (small : SmallCount s.pacing.curEpochs)
    (input : TvFrameInput) :
    let clock := stTaiToEpoch input.ptpTime.toNat s.cfg.fpsTm
    let count := s.cfg.alignField input.secondField (s.cfg.countInTurn s.pacing.curEpochs clock)
    let after := tvPaceFrame s input
    after.cfg = s.cfg ∧ after.pacing.curEpochs = count ∧
      after.stats.epochDrop = s.stats.epochDrop + (clock - (s.pacing.curEpochs + 1)) ∧
      after.stats.epochOnward = s.stats.epochOnward + s.cfg.stepBack s.pacing.curEpochs clock ∧
      after.paced = s.paced ++ [⟨clock, input.secondField, count⟩] := by
  intro clock count after
  have within := countInTurn_le s.cfg s.pacing.curEpochs clock
  have clocks : clock ≤ 9000000000000 := clockCount_le s.cfg input.ptpTime
  have wrap : u64 (s.cfg.countInTurn s.pacing.curEpochs clock + 1) =
      s.cfg.countInTurn s.pacing.curEpochs clock + 1 := Nat.mod_eq_of_lt (by omega)
  rcases calcFrameCountSinceEpoch_spec small input.ptpTime.toNat with ⟨counted, stats⟩
  rcases move : calcFrameCountSinceEpoch s input.ptpTime.toNat 0 with ⟨next, inTurn⟩
  rw [move] at counted stats
  dsimp only at counted stats
  have aligned : (if (s.cfg.interlaced && s.cfg.fieldParityKnown &&
      decide (inTurn % 2 ≠ fieldParity input.secondField)) = true then u64 (inTurn + 1) else inTurn) =
      count := by
    rw [counted, wrap]
    simp only [Bool.and_eq_true, decide_eq_true_eq]
    rfl
  have same : next.cfg = s.cfg := by rw [stats]
  simp only [after, tvPaceFrame, tvPacingRequiredTai, paced, Bool.not_false, if_true, tvSyncPacing,
    move, ne_eq, not_true_eq_false, decide_false, Bool.and_false, Bool.and_true,
    tvUpdateRtpTimeStamp, same]
  simp only [ne_eq] at aligned
  rw [aligned, stats]
  exact ⟨trivial, rfl, rfl, rfl, rfl⟩

/-! ## Runs -/

/-- The frames so far have counts by the rule, and what was late or stepped back is counted. -/
structure TvPacer.Follows (s : TvPacer) (first : Nat) : Prop where
  counts : s.cfg.CountsFollow first s.paced
  last : s.pacing.curEpochs = lastCount first s.paced
  small : SmallCount s.pacing.curEpochs
  drop : s.stats.epochDrop = totalLate first s.paced
  onward : s.stats.epochOnward = s.cfg.totalBack first s.paced

theorem TvPacer.Follows.step {first : Nat} (follows : s.Follows first)
    (paced : s.cfg.userPacing = false) (input : TvFrameInput) :
    (tvPaceFrame s input).Follows first := by
  rcases tvPaceFrame_spec paced follows.small input with ⟨cfg, count, drop, onward, frames⟩
  have clocks := clockCount_le s.cfg input.ptpTime
  have within := countInTurn_le s.cfg s.pacing.curEpochs
    (stTaiToEpoch input.ptpTime.toNat s.cfg.fpsTm)
  have aligned := (le_alignField s.cfg input.secondField (s.cfg.countInTurn s.pacing.curEpochs
    (stTaiToEpoch input.ptpTime.toNat s.cfg.fpsTm))).2
  refine ⟨?_, ?_, ?_, ?_, ?_⟩
  · rw [cfg, frames, countsFollow_concat, ← follows.last]
    exact ⟨follows.counts, rfl⟩
  · rw [count, frames, lastCount_concat]
  · unfold SmallCount
    rw [count]
    omega
  · rw [drop, frames, totalLate_concat, follows.drop, follows.last]
  · rw [onward, cfg, frames, totalBack_concat, follows.onward, follows.last]

theorem follows_run (cfg : TvPacingConfig) (paced : cfg.userPacing = false) (ptpTime : BitVec 64)
    (inputs : List TvFrameInput) :
    (run tvPaceFrame (tvPacerInit cfg ptpTime) inputs).cfg = cfg ∧
      (run tvPaceFrame (tvPacerInit cfg ptpTime) inputs).Follows
        (stTaiToEpoch ptpTime.toNat cfg.fpsTm) := by
  have start : (tvPacerInit cfg ptpTime).Follows (stTaiToEpoch ptpTime.toNat cfg.fpsTm) :=
    ⟨trivial, rfl, Nat.le_trans (clockCount_le cfg ptpTime) (by omega), rfl, rfl⟩
  refine run_invariant tvPaceFrame (fun _ _ => True)
    (fun s => s.cfg = cfg ∧ s.Follows (stTaiToEpoch ptpTime.toNat cfg.fpsTm)) ?_ ⟨rfl, start⟩
    (admitted_of_forall tvPaceFrame (fun _ _ => trivial))
  rintro s input ⟨rfl, follows⟩ _
  exact ⟨(tvPaceFrame_spec paced follows.small input).1, follows.step paced input⟩

theorem paced_inputs {first : Nat} (follows : s.Follows first) (paced : s.cfg.userPacing = false)
    (inputs : List TvFrameInput) :
    (run tvPaceFrame s inputs).paced.map (fun frame => (frame.clock, frame.secondField)) =
      s.paced.map (fun frame => (frame.clock, frame.secondField)) ++
        inputs.map (fun input => (stTaiToEpoch input.ptpTime.toNat s.cfg.fpsTm, input.secondField)) := by
  induction inputs generalizing s with
  | nil => simp
  | cons input rest ih =>
    rcases tvPaceFrame_spec paced follows.small input with ⟨cfg, -, -, -, frames⟩
    rw [run_cons, ih (follows.step paced input) (by rw [cfg]; exact paced), frames, cfg]
    simp

/-- In every run without pacing by the application: each frame has the count the rule gives it for
the clock and its field, so the counts increase except where they start again from the clock's time,
and fields have counts of their parity where the parity is known; what the clock ran ahead of the
count in turn is dropped, and what that count was ahead of the clock at a new start is counted. -/
theorem frame_counts_follow (cfg : TvPacingConfig) (paced : cfg.userPacing = false)
    (ptpTime : BitVec 64) (inputs : List TvFrameInput) :
    let s := run tvPaceFrame (tvPacerInit cfg ptpTime) inputs
    let first := stTaiToEpoch ptpTime.toNat cfg.fpsTm
    s.paced.map (fun frame => (frame.clock, frame.secondField)) =
      inputs.map (fun input => (stTaiToEpoch input.ptpTime.toNat cfg.fpsTm, input.secondField)) ∧
    cfg.CountsFollow first s.paced ∧ cfg.CountsIncrease first s.paced ∧
    s.stats.epochDrop = totalLate first s.paced ∧
    s.stats.epochOnward = cfg.totalBack first s.paced ∧
    (cfg.interlaced = true -> cfg.fieldParityKnown = true -> ∀ frame ∈ s.paced,
      frame.count % 2 = fieldParity frame.secondField) := by
  intro s first
  rcases follows_run cfg paced ptpTime inputs with ⟨same, follows⟩
  rcases follows_run cfg paced ptpTime [] with ⟨-, start⟩
  have counts := follows.counts
  have onward := follows.onward
  rw [same] at counts onward
  refine ⟨paced_inputs start paced inputs, counts, counts.increase, follows.drop, onward, ?_⟩
  intro interlaced known
  exact counts.parity ⟨interlaced, known⟩

/-- Fields of an interlaced video, fifty in a second. -/
def fiftyFields : TvPacingConfig where
  interlaced := true
  userPacing := false
  exactUserPacing := false
  userTimestamp := false
  rtpTimestampEpoch := false
  rtpTimestampDeltaUs := 0
  isSt22 := false
  hasSt22Info := false
  fps := .p50
  maxOnwardEpochs := 50
  maxFutureEpochs := 50
  warmUpLeadNs := 0
  offsetStart := fun tai => tai
  st10MediaClkToTai := fun anchor _ => anchor

def fieldAt (ptpTime : BitVec 64) (secondField : Bool) : TvFrameInput :=
  ⟨ptpTime, ptpTime, secondField, .tai, 0, ptpTime⟩

/-- A field in time and one that is late and then waits for its parity. -/
theorem two_fields_counted :
    let s := run tvPaceFrame (tvPacerInit fiftyFields 40000000000)
      [fieldAt 40000000000 true, fieldAt 40180000000 true]
    s.paced.map PacedFrame.count = [2001, 2009] ∧
      fiftyFields.CountsIncrease 2000 s.paced ∧
      ∀ frame ∈ s.paced, frame.count % 2 = fieldParity frame.secondField :=
  ⟨by decide +kernel,
    (frame_counts_follow fiftyFields rfl 40000000000
      [fieldAt 40000000000 true, fieldAt 40180000000 true]).2.2.1,
    (frame_counts_follow fiftyFields rfl 40000000000
      [fieldAt 40000000000 true, fieldAt 40180000000 true]).2.2.2.2.2 rfl rfl⟩

/-- A late first field skips nine counts, of which eight are counted as dropped, and a second field of
an ST 2110-22 session in packet mode gets an even count. -/
theorem late_field_waits :
    let s := run tvPaceFrame (tvPacerInit fiftyFields 40000000000) [fieldAt 40180000000 false]
    let st22 := run tvPaceFrame (tvPacerInit { fiftyFields with isSt22 := true } 40000000000)
      [fieldAt 40040000000 true]
    s.paced.map PacedFrame.count = [2010] ∧ s.stats.epochDrop = 8 ∧
      s.stats.epochDrop ≠ 2010 - (2000 + 1) ∧
      st22.paced.map PacedFrame.count = [2002] ∧ 2002 % 2 ≠ fieldParity true := by
  decide +kernel

end MediaTransport.Video
