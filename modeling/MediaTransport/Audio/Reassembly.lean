import MediaTransport.Audio.Assembly
import MediaTransport.Library.Run

namespace MediaTransport.Audio

open Library Util Relation

/-!
# Reassembly of audio frames

The frame level handler moves the assembly machine: it seeds the grid, opens a
frame where the packet's timestamp lies on it, fills a slot and closes a frame
that is full or that the packet does not belong to.  So every frame that is
closed in a run is what the packets accepted since its opening say.
-/

/-! ## The assembly of a session -/

variable (s : RxAudioSession) {layout : AudioLayout} (idx : Nat)

def RxAudioSession.assembly : AudioAssembly where
  addr := fun idx => (s.frames idx).addr
  curFrame := s.curFrame
  filled := fun slot => mtBitmapTest s.frameBitmap slot
  recvSize := s.frameRecvSize
  base := s.firstPktRtpTs
  tmstamp := s.tmstamp
  events := s.events

/-- The session works with the sizes of the layout. -/
structure RxAudioSession.HasLayout (s : RxAudioSession) (layout : AudioLayout) : Prop where
  type : s.ops.type = .frameLevel
  receiveIncomplete : s.ops.receiveIncompleteFrame = layout.receiveIncomplete
  pktLen : s.pktLen = layout.pktLen
  totalPkts : s.totalPkts = layout.totalPkts
  frameSize : s.frameSize = layout.frameSize
  ticks : s.rtpTicksPerFrame = layout.ticks
  samples : s.samplesPerPkt = layout.samplesPerPkt
  room : layout.totalPkts ≤ 8 * s.frameBitmap.length

/-- The session moved on with its sizes kept. -/
structure Reaches (layout : AudioLayout) (s t : RxAudioSession) : Prop where
  sized : t.HasLayout layout
  moves : ReflTransGen (AssemblyMove layout) s.assembly t.assembly

/-- Nothing that assembly uses has changed. -/
structure SameAssembly (s t : RxAudioSession) : Prop where
  assembly : t.assembly = s.assembly
  kept : forall layout, s.HasLayout layout -> t.HasLayout layout

theorem SameAssembly.refl : SameAssembly s s := ⟨rfl, fun _ has => has⟩

theorem SameAssembly.trans {s t u : RxAudioSession} (first : SameAssembly s t)
    (second : SameAssembly t u) : SameAssembly s u :=
  ⟨second.assembly.trans first.assembly, fun layout has => second.kept layout (first.kept layout has)⟩

theorem SameAssembly.reaches {s t : RxAudioSession} {layout : AudioLayout}
    (same : SameAssembly s t) (has : s.HasLayout layout) : Reaches layout s t where
  sized := same.kept layout has
  moves := by rw [same.assembly]

theorem Reaches.trans {s t u : RxAudioSession} {layout : AudioLayout} (first : Reaches layout s t)
    (second : Reaches layout t u) : Reaches layout s u :=
  ⟨second.sized, first.moves.trans second.moves⟩

theorem sameAssembly_refcnt (refcnt : Int) :
    SameAssembly s (s.setFrame idx { s.frames idx with refcnt := refcnt }) where
  assembly := by
    have bytes : (fun other => (Function.update s.frames idx
        { s.frames idx with refcnt := refcnt } other).addr) = fun other => (s.frames other).addr := by
      funext other
      by_cases same : other = idx
      · rw [same, Function.update_self]
      · rw [Function.update_of_ne same]
    simp only [RxAudioSession.assembly, RxAudioSession.setFrame, bytes]
  kept layout has := ⟨has.type, has.receiveIncomplete, has.pktLen, has.totalPkts, has.frameSize,
    has.ticks, has.samples, has.room⟩

theorem st30RxPutFramebuff_same : SameAssembly s (st30RxPutFramebuff s idx) := by
  unfold st30RxPutFramebuff
  split
  · exact sameAssembly_refcnt s idx _
  · exact SameAssembly.refl s

theorem putFramebuffs_same (frames : List Nat) : SameAssembly s (putFramebuffs s frames) := by
  induction frames generalizing s with
  | nil => exact SameAssembly.refl s
  | cons idx rest ih => exact (st30RxPutFramebuff_same s idx).trans (ih _)

theorem rxAudioScanFrames_same (racing : Nat -> List Nat) (s : RxAudioSession) (idx left : Nat) :
    SameAssembly s (rxAudioScanFrames racing s idx left).1 := by
  induction left generalizing s idx with
  | zero => exact SameAssembly.refl s
  | succ left ih =>
    unfold rxAudioScanFrames
    dsimp only
    split
    · exact (putFramebuffs_same s _).trans (sameAssembly_refcnt _ idx _)
    · exact (putFramebuffs_same s _).trans (ih _ _)

/-! ## Opening -/

theorem floor_of_trunc (value : Int) {divisor : Int} (positive : 0 < divisor) :
    value.tdiv divisor - (if value.tmod divisor < 0 then 1 else 0) = value / divisor := by
  have whole := Int.mul_tdiv_add_tmod value divisor
  have above := Int.tmod_lt_of_pos value positive
  have below := Int.lt_tmod_of_pos value positive
  symm
  by_cases negative : value.tmod divisor < 0
  · rw [if_pos negative]
    refine ((Int.ediv_emod_unique positive).mpr ⟨?_, ?_, ?_⟩ :
      _ ∧ value % divisor = value.tmod divisor + divisor).1
    · rw [Int.mul_sub]
      omega
    · omega
    · omega
  · rw [if_neg negative, Int.sub_zero]
    exact ((Int.ediv_emod_unique positive).mpr ⟨by omega, by omega, above⟩).1

theorem int32_spec (value : Int) : -2147483648 ≤ int32 value ∧ int32 value < 2147483648 ∧
    u32 (int32 value) = u32 value := by
  have bound := u32_lt value
  unfold int32
  split
  · rename_i small
    refine ⟨by omega, by omega, u32_of_lt bound⟩
  · rename_i large
    refine ⟨by omega, by omega, ?_⟩
    simp only [u32_eq] at large ⊢
    omega

theorem rxAudioFrameBase_spec {tmstamp : Nat} (positive : 0 < s.rtpTicksPerFrame)
    (word : s.rtpTicksPerFrame < 4294967296) :
    Exists fun frames : Int =>
      rxAudioFrameBase s tmstamp = u32 (s.tmstamp + 1 + frames * s.rtpTicksPerFrame) ∧
        -2147483648 - (s.rtpTicksPerFrame : Int) < frames * s.rtpTicksPerFrame ∧
        frames * s.rtpTicksPerFrame < 2147483648 ∧
        u32 ((tmstamp : Int) - rxAudioFrameBase s tmstamp) < s.rtpTicksPerFrame := by
  have ticksPos : (0 : Int) < s.rtpTicksPerFrame := by omega
  let delta := int32 ((tmstamp : Int) - u32 (s.tmstamp + 1))
  have base : rxAudioFrameBase s tmstamp = u32 ((u32 (s.tmstamp + 1) : Int) +
      u32 (delta / s.rtpTicksPerFrame * s.rtpTicksPerFrame)) := by
    unfold rxAudioFrameBase
    rw [if_pos (by omega)]
    dsimp only
    rw [floor_of_trunc _ ticksPos]
  rcases int32_spec ((tmstamp : Int) - u32 (s.tmstamp + 1)) with ⟨lower, upper, delta_word⟩
  have whole := Int.mul_ediv_add_emod delta s.rtpTicksPerFrame
  have restNonneg := Int.emod_nonneg delta (ne_of_gt ticksPos)
  have restLt := Int.emod_lt_of_pos delta ticksPos
  rw [Int.mul_comm] at whole
  refine ⟨delta / s.rtpTicksPerFrame, ?_, ?_, ?_, ?_⟩
  · rw [base]
    simp only [u32_eq]
    omega
  · change -2147483648 ≤ delta at lower
    omega
  · change delta < 2147483648 at upper
    omega
  · change u32 delta = _ at delta_word
    rw [base]
    simp only [u32_eq] at delta_word ⊢
    omega

theorem mtBitmapTest_zeros (length slot : Nat) :
    mtBitmapTest (List.replicate length 0) slot = false := by
  rw [mtBitmapTest_eq_getLsbD, List.getD_eq_getElem?_getD, List.getElem?_replicate]
  split <;> simp

/-- The packet that opens a frame has its slot in it. -/
structure Opened (layout : AudioLayout) (s t : RxAudioSession) (tmstamp : Nat) : Prop where
  reaches : Reaches layout s t
  curFrame : Exists fun idx => t.curFrame = some idx
  slot : rxAudioSlot t tmstamp < layout.totalPkts

theorem slot_lt_of_ticks {s : RxAudioSession} {tmstamp : Nat}
    (samples : s.samplesPerPkt = layout.samplesPerPkt)
    (inside : u32 ((tmstamp : Int) - s.firstPktRtpTs) < layout.ticks) :
    rxAudioSlot s tmstamp < layout.totalPkts := by
  have positive := layout.samplesPos
  unfold rxAudioSlot
  rw [samples, if_pos (by omega), Nat.div_lt_iff_lt_mul positive]
  exact inside

theorem rxAudioSessionOpenFrame_cases {s : RxAudioSession} (has : s.HasLayout layout)
    (closed : s.curFrame = none) (racing : Nat -> List Nat) (port : MtlSessionPort)
    (tmstamp ptpTs : Nat) :
    (rxAudioSessionOpenFrame racing s port tmstamp ptpTs).2 = false ∧
        Reaches layout s (rxAudioSessionOpenFrame racing s port tmstamp ptpTs).1 ∨
      (rxAudioSessionOpenFrame racing s port tmstamp ptpTs).2 = true ∧
        Opened layout s (rxAudioSessionOpenFrame racing s port tmstamp ptpTs).1 tmstamp := by
  have searched : SameAssembly s (rxAudioSessionGetFrame racing s).1 :=
    rxAudioScanFrames_same racing s 0 s.framesCnt
  unfold rxAudioSessionOpenFrame
  rcases found : rxAudioSessionGetFrame racing s with ⟨t, answer⟩
  rw [found] at searched
  dsimp only at searched
  have sized := searched.kept layout has
  have idle : t.curFrame = none := (congrArg AudioAssembly.curFrame searched.assembly).trans closed
  cases answer with
  | none =>
    refine Or.inl ⟨rfl, ⟨sized.type, sized.receiveIncomplete, sized.pktLen, sized.totalPkts,
      sized.frameSize, sized.ticks, sized.samples, sized.room⟩, ?_⟩
    have same : AudioAssembly.mk (fun idx => (t.frames idx).addr) none
        (fun slot => mtBitmapTest t.frameBitmap slot) t.frameRecvSize t.firstPktRtpTs t.tmstamp
        t.events = s.assembly := by
      rw [← searched.assembly, RxAudioSession.assembly, idle]
    rw [← same]
    exact ReflTransGen.refl
  | some idx =>
    have ticks := sized.ticks
    rcases @rxAudioFrameBase_spec t tmstamp (by rw [ticks]; exact layout.ticks_pos)
      (by rw [ticks]; exact layout.ticksWord) with ⟨frames, onGrid, lower, upper, inside⟩
    rw [ticks] at onGrid lower upper inside
    have move := @AssemblyMove.opening layout t.assembly idx
      (rxAudioFrameBase t tmstamp) frames idle onGrid lower upper
    refine Or.inr ⟨rfl, ⟨⟨sized.type, sized.receiveIncomplete, sized.pktLen, sized.totalPkts,
      sized.frameSize, sized.ticks, sized.samples, ?_⟩, ?_⟩, ⟨idx, rfl⟩, ?_⟩
    · simpa using sized.room
    · rw [← searched.assembly]
      apply ReflTransGen.single
      have zeros : (fun slot : Nat => mtBitmapTest (List.replicate t.frameBitmap.length 0) slot) =
          fun _ => false := funext (fun slot => mtBitmapTest_zeros _ slot)
      simpa only [RxAudioSession.assembly, zeros] using move
    · exact slot_lt_of_ticks sized.samples inside

/-! ## Closing -/

theorem slotBytes_store (addr : Nat -> Byte) {len byte : Nat} {values : List Byte}
    (length : values.length = len) (inside : byte < len) (slot other : Nat) :
    slotBytes len (store addr (slot * len) values) other byte =
      if other = slot then values.getD byte 0 else slotBytes len addr other byte := by
  unfold slotBytes
  by_cases same : other = slot
  · rw [if_pos same, same, store_inside addr (by omega) (by omega)]
    congr 1
    omega
  · rw [if_neg same]
    apply store_outside
    rcases Nat.lt_or_gt_of_ne same with before | after
    · left
      have next := Nat.mul_le_mul_right len before
      rw [Nat.succ_mul] at next
      omega
    · right
      have next := Nat.mul_le_mul_right len after
      rw [Nat.succ_mul] at next
      omega

theorem slotBytes_zeroFrameGaps (addr : Nat -> Byte) (count : Nat) {byte : Nat}
    (inside : byte < s.pktLen) (slot : Nat) :
    slotBytes s.pktLen (rxAudioSessionZeroFrameGaps s addr count) slot byte =
      if slot < count ∧ mtBitmapTest s.frameBitmap slot = false then 0
      else slotBytes s.pktLen addr slot byte := by
  induction count with
  | zero => simp [rxAudioSessionZeroFrameGaps]
  | succ count ih =>
    unfold rxAudioSessionZeroFrameGaps
    dsimp only
    by_cases filled : mtBitmapTest s.frameBitmap count = true
    · rw [if_pos filled, ih]
      apply if_congr _ rfl rfl
      by_cases last : slot = count
      · simp [last, filled]
      · have before : slot < count <-> slot < count + 1 := by omega
        rw [before]
    · rw [if_neg filled, slotBytes_store _ List.length_replicate inside, ih]
      by_cases last : slot = count
      · have empty : mtBitmapTest s.frameBitmap count = false := by simpa using filled
        rw [if_pos last, last, if_pos ⟨Nat.lt_succ_self count, empty⟩]
        simp
      · have before : slot < count <-> slot < count + 1 := by omega
        rw [if_neg last]
        simp only [before]

def rxAudioFinal (idx : Nat) : ClosedFrame :=
  rxAudioClosedFrame (rxAudioSilence s idx) idx

theorem rxAudioHandOff_same (answer : NotifyAnswer) (s : RxAudioSession) (idx : Nat) :
    SameAssembly (s.log (.closed (rxAudioClosedFrame s idx))) (rxAudioHandOff answer s idx) := by
  unfold rxAudioHandOff
  dsimp only
  split
  · exact sameAssembly_refcnt _ idx _
  · have counted : forall received, SameAssembly (s.log (.closed (rxAudioClosedFrame s idx)))
        { s.log (.closed (rxAudioClosedFrame s idx)) with
          stats := { s.stats with framesReceived := received } } :=
      fun received => ⟨rfl, fun _ has => ⟨has.type, has.receiveIncomplete, has.pktLen,
        has.totalPkts, has.frameSize, has.ticks, has.samples, has.room⟩⟩
    split
    · exact ((counted _).trans (putFramebuffs_same _ _)).trans (sameAssembly_refcnt _ idx _)
    · exact (counted _).trans (putFramebuffs_same _ _)

theorem rxAudioSilence_assembly :
    (rxAudioSilence s idx).assembly =
      { s.assembly with
        addr := Function.update s.assembly.addr idx (rxAudioFinal s idx).addr } := by
  unfold rxAudioFinal rxAudioClosedFrame rxAudioSilence
  split
  · simp only [RxAudioSession.assembly, RxAudioSession.setFrame]
    congr 1
    funext other
    by_cases same : other = idx
    · simp [same]
    · simp [same]
  · simp only [RxAudioSession.assembly]
    congr 1
    exact (Function.update_eq_self idx (fun other => (s.frames other).addr)).symm

theorem rxAudioSilence_kept {s : RxAudioSession} {layout : AudioLayout} (has : s.HasLayout layout)
    (idx : Nat) : (rxAudioSilence s idx).HasLayout layout := by
  unfold rxAudioSilence
  split
  · exact ⟨has.type, has.receiveIncomplete, has.pktLen, has.totalPkts, has.frameSize, has.ticks,
      has.samples, has.room⟩
  · exact has

section

variable (s : RxAudioSession) (idx : Nat)

theorem rxAudioSilence_incomplete :
    (rxAudioSilence s idx).incomplete = s.incomplete := by
  unfold rxAudioSilence
  split <;> rfl

theorem rxAudioFinal_base :
    (rxAudioFinal s idx).info.rtpTimestamp = s.firstPktRtpTs := by
  unfold rxAudioFinal rxAudioClosedFrame rxAudioSilence
  split <;> rfl

theorem rxAudioFinal_status :
    (rxAudioFinal s idx).info.status = .complete <-> s.frameSize ≤ s.frameRecvSize := by
  have missing := rxAudioSilence_incomplete s idx
  unfold rxAudioFinal rxAudioClosedFrame rxAudioFrameMeta
  dsimp only
  rw [missing]
  unfold RxAudioSession.incomplete
  by_cases short : s.frameRecvSize < s.frameSize
  · simp [short]
  · simp only [short, decide_false, Bool.false_eq_true, if_false, true_iff]
    omega

theorem rxAudioFinal_delivered :
    (rxAudioFinal s idx).delivered = true <->
      (rxAudioFinal s idx).info.status = .complete ∨ s.ops.receiveIncompleteFrame = true := by
  have missing := rxAudioSilence_incomplete s idx
  have same : (rxAudioSilence s idx).ops = s.ops := by
    unfold rxAudioSilence
    split <;> rfl
  unfold rxAudioFinal rxAudioClosedFrame rxAudioFrameMeta rxAudioDeliver
  dsimp only
  rw [missing, same]
  cases s.incomplete <;> simp

end

section

variable {s : RxAudioSession} {layout : AudioLayout} {idx : Nat} (has : s.HasLayout layout)
    (right : s.assembly.Right layout) (opened : s.curFrame = some idx)

include has right opened

theorem rxAudioFinal_bytes
    {slot : Nat} (inRange : slot < layout.totalPkts) {byte : Nat} (inside : byte < layout.pktLen) :
    slotBytes layout.pktLen (rxAudioFinal s idx).addr slot byte =
      if s.assembly.filled slot = true then
        slotBytes layout.pktLen (s.assembly.addr idx) slot byte
      else 0 := by
  have full := (right.opened idx opened).full_iff
  have len := has.pktLen
  unfold rxAudioFinal rxAudioClosedFrame rxAudioSilence
  by_cases short : s.incomplete = true
  · rw [if_pos short]
    simp only [RxAudioSession.setFrame, Function.update_self]
    rw [← len, slotBytes_zeroFrameGaps s _ _ (by rw [len]; exact inside), has.totalPkts]
    cases held : s.assembly.filled slot with
    | true =>
      change mtBitmapTest s.frameBitmap slot = true at held
      rw [if_neg (by simp [held]), if_pos rfl]
      rfl
    | false =>
      change mtBitmapTest s.frameBitmap slot = false at held
      rw [if_pos ⟨inRange, held⟩]
      rfl
  · have whole : layout.frameSize ≤ s.assembly.recvSize := by
      have size := has.frameSize
      simp only [RxAudioSession.incomplete, decide_eq_true_eq, size] at short
      exact Nat.not_lt.mp short
    rw [if_neg short, if_pos (full.mp whole slot inRange)]
    rfl

theorem rxAudioSessionFrameNotify_reaches (answer : NotifyAnswer) :
    Reaches layout s (rxAudioSessionFrameNotify answer s) ∧
      (rxAudioSessionFrameNotify answer s).curFrame = none := by
  have handed := rxAudioHandOff_same answer (rxAudioSilence s idx) idx
  have silent := rxAudioSilence_assembly s idx
  have logged : ((rxAudioSilence s idx).log
      (.closed (rxAudioClosedFrame (rxAudioSilence s idx) idx))).assembly =
        { s.assembly with
          addr := Function.update s.assembly.addr idx (rxAudioFinal s idx).addr
          events := .closed (rxAudioFinal s idx) :: s.events } := by
    have before := congrArg AudioAssembly.events silent
    change (rxAudioSilence s idx).events = s.events at before
    change { (rxAudioSilence s idx).assembly with
      events := .closed (rxAudioFinal s idx) :: (rxAudioSilence s idx).events } = _
    rw [silent, before]
  have sized := handed.kept layout ⟨(rxAudioSilence_kept has idx).type,
    (rxAudioSilence_kept has idx).receiveIncomplete, (rxAudioSilence_kept has idx).pktLen,
    (rxAudioSilence_kept has idx).totalPkts, (rxAudioSilence_kept has idx).frameSize,
    (rxAudioSilence_kept has idx).ticks, (rxAudioSilence_kept has idx).samples,
    (rxAudioSilence_kept has idx).room⟩
  have reached := handed.assembly.trans logged
  unfold rxAudioSessionFrameNotify
  rw [opened]
  refine ⟨⟨⟨sized.type, sized.receiveIncomplete, sized.pktLen, sized.totalPkts, sized.frameSize,
    sized.ticks, sized.samples, sized.room⟩, ?_⟩, rfl⟩
  have move := @AssemblyMove.close layout s.assembly idx (rxAudioFinal s idx)
    opened (rxAudioFinal_base s idx) (by rw [rxAudioFinal_status, has.frameSize]; rfl)
    (by rw [rxAudioFinal_delivered, has.receiveIncomplete])
    (fun slot inRange byte inside => rxAudioFinal_bytes has right opened inRange inside)
  apply ReflTransGen.single
  have base := congrArg AudioAssembly.base reached
  change (rxAudioHandOff answer (rxAudioSilence s idx) idx).firstPktRtpTs = s.firstPktRtpTs at base
  have after : AudioAssembly.mk
      (rxAudioHandOff answer (rxAudioSilence s idx) idx).assembly.addr none
      (rxAudioHandOff answer (rxAudioSilence s idx) idx).assembly.filled
      (rxAudioHandOff answer (rxAudioSilence s idx) idx).assembly.recvSize
      (rxAudioHandOff answer (rxAudioSilence s idx) idx).assembly.base
      (u32 ((s.firstPktRtpTs : Int) + layout.ticks - 1))
      (rxAudioHandOff answer (rxAudioSilence s idx) idx).assembly.events =
        { s.assembly with
          addr := Function.update s.assembly.addr idx (rxAudioFinal s idx).addr
          curFrame := none
          tmstamp := u32 ((s.assembly.base : Int) + layout.ticks - 1)
          events := .closed (rxAudioFinal s idx) :: s.assembly.events } := by
    rw [reached]
    rfl
  rw [← after] at move
  rw [← base, ← sized.ticks] at move
  exact move

end

/-! ## Placing -/

theorem AudioPkt.data_getD (pkt : AudioPkt) {len byte : Nat} (inside : byte < len) :
    (pkt.data len).getD byte 0 = pkt.payload byte := by
  simp [AudioPkt.data, inside]

theorem inSlot_rxAudioSlot {s : RxAudioSession} (samples : s.samplesPerPkt = layout.samplesPerPkt)
    (tmstamp : Nat) :
    layout.InSlot s.assembly.base (rxAudioSlot s tmstamp) tmstamp := by
  have positive := layout.samplesPos
  rw [layout.inSlot_iff]
  unfold rxAudioSlot
  rw [samples, if_pos (by omega)]
  rfl

section

variable {s : RxAudioSession} {layout : AudioLayout}

variable {cur : Nat}

theorem rxAudioCopy_reaches (has : s.HasLayout layout) (opened : s.curFrame = some cur) {pkt : AudioPkt}
    (bound : rxAudioSlot s pkt.tmstamp < layout.totalPkts)
    (empty : mtBitmapTest s.frameBitmap (rxAudioSlot s pkt.tmstamp) = false) :
    Reaches layout s
      (rxAudioCopy
        { s.log (.accepted pkt) with
          frameBitmap := (mtBitmapTestAndSet s.frameBitmap (rxAudioSlot s pkt.tmstamp)).2 }
        cur (rxAudioSlot s pkt.tmstamp) pkt) := by
  have inRange : rxAudioSlot s pkt.tmstamp < 8 * s.frameBitmap.length :=
    Nat.lt_of_lt_of_le bound has.room
  refine ⟨⟨has.type, has.receiveIncomplete, has.pktLen, has.totalPkts, has.frameSize, has.ticks,
    has.samples, ?_⟩, ?_⟩
  · simpa [rxAudioCopy, RxAudioSession.setFrame] using has.room
  · have move := @AssemblyMove.fill layout s.assembly cur
      (rxAudioSlot s pkt.tmstamp) pkt
      (store (s.frames cur).addr (rxAudioSlot s pkt.tmstamp * s.pktLen) (pkt.data s.pktLen))
      (fun slot => mtBitmapTest
        (mtBitmapTestAndSet s.frameBitmap (rxAudioSlot s pkt.tmstamp)).2 slot)
      opened bound (inSlot_rxAudioSlot has.samples pkt.tmstamp) empty
      (fun other => mtBitmapTest_testAndSet s.frameBitmap _ other inRange)
      (fun other byte inside => by
        have len : (pkt.data s.pktLen).length = layout.pktLen := by
          simp [AudioPkt.data, has.pktLen]
        rw [has.pktLen] at len ⊢
        rw [slotBytes_store _ len inside, pkt.data_getD inside]
        rfl)
    apply ReflTransGen.single
    have bytes : (fun idx => (Function.update s.frames cur
        { s.frames cur with
          addr := store (s.frames cur).addr (rxAudioSlot s pkt.tmstamp * s.pktLen)
            (pkt.data s.pktLen) } idx).addr) =
        Function.update s.assembly.addr cur
          (store (s.frames cur).addr (rxAudioSlot s pkt.tmstamp * s.pktLen)
            (pkt.data s.pktLen)) := by
      funext idx
      by_cases same : idx = cur
      · simp [same]
      · simp [same, RxAudioSession.assembly]
    simp only [RxAudioSession.assembly, rxAudioCopy, RxAudioSession.setFrame, RxAudioSession.log,
      bytes]
    rw [has.pktLen] at move ⊢
    exact move

theorem rxAudioPlace_reaches (has : s.HasLayout layout) (right : s.assembly.Right layout)
    (opened : s.curFrame = some cur) {pkt : AudioPkt}
    (bound : rxAudioSlot s pkt.tmstamp < layout.totalPkts) (env : AudioEnv) :
    Reaches layout s (rxAudioPlace env s cur (rxAudioSlot s pkt.tmstamp) pkt) := by
  have inRange : rxAudioSlot s pkt.tmstamp < 8 * s.frameBitmap.length :=
    Nat.lt_of_lt_of_le bound has.room
  have tested := mtBitmapTestAndSet_fst s.frameBitmap _ inRange
  have copied := @rxAudioCopy_reaches s layout cur has opened pkt bound
  unfold rxAudioPlace
  dsimp only
  have logged : (s.log (.accepted pkt)).frameBitmap = s.frameBitmap := rfl
  rw [logged]
  rcases outcome : mtBitmapTestAndSet s.frameBitmap (rxAudioSlot s pkt.tmstamp) with ⟨held, bitmap⟩
  rw [outcome] at tested copied
  cases held with
  | true =>
    refine ⟨⟨has.type, has.receiveIncomplete, has.pktLen, has.totalPkts, has.frameSize,
      has.ticks, has.samples, has.room⟩, ReflTransGen.single ?_⟩
    exact AssemblyMove.repeated cur (rxAudioSlot s pkt.tmstamp) pkt opened bound
      (inSlot_rxAudioSlot has.samples pkt.tmstamp) tested.symm
  | false =>
    have reached := copied tested.symm
    dsimp only
    split
    · exact reached.trans (rxAudioSessionFrameNotify_reaches reached.sized
        (right.moves reached.moves) opened (env.notify 1)).1
    · exact reached

theorem rxAudioPlaceOpen_reaches
    (has : s.HasLayout layout) (right : s.assembly.Right layout) {pkt : AudioPkt}
    (bound : rxAudioSlot s pkt.tmstamp < layout.totalPkts) (env : AudioEnv) :
    Reaches layout s (rxAudioPlaceOpen env s pkt).1 := by
  unfold rxAudioPlaceOpen
  cases opened : s.curFrame with
  | none => exact (SameAssembly.refl s).reaches has
  | some cur => exact rxAudioPlace_reaches has right opened bound env

theorem rxAudioReopen_reaches (has : s.HasLayout layout) (right : s.assembly.Right layout)
    (opened : s.curFrame = some cur) (env : AudioEnv) (pkt : AudioPkt) (port : MtlSessionPort) :
    Reaches layout s (rxAudioReopen env s pkt port).1 := by
  rcases rxAudioSessionFrameNotify_reaches has right opened (env.notify 0) with ⟨closed, idle⟩
  unfold rxAudioReopen
  dsimp only
  have cases := rxAudioSessionOpenFrame_cases closed.sized idle (env.racing 1) port pkt.tmstamp
    pkt.recvTs
  rcases outcome : rxAudioSessionOpenFrame (env.racing 1)
    (rxAudioSessionFrameNotify (env.notify 0) s) port pkt.tmstamp pkt.recvTs with ⟨t, found⟩
  rw [outcome] at cases
  rcases cases with ⟨missing, reached⟩ | ⟨taken, reopened⟩
  · cases missing
    exact closed.trans reached
  · cases taken
    have reached := closed.trans reopened.reaches
    exact reached.trans
      (rxAudioPlaceOpen_reaches reached.sized (right.moves reached.moves) reopened.slot env)

theorem rxAudioLocate_reaches (has : s.HasLayout layout) (right : s.assembly.Right layout)
    (opened : s.curFrame = some cur) (env : AudioEnv) (pkt : AudioPkt) (port : MtlSessionPort) :
    Reaches layout s (rxAudioLocate env s pkt port).1 := by
  unfold rxAudioLocate
  split
  · exact rxAudioReopen_reaches has right opened env pkt port
  · rename_i inside
    rw [has.totalPkts] at inside
    exact rxAudioPlaceOpen_reaches has right (Nat.not_le.mp inside) env

theorem rxAudioAssemble_reaches
    (has : s.HasLayout layout) (right : s.assembly.Right layout) (env : AudioEnv) (pkt : AudioPkt)
    (port : MtlSessionPort) : Reaches layout s (rxAudioAssemble env s pkt port).1 := by
  unfold rxAudioAssemble
  cases opened : s.curFrame with
  | some cur => exact rxAudioLocate_reaches has right opened env pkt port
  | none =>
    dsimp only
    have cases := rxAudioSessionOpenFrame_cases has opened (env.racing 0) port pkt.tmstamp
      pkt.recvTs
    rcases outcome : rxAudioSessionOpenFrame (env.racing 0) s port pkt.tmstamp pkt.recvTs with
      ⟨t, found⟩
    rw [outcome] at cases
    rcases cases with ⟨missing, reached⟩ | ⟨taken, reopened⟩
    · cases missing
      exact reached
    · cases taken
      rcases reopened.curFrame with ⟨cur, current⟩
      exact reopened.reaches.trans (rxAudioLocate_reaches reopened.reaches.sized
        (right.moves reopened.reaches.moves) current env pkt port)

/-! ## Runs -/

theorem rxAudioStart_reaches (has : s.HasLayout layout)
    (pkt : AudioPkt) (port : MtlSessionPort) : Reaches layout s (rxAudioStart s pkt port) := by
  refine ⟨⟨has.type, has.receiveIncomplete, has.pktLen, has.totalPkts, has.frameSize, has.ticks,
    has.samples, has.room⟩, ?_⟩
  by_cases unset : s.tmstamp = -1
  · have move := @AssemblyMove.seed layout s.assembly
      (u32 ((pkt.tmstamp : Int) - 1)) unset
    apply ReflTransGen.single
    simpa only [RxAudioSession.assembly, rxAudioStart, if_pos unset] using move
  · have same : (rxAudioStart s pkt port).assembly = s.assembly := by
      simp only [RxAudioSession.assembly, rxAudioStart, if_neg unset]
    rw [same]

end

theorem sameAssembly_counters (stats : AudioStats) (session : Int) (latest : MtlSessionPort -> Int)
    (errors : MtlSessionPort -> Nat) :
    SameAssembly s
      { s with
        stats := stats
        sessionSeqId := session
        latestSeqId := latest
        redundantErrorCnt := errors } :=
  ⟨rfl, fun _ has => ⟨has.type, has.receiveIncomplete, has.pktLen, has.totalPkts, has.frameSize,
    has.ticks, has.samples, has.room⟩⟩

theorem rxAudioFilter_same (pkt : AudioPkt) (port : MtlSessionPort) :
    SameAssembly s (rxAudioFilter s pkt port).1 := by
  unfold rxAudioFilter
  split
  · exact SameAssembly.refl s
  · dsimp only
    split
    · exact sameAssembly_counters s _ _ _ _
    · exact sameAssembly_counters s _ _ _ _

section

variable {s : RxAudioSession} {layout : AudioLayout} (has : s.HasLayout layout)
    (right : s.assembly.Right layout)

include has right

theorem rxAudioSessionHandleFramePkt_reaches (env : AudioEnv) (pkt : AudioPkt)
    (port : MtlSessionPort) :
    Reaches layout s (rxAudioSessionHandleFramePkt env s pkt port).1 := by
  have dropped : forall stats, Reaches layout s { s with stats := stats } :=
    fun stats => (sameAssembly_counters s stats _ _ _).reaches has
  unfold rxAudioSessionHandleFramePkt
  cases rxAudioWrongHeader s pkt with
  | some stats => exact dropped stats
  | none =>
    dsimp only
    cases rxAudioWrongLen s pkt with
    | some stats => exact dropped stats
    | none =>
      dsimp only
      have started := rxAudioStart_reaches has pkt port
      have counted : SameAssembly (rxAudioStart s pkt port) (rxAudioPrepare s pkt port) :=
        sameAssembly_counters _ _ _ _ _
      have prepared := started.trans (counted.reaches started.sized)
      have judged := prepared.trans
        ((rxAudioFilter_same (rxAudioPrepare s pkt port) pkt port).reaches prepared.sized)
      rcases outcome : rxAudioFilter (rxAudioPrepare s pkt port) pkt port with ⟨t, passes⟩
      rw [outcome] at judged
      cases passes with
      | false => exact judged
      | true =>
        have advanced := judged.trans
          ((sameAssembly_counters t _ _ _ _).reaches judged.sized :
            Reaches layout t (rxAudioAdvance t pkt port))
        exact advanced.trans (rxAudioAssemble_reaches advanced.sized
          (right.moves advanced.moves) env pkt port)

theorem audioRxStep_reaches (arrival : AudioArrival) :
    Reaches layout s (audioRxStep s arrival) := by
  unfold audioRxStep rxAudioSessionHandlePkt
  rw [has.type]
  exact rxAudioSessionHandleFramePkt_reaches has right arrival.env arrival.pkt arrival.port

theorem audio_run_right (arrivals : List AudioArrival) :
    (run audioRxStep s arrivals).HasLayout layout ∧
      (run audioRxStep s arrivals).assembly.Right layout := by
  induction arrivals generalizing s with
  | nil => exact ⟨has, right⟩
  | cons arrival rest ih =>
    have step := audioRxStep_reaches has right arrival
    exact ih step.sized (right.moves step.moves)

end

section

variable {ops : St30RxOps} {s : RxAudioSession} (type : ops.type = .frameLevel)
    (attached : rxAudioSessionAttach ops = .ok s)

include type attached

theorem rxAudioSessionAttach_ok :
    Exists fun pktLen => s = rxAudioInit ops pktLen ∧ ops.framebuffSize ≠ 0 ∧
      st30GetPacketSize ops.fmt ops.ptime ops.sampling ops.channel = .ok pktLen ∧
      pktLen ∣ ops.framebuffSize := by
  unfold rxAudioSessionAttach at attached
  cases checked : rxAudioOpsCheck ops with
  | error code => simp [checked] at attached
  | ok _ =>
    have sized : ops.framebuffSize ≠ 0 := by
      intro empty
      unfold rxAudioOpsCheck at checked
      simp [type, empty] at checked
    rw [checked] at attached
    cases defined : st30GetPacketSize ops.fmt ops.ptime ops.sampling ops.channel with
    | error code => simp [defined] at attached
    | ok pktLen =>
      rw [defined] at attached
      dsimp only at attached
      split at attached
      · cases attached
      · split at attached
        · cases attached
        · rename_i _ whole
          injection attached with same
          exact ⟨pktLen, same.symm, sized, rfl, Nat.dvd_of_mod_eq_zero (not_not.mp whole)⟩

theorem rxAudioSessionAttach_layout :
    Exists fun layout : AudioLayout => s.HasLayout layout ∧ s.assembly.Right layout := by
  rcases rxAudioSessionAttach_ok type attached with ⟨pktLen, started, sized, defined, whole⟩
  rcases st30GetPacketSize_ok defined with ⟨num, samples, channels, product⟩
  rcases whole with ⟨total, size⟩
  have numPos := st30GetSampleNum_pos samples
  have divPos : 0 < st30GetSampleSize ops.fmt * ops.channel :=
    Nat.mul_pos (st30GetSampleSize_pos ops.fmt) channels
  have pktLen_eq : pktLen = num * (st30GetSampleSize ops.fmt * ops.channel) := by
    rw [product]
    ring
  have pktLenPos : 0 < pktLen := by
    rw [pktLen_eq]
    exact Nat.mul_pos numPos divPos
  have totalPos : 0 < total := by
    apply Nat.pos_of_ne_zero
    intro none
    exact sized (by rw [size, none, Nat.mul_zero])
  have numLe : num ≤ pktLen := by
    rw [pktLen_eq]
    exact Nat.le_mul_of_pos_right num divPos
  have word := ops.framebuffSizeWord
  have totalTimes : total * num ≤ ops.framebuffSize := by
    rw [size, Nat.mul_comm pktLen]
    exact Nat.mul_le_mul_left total numLe
  have totalOf : ops.framebuffSize / pktLen = total := by
    rw [size]
    exact Nat.mul_div_cancel_left total pktLenPos
  have ticksOf : ops.framebuffSize / (st30GetSampleSize ops.fmt * ops.channel) = total * num := by
    have regrouped : pktLen * total = total * num * (st30GetSampleSize ops.fmt * ops.channel) := by
      rw [pktLen_eq]
      ring
    rw [size, regrouped]
    exact Nat.mul_div_cancel _ divPos
  have samplesOf : pktLen / (st30GetSampleSize ops.fmt * ops.channel) = num := by
    rw [pktLen_eq]
    exact Nat.mul_div_cancel _ divPos
  let layout : AudioLayout :=
    { pktLen := pktLen
      totalPkts := total
      samplesPerPkt := num
      receiveIncomplete := ops.receiveIncompleteFrame
      pktLenPos := pktLenPos
      totalPktsPos := totalPos
      samplesPos := numPos
      ticksWord := by omega }
  rw [started]
  refine ⟨layout, ⟨type, rfl, rfl, totalOf, ?_, ticksOf, samplesOf, ?_⟩,
    AudioAssembly.Right.start rfl rfl⟩
  · change ops.framebuffSize = total * pktLen
    rw [size, Nat.mul_comm]
  · change total ≤ 8 * (List.replicate ((ops.framebuffSize / pktLen + 7) / 8) 0).length
    rw [totalOf, List.length_replicate]
    omega

end

/-! ## The frames of a run -/

/-- Every frame that a session closes holds in each slot the payload of the first packet accepted
for it since the frame was opened, and silence where none was.  It is complete exactly when every
slot had a packet, and lies on the grid of the frame before. -/
theorem audio_frames_reassembled {ops : St30RxOps} {s : RxAudioSession}
    (type : ops.type = .frameLevel) (attached : rxAudioSessionAttach ops = .ok s) :
    Exists fun layout : AudioLayout => s.HasLayout layout ∧
      forall (arrivals : List AudioArrival) (later : List AudioEvent) (frame : ClosedFrame)
        (earlier : List AudioEvent),
        (run audioRxStep s arrivals).events = later ++ .closed frame :: earlier ->
          layout.FrameRight frame earlier := by
  rcases rxAudioSessionAttach_layout type attached with ⟨layout, has, right⟩
  refine ⟨layout, has, fun arrivals later frame earlier split => ?_⟩
  exact (audio_run_right has right arrivals).2.closed later frame earlier split

/-- Mono samples of 16 bits, two packets of one millisecond to a frame. -/
def twoPktOps : St30RxOps where
  numPort := 2
  payloadType := 111
  ssrc := 0
  type := .frameLevel
  receiveIncompleteFrame := true
  fmt := .pcm16
  ptime := .p1ms
  sampling := .s48k
  channel := 1
  framebuffCnt := 3
  framebuffSize := 192
  framebuffSizeWord := by decide

def twoPktArrival (seq : Fin 65536) (tmstamp : Fin 4294967296) : AudioArrival where
  env := { ringTakes := true, notify := fun _ => ⟨false, []⟩, racing := fun _ _ => [] }
  pkt :=
    { payloadType := 111, ssrc := 0, seqNumber := seq, seqNumberWord := seq.isLt, tmstamp := tmstamp
      tmstampWord := tmstamp.isLt, dataLen := 150, pktLen := 150, payload := fun _ => 7, recvTs := 0 }
  port := .p

/-- The closed frames, the newest first, by the first and the last byte of each slot. -/
def closedTwoPkts (s : RxAudioSession) : List (FrameStatus × List Byte) :=
  s.events.filterMap fun event =>
    match event with
    | .closed frame => some (frame.info.status, [0, 95, 96, 191].map frame.addr)
    | _ => none

/-- The second packet of the second frame is lost. -/
def oneHole : List AudioArrival :=
  [twoPktArrival 0 0, twoPktArrival 1 48, twoPktArrival 2 96, twoPktArrival 4 192]

theorem two_pkt_frames_reassembled :
    (Exists fun layout : AudioLayout => (rxAudioInit twoPktOps 96).HasLayout layout ∧
      forall (arrivals : List AudioArrival) (later : List AudioEvent) (frame : ClosedFrame)
        (earlier : List AudioEvent),
        (run audioRxStep (rxAudioInit twoPktOps 96) arrivals).events =
            later ++ .closed frame :: earlier ->
          layout.FrameRight frame earlier) ∧
      closedTwoPkts (run audioRxStep (rxAudioInit twoPktOps 96) oneHole) =
        [(.corrupted, [7, 7, 0, 0]), (.complete, [7, 7, 7, 7])] :=
  ⟨@audio_frames_reassembled twoPktOps (rxAudioInit twoPktOps 96) rfl rfl, by decide +kernel⟩

end MediaTransport.Audio
