import MediaTransport.Anc.FilterPart
import MediaTransport.Library.Run

namespace MediaTransport.Anc

open Library

/-!
# The redundancy filter over whole runs

Two ports carry copies of one stream.  The packets of the stream have extended
sequence numbers, and the time of a packet does not fall as the number grows;
the wire carries sixteen and thirty-two bits of the two.  A watcher remembers
the numbers the session accepted.  The two windows of the session know the
numbers of their frames that were accepted, so nothing is accepted twice, and
the counters account for every number up to the newest.
-/

/-! ## Windows over extended numbers -/

/-- The window belongs to the frame at `stamp`, starts at `base` and has a bit for each accepted
number of that frame that it covers. -/
structure AncWindow.Covers (window : AncWindow) (time : Int -> Int) (accepted : List Int)
    (stamp base : Int) : Prop where
  valid : window.valid = true
  tmstamp : window.tmstamp = u32 stamp
  baseSeq : window.baseSeq = u16 base
  bits : ∀ number ∈ accepted, time number = stamp ->
    window.offset (u16 number) < 64 -> window.bitmap.getLsbD (window.offset (u16 number)) = true

namespace AncWindow

variable {window : AncWindow} {time : Int -> Int} {accepted : List Int} {stamp base number : Int}

theorem offset_record (seqId other : Nat) :
    (window.record seqId).offset other = window.offset other := by
  unfold record
  split <;> rfl

theorem getLsbD_record (seqId bit : Nat) :
    (window.record seqId).bitmap.getLsbD bit =
      (window.bitmap.getLsbD bit || (decide (window.offset seqId < 64) && decide (bit = window.offset seqId))) := by
  unfold record
  by_cases inside : window.offset seqId < 64
  · rw [if_pos inside]
    have one : forall index, BitVec.getLsbD (1 : BitVec 64) index = decide (index = 0) := by
      intro index
      exact BitVec.getLsbD_one
    simp only [BitVec.getLsbD_or, BitVec.getLsbD_shiftLeft, one, inside, decide_true, Bool.true_and]
    by_cases same : bit = window.offset seqId
    · simp [same, inside]
    · by_cases below : bit < window.offset seqId
      · simp [below, same]
      · have nonzero : bit - window.offset seqId ≠ 0 := by omega
        simp [same, nonzero]
  · rw [if_neg inside]
    simp [inside]

section

variable (covers : window.Covers time accepted stamp base)

include covers

theorem Covers.not_mem (frame : time number = stamp) (admits : window.admits (u16 number) = true) :
    number ∉ accepted := by
  intro member
  simp only [AncWindow.admits, Bool.and_eq_true, decide_eq_true_eq, Bool.not_eq_true'] at admits
  have seen := covers.bits number member frame admits.1
  rw [admits.2] at seen
  cases seen

theorem Covers.base_le
    (admits : window.admits (u16 number) = true) (near : base - number < 32768) : base ≤ number := by
  simp only [AncWindow.admits, Bool.and_eq_true, decide_eq_true_eq] at admits
  have inside := admits.1
  rw [AncWindow.offset, covers.baseSeq, u16_sub_u16, u16_eq] at inside
  omega

theorem Covers.record (number : Int) :
    (window.record (u16 number)).Covers time (number :: accepted) stamp base where
  valid := by
    unfold AncWindow.record
    split <;> exact covers.valid
  tmstamp := by
    unfold AncWindow.record
    split <;> exact covers.tmstamp
  baseSeq := by
    unfold AncWindow.record
    split <;> exact covers.baseSeq
  bits other member frame inside := by
    rw [offset_record] at inside ⊢
    rw [getLsbD_record]
    rcases List.mem_cons.mp member with newest | old
    · rw [newest] at inside ⊢
      simp [inside]
    · rw [covers.bits other old frame inside, Bool.true_or]

theorem Covers.skip
    (other : time number ≠ stamp) : window.Covers time (number :: accepted) stamp base where
  valid := covers.valid
  tmstamp := covers.tmstamp
  baseSeq := covers.baseSeq
  bits member inList frame inside := by
    rcases List.mem_cons.mp inList with newest | old
    · exact absurd (newest ▸ frame) other
    · exact covers.bits member old frame inside

end

theorem covers_fresh (none : ∀ number ∈ accepted, time number ≠ stamp) :
    (AncWindow.mk 0 (u32 stamp) (u16 base) true).Covers time accepted stamp base where
  valid := rfl
  tmstamp := rfl
  baseSeq := rfl
  bits number member frame _ := absurd frame (none number member)

end AncWindow

/-! ## The watcher -/

/-- A packet arriving on a port: its extended number and what happens around it. -/
structure AncArrival where
  number : Int
  port : MtlSessionPort
  pkt : AncPkt
  env : AncEnv

/-- The session together with the extended numbers it accepted, newest first, the first and the
greatest of them, and the time of the newest packet it handed on. -/
structure Watched where
  session : RxAncSession
  accepted : List Int
  first : Int
  newest : Int
  now : Int

def AncArrival.handedOn (arrival : AncArrival) (s : RxAncSession) : Bool :=
  decide (s.ops.type = .frameLevel) || arrival.env.ringTakes

/-- One packet. -/
def watchPkt (time : Int -> Int) (w : Watched) (arrival : AncArrival) : Watched :=
  match rxAncillarySessionHandlePkt arrival.env w.session arrival.pkt arrival.port with
  | (s, .ok) =>
    let stamp := time arrival.number
    if w.accepted = [] then
      { session := s
        accepted := [arrival.number]
        first := arrival.number
        newest := arrival.number
        now := if arrival.handedOn w.session then stamp else stamp - 1 }
    else
      { w with
        session := s
        accepted := arrival.number :: w.accepted
        newest := max w.newest arrival.number
        now := if arrival.handedOn w.session then max w.now stamp else w.now }
  | (s, _) => { w with session := s }

/-- A copy of the packet of the stream with this number. -/
structure AncArrival.Copy (time : Int -> Int) (arrival : AncArrival) : Prop where
  seqNumber : arrival.pkt.seqNumber = u16 arrival.number
  tmstamp : arrival.pkt.tmstamp = u32 (time arrival.number)

/-- Packets that the header checks drop are free.  The others are copies of the stream, less than
half a circle away from where the session is, and do not meet the redundancy threshold. -/
def Watched.Live (time : Int -> Int) (w : Watched) (arrival : AncArrival) : Prop :=
  rxAncWrongHeader w.session arrival.pkt = none ->
    arrival.Copy time ∧
    (w.accepted ≠ [] ->
      (arrival.number - w.newest < 32768 ∧ w.newest - arrival.number < 32768) ∧
      (time arrival.number - w.now < 2147483648 ∧ w.now - time arrival.number < 2147483648)) ∧
    (let prepared := rxAncPrepare w.session arrival.pkt arrival.port
     rxAncVerdict prepared arrival.pkt = .redundant ->
      rxAncThresholdReached (rxAncCountRedundant prepared arrival.port) = false)

instance (time : Int -> Int) (arrival : AncArrival) : Decidable (arrival.Copy time) :=
  decidable_of_iff (arrival.pkt.seqNumber = u16 arrival.number ∧
      arrival.pkt.tmstamp = u32 (time arrival.number))
    ⟨fun both => ⟨both.1, both.2⟩, fun copy => ⟨copy.seqNumber, copy.tmstamp⟩⟩

instance (time : Int -> Int) (w : Watched) (arrival : AncArrival) :
    Decidable (w.Live time arrival) :=
  inferInstanceAs (Decidable (rxAncWrongHeader w.session arrival.pkt = none ->
    arrival.Copy time ∧
    (w.accepted ≠ [] ->
      (arrival.number - w.newest < 32768 ∧ w.newest - arrival.number < 32768) ∧
      (time arrival.number - w.now < 2147483648 ∧ w.now - time arrival.number < 2147483648)) ∧
    (rxAncVerdict (rxAncPrepare w.session arrival.pkt arrival.port) arrival.pkt = .redundant ->
      rxAncThresholdReached (rxAncCountRedundant (rxAncPrepare w.session arrival.pkt arrival.port)
        arrival.port) = false)))

def watchStart (s : RxAncSession) : Watched :=
  { session := s, accepted := [], first := 0, newest := 0, now := 0 }

/-! ## The invariant -/

/-- The numbers behind the sequence number and the windows of a session. -/
structure Following (time : Int -> Int) (part : FilterPart) (accepted : List Int)
    (first newest : Int) : Prop where
  seq : part.sessionSeqId = u16 newest
  newest_mem : newest ∈ accepted
  range : ∀ number ∈ accepted, first ≤ number ∧ number ≤ newest
  nodup : accepted.Nodup
  balance : ((part.pktsUnrecovered + accepted.length : Nat) : Int) = newest - first + 1
  current : Exists fun base => part.ancWindowCur.Covers time accepted (time newest) base ∧
    first ≤ base ∧ base ≤ newest
  previous : part.ancWindowPrev.valid = true -> Exists fun base => Exists fun stamp =>
    part.ancWindowPrev.Covers time accepted stamp base ∧ first ≤ base ∧ base ≤ newest ∧
      stamp < time newest ∧ time newest - stamp < 2147483648

/-- The state of a session that has accepted something. -/
structure Tracking (time : Int -> Int) (part : FilterPart) (accepted : List Int)
    (first newest now : Int) : Prop where
  following : Following time part accepted first newest
  stamp : part.tmstamp = u32 now
  now_le : now ≤ time newest
  lag : time newest - now < 2147483648
  counted : part.pktsReceived + part.pktsEnqueueFail = accepted.length

/-- The session has accepted nothing yet. -/
structure Untouched (part : FilterPart) : Prop where
  seq : part.sessionSeqId = -1
  stamp : part.tmstamp = -1
  current : part.ancWindowCur.valid = false
  previous : part.ancWindowPrev.valid = false
  received : part.pktsReceived = 0
  unrecovered : part.pktsUnrecovered = 0
  enqueueFail : part.pktsEnqueueFail = 0

def Watched.Sound (time : Int -> Int) (w : Watched) : Prop :=
  (w.accepted = [] ∧ Untouched w.session.filterPart) ∨
    (w.accepted ≠ [] ∧ w.accepted.getLast? = some w.first ∧
      Tracking time w.session.filterPart w.accepted w.first w.newest w.now)

/-! ## Accepting a packet -/

theorem time_eq_of_stamp {left right : Int} (same : u32 left = u32 right)
    (above : left - right < 4294967296) (below : right - left < 4294967296) : left = right := by
  simp only [u32_eq] at same
  omega

theorem length_lt_of_missing {accepted : List Int} {first newest number : Int}
    (nodup : accepted.Nodup) (range : ∀ other ∈ accepted, first ≤ other ∧ other ≤ newest)
    (lower : first ≤ number) (upper : number ≤ newest) (missing : number ∉ accepted) :
    (accepted.length : Int) < newest - first + 1 := by
  have subset : (number :: accepted).toFinset ⊆ Finset.Icc first newest := by
    intro other member
    rw [List.mem_toFinset] at member
    rw [Finset.mem_Icc]
    rcases List.mem_cons.mp member with same | old
    · exact same ▸ ⟨lower, upper⟩
    · exact range other old
  have size := Finset.card_le_card subset
  rw [List.toFinset_card_of_nodup (List.nodup_cons.mpr ⟨missing, nodup⟩), Int.card_Icc,
    List.length_cons] at size
  omega

section Accepting

variable {time : Int -> Int} {s : RxAncSession} {accepted : List Int} {first newest number : Int}
  {pkt : AncPkt} {port : MtlSessionPort}

theorem rxAncRecordWindow_filterPart (s : RxAncSession) (pkt : AncPkt) (old : Int) :
    (rxAncRecordWindow s pkt old).filterPart =
      { s.filterPart with
        ancWindowCur := (rxAncRecordWindow s pkt old).ancWindowCur
        ancWindowPrev := (rxAncRecordWindow s pkt old).ancWindowPrev } := by
  unfold rxAncRecordWindow
  split
  · rfl
  · split <;> rfl

theorem rxAncAdvance_windows (s : RxAncSession) (pkt : AncPkt) (port : MtlSessionPort) :
    (rxAncAdvance s pkt port).ancWindowCur = (rxAncRecordWindow s pkt s.sessionSeqId).ancWindowCur ∧
      (rxAncAdvance s pkt port).ancWindowPrev =
        (rxAncRecordWindow s pkt s.sessionSeqId).ancWindowPrev := by
  unfold rxAncAdvance rxAncRecordWindow
  dsimp only
  split
  · exact ⟨rfl, rfl⟩
  · split <;> exact ⟨rfl, rfl⟩

theorem rxAncAdvance_filterPart (s : RxAncSession) (pkt : AncPkt) (port : MtlSessionPort) :
    (rxAncAdvance s pkt port).filterPart =
      { s.filterPart with
        sessionSeqId :=
          if mtSeq16Greater pkt.seqNumber s.sessionSeqId then (pkt.seqNumber : Int) else s.sessionSeqId
        redundantErrorCnt := Function.update s.redundantErrorCnt port 0
        pktsUnrecovered :=
          if pkt.seqNumber ≠ u16 (s.sessionSeqId + 1) ∧ mtSeq16Greater pkt.seqNumber s.sessionSeqId then
            s.stats.pktsUnrecovered + u16 ((pkt.seqNumber : Int) - s.sessionSeqId - 1)
          else s.stats.pktsUnrecovered
        ancWindowCur := (rxAncRecordWindow s pkt s.sessionSeqId).ancWindowCur
        ancWindowPrev := (rxAncRecordWindow s pkt s.sessionSeqId).ancWindowPrev } := by
  rcases rxAncAdvance_windows s pkt port with ⟨current, previous⟩
  rw [← current, ← previous]
  unfold rxAncAdvance
  dsimp only
  rw [rxAncRecordWindow_filterPart]
  unfold RxAncSession.filterPart
  by_cases skipped : pkt.seqNumber ≠ u16 (s.sessionSeqId + 1) ∧
      mtSeq16Greater pkt.seqNumber s.sessionSeqId = true
  · simp only [if_pos skipped]
  · simp only [if_neg skipped]

theorem rxAncAdvance_newer (port : MtlSessionPort) (seq : s.sessionSeqId = u16 newest)
    (seqNumber : pkt.seqNumber = u16 number) (newer : newest < number)
    (near : number - newest < 32768) :
    (rxAncAdvance s pkt port).filterPart.sessionSeqId = u16 number ∧
      ((rxAncAdvance s pkt port).filterPart.pktsUnrecovered : Int) =
        s.filterPart.pktsUnrecovered + (number - newest - 1) := by
  have greater : mtSeq16Greater (u16 number) (u16 newest) = true :=
    (mtSeq16Greater_iff near (by omega)).mpr newer
  have start : s.filterPart.pktsUnrecovered = s.stats.pktsUnrecovered := rfl
  rw [rxAncAdvance_filterPart, seq, seqNumber, start]
  dsimp only
  rw [if_pos greater]
  refine ⟨rfl, ?_⟩
  by_cases next : u16 number = u16 ((u16 newest : Int) + 1)
  · rw [if_neg (fun skipped => skipped.1 next)]
    simp only [u16_eq] at next
    omega
  · rw [if_pos ⟨next, greater⟩]
    simp only [u16_eq]
    omega

theorem rxAncAdvance_older (port : MtlSessionPort) (seq : s.sessionSeqId = u16 newest)
    (seqNumber : pkt.seqNumber = u16 number) (older : number ≤ newest)
    (near : newest - number < 32768) :
    (rxAncAdvance s pkt port).filterPart.sessionSeqId = u16 newest ∧
      (rxAncAdvance s pkt port).filterPart.pktsUnrecovered = s.filterPart.pktsUnrecovered := by
  have behind : ¬ mtSeq16Greater (u16 number) (u16 newest) = true := by
    rw [mtSeq16Greater_iff (by omega) near]
    omega
  rw [rxAncAdvance_filterPart, seq, seqNumber]
  dsimp only
  rw [if_neg behind, if_neg (fun skipped => behind skipped.2)]
  exact ⟨rfl, rfl⟩

/-! ### Windows -/

theorem rxAncAdvance_previous (port : MtlSessionPort) (valid : s.ancWindowPrev.valid = true)
    (frame : pkt.tmstamp = s.ancWindowPrev.tmstamp) :
    (rxAncAdvance s pkt port).filterPart.ancWindowCur = s.ancWindowCur ∧
      (rxAncAdvance s pkt port).filterPart.ancWindowPrev = s.ancWindowPrev.record pkt.seqNumber := by
  have recorded : rxAncRecordWindow s pkt s.sessionSeqId =
      { s with ancWindowPrev := s.ancWindowPrev.record pkt.seqNumber } := by
    rw [rxAncRecordWindow, if_pos ⟨valid, frame⟩]
  rw [rxAncAdvance_filterPart, recorded]
  exact ⟨rfl, rfl⟩

section

variable (port : MtlSessionPort)
    (other : ¬ (s.ancWindowPrev.valid = true ∧ pkt.tmstamp = s.ancWindowPrev.tmstamp))

include other

theorem rxAncAdvance_current
    (valid : s.ancWindowCur.valid = true) (frame : pkt.tmstamp = s.ancWindowCur.tmstamp) :
    (rxAncAdvance s pkt port).filterPart.ancWindowCur = s.ancWindowCur.record pkt.seqNumber ∧
      (rxAncAdvance s pkt port).filterPart.ancWindowPrev = s.ancWindowPrev := by
  have open_frame : ¬ ((!s.ancWindowCur.valid) = true ∨ pkt.tmstamp ≠ s.ancWindowCur.tmstamp) := by
    rw [valid, frame]
    simp
  have recorded : rxAncRecordWindow s pkt s.sessionSeqId =
      { s with ancWindowCur := s.ancWindowCur.record pkt.seqNumber } := by
    rw [rxAncRecordWindow, if_neg other, if_neg open_frame]
  rw [rxAncAdvance_filterPart, recorded]
  exact ⟨rfl, rfl⟩

theorem rxAncAdvance_next
    (frame : s.ancWindowCur.valid = true -> pkt.tmstamp ≠ s.ancWindowCur.tmstamp) :
    (rxAncAdvance s pkt port).filterPart.ancWindowCur =
        (AncWindow.mk 0 pkt.tmstamp (u16 (s.sessionSeqId + 1)) true).record pkt.seqNumber ∧
      (rxAncAdvance s pkt port).filterPart.ancWindowPrev =
        if s.ancWindowCur.valid then s.ancWindowCur else s.ancWindowPrev := by
  have new_frame : (!s.ancWindowCur.valid) = true ∨ pkt.tmstamp ≠ s.ancWindowCur.tmstamp := by
    cases valid : s.ancWindowCur.valid with
    | false => exact Or.inl rfl
    | true => exact Or.inr (frame valid)
  have recorded : rxAncRecordWindow s pkt s.sessionSeqId = { s with
      ancWindowPrev := if s.ancWindowCur.valid then s.ancWindowCur else s.ancWindowPrev
      ancWindowCur :=
        (AncWindow.mk 0 pkt.tmstamp (u16 (s.sessionSeqId + 1)) true).record pkt.seqNumber } := by
    rw [rxAncRecordWindow, if_neg other, if_pos new_frame]
  rw [rxAncAdvance_filterPart, recorded]
  exact ⟨rfl, rfl⟩

end

/-! ### The numbers after an accepted packet -/

theorem range_cons {accepted : List Int} {first newest number limit : Int}
    (range : ∀ other ∈ accepted, first ≤ other ∧ other ≤ newest)
    (lower : first ≤ number) (upper : number ≤ limit) (grown : newest ≤ limit) :
    ∀ other ∈ number :: accepted, first ≤ other ∧ other ≤ limit := by
  intro other member
  rcases List.mem_cons.mp member with same | old
  · exact same ▸ ⟨lower, upper⟩
  · exact ⟨(range other old).1, Int.le_trans (range other old).2 grown⟩

theorem Following.not_previous (following : Following time s.filterPart accepted first newest)
    (tmstamp : pkt.tmstamp = u32 (time number)) (later : time newest ≤ time number)
    (soon : time number - time newest < 2147483648) :
    ¬ (s.ancWindowPrev.valid = true ∧ pkt.tmstamp = s.ancWindowPrev.tmstamp) := by
  rintro ⟨valid, frame⟩
  rcases following.previous valid with ⟨base, stamp, covers, -, -, before, close⟩
  rw [tmstamp] at frame
  have equal := time_eq_of_stamp (frame.trans covers.tmstamp) (by omega) (by omega)
  omega

/-- Accepting a packet newer than all others. -/
theorem Following.newer (monotone : Monotone time) (port : MtlSessionPort)
    (following : Following time s.filterPart accepted first newest)
    (seqNumber : pkt.seqNumber = u16 number) (tmstamp : pkt.tmstamp = u32 (time number))
    (newer : newest < number) (near : number - newest < 32768)
    (soon : time number - time newest < 2147483648) :
    Following time (rxAncAdvance s pkt port).filterPart (number :: accepted) first number := by
  have later : time newest ≤ time number := monotone (Int.le_of_lt newer)
  rcases rxAncAdvance_newer port following.seq seqNumber newer near with ⟨seq, lost⟩
  have firstLe := (following.range newest following.newest_mem).1
  have unseen : number ∉ accepted := by
    intro member
    have bound := (following.range number member).2
    omega
  have notPrevious := following.not_previous tmstamp later soon
  have range := range_cons following.range (show first ≤ number by omega) (Int.le_refl _)
    (Int.le_of_lt newer)
  have balance : (((rxAncAdvance s pkt port).filterPart.pktsUnrecovered +
      (number :: accepted).length : Nat) : Int) = number - first + 1 := by
    have before := following.balance
    rw [List.length_cons]
    push_cast at before ⊢
    omega
  rcases following.current with ⟨base, covers, baseLower, baseUpper⟩
  by_cases same : time number = time newest
  · have frame : pkt.tmstamp = s.ancWindowCur.tmstamp := by
      rw [tmstamp, same]
      exact covers.tmstamp.symm
    rcases rxAncAdvance_current port notPrevious covers.valid frame with ⟨current, previous⟩
    refine ⟨seq, List.mem_cons_self, range, List.nodup_cons.mpr ⟨unseen, following.nodup⟩, balance,
      ⟨base, ?_, baseLower, by omega⟩, ?_⟩
    · rw [current, seqNumber, same]
      exact covers.record number
    · rw [previous]
      intro valid
      rcases following.previous valid with ⟨base, stamp, covers, lower, upper, before, close⟩
      exact ⟨base, stamp, covers.skip (by omega), lower, by omega, by omega, by omega⟩
  · have differs : pkt.tmstamp ≠ s.ancWindowCur.tmstamp := by
      intro frame
      rw [tmstamp] at frame
      exact same (time_eq_of_stamp (frame.trans covers.tmstamp) (by omega) (by omega))
    rcases rxAncAdvance_next port notPrevious (fun _ => differs) with ⟨current, previous⟩
    refine ⟨seq, List.mem_cons_self, range, List.nodup_cons.mpr ⟨unseen, following.nodup⟩, balance,
      ⟨newest + 1, ?_, by omega, by omega⟩, ?_⟩
    · have base_eq : u16 (s.sessionSeqId + 1) = u16 (newest + 1) := by
        have number_eq : s.sessionSeqId = u16 newest := following.seq
        rw [number_eq, u16_add_u16]
      rw [current, seqNumber, tmstamp, base_eq]
      apply AncWindow.Covers.record
      apply AncWindow.covers_fresh
      intro other member equal
      have bound := monotone (following.range other member).2
      omega
    · have currentValid : s.ancWindowCur.valid = true := covers.valid
      rw [previous, currentValid]
      intro valid
      exact ⟨base, time newest, covers.skip (by omega), baseLower, by omega, by omega, by omega⟩

theorem Following.late {part : FilterPart} (following : Following time s.filterPart accepted first newest)
    (unseen : number ∉ accepted) (lower : first ≤ number) (older : number ≤ newest)
    (seq : part.sessionSeqId = u16 newest)
    (lost : part.pktsUnrecovered = s.filterPart.pktsUnrecovered - 1)
    (current : Exists fun base => part.ancWindowCur.Covers time (number :: accepted) (time newest) base ∧
      first ≤ base ∧ base ≤ newest)
    (previous : part.ancWindowPrev.valid = true -> Exists fun base => Exists fun stamp =>
      part.ancWindowPrev.Covers time (number :: accepted) stamp base ∧ first ≤ base ∧ base ≤ newest ∧
        stamp < time newest ∧ time newest - stamp < 2147483648) :
    Following time part (number :: accepted) first newest := by
  have missing := length_lt_of_missing following.nodup following.range lower older unseen
  refine ⟨seq, List.mem_cons_of_mem _ following.newest_mem,
    range_cons following.range lower older (Int.le_refl _),
    List.nodup_cons.mpr ⟨unseen, following.nodup⟩, ?_, current, previous⟩
  have before := following.balance
  rw [lost, List.length_cons]
  push_cast at before ⊢
  omega

section

variable (port : MtlSessionPort) (following : Following time s.filterPart accepted first newest)
    (seqNumber : pkt.seqNumber = u16 number) (tmstamp : pkt.tmstamp = u32 (time number))
    (older : number ≤ newest) (near : newest - number < 32768)

include following seqNumber tmstamp older near

theorem Following.lateCurrent
    (above : time number - time newest < 2147483648) (below : time newest - time number < 4294967296)
    (frame : pkt.tmstamp = s.ancWindowCur.tmstamp)
    (admits : s.ancWindowCur.admits pkt.seqNumber = true) :
    Following time (rxAncAdvance (rxAncRecover s) pkt port).filterPart (number :: accepted) first
      newest := by
  rcases following.current with ⟨base, covers, baseLower, baseUpper⟩
  have same : time number = time newest := by
    rw [tmstamp] at frame
    exact time_eq_of_stamp (frame.trans covers.tmstamp) (by omega) below
  rw [seqNumber] at admits
  have unseen := covers.not_mem same admits
  have inside := covers.base_le admits (by omega)
  have notPrevious := following.not_previous tmstamp (by omega) (by omega)
  rcases @rxAncAdvance_older (rxAncRecover s) newest number pkt port following.seq seqNumber older near
    with ⟨seq, lost⟩
  rcases @rxAncAdvance_current (rxAncRecover s) pkt port notPrevious covers.valid frame
    with ⟨current, previous⟩
  apply following.late unseen (by omega) older seq lost
  · refine ⟨base, ?_, baseLower, baseUpper⟩
    rw [current, seqNumber]
    exact covers.record number
  · rw [previous]
    intro valid
    rcases following.previous valid with ⟨base, stamp, covers, lower, upper, before, close⟩
    exact ⟨base, stamp, covers.skip (by omega), lower, upper, before, close⟩

theorem Following.latePrevious
    (above : time number ≤ time newest) (below : time newest - time number < 4294967296)
    (valid : s.ancWindowPrev.valid = true) (frame : pkt.tmstamp = s.ancWindowPrev.tmstamp)
    (admits : s.ancWindowPrev.admits pkt.seqNumber = true) :
    Following time (rxAncAdvance (rxAncRecover s) pkt port).filterPart (number :: accepted) first
      newest := by
  rcases following.previous valid with ⟨base, stamp, covers, baseLower, baseUpper, before, close⟩
  have same : time number = stamp := by
    rw [tmstamp] at frame
    exact time_eq_of_stamp (frame.trans covers.tmstamp) (by omega) (by omega)
  rw [seqNumber] at admits
  have unseen := covers.not_mem same admits
  have inside := covers.base_le admits (by omega)
  rcases @rxAncAdvance_older (rxAncRecover s) newest number pkt port following.seq seqNumber older near
    with ⟨seq, lost⟩
  rcases @rxAncAdvance_previous (rxAncRecover s) pkt port valid frame with ⟨current, previous⟩
  apply following.late unseen (by omega) older seq lost
  · rcases following.current with ⟨base, covers, lower, upper⟩
    refine ⟨base, ?_, lower, upper⟩
    rw [current]
    exact covers.skip (by omega)
  · rw [previous, seqNumber]
    intro _
    exact ⟨base, stamp, covers.record number, baseLower, baseUpper, before, close⟩

end

/-! ### Handing the packet on -/

theorem rxAncFinish_filterPart (s : RxAncSession) (pkt : AncPkt) (port : MtlSessionPort)
    (bypass : Bool) :
    (rxAncFinish s pkt port bypass).filterPart =
      if (pkt.tmstamp : Int) ≠ s.tmstamp ∧ (mtSeq32Greater pkt.tmstamp s.tmstamp ∨ bypass) then
        { s.filterPart with
          prevTmstamp := s.tmstamp
          tmstamp := pkt.tmstamp
          pktsReceived := s.filterPart.pktsReceived + 1 }
      else
        { s.filterPart with pktsReceived := s.filterPart.pktsReceived + 1 } := by
  unfold rxAncFinish
  by_cases moved : (pkt.tmstamp : Int) ≠ s.tmstamp ∧ (mtSeq32Greater pkt.tmstamp s.tmstamp ∨ bypass)
  · simp only [if_pos moved]
    rfl
  · simp only [if_neg moved]
    rfl

theorem rxAncFinish_tracking {now : Int} (following : Following time s.filterPart accepted first newest)
    (stamp : s.filterPart.tmstamp = u32 now) (tmstamp : pkt.tmstamp = u32 (time number))
    (ahead : time number - now < 2147483648) (behind : now - time number < 2147483648)
    (now_le : now ≤ time newest) (lag : time newest - now < 2147483648)
    (inside : time number ≤ time newest)
    (counted : s.filterPart.pktsReceived + s.filterPart.pktsEnqueueFail + 1 = accepted.length) :
    Tracking time (rxAncFinish s pkt port false).filterPart accepted first newest
      (max now (time number)) := by
  have clock : s.tmstamp = u32 now := stamp
  have greater := mtSeq32Greater_iff ahead behind
  rw [rxAncFinish_filterPart, tmstamp, clock]
  by_cases later : now < time number
  · have moved : ((u32 (time number) : Nat) : Int) ≠ (u32 now : Nat) ∧
        (mtSeq32Greater (u32 (time number)) (u32 now) = true ∨ false = true) := by
      refine ⟨?_, Or.inl (greater.mpr later)⟩
      simp only [u32_eq]
      omega
    rw [if_pos moved, max_eq_right (Int.le_of_lt later)]
    exact ⟨⟨following.seq, following.newest_mem, following.range, following.nodup, following.balance,
      following.current, following.previous⟩, rfl, inside, (by omega), (by dsimp only; omega)⟩
  · have still : ¬ (((u32 (time number) : Nat) : Int) ≠ (u32 now : Nat) ∧
        (mtSeq32Greater (u32 (time number)) (u32 now) = true ∨ false = true)) := by
      rintro ⟨-, moved | absurd⟩
      · exact later (greater.mp moved)
      · cases absurd
    rw [if_neg still, max_eq_left (by omega)]
    exact ⟨⟨following.seq, following.newest_mem, following.range, following.nodup, following.balance,
      following.current, following.previous⟩, clock, now_le, lag, (by dsimp only; omega)⟩

/-- The same for everything after `accept_pkt`. -/
theorem rxAncAccept_tracking {now : Int} (env : AncEnv)
    (following : Following time (rxAncAdvance s pkt port).filterPart accepted first newest)
    (stamp : s.filterPart.tmstamp = u32 now) (tmstamp : pkt.tmstamp = u32 (time number))
    (ahead : time number - now < 2147483648) (behind : now - time number < 2147483648)
    (now_le : now ≤ time newest) (lag : time newest - now < 2147483648)
    (inside : time number ≤ time newest)
    (counted : s.filterPart.pktsReceived + s.filterPart.pktsEnqueueFail + 1 = accepted.length) :
    Tracking time (rxAncAccept env s pkt port false).filterPart accepted first newest
      (if decide (s.ops.type = .frameLevel) || env.ringTakes then max now (time number) else now) := by
  have fields := rxAncAdvance_filterPart s pkt port
  have advanced : (rxAncAdvance s pkt port).filterPart.tmstamp = u32 now := by
    rw [fields]
    exact stamp
  have counts : (rxAncAdvance s pkt port).filterPart.pktsReceived +
      (rxAncAdvance s pkt port).filterPart.pktsEnqueueFail + 1 = accepted.length := by
    rw [fields]
    exact counted
  have type_eq : (rxAncAdvance s pkt port).ops = s.ops := congrArg FilterPart.ops fields
  unfold rxAncAccept
  dsimp only
  rw [type_eq]
  cases kind : s.ops.type with
  | frameLevel =>
    dsimp only
    rw [decide_eq_true rfl, Bool.true_or, if_pos rfl]
    have same := rxAncillarySessionAssemblePkt_filterPart env (rxAncAdvance s pkt port) pkt port
    apply rxAncFinish_tracking
    · rw [same]
      exact following
    · rw [same]
      exact advanced
    · exact tmstamp
    · exact ahead
    · exact behind
    · exact now_le
    · exact lag
    · exact inside
    · rw [same]
      exact counts
  | rtpLevel =>
    dsimp only
    rw [decide_eq_false (by decide), Bool.false_or]
    cases env.ringTakes with
    | true =>
      rw [if_pos rfl, if_pos rfl]
      exact rxAncFinish_tracking following advanced tmstamp ahead behind now_le lag inside counts
    | false =>
      rw [if_neg (by decide), if_neg (by decide)]
      refine ⟨⟨following.seq, following.newest_mem, following.range, following.nodup,
        following.balance, following.current, following.previous⟩, advanced, now_le, lag, ?_⟩
      rw [← counts]
      exact (Nat.add_assoc _ _ _).symm

end Accepting

/-! ## The filter's decision -/

theorem rxAncDetect_filterPart (s : RxAncSession) (pkt : AncPkt) :
    (rxAncDetect s pkt).filterPart = { s.filterPart with ops := (rxAncDetect s pkt).ops } ∧
      (rxAncDetect s pkt).ops.type = s.ops.type := by
  unfold rxAncDetect
  split <;> exact ⟨rfl, rfl⟩

section

variable (s : RxAncSession) (pkt : AncPkt) (port : MtlSessionPort)

theorem rxAncFieldStats_kept :
    (rxAncFieldStats s pkt port).pktsReceived = s.stats.pktsReceived ∧
      (rxAncFieldStats s pkt port).pktsUnrecovered = s.stats.pktsUnrecovered ∧
      (rxAncFieldStats s pkt port).pktsEnqueueFail = s.stats.pktsEnqueueFail := by
  unfold rxAncFieldStats
  dsimp only
  by_cases interlaced : pkt.interlaced = true
  · rw [if_pos interlaced]
    split <;> split <;> exact ⟨rfl, rfl, rfl⟩
  · rw [if_neg interlaced]
    split <;> exact ⟨rfl, rfl, rfl⟩

theorem rxAncNoteField_filterPart :
    (rxAncNoteField s pkt port).filterPart =
      { s.filterPart with ops := (rxAncNoteField s pkt port).ops } ∧
      (rxAncNoteField s pkt port).ops.type = s.ops.type := by
  unfold rxAncNoteField
  split
  · exact ⟨rfl, rfl⟩
  · rcases rxAncDetect_filterPart s pkt with ⟨same, type_eq⟩
    rcases rxAncFieldStats_kept (rxAncDetect s pkt) pkt port with ⟨received, unrecovered, failed⟩
    refine ⟨?_, type_eq⟩
    have unfolded : (rxAncDetect s pkt).filterPart = { s.filterPart with ops := (rxAncDetect s pkt).ops } := same
    unfold RxAncSession.filterPart at unfolded ⊢
    dsimp only at unfolded ⊢
    rw [received, unrecovered, failed]
    exact unfolded

theorem rxAncCountPort_filterPart :
    (rxAncCountPort s pkt port).filterPart = s.filterPart := by
  unfold rxAncCountPort RxAncSession.filterPart AncStats.setPort
  dsimp only
  split <;> rfl

theorem rxAncPrepare_filterPart :
    (rxAncPrepare s pkt port).filterPart =
      { s.filterPart with
        ops := (rxAncPrepare s pkt port).ops
        sessionSeqId := if s.sessionSeqId = -1 then (pkt.seqNumber : Int) - 1 else s.sessionSeqId
        tmstamp := if s.tmstamp = -1 then (u32 ((pkt.tmstamp : Int) - 1) : Int) else s.tmstamp } ∧
      (rxAncPrepare s pkt port).ops.type = s.ops.type := by
  rcases rxAncNoteField_filterPart s pkt port with ⟨same, type_eq⟩
  have counted := rxAncCountPort_filterPart (rxAncStart (rxAncNoteField s pkt port) pkt port) pkt port
  have ops_eq : (rxAncPrepare s pkt port).ops = (rxAncNoteField s pkt port).ops :=
    congrArg FilterPart.ops counted
  have seq_eq : (rxAncNoteField s pkt port).sessionSeqId = s.sessionSeqId :=
    congrArg FilterPart.sessionSeqId same
  have stamp_eq : (rxAncNoteField s pkt port).tmstamp = s.tmstamp := congrArg FilterPart.tmstamp same
  constructor
  · rw [ops_eq]
    unfold rxAncPrepare
    rw [counted]
    have started : (rxAncStart (rxAncNoteField s pkt port) pkt port).filterPart =
        { (rxAncNoteField s pkt port).filterPart with
          sessionSeqId := if s.sessionSeqId = -1 then (pkt.seqNumber : Int) - 1 else s.sessionSeqId
          tmstamp := if s.tmstamp = -1 then (u32 ((pkt.tmstamp : Int) - 1) : Int) else s.tmstamp } := by
      rw [← seq_eq, ← stamp_eq]
      rfl
    rw [started, same]
  · rw [ops_eq]
    exact type_eq

end

section

variable {s : RxAncSession} {pkt : AncPkt}

theorem rxAncVerdict_lateCurrent (late : rxAncVerdict s pkt = .lateCurrent) :
    pkt.tmstamp = s.ancWindowCur.tmstamp ∧ s.ancWindowCur.admits pkt.seqNumber = true := by
  unfold rxAncVerdict at late
  split at late
  · split at late
    next current => exact ⟨current.2.1, current.2.2.2⟩
    next other => split at late <;> cases late
  · cases late

theorem rxAncVerdict_latePrevious (late : rxAncVerdict s pkt = .latePrevious) :
    s.ancWindowPrev.valid = true ∧ pkt.tmstamp = s.ancWindowPrev.tmstamp ∧
      s.ancWindowPrev.admits pkt.seqNumber = true := by
  unfold rxAncVerdict at late
  split at late
  · split at late
    next current => cases late
    next other =>
      split at late
      next previous => exact previous.2.2
      next neither => cases late
  · cases late

theorem rxAncVerdict_fresh_iff :
    rxAncVerdict s pkt = .fresh <->
      mtSeq32Greater s.tmstamp pkt.tmstamp = false ∧
        mtSeq16Greater pkt.seqNumber s.sessionSeqId = true := by
  unfold rxAncVerdict
  by_cases behind : (mtSeq32Greater s.tmstamp pkt.tmstamp ||
      !mtSeq16Greater pkt.seqNumber s.sessionSeqId) = true
  · rw [if_pos behind]
    constructor
    · intro fresh
      split at fresh
      · cases fresh
      · split at fresh <;> cases fresh
    · rintro ⟨notOlder, newer⟩
      rw [notOlder, newer] at behind
      cases behind
  · rw [if_neg behind]
    simp only [Bool.or_eq_true, Bool.not_eq_true', not_or, Bool.not_eq_true, Bool.not_eq_false]
      at behind
    exact ⟨fun _ => behind, fun _ => rfl⟩

end

/-! ## One packet -/

section Step

variable {time : Int -> Int} {s : RxAncSession} {accepted : List Int}
  {first newest now number : Int} {pkt : AncPkt} {port : MtlSessionPort}

theorem Tracking.unfiltered {part : FilterPart} (tracking : Tracking time part accepted first newest now)
    (ops : St40RxOps) (errors : MtlSessionPort -> Nat) :
    Tracking time { part with ops := ops, redundantErrorCnt := errors } accepted first newest now :=
  ⟨⟨tracking.following.seq, tracking.following.newest_mem, tracking.following.range,
    tracking.following.nodup, tracking.following.balance, tracking.following.current,
    tracking.following.previous⟩, tracking.stamp, tracking.now_le, tracking.lag, tracking.counted⟩

theorem Tracking.prepare (tracking : Tracking time s.filterPart accepted first newest now)
    (pkt : AncPkt) (port : MtlSessionPort) :
    Tracking time (rxAncPrepare s pkt port).filterPart accepted first newest now := by
  have seq : s.sessionSeqId = u16 newest := tracking.following.seq
  have stamp : s.tmstamp = u32 now := tracking.stamp
  rw [(rxAncPrepare_filterPart s pkt port).1]
  have seqSet : ¬ s.sessionSeqId = -1 := by omega
  have stampSet : ¬ s.tmstamp = -1 := by omega
  rw [if_neg seqSet, if_neg stampSet]
  exact tracking.unfiltered _ s.redundantErrorCnt

theorem Following.opening (port : MtlSessionPort) (seq : s.sessionSeqId = (pkt.seqNumber : Int) - 1)
    (current : s.ancWindowCur.valid = false) (previous : s.ancWindowPrev.valid = false)
    (unrecovered : s.stats.pktsUnrecovered = 0) (seqNumber : pkt.seqNumber = u16 number)
    (tmstamp : pkt.tmstamp = u32 (time number)) :
    Following time (rxAncAdvance s pkt port).filterPart [number] number number := by
  have greater := mtSeq16Greater_pred (u16 number)
  have next : u16 ((u16 number : Int) - 1 + 1) = u16 number := by
    simp only [u16_eq]
    omega
  have notPrevious : ¬ (s.ancWindowPrev.valid = true ∧ pkt.tmstamp = s.ancWindowPrev.tmstamp) := by
    rw [previous]
    simp
  rcases rxAncAdvance_next port notPrevious (fun valid => absurd (current.symm.trans valid) (by decide))
    with ⟨currentAfter, previousAfter⟩
  have fields := rxAncAdvance_filterPart s pkt port
  refine ⟨?_, List.mem_cons_self, ?_, List.nodup_singleton number, ?_, ?_, ?_⟩
  · rw [fields, seq, seqNumber]
    dsimp only
    rw [if_pos greater]
  · intro other member
    rw [List.mem_singleton.mp member]
    exact ⟨Int.le_refl _, Int.le_refl _⟩
  · rw [fields, seq, seqNumber, next]
    dsimp only
    rw [if_neg (fun skipped => skipped.1 rfl), unrecovered]
    simp
  · refine ⟨number, ?_, Int.le_refl _, Int.le_refl _⟩
    rw [currentAfter, seq, seqNumber, next, tmstamp]
    apply AncWindow.Covers.record
    exact AncWindow.covers_fresh (fun _ member => absurd member List.not_mem_nil)
  · rw [previousAfter, current]
    intro valid
    exact absurd (previous.symm.trans valid) (by decide)

/-- The filter on a session that has accepted something: the packet is accepted as a number that
was not accepted before, or it leaves the tracked state alone. -/
theorem Tracking.step (monotone : Monotone time) (env : AncEnv)
    (tracking : Tracking time s.filterPart accepted first newest now)
    (seqNumber : pkt.seqNumber = u16 number) (tmstamp : pkt.tmstamp = u32 (time number))
    (near : number - newest < 32768 ∧ newest - number < 32768)
    (soon : time number - now < 2147483648 ∧ now - time number < 2147483648)
    (below : rxAncVerdict s pkt = .redundant ->
      rxAncThresholdReached (rxAncCountRedundant s port) = false) :
    let result := rxAncHandleChecked env s pkt port
    (result.2 = .ok ->
      Tracking time result.1.filterPart (number :: accepted) first (max newest number)
        (if decide (s.ops.type = .frameLevel) || env.ringTakes then max now (time number) else now)) ∧
    (result.2 ≠ .ok -> Tracking time result.1.filterPart accepted first newest now) := by
  have following := tracking.following
  have seq : s.sessionSeqId = u16 newest := following.seq
  have stamp : s.tmstamp = u32 now := tracking.stamp
  have now_le := tracking.now_le
  have lag := tracking.lag
  have counted := tracking.counted
  unfold rxAncHandleChecked
  by_cases newer : newest < number
  · have later : time newest ≤ time number := monotone (Int.le_of_lt newer)
    have fresh : rxAncVerdict s pkt = .fresh := by
      rw [rxAncVerdict_fresh_iff, seq, stamp, seqNumber, tmstamp]
      constructor
      · apply eq_false_of_ne_true
        rw [mtSeq32Greater_iff soon.2 soon.1]
        omega
      · exact (mtSeq16Greater_iff near.1 near.2).mpr newer
    rw [fresh, max_eq_right (Int.le_of_lt newer)]
    refine ⟨fun _ => ?_, fun failed => absurd rfl failed⟩
    apply rxAncAccept_tracking env _ tracking.stamp tmstamp soon.1 soon.2 (by omega) soon.1
      (Int.le_refl _) (by rw [List.length_cons, counted])
    exact following.newer monotone port seqNumber tmstamp newer near.1 (by omega)
  · have older : time number ≤ time newest := monotone (Int.not_lt.mp newer)
    rw [max_eq_left (Int.not_lt.mp newer)]
    cases verdict : rxAncVerdict s pkt with
    | fresh =>
      have ahead := (rxAncVerdict_fresh_iff.mp verdict).2
      rw [seq, seqNumber, mtSeq16Greater_iff near.1 near.2] at ahead
      exact absurd ahead newer
    | lateCurrent =>
      rcases rxAncVerdict_lateCurrent verdict with ⟨frame, admits⟩
      refine ⟨fun _ => ?_, fun failed => absurd rfl failed⟩
      have accepts := following.lateCurrent port seqNumber tmstamp (Int.not_lt.mp newer) near.2
        (by omega) (by omega) frame admits
      exact @rxAncAccept_tracking time (rxAncRecover s) _ first newest number pkt port now env accepts
        tracking.stamp tmstamp soon.1 soon.2 now_le lag older (by rw [List.length_cons, ← counted]; rfl)
    | latePrevious =>
      rcases rxAncVerdict_latePrevious verdict with ⟨valid, frame, admits⟩
      refine ⟨fun _ => ?_, fun failed => absurd rfl failed⟩
      have accepts := following.latePrevious port seqNumber tmstamp (Int.not_lt.mp newer) near.2
        older (by omega) valid frame admits
      exact @rxAncAccept_tracking time (rxAncRecover s) _ first newest number pkt port now env accepts
        tracking.stamp tmstamp soon.1 soon.2 now_le lag older (by rw [List.length_cons, ← counted]; rfl)
    | redundant =>
      dsimp only
      rw [below verdict]
      refine ⟨fun absurd => (by cases absurd), fun _ => ?_⟩
      exact tracking.unfiltered s.ops _

theorem Untouched.step (env : AncEnv) (untouched : Untouched s.filterPart)
    (seqNumber : pkt.seqNumber = u16 number) (tmstamp : pkt.tmstamp = u32 (time number)) :
    let result := rxAncHandleChecked env (rxAncPrepare s pkt port) pkt port
    result.2 = .ok ∧
      Tracking time result.1.filterPart [number] number number
        (if decide (s.ops.type = .frameLevel) || env.ringTakes then time number else time number - 1) := by
  rcases rxAncPrepare_filterPart s pkt port with ⟨fields, type_eq⟩
  generalize rxAncPrepare s pkt port = p at fields type_eq ⊢
  have seqUnset : s.sessionSeqId = -1 := untouched.seq
  have stampUnset : s.tmstamp = -1 := untouched.stamp
  rw [if_pos seqUnset, if_pos stampUnset] at fields
  have seq : p.sessionSeqId = (pkt.seqNumber : Int) - 1 := congrArg FilterPart.sessionSeqId fields
  have stamp : p.filterPart.tmstamp = u32 (time number - 1) := by
    rw [fields, tmstamp]
    simp only [u32_eq]
    omega
  have current : p.ancWindowCur.valid = false :=
    (congrArg (fun part => part.ancWindowCur.valid) fields).trans untouched.current
  have previous : p.ancWindowPrev.valid = false :=
    (congrArg (fun part => part.ancWindowPrev.valid) fields).trans untouched.previous
  have unrecovered : p.stats.pktsUnrecovered = 0 :=
    (congrArg FilterPart.pktsUnrecovered fields).trans untouched.unrecovered
  have counted : p.filterPart.pktsReceived + p.filterPart.pktsEnqueueFail + 1 = [number].length := by
    rw [fields, List.length_singleton]
    dsimp only
    rw [untouched.received, untouched.enqueueFail]
  have fresh : rxAncVerdict p pkt = .fresh := by
    have clock : p.tmstamp = u32 (time number - 1) := stamp
    rw [rxAncVerdict_fresh_iff, seq, clock, seqNumber, tmstamp]
    constructor
    · apply eq_false_of_ne_true
      rw [mtSeq32Greater_iff (by omega) (by omega)]
      omega
    · exact mtSeq16Greater_pred (u16 number)
  unfold rxAncHandleChecked
  rw [fresh]
  refine ⟨rfl, ?_⟩
  have opening := @Following.opening time p number pkt port seq current previous unrecovered seqNumber
    tmstamp
  have tracking := rxAncAccept_tracking env opening stamp tmstamp (by omega) (by omega) (by omega)
    (by omega) (Int.le_refl _) counted
  rw [type_eq, max_eq_right (by omega)] at tracking
  exact tracking

end Step

theorem rxAncWrongHeader_filterPart {s : RxAncSession} {pkt : AncPkt} {stats : AncStats}
    (wrong : rxAncWrongHeader s pkt = some stats) :
    ({ s with stats := stats } : RxAncSession).filterPart = s.filterPart := by
  unfold rxAncWrongHeader at wrong
  split at wrong
  · cases wrong
    rfl
  · split at wrong
    · cases wrong
      rfl
    · split at wrong
      · cases wrong
        rfl
      · cases wrong

theorem Watched.Sound.step {time : Int -> Int} (monotone : Monotone time) {w : Watched}
    {arrival : AncArrival} (sound : w.Sound time) (live : w.Live time arrival) :
    (watchPkt time w arrival).Sound time := by
  unfold watchPkt rxAncillarySessionHandlePkt
  cases header : rxAncWrongHeader w.session arrival.pkt with
  | some stats =>
    have same := rxAncWrongHeader_filterPart header
    rcases sound with ⟨none, untouched⟩ | ⟨some, oldest, tracking⟩
    · exact Or.inl ⟨none, same ▸ untouched⟩
    · exact Or.inr ⟨some, oldest, same ▸ tracking⟩
  | none =>
    rcases live header with ⟨copy, close, below⟩
    dsimp only
    rcases sound with ⟨none, untouched⟩ | ⟨some, oldest, tracking⟩
    · rcases @Untouched.step time w.session arrival.number arrival.pkt arrival.port arrival.env
        untouched copy.seqNumber copy.tmstamp with ⟨ok, after⟩
      cases result : rxAncHandleChecked arrival.env
          (rxAncPrepare w.session arrival.pkt arrival.port) arrival.pkt arrival.port with
      | mk s code =>
        rw [result] at ok after
        dsimp only at ok after
        rw [ok]
        dsimp only
        rw [if_pos none]
        exact Or.inr ⟨List.cons_ne_nil _ _, rfl, after⟩
    · rcases close some with ⟨near, soon⟩
      have prepared := tracking.prepare arrival.pkt arrival.port
      have type_eq := (rxAncPrepare_filterPart w.session arrival.pkt arrival.port).2
      rcases prepared.step monotone arrival.env copy.seqNumber copy.tmstamp near soon below
        with ⟨taken, refused⟩
      rw [type_eq] at taken
      cases result : rxAncHandleChecked arrival.env
          (rxAncPrepare w.session arrival.pkt arrival.port) arrival.pkt arrival.port with
      | mk s code =>
        rw [result] at taken refused
        cases code with
        | ok =>
          dsimp only
          rw [if_neg some]
          refine Or.inr ⟨List.cons_ne_nil _ _, ?_, taken rfl⟩
          rw [List.getLast?_cons_of_ne_nil some]
          exact oldest
        | inval => exact Or.inr ⟨some, oldest, refused (fun absurd => (by cases absurd))⟩
        | again => exact Or.inr ⟨some, oldest, refused (fun absurd => (by cases absurd))⟩

/-! ## Whole runs -/

/-- In every run of live copies of a stream no sequence number is accepted twice, and after every
packet the received, the refused and the lost ones are the numbers from the first accepted one to
the session's. -/
theorem redundancy_filter (time : Int -> Int) (monotone : Monotone time) (ops : St40RxOps)
    (interlaceAuto : Bool) (cnt udwBufSize : Nat) (arrivals : List AncArrival)
    (live : Admitted (watchPkt time) (Watched.Live time)
      (watchStart (rxAncInit ops interlaceAuto cnt udwBufSize)) arrivals) :
    let w := run (watchPkt time) (watchStart (rxAncInit ops interlaceAuto cnt udwBufSize)) arrivals
    w.accepted.Nodup ∧
      (w.accepted ≠ [] ->
        w.accepted.getLast? = some w.first ∧
        w.session.sessionSeqId = u16 w.newest ∧ w.newest ∈ w.accepted ∧
        (∀ number ∈ w.accepted, w.first ≤ number ∧ number ≤ w.newest) ∧
        ((w.session.stats.pktsReceived + w.session.stats.pktsEnqueueFail +
          w.session.stats.pktsUnrecovered : Nat) : Int) = w.newest - w.first + 1) := by
  have sound := run_invariant (watchPkt time) (Watched.Live time) (Watched.Sound time)
    (fun w arrival sound live => sound.step monotone live)
    (Or.inl ⟨rfl, ⟨rfl, rfl, rfl, rfl, rfl, rfl, rfl⟩⟩) live
  generalize run (watchPkt time) (watchStart (rxAncInit ops interlaceAuto cnt udwBufSize)) arrivals = w
    at sound ⊢
  rcases sound with ⟨none, -⟩ | ⟨some, oldest, tracking⟩
  · dsimp only
    rw [none]
    exact ⟨List.nodup_nil, fun absurd => (absurd rfl).elim⟩
  · have following := tracking.following
    refine ⟨following.nodup, fun _ => ⟨oldest, following.seq, following.newest_mem, following.range, ?_⟩⟩
    have counted : w.session.stats.pktsReceived + w.session.stats.pktsEnqueueFail =
        w.accepted.length := tracking.counted
    have balance := following.balance
    rw [counted, Nat.add_comm]
    exact balance

/-- Frames of four packets; the sequence numbers and the timestamps wrap between two frames. -/
def wrappingTime (number : Int) : Int := 4294967296 + (number / 4 - 16384) * 1500

def wrappingArrival (number : Int) (port : MtlSessionPort) (ringTakes : Bool) : AncArrival where
  number := number
  port := port
  pkt := {
    payloadType := 0, ssrc := 0, seqNumber := u16 number, tmstamp := u32 (wrappingTime number)
    marker := false, f := 0, ancCount := 0, len := 20, pktLen := 62, payload := fun _ => 0, recvTs := 0 }
  env := { ringTakes := ringTakes, notify := fun _ => ⟨false, []⟩, racing := fun _ _ => [] }

/-- A hole, a late packet of the frame before and one of the frame at hand, a copy from the other
port and a full ring. -/
def wrappingRun : List AncArrival := [
  wrappingArrival 65532 .p true, wrappingArrival 65535 .p true, wrappingArrival 65535 .r true,
  wrappingArrival 65538 .p true, wrappingArrival 65534 .r true, wrappingArrival 65537 .r false,
  wrappingArrival 65537 .p true]

def rtpLevelOps : St40RxOps where
  numPort := 2
  payloadType := 0
  ssrc := 0
  fastMetadata := false
  interlaced := false
  type := .rtpLevel

theorem redundancy_filter_wrapping :
    let w := run (watchPkt wrappingTime) (watchStart (rxAncInit rtpLevelOps true 0 0)) wrappingRun
    w.accepted.Nodup ∧ w.accepted = [65537, 65534, 65538, 65535, 65532] ∧
      ((w.session.stats.pktsReceived + w.session.stats.pktsEnqueueFail +
        w.session.stats.pktsUnrecovered : Nat) : Int) = 65538 - 65532 + 1 := by
  have monotone : Monotone wrappingTime := by
    intro first second le
    unfold wrappingTime
    omega
  have live : Admitted (watchPkt wrappingTime) (Watched.Live wrappingTime)
      (watchStart (rxAncInit rtpLevelOps true 0 0)) wrappingRun := by
    decide +kernel
  have result := redundancy_filter wrappingTime monotone rtpLevelOps true 0 0 wrappingRun live
  have taken : (run (watchPkt wrappingTime) (watchStart (rxAncInit rtpLevelOps true 0 0))
      wrappingRun).accepted = [65537, 65534, 65538, 65535, 65532] := by
    decide +kernel
  have ends : (run (watchPkt wrappingTime) (watchStart (rxAncInit rtpLevelOps true 0 0))
      wrappingRun).newest = 65538 ∧ (run (watchPkt wrappingTime)
      (watchStart (rxAncInit rtpLevelOps true 0 0)) wrappingRun).first = 65532 := by
    decide +kernel
  have counts := (result.2 (taken ▸ List.cons_ne_nil _ _)).2.2.2.2
  rw [ends.1, ends.2] at counts
  exact ⟨result.1, taken, counts⟩

end MediaTransport.Anc
