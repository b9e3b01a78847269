import MediaTransport.Video.PacketLedger
import MediaTransport.Video.RedundantGuard

namespace MediaTransport.Video

open Library

/-!
# Whose slices a reported copy advances

In slice mode the device calls `rv_slice_dma_drop_mbuf` for each copy that it reports.  The
callback gets the offset and the length of the packet, and takes the slot from `dma_slot`,
which is the slot that was opened last.  So the copies have to be those of that slot.  Here
each copy in flight is followed with the slot that its packet was received for.
-/

/-! ## Calls of the callback -/

variable (env : DmaEnv) (s : RvDmaSession)

/-- A call of `rv_slice_dma_drop_mbuf`: the session at the call, and the copy that is reported. -/
structure RvDropCall where
  session : RvDmaSession
  copy : RvDmaCopy

/-- The calls of `mt_dma_drop_mbuf`. -/
def rvDropMbufCalls : Nat -> RvDmaSession -> List RvDropCall
  | 0, _ => []
  | nbMbuf + 1, s =>
    match s.inFlight with
    | [] => []
    | copy :: rest =>
      ⟨{ s with inFlight := rest }, copy⟩ ::
        rvDropMbufCalls nbMbuf (rvDmaLand { s with inFlight := rest } copy).1

def rvDmaPollCalls (env : RvEnv) : List Nat -> RvDmaSession -> List RvDropCall
  | [], _ => []
  | nbDq :: rest, s =>
    let dequeued := (rvDmaDequeue env nbDq s).1
    rvDropMbufCalls nbDq s ++
      if dequeued.inFlight.isEmpty then [] else rvDmaPollCalls env rest dequeued

variable (tmstamp : Nat)

/-- The calls of `rv_dma_flush`. -/
def rvDmaFlushCalls : List RvDropCall :=
  if s.hasPktLcore then
    []
  else if s.dmaFlushFailed && !mtSeq32Greater tmstamp s.dmaFlushFailTmstamp then
    []
  else
    rvDmaPollCalls { env.toRvEnv with notifyFull := env.notifyFlushed }
      (env.firstReport :: env.laterReports) { s with dmaCopy := false }

def rvDmaReadyCalls : List RvDropCall :=
  if s.inFlight.isEmpty then [] else rvDmaFlushCalls env s tmstamp

/-- The calls of `rv_slot_by_tmstamp`. -/
def rvSlotByTmstampCalls : List RvDropCall :=
  match rvFindSlot s.rv tmstamp with
  | some _ => []
  | none =>
    if rvInThePast s.rv tmstamp && !rvGuardGivesWay s.rv then
      []
    else
      rvDmaReadyCalls env s tmstamp

/-! ## The copies with their slots -/

/-- The slot that a packet was received for, with its timestamp. -/
structure RvDmaOwner where
  slot : Nat
  tmstamp : Int
  deriving DecidableEq, Repr

/-- The session with the owners of its copies in flight, oldest first. -/
structure RvDmaOwned where
  session : RvDmaSession
  owners : List RvDmaOwner

/-- A packet is handled, the tasklet takes reports from the device, or the application gives frames back. -/
inductive RvDmaInput where
  | packet (env : DmaEnv) (mbuf : RvMbuf) (port : MtlSessionPort) (ctrlThread : Bool)
  | dequeue (env : RvEnv) (nbDq : Nat)
  | returned (frames : List Nat)

def rvDmaSeen (mbuf : RvMbuf) : RvDmaSession :=
  s.withRv (rvCountRetransmit s.rv (rvReadLine mbuf.pkt))

/-- The calls of the callback during a step. -/
def RvDmaOwned.calls (s : RvDmaOwned) : RvDmaInput -> List RvDropCall
  | .packet env mbuf _ _ =>
    match rvHeaderCheck s.session.rv.cfg mbuf with
    | some _ => []
    | none => rvSlotByTmstampCalls env (rvDmaSeen s.session mbuf) mbuf.pkt.tmstamp
  | .dequeue _ nbDq => rvDropMbufCalls nbDq s.session
  | .returned _ => []

/-- The owner of the copy that the device got from a packet: the slot that was found for the packet. -/
def rvDmaNewOwner (mbuf : RvMbuf) (port : MtlSessionPort) (ctrlThread : Bool) : List RvDmaOwner :=
  match rvHeaderCheck s.rv.cfg mbuf with
  | some _ => []
  | none =>
    let answer := rvDmaSlotByTmstamp env (rvDmaSeen s mbuf) mbuf.pkt.tmstamp
    let result := rvDmaHandleFramePkt env s mbuf port ctrlThread
    if answer.session.inFlight.length < result.session.inFlight.length then
      answer.slot.toList.map fun slot => ⟨slot, mbuf.pkt.tmstamp⟩
    else
      []

/-- The copies are reported in the order in which the device got them. -/
def rvDmaOwnedStep (s : RvDmaOwned) (input : RvDmaInput) : RvDmaOwned :=
  let reported := (s.calls input).length
  match input with
  | .packet env mbuf port ctrlThread =>
    { session := (rvDmaHandleFramePkt env s.session mbuf port ctrlThread).session
      owners := s.owners.drop reported ++ rvDmaNewOwner env s.session mbuf port ctrlThread }
  | .dequeue env nbDq =>
    { session := (rvDmaDequeue env nbDq s.session).1, owners := s.owners.drop reported }
  | .returned frames =>
    { s with session := s.session.withRv (rvReturnFrames s.session.rv frames) }

/-- A session with a DMA device after `rv_attach`. -/
def rvDmaInit (cfg : RvConfig) (hasPktLcore : Bool) : RvDmaOwned :=
  { session :=
      { rv := rvInit cfg, inFlight := [], dmaSlot := none, dmaCopy := false, dmaFlushFailed := false
        dmaFlushFailTmstamp := 0, hasPktLcore := hasPktLcore, pktsDma := 0, dmaFlushTimeouts := 0
        dmaPreviousBusy := 0 }
    owners := [] }

/-! ## What is promised -/

/-- The call has a slot, which still is the one that the packet was received for, and advances the slices of
that slot by the payload and those of no other slot. -/
structure RvDropCall.Right (call : RvDropCall) (owner : RvDmaOwner) : Prop where
  slot : call.session.dmaSlot = some owner.slot
  live : (call.session.rv.slots owner.slot).tmstamp = owner.tmstamp
  advances : exists info, (call.session.rv.slots owner.slot).sliceInfo = some info ∧
    ((rvDmaLand call.session call.copy).1.rv.slots owner.slot).sliceInfo =
      some (rvSliceAdd call.session.rv.cfg info call.copy.offset call.copy.payload.length).info
  others : ∀ idx ≠ owner.slot,
    ((rvDmaLand call.session call.copy).1.rv.slots idx).sliceInfo = (call.session.rv.slots idx).sliceInfo

def CallsRight : List RvDropCall -> List RvDmaOwner -> Prop
  | [], _ => True
  | _ :: _, [] => False
  | call :: calls, owner :: owners => call.Right owner ∧ CallsRight calls owners

/-- The payload goes to the device when the packet is handled in this slot. -/
def rvDmaHands (s : RvSession) (slotIdx : Nat) (mbuf : RvMbuf) (port : MtlSessionPort)
    (ctrlThread : Bool) : Prop :=
  let line := rvReadLine mbuf.pkt
  rvHeaderCheck s.cfg mbuf = none ∧ (s.slots slotIdx).frame ≠ none ∧ line.userMeta = false ∧
    exists place, rvPlace s.cfg line = .ok place ∧ rvDmaTakes env s.cfg line place = true ∧
      exists pktIdx slot reordered,
        rvIndex s.cfg (s.slots slotIdx) line place mbuf.pkt.seqId port ctrlThread =
          .fresh pktIdx slot reordered

/-- The device gets no payload of a known timestamp but of that of `dma_slot`. -/
def RvDmaInput.Careful (s : RvDmaOwned) : RvDmaInput -> Prop
  | .packet env mbuf port ctrlThread =>
    forall slotIdx, rvFindSlot s.session.rv mbuf.pkt.tmstamp = some slotIdx ->
      rvDmaHands env s.session.rv slotIdx mbuf port ctrlThread -> s.session.dmaSlot = some slotIdx
  | _ => True

/-! ## What the steps leave of the slots -/

/-- The timestamps of the slots stay, and which of them have slices. -/
structure SlotsStay (before after : RvSession) : Prop where
  cfg : after.cfg = before.cfg
  stamps : forall idx, (after.slots idx).tmstamp = (before.slots idx).tmstamp
  sliced : forall idx, (after.slots idx).sliceInfo.isSome = (before.slots idx).sliceInfo.isSome

theorem SlotsStay.of_slots {before after : RvSession} (cfg : after.cfg = before.cfg)
    (slots : after.slots = before.slots) : SlotsStay before after :=
  ⟨cfg, fun idx => by rw [slots], fun idx => by rw [slots]⟩

theorem SlotsStay.trans {first second third : RvSession} (left : SlotsStay first second)
    (right : SlotsStay second third) : SlotsStay first third where
  cfg := right.cfg.trans left.cfg
  stamps idx := (right.stamps idx).trans (left.stamps idx)
  sliced idx := (right.sliced idx).trans (left.sliced idx)

theorem SlotsStay.of_update {before after : RvSession} {idx : Nat} {slot : RvSlot}
    (cfg : after.cfg = before.cfg) (slots : after.slots = Function.update before.slots idx slot)
    (stamp : slot.tmstamp = (before.slots idx).tmstamp)
    (sliced : slot.sliceInfo.isSome = (before.slots idx).sliceInfo.isSome) : SlotsStay before after := by
  refine ⟨cfg, fun other => ?_, fun other => ?_⟩
  · by_cases same : other = idx
    · rw [same, slots, Function.update_self, stamp]
    · rw [slots, Function.update_of_ne same]
  · by_cases same : other = idx
    · rw [same, slots, Function.update_self, sliced]
    · rw [slots, Function.update_of_ne same]

theorem rvSlices_sliced (s : RvSession) (slot : RvSlot) (frame : Nat) (place : RvPlacement) :
    (rvSlices s slot frame place).1.sliceInfo.isSome = slot.sliceInfo.isSome := by
  unfold rvSlices
  cases info : slot.sliceInfo with
  | none => simp [info]
  | some info => rfl

theorem slotsStay_slotFullFrame (env : RvEnv) (s : RvSession) (slotIdx frame : Nat) :
    SlotsStay s (rvSlotFullFrame env s slotIdx frame).1 := by
  have notified := rvFrameNotify_notified env env.notifyFull s slotIdx frame
  unfold rvSlotFullFrame
  generalize rvFrameNotify env env.notifyFull s slotIdx frame = answer at notified ⊢
  refine SlotsStay.trans (SlotsStay.of_update notified.cfg notified.slots rfl rfl) ?_
  exact SlotsStay.of_update rfl (RvSession.setSlot_slots ..) rfl rfl

theorem slotsStay_land (copy : RvDmaCopy) : SlotsStay s.rv (rvDmaLand s copy).1.rv := by
  unfold rvDmaLand
  dsimp only
  cases s.dmaSlot with
  | none => exact SlotsStay.of_slots rfl rfl
  | some idx =>
    refine SlotsStay.of_update rfl rfl ?_ ?_
    · exact (rvSlices_counted _ _ _ _).2.1
    · exact rvSlices_sliced _ _ _ _

theorem rvDmaLand_device (copy : RvDmaCopy) :
    (rvDmaLand s copy).1.inFlight = s.inFlight ∧ (rvDmaLand s copy).1.dmaSlot = s.dmaSlot := by
  unfold rvDmaLand
  dsimp only
  cases slot : s.dmaSlot with
  | none => exact ⟨rfl, slot⟩
  | some idx => exact ⟨rfl, slot⟩

/-! ## Reports -/

/-- The copies in flight are those of `dma_slot`. -/
structure Owns (s : RvDmaSession) (owners : List RvDmaOwner) : Prop where
  count : owners.length = s.inFlight.length
  owned : ∀ owner ∈ owners, s.dmaSlot = some owner.slot ∧
    (s.rv.slots owner.slot).tmstamp = owner.tmstamp
  sliced : forall idx, (s.rv.slots idx).sliceInfo.isSome = true

theorem CallsRight.append {calls more : List RvDropCall} {owners : List RvDmaOwner}
    (first : CallsRight calls owners) (second : CallsRight more (owners.drop calls.length)) :
    CallsRight (calls ++ more) owners := by
  induction calls generalizing owners with
  | nil => exact second
  | cons call calls ih =>
    cases owners with
    | nil => exact first.elim
    | cons owner owners => exact ⟨first.1, ih first.2 second⟩

theorem dropCall_right {s : RvDmaSession} {copy : RvDmaCopy} {owner : RvDmaOwner}
    (slot : s.dmaSlot = some owner.slot) (live : (s.rv.slots owner.slot).tmstamp = owner.tmstamp)
    (sliced : (s.rv.slots owner.slot).sliceInfo.isSome = true) : RvDropCall.Right ⟨s, copy⟩ owner := by
  rcases Option.isSome_iff_exists.mp sliced with ⟨info, some_info⟩
  refine ⟨slot, live, ⟨info, some_info, ?_⟩, fun idx other => ?_⟩
  · simp [rvDmaLand, slot, rvSlices, some_info, RvDmaSession.withRv, RvSession.withStats,
      RvSession.setSlot, RvSession.setFrame]
  · simp [rvDmaLand, slot, RvDmaSession.withRv, RvSession.withStats, RvSession.setSlot, RvSession.setFrame,
      other]

theorem Owns.dropMbuf {s : RvDmaSession} {owners : List RvDmaOwner} (owns : Owns s owners) (nbMbuf : Nat) :
    CallsRight (rvDropMbufCalls nbMbuf s) owners ∧
      Owns (rvDmaDropMbuf nbMbuf s).1 (owners.drop (rvDropMbufCalls nbMbuf s).length) := by
  induction nbMbuf generalizing s owners with
  | zero => exact ⟨trivial, owns⟩
  | succ nbMbuf ih =>
    have count := owns.count
    unfold rvDropMbufCalls rvDmaDropMbuf
    cases inFlight : s.inFlight with
    | nil => exact ⟨trivial, owns⟩
    | cons copy rest =>
      rw [inFlight] at count
      cases owners with
      | nil => simp at count
      | cons owner owners =>
        have own := owns.owned owner List.mem_cons_self
        have stays := slotsStay_land { s with inFlight := rest } copy
        have device := rvDmaLand_device { s with inFlight := rest } copy
        have later : Owns (rvDmaLand { s with inFlight := rest } copy).1 owners := {
          count := by
            rw [device.1]
            simpa using count
          owned := by
            intro other member
            have held := owns.owned other (List.mem_cons_of_mem _ member)
            rw [device.2, stays.stamps]
            exact held
          sliced := fun idx => (stays.sliced idx).trans (owns.sliced idx) }
        have rest := ih later
        exact ⟨⟨dropCall_right own.1 own.2 (owns.sliced _), rest.1⟩, rest.2⟩

theorem Owns.of_stay {s after : RvDmaSession} {owners : List RvDmaOwner} (owns : Owns s owners)
    (inFlight : after.inFlight = s.inFlight) (dmaSlot : after.dmaSlot = s.dmaSlot)
    (stays : SlotsStay s.rv after.rv) : Owns after owners where
  count := owns.count.trans (congrArg List.length inFlight.symm)
  owned := by
    intro owner member
    rw [dmaSlot, stays.stamps]
    exact owns.owned owner member
  sliced := fun idx => (stays.sliced idx).trans (owns.sliced idx)

theorem Owns.idle {s : RvDmaSession} (inFlight : s.inFlight = [])
    (sliced : forall idx, (s.rv.slots idx).sliceInfo.isSome = true) : Owns s [] where
  count := by simp [inFlight]
  owned := by simp
  sliced := sliced

theorem Owns.none_left {s : RvDmaSession} {owners : List RvDmaOwner} (owns : Owns s owners)
    (inFlight : s.inFlight = []) : owners = [] := by
  have count := owns.count
  rw [inFlight] at count
  exact List.eq_nil_of_length_eq_zero count

theorem rvDmaComplete_stays (env : RvEnv) (s : RvDmaSession) :
    (rvDmaComplete env s).1.inFlight = s.inFlight ∧ SlotsStay s.rv (rvDmaComplete env s).1.rv := by
  have same : SlotsStay s.rv s.rv := SlotsStay.of_slots rfl rfl
  unfold rvDmaComplete
  cases s.dmaSlot with
  | none => exact ⟨rfl, same⟩
  | some idx =>
    dsimp only
    cases (s.rv.slots idx).frame with
    | none => exact ⟨rfl, same⟩
    | some frame =>
      dsimp only
      split
      · exact ⟨rfl, slotsStay_slotFullFrame env s.rv idx frame⟩
      · exact ⟨rfl, same⟩

theorem Owns.dequeue {s : RvDmaSession} {owners : List RvDmaOwner} (owns : Owns s owners) (env : RvEnv)
    (nbDq : Nat) : Owns (rvDmaDequeue env nbDq s).1 (owners.drop (rvDropMbufCalls nbDq s).length) := by
  have dropped := (owns.dropMbuf nbDq).2
  generalize owners.drop (rvDropMbufCalls nbDq s).length = left at dropped ⊢
  unfold rvDmaDequeue
  dsimp only
  split
  · rename_i empty
    have inFlight : (rvDmaDropMbuf nbDq s).1.inFlight = [] := List.isEmpty_iff.mp empty
    have completed := rvDmaComplete_stays env { (rvDmaDropMbuf nbDq s).1 with dmaFlushFailed := false }
    rw [dropped.none_left inFlight]
    exact Owns.idle (completed.1.trans inFlight)
      (fun idx => (completed.2.sliced idx).trans (dropped.sliced idx))
  · exact dropped

/-- What a wait for the device promises: its calls are right, the copies left are those of `dma_slot`, and
none is left when it says so. -/
structure Waited (calls : List RvDropCall) (owners : List RvDmaOwner) (flushed : DmaFlushed) : Prop where
  right : CallsRight calls owners
  owns : Owns flushed.session (owners.drop calls.length)
  emptied : flushed.emptied = true -> flushed.session.inFlight = []

section

variable {s : RvDmaSession} {owners : List RvDmaOwner} (owns : Owns s owners)

include owns

theorem Owns.poll (env : RvEnv)
    (reports : List Nat) : Waited (rvDmaPollCalls env reports s) owners (rvDmaPoll env reports s) := by
  induction reports generalizing s owners with
  | nil => exact ⟨trivial, owns, by simp [rvDmaPoll]⟩
  | cons nbDq rest ih =>
    have first := (owns.dropMbuf nbDq).1
    have dequeued := owns.dequeue env nbDq
    unfold rvDmaPollCalls rvDmaPoll
    dsimp only
    by_cases empty : (rvDmaDequeue env nbDq s).1.inFlight.isEmpty = true
    · simp only [empty, if_true, List.append_nil]
      exact ⟨first, dequeued, fun _ => List.isEmpty_iff.mp empty⟩
    · simp only [empty, Bool.false_eq_true, if_false]
      have later := ih dequeued
      refine ⟨first.append later.right, ?_, later.emptied⟩
      rw [List.length_append, ← List.drop_drop]
      exact later.owns

theorem Owns.flush (env : DmaEnv)
    (tmstamp : Nat) : Waited (rvDmaFlushCalls env s tmstamp) owners (rvDmaFlush env s tmstamp) := by
  unfold rvDmaFlushCalls rvDmaFlush
  split
  · exact ⟨trivial, owns, by simp⟩
  · split
    · exact ⟨trivial, owns, by simp⟩
    · have calm : Owns { s with dmaCopy := false } owners :=
        owns.of_stay rfl rfl (SlotsStay.of_slots rfl rfl)
      have polled := calm.poll { env.toRvEnv with notifyFull := env.notifyFlushed }
        (env.firstReport :: env.laterReports)
      dsimp only
      split
      · exact polled
      · exact ⟨polled.right, polled.owns.of_stay rfl rfl (SlotsStay.of_slots rfl rfl), polled.emptied⟩

theorem Owns.ready (env : DmaEnv)
    (tmstamp : Nat) : Waited (rvDmaReadyCalls env s tmstamp) owners (rvDmaReady env s tmstamp) := by
  have flushed := owns.flush env tmstamp
  unfold rvDmaReadyCalls rvDmaReady
  split
  · rename_i empty
    exact ⟨trivial, owns, fun _ => List.isEmpty_iff.mp empty⟩
  · dsimp only
    split
    · exact flushed
    · exact ⟨flushed.right, flushed.owns.of_stay rfl rfl (SlotsStay.of_slots rfl rfl), flushed.emptied⟩

end

/-! ## Packets -/

theorem rvOpenSlot (env : RvEnv) (s : RvSession) (idx tmstamp : Nat) :
    (((rvAssignFrame env (rvReuseSlot env s idx tmstamp).1 idx).1.slots idx).tmstamp = tmstamp) ∧
      forall other,
        ((rvAssignFrame env (rvReuseSlot env s idx tmstamp).1 idx).1.slots other).sliceInfo.isSome =
          (s.slots other).sliceInfo.isSome := by
  have reused := rvReuseSlot_reused env s idx tmstamp
  generalize (rvReuseSlot env s idx tmstamp).1 = opened at reused ⊢
  have restarted : (opened.slots idx).tmstamp = tmstamp ∧
      forall other, (opened.slots other).sliceInfo.isSome = (s.slots other).sliceInfo.isSome := by
    rw [reused.slots]
    refine ⟨by rw [Function.update_self]; rfl, fun other => ?_⟩
    by_cases same : other = idx
    · rw [same, Function.update_self]
      rfl
    · rw [Function.update_of_ne same]
  rcases rvAssignFrame_cases env opened idx with ⟨_, counted⟩ | ⟨frame, addr, _, assigned⟩
  · rw [counted.slots]
    exact restarted
  · rw [assigned]
    have begun : SlotsStay opened ((opened.setFrame frame ((opened.frames frame).take addr)).setSlot idx
        ((opened.slots idx).begin opened.cfg frame env.timeStamp)) :=
      SlotsStay.of_update rfl rfl rfl (by simp [RvSlot.begin])
    exact ⟨(begun.stamps idx).trans restarted.1, fun other => (begun.sliced other).trans (restarted.2 other)⟩

/-- What looking up the slot of a packet promises. -/
structure LookedUp (s : RvDmaSession) (tmstamp : Nat) (calls : List RvDropCall) (owners : List RvDmaOwner)
    (answer : DmaSlotAnswer) : Prop where
  right : CallsRight calls owners
  owns : Owns answer.session (owners.drop calls.length)
  stamp : forall idx, answer.slot = some idx -> (answer.session.rv.slots idx).tmstamp = tmstamp
  slot : forall idx, answer.slot = some idx ->
    (rvFindSlot s.rv tmstamp = some idx ∧ answer.session = s) ∨ answer.session.dmaSlot = some idx

theorem Owns.lookup {s : RvDmaSession} {owners : List RvDmaOwner} (owns : Owns s owners) (env : DmaEnv)
    (tmstamp : Nat) :
    LookedUp s tmstamp (rvSlotByTmstampCalls env s tmstamp) owners (rvDmaSlotByTmstamp env s tmstamp) := by
  unfold rvSlotByTmstampCalls rvDmaSlotByTmstamp
  cases found : rvFindSlot s.rv tmstamp with
  | some idx =>
    refine ⟨trivial, owns, ?_, ?_⟩
    · rintro _ ⟨⟩
      exact (rvFindSlot_some found).2
    · rintro _ ⟨⟩
      exact Or.inl ⟨found, rfl⟩
  | none =>
    dsimp only
    split
    · exact ⟨trivial, owns, by simp, by simp⟩
    · have ready := owns.ready env tmstamp
      generalize rvDmaReadyCalls env s tmstamp = calls at ready ⊢
      generalize rvDmaReady env s tmstamp = waited at ready ⊢
      cases emptied : waited.emptied with
      | false => exact ⟨ready.right, ready.owns, by simp, by simp⟩
      | true =>
        have inFlight := ready.emptied emptied
        have opened := rvOpenSlot env.toRvEnv waited.session.rv (rvNextSlot waited.session.rv) tmstamp
        have none_left := ready.owns.none_left inFlight
        simp only [if_true]
        refine ⟨ready.right, ?_, ?_, ?_⟩
        · rw [none_left]
          exact Owns.idle inFlight fun idx => (opened.2 idx).trans (ready.owns.sliced idx)
        · intro idx slot
          split at slot
          · cases slot
            exact opened.1
          · cases slot
        · intro idx slot
          split at slot
          · rename_i assigned
            cases slot
            exact Or.inr (by rw [if_pos assigned])
          · cases slot

section

variable {cfg : RvConfig} {slot marked : RvSlot} {line : RvLine} {place : RvPlacement}
    {seqId pktIdx : Nat} {port : MtlSessionPort}

theorem rvIndex_fresh_of_field {ctrlThread reordered second : Bool}
    (index : rvIndex cfg { slot with secondField := second } line place seqId port ctrlThread =
      .fresh pktIdx marked reordered) :
    exists pktIdx marked reordered,
      rvIndex cfg slot line place seqId port ctrlThread = .fresh pktIdx marked reordered := by
  unfold rvIndex at index ⊢
  have later : rvLaterPktIdx { slot with secondField := second } seqId = rvLaterPktIdx slot seqId := rfl
  dsimp only at index ⊢
  rw [later] at index
  split at index
  · rename_i got
    rw [if_pos got]
    split at index
    · cases index
    · rename_i inside
      rw [if_neg inside]
      split at index
      · cases index
      · rename_i new
        rw [if_neg new]
        exact ⟨_, _, _, rfl⟩
  · rename_i first
    rw [if_neg first]
    split at index
    · rename_i control
      rw [if_pos control]
      split at index
      · cases index
      · rename_i inside
        rw [if_neg inside]
        exact ⟨_, _, _, rfl⟩
    · cases index

end

/-- What a handler leaves: the slots, `dma_slot`, and at most one copy more in flight, which it gave to the
device on the condition. -/
structure OneCopy (before : RvDmaSession) (hands : Prop) (after : RvDmaSession) : Prop where
  stays : SlotsStay before.rv after.rv
  dmaSlot : after.dmaSlot = before.dmaSlot
  inFlight : after.inFlight = before.inFlight ∨
    (hands ∧ exists copy, after.inFlight = before.inFlight ++ [copy])

theorem OneCopy.of_stays {before after : RvDmaSession} {hands : Prop} (stays : SlotsStay before.rv after.rv)
    (dmaSlot : after.dmaSlot = before.dmaSlot) (inFlight : after.inFlight = before.inFlight) :
    OneCopy before hands after := ⟨stays, dmaSlot, Or.inl inFlight⟩

theorem OneCopy.after_stays {first third : RvDmaSession} {hands : Prop} (second : RvDmaSession)
    (stays : SlotsStay first.rv second.rv) (dmaSlot : second.dmaSlot = first.dmaSlot)
    (inFlight : second.inFlight = first.inFlight) (copied : OneCopy second hands third) :
    OneCopy first hands third where
  stays := stays.trans copied.stays
  dmaSlot := copied.dmaSlot.trans dmaSlot
  inFlight := by
    rw [← inFlight]
    exact copied.inFlight

theorem OneCopy.then_stays {first second third : RvDmaSession} {hands : Prop}
    (copied : OneCopy first hands second) (stays : SlotsStay second.rv third.rv)
    (dmaSlot : third.dmaSlot = second.dmaSlot) (inFlight : third.inFlight = second.inFlight) :
    OneCopy first hands third where
  stays := copied.stays.trans stays
  dmaSlot := dmaSlot.trans copied.dmaSlot
  inFlight := by
    rw [inFlight]
    exact copied.inFlight

theorem OneCopy.imp {before after : RvDmaSession} {hands more : Prop} (copied : OneCopy before hands after)
    (implies : hands -> more) : OneCopy before more after :=
  { copied with inFlight := copied.inFlight.imp_right fun given => ⟨implies given.1, given.2⟩ }

theorem rvDmaSlices_stays (rv : RvSession) (takes : Bool) (slot : RvSlot) (frame : Nat)
    (place : RvPlacement) :
    (rvDmaSlices rv takes slot frame place).1.tmstamp = slot.tmstamp ∧
      (rvDmaSlices rv takes slot frame place).1.sliceInfo.isSome = slot.sliceInfo.isSome := by
  unfold rvDmaSlices
  split
  · exact ⟨rfl, rfl⟩
  · exact ⟨(rvSlices_counted rv slot frame place).2.1, rvSlices_sliced rv slot frame place⟩

theorem rvDmaStorePacket_copies (slotIdx frame : Nat) {slot : RvSlot} (line : RvLine)
    (place : RvPlacement) (pktIdx : Nat) (port : MtlSessionPort) (ctrlThread : Bool)
    (stamp : slot.tmstamp = (s.rv.slots slotIdx).tmstamp)
    (info : slot.sliceInfo = (s.rv.slots slotIdx).sliceInfo) :
    OneCopy s (rvDmaTakes env s.rv.cfg line place = true)
      (rvDmaStorePacket env s slotIdx frame slot line place pktIdx port ctrlThread).1 := by
  unfold rvDmaStorePacket
  dsimp only
  generalize rvDmaTakes env s.rv.cfg line place = taken
  have copied : OneCopy s (taken = true) (rvDmaCopy s taken frame line place) ∧
      (rvDmaCopy s taken frame line place).rv.slots = s.rv.slots := by
    unfold rvDmaCopy
    cases taken with
    | true => exact ⟨⟨SlotsStay.of_slots rfl rfl, rfl, Or.inr ⟨rfl, _, rfl⟩⟩, rfl⟩
    | false => exact ⟨OneCopy.of_stays (SlotsStay.of_slots rfl rfl) rfl rfl, rfl⟩
  generalize rvDmaCopy s taken frame line place = first at copied ⊢
  rcases copied with ⟨copied, slots⟩
  have sliced := rvDmaSlices_stays
    (first.rv.withStats { first.rv.stats with pktsReceived := first.rv.stats.pktsReceived + 1 }) taken
    (slot.received pktIdx place.payloadLength port ctrlThread) frame place
  generalize rvDmaSlices _ taken (slot.received pktIdx place.payloadLength port ctrlThread) frame place =
    slices at sliced ⊢
  have stored : SlotsStay first.rv (((first.rv.withStats
      { first.rv.stats with pktsReceived := first.rv.stats.pktsReceived + 1 }).setSlot slotIdx
      slices.1).withStats slices.2.1) := by
    refine SlotsStay.of_update rfl rfl ?_ ?_
    · rw [sliced.1, slots]
      exact stamp
    · rw [sliced.2, slots, ← info]
      rfl
  split
  · exact copied.then_stays (stored.trans (slotsStay_slotFullFrame env.toRvEnv _ slotIdx frame)) rfl rfl
  · exact copied.then_stays stored rfl rfl

theorem slotsStay_userMeta (s : RvSession) (frame : Nat) (line : RvLine) :
    SlotsStay s (rvUserMeta s frame line).session := by
  unfold rvUserMeta
  generalize (if line.extra.isSome = true then rfc4175ExtraHdrSize else 0) = extraBytes
  dsimp only
  split <;> exact SlotsStay.of_slots rfl rfl

theorem slotsStay_countReordered (s : RvSession) (port : MtlSessionPort) (reordered : Bool) :
    SlotsStay s (rvCountReordered s port reordered) := by
  unfold rvCountReordered
  dsimp only
  split <;> exact SlotsStay.of_slots rfl rfl

theorem rvDmaHandleInSlot_copies (slotIdx frame : Nat) (mbuf : RvMbuf) (port : MtlSessionPort)
    (ctrlThread : Bool) (checked : rvHeaderCheck s.rv.cfg mbuf = none)
    (holds : (s.rv.slots slotIdx).frame = some frame) :
    OneCopy s (rvDmaHands env s.rv slotIdx mbuf port ctrlThread)
      (rvDmaHandleInSlot env s slotIdx frame mbuf port ctrlThread).session := by
  unfold rvDmaHandleInSlot
  dsimp only
  split
  · exact OneCopy.of_stays (slotsStay_userMeta s.rv frame _) rfl rfl
  · rename_i notMeta
    have marks : SlotsStay s.rv (s.rv.setSlot slotIdx
        { s.rv.slots slotIdx with secondField := (rvReadLine mbuf.pkt).secondField }) :=
      SlotsStay.of_update rfl rfl rfl rfl
    have held := s.rv.setSlot_slots_self slotIdx
      { s.rv.slots slotIdx with secondField := (rvReadLine mbuf.pkt).secondField }
    generalize s.rv.setSlot slotIdx
      { s.rv.slots slotIdx with secondField := (rvReadLine mbuf.pkt).secondField } = marked at marks held ⊢
    refine OneCopy.after_stays (s.withRv marked) marks rfl rfl ?_
    cases placed : rvPlace marked.cfg (rvReadLine mbuf.pkt) with
    | error reason =>
      simp only [RvDmaSession.withRv, placed]
      exact OneCopy.of_stays (SlotsStay.of_slots rfl rfl) rfl rfl
    | ok place =>
      simp only [RvDmaSession.withRv, placed]
      cases index : rvIndex marked.cfg (marked.slots slotIdx) (rvReadLine mbuf.pkt) place mbuf.pkt.seqId
          port ctrlThread with
      | drop reason => exact OneCopy.of_stays (SlotsStay.of_slots rfl rfl) rfl rfl
      | redundant => exact OneCopy.of_stays (SlotsStay.of_update rfl rfl rfl rfl) rfl rfl
      | fresh pktIdx slot reordered =>
        have counted := slotsStay_countReordered marked port reordered
        have slots : (rvCountReordered marked port reordered).slots = marked.slots := by
          unfold rvCountReordered
          dsimp only
          split <;> rfl
        have cfg : (rvCountReordered marked port reordered).cfg = s.rv.cfg := counted.cfg.trans marks.cfg
        refine OneCopy.after_stays { s with rv := rvCountReordered marked port reordered } counted
          rfl rfl ?_
        have copied := rvDmaStorePacket_copies env { s with rv := rvCountReordered marked port reordered }
          slotIdx frame (rvReadLine mbuf.pkt) place pktIdx port ctrlThread
          ((rvIndex_fresh_marked index).tmstamp_eq.trans (by rw [slots]))
          ((rvIndex_fresh_marked index).sliceInfo_eq.trans (by rw [slots]))
        refine copied.imp fun takes => ?_
        rw [marks.cfg, held] at index
        rw [marks.cfg] at placed
        rw [cfg] at takes
        exact ⟨checked, by simp [holds], by simpa using notMeta, place, placed, takes,
          rvIndex_fresh_of_field index⟩

theorem rvCountRetransmit_slots (s : RvSession) (line : RvLine) :
    (rvCountRetransmit s line).cfg = s.cfg ∧ (rvCountRetransmit s line).slots = s.slots := by
  unfold rvCountRetransmit
  split <;> exact ⟨rfl, rfl⟩

theorem rvDmaHandleFramePkt_checked (env : DmaEnv) {s : RvDmaSession} {mbuf : RvMbuf} (port : MtlSessionPort)
    (ctrlThread : Bool) (checked : rvHeaderCheck s.rv.cfg mbuf = none) :
    let answer := rvDmaSlotByTmstamp env (rvDmaSeen s mbuf) mbuf.pkt.tmstamp
    let result := rvDmaHandleFramePkt env s mbuf port ctrlThread
    (result.session.inFlight = answer.session.inFlight ∧ result.session.dmaSlot = answer.session.dmaSlot ∧
        SlotsStay answer.session.rv result.session.rv) ∨
      exists idx, answer.slot = some idx ∧
        OneCopy answer.session (rvDmaHands env answer.session.rv idx mbuf port ctrlThread)
          result.session := by
  have counted := rvCountRetransmit_slots s.rv (rvReadLine mbuf.pkt)
  have seen : s.withRv (rvCountRetransmit s.rv (rvReadLine mbuf.pkt)) = rvDmaSeen s mbuf := rfl
  have passes : rvHeaderCheck (rvDmaSeen s mbuf).rv.cfg mbuf = none := by
    rw [show (rvDmaSeen s mbuf).rv.cfg = s.rv.cfg from counted.1]
    exact checked
  dsimp only [rvDmaHandleFramePkt]
  rw [seen, passes]
  dsimp only
  have cfg := (rvDmaSlotByTmstamp_booked env (rvDmaSeen s mbuf) mbuf.pkt.tmstamp).cfg
  generalize rvDmaSlotByTmstamp env (rvDmaSeen s mbuf) mbuf.pkt.tmstamp = answer at cfg ⊢
  cases answer.slot with
  | none => exact Or.inl ⟨rfl, rfl, SlotsStay.of_slots rfl rfl⟩
  | some idx =>
    dsimp only
    cases holds : (answer.session.rv.slots idx).frame with
    | none => exact Or.inl ⟨rfl, rfl, SlotsStay.of_update rfl rfl rfl rfl⟩
    | some frame =>
      have cleared : SlotsStay answer.session.rv (answer.session.rv.setRedundant port 0) :=
        SlotsStay.of_slots rfl rfl
      have copied := rvDmaHandleInSlot_copies env
        (answer.session.withRv (answer.session.rv.setRedundant port 0)) idx frame mbuf port ctrlThread
        ((congrArg (rvHeaderCheck · mbuf) cfg).trans passes) holds
      exact Or.inr ⟨idx, rfl, OneCopy.after_stays
        (answer.session.withRv (answer.session.rv.setRedundant port 0)) cleared rfl rfl copied⟩

/-- A careful packet: its calls are right, and the copies in flight are those of `dma_slot` again. -/
theorem Owns.packet {s : RvDmaSession} {owners : List RvDmaOwner} (owns : Owns s owners) (env : DmaEnv)
    (mbuf : RvMbuf) (port : MtlSessionPort) (ctrlThread : Bool)
    (careful : (RvDmaInput.packet env mbuf port ctrlThread).Careful ⟨s, owners⟩) :
    CallsRight (RvDmaOwned.calls ⟨s, owners⟩ (.packet env mbuf port ctrlThread)) owners ∧
      Owns (rvDmaHandleFramePkt env s mbuf port ctrlThread).session
        (owners.drop (RvDmaOwned.calls ⟨s, owners⟩ (.packet env mbuf port ctrlThread)).length ++
          rvDmaNewOwner env s mbuf port ctrlThread) := by
  have counted := rvCountRetransmit_slots s.rv (rvReadLine mbuf.pkt)
  have seenStays : SlotsStay s.rv (rvDmaSeen s mbuf).rv := SlotsStay.of_slots counted.1 counted.2
  have seenOwns : Owns (rvDmaSeen s mbuf) owners := owns.of_stay rfl rfl seenStays
  have cfg : (rvDmaSeen s mbuf).rv.cfg = s.rv.cfg := counted.1
  simp only [RvDmaOwned.calls, rvDmaNewOwner]
  cases checked : rvHeaderCheck s.rv.cfg mbuf with
  | some reason =>
    have dropped : (rvDmaHandleFramePkt env s mbuf port ctrlThread).session =
        ((rvDmaSeen s mbuf).drop reason).session := by
      simp only [rvDmaHandleFramePkt]
      rw [show (s.withRv (rvCountRetransmit s.rv (rvReadLine mbuf.pkt))).rv.cfg = s.rv.cfg from cfg,
        checked]
      rfl
    refine ⟨trivial, ?_⟩
    rw [dropped]
    simp only [List.length_nil, List.drop_zero, List.append_nil]
    exact seenOwns.of_stay rfl rfl (SlotsStay.of_slots rfl rfl)
  | none =>
    have looked := seenOwns.lookup env mbuf.pkt.tmstamp
    refine ⟨looked.right, ?_⟩
    have handled := rvDmaHandleFramePkt_checked env port ctrlThread checked
    simp only
    generalize rvDmaHandleFramePkt env s mbuf port ctrlThread = result at handled ⊢
    generalize rvSlotByTmstampCalls env (rvDmaSeen s mbuf) mbuf.pkt.tmstamp = calls at looked ⊢
    generalize rvDmaSlotByTmstamp env (rvDmaSeen s mbuf) mbuf.pkt.tmstamp = answer at looked handled ⊢
    have kept : forall after : RvDmaSession, after.inFlight = answer.session.inFlight ->
        after.dmaSlot = answer.session.dmaSlot -> SlotsStay answer.session.rv after.rv ->
        Owns after (owners.drop calls.length ++
          if answer.session.inFlight.length < after.inFlight.length then
            answer.slot.toList.map fun slot => RvDmaOwner.mk slot mbuf.pkt.tmstamp
          else []) := by
      intro after inFlight dmaSlot stays
      rw [inFlight, if_neg (Nat.lt_irrefl _), List.append_nil]
      exact looked.owns.of_stay inFlight dmaSlot stays
    rcases handled with ⟨inFlight, dmaSlot, stays⟩ | ⟨idx, slot, copied⟩
    · exact kept result.session inFlight dmaSlot stays
    · rcases copied.inFlight with inFlight | ⟨hands, copy, inFlight⟩
      · exact kept result.session inFlight copied.dmaSlot copied.stays
      · have current : answer.session.dmaSlot = some idx := by
          rcases looked.slot idx slot with ⟨found, same⟩ | opened
          · rw [same] at hands ⊢
            refine careful idx ?_ ?_
            · rw [← found]
              exact rvFindSlot_congr cfg.symm fun other => (seenStays.stamps other).symm
            · simp only [rvDmaHands, cfg] at hands ⊢
              rw [show (rvDmaSeen s mbuf).rv.slots = s.rv.slots from counted.2] at hands
              exact hands
          · exact opened
        rw [inFlight, List.length_append, if_pos (by simp), slot]
        exact {
          count := by
            rw [inFlight]
            simp [looked.owns.count]
          owned := by
            intro owner member
            rw [copied.dmaSlot, copied.stays.stamps]
            rcases List.mem_append.mp member with earlier | new
            · exact looked.owns.owned owner earlier
            · simp only [Option.toList_some, List.map_cons, List.map_nil, List.mem_singleton] at new
              subst new
              exact ⟨current, looked.stamp idx slot⟩
          sliced := fun other => (copied.stays.sliced other).trans (looked.owns.sliced other) }

/-! ## Runs -/

theorem rvDmaOwnedStep_owns (s : RvDmaOwned) (input : RvDmaInput) (owns : Owns s.session s.owners)
    (careful : input.Careful s) :
    Owns (rvDmaOwnedStep s input).session (rvDmaOwnedStep s input).owners := by
  cases input with
  | packet env mbuf port ctrlThread => exact (owns.packet env mbuf port ctrlThread careful).2
  | dequeue env nbDq => exact owns.dequeue env nbDq
  | returned frames =>
    refine owns.of_stay rfl rfl ?_
    have returned := rvReturnFrames_eq s.session.rv frames
    exact SlotsStay.of_slots (by rw [rvDmaOwnedStep, RvDmaSession.withRv, returned])
      (by rw [rvDmaOwnedStep, RvDmaSession.withRv, returned])

theorem RvDmaOwned.calls_right (s : RvDmaOwned) (input : RvDmaInput) (owns : Owns s.session s.owners)
    (careful : input.Careful s) : CallsRight (s.calls input) s.owners := by
  cases input with
  | packet env mbuf port ctrlThread => exact (owns.packet env mbuf port ctrlThread careful).1
  | dequeue env nbDq => exact (owns.dropMbuf nbDq).1
  | returned frames => trivial

/-- In slice mode, when the device gets no payload of a known timestamp but of that of `dma_slot`, every copy
that is reported advances the slices of the slot that its packet was received for. -/
theorem slice_copies_attributed (cfg : RvConfig) (hasPktLcore : Bool) (slices : cfg.ops.type = .sliceLevel)
    (inputs : List RvDmaInput)
    (careful : Admitted rvDmaOwnedStep RvDmaInput.Careful (rvDmaInit cfg hasPktLcore) inputs) :
    Admitted rvDmaOwnedStep (fun s input => CallsRight (s.calls input) s.owners)
      (rvDmaInit cfg hasPktLcore) inputs := by
  have initially : Owns (rvDmaInit cfg hasPktLcore).session (rvDmaInit cfg hasPktLcore).owners :=
    Owns.idle rfl fun idx => by simp [rvDmaInit, rvInit, rvSessionReset, RvSlot.reset, RvSlot.init, slices]
  exact admitted_of_invariant rvDmaOwnedStep RvDmaInput.Careful (fun s => Owns s.session s.owners)
    rvDmaOwnedStep_owns RvDmaOwned.calls_right initially careful

/-- A receiver of slices of one line, on two ports; a line takes one packet of 1200 bytes. -/
def slicedRxOps : St20RxOps :=
  { width := 480, height := 4, fmt := .yuv422Bit10, interlaced := false, linesize := 0
    payloadType := 112, ssrc := 0, numPort := 2, type := .sliceLevel, framebuffCnt := 3
    sliceLines := 1, uframeSize := 0, receiveIncompleteFrame := false, enableRtcp := false
    queryExtFrame := false }

def slicedConfig : RvConfig :=
  { ops := slicedRxOps, st22 := none, st20Pg := st20GetPgroup .yuv422Bit10
    st20BytesInLine := 1200, st20Linesize := 1200, st20FbSize := 4800, st20FrameSize := 4800
    st20FrameBitmapSize := 1, sliceLines := 1, sliceSize := 1200, slotMax := 2
    userMetaBufferSize := 1024 }

/-- A line of the frame with the given timestamp, which the device copies or not. -/
def slicedLine (port : MtlSessionPort) (tmstamp row : Nat) (refuses : Bool) : RvDmaInput :=
  .packet
    { notifyRecycled := 0, notifyFull := 0, queryExt := none, portDown := fun _ => false
      timeStamp := 0, missEstimate := 0, refuses := refuses, firstReport := 0, laterReports := []
      notifyFlushed := 0 }
    { pkt :=
        { marker := false, payloadType := 112, seqNumber := row, seqNumberExt := 0
          tmstamp := tmstamp, ssrc := 0, rowLength := 1200, rowNumber := row, rowOffset := 0
          body := List.replicate 1200 0 }
      multiSegment := false }
    port true

def slicedReport : RvDmaInput :=
  .dequeue
    { notifyRecycled := 0, notifyFull := 0, queryExt := none, portDown := fun _ => false
      timeStamp := 0, missEstimate := 0 } 1

/-- Two frames are live: a late line of the first comes while the device copies the second, and the device
refuses it. -/
def twoFrames : List RvDmaInput :=
  [slicedLine .p 5000 0 false, slicedReport, slicedLine .p 6000 0 false, slicedLine .r 5000 1 true,
    slicedLine .p 6000 1 false, slicedReport, slicedReport]

theorem careful_of_found {s : RvDmaOwned} {mbuf : RvMbuf} (env : DmaEnv) (port : MtlSessionPort)
    (ctrlThread : Bool)
    (found : rvFindSlot s.session.rv mbuf.pkt.tmstamp = none ∨
      rvFindSlot s.session.rv mbuf.pkt.tmstamp = s.session.dmaSlot) :
    (RvDmaInput.packet env mbuf port ctrlThread).Careful s := by
  intro idx known _
  rcases found with new | current
  · rw [new] at known
    contradiction
  · rw [← current]
    exact known

theorem careful_of_refused (s : RvDmaOwned) (mbuf : RvMbuf) {env : DmaEnv} (port : MtlSessionPort)
    (ctrlThread : Bool) (refused : env.refuses = true) :
    (RvDmaInput.packet env mbuf port ctrlThread).Careful s := by
  intro idx _ hands
  simp [rvDmaHands, rvDmaTakes, refused] at hands

theorem twoFrames_attributed :
    Admitted rvDmaOwnedStep (fun s input => CallsRight (s.calls input) s.owners)
        (rvDmaInit slicedConfig false) twoFrames ∧
      (List.range 2).map (fun idx =>
        ((run rvDmaOwnedStep (rvDmaInit slicedConfig false) twoFrames).session.rv.slots idx).tmstamp) =
          [5000, 6000] :=
  ⟨slice_copies_attributed slicedConfig false rfl twoFrames
    ⟨careful_of_found _ _ _ (Or.inl (by decide +kernel)), trivial,
      careful_of_found _ _ _ (Or.inl (by decide +kernel)), careful_of_refused _ _ _ _ rfl,
      careful_of_found _ _ _ (Or.inr (by decide +kernel)), trivial, trivial, trivial⟩,
    by decide +kernel⟩

/-- The second port is late: a line of the frame before comes when the next frame has its slot. -/
def latePort : List RvDmaInput :=
  [slicedLine .p 5000 0 true, slicedLine .p 6000 0 true, slicedLine .r 5000 1 false]

/-- The copy of the late line is added to the slices of the next frame. -/
theorem late_copy_advances_next_frame :
    ¬ Admitted rvDmaOwnedStep (fun s input => CallsRight (s.calls input) s.owners)
      (rvDmaInit slicedConfig false) (latePort ++ [slicedReport]) := by
  rw [admitted_append]
  rintro ⟨_, last⟩
  have owners : (run rvDmaOwnedStep (rvDmaInit slicedConfig false) latePort).owners = [⟨0, 5000⟩] := by
    decide +kernel
  have slot : (run rvDmaOwnedStep (rvDmaInit slicedConfig false) latePort).session.dmaSlot = some 1 := by
    decide +kernel
  have copies : (run rvDmaOwnedStep (rvDmaInit slicedConfig false) latePort).session.inFlight.length = 1 := by
    decide +kernel
  generalize run rvDmaOwnedStep (rvDmaInit slicedConfig false) latePort = s at last owners slot copies
  cases inFlight : s.session.inFlight with
  | nil => simp [inFlight] at copies
  | cons copy rest =>
    have right := last.1
    simp only [RvDmaOwned.calls, slicedReport, rvDropMbufCalls, inFlight, owners] at right
    have wrong := right.1.slot
    simp [slot] at wrong

end MediaTransport.Video
