import MediaTransport.Video.PacketLedger
import MediaTransport.Video.RedundantGuard
import MediaTransport.Video.Storing

namespace MediaTransport.Video

/-!
# Packets that are rejected in their slot

Once the slot of a packet is found, `rv_handle_frame_pkt` writes the field flag
and then checks the packet to the end before it writes anything else.  So a
packet that is rejected there leaves the slot as the lookup gave it, and a good
copy that comes later is stored exactly when it would have been stored in the
place of the bad one.  This is said of the handler with and without a DMA
device.
-/

variable {copier : RvCopier} {ctrlThread : Bool} {errno : Errno} {frame slotIdx : Nat}
    {mbuf : RvMbuf} {port : MtlSessionPort} {s : RvSession}

/-! ## The two handlers -/

/-- How the payloads of a session of ST 2110-20 get into its frames. -/
inductive RvCopier where
  | cpu
  | dma
  deriving DecidableEq, Repr

namespace RvCopier

def Session : RvCopier -> Type
  | .cpu => RvSession
  | .dma => RvDmaSession

def Env : RvCopier -> Type
  | .cpu => RvEnv
  | .dma => DmaEnv

def rv : (copier : RvCopier) -> copier.Session -> RvSession
  | .cpu, s => s
  | .dma, s => RvDmaSession.rv s

/-- What the slot lookup leaves, and the slot it found. -/
structure Found (copier : RvCopier) where
  session : copier.Session
  slot : Option Nat

/-- The slot lookup of the handler, behind the count of retransmitted packets. -/
def lookup : (copier : RvCopier) -> copier.Env -> copier.Session -> RvMbuf -> copier.Found
  | .cpu, env, s, mbuf =>
    let answer := rvSlotByTmstamp env (rvCountRetransmit s (rvReadLine mbuf.pkt)) mbuf.pkt.tmstamp
    ⟨answer.session, answer.slot⟩
  | .dma, env, s, mbuf =>
    let answer := rvDmaSlotByTmstamp env
      (RvDmaSession.withRv s (rvCountRetransmit (RvDmaSession.rv s) (rvReadLine mbuf.pkt)))
      mbuf.pkt.tmstamp
    ⟨answer.session, answer.slot⟩

/-- A session and what its handler returned. -/
structure Handled (copier : RvCopier) where
  session : copier.Session
  ret : Except Errno Unit

/-- The rest of the handler for a slot that holds a frame. -/
def inSlot : (copier : RvCopier) -> copier.Env -> copier.Session -> Nat -> Nat -> RvMbuf ->
    MtlSessionPort -> Bool -> copier.Handled
  | .cpu, env, s, slotIdx, frame, mbuf, port, ctrlThread =>
    let result := rvHandleInSlot env (RvSession.setRedundant s port 0) slotIdx frame mbuf port
      ctrlThread
    ⟨result.session, result.ret⟩
  | .dma, env, s, slotIdx, frame, mbuf, port, ctrlThread =>
    let result := rvDmaHandleInSlot env
      (RvDmaSession.withRv s ((RvDmaSession.rv s).setRedundant port 0)) slotIdx frame mbuf port
      ctrlThread
    ⟨result.session, result.ret⟩

/-- `rv_handle_frame_pkt`. -/
def handle : (copier : RvCopier) -> copier.Env -> copier.Session -> RvMbuf -> MtlSessionPort ->
    Bool -> copier.Handled
  | .cpu, env, s, mbuf, port, ctrlThread =>
    let result := rvHandleFramePkt env s mbuf port ctrlThread
    ⟨result.session, result.ret⟩
  | .dma, env, s, mbuf, port, ctrlThread =>
    let result := rvDmaHandleFramePkt env s mbuf port ctrlThread
    ⟨result.session, result.ret⟩

/-- The handler stores the packet: it returns without an error, and the packet
is counted as received and not as a copy. -/
def Stores (copier : RvCopier) (env : copier.Env) (s : copier.Session) (mbuf : RvMbuf)
    (port : MtlSessionPort) (ctrlThread : Bool) : Prop :=
  (copier.handle env s mbuf port ctrlThread).ret = .ok () ∧
    (copier.rv (copier.handle env s mbuf port ctrlThread).session).stats.pktsReceived =
      (copier.rv s).stats.pktsReceived + 1

end RvCopier

def RvSlot.OnlyFielded (before after : RvSlot) : Prop :=
  after = { before with secondField := after.secondField }

theorem RvSlot.OnlyFielded.refl (slot : RvSlot) : slot.OnlyFielded slot := rfl

theorem onlyFielded_update (slots : Nat -> RvSlot) (idx : Nat) (secondField : Bool) (other : Nat) :
    (slots other).OnlyFielded
      (Function.update slots idx { slots idx with secondField := secondField } other) := by
  by_cases same : other = idx
  · rw [same, Function.update_self]
    rfl
  · rw [Function.update_of_ne same]
    rfl

/-! ## What a rejected packet leaves -/

/-- A session behind a packet that was only counted as dropped. -/
structure Refused (before after : RvSession) : Prop where
  cfg : after.cfg = before.cfg
  frames : after.frames = before.frames
  ports : after.stats.port = before.stats.port
  slots : forall idx, (before.slots idx).OnlyFielded (after.slots idx)
  received : after.stats.pktsReceived = before.stats.pktsReceived

theorem refused_drop (s : RvSession) (reason : RvDrop) : Refused s (rvDrop s reason).session :=
  ⟨rfl, rfl, rfl, fun idx => RvSlot.OnlyFielded.refl (s.slots idx), rfl⟩

theorem refused_fielded (s : RvSession) (slotIdx : Nat) (secondField : Bool) (reason : RvDrop) :
    Refused s
      (rvDrop (s.setSlot slotIdx { s.slots slotIdx with secondField := secondField })
        reason).session :=
  ⟨rfl, rfl, rfl, onlyFielded_update s.slots slotIdx secondField, rfl⟩

theorem rvUserMeta_refused {line : RvLine}
    (rejected : (rvUserMeta s frame line).ret = .error errno) :
    Refused s (rvUserMeta s frame line).session := by
  unfold rvUserMeta at rejected ⊢
  dsimp only at rejected ⊢
  generalize (if line.extra.isSome = true then rfc4175ExtraHdrSize else 0) = extraBytes
    at rejected ⊢
  split at rejected
  · cases rejected
  · next misfit =>
      rw [if_neg misfit]
      exact refused_drop s _

theorem rvDmaHandleInSlot_refused {env : DmaEnv} {s : RvDmaSession}
    (rejected : (rvDmaHandleInSlot env s slotIdx frame mbuf port ctrlThread).ret = .error errno) :
    Refused s.rv (rvDmaHandleInSlot env s slotIdx frame mbuf port ctrlThread).session.rv := by
  unfold rvDmaHandleInSlot at rejected ⊢
  dsimp only at rejected ⊢
  split at rejected
  · next flagged =>
      rw [if_pos flagged]
      exact rvUserMeta_refused rejected
  · next plain =>
      rw [if_neg plain]
      cases placed : rvPlace s.rv.cfg (rvReadLine mbuf.pkt) with
      | error reason =>
        simp only [RvDmaSession.withRv, RvSession.setSlot_cfg, placed]
        exact refused_fielded s.rv slotIdx _ reason
      | ok place =>
        simp only [RvDmaSession.withRv, RvSession.setSlot_cfg, placed] at rejected ⊢
        split at rejected
        · next reason _ => exact refused_fielded s.rv slotIdx _ reason
        · cases rejected
        · cases rejected

theorem rvHandleInSlot_refused {env : RvEnv}
    (rejected : (rvHandleInSlot env s slotIdx frame mbuf port ctrlThread).ret = .error errno) :
    Refused s (rvHandleInSlot env s slotIdx frame mbuf port ctrlThread).session := by
  rw [rvHandleInSlot_eq_plain] at rejected ⊢
  exact rvDmaHandleInSlot_refused rejected

theorem RvCopier.inSlot_refused {env : copier.Env} {s : copier.Session}
    (rejected : (copier.inSlot env s slotIdx frame mbuf port ctrlThread).ret = .error errno) :
    Refused (copier.rv s) (copier.rv (copier.inSlot env s slotIdx frame mbuf port ctrlThread).session) := by
  cases copier with
  | cpu =>
    have kept := rvHandleInSlot_refused rejected
    exact ⟨kept.cfg, kept.frames, kept.ports, kept.slots, kept.received⟩
  | dma =>
    have kept := rvDmaHandleInSlot_refused rejected
    exact ⟨kept.cfg, kept.frames, kept.ports, kept.slots, kept.received⟩

/-! ## What is stored -/

/-- The slot takes the packet as a new one. -/
def rvTakes (cfg : RvConfig) (slot : RvSlot) (mbuf : RvMbuf) (port : MtlSessionPort)
    (ctrlThread : Bool) : Bool :=
  let line := rvReadLine mbuf.pkt
  if line.userMeta then
    false
  else
    match rvPlace cfg line with
    | .error _ => false
    | .ok place =>
      match rvIndex cfg { slot with secondField := line.secondField } line place mbuf.pkt.seqId
        port ctrlThread with
      | .drop _ => false
      | .redundant => false
      | .fresh _ _ _ => true

theorem RvSlot.OnlyFielded.takes {cfg : RvConfig} {before after : RvSlot}
    (kept : before.OnlyFielded after) (mbuf : RvMbuf) (port : MtlSessionPort) (ctrlThread : Bool) :
    rvTakes cfg after mbuf port ctrlThread = rvTakes cfg before mbuf port ctrlThread := by
  rw [kept]
  rfl

theorem CountStep.pktsReceived {before after : RvStats} (step : CountStep before after) :
    after.pktsReceived = before.pktsReceived := by
  cases step <;> rfl

theorem Counted.pktsReceived {before after : RvStats} (steps : Counted before after) :
    after.pktsReceived = before.pktsReceived := by
  induction steps with
  | refl => rfl
  | tail _ step ih => exact step.pktsReceived.trans ih

theorem Quiet.pktsReceived {delivered : Nat} {before after : RvSession}
    (quiet : Quiet delivered before after) :
    after.stats.pktsReceived = before.stats.pktsReceived := by
  induction quiet with
  | refl s => rfl
  | trans left right ihLeft ihRight => exact ihRight.trans ihLeft
  | counted s steps => exact steps.pktsReceived
  | delivered s step => exact (congrArg RvStats.pktsReceived step.rest).trans rfl
  | frames s frames => rfl
  | slot s idx slot stamp => rfl
  | sizes s framePkts expect expectPerFrame => rfl

theorem rvUserMeta_received (s : RvSession) (frame : Nat) (line : RvLine) :
    (rvUserMeta s frame line).session.stats.pktsReceived = s.stats.pktsReceived := by
  unfold rvUserMeta
  dsimp only
  generalize (if line.extra.isSome = true then rfc4175ExtraHdrSize else 0) = extraBytes
  split <;> rfl

theorem rvDmaStorePacket_received (env : DmaEnv) (s : RvDmaSession) (slotIdx frame : Nat)
    (slot : RvSlot) (line : RvLine) (place : RvPlacement) (pktIdx : Nat) (port : MtlSessionPort)
    (ctrlThread : Bool) :
    (rvDmaStorePacket env s slotIdx frame slot line place pktIdx port
      ctrlThread).1.rv.stats.pktsReceived = s.rv.stats.pktsReceived + 1 := by
  unfold rvDmaStorePacket
  dsimp only
  generalize rvDmaTakes env s.rv.cfg line place = takes
  have copied : (rvDmaCopy s takes frame line place).rv.stats = s.rv.stats := by
    unfold rvDmaCopy
    split <;> rfl
  generalize rvDmaCopy s takes frame line place = first at copied ⊢
  set counted := first.rv.withStats
    { first.rv.stats with pktsReceived := first.rv.stats.pktsReceived + 1 } with counted_def
  set filled := slot.received pktIdx place.payloadLength port ctrlThread
  have sliced : (rvDmaSlices counted takes filled frame place).2.1.pktsReceived =
      s.rv.stats.pktsReceived + 1 := by
    rw [← copied]
    unfold rvDmaSlices
    split
    · rfl
    · exact (rvSlices_counted counted filled frame place).1.pktsReceived
  generalize rvDmaSlices counted takes filled frame place = slices at sliced ⊢
  split
  · exact (quiet_slotFullFrame env.toRvEnv _ slotIdx frame).pktsReceived.trans sliced
  · exact sliced

/-- A handled packet is counted as received exactly when its slot takes it,
and then nothing went wrong. -/
structure StoredIf (before after : RvSession) (ret : Except Errno Unit) (takes : Bool) : Prop where
  received : after.stats.pktsReceived = before.stats.pktsReceived + if takes then 1 else 0
  returns : takes = true -> ret = .ok ()

theorem rvDmaHandleInSlot_settled (env : DmaEnv) (s : RvDmaSession) (slotIdx frame : Nat)
    (mbuf : RvMbuf) (port : MtlSessionPort) (ctrlThread : Bool) :
    let result := rvDmaHandleInSlot env s slotIdx frame mbuf port ctrlThread
    StoredIf s.rv result.session.rv result.ret
      (rvTakes s.rv.cfg (s.rv.slots slotIdx) mbuf port ctrlThread) := by
  unfold rvDmaHandleInSlot rvTakes RvDmaSession.withRv
  dsimp only
  split
  · exact ⟨rvUserMeta_received s.rv frame _, fun taken => by cases taken⟩
  · rw [RvSession.setSlot_cfg, RvSession.setSlot_slots_self]
    cases rvPlace s.rv.cfg (rvReadLine mbuf.pkt) with
    | error reason => exact ⟨rfl, fun taken => by cases taken⟩
    | ok place =>
      dsimp only
      cases rvIndex _ _ (rvReadLine mbuf.pkt) place mbuf.pkt.seqId port ctrlThread with
      | drop reason => exact ⟨rfl, fun taken => by cases taken⟩
      | redundant => exact ⟨rfl, fun taken => by cases taken⟩
      | fresh pktIdx slot reordered =>
        refine ⟨(rvDmaStorePacket_received env _ slotIdx frame slot _ place pktIdx port
          ctrlThread).trans ?_, fun _ => rfl⟩
        exact congrArg (· + 1) (quiet_countReordered _ port reordered).pktsReceived

theorem rvHandleInSlot_settled (env : RvEnv) (s : RvSession) (slotIdx frame : Nat) (mbuf : RvMbuf)
    (port : MtlSessionPort) (ctrlThread : Bool) :
    let result := rvHandleInSlot env s slotIdx frame mbuf port ctrlThread
    StoredIf s result.session result.ret
      (rvTakes s.cfg (s.slots slotIdx) mbuf port ctrlThread) := by
  rw [rvHandleInSlot_eq_plain]
  exact rvDmaHandleInSlot_settled env.refusing s.idle slotIdx frame mbuf port ctrlThread

theorem RvCopier.inSlot_stored (copier : RvCopier) (env : copier.Env) (s : copier.Session)
    (slotIdx frame : Nat) (mbuf : RvMbuf) (port : MtlSessionPort) (ctrlThread : Bool) :
    let result := copier.inSlot env s slotIdx frame mbuf port ctrlThread
    StoredIf (copier.rv s) (copier.rv result.session) result.ret
      (rvTakes (copier.rv s).cfg ((copier.rv s).slots slotIdx) mbuf port ctrlThread) := by
  cases copier with
  | cpu =>
    have stored := rvHandleInSlot_settled env (RvSession.setRedundant s port 0) slotIdx frame mbuf
      port ctrlThread
    exact ⟨stored.received, stored.returns⟩
  | dma =>
    have stored := rvDmaHandleInSlot_settled env
      (RvDmaSession.withRv s ((RvDmaSession.rv s).setRedundant port 0)) slotIdx frame mbuf port
      ctrlThread
    exact ⟨stored.received, stored.returns⟩

/-! ## The slot lookup -/

theorem reused_found (env : RvEnv) {tmstamp : Nat}
    (some_slots : 0 < s.cfg.slotMax) (unknown : rvFindSlot s tmstamp = none) :
    let after := (rvAssignFrame env (rvReuseSlot env s (rvNextSlot s) tmstamp).1 (rvNextSlot s)).1
    after.cfg = s.cfg ∧ after.stats.pktsReceived = s.stats.pktsReceived ∧
      rvFindSlot after tmstamp = some (rvNextSlot s) := by
  have reused := rvReuseSlot_reused env s (rvNextSlot s) tmstamp
  generalize rvReuseSlot env s (rvNextSlot s) tmstamp = first at reused ⊢
  have assigned := quiet_assignFrame env first.1 (rvNextSlot s)
  have kept := assigned.sameGuard
  refine ⟨kept.cfg.trans reused.cfg, assigned.pktsReceived.trans reused.counts.received, ?_⟩
  have stamps : forall idx, ((rvAssignFrame env first.1 (rvNextSlot s)).1.slots idx).tmstamp =
      (first.1.slots idx).tmstamp := kept.stamps
  rw [rvFindSlot_congr kept.cfg stamps]
  apply rvFindSlot_of_unique
  · rw [reused.cfg]
    exact rvNextSlot_lt some_slots
  · rw [reused.slots, Function.update_self]
    rfl
  · intro other inside differ
    rw [reused.slots, Function.update_of_ne differ]
    rw [reused.cfg] at inside
    exact rvFindSlot_none unknown inside

/-- What a slot lookup does to the session. -/
structure LookedFor (before after : RvSession) (tmstamp : Nat) (slot : Option Nat) : Prop where
  cfg : after.cfg = before.cfg
  received : after.stats.pktsReceived = before.stats.pktsReceived
  found : forall idx, slot = some idx -> rvFindSlot after tmstamp = some idx

theorem rvDmaSlotByTmstamp_lookedFor (env : DmaEnv) {s : RvDmaSession} (tmstamp : Nat)
    (some_slots : 0 < s.rv.cfg.slotMax) :
    LookedFor s.rv (rvDmaSlotByTmstamp env s tmstamp).session.rv tmstamp
      (rvDmaSlotByTmstamp env s tmstamp).slot := by
  unfold rvDmaSlotByTmstamp
  cases known : rvFindSlot s.rv tmstamp with
  | some idx =>
    refine ⟨rfl, rfl, fun other same => ?_⟩
    cases same
    exact known
  | none =>
    dsimp only
    split
    · exact ⟨rfl, rfl, fun other same => by cases same⟩
    · have ready := quiet_dmaSteps.ready env s tmstamp
      generalize rvDmaReady env s tmstamp = waited at ready ⊢
      have kept := ready.sameGuard
      have unknown : rvFindSlot waited.session.rv tmstamp = none := by
        rw [rvFindSlot_congr kept.cfg kept.stamps, known]
      split
      · rcases reused_found env.toRvEnv (kept.cfg ▸ some_slots) unknown with
          ⟨cfg, received, found⟩
        refine ⟨cfg.trans kept.cfg, received.trans ready.pktsReceived, fun other same => ?_⟩
        dsimp only at same
        split at same
        · cases same
          exact found
        · cases same
      · exact ⟨kept.cfg, ready.pktsReceived, fun other same => by cases same⟩

theorem rvSlotByTmstamp_lookedFor (env : RvEnv) (tmstamp : Nat)
    (some_slots : 0 < s.cfg.slotMax) :
    LookedFor s (rvSlotByTmstamp env s tmstamp).session tmstamp
      (rvSlotByTmstamp env s tmstamp).slot := by
  have same := (rvSlotByTmstamp_refusing env (s := s.idle) rfl tmstamp).1
  rw [show rvSlotByTmstamp env s tmstamp = _ from same]
  exact @rvDmaSlotByTmstamp_lookedFor env.refusing s.idle tmstamp some_slots

theorem RvCopier.lookup_lookedFor (copier : RvCopier) (env : copier.Env) {s : copier.Session}
    (mbuf : RvMbuf) (some_slots : 0 < (copier.rv s).cfg.slotMax) :
    LookedFor (copier.rv s) (copier.rv (copier.lookup env s mbuf).session) mbuf.pkt.tmstamp
      (copier.lookup env s mbuf).slot := by
  have counted := quiet_countRetransmit (copier.rv s) (rvReadLine mbuf.pkt)
  have cfg := counted.sameGuard.cfg
  cases copier with
  | cpu =>
    have looked := rvSlotByTmstamp_lookedFor env mbuf.pkt.tmstamp (cfg ▸ some_slots)
    exact ⟨looked.cfg.trans cfg, looked.received.trans counted.pktsReceived, looked.found⟩
  | dma =>
    have looked := @rvDmaSlotByTmstamp_lookedFor env
      (RvDmaSession.withRv s (rvCountRetransmit (RvDmaSession.rv s) (rvReadLine mbuf.pkt)))
      mbuf.pkt.tmstamp (cfg ▸ some_slots)
    exact ⟨looked.cfg.trans cfg, looked.received.trans counted.pktsReceived, looked.found⟩

/-! ## The handler -/

theorem RvCopier.handle_cases (copier : RvCopier) (env : copier.Env) {s : copier.Session}
    (port : MtlSessionPort) (ctrlThread : Bool)
    (checked : rvHeaderCheck (copier.rv s).cfg mbuf = none) :
    let found := copier.lookup env s mbuf
    let result := copier.handle env s mbuf port ctrlThread
    (found.slot = none ∧ Refused (copier.rv found.session) (copier.rv result.session)) ∨
    (Exists fun idx => found.slot = some idx ∧
      ((copier.rv found.session).slots idx).frame = none ∧ result.ret = .ok () ∧
      copier.rv result.session =
        (rvCountRedundant (copier.rv found.session) idx port).setRedundant port
          ((copier.rv found.session).redundantErrorCnt port + 1)) ∨
    Exists fun idx => Exists fun frame => found.slot = some idx ∧
      ((copier.rv found.session).slots idx).frame = some frame ∧
      result = copier.inSlot env found.session idx frame mbuf port ctrlThread := by
  have cfg := (quiet_countRetransmit (copier.rv s) (rvReadLine mbuf.pkt)).sameGuard.cfg
  cases copier with
  | cpu =>
    change rvHeaderCheck (RvSession.cfg s) mbuf = none at checked
    change (rvCountRetransmit s (rvReadLine mbuf.pkt)).cfg = RvSession.cfg s at cfg
    simp only [lookup, handle, inSlot, rv, rvHandleFramePkt, cfg, checked]
    generalize rvSlotByTmstamp env (rvCountRetransmit s (rvReadLine mbuf.pkt))
      mbuf.pkt.tmstamp = answer
    cases slot : answer.slot with
    | none => exact Or.inl ⟨rfl, rfl, rfl, rfl, fun idx => RvSlot.OnlyFielded.refl _, rfl⟩
    | some idx =>
      cases held : (answer.session.slots idx).frame with
      | none => exact Or.inr (Or.inl ⟨idx, rfl, held, by simp only [held], by simp only [held]⟩)
      | some frame => exact Or.inr (Or.inr ⟨idx, frame, rfl, held, by simp only [held]⟩)
  | dma =>
    change rvHeaderCheck (RvDmaSession.rv s).cfg mbuf = none at checked
    change (rvCountRetransmit (RvDmaSession.rv s) (rvReadLine mbuf.pkt)).cfg =
      (RvDmaSession.rv s).cfg at cfg
    simp only [lookup, handle, inSlot, rv, rvDmaHandleFramePkt, RvDmaSession.withRv, cfg, checked]
    generalize rvDmaSlotByTmstamp env _ mbuf.pkt.tmstamp = answer
    cases slot : answer.slot with
    | none => exact Or.inl ⟨rfl, rfl, rfl, rfl, fun idx => RvSlot.OnlyFielded.refl _, rfl⟩
    | some idx =>
      cases held : (answer.session.rv.slots idx).frame with
      | none => exact Or.inr (Or.inl ⟨idx, rfl, held, by simp only [held], by simp only [held]⟩)
      | some frame => exact Or.inr (Or.inr ⟨idx, frame, rfl, held, by simp only [held]⟩)

theorem RvCopier.stores_iff {env : copier.Env} {s : copier.Session}
    (some_slots : 0 < (copier.rv s).cfg.slotMax)
    (checked : rvHeaderCheck (copier.rv s).cfg mbuf = none)
    (found : (copier.lookup env s mbuf).slot = some slotIdx) :
    copier.Stores env s mbuf port ctrlThread <->
      ((copier.rv (copier.lookup env s mbuf).session).slots slotIdx).frame.isSome = true ∧
        rvTakes (copier.rv s).cfg ((copier.rv (copier.lookup env s mbuf).session).slots slotIdx)
          mbuf port ctrlThread = true := by
  have looked := copier.lookup_lookedFor env mbuf some_slots
  unfold Stores
  rcases copier.handle_cases env port ctrlThread checked with
    ⟨missing, -⟩ | ⟨idx, slot, gone, -, counted⟩ | ⟨idx, frame, slot, held, shape⟩
  · rw [found] at missing
    cases missing
  · cases found.symm.trans slot
    have received : ((rvCountRedundant (copier.rv (copier.lookup env s mbuf).session) slotIdx port).setRedundant
        port ((copier.rv (copier.lookup env s mbuf).session).redundantErrorCnt port + 1)).stats.pktsReceived =
          (copier.rv (copier.lookup env s mbuf).session).stats.pktsReceived := rfl
    rw [counted, received, looked.received, gone]
    constructor
    · rintro ⟨-, more⟩
      omega
    · rintro ⟨holds, -⟩
      cases holds
  · cases found.symm.trans slot
    have stored := copier.inSlot_stored env (copier.lookup env s mbuf).session slotIdx frame mbuf
      port ctrlThread
    rw [looked.cfg] at stored
    rw [shape, stored.received, looked.received, held]
    constructor
    · rintro ⟨-, more⟩
      refine ⟨rfl, ?_⟩
      by_contra refused
      rw [if_neg refused] at more
      omega
    · rintro ⟨-, taken⟩
      exact ⟨stored.returns taken, by rw [if_pos taken]⟩

theorem RvCopier.lookup_again (env : copier.Env) {s : copier.Session}
    (found : rvFindSlot (copier.rv s) mbuf.pkt.tmstamp = some slotIdx) :
    (copier.lookup env s mbuf).slot = some slotIdx ∧
      (copier.rv (copier.lookup env s mbuf).session).slots = (copier.rv s).slots := by
  have once := onlyCounted_countRetransmit (copier.rv s) (rvReadLine mbuf.pkt)
  have again : rvFindSlot (rvCountRetransmit (copier.rv s) (rvReadLine mbuf.pkt))
      mbuf.pkt.tmstamp = some slotIdx := by
    rw [rvFindSlot_congr once.cfg (fun idx => by rw [once.slots]), found]
  cases copier with
  | cpu =>
    have shape := @rvSlotByTmstamp_found env _ _ _ again
    exact ⟨congrArg SlotAnswer.slot shape,
      (congrArg (fun answer : SlotAnswer => answer.session.slots) shape).trans once.slots⟩
  | dma =>
    simp only [lookup, rv, rvDmaSlotByTmstamp, RvDmaSession.withRv]
    change rvFindSlot (rvCountRetransmit (RvDmaSession.rv s) (rvReadLine mbuf.pkt))
      mbuf.pkt.tmstamp = some slotIdx at again
    rw [again]
    exact ⟨rfl, once.slots⟩

/-- A packet that is rejected after the slot lookup leaves the buffers, the
counters of the ports, and all of every slot but its field flag as the lookup
gave them, and whether a later packet of the timestamp is stored is not changed
by it. -/
theorem frame_rejection_atomic (copier : RvCopier) (env : copier.Env) (s : copier.Session)
    (mbuf : RvMbuf) (port : MtlSessionPort) (ctrlThread : Bool) {errno : Errno}
    (some_slots : 0 < (copier.rv s).cfg.slotMax)
    (checked : rvHeaderCheck (copier.rv s).cfg mbuf = none)
    (rejected : (copier.handle env s mbuf port ctrlThread).ret = .error errno) :
    let found := copier.lookup env s mbuf
    let after := (copier.handle env s mbuf port ctrlThread).session
    (forall idx, ((copier.rv found.session).slots idx).OnlyFielded ((copier.rv after).slots idx)) ∧
      (copier.rv after).frames = (copier.rv found.session).frames ∧
      (copier.rv after).stats.port = (copier.rv found.session).stats.port ∧
      forall slotIdx, found.slot = some slotIdx ->
        forall (later : copier.Env) (copy : RvMbuf) (copyPort : MtlSessionPort) (ctrl : Bool),
          copy.pkt.tmstamp = mbuf.pkt.tmstamp ->
          rvHeaderCheck (copier.rv s).cfg copy = none ->
          (copier.Stores later after copy copyPort ctrl <->
            copier.Stores later found.session copy copyPort ctrl) := by
  have looked := copier.lookup_lookedFor env mbuf some_slots
  have refused : Refused (copier.rv (copier.lookup env s mbuf).session)
      (copier.rv (copier.handle env s mbuf port ctrlThread).session) := by
    rcases copier.handle_cases env port ctrlThread checked with
      ⟨-, kept⟩ | ⟨idx, -, -, fine, -⟩ | ⟨idx, frame, -, -, shape⟩
    · exact kept
    · rw [fine] at rejected
      cases rejected
    · rw [shape] at rejected ⊢
      exact RvCopier.inSlot_refused rejected
  dsimp only
  generalize (copier.handle env s mbuf port ctrlThread).session = after at refused ⊢
  generalize copier.lookup env s mbuf = found at looked refused ⊢
  refine ⟨refused.slots, refused.frames, refused.ports, ?_⟩
  intro slotIdx slot later copy copyPort ctrl same fine
  have here : rvFindSlot (copier.rv found.session) copy.pkt.tmstamp = some slotIdx := by
    rw [same]
    exact looked.found slotIdx slot
  have stamps : forall idx, ((copier.rv after).slots idx).tmstamp =
      ((copier.rv found.session).slots idx).tmstamp := by
    intro idx
    rw [refused.slots idx]
  have there : rvFindSlot (copier.rv after) copy.pkt.tmstamp = some slotIdx := by
    rw [rvFindSlot_congr refused.cfg stamps, here]
  have cfg : (copier.rv after).cfg = (copier.rv s).cfg := refused.cfg.trans looked.cfg
  have first := copier.lookup_again later there
  have second := copier.lookup_again later here
  rw [RvCopier.stores_iff (cfg ▸ some_slots) (cfg ▸ fine) first.1,
    RvCopier.stores_iff (looked.cfg ▸ some_slots) (looked.cfg ▸ fine) second.1, first.2, second.2,
    refused.cfg, (refused.slots slotIdx).takes]
  -- Both slots hold the same frame.
  rw [refused.slots slotIdx]

/-- A receiver of four lines of two pixels on two ports. -/
def twinRxConfig : RvConfig :=
  { ops :=
      { width := 2, height := 4, fmt := .yuv422Bit10, interlaced := false, linesize := 0
        payloadType := 112, ssrc := 0, numPort := 2, type := .frameLevel, framebuffCnt := 3
        sliceLines := 0, uframeSize := 0, receiveIncompleteFrame := false, enableRtcp := false
        queryExtFrame := false }
    st22 := none, st20Pg := st20GetPgroup .yuv422Bit10, st20BytesInLine := 5, st20Linesize := 5
    st20FbSize := 20, st20FrameSize := 20, st20FrameBitmapSize := 1, sliceLines := 0
    sliceSize := 0, slotMax := 2, userMetaBufferSize := 1024 }

def twinLine (arrived : Nat) : RvMbuf :=
  { pkt :=
      { marker := false, payloadType := 112, seqNumber := 7, seqNumberExt := 0, tmstamp := 1000
        ssrc := 0, rowLength := 5, rowNumber := 1, rowOffset := 0
        body := List.replicate arrived 9 }
    multiSegment := false }

def twinEnv : RvEnv :=
  { notifyRecycled := 0, notifyFull := 0, queryExt := none, portDown := fun _ => false
    timeStamp := 0, missEstimate := 0 }

/-- The line arrives cut short on one port and is stored from the other. -/
theorem cut_line_then_copy_stored :
    rvAttach 1024 twinRxConfig.ops none = .ok twinRxConfig ∧
      RvCopier.cpu.Stores twinEnv
        (RvCopier.cpu.handle twinEnv (rvInit twinRxConfig) (twinLine 4) .p true).session (twinLine 5)
        .r true := by
  have atomic := frame_rejection_atomic .cpu twinEnv (rvInit twinRxConfig) (twinLine 4) .p true
    (by decide) rfl rfl
  refine ⟨rfl, (atomic.2.2.2 0 (by decide +kernel) twinEnv (twinLine 5) .r true rfl rfl).mpr ?_⟩
  exact ⟨rfl, by decide +kernel⟩

end MediaTransport.Video
