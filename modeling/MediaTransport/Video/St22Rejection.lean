import MediaTransport.Video.Rejection
import MediaTransport.Video.St22Storing

namespace MediaTransport.Video

open Library Util

/-!
# Packets of ST 2110-22 that are rejected in their slot

`rv_handle_st22_pkt` checks where the payload would go only after it has marked
the packet in the bitmap, and, for the first packet of a slot, learnt the
payload length from it.  So a packet that is refused for its length or its
offset at that point has taken the place of its good copy.  The checks before
the bitmap leave the slot as it was.
-/

/-! ## What is promised -/

variable (cfg : RvConfig)

variable (slot : RvSlot) (pkt : Rfc9134Packet)

/-- The payload length that the slot has learnt from its first packet. -/
def RvSlot.learntLength : Option Nat :=
  if slot.seqIdGot then some slot.st22PayloadLength else none

/-- What a rejected packet must leave alone. -/
structure RvSlot.Untouched (before after : RvSlot) : Prop where
  frameBitmap : after.frameBitmap = before.frameBitmap
  frameSize : rvSlotGetFrameSize after = rvSlotGetFrameSize before
  learntLength : after.learntLength = before.learntLength
  pktsReceived : after.pktsReceived = before.pktsReceived
  pktsRecvPerPort : after.pktsRecvPerPort = before.pktsRecvPerPort

def RvSt22Stores (env : RvEnv) (s : RvSession) (pkt : Rfc9134Packet) (port : MtlSessionPort) : Prop :=
  (rvHandleSt22Pkt env s (some pkt) port).ret = .ok () ∧
    (rvHandleSt22Pkt env s (some pkt) port).session.stats.pktsReceived = s.stats.pktsReceived + 1

/-- A packet leaves its slot untouched, and a later packet of the timestamp is
stored exactly when the session would have stored it without this one. -/
structure RvSt22Atomic (found after : RvSession) (slotIdx tmstamp : Nat) : Prop where
  untouched : (found.slots slotIdx).Untouched (after.slots slotIdx)
  later : forall (env : RvEnv) (copy : Rfc9134Packet) (port : MtlSessionPort),
    copy.tmstamp = tmstamp -> rvSt22HeaderCheck found.cfg copy = none ->
      (RvSt22Stores env after copy port <-> RvSt22Stores env found copy port)

/-- The packet fails a check that is made before the bitmap is updated. -/
def RvSt22RefusedEarly : Prop :=
  if slot.seqIdGot then
    (pkt.marker = false ∧ pkt.payload.length ≠ slot.st22PayloadLength) ∨
      cfg.st20FrameBitmapSize * 8 ≤ u16 ((pkt.seqNumber : Int) - slot.seqIdBase)
  else
    (pkt.counter = 0 ∧ cfg.disableBoxes = false ∧ rvParseSt22Boxes pkt.payload = none) ∨
      cfg.st20FrameBitmapSize * 8 ≤ pkt.counter

/-! ## The index -/

/-- The slot takes the packet as a new one and has a place for it. -/
def rvSt22Takes (port : MtlSessionPort) : Bool :=
  match rvSt22Index cfg { slot with secondField := decide (pkt.interlaced = 3) } pkt port with
  | .drop _ _ => false
  | .redundant => false
  | .fresh pktIdx slot _ =>
    match rvSt22Place cfg (slot.advance pktIdx port) pkt with
    | .error _ => false
    | .ok _ => true

/-- A slot whose field flag may have changed, and the length of its boxes where
that cannot matter. -/
def RvSlot.SameChecks (before after : RvSlot) : Prop :=
  (exists boxes, after =
      { before with secondField := after.secondField, st22BoxHdrLength := boxes } ∧
    (boxes = before.st22BoxHdrLength ∨ cfg.st20FrameBitmapSize = 0))

theorem mtBitmapTestAndSet_ne {bitmap : List Byte} {index : Nat}
    (clear : (mtBitmapTestAndSet bitmap index).1 = false) :
    (mtBitmapTestAndSet bitmap index).2 ≠ bitmap := by
  intro same
  by_cases inside : index < 8 * bitmap.length
  · have marked := mtBitmapTest_testAndSet bitmap index index inside
    rw [same, ← mtBitmapTestAndSet_fst bitmap index inside, clear, decide_eq_true rfl] at marked
    cases marked
  · have invalid : bitmapIdxValid bitmap index = false := by
      unfold bitmapIdxValid
      rw [Bool.not_eq_false', Bool.or_eq_true]
      exact Or.inr (decide_eq_true (by omega))
    rw [mtBitmapTestAndSet, invalid] at clear
    cases clear

/-- What the search for an index makes of a packet, told by the checks alone. -/
inductive RvSt22Index.Explained (cfg : RvConfig) (slot : RvSlot) (pkt : Rfc9134Packet) :
    RvSt22Index -> Prop where
  | refused (reason : RvDrop) (after : RvSlot) (early : RvSt22RefusedEarly cfg slot pkt)
      (kept : slot.SameChecks cfg after) : Explained cfg slot pkt (.drop reason after)
  | repeated : Explained cfg slot pkt .redundant
  | marked (pktIdx : Nat) (after : RvSlot) (reordered : Bool)
      (admitted : ¬ RvSt22RefusedEarly cfg slot pkt)
      (changed : after.frameBitmap ≠ slot.frameBitmap ∨ after.learntLength ≠ slot.learntLength) :
      Explained cfg slot pkt (.fresh pktIdx after reordered)

theorem RvSlot.SameChecks.refl : slot.SameChecks cfg slot :=
  ⟨slot.st22BoxHdrLength, rfl, Or.inl rfl⟩

theorem rvSt22Index_explained (port : MtlSessionPort)
    : (rvSt22Index cfg slot pkt port).Explained cfg slot pkt := by
  unfold rvSt22Index
  cases got : slot.seqIdGot with
  | true =>
    rw [if_pos rfl]
    have early : RvSt22RefusedEarly cfg slot pkt <->
        (pkt.marker = false ∧ pkt.payload.length ≠ slot.st22PayloadLength) ∨
          cfg.st20FrameBitmapSize * 8 ≤ u16 ((pkt.seqNumber : Int) - slot.seqIdBase) := by
      rw [RvSt22RefusedEarly, if_pos got]
    by_cases length : pkt.marker = false ∧ pkt.payload.length ≠ slot.st22PayloadLength
    · rw [if_pos length]
      exact .refused _ _ (early.mpr (Or.inl length)) (RvSlot.SameChecks.refl cfg slot)
    · rw [if_neg length]
      dsimp only
      by_cases outside :
          cfg.st20FrameBitmapSize * 8 ≤ u16 ((pkt.seqNumber : Int) - slot.seqIdBase)
      · rw [if_pos outside]
        exact .refused _ _ (early.mpr (Or.inr outside)) (RvSlot.SameChecks.refl cfg slot)
      · rw [if_neg outside]
        split
        · exact .repeated
        · next clear =>
            refine .marked _ _ _ ?_ (Or.inl (mtBitmapTestAndSet_ne (Bool.eq_false_iff.mpr clear)))
            rw [early]
            exact fun refused => refused.elim length outside
  | false =>
    rw [if_neg Bool.false_ne_true]
    have early : RvSt22RefusedEarly cfg slot pkt <->
        (pkt.counter = 0 ∧ cfg.disableBoxes = false ∧ rvParseSt22Boxes pkt.payload = none) ∨
          cfg.st20FrameBitmapSize * 8 ≤ pkt.counter := by
      rw [RvSt22RefusedEarly, got, if_neg Bool.false_ne_true]
    cases boxes : rvSt22BoxHdrLength cfg slot pkt with
    | none =>
      refine .refused _ _ (early.mpr (Or.inl ?_)) (RvSlot.SameChecks.refl cfg slot)
      unfold rvSt22BoxHdrLength at boxes
      split at boxes
      · next first =>
          split at boxes
          · cases boxes
          · next parsed => exact ⟨first, Bool.eq_false_iff.mpr parsed, boxes⟩
      · cases boxes
    | some length =>
      dsimp only
      by_cases outside : cfg.st20FrameBitmapSize * 8 ≤ pkt.counter
      · rw [if_pos outside]
        refine .refused _ _ (early.mpr (Or.inr outside)) ⟨length, by rw [got], ?_⟩
        -- Only the packet with counter zero tells the length of the boxes.
        unfold rvSt22BoxHdrLength at boxes
        split at boxes
        · next first => exact Or.inr (by omega)
        · cases boxes
          exact Or.inl rfl
      · rw [if_neg outside]
        refine .marked _ _ _ ?_ (Or.inr ?_)
        · rw [early]
          rintro (⟨first, enabled, malformed⟩ | far)
          · rw [rvSt22BoxHdrLength, if_pos first, enabled, if_neg Bool.false_ne_true,
              malformed] at boxes
            cases boxes
          · exact outside far
        · rw [RvSlot.learntLength, RvSlot.learntLength, got]
          exact Option.some_ne_none _

/-! ## What a slot takes -/

theorem rvSt22Takes_of_no_bitmap {cfg : RvConfig} (empty : cfg.st20FrameBitmapSize = 0)
    (slot : RvSlot) (pkt : Rfc9134Packet) (port : MtlSessionPort) :
    rvSt22Takes cfg slot pkt port = false := by
  have explained := rvSt22Index_explained cfg { slot with secondField := decide (pkt.interlaced = 3) }
    pkt port
  have refused : RvSt22RefusedEarly cfg { slot with secondField := decide (pkt.interlaced = 3) }
      pkt := by
    unfold RvSt22RefusedEarly
    split
    · exact Or.inr (by rw [empty]; exact Nat.zero_le _)
    · exact Or.inr (by rw [empty]; exact Nat.zero_le _)
  unfold rvSt22Takes
  generalize rvSt22Index cfg _ pkt port = index at explained
  cases explained with
  | refused reason after early kept => rfl
  | repeated => rfl
  | marked pktIdx after reordered admitted changed => exact False.elim (admitted refused)

theorem RvSlot.SameChecks.takes {cfg : RvConfig} {before after : RvSlot}
    (same : before.SameChecks cfg after) (pkt : Rfc9134Packet) (port : MtlSessionPort) :
    rvSt22Takes cfg after pkt port = rvSt22Takes cfg before pkt port := by
  rcases same with ⟨boxes, shape, kept | empty⟩
  · rw [shape, kept]
    rfl
  · rw [rvSt22Takes_of_no_bitmap empty, rvSt22Takes_of_no_bitmap empty]

theorem RvSlot.SameChecks.untouched {cfg : RvConfig} {before after : RvSlot}
    (same : before.SameChecks cfg after) : before.Untouched after := by
  rcases same with ⟨boxes, shape, -⟩
  rw [shape]
  exact ⟨rfl, rfl, rfl, rfl, rfl⟩

/-! ## The packet in its slot -/

/-- What becomes of a packet in its slot: the slot behind it, the return code,
and whether the packet was stored. -/
inductive RvSt22Verdict (cfg : RvConfig) (before : RvSlot) (pkt : Rfc9134Packet) :
    RvSlot -> Except Errno Unit -> Bool -> Prop where
  | early (after : RvSlot) (errno : Errno) (refused : RvSt22RefusedEarly cfg before pkt)
      (kept : before.SameChecks cfg after) : RvSt22Verdict cfg before pkt after (.error errno) false
  | repeated (after : RvSlot) : RvSt22Verdict cfg before pkt after (.ok ()) false
  | late (after : RvSlot) (errno : Errno) (admitted : ¬ RvSt22RefusedEarly cfg before pkt)
      (changed : ¬ before.Untouched after) : RvSt22Verdict cfg before pkt after (.error errno) false
  | stored (after : RvSlot) : RvSt22Verdict cfg before pkt after (.ok ()) true

theorem rvSt22HandleInSlot_ret (env : RvEnv) (s : RvSession) (slotIdx frame : Nat)
    (pkt : Rfc9134Packet) (port : MtlSessionPort) :
    (rvSt22HandleInSlot env s slotIdx frame pkt port).ret =
      match rvSt22Index s.cfg (st22Fielded s slotIdx pkt) pkt port with
      | .drop reason _ => .error reason.errno
      | .redundant => .ok ()
      | .fresh pktIdx slot _ =>
        match rvSt22Place s.cfg (slot.advance pktIdx port) pkt with
        | .error reason => .error reason.errno
        | .ok _ => .ok () := by
  have boxes : (st22Counted s slotIdx pkt).cfg = s.cfg := (onlyCounted_st22Counted s slotIdx pkt).cfg
  unfold rvSt22HandleInSlot
  unfold st22Counted st22Fielded at boxes
  unfold st22Fielded
  dsimp only
  rw [boxes]
  cases rvSt22Index s.cfg { s.slots slotIdx with secondField := decide (pkt.interlaced = 3) } pkt
    port with
  | drop reason after => rfl
  | redundant => rfl
  | fresh pktIdx after reordered =>
    dsimp only
    rw [(onlyCounted_countReordered _ port reordered).cfg, boxes]
    cases rvSt22Place s.cfg (after.advance pktIdx port) pkt with
    | error reason => rfl
    | ok piece => rfl

/-- A packet that is not refused early changes its slot even if it is dropped;
one that is refused early changes only what no later packet looks at. -/
theorem rvSt22HandleInSlot_verdict (env : RvEnv) (s : RvSession) (slotIdx frame : Nat)
    (pkt : Rfc9134Packet) (port : MtlSessionPort) :
    let result := rvSt22HandleInSlot env s slotIdx frame pkt port
    let takes := rvSt22Takes s.cfg (s.slots slotIdx) pkt port
    RvSt22Verdict s.cfg (s.slots slotIdx) pkt (result.session.slots slotIdx) result.ret takes ∧
      result.session.stats.pktsReceived = s.stats.pktsReceived + if takes then 1 else 0 := by
  have explained := rvSt22Index_explained s.cfg (st22Fielded s slotIdx pkt) pkt port
  have ret := rvSt22HandleInSlot_ret env s slotIdx frame pkt port
  have takes : rvSt22Takes s.cfg (s.slots slotIdx) pkt port =
      match rvSt22Index s.cfg (st22Fielded s slotIdx pkt) pkt port with
      | .drop _ _ => false
      | .redundant => false
      | .fresh pktIdx slot _ =>
        match rvSt22Place s.cfg (slot.advance pktIdx port) pkt with
        | .error _ => false
        | .ok _ => true := rfl
  dsimp only
  cases index : rvSt22Index s.cfg (st22Fielded s slotIdx pkt) pkt port with
  | drop reason after =>
    have dropped := @rvSt22HandleInSlot_dropped env s slotIdx frame pkt port reason after index
    rw [index] at explained ret takes
    rw [ret, takes]
    cases explained with
    | refused reason after early kept =>
      rcases kept with ⟨boxes, shape, same⟩
      refine ⟨.early _ _ early ⟨boxes, ?_, same⟩, dropped.counts.received⟩
      rw [dropped.slots, Function.update_self, shape]
      rfl
  | redundant =>
    have repeated := @rvSt22HandleInSlot_repeated env s slotIdx frame pkt port index
    rw [index] at ret takes
    rw [ret, takes]
    exact ⟨.repeated _, repeated.1.received⟩
  | fresh pktIdx after reordered =>
    rw [index] at explained
    cases placed : rvSt22Place s.cfg (after.advance pktIdx port) pkt with
    | error reason =>
      have dropped := @rvSt22HandleInSlot_misplaced env s slotIdx frame pkt port pktIdx after
        reordered reason index placed
      rw [index] at ret takes
      simp only [placed] at ret takes
      rw [ret, takes]
      cases explained with
      | marked _ _ _ admitted changed =>
        refine ⟨.late _ _ admitted ?_, dropped.counts.received⟩
        rw [dropped.slots, Function.update_self]
        exact fun same => changed.elim (fun differ => differ same.frameBitmap)
          (fun differ => differ same.learntLength)
    | ok piece =>
      rw [index] at ret takes
      simp only [placed] at ret takes
      rw [ret, takes]
      refine ⟨.stored _, ?_⟩
      by_cases full : rvSt22Completes s after pkt.marker piece
      · exact (@rvSt22HandleInSlot_last env s slotIdx frame pkt port pktIdx after reordered piece
          index placed full).1.received
      · exact (@rvSt22HandleInSlot_part env s slotIdx frame pkt port pktIdx after reordered piece
          index placed full).1.received

/-! ## The handler -/

section

variable {env : RvEnv} {s : RvSession} {pkt : Rfc9134Packet} {port : MtlSessionPort}

theorem rvHandleSt22Pkt_inSlot {slotIdx frame : Nat}
    (checked : rvSt22HeaderCheck s.cfg pkt = none)
    (found : (rvSlotByTmstamp env s pkt.tmstamp).slot = some slotIdx)
    (held : ((rvSlotByTmstamp env s pkt.tmstamp).session.slots slotIdx).frame = some frame) :
    let inSlot := rvSt22HandleInSlot env
      ((rvSlotByTmstamp env s pkt.tmstamp).session.setRedundant port 0) slotIdx frame pkt port
    (rvHandleSt22Pkt env s (some pkt) port).session = inSlot.session ∧
      (rvHandleSt22Pkt env s (some pkt) port).ret = inSlot.ret := by
  unfold rvHandleSt22Pkt
  simp only [checked, found, held, and_self]

theorem rvHandleSt22Pkt_gone {slotIdx : Nat}
    (checked : rvSt22HeaderCheck s.cfg pkt = none)
    (found : (rvSlotByTmstamp env s pkt.tmstamp).slot = some slotIdx)
    (gone : ((rvSlotByTmstamp env s pkt.tmstamp).session.slots slotIdx).frame = none) :
    (rvHandleSt22Pkt env s (some pkt) port).ret = .ok () ∧
      (rvHandleSt22Pkt env s (some pkt) port).session.stats.pktsReceived =
        (rvSlotByTmstamp env s pkt.tmstamp).session.stats.pktsReceived := by
  unfold rvHandleSt22Pkt
  simp only [checked, found, gone, true_and]
  rfl

theorem rvSt22Stores_iff {slotIdx : Nat} (checked : rvSt22HeaderCheck s.cfg pkt = none)
    (known : rvFindSlot s pkt.tmstamp = some slotIdx) :
    RvSt22Stores env s pkt port <->
      (s.slots slotIdx).frame.isSome = true ∧
        rvSt22Takes s.cfg (s.slots slotIdx) pkt port = true := by
  have looked := @rvSlotByTmstamp_found env s pkt.tmstamp slotIdx known
  have found : (rvSlotByTmstamp env s pkt.tmstamp).slot = some slotIdx := by rw [looked]
  have same : (rvSlotByTmstamp env s pkt.tmstamp).session = s := by rw [looked]
  unfold RvSt22Stores
  cases held : (s.slots slotIdx).frame with
  | none =>
    have copy := @rvHandleSt22Pkt_gone env s pkt port slotIdx checked found (by rw [same, held])
    rw [same] at copy
    constructor
    · rintro ⟨-, more⟩
      omega
    · rintro ⟨holds, -⟩
      cases holds
  | some frame =>
    rcases @rvHandleSt22Pkt_inSlot env s pkt port slotIdx frame checked found
      (by rw [same, held]) with ⟨session, ret⟩
    rcases rvSt22HandleInSlot_verdict env (s.setRedundant port 0) slotIdx frame pkt port with
      ⟨verdict, received⟩
    rw [same] at session ret
    rw [session, ret, received]
    change RvSt22Verdict _ _ _ _ _ (rvSt22Takes s.cfg (s.slots slotIdx) pkt port) at verdict
    change _ ∧ s.stats.pktsReceived + (if rvSt22Takes s.cfg (s.slots slotIdx) pkt port then 1
      else 0) = s.stats.pktsReceived + 1 <-> _
    generalize (rvSt22HandleInSlot env (s.setRedundant port 0) slotIdx frame pkt port).ret = code
      at verdict ⊢
    generalize rvSt22Takes s.cfg (s.slots slotIdx) pkt port = takes at verdict ⊢
    cases takes with
    | true =>
      cases verdict
      exact ⟨fun _ => ⟨rfl, rfl⟩, fun _ => ⟨rfl, rfl⟩⟩
    | false =>
      constructor
      · rintro ⟨-, more⟩
        simp at more
      · rintro ⟨-, taken⟩
        cases taken

end

/-- A rejected packet leaves its slot to its good copy exactly when it was
refused by one of the checks before the bitmap. -/
theorem st22_rejection_atomic_iff (env : RvEnv) (s : RvSession) (pkt : Rfc9134Packet)
    (port : MtlSessionPort) {slotIdx : Nat} {errno : Errno} (some_slots : 0 < s.cfg.slotMax)
    (checked : rvSt22HeaderCheck s.cfg pkt = none)
    (found : (rvSlotByTmstamp env s pkt.tmstamp).slot = some slotIdx)
    (rejected : (rvHandleSt22Pkt env s (some pkt) port).ret = .error errno) :
    RvSt22Atomic (rvSlotByTmstamp env s pkt.tmstamp).session
        (rvHandleSt22Pkt env s (some pkt) port).session slotIdx pkt.tmstamp <->
      RvSt22RefusedEarly s.cfg ((rvSlotByTmstamp env s pkt.tmstamp).session.slots slotIdx) pkt := by
  have looked := rvSlotByTmstamp_lookedFor env pkt.tmstamp some_slots
  cases held : ((rvSlotByTmstamp env s pkt.tmstamp).session.slots slotIdx).frame with
  | none =>
    have copy := @rvHandleSt22Pkt_gone env s pkt port slotIdx checked found held
    rw [copy.1] at rejected
    cases rejected
  | some frame =>
    rcases @rvHandleSt22Pkt_inSlot env s pkt port slotIdx frame checked found held with
      ⟨session, ret⟩
    rw [ret] at rejected
    rw [session]
    generalize (rvSlotByTmstamp env s pkt.tmstamp).session = first at held looked rejected ⊢
    have known : rvFindSlot first pkt.tmstamp = some slotIdx := looked.found slotIdx found
    have guard := (rvSt22HandleInSlot_handled env (first.setRedundant port 0) slotIdx frame pkt
      port).sameGuard
    rcases rvSt22HandleInSlot_verdict env (first.setRedundant port 0) slotIdx frame pkt port with
      ⟨verdict, -⟩
    change RvSt22Verdict first.cfg (first.slots slotIdx) pkt _ _ _ at verdict
    rw [rejected, looked.cfg] at verdict
    generalize (rvSt22HandleInSlot env (first.setRedundant port 0) slotIdx frame pkt port).session
      = after at verdict guard ⊢
    generalize rvSt22Takes _ _ pkt port = takes at verdict
    cases verdict with
    | early _ refused kept =>
      refine ⟨fun _ => refused, fun _ => ⟨kept.untouched, ?_⟩⟩
      intro later copy copyPort same fine
      have again : rvFindSlot after copy.tmstamp = some slotIdx := by
        rw [rvFindSlot_congr guard.cfg guard.stamps, same]
        exact known
      have frames : (after.slots slotIdx).frame = (first.slots slotIdx).frame := by
        rcases kept with ⟨boxes, shape, -⟩
        rw [shape]
      have cfg : after.cfg = first.cfg := guard.cfg
      rw [rvSt22Stores_iff (cfg.symm ▸ fine) again, rvSt22Stores_iff fine (same ▸ known), frames,
        cfg, looked.cfg, kept.takes]
    | late _ admitted changed =>
      exact ⟨fun atomic => False.elim (changed atomic.untouched),
        fun refused => False.elim (admitted refused)⟩

/-- A receiver of codestreams of at most a hundred bytes on two ports. -/
def twinSt22Config : RvConfig :=
  { twinRxConfig with
    st22 := some { framebuffMaxSize := 100, disableBoxes := true }
    st20FbSize := 100, st20FrameSize := 100 }

/-- A piece of ten bytes with the given sequence number and counter. -/
def twinPiece (seqNumber counter arrived : Nat) : Rfc9134Packet :=
  { marker := false, payloadType := 112, seqNumber := seqNumber, tmstamp := 1000, ssrc := 0
    kmode := false, interlaced := 0, lastPacket := false, fCounterLo := 0, fCounterHi := 0
    sepCounterLo := 0, sepCounterHi := 0, pCounterLo := counter, pCounterHi := 0
    payload := List.replicate arrived 9 }

def twinSt22Started : RvSession :=
  (rvHandleSt22Pkt twinEnv (rvInit twinSt22Config) (some (twinPiece 100 0 10)) .p).session

/-- The second piece arrives cut short, and leaves its place to its copy. -/
theorem cut_piece_leaves_slot :
    RvSt22Atomic twinSt22Started
      (rvHandleSt22Pkt twinEnv twinSt22Started (some (twinPiece 101 1 9)) .p).session 0 1000 := by
  have atomic := @st22_rejection_atomic_iff twinEnv twinSt22Started (twinPiece 101 1 9) .p 0 .io
    (by decide +kernel) rfl rfl rfl
  exact atomic.mpr (Or.inl ⟨rfl, by decide +kernel⟩)

/-- The second piece arrives on one port with a wrong counter and is refused for
its offset.  The copy on the other port would have been stored, and is dropped
as already received. -/
theorem wrong_counter_displaces_copy :
    rvAttach 1024 twinSt22Config.ops twinSt22Config.st22 = .ok twinSt22Config ∧
      (rvHandleSt22Pkt twinEnv twinSt22Started (some (twinPiece 101 50 10)) .p).ret = .error .io ∧
      RvSt22Stores twinEnv twinSt22Started (twinPiece 101 1 10) .r ∧
      ¬ RvSt22Stores twinEnv
        (rvHandleSt22Pkt twinEnv twinSt22Started (some (twinPiece 101 50 10)) .p).session
        (twinPiece 101 1 10) .r ∧
      ¬ RvSt22Atomic twinSt22Started
        (rvHandleSt22Pkt twinEnv twinSt22Started (some (twinPiece 101 50 10)) .p).session 0 1000 := by
  have stores : RvSt22Stores twinEnv twinSt22Started (twinPiece 101 1 10) .r :=
    ⟨rfl, by decide +kernel⟩
  have displaced : ¬ RvSt22Stores twinEnv
      (rvHandleSt22Pkt twinEnv twinSt22Started (some (twinPiece 101 50 10)) .p).session
      (twinPiece 101 1 10) .r := by
    rintro ⟨-, more⟩
    exact absurd more (by decide +kernel)
  refine ⟨rfl, rfl, stores, displaced, fun atomic => displaced ?_⟩
  exact (atomic.later twinEnv (twinPiece 101 1 10) .r rfl rfl).mpr stores

end MediaTransport.Video
