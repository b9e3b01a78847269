import MediaTransport.Video.Storing

namespace MediaTransport.Video

open Library

/-!
# Who owns a frame

Every frame of the pool is free, belongs to one slot, or belongs to the
application.  The code has no such field: it has a reference count for every
frame, a frame in every slot, and whatever the application was handed.  This
module states the owners as an abstract model, relates the code's state to it,
and shows which steps of the code are steps of the model.
-/

/-! ## The abstract model -/

inductive Owner where
  | free
  | slot (idx : Nat)
  | app
  deriving DecidableEq, Repr

/-- The part of a session that ownership is about. -/
structure Custody where
  refcnt : Nat -> Int
  held : Nat -> Option Nat

/-- The code's state agrees with one owner for each of `count` frames; `app`
lists the frames that the application has. -/
structure Custody.Agrees (custody : Custody) (count : Nat) (app : List Nat)
    (owner : Nat -> Owner) : Prop where
  refcnt : ∀ frame < count,
    custody.refcnt frame = if owner frame = .free then 0 else 1
  held : forall idx frame, custody.held idx = some frame ↔ frame < count ∧ owner frame = .slot idx
  app : forall frame, app.count frame = if frame < count ∧ owner frame = .app then 1 else 0

namespace Custody

def put (custody : Custody) (frame : Nat) : Custody :=
  { custody with refcnt := Function.update custody.refcnt frame (custody.refcnt frame - 1) }

def leave (custody : Custody) (idx : Nat) : Custody :=
  { custody with held := Function.update custody.held idx none }

def take (custody : Custody) (idx frame : Nat) : Custody :=
  { refcnt := Function.update custody.refcnt frame (custody.refcnt frame + 1)
    held := Function.update custody.held idx (some frame) }

section

variable (custody : Custody)

@[simp] theorem put_refcnt (frame : Nat) : (custody.put frame).refcnt =
    Function.update custody.refcnt frame (custody.refcnt frame - 1) := rfl

@[simp] theorem put_held (frame : Nat) :
    (custody.put frame).held = custody.held := rfl

@[simp] theorem leave_refcnt (idx : Nat) :
    (custody.leave idx).refcnt = custody.refcnt := rfl

@[simp] theorem leave_held (idx : Nat) :
    (custody.leave idx).held = Function.update custody.held idx none := rfl

@[simp] theorem take_refcnt (idx frame : Nat) : (custody.take idx frame).refcnt =
    Function.update custody.refcnt frame (custody.refcnt frame + 1) := rfl

@[simp] theorem take_held (idx frame : Nat) : (custody.take idx frame).held =
    Function.update custody.held idx (some frame) := rfl

end

variable {custody : Custody} {count : Nat} {app : List Nat} {owner : Nat -> Owner} {idx frame : Nat}

section

variable (agrees : custody.Agrees count app owner)

include agrees

theorem Agrees.move (inside : frame < count)
    {after : Custody} {later : List Nat} {next : Owner}
    (refcnt : after.refcnt =
      Function.update custody.refcnt frame (if next = .free then 0 else 1))
    (held : forall idx other, after.held idx = some other ↔
      if other = frame then next = .slot idx else custody.held idx = some other)
    (counts : forall other, later.count other =
      if other = frame then (if next = .app then 1 else 0) else app.count other) :
    after.Agrees count later (Function.update owner frame next) where
  refcnt other bound := by
    rw [refcnt]
    by_cases same : other = frame
    · rw [same, Function.update_self, Function.update_self]
    · rw [Function.update_of_ne same, Function.update_of_ne same]
      exact agrees.refcnt other bound
  held idx other := by
    rw [held]
    by_cases same : other = frame
    · rw [if_pos same, same, Function.update_self]
      exact ⟨fun isNext => ⟨inside, isNext⟩, fun both => both.2⟩
    · rw [if_neg same, Function.update_of_ne same]
      exact agrees.held idx other
  app other := by
    rw [counts]
    by_cases same : other = frame
    · rw [if_pos same, same, Function.update_self]
      simp only [inside, true_and]
    · rw [if_neg same, Function.update_of_ne same]
      exact agrees.app other

theorem Agrees.held_after_leave
    (holds : custody.held idx = some frame) (next : Owner) (notSlot : forall idx, next ≠ .slot idx)
    (other otherFrame : Nat) :
    (custody.leave idx).held other = some otherFrame ↔
      if otherFrame = frame then next = .slot other else custody.held other = some otherFrame := by
  by_cases here : other = idx
  · rw [here, leave_held, Function.update_self, holds]
    by_cases same : otherFrame = frame
    · rw [if_pos same]
      exact ⟨fun absurd => (by cases absurd), fun isSlot => False.elim (notSlot idx isSlot)⟩
    · rw [if_neg same]
      exact ⟨fun absurd => (by cases absurd),
        fun equal => False.elim (same (Option.some.inj equal).symm)⟩
  · rw [leave_held, Function.update_of_ne here]
    by_cases same : otherFrame = frame
    · rw [if_pos same, same]
      refine ⟨fun both => ?_, fun isSlot => False.elim (notSlot other isSlot)⟩
      have first := ((agrees.held idx frame).mp holds).2
      have second := ((agrees.held other frame).mp both).2
      exact False.elim (here (Owner.slot.inj (second.symm.trans first)))
    · rw [if_neg same]

theorem Agrees.of_held (holds : custody.held idx = some frame) :
    frame < count ∧ custody.refcnt frame = 1 ∧ app.count frame = 0 := by
  rcases (agrees.held idx frame).mp holds with ⟨inside, owned⟩
  have one := agrees.refcnt frame inside
  have none_of_app := agrees.app frame
  rw [owned, if_neg (fun absurd => by cases absurd)] at one
  rw [owned, if_neg (fun absurd => by cases absurd.2)] at none_of_app
  exact ⟨inside, one, none_of_app⟩

theorem Agrees.giveBack (holds : custody.held idx = some frame) :
    ((custody.put frame).leave idx).Agrees count app (Function.update owner frame .free) := by
  rcases agrees.of_held holds with ⟨inside, one, none_of_app⟩
  refine agrees.move inside ?_ (agrees.held_after_leave holds .free (fun idx absurd => by cases absurd)) ?_
  · rw [leave_refcnt, put_refcnt, one, if_pos rfl]
    rfl
  · intro other
    by_cases same : other = frame
    · rw [if_pos same, same, none_of_app]
      rfl
    · rw [if_neg same]

theorem Agrees.handOver (holds : custody.held idx = some frame) :
    (custody.leave idx).Agrees count (app ++ [frame]) (Function.update owner frame .app) := by
  rcases agrees.of_held holds with ⟨inside, one, none_of_app⟩
  refine agrees.move inside ?_ (agrees.held_after_leave holds .app (fun idx absurd => by cases absurd)) ?_
  · rw [leave_refcnt, if_neg (fun absurd => by cases absurd), ← one, Function.update_eq_self]
  · intro other
    rw [List.count_append, List.count_singleton]
    by_cases same : other = frame
    · rw [if_pos same, same, none_of_app]
      simp
    · rw [if_neg same]
      simp [Ne.symm same]

theorem Agrees.assign (inside : frame < count)
    (unused : custody.refcnt frame = 0) (empty : custody.held idx = none) :
    (custody.take idx frame).Agrees count app (Function.update owner frame (.slot idx)) := by
  have free : owner frame = .free := by
    by_contra owned
    rw [agrees.refcnt frame inside, if_neg owned] at unused
    cases unused
  refine agrees.move inside ?_ ?_ ?_
  · rw [take_refcnt, unused, if_neg (fun absurd => by cases absurd)]
    rfl
  · intro other otherFrame
    by_cases here : other = idx
    · rw [here, take_held, Function.update_self]
      by_cases same : otherFrame = frame
      · rw [if_pos same, same]
        exact ⟨fun _ => rfl, fun _ => rfl⟩
      · rw [if_neg same, empty]
        exact ⟨fun equal => False.elim (same (Option.some.inj equal).symm),
          fun absurd => by cases absurd⟩
    · rw [take_held, Function.update_of_ne here]
      by_cases same : otherFrame = frame
      · rw [if_pos same, same, agrees.held, free]
        exact ⟨fun absurd => (by cases absurd.2),
          fun isSlot => False.elim (here (Owner.slot.inj isSlot).symm)⟩
      · rw [if_neg same]
  · intro other
    by_cases same : other = frame
    · rw [if_pos same, same, agrees.app, free]
      simp
    · rw [if_neg same]

theorem Agrees.appPut (has : frame ∈ app) :
    (custody.put frame).Agrees count (app.erase frame) (Function.update owner frame .free) := by
  have positive := List.count_pos_iff.mpr has
  rw [agrees.app] at positive
  have owned : frame < count ∧ owner frame = .app := by
    by_contra other
    rw [if_neg other] at positive
    exact Nat.lt_irrefl 0 positive
  have once := agrees.app frame
  rw [if_pos owned] at once
  have one := agrees.refcnt frame owned.1
  rw [owned.2, if_neg (fun absurd => by cases absurd)] at one
  refine agrees.move owned.1 ?_ ?_ ?_
  · rw [put_refcnt, one, if_pos rfl]
    rfl
  · intro idx other
    rw [put_held]
    by_cases same : other = frame
    · rw [if_pos same, same, agrees.held, owned.2]
      exact ⟨fun absurd => (by cases absurd.2), fun absurd => by cases absurd⟩
    · rw [if_neg same]
  · intro other
    by_cases same : other = frame
    · rw [if_pos same, same, List.count_erase_self, once]
      rfl
    · rw [if_neg same, List.count_erase_of_ne same]

end

end Custody

/-! ## The code's state -/

def RvSession.custody (s : RvSession) : Custody :=
  { refcnt := fun frame => (s.frames frame).refcnt, held := fun idx => (s.slots idx).frame }

theorem OnlyCounted.custody_eq {before after : RvSession} (counted : OnlyCounted before after) :
    after.custody = before.custody := by
  rw [RvSession.custody, counted.frames, counted.slots]
  rfl

theorem custody_putFrame (s : RvSession) (frame : Nat) :
    (rvPutFrame s frame).custody = s.custody.put frame := by
  rw [Custody.put]
  refine congrArg₂ Custody.mk (funext fun other => ?_) rfl
  by_cases same : other = frame
  · rw [same, Function.update_self, rvPutFrame, RvSession.setFrame_frames_self]
    rfl
  · rw [Function.update_of_ne same, rvPutFrame, RvSession.setFrame_frames_of_ne _ _ same]
    rfl

section

variable {s : RvSession} {slots : Nat -> RvSlot} {idx : Nat} {slot : RvSlot}
    (same : slots = Function.update s.slots idx slot)

include same

theorem held_update :
    (fun other => (slots other).frame) = Function.update s.custody.held idx slot.frame := by
  funext other
  rw [same]
  by_cases here : other = idx
  · rw [here, Function.update_self, Function.update_self]
  · rw [Function.update_of_ne here, Function.update_of_ne here]
    rfl

theorem held_update_self (kept : slot.frame = (s.slots idx).frame) :
    (fun other => (slots other).frame) = s.custody.held := by
  rw [held_update same, kept]
  exact Function.update_eq_self idx s.custody.held

end

theorem refcnt_withContent (s : RvSession) (frame : Nat) (content : Nat -> Byte) :
    (fun other => ((s.withContent frame content).frames other).refcnt) = s.custody.refcnt := by
  funext other
  by_cases same : other = frame
  · rw [same, RvSession.withContent, RvSession.setFrame_frames_self]
    rfl
  · rw [RvSession.withContent, RvSession.setFrame_frames_of_ne _ _ same]
    rfl

theorem custody_take (s : RvSession) (idx frame : Nat) (addr : Nat -> Byte) (timeStamp : Nat) :
    ((s.setFrame frame ((s.frames frame).take addr)).setSlot idx
      ((s.slots idx).begin s.cfg frame timeStamp)).custody = s.custody.take idx frame := by
  rw [Custody.take]
  refine congrArg₂ Custody.mk (funext fun other => ?_) ?_
  · rw [RvSession.setSlot_frames]
    by_cases same : other = frame
    · rw [same, Function.update_self, RvSession.setFrame_frames_self]
      rfl
    · rw [Function.update_of_ne same, RvSession.setFrame_frames_of_ne _ _ same]
      rfl
  · exact held_update (RvSession.setSlot_slots _ _ _)

def handed (events : List RvEvent) : List Nat :=
  (deliveries events).filterMap
    (fun delivery => if delivery.ret < 0 then none else some delivery.frame)

@[simp] theorem handed_nil : handed [] = [] := rfl

theorem handed_append (first second : List RvEvent) :
    handed (first ++ second) = handed first ++ handed second := by
  rw [handed, deliveries_append, List.filterMap_append]
  rfl

theorem handed_of_delivered {events : List RvEvent} {frame : Nat} {info : RxFrameMeta}
    {content : Nat -> Byte} {ret : Int} (delivered : deliveries events = [⟨frame, info, content, ret⟩]) :
    handed events = if ret < 0 then [] else [frame] := by
  rw [handed, delivered]
  by_cases refused : ret < 0
  · simp [refused]
  · simp [refused]

theorem handed_recycledReady (s : RvSession) (slotIdx frame : Nat) (ret : Int) :
    handed [recycledReady s slotIdx frame ret] = if ret < 0 then [] else [frame] := by
  unfold recycledReady
  cases s.cfg.st22 with
  | some ops => exact handed_of_delivered rfl
  | none => exact handed_of_delivered rfl

/-! ## Reusing a slot -/

/-- The application refuses the incomplete frame of a slot that is reused,
having asked for such frames. -/
def refusesIncomplete (env : RvEnv) (s : RvSession) (slotIdx : Nat) : Bool :=
  (s.slots slotIdx).frame.isSome && !recycledFull s slotIdx &&
    s.cfg.ops.receiveIncompleteFrame && decide (env.notifyRecycled < 0)

theorem handed_retiredEvents {env : RvEnv} {s : RvSession} {slotIdx frame : Nat}
    (holds : (s.slots slotIdx).frame = some frame)
    (safe : refusesIncomplete env s slotIdx = false) :
    handed (retiredEvents env s slotIdx) =
      if givesBack s.cfg (recycledFull s slotIdx) env.notifyRecycled then [] else [frame] := by
  rw [retiredEvents, holds]
  rw [refusesIncomplete, holds] at safe
  dsimp only
  unfold givesBack
  cases full : recycledFull s slotIdx with
  | true =>
    rw [Bool.true_or, if_pos rfl, if_pos rfl, handed_recycledReady]
    simp only [decide_eq_true_eq]
  | false =>
    cases wanted : s.cfg.ops.receiveIncompleteFrame with
    | true =>
      rw [full, wanted] at safe
      have accepted : ¬ env.notifyRecycled < 0 := of_decide_eq_false safe
      rw [Bool.false_or, if_pos rfl, handed_recycledReady, if_neg accepted]
      rfl
    | false => rfl

section Steps

variable {s : RvSession} {count : Nat} {app : List Nat} {owner : Nat -> Owner}

theorem Reused.agrees {env : RvEnv} {after : RvSession} {events : List RvEvent}
    {slotIdx tmstamp : Nat} (reused : Reused env s after events slotIdx tmstamp)
    (agrees : s.custody.Agrees count app owner) (safe : refusesIncomplete env s slotIdx = false) :
    (Exists fun next => after.custody.Agrees count (app ++ handed events) next) ∧
      after.custody.held slotIdx = none := by
  have empties : after.custody.held = Function.update s.custody.held slotIdx none :=
    held_update reused.slots
  refine ⟨?_, by rw [empties, Function.update_self]⟩
  have frames : (fun other => (after.frames other).refcnt) =
      fun other => (retiredFrames env s slotIdx other).refcnt := by rw [reused.frames]
  rw [reused.events_eq]
  cases holds : (s.slots slotIdx).frame with
  | none =>
    have same : after.custody = s.custody := by
      refine congrArg₂ Custody.mk (frames.trans ?_) (held_update_self reused.slots holds.symm)
      rw [retiredFrames, holds]
    rw [retiredEvents, holds, same]
    exact ⟨owner, by rw [handed_nil, List.append_nil]; exact agrees⟩
  | some frame =>
    rw [handed_retiredEvents holds safe]
    unfold retiredFrames at frames
    rw [holds] at frames
    cases gives : givesBack s.cfg (recycledFull s slotIdx) env.notifyRecycled with
    | true =>
      have same : after.custody = (s.custody.put frame).leave slotIdx := by
        refine congrArg₂ Custody.mk (frames.trans ?_) empties
        rw [gives]
        exact congrArg Custody.refcnt (custody_putFrame s frame)
      rw [if_pos rfl, List.append_nil, same]
      exact ⟨_, agrees.giveBack holds⟩
    | false =>
      have same : after.custody = s.custody.leave slotIdx := by
        refine congrArg₂ Custody.mk (frames.trans ?_) empties
        rw [gives]
        rfl
      rw [if_neg Bool.false_ne_true, same]
      exact ⟨_, agrees.handOver holds⟩

/-- From one state of a session to another one the frames pass from owner to owner, and the application has
those that the events hand over. -/
structure Passes (before after : RvSession) (events : List RvEvent) : Prop where
  cfg : after.cfg = before.cfg
  owners : forall (app : List Nat) (owner : Nat -> Owner),
    before.custody.Agrees before.cfg.ops.framebuffCnt app owner ->
      Exists fun next => after.custody.Agrees before.cfg.ops.framebuffCnt (app ++ handed events) next

theorem Passes.of_custody {after : RvSession} {events : List RvEvent} (cfg : after.cfg = s.cfg)
    (same : after.custody = s.custody) (quiet : deliveries events = []) : Passes s after events := by
  refine ⟨cfg, fun app owner agrees => ⟨owner, ?_⟩⟩
  have silent : handed events = [] := by
    rw [handed, quiet]
    rfl
  rw [same, silent, List.append_nil]
  exact agrees

theorem Passes.refl (s : RvSession) : Passes s s [] := Passes.of_custody rfl rfl rfl

theorem Passes.of_counted {after : RvSession} (counted : OnlyCounted s after) : Passes s after [] :=
  Passes.of_custody counted.cfg counted.custody_eq rfl

/-- A step that changes no owner. -/
theorem Passes.then_same {middle after : RvSession} {events : List RvEvent} (early : Passes s middle events)
    (cfg : after.cfg = middle.cfg) (same : after.custody = middle.custody) : Passes s after events := by
  refine ⟨cfg.trans early.cfg, fun app owner agrees => ?_⟩
  rw [same]
  exact early.owners app owner agrees

theorem Passes.trans {first second third : RvSession} {events more : List RvEvent}
    (early : Passes first second events) (late : Passes second third more) :
    Passes first third (events ++ more) := by
  refine ⟨late.cfg.trans early.cfg, fun app owner agrees => ?_⟩
  rcases early.owners app owner agrees with ⟨middle, between⟩
  rw [← early.cfg] at between ⊢
  rw [handed_append, ← List.append_assoc]
  exact late.owners _ middle between

theorem passes_reopen (env : RvEnv) {slotIdx : Nat} (tmstamp : Nat)
    (safe : refusesIncomplete env s slotIdx = false) :
    let reused := rvReuseSlot env s slotIdx tmstamp
    Passes s (rvAssignFrame env reused.1 slotIdx).1 reused.2 := by
  have reused := rvReuseSlot_reused env s slotIdx tmstamp
  dsimp only
  rcases rvAssignFrame_cases env (rvReuseSlot env s slotIdx tmstamp).1 slotIdx with
    ⟨-, counted⟩ | ⟨frame, addr, free, assigned⟩
  · refine ⟨counted.cfg.trans reused.cfg, fun app owner agrees => ?_⟩
    rw [counted.custody_eq]
    exact (reused.agrees agrees safe).1
  · rcases rvGetFrame_some free with ⟨inside, unused⟩
    rw [reused.cfg] at inside
    rw [assigned]
    refine ⟨reused.cfg, fun app owner agrees => ?_⟩
    rcases reused.agrees agrees safe with ⟨⟨middle, kept⟩, empty⟩
    refine ⟨Function.update middle frame (.slot slotIdx), ?_⟩
    rw [custody_take]
    exact kept.assign inside unused empty

theorem passes_lookup {env : RvEnv} {tmstamp : Nat}
    (safe : rvOpens s tmstamp = true -> refusesIncomplete env s (rvNextSlot s) = false) :
    Passes s (rvSlotByTmstamp env s tmstamp).session (rvSlotByTmstamp env s tmstamp).events := by
  rcases rvSlotByTmstamp_cases env s tmstamp with ⟨idx, -, lookup⟩ | lookup | ⟨opens, lookup⟩
  · rw [lookup]
    exact Passes.refl s
  · rw [lookup]
    exact Passes.refl s
  · rw [lookup]
    exact passes_reopen env tmstamp (safe opens)

end Steps

end MediaTransport.Video
