import MediaTransport.Pipeline.TxFrames
import MediaTransport.Library.Run

namespace MediaTransport.Pipeline

open Library

/-!
# Lifecycle of the frames of the video transmit pipeline

Every use of a frame is told to be done once, and a frame that the application
released comes back.  This fails where a frame gets into other hands between a
store of its state and the callback that belongs to it, and where a release
comes at a time at which the frame does not wait for one.
-/

/-! ## The cycle -/

def St20pTxFrameStatus.onTheWay : St20pTxFrameStatus -> Bool
  | .free => false
  | .inUser => false
  | _ => true

/-- The cycle of the states of a frame, with its ways back to the application. -/
def St20pTxFrameStatus.Next : St20pTxFrameStatus -> St20pTxFrameStatus -> Prop
  | .free, .inUser => True
  | .inUser, .ready => True
  | .inUser, .converted => True
  | .inUser, .free => True
  | .ready, .inConverting => True
  | .inConverting, .converted => True
  | .inConverting, .free => True
  | .converted, .inTransmitting => True
  | .converted, .dropped => True
  | .dropped, .inUser => True
  | .dropped, .free => True
  | .inTransmitting, .inUser => True
  | .inTransmitting, .free => True
  | _, _ => False

def AlongCycle (before after : St20pTxCtx) : Prop :=
  forall idx, (after.framebuffs idx).stat = (before.framebuffs idx).stat ∨
    (before.framebuffs idx).stat.Next (after.framebuffs idx).stat

/-- A call in which the application releases a frame frees it, or finds it in other hands and leaves it
there. -/
def ComesBack (cfg : St20pTxConfig) (before after : St20pTxCtx) : Prop :=
  cfg.extFrame = true -> forall idx use, use ∉ (before.framebuffs idx).released ->
    use ∈ (after.framebuffs idx).released ->
    (after.framebuffs idx).stat = .free ∨
      (after.framebuffs idx).stat = (before.framebuffs idx).stat ∧
        ((after.framebuffs idx).stat = .inUser -> (after.framebuffs idx).held = true)

/-- The application was told of a frame that the transport has still to send or to drop, and that it
frees then without waiting for a release.  Without a converter, under manual release, nobody tells so
early. -/
def St20pTxFrame.Returning (cfg : St20pTxConfig) (frame : St20pTxFrame) : Prop :=
  (cfg.derive = false ∨ cfg.manualRelease = false) ∧
    (frame.stat = .converted ∨ frame.stat = .inTransmitting ∨ frame.stat = .dropped) ∧
    frame.needInUser cfg = false

/-- What the application can rely on for a frame: it keeps what it got until it puts it; it is told once
of each use that it put, before the frame is there again; and an external frame that it released is free,
or on its way to be. -/
structure St20pTxFrame.Reliable (cfg : St20pTxConfig) (frame : St20pTxFrame) : Prop where
  keeps : frame.held = true -> frame.stat = .inUser
  once : frame.dones.Nodup
  put : ∀ use ∈ frame.dones, use ∈ frame.puts
  told : cfg.notifyFrameDone = true -> ∀ use ∈ frame.puts, use ∈ frame.dones ∨
    use = frame.use ∧
      (frame.stat.onTheWay = true ∨ Exists fun call => (call, use) ∈ frame.toNotify)
  back : cfg.extFrame = true -> frame.use ∈ frame.released ->
    frame.stat = .free ∨ frame.Returning cfg

/-! ## The condition -/

/-- The running search of the transport will let this frame wait for its release. -/
def St20pTxCtx.parks (s : St20pTxCtx) (idx : Nat) : Bool :=
  match s.next with
  | some (.late other needInUser _) => needInUser && decide (other = idx)
  | some (.settle other needInUser _) => needInUser && decide (other = idx)
  | _ => false

/-- The transport finds only frames of which no running call has still to tell the application. -/
def TakesNotified (cfg : St20pTxConfig) (s : St20pTxCtx) : Prop :=
  cfg.internalConverter = true -> cfg.manualRelease = true -> cfg.notifyFrameDone = true ->
    match txSt20pNewestAvailable cfg s .converted with
    | none => True
    | some idx => (s.framebuffs idx).toNotify = []

/-- A frame is got again only after the application was told of its use before, and a release comes
neither while a late frame is being dropped nor when the application has the frame again. -/
def St20pTxInOrder (cfg : St20pTxConfig) (s : St20pTxCtx) : St20pTxInput -> Prop
  | .getFrame =>
    cfg.notifyFrameDone = true ->
      match txSt20pNextAvailable cfg s .free with
      | none => True
      | some idx => (s.framebuffs idx).toNotify = []
  | .nextFrame _ => s.next = none -> TakesNotified cfg s
  | .nextResume _ =>
    match s.next with
    | some (.scan _) => TakesNotified cfg s
    | _ => True
  | .notifyExtFrameFree idx _ =>
    cfg.manualRelease = true -> cfg.internalConverter = false ->
      s.parks idx = false ∧ (s.framebuffs idx).held = false
  | _ => True

/-! ## What holds of each frame -/

/-- The invariant of a frame. -/
structure St20pTxFrame.Sound (cfg : St20pTxConfig) (frame : St20pTxFrame) : Prop where
  flag : frame.frameDoneCbCalled = true <-> frame.use ∈ frame.dones
  put : ∀ use ∈ frame.dones, use ∈ frame.puts
  past : ∀ use ∈ frame.puts, use ≤ frame.use
  informed : ∀ use ∈ frame.released, use ∈ frame.dones
  once : frame.dones.Nodup
  keeps : frame.held = true -> frame.stat = .inUser ∧ frame.use ∉ frame.puts
  travels : frame.stat.onTheWay = true -> frame.use ∈ frame.puts
  parked : frame.stat = .inUser -> frame.held = false ->
    frame.use ∈ frame.puts ∧ cfg.manualRelease = true
  sends : frame.sending = true -> frame.stat = .inTransmitting
  quiet : cfg.notifyFrameDone = false -> frame.dones = []
  owed : cfg.notifyFrameDone = true -> ∀ call ∈ frame.toNotify,
    call.2 = frame.use ∧ frame.use ∈ frame.puts
  told : cfg.notifyFrameDone = true -> ∀ use ∈ frame.puts, use ∈ frame.dones ∨
    use = frame.use ∧
      (frame.stat.onTheWay = true ∨ Exists fun call => (call, use) ∈ frame.toNotify)
  back : cfg.extFrame = true -> frame.use ∈ frame.released ->
    frame.stat = .free ∨ frame.Returning cfg
  derived : cfg.derive = true -> frame.stat ≠ .ready ∧ frame.stat ≠ .inConverting
  untold : cfg.notifyFrameDone = true -> frame.stat = .ready ∨ frame.stat = .inConverting ->
    frame.toNotify = [] ∧ frame.use ∉ frame.dones
  unseen : cfg.notifyFrameDone = true -> cfg.derive = true -> cfg.manualRelease = true ->
    frame.stat = .converted ∨ frame.stat = .inTransmitting ->
    frame.toNotify = [] ∧ frame.use ∉ frame.dones
  early : cfg.internalConverter = true -> cfg.manualRelease = true -> cfg.extFrame = true ->
    cfg.notifyFrameDone = true -> frame.stat.onTheWay = true ->
    frame.frameDoneCbCalled = true ∨ frame.stat = .converted ∧ frame.toNotify ≠ []
  unparked : cfg.internalConverter = true -> cfg.extFrame = true -> cfg.notifyFrameDone = true ->
    frame.stat = .inUser -> frame.held = true

variable {cfg : St20pTxConfig} {frame : St20pTxFrame}

section

variable (sound : frame.Sound cfg)

include sound

theorem St20pTxFrame.Sound.reliable : frame.Reliable cfg :=
  ⟨fun held => (sound.keeps held).1, sound.once, sound.put, sound.told, sound.back⟩

theorem St20pTxFrame.Sound.claim (free : frame.stat = .free)
    (notified : cfg.notifyFrameDone = true -> frame.toNotify = []) (seqNumber : Nat) :
    (frame.claim seqNumber).Sound cfg := by
  have unput : frame.use + 1 ∉ frame.puts := fun member => absurd (sound.past _ member) (by omega)
  have untold : frame.use + 1 ∉ frame.dones := fun member => unput (sound.put _ member)
  cases sound
  constructor <;> grind [St20pTxFrame.claim, St20pTxFrameStatus.onTheWay]

theorem St20pTxFrame.Sound.unowed (calls : cfg.notifyFrameDone = true)
    (unput : frame.use ∉ frame.puts) : frame.toNotify = [] ∧ frame.use ∉ frame.dones :=
  ⟨List.eq_nil_iff_forall_not_mem.mpr fun call owes => unput (sound.owed calls call owes).2,
    fun told => unput (sound.put _ told)⟩

theorem St20pTxFrame.Sound.putFrame (held : frame.held = true)
    (apart : cfg.internalConverter = true -> cfg.extFrame = false) {stat : St20pTxFrameStatus}
    (goes : stat = .converted ∨ stat = .ready ∧ cfg.derive = false) (tfmt : Anc.St10TimestampFmt)
    (timestamp : Nat) : (frame.put stat tfmt timestamp).Sound cfg := by
  have mine := sound.keeps held
  have unowed := fun calls => sound.unowed calls mine.2
  cases sound
  constructor <;> grind [St20pTxFrame.put, St20pTxFrameStatus.onTheWay]

theorem St20pTxFrame.Sound.putConverted (held : frame.held = true) (underived : cfg.derive = false)
    (tfmt : Anc.St10TimestampFmt) (timestamp : Nat) :
    ((frame.put .converted tfmt timestamp).oweNotify .putExt).Sound cfg := by
  have mine := sound.keeps held
  cases sound
  constructor <;> grind [St20pTxFrame.put, St20pTxFrame.oweNotify, St20pTxFrameStatus.onTheWay]

theorem St20pTxFrame.Sound.discard (held : frame.held = true) :
    frame.discard.Sound cfg := by
  cases sound
  constructor <;> grind [St20pTxFrame.discard, St20pTxFrameStatus.onTheWay]

/-- A use that was told is free, waits for its release, or returns without one. -/
theorem St20pTxFrame.Sound.told_stat (calls : cfg.notifyFrameDone = true)
    (told : frame.use ∈ frame.dones)
    (waits : frame.stat = .inUser -> frame.held = true)
    (drops : cfg.derive = true -> cfg.manualRelease = true -> frame.stat ≠ .dropped) :
    frame.stat = .free ∨ frame.Returning cfg := by
  have called := sound.flag.mpr told
  have put := sound.put _ told
  cases sound
  cases here : frame.stat <;> grind [St20pTxFrame.Returning, St20pTxFrame.needInUser]

theorem St20pTxFrame.Sound.release {use : Nat} (calls : cfg.notifyFrameDone = true)
    (told : use ∈ frame.dones) (waits : cfg.extFrame = true -> frame.stat = .inUser -> frame.held = true)
    (drops : cfg.derive = true -> cfg.manualRelease = true -> frame.stat ≠ .dropped) :
    { frame with released := frame.released ++ [use] }.Sound cfg := by
  have comes := fun ext now => sound.told_stat calls now (waits ext) drops
  refine { sound with informed := ?_, back := ?_ }
  · intro other released
    rcases List.mem_append.mp released with before | now
    · exact sound.informed other before
    · rw [List.mem_singleton.mp now]
      exact told
  · intro ext released
    rcases List.mem_append.mp released with before | now
    · exact sound.back ext before
    · rw [← List.mem_singleton.mp now] at told
      exact comes ext told

theorem St20pTxFrame.Sound.free {use : Nat} (told : use ∈ frame.dones)
    (waits : frame.stat = .inUser) (unheld : frame.held = false) :
    { frame with stat := .free, released := frame.released ++ [use] }.Sound cfg := by
  cases sound
  constructor <;> grind [St20pTxFrameStatus.onTheWay]

end

theorem St20pTxFrame.Sound.notifyDone (sound : frame.Sound cfg) (late : frame.stat = .dropped)
    (put : frame.use ∈ frame.puts) : (frame.notifyDone cfg frame.use).Sound cfg := by
  unfold St20pTxFrame.notifyDone
  cases first : cfg.notifyFrameDone && !frame.frameDoneCbCalled with
  | false => simpa using sound
  | true =>
    cases sound
    constructor <;> grind [St20pTxFrame.Returning, St20pTxFrame.needInUser]

theorem St20pTxFrame.notifyDone_told (cfg : St20pTxConfig) (frame : St20pTxFrame) (use : Nat)
    (calls : cfg.notifyFrameDone = true) : (frame.notifyDone cfg use).frameDoneCbCalled = true := by
  unfold St20pTxFrame.notifyDone
  cases called : frame.frameDoneCbCalled <;> simp [calls, called]

section

variable (sound : frame.Sound cfg)

include sound

theorem St20pTxFrame.Sound.notifyCall {call : NotifyCall × Nat}
    (owes : call ∈ frame.toNotify) :
    ({ frame with toNotify := frame.toNotify.erase call }.notifyDone cfg call.2).Sound cfg := by
  have left : ∀ other ∈ frame.toNotify.erase call, other ∈ frame.toNotify :=
    fun other => List.mem_of_mem_erase
  unfold St20pTxFrame.notifyDone
  cases calls : cfg.notifyFrameDone with
  | false =>
    -- there is no callback, and then nothing depends on the calls
    cases sound
    constructor <;> grind
  | true =>
    cases called : frame.frameDoneCbCalled with
    | false =>
      cases sound
      constructor <;> grind
    | true =>
      have told := sound.flag.mp called
      simp only [Bool.not_true, Bool.and_false, Bool.false_eq_true, if_false]
      refine
        { sound with
          flag := ?_, owed := ?_, told := ?_, back := ?_, untold := ?_, unseen := ?_, early := ?_ }
      · exact ⟨fun _ => told, fun _ => rfl⟩
      · exact fun _ other member => sound.owed calls other (left other member)
      · intro _ use member
        rcases sound.told calls use member with done | ⟨rfl, _⟩
        · exact Or.inl done
        · exact Or.inl told
      · intro ext released
        rcases sound.back ext released with free | ⟨early, stat, -⟩
        · exact Or.inl free
        · exact Or.inr ⟨early, stat, by simp [St20pTxFrame.needInUser]⟩
      · exact fun _ stat => absurd told (sound.untold calls stat).2
      · exact fun _ derive manual stat => absurd told (sound.unseen calls derive manual stat).2
      · exact fun _ _ _ _ _ => Or.inl rfl

theorem St20pTxFrame.Sound.move {stat : St20pTxFrameStatus} {sending : Bool}
    (moves : frame.stat = .ready ∧ stat = .inConverting ∨
      frame.stat = .converted ∧ (stat = .inTransmitting ∨ stat = .dropped))
    (sends : sending = true -> stat = .inTransmitting)
    (notified : frame.stat = .converted -> cfg.internalConverter = true -> cfg.manualRelease = true ->
      cfg.notifyFrameDone = true -> frame.toNotify = []) :
    { frame with stat := stat, sending := sending }.Sound cfg := by
  have before : frame.stat.onTheWay = true := by
    rcases moves with ⟨here, -⟩ | ⟨here, -⟩ <;> rw [here] <;> rfl
  have after : stat.onTheWay = true := by
    rcases moves with ⟨-, rfl⟩ | ⟨-, rfl | rfl⟩ <;> rfl
  cases sound
  constructor <;> grind [St20pTxFrame.Returning, St20pTxFrame.needInUser]

theorem St20pTxFrame.Sound.unsent (other : frame.stat ≠ .inTransmitting)
    (sending : frame.sending = true) : False :=
  other (sound.sends sending)

theorem St20pTxFrame.Sound.convertPut (converts : frame.stat = .inConverting)
    (failed : Bool) :
    ({ frame with stat := if failed then .free else .converted }.oweNotify .convertPut).Sound cfg := by
  cases sound
  cases failed <;> constructor <;> grind [St20pTxFrame.oweNotify, St20pTxFrameStatus.onTheWay]

theorem St20pTxFrame.Sound.needInUser_early
    (sent : frame.stat.onTheWay = true) (notified : frame.stat = .converted -> frame.toNotify = [])
    (internal : cfg.internalConverter = true) (ext : cfg.extFrame = true)
    (calls : cfg.notifyFrameDone = true) : frame.needInUser cfg = false := by
  unfold St20pTxFrame.needInUser
  cases manual : cfg.manualRelease with
  | false => rfl
  | true =>
    rcases sound.early internal manual ext calls sent with called | ⟨converted, owes⟩
    · simp [called]
    · exact absurd (notified converted) owes

end

theorem St20pTxFrame.Sound.frameDone (sound : frame.Sound cfg) (sent : frame.stat = .inTransmitting)
    (tfmt : Anc.St10TimestampFmt) (timestamp : Nat) :
    ({ frame with
        tfmt := tfmt
        timestamp := timestamp
        sending := false
        stat := if frame.needInUser cfg then .inUser else .free }.oweNotify .frameDone).Sound cfg := by
  have early := sound.needInUser_early (by rw [sent]; rfl) (fun other => by rw [sent] at other; cases other)
  have unnotified : frame.needInUser cfg = true -> cfg.manualRelease = true ∧ frame.use ∉ frame.dones := by
    intro need
    simp only [St20pTxFrame.needInUser, Bool.and_eq_true, Bool.not_eq_true'] at need
    refine ⟨need.1, fun member => ?_⟩
    rw [sound.flag.mpr member] at need
    cases need.2
  generalize frame.needInUser cfg = need at early unnotified
  cases sound
  cases need <;> constructor <;> grind [St20pTxFrame.oweNotify, St20pTxFrameStatus.onTheWay]

theorem St20pTxFrame.Sound.settle (sound : frame.Sound cfg) (late : frame.stat = .dropped)
    (told : cfg.notifyFrameDone = true -> frame.use ∈ frame.dones) {needInUser : Bool}
    (waits : needInUser = true -> cfg.manualRelease = true ∧
      (cfg.extFrame = true -> frame.use ∉ frame.released) ∧
      ¬ (cfg.internalConverter = true ∧ cfg.extFrame = true ∧ cfg.notifyFrameDone = true)) :
    { frame with stat := if needInUser then .inUser else .free }.Sound cfg := by
  cases sound
  cases needInUser <;> constructor <;> grind [St20pTxFrameStatus.onTheWay]

/-! ## What holds of the pipeline -/

/-- The frame that the transport is dropping; it will wait for its release only where it can get one. -/
structure Dropping (cfg : St20pTxConfig) (frame : St20pTxFrame) (needInUser : Bool) : Prop where
  dropped : frame.stat = .dropped
  waits : needInUser = true -> cfg.manualRelease = true ∧
    (cfg.extFrame = true -> frame.use ∉ frame.released) ∧
    ¬ (cfg.internalConverter = true ∧ cfg.extFrame = true ∧ cfg.notifyFrameDone = true)

/-- The invariant of the pipeline. -/
structure St20pTxCtx.Sound (cfg : St20pTxConfig) (s : St20pTxCtx) : Prop where
  frames : forall idx, (s.framebuffs idx).Sound cfg
  late : forall idx needInUser dropCnt, s.next = some (.late idx needInUser dropCnt) ->
    Dropping cfg (s.framebuffs idx) needInUser
  settle : forall idx needInUser dropCnt, s.next = some (.settle idx needInUser dropCnt) ->
    Dropping cfg (s.framebuffs idx) needInUser ∧
      (cfg.notifyFrameDone = true -> (s.framebuffs idx).use ∈ (s.framebuffs idx).dones)
  parked : cfg.notifyFrameDone = true -> cfg.derive = true -> cfg.manualRelease = true ->
    forall idx, (s.framebuffs idx).stat = .dropped -> s.parks idx = true

variable {s : St20pTxCtx} {idx : Nat}

@[simp] theorem setFrame_same (s : St20pTxCtx) (idx : Nat) (frame : St20pTxFrame) :
    (s.setFrame idx frame).framebuffs idx = frame := by
  simp [St20pTxCtx.setFrame]

theorem setFrame_other {other : Nat} (different : other ≠ idx) (frame : St20pTxFrame) :
    (s.setFrame idx frame).framebuffs other = s.framebuffs other := by
  simp [St20pTxCtx.setFrame, different]

section

variable (sound : s.Sound cfg) (new : frame.Sound cfg)

include sound new

theorem frames_setFrame (other : Nat) :
    ((s.setFrame idx frame).framebuffs other).Sound cfg := by
  by_cases same : other = idx
  · rw [same, setFrame_same]
    exact new
  · rw [setFrame_other same]
    exact sound.frames other

theorem St20pTxCtx.Sound.setFrame
    (undropped : (s.framebuffs idx).stat ≠ .dropped) (kept : frame.stat ≠ .dropped) :
    (s.setFrame idx frame).Sound cfg := by
  have apart : forall other need, Dropping cfg (s.framebuffs other) need -> other ≠ idx := by
    rintro other need dropping rfl
    exact undropped dropping.dropped
  refine ⟨frames_setFrame sound new, ?_, ?_, ?_⟩
  · intro other need dropCnt stage
    have dropping := sound.late other need dropCnt stage
    rw [setFrame_other (apart other need dropping)]
    exact dropping
  · intro other need dropCnt stage
    have dropping := sound.settle other need dropCnt stage
    rw [setFrame_other (apart other need dropping.1)]
    exact dropping
  · intro calls derive manual other dropped
    by_cases same : other = idx
    · rw [same, setFrame_same] at dropped
      exact absurd dropped kept
    · rw [setFrame_other same] at dropped
      exact sound.parked calls derive manual other dropped

theorem St20pTxCtx.Sound.keepFrame
    (stat : frame.stat = (s.framebuffs idx).stat) (use : frame.use = (s.framebuffs idx).use)
    (told : ∀ other ∈ (s.framebuffs idx).dones, other ∈ frame.dones)
    (released : s.parks idx = true -> cfg.extFrame = true ->
      (s.framebuffs idx).use ∉ (s.framebuffs idx).released ->
      (s.framebuffs idx).use ∉ frame.released) : (s.setFrame idx frame).Sound cfg := by
  have keeps : forall need, (need = true -> s.parks idx = true) ->
      Dropping cfg (s.framebuffs idx) need -> Dropping cfg frame need := by
    intro need parks dropping
    refine ⟨stat.trans dropping.dropped, fun needed => ?_⟩
    rcases dropping.waits needed with ⟨manual, unreleased, unparked⟩
    refine ⟨manual, fun ext => ?_, unparked⟩
    rw [use]
    exact released (parks needed) ext (unreleased ext)
  refine ⟨frames_setFrame sound new, ?_, ?_, ?_⟩
  · intro other need dropCnt stage
    have dropping := sound.late other need dropCnt stage
    by_cases same : other = idx
    · subst same
      rw [setFrame_same]
      refine keeps need (fun needed => ?_) dropping
      have running : s.next = some (.late other need dropCnt) := stage
      simp [St20pTxCtx.parks, running, needed]
    · rw [setFrame_other same]
      exact dropping
  · intro other need dropCnt stage
    rcases sound.settle other need dropCnt stage with ⟨dropping, done⟩
    by_cases same : other = idx
    · subst same
      rw [setFrame_same]
      refine ⟨keeps need (fun needed => ?_) dropping, fun calls => ?_⟩
      · have running : s.next = some (.settle other need dropCnt) := stage
        simp [St20pTxCtx.parks, running, needed]
      · rw [use]
        exact told _ (done calls)
    · rw [setFrame_other same]
      exact ⟨dropping, done⟩
  · intro calls derive manual other dropped
    by_cases same : other = idx
    · rw [same, setFrame_same, stat] at dropped
      rw [same]
      exact sound.parked calls derive manual idx dropped
    · rw [setFrame_other same] at dropped
      exact sound.parked calls derive manual other dropped

end

theorem St20pTxCtx.Sound.parks_manual (sound : s.Sound cfg) (parks : s.parks idx = true) :
    cfg.manualRelease = true ∧
      ¬ (cfg.internalConverter = true ∧ cfg.extFrame = true ∧ cfg.notifyFrameDone = true) := by
  unfold St20pTxCtx.parks at parks
  split at parks
  · rename_i other need dropCnt stage
    have waits := (sound.late other need dropCnt stage).waits (Bool.and_eq_true_iff.mp parks).1
    exact ⟨waits.1, waits.2.2⟩
  · rename_i other need dropCnt stage
    have waits := (sound.settle other need dropCnt stage).1.waits (Bool.and_eq_true_iff.mp parks).1
    exact ⟨waits.1, waits.2.2⟩
  · cases parks

/-- What one step keeps. -/
structure Keeps (cfg : St20pTxConfig) (before after : St20pTxCtx) : Prop where
  sound : after.Sound cfg
  cycle : AlongCycle before after
  comes : ComesBack cfg before after

theorem Keeps.refl (sound : s.Sound cfg) : Keeps cfg s s :=
  ⟨sound, fun _ => Or.inl rfl, fun _ _ _ unreleased released => absurd released unreleased⟩

theorem alongCycle_setFrame
    (next : frame.stat = (s.framebuffs idx).stat ∨ (s.framebuffs idx).stat.Next frame.stat) :
    AlongCycle s (s.setFrame idx frame) := by
  intro other
  by_cases same : other = idx
  · subst same
    rw [setFrame_same]
    exact next
  · rw [setFrame_other same]
    exact Or.inl rfl

theorem comesBack_setFrame (same : frame.released = (s.framebuffs idx).released) :
    ComesBack cfg s (s.setFrame idx frame) := by
  intro ext other use unreleased released
  by_cases here : other = idx
  · rw [here, setFrame_same, same] at released
    rw [here] at unreleased
    exact absurd released unreleased
  · rw [setFrame_other here] at released
    exact absurd released unreleased

theorem txSt20pNextAvailable_spec {desired : St20pTxFrameStatus}
    (found : txSt20pNextAvailable cfg s desired = some idx) : (s.framebuffs idx).stat = desired := by
  have wanted := List.find?_some found
  exact of_decide_eq_true wanted

theorem txSt20pNewestAvailable_spec {desired : St20pTxFrameStatus}
    (found : txSt20pNewestAvailable cfg s desired = some idx) :
    (s.framebuffs idx).stat = desired := by
  have scanned : forall (slots : List Nat) (newest : Option Nat),
      (forall other, newest = some other -> (s.framebuffs other).stat = desired) ->
      forall other, slots.foldl
        (fun newest idx =>
          if (s.framebuffs idx).stat = desired ∧
              (newest.all fun other =>
                !mtSeq32Greater (s.framebuffs idx).seqNumber (s.framebuffs other).seqNumber) = true then
            some idx
          else
            newest) newest = some other -> (s.framebuffs other).stat = desired := by
    intro slots
    induction slots with
    | nil => exact fun newest all => all
    | cons slot rest ih =>
      intro newest all
      rw [List.foldl_cons]
      apply ih
      intro other taken
      split at taken
      · rename_i wanted
        cases taken
        exact wanted.1
      · exact all other taken
  exact scanned _ none (fun other absent => by cases absent) idx found

/-! ## Steps -/

theorem St20pTxCtx.Sound.step (sound : s.Sound cfg) (new : frame.Sound cfg)
    {stat : St20pTxFrameStatus} (here : (s.framebuffs idx).stat = stat)
    (undropped : stat ≠ .dropped ∧ stat ≠ .converted) (next : stat.Next frame.stat)
    (same : frame.released = (s.framebuffs idx).released) : Keeps cfg s (s.setFrame idx frame) := by
  have kept : frame.stat ≠ .dropped := by
    intro dropped
    rw [dropped] at next
    cases stat <;> simp [St20pTxFrameStatus.Next] at next undropped
  subst here
  exact ⟨sound.setFrame new undropped.1 kept, alongCycle_setFrame (Or.inr next), comesBack_setFrame same⟩

theorem st20pTxGetFrame_keeps (sound : s.Sound cfg) (order : St20pTxInOrder cfg s .getFrame) :
    Keeps cfg s (st20pTxGetFrame cfg s).1 := by
  unfold st20pTxGetFrame
  by_cases created : (!s.ready) = true
  · rw [if_pos created]
    exact Keeps.refl sound
  · rw [if_neg created]
    unfold St20pTxInOrder at order
    cases found : txSt20pNextAvailable cfg s .free with
    | none => exact Keeps.refl sound
    | some idx =>
      simp only [found] at order
      have free := txSt20pNextAvailable_spec found
      have claimed := (sound.frames idx).claim free order s.framebuffSequenceNumber
      have kept := sound.step claimed free (by decide) (by trivial) rfl
      exact ⟨⟨kept.sound.frames, kept.sound.late, kept.sound.settle, kept.sound.parked⟩, kept.cycle,
        kept.comes⟩

section

variable (sound : s.Sound cfg) (held : (s.framebuffs idx).held = true)

include sound held

theorem st20pTxPutFrame_keeps (tfmt : Anc.St10TimestampFmt) (timestamp : Nat) (tooLarge : Bool) :
    Keeps cfg s (st20pTxPutFrame cfg s idx tfmt timestamp tooLarge).1 := by
  have mine := ((sound.frames idx).keeps held).1
  unfold st20pTxPutFrame
  dsimp only
  rw [if_neg (not_not.mpr mine)]
  by_cases ext : cfg.extFrame = true
  · rw [if_pos ext]
    exact Keeps.refl sound
  · rw [if_neg ext]
    cases tooLarge with
    | true => exact sound.step ((sound.frames idx).discard held) mine (by decide) (by trivial) rfl
    | false =>
      have plain : cfg.internalConverter = true -> cfg.extFrame = false :=
        fun _ => eq_false_of_ne_true ext
      cases converted : cfg.internalConverter || cfg.derive with
      | true =>
        have put := (sound.frames idx).putFrame held plain (Or.inl rfl) tfmt timestamp
        exact sound.step put mine (by decide) (by trivial) rfl
      | false =>
        have underived : cfg.derive = false := (Bool.or_eq_false_iff.mp converted).2
        have put := (sound.frames idx).putFrame held plain (Or.inr ⟨rfl, underived⟩) tfmt timestamp
        exact sound.step put mine (by decide) (by trivial) rfl

theorem st20pTxPutFrameAbort_keeps :
    Keeps cfg s (st20pTxPutFrameAbort s idx).1 := by
  have mine := ((sound.frames idx).keeps held).1
  unfold st20pTxPutFrameAbort
  dsimp only
  rw [if_neg (not_not.mpr mine)]
  exact sound.step ((sound.frames idx).discard held) mine (by decide) (by trivial) rfl

theorem st20pTxPutExtFrame_keeps (tfmt : Anc.St10TimestampFmt) (timestamp : Nat) (refused : Bool) :
    Keeps cfg s (st20pTxPutExtFrame cfg s idx tfmt timestamp refused).1 := by
  have mine := ((sound.frames idx).keeps held).1
  unfold st20pTxPutExtFrame
  dsimp only
  by_cases ext : (!cfg.extFrame) = true
  · rw [if_pos ext]
    exact Keeps.refl sound
  · rw [if_neg ext, if_neg (not_not.mpr mine)]
    cases refused with
    | true => exact Keeps.refl sound
    | false =>
      simp only [Bool.false_eq_true, if_false]
      by_cases derive : cfg.derive = true
      · rw [if_pos derive]
        have external : cfg.internalConverter = true -> cfg.extFrame = false := by
          intro internal
          have underived := cfg.converts internal
          rw [derive] at underived
          cases underived
        have put := (sound.frames idx).putFrame held external (Or.inl rfl) tfmt timestamp
        exact sound.step put mine (by decide) (by trivial) rfl
      · rw [if_neg derive]
        by_cases internal : cfg.internalConverter = true
        · rw [if_pos internal]
          have put := (sound.frames idx).putConverted held (eq_false_of_ne_true derive) tfmt timestamp
          exact sound.step put mine (by decide) (by trivial) rfl
        · rw [if_neg internal]
          have put := (sound.frames idx).putFrame held (fun other => absurd other internal)
            (Or.inr ⟨rfl, eq_false_of_ne_true derive⟩) tfmt timestamp
          exact sound.step put mine (by decide) (by trivial) rfl

end

theorem St20pTxFrame.Sound.calls (sound : frame.Sound cfg) {use : Nat} (told : use ∈ frame.dones) :
    cfg.notifyFrameDone = true := by
  by_contra absent
  rw [sound.quiet (eq_false_of_ne_true absent)] at told
  cases told

theorem St20pTxFrame.Sound.held_of_unparked (sound : frame.Sound cfg) (mine : frame.stat = .inUser)
    (manual : cfg.manualRelease = false) : frame.held = true := by
  by_contra other
  have parked := (sound.parked mine (eq_false_of_ne_true other)).2
  rw [manual] at parked
  cases parked

/-- A release that is only noted: no parked frame is released by it. -/
theorem St20pTxCtx.Sound.noted (sound : s.Sound cfg) {use : Nat} (told : use ∈ (s.framebuffs idx).dones)
    (waits : cfg.extFrame = true -> (s.framebuffs idx).stat = .inUser -> (s.framebuffs idx).held = true)
    (unparked : s.parks idx = true -> cfg.extFrame = true -> False)
    (drops : cfg.derive = true -> cfg.manualRelease = true -> s.parks idx = false) :
    Keeps cfg s (s.setFrame idx
      { s.framebuffs idx with released := (s.framebuffs idx).released ++ [use] }) := by
  have own := sound.frames idx
  have calls := own.calls told
  have undropped : cfg.derive = true -> cfg.manualRelease = true -> (s.framebuffs idx).stat ≠ .dropped := by
    intro derive manual dropped
    have parks := sound.parked calls derive manual idx dropped
    rw [drops derive manual] at parks
    cases parks
  refine ⟨sound.keepFrame (own.release calls told waits undropped) rfl rfl (fun _ member => member) ?_,
    alongCycle_setFrame (Or.inl rfl), ?_⟩
  · exact fun parks ext => (unparked parks ext).elim
  · intro ext other past unreleased released
    by_cases same : other = idx
    · rw [same, setFrame_same]
      exact Or.inr ⟨rfl, waits ext⟩
    · rw [setFrame_other same] at released
      exact absurd released unreleased

theorem st20pTxNotifyExtFrameFree_keeps (sound : s.Sound cfg) {use : Nat}
    (told : use ∈ (s.framebuffs idx).dones)
    (order : St20pTxInOrder cfg s (.notifyExtFrameFree idx use)) :
    Keeps cfg s (st20pTxNotifyExtFrameFree cfg s idx use).1 := by
  have own := sound.frames idx
  unfold st20pTxNotifyExtFrameFree
  dsimp only
  cases manual : cfg.manualRelease with
  | false =>
    refine sound.noted told (fun _ mine => own.held_of_unparked mine manual) (fun parks _ => ?_) ?_
    · have needs := sound.parks_manual parks
      rw [manual] at needs
      cases needs.1
    · rw [manual]
      exact fun _ absurd => by cases absurd
  | true =>
    cases internal : cfg.internalConverter with
    | true =>
      have calls := own.calls told
      refine sound.noted told (fun ext mine => own.unparked internal ext calls mine)
        (fun parks ext => (sound.parks_manual parks).2 ⟨internal, ext, calls⟩) (fun derive _ => ?_)
      rw [cfg.converts internal] at derive
      cases derive
    | false =>
      rcases order manual internal with ⟨unparks, unheld⟩
      simp only [Bool.not_true, Bool.false_eq_true, if_false]
      by_cases mine : (s.framebuffs idx).stat = .inUser
      · rw [if_neg (not_not.mpr mine)]
        have freed := own.free told mine unheld
        refine ⟨sound.setFrame freed (by rw [mine]; decide) nofun, alongCycle_setFrame ?_, ?_⟩
        · rw [mine]
          exact Or.inr trivial
        · intro _ other past unreleased released
          by_cases same : other = idx
          · rw [same, setFrame_same]
            exact Or.inl rfl
          · rw [setFrame_other same] at released
            exact absurd released unreleased
      · rw [if_pos mine]
        refine sound.noted told (fun _ here => absurd here mine) (fun parks _ => ?_) (fun _ _ => unparks)
        rw [unparks] at parks
        cases parks

theorem txSt20pConvertGetFrame_keeps (sound : s.Sound cfg) :
    Keeps cfg s (txSt20pConvertGetFrame cfg s).1 := by
  unfold txSt20pConvertGetFrame
  by_cases created : (!s.ready) = true
  · rw [if_pos created]
    exact Keeps.refl sound
  · rw [if_neg created]
    cases found : txSt20pNewestAvailable cfg s .ready with
    | none => exact Keeps.refl sound
    | some idx =>
      have ready := txSt20pNewestAvailable_spec found
      have own := sound.frames idx
      have taken : { s.framebuffs idx with stat := .inConverting }.Sound cfg := by
        refine own.move (Or.inl ⟨ready, rfl⟩) (fun sending => ?_) (fun converted => ?_)
        · exact (own.unsent (by rw [ready]; decide) sending).elim
        · rw [ready] at converted
          cases converted
      exact sound.step taken ready (by decide) (by trivial) rfl

theorem txSt20pConvertPutFrame_keeps (sound : s.Sound cfg) (failed : Bool) :
    Keeps cfg s (txSt20pConvertPutFrame s idx failed).1 := by
  unfold txSt20pConvertPutFrame
  dsimp only
  by_cases converts : (s.framebuffs idx).stat = .inConverting
  · rw [if_neg (not_not.mpr converts)]
    refine sound.step ((sound.frames idx).convertPut converts failed) converts (by decide) ?_ rfl
    cases failed <;> trivial
  · rw [if_pos converts]
    exact Keeps.refl sound

theorem notifyDone_stat (frame : St20pTxFrame) (use : Nat) :
    (frame.notifyDone cfg use).stat = frame.stat ∧ (frame.notifyDone cfg use).use = frame.use ∧
      (frame.notifyDone cfg use).released = frame.released := by
  unfold St20pTxFrame.notifyDone
  split <;> exact ⟨rfl, rfl, rfl⟩

theorem notifyDone_dones (frame : St20pTxFrame) (use : Nat) {other : Nat} (told : other ∈ frame.dones) :
    other ∈ (frame.notifyDone cfg use).dones := by
  unfold St20pTxFrame.notifyDone
  split
  · exact List.mem_append_left _ told
  · exact told

/-- A search does not look for frames while a late one is being dropped. -/
def Scanning (s : St20pTxCtx) : Prop := s.next = none ∨ Exists fun dropCnt => s.next = some (.scan dropCnt)

theorem Scanning.unparks (scanning : Scanning s) (idx : Nat) : s.parks idx = false := by
  rcases scanning with stage | ⟨dropCnt, stage⟩ <;> simp [St20pTxCtx.parks, stage]

section

variable (sound : s.Sound cfg)

include sound

theorem txSt20pNotifyFrameDone_keeps (call : NotifyCall × Nat) :
    Keeps cfg s (txSt20pNotifyFrameDone cfg s idx call) := by
  unfold txSt20pNotifyFrameDone
  dsimp only
  by_cases owes : call ∈ (s.framebuffs idx).toNotify
  · rw [if_pos owes]
    have spec := @notifyDone_stat cfg
      { s.framebuffs idx with toNotify := (s.framebuffs idx).toNotify.erase call } call.2
    refine ⟨sound.keepFrame ((sound.frames idx).notifyCall owes) spec.1 spec.2.1
      (fun other told => notifyDone_dones _ _ told) (fun _ _ unreleased => ?_),
      alongCycle_setFrame (Or.inl spec.1), comesBack_setFrame spec.2.2⟩
    rw [spec.2.2]
    exact unreleased
  · rw [if_neg owes]
    exact Keeps.refl sound

theorem txSt20pNextScan_keeps (scanning : Scanning s) (notified : TakesNotified cfg s)
    (dropCnt curTai : Nat) : Keeps cfg s (txSt20pNextScan cfg s dropCnt curTai).1 := by
  -- no frame is being dropped yet
  have undropped : cfg.notifyFrameDone = true -> cfg.derive = true -> cfg.manualRelease = true ->
      forall idx, (s.framebuffs idx).stat ≠ .dropped := by
    intro calls derive manual idx dropped
    have parks := sound.parked calls derive manual idx dropped
    rw [scanning.unparks] at parks
    cases parks
  unfold txSt20pNextScan
  cases found : txSt20pNewestAvailable cfg s .converted with
  | none =>
    refine ⟨⟨sound.frames, (fun _ _ _ absurd => by cases absurd), (fun _ _ _ absurd => by cases absurd),
      ?_⟩, fun _ => Or.inl rfl, fun _ _ _ unreleased released => absurd released unreleased⟩
    exact fun calls derive manual idx dropped => absurd dropped (undropped calls derive manual idx)
  | some idx =>
    have converted := txSt20pNewestAvailable_spec found
    have own := sound.frames idx
    unfold TakesNotified at notified
    simp only [found] at notified
    dsimp only
    by_cases late : txSt20pIfFrameLate cfg (s.framebuffs idx) curTai = true
    · rw [if_pos late]
      have dropped : { s.framebuffs idx with stat := .dropped }.Sound cfg := by
        refine own.move (Or.inr ⟨converted, Or.inr rfl⟩) (fun sending => ?_) (fun _ => notified)
        exact (own.unsent (by rw [converted]; decide) sending).elim
      refine ⟨⟨frames_setFrame sound dropped, ?_, (fun _ _ _ absurd => by cases absurd), ?_⟩,
        alongCycle_setFrame (Or.inr (by rw [converted]; trivial)), comesBack_setFrame rfl⟩
      · intro other need count stage
        simp only [Option.some.injEq, NextStage.late.injEq] at stage
        rcases stage with ⟨rfl, rfl, -⟩
        change Dropping cfg ((s.setFrame idx _).framebuffs idx) _
        rw [setFrame_same]
        refine ⟨rfl, fun need => ?_⟩
        have parks := need
        simp only [St20pTxFrame.needInUser, Bool.and_eq_true, Bool.not_eq_true'] at parks
        refine ⟨parks.1, fun _ released => ?_, ?_⟩
        · have called := own.flag.mpr (own.informed _ released)
          rw [called] at parks
          cases parks.2
        · rintro ⟨internal, ext, calls⟩
          have early := own.needInUser_early (by rw [converted]; rfl) (fun _ => notified internal parks.1 calls)
            internal ext calls
          rw [need] at early
          cases early
      · intro calls derive manual other here
        by_cases same : other = idx
        · have untold := own.flag.not.mpr (own.unseen calls derive manual (Or.inl converted)).2
          simp [St20pTxCtx.parks, St20pTxFrame.needInUser, manual, untold, same]
        · change ((s.setFrame idx _).framebuffs other).stat = .dropped at here
          rw [setFrame_other same] at here
          exact absurd here (undropped calls derive manual other)
    · rw [if_neg late]
      have sent : { s.framebuffs idx with stat := .inTransmitting, sending := true }.Sound cfg :=
        own.move (Or.inr ⟨converted, Or.inl rfl⟩) (fun _ => rfl) (fun _ => notified)
      have kept := sound.setFrame sent (by rw [converted]; decide) nofun
      refine ⟨⟨kept.frames, (fun _ _ _ absurd => by cases absurd), (fun _ _ _ absurd => by cases absurd),
        ?_⟩, alongCycle_setFrame (Or.inr (by rw [converted]; trivial)), comesBack_setFrame rfl⟩
      intro calls derive manual other here
      have parks := kept.parked calls derive manual other here
      rw [show (s.setFrame idx _).parks other = s.parks other from rfl, scanning.unparks] at parks
      cases parks

theorem txSt20pNextFrame_keeps {curTai : Nat}
    (order : St20pTxInOrder cfg s (.nextFrame curTai)) :
    Keeps cfg s (txSt20pNextFrame cfg s curTai).1 := by
  unfold txSt20pNextFrame
  by_cases busy : (!s.ready || s.next.isSome) = true
  · rw [if_pos busy]
    exact Keeps.refl sound
  · rw [if_neg busy]
    have idle : s.next = none := by
      cases stage : s.next with
      | none => rfl
      | some stage' => simp [stage] at busy
    exact txSt20pNextScan_keeps sound (Or.inl idle) (order idle) 0 curTai

theorem txSt20pNextResume_keeps {curTai : Nat}
    (order : St20pTxInOrder cfg s (.nextResume curTai)) :
    Keeps cfg s (txSt20pNextResume cfg s curTai).1 := by
  unfold txSt20pNextResume
  unfold St20pTxInOrder at order
  cases stage : s.next with
  | none => exact Keeps.refl sound
  | some running =>
    cases running with
    | scan dropCnt =>
      simp only [stage] at order
      exact txSt20pNextScan_keeps sound (Or.inr ⟨dropCnt, stage⟩) order dropCnt curTai
    | late idx need dropCnt =>
      have dropping := sound.late idx need dropCnt stage
      have own := sound.frames idx
      have put : (s.framebuffs idx).use ∈ (s.framebuffs idx).puts :=
        own.travels (by rw [dropping.dropped]; rfl)
      have spec := @notifyDone_stat cfg (s.framebuffs idx) (s.framebuffs idx).use
      have told := own.notifyDone dropping.dropped put
      refine ⟨⟨frames_setFrame sound told, (fun _ _ _ absurd => by cases absurd), ?_, ?_⟩,
        alongCycle_setFrame (Or.inl spec.1), comesBack_setFrame spec.2.2⟩
      · intro other otherNeed count next
        simp only [Option.some.injEq, NextStage.settle.injEq] at next
        rcases next with ⟨rfl, rfl, -⟩
        change Dropping cfg ((s.setFrame idx _).framebuffs idx) _ ∧ (_ ->
          ((s.setFrame idx _).framebuffs idx).use ∈ ((s.setFrame idx _).framebuffs idx).dones)
        rw [setFrame_same]
        refine ⟨⟨spec.1.trans dropping.dropped, fun needed => ?_⟩, fun calls => ?_⟩
        · rw [spec.2.1, spec.2.2]
          exact dropping.waits needed
        · exact told.flag.mp (St20pTxFrame.notifyDone_told cfg _ _ calls)
      · intro calls derive manual other here
        have before : (s.framebuffs other).stat = .dropped := by
          by_cases same : other = idx
          · rw [same]
            exact dropping.dropped
          · rw [← setFrame_other same]
            exact here
        have parks := sound.parked calls derive manual other before
        simp only [St20pTxCtx.parks, stage] at parks
        simpa [St20pTxCtx.parks] using parks
    | settle idx need dropCnt =>
      rcases sound.settle idx need dropCnt stage with ⟨dropping, told⟩
      have settled := (sound.frames idx).settle dropping.dropped told dropping.waits
      refine ⟨⟨frames_setFrame sound settled, ?_, ?_, ?_⟩, ?_, comesBack_setFrame rfl⟩
      · intro other otherNeed count next
        dsimp only at next
        split at next <;> cases next
      · intro other otherNeed count next
        dsimp only at next
        split at next <;> cases next
      · intro calls derive manual other here
        by_cases same : other = idx
        · change ((s.setFrame idx _).framebuffs other).stat = .dropped at here
          rw [same, setFrame_same] at here
          cases need <;> cases here
        · change ((s.setFrame idx _).framebuffs other).stat = .dropped at here
          rw [setFrame_other same] at here
          have parks := sound.parked calls derive manual other here
          simp [St20pTxCtx.parks, stage, Ne.symm same] at parks
      · refine alongCycle_setFrame (Or.inr ?_)
        rw [dropping.dropped]
        cases need <;> trivial

theorem txSt20pFrameDone_keeps (sending : (s.framebuffs idx).sending = true)
    (tfmt : Anc.St10TimestampFmt) (timestamp : Nat) :
    Keeps cfg s (txSt20pFrameDone cfg s idx tfmt timestamp).1 := by
  have sent := (sound.frames idx).sends sending
  unfold txSt20pFrameDone
  dsimp only
  rw [if_pos sent]
  refine sound.step ((sound.frames idx).frameDone sent tfmt timestamp) sent (by decide) ?_ rfl
  dsimp only [St20pTxFrame.oweNotify]
  cases (s.framebuffs idx).needInUser cfg <;> trivial

theorem txSt20pStep_keeps {input : St20pTxInput}
    (disciplined : St20pTxDisciplined s input) (order : St20pTxInOrder cfg s input) :
    Keeps cfg s (txSt20pStep cfg s input) := by
  cases input with
  | getFrame => exact st20pTxGetFrame_keeps sound order
  | putFrame idx tfmt timestamp tooLarge =>
    exact st20pTxPutFrame_keeps sound disciplined tfmt timestamp tooLarge
  | putFrameAbort idx => exact st20pTxPutFrameAbort_keeps sound disciplined
  | putExtFrame idx tfmt timestamp refused =>
    exact st20pTxPutExtFrame_keeps sound disciplined tfmt timestamp refused
  | notifyExtFrameFree idx use => exact st20pTxNotifyExtFrameFree_keeps sound disciplined.1 order
  | convertGet => exact txSt20pConvertGetFrame_keeps sound
  | convertPut idx failed => exact txSt20pConvertPutFrame_keeps sound failed
  | nextFrame curTai => exact txSt20pNextFrame_keeps sound order
  | nextResume curTai => exact txSt20pNextResume_keeps sound order
  | frameDone idx tfmt timestamp => exact txSt20pFrameDone_keeps sound disciplined tfmt timestamp
  | notifyDone idx call => exact txSt20pNotifyFrameDone_keeps sound call

end

theorem txSt20pInit_sound (cfg : St20pTxConfig) : txSt20pInit.Sound cfg := by
  refine ⟨fun idx => ?_, (fun _ _ _ absurd => by cases absurd), (fun _ _ _ absurd => by cases absurd),
    fun _ _ _ _ absurd => by cases absurd⟩
  constructor <;> simp [txSt20pInit, St20pTxFrameStatus.onTheWay]

/-! ## Runs -/

instance (cfg : St20pTxConfig) (s : St20pTxCtx) : Decidable (TakesNotified cfg s) := by
  unfold TakesNotified
  split <;> infer_instance

instance (cfg : St20pTxConfig) (s : St20pTxCtx) (input : St20pTxInput) :
    Decidable (St20pTxInOrder cfg s input) := by
  induction input using St20pTxInput.casesOn <;> dsimp only [St20pTxInOrder] <;> try infer_instance
  · generalize txSt20pNextAvailable cfg s .free = found
    induction found using Option.casesOn <;> infer_instance
  · generalize s.next = next
    induction next using Option.casesOn with
    | none => infer_instance
    | some stage => induction stage using NextStage.casesOn <;> infer_instance

/-- In every run of calls in order, each frame is reliable for the application, and every further call
moves it along the cycle only and gives back what it releases. -/
theorem st20p_tx_frame_lifecycle (cfg : St20pTxConfig) (inputs : List St20pTxInput)
    (admitted : Admitted (txSt20pStep cfg)
      (fun s input => St20pTxDisciplined s input ∧ St20pTxInOrder cfg s input) txSt20pInit inputs) :
    (forall idx, ((run (txSt20pStep cfg) txSt20pInit inputs).framebuffs idx).Reliable cfg) ∧
    (forall input, St20pTxDisciplined (run (txSt20pStep cfg) txSt20pInit inputs) input ->
      St20pTxInOrder cfg (run (txSt20pStep cfg) txSt20pInit inputs) input ->
      AlongCycle (run (txSt20pStep cfg) txSt20pInit inputs)
        (txSt20pStep cfg (run (txSt20pStep cfg) txSt20pInit inputs) input) ∧
      ComesBack cfg (run (txSt20pStep cfg) txSt20pInit inputs)
        (txSt20pStep cfg (run (txSt20pStep cfg) txSt20pInit inputs) input)) := by
  have sound : (run (txSt20pStep cfg) txSt20pInit inputs).Sound cfg :=
    run_invariant _ _ (St20pTxCtx.Sound cfg)
      (fun _ _ sound guards => (txSt20pStep_keeps sound guards.1 guards.2).sound)
      (txSt20pInit_sound cfg) admitted
  refine ⟨fun idx => (sound.frames idx).reliable, fun input disciplined order => ?_⟩
  have kept := txSt20pStep_keeps sound disciplined order
  exact ⟨kept.cycle, kept.comes⟩

/-- Two external frames that the application releases, of a session that drops late ones. -/
def releasingSession : St20pTxConfig where
  framebuffCnt := 2
  derive := true
  internalConverter := false
  extFrame := true
  manualRelease := true
  dropWhenLate := true
  userPacing := true
  notifyFrameDone := true
  framePeriodNs := 100
  converts := by decide

def sentAndReleased : List St20pTxInput :=
  [.getFrame, .putExtFrame 0 .tai 1000 false, .nextFrame 1050, .frameDone 0 .tai 1000,
    .notifyDone 0 (.frameDone, 1), .notifyExtFrameFree 0 1, .getFrame]

theorem sent_and_released_lifecycle :
    (forall idx, ((run (txSt20pStep releasingSession) txSt20pInit sentAndReleased).framebuffs
        idx).Reliable releasingSession) ∧
      ((run (txSt20pStep releasingSession) txSt20pInit sentAndReleased).framebuffs 0).dones = [1] :=
  ⟨(st20p_tx_frame_lifecycle releasingSession sentAndReleased (by decide +kernel)).1, by decide +kernel⟩

def droppedAndReleased : List St20pTxInput :=
  [.getFrame, .putExtFrame 0 .tai 1000 false, .nextFrame 2000, .nextResume 2000,
    .notifyExtFrameFree 0 1, .nextResume 2000]

def convertingSession : St20pTxConfig where
  framebuffCnt := 1
  derive := false
  internalConverter := false
  extFrame := false
  manualRelease := false
  dropWhenLate := false
  userPacing := false
  notifyFrameDone := true
  framePeriodNs := 100
  converts := by decide

/-- A conversion fails, and the application gets the frame again before it is told; then it is put,
converted and sent. -/
def gotBeforeTold : List St20pTxInput :=
  [.getFrame, .putFrame 0 .tai 0 false, .convertGet, .convertPut 0 true, .getFrame,
    .notifyDone 0 (.convertPut, 1), .putFrame 0 .tai 0 false, .convertGet, .convertPut 0 false,
    .notifyDone 0 (.convertPut, 2), .nextFrame 0, .frameDone 0 .tai 0, .notifyDone 0 (.frameDone, 2)]

/-- The released frame waits for its release, and the application is never told of the second use. -/
theorem dropped_frame_stuck_and_use_untold :
    ¬ (forall (cfg : St20pTxConfig) (inputs : List St20pTxInput),
      Admitted (txSt20pStep cfg) St20pTxDisciplined txSt20pInit inputs -> forall idx,
      ((run (txSt20pStep cfg) txSt20pInit inputs).framebuffs idx).Reliable cfg) ∧
    ((run (txSt20pStep releasingSession) txSt20pInit droppedAndReleased).framebuffs 0).stat = .inUser ∧
    Admitted (txSt20pStep convertingSession) St20pTxDisciplined txSt20pInit gotBeforeTold ∧
    ¬ ((run (txSt20pStep convertingSession) txSt20pInit gotBeforeTold).framebuffs 0).Reliable
      convertingSession := by
  refine ⟨fun all => ?_, by decide +kernel, by decide +kernel, fun reliable => ?_⟩
  · have reliable := all releasingSession droppedAndReleased (by decide +kernel) 0
    have stuck : ((run (txSt20pStep releasingSession) txSt20pInit droppedAndReleased).framebuffs 0).stat =
        .inUser := by decide +kernel
    rcases reliable.back rfl (by decide +kernel) with free | ⟨-, travels, -⟩
    · rw [stuck] at free
      cases free
    · rw [stuck] at travels
      rcases travels with absurd | absurd | absurd <;> cases absurd
  · rcases reliable.told rfl 2 (by decide +kernel) with told | ⟨-, travels | ⟨call, owes⟩⟩
    · exact absurd told (by decide +kernel)
    · exact absurd travels (by decide +kernel)
    · have settled : ((run (txSt20pStep convertingSession) txSt20pInit gotBeforeTold).framebuffs
          0).toNotify = [] := by decide +kernel
      rw [settled] at owes
      cases owes

end MediaTransport.Pipeline
