import MediaTransport.Audio.Receiver

namespace MediaTransport.Audio

open Library

/-!
# Positional assembly

An abstract machine with at most one open frame.  It is opened on a grid of
timestamps, a packet goes into the slot of its timestamp unless the slot is
filled, and the frame is closed with silence in the empty slots.  The machine
keeps a log, and its invariant relates every closed frame to the log before it.
-/

variable {base idx slot : Nat} {frame : ClosedFrame} {pkt : AudioPkt}

/-! ## Timestamps and slots -/

/-- The sizes of a frame level session. -/
structure AudioLayout where
  pktLen : Nat
  totalPkts : Nat
  samplesPerPkt : Nat
  receiveIncomplete : Bool
  pktLenPos : 0 < pktLen
  totalPktsPos : 0 < totalPkts
  samplesPos : 0 < samplesPerPkt
  ticksWord : totalPkts * samplesPerPkt < 4294967296

namespace AudioLayout

variable (layout : AudioLayout)

def ticks (layout : AudioLayout) : Nat := layout.totalPkts * layout.samplesPerPkt

def frameSize (layout : AudioLayout) : Nat := layout.totalPkts * layout.pktLen

theorem ticks_pos : 0 < layout.ticks :=
  Nat.mul_pos layout.totalPktsPos layout.samplesPos

/-- The timestamp lies in the window of a slot, counted from the base on the circle of 32 bits. -/
def InSlot (layout : AudioLayout) (base slot tmstamp : Nat) : Prop :=
  slot * layout.samplesPerPkt ≤ u32 ((tmstamp : Int) - base) ∧
    u32 ((tmstamp : Int) - base) < (slot + 1) * layout.samplesPerPkt

instance (layout : AudioLayout) (base slot tmstamp : Nat) :
    Decidable (layout.InSlot base slot tmstamp) :=
  inferInstanceAs (Decidable (_ ∧ _))

theorem inSlot_iff (base slot tmstamp : Nat) :
    layout.InSlot base slot tmstamp <->
      u32 ((tmstamp : Int) - base) / layout.samplesPerPkt = slot := by
  rw [Nat.div_eq_iff layout.samplesPos]
  have positive := layout.samplesPos
  have next : (slot + 1) * layout.samplesPerPkt = slot * layout.samplesPerPkt + layout.samplesPerPkt :=
    Nat.succ_mul slot _
  unfold InSlot
  rw [next]
  omega

def firstInSlot (layout : AudioLayout) (base : Nat) (pkts : List AudioPkt) (slot : Nat) :
    Option AudioPkt :=
  pkts.find? (fun pkt => decide (layout.InSlot base slot pkt.tmstamp))

theorem firstInSlot_append_other (pkts : List AudioPkt) (other : ¬ layout.InSlot base slot pkt.tmstamp)
    :
    layout.firstInSlot base (pkts ++ [pkt]) slot = layout.firstInSlot base pkts slot := by
  simp [firstInSlot, List.find?_append, other]

theorem firstInSlot_append_filled {pkts : List AudioPkt} (pkt : AudioPkt)
    (filled : (layout.firstInSlot base pkts slot).isSome = true) :
    layout.firstInSlot base (pkts ++ [pkt]) slot = layout.firstInSlot base pkts slot := by
  rcases Option.isSome_iff_exists.mp filled with ⟨first, found⟩
  unfold firstInSlot at found ⊢
  rw [List.find?_append, found]
  rfl

theorem firstInSlot_append_empty {pkts : List AudioPkt} (inside : layout.InSlot base slot pkt.tmstamp)
    (empty : (layout.firstInSlot base pkts slot).isSome = false) :
    layout.firstInSlot base (pkts ++ [pkt]) slot = some pkt := by
  have absent : layout.firstInSlot base pkts slot = none := by simpa using empty
  unfold firstInSlot at absent ⊢
  rw [List.find?_append, absent]
  simp [inside]

theorem firstInSlot_isSome (base : Nat) (pkts : List AudioPkt) (slot : Nat) :
    (layout.firstInSlot base pkts slot).isSome = true <->
      Exists fun pkt => pkt ∈ pkts ∧ layout.InSlot base slot pkt.tmstamp := by
  simp [firstInSlot, List.find?_isSome]

/-- The second base is a signed multiple of the ticks of a frame after the first; the multiple
stays within half a circle of the frame that follows the first. -/
def OnGrid (layout : AudioLayout) (first second : Nat) : Prop :=
  Exists fun frames : Int =>
    second = u32 ((first : Int) + frames * layout.ticks) ∧
      -2147483648 - (layout.ticks : Int) < (frames - 1) * layout.ticks ∧
      (frames - 1) * layout.ticks < 2147483648

end AudioLayout

/-! ## Reading the log -/

/-- The packets accepted since the open frame was opened, oldest first. -/
def openPkts : List AudioEvent -> List AudioPkt
  | [] => []
  | .opened _ :: _ => []
  | .accepted pkt :: earlier => openPkts earlier ++ [pkt]
  | .closed _ :: _ => []

def openBase : List AudioEvent -> Option Nat
  | [] => none
  | .opened base :: _ => some base
  | .accepted _ :: earlier => openBase earlier
  | .closed _ :: _ => none

def lastClosed : List AudioEvent -> Option ClosedFrame
  | [] => none
  | .opened _ :: earlier => lastClosed earlier
  | .accepted _ :: earlier => lastClosed earlier
  | .closed frame :: _ => some frame

/-- A closed frame is what the log before it says. -/
structure AudioLayout.FrameRight (layout : AudioLayout) (frame : ClosedFrame)
    (earlier : List AudioEvent) : Prop where
  base : openBase earlier = some frame.info.rtpTimestamp
  inside : ∀ pkt ∈ openPkts earlier, Exists fun slot => slot < layout.totalPkts ∧
    layout.InSlot frame.info.rtpTimestamp slot pkt.tmstamp
  content : ∀ slot < layout.totalPkts, ∀ byte < layout.pktLen,
    frame.addr (slot * layout.pktLen + byte) =
      ((layout.firstInSlot frame.info.rtpTimestamp (openPkts earlier) slot).map
        (fun pkt => pkt.payload byte)).getD 0
  status : frame.info.status = .complete <-> ∀ slot < layout.totalPkts,
    Exists fun pkt => pkt ∈ openPkts earlier ∧
      layout.InSlot frame.info.rtpTimestamp slot pkt.tmstamp
  delivered : frame.delivered = true <->
    frame.info.status = .complete ∨ layout.receiveIncomplete = true
  onGrid : forall previous, lastClosed earlier = some previous ->
    layout.OnGrid previous.info.rtpTimestamp frame.info.rtpTimestamp

/-! ## The machine -/

/-- The part of a session that assembly uses. -/
structure AudioAssembly where
  addr : Nat -> Nat -> Byte
  curFrame : Option Nat
  filled : Nat -> Bool
  recvSize : Nat
  base : Nat
  tmstamp : Int
  events : List AudioEvent

/-- The bytes in the slots are those of the slot's place in the buffer. -/
def slotBytes (len : Nat) (addr : Nat -> Byte) (slot byte : Nat) : Byte := addr (slot * len + byte)

inductive AssemblyMove (layout : AudioLayout) : AudioAssembly -> AudioAssembly -> Prop
  /-- The first timestamp places the grid. -/
  | seed {a : AudioAssembly} (tmstamp : Nat) (unset : a.tmstamp = -1) :
      AssemblyMove layout a { a with tmstamp := tmstamp }
  /-- A frame is opened on the grid. -/
  | opening {a : AudioAssembly} (idx base : Nat) (frames : Int) (closed : a.curFrame = none)
      (onGrid : base = u32 (a.tmstamp + 1 + frames * layout.ticks))
      (lower : -2147483648 - (layout.ticks : Int) < frames * layout.ticks)
      (upper : frames * layout.ticks < 2147483648) :
      AssemblyMove layout a
        { a with
          curFrame := some idx
          filled := fun _ => false
          recvSize := 0
          base := base
          tmstamp := u32 ((base : Int) - 1)
          events := .opened base :: a.events }
  /-- The slot of the packet is filled already. -/
  | repeated {a : AudioAssembly} (idx slot : Nat) (pkt : AudioPkt) (opened : a.curFrame = some idx)
      (bound : slot < layout.totalPkts) (inside : layout.InSlot a.base slot pkt.tmstamp)
      (full : a.filled slot = true) :
      AssemblyMove layout a { a with events := .accepted pkt :: a.events }
  /-- The packet fills its slot. -/
  | fill {a : AudioAssembly} (idx slot : Nat) (pkt : AudioPkt) (addr : Nat -> Byte)
      (filled : Nat -> Bool) (opened : a.curFrame = some idx)
      (bound : slot < layout.totalPkts) (inside : layout.InSlot a.base slot pkt.tmstamp)
      (empty : a.filled slot = false)
      (bits : forall other, filled other = (decide (other = slot) || a.filled other))
      (bytes : forall other, ∀ byte < layout.pktLen,
        slotBytes layout.pktLen addr other byte =
          if other = slot then pkt.payload byte
          else slotBytes layout.pktLen (a.addr idx) other byte) :
      AssemblyMove layout a
        { a with
          addr := Function.update a.addr idx addr
          filled := filled
          recvSize := a.recvSize + layout.pktLen
          events := .accepted pkt :: a.events }
  /-- The open frame is closed. -/
  | close {a : AudioAssembly} (idx : Nat) (frame : ClosedFrame) (opened : a.curFrame = some idx)
      (base : frame.info.rtpTimestamp = a.base)
      (status : frame.info.status = .complete <-> layout.frameSize ≤ a.recvSize)
      (delivered : frame.delivered = true <->
        frame.info.status = .complete ∨ layout.receiveIncomplete = true)
      (bytes : ∀ slot < layout.totalPkts, ∀ byte < layout.pktLen,
        slotBytes layout.pktLen frame.addr slot byte =
          if a.filled slot = true then slotBytes layout.pktLen (a.addr idx) slot byte else 0) :
      AssemblyMove layout a
        { a with
          addr := Function.update a.addr idx frame.addr
          curFrame := none
          tmstamp := u32 ((a.base : Int) + layout.ticks - 1)
          events := .closed frame :: a.events }

/-! ## The invariant -/

/-- The open frame is what the log says. -/
structure AudioAssembly.OpenRight (a : AudioAssembly) (layout : AudioLayout) (idx : Nat) : Prop where
  base : openBase a.events = some a.base
  tmstamp : a.tmstamp = u32 ((a.base : Int) - 1)
  inside : ∀ pkt ∈ openPkts a.events, Exists fun slot => slot < layout.totalPkts ∧
    layout.InSlot a.base slot pkt.tmstamp
  filled : ∀ slot < layout.totalPkts,
    a.filled slot = (layout.firstInSlot a.base (openPkts a.events) slot).isSome
  bytes : ∀ slot < layout.totalPkts, forall pkt,
    layout.firstInSlot a.base (openPkts a.events) slot = some pkt ->
      ∀ byte < layout.pktLen,
        slotBytes layout.pktLen (a.addr idx) slot byte = pkt.payload byte
  size : a.recvSize = layout.pktLen * (List.range layout.totalPkts).countP a.filled
  onGrid : forall previous, lastClosed a.events = some previous ->
    layout.OnGrid previous.info.rtpTimestamp a.base

structure AudioAssembly.Right (a : AudioAssembly) (layout : AudioLayout) : Prop where
  closed : forall later frame earlier, a.events = later ++ .closed frame :: earlier ->
    layout.FrameRight frame earlier
  idle : a.curFrame = none -> forall previous, lastClosed a.events = some previous ->
    a.tmstamp ≠ -1 ∧
      u32 (a.tmstamp + 1) = u32 ((previous.info.rtpTimestamp : Int) + layout.ticks)
  opened : forall idx, a.curFrame = some idx -> a.OpenRight layout idx

theorem countP_fill (filled : Nat -> Bool) (empty : filled slot = false) (count : Nat) :
    (List.range count).countP (fun other => decide (other = slot) || filled other) =
      (List.range count).countP filled + (if slot < count then 1 else 0) := by
  induction count with
  | zero => rfl
  | succ count ih =>
    rw [List.range_succ, List.countP_append, List.countP_append, ih]
    rcases Nat.lt_trichotomy slot count with below | same | above
    · have other : count ≠ slot := by omega
      simp [other, below, Nat.lt_succ_of_lt below]
      omega
    · subst same
      simp [empty]
    · have other : count ≠ slot := by omega
      have outside : ¬ slot < count := by omega
      have still : ¬ slot < count + 1 := by omega
      simp [other, outside, still]

theorem closed_cons {event : AudioEvent} {events later earlier : List AudioEvent}
    (split : event :: events = later ++ .closed frame :: earlier) :
    (event = .closed frame ∧ events = earlier) ∨
      Exists fun rest => events = rest ++ .closed frame :: earlier := by
  cases later with
  | nil =>
    injection split with head tail
    exact Or.inl ⟨head, tail⟩
  | cons first rest =>
    injection split with head tail
    exact Or.inr ⟨rest, tail⟩

namespace AudioAssembly

variable {layout : AudioLayout} {a : AudioAssembly}

theorem OpenRight.tmstamp_set (right : a.OpenRight layout idx) : a.tmstamp ≠ -1 := by
  rw [right.tmstamp]
  omega

theorem OpenRight.full_iff (right : a.OpenRight layout idx) :
    layout.frameSize ≤ a.recvSize <->
      ∀ slot < layout.totalPkts, a.filled slot = true := by
  have bound := List.countP_le_length (p := a.filled) (l := List.range layout.totalPkts)
  rw [List.length_range] at bound
  have all : (List.range layout.totalPkts).countP a.filled = layout.totalPkts <->
      ∀ slot < layout.totalPkts, a.filled slot = true := by
    have counted := List.countP_eq_length (p := a.filled) (l := List.range layout.totalPkts)
    simpa using counted
  rw [← all, right.size, AudioLayout.frameSize, Nat.mul_comm layout.totalPkts,
    Nat.mul_le_mul_left_iff layout.pktLenPos]
  exact ⟨fun reached => Nat.le_antisymm bound reached, fun same => Nat.le_of_eq same.symm⟩

theorem Right.seed (right : a.Right layout) (tmstamp : Nat) (unset : a.tmstamp = -1) :
    Right { a with tmstamp := tmstamp } layout where
  closed := right.closed
  idle isIdle previous last := absurd unset (right.idle isIdle previous last).1
  opened idx isOpen := absurd unset (right.opened idx isOpen).tmstamp_set

theorem Right.closed_cons_of (right : a.Right layout) {event : AudioEvent}
    (other : forall frame, event ≠ .closed frame) {later earlier : List AudioEvent}
    (split : event :: a.events = later ++ .closed frame :: earlier) :
    layout.FrameRight frame earlier := by
  rcases closed_cons split with ⟨head, _⟩ | ⟨rest, before⟩
  · exact absurd head (other frame)
  · exact right.closed rest frame earlier before

theorem Right.opening (right : a.Right layout) (idx base : Nat) (frames : Int)
    (closed : a.curFrame = none) (onGrid : base = u32 (a.tmstamp + 1 + frames * layout.ticks))
    (lower : -2147483648 - (layout.ticks : Int) < frames * layout.ticks)
    (upper : frames * layout.ticks < 2147483648) :
    Right
      { a with
        curFrame := some idx
        filled := fun _ => false
        recvSize := 0
        base := base
        tmstamp := u32 ((base : Int) - 1)
        events := .opened base :: a.events } layout where
  closed later frame earlier split := right.closed_cons_of (fun frame => by simp) split
  idle isIdle := by cases isIdle
  opened other _ := by
    refine ⟨rfl, rfl, fun pkt member => ?_, fun slot _ => rfl, fun slot _ pkt found => ?_, ?_,
      fun previous last => ⟨frames + 1, ?_, ?_, ?_⟩⟩
    · simp [openPkts] at member
    · simp [openPkts, AudioLayout.firstInSlot] at found
    · simp
    · have next := (right.idle closed previous last).2
      rw [onGrid]
      simp only [u32_eq] at next ⊢
      have step : (frames + 1) * (layout.ticks : Int) = frames * layout.ticks + layout.ticks := by
        ring
      rw [step]
      omega
    · simpa using lower
    · simpa using upper

theorem OpenRight.repeated (right : a.OpenRight layout idx)
    (bound : slot < layout.totalPkts) (inside : layout.InSlot a.base slot pkt.tmstamp)
    (full : a.filled slot = true) :
    OpenRight { a with events := .accepted pkt :: a.events } layout idx := by
  have kept : ∀ other < layout.totalPkts,
      layout.firstInSlot a.base (openPkts a.events ++ [pkt]) other =
        layout.firstInSlot a.base (openPkts a.events) other := by
    intro other inRange
    by_cases same : layout.InSlot a.base other pkt.tmstamp
    · have equal : other = slot := by
        rw [← (layout.inSlot_iff _ _ _).mp same, ← (layout.inSlot_iff _ _ _).mp inside]
      apply layout.firstInSlot_append_filled
      rw [← right.filled other inRange, equal, full]
    · exact layout.firstInSlot_append_other _ same
  refine ⟨right.base, right.tmstamp, fun other member => ?_, fun other inRange => ?_,
    fun other inRange first found => ?_, right.size, right.onGrid⟩
  · rcases List.mem_append.mp member with old | new
    · exact right.inside other old
    · rw [List.mem_singleton.mp new]
      exact ⟨slot, bound, inside⟩
  · exact (right.filled other inRange).trans (congrArg Option.isSome (kept other inRange).symm)
  · exact right.bytes other inRange first ((kept other inRange).symm.trans found)

theorem OpenRight.fill {idx slot : Nat} {pkt : AudioPkt} {addr : Nat -> Byte}
    {filled : Nat -> Bool} (right : a.OpenRight layout idx) (bound : slot < layout.totalPkts)
    (inside : layout.InSlot a.base slot pkt.tmstamp) (empty : a.filled slot = false)
    (bits : forall other, filled other = (decide (other = slot) || a.filled other))
    (bytes : forall other, ∀ byte < layout.pktLen,
      slotBytes layout.pktLen addr other byte =
        if other = slot then pkt.payload byte
        else slotBytes layout.pktLen (a.addr idx) other byte) :
    OpenRight
      { a with
        addr := Function.update a.addr idx addr
        filled := filled
        recvSize := a.recvSize + layout.pktLen
        events := .accepted pkt :: a.events } layout idx := by
  have first : layout.firstInSlot a.base (openPkts a.events ++ [pkt]) slot = some pkt := by
    apply layout.firstInSlot_append_empty inside
    rw [← right.filled slot bound, empty]
  have kept : ∀ other ≠ slot,
      layout.firstInSlot a.base (openPkts a.events ++ [pkt]) other =
        layout.firstInSlot a.base (openPkts a.events) other := by
    intro other different
    apply layout.firstInSlot_append_other
    intro same
    exact different ((layout.inSlot_iff _ _ _).mp same ▸ (layout.inSlot_iff _ _ _).mp inside)
  refine ⟨right.base, right.tmstamp, fun other member => ?_, fun other inRange => ?_,
    fun other inRange held found byte byteBound => ?_, ?_, right.onGrid⟩
  · rcases List.mem_append.mp member with old | new
    · exact right.inside other old
    · rw [List.mem_singleton.mp new]
      exact ⟨slot, bound, inside⟩
  · show filled other = (layout.firstInSlot a.base (openPkts a.events ++ [pkt]) other).isSome
    rw [bits other]
    by_cases same : other = slot
    · rw [same, first]
      simp
    · rw [kept other same, right.filled other inRange]
      simp [same]
  · have read := bytes other byte byteBound
    change layout.firstInSlot a.base (openPkts a.events ++ [pkt]) other = some held at found
    simp only [Function.update_self]
    rw [read]
    by_cases same : other = slot
    · rw [same, first] at found
      injection found with equal
      rw [if_pos same, equal]
    · rw [if_neg same]
      rw [kept other same] at found
      exact right.bytes other inRange held found byte byteBound
  · have all : filled = fun other => decide (other = slot) || a.filled other := funext bits
    simp only
    rw [all, countP_fill a.filled empty, if_pos bound, right.size]
    ring

theorem OpenRight.frameRight (right : a.OpenRight layout idx)
    (base : frame.info.rtpTimestamp = a.base)
    (status : frame.info.status = .complete <-> layout.frameSize ≤ a.recvSize)
    (delivered : frame.delivered = true <->
      frame.info.status = .complete ∨ layout.receiveIncomplete = true)
    (bytes : ∀ slot < layout.totalPkts, ∀ byte < layout.pktLen,
      slotBytes layout.pktLen frame.addr slot byte =
        if a.filled slot = true then slotBytes layout.pktLen (a.addr idx) slot byte else 0) :
    layout.FrameRight frame a.events where
  base := by rw [right.base, base]
  inside pkt member := by
    rw [base]
    exact right.inside pkt member
  content slot inRange byte byteBound := by
    have read := bytes slot inRange byte byteBound
    rw [slotBytes] at read
    rw [read, right.filled slot inRange, base]
    cases held : layout.firstInSlot a.base (openPkts a.events) slot with
    | none => simp
    | some first =>
      simp only [Option.isSome_some, if_true, Option.map_some, Option.getD_some]
      exact right.bytes slot inRange first held byte byteBound
  status := by
    rw [status, right.full_iff, base]
    apply forall_congr'
    intro slot
    apply imp_congr_right
    intro inRange
    rw [right.filled slot inRange, layout.firstInSlot_isSome]
  delivered := delivered
  onGrid previous last := by
    rw [base]
    exact right.onGrid previous last

theorem Right.close (right : a.Right layout) {idx : Nat} {frame : ClosedFrame}
    (opened : a.curFrame = some idx) (base : frame.info.rtpTimestamp = a.base)
    (status : frame.info.status = .complete <-> layout.frameSize ≤ a.recvSize)
    (delivered : frame.delivered = true <->
      frame.info.status = .complete ∨ layout.receiveIncomplete = true)
    (bytes : ∀ slot < layout.totalPkts, ∀ byte < layout.pktLen,
      slotBytes layout.pktLen frame.addr slot byte =
        if a.filled slot = true then slotBytes layout.pktLen (a.addr idx) slot byte else 0) :
    Right
      { a with
        addr := Function.update a.addr idx frame.addr
        curFrame := none
        tmstamp := u32 ((a.base : Int) + layout.ticks - 1)
        events := .closed frame :: a.events } layout where
  closed later other earlier split := by
    rcases closed_cons split with ⟨head, tail⟩ | ⟨rest, before⟩
    · injection head with same
      rw [← same, ← tail]
      exact (right.opened idx opened).frameRight base status delivered bytes
    · exact right.closed rest other earlier before
  idle _ previous last := by
    have same : frame = previous := by simpa [lastClosed] using last
    rw [← same, base]
    constructor
    · simp only
      omega
    · simp only [u32_eq]
      omega
  opened other isOpen := by cases isOpen

theorem Right.move {next : AudioAssembly} (right : a.Right layout)
    (move : AssemblyMove layout a next) : next.Right layout := by
  cases move with
  | seed tmstamp unset => exact right.seed tmstamp unset
  | opening idx base frames closed onGrid lower upper =>
    exact right.opening idx base frames closed onGrid lower upper
  | repeated idx slot pkt opened bound inside full =>
    refine ⟨fun later frame earlier split => right.closed_cons_of (fun frame => by simp) split,
      right.idle, fun other isOpen => ?_⟩
    exact (right.opened other isOpen).repeated bound inside full
  | fill idx slot pkt addr filled opened bound inside empty bits bytes =>
    refine ⟨fun later frame earlier split => right.closed_cons_of (fun frame => by simp) split,
      right.idle, fun other isOpen => ?_⟩
    have same : idx = other := by
      rw [opened] at isOpen
      exact Option.some.inj isOpen
    subst same
    exact (right.opened idx isOpen).fill bound inside empty bits bytes
  | close idx frame opened base status delivered bytes =>
    exact right.close opened base status delivered bytes

theorem Right.moves {next : AudioAssembly} (right : a.Right layout)
    (moves : Relation.ReflTransGen (AssemblyMove layout) a next) : next.Right layout := by
  induction moves with
  | refl => exact right
  | tail _ move ih => exact ih.move move

theorem Right.start (closed : a.curFrame = none) (events : a.events = []) : a.Right layout where
  closed later frame earlier split := by simp [events] at split
  idle _ previous last := by simp [events, lastClosed] at last
  opened idx isOpen := by simp [closed] at isOpen

end AudioAssembly

end MediaTransport.Audio
