import MediaTransport.Library.Run
import MediaTransport.Video.Placement
import MediaTransport.Video.Storing

namespace MediaTransport.Video

open Library Util

/-!
# Putting a frame together again

The packets of one frame reach the receiver in any order, on either port and
any number of times.  The slot of their timestamp remembers in its bitmap
which of them it has got, so that every packet is stored once.  The frame is
announced when the sizes of the stored packets add up to the frame, which is
when all of them are there.
-/

variable {ctrlThread : Bool} {events : List RvEvent} {s : RvSession} {slot : RvSlot}

/-! ## The packets of a frame -/

/-- The packets of one frame with the places they go to. -/
structure FrameStream where
  count : Nat
  tmstamp : Nat
  /-- The sequence number of the first packet. -/
  base : Nat
  packets : Nat -> RvMbuf
  place : Nat -> RvPlacement

namespace FrameStream

variable (stream : FrameStream)

def line (index : Nat) : RvLine := rvReadLine (stream.packets index).pkt

def size (index : Nat) : Nat := (stream.place index).payloadLength

def assemble (cfg : RvConfig) (order : List Nat) (initial : Nat -> Byte) : Nat -> Byte :=
  order.foldl (fun content index => rvCopy cfg (stream.line index) (stream.place index) content)
    initial

/-- The packets tile a frame of the session: they pass its checks, carry one
timestamp and consecutive sequence numbers, fill disjoint places, and their
sizes add up to the frame. -/
structure Tiles (cfg : RvConfig) : Prop where
  few : stream.count ≤ cfg.st20FrameBitmapSize * 8
  accepted : ∀ index < stream.count,
    rvHeaderCheck cfg (stream.packets index) = none
  tmstamp_eq : ∀ index < stream.count,
    (stream.packets index).pkt.tmstamp = stream.tmstamp
  seqId : ∀ index < stream.count,
    (stream.packets index).pkt.seqId = u32 (stream.base + index)
  plain : ∀ index < stream.count, (stream.line index).userMeta = false
  placed : ∀ index < stream.count,
    rvPlace cfg (stream.line index) = .ok (stream.place index)
  disjoint : forall first second, first < stream.count -> second < stream.count ->
    first ≠ second -> List.Disjoint (rvPlaces cfg (stream.line first) (stream.place first))
      (rvPlaces cfg (stream.line second) (stream.place second))
  total : ((List.range stream.count).map stream.size).sum = cfg.st20FrameSize

end FrameStream

/-! ## Copies of different packets commute -/

theorem rvCopy_writes {cfg : RvConfig} {line : RvLine} {place : RvPlacement}
    (byCopy : cfg.ops.uframeSize = 0) (placed : rvPlace cfg line = .ok place) :
    Writes (fun position => position ∈ rvPlaces cfg line place) (rvCopy cfg line place) := by
  rcases rvPlace_ok placed with ⟨-, length, payload, -⟩
  have direct : ¬ cfg.ops.uframeSize ≠ 0 := not_not.mpr byCopy
  cases crosses : line.crosses cfg with
  | true =>
    have copied : rvCopy cfg line place = fun content =>
        store (store content place.offset (line.payload.take line.line1Length))
          ((line.line1Number + 1) * cfg.st20Linesize) (line.payload.drop line.line1Length) := by
      funext content
      rw [rvCopy, if_neg direct, crosses, if_pos rfl]
    have pieces := (store_writes place.offset (line.payload.take line.line1Length)).comp
      (store_writes ((line.line1Number + 1) * cfg.st20Linesize)
        (line.payload.drop line.line1Length))
    rw [copied]
    convert pieces using 2 with position
    rw [rvPlaces, crosses, if_pos rfl, List.mem_append, mem_copyBytes_id, mem_copyBytes_id,
      List.length_take, List.length_drop, payload, Nat.min_eq_left (by omega)]
  | false =>
    have copied : rvCopy cfg line place = fun content =>
        store content place.offset line.payload := by
      funext content
      rw [rvCopy, if_neg direct, crosses, if_neg Bool.false_ne_true]
    rw [copied]
    convert store_writes place.offset line.payload using 2 with position
    rw [rvPlaces, crosses, if_neg Bool.false_ne_true, mem_copyBytes_id, payload]

theorem FrameStream.Tiles.assemble_perm {stream : FrameStream} {cfg : RvConfig}
    (tiles : stream.Tiles cfg) {order other : List Nat} (perm : order.Perm other)
    (inside : ∀ index ∈ order, index < stream.count) (initial : Nat -> Byte) :
    stream.assemble cfg order initial = stream.assemble cfg other initial := by
  by_cases byCopy : cfg.ops.uframeSize = 0
  · refine foldl_writes_perm perm
      (fun index member => rvCopy_writes byCopy (tiles.placed index (inside index member))) ?_
      initial
    intro first firstMember second secondMember differ position
    exact fun here there => tiles.disjoint first second (inside first firstMember)
      (inside second secondMember) differ here there
  · have idle : forall (line : RvLine) (place : RvPlacement) (content : Nat -> Byte),
        rvCopy cfg line place content = content := by
      intro line place content
      rw [rvCopy, if_pos byCopy]
    apply perm.foldl_eq'
    intro first _ second _ content
    rw [idle, idle, idle, idle]

theorem FrameStream.Tiles.perm_of_total {stream : FrameStream} {cfg : RvConfig}
    (tiles : stream.Tiles cfg) {got : List Nat} (nodup : got.Nodup)
    (inside : ∀ index ∈ got, index < stream.count)
    (total : cfg.st20FrameSize ≤ (got.map stream.size).sum) :
    got.Perm (List.range stream.count) := by
  have all : ∀ index < stream.count, index ∈ got := by
    intro index bound
    by_contra absent
    have more : (index :: got).Subperm (List.range stream.count) := by
      apply List.subperm_of_subset (List.nodup_cons.mpr ⟨absent, nodup⟩)
      intro other member
      rcases List.mem_cons.mp member with rfl | member
      · exact List.mem_range.mpr bound
      · exact List.mem_range.mpr (inside other member)
    rcases more with ⟨part, perm, sublist⟩
    have sum : ((index :: got).map stream.size).sum ≤
        ((List.range stream.count).map stream.size).sum := by
      rw [← (perm.map stream.size).sum_eq]
      exact (sublist.map stream.size).sum_le_sum (fun _ _ => Nat.zero_le _)
    have positive : 0 < stream.size index := (rvPlace_ok (tiles.placed index bound)).2.2.2
    rw [List.map_cons, List.sum_cons, tiles.total] at sum
    omega
  refine (List.perm_ext_iff_of_nodup nodup List.nodup_range).mpr (fun index => ?_)
  exact ⟨fun member => List.mem_range.mpr (inside index member),
    fun member => all index (List.mem_range.mp member)⟩

/-! ## Receiving -/

/-- One packet of the frame reaching a handler. -/
structure Arrival where
  index : Nat
  port : MtlSessionPort
  ctrlThread : Bool
  env : RvEnv

/-- The session with everything it told the application. -/
structure Reception where
  session : RvSession
  events : List RvEvent

/-- `rv_handle_frame_pkt` on one arrival. -/
def FrameStream.receive (stream : FrameStream) (state : Reception) (arrival : Arrival) : Reception :=
  let result := rvHandleFramePkt arrival.env state.session (stream.packets arrival.index)
    arrival.port arrival.ctrlThread
  { session := result.session, events := state.events ++ result.events }

def deliveriesAt (tmstamp : Nat) (events : List RvEvent) : List Delivery :=
  (deliveries events).filter (fun delivery => decide (delivery.info.timestamp = tmstamp))

theorem deliveriesAt_append (tmstamp : Nat) (first second : List RvEvent) :
    deliveriesAt tmstamp (first ++ second) =
      deliveriesAt tmstamp first ++ deliveriesAt tmstamp second := by
  rw [deliveriesAt, deliveries_append, List.filter_append]
  rfl

/-- The slot has stored the packets `got`, which are not the whole frame. -/
structure Collecting (stream : FrameStream) (cfg : RvConfig) (start : RvStats)
    (slotIdx frame : Nat) (initial : Nat -> Byte) (got : List Nat) (arrived : Nat)
    (state : Reception) : Prop where
  cfg_eq : state.session.cfg = cfg
  found : rvFindSlot state.session stream.tmstamp = some slotIdx
  held : (state.session.slots slotIdx).frame = some frame
  based : (state.session.slots slotIdx).seqIdGot = !got.isEmpty ∧
    (got ≠ [] -> (state.session.slots slotIdx).seqIdBaseU32 = u32 stream.base)
  bitmapLength : (state.session.slots slotIdx).frameBitmap.length = cfg.st20FrameBitmapSize
  bits : forall index : Nat, index < stream.count ->
    mtBitmapTest (state.session.slots slotIdx).frameBitmap index = decide (index ∈ got)
  size : rvSlotGetFrameSize (state.session.slots slotIdx) = (got.map stream.size).sum
  short : (got.map stream.size).sum < cfg.st20FrameSize
  content : (state.session.frames frame).addr = stream.assemble cfg got initial
  received : state.session.stats.pktsReceived = start.pktsReceived + got.length
  redundant : state.session.stats.pktsRedundant + got.length = start.pktsRedundant + arrived
  silent : deliveriesAt stream.tmstamp state.events = []

/-- The slot has stored the whole frame and handed it over. -/
structure Finished (stream : FrameStream) (cfg : RvConfig) (start : RvStats)
    (slotIdx frame : Nat) (initial : Nat -> Byte) (arrived : Nat) (state : Reception) : Prop where
  cfg_eq : state.session.cfg = cfg
  found : rvFindSlot state.session stream.tmstamp = some slotIdx
  gone : (state.session.slots slotIdx).frame = none
  content : (state.session.frames frame).addr =
    stream.assemble cfg (List.range stream.count) initial
  received : state.session.stats.pktsReceived = start.pktsReceived + stream.count
  redundant : state.session.stats.pktsRedundant + stream.count = start.pktsRedundant + arrived
  delivered : Exists fun info => Exists fun ret =>
    deliveriesAt stream.tmstamp state.events =
      [⟨frame, info, stream.assemble cfg (List.range stream.count) initial, ret⟩] ∧
    info.frameRecvSize = cfg.st20FrameSize ∧
    (info.status = .complete ∨ info.status = .reconstructed)

section Steps

variable {stream : FrameStream} {cfg : RvConfig} {start : RvStats} {slotIdx frame : Nat}
  {initial : Nat -> Byte} {got : List Nat} {arrived : Nat} {state : Reception}

section

variable (collecting : Collecting stream cfg start slotIdx frame initial got arrived state)
    {after : RvSession}

include collecting

theorem Collecting.of_counted (counted : OnlyCounted state.session after) :
    Collecting stream cfg start slotIdx frame initial got arrived
      { session := after, events := state.events } where
  cfg_eq := counted.cfg.trans collecting.cfg_eq
  found := by
    rw [rvFindSlot_congr counted.cfg (fun idx => by rw [counted.slots])]
    exact collecting.found
  held := by rw [counted.slots]; exact collecting.held
  based := by rw [counted.slots]; exact collecting.based
  bitmapLength := by rw [counted.slots]; exact collecting.bitmapLength
  bits := by rw [counted.slots]; exact collecting.bits
  size := by rw [counted.slots]; exact collecting.size
  short := collecting.short
  content := by rw [counted.frames]; exact collecting.content
  received := counted.counts.received.trans collecting.received
  redundant := by rw [counted.counts.redundant]; exact collecting.redundant
  silent := collecting.silent

theorem Collecting.of_repeated
    (repeated : Repeated state.session after events slotIdx) :
    Collecting stream cfg start slotIdx frame initial got (arrived + 1)
      { session := after, events := state.events ++ events } := by
  rcases repeated.slots with ⟨slot, kept, slots⟩
  have slotEq : after.slots slotIdx = slot := by rw [slots, Function.update_self]
  have redundant := collecting.redundant
  refine
    { cfg_eq := repeated.cfg.trans collecting.cfg_eq
      found := (rvFindSlot_update repeated.cfg slots kept.tmstamp).trans collecting.found
      held := ?_, based := ?_, bitmapLength := ?_, bits := ?_, size := ?_
      short := collecting.short
      content := ?_
      received := repeated.received.trans collecting.received
      redundant := ?_, silent := ?_ }
  · rw [slotEq, kept.frame]
    exact collecting.held
  · rw [slotEq, kept.seqIdGot, kept.seqIdBaseU32]
    exact collecting.based
  · rw [slotEq, kept.frameBitmap]
    exact collecting.bitmapLength
  · rw [slotEq, kept.frameBitmap]
    exact collecting.bits
  · rw [slotEq, kept.frameSize]
    exact collecting.size
  · rw [repeated.frames]
    exact collecting.content
  · rw [repeated.redundant]
    omega
  · rw [repeated.quiet, List.append_nil]
    exact collecting.silent

end

theorem rvLaterPktIdx_eq {base index : Nat} (based : slot.seqIdBaseU32 = u32 base)
    (small : index < 4294967296) : rvLaterPktIdx slot (u32 (base + index)) = index := by
  rw [rvLaterPktIdx, based]
  simp only [u32_eq]
  omega

theorem Collecting.index_repeated (collecting : Collecting stream cfg start slotIdx frame initial
    got arrived state) (tiles : stream.Tiles cfg)
    (narrow : cfg.st20FrameBitmapSize * 8 ≤ 4294967296) {index : Nat} (bound : index < stream.count)
    (stored : index ∈ got) (port : MtlSessionPort) (ctrlThread : Bool) :
    rvIndex cfg (fielded state.session slotIdx (stream.packets index)) (stream.line index)
      (stream.place index) (stream.packets index).pkt.seqId port ctrlThread = .redundant := by
  have few := tiles.few
  have nonempty : got ≠ [] := List.ne_nil_of_mem stored
  have number := rvLaterPktIdx_eq (collecting.based.2 nonempty)
    (Nat.lt_of_lt_of_le bound (few.trans narrow))
  rw [← tiles.seqId index bound] at number
  have isSet : (mtBitmapTestAndSet (state.session.slots slotIdx).frameBitmap index).1 = true := by
    rw [mtBitmapTestAndSet_fst _ _ (by rw [collecting.bitmapLength]; omega),
      collecting.bits index bound]
    exact decide_eq_true stored
  have got : (fielded state.session slotIdx (stream.packets index)).seqIdGot = true := by
    refine collecting.based.1.trans ?_
    rw [List.isEmpty_eq_false_iff.mpr nonempty]
    rfl
  have same : rvLaterPktIdx (fielded state.session slotIdx (stream.packets index))
      (stream.packets index).pkt.seqId = index := number
  unfold rvIndex
  rw [if_pos got]
  simp only [same]
  rw [if_neg (by omega)]
  exact if_pos isSet

/-- What the slot is after a new packet was marked in it. -/
structure Marked (before after : RvSlot) (base index : Nat) : Prop where
  tmstamp : after.tmstamp = before.tmstamp
  frame : after.frame = before.frame
  seqIdGot : after.seqIdGot = true
  seqIdBaseU32 : after.seqIdBaseU32 = u32 base
  frameBitmap : after.frameBitmap = (mtBitmapTestAndSet before.frameBitmap index).2
  frameSize : rvSlotGetFrameSize after = rvSlotGetFrameSize before

theorem Collecting.index_fresh (collecting : Collecting stream cfg start slotIdx frame initial
    got arrived state) (tiles : stream.Tiles cfg)
    (narrow : cfg.st20FrameBitmapSize * 8 ≤ 4294967296) {index : Nat} (bound : index < stream.count)
    (missing : index ∉ got) (port : MtlSessionPort)
    (first : got = [] -> ctrlThread = true ∧
      rvFirstPktIdx cfg (stream.line index) (stream.place index) = index) :
    Exists fun slot => Exists fun reordered =>
      rvIndex cfg (fielded state.session slotIdx (stream.packets index)) (stream.line index)
        (stream.place index) (stream.packets index).pkt.seqId port ctrlThread =
          .fresh index slot reordered ∧
      Marked (state.session.slots slotIdx) slot stream.base index := by
  have few := tiles.few
  have based := collecting.based
  unfold rvIndex
  by_cases empty : got = []
  · have unknown : (fielded state.session slotIdx (stream.packets index)).seqIdGot = false := by
      refine based.1.trans ?_
      rw [empty]
      rfl
    rcases first empty with ⟨control, number⟩
    rw [if_neg (by rw [unknown]; exact Bool.false_ne_true), if_pos control]
    simp only [number]
    rw [if_neg (by omega), tiles.seqId index bound, ← Nat.cast_add, u32_base]
    exact ⟨_, _, rfl, rfl, rfl, rfl, rfl, rfl, rfl⟩
  · have known : (fielded state.session slotIdx (stream.packets index)).seqIdGot = true := by
      refine based.1.trans ?_
      rw [List.isEmpty_eq_false_iff.mpr empty]
      rfl
    have number : rvLaterPktIdx (fielded state.session slotIdx (stream.packets index))
        (stream.packets index).pkt.seqId = index := by
      rw [tiles.seqId index bound]
      exact rvLaterPktIdx_eq (based.2 empty) (Nat.lt_of_lt_of_le bound (few.trans narrow))
    have clear : ¬ (mtBitmapTestAndSet
        (fielded state.session slotIdx (stream.packets index)).frameBitmap index).1 = true := by
      show ¬ (mtBitmapTestAndSet (state.session.slots slotIdx).frameBitmap index).1 = true
      rw [mtBitmapTestAndSet_fst _ _ (by rw [collecting.bitmapLength]; omega),
        collecting.bits index bound, decide_eq_true_eq]
      exact missing
    rw [if_pos known]
    simp only [number]
    rw [if_neg (by omega), if_neg clear]
    exact ⟨_, _, rfl, rfl, rfl, known, based.2 empty, rfl, rfl⟩

theorem FrameStream.assemble_snoc (order : List Nat) (index : Nat) :
    stream.assemble cfg (order ++ [index]) initial =
      rvCopy cfg (stream.line index) (stream.place index) (stream.assemble cfg order initial) := by
  rw [FrameStream.assemble, List.foldl_append]
  rfl

theorem sum_size_snoc (order : List Nat) (index : Nat) :
    ((order ++ [index]).map stream.size).sum = (order.map stream.size).sum + stream.size index := by
  rw [List.map_append, List.sum_append]
  rfl

section

variable (collecting : Collecting stream cfg start slotIdx frame initial got arrived state)
    (tiles : stream.Tiles cfg) {index : Nat}

include collecting tiles

/-- A new packet that leaves the frame short is added to the stored ones. -/
theorem Collecting.of_part (bound : index < stream.count)
    (marked : Marked (state.session.slots slotIdx) slot stream.base index)
    {port : MtlSessionPort} {after : RvSession}
    (part : StoredPart state.session after events slotIdx frame
      (slot.received index (stream.size index) port ctrlThread)
      (rvCopy cfg (stream.line index) (stream.place index) (state.session.frames frame).addr))
    (room : (got.map stream.size).sum + stream.size index < cfg.st20FrameSize) :
    Collecting stream cfg start slotIdx frame initial (got ++ [index]) (arrived + 1)
      { session := after, events := state.events ++ events } := by
  rcases part.slots with ⟨info, slots⟩
  generalize filledEq : slot.received index (stream.size index) port ctrlThread = filled at slots
  have slotEq : after.slots slotIdx = { filled with sliceInfo := info } := by
    rw [slots, Function.update_self]
  have few := tiles.few
  have redundant := collecting.redundant
  have received := collecting.received
  refine
    { cfg_eq := part.cfg.trans collecting.cfg_eq
      found := (rvFindSlot_update part.cfg slots ?_).trans collecting.found
      held := ?_, based := ?_, bitmapLength := ?_, bits := ?_, size := ?_
      short := ?_, content := ?_, received := ?_, redundant := ?_, silent := ?_ }
  · rw [← filledEq]
    exact marked.tmstamp
  · rw [slotEq, ← filledEq]
    exact marked.frame.trans collecting.held
  · rw [slotEq, ← filledEq]
    refine ⟨marked.seqIdGot.trans ?_, fun _ => marked.seqIdBaseU32⟩
    rw [List.isEmpty_eq_false_iff.mpr (List.append_ne_nil_of_right_ne_nil got (List.cons_ne_nil _ _))]
    rfl
  · rw [slotEq, ← filledEq]
    show slot.frameBitmap.length = _
    rw [marked.frameBitmap, mtBitmapTestAndSet_length]
    exact collecting.bitmapLength
  · intro other otherBound
    rw [slotEq, ← filledEq]
    show mtBitmapTest slot.frameBitmap other = _
    rw [marked.frameBitmap, mtBitmapTest_testAndSet _ _ _ (by rw [collecting.bitmapLength]; omega),
      collecting.bits other otherBound]
    simp only [List.mem_append, List.mem_singleton, Bool.decide_or, Bool.or_comm]
  · rw [slotEq]
    show rvSlotGetFrameSize filled = _
    rw [← filledEq, received_frameSize, marked.frameSize, collecting.size, sum_size_snoc]
  · rw [sum_size_snoc]
    exact room
  · rw [part.frames, RvSession.withContent, RvSession.setFrame_frames_self,
      FrameStream.assemble_snoc, collecting.content]
  · rw [part.received, List.length_append, List.length_singleton]
    omega
  · rw [part.redundant, List.length_append, List.length_singleton]
    omega
  · rw [deliveriesAt_append, collecting.silent, List.nil_append, deliveriesAt, part.quiet]
    rfl

/-- The new packet that completes the frame hands it over. -/
theorem Collecting.of_last
    (marked : Marked (state.session.slots slotIdx) slot stream.base index)
    {port : MtlSessionPort} {after : RvSession}
    {ret : Int}
    (last : StoredLast state.session after events slotIdx frame
      (slot.received index (stream.size index) port ctrlThread)
      (rvCopy cfg (stream.line index) (stream.place index) (state.session.frames frame).addr) ret)
    (perm : (got ++ [index]).Perm (List.range stream.count)) :
    Finished stream cfg start slotIdx frame initial (arrived + 1)
      { session := after, events := state.events ++ events } := by
  rcases last.slots with ⟨sliceInfo, slots⟩
  rcases last.delivered with ⟨info, delivered, timestamp, recvSize, status⟩
  generalize filledEq : slot.received index (stream.size index) port ctrlThread = filled
    at slots timestamp recvSize
  have slotEq : after.slots slotIdx = { filled.delivered with sliceInfo := sliceInfo } := by
    rw [slots, Function.update_self]
  have tmstamp : filled.tmstamp = (state.session.slots slotIdx).tmstamp := by
    rw [← filledEq]
    exact marked.tmstamp
  have content : rvCopy cfg (stream.line index) (stream.place index)
      (state.session.frames frame).addr =
        stream.assemble cfg (List.range stream.count) initial := by
    rw [collecting.content, ← FrameStream.assemble_snoc]
    exact tiles.assemble_perm perm (fun other member => List.mem_range.mp (perm.subset member))
      initial
  have length : got.length + 1 = stream.count := by
    have := perm.length_eq
    rwa [List.length_append, List.length_singleton, List.length_range] at this
  have whole : (got.map stream.size).sum + stream.size index = cfg.st20FrameSize := by
    rw [← sum_size_snoc, (perm.map stream.size).sum_eq, tiles.total]
  have redundant := collecting.redundant
  have received := collecting.received
  rw [content] at delivered
  refine
    { cfg_eq := last.cfg.trans collecting.cfg_eq
      found := (rvFindSlot_update last.cfg slots tmstamp).trans collecting.found
      gone := ?_, content := ?_, received := ?_, redundant := ?_
      delivered := ⟨info, ret, ?_, ?_, status⟩ }
  · rw [slotEq]
    rfl
  · rw [last.frames, content]
    split
    · rw [rvPutFrame, RvSession.setFrame_frames_self, RvSession.withContent,
        RvSession.setFrame_frames_self]
    · rw [RvSession.withContent, RvSession.setFrame_frames_self]
  · rw [last.received]
    omega
  · rw [last.redundant]
    omega
  · rw [deliveriesAt_append, collecting.silent, List.nil_append, deliveriesAt, delivered]
    refine List.filter_cons_of_pos (decide_eq_true ?_)
    rw [timestamp, tmstamp]
    exact (rvFindSlot_some collecting.found).2
  · rw [recvSize, ← filledEq, received_frameSize, marked.frameSize, collecting.size, whole]

end

theorem nodup_snoc {index : Nat} (nodup : got.Nodup) (missing : index ∉ got) :
    (got ++ [index]).Nodup := by
  refine List.nodup_append.mpr ⟨nodup, List.nodup_singleton _, ?_⟩
  intro one oneMember other otherMember same
  rw [same, List.mem_singleton.mp otherMember] at oneMember
  exact missing oneMember

section

variable (collecting : Collecting stream cfg start slotIdx frame initial got arrived state)
    (tiles : stream.Tiles cfg)

include collecting tiles

theorem Collecting.inSlot (narrow : cfg.st20FrameBitmapSize * 8 ≤ 4294967296) (nodup : got.Nodup)
    (inside : ∀ index ∈ got, index < stream.count) {arrival : Arrival}
    (bound : arrival.index < stream.count) (missing : arrival.index ∉ got)
    (first : got = [] -> arrival.ctrlThread = true ∧
      rvFirstPktIdx cfg (stream.line arrival.index) (stream.place arrival.index) = arrival.index) :
    let result := rvHandleInSlot arrival.env state.session slotIdx frame
      (stream.packets arrival.index) arrival.port arrival.ctrlThread
    let after : Reception := ⟨result.session, state.events ++ result.events⟩
    Collecting stream cfg start slotIdx frame initial (got ++ [arrival.index]) (arrived + 1) after ∨
      (Finished stream cfg start slotIdx frame initial (arrived + 1) after ∧
        (got ++ [arrival.index]).Perm (List.range stream.count)) := by
  have plain := tiles.plain arrival.index bound
  have placed := tiles.placed arrival.index bound
  rcases collecting.index_fresh tiles narrow bound missing arrival.port first with
    ⟨slot, reordered, index, marked⟩
  have size : rvSlotGetFrameSize slot = (got.map stream.size).sum :=
    marked.frameSize.trans collecting.size
  rw [← collecting.cfg_eq] at placed index
  by_cases room : (got.map stream.size).sum + stream.size arrival.index < cfg.st20FrameSize
  · have part := @rvHandleInSlot_part arrival.env _ _ frame _ _ _ _ _ _ _ plain placed index
      (by rw [size, collecting.cfg_eq]; exact room)
    rw [collecting.cfg_eq] at part
    exact Or.inl (collecting.of_part tiles bound marked part room)
  · have last := @rvHandleInSlot_last arrival.env _ _ frame _ _ _ _ _ _ _ plain placed index
      (by rw [size, collecting.cfg_eq]; exact Nat.le_of_not_lt room)
    rw [collecting.cfg_eq] at last
    have perm : (got ++ [arrival.index]).Perm (List.range stream.count) := by
      refine tiles.perm_of_total (nodup_snoc nodup missing) ?_ ?_
      · intro other member
        rcases List.mem_append.mp member with old | new
        · exact inside other old
        · rw [List.mem_singleton.mp new]
          exact bound
      · rw [sum_size_snoc]
        exact Nat.le_of_not_lt room
    exact Or.inr ⟨collecting.of_last tiles marked last perm, perm⟩

theorem Collecting.receive_eq {arrival : Arrival}
    (bound : arrival.index < stream.count) :
    let counted := (rvCountRetransmit state.session (stream.line arrival.index)).setRedundant
      arrival.port 0
    let result := rvHandleInSlot arrival.env counted slotIdx frame (stream.packets arrival.index)
      arrival.port arrival.ctrlThread
    Collecting stream cfg start slotIdx frame initial got arrived ⟨counted, state.events⟩ ∧
      stream.receive state arrival = ⟨result.session, state.events ++ result.events⟩ := by
  have once := onlyCounted_countRetransmit state.session (stream.line arrival.index)
  have counted := collecting.of_counted once
  have accepted := tiles.accepted arrival.index bound
  rw [← collecting.cfg_eq] at accepted
  have lookup := @rvSlotByTmstamp_found arrival.env _ _ slotIdx counted.found
  rw [← tiles.tmstamp_eq arrival.index bound] at lookup
  rcases @rvHandleFramePkt_inSlot arrival.env state.session slotIdx frame
    (stream.packets arrival.index) arrival.port arrival.ctrlThread accepted _ lookup rfl counted.held
    with ⟨session, events⟩
  refine ⟨counted.of_counted (onlyCounted_setRedundant _ _ _), ?_⟩
  rw [FrameStream.receive, session, events]
  rfl

theorem Collecting.receive_repeated
    (narrow : cfg.st20FrameBitmapSize * 8 ≤ 4294967296) {arrival : Arrival}
    (bound : arrival.index < stream.count) (stored : arrival.index ∈ got) :
    Collecting stream cfg start slotIdx frame initial got (arrived + 1)
        (stream.receive state arrival) ∧
      (stream.receive state arrival).session.frames = state.session.frames ∧
      (stream.receive state arrival).events = state.events := by
  rcases collecting.receive_eq tiles bound with ⟨counted, receive⟩
  have placed := tiles.placed arrival.index bound
  have index := counted.index_repeated tiles narrow bound stored arrival.port arrival.ctrlThread
  rw [← counted.cfg_eq] at placed index
  have repeated := @rvHandleInSlot_repeated arrival.env _ slotIdx frame
    (stream.packets arrival.index) arrival.port arrival.ctrlThread _
    (tiles.plain arrival.index bound) placed index
  rw [receive]
  refine ⟨counted.of_repeated repeated, ?_, ?_⟩
  · exact repeated.frames.trans
      (onlyCounted_countRetransmit state.session (stream.line arrival.index)).frames
  · rw [repeated.quiet, List.append_nil]

end

variable {env : RvEnv}

theorem Finished.receive_repeated (finished : Finished stream cfg start slotIdx frame initial
    arrived state) (tiles : stream.Tiles cfg) {arrival : Arrival}
    (bound : arrival.index < stream.count) :
    Finished stream cfg start slotIdx frame initial (arrived + 1) (stream.receive state arrival) ∧
      (stream.receive state arrival).session.frames = state.session.frames ∧
      (stream.receive state arrival).events = state.events := by
  have accepted := tiles.accepted arrival.index bound
  rw [← finished.cfg_eq] at accepted
  have found := finished.found
  rw [← tiles.tmstamp_eq arrival.index bound] at found
  have repeated := @rvHandleFramePkt_gone arrival.env state.session slotIdx
    (stream.packets arrival.index) arrival.port arrival.ctrlThread accepted found finished.gone
  have redundant := finished.redundant
  rw [FrameStream.receive]
  generalize rvHandleFramePkt arrival.env state.session (stream.packets arrival.index) arrival.port
    arrival.ctrlThread = result at repeated ⊢
  rcases repeated.slots with ⟨slot, kept, slots⟩
  refine ⟨?_, repeated.frames, by rw [repeated.quiet, List.append_nil]⟩
  refine
    { cfg_eq := repeated.cfg.trans finished.cfg_eq
      found := (rvFindSlot_update repeated.cfg slots kept.tmstamp).trans finished.found
      gone := ?_, content := ?_
      received := repeated.received.trans finished.received
      redundant := ?_, delivered := ?_ }
  · rw [slots, Function.update_self, kept.frame]
    exact finished.gone
  · rw [repeated.frames]
    exact finished.content
  · rw [repeated.redundant]
    omega
  · rw [repeated.quiet, List.append_nil]
    exact finished.delivered

/-! ## The first packet opens the slot -/

/-- The session can take a new timestamp: no slot has it, the guard against
old timestamps lets it pass, and there are a frame and a buffer for it. -/
structure Ready (env : RvEnv) (s : RvSession) (tmstamp : Nat) : Prop where
  unknown : rvFindSlot s tmstamp = none
  current : rvInThePast s tmstamp = false ∨ rvGuardGivesWay s = true
  free : Exists fun frame => frame < s.cfg.ops.framebuffCnt ∧
    (retiredFrames env s (rvNextSlot s) frame).refcnt = 0
  buffer : forall frame, (rvFrameBuffer env s frame).isSome

theorem Ready.countRetransmit {tmstamp : Nat} (ready : Ready env s tmstamp) (line : RvLine) :
    Ready env (rvCountRetransmit s line) tmstamp := by
  unfold rvCountRetransmit
  split
  · exact ⟨ready.unknown, ready.current, ready.free, ready.buffer⟩
  · exact ready

theorem Ready.lookup {s : RvSession} {tmstamp : Nat} (ready : Ready env s tmstamp) :
    rvSlotByTmstamp env s tmstamp =
      let reused := rvReuseSlot env s (rvNextSlot s) tmstamp
      let answer := rvAssignFrame env reused.1 (rvNextSlot s)
      ⟨answer.1, if answer.2 then some (rvNextSlot s) else none, false, reused.2⟩ := by
  have passes : ¬ (rvInThePast s tmstamp && !rvGuardGivesWay s) = true := by
    rcases ready.current with recent | gives
    · rw [recent]
      exact Bool.false_ne_true
    · rw [gives, Bool.not_true, Bool.and_false]
      exact Bool.false_ne_true
  rw [rvSlotByTmstamp, ready.unknown]
  dsimp only
  rw [if_neg passes]

theorem retiredFrames_addr (env : RvEnv) (s : RvSession) (slotIdx frame : Nat) :
    (retiredFrames env s slotIdx frame).addr = (s.frames frame).addr := by
  unfold retiredFrames
  cases (s.slots slotIdx).frame with
  | none => rfl
  | some held =>
    dsimp only
    split
    · by_cases same : frame = held
      · rw [same, rvPutFrame, RvSession.setFrame_frames_self]
      · rw [rvPutFrame, RvSession.setFrame_frames_of_ne _ _ same]
    · rfl

theorem retiredEvents_other (env : RvEnv) (s : RvSession) (slotIdx : Nat) {tmstamp : Nat}
    (other : (s.slots slotIdx).tmstamp ≠ tmstamp) :
    deliveriesAt tmstamp (retiredEvents env s slotIdx) = [] := by
  have skipped : ¬ decide ((s.slots slotIdx).tmstamp = tmstamp) = true :=
    fun same => other (of_decide_eq_true same)
  unfold retiredEvents
  cases (s.slots slotIdx).frame with
  | none => rfl
  | some held =>
    dsimp only
    split
    · unfold recycledReady
      cases s.cfg.st22 with
      | some ops => exact List.filter_cons_of_neg skipped
      | none => exact List.filter_cons_of_neg skipped
    · rfl

theorem mtBitmapTest_empty (size index : Nat) :
    mtBitmapTest (List.replicate size 0) index = false := by
  rw [mtBitmapTest_eq_getLsbD, List.getD_eq_getElem?_getD, List.getElem?_replicate]
  split <;> exact BitVec.getLsbD_zero

/-- The first packet finds or makes an empty slot for its timestamp. -/
theorem Ready.opens (ready : Ready env s stream.tmstamp) (counts : SameCounts start s.stats)
    (some_slots : 0 < s.cfg.slotMax) (nonempty : 0 < s.cfg.st20FrameSize) :
    Exists fun frame => Exists fun initial =>
      rvFrameBuffer env s frame = some initial ∧
      (rvSlotByTmstamp env s stream.tmstamp).slot = some (rvNextSlot s) ∧
      Collecting stream s.cfg start (rvNextSlot s) frame initial [] 0
        ⟨(rvSlotByTmstamp env s stream.tmstamp).session,
          (rvSlotByTmstamp env s stream.tmstamp).events⟩ := by
  have reused := rvReuseSlot_reused env s (rvNextSlot s) stream.tmstamp
  have inside := rvNextSlot_lt some_slots
  rw [ready.lookup]
  generalize rvReuseSlot env s (rvNextSlot s) stream.tmstamp = middle at reused ⊢
  have free : (rvGetFrame middle.1).isSome := by
    rcases ready.free with ⟨frame, bound, unused⟩
    apply @rvGetFrame_isSome _ frame
    · rw [reused.cfg]
      exact bound
    · rw [reused.frames]
      exact unused
  rcases Option.isSome_iff_exists.mp free with ⟨frame, free⟩
  rcases Option.isSome_iff_exists.mp (ready.buffer frame) with ⟨initial, buffer⟩
  have sameBuffer : rvFrameBuffer env middle.1 frame = some initial := by
    rw [rvFrameBuffer, reused.cfg, reused.frames, retiredFrames_addr]
    exact buffer
  refine ⟨frame, initial, buffer, ?_⟩
  dsimp only
  rw [rvAssignFrame_some free sameBuffer]
  refine ⟨rfl, ?_⟩
  have slotEq : middle.1.slots (rvNextSlot s) =
      { s.slots (rvNextSlot s) with frame := none, lossPending := false }.restart
        stream.tmstamp := by
    rw [reused.slots, Function.update_self]
  refine
    { cfg_eq := reused.cfg
      found := ?_, held := ?_, based := ?_, bitmapLength := ?_, bits := ?_, size := ?_
      short := nonempty
      content := ?_
      received := reused.counts.received.trans counts.received
      redundant := reused.counts.redundant.trans counts.redundant
      silent := ?_ }
  · apply rvFindSlot_of_unique
    · rw [RvSession.setSlot_cfg, RvSession.setFrame_cfg, reused.cfg]
      exact inside
    · rw [RvSession.setSlot_slots_self, slotEq]
      rfl
    · intro other bound differ
      rw [RvSession.setSlot_cfg, RvSession.setFrame_cfg, reused.cfg] at bound
      rw [RvSession.setSlot_slots_of_ne _ _ differ, RvSession.setFrame_slots, reused.slots,
        Function.update_of_ne differ]
      exact rvFindSlot_none ready.unknown bound
  · rw [RvSession.setSlot_slots_self]
    rfl
  · rw [RvSession.setSlot_slots_self, slotEq]
    exact ⟨rfl, fun absurd => False.elim (absurd rfl)⟩
  · rw [RvSession.setSlot_slots_self, reused.cfg]
    exact List.length_replicate
  · intro index _
    rw [RvSession.setSlot_slots_self]
    exact (mtBitmapTest_empty _ _).trans (decide_eq_false List.not_mem_nil).symm
  · rw [RvSession.setSlot_slots_self, slotEq]
    rfl
  · rw [RvSession.setSlot_frames, RvSession.setFrame_frames_self]
    rfl
  · rw [reused.events_eq]
    exact retiredEvents_other env s _ (rvFindSlot_none ready.unknown inside)

/-! ## Whole runs -/

/-- After the arrivals `seen` the slot has got each of their packets once; the
frame is still collected, or it is complete and was handed over. -/
def Progress (stream : FrameStream) (cfg : RvConfig) (start : RvStats) (slotIdx frame : Nat)
    (initial : Nat -> Byte) (seen : List Arrival) (state : Reception) : Prop :=
  Exists fun got : List Nat => got.Nodup ∧
    (forall index, index ∈ got ↔ index ∈ seen.map Arrival.index) ∧
    (Collecting stream cfg start slotIdx frame initial got seen.length state ∨
      (Finished stream cfg start slotIdx frame initial seen.length state ∧
        got.Perm (List.range stream.count)))


section

variable {seen : List Arrival} {arrival : Arrival}
    (progress : Progress stream cfg start slotIdx frame initial seen state)
    (tiles : stream.Tiles cfg) (narrow : cfg.st20FrameBitmapSize * 8 ≤ 4294967296)

include progress tiles narrow

theorem Progress.repeated
    (bound : arrival.index < stream.count) (again : arrival.index ∈ seen.map Arrival.index) :
    (stream.receive state arrival).session.frames = state.session.frames ∧
      (stream.receive state arrival).events = state.events ∧
      (stream.receive state arrival).session.stats.pktsRedundant =
        state.session.stats.pktsRedundant + 1 ∧
      Progress stream cfg start slotIdx frame initial (seen ++ [arrival])
        (stream.receive state arrival) := by
  rcases progress with ⟨got, nodup, same, stored⟩
  have still : forall index,
      index ∈ got ↔ index ∈ (seen ++ [arrival]).map Arrival.index := by
    intro index
    rw [List.map_append, List.mem_append, same]
    refine ⟨Or.inl, fun either => either.elim id (fun last => ?_)⟩
    rw [List.mem_singleton.mp last]
    exact again
  rcases stored with collecting | ⟨finished, perm⟩
  · rcases collecting.receive_repeated tiles narrow bound ((same arrival.index).mpr again) with
      ⟨after, frames, events⟩
    have before := collecting.redundant
    have later := after.redundant
    refine ⟨frames, events, by omega, got, nodup, still, Or.inl ?_⟩
    rw [List.length_append]
    exact after
  · rcases finished.receive_repeated tiles bound with ⟨after, frames, events⟩
    have before := finished.redundant
    have later := after.redundant
    refine ⟨frames, events, by omega, got, nodup, still, Or.inr ⟨?_, perm⟩⟩
    rw [List.length_append]
    exact after

theorem Progress.step
    (begun : seen ≠ []) (bounds : ∀ other ∈ seen, other.index < stream.count)
    (bound : arrival.index < stream.count) :
    Progress stream cfg start slotIdx frame initial (seen ++ [arrival])
      (stream.receive state arrival) := by
  by_cases again : arrival.index ∈ seen.map Arrival.index
  · exact (progress.repeated tiles narrow bound again).2.2.2
  · rcases progress with ⟨got, nodup, same, stored⟩
    have missing : arrival.index ∉ got := fun member => again ((same _).mp member)
    rcases stored with collecting | ⟨_, perm⟩
    · have inside : ∀ index ∈ got, index < stream.count := by
        intro index member
        rcases List.mem_map.mp ((same index).mp member) with ⟨other, otherMember, rfl⟩
        exact bounds other otherMember
      have nonempty : got ≠ [] := by
        rcases List.exists_mem_of_ne_nil seen begun with ⟨other, member⟩
        exact List.ne_nil_of_mem ((same other.index).mpr (List.mem_map_of_mem member))
      rcases collecting.receive_eq tiles bound with ⟨counted, receive⟩
      have stored := counted.inSlot tiles narrow nodup inside bound missing
        (fun empty => False.elim (nonempty empty))
      dsimp only at stored
      rw [← receive] at stored
      refine ⟨got ++ [arrival.index], nodup_snoc nodup missing, fun index => ?_, ?_⟩
      · rw [List.map_append, List.mem_append, List.mem_append, same]
        rfl
      · rw [List.length_append]
        exact stored
    · exact False.elim (missing (perm.mem_iff.mpr (List.mem_range.mpr bound)))

end

theorem Progress.run {seen : List Arrival}
    (progress : Progress stream cfg start slotIdx frame initial seen state)
    (tiles : stream.Tiles cfg) (narrow : cfg.st20FrameBitmapSize * 8 ≤ 4294967296)
    (begun : seen ≠ []) (rest : List Arrival)
    (bounds : ∀ other ∈ seen ++ rest, other.index < stream.count) :
    Progress stream cfg start slotIdx frame initial (seen ++ rest)
      (Library.run stream.receive state rest) := by
  induction rest generalizing seen state with
  | nil =>
    rw [List.append_nil]
    exact progress
  | cons arrival rest ih =>
    have regroup : seen ++ arrival :: rest = (seen ++ [arrival]) ++ rest := by
      rw [List.append_assoc]
      rfl
    rw [regroup] at bounds ⊢
    refine ih (progress.step tiles narrow begun ?_ ?_)
      (List.append_ne_nil_of_right_ne_nil seen (List.cons_ne_nil _ _)) bounds
    · exact fun other member => bounds other
        (List.mem_append_left _ (List.mem_append_left _ member))
    · exact bounds arrival (List.mem_append_left _ (List.mem_append_right _ List.mem_cons_self))

theorem Progress.first {arrival : Arrival} (tiles : stream.Tiles s.cfg)
    (narrow : s.cfg.st20FrameBitmapSize * 8 ≤ 4294967296) (some_slots : 0 < s.cfg.slotMax)
    (ready : Ready arrival.env s stream.tmstamp) (bound : arrival.index < stream.count)
    (control : arrival.ctrlThread = true)
    (derived : rvFirstPktIdx s.cfg (stream.line arrival.index) (stream.place arrival.index) =
      arrival.index) :
    Exists fun slotIdx => Exists fun frame => Exists fun initial =>
      rvFrameBuffer arrival.env s frame = some initial ∧
      Progress stream s.cfg s.stats slotIdx frame initial [arrival]
        (stream.receive ⟨s, []⟩ arrival) := by
  have nonempty : 0 < s.cfg.st20FrameSize := by
    rw [← tiles.total]
    have positive : 0 < stream.size arrival.index :=
      (rvPlace_ok (tiles.placed arrival.index bound)).2.2.2
    exact Nat.lt_of_lt_of_le positive (List.single_le_sum (fun _ _ => Nat.zero_le _) _
      (List.mem_map_of_mem (List.mem_range.mpr bound)))
  have once := onlyCounted_countRetransmit s (stream.line arrival.index)
  rcases (ready.countRetransmit (stream.line arrival.index)).opens once.counts
    (by rw [once.cfg]; exact some_slots) (by rw [once.cfg]; exact nonempty) with
    ⟨frame, initial, buffer, found, opened⟩
  rw [once.cfg] at opened
  refine ⟨rvNextSlot (rvCountRetransmit s (stream.line arrival.index)), frame, initial, ?_, ?_⟩
  · rw [rvFrameBuffer, once.cfg, once.frames] at buffer
    exact buffer
  rw [← tiles.tmstamp_eq arrival.index bound] at found opened
  rcases @rvHandleFramePkt_inSlot arrival.env s _ frame (stream.packets arrival.index) arrival.port
    arrival.ctrlThread (tiles.accepted arrival.index bound) _ rfl found opened.held with
    ⟨session, events⟩
  have stored := (opened.of_counted (onlyCounted_setRedundant _ arrival.port 0)).inSlot tiles narrow
    List.nodup_nil (fun index member => False.elim (List.not_mem_nil member)) bound
    List.not_mem_nil (fun _ => ⟨control, derived⟩)
  refine ⟨[arrival.index], List.nodup_singleton _, fun index => Iff.rfl, ?_⟩
  rw [FrameStream.receive, session, events]
  exact stored

end Steps

theorem rvAttach_bounds {metaSize : Nat} {ops : St20RxOps} {cfg : RvConfig}
    (attached : rvAttach metaSize ops none = .ok cfg) :
    cfg.st20FrameBitmapSize * 8 ≤ 4294967296 ∧ 0 < cfg.slotMax := by
  unfold rvAttach at attached
  dsimp only at attached
  split at attached
  · cases attached
  · cases attached
    have frameBound := u32_lt (ops.width * ops.height * (st20GetPgroup ops.fmt).size : Nat)
    have lineBound := u32_lt (ops.height * 2 : Nat)
    have divided := Nat.div_le_self (u32 (ops.width * ops.height * (st20GetPgroup ops.fmt).size : Nat))
      (st20GetPgroup ops.fmt).coverage
    dsimp only
    constructor
    · have small : forall first second : Nat, first * 8 ≤ 4294967296 -> second * 8 ≤ 4294967296 ->
          max first second * 8 ≤ 4294967296 := fun first second => by omega
      apply small
      · split <;> omega
      · omega
    · split
      · decide
      · split <;> decide

/-- Packets that tile a frame are put together again whatever their order and
number of copies: the timestamp is announced exactly once, as a whole frame
whose contents do not depend on the order; every further copy of a packet is
counted as redundant and changes neither the frames nor what was announced. -/
theorem frame_reassembled_once {metaSize : Nat} {ops : St20RxOps} {s : RvSession}
    {stream : FrameStream} {first : Arrival} {rest : List Arrival}
    (attached : rvAttach metaSize ops none = .ok s.cfg) (tiles : stream.Tiles s.cfg)
    (ready : Ready first.env s stream.tmstamp) (control : first.ctrlThread = true)
    (derived : rvFirstPktIdx s.cfg (stream.line first.index) (stream.place first.index) =
      first.index)
    (members : ∀ arrival ∈ first :: rest, arrival.index < stream.count)
    (all : ∀ index < stream.count, index ∈ (first :: rest).map Arrival.index) :
    let final := run stream.receive ⟨s, []⟩ (first :: rest)
    (Exists fun frame => Exists fun initial => Exists fun info => Exists fun ret =>
      rvFrameBuffer first.env s frame = some initial ∧
      deliveriesAt stream.tmstamp final.events =
        [⟨frame, info, stream.assemble s.cfg (List.range stream.count) initial, ret⟩] ∧
      (info.status = .complete ∨ info.status = .reconstructed) ∧
      info.frameRecvSize = s.cfg.st20FrameSize ∧
      (final.session.frames frame).addr =
        stream.assemble s.cfg (List.range stream.count) initial) ∧
    final.session.stats.pktsReceived = s.stats.pktsReceived + stream.count ∧
    final.session.stats.pktsRedundant + stream.count =
      s.stats.pktsRedundant + (first :: rest).length ∧
    forall seen arrival later, first :: rest = seen ++ arrival :: later ->
      arrival.index ∈ seen.map Arrival.index ->
      let before := run stream.receive ⟨s, []⟩ seen
      let after := stream.receive before arrival
      after.session.frames = before.session.frames ∧ after.events = before.events ∧
        after.session.stats.pktsRedundant = before.session.stats.pktsRedundant + 1 := by
  rcases rvAttach_bounds attached with ⟨narrow, some_slots⟩
  rcases Progress.first tiles narrow some_slots ready (members first List.mem_cons_self) control
    derived with ⟨slotIdx, frame, initial, buffer, begun⟩
  have progress : forall arrivals, (∀ arrival ∈ first :: arrivals,
      arrival.index < stream.count) ->
      Progress stream s.cfg s.stats slotIdx frame initial (first :: arrivals)
        (run stream.receive ⟨s, []⟩ (first :: arrivals)) := fun arrivals bounds =>
    begun.run tiles narrow (List.cons_ne_nil _ _) arrivals bounds
  have whole : Finished stream s.cfg s.stats slotIdx frame initial (first :: rest).length
      (run stream.receive ⟨s, []⟩ (first :: rest)) := by
    rcases progress rest members with ⟨got, nodup, same, collecting | ⟨finished, _⟩⟩
    · have perm : got.Perm (List.range stream.count) := by
        refine (List.perm_ext_iff_of_nodup nodup List.nodup_range).mpr (fun index => ?_)
        rw [same, List.mem_range]
        refine ⟨fun member => ?_, all index⟩
        rcases List.mem_map.mp member with ⟨arrival, arrivalMember, rfl⟩
        exact members arrival arrivalMember
      have short := collecting.short
      rw [(perm.map stream.size).sum_eq, tiles.total] at short
      exact False.elim (Nat.lt_irrefl _ short)
    · exact finished
  dsimp only
  refine ⟨?_, whole.received, whole.redundant, ?_⟩
  · rcases whole.delivered with ⟨info, ret, delivered, size, status⟩
    exact ⟨frame, initial, info, ret, buffer, delivered, status, size, whole.content⟩
  · intro seen arrival later split again
    cases seen with
    | nil => cases again
    | cons other others =>
      have head : first = other := (List.cons.inj split).1
      subst head
      have tail := (List.cons.inj split).2
      have bounds : ∀ member ∈ first :: others, member.index < stream.count := by
        intro member isMember
        apply members member
        rw [tail]
        exact List.mem_append_left (arrival :: later) isMember
      have bound : arrival.index < stream.count := by
        apply members arrival
        rw [tail]
        exact List.mem_append_right (first :: others) List.mem_cons_self
      rcases (progress others bounds).repeated tiles narrow bound again with
        ⟨frames, events, redundant, _⟩
      exact ⟨frames, events, redundant⟩

def tinyRxOps : St20RxOps :=
  { hdRxOps with width := 2, height := 4, linesize := 0, numPort := 2 }

def tinyConfig : RvConfig :=
  { ops := tinyRxOps, st22 := none, st20Pg := st20GetPgroup .yuv422Bit10, st20BytesInLine := 5
    st20Linesize := 5, st20FbSize := 20, st20FrameSize := 20, st20FrameBitmapSize := 1
    sliceLines := 0, sliceSize := 0, slotMax := 2, userMetaBufferSize := 1024 }

/-- One packet for each line; the sequence numbers wrap after the second. -/
def tinyStream : FrameStream :=
  { count := 4
    tmstamp := 90000
    base := 4294967294
    packets := fun index =>
      { pkt :=
          { marker := decide (index = 3), payloadType := 112, seqNumber := u16 (65534 + index : Nat)
            seqNumberExt := if index < 2 then 65535 else 0, tmstamp := 90000, ssrc := 0
            rowLength := 5, rowNumber := index, rowOffset := 0
            body := List.replicate 5 (BitVec.ofNat 8 index) }
        multiSegment := false }
    place := fun index => ⟨5 * index, 5⟩ }

def takesAll : RvEnv :=
  { notifyRecycled := 0, notifyFull := 0, queryExt := none, portDown := fun _ => false
    timeStamp := 0, missEstimate := 0 }

/-- After the third line the second arrives, twice and on different ports, and
the first once more when the frame is complete. -/
def tinyArrivals : List Arrival :=
  [⟨1, .r, true, takesAll⟩, ⟨0, .p, true, takesAll⟩, ⟨1, .p, false, takesAll⟩,
    ⟨3, .p, true, takesAll⟩, ⟨0, .r, true, takesAll⟩]

theorem tinyStream_tiles : tinyStream.Tiles tinyConfig := by
  constructor
  · decide
  · decide
  · decide
  · decide
  · decide
  · decide +kernel
  · have places : forall index, rvPlaces tinyConfig (tinyStream.line index)
        (tinyStream.place index) = copyBytes id (5 * index) 5 := by
      intro index
      simp [rvPlaces, RvLine.crosses, tinyConfig, tinyStream]
    intro first second _ _ differ position here there
    rw [places, mem_copyBytes_id] at here there
    omega
  · decide

theorem frame_reassembled_tiny :
    let final := run tinyStream.receive ⟨rvInit tinyConfig, []⟩
      (⟨2, .p, true, takesAll⟩ :: tinyArrivals)
    (Exists fun delivery => deliveriesAt tinyStream.tmstamp final.events = [delivery]) ∧
      final.session.stats.pktsRedundant = 2 := by
  have once := @frame_reassembled_once 1024 tinyRxOps (rvInit tinyConfig) tinyStream
    ⟨2, .p, true, takesAll⟩ tinyArrivals rfl tinyStream_tiles
    ⟨by decide, by decide, ⟨0, by decide, by decide⟩, fun _ => rfl⟩ rfl (by decide)
    (by decide) (by decide)
  dsimp only at once ⊢
  rcases once with ⟨⟨frame, initial, info, ret, _, delivered, _⟩, _, redundant, _⟩
  refine ⟨⟨_, delivered⟩, ?_⟩
  have counted : _ + 4 = 0 + 6 := redundant
  omega

end MediaTransport.Video
