import MediaTransport.Anc.Redundancy
import MediaTransport.Anc.SlotPool

namespace MediaTransport.Anc

open Library

/-!
# Packets that a frame lacks

A slot counts the packets that its frame lacks from a bitmap over the sequence numbers seen, the
first of which is bit zero.  A packet from before the first one moves all bits up.  While the
numbers span no more than the bitmap, the slot knows the least and the greatest of them and has
a bit for each one in between that arrived, whatever the order.
-/

variable {slot : AncSlot} {udwBufSize : Nat} {packets : List AncArrival} {seen : List Int}
  {least greatest number : Int}

/-! ## The life of a slot -/

/-- What the assembler does to a slot between taking it for a frame and handing it on, with the
packets that went into it. -/
inductive AncSlot.Filled (udwBufSize : Nat) : List AncArrival -> AncSlot -> Prop
  | init (tmstamp : Nat) (interlaced secondField : Bool) (recvTs : Nat) :
    Filled udwBufSize [] (rxAncSlotInitFrame tmstamp interlaced secondField recvTs)
  | refresh {packets : List AncArrival} {slot : AncSlot} (filled : Filled udwBufSize packets slot)
      (interlaced secondField : Bool) (recvTs : Nat) :
    Filled udwBufSize packets (slot.refresh interlaced secondField recvTs)
  | addPkt {packets : List AncArrival} {slot : AncSlot} (filled : Filled udwBufSize packets slot)
      (arrival : AncArrival) :
    Filled udwBufSize (packets ++ [arrival]) (slot.addPkt udwBufSize arrival.pkt arrival.port).1
  | setMarker {packets : List AncArrival} {slot : AncSlot} (filled : Filled udwBufSize packets slot) :
    Filled udwBufSize packets { slot with rtpMarker := true }
  | setState {packets : List AncArrival} {slot : AncSlot} (filled : Filled udwBufSize packets slot)
      (state : AncSlotState) :
    Filled udwBufSize packets { slot with state := state }

theorem putFramebuffs_events (s : RxAncSession) (frames : List Nat) :
    (putFramebuffs s frames).events = s.events := by
  unfold putFramebuffs
  induction frames generalizing s with
  | nil => rfl
  | cons frame rest ih =>
    rw [List.foldl_cons, ih]
    unfold returnFrame st40RxPutFramebuff
    split
    · split <;> rfl
    · rfl

/-- Whatever the application does, it is told of one frame, the one in the slot. -/
theorem rxAncSlotDeliver_events (env : AncEnv) (s : RxAncSession) (idx : Nat) :
    (rxAncSlotDeliver env s idx).events = .notified idx (rxAncSlotFrame (s.frameSlots idx)) :: s.events := by
  have handed := putFramebuffs_events (rxAncSlotHandOff s idx) (env.notify s.stats.ancFramesReady).puts
  unfold rxAncSlotDeliver
  dsimp only
  split
  · exact handed
  · exact handed

/-! ## The bitmap -/

/-- What a slot knows of the sequence numbers of its packets. -/
structure AncSlot.SeqTracks (slot : AncSlot) (seen : List Int) (least greatest : Int) : Prop where
  valid : slot.seqBaseValid = true
  base : slot.seqBase = u16 least
  maxOffset : (slot.seqMaxOffset : Int) = greatest - least
  bits : forall bit : Nat, bit < 64 -> slot.seqBitmap.getLsbD bit = decide (least + bit ∈ seen)
  within : ∀ other ∈ seen, least ≤ other ∧ other ≤ greatest
  narrow : greatest - least < 64

theorem seqDelta_eq {left right : Int} (above : left - right < 32768) (below : right - left < 32768) :
    seqDelta (u16 left) (u16 right) = left - right := by
  unfold seqDelta
  rw [u16_sub_u16, u16_eq]
  dsimp only
  split <;> omega

theorem getLsbD_or_one (bitmap : BitVec 64) (shift bit : Nat) :
    (bitmap ||| (1 : BitVec 64) <<< shift).getLsbD bit =
      (bitmap.getLsbD bit || decide (bit < 64 ∧ bit = shift)) := by
  rw [BitVec.getLsbD_or, BitVec.getLsbD_shiftLeft, show (1 : BitVec 64).getLsbD (bit - shift) =
    decide (bit - shift = 0) from BitVec.getLsbD_one]
  congr 1
  by_cases inside : bit < 64 <;> by_cases below : bit < shift <;> simp [inside, below] <;> omega

theorem seqTracks_first (fresh : slot.seqBaseValid = false) (number : Int) :
    (rxAncSlotRecordBitmap slot (u16 number)).SeqTracks [number] number number := by
  unfold rxAncSlotRecordBitmap
  rw [if_pos (by rw [fresh]; rfl)]
  refine ⟨rfl, rfl, by simp, ?_, ?_, by omega⟩
  · intro bit _
    rw [show (1 : BitVec 64).getLsbD bit = decide (bit = 0) from BitVec.getLsbD_one]
    simp
  · intro other member
    rw [List.mem_singleton.mp member]
    exact ⟨le_rfl, le_rfl⟩

/-- A number from before the first one: the bits move up. -/
theorem AncSlot.SeqTracks.earlier (tracks : slot.SeqTracks seen least greatest)
    (before : number < least) (narrow : greatest - number < 64) :
    (rxAncSlotRecordBitmap slot (u16 number)).SeqTracks (number :: seen) number greatest := by
  have order : least ≤ greatest := by
    have size := tracks.maxOffset
    omega
  have delta : seqDelta (u16 number) slot.seqBase = number - least := by
    rw [tracks.base]
    exact seqDelta_eq (by omega) (by omega)
  have size := tracks.maxOffset
  unfold rxAncSlotRecordBitmap
  rw [if_neg (by rw [tracks.valid]; decide), delta]
  dsimp only
  rw [if_pos (by omega), if_pos (by omega)]
  refine ⟨tracks.valid, rfl, ?_, ?_, ?_, narrow⟩
  · dsimp only
    rw [u16_eq]
    omega
  · intro bit inside
    have moved := getLsbD_or_one (slot.seqBitmap <<< (-(number - least)).toNat) 0 bit
    rw [BitVec.shiftLeft_zero] at moved
    rw [moved, BitVec.getLsbD_shiftLeft, decide_eq_true inside, Bool.true_and]
    by_cases gap : bit < (-(number - least)).toNat
    · -- these bits are numbers before the least one seen so far
      have unseen : number + bit ∉ seen := by
        intro member
        have bounds := tracks.within _ member
        omega
      rw [decide_eq_true gap]
      simp [unseen, inside]
    · rw [decide_eq_false gap, tracks.bits _ (by omega),
        show least + ((bit - (-(number - least)).toNat : Nat) : Int) = number + bit by omega]
      have later : bit ≠ 0 := by omega
      simp [later]
  · intro other member
    rcases List.mem_cons.mp member with newest | old
    · omega
    · have bounds := tracks.within other old
      omega

/-- A number from the first one on sets its bit. -/
theorem AncSlot.SeqTracks.later (tracks : slot.SeqTracks seen least greatest)
    (after : least ≤ number) (narrow : number - least < 64) :
    (rxAncSlotRecordBitmap slot (u16 number)).SeqTracks (number :: seen) least (max greatest number) := by
  have spread := tracks.narrow
  have delta : seqDelta (u16 number) slot.seqBase = number - least := by
    rw [tracks.base]
    exact seqDelta_eq (by omega) (by omega)
  have size := tracks.maxOffset
  unfold rxAncSlotRecordBitmap
  rw [if_neg (by rw [tracks.valid]; decide), delta]
  dsimp only
  rw [if_neg (by omega), if_pos (by omega)]
  refine ⟨tracks.valid, tracks.base, ?_, ?_, ?_, by omega⟩
  · dsimp only
    split <;> omega
  · intro bit inside
    have place : (bit < 64 ∧ bit = (number - least).toNat) ↔ least + bit = number := by omega
    rw [getLsbD_or_one, tracks.bits bit inside, Bool.eq_iff_iff]
    simp only [Bool.or_eq_true, decide_eq_true_eq, List.mem_cons, place]
    exact or_comm
  · intro other member
    rcases List.mem_cons.mp member with newest | old
    · omega
    · have bounds := tracks.within other old
      omega

theorem AncSlot.SeqTracks.record (tracks : slot.SeqTracks seen least greatest)
    (low : greatest - number < 64) (high : number - least < 64) :
    exists first last, (rxAncSlotRecordBitmap slot (u16 number)).SeqTracks (number :: seen) first last ∧
      (first = number ∨ first = least) ∧ (last = number ∨ last = greatest) := by
  by_cases before : number < least
  · exact ⟨number, greatest, tracks.earlier before low, Or.inl rfl, Or.inr rfl⟩
  · exact ⟨least, max greatest number, tracks.later (by omega) high, Or.inr rfl, by omega⟩

/-! ## A frame's packets in any order -/

def AncSlot.seqPart (slot : AncSlot) : Bool × Nat × Nat × BitVec 64 :=
  (slot.seqBaseValid, slot.seqBase, slot.seqMaxOffset, slot.seqBitmap)

theorem AncSlot.SeqTracks.transfer {other : AncSlot} (tracks : slot.SeqTracks seen least greatest)
    (same : other.seqPart = slot.seqPart) : other.SeqTracks seen least greatest := by
  simp only [AncSlot.seqPart, Prod.mk.injEq] at same
  rcases same with ⟨valid, base, maxOffset, bitmap⟩
  exact ⟨valid.trans tracks.valid, base.trans tracks.base, maxOffset ▸ tracks.maxOffset,
    bitmap ▸ tracks.bits, tracks.within, tracks.narrow⟩

theorem rxAncSlotRecordPort_seqPart (slot : AncSlot) (seqId : Nat) (port : MtlSessionPort) :
    (rxAncSlotRecordPort slot seqId port).seqPart = slot.seqPart := by
  unfold rxAncSlotRecordPort
  dsimp only
  split
  · split <;> rfl
  · split <;> rfl

theorem rxAncSlotParseEntries_seqPart (udwBufSize room : Nat) (payload : Nat -> Byte) (slot : AncSlot)
    (left offset : Nat) :
    (rxAncSlotParseEntries udwBufSize room payload slot left offset).1.seqPart = slot.seqPart := by
  induction left generalizing slot offset with
  | zero => rfl
  | succ left ih =>
    rw [rxAncSlotParseEntries]
    split
    · rfl
    · split
      · rfl
      · exact ih _ _

/-- Of what a packet adds to a slot only its sequence number counts here. -/
theorem AncSlot.addPkt_seqPart (slot : AncSlot) (udwBufSize : Nat) (pkt : AncPkt) (port : MtlSessionPort) :
    exists counted : AncSlot, counted.seqPart = slot.seqPart ∧
      (slot.addPkt udwBufSize pkt port).1.seqPart = (rxAncSlotRecordBitmap counted pkt.seqNumber).seqPart := by
  refine ⟨_, ?_, (rxAncSlotParseEntries_seqPart _ _ _ _ _ _).trans (rxAncSlotRecordPort_seqPart _ _ _)⟩
  rfl

def numbersOf (packets : List AncArrival) : List Int := (packets.map (fun packet => packet.number)).reverse

/-- The slot tracks its packets, however they were ordered. -/
theorem AncSlot.Filled.seqTracks (filled : slot.Filled udwBufSize packets)
    (numbered : ∀ packet ∈ packets, packet.pkt.seqNumber = u16 packet.number)
    (narrow : forall one other, one ∈ numbersOf packets -> other ∈ numbersOf packets -> one - other < 64) :
    (packets = [] ∧ slot.seqBaseValid = false) ∨
      exists first last, slot.SeqTracks (numbersOf packets) first last ∧
        first ∈ numbersOf packets ∧ last ∈ numbersOf packets := by
  induction filled with
  | init => exact Or.inl ⟨rfl, rfl⟩
  | refresh filled _ _ _ ih =>
    rcases ih numbered narrow with fresh | ⟨first, last, tracks, ends⟩
    · exact Or.inl fresh
    · exact Or.inr ⟨first, last, tracks.transfer rfl, ends⟩
  | setMarker filled ih =>
    rcases ih numbered narrow with fresh | ⟨first, last, tracks, ends⟩
    · exact Or.inl fresh
    · exact Or.inr ⟨first, last, tracks.transfer rfl, ends⟩
  | setState filled _ ih =>
    rcases ih numbered narrow with fresh | ⟨first, last, tracks, ends⟩
    · exact Or.inl fresh
    · exact Or.inr ⟨first, last, tracks.transfer rfl, ends⟩
  | @addPkt packets slot filled arrival ih =>
    have numbers : numbersOf (packets ++ [arrival]) = arrival.number :: numbersOf packets := by
      simp [numbersOf]
    rw [numbers] at narrow ⊢
    have seqNumber : arrival.pkt.seqNumber = u16 arrival.number := numbered arrival (by simp)
    rcases slot.addPkt_seqPart udwBufSize arrival.pkt arrival.port with ⟨counted, start, recorded⟩
    rw [seqNumber] at recorded
    have before := ih (fun packet member => numbered packet (by simp [member]))
      (fun one other first second => narrow one other (by simp [first]) (by simp [second]))
    refine Or.inr ?_
    rcases before with ⟨none, fresh⟩ | ⟨first, last, tracks, first_mem, last_mem⟩
    · rw [none]
      have unset : counted.seqBaseValid = false := (congrArg Prod.fst start).trans fresh
      exact ⟨_, _, (seqTracks_first unset arrival.number).transfer recorded, by simp, by simp⟩
    · have low := narrow last arrival.number (by simp [last_mem]) (by simp)
      have high := narrow arrival.number first (by simp) (by simp [first_mem])
      rcases (tracks.transfer start).record low high with ⟨least, greatest, next, least_eq, greatest_eq⟩
      refine ⟨least, greatest, next.transfer recorded, ?_, ?_⟩
      · rcases least_eq with same | same <;> simp [same, first_mem]
      · rcases greatest_eq with same | same <;> simp [same, last_mem]

/-- The bits that are set are the numbers that arrived. -/
theorem AncSlot.SeqTracks.count (tracks : slot.SeqTracks seen least greatest) :
    ((List.range 64).filter (fun bit => slot.seqBitmap.getLsbD bit)).length = seen.toFinset.card := by
  have nodup : ((List.range 64).filter (fun bit => slot.seqBitmap.getLsbD bit)).Nodup :=
    List.nodup_range.filter _
  rw [← List.toFinset_card_of_nodup nodup]
  have shifted : Function.Injective (fun bit : Nat => least + (bit : Int)) := by
    intro one other same
    dsimp only at same
    omega
  rw [← Finset.card_image_of_injective _ shifted]
  congr 1
  ext number
  simp only [Finset.mem_image, List.mem_toFinset, List.mem_filter, List.mem_range]
  constructor
  · rintro ⟨bit, ⟨inside, set⟩, rfl⟩
    rw [tracks.bits bit inside] at set
    exact of_decide_eq_true set
  · intro member
    have bounds := tracks.within number member
    have spread := tracks.narrow
    have place : least + ((number - least).toNat : Int) = number := by omega
    refine ⟨(number - least).toNat, ⟨by omega, ?_⟩, place⟩
    rw [tracks.bits _ (by omega), place]
    exact decide_eq_true member

/-- The frame that is handed on lacks those numbers between the least and the greatest one that
did not arrive, in whatever order, how often and on which ports the others did. -/
theorem seq_lost_any_order (env : AncEnv) (s : RxAncSession) (idx : Nat)
    (filled : (s.frameSlots idx).Filled udwBufSize packets)
    (numbered : ∀ packet ∈ packets, packet.pkt.seqNumber = u16 packet.number)
    (least_mem : least ∈ numbersOf packets) (greatest_mem : greatest ∈ numbersOf packets)
    (within : ∀ number ∈ numbersOf packets, least ≤ number ∧ number ≤ greatest)
    (span : greatest - least + 1 ≤ 64) :
    exists frame,
      (rxAncSlotDeliver env s idx).events = .notified idx frame :: s.events ∧
      (frame.seqLost : Int) = greatest - least + 1 - (numbersOf packets).toFinset.card ∧
      (frame.status = .complete <-> frame.seqLost = 0) := by
  refine ⟨_, rxAncSlotDeliver_events env s idx, ?_, ?_⟩
  · have narrow : forall one other, one ∈ numbersOf packets -> other ∈ numbersOf packets -> one - other < 64 := by
      intro one other first second
      have upper := (within one first).2
      have lower := (within other second).1
      omega
    rcases filled.seqTracks numbered narrow with ⟨none, -⟩ | ⟨first, last, tracks, first_mem, last_mem⟩
    · rw [none] at least_mem
      cases least_mem
    · have low : first = least :=
        le_antisymm (tracks.within least least_mem).1 (within first first_mem).1
      have high : last = greatest :=
        le_antisymm (within last last_mem).2 (tracks.within greatest greatest_mem).2
      subst low high
      have inside : (numbersOf packets).toFinset ⊆ Finset.Icc first last := by
        intro number member
        rw [List.mem_toFinset] at member
        exact Finset.mem_Icc.mpr (within number member)
      have most := Finset.card_le_card inside
      rw [Int.card_Icc] at most
      have size := tracks.maxOffset
      unfold rxAncSlotFrame
      rw [if_pos tracks.valid, tracks.count]
      dsimp only
      omega
  · have status : (rxAncSlotFrame (s.frameSlots idx)).status =
        if (rxAncSlotFrame (s.frameSlots idx)).seqLost > 0 then .corrupted else .complete := rfl
    rw [status]
    by_cases lost : (rxAncSlotFrame (s.frameSlots idx)).seqLost > 0
    · rw [if_pos lost]
      exact ⟨fun same => absurd same (by decide), fun none => by omega⟩
    · rw [if_neg lost]
      exact ⟨fun _ => by omega, fun _ => rfl⟩

/-- The first packet of a frame arrives last but one, from behind the wrap, and one never does. -/
def lateFirst : List AncArrival := [
  wrappingArrival 65536 .p true, wrappingArrival 65537 .p true, wrappingArrival 65534 .r true,
  wrappingArrival 65536 .r true]

def lateFirstSlot : AncSlot :=
  lateFirst.foldl (fun slot packet => (slot.addPkt 0 packet.pkt packet.port).1)
    (rxAncSlotInitFrame 0 false false 0)

theorem seq_lost_any_order_late :
    let s := (rxAncInit rtpLevelOps true 1 0).setSlot 0 lateFirstSlot
    exists frame, (rxAncSlotDeliver (wrappingArrival 0 .p true).env s 0).events = .notified 0 frame :: s.events ∧
      (frame.seqLost : Int) = 65537 - 65534 + 1 - 3 ∧ (frame.status = .complete <-> frame.seqLost = 0) := by
  have filled : lateFirstSlot.Filled 0 lateFirst :=
    .addPkt (.addPkt (.addPkt (.addPkt (.init 0 false false 0) _) _) _) _
  exact seq_lost_any_order (wrappingArrival 0 .p true).env
    ((rxAncInit rtpLevelOps true 1 0).setSlot 0 lateFirstSlot) 0 filled
    (by decide) (by decide) (by decide) (by decide) (by decide)

end MediaTransport.Anc
