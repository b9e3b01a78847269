import MediaTransport.Library.Run
import MediaTransport.Video.FramePacket

namespace MediaTransport.Video

open Library

/-!
# Merging the slices of a frame

`rv_slice_add` collects the ranges of a frame in whatever order they arrive.
The main slice grows from the first byte; a range that does not continue it is
parked, and a merge loop moves parked slices to the main slice once it has
reached them.  The invariant says that main slice and parked slices partition
the bytes received so far and that no parked slice touches the main slice.
The parked slices are in no particular order, and one call may make several
slices of the application ready at once.  Ranges of a frame that fits 32-bit
offsets keep all sums of the source below its word size.
-/

/-! ## Ranges of bytes -/

def RvSlice.Covers (slice : RvSlice) (byte : Nat) : Prop :=
  slice.offset ≤ byte ∧ byte < slice.offset + slice.size

def RvSlice.Apart (first second : RvSlice) : Prop :=
  forall byte, first.Covers byte -> ¬ second.Covers byte

def Covered (slices : List RvSlice) (byte : Nat) : Prop :=
  exists slice, slice ∈ slices ∧ slice.Covers byte

theorem RvSlice.Apart.symm {first second : RvSlice} (apart : first.Apart second) :
    second.Apart first := fun byte there here => apart byte here there

theorem RvSlice.apart_of_ends {first second : RvSlice}
    (ends : first.offset + first.size ≤ second.offset ∨
      second.offset + second.size ≤ first.offset) : first.Apart second := by
  rintro byte ⟨low, high⟩ ⟨lower, higher⟩
  omega

theorem RvSlice.not_covers_empty (offset byte : Nat) : ¬ RvSlice.Covers ⟨offset, 0⟩ byte := by
  rintro ⟨low, high⟩
  exact Nat.not_lt.mpr low high

theorem RvSlice.covers_offset {slice : RvSlice} (filled : slice.size ≠ 0) :
    slice.Covers slice.offset := ⟨Nat.le_refl _, Nat.lt_add_of_pos_right (Nat.pos_of_ne_zero filled)⟩

theorem covered_nil (byte : Nat) : ¬ Covered [] byte := by
  rintro ⟨slice, member, -⟩
  cases member

theorem covered_cons (slice : RvSlice) (rest : List RvSlice) (byte : Nat) :
    Covered (slice :: rest) byte <-> slice.Covers byte ∨ Covered rest byte := by
  simp [Covered]

theorem covered_append (first second : List RvSlice) (byte : Nat) :
    Covered (first ++ second) byte <-> Covered first byte ∨ Covered second byte := by
  simp only [Covered, List.mem_append, or_and_right, exists_or]

def filledSlices (slices : List RvSlice) : Nat := slices.countP (fun slice => decide (slice.size ≠ 0))

theorem filledSlices_cons (slice : RvSlice) (rest : List RvSlice) :
    filledSlices (slice :: rest) = filledSlices rest + if slice.size ≠ 0 then 1 else 0 := by
  simp [filledSlices, List.countP_cons]

/-! ## The merge loop -/

/-- What merging does: the bytes of the slices that were emptied are in the
main slice. -/
structure MergedTo (main : Nat) (parked : List RvSlice) (grown : Nat) (left : List RvSlice)
    (merged : Nat) : Prop where
  bytes : forall byte, byte < grown ∨ Covered left byte <-> byte < main ∨ Covered parked byte
  stays : ∀ slice ∈ left, slice.size ≠ 0 -> slice ∈ parked
  apart : parked.Pairwise RvSlice.Apart -> left.Pairwise RvSlice.Apart
  beyond : parked.Pairwise RvSlice.Apart ->
    (∀ slice ∈ parked, slice.size ≠ 0 -> main ≤ slice.offset) ->
    ∀ slice ∈ left, slice.size ≠ 0 -> grown ≤ slice.offset
  length : left.length = parked.length
  count : filledSlices left + merged = filledSlices parked

theorem MergedTo.refl (main : Nat) (parked : List RvSlice) : MergedTo main parked main parked 0 :=
  ⟨fun _ => Iff.rfl, fun _ member _ => member, id, fun _ beyond => beyond, rfl, rfl⟩

theorem MergedTo.trans {main grown final merged more : Nat} {parked left rest : List RvSlice}
    (first : MergedTo main parked grown left merged) (second : MergedTo grown left final rest more) :
    MergedTo main parked final rest (merged + more) where
  bytes := fun byte => (second.bytes byte).trans (first.bytes byte)
  stays := fun slice member filled => first.stays slice (second.stays slice member filled) filled
  apart := fun apart => second.apart (first.apart apart)
  beyond := fun apart beyond => second.beyond (first.apart apart) (first.beyond apart beyond)
  length := second.length.trans first.length
  count := by
    have here := first.count
    have there := second.count
    omega

theorem MergedTo.apart_cons {main grown merged : Nat} {slice kept : RvSlice}
    {parked left : List RvSlice} (rest : MergedTo main parked grown left merged)
    (inside : forall byte, kept.Covers byte -> slice.Covers byte)
    (apart : (slice :: parked).Pairwise RvSlice.Apart) : (kept :: left).Pairwise RvSlice.Apart := by
  rcases List.pairwise_cons.mp apart with ⟨first, others⟩
  refine List.pairwise_cons.mpr ⟨fun other member byte here there => ?_, rest.apart others⟩
  have filled : other.size ≠ 0 := by
    intro empty
    have bounds := there
    unfold RvSlice.Covers at bounds
    omega
  exact first other (rest.stays other member filled) byte (inside byte here) there

theorem rvSliceMergePass_merged (main : Nat) (parked : List RvSlice) :
    MergedTo main parked (rvSliceMergePass main parked).1 (rvSliceMergePass main parked).2.1
      (rvSliceMergePass main parked).2.2 := by
  induction parked generalizing main with
  | nil => exact MergedTo.refl main []
  | cons slice rest ih =>
    unfold rvSliceMergePass
    split
    · next reached =>
        -- The slice continues the main slice and is emptied.
        have later := ih (main + slice.size)
        generalize rvSliceMergePass (main + slice.size) rest = pass at later ⊢
        rcases pass with ⟨grown, left, merged⟩
        dsimp only at later ⊢
        refine ⟨fun byte => ?_, ?_, ?_, fun apart beyond => ?_, congrArg (· + 1) later.length, ?_⟩
        · have same := later.bytes byte
          have joined : byte < main + slice.size <-> byte < main ∨ slice.Covers byte := by
            rw [RvSlice.Covers, reached.2]
            omega
          rw [covered_cons, covered_cons, ← @or_assoc (byte < main), ← joined, ← same]
          exact or_congr_right ⟨fun either => either.resolve_left
            (RvSlice.not_covers_empty 0 byte), Or.inr⟩
        · intro other member filled
          rcases List.mem_cons.mp member with same | member
          · rw [same] at filled
            exact False.elim (filled rfl)
          · exact List.mem_cons_of_mem _ (later.stays other member filled)
        · exact later.apart_cons (fun byte here => False.elim (RvSlice.not_covers_empty 0 byte here))
        · rcases List.pairwise_cons.mp apart with ⟨first, others⟩
          intro kept member filled
          rcases List.mem_cons.mp member with same | member
          · rw [same] at filled
            exact False.elim (filled rfl)
          · refine later.beyond others (fun other inside used => ?_) kept member filled
            have ahead := beyond other (List.mem_cons_of_mem _ inside) used
            by_contra close
            refine first other inside other.offset ⟨?_, ?_⟩ (RvSlice.covers_offset used)
            · omega
            · omega
        · have count := later.count
          rw [filledSlices_cons, filledSlices_cons, if_pos reached.1, if_neg (by simp)]
          omega
    · next other =>
        have later := ih main
        generalize rvSliceMergePass main rest = pass at later ⊢
        rcases pass with ⟨grown, left, merged⟩
        dsimp only at later ⊢
        refine ⟨fun byte => ?_, ?_, ?_, fun apart beyond => ?_, congrArg (· + 1) later.length, ?_⟩
        · have same := later.bytes byte
          rw [covered_cons, covered_cons, or_left_comm, same, or_left_comm]
        · intro kept member filled
          rcases List.mem_cons.mp member with same | member
          · rw [same]
            exact List.mem_cons_self
          · exact List.mem_cons_of_mem _ (later.stays kept member filled)
        · exact later.apart_cons (fun _ here => here)
        · rcases List.pairwise_cons.mp apart with ⟨first, others⟩
          intro kept member filled
          rcases List.mem_cons.mp member with same | member
          · rw [same] at filled ⊢
            have ahead := beyond slice List.mem_cons_self filled
            by_contra passed
            -- The main slice has grown over the slice, which shares no byte with the rest.
            rcases (later.bytes slice.offset).mp (Or.inl (Nat.lt_of_not_le passed)) with
              low | ⟨owner, inside, holds⟩
            · omega
            · exact first owner inside slice.offset (RvSlice.covers_offset filled) holds
          · exact later.beyond others (fun other inside => beyond other
              (List.mem_cons_of_mem _ inside)) kept member filled
        · have count := later.count
          rw [filledSlices_cons, filledSlices_cons]
          omega

theorem rvSliceMergePass_stable {main : Nat} {parked : List RvSlice}
    (still : (rvSliceMergePass main parked).2.2 = 0) :
    (rvSliceMergePass main parked) = (main, parked, 0) ∧
      ∀ slice ∈ parked, slice.size ≠ 0 -> slice.offset ≠ main := by
  induction parked with
  | nil => exact ⟨rfl, fun slice member => by cases member⟩
  | cons slice rest ih =>
    unfold rvSliceMergePass at still ⊢
    split at still
    · cases still
    · next other =>
        rw [if_neg other]
        rcases ih still with ⟨same, apart⟩
        rw [same]
        refine ⟨rfl, fun kept member filled touches => ?_⟩
        rcases List.mem_cons.mp member with equal | member
        · rw [equal] at filled touches
          exact other ⟨filled, touches⟩
        · exact apart kept member filled touches

theorem rvSliceMerge_merged {fuel main : Nat} {parked : List RvSlice}
    (enough : filledSlices parked < fuel) :
    let loop := rvSliceMerge fuel main parked
    MergedTo main parked loop.1 loop.2.1 loop.2.2 ∧
      (∀ slice ∈ loop.2.1, slice.size ≠ 0 -> slice.offset ≠ loop.1) ∧
      forall more, rvSliceMerge (fuel + more) main parked = loop := by
  induction fuel generalizing main parked with
  | zero => exact False.elim (Nat.not_lt_zero _ enough)
  | succ fuel ih =>
    have pass := rvSliceMergePass_merged main parked
    have unfolded : forall rounds, rvSliceMerge (rounds + 1) main parked =
        if (rvSliceMergePass main parked).2.2 = 0 then
          ((rvSliceMergePass main parked).1, (rvSliceMergePass main parked).2.1, 0)
        else
          ((rvSliceMerge rounds (rvSliceMergePass main parked).1
              (rvSliceMergePass main parked).2.1).1,
            (rvSliceMerge rounds (rvSliceMergePass main parked).1
              (rvSliceMergePass main parked).2.1).2.1,
            (rvSliceMergePass main parked).2.2 +
              (rvSliceMerge rounds (rvSliceMergePass main parked).1
                (rvSliceMergePass main parked).2.1).2.2) := fun _ => rfl
    dsimp only
    by_cases still : (rvSliceMergePass main parked).2.2 = 0
    · rcases rvSliceMergePass_stable still with ⟨same, apart⟩
      rw [unfolded, if_pos still, same]
      refine ⟨MergedTo.refl main parked, apart, fun more => ?_⟩
      rw [Nat.add_right_comm, unfolded, if_pos still, same]
    · have fewer : filledSlices (rvSliceMergePass main parked).2.1 < fuel := by
        have count := pass.count
        omega
      rcases ih fewer with ⟨merged, apart, settled⟩
      rw [unfolded, if_neg still]
      refine ⟨pass.trans merged, apart, fun more => ?_⟩
      rw [Nat.add_right_comm, unfolded, if_neg still, settled more]

/-! ## Parking -/

/-- A range is parked in one slice, which takes its bytes and keeps its own. -/
structure ParkedIn (range : RvSlice) (parked left : List RvSlice) (added : Bool) : Prop where
  place : exists front slice grown rest, parked = front ++ slice :: rest ∧
    left = front ++ grown :: rest ∧
    (forall byte, grown.Covers byte <-> slice.Covers byte ∨ range.Covers byte) ∧
    (grown.size ≠ 0 -> (range.size ≠ 0 ∧ grown.offset = range.offset) ∨
      (slice.size ≠ 0 ∧ grown.offset = slice.offset))
  count : filledSlices left ≤ filledSlices parked + if added then 1 else 0

theorem rvSlicePark_parkedIn {offset size : Nat} {parked left : List RvSlice} {added : Bool}
    (found : rvSlicePark offset size parked = some (left, added)) :
    ParkedIn ⟨offset, size⟩ parked left added := by
  induction parked generalizing left with
  | nil => cases found
  | cons slice rest ih =>
    unfold rvSlicePark at found
    split at found
    · next free =>
        cases found
        refine ⟨⟨[], slice, ⟨offset, size⟩, rest, rfl, rfl, fun byte => ?_, fun used =>
          Or.inl ⟨used, rfl⟩⟩, ?_⟩
        · have none : ¬ slice.Covers byte := by
            rintro ⟨low, high⟩
            omega
          exact (or_iff_right none).symm
        · rw [filledSlices_cons, filledSlices_cons, if_pos rfl]
          split <;> split <;> omega
    · next used =>
        split at found
        · next continues =>
            cases found
            refine ⟨⟨[], slice, { slice with size := slice.size + size }, rest, rfl, rfl,
              fun byte => ?_, fun _ => Or.inr ⟨used, rfl⟩⟩, ?_⟩
            · simp only [RvSlice.Covers]
              omega
            · rw [filledSlices_cons, filledSlices_cons, if_pos used]
              split <;> omega
        · cases later : rvSlicePark offset size rest with
          | none =>
            rw [later] at found
            cases found
          | some answer =>
            rw [later] at found
            cases found
            rcases ih later with ⟨⟨front, here, grown, others, before, after, bytes, start⟩, count⟩
            refine ⟨⟨slice :: front, here, grown, others, ?_, ?_, bytes, start⟩, ?_⟩
            · rw [before]
              rfl
            · rw [after]
              rfl
            · rw [filledSlices_cons, filledSlices_cons]
              omega

/-! ## What is collected -/

/-- The bytes that were received are those of the main slice and of the parked
slices, which share no byte and do not touch the main slice. -/
structure Collected (got : Nat -> Prop) (main : Nat) (parked : List RvSlice) : Prop where
  bytes : forall byte, got byte <-> byte < main ∨ Covered parked byte
  apart : parked.Pairwise RvSlice.Apart
  beyond : ∀ slice ∈ parked, slice.size ≠ 0 -> main < slice.offset

section Collect

variable {got : Nat -> Prop} {main : Nat} {parked left : List RvSlice} {range : RvSlice}

theorem Collected.least (collected : Collected got main parked) :
    IsLeast { byte | ¬ got byte } main := by
  constructor
  · intro received
    rcases (collected.bytes main).mp received with low | ⟨slice, member, covers⟩
    · exact Nat.lt_irrefl main low
    · have filled : slice.size ≠ 0 := by
        intro empty
        unfold RvSlice.Covers at covers
        omega
      exact Nat.not_lt.mpr covers.1 (collected.beyond slice member filled)
  · intro byte missing
    by_contra low
    exact missing ((collected.bytes byte).mpr (Or.inl (Nat.lt_of_not_le low)))

theorem Collected.park (collected : Collected got main parked) {added : Bool}
    (fresh : forall byte, range.Covers byte -> ¬ got byte) (gap : range.offset ≠ main)
    (placed : ParkedIn range parked left added) :
    Collected (fun byte => got byte ∨ range.Covers byte) main left := by
  rcases placed.place with ⟨front, slice, grown, rest, before, after, bytes, start⟩
  have old : ∀ other ∈ slice :: (front ++ rest), other ∈ parked := by
    intro other member
    rw [before]
    simp only [List.mem_cons, List.mem_append] at member ⊢
    tauto
  refine ⟨fun byte => ?_, ?_, ?_⟩
  · rw [collected.bytes byte, before, after, covered_append, covered_append, covered_cons,
      covered_cons, bytes byte]
    tauto
  · have apart := collected.apart
    rw [before, List.pairwise_middle (fun {_ _} => RvSlice.Apart.symm)] at apart
    rw [after, List.pairwise_middle (fun {_ _} => RvSlice.Apart.symm)]
    rcases List.pairwise_cons.mp apart with ⟨first, others⟩
    refine List.pairwise_cons.mpr ⟨fun other member byte here there => ?_, others⟩
    rcases (bytes byte).mp here with own | new
    · exact first other member byte own there
    · exact fresh byte new ((collected.bytes byte).mpr (Or.inr ⟨other,
        old other (List.mem_cons_of_mem _ member), there⟩))
  · intro other member filled
    rw [after] at member
    by_cases same : other = grown
    · rw [same] at filled ⊢
      rcases start filled with ⟨used, offset⟩ | ⟨used, offset⟩
      · have outside : ¬ range.offset < main := fun low => fresh range.offset
          (RvSlice.covers_offset used) ((collected.bytes range.offset).mpr (Or.inl low))
        omega
      · rw [offset]
        exact collected.beyond slice (old slice List.mem_cons_self) used
    · refine collected.beyond other (old other (List.mem_cons_of_mem _ ?_)) filled
      simp only [List.mem_append, List.mem_cons] at member ⊢
      tauto

theorem Collected.extend (collected : Collected got main parked) {final merged : Nat}
    (fresh : forall byte, range.Covers byte -> ¬ got byte) (continues : range.offset = main)
    (loop : MergedTo (main + range.size) parked final left merged)
    (stable : ∀ slice ∈ left, slice.size ≠ 0 -> slice.offset ≠ final) :
    Collected (fun byte => got byte ∨ range.Covers byte) final left := by
  refine ⟨fun byte => ?_, loop.apart collected.apart, fun slice member filled => ?_⟩
  · have joined : byte < main + range.size <-> byte < main ∨ range.Covers byte := by
      rw [RvSlice.Covers, continues]
      omega
    rw [loop.bytes byte, joined, collected.bytes byte]
    tauto
  · have ahead := loop.beyond collected.apart (fun other inside used => ?_) slice member filled
    · have differ := stable slice member filled
      omega
    · have far := collected.beyond other inside used
      by_contra close
      refine fresh other.offset ⟨?_, ?_⟩ ((collected.bytes other.offset).mpr
        (Or.inr ⟨other, inside, RvSlice.covers_offset used⟩))
      · omega
      · omega

end Collect

/-! ## Runs -/

/-- `slices[0]`, which starts at the first byte. -/
def RvSliceInfo.mainSlice (info : RvSliceInfo) : RvSlice := info.slices.headD ⟨0, 0⟩

def RvSliceInfo.parked (info : RvSliceInfo) : List RvSlice := info.slices.tail

/-- The slices of a frame, with the numbers of ready slices that
`rv_slice_notify` has told so far. -/
structure SliceRun where
  info : RvSliceInfo
  notified : List Nat

variable (cfg : RvConfig) (s : SliceRun)

def SliceRun.start : SliceRun := { info := RvSliceInfo.empty, notified := [] }

/-- One range is passed to `rv_slice_add`. -/
def rvSliceStep (range : RvSlice) : SliceRun :=
  let answer := rvSliceAdd cfg s.info range.offset range.size
  { info := answer.info
    notified := if answer.ready then s.notified ++ [answer.info.readySlices] else s.notified }

/-- The range finds a place: the call does not end in `stat_pkts_slice_fail`. -/
def SlicePlaced (range : RvSlice) : Prop :=
  (rvSliceAdd cfg s.info range.offset range.size).failed = false

instance (cfg : RvConfig) (s : SliceRun) (range : RvSlice) : Decidable (SlicePlaced cfg s range) :=
  inferInstanceAs (Decidable (_ = _))

/-- The state of the slices after the ranges `got`. -/
structure SliceRun.Sound (cfg : RvConfig) (got : List RvSlice) (s : SliceRun) : Prop where
  shape : s.info.slices = s.info.mainSlice :: s.info.parked
  length : s.info.parked.length < stVideoRxSliceNum
  collected : Collected (Covered got) s.info.mainSlice.size s.info.parked
  extra : filledSlices s.info.parked ≤ s.info.extraSlices
  ready : s.info.readySlices = s.info.mainSlice.size / cfg.sliceSize
  last : s.notified.getLastD 0 = s.info.readySlices
  below : ∀ count ∈ s.notified, count ≤ s.info.readySlices
  increasing : s.notified.Pairwise (· < ·)

theorem SliceRun.start_sound : SliceRun.start.Sound cfg [] := by
  have empty : ∀ slice ∈ SliceRun.start.info.parked, slice.size = 0 := by
    intro slice member
    rw [List.eq_of_mem_replicate (show slice ∈ List.replicate 31 ⟨0, 0⟩ from member)]
  have apart : SliceRun.start.info.parked.Pairwise RvSlice.Apart := by
    have all : forall first second : RvSlice, first = ⟨0, 0⟩ -> second = ⟨0, 0⟩ ->
        first.Apart second := by
      intro first second here _ byte covers
      rw [here] at covers
      exact False.elim (RvSlice.not_covers_empty 0 byte covers)
    exact List.pairwise_replicate.mpr (Or.inr (all _ _ rfl rfl))
  refine ⟨rfl, by decide, ⟨fun byte => ?_, apart, ?_⟩, by decide, (Nat.zero_div _).symm, rfl,
    fun count member => (by cases member), List.Pairwise.nil⟩
  · constructor
    · exact fun received => False.elim (covered_nil byte received)
    · rintro (low | ⟨slice, member, covers⟩)
      · exact False.elim (Nat.not_lt_zero _ low)
      · have size := empty slice member
        unfold RvSlice.Covers at covers
        omega
  · exact fun slice member filled => False.elim (filled (empty slice member))

theorem covered_snoc (got : List RvSlice) (range : RvSlice) (byte : Nat) :
    Covered (got ++ [range]) byte <-> Covered got byte ∨ range.Covers byte := by
  rw [covered_append, covered_cons]
  exact or_congr_right (or_iff_left (covered_nil byte))

theorem Collected.congr {got other : Nat -> Prop} {main : Nat} {parked : List RvSlice}
    (collected : Collected got main parked) (same : forall byte, other byte <-> got byte) :
    Collected other main parked :=
  ⟨fun byte => (same byte).trans (collected.bytes byte), collected.apart, collected.beyond⟩

/-- A range that continues the main slice: the merge loop takes in what it reaches, and leaves no slice that
begins where the main slice ends. -/
theorem rvSliceAdd_continues {cfg : RvConfig} {main range : RvSlice} {parked : List RvSlice}
    {readySlices extraSlices : Nat} (continues : range.offset = main.size)
    (length : parked.length < stVideoRxSliceNum) (extra : filledSlices parked ≤ extraSlices) :
    exists final left merged,
      rvSliceAdd cfg ⟨main :: parked, readySlices, extraSlices⟩ range.offset range.size =
        { info :=
            { slices := { main with size := final } :: left
              readySlices :=
                if decide (readySlices < final / cfg.sliceSize) then final / cfg.sliceSize
                else readySlices
              extraSlices := extraSlices - merged }
          failed := false, merged := merged
          ready := decide (readySlices < final / cfg.sliceSize) } ∧
      MergedTo (main.size + range.size) parked final left merged ∧
      ∀ slice ∈ left, slice.size ≠ 0 -> slice.offset ≠ final := by
  by_cases none : extraSlices = 0
  · refine ⟨main.size + range.size, parked, 0, ?_, MergedTo.refl _ _, ?_⟩
    · simp only [rvSliceAdd, continues, none, ne_eq, not_true_eq_false, if_false, if_true]
    · intro slice member filled
      have used : 0 < filledSlices parked :=
        List.countP_pos_iff.mpr ⟨slice, member, decide_eq_true filled⟩
      omega
  · have rounds : filledSlices parked < stVideoRxSliceNum :=
      Nat.lt_of_le_of_lt List.countP_le_length length
    have merging := @rvSliceMerge_merged stVideoRxSliceNum (main.size + range.size) parked rounds
    refine ⟨_, _, _, ?_, merging.1, merging.2.1⟩
    simp only [rvSliceAdd, continues, none, ne_eq, not_true_eq_false, if_false]

theorem MergedTo.grows {got : Nat -> Prop} {main size final merged : Nat} {parked left : List RvSlice}
    (loop : MergedTo (main + size) parked final left merged) (collected : Collected got main parked) :
    main ≤ final := by
  by_contra shrinks
  have start := (loop.bytes final).mpr (Or.inl (by omega))
  rcases start with low | ⟨slice, member, covers⟩
  · omega
  · have filled : slice.size ≠ 0 := by
      intro empty
      unfold RvSlice.Covers at covers
      omega
    have far := collected.beyond slice (loop.stays slice member filled) filled
    have near := covers.1
    omega

/-- A count is told only when it is more than the last one. -/
theorem notified_told {notified : List Nat} {before after : Nat} (last : notified.getLastD 0 = before)
    (below : ∀ count ∈ notified, count ≤ before) (increasing : notified.Pairwise (· < ·))
    (more : before ≤ after) :
    let told := if decide (before < after) then notified ++ [after] else notified
    told.getLastD 0 = after ∧ (∀ count ∈ told, count ≤ after) ∧ told.Pairwise (· < ·) := by
  intro told
  by_cases further : before < after
  · have appended : told = notified ++ [after] := if_pos (decide_eq_true further)
    rw [appended]
    refine ⟨List.getLastD_concat, ?_, ?_⟩
    · intro count member
      rcases List.mem_append.mp member with old | new
      · exact Nat.le_trans (below count old) more
      · exact Nat.le_of_eq (List.mem_singleton.mp new)
    · refine List.pairwise_append.mpr ⟨increasing, List.pairwise_singleton _ _, ?_⟩
      intro count member new same
      rw [List.mem_singleton.mp same]
      exact Nat.lt_of_le_of_lt (below count member) further
  · have same : before = after := Nat.le_antisymm more (Nat.le_of_not_lt further)
    have still : told = notified := if_neg (fun isTrue => further (of_decide_eq_true isTrue))
    rw [still, ← same]
    exact ⟨last, below, increasing⟩

section Steps

variable {cfg : RvConfig} {got : List RvSlice} {s : SliceRun} {range : RvSlice} (sound : s.Sound cfg got)
  (fresh : forall byte, range.Covers byte -> ¬ Covered got byte)

include sound fresh

/-- The main slice grows and the loop takes in what it reaches. -/
theorem SliceRun.Sound.grow (continues : range.offset = s.info.mainSlice.size) :
    (rvSliceStep cfg s range).Sound cfg (got ++ [range]) := by
  rcases s with ⟨⟨slices, readySlices, extraSlices⟩, notified⟩
  rcases slices with _ | ⟨main, parked⟩
  · cases sound.shape
  have length : parked.length < stVideoRxSliceNum := sound.length
  have collected : Collected (Covered got) main.size parked := sound.collected
  have extra : filledSlices parked ≤ extraSlices := sound.extra
  have ready : readySlices = main.size / cfg.sliceSize := sound.ready
  have reached : range.offset = main.size := continues
  rcases @rvSliceAdd_continues cfg main range parked readySlices extraSlices reached length extra with
    ⟨final, left, merged, answer, loop, stable⟩
  have more : readySlices ≤ final / cfg.sliceSize := ready ▸ Nat.div_le_div_right (loop.grows collected)
  have told : (if decide (readySlices < final / cfg.sliceSize) then final / cfg.sliceSize
      else readySlices) = final / cfg.sliceSize := by
    split
    · rfl
    · next still =>
        rw [decide_eq_true_eq] at still
        omega
  rcases notified_told sound.last sound.below sound.increasing more with ⟨last, below, increasing⟩
  unfold rvSliceStep
  rw [answer, told]
  refine ⟨rfl, loop.length ▸ length, ?_, ?_, rfl, last, below, increasing⟩
  · exact (collected.extend fresh reached loop stable).congr (covered_snoc got range)
  · have count := loop.count
    show filledSlices left ≤ extraSlices - merged
    omega

/-- The range is parked. -/
theorem SliceRun.Sound.park (placed : SlicePlaced cfg s range)
    (apart : range.offset ≠ s.info.mainSlice.size) :
    (rvSliceStep cfg s range).Sound cfg (got ++ [range]) := by
  rcases s with ⟨⟨slices, readySlices, extraSlices⟩, notified⟩
  rcases slices with _ | ⟨main, parked⟩
  · cases sound.shape
  have elsewhere : ¬ range.offset = main.size := apart
  cases park : rvSlicePark range.offset range.size parked with
  | none =>
    simp [SlicePlaced, rvSliceAdd, elsewhere, park] at placed
  | some found =>
    rcases found with ⟨left, added⟩
    have parkedIn := rvSlicePark_parkedIn park
    have answer : rvSliceAdd cfg ⟨main :: parked, readySlices, extraSlices⟩ range.offset
        range.size =
          { info := ⟨main :: left, readySlices, extraSlices + if added then 1 else 0⟩
            failed := false, merged := 0, ready := false } := by
      simp only [rvSliceAdd, elsewhere, park, ne_eq, not_false_eq_true, if_true]
    unfold rvSliceStep
    rw [answer]
    refine ⟨rfl, ?_, ?_, ?_, sound.ready, sound.last, sound.below, sound.increasing⟩
    · rcases parkedIn.place with ⟨front, slice, grown, rest, before, after, -⟩
      have length : parked.length < stVideoRxSliceNum := sound.length
      show left.length < stVideoRxSliceNum
      rw [before] at length
      rw [after]
      simpa using length
    · exact (Collected.park sound.collected fresh elsewhere parkedIn).congr (covered_snoc got range)
    · have count := parkedIn.count
      have extra : filledSlices parked ≤ extraSlices := sound.extra
      show filledSlices left ≤ extraSlices + if added then 1 else 0
      omega

/-- What a call that does not fail does to the slices. -/
theorem SliceRun.Sound.step (placed : SlicePlaced cfg s range) :
    (rvSliceStep cfg s range).Sound cfg (got ++ [range]) := by
  by_cases continues : range.offset = s.info.mainSlice.size
  · exact sound.grow fresh continues
  · exact sound.park fresh placed continues

end Steps

theorem SliceRun.Sound.run {cfg : RvConfig} {got ranges : List RvSlice} {s : SliceRun}
    (sound : s.Sound cfg got) (apart : (got ++ ranges).Pairwise RvSlice.Apart)
    (placed : Admitted (rvSliceStep cfg) (SlicePlaced cfg) s ranges) :
    (run (rvSliceStep cfg) s ranges).Sound cfg (got ++ ranges) := by
  induction ranges generalizing got s with
  | nil => rwa [List.append_nil]
  | cons range rest ih =>
    have fresh : forall byte, range.Covers byte -> ¬ Covered got byte := by
      rintro byte here ⟨slice, member, there⟩
      exact (List.pairwise_append.mp apart).2.2 slice member range List.mem_cons_self byte there here
    have again := ih (sound.step fresh placed.1) (by rwa [List.append_assoc]) placed.2
    rwa [List.append_assoc] at again

theorem slices_fit_word (ranges : List RvSlice) (apart : ranges.Pairwise RvSlice.Apart)
    (placed : Admitted (rvSliceStep cfg) (SlicePlaced cfg) SliceRun.start ranges)
    (inside : forall byte, Covered ranges byte -> byte < 4294967295) :
    let final := run (rvSliceStep cfg) SliceRun.start ranges
    final.info.mainSlice.size < 4294967296 ∧
      ∀ slice ∈ final.info.parked, slice.size ≠ 0 ->
        slice.offset + slice.size < 4294967296 := by
  have bytes := ((SliceRun.start_sound cfg).run (by rwa [List.nil_append]) placed).collected.bytes
  rw [List.nil_append] at bytes
  constructor
  · by_contra past
    exact absurd (inside 4294967295 ((bytes _).mpr (Or.inl (by omega)))) (Nat.lt_irrefl _)
  · intro slice member filled
    have last : slice.Covers (slice.offset + slice.size - 1) := by
      unfold RvSlice.Covers
      omega
    have low := inside _ ((bytes _).mpr (Or.inr ⟨slice, member, last⟩))
    omega

/-- After any ranges that share no byte and found a place, in any order, the
main slice ends at the first byte that is missing, the parked slices hold the
other bytes apart from it and from each other, and the slices that are ready
have been told in increasing numbers, the last of which counts those in the
main slice.  The merge loop ends within its rounds, and no sum leaves its word when no byte does. -/
theorem slices_collected (cfg : RvConfig) (ranges : List RvSlice)
    (apart : ranges.Pairwise RvSlice.Apart)
    (placed : Admitted (rvSliceStep cfg) (SlicePlaced cfg) SliceRun.start ranges) :
    let final := run (rvSliceStep cfg) SliceRun.start ranges
    let main := final.info.mainSlice.size
    IsLeast { byte | ¬ Covered ranges byte } main ∧
      (forall byte, Covered ranges byte <-> byte < main ∨ Covered final.info.parked byte) ∧
      final.info.parked.Pairwise RvSlice.Apart ∧
      (∀ slice ∈ final.info.parked, slice.size ≠ 0 -> main < slice.offset) ∧
      final.notified.Pairwise (· < ·) ∧
      final.notified.getLastD 0 = main / cfg.sliceSize ∧
      (forall start more, rvSliceMerge (stVideoRxSliceNum + more) start final.info.parked =
        rvSliceMerge stVideoRxSliceNum start final.info.parked) ∧
      ((forall byte, Covered ranges byte -> byte < 4294967295) -> main < 4294967296 ∧
        ∀ slice ∈ final.info.parked, slice.size ≠ 0 -> slice.offset + slice.size < 4294967296) := by
  have sound := (SliceRun.start_sound cfg).run (by rwa [List.nil_append]) placed
  rw [List.nil_append] at sound
  refine ⟨sound.collected.least, sound.collected.bytes, sound.collected.apart,
    sound.collected.beyond, sound.increasing, sound.last.trans sound.ready, fun start more => ?_,
    slices_fit_word cfg ranges apart placed⟩
  exact (rvSliceMerge_merged (Nat.lt_of_le_of_lt List.countP_le_length sound.length)).2.2 more

/-- A receiver of eight lines of ten bytes, one line in a slice. -/
def sliceRxConfig : RvConfig :=
  { ops :=
      { width := 4, height := 8, fmt := .yuv422Bit10, interlaced := false, linesize := 0
        payloadType := 112, ssrc := 0, numPort := 1, type := .sliceLevel, framebuffCnt := 3
        sliceLines := 1, uframeSize := 0, receiveIncompleteFrame := true, enableRtcp := false
        queryExtFrame := false }
    st22 := none, st20Pg := st20GetPgroup .yuv422Bit10, st20BytesInLine := 10, st20Linesize := 10
    st20FbSize := 80, st20FrameSize := 80, st20FrameBitmapSize := 2, sliceLines := 1
    sliceSize := 10, slotMax := 1, userMetaBufferSize := 1024 }

theorem slices_collected_late :
    let final := run (rvSliceStep sliceRxConfig) SliceRun.start [⟨20, 10⟩, ⟨10, 10⟩, ⟨0, 10⟩]
    final.info.mainSlice.size = 30 ∧ ¬ Covered [⟨20, 10⟩, ⟨10, 10⟩, ⟨0, 10⟩] 30 := by
  have collected := slices_collected sliceRxConfig [⟨20, 10⟩, ⟨10, 10⟩, ⟨0, 10⟩]
    (List.Pairwise.imp RvSlice.apart_of_ends (by decide)) (by decide +kernel)
  have size : (run (rvSliceStep sliceRxConfig) SliceRun.start
      [⟨20, 10⟩, ⟨10, 10⟩, ⟨0, 10⟩]).info.mainSlice.size = 30 := by decide +kernel
  have missing := collected.1.1
  rw [size] at missing
  exact ⟨size, missing⟩

/-- The parked slices are in the order of their offsets, and every number of
ready slices has been told. -/
def SliceRun.InOrder : Prop :=
  (s.info.parked.filter (fun slice => slice.size ≠ 0)).Pairwise
      (fun first second => first.offset < second.offset) ∧
    s.notified = List.range' 1 (s.info.mainSlice.size / cfg.sliceSize)

/-- The third line is parked before the second, and the slices are not sorted.
When three lines are parked and the first one comes, four slices are ready and
only the fourth is told. -/
theorem parked_unsorted_ready_skips :
    rvAttach 1024 sliceRxConfig.ops none = .ok sliceRxConfig ∧
      ¬ (forall ranges : List RvSlice, ranges.Pairwise RvSlice.Apart ->
        Admitted (rvSliceStep sliceRxConfig) (SlicePlaced sliceRxConfig) SliceRun.start ranges ->
        (run (rvSliceStep sliceRxConfig) SliceRun.start ranges).InOrder sliceRxConfig) ∧
      ¬ ((run (rvSliceStep sliceRxConfig) SliceRun.start [⟨20, 5⟩, ⟨10, 5⟩]).info.parked.filter
          (fun slice => slice.size ≠ 0)).Pairwise (fun first second => first.offset < second.offset) ∧
      (run (rvSliceStep sliceRxConfig) SliceRun.start [⟨10, 30⟩, ⟨0, 10⟩]).notified = [4] := by
  have unsorted : ¬ ((run (rvSliceStep sliceRxConfig) SliceRun.start
      [⟨20, 5⟩, ⟨10, 5⟩]).info.parked.filter (fun slice => slice.size ≠ 0)).Pairwise
        (fun first second => first.offset < second.offset) := by decide +kernel
  refine ⟨rfl, fun always => unsorted ?_, unsorted, by decide +kernel⟩
  exact (always [⟨20, 5⟩, ⟨10, 5⟩] (List.Pairwise.imp RvSlice.apart_of_ends (by decide))
    (by decide +kernel)).1

end MediaTransport.Video
