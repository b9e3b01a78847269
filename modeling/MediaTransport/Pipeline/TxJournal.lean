import MediaTransport.Library.Stages
import MediaTransport.Util.Session

namespace MediaTransport.Pipeline

open Library

/-!
# The order of a transmit pipeline

A transmit pipeline passes a frame from the application over a converter to the
transport.  A journal numbers the frames as the application gets them and notes
which of them the transport took.  It follows the pipeline as long as each of
the three takes the oldest frame that waits for it, and then the transport
takes the frames in the order in which the application got them.
-/

/-- What a call did with a frame: the application got it, a converter took it or gave it back, or the
transport took it. -/
inductive TxEvent where
  | quiet
  | got (idx : Nat)
  | taken (idx : Nat)
  | returned (idx : Nat)
  | sent (idx seqNumber : Nat)

/-- How often the application got a frame, the number of the last get of each frame, the frames that the
converter has in the order in which it took them, and of each frame that the transport took the number of
its get and its sequence number. -/
structure TxJournal where
  gets : Nat
  number : Nat -> Nat
  taken : List Nat
  sent : List (Nat × Nat)

def TxJournal.start : TxJournal := ⟨0, fun _ => 0, [], []⟩

def TxJournal.record (journal : TxJournal) : TxEvent -> TxJournal
  | .quiet => journal
  | .got idx =>
    { journal with
      gets := journal.gets + 1
      number := Function.update journal.number idx journal.gets }
  | .taken idx => { journal with taken := journal.taken ++ [idx] }
  | .returned idx => { journal with taken := journal.taken.erase idx }
  | .sent idx seqNumber =>
    { journal with sent := journal.sent ++ [(journal.number idx, seqNumber)] }

/-- The transport took the frames in the order in which the application got them, numbered with 32 bits. -/
structure TxJournal.InGetOrder (journal : TxJournal) : Prop where
  sorted : (journal.sent.map Prod.fst).Pairwise (· < ·)
  numbered : ∀ frame ∈ journal.sent, frame.2 = frame.1 % 4294967296

/-- Where each frame of a pipeline is, and its sequence number: 0 stands for the application, 1 for the
wait for a converter, 2 for the converter and 3 for the wait for the transport. -/
structure TxView where
  place : Nat -> Option Nat
  seqNumber : Nat -> Nat

def TxView.move (view : TxView) (idx : Nat) (place : Option Nat) : TxView :=
  { view with place := Function.update view.place idx place }

def TxView.get (view : TxView) (idx seqNumber : Nat) : TxView where
  place := Function.update view.place idx (some 0)
  seqNumber := Function.update view.seqNumber idx seqNumber

section Move

variable (view : TxView) (idx : Nat) (place : Option Nat)

@[simp] theorem TxView.move_self : (view.move idx place).place idx = place :=
  Function.update_self _ _ _

theorem TxView.move_of_ne {other : Nat} (different : other ≠ idx) :
    (view.move idx place).place other = view.place other :=
  Function.update_of_ne different _ _

@[simp] theorem TxView.get_self (seqNumber : Nat) : (view.get idx seqNumber).place idx = some 0 :=
  Function.update_self _ _ _

theorem TxView.get_of_ne {other : Nat} (different : other ≠ idx) (seqNumber : Nat) :
    (view.get idx seqNumber).place other = view.place other :=
  Function.update_of_ne different _ _

theorem TxView.move_eq_self (still : place = view.place idx) : view.move idx place = view := by
  rw [TxView.move, still, Function.update_eq_self]

end Move

section

variable {Frame : Type} (framebuffs : Nat -> Frame) (place : Frame -> Option Nat) (seqNumber : Frame -> Nat)

/-- The view of a pipeline whose frames tell their place and their number. -/
def TxView.of : TxView where
  place idx := place (framebuffs idx)
  seqNumber idx := seqNumber (framebuffs idx)

variable {idx : Nat} {frame : Frame}

theorem TxView.of_update (same : seqNumber frame = seqNumber (framebuffs idx)) :
    TxView.of (Function.update framebuffs idx frame) place seqNumber =
      (TxView.of framebuffs place seqNumber).move idx (place frame) := by
  unfold TxView.of TxView.move
  congr 1
  · exact Function.comp_update place framebuffs idx frame
  · refine (Function.comp_update seqNumber framebuffs idx frame).trans ?_
    rw [same]
    exact Function.update_eq_self idx _

theorem TxView.of_update_got (got : place frame = some 0) :
    TxView.of (Function.update framebuffs idx frame) place seqNumber =
      (TxView.of framebuffs place seqNumber).get idx (seqNumber frame) := by
  unfold TxView.of TxView.get
  congr 1
  · rw [<- got]
    exact Function.comp_update place framebuffs idx frame
  · exact Function.comp_update seqNumber framebuffs idx frame

end

/-- The journal of a pipeline with these frames. -/
structure TxJournal.Follows (journal : TxJournal) (framebuffCnt : Nat) (view : TxView) : Prop where
  stages : InStages view.place journal.number (journal.sent.map Prod.fst) journal.gets
  range : forall idx place, view.place idx = some place -> idx < framebuffCnt
  seq : forall idx place, view.place idx = some place ->
    view.seqNumber idx = journal.number idx % 4294967296
  taken : forall idx, idx ∈ journal.taken <-> view.place idx = some 2
  fifo : journal.taken.Pairwise (fun first second => journal.number first < journal.number second)
  numbered : ∀ frame ∈ journal.sent, frame.2 = frame.1 % 4294967296

variable {journal : TxJournal} {framebuffCnt : Nat} {view : TxView}

theorem TxJournal.Follows.inGetOrder (follows : journal.Follows framebuffCnt view) :
    journal.InGetOrder :=
  ⟨follows.stages.sorted, follows.numbered⟩

theorem TxJournal.start_follows (framebuffCnt : Nat) (seqNumber : Nat -> Nat) :
    TxJournal.start.Follows framebuffCnt ⟨fun _ => none, seqNumber⟩ where
  stages := InStages.empty _
  range idx place present := by cases present
  seq idx place present := by cases present
  taken idx := by
    constructor
    · intro member
      cases member
    · intro present
      cases present
  fifo := List.Pairwise.nil
  numbered frame member := by cases member

/-! ## The calls -/

section

variable (follows : journal.Follows framebuffCnt view)

include follows

variable {idx : Nat}

theorem TxJournal.Follows.carry {idx start : Nat}
    (here : view.place idx = some start) (goal : Option Nat) :
    (forall other place, (view.move idx goal).place other = some place -> other < framebuffCnt) ∧
    (forall other place, (view.move idx goal).place other = some place ->
      view.seqNumber other = journal.number other % 4294967296) := by
  constructor
  · intro other place found
    by_cases same : other = idx
    · rw [same]
      exact follows.range idx start here
    · rw [view.move_of_ne idx goal same] at found
      exact follows.range other place found
  · intro other place found
    by_cases same : other = idx
    · rw [same]
      exact follows.seq idx start here
    · rw [view.move_of_ne idx goal same] at found
      exact follows.seq other place found

theorem TxJournal.Follows.taken_move {goal : Option Nat} (elsewhere : view.place idx ≠ some 2)
    (target : goal ≠ some 2) (other : Nat) :
    other ∈ journal.taken <-> (view.move idx goal).place other = some 2 := by
  rw [follows.taken other]
  by_cases same : other = idx
  · subst same
    rw [view.move_self]
    exact ⟨fun found => absurd found elsewhere, fun found => absurd found target⟩
  · rw [view.move_of_ne idx goal same]

theorem TxJournal.Follows.leave (idx : Nat)
    (elsewhere : view.place idx ≠ some 2) : journal.Follows framebuffCnt (view.move idx none) := by
  have still : forall other place, (view.move idx none).place other = some place ->
      view.place other = some place := by
    intro other place found
    by_cases same : other = idx
    · rw [same, view.move_self] at found
      cases found
    · rw [view.move_of_ne idx none same] at found
      exact found
  constructor
  · apply follows.stages.leave
    intro other
    by_cases same : other = idx
    · exact Or.inr (same ▸ view.move_self idx none)
    · exact Or.inl (view.move_of_ne idx none same)
  · exact fun other place found => follows.range other place (still other place found)
  · exact fun other place found => follows.seq other place (still other place found)
  · exact follows.taken_move elsewhere (Option.some_ne_none 2).symm
  · exact follows.fifo
  · exact follows.numbered

theorem TxJournal.Follows.get {idx : Nat}
    (inside : idx < framebuffCnt) (free : view.place idx = none) :
    (journal.record (.got idx)).Follows framebuffCnt
      (view.get idx (journal.gets % 4294967296)) := by
  have unmoved : ∀ other ∈ journal.taken, other ≠ idx := by
    rintro other member rfl
    rw [follows.taken other, free] at member
    cases member
  constructor
  · exact follows.stages.enter free (view.get_self idx _) (fun other different =>
      view.get_of_ne idx different _)
  · intro other place found
    by_cases same : other = idx
    · rw [same]
      exact inside
    · rw [view.get_of_ne idx same] at found
      exact follows.range other place found
  · intro other place found
    by_cases same : other = idx
    · subst same
      simp [TxView.get, TxJournal.record]
    · rw [view.get_of_ne idx same] at found
      simpa [TxView.get, TxJournal.record, same] using follows.seq other place found
  · intro other
    show other ∈ journal.taken <-> _
    rw [follows.taken other]
    by_cases same : other = idx
    · subst same
      rw [free, view.get_self]
      decide
    · rw [view.get_of_ne idx same]
  · show journal.taken.Pairwise _
    apply follows.fifo.imp_of_mem
    intro first second left right before
    show Function.update journal.number idx _ first < Function.update journal.number idx _ second
    rw [Function.update_of_ne (unmoved first left), Function.update_of_ne (unmoved second right)]
    exact before
  · exact follows.numbered

theorem TxJournal.Follows.put {idx goal : Nat}
    (here : view.place idx = some 0)
    (oldest : forall other, view.place other = some 0 -> journal.number idx ≤ journal.number other)
    (target : goal = 1 ∨
      goal = 3 ∧ forall other, view.place other ≠ some 1 ∧ view.place other ≠ some 2) :
    journal.Follows framebuffCnt (view.move idx (some goal)) := by
  have first : FirstTo view.place journal.number idx goal := by
    intro other place found before
    rcases target with rfl | ⟨rfl, direct⟩
    · obtain rfl : place = 0 := by omega
      exact oldest other found
    · have absent := direct other
      have places : place = 0 ∨ place = 1 ∨ place = 2 := by omega
      rcases places with rfl | rfl | rfl
      · exact oldest other found
      · exact absurd found absent.1
      · exact absurd found absent.2
  have carried := follows.carry here (some goal)
  constructor
  · exact follows.stages.advance here (view.move_self idx _) (by omega)
      (fun other different => view.move_of_ne idx _ different) first
  · exact carried.1
  · exact carried.2
  · apply follows.taken_move
    · rw [here]
      decide
    · rcases target with rfl | ⟨rfl, -⟩ <;> decide
  · exact follows.fifo
  · exact follows.numbered

theorem TxJournal.Follows.take (here : view.place idx = some 1)
    (oldest : forall other, view.place other = some 1 -> journal.number idx ≤ journal.number other) :
    (journal.record (.taken idx)).Follows framebuffCnt (view.move idx (some 2)) := by
  have first : FirstTo view.place journal.number idx 2 := by
    intro other place found before
    have places : place = 0 ∨ place = 1 := by omega
    rcases places with rfl | rfl
    · exact Nat.le_of_lt (follows.stages.ahead idx other 1 0 here found (by omega))
    · exact oldest other found
  have carried := follows.carry here (some 2)
  constructor
  · exact follows.stages.advance here (view.move_self idx _) (by omega)
      (fun other different => view.move_of_ne idx _ different) first
  · exact carried.1
  · exact carried.2
  · intro other
    show other ∈ journal.taken ++ [idx] <-> _
    rw [List.mem_append, List.mem_singleton, follows.taken other]
    by_cases same : other = idx
    · subst same
      simp
    · rw [view.move_of_ne idx _ same]
      simp [same]
  · show (journal.taken ++ [idx]).Pairwise _
    rw [List.pairwise_append]
    refine ⟨follows.fifo, List.pairwise_singleton _ _, ?_⟩
    intro other member only single
    obtain rfl := List.mem_singleton.mp single
    exact follows.stages.ahead other only 2 1 ((follows.taken other).mp member) here (by omega)
  · exact follows.numbered

theorem TxJournal.Follows.giveBack (head : journal.taken.head? = some idx) {goal : Option Nat}
    (target : goal = none ∨ goal = some 3) :
    (journal.record (.returned idx)).Follows framebuffCnt (view.move idx goal) := by
  obtain ⟨rest, queue⟩ := List.head?_eq_some_iff.mp head
  have sorted := follows.fifo
  rw [queue, List.pairwise_cons] at sorted
  have here : view.place idx = some 2 := by
    rw [← follows.taken idx, queue]
    exact List.mem_cons_self
  have alone : idx ∉ rest := fun member => Nat.lt_irrefl _ (sorted.1 idx member)
  have queued : (journal.record (.returned idx)).taken = rest := by
    simp [TxJournal.record, queue]
  have carried := follows.carry here goal
  constructor
  · rcases target with rfl | rfl
    · apply follows.stages.leave
      intro other
      by_cases same : other = idx
      · exact Or.inr (same ▸ view.move_self idx none)
      · exact Or.inl (view.move_of_ne idx none same)
    · apply follows.stages.advance here (view.move_self idx _) (by omega)
        (fun other different => view.move_of_ne idx _ different)
      intro other place found before
      by_cases behind : place < 2
      · exact Nat.le_of_lt (follows.stages.ahead idx other 2 place here found behind)
      · obtain rfl : place = 2 := by omega
        have member := (follows.taken other).mpr found
        rw [queue, List.mem_cons] at member
        rcases member with rfl | later
        · exact Nat.le_refl _
        · exact Nat.le_of_lt (sorted.1 other later)
  · exact carried.1
  · exact carried.2
  · intro other
    rw [queued]
    by_cases same : other = idx
    · subst same
      rw [view.move_self]
      constructor
      · exact fun member => absurd member alone
      · rintro rfl
        rcases target with absent | absent <;> cases absent
    · rw [view.move_of_ne idx _ same, ← follows.taken other, queue, List.mem_cons]
      simp [same]
  · rw [queued]
    exact sorted.2
  · exact follows.numbered

theorem TxJournal.Follows.send (here : view.place idx = some 3)
    (oldest : forall other, view.place other = some 3 -> journal.number idx ≤ journal.number other)
    (bound : forall other place, view.place other = some place -> place ≤ 3) :
    (journal.record (.sent idx (view.seqNumber idx))).Follows framebuffCnt (view.move idx none) := by
  have left := follows.leave idx (by rw [here]; decide)
  constructor
  · show InStages _ _ ((journal.sent ++ [(journal.number idx, view.seqNumber idx)]).map Prod.fst) _
    rw [List.map_append]
    apply follows.stages.pass here (view.move_self idx none)
      (fun other different => view.move_of_ne idx none different)
    intro other place found
    by_cases behind : place < 3
    · exact Nat.le_of_lt (follows.stages.ahead idx other 3 place here found behind)
    · have within := bound other place found
      obtain rfl : place = 3 := by omega
      exact oldest other found
  · exact left.range
  · exact left.seq
  · exact left.taken
  · exact follows.fifo
  · intro frame member
    rcases List.mem_append.mp member with old | new
    · exact follows.numbered frame old
    · obtain rfl := List.mem_singleton.mp new
      exact follows.seq idx 3 here

end

/-! ## The frames with their journal -/

/-- How the frames of a pipeline tell where they are.  All of them are sane, and those that a search leaves
aside are dropped. -/
structure TxFrameKind (Frame : Type) where
  place : Frame -> Option Nat
  seqNumber : Frame -> Nat
  sane : Frame -> Prop
  dropped : Frame -> Prop

section

variable {Frame : Type} {kind : TxFrameKind Frame} {framebuffs : Nat -> Frame} {counter : Nat}
  {aside : Nat -> Prop}

/-- The journal follows the frames, and the counter of the sequence numbers goes with the gets. -/
structure TxFrameKind.Ordered (kind : TxFrameKind Frame) (framebuffCnt : Nat) (framebuffs : Nat -> Frame)
    (counter : Nat) (aside : Nat -> Prop) (journal : TxJournal) : Prop where
  follows : journal.Follows framebuffCnt (TxView.of framebuffs kind.place kind.seqNumber)
  counter : counter = journal.gets % 4294967296
  sane : forall idx, kind.sane (framebuffs idx)
  aside : forall idx, aside idx -> kind.dropped (framebuffs idx)

namespace TxFrameKind.Ordered

variable (ordered : kind.Ordered framebuffCnt framebuffs counter aside journal) {idx : Nat} {frame : Frame}

include ordered

theorem setFrame {later : TxJournal} (same : kind.seqNumber frame = kind.seqNumber (framebuffs idx))
    (follows : later.Follows framebuffCnt
      ((TxView.of framebuffs kind.place kind.seqNumber).move idx (kind.place frame)))
    (gets : later.gets = journal.gets) (sane : kind.sane frame)
    (kept : aside idx -> kind.dropped (framebuffs idx) -> kind.dropped frame) :
    kind.Ordered framebuffCnt (Function.update framebuffs idx frame) counter aside later := by
  refine ⟨?_, gets ▸ ordered.counter, fun other => ?_, fun other left => ?_⟩
  · rw [TxView.of_update _ _ _ same]
    exact follows
  · by_cases mine : other = idx
    · rw [mine, Function.update_self]
      exact sane
    · rw [Function.update_of_ne mine]
      exact ordered.sane other
  · have dropped := ordered.aside other left
    by_cases mine : other = idx
    · subst mine
      rw [Function.update_self]
      exact kept left dropped
    · rw [Function.update_of_ne mine]
      exact dropped

/-- A frame that stays where it is. -/
theorem unmoved (same : kind.seqNumber frame = kind.seqNumber (framebuffs idx))
    (place : kind.place frame = kind.place (framebuffs idx)) (sane : kind.sane frame)
    (kept : aside idx -> kind.dropped (framebuffs idx) -> kind.dropped frame) :
    kind.Ordered framebuffCnt (Function.update framebuffs idx frame) counter aside journal := by
  have still := (TxView.of framebuffs kind.place kind.seqNumber).move_eq_self idx _ place
  exact ordered.setFrame same (still.symm ▸ ordered.follows) rfl sane kept

theorem search {left : Nat -> Prop} (dropped : forall idx, left idx -> kind.dropped (framebuffs idx)) :
    kind.Ordered framebuffCnt framebuffs counter left journal :=
  ⟨ordered.follows, ordered.counter, ordered.sane, dropped⟩

/-- The search leaves its frame, which need not stay dropped. -/
theorem settle {left : Nat -> Prop} (nowhere : forall other, ¬ left other)
    (same : kind.seqNumber frame = kind.seqNumber (framebuffs idx))
    (place : kind.place frame = kind.place (framebuffs idx)) (sane : kind.sane frame) :
    kind.Ordered framebuffCnt (Function.update framebuffs idx frame) counter left journal :=
  unmoved (ordered.search fun other mine => absurd mine (nowhere other)) same place sane
    fun mine => absurd mine (nowhere idx)

theorem get (inside : idx < framebuffCnt) (free : kind.place (framebuffs idx) = none)
    (undropped : ¬ kind.dropped (framebuffs idx)) (got : kind.place frame = some 0)
    (number : kind.seqNumber frame = counter) (sane : kind.sane frame) :
    kind.Ordered framebuffCnt (Function.update framebuffs idx frame) ((counter + 1) % 4294967296) aside
      (journal.record (.got idx)) := by
  have follows := ordered.follows.get inside free
  rw [← ordered.counter, ← number] at follows
  refine ⟨?_, ?_, fun other => ?_, fun other left => ?_⟩
  · rw [TxView.of_update_got _ _ _ got]
    exact follows
  · show _ = (journal.gets + 1) % 4294967296
    rw [ordered.counter, Nat.mod_add_mod]
  · by_cases mine : other = idx
    · rw [mine, Function.update_self]
      exact sane
    · rw [Function.update_of_ne mine]
      exact ordered.sane other
  · have dropped := ordered.aside other left
    have different : other ≠ idx := by
      rintro rfl
      exact undropped dropped
    rw [Function.update_of_ne different]
    exact dropped

end TxFrameKind.Ordered

end

/-! ## The search for the oldest frame -/

/-- The frames that a call chooses from are fewer than half a circle of sequence numbers apart. -/
def TxJournal.Near (journal : TxJournal) (framebuffCnt : Nat) (candidate : Nat -> Prop) : Prop :=
  ∀ first < framebuffCnt, ∀ second < framebuffCnt,
    candidate first -> candidate second -> journal.number first < journal.number second + 2147483648

instance (framebuffCnt : Nat) (candidate : Nat -> Prop) [DecidablePred candidate] :
    Decidable (journal.Near framebuffCnt candidate) := by
  unfold TxJournal.Near
  infer_instance

theorem mtSeq32Greater_number {first second : Nat} (above : first < second + 2147483648)
    (below : second < first + 2147483648) :
    mtSeq32Greater (first % 4294967296 : Nat) (second % 4294967296 : Nat) = true <->
      second < first := by
  have wrapped : forall number : Nat, ((number % 4294967296 : Nat) : Int) = u32 number := by
    intro number
    rw [u32_eq]
    omega
  rw [wrapped, wrapped, mtSeq32Greater_iff (by omega) (by omega)]
  omega

/-- The scan of the frames in a state finds the one that was got first. -/
theorem TxJournal.Near.oldest {candidate : Nat -> Prop} [DecidablePred candidate]
    (near : journal.Near framebuffCnt candidate) {seqNumber : Nat -> Nat}
    (numbers : forall idx, candidate idx -> seqNumber idx = journal.number idx % 4294967296)
    {bound : Nat} (inside : bound ≤ framebuffCnt) :
    match (List.range bound).foldl
      (fun newest idx =>
        if candidate idx ∧ (newest.all fun other =>
            !mtSeq32Greater (seqNumber idx) (seqNumber other)) = true then some idx else newest)
      none with
    | none => ∀ idx < bound, ¬ candidate idx
    | some found => (candidate found ∧ found < bound) ∧
        ∀ idx < bound, candidate idx -> journal.number found ≤ journal.number idx := by
  induction bound with
  | zero => exact fun idx below => absurd below (Nat.not_lt_zero idx)
  | succ bound ih =>
    have ih := ih (by omega)
    rw [List.range_succ, List.foldl_append, List.foldl_cons, List.foldl_nil]
    generalize (List.range bound).foldl _ none = newest at ih
    cases newest with
    | none =>
      by_cases mine : candidate bound
      · simp only [mine, Option.all_none, and_self, if_true, true_and]
        refine ⟨Nat.lt_succ_self bound, fun idx below other => ?_⟩
        rcases Nat.lt_succ_iff_lt_or_eq.mp below with earlier | rfl
        · exact absurd other (ih idx earlier)
        · exact Nat.le_refl _
      · simp only [mine, false_and, if_false]
        intro idx below other
        rcases Nat.lt_succ_iff_lt_or_eq.mp below with earlier | rfl
        · exact ih idx earlier other
        · exact mine other
    | some found =>
      obtain ⟨⟨held, before⟩, least⟩ := ih
      by_cases mine : candidate bound
      · have compare := mtSeq32Greater_number
          (near bound (by omega) found (by omega) mine held)
          (near found (by omega) bound (by omega) held mine)
        rw [← numbers bound mine, ← numbers found held] at compare
        by_cases greater : mtSeq32Greater (seqNumber bound) (seqNumber found) = true
        · have later := compare.mp greater
          simp only [mine, greater, Option.all_some, Bool.not_true, Bool.false_eq_true, and_false,
            if_false]
          refine ⟨⟨held, by omega⟩, fun idx below other => ?_⟩
          rcases Nat.lt_succ_iff_lt_or_eq.mp below with earlier | rfl
          · exact least idx earlier other
          · exact Nat.le_of_lt later
        · have sooner := mt compare.mpr greater
          rw [Bool.not_eq_true] at greater
          simp only [mine, greater, Option.all_some, Bool.not_false, and_self, if_true, true_and]
          refine ⟨Nat.lt_succ_self bound, fun idx below other => ?_⟩
          rcases Nat.lt_succ_iff_lt_or_eq.mp below with earlier | rfl
          · exact Nat.le_trans (by omega) (least idx earlier other)
          · exact Nat.le_refl _
      · simp only [mine, false_and, if_false]
        refine ⟨⟨held, by omega⟩, fun idx below other => ?_⟩
        rcases Nat.lt_succ_iff_lt_or_eq.mp below with earlier | rfl
        · exact least idx earlier other
        · exact absurd other mine

/-- What the scan finds is the oldest frame at its place. -/
theorem TxJournal.Follows.oldest (follows : journal.Follows framebuffCnt view) {goal idx : Nat}
    {candidate : Nat -> Prop} [DecidablePred candidate]
    (places : forall other, view.place other = some goal <-> candidate other)
    (near : journal.Near framebuffCnt candidate)
    (found : (List.range framebuffCnt).foldl
      (fun newest idx =>
        if candidate idx ∧ (newest.all fun other =>
            !mtSeq32Greater (view.seqNumber idx) (view.seqNumber other)) = true then some idx else newest)
      none = some idx) :
    view.place idx = some goal ∧
      forall other, view.place other = some goal -> journal.number idx ≤ journal.number other := by
  have oldest := near.oldest
    (fun other held => follows.seq other goal ((places other).mpr held)) (Nat.le_refl framebuffCnt)
  rw [found] at oldest
  refine ⟨(places idx).mpr oldest.1.1, fun other present => ?_⟩
  exact oldest.2 other (follows.range other goal present) ((places other).mp present)

end MediaTransport.Pipeline
