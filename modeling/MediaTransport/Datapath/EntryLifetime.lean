import MediaTransport.Datapath.SharedRss

namespace MediaTransport.Datapath

open Library

/-!
# Lifetime of shared RSS entries

A removed entry is handed packets only by a handler that still has packets gathered for it,
or has read it as the system queue's entry; and an address and port are there twice only
when one get inserts them between the check and the insertion of another.
-/

/-! ## What is promised -/

variable (s : SrssState)

/-- The second event does not hand packets to what the first has removed. -/
def SrssEvent.Apart : SrssEvent -> SrssEvent -> Prop
  | .removed entry, .enqueued other _ => entry ≠ other
  | _, _ => True

instance : DecidableRel SrssEvent.Apart
  | .removed entry, .enqueued other _ => inferInstanceAs (Decidable (entry ≠ other))
  | .removed _, .removed _ => inferInstanceAs (Decidable True)
  | .enqueued _ _, _ => inferInstanceAs (Decidable True)

/-- No packets went to an entry after it was removed, and an address and port are in the lists once. -/
structure SrssState.Lifetime (s : SrssState) : Prop where
  ordered : s.log.Pairwise SrssEvent.Apart
  unique : forall (idx place : Nat) (entry other : MtSrssEntry), s.entries[idx]? = some entry ->
    s.entries[place]? = some other -> entry.inserted = true -> other.has entry.flow = true -> idx = place

/-- A handler has packets gathered for the entry, or is about to hand it one as the system entry. -/
def SrssHandler.uses (handler : SrssHandler) (idx : Nat) : Bool :=
  (decide (handler.lastEntry = some idx) && decide (handler.matchedPkts ≠ [])) ||
    decide (handler.phase = .enqueueCni (some idx))

/-- A removal that is not held up by the lock finds the entry used by no handler. -/
def SrssState.RemovalSafe (idx : Nat) : Prop :=
  ∀ entry ∈ s.entries[idx]?, s.unlocked (s.listByUdpPort entry.flow.dstPort) = true ->
    ∀ handler ∈ s.handlers, handler.uses idx = false

/-- An insertion that is not held up by the lock finds no entry of its address and port that came since its
check. -/
def SrssState.InsertSafe (flow : MtRxqFlow) (checked : Nat) : Prop :=
  s.unlocked (s.listByUdpPort flow.dstPort) = true ->
    ∀ entry ∈ s.entries.drop checked, entry.has flow = false

def SrssState.CallSafe : SrssCall -> Prop
  | .put idx .remove => s.RemovalSafe idx
  | .get flow _ (.insert checked) => s.InsertSafe flow checked
  | _ => True

def LifetimeSafe : SrssInput -> Prop
  | .call k _ => ∀ call ∈ s.calls[k]?, s.CallSafe call
  | _ => True

instance (s : SrssState) (idx : Nat) : Decidable (s.RemovalSafe idx) :=
  inferInstanceAs (Decidable (∀ entry ∈ s.entries[idx]?,
    s.unlocked (s.listByUdpPort entry.flow.dstPort) = true ->
      ∀ handler ∈ s.handlers, handler.uses idx = false))

instance (s : SrssState) (flow : MtRxqFlow) (checked : Nat) : Decidable (s.InsertSafe flow checked) :=
  inferInstanceAs (Decidable (s.unlocked (s.listByUdpPort flow.dstPort) = true ->
    ∀ entry ∈ s.entries.drop checked, entry.has flow = false))

instance (s : SrssState) : DecidablePred s.CallSafe
  | .put idx .remove => inferInstanceAs (Decidable (s.RemovalSafe idx))
  | .get flow _ (.insert checked) => inferInstanceAs (Decidable (s.InsertSafe flow checked))
  | .put _ .check | .put _ .clear | .put _ .free | .put _ .finished | .put _ .unknown =>
    inferInstanceAs (Decidable True)
  | .get _ _ .check | .get _ _ (.create _) | .get _ _ (.returned _) | .get _ _ .failed =>
    inferInstanceAs (Decidable True)

instance (s : SrssState) : DecidablePred (LifetimeSafe s)
  | .call k _ => inferInstanceAs (Decidable (∀ call ∈ s.calls[k]?, s.CallSafe call))
  | .rx _ | .handle _ | .get _ | .put _ => inferInstanceAs (Decidable True)

/-! ## The invariant -/

def SrssState.Live (idx : Nat) : Prop :=
  exists entry, s.entries[idx]? = some entry ∧ entry.inserted = true

def GetPhase.checked : GetPhase -> Option Nat
  | .create checked | .insert checked => some checked
  | .check | .returned _ | .failed => none

def SrssState.Checked (flow : MtRxqFlow) (checked : Nat) : Prop :=
  checked ≤ s.entries.length ∧ forall place entry, place < checked -> s.entries[place]? = some entry ->
    entry.has flow = false

/-- What is used is there: what handlers have gathered packets for, and the system entry, which no put is about
to remove. -/
structure SrssState.Alive (s : SrssState) : Prop where
  lifetime : s.Lifetime
  gone : forall idx, SrssEvent.removed idx ∈ s.log ->
    exists entry, s.entries[idx]? = some entry ∧ entry.inserted = false
  used : ∀ handler ∈ s.handlers, forall idx, handler.uses idx = true -> s.Live idx
  cni : forall idx, s.cniEntry = some idx -> s.Live idx ∧ SrssCall.put idx .remove ∉ s.calls
  puts : forall idx phase, SrssCall.put idx phase ∈ s.calls -> idx < s.entries.length
  gets : forall flow idx phase checked, SrssCall.get flow idx phase ∈ s.calls -> phase.checked = some checked ->
    s.Checked flow checked

theorem mtSrssInit_alive (listsSz : Nat) : (mtSrssInit listsSz).Alive := by
  constructor
  · constructor
    · exact List.Pairwise.nil
    · intro idx place entry other present
      cases present
  · exact fun _ impossible => nomatch impossible
  · exact fun _ impossible => nomatch impossible
  · exact fun _ impossible => nomatch impossible
  · exact fun _ _ impossible => nomatch impossible
  · exact fun _ _ _ _ impossible => nomatch impossible

/-! ## Handlers -/

theorem SrssHandler.uses_iff {handler : SrssHandler} {idx : Nat} :
    handler.uses idx = true <-> (handler.lastEntry = some idx ∧ handler.matchedPkts ≠ []) ∨
      handler.phase = .enqueueCni (some idx) := by
  simp [SrssHandler.uses]

def HandlerPhase.quiet : HandlerPhase -> Bool
  | .enqueueCni _ => false
  | _ => true

theorem HandlerPhase.ne_of_quiet {phase : HandlerPhase} (quiet : phase.quiet = true) (entry : Option Nat) :
    phase ≠ .enqueueCni entry := by
  rintro rfl
  cases quiet

theorem SrssHandler.not_uses {handler : SrssHandler} (nothing : handler.matchedPkts = [])
    (quiet : handler.phase.quiet = true) (idx : Nat) : handler.uses idx ≠ true := by
  intro uses
  rcases SrssHandler.uses_iff.mp uses with ⟨_, some_⟩ | serving
  · exact some_ nothing
  · exact HandlerPhase.ne_of_quiet quiet _ serving

section Handlers

variable {s : SrssState} (alive : s.Alive)

include alive

theorem SrssState.Alive.setHandler {handler : SrssHandler}
    (own : forall idx, handler.uses idx = true -> s.Live idx) (k : Nat) : (s.setHandler k handler).Alive := by
  constructor
  · exact ⟨alive.lifetime.ordered, alive.lifetime.unique⟩
  · exact alive.gone
  · intro other member
    rcases List.mem_or_eq_of_mem_set member with old | rfl
    · exact alive.used other old
    · exact own
  · exact alive.cni
  · exact alive.puts
  · exact alive.gets

theorem SrssState.Alive.enqueue {idx : Nat} (live : s.Live idx) (pkts : List Mbuf) :
    (s.enqueue idx pkts).Alive := by
  constructor
  · constructor
    · apply List.pairwise_append.mpr
      refine ⟨alive.lifetime.ordered, List.pairwise_singleton _ _, ?_⟩
      intro before member after new
      rw [List.mem_singleton.mp new]
      cases before with
      | enqueued other pkts => trivial
      | removed other =>
        rintro rfl
        rcases live with ⟨entry, present, inserted⟩
        rcases alive.gone other member with ⟨same, presentSame, removed⟩
        cases present.symm.trans presentSame
        exact absurd (inserted.symm.trans removed) (by decide)
    · exact alive.lifetime.unique
  · intro other member
    rcases List.mem_append.mp member with old | new
    · exact alive.gone other old
    · cases List.mem_singleton.mp new
  · exact alive.used
  · exact alive.cni
  · exact alive.puts
  · exact alive.gets

variable {handler : SrssHandler} (own : forall idx, handler.uses idx = true -> s.Live idx)

include own

theorem SrssState.Alive.flush : (s.flush handler).Alive := by
  unfold SrssState.flush
  cases last : handler.lastEntry with
  | none => exact alive
  | some entry =>
    by_cases nothing : handler.matchedPkts = []
    · simpa [nothing] using alive
    · have live := own entry (SrssHandler.uses_iff.mpr (Or.inl ⟨last, nothing⟩))
      simpa [nothing] using alive.enqueue live handler.matchedPkts

end Handlers

theorem SrssState.flush_entries (handler : SrssHandler) : (s.flush handler).entries = s.entries := by
  unfold SrssState.flush
  split
  · split_ifs <;> rfl
  · rfl

theorem SrssState.live_flush {s : SrssState} (handler : SrssHandler) {idx : Nat} (live : s.Live idx) :
    (s.flush handler).Live idx := by
  rcases live with ⟨entry, present, inserted⟩
  exact ⟨entry, by rw [s.flush_entries]; exact present, inserted⟩

theorem SrssState.live_of_findIn {s : SrssState} {list : Nat} {hdr : MtUdpHdr} {idx : Nat}
    (found : s.findIn list hdr = some idx) : s.Live idx := by
  rcases List.findIdx?_eq_some_iff_getElem.mp found with ⟨bound, holds, _⟩
  have inserted : s.entries[idx].inserted = true := by
    rw [Bool.and_eq_true, Bool.and_eq_true] at holds
    exact holds.1.1
  exact ⟨s.entries[idx], List.getElem?_eq_getElem bound, inserted⟩

section Steps

variable {s : SrssState} (alive : s.Alive) {handler : SrssHandler}
  (own : forall idx, handler.uses idx = true -> s.Live idx)

include alive own

theorem SrssState.Alive.flushed (k : Nat) (next : SrssHandler) (nothing : next.matchedPkts = [])
    (quiet : next.phase.quiet = true) : ((s.flush handler).setHandler k next).Alive :=
  (alive.flush own).setHandler (fun idx uses => absurd uses (SrssHandler.not_uses nothing quiet idx)) k

theorem SrssState.Alive.carried (k : Nat) (next : SrssHandler) (entry : next.lastEntry = handler.lastEntry)
    (pkts : next.matchedPkts = handler.matchedPkts) (quiet : next.phase.quiet = true) :
    (s.setHandler k next).Alive := by
  apply alive.setHandler
  intro idx uses
  rcases SrssHandler.uses_iff.mp uses with ⟨last, some_⟩ | serving
  · exact own idx (SrssHandler.uses_iff.mpr (Or.inl ⟨entry ▸ last, pkts ▸ some_⟩))
  · exact absurd serving (HandlerPhase.ne_of_quiet quiet _)

theorem SrssState.Alive.matchPkt (looking : handler.phase = .look) (k list : Nat) (pkt : Mbuf)
    (rest : List Mbuf) : (s.matchPkt k handler list pkt rest).Alive := by
  unfold SrssState.matchPkt
  cases found : s.findIn list pkt.hdr with
  | none =>
    apply alive.flushed own k
    · rfl
    · rfl
  | some entry =>
    have live := SrssState.live_of_findIn found
    -- what the handler uses from now on is what it has found
    have only : forall (next : SrssHandler) (idx : Nat), next.uses idx = true ->
        next.lastEntry = some entry -> next.phase = .look -> idx = entry := by
      intro next idx uses last phase
      rcases SrssHandler.uses_iff.mp uses with ⟨same, _⟩ | serving
      · exact Option.some.inj (same.symm.trans last)
      · rw [phase] at serving
        cases serving
    dsimp only
    split_ifs with last
    · apply alive.setHandler
      intro idx uses
      obtain rfl := only _ idx uses last looking
      exact live
    · apply (alive.flush own).setHandler
      intro idx uses
      obtain rfl := only _ idx uses rfl looking
      exact SrssState.live_flush handler live

theorem SrssState.Alive.endBurst (looking : handler.phase = .look) (k : Nat) :
    (s.endBurst k handler).Alive := by
  unfold SrssState.endBurst
  split_ifs with some_
  · apply alive.flushed own k
    · rfl
    · show handler.phase.quiet = true
      rw [looking]
      rfl
  · cases handler.queues with
    | nil =>
      apply alive.carried own k
      · rfl
      · rfl
      · rfl
    | cons burst rest =>
      apply alive.setHandler
      intro idx uses
      refine absurd uses (SrssHandler.not_uses ?_ ?_ idx)
      · rfl
      · show handler.phase.quiet = true
        rw [looking]
        rfl

theorem SrssState.Alive.look (looking : handler.phase = .look) (k : Nat) : (s.look k handler).Alive := by
  unfold SrssState.look
  cases handler.pkts with
  | nil => exact alive.endBurst own looking k
  | cons pkt rest =>
    dsimp only
    split_ifs with other locked
    · apply alive.flushed own k
      · rfl
      · rfl
    · exact alive.matchPkt own looking k _ pkt rest
    · apply alive.carried own k
      · rfl
      · rfl
      · rfl

theorem SrssState.Alive.handle (k : Nat) : (s.handle k handler).Alive := by
  unfold SrssState.handle
  cases phase : handler.phase with
  | look => exact alive.look own phase k
  | lock list =>
    dsimp only
    split_ifs
    · apply alive.carried own k
      · rfl
      · rfl
      · rfl
    · exact alive
  | testCni =>
    cases s.cniEntry with
    | none =>
      apply alive.carried own k
      · rfl
      · rfl
      · rfl
    | some entry =>
      apply alive.carried own k
      · rfl
      · rfl
      · rfl
  | readCni =>
    apply alive.setHandler
    intro idx uses
    rcases SrssHandler.uses_iff.mp uses with batch | serving
    · exact own idx (SrssHandler.uses_iff.mpr (Or.inl batch))
    · have read : s.cniEntry = some idx := by simpa using serving
      exact (alive.cni idx read).1
  | enqueueCni entry =>
    cases entry with
    | none => exact alive
    | some entry =>
      have live := own entry (SrssHandler.uses_iff.mpr (Or.inr phase))
      have served := alive.enqueue live (handler.pkts.take 1)
      have ownStill : forall idx, handler.uses idx = true ->
          (s.enqueue entry (handler.pkts.take 1)).Live idx := own
      apply served.carried ownStill k
      · rfl
      · rfl
      · rfl
  | finished => exact alive

end Steps

/-! ## Calls -/

section Calls

variable {s : SrssState} (alive : s.Alive)

include alive

/-- A call may go on to a phase of which the same can be said. -/
theorem SrssState.Alive.setCall (k : Nat) (call : SrssCall)
    (cleared : forall idx, .put idx .remove = call -> s.cniEntry ≠ some idx)
    (bound : forall idx phase, .put idx phase = call -> idx < s.entries.length)
    (known : forall flow idx phase checked, .get flow idx phase = call -> phase.checked = some checked ->
      s.Checked flow checked) : (s.setCall k call).Alive := by
  constructor
  · exact ⟨alive.lifetime.ordered, alive.lifetime.unique⟩
  · exact alive.gone
  · exact alive.used
  · intro place system
    rcases alive.cni place system with ⟨live, free⟩
    refine ⟨live, ?_⟩
    intro member
    rcases List.mem_or_eq_of_mem_set member with old | new
    · exact free old
    · exact cleared place new system
  · intro place phase member
    rcases List.mem_or_eq_of_mem_set member with old | new
    · exact alive.puts place phase old
    · exact bound place phase new
  · intro flow place step checked member
    rcases List.mem_or_eq_of_mem_set member with old | new
    · exact alive.gets flow place step checked old
    · exact known flow place step checked new

theorem SrssState.Alive.setGet (k : Nat) (flow : MtRxqFlow) (idx : Nat) (phase : GetPhase)
    (known : forall checked, phase.checked = some checked -> s.Checked flow checked) :
    (s.setCall k (.get flow idx phase)).Alive := by
  apply alive.setCall k
  · exact nofun
  · exact nofun
  · rintro _ _ _ checked ⟨⟩
    exact known checked

theorem SrssState.Alive.setPut (k : Nat) {idx : Nat} (bound : idx < s.entries.length) (phase : PutPhase)
    (cleared : phase = .remove -> s.cniEntry ≠ some idx) : (s.setCall k (.put idx phase)).Alive := by
  apply alive.setCall k
  · rintro _ ⟨⟩
    exact cleared rfl
  · rintro _ _ ⟨⟩
    exact bound
  · exact nofun

theorem SrssState.Alive.setRings (rings : List Nat) : SrssState.Alive { s with rings := rings } :=
  ⟨⟨alive.lifetime.ordered, alive.lifetime.unique⟩, alive.gone, alive.used, alive.cni, alive.puts, alive.gets⟩

theorem SrssState.Alive.forget (idx : Nat) :
    SrssState.Alive { s with cniEntry := if s.cniEntry = some idx then none else s.cniEntry } := by
  refine ⟨⟨alive.lifetime.ordered, alive.lifetime.unique⟩, alive.gone, alive.used, ?_, alive.puts, alive.gets⟩
  intro place system
  dsimp only at system
  split_ifs at system
  exact alive.cni place system

end Calls

theorem MtSrssEntry.inserted_of_has {entry : MtSrssEntry} {flow : MtRxqFlow} (has : entry.has flow = true) :
    entry.inserted = true := by
  simp only [MtSrssEntry.has, Bool.and_eq_true] at has
  exact has.1.1

theorem MtSrssEntry.has_comm {entry other : MtSrssEntry} (inserted : entry.inserted = true)
    (same : other.has entry.flow = true) : entry.has other.flow = true := by
  simp only [MtSrssEntry.has, Bool.and_eq_true, decide_eq_true_eq] at same ⊢
  exact ⟨⟨inserted, same.1.2.symm⟩, same.2.symm⟩

/-- An insertion of an address and port that no entry has. -/
theorem SrssState.Alive.insert {s : SrssState} (alive : s.Alive) (flow : MtRxqFlow) (idx next : Nat)
    (fresh : ∀ entry ∈ s.entries, entry.has flow = false) :
    SrssState.Alive
      { s with
        entries := s.entries ++ [⟨flow, idx, true⟩]
        cniEntry := if flow.sysQueue then some s.entries.length else s.cniEntry
        entryIdx := next } := by
  have kept : forall {place : Nat} {entry : MtSrssEntry}, s.entries[place]? = some entry ->
      (s.entries ++ [⟨flow, idx, true⟩])[place]? = some entry := by
    intro place entry present
    rw [List.getElem?_append_left (List.getElem?_eq_some_iff.mp present).1]
    exact present
  have new : (s.entries ++ [⟨flow, idx, true⟩])[s.entries.length]? = some ⟨flow, idx, true⟩ := by
    rw [List.getElem?_append_right (Nat.le_refl _), Nat.sub_self]
    rfl
  have cases_ : forall {place : Nat} {entry : MtSrssEntry},
      (s.entries ++ [⟨flow, idx, true⟩])[place]? = some entry ->
        s.entries[place]? = some entry ∨ (place = s.entries.length ∧ entry = ⟨flow, idx, true⟩) := by
    intro place entry present
    rcases Nat.lt_trichotomy place s.entries.length with below | same | above
    · rw [List.getElem?_append_left below] at present
      exact Or.inl present
    · subst same
      exact Or.inr ⟨rfl, Option.some.inj (present.symm.trans new)⟩
    · have bound := (List.getElem?_eq_some_iff.mp present).1
      rw [List.length_append, List.length_singleton] at bound
      omega
  constructor
  · constructor
    · exact alive.lifetime.ordered
    · intro place other entry second present presentSecond inserted same
      rcases cases_ present with old | ⟨at_, rfl⟩
      · rcases cases_ presentSecond with oldSecond | ⟨_, rfl⟩
        · exact alive.lifetime.unique place other entry second old oldSecond inserted same
        · have has := MtSrssEntry.has_comm inserted same
          have free := fresh entry (List.mem_of_getElem? old)
          exact absurd (free.symm.trans has) Bool.false_ne_true
      · rcases cases_ presentSecond with oldSecond | ⟨atSecond, _⟩
        · have free := fresh second (List.mem_of_getElem? oldSecond)
          exact absurd (free.symm.trans same) Bool.false_ne_true
        · exact at_.trans atSecond.symm
  · intro place removed
    rcases alive.gone place removed with ⟨entry, present, out⟩
    exact ⟨entry, kept present, out⟩
  · intro handler member place uses
    rcases alive.used handler member place uses with ⟨entry, present, inserted⟩
    exact ⟨entry, kept present, inserted⟩
  · intro place system
    dsimp only at system
    split_ifs at system
    · cases system
      refine ⟨⟨_, new, rfl⟩, ?_⟩
      intro member
      exact Nat.lt_irrefl _ (alive.puts _ _ member)
    · rcases alive.cni place system with ⟨⟨entry, present, inserted⟩, free⟩
      exact ⟨⟨entry, kept present, inserted⟩, free⟩
  · intro place phase member
    have bound := alive.puts place phase member
    rw [List.length_append]
    omega
  · intro other place phase checked member has
    rcases alive.gets other place phase checked member has with ⟨bound, none⟩
    refine ⟨by rw [List.length_append]; omega, ?_⟩
    intro at_ entry early present
    dsimp only at present
    rw [List.getElem?_append_left (by omega)] at present
    exact none at_ entry early present

/-- A removal of an entry that no handler uses, and that is not the system entry. -/
theorem SrssState.Alive.remove {s : SrssState} (alive : s.Alive) {idx : Nat} {entry : MtSrssEntry}
    (present : s.entries[idx]? = some entry)
    (unused : ∀ handler ∈ s.handlers, handler.uses idx = false)
    (cleared : s.cniEntry ≠ some idx) :
    SrssState.Alive
      { s with
        entries := s.entries.set idx { entry with inserted := false }
        log := s.log ++ [.removed idx] } := by
  have others : forall {place : Nat}, place ≠ idx -> s.Live place ->
      exists other, (s.entries.set idx { entry with inserted := false })[place]? = some other ∧
        other.inserted = true := by
    rintro place apart ⟨other, there, inserted⟩
    refine ⟨other, ?_, inserted⟩
    rw [getElem?_replace present, if_neg apart]
    exact there
  -- whatever has an address and port after the removal had it before
  have before : forall {place : Nat} {other : MtSrssEntry},
      (s.entries.set idx { entry with inserted := false })[place]? = some other -> other.inserted = true ->
        s.entries[place]? = some other := by
    intro place other there inserted
    rcases getElem?_replace_cases present there with ⟨_, rfl⟩ | ⟨_, old⟩
    · cases inserted
    · exact old
  constructor
  · constructor
    · apply List.pairwise_append.mpr
      refine ⟨alive.lifetime.ordered, List.pairwise_singleton _ _, ?_⟩
      intro earlier _ later new
      rw [List.mem_singleton.mp new]
      cases earlier <;> trivial
    · intro place other one second there thereSecond inserted same
      have insertedSecond := MtSrssEntry.inserted_of_has same
      exact alive.lifetime.unique place other one second (before there inserted)
        (before thereSecond insertedSecond) inserted same
  · intro place removed
    by_cases same : place = idx
    · subst same
      refine ⟨{ entry with inserted := false }, ?_, rfl⟩
      rw [getElem?_replace present, if_pos rfl]
    · rcases List.mem_append.mp removed with old | new
      · rcases alive.gone place old with ⟨other, there, out⟩
        refine ⟨other, ?_, out⟩
        rw [getElem?_replace present, if_neg same]
        exact there
      · cases List.mem_singleton.mp new
        exact absurd rfl same
  · intro handler member place uses
    have apart : place ≠ idx := by
      rintro rfl
      exact absurd ((unused handler member).symm.trans uses) Bool.false_ne_true
    exact others apart (alive.used handler member place uses)
  · intro place system
    rcases alive.cni place system with ⟨live, free⟩
    have apart : place ≠ idx := by
      rintro rfl
      exact cleared system
    exact ⟨others apart live, free⟩
  · intro place phase member
    rw [List.length_set]
    exact alive.puts place phase member
  · intro flow place phase checked member has
    rcases alive.gets flow place phase checked member has with ⟨bound, none⟩
    refine ⟨by rw [List.length_set]; exact bound, ?_⟩
    intro at_ other early there
    by_contra same
    have same : other.has flow = true := eq_true_of_ne_false same
    have old := before there (MtSrssEntry.inserted_of_has same)
    exact absurd ((none at_ other early old).symm.trans same) Bool.false_ne_true

theorem SrssState.Alive.getStep {s : SrssState} (alive : s.Alive) {k idx : Nat} {flow : MtRxqFlow}
    {phase : GetPhase} (found : s.calls[k]? = some (.get flow idx phase))
    (safe : s.CallSafe (.get flow idx phase)) (allocated : Bool) :
    (s.getStep k flow idx phase allocated).Alive := by
  have member := List.mem_of_getElem? found
  unfold SrssState.getStep
  cases phase with
  | check =>
    dsimp only
    split_ifs with held taken
    · exact alive
    · exact alive.setGet k flow idx .failed (fun _ impossible => nomatch impossible)
    · apply alive.setGet k flow idx
      intro checked same
      cases same
      refine ⟨Nat.le_refl _, ?_⟩
      intro place entry _ present
      by_contra has
      exact taken (List.any_eq_true.mpr ⟨entry, List.mem_of_getElem? present, eq_true_of_ne_false has⟩)
  | create checked =>
    dsimp only
    split_ifs with fails
    · exact alive.setGet k flow idx .failed (fun _ impossible => nomatch impossible)
    · have created := alive.setGet k flow idx (.insert checked)
        (fun other same => alive.gets flow idx (.create checked) other member same)
      exact created.setRings _
  | insert checked =>
    dsimp only
    by_cases held : (!s.unlocked (s.listByUdpPort flow.dstPort)) = true
    · rw [if_pos held]
      exact alive
    · rw [if_neg held]
      have unlocked : s.unlocked (s.listByUdpPort flow.dstPort) = true := by simpa using held
      have returned := alive.setGet k flow idx (.returned s.entries.length)
        (fun _ impossible => nomatch impossible)
      apply returned.insert flow idx
      intro entry present
      rcases List.mem_iff_getElem?.mp present with ⟨place, there⟩
      by_cases early : place < checked
      · exact (alive.gets flow idx (.insert checked) checked member rfl).2 place entry early there
      · apply safe unlocked entry
        apply List.mem_iff_getElem?.mpr
        refine ⟨place - checked, ?_⟩
        rw [List.getElem?_drop, Nat.add_sub_cancel' (Nat.le_of_not_lt early)]
        exact there
  | returned entry => exact alive
  | failed => exact alive

theorem SrssState.Alive.putStep {s : SrssState} (alive : s.Alive) {k idx : Nat} {entry : MtSrssEntry}
    {phase : PutPhase} (found : s.calls[k]? = some (.put idx phase)) (present : s.entries[idx]? = some entry)
    (safe : s.CallSafe (.put idx phase)) : (s.putStep k idx entry phase).Alive := by
  have member := List.mem_of_getElem? found
  have bound := (List.getElem?_eq_some_iff.mp present).1
  unfold SrssState.putStep
  cases phase with
  | check =>
    dsimp only
    split_ifs
    · exact alive
    · exact alive.setPut k bound .clear (fun impossible => nomatch impossible)
    · exact alive.setPut k bound .unknown (fun impossible => nomatch impossible)
  | clear =>
    have forgotten := alive.forget idx
    apply forgotten.setPut k bound .remove
    intro _ system
    dsimp only at system
    split_ifs at system with same
    exact same system
  | remove =>
    dsimp only
    split_ifs with held
    · exact alive
    · have unlocked : s.unlocked (s.listByUdpPort entry.flow.dstPort) = true := by simpa using held
      have freeing := alive.setPut k bound .free (fun impossible => nomatch impossible)
      apply freeing.remove present
      · exact safe entry present unlocked
      · intro system
        exact (alive.cni idx system).2 member
  | free => exact (alive.setPut k bound .finished (fun impossible => nomatch impossible)).setRings _
  | finished => exact alive
  | unknown => exact alive

/-! ## Runs -/

/-- A step that meets the condition keeps the invariant. -/
theorem SrssState.Alive.step {s : SrssState} (alive : s.Alive) {input : SrssInput}
    (safe : LifetimeSafe s input) : (srssStep s input).Alive := by
  cases input with
  | rx bursts =>
    refine ⟨⟨alive.lifetime.ordered, alive.lifetime.unique⟩, alive.gone, ?_, alive.cni, alive.puts, alive.gets⟩
    intro handler member idx uses
    rcases List.mem_append.mp member with old | new
    · exact alive.used handler old idx uses
    · rw [List.mem_singleton.mp new] at uses
      exact absurd uses (SrssHandler.not_uses rfl rfl idx)
  | handle k =>
    simp only [srssStep]
    cases found : s.handlers[k]? with
    | none => exact alive
    | some handler => exact alive.handle (alive.used handler (List.mem_of_getElem? found)) k
  | get flow =>
    refine ⟨⟨alive.lifetime.ordered, alive.lifetime.unique⟩, alive.gone, alive.used, ?_, ?_, ?_⟩
    · intro idx system
      rcases alive.cni idx system with ⟨live, free⟩
      refine ⟨live, ?_⟩
      intro member
      rcases List.mem_append.mp member with old | new
      · exact free old
      · cases List.mem_singleton.mp new
    · intro idx phase member
      rcases List.mem_append.mp member with old | new
      · exact alive.puts idx phase old
      · cases List.mem_singleton.mp new
    · intro other idx phase checked member has
      rcases List.mem_append.mp member with old | new
      · exact alive.gets other idx phase checked old has
      · cases List.mem_singleton.mp new
        cases has
  | put idx =>
    simp only [srssStep]
    split_ifs with refused
    · exact alive
    · rw [Bool.or_eq_true, not_or, decide_eq_true_eq] at refused
      refine ⟨⟨alive.lifetime.ordered, alive.lifetime.unique⟩, alive.gone, alive.used, ?_, ?_, ?_⟩
      · intro place system
        rcases alive.cni place system with ⟨live, free⟩
        refine ⟨live, ?_⟩
        intro member
        rcases List.mem_append.mp member with old | new
        · exact free old
        · cases List.mem_singleton.mp new
      · intro place phase member
        rcases List.mem_append.mp member with old | new
        · exact alive.puts place phase old
        · cases List.mem_singleton.mp new
          exact Nat.lt_of_not_le refused.1
      · intro other place phase checked member has
        rcases List.mem_append.mp member with old | new
        · exact alive.gets other place phase checked old has
        · cases List.mem_singleton.mp new
  | call k allocated =>
    simp only [srssStep]
    cases found : s.calls[k]? with
    | none => exact alive
    | some call =>
      have safe := safe call found
      cases call with
      | get flow idx phase => exact alive.getStep found safe allocated
      | put idx phase =>
        cases present : s.entries[idx]? with
        | none => simpa [present] using alive
        | some entry => simpa [present] using alive.putStep found present safe

/-- In a run in which no put removes an entry that a handler still uses, and no get inserts an address and port
that came after its check, packets go to entries that are there and no address and port is there twice. -/
theorem entry_lifetime (listsSz : Nat) (inputs : List SrssInput)
    (safe : Admitted srssStep LifetimeSafe (mtSrssInit listsSz) inputs) :
    (run srssStep (mtSrssInit listsSz) inputs).Lifetime := by
  have alive := run_invariant srssStep LifetimeSafe SrssState.Alive (fun _ _ alive safe => alive.step safe)
    (mtSrssInit_alive listsSz) safe
  exact alive.lifetime

def flowTo (port : Nat) (sysQueue : Bool) : MtRxqFlow :=
  ⟨0x0201A8C0, port, false, false, sysQueue⟩

def udpTo (id port : Nat) : Mbuf :=
  ⟨id, ⟨0x0800, 17, 0x0201A8C0, 0x0101A8C0, port⟩⟩

def arpPacket : Mbuf :=
  ⟨9, ⟨0x0806, 0, 0, 0, 0⟩⟩

/-- A get, as the `k`-th call, from its start to its end. -/
def wholeGet (k : Nat) (flow : MtRxqFlow) : List SrssInput :=
  .get flow :: List.replicate 3 (.call k true)

/-- A put, as the `k`-th call, from its start to its end. -/
def wholePut (k idx : Nat) : List SrssInput :=
  .put idx :: List.replicate 4 (.call k true)

/-- Two gets that read one number check before either inserts, and the second one creates its ring when the
entry of the first is put again; a handler then serves two entries and the system queue. -/
def servedRun : List SrssInput :=
  wholeGet 0 (flowTo 0 true) ++
    [.get (flowTo 20000 false), .get (flowTo 20001 false), .call 1 true, .call 2 true, .call 1 true,
      .call 1 true] ++ wholePut 3 1 ++ [.call 2 true, .call 2 true] ++ wholeGet 4 (flowTo 20000 false) ++
    .rx [[udpTo 0 20000, arpPacket, udpTo 1 20001]] :: List.replicate 14 (.handle 0) ++ wholePut 5 3

theorem entry_lifetime_served :
    (run srssStep (mtSrssInit 63) servedRun).Lifetime ∧
      (run srssStep (mtSrssInit 63) servedRun).log =
        [.removed 1, .enqueued 3 [udpTo 0 20000], .enqueued 0 [arpPacket], .enqueued 2 [udpTo 1 20001],
          .removed 3] :=
  ⟨entry_lifetime 63 servedRun (by decide), by decide⟩

/-- An entry is put while the handler, with a packet for it, waits for the lock of another list. -/
def lateBatchRun : List SrssInput :=
  wholeGet 0 (flowTo 20000 false) ++ wholeGet 1 (flowTo 20001 false) ++
    .rx [[udpTo 0 20000, udpTo 1 20001]] :: List.replicate 5 (.handle 0) ++ wholePut 2 0 ++
      List.replicate 2 (.handle 0)

def lateSystemRun : List SrssInput :=
  wholeGet 0 (flowTo 0 true) ++ .rx [[arpPacket]] :: List.replicate 4 (.handle 0) ++ wholePut 1 0 ++
    [.handle 0]

/-- Two gets of one flow check before either inserts; a third entry, put again, gives their rings two names. -/
def twiceRun : List SrssInput :=
  [.get (flowTo 20000 false), .call 0 true] ++ wholeGet 1 (flowTo 20001 false) ++ wholePut 2 0 ++
    [.call 0 true, .get (flowTo 20000 false), .call 3 true, .call 3 true, .call 0 true, .call 3 true]

/-- Packets go to an entry that was removed, gathered or for the system queue, and a flow is there twice. -/
theorem entry_outlived :
    ¬ (run srssStep (mtSrssInit 63) lateBatchRun).Lifetime ∧
      ¬ (run srssStep (mtSrssInit 63) lateSystemRun).Lifetime ∧
      ¬ (run srssStep (mtSrssInit 63) twiceRun).Lifetime := by
  refine ⟨?_, ?_, ?_⟩
  · intro lifetime
    have ordered := lifetime.ordered
    revert ordered
    decide
  · intro lifetime
    have ordered := lifetime.ordered
    revert ordered
    decide
  · intro lifetime
    have same := lifetime.unique 1 2 ⟨flowTo 20000 false, 0, true⟩ ⟨flowTo 20000 false, 1, true⟩
      (by decide) (by decide) (by decide) (by decide)
    revert same
    decide

end MediaTransport.Datapath
