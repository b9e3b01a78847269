import MediaTransport.Datapath.Demux

namespace MediaTransport.Datapath

/-!
# Delivery of received bursts

What the loop has logged and gathered is, for each entry, the packets seen so far that are for it.
-/

variable {idx : Nat} {pkt : Mbuf} {srss : MtSrssImpl}

/-- The entry that a packet is handed to: the one that was found, else the system queue's. -/
def dest (find : Mbuf -> Option Nat) (cniEntry : Option Nat) (pkt : Mbuf) : Option Nat :=
  (find pkt).or cniEntry

def RxState.gathered (s : RxState) (idx : Nat) : List Mbuf :=
  if s.lastEntry = some idx then s.matchedPkts else []

def kept (find : Mbuf -> Option Nat) (cniEntry : Option Nat) (freeUnmatched : Bool) (pkt : Mbuf) : Bool :=
  (dest find cniEntry pkt).isSome || freeUnmatched

def unwanted (find : Mbuf -> Option Nat) (cniEntry : Option Nat) (freeUnmatched : Bool) (pkt : Mbuf) : Bool :=
  (dest find cniEntry pkt).isNone && freeUnmatched

/-- The state after the packets `seen`. -/
structure RxState.Progress (entries : List RxEntry) (find : Mbuf -> Option Nat) (cniEntry : Option Nat)
    (freeUnmatched : Bool) (seen : List Mbuf) (s : RxState) : Prop where
  pending : s.lastEntry = none -> s.matchedPkts = []
  bound : forall idx, s.lastEntry = some idx -> idx < entries.length
  handled : (s.log.flatMap RxEvent.pkts ++ s.matchedPkts).Perm
    (seen.filter (kept find cniEntry freeUnmatched))
  sent : forall idx, s.log.flatMap (RxEvent.sentTo idx) ++ s.gathered idx =
    seen.filter (fun pkt => decide (dest find cniEntry pkt = some idx))
  dropped : s.log.flatMap RxEvent.droppedPkts = seen.filter (unwanted find cniEntry freeUnmatched)
  ledger : s.Ledger entries

section Loop

variable {entries : List RxEntry} {find : Mbuf -> Option Nat} {cniEntry : Option Nat} {freeUnmatched : Bool}
  {seen : List Mbuf} {s : RxState}

theorem RxState.Progress.updateEntry (progress : s.Progress entries find cniEntry freeUnmatched seen)
    {entry : Option Nat} (bound : forall idx, entry = some idx -> idx < entries.length) :
    (s.updateEntry entry).Progress entries find cniEntry freeUnmatched seen := by
  unfold RxState.updateEntry
  cases last : s.lastEntry with
  | none =>
    have nothing := progress.pending last
    constructor
    · exact fun _ => rfl
    · exact bound
    · simpa [nothing] using progress.handled
    · intro idx
      simpa [RxState.gathered, last, nothing] using progress.sent idx
    · exact progress.dropped
    · exact ⟨progress.ledger.length, progress.ledger.rings, progress.ledger.freed, progress.ledger.noRoom⟩
  | some own =>
    dsimp only
    split_ifs with nothing
    · constructor
      · exact fun _ => rfl
      · exact bound
      · simpa [nothing] using progress.handled
      · intro idx
        simpa [RxState.gathered, nothing] using progress.sent idx
      · exact progress.dropped
      · exact ⟨progress.ledger.length, progress.ledger.rings, progress.ledger.freed, progress.ledger.noRoom⟩
    · have inside : own < s.entries.length := by
        rw [progress.ledger.length]
        exact progress.bound own last
      rcases RxState.enqueue_log inside s.matchedPkts with ⟨_, _, event, log, pkts, dropped, sentTo⟩
      have ledger := progress.ledger.enqueue inside s.matchedPkts
      constructor
      · exact fun _ => rfl
      · exact bound
      · simpa [log, pkts] using progress.handled
      · intro idx
        have sent := progress.sent idx
        simp only [RxState.gathered, last, Option.some.injEq] at sent
        simpa [RxState.gathered, log, sentTo] using sent
      · simpa [log, dropped] using progress.dropped
      · exact ⟨ledger.length, ledger.rings, ledger.freed, ledger.noRoom⟩

theorem RxState.Progress.gather (progress : s.Progress entries find cniEntry freeUnmatched seen) {own : Nat}
    (found : find pkt = some own) (last : s.lastEntry = some own) :
    ({ s with matchedPkts := s.matchedPkts ++ [pkt] } : RxState).Progress entries find cniEntry freeUnmatched
      (seen ++ [pkt]) := by
  have goes : dest find cniEntry pkt = some own := by rw [dest, found]; rfl
  constructor
  · intro none
    exact absurd (last.symm.trans none) (Option.some_ne_none own)
  · exact progress.bound
  · have keeps : kept find cniEntry freeUnmatched pkt = true := by simp [kept, goes]
    rw [List.filter_append, List.filter_singleton, keeps, ← List.append_assoc]
    exact progress.handled.append_right [pkt]
  · intro idx
    rw [List.filter_append, ← progress.sent idx, List.append_assoc]
    by_cases same : own = idx
    · simp [RxState.gathered, last, goes, same]
    · simp [RxState.gathered, last, goes, same]
  · have wants : unwanted find cniEntry freeUnmatched pkt = false := by simp [unwanted, goes]
    simpa [List.filter_append, wants] using progress.dropped
  · exact ⟨progress.ledger.length, progress.ledger.rings, progress.ledger.freed, progress.ledger.noRoom⟩

/-- A packet that no entry was found for. -/
theorem RxState.Progress.toCni (progress : s.Progress entries find cniEntry freeUnmatched seen)
    (system : forall idx, cniEntry = some idx -> idx < entries.length) (found : find pkt = none)
    (last : s.lastEntry = none) :
    (s.toCni cniEntry freeUnmatched pkt).Progress entries find cniEntry freeUnmatched (seen ++ [pkt]) := by
  have nothing := progress.pending last
  have goes : dest find cniEntry pkt = cniEntry := by rw [dest, found]; rfl
  have handled := progress.handled
  have sent := progress.sent
  simp only [RxState.gathered, last, nothing, List.append_nil, reduceCtorEq, if_false] at handled sent
  unfold RxState.toCni
  cases cni : cniEntry with
  | some own =>
    rw [cni] at goes handled sent
    have inside : own < s.entries.length := by
      rw [progress.ledger.length]
      exact system own cni
    rcases RxState.enqueue_log inside [pkt] with ⟨lastSame, matchedSame, event, log, pkts, dropped, sentTo⟩
    constructor
    · intro _
      exact matchedSame.trans nothing
    · intro idx now
      exact progress.bound idx (lastSame ▸ now)
    · have keeps : kept find (some own) freeUnmatched pkt = true := by simp [kept, goes]
      rw [List.filter_append, List.filter_singleton, keeps, log, matchedSame, nothing, List.append_nil,
        List.flatMap_append, List.flatMap_singleton, pkts]
      exact handled.append_right [pkt]
    · intro idx
      have alone : (s.enqueue own [pkt]).gathered idx = [] := by
        simp [RxState.gathered, lastSame, last]
      rw [List.filter_append, ← sent idx, alone, log, List.append_nil, List.flatMap_append,
        List.flatMap_singleton, sentTo]
      by_cases same : own = idx
      · subst same
        simp [goes]
      · simp [goes, same]
    · have wants : unwanted find (some own) freeUnmatched pkt = false := by simp [unwanted, goes]
      have before := progress.dropped
      rw [cni] at before
      simpa [List.filter_append, wants, log, dropped] using before
    · exact progress.ledger.enqueue inside [pkt]
  | none =>
    rw [cni] at goes handled sent
    have before := progress.dropped
    rw [cni] at before
    dsimp only
    split_ifs with frees
    · constructor
      · exact fun _ => nothing
      · intro idx now
        exact progress.bound idx now
      · have keeps : kept find none freeUnmatched pkt = true := by simp [kept, frees]
        rw [List.filter_append, List.filter_singleton, keeps, nothing, List.append_nil,
          List.flatMap_append, List.flatMap_singleton]
        exact handled.append_right [pkt]
      · intro idx
        rw [List.filter_append, ← sent idx]
        simp [RxState.gathered, last, goes, RxEvent.sentTo]
      · have wants : unwanted find none freeUnmatched pkt = true := by simp [unwanted, goes, frees]
        simpa [List.filter_append, wants, RxEvent.droppedPkts] using before
      · constructor
        · exact progress.ledger.length
        · intro idx entry was
          rcases progress.ledger.rings idx entry was with ⟨now, present, ring⟩
          exact ⟨now, present, by simp [ring, RxEvent.enqueuedTo]⟩
        · simp [progress.ledger.freed, RxEvent.freedPkts]
        · intro idx lost member
          rcases List.mem_append.mp member with old | new
          · exact progress.ledger.noRoom idx lost old
          · cases List.mem_singleton.mp new
    · constructor
      · exact fun _ => nothing
      · exact progress.bound
      · have keeps : kept find none freeUnmatched pkt = false := by simp [kept, goes, frees]
        simpa [List.filter_append, keeps, nothing] using handled
      · intro idx
        rw [List.filter_append, ← sent idx]
        simp [RxState.gathered, last, goes]
      · have wants : unwanted find none freeUnmatched pkt = false := by simp [unwanted, frees]
        simpa [List.filter_append, wants] using before
      · exact progress.ledger

theorem RxState.Progress.demuxPkt (progress : s.Progress entries find cniEntry freeUnmatched seen)
    (known : forall pkt idx, find pkt = some idx -> idx < entries.length)
    (system : forall idx, cniEntry = some idx -> idx < entries.length) (pkt : Mbuf) :
    (demuxPkt find cniEntry freeUnmatched s pkt).Progress entries find cniEntry freeUnmatched
      (seen ++ [pkt]) := by
  unfold Datapath.demuxPkt
  cases found : find pkt with
  | none =>
    have flushed : (s.updateEntry none).Progress entries find cniEntry freeUnmatched seen :=
      progress.updateEntry (fun idx impossible => nomatch impossible)
    exact flushed.toCni system found rfl
  | some own =>
    dsimp only
    by_cases last : s.lastEntry = some own
    · rw [if_pos last]
      exact progress.gather found last
    · rw [if_neg last]
      have flushed : (s.updateEntry (some own)).Progress entries find cniEntry freeUnmatched seen := by
        apply progress.updateEntry
        intro idx same
        cases same
        exact known pkt own found
      exact flushed.gather found rfl

theorem RxState.Progress.loop (known : forall pkt idx, find pkt = some idx -> idx < entries.length)
    (system : forall idx, cniEntry = some idx -> idx < entries.length) (pkts : List Mbuf) :
    forall {seen : List Mbuf} {s : RxState}, s.Progress entries find cniEntry freeUnmatched seen ->
      (pkts.foldl (Datapath.demuxPkt find cniEntry freeUnmatched) s).Progress entries find cniEntry
        freeUnmatched (seen ++ pkts) := by
  induction pkts with
  | nil =>
    intro seen s progress
    rw [List.append_nil]
    exact progress
  | cons pkt pkts induction =>
    intro seen s progress
    have rest := induction (progress.demuxPkt known system pkt)
    rwa [List.append_assoc] at rest

theorem RxState.Progress.start :
    RxState.Progress entries find cniEntry freeUnmatched [] ⟨entries, none, [], [], []⟩ := by
  constructor
  · exact fun _ => rfl
  · exact fun _ impossible => nomatch impossible
  · exact List.Perm.nil
  · intro idx
    rfl
  · rfl
  · constructor
    · rfl
    · intro idx entry present
      exact ⟨entry, present, (List.append_nil _).symm⟩
    · rfl
    · exact fun _ _ impossible => nomatch impossible

/-! ## What is delivered -/

/-- When nothing is gathered any more, the promise is kept exactly when each packet that no entry is found
for is one that no entry matches, or that the system queue's entry matches, and has somewhere to go. -/
theorem RxState.Progress.keeps_promise_iff {matched : RxEntry -> Mbuf -> Bool}
    (progress : s.Progress entries find cniEntry freeUnmatched seen) (nothing : s.matchedPkts = [])
    (right : forall pkt idx, find pkt = some idx ->
      exists entry, entries[idx]? = some entry ∧ matched entry pkt = true) :
    Demuxed matched entries cniEntry seen s <->
      ∀ pkt ∈ seen, find pkt = none ->
        (cniEntry = none -> freeUnmatched = true) ∧
          ((∀ entry ∈ entries, matched entry pkt = false) ∨
            exists idx entry, cniEntry = some idx ∧ entries[idx]? = some entry ∧ matched entry pkt = true) := by
  have handled := progress.handled
  have sent : forall idx, s.log.flatMap (RxEvent.sentTo idx) =
      seen.filter (fun pkt => decide (dest find cniEntry pkt = some idx)) := by
    intro idx
    rw [← progress.sent idx, RxState.gathered, nothing, ite_self, List.append_nil]
  rw [nothing, List.append_nil] at handled
  constructor
  · intro demuxed pkt member found
    have goes : dest find cniEntry pkt = cniEntry := by rw [dest, found]; rfl
    have keeps : kept find cniEntry freeUnmatched pkt = true := by
      have there := handled.subset (demuxed.once.symm.subset member)
      exact (List.mem_filter.mp there).2
    refine ⟨?_, ?_⟩
    · intro cni
      simpa [kept, goes.trans cni] using keeps
    · cases cni : cniEntry with
      | none =>
        have goes := goes.trans cni
        have frees : freeUnmatched = true := by simpa [kept, goes] using keeps
        have wants : pkt ∈ s.log.flatMap RxEvent.droppedPkts := by
          rw [progress.dropped]
          exact List.mem_filter.mpr ⟨member, by simp [unwanted, goes, frees]⟩
        exact Or.inl (demuxed.unwanted pkt wants).1
      | some own =>
        have there : pkt ∈ s.log.flatMap (RxEvent.sentTo own) := by
          rw [sent own]
          exact List.mem_filter.mpr ⟨member, decide_eq_true (goes.trans cni)⟩
        rcases demuxed.routed own pkt there with ⟨entry, present, fits⟩ | ⟨free, _⟩
        · exact Or.inr ⟨own, entry, rfl, present, fits⟩
        · exact Or.inl free
  · intro good
    have whole : ∀ pkt ∈ seen, kept find cniEntry freeUnmatched pkt = true := by
      intro pkt member
      cases found : find pkt with
      | some own => simp [kept, dest, found]
      | none =>
        cases cni : cniEntry with
        | some own => simp [kept, dest, found]
        | none => simp [kept, (good pkt member found).1 cni]
    constructor
    · rwa [List.filter_eq_self.mpr whole] at handled
    · intro idx
      rw [sent idx]
      exact List.filter_sublist
    · intro idx pkt member
      rw [sent idx] at member
      rcases List.mem_filter.mp member with ⟨arrived, goes⟩
      have goes : dest find cniEntry pkt = some idx := of_decide_eq_true goes
      cases found : find pkt with
      | some own =>
        have same : own = idx := by simpa [dest, found] using goes
        subst same
        exact Or.inl (right pkt own found)
      | none =>
        have cni : cniEntry = some idx := by simpa [dest, found] using goes
        rcases (good pkt arrived found).2 with free | ⟨own, entry, system, present, fits⟩
        · exact Or.inr ⟨free, cni⟩
        · cases cni.symm.trans system
          exact Or.inl ⟨entry, present, fits⟩
    · intro pkt member
      rw [progress.dropped] at member
      rcases List.mem_filter.mp member with ⟨arrived, lost⟩
      have goes : dest find cniEntry pkt = none := by
        simpa using (Bool.and_eq_true_iff.mp lost).1
      rcases Option.or_eq_none_iff.mp goes with ⟨found, cni⟩
      rcases (good pkt arrived found).2 with free | ⟨own, _, system, _⟩
      · exact ⟨free, cni⟩
      · cases cni.symm.trans system
    · exact progress.ledger.rings
    · exact progress.ledger.freed
    · exact progress.ledger.noRoom

end Loop

/-! ## The handlers -/

theorem SystemEntry.lt {entries : List RxEntry} {cniEntry : Option Nat} (system : SystemEntry entries cniEntry)
    (own : cniEntry = some idx) : idx < entries.length := by
  rcases system idx own with ⟨entry, present, _⟩
  exact (List.getElem?_eq_some_iff.mp present).1

theorem entry_of_findIdx? {entries : List RxEntry} {wanted : RxEntry -> Bool} {idx : Nat}
    (found : entries.findIdx? wanted = some idx) :
    exists entry, entries[idx]? = some entry ∧ wanted entry = true := by
  rcases List.findIdx?_eq_some_iff_getElem.mp found with ⟨bound, holds, _⟩
  exact ⟨entries[idx], List.getElem?_eq_getElem bound, holds⟩

/-- `mt_udp_matched` with the flow of an entry. -/
def RxEntry.matched (entry : RxEntry) (pkt : Mbuf) : Bool :=
  mtUdpMatched entry.flow pkt.hdr

theorem MtRsqQueue.matched_of_find {queue : MtRsqQueue}
    (found : queue.find pkt = some idx) :
    exists entry, queue.entries[idx]? = some entry ∧ entry.matched pkt = true :=
  entry_of_findIdx? found

theorem MtRsqQueue.find_eq_none {queue : MtRsqQueue} :
    queue.find pkt = none <-> ∀ entry ∈ queue.entries, entry.matched pkt = false :=
  List.findIdx?_eq_none_iff

theorem MtSrssImpl.matched_of_find
    (found : srss.find pkt = some idx) :
    exists entry, srss.entries[idx]? = some entry ∧ entry.matched pkt = true := by
  unfold MtSrssImpl.find at found
  split_ifs at found
  rcases entry_of_findIdx? found with ⟨entry, present, holds⟩
  exact ⟨entry, present, (Bool.and_eq_true_iff.mp holds).2⟩

theorem MtSrssImpl.find_eq_none :
    srss.find pkt = none <-> (pkt.hdr.isUdp = true -> ∀ entry ∈ srss.entries,
      srss.inList entry pkt.hdr = true -> entry.matched pkt = false) := by
  unfold MtSrssImpl.find
  cases udp : pkt.hdr.isUdp with
  | false => simp
  | true => simp [List.findIdx?_eq_none_iff, RxEntry.matched]

theorem RxState.Progress.srssRxQueue {seen : List Mbuf} {s : RxState}
    (progress : s.Progress srss.entries srss.find srss.cniEntry true seen) (last : s.lastEntry = none)
    (pkts : List Mbuf) :
    (srssRxQueue srss s pkts).Progress srss.entries srss.find srss.cniEntry true (seen ++ pkts) ∧
      (srssRxQueue srss s pkts).lastEntry = none := by
  unfold Datapath.srssRxQueue
  by_cases nothing : pkts = []
  · rw [if_pos nothing, nothing, List.append_nil]
    exact ⟨progress, last⟩
  · rw [if_neg nothing]
    have same : ({ s with lastEntry := none, matchedPkts := [] } : RxState) = s := by
      rw [← last, ← progress.pending last]
    rw [same]
    have known : forall pkt idx, srss.find pkt = some idx -> idx < srss.entries.length := by
      intro pkt idx found
      rcases MtSrssImpl.matched_of_find found with ⟨_, present, _⟩
      exact (List.getElem?_eq_some_iff.mp present).1
    have looped := RxState.Progress.loop known (fun _ own => srss.system.lt own) pkts progress
    exact ⟨looped.updateEntry (fun idx impossible => nomatch impossible), rfl⟩

theorem srssSchTaskletHandler_progress (srss : MtSrssImpl) (bursts : List (List Mbuf)) :
    (srssSchTaskletHandler srss bursts).Progress srss.entries srss.find srss.cniEntry true bursts.flatten ∧
      (srssSchTaskletHandler srss bursts).lastEntry = none := by
  have general : forall (seen : List Mbuf) (s : RxState),
      s.Progress srss.entries srss.find srss.cniEntry true seen -> s.lastEntry = none ->
        (bursts.foldl (srssRxQueue srss) s).Progress srss.entries srss.find srss.cniEntry true
            (seen ++ bursts.flatten) ∧ (bursts.foldl (srssRxQueue srss) s).lastEntry = none := by
    induction bursts with
    | nil =>
      intro seen s progress last
      rw [List.flatten_nil, List.append_nil]
      exact ⟨progress, last⟩
    | cons pkts bursts induction =>
      intro seen s progress last
      rcases progress.srssRxQueue last pkts with ⟨progress, last⟩
      rw [List.flatten_cons, ← List.append_assoc]
      exact induction _ _ progress last
  exact general [] _ RxState.Progress.start rfl

theorem rsqRx_progress (queue : MtRsqQueue) (pkts : List Mbuf) :
    (rsqRx queue pkts).Progress queue.entries queue.find queue.cniEntry false pkts := by
  have known : forall pkt idx, queue.find pkt = some idx -> idx < queue.entries.length := by
    intro pkt idx found
    rcases MtRsqQueue.matched_of_find found with ⟨_, present, _⟩
    exact (List.getElem?_eq_some_iff.mp present).1
  have start : RxState.Progress queue.entries queue.find queue.cniEntry false []
      ⟨queue.entries, none, [], [], []⟩ := RxState.Progress.start
  have looped := start.loop known (fun _ own => queue.system.lt own) pkts
  exact looped.updateEntry (fun idx impossible => nomatch impossible)

/-- `rsq_rx` keeps its promise exactly when the queue has a system entry or an entry matches each packet; and
`srss_sch_tasklet_handler` exactly when each packet that an entry matches is IPv4 and UDP and matched by an
entry in the list of its port, or is matched by the system entry. -/
theorem demuxed_iff (queue : MtRsqQueue) (pkts : List Mbuf) (srss : MtSrssImpl) (bursts : List (List Mbuf)) :
    (Demuxed RxEntry.matched queue.entries queue.cniEntry pkts (rsqRx queue pkts) <->
      (queue.cniEntry = none -> ∀ pkt ∈ pkts,
        exists entry, entry ∈ queue.entries ∧ entry.matched pkt = true)) ∧
    (Demuxed RxEntry.matched srss.entries srss.cniEntry bursts.flatten (srssSchTaskletHandler srss bursts) <->
      ∀ pkt ∈ bursts.flatten, ∀ entry ∈ srss.entries, entry.matched pkt = true ->
        (pkt.hdr.isUdp = true ∧ exists own, own ∈ srss.entries ∧ srss.inList own pkt.hdr = true ∧
          own.matched pkt = true) ∨
        exists idx own, srss.cniEntry = some idx ∧ srss.entries[idx]? = some own ∧
          own.matched pkt = true) := by
  constructor
  · rw [(rsqRx_progress queue pkts).keeps_promise_iff rfl (fun _ _ => MtRsqQueue.matched_of_find)]
    constructor
    · intro good none pkt member
      by_contra nobody
      have found : queue.find pkt = Option.none := by
        apply MtRsqQueue.find_eq_none.mpr
        intro entry present
        by_contra fits
        exact nobody ⟨entry, present, eq_true_of_ne_false fits⟩
      exact absurd ((good pkt member found).1 none) Bool.false_ne_true
    · intro good pkt member found
      have free := MtRsqQueue.find_eq_none.mp found
      refine ⟨?_, Or.inl free⟩
      intro none
      rcases good none pkt member with ⟨entry, present, fits⟩
      exact absurd ((free entry present).symm.trans fits) Bool.false_ne_true
  · have progress := (srssSchTaskletHandler_progress srss bursts).1
    have nothing := progress.pending (srssSchTaskletHandler_progress srss bursts).2
    rw [progress.keeps_promise_iff nothing (fun _ _ => MtSrssImpl.matched_of_find)]
    constructor
    · intro good pkt member entry present fits
      by_contra neither
      rcases not_or.mp neither with ⟨outside, notSystem⟩
      have found : srss.find pkt = none := by
        apply MtSrssImpl.find_eq_none.mpr
        intro udp own there inside
        by_contra wrong
        exact outside ⟨udp, own, there, inside, eq_true_of_ne_false wrong⟩
      rcases (good pkt member found).2 with free | system
      · exact absurd ((free entry present).symm.trans fits) Bool.false_ne_true
      · exact notSystem system
    · intro good pkt member found
      refine ⟨fun _ => rfl, ?_⟩
      by_cases somebody : exists entry, entry ∈ srss.entries ∧ entry.matched pkt = true
      · rcases somebody with ⟨entry, present, fits⟩
        rcases good pkt member entry present fits with ⟨udp, own, there, inside, right⟩ | system
        · have wrong := MtSrssImpl.find_eq_none.mp found udp own there inside
          exact absurd (wrong.symm.trans right) Bool.false_ne_true
        · exact Or.inr system
      · refine Or.inl (fun entry present => ?_)
        by_contra fits
        exact somebody ⟨entry, present, eq_true_of_ne_false fits⟩

def videoEntry : RxEntry :=
  ⟨⟨0x0201A8C0, 20000, false, false, false⟩, [], 511⟩

def portlessEntry : RxEntry :=
  ⟨⟨0x0201A8C0, 0, false, true, false⟩, [], 511⟩

/-- A shared queue whose only entry is `videoEntry`. -/
def videoQueue : MtRsqQueue :=
  ⟨[videoEntry], none, fun _ impossible => nomatch impossible⟩

/-- Shared RSS whose only entry is `portlessEntry`. -/
def portlessSrss : MtSrssImpl :=
  ⟨[portlessEntry], none, 63, fun _ impossible => nomatch impossible⟩

def packetTo (id port : Nat) : Mbuf :=
  ⟨id, ⟨0x0800, 17, 0x0201A8C0, 0x0101A8C0, port⟩⟩

/-- A shared queue without a system entry loses a packet that no entry matches, and shared RSS drops a
packet that only an entry for any port matches. -/
theorem unmatched_packet_lost :
    ¬ Demuxed RxEntry.matched videoQueue.entries videoQueue.cniEntry [packetTo 0 20000, packetTo 1 20002]
        (rsqRx videoQueue [packetTo 0 20000, packetTo 1 20002]) ∧
      ¬ Demuxed RxEntry.matched portlessSrss.entries portlessSrss.cniEntry [packetTo 0 20000]
        (srssSchTaskletHandler portlessSrss [[packetTo 0 20000]]) := by
  constructor
  · intro demuxed
    have once := demuxed.once.length_eq
    revert once
    decide
  · intro demuxed
    have free := (demuxed.unwanted (packetTo 0 20000) (by decide)).1 portlessEntry (by decide)
    revert free
    decide

end MediaTransport.Datapath
