import MediaTransport.Audio.RateLimit

namespace MediaTransport.Audio

open Library

/-!
# The ledger of the rate limited audio transmit

Every burst adds to an account of what the queues accepted.  Whatever they answer, each
pass keeps the packets in order, the pads behind them and the turns of the queues;
whether references and counters agree with the account depends on what is refused.
-/

/-! ## Bursts in their places -/

theorem rlAccount_snoc (bursts : List RlBurst) (burst : RlBurst) :
    rlAccount (bursts ++ [burst]) = (rlAccount bursts).add burst := by
  unfold rlAccount
  rw [List.foldl_append]
  rfl

theorem BurstsInOrder.snoc {rl : TxAudioRlInfo} {bursts : List RlBurst} {burst : RlBurst}
    (earlier : BurstsInOrder rl bursts) (here : (rlAccount bursts).Places rl burst) :
    BurstsInOrder rl (bursts ++ [burst]) := by
  intro before other after split
  rcases List.eq_nil_or_concat after with rfl | ⟨init, last, rfl⟩
  · rcases List.append_inj' split rfl with ⟨rfl, same⟩
    cases same
    exact here
  · have whole : bursts ++ [burst] = (before ++ other :: init) ++ [last] := by
      rw [split, List.concat_eq_append, List.append_assoc]
      rfl
    exact earlier before other init (List.append_inj' whole rfl).1

/-! ## Warm-up

A pad of a warm-up takes its reference before its burst and is counted behind it.
-/

/-- From one state of a port to another one, pads of a warm-up were given to the queue, references were
taken and pads were counted; `taken` says that no pad was refused. -/
structure RlWarmed (rl : TxAudioRlInfo) (port after : TxAudioRlPort) (pads refs counted : Nat) (taken : Prop) :
    Prop where
  curQueue : after.curQueue = port.curQueue
  curPktIdx : after.curPktIdx = port.curPktIdx
  padInflight : after.trsPadInflightNum = port.trsPadInflightNum
  inflight : after.transRingInflight = port.transRingInflight
  ring : after.ring = port.ring
  kept : after.kept = port.kept
  built : after.built = port.built
  sent : after.account.sent = port.account.sent
  padsBehind : after.account.pads = port.account.pads
  retried : after.account.retried = port.account.retried
  warm : after.account.warm + after.account.refused = port.account.warm + port.account.refused + pads
  refused : port.account.refused ≤ after.account.refused
  refused_iff : after.account.refused = port.account.refused ↔ taken
  padRefs : after.padRefs = port.padRefs + refs
  packets : after.packets = port.packets + counted
  inOrder : port.account.pads + port.account.retried = st30TxRlPadsPerPkt * port.account.sent.length ->
    port.curQueue = rl.queueOf port.account.sent.length -> BurstsInOrder rl port.bursts ->
      BurstsInOrder rl after.bursts

section
variable {rl : TxAudioRlInfo} {port mid after : TxAudioRlPort}

section

variable {pads refs counted pads' refs' counted' : Nat} {taken taken' : Prop}

theorem RlWarmed.trans (first : RlWarmed rl port mid pads refs counted taken)
    (second : RlWarmed rl mid after pads' refs' counted' taken') :
    RlWarmed rl port after (pads + pads') (refs + refs') (counted + counted') (taken ∧ taken') where
  curQueue := second.curQueue.trans first.curQueue
  curPktIdx := second.curPktIdx.trans first.curPktIdx
  padInflight := second.padInflight.trans first.padInflight
  inflight := second.inflight.trans first.inflight
  ring := second.ring.trans first.ring
  kept := second.kept.trans first.kept
  built := second.built.trans first.built
  sent := second.sent.trans first.sent
  padsBehind := second.padsBehind.trans first.padsBehind
  retried := second.retried.trans first.retried
  warm := by
    have one := first.warm
    have two := second.warm
    omega
  refused := Nat.le_trans first.refused second.refused
  refused_iff := by
    rw [<- first.refused_iff, <- second.refused_iff]
    have one := first.refused
    have two := second.refused
    omega
  padRefs := by rw [second.padRefs, first.padRefs, Nat.add_assoc]
  packets := by rw [second.packets, first.packets, Nat.add_assoc]
  inOrder := by
    intro pads turn order
    refine second.inOrder ?_ ?_ (first.inOrder pads turn order)
    · rw [first.padsBehind, first.retried, first.sent, pads]
    · rw [first.curQueue, first.sent, turn]

theorem RlWarmed.congr
    (warmed : RlWarmed rl port after pads refs counted taken) (samePads : pads = pads') (sameRefs : refs = refs')
    (sameCounted : counted = counted') (sameTaken : taken ↔ taken') :
    RlWarmed rl port after pads' refs' counted' taken' := by
  subst samePads sameRefs sameCounted
  exact { warmed with refused_iff := warmed.refused_iff.trans sameTaken }

end

theorem RlWarmed.burst (port : TxAudioRlPort) {kind : RlBurstKind} (isPad : kind = .prepare ∨ kind = .patternPad)
    (answer : Nat) : RlWarmed rl port (port.burst kind 1 answer).1 1 0 0 (0 < answer) := by
  have account : (port.burst kind 1 answer).1.account =
      { port.account with
        warm := port.account.warm + min answer 1
        refused := port.account.refused + (1 - min answer 1) } := by
    unfold TxAudioRlPort.account TxAudioRlPort.burst
    rw [rlAccount_snoc]
    rcases isPad with rfl | rfl <;> rfl
  refine
    { curQueue := rfl, curPktIdx := rfl, padInflight := rfl, inflight := rfl, ring := rfl, kept := rfl
      built := rfl, sent := by rw [account], padsBehind := by rw [account], retried := by rw [account]
      warm := by rw [account]; dsimp only; omega
      refused := by rw [account]; exact Nat.le_add_right _ _
      refused_iff := by rw [account]; dsimp only; omega
      padRefs := rfl, packets := rfl, inOrder := ?_ }
  intro pads turn order
  refine order.snoc ?_
  rcases isPad with rfl | rfl <;> exact ⟨pads, turn⟩

theorem RlWarmed.pattern (port : TxAudioRlPort) (answer : Nat) :
    RlWarmed rl port (port.burst .pattern 1 answer).1 0 0 0 True := by
  have account : (port.burst .pattern 1 answer).1.account = port.account := by
    unfold TxAudioRlPort.account TxAudioRlPort.burst
    rw [rlAccount_snoc]
    rfl
  refine
    { curQueue := rfl, curPktIdx := rfl, padInflight := rfl, inflight := rfl, ring := rfl, kept := rfl
      built := rfl, sent := by rw [account], padsBehind := by rw [account], retried := by rw [account]
      warm := by rw [account, Nat.add_zero]
      refused := by rw [account]
      refused_iff := by rw [account]; exact iff_of_true rfl trivial
      padRefs := rfl, packets := rfl, inOrder := ?_ }
  intro pads turn order
  exact order.snoc ⟨pads, turn⟩

theorem RlWarmed.same (port : TxAudioRlPort) (refs counted : Nat) {after : TxAudioRlPort}
    (fields : (after.curQueue, after.curPktIdx, after.trsPadInflightNum, after.transRingInflight, after.ring,
      after.kept, after.built, after.bursts) =
        (port.curQueue, port.curPktIdx, port.trsPadInflightNum, port.transRingInflight, port.ring, port.kept,
          port.built, port.bursts))
    (padRefs : after.padRefs = port.padRefs + refs) (packets : after.packets = port.packets + counted) :
    RlWarmed rl port after 0 refs counted True := by
  simp only [Prod.mk.injEq] at fields
  rcases fields with ⟨queue, idx, pads, inflight, ring, kept, built, bursts⟩
  have account : after.account = port.account := congrArg rlAccount bursts
  exact
    { curQueue := queue, curPktIdx := idx, padInflight := pads, inflight := inflight, ring := ring, kept := kept
      built := built, sent := by rw [account], padsBehind := by rw [account], retried := by rw [account]
      warm := by rw [account, Nat.add_zero]
      refused := by rw [account]
      refused_iff := by rw [account]; exact iff_of_true rfl trivial
      padRefs := padRefs, packets := packets, inOrder := fun _ _ order => by rw [bursts]; exact order }

theorem RlWarmed.burstPads (port : TxAudioRlPort) {kind : RlBurstKind}
    (isPad : kind = .prepare ∨ kind = .patternPad) (n : Nat) (answers : Nat -> Nat) :
    RlWarmed rl port (port.burstPads kind n answers) n 0 0 (∀ k < n, 0 < answers k) := by
  unfold TxAudioRlPort.burstPads
  induction n with
  | zero => exact (RlWarmed.same port 0 0 rfl rfl rfl).congr rfl rfl rfl (by simp)
  | succ n ih =>
    rw [List.range_succ, List.foldl_append]
    exact (ih.trans (RlWarmed.burst _ isPad (answers n))).congr rfl rfl rfl Nat.forall_lt_succ_right.symm

theorem RlWarmed.burstPattern (port : TxAudioRlPort) (a : RlWarmupAnswers) (k : Nat) :
    RlWarmed rl port (port.burstPattern a k) 3 3 0
      (∀ j < st30TxRlPadsPerPkt, 0 < a.patternPadTx k j) := by
  unfold TxAudioRlPort.burstPattern
  have start : RlWarmed rl port { port with patternRefs := port.patternRefs + 1 } 0 0 0 True :=
    RlWarmed.same port 0 0 rfl rfl rfl
  have pattern := start.trans (@RlWarmed.pattern rl _ (a.patternTx k))
  have refs := pattern.trans (@RlWarmed.same rl _ 3 0
    { (TxAudioRlPort.burst { port with patternRefs := port.patternRefs + 1 } .pattern 1
      (a.patternTx k)).1 with padRefs := port.padRefs + 3 } rfl rfl rfl)
  exact (refs.trans (RlWarmed.burstPads _ (.inr rfl) st30TxRlPadsPerPkt (a.patternPadTx k))).congr rfl rfl rfl
    (by simp)

theorem RlWarmed.patterns (port : TxAudioRlPort) (a : RlWarmupAnswers) (pkts : Nat) :
    RlWarmed rl port ((List.range pkts).foldl (fun port k => port.burstPattern a k) port) (pkts * 3) (pkts * 3) 0
      (∀ k < pkts, ∀ j < st30TxRlPadsPerPkt, 0 < a.patternPadTx k j) := by
  induction pkts with
  | zero => exact (RlWarmed.same port 0 0 rfl rfl rfl).congr rfl rfl rfl (by simp)
  | succ pkts ih =>
    rw [List.range_succ, List.foldl_append]
    exact (ih.trans (RlWarmed.burstPattern _ a pkts)).congr (by omega) (by omega) rfl
      Nat.forall_lt_succ_right.symm

theorem RlWarmed.warmup (port : TxAudioRlPort) (pre pkts : Nat) (a : RlWarmupAnswers) :
    exists n, RlWarmed rl port (txAudioSessionRlWarmupPkt rl port pre pkts a) n n n (a.TakesAll pre pkts) := by
  refine ⟨pre + pkts * 3, ?_⟩
  unfold txAudioSessionRlWarmupPkt
  have refs : RlWarmed rl port { port with padRefs := port.padRefs + pre } 0 pre 0 True :=
    RlWarmed.same port pre 0 rfl rfl rfl
  have prepared := refs.trans (RlWarmed.burstPads _ (.inl rfl) pre a.prepareTx)
  have counted := prepared.trans (@RlWarmed.same rl _ 0 pre
    (TxAudioRlPort.countWarmup rl _ pre) rfl rfl rfl)
  have patterns := counted.trans (RlWarmed.patterns _ a pkts)
  have all := patterns.trans (@RlWarmed.same rl _ 0 (pkts * 3)
    (TxAudioRlPort.countWarmup rl _ (pkts * 3)) rfl rfl rfl)
  exact all.congr (by omega) (by omega) (by omega) (by simp [RlWarmupAnswers.TakesAll])

theorem RlWarmed.rounds (targetTsc : Nat) (a : RlSendAnswers) (rounds : Nat) (port : TxAudioRlPort) :
    (exists n, RlWarmed rl port (rlWarmupRounds rl targetTsc a rounds port).1 n n n
      (a.RoundsTaken rl targetTsc rounds)) ∧
        (rlWarmupRounds rl targetTsc a rounds port).2 = a.roundsGo rl targetTsc rounds := by
  induction rounds generalizing port with
  | zero => exact ⟨⟨0, RlWarmed.same port 0 0 rfl rfl rfl⟩, rfl⟩
  | succ i ih =>
    rcases @RlWarmed.warmup rl port 0 1 (a.round (i + 1)) with ⟨n, warmed⟩
    rw [rlWarmupRounds]
    generalize txAudioSessionRlWarmupPkt rl port 0 1 (a.round (i + 1)) = mid at warmed
    by_cases late : a.mismatch rl targetTsc (i + 1) = true
    · rw [if_pos late]
      have given : RlWarmed rl mid
          { mid with
            statRecalculateWarmup := mid.statRecalculateWarmup + 1
            forceSyncFirstTsc := true } 0 0 0 True := RlWarmed.same mid 0 0 rfl rfl rfl
      refine ⟨⟨n, (warmed.trans given).congr rfl rfl rfl ?_⟩, by simp [RlSendAnswers.roundsGo, late]⟩
      simp [RlSendAnswers.RoundsTaken, late]
    · rw [if_neg late]
      rcases ih mid with ⟨⟨m, later⟩, goes⟩
      refine ⟨⟨n + m, ?_⟩, by simp [RlSendAnswers.roundsGo, late, goes]⟩
      refine (warmed.trans later).congr rfl rfl rfl ?_
      simp [RlSendAnswers.RoundsTaken, late]

end

/-! ## The ledger of a port -/

/-- What every pass keeps, with the packets that are not accepted yet.  Each accepted packet is counted and has
taken three references; so has each pad of a warm-up, accepted or not. -/
structure RlLedger (rl : TxAudioRlInfo) (port : TxAudioRlPort) (unsent : List RlAudioPkt) : Prop where
  once : port.account.sent ++ unsent = port.built
  pads : port.account.pads + port.account.retried + port.trsPadInflightNum =
    st30TxRlPadsPerPkt * port.account.sent.length
  few : port.trsPadInflightNum ≤ st30TxRlPadsPerPkt
  inOrder : BurstsInOrder rl port.bursts
  index : port.curPktIdx = port.completed % rl.pktsPerSync
  queue : port.curQueue = rl.queueOf port.completed
  refs : port.padRefs = 1 + st30TxRlPadsPerPkt * port.account.sent.length +
    (port.account.warm + port.account.refused)
  packets : port.packets = port.built.length + port.account.sent.length + port.account.pads +
    (port.account.warm + port.account.refused)

/-- From one state of a port to another one, so many packets and waiting pads were accepted; `taken` says that
no pad of a warm-up was refused. -/
structure RlCounts (port after : TxAudioRlPort) (sent retried : Nat) (taken : Prop) : Prop where
  sent : after.account.sent.length = port.account.sent.length + sent
  retried : after.account.retried = port.account.retried + retried
  refused : port.account.refused ≤ after.account.refused
  refused_iff : after.account.refused = port.account.refused ↔ taken

/-- The same, with the waiting packets where they were. -/
structure RlMoved (port after : TxAudioRlPort) (sent retried : Nat) (taken : Prop) : Prop
    extends RlCounts port after sent retried taken where
  ring : after.ring = port.ring
  kept : after.kept = port.kept
  inflight : after.transRingInflight = port.transRingInflight

section
variable {rl : TxAudioRlInfo} {port mid after : TxAudioRlPort}

theorem completed_of_none {port : TxAudioRlPort} (none : port.trsPadInflightNum = 0) :
    port.completed = port.account.sent.length := by
  unfold TxAudioRlPort.completed
  rw [if_neg (by omega), Nat.sub_zero]

theorem RlWarmed.ledger {n : Nat} {taken : Prop} {unsent : List RlAudioPkt}
    (warmed : RlWarmed rl port after n n n taken) (ledger : RlLedger rl port unsent)
    (none : port.trsPadInflightNum = 0) :
    RlLedger rl after unsent ∧ after.trsPadInflightNum = 0 ∧ RlMoved port after 0 0 taken := by
  have pads := ledger.pads
  rw [none, Nat.add_zero] at pads
  have turn := ledger.queue
  rw [completed_of_none none] at turn
  have completed : after.completed = port.completed := by
    unfold TxAudioRlPort.completed
    rw [warmed.sent, warmed.padInflight]
  refine ⟨?_, warmed.padInflight.trans none, ?_⟩
  · exact
      { once := by rw [warmed.sent, warmed.built, ledger.once]
        pads := by rw [warmed.padsBehind, warmed.retried, warmed.padInflight, warmed.sent, ledger.pads]
        few := by rw [warmed.padInflight]; exact ledger.few
        inOrder := warmed.inOrder pads turn ledger.inOrder
        index := by rw [warmed.curPktIdx, completed, ledger.index]
        queue := by rw [warmed.curQueue, completed, ledger.queue]
        refs := by rw [warmed.padRefs, ledger.refs, warmed.sent, warmed.warm]; omega
        packets := by
          rw [warmed.packets, ledger.packets, warmed.sent, warmed.built, warmed.padsBehind, warmed.warm]
          omega }
  · exact
      { sent := by rw [warmed.sent, Nat.add_zero]
        retried := by rw [warmed.retried, Nat.add_zero]
        refused := warmed.refused
        refused_iff := warmed.refused_iff
        ring := warmed.ring
        kept := warmed.kept
        inflight := warmed.inflight }

theorem RlCounts.same {other : TxAudioRlPort} {sent retried : Nat} {taken : Prop}
    (counts : RlCounts port after sent retried taken) (bursts : other.bursts = after.bursts) :
    RlCounts port other sent retried taken := by
  have account : other.account = after.account := congrArg rlAccount bursts
  exact
    { sent := by rw [account, counts.sent]
      retried := by rw [account, counts.retried]
      refused := by rw [account]; exact counts.refused
      refused_iff := by rw [account]; exact counts.refused_iff }

theorem RlCounts.trans {sent retried sent' retried' : Nat} {taken taken' : Prop}
    (first : RlCounts port mid sent retried taken) (second : RlCounts mid after sent' retried' taken') :
    RlCounts port after (sent + sent') (retried + retried') (taken ∧ taken') where
  sent := by rw [second.sent, first.sent, Nat.add_assoc]
  retried := by rw [second.retried, first.retried, Nat.add_assoc]
  refused := Nat.le_trans first.refused second.refused
  refused_iff := by
    rw [<- first.refused_iff, <- second.refused_iff]
    have one := first.refused
    have two := second.refused
    omega

theorem nextQueue (turns : Nat) :
    (if turns % st30TxRlQueuesUsed + 1 ≥ st30TxRlQueuesUsed then 0 else turns % st30TxRlQueuesUsed + 1) =
      (turns + 1) % st30TxRlQueuesUsed := by
  unfold st30TxRlQueuesUsed
  split <;> omega

theorem txAudioSessionRlIncPktIdx_eq {n : Nat} (index : port.curPktIdx = n % rl.pktsPerSync)
    (queue : port.curQueue = rl.queueOf n) :
    txAudioSessionRlIncPktIdx rl port =
      { port with curPktIdx := (n + 1) % rl.pktsPerSync, curQueue := rl.queueOf (n + 1) } := by
  have positive := rl.sync_pos
  have whole := Nat.div_add_mod n rl.pktsPerSync
  have small := Nat.mod_lt n positive
  unfold txAudioSessionRlIncPktIdx
  dsimp only
  rw [index]
  by_cases turns : n % rl.pktsPerSync + 1 ≥ rl.pktsPerSync
  · have next : n + 1 = rl.pktsPerSync * (n / rl.pktsPerSync + 1) := by
      rw [Nat.mul_add]
      omega
    have first : (n + 1) % rl.pktsPerSync = 0 := by rw [next, Nat.mul_mod_right]
    have other : rl.queueOf (n + 1) =
        if port.curQueue + 1 ≥ st30TxRlQueuesUsed then 0 else port.curQueue + 1 := by
      rw [queue]
      unfold TxAudioRlInfo.queueOf
      rw [next, Nat.mul_div_cancel_left _ positive]
      exact (nextQueue _).symm
    rw [if_pos turns, first, other]
    rfl
  · have same : (n + 1) / rl.pktsPerSync = n / rl.pktsPerSync :=
      Nat.div_eq_of_lt_le (by rw [Nat.mul_comm]; omega) (by rw [Nat.mul_comm, Nat.mul_add]; omega)
    have next : (n + 1) % rl.pktsPerSync = n % rl.pktsPerSync + 1 := by
      have whole' := Nat.div_add_mod (n + 1) rl.pktsPerSync
      rw [same] at whole'
      omega
    have still : rl.queueOf (n + 1) = port.curQueue := by
      rw [queue]
      unfold TxAudioRlInfo.queueOf
      rw [same]
    rw [if_neg turns, next, still]

/-! ## A packet is tried -/

/-- What is known after a packet was tried. -/
structure RlTried (rl : TxAudioRlInfo) (port after : TxAudioRlPort) (pkt : RlAudioPkt) (unsent : List RlAudioPkt)
    (out : Bool) (padsTx : Nat) (taken : Prop) : Prop where
  ledger : RlLedger rl after (if out then unsent else pkt :: unsent)
  padInflight : after.trsPadInflightNum = if out then st30TxRlPadsPerPkt - padsTx else 0
  moved : RlMoved port after (if out then 1 else 0) 0 taken

section

variable {pkt : RlAudioPkt} {unsent : List RlAudioPkt} (ledger : RlLedger rl port (pkt :: unsent))
    (none : port.trsPadInflightNum = 0)

include ledger none

theorem RlLedger.refusePacket (padsTx : Nat) :
    RlTried rl port { port with bursts := port.bursts ++ [⟨port.curQueue, .packet pkt, 1, 0⟩] } pkt unsent false
      padsTx True := by
  have account : rlAccount (port.bursts ++ [⟨port.curQueue, .packet pkt, 1, 0⟩]) = port.account := by
    rw [rlAccount_snoc]
    rfl
  have pads := ledger.pads
  rw [none, Nat.add_zero] at pads
  have turn := ledger.queue
  rw [completed_of_none none] at turn
  refine { ledger := ?_, padInflight := none, moved := ?_ }
  · exact
      { once := by unfold TxAudioRlPort.account; rw [account]; exact ledger.once
        pads := by unfold TxAudioRlPort.account; rw [account]; exact ledger.pads
        few := ledger.few
        inOrder := ledger.inOrder.snoc ⟨pads, turn⟩
        index := by unfold TxAudioRlPort.completed TxAudioRlPort.account; rw [account]; exact ledger.index
        queue := by unfold TxAudioRlPort.completed TxAudioRlPort.account; rw [account]; exact ledger.queue
        refs := by unfold TxAudioRlPort.account; rw [account]; exact ledger.refs
        packets := by unfold TxAudioRlPort.account; rw [account]; exact ledger.packets }
  · exact
      { sent := congrArg (fun account : RlAccount => account.sent.length) account
        retried := congrArg RlAccount.retried account
        refused := Nat.le_of_eq (congrArg RlAccount.refused account).symm
        refused_iff := iff_of_true (congrArg RlAccount.refused account) trivial
        ring := rfl
        kept := rfl
        inflight := rfl }

/-- A packet that the queue accepts, with its pads. -/
theorem RlLedger.sendPacket {tx idx turn : Nat}
    (few : tx ≤ st30TxRlPadsPerPkt)
    (bursts : after.bursts = port.bursts ++ [⟨port.curQueue, .packet pkt, 1, 1⟩] ++
      [⟨port.curQueue, .pads, st30TxRlPadsPerPkt, tx⟩])
    (padInflight : after.trsPadInflightNum = st30TxRlPadsPerPkt - tx)
    (index : idx = (port.account.sent.length + (if tx = st30TxRlPadsPerPkt then 1 else 0)) % rl.pktsPerSync)
    (queue : turn = rl.queueOf (port.account.sent.length + (if tx = st30TxRlPadsPerPkt then 1 else 0)))
    (fields : (after.curPktIdx, after.curQueue, after.padRefs, after.packets, after.built, after.ring, after.kept,
      after.transRingInflight) = (idx, turn, port.padRefs + st30TxRlPadsPerPkt, port.packets + 1 + tx, port.built,
        port.ring, port.kept, port.transRingInflight)) :
    RlTried rl port after pkt unsent true tx True := by
  simp only [Prod.mk.injEq] at fields
  rcases fields with ⟨curPktIdx, curQueue, padRefs, packets, built, ring, kept, inflight⟩
  have account : after.account =
      { port.account with sent := port.account.sent ++ [pkt], pads := port.account.pads + tx } := by
    unfold TxAudioRlPort.account
    rw [bursts, rlAccount_snoc, rlAccount_snoc]
    rfl
  have pads := ledger.pads
  rw [none, Nat.add_zero] at pads
  have queueBefore := ledger.queue
  rw [completed_of_none none] at queueBefore
  have completed : after.completed = port.account.sent.length + (if tx = st30TxRlPadsPerPkt then 1 else 0) := by
    unfold TxAudioRlPort.completed
    rw [account, padInflight]
    dsimp only
    rw [List.length_append, List.length_singleton]
    by_cases all : tx = st30TxRlPadsPerPkt
    · rw [if_pos all, if_neg (by omega), Nat.sub_zero]
    · rw [if_neg all, if_pos (by omega)]
      omega
  have length : after.account.sent.length = port.account.sent.length + 1 := by
    rw [account, List.length_append, List.length_singleton]
  refine { ledger := ?_, padInflight := padInflight, moved := ?_ }
  · exact
      { once := by
          rw [account, built, <- ledger.once]
          exact List.append_assoc _ _ _
        pads := by
          rw [length, padInflight, account]
          dsimp only
          unfold st30TxRlPadsPerPkt at pads few ⊢
          omega
        few := by rw [padInflight]; exact Nat.sub_le _ _
        inOrder := by
          rw [bursts]
          have first := @BurstsInOrder.snoc _ _ ⟨port.curQueue, .packet pkt, 1, 1⟩ ledger.inOrder ⟨pads, queueBefore⟩
          refine first.snoc ?_
          rw [rlAccount_snoc]
          show port.curQueue = rl.queueOf ((port.account.sent ++ [pkt]).length - 1)
          rw [List.length_append, List.length_singleton, Nat.add_sub_cancel]
          exact queueBefore
        index := by rw [curPktIdx, completed, index]
        queue := by rw [curQueue, completed, queue]
        refs := by
          rw [padRefs, length, account, ledger.refs]
          dsimp only
          unfold st30TxRlPadsPerPkt
          omega
        packets := by
          rw [packets, length, account, built, ledger.packets]
          dsimp only
          omega }
  · exact
      { sent := length
        retried := by rw [account, Nat.add_zero]
        refused := by rw [account]
        refused_iff := by rw [account]; exact iff_of_true rfl trivial
        ring := ring
        kept := kept
        inflight := inflight }

theorem txAudioSessionRlTxPkt_spec (a : RlSendAnswers) :
    (txAudioSessionRlTxPkt rl port pkt a).2 = decide (0 < a.pktTx) ∧
      RlTried rl port (txAudioSessionRlTxPkt rl port pkt a).1 pkt unsent (decide (0 < a.pktTx))
        (min a.padsTx st30TxRlPadsPerPkt) True := by
  have index := ledger.index
  have queue := ledger.queue
  rw [completed_of_none none] at index queue
  unfold txAudioSessionRlTxPkt TxAudioRlPort.burst
  dsimp only
  by_cases out : 0 < a.pktTx
  · rw [if_neg (by omega), show min a.pktTx 1 = 1 by omega, decide_eq_true out]
    rw [Nat.min_comm a.padsTx]
    by_cases all : min st30TxRlPadsPerPkt a.padsTx = st30TxRlPadsPerPkt
    · rw [if_neg (by omega), all]
      rw [txAudioSessionRlIncPktIdx_eq (n := port.account.sent.length)]
      · refine ⟨rfl, ?_⟩
        exact ledger.sendPacket none (Nat.le_refl _) rfl none (by rw [if_pos rfl]) (by rw [if_pos rfl]) rfl
      · exact index
      · exact queue
    · rw [if_pos (by omega)]
      refine ⟨rfl, ?_⟩
      exact ledger.sendPacket none (Nat.min_le_left _ _) rfl rfl (by rw [if_neg all, Nat.add_zero]; exact index)
        (by rw [if_neg all, Nat.add_zero]; exact queue) rfl
  · rw [if_pos (by omega), show min a.pktTx 1 = 0 by omega, decide_eq_false out]
    exact ⟨rfl, ledger.refusePacket none _⟩

end

section

variable {pkt : RlAudioPkt} {unsent : List RlAudioPkt}

theorem RlTried.behind {out : Bool} {padsTx : Nat} {taken : Prop}
    (tried : RlTried rl mid after pkt unsent out padsTx True) (moved : RlMoved port mid 0 0 taken) :
    RlTried rl port after pkt unsent out padsTx taken where
  ledger := tried.ledger
  padInflight := tried.padInflight
  moved := by
    have both := moved.toRlCounts.trans tried.moved.toRlCounts
    rw [and_true, Nat.zero_add] at both
    exact
      { toRlCounts := both
        ring := tried.moved.ring.trans moved.ring
        kept := tried.moved.kept.trans moved.kept
        inflight := tried.moved.inflight.trans moved.inflight }

theorem RlTried.waits {taken : Prop}
    (ledger : RlLedger rl after (pkt :: unsent)) (none : after.trsPadInflightNum = 0)
    (moved : RlMoved port after 0 0 taken) (padsTx : Nat) :
    RlTried rl port after pkt unsent false padsTx taken where
  ledger := ledger
  padInflight := none
  moved := moved

/-- `tx_audio_session_rl_first_pkt` for a port without waiting pads. -/
theorem txAudioSessionRlFirstPkt_spec
    (ledger : RlLedger rl port (pkt :: unsent)) (none : port.trsPadInflightNum = 0) (a : RlSendAnswers) :
    (txAudioSessionRlFirstPkt rl port pkt a).2 = port.goesOut rl true a ∧
      RlTried rl port (txAudioSessionRlFirstPkt rl port pkt a).1 pkt unsent (port.goesOut rl true a)
        (min a.padsTx st30TxRlPadsPerPkt) (port.WarmupTaken rl true a) := by
  unfold txAudioSessionRlFirstPkt TxAudioRlPort.goesOut TxAudioRlPort.WarmupTaken
  cases port.firstPlan rl a.curTsc with
  | late =>
    simp only [forall_const, Bool.not_true, Bool.or_true, Bool.and_true]
    have start : RlWarmed rl port
        { port with
          trsTargetTsc := 0
          statMismatchSyncPoint := port.statMismatchSyncPoint + 1
          forceSyncFirstTsc := false } 0 0 0 True := RlWarmed.same port 0 0 rfl rfl rfl
    generalize { port with
      trsTargetTsc := 0
      statMismatchSyncPoint := port.statMismatchSyncPoint + 1
      forceSyncFirstTsc := false } = begun at start
    rcases @RlWarmed.warmup rl begun rl.pktsPrepareWarmup 0 a.prepare with ⟨n, warmed⟩
    have all : RlWarmed rl port _ n n n _ :=
      (start.trans warmed).congr (Nat.zero_add n) (Nat.zero_add n) (Nat.zero_add n) (iff_of_eq (true_and _))
    rcases all.ledger ledger none with ⟨kept, still, moved⟩
    rcases txAudioSessionRlTxPkt_spec kept still a with ⟨flag, tried⟩
    exact ⟨flag, tried.behind moved⟩
  | wait =>
    simp only [forall_const, Bool.not_true, Bool.or_false, Bool.and_false]
    refine ⟨trivial, RlTried.waits ledger none ?_ _⟩
    exact
      { sent := rfl, retried := rfl, refused := Nat.le_refl _, refused_iff := iff_of_true rfl trivial
        ring := rfl, kept := rfl, inflight := rfl }
  | warmup rounds =>
    simp only [forall_const, Bool.not_true, Bool.false_or]
    have start : RlWarmed rl port
        (if rounds ≠ rl.maxWarmupTrs then { port with statHitBackupCp := port.statHitBackupCp + 1 } else port)
        0 0 0 True := by
      split <;> exact RlWarmed.same port 0 0 rfl rfl rfl
    generalize (if rounds ≠ rl.maxWarmupTrs then { port with statHitBackupCp := port.statHitBackupCp + 1 }
      else port) = begun at start
    rcases @RlWarmed.warmup rl begun rl.pktsPrepareWarmup 0 a.prepare with ⟨n, warmed⟩
    generalize txAudioSessionRlWarmupPkt rl begun rl.pktsPrepareWarmup 0 a.prepare = prepared at warmed
    rcases @RlWarmed.rounds rl (port.targetTsc rl) a rounds prepared with ⟨⟨m, rounded⟩, goes⟩
    generalize rlWarmupRounds rl (port.targetTsc rl) a rounds prepared = result at rounded goes
    rcases result with ⟨through, flag⟩
    dsimp only at rounded goes ⊢
    have all : RlWarmed rl port through (n + m) (n + m) (n + m)
        (a.prepare.TakesAll rl.pktsPrepareWarmup 0 ∧ a.RoundsTaken rl (port.targetTsc rl) rounds) :=
      ((start.trans warmed).trans rounded).congr (by omega) (by omega) (by omega) (by simp)
    rw [<- goes]
    cases flag with
    | false =>
      rcases all.ledger ledger none with ⟨kept, still, moved⟩
      rw [Bool.and_false]
      exact ⟨rfl, RlTried.waits kept still moved _⟩
    | true =>
      have cleared : RlWarmed rl through { through with trsTargetTsc := 0 } 0 0 0 True :=
        RlWarmed.same through 0 0 rfl rfl rfl
      rcases ((all.trans cleared).congr rfl rfl rfl (iff_of_eq (and_true _))).ledger ledger none with
        ⟨kept, still, moved⟩
      rw [Bool.and_true]
      rcases txAudioSessionRlTxPkt_spec kept still a with ⟨flag, tried⟩
      exact ⟨flag, tried.behind moved⟩

theorem trySend_spec (ledger : RlLedger rl port (pkt :: unsent))
    (none : port.trsPadInflightNum = 0) (first : Bool) (a : RlSendAnswers) :
    (port.trySend rl first pkt a).2 = port.goesOut rl first a ∧
      RlTried rl port (port.trySend rl first pkt a).1 pkt unsent (port.goesOut rl first a)
        (min a.padsTx st30TxRlPadsPerPkt) (port.WarmupTaken rl first a) := by
  cases first with
  | true => exact txAudioSessionRlFirstPkt_spec ledger none a
  | false =>
    have goes : port.goesOut rl false a = decide (0 < a.pktTx) := by simp [TxAudioRlPort.goesOut]
    have taken : port.WarmupTaken rl false a ↔ True := by simp [TxAudioRlPort.WarmupTaken]
    rw [goes, taken]
    exact txAudioSessionRlTxPkt_spec ledger none a

end

/-! ## A pass -/

/-- The ledger of a port between passes; a packet waits only without pads that wait. -/
structure RlKept (rl : TxAudioRlInfo) (port : TxAudioRlPort) : Prop where
  ledger : RlLedger rl port (port.transRingInflight.toList ++ port.ring ++ port.kept)
  alone : forall pkt, port.transRingInflight = some pkt -> port.trsPadInflightNum = 0

/-- No pad of a warm-up was refused, and as many packets were accepted as pads that had waited. -/
def TxAudioRlPort.Even (port : TxAudioRlPort) : Prop :=
  port.account.refused = 0 ∧ port.account.sent.length = port.account.retried

section

variable {unsent : List RlAudioPkt} (ledger : RlLedger rl port unsent)

include ledger

theorem RlLedger.same
    (fields : (after.curPktIdx, after.curQueue, after.trsPadInflightNum, after.padRefs, after.packets, after.built,
      after.bursts) = (port.curPktIdx, port.curQueue, port.trsPadInflightNum, port.padRefs, port.packets, port.built,
        port.bursts)) :
    RlLedger rl after unsent := by
  simp only [Prod.mk.injEq] at fields
  rcases fields with ⟨index, queue, pads, refs, packets, built, bursts⟩
  have account : after.account = port.account := congrArg rlAccount bursts
  have completed : after.completed = port.completed := by
    unfold TxAudioRlPort.completed
    rw [account, pads]
  exact
    { once := by rw [account, built, ledger.once]
      pads := by rw [account, pads, ledger.pads]
      few := by rw [pads]; exact ledger.few
      inOrder := by rw [bursts]; exact ledger.inOrder
      index := by rw [index, completed, ledger.index]
      queue := by rw [queue, completed, ledger.queue]
      refs := by rw [refs, account, ledger.refs]
      packets := by rw [packets, built, account, ledger.packets] }

theorem RlLedger.acceptPad (tx : Nat)
    (few : tx ≤ port.trsPadInflightNum) (some_ : 0 < port.trsPadInflightNum)
    (fields : (after.bursts, after.trsPadInflightNum, after.padRefs, after.packets, after.built, after.ring,
      after.kept, after.transRingInflight) = (port.bursts ++ [⟨port.curQueue, .retry, 1, tx⟩],
        port.trsPadInflightNum - tx, port.padRefs, port.packets, port.built, port.ring, port.kept,
        port.transRingInflight))
    (index : after.curPktIdx =
      (port.account.sent.length - if port.trsPadInflightNum = tx then 0 else 1) % rl.pktsPerSync)
    (queue : after.curQueue = rl.queueOf
      (port.account.sent.length - if port.trsPadInflightNum = tx then 0 else 1)) :
    RlLedger rl after unsent ∧ RlMoved port after 0 tx True := by
  simp only [Prod.mk.injEq] at fields
  rcases fields with ⟨bursts, inflightNum, refs, packets, built, ring, kept, inflight⟩
  have account : after.account = { port.account with retried := port.account.retried + tx } := by
    unfold TxAudioRlPort.account
    rw [bursts, rlAccount_snoc]
    rfl
  have completed : after.completed =
      port.account.sent.length - if port.trsPadInflightNum = tx then 0 else 1 := by
    unfold TxAudioRlPort.completed
    rw [account, inflightNum]
    by_cases all : port.trsPadInflightNum = tx
    · rw [if_pos all, if_neg (by omega)]
    · rw [if_neg all, if_pos (by omega)]
  have turn : port.curQueue = rl.queueOf (port.account.sent.length - 1) := by
    have queue := ledger.queue
    unfold TxAudioRlPort.completed at queue
    rw [if_pos some_] at queue
    exact queue
  have pads := ledger.pads
  constructor
  · exact
      { once := by rw [account, built]; exact ledger.once
        pads := by rw [account, inflightNum]; dsimp only; omega
        few := by rw [inflightNum]; exact Nat.le_trans (Nat.sub_le _ _) ledger.few
        inOrder := by
          rw [bursts]
          exact @BurstsInOrder.snoc _ _ ⟨port.curQueue, .retry, 1, tx⟩ ledger.inOrder turn
        index := by rw [index, completed]
        queue := by rw [queue, completed]
        refs := by rw [refs, account]; exact ledger.refs
        packets := by rw [packets, account, built]; exact ledger.packets }
  · exact
      { sent := by rw [account, Nat.add_zero]
        retried := by rw [account]
        refused := by rw [account]
        refused_iff := by rw [account]; exact iff_of_true rfl trivial
        ring := ring
        kept := kept
        inflight := inflight }

theorem retryPad_spec (some_ : 0 < port.trsPadInflightNum) (answer : Nat) :
    RlLedger rl (port.retryPad rl answer) unsent ∧
      RlMoved port (port.retryPad rl answer) 0 (min answer 1) True := by
  have index := ledger.index
  have queue := ledger.queue
  unfold TxAudioRlPort.completed at index queue
  rw [if_pos some_] at index queue
  have least : 0 < port.account.sent.length := by
    have pads := ledger.pads
    unfold st30TxRlPadsPerPkt at pads
    omega
  unfold TxAudioRlPort.retryPad TxAudioRlPort.burst
  dsimp only
  by_cases out : 0 < answer
  · rw [show min answer 1 = 1 by omega]
    by_cases last : port.trsPadInflightNum = 1
    · rw [if_neg (show ¬ 1 < 1 by omega), if_pos (by dsimp only; omega),
        txAudioSessionRlIncPktIdx_eq (n := port.account.sent.length - 1)]
      · exact ledger.acceptPad 1 some_ some_ rfl
          (by rw [if_pos last, Nat.sub_zero, Nat.sub_add_cancel least])
          (by rw [if_pos last, Nat.sub_zero, Nat.sub_add_cancel least])
      · exact index
      · exact queue
    · rw [if_neg (show ¬ 1 < 1 by omega), if_neg (by dsimp only; omega)]
      exact ledger.acceptPad 1 some_ some_ rfl (by rw [if_neg last]; exact index) (by rw [if_neg last]; exact queue)
  · rw [show min answer 1 = 0 by omega]
    rw [if_pos (show 0 < 1 by omega), if_neg (by dsimp only; omega)]
    exact ledger.acceptPad 0 (Nat.zero_le _) some_ rfl (by rw [if_neg (by omega)]; exact index)
      (by rw [if_neg (by omega)]; exact queue)

end

/-- What a pass does to a port, in terms of what was accepted in it. -/
structure RlPassed (rl : TxAudioRlInfo) (port after : TxAudioRlPort) (sent retried : Nat) (taken : Prop) : Prop
    extends RlCounts port after sent retried taken where
  between : RlKept rl after

theorem RlPassed.even_iff {sent retried : Nat} {taken : Prop} (passed : RlPassed rl port after sent retried taken)
    (even : port.Even) : after.Even ↔ taken ∧ sent = retried := by
  rcases even with ⟨none, same⟩
  have refused := passed.refused_iff
  rw [none] at refused
  unfold TxAudioRlPort.Even
  rw [refused, passed.sent, passed.retried, same, Nat.add_right_inj]

/-- The packet of the ring. -/
theorem sendFresh_spec (kept : RlKept rl port) (empty : port.transRingInflight = none)
    (none : port.trsPadInflightNum = 0) (a : RlSendAnswers) :
    match port.ring with
    | [] => RlPassed rl port (port.sendFresh rl a) 0 0 True
    | pkt :: _ =>
      RlPassed rl port (port.sendFresh rl a)
        (if (port.aimed pkt).goesOut rl (decide (port.curPktIdx = 0)) a then 1 else 0) 0
        ((port.aimed pkt).WarmupTaken rl (decide (port.curPktIdx = 0)) a) := by
  have ledger := kept.ledger
  rw [empty] at ledger
  unfold TxAudioRlPort.sendFresh
  cases ring : port.ring with
  | nil =>
    rw [ring] at ledger
    dsimp only
    refine
      { between := ⟨?_, fun _ _ => none⟩
        sent := rfl, retried := rfl, refused := Nat.le_refl _, refused_iff := iff_of_true rfl trivial }
    rw [empty]
    exact ledger.same rfl
  | cons pkt rest =>
    rw [ring] at ledger
    dsimp only
    -- what is tried differs from the port that is aimed in its ring alone
    have tried_eq : (if decide (port.curPktIdx = 0) = true then
        { port with ring := rest, trsTargetTsc := pkt.tsc } else { port with ring := rest }) =
          { port.aimed pkt with ring := rest } := by
      unfold TxAudioRlPort.aimed
      by_cases first : port.curPktIdx = 0
      · rw [if_pos (decide_eq_true first), if_pos first]
      · rw [if_neg (by simpa using first), if_neg first]
    have before : RlLedger rl { port.aimed pkt with ring := rest } (pkt :: (rest ++ port.kept)) := by
      refine ledger.same ?_
      unfold TxAudioRlPort.aimed
      split <;> rfl
    have same : (port.aimed pkt).trsPadInflightNum = 0 ∧ (port.aimed pkt).account = port.account ∧
        (port.aimed pkt).kept = port.kept ∧ (port.aimed pkt).transRingInflight = Option.none := by
      unfold TxAudioRlPort.aimed
      split <;> exact ⟨none, rfl, rfl, empty⟩
    rw [tried_eq]
    rcases trySend_spec before same.1 (decide (port.curPktIdx = 0)) a with ⟨flag, tried⟩
    have goes : TxAudioRlPort.goesOut rl { port.aimed pkt with ring := rest } (decide (port.curPktIdx = 0)) a =
        (port.aimed pkt).goesOut rl (decide (port.curPktIdx = 0)) a := rfl
    have taken : TxAudioRlPort.WarmupTaken rl { port.aimed pkt with ring := rest } (decide (port.curPktIdx = 0)) a =
        (port.aimed pkt).WarmupTaken rl (decide (port.curPktIdx = 0)) a := rfl
    rw [goes] at flag tried
    rw [taken] at tried
    generalize TxAudioRlPort.trySend rl { port.aimed pkt with ring := rest } (decide (port.curPktIdx = 0)) pkt a =
      result at flag tried
    rcases result with ⟨after, out⟩
    dsimp only at flag tried ⊢
    subst flag
    have moved := tried.moved
    have account : TxAudioRlPort.account { port.aimed pkt with ring := rest } = port.account := same.2.1
    have lists : after.ring = rest ∧ after.kept = port.kept := ⟨moved.ring, moved.kept.trans same.2.2.1⟩
    have counts : RlCounts port after _ 0 _ :=
      ⟨account ▸ moved.sent, account ▸ moved.retried, account ▸ moved.refused, account ▸ moved.refused_iff⟩
    cases out : (port.aimed pkt).goesOut rl (decide (port.curPktIdx = 0)) a with
    | false =>
      rw [out] at tried counts
      have ledger' := @RlLedger.same rl after
        { after with transRingInflight := some pkt, retCode := some .burstFail } _ tried.ledger rfl
      rw [if_neg Bool.false_ne_true, <- lists.1, <- lists.2] at ledger'
      exact
        { toRlCounts := counts.same rfl
          between := ⟨ledger', fun _ _ => tried.padInflight⟩ }
    | true =>
      rw [out] at tried counts
      have ledger' := tried.ledger
      rw [if_pos rfl, <- lists.1, <- lists.2] at ledger'
      have nothing : after.transRingInflight = Option.none := moved.inflight.trans same.2.2.2
      exact
        { toRlCounts := counts
          between :=
            { ledger := by rw [if_neg (by decide), nothing]; exact ledger'
              alone := fun pkt' waits => by
                rw [if_neg (by decide)] at waits
                exact absurd (nothing.symm.trans waits) (by simp) } }

theorem retryPad_passed (ledger : RlLedger rl port (port.ring ++ port.kept))
    (empty : port.transRingInflight = none) (some_ : 0 < port.trsPadInflightNum) (answer : Nat) :
    RlPassed rl port (port.retryPad rl answer) 0 (min answer 1) True := by
  rcases retryPad_spec ledger some_ answer with ⟨kept, moved⟩
  have nothing := moved.inflight.trans empty
  refine { toRlCounts := moved.toRlCounts, between := ⟨?_, fun pkt waits => ?_⟩ }
  · rw [nothing, moved.ring, moved.kept]
    exact kept
  · rw [nothing] at waits
    cases waits

section

variable {pkt : RlAudioPkt} (kept : RlKept rl port) (waits : port.transRingInflight = some pkt)
    {a : RlSendAnswers}

include kept waits

/-- The packet that waits is tried, and waits no longer when it goes out. -/
theorem sendPending_tried :
    exists after,
      port.sendPending rl a =
        (if port.goesOut rl (decide (port.trsTargetTsc ≠ 0)) a then ({ after with transRingInflight := none }, true)
        else ({ after with retCode := some .burstInflightFail }, false)) ∧
      RlTried rl port after pkt (port.ring ++ port.kept)
        (port.goesOut rl (decide (port.trsTargetTsc ≠ 0)) a) (min a.padsTx st30TxRlPadsPerPkt)
        (port.WarmupTaken rl (decide (port.trsTargetTsc ≠ 0)) a) := by
  have ledger := kept.ledger
  rw [waits] at ledger
  rcases trySend_spec ledger (kept.alone pkt waits) (decide (port.trsTargetTsc ≠ 0)) a with ⟨flag, tried⟩
  refine ⟨_, ?_, tried⟩
  unfold TxAudioRlPort.sendPending
  rw [waits]
  dsimp only
  rw [flag]
  cases port.goesOut rl (decide (port.trsTargetTsc ≠ 0)) a <;> rfl

theorem sendPending_refused (out : port.goesOut rl (decide (port.trsTargetTsc ≠ 0)) a = false) :
    (port.sendPending rl a).2 = false ∧
      RlPassed rl port (port.sendPending rl a).1 0 0 (port.WarmupTaken rl (decide (port.trsTargetTsc ≠ 0)) a) := by
  rcases sendPending_tried kept waits (a := a) with ⟨after, sent, tried⟩
  rw [out] at sent tried
  rw [sent]
  have still := tried.moved.inflight.trans waits
  refine ⟨rfl, { toRlCounts := tried.moved.toRlCounts.same rfl, between := ⟨?_, fun _ _ => tried.padInflight⟩ }⟩
  rw [if_neg Bool.false_ne_true]
  dsimp only
  rw [still, tried.moved.ring, tried.moved.kept]
  exact tried.ledger.same rfl

theorem sendPending_sent (out : port.goesOut rl (decide (port.trsTargetTsc ≠ 0)) a = true) :
    exists after, port.sendPending rl a = (after, true) ∧ RlLedger rl after (after.ring ++ after.kept) ∧
      after.transRingInflight = none ∧
      after.trsPadInflightNum = st30TxRlPadsPerPkt - min a.padsTx st30TxRlPadsPerPkt ∧
      RlCounts port after 1 0 (port.WarmupTaken rl (decide (port.trsTargetTsc ≠ 0)) a) := by
  rcases sendPending_tried kept waits (a := a) with ⟨after, sent, tried⟩
  rw [out] at sent tried
  refine ⟨{ after with transRingInflight := none }, sent, ?_, rfl, tried.padInflight,
    tried.moved.toRlCounts.same rfl⟩
  dsimp only
  rw [tried.moved.ring, tried.moved.kept]
  exact tried.ledger.same rfl

end

theorem rest_passed (kept : RlKept rl port) (empty : port.transRingInflight = none) (a : RlPassAnswers) :
    exists sent retried taken,
      RlPassed rl port
        (if 0 < port.trsPadInflightNum then port.retryPad rl a.retryTx else port.sendFresh rl a.fresh)
        sent retried taken ∧
      (0 < port.trsPadInflightNum -> sent = 0 ∧ retried = min a.retryTx 1 ∧ taken) ∧
      (port.trsPadInflightNum = 0 -> retried = 0) ∧
      (RlPassCounted rl port a ↔ taken ∧ sent = retried) := by
  unfold RlPassCounted
  rw [empty]
  dsimp only
  by_cases some_ : 0 < port.trsPadInflightNum
  · have ledger := kept.ledger
    rw [empty] at ledger
    rw [if_pos some_, if_pos some_]
    refine ⟨0, min a.retryTx 1, True, retryPad_passed ledger empty some_ a.retryTx, fun _ => ⟨rfl, rfl, trivial⟩,
      fun none => absurd none (by omega), ?_⟩
    rw [true_and]
    omega
  · have none : port.trsPadInflightNum = 0 := by omega
    rw [if_neg some_, if_neg some_]
    have fresh := sendFresh_spec kept empty none a.fresh
    cases ring : port.ring with
    | nil =>
      rw [ring] at fresh
      exact ⟨0, 0, True, fresh, fun some' => absurd some' some_, fun _ => rfl, by simp⟩
    | cons pkt rest =>
      rw [ring] at fresh
      refine ⟨_, 0, _, fresh, fun some' => absurd some' some_, fun _ => rfl, ?_⟩
      refine and_congr_right fun _ => ?_
      generalize (port.aimed pkt).goesOut rl (decide (port.curPktIdx = 0)) a.fresh = out
      cases out <;> simp

theorem txAudioSessionTaskletRlTransmit_spec (kept : RlKept rl port) (a : RlPassAnswers) :
    RlKept rl (txAudioSessionTaskletRlTransmit rl port a).1 ∧
      (port.Even -> ((txAudioSessionTaskletRlTransmit rl port a).1.Even ↔ RlPassCounted rl port a)) := by
  unfold txAudioSessionTaskletRlTransmit
  cases waits : port.transRingInflight with
  | none =>
    have through : port.sendPending rl a.pending = (port, true) := by
      unfold TxAudioRlPort.sendPending
      rw [waits]
    rcases rest_passed kept waits a with ⟨sent, retried, taken, passed, -, -, counted⟩
    rw [through]
    dsimp only
    rw [if_neg (by decide), apply_ite Prod.fst]
    exact ⟨passed.between, fun even => (passed.even_iff even).trans counted.symm⟩
  | some pkt =>
    unfold RlPassCounted
    rw [waits]
    dsimp only
    cases out : port.goesOut rl (decide (port.trsTargetTsc ≠ 0)) a.pending with
    | false =>
      rcases sendPending_refused kept waits out with ⟨flag, passed⟩
      rw [if_pos (by rw [flag]; rfl)]
      refine ⟨passed.between, fun even => (passed.even_iff even).trans ?_⟩
      simp
    | true =>
      rcases sendPending_sent kept waits out with ⟨mid, sends, ledger, empty, pads, counts⟩
      have between : RlKept rl mid := by
        refine ⟨empty.symm ▸ ledger, fun pkt waits => ?_⟩
        rw [empty] at waits
        cases waits
      rcases rest_passed between empty a with ⟨sent, retried, taken, passed, some_, none, -⟩
      rw [sends]
      dsimp only
      rw [if_neg (by decide), apply_ite Prod.fst]
      have whole : RlPassed rl port _ (1 + sent) (0 + retried) _ :=
        { toRlCounts := counts.trans passed.toRlCounts, between := passed.between }
      refine ⟨passed.between, fun even => (whole.even_iff even).trans ?_⟩
      unfold st30TxRlPadsPerPkt at pads ⊢
      by_cases waiting : 0 < mid.trsPadInflightNum
      · rcases some_ waiting with ⟨rfl, rfl, holds⟩
        have few : a.pending.padsTx < 3 := by omega
        simp only [holds, few, and_true, true_and, forall_const]
        refine and_congr_right fun _ => ?_
        omega
      · have zero : mid.trsPadInflightNum = 0 := by omega
        have all : ¬ a.pending.padsTx < 3 := by omega
        simp only [all, false_and, forall_const, and_false]
        constructor
        · intro both
          omega
        · exact False.elim

theorem rlAudioStep_spec (kept : RlKept rl port) (input : RlAudioInput) :
    RlKept rl (rlAudioStep rl port input) ∧
      (port.Even -> ((rlAudioStep rl port input).Even ↔ input.Counted rl port)) := by
  have ledger := kept.ledger
  cases input with
  | build pkt =>
    refine ⟨⟨?_, kept.alone⟩, fun even => iff_of_true (show (rlAudioStep rl port _).Even from even) trivial⟩
    exact
      { once := by
          show port.account.sent ++ (_ ++ port.ring ++ (port.kept ++ [pkt])) = port.built ++ [pkt]
          rw [<- ledger.once]
          simp [rlAudioStep]
        pads := ledger.pads
        few := ledger.few
        inOrder := ledger.inOrder
        index := ledger.index
        queue := ledger.queue
        refs := ledger.refs
        packets := by
          show port.packets + 1 = (port.built ++ [pkt]).length + port.account.sent.length + port.account.pads +
            (port.account.warm + port.account.refused)
          rw [ledger.packets, List.length_append, List.length_singleton]
          omega }
  | put =>
    cases lists : port.kept with
    | nil =>
      have same : rlAudioStep rl port .put = port := by
        unfold rlAudioStep
        rw [lists]
      rw [same]
      exact ⟨kept, fun even => iff_of_true even trivial⟩
    | cons pkt rest =>
      have moved : rlAudioStep rl port .put = { port with ring := port.ring ++ [pkt], kept := rest } := by
        unfold rlAudioStep
        rw [lists]
      rw [lists] at ledger
      rw [moved]
      refine ⟨⟨?_, kept.alone⟩, fun even => iff_of_true even trivial⟩
      dsimp only
      rw [show port.transRingInflight.toList ++ (port.ring ++ [pkt]) ++ rest =
        port.transRingInflight.toList ++ port.ring ++ (pkt :: rest) by simp]
      exact ledger.same rfl
  | pass a => exact txAudioSessionTaskletRlTransmit_spec kept a

theorem RlKept.init (rl : TxAudioRlInfo) : RlKept rl rlAudioInit where
  ledger :=
    { once := rfl
      pads := rfl
      few := Nat.zero_le _
      inOrder := fun before burst after split => absurd split (by simp [rlAudioInit])
      index := (Nat.zero_mod _).symm
      queue := by
        unfold TxAudioRlInfo.queueOf
        rw [show rlAudioInit.completed = 0 from rfl, Nat.zero_div]
        rfl
      refs := rfl
      packets := rfl }
  alone := fun pkt waits => by cases waits

theorem RlKept.right_iff (kept : RlKept rl port) : RlTransmitRight rl port ↔ port.Even := by
  have ledger := kept.ledger
  have pads := ledger.pads
  have refs := ledger.refs
  have packets := ledger.packets
  unfold TxAudioRlPort.Even
  constructor
  · intro right
    have rightRefs := right.refs
    have rightPackets := right.packets
    unfold RlAccount.padsAccepted at rightRefs rightPackets
    omega
  · rintro ⟨none, same⟩
    exact
      { once := ledger.once
        inOrder := ledger.inOrder
        index := ledger.index
        queue := ledger.queue
        refs := by unfold RlAccount.padsAccepted; omega
        packets := by unfold RlAccount.padsAccepted; omega }

end

/-! ## When the transmit is right -/

/-- For every run of the builder and of the passes over a port, whatever the clock and the queues answer: the
port is right after every step exactly when every pass is counted right. -/
theorem rl_transmit_right_iff (rl : TxAudioRlInfo) (inputs : List RlAudioInput) :
    Admitted (rlAudioStep rl) (fun port input => RlTransmitRight rl (rlAudioStep rl port input)) rlAudioInit
        inputs ↔
      Admitted (rlAudioStep rl) (fun port input => input.Counted rl port) rlAudioInit inputs := by
  have start : RlKept rl rlAudioInit ∧ rlAudioInit.Even := ⟨RlKept.init rl, rfl, rfl⟩
  constructor
  · refine admitted_of_invariant _ _ (fun port => RlKept rl port ∧ port.Even) ?_ ?_ start
    · rintro port input ⟨kept, even⟩ right
      have next := (rlAudioStep_spec kept input).1
      exact ⟨next, next.right_iff.mp right⟩
    · rintro port input ⟨kept, even⟩ right
      rcases rlAudioStep_spec kept input with ⟨next, even_iff⟩
      exact (even_iff even).mp (next.right_iff.mp right)
  · refine admitted_of_invariant _ _ (fun port => RlKept rl port ∧ port.Even) ?_ ?_ start
    · rintro port input ⟨kept, even⟩ counted
      rcases rlAudioStep_spec kept input with ⟨next, even_iff⟩
      exact ⟨next, (even_iff even).mpr counted⟩
    · rintro port input ⟨kept, even⟩ counted
      rcases rlAudioStep_spec kept input with ⟨next, even_iff⟩
      exact next.right_iff.mpr ((even_iff even).mpr counted)

/-- A session with a packet each millisecond. -/
def rlEachMs : TxAudioRlInfo where
  padPktLen := 100
  pktsPerSync := 10
  pktsPrepareWarmup := 4
  requiredAccuracyNs := 40000
  maxWarmupTrs := 4
  trs := 1000000
  rlOffsetNs := 0
  sync_pos := by decide
  trs_pos := by decide

/-- A queue that takes everything at once, after the time of the packet. -/
def rlTakesAll : RlSendAnswers where
  curTsc := 2000000
  prepare := ⟨fun _ => 1, fun _ => 1, fun _ _ => 1⟩
  round := fun _ => ⟨fun _ => 1, fun _ => 1, fun _ _ => 1⟩
  roundTsc := fun _ => 0
  pktTx := 1
  padsTx := 3

def rlOnePacket : List RlAudioInput :=
  [.build ⟨1, 1000000, 300⟩, .put, .pass ⟨rlTakesAll, 1, rlTakesAll⟩]

/-- The packet is counted when it is built and again when it is sent: nine for one packet and seven pads. -/
theorem sent_packet_counted_twice :
    ¬ Admitted (rlAudioStep rlEachMs) (fun port input => RlTransmitRight rlEachMs (rlAudioStep rlEachMs port input))
      rlAudioInit rlOnePacket := by
  rintro ⟨-, -, right, -⟩
  have packets := right.packets
  revert packets
  decide

end MediaTransport.Audio
