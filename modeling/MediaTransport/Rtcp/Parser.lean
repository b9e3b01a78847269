import MediaTransport.Rtcp.Ring

namespace MediaTransport.Rtcp

open Library Util

/-!
# Any bytes as a NACK

The transmitter reads a packet of a remote peer.  The bytes that it looks at
are listed in the order of the source, with those of the sampled log lines;
all of them lie inside the received length, and nothing else can change what
the call does.  Every packet that an item asks for is counted as sent or as
failed, and every one that was tried and failed has one reason.
-/

/-! ## What is read -/

variable {tx : MtRtcpTx}

/-- `rtcp_tx_drop_invalid` prints the first sixteen bytes, and the fields of a whole header. -/
def dropReads (tx : MtRtcpTx) (reason : MtRtcpDropReason) (len : Nat) : List Nat :=
  if (tx.nackDropSeen reason + 1) % mtRtcpDropSample ≠ 1 then []
  else
    List.range (min len 16) ++ (if mtRtcpHdrSize ≤ len then [0, 1, 2, 3, 8, 9, 10, 11] else [])

def fciReads (index : Nat) : List Nat :=
  (List.range mtRtcpFciSize).map (fun byte => mtRtcpHdrSize + index * mtRtcpFciSize + byte)

/-- The places that `mt_rtcp_tx_parse_rtcp_packet` reads. -/
def mtRtcpTxParseReads (tx : MtRtcpTx) (memory : Nat -> Byte) (len : Nat) : List Nat :=
  if !tx.active then []
  else if len < mtRtcpHdrSize then dropReads tx .short len
  else
    0 :: (if memory 0 ≠ 0x80#8 then dropReads tx .flags len
    else
      1 :: (if (memory 1).toNat = mtRtcpPtypeNack then
        [8, 9, 10, 11] ++
          (if (List.range 4).map (fun index => memory (8 + index)) ≠ imtlName then
            dropReads tx .name len
          else
            [2, 3] ++
              (if rtcpBytes memory < mtRtcpHdrSize ∨ len < rtcpBytes memory then
                dropReads tx .len len
              else
                (List.range (min ((rtcpBytes memory - mtRtcpHdrSize) / mtRtcpFciSize)
                  mtRtcpMaxFcis)).flatMap fciReads))
      else []))

theorem dropReads_lt {reason : MtRtcpDropReason} {len place : Nat}
    (member : place ∈ dropReads tx reason len) : place < len := by
  unfold dropReads mtRtcpHdrSize at member
  split at member
  · cases member
  · rcases List.mem_append.mp member with dump | field
    · have bound := List.mem_range.mp dump
      omega
    · split at field
      · simp only [List.mem_cons, List.not_mem_nil, or_false] at field
        omega
      · cases field

theorem mtRtcpTxParseReads_lt {memory : Nat -> Byte} {len place : Nat}
    (member : place ∈ mtRtcpTxParseReads tx memory len) : place < len := by
  unfold mtRtcpTxParseReads at member
  split at member
  · cases member
  · split at member
    · exact dropReads_lt member
    · next header =>
        have whole : 12 ≤ len := Nat.le_of_not_lt header
        rcases List.mem_cons.mp member with rfl | member
        · omega
        · split at member
          · exact dropReads_lt member
          · rcases List.mem_cons.mp member with rfl | member
            · omega
            · split at member
              · rcases List.mem_append.mp member with field | member
                · simp only [List.mem_cons, List.not_mem_nil, or_false] at field
                  omega
                · split at member
                  · exact dropReads_lt member
                  · rcases List.mem_append.mp member with field | member
                    · simp only [List.mem_cons, List.not_mem_nil, or_false] at field
                      omega
                    · split at member
                      · exact dropReads_lt member
                      · rcases List.mem_flatMap.mp member with ⟨index, few, item⟩
                        rcases List.mem_map.mp item with ⟨byte, inItem, rfl⟩
                        have below := List.mem_range.mp few
                        have short := List.mem_range.mp inItem
                        unfold mtRtcpHdrSize mtRtcpFciSize at *
                        omega
              · cases member

theorem readBe16_congr {memory other : Nat -> Byte} {position : Nat}
    (first : other position = memory position)
    (second : other (position + 1) = memory (position + 1)) :
    readBe16 other position = readBe16 memory position := by
  unfold readBe16
  rw [first, second]

/-- The bytes that are read decide what the call does. -/
theorem mtRtcpTxParseRtcpPacket_congr {memory other : Nat -> Byte} {len : Nat}
    (same : ∀ place ∈ mtRtcpTxParseReads tx memory len, other place = memory place)
    (envs : Nat -> RetransmitEnv) :
    mtRtcpTxParseRtcpPacket tx other len envs = mtRtcpTxParseRtcpPacket tx memory len envs := by
  unfold mtRtcpTxParseReads at same
  unfold mtRtcpTxParseRtcpPacket
  split
  · rfl
  · next active =>
      rw [if_neg active] at same
      dsimp only
      split
      · rfl
      · next header =>
          rw [if_neg header] at same
          have flags := same 0 List.mem_cons_self
          replace same := fun place member => same place (List.mem_cons_of_mem _ member)
          rw [flags]
          split
          · rfl
          · next version =>
              rw [if_neg version] at same
              have kind := same 1 List.mem_cons_self
              replace same := fun place member => same place (List.mem_cons_of_mem _ member)
              rw [kind]
              split
              · next nack =>
                  rw [if_pos nack] at same
                  have name : (List.range 4).map (fun index => other (8 + index)) =
                      (List.range 4).map (fun index => memory (8 + index)) := by
                    apply List.map_congr_left
                    intro index few
                    have below := List.mem_range.mp few
                    apply same
                    apply List.mem_append_left
                    interval_cases index <;> decide
                  replace same := fun place member => same place (List.mem_append_right _ member)
                  rw [name]
                  split
                  · rfl
                  · next named =>
                      rw [if_neg named] at same
                      have length : readBe16 other 2 = readBe16 memory 2 :=
                        readBe16_congr (same 2 (List.mem_append_left _ (by decide)))
                          (same 3 (List.mem_append_left _ (by decide)))
                      replace same := fun place member =>
                        same place (List.mem_append_right _ member)
                      have bytes : rtcpBytes other = rtcpBytes memory := by
                        unfold rtcpBytes
                        rw [length]
                      rw [bytes]
                      split
                      · rfl
                      · next sized =>
                          rw [if_neg sized] at same
                          have items : (declaredFcis other).take mtRtcpMaxFcis =
                              (declaredFcis memory).take mtRtcpMaxFcis := by
                            unfold declaredFcis
                            rw [bytes, ← List.map_take, ← List.map_take, List.take_range]
                            apply List.map_congr_left
                            intro index few
                            have read : ∀ byte < 4,
                                other (mtRtcpHdrSize + index * mtRtcpFciSize + byte) =
                                  memory (mtRtcpHdrSize + index * mtRtcpFciSize + byte) := by
                              intro byte below
                              apply same
                              apply List.mem_flatMap.mpr
                              refine ⟨index, ?_, List.mem_map.mpr ⟨byte, List.mem_range.mpr below, rfl⟩⟩
                              rw [Nat.min_comm]
                              exact few
                            have start :
                                readBe16 other (mtRtcpHdrSize + index * mtRtcpFciSize) =
                                  readBe16 memory (mtRtcpHdrSize + index * mtRtcpFciSize) :=
                              readBe16_congr (read 0 (by decide)) (read 1 (by decide))
                            have follow :
                                readBe16 other (mtRtcpHdrSize + index * mtRtcpFciSize + 2) =
                                  readBe16 memory (mtRtcpHdrSize + index * mtRtcpFciSize + 2) :=
                              readBe16_congr (read 2 (by decide)) (read 3 (by decide))
                            unfold readFci
                            rw [start, follow]
                          rw [items]
              · rfl

/-! ## What is counted -/

def Retransmitted.total (out : Retransmitted) : Nat :=
  out.sent.length + out.failRead + out.failNobuf + out.failBurst

/-- The loop accounts for every packet of the range, and ends before its fuel does. -/
theorem retransmitLoop_total {env : RetransmitEnv} {skip bulk : Nat}
    (inside : skip + bulk ≤ tx.mbufRing.used) (fuel : Nat) :
    forall (done : Nat) (out : Retransmitted), done ≤ bulk -> bulk - done ≤ fuel -> out.total = done ->
      (retransmitLoop tx env skip bulk fuel done out).total = bulk ∧
      forall more, retransmitLoop tx env skip bulk (fuel + more) done out =
        retransmitLoop tx env skip bulk fuel done out := by
  induction fuel with
  | zero =>
    intro done out bound enough counted
    have finished : ¬ done < bulk := by omega
    refine ⟨by rw [retransmitLoop, counted]; omega, fun more => ?_⟩
    cases more with
    | zero => rfl
    | succ more =>
      rw [Nat.zero_add]
      unfold retransmitLoop
      rw [if_neg finished]
  | succ fuel ih =>
    intro done out bound enough counted
    simp only [Nat.add_right_comm fuel 1]
    by_cases more : done < bulk
    · have least : min (bulk - done) mtRtcpRetransmitBulk ≤ bulk - done := Nat.min_le_left _ _
      have positive : 0 < min (bulk - done) mtRtcpRetransmitBulk :=
        Nat.lt_min.mpr ⟨by omega, by decide⟩
      unfold retransmitLoop
      simp only [if_pos more]
      generalize min (bulk - done) mtRtcpRetransmitBulk = nb at least positive
      rw [mtU64FifoReadAnyBulk_eq_some (by omega)]
      dsimp only
      have few := rtcpTxCopyCount_le env done nb
      have taken := env.burst_le done (rtcpTxCopyCount env done nb)
      generalize rtcpTxCopyCount env done nb = nbRt at few taken ⊢
      generalize env.burst done nbRt = sent at taken ⊢
      have chunk : (((tx.mbufRing.contents.drop (skip + done)).take nb).take nbRt).length = nbRt := by
        rw [List.length_take, List.length_take, List.length_drop, MtU64Fifo.length_contents]
        omega
      unfold Retransmitted.total at counted ih ⊢
      split
      · refine ⟨?_, fun _ => rfl⟩
        simp only [List.length_append, List.length_take, List.length_map] at chunk ⊢
        split <;> split <;> omega
      · split
        · refine ⟨?_, fun _ => rfl⟩
          simp only [List.length_append, List.length_take, List.length_map] at chunk ⊢
          omega
        · apply ih (done + nb)
          · omega
          · omega
          · simp only [List.length_append, List.length_take, List.length_map] at chunk ⊢
            omega
    · unfold retransmitLoop
      simp only [if_neg more]
      exact ⟨by omega, fun _ => trivial⟩

def MtRtcpTx.reasons (tx : MtRtcpTx) : Nat :=
  tx.statRtpRetransmitFailNobuf + tx.statRtpRetransmitFailRead + tx.statRtpRetransmitFailObsolete +
    tx.statRtpRetransmitFailBurst

/-- One range that the budget allows: every packet is counted once. -/
structure RangeCounted (tx : MtRtcpTx) (bulk : Nat) (result : RetransmitResult) : Prop where
  few : result.sent.length ≤ bulk
  succ : result.tx.statRtpRetransmitSucc = tx.statRtpRetransmitSucc + result.sent.length
  fail : result.tx.statRtpRetransmitFail = tx.statRtpRetransmitFail + (bulk - result.sent.length)
  reasons : result.tx.reasons = tx.reasons + (bulk - result.sent.length)

theorem rtcpTxRetransmitRtpPackets_counted {bulk : Nat} (env : RetransmitEnv) (seq : Nat)
    (positive : 0 < bulk) (enough : bulk ≤ tx.mbufRing.used) :
    RangeCounted tx bulk (rtcpTxRetransmitRtpPackets tx env seq bulk) := by
  unfold rtcpTxRetransmitRtpPackets
  rw [if_neg (by omega), mtU64FifoReadFront_eq_head?]
  cases front : tx.mbufRing.contents.head? with
  | none =>
    have empty := congrArg List.length (List.head?_eq_none_iff.mp front)
    rw [MtU64Fifo.length_contents, List.length_nil] at empty
    omega
  | some oldest =>
    dsimp only
    split
    · refine ⟨Nat.zero_le _, rfl, rfl, ?_⟩
      simp only [MtRtcpTx.reasons, retransmitExit, nothingSent, List.length_nil]
      omega
    · split
      · refine ⟨Nat.zero_le _, rfl, rfl, ?_⟩
        simp only [MtRtcpTx.reasons, retransmitExit, nothingSent, List.length_nil]
        omega
      · next within =>
          unfold mtU64FifoCount at within
          have counted := (@retransmitLoop_total tx env (u16 ((seq : Int) - oldest.seqNumber)) bulk
            (by omega) bulk 0 nothingSent (Nat.zero_le _) (by omega) rfl).1
          unfold Retransmitted.total at counted
          refine ⟨by dsimp only; omega, rfl, rfl, ?_⟩
          simp only [MtRtcpTx.reasons, retransmitExit]
          omega

def requested (fcis : List MtRtcpFci) : Nat := (fcis.map (fun fci => fci.follow + 1)).sum

def overBudget : Nat -> List MtRtcpFci -> Nat
  | _, [] => 0
  | budget, fci :: rest =>
    (if budget < fci.follow + 1 then fci.follow + 1 else 0) + overBudget (budgetAfter budget fci) rest

/-- The items of a NACK: all that they ask for is counted, and every packet
that was tried and failed has one reason. -/
structure ItemsCounted (tx after : MtRtcpTx) (budget : Nat) (fcis : List MtRtcpFci)
    (outcomes : List FciOutcome) : Prop where
  total : after.statRtpRetransmitSucc + after.statRtpRetransmitFail =
    tx.statRtpRetransmitSucc + tx.statRtpRetransmitFail + requested fcis
  succ : after.statRtpRetransmitSucc =
    tx.statRtpRetransmitSucc + (outcomes.map (fun outcome => outcome.sent.length)).sum
  reasons : after.statRtpRetransmitFail + tx.reasons =
    tx.statRtpRetransmitFail + after.reasons + overBudget budget fcis
  few : ∀ outcome ∈ outcomes, outcome.sent.length ≤ tx.mbufRing.used

theorem nackItemsLoop_counted (envs : Nat -> RetransmitEnv) (fcis : List MtRtcpFci) :
    forall (index budget : Nat) (tx : MtRtcpTx), budget ≤ tx.mbufRing.used ->
      ItemsCounted tx (nackItemsLoop envs fcis index budget tx).1 budget fcis
        (nackItemsLoop envs fcis index budget tx).2 := by
  induction fcis with
  | nil =>
    intro index budget tx _
    exact ⟨rfl, rfl, rfl, fun outcome member => by cases member⟩
  | cons fci rest ih =>
    intro index budget tx enough
    rw [nackItemsLoop]
    dsimp only
    split
    · next excess =>
        have kept : budgetAfter budget fci = budget := if_neg (by omega)
        rcases ih (index + 1) budget { tx with
          statRtpRetransmitFail := tx.statRtpRetransmitFail + (fci.follow + 1) } enough with
          ⟨total, succ, reasons, few⟩
        refine ⟨?_, ?_, ?_, ?_⟩
        · simp only [requested, List.map_cons, List.sum_cons] at total ⊢
          omega
        · simpa using succ
        · simp only [overBudget, kept, if_pos excess, MtRtcpTx.reasons] at reasons ⊢
          omega
        · intro outcome member
          rcases List.mem_cons.mp member with rfl | member
          · exact Nat.zero_le _
          · exact few outcome member
    · next within =>
        have spent : budgetAfter budget fci = budget - (fci.follow + 1) := if_pos (by omega)
        have range := @rtcpTxRetransmitRtpPackets_counted tx (fci.follow + 1) (envs index) fci.start
          (Nat.succ_pos _) (by omega)
        have same := rtcpTxRetransmitRtpPackets_sameRing tx (envs index) fci.start (fci.follow + 1)
        generalize rtcpTxRetransmitRtpPackets tx (envs index) fci.start (fci.follow + 1) = result
          at range same ⊢
        rcases ih (index + 1) (budget - (fci.follow + 1)) result.tx
          (by rw [same.mbufRing]; omega) with ⟨total, succ, reasons, few⟩
        have sent := range.few
        refine ⟨?_, ?_, ?_, ?_⟩
        · rw [range.succ, range.fail] at total
          simp only [requested, List.map_cons, List.sum_cons] at total ⊢
          omega
        · rw [range.succ] at succ
          simp only [List.map_cons, List.sum_cons]
          omega
        · rw [range.fail, range.reasons] at reasons
          simp only [overBudget, spent, if_neg within]
          omega
        · intro outcome member
          rcases List.mem_cons.mp member with rfl | member
          · dsimp only
            omega
          · rw [same.mbufRing] at few
            exact few outcome member

/-! ## The whole call -/

/-- What is promised for a packet of any bytes. -/
structure ParsedSafely (tx : MtRtcpTx) (memory : Nat -> Byte) (len : Nat)
    (envs : Nat -> RetransmitEnv) (result : ParseResult) : Prop where
  inside : ∀ place ∈ mtRtcpTxParseReads tx memory len, place < len
  decided : forall other : Nat -> Byte,
    (∀ place ∈ mtRtcpTxParseReads tx memory len, other place = memory place) ->
    mtRtcpTxParseRtcpPacket tx other len envs = result
  items : result.outcomes.length ≤ mtRtcpMaxFcis
  processed : tx.active = true ∧ AcceptedNack memory len ->
    result.outcomes.map FciOutcome.fci = (declaredFcis memory).take mtRtcpMaxFcis
  ignored : ¬ (tx.active = true ∧ AcceptedNack memory len) -> result.outcomes = []
  counted : ItemsCounted tx result.tx (mtU64FifoCount tx.mbufRing)
    (result.outcomes.map FciOutcome.fci) result.outcomes

/-- Every packet is parsed safely, and the loop over a range that is in the ring
ends before its fuel does. -/
theorem rtcp_parser_safe (tx : MtRtcpTx) (memory : Nat -> Byte) (len : Nat)
    (envs : Nat -> RetransmitEnv) :
    ParsedSafely tx memory len envs (mtRtcpTxParseRtcpPacket tx memory len envs) ∧
      forall (env : RetransmitEnv) (diff bulk more : Nat), diff + bulk ≤ mtU64FifoCount tx.mbufRing ->
        retransmitLoop tx env diff bulk (bulk + more) 0 nothingSent =
          retransmitLoop tx env diff bulk bulk 0 nothingSent := by
  refine ⟨⟨fun place => mtRtcpTxParseReads_lt, fun other same =>
    mtRtcpTxParseRtcpPacket_congr same envs, ?items, fun accepted => ?processed, fun refused =>
    (mtRtcpTxParseRtcpPacket_dropped refused envs).1, ?counted⟩, fun env diff bulk more inside =>
    (retransmitLoop_total inside bulk 0 nothingSent (Nat.zero_le _) (Nat.sub_le _ _) rfl).2 more⟩
  case processed =>
    rw [mtRtcpTxParseRtcpPacket_accepted accepted.1 accepted.2]
    exact nackItemsLoop_fcis envs _ 0 (mtU64FifoCount tx.mbufRing) (nackReceived tx)
  all_goals by_cases accepted : tx.active = true ∧ AcceptedNack memory len
  · rw [mtRtcpTxParseRtcpPacket_accepted accepted.1 accepted.2]
    have names := congrArg List.length (nackItemsLoop_fcis envs
      ((declaredFcis memory).take mtRtcpMaxFcis) 0 (mtU64FifoCount tx.mbufRing) (nackReceived tx))
    rw [List.length_map, List.length_take] at names
    dsimp only
    omega
  · rw [(mtRtcpTxParseRtcpPacket_dropped accepted envs).1]
    exact Nat.zero_le _
  · rw [mtRtcpTxParseRtcpPacket_accepted accepted.1 accepted.2]
    dsimp only
    rw [nackItemsLoop_fcis]
    rcases nackItemsLoop_counted envs ((declaredFcis memory).take mtRtcpMaxFcis) 0
      (mtU64FifoCount tx.mbufRing) (nackReceived tx) (Nat.le_refl _) with
      ⟨total, succ, reasons, few⟩
    exact ⟨total, succ, reasons, few⟩
  · rcases mtRtcpTxParseRtcpPacket_dropped accepted envs with ⟨none, drops⟩
    rw [none]
    generalize (mtRtcpTxParseRtcpPacket tx memory len envs).tx = after at drops
    rcases drops with ⟨sampled, invalid, reason, seen, received, rfl⟩
    exact ⟨rfl, rfl, rfl, fun outcome member => by cases member⟩

end MediaTransport.Rtcp
