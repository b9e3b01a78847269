import Mathlib.Data.List.TakeWhile
import MediaTransport.Library.Run
import MediaTransport.Rtcp.Transmitter

namespace MediaTransport.Rtcp

open Library Util

/-!
# The ring of sent packets

The transmitter finds a packet by counting from the head of its ring, so
everything rests on the numbers in the ring being consecutive.  `RingRun`
states that, together with the link between the newest packet and
`last_seq_num` on which the order check relies.  Both are kept by every call,
also by one that evicts packets and then refuses the bulk.  This gives
what is retransmitted for each item of a NACK.
-/

variable (tx : MtRtcpTx) (env : RetransmitEnv)

variable {memory : Nat -> Byte} {next : MtRtcpTx} {ring : MtU64Fifo RtpMbuf} {skip : Nat}

def Consecutive (packets : List RtpMbuf) : Prop :=
  exists head : Int, packets.map RtpMbuf.seqNumber = seqRun head packets.length

/-- The ring holds consecutive numbers, and the newest is `last_seq_num`. -/
structure RingRun (tx : MtRtcpTx) (head : Int) : Prop where
  numbers : tx.mbufRing.contents.map RtpMbuf.seqNumber = seqRun head tx.mbufRing.used
  last : tx.mbufRing.used ≠ 0 -> tx.lastSeqNum = u16 (head + tx.mbufRing.used - 1)

def RingInvariant (tx : MtRtcpTx) : Prop :=
  (exists head, RingRun tx head) ∧ tx.mbufRing.size ≤ 32768

theorem RingRun.consecutive {tx : MtRtcpTx} {head : Int} (ring : RingRun tx head) :
    Consecutive tx.mbufRing.contents :=
  ⟨head, by rw [ring.numbers, MtU64Fifo.length_contents]⟩

/-! ## Buffering -/

section

variable {bulk : Bulk} {head : Int}
    (numbers : bulk.packets.map RtpMbuf.seqNumber = seqRun head bulk.packets.length)

include numbers

theorem Bulk.last_seqNumber :
    bulk.last.seqNumber = u16 (head + bulk.packets.length - 1) := by
  have last : (bulk.packets.map RtpMbuf.seqNumber).getLast? = some bulk.last.seqNumber := by
    rw [List.getLast?_map, Bulk.packets, List.getLast?_cons, Option.map_some, Bulk.last,
      List.getLastD_eq_getLast?]
  have count : bulk.packets.length = bulk.rest.length + 1 := List.length_cons
  rw [numbers, count, seqRun_add, seqRun, seqRun, List.range_one, List.map_singleton,
    List.getLast?_append, List.getLast?_singleton] at last
  rw [← Option.some.inj last, count]
  congr 1
  push_cast
  omega

theorem Bulk.first_seqNumber :
    bulk.first.seqNumber = u16 head := by
  have first := congrArg List.head? numbers
  rw [head?_seqRun head (by simp [Bulk.packets]), Bulk.packets, List.map_cons,
    List.head?_cons] at first
  exact Option.some.inj first

end

theorem rtcpTxEvict_ring {tx : MtRtcpTx} {head : Int} {count : Nat} (ring : RingRun tx head)
    (evicted : rtcpTxEvict tx count = some next) :
    (exists head, RingRun next head) ∧ next.mbufRing.size = tx.mbufRing.size := by
  unfold rtcpTxEvict at evicted
  split at evicted
  · obtain ⟨⟨taken, rest⟩, removed, rfl⟩ := Option.map_eq_some_iff.mp evicted
    obtain ⟨-, contents, size⟩ := mtU64FifoGetBulk_eq_some removed
    have used : rest.used = tx.mbufRing.used - count := by
      rw [← MtU64Fifo.length_contents, contents, List.length_drop, MtU64Fifo.length_contents]
    have enough : count ≤ tx.mbufRing.used := by
      unfold mtU64FifoGetBulk at removed
      split at removed
      · assumption
      · cases removed
    refine ⟨⟨head + count, ?_, ?_⟩, size⟩
    · rw [contents, List.map_drop, ring.numbers, seqRun_drop _ enough, used]
    · intro some
      have last := ring.last (by omega)
      rw [last]
      simp only [used]
      congr 1
      omega
  · cases evicted
    exact ⟨⟨head, ring⟩, rfl⟩

theorem RingRun.of_empty {tx : MtRtcpTx} {bulk : Bulk} {head : Int}
    (empty : tx.mbufRing.used = 0)
    (numbers : bulk.packets.map RtpMbuf.seqNumber = seqRun head bulk.packets.length)
    (stored : mtU64FifoPutBulk tx.mbufRing bulk.packets = some ring) (sent : Nat) :
    RingRun { tx with
      mbufRing := ring, lastSeqNum := bulk.last.seqNumber, statRtpSent := sent } head := by
  have contents : ring.contents = bulk.packets := by
    have none : tx.mbufRing.contents = [] := by
      rw [← List.length_eq_zero_iff, MtU64Fifo.length_contents, empty]
    rw [(mtU64FifoPutBulk_eq_some stored).1, none, List.nil_append]
  have used : ring.used = bulk.packets.length := by
    rw [← MtU64Fifo.length_contents, contents]
  constructor
  · rw [contents, used]
    exact numbers
  · intro _
    simp only [used]
    exact Bulk.last_seqNumber numbers

theorem RingRun.append {tx : MtRtcpTx} {bulk : Bulk}
    {head first : Int} (run : RingRun tx head) (filled : tx.mbufRing.used ≠ 0)
    (numbers : bulk.packets.map RtpMbuf.seqNumber = seqRun first bulk.packets.length)
    (next : u16 ((bulk.first.seqNumber : Int) - tx.lastSeqNum) = 1)
    (stored : mtU64FifoPutBulk tx.mbufRing bulk.packets = some ring) (sent : Nat) :
    RingRun { tx with
      mbufRing := ring, lastSeqNum := bulk.last.seqNumber, statRtpSent := sent } head := by
  have contents := (mtU64FifoPutBulk_eq_some stored).1
  have used : ring.used = tx.mbufRing.used + bulk.packets.length := by
    rw [← MtU64Fifo.length_contents, contents, List.length_append, MtU64Fifo.length_contents]
  have joined : u16 first = u16 (head + tx.mbufRing.used) := by
    rw [run.last filled, Bulk.first_seqNumber numbers] at next
    simp only [u16_eq] at next ⊢
    omega
  constructor
  · rw [contents, used, List.map_append, run.numbers, numbers, seqRun_add,
      seqRun_congr joined]
  · intro _
    simp only [used]
    rw [Bulk.last_seqNumber numbers]
    simp only [u16_eq] at joined ⊢
    push_cast
    omega

theorem mtRtcpTxBufferRtpPackets_ring {tx : MtRtcpTx} {bulk : Bulk} (ring : RingInvariant tx)
    (consecutive : Consecutive bulk.packets) :
    RingInvariant (mtRtcpTxBufferRtpPackets tx bulk).1 := by
  obtain ⟨⟨head, run⟩, small⟩ := ring
  obtain ⟨first, numbers⟩ := consecutive
  unfold mtRtcpTxBufferRtpPackets
  split
  · exact ⟨⟨head, run⟩, small⟩
  · split
    · exact ⟨⟨head, run⟩, small⟩
    · rename_i next evicted
      obtain ⟨⟨rest, kept⟩, size⟩ := rtcpTxEvict_ring run evicted
      simp only
      split
      · exact ⟨⟨rest, kept⟩, by rw [size]; exact small⟩
      · rename_i accepted
        split
        · exact ⟨⟨rest, kept⟩, by rw [size]; exact small⟩
        · rename_i stored storing
          have room := (mtU64FifoPutBulk_eq_some storing).2
          refine ⟨?_, by simp only [room, size]; exact small⟩
          rcases Nat.eq_zero_or_pos next.mbufRing.used with empty | filled
          · exact ⟨first, RingRun.of_empty empty numbers storing _⟩
          · have ordered : u16 ((bulk.first.seqNumber : Int) - next.lastSeqNum) = 1 := by
              by_contra different
              exact accepted ⟨different, Nat.ne_of_gt filled⟩
            exact ⟨rest, kept.append (Nat.ne_of_gt filled) numbers ordered storing _⟩

/-! ## Retransmitting one range -/

def RetransmitEnv.Succeeds : Prop :=
  (forall index, env.copied index = true) ∧ forall done count, env.burst done count = count

theorem rtcpTxCopyCount_le (done count : Nat) : rtcpTxCopyCount env done count ≤ count := by
  have shorter := (@List.takeWhile_prefix _ (List.range count)
    (fun index => env.copied (done + index))).length_le
  rw [List.length_range] at shorter
  exact shorter

theorem rtcpTxCopyCount_eq {env : RetransmitEnv} (succeeds : env.Succeeds) (done count : Nat) :
    rtcpTxCopyCount env done count = count := by
  unfold rtcpTxCopyCount
  rw [List.takeWhile_eq_self_iff.mpr (fun index _ => succeeds.1 (done + index)), List.length_range]

@[simp] theorem rtcpTxCopy_seqNumber (payloadFormat : MtRtpPayloadFormat) (mbuf : RtpMbuf) :
    (rtcpTxCopy payloadFormat mbuf).seqNumber = mbuf.seqNumber := by
  unfold rtcpTxCopy
  split <;> rfl

/-- The copies of the `bulk` packets behind the first `skip` packets. -/
def copiesOf (tx : MtRtcpTx) (skip bulk : Nat) : List RtpMbuf :=
  ((tx.mbufRing.contents.drop skip).take bulk).map (rtcpTxCopy tx.payloadFormat)

theorem chunk_sent (tx : MtRtcpTx) {bulk done nb kept : Nat} (inside : done + nb ≤ bulk)
    (few : kept ≤ nb) :
    (copiesOf tx skip bulk).take done ++
        (((tx.mbufRing.contents.drop (skip + done)).take nb).take kept).map
          (rtcpTxCopy tx.payloadFormat) =
      (copiesOf tx skip bulk).take (done + kept) := by
  have rest : ((tx.mbufRing.contents.drop (skip + done)).take nb).take kept =
      (((tx.mbufRing.contents.drop skip).take bulk).drop done).take kept := by
    rw [List.take_take, List.drop_take, List.drop_drop, List.take_take,
      Nat.min_eq_left few, Nat.min_eq_left (by omega)]
  unfold copiesOf
  rw [rest, ← List.map_take, ← List.map_append, ← List.take_add, List.map_take]

/-- The loop sends a first part of the range, and all of it when nothing fails. -/
theorem retransmitLoop_sent {tx : MtRtcpTx} {env : RetransmitEnv} {skip bulk : Nat}
    (inside : skip + bulk ≤ tx.mbufRing.used) (fuel : Nat) :
    forall (done : Nat) (out : Retransmitted), done ≤ bulk ->
      out.sent = (copiesOf tx skip bulk).take done ->
      (exists kept, (retransmitLoop tx env skip bulk fuel done out).sent =
        (copiesOf tx skip bulk).take kept) ∧
      (env.Succeeds -> bulk - done ≤ fuel ->
        (retransmitLoop tx env skip bulk fuel done out).sent = copiesOf tx skip bulk) := by
  have whole : (copiesOf tx skip bulk).take bulk = copiesOf tx skip bulk := by
    unfold copiesOf
    rw [← List.map_take, List.take_take, Nat.min_self]
  induction fuel with
  | zero =>
    intro done out bound sent
    refine ⟨⟨done, sent⟩, fun _ enough => ?_⟩
    have finished : done = bulk := by omega
    rw [finished, whole] at sent
    exact sent
  | succ fuel ih =>
    intro done out bound sent
    rw [retransmitLoop]
    split
    · rename_i more
      simp only
      have least : min (bulk - done) mtRtcpRetransmitBulk ≤ bulk - done := Nat.min_le_left _ _
      have positive : 0 < min (bulk - done) mtRtcpRetransmitBulk :=
        Nat.lt_min.mpr ⟨by omega, by decide⟩
      generalize min (bulk - done) mtRtcpRetransmitBulk = nb at least positive
      rw [mtU64FifoReadAnyBulk_eq_some (by omega)]
      simp only
      have few := rtcpTxCopyCount_le env done nb
      have taken := env.burst_le done (rtcpTxCopyCount env done nb)
      have added : out.sent ++ ((((tx.mbufRing.contents.drop (skip + done)).take nb).take
          (rtcpTxCopyCount env done nb)).map (rtcpTxCopy tx.payloadFormat)).take
            (env.burst done (rtcpTxCopyCount env done nb)) =
          (copiesOf tx skip bulk).take
            (done + env.burst done (rtcpTxCopyCount env done nb)) := by
        have inner : forall chunk : List RtpMbuf,
            (chunk.take (rtcpTxCopyCount env done nb)).take
                (env.burst done (rtcpTxCopyCount env done nb)) =
              chunk.take (env.burst done (rtcpTxCopyCount env done nb)) := by
          intro chunk
          rw [List.take_take, Nat.min_eq_left taken]
        rw [sent, ← List.map_take, inner]
        exact chunk_sent tx (by omega) (by omega)
      split
      · rename_i refused
        refine ⟨⟨_, added⟩, fun succeeds _ => ?_⟩
        rw [succeeds.2] at refused
        omega
      · split
        · rename_i accepted short
          refine ⟨⟨_, added⟩, fun succeeds _ => ?_⟩
          rw [rtcpTxCopyCount_eq succeeds] at short
          omega
        · rename_i accepted all
          have full : env.burst done (rtcpTxCopyCount env done nb) = nb := by omega
          rw [full] at added ⊢
          have later := fun out sent => ih (done + nb) out (by omega) sent
          exact ⟨(later _ added).1, fun succeeds enough => (later _ added).2 succeeds (by omega)⟩
    · rename_i finished
      have equal : done = bulk := by omega
      rw [equal, whole] at sent
      exact ⟨⟨bulk, by rw [whole]; exact sent⟩, fun _ _ => sent⟩

def Buffered (ring : MtU64Fifo RtpMbuf) (fci : MtRtcpFci) : Prop :=
  ∀ seq ∈ fci.expand, exists mbuf, mbuf ∈ ring.contents ∧ mbuf.seqNumber = seq

instance (ring : MtU64Fifo RtpMbuf) (fci : MtRtcpFci) : Decidable (Buffered ring fci) :=
  inferInstanceAs (Decidable (∀ seq ∈ fci.expand, _))

theorem fci_expand_eq (fci : MtRtcpFci) : fci.expand = seqRun fci.start (fci.follow + 1) := rfl

theorem buffered_of_inside {tx : MtRtcpTx} {head : Int} {fci : MtRtcpFci}
    (ring : RingRun tx head) (found : u16 (head + skip) = u16 (fci.start : Int))
    (inside : skip + (fci.follow + 1) ≤ tx.mbufRing.used) : Buffered tx.mbufRing fci := by
  intro seq member
  rw [fci_expand_eq, ← seqRun_congr found] at member
  obtain ⟨index, below, rfl⟩ := mem_seqRun.mp member
  have stored : u16 (head + skip + index) ∈ tx.mbufRing.contents.map RtpMbuf.seqNumber := by
    rw [ring.numbers]
    exact mem_seqRun.mpr ⟨skip + index, by omega, by push_cast; rw [Int.add_assoc]⟩
  obtain ⟨mbuf, inRing, number⟩ := List.mem_map.mp stored
  exact ⟨mbuf, inRing, number⟩

theorem Buffered.inside {tx : MtRtcpTx} {head : Int} {fci : MtRtcpFci}
    (buffered : Buffered tx.mbufRing fci) (ring : RingRun tx head) (small : tx.mbufRing.used ≤ 32768)
    (short : fci.follow + 1 ≤ 32768) :
    u16 ((fci.start : Int) - head) + (fci.follow + 1) ≤ tx.mbufRing.used := by
  have position : ∀ index ≤ fci.follow, exists place, place < tx.mbufRing.used ∧
      u16 ((fci.start : Int) + index) = u16 (head + place) := by
    intro index below
    obtain ⟨mbuf, inRing, number⟩ := buffered (u16 ((fci.start : Int) + index))
      (mem_seqRun.mpr ⟨index, by omega, rfl⟩)
    have stored := List.mem_map_of_mem (f := RtpMbuf.seqNumber) inRing
    rw [ring.numbers] at stored
    obtain ⟨place, bound, equal⟩ := mem_seqRun.mp stored
    exact ⟨place, bound, number.symm.trans equal⟩
  obtain ⟨first, firstBound, firstEqual⟩ := position 0 (Nat.zero_le _)
  obtain ⟨last, lastBound, lastEqual⟩ := position fci.follow (le_refl _)
  simp only [u16_eq] at firstEqual lastEqual ⊢
  push_cast at firstEqual
  omega

/-- What is retransmitted for one item, given the budget that is left for it. -/
structure Served (ring : MtU64Fifo RtpMbuf) (payloadFormat : MtRtpPayloadFormat)
    (env : RetransmitEnv) (budget : Nat) (fci : MtRtcpFci) (sent : List RtpMbuf) : Prop where
  within : ∀ mbuf ∈ sent, mbuf.seqNumber ∈ fci.expand
  copies : ∀ mbuf ∈ sent,
    exists stored, stored ∈ ring.contents ∧ mbuf = rtcpTxCopy payloadFormat stored
  complete : Buffered ring fci -> fci.follow + 1 ≤ budget -> env.Succeeds ->
    sent.map RtpMbuf.seqNumber = fci.expand
  refused : ¬(Buffered ring fci ∧ fci.follow + 1 ≤ budget) -> sent = []

theorem Served.nothing {payloadFormat : MtRtpPayloadFormat}
    {env : RetransmitEnv} {budget : Nat} {fci : MtRtcpFci}
    (unable : ¬(Buffered ring fci ∧ fci.follow + 1 ≤ budget)) :
    Served ring payloadFormat env budget fci [] where
  within := by simp
  copies := by simp
  complete := fun buffered affordable _ => absurd ⟨buffered, affordable⟩ unable
  refused := fun _ => rfl

section

variable {tx : MtRtcpTx} {head : Int} {fci : MtRtcpFci}

theorem copiesOf_seqNumber
    (ring : RingRun tx head) (found : u16 (head + skip) = u16 (fci.start : Int))
    (inside : skip + (fci.follow + 1) ≤ tx.mbufRing.used) :
    (copiesOf tx skip (fci.follow + 1)).map RtpMbuf.seqNumber = fci.expand := by
  unfold copiesOf
  rw [List.map_map, show RtpMbuf.seqNumber ∘ rtcpTxCopy tx.payloadFormat = RtpMbuf.seqNumber from
    funext (fun mbuf => rtcpTxCopy_seqNumber tx.payloadFormat mbuf), List.map_take, List.map_drop,
    ring.numbers, seqRun_drop _ (by omega), seqRun_take _ (by omega), fci_expand_eq]
  exact seqRun_congr found _

theorem retransmitLoop_served {budget : Nat}
    (env : RetransmitEnv) (ring : RingRun tx head)
    (found : u16 (head + skip) = u16 (fci.start : Int))
    (inside : skip + (fci.follow + 1) ≤ tx.mbufRing.used) (affordable : fci.follow + 1 ≤ budget) :
    Served tx.mbufRing tx.payloadFormat env budget fci
      (retransmitLoop tx env skip (fci.follow + 1) (fci.follow + 1) 0 nothingSent).sent := by
  obtain ⟨⟨kept, part⟩, whole⟩ := @retransmitLoop_sent tx env skip _ inside
    (fci.follow + 1) 0 nothingSent (Nat.zero_le _) rfl
  have numbers := copiesOf_seqNumber ring found inside
  refine ⟨?_, ?_, ?_, ?_⟩
  · intro mbuf member
    rw [part] at member
    rw [← numbers]
    exact List.mem_map_of_mem (List.mem_of_mem_take member)
  · intro mbuf member
    rw [part] at member
    obtain ⟨stored, inRange, rfl⟩ := List.mem_map.mp (List.mem_of_mem_take member)
    exact ⟨stored, List.mem_of_mem_drop (List.mem_of_mem_take inRange), rfl⟩
  · intro _ _ succeeds
    rw [whole succeeds (by omega), numbers]
  · intro unable
    exact absurd ⟨buffered_of_inside ring found inside, affordable⟩ unable

theorem rtcpTxRetransmitRtpPackets_served
    {budget : Nat} (env : RetransmitEnv) (ring : RingRun tx head)
    (small : tx.mbufRing.size ≤ 32768) (start : fci.start < 65536)
    (affordable : fci.follow + 1 ≤ budget) (enough : budget ≤ tx.mbufRing.used) :
    Served tx.mbufRing tx.payloadFormat env budget fci
      (rtcpTxRetransmitRtpPackets tx env fci.start (fci.follow + 1)).sent := by
  have few := tx.mbufRing.used_le
  unfold rtcpTxRetransmitRtpPackets
  rw [if_neg (Nat.succ_ne_zero _), mtU64FifoReadFront_eq_head?]
  cases front : tx.mbufRing.contents.head? with
  | none =>
    have empty := congrArg List.length (List.head?_eq_none_iff.mp front)
    rw [MtU64Fifo.length_contents, List.length_nil] at empty
    omega
  | some oldest =>
    have first : oldest.seqNumber = u16 head := by
      have mapped := congrArg List.head? ring.numbers
      rw [List.head?_map, front, head?_seqRun head (by omega)] at mapped
      exact Option.some.inj mapped
    have distance : u16 ((fci.start : Int) - oldest.seqNumber) =
        u16 ((fci.start : Int) - head) := by
      rw [first]
      simp only [u16_eq]
      omega
    have found : u16 (head + (u16 ((fci.start : Int) - head) : Nat)) =
        u16 (fci.start : Int) := by
      simp only [u16_eq]
      omega
    simp only [distance]
    split
    · rename_i obsolete
      apply Served.nothing
      rintro ⟨buffered, -⟩
      have inside := buffered.inside ring (by omega) (by omega)
      rw [first, ← u16_of_lt start, ← found] at obsolete
      rcases Nat.eq_zero_or_pos (u16 ((fci.start : Int) - head)) with same | after
      · rw [same, Nat.cast_zero, Int.add_zero, rtpSeqNumCmp_self] at obsolete
        omega
      · rw [rtpSeqNumCmp_of_lt (by omega) (by omega)] at obsolete
        omega
    · split
      · rename_i beyond
        apply Served.nothing
        rintro ⟨buffered, -⟩
        have inside := buffered.inside ring (by omega) (by omega)
        unfold mtU64FifoCount at beyond
        omega
      · rename_i within
        unfold mtU64FifoCount at within
        exact retransmitLoop_served env ring found (by omega) affordable

end

/-! ## The items of one NACK -/

/-- The parts of a transmitter that retransmitting leaves alone. -/
structure SameRing (tx next : MtRtcpTx) : Prop where
  active : next.active = tx.active
  payloadFormat : next.payloadFormat = tx.payloadFormat
  mbufRing : next.mbufRing = tx.mbufRing
  lastSeqNum : next.lastSeqNum = tx.lastSeqNum

theorem SameRing.trans {tx middle : MtRtcpTx} (first : SameRing tx middle)
    (second : SameRing middle next) : SameRing tx next :=
  ⟨second.active.trans first.active, second.payloadFormat.trans first.payloadFormat,
    second.mbufRing.trans first.mbufRing, second.lastSeqNum.trans first.lastSeqNum⟩

theorem SameRing.run {tx : MtRtcpTx} {head : Int} (same : SameRing tx next)
    (ring : RingRun tx head) : RingRun next head where
  numbers := by rw [same.mbufRing]; exact ring.numbers
  last := by rw [same.mbufRing, same.lastSeqNum]; exact ring.last

theorem rtcpTxRetransmitRtpPackets_sameRing (seq bulk : Nat)
    : SameRing tx (rtcpTxRetransmitRtpPackets tx env seq bulk).tx := by
  unfold rtcpTxRetransmitRtpPackets
  split
  · exact ⟨rfl, rfl, rfl, rfl⟩
  · split
    · exact ⟨rfl, rfl, rfl, rfl⟩
    · split
      · exact ⟨rfl, rfl, rfl, rfl⟩
      · simp only
        split
        · exact ⟨rfl, rfl, rfl, rfl⟩
        · exact ⟨rfl, rfl, rfl, rfl⟩

theorem nackItemsLoop_sameRing (envs : Nat -> RetransmitEnv) (fcis : List MtRtcpFci) :
    forall (index budget : Nat) (tx : MtRtcpTx),
      SameRing tx (nackItemsLoop envs fcis index budget tx).1 := by
  induction fcis with
  | nil =>
    intro index budget tx
    exact ⟨rfl, rfl, rfl, rfl⟩
  | cons fci rest ih =>
    intro index budget tx
    rw [nackItemsLoop]
    simp only
    split
    · have counted : SameRing tx { tx with
          statRtpRetransmitFail := tx.statRtpRetransmitFail + (fci.follow + 1) } :=
        ⟨rfl, rfl, rfl, rfl⟩
      exact counted.trans (ih _ _ _)
    · exact (rtcpTxRetransmitRtpPackets_sameRing tx _ _ _).trans (ih _ _ _)

/-- The budget that is left after an item: an item that asks for more than is
left costs nothing. -/
def budgetAfter (budget : Nat) (fci : MtRtcpFci) : Nat :=
  if fci.follow + 1 ≤ budget then budget - (fci.follow + 1) else budget

theorem budgetAfter_le (budget : Nat) (fci : MtRtcpFci) : budgetAfter budget fci ≤ budget := by
  unfold budgetAfter
  split <;> omega

theorem nackItemsLoop_fcis (envs : Nat -> RetransmitEnv) (fcis : List MtRtcpFci) :
    forall (index budget : Nat) (tx : MtRtcpTx),
      (nackItemsLoop envs fcis index budget tx).2.map FciOutcome.fci = fcis := by
  induction fcis with
  | nil =>
    intro index budget tx
    rfl
  | cons fci rest ih =>
    intro index budget tx
    rw [nackItemsLoop]
    simp only
    split
    · rw [List.map_cons, ih]
    · rw [List.map_cons, ih]

/-- Each outcome is served from the budget that the items before it leave. -/
theorem nackItemsLoop_served {head : Int} (envs : Nat -> RetransmitEnv) (fcis : List MtRtcpFci) :
    forall (index budget : Nat) (tx : MtRtcpTx), RingRun tx head ->
      tx.mbufRing.size ≤ 32768 -> budget ≤ tx.mbufRing.used ->
      (∀ fci ∈ fcis, fci.start < 65536) ->
      forall place outcome, (nackItemsLoop envs fcis index budget tx).2[place]? = some outcome ->
        Served tx.mbufRing tx.payloadFormat (envs (index + place))
          ((fcis.take place).foldl budgetAfter budget) outcome.fci outcome.sent := by
  induction fcis with
  | nil =>
    intro index budget tx _ _ _ _ place outcome found
    cases found
  | cons fci rest ih =>
    intro index budget tx ring small enough starts
    have start := starts fci List.mem_cons_self
    have later := fun item member => starts item (List.mem_cons_of_mem fci member)
    -- The first outcome, and the induction hypothesis for the others.
    have assemble : forall (next : MtRtcpTx) (sent : List RtpMbuf), SameRing tx next ->
        Served tx.mbufRing tx.payloadFormat (envs index) budget fci sent ->
        forall place outcome,
          ({ fci := fci, sent := sent } ::
            (nackItemsLoop envs rest (index + 1) (budgetAfter budget fci) next).2 :
              List FciOutcome)[place]? = some outcome ->
          Served tx.mbufRing tx.payloadFormat (envs (index + place))
            (((fci :: rest).take place).foldl budgetAfter budget) outcome.fci outcome.sent := by
      intro next sent same served
      have smaller := budgetAfter_le budget fci
      have remaining := ih (index + 1) (budgetAfter budget fci) next (same.run ring)
        (by rw [same.mbufRing]; exact small) (by rw [same.mbufRing]; omega) later
      intro place outcome found
      cases place with
      | zero =>
        cases found
        exact served
      | succ place =>
        have served := remaining place outcome found
        rw [same.mbufRing, same.payloadFormat, Nat.add_assoc, Nat.add_comm 1] at served
        exact served
    rw [nackItemsLoop]
    simp only
    split
    · rename_i excess
      have kept : budgetAfter budget fci = budget := if_neg (by omega)
      have result := assemble
        { tx with statRtpRetransmitFail := tx.statRtpRetransmitFail + (fci.follow + 1) } []
        ⟨rfl, rfl, rfl, rfl⟩ (Served.nothing (fun able => by omega))
      rw [kept] at result
      exact result
    · rename_i within
      have spent : budgetAfter budget fci = budget - (fci.follow + 1) := if_pos (by omega)
      have result := assemble _ _
        (rtcpTxRetransmitRtpPackets_sameRing tx (envs index) fci.start (fci.follow + 1))
        (rtcpTxRetransmitRtpPackets_served (envs index) ring small start (by omega) enough)
      rw [spent] at result
      exact result

/-! ## One NACK, and whole runs -/

/-- The packet is a NACK whose header and declared length are accepted. -/
structure AcceptedNack (memory : Nat -> Byte) (len : Nat) : Prop where
  header : mtRtcpHdrSize ≤ len
  flags : memory 0 = 0x80#8
  ptype : (memory 1).toNat = mtRtcpPtypeNack
  name : (List.range 4).map (fun index => memory (8 + index)) = imtlName
  declared : mtRtcpHdrSize ≤ rtcpBytes memory ∧ rtcpBytes memory ≤ len

theorem declaredFcis_bounds {fci : MtRtcpFci}
    (member : fci ∈ declaredFcis memory) : fci.start < 65536 ∧ fci.follow < 65536 := by
  obtain ⟨index, -, rfl⟩ := List.mem_map.mp member
  exact ⟨readBe16_lt _ _, readBe16_lt _ _⟩

def nackReceived (tx : MtRtcpTx) : MtRtcpTx :=
  { tx with nackDropSampled := false, statNackReceived := tx.statNackReceived + 1 }

theorem nackReceived_sameRing : SameRing tx (nackReceived tx) :=
  ⟨rfl, rfl, rfl, rfl⟩

theorem mtRtcpTxParseRtcpPacket_accepted {tx : MtRtcpTx} (active : tx.active = true)
    {len : Nat} (accepted : AcceptedNack memory len)
    (envs : Nat -> RetransmitEnv) :
    mtRtcpTxParseRtcpPacket tx memory len envs =
      let result := nackItemsLoop envs ((declaredFcis memory).take mtRtcpMaxFcis) 0
        (mtU64FifoCount tx.mbufRing) (nackReceived tx)
      { tx := result.1, ret := .ok 0, outcomes := result.2 } := by
  obtain ⟨header, flags, ptype, name, declared⟩ := accepted
  unfold mtRtcpTxParseRtcpPacket
  rw [if_neg (by simp [active])]
  simp only
  rw [if_neg (by omega), if_neg (by simp [flags]), if_pos ptype, if_neg (by simp [name]),
    if_neg (by omega)]
  rfl

/-- Only what is counted of dropped packets may differ. -/
def DropsOnly (tx next : MtRtcpTx) : Prop :=
  exists sampled invalid reason seen received, next = { tx with
    nackDropSampled := sampled
    statNackDropInvalid := invalid
    statNackDropReason := reason
    nackDropSeen := seen
    statNackReceived := received }

theorem DropsOnly.sameRing {tx : MtRtcpTx} (drops : DropsOnly tx next) : SameRing tx next := by
  rcases drops with ⟨sampled, invalid, reason, seen, received, rfl⟩
  exact ⟨rfl, rfl, rfl, rfl⟩

theorem mtRtcpTxParseRtcpPacket_dropped {tx : MtRtcpTx} {len : Nat}
    (dropped : ¬(tx.active = true ∧ AcceptedNack memory len)) (envs : Nat -> RetransmitEnv) :
    (mtRtcpTxParseRtcpPacket tx memory len envs).outcomes = [] ∧
      DropsOnly tx (mtRtcpTxParseRtcpPacket tx memory len envs).tx := by
  unfold mtRtcpTxParseRtcpPacket
  split
  · exact ⟨rfl, _, _, _, _, _, rfl⟩
  · rename_i active
    simp only
    split
    · exact ⟨rfl, _, _, _, _, _, rfl⟩
    · rename_i header
      split
      · exact ⟨rfl, _, _, _, _, _, rfl⟩
      · rename_i flags
        split
        · rename_i ptype
          split
          · exact ⟨rfl, _, _, _, _, _, rfl⟩
          · rename_i name
            split
            · exact ⟨rfl, _, _, _, _, _, rfl⟩
            · rename_i declared
              exact absurd ⟨by simpa using active, by omega, not_not.mp flags, ptype,
                not_not.mp name, by omega⟩ dropped
        · exact ⟨rfl, _, _, _, _, _, rfl⟩

theorem mtRtcpTxParseRtcpPacket_sameRing (memory : Nat -> Byte) (len : Nat)
    (envs : Nat -> RetransmitEnv) :
    SameRing tx (mtRtcpTxParseRtcpPacket tx memory len envs).tx := by
  by_cases accepted : tx.active = true ∧ AcceptedNack memory len
  · rw [mtRtcpTxParseRtcpPacket_accepted accepted.1 accepted.2]
    exact (nackReceived_sameRing tx).trans (nackItemsLoop_sameRing _ _ _ _ _)
  · exact (mtRtcpTxParseRtcpPacket_dropped accepted envs).2.sameRing

def TxCall.Ordered : TxCall -> Prop
  | .bufferRtpPackets bulk => Consecutive bulk.packets
  | .parseRtcpPacket _ _ _ => True

theorem mtRtcpTxBufferRtpPackets_active (tx : MtRtcpTx) (bulk : Bulk) :
    (mtRtcpTxBufferRtpPackets tx bulk).1.active = tx.active := by
  unfold mtRtcpTxBufferRtpPackets
  split
  · rfl
  · split
    · rfl
    · rename_i next evicted
      have kept : next.active = tx.active := by
        unfold rtcpTxEvict at evicted
        split at evicted
        · obtain ⟨taken, -, rfl⟩ := Option.map_eq_some_iff.mp evicted
          rfl
        · cases evicted
          rfl
      simp only
      split
      · exact kept
      · split
        · exact kept
        · exact kept

theorem TxCall.apply_ring (tx : MtRtcpTx) (call : TxCall)
    (ring : RingInvariant tx ∧ tx.active = true) (ordered : call.Ordered) :
    RingInvariant (call.apply tx) ∧ (call.apply tx).active = true := by
  cases call with
  | bufferRtpPackets bulk =>
    exact ⟨mtRtcpTxBufferRtpPackets_ring ring.1 ordered,
      (mtRtcpTxBufferRtpPackets_active tx bulk).trans ring.2⟩
  | parseRtcpPacket memory len envs =>
    have same := mtRtcpTxParseRtcpPacket_sameRing tx memory len envs
    obtain ⟨⟨⟨head, run⟩, small⟩, active⟩ := ring
    refine ⟨⟨⟨head, same.run run⟩, ?_⟩, same.active.trans active⟩
    rw [TxCall.apply, same.mbufRing]
    exact small

/-- Over every run the ring holds consecutive numbers.  An accepted NACK has
one outcome for each of its first `MT_RTCP_MAX_FCIS` items, any other packet
has none, and every outcome is served from the ring within its budget. -/
theorem ring_serves_nacks (payloadFormat : MtRtpPayloadFormat) (bufferSize : Nat)
    (positive : 0 < bufferSize) (small : bufferSize ≤ 32768) (calls : List TxCall)
    (ordered : ∀ call ∈ calls, call.Ordered) :
    let tx := run TxCall.apply (mtRtcpTxCreate payloadFormat bufferSize positive) calls
    Consecutive tx.mbufRing.contents ∧
      forall (memory : Nat -> Byte) (len : Nat) (envs : Nat -> RetransmitEnv),
        let outcomes := (mtRtcpTxParseRtcpPacket tx memory len envs).outcomes
        (AcceptedNack memory len ->
          outcomes.map FciOutcome.fci = (declaredFcis memory).take mtRtcpMaxFcis) ∧
        (¬AcceptedNack memory len -> outcomes = []) ∧
        forall place outcome, outcomes[place]? = some outcome ->
          Served tx.mbufRing tx.payloadFormat (envs place)
            (((declaredFcis memory).take place).foldl budgetAfter (mtU64FifoCount tx.mbufRing))
            outcome.fci outcome.sent := by
  have created : RingInvariant (mtRtcpTxCreate payloadFormat bufferSize positive) ∧
      (mtRtcpTxCreate payloadFormat bufferSize positive).active = true :=
    ⟨⟨⟨0, rfl, fun filled => absurd rfl filled⟩, small⟩, rfl⟩
  obtain ⟨⟨⟨head, ring⟩, fits⟩, active⟩ := run_invariant TxCall.apply
    (fun _ call => call.Ordered) (fun tx => RingInvariant tx ∧ tx.active = true)
    TxCall.apply_ring created (admitted_of_forall TxCall.apply ordered)
  refine ⟨ring.consecutive, ?_⟩
  intro memory len envs
  by_cases accepted : AcceptedNack memory len
  · generalize run TxCall.apply (mtRtcpTxCreate payloadFormat bufferSize positive) calls = tx
      at ring fits active ⊢
    have names := nackItemsLoop_fcis envs ((declaredFcis memory).take mtRtcpMaxFcis) 0
      (mtU64FifoCount tx.mbufRing) (nackReceived tx)
    have served := nackItemsLoop_served envs
      ((declaredFcis memory).take mtRtcpMaxFcis) 0 (mtU64FifoCount tx.mbufRing) (nackReceived tx)
      ((nackReceived_sameRing tx).run ring) fits (le_refl _)
      (fun fci member => (declaredFcis_bounds (List.mem_of_mem_take member)).1)
    rw [mtRtcpTxParseRtcpPacket_accepted active accepted]
    simp only
    refine ⟨fun _ => names, fun dropped => absurd accepted dropped, ?_⟩
    intro place outcome found
    have bound : place ≤ mtRtcpMaxFcis := by
      have inside := (List.getElem?_eq_some_iff.mp found).1
      have count := congrArg List.length names
      rw [List.length_map, List.length_take] at count
      omega
    have item := served place outcome found
    rw [List.take_take, Nat.min_eq_left bound, Nat.zero_add] at item
    exact item
  · obtain ⟨none, -⟩ := mtRtcpTxParseRtcpPacket_dropped (fun both => accepted both.2) envs
    rw [none]
    exact ⟨fun fine => absurd fine accepted, fun _ => rfl, fun place outcome found => by cases found⟩

def mbufOf (seq : Nat) : RtpMbuf where
  seqNumber := u16 seq
  rowLength := 0
  body := []
  seqBound := u16_lt _

def alwaysSends : RetransmitEnv where
  copied := fun _ => true
  burst := fun _ count => count
  burst_le := fun _ _ => le_refl _

def wrapCalls : List TxCall :=
  [.bufferRtpPackets { first := mbufOf 65534, rest := [mbufOf 65535] },
    .bufferRtpPackets { first := mbufOf 0, rest := [] }]

theorem ring_serves_nacks_wrap :
    let tx := run TxCall.apply (mtRtcpTxCreate .raw 4 (by decide)) wrapCalls
    Consecutive tx.mbufRing.contents ∧
      forall (memory : Nat -> Byte) (len : Nat) (envs : Nat -> RetransmitEnv),
        let outcomes := (mtRtcpTxParseRtcpPacket tx memory len envs).outcomes
        (AcceptedNack memory len ->
          outcomes.map FciOutcome.fci = (declaredFcis memory).take mtRtcpMaxFcis) ∧
        (¬AcceptedNack memory len -> outcomes = []) ∧
        forall place outcome, outcomes[place]? = some outcome ->
          Served tx.mbufRing tx.payloadFormat (envs place)
            (((declaredFcis memory).take place).foldl budgetAfter (mtU64FifoCount tx.mbufRing))
            outcome.fci outcome.sent :=
  ring_serves_nacks .raw 4 (by decide) (by decide) wrapCalls (by
    intro call member
    rcases List.mem_cons.mp member with rfl | member
    · exact ⟨65534, by decide⟩
    · rcases List.mem_cons.mp member with rfl | member
      · exact ⟨0, by decide⟩
      · cases member)

/-- A NACK with 257 items.  The first 256 ask for the whole circle, which is
more than the ring holds, and cost nothing; the last one asks for packet 0. -/
def longNack : Nat -> Byte
  | 0 => 0x80#8
  | 1 => BitVec.ofNat 8 mtRtcpPtypeNack
  | 2 => BitVec.ofNat 8 (259 / 256)
  | 3 => BitVec.ofNat 8 259
  | 8 => 73#8
  | 9 => 77#8
  | 10 => 84#8
  | 11 => 76#8
  | position =>
    if 12 ≤ position ∧ position < 12 + 256 * 4 ∧ 2 ≤ position % 4 then 255#8 else 0#8

/-- The last item of that NACK is buffered and its budget is left, copying and
sending would succeed, and nothing is retransmitted. -/
theorem item_beyond_cap_is_ignored :
    let tx := run TxCall.apply (mtRtcpTxCreate .raw 4 (by decide))
      [.bufferRtpPackets { first := mbufOf 0, rest := [] }]
    let result := mtRtcpTxParseRtcpPacket tx longNack (12 + 257 * 4) (fun _ => alwaysSends)
    result.ret = .ok 0 ∧
      (declaredFcis longNack)[256]? = some { start := 0, follow := 0 } ∧
      Buffered tx.mbufRing { start := 0, follow := 0 } ∧
      ((declaredFcis longNack).take 256).foldl budgetAfter (mtU64FifoCount tx.mbufRing) = 1 ∧
      result.outcomes.flatMap FciOutcome.sent = [] := by
  decide +kernel

end MediaTransport.Rtcp
