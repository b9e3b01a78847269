import MediaTransport.Rtcp.Ring

namespace MediaTransport.Rtcp

open Library Util

/-!
# After a refused bulk

Only a bulk that is buffered moves `last_seq_num`, and a bulk is buffered only
when it follows that number or finds the ring empty.  Once a bulk was refused
the numbers of the stream are ahead of it.  Packets leave the ring only while
a bulk does not fit, so the ring drains to an empty one just for certain bulk
sizes, and otherwise the stream has to come round the circle to the right number.
-/

/-- The packets that are left of `used` ones when room was made for `count` more. -/
def leftFor (size used count : Nat) : Nat :=
  if size - used < count ∧ count ≤ used then used - count else used

def Takes (tx : MtRtcpTx) (bulk : Bulk) (first : Nat) (left : Nat) : Prop :=
  left + bulk.packets.length ≤ tx.mbufRing.size ∧ (left = 0 ∨ u16 ((first : Int) - tx.lastSeqNum) = 1)

/-- What a refused bulk leaves behind. -/
structure Refused (tx next : MtRtcpTx) (left : Nat) : Prop where
  used : next.mbufRing.used = left
  size : next.mbufRing.size = tx.mbufRing.size
  last : next.lastSeqNum = tx.lastSeqNum
  active : next.active = tx.active

theorem rtcpTxEvict_left {tx next : MtRtcpTx} {count : Nat} (evicted : rtcpTxEvict tx count = some next) :
    Refused tx next (leftFor tx.mbufRing.size tx.mbufRing.used count) := by
  unfold rtcpTxEvict mtU64FifoFreeCount at evicted
  split at evicted
  · next short =>
      rcases Option.map_eq_some_iff.mp evicted with ⟨⟨taken, rest⟩, removed, rfl⟩
      have size := (mtU64FifoGetBulk_eq_some removed).2.2
      unfold mtU64FifoGetBulk at removed
      split at removed
      · next enough =>
          cases removed
          exact ⟨(if_pos ⟨short, enough⟩).symm, size, rfl, rfl⟩
      · cases removed
  · next room =>
      cases evicted
      exact ⟨(if_neg (fun both => room both.1)).symm, rfl, rfl, rfl⟩

theorem rtcpTxEvict_none {tx : MtRtcpTx} {count : Nat} (failed : rtcpTxEvict tx count = none) :
    leftFor tx.mbufRing.size tx.mbufRing.used count = tx.mbufRing.used ∧
      tx.mbufRing.size < tx.mbufRing.used + count := by
  unfold rtcpTxEvict mtU64FifoFreeCount at failed
  split at failed
  · next short =>
      have none := Option.map_eq_none_iff.mp failed
      unfold mtU64FifoGetBulk at none
      split at none
      · cases none
      · next few => exact ⟨if_neg (fun both => few both.2), by omega⟩
  · cases failed

theorem mtRtcpTxBufferRtpPackets_takes {tx : MtRtcpTx} (active : tx.active = true) (bulk : Bulk) :
    let left := leftFor tx.mbufRing.size tx.mbufRing.used bulk.packets.length
    let result := mtRtcpTxBufferRtpPackets tx bulk
    (Takes tx bulk bulk.first.seqNumber left ->
      result.2 = .ok 0 ∧ bulk.packets <:+ result.1.mbufRing.contents) ∧
    (¬Takes tx bulk bulk.first.seqNumber left -> result.2 = .error .io ∧ Refused tx result.1 left) := by
  unfold mtRtcpTxBufferRtpPackets Takes
  rw [active]
  cases evicted : rtcpTxEvict tx bulk.packets.length with
  | none =>
    rcases rtcpTxEvict_none evicted with ⟨left, full⟩
    rw [left]
    exact ⟨fun takes => absurd takes.1 (by omega), fun _ => ⟨rfl, ⟨rfl, rfl, rfl, rfl⟩⟩⟩
  | some next =>
    have kept := rtcpTxEvict_left evicted
    generalize leftFor tx.mbufRing.size tx.mbufRing.used bulk.packets.length = left at kept ⊢
    rcases kept with ⟨used, size, last, same⟩
    simp only [Bool.not_true, Bool.false_eq_true, if_false, last]
    split
    · next stray =>
        refine ⟨fun takes => ?_, fun _ => ⟨rfl, ⟨used, size, last, same⟩⟩⟩
        rcases takes.2 with empty | follows
        · exact absurd (used.trans empty) stray.2
        · exact absurd follows stray.1
    · next fine =>
        have order : left = 0 ∨ u16 ((bulk.first.seqNumber : Int) - tx.lastSeqNum) = 1 := by
          by_contra stray
          apply fine
          exact ⟨fun follows => stray (.inr follows), fun empty => stray (.inl (used.symm.trans empty))⟩
        cases stored : mtU64FifoPutBulk next.mbufRing bulk.packets with
        | none =>
          have full : ¬next.mbufRing.used + bulk.packets.length ≤ next.mbufRing.size := by
            unfold mtU64FifoPutBulk at stored
            split at stored
            · cases stored
            · assumption
          rw [used, size] at full
          exact ⟨fun takes => absurd takes.1 full, fun _ => ⟨rfl, ⟨used, size, last, same⟩⟩⟩
        | some ring =>
          have room : next.mbufRing.used + bulk.packets.length ≤ next.mbufRing.size := by
            unfold mtU64FifoPutBulk at stored
            split at stored
            · assumption
            · cases stored
          rw [used, size] at room
          refine ⟨fun _ => ⟨rfl, ?_⟩, fun refused => absurd ⟨room, order⟩ refused⟩
          rw [(mtU64FifoPutBulk_eq_some stored).1]
          exact List.suffix_append _ _

/-! ## A stream of bulks -/

section

variable (tx : MtRtcpTx) (bulks : Nat -> Bulk)

def afterBulks : Nat -> MtRtcpTx
  | 0 => tx
  | count + 1 => (mtRtcpTxBufferRtpPackets (afterBulks count) (bulks count)).1

def offered : Nat -> Nat
  | 0 => 0
  | count + 1 => offered count + (bulks count).packets.length

/-- The fill that is left of a ring when the first bulks of a stream are all refused. -/
def drained : Nat -> Nat
  | 0 => tx.mbufRing.used
  | count + 1 => leftFor tx.mbufRing.size (drained count) (bulks count).packets.length

/-- The bulks are a stream in order that starts at `head`. -/
def InOrder (head : Int) : Prop :=
  forall index, (bulks index).packets.map RtpMbuf.seqNumber =
    seqRun (head + offered bulks index) (bulks index).packets.length

def Recovers : Prop :=
  exists index, (mtRtcpTxBufferRtpPackets (afterBulks tx bulks index) (bulks index)).2 = .ok 0 ∧
    (bulks index).packets <:+ (afterBulks tx bulks (index + 1)).mbufRing.contents

/-- The bulk fits in a ring from which only the refused bulks before it took
packets, and the ring is then empty or the bulk has the awaited number. -/
def Admits (head : Int) (index : Nat) : Prop :=
  drained tx bulks (index + 1) + (bulks index).packets.length ≤ tx.mbufRing.size ∧
    (drained tx bulks (index + 1) = 0 ∨
      u16 (head + offered bulks index) = u16 (tx.lastSeqNum + 1 : Int))

def ComesRound (head : Int) : Prop := exists index, Admits tx bulks head index

variable {tx bulks}

theorem afterBulks_refused {count : Nat}
    (refused : ∀ index < count,
      (mtRtcpTxBufferRtpPackets (afterBulks tx bulks index) (bulks index)).2 ≠ .ok 0)
    (active : tx.active = true) : Refused tx (afterBulks tx bulks count) (drained tx bulks count) := by
  induction count with
  | zero => exact ⟨rfl, rfl, rfl, rfl⟩
  | succ count ih =>
    rcases ih (fun index below => refused index (Nat.lt_succ_of_lt below)) with ⟨used, size, last, same⟩
    have call := mtRtcpTxBufferRtpPackets_takes (same.trans active) (bulks count)
    rw [used, size] at call
    have left := call.2 (fun takes => refused count (Nat.lt_succ_self _) (call.1 takes).1)
    exact ⟨left.2.used, left.2.size.trans size, left.2.last.trans last, left.2.active.trans same⟩

theorem recovers_iff {head : Int} (ordered : InOrder bulks head) (active : tx.active = true) :
    Recovers tx bulks <-> ComesRound tx bulks head := by
  have call : forall index, (∀ before < index,
      (mtRtcpTxBufferRtpPackets (afterBulks tx bulks before) (bulks before)).2 ≠ .ok 0) ->
      let result := mtRtcpTxBufferRtpPackets (afterBulks tx bulks index) (bulks index)
      (Admits tx bulks head index ->
        result.2 = .ok 0 ∧ (bulks index).packets <:+ result.1.mbufRing.contents) ∧
      (¬Admits tx bulks head index -> result.2 = .error .io) := by
    intro index first
    rcases afterBulks_refused first active with ⟨used, size, last, same⟩
    have step := mtRtcpTxBufferRtpPackets_takes (same.trans active) (bulks index)
    have follows : u16 (((bulks index).first.seqNumber : Int) - tx.lastSeqNum) = 1 <->
        u16 (head + offered bulks index) = u16 (tx.lastSeqNum + 1 : Int) := by
      rw [Bulk.first_seqNumber (ordered index)]
      simp only [u16_eq]
      omega
    unfold Takes at step
    rw [used, size, last, follows] at step
    exact ⟨step.1, fun refused => (step.2 refused).1⟩
  -- The first bulk that is stored is the first one that the refused bulks before it let in.
  have first_stored : (exists index,
      (mtRtcpTxBufferRtpPackets (afterBulks tx bulks index) (bulks index)).2 = .ok 0) ->
        Recovers tx bulks ∧ ComesRound tx bulks head := by
    intro stored
    classical
    have step := call (Nat.find stored) (fun before below => Nat.find_min stored below)
    have admits : Admits tx bulks head (Nat.find stored) := by
      by_contra refused
      have failed := step.2 refused
      rw [Nat.find_spec stored] at failed
      cases failed
    exact ⟨⟨_, step.1 admits⟩, _, admits⟩
  constructor
  · rintro ⟨index, stored, -⟩
    exact (first_stored ⟨index, stored⟩).2
  · rintro ⟨index, admits⟩
    by_contra never
    have none : forall before,
        (mtRtcpTxBufferRtpPackets (afterBulks tx bulks before) (bulks before)).2 ≠ .ok 0 :=
      fun before stored => never (first_stored ⟨before, stored⟩).1
    exact none index ((call index (fun before _ => none before)).1 admits).1

theorem afterBulks_ring {head : Int} (ordered : InOrder bulks head) (ring : RingInvariant tx)
    (count : Nat) : RingInvariant (afterBulks tx bulks count) := by
  induction count with
  | zero => exact ring
  | succ count ih => exact mtRtcpTxBufferRtpPackets_ring ih ⟨_, ordered count⟩

end

theorem retransmits_stored {tx : MtRtcpTx} {bulk : Bulk} {head : Int} {env : RetransmitEnv}
    (ring : RingInvariant tx) (stored : bulk.packets <:+ tx.mbufRing.contents)
    (numbers : bulk.packets.map RtpMbuf.seqNumber = seqRun head bulk.packets.length)
    (succeeds : env.Succeeds) :
    (rtcpTxRetransmitRtpPackets tx env bulk.first.seqNumber bulk.packets.length).sent.map
      RtpMbuf.seqNumber = bulk.packets.map RtpMbuf.seqNumber := by
  rcases ring with ⟨⟨oldest, run⟩, small⟩
  have count : bulk.packets.length = bulk.rest.length + 1 := List.length_cons
  have enough := stored.length_le
  rw [MtU64Fifo.length_contents] at enough
  have first := Bulk.first_seqNumber numbers
  have asked : ({ start := bulk.first.seqNumber, follow := bulk.rest.length } : MtRtcpFci).expand =
      bulk.packets.map RtpMbuf.seqNumber := by
    rw [fci_expand_eq, numbers, count]
    apply seqRun_congr
    rw [first]
    simp only [u16_eq]
    omega
  have served := @rtcpTxRetransmitRtpPackets_served tx oldest
    { start := bulk.first.seqNumber, follow := bulk.rest.length } tx.mbufRing.used env run small
    bulk.first.seqBound (count ▸ enough) (Nat.le_refl _)
  rw [← asked, count]
  apply served.complete _ (count ▸ enough) succeeds
  intro seq member
  rw [asked] at member
  rcases List.mem_map.mp member with ⟨mbuf, inBulk, number⟩
  exact ⟨mbuf, stored.subset inBulk, number⟩

theorem active_of_refused {tx : MtRtcpTx} {bulk : Bulk}
    (rejected : (mtRtcpTxBufferRtpPackets tx bulk).2 = .error .io) :
    (mtRtcpTxBufferRtpPackets tx bulk).1.active = true := by
  rw [mtRtcpTxBufferRtpPackets_active]
  by_contra inactive
  unfold mtRtcpTxBufferRtpPackets at rejected
  rw [Bool.not_eq_true] at inactive
  rw [inactive] at rejected
  cases rejected

/-- After a refused bulk the rest of the stream is buffered again exactly when
the ring drains or the numbers come round, and what is buffered can then be
retransmitted. -/
theorem buffering_recovers_iff (tx : MtRtcpTx) (refused : Bulk) (bulks : Nat -> Bulk) (head : Int)
    (rejected : (mtRtcpTxBufferRtpPackets tx refused).2 = .error .io)
    (ordered : InOrder bulks head) :
    let left := (mtRtcpTxBufferRtpPackets tx refused).1
    (Recovers left bulks <-> ComesRound left bulks head) ∧
      forall index, (bulks index).packets <:+ (afterBulks left bulks (index + 1)).mbufRing.contents ->
        RingInvariant left -> forall env : RetransmitEnv, env.Succeeds ->
        (rtcpTxRetransmitRtpPackets (afterBulks left bulks (index + 1)) env
          (bulks index).first.seqNumber (bulks index).packets.length).sent.map RtpMbuf.seqNumber =
            (bulks index).packets.map RtpMbuf.seqNumber := by
  refine ⟨recovers_iff ordered (active_of_refused rejected), ?_⟩
  intro index stored ring env succeeds
  exact retransmits_stored (afterBulks_ring ordered ring _) stored (ordered index) succeeds

/-! ## Bulks of four -/

def fourFrom (seq : Nat) : Bulk where
  first := mbufOf seq
  rest := [mbufOf (seq + 1), mbufOf (seq + 2), mbufOf (seq + 3)]

def halfFull : MtRtcpTx :=
  run TxCall.apply (mtRtcpTxCreate .raw 8 (Nat.succ_pos 7)) [.bufferRtpPackets (fourFrom 0)]

def streamOfFours (index : Nat) : Bulk := fourFrom (14 + 4 * index)

theorem offered_streamOfFours (count : Nat) : offered streamOfFours count = 4 * count := by
  induction count with
  | zero => rfl
  | succ count ih =>
    rw [offered, ih]
    exact (Nat.mul_succ 4 count).symm

theorem streamOfFours_inOrder : InOrder streamOfFours 14 := by
  intro index
  rw [offered_streamOfFours]
  simp only [streamOfFours, fourFrom, mbufOf, Bulk.packets, List.map_cons, List.map_nil,
    List.length_cons, List.length_nil, seqRun]
  push_cast
  rfl

theorem buffering_recovers_iff_fours :
    let left := (mtRtcpTxBufferRtpPackets halfFull (fourFrom 10)).1
    (Recovers left streamOfFours <-> ComesRound left streamOfFours 14) ∧
      forall index,
        (streamOfFours index).packets <:+ (afterBulks left streamOfFours (index + 1)).mbufRing.contents ->
        RingInvariant left -> forall env : RetransmitEnv, env.Succeeds ->
        (rtcpTxRetransmitRtpPackets (afterBulks left streamOfFours (index + 1)) env
          (streamOfFours index).first.seqNumber (streamOfFours index).packets.length).sent.map
            RtpMbuf.seqNumber = (streamOfFours index).packets.map RtpMbuf.seqNumber :=
  buffering_recovers_iff halfFull (fourFrom 10) streamOfFours 14 (by decide) streamOfFours_inOrder

/-- The packets 10 to 13 are refused, and no bulk of the stream behind them is
ever buffered: there is always room for it, and its first number is even. -/
theorem fours_never_recover :
    (mtRtcpTxBufferRtpPackets halfFull (fourFrom 10)).2 = .error .io ∧ InOrder streamOfFours 14 ∧
      ¬Recovers (mtRtcpTxBufferRtpPackets halfFull (fourFrom 10)).1 streamOfFours := by
  refine ⟨by decide, streamOfFours_inOrder, ?_⟩
  rw [recovers_iff streamOfFours_inOrder (by decide)]
  rintro ⟨index, -, drains⟩
  have kept : forall count,
      drained (mtRtcpTxBufferRtpPackets halfFull (fourFrom 10)).1 streamOfFours count = 4 := by
    intro count
    induction count with
    | zero => decide
    | succ count ih =>
      rw [drained, ih, show (streamOfFours count).packets.length = 4 from rfl]
      decide
  rw [kept, offered_streamOfFours,
    show (mtRtcpTxBufferRtpPackets halfFull (fourFrom 10)).1.lastSeqNum = 3 by decide] at drains
  simp only [u16_eq] at drains
  omega

end MediaTransport.Rtcp
