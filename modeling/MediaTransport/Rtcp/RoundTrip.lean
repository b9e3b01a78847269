import MediaTransport.Rtcp.Nack
import MediaTransport.Rtcp.Ring

namespace MediaTransport.Rtcp

open Library

/-!
# A NACK from the receiver to the transmitter

The receiver encodes the items of a NACK and the transmitter decodes them.
The two agree on every packet that the receiver can build: it has at least
one item and fewer than `MT_RTCP_MAX_FCIS`, so its length field does not
overflow and the parser's cap does not cut it.
-/

/-- What the scan guarantees about the items it has collected. -/
structure NackScan.Encodable (scan : NackScan) : Prop where
  count : scan.fcis.length < mtRtcpMaxFcis
  start : scan.start < 65536
  items : ∀ fci ∈ scan.fcis, fci.start < 65536 ∧ fci.follow < 65536

theorem nackScanLoop_encodable (bitmap : List Byte) (window stop : Nat) (fuel : Nat) :
    forall scan result : NackScan, scan.Encodable ->
      nackScanLoop bitmap window stop fuel scan = .ok result -> result.Encodable := by
  induction fuel with
  | zero =>
    intro scan result encodable scanned
    cases scanned
    exact encodable
  | succ fuel ih =>
    intro scan result encodable scanned
    rw [nackScanLoop] at scanned
    split at scanned
    · split at scanned
      · split at scanned
        · simp only at scanned
          split at scanned
          · cases scanned
          · rename_i room
            refine ih _ _ ?_ scanned
            refine ⟨Nat.lt_of_not_le room, u16_lt (scan.seq + 1), ?_⟩
            intro fci member
            rcases List.mem_append.mp member with old | new
            · exact encodable.items fci old
            · rw [List.mem_singleton.mp new]
              exact ⟨encodable.start, u16_lt (scan.miss - 1)⟩
        · refine ih _ _ ?_ scanned
          exact ⟨encodable.count, u16_lt (scan.seq + 1), encodable.items⟩
      · refine ih _ _ ?_ scanned
        exact ⟨encodable.count, encodable.start, encodable.items⟩
    · cases scanned
      exact encodable

theorem rtcpRxNackScan_encodable {rx : MtRtcpRx} {scan : NackScan}
    (scanned : rtcpRxNackScan rx = .ok scan) : scan.Encodable := by
  refine nackScanLoop_encodable _ _ _ _ _ _ ?_ scanned
  refine ⟨?_, ?_, ?_⟩
  · show 0 < mtRtcpMaxFcis
    decide
  · show u16 ((rx.lastCont : Int) + 1) < 65536
    exact u16_lt _
  · intro fci member
    cases member

theorem length_nackBytes (ssrc : Nat) (fcis : List MtRtcpFci) :
    (nackBytes ssrc fcis).length = mtRtcpHdrSize + fcis.length * mtRtcpFciSize := by
  have items : (fcis.flatMap MtRtcpFci.bytes).length = fcis.length * mtRtcpFciSize := by
    induction fcis with
    | nil => rfl
    | cons fci rest ih =>
      rw [List.flatMap_cons, List.length_append, ih, fci_bytes_length, List.length_cons,
        Nat.add_mul, Nat.one_mul, Nat.add_comm]
  unfold nackBytes
  simp only [List.length_append, items, be32, be16_length, List.length_cons, List.length_nil,
    imtlName, mtRtcpHdrSize]

section

variable (ssrc : Nat) (fcis : List MtRtcpFci) (padding : List Byte)
    (count : fcis.length < mtRtcpMaxFcis)

include count

theorem readBe16_nackBytes :
    readBe16 (memoryOf (nackBytes ssrc fcis ++ padding)) 2 = fcis.length + 2 := by
  unfold mtRtcpMaxFcis at count
  have length : u16 ((mtRtcpHdrSize / 4 - 1 + fcis.length : Nat) : Int) = fcis.length + 2 := by
    rw [u16_of_lt (by unfold mtRtcpHdrSize; omega)]
    unfold mtRtcpHdrSize
    omega
  unfold nackBytes
  rw [length, List.append_assoc, List.append_assoc, List.append_assoc, List.append_assoc]
  exact (readBe16_append [0x80#8, BitVec.ofNat 8 mtRtcpPtypeNack] _ 0).trans
    (readBe16_be16 _ _ (by omega))

theorem rtcpBytes_nackBytes :
    rtcpBytes (memoryOf (nackBytes ssrc fcis ++ padding)) = (nackBytes ssrc fcis).length := by
  unfold rtcpBytes
  rw [readBe16_nackBytes ssrc fcis padding count, length_nackBytes]
  unfold mtRtcpHdrSize mtRtcpFciSize
  omega

theorem declaredFcis_nackBytes
    (items : ∀ fci ∈ fcis, fci.start < 65536 ∧ fci.follow < 65536) :
    declaredFcis (memoryOf (nackBytes ssrc fcis ++ padding)) = fcis := by
  unfold declaredFcis
  rw [rtcpBytes_nackBytes ssrc fcis padding count, length_nackBytes, Nat.add_sub_cancel_left,
    Nat.mul_div_cancel _ (by decide)]
  calc
    _ = (List.range fcis.length).map (fun index =>
        readFci (memoryOf (fcis.flatMap MtRtcpFci.bytes ++ padding)) (index * mtRtcpFciSize)) := by
      apply List.map_congr_left
      intro index _
      unfold nackBytes
      rw [List.append_assoc _ _ padding]
      exact readFci_append _ _ _
    _ = fcis := readFci_flatMap fcis padding items

theorem acceptedNack_nackBytes :
    AcceptedNack (memoryOf (nackBytes ssrc fcis ++ padding)) (nackBytes ssrc fcis).length where
  header := by
    rw [length_nackBytes]
    omega
  flags := rfl
  ptype := rfl
  name := rfl
  declared := by
    rw [rtcpBytes_nackBytes ssrc fcis padding count, length_nackBytes]
    omega

end

/-- The length that `tv_tasklet_rtcp` passes to the parser. -/
def tvTaskletRtcpLen (dataLen dgramLen : Nat) : Nat := min (dataLen - mtUdpHdrSize) (dgramLen - 8)

/-- Every NACK that a receiver builds is accepted by every transmitter, which
processes exactly the items that the receiver encoded. -/
theorem nack_round_trip (rx : MtRtcpRx) (env : NackEnv) (packet : NackPacket) (tx : MtRtcpTx)
    (envs : Nat -> RetransmitEnv) (padding : List Byte) (active : tx.active = true)
    (built : (mtRtcpRxSendNackPacket rx env).packet = some packet) :
    let result := mtRtcpTxParseRtcpPacket tx (memoryOf (packet.rtcp ++ padding))
      packet.rtcp.length envs
    tvTaskletRtcpLen packet.dataLen packet.dgramLen = packet.rtcp.length ∧
      result.ret = .ok 0 ∧ result.outcomes.map FciOutcome.fci = packet.fcis := by
  obtain ⟨scan, scanned, rfl, -⟩ := mtRtcpRxSendNackPacket_packet built
  obtain ⟨count, -, items⟩ := rtcpRxNackScan_encodable scanned
  have accepted := acceptedNack_nackBytes rx.ssrc scan.fcis padding count
  have declared := declaredFcis_nackBytes rx.ssrc scan.fcis padding count items
  refine ⟨?_, ?_, ?_⟩
  · unfold mtRtcpMaxFcis at count
    simp only [tvTaskletRtcpLen, NackPacket.dataLen, NackPacket.dgramLen, NackPacket.rtcp,
      length_nackBytes, mtUdpHdrSize, mtRtcpHdrSize, mtRtcpFciSize, u16_eq]
    omega
  · unfold NackPacket.rtcp
    rw [mtRtcpTxParseRtcpPacket_accepted active accepted]
  · unfold NackPacket.rtcp
    rw [mtRtcpTxParseRtcpPacket_accepted active accepted]
    simp only
    rw [nackItemsLoop_fcis, declared, List.take_of_length_le (Nat.le_of_lt count)]

/-- A receiver that missed packet 6 asks for it. -/
theorem nack_round_trip_six :
    let rx := run RxCall.apply (mtRtcpRxCreate byteOps 0) (packetsOf [5, 7])
    let packet : NackPacket := { ssrc := 1, fcis := [{ start := 6, follow := 0 }] }
    let tx := mtRtcpTxCreate .raw 4 (by decide)
    let result := mtRtcpTxParseRtcpPacket tx (memoryOf (packet.rtcp ++ []))
      packet.rtcp.length (fun _ => alwaysSends)
    (mtRtcpRxSendNackPacket rx sendNow).packet = some packet ∧
      tvTaskletRtcpLen packet.dataLen packet.dgramLen = packet.rtcp.length ∧
      result.ret = .ok 0 ∧ result.outcomes.map FciOutcome.fci = packet.fcis :=
  have built : (mtRtcpRxSendNackPacket
      (run RxCall.apply (mtRtcpRxCreate byteOps 0) (packetsOf [5, 7])) sendNow).packet =
        some { ssrc := 1, fcis := [{ start := 6, follow := 0 }] } := by
    decide +kernel
  ⟨built, nack_round_trip _ sendNow _ _ _ [] rfl built⟩

/-! ## What the transmitter sends again -/

theorem budget_covers {fcis : List MtRtcpFci} {budget : Nat}
    (enough : (fcis.flatMap MtRtcpFci.expand).length ≤ budget) {place : Nat} {fci : MtRtcpFci}
    (found : fcis[place]? = some fci) : fci.follow + 1 ≤ (fcis.take place).foldl budgetAfter budget := by
  induction fcis generalizing budget place with
  | nil => cases found
  | cons head rest ih =>
    rw [List.flatMap_cons, List.length_append, fci_expand_eq, length_seqRun] at enough
    cases place with
    | zero =>
      cases found
      exact Nat.le_trans (Nat.le_add_right _ _) enough
    | succ place =>
      have spent : budgetAfter budget head = budget - (head.follow + 1) := if_pos (by omega)
      exact ih (by rw [spent]; omega) found

def sentAgain (tx : MtRtcpTx) (packet : NackPacket) (padding : List Byte) (envs : Nat -> RetransmitEnv) :
    List RtpMbuf :=
  (mtRtcpTxParseRtcpPacket tx (memoryOf (packet.rtcp ++ padding)) packet.rtcp.length
    envs).outcomes.flatMap FciOutcome.sent

/-- In every run of both sides, what is sent again for a NACK are copies of buffered packets that the receiver
misses; and where the ring holds all that it misses and no copy fails, each is sent once and in order. -/
theorem losses_sent_again (ops : MtRtcpRxOps) (now skip ssrc : Nat) (calls : List RxCall)
    (window : 0 < (mtRtcpRxCreate ops now).seqWindowSize) (small : skip < 32768)
    (admitted : Admitted Observed.step (Observed.Guard ssrc) (Observed.initial ops now skip) calls)
    (format : MtRtpPayloadFormat) (size : Nat) (positive : 0 < size) (fits : size ≤ 32768)
    (txCalls : List TxCall) (ordered : ∀ call ∈ txCalls, call.Ordered)
    (env : NackEnv) (packet : NackPacket) (padding : List Byte) (envs : Nat -> RetransmitEnv) :
    let seen := run Observed.step (Observed.initial ops now skip) calls
    let tx := run TxCall.apply (mtRtcpTxCreate format size positive) txCalls
    let sent := sentAgain tx packet padding envs
    (mtRtcpRxSendNackPacket seen.rx env).packet = some packet ->
      (∀ mbuf ∈ sent, mbuf.seqNumber ∈ seen.missing.map (fun number => u16 number) ∧
        exists stored, stored ∈ tx.mbufRing.contents ∧ mbuf = rtcpTxCopy tx.payloadFormat stored) ∧
      ((∀ number ∈ seen.missing, exists stored,
          stored ∈ tx.mbufRing.contents ∧ stored.seqNumber = u16 number) ->
        (forall place, (envs place).Succeeds) ->
        sent.map RtpMbuf.seqNumber = seen.missing.map (fun number => u16 number)) := by
  intro seen tx sent built
  have follows : seen.Follows ssrc := run_invariant Observed.step (Observed.Guard ssrc)
    (fun seen => seen.Follows ssrc) (fun _ call kept guard => kept.step call guard)
    (Observed.initial_follows ops now ssrc window small) admitted
  obtain ⟨⟨⟨head, ring⟩, short⟩, active⟩ := run_invariant TxCall.apply (fun _ call => call.Ordered)
    (fun tx => RingInvariant tx ∧ tx.active = true) TxCall.apply_ring
    (show RingInvariant (mtRtcpTxCreate format size positive) ∧ _ from
      ⟨⟨⟨0, rfl, fun filled => absurd rfl filled⟩, fits⟩, rfl⟩) (admitted_of_forall TxCall.apply ordered)
  have asked := follows.nack_exact built
  obtain ⟨scan, scanned, rfl, -⟩ := mtRtcpRxSendNackPacket_packet built
  obtain ⟨count, -, items⟩ := rtcpRxNackScan_encodable scanned
  have answered : sent = (nackItemsLoop envs scan.fcis 0 tx.mbufRing.used
      (nackReceived tx)).2.flatMap FciOutcome.sent := by
    show sentAgain _ _ _ _ = _
    rw [sentAgain, NackPacket.rtcp, mtRtcpTxParseRtcpPacket_accepted active
      (acceptedNack_nackBytes _ scan.fcis padding count), declaredFcis_nackBytes _ scan.fcis padding count items,
      List.take_of_length_le (Nat.le_of_lt count)]
    rfl
  have names := nackItemsLoop_fcis envs scan.fcis 0 tx.mbufRing.used (nackReceived tx)
  have served := nackItemsLoop_served envs scan.fcis 0 tx.mbufRing.used (nackReceived tx)
    ((nackReceived_sameRing tx).run ring) short (le_refl _) (fun fci member => (items fci member).1)
  rw [answered]
  generalize (nackItemsLoop envs scan.fcis 0 tx.mbufRing.used (nackReceived tx)).2 = outcomes at names served
  rw [← asked]
  refine ⟨fun mbuf member => ?_, fun held succeed => ?_⟩
  · obtain ⟨outcome, among, inside⟩ := List.mem_flatMap.mp member
    obtain ⟨place, found⟩ := List.mem_iff_getElem?.mp among
    have item := served place outcome found
    rw [← names]
    exact ⟨List.mem_flatMap.mpr ⟨_, List.mem_map_of_mem among, item.within mbuf inside⟩, item.copies mbuf inside⟩
  · have buffered : ∀ seq ∈ scan.fcis.flatMap MtRtcpFci.expand, exists stored,
        stored ∈ tx.mbufRing.contents ∧ stored.seqNumber = seq := by
      intro seq member
      rw [asked] at member
      obtain ⟨number, missing, rfl⟩ := List.mem_map.mp member
      exact held number missing
    -- numbers that differ and are all in the ring are no more than the budget
    have enough := (List.subperm_of_subset (asked ▸ follows.missing_nodup) fun seq member =>
      List.mem_map.mpr (buffered seq member)).length_le
    rw [ring.numbers, length_seqRun] at enough
    rw [← names, List.flatMap_map]
    refine (List.map_flatMap ..).trans (List.flatMap_congr fun outcome member => ?_)
    obtain ⟨place, found⟩ := List.mem_iff_getElem?.mp member
    have item : scan.fcis[place]? = some outcome.fci := by
      rw [← names, List.getElem?_map, found]
      rfl
    refine (served place outcome found).complete (fun seq inside => buffered seq ?_)
      (budget_covers enough item) (succeed _)
    exact List.mem_flatMap.mpr ⟨_, List.mem_of_getElem? item, inside⟩

theorem losses_sent_again_six :
    let tx := run TxCall.apply (mtRtcpTxCreate .raw 4 (by decide))
      [.bufferRtpPackets { first := mbufOf 5, rest := [mbufOf 6, mbufOf 7] }]
    (sentAgain tx { ssrc := 1, fcis := [⟨6, 0⟩] } [] (fun _ => alwaysSends)).map RtpMbuf.seqNumber = [6] :=
  (losses_sent_again byteOps 0 0 1 (packetsOf [5, 7]) (by decide) (by decide)
    ⟨⟨rfl, .inl rfl⟩, ⟨rfl, .inr (Observed.unshared_of_dvd (by decide +kernel) (by decide +kernel)
      (by decide +kernel) (by decide +kernel))⟩, trivial⟩
    .raw 4 (by decide) (by decide) [.bufferRtpPackets { first := mbufOf 5, rest := [mbufOf 6, mbufOf 7] }]
    (fun call member => List.mem_singleton.mp member ▸ ⟨5, by decide⟩)
    sendNow _ [] (fun _ => alwaysSends) (by decide +kernel)).2
    (by decide +kernel) (fun _ => ⟨fun _ => rfl, fun _ _ => rfl⟩)

end MediaTransport.Rtcp
