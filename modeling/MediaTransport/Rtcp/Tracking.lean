import MediaTransport.Library.Run
import MediaTransport.Library.Window
import MediaTransport.Rtcp.Receiver

namespace MediaTransport.Rtcp

open Library Util

/-!
# The receiver's loops, read with extended numbers

The receiver counts in sixteen bits.  What do its loops do to the extended
numbers behind those bits: which positions of the bitmap are cleared, how far
does the contiguous prefix grow, and which numbers does a NACK list?
-/

variable {newest : Int} {rx : MtRtcpRx}

def MtRtcpRx.position (rx : MtRtcpRx) (number : Int) : Nat := u16 number % rx.seqWindowSize

def MtRtcpRx.bit (rx : MtRtcpRx) (cell : Nat) : Bool := mtBitmapTest rx.seqBitmap cell

/-- The window is not empty and every position of it lies inside the bitmap. -/
structure MtRtcpRx.WindowFits (rx : MtRtcpRx) : Prop where
  positive : 0 < rx.seqWindowSize
  inside : rx.seqWindowSize ≤ 8 * rx.seqBitmap.length

theorem MtRtcpRx.WindowFits.position_lt (fits : rx.WindowFits) (seq : Nat) :
    seq % rx.seqWindowSize < 8 * rx.seqBitmap.length :=
  Nat.lt_of_lt_of_le (Nat.mod_lt _ fits.positive) fits.inside

/-! ## The loops -/

theorem clearMissingLoop_spec {window : Nat} {stop : Int} (positive : 0 < window) (fuel : Nat) :
    forall (first : Int) (bitmap : List Byte), first ≤ stop -> stop < first + 32768 ->
      (stop - first).toNat ≤ fuel -> window ≤ 8 * bitmap.length ->
      let result := clearMissingLoop window (u16 stop) fuel (u16 first) bitmap
      result.length = bitmap.length ∧
        (forall number, first ≤ number -> number < stop ->
          mtBitmapTest result (u16 number % window : Nat) = false) ∧
        (forall cell : Nat,
          (forall number, first ≤ number -> number < stop -> u16 number % window ≠ cell) ->
          mtBitmapTest result cell = mtBitmapTest bitmap cell) := by
  induction fuel with
  | zero =>
    intro first bitmap _ _ enough _
    refine ⟨rfl, ?_, fun _ _ => rfl⟩
    intro number above below
    omega
  | succ fuel ih =>
    intro first bitmap start near enough inside
    rcases eq_or_lt_of_le start with rfl | before
    · rw [clearMissingLoop, rtpSeqNumCmp_self, if_neg (by decide)]
      refine ⟨rfl, ?_, fun _ _ => rfl⟩
      intro number above below
      omega
    · have position : u16 first % window < 8 * bitmap.length :=
        Nat.lt_of_lt_of_le (Nat.mod_lt _ positive) inside
      have older := rtpSeqNumCmp_of_lt before near
      rw [clearMissingLoop, older, if_pos (by decide), u16_add_u16]
      obtain ⟨length, cleared, kept⟩ := ih (first + 1)
        (mtBitmapTestAndUnset bitmap (u16 first % window : Nat)).2 (by omega) (by omega)
        (by omega) (by rw [mtBitmapTestAndUnset_length]; exact inside)
      refine ⟨by rw [length, mtBitmapTestAndUnset_length], ?_, ?_⟩
      · intro number above below
        by_cases shared : exists later, first + 1 ≤ later ∧ later < stop ∧
            u16 later % window = u16 number % window
        · obtain ⟨later, after, inside, same⟩ := shared
          rw [← same]
          exact cleared later after inside
        · have here : number = first := by
            by_contra different
            exact shared ⟨number, by omega, below, rfl⟩
          subst here
          rw [kept _ (fun later after before same => shared ⟨later, after, before, same⟩),
            mtBitmapTest_testAndUnset _ _ _ position, decide_eq_true rfl]
          rfl
      · intro cell apart
        rw [kept cell (fun later after before => apart later (by omega) before),
          mtBitmapTest_testAndUnset _ _ _ position,
          decide_eq_false (Ne.symm (apart first (le_refl _) before))]
        rfl

theorem updateLastContLoop_spec (last : rx.lastSeq = u16 newest)
    (fuel : Nat) : forall (seq cont : Int), cont < seq -> seq ≤ newest + 1 ->
      exists reached, cont ≤ reached ∧ (reached ≤ newest ∨ reached = cont) ∧
        updateLastContLoop rx fuel (u16 seq) (u16 cont) = u16 reached := by
  induction fuel with
  | zero =>
    intro seq cont _ _
    exact ⟨cont, le_refl _, Or.inr rfl, rfl⟩
  | succ fuel ih =>
    intro seq cont after bound
    rw [updateLastContLoop, last]
    split
    · rename_i older
      have inside : seq ≤ newest := by
        by_contra beyond
        rw [rtpSeqNumCmp_of_gt (by omega) (by omega)] at older
        omega
      split
      · rw [u16_add_u16]
        obtain ⟨reached, above, below, equal⟩ := ih (seq + 1) seq (by omega) (by omega)
        refine ⟨reached, by omega, ?_, equal⟩
        rcases below with below | rfl
        · exact Or.inl below
        · exact Or.inl inside
      · exact ⟨cont, le_refl _, Or.inr rfl, rfl⟩
    · exact ⟨cont, le_refl _, Or.inr rfl, rfl⟩

theorem rtcpRxUpdateLastCont_spec {rx : MtRtcpRx} {newest cont : Int}
    (last : rx.lastSeq = u16 newest) (contiguous : rx.lastCont = u16 cont)
    (below : cont ≤ newest) :
    exists reached, cont ≤ reached ∧ reached ≤ newest ∧
      (rtcpRxUpdateLastCont rx).lastCont = u16 reached := by
  obtain ⟨reached, above, bound, stored⟩ :=
    updateLastContLoop_spec last circle (cont + 1) cont (by omega) (by omega)
  refine ⟨reached, above, ?_, ?_⟩
  · rcases bound with bound | rfl
    · exact bound
    · exact below
  · rw [← stored]
    unfold rtcpRxUpdateLastCont
    rw [contiguous, u16_add_u16]

/-! ## The two branches of a received number -/

/-- The fields that no received number changes, and the size of the bitmap. -/
structure MtRtcpRx.SameSetup (rx next : MtRtcpRx) : Prop where
  active : next.active = rx.active
  ssrc : next.ssrc = rx.ssrc
  window : next.seqWindowSize = rx.seqWindowSize
  skip : next.seqSkipWindow = rx.seqSkipWindow
  length : next.seqBitmap.length = rx.seqBitmap.length

theorem MtRtcpRx.SameSetup.fits {next : MtRtcpRx} (same : rx.SameSetup next)
    (fits : rx.WindowFits) : next.WindowFits where
  positive := by rw [same.window]; exact fits.positive
  inside := by rw [same.window, same.length]; exact fits.inside

theorem MtRtcpRx.SameSetup.position {next : MtRtcpRx} (same : rx.SameSetup next) :
    next.position = rx.position := by
  funext number
  unfold MtRtcpRx.position
  rw [same.window]

/-- A newer number: the skipped positions are cleared, and `last_cont` ends
inside the window that the new number leaves. -/
theorem rtcpRxNewSeq_spec {cont number : Int} (fits : rx.WindowFits)
    (window : rx.seqWindowSize < 65536) (last : rx.lastSeq = u16 newest)
    (contiguous : rx.lastCont = u16 cont) (below : cont ≤ newest) (newer : newest < number)
    (near : number ≤ newest + 32768) :
    let next := rtcpRxNewSeq rx (u16 number)
    rx.SameSetup next ∧ next.lastSeq = u16 number ∧
      (exists reached, max cont (number - rx.seqWindowSize) ≤ reached ∧ reached ≤ number ∧
        next.lastCont = u16 reached) ∧
      (forall other, newest < other -> other < number -> next.bit (rx.position other) = false) ∧
      (forall cell : Nat,
        (forall other, newest < other -> other < number -> rx.position other ≠ cell) ->
        next.bit cell = rx.bit cell) := by
  obtain ⟨length, cleared, kept⟩ := @clearMissingLoop_spec rx.seqWindowSize
    number fits.positive circle (newest + 1) rx.seqBitmap (by omega) (by omega)
    (by unfold circle; omega) fits.inside
  rw [← u16_add_u16, ← last] at length cleared kept
  have distance : u16 ((u16 number : Int) - rx.lastCont) = u16 (number - cont) := by
    rw [contiguous, u16_sub_u16]
  have bound := u16_eq (number - cont)
  have bits : forall cell, (rtcpRxNewSeq rx (u16 number)).bit cell =
      mtBitmapTest (clearMissingLoop rx.seqWindowSize (u16 number) circle
        (u16 ((rx.lastSeq : Int) + 1)) rx.seqBitmap) cell := by
    intro cell
    unfold rtcpRxNewSeq MtRtcpRx.bit
    simp only
    split
    · rfl
    · split <;> rfl
  refine ⟨?_, ?_, ?_, ?_, ?_⟩
  · unfold rtcpRxNewSeq
    simp only
    split
    · exact ⟨rfl, rfl, rfl, rfl, length⟩
    · split <;> exact ⟨rfl, rfl, rfl, rfl, length⟩
  · unfold rtcpRxNewSeq
    simp only
    split
    · rfl
    · split <;> rfl
  · unfold rtcpRxNewSeq
    simp only [distance]
    split
    · have restart := @rtcpRxUpdateLastCont_spec
        { rx with
          seqBitmap := clearMissingLoop rx.seqWindowSize (u16 number) circle
            (u16 ((rx.lastSeq : Int) + 1)) rx.seqBitmap
          lastSeq := u16 number
          lastCont := u16 ((u16 number : Int) - rx.seqWindowSize) }
        number (number - rx.seqWindowSize) rfl (u16_sub_left _ _) (by omega)
      obtain ⟨reached, above, inside, stored⟩ := restart
      exact ⟨reached, by omega, inside, stored⟩
    · split
      · exact ⟨number, by omega, le_refl _, rfl⟩
      · refine ⟨number - u16 (number - cont), by omega, by omega, ?_⟩
        simp only [contiguous, u16_eq] at bound ⊢
        omega
  · intro other above before
    rw [bits]
    exact cleared other (by omega) before
  · intro cell apart
    rw [bits]
    exact kept cell (fun other above before => apart other (by omega) before)

theorem rtcpRxOldSeq_spec {cont number : Int}
    (last : rx.lastSeq = u16 newest) (contiguous : rx.lastCont = u16 cont)
    (below : cont ≤ newest) (older : number < newest) (near : newest < number + 32768) :
    let next := rtcpRxOldSeq rx (u16 number)
    rx.SameSetup next ∧ next.lastSeq = u16 newest ∧ next.seqBitmap = rx.seqBitmap ∧
      exists reached, cont ≤ reached ∧ reached ≤ newest ∧ next.lastCont = u16 reached := by
  unfold rtcpRxOldSeq
  simp only
  split
  · rename_i successor
    have inside : cont + 1 ≤ newest := by
      rw [contiguous] at successor
      simp only [u16_eq] at successor
      omega
    have stored : u16 number = u16 (cont + 1) := by
      rw [contiguous] at successor
      simp only [u16_eq] at successor ⊢
      omega
    obtain ⟨reached, above, bound, next⟩ := @rtcpRxUpdateLastCont_spec
      { rx with lastCont := u16 number } newest (cont + 1) last stored inside
    exact ⟨⟨rfl, rfl, rfl, rfl, rfl⟩, last, rfl, reached, by omega, bound, next⟩
  · exact ⟨⟨rfl, rfl, rfl, rfl, rfl⟩, last, rfl, cont, le_refl _, below, contiguous⟩

theorem rtcpRxRecordSeq_bit (fits : rx.WindowFits) (number : Int) (cell : Nat) :
    (rtcpRxRecordSeq rx (u16 number)).bit cell =
      (decide (cell = rx.position number) || rx.bit cell) := by
  unfold rtcpRxRecordSeq MtRtcpRx.bit MtRtcpRx.position
  exact mtBitmapTest_testAndSet _ _ _ (fits.position_lt _)

theorem rtcpRxRecordSeq_sameSetup (rx : MtRtcpRx) (seq : Nat) :
    rx.SameSetup (rtcpRxRecordSeq rx seq) :=
  ⟨rfl, rfl, rfl, rfl, mtBitmapTestAndSet_length _ _⟩

/-! ## The scan of a NACK -/

theorem fci_expand_run {seq : Int} {miss : Nat} (some : miss ≠ 0) (bound : miss < 65536) :
    MtRtcpFci.expand { start := u16 (seq - miss), follow := u16 ((miss : Int) - 1) } =
      (between (seq - miss - 1) seq).map (fun number => u16 number) := by
  have follow : u16 ((miss : Int) - 1) + 1 = miss := by
    simp only [u16_eq]
    omega
  have count : (seq - (seq - miss - 1) - 1).toNat = miss := by omega
  unfold MtRtcpFci.expand between
  simp only [follow, count, List.map_map]
  apply List.map_congr_left
  intro index _
  simp only [Function.comp_apply]
  rw [u16_add_u16]
  congr 1
  omega

theorem nackScanLoop_done (bitmap : List Byte) (window stop : Nat) (fuel : Nat)
    (scan : NackScan) (past : rtpSeqNumCmp scan.seq stop = 1) :
    nackScanLoop bitmap window stop fuel scan = .ok scan := by
  cases fuel with
  | zero => rfl
  | succ fuel => rw [nackScanLoop, past, if_neg (by decide)]

/-- The scan from `seq` up to `stop` closes every run of missing numbers.  The
run that is open at `seq` consists of the `miss` numbers just before it. -/
theorem nackScanLoop_spec {bitmap : List Byte} {window : Nat} {low stop : Int}
    {received : List Int} (short : stop ≤ low + 32768)
    (present : forall number, low < number -> number < stop ->
      (mtBitmapTest bitmap (u16 number % window : Nat) = true ↔ number ∈ received))
    (closed : mtBitmapTest bitmap (u16 stop % window : Nat) = true) (fuel : Nat) :
    forall (seq : Int) (miss lost : Nat) (fcis : List MtRtcpFci) (result : NackScan),
      seq ≤ stop -> low + miss < seq -> (stop - seq).toNat < fuel ->
      nackScanLoop bitmap window (u16 stop) fuel
        { seq := u16 seq, start := u16 (seq - miss), miss := miss, fcis := fcis, lost := lost } =
        .ok result ->
      result.fcis.flatMap MtRtcpFci.expand =
        fcis.flatMap MtRtcpFci.expand ++
          (between (seq - miss - 1) seq ++
            (between (seq - 1) stop).filter (fun number => number ∉ received)).map
              (fun number => u16 number) := by
  induction fuel with
  | zero =>
    intro seq miss lost fcis result _ _ enough
    omega
  | succ fuel ih =>
    intro seq miss lost fcis result below room enough scanned
    rw [nackScanLoop] at scanned
    have within : rtpSeqNumCmp (u16 seq) (u16 stop) ≤ 0 := by
      rcases eq_or_lt_of_le below with rfl | before
      · rw [rtpSeqNumCmp_self]
      · rw [rtpSeqNumCmp_of_lt before (by omega)]
        decide
    simp only [if_pos within, u16_add_u16] at scanned
    cases held : mtBitmapTest bitmap (u16 seq % window : Nat) with
    | false =>
      -- One more number of the open run; `stop` itself is never missing.
      have before : seq < stop := by
        rcases eq_or_lt_of_le below with rfl | before
        · rw [closed] at held
          cases held
        · exact before
      have missing : seq ∉ received := fun member => by
        rw [(present seq (by omega) before).mpr member] at held
        cases held
      have counted : u16 ((miss : Int) + 1) = miss + 1 := by
        rw [u16_eq]
        omega
      have start : seq - miss = seq + 1 - ((miss + 1 : Nat) : Int) := by push_cast; omega
      rw [held, if_neg Bool.false_ne_true, counted, start] at scanned
      have rest := ih (seq + 1) (miss + 1) lost fcis result (by omega)
        (by push_cast; omega) (by omega) scanned
      rw [rest, between_cons (by omega : seq - 1 + 1 < stop), Int.sub_add_cancel,
        List.filter_cons_of_pos (by simpa using missing), ← start,
        between_snoc (by omega : seq - miss - 1 < seq), Int.add_sub_cancel]
      simp only [List.append_assoc, List.singleton_append]
    | true =>
      -- The open run, if there is one, becomes an item.
      have emptied : between (seq + 1 - ((0 : Nat) : Int) - 1) (seq + 1) = [] :=
        between_eq_nil (by push_cast; omega)
      have skipped : (between (seq - 1) stop).filter (fun number => number ∉ received) =
          (between seq stop).filter (fun number => number ∉ received) := by
        rcases eq_or_lt_of_le below with rfl | before
        · rw [between_eq_nil (by omega), between_eq_nil (by omega)]
        · have member := (present seq (by omega) before).mp held
          rw [between_cons (by omega : seq - 1 + 1 < stop), Int.sub_add_cancel,
            List.filter_cons_of_neg (by simpa using member)]
      have continued : forall (items : List MtRtcpFci) (lost : Nat),
          nackScanLoop bitmap window (u16 stop) fuel
            { seq := u16 (seq + 1), start := u16 (seq + 1), miss := 0, fcis := items,
              lost := lost } = .ok result ->
          result.fcis.flatMap MtRtcpFci.expand = items.flatMap MtRtcpFci.expand ++
            ((between seq stop).filter (fun number => number ∉ received)).map
              (fun number => u16 number) := by
        intro items lost rest
        rcases eq_or_lt_of_le below with rfl | before
        · rw [nackScanLoop_done bitmap window _ fuel _
            (rtpSeqNumCmp_of_gt (by omega) (by omega))] at rest
          cases rest
          rw [between_eq_nil (by omega)]
          simp only [List.filter_nil, List.map_nil, List.append_nil]
        · have advanced := ih (seq + 1) 0 lost items result (by omega) (by push_cast; omega)
            (by omega) (by rw [Nat.cast_zero, Int.sub_zero]; exact rest)
          rw [advanced, emptied, Int.add_sub_cancel, List.nil_append]
      rw [held, if_pos rfl] at scanned
      rw [skipped]
      rcases Nat.eq_zero_or_pos miss with rfl | pending
      · rw [if_neg (by simp)] at scanned
        have none : between (seq - ((0 : Nat) : Int) - 1) seq = [] :=
          between_eq_nil (by push_cast; omega)
        rw [continued fcis lost scanned, none, List.nil_append]
      · have item := @fci_expand_run seq miss (by omega) (by omega)
        rw [if_pos (by omega)] at scanned
        split at scanned
        · cases scanned
        · rw [continued _ _ scanned, List.flatMap_append, List.flatMap_singleton, item,
            List.map_append, List.append_assoc]

/-! ## What sending a NACK leaves behind -/

theorem rtcpRxNackBitmap_bit (fits : rx.WindowFits) (cell : Nat) :
    mtBitmapTest (rtcpRxNackBitmap rx) cell = rx.bit cell := by
  have inside := fits.position_lt (rtcpRxNackEnd rx)
  have before := mtBitmapTestAndSet_fst rx.seqBitmap _ inside
  have marked := mtBitmapTest_testAndSet rx.seqBitmap _ cell inside
  unfold rtcpRxNackBitmap MtRtcpRx.bit
  simp only
  split
  · rename_i held
    rw [before] at held
    rw [marked]
    by_cases here : cell = rtcpRxNackEnd rx % rx.seqWindowSize
    · rw [here, held, Bool.or_true]
    · rw [decide_eq_false here, Bool.false_or]
  · rename_i clear
    rw [before, Bool.not_eq_true] at clear
    rw [mtBitmapTest_testAndUnset _ _ _ (by rw [mtBitmapTestAndSet_length]; exact inside), marked]
    by_cases here : cell = rtcpRxNackEnd rx % rx.seqWindowSize
    · rw [here, clear, decide_eq_true rfl]
      rfl
    · rw [decide_eq_false here, Bool.false_or]
      rfl

theorem rtcpRxNackBitmap_length (rx : MtRtcpRx) :
    (rtcpRxNackBitmap rx).length = rx.seqBitmap.length := by
  unfold rtcpRxNackBitmap
  simp only
  split
  · exact mtBitmapTestAndSet_length _ _
  · rw [mtBitmapTestAndUnset_length, mtBitmapTestAndSet_length]

/-- Everything that a later packet or NACK reads is as it was. -/
structure MtRtcpRx.SameView (rx next : MtRtcpRx) : Prop extends rx.SameSetup next where
  last : next.lastSeq = rx.lastSeq
  cont : next.lastCont = rx.lastCont
  bits : forall cell, next.bit cell = rx.bit cell

theorem rtcpRxNackFinish_sameView {rx : MtRtcpRx} (fits : rx.WindowFits) (txBurst : Nat) :
    rx.SameView (rtcpRxNackFinish rx txBurst).rx := by
  have scanned : forall next : MtRtcpRx, next.active = rx.active -> next.ssrc = rx.ssrc ->
      next.seqWindowSize = rx.seqWindowSize -> next.seqSkipWindow = rx.seqSkipWindow ->
      next.lastSeq = rx.lastSeq -> next.lastCont = rx.lastCont ->
      next.seqBitmap = rtcpRxNackBitmap rx -> rx.SameView next := by
    intro next active ssrc window skip last cont bitmap
    refine ⟨⟨active, ssrc, window, skip, ?_⟩, last, cont, ?_⟩
    · rw [bitmap, rtcpRxNackBitmap_length]
    · intro cell
      unfold MtRtcpRx.bit
      rw [bitmap]
      exact rtcpRxNackBitmap_bit fits cell
  unfold rtcpRxNackFinish
  split
  · exact scanned _ rfl rfl rfl rfl rfl rfl rfl
  · simp only
    split
    · exact scanned _ rfl rfl rfl rfl rfl rfl rfl
    · split
      · exact scanned _ rfl rfl rfl rfl rfl rfl rfl
      · exact scanned _ rfl rfl rfl rfl rfl rfl rfl

theorem mtRtcpRxSendNackPacket_sameView (fits : rx.WindowFits) (env : NackEnv) :
    rx.SameView (mtRtcpRxSendNackPacket rx env).rx := by
  unfold mtRtcpRxSendNackPacket
  simp only
  split
  · exact ⟨⟨rfl, rfl, rfl, rfl, rfl⟩, rfl, rfl, fun _ => rfl⟩
  · split
    · exact ⟨⟨rfl, rfl, rfl, rfl, rfl⟩, rfl, rfl, fun _ => rfl⟩
    · split
      · exact ⟨⟨rfl, rfl, rfl, rfl, rfl⟩, rfl, rfl, fun _ => rfl⟩
      · have view := @rtcpRxNackFinish_sameView
          { rx with nacksSendTime := env.now + rx.nacksSendInterval }
          ⟨fits.positive, fits.inside⟩ env.txBurst
        exact ⟨⟨view.active, view.ssrc, view.window, view.skip, view.length⟩, view.last,
          view.cont, view.bits⟩

theorem rtcpRxNackFinish_packet {txBurst : Nat} {packet : NackPacket}
    (built : (rtcpRxNackFinish rx txBurst).packet = some packet) :
    exists scan, rtcpRxNackScan rx = .ok scan ∧ packet = { ssrc := rx.ssrc, fcis := scan.fcis } ∧
      scan.fcis ≠ [] := by
  unfold rtcpRxNackFinish at built
  split at built
  · cases built
  · rename_i scan done
    simp only at built
    split at built
    · cases built
    · rename_i some
      have items : scan.fcis ≠ [] := fun none => some (by rw [none]; rfl)
      split at built
      · exact ⟨scan, done, (Option.some.inj built).symm, items⟩
      · exact ⟨scan, done, (Option.some.inj built).symm, items⟩

theorem mtRtcpRxSendNackPacket_packet {env : NackEnv} {packet : NackPacket}
    (built : (mtRtcpRxSendNackPacket rx env).packet = some packet) :
    exists scan, rtcpRxNackScan rx = .ok scan ∧ packet = { ssrc := rx.ssrc, fcis := scan.fcis } ∧
      scan.fcis ≠ [] := by
  unfold mtRtcpRxSendNackPacket at built
  simp only at built
  split at built
  · cases built
  · split at built
    · cases built
    · split at built
      · cases built
      · obtain ⟨scan, scanned, carried, items⟩ := rtcpRxNackFinish_packet built
        exact ⟨scan, scanned, carried, items⟩

end MediaTransport.Rtcp
