import MediaTransport.Video.PacketTypes
import MediaTransport.Video.Pacing

namespace MediaTransport.Video

open Library

/-!
# The arithmetic of `tv_attach`

Divisors in `tv_init_pkt` and in the sizes of the mbuf pools are quotients of
what the user asks for, and its counts are unsigned differences.  Each function
is given here by the divisions and unsigned subtractions that it executes, one
after another up to its return.
-/

/-- A division or modulo, or an unsigned subtraction. -/
inductive Arith where
  | divisor (value : Nat)
  | minus (value amount : Nat)

def Arith.Sound : Arith -> Prop
  | .divisor value => value ≠ 0
  | .minus value amount => amount ≤ value

instance : DecidablePred Arith.Sound
  | .divisor _ => inferInstanceAs (Decidable (_ ≠ _))
  | .minus _ _ => inferInstanceAs (Decidable (_ ≤ _))

def ArithSound (operations : List Arith) : Prop := ∀ operation ∈ operations, operation.Sound

instance (operations : List Arith) : Decidable (ArithSound operations) :=
  inferInstanceAs (Decidable (∀ operation ∈ operations, operation.Sound))

@[simp] theorem arithSound_nil : ArithSound [] := fun _ member => nomatch member

@[simp] theorem arithSound_cons (operation : Arith) (rest : List Arith) :
    ArithSound (operation :: rest) <-> operation.Sound ∧ ArithSound rest := List.forall_mem_cons

@[simp] theorem arithSound_append (first second : List Arith) :
    ArithSound (first ++ second) <-> ArithSound first ∧ ArithSound second := List.forall_mem_append

@[simp] theorem arith_divisor (value : Nat) : (Arith.divisor value).Sound <-> value ≠ 0 := Iff.rfl

@[simp] theorem arith_minus (value amount : Nat) : (Arith.minus value amount).Sound <-> amount ≤ value :=
  Iff.rfl

/-! ## What the session is created with -/

/-- `enum st20_type` -/
inductive St20TxType where
  | frameLevel
  | sliceLevel
  | rtpLevel
  deriving DecidableEq

structure TvAttachOps extends St20TxOps where
  type : St20TxType
  fps : StFps
  rtpRingSize : Nat
  rtpFrameTotalPkts : Nat
  enableRtcp : Bool
  rtcpBufferSize : Nat
  disableBulk : Bool

/-- `tv_ops_check`, for the fields that divisors come from. -/
structure TvAttachOps.Checked (ops : TvAttachOps) : Prop where
  frames : ops.type = .rtpLevel -> 0 < ops.rtpFrameTotalPkts

/-- A session port, and whether it is paced by rate. -/
structure TvPort where
  txDeep : Bool
  nbTxDesc : Nat
  rl : Bool

/-- The surroundings of the call: the session's ports, and whether the pools before the copy
pool were created. -/
structure TvAttachEnv where
  primary : TvPort
  others : List TvPort
  migrate : Bool
  txNoChain : Bool
  txMonoPool : Bool
  poolsMade : Bool

/-! ## Pools -/

variable (env : TvAttachEnv) (ops : TvAttachOps)

def mtMbufCacheSlack : Nat := 192

def tvRingCount (totalPkts : Nat) : Nat -> Nat -> Nat
  | 0, ringCount => ringCount
  | fuel + 1, ringCount =>
    if totalPkts < ringCount then tvRingCount totalPkts fuel (ringCount / 2) else ringCount

/-- `tv_mempool_n`, with the chained packets' two descriptors an mbuf. -/
def tvMempoolN (totalPkts : Nat) (port : TvPort) : Nat :=
  let ringCount := tvRingCount totalPkts 10 512
  let n :=
    if port.txDeep then
      let held := ringCount + (if port.rl then 2 else 1) * (if ops.disableBulk then 1 else 4) +
        ((port.nbTxDesc + 1) / 2 + mtMbufCacheSlack)
      if env.migrate then max (port.nbTxDesc + ringCount) (held + mtMbufCacheSlack) else held
    else
      port.nbTxDesc + ringCount
  let rtcp :=
    if !ops.enableRtcp then 0
    else if port.txDeep then
      max (if ops.rtcpBufferSize ≠ 0 then ops.rtcpBufferSize else 1024) port.nbTxDesc
    else
      ops.rtcpBufferSize
  u32 (n + rtcp + (if ops.type = .rtpLevel then ops.rtpRingSize else 0) : Nat)

/-- `mt_tx_deep_session` -/
def TvAttachEnv.deep : Bool := (env.primary :: env.others).any TvPort.txDeep

/-- `n` of the chain pool. -/
def TvAttachEnv.chainN (totalPkts : Nat) : Nat :=
  if env.deep then
    env.others.foldl (fun n port => max n (tvMempoolN env ops totalPkts port))
      (tvMempoolN env ops totalPkts env.primary)
  else
    tvMempoolN env ops totalPkts env.primary

def TvAttachEnv.copies (linesize bytesInLine : Nat) : Prop :=
  (env.txNoChain = false ∧ env.poolsMade = true ∧ env.txMonoPool = false) ∧
    bytesInLine < linesize ∧ ops.packing ≠ .gpmSl

instance (env : TvAttachEnv) (ops : TvAttachOps) (linesize bytesInLine : Nat) :
    Decidable (env.copies ops linesize bytesInLine) := inferInstanceAs (Decidable (_ ∧ _))

/-- `tv_mempool_init`, with `tv_copy_mempool_n`. -/
def tvMempoolInitArith (linesize bytesInLine totalPkts extraNumber : Nat) : List Arith :=
  if env.copies ops linesize bytesInLine then
    if env.deep then
      [.minus (env.chainN ops totalPkts) mtMbufCacheSlack, .divisor bytesInLine, .divisor totalPkts]
    else
      [.divisor extraNumber, .divisor (totalPkts / extraNumber)]
  else
    []

/-! ## Packets -/

/-- The session that `tv_init_pkt` leaves, whether or not it accepts the packet's size. -/
def tvPlanned (ops : St20TxOps) (linesize : Nat) (plan : PacketPlan) : TvSession :=
  let pg := st20GetPgroup ops.fmt
  { ops := ops
    st20Pg := pg
    st20Linesize := linesize
    st20BytesInLine := bytesInLine ops.width pg
    st20FrameSize := u32 (ops.width * ops.lines * pg.size : Nat) / pg.coverage
    st20FbSize := linesize * ops.lines
    st20PktsInLine := plan.pktsInLine
    st20PktLen := plan.pktLen
    st20PktSize := u16 (plan.pktLen + rfc4175VideoHdrSize : Nat)
    st20TotalPkts := plan.totalPkts }

/-- The end of the branches of general and block packing, from the tail's length on; the loop
divides by the packet length, too. -/
def TvSession.countsArith (s : TvSession) : List Arith :=
  let tail := (s.st20PktInfo .frameTail).number
  [.divisor s.st20PktLen, .divisor s.st20PktLen, .divisor s.extraTemp, .minus s.ops.lines s.noneExtraLines,
    .minus s.st20TotalPkts tail, .minus (u32 (s.st20TotalPkts - tail)) (s.st20PktInfo .extra).number]

/-- `tv_init_pkt` for frames, behind the bytes in a line. -/
def tvInitPktArith (suggest : Nat) (s : TvSession) : List Arith :=
  match s.ops.packing with
  | .gpmSl =>
    [.minus stPktMaxEtherBytes rfc4175VideoHdrSize, .divisor (stPktMaxEtherBytes - rfc4175VideoHdrSize),
      .minus (s.ops.width + s.st20PktsInLine) 1, .divisor s.st20PktsInLine,
      .minus (ceilDiv s.ops.width s.st20PktsInLine + s.st20Pg.coverage) 1, .divisor s.st20Pg.coverage,
      .divisor s.st20PktLen, .minus s.st20TotalPkts (s.st20PktInfo .lineTail).number]
  | .bpm => [.divisor s.st20Pg.size, .divisor s.st20PktLen] ++ s.countsArith
  | .gpm =>
    let maxDataLen := suggest - rfc4175RtpHdrSize - rfc4175ExtraHdrSize
    let align := s.st20Pg.size * 2
    [.minus suggest rfc4175RtpHdrSize, .minus (suggest - rfc4175RtpHdrSize) rfc4175ExtraHdrSize,
      .divisor align, .divisor s.st20Pg.size,
      .divisor (s.st20Pg.coverage * (maxDataLen / align * align / s.st20Pg.size))] ++ s.countsArith

/-- `tv_attach` with what it calls of `tv_init_pkt` and `tv_mempool_init`. -/
def tvAttachArith (suggest : Nat) (env : TvAttachEnv) (ops : TvAttachOps) : List Arith :=
  let pg := st20GetPgroup ops.fmt
  let line : List Arith := [.minus (ops.width * pg.size + pg.coverage) 1, .divisor pg.coverage]
  let fps := stGetFpsTiming ops.fps
  let frameTime : List Arith := [.divisor fps.mul, .divisor (27000 * fps.den), .divisor (300 * fps.den)]
  let bytes := bytesInLine ops.width pg
  line ++ match tvLinesize ops.toSt20TxOps pg with
  | .error _ => []
  | .ok linesize =>
    .divisor pg.coverage :: line ++
      if ops.type = .rtpLevel then
        frameTime ++ tvMempoolInitArith env ops linesize bytes ops.rtpFrameTotalPkts 0
      else
        match tvInitPktPlan suggest ops.toSt20TxOps pg
          (u32 (ops.width * ops.lines * pg.size : Nat) / pg.coverage) with
        | .error _ => [.divisor pg.size]
        | .ok plan =>
          let s := tvPlanned ops.toSt20TxOps linesize plan
          tvInitPktArith suggest s ++
            if stPktMaxEtherBytes < s.st20PktSize then []
            else frameTime ++
              tvMempoolInitArith env ops linesize bytes s.st20TotalPkts (s.st20PktInfo .extra).number

/-! ## The condition -/

/-- The frame's byte counts fit the 32-bit arithmetic of the source. -/
structure TvAttachOps.Fits (ops : TvAttachOps) : Prop where
  bytes : ops.width * ops.lines * (st20GetPgroup ops.fmt).size < 2147483648
  buffer : forall linesize, tvLinesize ops.toSt20TxOps (st20GetPgroup ops.fmt) = .ok linesize ->
    linesize * ops.lines < 4294967296

/-- A pool for copied payloads divides by the lines whose ends no packet's end meets, or, on a
deep port, by the bytes of a line and the packets of a frame. -/
def TvSession.PoolPlanned (s : TvSession) : Prop :=
  env.copies ops s.st20Linesize s.st20BytesInLine ->
    if env.deep = true then mtMbufCacheSlack ≤ env.chainN ops s.st20TotalPkts ∧ 0 < ops.lines
    else ceilDiv s.st20FrameSize (Nat.lcm s.st20BytesInLine s.st20PktLen) < ops.lines

/-- A line has a pixel, short lines do not share packets, and the copy pool is planned.  Without
frames a padded line needs a deep port; a refused line size or packing is never wrong. -/
def ArithPlanned (suggest : Nat) (env : TvAttachEnv) (ops : TvAttachOps) : Prop :=
  let pg := st20GetPgroup ops.fmt
  match tvLinesize ops.toSt20TxOps pg with
  | .error _ => True
  | .ok linesize =>
    if ops.type = .rtpLevel then
      env.copies ops linesize (bytesInLine ops.width pg) ->
        env.deep = true ∧ 0 < ops.width ∧ mtMbufCacheSlack ≤ env.chainN ops ops.rtpFrameTotalPkts
    else
      match tvInitPktPlan suggest ops.toSt20TxOps pg
        (u32 (ops.width * ops.lines * pg.size : Nat) / pg.coverage) with
      | .error _ => True
      | .ok plan =>
        let s := tvPlanned ops.toSt20TxOps linesize plan
        0 < ops.width ∧ (ops.packing ≠ .gpmSl -> s.PadTypesPlanned ∧ s.PoolPlanned env ops)

/-! ## General and block packing -/

section

variable {user : Nat} {ops : St20TxOps} {linesize : Nat} {plan : PacketPlan}

theorem bytesInLine_pos {width : Nat} (pg : St20Pgroup) (positive : 0 < width) : 0 < bytesInLine width pg := by
  have spec := (ceilDiv_spec (width * pg.size) pg.coverage_pos).1
  by_contra none
  unfold bytesInLine at none
  rw [Nat.eq_zero_of_not_pos none, Nat.mul_zero] at spec
  exact absurd (Nat.mul_pos positive pg.size_pos) (by omega)

theorem tvInitPktPlan_len {pg : St20Pgroup} {frameSize : Nat}
    (planOk : tvInitPktPlan (pktUdpSuggestMaxSize user) ops pg frameSize = .ok plan)
    (several : ops.packing ≠ .gpmSl) :
    0 < plan.pktLen ∧ plan.pktLen < 1426 ∧ (ops.lines = 0 -> frameSize = 0 -> plan.totalPkts = 0) := by
  have zero : forall {divisor : Nat}, 0 < divisor -> ceilDiv 0 divisor = 0 := fun positive =>
    Nat.le_zero.mp ((ceilDiv_le_iff positive).mpr (Nat.zero_le _))
  cases packing : ops.packing with
  | gpmSl => exact absurd packing several
  | gpm =>
    rcases TvSession.tvInitPktPlan_gpm planOk packing with ⟨pgPerPkt, some, length, planLen, planTotal⟩
    rw [planLen, planTotal]
    refine ⟨Nat.mul_pos some pg.size_pos, length, fun none _ => ?_⟩
    rw [none, Nat.mul_zero]
    exact zero (Nat.mul_pos pg.coverage_pos some)
  | bpm =>
    simp only [tvInitPktPlan, packing] at planOk
    split at planOk
    · cases planOk
    · cases planOk
      refine ⟨Nat.zero_lt_succ 1259, (show 1260 < 1426 by decide), fun _ none => ?_⟩
      rw [none]
      exact zero (by decide)

theorem tvPlanned_attached (line : tvLinesize ops (st20GetPgroup ops.fmt) = .ok linesize)
    (planOk : tvInitPktPlan (pktUdpSuggestMaxSize user) ops (st20GetPgroup ops.fmt)
      (u32 (ops.width * ops.lines * (st20GetPgroup ops.fmt).size : Nat) /
        (st20GetPgroup ops.fmt).coverage) = .ok plan)
    (several : ops.packing ≠ .gpmSl) :
    (tvPlanned ops linesize plan).Attached (pktUdpSuggestMaxSize user) plan := by
  have length := (tvInitPktPlan_len planOk several).2.1
  refine ⟨rfl, line, rfl, rfl, planOk, rfl, rfl, rfl, ?_⟩
  rw [u16_of_lt (by unfold rfc4175VideoHdrSize; omega)]
  unfold rfc4175VideoHdrSize stPktMaxEtherBytes
  omega

theorem extraTemp_pos {s : TvSession} (line : 0 < s.st20BytesInLine) (packet : 0 < s.st20PktLen) :
    0 < s.extraTemp := by
  have common := Nat.le_of_dvd (Nat.lcm_pos line packet) (Nat.dvd_lcm_left s.st20BytesInLine s.st20PktLen)
  have next := Nat.lt_mul_div_succ s.st20FrameSize line
  rw [Nat.mul_comm] at next
  exact (tvExtraTemp_spec line _ line (Nat.dvd_refl _) common (by omega)).1

/-- The counts of the packet types. -/
theorem countsArith_sound_iff {ops : TvAttachOps} (fits : ops.Fits)
    (line : tvLinesize ops.toSt20TxOps (st20GetPgroup ops.fmt) = .ok linesize)
    (planOk : tvInitPktPlan (pktUdpSuggestMaxSize user) ops.toSt20TxOps (st20GetPgroup ops.fmt)
      (u32 (ops.width * ops.lines * (st20GetPgroup ops.fmt).size : Nat) /
        (st20GetPgroup ops.fmt).coverage) = .ok plan)
    (several : ops.packing ≠ .gpmSl) :
    let s := tvPlanned ops.toSt20TxOps linesize plan
    (ArithSound s.countsArith <-> 0 < ops.width ∧ s.PadTypesPlanned) ∧
      (ArithSound s.countsArith -> (s.st20TotalPkts ≠ 0 <-> 0 < ops.lines) ∧
        ((s.st20PktInfo .extra).number ≠ 0 ∧ s.st20TotalPkts / (s.st20PktInfo .extra).number ≠ 0 <->
          ceilDiv s.st20FrameSize (Nat.lcm s.st20BytesInLine s.st20PktLen) < ops.lines)) := by
  intro s
  rcases tvInitPktPlan_len planOk several with ⟨packet, short, noLines⟩
  have notSingle : s.singleLine = false := decide_eq_false several
  have packet' : 0 < s.st20PktLen := packet
  rcases Nat.eq_zero_or_pos ops.width with none | width
  · -- no bytes in a line: the loop adds up nothing
    have line : s.st20BytesInLine = 0 := by
      show ceilDiv (ops.width * _) _ = 0
      rw [none, Nat.zero_mul]
      exact Nat.le_zero.mp ((ceilDiv_le_iff (St20Pgroup.coverage_pos _)).mpr (Nat.zero_le _))
    have temp : s.extraTemp = 0 := by
      unfold TvSession.extraTemp
      rw [line, Nat.div_zero]
      unfold tvExtraTemp
      rw [if_neg (by simp)]
    have unsound : ¬ArithSound s.countsArith := by
      unfold TvSession.countsArith
      simp [temp]
    exact ⟨⟨fun sound => absurd sound unsound, fun planned => absurd planned.1 (by omega)⟩,
      fun sound => absurd sound unsound⟩
  · have linePos : 0 < s.st20BytesInLine := bytesInLine_pos _ width
    have temp := extraTemp_pos linePos packet'
    have none := TvSession.noneExtraLines_eq linePos packet'
    have divisors : ArithSound s.countsArith <->
        s.noneExtraLines ≤ s.ops.lines ∧ (s.st20PktInfo .frameTail).number ≤ s.st20TotalPkts ∧
          (s.st20PktInfo .extra).number ≤ u32 (s.st20TotalPkts - (s.st20PktInfo .frameTail).number) := by
      unfold TvSession.countsArith
      simp only [arithSound_cons, arith_divisor, arith_minus, arithSound_nil, and_true]
      exact ⟨fun sound => sound.2.2.2, fun sound => ⟨packet'.ne', packet'.ne', temp.ne', sound⟩⟩
    have same : s.ops.lines = ops.lines := rfl
    rw [divisors]
    rcases Nat.eq_zero_or_pos ops.lines with flat | lines
    · have frame : s.st20FrameSize = 0 := by
        show u32 ((ops.width * ops.lines * _ : Nat) : Int) / _ = 0
        rw [flat, Nat.mul_zero, Nat.zero_mul]
        exact Nat.zero_div _
      have total : s.st20TotalPkts = 0 := noLines flat frame
      have zero : s.noneExtraLines = 0 := by
        rw [none, frame]
        exact Nat.le_zero.mp ((ceilDiv_le_iff (Nat.lcm_pos linePos packet')).mpr (Nat.zero_le _))
      have noExtra : (s.st20PktInfo .extra).number = 0 := by
        unfold TvSession.st20PktInfo TvSession.extraPkts
        simp [notSingle, same, flat, zero]
      have noTail : (s.st20PktInfo .frameTail).number = 0 := by
        unfold TvSession.st20PktInfo
        simp [notSingle, frame]
      rw [noExtra, noTail, zero, total, same, flat]
      unfold TvSession.PadTypesPlanned
      rw [if_neg (by simp [notSingle]), same, flat]
      simp [width]
    · have attached := tvPlanned_attached line planOk several
      have representable : s.Representable := ⟨width, lines, fits.bytes, fits.buffer linesize line⟩
      have dense : s.Dense := by
        cases packing : ops.packing with
        | gpmSl => exact absurd packing several
        | gpm => exact attached.dense_gpm representable packing
        | bpm => exact attached.dense_bpm representable packing
      have most := dense.noneExtraLines_le packet'
      have number := dense.extra_number
      have tail := dense.total_eq
      have few : s.st20FrameSize / s.st20PktLen < 2147483648 :=
        Nat.lt_of_le_of_lt (Nat.div_le_self _ _) dense.frameSize_lt
      have rest : u32 ((s.st20TotalPkts : Int) - (s.st20PktInfo .frameTail).number) =
          s.st20FrameSize / s.st20PktLen := by
        rw [tail.1, Nat.cast_add, add_sub_cancel_right]
        exact u32_of_lt (Nat.lt_trans few (by decide))
      have counted : 0 < s.st20TotalPkts := by
        by_contra empty
        have frame := dense.total_ge
        rw [Nat.eq_zero_of_not_pos empty, Nat.mul_zero, dense.frameSize_eq] at frame
        have pixel : s.st20Pg.coverage ≤ s.ops.width * s.ops.lines * s.st20Pg.size :=
          s.st20Pg.coverage_le.trans (Nat.le_mul_of_pos_left _ (Nat.mul_pos width lines))
        exact absurd (Nat.div_pos pixel s.st20Pg.coverage_pos) (by omega)
      rw [rest, number]
      unfold TvSession.PadTypesPlanned
      rw [if_neg (by simp [notSingle]), ← none]
      refine ⟨by omega, fun sound => ⟨by omega, ?_⟩⟩
      constructor
      · intro pool
        omega
      · intro ends
        have fewer : s.ops.lines - s.noneExtraLines ≤ s.st20TotalPkts := by omega
        exact ⟨by omega, (Nat.div_pos fewer (by omega)).ne'⟩

end

/-! ## The whole of `tv_attach` -/

theorem tvMempoolInitArith_sound_iff (linesize bytesInLine totalPkts extraNumber : Nat) :
    ArithSound (tvMempoolInitArith env ops linesize bytesInLine totalPkts extraNumber) <->
      (env.copies ops linesize bytesInLine ->
        if env.deep = true then
          mtMbufCacheSlack ≤ env.chainN ops totalPkts ∧ bytesInLine ≠ 0 ∧ totalPkts ≠ 0
        else extraNumber ≠ 0 ∧ totalPkts / extraNumber ≠ 0) := by
  unfold tvMempoolInitArith
  by_cases copies : env.copies ops linesize bytesInLine
  · rw [if_pos copies]
    cases deep : env.deep <;> simp [copies]
  · rw [if_neg copies]
    simp [copies]

theorem tvInitPktArith_single {user : Nat} {ops : St20TxOps} {linesize : Nat} {plan : PacketPlan}
    (planOk : tvInitPktPlan (pktUdpSuggestMaxSize user) ops (st20GetPgroup ops.fmt)
      (u32 (ops.width * ops.lines * (st20GetPgroup ops.fmt).size : Nat) /
        (st20GetPgroup ops.fmt).coverage) = .ok plan)
    (packing : ops.packing = .gpmSl) :
    ArithSound (tvInitPktArith (pktUdpSuggestMaxSize user) (tvPlanned ops linesize plan)) <->
      0 < ops.width := by
  have bytes : stPktMaxEtherBytes - rfc4175VideoHdrSize = 1432 := rfl
  have single : (tvPlanned ops linesize plan).singleLine = true := decide_eq_true packing
  simp only [tvInitPktPlan, packing, Except.ok.injEq, bytes] at planOk
  subst planOk
  generalize same : tvPlanned ops linesize _ = s at single ⊢
  have coverage := s.st20Pg.coverage_pos
  have inLine : s.st20PktsInLine = s.st20BytesInLine / 1432 + 1 := by rw [← same]; rfl
  have total : s.st20TotalPkts = s.ops.lines * s.st20PktsInLine := by rw [← same]; rfl
  have length : s.st20PktLen =
      u16 (ceilDiv (ceilDiv s.ops.width s.st20PktsInLine) s.st20Pg.coverage * s.st20Pg.size : Nat) := by
    rw [← same]; rfl
  have width : s.ops.width = ops.width := by rw [← same]; rfl
  have tails : (s.st20PktInfo .lineTail).number ≤ s.st20TotalPkts := by
    have most : s.ops.lines ≤ s.st20TotalPkts := total ▸ Nat.le_mul_of_pos_right _ (by omega)
    unfold TvSession.st20PktInfo
    simp only [single, if_true]
    split
    · exact most
    · exact Nat.zero_le _
  unfold tvInitPktArith
  rw [show s.ops.packing = .gpmSl by rw [← same]; exact packing]
  simp only [arithSound_cons, arith_divisor, arith_minus, arithSound_nil, bytes, and_true]
  have packet : s.st20PktLen ≠ 0 <-> 0 < ops.width := by
    rw [← width]
    constructor
    · intro some
      by_contra none
      have zero : forall {divisor : Nat}, 0 < divisor -> ceilDiv 0 divisor = 0 := fun positive =>
        Nat.le_zero.mp ((ceilDiv_le_iff positive).mpr (Nat.zero_le _))
      rw [length, Nat.eq_zero_of_not_pos none, zero (by omega), zero coverage, Nat.zero_mul] at some
      exact some rfl
    · intro positive
      have line : s.ops.width * s.st20Pg.size ≤ s.st20Pg.coverage * s.st20BytesInLine := by
        rw [← same]
        exact (ceilDiv_spec _ (St20Pgroup.coverage_pos _)).1
      have counts := TvSession.singleCounts positive line
      rw [← inLine] at counts
      have bound := Nat.mul_le_mul counts.groups_le s.st20Pg.size_le
      rw [length, u16_of_lt (by omega)]
      exact (Nat.mul_pos counts.groups_pos s.st20Pg.size_pos).ne'
  rw [packet]
  unfold stPktMaxEtherBytes rfc4175VideoHdrSize
  omega

theorem tvInitPktArith_several (user : Nat) {ops : St20TxOps} {linesize : Nat} {plan : PacketPlan}
    (several : ops.packing ≠ .gpmSl) :
    ArithSound (tvInitPktArith (pktUdpSuggestMaxSize user) (tvPlanned ops linesize plan)) <->
      ArithSound (tvPlanned ops linesize plan).countsArith := by
  have suggest := pktUdpSuggestMaxSize_bounds user
  have same : (tvPlanned ops linesize plan).ops.packing = ops.packing := rfl
  generalize tvPlanned ops linesize plan = s at same ⊢
  have size := s.st20Pg.size_pos
  unfold tvInitPktArith
  rw [same]
  cases packing : ops.packing with
  | gpmSl => exact absurd packing several
  | bpm =>
    dsimp only
    rw [arithSound_append]
    refine ⟨And.right, fun sound => ⟨?_, sound⟩⟩
    have packet : s.st20PktLen ≠ 0 := sound _ List.mem_cons_self
    simp only [arithSound_cons, arith_divisor, arithSound_nil, and_true]
    exact ⟨size.ne', packet⟩
  | gpm =>
    dsimp only
    rw [arithSound_append]
    refine ⟨And.right, fun sound => ⟨?_, sound⟩⟩
    have small := s.st20Pg.size_le
    simp only [arithSound_cons, arith_divisor, arith_minus, arithSound_nil, and_true]
    unfold rfc4175RtpHdrSize rfc4175ExtraHdrSize
    refine ⟨by omega, by omega, by omega, by omega, (Nat.mul_pos s.st20Pg.coverage_pos ?_).ne'⟩
    apply Nat.div_pos _ size
    have some : 0 < (pktUdpSuggestMaxSize user - 20 - 6) / (s.st20Pg.size * 2) :=
      Nat.div_pos (by omega) (by omega)
    have whole := Nat.le_mul_of_pos_left (s.st20Pg.size * 2) some
    omega

/-- No division by zero and no unsigned subtraction below zero, exactly when the geometry and
the ports are planned for. -/
theorem attach_arithmetic_sound_iff (user : Nat) (env : TvAttachEnv) {ops : TvAttachOps}
    (checked : ops.Checked) (fits : ops.Fits) :
    ArithSound (tvAttachArith (pktUdpSuggestMaxSize user) env ops) <->
      ArithPlanned (pktUdpSuggestMaxSize user) env ops := by
  have coverage := (st20GetPgroup ops.fmt).coverage_pos
  have size := (st20GetPgroup ops.fmt).size_pos
  have times : (stGetFpsTiming ops.fps).mul ≠ 0 ∧ (stGetFpsTiming ops.fps).den ≠ 0 := by
    cases ops.fps <;> decide
  have prefixed : forall rest, ArithSound ([Arith.minus (ops.width * (st20GetPgroup ops.fmt).size +
      (st20GetPgroup ops.fmt).coverage) 1, .divisor (st20GetPgroup ops.fmt).coverage] ++ rest) <->
        ArithSound rest := by
    intro rest
    simp only [arithSound_append, arithSound_cons, arith_minus, arith_divisor, arithSound_nil]
    exact ⟨And.right, fun sound => ⟨⟨by omega, coverage.ne', trivial⟩, sound⟩⟩
  have timed : forall rest, ArithSound ([Arith.divisor (stGetFpsTiming ops.fps).mul,
      .divisor (27000 * (stGetFpsTiming ops.fps).den), .divisor (300 * (stGetFpsTiming ops.fps).den)] ++
        rest) <-> ArithSound rest := by
    intro rest
    simp only [arithSound_append, arithSound_cons, arith_divisor, arithSound_nil]
    exact ⟨And.right, fun sound => ⟨⟨times.1, by omega, by omega, trivial⟩, sound⟩⟩
  unfold tvAttachArith ArithPlanned
  dsimp only
  rw [prefixed]
  cases line : tvLinesize ops.toSt20TxOps (st20GetPgroup ops.fmt) with
  | error _ => exact iff_of_true arithSound_nil trivial
  | ok linesize =>
    dsimp only
    rw [List.cons_append, arithSound_cons, prefixed, and_iff_right (show (Arith.divisor _).Sound from coverage.ne')]
    by_cases rtp : ops.type = .rtpLevel
    · rw [if_pos rtp, if_pos rtp, timed, tvMempoolInitArith_sound_iff]
      have positive := checked.frames rtp
      have bytes : bytesInLine ops.width (st20GetPgroup ops.fmt) ≠ 0 <-> 0 < ops.width := by
        constructor
        · intro some
          by_contra none
          apply some
          unfold bytesInLine
          rw [Nat.eq_zero_of_not_pos none, Nat.zero_mul]
          exact Nat.le_zero.mp ((ceilDiv_le_iff coverage).mpr (Nat.zero_le _))
        · exact fun width => (bytesInLine_pos _ width).ne'
      apply imp_congr_right
      intro _
      rw [bytes]
      cases env.deep with
      | true =>
        simp only [if_true, true_and]
        exact ⟨fun sound => ⟨sound.2.1, sound.1⟩, fun sound => ⟨sound.2, sound.1, positive.ne'⟩⟩
      | false => simp
    · rw [if_neg rtp, if_neg rtp]
      cases planOk : tvInitPktPlan (pktUdpSuggestMaxSize user) ops.toSt20TxOps (st20GetPgroup ops.fmt)
        (u32 (ops.width * ops.lines * (st20GetPgroup ops.fmt).size : Nat) /
          (st20GetPgroup ops.fmt).coverage) with
      | error _ => exact iff_of_true (by simpa using size.ne') trivial
      | ok plan =>
        dsimp only
        rw [arithSound_append]
        by_cases single : ops.packing = .gpmSl
        · rw [tvInitPktArith_single planOk single]
          refine ⟨fun sound => ⟨sound.1, fun several => absurd single several⟩, fun planned => ⟨planned.1, ?_⟩⟩
          split
          · exact arithSound_nil
          · rw [timed, tvMempoolInitArith_sound_iff]
            exact fun copies => absurd single copies.2.2
        · rcases countsArith_sound_iff fits line planOk single with ⟨counts, pool⟩
          have small : (tvPlanned ops.toSt20TxOps linesize plan).st20PktSize ≤ stPktMaxEtherBytes :=
            (tvPlanned_attached line planOk single).small
          rw [if_neg (Nat.not_lt_of_le small), timed, tvMempoolInitArith_sound_iff,
            tvInitPktArith_several user single]
          constructor
          · rintro ⟨sound, pools⟩
            have planned := counts.mp sound
            refine ⟨planned.1, fun _ => ⟨planned.2, fun copies => ?_⟩⟩
            have right := pools copies
            cases deep : env.deep with
            | true =>
              rw [if_pos deep] at right
              rw [if_pos rfl]
              exact ⟨right.1, (pool sound).1.mp right.2.2⟩
            | false =>
              rw [if_neg (by simp [deep])] at right
              rw [if_neg (by decide)]
              exact (pool sound).2.mp right
          · rintro ⟨width, planned⟩
            have sound := counts.mpr ⟨width, (planned single).1⟩
            refine ⟨sound, fun copies => ?_⟩
            have right := (planned single).2 copies
            cases deep : env.deep with
            | true =>
              rw [if_pos deep] at right
              rw [if_pos rfl]
              exact ⟨right.1, (bytesInLine_pos _ width).ne', (pool sound).1.mpr right.2⟩
            | false =>
              rw [if_neg (by simp [deep])] at right
              rw [if_neg (by decide)]
              exact (pool sound).2.mpr right

/-! ## Geometries that are not planned for -/

/-- One port of 512 descriptors. -/
def plainPort : TvAttachEnv where
  primary := { txDeep := false, nbTxDesc := 512, rl := false }
  others := []
  migrate := false
  txNoChain := false
  txMonoPool := false
  poolsMade := true

def attachOps (ops : St20TxOps) : TvAttachOps :=
  { ops with
    type := .frameLevel, fps := .p59_94, rtpRingSize := 0, rtpFrameTotalPkts := 0
    enableRtcp := false, rtcpBufferSize := 0, disableBulk := false }

theorem attach_arithmetic_sound_hd :
    ArithSound (tvAttachArith (pktUdpSuggestMaxSize 0) plainPort (attachOps hdOps)) := by
  apply (@attach_arithmetic_sound_iff 0 plainPort (attachOps hdOps) ⟨fun rtp => nomatch rtp⟩
    ⟨by decide, fun linesize line => ?_⟩).mpr
  · exact ⟨by decide, fun _ => ⟨(show _ ≤ _ by decide +kernel), fun copies => absurd copies (by decide)⟩⟩
  · rw [← Except.ok.inj line]
    decide

/-- Short lines share packets, no pixel has no packet, and lines of whole packets have no packet
to copy. -/
theorem attach_arithmetic_not_sound :
    ¬ArithSound (tvAttachArith 1352 plainPort (attachOps qvgaOps)) ∧
      ¬ArithSound (tvAttachArith 1352 plainPort (attachOps { hdOps with width := 0 })) ∧
      ¬ArithSound (tvAttachArith 1352 plainPort
        (attachOps { hdOps with width := 2016, packing := .bpm, linesize := 5120 })) ∧
      ¬ArithSound (tvAttachArith 1352 plainPort
        { attachOps { hdOps with linesize := 5120 } with
          type := .rtpLevel, rtpRingSize := 1024, rtpFrameTotalPkts := 4320 }) := by
  decide +kernel

end MediaTransport.Video
