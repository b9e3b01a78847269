import MediaTransport.Anc.TxHistory
import MediaTransport.Library.NextFit

namespace MediaTransport.Anc

open Library

/-!
# Packets of a frame

The packet loop puts the entries of a frame into packets as they fit, or one
by one.  The number of packets is fixed before, from the user data words
alone, so that a frame may be reported while entries of it are left over.
-/

variable (cfg : TxAncConfig)

variable {entries : List St40Meta} {frame : St40Frame} {s : TxAncSession}

/-! ## The packet loop -/

def TxAncConfig.entrySize (entry : St40Meta) : Nat :=
  if cfg.ops.splitAncByPkt then 1 else st40Rfc8331PayloadBytes entry.udwSize.toNat

def TxAncConfig.entryLimit : Nat :=
  if cfg.ops.splitAncByPkt then 1 else cfg.maxPktLen

def TxAncConfig.nextGroup (entries : List St40Meta) : List St40Meta :=
  fill cfg.entrySize cfg.entryLimit entries

section

variable {cfg : TxAncConfig}

theorem entrySize_joined (joined : cfg.ops.splitAncByPkt = false) :
    cfg.entrySize = fun entry => st40Rfc8331PayloadBytes entry.udwSize.toNat := by
  funext entry
  unfold TxAncConfig.entrySize
  rw [joined]
  rfl

theorem entrySize_split (split : cfg.ops.splitAncByPkt = true) :
    cfg.entrySize = fun _ => 1 := by
  funext entry
  unfold TxAncConfig.entrySize
  rw [split]
  rfl

theorem entryLimit_joined (joined : cfg.ops.splitAncByPkt = false) :
    cfg.entryLimit = cfg.maxPktLen := by
  unfold TxAncConfig.entryLimit
  rw [joined]
  rfl

theorem entryLimit_split (split : cfg.ops.splitAncByPkt = true) :
    cfg.entryLimit = 1 := by
  unfold TxAncConfig.entryLimit
  rw [split]
  rfl

theorem nextGroup_split (split : cfg.ops.splitAncByPkt = true)
    (entries : List St40Meta) : cfg.nextGroup entries = entries.take 1 := by
  unfold TxAncConfig.nextGroup
  rw [entrySize_split split, entryLimit_split split]
  cases entries with
  | nil => rfl
  | cons entry rest =>
    cases rest with
    | nil => rfl
    | cons other others => rfl

end

def Short (entries : List St40Meta) : Prop := ∀ entry ∈ entries, entry.udwSize.toNat ≤ 255

theorem Short.sublist {others : List St40Meta} (short : Short entries)
    (inside : others ⊆ entries) : Short others :=
  fun entry member => short entry (inside member)

theorem st40Rfc8331PayloadBytes_pos (udwSize : Nat) : 0 < st40Rfc8331PayloadBytes udwSize := by
  unfold st40Rfc8331PayloadBytes
  dsimp only
  omega

theorem ancPackEntries_fill {maxPktLen : Nat} (data mbuf : Nat -> Byte)
    (short : Short entries) (count : Nat) {payload : List Byte} (room : payload.length ≤ maxPktLen) :
    ancPackEntries false maxPktLen data mbuf entries count payload =
      .ok (count + (fill (fun entry => st40Rfc8331PayloadBytes entry.udwSize.toNat)
          (maxPktLen - payload.length) entries).length,
        payload ++ (fill (fun entry => st40Rfc8331PayloadBytes entry.udwSize.toNat)
          (maxPktLen - payload.length) entries).flatMap (ancEntryBytes data)) := by
  induction entries generalizing count payload with
  | nil =>
    rw [ancPackEntries, fill, List.flatMap_nil, List.append_nil]
    rfl
  | cons entry rest ih =>
    have size := st40Rfc8331PayloadBytes_pos entry.udwSize.toNat
    have own := short entry List.mem_cons_self
    have others : Short rest := short.sublist (List.subset_cons_self entry rest)
    have bytes := length_ancEntryBytes data own
    rw [ancPackEntries_cons, fill]
    by_cases fits : st40Rfc8331PayloadBytes entry.udwSize.toNat ≤ maxPktLen - payload.length
    · rw [if_neg (by simp; omega), if_neg (by omega), if_neg (by omega), if_neg (by omega),
        if_neg Bool.false_ne_true, if_pos fits]
      have longer : (payload ++ ancEntryBytes data entry).length ≤ maxPktLen := by
        rw [List.length_append, bytes]
        omega
      rw [ih others (count + 1) longer, List.length_append, bytes, List.length_cons,
        List.flatMap_cons, List.append_assoc, Nat.sub_add_eq]
      congr 2
      omega
    · rw [if_pos (by simp; omega), if_neg fits, List.flatMap_nil, List.append_nil]
      rfl

theorem maxPktLen_anc {cfg : TxAncConfig} (anc : cfg.ops.fastMetadata = false) : cfg.maxPktLen = 1432 := by
  unfold TxAncConfig.maxPktLen stPktMaxEtherBytes
  rw [anc]
  rfl

theorem payloadBytes_le {udwSize : Nat} (short : udwSize ≤ 255) : st40Rfc8331PayloadBytes udwSize ≤ 328 := by
  unfold st40Rfc8331PayloadBytes
  dsimp only
  omega

theorem ancPackEntries_group {cfg : TxAncConfig} (anc : cfg.ops.fastMetadata = false)
    (data mbuf : Nat -> Byte) (short : Short entries) :
    ancPackEntries cfg.ops.splitAncByPkt cfg.maxPktLen data mbuf entries 0 [] =
      .ok ((cfg.nextGroup entries).length, (cfg.nextGroup entries).flatMap (ancEntryBytes data)) := by
  have limit := maxPktLen_anc anc
  cases split : cfg.ops.splitAncByPkt with
  | false =>
    unfold TxAncConfig.nextGroup
    rw [ancPackEntries_fill data mbuf short 0 (Nat.zero_le _), entrySize_joined split,
      entryLimit_joined split, Nat.zero_add]
    rfl
  | true =>
    rw [nextGroup_split split]
    cases entries with
    | nil => rfl
    | cons entry rest =>
      have own := short entry List.mem_cons_self
      have small := payloadBytes_le own
      rw [ancPackEntries_cons, if_neg (by simp), if_neg (by simp; omega), if_neg (by omega),
        if_neg (by simp; omega), if_pos rfl]
      simp

/-! ## Packets and their entries -/

/-- A packet with these entries, all that it announces being there; the marker says whether it is
the last one. -/
def Carries (frame : St40Frame) (last : Bool) (group : List St40Meta) (rtp : TxRtp) : Prop :=
  Exists fun anc : AncRtp => rtp = .anc anc ∧
    anc.payload = group.flatMap (ancEntryBytes frame.data) ∧ anc.ancCount = group.length ∧
    anc.length = anc.payload.length ∧ anc.payload.length ≤ cfg.maxPktLen ∧ anc.base.marker = last

def CarriesAll (frame : St40Frame) (total : Nat) (groups : List (List St40Meta)) (packets : List TxRtp)
    : Prop :=
  forall index group rtp, groups[index]? = some group -> packets[index]? = some rtp ->
    Carries cfg frame (decide (index + 1 = total)) group rtp

/-- Every entry of the frame is in exactly one packet, in order; the last packet has the marker. -/
def Lossless (record : TxFrameRecord) : Prop :=
  Exists fun groups : List (List St40Meta) => groups.flatten = record.frame.metas ∧
    groups.length = record.packets.length ∧
    CarriesAll cfg record.frame record.packets.length groups record.packets

theorem length_flatMap_ancEntryBytes (data : Nat -> Byte) {group : List St40Meta} (short : Short group) :
    (group.flatMap (ancEntryBytes data)).length =
      total (fun entry => st40Rfc8331PayloadBytes entry.udwSize.toNat) group := by
  induction group with
  | nil => rfl
  | cons entry rest ih =>
    rw [List.flatMap_cons, List.length_append, length_ancEntryBytes data (short entry List.mem_cons_self),
      ih (short.sublist (List.subset_cons_self entry rest)), total_cons]

theorem length_nextGroup_le (entries : List St40Meta) :
    (cfg.nextGroup entries).length ≤ entries.length := by
  have front := congrArg List.length (@fill_append_drop St40Meta cfg.entrySize cfg.entryLimit entries)
  rw [List.length_append] at front
  unfold TxAncConfig.nextGroup
  omega

theorem nextGroup_subset (entries : List St40Meta) : cfg.nextGroup entries ⊆ entries := by
  intro entry member
  rw [← @fill_append_drop St40Meta cfg.entrySize cfg.entryLimit entries]
  exact List.mem_append_left _ member

theorem length_nextGroup_bytes {cfg : TxAncConfig} (anc : cfg.ops.fastMetadata = false)
    (data : Nat -> Byte) (short : Short entries) :
    ((cfg.nextGroup entries).flatMap (ancEntryBytes data)).length ≤ 1432 := by
  have inside := short.sublist (nextGroup_subset cfg entries)
  rw [length_flatMap_ancEntryBytes data inside]
  cases split : cfg.ops.splitAncByPkt with
  | false =>
    have bound := @total_fill_le St40Meta cfg.entrySize cfg.entryLimit entries
    unfold TxAncConfig.nextGroup
    rw [entrySize_joined split, entryLimit_joined split, maxPktLen_anc anc] at bound ⊢
    exact bound
  | true =>
    rw [nextGroup_split split] at inside ⊢
    cases entries with
    | nil => exact Nat.zero_le _
    | cons entry rest =>
      have small := payloadBytes_le (inside entry List.mem_cons_self)
      rw [List.take_succ_cons, List.take_zero, total_cons]
      unfold total
      rw [List.map_nil, List.sum_nil]
      omega

theorem build_short (anc : s.cfg.ops.fastMetadata = false) (mbuf : Nat -> Byte)
    (short : Short (s.frames s.frameIdx).addr.metas)
    (few : (s.frames s.frameIdx).addr.metas.length ≤ 20) (some_pkts : 0 < s.totalPkts) :
    let group := s.cfg.nextGroup ((s.frames s.frameIdx).addr.metas.drop s.ancIdx)
    Exists fun rtp =>
      txAncillarySessionBuildRtpPacket s mbuf s.ancIdx =
        (txAncillarySeqAdvance s, .ok (s.ancIdx + group.length, rtp)) ∧
      Carries s.cfg (s.frames s.frameIdx).addr (decide (s.pktIdx + 1 = s.totalPkts)) group rtp := by
  intro group
  rcases txAncillarySeqAdvance_shape s with ⟨seqId, extSeqId, advanced⟩
  have rest : Short ((s.frames s.frameIdx).addr.metas.drop s.ancIdx) :=
    short.sublist (List.drop_subset _ _)
  have packed := ancPackEntries_group anc (s.frames s.frameIdx).addr.data mbuf rest
  have bytes := length_nextGroup_bytes anc (s.frames s.frameIdx).addr.data rest
  have count : group.length ≤ 20 := by
    have taken := length_nextGroup_le s.cfg ((s.frames s.frameIdx).addr.metas.drop s.ancIdx)
    rw [List.length_drop] at taken
    exact Nat.le_trans taken (by omega)
  unfold txAncillarySessionBuildRtpPacket ancBuildRtp
  rw [anc, if_neg Bool.false_ne_true, advanced]
  dsimp only
  rw [packed]
  dsimp only
  refine ⟨_, rfl, _, rfl, rfl, ?_, ?_, ?_, ?_⟩
  · exact Nat.mod_eq_of_lt (Nat.lt_of_le_of_lt count (by decide))
  · exact Nat.mod_eq_of_lt (Nat.lt_of_le_of_lt bytes (by decide))
  · rw [maxPktLen_anc anc]
    exact bytes
  · dsimp only
    rw [if_pos some_pkts]
    exact decide_eq_decide.mpr (by omega)

/-! ## Whole frames -/

def TxAncConfig.groups (count : Nat) (frame : St40Frame) : List (List St40Meta) :=
  cut cfg.entrySize cfg.entryLimit count frame.metas

/-- A frame that was reported: with short entries, its packets hold the groups of the loop. -/
def Packed (record : TxFrameRecord) : Prop :=
  Short record.frame.metas -> record.frame.metas.length ≤ 20 ->
    record.packets.length = cfg.totalPkts record.frame ∧
    CarriesAll cfg record.frame (cfg.totalPkts record.frame)
      (cfg.groups (cfg.totalPkts record.frame) record.frame) record.packets

def Packing (s : TxAncSession) (current : TxFrameRecord) : Prop :=
  Short current.frame.metas -> current.frame.metas.length ≤ 20 ->
    s.ancIdx = (s.cfg.groups s.pktIdx current.frame).flatten.length ∧
    CarriesAll s.cfg current.frame s.totalPkts (s.cfg.groups s.pktIdx current.frame) current.packets

def PackedWaits (s : TxAncSession) (records : List TxFrameRecord) : Prop :=
  s.cfg.ops.fastMetadata = false ∧ ∀ record ∈ records, Packed s.cfg record

def PackedSends (s : TxAncSession) (current : TxFrameRecord) (rest : List TxFrameRecord) : Prop :=
  PackedWaits s rest ∧ Packing s current

theorem CarriesAll.append {cfg : TxAncConfig} {total : Nat}
    {groups : List (List St40Meta)} {packets : List TxRtp} (carried : CarriesAll cfg frame total groups packets)
    {group : List St40Meta} {rtp : TxRtp} (same : groups.length = packets.length)
    (one : Carries cfg frame (decide (packets.length + 1 = total)) group rtp) :
    CarriesAll cfg frame total (groups ++ [group]) (packets ++ [rtp]) := by
  intro index inside packet isGroup isPacket
  rcases Nat.lt_trichotomy index packets.length with earlier | last | later
  · rw [List.getElem?_append_left (same.symm ▸ earlier)] at isGroup
    rw [List.getElem?_append_left earlier] at isPacket
    exact carried index inside packet isGroup isPacket
  · rw [last, ← same, List.getElem?_concat_length] at isGroup
    rw [last, List.getElem?_concat_length] at isPacket
    rw [last, ← Option.some.inj isGroup, ← Option.some.inj isPacket]
    exact one
  · rw [List.getElem?_eq_none (by rw [List.length_append, List.length_singleton]; omega)] at isPacket
    cases isPacket

theorem Packing.next {mbuf : Nat -> Byte} {current : TxFrameRecord}
    {rest : List TxFrameRecord} {next : Nat} {rtp : TxRtp} (anc : s.cfg.ops.fastMetadata = false)
    (built : txAncillarySessionBuildRtpPacket s mbuf s.ancIdx = (txAncillarySeqAdvance s, .ok (next, rtp)))
    (frame : Sending s current rest) (packing : Packing s current) (short : Short current.frame.metas)
    (few : current.frame.metas.length ≤ 20) :
    next = (s.cfg.groups (s.pktIdx + 1) current.frame).flatten.length ∧
      CarriesAll s.cfg current.frame s.totalPkts (s.cfg.groups (s.pktIdx + 1) current.frame)
        (current.packets ++ [rtp]) := by
  rcases packing short few with ⟨position, carried⟩
  rw [frame.frame] at short few
  rcases build_short anc mbuf short few (Nat.zero_lt_of_lt frame.more) with ⟨packet, result, one⟩
  rw [result] at built
  cases built
  rw [← frame.frame] at one
  have more : s.cfg.groups (s.pktIdx + 1) current.frame = s.cfg.groups s.pktIdx current.frame ++
      [s.cfg.nextGroup (current.frame.metas.drop s.ancIdx)] := by
    unfold TxAncConfig.groups TxAncConfig.nextGroup
    rw [cut_succ, position]
    rfl
  have same : (s.cfg.groups s.pktIdx current.frame).length = current.packets.length := by
    rw [frame.sent]
    exact length_cut _ _ _
  rw [more]
  refine ⟨?_, carried.append same (frame.sent.symm ▸ one)⟩
  rw [List.flatten_append, List.length_append, ← position, List.flatten_singleton, frame.frame]

theorem packedRule (env : TxAncEnv) (start : TxAncSession) :
    RecordRule env start PackedWaits PackedSends where
  stillWaits := by
    intro before after records quiet waits
    rcases quiet.same with ⟨_, _, _, _, _, _, _, rfl⟩
    exact waits
  stillSends := by
    intro before after current rest quiet sends
    rcases quiet.same with ⟨_, _, _, _, _, _, _, rfl⟩
    exact sends
  taken := by
    intro s idx tcMeta frame records _ waits
    refine ⟨waits, fun _ _ => ⟨rfl, fun index group rtp isGroup => ?_⟩⟩
    cases isGroup
  synced := by
    intro s current rest _ due _ sends
    rcases txAncSyncFrame_shape env due with ⟨_, _, _, _, shape, -⟩
    rcases note_synced current with ⟨frame, -, packets⟩
    rw [shape]
    unfold PackedSends Packing
    rw [frame, packets]
    exact sends
  sent := by
    intro s next rtp current rest _ clear built _ frame _ sends
    have after := sends.2.next sends.1.1 built frame
    rcases emit_shape env next rtp clear with ⟨_, _, _, _, _, _, shape, -⟩
    rcases txAncillarySeqAdvance_shape s with ⟨_, _, advanced⟩
    rw [shape, advanced]
    exact ⟨sends.1, after⟩
  finished := by
    intro s next rtp current rest _ clear built _ frame last sends
    have after := sends.2.next sends.1.1 built frame
    rcases emit_shape env next rtp clear with ⟨_, _, _, _, _, _, shape, -⟩
    rcases txAncillarySeqAdvance_shape s with ⟨_, _, advanced⟩
    have waits : PackedWaits (s.emit env next rtp).release rest := by
      rw [shape, advanced]
      exact sends.1
    refine ⟨waits.1, fun record member => ?_⟩
    rcases List.mem_cons.mp member with head | tail
    · have cfg : (s.emit env next rtp).release.cfg = s.cfg := by
        rw [shape, advanced]
        rfl
      rw [head, cfg]
      intro short few
      have carried := (after short few).2
      rw [last, frame.total] at carried
      refine ⟨?_, carried⟩
      calc (current.packets ++ [rtp]).length
          = s.pktIdx + 1 := by rw [List.length_append, frame.sent, List.length_singleton]
        _ = s.cfg.totalPkts current.frame := by rw [last, frame.total]
    · exact waits.2 record tail
  abandoned := by
    intro s refusal code current rest _ refused frame sends
    refine ⟨sends.1.1, fun record member => ?_⟩
    rcases List.mem_cons.mp member with head | tail
    · -- short entries are never refused
      rw [head]
      intro short few
      have owned : current.frame = (s.frames s.frameIdx).addr := frame.frame
      change Short current.frame.metas at short
      change current.frame.metas.length ≤ 20 at few
      rw [owned] at short few
      rcases build_short sends.1.1 env.mbuf short few (Nat.zero_lt_of_lt frame.more)
        with ⟨packet, result, -⟩
      rw [result] at refused
      cases refused
    · exact sends.1.2 record tail

theorem packed_of_report (recorded : Recorded PackedWaits PackedSends s)
    {record : TxFrameRecord} (member : record ∈ frameRecords s.events)
    (reported : record.report.isSome = true) : Packed s.cfg record := by
  cases status : s.frameStat with
  | waitFrame => exact (recorded.1 status).2 record member
  | sendingPkts =>
    rcases recorded.2 status with ⟨current, rest, frame, sends⟩
    rw [frame.records] at member
    rcases List.mem_cons.mp member with head | tail
    · rw [head, frame.unreported] at reported
      cases reported
    · exact sends.1.2 record tail

/-! ## When a frame is sent whole -/

/-- There is a packet for each entry, or the entries fit as many packets as the estimate allows. -/
def EntriesFit (frame : St40Frame) : Prop :=
  cfg.ops.splitAncByPkt = true ∨
    Cuttable (fun entry => st40Rfc8331PayloadBytes entry.udwSize.toNat) cfg.maxPktLen
      (cfg.totalPkts frame) frame.metas

theorem groups_flatten_split {cfg : TxAncConfig} (anc : cfg.ops.fastMetadata = false)
    (split : cfg.ops.splitAncByPkt = true) (frame : St40Frame) :
    (cfg.groups (cfg.totalPkts frame) frame).flatten = frame.metas := by
  have enough : frame.metas.length ≤ cfg.totalPkts frame := by
    unfold TxAncConfig.totalPkts
    rw [anc, split, if_neg Bool.false_ne_true, if_pos rfl]
    split
    · omega
    · exact Nat.le_refl _
  unfold TxAncConfig.groups
  rw [entrySize_split split, entryLimit_split split, cut_flatten_iff]
  refine ⟨frame.metas.map (fun entry => [entry]), ?_, ?_, ?_⟩
  · rw [← List.flatMap_def]
    exact List.flatMap_singleton' frame.metas
  · rw [List.length_map]
    exact enough
  · intro one member
    rcases List.mem_map.mp member with ⟨entry, -, rfl⟩
    exact Nat.le_refl 1

theorem Packed.lossless_iff {cfg : TxAncConfig} (anc : cfg.ops.fastMetadata = false)
    {record : TxFrameRecord} (packed : Packed cfg record) (short : Short record.frame.metas)
    (few : record.frame.metas.length ≤ 20) : Lossless cfg record <-> EntriesFit cfg record.frame := by
  rcases packed short few with ⟨count, carried⟩
  have whole_of : (cfg.groups (cfg.totalPkts record.frame) record.frame).flatten = record.frame.metas ->
      Lossless cfg record := by
    intro whole
    refine ⟨_, whole, ?_, ?_⟩
    · rw [count]
      exact length_cut _ _ _
    · rw [count]
      exact carried
  constructor
  · rintro ⟨groups, whole, same, all⟩
    refine Or.inr ⟨groups, whole, by rw [same, count], fun group member => ?_⟩
    rcases List.getElem?_of_mem member with ⟨index, isGroup⟩
    have inside : index < record.packets.length := by
      rw [← same]
      exact (List.getElem?_eq_some_iff.mp isGroup).1
    rcases all index group _ isGroup (List.getElem?_eq_getElem inside) with
      ⟨packet, -, payload, -, -, bound, -⟩
    have own : Short group := by
      intro entry isEntry
      refine short entry ?_
      rw [← whole]
      exact List.mem_flatten.mpr ⟨group, member, isEntry⟩
    rw [payload, length_flatMap_ancEntryBytes _ own] at bound
    exact bound
  · intro fit
    rcases fit with split | cuttable
    · exact whole_of (groups_flatten_split anc split record.frame)
    · cases split : cfg.ops.splitAncByPkt with
      | true => exact whole_of (groups_flatten_split anc split record.frame)
      | false =>
        refine whole_of ?_
        unfold TxAncConfig.groups
        rw [entrySize_joined split, entryLimit_joined split]
        exact (cut_flatten_iff _ _ _).mpr cuttable

/-- In every run of a session for ancillary data: the ports were given the packets of the frames, in
order, and a frame that was reported with short entries is whole on the wire exactly when its entries
fit the packets that were estimated for it.  Otherwise packets of it were sent, and entries are
missing. -/
theorem frames_sent_whole_iff (cfg : TxAncConfig) (level : cfg.ops.type = .frameLevel)
    (anc : cfg.ops.fastMetadata = false) (ptpTime : Nat) (envs : List TxAncEnv) :
    let s := run txAncStep (txAncInit cfg ptpTime) envs
    (forall port, cfg.Sends port -> (s.wire port ++ (s.inflight port).toList).map TxPkt.rtp =
      recordedPackets (frameRecords s.events)) ∧
    forall record tcMeta code, record ∈ frameRecords s.events -> record.report = some (tcMeta, code) ->
      record.frame.metas.length ≤ 20 ->
      (∀ entry ∈ record.frame.metas, entry.udwSize.toNat ≤ 255) ->
      ((Lossless cfg record ∨ (record.packets = [] ∧ code ≠ none)) <->
        EntriesFit cfg record.frame) := by
  intro s
  have history := recorded_run level (fun _ env _ _ => packedRule env _)
    (show PackedWaits (txAncInit cfg ptpTime) [] from ⟨anc, fun _ absurd => (by cases absurd)⟩)
    (admitted_of_forall txAncStep (fun env _ => trivial : ∀ env ∈ envs, True))
  refine ⟨fun port sends => ?_, fun record tcMeta code member report few short => ?_⟩
  · refine emitted_run level ptpTime envs port ?_
    rw [history.1]
    exact sends
  · have packed := packed_of_report history.2 member (by rw [report]; rfl)
    rw [history.1] at packed
    rw [← packed.lossless_iff anc short few]
    refine or_iff_left (fun empty => ?_)
    have count := (packed short few).1
    rw [empty.1] at count
    exact absurd count (Nat.ne_of_lt (cfg.totalPkts_pos record.frame))

theorem txAncStep_sends {mid : TxAncSession} {env : TxAncEnv} (level : mid.cfg.ops.type = .frameLevel)
    (anc : mid.cfg.ops.fastMetadata = false)
    (reached : txAncReach env { s with buildRetCode := none } = (mid, none))
    (short : Short (mid.frames mid.frameIdx).addr.metas)
    (few : (mid.frames mid.frameIdx).addr.metas.length ≤ 20) (some_pkts : 0 < mid.totalPkts)
    (alloc : env.allocPkt = true ∧ env.allocChain = true) (redundant : env.allocRedundant = true) :
    Exists fun next => Exists fun rtp => txAncStep s env = txAncFinishFrame (mid.emit env next rtp) := by
  rcases build_short anc env.mbuf short few some_pkts with ⟨rtp, built, -⟩
  have kept := txAncillarySeqAdvance_cfg mid
  have given : txAncBuild env mid = txAncBuildPackets env.allocRedundant env.mbuf mid := by
    unfold txAncBuild
    split
    · rw [txAncBuildSingle_eq, if_pos alloc.1]
    · rw [txAncBuildChained_eq env level, if_pos alloc]
  have ports : ¬ ((txAncillarySeqAdvance mid).cfg.ops.numPort > 1 ∧ env.allocRedundant = false) := by
    rw [redundant]
    exact fun absurd => (by cases absurd.2)
  unfold txAncStep txAncillarySessionTaskletFrame
  rw [reached]
  dsimp only
  unfold txAncSendOne
  rw [given]
  unfold txAncBuildPackets TxAncSession.emit
  rw [built]
  dsimp only
  rw [if_neg ports, ← kept]
  exact ⟨_, rtp, rfl⟩

def twentyEntries (udwSize : Nat) : St40Frame where
  metas := List.replicate 20 ⟨0, 0, 0, 0, 0, 0, 0, BitVec.ofNat 16 udwSize, 0⟩
  data := fun _ => 0
  dataSize := 0

/-- A call in which the application hands out this frame and its time has come. -/
def offers (frame : St40Frame) : TxAncEnv :=
  { plainEnv with
    getNextFrame := fun tcMeta => some (0, tcMeta, frame)
    curTsc := uint64Max }

def ancConfig : TxAncConfig := plainConfig (packetOps .frameLevel false)

theorem txAncWaits_late {env : TxAncEnv} (late : s.pacing.tscTimeCursor ≤ env.curTsc) :
    txAncWaits env s = false := by
  unfold txAncWaits
  rw [decide_eq_false (Nat.not_lt.mpr late)]
  rfl

def firstTaken (frame : St40Frame) : TxAncSession :=
  (txAncInit ancConfig 0).take 0 (txAncillarySessionInitNextMeta (txAncInit ancConfig 0)) frame

theorem reach_first (one : ancConfig.totalPkts frame = 1) :
    txAncReach (offers frame) { txAncInit ancConfig 0 with buildRetCode := none } =
      (txAncSyncFrame (offers frame) (firstTaken frame), none) := by
  have refused : ¬ (txAncInit ancConfig 0).cfg.refusesTotal frame = true := by
    unfold TxAncConfig.refusesTotal
    rw [show (txAncInit ancConfig 0).cfg = ancConfig from rfl, one]
    decide
  have next : txAncNextFrame (offers frame) (txAncInit ancConfig 0) = (firstTaken frame, true) := by
    unfold txAncNextFrame
    exact (if_neg (fun absurd => absurd rfl)).trans (if_neg refused)
  have due : txAncWaits (offers frame) (txAncSyncFrame (offers frame) (firstTaken frame)) = false := by
    rcases @txAncSyncFrame_shape (offers frame) (firstTaken frame) rfl with
      ⟨_, _, _, _, synced, -, bounded, -⟩
    rw [synced]
    exact txAncWaits_late (bounded (Nat.zero_le _))
  have frames : txAncReach (offers frame) { txAncInit ancConfig 0 with buildRetCode := none } =
      txAncReachFrame (offers frame) (txAncInit ancConfig 0) := rfl
  rw [frames]
  unfold txAncReachFrame
  rw [next]
  dsimp only
  rw [due, if_neg Bool.false_ne_true]

theorem one_call_done (short : Short frame.metas) (few : frame.metas.length ≤ 20)
    (one : ancConfig.totalPkts frame = 1) :
    Exists fun rtp => Exists fun tcMeta => Exists fun code =>
      frameRecords (run txAncStep (txAncInit ancConfig 0) [offers frame]).events =
        [⟨frame, 1, 0, [rtp], some (tcMeta, code)⟩] := by
  have reached := reach_first one
  rcases @txAncSyncFrame_shape (offers frame) (firstTaken frame) rfl with
    ⟨_, _, tcMeta, _, synced, -⟩
  have owned : ((txAncSyncFrame (offers frame) (firstTaken frame)).frames
      (txAncSyncFrame (offers frame) (firstTaken frame)).frameIdx).addr = frame := by
    rw [synced]
    rfl
  have total : (txAncSyncFrame (offers frame) (firstTaken frame)).totalPkts = 1 := by
    rw [synced]
    exact one
  have history : (txAncSyncFrame (offers frame) (firstTaken frame)).events =
      [.synced, .handed 0 frame] := by
    rw [synced]
    rfl
  have first : (txAncSyncFrame (offers frame) (firstTaken frame)).pktIdx = 0 ∧
      (txAncSyncFrame (offers frame) (firstTaken frame)).cfg = ancConfig ∧
      (txAncSyncFrame (offers frame) (firstTaken frame)).Clear := by
    rw [synced]
    exact ⟨rfl, rfl, rfl, fun _ => rfl⟩
  generalize txAncSyncFrame (offers frame) (firstTaken frame) = mid at reached owned total history first
  rcases txAncStep_sends (by rw [first.2.1]; rfl) (by rw [first.2.1]; rfl) reached
    (by rw [owned]; exact short) (by rw [owned]; exact few) (by rw [total]; exact Nat.one_pos)
    ⟨rfl, rfl⟩ rfl with ⟨next, rtp, step⟩
  rcases emit_fields (offers frame) first.2.2 next rtp with ⟨events, pktIdx, totalPkts, -⟩
  have last : (mid.emit (offers frame) next rtp).pktIdx ≥ (mid.emit (offers frame) next rtp).totalPkts := by
    rw [pktIdx, totalPkts, total, first.1]
  rw [run_cons, run_nil, step]
  unfold txAncFinishFrame TxAncSession.release
  rw [if_pos last]
  dsimp only
  rw [events, history]
  exact ⟨rtp, _, _, rfl⟩

/-- Twenty entries of one word fit one packet. -/
theorem twenty_words_sent_whole :
    EntriesFit ancConfig (twentyEntries 1) ∧
      (forall record, record ∈ frameRecords
          (run txAncStep (txAncInit ancConfig 0) [offers (twentyEntries 1)]).events ->
        Lossless ancConfig record) := by
  have fit : EntriesFit ancConfig (twentyEntries 1) :=
    Or.inr ((cut_flatten_iff _ _ _).mp (by decide +kernel))
  have short : Short (twentyEntries 1).metas := by
    intro entry member
    rw [List.eq_of_mem_replicate member]
    decide
  rcases one_call_done short (by decide) (by decide) with ⟨rtp, tcMeta, code, records⟩
  refine ⟨fit, fun record member => ?_⟩
  have whole := (frames_sent_whole_iff ancConfig rfl rfl 0 [offers (twentyEntries 1)]).2 record tcMeta
    code member
  rw [records] at member
  rw [List.mem_singleton.mp member] at whole ⊢
  rcases (whole rfl (Nat.le_refl 20) short).mpr fit with lossless | empty
  · exact lossless
  · cases empty.1

/-- Twenty entries of fifty words: the words alone would fit one packet, the entries do not.  The
frame is reported, with one packet, and the last entry is missing. -/
theorem twentieth_entry_dropped :
    (∀ entry ∈ (twentyEntries 50).metas, entry.udwSize.toNat ≤ 255) ∧
      Exists fun record => Exists fun tcMeta => Exists fun code =>
        frameRecords (run txAncStep (txAncInit ancConfig 0) [offers (twentyEntries 50)]).events =
          [record] ∧
        record.frame = twentyEntries 50 ∧ record.report = some (tcMeta, code) ∧
        record.packets.length = 1 ∧ ¬ (Lossless ancConfig record ∨ (record.packets = [] ∧ code ≠ none)) := by
  have short : Short (twentyEntries 50).metas := by
    intro entry member
    rw [List.eq_of_mem_replicate member]
    decide
  have narrow : ¬ EntriesFit ancConfig (twentyEntries 50) := by
    rintro (absurd | cuttable)
    · cases absurd
    · exact absurd ((cut_flatten_iff _ _ _).mpr cuttable) (by decide +kernel)
  rcases one_call_done short (by decide) (by decide) with ⟨rtp, tcMeta, code, records⟩
  refine ⟨short, _, tcMeta, code, records, rfl, rfl, rfl, ?_⟩
  have history := recorded_run (show ancConfig.ops.type = .frameLevel from rfl)
    (fun _ env _ _ => packedRule env _)
    (show PackedWaits (txAncInit ancConfig 0) [] from ⟨rfl, fun _ absurd => (by cases absurd)⟩)
    (admitted_of_forall txAncStep
      (fun env _ => trivial : ∀ env ∈ [offers (twentyEntries 50)], True))
  have packed := packed_of_report history.2 (by rw [records]; exact List.mem_cons_self) rfl
  rw [history.1] at packed
  rintro (lossless | empty)
  · exact narrow ((packed.lossless_iff rfl short (Nat.le_refl 20)).mp lossless)
  · cases empty.1

end MediaTransport.Anc
