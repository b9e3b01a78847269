import MediaTransport.Net.Membership
import MediaTransport.Util.CheckSum

namespace MediaTransport.Net

open Library
open Util (mtRf1071CheckSum mtRf1071CheckSum_eq)

/-!
# The membership report of a port

A query is answered with one report that holds a record for each group, with its
sources.  The records are written one behind the other, wherever the mbuf ends, and a
checksum of zero is taken for an error.
-/

variable (ips : List Nat)

variable {group : MtMcastGroupEntry} {groups : List MtMcastGroupEntry} {port : McastPort}

/-! ## Records -/

/-- A `uint32_t` as it lies in memory. -/
def ipBytes (ip : Nat) : List Byte := [ipByte ip 0, ipByte ip 1, ipByte ip 2, ipByte ip 3]

/-- Bytes, or other things, are written over a list from a place on. -/
def overlay {Item : Type} (content : List Item) (place : Nat) (new : List Item) : List Item :=
  content.take place ++ new ++ content.drop (place + new.length)

/-- The loop over the sources of a group; the index is a `uint16_t`. -/
def fillSources : List MtMcastSrcEntry -> Nat -> List Nat -> Nat × List Nat
  | [], numSources, sourceAddr => (numSources, sourceAddr)
  | src :: rest, numSources, sourceAddr =>
    fillSources rest (u16 (numSources + 1 : Nat)) (overlay sourceAddr numSources [src.srcIp])

/-- `mcast_create_group_record_on_query`: the bytes that are written, and the length of the record. -/
def mcastCreateGroupRecordOnQuery (group : MtMcastGroupEntry) : List Byte × Nat :=
  let (numSources, sourceAddr) := fillSources group.srcList 0 []
  ([if numSources = 0 then 2 else 1, 0] ++ be16 numSources ++ ipBytes group.groupIp ++
      sourceAddr.flatMap ipBytes,
    8 + numSources * 4)

/-- The loop over the groups, with the length of the report so far and all that was written to the mbuf. -/
def fillGroups : List MtMcastGroupEntry -> Nat -> List Byte -> Nat × List Byte
  | [], mbReportLen, content => (mbReportLen, content)
  | group :: rest, mbReportLen, content =>
    let (record, recordLen) := mcastCreateGroupRecordOnQuery group
    fillGroups rest (mbReportLen + recordLen) (overlay content mbReportLen record)

/-! ## The report -/

def mbReportHdr (checksum groupNum : Nat) : List Byte :=
  [0x22, 0] ++ be16 checksum ++ [0, 0] ++ be16 groupNum

/-- The report in its mbuf: all that was written from its first byte on, its length, the total length in the
IP header and the length of the data. -/
structure McastReport where
  content : List Byte
  mbReportLen : Nat
  totalLength : Nat
  dataLen : Nat
  deriving DecidableEq, Repr

/-- What becomes of the mbuf. -/
inductive ReportEnd where
  | none
  | sent (report : McastReport)
  | freed (report : McastReport)
  | lost (content : List Byte)
  deriving DecidableEq, Repr

/-- `mcast_membership_report_on_query`; the flags say whether there is an mbuf and whether the queue takes
it. -/
def mcastMembershipReportOnQuery (port : McastPort) (alloc tx : Bool) : ReportEnd :=
  if port.groupNum = 0 then .none
  else if !alloc then .none
  else
    let (mbReportLen, content) := fillGroups port.groupList 8 (mbReportHdr 0 port.groupNum)
    let checksum := mtRf1071CheckSum (content.take mbReportLen) true
    if checksum = 0 then .lost content
    else
      let report : McastReport :=
        { content := overlay content 2 (be16 checksum)
          mbReportLen := mbReportLen
          totalLength := u16 (20 + mbReportLen : Nat)
          dataLen := u16 (34 + mbReportLen : Nat) }
      if tx then .sent report else .freed report

/-! ## What a receiver reads -/

/-- A record, with addresses as they lie on the wire. -/
structure GroupRecord where
  recordType : Byte
  multicastAddr : List Byte
  sourceAddr : List (List Byte)
  deriving DecidableEq, Repr

def readSources : Nat -> List Byte -> Option (List (List Byte) × List Byte)
  | 0, rest => some ([], rest)
  | count + 1, first :: second :: third :: fourth :: rest =>
    (readSources count rest).map fun read => ([first, second, third, fourth] :: read.1, read.2)
  | _ + 1, _ => none

/-- Records, as many as are announced; auxiliary data is not understood. -/
def readRecords : Nat -> List Byte -> Option (List GroupRecord × List Byte)
  | 0, rest => some ([], rest)
  | count + 1, recordType :: auxDataLen :: high :: low :: first :: second :: third :: fourth :: rest =>
    if auxDataLen ≠ 0 then none
    else
      match readSources (high.toNat * 256 + low.toNat) rest with
      | none => none
      | some (sources, rest) =>
        (readRecords count rest).map fun read =>
          (⟨recordType, [first, second, third, fourth], sources⟩ :: read.1, read.2)
  | _ + 1, _ => none

/-- A whole report of version 3. -/
def readReport : List Byte -> Option (List GroupRecord)
  | type :: _ :: _ :: _ :: _ :: _ :: high :: low :: rest =>
    if type ≠ 0x22 then none
    else
      match readRecords (high.toNat * 256 + low.toNat) rest with
      | some (records, []) => some records
      | _ => none
  | _ => none

def MtMcastGroupEntry.record (group : MtMcastGroupEntry) : GroupRecord :=
  ⟨if group.srcList = [] then 2 else 1, ipBytes group.groupIp, group.srcList.map fun src => ipBytes src.srcIp⟩

/-! ## What is promised -/

/-- The data that an mbuf of the port's transmit pool has room for, and the headers before the report. -/
def reportRoom : Nat := 2048 - 34

/-- The report is in its mbuf, a receiver reads the groups of the port from it and finds its checksum right,
and the lengths are those of the report. -/
structure McastReport.Describes (report : McastReport) (port : McastPort) : Prop where
  fits : report.content.length ≤ reportRoom
  whole : report.content.length = report.mbReportLen
  read : readReport report.content = some (port.groupList.map MtMcastGroupEntry.record)
  checksum : mtRf1071CheckSum report.content true = 0
  totalLength : report.totalLength = 20 + report.mbReportLen
  dataLen : report.dataLen = 34 + report.mbReportLen

/-- The report that is built describes the groups, and its mbuf is sent or freed. -/
def ReportRight (port : McastPort) : ReportEnd -> Prop
  | .none => True
  | .sent report => report.Describes port
  | .freed report => report.Describes port
  | .lost _ => False

def reportLen (groups : List MtMcastGroupEntry) : Nat :=
  8 + (groups.map fun group => 8 + group.srcList.length * 4).sum

def addrWords (ip : Nat) : Nat := wordSum (ipBytes ip)

def MtMcastGroupEntry.words (group : MtMcastGroupEntry) : Nat :=
  (if group.srcList = [] then 512 else 256) + group.srcList.length + addrWords group.groupIp +
    (group.srcList.map fun src => addrWords src.srcIp).sum

def reportWords (groups : List MtMcastGroupEntry) : Nat :=
  8704 + groups.length + (groups.map MtMcastGroupEntry.words).sum

/-- There is nothing to report or no mbuf, or the report has room and its half words do not add up to a
multiple of 65535. -/
def ReportSafe (port : McastPort) (alloc : Bool) : Prop :=
  port.groupList = [] ∨ alloc = false ∨
    (reportLen port.groupList ≤ reportRoom ∧ reportWords port.groupList % 65535 ≠ 0)

/-! ## What is written -/

section
variable {Item : Type}

theorem overlay_end (content new : List Item) : overlay content content.length new = content ++ new := by
  unfold overlay
  rw [List.take_length, List.drop_eq_nil_of_le (Nat.le_add_right _ _), List.append_nil]

theorem overlay_length (content : List Item) (place : Nat) (new : List Item) :
    content.length ≤ (overlay content place new).length ∧ new.length ≤ (overlay content place new).length := by
  unfold overlay
  simp only [List.length_append, List.length_take, List.length_drop]
  omega

theorem overlay_length_end {content : List Item} {place : Nat} (inside : place ≤ content.length)
    (new : List Item) : place + new.length ≤ (overlay content place new).length := by
  unfold overlay
  simp only [List.length_append, List.length_take, List.length_drop]
  omega

end

variable (checksum : Nat)

theorem ipBytes_length (ip : Nat) : (ipBytes ip).length = 4 := rfl

theorem fillSources_small (srcs : List MtMcastSrcEntry) (sourceAddr : List Nat)
    (few : sourceAddr.length + srcs.length < 65536) :
    fillSources srcs sourceAddr.length sourceAddr =
      (sourceAddr.length + srcs.length, sourceAddr ++ srcs.map MtMcastSrcEntry.srcIp) := by
  induction srcs generalizing sourceAddr with
  | nil => simp [fillSources]
  | cons src rest ih =>
    simp only [List.length_cons] at few
    have next : u16 (sourceAddr.length + 1 : Nat) = (sourceAddr ++ [src.srcIp]).length := by
      have kept := u16_of_fits (sourceAddr.length + 1 : Nat) (by omega) (by omega)
      simp only [List.length_append, List.length_singleton]
      omega
    rw [fillSources, overlay_end, next, ih _ (by simp; omega)]
    simp only [List.length_append, List.length_cons, List.length_nil, List.map_cons, List.append_assoc,
      List.singleton_append]
    congr 1
    omega

theorem fillSources_length (srcs : List MtMcastSrcEntry) {numSources : Nat} {sourceAddr : List Nat}
    (inside : numSources ≤ sourceAddr.length) :
    sourceAddr.length ≤ (fillSources srcs numSources sourceAddr).2.length ∧
      min (numSources + srcs.length) 65536 ≤ (fillSources srcs numSources sourceAddr).2.length := by
  induction srcs generalizing numSources sourceAddr with
  | nil => simp only [fillSources, List.length_nil]; omega
  | cons src rest ih =>
    have grows := overlay_length sourceAddr numSources [src.srcIp]
    have there := overlay_length_end inside [src.srcIp]
    simp only [List.length_singleton] at there
    have index : u16 (numSources + 1 : Nat) ≤ numSources + 1 ∧
        (numSources + 1 < 65536 -> u16 (numSources + 1 : Nat) = numSources + 1) := by
      unfold u16 word
      omega
    have later := @ih (u16 (numSources + 1 : Nat)) (overlay sourceAddr numSources [src.srcIp]) (by omega)
    rw [fillSources]
    simp only [List.length_cons]
    refine ⟨by omega, ?_⟩
    by_cases last : numSources + 1 < 65536
    · have counted := index.2 last
      omega
    · omega

def MtMcastGroupEntry.recordBytes (group : MtMcastGroupEntry) : List Byte :=
  [if group.srcList = [] then 2 else 1, 0] ++ be16 group.srcList.length ++ ipBytes group.groupIp ++
    group.srcList.flatMap fun src => ipBytes src.srcIp

theorem flatMap_ipBytes_length : (ips.flatMap ipBytes).length = ips.length * 4 := by
  induction ips with
  | nil => rfl
  | cons ip rest ih =>
    rw [List.flatMap_cons, List.length_append, ih, ipBytes_length, List.length_cons]
    omega

theorem MtMcastGroupEntry.recordBytes_length (group : MtMcastGroupEntry) :
    group.recordBytes.length = 8 + group.srcList.length * 4 := by
  have sources := flatMap_ipBytes_length (group.srcList.map MtMcastSrcEntry.srcIp)
  rw [List.flatMap_map, List.length_map] at sources
  unfold MtMcastGroupEntry.recordBytes
  simp only [List.length_append, sources, be16_length, ipBytes_length, List.length_cons, List.length_nil]

theorem mcastCreateGroupRecordOnQuery_small (few : group.srcList.length < 65536) :
    mcastCreateGroupRecordOnQuery group = (group.recordBytes, group.recordBytes.length) := by
  have filled := fillSources_small group.srcList [] (by simpa using few)
  simp only [List.length_nil, Nat.zero_add, List.nil_append] at filled
  rw [MtMcastGroupEntry.recordBytes_length]
  unfold mcastCreateGroupRecordOnQuery MtMcastGroupEntry.recordBytes
  simp only [filled, List.flatMap_map, List.length_eq_zero_iff]

theorem mcastCreateGroupRecordOnQuery_large (many : 65536 ≤ group.srcList.length) :
    65536 ≤ (mcastCreateGroupRecordOnQuery group).1.length := by
  have filled := @fillSources_length group.srcList 0 [] (by simp)
  have bytes := flatMap_ipBytes_length (fillSources group.srcList 0 []).2
  unfold mcastCreateGroupRecordOnQuery
  simp only [List.length_append, bytes]
  omega

theorem fillGroups_small (groups : List MtMcastGroupEntry) (content : List Byte)
    (few : ∀ group ∈ groups, group.srcList.length < 65536) :
    fillGroups groups content.length content =
      ((content ++ groups.flatMap MtMcastGroupEntry.recordBytes).length,
        content ++ groups.flatMap MtMcastGroupEntry.recordBytes) := by
  induction groups generalizing content with
  | nil => simp [fillGroups]
  | cons group rest ih =>
    have here := mcastCreateGroupRecordOnQuery_small (few group List.mem_cons_self)
    have later := ih (content ++ group.recordBytes) (fun other member => few other (List.mem_cons_of_mem _ member))
    rw [fillGroups, here]
    dsimp only
    rw [overlay_end, <- List.length_append, later, List.flatMap_cons, List.append_assoc]

theorem fillGroups_length (groups : List MtMcastGroupEntry) (mbReportLen : Nat) (content : List Byte) :
    content.length ≤ (fillGroups groups mbReportLen content).2.length ∧
      ∀ group ∈ groups,
        (mcastCreateGroupRecordOnQuery group).1.length ≤ (fillGroups groups mbReportLen content).2.length := by
  induction groups generalizing mbReportLen content with
  | nil => simp [fillGroups]
  | cons group rest ih =>
    have written := overlay_length content mbReportLen (mcastCreateGroupRecordOnQuery group).1
    have later := ih (mbReportLen + (mcastCreateGroupRecordOnQuery group).2)
      (overlay content mbReportLen (mcastCreateGroupRecordOnQuery group).1)
    rw [fillGroups]
    refine ⟨written.1.trans later.1, ?_⟩
    intro other member
    rcases List.mem_cons.mp member with rfl | older
    · exact written.2.trans later.1
    · exact later.2 other older

/-! ## What is read -/

theorem readSources_append (rest : List Byte) :
    readSources ips.length (ips.flatMap ipBytes ++ rest) = some (ips.map ipBytes, rest) := by
  induction ips with
  | nil => rfl
  | cons ip later ih =>
    rw [List.flatMap_cons, List.append_assoc, List.length_cons]
    unfold ipBytes
    simp only [List.cons_append, List.nil_append, readSources]
    rw [show later.flatMap (fun ip => [ipByte ip 0, ipByte ip 1, ipByte ip 2, ipByte ip 3]) =
      later.flatMap ipBytes from rfl, ih]
    rfl

theorem be16_read {value : Nat} (fits : value < 65536) :
    (BitVec.ofNat 8 (value / 256)).toNat * 256 + (BitVec.ofNat 8 value).toNat = value := by
  simp only [BitVec.toNat_ofNat]
  omega

theorem MtMcastGroupEntry.recordBytes_append (group : MtMcastGroupEntry) (rest : List Byte) :
    group.recordBytes ++ rest =
      (if group.srcList = [] then 2 else 1) :: 0 :: BitVec.ofNat 8 (group.srcList.length / 256) ::
        BitVec.ofNat 8 group.srcList.length :: ipByte group.groupIp 0 :: ipByte group.groupIp 1 ::
        ipByte group.groupIp 2 :: ipByte group.groupIp 3 ::
        ((group.srcList.flatMap fun src => ipBytes src.srcIp) ++ rest) := rfl

theorem readRecords_append (groups : List MtMcastGroupEntry) (rest : List Byte)
    (few : ∀ group ∈ groups, group.srcList.length < 65536) :
    readRecords groups.length (groups.flatMap MtMcastGroupEntry.recordBytes ++ rest) =
      some (groups.map MtMcastGroupEntry.record, rest) := by
  induction groups with
  | nil => rfl
  | cons group later ih =>
    have sources := readSources_append (group.srcList.map MtMcastSrcEntry.srcIp)
      (later.flatMap MtMcastGroupEntry.recordBytes ++ rest)
    rw [List.length_map, List.flatMap_map, List.map_map] at sources
    have others := ih (fun other member => few other (List.mem_cons_of_mem _ member))
    rw [List.flatMap_cons, List.append_assoc, MtMcastGroupEntry.recordBytes_append, List.length_cons, readRecords,
      if_neg (by decide), be16_read (few group List.mem_cons_self), sources]
    simp only
    rw [others]
    rfl

/-! ## The checksum -/

theorem wordSum_flatMap_ipBytes : wordSum (ips.flatMap ipBytes) = (ips.map addrWords).sum := by
  induction ips with
  | nil => rfl
  | cons ip rest ih =>
    rw [List.flatMap_cons, wordSum_append (by rw [ipBytes_length]), ih, List.map_cons, List.sum_cons]
    rfl

theorem MtMcastGroupEntry.recordBytes_words (few : group.srcList.length < 65536) :
    wordSum group.recordBytes = group.words := by
  have sources := wordSum_flatMap_ipBytes (group.srcList.map MtMcastSrcEntry.srcIp)
  rw [List.flatMap_map, List.map_map] at sources
  unfold MtMcastGroupEntry.recordBytes MtMcastGroupEntry.words
  rw [wordSum_append (by simp [ipBytes_length]), wordSum_append (by simp),
    wordSum_append (by simp), sources, wordSum_be16 few]
  unfold addrWords
  split_ifs <;> rfl

theorem wordSum_records (groups : List MtMcastGroupEntry)
    (few : ∀ group ∈ groups, group.srcList.length < 65536) :
    wordSum (groups.flatMap MtMcastGroupEntry.recordBytes) = (groups.map MtMcastGroupEntry.words).sum := by
  induction groups with
  | nil => rfl
  | cons group rest ih =>
    have whole : group.recordBytes.length % 2 = 0 := by
      rw [MtMcastGroupEntry.recordBytes_length]
      omega
    rw [List.flatMap_cons, wordSum_append whole, MtMcastGroupEntry.recordBytes_words (few group List.mem_cons_self),
      ih (fun other member => few other (List.mem_cons_of_mem _ member)), List.map_cons, List.sum_cons]

def reportBytes (checksum : Nat) (groups : List MtMcastGroupEntry) : List Byte :=
  mbReportHdr checksum groups.length ++ groups.flatMap MtMcastGroupEntry.recordBytes

theorem reportBytes_length (groups : List MtMcastGroupEntry) :
    (reportBytes checksum groups).length = reportLen groups := by
  have records : (groups.flatMap MtMcastGroupEntry.recordBytes).length =
      (groups.map fun group => 8 + group.srcList.length * 4).sum := by
    rw [List.length_flatMap]
    simp only [MtMcastGroupEntry.recordBytes_length]
  unfold reportBytes reportLen
  rw [List.length_append, records]
  rfl

theorem reportBytes_words {checksum : Nat} (fits : checksum < 65536) {groups : List MtMcastGroupEntry}
    (count : groups.length < 65536) (few : ∀ group ∈ groups, group.srcList.length < 65536) :
    wordSum (reportBytes checksum groups) = reportWords groups + checksum := by
  unfold reportBytes reportWords mbReportHdr
  rw [wordSum_append (by simp), wordSum_append (by simp), wordSum_append (by simp), wordSum_append (by simp),
    wordSum_be16 fits, wordSum_be16 count, wordSum_records groups few]
  have type : wordSum [0x22, 0] = 8704 := rfl
  have reserved : wordSum [0, 0] = 0 := rfl
  omega

theorem overlay_checksum (groups : List MtMcastGroupEntry) :
    overlay (reportBytes 0 groups) 2 (be16 checksum) = reportBytes checksum groups := rfl

theorem reportBytes_checksum (count : groups.length < 65536)
    (few : ∀ group ∈ groups, group.srcList.length < 65536) (room : reportLen groups ≤ reportRoom) :
    let checksum := mtRf1071CheckSum (reportBytes 0 groups) true
    (checksum = 0 ↔ reportWords groups % 65535 = 0) ∧ checksum < 65536 ∧
      mtRf1071CheckSum (reportBytes checksum groups) true = 0 := by
  have words := @reportBytes_words 0 (by decide) groups count few
  have bound := wordSum_le (reportBytes 0 groups)
  have length := reportBytes_length 0 groups
  have fits : reportWords groups < 131072000 := by
    unfold reportRoom at room
    omega
  have positive : 0 < reportWords groups := by
    unfold reportWords
    omega
  have short : forall checksum, (reportBytes checksum groups).length < 65536 := by
    intro checksum
    rw [reportBytes_length]
    unfold reportRoom at room
    omega
  have plain : mtRf1071CheckSum (reportBytes 0 groups) true = 65535 - foldWord (reportWords groups) := by
    rw [← Nat.add_zero (reportWords groups), ← words]
    exact (mtRf1071CheckSum_eq true (short 0)).2
  have spec := foldWord_pos positive (by omega)
  dsimp only
  rw [plain]
  refine ⟨?_, by omega, ?_⟩
  · rw [<- foldWord_eq_ones_iff positive (by omega)]
    omega
  · have complete := @reportBytes_words (65535 - foldWord (reportWords groups)) (by omega) groups count few
    have summed := (mtRf1071CheckSum_eq true (short (65535 - foldWord (reportWords groups)))).2
    rw [summed]
    change 65535 - foldWord (wordSum (reportBytes _ groups)) = 0
    rw [complete, foldWord_complement positive (by omega)]

/-! ## The table -/

/-- The groups are counted, and there are at most 60. -/
structure McastPort.Counted (port : McastPort) : Prop where
  groupNum : port.groupNum = port.groupList.length
  few : port.groupList.length ≤ 60

theorem McastPort.group_isSome_iff (port : McastPort) (groupAddr : Nat) :
    (port.group groupAddr).isSome = true ↔ groupAddr ∈ port.groupList.map MtMcastGroupEntry.groupIp := by
  unfold McastPort.group
  rw [List.find?_isSome, List.mem_map]
  simp

theorem McastPort.Counted.join (counted : port.Counted) (groupAddr sourceAddr : Nat)
    (sent : Bool) : (mtMcastJoin port groupAddr sourceAddr sent).1.Counted := by
  have length := length_joinGroup groupAddr sourceAddr port.groupList
  have known := port.group_isSome_iff groupAddr
  have number := counted.groupNum
  unfold mtMcastJoin
  by_cases off : port.config.noMulticast = true
  · rw [if_pos off]
    exact counted
  · by_cases inDp : port.config.mcastInDp = true
    · rw [if_neg off, if_pos inDp]
      exact counted
    · by_cases full : 60 ≤ port.groupNum
      · rw [if_neg off, if_neg inDp, if_pos full]
        exact counted
      · rw [if_neg off, if_neg inDp, if_neg full]
        have numbered := u16_of_fits ((port.groupNum : Int) + 1) (by omega) (by omega)
        by_cases there : groupAddr ∈ port.groupList.map MtMcastGroupEntry.groupIp
        · rw [if_pos there] at length
          simp only [known.mpr there, if_true]
          refine ⟨number.trans length.symm, ?_⟩
          dsimp only
          omega
        · rw [if_neg there] at length
          simp only [Bool.eq_false_iff.mpr (mt known.mp there), Bool.false_eq_true, if_false]
          refine ⟨?_, ?_⟩ <;> dsimp only <;> omega

theorem McastPort.Counted.leave (counted : port.Counted) (groupAddr sourceAddr : Nat) :
    (mtMcastLeave port groupAddr sourceAddr).Counted := by
  have number := counted.groupNum
  have few := counted.few
  unfold mtMcastLeave
  by_cases off : (port.config.noMulticast || port.config.mcastInDp) = true
  · rw [if_pos off]
    exact counted
  · by_cases empty : port.groupNum = 0
    · rw [if_neg off, if_pos empty]
      exact counted
    · rw [if_neg off, if_neg empty]
      cases found : port.group groupAddr with
      | none => exact counted
      | some group =>
        have length := length_leaveGroup sourceAddr found
        have numbered := u16_of_fits ((port.groupNum : Int) - 1) (by omega) (by omega)
        dsimp only
        by_cases last : u16 ((group.groupRefCnt : Int) - 1) = 0
        · rw [if_pos last] at length
          simp only [last, decide_true, if_true]
          refine ⟨?_, ?_⟩ <;> dsimp only <;> omega
        · rw [if_neg last] at length
          simp only [last, decide_false, Bool.false_eq_true, if_false]
          refine ⟨?_, ?_⟩ <;> dsimp only <;> omega

theorem McastPort.counted (config : McastConfig) (inputs : List McastInput) :
    (run mcastStep (mcastInit config) inputs).Counted := by
  have admitted : Admitted mcastStep (fun _ _ => True) (mcastInit config) inputs :=
    admitted_of_forall mcastStep (fun _ _ => trivial)
  refine run_invariant mcastStep (fun _ _ => True) McastPort.Counted ?_ ⟨rfl, Nat.zero_le _⟩ admitted
  intro port input counted _
  cases input with
  | join groupAddr sourceAddr sent =>
    have joined := counted.join groupAddr sourceAddr sent
    simp only [mcastStep]
    rcases answer : mtMcastJoin port groupAddr sourceAddr sent with ⟨after, _ | _⟩
    · rw [answer] at joined
      exact joined
    · rw [answer] at joined
      exact ⟨joined.groupNum, joined.few⟩
  | leave groupAddr sourceAddr sent =>
    have left := counted.leave groupAddr sourceAddr
    simp only [mcastStep]
    split_ifs
    · exact ⟨left.groupNum, left.few⟩
    · exact counted
  | l2Join addr taken =>
    rw [mcastStep_l2Join]
    by_cases kernel : port.config.useKernelCtl = true
    · rw [if_pos kernel]
      exact ⟨counted.groupNum, counted.few⟩
    · rw [if_neg kernel]
      exact ⟨counted.groupNum, counted.few⟩
  | l2Leave addr taken =>
    rw [mcastStep_l2Leave]
    exact ⟨counted.groupNum, counted.few⟩

/-! ## When the report is right -/

theorem srcList_lt_of_room (room : reportLen groups ≤ reportRoom)
    (member : group ∈ groups) : group.srcList.length < 65536 := by
  have part : 8 + group.srcList.length * 4 ≤ (groups.map fun group => 8 + group.srcList.length * 4).sum :=
    List.single_le_sum (fun _ _ => Nat.zero_le _) _
      (List.mem_map.mpr ⟨group, member, rfl⟩)
  unfold reportLen reportRoom at room
  omega

theorem fillGroups_room_iff (groups : List MtMcastGroupEntry) :
    (fillGroups groups 8 (mbReportHdr 0 groups.length)).2.length ≤ reportRoom ↔ reportLen groups ≤ reportRoom := by
  by_cases few : ∀ group ∈ groups, group.srcList.length < 65536
  · have written := fillGroups_small groups (mbReportHdr 0 groups.length) few
    have length := reportBytes_length 0 groups
    unfold reportBytes at length
    rw [show (mbReportHdr 0 groups.length).length = 8 from rfl] at written
    rw [written, length]
  · push Not at few
    rcases few with ⟨group, member, many⟩
    have written := (fillGroups_length groups 8 (mbReportHdr 0 groups.length)).2 group member
    have large := mcastCreateGroupRecordOnQuery_large many
    constructor
    · intro room
      unfold reportRoom at room
      omega
    · intro room
      have impossible := srcList_lt_of_room room member
      omega

theorem mcastMembershipReportOnQuery_eq (counted : port.Counted)
    (some_ : port.groupList ≠ []) (room : reportLen port.groupList ≤ reportRoom) (tx : Bool) :
    mcastMembershipReportOnQuery port true tx =
      let checksum := mtRf1071CheckSum (reportBytes 0 port.groupList) true
      if checksum = 0 then .lost (reportBytes 0 port.groupList)
      else
        let report : McastReport :=
          ⟨reportBytes checksum port.groupList, reportLen port.groupList, 20 + reportLen port.groupList,
            34 + reportLen port.groupList⟩
        if tx then .sent report else .freed report := by
  have nonzero : port.groupNum ≠ 0 := by
    rw [counted.groupNum]
    exact fun empty => some_ (List.length_eq_zero_iff.mp empty)
  have written := fillGroups_small port.groupList (mbReportHdr 0 port.groupList.length)
    (fun _ member => srcList_lt_of_room room member)
  rw [show (mbReportHdr 0 port.groupList.length).length = 8 from rfl] at written
  have length := reportBytes_length 0 port.groupList
  have whole : (reportBytes 0 port.groupList).take (reportLen port.groupList) = reportBytes 0 port.groupList := by
    rw [<- length, List.take_length]
  have total : u16 (20 + reportLen port.groupList : Nat) = 20 + reportLen port.groupList := by
    unfold u16 word
    unfold reportRoom at room
    omega
  have data : u16 (34 + reportLen port.groupList : Nat) = 34 + reportLen port.groupList := by
    unfold u16 word
    unfold reportRoom at room
    omega
  unfold mcastMembershipReportOnQuery
  rw [if_neg nonzero, if_neg (by decide), counted.groupNum, written]
  rw [show mbReportHdr 0 port.groupList.length ++ port.groupList.flatMap MtMcastGroupEntry.recordBytes =
    reportBytes 0 port.groupList from rfl]
  simp only [length, whole, total, data, overlay_checksum]

theorem readReport_reportBytes (count : groups.length < 65536)
    (few : ∀ group ∈ groups, group.srcList.length < 65536) :
    readReport (reportBytes checksum groups) = some (groups.map MtMcastGroupEntry.record) := by
  have records := readRecords_append groups [] few
  rw [List.append_nil] at records
  have fields : reportBytes checksum groups =
      0x22 :: 0 :: BitVec.ofNat 8 (checksum / 256) :: BitVec.ofNat 8 checksum :: 0 :: 0 ::
        BitVec.ofNat 8 (groups.length / 256) :: BitVec.ofNat 8 groups.length ::
        groups.flatMap MtMcastGroupEntry.recordBytes := rfl
  rw [fields, readReport, if_neg (by decide), be16_read count, records]

/-- For every table that calls build, whether or not there is an mbuf and the queue takes it: the report that
is built has room, describes the table and is sent or freed exactly when it has room and its half words do
not add up to a multiple of 65535. -/
theorem membership_report_right_iff (config : McastConfig) (inputs : List McastInput) (alloc tx : Bool) :
    let port := run mcastStep (mcastInit config) inputs
    ReportRight port (mcastMembershipReportOnQuery port alloc tx) ↔ ReportSafe port alloc := by
  have counted := McastPort.counted config inputs
  generalize run mcastStep (mcastInit config) inputs = port at counted
  dsimp only
  have count : port.groupList.length < 65536 := by
    have few := counted.few
    omega
  unfold ReportSafe
  by_cases empty : port.groupList = []
  · have zero : port.groupNum = 0 := by
      rw [counted.groupNum, empty]
      rfl
    unfold mcastMembershipReportOnQuery
    rw [if_pos zero]
    exact ⟨fun _ => .inl empty, fun _ => trivial⟩
  · cases alloc with
    | false =>
      have nothing : mcastMembershipReportOnQuery port false tx = .none := by
        unfold mcastMembershipReportOnQuery
        simp
      rw [nothing]
      exact ⟨fun _ => .inr (.inl rfl), fun _ => trivial⟩
    | true =>
      rw [or_iff_right empty, or_iff_right (by decide)]
      by_cases room : reportLen port.groupList ≤ reportRoom
      · have few := fun group (member : group ∈ port.groupList) => srcList_lt_of_room room member
        rcases reportBytes_checksum count few room with ⟨zero, fits, received⟩
        rw [mcastMembershipReportOnQuery_eq counted empty room tx]
        dsimp only at zero fits received ⊢
        by_cases silent : mtRf1071CheckSum (reportBytes 0 port.groupList) true = 0
        · rw [if_pos silent]
          exact ⟨fun impossible => absurd impossible id, fun safe => absurd (zero.mp silent) safe.2⟩
        · rw [if_neg silent]
          have describes : McastReport.Describes
              ⟨reportBytes (mtRf1071CheckSum (reportBytes 0 port.groupList) true) port.groupList,
                reportLen port.groupList, 20 + reportLen port.groupList, 34 + reportLen port.groupList⟩ port :=
            { fits := by rw [reportBytes_length]; exact room
              whole := reportBytes_length _ _
              read := readReport_reportBytes _ count few
              checksum := received
              totalLength := rfl
              dataLen := rfl }
          refine ⟨fun _ => ⟨room, mt zero.mpr silent⟩, fun _ => ?_⟩
          cases tx with
          | false => exact describes
          | true => exact describes
      · refine ⟨fun right => ?_, fun safe => absurd safe.1 room⟩
        have overrun := mt (fillGroups_room_iff port.groupList).mp room
        exfalso
        unfold mcastMembershipReportOnQuery at right
        rw [counted.groupNum] at right
        rw [if_neg (fun zero => empty (List.length_eq_zero_iff.mp zero)), if_neg (by decide)] at right
        generalize fillGroups port.groupList 8 (mbReportHdr 0 port.groupList.length) = filled at overrun right
        dsimp only at right
        have longer := (overlay_length filled.2 2
          (be16 (mtRf1071CheckSum (filled.2.take filled.1) true))).1
        by_cases silent : mtRf1071CheckSum (filled.2.take filled.1) true = 0
        · rw [if_pos silent] at right
          exact right
        · rw [if_neg silent] at right
          cases tx with
          | false => exact overrun (longer.trans right.fits)
          | true => exact overrun (longer.trans right.fits)

def silentGroup : List McastInput := [.join 4243325423 0 true]

/-- Its report has the checksum zero, is not sent, and its mbuf is lost. -/
theorem silent_group_lost :
    ¬ ReportRight (run mcastStep (mcastInit ⟨false, false, false⟩) silentGroup)
      (mcastMembershipReportOnQuery (run mcastStep (mcastInit ⟨false, false, false⟩) silentGroup) true true) := by
  have lost : mcastMembershipReportOnQuery (run mcastStep (mcastInit ⟨false, false, false⟩) silentGroup) true
      true = .lost [0x22, 0, 0, 0, 0, 0, 0, 1, 2, 0, 0, 0, 239, 1, 236, 252] := by decide
  rw [lost]
  exact id

end MediaTransport.Net
