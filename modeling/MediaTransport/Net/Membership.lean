import MediaTransport.Net.Mcast

namespace MediaTransport.Net

open Library

/-!
# What keeps multicast membership right

Counting is right as long as no count wraps and no join fails after it has counted.
The addresses of the interface are right as long as who leaves last is the only one
that wanted the address.
-/

theorem u16_of_fits (value : Int) (low : 0 ≤ value) (high : value < 65536) : (u16 value : Int) = value := by
  unfold u16 word
  omega

theorem length_joinGroup (groupAddr sourceAddr : Nat) (groups : List MtMcastGroupEntry) :
    (joinGroup groupAddr sourceAddr groups).length =
      if groupAddr ∈ groups.map MtMcastGroupEntry.groupIp then groups.length else groups.length + 1 := by
  unfold joinGroup
  apply length_upsert
  · intro group
    rfl
  · rfl

theorem length_leaveGroup {groupAddr : Nat} (sourceAddr : Nat) {groups : List MtMcastGroupEntry}
    {group : MtMcastGroupEntry}
    (found : groups.find? (fun other => decide (other.groupIp = groupAddr)) = some group) :
    (leaveGroup groupAddr sourceAddr groups).length + 1 =
      groups.length + (if u16 ((group.groupRefCnt : Int) - 1) = 0 then 0 else 1) := by
  unfold leaveGroup
  rw [length_amend found]
  split_ifs <;> rfl

/-! ## Outstanding joins -/

theorem McastPort.joinsFrom_le (port : McastPort) (groupAddr sourceAddr : Nat) :
    port.joinsFrom groupAddr sourceAddr ≤ port.joins groupAddr := by
  unfold McastPort.joinsFrom McastPort.joins
  split_ifs
  · exact Nat.zero_le _
  · apply List.countP_mono_left
    intro pair _ same
    rw [beq_iff_eq] at same
    simp [same]

theorem McastPort.joins_pos {port : McastPort} {groupAddr : Nat} :
    0 < port.joins groupAddr ↔ exists pair, pair ∈ port.joined ∧ pair.1 = groupAddr := by
  unfold McastPort.joins
  rw [List.countP_pos_iff]
  simp

section Join

variable (port : McastPort) (groupAddr sourceAddr : Nat)

def McastPort.joinedOne : McastPort :=
  { port with joined := (groupAddr, sourceAddr) :: port.joined }

theorem McastPort.joinedOne_joins (other : Nat) :
    (port.joinedOne groupAddr sourceAddr).joins other =
      port.joins other + if groupAddr = other then 1 else 0 := by
  unfold McastPort.joins McastPort.joinedOne
  rw [List.countP_cons]
  simp

theorem McastPort.joinedOne_joinsFrom (other source : Nat) :
    (port.joinedOne groupAddr sourceAddr).joinsFrom other source =
      port.joinsFrom other source +
        if groupAddr = other ∧ sourceAddr = source ∧ source ≠ 0 then 1 else 0 := by
  unfold McastPort.joinsFrom McastPort.joinedOne
  by_cases zero : source = 0
  · simp [zero]
  · rw [if_neg zero, if_neg zero, List.count_cons]
    simp [zero]

def McastPort.joinedLess : McastPort :=
  { port with joined := port.joined.erase (groupAddr, sourceAddr) }

variable {port groupAddr sourceAddr}

theorem McastPort.joinedLess_joins (matched : (groupAddr, sourceAddr) ∈ port.joined) (other : Nat) :
    (port.joinedLess groupAddr sourceAddr).joins other + (if groupAddr = other then 1 else 0) =
      port.joins other := by
  unfold McastPort.joins McastPort.joinedLess
  have perm := (List.perm_cons_erase matched).countP_eq (fun pair => decide (pair.1 = other))
  rw [perm, List.countP_cons]
  simp

theorem McastPort.joinedLess_joinsFrom (matched : (groupAddr, sourceAddr) ∈ port.joined)
    (other source : Nat) :
    (port.joinedLess groupAddr sourceAddr).joinsFrom other source +
        (if groupAddr = other ∧ sourceAddr = source ∧ source ≠ 0 then 1 else 0) =
      port.joinsFrom other source := by
  unfold McastPort.joinsFrom McastPort.joinedLess
  by_cases zero : source = 0
  · simp [zero]
  · have perm := (List.perm_cons_erase matched).count_eq (other, source)
    rw [if_neg zero, if_neg zero, perm, List.count_cons]
    simp [zero]

end Join

/-! ## The invariant -/

/-- What is promised, with the counts as small as they have to be. -/
structure McastPort.Sound (port : McastPort) : Prop extends port.Right where
  few : port.groupList.length ≤ 60
  fits : forall groupAddr, port.joins groupAddr ≤ 65535

theorem McastPort.Right.group {port : McastPort} (right : port.Right) (groupAddr : Nat) :
    (port.group groupAddr = none ∧ port.joins groupAddr = 0) ∨
      exists group, port.group groupAddr = some group ∧ group ∈ port.groupList ∧
        group.groupIp = groupAddr ∧ group.groupRefCnt = port.joins groupAddr ∧ 0 < port.joins groupAddr := by
  by_cases positive : 0 < port.joins groupAddr
  · rcases right.groups.find positive with ⟨group, found, member, named, counted⟩
    exact .inr ⟨group, found, member, named, counted, positive⟩
  · left
    refine ⟨?_, by omega⟩
    apply List.find?_eq_none.mpr
    intro group member same
    have weighed := (right.groups.counted group member).2
    rw [of_decide_eq_true same] at weighed
    exact positive weighed

theorem McastPort.Sound.init (config : McastConfig) (managed : (mcastInit config).managed = true) :
    (mcastInit config).Sound := by
  simp only [McastPort.managed, mcastInit, Bool.and_eq_true, Bool.not_eq_true'] at managed
  constructor
  · constructor
    · exact Tallies.nil (fun _ => rfl)
    · intro group member
      cases member
    · rfl
    · intro direct
      have start : (mcastInit config).mcastMacLists = [mcastMacAll] := by
        simp [mcastInit, managed.1, managed.2, show config.useKernelCtl = false from direct, mcastInfAddMac]
      rw [start]
      refine ⟨List.nodup_singleton _, ?_⟩
      intro mac
      rw [List.mem_singleton]
      constructor
      · exact .inl
      · rintro (all | ⟨pair, member, -⟩ | member)
        · exact all
        · cases member
        · cases member
  · exact Nat.zero_le _
  · intro groupAddr
    exact Nat.zero_le _

/-! ## The interface's addresses -/

theorem mcastInfAddMac_spec {macs : List EtherAddr} (nodup : macs.Nodup) (mac : EtherAddr) (taken : Bool) :
    (mcastInfAddMac macs mac taken).1.Nodup ∧
      forall other, other ∈ (mcastInfAddMac macs mac taken).1 ↔ other ∈ macs ∨ other = mac := by
  unfold mcastInfAddMac
  by_cases known : mac ∈ macs
  · rw [if_pos known]
    refine ⟨nodup, ?_⟩
    intro other
    constructor
    · exact .inl
    · rintro (member | rfl)
      · exact member
      · exact known
  · rw [if_neg known]
    refine ⟨List.nodup_append.mpr ⟨nodup, List.nodup_singleton mac, ?_⟩, ?_⟩
    · intro old member other new
      rw [List.mem_singleton.mp new]
      rintro rfl
      exact known member
    · intro other
      rw [List.mem_append, List.mem_singleton]

theorem mcastInfRemoveMac_spec {macs : List EtherAddr} (nodup : macs.Nodup) (mac : EtherAddr) (taken : Bool) :
    (mcastInfRemoveMac macs mac taken).1.Nodup ∧
      forall other, other ∈ (mcastInfRemoveMac macs mac taken).1 ↔ other ≠ mac ∧ other ∈ macs := by
  unfold mcastInfRemoveMac
  by_cases known : mac ∈ macs
  · rw [if_pos known]
    exact ⟨nodup.erase mac, fun other => nodup.mem_erase_iff⟩
  · rw [if_neg known]
    refine ⟨nodup, ?_⟩
    intro other
    constructor
    · intro member
      refine ⟨?_, member⟩
      rintro rfl
      exact known member
    · exact And.right

/-! ## Joins -/

section

variable {port : McastPort}

theorem joinSource_tallies {groupAddr : Nat} (sourceAddr : Nat)
    {srcs : List MtMcastSrcEntry} (room : port.joins groupAddr < 65535)
    (tallies : Tallies MtMcastSrcEntry.srcIp MtMcastSrcEntry.srcRefCnt (port.joinsFrom groupAddr) srcs) :
    Tallies MtMcastSrcEntry.srcIp MtMcastSrcEntry.srcRefCnt
      ((port.joinedOne groupAddr sourceAddr).joinsFrom groupAddr) (joinSource sourceAddr srcs) := by
  unfold joinSource
  by_cases zero : sourceAddr = 0
  · rw [if_neg (by simpa using zero)]
    apply tallies.congr
    intro source
    rw [McastPort.joinedOne_joinsFrom, if_neg, Nat.add_zero]
    rintro ⟨-, same, nonzero⟩
    exact nonzero (same.symm.trans zero)
  · rw [if_pos zero]
    refine tallies.upsert ?_ ?_ ?_ ?_ ?_ ?_
    · intro src
      rfl
    · rfl
    · rfl
    · intro src member named
      have counted := (tallies.counted src member).1
      have bound := port.joinsFrom_le groupAddr src.srcIp
      have fits := u16_of_fits ((src.srcRefCnt : Int) + 1) (by omega) (by omega)
      show u16 (src.srcRefCnt + 1) = src.srcRefCnt + 1
      omega
    · rw [McastPort.joinedOne_joinsFrom, if_pos ⟨rfl, rfl, zero⟩]
    · intro source apart
      rw [McastPort.joinedOne_joinsFrom, if_neg, Nat.add_zero]
      rintro ⟨-, same, -⟩
      exact apart same.symm

theorem McastPort.Sound.counted (sound : port.Sound) (groupAddr sourceAddr : Nat)
    (room : port.joins groupAddr < 65535) :
    Tallies MtMcastGroupEntry.groupIp MtMcastGroupEntry.groupRefCnt
        (port.joinedOne groupAddr sourceAddr).joins (joinGroup groupAddr sourceAddr port.groupList) ∧
      ∀ group ∈ joinGroup groupAddr sourceAddr port.groupList,
        Tallies MtMcastSrcEntry.srcIp MtMcastSrcEntry.srcRefCnt
          ((port.joinedOne groupAddr sourceAddr).joinsFrom group.groupIp) group.srcList := by
  constructor
  · refine sound.groups.upsert ?_ ?_ ?_ ?_ ?_ ?_
    · intro group
      rfl
    · rfl
    · rfl
    · intro group member named
      have counted := (sound.groups.counted group member).1
      rw [named] at counted
      have fits := u16_of_fits ((group.groupRefCnt : Int) + 1) (by omega) (by omega)
      show u16 (group.groupRefCnt + 1) = group.groupRefCnt + 1
      omega
    · rw [McastPort.joinedOne_joins, if_pos rfl]
    · intro other apart
      rw [McastPort.joinedOne_joins, if_neg (Ne.symm apart), Nat.add_zero]
  · intro group member
    rcases (mem_upsert sound.groups.nodup group).mp member with
      ⟨old, apart⟩ | ⟨old, present, named, rfl⟩ | ⟨none, rfl⟩
    · apply (sound.sources group old).congr
      intro source
      rw [McastPort.joinedOne_joinsFrom, if_neg, Nat.add_zero]
      rintro ⟨same, -⟩
      exact apart same.symm
    · have before := sound.sources old present
      rw [named] at before
      show Tallies _ _ ((port.joinedOne groupAddr sourceAddr).joinsFrom old.groupIp) _
      rw [named]
      exact joinSource_tallies sourceAddr room before
    · apply joinSource_tallies sourceAddr room
      apply Tallies.nil
      intro source
      have bound := port.joinsFrom_le groupAddr source
      have nobody : ¬ 0 < port.joins groupAddr := by
        intro positive
        rcases sound.groups.listed groupAddr positive with ⟨old, present, named⟩
        exact none old present named
      omega

theorem McastPort.Sound.join (sound : port.Sound) (managed : port.managed = true)
    {groupAddr sourceAddr : Nat} {sent : Bool} (safe : McastSafe port (.join groupAddr sourceAddr sent)) :
    (mcastStep port (.join groupAddr sourceAddr sent)).Sound := by
  simp only [McastPort.managed, Bool.and_eq_true, Bool.not_eq_true'] at managed
  simp only [mcastStep, mtMcastJoin, managed.1, managed.2, Bool.false_eq_true, if_false]
  by_cases full : 60 ≤ port.groupNum
  · simp only [if_pos full]
    exact sound
  · rcases safe (by omega) with ⟨room, reported⟩
    simp only [if_neg full, reported, if_true]
    rcases sound.counted groupAddr sourceAddr room with ⟨groups, sources⟩
    have number := sound.groupNum
    have length := length_joinGroup groupAddr sourceAddr port.groupList
    have listed := sound.groups.mem_keys groupAddr
    have wanted : forall mac, (port.joinedOne groupAddr sourceAddr).Wanted mac ↔
        port.Wanted mac ∨ mac = mtMcastIpToMac groupAddr := by
      intro mac
      constructor
      · rintro (all | ⟨pair, member, same⟩ | l2)
        · exact .inl (.inl all)
        · rcases List.mem_cons.mp member with rfl | old
          · exact .inr same.symm
          · exact .inl (.inr (.inl ⟨pair, old, same⟩))
        · exact .inl (.inr (.inr l2))
      · rintro ((all | ⟨pair, member, same⟩ | l2) | rfl)
        · exact .inl all
        · exact .inr (.inl ⟨pair, List.mem_cons_of_mem _ member, same⟩)
        · exact .inr (.inr l2)
        · exact .inr (.inl ⟨(groupAddr, sourceAddr), List.mem_cons_self, rfl⟩)
    have fits : forall other, (port.joinedOne groupAddr sourceAddr).joins other ≤ 65535 := by
      intro other
      have before := sound.fits other
      rw [McastPort.joinedOne_joins]
      split_ifs with same
      · rw [← same]
        omega
      · omega
    rcases sound.toRight.group groupAddr with ⟨unknown, nobody⟩ | ⟨group, known, member, named, counted, positive⟩
    · have fresh : groupAddr ∉ port.groupList.map MtMcastGroupEntry.groupIp := by
        rw [listed]
        omega
      rw [if_neg fresh] at length
      simp only [unknown, Option.isSome_none, Bool.false_eq_true, if_false, Bool.false_or]
      have numbered := u16_of_fits ((port.groupNum : Int) + 1) (by omega) (by omega)
      refine ⟨⟨groups, sources, ?_, ?_⟩, ?_, fits⟩
      · show u16 (port.groupNum + 1) = (joinGroup groupAddr sourceAddr port.groupList).length
        omega
      · intro direct
        rcases sound.macs direct with ⟨nodup, exact⟩
        rcases mcastInfAddMac_spec nodup (mtMcastIpToMac groupAddr) true with ⟨nodupAfter, members⟩
        rw [if_neg (by simpa using direct)]
        refine ⟨nodupAfter, ?_⟩
        intro mac
        rw [members mac, exact mac]
        exact (wanted mac).symm
      · show (joinGroup groupAddr sourceAddr port.groupList).length ≤ 60
        omega
    · have known_ : groupAddr ∈ port.groupList.map MtMcastGroupEntry.groupIp := by
        rw [listed]
        exact positive
      rw [if_pos known_] at length
      simp only [known, Option.isSome_some, Bool.true_or, if_true]
      refine ⟨⟨groups, sources, ?_, ?_⟩, ?_, fits⟩
      · show port.groupNum = (joinGroup groupAddr sourceAddr port.groupList).length
        omega
      · intro direct
        rcases sound.macs direct with ⟨nodup, exact⟩
        refine ⟨nodup, ?_⟩
        intro mac
        refine Iff.trans ?_ (wanted mac).symm
        rw [exact mac]
        constructor
        · exact .inl
        · rintro (before | rfl)
          · exact before
          · rcases McastPort.joins_pos.mp positive with ⟨pair, present, same⟩
            exact .inr (.inl ⟨pair, present, by rw [same]⟩)
      · show (joinGroup groupAddr sourceAddr port.groupList).length ≤ 60
        omega

/-! ## Leaves -/

theorem leaveSource_tallies {groupAddr sourceAddr : Nat}
    (matched : (groupAddr, sourceAddr) ∈ port.joined) {srcs : List MtMcastSrcEntry}
    (fits : port.joins groupAddr ≤ 65535)
    (tallies : Tallies MtMcastSrcEntry.srcIp MtMcastSrcEntry.srcRefCnt (port.joinsFrom groupAddr) srcs) :
    Tallies MtMcastSrcEntry.srcIp MtMcastSrcEntry.srcRefCnt
      ((port.joinedLess groupAddr sourceAddr).joinsFrom groupAddr) (leaveSource sourceAddr srcs) := by
  have moved := McastPort.joinedLess_joinsFrom matched groupAddr
  unfold leaveSource
  by_cases zero : sourceAddr = 0
  · rw [if_neg (by simpa using zero)]
    apply tallies.congr
    intro source
    have own := moved source
    rw [if_neg, Nat.add_zero] at own
    · exact own
    · rintro ⟨-, same, nonzero⟩
      exact nonzero (same.symm.trans zero)
  · rw [if_pos zero]
    refine tallies.amend ?_ ?_ ?_ ?_
    · intro src left same
      split_ifs at same
      obtain rfl := Option.some.inj same
      rfl
    · intro src member named
      have counted := tallies.counted src member
      have bound := port.joinsFrom_le groupAddr src.srcIp
      have less := u16_of_fits ((src.srcRefCnt : Int) - 1) (by omega) (by omega)
      by_cases one : src.srcRefCnt = 1
      · exact .inl ⟨if_pos (by omega), one⟩
      · refine .inr ⟨_, if_neg (by omega), ?_, ?_⟩
        · show u16 ((src.srcRefCnt : Int) - 1) + 1 = src.srcRefCnt
          omega
        · show 0 < u16 ((src.srcRefCnt : Int) - 1)
          omega
    · have own := moved sourceAddr
      rw [if_pos ⟨rfl, rfl, zero⟩] at own
      exact own
    · intro source apart
      have own := moved source
      rw [if_neg, Nat.add_zero] at own
      · exact own
      · rintro ⟨-, same, -⟩
        exact apart same.symm

theorem McastPort.Sound.left (sound : port.Sound) {groupAddr sourceAddr : Nat}
    (matched : (groupAddr, sourceAddr) ∈ port.joined) :
    Tallies MtMcastGroupEntry.groupIp MtMcastGroupEntry.groupRefCnt
        (port.joinedLess groupAddr sourceAddr).joins (leaveGroup groupAddr sourceAddr port.groupList) ∧
      ∀ group ∈ leaveGroup groupAddr sourceAddr port.groupList,
        Tallies MtMcastSrcEntry.srcIp MtMcastSrcEntry.srcRefCnt
          ((port.joinedLess groupAddr sourceAddr).joinsFrom group.groupIp) group.srcList := by
  have fits := sound.fits groupAddr
  have moved := McastPort.joinedLess_joins matched
  constructor
  · refine sound.groups.amend ?_ ?_ ?_ ?_
    · intro group left same
      split_ifs at same
      obtain rfl := Option.some.inj same
      rfl
    · intro group member named
      have counted := sound.groups.counted group member
      rw [named] at counted
      have less := u16_of_fits ((group.groupRefCnt : Int) - 1) (by omega) (by omega)
      by_cases one : group.groupRefCnt = 1
      · exact .inl ⟨if_pos (by omega), one⟩
      · refine .inr ⟨_, if_neg (by omega), ?_, ?_⟩
        · show u16 ((group.groupRefCnt : Int) - 1) + 1 = group.groupRefCnt
          omega
        · show 0 < u16 ((group.groupRefCnt : Int) - 1)
          omega
    · have own := moved groupAddr
      rw [if_pos rfl] at own
      exact own
    · intro other apart
      have own := moved other
      rw [if_neg (Ne.symm apart), Nat.add_zero] at own
      exact own
  · intro group member
    rcases (mem_amend sound.groups.nodup group).mp member with ⟨old, apart⟩ | ⟨old, present, named, same⟩
    · apply (sound.sources group old).congr
      intro source
      have own := McastPort.joinedLess_joinsFrom matched group.groupIp source
      rw [if_neg, Nat.add_zero] at own
      · exact own
      · rintro ⟨clash, -⟩
        exact apart clash.symm
    · split_ifs at same
      obtain rfl := Option.some.inj same
      have before := sound.sources old present
      rw [named] at before
      show Tallies _ _ ((port.joinedLess groupAddr sourceAddr).joinsFrom old.groupIp) _
      rw [named]
      exact leaveSource_tallies matched fits before

theorem McastPort.wanted_less {groupAddr sourceAddr : Nat}
    (matched : (groupAddr, sourceAddr) ∈ port.joined) (mac : EtherAddr) :
    port.Wanted mac ↔
      (port.joinedLess groupAddr sourceAddr).Wanted mac ∨ mac = mtMcastIpToMac groupAddr := by
  constructor
  · rintro (all | ⟨pair, member, same⟩ | l2)
    · exact .inl (.inl all)
    · rcases List.mem_cons.mp ((List.perm_cons_erase matched).mem_iff.mp member) with rfl | rest
      · exact .inr same.symm
      · exact .inl (.inr (.inl ⟨pair, rest, same⟩))
    · exact .inl (.inr (.inr l2))
  · rintro ((all | ⟨pair, member, same⟩ | l2) | rfl)
    · exact .inl all
    · exact .inr (.inl ⟨pair, List.mem_of_mem_erase member, same⟩)
    · exact .inr (.inr l2)
    · exact .inr (.inl ⟨(groupAddr, sourceAddr), matched, rfl⟩)

theorem McastPort.OwnMac.unwanted {groupAddr sourceAddr : Nat} (own : port.OwnMac groupAddr)
    (matched : (groupAddr, sourceAddr) ∈ port.joined) (last : port.joins groupAddr = 1) :
    ¬ (port.joinedLess groupAddr sourceAddr).Wanted (mtMcastIpToMac groupAddr) := by
  have moved := McastPort.joinedLess_joins matched groupAddr
  rw [if_pos rfl, last] at moved
  rintro (all | ⟨pair, member, same⟩ | l2)
  · exact own.1 all
  · have apart : pair.1 ≠ groupAddr := by
      intro clash
      have positive := McastPort.joins_pos.mpr ⟨pair, member, clash⟩
      omega
    exact own.2.2 pair (List.mem_of_mem_erase member) apart same
  · exact own.2.1 l2

theorem McastPort.Sound.leave_eq (sound : port.Sound) (managed : port.managed = true)
    {groupAddr sourceAddr : Nat} (matched : (groupAddr, sourceAddr) ∈ port.joined) (sent : Bool) :
    mcastStep port (.leave groupAddr sourceAddr sent) = { port with
      mcastMacLists :=
        if port.joins groupAddr = 1 ∧ port.config.useKernelCtl = false then
          (mcastInfRemoveMac port.mcastMacLists (mtMcastIpToMac groupAddr) true).1
        else port.mcastMacLists
      groupList := leaveGroup groupAddr sourceAddr port.groupList
      groupNum := if port.joins groupAddr = 1 then port.groupNum - 1 else port.groupNum
      joined := port.joined.erase (groupAddr, sourceAddr) } ∧
    (leaveGroup groupAddr sourceAddr port.groupList).length + (if port.joins groupAddr = 1 then 1 else 0) =
      port.groupList.length := by
  simp only [McastPort.managed, Bool.and_eq_true, Bool.not_eq_true'] at managed
  have positive : 0 < port.joins groupAddr :=
    McastPort.joins_pos.mpr ⟨(groupAddr, sourceAddr), matched, rfl⟩
  have fits := sound.fits groupAddr
  have number := sound.groupNum
  have few := sound.few
  rcases sound.groups.find positive with ⟨group, found, member, named, counted⟩
  have some_ := List.length_pos_of_mem member
  have less := u16_of_fits ((group.groupRefCnt : Int) - 1) (by omega) (by omega)
  have fewer := u16_of_fits ((port.groupNum : Int) - 1) (by omega) (by omega)
  have length := length_leaveGroup sourceAddr found
  have known : port.group groupAddr = some group := found
  have nonzero : ¬ port.groupNum = 0 := by omega
  by_cases last : port.joins groupAddr = 1
  · have zero : u16 ((group.groupRefCnt : Int) - 1) = 0 := by omega
    rw [if_pos zero] at length
    have num : u16 ((port.groupNum : Int) - 1) = port.groupNum - 1 := by omega
    constructor
    · simp only [mcastStep, if_pos matched, mtMcastLeave, managed.1, managed.2, Bool.or_false,
        Bool.false_eq_true, if_false, if_neg nonzero, known, zero, decide_true, Bool.true_and, last, true_and,
        if_true, num, Bool.not_eq_true']
    · rw [if_pos last]
      exact length
  · have positiveLess : u16 ((group.groupRefCnt : Int) - 1) ≠ 0 := by omega
    rw [if_neg positiveLess] at length
    constructor
    · simp only [mcastStep, if_pos matched, mtMcastLeave, managed.1, managed.2, Bool.or_false,
        Bool.false_eq_true, if_false, if_neg nonzero, known, positiveLess, decide_false, Bool.false_and, last,
        false_and]
    · rw [if_neg last]
      omega

theorem McastPort.Sound.leave (sound : port.Sound) (managed : port.managed = true)
    {groupAddr sourceAddr : Nat} {sent : Bool} (safe : McastSafe port (.leave groupAddr sourceAddr sent)) :
    (mcastStep port (.leave groupAddr sourceAddr sent)).Sound := by
  by_cases matched : (groupAddr, sourceAddr) ∈ port.joined
  · rcases sound.leave_eq managed matched sent with ⟨step, length⟩
    rcases sound.left matched with ⟨groups, sources⟩
    have wanted := McastPort.wanted_less matched
    have moved := McastPort.joinedLess_joins matched
    have few := sound.few
    have number := sound.groupNum
    rw [step]
    refine ⟨⟨groups, sources, ?_, ?_⟩, ?_, ?_⟩
    · show (if port.joins groupAddr = 1 then port.groupNum - 1 else port.groupNum) =
        (leaveGroup groupAddr sourceAddr port.groupList).length
      split_ifs at length ⊢ <;> omega
    · intro direct
      rcases sound.macs direct with ⟨nodup, exact⟩
      have kernel : port.config.useKernelCtl = false := direct
      by_cases last : port.joins groupAddr = 1
      · have unwanted := (safe kernel matched last).unwanted matched last
        rcases mcastInfRemoveMac_spec nodup (mtMcastIpToMac groupAddr) true with ⟨nodupAfter, members⟩
        rw [if_pos ⟨last, kernel⟩]
        refine ⟨nodupAfter, ?_⟩
        intro mac
        rw [members mac, exact mac, wanted mac]
        constructor
        · rintro ⟨apart, still | same⟩
          · exact still
          · exact absurd same apart
        · intro still
          refine ⟨?_, .inl still⟩
          rintro rfl
          exact unwanted still
      · rw [if_neg (fun both => last both.1)]
        refine ⟨nodup, ?_⟩
        intro mac
        rw [exact mac, wanted mac]
        constructor
        · rintro (still | rfl)
          · exact still
          · have own := moved groupAddr
            rw [if_pos rfl] at own
            rcases McastPort.joins_pos.mp (show 0 < (port.joinedLess groupAddr sourceAddr).joins groupAddr
              by omega) with ⟨pair, present, same⟩
            exact .inr (.inl ⟨pair, present, by rw [same]⟩)
        · exact .inl
    · show (leaveGroup groupAddr sourceAddr port.groupList).length ≤ 60
      omega
    · intro other
      have own := moved other
      have fits := sound.fits other
      show (port.joinedLess groupAddr sourceAddr).joins other ≤ 65535
      omega
  · have same : mcastStep port (.leave groupAddr sourceAddr sent) = port := if_neg matched
    rw [same]
    exact sound

/-! ## Layer-2 addresses -/

theorem McastPort.Sound.withMacs (sound : port.Sound) (macs l2Joined : List EtherAddr)
    (exact : port.config.useKernelCtl = false -> macs.Nodup ∧ forall mac, mac ∈ macs ↔
      McastPort.Wanted { port with mcastMacLists := macs, l2Joined := l2Joined } mac) :
    McastPort.Sound { port with mcastMacLists := macs, l2Joined := l2Joined } :=
  ⟨⟨sound.groups, sound.sources, sound.groupNum, exact⟩, sound.few, sound.fits⟩

end

theorem mcastStep_l2Join (port : McastPort) (addr : EtherAddr) (taken : Bool) :
    mcastStep port (.l2Join addr taken) =
      if port.config.useKernelCtl then { port with l2Joined := addr :: port.l2Joined }
      else { port with
        mcastMacLists := (mcastInfAddMac port.mcastMacLists addr taken).1
        l2Joined := if addr ∈ port.mcastMacLists ∨ taken = true then addr :: port.l2Joined
          else port.l2Joined } := by
  by_cases kernel : port.config.useKernelCtl = true
  · simp [mcastStep, mtMcastL2Join, kernel]
  · by_cases known : addr ∈ port.mcastMacLists
    · simp [mcastStep, mtMcastL2Join, kernel, mcastInfAddMac, known]
    · cases taken with
      | false => simp [mcastStep, mtMcastL2Join, kernel, mcastInfAddMac, known]
      | true => simp [mcastStep, mtMcastL2Join, kernel, mcastInfAddMac, known]

theorem McastPort.Sound.l2Join {port : McastPort} (sound : port.Sound) {addr : EtherAddr} {taken : Bool}
    (safe : McastSafe port (.l2Join addr taken)) : (mcastStep port (.l2Join addr taken)).Sound := by
  rw [mcastStep_l2Join]
  by_cases kernel : port.config.useKernelCtl = true
  · rw [if_pos kernel]
    apply sound.withMacs port.mcastMacLists
    intro direct
    rw [kernel] at direct
    cases direct
  · rw [if_neg kernel]
    rw [Bool.not_eq_true] at kernel
    rw [if_pos (safe kernel)]
    apply sound.withMacs
    intro direct
    rcases sound.macs direct with ⟨nodup, exact⟩
    rcases mcastInfAddMac_spec nodup addr taken with ⟨nodupAfter, members⟩
    refine ⟨nodupAfter, ?_⟩
    intro mac
    rw [members mac, exact mac]
    constructor
    · rintro ((all | group | l2) | rfl)
      · exact .inl all
      · exact .inr (.inl group)
      · exact .inr (.inr (List.mem_cons_of_mem _ l2))
      · exact .inr (.inr List.mem_cons_self)
    · rintro (all | group | l2)
      · exact .inl (.inl all)
      · exact .inl (.inr (.inl group))
      · rcases List.mem_cons.mp l2 with rfl | old
        · exact .inr rfl
        · exact .inl (.inr (.inr old))

theorem mcastStep_l2Leave (port : McastPort) (addr : EtherAddr) (taken : Bool) :
    mcastStep port (.l2Leave addr taken) = { port with
      mcastMacLists :=
        if port.config.useKernelCtl then port.mcastMacLists
        else (mcastInfRemoveMac port.mcastMacLists addr taken).1
      l2Joined := port.l2Joined.erase addr } := by
  by_cases kernel : port.config.useKernelCtl = true
  · simp [mcastStep, mtMcastL2Leave, kernel]
  · simp [mcastStep, mtMcastL2Leave, kernel]

theorem McastPort.Sound.l2Leave {port : McastPort} (sound : port.Sound) {addr : EtherAddr} {taken : Bool}
    (safe : McastSafe port (.l2Leave addr taken)) : (mcastStep port (.l2Leave addr taken)).Sound := by
  rw [mcastStep_l2Leave]
  apply sound.withMacs
  intro direct
  rcases sound.macs direct with ⟨nodup, exact⟩
  rcases safe direct with ⟨notAll, noGroup, once⟩
  rcases mcastInfRemoveMac_spec nodup addr taken with ⟨nodupAfter, members⟩
  rw [if_neg (by simp [direct])]
  refine ⟨nodupAfter, ?_⟩
  intro mac
  rw [members mac, exact mac]
  constructor
  · rintro ⟨apart, all | group | l2⟩
    · exact .inl all
    · exact .inr (.inl group)
    · exact .inr (.inr ((List.mem_erase_of_ne apart).mpr l2))
  · rintro (all | ⟨pair, member, same⟩ | l2)
    · exact ⟨all ▸ Ne.symm notAll, .inl all⟩
    · exact ⟨same ▸ noGroup pair member, .inr (.inl ⟨pair, member, same⟩)⟩
    · refine ⟨?_, .inr (.inr (List.mem_of_mem_erase l2))⟩
      rintro rfl
      have remaining := List.count_pos_iff.mpr l2
      rw [List.count_erase_self] at remaining
      omega

/-! ## Steps that break the promise -/

theorem McastPort.Sound.entry {port : McastPort} (sound : port.Sound) (groupAddr sourceAddr : Nat) :
    exists group, group ∈ joinGroup groupAddr sourceAddr port.groupList ∧ group.groupIp = groupAddr ∧
      group.groupRefCnt = u16 (port.joins groupAddr + 1) := by
  rcases sound.toRight.group groupAddr with ⟨unknown, nobody⟩ | ⟨group, known, member, named, counted, positive⟩
  · refine ⟨⟨groupAddr, 1, joinSource sourceAddr []⟩, ?_, rfl, ?_⟩
    · apply (mem_upsert sound.groups.nodup _).mpr
      refine .inr (.inr ⟨?_, rfl⟩)
      intro old present same
      have none := List.find?_eq_none.mp unknown old present
      exact none (decide_eq_true same)
    · rw [nobody]
      rfl
  · refine ⟨_, (mem_upsert sound.groups.nodup _).mpr (.inr (.inl ⟨group, member, named, rfl⟩)), named, ?_⟩
    show u16 (group.groupRefCnt + 1) = u16 (port.joins groupAddr + 1)
    rw [counted]

/-- A step after which the promise holds was safe. -/
theorem McastPort.Sound.safe {port : McastPort} (sound : port.Sound) (managed : port.managed = true)
    {input : McastInput} (right : (mcastStep port input).Right) : McastSafe port input := by
  cases input with
  | join groupAddr sourceAddr sent =>
    intro free
    rcases sound.entry groupAddr sourceAddr with ⟨group, member, named, counted⟩
    have bit := u16_eq ((port.joins groupAddr : Int) + 1)
    simp only [McastPort.managed, Bool.and_eq_true, Bool.not_eq_true'] at managed
    have full : ¬ 60 ≤ port.groupNum := by omega
    simp only [mcastStep, mtMcastJoin, managed.1, managed.2, Bool.false_eq_true, if_false,
      if_neg full] at right
    by_cases reported : (port.found groupAddr sourceAddr || sent) = true
    · simp only [reported, if_true] at right
      have weighed := (right.groups.counted group member).1
      have one := port.joinedOne_joins groupAddr sourceAddr groupAddr
      rw [if_pos rfl] at one
      have total : group.groupRefCnt = (port.joinedOne groupAddr sourceAddr).joins group.groupIp := weighed
      rw [named, one] at total
      exact ⟨by omega, reported⟩
    · -- the group counts a join that failed
      rw [Bool.not_eq_true] at reported
      simp only [reported, Bool.false_eq_true, if_false] at right
      have weighed := (right.groups.counted group member).1
      have total : group.groupRefCnt = port.joins group.groupIp := weighed
      rw [named] at total
      omega
  | leave groupAddr sourceAddr sent =>
    intro direct matched last
    rcases sound.leave_eq managed matched sent with ⟨step, -⟩
    rw [step] at right
    have exact := (right.macs direct).2 (mtMcastIpToMac groupAddr)
    have removed := (mcastInfRemoveMac_spec (sound.macs direct).1 (mtMcastIpToMac groupAddr) true).2
      (mtMcastIpToMac groupAddr)
    have unwanted : ¬ (port.joinedLess groupAddr sourceAddr).Wanted (mtMcastIpToMac groupAddr) := by
      intro wanted
      have still := exact.mpr wanted
      rw [if_pos ⟨last, direct⟩] at still
      exact (removed.mp still).1 rfl
    refine ⟨fun all => unwanted (.inl all), fun l2 => unwanted (.inr (.inr l2)), ?_⟩
    intro pair member apart same
    apply unwanted
    refine .inr (.inl ⟨pair, ?_, same⟩)
    apply (List.mem_erase_of_ne ?_).mpr member
    rintro rfl
    exact apart rfl
  | l2Join addr taken =>
    intro direct
    by_contra unsaid
    rw [mcastStep_l2Join, if_neg (by simp [direct]), if_neg unsaid] at right
    have listed := ((mcastInfAddMac_spec (sound.macs direct).1 addr taken).2 addr).mpr (.inr rfl)
    have wanted : port.Wanted addr := ((right.macs direct).2 addr).mp listed
    exact unsaid (.inl (((sound.macs direct).2 addr).mpr wanted))
  | l2Leave addr taken =>
    intro direct
    rw [mcastStep_l2Leave, if_neg (by simp [direct])] at right
    have exact := (right.macs direct).2 addr
    have removed := (mcastInfRemoveMac_spec (sound.macs direct).1 addr taken).2 addr
    have unwanted : ¬ McastPort.Wanted { port with
        mcastMacLists := (mcastInfRemoveMac port.mcastMacLists addr taken).1
        l2Joined := port.l2Joined.erase addr } addr := by
      intro wanted
      exact (removed.mp (exact.mpr wanted)).1 rfl
    refine ⟨fun all => unwanted (.inl all), fun pair member same => unwanted (.inr (.inl ⟨pair, member, same⟩)), ?_⟩
    by_contra often
    apply unwanted
    refine .inr (.inr ?_)
    apply List.count_pos_iff.mp
    rw [List.count_erase_self]
    omega

/-! ## Runs -/

theorem mcastStep_config (port : McastPort) (input : McastInput) :
    (mcastStep port input).config = port.config := by
  cases input with
  | join groupAddr sourceAddr sent =>
    simp only [mcastStep, mtMcastJoin]
    split_ifs <;> rfl
  | leave groupAddr sourceAddr sent =>
    simp only [mcastStep, mtMcastLeave]
    split_ifs
    · rfl
    · rfl
    · cases port.group groupAddr <;> rfl
    · rfl
  | l2Join addr taken =>
    rw [mcastStep_l2Join]
    split_ifs <;> rfl
  | l2Leave addr taken => rw [mcastStep_l2Leave]

theorem mcastStep_managed (port : McastPort) (input : McastInput) :
    (mcastStep port input).managed = port.managed := by
  unfold McastPort.managed
  rw [mcastStep_config]

theorem McastPort.Sound.step {port : McastPort} (sound : port.Sound) (managed : port.managed = true)
    {input : McastInput} (safe : McastSafe port input) : (mcastStep port input).Sound := by
  cases input with
  | join groupAddr sourceAddr sent => exact sound.join managed safe
  | leave groupAddr sourceAddr sent => exact sound.leave managed safe
  | l2Join addr taken => exact sound.l2Join safe
  | l2Leave addr taken => exact sound.l2Leave safe

/-- In every run on a port whose multicast the library manages, what is promised holds after each step
exactly if no join wraps a count or fails to report, the driver takes the layer-2 addresses, and who leaves
an address last is the only one that wanted it. -/
theorem mcast_right_iff (config : McastConfig) (inputs : List McastInput) :
    Admitted mcastStep (fun port input => port.managed = true -> (mcastStep port input).Right)
        (mcastInit config) inputs ↔
      Admitted mcastStep (fun port input => port.managed = true -> McastSafe port input)
        (mcastInit config) inputs := by
  have initially : (mcastInit config).managed = true -> (mcastInit config).Sound :=
    McastPort.Sound.init config
  have preserved : forall port input, (port.managed = true -> port.Sound) ->
      (port.managed = true -> McastSafe port input) ->
      (mcastStep port input).managed = true -> (mcastStep port input).Sound := by
    intro port input sound safe managed
    rw [mcastStep_managed] at managed
    exact (sound managed).step managed (safe managed)
  constructor
  · intro right
    apply admitted_of_invariant mcastStep _ (fun port => port.managed = true -> port.Sound) ?_ ?_ initially right
    · intro port input sound rightAfter
      apply preserved port input sound
      intro managed
      exact (sound managed).safe managed (rightAfter managed)
    · intro port input sound rightAfter managed
      exact (sound managed).safe managed (rightAfter managed)
  · intro safe
    apply admitted_of_invariant mcastStep _ (fun port => port.managed = true -> port.Sound) preserved ?_
      initially safe
    intro port input sound safeStep managed
    exact ((sound managed).step managed (safeStep managed)).toRight

/-- Groups 239.1.1.1 and 224.129.1.1, which share an address, are joined, and one is left. -/
def sharedMac : List McastInput :=
  [.join 16843247 0 true, .join 16876000 0 true, .leave 16843247 0 true]

/-- The interface does not listen to the group that is still joined. -/
theorem shared_mac_removed :
    (run mcastStep (mcastInit ⟨false, false, false⟩) sharedMac).joined = [(16876000, 0)] ∧
      mtMcastIpToMac 16876000 ∉ (run mcastStep (mcastInit ⟨false, false, false⟩) sharedMac).mcastMacLists ∧
      ¬ (run mcastStep (mcastInit ⟨false, false, false⟩) sharedMac).Right := by
  have joined : (run mcastStep (mcastInit ⟨false, false, false⟩) sharedMac).joined = [(16876000, 0)] := by
    decide
  have deaf : mtMcastIpToMac 16876000 ∉
      (run mcastStep (mcastInit ⟨false, false, false⟩) sharedMac).mcastMacLists := by
    decide
  refine ⟨joined, deaf, ?_⟩
  intro right
  apply deaf
  apply ((right.macs (by decide)).2 _).mpr
  exact .inr (.inl ⟨(16876000, 0), by rw [joined]; exact List.mem_singleton.mpr rfl, rfl⟩)

end MediaTransport.Net
