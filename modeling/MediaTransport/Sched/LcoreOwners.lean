import MediaTransport.Sched.Lcores

namespace MediaTransport.Sched

open Library

/-!
# Who owns the lcores

While no entry changes hands behind the back of `used`, every active entry is of
the process that wrote it, and the lcores of a live process are active under its
name.  A step that breaks this breaks what is promised at once.
-/

variable {s : LcoreState}

/-- What the entries and the processes say of each other. -/
structure LcoreState.Sound (s : LcoreState) : Prop where
  owned : forall (lcore : Nat) (entry : LcoreShmEntry), s.shm.lcoresInfo[lcore]? = some entry ->
    entry.active = true ->
    exists owner : LcoreProcess, s.processes[entry.owner]? = some owner ∧ owner.info = entry.uInfo
  holds : forall (idx : Nat) (process : LcoreProcess) (lcore : Nat),
    s.processes[idx]? = some process -> process.alive = true -> lcore ∈ process.localLcoresActive ->
    process.attached = true ∧ exists entry, s.shm.lcoresInfo[lcore]? = some entry ∧
      entry.active = true ∧ entry.owner = idx
  unique : forall (first second : Nat) (one other : LcoreProcess), s.processes[first]? = some one ->
    s.processes[second]? = some other -> one.alive = true -> other.alive = true ->
    one.info.pid = other.info.pid -> first = second
  gone : forall (lcore : Nat) (entry : LcoreShmEntry) (owner : LcoreProcess),
    s.shm.lcoresInfo[lcore]? = some entry -> entry.active = true ->
    s.processes[entry.owner]? = some owner -> owner.alive = false ->
    s.kill entry.uInfo.user entry.uInfo.pid = false
  counted : s.shm.used = s.shm.lcoresInfo.countP LcoreShmEntry.active

theorem LcoreState.Sound.init (maxLcore : Nat) : (lcoreInit maxLcore).Sound where
  owned lcore entry found active := by
    have blank := List.eq_of_mem_replicate (List.mem_of_getElem? found)
    simp [blank] at active
  holds idx process lcore found := by simp [lcoreInit] at found
  unique first second one other found := by simp [lcoreInit] at found
  gone lcore entry owner found active := by
    have blank := List.eq_of_mem_replicate (List.mem_of_getElem? found)
    simp [blank] at active
  counted := by
    have none : (List.replicate maxLcore (⟨⟨"", "", 0⟩, false, 0⟩ : LcoreShmEntry)).countP
        LcoreShmEntry.active = 0 := by
      apply List.countP_eq_zero.mpr
      intro entry member
      simp [List.eq_of_mem_replicate member]
    simp [lcoreInit, none]

theorem LcoreState.Sound.safe (sound : s.Sound) : s.Safe where
  exclusive first second one other lcore foundFirst foundSecond aliveOne aliveOther mine theirs := by
    rcases (sound.holds first one lcore foundFirst aliveOne mine).2 with ⟨entry, found, -, owner⟩
    rcases (sound.holds second other lcore foundSecond aliveOther theirs).2 with
      ⟨entry', found', -, owner'⟩
    obtain rfl : entry = entry' := Option.some.inj (found.symm.trans found')
    exact owner.symm.trans owner'
  reclaimed lcore entry owner found active ownerFound dead info idx request host user offered := by
    rcases sound.owned lcore entry found active with ⟨writer, writerFound, same⟩
    obtain rfl : writer = owner := Option.some.inj (writerFound.symm.trans ownerFound)
    have killed := sound.gone lcore entry writer found active ownerFound dead
    rw [same] at host user
    have cleaned : (lcoreShmCheckAndClean (s.kill info.user) info entry).active = false :=
      (checkAndClean_active _ _ _).mpr (.inr ⟨host.symm, user.symm, user ▸ killed⟩)
    have isOpen : s.shm.grantable (s.kill info.user) info lcore = true := by
      simp [LcoreShm.grantable, found, cleaned]
    rw [schGetLcore_spec]
    cases first : request.offered.find? (s.shm.grantable (s.kill info.user) info) with
    | none => exact absurd isOpen (List.find?_eq_none.mp first lcore offered)
    | some granted => exact ⟨granted, rfl⟩
  counted := sound.counted

/-! ## Signals -/

theorem kill_congr {s other : LcoreState} (processes : other.processes.map
    (fun process => (process.info, process.alive)) = s.processes.map
      (fun process => (process.info, process.alive))) (user : String) (pid : Nat) :
    other.kill user pid = s.kill user pid := by
  have through : forall t : LcoreState, t.kill user pid =
      (t.processes.map (fun process => (process.info, process.alive))).any
        (fun pair => pair.2 && decide (pair.1.pid = pid) &&
          (decide (pair.1.user = user) || decide (user = "root"))) := by
    intro t
    rw [List.any_map]
    rfl
  rw [through, through, processes]

theorem kill_alive {idx : Nat} {process : LcoreProcess} (found : s.processes[idx]? = some process)
    (alive : process.alive = true) :
    s.kill process.info.user process.info.pid = true := by
  apply List.any_eq_true.mpr
  exact ⟨process, List.mem_of_getElem? found, by simp [alive]⟩

theorem kill_false {user : String} {pid : Nat}
    (none : forall (idx : Nat) (process : LcoreProcess), s.processes[idx]? = some process ->
      process.alive = true -> process.info.pid = pid -> process.info.user ≠ user ∧ user ≠ "root") :
    s.kill user pid = false := by
  apply Bool.eq_false_iff.mpr
  intro killed
  rcases List.any_eq_true.mp killed with ⟨process, member, signalled⟩
  rcases List.mem_iff_getElem?.mp member with ⟨idx, found⟩
  simp only [Bool.and_eq_true, Bool.or_eq_true, decide_eq_true_eq] at signalled
  have denied := none idx process found signalled.1.1 signalled.1.2
  exact signalled.2.elim denied.1 denied.2

theorem caller_some {idx : Nat} {process : LcoreProcess} (called : s.caller idx = some process) :
    s.processes[idx]? = some process ∧ process.alive = true ∧ process.attached = true := by
  unfold LcoreState.caller at called
  rcases Option.filter_eq_some_iff.mp called with ⟨found, both⟩
  exact ⟨found, by simpa using both⟩

/-! ## A process that changes its own list -/

section Local

variable {s : LcoreState} {idx : Nat} {process changed : LcoreProcess}

/-- The same process, with other lcores or attached otherwise. -/
structure SameProcess (process changed : LcoreProcess) : Prop where
  info : changed.info = process.info
  alive : changed.alive = process.alive

section

variable (same : SameProcess process changed) (found : s.processes[idx]? = some process)

include same found

theorem SameProcess.kill (shm : LcoreShm) (user : String) (pid : Nat) :
    LcoreState.kill ⟨shm, s.processes.set idx changed⟩ user pid = s.kill user pid := by
  apply kill_congr
  exact map_replace (fun process => (process.info, process.alive)) found (by rw [same.info, same.alive])

theorem SameProcess.before {place : Nat} {other : LcoreProcess}
    (present : (s.processes.set idx changed)[place]? = some other) :
    exists old, s.processes[place]? = some old ∧ SameProcess old other := by
  rcases getElem?_replace_cases found present with ⟨rfl, rfl⟩ | ⟨-, old⟩
  · exact ⟨process, found, same⟩
  · exact ⟨other, old, rfl, rfl⟩

theorem SameProcess.after {place : Nat} {old : LcoreProcess}
    (present : s.processes[place]? = some old) :
    exists other, (s.processes.set idx changed)[place]? = some other ∧ other.info = old.info := by
  rw [getElem?_replace found]
  by_cases mine : place = idx
  · subst mine
    obtain rfl : process = old := Option.some.inj (found.symm.trans present)
    exact ⟨changed, if_pos rfl, same.info⟩
  · exact ⟨old, by rw [if_neg mine]; exact present, rfl⟩

theorem SameProcess.unique (sound : s.Sound) (first second : Nat)
    (one other : LcoreProcess) (foundFirst : (s.processes.set idx changed)[first]? = some one)
    (foundSecond : (s.processes.set idx changed)[second]? = some other) (aliveOne : one.alive = true)
    (aliveOther : other.alive = true) (pid : one.info.pid = other.info.pid) : first = second := by
  rcases same.before found foundFirst with ⟨oldOne, wasFirst, sameOne⟩
  rcases same.before found foundSecond with ⟨oldOther, wasSecond, sameOther⟩
  apply sound.unique first second oldOne oldOther wasFirst wasSecond
  · rw [← sameOne.alive, aliveOne]
  · rw [← sameOther.alive, aliveOther]
  · rw [← sameOne.info, pid, sameOther.info]

end

end Local

/-! ## Gets and puts -/

/-- A process takes an lcore that nobody has. -/
theorem LcoreState.Sound.take {s : LcoreState} (sound : s.Sound) {idx lcore : Nat}
    {process : LcoreProcess} {entry : LcoreShmEntry} (found : s.processes[idx]? = some process)
    (alive : process.alive = true) (attached : process.attached = true)
    (present : s.shm.lcoresInfo[lcore]? = some entry) (free : entry.active = false) :
    LcoreState.Sound
      { shm := s.shm.take process.info idx lcore
        processes := s.processes.set idx
          { process with localLcoresActive := lcore :: process.localLcoresActive } } := by
  have same : SameProcess process
      { process with localLcoresActive := lcore :: process.localLcoresActive } := ⟨rfl, rfl⟩
  have killed := fun shm => same.kill (s := s) found shm
  constructor
  · intro place other foundEntry active
    rcases getElem?_replace_cases present foundEntry with ⟨rfl, rfl⟩ | ⟨-, old⟩
    · exact same.after found found
    · rcases sound.owned place other old active with ⟨owner, ownerFound, name⟩
      rcases same.after found ownerFound with ⟨renamed, renamedFound, sameName⟩
      exact ⟨renamed, renamedFound, sameName.trans name⟩
  · intro place other held foundOther aliveOther mine
    have old : other.attached = true ∧ (place = idx ∧ held = lcore ∨
        exists before, s.processes[place]? = some before ∧ before.alive = true ∧
          held ∈ before.localLcoresActive) := by
      rcases getElem?_replace_cases found foundOther with ⟨rfl, rfl⟩ | ⟨-, old⟩
      · refine ⟨attached, ?_⟩
        rcases List.mem_cons.mp mine with rfl | earlier
        · exact .inl ⟨rfl, rfl⟩
        · exact .inr ⟨process, found, alive, earlier⟩
      · exact ⟨(sound.holds place other held old aliveOther mine).1, .inr ⟨other, old, aliveOther, mine⟩⟩
    refine ⟨old.1, ?_⟩
    rcases old.2 with ⟨rfl, rfl⟩ | ⟨before, wasFound, wasAlive, wasHeld⟩
    · exact ⟨_, by rw [LcoreShm.take, getElem?_replace present, if_pos rfl], rfl, rfl⟩
    · rcases (sound.holds place before held wasFound wasAlive wasHeld).2 with
        ⟨owned, ownedFound, active, owner⟩
      have elsewhere : held ≠ lcore := by
        rintro rfl
        rw [Option.some.inj (ownedFound.symm.trans present), free] at active
        cases active
      exact ⟨owned, by rw [LcoreShm.take, getElem?_replace present, if_neg elsewhere]; exact ownedFound,
        active, owner⟩
  · exact same.unique found sound
  · intro place other owner foundEntry active ownerFound dead
    rw [killed]
    rcases same.before found ownerFound with ⟨before, wasFound, sameOwner⟩
    rcases getElem?_replace_cases present foundEntry with ⟨rfl, rfl⟩ | ⟨-, old⟩
    · obtain rfl : process = before := Option.some.inj (found.symm.trans wasFound)
      rw [sameOwner.alive, alive] at dead
      cases dead
    · exact sound.gone place other before old active wasFound (sameOwner.alive ▸ dead)
  · have moved := countP_replace LcoreShmEntry.active present ⟨process.info, true, idx⟩
    have counted := sound.counted
    simp only [free, Bool.toNat_false, Bool.toNat_true] at moved
    show s.shm.used + 1 = ((s.shm.lcoresInfo.set lcore _).countP LcoreShmEntry.active : Nat)
    omega

/-- A process gives back an lcore that it has. -/
theorem LcoreState.Sound.put (sound : s.Sound) {idx lcore : Nat} {process : LcoreProcess}
    (found : s.processes[idx]? = some process) (alive : process.alive = true)
    (held : lcore ∈ process.localLcoresActive) : (s.putLcore idx process lcore).Sound := by
  rcases (sound.holds idx process lcore found alive held).2 with ⟨entry, present, active, owner⟩
  have moves : s.putLcore idx process lcore =
      { shm := { s.shm.release lcore entry with used := s.shm.used - 1 }
        processes := s.processes.set idx { process with
          localLcoresActive :=
            process.localLcoresActive.filter (fun other => decide (other ≠ lcore)) } } := by
    simp [LcoreState.putLcore, schPutLcore, present, active]
  rw [moves]
  have same : SameProcess process { process with
      localLcoresActive := process.localLcoresActive.filter (fun other => decide (other ≠ lcore)) } :=
    ⟨rfl, rfl⟩
  have killed := fun shm => same.kill (s := s) found shm
  have remaining : forall (place : Nat) (other : LcoreShmEntry),
      (s.shm.lcoresInfo.set lcore { entry with active := false })[place]? = some other ->
      other.active = true -> place ≠ lcore ∧ s.shm.lcoresInfo[place]? = some other := by
    intro place other foundEntry stays
    rcases getElem?_replace_cases present foundEntry with ⟨-, rfl⟩ | old
    · cases stays
    · exact old
  constructor
  · intro place other foundEntry stays
    rcases sound.owned place other (remaining place other foundEntry stays).2 stays with
      ⟨owner, ownerFound, name⟩
    rcases same.after found ownerFound with ⟨renamed, renamedFound, sameName⟩
    exact ⟨renamed, renamedFound, sameName.trans name⟩
  · intro place other mine foundOther aliveOther member
    have old : exists before, s.processes[place]? = some before ∧ before.alive = true ∧
        before.attached = other.attached ∧ mine ∈ before.localLcoresActive ∧
        (place = idx -> mine ≠ lcore) := by
      rcases getElem?_replace_cases found foundOther with ⟨rfl, rfl⟩ | ⟨elsewhere, old⟩
      · rcases List.mem_filter.mp member with ⟨earlier, kept⟩
        exact ⟨process, found, alive, rfl, earlier, fun _ => by simpa using kept⟩
      · exact ⟨other, old, aliveOther, rfl, member, fun here => absurd here elsewhere⟩
    rcases old with ⟨before, wasFound, wasAlive, wasAttached, earlier, kept⟩
    rcases sound.holds place before mine wasFound wasAlive earlier with
      ⟨attached, owned, ownedFound, stays, ownedBy⟩
    have elsewhere : mine ≠ lcore := by
      rintro rfl
      rw [Option.some.inj (ownedFound.symm.trans present), owner] at ownedBy
      exact kept ownedBy.symm rfl
    refine ⟨wasAttached ▸ attached, owned, ?_, stays, ownedBy⟩
    rw [LcoreShm.release, getElem?_replace present, if_neg elsewhere]
    exact ownedFound
  · exact same.unique found sound
  · intro place other owner foundEntry stays ownerFound dead
    rw [killed]
    rcases same.before found ownerFound with ⟨before, wasFound, sameOwner⟩
    exact sound.gone place other before (remaining place other foundEntry stays).2 stays wasFound
      (sameOwner.alive ▸ dead)
  · have moved := countP_replace LcoreShmEntry.active present { entry with active := false }
    have counted := sound.counted
    simp only [active, Bool.toNat_false, Bool.toNat_true] at moved
    show s.shm.used - 1 = ((s.shm.lcoresInfo.set lcore _).countP LcoreShmEntry.active : Nat)
    omega

/-! ## Processes that come and go -/

section

variable {s : LcoreState} (sound : s.Sound) {idx : Nat} {process : LcoreProcess}
    (found : s.processes[idx]? = some process)

include sound found

/-- Attaching keeps what is said: the first one finds no live process that has an lcore. -/
theorem LcoreState.Sound.attach (alive : process.alive = true)
    (apart : process.attached = false) : (s.attach idx process).Sound := by
  have same : SameProcess process { process with attached := true } := ⟨rfl, rfl⟩
  have bare : process.localLcoresActive = [] := by
    apply List.eq_nil_iff_forall_not_mem.mpr
    intro lcore held
    have attached := (sound.holds idx process lcore found alive held).1
    rw [apart] at attached
    cases attached
  have holders : forall (place : Nat) (other : LcoreProcess) (lcore : Nat),
      (s.processes.set idx { process with attached := true })[place]? = some other ->
      other.alive = true -> lcore ∈ other.localLcoresActive -> s.processes[place]? = some other := by
    intro place other lcore foundOther _ held
    rcases getElem?_replace_cases found foundOther with ⟨rfl, rfl⟩ | ⟨-, old⟩
    · rw [show ({ process with attached := true } : LcoreProcess).localLcoresActive = [] from bare] at held
      cases held
    · exact old
  unfold LcoreState.attach
  by_cases others : s.processes.any LcoreProcess.attached = true
  · rw [if_pos others]
    constructor
    · intro lcore entry foundEntry active
      rcases sound.owned lcore entry foundEntry active with ⟨owner, ownerFound, name⟩
      rcases same.after found ownerFound with ⟨renamed, renamedFound, sameName⟩
      exact ⟨renamed, renamedFound, sameName.trans name⟩
    · intro place other lcore foundOther aliveOther held
      exact sound.holds place other lcore (holders place other lcore foundOther aliveOther held)
        aliveOther held
    · exact same.unique found sound
    · intro lcore entry owner foundEntry active ownerFound dead
      rw [same.kill found]
      rcases same.before found ownerFound with ⟨before, wasFound, sameOwner⟩
      exact sound.gone lcore entry before foundEntry active wasFound (sameOwner.alive ▸ dead)
    · exact sound.counted
  · rw [if_neg others]
    have blank : forall (lcore : Nat) (entry : LcoreShmEntry), s.shm.clear.lcoresInfo[lcore]? = some entry ->
        entry.active = false := by
      intro lcore entry foundEntry
      rw [LcoreShm.clear, List.getElem?_map] at foundEntry
      rcases Option.map_eq_some_iff.mp foundEntry with ⟨old, -, rfl⟩
      rfl
    constructor
    · intro lcore entry foundEntry active
      rw [blank lcore entry foundEntry] at active
      cases active
    · intro place other lcore foundOther aliveOther held
      have old := holders place other lcore foundOther aliveOther held
      have attached := (sound.holds place other lcore old aliveOther held).1
      exact absurd (List.any_eq_true.mpr ⟨other, List.mem_of_getElem? old, attached⟩) others
    · exact same.unique found sound
    · intro lcore entry owner foundEntry active
      rw [blank lcore entry foundEntry] at active
      cases active
    · have none : s.shm.clear.lcoresInfo.countP LcoreShmEntry.active = 0 := by
        simp [LcoreShm.clear, List.countP_eq_zero]
      rw [none]
      rfl

theorem LcoreState.Sound.detach (bare : process.localLcoresActive = []) :
    LcoreState.Sound
      { s with processes := s.processes.set idx { process with attached := false } } := by
  have same : SameProcess process { process with attached := false } := ⟨rfl, rfl⟩
  constructor
  · intro lcore entry foundEntry active
    rcases sound.owned lcore entry foundEntry active with ⟨owner, ownerFound, name⟩
    rcases same.after found ownerFound with ⟨renamed, renamedFound, sameName⟩
    exact ⟨renamed, renamedFound, sameName.trans name⟩
  · intro place other lcore foundOther aliveOther held
    rcases getElem?_replace_cases found foundOther with ⟨rfl, rfl⟩ | ⟨-, old⟩
    · rw [show ({ process with attached := false } : LcoreProcess).localLcoresActive = [] from bare]
        at held
      cases held
    · exact sound.holds place other lcore old aliveOther held
  · exact same.unique found sound
  · intro lcore entry owner foundEntry active ownerFound dead
    have killed : LcoreState.kill
        { s with processes := s.processes.set idx { process with attached := false } }
        entry.uInfo.user entry.uInfo.pid = s.kill entry.uInfo.user entry.uInfo.pid :=
      same.kill found s.shm _ _
    rw [killed]
    rcases same.before found ownerFound with ⟨before, wasFound, sameOwner⟩
    exact sound.gone lcore entry before foundEntry active wasFound (sameOwner.alive ▸ dead)
  · exact sound.counted

/-- A process that dies leaves its entries behind, and its pid with nobody. -/
theorem LcoreState.Sound.die :
    LcoreState.Sound
      { s with processes := s.processes.set idx { process with alive := false, attached := false } } := by
  have remaining : forall (place : Nat) (other : LcoreProcess),
      (s.processes.set idx { process with alive := false, attached := false })[place]? = some other ->
      other.alive = true -> place ≠ idx ∧ s.processes[place]? = some other := by
    intro place other foundOther aliveOther
    rcases getElem?_replace_cases found foundOther with ⟨-, rfl⟩ | old
    · cases aliveOther
    · exact old
  constructor
  · intro lcore entry foundEntry active
    rcases sound.owned lcore entry foundEntry active with ⟨owner, ownerFound, name⟩
    show exists renamed, (s.processes.set idx _)[entry.owner]? = some renamed ∧ _
    rw [getElem?_replace found]
    by_cases mine : entry.owner = idx
    · rw [mine] at ownerFound
      obtain rfl : process = owner := Option.some.inj (found.symm.trans ownerFound)
      exact ⟨_, if_pos mine, name⟩
    · exact ⟨owner, by rw [if_neg mine]; exact ownerFound, name⟩
  · intro place other lcore foundOther aliveOther held
    exact sound.holds place other lcore (remaining place other foundOther aliveOther).2 aliveOther held
  · intro first second one other foundFirst foundSecond aliveOne aliveOther
    exact sound.unique first second one other (remaining first one foundFirst aliveOne).2
      (remaining second other foundSecond aliveOther).2 aliveOne aliveOther
  · intro lcore entry owner foundEntry active ownerFound dead
    rcases sound.owned lcore entry foundEntry active with ⟨writer, writerFound, name⟩
    apply kill_false
    intro place other foundOther aliveOther samePid
    rcases remaining place other foundOther aliveOther with ⟨elsewhere, old⟩
    by_cases wasAlive : writer.alive = true
    · -- the owner is the one that dies, and no other live process has its pid
      have owned : entry.owner = place :=
        sound.unique _ _ writer other writerFound old wasAlive aliveOther (by rw [name, samePid])
      rw [owned] at writerFound ownerFound
      have moved := getElem?_replace found { process with alive := false, attached := false } place
      rw [if_neg elsewhere] at moved
      rw [moved, writerFound] at ownerFound
      rw [← Option.some.inj ownerFound, wasAlive] at dead
      cases dead
    · have killed := sound.gone lcore entry writer foundEntry active writerFound
        (Bool.eq_false_iff.mpr wasAlive)
      constructor
      · rintro sameUser
        rw [← sameUser, ← samePid, kill_alive old aliveOther] at killed
        cases killed
      · intro root
        have signalled : s.kill entry.uInfo.user entry.uInfo.pid = true := by
          apply List.any_eq_true.mpr
          exact ⟨other, List.mem_of_getElem? old, by simp [aliveOther, samePid, root]⟩
        rw [killed] at signalled
        cases signalled
  · exact sound.counted

end

/-- A process starts under a pid that no active entry is looked up by. -/
theorem LcoreState.Sound.start (sound : s.Sound) {info : MtUserInfo}
    (free : s.pidTaken info.pid = false)
    (fresh : ∀ entry ∈ s.shm.lcoresInfo, entry.active = true ->
      entry.uInfo.pid = info.pid -> ¬ (info.user = entry.uInfo.user ∨ entry.uInfo.user = "root")) :
    LcoreState.Sound { s with processes := s.processes ++ [⟨info, true, false, []⟩] } := by
  have cases_of : forall (place : Nat) (other : LcoreProcess),
      (s.processes ++ [⟨info, true, false, []⟩])[place]? = some other ->
      s.processes[place]? = some other ∨ (place = s.processes.length ∧ other = ⟨info, true, false, []⟩) := by
    intro place other foundOther
    by_cases inside : place < s.processes.length
    · rw [List.getElem?_append_left inside] at foundOther
      exact .inl foundOther
    · rw [List.getElem?_append_right (Nat.le_of_not_lt inside)] at foundOther
      rcases List.getElem?_eq_some_iff.mp foundOther with ⟨bound, value⟩
      have last : place - s.processes.length = 0 := by simpa using bound
      exact .inr ⟨by omega, by simpa [last] using value.symm⟩
  have kept : forall (place : Nat) (other : LcoreProcess), s.processes[place]? = some other ->
      (s.processes ++ [⟨info, true, false, []⟩])[place]? = some other := by
    intro place other present
    rw [List.getElem?_append_left (List.getElem?_eq_some_iff.mp present).1]
    exact present
  have unused : forall (place : Nat) (other : LcoreProcess), s.processes[place]? = some other ->
      other.alive = true -> other.info.pid ≠ info.pid := by
    intro place other present aliveOther samePid
    have taken : s.pidTaken info.pid = true := by
      apply List.any_eq_true.mpr
      exact ⟨other, List.mem_of_getElem? present, by simp [aliveOther, samePid]⟩
    rw [free] at taken
    cases taken
  constructor
  · intro lcore entry foundEntry active
    rcases sound.owned lcore entry foundEntry active with ⟨owner, ownerFound, name⟩
    exact ⟨owner, kept _ owner ownerFound, name⟩
  · intro place other lcore foundOther aliveOther held
    rcases cases_of place other foundOther with old | ⟨-, rfl⟩
    · exact sound.holds place other lcore old aliveOther held
    · cases held
  · intro first second one other foundFirst foundSecond aliveOne aliveOther samePid
    rcases cases_of first one foundFirst with oldOne | ⟨lastOne, rfl⟩ <;>
      rcases cases_of second other foundSecond with oldOther | ⟨lastOther, rfl⟩
    · exact sound.unique first second one other oldOne oldOther aliveOne aliveOther samePid
    · exact absurd samePid (unused first one oldOne aliveOne)
    · exact absurd samePid.symm (unused second other oldOther aliveOther)
    · exact lastOne.trans lastOther.symm
  · intro lcore entry owner foundEntry active ownerFound dead
    rcases cases_of _ owner ownerFound with wasFound | ⟨-, rfl⟩
    · have killed := sound.gone lcore entry owner foundEntry active wasFound dead
      apply Bool.eq_false_iff.mpr
      intro signalled
      rcases List.any_eq_true.mp signalled with ⟨other, member, signals⟩
      rcases List.mem_append.mp member with old | new
      · exact absurd (List.any_eq_true.mpr ⟨other, old, signals⟩) (Bool.eq_false_iff.mp killed)
      · rw [List.mem_singleton.mp new] at signals
        simp only [Bool.true_and, Bool.and_eq_true, Bool.or_eq_true, decide_eq_true_eq] at signals
        exact fresh entry (List.mem_of_getElem? foundEntry) active signals.1.symm signals.2
    · cases dead
  · exact sound.counted

/-! ## Steps -/

theorem exists_entry_of_grantable {shm : LcoreShm} {kill : Nat -> Bool} {info : MtUserInfo} {lcore : Nat}
    (grantable : shm.grantable kill info lcore = true) :
    exists entry, shm.lcoresInfo[lcore]? = some entry := by
  unfold LcoreShm.grantable at grantable
  cases present : shm.lcoresInfo[lcore]? with
  | none => simp [present] at grantable
  | some entry => exact ⟨entry, rfl⟩

theorem cleanId_eq {shm : LcoreShm} {lcore : Nat}
    (idle : forall entry, shm.lcoresInfo[lcore]? = some entry -> entry.active = false) :
    (lcoreShmCleanId shm lcore).1 = shm := by
  unfold lcoreShmCleanId
  cases present : shm.lcoresInfo[lcore]? with
  | none => rfl
  | some entry => simp [idle entry present]

theorem LcoreState.Sound.step (sound : s.Sound) {input : LcoreInput} (clean : OwnersClean s input)
    : (lcoreStep s input).Sound := by
  cases input with
  | cleanAutoPid info => exact sound
  | cleanLcore lcore =>
    show LcoreState.Sound { s with shm := (lcoreShmCleanId s.shm lcore).1 }
    rw [cleanId_eq clean]
    exact sound
  | start info =>
    simp only [lcoreStep]
    by_cases taken : s.pidTaken info.pid = true
    · rw [if_pos taken]
      exact sound
    · rw [if_neg taken]
      exact sound.start (Bool.eq_false_iff.mpr taken) (clean.resolve_left taken)
  | attach idx =>
    simp only [lcoreStep]
    cases found : s.processes[idx]? with
    | none => exact sound
    | some process =>
      by_cases attaches : (process.alive && !process.attached) = true
      · have both : process.alive = true ∧ process.attached = false := by simpa using attaches
        simpa [both.1, both.2] using sound.attach found both.1 both.2
      · simpa [attaches] using sound
  | die idx =>
    simp only [lcoreStep]
    cases found : s.processes[idx]? with
    | none => exact sound
    | some process => exact sound.die found
  | detach idx =>
    simp only [lcoreStep]
    cases called : s.caller idx with
    | none => exact sound
    | some process =>
      by_cases bare : process.localLcoresActive = []
      · simpa [bare] using sound.detach (caller_some called).1 bare
      · simpa [bare] using sound
  | put idx lcore =>
    simp only [lcoreStep]
    cases called : s.caller idx with
    | none => exact sound
    | some process =>
      rcases caller_some called with ⟨found, alive, -⟩
      by_cases held : lcore ∈ process.localLcoresActive
      · simpa [held] using sound.put found alive held
      · simpa [held] using sound
  | get idx request =>
    simp only [lcoreStep]
    cases called : s.caller idx with
    | none => exact sound
    | some process =>
      rcases caller_some called with ⟨found, alive, attached⟩
      simp only [LcoreState.getLcore, schGetLcore_spec]
      cases first : request.offered.find?
          (s.shm.grantable (s.kill process.info.user) process.info) with
      | none => exact sound
      | some lcore =>
        rcases exists_entry_of_grantable (List.find?_some first) with ⟨entry, present⟩
        exact sound.take found alive attached present
          (clean process lcore entry called first present)

/-- A step that is not clean breaks the promise at once. -/
theorem ownersClean_of_safe (sound : s.Sound) {input : LcoreInput} (safe : (lcoreStep s input).Safe)
    : OwnersClean s input := by
  have counted := sound.counted
  cases input with
  | cleanAutoPid info => trivial
  | attach idx => trivial
  | die idx => trivial
  | detach idx => trivial
  | put idx lcore => trivial
  | cleanLcore lcore =>
    intro entry present
    by_contra active
    rw [Bool.not_eq_false] at active
    have after := safe.counted
    have moved := countP_replace LcoreShmEntry.active present { entry with active := false }
    simp only [lcoreStep, lcoreShmCleanId, present, active, Bool.not_true, Bool.false_eq_true,
      if_false, LcoreShm.release] at after
    simp only [active, Bool.toNat_true, Bool.toNat_false] at moved
    omega
  | get idx request =>
    intro process lcore entry called first present
    by_contra active
    rw [Bool.not_eq_false] at active
    have after := safe.counted
    have moved := countP_replace LcoreShmEntry.active present ⟨process.info, true, idx⟩
    simp only [lcoreStep, called, LcoreState.getLcore, schGetLcore_spec, first, LcoreShm.take] at after
    simp only [active, Bool.toNat_true] at moved
    omega
  | start info =>
    by_cases taken : s.pidTaken info.pid = true
    · exact .inl taken
    · right
      intro entry member active samePid signals
      rcases List.mem_iff_getElem?.mp member with ⟨lcore, present⟩
      rcases sound.owned lcore entry present active with ⟨owner, ownerFound, name⟩
      have dead : owner.alive = false := by
        by_contra alive
        rw [Bool.not_eq_false] at alive
        apply taken
        apply List.any_eq_true.mpr
        exact ⟨owner, List.mem_of_getElem? ownerFound, by simp [alive, name, samePid]⟩
      have started : lcoreStep s (.start info) =
          { s with processes := s.processes ++ [⟨info, true, false, []⟩] } := if_neg taken
      rw [started] at safe
      have ownerKept : (s.processes ++ [⟨info, true, false, []⟩])[entry.owner]? = some owner := by
        rw [List.getElem?_append_left (List.getElem?_eq_some_iff.mp ownerFound).1]
        exact ownerFound
      rcases safe.reclaimed lcore entry owner present active ownerKept dead entry.uInfo 0
        ⟨[(lcore, 0)], 0, false, false⟩ (by rw [name]) (by rw [name])
        (by simp [LcoreRequest.offered]) with ⟨granted, got⟩
      -- the newcomer answers the signal for the dead owner
      have answers : LcoreState.kill { s with processes := s.processes ++ [⟨info, true, false, []⟩] }
          entry.uInfo.user entry.uInfo.pid = true := by
        apply List.any_eq_true.mpr
        exact ⟨⟨info, true, false, []⟩, by simp, by simpa [samePid] using signals⟩
      have closed : s.shm.grantable (LcoreState.kill
          { s with processes := s.processes ++ [⟨info, true, false, []⟩] } entry.uInfo.user)
          entry.uInfo lcore = false := by
        simp [LcoreShm.grantable, present, lcoreShmCheckAndClean, active, answers]
      rw [schGetLcore_spec] at got
      simp [LcoreRequest.offered, closed] at got

/-- In every run of gets, puts, cleanings, attachments, starts and deaths, what is promised of the table
holds after each step exactly if no get takes over an active entry, no active entry is cleaned by its id
and no process starts under the pid of a dead owner that it can be taken for. -/
theorem lcores_safe_iff (maxLcore : Nat) (inputs : List LcoreInput) :
    Admitted lcoreStep (fun s input => (lcoreStep s input).Safe) (lcoreInit maxLcore) inputs ↔
      Admitted lcoreStep OwnersClean (lcoreInit maxLcore) inputs := by
  constructor
  · intro safe
    exact admitted_of_invariant lcoreStep (fun s input => (lcoreStep s input).Safe) LcoreState.Sound
      (fun _ _ sound safe => sound.step (ownersClean_of_safe sound safe))
      (fun _ _ sound safe => ownersClean_of_safe sound safe) (.init maxLcore) safe
  · intro clean
    exact admitted_of_invariant lcoreStep OwnersClean LcoreState.Sound
      (fun _ _ sound clean => sound.step clean) (fun _ _ sound clean => (sound.step clean).safe)
      (.init maxLcore) clean

/-- Two processes of a user on one host; the first is granted an lcore and dies, and the second gets it. -/
def deadOwner : List LcoreInput :=
  [.start ⟨"host", "user", 100⟩, .start ⟨"host", "user", 101⟩, .attach 0, .attach 1,
    .get 0 ⟨[(1, 0)], 0, false, false⟩, .die 0, .get 1 ⟨[(1, 0)], 0, false, false⟩]

/-- One entry is active, and two are counted. -/
theorem dead_owner_counted_twice :
    let s := run lcoreStep (lcoreInit 4) deadOwner
    s.shm.used = 2 ∧ s.shm.lcoresInfo.countP LcoreShmEntry.active = 1 ∧ ¬ s.Safe := by
  intro s
  refine ⟨by decide, by decide, ?_⟩
  intro safe
  have counted := safe.counted
  exact absurd counted (by decide)

end MediaTransport.Sched
