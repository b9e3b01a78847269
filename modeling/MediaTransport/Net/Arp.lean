import MediaTransport.Library.Run
import MediaTransport.Library.Table
import MediaTransport.Net.EtherAddr

namespace MediaTransport.Net

open Library

/-!
# The ARP table

Callers share a table of addresses.  A caller finds or takes an entry under the lock,
and then polls the entry without it; a full table is flushed for the next address.
Replies are saved under the lock to the entry of their sender.

A caller copies a MAC byte by byte, and other steps can come in between.  A reply is saved
in one step, although a caller without the lock could read the entry in the middle of it:
what it would find there are bytes of the old MAC and of the new one.
-/

variable {arp : MtArpImpl}

/-- `struct rte_arp_hdr`, its numbers in host order. -/
structure ArpHdr where
  arpHardware : Nat
  arpProtocol : Nat
  arpHlen : Nat
  arpPlen : Nat
  arpOpcode : Nat
  arpSha : EtherAddr
  arpSip : Nat
  arpTip : Nat
  deriving DecidableEq

/-- `struct mt_arp_entry` -/
structure MtArpEntry where
  ip : Nat
  ea : EtherAddr
  macReady : Bool
  deriving DecidableEq

/-- How far a call of `mt_arp_cni_get_mac` is; from `send` on it has a pointer to an entry, and `copy` has
the bytes that it copied so far. -/
inductive ArpStage where
  | start
  | send (idx : Nat)
  | poll (idx : Nat) (retry : Int)
  | copy (idx : Nat) (bytes : List Byte)
  | answered (bytes : List Byte)
  | failed
  deriving DecidableEq

/-- A call of `mt_arp_cni_get_mac`. -/
structure ArpCall where
  ip : Nat
  timeoutMs : Int
  stage : ArpStage
  deriving DecidableEq

/-- `struct mt_arp_impl` with the port's own address and the calls so far.  An observer keeps the requests
and replies that were sent, and the replies that were saved. -/
structure MtArpImpl where
  entries : List MtArpEntry
  timerActive : Bool
  sipAddr : Nat
  calls : List ArpCall
  requested : List Nat
  replied : List (EtherAddr × Nat)
  accepted : List ArpHdr
  deriving DecidableEq

/-- A call is made, a call goes on, the timer fires, or a packet is received; the flags say whether the
alarm could be set, whether the user aborted and whether there was a packet to answer with. -/
inductive ArpInput where
  | get (ip : Nat) (timeoutMs : Int)
  | advance (k : Nat) (alarm aborted : Bool)
  | timer (alarm : Bool)
  | receive (hdr : ArpHdr) (sendable : Bool)
  deriving DecidableEq

/-! ## Received packets -/

/-- `arp_is_valid_hdr` -/
def arpIsValidHdr (hdr : ArpHdr) : Bool :=
  !(decide (hdr.arpHardware ≠ 1) && decide (hdr.arpProtocol ≠ 2048) && decide (hdr.arpHlen ≠ 6) &&
    decide (hdr.arpPlen ≠ 4))

/-- `arp_receive_request` -/
def arpReceiveRequest (arp : MtArpImpl) (request : ArpHdr) (sendable : Bool) : MtArpImpl :=
  if !arpIsValidHdr request then arp
  else if request.arpTip ≠ arp.sipAddr then arp
  else if !sendable then arp
  else { arp with replied := arp.replied ++ [(request.arpSha, request.arpSip)] }

def MtArpImpl.lookup (arp : MtArpImpl) (ip : Nat) : Option Nat :=
  arp.entries.findIdx? (fun entry => decide (entry.ip = ip))

def MtArpImpl.save (arp : MtArpImpl) (idx : Nat) (entry : MtArpEntry) (reply : ArpHdr) : MtArpImpl :=
  { arp with
    entries := arp.entries.set idx { entry with ea := reply.arpSha, macReady := true }
    accepted := arp.accepted ++ [reply] }

/-- `arp_receive_reply` -/
def arpReceiveReply (arp : MtArpImpl) (reply : ArpHdr) : MtArpImpl :=
  if !arpIsValidHdr reply then arp
  else if reply.arpTip ≠ arp.sipAddr then arp
  else
    match arp.lookup reply.arpSip with
    | none => arp
    | some idx =>
      match arp.entries[idx]? with
      | none => arp
      | some entry => arp.save idx entry reply

/-- `mt_arp_parse` -/
def mtArpParse (arp : MtArpImpl) (hdr : ArpHdr) (sendable : Bool) : MtArpImpl :=
  if hdr.arpOpcode = 1 then arpReceiveRequest arp hdr sendable
  else if hdr.arpOpcode = 2 then arpReceiveReply arp hdr
  else arp

/-! ## The timer -/

/-- `arp_start_arp_timer` -/
def arpStartArpTimer (arp : MtArpImpl) (alarm : Bool) : MtArpImpl :=
  if !arp.timerActive && alarm then { arp with timerActive := true } else arp

/-- The addresses that `arp_timer_cb` asks for again. -/
def MtArpImpl.pending (arp : MtArpImpl) : List Nat :=
  (arp.entries.filter (fun entry => decide (entry.ip ≠ 0) && !entry.macReady)).map MtArpEntry.ip

/-- `arp_timer_cb` -/
def arpTimerCb (arp : MtArpImpl) (alarm : Bool) : MtArpImpl :=
  let asked := { arp with timerActive := false, requested := arp.requested ++ arp.pending }
  if arp.pending = [] then asked else arpStartArpTimer asked alarm

/-! ## Calls -/

def MtArpImpl.goOn (arp : MtArpImpl) (k : Nat) (call : ArpCall) (stage : ArpStage) : MtArpImpl :=
  { arp with calls := arp.calls.set k { call with stage := stage } }

/-- `arp_reset` -/
def arpReset (arp : MtArpImpl) : MtArpImpl :=
  { arp with entries := arp.entries.map (fun _ => ⟨0, .zero, false⟩) }

def MtArpImpl.alloc (arp : MtArpImpl) (idx ip : Nat) : MtArpImpl :=
  { arp with entries := arp.entries.modify idx (fun entry => { entry with ip := ip, macReady := false }) }

/-- What `mt_arp_cni_get_mac` does under the lock. -/
def MtArpImpl.find (arp : MtArpImpl) (k : Nat) (call : ArpCall) : MtArpImpl :=
  match arp.lookup call.ip with
  | some idx => arp.goOn k call (.poll idx 0)
  | none =>
    match arp.lookup 0 with
    | some idx => (arp.alloc idx call.ip).goOn k call (.send idx)
    | none => ((arpReset arp).alloc 0 call.ip).goOn k call (.send 0)

/-- The number of polls that `arp_get_result` makes for a timeout, 500 ms apart. -/
def maxRetry (timeoutMs : Int) : Int :=
  if timeoutMs = 0 then 0 else timeoutMs.tdiv 500 + 1

/-- The next step of a call: the first request, a poll of `arp_get_result`, or the copy of a byte. -/
def MtArpImpl.advance (arp : MtArpImpl) (k : Nat) (call : ArpCall) (alarm aborted : Bool) : MtArpImpl :=
  match call.stage with
  | .start => arp.find k call
  | .send idx =>
    (arpStartArpTimer { arp with requested := arp.requested ++ [call.ip] } alarm).goOn k call (.poll idx 0)
  | .poll idx retry =>
    match arp.entries[idx]? with
    | none => arp
    | some entry =>
      if entry.macReady then arp.goOn k call (.copy idx [])
      else if aborted then arp.goOn k call .failed
      else if maxRetry call.timeoutMs ≤ retry then arp.goOn k call .failed
      else arp.goOn k call (.poll idx (retry + 1))
  | .copy idx bytes =>
    match arp.entries[idx]? with
    | none => arp
    | some entry =>
      match entry.ea.addrBytes[bytes.length]? with
      | some byte => arp.goOn k call (.copy idx (bytes ++ [byte]))
      | none => arp.goOn k call (.answered bytes)
  | .answered _ => arp
  | .failed => arp

/-- Calls, alarms and packets in any order. -/
def arpStep (arp : MtArpImpl) : ArpInput -> MtArpImpl
  | .get ip timeoutMs => { arp with calls := arp.calls ++ [⟨ip, timeoutMs, .start⟩] }
  | .advance k alarm aborted =>
    match arp.calls[k]? with
    | none => arp
    | some call => arp.advance k call alarm aborted
  | .timer alarm => if arp.timerActive then arpTimerCb arp alarm else arp
  | .receive hdr sendable => mtArpParse arp hdr sendable

/-- `mt_arp_init` for a table of this many entries. -/
def arpInit (count sipAddr : Nat) : MtArpImpl where
  entries := List.replicate count ⟨0, .zero, false⟩
  timerActive := false
  sipAddr := sipAddr
  calls := []
  requested := []
  replied := []
  accepted := []

/-! ## What is promised -/

/-- The hardware type, protocol type and address lengths are those of Ethernet and IPv4. -/
def ArpHdr.EtherIpv4 (hdr : ArpHdr) : Prop :=
  hdr.arpHardware = 1 ∧ hdr.arpProtocol = 2048 ∧ hdr.arpHlen = 6 ∧ hdr.arpPlen = 4

instance (hdr : ArpHdr) : Decidable hdr.EtherIpv4 :=
  inferInstanceAs (Decidable (_ ∧ _))

/-- Every answer was carried by a reply that was accepted from the address asked for. -/
def MtArpImpl.Answered (arp : MtArpImpl) : Prop :=
  ∀ call ∈ arp.calls, forall bytes, call.stage = .answered bytes ->
    exists reply, reply ∈ arp.accepted ∧ reply.EtherIpv4 ∧ reply.arpSip = call.ip ∧
      reply.arpSha.addrBytes = bytes

/-- A packet for another kind of network changes nothing in the table and is not answered. -/
def ForeignIgnored (arp : MtArpImpl) : ArpInput -> Prop
  | .receive hdr sendable =>
    ¬ hdr.EtherIpv4 ->
      (mtArpParse arp hdr sendable).entries = arp.entries ∧
        (mtArpParse arp hdr sendable).replied = arp.replied
  | _ => True

def ArpStage.holds (idx : Nat) : ArpStage -> Bool
  | .send place | .poll place _ | .copy place _ => decide (place = idx)
  | _ => false

def ArpStage.copies (idx : Nat) : ArpStage -> Bool
  | .copy place _ => decide (place = idx)
  | _ => false

def MtArpImpl.concerned (arp : MtArpImpl) (hdr : ArpHdr) (sendable : Bool) : Bool :=
  decide (hdr.arpTip = arp.sipAddr) &&
    ((decide (hdr.arpOpcode = 1) && sendable) ||
      (decide (hdr.arpOpcode = 2) && (arp.lookup hdr.arpSip).isSome))

/-- A packet with one of the four numbers wrong has all of them wrong, or does not concern us. -/
def MtArpImpl.ForeignSafe (arp : MtArpImpl) (hdr : ArpHdr) (sendable : Bool) : Prop :=
  hdr.EtherIpv4 ∨ arpIsValidHdr hdr = false ∨ arp.concerned hdr sendable = false

/-- A reply is saved only to an entry that nobody has a pointer to for another address, and from which
nobody copies another MAC. -/
def MtArpImpl.SaveSafe (arp : MtArpImpl) (reply : ArpHdr) : Prop :=
  ∀ idx ∈ arp.lookup reply.arpSip, ∀ call ∈ arp.calls,
    (call.stage.holds idx = true -> call.ip = reply.arpSip) ∧
      (call.stage.copies idx = true -> ∀ entry ∈ arp.entries[idx]?, entry.ea = reply.arpSha)

def MtArpImpl.FlushSafe (arp : MtArpImpl) : Prop :=
  ∀ call ∈ arp.calls, ∀ idx < arp.entries.length, call.stage.copies idx = false

/-- The condition on a step: for a packet, for a reply that is saved, and for a call that flushes the table. -/
def ArpSafe (arp : MtArpImpl) : ArpInput -> Prop
  | .receive hdr sendable =>
    arp.ForeignSafe hdr sendable ∧
      (hdr.arpOpcode = 2 -> arp.concerned hdr sendable = true -> arpIsValidHdr hdr = true ->
        arp.SaveSafe hdr)
  | .advance k _ _ =>
    ∀ call ∈ arp.calls[k]?, call.stage = .start -> arp.lookup call.ip = none ->
      arp.lookup 0 = none -> arp.FlushSafe
  | _ => True

instance (arp : MtArpImpl) (hdr : ArpHdr) (sendable : Bool) : Decidable (arp.ForeignSafe hdr sendable) :=
  inferInstanceAs (Decidable (_ ∨ _))

instance (arp : MtArpImpl) (reply : ArpHdr) : Decidable (arp.SaveSafe reply) :=
  inferInstanceAs (Decidable (∀ idx ∈ arp.lookup reply.arpSip, ∀ call ∈ arp.calls,
    (call.stage.holds idx = true -> call.ip = reply.arpSip) ∧
      (call.stage.copies idx = true -> ∀ entry ∈ arp.entries[idx]?, entry.ea = reply.arpSha)))

instance (arp : MtArpImpl) : Decidable arp.FlushSafe :=
  inferInstanceAs (Decidable (∀ call ∈ arp.calls, ∀ idx < arp.entries.length,
    call.stage.copies idx = false))

instance (arp : MtArpImpl) : (input : ArpInput) -> Decidable (ArpSafe arp input)
  | .receive _ _ => inferInstanceAs (Decidable (_ ∧ (_ -> _ -> _ -> _)))
  | .advance k _ _ =>
    inferInstanceAs (Decidable (∀ call ∈ arp.calls[k]?, call.stage = .start ->
      arp.lookup call.ip = none -> arp.lookup 0 = none -> arp.FlushSafe))
  | .get _ _ | .timer _ => inferInstanceAs (Decidable True)

/-! ## The invariant -/

def MtArpImpl.Carried (arp : MtArpImpl) (ip : Nat) (ea : EtherAddr) : Prop :=
  exists reply, reply ∈ arp.accepted ∧ reply.EtherIpv4 ∧ reply.arpSip = ip ∧ reply.arpSha = ea

/-- What is ready was carried, for the entry's address and for everybody who has a pointer to it. -/
structure MtArpImpl.Sound (arp : MtArpImpl) : Prop where
  ready : forall (idx : Nat) (entry : MtArpEntry), arp.entries[idx]? = some entry -> entry.macReady = true ->
    arp.Carried entry.ip entry.ea
  held : forall (call : ArpCall) (idx : Nat) (entry : MtArpEntry), call ∈ arp.calls ->
    call.stage.holds idx = true -> arp.entries[idx]? = some entry -> entry.macReady = true ->
    arp.Carried call.ip entry.ea
  copied : forall (call : ArpCall) (idx : Nat) (bytes : List Byte) (entry : MtArpEntry), call ∈ arp.calls ->
    call.stage = .copy idx bytes -> arp.entries[idx]? = some entry ->
    arp.Carried call.ip entry.ea ∧ bytes = entry.ea.addrBytes.take bytes.length
  answered : arp.Answered

theorem MtArpImpl.Sound.init (count sipAddr : Nat) : (arpInit count sipAddr).Sound := by
  constructor
  · intro idx entry present ready
    rw [(List.mem_replicate.mp (List.mem_of_getElem? present)).2] at ready
    cases ready
  · intro call idx entry member
    cases member
  · intro call idx bytes entry member
    cases member
  · intro call member
    cases member

theorem MtArpImpl.lookup_spec {ip idx : Nat} (found : arp.lookup ip = some idx) :
    exists entry, arp.entries[idx]? = some entry ∧ entry.ip = ip := by
  rcases List.findIdx?_eq_some_iff_getElem.mp found with ⟨bound, same, -⟩
  exact ⟨arp.entries[idx], List.getElem?_eq_getElem bound, by simpa using same⟩

/-! ## Steps of a call -/

theorem MtArpImpl.Sound.goOn (sound : arp.Sound) (k : Nat) (call : ArpCall)
    {stage : ArpStage}
    (held : forall (idx : Nat) (entry : MtArpEntry), stage.holds idx = true -> arp.entries[idx]? = some entry ->
      entry.macReady = true -> arp.Carried call.ip entry.ea)
    (copied : forall (idx : Nat) (bytes : List Byte) (entry : MtArpEntry), stage = .copy idx bytes ->
      arp.entries[idx]? = some entry ->
      arp.Carried call.ip entry.ea ∧ bytes = entry.ea.addrBytes.take bytes.length)
    (answered : forall bytes, stage = .answered bytes ->
      exists reply, reply ∈ arp.accepted ∧ reply.EtherIpv4 ∧ reply.arpSip = call.ip ∧
        reply.arpSha.addrBytes = bytes) :
    (arp.goOn k call stage).Sound := by
  constructor
  · exact sound.ready
  · intro other idx entry member holds present ready
    rcases List.mem_or_eq_of_mem_set member with old | rfl
    · exact sound.held other idx entry old holds present ready
    · exact held idx entry holds present ready
  · intro other idx bytes entry member copies present
    rcases List.mem_or_eq_of_mem_set member with old | rfl
    · exact sound.copied other idx bytes entry old copies present
    · exact copied idx bytes entry copies present
  · intro other member bytes reached
    rcases List.mem_or_eq_of_mem_set member with old | rfl
    · exact sound.answered other old bytes reached
    · exact answered bytes reached

theorem MtArpImpl.Sound.wait (sound : arp.Sound) (k : Nat) (call : ArpCall)
    {stage : ArpStage} (copies : forall idx bytes, stage ≠ .copy idx bytes)
    (answers : forall bytes, stage ≠ .answered bytes)
    (held : forall (idx : Nat) (entry : MtArpEntry), stage.holds idx = true -> arp.entries[idx]? = some entry ->
      entry.macReady = true -> arp.Carried call.ip entry.ea) :
    (arp.goOn k call stage).Sound :=
  sound.goOn k call held (fun idx bytes _ same => absurd same (copies idx bytes))
    (fun bytes same => absurd same (answers bytes))

theorem MtArpImpl.Sound.alloc (sound : arp.Sound) (idx ip : Nat) :
    (arp.alloc idx ip).Sound := by
  have entries : forall (place : Nat) (entry : MtArpEntry), (arp.alloc idx ip).entries[place]? = some entry ->
      exists old, arp.entries[place]? = some old ∧ entry.ea = old.ea ∧
        (entry.macReady = true -> entry = old) := by
    intro place entry present
    rw [MtArpImpl.alloc, List.getElem?_modify] at present
    cases old : arp.entries[place]? with
    | none => simp [old] at present
    | some before =>
      simp only [old, Option.map_eq_map, Option.map_some] at present
      by_cases same : idx = place
      · rw [if_pos same] at present
        obtain rfl := Option.some.inj present
        exact ⟨before, rfl, rfl, by intro ready; cases ready⟩
      · rw [if_neg same] at present
        obtain rfl := Option.some.inj present
        exact ⟨_, rfl, rfl, fun _ => rfl⟩
  constructor
  · intro place entry present ready
    rcases entries place entry present with ⟨old, presentOld, -, same⟩
    obtain rfl := same ready
    exact sound.ready place _ presentOld ready
  · intro call place entry member holds present ready
    rcases entries place entry present with ⟨old, presentOld, -, same⟩
    obtain rfl := same ready
    exact sound.held call place _ member holds presentOld ready
  · intro call place bytes entry member copies present
    rcases entries place entry present with ⟨old, presentOld, bytesSame, -⟩
    rw [bytesSame]
    exact sound.copied call place bytes old member copies presentOld
  · exact sound.answered

theorem MtArpImpl.alloc_unready (arp : MtArpImpl) (idx ip : Nat) {entry : MtArpEntry}
    (present : (arp.alloc idx ip).entries[idx]? = some entry) : entry.macReady = false := by
  rw [MtArpImpl.alloc, List.getElem?_modify] at present
  cases old : arp.entries[idx]? with
  | none => simp [old] at present
  | some before =>
    simp only [old, Option.map_eq_map, Option.map_some] at present
    obtain rfl := Option.some.inj present
    simp

theorem MtArpImpl.Sound.reset {arp : MtArpImpl} (sound : arp.Sound)
    (quiet : arp.FlushSafe) : (arpReset arp).Sound := by
  have unready : forall (place : Nat) (entry : MtArpEntry), (arpReset arp).entries[place]? = some entry ->
      entry.macReady = false := by
    intro place entry present
    rw [arpReset, List.getElem?_map] at present
    rcases Option.map_eq_some_iff.mp present with ⟨old, -, rfl⟩
    rfl
  constructor
  · intro place entry present ready
    rw [unready place entry present] at ready
    cases ready
  · intro call place entry member holds present ready
    rw [unready place entry present] at ready
    cases ready
  · intro call place bytes entry member copies present
    have inside : place < arp.entries.length := by
      have bound := (List.getElem?_eq_some_iff.mp present).1
      simpa [arpReset] using bound
    have none := quiet call member place inside
    rw [copies] at none
    simp [ArpStage.copies] at none
  · exact sound.answered

theorem MtArpImpl.Sound.find (sound : arp.Sound) (k : Nat) (call : ArpCall)
    (quiet : arp.lookup call.ip = none -> arp.lookup 0 = none -> arp.FlushSafe) :
    (arp.find k call).Sound := by
  have taken : forall (before : MtArpImpl) (idx : Nat), before.Sound ->
      ((before.alloc idx call.ip).goOn k call (.send idx)).Sound := by
    intro before idx soundBefore
    apply (soundBefore.alloc idx call.ip).wait k call (by simp) (by simp)
    intro place entry holds present ready
    obtain rfl : idx = place := of_decide_eq_true holds
    rw [MtArpImpl.alloc_unready before idx call.ip present] at ready
    cases ready
  unfold MtArpImpl.find
  cases known : arp.lookup call.ip with
  | some idx =>
    apply sound.wait k call (by simp) (by simp)
    intro place entry holds present ready
    obtain rfl : idx = place := of_decide_eq_true holds
    rcases MtArpImpl.lookup_spec known with ⟨own, presentOwn, same⟩
    obtain rfl : own = entry := Option.some.inj (presentOwn.symm.trans present)
    rw [← same]
    exact sound.ready idx own present ready
  | none =>
    cases empty : arp.lookup 0 with
    | some idx => exact taken arp idx sound
    | none => exact taken (arpReset arp) 0 (sound.reset (quiet known empty))

theorem MtArpImpl.Sound.timer (sound : arp.Sound) (active : Bool) (requested : List Nat) :
    MtArpImpl.Sound { arp with timerActive := active, requested := requested } :=
  ⟨sound.ready, sound.held, sound.copied, sound.answered⟩

theorem MtArpImpl.Sound.startTimer (sound : arp.Sound) (alarm : Bool) :
    (arpStartArpTimer arp alarm).Sound := by
  unfold arpStartArpTimer
  split_ifs
  · exact sound.timer true arp.requested
  · exact sound

/-- Every step of a call keeps the invariant when a flush finds nobody who copies. -/
theorem MtArpImpl.Sound.advance (sound : arp.Sound) {k : Nat} {call : ArpCall}
    (found : arp.calls[k]? = some call) (alarm aborted : Bool)
    (quiet : call.stage = .start -> arp.lookup call.ip = none -> arp.lookup 0 = none -> arp.FlushSafe) :
    (arp.advance k call alarm aborted).Sound := by
  have member := List.mem_of_getElem? found
  unfold MtArpImpl.advance
  cases stage : call.stage with
  | start => exact sound.find k call (quiet stage)
  | answered bytes => exact sound
  | failed => exact sound
  | send idx =>
    have asked := (sound.timer arp.timerActive (arp.requested ++ [call.ip])).startTimer alarm
    have same : (arpStartArpTimer { arp with requested := arp.requested ++ [call.ip] } alarm).entries =
        arp.entries ∧
        (arpStartArpTimer { arp with requested := arp.requested ++ [call.ip] } alarm).accepted =
          arp.accepted := by
      unfold arpStartArpTimer
      split_ifs <;> exact ⟨rfl, rfl⟩
    apply asked.wait k call (by simp) (by simp)
    intro place entry holds present ready
    unfold MtArpImpl.Carried
    rw [same.1] at present
    rw [same.2]
    exact sound.held call place entry member (by rw [stage]; exact holds) present ready
  | poll idx retry =>
    cases present : arp.entries[idx]? with
    | none => simpa [present] using sound
    | some entry =>
      have holds : call.stage.holds idx = true := by simp [stage, ArpStage.holds]
      by_cases ready : entry.macReady = true
      · simp only [present, if_pos ready]
        have carried := sound.held call idx entry member holds present ready
        apply sound.goOn k call
        · intro place other same presentOther _
          obtain rfl : idx = place := of_decide_eq_true same
          obtain rfl : entry = other := Option.some.inj (present.symm.trans presentOther)
          exact carried
        · intro place bytes other same presentOther
          cases same
          obtain rfl : entry = other := Option.some.inj (present.symm.trans presentOther)
          exact ⟨carried, rfl⟩
        · intro bytes same
          cases same
      · simp only [present, if_neg ready]
        split_ifs
        · exact sound.wait k call (by simp) (by simp) (by intro place other same; cases same)
        · exact sound.wait k call (by simp) (by simp) (by intro place other same; cases same)
        · apply sound.wait k call (by simp) (by simp)
          intro place other same presentOther readyOther
          obtain rfl : idx = place := of_decide_eq_true same
          exact sound.held call idx other member holds presentOther readyOther
  | copy idx bytes =>
    cases present : arp.entries[idx]? with
    | none => simpa [present] using sound
    | some entry =>
      rcases sound.copied call idx bytes entry member stage present with ⟨carried, prefixSoFar⟩
      cases next : entry.ea.addrBytes[bytes.length]? with
      | some byte =>
        simp only [present, next]
        apply sound.goOn k call
        · intro place other same presentOther _
          obtain rfl : idx = place := of_decide_eq_true same
          obtain rfl : entry = other := Option.some.inj (present.symm.trans presentOther)
          exact carried
        · intro place more other same presentOther
          cases same
          obtain rfl : entry = other := Option.some.inj (present.symm.trans presentOther)
          refine ⟨carried, ?_⟩
          rw [List.length_append, List.length_singleton, List.take_add_one, next, ← prefixSoFar]
          rfl
        · intro more same
          cases same
      | none =>
        simp only [present, next]
        apply sound.goOn k call
        · intro place other same
          cases same
        · intro place more other same
          cases same
        · intro more same
          cases same
          rcases carried with ⟨reply, accepted, right, sender, mac⟩
          refine ⟨reply, accepted, right, sender, ?_⟩
          -- all the bytes are copied
          rw [mac, prefixSoFar, List.take_of_length_le (List.getElem?_eq_none_iff.mp next)]

/-! ## Received packets -/

theorem arpReceiveReply_spec (arp : MtArpImpl) (reply : ArpHdr) :
    arpReceiveReply arp reply = arp ∨
      exists (idx : Nat) (entry : MtArpEntry), arpIsValidHdr reply = true ∧ reply.arpTip = arp.sipAddr ∧
        arp.lookup reply.arpSip = some idx ∧ arp.entries[idx]? = some entry ∧
        arpReceiveReply arp reply = arp.save idx entry reply := by
  unfold arpReceiveReply
  by_cases valid : arpIsValidHdr reply = true
  · by_cases ours : reply.arpTip = arp.sipAddr
    · rw [if_neg (by simp [valid]), if_neg (by simpa using ours)]
      cases known : arp.lookup reply.arpSip with
      | none => exact .inl rfl
      | some idx =>
        cases present : arp.entries[idx]? with
        | none => exact .inl (by simp [present])
        | some entry => exact .inr ⟨idx, entry, valid, ours, rfl, present, by simp [present]⟩
    · rw [if_neg (by simp [valid]), if_pos (by simpa using ours)]
      exact .inl rfl
  · rw [if_pos (by simpa using valid)]
    exact .inl rfl

theorem MtArpImpl.Sound.save (sound : arp.Sound) {idx : Nat} {entry : MtArpEntry}
    (present : arp.entries[idx]? = some entry) {reply : ArpHdr} (right : reply.EtherIpv4)
    (sender : entry.ip = reply.arpSip)
    (asked : ∀ call ∈ arp.calls, call.stage.holds idx = true -> call.ip = reply.arpSip)
    (still : ∀ call ∈ arp.calls, call.stage.copies idx = true -> entry.ea = reply.arpSha) :
    (arp.save idx entry reply).Sound := by
  have before : forall (ip : Nat) (ea : EtherAddr), arp.Carried ip ea ->
      (arp.save idx entry reply).Carried ip ea := by
    rintro ip ea ⟨old, accepted, oldRight, from_, mac⟩
    exact ⟨old, List.mem_append_left _ accepted, oldRight, from_, mac⟩
  have now : (arp.save idx entry reply).Carried reply.arpSip reply.arpSha :=
    ⟨reply, List.mem_append_right _ (List.mem_singleton.mpr rfl), right, rfl, rfl⟩
  constructor
  · intro place other presentOther ready
    rcases getElem?_replace_cases present presentOther with ⟨-, rfl⟩ | ⟨-, old⟩
    · rw [show ({ entry with ea := reply.arpSha, macReady := true } : MtArpEntry).ip = reply.arpSip from sender]
      exact now
    · exact before _ _ (sound.ready place other old ready)
  · intro call place other member holds presentOther ready
    rcases getElem?_replace_cases present presentOther with ⟨rfl, rfl⟩ | ⟨-, old⟩
    · rw [asked call member holds]
      exact now
    · exact before _ _ (sound.held call place other member holds old ready)
  · intro call place bytes other member copies presentOther
    rcases getElem?_replace_cases present presentOther with ⟨rfl, rfl⟩ | ⟨-, old⟩
    · have copying : call.stage.copies place = true := by simp [copies, ArpStage.copies]
      have same := still call member copying
      rcases sound.copied call place bytes entry member copies present with ⟨carried, soFar⟩
      rw [same] at carried soFar
      exact ⟨before _ _ carried, soFar⟩
    · rcases sound.copied call place bytes other member copies old with ⟨carried, soFar⟩
      exact ⟨before _ _ carried, soFar⟩
  · intro call member bytes reached
    rcases sound.answered call member bytes reached with ⟨old, accepted, rest⟩
    exact ⟨old, List.mem_append_left _ accepted, rest⟩

theorem MtArpImpl.Sound.receive (sound : arp.Sound) {hdr : ArpHdr} {sendable : Bool}
    (safe : ArpSafe arp (.receive hdr sendable)) : (mtArpParse arp hdr sendable).Sound := by
  rcases safe with ⟨foreign, saved⟩
  unfold mtArpParse
  by_cases request : hdr.arpOpcode = 1
  · rw [if_pos request]
    unfold arpReceiveRequest
    split_ifs
    · exact sound
    · exact sound
    · exact sound
    · exact ⟨sound.ready, sound.held, sound.copied, sound.answered⟩
  · rw [if_neg request]
    by_cases reply : hdr.arpOpcode = 2
    · rw [if_pos reply]
      rcases arpReceiveReply_spec arp hdr with same | ⟨idx, entry, valid, ours, known, present, same⟩
      · rw [same]
        exact sound
      · rw [same]
        have concerned : arp.concerned hdr sendable = true := by
          simp [MtArpImpl.concerned, ours, reply, known]
        have right : hdr.EtherIpv4 := by
          rcases foreign with right | invalid | unconcerned
          · exact right
          · rw [valid] at invalid
            cases invalid
          · rw [concerned] at unconcerned
            cases unconcerned
        have safe := saved reply concerned valid idx known
        rcases MtArpImpl.lookup_spec known with ⟨own, presentOwn, sender⟩
        obtain rfl : own = entry := Option.some.inj (presentOwn.symm.trans present)
        exact sound.save present right sender (fun call member => (safe call member).1)
          (fun call member copies => (safe call member).2 copies own present)
    · rw [if_neg reply]
      exact sound

theorem foreign_ignored {input : ArpInput} (safe : ArpSafe arp input) :
    ForeignIgnored arp input := by
  cases input with
  | get ip timeoutMs => trivial
  | advance k alarm aborted => trivial
  | timer alarm => trivial
  | receive hdr sendable =>
    intro foreign
    have ignored : mtArpParse arp hdr sendable = arp := by
      rcases safe.1 with right | invalid | unconcerned
      · exact absurd right foreign
      · simp [mtArpParse, arpReceiveRequest, arpReceiveReply, invalid]
      · unfold MtArpImpl.concerned at unconcerned
        unfold mtArpParse
        by_cases ours : hdr.arpTip = arp.sipAddr
        · split_ifs with request reply
          · have unsendable : sendable = false := by simpa [ours, request] using unconcerned
            simp [arpReceiveRequest, unsendable]
          · have unknown : arp.lookup hdr.arpSip = none := by simpa [ours, reply] using unconcerned
            simp [arpReceiveReply, unknown]
          · rfl
        · simp [arpReceiveRequest, arpReceiveReply, ours]
    rw [ignored]
    exact ⟨rfl, rfl⟩

theorem MtArpImpl.Sound.step {arp : MtArpImpl} (sound : arp.Sound) {input : ArpInput}
    (safe : ArpSafe arp input) : (arpStep arp input).Sound := by
  cases input with
  | get ip timeoutMs =>
    have calls : ∀ call ∈ arp.calls ++ [⟨ip, timeoutMs, .start⟩],
        call.stage = .start ∨ call ∈ arp.calls := by
      intro call member
      rcases List.mem_append.mp member with old | new
      · exact .inr old
      · rw [List.mem_singleton.mp new]
        exact .inl rfl
    constructor
    · exact sound.ready
    · intro call idx entry member holds present ready
      rcases calls call member with start | old
      · rw [start] at holds
        cases holds
      · exact sound.held call idx entry old holds present ready
    · intro call idx bytes entry member copies present
      rcases calls call member with start | old
      · rw [start] at copies
        cases copies
      · exact sound.copied call idx bytes entry old copies present
    · intro call member bytes reached
      rcases calls call member with start | old
      · rw [start] at reached
        cases reached
      · exact sound.answered call old bytes reached
  | advance k alarm aborted =>
    simp only [arpStep]
    cases found : arp.calls[k]? with
    | none => exact sound
    | some call => exact sound.advance found alarm aborted (safe call found)
  | timer alarm =>
    simp only [arpStep]
    split_ifs
    · unfold arpTimerCb
      have asked := sound.timer false (arp.requested ++ arp.pending)
      dsimp only
      split_ifs
      · exact asked
      · exact asked.startTimer alarm
    · exact sound
  | receive hdr sendable => exact sound.receive safe

/-- In every interleaving of calls, alarms and packets, every answer was carried by an accepted reply of the
address asked for and foreign packets are ignored, as long as no reply is saved to an entry that somebody has
a pointer to for another address or copies another MAC from, nobody copies when the table is flushed, and no
packet that concerns us has only some of the four numbers wrong. -/
theorem arp_answers (count sipAddr : Nat) (inputs : List ArpInput)
    (safe : Admitted arpStep ArpSafe (arpInit count sipAddr) inputs) :
    Admitted arpStep (fun arp input => (arpStep arp input).Answered ∧ ForeignIgnored arp input)
      (arpInit count sipAddr) inputs :=
  admitted_of_invariant arpStep ArpSafe MtArpImpl.Sound (fun _ _ sound safe => sound.step safe)
    (fun _ _ sound safe => ⟨(sound.step safe).answered, foreign_ignored safe⟩) (.init count sipAddr) safe

/-- A reply of 192.168.0.1, with every number right, to a port at 192.168.0.100. -/
def goodReply (mac : EtherAddr) (sip : Nat) : ArpHdr :=
  ⟨1, 2048, 6, 4, 2, mac, sip, 3232235620⟩

/-- Four calls for three addresses: two are answered by one reply while another reply is saved and a frame of
another kind of network is received, one is answered after it has polled again, and one is aborted. -/
def overlappingCalls : List ArpInput :=
  [.get 3232235521 0, .get 3232235522 1000, .get 3232235521 0, .get 3232235523 1000, .advance 0 true false,
    .advance 1 true false, .advance 2 true false, .advance 0 true false, .advance 1 true false,
    .advance 3 true false, .advance 3 true false, .advance 1 true false,
    .receive (goodReply ⟨[2, 0, 0, 0, 0, 1], rfl⟩ 3232235521) true, .advance 0 true false,
    .advance 2 true false, .advance 0 true false, .timer true, .advance 3 true true,
    .receive (goodReply ⟨[2, 0, 0, 0, 0, 2], rfl⟩ 3232235522) true,
    .receive ⟨6, 4, 8, 16, 2, ⟨[2, 0, 0, 0, 0, 3], rfl⟩, 3232235521, 3232235620⟩ true] ++
    (List.replicate 8 [.advance 0 true false, .advance 1 true false, .advance 2 true false]).flatten

theorem arp_answers_reply :
    Admitted arpStep (fun arp input => (arpStep arp input).Answered ∧ ForeignIgnored arp input)
        (arpInit 60 3232235620) overlappingCalls ∧
      (run arpStep (arpInit 60 3232235620) overlappingCalls).calls.map ArpCall.stage =
        [.answered [2, 0, 0, 0, 0, 1], .answered [2, 0, 0, 0, 0, 2], .answered [2, 0, 0, 0, 0, 1],
          .failed] :=
  ⟨arp_answers 60 3232235620 overlappingCalls (by decide +kernel), by decide +kernel⟩

/-- The first of 61 callers waits while the last one flushes the table and takes its entry, and a reply
comes for the address of the last one. -/
def flushedTable : List ArpInput :=
  (List.range 61).flatMap (fun k => [.get (k + 1) 0, .advance k true false]) ++
    [.advance 0 true false, .receive (goodReply ⟨[2, 0, 0, 0, 0, 61], rfl⟩ 61) true] ++
    List.replicate 7 (.advance 0 true false)

/-- A request with a length of 16 for protocol addresses, from nobody we know. -/
def foreignRequest : ArpInput :=
  .receive ⟨1, 2048, 6, 16, 1, .zero, 7, 3232235620⟩ true

/-- The first caller is answered with the MAC of the last one's address, and the foreign request is
answered. -/
theorem flushed_table_mixed :
    ¬ Admitted arpStep (fun arp input => (arpStep arp input).Answered ∧ ForeignIgnored arp input)
        (arpInit 60 3232235620) (flushedTable ++ [.advance 0 true false]) ∧
      ¬ ForeignIgnored (arpInit 60 3232235620) foreignRequest := by
  constructor
  · intro promised
    rw [admitted_append] at promised
    have answered := promised.2.1.1
    have reached : (⟨1, 0, .answered [2, 0, 0, 0, 0, 61]⟩ : ArpCall) ∈
        (arpStep (run arpStep (arpInit 60 3232235620) flushedTable) (.advance 0 true false)).calls := by
      decide +kernel
    have accepted : (arpStep (run arpStep (arpInit 60 3232235620) flushedTable)
        (.advance 0 true false)).accepted = [goodReply ⟨[2, 0, 0, 0, 0, 61], rfl⟩ 61] := by
      decide +kernel
    rcases answered _ reached _ rfl with ⟨reply, member, -, sender, -⟩
    rw [accepted, List.mem_singleton] at member
    rw [member] at sender
    exact absurd sender (by decide)
  · intro ignored
    have replied := (ignored (by decide)).2
    exact absurd replied (by decide)

end MediaTransport.Net
