import MediaTransport.Library.Run
import MediaTransport.Library.Word
import MediaTransport.Util.Errno

namespace MediaTransport.Net

open Library

/-!
# The DHCP client

Messages come in any order, and every ACK sets three more alarms.  Alarms are never
cancelled, and each acts on the status that it finds.  Time is in microseconds; it
does not pass an alarm that has not fired.
-/

/-- `enum mt_dhcp_status` -/
inductive MtDhcpStatus where
  | init
  | discovering
  | requesting
  | bound
  | renewing
  | rebinding
  deriving DecidableEq, Repr

/-- The callbacks that alarms are set for. -/
inductive DhcpHandler where
  | renew
  | rebind
  | lease
  deriving DecidableEq, Repr

/-- An alarm that has not fired, with the number of the ACK that set it. -/
structure DhcpAlarm where
  handler : DhcpHandler
  dueUs : Nat
  ack : Nat
  deriving DecidableEq, Repr

/-- `struct mt_dhcp_impl` with the time and the alarms.  An observer knows how many ACKs were handled, and
when the lease of the latest one ends. -/
structure MtDhcpImpl where
  status : MtDhcpStatus
  xid : Nat
  serverIp : List Byte
  ip : List Byte
  netmask : List Byte
  gateway : List Byte
  nowUs : Nat
  alarms : List DhcpAlarm
  acks : Nat
  leaseEndUs : Nat
  deriving DecidableEq

variable (dhcp : MtDhcpImpl) (sent : Bool)

/-- The fields of `struct mt_dhcp_hdr` that the client reads, in host order. -/
structure MtDhcpHdr where
  op : Nat
  xid : Nat
  yiaddr : List Byte
  magicCookie : Nat
  options : List Byte
  deriving DecidableEq

/-! ## Options -/

/-- The option at the start of the bytes; what lies behind a message reads as `DHCP_OPTION_END`. -/
def dhcpOptionCode (bytes : List Byte) : Nat := (bytes.getD 0 255#8).toNat

/-- The options up to `DHCP_OPTION_END`, each as its code and the bytes from its data on. -/
def dhcpOptionsFrom : Nat -> List Byte -> List (Nat × List Byte)
  | 0, _ => []
  | fuel + 1, bytes =>
    if dhcpOptionCode bytes = 255 then
      []
    else
      (dhcpOptionCode bytes, bytes.drop 2) ::
        dhcpOptionsFrom fuel (bytes.drop ((bytes.getD 1 0#8).toNat + 2))

def MtDhcpHdr.optionList (hdr : MtDhcpHdr) : List (Nat × List Byte) :=
  dhcpOptionsFrom hdr.options.length hdr.options

/-- The last option with this code; the loops keep the value that they saw last. -/
def MtDhcpHdr.lastOption (hdr : MtDhcpHdr) (code : Nat) : Option (List Byte) :=
  ((hdr.optionList.filter (fun option => decide (option.1 = code))).getLast?).map Prod.snd

def MtDhcpHdr.address (hdr : MtDhcpHdr) (code : Nat) (kept : List Byte) : List Byte :=
  match hdr.lastOption code with
  | none => kept
  | some data => data.take 4

/-- `ntohl` of the first four bytes -/
def dhcpNtohl (bytes : List Byte) : Nat :=
  (bytes.getD 0 0).toNat * 16777216 + (bytes.getD 1 0).toNat * 65536 +
    (bytes.getD 2 0).toNat * 256 + (bytes.getD 3 0).toNat

/-- `t` of `dhcp_recv_ack`, in seconds -/
def MtDhcpHdr.leaseTime (hdr : MtDhcpHdr) : Nat :=
  match hdr.lastOption 51 with
  | none => 0
  | some data => dhcpNtohl data

/-! ## Messages -/

/-- `dhcp_send_discover`; `sent` says whether the packet went out. -/
def dhcpSendDiscover (sent : Bool) : MtDhcpImpl :=
  if sent then { dhcp with status := .discovering } else dhcp

/-- `dhcp_recv_offer`.  The request that it sends does not change the client. -/
def dhcpRecvOffer (offer : MtDhcpHdr) : MtDhcpImpl × Except Errno Unit :=
  if dhcp.status ≠ .discovering then
    (dhcp, .error .io)
  else
    ({ dhcp with
        ip := offer.yiaddr
        serverIp := offer.address 54 dhcp.serverIp
        status := .requesting },
      .ok ())

/-- The three alarms of an ACK: half of the lease time, seven eighths of it, and all of it.  The products
of `dhcp_recv_ack` are exact in `double`. -/
def dhcpAckAlarms (nowUs leaseTime ack : Nat) : List DhcpAlarm :=
  [⟨.renew, nowUs + leaseTime * 500000, ack⟩,
    ⟨.rebind, nowUs + leaseTime * 875000, ack⟩,
    ⟨.lease, nowUs + leaseTime * 1000000, ack⟩]

/-- `rte_eal_alarm_set` takes each of the three: it refuses a time of zero, and fails where it has no
memory for one more than `room`. -/
def dhcpAlarmsTaken (leaseTime room : Nat) : Nat :=
  if leaseTime = 0 then 0 else min room 3

/-- `dhcp_recv_ack` -/
def dhcpRecvAck (ack : MtDhcpHdr) (room : Nat) : MtDhcpImpl × Except Errno Unit :=
  let taken := dhcpAlarmsTaken ack.leaseTime room
  let stored := { dhcp with
    ip := ack.yiaddr
    netmask := ack.address 1 dhcp.netmask
    gateway := ack.address 3 dhcp.gateway
    serverIp := ack.address 54 dhcp.serverIp
    alarms := dhcp.alarms ++ (dhcpAckAlarms dhcp.nowUs ack.leaseTime (dhcp.acks + 1)).take taken
    acks := dhcp.acks + 1
    leaseEndUs := dhcp.nowUs + ack.leaseTime * 1000000 }
  if taken < 3 then
    (stored, .error (if ack.leaseTime = 0 then .inval else .nomem))
  else
    ({ stored with status := .bound }, .ok ())

/-- The checks of `mt_dhcp_parse` before it looks at the message type. -/
def MtDhcpImpl.accepts (hdr : MtDhcpHdr) : Bool :=
  decide (hdr.magicCookie = 0x63825363) && decide (hdr.op = 2) && decide (hdr.xid = dhcp.xid) &&
    decide (dhcpOptionCode hdr.options = 53)

def MtDhcpHdr.messageType (hdr : MtDhcpHdr) : Nat := (hdr.options.getD 2 0).toNat

/-- `mt_dhcp_parse` -/
def mtDhcpParse (hdr : MtDhcpHdr) (room : Nat) (sent : Bool) : MtDhcpImpl × Except Errno Unit :=
  if !dhcp.accepts hdr then
    (dhcp, .error .inval)
  else if hdr.messageType = 2 then
    ((dhcpRecvOffer dhcp hdr).1, .ok ())
  else if hdr.messageType = 5 then
    ((dhcpRecvAck dhcp hdr room).1, .ok ())
  else if hdr.messageType = 6 then
    (dhcpSendDiscover dhcp sent, .ok ())
  else
    (dhcp, .error .inval)

/-! ## Alarms -/

/-- `dhcp_renew_handler` -/
def dhcpRenewHandler : MtDhcpImpl := { dhcp with status := .renewing }

/-- `dhcp_rebind_handler` -/
def dhcpRebindHandler : MtDhcpImpl :=
  if dhcp.status ≠ .bound then { dhcp with status := .rebinding } else dhcp

/-- `dhcp_lease_handler` -/
def dhcpLeaseHandler (sent : Bool) : MtDhcpImpl :=
  if dhcp.status ≠ .bound then dhcpSendDiscover { dhcp with status := .init } sent else dhcp

def dhcpHandle (sent : Bool) : DhcpHandler -> MtDhcpImpl
  | .renew => dhcpRenewHandler dhcp
  | .rebind => dhcpRebindHandler dhcp
  | .lease => dhcpLeaseHandler dhcp sent

/-! ## Runs -/

/-- A message comes, an alarm fires, or time passes. -/
inductive DhcpInput where
  | message (hdr : MtDhcpHdr) (room : Nat) (sent : Bool)
  | alarm (idx : Nat) (sent : Bool)
  | pass (us : Nat)
  deriving DecidableEq

def dhcpStep : DhcpInput -> MtDhcpImpl
  | .message hdr room sent => (mtDhcpParse dhcp hdr room sent).1
  | .alarm idx sent =>
    match dhcp.alarms[idx]? with
    | none => dhcp
    | some alarm =>
      if alarm.dueUs = dhcp.nowUs then
        dhcpHandle { dhcp with alarms := dhcp.alarms.eraseIdx idx } sent alarm.handler
      else
        dhcp
  | .pass us =>
    if ∀ alarm ∈ dhcp.alarms, dhcp.nowUs + us ≤ alarm.dueUs then
      { dhcp with nowUs := dhcp.nowUs + us }
    else
      dhcp

/-- `mt_dhcp_init`, with its first discover. -/
def dhcpInit (xid nowUs : Nat) (sent : Bool) : MtDhcpImpl :=
  dhcpSendDiscover ⟨.init, xid, [], [], [], [], nowUs, [], 0, nowUs⟩ sent

def MtDhcpStatus.leased (status : MtDhcpStatus) : Prop :=
  status = .bound ∨ status = .renewing ∨ status = .rebinding

def MtDhcpStatus.unleased (status : MtDhcpStatus) : Prop :=
  status = .init ∨ status = .discovering

instance (status : MtDhcpStatus) : Decidable status.leased := by
  unfold MtDhcpStatus.leased
  infer_instance

instance (status : MtDhcpStatus) : Decidable status.unleased := by
  unfold MtDhcpStatus.unleased
  infer_instance

/-- A message of this type that `mt_dhcp_parse` handles. -/
def MtDhcpImpl.takes (type : Nat) : DhcpInput -> Bool
  | .message hdr _ _ => dhcp.accepts hdr && decide (hdr.messageType = type)
  | _ => false

/-- The step makes the client BOUND only by an ACK that it has asked for, and gives up an address only on a
NAK or when the lease of the latest ACK is over. -/
structure LeaseKept (dhcp : MtDhcpImpl) (input : DhcpInput) : Prop where
  binds : dhcp.status ≠ .bound -> (dhcpStep dhcp input).status = .bound ->
    dhcp.takes 5 input = true ∧
      (dhcp.status = .requesting ∨ dhcp.status = .renewing ∨ dhcp.status = .rebinding)
  leaves : dhcp.status.leased -> (dhcpStep dhcp input).status.unleased ->
    dhcp.takes 6 input = true ∨ dhcp.leaseEndUs ≤ dhcp.nowUs

instance (dhcp : MtDhcpImpl) (input : DhcpInput) : Decidable (LeaseKept dhcp input) :=
  decidable_of_iff
    ((dhcp.status ≠ .bound -> (dhcpStep dhcp input).status = .bound ->
        dhcp.takes 5 input = true ∧
          (dhcp.status = .requesting ∨ dhcp.status = .renewing ∨ dhcp.status = .rebinding)) ∧
      (dhcp.status.leased -> (dhcpStep dhcp input).status.unleased ->
        dhcp.takes 6 input = true ∨ dhcp.leaseEndUs ≤ dhcp.nowUs))
    ⟨fun both => ⟨both.1, both.2⟩, fun kept => ⟨kept.binds, kept.leaves⟩⟩

def DhcpInput.setsAlarms : DhcpInput -> Prop
  | .message hdr room _ => hdr.leaseTime ≠ 0 ∧ 3 ≤ room
  | _ => False

def MtDhcpImpl.fires : DhcpInput -> Option DhcpAlarm
  | .alarm idx _ =>
    (dhcp.alarms[idx]?).filter (fun alarm => decide (alarm.dueUs = dhcp.nowUs))
  | _ => none

/-- No ACK that sets its alarms comes before an offer was answered, and the lease alarm of an ACK that is
not the latest fires in RENEWING or REBINDING only when the lease of the latest is over too. -/
structure AcksInOrder (dhcp : MtDhcpImpl) (input : DhcpInput) : Prop where
  expected : dhcp.takes 5 input = true -> input.setsAlarms -> ¬ dhcp.status.unleased
  fresh : forall alarm, dhcp.fires input = some alarm -> alarm.handler = .lease ->
    alarm.ack ≠ dhcp.acks -> dhcp.status = .renewing ∨ dhcp.status = .rebinding ->
    dhcp.leaseEndUs ≤ dhcp.nowUs

/-! ## What the alarms stand for -/

/-- The lease alarm of the latest ACK is set for the end of its lease. -/
def MtDhcpImpl.Timed : Prop :=
  ∀ alarm ∈ dhcp.alarms,
    alarm.ack ≤ dhcp.acks ∧
      (alarm.handler = .lease -> alarm.ack = dhcp.acks -> alarm.dueUs = dhcp.leaseEndUs)

theorem MtDhcpImpl.Timed.congr {dhcp other : MtDhcpImpl} (timed : dhcp.Timed)
    (alarms : ∀ alarm ∈ other.alarms, alarm ∈ dhcp.alarms)
    (acks : other.acks = dhcp.acks) (ends : other.leaseEndUs = dhcp.leaseEndUs) : other.Timed := by
  intro alarm member
  rw [acks, ends]
  exact timed alarm (alarms alarm member)

theorem dhcpSendDiscover_frame :
    (dhcpSendDiscover dhcp sent).alarms = dhcp.alarms ∧
      (dhcpSendDiscover dhcp sent).acks = dhcp.acks ∧
      (dhcpSendDiscover dhcp sent).leaseEndUs = dhcp.leaseEndUs := by
  unfold dhcpSendDiscover
  split <;> exact ⟨rfl, rfl, rfl⟩

theorem dhcpHandle_frame (handler : DhcpHandler) :
    (dhcpHandle dhcp sent handler).alarms = dhcp.alarms ∧
      (dhcpHandle dhcp sent handler).acks = dhcp.acks ∧
      (dhcpHandle dhcp sent handler).leaseEndUs = dhcp.leaseEndUs := by
  cases handler with
  | renew => exact ⟨rfl, rfl, rfl⟩
  | rebind =>
    by_cases bound : dhcp.status = .bound <;> simp [dhcpHandle, dhcpRebindHandler, bound]
  | lease =>
    by_cases bound : dhcp.status = .bound
    · simp [dhcpHandle, dhcpLeaseHandler, bound]
    · simpa [dhcpHandle, dhcpLeaseHandler, bound] using
        dhcpSendDiscover_frame { dhcp with status := .init } sent

theorem MtDhcpImpl.Timed.recvAck {dhcp : MtDhcpImpl} (timed : dhcp.Timed) (ack : MtDhcpHdr)
    (room : Nat) : (dhcpRecvAck dhcp ack room).1.Timed := by
  have stored : forall alarm, alarm ∈ dhcp.alarms ++
      (dhcpAckAlarms dhcp.nowUs ack.leaseTime (dhcp.acks + 1)).take
        (dhcpAlarmsTaken ack.leaseTime room) ->
      alarm.ack ≤ dhcp.acks + 1 ∧ (alarm.handler = .lease -> alarm.ack = dhcp.acks + 1 ->
        alarm.dueUs = dhcp.nowUs + ack.leaseTime * 1000000) := by
    intro alarm member
    rcases List.mem_append.mp member with old | new
    · have bound := (timed alarm old).1
      exact ⟨Nat.le_succ_of_le bound, fun _ same => absurd same (by omega)⟩
    · have listed := List.mem_of_mem_take new
      simp only [dhcpAckAlarms, List.mem_cons, List.not_mem_nil, or_false] at listed
      rcases listed with rfl | rfl | rfl
      · exact ⟨Nat.le_refl _, fun lease => by cases lease⟩
      · exact ⟨Nat.le_refl _, fun lease => by cases lease⟩
      · exact ⟨Nat.le_refl _, fun _ _ => rfl⟩
  unfold dhcpRecvAck
  simp only
  split <;> exact stored

theorem MtDhcpImpl.Timed.step {dhcp : MtDhcpImpl} (timed : dhcp.Timed) (input : DhcpInput) :
    (dhcpStep dhcp input).Timed := by
  cases input with
  | message hdr room sent =>
    show (mtDhcpParse dhcp hdr room sent).1.Timed
    unfold mtDhcpParse
    split
    · exact timed
    split
    · unfold dhcpRecvOffer
      split <;> exact timed
    split
    · exact timed.recvAck hdr room
    split
    · rcases dhcpSendDiscover_frame dhcp sent with ⟨alarms, acks, ends⟩
      exact timed.congr (fun _ member => alarms ▸ member) acks ends
    · exact timed
  | alarm idx sent =>
    simp only [dhcpStep]
    split
    · exact timed
    split
    · rename_i alarm _ _
      rcases dhcpHandle_frame { dhcp with alarms := dhcp.alarms.eraseIdx idx } sent alarm.handler
        with ⟨alarms, acks, ends⟩
      exact timed.congr (fun _ member => List.mem_of_mem_eraseIdx (alarms ▸ member)) acks ends
    · exact timed
  | pass us =>
    simp only [dhcpStep]
    split <;> exact timed

theorem dhcpInit_timed (xid nowUs : Nat) (sent : Bool) : (dhcpInit xid nowUs sent).Timed := by
  intro alarm member
  rw [dhcpInit, (dhcpSendDiscover_frame _ sent).1] at member
  cases member

/-! ## What a step does to the status -/

theorem message_status (dhcp : MtDhcpImpl) (hdr : MtDhcpHdr) (room : Nat) (sent : Bool) :
    let next := (dhcpStep dhcp (.message hdr room sent)).status
    let input := DhcpInput.message hdr room sent
    next = dhcp.status ∨ next = .requesting ∨
      (next = .bound ∧ dhcp.takes 5 input = true ∧ input.setsAlarms) ∨
      (next = .discovering ∧ dhcp.takes 6 input = true) := by
  intro next input
  show (mtDhcpParse dhcp hdr room sent).1.status = _ ∨ (mtDhcpParse dhcp hdr room sent).1.status = _ ∨
    ((mtDhcpParse dhcp hdr room sent).1.status = _ ∧ _) ∨
    ((mtDhcpParse dhcp hdr room sent).1.status = _ ∧ _)
  unfold mtDhcpParse
  by_cases accepts : dhcp.accepts hdr = true
  · by_cases offer : hdr.messageType = 2
    · by_cases discovering : dhcp.status = .discovering <;>
        simp [accepts, offer, dhcpRecvOffer, discovering]
    · by_cases ack : hdr.messageType = 5
      · by_cases sets : dhcpAlarmsTaken hdr.leaseTime room < 3
        · simp [accepts, ack, dhcpRecvAck, sets]
        · right; right; left
          refine ⟨by simp [accepts, ack, dhcpRecvAck, sets],
            by simp [input, MtDhcpImpl.takes, accepts, ack], ?_⟩
          unfold dhcpAlarmsTaken at sets
          show hdr.leaseTime ≠ 0 ∧ 3 ≤ room
          split at sets <;> omega
      · by_cases nak : hdr.messageType = 6
        · cases sent <;> simp [accepts, nak, dhcpSendDiscover, input, MtDhcpImpl.takes]
        · simp [accepts, offer, ack, nak]
  · simp [accepts]

theorem ack_binds {dhcp : MtDhcpImpl} {input : DhcpInput} (takes : dhcp.takes 5 input = true)
    (sets : input.setsAlarms) : (dhcpStep dhcp input).status = .bound := by
  cases input with
  | alarm idx sent => cases takes
  | pass us => cases takes
  | message hdr room sent =>
    have accepted : dhcp.accepts hdr = true ∧ hdr.messageType = 5 := by
      simpa [MtDhcpImpl.takes] using takes
    have taken : dhcpAlarmsTaken hdr.leaseTime room = 3 := by
      rw [dhcpAlarmsTaken, if_neg sets.1, Nat.min_eq_right sets.2]
    simp [dhcpStep, mtDhcpParse, accepted.1, accepted.2, dhcpRecvAck, taken]

theorem alarm_step (idx : Nat) (sent : Bool) :
    (dhcp.fires (.alarm idx sent) = none ∧ dhcpStep dhcp (.alarm idx sent) = dhcp) ∨
      exists alarm, alarm ∈ dhcp.alarms ∧ alarm.dueUs = dhcp.nowUs ∧
        dhcp.fires (.alarm idx sent) = some alarm ∧
        dhcpStep dhcp (.alarm idx sent) =
          dhcpHandle { dhcp with alarms := dhcp.alarms.eraseIdx idx } sent alarm.handler := by
  cases present : dhcp.alarms[idx]? with
  | none => exact .inl ⟨by simp [MtDhcpImpl.fires, present], by simp [dhcpStep, present]⟩
  | some alarm =>
    by_cases due : alarm.dueUs = dhcp.nowUs
    · exact .inr ⟨alarm, List.mem_of_getElem? present, due,
        by simp [MtDhcpImpl.fires, present, due], by simp [dhcpStep, present, due]⟩
    · exact .inl ⟨by simp [MtDhcpImpl.fires, present, due], by simp [dhcpStep, present, due]⟩

theorem lease_status :
    if dhcp.status = .bound then (dhcpHandle dhcp sent .lease).status = .bound
    else (dhcpHandle dhcp sent .lease).status.unleased := by
  split
  · rename_i bound
    simp [dhcpHandle, dhcpLeaseHandler, bound]
  · rename_i unbound
    cases sent <;>
      simp [dhcpHandle, dhcpLeaseHandler, dhcpSendDiscover, unbound, MtDhcpStatus.unleased]

theorem timer_status {handler : DhcpHandler} (timer : handler ≠ .lease) :
    ¬ (dhcpHandle dhcp sent handler).status.unleased ∧
      ((dhcpHandle dhcp sent handler).status = .bound -> dhcp.status = .bound) := by
  cases handler with
  | lease => exact absurd rfl timer
  | renew => simp [dhcpHandle, dhcpRenewHandler, MtDhcpStatus.unleased]
  | rebind =>
    by_cases bound : dhcp.status = .bound <;>
      simp [dhcpHandle, dhcpRebindHandler, bound, MtDhcpStatus.unleased]

theorem not_unleased_iff {status : MtDhcpStatus} :
    ¬ status.unleased ↔
      status = .bound ∨ status = .requesting ∨ status = .renewing ∨ status = .rebinding := by
  cases status <;> simp [MtDhcpStatus.unleased]

theorem LeaseKept.of_same {dhcp : MtDhcpImpl} {input : DhcpInput}
    (same : (dhcpStep dhcp input).status = dhcp.status) : LeaseKept dhcp input where
  binds unbound bound := absurd (same ▸ bound) unbound
  leaves leased unleased := by
    rw [same] at unleased
    rcases unleased with status | status <;> simp [status, MtDhcpStatus.leased] at leased

/-- A step keeps the lease exactly when the ACKs are in order. -/
theorem leaseKept_iff {dhcp : MtDhcpImpl} (timed : dhcp.Timed) (input : DhcpInput) :
    LeaseKept dhcp input ↔ AcksInOrder dhcp input := by
  constructor
  · intro kept
    constructor
    · intro takes sets unleased
      have unbound : dhcp.status ≠ .bound := by
        rcases unleased with status | status <;> simp [status]
      have asked := (kept.binds unbound (ack_binds takes sets)).2
      rcases unleased with status | status <;> simp [status] at asked
    · intro alarm fires lease _ waiting
      cases input with
      | message hdr room sent => cases fires
      | pass us => cases fires
      | alarm idx sent =>
        rcases alarm_step dhcp idx sent with ⟨none, -⟩ | ⟨fired, -, -, same, step⟩
        · rw [none] at fires
          cases fires
        · obtain rfl : fired = alarm := Option.some.inj (same.symm.trans fires)
          have given := lease_status { dhcp with alarms := dhcp.alarms.eraseIdx idx } sent
          rw [lease] at step
          rw [← step, if_neg (by rcases waiting with status | status <;> simp [status])] at given
          have leased : dhcp.status.leased := .inr waiting
          exact (kept.leaves leased given).resolve_left (by simp [MtDhcpImpl.takes])
  · intro inOrder
    cases input with
    | pass us =>
      have same : (dhcpStep dhcp (.pass us)).status = dhcp.status := by
        simp only [dhcpStep]
        split <;> rfl
      exact .of_same same
    | message hdr room sent =>
      rcases message_status dhcp hdr room sent with same | asks | ⟨binds, takes, sets⟩ | ⟨restarts, takes⟩
      · exact .of_same same
      · refine ⟨fun _ bound => ?_, fun _ unleased => ?_⟩
        · simp [asks] at bound
        · simp [asks, MtDhcpStatus.unleased] at unleased
      · refine ⟨fun unbound _ => ⟨takes, ?_⟩, fun _ unleased => ?_⟩
        · exact (not_unleased_iff.mp (inOrder.expected takes sets)).resolve_left unbound
        · simp [binds, MtDhcpStatus.unleased] at unleased
      · exact ⟨fun _ bound => by simp [restarts] at bound, fun _ _ => .inl takes⟩
    | alarm idx sent =>
      rcases alarm_step dhcp idx sent with ⟨-, same⟩ | ⟨alarm, member, due, fires, step⟩
      · exact .of_same (congrArg MtDhcpImpl.status same)
      · by_cases lease : alarm.handler = .lease
        · have given := lease_status { dhcp with alarms := dhcp.alarms.eraseIdx idx } sent
          rw [lease] at step
          rw [← step] at given
          by_cases bound : dhcp.status = .bound
          · rw [if_pos bound] at given
            refine ⟨fun unbound _ => absurd bound unbound, fun _ unleased => ?_⟩
            simp [given, MtDhcpStatus.unleased] at unleased
          · rw [if_neg bound] at given
            refine ⟨fun _ binds => ?_, fun leased _ => .inr ?_⟩
            · simp [binds, MtDhcpStatus.unleased] at given
            · by_cases latest : alarm.ack = dhcp.acks
              · exact Nat.le_of_eq (((timed alarm member).2 lease latest).symm.trans due)
              · exact inOrder.fresh alarm fires lease latest (leased.resolve_left bound)
        · have kept := timer_status { dhcp with alarms := dhcp.alarms.eraseIdx idx } sent lease
          rw [← step] at kept
          exact ⟨fun unbound bound => absurd (kept.2 bound) unbound,
            fun _ unleased => absurd unleased kept.1⟩

/-! ## Runs from the first discover -/

/-- Along every run of messages, alarms and time, the client binds only by an ACK that it asked for and
gives up its address only on a NAK or when the lease of the latest ACK is over, exactly if in every step
the ACKs are in order. -/
theorem lease_kept_iff (xid nowUs : Nat) (sent : Bool) (inputs : List DhcpInput) :
    Admitted dhcpStep LeaseKept (dhcpInit xid nowUs sent) inputs ↔
      Admitted dhcpStep AcksInOrder (dhcpInit xid nowUs sent) inputs := by
  constructor
  · intro kept
    exact admitted_of_invariant dhcpStep LeaseKept MtDhcpImpl.Timed
      (fun _ input timed _ => timed.step input)
      (fun _ input timed kept => (leaseKept_iff timed input).mp kept)
      (dhcpInit_timed xid nowUs sent) kept
  · intro inOrder
    exact admitted_of_invariant dhcpStep AcksInOrder MtDhcpImpl.Timed
      (fun _ input timed _ => timed.step input)
      (fun _ input timed inOrder => (leaseKept_iff timed input).mpr inOrder)
      (dhcpInit_timed xid nowUs sent) inOrder

/-- A message of this type for the client with xid 7, with a lease time in seconds. -/
def dhcpMessage (type leaseTime : Nat) : DhcpInput :=
  .message ⟨2, 7, [10, 0, 0, 9], 0x63825363,
    [53, 1, BitVec.ofNat 8 type, 51, 4, 0, 0, 0, BitVec.ofNat 8 leaseTime, 255]⟩ 16 true

/-- An address is leased for 100 s and renewed in time for 60 s; the client starts to renew that lease
80 s after the first ACK. -/
def shorterLease : List DhcpInput :=
  [dhcpMessage 2 100, dhcpMessage 5 100, .pass 50000000, .alarm 0 true, dhcpMessage 5 60,
    .pass 30000000, .alarm 2 true]

/-- The lease alarm of the first ACK gives the address up 10 s before the lease of the second is over. -/
theorem stale_lease_alarm :
    let renewing := run dhcpStep (dhcpInit 7 0 true) shorterLease
    let stale := run dhcpStep renewing [.pass 7500000, .alarm 0 true, .pass 12500000]
    renewing.status = .renewing ∧ stale.status = .rebinding ∧ stale.nowUs = 100000000 ∧
    stale.leaseEndUs = 110000000 ∧ (dhcpStep stale (.alarm 0 true)).status = .discovering ∧
    ¬ Admitted dhcpStep LeaseKept (dhcpInit 7 0 true)
      (shorterLease ++ [.pass 7500000, .alarm 0 true, .pass 12500000, .alarm 0 true]) := by
  decide +kernel

end MediaTransport.Net
