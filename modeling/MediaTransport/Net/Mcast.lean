import MediaTransport.Library.Run
import MediaTransport.Library.Tally
import MediaTransport.Net.EtherAddr
import MediaTransport.Util.Errno

namespace MediaTransport.Net

open Library

/-!
# Multicast membership

Groups and their sources are counted; the MAC addresses that the interface listens to
are not, and are shared by groups, by layer-2 users and with the address of all hosts.
-/

/-- `struct mt_mcast_src_entry` -/
structure MtMcastSrcEntry where
  srcIp : Nat
  srcRefCnt : Nat
  deriving DecidableEq

/-- `struct mt_mcast_group_entry` -/
structure MtMcastGroupEntry where
  groupIp : Nat
  groupRefCnt : Nat
  srcList : List MtMcastSrcEntry
  deriving DecidableEq

/-- What is configured for a port: multicast is off, or done by the data path, or by the kernel. -/
structure McastConfig where
  noMulticast : Bool
  mcastInDp : Bool
  useKernelCtl : Bool
  deriving DecidableEq

/-- A port's `struct mt_mcast_impl` and the addresses of its interface.  An observer knows the joins, of
groups with a source or zero and of layer-2 addresses, that succeeded and were not left again. -/
structure McastPort where
  config : McastConfig
  mcastMacLists : List EtherAddr
  groupList : List MtMcastGroupEntry
  groupNum : Nat
  joined : List (Nat × Nat)
  l2Joined : List EtherAddr
  deriving DecidableEq

variable (port : McastPort)

/-- A call on the port; the flags say whether the report could be sent and whether the driver took the
address. -/
inductive McastInput where
  | join (groupAddr sourceAddr : Nat) (sent : Bool)
  | leave (groupAddr sourceAddr : Nat) (sent : Bool)
  | l2Join (addr : EtherAddr) (taken : Bool)
  | l2Leave (addr : EtherAddr) (taken : Bool)
  deriving DecidableEq

/-! ## The interface's addresses -/

/-- `mcast_inf_add_mac` -/
def mcastInfAddMac (macs : List EtherAddr) (mac : EtherAddr) (taken : Bool) :
    List EtherAddr × Except Errno Unit :=
  if mac ∈ macs then (macs, .ok ())
  else (macs ++ [mac], if taken then .ok () else .error .io)

/-- `mcast_inf_remove_mac` -/
def mcastInfRemoveMac (macs : List EtherAddr) (mac : EtherAddr) (taken : Bool) :
    List EtherAddr × Except Errno Unit :=
  if mac ∈ macs then (macs.erase mac, if taken then .ok () else .error .io)
  else (macs, .ok ())

/-! ## Groups and sources -/

def joinSource (sourceAddr : Nat) (srcs : List MtMcastSrcEntry) : List MtMcastSrcEntry :=
  if sourceAddr ≠ 0 then
    upsert MtMcastSrcEntry.srcIp sourceAddr
      (fun src => { src with srcRefCnt := u16 (src.srcRefCnt + 1) }) ⟨sourceAddr, 1⟩ srcs
  else
    srcs

def joinGroup (groupAddr sourceAddr : Nat) (groups : List MtMcastGroupEntry) : List MtMcastGroupEntry :=
  upsert MtMcastGroupEntry.groupIp groupAddr
    (fun group =>
      { group with
        groupRefCnt := u16 (group.groupRefCnt + 1), srcList := joinSource sourceAddr group.srcList })
    ⟨groupAddr, 1, joinSource sourceAddr []⟩ groups

/-- The source list of a group after a leave. -/
def leaveSource (sourceAddr : Nat) (srcs : List MtMcastSrcEntry) : List MtMcastSrcEntry :=
  if sourceAddr ≠ 0 then
    amend MtMcastSrcEntry.srcIp sourceAddr
      (fun src =>
        if u16 ((src.srcRefCnt : Int) - 1) = 0 then none
        else some { src with srcRefCnt := u16 ((src.srcRefCnt : Int) - 1) }) srcs
  else
    srcs

/-- The group list after a leave. -/
def leaveGroup (groupAddr sourceAddr : Nat) (groups : List MtMcastGroupEntry) : List MtMcastGroupEntry :=
  amend MtMcastGroupEntry.groupIp groupAddr
    (fun group =>
      if u16 ((group.groupRefCnt : Int) - 1) = 0 then none
      else some { group with
        groupRefCnt := u16 ((group.groupRefCnt : Int) - 1), srcList := leaveSource sourceAddr group.srcList })
    groups

def McastPort.group (port : McastPort) (groupAddr : Nat) : Option MtMcastGroupEntry :=
  port.groupList.find? (fun group => decide (group.groupIp = groupAddr))

/-- The group, with the source if there is one, is joined already, so that no report is sent. -/
def McastPort.found (groupAddr sourceAddr : Nat) : Bool :=
  match port.group groupAddr with
  | none => false
  | some group => decide (sourceAddr = 0) || group.srcList.any (fun src => decide (src.srcIp = sourceAddr))

/-! ## Calls -/

/-- `mt_mcast_join` -/
def mtMcastJoin (groupAddr sourceAddr : Nat) (sent : Bool) : McastPort × Except Errno Unit :=
  if port.config.noMulticast then (port, .ok ())
  else if port.config.mcastInDp then (port, .ok ())
  else if 60 ≤ port.groupNum then (port, .error .io)
  else
    let known := (port.group groupAddr).isSome
    ({ port with
        mcastMacLists :=
          if known || port.config.useKernelCtl then port.mcastMacLists
          else (mcastInfAddMac port.mcastMacLists (mtMcastIpToMac groupAddr) true).1
        groupList := joinGroup groupAddr sourceAddr port.groupList
        groupNum := if known then port.groupNum else u16 (port.groupNum + 1) },
      if port.found groupAddr sourceAddr || sent then .ok () else .error .io)

/-- `mt_mcast_leave`; the report of a leave that fails changes only what is returned. -/
def mtMcastLeave (groupAddr sourceAddr : Nat) : McastPort :=
  if port.config.noMulticast || port.config.mcastInDp then port
  else if port.groupNum = 0 then port
  else
    match port.group groupAddr with
    | none => port
    | some group =>
      let deleted := decide (u16 ((group.groupRefCnt : Int) - 1) = 0)
      { port with
        mcastMacLists :=
          if deleted && !port.config.useKernelCtl then
            (mcastInfRemoveMac port.mcastMacLists (mtMcastIpToMac groupAddr) true).1
          else port.mcastMacLists
        groupList := leaveGroup groupAddr sourceAddr port.groupList
        groupNum := if deleted then u16 ((port.groupNum : Int) - 1) else port.groupNum }

/-- `mt_mcast_l2_join` -/
def mtMcastL2Join (addr : EtherAddr) (taken : Bool) : McastPort × Except Errno Unit :=
  if port.config.useKernelCtl then (port, .ok ())
  else
    match mcastInfAddMac port.mcastMacLists addr taken with
    | (macs, ret) => ({ port with mcastMacLists := macs }, ret)

/-- `mt_mcast_l2_leave` -/
def mtMcastL2Leave (addr : EtherAddr) (taken : Bool) : McastPort × Except Errno Unit :=
  if port.config.useKernelCtl then (port, .ok ())
  else
    match mcastInfRemoveMac port.mcastMacLists addr taken with
    | (macs, ret) => ({ port with mcastMacLists := macs }, ret)

/-- Calls in any order; a leave of a group matches a join that succeeded. -/
def mcastStep : McastInput -> McastPort
  | .join groupAddr sourceAddr sent =>
    match mtMcastJoin port groupAddr sourceAddr sent with
    | (port, .ok _) => { port with joined := (groupAddr, sourceAddr) :: port.joined }
    | (port, .error _) => port
  | .leave groupAddr sourceAddr _ =>
    if (groupAddr, sourceAddr) ∈ port.joined then
      { mtMcastLeave port groupAddr sourceAddr with joined := port.joined.erase (groupAddr, sourceAddr) }
    else
      port
  | .l2Join addr taken =>
    match mtMcastL2Join port addr taken with
    | (port, .ok _) => { port with l2Joined := addr :: port.l2Joined }
    | (port, .error _) => port
  | .l2Leave addr taken => { (mtMcastL2Leave port addr taken).1 with l2Joined := port.l2Joined.erase addr }

/-- `mt_mcast_init` -/
def mcastInit (config : McastConfig) : McastPort where
  config := config
  mcastMacLists :=
    if config.noMulticast || config.mcastInDp || config.useKernelCtl then []
    else (mcastInfAddMac [] mcastMacAll true).1
  groupList := []
  groupNum := 0
  joined := []
  l2Joined := []

/-! ## What is promised -/

def McastPort.joins (groupAddr : Nat) : Nat :=
  port.joined.countP (fun pair => decide (pair.1 = groupAddr))

/-- The outstanding joins of a source of a group; zero stands for no source. -/
def McastPort.joinsFrom (groupAddr sourceAddr : Nat) : Nat :=
  if sourceAddr = 0 then 0 else port.joined.count (groupAddr, sourceAddr)

def McastPort.Wanted (mac : EtherAddr) : Prop :=
  mac = mcastMacAll ∨ (exists pair, pair ∈ port.joined ∧ mtMcastIpToMac pair.1 = mac) ∨ mac ∈ port.l2Joined

/-- The groups and sources are those that are joined, each counted as often as it is joined, and where the
library has the interface it listens to what is wanted. -/
structure McastPort.Right (port : McastPort) : Prop where
  groups : Tallies MtMcastGroupEntry.groupIp MtMcastGroupEntry.groupRefCnt port.joins port.groupList
  sources : ∀ group ∈ port.groupList,
    Tallies MtMcastSrcEntry.srcIp MtMcastSrcEntry.srcRefCnt (port.joinsFrom group.groupIp) group.srcList
  groupNum : port.groupNum = port.groupList.length
  macs : port.config.useKernelCtl = false ->
    port.mcastMacLists.Nodup ∧ forall mac, mac ∈ port.mcastMacLists ↔ port.Wanted mac

def McastPort.managed : Bool :=
  !port.config.noMulticast && !port.config.mcastInDp

def McastPort.OwnMac (groupAddr : Nat) : Prop :=
  mtMcastIpToMac groupAddr ≠ mcastMacAll ∧ mtMcastIpToMac groupAddr ∉ port.l2Joined ∧
    ∀ pair ∈ port.joined, pair.1 ≠ groupAddr -> mtMcastIpToMac pair.1 ≠ mtMcastIpToMac groupAddr

/-- A join's count does not wrap and its report is sent; the last leave of a group and a layer-2 leave find
nobody else who wants the address; and the driver takes the address of a layer-2 join. -/
def McastSafe : McastInput -> Prop
  | .join groupAddr sourceAddr sent =>
    port.groupNum < 60 -> port.joins groupAddr < 65535 ∧ (port.found groupAddr sourceAddr || sent) = true
  | .leave groupAddr sourceAddr _ =>
    port.config.useKernelCtl = false -> (groupAddr, sourceAddr) ∈ port.joined -> port.joins groupAddr = 1 ->
      port.OwnMac groupAddr
  | .l2Join addr taken => port.config.useKernelCtl = false -> addr ∈ port.mcastMacLists ∨ taken = true
  | .l2Leave addr _ =>
    port.config.useKernelCtl = false -> addr ≠ mcastMacAll ∧
      (∀ pair ∈ port.joined, mtMcastIpToMac pair.1 ≠ addr) ∧ port.l2Joined.count addr ≤ 1

end MediaTransport.Net
