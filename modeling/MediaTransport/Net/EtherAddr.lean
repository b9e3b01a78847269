import MediaTransport.Library.Word

namespace MediaTransport.Net

open Library

/-!
# Ethernet addresses

Addresses of stations, and of the groups that a multicast address of IPv4 stands for:
23 bits of the IP address are kept, so that 32 groups share one.
-/

/-- `struct rte_ether_addr` -/
structure EtherAddr where
  addrBytes : List Byte
  length_eq : addrBytes.length = 6
  deriving DecidableEq

def EtherAddr.zero : EtherAddr :=
  ⟨[0, 0, 0, 0, 0, 0], rfl⟩

/-- The `idx`-th byte of a `uint32_t` in memory. -/
def ipByte (ip idx : Nat) : Byte :=
  BitVec.ofNat 8 (ip / 256 ^ idx)

/-- `mt_mcast_ip_to_mac` -/
def mtMcastIpToMac (ip : Nat) : EtherAddr :=
  ⟨[0x01, 0x00, 0x5e, ipByte ip 1 &&& 0x7f, ipByte ip 2, ipByte ip 3], rfl⟩

/-- `mcast_mac_all`, the address of 224.0.0.1. -/
def mcastMacAll : EtherAddr :=
  ⟨[0x01, 0x00, 0x5e, 0x00, 0x00, 0x01], rfl⟩

end MediaTransport.Net
