import Mathlib.Data.List.Range
import Mathlib.Tactic.Ring

/-!
# IpNetwork

Networks of addresses (`ipaddress.ip_network`), as the number of their first address and the
length of what their addresses share.

* `hosts` — the addresses that hosts may have;
* `length_hosts_le` — no more than the network has addresses.
-/

inductive IpVersion where
  | v4
  | v6
  deriving DecidableEq

def IpVersion.maxPrefixlen : IpVersion → Nat
  | v4 => 32
  | v6 => 128

structure IpNetwork where
  version : IpVersion
  networkAddress : Nat
  prefixlen : Nat
  le_max : prefixlen ≤ version.maxPrefixlen
  deriving DecidableEq

namespace IpNetwork

variable (network : IpNetwork)

/-- `num_addresses` -/
def numAddresses : Nat := 2 ^ (network.version.maxPrefixlen - network.prefixlen)

/-- `hosts()`: not the address of the network itself and, of the older version, not that of the
broadcast, unless the network has one or two addresses only. -/
def hosts : List Nat :=
  let size := network.numAddresses
  if size ≤ 2 then (List.range size).map (network.networkAddress + ·)
  else match network.version with
    | .v4 => (List.range (size - 2)).map (network.networkAddress + 1 + ·)
    | .v6 => (List.range (size - 1)).map (network.networkAddress + 1 + ·)

/-- No network has more hosts than addresses. -/
theorem length_hosts_le : network.hosts.length ≤ network.numAddresses := by
  unfold hosts
  dsimp only
  split
  · rw [List.length_map, List.length_range]
  · split
    · rw [List.length_map, List.length_range]
      omega
    · rw [List.length_map, List.length_range]
      omega

example : (IpNetwork.mk .v4 0xC0A80100 30 (by decide)).hosts = [0xC0A80101, 0xC0A80102] := by
  decide

end IpNetwork
