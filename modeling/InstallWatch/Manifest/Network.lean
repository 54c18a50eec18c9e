import InstallWatch.Schema.Record

/-!
Static network state: interfaces with addresses of both families. Whatever else the state says is kept as it
is.
-/

namespace InstallWatch
open InstallWatch.Schema

structure AddressEntry where
  ip : String
  prefixLength : Option Int
  kept : Extras

namespace AddressEntry

def title : String := "IPAddressEntry"

def check : Data → Checked AddressEntry :=
  keepingRecord title fun es =>
    AddressEntry.mk <$> required es ["ip"] text
      <*> field es ["prefix-length", "prefix_length"] none (optional whole)
      <*> extras [["ip"], ["prefix-length", "prefix_length"]] es

def write (e : AddressEntry) : Data :=
  written [("ip", .text e.ip), ("prefix_length", writtenOption .int e.prefixLength)] e.kept

end AddressEntry

structure AddressFamily where
  enabled : Option Bool
  address : Option (List AddressEntry)
  kept : Extras

namespace AddressFamily

def title : String := "IPFamilyConfig"

def check : Data → Checked AddressFamily :=
  keepingRecord title fun es =>
    AddressFamily.mk <$> field es ["enabled"] none (optional flag)
      <*> field es ["address"] none (optional (list AddressEntry.check))
      <*> extras [["enabled"], ["address"]] es

def write (f : AddressFamily) : Data :=
  written [("enabled", writtenOption .bool f.enabled),
    ("address", writtenOption (fun as => .list (as.map AddressEntry.write)) f.address)] f.kept

/-- The texts of the addresses, in order; none if the family is switched off. -/
def addresses (f : AddressFamily) : List String :=
  if f.enabled = some false then []
  else ((f.address.getD []).map (·.ip)).filter (· ≠ "")

end AddressFamily

structure Interface where
  name : Option String
  type : Option String
  ipv4 : Option AddressFamily
  ipv6 : Option AddressFamily
  kept : Extras

namespace Interface

def title : String := "InterfaceConfig"

def check : Data → Checked Interface :=
  keepingRecord title fun es =>
    Interface.mk <$> field es ["name"] none (optional text)
      <*> field es ["type"] none (optional text)
      <*> field es ["ipv4"] none (optional AddressFamily.check)
      <*> field es ["ipv6"] none (optional AddressFamily.check)
      <*> extras [["name"], ["type"], ["ipv4"], ["ipv6"]] es

def write (i : Interface) : Data :=
  written [("name", writtenOption .text i.name), ("type", writtenOption .text i.type),
    ("ipv4", writtenOption AddressFamily.write i.ipv4),
    ("ipv6", writtenOption AddressFamily.write i.ipv6)] i.kept

end Interface

structure NetworkState where
  interfaces : Option (List Interface)
  kept : Extras

namespace NetworkState

def empty : NetworkState := ⟨none, []⟩

def title : String := "NetworkState"

def check : Data → Checked NetworkState :=
  keepingRecord title fun es =>
    NetworkState.mk <$> field es ["interfaces"] none (optional (list Interface.check))
      <*> extras [["interfaces"]] es

def write (s : NetworkState) : Data :=
  written [("interfaces",
    writtenOption (fun is => .list (is.map Interface.write)) s.interfaces)] s.kept

/-- The texts of all addresses: IPv4 before IPv6, each in interface order. -/
def addresses (s : NetworkState) : List String :=
  let interfaces := s.interfaces.getD []
  let of (family : Interface → Option AddressFamily) : List String :=
    interfaces.flatMap fun i => ((family i).map AddressFamily.addresses).getD []
  of Interface.ipv4 ++ of Interface.ipv6

end InstallWatch.NetworkState
