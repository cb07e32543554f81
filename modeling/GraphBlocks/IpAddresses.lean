import Mathlib.Data.List.Basic
import Mathlib.Tactic

namespace GraphBlocks.IpAddresses
open List

structure Ipv4Addr where
 bits:ℕ
 bound:bits<2^32
deriving DecidableEq

structure Ipv6Addr where
 bits:ℕ
 bound:bits<2^128
deriving DecidableEq

inductive IpAddr where
 | v4 (address:Ipv4Addr)
 | v6 (address:Ipv6Addr)
deriving DecidableEq

/-- The addresses, of `width` bits, that begin with the first `length` bits of `base`. -/
structure Net where
 width:ℕ
 base:ℕ
 length:ℕ

def Net.holds (net:Net) (bits:ℕ) : Bool :=
 bits/2^(net.width-net.length)==net.base/2^(net.width-net.length)

/-- The block `a.b.c.d/length`. -/
def net4 (a b c d length:ℕ) : Net := ⟨32,((a*2^8+b)*2^8+c)*2^8+d,length⟩

/-- The block `a:b:c::/length`. -/
def net6 (a b c length:ℕ) : Net := ⟨128,((a*2^16+b)*2^16+c)*2^80,length⟩

namespace Ipv4Addr

def ofNat? (n:ℕ) : Option Ipv4Addr := if h : n<2^32 then some ⟨n,h⟩ else none

lemma ofOctets_bound(a b c d:Fin (2^8)):((a.val*2^8+b)*2^8+c)*2^8+d<2^32:=by
 have ha:=a.isLt
 have hb:=b.isLt
 have hc:=c.isLt
 have hd:=d.isLt
 omega

def ofOctets (a b c d:Fin (2^8)) : Ipv4Addr := ⟨_,ofOctets_bound a b c d⟩

variable (address:Ipv4Addr)

def octet (i:ℕ) : ℕ := address.bits/2^(8*(3-i)) % 2^8

def isUnspecified : Bool := (net4 0 0 0 0 32).holds address.bits

def isLoopback : Bool := (net4 127 0 0 0 8).holds address.bits

def isPrivate : Bool :=
 (net4 10 0 0 0 8).holds address.bits||(net4 172 16 0 0 12).holds address.bits ||
  (net4 192 168 0 0 16).holds address.bits

def isLinkLocal : Bool := (net4 169 254 0 0 16).holds address.bits

def isMulticast : Bool := (net4 224 0 0 0 4).holds address.bits

def isShared : Bool := (net4 100 64 0 0 10).holds address.bits

def isBenchmarking : Bool := (net4 198 18 0 0 15).holds address.bits

def isDocumentation : Bool :=
 (net4 192 0 2 0 24).holds address.bits||(net4 198 51 100 0 24).holds address.bits ||
  (net4 203 0 113 0 24).holds address.bits

/-- The addresses of this network and those kept for the future. -/
def isReserved : Bool := (net4 0 0 0 0 8).holds address.bits||(net4 240 0 0 0 4).holds address.bits

end Ipv4Addr

namespace Ipv6Addr

/-- The number that groups of 16 bits write. -/
def groupsValue (groups:List (Fin (2^16))) : ℕ := groups.foldl (fun acc group=>acc*2^16+group.val) 0

lemma foldl_groups_lt(groups:List (Fin (2^16)))(acc bound:ℕ)(h:acc<bound):
  groups.foldl (fun acc group=>acc*2^16+group.val) acc < bound*(2^16)^groups.length:=by
 induction groups generalizing acc bound with
 | nil=>simpa using h
 | cons group groups ih=>
  have hgroup:=group.isLt
  have step:acc*2^16+group.val<bound*2^16:=by omega
  have rest:=ih _ _ step
  rw [foldl_cons,length_cons]
  calc _<bound*2^16*(2^16)^groups.length:=rest
   _=bound*(2^16)^(groups.length+1):=by ring

lemma groupsValue_lt{groups:List (Fin (2^16))}(h:groups.length=8):groupsValue groups<2^128:=by
 have hlt:=foldl_groups_lt groups 0 1 Nat.one_pos
 rw [h] at hlt
 simpa [groupsValue] using hlt

def ofGroups (groups:List (Fin (2^16))) : Option Ipv6Addr :=
 if h : groups.length=8 then some ⟨groupsValue groups,groupsValue_lt h⟩ else none

variable (address:Ipv6Addr)

def segment (i:ℕ) : ℕ := address.bits/2^(16*(7-i)) % 2^16

def lowIpv4 : Ipv4Addr := ⟨address.bits % 2^32,Nat.mod_lt _ (by decide)⟩

/-- `::ffff:a.b.c.d` -/
def toIpv4Mapped : Option Ipv4Addr :=
 if address.bits/2^32=0xffff then some address.lowIpv4 else none

def toIpv4Compatible : Option Ipv4Addr := if address.bits/2^32=0 then some address.lowIpv4 else none

def isUnspecified : Bool := address.bits==0

def isLoopback : Bool := address.bits==1

def isMulticast : Bool := (net6 0xff00 0 0 8).holds address.bits

def isUniqueLocal : Bool := (net6 0xfc00 0 0 7).holds address.bits

def isUnicastLinkLocal : Bool := (net6 0xfe80 0 0 10).holds address.bits

def isBenchmarking : Bool := (net6 0x2001 2 0 48).holds address.bits

def isDocumentation : Bool :=
 (net6 0x2001 0xdb8 0 32).holds address.bits||(net6 0x3fff 0 0 20).holds address.bits

/-- The addresses outside the blocks assigned to unicast, local and multicast use. -/
def isReserved : Bool :=
 !((net6 0x2000 0 0 3).holds address.bits||address.isUniqueLocal ||
  address.isUnicastLinkLocal||address.isMulticast)

end Ipv6Addr

end GraphBlocks.IpAddresses
