import GraphBlocks.CallbackUrl

namespace GraphBlocks.CallbackUrl
open IpAddresses List

inductive Host where
 | name (text:List Char)
 | literal (text:List Char)

def Host.text : Host→List Char
 | .name text=>text
 | .literal text=>text

/-- What stands between the scheme and the path, the query or the fragment. -/
def authorityOf (url:List Char) : List Char :=
 (url.drop "https://".length).takeWhile fun c=>c != '/' && c != '?' && c != '#'

def hostOf (url:List Char) : Host :=
 let place:=(authorityOf url).rtakeWhile fun c=>c != '@'
 if place.head?=some '[' then .literal (place.tail.takeWhile fun c=>c != ']')
 else .name (place.takeWhile fun c=>c != ':')

/-- The address that a host denotes under any of its spellings; a name may end in dots. -/
def Host.address : Host→Option IpAddr
 | .name text=>(inetAton (text.rdropWhile fun c=>c == '.')).map .v4
 | .literal text=>(parseIpv6 text).map .v6

def embedded (address:Ipv6Addr) : Option Ipv4Addr :=
 address.toIpv4Mapped.or address.toIpv4Compatible

def forbidden4 (address:Ipv4Addr) : Bool :=
 address.isUnspecified||address.isLoopback||address.isPrivate||address.isLinkLocal ||
  address.isShared||address.isBenchmarking||address.isDocumentation ||
  address.isReserved||address.isMulticast

def forbidden6 (address:Ipv6Addr) : Bool :=
 address.isUnspecified||address.isLoopback||address.isUniqueLocal ||
  address.isUnicastLinkLocal||address.isBenchmarking||address.isDocumentation ||
  address.isReserved||address.isMulticast

/-- The addresses that no callback may reach. -/
def forbidden : IpAddr→Bool
 | .v4 address=>forbidden4 address
 | .v6 address=>(embedded address).elim (forbidden6 address) forbidden4

/-- The forbidden blocks that the compiler does not look for. -/
def unchecked : IpAddr→Bool
 | .v4 address=>address.isBenchmarking||address.isDocumentation
 | .v6 address=>
  (embedded address).elim
   (address.isBenchmarking||address.isDocumentation||address.isReserved)
   fun inner=>inner.isBenchmarking||inner.isDocumentation

def isControl (c:Char) : Bool := decide (c.toNat<32∨127≤c.toNat∧c.toNat<160)

def isBlankChar (c:Char) : Bool := isControl c||RustStd.isWhitespace c

/-- The URL denotes no forbidden host and has no user info, fragment or blank. -/
structure Permitted (url:List Char) : Prop where
 names:normalized (hostOf url).text ≠ "localhost".toList ∧
  ".localhost".toList.isSuffixOf (normalized (hostOf url).text)=false ∧
  normalized (hostOf url).text ≠ "metadata.google.internal".toList
 addresses:∀address,(hostOf url).address=some address→forbidden address=false
 userInfo : '@' ∉ authorityOf url
 fragment : '#' ∉ url
 blanks:∀c∈url,isBlankChar c=false

/-- A number of `inet_aton` that is a bare `0x`. -/
def isBareMark : List Char→Bool
 | [c,d]=>c == '0' && isHexMark d
 | _=>false

/-- The URLs that the compiler lets through though they are not permitted: a control or
white-space character beyond ASCII, a literal address of a block left out, and a bare `0x`
in the numbers of an address. -/
inductive Overlooked (url:List Char) : Prop where
 | blank (c:Char) (inside:c∈url) (beyond:128≤c.toNat) (blank:isBlankChar c=true)
 | block (address:IpAddr) (denoted:(hostOf url).address=some address)
   (inside:unchecked address=true)
 | bareMark (text:List Char) (address:IpAddr) (named:hostOf url=.name text)
   (marked:((text.rdropWhile fun c=>c == '.').splitOn '.').any isBareMark=true)
   (denoted:(hostOf url).address=some address) (outside:forbidden address=true)

lemma octets_of_shared(address:Ipv4Addr):address.isShared =
  (address.octet 0==100&&decide (64≤address.octet 1)&&decide (address.octet 1≤127)):=by
 have bound:=address.bound
 rw [Bool.eq_iff_iff]
 simp only [Bool.and_eq_true,decide_eq_true_eq,beq_iff_eq]
 simp only [Ipv4Addr.isShared,Net.holds,net4,Ipv4Addr.octet,beq_iff_eq,Nat.reduceSub,
  Nat.reduceMul,Nat.reducePow,Nat.reduceAdd,Nat.reduceDiv]
 omega

lemma octets_of_reserved(address:Ipv4Addr):(address.isReserved||address.isMulticast) =
   (address.octet 0==0||decide (224≤address.octet 0)):=by
 have bound:=address.bound
 rw [Bool.eq_iff_iff]
 simp only [Bool.or_eq_true,decide_eq_true_eq,beq_iff_eq]
 simp only [Ipv4Addr.isReserved,Ipv4Addr.isMulticast,Net.holds,net4,Ipv4Addr.octet,
  Bool.or_eq_true,beq_iff_eq,Nat.reduceSub,Nat.reduceMul,Nat.reducePow,Nat.reduceAdd,
  Nat.reduceDiv]
 omega

lemma forbidden4_eq(address:Ipv4Addr):forbidden4 address =
  (forbiddenIpv4 address||(address.isBenchmarking||address.isDocumentation)):=by
 have reserved:=octets_of_reserved address
 rw [forbiddenIpv4,Bool.or_assoc _ (address.octet 0==0),←reserved,←octets_of_shared,forbidden4]
 ac_rfl

lemma segments_zero(address:Ipv6Addr):
  ((List.range 6).all fun i=>address.segment i==0)=true↔address.bits/2^32=0:=by
 have bound:=address.bound
 simp only [List.range,List.range.loop,all_cons,all_nil,Ipv6Addr.segment,
  Bool.and_eq_true,beq_iff_eq,and_true,Nat.reduceSub,Nat.reduceMul,Nat.reducePow]
 omega

lemma compatible_low(address:Ipv6Addr):compatibleAddress address=address.lowIpv4:=by
 have bits:(compatibleAddress address).bits=address.bits % 2^32:=by
  simp only [compatibleAddress,Ipv4Addr.ofOctets,asU8,Ipv6Addr.segment,Nat.reduceSub,
   Nat.reduceMul,Nat.reducePow]
  omega
 exact (Ipv4Addr.mk.injEq _ _ _ _).mpr bits

lemma forbidden6_eq(address:Ipv6Addr):forbidden6 address =
  ((address.isLoopback||address.isUniqueLocal||address.isUnicastLinkLocal ||
   address.isMulticast||address.isUnspecified) ||
   (address.isBenchmarking||address.isDocumentation||address.isReserved)):=by
 rw [forbidden6]
 ac_rfl

lemma ipv6IsUnsafe_eq(address:Ipv6Addr):ipv6IsUnsafe address=(embedded address).elim
   (address.isLoopback||address.isUniqueLocal||address.isUnicastLinkLocal ||
    address.isMulticast||address.isUnspecified) forbiddenIpv4:=by
 unfold ipv6IsUnsafe embedded
 cases mapped:address.toIpv4Mapped with
 | some inner=>rfl
 | none=>
  rw [Option.none_or,Ipv6Addr.toIpv4Compatible,compatible_low]
  simp only [segments_zero]
  split <;>rfl

lemma forbidden_eq(address:IpAddr):
  forbidden address=(addressIsUnsafe address||unchecked address):=by
 cases address with
 | v4 address=>exact forbidden4_eq address
 | v6 address=>
  rw [forbidden,addressIsUnsafe,unchecked,ipv6IsUnsafe_eq]
  cases embedded address with
  | none=>exact forbidden6_eq address
  | some inner=>exact forbidden4_eq inner

end GraphBlocks.CallbackUrl
