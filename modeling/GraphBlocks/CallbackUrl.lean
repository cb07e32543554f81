import GraphBlocks.AddressTexts
import GraphBlocks.StoredJson

/-! `callback_url_is_unsafe` of the compiler, which takes the authority of a URL apart by hand and
looks at the host as a name, as an address and as the numbers of an address. -/
namespace GraphBlocks.CallbackUrl
open StoredJson NumberEncoding IpAddresses

/-- `str::strip_prefix` -/
def stripStart (start text:List Char) : Option (List Char) :=
 if start.isPrefixOf text then some (text.drop start.length) else none

/-- `from_str_radix` of an unsigned integer below the limit. -/
def parseUnsigned (base limit:ℕ) (text:List Char) : Option ℕ :=
 let digits:=if text.head?=some '+' then text.tail else text
 if digits.isEmpty then none else (number base digits).filter (· < limit)

def portIsInvalid (port:List Char) : Bool := port.isEmpty||(parseUnsigned 10 (2^16) port).isNone

/-- `trim_end_matches('.').to_ascii_lowercase()` -/
def normalized (host:List Char) : List Char := (host.rdropWhile (· == '.')).map Char.toLower

/-- What may follow the closing bracket. -/
def suffixIsInvalid (suffix:List Char) : Bool :=
 !suffix.isEmpty&&(suffix.head? != some ':' || portIsInvalid suffix.tail)

def bracketedHost (rest:List Char) : Option (List Char) :=
 match splitOnce (· == ']') rest with
 | none=>none
 | some (host,suffix)=>
  if host.contains '%' || (parseIpv6 host).isNone||suffixIsInvalid suffix then none
  else some (normalized host)

def labelIsInvalid (label:List Char) : Bool :=
 label.isEmpty||label.head?==some '-' || label.getLast?==some '-'

def isHostChar (c:Char) : Bool := c.isAlphanum||c == '-' || c == '.'

def nameIsInvalid (host:List Char) : Bool :=
 host.contains ':' || !host.all isHostChar||(host.splitOn '.').any labelIsInvalid

def withoutPort (authority:List Char) : Option (List Char) :=
 match splitOnce (· == ':') authority with
 | some (host,port)=>if portIsInvalid port then none else some host
 | none=>some authority

def namedHost (authority:List Char) : Option (List Char) :=
 (withoutPort authority).bind fun host=>
  if nameIsInvalid (normalized host) then none else some (normalized host)

/-- The host of an authority, if the authority is well formed and has no user info. -/
def checkedHost (authority:List Char) : Option (List Char) :=
 if authority.isEmpty||authority.contains '@' then none
 else if authority.head?=some '[' then bracketedHost authority.tail
 else namedHost authority

def forbiddenIpv4 (address:Ipv4Addr) : Bool :=
 address.isLoopback||address.isPrivate||address.isLinkLocal||address.isMulticast ||
  address.isUnspecified||address.octet 0==0||decide (224≤address.octet 0) ||
  (address.octet 0==100&&decide (64≤address.octet 1)&&decide (address.octet 1≤127))

def asU8 (n:ℕ) : Fin (2^8) := ⟨n % 2^8,Nat.mod_lt _ (by decide)⟩

def compatibleAddress (address:Ipv6Addr) : Ipv4Addr :=
 Ipv4Addr.ofOctets (asU8 (address.segment 6/2^8)) (asU8 (address.segment 6))
  (asU8 (address.segment 7/2^8)) (asU8 (address.segment 7))

def ipv6IsUnsafe (address:Ipv6Addr) : Bool :=
 match address.toIpv4Mapped with
 | some mapped=>forbiddenIpv4 mapped
 | none=>
  if (List.range 6).all fun i=>address.segment i==0 then forbiddenIpv4 (compatibleAddress address)
  else
   address.isLoopback||address.isUniqueLocal||address.isUnicastLinkLocal ||
    address.isMulticast||address.isUnspecified

def addressIsUnsafe : IpAddr→Bool
 | .v4 address=>forbiddenIpv4 address
 | .v6 address=>ipv6IsUnsafe address

def numericIpv4 (host:List Char) : Option Ipv4Addr :=
 match stripStart ['0','x'] host with
 | some hex=>(parseUnsigned 16 (2^32) hex).bind Ipv4Addr.ofNat?
 | none=>if host.all Char.isDigit then (parseUnsigned 10 (2^32) host).bind Ipv4Addr.ofNat? else none

def isLegacyComponent (component:List Char) : Bool :=
 if component.isEmpty then false
 else
  match (stripStart ['0','x'] component).or (stripStart ['0','X'] component) with
  | none=>component.all Char.isDigit
  | some digits => !digits.isEmpty&&digits.all Char.isHexDigit

def looksLikeLegacyIpv4 (host:List Char) : Bool :=
 let components:=host.splitOn '.'
 !components.isEmpty&&decide (components.length≤4)&&components.all isLegacyComponent

def hostIsUnsafe (host:List Char) : Bool :=
 host.isEmpty||host == "localhost".toList || ".localhost".toList.isSuffixOf host ||
  host == "metadata.google.internal".toList ||
  match parseIpAddr host with
  | none=>(numericIpv4 host).any forbiddenIpv4||looksLikeLegacyIpv4 host
  | some address=>addressIsUnsafe address

def isBlankByte (c:Char) : Bool := decide (c.toNat≤32)||c.toNat==127

def endsAuthority (c:Char) : Bool := c == '/' || c == '?'

def textIsUnsafe (url:String) : Bool :=
 if RustStd.trim url≠url then true
 else
  match stripStart "https://".toList url.toList with
  | none=>true
  | some rest=>
   if rest.contains '#' || rest.any isBlankByte then true
   else
    match checkedHost (rest.takeWhile fun c => !endsAuthority c) with
    | none=>true
    | some host=>hostIsUnsafe host

def callbackUrlIsUnsafe (url:Option Json.Value) : Bool :=
 match url.bind asString with
 | none=>true
 | some url=>textIsUnsafe url

end GraphBlocks.CallbackUrl
