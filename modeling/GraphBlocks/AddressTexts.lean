import GraphBlocks.IpAddresses

/-! The texts that denote addresses: the canonical ones, which address parsers read, and the one
to four numbers of `inet_aton`, which resolvers read besides. -/
namespace GraphBlocks.IpAddresses
open List

section
variable {α β:Type}

def readAll (f:α→Option β) : List α→Option (List β)
 | []=>some []
 | a::l=>(f a).bind fun b=>(readAll f l).map fun bs=>b::bs

variable {f:α→Option β} {l:List α}

lemma readAll_congr{γ:Type}{g:γ→Option β}{h:α→γ}(same:∀a∈l,f a=g (h a)):
  readAll f l=readAll g (l.map h):=by
 induction l with
 | nil=>rfl
 | cons a l ih=>
  have rest:=ih fun b hb=>same b (mem_cons_of_mem a hb)
  simp [readAll,same a (by simp),rest]

variable {bs:List β}

lemma readAll_source(h:readAll f l=some bs){a:α}(ha:a∈l):∃b,f a=some b:=by
 induction l generalizing bs with
 | nil=>cases ha
 | cons first l ih=>
  obtain ⟨b,hb,rest⟩:=Option.bind_eq_some_iff.mp h
  obtain ⟨others,hothers,-⟩:=Option.map_eq_some_iff.mp rest
  rcases mem_cons.mp ha with rfl|ha
  · exact ⟨b,hb⟩
  · exact ih hothers ha

lemma readAll_length(h:readAll f l=some bs):bs.length=l.length:=by
 induction l generalizing bs with
 | nil=>
  cases h
  rfl
 | cons a l ih=>
  obtain ⟨b,-,rest⟩:=Option.bind_eq_some_iff.mp h
  obtain ⟨others,hothers,rfl⟩:=Option.map_eq_some_iff.mp rest
  simp [ih hothers]

lemma readAll_imp{γ:Type}{g:α→Option γ}{r:β→γ}(imp:∀a b,f a=some b→ g a=some (r b))
  (h:readAll f l=some bs):readAll g l=some (bs.map r):=by
 induction l generalizing bs with
 | nil=>
  cases h
  rfl
 | cons a l ih=>
  obtain ⟨b,hb,rest⟩:=Option.bind_eq_some_iff.mp h
  obtain ⟨others,hothers,rfl⟩:=Option.map_eq_some_iff.mp rest
  simp [readAll,imp a b hb,ih hothers]

lemma readAll_append_none{a:α}(h:f a=none)(l:List α):readAll f (l++[a])=none:=by
 induction l with
 | nil=>simp [readAll,h]
 | cons b l ih=>simp [readAll,ih]

def digitOf (c:Char) : Option ℕ :=
 if 48≤c.toNat∧c.toNat≤57 then some (c.toNat-48)
 else if 97≤c.toNat∧c.toNat≤102 then some (c.toNat-87)
 else if 65≤c.toNat∧c.toNat≤70 then some (c.toNat-55)
 else none

def numberFrom (base:ℕ) : ℕ→List Char→Option ℕ
 | acc, []=>some acc
 | acc, c::cs=>(digitOf c).bind fun d=>if d<base then numberFrom base (acc*base+d) cs else none

def number (base:ℕ) (cs:List Char) : Option ℕ := numberFrom base 0 cs

lemma numberFrom_digits{base acc n:ℕ}{cs:List Char}(h:numberFrom base acc cs=some n):
  ∀c∈cs,∃d,digitOf c=some d∧d<base:=by
 induction cs generalizing acc with
 | nil=>simp
 | cons c cs ih=>
  obtain ⟨d,hd,rest⟩:=Option.bind_eq_some_iff.mp h
  split at rest
  · next small=>
    intro other hother
    rcases mem_cons.mp hother with rfl|hother
    · exact ⟨d,hd,small⟩
    · exact ih rest other hother
  · cases rest

lemma digitOf_ten{c:Char}{d:ℕ}(h:digitOf c=some d)(small:d<10):c.isDigit=true:=by
 rw [Char.isDigit_iff_toNat]
 change 48≤c.toNat∧c.toNat≤57
 unfold digitOf at h
 split at h
 · assumption
 · split at h
   · cases h
     omega
   · split at h
     · cases h
       omega
     · cases h

lemma digitOf_hex{c:Char}{d:ℕ}(h:digitOf c=some d):c.isHexDigit=true:=by
 have low:c.isHexDigit=true↔(48≤c.toNat∧c.toNat≤57) ∨
   (97≤c.toNat∧c.toNat≤102)∨(65≤c.toNat∧c.toNat≤70):=by
  simp [Char.isHexDigit,Char.isDigit,UInt32.le_iff_toNat_le,or_assoc]
 rw [low]
 unfold digitOf at h
 split at h
 · exact .inl ‹_›
 · split at h
   · exact .inr (.inl ‹_›)
   · split at h
     · exact .inr (.inr ‹_›)
     · cases h
end

/-- An octet in decimal digits, without leading zeros. -/
def octetOf (cs:List Char) : Option (Fin (2^8)) :=
 if cs≠[]∧cs.length≤3∧(cs.length=1∨cs.head?≠some '0') then
  (number 10 cs).bind fun n=>if h : n<2^8 then some ⟨n,h⟩ else none
 else none

def fourOctets : List (Fin (2^8))→Option Ipv4Addr
 | [a,b,c,d]=>some (Ipv4Addr.ofOctets a b c d)
 | _=>none

/-- `Ipv4Addr::from_str` -/
def parseIpv4 (text:List Char) : Option Ipv4Addr :=
 (readAll octetOf (text.splitOn '.')).bind fourOctets

/-- A group of one to four hexadecimal digits. -/
def groupOf (cs:List Char) : Option (Fin (2^16)) :=
 if cs≠[]∧cs.length≤4 then (number 16 cs).bind fun n=>if h : n<2^16 then some ⟨n,h⟩ else none
 else none

def ipv4Groups (address:Ipv4Addr) : List (Fin (2^16)) :=
 [⟨address.bits/2^16,by have h:=address.bound;omega⟩,
  ⟨address.bits % 2^16,Nat.mod_lt _ (by decide)⟩]

/-- The last group, or the IPv4 address that stands in place of two. -/
def lastGroups (cs:List Char) : Option (List (Fin (2^16))) :=
 match groupOf cs with
 | some group=>some [group]
 | none=>(parseIpv4 cs).map ipv4Groups

def readGroups : List (List Char)→Option (List (Fin (2^16)))
 | []=>some []
 | [last]=>lastGroups last
 | cs::rest=>(groupOf cs).bind fun group=>(readGroups rest).map fun groups=>group::groups

/-- The texts before and after the first `::`. -/
def splitGap : List Char→Option (List Char×List Char)
 | []=>none
 | c::cs=>
  if c = ':' ∧ cs.head?=some ':' then some ([],cs.tail)
  else (splitGap cs).map fun s=>(c::s.1,s.2)

def groupTexts (text:List Char) : List (List Char) := if text=[] then [] else text.splitOn ':'

/-- The groups around a gap, which stands for at least one group of zeros. -/
def fillGap (front back:List (Fin (2^16))) : Option Ipv6Addr :=
 if front.length+back.length≤7 then
  Ipv6Addr.ofGroups (front++List.replicate (8-(front.length+back.length)) 0++back)
 else none

/-- `Ipv6Addr::from_str` -/
def parseIpv6 (text:List Char) : Option Ipv6Addr :=
 match splitGap text with
 | none=>(readGroups (text.splitOn ':')).bind Ipv6Addr.ofGroups
 | some (front,back)=>
  (readAll groupOf (groupTexts front)).bind fun before=>
   (readGroups (groupTexts back)).bind fun after=>fillGap before after

/-- `IpAddr::from_str` -/
def parseIpAddr (text:List Char) : Option IpAddr :=
 match parseIpv4 text with
 | some address=>some (.v4 address)
 | none=>(parseIpv6 text).map .v6

def isHexMark (c:Char) : Bool := c == 'x' || c == 'X'

/-- Hexadecimal after `0x`, octal after `0`, else decimal; a bare `0x` is zero. -/
def atonNumber : List Char→Option ℕ
 | []=>none
 | c::cs=>
  if c ≠ '0' then number 10 (c::cs)
  else if cs.head?.any isHexMark then number 16 cs.tail
  else number 8 cs

/-- The last number fills the octets that the others leave. -/
def atonAddress : List ℕ→Option Ipv4Addr
 | [a]=>Ipv4Addr.ofNat? a
 | [a,b]=>if a<2^8∧b<2^24 then Ipv4Addr.ofNat? (a*2^24+b) else none
 | [a,b,c]=>
  if a<2^8∧b<2^8∧c<2^16 then Ipv4Addr.ofNat? (a*2^24+b*2^16+c)
  else none
 | [a,b,c,d]=>
  if a<2^8∧b<2^8∧c<2^8∧d<2^8 then Ipv4Addr.ofNat? (((a*2^8+b)*2^8+c)*2^8+d)
  else none
 | _=>none

def inetAton (text:List Char) : Option Ipv4Addr :=
 (readAll atonNumber (text.splitOn '.')).bind atonAddress

example : inetAton "0x7f.1".toList=parseIpv4 "127.0.0.1".toList ∧
  (parseIpv6 "::ffff:127.0.0.1".toList).bind Ipv6Addr.toIpv4Mapped =
   parseIpv4 "127.0.0.1".toList := by
 decide +kernel

end GraphBlocks.IpAddresses
