import GraphBlocks.AddressTexts

/-! A canonical dotted quad is a text of `inet_aton`, IPv6 texts contain a colon and do not end in
a dot, and the case of letters does not matter. -/
namespace GraphBlocks.IpAddresses
open List Option

section
variable {α:Type} [BEq α] [LawfulBEq α]

lemma mem_of_splitOn(sep:α){a:α}{l:List α}(h:a∈l):a=sep ∨ ∃part∈l.splitOn sep,a∈part:=by
 induction l with
 | nil=>cases h
 | cons b l ih=>
  rw [splitOn_cons_eq_if_modifyHead]
  rcases mem_cons.mp h with rfl|h
  · by_cases same:a=sep
    · exact .inl same
    · right
      cases parts:l.splitOn sep with
      | nil=>exact absurd parts (splitOn_ne_nil _ _)
      | cons first parts=>exact ⟨a::first,by simp [same],by simp⟩
  · rcases ih h with same|⟨part,hpart,inside⟩
    · exact .inl same
    · right
      split
      · exact ⟨part,by simp [hpart],inside⟩
      · cases parts:l.splitOn sep with
        | nil=>exact absurd parts (splitOn_ne_nil _ _)
        | cons first parts=>
         rw [parts] at hpart
         rcases mem_cons.mp hpart with rfl|hpart
         · exact ⟨b::part,by simp,by simp [inside]⟩
         · exact ⟨part,by simp [hpart],inside⟩

lemma splitOn_concat(sep a:α)(h:a≠sep)(l:List α):∃front last,l.splitOn sep=front++[last] ∧
   (l++[a]).splitOn sep=front++[last++[a]]:=by
 induction l with
 | nil=>
  refine ⟨[],[],by simp,?_⟩
  simp [splitOn_cons_eq_if_modifyHead,h]
 | cons b l ih=>
  obtain ⟨front,last,before,after⟩:=ih
  rw [cons_append,splitOn_cons_eq_if_modifyHead,splitOn_cons_eq_if_modifyHead,before,after]
  split
  · exact ⟨[]::front,last,rfl,rfl⟩
  · cases front with
    | nil=>exact ⟨[],b::last,rfl,rfl⟩
    | cons first front=>exact ⟨(b::first)::front,last,rfl,rfl⟩

lemma splitOn_map{f:α→α}{sep:α}{l:List α}(h:∀a∈l,f a=sep↔a=sep):
  (l.map f).splitOn sep=(l.splitOn sep).map (List.map f):=by
 induction l with
 | nil=>simp
 | cons b l ih=>
  have rest:=ih fun a ha=>h a (mem_cons_of_mem b ha)
  have first:=h b (by simp)
  rw [map_cons,splitOn_cons_eq_if_modifyHead,splitOn_cons_eq_if_modifyHead,rest]
  by_cases same:b=sep
  · rw [if_pos (beq_iff_eq.mpr (first.mpr same)),if_pos (beq_iff_eq.mpr same)]
    rfl
  · have other:f b≠sep:=fun hb=>same (first.mp hb)
    cases parts:l.splitOn sep with
    | nil=>exact absurd parts (splitOn_ne_nil _ _)
    | cons p parts=>simp [same,other]
end

variable {cs:List Char}

lemma octetOf_number{octet:Fin (2^8)}(h:octetOf cs=some octet):
  number 10 cs=some octet.val∧cs≠[]∧(cs.length=1∨cs.head?≠some '0'):=by
 unfold octetOf at h
 split at h
 · next shape=>
   obtain ⟨n,hn,rest⟩:=bind_eq_some_iff.mp h
   split at rest
   · cases rest
     exact ⟨hn,shape.1,shape.2.2⟩
   · cases rest
 · cases h

lemma atonNumber_octet{octet:Fin (2^8)}(h:octetOf cs=some octet): atonNumber cs=some octet.val:=by
 obtain ⟨value,nonempty,shape⟩:=octetOf_number h
 cases cs with
 | nil=>exact absurd rfl nonempty
 | cons c cs=>
  rw [atonNumber]
  split
  · exact value
  · next zero=>
    rw [not_not] at zero
    have alone:cs=[]:=by
     rcases shape with shape|shape
     · simpa using shape
     · simp [zero] at shape
    rw [alone] at value ⊢
    rw [zero] at value
    exact value

variable {text:List Char}

lemma inetAton_of_parseIpv4{address:Ipv4Addr}(h:parseIpv4 text=some address):
  inetAton text=some address:=by
 obtain ⟨octets,read,quad⟩:=bind_eq_some_iff.mp h
 have numbers:=readAll_imp (fun _ _=>atonNumber_octet) read
 unfold fourOctets at quad
 split at quad
 · next a b c d=>
   cases quad
   have small:a.val<2^8∧b.val<2^8∧c.val<2^8∧d.val<2^8:=⟨a.isLt,b.isLt,c.isLt,d.isLt⟩
   rw [inetAton,numbers]
   change atonAddress [a.val,b.val,c.val,d.val]=_
   rw [atonAddress,if_pos small,Ipv4Addr.ofNat?,dif_pos (Ipv4Addr.ofOctets_bound a b c d)]
   rfl
 · cases quad

lemma parseIpv4_chars{address:Ipv4Addr}(h:parseIpv4 text=some address):
  ∀c∈text,c = '.' ∨ c.isDigit=true:=by
 obtain ⟨octets,read,-⟩:=bind_eq_some_iff.mp h
 intro c hc
 rcases mem_of_splitOn '.' hc with same | ⟨part,hpart,inside⟩
 · exact .inl same
 · obtain ⟨octet,hoctet⟩:=readAll_source read hpart
   obtain ⟨d,hd,small⟩:=numberFrom_digits (octetOf_number hoctet).1 c inside
   exact .inr (digitOf_ten hd small)

lemma parseIpv4_colon(h : ':' ∈ text):parseIpv4 text=none:=by
 by_contra some'
 obtain ⟨address,haddress⟩:=ne_none_iff_exists'.mp some'
 rcases parseIpv4_chars haddress ':' h with same | digit
 · cases same
 · cases digit

lemma parseIpv4_dot(text:List Char):parseIpv4 (text++['.'])=none:=by
 have empty:octetOf []=none:=rfl
 rw [parseIpv4,splitOn_append_cons_self,splitOn_nil,readAll_append_none empty]
 rfl

lemma splitGap_none(h : ':' ∉ text):splitGap text=none:=by
 induction text with
 | nil=>rfl
 | cons c cs ih=>
  have first:c ≠ ':' := fun hc=>h (by simp [hc])
  have rest:=ih fun hcs=>h (mem_cons_of_mem c hcs)
  simp [splitGap,first,rest]

lemma lastGroups_length{groups:List (Fin (2^16))}(h:lastGroups cs=some groups): groups.length≤2:=by
 unfold lastGroups at h
 split at h
 · cases h
   simp
 · obtain ⟨address,-,rfl⟩:=map_eq_some_iff.mp h
   simp [ipv4Groups]

lemma parseIpv6_colon{address:Ipv6Addr}(h:parseIpv6 text=some address) : ':' ∈ text:=by
 by_contra none'
 rw [parseIpv6,splitGap_none none',splitOn_eq_singleton none'] at h
 obtain ⟨groups,read,full⟩:=bind_eq_some_iff.mp h
 have short:=lastGroups_length read
 unfold Ipv6Addr.ofGroups at full
 split at full
 · omega
 · cases full

lemma parseIpAddr_v6{address:Ipv6Addr}(h:parseIpv6 text=some address):
  parseIpAddr text=some (.v6 address):=by
 rw [parseIpAddr,parseIpv4_colon (parseIpv6_colon h),h]
 rfl

lemma parseIpAddr_v4(h : ':' ∉ text):parseIpAddr text=(parseIpv4 text).map .v4:=by
 have none':parseIpv6 text=none:=by
  by_contra some'
  obtain ⟨address,haddress⟩:=ne_none_iff_exists'.mp some'
  exact h (parseIpv6_colon haddress)
 unfold parseIpAddr
 cases parseIpv4 text with
 | some address=>rfl
 | none=>rw [none'];rfl

lemma lastGroups_dot(cs:List Char):lastGroups (cs++['.'])=none:=by
 have no:groupOf (cs++['.'])=none:=by
  by_contra some'
  obtain ⟨group,hgroup⟩:=ne_none_iff_exists'.mp some'
  unfold groupOf at hgroup
  split at hgroup
  · obtain ⟨n,hn,-⟩:=bind_eq_some_iff.mp hgroup
    obtain ⟨d,hd,-⟩:=numberFrom_digits hn '.' (by simp)
    cases hd
  · cases hgroup
 rw [lastGroups,no,parseIpv4_dot]
 rfl

lemma readGroups_cons(cs next:List Char)(texts:List (List Char)):
  readGroups (cs::next::texts)=(groupOf cs).bind fun group=>
    (readGroups (next::texts)).map fun groups=>group::groups:=rfl

lemma readGroups_last_none(h:lastGroups cs=none)(texts:List (List Char)):
  readGroups (texts++[cs])=none:=by
 induction texts with
 | nil=>exact h
 | cons text texts ih=>
  cases rest:texts++[cs] with
  | nil=>simp at rest
  | cons next others=>
   rw [rest] at ih
   rw [cons_append,rest,readGroups_cons,ih]
   simp

lemma readGroups_dot(text:List Char):readGroups ((text++['.']).splitOn ':')=none:=by
 obtain ⟨front,last,-,after⟩:=splitOn_concat ':' '.' (by decide) text
 rw [after]
 exact readGroups_last_none (lastGroups_dot last) front

lemma splitGap_dot(text:List Char):
  splitGap (text++['.'])=(splitGap text).map fun s=>(s.1,s.2++['.']):=by
 induction text with
 | nil=>rfl
 | cons c cs ih=>
  rw [cons_append,splitGap,splitGap,ih]
  have head:(cs++['.']).head?=some ':' ↔ cs.head?=some ':' := by cases cs <;>simp
  by_cases gap:c = ':' ∧ cs.head?=some ':'
  · rw [if_pos ⟨gap.1,head.mpr gap.2⟩,if_pos gap]
    cases cs with
    | nil=>simp at gap
    | cons d cs=>rfl
  · rw [if_neg fun both=>gap ⟨both.1,head.mp both.2⟩,if_neg gap]
    simp [Function.comp_def]

lemma parseIpv6_dot(text:List Char):parseIpv6 (text++['.'])=none:=by
 rw [parseIpv6,splitGap_dot]
 cases splitGap text with
 | none=>
  rw [map_none]
  simp only [readGroups_dot,bind_none]
 | some s=>
  rw [map_some]
  have texts:groupTexts (s.2++['.'])=(s.2++['.']).splitOn ':' := if_neg (by simp)
  simp only [texts,readGroups_dot,bind_none,bind_fun_none]

lemma toNat_toLower(c:Char):
  c.toLower.toNat=if 65≤c.toNat∧c.toNat≤90 then c.toNat+32 else c.toNat:=by
 unfold Char.toLower
 split
 · next upper=>
   have range:65≤c.toNat∧c.toNat≤90:=by simpa [UInt32.le_iff_toNat_le] using upper
   rw [if_pos range]
   change (c.val+32).toNat=c.val.toNat+32
   have bound:c.val.toNat≤90:=range.2
   rw [UInt32.toNat_add]
   change (c.val.toNat+32) % 2^32=c.val.toNat+32
   omega
 · next other=>
   have range:¬(65≤c.toNat∧c.toNat≤90):=by simpa [UInt32.le_iff_toNat_le] using other
   rw [if_neg range]

lemma toLower_eq_iff{c d:Char}(hd:d.toNat<65):c.toLower=d↔c=d:=by
 rw [←Char.toNat_inj,←Char.toNat_inj,toNat_toLower]
 split <;>omega

lemma digitOf_toLower(c:Char):digitOf c.toLower=digitOf c:=by
 unfold digitOf
 rw [toNat_toLower]
 generalize c.toNat=n
 by_cases upper:65≤n∧n≤90
 · have hex:(97≤n+32∧n+32≤102)=(65≤n∧n≤70):=by
    rw [eq_iff_iff]
    omega
   rw [if_pos upper,if_neg (by omega),if_neg (c:=48≤n∧_) (by omega),
    if_neg (c:=97≤n∧_) (by omega)]
   simp only [hex,Nat.reduceSubDiff]
   rw [if_neg (c:=65≤n+32∧_) (by omega)]
 · simp only [if_neg upper]

lemma numberFrom_lower(base acc:ℕ)(cs:List Char):
  numberFrom base acc (cs.map Char.toLower)=numberFrom base acc cs:=by
 induction cs generalizing acc with
 | nil=>rfl
 | cons c cs ih=>simp [numberFrom,digitOf_toLower,ih]

lemma number_lower(base:ℕ)(cs:List Char):
  number base (cs.map Char.toLower)=number base cs:=numberFrom_lower base 0 cs

lemma isHexMark_toLower(c:Char):isHexMark c.toLower=isHexMark c:=by
 have marks (d:Char):isHexMark d=true↔d.toNat=120∨d.toNat=88:=by
  rw [isHexMark,Bool.or_eq_true,beq_iff_eq,beq_iff_eq,←Char.toNat_inj,←Char.toNat_inj]
  rfl
 rw [Bool.eq_iff_iff,marks,marks,toNat_toLower]
 split <;>omega

lemma atonNumber_lower(cs:List Char):atonNumber (cs.map Char.toLower)=atonNumber cs:=by
 cases cs with
 | nil=>rfl
 | cons c cs=>
  have zero:c.toLower = '0' ↔ c = '0' := toLower_eq_iff (by decide)
  have mark:(cs.map Char.toLower).head?.any isHexMark=cs.head?.any isHexMark:=by
   cases cs with
   | nil=>rfl
   | cons d cs=>exact isHexMark_toLower d
  rw [map_cons,atonNumber,atonNumber,←map_cons,number_lower,mark,←map_tail,
   number_lower,number_lower]
  simp only [ne_eq,zero]

lemma inetAton_lower(text:List Char):inetAton (text.map Char.toLower)=inetAton text:=by
 have dots:∀c∈text,c.toLower = '.' ↔ c = '.' := fun c _=>toLower_eq_iff (by decide)
 rw [inetAton,inetAton,splitOn_map dots]
 rw [←readAll_congr (f:=atonNumber) fun cs _=>(atonNumber_lower cs).symm]

lemma octetOf_lower(cs:List Char):octetOf (cs.map Char.toLower)=octetOf cs:=by
 have head:(cs.map Char.toLower).head?=some '0' ↔ cs.head?=some '0' := by
  cases cs with
  | nil=>rfl
  | cons c cs=>simpa using toLower_eq_iff (c:=c) (d := '0') (by decide)
 simp only [octetOf,ne_eq,map_eq_nil_iff,length_map,head,number_lower]

lemma parseIpv4_lower(text:List Char):parseIpv4 (text.map Char.toLower)=parseIpv4 text:=by
 have dots:∀c∈text,c.toLower = '.' ↔ c = '.' := fun c _=>toLower_eq_iff (by decide)
 rw [parseIpv4,parseIpv4,splitOn_map dots]
 rw [←readAll_congr (f:=octetOf) fun cs _=>(octetOf_lower cs).symm]

lemma groupOf_lower(cs:List Char):groupOf (cs.map Char.toLower)=groupOf cs:=by
 simp only [groupOf,ne_eq,map_eq_nil_iff,length_map,number_lower]

lemma lastGroups_lower(cs:List Char):lastGroups (cs.map Char.toLower)=lastGroups cs:=by
 rw [lastGroups,groupOf_lower,parseIpv4_lower,lastGroups]

lemma readGroups_lower(texts:List (List Char)):
  readGroups (texts.map (List.map Char.toLower))=readGroups texts:=by
 induction texts with
 | nil=>rfl
 | cons cs texts ih=>
  cases texts with
  | nil=>exact lastGroups_lower cs
  | cons next texts=>
   rw [map_cons] at ih
   rw [map_cons,map_cons,readGroups_cons,readGroups_cons,ih,groupOf_lower]

lemma splitGap_lower(text:List Char):splitGap (text.map Char.toLower) =
  (splitGap text).map fun s=>(s.1.map Char.toLower,s.2.map Char.toLower):=by
 induction text with
 | nil=>rfl
 | cons c cs ih=>
  have colon:c.toLower = ':' ↔ c = ':' := toLower_eq_iff (by decide)
  have head:(cs.map Char.toLower).head?=some ':' ↔ cs.head?=some ':' := by
   cases cs with
   | nil=>rfl
   | cons d cs=>simpa using toLower_eq_iff (c:=d) (d := ':') (by decide)
  rw [map_cons,splitGap,splitGap,ih,←map_tail]
  simp only [colon,head]
  split
  · rfl
  · simp [Function.comp_def]

lemma groupTexts_lower(text:List Char):
  groupTexts (text.map Char.toLower)=(groupTexts text).map (List.map Char.toLower):=by
 have colons:∀c∈text,c.toLower = ':' ↔ c = ':' := fun c _=>toLower_eq_iff (by decide)
 simp only [groupTexts,map_eq_nil_iff,splitOn_map colons]
 split <;>rfl

lemma parseIpv6_lower(text:List Char):parseIpv6 (text.map Char.toLower)=parseIpv6 text:=by
 have colons:∀c∈text,c.toLower = ':' ↔ c = ':' := fun c _=>toLower_eq_iff (by decide)
 rw [parseIpv6,parseIpv6,splitGap_lower,splitOn_map colons,readGroups_lower]
 cases splitGap text with
 | none=>rfl
 | some s=>
  simp only [map_some,groupTexts_lower,readGroups_lower]
  rw [←readAll_congr (f:=groupOf) fun cs _=>(groupOf_lower cs).symm]

end GraphBlocks.IpAddresses
