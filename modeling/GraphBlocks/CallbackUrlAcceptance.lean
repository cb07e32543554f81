import GraphBlocks.AddressTextLaws
import GraphBlocks.CallbackUrlSafety

namespace GraphBlocks.CallbackUrl
open NumberEncoding IpAddresses List Option

variable {text rest:List Char}

lemma stripStart_some{start:List Char}(h:stripStart start text=some rest):text=start++rest:=by
 unfold stripStart at h
 split at h
 · next begins=>
   obtain ⟨tail,rfl⟩:= isPrefixOf_iff_prefix.mp begins
   rw [drop_left] at h
   cases h
   rfl
 · cases h

lemma takeWhile_agree{α:Type}{p q:α→Bool}{l:List α}(h:∀a∈l,p a=q a):l.takeWhile p=l.takeWhile q:=by
 induction l with
 | nil=>rfl
 | cons a l ih=>
  rw [takeWhile_cons,takeWhile_cons,h a (by simp),ih fun b hb=>h b (mem_cons_of_mem a hb)]

variable {cs:List Char}

lemma splitOnce_before{p:Char→Bool}{before after:List Char}
  (h:splitOnce p cs=some (before,after)):cs.takeWhile (fun c => !p c)=before:=by
 induction cs generalizing before with
 | nil=>cases h
 | cons c cs ih=>
  rw [splitOnce] at h
  split at h
  · next found=>
    cases h
    simp [found]
  · next other=>
    obtain ⟨s,hs,same⟩:=map_eq_some_iff.mp h
    cases same
    rw [takeWhile_cons,if_pos (by simpa using other),ih hs]

lemma splitOnce_nowhere{p:Char→Bool}(h:splitOnce p cs=none):cs.takeWhile (fun c => !p c)=cs:=by
 induction cs with
 | nil=>rfl
 | cons c cs ih=>
  rw [splitOnce] at h
  split at h
  · cases h
  · next other=>rw [takeWhile_cons,if_pos (by simpa using other),ih (map_eq_none_iff.mp h)]

variable {host:List Char}

lemma bracketedHost_some(h:bracketedHost rest=some host):
  (∃address,parseIpv6 (rest.takeWhile fun c=>c != ']')=some address) ∧
   host=normalized (rest.takeWhile fun c=>c != ']'):=by
 unfold bracketedHost at h
 split at h
 · cases h
 · next text suffix parts=>
   have before:=splitOnce_before parts
   change rest.takeWhile (fun c=>c != ']')=text at before
   rw [before]
   split at h
   · cases h
   · next fine=>
     cases h
     simp only [Bool.or_eq_true,not_or,isNone_iff_eq_none] at fine
     exact ⟨ne_none_iff_exists'.mp fine.1.2,rfl⟩

lemma withoutPort_some{authority:List Char}(h:withoutPort authority=some host):
  host=authority.takeWhile fun c=>c != ':':=by
 unfold withoutPort at h
 split at h
 · next text port parts=>
   split at h
   · cases h
   · cases h
     exact (splitOnce_before parts).symm
 · next parts=>
   cases h
   exact (splitOnce_nowhere parts).symm

lemma namedHost_some{authority:List Char}(h:namedHost authority=some host):
  host=normalized (authority.takeWhile fun c=>c != ':') ∧ ':' ∉ host:=by
 obtain ⟨text,without,rest⟩:=bind_eq_some_iff.mp h
 rw [withoutPort_some without] at rest
 split at rest
 · cases rest
 · next fine=>
   cases rest
   refine ⟨rfl,?_⟩
   intro colon
   apply fine
   simp [nameIsInvalid,colon]

/-- The host that the compiler looks at is the host of the URL, in lower case and without dots
at its end. -/
structure Reads (url host:List Char) : Prop where
 userInfo : '@' ∉ authorityOf url
 fragment : '#' ∉ url
 blanks:∀c∈url,isBlankByte c=false
 reading:host=normalized (hostOf url).text
 shape:(∃address,hostOf url=.literal (hostOf url).text∧parseIpv6 (hostOf url).text=some address) ∨
  hostOf url=.name (hostOf url).text ∧ ':' ∉ host

lemma checkedHost_reads(fragment : '#' ∉ rest)(blanks:∀c∈rest,isBlankByte c=false)
  (h:checkedHost (rest.takeWhile fun c => !endsAuthority c)=some host):
  Reads ("https://".toList++rest) host:=by
 have authority:authorityOf ("https://".toList++rest)=rest.takeWhile fun c => !endsAuthority c:=by
  have dropped:("https://".toList++rest).drop "https://".length=rest:=rfl
  rw [authorityOf,dropped]
  apply takeWhile_agree
  intro c hc
  have other:c ≠ '#' := fun same=>fragment (same▸hc)
  simp [endsAuthority,other,Bool.not_or,bne]
 unfold checkedHost at h
 split at h
 · cases h
 next fine=>
 simp only [Bool.or_eq_true,not_or,contains_iff_mem] at fine
 rw [←authority] at h fine
 have place:(authorityOf ("https://".toList++rest)).rtakeWhile (fun c=>c != '@') =
   authorityOf ("https://".toList++rest):=by
  rw [rtakeWhile_eq_self_iff]
  intro c hc
  simpa using fun same:c = '@' => fine.2 (same▸hc)
 have scheme:("https://".toList.all fun c => !isBlankByte c)=true:=by decide +kernel
 constructor
 · exact fine.2
 · intro found
   rcases mem_append.mp found with found|found
   · revert found
     decide
   · exact fragment found
 · intro c hc
   rcases mem_append.mp hc with hc|hc
   · simpa using List.all_eq_true.mp scheme c hc
   · exact blanks c hc
 all_goals split at h
 · next bracket=>
   rw [hostOf,place,if_pos bracket]
   exact (bracketedHost_some h).2
 · next bracket=>
   rw [hostOf,place,if_neg bracket]
   exact (namedHost_some h).1
 · next bracket=>
   left
   obtain ⟨⟨address,read⟩,-⟩:=bracketedHost_some h
   rw [hostOf,place,if_pos bracket]
   exact ⟨address,rfl,read⟩
 · next bracket=>
   right
   rw [hostOf,place,if_neg bracket]
   exact ⟨rfl,(namedHost_some h).2⟩

lemma accepted_reads{url:String}(h:textIsUnsafe url=false):
  ∃host,Reads url.toList host∧hostIsUnsafe host=false:=by
 unfold textIsUnsafe at h
 split at h
 · cases h
 split at h
 · cases h
 next rest begins=>
 split at h
 · cases h
 next fine=>
 split at h
 · cases h
 next host checked=>
 simp only [Bool.or_eq_true,not_or,contains_iff_mem,List.any_eq_true,not_exists,
  not_and,Bool.not_eq_true] at fine
 refine ⟨host,?_,h⟩
 rw [stripStart_some begins]
 exact checkedHost_reads fine.1 fine.2 checked

variable {n:ℕ}

lemma digits_of_number{base:ℕ}(small:base≤10)(h:number base cs=some n):cs.all Char.isDigit=true:=by
 rw [List.all_eq_true]
 intro c hc
 obtain ⟨d,hd,below⟩:=numberFrom_digits h c hc
 exact digitOf_ten hd (by omega)

lemma hexDigits_of_number{base:ℕ}(h:number base cs=some n):cs.all Char.isHexDigit=true:=by
 rw [List.all_eq_true]
 intro c hc
 obtain ⟨d,hd,-⟩:=numberFrom_digits h c hc
 exact digitOf_hex hd

lemma legacy_hex{d:Char}{digits:List Char}(mark:isHexMark d=true)(nonempty:digits≠[])
  (hex:digits.all Char.isHexDigit=true):isLegacyComponent ('0' :: d::digits)=true:=by
 have letter:d = 'x' ∨ d = 'X' := by simpa [isHexMark] using mark
 rcases letter with rfl|rfl <;>simp [isLegacyComponent,stripStart,nonempty,hex]

lemma legacy_octal(plain:¬cs.head?.any isHexMark=true)(digits:cs.all Char.isDigit=true):
  isLegacyComponent ('0' :: cs)=true:=by
 cases cs with
 | nil=>rfl
 | cons d cs=>
  have other:¬(d = 'x' ∨ d = 'X'):=by simpa [isHexMark] using plain
  rw [not_or] at other
  have zero : '0'.isDigit=true:=rfl
  simp [isLegacyComponent,stripStart,Ne.symm other.1,Ne.symm other.2,zero,digits]

lemma legacy_or_bareMark{component:List Char}(h:atonNumber component=some n):
  isLegacyComponent component=true∨isBareMark component=true:=by
 cases component with
 | nil=>cases h
 | cons c cs=>
  rw [atonNumber] at h
  split at h
  · next other=>
    left
    have digits:=digits_of_number (Nat.le_refl 10) h
    simp [isLegacyComponent,stripStart,Ne.symm other,digits]
  next zero=>
  rw [not_not] at zero
  subst zero
  split at h
  · next mark=>
    cases cs with
    | nil=>cases mark
    | cons d digits=>
     by_cases empty:digits=[]
     · right
       rw [empty]
       exact mark
     · exact .inl (legacy_hex mark empty (hexDigits_of_number h))
  · next plain=>exact .inl (legacy_octal plain (digits_of_number (by decide) h))

lemma atonAddress_length{numbers:List ℕ}{address:Ipv4Addr}
  (h:atonAddress numbers=some address):numbers.length≤4:=by
 unfold atonAddress at h
 split at h
 all_goals first | simp | cases h

lemma legacy_of_inetAton{address:Ipv4Addr}(h:inetAton text=some address)
  (plain:(text.splitOn '.').any isBareMark=false):looksLikeLegacyIpv4 text=true:=by
 obtain ⟨numbers,read,few⟩:=bind_eq_some_iff.mp h
 have short:=atonAddress_length few
 rw [readAll_length read] at short
 have parts:(text.splitOn '.').all isLegacyComponent=true:=by
  rw [List.all_eq_true]
  intro part hpart
  obtain ⟨n,hn⟩:=readAll_source read hpart
  rcases legacy_or_bareMark hn with legacy|bare
  · exact legacy
  · rw [List.any_eq_false] at plain
    exact absurd bare (plain part hpart)
 have some':(text.splitOn '.').isEmpty=false:=by simp
 simp only [looksLikeLegacyIpv4,some',short,parts]
 rfl

lemma isBareMark_lower(part:List Char):isBareMark (part.map Char.toLower)=isBareMark part:=by
 rcases part with _|⟨c,_|⟨d,_|⟨e,rest⟩⟩⟩
 · rfl
 · rfl
 · have zero:(c.toLower == '0')=(c == '0'):=by
    rw [Bool.eq_iff_iff,beq_iff_eq,beq_iff_eq]
    exact toLower_eq_iff (by decide)
   change (c.toLower == '0' && isHexMark d.toLower)=(c == '0' && isHexMark d)
   rw [zero,isHexMark_toLower]
 · rfl

lemma not_blankChar{c:Char}(byte:isBlankByte c=false)(ascii:c.toNat<128):isBlankChar c=false:=by
 have range:32<c.toNat∧c.toNat≠127:=by simpa [isBlankByte,Nat.not_le] using byte
 have control:isControl c=false:=by
  simp only [isControl,decide_eq_false_iff_not]
  omega
 have space:RustStd.isWhitespace c=false:=by
  simp only [RustStd.isWhitespace,Bool.or_eq_false_iff,Bool.and_eq_false_iff,
   decide_eq_false_iff_not,beq_eq_false_iff_ne]
  omega
 rw [isBlankChar,control,space]
 rfl

lemma hostIsUnsafe_names(h:hostIsUnsafe host=false):
  host≠"localhost".toList∧".localhost".toList.isSuffixOf host=false ∧
   host≠"metadata.google.internal".toList:=by
 simp only [hostIsUnsafe,Bool.or_eq_false_iff] at h
 obtain ⟨⟨⟨⟨-,named⟩,below⟩,metadata⟩,-⟩:=h
 exact ⟨beq_eq_false_iff_ne.mp named,below,beq_eq_false_iff_ne.mp metadata⟩

lemma hostIsUnsafe_address{address:IpAddr}(h:hostIsUnsafe host=false)
  (read:parseIpAddr host=some address):addressIsUnsafe address=false:=by
 simp only [hostIsUnsafe,Bool.or_eq_false_iff,read] at h
 exact h.2

lemma hostIsUnsafe_legacy(h:hostIsUnsafe host=false)(read:parseIpAddr host=none):
  looksLikeLegacyIpv4 host=false:=by
 simp only [hostIsUnsafe,Bool.or_eq_false_iff,read] at h
 exact h.2.2

lemma normalized_literal{address:Ipv6Addr}(h:parseIpv6 text=some address):
  parseIpAddr (normalized text)=some (.v6 address):=by
 have kept:(text.rdropWhile fun c=>c == '.')=text:=by
  rw [rdropWhile_eq_self_iff]
  intro nonempty dot
  have last:=dropLast_append_getLast nonempty
  rw [beq_iff_eq] at dot
  rw [dot] at last
  rw [←last,parseIpv6_dot] at h
  cases h
 apply parseIpAddr_v6
 rw [normalized,kept,parseIpv6_lower]
 exact h

lemma accepted_address{url:List Char}(reads:Reads url host)
  (accepted:hostIsUnsafe host=false)(fine:¬Overlooked url)(address:IpAddr)
  (denoted:(hostOf url).address=some address):forbidden address=false:=by
 have checked:unchecked address=false:=by
  by_contra block
  exact fine (.block address denoted (by simpa using block))
 rcases reads.shape with ⟨literal,bracketed,read⟩|⟨named,plain⟩
 · rw [bracketed,Host.address,read,map_some] at denoted
   cases denoted
   have canonical:=normalized_literal read
   rw [←reads.reading] at canonical
   rw [forbidden_eq,hostIsUnsafe_address accepted canonical,checked]
   rfl
 · have given:=denoted
   rw [named,Host.address] at given
   obtain ⟨inner,aton,rfl⟩:=map_eq_some_iff.mp given
   have lowered:inetAton host=some inner:=by
    rw [reads.reading,normalized,inetAton_lower]
    exact aton
   cases read:parseIpv4 host with
   | some canonical=>
    have same:inner=canonical:=by
     have both:=inetAton_of_parseIpv4 read
     rw [lowered] at both
     exact some.inj both
    have parsed:parseIpAddr host=some (.v4 canonical):=by
     rw [parseIpAddr_v4 plain,read]
     rfl
    subst same
    rw [forbidden_eq,hostIsUnsafe_address accepted parsed,checked]
    rfl
   | none=>
    have parsed:parseIpAddr host=none:=by
     rw [parseIpAddr_v4 plain,read]
     rfl
    -- The host does not look like a legacy address, so a number of it is a bare `0x`.
    have other:=hostIsUnsafe_legacy accepted parsed
    by_contra outside
    apply fine
    refine .bareMark _ _ named ?_ denoted (by simpa using outside)
    by_contra unmarked
    have dots:∀c∈(hostOf url).text.rdropWhile (fun c=>c == '.'),
      c.toLower = '.' ↔ c = '.' := fun c _=>toLower_eq_iff (by decide)
    have bare:(host.splitOn '.').any isBareMark=false:=by
     rw [reads.reading,normalized,splitOn_map dots,List.any_map]
     have same:isBareMark ∘ List.map Char.toLower=isBareMark:=by
      funext part
      exact isBareMark_lower part
     rw [same]
     simpa using unmarked
    rw [legacy_of_inetAton lowered bare] at other
    cases other

/-- A URL that the compiler accepts is permitted unless it is of a kind it overlooks. -/
theorem accepted_urls_permitted_iff (url : String)
  (accepted : callbackUrlIsUnsafe (some (.string url))=false) :
  Permitted url.toList↔¬Overlooked url.toList := by
 obtain ⟨host,reads,safe⟩:=accepted_reads accepted
 constructor
 · intro permitted overlooked
   cases overlooked with
   | blank c inside beyond blank=>
    rw [permitted.blanks c inside] at blank
    cases blank
   | block address denoted inside=>
    have outside:=permitted.addresses address denoted
    rw [forbidden_eq,inside,Bool.or_true] at outside
    cases outside
   | bareMark text address named marked denoted outside=>
    rw [permitted.addresses address denoted] at outside
    cases outside
 · intro fine
   constructor
   · rw [←reads.reading]
     exact hostIsUnsafe_names safe
   · exact accepted_address reads safe fine
   · exact reads.userInfo
   · exact reads.fragment
   · intro c hc
     by_cases ascii:c.toNat<128
     · exact not_blankChar (reads.blanks c hc) ascii
     · by_contra blank
       exact fine (.blank c hc (Nat.le_of_not_lt ascii) (by simpa using blank))

theorem named_url_permitted : Permitted "https://hooks.example.com/events".toList := by
 have accepted:callbackUrlIsUnsafe (some (.string "https://hooks.example.com/events")) =
   false:=by decide +kernel
 have named:(hostOf "https://hooks.example.com/events".toList).address=none:=by decide +kernel
 have ascii:("https://hooks.example.com/events".toList.all fun c=>c.toNat<128)=true:=by
  decide +kernel
 apply (accepted_urls_permitted_iff "https://hooks.example.com/events" accepted).mpr
 intro overlooked
 cases overlooked with
 | blank c inside beyond blank=>
  exact Nat.not_lt.mpr beyond (of_decide_eq_true (List.all_eq_true.mp ascii c inside))
 | block address denoted inside=>
  rw [named] at denoted
  cases denoted
 | bareMark text address name marked denoted outside=>
  rw [named] at denoted
  cases denoted

theorem benchmark_url_accepted : ¬ ∀url : String,
  callbackUrlIsUnsafe (some (.string url))=false→Permitted url.toList := by
 intro permitted
 have accepted:callbackUrlIsUnsafe (some (.string "https://198.18.0.1/"))=false:=by decide +kernel
 have denoted:(hostOf "https://198.18.0.1/".toList).address =
   some (.v4 (Ipv4Addr.ofOctets 198 18 0 1)):=by
  decide +kernel
 have outside:=(permitted "https://198.18.0.1/" accepted).addresses _ denoted
 revert outside
 decide +kernel

/-- A documentation address in brackets, and a bare `0x`, which is the address of no host. -/
example : callbackUrlIsUnsafe (some (.string "https://[2001:db8::1]/"))=false ∧
  callbackUrlIsUnsafe (some (.string "https://0x/"))=false ∧
  ((hostOf "https://0x/".toList).address.map forbidden)=some true := by
 decide +kernel

end GraphBlocks.CallbackUrl
