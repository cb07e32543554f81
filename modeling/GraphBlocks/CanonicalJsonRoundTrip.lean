import GraphBlocks.CanonicalJsonScan
import GraphBlocks.SerdeInstance

namespace GraphBlocks.CanonicalJson

open Json DigitStrings JsonNumber NumberEncoding List

lemma duplicateKeyItems_eq_none_iff(items:List Value):
  duplicateKeyItems items=none ↔ ∀v∈items,duplicateKey v=none:=by
 induction items with
 | nil=>simp [duplicateKeyItems]
 | cons v items ih=>simp [duplicateKeyItems,ih]

lemma duplicateKeyMembers_eq_none_iff(seen:List String)(members:Members):
  duplicateKeyMembers seen members=none↔(∀k∈keys members,k∉seen)∧(keys members).Nodup ∧
    ∀e∈members,duplicateKey e.2=none:=by
 induction members generalizing seen with
 | nil=>simp [duplicateKeyMembers,Json.keys]
 | cons e members ih=>
  obtain ⟨k,v⟩:=e
  have hkeys:keys ((k,v)::members)=k::keys members:=rfl
  rw [duplicateKeyMembers,hkeys,forall_mem_cons,nodup_cons,forall_mem_cons]
  by_cases hk:k∈seen
  · simp [hk]
  · rw [if_neg hk,Option.or_eq_none_iff,ih]
    simp only [mem_cons,not_or]
    constructor
    · rintro ⟨hv,hseen,hnodup,hmembers⟩
      exact ⟨⟨hk,fun j hj=>(hseen j hj).2⟩,⟨fun h=>(hseen k h).1 rfl,hnodup⟩,hv,hmembers⟩
    · rintro ⟨⟨-,hseen⟩,⟨hfresh,hnodup⟩,hv,hmembers⟩
      exact ⟨hv,fun j hj=>⟨fun h=>hfresh (h▸hj),hseen j hj⟩,hnodup,hmembers⟩

lemma duplicateKey_eq_none_iff(v:Value):duplicateKey v=none↔v.UniqueKeys:=by
 apply InductionCases.value (P:=fun v=>duplicateKey v=none↔v.UniqueKeys)
 constructor
 · simp [duplicateKey,Value.UniqueKeys]
 · simp [duplicateKey,Value.UniqueKeys]
 · simp [duplicateKey,Value.UniqueKeys]
 · simp [duplicateKey,Value.UniqueKeys]
 · intro items ih
   rw [duplicateKey,Value.UniqueKeys,duplicateKeyItems_eq_none_iff,uniqueItems_iff]
   exact forall₂_congr ih
 · intro members ih
   rw [duplicateKey,Value.UniqueKeys,duplicateKeyMembers_eq_none_iff,uniqueMembers_iff]
   simp only [not_mem_nil,not_false_eq_true,implies_true,true_and]
   exact and_congr_right (fun _=>forall₂_congr ih)

variable {t:NumberToken}

lemma integer_text(h:t.isInteger=true):t.text=(if t.negative then ['-'] else [])++t.whole:=by
 unfold NumberToken.text
 rw [unsignedText_eq,afterWhole_integer h,append_nil]

lemma signedInteger_eq{digits:List Char}(h:IsNumeral digits):
  signedInteger digits=if digits=['0'] then ['0'] else '-' :: digits:=by
 unfold signedInteger
 by_cases hz:digits=['0']
 · subst hz
   rfl
 · have hv:value digits≠0:=fun hv=>hz (h.value_eq_zero.mp hv)
   rw [if_neg hv,if_neg hz,←h.eq_toDigits,ite_self]

lemma unsignedInteger_eq{digits:List Char}(h:IsNumeral digits):unsignedInteger digits=digits:=by
 unfold unsignedInteger
 rw [←h.eq_toDigits,ite_self]

/-- Only the token `-0` is changed. -/
lemma serdeNumber_integer(h:t.isInteger=true):
  serdeNumber t.text=if t.negative=true∧t.whole=['0'] then ['0'] else t.text:=by
 have hmark:hasDecimalMark t.text=false:=by rw [hasDecimalMark_text,h];rfl
 unfold serdeNumber
 rw [hmark]
 simp only [Bool.false_eq_true,if_false,head_text]
 cases hn:t.negative with
 | true=>
  have htext:t.text = '-' :: t.whole:=by rw [integer_text h,hn];rfl
  rw [htext]
  simpa using signedInteger_eq t.whole_ok
 | false=>
  have htext:t.text=t.whole:=by rw [integer_text h,hn];rfl
  rw [htext]
  simpa using unsignedInteger_eq t.whole_ok

variable {token:List Char}

lemma serdeNumber_decimal(h:hasDecimalMark token=true):serdeNumber token=token:=by
 unfold serdeNumber
 rw [h]
 rfl

def zeroToken : NumberToken := ⟨false,['0'],isNumeral_zero,none,none⟩

lemma serdeNumber_kept(h:IsNumberToken token):
  IsNumberToken (serdeNumber token)∧serdeNumber (serdeNumber token)=serdeNumber token:=by
 obtain ⟨t,rfl⟩:=h
 cases hi:t.isInteger with
 | false=>
  have hmark:hasDecimalMark t.text=true:=by rw [hasDecimalMark_text,hi];rfl
  rw [serdeNumber_decimal hmark]
  exact ⟨⟨t,rfl⟩,serdeNumber_decimal hmark⟩
 | true=>
  rw [serdeNumber_integer hi]
  split
  · exact ⟨⟨zeroToken,rfl⟩,serdeNumber_integer (t:=zeroToken) rfl⟩
  · next hkept=>exact ⟨⟨t,rfl⟩,by rw [serdeNumber_integer hi,if_neg hkept]⟩

lemma canonicalNumber_mark(h:t.isInteger=false):hasDecimalMark (canonicalNumber t.text)=true:=by
 obtain ⟨u,hu,-⟩:=exists_spells_normalText t
 rw [canonicalNumber_text t h,←hu.text_eq,hasDecimalMark_text,hu.decimal]
 rfl

lemma canonicalNumber_kept
  (h:IsNumberToken token∧serdeNumber token=token∧integerTooLong token=false):
  serdeNumber (canonicalNumber token)=canonicalNumber token ∧
   integerTooLong (canonicalNumber token)=false:=by
 obtain ⟨⟨t,rfl⟩,hkept,hlong⟩:=h
 cases hi:t.isInteger with
 | true=>
  rw [canonicalNumber_integer t hi]
  exact ⟨hkept,hlong⟩
 | false=>
  have hmark:=canonicalNumber_mark hi
  refine ⟨serdeNumber_decimal hmark,?_⟩
  rw [integerTooLong,hmark]
  rfl

lemma canonicalNumber_idempotent(h:IsNumberToken token):
  canonicalNumber (canonicalNumber token)=canonicalNumber token:=by
 obtain ⟨t,rfl⟩:=h
 cases hi:t.isInteger with
 | true=>rw [canonicalNumber_integer t hi,canonicalNumber_integer t hi]
 | false=>
  obtain ⟨u,hu,-⟩:=exists_spells_normalText t
  rw [canonicalNumber_text t hi,←hu.text_eq,canonicalNumber_text u hu.decimal,hu.text_eq]
  exact normalText_congr hu.negative_eq hu.magnitude_eq

lemma canonicalize_idempotent(v:Value)(hv:v.UniqueKeys)
  (hn:AllNumbers IsNumberToken v):canonicalize (canonicalize v)=canonicalize v:=by
 revert hv hn
 apply InductionCases.value (P:=fun v=>v.UniqueKeys→AllNumbers IsNumberToken v →
  canonicalize (canonicalize v)=canonicalize v)
 constructor
 · exact fun _ _=>rfl
 · exact fun _ _ _=>rfl
 · intro token _ hn
   exact congrArg Value.number (canonicalNumber_idempotent hn)
 · exact fun _ _ _=>rfl
 · intro items ih hv hn
   have hu:=(uniqueItems_iff items).mp hv
   have hnumbers:=(allNumbersItems_iff _ items).mp hn
   rw [canonicalize_array,canonicalize_array,map_map]
   apply congrArg Value.array
   exact map_congr_left (fun w hw=>ih w hw (hu w hw) (hnumbers w hw))
 · intro members ih hv hn
   have hnumbers:=(allNumbersMembers_iff _ members).mp hn
   have hnodup:=nodup_canonicalizeMembers hv.1
   rw [canonicalize_object,canonicalize_object]
   apply congrArg Value.object
   rw [sortMembers_eq_iff (nodup_canonicalizeMembers (nodup_sortMembers hnodup)) hnodup]
   intro k
   rw [lookup_canonicalizeMembers,lookup_sortMembers hnodup,lookup_canonicalizeMembers]
   cases hk:members.lookup k with
   | none=>rfl
   | some w=>
    have hmem:=mem_of_lookup hk
    exact congrArg some (ih (k,w) hmem (hv.2.lookup hk) (hnumbers _ hmem))

section
variable {d:StringDisplay} (reader:JsonReader d)

lemma parseCanonicalJson_ok{text:List Char}{v:Value}(h:parseCanonicalJson reader text=.ok v):
  ∃document,reader.read text=.ok document∧duplicateKey document=none ∧
   v=serdeValue document∧validateCanonicalJson v=.ok ():=by
 unfold parseCanonicalJson at h
 split at h
 · cases h
 · split at h
   · cases h
   · next document hread=>
     split at h
     · cases h
     · next hdup=>
       split at h
       · cases h
       · next hvalid=>
         obtain rfl:=Except.ok.inj h
         exact ⟨document,hread,hdup,rfl,hvalid⟩

lemma parseCanonicalJson_compact{v:Value}(hu:v.UniqueKeys)(hn:AllNumbers IsNumberToken v)
  (hk:AllNumbers (fun token=>serdeNumber token=token) v)(hv:validateCanonicalJson v=.ok ()):
  parseCanonicalJson reader (compact d v)=.ok v:=by
 obtain ⟨hheight,hlong⟩:=(validateCanonicalJson_ok_iff v).mp hv
 unfold parseCanonicalJson
 rw [integersWithin_compact d hn hlong,reader.complete v hn hheight]
 simp only [Bool.true_eq_false,if_false]
 rw [(duplicateKey_eq_none_iff v).mpr hu,serdeValue,rewriteNumbers_eq_self serdeNumber hk]
 simp only [hv]

/-- Every accepted value has a canonical text, the text is accepted, and the value
read from it has the same canonical text. -/
theorem canonical_json_fixed_point (text : List Char) (v : Value)
  (h : parseCanonicalJson reader text=.ok v) :
  ∃output w,canonicalJson d v=.ok output∧parseCanonicalJson reader output=.ok w ∧
   canonicalJson d w=.ok output := by
 obtain ⟨document,hread,hdup,rfl,hvalid⟩:=parseCanonicalJson_ok reader h
 have hid (m:Members):(id m).Perm m:=.refl m
 have hu:(serdeValue document).UniqueKeys:=
  uniqueKeys_rewriteNumbers hid ((duplicateKey_eq_none_iff document).mp hdup)
 have hkept:AllNumbers (fun token=>IsNumberToken token∧serdeNumber token=token)
   (serdeValue document):=
  allNumbers_rewriteNumbers hid (fun _ htoken=>serdeNumber_kept htoken)
   (reader.tokens text document hread)
 have hnumbers:=hkept.map (fun _ htoken _=>htoken.1) _ hkept
 obtain ⟨hheight,hlong⟩:=(validateCanonicalJson_ok_iff _).mp hvalid
 have htokens:AllNumbers (fun token=>IsNumberToken token∧serdeNumber token=token ∧
   integerTooLong token=false) (serdeValue document):=
  hkept.map (fun _ htoken hshort=>⟨htoken.1,htoken.2,hshort⟩) _ hlong
 have hcanonical:AllNumbers (fun token=>serdeNumber token=token ∧
   integerTooLong token=false) (canonicalize (serdeValue document)):=
  allNumbers_canonicalize (fun _ htoken=>canonicalNumber_kept htoken) htokens
 have hvalid':validateCanonicalJson (canonicalize (serdeValue document))=.ok ():=by
  rw [validateCanonicalJson_ok_iff,canonicalize,height_rewriteNumbers sortMembers_perm]
  exact ⟨hheight,hcanonical.map (fun _ htoken _=>htoken.2) _ hcanonical⟩
 refine ⟨compact d (canonicalize (serdeValue document)),canonicalize (serdeValue document),
  canonicalJson_ok d hvalid,?_,?_⟩
 · apply parseCanonicalJson_compact reader (uniqueKeys_rewriteNumbers sortMembers_perm hu)
    (allNumbers_canonicalize (fun _=>isNumberToken_canonicalNumber) hnumbers) _ hvalid'
   exact hcanonical.map (fun _ htoken _=>htoken.1) _ hcanonical
 · rw [canonicalJson_ok d hvalid',canonicalize_idempotent _ hu hnumbers]
end

def minusZero : NumberToken := ⟨true,['0'],isNumeral_zero,none,none⟩

def scaledToken : NumberToken where
 negative:=false
 whole:=['1']
 whole_ok:=isNumeral_one
 fraction:=some ⟨['5','0'],isDigits_cons rfl isDigits_zero,cons_ne_nil _ _⟩
 exponent:=some ⟨false,.plus,['3'],isDigits_toDigits 3,cons_ne_nil _ _⟩

/-- The canonical text of a number with a fraction or an exponent is such a number again, of the
same sign and value and in the notation of its adjusted exponent. -/
theorem canonical_number_exact (d : StringDisplay) (t : NumberToken) (h : t.isInteger=false) :
  ∃u : NumberToken,canonicalJsonUnchecked d (.number t.text)=u.text ∧
   u.isInteger=false∧u.negative=t.negative∧u.magnitude=t.magnitude ∧
   if -4≤Int.log 10 t.magnitude∧Int.log 10 t.magnitude<16 then FixedNotation u
   else ScientificNotation u := by
 obtain ⟨u,hu,hform⟩:=exists_spells_normalText t
 refine ⟨u,?_,hu.decimal,hu.negative_eq,hu.magnitude_eq,hform⟩
 rw [canonicalJsonUnchecked,canonicalNumber_text t h,hu.text_eq]

theorem canonical_number_exact_scaled : scaledToken.text = "1.50e+3".toList ∧
  ∃u : NumberToken,canonicalJsonUnchecked serdeDisplay (.number scaledToken.text)=u.text ∧
   u.negative=false∧u.magnitude=scaledToken.magnitude := by
 obtain ⟨u,htext,-,hn,hm,-⟩:=canonical_number_exact serdeDisplay scaledToken rfl
 exact ⟨by decide,u,htext,hn,hm⟩

def sampleDocument : Value :=
 .object [("b",.number minusZero.text),("a",.array [.number scaledToken.text,.string "x\n"])]

theorem sampleDocument_fixed_point :
  parseCanonicalJson (compactReader serdeDisplay) (compact serdeDisplay sampleDocument) =
   .ok (serdeValue sampleDocument) ∧
  canonicalJson serdeDisplay (serdeValue sampleDocument) =
   .ok "\x7b\"a\":[1500.0,\"x\\n\"],\"b\":0\x7d".toList ∧
  ∃output w,canonicalJson serdeDisplay (serdeValue sampleDocument)=.ok output ∧
   parseCanonicalJson (compactReader serdeDisplay) output=.ok w ∧
   canonicalJson serdeDisplay w=.ok output := by
 have hn:AllNumbers IsNumberToken sampleDocument:=
  ⟨⟨minusZero,rfl⟩,⟨⟨scaledToken,rfl⟩,trivial,trivial⟩,trivial⟩
 have hread:=(compactReader serdeDisplay).complete sampleDocument hn (by decide)
 have hparse:parseCanonicalJson (compactReader serdeDisplay)
   (compact serdeDisplay sampleDocument)=.ok (serdeValue sampleDocument):=by
  unfold parseCanonicalJson
  rw [hread,if_neg (by decide +kernel)]
  decide +kernel
 refine ⟨hparse,by decide +kernel,?_⟩
 exact canonical_json_fixed_point (compactReader serdeDisplay) _ _ hparse

end GraphBlocks.CanonicalJson
