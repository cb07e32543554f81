import GraphBlocks.CanonicalJsonIdentity

/-! The first loop of `parse_canonical_json` finds exactly the number tokens of a compact text, so
it accepts the text of a value whose integers are short enough. -/
namespace GraphBlocks.CanonicalJson

open Json JsonNumber NumberEncoding List Option

/-- The scan accepts the text after any character. -/
def Scans (r:List Char) : Prop := ∀fuel previous,r.length≤fuel→integersWithin fuel previous r=true

/-- The scan accepts the text where a number may begin. -/
def ScansFresh (r:List Char) : Prop :=
 ∀fuel previous,beforeNumber previous=true → r.length≤fuel→integersWithin fuel previous r=true

lemma scans_nil:Scans []:=by
 intro fuel previous _
 cases fuel <;>rfl

variable {r:List Char}

lemma Scans.fresh(h:Scans r):ScansFresh r:=fun fuel previous _ hlen=>h fuel previous hlen

variable {c:Char} {cs:List Char}

section
variable (hq:c ≠ '"') (hd:(c.isDigit||c == '-')=false)
include hq hd

lemma integersWithin_cons(fuel:ℕ)(previous:Option Char):
  integersWithin (fuel+1) previous (c::cs)=integersWithin fuel (some c) cs:=by
 rw [integersWithin,if_neg hq,hd]
 rfl

lemma Scans.cons(h:Scans cs):Scans (c::cs):=by
 intro fuel previous hlen
 cases fuel with
 | zero=>rfl
 | succ fuel=>
  rw [integersWithin_cons hq hd]
  exact h fuel (some c) (by simpa using hlen)

lemma ScansFresh.cons(hb:beforeNumber (some c)=true)(h:ScansFresh cs):Scans (c::cs):=by
 intro fuel previous hlen
 cases fuel with
 | zero=>rfl
 | succ fuel=>
  rw [integersWithin_cons hq hd]
  exact h fuel (some c) hb (by simpa using hlen)

end

lemma skipString_body{body:List Char}(h:LiteralBody body)(r:List Char):
  skipString (body ++ '"' :: r)=r:=by
 induction h with
 | nil=>cases r <;>simp [skipString]
 | @plain c cs hq hs h ih=>
  obtain ⟨e,rest,hrest⟩:∃e rest,cs ++ '"' :: r=e::rest:=by cases cs <;>simp
  rw [cons_append,hrest,skipString,if_neg hs,if_neg hq,←hrest,ih]
 | @escape c cs h ih=>rw [cons_append,cons_append,skipString,if_pos rfl,ih]

lemma scans_string(d:StringDisplay)(s:String)(h:Scans r):Scans (d.display s++r):=by
 obtain ⟨body,hs,hb⟩:=d.literal s
 intro fuel previous hlen
 cases fuel with
 | zero=>rfl
 | succ fuel=>
  rw [hs] at hlen ⊢
  simp only [cons_append,append_assoc,nil_append,length_cons,length_append] at hlen ⊢
  rw [integersWithin,if_pos rfl,skipString_body hb]
  exact h fuel _ (by omega)

def afterWhole (t:NumberToken) : List Char :=
 t.fraction.elim [] (fun f => '.' :: f.digits) ++
  t.exponent.elim [] (fun e=>NumberToken.exponentMark e::NumberToken.exponentText e)

lemma unsignedText_eq(t:NumberToken):t.unsignedText=t.whole++afterWhole t:=by
 simp [NumberToken.unsignedText,NumberToken.mantissaText,afterWhole]

lemma afterWhole_integer{t:NumberToken}(h:t.isInteger=true):afterWhole t=[]:=by
 simp only [NumberToken.isInteger,Bool.and_eq_true,isNone_iff_eq_none] at h
 simp [afterWhole,h.1,h.2]

lemma afterWhole_decimal{t:NumberToken}(h:t.isInteger=false):
  ∃c cs,afterWhole t=c::cs∧isDecimalMark c=true∧c.isDigit=false:=by
 unfold afterWhole
 cases hf:t.fraction with
 | some f=>exact ⟨'.',_,rfl,rfl,rfl⟩
 | none=>
  cases he:t.exponent with
  | none=>simp [NumberToken.isInteger,hf,he] at h
  | some e=>
   refine ⟨NumberToken.exponentMark e,_,rfl,?_,?_⟩ <;>
    cases hu:e.upper <;>simp [NumberToken.exponentMark,hu,isDecimalMark]

lemma afterWhole_numberChar(t:NumberToken)(c:Char)(hc:c∈afterWhole t):isNumberChar c=true:=by
 apply isNumberChar_text t
 unfold NumberToken.text
 rw [unsignedText_eq]
 simp [hc]

lemma stops_not_digit(h:Stops r)(c:Char)(hc:r.head?=some c):c.isDigit=false:=by
 have hn:=h c hc
 simp only [isNumberChar,Bool.or_eq_false_iff] at hn
 exact hn.1.1.1.1.1

lemma span_whole(t:NumberToken)(hr:Stops r):(t.unsignedText++r).takeWhile Char.isDigit=t.whole ∧
   (t.unsignedText++r).dropWhile Char.isDigit=afterWhole t++r:=by
 have hdigits:∀c∈t.whole,c.isDigit=true:=t.whole_ok.digits
 have hhead:∀c,(afterWhole t++r).head?=some c→c.isDigit=false:=by
  intro c hc
  cases hi:t.isInteger with
  | true=>
   rw [afterWhole_integer hi,nil_append] at hc
   exact stops_not_digit hr c hc
  | false=>
   obtain ⟨e,cs,he,-,hd⟩:=afterWhole_decimal hi
   rw [he,cons_append,List.head?_cons,Option.some.injEq] at hc
   rw [←hc]
   exact hd
 rw [unsignedText_eq,append_assoc,takeWhile_append_of_pos hdigits,dropWhile_append_of_pos hdigits]
 cases hrest:afterWhole t++r with
 | nil=>simp
 | cons c cs=>
  have hc:c.isDigit=false:=hhead c (by rw [hrest];rfl)
  simp [hc]

lemma dropWhile_afterWhole(t:NumberToken)(hr:Stops r):
  (afterWhole t++r).dropWhile isNumberChar=r:=by
 rw [dropWhile_append_of_pos (afterWhole_numberChar t)]
 cases r with
 | nil=>rfl
 | cons c r=>
  have hc:isNumberChar c=false:=hr c rfl
  simp [hc]

lemma scansFresh_number(t:NumberToken)(hr:Stops r)
  (hlen:t.isInteger=true→t.whole.length≤ maxCanonicalIntegerDigits)(h:Scans r):
  ScansFresh (t.text++r):=by
 intro fuel previous hprevious hfuel
 obtain ⟨c,cs,hw⟩:=exists_cons_of_ne_nil t.whole_ok.nonempty
 have hc:c.isDigit=true:=t.whole_ok.digits c (by simp [hw])
 have hspan:=span_whole t hr
 have hflag:¬(t.whole≠[]∧(afterWhole t++r).head?.any isDecimalMark=false ∧
   maxCanonicalIntegerDigits<t.whole.length):=by
  rintro ⟨-,hmark,hlong⟩
  cases hi:t.isInteger with
  | true=>exact absurd (hlen hi) (by omega)
  | false=>
   obtain ⟨e,es,he,hm,-⟩:=afterWhole_decimal hi
   rw [he,cons_append,List.head?_cons,any_some,hm] at hmark
   exact Bool.noConfusion hmark
 have hlong:r.length<(t.text++r).length:=by
  have htext:0<t.text.length:=by
   unfold NumberToken.text
   rw [unsignedText_eq,hw]
   simp
  rw [length_append]
  omega
 cases fuel with
 | zero=>omega
 | succ fuel=>
  -- The head of the token and what the source calls the unsigned part.
  obtain ⟨e,es,htext,hquote,hstart,hunsigned⟩:∃e es,t.text++r=e::es∧e ≠ '"' ∧
    (e.isDigit||e == '-')=true ∧
    (if e = '-' then es else e::es)=t.unsignedText++r:=by
   cases hn:t.negative with
   | true=>
    refine ⟨'-',t.unsignedText++r,?_,by decide,rfl,if_pos rfl⟩
    simp [NumberToken.text,hn]
   | false=>
    have hne:=isDigit_ne hc (show '-'.isDigit=false by decide)
    have hq:=isDigit_ne hc (show '"'.isDigit=false by decide)
    refine ⟨c,cs++afterWhole t++r,?_,hq,by simp [hc],?_⟩
    · simp [NumberToken.text,hn,unsignedText_eq,hw]
    · rw [if_neg hne,unsignedText_eq,hw]
      simp
  rw [htext,integersWithin,if_neg hquote,hstart,hprevious,Bool.and_true,Bool.not_true]
  simp only [Bool.false_eq_true,if_false,hunsigned,hspan.1,hspan.2,dropWhile_afterWhole t hr]
  rw [if_neg hflag]
  exact h fuel _ (by omega)

section
variable (d:StringDisplay)

lemma scans_close_array(h:Scans r):Scans (']' :: r):=Scans.cons (by decide) (by decide) h

lemma scans_close_object(h:Scans r):Scans ('}' :: r):=Scans.cons (by decide) (by decide) h

/-- The scan accepts a value in front of every text that it accepts. -/
def ScansValue (v:Value) : Prop :=
 AllNumbers IsNumberToken v→AllNumbers (fun token=>integerTooLong token=false) v →
  ∀r,Stops r→Scans r→ScansFresh (compact d v++r)

lemma scans_itemsTail(items:List Value)(hi:∀v∈items,ScansValue d v)
  (hn:AllNumbersItems IsNumberToken items)
  (hl:AllNumbersItems (fun token=>integerTooLong token=false) items)(h:Scans r):
  Scans (compactItemsTail d items ++ ']' :: r):=by
 induction items with
 | nil=>exact scans_close_array h
 | cons v items ih=>
  rw [compactItemsTail,cons_append,append_assoc]
  apply ScansFresh.cons (by decide) (by decide) (by decide)
  exact hi v (by simp) hn.1 hl.1 _ (stops_itemsTail d items r)
   (ih (fun w hw=>hi w (by simp [hw])) hn.2 hl.2)

lemma scans_membersTail(members:Members)(hi:∀e∈members,ScansValue d e.2)
  (hn:AllNumbersMembers IsNumberToken members)
  (hl:AllNumbersMembers (fun token=>integerTooLong token=false) members)(h:Scans r):
  Scans (compactMembersTail d members ++ '}' :: r):=by
 induction members with
 | nil=>exact scans_close_object h
 | cons e members ih=>
  obtain ⟨k,v⟩:=e
  rw [compactMembersTail,cons_append,append_assoc,cons_append,append_assoc]
  apply Scans.cons (by decide) (by decide)
  apply scans_string
  apply ScansFresh.cons (by decide) (by decide) (by decide)
  exact hi (k,v) (by simp) hn.1 hl.1 _ (stops_membersTail d members r)
   (ih (fun f hf=>hi f (by simp [hf])) hn.2 hl.2)

lemma scansValue(v:Value):ScansValue d v:=by
 apply InductionCases.value (P:=ScansValue d)
 constructor
 · intro _ _ r _ h
   apply Scans.fresh
   exact Scans.cons (by decide) (by decide) (Scans.cons (by decide) (by decide)
    (Scans.cons (by decide) (by decide) (Scans.cons (by decide) (by decide) h)))
 · intro b _ _ r _ h
   apply Scans.fresh
   cases b with
   | true=>
    exact Scans.cons (by decide) (by decide) (Scans.cons (by decide) (by decide)
     (Scans.cons (by decide) (by decide) (Scans.cons (by decide) (by decide) h)))
   | false=>
    exact Scans.cons (by decide) (by decide) (Scans.cons (by decide) (by decide)
     (Scans.cons (by decide) (by decide) (Scans.cons (by decide) (by decide)
      (Scans.cons (by decide) (by decide) h))))
 · rintro token hn hl r hr h
   obtain ⟨t,rfl⟩:IsNumberToken token:=hn
   apply scansFresh_number t hr _ h
   intro hi
   have hmark:hasDecimalMark t.text=false:=by rw [hasDecimalMark_text,hi];rfl
   have hlen:=(integerTooLong_eq_false_iff t.text).mp hl hmark
   have hunsigned:unsignedToken t.text=t.whole:=by
    unfold unsignedToken
    simp only [head_text]
    rw [unsigned_of_text,unsignedText_eq,afterWhole_integer hi,append_nil]
   rwa [hunsigned] at hlen
 · intro s _ _ r _ h
   exact (scans_string d s h).fresh
 · intro items ih hn hl r _ h
   rw [compact,cons_append,append_assoc,singleton_append]
   apply Scans.fresh
   cases items with
   | nil=>exact Scans.cons (by decide) (by decide) (scans_close_array h)
   | cons v items=>
    rw [compactItems,append_assoc]
    apply ScansFresh.cons (by decide) (by decide) (by decide)
    exact ih v (by simp) hn.1 hl.1 _ (stops_itemsTail d items r)
     (scans_itemsTail d items (fun w hw=>ih w (by simp [hw])) hn.2 hl.2 h)
 · intro members ih hn hl r _ h
   rw [compact,cons_append,append_assoc,singleton_append]
   apply Scans.fresh
   cases members with
   | nil=>exact Scans.cons (by decide) (by decide) (scans_close_object h)
   | cons e members=>
    obtain ⟨k,v⟩:=e
    rw [compactMembers,append_assoc,cons_append,append_assoc]
    apply Scans.cons (by decide) (by decide)
    apply scans_string
    apply ScansFresh.cons (by decide) (by decide) (by decide)
    exact ih (k,v) (by simp) hn.1 hl.1 _ (stops_membersTail d members r)
     (scans_membersTail d members (fun f hf=>ih f (by simp [hf])) hn.2 hl.2 h)

lemma integersWithin_compact{v:Value}(hn:AllNumbers IsNumberToken v)
  (hl:AllNumbers (fun token=>integerTooLong token=false) v):
  integersWithin (compact d v).length none (compact d v)=true:=by
 have h:=scansValue d v hn hl [] (by simp [Stops]) scans_nil (compact d v).length none rfl
  (by simp)
 rwa [append_nil] at h
end

end GraphBlocks.CanonicalJson
