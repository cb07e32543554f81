import GraphBlocks.PolicyInstants

namespace GraphBlocks.PolicyTime
open DigitStrings RustStd Rfc3339 List Option

/-- Where a text that is read can leave the grammar: the six fields start with a digit, a
point is followed by one, and an offset comes after the seconds. -/
structure Strict (cs:List Char) : Prop where
 fields:∀i∈[0,5,8,11,14,17],∀c∈cs[i]?,c.isDigit=true
 point:cs[19]?=some '.' → ∃c∈cs[20]?,c.isDigit=true
 offset:∃c∈cs.drop 19,isZulu c∨isSign c=true

lemma accepted_parts{text:String}{millis:ℤ}(h:parsePolicyDatetimeMillis text=some millis):
  ∃date mark rest time parsedDate parsedTime seconds,
   trimChars text.toList=date++mark::rest∧(mark = 'T' ∨ mark = 't') ∧
   parsePolicyDate date=some parsedDate ∧
   splitPolicyTimeOffset rest=some (time,seconds)∧parsePolicyTime time=some parsedTime:=by
 unfold parsePolicyDatetimeMillis at h
 simp only at h
 generalize trimChars text.toList=cs at h ⊢
 split at h
 · cases h
 split at h
 · cases h
 next marked=>
 have found:(if cs.contains 'T' then 'T' else 't')∈cs:=by
  split
  · next h=>exact contains_iff_mem.mp h
  · next h=>
    simp only [h,Bool.not_false,Bool.true_and,Bool.not_eq_true',Bool.not_eq_false] at marked
    exact contains_iff_mem.mp marked
 generalize hmark:(if cs.contains 'T' then 'T' else 't')=mark at h found
 simp only [bind_eq_bind,bind_eq_some_iff] at h
 obtain ⟨parsedDate,hdate,⟨time,seconds⟩,hsplit,parsedTime,htime,-⟩:=h
 refine ⟨_,mark,_,time,parsedDate,parsedTime,seconds,?_,?_,hdate,hsplit,htime⟩
 · have whole:=takeWhile_append_dropWhile (p:=(· != mark)) (l:=cs)
   obtain ⟨c,rest,hdrop⟩:=exists_cons_of_ne_nil
    (l:=cs.dropWhile (· != mark)) (by simpa using found)
   have same:=head?_dropWhile (p:=(· != mark)) (l:=cs) (a:=c) (by rw [hdrop];rfl)
   obtain rfl:c=mark:=by simpa using same
   rw [hdrop] at whole ⊢
   exact whole.symm
 · rw [←hmark]
   split
   · exact .inl rfl
   · exact .inr rfl

lemma digits_of_parse{cs:List Char}{n:ℤ}(read:parseSigned cs=some n)
  (first:∀c∈cs.head?,c.isDigit=true):IsDigits cs:=by
 obtain ⟨c,rest,rfl,digits,-⟩:=parseSigned_some read
 intro d hd
 rcases mem_cons.mp hd with rfl|hd
 · exact first d rfl
 · exact digits d hd

lemma offset_of_parse{sign:Char}{tail:List Char}{seconds:ℤ}(signed:isSign sign=true)
  (plain:∀c∈tail,isSign c=false)(read:parseOffset (sign::tail)=some seconds):
  ∃offset : Offset,offset.text=sign::tail:=by
 obtain ⟨h,m,hours,minutes,rfl,hh,hm,hhours,hminutes,-⟩:=parseOffset_some.mp read
 have digits {cs:List Char} {n:ℤ} (read:parseSigned cs=some n)
   (free:∀c∈cs,isSign c=false):IsDigits cs:=by
  obtain ⟨c,rest,rfl,-,first⟩:=parseSigned_some read
  refine digits_of_parse read fun d hd=>?_
  cases hd
  rcases first with first|first
  · exact first
  · rw [free c mem_cons_self] at first
    cases first
 refine ⟨.numeric sign (by simpa [isSign] using signed)
  ⟨h,digits hhours fun c hc=>plain c (mem_append_left _ hc),hh⟩
  ⟨m,digits hminutes fun c hc=>plain c (mem_append_right _ (mem_cons_of_mem _ hc)),hm⟩,?_⟩
 rfl

lemma DateTime.strict(t:DateTime):Strict t.text:=by
 obtain ⟨⟨year,hyear,ly⟩,⟨month,hmonth,lm⟩,⟨day,hday,ld⟩,mark,marked,⟨hour,hhour,lh⟩,
  ⟨minute,hminute,lmin⟩,⟨second,hsecond,ls⟩,⟨fraction,hfraction⟩,offset⟩:=t
 obtain ⟨a,b,rfl,ha,hb⟩:=cut (n:=2) (m:=2) ly
 obtain ⟨y₁,y₂,rfl⟩:=length_eq_two.mp ha
 obtain ⟨y₃,y₄,rfl⟩:=length_eq_two.mp hb
 obtain ⟨m₁,m₂,rfl⟩:=length_eq_two.mp lm
 obtain ⟨d₁,d₂,rfl⟩:=length_eq_two.mp ld
 obtain ⟨h₁,h₂,rfl⟩:=length_eq_two.mp lh
 obtain ⟨n₁,n₂,rfl⟩:=length_eq_two.mp lmin
 obtain ⟨s₁,s₂,rfl⟩:=length_eq_two.mp ls
 constructor
 · intro i hi c hc
   simp only [mem_cons,not_mem_nil,or_false] at hi
   rcases hi with rfl|rfl|rfl|rfl|rfl|rfl
   · cases hc
     exact hyear _ (by simp)
   · cases hc
     exact hmonth _ (by simp)
   · cases hc
     exact hday _ (by simp)
   · cases hc
     exact hhour _ (by simp)
   · cases hc
     exact hminute _ (by simp)
   · cases hc
     exact hsecond _ (by simp)
 · intro point
   cases fraction with
   | nil=>
    change (offset.text)[0]?=some '.' at point
    rcases offset_chars (mem_of_getElem? point) with h|h
    · cases h
    · exact absurd h (by decide)
   | cons f fraction=>exact ⟨f,rfl,hfraction f mem_cons_self⟩
 · have after:offset.text ⊆ (DateTime.text ⟨⟨_,hyear,ly⟩,⟨_,hmonth,lm⟩,⟨_,hday,ld⟩,mark,marked,
     ⟨_,hhour,lh⟩,⟨_,hminute,lmin⟩,⟨_,hsecond,ls⟩,⟨fraction,hfraction⟩,offset⟩).drop 19:=by
    intro c hc
    change c∈(if fraction=[] then [] else '.' :: fraction)++offset.text
    exact mem_append_right _ hc
   cases offset with
   | zulu letter written=>exact ⟨letter,after mem_cons_self,.inl written⟩
   | numeric sign signed hours minutes=>
    refine ⟨sign,after mem_cons_self,.inr ?_⟩
    simpa [isSign] using signed

theorem accepted_grammatical_iff (text : String)
  (accepted : (parsePolicyDatetimeMillis text).isSome) :
  (∃t:DateTime,trimChars text.toList=t.text)↔Strict (trimChars text.toList) := by
 constructor
 · rintro ⟨t,same⟩
   rw [same]
   exact DateTime.strict t
 obtain ⟨millis,read⟩:=isSome_iff_exists.mp accepted
 obtain ⟨date,mark,rest,time,⟨year,month,day⟩,⟨hour,minute,second,ms⟩,seconds,whole,marked,hdate,
  hsplit,htime⟩:=accepted_parts read
 obtain ⟨y,m,d,rfl,ly,lm,ld,hy,hm,hd⟩:=parsePolicyDate_some.mp hdate
 obtain ⟨h,n,s,tail,fraction,rfl,htail,lh,ln,ls,hfraction,hh,hn,hs,-⟩:=parsePolicyTime_some.mp htime
 rw [whole]
 rintro ⟨fields,point,offset⟩
 obtain ⟨a,b,rfl,la,lb⟩:=cut (n:=2) (m:=2) ly
 obtain ⟨y₁,y₂,rfl⟩:=length_eq_two.mp la
 obtain ⟨y₃,y₄,rfl⟩:=length_eq_two.mp lb
 obtain ⟨m₁,m₂,rfl⟩:=length_eq_two.mp lm
 obtain ⟨d₁,d₂,rfl⟩:=length_eq_two.mp ld
 obtain ⟨h₁,h₂,rfl⟩:=length_eq_two.mp lh
 obtain ⟨n₁,n₂,rfl⟩:=length_eq_two.mp ln
 obtain ⟨s₁,s₂,rfl⟩:=length_eq_two.mp ls
 obtain ⟨written,rfl⟩:∃written:Offset,
   rest=([h₁,h₂] ++ ':' :: ([n₁,n₂] ++ ':' :: [s₁,s₂]))++tail++written.text:=by
  rcases split_cases hsplit with ⟨letter,zulu,rfl⟩|⟨sign,field,signed,rfl,plain,hoffset⟩ |
   ⟨rfl,plain,last⟩
  · exact ⟨.zulu letter zulu,rfl⟩
  · obtain ⟨written,same⟩:=offset_of_parse signed plain hoffset
    exact ⟨written,by rw [same]⟩
  · -- without an offset only the fraction comes after the seconds
    obtain ⟨c,hc,mark⟩:=offset
    change c∈tail at hc
    rcases htail with ⟨rfl,rfl⟩|rfl
    · cases hc
    · rcases mem_cons.mp hc with rfl|hc
      · rcases mark with (mark|mark)|mark <;>cases mark
      · have digit:=hfraction c hc
        rcases mark with (rfl|rfl)|mark
        · cases digit
        · cases digit
        · rw [not_sign_of_isDigit digit] at mark
          cases mark
 have fractional:tail=if fraction=[] then [] else '.' :: fraction:=by
  rcases htail with ⟨rfl,rfl⟩|rfl
  · rfl
  cases fraction with
  | cons f fraction=>rfl
  | nil=>
   obtain ⟨c,hc,digit⟩:=point rfl
   change c∈(written.text)[0]? at hc
   cases written with
   | zulu letter zulu=>
    cases hc
    rcases zulu with rfl|rfl <;>cases digit
   | numeric sign signed hours minutes=>
    cases hc
    rcases signed with rfl|rfl <;>cases digit
 have digits (i:ℕ) (hi:i∈[0,5,8,11,14,17]) {cs:List Char} {k:ℤ}
   (read:parseSigned cs=some k) (first:∀c∈cs.head?,c ∈
    ([y₁,y₂]++[y₃,y₄] ++ '-' :: ([m₁,m₂] ++ '-' :: [d₁,d₂])++mark::(([h₁,h₂] ++
     ':' :: ([n₁,n₂] ++ ':' :: [s₁,s₂]))++tail++written.text))[i]?):IsDigits cs:=
  digits_of_parse read fun c hc=>fields i hi c (first c hc)
 refine ⟨⟨⟨_,digits 0 (by simp) hy fun c hc => ?_,ly⟩,
  ⟨_,digits 5 (by simp) (parseSigned_of_parseUnsigned hm) fun c hc => ?_,lm⟩,
  ⟨_,digits 8 (by simp) (parseSigned_of_parseUnsigned hd) fun c hc => ?_,ld⟩,mark,marked,
  ⟨_,digits 11 (by simp) (parseSigned_of_parseUnsigned hh) fun c hc => ?_,lh⟩,
  ⟨_,digits 14 (by simp) (parseSigned_of_parseUnsigned hn) fun c hc => ?_,ln⟩,
  ⟨_,digits 17 (by simp) (parseSigned_of_parseUnsigned hs) fun c hc => ?_,ls⟩,
  ⟨fraction,hfraction⟩,written⟩,?_⟩
 iterate 6 exact hc
 simp only [DateTime.text,DateTime.dateText,DateTime.timeText,DateTime.clockText,
  DateTime.fractionText,fractional]

theorem localEvening_grammatical :
  ∃t : DateTime,trimChars "2024-02-29T23:59:59.9999+05:30".toList=t.text := by
 have read:(parsePolicyDatetimeMillis "2024-02-29T23:59:59.9999+05:30").isSome=true:=by
  decide +kernel
 refine (accepted_grammatical_iff _ read).mpr ⟨?_,fun _=>⟨'9',rfl,rfl⟩,'+',?_,.inr rfl⟩
 · intro i hi c hc
   simp only [mem_cons,not_mem_nil,or_false] at hi
   rcases hi with rfl|rfl|rfl|rfl|rfl|rfl <;>cases hc <;>rfl
 · decide +kernel

theorem signed_month_accepted : ¬ ∀text : String,(parsePolicyDatetimeMillis text).isSome=true →
  ∃t : DateTime,trimChars text.toList=t.text := by
 intro grammatical
 obtain ⟨t,same⟩:=grammatical "2024-+2-28T00:00:00" (by decide +kernel)
 have strict:=DateTime.strict t
 rw [←same] at strict
 cases strict.fields 5 (by simp) '+' rfl

end GraphBlocks.PolicyTime
