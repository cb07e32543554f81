import GraphBlocks.NumberNormalForm
import Mathlib.Data.Int.Log
import Mathlib.Data.Rat.Floor

namespace GraphBlocks.NumberEncoding

open DigitStrings JsonNumber List

section
variable {t u:NumberToken}

lemma negative_of_text(h:t.text=u.text):t.negative=u.negative:=by
 have ht:=head_text t
 have hu:=head_text u
 rw [h,hu] at ht
 exact (Bool.eq_iff_iff.mpr (by rw [ht])).symm

lemma unsignedText_of_text(h:t.text=u.text):t.unsignedText=u.unsignedText:=by
 rw [←unsigned_of_text t,←unsigned_of_text u,negative_of_text h,h]

lemma magnitude_of_text(h:t.text=u.text):t.magnitude=u.magnitude:=by
 have hsplit:=splitOnce_unsignedText t
 rw [unsignedText_of_text h,splitOnce_unsignedText u] at hsplit
 have hmantissa:u.mantissaText=t.mantissaText:=congrArg Prod.fst hsplit
 have hexponent:u.exponent.elim ['0'] NumberToken.exponentText =
   t.exponent.elim ['0'] NumberToken.exponentText:=congrArg Prod.snd hsplit
 have hdigits:t.digits=u.digits:=by rw [←filter_mantissaText t,←filter_mantissaText u,hmantissa]
 have hlength:t.fractionDigits.length=u.fractionDigits.length:=by
  rw [←fractional_length t,←fractional_length u,hmantissa]
 have hvalue:t.exponentValue=u.exponentValue:=by
  rw [←(exponent_read t).2,←(exponent_read u).2,hexponent]
 unfold NumberToken.magnitude
 rw [hdigits,hlength,hvalue]

lemma isInteger_of_text(h:t.text=u.text):t.isInteger=u.isInteger:=by
 have ht:=hasDecimalMark_text t
 rw [h,hasDecimalMark_text u] at ht
 exact (Bool.not_inj ht).symm

lemma normalText_congr(hn:t.negative=u.negative)(hm:t.magnitude=u.magnitude):
  normalText t=normalText u:=by
 have hzero:t.significant=[]↔u.significant=[]:=by
  rw [←t.magnitude_eq_zero_iff,←u.magnitude_eq_zero_iff,hm]
 unfold normalText
 by_cases hs:t.significant=[]
 · rw [if_pos hs,if_pos (hzero.mp hs),hn]
 · have hus:u.significant≠[]:=fun h=>hs (hzero.mpr h)
   obtain ⟨hc,he⟩:=(NumberToken.magnitude_eq_iff hs hus).mp hm
   rw [if_neg hs,if_neg hus,hn,hc,he]
end

/-- A token that spells `text` and denotes the signed number of `t`. -/
structure Spells (text:List Char) (t u:NumberToken) : Prop where
 decimal:u.isInteger=false
 text_eq:u.text=text
 negative_eq:u.negative=t.negative
 magnitude_eq:u.magnitude=t.magnitude

/-- A fraction but no exponent; the last digit is needed. -/
def FixedNotation (u:NumberToken) : Prop :=
 u.exponent=none∧(u.fractionDigits=['0']∨u.fractionDigits.getLast?≠some '0')

/-- One digit before the point, not zero, and an exponent; the last digit is needed. -/
def ScientificNotation (u:NumberToken) : Prop :=
 u.exponent≠none∧u.whole.length=1∧u.whole≠['0']∧u.fractionDigits.getLast?≠some '0'

lemma isDigits_zero:IsDigits ['0']:=by simp [IsDigits]

lemma isNumeral_zero:IsNumeral ['0']:=⟨isDigits_zero,by simp,by simp⟩

lemma exists_pointToken(negative:Bool){whole fraction:List Char}(hw:IsNumeral whole)
  (hf:IsDigits fraction)(hne:fraction≠[]):
  ∃u : NumberToken,u.isInteger=false∧u.negative=negative ∧
   u.text=(if negative then ['-'] else [])++(whole ++ '.' :: fraction) ∧
   u.magnitude=value (whole++fraction)*(10:ℚ)^(-(fraction.length:ℤ)) ∧
   u.exponent=none∧u.fractionDigits=fraction:=by
 refine ⟨⟨negative,whole,hw,some ⟨fraction,hf,hne⟩,none⟩,rfl,rfl,?_,?_,rfl,rfl⟩
 · cases negative <;>
    simp [NumberToken.text,NumberToken.unsignedText,NumberToken.mantissaText]
 · simp [NumberToken.magnitude,NumberToken.digits,NumberToken.fractionDigits,
    NumberToken.exponentValue]

section
variable {t:NumberToken}

lemma getLast?_coefficient(t:NumberToken):t.coefficient.getLast?≠some '0':=by
 intro h
 exact getLast_trimEndZeros _ (getLast_of_getLast?_eq_some h)

section
variable (hs:t.significant≠[])
include hs

lemma isNumeral_coefficient_prefix(rest:List Char)
  (hr:IsDigits rest):IsNumeral (t.coefficient++rest):=by
 apply IsNumeral.of_head (isDigits_append.mpr ⟨t.isDigits_coefficient,hr⟩)
 · simp [NumberToken.coefficient_ne_nil hs]
 · rw [List.head?_append_of_ne_nil _ (NumberToken.coefficient_ne_nil hs)]
   exact NumberToken.head_coefficient hs

lemma isNumeral_coefficient_take{n:ℕ}(hn:0<n):IsNumeral (t.coefficient.take n):=by
 have hne:=NumberToken.coefficient_ne_nil hs
 obtain ⟨c,cs,hc⟩:=exists_cons_of_ne_nil hne
 have hhead:=NumberToken.head_coefficient hs
 apply IsNumeral.of_head (fun d hd=>t.isDigits_coefficient d (mem_of_mem_take hd))
 · simp [hne]
   omega
 · rw [List.head?_take,if_neg (by omega)]
   exact hhead

lemma spells_fixed_small(hx:t.leadingExponent+1≤0):
  ∃u,Spells ((if t.negative then ['-'] else [])++fixedText t.coefficient t.leadingExponent)
   t u∧FixedNotation u:=by
 have hdigits:IsDigits (List.replicate (-(t.leadingExponent+1)).toNat '0' ++ t.coefficient):=
  isDigits_append.mpr ⟨isDigits_replicate_zero _,t.isDigits_coefficient⟩
 obtain ⟨u,hu,hn,htext,hmag,hexponent,hfraction⟩:=exists_pointToken t.negative isNumeral_zero
  hdigits
  (by simp [NumberToken.coefficient_ne_nil hs])
 have hfixed:FixedNotation u:=by
  refine ⟨hexponent,.inr ?_⟩
  rw [hfraction,List.getLast?_append_of_ne_nil _ (NumberToken.coefficient_ne_nil hs)]
  exact getLast?_coefficient t
 refine ⟨u,⟨hu,?_,hn,?_⟩,hfixed⟩
 · rw [htext]
   simp [fixedText,hx]
 · have hvalue:value (['0']++(List.replicate (-(t.leadingExponent+1)).toNat '0' ++
     t.coefficient))=value t.coefficient:=by
    rw [value_append,value_append,value_replicate_zero,value_singleton,digitValue_zero]
    omega
   have hlength : -((List.replicate (-(t.leadingExponent+1)).toNat '0' ++
     t.coefficient).length:ℤ)=t.leadingExponent+1-t.coefficient.length:=by
    rw [length_append,length_replicate]
    omega
   rw [hmag,hvalue,hlength,NumberToken.magnitude_eq]

lemma spells_fixed_large(hx:0<t.leadingExponent+1)
  (hlen:t.coefficient.length≤(t.leadingExponent+1).toNat):
  ∃u,Spells ((if t.negative then ['-'] else [])++fixedText t.coefficient t.leadingExponent)
   t u∧FixedNotation u:=by
 have hwhole:= isNumeral_coefficient_prefix hs
  (List.replicate ((t.leadingExponent+1).toNat-t.coefficient.length) '0')
  (isDigits_replicate_zero _)
 obtain ⟨u,hu,hn,htext,hmag,hexponent,hfraction⟩:=
  exists_pointToken t.negative hwhole isDigits_zero (by simp)
 refine ⟨u,⟨hu,?_,hn,?_⟩,hexponent,.inl hfraction⟩
 · rw [htext]
   simp only [fixedText,if_neg (show ¬t.leadingExponent+1≤0 by omega),if_pos hlen]
 · have hvalue:value ((t.coefficient ++
     List.replicate ((t.leadingExponent+1).toNat-t.coefficient.length) '0')++['0']) =
     value t.coefficient*10^((t.leadingExponent+1).toNat-t.coefficient.length)*10:=by
    rw [value_append,value_append,value_replicate_zero,length_replicate,value_singleton,
     digitValue_zero]
    simp
   have hexp:t.leadingExponent+1-t.coefficient.length =
     (((t.leadingExponent+1).toNat-t.coefficient.length:ℕ):ℤ):=by omega
   rw [hmag,hvalue,NumberToken.magnitude_eq,hexp,zpow_natCast]
   push_cast
   simp only [length_singleton,Nat.cast_one,zpow_neg,zpow_one]
   field_simp

lemma spells_fixed_mid(hx:0<t.leadingExponent+1)
  (hlen:¬t.coefficient.length≤(t.leadingExponent+1).toNat):
  ∃u,Spells ((if t.negative then ['-'] else [])++fixedText t.coefficient t.leadingExponent)
   t u∧FixedNotation u:=by
 have hwhole:=isNumeral_coefficient_take hs (n:=(t.leadingExponent+1).toNat) (by omega)
 have hfraction:IsDigits (t.coefficient.drop (t.leadingExponent+1).toNat):=
  fun d hd=>t.isDigits_coefficient d (mem_of_mem_drop hd)
 obtain ⟨u,hu,hn,htext,hmag,hexponent,hdrop⟩:=exists_pointToken t.negative hwhole hfraction
  (by rw [Ne,drop_eq_nil_iff];exact hlen)
 have hfixed:FixedNotation u:=by
  refine ⟨hexponent,.inr ?_⟩
  rw [hdrop,List.getLast?_drop,if_neg hlen]
  exact getLast?_coefficient t
 refine ⟨u,⟨hu,?_,hn,?_⟩,hfixed⟩
 · rw [htext]
   simp only [fixedText,if_neg (show ¬t.leadingExponent+1≤0 by omega),if_neg hlen]
   simp
 · have hexp : -((t.coefficient.drop (t.leadingExponent+1).toNat).length:ℤ) =
     t.leadingExponent+1-t.coefficient.length:=by
    rw [length_drop]
    omega
   rw [hmag,take_append_drop,hexp,NumberToken.magnitude_eq]

end

lemma isDigits_padTwo{m:List Char}(h:IsDigits m):IsDigits (padTwo m):=
 isDigits_append.mpr ⟨isDigits_replicate_zero _,h⟩

lemma value_padTwo(m:List Char):value (padTwo m)=value m:=by
 rw [padTwo,value_append,value_replicate_zero]
 omega

lemma padTwo_ne_nil(m:List Char):padTwo m≠[]:=by
 intro h
 have hlen:=congrArg List.length h
 simp only [padTwo,length_append,length_replicate,length_nil] at hlen
 omega

def fractionOf (cs:List Char) (h:IsDigits cs) : Option FractionPart :=
 if hne : cs≠[] then some ⟨cs,h,hne⟩ else none

lemma fractionOf_digits(cs:List Char)(h:IsDigits cs):
  (fractionOf cs h).elim [] FractionPart.digits=cs:=by
 by_cases hne:cs=[]
 · simp [fractionOf,hne]
 · simp [fractionOf,hne]

lemma fractionOf_text(cs:List Char)(h:IsDigits cs):
  (fractionOf cs h).elim [] (fun f => '.' :: f.digits)=if cs=[] then [] else '.' :: cs:=by
 by_cases hne:cs=[]
 · simp [fractionOf,hne]
 · simp [fractionOf,hne]

lemma spells_scientific(hs:t.significant≠[]):
  ∃u,Spells ((if t.negative then ['-'] else [])++scientificText t.coefficient
   (if t.leadingExponent<0 then '-' else '+')
   (padTwo (Nat.toDigits 10 t.leadingExponent.natAbs))) t u∧ScientificNotation u:=by
 have hdrop:IsDigits (t.coefficient.drop 1):=fun d hd=>t.isDigits_coefficient d (mem_of_mem_drop hd)
 have hpad:=isDigits_padTwo (isDigits_toDigits t.leadingExponent.natAbs)
 let u:NumberToken:=
  { negative:=t.negative
    whole:=t.coefficient.take 1
    whole_ok:=isNumeral_coefficient_take hs (by omega)
    fraction:=fractionOf (t.coefficient.drop 1) hdrop
    exponent:=some
     { upper:=false,sign:=if t.leadingExponent<0 then .minus else .plus
       digits:=padTwo (Nat.toDigits 10 t.leadingExponent.natAbs),digits_ok:=hpad
       nonempty:=padTwo_ne_nil _ } }
 have hfraction:u.fractionDigits=t.coefficient.drop 1:=fractionOf_digits _ hdrop
 have hexponent:u.exponentValue=t.leadingExponent:=by
  change (if (if t.leadingExponent<0 then ExponentSign.minus else .plus)=.minus then
   -(value (padTwo (Nat.toDigits 10 t.leadingExponent.natAbs)):ℤ)
   else value (padTwo (Nat.toDigits 10 t.leadingExponent.natAbs)))=t.leadingExponent
  rw [value_padTwo,value_toDigits]
  by_cases hneg:t.leadingExponent<0
  · simp only [hneg,if_true]
    omega
  · simp only [hneg,if_false,reduceCtorEq]
    omega
 have hscientific:ScientificNotation u:=by
  obtain ⟨c,cs,hc⟩:=exists_cons_of_ne_nil (NumberToken.coefficient_ne_nil hs)
  have hhead:=NumberToken.head_coefficient hs
  have hwhole:u.whole=[c]:=by
   change t.coefficient.take 1=[c]
   rw [hc]
   rfl
  refine ⟨by simp [u],by rw [hwhole];rfl,?_,?_⟩
  · rw [hwhole]
    simpa [hc] using hhead
  · rw [hfraction,List.getLast?_drop]
    split
    · simp
    · exact getLast?_coefficient t
 refine ⟨u,⟨?_,?_,rfl,?_⟩,hscientific⟩
 · simp [NumberToken.isInteger,u]
 · have hempty:t.coefficient.drop 1=[]↔¬1<t.coefficient.length:=by
    rw [drop_eq_nil_iff]
    omega
   have hfrac:u.fraction.elim [] (fun f => '.' :: f.digits) =
     if 1<t.coefficient.length then '.' :: t.coefficient.drop 1 else []:=by
    rw [show u.fraction=fractionOf (t.coefficient.drop 1) hdrop from rfl,fractionOf_text]
    by_cases hlen:1<t.coefficient.length
    · rw [if_pos hlen,if_neg (fun h=>(hempty.mp h) hlen)]
    · rw [if_neg hlen,if_pos (hempty.mpr hlen)]
   unfold NumberToken.text NumberToken.unsignedText NumberToken.mantissaText scientificText
   rw [hfrac]
   by_cases hneg:t.leadingExponent<0 <;>
    simp [u,NumberToken.exponentMark,NumberToken.exponentText,ExponentSign.text,hneg]
 · have hlen:1≤t.coefficient.length:=length_pos_of_ne_nil (NumberToken.coefficient_ne_nil hs)
   have hdigits:u.digits=t.coefficient:=by
    change t.coefficient.take 1++u.fractionDigits=t.coefficient
    rw [hfraction,take_append_drop]
   have hexp:t.leadingExponent-(t.coefficient.length-1:ℕ) =
     t.leadingExponent+1-t.coefficient.length:=by omega
   have hmag:u.magnitude=value u.digits*(10:ℚ)^(u.exponentValue-u.fractionDigits.length):=rfl
   rw [hmag,hdigits,hfraction,hexponent,length_drop,hexp,NumberToken.magnitude_eq t]
end

lemma log_magnitude{t:NumberToken}(hs:t.significant≠[]):
  Int.log 10 t.magnitude=t.leadingExponent:=by
 obtain ⟨hlow,hhigh⟩:=NumberToken.magnitude_bounds hs
 have hpos:0<t.magnitude:=lt_of_lt_of_le (by positivity) hlow
 have hlt:Int.log 10 t.magnitude<t.leadingExponent+1:=
  (Int.lt_zpow_iff_log_lt (by norm_num) hpos).mp (by exact_mod_cast hhigh)
 have hle:t.leadingExponent≤Int.log 10 t.magnitude:=
  (Int.zpow_le_iff_le_log (by norm_num) hpos).mp (by exact_mod_cast hlow)
 omega

/-- The fixed notation is for the adjusted exponents from -4 to 15, that of zero being 0. -/
lemma exists_spells_normalText(t:NumberToken):∃u,Spells (normalText t) t u ∧
  if -4≤Int.log 10 t.magnitude∧Int.log 10 t.magnitude<16 then FixedNotation u
  else ScientificNotation u:=by
 unfold normalText
 split
 · next hs=>
   have hzero:=t.magnitude_eq_zero_iff.mpr hs
   obtain ⟨u,hu,hn,htext,hmag,hexponent,hfraction⟩:=
    exists_pointToken t.negative isNumeral_zero isDigits_zero (by simp)
   refine ⟨u,⟨hu,?_,hn,?_⟩,?_⟩
   · rw [htext]
     cases t.negative <;>rfl
   · rw [hmag,hzero]
     have hvalue:value (['0']++['0'])=0:=rfl
     rw [hvalue,Nat.cast_zero,zero_mul]
   · rw [hzero,Int.log_zero_right,if_pos (by decide)]
     exact ⟨hexponent,.inl hfraction⟩
 · next hs=>
   unfold decimalText
   rw [log_magnitude hs]
   by_cases hrange : -4≤t.leadingExponent∧t.leadingExponent<16
   · simp only [if_pos hrange]
     by_cases hpoint:t.leadingExponent+1≤0
     · exact spells_fixed_small hs hpoint
     · by_cases hlen:t.coefficient.length≤(t.leadingExponent+1).toNat
       · exact spells_fixed_large hs (by omega) hlen
       · exact spells_fixed_mid hs (by omega) hlen
   · simp only [if_neg hrange]
     exact spells_scientific hs

lemma normalText_eq_iff(t u:NumberToken):
  normalText t=normalText u↔t.negative=u.negative∧t.magnitude=u.magnitude:=by
 constructor
 · intro h
   obtain ⟨a,ha,-⟩:=exists_spells_normalText t
   obtain ⟨b,hb,-⟩:=exists_spells_normalText u
   have htext:a.text=b.text:=by rw [ha.text_eq,hb.text_eq,h]
   constructor
   · rw [←ha.negative_eq,←hb.negative_eq,negative_of_text htext]
   · rw [←ha.magnitude_eq,←hb.magnitude_eq,magnitude_of_text htext]
 · rintro ⟨hn,hm⟩
   exact normalText_congr hn hm

end GraphBlocks.NumberEncoding
