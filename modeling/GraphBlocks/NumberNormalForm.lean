import GraphBlocks.NumberArithmetic

namespace GraphBlocks.NumberEncoding

open DigitStrings JsonNumber List Option

def decimalText (negative:Bool) (coefficient:List Char) (exponent:ℤ) : List Char :=
 (if negative then ['-'] else []) ++if -4≤exponent∧exponent<16 then fixedText coefficient exponent
  else scientificText coefficient (if exponent<0 then '-' else '+')
   (padTwo (Nat.toDigits 10 exponent.natAbs))

def zeroText (negative:Bool) : List Char := if negative then ['-','0','.','0'] else ['0','.','0']

def normalText (t:NumberToken) : List Char :=
 if t.significant=[] then zeroText t.negative
 else decimalText t.negative t.coefficient t.leadingExponent

lemma splitOnce_none{p:Char→Bool}{cs:List Char}(h:∀c∈cs,p c=false):splitOnce p cs=none:=by
 induction cs with
 | nil=>rfl
 | cons c cs ih=>simp [splitOnce,h c (by simp),ih (fun d hd=>h d (by simp [hd]))]

lemma splitOnce_append{p:Char→Bool}{a b:List Char}{c:Char}
  (ha:∀d∈a,p d=false)(hc:p c=true):splitOnce p (a++c::b)=some (a,b):=by
 induction a with
 | nil=>simp [splitOnce,hc]
 | cons d a ih=>simp [splitOnce,ha d (by simp),ih (fun e he=>ha e (by simp [he]))]

lemma isDigit_ne{c d:Char}(h:c.isDigit=true)(hd:d.isDigit=false):c≠d:=by
 intro heq
 rw [heq,hd] at h
 exact Bool.false_ne_true h

lemma isDecimalMark_of_isDigit{c:Char}(h:c.isDigit=true):isDecimalMark c=false:=by
 simp [isDecimalMark,isDigit_ne h (show '.'.isDigit=false by decide),
  isDigit_ne h (show 'e'.isDigit=false by decide),
  isDigit_ne h (show 'E'.isDigit=false by decide)]

lemma isExponentMark_of_isDigit{c:Char}(h:c.isDigit=true):isExponentMark c=false:=by
 simp [isExponentMark,isDigit_ne h (show 'e'.isDigit=false by decide),
  isDigit_ne h (show 'E'.isDigit=false by decide)]

lemma isExponentMark_exponentMark(e:ExponentPart):
  isExponentMark (NumberToken.exponentMark e)=true:=by
 cases h:e.upper <;>simp [NumberToken.exponentMark,h,isExponentMark]

section
variable (t:NumberToken)

lemma isExponentMark_mantissa(c:Char)(hc:c∈t.mantissaText):isExponentMark c=false:=by
 unfold NumberToken.mantissaText at hc
 rcases mem_append.mp hc with hc|hc
 · exact isExponentMark_of_isDigit (t.whole_ok.digits c hc)
 · cases hf:t.fraction with
   | none=>simp [hf] at hc
   | some f=>
    simp only [hf,elim_some,mem_cons] at hc
    rcases hc with rfl|hc
    · rfl
    · exact isExponentMark_of_isDigit (f.digits_ok c hc)

lemma splitOnce_unsignedText:
  (splitOnce isExponentMark t.unsignedText).getD (t.unsignedText,['0']) =
   (t.mantissaText,t.exponent.elim ['0'] NumberToken.exponentText):=by
 unfold NumberToken.unsignedText
 cases he:t.exponent with
 | none=>
  have hnone:=splitOnce_none (isExponentMark_mantissa t)
  simp [hnone]
 | some e=>
  simp only [elim_some]
  rw [splitOnce_append (isExponentMark_mantissa t) (isExponentMark_exponentMark e)]
  rfl

lemma whole_ne_point(c:Char)(hc:c∈t.whole):(c == '.')=false:=by
 have hdigit:=t.whole_ok.digits c hc
 simpa using isDigit_ne hdigit (show '.'.isDigit=false by decide)

lemma fractional_length:((splitOnce (· == '.') t.mantissaText).map (fun s=>s.2.length)).getD 0 =
   t.fractionDigits.length:=by
 unfold NumberToken.mantissaText NumberToken.fractionDigits
 cases hf:t.fraction with
 | none=>
  have hnone:=splitOnce_none (whole_ne_point t)
  simp [hnone]
 | some f=>
  simp only [elim_some]
  rw [splitOnce_append (whole_ne_point t) (by decide)]
  rfl

lemma filter_digits{cs:List Char}(h:IsDigits cs):cs.filter (· != '.')=cs:=by
 apply filter_eq_self.mpr
 intro c hc
 simpa using isDigit_ne (h c hc) (show '.'.isDigit=false by decide)

lemma filter_mantissaText:t.mantissaText.filter (· != '.')=t.digits:=by
 unfold NumberToken.mantissaText NumberToken.digits NumberToken.fractionDigits
 rw [filter_append,filter_digits t.whole_ok.digits]
 cases hf:t.fraction with
 | none=>simp
 | some f=>simp [filter_digits f.digits_ok]

lemma head_unsignedText:t.unsignedText.head?≠some '-':=by
 obtain ⟨c,cs,hw⟩:=exists_cons_of_ne_nil t.whole_ok.nonempty
 have hc:c.isDigit=true:=t.whole_ok.digits c (by simp [hw])
 have hne:=isDigit_ne hc (show '-'.isDigit=false by decide)
 simpa [NumberToken.unsignedText,NumberToken.mantissaText,hw] using hne

lemma head_text:(t.text.head?=some '-')=(t.negative=true):=by
 unfold NumberToken.text
 cases h:t.negative with
 | false=>simpa [h] using head_unsignedText t
 | true=>simp

lemma unsigned_of_text:(if t.negative=true then t.text.tail else t.text)=t.unsignedText:=by
 unfold NumberToken.text
 cases h:t.negative <;>simp

lemma hasDecimalMark_text:hasDecimalMark t.text = !t.isInteger:=by
 have hsign:(if t.negative then ['-'] else []).any isDecimalMark=false:=by cases t.negative <;>rfl
 have hwhole:t.whole.any isDecimalMark=false:=by
  rw [List.any_eq_false]
  intro c hc
  simp [isDecimalMark_of_isDigit (t.whole_ok.digits c hc)]
 unfold hasDecimalMark NumberToken.text NumberToken.unsignedText NumberToken.mantissaText
  NumberToken.isInteger
 rw [any_append,any_append,any_append,hsign,hwhole]
 cases hf:t.fraction with
 | some f=>simp [isDecimalMark]
 | none=>
  cases he:t.exponent with
  | none=>simp
  | some e=>cases hu:e.upper <;>simp [NumberToken.exponentMark,hu,isDecimalMark]

lemma exponentMagnitude_spec{text cs:List Char}(h:IsDigits cs)
  (htext:text.dropWhile (fun c=>c == '+' || c == '-')=cs):
  IsNumeral (exponentMagnitude text)∧value (exponentMagnitude text)=value cs:=by
 unfold exponentMagnitude
 rw [htext]
 dsimp only
 split
 · next hnil=>
   refine ⟨isNumeral_toDigits 0,?_⟩
   rw [(value_eq_zero_iff h).mpr hnil]
   rfl
 · next hne=>exact ⟨.of_head h.trimStartZeros hne (head_trimStartZeros cs),value_trimStartZeros cs⟩

lemma exponentSign_dropWhile(e:ExponentPart):
  (NumberToken.exponentText e).dropWhile (fun c=>c == '+' || c == '-')=e.digits:=by
 obtain ⟨c,cs,hd⟩:=exists_cons_of_ne_nil e.nonempty
 have hc:c.isDigit=true:=e.digits_ok c (by simp [hd])
 have h₁:=isDigit_ne hc (show '+'.isDigit=false by decide)
 have h₂:=isDigit_ne hc (show '-'.isDigit=false by decide)
 unfold NumberToken.exponentText
 rw [hd]
 cases e.sign <;>simp [ExponentSign.text,h₁,h₂]

lemma exponentText_head(e:ExponentPart):
  decide ((NumberToken.exponentText e).head?=some '-')=decide (e.sign=.minus):=by
 obtain ⟨c,cs,hd⟩:=exists_cons_of_ne_nil e.nonempty
 have hc:c.isDigit=true:=e.digits_ok c (by simp [hd])
 have h₂:=isDigit_ne hc (show '-'.isDigit=false by decide)
 unfold NumberToken.exponentText
 rw [hd]
 cases e.sign <;>simp [ExponentSign.text,h₂]

lemma exponent_read:
  IsNumeral (exponentMagnitude (t.exponent.elim ['0'] NumberToken.exponentText)) ∧
   signed (decide ((t.exponent.elim ['0'] NumberToken.exponentText).head?=some '-'))
    (value (exponentMagnitude (t.exponent.elim ['0'] NumberToken.exponentText))) =
    t.exponentValue:=by
 unfold NumberToken.exponentValue
 cases he:t.exponent with
 | none=>
  have hzero:IsNumeral (exponentMagnitude ['0'])∧value (exponentMagnitude ['0'])=value ['0']:=
   exponentMagnitude_spec (by simp [IsDigits]) rfl
  exact ⟨hzero.1,rfl⟩
 | some e=>
  change IsNumeral (exponentMagnitude (NumberToken.exponentText e)) ∧
   signed (decide ((NumberToken.exponentText e).head?=some '-'))
    (value (exponentMagnitude (NumberToken.exponentText e))) =
     if e.sign=.minus then -(value e.digits:ℤ) else value e.digits
  obtain ⟨hn,hv⟩:=exponentMagnitude_spec e.digits_ok (exponentSign_dropWhile e)
  rw [exponentText_head,hv]
  refine ⟨hn,?_⟩
  by_cases hs:e.sign=.minus <;>simp [signed,hs]

lemma padTwo_eq_zeros_iff{m:List Char}(h:IsNumeral m):padTwo m=['0','0']↔value m=0:=by
 rw [h.value_eq_zero]
 constructor
 · intro hp
   obtain ⟨c,cs,rfl⟩:=exists_cons_of_ne_nil h.nonempty
   cases cs with
   | nil=>simpa [padTwo] using hp
   | cons d ds=>
    have hc:c = '0' := by simp [padTwo] at hp;exact hp.1
    exact h.lead (by simp [hc])
 · intro hm
   rw [hm]
   rfl

lemma le_i32Max{n:ℕ}(h:n<16):n ≤ i32Max:=by
 unfold i32Max
 omega

lemma writeNumber_eq(negative:Bool)(coefficient:List Char){resultNegative:Bool}
  {magnitude:List Char}{x:ℤ}(hm:IsNumeral magnitude)
  (hx:signed resultNegative (value magnitude)=x):
  writeNumber negative coefficient resultNegative magnitude=decimalText negative coefficient x:=by
 have habs:value magnitude=x.natAbs:=by
  rw [←hx]
  cases resultNegative <;>simp [signed]
 have hdigits:magnitude=Nat.toDigits 10 x.natAbs:=by
  rw [←habs]
  exact hm.eq_toDigits
 have hadjust:(if resultNegative=true∧(value magnitude:ℤ)≠0 then
   -(value magnitude:ℤ) else value magnitude)=x:=by
  rw [←hx]
  cases resultNegative
  · simp [signed]
  · by_cases hz:value magnitude=0 <;>simp [signed,hz]
 have hadjusted:(adjustedExponent resultNegative magnitude).filter
   (fun exponent=>decide (-4≤exponent∧exponent<16))=if -4≤x∧x<16 then some x else none:=by
  unfold adjustedExponent parseI32
  split
  · rw [map_some,hadjust,filter_some]
    simp
  · next hlarge=>
    have hrange:¬(-4≤x∧x<16):=by
     intro hr
     apply hlarge
     apply le_i32Max
     omega
    rw [if_neg hrange]
    rfl
 have hsign:(resultNegative=true∧padTwo magnitude≠['0','0'])↔x<0:=by
  rw [Ne,padTwo_eq_zeros_iff hm,←hx]
  cases resultNegative
  · simp [signed]
  · simp [signed,Nat.pos_iff_ne_zero]
 unfold writeNumber decimalText
 rw [hadjusted]
 by_cases hrange : -4≤x∧x<16
 · simp only [hrange,and_self,if_true]
 · simp only [hrange,if_false,hsign]
   rw [←hdigits]

lemma canonicalNumber_text(h:t.isInteger=false):canonicalNumber t.text=normalText t:=by
 have hmark:hasDecimalMark t.text=true:=by rw [hasDecimalMark_text,h];rfl
 have hread:=exponent_read t
 have hdelta:=isNumeral_toDigits
  ((t.significant.length:ℤ)-t.fractionDigits.length-1).natAbs
 have hresult:=resultExponent_spec
  (decide ((t.exponent.elim ['0'] NumberToken.exponentText).head?=some '-'))
  (decide ((t.significant.length:ℤ)-t.fractionDigits.length-1<0)) hread.1 hdelta
 have hshift:signed (decide ((t.significant.length:ℤ)-t.fractionDigits.length-1<0))
   (value (Nat.toDigits 10 ((t.significant.length:ℤ)-t.fractionDigits.length-1).natAbs)) =
   (t.significant.length:ℤ)-t.fractionDigits.length-1:=by
  rw [value_toDigits]
  simp only [signed,decide_eq_true_eq]
  split <;>omega
 have hexp:=hresult.2
 rw [hread.2,hshift] at hexp
 have hwrite:=writeNumber_eq t.negative t.coefficient hresult.1 hexp
 unfold canonicalNumber normalText
 simp only [hmark,Bool.not_true,Bool.false_eq_true,if_false,head_text,unsigned_of_text,
  splitOnce_unsignedText,fractional_length,filter_mantissaText]
 change (if t.significant=[] then _ else _)=_
 split
 · rfl
 · simp only [Bool.decide_eq_true]
   exact hwrite

lemma canonicalNumber_integer(h:t.isInteger=true):canonicalNumber t.text=t.text:=by
 have hmark:hasDecimalMark t.text=false:=by rw [hasDecimalMark_text,h];rfl
 simp [canonicalNumber,hmark]
end

end GraphBlocks.NumberEncoding
