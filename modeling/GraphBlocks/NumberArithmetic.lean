import GraphBlocks.NumberEncoding

namespace GraphBlocks.NumberEncoding

open DigitStrings List

lemma lowValue_eq(cs:List Char):lowValue cs=digitAt cs+10*lowValue cs.tail:=by
 cases cs <;>simp [lowValue,digitAt]

variable {cs:List Char}

lemma digitAt_lt(h:IsDigits cs):digitAt cs<10:=by
 cases cs with
 | nil=>simp [digitAt]
 | cons c cs=>exact digitValue_lt (h c (by simp))

lemma IsDigits.tail(h:IsDigits cs):IsDigits cs.tail:=fun c hc=>h c (mem_of_mem_tail hc)

lemma isDigits_cons{c:Char}(hc:c.isDigit=true)(h:IsDigits cs):IsDigits (c::cs):=by
 intro d hd
 rcases mem_cons.mp hd with rfl|hd
 · exact hc
 · exact h d hd

lemma addLoop_value(n:ℕ)(left right:List Char)(carry:ℕ)(hl:IsDigits left)
  (hr:IsDigits right)(hnl:left.length≤n)(hnr:right.length≤n)(hc:carry≤1):
  lowValue (addLoop n left right carry)=lowValue left+lowValue right+carry:=by
 induction n generalizing left right carry with
 | zero=>
  have hleft:left=[]:=eq_nil_of_length_eq_zero (by omega)
  have hright:right=[]:=eq_nil_of_length_eq_zero (by omega)
  simp only [addLoop,hleft,hright,lowValue]
  split
  · simp only [lowValue,digitValue_digitChar (show carry<10 by omega)]
    omega
  · simp only [lowValue]
    omega
 | succ n ih=>
  have hdl:=digitAt_lt hl
  have hdr:=digitAt_lt hr
  have hrec:=ih left.tail right.tail ((digitAt left+digitAt right+carry)/10)
   (IsDigits.tail hl) (IsDigits.tail hr) (by rw [length_tail];omega)
   (by rw [length_tail];omega) (by omega)
  simp only [addLoop,lowValue]
  rw [hrec,digitValue_digitChar (Nat.mod_lt _ (by omega)),lowValue_eq left,lowValue_eq right]
  omega

lemma addLoop_digits(n:ℕ)(left right:List Char)(carry:ℕ)(hl:IsDigits left)
  (hr:IsDigits right)(hc:carry≤1):IsDigits (addLoop n left right carry):=by
 induction n generalizing left right carry with
 | zero=>
  simp only [addLoop]
  split
  · exact isDigits_cons (isDigit_digitChar_of_lt (by omega)) (by simp [IsDigits])
  · simp [IsDigits]
 | succ n ih=>
  have hdl:=digitAt_lt hl
  have hdr:=digitAt_lt hr
  apply isDigits_cons (isDigit_digitChar_of_lt (Nat.mod_lt _ (by omega)))
  exact ih _ _ _ (IsDigits.tail hl) (IsDigits.tail hr) (by omega)

lemma digitAt_pos(hd:IsDigits cs)(hne:cs≠[])(ht:cs.tail=[])
  (hlast:cs.getLast?≠some '0'):0<digitAt cs:=by
 cases cs with
 | nil=>exact absurd rfl hne
 | cons c cs=>
  have hcs:cs=[]:=ht
  subst hcs
  have hc:c ≠ '0' := by simpa using hlast
  have hdigit:c.isDigit=true:=hd c (by simp)
  exact Nat.pos_of_ne_zero (fun h=>hc ((digitValue_eq_zero_iff hdigit).mp h))

lemma getLast?_tail(h:cs.getLast?≠some '0'):cs.tail.getLast?≠some '0':=by
 cases cs with
 | nil=>simp
 | cons c cs=>
  cases cs with
  | nil=>simp
  | cons d cs=>simpa using h

lemma addLoop_last(n:ℕ)(left right:List Char)(carry:ℕ)(hl:IsDigits left)
  (hr:IsDigits right)(hn:n=max left.length right.length)(hc:carry≤1)
  (hll:left.getLast?≠some '0')(hrl:right.getLast?≠some '0'):
  (addLoop n left right carry).getLast?≠some '0':=by
 induction n generalizing left right carry with
 | zero=>
  simp only [addLoop]
  split
  · simp only [List.getLast?_singleton,ne_eq,Option.some.injEq,Nat.digitChar_eq_zero]
    omega
  · simp
 | succ n ih=>
  have hdl:=digitAt_lt hl
  have hdr:=digitAt_lt hr
  have hrec:=ih left.tail right.tail ((digitAt left+digitAt right+carry)/10)
   (IsDigits.tail hl) (IsDigits.tail hr) (by simp only [length_tail];omega) (by omega)
   (getLast?_tail hll) (getLast?_tail hrl)
  simp only [addLoop]
  cases hrest:addLoop n left.tail right.tail ((digitAt left+digitAt right+carry)/10) with
  | cons d ds=>
   rw [hrest] at hrec
   rw [List.getLast?_cons_cons]
   exact hrec
  | nil=>
   -- Nothing is left to add, so the current digit is the whole sum.
   have hn0:n=0:=by
    cases n with
    | zero=>rfl
    | succ m=>simp [addLoop] at hrest
   subst hn0
   have hsmall:(digitAt left+digitAt right+carry)/10=0:=by
    by_contra hne
    simp [addLoop,Nat.pos_of_ne_zero hne] at hrest
   have hpos:0<digitAt left+digitAt right:=by
    by_cases hne:left=[]
    · have hrne:right≠[]:=by
       intro h
       simp [hne,h] at hn
      have hrt:right.tail=[]:=eq_nil_of_length_eq_zero (by rw [length_tail];omega)
      have:=digitAt_pos hr hrne hrt hrl
      omega
    · have hlt:left.tail=[]:=eq_nil_of_length_eq_zero (by rw [length_tail];omega)
      have:=digitAt_pos hl hne hlt hll
      omega
   simp only [List.getLast?_singleton,ne_eq,Option.some.injEq,Nat.digitChar_eq_zero]
   omega

variable {a b:List Char}

lemma addMagnitudes_spec(ha:IsNumeral a)(hb:IsNumeral b)(ha0:a≠['0'])(hb0:b≠['0']):
  IsNumeral (addMagnitudes a b)∧value (addMagnitudes a b)=value a+value b:=by
 have hda:=isDigits_reverse.mpr ha.digits
 have hdb:=isDigits_reverse.mpr hb.digits
 have hhead (cs:List Char) (h:IsNumeral cs) (h0:cs≠['0']) : cs.reverse.getLast?≠some '0' := by
  rw [List.getLast?_reverse]
  exact fun hz=>h0 (h.lead hz)
 have hval:value (addMagnitudes a b)=value a+value b:=by
  unfold addMagnitudes
  rw [value_reverse,addLoop_value _ _ _ _ hda hdb (by simp) (by simp) (by omega),
   lowValue_reverse,lowValue_reverse]
  omega
 refine ⟨IsNumeral.of_head ?_ ?_ ?_,hval⟩
 · exact isDigits_reverse.mpr (addLoop_digits _ _ _ _ hda hdb (by omega))
 · intro hnil
   rw [hnil] at hval
   have hz:value a=0:=by simp at hval;omega
   exact ha0 (ha.value_eq_zero.mp hz)
 · unfold addMagnitudes
   rw [List.head?_reverse]
   exact addLoop_last _ _ _ _ hda hdb (by simp) (by omega) (hhead a ha ha0) (hhead b hb hb0)

lemma subtractLoop_spec(n:ℕ)(larger smaller:List Char)(borrow:ℤ)(hl:IsDigits larger)
  (hs:IsDigits smaller)(hnl:larger.length≤n)(hns:smaller.length≤n)
  (hb:borrow=0∨borrow=1)(hle:(lowValue smaller:ℤ)+borrow≤lowValue larger):
  IsDigits (subtractLoop n larger smaller borrow)∧(subtractLoop n larger smaller borrow).length=n ∧
   (lowValue (subtractLoop n larger smaller borrow):ℤ)+lowValue smaller+borrow=lowValue larger:=by
 induction n generalizing larger smaller borrow with
 | zero=>
  have hleft:larger=[]:=eq_nil_of_length_eq_zero (by omega)
  have hright:smaller=[]:=eq_nil_of_length_eq_zero (by omega)
  subst hleft hright
  simp only [subtractLoop,lowValue] at hle ⊢
  refine ⟨by simp [IsDigits],rfl,?_⟩
  omega
 | succ n ih=>
  have hdl:=digitAt_lt hl
  have hds:=digitAt_lt hs
  have htl:larger.tail.length≤n:=by rw [length_tail];omega
  have hts:smaller.tail.length≤n:=by rw [length_tail];omega
  rw [lowValue_eq larger,lowValue_eq smaller] at hle ⊢
  push_cast at hle ⊢
  simp only [subtractLoop]
  split
  · next hlt=>
    obtain ⟨hd,hlen,hv⟩:=ih larger.tail smaller.tail 1 (IsDigits.tail hl) (IsDigits.tail hs)
     htl hts (by omega) (by omega)
    have hsmall:((digitAt larger:ℤ)-borrow+10-digitAt smaller).toNat<10:=by omega
    refine ⟨isDigits_cons (isDigit_digitChar_of_lt hsmall) hd,by simp [hlen],?_⟩
    simp only [lowValue,digitValue_digitChar hsmall]
    push_cast
    omega
  · next hge=>
    obtain ⟨hd,hlen,hv⟩:=ih larger.tail smaller.tail 0 (IsDigits.tail hl) (IsDigits.tail hs)
     htl hts (by omega) (by omega)
    have hsmall:((digitAt larger:ℤ)-borrow-digitAt smaller).toNat<10:=by omega
    refine ⟨isDigits_cons (isDigit_digitChar_of_lt hsmall) hd,by simp [hlen],?_⟩
    simp only [lowValue,digitValue_digitChar hsmall]
    push_cast
    omega

lemma dropLeadingZeros_spec(h:IsDigits cs)(hne:cs≠[]):
  IsNumeral (dropLeadingZeros cs)∧value (dropLeadingZeros cs)=value cs:=by
 fun_induction dropLeadingZeros cs with
 | case1=>exact absurd rfl hne
 | case2 c=>exact ⟨⟨h,by simp,by simp⟩,rfl⟩
 | case3 d cs ih=>
  obtain ⟨hn,hv⟩:=ih (IsDigits.tail h) (by simp)
  refine ⟨hn,?_⟩
  rw [hv,value_cons '0',digitValue_zero]
  omega
 | case4 c d cs hc=>exact ⟨.of_head h (by simp) (by simpa using hc),rfl⟩

lemma subtractMagnitudes_spec(ha:IsNumeral a)(hb:IsNumeral b)(hlen:b.length≤a.length)
  (hle:value b≤value a):
  IsNumeral (subtractMagnitudes a b)∧(value (subtractMagnitudes a b):ℤ)=value a-value b:=by
 have hspec:=subtractLoop_spec a.length a.reverse b.reverse 0 (isDigits_reverse.mpr ha.digits)
  (isDigits_reverse.mpr hb.digits) (by simp) (by simpa using hlen) (by omega)
  (by simpa [lowValue_reverse] using hle)
 have hne:(subtractLoop a.length a.reverse b.reverse 0).reverse≠[]:=by
  intro hnil
  have:=congrArg List.length hnil
  rw [length_reverse,hspec.2.1] at this
  exact ha.nonempty (eq_nil_of_length_eq_zero this)
 have hdrop:=dropLeadingZeros_spec (isDigits_reverse.mpr hspec.1) hne
 refine ⟨hdrop.1,?_⟩
 unfold subtractMagnitudes
 have hv:=hspec.2.2
 rw [hdrop.2,value_reverse]
 rw [lowValue_reverse,lowValue_reverse] at hv
 omega

lemma digit_lt_iff{c d:Char}(hc:c.isDigit=true)(hd:d.isDigit=true):
  c<d↔digitValue c<digitValue d:=by
 have h₁:=toNat_of_isDigit hc
 have h₂:=toNat_of_isDigit hd
 change c.toNat<d.toNat↔c.toNat-48<d.toNat-48
 omega

lemma textLe_iff(ha:IsDigits a)(hb:IsDigits b)(hlen:a.length=b.length):
  textLe a b=true↔value a≤value b:=by
 induction a generalizing b with
 | nil=>
  cases b with
  | nil=>simp [textLe]
  | cons d b=>simp at hlen
 | cons c a ih=>
  cases b with
  | nil=>simp at hlen
  | cons d b=>
   have hlen':a.length=b.length:=by simpa using hlen
   have hc:=ha c (by simp)
   have hd:=hb d (by simp)
   have hva:=value_lt (IsDigits.tail ha)
   have hvb:=value_lt (IsDigits.tail hb)
   have hrec:textLe a b=true↔value a≤value b:=ih (IsDigits.tail ha) (IsDigits.tail hb) hlen'
   rw [textLe,value_cons,value_cons,hlen']
   simp only [tail_cons,hlen'] at hva hvb
   simp only [digit_lt_iff hc hd,digit_lt_iff hd hc]
   rcases lt_trichotomy (digitValue c) (digitValue d) with h|h|h
   · have hmul:(digitValue c+1)*10^b.length≤digitValue d*10^b.length:=Nat.mul_le_mul_right _ h
     rw [Nat.add_mul] at hmul
     rw [if_pos h]
     simp only [true_iff]
     omega
   · rw [if_neg (by omega),if_neg (by omega),hrec,h]
     omega
   · have hmul:(digitValue d+1)*10^b.length≤digitValue c*10^b.length:=Nat.mul_le_mul_right _ h
     rw [Nat.add_mul] at hmul
     rw [if_neg (by omega),if_pos h]
     simp only [Bool.false_eq_true,false_iff]
     omega

lemma value_lt_of_length_lt(ha:IsDigits a)(hb:IsNumeral b)(hb0:b≠['0'])
  (hlen:a.length<b.length):value a<value b:=by
 obtain ⟨c,cs,rfl⟩:=exists_cons_of_ne_nil hb.nonempty
 have hc:c ≠ '0' := by
  intro h
  exact hb0 (hb.lead (by simp [h]))
 have hpow:10^a.length≤10^cs.length:=Nat.pow_le_pow_right (by omega) (by simp at hlen;omega)
 have h₁:=value_lt ha
 have h₂:=pow_le_value cs (hb.digits c (by simp)) hc
 omega

lemma exponentIsLarger_spec(ha:IsNumeral a)(hb:IsNumeral b)(ha0:a≠['0'])(hb0:b≠['0']):
  if exponentIsLarger a b then b.length≤a.length∧value b≤value a
  else a.length≤b.length∧value a≤value b:=by
 rcases lt_trichotomy a.length b.length with h|h|h
 · have hlarger:exponentIsLarger a b=false:=by simp [exponentIsLarger,h.ne,h.le]
   rw [hlarger]
   exact ⟨h.le,(value_lt_of_length_lt ha.digits hb hb0 h).le⟩
 · have hlarger:exponentIsLarger a b=textLe b a:=by simp [exponentIsLarger,h]
   have horder:=textLe_iff hb.digits ha.digits h.symm
   rw [hlarger]
   split
   · next hle=>exact ⟨h.ge,horder.mp hle⟩
   · next hnot=>exact ⟨h.le,(not_le.mp (fun hle=>hnot (horder.mpr hle))).le⟩
 · have hlarger:exponentIsLarger a b=true:=by simp [exponentIsLarger,h]
   rw [hlarger]
   exact ⟨h.le,(value_lt_of_length_lt hb.digits ha ha0 h).le⟩

def signed (negative:Bool) (n:ℕ) : ℤ := if negative then -(n:ℤ) else n

/-- The sign and magnitude that the encoder computes denote the sum of the written
exponent and the shift of the mantissa. -/
lemma resultExponent_spec(en dn:Bool){e d:List Char}(he:IsNumeral e)(hd:IsNumeral d):
  IsNumeral (resultExponent en e dn d).2 ∧
   signed (resultExponent en e dn d).1 (value (resultExponent en e dn d).2) =
    signed en (value e)+signed dn (value d):=by
 have hzero (b:Bool):signed b (value ['0'])=0:=by cases b <;>rfl
 unfold resultExponent
 split
 · next h0=>
   rw [h0,hzero,zero_add]
   exact ⟨hd,rfl⟩
 · next he0=>
   split
   · next h0=>
     rw [h0,hzero,add_zero]
     exact ⟨he,rfl⟩
   · next hd0=>
     split
     · next hsign=>
       have hadd:=addMagnitudes_spec he hd he0 hd0
       refine ⟨hadd.1,?_⟩
       rw [hadd.2,←hsign]
       cases en <;>simp [signed]
       omega
     · next hsign=>
       have hcompare:=exponentIsLarger_spec he hd he0 hd0
       split
       · next hlarger=>
         rw [if_pos hlarger] at hcompare
         have hsub:=subtractMagnitudes_spec he hd hcompare.1 hcompare.2
         refine ⟨hsub.1,?_⟩
         cases en <;>cases dn <;>simp_all [signed] <;>omega
       · next hlarger=>
         rw [if_neg hlarger] at hcompare
         have hsub:=subtractMagnitudes_spec hd he hcompare.1 hcompare.2
         refine ⟨hsub.1,?_⟩
         cases en <;>cases dn <;>simp_all [signed] <;>omega

end GraphBlocks.NumberEncoding
