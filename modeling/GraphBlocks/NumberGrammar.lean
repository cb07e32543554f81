import GraphBlocks.JsonText

namespace GraphBlocks.JsonNumber
open DigitStrings Json List Option

def isDigitsText (cs:List Char) : Bool := !cs.isEmpty&&cs.all Char.isDigit

def isNumeralText (cs:List Char) : Bool := isDigitsText cs&&(cs.head? != some '0' || cs==['0'])

def dropSign : List Char→List Char
 | '+' :: cs=>cs
 | '-' :: cs=>cs
 | cs=>cs

def isExponentText : List Char→Bool
 | []=>true
 | c::cs=>(c == 'e' || c == 'E')&&isDigitsText (dropSign cs)

def isFractionText (cs:List Char) : Bool :=
 if cs.head?=some '.' then
  isDigitsText (cs.tail.takeWhile Char.isDigit)&&isExponentText (cs.tail.dropWhile Char.isDigit)
 else isExponentText cs

def isUnsignedText (cs:List Char) : Bool :=
 isNumeralText (cs.takeWhile Char.isDigit)&&isFractionText (cs.dropWhile Char.isDigit)

def isNumberText (cs:List Char) : Bool :=
 if cs.head?=some '-' then isUnsignedText cs.tail else isUnsignedText cs

variable {cs:List Char}

lemma isDigitsText_iff:isDigitsText cs=true↔IsDigits cs∧cs≠[]:=by
 simp [isDigitsText,IsDigits,and_comm]

lemma isNumeralText_iff:isNumeralText cs=true↔IsNumeral cs:=by
 simp only [isNumeralText,Bool.and_eq_true,isDigitsText_iff,Bool.or_eq_true,bne_iff_ne,beq_iff_eq]
 constructor
 · rintro ⟨⟨hdigits,hne⟩,hlead⟩
   exact ⟨hdigits,hne,fun hzero=>hlead.resolve_left (not_not_intro hzero)⟩
 · intro h
   refine ⟨⟨h.digits,h.nonempty⟩,?_⟩
   by_cases hzero:cs.head?=some '0'
   · exact .inr (h.lead hzero)
   · exact .inl hzero

lemma span_digits{ds rest:List Char}(hds:IsDigits ds)(hrest:∀c,rest.head?=some c→c.isDigit=false):
  (ds++rest).takeWhile Char.isDigit=ds∧(ds++rest).dropWhile Char.isDigit=rest:=by
 rw [takeWhile_append_of_pos hds,dropWhile_append_of_pos hds]
 cases rest with
 | nil=>simp
 | cons c cs=>
  have hc:c.isDigit=false:=hrest c rfl
  simp [hc]

section
variable (t:NumberToken)

lemma dropSign_exponent(e:ExponentPart):dropSign (NumberToken.exponentText e)=e.digits:=by
 unfold NumberToken.exponentText
 cases hsign:e.sign with
 | plus=>rfl
 | minus=>rfl
 | none=>
  cases hdigits:e.digits with
  | nil=>exact absurd hdigits e.nonempty
  | cons c cs=>
   have hc:c.isDigit=true:=e.digits_ok c (by rw [hdigits];exact mem_cons_self)
   unfold dropSign
   split
   · next heq=>
     obtain ⟨rfl,-⟩:=List.cons.inj heq
     exact absurd hc (by decide)
   · next heq=>
     obtain ⟨rfl,-⟩:=List.cons.inj heq
     exact absurd hc (by decide)
   · rfl

def exponentTail : List Char :=
 t.exponent.elim [] fun e=>NumberToken.exponentMark e::NumberToken.exponentText e

lemma isExponentText_tail:isExponentText (exponentTail t)=true:=by
 unfold exponentTail
 cases he:t.exponent with
 | none=>rfl
 | some e=>
  have hmark:(NumberToken.exponentMark e == 'e' || NumberToken.exponentMark e == 'E')=true:=by
   unfold NumberToken.exponentMark
   cases e.upper <;>rfl
  simp only [elim_some,isExponentText,hmark,Bool.true_and,dropSign_exponent]
  exact isDigitsText_iff.mpr ⟨e.digits_ok,e.nonempty⟩

lemma exponentTail_head(c:Char)(hc:(exponentTail t).head?=some c):c.isDigit=false∧c ≠ '.':=by
 unfold exponentTail at hc
 cases he:t.exponent with
 | none=>
  rw [he] at hc
  cases hc
 | some e=>
  rw [he] at hc
  obtain rfl:=some.inj hc
  unfold NumberToken.exponentMark
  cases e.upper <;>decide

def fractionTail : List Char := t.fraction.elim [] (fun f => '.' :: f.digits)++exponentTail t

lemma isFractionText_tail:isFractionText (fractionTail t)=true:=by
 cases hf:t.fraction with
 | none=>
  have htail:fractionTail t=exponentTail t:=by simp [fractionTail,hf]
  have hdot:(exponentTail t).head?≠some '.' := fun h=>(exponentTail_head t '.' h).2 rfl
  rw [htail,isFractionText,if_neg hdot]
  exact isExponentText_tail t
 | some f=>
  have htail:fractionTail t = '.' :: (f.digits++exponentTail t):=by simp [fractionTail,hf]
  obtain ⟨htake,hdrop⟩:=span_digits f.digits_ok fun c hc=>(exponentTail_head t c hc).1
  rw [htail,isFractionText,if_pos (List.head?_cons ..),tail_cons,htake,hdrop,
   isExponentText_tail,Bool.and_true]
  exact isDigitsText_iff.mpr ⟨f.digits_ok,f.nonempty⟩

lemma unsignedText_eq_tail:t.unsignedText=t.whole++fractionTail t:=by
 simp [NumberToken.unsignedText,NumberToken.mantissaText,fractionTail,exponentTail]

lemma fractionTail_head(c:Char)(hc:(fractionTail t).head?=some c):c.isDigit=false:=by
 unfold fractionTail at hc
 cases hf:t.fraction with
 | none=>
  rw [hf] at hc
  exact (exponentTail_head t c hc).1
 | some f=>
  rw [hf] at hc
  obtain rfl:=some.inj hc
  decide

lemma isUnsignedText_token:isUnsignedText t.unsignedText=true:=by
 obtain ⟨htake,hdrop⟩:=span_digits t.whole_ok.digits (fractionTail_head t)
 rw [unsignedText_eq_tail,isUnsignedText,htake,hdrop,isNumeralText_iff.mpr t.whole_ok,
  isFractionText_tail]
 rfl

lemma isNumberText_token:isNumberText t.text=true:=by
 unfold NumberToken.text isNumberText
 cases t.negative with
 | true=>exact isUnsignedText_token t
 | false=>
  have hhead:t.unsignedText.head?≠some '-' := by
   rw [unsignedText_eq_tail]
   cases hw:t.whole with
   | nil=>exact absurd hw t.whole_ok.nonempty
   | cons c cs=>
    have hc:c.isDigit=true:=t.whole_ok.digits c (by rw [hw];exact mem_cons_self)
    intro h
    obtain rfl:=some.inj h
    exact absurd hc (by decide)
  simp only [Bool.false_eq_true,↓reduceIte,nil_append,if_neg hhead]
  exact isUnsignedText_token t
end

lemma exists_exponent(h:isExponentText cs=true):∃e : Option ExponentPart,
   cs=e.elim [] fun e=>NumberToken.exponentMark e::NumberToken.exponentText e:=by
 cases cs with
 | nil=>exact ⟨none,rfl⟩
 | cons c cs=>
  simp only [isExponentText,Bool.and_eq_true,Bool.or_eq_true,beq_iff_eq,isDigitsText_iff] at h
  obtain ⟨hc,hdigits,hne⟩:=h
  have hmark:(if c == 'E' then 'E' else 'e')=c:=by rcases hc with rfl|rfl <;>rfl
  have hsign:∃sign:ExponentSign,cs=sign.text++dropSign cs:=by
   unfold dropSign
   split
   · exact ⟨.plus,rfl⟩
   · exact ⟨.minus,rfl⟩
   · exact ⟨.none,rfl⟩
  obtain ⟨sign,hsign⟩:=hsign
  refine ⟨some ⟨c == 'E',sign,dropSign cs,hdigits,hne⟩,?_⟩
  simp only [elim_some,NumberToken.exponentMark,NumberToken.exponentText,hmark,←hsign]

lemma exists_unsigned(h:isUnsignedText cs=true)(negative:Bool):
  ∃t : NumberToken,t.negative=negative∧t.unsignedText=cs:=by
 simp only [isUnsignedText,Bool.and_eq_true,isNumeralText_iff] at h
 obtain ⟨hwhole,hfraction⟩:=h
 have hcs:cs.takeWhile Char.isDigit++cs.dropWhile Char.isDigit=cs:=takeWhile_append_dropWhile
 unfold isFractionText at hfraction
 split at hfraction
 · next hdot=>
   simp only [Bool.and_eq_true,isDigitsText_iff] at hfraction
   obtain ⟨⟨hdigits,hne⟩,hexponent⟩:=hfraction
   obtain ⟨e,he⟩:=exists_exponent hexponent
   refine ⟨⟨negative,_,hwhole,some ⟨_,hdigits,hne⟩,e⟩,rfl,?_⟩
   have hrest : '.' :: (cs.dropWhile Char.isDigit).tail=cs.dropWhile Char.isDigit:=
    cons_head?_tail hdot
   have htail:=takeWhile_append_dropWhile (p:=Char.isDigit)
    (l:=(cs.dropWhile Char.isDigit).tail)
   simp only [NumberToken.unsignedText,NumberToken.mantissaText,elim_some,←he,
    append_assoc,cons_append,htail,hrest,hcs]
 · obtain ⟨e,he⟩:=exists_exponent hfraction
   refine ⟨⟨negative,_,hwhole,none,e⟩,rfl,?_⟩
   simp only [NumberToken.unsignedText,NumberToken.mantissaText,elim_none,append_nil,←he,hcs]

lemma isNumberText_iff:isNumberText cs=true↔IsNumberToken cs:=by
 constructor
 · intro h
   unfold isNumberText at h
   split at h
   · next hsign=>
     obtain ⟨t,hnegative,htext⟩:=exists_unsigned h true
     refine ⟨t,?_⟩
     rw [NumberToken.text,hnegative,htext]
     exact cons_head?_tail hsign
   · obtain ⟨t,hnegative,htext⟩:=exists_unsigned h false
     refine ⟨t,?_⟩
     rw [NumberToken.text,hnegative,htext]
     rfl
 · rintro ⟨t,rfl⟩
   exact isNumberText_token t

instance : DecidablePred IsNumberToken := fun _=>decidable_of_iff _ isNumberText_iff

section
variable (P:List Char→Prop) [DecidablePred P]

mutual

def decideNumbers : (v:Value)→Decidable (AllNumbers P v)
 | .number token=>decidable_of_iff (P token) (by rw [AllNumbers])
 | .array items=>@decidable_of_iff _ (AllNumbersItems P items) (by rw [AllNumbers])
   (decideItems items)
 | .object members=>@decidable_of_iff _ (AllNumbersMembers P members) (by rw [AllNumbers])
   (decideMembers members)
 | .null | .bool _ | .string _=>isTrue (by trivial)

def decideItems : (items:List Value)→Decidable (AllNumbersItems P items)
 | []=>isTrue (by trivial)
 | v::items=>@decidable_of_iff _ (AllNumbers P v∧AllNumbersItems P items)
   (by rw [AllNumbersItems]) (@instDecidableAnd _ _ (decideNumbers v) (decideItems items))

def decideMembers : (members:Members)→Decidable (AllNumbersMembers P members)
 | []=>isTrue (by trivial)
 | (_,v)::members=>@decidable_of_iff _ (AllNumbers P v∧AllNumbersMembers P members)
   (by rw [AllNumbersMembers])
   (@instDecidableAnd _ _ (decideNumbers v) (decideMembers members))
end

instance : DecidablePred (AllNumbers P) := decideNumbers P
end

end GraphBlocks.JsonNumber
