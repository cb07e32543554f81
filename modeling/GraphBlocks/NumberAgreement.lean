import GraphBlocks.NumberNormalForm

/-! `canonical_json_unchecked` and the `Decimal` branch of `_canonical_dumps` write the same text,
except where `Decimal` refuses the token. -/
namespace GraphBlocks.NumberEncoding

open DigitStrings JsonNumber List

abbrev DecimalToken := {t:NumberToken // t.isInteger=false}

lemma flatMap_toDigits {cs : List Char} (h : IsDigits cs) :
  (cs.map digitValue).flatMap (Nat.toDigits 10) = cs := by
 induction cs with
 | nil=>rfl
 | cons c cs ih=>
  have hc:=h c (by simp)
  rw [map_cons,flatMap_cons,ih (IsDigits.tail h),
   Nat.toDigits_of_lt_base (digitValue_lt hc),digitChar_digitValue hc]
  rfl

variable {t:NumberToken}

lemma toDigits_value (hs : t.significant ≠ []) :
  Nat.toDigits 10 (value t.digits) = t.significant := by
 have hnum:IsNumeral t.significant:=
  .of_head t.isDigits_significant hs (head_trimStartZeros t.digits)
 rw [←value_trimStartZeros t.digits]
 exact hnum.eq_toDigits.symm

lemma decimal_significant (t : NumberToken) :
  trimStartZeros ((decimalTuple t).digits.flatMap (Nat.toDigits 10)) = t.significant := by
 have hdigits:(decimalTuple t).digits.flatMap (Nat.toDigits 10)=Nat.toDigits 10 (value t.digits):=
  flatMap_toDigits (isDigits_toDigits _)
 rw [hdigits]
 by_cases hs:t.significant=[]
 · have hz:=(value_eq_zero_iff t.isDigits_digits).mpr hs
   rw [hz,hs]
   rfl
 · rw [toDigits_value hs]
   exact dropWhile_idempotent _ t.digits

/-- A coefficient of zero has one digit. -/
lemma decimal_length (t : NumberToken) :
  (decimalTuple t).digits.length = max 1 t.significant.length := by
 unfold decimalTuple
 rw [length_map]
 by_cases hs:t.significant=[]
 · have hz:=(value_eq_zero_iff t.isDigits_digits).mpr hs
   rw [hz,hs]
   rfl
 · have hpos:=length_pos_iff.mpr hs
   rw [toDigits_value hs]
   omega

lemma fixedText_python(coefficient:List Char){exponent:ℤ}(h:¬exponent+1≤0):
  fixedText coefficient exponent=if (coefficient.length:ℤ)≤exponent+1 then
    coefficient++List.replicate (exponent+1-coefficient.length).toNat '0' ++ ['.','0']
   else coefficient.take (exponent+1).toNat++['.'] ++coefficient.drop (exponent+1).toNat:=by
 unfold fixedText
 rw [if_neg h]
 by_cases hlen:(coefficient.length:ℤ)≤exponent+1
 · have hcount:(exponent+1).toNat-coefficient.length=(exponent+1-coefficient.length).toNat:=by omega
   rw [if_pos hlen,if_pos (by omega),hcount]
 · rw [if_neg hlen,if_neg (by omega)]

/-- The digits and the exponents that a `Decimal` holds. -/
structure WithinDecimal (t : NumberToken) : Prop where
 fraction : t.fractionDigits.length < 10^18
 coefficient : t.significant.length < 10^18
 lastPlace : 3 - 2 * 10^18 ≤ t.exponentValue - t.fractionDigits.length
 firstPlace : t.exponentValue - t.fractionDigits.length + max 1 t.significant.length ≤ 10^18

lemma decimal_of_within (h : WithinDecimal t) : decimal t = .ok (decimalTuple t) := by
 have hlast:=h.lastPlace
 have hfirst:=h.firstPlace
 unfold decimal
 rw [if_neg]
 simp only [decimal_length,maxPrec,maxEmax,minEtiny]
 have hfraction:=h.fraction
 have hcoefficient:=h.coefficient
 simp only [decimalTuple]
 omega

lemma decimal_refuses (h : ¬WithinDecimal t) : decimal t = .error .invalidOperation := by
 unfold decimal
 rw [if_pos]
 by_contra hwithin
 simp only [decimal_length,maxPrec,maxEmax,minEtiny] at hwithin
 simp only [decimalTuple] at hwithin
 exact h ⟨by omega,by omega,by omega,by omega⟩

lemma strInt_short (limit : DigitLimit) {n : ℕ} (h : n < 10^19) :
  strInt limit n = .ok (Nat.toDigits 10 n) := by
 have hlength:=(Nat.length_toDigits_le_iff (n:=n) (b:=10) (k:=19) (by decide) (by decide)).mpr h
 have hlimit:=limit.ok
 unfold strInt
 rw [if_neg (by omega)]

/-- No exponent of a `Decimal` is too long for `str`. -/
lemma canonicalDecimal_ok (limit : DigitLimit) (h : WithinDecimal t) :
  canonicalDecimal limit (decimalTuple t) = .ok (normalText t) := by
 have hexp:(decimalTuple t).exponent+t.significant.length-1=t.leadingExponent:=by
  simp only [decimalTuple,NumberToken.leadingExponent]
  omega
 have hsign:(decimalTuple t).sign=t.negative:=rfl
 unfold canonicalDecimal normalText
 simp only [decimal_significant,hexp,hsign]
 split
 · rfl
 · unfold decimalText
   by_cases hrange : -4≤t.leadingExponent∧t.leadingExponent<16
   · rw [if_pos hrange,if_pos hrange]
     split
     · next hpoint=>simp [fixedText,hpoint,NumberToken.coefficient]
     · next hpoint=>
       rw [fixedText_python _ hpoint]
       change (if (t.coefficient.length:ℤ)≤t.leadingExponent+1 then _ else _)=_
       split <;>simp [NumberToken.coefficient]
   · rw [if_neg hrange,if_neg hrange]
     have hbound:t.leadingExponent.natAbs<2*10^18:=by
      have hlast:=h.lastPlace
      have hfirst:=h.firstPlace
      unfold NumberToken.leadingExponent
      omega
     rw [strInt_short limit (hbound.trans (by norm_num))]
     simp [scientificText,NumberToken.coefficient,pure,Except.pure,bind,Except.bind]

/-- The two encoders agree on a token exactly when a `Decimal` holds it. -/
theorem number_encoders_agree_iff (limit : DigitLimit) (token : DecimalToken) :
  decimal token.1 >>= canonicalDecimal limit = .ok (canonicalNumber token.1.text) ↔
   WithinDecimal token.1 := by
 obtain ⟨t,ht⟩:=token
 dsimp only
 rw [canonicalNumber_text t ht]
 constructor
 · intro hagree
   by_contra hout
   rw [decimal_refuses hout] at hagree
   cases hagree
 · intro hwithin
   rw [decimal_of_within hwithin]
   exact canonicalDecimal_ok limit hwithin

/-- The token `1e1000000000000000000`. -/
def hugeToken : NumberToken where
 negative:=false
 whole:=['1']
 whole_ok:=isNumeral_one
 fraction:=none
 exponent:=some
  { upper:=false
    sign:=.none
    digits := '1' :: List.replicate 18 '0'
    digits_ok:=isDigits_cons rfl (isDigits_replicate_zero 18)
    nonempty:=by simp }

/-- The limit that CPython starts with. -/
def defaultLimit : DigitLimit := ⟨4300,.inr (by decide)⟩

theorem long_exponent_is_rejected_by_python : hugeToken.isInteger = false ∧
  hugeToken.text = "1e1000000000000000000".toList ∧
  canonicalNumber hugeToken.text = "1e+1000000000000000000".toList ∧
  decimal hugeToken = .error .invalidOperation ∧
  ¬ decimal hugeToken >>= canonicalDecimal defaultLimit = .ok (canonicalNumber hugeToken.text) := by
 have hrefuses:decimal hugeToken=.error .invalidOperation:=by
  apply decimal_refuses
  intro h
  have hfirst:=h.firstPlace
  revert hfirst
  decide
 refine ⟨rfl,by decide,by decide +kernel,hrefuses,?_⟩
 rw [hrefuses]
 intro hagree
 cases hagree

end GraphBlocks.NumberEncoding
