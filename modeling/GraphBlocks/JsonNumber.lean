import GraphBlocks.DigitStrings
import Mathlib.Data.Rat.Defs
import Mathlib.Algebra.Order.Field.Power

namespace GraphBlocks.JsonNumber

open DigitStrings List

inductive ExponentSign where
 | none
 | plus
 | minus
deriving DecidableEq

def ExponentSign.text : ExponentSign→List Char
 | .none=>[]
 | .plus=>['+']
 | .minus=>['-']

structure ExponentPart where
 upper:Bool
 sign:ExponentSign
 digits:List Char
 digits_ok:IsDigits digits
 nonempty:digits≠[]

structure FractionPart where
 digits:List Char
 digits_ok:IsDigits digits
 nonempty:digits≠[]

structure NumberToken where
 negative:Bool
 whole:List Char
 whole_ok:IsNumeral whole
 fraction:Option FractionPart
 exponent:Option ExponentPart

namespace NumberToken

variable (t:NumberToken)

def fractionDigits : List Char := t.fraction.elim [] FractionPart.digits

def mantissaText : List Char := t.whole++t.fraction.elim [] (fun f => '.' :: f.digits)

def exponentMark (e:ExponentPart) : Char := if e.upper then 'E' else 'e'

/-- The exponent after its mark. -/
def exponentText (e:ExponentPart) : List Char := e.sign.text++e.digits

def unsignedText : List Char :=
 t.mantissaText++t.exponent.elim [] (fun e=>exponentMark e::exponentText e)

def text : List Char := (if t.negative then ['-'] else [])++t.unsignedText

/-- A token with neither a fraction nor an exponent. -/
def isInteger : Bool := t.fraction.isNone&&t.exponent.isNone

def digits : List Char := t.whole++t.fractionDigits

def exponentValue : ℤ :=
 t.exponent.elim 0 (fun e=>if e.sign=.minus then -(value e.digits:ℤ) else value e.digits)

/-- The absolute value of the denoted number. -/
def magnitude : ℚ := value t.digits*(10:ℚ)^(t.exponentValue-t.fractionDigits.length)

lemma isDigits_fractionDigits:IsDigits t.fractionDigits:=by
 unfold fractionDigits
 cases h:t.fraction with
 | none=>simp [IsDigits]
 | some f=>exact f.digits_ok

lemma isDigits_digits:IsDigits t.digits:=
 isDigits_append.mpr ⟨t.whole_ok.digits,t.isDigits_fractionDigits⟩

def significant : List Char := trimStartZeros t.digits

def coefficient : List Char := trimEndZeros t.significant

def leadingExponent : ℤ := t.exponentValue+((t.significant.length:ℤ)-t.fractionDigits.length-1)

lemma isDigits_significant:IsDigits t.significant:=t.isDigits_digits.trimStartZeros

lemma isDigits_coefficient:IsDigits t.coefficient:=t.isDigits_significant.trimEndZeros

lemma magnitude_eq_zero_iff:t.magnitude=0↔t.significant=[]:=by
 have hten:(10:ℚ)^(t.exponentValue-t.fractionDigits.length)≠0:=by positivity
 rw [significant,←value_eq_zero_iff t.isDigits_digits]
 unfold magnitude
 rw [mul_eq_zero,or_iff_left hten,Nat.cast_eq_zero]

variable {t}

lemma coefficient_ne_nil(h:t.significant≠[]):t.coefficient≠[]:=by
 intro hnil
 have hall:=(rdropWhile_eq_nil_iff).mp hnil
 have hhead:=head_trimStartZeros t.digits
 obtain ⟨c,cs,hc⟩:=exists_cons_of_ne_nil h
 have hzero:=hall c (by simp [hc])
 unfold significant at hc
 rw [hc] at hhead
 simp at hhead hzero
 exact hhead hzero

lemma head_coefficient(h:t.significant≠[]):t.coefficient.head?≠some '0':=by
 have happ:=trimEndZeros_append t.significant
 have hhead:=head_trimStartZeros t.digits
 change t.significant.head?≠some '0' at hhead
 rw [happ] at hhead
 change (t.coefficient++_).head?≠some '0' at hhead
 rwa [List.head?_append_of_ne_nil _ (coefficient_ne_nil h)] at hhead

lemma value_significant(t:NumberToken):value t.significant =
  value t.coefficient*10^(t.significant.length-t.coefficient.length):=by
 have happ:=trimEndZeros_append t.significant
 have hv:=congrArg value happ
 rw [value_append,value_replicate_zero,length_replicate] at hv
 exact hv

lemma length_coefficient_le(t:NumberToken):t.coefficient.length≤t.significant.length:=
 ( rdropWhile_prefix _ _).length_le

lemma magnitude_eq(t:NumberToken):t.magnitude =
  value t.coefficient*(10:ℚ)^(t.leadingExponent+1-t.coefficient.length):=by
 have hv:value t.digits=value t.coefficient*10^(t.significant.length-t.coefficient.length):=by
  rw [←value_trimStartZeros]
  exact value_significant t
 have hle:=length_coefficient_le t
 have hexp:t.leadingExponent+1-t.coefficient.length =
   ((t.significant.length-t.coefficient.length:ℕ):ℤ) + (t.exponentValue-t.fractionDigits.length):=by
  unfold leadingExponent
  omega
 rw [hexp,zpow_add₀ (by norm_num),zpow_natCast]
 unfold magnitude
 rw [hv]
 push_cast
 ring

lemma pow_le_value_coefficient(h:t.significant≠[]):
  10^(t.coefficient.length-1)≤value t.coefficient:=by
 obtain ⟨c,cs,hc⟩:=exists_cons_of_ne_nil (coefficient_ne_nil h)
 have hhead:=head_coefficient h
 have hd:=t.isDigits_coefficient
 rw [hc] at hhead hd ⊢
 simpa using pow_le_value cs (hd c (by simp)) (by simpa using hhead)

lemma magnitude_bounds(h:t.significant≠[]):
  (10:ℚ)^t.leadingExponent≤t.magnitude∧t.magnitude<10^(t.leadingExponent+1):=by
 have hlow:=pow_le_value_coefficient h
 have hhigh:=value_lt t.isDigits_coefficient
 have hpos:1≤t.coefficient.length:=length_pos_of_ne_nil (coefficient_ne_nil h)
 have hscale:(0:ℚ)<10^(t.leadingExponent+1-t.coefficient.length):=by positivity
 rw [magnitude_eq]
 constructor
 · have hsplit:t.leadingExponent=((t.coefficient.length-1:ℕ):ℤ) +
     (t.leadingExponent+1-t.coefficient.length):=by omega
   have hcast:((10:ℚ)^(t.coefficient.length-1))≤value t.coefficient:=by exact_mod_cast hlow
   calc (10:ℚ)^t.leadingExponent
     = 10^(t.coefficient.length-1)*10^(t.leadingExponent+1-t.coefficient.length):=by
         conv_lhs=>rw [hsplit]
         rw [zpow_add₀ (by norm_num),zpow_natCast]
    _≤_:=mul_le_mul_of_nonneg_right hcast hscale.le
 · have hsplit:t.leadingExponent+1=(t.coefficient.length:ℤ) +
     (t.leadingExponent+1-t.coefficient.length):=by omega
   have hcast:(value t.coefficient:ℚ)<10^t.coefficient.length:=by exact_mod_cast hhigh
   calc (value t.coefficient:ℚ)*10^(t.leadingExponent+1-t.coefficient.length)
     < 10^t.coefficient.length*10^(t.leadingExponent+1-t.coefficient.length):=
      mul_lt_mul_of_pos_right hcast hscale
    _=10^(t.leadingExponent+1):=by
      conv_rhs=>rw [hsplit]
      rw [zpow_add₀ (by norm_num),zpow_natCast]

lemma magnitude_eq_iff{u:NumberToken}(ht:t.significant≠[])(hu:u.significant≠[]):
  t.magnitude=u.magnitude↔t.coefficient=u.coefficient∧t.leadingExponent=u.leadingExponent:=by
 constructor
 · intro h
   have htb:=magnitude_bounds ht
   have hub:=magnitude_bounds hu
   have hexp:t.leadingExponent=u.leadingExponent:=by
    have h₁:t.leadingExponent<u.leadingExponent+1:=
     (zpow_lt_zpow_iff_right₀ (by norm_num:(1:ℚ)<10)).mp (by linarith)
    have h₂:u.leadingExponent<t.leadingExponent+1:=
     (zpow_lt_zpow_iff_right₀ (by norm_num:(1:ℚ)<10)).mp (by linarith)
    omega
   refine ⟨?_,hexp⟩
   -- Shift the shorter coefficient: the longer one would end in a zero.
   have key (a b:NumberToken) (ha:a.significant≠[]) (hb:b.significant≠[])
     (hab:a.magnitude=b.magnitude) (hexp:a.leadingExponent=b.leadingExponent)
     (hle:a.coefficient.length≤b.coefficient.length) :
     a.coefficient=b.coefficient:=by
    rw [magnitude_eq,magnitude_eq,hexp] at hab
    have hsplit:b.leadingExponent+1-a.coefficient.length =
      ((b.coefficient.length-a.coefficient.length:ℕ):ℤ) +
       (b.leadingExponent+1-b.coefficient.length):=by omega
    rw [hsplit,zpow_add₀ (by norm_num),zpow_natCast,←mul_assoc] at hab
    have hval:=mul_right_cancel₀ (by positivity) hab
    have hnat:value a.coefficient*10^(b.coefficient.length-a.coefficient.length) =
      value b.coefficient:=by exact_mod_cast hval
    have hzero:b.coefficient.length-a.coefficient.length=0:=by
     by_contra hne
     apply not_ten_dvd_value b.isDigits_coefficient (coefficient_ne_nil hb)
      (getLast_trimEndZeros _)
     rw [←hnat]
     exact Dvd.dvd.mul_left (dvd_pow_self 10 hne) _
    rw [hzero,pow_zero,mul_one] at hnat
    exact IsNumeral.eq_of_value_eq
     (.of_head a.isDigits_coefficient (coefficient_ne_nil ha) (head_coefficient ha))
     (.of_head b.isDigits_coefficient (coefficient_ne_nil hb) (head_coefficient hb)) hnat
   rcases le_total t.coefficient.length u.coefficient.length with hle|hle
   · exact key t u ht hu h hexp hle
   · exact (key u t hu ht h.symm hexp.symm hle).symm
 · rintro ⟨hc,he⟩
   rw [magnitude_eq,magnitude_eq,hc,he]

end NumberToken

end GraphBlocks.JsonNumber
