import Mathlib.Data.Nat.Digits.Defs
import Mathlib.Data.List.DropRight
import Mathlib.Tactic

/-! Strings of the characters `0` to `9`, the number they denote, and the numerals among them: the
strings without a superfluous leading zero. -/
namespace GraphBlocks.DigitStrings
open List

def digitValue (c:Char) : ℕ := c.toNat - '0'.toNat

def IsDigits (cs:List Char) : Prop := ∀c∈cs,c.isDigit=true

def value (cs:List Char) : ℕ := Nat.ofDigitChars 10 cs 0

variable {c:Char}

lemma toNat_of_isDigit(h:c.isDigit=true):48≤c.toNat∧c.toNat≤57:=by
 simp only [Char.isDigit,Bool.and_eq_true,decide_eq_true_eq] at h
 exact ⟨h.1,h.2⟩

lemma digitValue_lt(h:c.isDigit=true):digitValue c<10:=by
 have hc:=toNat_of_isDigit h
 change c.toNat-48<10
 omega

lemma digitChar_digitValue(h:c.isDigit=true):Nat.digitChar (digitValue c)=c:=by
 have hc:=toNat_of_isDigit h
 have hlt:=digitValue_lt h
 apply Char.toNat_inj.mp
 rw [Nat.toNat_digitChar_of_lt_ten hlt]
 change 48+(c.toNat-48)=c.toNat
 omega

variable {n:ℕ}

lemma digitValue_digitChar(h:n<10):digitValue (Nat.digitChar n)=n:=
 Nat.toNat_digitChar_sub_48_of_lt_ten h

lemma isDigit_digitChar_of_lt(h:n<10):(Nat.digitChar n).isDigit=true:=by
 rw [Nat.isDigit_digitChar]
 exact decide_eq_true h

lemma digitValue_eq_zero_iff(h:c.isDigit=true):digitValue c=0↔c = '0':=by
 have hc:=digitChar_digitValue h
 constructor
 · intro hz
   rw [hz] at hc
   exact hc.symm
 · intro hz
   rw [hz]
   rfl

lemma digitValue_zero:digitValue '0' = 0:=rfl

@[simp] lemma value_nil:value []=0:=rfl

lemma value_append(a b:List Char):value (a++b)=value a*10^b.length+value b:=by
 unfold value
 rw [Nat.ofDigitChars_append,Nat.ofDigitChars_eq_ofDigitChars_zero,Nat.mul_comm]

lemma value_singleton(c:Char):value [c]=digitValue c:=by
 simp [value,Nat.ofDigitChars_cons,digitValue]

lemma value_cons(c:Char)(cs:List Char):value (c::cs)=digitValue c*10^cs.length+value cs:=by
 rw [←singleton_append,value_append,value_singleton]

lemma value_concat(cs:List Char)(c:Char):value (cs++[c])=value cs*10+digitValue c:=by
 rw [value_append,value_singleton]
 simp

lemma value_replicate_zero(n:ℕ):value (List.replicate n '0')=0:=by simp [value]

variable {cs:List Char}

lemma value_lt(h:IsDigits cs):value cs<10^cs.length:=by
 induction cs with
 | nil=>simp
 | cons c cs ih=>
  have hc:=digitValue_lt (h c (by simp))
  have hcs:=ih (fun d hd=>h d (by simp [hd]))
  rw [value_cons,length_cons,pow_succ]
  have hmul:digitValue c*10^cs.length≤9*10^cs.length:=Nat.mul_le_mul_right _ (by omega)
  omega

variable {a:List Char}

lemma isDigits_append{b:List Char}:IsDigits (a++b)↔IsDigits a∧IsDigits b:=by
 simp [IsDigits,or_imp,forall_and]

lemma isDigits_reverse:IsDigits a.reverse↔IsDigits a:=by simp [IsDigits]

lemma isDigits_replicate_zero(n:ℕ):IsDigits (List.replicate n '0'):=by
 intro c hc
 rw [eq_of_mem_replicate hc]
 rfl

/-- The number of a string whose first digit is the least significant one. -/
def lowValue : List Char→ℕ
 | []=>0
 | c::cs=>digitValue c+10*lowValue cs

lemma value_reverse(cs:List Char):value cs.reverse=lowValue cs:=by
 induction cs with
 | nil=>rfl
 | cons c cs ih=>
  rw [reverse_cons,value_concat,ih,lowValue]
  omega

lemma lowValue_reverse(cs:List Char):lowValue cs.reverse=value cs:=by
 rw [←value_reverse,reverse_reverse]

/-- Digits without a superfluous leading zero. -/
structure IsNumeral (cs:List Char) : Prop where
 digits:IsDigits cs
 nonempty:cs≠[]
 lead:cs.head?=some '0' → cs=['0']

lemma IsNumeral.of_head(hd:IsDigits cs)(hne:cs≠[])(hh:cs.head?≠some '0'):IsNumeral cs:=
 ⟨hd,hne,fun h=>absurd h hh⟩

lemma pow_le_value(cs:List Char)(hc:c.isDigit=true)(hne:c ≠ '0'):10^cs.length≤value (c::cs):=by
 have hpos:0<digitValue c:=Nat.pos_of_ne_zero (fun h=>hne ((digitValue_eq_zero_iff hc).mp h))
 rw [value_cons]
 have hmul:1*10^cs.length≤digitValue c*10^cs.length:=Nat.mul_le_mul_right _ hpos
 omega

lemma IsNumeral.eq_toDigits(h:IsNumeral cs):cs=Nat.toDigits 10 (value cs):=by
 induction cs using List.reverseRecOn with
 | nil=>exact absurd rfl h.nonempty
 | append_singleton cs c ih=>
  have hd:=isDigits_append.mp h.digits
  have hc:c.isDigit=true:=hd.2 c (by simp)
  have hlt:=digitValue_lt hc
  cases cs with
  | nil=>rw [nil_append,value_singleton,Nat.toDigits_of_lt_base hlt,digitChar_digitValue hc]
  | cons d ds=>
   have hlead:d ≠ '0' := by
    intro hz
    have:=h.lead (by simp [hz])
    simp at this
   have hnum:IsNumeral (d::ds):=IsNumeral.of_head hd.1 (by simp) (by simpa using hlead)
   have hpos:0<value (d::ds):=
    lt_of_lt_of_le (by positivity) (pow_le_value ds (hd.1 d (by simp)) hlead)
   rw [value_concat,Nat.mul_comm,←Nat.toDigits_append_toDigits (by decide) hpos hlt,←ih hnum,
    Nat.toDigits_of_lt_base hlt,digitChar_digitValue hc]

lemma value_toDigits(n:ℕ):value (Nat.toDigits 10 n)=n:=Nat.ofDigitChars_ten_toDigits

lemma head_toDigits_ne_zero(h:0<n):(Nat.toDigits 10 n).head?≠some '0':=by
 induction n using Nat.strong_induction_on with
 | _ n ih=>
  by_cases hn:n<10
  · rw [Nat.toDigits_of_lt_base hn]
    simp only [List.head?_cons,ne_eq,Option.some.injEq,Nat.digitChar_eq_zero]
    omega
  · rw [Nat.toDigits_of_base_le (by decide) (by omega)]
    have hq:=ih (n/10) (by omega) (by omega)
    rw [List.head?_append_of_ne_nil _ Nat.toDigits_ne_nil]
    exact hq

lemma isDigits_toDigits(n:ℕ):IsDigits (Nat.toDigits 10 n):=
 fun _ hc=>Nat.isDigit_of_mem_toDigits (by decide) (by decide) hc

lemma isNumeral_toDigits(n:ℕ):IsNumeral (Nat.toDigits 10 n):=by
 refine ⟨isDigits_toDigits n,Nat.toDigits_ne_nil,fun h=>?_⟩
 rcases Nat.eq_zero_or_pos n with rfl|hn
 · simp
 · exact absurd h (head_toDigits_ne_zero hn)

lemma isNumeral_one:IsNumeral ['1']:=isNumeral_toDigits 1

lemma IsNumeral.eq_of_value_eq{b:List Char}(ha:IsNumeral a)(hb:IsNumeral b)
  (h:value a=value b):a=b:=by
 rw [ha.eq_toDigits,hb.eq_toDigits,h]

lemma IsNumeral.value_eq_zero(h:IsNumeral cs):value cs=0↔cs=['0']:=by
 constructor
 · intro hz
   rw [h.eq_toDigits,hz]
   rfl
 · intro hz
   rw [hz]
   rfl

/-- `trim_start_matches('0')` and `lstrip("0")`. -/
def trimStartZeros (cs:List Char) : List Char := cs.dropWhile (· == '0')

/-- `trim_end_matches('0')` and `rstrip("0")`. -/
def trimEndZeros (cs:List Char) : List Char := cs.rdropWhile (· == '0')

lemma value_trimStartZeros(cs:List Char):value (trimStartZeros cs)=value cs:=by
 induction cs with
 | nil=>rfl
 | cons c cs ih=>
  unfold trimStartZeros at ih ⊢
  rw [dropWhile_cons]
  split
  · next h=>
    rw [ih,value_cons,beq_iff_eq.mp h,digitValue_zero]
    omega
  · rfl

lemma IsDigits.trimStartZeros(h:IsDigits cs):IsDigits (trimStartZeros cs):=
 fun c hc=>h c ((dropWhile_sublist _).subset hc)

lemma IsDigits.trimEndZeros(h:IsDigits cs):IsDigits (trimEndZeros cs):=
 fun c hc=>h c (( rdropWhile_prefix _ _).subset hc)

lemma head_trimStartZeros(cs:List Char):(trimStartZeros cs).head?≠some '0':=by
 intro h
 have hn:=List.head?_dropWhile_not (· == '0') cs
 unfold trimStartZeros at h
 rw [h] at hn
 simp at hn

lemma value_eq_zero_iff(h:IsDigits cs):value cs=0↔trimStartZeros cs=[]:=by
 rw [←value_trimStartZeros]
 constructor
 · intro hz
   by_contra hne
   obtain ⟨c,ds,hc⟩:=exists_cons_of_ne_nil hne
   have hhead:=head_trimStartZeros cs
   rw [hc] at hhead hz
   have hdigit:c.isDigit=true:=h.trimStartZeros c (by simp [hc])
   have hle:=pow_le_value ds hdigit (by simpa using hhead)
   have hpos:0<10^ds.length:=by positivity
   omega
 · intro hnil
   rw [hnil]
   rfl

lemma trimEndZeros_append(cs:List Char):
  cs=trimEndZeros cs++List.replicate (cs.length-(trimEndZeros cs).length) '0':=by
 have happ:trimEndZeros cs++cs.rtakeWhile (· == '0')=cs:=rdropWhile_append_rtakeWhile
 have hrep:cs.rtakeWhile (· == '0')=List.replicate (cs.rtakeWhile (· == '0')).length '0' := by
  apply eq_replicate_of_mem
  intro c hc
  simpa using mem_rtakeWhile_imp hc
 have hlen:=congrArg List.length happ
 rw [length_append] at hlen
 have hcount:cs.length-(trimEndZeros cs).length=(cs.rtakeWhile (· == '0')).length:=by omega
 rw [hcount,←hrep]
 exact happ.symm

lemma getLast_trimEndZeros(h:trimEndZeros cs≠[]):(trimEndZeros cs).getLast h ≠ '0':=by
 have hlast:=rdropWhile_last_not (· == '0') cs h
 unfold trimEndZeros
 simpa using hlast

lemma not_ten_dvd_value(hd:IsDigits cs)(hne:cs≠[])(hlast:cs.getLast hne ≠ '0'):¬10 ∣ value cs:=by
 intro hdvd
 have hdigit:(cs.getLast hne).isDigit=true:=hd _ (getLast_mem hne)
 have hlt:=digitValue_lt hdigit
 have hnz:digitValue (cs.getLast hne)≠0:=fun h=>hlast ((digitValue_eq_zero_iff hdigit).mp h)
 rw [←dropLast_append_getLast hne,value_concat] at hdvd
 omega

end GraphBlocks.DigitStrings
