import GraphBlocks.PolicyTime
import GraphBlocks.Rfc3339

namespace GraphBlocks.PolicyTime
open DigitStrings RustStd GregorianCalendar Rfc3339 List Option

lemma era_eq(year:ℤ):(if 0≤year then year else year-399).tdiv 400=year/400:=by
 split
 · next h=>exact Int.tdiv_eq_ediv_of_nonneg h
 · next h=>
   have sign:Int.sign 400=1:=rfl
   rw [Int.tdiv_eq_ediv,sign]
   split <;>omega

variable {month:ℕ}

/-- The days of a date, counted in years that begin in March. -/
lemma daysFromCivil_eq(year:ℤ)(h:1≤ month)(day:ℤ):daysFromCivil year month day =
   365*(year-if month≤2 then 1 else 0)+(year-if month≤2 then 1 else 0)/4 -
    (year-if month≤2 then 1 else 0)/100+(year-if month≤2 then 1 else 0)/400 +
    (153*(month+if 2< month then -3 else 9)+2)/5+day-719469:=by
 simp only [daysFromCivil,era_eq]
 have early:((month:ℤ)≤2)=(month≤2):=by simp
 have late:((month:ℤ) > 2)=(2< month):=by simp
 simp only [early,late]
 generalize (year-if month≤2 then 1 else 0)=y
 rw [Int.tdiv_eq_ediv_of_nonneg (by omega),Int.tdiv_eq_ediv_of_nonneg (by omega),
  Int.tdiv_eq_ediv_of_nonneg (by split <;>omega)]
 omega

lemma newYear_eq(year:ℤ):daysFromCivil year 1 1=yearStart year:=by
 refine eq_yearStart (f:=fun year=>daysFromCivil year 1 1) (by decide) ?_ year
 intro year
 have next:=daysFromCivil_eq (year+1) (le_refl 1) 1
 have this:=daysFromCivil_eq year (le_refl 1) 1
 norm_num at next this ⊢
 rw [next,this]
 by_cases leap:LeapYear year
 · rw [yearLength,if_pos leap]
   unfold LeapYear at leap
   omega
 · rw [yearLength,if_neg leap]
   unfold LeapYear at leap
   omega

lemma firstDay_eq(year:ℤ)(h:1≤ month)(within:month≤12):
  daysFromCivil year month 1=yearStart year+monthStart year month:=by
 induction month,h using Nat.le_induction with
 | base=>simpa [monthStart] using newYear_eq year
 | succ month h ih=>
  have upper:month≤11:=by omega
  have before:=ih (by omega)
  rw [monthStart_succ year h,←add_assoc,←before,daysFromCivil_eq year h,
   daysFromCivil_eq year (Nat.le_succ_of_le h)]
  by_cases february:month=2
  · subst february
    by_cases leap:LeapYear year
    · simp only [monthLength,if_pos leap]
      unfold LeapYear at leap
      norm_num
      omega
    · simp only [monthLength,if_neg leap]
      unfold LeapYear at leap
      norm_num
      omega
  · have early:(month+1≤2)=(month≤2):=by
     rw [eq_iff_iff]
     omega
    simp only [early]
    generalize 365*(year-if month≤2 then 1 else 0)+(year-if month≤2 then 1 else 0)/4 -
     (year-if month≤2 then 1 else 0)/100+(year-if month≤2 then 1 else 0)/400=days
    interval_cases month <;>simp [monthLength] at february ⊢ <;>omega

lemma daysFromCivil_dayNumber(year:ℤ)(h:1≤ month)(within:month≤12)(day:ℕ):
  daysFromCivil year month day=dayNumber year month day:=by
 have first:=firstDay_eq year h within
 rw [daysFromCivil_eq year h] at first ⊢
 rw [dayNumber]
 omega

lemma isLeapYear_iff(year:ℤ):isLeapYear year=true↔LeapYear year:=by
 simp only [isLeapYear,LeapYear,Bool.or_eq_true,Bool.and_eq_true,beq_iff_eq,bne_iff_ne,
  ← Int.dvd_iff_tmod_eq_zero,ne_eq]
 omega

lemma daysInMonth_eq(year:ℤ)(h:1≤ month)(within:month≤12):
 daysInMonth year month=some (monthLength year month):=by
 by_cases leap:LeapYear year
 · have read:=(isLeapYear_iff year).mpr leap
   interval_cases month <;>simp [daysInMonth,monthLength,leap,read]
 · have read:isLeapYear year=false:=by
    rw [Bool.eq_false_iff,ne_eq,isLeapYear_iff]
    exact leap
   interval_cases month <;>simp [daysInMonth,monthLength,leap,read]

variable {cs:List Char}

lemma allDigits_iff:allDigits cs=true↔cs≠[]∧IsDigits cs:=by simp [allDigits,IsDigits]

variable {c:Char}

lemma not_digit_sign(h:c.isDigit=true):c ≠ '+' ∧ c ≠ '-':=by
 constructor <;>rintro rfl <;>cases h

lemma parseUnsigned_digits(h:IsDigits cs)(hne:cs≠[]):parseUnsigned cs=some (value cs:ℤ):=by
 unfold parseUnsigned
 split
 · exact absurd rfl (not_digit_sign (h '+' mem_cons_self)).1
 · rw [if_pos (allDigits_iff.mpr ⟨hne,h⟩)]

lemma parseSigned_digits(h:IsDigits cs)(hne:cs≠[]):parseSigned cs=some (value cs:ℤ):=by
 unfold parseSigned
 split
 · exact absurd rfl (not_digit_sign (h '-' mem_cons_self)).2
 · exact parseUnsigned_digits h hne

lemma parseSigned_some{n:ℤ}(h:parseSigned cs=some n):
  ∃c rest,cs=c::rest∧IsDigits rest∧(c.isDigit=true∨isSign c=true):=by
 have digits {l:List Char} {m:ℤ} (hl:(if allDigits l then some m else none)=some n) :
   l≠[]∧IsDigits l:=by
  split at hl
  · next h=>exact allDigits_iff.mp h
  · cases hl
 unfold parseSigned parseUnsigned at h
 split at h
 · exact ⟨_,_,rfl,(digits h).2,.inr rfl⟩
 · split at h
   · exact ⟨_,_,rfl,(digits h).2,.inr rfl⟩
   · obtain ⟨hne,hd⟩:=digits h
     obtain ⟨c,rest,rfl⟩:=exists_cons_of_ne_nil hne
     exact ⟨c,rest,rfl,fun d hd'=>hd d (mem_cons_of_mem _ hd'),.inl (hd c mem_cons_self)⟩

lemma parseSigned_of_parseUnsigned{n:ℤ}(h:parseUnsigned cs=some n):parseSigned cs=some n:=by
 unfold parseSigned
 split
 · simp [parseUnsigned,allDigits] at h
 · exact h

variable {n:ℕ}

lemma cut{m:ℕ}(h:cs.length=n+m):∃a b,cs=a++b∧a.length=n∧b.length=m:=
 ⟨cs.take n,cs.drop n,(take_append_drop n cs).symm,by simp [h],by simp [h]⟩

lemma parsePolicyDate_some{year month day:ℤ}:
  parsePolicyDate cs=some (year,month,day) ↔ ∃y m d : List Char,
   cs=y ++ '-' :: (m ++ '-' :: d)∧y.length=4∧m.length=2∧d.length=2 ∧
   parseSigned y=some year∧parseUnsigned m=some month∧parseUnsigned d=some day:=by
 constructor
 · intro h
   unfold parsePolicyDate at h
   split at h
   · cases h
   next shape=>
   simp only [not_or,not_not] at shape
   obtain ⟨hlength,first,second⟩:=shape
   obtain ⟨y,rest,rfl,hy,hrest⟩:=cut (n:=4) (m:=6) hlength
   obtain ⟨a,b,rfl,ha,hb⟩:=cut (n:=3) (m:=3) hrest
   obtain ⟨y₁,y₂,rfl,h₁,h₂⟩:=cut (n:=2) (m:=2) hy
   obtain ⟨c₁,c₂,rfl⟩:=length_eq_two.mp h₁
   obtain ⟨c₃,c₄,rfl⟩:=length_eq_two.mp h₂
   obtain ⟨s,m₁,m₂,rfl⟩:=length_eq_three.mp ha
   obtain ⟨s',d₁,d₂,rfl⟩:=length_eq_three.mp hb
   simp only [bind_eq_bind,bind_eq_some_iff,Option.pure_def,Option.some.injEq,Prod.mk.injEq] at h
   obtain ⟨year',hyear,month',hmonth,day',hday,rfl,rfl,rfl⟩:=h
   cases first
   cases second
   exact ⟨[c₁,c₂,c₃,c₄],[m₁,m₂],[d₁,d₂],rfl,rfl,rfl,rfl,hyear,hmonth,hday⟩
 · rintro ⟨y,m,d,rfl,hy,hm,hd,hyear,hmonth,hday⟩
   obtain ⟨y₁,y₂,rfl,h₁,h₂⟩:=cut (n:=2) (m:=2) hy
   obtain ⟨c₁,c₂,rfl⟩:=length_eq_two.mp h₁
   obtain ⟨c₃,c₄,rfl⟩:=length_eq_two.mp h₂
   obtain ⟨m₁,m₂,rfl⟩:=length_eq_two.mp hm
   obtain ⟨d₁,d₂,rfl⟩:=length_eq_two.mp hd
   have parts:parsePolicyDate ([c₁,c₂]++[c₃,c₄] ++ '-' :: ([m₁,m₂] ++ '-' :: [d₁,d₂]))=do
     let year ← parseSigned [c₁,c₂,c₃,c₄]
     let month ← parseUnsigned [m₁,m₂]
     let day ← parseUnsigned [d₁,d₂]
     return (year,month,day):=rfl
   rw [parts]
   simp only [cons_append,nil_append] at hyear
   rw [hyear,hmonth,hday]
   rfl

lemma parseOffset_some{sign:Char}{tail:List Char}{seconds:ℤ}:
  parseOffset (sign::tail)=some seconds ↔ ∃h m hours minutes,
   tail=h ++ ':' :: m∧h.length=2∧m.length=2∧parseSigned h=some hours ∧
   parseSigned m=some minutes∧hours≤23∧minutes≤59 ∧
   seconds=(if sign = '+' then 1 else -1)*((hours*60+minutes)*60):=by
 have read (h₁ h₂ m₁ m₂:Char):parseOffset (sign::h₁::h₂ :: ':' :: [m₁,m₂])=do
   let hours ← parseSigned [h₁,h₂]
   let minutes ← parseSigned [m₁,m₂]
   if hours > 23∨minutes > 59 then none
   else return (if some sign=some '+' then 1 else -1)*((hours*60+minutes)*60):=rfl
 constructor
 · intro found
   by_cases shape:(sign::tail).length≠6∨slice (sign::tail) 3 4≠[':']
   · rw [parseOffset,if_pos shape] at found
     cases found
   simp only [not_or,not_not] at shape
   obtain ⟨a,b,rfl,ha,hb⟩:=cut (n:=2) (m:=3) (Nat.succ.inj shape.1)
   obtain ⟨h₁,h₂,rfl⟩:=length_eq_two.mp ha
   obtain ⟨s,m₁,m₂,rfl⟩:=length_eq_three.mp hb
   cases shape.2
   rw [cons_append,cons_append,nil_append,read] at found
   simp only [bind_eq_bind,bind_eq_some_iff] at found
   obtain ⟨hours,hhours,minutes,hminutes,found⟩:=found
   split at found
   · cases found
   next fits=>
   cases found
   refine ⟨[h₁,h₂],[m₁,m₂],hours,minutes,rfl,rfl,rfl,hhours,hminutes,by omega,by omega,?_⟩
   simp only [Option.some.injEq]
 · rintro ⟨h,m,hours,minutes,rfl,hh,hm,hhours,hminutes,fit,fit',rfl⟩
   obtain ⟨h₁,h₂,rfl⟩:=length_eq_two.mp hh
   obtain ⟨m₁,m₂,rfl⟩:=length_eq_two.mp hm
   rw [cons_append,cons_append,nil_append,read,hhours,hminutes]
   simp only [bind_eq_bind,bind_some,Option.some.injEq]
   rw [if_neg (by omega)]
   rfl

def isZulu (c:Char) : Prop := c = 'Z' ∨ c = 'z'

lemma split_zulu(time:List Char){letter:Char}(h:isZulu letter):
  splitPolicyTimeOffset (time++[letter])=some (time,0):=by
 unfold splitPolicyTimeOffset
 rw [if_pos (by rcases h with rfl|rfl <;>simp),dropLast_concat]

lemma split_sign(time:List Char){sign:Char}{tail:List Char}(signed:isSign sign=true)
  (plain:∀c∈tail,isSign c=false)(last:∀c∈(time++sign::tail).getLast?,¬isZulu c):
  splitPolicyTimeOffset (time++sign::tail) =
   (parseOffset (sign::tail)).map fun seconds=>(time,seconds):=by
 have unmarked:¬((time++sign::tail).getLast?=some 'Z'∨(time++sign::tail).getLast?=some 'z'):=by
  rintro (h|h)
  · exact last 'Z' h (.inl rfl)
  · exact last 'z' h (.inr rfl)
 have after:(time++sign::tail).reverse.takeWhile (fun c => !isSign c)=tail.reverse:=by
  rw [reverse_append,reverse_cons,append_assoc,takeWhile_append_of_pos]
  · simp [signed]
  · intro c hc
    rw [plain c (mem_reverse.mp hc)]
    rfl
 unfold splitPolicyTimeOffset
 rw [if_neg unmarked,if_pos (List.any_eq_true.mpr ⟨sign,by simp,signed⟩)]
 simp only [after,length_append,length_reverse,length_cons]
 rw [show time.length+(tail.length+1)-tail.length-1=time.length by omega,drop_left,take_left]

lemma split_cases{time:List Char}{seconds:ℤ}(h:splitPolicyTimeOffset cs=some (time,seconds)):
  (∃letter,isZulu letter∧cs=time++[letter])∨(∃sign tail,isSign sign=true∧cs=time++sign::tail ∧
    (∀c∈tail,isSign c=false)∧parseOffset (sign::tail)=some seconds) ∨
   (cs=time∧(∀c∈cs,isSign c=false)∧∀c∈cs.getLast?,¬isZulu c):=by
 by_cases marked:cs.getLast?=some 'Z' ∨ cs.getLast?=some 'z'
 · rw [splitPolicyTimeOffset,if_pos marked] at h
   cases h
   left
   rcases marked with hlast|hlast
   · exact ⟨'Z',.inl rfl,(dropLast_append_getLast? _ hlast).symm⟩
   · exact ⟨'z',.inr rfl,(dropLast_append_getLast? _ hlast).symm⟩
 have last:∀c∈cs.getLast?,¬isZulu c:=by
  rintro c hc (rfl|rfl)
  · exact marked (.inl hc)
  · exact marked (.inr hc)
 by_cases signs:cs.any isSign=true
 · obtain ⟨front,sign,tail,rfl,signed,plain⟩:∃front sign tail,cs=front++sign::tail ∧
     isSign sign=true∧∀c∈tail,isSign c=false:=by
    obtain ⟨sign,tail,hfind⟩:=exists_cons_of_ne_nil
     (l:=cs.reverse.dropWhile fun c => !isSign c) (by simpa using signs)
    refine ⟨tail.reverse,sign,(cs.reverse.takeWhile fun c => !isSign c).reverse,?_,?_,?_⟩
    · have whole:=takeWhile_append_dropWhile (p:=fun c => !isSign c) (l:=cs.reverse)
      rw [hfind] at whole
      have back:=congrArg List.reverse whole
      rw [reverse_reverse,reverse_append,reverse_cons,append_assoc] at back
      exact back.symm
    · simpa using head?_dropWhile (p:=fun c => !isSign c) (by rw [hfind];rfl)
    · intro c hc
      simpa using mem_takeWhile_imp (mem_reverse.mp hc)
   rw [split_sign front signed plain last,map_eq_some_iff] at h
   obtain ⟨_,hoffset,hpair⟩:=h
   cases hpair
   exact .inr (.inl ⟨sign,tail,signed,rfl,plain,hoffset⟩)
 · rw [splitPolicyTimeOffset,if_neg marked,if_neg signs] at h
   cases h
   exact .inr (.inr ⟨rfl,by simpa using signs,last⟩)

lemma parsePolicyTime_some{hour minute second millis:ℤ}:
  parsePolicyTime cs=some (hour,minute,second,millis) ↔ ∃h m s rest fraction : List Char,
   cs=(h ++ ':' :: (m ++ ':' :: s))++rest∧(rest=[]∧fraction=[]∨rest = '.' :: fraction) ∧
   h.length=2∧m.length=2∧s.length=2∧IsDigits fraction ∧
   parseUnsigned h=some hour∧parseUnsigned m=some minute∧parseUnsigned s=some second ∧
   millis=fractionMillis fraction:=by
 constructor
 · intro found
   have whole:=takeWhile_append_dropWhile (p:=(· != '.')) (l:=cs)
   unfold parsePolicyTime at found
   simp only at found
   generalize hbase:cs.takeWhile (· != '.')=base at found whole
   split at found
   · cases found
   next shape=>
   split at found
   · cases found
   next digits=>
   simp only [not_or,not_not] at shape
   obtain ⟨a,rest,rfl,ha,hrest⟩:=cut (n:=3) (m:=5) shape.1
   obtain ⟨b,c,rfl,hb,hc⟩:=cut (n:=3) (m:=2) hrest
   obtain ⟨h₁,h₂,t,rfl⟩:=length_eq_three.mp ha
   obtain ⟨m₁,m₂,t',rfl⟩:=length_eq_three.mp hb
   obtain ⟨s₁,s₂,rfl⟩:=length_eq_two.mp hc
   cases shape.2.1
   cases shape.2.2
   simp only [bind_eq_bind,bind_eq_some_iff,Option.pure_def,Option.some.injEq,
    Prod.mk.injEq] at found
   obtain ⟨hour',hhour,minute',hminute,second',hsecond,rfl,rfl,rfl,rfl⟩:=found
   refine ⟨[h₁,h₂],[m₁,m₂],[s₁,s₂],cs.dropWhile (· != '.'),(cs.dropWhile (· != '.')).drop 1,
    whole.symm,?_,rfl,rfl,rfl,?_,hhour,hminute,hsecond,rfl⟩
   · cases hdrop:cs.dropWhile (· != '.') with
     | nil=>exact .inl ⟨rfl,rfl⟩
     | cons c rest=>
      have point:=head?_dropWhile (p:=(· != '.')) (l:=cs) (a:=c) (by rw [hdrop];rfl)
      right
      rw [drop_one,tail_cons,show c = '.' by simpa using point]
   · simpa [IsDigits] using digits
 · rintro ⟨h,m,s,rest,fraction,rfl,tail,hh,hm,hs,digits,hhour,hminute,hsecond,rfl⟩
   have plain {l:List Char} {n:ℤ} (read:parseUnsigned l=some n):∀c∈l,c ≠ '.' := by
    obtain ⟨d,ds,rfl,hds,hd⟩:=parseSigned_some (parseSigned_of_parseUnsigned read)
    intro c hc same
    subst same
    rcases mem_cons.mp hc with rfl|hc
    · rcases hd with hd|hd <;>cases hd
    · cases hds '.' hc
   obtain ⟨h₁,h₂,rfl⟩:=length_eq_two.mp hh
   obtain ⟨m₁,m₂,rfl⟩:=length_eq_two.mp hm
   obtain ⟨s₁,s₂,rfl⟩:=length_eq_two.mp hs
   have clock:∀c∈[h₁,h₂] ++ ':' :: ([m₁,m₂] ++ ':' :: [s₁,s₂]),(c != '.')=true:=by
    intro c hc
    simp only [mem_append,mem_cons (b := ':')] at hc
    rcases hc with hc|rfl|hc|rfl|hc
    · simpa using plain hhour c hc
    · rfl
    · simpa using plain hminute c hc
    · rfl
    · simpa using plain hsecond c hc
   have ends:rest.takeWhile (· != '.')=[]∧(rest.dropWhile (· != '.')).drop 1=fraction:=by
    rcases tail with ⟨rfl,rfl⟩|rfl <;>simp
   have base:=@takeWhile_append_of_pos _ _ _ rest clock
   have after:=@dropWhile_append_of_pos _ _ _ rest clock
   rw [ends.1,append_nil] at base
   unfold parsePolicyTime
   simp only [base,after,ends.2]
   rw [if_neg (by simp [slice]),if_neg (by simpa [IsDigits] using digits)]
   change (do
     let hour ← parseUnsigned [h₁,h₂]
     let minute ← parseUnsigned [m₁,m₂]
     let second ← parseUnsigned [s₁,s₂]
     return (hour,minute,second,fractionMillis fraction))=_
   rw [hhour,hminute,hsecond]
   rfl

lemma fractionMillis_eq{fraction:List Char}(h:IsDigits fraction):
  fractionMillis fraction=(1000*value fraction/10^fraction.length:ℕ):=by
 rcases fraction with _|⟨a,_|⟨b,_|⟨c,rest⟩⟩⟩
 · rfl
 · simp [fractionMillis,value_singleton]
   omega
 · simp [fractionMillis,value_cons]
   omega
 · have digits:IsDigits rest:=fun d hd=>h d (by simp [hd])
   have cutoff:1000*value (a::b::c::rest)/10^(a::b::c::rest).length=value [a,b,c]:=by
    have three:([a,b,c]:List Char).length=3:=rfl
    exact millis_of_fraction digits three
   rw [cutoff]
   simp [fractionMillis,value_cons]
   omega

variable (t:DateTime)

lemma signed_number(field:Digits (n+1)):parseSigned field.1=some (field.number:ℤ):=
 parseSigned_digits field.2.1 (ne_nil_of_length_eq_add_one field.2.2)

lemma unsigned_number(field:Digits (n+1)):parseUnsigned field.1=some (field.number:ℤ):=
 parseUnsigned_digits field.2.1 (ne_nil_of_length_eq_add_one field.2.2)

lemma parse_dateText:parsePolicyDate t.dateText =
  some ((t.year.number:ℤ),(t.month.number:ℤ),(t.day.number:ℤ)):=
 parsePolicyDate_some.mpr ⟨t.year.1,t.month.1,t.day.1,rfl,t.year.2.2,t.month.2.2,t.day.2.2,
  signed_number t.year,unsigned_number t.month,unsigned_number t.day⟩

lemma parse_timeText:parsePolicyTime t.timeText =
  some ((t.hour.number:ℤ),(t.minute.number:ℤ),(t.second.number:ℤ),fractionMillis t.fraction.1):=by
 refine parsePolicyTime_some.mpr ⟨t.hour.1,t.minute.1,t.second.1,t.fractionText,t.fraction.1,rfl,?_,
  t.hour.2.2,t.minute.2.2,t.second.2.2,t.fraction.2,unsigned_number t.hour,unsigned_number t.minute,
  unsigned_number t.second,rfl⟩
 by_cases bare:t.fraction.1=[]
 · exact .inl ⟨if_pos bare,bare⟩
 · exact .inr (if_neg bare)

lemma not_sign_of_isDigit(h:c.isDigit=true):isSign c=false:=by
 have plain:=not_digit_sign h
 simp [isSign,plain.1,plain.2]

lemma split_text{offset:Offset}(h:offset.InRange)(time:List Char):
  splitPolicyTimeOffset (time++offset.text)=some (time,offset.seconds):=by
 cases offset with
 | zulu letter written=>exact split_zulu time written
 | numeric sign signed hours minutes=>
  have read:parseOffset (sign::(hours.1 ++ ':' :: minutes.1)) =
    some (Offset.numeric sign signed hours minutes).seconds:=
   parseOffset_some.mpr ⟨hours.1,minutes.1,hours.number,minutes.number,rfl,hours.2.2,minutes.2.2,
    signed_number hours,signed_number minutes,by exact_mod_cast h.1,by exact_mod_cast h.2,rfl⟩
  rw [Offset.text,split_sign time (by simpa [isSign] using signed) _ _,read]
  · rfl
  · intro c hc
    simp only [mem_append,mem_cons] at hc
    rcases hc with hc|rfl|hc
    · exact not_sign_of_isDigit (hours.2.1 c hc)
    · rfl
    · exact not_sign_of_isDigit (minutes.2.1 c hc)
  · intro c hc
    obtain ⟨m₁,m₂,hm⟩:=length_eq_two.mp minutes.2.2
    have digit:=minutes.2.1 m₂ (by simp [hm])
    have last:(time++sign::(hours.1 ++ ':' :: [m₁,m₂])).getLast?=some m₂:=by
     rw [show time++sign::(hours.1 ++ ':' :: [m₁,m₂]) =
      (time++sign::(hours.1++[':',m₁]))++[m₂] by simp,List.getLast?_concat]
    rw [hm,last] at hc
    cases hc
    rintro (same|same) <;>rw [same] at digit <;>cases digit

lemma dateText_chars(h:c∈t.dateText):c.isDigit=true∨c = '-':=by
 simp only [DateTime.dateText,mem_append,mem_cons] at h
 rcases h with h|rfl|h|rfl|h
 · exact .inl (t.year.2.1 c h)
 · exact .inr rfl
 · exact .inl (t.month.2.1 c h)
 · exact .inr rfl
 · exact .inl (t.day.2.1 c h)

lemma offset_chars{offset:Offset}(h:c∈offset.text):c.isDigit=true∨c∈['Z','z','+','-',':']:=by
 cases offset with
 | zulu letter written=>
  cases mem_singleton.mp h
  rcases written with rfl|rfl <;>simp
 | numeric sign signed hours minutes=>
  simp only [Offset.text,mem_cons,mem_append] at h
  rcases h with rfl|h|rfl|h
  · rcases signed with rfl|rfl <;>simp
  · exact .inl (hours.2.1 c h)
  · simp
  · exact .inl (minutes.2.1 c h)

lemma timeText_chars(h:c∈t.timeText):c.isDigit=true∨c = ':' ∨ c = '.':=by
 simp only [DateTime.timeText,DateTime.clockText,DateTime.fractionText,mem_append,mem_cons] at h
 rcases h with (h|rfl|h|rfl|h)|h
 · exact .inl (t.hour.2.1 c h)
 · simp
 · exact .inl (t.minute.2.1 c h)
 · simp
 · exact .inl (t.second.2.1 c h)
 · split at h
   · cases h
   · rcases mem_cons.mp h with rfl|h
     · simp
     · exact .inl (t.fraction.2 c h)

lemma text_chars(h:c∈t.text):c.isDigit=true∨c=t.mark∨c∈['-',':','.','Z','z','+']:=by
 simp only [DateTime.text,mem_append,mem_cons] at h
 rcases h with h|rfl|h|h
 · rcases dateText_chars t h with h|rfl <;>simp_all
 · exact .inr (.inl rfl)
 · rcases timeText_chars t h with h|rfl|rfl <;>simp_all
 · rcases offset_chars h with h|h
   · exact .inl h
   · simp only [mem_cons,not_mem_nil,or_false] at h ⊢
     tauto

lemma text_plain(h:c∈t.text):c.toNat<128∧isWhitespace c=false:=by
 rcases text_chars t h with h|h|h
 · exact ⟨by have:=toNat_of_isDigit h;omega,isWhitespace_of_isDigit h⟩
 · rcases t.marked with mark|mark <;>rw [h,mark] <;>decide
 · simp only [mem_cons,not_mem_nil,or_false] at h
   rcases h with rfl|rfl|rfl|rfl|rfl|rfl <;>decide

lemma trim_text:trimChars t.text=t.text:=by
 rw [trimChars_eq_trimmed]
 apply trimmed_eq_self
 · intro c hc
   exact (text_plain t (mem_of_mem_head? hc)).2
 · intro c hc
   exact (text_plain t (mem_of_getLast? hc)).2

lemma date_marked(h:c∈t.dateText):(c != t.mark)=true:=by
 rw [bne_iff_ne]
 rintro rfl
 rcases dateText_chars t h with digit|dash
 · rcases t.marked with mark|mark <;>rw [mark] at digit <;>cases digit
 · rcases t.marked with mark|mark <;>rw [mark] at dash <;>cases dash

lemma text_mark:(if t.text.contains 'T' then 'T' else 't')=t.mark:=by
 rcases t.marked with mark|mark
 · have found:t.text.contains 'T' = true:=by
    rw [contains_iff_mem,←mark,DateTime.text]
    exact mem_append_right _ mem_cons_self
   rw [if_pos found,mark]
 · have absent:¬t.text.contains 'T' = true:=by
    rw [contains_iff_mem]
    intro found
    rcases text_chars t found with h|h|h
    · cases h
    · rw [mark] at h
      cases h
    · revert h
      decide
   rw [if_neg absent,mark]

lemma mark_mem:t.mark∈t.text:=mem_append_right _ mem_cons_self

lemma parse_text(h:t.InRange):parsePolicyDatetimeMillis (String.ofList t.text)=some ⌊t.instant⌋:=by
 have ascii:¬(t.text.isEmpty || !isAscii t.text)=true:=by
  have plain:isAscii t.text=true:=List.all_eq_true.mpr fun c hc=>decide_eq_true (text_plain t hc).1
  have nonempty:t.text.isEmpty=false:=by
   rw [isEmpty_eq_false_iff]
   exact ne_nil_of_mem (mark_mem t)
  simp [plain,nonempty]
 have marked:¬(!t.text.contains 'T' && !t.text.contains 't')=true:=by
  have found:=mark_mem t
  rcases t.marked with mark|mark <;>rw [mark] at found <;>simp [found]
 have date:t.text.takeWhile (· != t.mark)=t.dateText:=by
  rw [DateTime.text,takeWhile_append_of_pos fun c hc=>date_marked t hc]
  simp
 have rest:(t.text.dropWhile (· != t.mark)).drop 1=t.timeText++t.offset.text:=by
  rw [DateTime.text,dropWhile_append_of_pos fun c hc=>date_marked t hc]
  simp
 obtain ⟨month,day,hour,minute,second,offset⟩:=h
 unfold parsePolicyDatetimeMillis
 simp only [String.toList_ofList,trim_text,if_neg ascii,if_neg marked,text_mark,date,rest,
  parse_dateText,split_text offset,parse_timeText,bind_eq_bind,bind_some]
 rw [if_neg (by omega),daysInMonth_eq _ month.1 month.2,bind_some,if_neg (by omega),
  t.floor_instant,DateTime.seconds,←fractionMillis_eq t.fraction.2,
  daysFromCivil_dayNumber _ month.1 month.2]
 rfl

/-- Timestamps are the instants they denote, rounded down to milliseconds: texts of one
millisecond are read alike, and the order of instants is kept. -/
theorem timestamps_exact (t u : DateTime) (ht : t.InRange) (hu : u.InRange) :
  parsePolicyDatetimeMillis (String.ofList t.text)=some ⌊t.instant⌋ ∧
  (⌊t.instant⌋ = ⌊u.instant⌋ → parsePolicyDatetimeMillis (String.ofList t.text) =
   parsePolicyDatetimeMillis (String.ofList u.text)) ∧
  (t.instant≤u.instant → ∃a b,parsePolicyDatetimeMillis (String.ofList t.text)=some a ∧
   parsePolicyDatetimeMillis (String.ofList u.text)=some b∧a≤b) := by
 refine ⟨parse_text t ht,?_,?_⟩
 · intro same
   rw [parse_text t ht,parse_text u hu,same]
 · intro earlier
   exact ⟨_,_,parse_text t ht,parse_text u hu,Int.floor_mono earlier⟩

/-- 2024-02-29T23:59:59.9999+05:30 -/
def localEvening : DateTime where
 year:=.of ['2','0','2','4'] (by decide)
 month:=.of ['0','2'] (by decide)
 day:=.of ['2','9'] (by decide)
 mark := 'T'
 marked:=.inl rfl
 hour:=.of ['2','3'] (by decide)
 minute:=.of ['5','9'] (by decide)
 second:=.of ['5','9'] (by decide)
 fraction:=⟨['9','9','9','9'],List.all_eq_true.mp (by decide)⟩
 offset:=.numeric '+' (.inl rfl) (.of ['0','5'] (by decide)) (.of ['3','0'] (by decide))

theorem localEvening_exact :
  parsePolicyDatetimeMillis (String.ofList localEvening.text)=some ⌊localEvening.instant⌋ := by
 have fits:localEvening.InRange:=
  ⟨by decide,by decide,by decide,by decide,by decide,⟨by decide,by decide⟩⟩
 exact (timestamps_exact localEvening localEvening fits fits).1

end GraphBlocks.PolicyTime
