import GraphBlocks.DigitStrings
import GraphBlocks.GregorianCalendar

/-! The texts of the `date-time` grammar as a type, and the instants they denote. -/
namespace GraphBlocks.Rfc3339
open DigitStrings GregorianCalendar List

abbrev Digits (n:ℕ) := {cs:List Char // IsDigits cs∧cs.length=n}

def Digits.of {n:ℕ} (cs:List Char) (h:cs.all Char.isDigit=true∧cs.length=n) : Digits n :=
 ⟨cs,all_eq_true.mp h.1,h.2⟩

def Digits.number {n:ℕ} (field:Digits n) : ℕ := value field.1

/-- The grammar reads letters without regard to case. -/
inductive Offset where
 | zulu (letter:Char) (written:letter = 'Z' ∨ letter = 'z')
 | numeric (sign:Char) (signed:sign = '+' ∨ sign = '-') (hours minutes:Digits 2)

structure DateTime where
 year:Digits 4
 month:Digits 2
 day:Digits 2
 mark:Char
 marked:mark = 'T' ∨ mark = 't'
 hour:Digits 2
 minute:Digits 2
 second:Digits 2
 fraction:{cs:List Char // IsDigits cs}
 offset:Offset

namespace Offset

def text : Offset→List Char
 | zulu letter _=>[letter]
 | numeric sign _ hours minutes=>sign::(hours.1 ++ ':' :: minutes.1)

def seconds : Offset→ℤ
 | zulu _ _=>0
 | numeric sign _ hours minutes=>
  (if sign = '+' then 1 else -1)*((hours.number*60+minutes.number)*60)

def InRange : Offset→Prop
 | zulu _ _=>True
 | numeric _ _ hours minutes=>hours.number≤23∧minutes.number≤59

end Offset

namespace DateTime

variable (t:DateTime)

def dateText : List Char := t.year.1 ++ '-' :: (t.month.1 ++ '-' :: t.day.1)

/-- The fraction is written with its point, or not at all. -/
def fractionText : List Char := if t.fraction.1=[] then [] else '.' :: t.fraction.1

def clockText : List Char := t.hour.1 ++ ':' :: (t.minute.1 ++ ':' :: t.second.1)

def timeText : List Char := t.clockText++t.fractionText

def text : List Char := t.dateText++t.mark::(t.timeText++t.offset.text)

/-- The fields name a day of the calendar and a time of the day without leap seconds. -/
structure InRange : Prop where
 month:1≤t.month.number∧t.month.number≤12
 day:1≤t.day.number∧t.day.number≤ monthLength t.year.number t.month.number
 hour:t.hour.number≤23
 minute:t.minute.number≤59
 second:t.second.number≤59
 offset:t.offset.InRange

/-- Whole seconds since 1970-01-01T00:00:00Z. -/
noncomputable def seconds : ℤ :=
 ((dayNumber t.year.number t.month.number t.day.number*24+t.hour.number)*60 +
  t.minute.number)*60+t.second.number-t.offset.seconds

/-- Milliseconds since 1970-01-01T00:00:00Z. -/
noncomputable def instant : ℚ := (t.seconds+value t.fraction.1/10^t.fraction.1.length)*1000

end DateTime

lemma millis_of_fraction{head tail:List Char}(h:IsDigits tail)(hlength:head.length=3):
  1000*value (head++tail)/10^(head++tail).length=value head:=by
 have hrest:=value_lt h
 rw [value_append,length_append,hlength,pow_add]
 rw [show (10:ℕ)^3=1000 from rfl,Nat.mul_div_mul_left _ _ (by norm_num)]
 rw [Nat.add_comm,Nat.add_mul_div_right _ _ (by positivity),Nat.div_eq_of_lt hrest,Nat.zero_add]

lemma DateTime.floor_instant(t:DateTime):⌊t.instant⌋ = t.seconds*1000 +
   (1000*value t.fraction.1/10^t.fraction.1.length:ℕ):=by
 have split:t.instant=((t.seconds*1000:ℤ):ℚ) +
   ((1000*value t.fraction.1:ℕ):ℚ)/((10^t.fraction.1.length:ℕ):ℚ):=by
  unfold DateTime.instant
  push_cast
  ring
 rw [split,Int.floor_intCast_add]
 congr 1
 exact Rat.floor_natCast_div_natCast _ _

end GraphBlocks.Rfc3339
