import Mathlib.Algebra.BigOperators.Intervals
import Mathlib.Data.Int.Interval
import Mathlib.Algebra.Order.Interval.Finset.SuccPred
import Mathlib.Tactic

namespace GraphBlocks.GregorianCalendar
open Finset

def LeapYear (year:ℤ) : Prop := 4 ∣ year∧(¬100 ∣ year∨400 ∣ year)

instance (year:ℤ) : Decidable (LeapYear year) := inferInstanceAs (Decidable (_ ∧ _))

def yearLength (year:ℤ) : ℤ := if LeapYear year then 366 else 365

def monthLength (year:ℤ) (month:ℕ) : ℤ :=
 if month=2 then if LeapYear year then 29 else 28
 else if month=4∨month=6∨month=9∨month=11 then 30 else 31

/-- Days from the first day of 1970 to the first day of the year. -/
noncomputable def yearStart (year:ℤ) : ℤ :=
 ∑ y∈Ico 1970 year, yearLength y - ∑ y∈Ico year 1970, yearLength y

def monthStart (year:ℤ) (month:ℕ) : ℤ := ∑ m∈Ico 1 month, monthLength year m

noncomputable def dayNumber (year:ℤ) (month day:ℕ) : ℤ := yearStart year+monthStart year month+(day-1)

lemma yearStart_succ(year:ℤ):yearStart (year+1)=yearStart year+yearLength year:=by
 unfold yearStart
 by_cases later:1970≤year
 · rw [Ico_eq_empty_of_le (show (1970:ℤ)≤year+1 by omega),Ico_eq_empty_of_le later,
    ← insert_Ico_right_eq_Ico_add_one later,sum_insert (by simp)]
   ring
 · have before:year<1970:=not_le.mp later
   rw [Ico_eq_empty_of_le (show year+1≤(1970:ℤ) by omega),
    Ico_eq_empty_of_le (show year≤(1970:ℤ) by omega),
    ← insert_Ico_add_one_left_eq_Ico before,sum_insert (by simp)]
   ring

lemma monthStart_succ(year:ℤ){month:ℕ}(h:1≤ month):
  monthStart year (month+1)=monthStart year month+monthLength year month:=
 sum_Ico_succ_top h _

lemma eq_yearStart{f:ℤ→ℤ}(epoch:f 1970=0)
  (succ:∀year,f (year+1)=f year+yearLength year)(year:ℤ):f year=yearStart year:=by
 have agree:f 1970=yearStart 1970:=by simp [epoch,yearStart]
 rcases le_total 1970 year with later|before
 · induction year,later using Int.leInduction with
   | base=>exact agree
   | succ year _ ih=>rw [succ,yearStart_succ,ih]
 · induction year,before using Int.leInductionDown with
   | base=>exact agree
   | pred year _ ih=>
    have upper:=succ (year-1)
    have lower:=yearStart_succ (year-1)
    rw [sub_add_cancel] at upper lower
    omega

end GraphBlocks.GregorianCalendar
