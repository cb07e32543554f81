import Mathlib.Data.List.Sort
import Mathlib.Tactic

/-! Conditions of a `WHERE` clause are three-valued: a comparison with `NULL` is neither true nor
false, and a row is selected when its condition is true. -/
namespace GraphBlocks.Sql
open List

universe u v

abbrev Truth := Option Bool

def equals {α:Type u} [DecidableEq α] (a b:Option α) : Truth :=
 a.bind fun x=>b.map fun y=>decide (x=y)

def isNull {α:Type u} (a:Option α) : Truth := some a.isNone

def isNotNull {α:Type u} (a:Option α) : Truth := some a.isSome

def both : Truth→Truth→Truth
 | some false, _=>some false
 | _, some false=>some false
 | some true, some true=>some true
 | _, _=>none

def either : Truth→Truth→Truth
 | some true, _=>some true
 | _, some true=>some true
 | some false, some false=>some false
 | _, _=>none

def holds (t:Truth) : Bool := t==some true

section
variable {α:Type u} [DecidableEq α]

@[simp] lemma holds_equals(a b:Option α):holds (equals a b)=(a.isSome&&decide (a=b)):=by
 cases a <;>cases b <;>simp [holds,equals]

omit [DecidableEq α] in
@[simp] lemma holds_isNull(a:Option α):holds (isNull a)=a.isNone:=by cases a <;>rfl

omit [DecidableEq α] in
@[simp] lemma holds_isNotNull(a:Option α):holds (isNotNull a)=a.isSome:=by cases a <;>rfl

@[simp] lemma holds_both(s t:Truth):holds (both s t)=(holds s&&holds t):=by
 rcases s with _|_|_ <;>rcases t with _|_|_ <;>rfl

@[simp] lemma holds_either(s t:Truth):holds (either s t)=(holds s||holds t):=by
 rcases s with _|_|_ <;>rcases t with _|_|_ <;>rfl
end

section
variable {ρ:Type v} (key:ρ→ℤ)

def orderBy (rows:List ρ) : List ρ := rows.insertionSort fun a b=>key a≤key b

/-- `MAX(key)`, null on no rows. -/
def maxOf (rows:List ρ) : Option ℤ := (rows.map key).max?

/-- `COALESCE(MAX(key), 0) + 1`. -/
def nextOf (rows:List ρ) : ℤ := (maxOf key rows).getD 0+1

/-- Rows numbered `n`, `n + 1`, .. in the order of the list. -/
def Numbered : ℤ→List ρ→Prop
 | _, []=>True
 | n, row::rows=>key row=n∧Numbered (n+1) rows

variable {key} {n:ℤ} {rows:List ρ}

lemma Numbered.bounds(h:Numbered key n rows):∀row∈rows,n≤key row∧key row<n+rows.length:=by
 induction rows generalizing n with
 | nil=>simp
 | cons row rows ih=>
  intro r hr
  rw [length_cons]
  rcases mem_cons.mp hr with rfl|hr
  · have hkey:=h.1
    omega
  · have hrest:=ih h.2 r hr
    omega

lemma Numbered.sorted(h:Numbered key n rows):rows.Pairwise fun a b=>key a≤key b:=by
 induction rows generalizing n with
 | nil=>exact List.Pairwise.nil
 | cons row rows ih=>
  refine pairwise_cons.mpr ⟨fun r hr=>?_,ih h.2⟩
  have hkey:=h.1
  have hrest:=h.2.bounds r hr
  omega

lemma Numbered.orderBy_filter(h:Numbered key n rows)(p:ρ→Bool):
  orderBy key (rows.filter p)=rows.filter p:=
 (h.sorted.filter p).insertionSort_eq

lemma Numbered.last(h:Numbered key n rows)(hne:rows≠[]):∃row∈rows,key row=n+rows.length-1:=by
 induction rows generalizing n with
 | nil=>exact absurd rfl hne
 | cons row rows ih=>
  cases rows with
  | nil=>
   have hkey:=h.1
   exact ⟨row,mem_cons_self,by simpa using hkey⟩
  | cons r rows=>
   obtain ⟨last,hlast,hkey⟩:=ih h.2 (cons_ne_nil _ _)
   refine ⟨last,mem_cons_of_mem _ hlast,?_⟩
   rw [length_cons]
   omega

lemma Numbered.nextOf_eq(h:Numbered key 1 rows):nextOf key rows=rows.length+1:=by
 unfold nextOf maxOf
 by_cases hne:rows=[]
 · subst hne
   rfl
 · obtain ⟨last,hlast,hkey⟩:=h.last hne
   have hmax:(rows.map key).max?=some (rows.length:ℤ):=by
    rw [List.max?_eq_some_iff]
    constructor
    · exact mem_map.mpr ⟨last,hlast,by omega⟩
    · intro k hk
      obtain ⟨row,hrow,rfl⟩:=mem_map.mp hk
      have hbounds:=h.bounds row hrow
      omega
   rw [hmax]
   rfl
end

end GraphBlocks.Sql
