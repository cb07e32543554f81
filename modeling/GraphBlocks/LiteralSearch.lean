import Mathlib.Data.List.Basic
import Mathlib.Tactic

namespace GraphBlocks.LiteralSearch
open List Option

universe u

variable {α:Type u} (size:α→ℕ)

def width (l:List α) : ℕ := (l.map size).sum

/-- The text from an offset on. -/
def dropWidth : ℕ→List α→List α
 | _, []=>[]
 | n, a::l=>if n=0 then a::l else dropWidth (n-size a) l

/-- The text up to an offset. -/
def takeWidth : ℕ→List α→List α
 | _, []=>[]
 | n, a::l=>if n=0 then [] else a::takeWidth (n-size a) l

@[simp] lemma width_nil:width size []=0:=rfl

@[simp] lemma width_cons(a:α)(l:List α):width size (a::l)=size a+width size l:=by simp [width]

@[simp] lemma width_append(l m:List α):width size (l++m)=width size l+width size m:=by
 simp [width]

variable {l:List α}

section
variable {size}

section
variable (hsize:∀a,0<size a)
include hsize

lemma dropWidth_append(l m:List α):dropWidth size (width size l) (l++m)=m:=by
 induction l with
 | nil=>cases m <;>simp [dropWidth]
 | cons a l ih=>
  have hpos:=hsize a
  rw [width_cons,cons_append,dropWidth,if_neg (by omega),Nat.add_sub_cancel_left,ih]

lemma takeWidth_append(l m:List α):takeWidth size (width size l) (l++m)=l:=by
 induction l with
 | nil=>cases m <;>simp [takeWidth]
 | cons a l ih=>
  have hpos:=hsize a
  rw [width_cons,cons_append,takeWidth,if_neg (by omega),Nat.add_sub_cancel_left,ih]

lemma dropWidth_take(l:List α)(i:ℕ):dropWidth size (width size (l.take i)) l=l.drop i:=by
 have h:=dropWidth_append hsize (l.take i) (l.drop i)
 rwa [take_append_drop] at h

lemma takeWidth_take(l:List α)(i:ℕ):takeWidth size (width size (l.take i)) l=l.take i:=by
 have h:=takeWidth_append hsize (l.take i) (l.drop i)
 rwa [take_append_drop] at h

lemma width_pos(h:l≠[]):0<width size l:=by
 cases l with
 | nil=>exact absurd rfl h
 | cons a l=>
  have hpos:=hsize a
  rw [width_cons]
  omega

lemma lt_width_of_dropWidth{n:ℕ}(h:dropWidth size n l≠[]):n<width size l:=by
 induction l generalizing n with
 | nil=>exact absurd rfl h
 | cons a l ih=>
  have hpos:=hsize a
  rw [dropWidth] at h
  rw [width_cons]
  split at h
  · omega
  · have hrest:=ih h
    omega

end
end

section
variable [BEq α]

/-- The offset of the first occurrence. -/
def find (literal:List α) : List α→Option ℕ
 | []=>if literal.isEmpty then some 0 else none
 | a::l=>if literal.isPrefixOf (a::l) then some 0 else (find literal l).map fun n=>size a+n

/-- How many letters stand before the first occurrence. -/
def firstAt (literal:List α) : List α→Option ℕ
 | []=>if literal.isEmpty then some 0 else none
 | a::l=>if literal.isPrefixOf (a::l) then some 0 else (firstAt literal l).map fun k=>k+1

lemma find_eq(literal l:List α):
  find size literal l=(firstAt literal l).map fun k=>width size (l.take k):=by
 induction l with
 | nil=>
  rw [find,firstAt]
  split <;>rfl
 | cons a l ih=>
  rw [find,firstAt]
  split
  · rfl
  · rw [ih,Option.map_map,Option.map_map]
    congr 1

/-- The text with every leftmost non-overlapping occurrence of the literal replaced. -/
def replaceLiteral (literal replacement:List α) : List α→List α
 | []=>[]
 | a::l=>
  if literal.isPrefixOf (a::l) then
   replacement++replaceLiteral literal replacement (l.drop (literal.length-1))
  else a::replaceLiteral literal replacement l
termination_by l=>l.length
decreasing_by
 · simp only [length_drop,length_cons]
   omega
 · simp

variable {literal:List α}

/-- Nothing is replaced where the literal does not occur, and otherwise the first occurrence
and what comes after it. -/
lemma replaceLiteral_eq(hliteral:literal≠[])(replacement l:List α):
  replaceLiteral literal replacement l=(firstAt literal l).elim l fun k=>
    l.take k++replacement ++replaceLiteral literal replacement (l.drop (k+literal.length)):=by
 have hlength:0<literal.length:=length_pos_of_ne_nil hliteral
 induction l with
 | nil=>
  rw [firstAt,if_neg (by simpa using hliteral),replaceLiteral]
  rfl
 | cons a l ih=>
  rw [replaceLiteral,firstAt]
  split
  · obtain ⟨n,hn⟩:∃n,literal.length=n+1:=⟨literal.length-1,by omega⟩
    rw [elim_some,hn]
    simp
  · rw [ih]
    cases firstAt literal l with
    | none=>rfl
    | some k=>simp [Nat.add_right_comm]

variable [LawfulBEq α]

lemma firstAt_starts{k:ℕ}(h:firstAt literal l=some k):literal <+: l.drop k:=by
 induction l generalizing k with
 | nil=>
  rw [firstAt] at h
  split at h
  · next hempty=>
    have hnil:literal=[]:=by simpa using hempty
    rw [hnil]
    exact nil_prefix
  · cases h
 | cons a l ih=>
  rw [firstAt] at h
  split at h
  · next hle=>
    obtain rfl:=some.inj h
    exact isPrefixOf_iff_prefix.mp hle
  · obtain ⟨j,hj,rfl⟩:=map_eq_some_iff.mp h
    exact ih hj

lemma firstAt_le(hliteral:literal≠[]){k:ℕ}
  (h:firstAt literal l=some k):k+literal.length≤l.length:=by
 have hlength:=(firstAt_starts h).length_le
 have hpos:=length_pos_of_ne_nil hliteral
 rw [length_drop] at hlength
 omega
end
end GraphBlocks.LiteralSearch
