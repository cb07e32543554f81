import Mathlib.Data.List.Basic
import Mathlib.Data.List.Sort
import Mathlib.Tactic

namespace GraphBlocks.RangeEdits
open List Option

universe u v

structure Edit (α:Type u) where
 start:ℕ
 stop:ℕ
 replacement:List α

section
variable {α:Type u} {β:Type v}

def Edit.apply (e:Edit α) (l:List α) : List α := l.take e.start++e.replacement++l.drop e.stop

def Edit.map (f:α→β) (e:Edit α) : Edit β := ⟨e.start,e.stop,e.replacement.map f⟩

def applyEdits (edits:List (Edit α)) (l:List α) : List α := edits.foldr Edit.apply l

@[simp] lemma applyEdits_nil(l:List α):applyEdits [] l=l:=rfl

@[simp] lemma applyEdits_cons(e:Edit α)(edits:List (Edit α))(l:List α):
  applyEdits (e::edits) l=e.apply (applyEdits edits l):=rfl

lemma Edit.map_apply(f:α→β)(e:Edit α)(l:List α):(e.apply l).map f=(e.map f).apply (l.map f):=by
 simp [Edit.apply,Edit.map]

lemma map_applyEdits(f:α→β)(edits:List (Edit α))(l:List α):
  (applyEdits edits l).map f=applyEdits (edits.map (Edit.map f)) (l.map f):=by
 induction edits with
 | nil=>rfl
 | cons e edits ih=>rw [applyEdits_cons,Edit.map_apply,ih];rfl

/-- Each range lies inside the list as it is when the edit is made. -/
def Fits : List (Edit α)→List α→Prop
 | [], _=>True
 | e::edits, l=>Fits edits l∧e.start≤e.stop∧e.stop≤(applyEdits edits l).length

lemma fits_map_iff(f:α→β)(edits:List (Edit α))(l:List α):
  Fits (edits.map (Edit.map f)) (l.map f)↔Fits edits l:=by
 induction edits with
 | nil=>rfl
 | cons e edits ih=>
  rw [map_cons,Fits,Fits,ih,←map_applyEdits,length_map]
  rfl

lemma applyEdits_concat(edits:List (Edit α))(e:Edit α)(l:List α):
  applyEdits (edits++[e]) l=applyEdits edits (e.apply l):=by
 simp [applyEdits]

lemma fits_concat(edits:List (Edit α))(e:Edit α)(l:List α):
  Fits (edits++[e]) l↔(e.start≤e.stop∧e.stop≤l.length)∧Fits edits (e.apply l):=by
 induction edits with
 | nil=>simp [Fits]
 | cons d edits ih=>
  rw [cons_append,Fits,Fits,ih,applyEdits_concat]
  tauto

def Ascending (edits:List (Edit α)) : Prop := edits.Pairwise fun a b=>a.start≤b.start

def places (l:List α) : List (α×Option ℕ) := l.zipIdx.map fun x=>(x.1,some x.2)

/-- The edits, with replacements that have no position. -/
def unplaced (edits:List (Edit α)) : List (Edit (α×Option ℕ)) :=
 edits.map (Edit.map fun a=>(a,none))

/-- The elements of the edited list, each with the position that it was copied from. -/
def traced (edits:List (Edit α)) (l:List α) : List (α×Option ℕ) :=
 applyEdits (unplaced edits) (places l)

/-- The positions of the first list whose elements the edited list still has, in its order. -/
def copied (edits:List (Edit α)) (l:List α) : List ℕ := (traced edits l).filterMap Prod.snd

def blank (edits:List (Edit α)) : List (Edit (Option ℕ)) := edits.map (Edit.map fun _=>none)

def positions (n:ℕ) : List (Option ℕ) := (List.range n).map some

lemma places_fst(l:List α):(places l).map Prod.fst=l:=by simp [places,Function.comp_def]

lemma places_snd(l:List α):(places l).map Prod.snd=positions l.length:=by
 unfold places
 rw [List.map_map]
 change l.zipIdx.map (some ∘ Prod.snd)=(List.range l.length).map some
 rw [←List.map_map,zipIdx_map_snd,range_eq_range']

lemma unplaced_fst(edits:List (Edit α)):(unplaced edits).map (Edit.map Prod.fst)=edits:=by
 simp [unplaced,Edit.map,Function.comp_def]

lemma unplaced_snd(edits:List (Edit α)): (unplaced edits).map (Edit.map Prod.snd)=blank edits:=by
 simp [unplaced,blank,Edit.map,Function.comp_def]

lemma traced_fst(edits:List (Edit α))(l:List α):
  (traced edits l).map Prod.fst=applyEdits edits l:=by
 rw [traced,map_applyEdits,unplaced_fst,places_fst]

lemma copied_eq(edits:List (Edit α))(l:List α):
  copied edits l=(applyEdits (blank edits) (positions l.length)).filterMap id:=by
 rw [←places_snd,←unplaced_snd,←map_applyEdits,filterMap_map]
 rfl

/-- How far the edits move an element that stays. -/
def shift (edits:List (Edit α)) (p:ℕ) : ℤ :=
 (edits.map fun e=>if e.start≤p then (e.replacement.length:ℤ)-((e.stop:ℤ)-e.start) else 0).sum

/-- Each edit that starts at or before the element ends before the place it was moved to. -/
def Survives : List (Edit α)→ℕ→Prop
 | [], _=>True
 | e::edits, p=>Survives edits p∧(e.start≤p→(e.stop:ℤ)≤p+shift edits p)

lemma shift_cons(e:Edit α)(edits:List (Edit α))(p:ℕ):shift (e::edits) p =
   (if e.start≤p then (e.replacement.length:ℤ)-((e.stop:ℤ)-e.start) else 0) + shift edits p:=by
 simp [shift]

variable {edits:List (Edit α)}

lemma shift_of_lt{p:ℕ}(h:∀e∈edits,p<e.start):shift edits p=0:=by
 induction edits with
 | nil=>rfl
 | cons e edits ih=>
  have hstart:¬e.start≤p:=Nat.not_le.mpr (h e mem_cons_self)
  rw [shift_cons,if_neg hstart,ih fun d hd=>h d (mem_cons_of_mem _ hd),add_zero]

lemma le_shifted{p b:ℕ}(hsorted:Ascending edits)(hbound:∀e∈edits,b≤e.start)(hp:b≤p)
  (h:Survives edits p):(b:ℤ)≤p+shift edits p:=by
 cases edits with
 | nil=>
  rw [shift,map_nil,sum_nil]
  omega
 | cons e edits=>
  have hrest:=(pairwise_cons.mp hsorted).1
  have hstart:=hbound e mem_cons_self
  rw [shift_cons]
  by_cases hle:e.start≤p
  · have hstop:=h.2 hle
    rw [if_pos hle]
    omega
  · rw [if_neg hle,shift_of_lt fun d hd=>by have:=hrest d hd;omega]
    omega

variable {l:List α}

lemma getElem?_apply{e:Edit α}(hle:e.start≤e.stop)(hlen:e.stop≤l.length)(i:ℕ):
  (e.apply l)[i]?=if i<e.start then l[i]?
   else if i<e.start+e.replacement.length then e.replacement[i-e.start]?
   else l[i-(e.start+e.replacement.length)+e.stop]?:=by
 have htake:(l.take e.start).length=e.start:=by
  rw [length_take]
  omega
 unfold Edit.apply
 rw [List.getElem?_append,length_append,htake]
 by_cases h₁:i<e.start
 · rw [if_pos (by omega),if_pos h₁,List.getElem?_append,htake,if_pos h₁,List.getElem?_take_of_lt h₁]
 · rw [if_neg h₁]
   by_cases h₂:i<e.start+e.replacement.length
   · rw [if_pos h₂,if_pos h₂,List.getElem?_append,htake,if_neg h₁]
   · rw [if_neg h₂,if_neg h₂,List.getElem?_drop,Nat.add_comm]

lemma getElem?_positions(n i p:ℕ):(positions n)[i]?=some (some p)↔p<n∧i=p:=by
 unfold positions
 rw [List.getElem?_map]
 by_cases hi:i<n
 · rw [List.getElem?_range hi]
   simp only [map_some,Option.some.injEq]
   omega
 · rw [List.getElem?_eq_none (by rw [length_range];omega)]
   simp only [map_none,reduceCtorEq,false_iff]
   omega

lemma getElem?_edited{n:ℕ}(hsorted:Ascending edits)(hfits:Fits (blank edits) (positions n))(i p:ℕ):
  (applyEdits (blank edits) (positions n))[i]?=some (some p) ↔
   p<n∧Survives edits p∧(i:ℤ)=p+shift edits p:=by
 induction edits generalizing i p with
 | nil=>
  rw [blank,map_nil,applyEdits_nil,getElem?_positions]
  simp [Survives,shift]
 | cons e edits ih=>
  obtain ⟨hfirst,hrest⟩:=pairwise_cons.mp hsorted
  obtain ⟨hfits,hle,hlen⟩:=hfits
  have ih:=ih hrest hfits
  have hbelow:p<e.start→shift edits p=0:=fun hp=>shift_of_lt fun d hd=>by have:=hfirst d hd;omega
  have habove:e.start≤p→Survives edits p→(e.start:ℤ)≤p+shift edits p:=
   fun hp h=>le_shifted hrest (fun d hd=>hfirst d hd) hp h
  have hget:(applyEdits (blank (e::edits)) (positions n))[i]? =
    if i<e.start then (applyEdits (blank edits) (positions n))[i]?
    else if i<e.start+e.replacement.length then
     (e.replacement.map fun _=>(none:Option ℕ))[i-e.start]?
    else (applyEdits (blank edits) (positions n))[i-(e.start+e.replacement.length) + e.stop]? := by
   have h:=getElem?_apply (e:=e.map fun _=>(none:Option ℕ)) hle hlen i
   simp only [Edit.map,length_map] at h
   exact h
  have hnone:(e.replacement.map fun _=>(none:Option ℕ))[i-e.start]?≠some (some p):=by
   rw [List.getElem?_map]
   cases e.replacement[i-e.start]? <;>simp
  replace hle:e.start≤e.stop:=hle
  rw [hget,shift_cons,Survives]
  by_cases hp:e.start≤p
  · have habove:=habove hp
    rw [if_pos hp]
    split
    · rw [ih]
      constructor
      · rintro ⟨-,hs,hi⟩
        have hright:=habove hs
        omega
      · rintro ⟨-,⟨-,hstop⟩,hi⟩
        have hright:=hstop hp
        omega
    · split
      · refine iff_of_false hnone ?_
        rintro ⟨-,⟨-,hstop⟩,hi⟩
        have hright:=hstop hp
        omega
      · rw [ih]
        constructor
        · rintro ⟨hn,hs,hi⟩
          exact ⟨hn,⟨hs,fun _=>by omega⟩,by omega⟩
        · rintro ⟨hn,⟨hs,hstop⟩,hi⟩
          have hright:=hstop hp
          exact ⟨hn,hs,by omega⟩
  · have hbelow:=hbelow (by omega)
    rw [if_neg hp,hbelow]
    split
    · rw [ih,hbelow]
      constructor
      · rintro ⟨hn,hs,hi⟩
        exact ⟨hn,⟨hs,fun h=>absurd h hp⟩,by omega⟩
      · rintro ⟨hn,⟨hs,-⟩,hi⟩
        exact ⟨hn,hs,by omega⟩
    · split
      · refine iff_of_false hnone ?_
        rintro ⟨-,-,hi⟩
        omega
      · rw [ih,hbelow]
        constructor
        · rintro ⟨-,-,hi⟩
          omega
        · rintro ⟨-,-,hi⟩
          omega

lemma fits_blank(h:Fits edits l):Fits (blank edits) (positions l.length):=by
 have hunplaced:Fits (unplaced edits) (places l):=by
  rw [←fits_map_iff Prod.fst,unplaced_fst,places_fst]
  exact h
 rw [←unplaced_snd,←places_snd,fits_map_iff]
 exact hunplaced

lemma mem_copied(hsorted:Ascending edits)(hfits:Fits edits l)(p:ℕ):
  p∈copied edits l↔p<l.length∧Survives edits p:=by
 have hblank:=fits_blank hfits
 rw [copied_eq,mem_filterMap]
 constructor
 · rintro ⟨x,hx,rfl⟩
   obtain ⟨i,hi⟩:=mem_iff_getElem?.mp hx
   obtain ⟨hp,hs,-⟩:=(getElem?_edited hsorted hblank i p).mp hi
   exact ⟨hp,hs⟩
 · rintro ⟨hp,hs⟩
   have hplace:(0:ℤ)≤p+shift edits p:=
    le_shifted hsorted (fun e _=>Nat.zero_le e.start) (Nat.zero_le p) hs
   refine ⟨some p,mem_iff_getElem?.mpr ⟨(p+shift edits p).toNat,?_⟩,rfl⟩
   exact (getElem?_edited hsorted hblank _ p).mpr ⟨hp,hs,by omega⟩

lemma filterMap_blank_apply{e:Edit (Option ℕ)}(hle:e.start≤e.stop)
  (hblank:e.replacement.filterMap id=[])(l:List (Option ℕ)):
  ((e.apply l).filterMap id).Sublist (l.filterMap id):=by
 rw [Edit.apply,filterMap_append,filterMap_append,hblank,append_nil,←filterMap_append]
 apply List.Sublist.filterMap
 conv_rhs=>rw [←take_append_drop e.start l]
 exact (List.Sublist.refl _).append (drop_sublist_drop_left l hle)

lemma copied_sublist(hfits:Fits edits l):(copied edits l).Sublist (List.range l.length):=by
 have hblank:=fits_blank hfits
 rw [copied_eq]
 induction edits with
 | nil=>simp [blank,positions]
 | cons e edits ih=>
  refine (filterMap_blank_apply hblank.2.1 ?_ _).trans (ih hfits.1 hblank.1)
  simp [Edit.map]

lemma copied_pairwise(hfits:Fits edits l):(copied edits l).Pairwise (· < ·):=
 List.Pairwise.sublist (copied_sublist hfits) pairwise_lt_range

/-- The position lies in none of the ranges. -/
def outside (edits:List (Edit α)) (p:ℕ) : Bool :=
 edits.all fun e => !(decide (e.start≤p)&&decide (p<e.stop))

lemma outside_iff(edits:List (Edit α))(p:ℕ):
  outside edits p=true ↔ ∀e∈edits,¬(e.start≤p∧p<e.stop):=by
 unfold outside
 rw [List.all_eq_true]
 apply forall₂_congr
 intro e _
 rw [←Bool.decide_and,←decide_not,decide_eq_true_iff]

/-- Exactly the elements outside of the ranges are kept, if and only if the edits move no
element over the end of a range. -/
lemma copied_outside_iff(hsorted:Ascending edits)(hfits:Fits edits l):
  ((∀p∈copied edits l,outside edits p=true) ∧
    ((List.range l.length).filter (outside edits)).Sublist (copied edits l)) ↔
   ∀p<l.length,(outside edits p=true↔Survives edits p):=by
 constructor
 · rintro ⟨hremoved,hkept⟩ p hp
   constructor
   · intro hout
     have hmem:p∈(List.range l.length).filter (outside edits):=
      mem_filter.mpr ⟨mem_range.mpr hp,hout⟩
     exact ((mem_copied hsorted hfits p).mp (hkept.subset hmem)).2
   · intro hs
     exact hremoved p ((mem_copied hsorted hfits p).mpr ⟨hp,hs⟩)
 · intro h
   constructor
   · intro p hp
     obtain ⟨hlt,hs⟩:=(mem_copied hsorted hfits p).mp hp
     exact (h p hlt).mpr hs
   · have hfiltered:((List.range l.length).filter (outside edits)).Pairwise (· < ·):=
      pairwise_lt_range.filter _
     apply sublist_of_subperm_of_sortedLE
     · apply subperm_of_subset (hfiltered.imp Nat.ne_of_lt)
       intro p hp
       obtain ⟨hrange,hout⟩:=mem_filter.mp hp
       have hlt:=mem_range.mp hrange
       exact (mem_copied hsorted hfits p).mpr ⟨hlt,(h p hlt).mp hout⟩
     · exact (hfiltered.imp Nat.le_of_lt).sortedLE
     · exact ((copied_pairwise hfits).imp Nat.le_of_lt).sortedLE

def Apart (edits:List (Edit α)) : Prop := edits.Pairwise fun a b=>a.stop≤b.start

def replacing (l:List α) : ℕ→List (Edit α)→List α
 | position, []=>l.drop position
 | position, e::edits=>(l.take e.start).drop position++e.replacement++replacing l e.stop edits

section
variable (hapart:Apart edits) (hranges:∀e∈edits,e.start≤e.stop∧e.stop≤l.length)
include hapart hranges

lemma applyEdits_apart{position:ℕ}(hposition:∀e∈edits,position≤e.start):
  (applyEdits edits l).take position=l.take position ∧
   (applyEdits edits l).drop position=replacing l position edits:=by
 induction edits generalizing position with
 | nil=>exact ⟨rfl,rfl⟩
 | cons e edits ih=>
  obtain ⟨hnext,hapart⟩:=pairwise_cons.mp hapart
  obtain ⟨hle,hlen⟩:=hranges e mem_cons_self
  have hstart:=hposition e mem_cons_self
  obtain ⟨htake,hdrop⟩:=ih hapart (fun d hd=>hranges d (mem_cons_of_mem _ hd)) hnext
  have hbefore:(applyEdits edits l).take e.start=l.take e.start:=by
   rw [←Nat.min_eq_left hle,←take_take,htake,take_take]
  have hlength:position≤(l.take e.start).length:=by
   rw [length_take]
   omega
  rw [applyEdits_cons,Edit.apply,hbefore,hdrop,replacing]
  constructor
  · rw [append_assoc,take_append_of_le_length hlength,take_take,Nat.min_eq_left hstart]
  · rw [append_assoc,drop_append_of_le_length hlength,append_assoc]

lemma applyEdits_eq_replacing:applyEdits edits l=replacing l 0 edits:=
 (applyEdits_apart hapart hranges fun e _=>Nat.zero_le e.start).2

lemma fits_of_apart:Fits edits l:=by
 induction edits with
 | nil=>trivial
 | cons e edits ih=>
  obtain ⟨hnext,hapart⟩:=pairwise_cons.mp hapart
  obtain ⟨hle,hlen⟩:=hranges e mem_cons_self
  have hrest:∀d∈edits,d.start≤d.stop∧d.stop≤l.length:=fun d hd=>hranges d (mem_cons_of_mem _ hd)
  refine ⟨ih hapart hrest,hle,?_⟩
  have htake:=congrArg List.length (applyEdits_apart hapart hrest hnext).1
  rw [length_take,length_take] at htake
  omega

end

lemma ranges_of_fits(hapart:Apart edits)(hfits:Fits edits l):
  ∀e∈edits,e.start≤e.stop∧e.stop≤l.length:=by
 induction edits with
 | nil=>exact fun _ h=>by cases h
 | cons e edits ih=>
  obtain ⟨hnext,hapart⟩:=pairwise_cons.mp hapart
  have hrest:=ih hapart hfits.1
  refine forall_mem_cons.mpr ⟨⟨hfits.2.1,?_⟩,hrest⟩
  cases edits with
  | nil=>exact hfits.2.2
  | cons d edits=>
   have hd:=hrest d mem_cons_self
   have hed:=hnext d mem_cons_self
   omega

lemma survives_iff_outside(hapart:Apart edits)(hranges:∀e∈edits,e.start≤e.stop)(p:ℕ):
  Survives edits p↔outside edits p=true:=by
 induction edits with
 | nil=>exact iff_of_true trivial rfl
 | cons e edits ih=>
  obtain ⟨hnext,hrest⟩:=pairwise_cons.mp hapart
  have hle:=hranges e mem_cons_self
  have hbelow:∀d∈edits,d.start≤d.stop:=fun d hd=>hranges d (mem_cons_of_mem _ hd)
  have hsorted:Ascending edits:=by
   refine List.Pairwise.imp_of_mem (fun {a b} ha _ hab=>?_) hrest
   exact (hbelow a ha).trans hab
  rw [outside_iff,forall_mem_cons,←outside_iff,Survives,ih hrest hbelow,and_comm]
  apply and_congr_left
  intro hout
  constructor
  · rintro hmoved ⟨hstart,hstop⟩
    have hplace:=hmoved hstart
    rw [shift_of_lt fun d hd=>by have:=hnext d hd;omega] at hplace
    omega
  · intro hnot hstart
    exact le_shifted hsorted hnext (by omega) ((ih hrest hbelow).mpr hout)
end
end GraphBlocks.RangeEdits
