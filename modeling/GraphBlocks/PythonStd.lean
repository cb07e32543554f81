import GraphBlocks.RustStd
import Mathlib.Data.List.Basic

/-! The parts of Python's `str` and `dict` that the modelled modules use. -/
namespace GraphBlocks.PythonStd
open RustStd List

/-- `str.isspace` of one character. -/
def isSpace (c:Char) : Bool :=
 let n:=c.toNat
 isWhitespace c||(0x1C≤n&&n≤0x1F)

def strip (s:String) : String := String.ofList (trimmed isSpace s.toList)

lemma strip_append {s t : String} (hs : s ≠ "") (hfirst : strip s = s) (ht : t ≠ "")
  (hlast : ∀ c, t.toList.getLast? = some c → isSpace c = false) : strip (s ++ t) = s ++ t :=
 ofList_trimmed_append hs hfirst ht hlast

lemma isSpace_of_isDigit{c:Char}(h:c.isDigit=true):isSpace c=false:=by
 have hw:=isWhitespace_of_isDigit h
 have hr:=DigitStrings.toNat_of_isDigit h
 simp only [isSpace,hw,Bool.false_or,Bool.and_eq_false_iff,decide_eq_false_iff_not]
 omega

/-- A `dict`: its items in insertion order. Assignment to a present key keeps the place. -/
structure Dict (κ ν:Type) [DecidableEq κ] where
 items:List (κ×ν)
 nodup:(items.map Prod.fst).Nodup

namespace Dict

variable {κ ν:Type} [DecidableEq κ]

def empty : Dict κ ν := ⟨[],nodup_nil⟩

def values (d:Dict κ ν) : List ν := d.items.map Prod.snd

def get? (d:Dict κ ν) (key:κ) : Option ν := d.items.lookup key

def assign (items:List (κ×ν)) (key:κ) (value:ν) : List (κ×ν) :=
 if key∈items.map Prod.fst then items.map fun item=>if item.1=key then (key,value) else item
 else items++[(key,value)]

lemma keys_assign(items:List (κ×ν))(key:κ)(value:ν):(assign items key value).map Prod.fst =
   if key∈items.map Prod.fst then items.map Prod.fst else items.map Prod.fst++[key]:=by
 unfold assign
 split
 · rw [map_map]
   apply map_congr_left
   intro item _
   by_cases h:item.1=key
   · simp [h]
   · simp [h]
 · simp

def set (d:Dict κ ν) (key:κ) (value:ν) : Dict κ ν where
 items:=assign d.items key value
 nodup:=by
  rw [keys_assign]
  split
  · exact d.nodup
  · next h=>exact d.nodup.append (nodup_singleton key) (by simpa using h)

/-- `d.pop(key, None)`. -/
def pop (d:Dict κ ν) (key:κ) : Dict κ ν where
 items:=d.items.filter fun item=>item.1≠key
 nodup:=d.nodup.sublist (filter_sublist.map _)

lemma get?_eq_some_iff(d:Dict κ ν)(key:κ)(value:ν):d.get? key=some value↔(key,value)∈d.items:=by
 rw [get?,lookup_eq_some_iff]
 constructor
 · rintro ⟨front,back,hitems,-⟩
   rw [hitems]
   simp
 · intro hmem
   obtain ⟨front,back,hitems⟩:=append_of_mem hmem
   refine ⟨front,back,hitems,?_⟩
   intro item hitem
   have hnodup:=d.nodup
   rw [hitems,map_append,nodup_append] at hnodup
   have hne:item.1≠key:=hnodup.2.2 item.1 (mem_map_of_mem hitem) key (by simp)
   simpa using hne.symm

lemma get?_ext{d e:Dict κ ν}{key:κ}
  (h:∀value,(key,value)∈d.items↔(key,value)∈e.items):d.get? key=e.get? key:=by
 apply Option.ext
 intro value
 rw [get?_eq_some_iff,get?_eq_some_iff]
 exact h value

@[simp] lemma get?_empty(key:κ):(empty:Dict κ ν).get? key=none:=rfl

lemma get?_set(d:Dict κ ν)(key other:κ)(value:ν):
  (d.set key value).get? other=if other=key then some value else d.get? other:=by
 split
 · next h=>
   subst h
   rw [get?_eq_some_iff]
   simp only [set,assign]
   split
   · next hk=>
     obtain ⟨item,hi,rfl⟩:=mem_map.mp hk
     exact mem_map.mpr ⟨item,hi,by simp⟩
   · simp
 · next h=>
   apply get?_ext
   intro v
   simp only [set,assign]
   split
   · rw [mem_map]
     constructor
     · rintro ⟨item,hi,hv⟩
       split at hv
       · cases hv
         exact absurd rfl h
       · rwa [←hv]
     · intro hv
       exact ⟨_,hv,by simp [h]⟩
   · simp [h]

@[simp] lemma get?_set_self(d:Dict κ ν)(key:κ)(value:ν):
  (d.set key value).get? key=some value:=by
 rw [get?_set,if_pos rfl]

lemma get?_pop(d:Dict κ ν)(key other:κ):
  (d.pop key).get? other=if other=key then none else d.get? other:=by
 split
 · next h=>
   subst h
   rw [Option.eq_none_iff_forall_ne_some]
   intro v hv
   rw [get?_eq_some_iff] at hv
   simp [pop] at hv
 · next h=>
   apply get?_ext
   intro v
   simp [pop,h]

def popAll (d:Dict κ ν) (keys:List κ) : Dict κ ν := keys.foldl pop d

lemma items_popAll_sublist(d:Dict κ ν)(keys:List κ):(d.popAll keys).items.Sublist d.items:=by
 induction keys generalizing d with
 | nil=>exact List.Sublist.refl _
 | cons first keys ih=>exact (ih (d.pop first)).trans filter_sublist

lemma items_set_fresh(d:Dict κ ν){key:κ}(value:ν)(h:d.get? key=none):
  (d.set key value).items=d.items++[(key,value)]:=by
 have hfresh:key∉d.items.map Prod.fst:=by
  intro hmem
  obtain ⟨item,hitem,rfl⟩:=mem_map.mp hmem
  rw [(d.get?_eq_some_iff item.1 item.2).mpr hitem] at h
  cases h
 simp only [set,assign,if_neg hfresh]

/-- Assignment to a present key changes no quantity that the old and the new value share. -/
lemma map_items_set{β:Type}(d:Dict κ ν){key:κ}{old value:ν}(f:ν→β)(h:d.get? key=some old)
  (hf:f value=f old):(d.set key value).values.map f=d.values.map f:=by
 have hmem:=(d.get?_eq_some_iff key old).mp h
 simp only [values,set,assign,if_pos (mem_map_of_mem (f:=Prod.fst) hmem),map_map]
 apply map_congr_left
 intro item hitem
 simp only [Function.comp_apply]
 split
 · next hkey=>
   have hitem':d.get? item.1=some item.2:=(d.get?_eq_some_iff _ _).mpr hitem
   rw [hkey,h] at hitem'
   rw [hf,Option.some.inj hitem']
 · rfl

lemma mem_values_iff(d:Dict κ ν)(value:ν):value∈d.values ↔ ∃key,d.get? key=some value:=by
 simp only [values,mem_map,Prod.exists,exists_eq_right,get?_eq_some_iff]

end Dict

end GraphBlocks.PythonStd
