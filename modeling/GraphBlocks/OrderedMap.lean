import Mathlib.Algebra.BigOperators.Group.List.Basic
import Mathlib.Algebra.Order.BigOperators.Group.List
import Mathlib.Tactic

/-! Ordered key-value tables are `Std.ExtTreeMap`s: equal maps have equal entries, and iteration
is in key order. -/
namespace GraphBlocks.OrderedMap
open Std List Option Std.ExtTreeMap

universe u v w

variable {κ:Type u} {α:Type v} {cmp:κ→κ→Ordering} [TransCmp cmp] [LawfulEqCmp cmp] {k:κ}

section
variable [DecidableEq κ] (m:ExtTreeMap κ α cmp)

lemma lookup_insert(k j:κ)(a:α):(m.insert k a)[j]?=if k=j then some a else m[j]?:=by
 rw [ExtTreeMap.getElem?_insert]
 by_cases h:k=j
 · simp [h,LawfulEqCmp.compare_eq_iff_eq]
 · simp [h,LawfulEqCmp.compare_eq_iff_eq]

lemma lookup_insert_self(k:κ)(a:α):(m.insert k a)[k]?=some a:=by rw [lookup_insert,if_pos rfl]

lemma lookup_insert_ne{j:κ}(a:α)(h:k≠j):(m.insert k a)[j]?=m[j]?:=by
 rw [lookup_insert,if_neg h]

lemma insert_lookup{a:α}(h:m[k]?=some a):m.insert k a=m:=by
 apply ExtTreeMap.ext_getElem?
 intro j
 rw [lookup_insert]
 split
 · next hj=>rw [←hj,h]
 · rfl

lemma getD_insert_eq(k j:κ)(a d:α):(m.insert k a).getD j d=if k=j then a else m.getD j d:=by
 rw [getD_eq_getD_getElem?,getD_eq_getD_getElem?,lookup_insert]
 split <;>rfl

omit [LawfulEqCmp cmp] [DecidableEq κ] in
lemma contains_iff:m.contains k=true ↔ ∃a,m[k]?=some a:=by
 rw [contains_eq_isSome_getElem?,isSome_iff_exists]

omit [LawfulEqCmp cmp] [DecidableEq κ] in
lemma contains_eq_false_iff:m.contains k=false↔m[k]?=none:=by
 rw [contains_eq_isSome_getElem?,isSome_eq_false_iff,isNone_iff_eq_none]
end

lemma nodup_toList(m:ExtTreeMap κ α cmp):m.toList.Nodup:=by
 refine List.Pairwise.imp ?_ m.distinct_keys_toList
 intro a b h hab
 exact h (by rw [hab];exact ReflCmp.compare_self)

lemma nodup_keys_toList(m:ExtTreeMap κ α cmp):(m.toList.map Prod.fst).Nodup:=by
 rw [nodup_iff_pairwise_ne,pairwise_map]
 refine List.Pairwise.imp ?_ m.distinct_keys_toList
 intro a b h hab
 exact h (by rw [hab];exact ReflCmp.compare_self)

lemma lookup_ofList_nodup{l:List (κ×α)}(hl:(l.map Prod.fst).Nodup)
  (k:κ)(v:α):(ExtTreeMap.ofList l cmp)[k]?=some v↔(k,v)∈l:=by
 classical
 have hpair:l.Pairwise fun a b=>¬cmp a.1 b.1=.eq:=by
  rw [nodup_iff_pairwise_ne,pairwise_map] at hl
  exact hl.imp fun hne heq=>hne (LawfulEqCmp.eq_of_compare heq)
 constructor
 · intro h
   by_cases hk:k∈l.map Prod.fst
   · obtain ⟨⟨k',v'⟩,hmem,rfl⟩:=List.mem_map.mp hk
     have hlookup:(ExtTreeMap.ofList l cmp)[k']?=some v':=
      ExtTreeMap.getElem?_ofList_of_mem ReflCmp.compare_self hpair hmem
     rw [hlookup] at h
     cases h
     exact hmem
   · rw [ExtTreeMap.getElem?_ofList_of_contains_eq_false (by simpa using hk)] at h
     cases h
 · exact ExtTreeMap.getElem?_ofList_of_mem ReflCmp.compare_self hpair

lemma ofList_toList(m:ExtTreeMap κ α cmp):ExtTreeMap.ofList m.toList cmp=m:=by
 apply ExtTreeMap.ext_getElem?
 intro k
 apply Option.ext
 intro a
 rw [lookup_ofList_nodup (nodup_keys_toList m),mem_toList_iff_getElem?_eq_some]

def comparePair {ι:Type v} [Ord κ] [Ord ι] : κ×ι→κ×ι→Ordering :=
 compareLex (compareOn Prod.fst) (compareOn Prod.snd)

instance {ι:Type v} [Ord κ] [Ord ι] [TransOrd κ] [TransOrd ι] :
  TransCmp (comparePair (κ:=κ) (ι:=ι)) :=
 inferInstanceAs (TransCmp (compareLex (compareOn Prod.fst) (compareOn Prod.snd)))

instance {ι:Type v} [Ord κ] [Ord ι] [LawfulEqOrd κ] [LawfulEqOrd ι] :
  LawfulEqCmp (comparePair (κ:=κ) (ι:=ι)) where
 compare_self:=by
  intro a
  simp [comparePair,compareLex,compareOn]
 eq_of_compare:=by
  intro a b h
  simp only [comparePair,compareLex,compareOn,Ordering.then_eq_eq] at h
  exact Prod.ext (LawfulEqCmp.eq_of_compare h.1) (LawfulEqCmp.eq_of_compare h.2)

variable {m:ExtTreeMap κ α cmp}

section
variable {M:Type w} [AddCommMonoid M]

def sumOf (f:κ→α→M) (m:ExtTreeMap κ α cmp) : M := (m.toList.map fun e=>f e.1 e.2).sum

omit [LawfulEqCmp cmp] in
@[simp] lemma sumOf_empty(f:κ→α→M):sumOf f (∅:ExtTreeMap κ α cmp)=0:=by
 have hnil:(∅:ExtTreeMap κ α cmp).toList=[]:=ExtTreeMap.toList_eq_nil_iff.mpr rfl
 rw [sumOf,hnil,map_nil,sum_nil]

omit [LawfulEqCmp cmp] in
lemma sumOf_zero(m:ExtTreeMap κ α cmp):sumOf (fun _ _=>(0:M)) m=0:=by simp [sumOf]

lemma sumOf_congr{f g:κ→α→M}(h:∀k a,m[k]?=some a→f k a=g k a):sumOf f m=sumOf g m:=by
 unfold sumOf
 congr 1
 apply map_congr_left
 rintro ⟨k,a⟩ he
 exact h k a (mem_toList_iff_getElem?_eq_some.mp he)

variable [DecidableEq κ]

lemma toList_insert_perm(a:α)(h:m[k]?=none):(m.insert k a).toList.Perm ((k,a)::m.toList):=by
 have hk:(k,a)∉m.toList:=by
  rw [mem_toList_iff_getElem?_eq_some,h]
  simp
 rw [perm_ext_iff_of_nodup (nodup_toList _) (nodup_cons.mpr ⟨hk,nodup_toList m⟩)]
 rintro ⟨j,b⟩
 rw [mem_toList_iff_getElem?_eq_some,lookup_insert,mem_cons,mem_toList_iff_getElem?_eq_some]
 by_cases hj:k=j
 · subst hj
   simp [h,eq_comm]
 · simp [hj,Ne.symm hj]

lemma sumOf_insert_fresh(f:κ→α→M)(a:α)(h:m[k]?=none):sumOf f (m.insert k a)=f k a+sumOf f m:=by
 have hp:=((toList_insert_perm a h).map fun e=>f e.1 e.2).sum_eq
 simpa [sumOf] using hp

lemma insert_erase_self(m:ExtTreeMap κ α cmp)(k:κ)(a:α):(m.erase k).insert k a=m.insert k a:=by
 apply ExtTreeMap.ext_getElem?
 intro j
 rw [lookup_insert,lookup_insert,ExtTreeMap.getElem?_erase]
 by_cases hj:k=j
 · simp [hj]
 · simp [hj,LawfulEqCmp.compare_eq_iff_eq]

lemma sumOf_erase_bound(f:κ→α→M){a:α}(h:m[k]?=some a):f k a+sumOf f (m.erase k)=sumOf f m:=by
 have hfree:(m.erase k)[k]?=none:=ExtTreeMap.getElem?_erase_self
 have ha:=sumOf_insert_fresh f a hfree
 rw [insert_erase_self,insert_lookup m h] at ha
 exact ha.symm

lemma sumOf_insert_bound(f:κ→α→M){a:α}(b:α)
  (h:m[k]?=some a):sumOf f (m.insert k b)+f k a=sumOf f m+f k b:=by
 have hfree:(m.erase k)[k]?=none:=ExtTreeMap.getElem?_erase_self
 have hb:=sumOf_insert_fresh f b hfree
 have ha:=sumOf_insert_fresh f a hfree
 rw [insert_erase_self] at hb ha
 rw [insert_lookup m h] at ha
 rw [hb,ha]
 abel

lemma sumOf_single(f:α→M)(m:ExtTreeMap κ α cmp)(j:κ):
  sumOf (fun k a=>if k=j then f a else 0) m=(m[j]?.map f).getD 0:=by
 have hrest:sumOf (fun k a=>if k=j then f a else 0) (m.erase j)=0:=by
  refine (sumOf_congr ?_).trans (sumOf_zero (m.erase j))
  intro k a hk
  apply if_neg
  rintro rfl
  rw [ExtTreeMap.getElem?_erase_self] at hk
  cases hk
 cases h:m[j]? with
 | none=>
  have herase:m.erase j=m:=by
   apply ExtTreeMap.ext_getElem?
   intro k
   rw [ExtTreeMap.getElem?_erase]
   split
   · next hk=>rw [←LawfulEqCmp.eq_of_compare hk,h]
   · rfl
  rw [herase] at hrest
  rw [hrest]
  rfl
 | some a=>
  have hfree:(m.erase j)[j]?=none:=ExtTreeMap.getElem?_erase_self
  have hsum:=sumOf_insert_fresh (fun k a=>if k=j then f a else 0) a hfree
  rw [insert_erase_self,insert_lookup m h,hrest] at hsum
  rw [hsum]
  simp
end

lemma sumOf_nonneg{f:κ→α→ℤ}(h:∀k a,m[k]?=some a→0≤f k a):0≤ sumOf f m:=by
 apply sum_nonneg
 intro x hx
 obtain ⟨⟨k,a⟩,he,rfl⟩:=List.mem_map.mp hx
 exact h k a (mem_toList_iff_getElem?_eq_some.mp he)

lemma le_sumOf [DecidableEq κ]{f:κ→α→ℤ}(h:∀k a,m[k]?=some a→0≤f k a)
  {a:α}(hk:m[k]?=some a):f k a≤ sumOf f m:=by
 have hfree:(m.erase k)[k]?=none:=ExtTreeMap.getElem?_erase_self
 have ha:=sumOf_insert_fresh f a hfree
 rw [insert_erase_self,insert_lookup m hk] at ha
 have hrest:0≤ sumOf f (m.erase k):=by
  apply sumOf_nonneg
  intro j b hj
  rw [ExtTreeMap.getElem?_erase] at hj
  split at hj
  · cases hj
  · exact h j b hj
 omega

end GraphBlocks.OrderedMap
