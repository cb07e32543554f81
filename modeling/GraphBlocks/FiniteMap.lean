import Mathlib.Data.List.AList
import Mathlib.Algebra.BigOperators.Group.List.Basic
import Mathlib.Tactic

/-! Key-value tables are Mathlib's `AList` at a constant family. -/
namespace GraphBlocks.FiniteMap
open List

universe u v

abbrev FMap (κ:Type u) (α:Type v) := AList (fun _:κ=>α)

variable {κ:Type u} {α:Type v}

def values (m:FMap κ α) : List α := m.entries.map (fun e=>e.2)

def sumValues (f:α→ℕ) (m:FMap κ α) : ℕ := ((values m).map f).sum

/-- Number of entries whose value satisfies `p`. -/
def countValues (p:α→Bool) (m:FMap κ α) : ℕ := sumValues (fun a=>if p a then 1 else 0) m

def mapValues (f:α→α) (m:FMap κ α) : FMap κ α where
 entries:=m.entries.map (fun e=>⟨e.1,f e.2⟩)
 nodupKeys:=List.NodupKeys.map₂ (fun _=>f) m.entries m.nodupKeys

/-- The keys of the entries whose value satisfies `p`, in table order. -/
def keysWhere (p:α→Bool) (m:FMap κ α) : List κ := (m.entries.filter (fun e=>p e.2)).map Sigma.fst

section
variable [DecidableEq κ]

lemma lookup_mapValues(f:α→α)(m:FMap κ α)(k:κ):(mapValues f m).lookup k=(m.lookup k).map f:=
 dlookup_map₂ (f:=fun _=>f) k

lemma lookup_insert_eq(m:FMap κ α)(k j:κ)(a:α):
  (m.insert k a).lookup j=if j=k then some a else m.lookup j:=by
 by_cases h:j=k
 · subst h
   simp
 · simp [h,AList.lookup_insert_ne h]

lemma lookup_erase_eq(m:FMap κ α)(k j:κ):
  (m.erase k).lookup j=if j=k then none else m.lookup j:=by
 by_cases h:j=k
 · subst h
   simp
 · simp [h,AList.lookup_erase_ne h]

lemma mem_entries_iff(m:FMap κ α)(k:κ)(a:α):(⟨k,a⟩:Σ _:κ,α)∈m.entries↔m.lookup k=some a:=
 (AList.mem_lookup_iff).symm

lemma mem_values_iff(m:FMap κ α)(a:α):a∈values m ↔ ∃k,m.lookup k=some a:=by
 simp only [values,mem_map]
 constructor
 · rintro ⟨⟨k,b⟩,he,rfl⟩
   exact ⟨k,(mem_entries_iff m k b).mp he⟩
 · rintro ⟨k,hk⟩
   exact ⟨⟨k,a⟩,(mem_entries_iff m k a).mpr hk,rfl⟩

lemma mem_keysWhere_iff(p:α→Bool)(m:FMap κ α)(k:κ):
  k∈keysWhere p m ↔ ∃a,m.lookup k=some a∧p a=true:=by
 simp only [keysWhere,mem_map,mem_filter]
 constructor
 · rintro ⟨⟨j,b⟩,⟨he,hp⟩,rfl⟩
   exact ⟨b,(mem_entries_iff m j b).mp he,hp⟩
 · rintro ⟨a,hk,hp⟩
   exact ⟨⟨k,a⟩,⟨(mem_entries_iff m k a).mpr hk,hp⟩,rfl⟩
end

lemma keysWhere_nodup(p:α→Bool)(m:FMap κ α):(keysWhere p m).Nodup:=
 List.Nodup.sublist (filter_sublist.map Sigma.fst) m.nodupKeys

section

lemma sumValues_mapValues(f:α→ℕ)(g:α→α)(m:FMap κ α):
  sumValues f (mapValues g m)=sumValues (fun a=>f (g a)) m:=by
 simp [sumValues,values,mapValues,Function.comp_def]

lemma sumValues_add(f g:α→ℕ)(m:FMap κ α):
  sumValues (fun a=>f a+g a) m=sumValues f m+sumValues g m:=by
 simp [sumValues,sum_map_add]

lemma sumValues_congr [DecidableEq κ](f g:α→ℕ)(m:FMap κ α)
  (h:∀k a,m.lookup k=some a→f a=g a):sumValues f m=sumValues g m:=by
 unfold sumValues
 congr 1
 apply map_congr_left
 intro a ha
 obtain ⟨k,hk⟩:=(mem_values_iff m a).mp ha
 exact h k a hk

@[simp] lemma sumValues_empty(f:α→ℕ):sumValues f (∅:FMap κ α)=0:=rfl

variable [DecidableEq κ]

lemma entries_erase(m:FMap κ α)(k:κ):(m.erase k).entries=m.entries.kerase k:=rfl

lemma sumValues_insert_erase(f:α→ℕ)(m:FMap κ α)(k:κ)(a:α):
  sumValues f (m.insert k a)=f a+sumValues f (m.erase k):=by
 simp [sumValues,values,AList.entries_insert,entries_erase]

lemma erase_of_lookup_none(m:FMap κ α)(k:κ)(h:m.lookup k=none):m.erase k=m:=by
 apply AList.ext
 exact kerase_of_notMem_keys (AList.lookup_eq_none.mp h)

lemma sumValues_erase(f:α→ℕ)(m:FMap κ α)(k:κ)(a:α)(h:m.lookup k=some a):
  sumValues f (m.erase k)+f a=sumValues f m:=by
 have perm:m.entries.Perm ((⟨k,a⟩:Σ _:κ,α)::List.kerase k m.entries):=by
  apply (perm_ext_iff_of_nodup m.nodupKeys.nodup ?_).mpr
  · rintro ⟨j,b⟩
    rw [mem_cons,mem_entries_iff]
    have hj:(⟨j,b⟩:Σ _:κ,α)∈List.kerase k m.entries↔(m.erase k).lookup j=some b:=
     mem_entries_iff (m.erase k) j b
    rw [hj,lookup_erase_eq]
    by_cases hk:j=k
    · subst hk
      simp [h,eq_comm]
    · simp [hk]
  · exact (AList.insert k a m).nodupKeys.nodup
 have hs:=(perm.map (fun e=>f e.2)).sum_eq
 simp only [sumValues,values,entries_erase,map_map,map_cons,sum_cons,Function.comp_def] at hs ⊢
 omega

lemma sumValues_insert_fresh(f:α→ℕ)(m:FMap κ α)(k:κ)(a:α)
  (h:m.lookup k=none):sumValues f (m.insert k a)=f a+sumValues f m:=by
 rw [sumValues_insert_erase,erase_of_lookup_none m k h]

lemma sumValues_insert_bound(f:α→ℕ)(m:FMap κ α)(k:κ)(a b:α)
  (h:m.lookup k=some a):sumValues f (m.insert k b)+f a=sumValues f m+f b:=by
 have he:=sumValues_erase f m k a h
 rw [sumValues_insert_erase]
 omega

lemma le_sumValues(f:α→ℕ)(m:FMap κ α)(k:κ)(a:α)(h:m.lookup k=some a):f a≤ sumValues f m:=by
 have he:=sumValues_erase f m k a h
 omega
end

end GraphBlocks.FiniteMap
