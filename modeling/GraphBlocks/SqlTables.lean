import GraphBlocks.OrderedMap
import GraphBlocks.SqlRows

namespace GraphBlocks.Sql
open Std OrderedMap List

universe u v w

section
variable {κ:Type u} {ρ:Type v} [DecidableEq κ] (key:ρ→κ)

/-- `SELECT .. WHERE key = ?`. -/
def selectKey (rows:List ρ) (k:κ) : Option ρ := rows.find? fun row=>decide (key row=k)

/-- `UPDATE .. SET .. WHERE ..`: the rows after it and the number of rows it matched. -/
def updateWhere (condition:ρ→Bool) (set:ρ→ρ) (rows:List ρ) : List ρ×ℕ :=
 (rows.map fun row=>if condition row then set row else row,rows.countP condition)

/-- `INSERT .. ON CONFLICT(key) DO UPDATE` that sets every other column. -/
def upsert (row:ρ) (rows:List ρ) : List ρ :=
 if rows.any fun r=>decide (key r=key row) then rows.map fun r=>if key r=key row then row else r
 else rows++[row]

variable {key} {rows:List ρ} {row:ρ} {k:κ}

lemma selectKey_key(h:selectKey key rows k=some row):key row=k:=by
 simpa using List.find?_some h

lemma selectKey_eq_none:selectKey key rows k=none ↔ ∀row∈rows,key row≠k:=by simp [selectKey]

lemma selectKey_concat(hfresh:∀r∈rows,key r≠key row)(k:κ):
  selectKey key (rows++[row]) k=if key row=k then some row else selectKey key rows k:=by
 unfold selectKey
 rw [List.find?_append]
 by_cases hk:key row=k
 · have hnone:rows.find? (fun r=>decide (key r=k))=none:=by
    rw [List.find?_eq_none]
    intro r hr
    simpa [←hk] using hfresh r hr
   simp [hk,hnone]
 · simp [hk]

lemma selectKey_map{f:ρ→ρ}(hf:∀row,key (f row)=key row)(k:κ):
  selectKey key (rows.map f) k=(selectKey key rows k).map f:=by
 unfold selectKey
 rw [List.find?_map]
 simp only [Function.comp_def,hf]

omit [DecidableEq κ] in
lemma unique_map{f:ρ→ρ}(hf:∀row,key (f row)=key row):(rows.map f).map key=rows.map key:=by
 simp [hf]

lemma countP_of_unique(hunique:(rows.map key).Nodup)(hrow:selectKey key rows k=some row)
  {condition:ρ→Bool}(honly:∀r,condition r=true→key r=k)(hmatch:condition row=true):
  rows.countP condition=1:=by
 induction rows with
 | nil=>cases hrow
 | cons r rows ih=>
  rw [map_cons,nodup_cons] at hunique
  by_cases hr:key r=k
  · have heq:r=row:=by
     have hfind:selectKey key (r::rows) k=some r:=List.find?_cons_of_pos (by simpa using hr)
     exact Option.some.inj (hfind.symm.trans hrow)
    subst heq
    have hrest:rows.countP condition=0:=by
     rw [countP_eq_zero]
     intro r' hr' hcond
     apply hunique.1
     rw [hr,←honly r' hcond]
     exact mem_map_of_mem hr'
    rw [countP_cons_of_pos hmatch,hrest]
  · have hskip:selectKey key rows k=some row:=by
     rw [←hrow]
     exact (List.find?_cons_of_neg (by simpa using hr)).symm
    have hfalse:¬condition r=true:=fun h=>hr (honly r h)
    rw [countP_cons_of_neg hfalse]
    exact ih hunique.2 hskip

lemma selectKey_upsert(row:ρ)(rows:List ρ)(k:κ):selectKey key (upsert key row rows) k =
   if key row=k then some row else selectKey key rows k:=by
 unfold upsert
 split
 · next hany=>
   rw [selectKey_map (fun r=>by split <;>simp_all)]
   by_cases hk:key row=k
   · subst hk
     cases hselect:selectKey key rows (key row) with
     | none=>
      obtain ⟨r,hr,hkey⟩:=any_eq_true.mp hany
      exact absurd (of_decide_eq_true hkey) (selectKey_eq_none.mp hselect r hr)
     | some r=>simp [selectKey_key hselect]
   · rw [if_neg hk]
     cases hselect:selectKey key rows k with
     | none=>rfl
     | some r=>
      have hne:key r≠key row:=by
       rw [selectKey_key hselect]
       exact fun h=>hk h.symm
      simp [hne]
 · next hany=>
   apply selectKey_concat
   intro r hr hkey
   exact hany (any_eq_true.mpr ⟨r,hr,by simpa using hkey⟩)

omit [DecidableEq κ] in
lemma unique_concat(hunique:(rows.map key).Nodup)
  (hfresh:∀r∈rows,key r≠key row):((rows++[row]).map key).Nodup:=by
 rw [map_append,nodup_append]
 refine ⟨hunique,by simp,?_⟩
 intro a ha b hb
 obtain ⟨r,hr,rfl⟩:=mem_map.mp ha
 obtain rfl:b=key row:=by simpa using hb
 exact hfresh r hr

lemma unique_upsert(row:ρ)(hunique:(rows.map key).Nodup):((upsert key row rows).map key).Nodup:=by
 unfold upsert
 split
 · rw [unique_map (fun r=>by split <;>simp_all)]
   exact hunique
 · next hany=>
   apply unique_concat hunique
   intro r hr hkey
   exact hany (any_eq_true.mpr ⟨r,hr,by simpa using hkey⟩)
end

section
variable {ρ:Type v} {key:ρ→ℤ} {rows:List ρ} {row:ρ}

lemma lt_nextOf(h:row∈rows):key row<nextOf key rows:=by
 unfold nextOf maxOf
 cases hmax:(rows.map key).max? with
 | none=>simp_all
 | some m=>
  have hle:=(List.max?_eq_some_iff.mp hmax).2 (key row) (mem_map_of_mem h)
  simp only [Option.getD_some]
  omega

lemma nextOf_concat(hnext:nextOf key rows≤key row):nextOf key (rows++[row])=key row+1:=by
 have hmax:((rows++[row]).map key).max?=some (key row):=by
  rw [List.max?_eq_some_iff]
  constructor
  · simp
  · intro k hk
    obtain ⟨r,hr,rfl⟩:=mem_map.mp hk
    rcases mem_append.mp hr with hr|hr
    · have hlt:key r<nextOf key rows:=lt_nextOf hr
      omega
    · rw [mem_singleton.mp hr]
 unfold nextOf maxOf
 rw [hmax]
 rfl

lemma nextOf_map{f:ρ→ρ}(hf:∀row,key (f row)=key row): nextOf key (rows.map f)=nextOf key rows:=by
 unfold nextOf maxOf
 rw [unique_map hf]
end

section
variable {ρ:Type v} {α:Type w} {key:ρ→String} {rowOf:α→ρ}

structure Tabulates (key:ρ→String) (rowOf:α→ρ) (rows:List ρ) (m:ExtTreeMap String α) : Prop where
 unique:(rows.map key).Nodup
 select:∀k,selectKey key rows k=m[k]?.map rowOf

variable {rows:List ρ} {m:ExtTreeMap String α}

lemma tabulates_empty : Tabulates key rowOf [] (∅:ExtTreeMap String α) where
 unique:=nodup_nil
 select k:=by simp [selectKey]

lemma Tabulates.insert_fresh(h:Tabulates key rowOf rows m){k:String}{a:α}(hkey:key (rowOf a)=k)
  (hfresh:m[k]?=none):Tabulates key rowOf (rows++[rowOf a]) (m.insert k a):=by
 have hrows:∀r∈rows,key r≠key (rowOf a):=by
  apply selectKey_eq_none.mp
  rw [h.select,hkey,hfresh]
  rfl
 refine ⟨unique_concat h.unique hrows,fun j=>?_⟩
 rw [selectKey_concat hrows,lookup_insert,hkey,h.select]
 split <;>rfl

lemma Tabulates.upsert(h:Tabulates key rowOf rows m){k:String}{a:α}(hkey:key (rowOf a)=k):
  Tabulates key rowOf (upsert key (rowOf a) rows) (m.insert k a):=by
 refine ⟨unique_upsert _ h.unique,fun j=>?_⟩
 rw [selectKey_upsert,lookup_insert,hkey,h.select]
 split <;>rfl

lemma Tabulates.updateWhere(h:Tabulates key rowOf rows m){k:String}{a b:α}(hstored:m[k]?=some a)
  {condition:ρ→Bool}{set:ρ→ρ}(hset:∀r,key (set r)=key r)(honly:∀r,condition r=true→key r=k)
  (hmatch:condition (rowOf a)=true)(hrow:set (rowOf a)=rowOf b):
  (updateWhere condition set rows).2=1 ∧
   Tabulates key rowOf (updateWhere condition set rows).1 (m.insert k b):=by
 have hselect:selectKey key rows k=some (rowOf a):=by rw [h.select,hstored];rfl
 have hf:∀r,key (if condition r then set r else r)=key r:=by
  intro r
  split
  · exact hset r
  · rfl
 refine ⟨countP_of_unique h.unique hselect honly hmatch,?_,fun j=>?_⟩
 · unfold Sql.updateWhere
   rw [unique_map hf]
   exact h.unique
 · unfold Sql.updateWhere
   rw [selectKey_map hf,lookup_insert]
   by_cases hj:k=j
   · subst hj
     simp [hselect,hmatch,hrow]
   · rw [if_neg hj,←h.select]
     cases hother:selectKey key rows j with
     | none=>rfl
     | some r=>
      have hcond:¬condition r=true:=fun hc=>hj ((honly r hc).symm.trans (selectKey_key hother))
      simp [hcond]
end

end GraphBlocks.Sql
