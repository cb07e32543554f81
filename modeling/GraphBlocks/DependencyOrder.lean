import Mathlib.Data.List.Basic
import Mathlib.Logic.Relation
import Mathlib.Tactic

namespace GraphBlocks.DependencyOrder
open List

universe u

variable {κ:Type u} [DecidableEq κ]

/-- The keys not drained yet, each with its open dependencies. -/
abbrev Remaining (κ:Type u) := List (κ×List κ)

def strike (id:κ) (remaining:Remaining κ) : Remaining κ :=
 remaining.map fun e=>(e.1,e.2.filter (· ≠ id))

/-- The keys whose last open dependency is struck. -/
def released (id:κ) (remaining:Remaining κ) : List κ :=
 (remaining.filter fun e=>e.2.contains id&&(e.2.filter (· ≠ id)).isEmpty).map Prod.fst

/-- `while let Some(id) = ready.pop_front()`, with a bound on the number of rounds. -/
def drain : ℕ→Remaining κ→List κ→Remaining κ×List κ
 | 0, remaining, ready=>(remaining,ready)
 | _+1, remaining, []=>(remaining,[])
 | rounds+1, remaining, id::ready=>
  if remaining.any fun e=>e.1==id then
   let rest:=remaining.filter fun e=>e.1 != id
   drain rounds (strike id rest) (ready++released id rest)
  else drain rounds remaining ready

def openCount (remaining:Remaining κ) : ℕ := remaining.countP fun e => !e.2.isEmpty

omit [DecidableEq κ] in
lemma openCount_filter_le(p:κ×List κ→Bool)(remaining:Remaining κ):
  openCount (remaining.filter p)≤openCount remaining:=
 List.Sublist.countP_le filter_sublist

lemma openCount_strike(id:κ)(remaining:Remaining κ):
  openCount (strike id remaining)+(released id remaining).length=openCount remaining:=by
 induction remaining with
 | nil=>rfl
 | cons e remaining ih=>
  obtain ⟨key,deps⟩:=e
  simp only [openCount,strike,released,map_cons,countP_cons,filter_cons,length_map] at ih ⊢
  by_cases hopen:(deps.filter (· ≠ id)).isEmpty=true
  · by_cases hmem:deps.contains id=true
    · have hne:deps.isEmpty=false:=by
       cases deps with
       | nil=>simp at hmem
       | cons _ _=>rfl
      simp only [hopen,hmem,hne,Bool.not_true,Bool.not_false,Bool.and_self,if_true,
       length_cons] at ih ⊢
      simp only [Bool.false_eq_true,if_false]
      omega
    · have hempty:deps.isEmpty=true:=by
       rw [List.isEmpty_iff,filter_eq_nil_iff] at hopen
       rw [List.isEmpty_iff,eq_nil_iff_forall_not_mem]
       intro d hd
       have heq:d=id:=by simpa using hopen d hd
       exact hmem (by simpa [heq] using hd)
      simp only [hopen,hmem,hempty,Bool.not_true,Bool.false_and,Bool.false_eq_true,if_false] at ih ⊢
      omega
  · have hne:deps.isEmpty=false:=by
     cases deps with
     | nil=>exact absurd rfl hopen
     | cons _ _=>rfl
    simp only [hopen,hne,Bool.not_false,Bool.and_false,Bool.false_eq_true,if_false,if_true] at ih ⊢
    omega

variable {remaining:Remaining κ} {ready:List κ}

lemma drain_queue_empty{rounds:ℕ}(h:ready.length+openCount remaining≤rounds):
  (drain rounds remaining ready).2=[]:=by
 induction rounds generalizing remaining ready with
 | zero=>
  have hnil:ready=[]:=eq_nil_of_length_eq_zero (by omega)
  rw [hnil]
  rfl
 | succ rounds ih=>
  cases ready with
  | nil=>rfl
  | cons id ready=>
   rw [length_cons] at h
   rw [drain]
   split
   · apply ih
     have hstrike:=openCount_strike id (remaining.filter fun e=>e.1 != id)
     have hle:=openCount_filter_le (fun e=>e.1 != id) remaining
     rw [length_append]
     omega
   · apply ih
     omega

/-- `order` lists keys so that the dependencies of each stand before it. -/
def Ordered (deps:κ→List κ) (order:List κ) : Prop :=
 ∀id∈order,∀d∈deps id,order.idxOf d<order.idxOf id

variable {deps:κ→List κ} {order:List κ} {id:κ}

lemma Ordered.concat(h:Ordered deps order)(hid:id∉order)
  (hdeps:∀d∈deps id,d∈order):Ordered deps (order++[id]):=by
 intro k hk d hd
 rcases mem_append.mp hk with hk|hk
 · have hlt:=h k hk d hd
   have hd':d∈order:=idxOf_lt_length_iff.mp (hlt.trans (idxOf_lt_length_iff.mpr hk))
   rwa [idxOf_append_of_mem hd',idxOf_append_of_mem hk]
 · obtain rfl:=mem_singleton.mp hk
   have hd':=hdeps d hd
   rw [idxOf_append_of_mem hd',idxOf_append_of_notMem hid]
   have hlt:=idxOf_lt_length_iff.mpr hd'
   omega

/-- What holds between two rounds, for the keys drained so far. -/
structure Draining (deps:κ→List κ) (keys:List κ) (order:List κ) (remaining:Remaining κ)
  (ready:List κ) : Prop where
 ordered:Ordered deps order
 nodup:(order++remaining.map Prod.fst).Nodup
 covered:∀id,id∈order++remaining.map Prod.fst↔id∈keys
 closed:∀e∈remaining,∀d∈deps e.1,d∈e.2∨d∈order
 ready:∀id∈ready,∀e∈remaining,e.1=id→e.2=[]

lemma keys_strike(id:κ)(remaining:Remaining κ):
  (strike id remaining).map Prod.fst=remaining.map Prod.fst:=by
 simp [strike]

lemma perm_of_removed(hnodup:(remaining.map Prod.fst).Nodup)(hid:id∈remaining.map Prod.fst):
  (id::(remaining.filter fun e=>e.1 != id).map Prod.fst).Perm (remaining.map Prod.fst):=by
 have hfilter:(remaining.filter fun e=>e.1 != id).map Prod.fst =
   (remaining.map Prod.fst).filter (· != id):=by
  rw [filter_map]
  rfl
 rw [hfilter,←List.Nodup.erase_eq_filter hnodup id]
 exact (perm_cons_erase hid).symm

variable {keys:List κ}

lemma Draining.round(h:Draining deps keys order remaining (id::ready))
  (hid:id∈remaining.map Prod.fst):
  Draining deps keys (order++[id]) (strike id (remaining.filter fun e=>e.1 != id))
   (ready++released id (remaining.filter fun e=>e.1 != id)):=by
 have hnodup:=nodup_append.mp h.nodup
 have hperm:=perm_of_removed hnodup.2.1 hid
 have hkeys:(order++[id]++(strike id (remaining.filter fun e=>e.1 != id)).map
   Prod.fst).Perm (order++remaining.map Prod.fst):=by
  rw [keys_strike,append_assoc]
  exact hperm.append_left order
 have hnew:id∉order:=fun hmem=>hnodup.2.2 id hmem id hid rfl
 constructor
 · apply h.ordered.concat hnew
   obtain ⟨e,he,rfl⟩:=mem_map.mp hid
   have hempty:=h.ready e.1 mem_cons_self e he rfl
   intro d hd
   rcases h.closed e he d hd with hopen|hdone
   · rw [hempty] at hopen
     cases hopen
   · exact hdone
 · exact hkeys.nodup_iff.mpr h.nodup
 · intro k
   rw [hkeys.mem_iff]
   exact h.covered k
 · intro e he d hd
   obtain ⟨e',he',rfl⟩:=mem_map.mp he
   have hmem:=(mem_filter.mp he').1
   rcases h.closed e' hmem d hd with hopen|hdone
   · by_cases hstruck:d=id
     · exact .inr (by simp [hstruck])
     · exact .inl (by simpa [hstruck] using hopen)
   · exact .inr (mem_append_left _ hdone)
 · intro k hk e he hek
   obtain ⟨e',he',rfl⟩:=mem_map.mp he
   have hmem:=(mem_filter.mp he').1
   rcases mem_append.mp hk with hk|hk
   · have hempty:=h.ready k (mem_cons_of_mem _ hk) e' hmem hek
     simp [hempty]
   · obtain ⟨r,hr,hrk⟩:=mem_map.mp hk
     obtain ⟨hrmem,hreleased⟩:=mem_filter.mp hr
     have hsame:r=e':=
      inj_on_of_nodup_map hnodup.2.1 (mem_filter.mp hrmem).1 hmem (hrk.trans hek.symm)
     rw [Bool.and_eq_true,List.isEmpty_iff] at hreleased
     rw [←hsame]
     exact hreleased.2

lemma Draining.skip(h:Draining deps keys order remaining (id::ready)):
  Draining deps keys order remaining ready:=
 { h with ready:=fun k hk=>h.ready k (mem_cons_of_mem _ hk) }

lemma drain_ordered{rounds:ℕ}(h:Draining deps keys order remaining ready)
  (hdrained:(drain rounds remaining ready).1=[]):
  ∃order : List κ,Ordered deps order∧order.Nodup∧∀id,id∈order↔id∈keys:=by
 have hend:∀{order:List κ} {ready:List κ},Draining deps keys order [] ready →
   ∃order:List κ,Ordered deps order∧order.Nodup∧∀id,id∈order↔id∈keys:=by
  intro order ready hd
  refine ⟨order,hd.ordered,?_,?_⟩
  · simpa using hd.nodup
  · simpa using hd.covered
 induction rounds generalizing order remaining ready with
 | zero=>
  rw [drain] at hdrained
  subst hdrained
  exact hend h
 | succ rounds ih=>
  cases ready with
  | nil=>
   rw [drain] at hdrained
   subst hdrained
   exact hend h
  | cons id ready=>
   rw [drain] at hdrained
   split at hdrained
   · next hany=>
     have hid:id∈remaining.map Prod.fst:=by
      obtain ⟨e,he,hkey⟩:=any_eq_true.mp hany
      exact mem_map.mpr ⟨e,he,by simpa using hkey⟩
     exact ih (h.round hid) hdrained
   · exact ih h.skip hdrained

/-- What keeps a key from being drained: a dependency not drained either, or a place in the queue. -/
structure Waiting (deps:κ→List κ) (remaining:Remaining κ) (ready:List κ) : Prop where
 blocked:∀e∈remaining,∀d∈e.2,d∈deps e.1∧d∈remaining.map Prod.fst
 queued:∀e∈remaining,e.2=[]→e.1∈ready

lemma drain_waiting(rounds:ℕ)(h:Waiting deps remaining ready):
  Waiting deps (drain rounds remaining ready).1 (drain rounds remaining ready).2:=by
 induction rounds generalizing remaining ready with
 | zero=>exact h
 | succ rounds ih=>
  cases ready with
  | nil=>exact h
  | cons id ready=>
   rw [drain]
   split
   · apply ih
     constructor
     · intro e he d hd
       obtain ⟨e',he',rfl⟩:=mem_map.mp he
       obtain ⟨hopen,hne⟩:=mem_filter.mp hd
       obtain ⟨hdep,hmem⟩:=h.blocked e' (mem_filter.mp he').1 d hopen
       obtain ⟨f,hf,rfl⟩:=mem_map.mp hmem
       rw [keys_strike]
       exact ⟨hdep,mem_map_of_mem (mem_filter.mpr ⟨hf,by simpa using hne⟩)⟩
     · intro e he hnil
       obtain ⟨⟨key,waits⟩,hkept,rfl⟩:=mem_map.mp he
       obtain ⟨hmem,hne⟩:=mem_filter.mp hkept
       rw [mem_append]
       cases waits with
       | nil=>exact .inl ((mem_cons.mp (h.queued _ hmem rfl)).resolve_left (by simpa using hne))
       | cons d rest=>
        have hd:d=id:=by simpa using filter_eq_nil_iff.mp hnil d mem_cons_self
        refine .inr (mem_map.mpr ⟨_,mem_filter.mpr ⟨hkept,?_⟩,rfl⟩)
        simpa [hd] using hnil
   · next hany=>
     refine ih ⟨h.blocked,fun e he hnil=>(mem_cons.mp (h.queued e he hnil)).resolve_left ?_⟩
     rintro rfl
     exact hany (any_eq_true.mpr ⟨e,he,beq_self_eq_true _⟩)

/-- The search for `target` among the transitive dependencies of a key, to a depth. -/
def reaches (deps:κ→List κ) : ℕ→κ→κ→Bool
 | 0, _, _=>false
 | depth+1, id, target=>(deps id).any fun d=>d==target||reaches deps depth d target

abbrev Dependent (deps:κ→List κ) : κ→κ→Prop := Relation.TransGen fun id d=>d∈deps id

omit [DecidableEq κ] in
/-- A finite set of keys that each depend on one of them holds a cycle below each. -/
lemma cycle_of_stuck(hstuck:∀k∈keys,∃d∈deps k,d∈keys)(hid:id∈keys):
  ∃c,Relation.ReflTransGen (fun k d=>d∈deps k) id c∧Dependent deps c c:=by
 by_contra hnone
 let below:={k//k∈keys∧Relation.ReflTransGen (fun k d=>d∈deps k) id k}
 have:Finite below:=(keys.finite_toSet.subset fun _ hk=>hk.1).to_subtype
 let needs:below→below→Prop:=fun d k=>Dependent deps k.1 d.1
 have:IsTrans below needs:=⟨fun _ _ _ hab hbc=>hbc.trans hab⟩
 have:Std.Irrefl needs:=⟨fun k hk=>hnone ⟨k.1,k.2.2,hk⟩⟩
 obtain ⟨m,-,hmin⟩:=(Finite.wellFounded_of_trans_of_irrefl needs).has_min Set.univ
  ⟨⟨id,hid,.refl⟩,trivial⟩
 obtain ⟨d,hd,hmem⟩:=hstuck m.1 m.2.1
 exact hmin ⟨d,hmem,m.2.2.tail hd⟩ trivial (.single hd)

lemma dependent_of_reaches{depth:ℕ}{target:κ}(h:reaches deps depth id target=true):
  Dependent deps id target:=by
 induction depth generalizing id with
 | zero=>cases h
 | succ depth ih=>
  rw [reaches,any_eq_true] at h
  obtain ⟨d,hd,hfound⟩:=h
  rw [Bool.or_eq_true,beq_iff_eq] at hfound
  rcases hfound with rfl|hfound
  · exact .single hd
  · exact .head hd (ih hfound)

lemma reaches_iff{rank:κ→ℕ}(hrank:∀id,∀d∈deps id,rank d<rank id){depth:ℕ}{target:κ}
  (hdepth:rank id<depth):reaches deps depth id target=true↔Dependent deps id target:=by
 refine ⟨dependent_of_reaches,?_⟩
 induction depth generalizing id with
 | zero=>omega
 | succ depth ih=>
  intro h
  rw [reaches,any_eq_true]
  rcases Relation.TransGen.head'_iff.mp h with ⟨d,hd,hrest⟩
  refine ⟨d,hd,?_⟩
  rw [Bool.or_eq_true,beq_iff_eq]
  rcases hrest.cases_head with rfl|⟨c,hc,hreach⟩
  · exact .inl rfl
  · have hlt:=hrank id d hd
    exact .inr (ih (by omega) (Relation.TransGen.head' hc hreach))

omit [DecidableEq κ] in
lemma exists_minimal{rank:κ→ℕ}(hrank:∀id,∀d∈deps id,rank d<rank id){p:κ→Prop}
  (h:p id):∃first,p first∧∀d∈deps first,¬p d:=by
 obtain ⟨n,hn⟩:∃n,rank id=n:=⟨_,rfl⟩
 induction n using Nat.strong_induction_on generalizing id with
 | _ n ih=>
  by_cases hmin:∀d∈deps id,¬p d
  · exact ⟨id,h,hmin⟩
  · simp only [not_forall,not_not] at hmin
    obtain ⟨d,hd,hp⟩:=hmin
    have hlt:=hrank id d hd
    exact ih (rank d) (by omega) hp rfl

end GraphBlocks.DependencyOrder
