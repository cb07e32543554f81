import GraphBlocks.ToolExecutionModel

/-! What the checks of `ToolExecutionPlan::new` establish: dependencies are calls of the plan and
form no cycle, and calls that change state cannot run side by side without distinct effect keys. -/
namespace GraphBlocks.ToolExecution
open Std Json DependencyOrder OrderedMap RustStd List Option Std.ExtTreeMap

def effectKeyOf (calls:Calls) (toolCallId:String) : Option String :=
 calls[toolCallId]?.bind ToolPlanCall.effectKey

/-- Two calls of which one waits for the other, or whose effect keys differ. -/
def Separated (calls:Calls) (left right:String×ToolPlanCall) : Prop :=
 hasStateChangingToolEffects left.2.effects=true→hasStateChangingToolEffects right.2.effects=true →
   Dependent (dependencies calls) left.1 right.1∨Dependent (dependencies calls) right.1 left.1 ∨
    (left.2.effectKey.isSome=true∧right.2.effectKey.isSome=true∧left.2.effectKey≠right.2.effectKey)

/-- The calls of an accepted plan. -/
structure Sound (calls:Calls) (maximumParallelism:ℕ) : Prop where
 positive:0< maximumParallelism
 known:∀id,∀d∈dependencies calls id,∃planned,calls[d]?=some planned
 ordered:∃order : List String,Ordered (dependencies calls) order∧order.Nodup ∧
  ∀id,id∈order ↔ ∃planned,calls[id]?=some planned
 separated:1< maximumParallelism → ∀a∈calls.toList,∀b∈calls.toList,a≠b→Separated calls a b

variable {id:String} {calls:Calls}

lemma dependencies_of_call{planned:ToolPlanCall}
  (h:calls[id]?=some planned):dependencies calls id=planned.call.dependsOn:=by
 rw [dependencies,h]
 rfl

lemma dependencies_of_unknown(h:calls[id]?=none):dependencies calls id=[]:=by
 rw [dependencies,h]
 rfl

section
variable {d:StringDisplay} {sha256:List Char→String} {responseId:String} {index result:Calls×States}

lemma indexCall_ok{planned:ToolPlanCall}(h:indexCall d sha256 responseId index planned=.ok result):
  result=(index.1.insert planned.call.toolCallId planned,
   index.2.insert planned.call.toolCallId .pending):=by
 simp only [indexCall,bind_ok] at h
 obtain ⟨_,_,_,_,_,_,_,_,_,_,h⟩:=h
 cases h
 rfl

def AllPending (index:Calls×States) : Prop :=
 ∀id : String,index.2[id]?=index.1[id]?.map fun _=>ToolExecutionState.pending

lemma indexCalls_pending{calls:List ToolPlanCall}(hindex:AllPending index)
  (h:indexCalls d sha256 responseId index calls=.ok result):AllPending result:=by
 induction calls generalizing index with
 | nil=>
  cases h
  exact hindex
 | cons planned calls ih=>
  simp only [indexCalls,bind_ok] at h
  obtain ⟨next,hnext,h⟩:=h
  refine ih ?_ h
  rw [indexCall_ok hnext]
  intro id
  simp only [lookup_insert]
  by_cases hid:planned.call.toolCallId=id
  · simp [hid]
  · simp [hid,hindex id]
end

lemma checkDependencies_ok{seen deps:List String}
  (h:checkDependencies calls id seen deps=.ok ()):∀d∈deps,∃planned,calls[d]?=some planned:=by
 induction deps generalizing seen with
 | nil=>simp
 | cons first deps ih=>
  simp only [checkDependencies,bind_ok,ensure_ok] at h
  obtain ⟨_,_,_,hknown,h⟩:=h
  intro d hd
  rcases mem_cons.mp hd with rfl|hd
  · exact (contains_iff calls).mp hknown
  · exact ih h d hd

variable {l:List (String×ToolPlanCall)}

lemma checkAllDependencies_ok(h:checkAllDependencies calls l=.ok ()):
  ∀e∈l,∀d∈e.2.call.dependsOn,∃planned,calls[d]?=some planned:=by
 induction l with
 | nil=>simp
 | cons first l ih=>
  simp only [checkAllDependencies,bind_ok] at h
  obtain ⟨_,hfirst,h⟩:=h
  intro e he
  rcases mem_cons.mp he with rfl|he
  · exact checkDependencies_ok hfirst
  · exact ih h e he

lemma checkAllDependencies_known(h:checkAllDependencies calls calls.toList=.ok ())
  (id:String):∀d∈dependencies calls id,∃planned,calls[d]?=some planned:=by
 intro d hd
 cases hid:calls[id]? with
 | none=>
  rw [dependencies_of_unknown hid] at hd
  cases hd
 | some planned=>
  rw [dependencies_of_call hid] at hd
  exact checkAllDependencies_ok h (id,planned)
   (mem_toList_iff_getElem?_eq_some.mpr hid) d hd

/-- The table that the cycle check starts from. -/
def openDependencies (calls:Calls) : Remaining String :=
 calls.toList.map fun e=>(e.1,e.2.call.dependsOn)

lemma keys_openDependencies(calls:Calls):
  (openDependencies calls).map Prod.fst=calls.toList.map Prod.fst:=by
 rw [openDependencies,List.map_map]
 rfl

lemma mem_keys_iff:id∈calls.toList.map Prod.fst ↔ ∃planned,calls[id]?=some planned:=by
 constructor
 · intro h
   obtain ⟨⟨key,planned⟩,he,rfl⟩:=List.mem_map.mp h
   exact ⟨planned,mem_toList_iff_getElem?_eq_some.mp he⟩
 · rintro ⟨planned,h⟩
   exact List.mem_map.mpr ⟨(id,planned),mem_toList_iff_getElem?_eq_some.mpr h,rfl⟩

lemma draining_start(calls:Calls):
  Draining (dependencies calls) (calls.toList.map Prod.fst) [] (openDependencies calls)
   (((openDependencies calls).filter fun e=>e.2.isEmpty).map Prod.fst):=by
 have hnodup:=nodup_keys_toList calls
 constructor
 · simp [Ordered]
 · rw [nil_append,keys_openDependencies]
   exact hnodup
 · intro id
   rw [nil_append,keys_openDependencies]
 · intro e he d hd
   obtain ⟨entry,hentry,rfl⟩:=List.mem_map.mp he
   rw [dependencies_of_call (mem_toList_iff_getElem?_eq_some.mp hentry)] at hd
   exact .inl hd
 · intro id hid e he hkey
   obtain ⟨r,hr,hrid⟩:=List.mem_map.mp hid
   obtain ⟨hrmem,hempty⟩:=List.mem_filter.mp hr
   have hsame:r=e:=by
    rw [←keys_openDependencies] at hnodup
    exact inj_on_of_nodup_map hnodup hrmem he (hrid.trans hkey.symm)
   rw [←hsame]
   exact List.isEmpty_iff.mp hempty

lemma checkAcyclic_ok(h:checkAcyclic calls=.ok ()):
  ∃order : List String,Ordered (dependencies calls) order∧order.Nodup ∧
   ∀id,id∈order ↔ ∃planned,calls[id]?=some planned:=by
 have hdrained:remainingDependencies calls=[]:=by
  cases hremaining:remainingDependencies calls with
  | nil=>rfl
  | cons e rest=>
   rw [checkAcyclic,hremaining] at h
   cases h
 obtain ⟨order,hordered,hnodup,hmem⟩:=drain_ordered (draining_start calls) hdrained
 refine ⟨order,hordered,hnodup,?_⟩
 intro id
 rw [hmem,mem_keys_iff]

lemma acyclic_queue_empty(calls:Calls):(drain calls.size (openDependencies calls)
   (((openDependencies calls).filter fun e=>e.2.isEmpty).map Prod.fst)).2=[]:=by
 apply drain_queue_empty
 rw [openCount,length_map,←countP_eq_length_filter]
 have hsplit:=length_eq_countP_add_countP (fun e:String×List String=>e.2.isEmpty)
  (l:=openDependencies calls)
 have hlength:(openDependencies calls).length=calls.size:=by
  rw [openDependencies,length_map,ExtTreeMap.length_toList]
 simp only [Bool.not_eq_true] at hsplit
 have hopen:(openDependencies calls).countP (fun e => !e.2.isEmpty) =
   (openDependencies calls).countP fun e=>decide (e.2.isEmpty=false):=by
  congr 1
  funext e
  cases e.2.isEmpty <;>rfl
 omega

lemma remaining_waits(h:checkAllDependencies calls calls.toList=.ok ()):
  Waiting (dependencies calls) (remainingDependencies calls) []:=by
 have hstart:Waiting (dependencies calls) (openDependencies calls)
   (((openDependencies calls).filter fun e=>e.2.isEmpty).map Prod.fst):=by
  constructor
  · intro e he d hd
    obtain ⟨⟨id,planned⟩,hmem,rfl⟩:=List.mem_map.mp he
    have hid:=mem_toList_iff_getElem?_eq_some.mp hmem
    rw [keys_openDependencies,mem_keys_iff,dependencies_of_call hid]
    exact ⟨hd,checkAllDependencies_ok h _ hmem d hd⟩
  · intro e he hnil
    exact mem_map_of_mem (List.mem_filter.mpr ⟨he,List.isEmpty_iff.mpr hnil⟩)
 have hend:=drain_waiting calls.size hstart
 rwa [acyclic_queue_empty] at hend

section
variable {calls:Calls} {maximumParallelism:ℕ} (h:Sound calls maximumParallelism)
include h

lemma Sound.ranked:∃rank : String→ℕ,(∀id,∀d∈dependencies calls id,rank d<rank id) ∧
   ∀id planned,calls[id]?=some planned→ rank id<calls.size:=by
 obtain ⟨order,hordered,hnodup,hmem⟩:=h.ordered
 refine ⟨order.idxOf,?_,?_⟩
 · intro id d hd
   cases hid:calls[id]? with
   | none=>
    rw [dependencies_of_unknown hid] at hd
    cases hd
   | some planned=>exact hordered id ((hmem id).mpr ⟨planned,hid⟩) d hd
 · intro id planned hid
   have hlt:=idxOf_lt_length_iff.mpr ((hmem id).mpr ⟨planned,hid⟩)
   have hperm:order.Perm (calls.toList.map Prod.fst):=by
    rw [perm_ext_iff_of_nodup hnodup (nodup_keys_toList calls)]
    intro k
    rw [hmem,mem_keys_iff]
   have hlength:=hperm.length_eq
   rw [length_map,ExtTreeMap.length_toList] at hlength
   exact hlt.trans_eq hlength

lemma dependsOn_iff(a b:String):dependsOn calls a b=true↔Dependent (dependencies calls) a b:=by
 obtain ⟨rank,hrank,hbound⟩:=h.ranked
 cases ha:calls[a]? with
 | some planned=>exact reaches_iff hrank (hbound a planned ha)
 | none=>
  refine ⟨dependent_of_reaches,?_⟩
  intro hdep
  rcases Relation.TransGen.head'_iff.mp hdep with ⟨d,hd,_⟩
  rw [dependencies_of_unknown ha] at hd
  cases hd
end

lemma checkAgainst_ok{leftId:String}{left:ToolPlanCall}
  (h:checkAgainst calls leftId left l=.ok ()):∀e∈l,Separated calls (leftId,left) e:=by
 induction l with
 | nil=>simp
 | cons first l ih=>
  obtain ⟨rightId,right⟩:=first
  rw [checkAgainst] at h
  intro e he
  rcases mem_cons.mp he with rfl|he
  · intro _ hright
    rw [if_neg (by simpa using hright)] at h
    split at h
    · next hdep=>
      rcases (Bool.or_eq_true _ _).mp hdep with hdep|hdep
      · exact .inl (dependent_of_reaches hdep)
      · exact .inr (.inl (dependent_of_reaches hdep))
    · split_ifs at h with h1 h2 h3
      refine .inr (.inr ⟨?_,?_,h3⟩)
      · simpa [isSome_iff_ne_none] using h1
      · simpa [isSome_iff_ne_none] using h2
  · split_ifs at h with h1 h2 h3 h4 h5
    · exact ih h e he
    · exact ih h e he
    · exact ih h e he

lemma checkParallelEffects_ok(h:checkParallelEffects calls l=.ok ()):
  l.Pairwise (Separated calls):=by
 induction l with
 | nil=>exact .nil
 | cons first l ih=>
  obtain ⟨leftId,left⟩:=first
  rw [checkParallelEffects] at h
  split at h
  · next hleft=>
    refine .cons ?_ (ih h)
    intro e _ hchanging
    simp [hchanging] at hleft
  · simp only [bind_ok] at h
    obtain ⟨_,hagainst,h⟩:=h
    exact .cons (checkAgainst_ok hagainst) (ih h)

instance (calls:Calls) : Symm (Separated calls) := by
 constructor
 intro a b h hb ha
 rcases h ha hb with hdep|hdep|⟨hasome,hbsome,hne⟩
 · exact .inr (.inl hdep)
 · exact .inl hdep
 · exact .inr (.inr ⟨hbsome,hasome,hne.symm⟩)

lemma new_ok{d:StringDisplay}{sha256:List Char→String}{planId responseId:String}
  {calls:List ToolPlanCall}{maximumParallelism:ℕ}{plan:ToolExecutionPlan}
  (h:ToolExecutionPlan.new d sha256 planId responseId calls maximumParallelism=.ok plan):
  plan.maximumParallelism=maximumParallelism ∧
   Sound plan.calls plan.maximumParallelism∧AllPending (plan.calls,plan.states):=by
 simp only [ToolExecutionPlan.new,bind_ok,ensure_ok] at h
 obtain ⟨_,_,_,hpositive,⟨indexed,states⟩,hindex,_,hdeps,_,hacyclic,h⟩:=h
 have hpending:AllPending (indexed,states):=by
  refine indexCalls_pending ?_ hindex
  intro id
  simp
 have hseparated:∀{l},checkParallelEffects indexed l=.ok () →
   ∀a∈l,∀b∈l,a≠b→Separated indexed a b:=by
  intro l hl a ha b hb hne
  exact (checkParallelEffects_ok hl).forall ha hb hne
 split at h
 · simp only [bind_ok] at h
   obtain ⟨_,heffects,h⟩:=h
   cases h
   refine ⟨rfl,?_,hpending⟩
   exact ⟨Nat.pos_of_ne_zero (by simpa using hpositive),checkAllDependencies_known hdeps,
    checkAcyclic_ok hacyclic,fun _=>hseparated heffects⟩
 · next hone=>
   cases h
   refine ⟨rfl,?_,hpending⟩
   exact ⟨Nat.pos_of_ne_zero (by simpa using hpositive),checkAllDependencies_known hdeps,
    checkAcyclic_ok hacyclic,fun hlt=>absurd hlt hone⟩

end GraphBlocks.ToolExecution
